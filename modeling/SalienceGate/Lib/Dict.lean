import Mathlib.Data.List.Nodup
import Mathlib.Algebra.BigOperators.Group.List.Basic
import Mathlib.Order.Defs.PartialOrder
import Mathlib.Tactic.Abel

/-!
# Insertion-ordered dictionaries

A dictionary that keeps its items in the order of their first insertion, with each key once. `set`
replaces the value of a key that is present in place, and appends a fresh key at the end. The order
is part of the value, so that "stored earlier" is a statement about `items`.

`get?_set` is the rule that proofs about lookups use; `items_set_of_notMem` is the one for proofs
about the order, and `total_set` the one for sums over the values.
-/

/-- A dictionary: its items in insertion order, with distinct keys. -/
structure Dict (κ ν : Type) where
  /-- The items, the first inserted first. -/
  items : List (κ × ν)
  /-- No key occurs twice. -/
  nodup_keys : (items.map Prod.fst).Nodup

namespace Dict

variable {κ ν μ : Type}

instance [DecidableEq κ] [DecidableEq ν] : DecidableEq (Dict κ ν) := fun d e =>
  decidable_of_iff (d.items = e.items)
    ⟨fun h => by cases d; cases e; simp_all, fun h => by rw [h]⟩

/-- The dictionary without items. -/
def empty : Dict κ ν := ⟨[], List.nodup_nil⟩

instance : Inhabited (Dict κ ν) := ⟨empty⟩

/-- The keys, in insertion order. -/
def keys (d : Dict κ ν) : List κ := d.items.map Prod.fst

/-- The values, in insertion order. -/
def values (d : Dict κ ν) : List ν := d.items.map Prod.snd

/-- The number of items. -/
def size (d : Dict κ ν) : ℕ := d.items.length

instance : Membership κ (Dict κ ν) := ⟨fun d k => k ∈ d.keys⟩

theorem mem_def {d : Dict κ ν} {k : κ} : k ∈ d ↔ k ∈ d.keys := Iff.rfl

/-- Two dictionaries with the same items are the same. -/
@[ext] theorem ext {d e : Dict κ ν} (h : d.items = e.items) : d = e := by
  cases d
  cases e
  simp_all

variable [DecidableEq κ]

instance (d : Dict κ ν) (k : κ) : Decidable (k ∈ d) := inferInstanceAs (Decidable (k ∈ d.keys))

/-- The value at a key. -/
def get? (d : Dict κ ν) (k : κ) : Option ν := (d.items.find? fun x => x.1 = k).map Prod.snd

/-- `set` on the items: replace the first item of the key, or append one. -/
def setItems (k : κ) (v : ν) : List (κ × ν) → List (κ × ν)
  | [] => [(k, v)]
  | x :: xs => if x.1 = k then (k, v) :: xs else x :: setItems k v xs

theorem setItems_of_mem {k : κ} {v : ν} {xs : List (κ × ν)} (h : k ∈ xs.map Prod.fst) :
    (setItems k v xs).map Prod.fst = xs.map Prod.fst := by
  induction xs with
  | nil => simp at h
  | cons x xs ih =>
    by_cases hk : x.1 = k
    · simp [setItems, hk]
    · have hxs : k ∈ xs.map Prod.fst := by
        rcases List.mem_cons.mp h with h | h
        · exact absurd h.symm hk
        · exact h
      simp [setItems, hk, ih hxs]

theorem setItems_of_notMem {k : κ} {v : ν} {xs : List (κ × ν)} (h : k ∉ xs.map Prod.fst) :
    setItems k v xs = xs ++ [(k, v)] := by
  induction xs with
  | nil => rfl
  | cons x xs ih =>
    rw [List.map_cons, List.mem_cons, not_or] at h
    simp [setItems, Ne.symm h.1, ih h.2]

/-- Store a value under a key. -/
def set (d : Dict κ ν) (k : κ) (v : ν) : Dict κ ν where
  items := setItems k v d.items
  nodup_keys := by
    by_cases h : k ∈ d.items.map Prod.fst
    · rw [setItems_of_mem h]
      exact d.nodup_keys
    · rw [setItems_of_notMem h, List.map_append, List.nodup_append]
      refine ⟨d.nodup_keys, by simp, ?_⟩
      rintro a ha b hb rfl
      simp only [List.map_cons, List.map_nil, List.mem_singleton] at hb
      exact h (hb ▸ ha)

/-! ## Lookups -/

theorem find?_fst_eq_some {xs : List (κ × ν)} (hnd : (xs.map Prod.fst).Nodup) {k : κ} {v : ν} :
    (xs.find? fun x => x.1 = k).map Prod.snd = some v ↔ (k, v) ∈ xs := by
  induction xs with
  | nil => simp
  | cons x xs ih =>
    rw [List.map_cons, List.nodup_cons] at hnd
    obtain ⟨a, b⟩ := x
    by_cases hk : a = k
    · subst hk
      have hfresh : (a, v) ∉ xs := fun h => hnd.1 (List.mem_map.mpr ⟨(a, v), h, rfl⟩)
      simp [hfresh, eq_comm]
    · have hne : (k, v) ≠ (a, b) := fun h => hk (congrArg Prod.fst h).symm
      rw [List.find?_cons_of_neg (by simpa using hk), ih hnd.2]
      simp [hne]

/-- A lookup finds exactly the items. -/
theorem get?_eq_some {d : Dict κ ν} {k : κ} {v : ν} : d.get? k = some v ↔ (k, v) ∈ d.items :=
  find?_fst_eq_some d.nodup_keys

theorem get?_eq_none {d : Dict κ ν} {k : κ} : d.get? k = none ↔ k ∉ d := by
  rw [mem_def, keys, get?, Option.map_eq_none_iff, List.find?_eq_none]
  constructor
  · intro h hk
    obtain ⟨x, hx, hxk⟩ := List.mem_map.mp hk
    exact h x hx (by simpa using hxk)
  · intro h x hx hxk
    exact h (List.mem_map.mpr ⟨x, hx, by simpa using hxk⟩)

theorem mem_iff {d : Dict κ ν} {k : κ} : k ∈ d ↔ ∃ v, d.get? k = some v := by
  rw [← not_iff_not, ← get?_eq_none, Option.eq_none_iff_forall_ne_some]
  simp

theorem mem_of_get? {d : Dict κ ν} {k : κ} {v : ν} (h : d.get? k = some v) : k ∈ d :=
  mem_iff.mpr ⟨v, h⟩

@[simp] theorem get?_empty (k : κ) : (empty : Dict κ ν).get? k = none := rfl

theorem notMem_empty (k : κ) : k ∉ (empty : Dict κ ν) := get?_eq_none.mp (get?_empty k)

omit [DecidableEq κ] in
theorem mem_values_iff_items {d : Dict κ ν} {v : ν} : v ∈ d.values ↔ ∃ k, (k, v) ∈ d.items := by
  simp [values]

/-- The values are what the lookups find. -/
theorem mem_values {d : Dict κ ν} {v : ν} : v ∈ d.values ↔ ∃ k, d.get? k = some v := by
  simp only [mem_values_iff_items, get?_eq_some]

/-- A lookup after `set`. -/
theorem get?_set {d : Dict κ ν} {k k' : κ} {v : ν} :
    (d.set k v).get? k' = if k' = k then some v else d.get? k' := by
  unfold get? set
  simp only
  induction d.items with
  | nil =>
    by_cases h : k' = k
    · simp [setItems, h]
    · simp [setItems, h, Ne.symm h]
  | cons x xs ih =>
    by_cases hx : x.1 = k
    · by_cases h : k' = k
      · simp [setItems, hx, h]
      · simp [setItems, hx, h, Ne.symm h]
    · by_cases hxk : x.1 = k'
      · have h : k' ≠ k := fun e => hx (hxk.trans e)
        simp [setItems, hxk, h]
      · simpa [setItems, hx, hxk] using ih

@[simp] theorem get?_set_self {d : Dict κ ν} {k : κ} {v : ν} : (d.set k v).get? k = some v := by
  rw [get?_set, if_pos rfl]

theorem get?_set_of_ne {d : Dict κ ν} {k k' : κ} {v : ν} (h : k' ≠ k) :
    (d.set k v).get? k' = d.get? k' := by
  rw [get?_set, if_neg h]

theorem get?_set_eq_some {d : Dict κ ν} {k k' : κ} {v v' : ν} :
    (d.set k v).get? k' = some v' ↔ (k' = k ∧ v' = v) ∨ (k' ≠ k ∧ d.get? k' = some v') := by
  rw [get?_set]
  split <;> simp_all [eq_comm]

theorem mem_set {d : Dict κ ν} {k k' : κ} {v : ν} : k' ∈ d.set k v ↔ k' = k ∨ k' ∈ d := by
  simp only [mem_iff, get?_set]
  split <;> simp_all

/-- A `set` at a fresh key keeps every item that was there. -/
theorem get?_set_of_notMem {d : Dict κ ν} {k k' : κ} {v v' : ν} (hk : k ∉ d)
    (h : d.get? k' = some v') : (d.set k v).get? k' = some v' := by
  rw [get?_set_of_ne, h]
  rintro rfl
  exact hk (mem_of_get? h)

/-- A `set` keeps every key. -/
theorem mem_set_of_mem {d : Dict κ ν} {k k' : κ} {v : ν} (h : k' ∈ d) : k' ∈ d.set k v :=
  mem_set.mpr (Or.inr h)

/-- Every value after a `set` is the new one, or one that was there under another key. -/
theorem mem_values_set {d : Dict κ ν} {k : κ} {v w : ν} :
    w ∈ (d.set k v).values ↔ w = v ∨ ∃ k', k' ≠ k ∧ d.get? k' = some w := by
  simp only [mem_values, get?_set_eq_some]
  constructor
  · rintro ⟨k', ⟨-, h⟩ | ⟨hne, h⟩⟩
    · exact Or.inl h
    · exact Or.inr ⟨k', hne, h⟩
  · rintro (h | ⟨k', hne, h⟩)
    · exact ⟨k, Or.inl ⟨rfl, h⟩⟩
    · exact ⟨k', Or.inr ⟨hne, h⟩⟩

/-! ## Removing -/

/-- The dictionary without a key. -/
def erase (d : Dict κ ν) (k : κ) : Dict κ ν where
  items := d.items.filter fun x => x.1 ≠ k
  nodup_keys := d.nodup_keys.sublist (List.filter_sublist.map Prod.fst)

theorem items_erase (d : Dict κ ν) (k : κ) : (d.erase k).items = d.items.filter fun x => x.1 ≠ k := rfl

theorem get?_erase_eq_some {d : Dict κ ν} {k k' : κ} {v : ν} :
    (d.erase k).get? k' = some v ↔ k' ≠ k ∧ d.get? k' = some v := by
  rw [get?_eq_some, get?_eq_some, items_erase, List.mem_filter]
  simp [and_comm]

theorem get?_erase_of_ne {d : Dict κ ν} {k k' : κ} (h : k' ≠ k) : (d.erase k).get? k' = d.get? k' :=
  Option.ext fun v => by simp [get?_erase_eq_some, h]

@[simp] theorem get?_erase_self {d : Dict κ ν} {k : κ} : (d.erase k).get? k = none :=
  Option.eq_none_iff_forall_ne_some.mpr fun v => by simp [get?_erase_eq_some]

theorem mem_erase {d : Dict κ ν} {k k' : κ} : k' ∈ d.erase k ↔ k' ≠ k ∧ k' ∈ d := by
  simp only [mem_iff, get?_erase_eq_some]
  exact ⟨fun ⟨v, hne, hv⟩ => ⟨hne, v, hv⟩, fun ⟨hne, v, hv⟩ => ⟨v, hne, hv⟩⟩

theorem size_erase_lt {d : Dict κ ν} {k : κ} (h : k ∈ d) : (d.erase k).size < d.size := by
  obtain ⟨v, hv⟩ := mem_iff.mp h
  unfold size
  rw [items_erase]
  exact List.length_filter_lt_length_iff_exists.mpr ⟨(k, v), get?_eq_some.mp hv, by simp⟩

/-! ## Order -/

/-- A fresh key goes to the end. -/
theorem items_set_of_notMem {d : Dict κ ν} {k : κ} {v : ν} (h : k ∉ d) :
    (d.set k v).items = d.items ++ [(k, v)] :=
  setItems_of_notMem h

theorem keys_set_of_mem {d : Dict κ ν} {k : κ} {v : ν} (h : k ∈ d) : (d.set k v).keys = d.keys :=
  setItems_of_mem h

theorem keys_set_of_notMem {d : Dict κ ν} {k : κ} {v : ν} (h : k ∉ d) :
    (d.set k v).keys = d.keys ++ [k] := by
  simp [keys, items_set_of_notMem h]

theorem size_set_of_notMem {d : Dict κ ν} {k : κ} {v : ν} (h : k ∉ d) : (d.set k v).size = d.size + 1 := by
  simp [size, items_set_of_notMem h]

/-- Taking a key away leaves one entry less. -/
theorem size_erase {d : Dict κ ν} {k : κ} (h : k ∈ d) : (d.erase k).size + 1 = d.size := by
  have hitems : ∀ xs : List (κ × ν), (xs.map Prod.fst).Nodup → k ∈ xs.map Prod.fst →
      (xs.filter fun x => x.1 ≠ k).length + 1 = xs.length := by
    intro xs
    induction xs with
    | nil => exact fun _ hmem => absurd hmem (List.not_mem_nil)
    | cons x xs ih =>
      intro hnodup hmem
      rw [List.map_cons, List.nodup_cons] at hnodup
      by_cases hx : x.1 = k
      · subst hx
        have hrest : xs.filter (fun y => decide (y.1 ≠ x.1)) = xs := by
          refine List.filter_eq_self.mpr fun y hy => decide_eq_true fun heq => hnodup.1 ?_
          exact List.mem_map.mpr ⟨y, hy, heq⟩
        rw [List.filter_cons_of_neg (by simp), hrest, List.length_cons]
      · have hmem' : k ∈ xs.map Prod.fst := by
          rcases List.mem_cons.mp hmem with heq | hmem
          · exact absurd heq.symm hx
          · exact hmem
        rw [List.filter_cons_of_pos (by simpa using hx), List.length_cons, List.length_cons, ih hnodup.2 hmem']
  exact hitems d.items d.nodup_keys h

/-- Setting a key that is there leaves as many entries. -/
theorem size_set_of_mem {d : Dict κ ν} {k : κ} {v : ν} (h : k ∈ d) : (d.set k v).size = d.size := by
  have hkeys := congrArg List.length (keys_set_of_mem (v := v) h)
  unfold keys at hkeys
  rw [List.length_map, List.length_map] at hkeys
  exact hkeys

theorem erase_set_empty (k : κ) (v : ν) : (empty.set k v).erase k = empty := by
  apply ext
  rw [items_erase, items_set_of_notMem (notMem_empty k)]
  simp [empty]

theorem set_set_empty (k : κ) (v w : ν) : (empty.set k v).set k w = empty.set k w := by
  apply ext
  simp [set, setItems, empty]

theorem values_set_of_notMem {d : Dict κ ν} {k : κ} {v : ν} (h : k ∉ d) :
    (d.set k v).values = d.values ++ [v] := by
  simp [values, items_set_of_notMem h]

/-- A predicate that only the item of one key satisfies keeps exactly that item. -/
theorem filter_items_eq_singleton {d : Dict κ ν} {k : κ} {v : ν} {p : κ × ν → Bool}
    (hv : d.get? k = some v) (hp : p (k, v) = true)
    (honly : ∀ k' v', d.get? k' = some v' → p (k', v') = true → k' = k) :
    d.items.filter p = [(k, v)] := by
  obtain ⟨pre, post, hitems⟩ := List.append_of_mem (get?_eq_some.mp hv)
  have hnodup := d.nodup_keys
  rw [hitems, List.map_append, List.map_cons, List.nodup_middle, List.nodup_cons,
    List.mem_append, not_or] at hnodup
  obtain ⟨⟨hpre, hpost⟩, -⟩ := hnodup
  -- another item with the predicate would have the same key
  have hnone : ∀ xs : List (κ × ν), k ∉ xs.map Prod.fst → (∀ x ∈ xs, x ∈ d.items) →
      xs.filter p = [] := by
    intro xs hk hxs
    rw [List.filter_eq_nil_iff]
    intro x hx hpx
    have hkey := honly x.1 x.2 (get?_eq_some.mpr (hxs x hx)) hpx
    exact hk (hkey ▸ List.mem_map_of_mem hx)
  rw [hitems, List.filter_append, List.filter_cons_of_pos hp, hnone pre hpre (by simp_all),
    hnone post hpost (by simp_all)]
  rfl

/-- A predicate that only the value of one key satisfies keeps exactly that value. -/
theorem filter_values_eq_singleton {d : Dict κ ν} {k : κ} {v : ν} {p : ν → Bool}
    (hv : d.get? k = some v) (hp : p v = true)
    (honly : ∀ k' v', d.get? k' = some v' → p v' = true → k' = k) : d.values.filter p = [v] := by
  have hitems := filter_items_eq_singleton (p := fun item => p item.2) hv hp honly
  rw [values, List.filter_map]
  exact congrArg (List.map Prod.snd) hitems

/-- A predicate that the value of at most one key satisfies keeps at most one value. -/
theorem length_filter_values_le_one {d : Dict κ ν} {p : ν → Bool}
    (h : ∀ k k' v v', d.get? k = some v → d.get? k' = some v' → p v = true → p v' = true → k' = k) :
    (d.values.filter p).length ≤ 1 := by
  rcases List.eq_nil_or_concat' (d.values.filter p) with hnil | ⟨others, v, hv⟩
  · simp [hnil]
  · obtain ⟨hmem, hp⟩ := List.mem_filter.mp (show v ∈ d.values.filter p by simp [hv])
    obtain ⟨k, hk⟩ := mem_values.mp hmem
    rw [filter_values_eq_singleton hk hp fun k' v' hk' hp' => h k k' v v' hk hk' hp hp']
    rfl

/-- Every item refers only to keys that were inserted before its own. -/
def RefersBack (refers : ν → κ → Prop) (d : Dict κ ν) : Prop :=
  ∀ (n : ℕ) (k : κ) (v : ν) (r : κ), d.items[n]? = some (k, v) → refers v r →
    ∃ m, m < n ∧ ∃ w, d.items[m]? = some (r, w)

omit [DecidableEq κ] in
theorem refersBack_empty {refers : ν → κ → Prop} : RefersBack refers (empty : Dict κ ν) := by
  intro n k v r h
  simp [empty] at h

/-- A fresh item that refers to keys of the dictionary refers back. -/
theorem RefersBack.set {refers : ν → κ → Prop} {d : Dict κ ν} {k : κ} {v : ν}
    (h : RefersBack refers d) (hk : k ∉ d) (hv : ∀ r, refers v r → r ∈ d) :
    RefersBack refers (d.set k v) := by
  intro n k' v' r hn hr
  rw [items_set_of_notMem hk] at hn ⊢
  -- the item found is an old one, or the fresh one at the end
  have hold : ∃ m, m < n ∧ ∃ w, d.items[m]? = some (r, w) := by
    rcases lt_trichotomy n d.items.length with hlt | rfl | hgt
    · rw [List.getElem?_append_left hlt] at hn
      exact h n k' v' r hn hr
    · rw [List.getElem?_append_right le_rfl, Nat.sub_self] at hn
      cases hn
      obtain ⟨w, hw⟩ := mem_iff.mp (hv r hr)
      obtain ⟨m, hm⟩ := List.mem_iff_getElem?.mp (get?_eq_some.mp hw)
      exact ⟨m, (List.getElem?_eq_some_iff.mp hm).1, w, hm⟩
    · rw [List.getElem?_eq_none (by simpa [Nat.succ_le_iff] using hgt)] at hn
      cases hn
  obtain ⟨m, hmn, w, hw⟩ := hold
  exact ⟨m, hmn, w, by rw [List.getElem?_append_left (List.getElem?_eq_some_iff.mp hw).1, hw]⟩

/-- Values that carry their key list the keys. -/
theorem map_values_eq_keys {d : Dict κ ν} {key : ν → κ}
    (h : ∀ k v, d.get? k = some v → key v = k) : d.values.map key = d.keys := by
  rw [values, keys, List.map_map]
  exact List.map_congr_left fun x hx => h x.1 x.2 (get?_eq_some.mpr hx)

/-- Values that carry their key are distinct. -/
theorem nodup_map_values {d : Dict κ ν} {key : ν → κ}
    (h : ∀ k v, d.get? k = some v → key v = k) : (d.values.map key).Nodup :=
  map_values_eq_keys h ▸ d.nodup_keys

/-! ## Sums over the values -/

/-- The sum of `f` over the values. -/
def total [AddCommMonoid μ] (f : ν → μ) (d : Dict κ ν) : μ := (d.values.map f).sum

omit [DecidableEq κ] in
@[simp] theorem total_empty [AddCommMonoid μ] (f : ν → μ) : total f (empty : Dict κ ν) = 0 := rfl

/-- A fresh key adds its value. -/
theorem total_set_of_notMem [AddCommMonoid μ] {f : ν → μ} {d : Dict κ ν} {k : κ} {v : ν}
    (h : k ∉ d) : total f (d.set k v) = total f d + f v := by
  simp [total, values_set_of_notMem h]

theorem sum_setItems [AddCommMonoid μ] {f : ν → μ} {xs : List (κ × ν)} {k : κ} {v old : ν}
    (h : (xs.find? fun x => x.1 = k).map Prod.snd = some old) :
    ((setItems k v xs).map (f ∘ Prod.snd)).sum + f old
      = (xs.map (f ∘ Prod.snd)).sum + f v := by
  induction xs with
  | nil => simp at h
  | cons x xs ih =>
    by_cases hx : x.1 = k
    · have hold : x.2 = old := by simpa [hx] using h
      simp only [setItems, hx, if_true, List.map_cons, List.sum_cons, Function.comp_apply, hold]
      abel
    · rw [List.find?_cons_of_neg (by simpa using hx)] at h
      simp only [setItems, hx, if_false, List.map_cons, List.sum_cons]
      rw [add_assoc, ih h, add_assoc]

/-- Replacing the value of a key replaces its part of the sum. -/
theorem total_set [AddCommMonoid μ] {f : ν → μ} {d : Dict κ ν} {k : κ} {v old : ν}
    (h : d.get? k = some old) : total f (d.set k v) + f old = total f d + f v := by
  simpa [total, values, List.map_map, set] using sum_setItems (f := f) (v := v) h

theorem sum_filter_ne [AddCommMonoid μ] {f : ν → μ} {xs : List (κ × ν)} (hnd : (xs.map Prod.fst).Nodup)
    {k : κ} {v : ν} (h : (k, v) ∈ xs) :
    ((xs.filter fun x => x.1 ≠ k).map (f ∘ Prod.snd)).sum + f v = (xs.map (f ∘ Prod.snd)).sum := by
  induction xs with
  | nil => cases h
  | cons x xs ih =>
    rw [List.map_cons, List.nodup_cons] at hnd
    rw [List.map_cons, List.sum_cons]
    by_cases hx : x.1 = k
    · have hfresh : ∀ y ∈ xs, y.1 ≠ k := fun y hy hk => hnd.1 (hx ▸ hk ▸ List.mem_map_of_mem hy)
      have hxv : x = (k, v) := by
        rcases List.mem_cons.mp h with h | h
        · exact h.symm
        · exact absurd rfl (hfresh _ h)
      have hrest : xs.filter (fun x => x.1 ≠ k) = xs :=
        List.filter_eq_self.mpr fun y hy => by simpa using hfresh y hy
      rw [List.filter_cons_of_neg (by simpa using hx), hrest, hxv, Function.comp_apply, add_comm]
    · have hxs : (k, v) ∈ xs := by
        rcases List.mem_cons.mp h with h | h
        · exact absurd (congrArg Prod.fst h).symm hx
        · exact h
      rw [List.filter_cons_of_pos (by simpa using hx), List.map_cons, List.sum_cons, add_assoc, ih hnd.2 hxs]

/-- Without a key, its part of the sum is gone. -/
theorem total_erase [AddCommMonoid μ] {f : ν → μ} {d : Dict κ ν} {k : κ} {v : ν}
    (h : d.get? k = some v) : total f (d.erase k) + f v = total f d := by
  simpa [total, values, List.map_map, items_erase] using
    sum_filter_ne (f := f) d.nodup_keys (get?_eq_some.mp h)

/-! ## Mapping the values -/

omit [DecidableEq κ] in
theorem map_fst_map (f : ν → μ) (xs : List (κ × ν)) :
    (xs.map fun x => (x.1, f x.2)).map Prod.fst = xs.map Prod.fst := by
  rw [List.map_map]
  rfl

/-- The dictionary with `f` of every value. -/
def mapValues (f : ν → μ) (d : Dict κ ν) : Dict κ μ where
  items := d.items.map fun x => (x.1, f x.2)
  nodup_keys := by
    rw [map_fst_map]
    exact d.nodup_keys

omit [DecidableEq κ] in
@[simp] theorem mapValues_empty (f : ν → μ) : mapValues f (empty : Dict κ ν) = empty := rfl

omit [DecidableEq κ] in
@[simp] theorem mem_mapValues {f : ν → μ} {d : Dict κ ν} {k : κ} : k ∈ d.mapValues f ↔ k ∈ d := by
  rw [mem_def, mem_def, keys, mapValues, map_fst_map]
  rfl

theorem map_setItems (f : ν → μ) (k : κ) (v : ν) (xs : List (κ × ν)) :
    (setItems k v xs).map (fun x => (x.1, f x.2))
      = setItems k (f v) (xs.map fun x => (x.1, f x.2)) := by
  induction xs with
  | nil => rfl
  | cons x xs ih =>
    by_cases hk : x.1 = k
    · simp [setItems, hk]
    · simp [setItems, hk, ih]

/-- Storing a value and mapping stores the mapped value. -/
@[simp] theorem mapValues_set (f : ν → μ) (d : Dict κ ν) (k : κ) (v : ν) :
    (d.set k v).mapValues f = (d.mapValues f).set k (f v) :=
  ext (map_setItems f k v d.items)

@[simp] theorem get?_mapValues (f : ν → μ) (d : Dict κ ν) (k : κ) :
    (d.mapValues f).get? k = (d.get? k).map f := by
  unfold get?
  simp only [mapValues]
  induction d.items with
  | nil => rfl
  | cons x xs ih =>
    by_cases hk : x.1 = k
    · simp [hk]
    · simpa [hk] using ih

/-! ## Building a dictionary -/

/-- A loop that stores what it computes of every item of a dictionary, without the loop over the
items before. -/
theorem foldlM_set_append {ε ρ : Type} {f : κ → ν → Except ε ρ} {seed : ρ → ν} {xs : List (κ × ρ)}
    {d : Dict κ ρ} (hf : ∀ x ∈ xs, f x.1 (seed x.2) = .ok x.2)
    (hnodup : ((d.items ++ xs).map Prod.fst).Nodup) :
    (xs.map fun x => (x.1, seed x.2)).foldlM
        (fun built item => do
          let value ← f item.1 item.2
          pure (built.set item.1 value)) d
      = .ok ⟨d.items ++ xs, hnodup⟩ := by
  induction xs generalizing d with
  | nil =>
    rw [List.map_nil, List.foldlM_nil]
    congr 1
    exact ext (List.append_nil _).symm
  | cons x xs ih =>
    have hfresh : x.1 ∉ d := by
      rw [List.map_append, List.map_cons, List.nodup_middle, List.nodup_cons, List.mem_append,
        not_or] at hnodup
      exact hnodup.1.1
    have hitems : (d.set x.1 x.2).items ++ xs = d.items ++ x :: xs := by
      rw [items_set_of_notMem hfresh, List.append_assoc]
      rfl
    have hnext : (((d.set x.1 x.2).items ++ xs).map Prod.fst).Nodup := by
      rw [hitems]
      exact hnodup
    have hrest := ih (fun y hy => hf y (List.mem_cons_of_mem x hy)) hnext
    rw [List.map_cons, List.foldlM_cons]
    simp only [hf x List.mem_cons_self]
    refine hrest.trans ?_
    congr 1
    exact ext hitems

/-- A dictionary is rebuilt from what a computation of each of its values starts from. -/
theorem foldlM_set_mapValues {ε ρ : Type} {f : κ → ν → Except ε ρ} {seed : ρ → ν} {d : Dict κ ρ}
    (hf : ∀ k v, d.get? k = some v → f k (seed v) = .ok v) :
    (d.mapValues seed).items.foldlM
        (fun built item => do
          let value ← f item.1 item.2
          pure (built.set item.1 value)) empty
      = .ok d :=
  foldlM_set_append (d := empty) (fun x hx => hf x.1 x.2 (get?_eq_some.mpr hx)) d.nodup_keys

/-- A loop that stores what it computes for each of some distinct keys. -/
theorem exists_foldlM_set {ε ρ : Type} {f : κ × ρ → Except ε ν} {g : κ → Option ν}
    {xs : List (κ × ρ)} (hf : ∀ x ∈ xs, ∃ v, f x = .ok v ∧ g x.1 = some v) (d : Dict κ ν) :
    ∃ e, xs.foldlM
        (fun built item => do
          let value ← f item
          pure (built.set item.1 value)) d = .ok e
      ∧ ∀ k, e.get? k = if k ∈ xs.map Prod.fst then g k else d.get? k := by
  induction xs generalizing d with
  | nil => exact ⟨d, rfl, fun k => by simp⟩
  | cons x xs ih =>
    obtain ⟨v, hv, hg⟩ := hf x List.mem_cons_self
    obtain ⟨e, he, hget⟩ := ih (fun y hy => hf y (List.mem_cons_of_mem x hy)) (d.set x.1 v)
    refine ⟨e, ?_, fun k => ?_⟩
    · rw [List.foldlM_cons]
      simp only [hv]
      exact he
    · rw [hget k, List.map_cons]
      by_cases hrest : k ∈ xs.map Prod.fst
      · rw [if_pos hrest, if_pos (List.mem_cons_of_mem _ hrest)]
      · rw [if_neg hrest]
        by_cases hfirst : k = x.1
        · rw [hfirst, get?_set_self, if_pos List.mem_cons_self, hg]
        · rw [get?_set_of_ne hfirst, if_neg (List.not_mem_cons_of_ne_of_not_mem hfirst hrest)]

/-- A loop that updates a function at distinct keys, each to a value that the loop before leaves to be
found. -/
theorem foldlM_update {ε ρ : Type} {f : (κ → ν) → κ × ρ → Except ε (κ → ν)} {g start : κ → ν}
    {xs : List (κ × ρ)} (hf : ∀ x ∈ xs, ∀ built : κ → ν, built x.1 = start x.1 →
      f built x = .ok (Function.update built x.1 (g x.1)))
    (hnodup : (xs.map Prod.fst).Nodup) :
    xs.foldlM f start = .ok fun k => if k ∈ xs.map Prod.fst then g k else start k := by
  induction xs generalizing start with
  | nil => simp [pure, Except.pure]
  | cons x xs ih =>
    obtain ⟨hfirst, hrest⟩ := List.nodup_cons.mp hnodup
    have hround : ∀ y ∈ xs, ∀ built : κ → ν,
        built y.1 = Function.update start x.1 (g x.1) y.1 →
        f built y = .ok (Function.update built y.1 (g y.1)) := by
      intro y hy built hbuilt
      have hne : y.1 ≠ x.1 := fun heq => hfirst (heq ▸ List.mem_map_of_mem hy)
      rw [Function.update_of_ne hne] at hbuilt
      exact hf y (List.mem_cons_of_mem x hy) built hbuilt
    rw [List.foldlM_cons, hf x List.mem_cons_self start rfl]
    refine (ih hround hrest).trans (congrArg Except.ok (funext fun k => ?_))
    rw [List.map_cons]
    by_cases hk : k ∈ xs.map Prod.fst
    · rw [if_pos hk, if_pos (List.mem_cons_of_mem _ hk)]
    · rw [if_neg hk]
      by_cases heq : k = x.1
      · rw [heq, Function.update_self, if_pos List.mem_cons_self]
      · rw [Function.update_of_ne heq, if_neg (List.not_mem_cons_of_ne_of_not_mem heq hk)]

/-! ## Growing dictionaries -/

/-- A dictionary is below another that has each of its keys with the same value. -/
instance : Preorder (Dict κ ν) where
  le d e := ∀ ⦃k v⦄, d.get? k = some v → e.get? k = some v
  le_refl _ _ _ h := h
  le_trans _ _ _ hde hef _ _ h := hef (hde h)

/-- A fresh key leaves the others. -/
theorem le_set_of_notMem {d : Dict κ ν} {k : κ} {v : ν} (h : k ∉ d) : d ≤ d.set k v :=
  fun _ _ hget => get?_set_of_notMem h hget

end Dict
