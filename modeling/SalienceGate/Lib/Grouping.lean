import Mathlib.Algebra.GroupWithZero.Nat
import Mathlib.Data.List.Dedup
import Mathlib.Data.List.Induction
import Mathlib.Data.List.Perm.Basic
import Mathlib.Data.List.Sort
import SalienceGate.Lib.Dict

/-!
# Sorting and grouping up to names

A list is put in the order of a key, or its items are grouped by one. Two computations that give their
items different names work on lists that are paired item by item (`Paired`). What they make of these
lists is the same as far as it is seen without the names: sorting leaves no trace of a tie that names
break (`map_sortBy_eq`), and the groups of the one are those of the other (`Paired.groupBy`).
-/

namespace Grouping

variable {α β γ κ ι : Type}

/-! ## Sorting -/

section Sorting

variable [LinearOrder κ] [LinearOrder ι]

/-- The items in the order of their keys. Items with one key stay as they were. -/
def sortBy (key : α → κ) (xs : List α) : List α := xs.insertionSort fun a b => key a ≤ key b

theorem perm_sortBy (key : α → κ) (xs : List α) : (sortBy key xs).Perm xs := List.perm_insertionSort _ xs

theorem length_sortBy (key : α → κ) (xs : List α) : (sortBy key xs).length = xs.length := (perm_sortBy key xs).length_eq

theorem mem_sortBy {key : α → κ} {xs : List α} {a : α} : a ∈ sortBy key xs ↔ a ∈ xs := (perm_sortBy key xs).mem_iff

theorem pairwise_sortBy (key : α → κ) (xs : List α) : (sortBy key xs).Pairwise fun a b => key a ≤ key b := by
  have htotal : Std.Total fun a b => key a ≤ key b := ⟨fun a b => le_total (key a) (key b)⟩
  have htrans : IsTrans α fun a b => key a ≤ key b := ⟨fun _ _ _ => le_trans⟩
  exact List.pairwise_insertionSort _ xs

/-- A sorted list stays as it is. -/
theorem sortBy_sortBy (key : α → κ) (xs : List α) : sortBy key (sortBy key xs) = sortBy key xs :=
  List.Pairwise.insertionSort_eq (pairwise_sortBy key xs)

/-- Sorting takes no notice of the order before it if no two items share a key. -/
theorem sortBy_eq_of_perm {key : α → κ} {xs ys : List α} (hperm : xs.Perm ys)
    (hinj : ∀ a ∈ xs, ∀ b ∈ xs, key a = key b → a = b) : sortBy key xs = sortBy key ys := by
  have hall : (sortBy key xs).Perm (sortBy key ys) :=
    (perm_sortBy key xs).trans (hperm.trans (perm_sortBy key ys).symm)
  refine hall.eq_of_pairwise (fun a b ha hb hle hge => ?_) (pairwise_sortBy key xs)
    (pairwise_sortBy key ys)
  exact hinj a (mem_sortBy.mp ha) b (hperm.mem_iff.mpr (mem_sortBy.mp hb)) (le_antisymm hle hge)

/-- Two sorted lists are seen the same if they hold the same, and the view of what comes first by its key
comes first in an order that is antisymmetric on the views. -/
theorem map_sortBy_eq {key : α → κ} {key' : β → ι} {view : α → γ} {view' : β → γ} {xs : List α} {ys : List β}
    (before : γ → γ → Prop) (hperm : (xs.map view).Perm (ys.map view'))
    (hleft : ∀ a ∈ xs, ∀ b ∈ xs, key a ≤ key b → before (view a) (view b))
    (hright : ∀ a ∈ ys, ∀ b ∈ ys, key' a ≤ key' b → before (view' a) (view' b))
    (hantisymm : ∀ u ∈ xs.map view, ∀ v ∈ xs.map view, before u v → before v u → u = v) :
    (sortBy key xs).map view = (sortBy key' ys).map view' := by
  have hsorted : ((sortBy key xs).map view).Pairwise before := by
    rw [List.pairwise_map]
    refine (pairwise_sortBy key xs).imp_of_mem fun ha hb hle => ?_
    exact hleft _ (mem_sortBy.mp ha) _ (mem_sortBy.mp hb) hle
  have hsorted' : ((sortBy key' ys).map view').Pairwise before := by
    rw [List.pairwise_map]
    refine (pairwise_sortBy key' ys).imp_of_mem fun ha hb hle => ?_
    exact hright _ (mem_sortBy.mp ha) _ (mem_sortBy.mp hb) hle
  have hall : ((sortBy key xs).map view).Perm ((sortBy key' ys).map view') :=
    ((perm_sortBy key xs).map view).trans (hperm.trans ((perm_sortBy key' ys).map view').symm)
  refine hall.eq_of_pairwise (fun u v hu hv => ?_) hsorted hsorted'
  have hmem : u ∈ xs.map view := ((perm_sortBy key xs).map view).mem_iff.mp hu
  have hmem' : v ∈ xs.map view := hperm.mem_iff.mpr (((perm_sortBy key' ys).map view').mem_iff.mp hv)
  exact hantisymm u hmem v hmem'

end Sorting

/-! ## Grouping -/

section Groups

variable [DecidableEq κ]

/-- The items by key, the keys in the order of their first items. -/
def groupBy (key : α → κ) (xs : List α) : Dict κ (List α) :=
  xs.foldl (fun groups a => groups.set (key a) ((groups.get? (key a)).getD [] ++ [a])) .empty

/-- The group of a key has the items with that key, in order. -/
theorem get?_groupBy (key : α → κ) (xs : List α) (k : κ) :
    (groupBy key xs).get? k = if k ∈ xs.map key then some (xs.filter fun a => key a = k) else none := by
  induction xs using List.reverseRecOn with
  | nil => rfl
  | append_singleton xs a ih =>
    have hgroup : (groupBy key (xs ++ [a])).get? k
        = if k = key a then some (((groupBy key xs).get? (key a)).getD [] ++ [a]) else (groupBy key xs).get? k := by
      unfold groupBy
      rw [List.foldl_append]
      exact Dict.get?_set
    rw [hgroup, List.map_append, List.filter_append]
    by_cases hk : k = key a
    · subst hk
      rw [if_pos rfl, if_pos (by simp), ih]
      by_cases hmem : key a ∈ xs.map key
      · rw [if_pos hmem]
        simp
      · have hnone : (xs.filter fun b => key b = key a) = [] :=
          List.filter_eq_nil_iff.mpr fun b hb heq => hmem (List.mem_map.mpr ⟨b, hb, of_decide_eq_true heq⟩)
        rw [if_neg hmem, hnone]
        simp
    · rw [if_neg hk, ih]
      have hother : ([a].filter fun b => key b = k) = [] := by
        rw [List.filter_singleton, decide_eq_false (fun heq => hk heq.symm)]
        rfl
      simp [hother, hk]

theorem mem_keys_groupBy {key : α → κ} {xs : List α} {k : κ} : k ∈ (groupBy key xs).keys ↔ k ∈ xs.map key := by
  rw [← Dict.mem_def, Dict.mem_iff, get?_groupBy]
  by_cases hmem : k ∈ xs.map key
  · simp [hmem]
  · simp [hmem]

theorem items_groupBy (key : α → κ) (xs : List α) :
    (groupBy key xs).items = (groupBy key xs).keys.map fun k => (k, xs.filter fun a => key a = k) := by
  unfold Dict.keys
  rw [List.map_map]
  refine (List.map_id _).symm.trans (List.map_congr_left fun item hitem => ?_)
  have hget := Dict.get?_eq_some.mpr (show (item.1, item.2) ∈ (groupBy key xs).items from hitem)
  rw [get?_groupBy] at hget
  split at hget
  · have hrows := Option.some.inj hget
    show item = (item.1, _)
    rw [hrows]
  · cases hget

/-- Keys without repetition split the items that have them. -/
theorem sum_length_filter {key : α → κ} {keys : List κ} (hnodup : keys.Nodup) {xs : List α}
    (hmem : ∀ a ∈ xs, key a ∈ keys) : (keys.map fun k => (xs.filter fun a => key a = k).length).sum = xs.length := by
  induction xs with
  | nil => simp
  | cons a xs ih =>
    have hcount : ∀ ks : List κ, (ks.map fun k => if key a = k then 1 else 0).sum = ks.count (key a) := by
      intro ks
      induction ks with
      | nil => rfl
      | cons k ks ihks =>
        rw [List.map_cons, List.sum_cons, ihks, List.count_cons, Nat.add_comm]
        by_cases hk : key a = k
        · rw [if_pos hk, hk, if_pos (beq_self_eq_true k)]
        · rw [if_neg hk, if_neg (by simpa using Ne.symm hk)]
    have hone : (keys.map fun k => if key a = k then 1 else 0).sum = 1 := by
      rw [hcount, List.count_eq_one_of_mem hnodup (hmem a List.mem_cons_self)]
    have hsplit : ∀ k, ((a :: xs).filter fun b => key b = k).length
        = (if key a = k then 1 else 0) + (xs.filter fun b => key b = k).length := by
      intro k
      by_cases hk : key a = k
      · rw [List.filter_cons_of_pos (by simpa using hk), List.length_cons, if_pos hk, Nat.add_comm]
      · rw [List.filter_cons_of_neg (by simpa using hk), if_neg hk, Nat.zero_add]
    simp only [hsplit, List.sum_map_add, hone, ih fun b hb => hmem b (List.mem_cons_of_mem _ hb), List.length_cons]
    omega

theorem perm_flatMap_filter (key : α → κ) {keys : List κ} (hnodup : keys.Nodup) (xs : List α) :
    (keys.flatMap fun k => xs.filter fun a => key a = k).Perm (xs.filter fun a => key a ∈ keys) := by
  induction keys with
  | nil => simp
  | cons k ks ih =>
    obtain ⟨hnotin, hrest⟩ := List.nodup_cons.mp hnodup
    have hfirst : (xs.filter fun a => key a ∈ k :: ks).filter (fun a => key a = k)
        = xs.filter fun a => key a = k := by
      rw [List.filter_filter]
      refine List.filter_congr fun a _ => ?_
      by_cases hk : key a = k
      · simp [hk]
      · simp [hk]
    have hothers : (xs.filter fun a => key a ∈ k :: ks).filter (fun a => !decide (key a = k))
        = xs.filter fun a => key a ∈ ks := by
      rw [List.filter_filter]
      refine List.filter_congr fun a _ => ?_
      by_cases hk : key a = k
      · simp [hk, hnotin]
      · simp [hk]
    have hsplit := List.filter_append_perm (fun a => decide (key a = k)) (xs.filter fun a => key a ∈ k :: ks)
    rw [hfirst, hothers] at hsplit
    rw [List.flatMap_cons]
    exact ((ih hrest).append_left _).trans hsplit

/-- The groups hold the items. -/
theorem perm_flatMap_groupBy (key : α → κ) (xs : List α) :
    ((groupBy key xs).items.flatMap Prod.snd).Perm xs := by
  have hkeys := perm_flatMap_filter key (groupBy key xs).nodup_keys xs
  have hall : (xs.filter fun a => key a ∈ (groupBy key xs).keys) = xs := by
    refine List.filter_eq_self.mpr fun a ha => decide_eq_true (mem_keys_groupBy.mpr ?_)
    exact List.mem_map.mpr ⟨a, ha, rfl⟩
  rw [items_groupBy, List.flatMap_map]
  exact hkeys.trans (List.Perm.of_eq hall)

end Groups

/-! ## Paired lists -/

/-- Up to order, the one list has the first and the other the second components of the pairs. -/
structure Paired (pairs : List (α × β)) (xs : List α) (ys : List β) : Prop where
  left : xs.Perm (pairs.map Prod.fst)
  right : ys.Perm (pairs.map Prod.snd)

namespace Paired

variable {pairs : List (α × β)} {xs : List α} {ys : List β}

theorem length_eq (h : Paired pairs xs ys) : xs.length = ys.length := by
  rw [h.left.length_eq, h.right.length_eq, List.length_map, List.length_map]

theorem filter (h : Paired pairs xs ys) {p : α → Bool} {q : β → Bool} (hpq : ∀ z ∈ pairs, p z.1 = q z.2) :
    Paired (pairs.filter fun z => p z.1) (xs.filter p) (ys.filter q) := by
  constructor
  · refine (h.left.filter p).trans (.of_eq ?_)
    rw [List.filter_map]
    rfl
  · refine (h.right.filter q).trans (.of_eq ?_)
    rw [List.filter_map]
    exact congrArg (List.map Prod.snd) (List.filter_congr fun z hz => (hpq z hz).symm)

/-- Views that agree on the pairs see the same. -/
theorem map_perm (h : Paired pairs xs ys) {f : α → γ} {g : β → γ} (hfg : ∀ z ∈ pairs, f z.1 = g z.2) :
    (xs.map f).Perm (ys.map g) := by
  have hmap : (pairs.map Prod.fst).map f = (pairs.map Prod.snd).map g := by
    rw [List.map_map, List.map_map]
    exact List.map_congr_left hfg
  exact (h.left.map f).trans ((List.Perm.of_eq hmap).trans (h.right.map g).symm)

variable [DecidableEq κ] [DecidableEq ι] {key : α → κ} {key' : β → ι}

/-- The pairs of keys, each once. -/
def keyPairs (key : α → κ) (key' : β → ι) (pairs : List (α × β)) : List (κ × ι) :=
  (pairs.map fun z => (key z.1, key' z.2)).dedup

theorem mem_keyPairs {p : κ × ι} : p ∈ keyPairs key key' pairs ↔ ∃ z ∈ pairs, (key z.1, key' z.2) = p := by
  unfold keyPairs
  rw [List.mem_dedup, List.mem_map]

/-- Keys without repetition are the first components of the pairs of keys. -/
theorem perm_keys_left (h : Paired pairs xs ys)
    (hkeys : ∀ z ∈ pairs, ∀ w ∈ pairs, key z.1 = key w.1 → key' z.2 = key' w.2) {keys : List κ} (hnodup : keys.Nodup)
    (hmem : ∀ k, k ∈ keys ↔ k ∈ xs.map key) : keys.Perm ((keyPairs key key' pairs).map Prod.fst) := by
  have hpairs : ((keyPairs key key' pairs).map Prod.fst).Nodup := by
    refine List.Nodup.map_on (fun p hp q hq heq => ?_) (List.nodup_dedup _)
    obtain ⟨z, hz, rfl⟩ := mem_keyPairs.mp hp
    obtain ⟨w, hw, rfl⟩ := mem_keyPairs.mp hq
    exact Prod.ext heq (hkeys z hz w hw heq)
  refine (List.perm_ext_iff_of_nodup hnodup hpairs).mpr fun k => ?_
  rw [hmem k, (h.left.map key).mem_iff, List.map_map, List.mem_map, List.mem_map]
  constructor
  · rintro ⟨z, hz, rfl⟩
    exact ⟨(key z.1, key' z.2), mem_keyPairs.mpr ⟨z, hz, rfl⟩, rfl⟩
  · rintro ⟨p, hp, rfl⟩
    obtain ⟨z, hz, rfl⟩ := mem_keyPairs.mp hp
    exact ⟨z, hz, rfl⟩

theorem swap (h : Paired pairs xs ys) : Paired (pairs.map Prod.swap) ys xs := by
  constructor
  · rw [List.map_map]
    exact h.right
  · rw [List.map_map]
    exact h.left

theorem keyPairs_swap : keyPairs key' key (pairs.map Prod.swap) = (keyPairs key key' pairs).map Prod.swap := by
  unfold keyPairs
  rw [← List.dedup_map_of_injective Prod.swap_injective, List.map_map, List.map_map]
  rfl

/-- Keys without repetition are the second components of the pairs of keys. -/
theorem perm_keys_right (h : Paired pairs xs ys)
    (hkeys : ∀ z ∈ pairs, ∀ w ∈ pairs, key' z.2 = key' w.2 → key z.1 = key w.1) {keys : List ι} (hnodup : keys.Nodup)
    (hmem : ∀ k, k ∈ keys ↔ k ∈ ys.map key') : keys.Perm ((keyPairs key key' pairs).map Prod.snd) := by
  have hswapped : ∀ z ∈ pairs.map Prod.swap, ∀ w ∈ pairs.map Prod.swap, key' z.1 = key' w.1 → key z.2 = key w.2 := by
    intro z hz w hw
    obtain ⟨z', hz', rfl⟩ := List.mem_map.mp hz
    obtain ⟨w', hw', rfl⟩ := List.mem_map.mp hw
    exact hkeys z' hz' w' hw'
  have hperm := h.swap.perm_keys_left hswapped hnodup hmem
  rw [keyPairs_swap, List.map_map] at hperm
  exact hperm

/-- As many keys on the one side as on the other. -/
theorem length_dedup (h : Paired pairs xs ys)
    (hkeys : ∀ z ∈ pairs, ∀ w ∈ pairs, key z.1 = key w.1 ↔ key' z.2 = key' w.2) :
    (xs.map key).dedup.length = (ys.map key').dedup.length := by
  have hleft := h.perm_keys_left (fun z hz w hw => (hkeys z hz w hw).mp) (List.nodup_dedup _) fun k => List.mem_dedup
  have hright := h.perm_keys_right (fun z hz w hw => (hkeys z hz w hw).mpr) (List.nodup_dedup _) fun k => List.mem_dedup
  rw [hleft.length_eq, hright.length_eq, List.length_map, List.length_map]

/-- The groups of the one list are seen as those of the other, if paired groups are seen the same. -/
theorem groupBy (h : Paired pairs xs ys)
    (hkeys : ∀ z ∈ pairs, ∀ w ∈ pairs, key z.1 = key w.1 ↔ key' z.2 = key' w.2)
    {view : κ × List α → γ} {view' : ι × List β → γ}
    (hview : ∀ z ∈ pairs, ∀ rows rows', Paired (pairs.filter fun w => key w.1 = key z.1) rows rows' →
      view (key z.1, rows) = view' (key' z.2, rows')) :
    ((groupBy key xs).items.map view).Perm ((groupBy key' ys).items.map view') := by
  have hleft := h.perm_keys_left (fun z hz w hw => (hkeys z hz w hw).mp) (Grouping.groupBy key xs).nodup_keys
    fun k => mem_keys_groupBy
  have hright := h.perm_keys_right (fun z hz w hw => (hkeys z hz w hw).mpr) (Grouping.groupBy key' ys).nodup_keys
    fun k => mem_keys_groupBy
  rw [items_groupBy, items_groupBy, List.map_map, List.map_map]
  refine (hleft.map _).trans (List.Perm.trans ?_ (hright.map _).symm)
  rw [List.map_map, List.map_map]
  refine .of_eq (List.map_congr_left fun p hp => ?_)
  obtain ⟨z, hz, rfl⟩ := mem_keyPairs.mp hp
  have hrows := h.filter (p := fun a => decide (key a = key z.1)) (q := fun b => decide (key' b = key' z.2))
    fun w hw => decide_eq_decide.mpr (hkeys w hw z hz)
  exact hview z hz _ _ hrows

end Paired

end Grouping
