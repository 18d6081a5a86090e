import SalienceGate.Lib.Dict

/-!
# Stores of numbered revisions

A store that keeps every revision of its values: `history` holds a revision under the identity of
its value and its number, and `latest` the last revision under the identity. A `Lifecycle` says
which revision may be the first of a value, and which may follow which.

`Kept.store` is the step rule: storing an accepted revision keeps the lifecycle. `Kept.induction`,
`Kept.relation` and `Kept.latest_of_last` are the rules for the revisions of one value, and
`countThrough` counts those that satisfy a predicate.
-/

variable {ι ν : Type} [DecidableEq ι]

/-- How the revisions of a value follow each other. -/
structure Lifecycle (ι ν : Type) where
  /-- The identity of the value. -/
  ident : ν → ι
  /-- The number of the revision. -/
  revision : ν → ℕ
  /-- What a first revision satisfies. -/
  start : ν → Prop
  /-- What a revision and the one after it satisfy. -/
  next : ν → ν → Prop

namespace Lifecycle

/-- A revision that may be stored: the first of a new value, or one after the latest. -/
inductive Accepts (c : Lifecycle ι ν) (latest : Dict ι ν) (v : ν) : Prop where
  | first (fresh : latest.get? (c.ident v) = none) (number : c.revision v = 1) (start : c.start v)
  | later (previous : ν) (current : latest.get? (c.ident v) = some previous)
      (number : c.revision v = c.revision previous + 1) (next : c.next previous v)

/-- A store that keeps a lifecycle. -/
structure Kept (c : Lifecycle ι ν) (history : Dict (ι × ℕ) ν) (latest : Dict ι ν) : Prop where
  /-- A revision is stored under its own identity and number. -/
  key : ∀ {i n v}, history.get? (i, n) = some v → c.ident v = i ∧ c.revision v = n
  /-- The latest revision of a value is one of its revisions. -/
  stored : ∀ {i v}, latest.get? i = some v → history.get? (i, c.revision v) = some v
  /-- The revisions of a value are numbered from 1 to the latest. -/
  contiguous : ∀ {i n}, (i, n) ∈ history ↔ ∃ v, latest.get? i = some v ∧ 1 ≤ n ∧ n ≤ c.revision v
  /-- The first revisions are first revisions. -/
  start : ∀ {i v}, history.get? (i, 1) = some v → c.start v
  /-- Each revision follows the one before it. -/
  next : ∀ {i n v w}, history.get? (i, n) = some v → history.get? (i, n + 1) = some w → c.next v w

variable {c : Lifecycle ι ν} {history : Dict (ι × ℕ) ν} {latest : Dict ι ν} {v w : ν} {i : ι}
  {m n : ℕ}

namespace Kept

/-- The empty store keeps every lifecycle. -/
protected theorem empty : c.Kept Dict.empty Dict.empty where
  key h := by simp at h
  stored h := by simp at h
  contiguous := by simp [Dict.notMem_empty]
  start h := by simp at h
  next h := by simp at h

/-- The latest revision is stored under its own identity. -/
theorem ident_latest (h : c.Kept history latest) (hv : latest.get? i = some v) : c.ident v = i :=
  (h.key (h.stored hv)).1

/-- Revisions are numbered from 1. -/
theorem one_le (h : c.Kept history latest) (hv : history.get? (i, n) = some v) : 1 ≤ n := by
  obtain ⟨-, -, hn, -⟩ := h.contiguous.mp (Dict.mem_of_get? hv)
  exact hn

theorem one_le_latest (h : c.Kept history latest) (hv : latest.get? i = some v) :
    1 ≤ c.revision v :=
  h.one_le (h.stored hv)

/-- A value with a revision has a latest one, which is not an earlier one. -/
theorem exists_latest (h : c.Kept history latest) (hv : history.get? (i, n) = some v) :
    ∃ w, latest.get? i = some w ∧ n ≤ c.revision w := by
  obtain ⟨w, hw, -, hn⟩ := h.contiguous.mp (Dict.mem_of_get? hv)
  exact ⟨w, hw, hn⟩

/-- Every number up to that of a revision has a revision. -/
theorem exists_of_le (h : c.Kept history latest) (hv : history.get? (i, n) = some v) (hm : 1 ≤ m)
    (hmn : m ≤ n) : ∃ w, history.get? (i, m) = some w := by
  obtain ⟨w, hw, -, hn⟩ := h.contiguous.mp (Dict.mem_of_get? hv)
  exact Dict.mem_iff.mp (h.contiguous.mpr ⟨w, hw, hm, hmn.trans hn⟩)

/-- An accepted revision has a new number. -/
theorem notMem_of_accepts (h : c.Kept history latest) (ha : c.Accepts latest v) :
    (c.ident v, c.revision v) ∉ history := by
  intro hmem
  obtain ⟨w, hw, -, hle⟩ := h.contiguous.mp hmem
  cases ha with
  | first fresh => rw [fresh] at hw; cases hw
  | later previous current number =>
    rw [current] at hw
    cases hw
    omega

/-- Storing an accepted revision keeps the lifecycle. -/
theorem store (h : c.Kept history latest) (ha : c.Accepts latest v) :
    c.Kept (history.set (c.ident v, c.revision v) v) (latest.set (c.ident v) v) := by
  have hfresh := h.notMem_of_accepts ha
  refine ⟨?_, ?_, ?_, ?_, ?_⟩
  · intro i n w hw
    rcases Dict.get?_set_eq_some.mp hw with ⟨hk, rfl⟩ | ⟨-, hw⟩
    · cases hk
      exact ⟨rfl, rfl⟩
    · exact h.key hw
  · intro i w hw
    rcases Dict.get?_set_eq_some.mp hw with ⟨rfl, rfl⟩ | ⟨-, hw⟩
    · exact Dict.get?_set_self
    · exact Dict.get?_set_of_notMem hfresh (h.stored hw)
  · intro i n
    rw [Dict.mem_set]
    by_cases hi : i = c.ident v
    · subst hi
      simp only [Dict.get?_set_self, Option.some.injEq, exists_eq_left', Prod.mk.injEq, true_and,
        h.contiguous]
      cases ha with
      | first fresh number => simp only [fresh, number]; simp; omega
      | later previous current number =>
        have hone := h.one_le_latest current
        simp only [current, number, Option.some.injEq, exists_eq_left']
        omega
    · simp [hi, h.contiguous, Dict.get?_set_of_ne hi]
  · intro i w hw
    rcases Dict.get?_set_eq_some.mp hw with ⟨hk, rfl⟩ | ⟨-, hw⟩
    · obtain ⟨-, hrev⟩ := Prod.mk.injEq .. ▸ hk
      cases ha with
      | first _ _ start => exact start
      | later previous current number => have := h.one_le_latest current; omega
    · exact h.start hw
  · intro i n u w hu hw
    rcases Dict.get?_set_eq_some.mp hw with ⟨hk, rfl⟩ | ⟨-, hnew⟩
    · obtain ⟨rfl, hn⟩ := Prod.mk.injEq .. ▸ hk
      -- the revision before the new one is the latest of the old store
      rw [Dict.get?_set_of_ne (by simp [← hn])] at hu
      cases ha with
      | first fresh =>
        obtain ⟨x, hx, -⟩ := h.contiguous.mp (Dict.mem_of_get? hu)
        rw [fresh] at hx
        cases hx
      | later previous current number next =>
        obtain rfl : n = c.revision previous := by omega
        rw [h.stored current] at hu
        cases hu
        exact next
    · rcases Dict.get?_set_eq_some.mp hu with ⟨hk, rfl⟩ | ⟨-, hold⟩
      · -- the new revision is the last of its value
        obtain ⟨rfl, rfl⟩ := Prod.mk.injEq .. ▸ hk
        obtain ⟨x, hx, -, hle⟩ := h.contiguous.mp (Dict.mem_of_get? hnew)
        cases ha with
        | first fresh => rw [fresh] at hx; cases hx
        | later previous current number => rw [current] at hx; cases hx; omega
      · exact h.next hold hnew

/-- What the first revision satisfies and each revision passes on holds of every revision. -/
theorem induction {P : ℕ → ν → Prop} (h : c.Kept history latest)
    (hfirst : ∀ v, history.get? (i, 1) = some v → c.start v → P 1 v)
    (hnext : ∀ n v w, history.get? (i, n) = some v → history.get? (i, n + 1) = some w →
      c.next v w → P n v → P (n + 1) w)
    (hv : history.get? (i, n) = some v) : P n v := by
  induction n generalizing v with
  | zero => exact absurd (h.one_le hv) (by omega)
  | succ n ih =>
    rcases Nat.eq_zero_or_pos n with rfl | hn
    · exact hfirst v hv (h.start hv)
    · obtain ⟨u, hu⟩ := h.exists_of_le hv hn (Nat.le_succ n)
      exact hnext n u v hu hv (h.next hu hv) (ih hu)

/-- A reflexive and transitive relation between each revision and the next one relates a revision
to every later one. -/
theorem relation {R : ν → ν → Prop} (h : c.Kept history latest) (hrefl : ∀ v, R v v)
    (htrans : ∀ u v w, R u v → R v w → R u w) (hnext : ∀ v w, c.next v w → R v w)
    (hv : history.get? (i, m) = some v) (hw : history.get? (i, n) = some w) (hmn : m ≤ n) :
    R v w := by
  induction n, hmn using Nat.le_induction generalizing w with
  | base =>
    rw [hv] at hw
    cases hw
    exact hrefl v
  | succ n hmn ih =>
    obtain ⟨u, hu⟩ := h.exists_of_le hw ((h.one_le hv).trans hmn) (Nat.le_succ n)
    exact htrans v u w (ih hu) (hnext u w (h.next hu hw))

/-- A revision that none may follow is the latest. -/
theorem latest_of_last (h : c.Kept history latest) (hv : history.get? (i, n) = some v)
    (hlast : ∀ w, ¬c.next v w) : latest.get? i = some v := by
  obtain ⟨w, hw, hn⟩ := h.exists_latest hv
  rcases Nat.eq_or_lt_of_le hn with rfl | hlt
  · rw [hw, ← h.stored hw, hv]
  · obtain ⟨u, hu⟩ := h.exists_of_le (h.stored hw) (Nat.le_add_left 1 n) hlt
    exact absurd (h.next hv hu) (hlast u)

end Kept

/-! ## Counting revisions -/

/-- How many of the first `n` revisions of a value satisfy `p`. -/
def countThrough (p : ν → Bool) (history : Dict (ι × ℕ) ν) (i : ι) (n : ℕ) : ℕ :=
  (List.range n).countP fun k => (history.get? (i, k + 1)).any p

@[simp] theorem countThrough_zero {p : ν → Bool} : countThrough p history i 0 = 0 := rfl

/-- One more revision counts if it satisfies the predicate. -/
theorem countThrough_succ {p : ν → Bool} (hv : history.get? (i, n + 1) = some v) :
    countThrough p history i (n + 1) = countThrough p history i n + if p v then 1 else 0 := by
  simp [countThrough, List.range_succ, hv]

/-- A revision of another value, or with a larger number, does not count. -/
theorem countThrough_set {p : ν → Bool} {k : ι × ℕ} (hk : k.1 = i → n < k.2) :
    countThrough p (history.set k v) i n = countThrough p history i n := by
  refine List.countP_congr fun x hx => ?_
  have hne : (i, x + 1) ≠ k := by
    rintro rfl
    have := hk rfl
    have := List.mem_range.mp hx
    simp only at *
    omega
  rw [Dict.get?_set_of_ne hne]

end Lifecycle
