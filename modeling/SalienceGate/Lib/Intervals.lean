import Mathlib.Algebra.BigOperators.Group.Finset.Basic
import Mathlib.Algebra.BigOperators.Group.Finset.Piecewise
import Mathlib.Algebra.GroupWithZero.Nat
import Mathlib.Algebra.Order.Group.Int
import Mathlib.Data.List.Basic
import Mathlib.Tactic.Abel
import Mathlib.Order.Bounds.Basic

/-!
# Runs of consecutive numbers

The numbers of an increasing list fall into runs of consecutive ones, each written as its first and last
number. What the runs weigh together is a sum over the numbers themselves (`sum_ranges`): a number counts as
a first number if the one before it is missing, and as a last number if the one after it is. Taking a number
out of a set therefore changes this sum only at the number and its two neighbours (`sum_boundary_erase`).
The links of a doubly linked list through a set are kept by the same step (`Next.erase`, `Previous.erase`).
-/

namespace Intervals

/-! ## Runs -/

/-- The runs of a list whose open run goes from `start` to `last`. -/
def rangesFrom (start last : ℕ) : List ℕ → List (ℕ × ℕ)
  | [] => [(start, last)]
  | x :: xs => if x = last + 1 then rangesFrom start x xs else (start, last) :: rangesFrom x x xs

/-- The runs of a list. -/
def ranges : List ℕ → List (ℕ × ℕ)
  | [] => []
  | x :: xs => rangesFrom x x xs

/-- The numbers of a run. -/
def numbers (range : ℕ × ℕ) : List ℕ := List.range' range.1 (range.2 + 1 - range.1)

variable {start last : ℕ} {xs : List ℕ}

theorem numbers_concat (h : start ≤ last) : numbers (start, last + 1) = numbers (start, last) ++ [last + 1] := by
  unfold numbers
  have hlen : last + 1 + 1 - start = (last + 1 - start) + 1 := by omega
  have hend : start + 1 * (last + 1 - start) = last + 1 := by omega
  show List.range' start (last + 1 + 1 - start) = List.range' start (last + 1 - start) ++ [last + 1]
  rw [hlen, List.range'_concat, hend]

theorem numbers_self (x : ℕ) : numbers (x, x) = [x] := by
  unfold numbers
  have hlen : x + 1 - x = 1 := by omega
  show List.range' x (x + 1 - x) = [x]
  rw [hlen]
  rfl

theorem flatMap_numbers_rangesFrom (hle : start ≤ last) (hsorted : (last :: xs).Pairwise (· < ·)) :
    (rangesFrom start last xs).flatMap numbers = numbers (start, last) ++ xs := by
  induction xs generalizing start last with
  | nil => simp [rangesFrom]
  | cons x xs ih =>
    have htail := hsorted.tail
    have hlt : last < x := List.rel_of_pairwise_cons hsorted List.mem_cons_self
    unfold rangesFrom
    split
    next hnext =>
      subst hnext
      rw [ih (by omega) htail, numbers_concat hle, List.append_assoc, List.singleton_append]
    next hgap => rw [List.flatMap_cons, ih le_rfl htail, numbers_self, List.singleton_append]

/-- The runs of an increasing list hold its numbers. -/
theorem flatMap_numbers_ranges (hsorted : xs.Pairwise (· < ·)) : (ranges xs).flatMap numbers = xs := by
  cases xs with
  | nil => rfl
  | cons x xs =>
    unfold ranges
    rw [flatMap_numbers_rangesFrom le_rfl hsorted, numbers_self, List.singleton_append]

theorem rangesFrom_le (hle : start ≤ last) (hsorted : (last :: xs).Pairwise (· < ·)) :
    ∀ p ∈ rangesFrom start last xs, start ≤ p.1 ∧ p.1 ≤ p.2 := by
  induction xs generalizing start last with
  | nil =>
    intro p hp
    rw [List.mem_singleton.mp hp]
    exact ⟨le_rfl, hle⟩
  | cons x xs ih =>
    have hlt : last < x := List.rel_of_pairwise_cons hsorted List.mem_cons_self
    unfold rangesFrom
    split
    next hnext => exact ih (by omega) hsorted.tail
    next hgap =>
      intro p hp
      rcases List.mem_cons.mp hp with rfl | hp
      · exact ⟨le_rfl, hle⟩
      · have hrest := ih le_rfl hsorted.tail p hp
        omega

theorem rangesFrom_separated (hle : start ≤ last) (hsorted : (last :: xs).Pairwise (· < ·)) :
    (rangesFrom start last xs).Pairwise fun p q => p.2 < q.1 := by
  induction xs generalizing start last with
  | nil => exact List.pairwise_singleton _ _
  | cons x xs ih =>
    have hlt : last < x := List.rel_of_pairwise_cons hsorted List.mem_cons_self
    unfold rangesFrom
    split
    next hnext => exact ih (by omega) hsorted.tail
    next hgap =>
      refine List.pairwise_cons.mpr ⟨fun q hq => ?_, ih le_rfl hsorted.tail⟩
      have hfrom := (rangesFrom_le le_rfl hsorted.tail q hq).1
      show last < q.1
      omega

/-- Every run goes up. -/
theorem ranges_le (hsorted : xs.Pairwise (· < ·)) {p : ℕ × ℕ} (hp : p ∈ ranges xs) : p.1 ≤ p.2 := by
  cases xs with
  | nil => cases hp
  | cons x xs => exact (rangesFrom_le le_rfl hsorted p hp).2

/-- Every run lies before the next. -/
theorem ranges_separated (hsorted : xs.Pairwise (· < ·)) : (ranges xs).Pairwise fun p q => p.2 < q.1 := by
  cases xs with
  | nil => exact List.Pairwise.nil
  | cons x xs => exact rangesFrom_separated le_rfl hsorted

theorem head?_rangesFrom (start last : ℕ) (xs : List ℕ) :
    (rangesFrom start last xs).head?.map Prod.fst = some start := by
  induction xs generalizing last with
  | nil => rfl
  | cons x xs ih =>
    unfold rangesFrom
    split
    next hnext => exact ih x
    next hgap => rfl

theorem rangesFrom_ne_nil (start last : ℕ) (xs : List ℕ) : rangesFrom start last xs ≠ [] := by
  have hhead := head?_rangesFrom start last xs
  intro hnil
  rw [hnil] at hhead
  cases hhead

theorem getLast?_rangesFrom (start last : ℕ) (xs : List ℕ) :
    (rangesFrom start last xs).getLast?.map Prod.snd = (last :: xs).getLast? := by
  induction xs generalizing start last with
  | nil => rfl
  | cons x xs ih =>
    unfold rangesFrom
    split
    next hnext => rw [ih start x, List.getLast?_cons_cons]
    next hgap =>
      rw [List.getLast?_cons_cons, ← ih x x]
      obtain ⟨p, ps, hps⟩ := List.exists_cons_of_ne_nil (rangesFrom_ne_nil x x xs)
      rw [hps, List.getLast?_cons_cons]

/-- The first run starts at the first number. -/
theorem head?_ranges (xs : List ℕ) : (ranges xs).head?.map Prod.fst = xs.head? := by
  cases xs with
  | nil => rfl
  | cons x xs => exact head?_rangesFrom x x xs

/-- The last run ends at the last number. -/
theorem getLast?_ranges (xs : List ℕ) : (ranges xs).getLast?.map Prod.snd = xs.getLast? := by
  cases xs with
  | nil => rfl
  | cons x xs => exact getLast?_rangesFrom x x xs

/-! ## What runs weigh -/

/-- What a number of a set adds to the weight of the runs: `c` and its own weight where a run starts, and its
own weight where a run ends. -/
def boundary (c : ℤ) (w : ℕ → ℤ) (s : Finset ℕ) (x : ℕ) : ℤ :=
  (if x - 1 ∈ s then 0 else c + w x) + (if x + 1 ∈ s then 0 else w x)

variable {c : ℤ} {w : ℕ → ℤ}

theorem sum_rangesFrom (hsorted : (last :: xs).Pairwise (· < ·)) :
    ((rangesFrom start last xs).map fun p => c + w p.1 + w p.2).sum
      = c + w start + ((last :: xs).map fun x => if x + 1 ∈ last :: xs then 0 else w x).sum
        + (xs.map fun x => if x - 1 ∈ last :: xs then 0 else c + w x).sum := by
  induction xs generalizing start last with
  | nil => simp [rangesFrom]
  | cons x xs ih =>
    have hlt : last < x := List.rel_of_pairwise_cons hsorted List.mem_cons_self
    have hge : ∀ y ∈ x :: xs, x ≤ y := by
      intro y hy
      rcases List.mem_cons.mp hy with rfl | hy
      · exact le_rfl
      · exact (List.rel_of_pairwise_cons hsorted.tail hy).le
    -- the numbers after the first do not have it as their successor, nor as their predecessor unless it is adjacent
    have hsucc : ((last :: x :: xs).map fun y => if y + 1 ∈ last :: x :: xs then 0 else w y).sum
        = (if last + 1 ∈ last :: x :: xs then 0 else w last)
          + ((x :: xs).map fun y => if y + 1 ∈ x :: xs then 0 else w y).sum := by
      rw [List.map_cons, List.sum_cons]
      refine congrArg (_ + ·) (congrArg List.sum (List.map_congr_left fun y hy => ?_))
      have hy' := hge y hy
      have hne : y + 1 ≠ last := by omega
      simp only [List.mem_cons, hne, false_or]
    have hpred : ((x :: xs).map fun y => if y - 1 ∈ last :: x :: xs then 0 else c + w y).sum
        = (if x - 1 ∈ last :: x :: xs then 0 else c + w x)
          + (xs.map fun y => if y - 1 ∈ x :: xs then 0 else c + w y).sum := by
      rw [List.map_cons, List.sum_cons]
      refine congrArg (_ + ·) (congrArg List.sum (List.map_congr_left fun y hy => ?_))
      have hy' : x < y := List.rel_of_pairwise_cons hsorted.tail hy
      have hne : y - 1 ≠ last := by omega
      simp only [List.mem_cons, hne, false_or]
    rw [hsucc, hpred]
    unfold rangesFrom
    split
    next hnext =>
      have hin : last + 1 ∈ last :: x :: xs := by simp [hnext]
      have hin' : x - 1 ∈ last :: x :: xs := by simp [hnext]
      rw [ih hsorted.tail, if_pos hin, if_pos hin']
      abel
    next hgap =>
      have hout : last + 1 ∉ last :: x :: xs := by
        intro h
        rcases List.mem_cons.mp h with h | h
        · omega
        · have h' := hge _ h
          omega
      have hout' : x - 1 ∉ last :: x :: xs := by
        intro h
        rcases List.mem_cons.mp h with h | h
        · omega
        · have h' := hge _ h
          omega
      rw [List.map_cons, List.sum_cons, ih hsorted.tail, if_neg hout, if_neg hout']
      abel

/-- The weight of the runs of an increasing list of positive numbers is the sum of what its numbers add to it. -/
theorem sum_ranges (hsorted : xs.Pairwise (· < ·)) (hpos : ∀ x ∈ xs, 1 ≤ x) :
    ((ranges xs).map fun p => c + w p.1 + w p.2).sum = ∑ x ∈ xs.toFinset, boundary c w xs.toFinset x := by
  have hnodup : xs.Nodup := hsorted.imp fun h => h.ne
  rw [List.sum_toFinset _ hnodup]
  cases xs with
  | nil => rfl
  | cons x xs =>
    have hx : 1 ≤ x := hpos x List.mem_cons_self
    have hfirst : x - 1 ∉ x :: xs := by
      intro h
      rcases List.mem_cons.mp h with h | h
      · omega
      · have h' : x < x - 1 := List.rel_of_pairwise_cons hsorted h
        omega
    have hsplit : ((x :: xs).map fun y => boundary c w (x :: xs).toFinset y).sum
        = ((x :: xs).map fun y => if y - 1 ∈ x :: xs then 0 else c + w y).sum
          + ((x :: xs).map fun y => if y + 1 ∈ x :: xs then 0 else w y).sum := by
      rw [← List.sum_map_add]
      refine congrArg List.sum (List.map_congr_left fun y _ => ?_)
      unfold boundary
      simp only [List.mem_toFinset]
    unfold ranges
    have hstart : ((x :: xs).map fun y => if y - 1 ∈ x :: xs then 0 else c + w y).sum
        = c + w x + (xs.map fun y => if y - 1 ∈ x :: xs then 0 else c + w y).sum := by
      rw [List.map_cons, List.sum_cons, if_neg hfirst]
    rw [sum_rangesFrom hsorted, hsplit, hstart]
    abel

theorem boundary_erase {s : Finset ℕ} {x y : ℕ} (hx : x ∈ s) (hy : y ∈ s.erase x) (hpos : ∀ z ∈ s, 1 ≤ z) :
    boundary c w (s.erase x) y
      = boundary c w s y + (if y = x + 1 then c + w y else 0) + (if y = x - 1 then w y else 0) := by
  obtain ⟨hne, hys⟩ := Finset.mem_erase.mp hy
  have hx1 := hpos x hx
  have hy1 := hpos y hys
  unfold boundary
  simp only [Finset.mem_erase]
  by_cases hafter : y = x + 1
  · have hbefore : y ≠ x - 1 := by omega
    have hpred : y - 1 = x := by omega
    have hsucc : y + 1 ≠ x := by omega
    simp only [hpred, hx, hsucc, if_pos hafter, if_neg hbefore, ne_eq, not_true_eq_false, not_false_eq_true,
      true_and, false_and, if_true, if_false]
    abel
  · have hpred : y - 1 ≠ x := by omega
    by_cases hbefore : y = x - 1
    · have hsucc : y + 1 = x := by omega
      simp only [hsucc, hx, hpred, if_neg hafter, if_pos hbefore, ne_eq, not_true_eq_false, not_false_eq_true,
        true_and, false_and, if_true, if_false]
      abel
    · have hsucc : y + 1 ≠ x := by omega
      simp only [hsucc, hpred, if_neg hafter, if_neg hbefore, ne_eq, not_false_eq_true, true_and]
      abel

/-- Taking a number out of a set changes the weight of its runs only at the number and its neighbours. -/
theorem sum_boundary_erase {s : Finset ℕ} {x : ℕ} (hx : x ∈ s) (hpos : ∀ z ∈ s, 1 ≤ z) :
    ∑ y ∈ s.erase x, boundary c w (s.erase x) y
      = ∑ y ∈ s, boundary c w s y - boundary c w s x + (if x + 1 ∈ s then c + w (x + 1) else 0)
        + (if x - 1 ∈ s then w (x - 1) else 0) := by
  have hx1 := hpos x hx
  have hafter : x + 1 ∈ s.erase x ↔ x + 1 ∈ s := by simp
  have hbefore : x - 1 ∈ s.erase x ↔ x - 1 ∈ s := by
    rw [Finset.mem_erase]
    exact ⟨fun h => h.2, fun h => ⟨by omega, h⟩⟩
  rw [Finset.sum_congr rfl fun y hy => boundary_erase hx hy hpos, Finset.sum_add_distrib, Finset.sum_add_distrib,
    Finset.sum_ite_eq', Finset.sum_ite_eq', ← Finset.add_sum_erase s _ hx]
  simp only [hafter, hbefore]
  abel

/-! ## Links -/

section Links

variable {α : Type} [LinearOrder α] {s : Finset α} {x y : α} {o o' : Option α}

/-- The link from a value to the next one of a set. -/
def Next (s : Finset α) (x : α) : Option α → Prop
  | none => ∀ y ∈ s, y ≤ x
  | some n => n ∈ s ∧ x < n ∧ ∀ y ∈ s, x < y → n ≤ y

/-- The link from a value to the previous one of a set. -/
def Previous (s : Finset α) (x : α) : Option α → Prop
  | none => ∀ y ∈ s, x ≤ y
  | some p => p ∈ s ∧ p < x ∧ ∀ y ∈ s, y < x → y ≤ p

/-- A value is linked to the next one as that one is linked back. -/
theorem next_some_iff (hx : x ∈ s) (hy : y ∈ s) : Next s x (some y) ↔ Previous s y (some x) := by
  constructor
  · rintro ⟨_, hlt, hleast⟩
    refine ⟨hx, hlt, fun z hz hzy => ?_⟩
    by_contra hxz
    exact absurd (hleast z hz (lt_of_not_ge hxz)) (not_le_of_gt hzy)
  · rintro ⟨_, hlt, hgreatest⟩
    refine ⟨hy, hlt, fun z hz hxz => ?_⟩
    by_contra hyz
    exact absurd (hgreatest z hz (lt_of_not_ge hyz)) (not_le_of_gt hxz)

theorem Next.unique (h : Next s x o) (h' : Next s x o') : o = o' := by
  cases o with
  | none =>
    cases o' with
    | none => rfl
    | some n => exact absurd (h n h'.1) (not_le_of_gt h'.2.1)
  | some n =>
    cases o' with
    | none => exact absurd (h' n h.1) (not_le_of_gt h.2.1)
    | some m => exact congrArg some (le_antisymm (h.2.2 m h'.1 h'.2.1) (h'.2.2 n h.1 h.2.1))

theorem Previous.unique (h : Previous s x o) (h' : Previous s x o') : o = o' := by
  cases o with
  | none =>
    cases o' with
    | none => rfl
    | some n => exact absurd (h n h'.1) (not_le_of_gt h'.2.1)
  | some n =>
    cases o' with
    | none => exact absurd (h' n h.1) (not_le_of_gt h.2.1)
    | some m => exact congrArg some (le_antisymm (h'.2.2 n h.1 h.2.1) (h.2.2 m h'.1 h'.2.1))

/-- A link to a value that is taken out goes to the one after it. -/
theorem Next.erase (h : Next s y o) (hx : Next s x o') :
    Next (s.erase x) y (if o = some x then o' else o) := by
  split
  next hto =>
    subst hto
    obtain ⟨_, hyx, hleast⟩ := h
    have hbeyond : ∀ z ∈ s.erase x, y < z → x < z := by
      intro z hz hyz
      obtain ⟨hzx, hzs⟩ := Finset.mem_erase.mp hz
      exact lt_of_le_of_ne (hleast z hzs hyz) (Ne.symm hzx)
    cases o' with
    | none =>
      intro z hz
      by_contra hzy
      exact absurd (hx z (Finset.mem_of_mem_erase hz)) (not_le_of_gt (hbeyond z hz (lt_of_not_ge hzy)))
    | some n =>
      obtain ⟨hn, hxn, hleast'⟩ := hx
      refine ⟨Finset.mem_erase.mpr ⟨ne_of_gt hxn, hn⟩, hyx.trans hxn, fun z hz hyz => ?_⟩
      exact hleast' z (Finset.mem_of_mem_erase hz) (hbeyond z hz hyz)
  next hto =>
    cases o with
    | none => exact fun z hz => h z (Finset.mem_of_mem_erase hz)
    | some n =>
      obtain ⟨hn, hyn, hleast⟩ := h
      have hnx : n ≠ x := fun heq => hto (congrArg some heq)
      exact ⟨Finset.mem_erase.mpr ⟨hnx, hn⟩, hyn, fun z hz => hleast z (Finset.mem_of_mem_erase hz)⟩

/-- A link back to a value that is taken out goes to the one before it. -/
theorem Previous.erase (h : Previous s y o) (hx : Previous s x o') :
    Previous (s.erase x) y (if o = some x then o' else o) := by
  split
  next hto =>
    subst hto
    obtain ⟨_, hxy, hgreatest⟩ := h
    have hbeyond : ∀ z ∈ s.erase x, z < y → z < x := by
      intro z hz hzy
      obtain ⟨hzx, hzs⟩ := Finset.mem_erase.mp hz
      exact lt_of_le_of_ne (hgreatest z hzs hzy) hzx
    cases o' with
    | none =>
      intro z hz
      by_contra hyz
      exact absurd (hx z (Finset.mem_of_mem_erase hz)) (not_le_of_gt (hbeyond z hz (lt_of_not_ge hyz)))
    | some p =>
      obtain ⟨hp, hpx, hgreatest'⟩ := hx
      refine ⟨Finset.mem_erase.mpr ⟨ne_of_lt hpx, hp⟩, hpx.trans hxy, fun z hz hzy => ?_⟩
      exact hgreatest' z (Finset.mem_of_mem_erase hz) (hbeyond z hz hzy)
  next hto =>
    cases o with
    | none => exact fun z hz => h z (Finset.mem_of_mem_erase hz)
    | some p =>
      obtain ⟨hp, hpy, hgreatest⟩ := h
      have hpx : p ≠ x := fun heq => hto (congrArg some heq)
      exact ⟨Finset.mem_erase.mpr ⟨hpx, hp⟩, hpy, fun z hz => hgreatest z (Finset.mem_of_mem_erase hz)⟩

/-- Once the least value is taken out, the one it was linked to is the least. -/
theorem Next.isLeast_erase (h : IsLeast (s : Set α) x) (hnext : Next s x (some y)) :
    IsLeast ((s.erase x : Finset α) : Set α) y := by
  obtain ⟨hy, hxy, hleast⟩ := hnext
  refine ⟨Finset.mem_coe.mpr (Finset.mem_erase.mpr ⟨ne_of_gt hxy, hy⟩), fun z hz => ?_⟩
  obtain ⟨hzx, hzs⟩ := Finset.mem_erase.mp (Finset.mem_coe.mp hz)
  exact hleast z hzs (lt_of_le_of_ne (h.2 (Finset.mem_coe.mpr hzs)) (Ne.symm hzx))

/-- Once the greatest value is taken out, the one it was linked back to is the greatest. -/
theorem Previous.isGreatest_erase (h : IsGreatest (s : Set α) x) (hprevious : Previous s x (some y)) :
    IsGreatest ((s.erase x : Finset α) : Set α) y := by
  obtain ⟨hy, hyx, hgreatest⟩ := hprevious
  refine ⟨Finset.mem_coe.mpr (Finset.mem_erase.mpr ⟨ne_of_lt hyx, hy⟩), fun z hz => ?_⟩
  obtain ⟨hzx, hzs⟩ := Finset.mem_erase.mp (Finset.mem_coe.mp hz)
  exact hgreatest z hzs (lt_of_le_of_ne (h.2 (Finset.mem_coe.mpr hzs)) hzx)

/-- Values of an increasing list are in the order of their places. -/
theorem lt_of_getElem? {xs : List α} (hsorted : xs.Pairwise (· < ·)) {i j : ℕ} {x y : α} (hx : xs[i]? = some x)
    (hy : xs[j]? = some y) (hij : i < j) : x < y := by
  obtain ⟨hi, rfl⟩ := List.getElem?_eq_some_iff.mp hx
  obtain ⟨hj, rfl⟩ := List.getElem?_eq_some_iff.mp hy
  exact List.pairwise_iff_getElem.mp hsorted i j hi hj hij

/-- A value of an increasing list that lies after another has a later place. -/
theorem place_lt {xs : List α} (hsorted : xs.Pairwise (· < ·)) {i j : ℕ} {x y : α} (hx : xs[i]? = some x)
    (hy : xs[j]? = some y) (hlt : x < y) : i < j := by
  by_contra hle
  rcases Nat.lt_or_eq_of_le (not_lt.mp hle) with hji | rfl
  · exact absurd (lt_of_getElem? hsorted hy hx hji) (not_lt_of_gt hlt)
  · rw [hx] at hy
    cases hy
    exact absurd hlt (lt_irrefl _)

/-- The pairs of an increasing list with what comes after each are the links to the next ones. -/
theorem next_of_mem_zip {xs : List α} (hsorted : xs.Pairwise (· < ·)) {p : α × Option α}
    (hp : p ∈ xs.zip (xs.tail.map some ++ [none])) : Next xs.toFinset p.1 p.2 := by
  obtain ⟨i, hi⟩ := List.mem_iff_getElem?.mp hp
  obtain ⟨hx, hlink⟩ := List.getElem?_zip_eq_some.mp hi
  cases hnext : xs[i + 1]? with
  | none =>
    have hnone : p.2 = none := by
      have hlength := List.getElem?_eq_none_iff.mp hnext
      obtain ⟨hlt, -⟩ := List.getElem?_eq_some_iff.mp hx
      rw [List.getElem?_append_right (by simp; omega)] at hlink
      have hplace : i - (xs.tail.map some).length = 0 := by simp; omega
      rw [hplace] at hlink
      exact (Option.some.inj hlink).symm
    rw [hnone]
    intro y hy
    obtain ⟨j, hj⟩ := List.mem_iff_getElem?.mp (List.mem_toFinset.mp hy)
    by_contra hgt
    have hij := place_lt hsorted hx hj (lt_of_not_ge hgt)
    have hlength := List.getElem?_eq_none_iff.mp hnext
    obtain ⟨hlt, -⟩ := List.getElem?_eq_some_iff.mp hj
    omega
  | some n =>
    have hsome : p.2 = some n := by
      obtain ⟨hlt, -⟩ := List.getElem?_eq_some_iff.mp hnext
      rw [List.getElem?_append_left (by simp; omega), List.getElem?_map, List.getElem?_tail, hnext] at hlink
      exact (Option.some.inj hlink).symm
    rw [hsome]
    refine ⟨List.mem_toFinset.mpr (List.mem_of_getElem? hnext), lt_of_getElem? hsorted hx hnext (Nat.lt_succ_self i),
      fun y hy hlt => ?_⟩
    obtain ⟨j, hj⟩ := List.mem_iff_getElem?.mp (List.mem_toFinset.mp hy)
    by_contra hgt
    have hij := place_lt hsorted hx hj hlt
    have hji := place_lt hsorted hj hnext (lt_of_not_ge hgt)
    omega

/-- The pairs of an increasing list with what comes before each are the links to the previous ones. -/
theorem previous_of_mem_zip {xs : List α} (hsorted : xs.Pairwise (· < ·)) {p : α × Option α}
    (hp : p ∈ xs.zip (none :: xs.map some)) : Previous xs.toFinset p.1 p.2 := by
  obtain ⟨i, hi⟩ := List.mem_iff_getElem?.mp hp
  obtain ⟨hx, hlink⟩ := List.getElem?_zip_eq_some.mp hi
  cases i with
  | zero =>
    have hnone : p.2 = none := (Option.some.inj hlink).symm
    rw [hnone]
    intro y hy
    obtain ⟨j, hj⟩ := List.mem_iff_getElem?.mp (List.mem_toFinset.mp hy)
    by_contra hgt
    have hj0 := place_lt hsorted hj hx (lt_of_not_ge hgt)
    omega
  | succ i =>
    rw [List.getElem?_cons_succ, List.getElem?_map] at hlink
    obtain ⟨n, hprevious, hn⟩ := Option.map_eq_some_iff.mp hlink
    rw [← hn]
    refine ⟨List.mem_toFinset.mpr (List.mem_of_getElem? hprevious),
      lt_of_getElem? hsorted hprevious hx (Nat.lt_succ_self i), fun y hy hlt => ?_⟩
    obtain ⟨j, hj⟩ := List.mem_iff_getElem?.mp (List.mem_toFinset.mp hy)
    by_contra hgt
    have hij := place_lt hsorted hj hx hlt
    have hji := place_lt hsorted hprevious hj (lt_of_not_ge hgt)
    omega

/-- The first value of an increasing list is its least. -/
theorem head?_eq_some_iff {xs : List α} (hsorted : xs.Pairwise (· < ·)) {x : α} :
    xs.head? = some x ↔ IsLeast ((xs.toFinset : Finset α) : Set α) x := by
  cases xs with
  | nil => simp [IsLeast]
  | cons y ys =>
    have hleast : IsLeast (((y :: ys).toFinset : Finset α) : Set α) y := by
      refine ⟨by simp, fun z hz => ?_⟩
      rcases List.mem_cons.mp (List.mem_toFinset.mp (Finset.mem_coe.mp hz)) with rfl | hz
      · exact le_rfl
      · exact (List.rel_of_pairwise_cons hsorted hz).le
    rw [List.head?_cons, Option.some.injEq]
    exact ⟨fun h => h ▸ hleast, fun h => hleast.unique h⟩

/-- The last value of an increasing list is its greatest. -/
theorem getLast?_eq_some_iff {xs : List α} (hsorted : xs.Pairwise (· < ·)) {x : α} :
    xs.getLast? = some x ↔ IsGreatest ((xs.toFinset : Finset α) : Set α) x := by
  rcases List.eq_nil_or_concat xs with rfl | ⟨ys, y, rfl⟩
  · simp [IsGreatest]
  · rw [List.concat_eq_append] at hsorted ⊢
    have hbefore := (List.pairwise_append.mp hsorted).2.2
    have hgreatest : IsGreatest (((ys ++ [y]).toFinset : Finset α) : Set α) y := by
      refine ⟨by simp, fun z hz => ?_⟩
      rcases List.mem_append.mp (List.mem_toFinset.mp (Finset.mem_coe.mp hz)) with hz | hz
      · exact (hbefore z hz y (List.mem_singleton_self y)).le
      · rw [List.mem_singleton.mp hz]
    rw [List.getLast?_append]
    show some y = some x ↔ _
    rw [Option.some.injEq]
    exact ⟨fun h => h ▸ hgreatest, fun h => hgreatest.unique h⟩

end Links

end Intervals
