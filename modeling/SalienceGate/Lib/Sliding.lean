import Mathlib.Algebra.BigOperators.Group.List.Basic
import Mathlib.Algebra.GroupWithZero.Nat
import Mathlib.Tactic.SplitIfs

/-!
# Sliding windows

A window slides over a list of costs: each step takes in the next cost, then gives up costs at the front
while the window costs more than a bound and has more than the cost just taken in. The start that remains
is the least one whose window stays within the bound.
-/

namespace Sliding

/-- The cost of the first `k` items. -/
def prefixCost (costs : List ℕ) (k : ℕ) : ℕ := (costs.take k).sum

/-- The loop that gives up items at the front: at most `n` of them, from `first` on. -/
def shrink (bound : ℕ) (costs : List ℕ) : ℕ → ℕ → ℕ → ℕ × ℕ
  | 0, first, window => (first, window)
  | n + 1, first, window =>
    if bound < window then shrink bound costs n (first + 1) (window - costs.getD first 0)
    else (first, window)

/-- The starts of the windows that end at each item, from `index` on, or none if an item alone costs more
than the bound. -/
def slide (bound : ℕ) (costs : List ℕ) : ℕ → ℕ → ℕ → List ℕ → Option (List ℕ)
  | _, _, _, [] => some []
  | index, first, window, cost :: rest =>
    let shrunk := shrink bound costs (index - first) first (window + cost)
    if bound < shrunk.2 then none
    else (slide bound costs (index + 1) shrunk.1 shrunk.2 rest).map (shrunk.1 :: ·)

@[simp] theorem prefixCost_zero (costs : List ℕ) : prefixCost costs 0 = 0 := rfl

theorem prefixCost_succ (costs : List ℕ) (k : ℕ) :
    prefixCost costs (k + 1) = prefixCost costs k + costs.getD k 0 := by
  unfold prefixCost
  rw [List.take_add_one, List.sum_append, List.getD_eq_getElem?_getD]
  cases costs[k]? <;> simp

theorem prefixCost_mono (costs : List ℕ) {j k : ℕ} (h : j ≤ k) :
    prefixCost costs j ≤ prefixCost costs k := by
  induction h with
  | refl => exact Nat.le_refl _
  | step _ ih =>
    rw [prefixCost_succ]
    omega

/-- The cost of a window is a difference of two prefix costs. -/
theorem sum_window (costs : List ℕ) {start stop : ℕ} (h : start ≤ stop) :
    ((costs.take stop).drop start).sum = prefixCost costs stop - prefixCost costs start := by
  have hsplit := List.sum_take_add_sum_drop (costs.take stop) start
  rw [List.take_take, Nat.min_eq_left h] at hsplit
  unfold prefixCost
  omega

/-- The prefix costs are the running sums. -/
theorem getD_scanl (costs : List ℕ) {k : ℕ} (h : k ≤ costs.length) :
    (costs.scanl (· + ·) 0).getD k 0 = prefixCost costs k := by
  rw [List.getD_eq_getElem?_getD, List.getElem?_scanl, if_pos h, Option.getD_some, prefixCost,
    List.sum_eq_foldl_nat]

/-- The windows that end before `stop` and start before `first` cost more than the bound. -/
def TooLong (bound : ℕ) (costs : List ℕ) (first stop : ℕ) : Prop :=
  ∀ start < first, bound < prefixCost costs stop - prefixCost costs start

/-- A window that is too long stays so when it takes in more. -/
theorem TooLong.later {bound : ℕ} {costs : List ℕ} {first stop stop' : ℕ}
    (h : TooLong bound costs first stop) (hstop : stop ≤ stop') :
    TooLong bound costs first stop' := by
  intro start hstart
  have hlong := h start hstart
  have hmono := prefixCost_mono costs hstop
  omega

/-- The front loop ends at the least start, if the window of the last item alone is within the bound:
induction on the number of items that it may give up. -/
theorem shrink_spec {bound : ℕ} {costs : List ℕ} {stop : ℕ} (n : ℕ) :
    ∀ {first window : ℕ}, first + n + 1 = stop →
      window + prefixCost costs first = prefixCost costs stop → TooLong bound costs first stop →
      (shrink bound costs n first window).1 < stop
        ∧ first ≤ (shrink bound costs n first window).1
        ∧ (shrink bound costs n first window).2
            + prefixCost costs (shrink bound costs n first window).1 = prefixCost costs stop
        ∧ TooLong bound costs (shrink bound costs n first window).1 stop
        ∧ (bound < (shrink bound costs n first window).2 →
          (shrink bound costs n first window).1 + 1 = stop) := by
  induction n with
  | zero =>
    intro first window hstop hcost hlong
    refine ⟨?_, Nat.le_refl _, hcost, hlong, fun _ => hstop⟩
    show first < stop
    omega
  | succ n ih =>
    intro first window hstop hcost hlong
    unfold shrink
    split_ifs with hover
    · have hnext := prefixCost_succ costs first
      have hmono : prefixCost costs (first + 1) ≤ prefixCost costs stop :=
        prefixCost_mono costs (by omega)
      have hlong' : TooLong bound costs (first + 1) stop := by
        intro start hstart
        rcases Nat.lt_succ_iff_lt_or_eq.mp hstart with hlt | rfl
        · exact hlong start hlt
        · omega
      obtain ⟨hlt, hle, hspec⟩ := @ih (first + 1)
        (window - costs.getD first 0) (by omega) (by omega) hlong'
      exact ⟨hlt, by omega, hspec⟩
    · refine ⟨?_, Nat.le_refl _, hcost, hlong, fun h => absurd h hover⟩
      show first < stop
      omega

/-- The start of a window that ends before `stop`: the least one within the bound. -/
structure Least (bound : ℕ) (costs : List ℕ) (start stop : ℕ) : Prop where
  lt : start < stop
  within : prefixCost costs stop - prefixCost costs start ≤ bound
  tooLong : TooLong bound costs start stop

/-- Every start that the walk finds is the least one: induction on the items that are left, with the cost
of the window so far. -/
theorem slide_least {bound : ℕ} {costs rest : List ℕ} :
    ∀ {index first window : ℕ} {starts : List ℕ},
      costs.drop index = rest → first ≤ index →
      window + prefixCost costs first = prefixCost costs index →
      TooLong bound costs first index →
      slide bound costs index first window rest = some starts →
      starts.length = rest.length
        ∧ ∀ i start, starts[i]? = some start → Least bound costs start (index + i + 1) := by
  induction rest with
  | nil =>
    intro index first window starts _ _ _ _ h
    cases h
    refine ⟨rfl, fun i start hstart => ?_⟩
    simp at hstart
  | cons cost rest ih =>
    intro index first window starts hrest hfirst hcost hlong h
    have hget : costs.getD index 0 = cost := by
      rw [List.getD_eq_getElem?_getD, ← List.head?_drop, hrest]
      rfl
    have hdrop : costs.drop (index + 1) = rest := by
      rw [← List.tail_drop, hrest]
      rfl
    have hsucc := prefixCost_succ costs index
    have hspec := @shrink_spec bound costs (index + 1) (index - first) first (window + cost) (by omega)
      (by omega) (hlong.later (Nat.le_succ index))
    unfold slide at h
    generalize shrink bound costs (index - first) first (window + cost) = shrunk at h hspec
    obtain ⟨hlt, -, hwindow, hlong', -⟩ := hspec
    dsimp only at h
    split_ifs at h with hover
    obtain ⟨later, hlater, rfl⟩ := Option.map_eq_some_iff.mp h
    obtain ⟨hlength, hleast⟩ := ih hdrop (by omega) hwindow hlong' hlater
    refine ⟨by rw [List.length_cons, List.length_cons, hlength], ?_⟩
    intro i start hstart
    cases i with
    | zero =>
      cases hstart
      have hwithin : prefixCost costs (index + 1) - prefixCost costs shrunk.1 ≤ bound := by omega
      exact ⟨hlt, hwithin, hlong'⟩
    | succ i =>
      have hstop : index + 1 + i + 1 = index + (i + 1) + 1 := by omega
      rw [← hstop]
      exact hleast i start hstart

end Sliding
