import Mathlib.Order.Interval.Set.Disjoint
import Mathlib.Data.Set.Lattice
import Mathlib.Order.CompletePartialOrder
import Mathlib.Tactic.Common

/-!
# Tilings of an initial segment

A family of sets of numbers that are disjoint and together are `{1, …, n}`. `Tiling.extend` puts
the numbers `n + 1, …, m` in a tile that was empty.
-/

variable {ι : Type}

/-- The tiles are disjoint, and together they are `{1, …, n}`. -/
structure Tiling (tile : ι → Set ℕ) (n : ℕ) : Prop where
  /-- No number is in two tiles. -/
  disjoint : Pairwise fun i j => Disjoint (tile i) (tile j)
  /-- The tiles cover exactly the numbers from 1 to `n`. -/
  covers : ⋃ i, tile i = Set.Icc 1 n

namespace Tiling

variable {tile tile' : ι → Set ℕ} {n m : ℕ} {i : ι}

/-- Empty tiles cover nothing. -/
protected theorem empty (h : ∀ i, tile i = ∅) : Tiling tile 0 where
  disjoint i j _ := by simp [h]
  covers := by simp [h]

/-- Every tile is below the end of the segment. -/
theorem subset (h : Tiling tile n) (i : ι) : tile i ⊆ Set.Icc 1 n :=
  h.covers ▸ Set.subset_iUnion tile i

/-- The next numbers go in an empty tile. -/
theorem extend (h : Tiling tile n) (hnm : n ≤ m) (hi : tile' i = Set.Icc (n + 1) m)
    (hempty : tile i = ∅) (hj : ∀ j, j ≠ i → tile' j = tile j) : Tiling tile' m := by
  have hnew : ∀ j, j ≠ i → Disjoint (tile' i) (tile' j) := fun j hne => by
    rw [hi, hj j hne]
    refine Set.disjoint_left.mpr fun k hk hk' => ?_
    have := (h.subset j hk').2
    have := hk.1
    omega
  constructor
  · intro j k hjk
    by_cases hji : j = i
    · subst hji
      exact hnew k (Ne.symm hjk)
    · by_cases hki : k = i
      · subst hki
        exact (hnew j hji).symm
      · rw [hj j hji, hj k hki]
        exact h.disjoint hjk
  · ext k
    have hold : k ∈ Set.Icc 1 n ↔ ∃ j, k ∈ tile j := by rw [← h.covers, Set.mem_iUnion]
    rw [Set.mem_iUnion]
    constructor
    · rintro ⟨j, hk⟩
      by_cases hji : j = i
      · subst hji
        rw [hi] at hk
        exact ⟨(Nat.le_add_left 1 n).trans hk.1, hk.2⟩
      · rw [hj j hji] at hk
        exact ⟨(h.subset j hk).1, (h.subset j hk).2.trans hnm⟩
    · intro hk
      by_cases hkn : k ≤ n
      · obtain ⟨j, hmem⟩ := hold.mp ⟨hk.1, hkn⟩
        refine ⟨j, ?_⟩
        rwa [hj j]
        rintro rfl
        simp [hempty] at hmem
      · exact ⟨i, hi ▸ ⟨not_le.mp hkn, hk.2⟩⟩

end Tiling
