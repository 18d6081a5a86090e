import SalienceGate.Lib.Dict

/-!
# Marks with generations

A table of marks, at most `capacity` of them, one for a key. A mark carries the generation in which
it was set, so that a party that read the table before can clear what it saw and nothing newer:
`clear` takes the mark away only if it is still the one that was seen. A key without a mark finds
room as long as the table is not full; `mark` on a full table does nothing.

The rules for proofs are about any number of marks of one key in a row: a key that finds room has a
mark that is newer than every generation before (`exists_get?_markTimes`), one that does not find
room leaves the table as it is (`markTimes_of_full`), and no other key notices
(`get?_markTimes_of_ne`).
-/

/-- A table of marks. -/
structure Marks (κ : Type) [DecidableEq κ] where
  /-- The generation of the mark of a key. -/
  table : Dict κ ℕ
  /-- The newest generation. -/
  generation : ℕ
  /-- No mark is of a generation to come. -/
  le_generation : ∀ {k g}, table.get? k = some g → g ≤ generation

namespace Marks

variable {κ : Type} [DecidableEq κ] {capacity : ℕ} {m : Marks κ} {k k' : κ}

/-- No marks. -/
def empty : Marks κ := ⟨.empty, 0, fun h => by rw [Dict.get?_empty] at h; cases h⟩

/-- The generation of the mark of a key. -/
def get? (m : Marks κ) (k : κ) : Option ℕ := m.table.get? k

/-- A mark of the key can be set: it has one, or there is a place. -/
def HasRoom (capacity : ℕ) (m : Marks κ) (k : κ) : Prop := k ∈ m.table ∨ m.table.size < capacity

instance decidableHasRoom (capacity : ℕ) (m : Marks κ) (k : κ) : Decidable (m.HasRoom capacity k) :=
  inferInstanceAs (Decidable (_ ∨ _))

/-- Set a mark of the next generation, if there is room for it. -/
def mark (capacity : ℕ) (m : Marks κ) (k : κ) : Marks κ :=
  if m.HasRoom capacity k then
    { table := m.table.set k (m.generation + 1)
      generation := m.generation + 1
      le_generation := by
        intro k' g h
        rw [Dict.get?_set] at h
        split at h
        · cases h
          exact le_rfl
        · exact Nat.le_succ_of_le (m.le_generation h) }
  else m

/-- Take the mark of a key away, if it is the one that was seen. -/
def clear (m : Marks κ) (k : κ) (seen : Option ℕ) : Marks κ :=
  if m.get? k = seen then
    { m with
      table := m.table.erase k
      le_generation := fun h => m.le_generation (Dict.get?_erase_eq_some.mp h).2 }
  else m

/-- A mark of a key, any number of times in a row. -/
def markTimes (capacity : ℕ) (m : Marks κ) (k : κ) (n : ℕ) : Marks κ :=
  (fun m => m.mark capacity k)^[n] m

/-- A mark stands that is not the one that was seen. -/
def Stands (m : Marks κ) (k : κ) (seen : Option ℕ) : Prop := ∃ g, m.get? k = some g ∧ seen ≠ some g

theorem get?_le_generation {g : ℕ} (h : m.get? k = some g) : g ≤ m.generation := m.le_generation h

theorem mem_table_iff : k ∈ m.table ↔ ∃ g, m.get? k = some g := Dict.mem_iff

/-! ## Setting marks -/

theorem get?_mark_of_ne (h : k' ≠ k) : (m.mark capacity k).get? k' = m.get? k' := by
  unfold mark get?
  split
  · exact Dict.get?_set_of_ne h
  · rfl

theorem mark_of_full (h : ¬m.HasRoom capacity k) : m.mark capacity k = m := by
  unfold mark
  rw [if_neg h]

theorem get?_mark_of_hasRoom (h : m.HasRoom capacity k) :
    (m.mark capacity k).get? k = some (m.generation + 1) := by
  unfold mark get?
  rw [if_pos h]
  exact Dict.get?_set_self

theorem generation_le_mark : m.generation ≤ (m.mark capacity k).generation := by
  unfold mark
  split
  · exact Nat.le_succ _
  · exact le_rfl

theorem markTimes_succ (n : ℕ) :
    m.markTimes capacity k (n + 1) = (m.markTimes capacity k n).mark capacity k :=
  Function.iterate_succ_apply' _ _ _

theorem markTimes_markTimes (n n' : ℕ) :
    (m.markTimes capacity k n).markTimes capacity k n' = m.markTimes capacity k (n + n') := by
  unfold markTimes
  rw [Nat.add_comm, Function.iterate_add_apply]

theorem get?_markTimes_of_ne (h : k' ≠ k) (n : ℕ) : (m.markTimes capacity k n).get? k' = m.get? k' := by
  induction n with
  | zero => rfl
  | succ n ih =>
    rw [markTimes_succ, get?_mark_of_ne h]
    exact ih

theorem markTimes_of_full (h : ¬m.HasRoom capacity k) (n : ℕ) : m.markTimes capacity k n = m := by
  induction n with
  | zero => rfl
  | succ n ih =>
    rw [markTimes_succ, ih]
    exact mark_of_full h

theorem generation_le_markTimes (n : ℕ) : m.generation ≤ (m.markTimes capacity k n).generation := by
  induction n with
  | zero => exact le_rfl
  | succ n ih =>
    rw [markTimes_succ]
    exact ih.trans generation_le_mark

theorem hasRoom_mark (h : m.HasRoom capacity k) : (m.mark capacity k).HasRoom capacity k :=
  .inl (mem_table_iff.mpr ⟨_, get?_mark_of_hasRoom h⟩)

theorem hasRoom_markTimes (h : m.HasRoom capacity k) (n : ℕ) :
    (m.markTimes capacity k n).HasRoom capacity k := by
  induction n with
  | zero => exact h
  | succ n ih =>
    rw [markTimes_succ]
    exact hasRoom_mark ih

/-- After a mark that found room, the key has one of a generation after all that were before. -/
theorem exists_get?_markTimes (h : m.HasRoom capacity k) (n : ℕ) :
    ∃ g, (m.markTimes capacity k (n + 1)).get? k = some g ∧ m.generation < g := by
  have hle : m.generation ≤ (m.markTimes capacity k n).generation := generation_le_markTimes n
  refine ⟨(m.markTimes capacity k n).generation + 1, ?_, by omega⟩
  rw [markTimes_succ]
  exact get?_mark_of_hasRoom (hasRoom_markTimes h n)

/-! ## Marks that stand -/

/-- A mark that was not seen still stands after marks of any key. -/
theorem Stands.markTimes {seen : Option ℕ} (h : m.Stands k seen)
    (hseen : ∀ g, seen = some g → g ≤ m.generation) (k' : κ) (n : ℕ) :
    (m.markTimes capacity k' n).Stands k seen := by
  obtain ⟨g, hget, hne⟩ := h
  by_cases hk : k = k'
  · subst hk
    cases n with
    | zero => exact ⟨g, hget, hne⟩
    | succ n =>
      have hroom : m.HasRoom capacity k := .inl (mem_table_iff.mpr ⟨g, hget⟩)
      obtain ⟨g', hget', hlt⟩ := exists_get?_markTimes hroom n
      refine ⟨g', hget', ?_⟩
      rintro rfl
      have hle : g' ≤ m.generation := hseen g' rfl
      omega
  · exact ⟨g, by rw [get?_markTimes_of_ne hk, hget], hne⟩

theorem get?_clear_of_ne {seen : Option ℕ} (h : k' ≠ k) : (m.clear k seen).get? k' = m.get? k' := by
  unfold clear
  split
  · exact Dict.get?_erase_of_ne h
  · rfl

theorem get?_of_get?_clear {seen : Option ℕ} {g : ℕ} (h : (m.clear k seen).get? k = some g) :
    m.get? k = some g := by
  unfold clear at h
  split at h
  · exact absurd h (by simp [get?])
  · exact h

theorem generation_clear {seen : Option ℕ} : (m.clear k seen).generation = m.generation := by
  unfold clear
  split <;> rfl

/-- Who clears what it has seen leaves a mark that it has not seen. -/
theorem clear_of_stands {seen : Option ℕ} (h : m.Stands k seen) : m.clear k seen = m := by
  obtain ⟨g, hget, hne⟩ := h
  have hother : m.get? k ≠ seen := by
    rw [hget]
    exact hne.symm
  unfold clear
  rw [if_neg hother]

theorem Stands.of_get?_eq {m' : Marks κ} {seen : Option ℕ} (h : m.Stands k seen)
    (heq : m'.get? k = m.get? k) : m'.Stands k seen := by
  unfold Stands
  rw [heq]
  exact h

end Marks
