import SalienceGate.Domain.Serde

/-!
# Text sizes

`DeterministicTokenCounter` measures a text in UTF-8 bytes and code points, and counts one token for every
started block of four bytes.
-/

namespace SalienceGate

open Checked

/-- The fields of a measurement. -/
structure TextSizeFields where
  utf8Bytes : ℕ
  codePoints : ℕ
  approximateTokens : ℕ
deriving DecidableEq

/-- `counts_are_consistent`. -/
def TextSizeFields.check (size : TextSizeFields) : Check := do
  refuse (decide (size.utf8Bytes = 0) ≠ decide (size.codePoints = 0))
    "UTF-8 byte and code-point counts must be empty together"
  refuse (size.utf8Bytes < size.codePoints) "code-point count cannot exceed the UTF-8 byte count"
  refuse (size.codePoints * 4 < size.utf8Bytes) "UTF-8 byte count cannot exceed four bytes per code point"
  refuse (size.approximateTokens ≠ (size.utf8Bytes + 3) / 4)
    "approximate token count does not match the algorithm version"

/-- `TextSize`. -/
structure TextSize extends TextSizeFields where
  valid : toTextSizeFields.check = .ok ()
deriving DecidableEq

/-- `TextSize(...)`. -/
def TextSize.create (fields : TextSizeFields) : Except ValidationError TextSize :=
  validate TextSizeFields.check TextSize.mk fields

/-- `DeterministicTokenCounter.measure`. -/
def measure (text : String) : Except ValidationError TextSize :=
  TextSize.create {
    utf8Bytes := text.utf8ByteSize
    codePoints := text.length
    approximateTokens := (text.utf8ByteSize + 3) / 4 }

theorem TextSizeFields.check_eq_ok {size : TextSizeFields} :
    size.check = .ok () ↔ (size.utf8Bytes = 0 ↔ size.codePoints = 0) ∧ size.codePoints ≤ size.utf8Bytes
      ∧ size.utf8Bytes ≤ size.codePoints * 4 ∧ size.approximateTokens = (size.utf8Bytes + 3) / 4 := by
  unfold TextSizeFields.check
  simp only [refuse_bind_eq_ok, refuse_eq_ok, not_lt, ne_eq, not_not, decide_eq_decide]

/-- A character takes one byte to four. -/
theorem utf8Bytes_between (cs : List Char) : cs.length ≤ Json.utf8Bytes cs ∧ Json.utf8Bytes cs ≤ cs.length * 4 := by
  induction cs with
  | nil => exact ⟨le_rfl, le_rfl⟩
  | cons c cs ih =>
    have hlow := Char.utf8Size_pos c
    have hhigh := Char.utf8Size_le_four c
    rw [Json.utf8Bytes_cons, List.length_cons]
    omega

/-- Every text is measured, in the bytes of its encoding. -/
theorem measure_eq_ok (text : String) : ∃ size, measure text = .ok size ∧ size.utf8Bytes = text.utf8ByteSize
    ∧ size.approximateTokens = (text.utf8ByteSize + 3) / 4 := by
  have hbetween := utf8Bytes_between text.toList
  rw [Json.utf8Bytes_toList, String.length_toList] at hbetween
  obtain ⟨hlow, hhigh⟩ := hbetween
  have hvalid : TextSizeFields.check ⟨text.utf8ByteSize, text.length, (text.utf8ByteSize + 3) / 4⟩ = .ok () := by
    refine TextSizeFields.check_eq_ok.mpr ⟨?_, hlow, hhigh, rfl⟩
    show text.utf8ByteSize = 0 ↔ text.length = 0
    omega
  exact ⟨⟨_, hvalid⟩, validate_self hvalid, rfl, rfl⟩

end SalienceGate
