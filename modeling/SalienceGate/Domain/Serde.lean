import Mathlib.Data.String.Lemmas
import SalienceGate.Capture.Schema

/-!
# Canonical JSON text

`canonical_json` writes a value without blanks, with the members of an object in key order and with only
quotes, backslashes and control characters escaped. Its text has the bytes that `encodedLength` counts.
-/

/-- How a float is written: `float.__repr__`. -/
class FloatRepr where
  text : Float64 → String

/-- The text of a float has a length. -/
instance floatTextOfRepr [FloatRepr] : FloatText := ⟨fun x => (FloatRepr.text x).utf8ByteSize⟩

namespace Json

/-- A character within a JSON string. -/
def escape (c : Char) : List Char :=
  if c.toNat = 8 then ['\\', 'b']
  else if c.toNat = 9 then ['\\', 't']
  else if c.toNat = 10 then ['\\', 'n']
  else if c.toNat = 12 then ['\\', 'f']
  else if c.toNat = 13 then ['\\', 'r']
  else if c.toNat = 34 then ['\\', '"']
  else if c.toNat = 92 then ['\\', '\\']
  else if c.toNat < 32 then '\\' :: 'u' :: Hex.digits 4 c.toNat
  else [c]

/-- A JSON string. -/
def quoted (s : String) : List Char := '"' :: (s.toList.flatMap escape ++ ['"'])

/-- The characters of the canonical text of a value. -/
def chars [FloatRepr] : Json → List Char
  | .null => "null".toList
  | .bool true => "true".toList
  | .bool false => "false".toList
  | .int i => (toString i).toList
  | .float x => (FloatRepr.text x).toList
  | .str s => quoted s
  | .list xs => '[' :: (charsOfList xs ++ [']'])
  | .object xs => '\x7b' :: (charsOfItems xs ++ ['\x7d'])
where
  /-- The values of a list, with commas between them. -/
  charsOfList : List Json → List Char
    | [] => []
    | x :: xs => chars x ++ (if xs.isEmpty then [] else ',' :: charsOfList xs)
  /-- The members of an object, with commas between them. -/
  charsOfItems : List (String × Json) → List Char
    | [] => []
    | x :: xs => quoted x.1 ++ ':' :: (chars x.2 ++ (if xs.isEmpty then [] else ',' :: charsOfItems xs))

/-! ## The bytes of the text -/

/-- The UTF-8 bytes of a list of characters. -/
def utf8Bytes (cs : List Char) : ℕ := (cs.map Char.utf8Size).sum

@[simp] theorem utf8Bytes_nil : utf8Bytes [] = 0 := rfl

@[simp] theorem utf8Bytes_cons (c : Char) (cs : List Char) : utf8Bytes (c :: cs) = c.utf8Size + utf8Bytes cs := rfl

@[simp] theorem utf8Bytes_append (cs ds : List Char) : utf8Bytes (cs ++ ds) = utf8Bytes cs + utf8Bytes ds := by
  unfold utf8Bytes
  rw [List.map_append, List.sum_append]

theorem utf8Bytes_toList (s : String) : utf8Bytes s.toList = s.utf8ByteSize := by
  have hsize := String.utf8ByteSize_ofList s.toList
  rw [String.ofList_toList, utf8Len_eq_sum] at hsize
  exact hsize.symm

theorem utf8Bytes_control {n : ℕ} (h : n < 32) : utf8Bytes ('\\' :: 'u' :: Hex.digits 4 n) = 6 := by
  interval_cases n <;> rfl

theorem utf8Bytes_escape (c : Char) : utf8Bytes (escape c) = escapedSize c := by
  unfold escape escapedSize
  simp only [List.mem_cons, List.not_mem_nil, or_false]
  by_cases hletter : c.toNat = 8 ∨ c.toNat = 9 ∨ c.toNat = 10 ∨ c.toNat = 12 ∨ c.toNat = 13 ∨ c.toNat = 34 ∨ c.toNat = 92
  · rcases hletter with h | h | h | h | h | h | h <;> (simp only [h]; rfl)
  · obtain ⟨h8, h9, h10, h12, h13, h34, h92⟩ : c.toNat ≠ 8 ∧ c.toNat ≠ 9 ∧ c.toNat ≠ 10 ∧ c.toNat ≠ 12
        ∧ c.toNat ≠ 13 ∧ c.toNat ≠ 34 ∧ c.toNat ≠ 92 := by omega
    rw [if_neg h8, if_neg h9, if_neg h10, if_neg h12, if_neg h13, if_neg h34, if_neg h92, if_neg hletter]
    by_cases hcontrol : c.toNat < 32
    · rw [if_pos hcontrol, if_pos hcontrol, utf8Bytes_control hcontrol]
    · rw [if_neg hcontrol, if_neg hcontrol]
      exact Nat.add_zero _

theorem utf8Bytes_quoted (s : String) : utf8Bytes (quoted s) = quotedLength s := by
  have hinner : ∀ cs : List Char, utf8Bytes (cs.flatMap escape) = (cs.map escapedSize).sum := by
    intro cs
    induction cs with
    | nil => rfl
    | cons c cs ih => rw [List.flatMap_cons, utf8Bytes_append, utf8Bytes_escape, ih, List.map_cons, List.sum_cons]
  unfold quoted quotedLength
  rw [utf8Bytes_cons, utf8Bytes_append, hinner]
  show 1 + (_ + 1) = _
  omega

theorem isDigit_of_mem_repr {n : ℕ} {c : Char} (h : c ∈ (Nat.repr n).toList) : c.isDigit = true := by
  have hdigits : (Nat.repr n).toList = Nat.toDigits 10 n := by simp [Nat.repr]
  rw [hdigits] at h
  exact Nat.isDigit_of_mem_toDigits (by omega) (by omega) h

theorem isPlain_of_digits {cs : List Char} (h : ∀ c ∈ cs, c.isDigit = true ∨ c = '-') : isPlain (String.ofList cs) = true := by
  unfold isPlain
  rw [String.toList_ofList, List.all_eq_true]
  intro c hc
  rcases h c hc with hdigit | rfl
  · unfold Char.isDigit at hdigit
    simp only [Bool.and_eq_true, decide_eq_true_eq, ge_iff_le] at hdigit
    obtain ⟨hlow, hhigh⟩ := hdigit
    have hlow' : 48 ≤ c.toNat := UInt32.le_iff_toNat_le.mp hlow
    have hhigh' : c.toNat ≤ 57 := UInt32.le_iff_toNat_le.mp hhigh
    simp only [Bool.and_eq_true, decide_eq_true_eq]
    omega
  · rfl

/-- The text of an integer has only digits and at most a sign. -/
theorem isPlain_int (i : ℤ) : isPlain (toString i) = true := by
  have htext : toString i = String.ofList (toString i).toList := (String.ofList_toList).symm
  rw [htext]
  refine isPlain_of_digits fun c hc => ?_
  cases i with
  | ofNat n => exact .inl (isDigit_of_mem_repr hc)
  | negSucc n =>
    have hsplit : (toString (Int.negSucc n)).toList = '-' :: (Nat.repr (n + 1)).toList := by
      show ("-" ++ Nat.repr (n + 1)).toList = _
      rw [String.toList_append]
      rfl
    rw [hsplit] at hc
    rcases List.mem_cons.mp hc with rfl | hc
    · exact .inr rfl
    · exact .inl (isDigit_of_mem_repr hc)

variable [FloatRepr]

mutual

theorem utf8Bytes_chars : ∀ value : Json, utf8Bytes value.chars = value.encodedLength
  | .null => rfl
  | .bool true => rfl
  | .bool false => rfl
  | .int i => by
    show utf8Bytes (toString i).toList = (toString i).length
    rw [utf8Bytes_toList, utf8ByteSize_of_isPlain (isPlain_int i)]
  | .float x => by
    show utf8Bytes (FloatRepr.text x).toList = (FloatRepr.text x).utf8ByteSize
    exact utf8Bytes_toList _
  | .str s => utf8Bytes_quoted s
  | .list xs => by
    show utf8Bytes ('[' :: (chars.charsOfList xs ++ [']'])) = 2 + commas xs.length + encodedLength.lengthOfList xs
    rw [utf8Bytes_cons, utf8Bytes_append, utf8Bytes_charsOfList xs]
    show 1 + (_ + 1) = _
    omega
  | .object xs => by
    show utf8Bytes ('\x7b' :: (chars.charsOfItems xs ++ ['\x7d'])) = 2 + commas xs.length + encodedLength.lengthOfItems xs
    rw [utf8Bytes_cons, utf8Bytes_append, utf8Bytes_charsOfItems xs]
    show 1 + (_ + 1) = _
    omega

theorem utf8Bytes_charsOfList : ∀ xs : List Json,
    utf8Bytes (chars.charsOfList xs) = commas xs.length + encodedLength.lengthOfList xs
  | [] => rfl
  | [x] => by
    show utf8Bytes (x.chars ++ []) = 0 + (x.encodedLength + 0)
    rw [List.append_nil, utf8Bytes_chars x]
    omega
  | x :: y :: xs => by
    show utf8Bytes (x.chars ++ ',' :: chars.charsOfList (y :: xs))
      = xs.length + 1 + (x.encodedLength + encodedLength.lengthOfList (y :: xs))
    have hrest := utf8Bytes_charsOfList (y :: xs)
    have hcomma : Char.utf8Size ',' = 1 := rfl
    rw [utf8Bytes_append, utf8Bytes_cons, utf8Bytes_chars x, hrest, hcomma]
    show _ + (1 + (xs.length + _)) = _
    omega

theorem utf8Bytes_charsOfItems : ∀ xs : List (String × Json),
    utf8Bytes (chars.charsOfItems xs) = commas xs.length + encodedLength.lengthOfItems xs
  | [] => rfl
  | [(key, x)] => by
    show utf8Bytes (quoted key ++ ':' :: (x.chars ++ [])) = 0 + (quotedLength key + 1 + x.encodedLength + 0)
    have hcolon : Char.utf8Size ':' = 1 := rfl
    rw [utf8Bytes_append, utf8Bytes_quoted, utf8Bytes_cons, List.append_nil, utf8Bytes_chars x, hcolon]
    omega
  | (key, x) :: y :: xs => by
    show utf8Bytes (quoted key ++ ':' :: (x.chars ++ ',' :: chars.charsOfItems (y :: xs)))
      = xs.length + 1 + (quotedLength key + 1 + x.encodedLength + encodedLength.lengthOfItems (y :: xs))
    have hrest := utf8Bytes_charsOfItems (y :: xs)
    have hcolon : Char.utf8Size ':' = 1 := rfl
    have hcomma : Char.utf8Size ',' = 1 := rfl
    rw [utf8Bytes_append, utf8Bytes_quoted, utf8Bytes_cons, utf8Bytes_append, utf8Bytes_cons, utf8Bytes_chars x, hrest,
      hcolon, hcomma]
    show _ + (1 + (_ + (1 + (xs.length + _)))) = _
    omega

end

end Json

namespace SalienceGate

variable [FloatRepr]

/-- `canonical_json`, as the text that its bytes encode. -/
def canonicalJson (value : Json) : String := String.ofList value.chars

/-- `len(canonical_json(value))`. -/
def canonicalSize (value : Json) : ℕ := (canonicalJson value).utf8ByteSize

/-- The canonical text of a value has the bytes that its encoded length counts. -/
theorem canonicalSize_eq (value : Json) : canonicalSize value = value.encodedLength := by
  unfold canonicalSize canonicalJson
  rw [← Json.utf8Bytes_toList, String.toList_ofList]
  exact Json.utf8Bytes_chars value

end SalienceGate
