import SalienceGate.Domain.Primitives
import Mathlib.Algebra.GroupWithZero.Nat
import Mathlib.Data.String.Basic

/-!
# Bounded JSON documents

A document of the capture schemas is read only within limits: on the bytes of its text, on the values
in it and how deep they lie, and on the bytes of its strings. The text of a document is the canonical
one, so a document is given by its JSON value.
-/

/-- How long the text of a float is. -/
class FloatText where
  length : Float64 → ℕ

namespace Json

/-- The bytes of a character within a JSON string: quotes, backslashes and the control characters with a
letter of their own are escaped by two, and the other control characters by six. -/
def escapedSize (c : Char) : ℕ :=
  if c.toNat ∈ [8, 9, 10, 12, 13, 34, 92] then 2 else if c.toNat < 32 then 6 else c.utf8Size

/-- The bytes of a string in JSON. -/
def quotedLength (s : String) : ℕ := 2 + (s.toList.map escapedSize).sum

/-- The commas of a list or an object. -/
def commas (n : ℕ) : ℕ := n - 1

/-- The bytes of the canonical JSON text of a value. -/
def encodedLength [FloatText] : Json → ℕ
  | .null => 4
  | .bool true => 4
  | .bool false => 5
  | .int i => (toString i).length
  | .float x => FloatText.length x
  | .str s => quotedLength s
  | .list xs => 2 + commas xs.length + lengthOfList xs
  | .object xs => 2 + commas xs.length + lengthOfItems xs
where
  /-- `encodedLength` of the values of a list. -/
  lengthOfList : List Json → ℕ
    | [] => 0
    | x :: xs => encodedLength x + lengthOfList xs
  /-- `encodedLength` of the members of an object. -/
  lengthOfItems : List (String × Json) → ℕ
    | [] => 0
    | x :: xs => quotedLength x.1 + 1 + encodedLength x.2 + lengthOfItems xs

/-- How many values there are in a value, itself included. -/
def items : Json → ℕ
  | .list xs => 1 + itemsOfList xs
  | .object xs => 1 + itemsOfItems xs
  | _ => 1
where
  /-- `items` of the values of a list. -/
  itemsOfList : List Json → ℕ
    | [] => 0
    | x :: xs => items x + itemsOfList xs
  /-- `items` of the members of an object. -/
  itemsOfItems : List (String × Json) → ℕ
    | [] => 0
    | x :: xs => items x.2 + itemsOfItems xs

/-- How deep the values of a value lie. -/
def depth : Json → ℕ
  | .list xs => depthOfList xs
  | .object xs => depthOfItems xs
  | _ => 0
where
  /-- `depth` below a list. -/
  depthOfList : List Json → ℕ
    | [] => 0
    | x :: xs => max (depth x + 1) (depthOfList xs)
  /-- `depth` below an object. -/
  depthOfItems : List (String × Json) → ℕ
    | [] => 0
    | x :: xs => max (depth x.2 + 1) (depthOfItems xs)

/-- The bytes of the strings in a value, keys included. -/
def stringBytes : Json → ℕ
  | .str s => s.utf8ByteSize
  | .list xs => stringBytesOfList xs
  | .object xs => stringBytesOfItems xs
  | _ => 0
where
  /-- `stringBytes` of the values of a list. -/
  stringBytesOfList : List Json → ℕ
    | [] => 0
    | x :: xs => stringBytes x + stringBytesOfList xs
  /-- `stringBytes` of the members of an object. -/
  stringBytesOfItems : List (String × Json) → ℕ
    | [] => 0
    | x :: xs => x.1.utf8ByteSize + stringBytes x.2 + stringBytesOfItems xs

/-- Whether a value is an object. -/
def isObject : Json → Bool
  | .object _ => true
  | _ => false

/-! ## Bounds -/

/-- Printable ASCII characters that are not escaped. -/
def isPlain (s : String) : Bool :=
  s.toList.all fun c => 32 ≤ c.toNat && c.toNat < 127 && c.toNat ≠ 34 && c.toNat ≠ 92

theorem sum_map_one {α : Type} {f : α → ℕ} {xs : List α} (h : ∀ x ∈ xs, f x = 1) : (xs.map f).sum = xs.length := by
  induction xs with
  | nil => rfl
  | cons x xs ih =>
    have hrest := ih fun y hy => h y (List.mem_cons_of_mem _ hy)
    rw [List.map_cons, List.sum_cons, h x List.mem_cons_self, hrest, List.length_cons]
    omega

theorem quotedLength_of_isPlain {s : String} (h : isPlain s = true) : quotedLength s = 2 + s.length := by
  unfold quotedLength
  rw [sum_map_one, String.length_toList]
  intro c hc
  have hplain := List.all_eq_true.mp h c hc
  simp only [Bool.and_eq_true, decide_eq_true_eq] at hplain
  have hnot : c.toNat ∉ [8, 9, 10, 12, 13, 34, 92] := by
    simp only [List.mem_cons, List.not_mem_nil, or_false]
    omega
  have hone : c.utf8Size = 1 := Char.utf8Size_eq_one_iff.mpr (UInt32.le_iff_toNat_le.mpr (by
    show c.toNat ≤ 127
    omega))
  unfold escapedSize
  rw [if_neg hnot, if_neg (by omega), hone]

theorem utf8Len_eq_sum (cs : List Char) : String.utf8Len cs = (cs.map Char.utf8Size).sum := by
  induction cs with
  | nil => rfl
  | cons c cs ih =>
    rw [String.utf8Len_cons, ih, List.map_cons, List.sum_cons]
    omega

theorem utf8ByteSize_of_isPlain {s : String} (h : isPlain s = true) : s.utf8ByteSize = s.length := by
  have hsize := String.utf8ByteSize_ofList s.toList
  rw [String.ofList_toList] at hsize
  rw [hsize, utf8Len_eq_sum, sum_map_one, String.length_toList]
  intro c hc
  have hplain := List.all_eq_true.mp h c hc
  simp only [Bool.and_eq_true, decide_eq_true_eq] at hplain
  exact Char.utf8Size_eq_one_iff.mpr (UInt32.le_iff_toNat_le.mpr (by
    show c.toNat ≤ 127
    omega))

variable [FloatText]

/-- Bounds on a value. -/
structure Within (maxBytes maxItems maxDepth maxStringBytes : ℕ) (value : Json) : Prop where
  bytes : value.encodedLength ≤ maxBytes
  items : value.items ≤ maxItems
  depth : value.depth ≤ maxDepth
  strings : value.stringBytes ≤ maxStringBytes

/-- Bounds on the members of an object. -/
structure WithinItems (maxBytes maxItems maxDepth maxStringBytes : ℕ) (members : List (String × Json)) : Prop where
  bytes : encodedLength.lengthOfItems members ≤ maxBytes
  items : items.itemsOfItems members ≤ maxItems
  depth : depth.depthOfItems members ≤ maxDepth
  strings : stringBytes.stringBytesOfItems members ≤ maxStringBytes

variable {b b' i i' d d' t t' n : ℕ} {value : Json} {members : List (String × Json)}

theorem Within.mono (h : Within b i d t value) (hb : b ≤ b') (hi : i ≤ i') (hd : d ≤ d') (ht : t ≤ t') :
    Within b' i' d' t' value :=
  ⟨h.bytes.trans hb, h.items.trans hi, h.depth.trans hd, h.strings.trans ht⟩

theorem WithinItems.mono (h : WithinItems b i d t members) (hb : b ≤ b') (hi : i ≤ i') (hd : d ≤ d') (ht : t ≤ t') :
    WithinItems b' i' d' t' members :=
  ⟨h.bytes.trans hb, h.items.trans hi, h.depth.trans hd, h.strings.trans ht⟩

theorem within_bool (x : Bool) : Within 5 1 0 0 (.bool x) := by
  cases x with
  | false => exact ⟨le_refl 5, le_refl 1, le_refl 0, le_refl 0⟩
  | true => exact ⟨Nat.le_succ 4, le_refl 1, le_refl 0, le_refl 0⟩

theorem within_null : Within 4 1 0 0 .null := ⟨le_refl 4, le_refl 1, le_refl 0, le_refl 0⟩

theorem within_str (s : String) (n : ℕ) (h : isPlain s = true) (hs : s.length ≤ n) : Within (2 + n) 1 0 n (.str s) := by
  refine ⟨?_, le_refl 1, le_refl 0, ?_⟩
  · show quotedLength s ≤ _
    rw [quotedLength_of_isPlain h]
    omega
  · show s.utf8ByteSize ≤ _
    rw [utf8ByteSize_of_isPlain h]
    exact hs

theorem withinItems_nil : WithinItems 0 0 0 0 [] := ⟨le_refl 0, le_refl 0, le_refl 0, le_refl 0⟩

theorem WithinItems.cons (key : String) (hkey : isPlain key = true) (hvalue : Within b i d t value)
    (h : WithinItems b' i' d' t' members) :
    WithinItems (key.length + 3 + b + b') (i + i') (max (d + 1) d') (key.length + t + t') ((key, value) :: members) := by
  obtain ⟨hb, hi, hd, ht⟩ := hvalue
  obtain ⟨hb', hi', hd', ht'⟩ := h
  refine ⟨?_, Nat.add_le_add hi hi', max_le_max (Nat.succ_le_succ hd) hd', ?_⟩
  · show quotedLength key + 1 + value.encodedLength + encodedLength.lengthOfItems members ≤ _
    rw [quotedLength_of_isPlain hkey]
    omega
  · show key.utf8ByteSize + value.stringBytes + stringBytes.stringBytesOfItems members ≤ _
    rw [utf8ByteSize_of_isPlain hkey]
    omega

theorem within_object (hlength : members.length ≤ n) (h : WithinItems b i d t members) :
    Within (2 + n + b) (1 + i) d t (.object members) := by
  refine ⟨?_, Nat.add_le_add_left h.items 1, h.depth, h.strings⟩
  have hbytes := h.bytes
  show 2 + commas members.length + encodedLength.lengthOfItems members ≤ _
  unfold commas
  omega

/-- A list of so many values, each within bounds. -/
theorem within_list {values : List Json} (hlength : values.length ≤ n) (h : ∀ value ∈ values, Within b i d t value) :
    Within (2 + n * (b + 1)) (1 + n * i) (d + 1) (n * t) (.list values) := by
  have hsums : encodedLength.lengthOfList values ≤ values.length * b ∧ items.itemsOfList values ≤ values.length * i
      ∧ depth.depthOfList values ≤ d + 1 ∧ stringBytes.stringBytesOfList values ≤ values.length * t := by
    clear hlength
    induction values with
    | nil => exact ⟨Nat.zero_le _, Nat.zero_le _, Nat.zero_le _, Nat.zero_le _⟩
    | cons value values ih =>
      obtain ⟨hb, hi, hd, ht⟩ := h value List.mem_cons_self
      obtain ⟨hb', hi', hd', ht'⟩ := ih fun other hother => h other (List.mem_cons_of_mem _ hother)
      rw [List.length_cons, Nat.succ_mul, Nat.succ_mul, Nat.succ_mul]
      refine ⟨?_, ?_, max_le (Nat.succ_le_succ hd) hd', ?_⟩
      · show value.encodedLength + encodedLength.lengthOfList values ≤ _
        omega
      · show value.items + items.itemsOfList values ≤ _
        omega
      · show value.stringBytes + stringBytes.stringBytesOfList values ≤ _
        omega
  obtain ⟨hb, hi, hd, ht⟩ := hsums
  refine ⟨?_, ?_, hd, ht.trans (Nat.mul_le_mul_right t hlength)⟩
  · have hmul := Nat.mul_le_mul_right b hlength
    show 2 + commas values.length + encodedLength.lengthOfList values ≤ _
    unfold commas
    rw [Nat.mul_add, Nat.mul_one]
    omega
  · have hmul := Nat.mul_le_mul_right i hlength
    show 1 + items.itemsOfList values ≤ _
    omega

end Json

namespace SalienceGate

/-- `CaptureJSONLimits`. -/
structure CaptureJSONLimits where
  maxBytes : ℕ
  maxDepth : ℕ
  maxItems : ℕ
  maxStringBytes : ℕ

/-- `_bounded_json`: the loop visits every value once, and stops as soon as a bound is passed. -/
def boundedJson (document : Json) (limits : CaptureJSONLimits) : Bool :=
  document.items ≤ limits.maxItems && document.depth ≤ limits.maxDepth
    && document.stringBytes ≤ limits.maxStringBytes

/-- `read_bounded_json` of the canonical text of a document, whose floats are finite and whose keys are
distinct. -/
def readBoundedJson [FloatText] (document : Json) (limits : CaptureJSONLimits) : Bool :=
  document.canonical && document.encodedLength ≤ limits.maxBytes && document.isObject && boundedJson document limits

end SalienceGate
