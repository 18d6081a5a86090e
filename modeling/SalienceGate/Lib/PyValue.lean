import Mathlib.Algebra.GroupWithZero.Nat
import SalienceGate.Lib.Json

/-!
# Values as Python holds them

A decoded document is a Python object before anything is known of it: a string may hold lone surrogates, a float may be
infinite, a dictionary may have keys that are no strings, and anything may be an object of another type. Its parts are
the values in it, each with its depth; what a part says of itself alone is its strings and whether it is sound.
-/

/-- A code point of a Python string. -/
abbrev CodePoint : Type := Fin 0x110000

namespace CodePoint

/-- A half of a surrogate pair. -/
def isSurrogate (c : CodePoint) : Bool := 0xD800 ≤ c.val && c.val ≤ 0xDFFF

/-- The bytes of a code point in UTF-8. -/
def utf8Size (c : CodePoint) : ℕ :=
  if c.val < 0x80 then 1 else if c.val < 0x800 then 2 else if c.val < 0x10000 then 3 else 4

/-- A code point in UTF-8, or none for a surrogate. -/
def encode (c : CodePoint) : Option (List UInt8) :=
  if h : c.val.isValidChar then some (String.utf8EncodeChar (Char.ofNatAux c.val h)) else none

/-- A character, which is no surrogate. -/
def ofChar (c : Char) : CodePoint := ⟨c.toNat, c.valid.elim (by unfold Char.toNat; omega) And.right⟩

end CodePoint

/-- A Python string. -/
abbrev PyStr : Type := List CodePoint

namespace PyStr

/-- `text.encode("utf-8", errors="strict")`, or none where it raises. -/
def encode (text : PyStr) : Option (List UInt8) := (text.mapM CodePoint.encode).map List.flatten

/-- No surrogates. -/
def wellFormed (text : PyStr) : Bool := text.all fun c => !c.isSurrogate

/-- The bytes of a string in UTF-8. -/
def utf8Size (text : PyStr) : ℕ := (text.map CodePoint.utf8Size).sum

end PyStr

/-- The key of a dictionary: a `str`, or an object of another type. -/
inductive PyKey where
  | str (text : PyStr)
  | other
deriving DecidableEq

/-- A Python object, by its exact type. -/
inductive PyValue where
  | none
  | bool (b : Bool)
  | int (i : ℤ)
  | float (x : Float64)
  | str (text : PyStr)
  | list (elements : List PyValue)
  | dict (members : List (PyKey × PyValue))
  | other

/-! ## Encoded strings -/

theorem CodePoint.isValidChar_iff (c : CodePoint) : c.val.isValidChar ↔ c.isSurrogate = false := by
  have hbound : c.val < 0x110000 := c.isLt
  unfold CodePoint.isSurrogate Nat.isValidChar
  simp only [Bool.and_eq_false_iff, decide_eq_false_iff_not]
  omega

theorem CodePoint.isSurrogate_ofChar (c : Char) : (CodePoint.ofChar c).isSurrogate = false :=
  (CodePoint.isValidChar_iff _).mp c.valid

theorem CodePoint.utf8Size_ofChar (c : Char) : (CodePoint.ofChar c).utf8Size = c.utf8Size := by
  have hval : c.val.toNat = (CodePoint.ofChar c).val := rfl
  unfold Char.utf8Size CodePoint.utf8Size
  simp only [UInt32.le_iff_toNat_le, hval, UInt32.toNat_ofNatLT]
  split_ifs <;> omega

/-- A code point has the bytes of its encoding, which a surrogate does not have. -/
theorem CodePoint.encode_length (c : CodePoint) :
    c.encode.map List.length = if c.isSurrogate then none else some c.utf8Size := by
  unfold CodePoint.encode
  by_cases hvalid : c.val.isValidChar
  · have hscalar : ¬c.isSurrogate = true := by
      rw [(CodePoint.isValidChar_iff c).mp hvalid]
      exact Bool.false_ne_true
    have hsize : (Char.ofNatAux c.val hvalid).utf8Size = c.utf8Size := (CodePoint.utf8Size_ofChar _).symm
    rw [dif_pos hvalid, if_neg hscalar, Option.map_some, String.length_utf8EncodeChar, hsize]
  · have hsurrogate : c.isSurrogate = true := by
      rw [CodePoint.isValidChar_iff] at hvalid
      exact Bool.eq_true_of_not_eq_false hvalid
    rw [dif_neg hvalid, if_pos hsurrogate, Option.map_none]

namespace PyStr

@[simp] theorem wellFormed_cons (c : CodePoint) (text : PyStr) :
    wellFormed (c :: text) = (!c.isSurrogate && wellFormed text) := rfl

@[simp] theorem utf8Size_cons (c : CodePoint) (text : PyStr) : utf8Size (c :: text) = c.utf8Size + utf8Size text := rfl

theorem encode_cons (c : CodePoint) (text : PyStr) :
    encode (c :: text) = c.encode.bind fun bytes => (encode text).map (bytes ++ ·) := by
  unfold encode
  rw [List.mapM_cons]
  cases c.encode with
  | none => rfl
  | some bytes =>
    cases text.mapM CodePoint.encode with
    | none => rfl
    | some rest => rfl

/-- A string has the bytes of its encoding, which only a well-formed one has. -/
theorem encode_length (text : PyStr) :
    (encode text).map List.length = if wellFormed text then some (utf8Size text) else none := by
  induction text with
  | nil => rfl
  | cons c text ih =>
    have hpoint := c.encode_length
    rw [encode_cons, wellFormed_cons, utf8Size_cons]
    cases hc : c.encode with
    | none =>
      rw [hc, Option.map_none] at hpoint
      cases hsurrogate : c.isSurrogate with
      | false =>
        rw [hsurrogate] at hpoint
        cases hpoint
      | true => rfl
    | some bytes =>
      rw [hc, Option.map_some] at hpoint
      cases hsurrogate : c.isSurrogate with
      | true =>
        rw [hsurrogate] at hpoint
        cases hpoint
      | false =>
        rw [hsurrogate] at hpoint
        have hlength : bytes.length = c.utf8Size := Option.some.inj hpoint
        rw [Option.bind_some, Option.map_map]
        have hmap : (List.length ∘ fun rest => bytes ++ rest) = (c.utf8Size + ·) ∘ List.length := by
          funext rest
          rw [Function.comp_apply, List.length_append, hlength]
          rfl
        rw [hmap, ← Option.map_map, ih]
        cases wellFormed text with
        | false => rfl
        | true => rfl

/-- A string has an encoding of so many bytes, or none if it is ill-formed. -/
theorem encode_cases (text : PyStr) :
    (wellFormed text = true ∧ ∃ bytes, encode text = some bytes ∧ bytes.length = utf8Size text)
    ∨ (wellFormed text = false ∧ encode text = none) := by
  have hlength := encode_length text
  cases hwell : wellFormed text with
  | true =>
    rw [hwell, if_pos rfl] at hlength
    obtain ⟨bytes, hbytes, hsize⟩ := Option.map_eq_some_iff.mp hlength
    exact .inl ⟨rfl, bytes, hbytes, hsize⟩
  | false =>
    rw [hwell, if_neg Bool.false_ne_true] at hlength
    exact .inr ⟨rfl, Option.map_eq_none_iff.mp hlength⟩

end PyStr

/-! ## Parts -/

namespace PyValue

/-- The values directly within a value. -/
def children : PyValue → List PyValue
  | .list elements => elements
  | .dict members => members.map Prod.snd
  | _ => []

/-- Every value in a value, itself first, with its depth. -/
def parts : PyValue → ℕ → List (PyValue × ℕ)
  | .list elements, depth => (.list elements, depth) :: partsOfElements elements (depth + 1)
  | .dict members, depth => (.dict members, depth) :: partsOfMembers members (depth + 1)
  | value, depth => [(value, depth)]
where
  /-- `parts` of the elements of a list. -/
  partsOfElements : List PyValue → ℕ → List (PyValue × ℕ)
    | [], _ => []
    | value :: elements, depth => parts value depth ++ partsOfElements elements depth
  /-- `parts` of the values of a dictionary. -/
  partsOfMembers : List (PyKey × PyValue) → ℕ → List (PyValue × ℕ)
    | [], _ => []
    | member :: members, depth => parts member.2 depth ++ partsOfMembers members depth

/-- The strings that are a value's own: its text, or its keys. -/
def ownStrings : PyValue → List PyStr
  | .str text => [text]
  | .dict members => members.filterMap fun member =>
    match member.1 with
    | .str key => some key
    | .other => Option.none
  | _ => []

/-- A JSON type, with keys that are strings and a number that is finite. -/
def isJson : PyValue → Bool
  | .dict members => members.all fun member =>
    match member.1 with
    | .str _ => true
    | .other => false
  | .float x => x.isFinite
  | .other => false
  | _ => true

/-- A JSON type whose own strings are well-formed. -/
def sound (value : PyValue) : Bool := value.isJson && value.ownStrings.all PyStr.wellFormed

/-- The bytes of a value's own strings. -/
def ownBytes (value : PyValue) : ℕ := (value.ownStrings.map PyStr.utf8Size).sum

theorem partsOfElements_eq (elements : List PyValue) (depth : ℕ) :
    parts.partsOfElements elements depth = elements.flatMap (parts · depth) := by
  induction elements with
  | nil => rfl
  | cons value elements ih =>
    rw [List.flatMap_cons, ← ih]
    rfl

theorem partsOfMembers_eq (members : List (PyKey × PyValue)) (depth : ℕ) :
    parts.partsOfMembers members depth = (members.map Prod.snd).flatMap (parts · depth) := by
  induction members with
  | nil => rfl
  | cons member members ih =>
    rw [List.map_cons, List.flatMap_cons, ← ih]
    rfl

/-- A value's parts are itself and the parts of the values directly within it. -/
theorem parts_eq (value : PyValue) (depth : ℕ) :
    value.parts depth = (value, depth) :: value.children.flatMap (parts · (depth + 1)) := by
  cases value with
  | list elements =>
    show _ :: parts.partsOfElements elements (depth + 1) = _
    rw [partsOfElements_eq]
    rfl
  | dict members =>
    show _ :: parts.partsOfMembers members (depth + 1) = _
    rw [partsOfMembers_eq]
    rfl
  | _ => rfl

theorem parts_length_pos (value : PyValue) (depth : ℕ) : 0 < (value.parts depth).length := by
  rw [parts_eq, List.length_cons]
  omega

/-! ## JSON values -/

end PyValue

/-- A string of characters as Python holds it. -/
def PyStr.ofString (s : String) : PyStr := s.toList.map CodePoint.ofChar

/-- A JSON value as Python holds it. -/
def PyValue.ofJson : Json → PyValue
  | .null => .none
  | .bool b => .bool b
  | .int i => .int i
  | .float x => .float x
  | .str s => .str (PyStr.ofString s)
  | .list items => .list (ofItems items)
  | .object members => .dict (ofMembers members)
where
  /-- `ofJson` on the items of a list. -/
  ofItems : List Json → List PyValue
    | [] => []
    | item :: items => ofJson item :: ofItems items
  /-- `ofJson` on the members of an object. -/
  ofMembers : List (String × Json) → List (PyKey × PyValue)
    | [] => []
    | member :: members => (.str (PyStr.ofString member.1), ofJson member.2) :: ofMembers members

theorem PyStr.wellFormed_ofString (s : String) : PyStr.wellFormed (PyStr.ofString s) = true := by
  unfold PyStr.wellFormed PyStr.ofString
  rw [List.all_map, List.all_eq_true]
  intro c _
  rw [Function.comp_apply, CodePoint.isSurrogate_ofChar]
  rfl

theorem PyStr.utf8Size_ofString (s : String) : PyStr.utf8Size (PyStr.ofString s) = (s.toList.map Char.utf8Size).sum := by
  unfold PyStr.utf8Size PyStr.ofString
  rw [List.map_map]
  congr 1
  exact List.map_congr_left fun c _ => CodePoint.utf8Size_ofChar c

namespace PyValue

/-! ## Reordered values -/

/-- What the size and the soundness of a part depend on: whether it is sound, the bytes of its own strings, and its
depth. -/
def mark (part : PyValue × ℕ) : Bool × ℕ × ℕ := (part.1.sound, part.1.ownBytes, part.2)

/-- The marks of every value in a value. -/
def marks (value : PyValue) (depth : ℕ) : List (Bool × ℕ × ℕ) := (value.parts depth).map mark

/-- One value is the other with the elements of lists and the members of dictionaries in another order, at any depth. -/
inductive Reordered : PyValue → PyValue → Prop where
  | refl (value : PyValue) : Reordered value value
  | trans {a b c : PyValue} : Reordered a b → Reordered b c → Reordered a c
  | elements {xs ys : List PyValue} : xs.Perm ys → Reordered (.list xs) (.list ys)
  | members {xs ys : List (PyKey × PyValue)} : xs.Perm ys → Reordered (.dict xs) (.dict ys)
  | element {v w : PyValue} (xs ys : List PyValue) : Reordered v w →
      Reordered (.list (xs ++ v :: ys)) (.list (xs ++ w :: ys))
  | member {v w : PyValue} (key : PyKey) (xs ys : List (PyKey × PyValue)) : Reordered v w →
      Reordered (.dict (xs ++ (key, v) :: ys)) (.dict (xs ++ (key, w) :: ys))

theorem marks_eq (value : PyValue) (depth : ℕ) :
    value.marks depth = mark (value, depth) :: value.children.flatMap (marks · (depth + 1)) := by
  unfold marks
  rw [parts_eq, List.map_cons, List.map_flatMap]

/-- A value at an edge has the marks that another one has there, if all else is the same. -/
theorem perm_of_child {v w : PyValue} {depth : ℕ} {m m' : Bool × ℕ × ℕ} (xs ys : List PyValue) (hown : m = m')
    (h : (v.marks depth).Perm (w.marks depth)) :
    (m :: (xs ++ v :: ys).flatMap (marks · depth)).Perm (m' :: (xs ++ w :: ys).flatMap (marks · depth)) := by
  rw [hown, List.flatMap_append, List.flatMap_append, List.flatMap_cons, List.flatMap_cons]
  exact ((h.append_right _).append_left _).cons _

/-- Reordered values have the same marks, in some order. -/
theorem Reordered.marks_perm {v w : PyValue} (h : Reordered v w) (depth : ℕ) :
    (v.marks depth).Perm (w.marks depth) := by
  induction h generalizing depth with
  | refl value => exact .refl _
  | trans _ _ ih ih' => exact (ih depth).trans (ih' depth)
  | elements hperm =>
    rw [marks_eq, marks_eq]
    exact (hperm.flatMap_right _).cons _
  | @members xs ys hperm =>
    -- the keys of a dictionary are its own, whatever their order
    have hjson : (PyValue.dict xs).isJson = (PyValue.dict ys).isJson := hperm.all_eq
    have hstrings : (PyValue.dict xs).ownStrings.Perm (PyValue.dict ys).ownStrings := hperm.filterMap _
    have hown : mark (.dict xs, depth) = mark (.dict ys, depth) := by
      unfold mark sound ownBytes
      rw [hjson, hstrings.all_eq, (hstrings.map _).sum_nat]
    rw [marks_eq, marks_eq, hown]
    exact ((hperm.map Prod.snd).flatMap_right _).cons _
  | element xs ys _ ih =>
    rw [marks_eq, marks_eq]
    exact perm_of_child xs ys rfl (ih _)
  | @member v w key xs ys _ ih =>
    have hchildren : ∀ value : PyValue, (PyValue.dict (xs ++ (key, value) :: ys)).children
        = xs.map Prod.snd ++ value :: ys.map Prod.snd := fun value => List.map_append
    have hjson : (PyValue.dict (xs ++ (key, v) :: ys)).isJson = (PyValue.dict (xs ++ (key, w) :: ys)).isJson := by
      show List.all _ _ = List.all _ _
      rw [List.all_append, List.all_append]
      rfl
    have hstrings : (PyValue.dict (xs ++ (key, v) :: ys)).ownStrings
        = (PyValue.dict (xs ++ (key, w) :: ys)).ownStrings := by
      show List.filterMap _ _ = List.filterMap _ _
      rw [List.filterMap_append, List.filterMap_append]
      rfl
    have hown : mark (.dict (xs ++ (key, v) :: ys), depth) = mark (.dict (xs ++ (key, w) :: ys), depth) := by
      unfold mark sound ownBytes
      rw [hjson, hstrings]
    rw [marks_eq, marks_eq, hchildren, hchildren]
    exact perm_of_child _ _ hown (ih _)

end PyValue
