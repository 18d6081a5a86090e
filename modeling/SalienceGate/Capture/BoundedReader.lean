import SalienceGate.Capture.BoundsWalk
import SalienceGate.Domain.CanonicalText
import SalienceGate.Lib.Checked
import SalienceGate.Lib.JsonMembers

/-!
# Reading the bytes of a document

The bytes of a stored document are read twice: by `read_bounded_json`, through `json.loads` with hooks that refuse
constants and repeated names, and by the validator of its schema, through a parser of its own. Both read the canonical
bytes of a value without floats as the value (`readBoundedBytes_canonicalBytes`, `decodeJson_canonicalBytes`).
-/

/-- The float that a numeral is: `float(token)`. -/
class FloatReading where
  read : List Char → Float64

namespace SalienceGate

open Checked Json JsonText

/-- `CaptureSchemaError`, which says nothing more. -/
inductive CaptureSchemaError where
  | invalid
deriving DecidableEq

/-! ## `read_bounded_json` -/

section reader

variable [FloatReading]

/-- `_reject_constant`. -/
def rejectConstantOfCapture (_value : String) : Except CaptureSchemaError PyValue := .error .invalid

/-- A string of the parser. -/
def pyText (us : List ℕ) : PyStr := us.map (Fin.ofNat 0x110000)

/-- One round of `_unique_object`. -/
def insertUnique (result : List (PyKey × PyValue)) (pair : List ℕ × PyValue) :
    Except CaptureSchemaError (List (PyKey × PyValue)) :=
  if PyKey.str (pyText pair.1) ∈ result.map Prod.fst then .error .invalid
  else .ok (result ++ [(.str (pyText pair.1), pair.2)])

/-- `_unique_object`. -/
def uniqueObject (pairs : List (List ℕ × PyValue)) : Except CaptureSchemaError PyValue :=
  .dict <$> pairs.foldlM insertUnique []

/-- `int(token)`, which refuses a token of too many digits. -/
def pyInt (token : List Char) : Except CaptureSchemaError PyValue :=
  if (token.filter Char.isDigit).length > maxIntDigits then .error .invalid else .ok (.int (intOfToken token))

/-- The hooks that `read_bounded_json` passes to `json.loads`, and those that it leaves. -/
def captureHooks : Hooks CaptureSchemaError PyValue where
  null := .none
  bool := .bool
  string := fun us => .str (pyText us)
  array := .list
  object := uniqueObject
  integer := pyInt
  float := fun token => .ok (.float (FloatReading.read token))
  constant := rejectConstantOfCapture

/-- `read_bounded_json`, up to the freezing of what it returns. -/
def readBoundedBytes (value : ByteArray) (limits : CaptureJSONLimits) :
    Except CaptureSchemaError (List (PyKey × PyValue)) := do
  raiseIf (¬(1 ≤ value.size ∧ value.size ≤ limits.maxBytes)) .invalid
  let text ← expect value.utf8Decode? .invalid
  let decoded ← loads captureHooks .invalid text.toList
  match decoded with
  | .dict members => do
    raiseIf (boundedPyJson decoded limits ≠ some true) .invalid
    return members
  | _ => .error .invalid

/-! ## The parser of the validators -/

/-- The character of a code point, or none for a surrogate. -/
def charOfCode (u : ℕ) : Option Char := if h : u.isValidChar then some (Char.ofNatAux u h) else none

/-- The string of code points, or none if there are surrogates among them. -/
def stringOfCodes (us : List ℕ) : Option String := (us.mapM charOfCode).map String.ofList

/-- The float that a constant is. -/
def constantFloat (name : String) : Float64 :=
  if name = "Infinity" then ⟨0x7FF0000000000000⟩ else if name = "-Infinity" then ⟨0xFFF0000000000000⟩
  else ⟨0x7FF8000000000000⟩

/-- The value of a tree, as a validator of JSON text takes it: a string must be well-formed, and the last member of a
name counts. -/
def jsonOfTree : Tree → Option Json
  | .null => some .null
  | .bool b => some (.bool b)
  | .number token isInteger =>
    some (if isInteger then .int (intOfToken token) else .float (FloatReading.read token))
  | .constant name => some (.float (constantFloat name))
  | .string us => (stringOfCodes us).map .str
  | .array ts => (jsonOfItems ts).map .list
  | .object ms => (jsonOfMembers ms).map fun members => .object (sortMembers members)
where
  /-- `jsonOfTree` of the items of an array. -/
  jsonOfItems : List Tree → Option (List Json)
    | [] => some []
    | t :: ts => (jsonOfTree t).bind fun item => (jsonOfItems ts).map (item :: ·)
  /-- `jsonOfTree` of the members of an object. -/
  jsonOfMembers : List (List ℕ × Tree) → Option (List (String × Json))
    | [] => some []
    | m :: ms => (stringOfCodes m.1).bind fun key => (jsonOfTree m.2).bind fun value =>
        (jsonOfMembers ms).map ((key, value) :: ·)

/-- The JSON value of the bytes that a validator is given. -/
def decodeJson (value : ByteArray) : Option Json :=
  value.utf8Decode?.bind fun text => (parse text.toList).bind jsonOfTree

end reader

/-! ## Canonical bytes -/

section canonical

variable [FloatRepr]

/-- `canonical_json`. -/
def canonicalBytes (value : Json) : ByteArray := (canonicalJson value).toByteArray

theorem utf8Decode?_canonicalBytes (value : Json) : (canonicalBytes value).utf8Decode? = some value.chars.toArray := by
  unfold canonicalBytes canonicalJson
  rw [String.toByteArray_ofList, List.utf8Decode?_utf8Encode]

theorem size_canonicalBytes (value : Json) : (canonicalBytes value).size = value.encodedLength := canonicalSize_eq value

variable [FloatReading]

omit [FloatRepr] [FloatReading] in
theorem stringOfCodes_codePoints (s : String) : stringOfCodes (codePoints s) = some s := by
  have hchars : (s.toList.map Char.toNat).mapM charOfCode = some s.toList := by
    rw [mapM_eq_some, List.map_map]
    exact List.map_congr_left fun c _ => dif_pos c.valid
  unfold stringOfCodes codePoints
  rw [hchars, Option.map_some, String.ofList_toList]

mutual

/-- The tree of a well-formed value is read as the value. -/
theorem jsonOfTree_tree : ∀ {j : Json}, j.canonical = true → j.plainNumbers = true → jsonOfTree j.tree = some j
  | .null, _, _ => rfl
  | .bool _, _, _ => rfl
  | .int i, _, _ => by
    show some (Json.int (intOfToken (toString i).toList)) = _
    rw [intOfToken_toString]
  | .float _, _, h => nomatch h
  | .str s, _, _ => by
    show (stringOfCodes (codePoints s)).map Json.str = _
    rw [stringOfCodes_codePoints]
    rfl
  | .list xs, hc, h => by
    show (jsonOfTree.jsonOfItems (tree.treeOfList xs)).map Json.list = _
    rw [jsonOfItems_tree hc h]
    rfl
  | .object xs, hc, h => by
    obtain ⟨hsorted, -⟩ := canonicalItems_iff.mp hc
    show (jsonOfTree.jsonOfMembers (tree.treeOfItems xs)).map (fun members => Json.object (sortMembers members)) = _
    rw [jsonOfMembers_tree hc h, Option.map_some, sortMembers_of_sorted hsorted]

theorem jsonOfItems_tree : ∀ {xs : List Json}, canonical.canonicalList xs = true →
    plainNumbers.plainNumbersOfList xs = true → jsonOfTree.jsonOfItems (tree.treeOfList xs) = some xs
  | [], _, _ => rfl
  | x :: xs, hc, h => by
    obtain ⟨hcx, hcxs⟩ := Bool.and_eq_true_iff.mp hc
    obtain ⟨hx, hxs⟩ := Bool.and_eq_true_iff.mp h
    show ((jsonOfTree x.tree).bind fun item => (jsonOfTree.jsonOfItems (tree.treeOfList xs)).map (item :: ·)) = _
    rw [jsonOfTree_tree hcx hx, jsonOfItems_tree hcxs hxs]
    rfl

theorem jsonOfMembers_tree : ∀ {xs : List (String × Json)}, canonical.canonicalItems xs = true →
    plainNumbers.plainNumbersOfItems xs = true → jsonOfTree.jsonOfMembers (tree.treeOfItems xs) = some xs
  | [], _, _ => rfl
  | (key, x) :: xs, hc, h => by
    obtain ⟨hcx, -, hcxs⟩ := canonicalItems_cons.mp hc
    obtain ⟨hx, hxs⟩ := Bool.and_eq_true_iff.mp h
    show ((stringOfCodes (codePoints key)).bind fun name => (jsonOfTree x.tree).bind fun value =>
      (jsonOfTree.jsonOfMembers (tree.treeOfItems xs)).map ((name, value) :: ·)) = _
    rw [stringOfCodes_codePoints, jsonOfTree_tree hcx hx, jsonOfMembers_tree hcxs hxs]
    rfl

end

/-- Canonical bytes are read as the value. -/
theorem decodeJson_canonicalBytes {j : Json} (hc : j.canonical = true) (h : j.plainNumbers = true) :
    decodeJson (canonicalBytes j) = some j := by
  unfold decodeJson
  rw [utf8Decode?_canonicalBytes, Option.bind_some, List.toList_toArray, parse_chars h, Option.bind_some,
    jsonOfTree_tree hc h]

/-! ### Hooks -/

omit [FloatRepr] [FloatReading] in
theorem pyText_codePoints (s : String) : pyText (codePoints s) = PyStr.ofString s := by
  unfold pyText codePoints PyStr.ofString
  rw [List.map_map]
  refine List.map_congr_left fun c _ => Fin.ext ?_
  have hbound : c.toNat < 0x110000 := (CodePoint.ofChar c).isLt
  exact Nat.mod_eq_of_lt hbound

omit [FloatRepr] [FloatReading] in
theorem ofString_injective {s t : String} (h : PyStr.ofString s = PyStr.ofString t) : s = t := by
  refine String.toList_inj.mp (List.map_injective_iff.mpr (fun c d hcd => ?_) h)
  exact Char.toNat_inj.mp (Fin.mk.inj hcd)

omit [FloatRepr] [FloatReading] in
/-- An integer of a document is read. -/
theorem pyInt_toString {i : ℤ} (h : (Nat.toDigits 10 i.natAbs).length ≤ maxIntDigits) :
    pyInt (toString i).toList = .ok (.int i) := by
  have hdigits : (toString i).toList.filter Char.isDigit = Nat.toDigits 10 i.natAbs := by
    have hsign : (if i < 0 then ['-'] else []).filter Char.isDigit = [] := by
      split
      · rfl
      · rfl
    rw [toList_toString_int, List.filter_append, hsign, List.nil_append]
    exact List.filter_eq_self.mpr (isDigit_toDigits i.natAbs)
  unfold pyInt
  rw [hdigits, if_neg (by omega), intOfToken_toString]

omit [FloatRepr] [FloatReading] in
/-- Members whose names are new and all different make a dictionary. -/
theorem foldlM_insertUnique {members : List (String × Json)} {result : List (PyKey × PyValue)}
    (hnew : ∀ m ∈ members, PyKey.str (PyStr.ofString m.1) ∉ result.map Prod.fst)
    (hnodup : (members.map Prod.fst).Nodup) :
    (members.map fun m => (codePoints m.1, PyValue.ofJson m.2)).foldlM insertUnique result
      = .ok (result ++ PyValue.ofJson.ofMembers members) := by
  induction members generalizing result with
  | nil =>
    show Except.ok result = .ok (result ++ [])
    rw [List.append_nil]
  | cons m members ih =>
    obtain ⟨key, value⟩ := m
    obtain ⟨hkey, hrest⟩ := List.nodup_cons.mp hnodup
    have hfirst := hnew (key, value) List.mem_cons_self
    have hinsert : insertUnique result (codePoints key, PyValue.ofJson value)
        = .ok (result ++ [(.str (PyStr.ofString key), PyValue.ofJson value)]) := by
      unfold insertUnique
      rw [pyText_codePoints, if_neg hfirst]
    rw [List.map_cons, List.foldlM_cons, hinsert]
    show List.foldlM insertUnique (result ++ [_]) _ = _
    rw [ih, List.append_assoc]
    · rfl
    · intro other hother
      rw [List.map_append, List.mem_append]
      rintro (hold | hsame)
      · exact hnew other (List.mem_cons_of_mem _ hother) hold
      · have heq := ofString_injective (PyKey.str.inj (List.mem_singleton.mp hsame))
        exact hkey (List.mem_map.mpr ⟨other, hother, heq⟩)
    · exact hrest

mutual

/-- The hooks make of the tree of a well-formed value what Python holds for it. -/
theorem buildTree_tree : ∀ {j : Json}, j.canonical = true → j.plainNumbers = true →
    buildTree captureHooks j.tree = .ok (PyValue.ofJson j)
  | .null, _, _ => rfl
  | .bool _, _, _ => rfl
  | .int _, _, h => pyInt_toString (of_decide_eq_true h)
  | .float _, _, h => nomatch h
  | .str s, _, _ => by
    show Except.ok (PyValue.str (pyText (codePoints s))) = _
    rw [pyText_codePoints]
    rfl
  | .list xs, hc, h => by
    show PyValue.list <$> buildTree.buildList captureHooks (tree.treeOfList xs) = _
    rw [buildList_tree hc h]
    rfl
  | .object xs, hc, h => by
    obtain ⟨hsorted, -⟩ := canonicalItems_iff.mp hc
    show buildTree.buildMembers captureHooks (tree.treeOfItems xs) >>= uniqueObject = _
    rw [buildMembers_tree hc h]
    show PyValue.dict <$> List.foldlM insertUnique [] _ = _
    rw [foldlM_insertUnique (fun _ _ => List.not_mem_nil) hsorted.keys_nodup]
    rfl

theorem buildList_tree : ∀ {xs : List Json}, canonical.canonicalList xs = true →
    plainNumbers.plainNumbersOfList xs = true →
    buildTree.buildList captureHooks (tree.treeOfList xs) = .ok (PyValue.ofJson.ofItems xs)
  | [], _, _ => rfl
  | x :: xs, hc, h => by
    obtain ⟨hcx, hcxs⟩ := Bool.and_eq_true_iff.mp hc
    obtain ⟨hx, hxs⟩ := Bool.and_eq_true_iff.mp h
    refine bind_eq_ok.mpr ⟨_, buildTree_tree hcx hx, ?_⟩
    exact bind_eq_ok.mpr ⟨_, buildList_tree hcxs hxs, rfl⟩

theorem buildMembers_tree : ∀ {xs : List (String × Json)}, canonical.canonicalItems xs = true →
    plainNumbers.plainNumbersOfItems xs = true →
    buildTree.buildMembers captureHooks (tree.treeOfItems xs)
      = .ok (xs.map fun m => (codePoints m.1, PyValue.ofJson m.2))
  | [], _, _ => rfl
  | (key, x) :: xs, hc, h => by
    obtain ⟨hcx, -, hcxs⟩ := canonicalItems_cons.mp hc
    obtain ⟨hx, hxs⟩ := Bool.and_eq_true_iff.mp h
    refine bind_eq_ok.mpr ⟨_, buildTree_tree hcx hx, ?_⟩
    exact bind_eq_ok.mpr ⟨_, buildMembers_tree hcxs hxs, rfl⟩

end

/-- The canonical bytes of an object within the limits are read. -/
theorem readBoundedBytes_canonicalBytes {limits : CaptureJSONLimits} {members : List (String × Json)}
    (hc : (Json.object members).canonical = true) (h : (Json.object members).plainNumbers = true)
    (hlimits : 1 ≤ limits.maxItems)
    (hwithin : Within limits.maxBytes limits.maxItems limits.maxDepth limits.maxStringBytes (.object members)) :
    readBoundedBytes (canonicalBytes (.object members)) limits = .ok (PyValue.ofJson.ofMembers members) := by
  have hsize : 1 ≤ (canonicalBytes (.object members)).size
      ∧ (canonicalBytes (.object members)).size ≤ limits.maxBytes := by
    rw [size_canonicalBytes]
    refine ⟨?_, hwithin.bytes⟩
    show 1 ≤ 2 + _ + _
    omega
  have hloads : loads captureHooks .invalid (Json.object members).chars
      = .ok (PyValue.ofJson (.object members)) := by
    unfold loads
    rw [parse_chars h]
    exact buildTree_tree hc h
  have hbounded : boundedJson (.object members) limits = true := by
    unfold boundedJson
    simp only [hwithin.items, hwithin.depth, hwithin.strings, decide_true, Bool.and_self]
  unfold readBoundedBytes
  rw [raiseIf_bind_eq_ok]
  refine ⟨fun hbad => hbad hsize, bind_eq_ok.mpr ⟨_, expect_eq_ok.mpr (utf8Decode?_canonicalBytes _), ?_⟩⟩
  rw [List.toList_toArray]
  refine bind_eq_ok.mpr ⟨_, hloads, raiseIf_bind_eq_ok.mpr ⟨fun hbad => hbad ?_, rfl⟩⟩
  have hwalk := boundedPyJson_ofJson hlimits hc
  rw [hbounded] at hwalk
  exact hwalk

end canonical

end SalienceGate
