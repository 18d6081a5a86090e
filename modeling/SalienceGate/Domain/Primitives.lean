import Mathlib.Data.BitVec
import SalienceGate.Lib.Checked
import SalienceGate.Lib.Hex
import SalienceGate.Lib.Json

/-!
# Validated scalars

The scalar types that the records share. A constrained scalar is a structure whose field states the
constraint, so that a record of the model holds only values that the field validators accept.
Instants are microseconds since the epoch, in UTC.
-/

namespace SalienceGate

/-- An instant: microseconds since the epoch, in UTC. -/
abbrev UtcDatetime := ℤ

/-! ## UUIDs -/

/-- A UUID: its 128-bit integer. -/
structure UUID where
  /-- The integer value. -/
  int : BitVec 128
deriving DecidableEq

/-- The version field is 4, of the RFC 4122 variant. -/
def UUID.isVersion4 (id : UUID) : Bool :=
  id.int.toNat / 2^76 % 16 = 4 && id.int.toNat / 2^62 % 4 = 2

/-- A version-4 UUID. -/
structure UUID4 extends UUID where
  /-- It is of version 4. -/
  version4 : toUUID.isVersion4 = true
deriving DecidableEq

/-- The five groups of digits of a UUID, with hyphens between them. -/
def hyphenate (ds : List Char) : List Char :=
  ds.take 8 ++ '-' :: ((ds.drop 8).take 4 ++ '-' :: ((ds.drop 12).take 4 ++
    '-' :: ((ds.drop 16).take 4 ++ '-' :: ds.drop 20)))

/-- The digits of the hyphenated form. -/
def unhyphenate (cs : List Char) : Option (List Char) :=
  if cs.length = 36 ∧ cs[8]? = some '-' ∧ cs[13]? = some '-' ∧ cs[18]? = some '-'
      ∧ cs[23]? = some '-' then
    some (cs.take 8 ++ (cs.drop 9).take 4 ++ (cs.drop 14).take 4 ++ (cs.drop 19).take 4
      ++ cs.drop 24)
  else none

/-- The canonical text of a UUID. -/
def UUID.toString (id : UUID) : String :=
  String.ofList (hyphenate (Hex.digits 32 id.int.toNat))

/-- The digits of a UUID in one of its four forms: a URN, in braces, hyphenated, or plain. -/
def UUID.digitsOf (cs : List Char) : Option (List Char) :=
  if cs.length = 32 then some cs
  else if cs.length = 36 then unhyphenate cs
  else if cs.head? = some '\x7b' ∧ cs.getLast? = some '\x7d' then unhyphenate (cs.drop 1).dropLast
  else if cs.take 9 = "urn:uuid:".toList then unhyphenate (cs.drop 9)
  else none

/-- The UUID that a text is. -/
def UUID.parse (text : String) : Option UUID :=
  (UUID.digitsOf text.toList).bind fun ds => (Hex.value? ds).map fun n => ⟨BitVec.ofNat 128 n⟩

/-- The UUID that a text is, if it is one of version 4. -/
def UUID4.parse (text : String) : Option UUID4 :=
  (UUID.parse text).bind fun id => if h : id.isVersion4 = true then some ⟨id, h⟩ else none

theorem length_hyphenate {ds : List Char} (h : ds.length = 32) : (hyphenate ds).length = 36 := by
  simp [hyphenate, h]

/-- Taking the hyphens out of a hyphenated text gives its digits. -/
theorem unhyphenate_hyphenate {ds : List Char} (h : ds.length = 32) :
    unhyphenate (hyphenate ds) = some ds := by
  have hsplit : ds = ds.take 8 ++ ((ds.drop 8).take 4 ++ ((ds.drop 12).take 4 ++
      ((ds.drop 16).take 4 ++ ds.drop 20))) := by
    conv_lhs => rw [← List.take_append_drop 8 ds, ← List.take_append_drop 4 (ds.drop 8),
      List.drop_drop, ← List.take_append_drop 4 (ds.drop (8 + 4)), List.drop_drop,
      ← List.take_append_drop 4 (ds.drop (8 + 4 + 4)), List.drop_drop]
  unfold unhyphenate
  rw [if_pos ?_]
  · conv_rhs => rw [hsplit]
    simp [hyphenate, List.drop_append, h, List.drop_take]
  · simp [hyphenate, h]

/-- Every UUID is what its text reads as. -/
theorem UUID.parse_toString (id : UUID) : UUID.parse id.toString = some id := by
  have hlen : (Hex.digits 32 id.int.toNat).length = 32 := Hex.length_digits _ _
  have hvalue : Hex.value? (Hex.digits 32 id.int.toNat) = some id.int.toNat :=
    Hex.value?_digits id.int.isLt
  have hdigits : UUID.digitsOf (hyphenate (Hex.digits 32 id.int.toNat))
      = some (Hex.digits 32 id.int.toNat) := by
    simp [UUID.digitsOf, length_hyphenate hlen, unhyphenate_hyphenate hlen]
  simp [UUID.parse, UUID.toString, hdigits, hvalue]

/-- Every version-4 UUID is what its text reads as. -/
theorem UUID4.parse_toString (id : UUID4) : UUID4.parse id.toString = some id := by
  simp [UUID4.parse, UUID.parse_toString, id.version4]

/-- The JSON form of a version-4 UUID: its text. -/
def UUID4.codec : Codec UUID4 where
  dump id := .str id.toString
  load
    | .str s => UUID4.parse s
    | _ => none
  load_dump := UUID4.parse_toString
  dump_ne_null _ := nofun
  canonical_dump _ := rfl

/-! ## Constrained strings -/

/-- A lowercase hexadecimal digit. -/
def isLowerHex (c : Char) : Bool := c.isDigit || ('a' ≤ c && c ≤ 'f')

/-- A SHA-256 digest: 64 lowercase hexadecimal digits. -/
structure Sha256Digest where
  /-- The digits. -/
  text : String
  /-- There are 64 of them. -/
  pattern : text.length = 64 ∧ text.toList.all isLowerHex = true
deriving DecidableEq

/-- The digest that a text is. -/
def Sha256Digest.parse (text : String) : Option Sha256Digest :=
  if h : text.length = 64 ∧ text.toList.all isLowerHex = true then some ⟨text, h⟩ else none

/-- The JSON form of a digest: its digits. -/
def Sha256Digest.codec : Codec Sha256Digest where
  dump digest := .str digest.text
  load
    | .str s => Sha256Digest.parse s
    | _ => none
  load_dump digest := by simp [Sha256Digest.parse, digest.pattern]
  dump_ne_null _ := nofun
  canonical_dump _ := rfl

/-- A character that may stand first in a component identifier. -/
def isIdentifierStart (c : Char) : Bool := c.isAlphanum || c = '_'

/-- A character that may stand in a component identifier. -/
def isIdentifierRest (c : Char) : Bool :=
  c.isAlphanum || ['.', '_', ':', '/', '+', '-'].contains c

/-- `^[A-Za-z0-9_][A-Za-z0-9._:/+\-]*$`, of at most 256 characters. -/
def isComponentIdentifier (text : String) : Bool :=
  text.length ≤ 256 && match text.toList with
    | [] => false
    | c :: cs => isIdentifierStart c && cs.all isIdentifierRest

/-- The identifier of a component. -/
structure ComponentIdentifier where
  /-- The identifier. -/
  text : String
  /-- It has the pattern of an identifier. -/
  pattern : isComponentIdentifier text = true
deriving DecidableEq

/-- The identifier that a text is. -/
def ComponentIdentifier.parse (text : String) : Option ComponentIdentifier :=
  if h : isComponentIdentifier text = true then some ⟨text, h⟩ else none

/-- The JSON form of an identifier: its text. -/
def ComponentIdentifier.codec : Codec ComponentIdentifier where
  dump identifier := .str identifier.text
  load
    | .str s => ComponentIdentifier.parse s
    | _ => none
  load_dump identifier := by simp [ComponentIdentifier.parse, identifier.pattern]
  dump_ne_null _ := nofun
  canonical_dump _ := rfl

/-- The identifiers of event metadata are component identifiers. -/
abbrev EventMetadataIdentifier := ComponentIdentifier

/-- A string that is not empty. -/
structure NonEmptyString where
  /-- The string. -/
  text : String
  /-- It has a character. -/
  nonempty : text ≠ ""
deriving DecidableEq

/-- Every `~` of a JSON pointer is followed by `0` or `1`. -/
def isPointerEscaped : List Char → Bool
  | [] => true
  | ['~'] => false
  | '~' :: c :: cs => (c = '0' || c = '1') && isPointerEscaped cs
  | _ :: cs => isPointerEscaped cs

/-- `^(?:/(?:[^~/]|~[01])*)+$`, of at most 1024 characters. -/
def isJsonPointer (text : String) : Bool :=
  text.length ≤ 1024 && text.toList.head? = some '/' && isPointerEscaped text.toList

/-- A JSON pointer. -/
structure JsonPointer where
  /-- The pointer. -/
  text : String
  /-- It has the pattern of a pointer. -/
  pattern : isJsonPointer text = true
deriving DecidableEq

/-- The JSON form of a pointer: its text. -/
def JsonPointer.codec : Codec JsonPointer where
  dump pointer := .str pointer.text
  load
    | .str s => if h : isJsonPointer s = true then some ⟨s, h⟩ else none
    | _ => none
  load_dump pointer := by simp [pointer.pattern]
  dump_ne_null _ := nofun
  canonical_dump _ := rfl

/-! ## Numbers and JSON objects -/

/-- A float between `0.0` and `1.0`. -/
structure UnitInterval where
  /-- The float. -/
  value : Float64
  /-- It lies in the interval. -/
  bounds : value.inUnit = true
deriving DecidableEq

/-- `1.0`. -/
def UnitInterval.one : UnitInterval := ⟨Float64.one, by decide⟩

/-- The JSON form of a float in the interval. The integers `0` and `1` are read as floats. -/
def UnitInterval.codec : Codec UnitInterval where
  dump x := .float x.value
  load
    | .float x => if h : x.inUnit = true then some ⟨x, h⟩ else none
    | .int 0 => some ⟨Float64.zero, by decide⟩
    | .int 1 => some UnitInterval.one
    | _ => none
  load_dump x := by simp [x.bounds]
  dump_ne_null _ := nofun
  canonical_dump x := Float64.isFinite_of_inUnit x.bounds

/-- A JSON object, frozen: its members in key order, at every depth, and its floats finite. -/
structure JsonObject where
  /-- The members. -/
  items : List (String × Json)
  /-- The keys are in order and the floats finite. -/
  canonical : (Json.object items).canonical = true
deriving DecidableEq

/-- A JSON object as a JSON value. -/
def JsonObject.json (object : JsonObject) : Json := .object object.items

/-! ## Digests -/

/-- A part of a digest's preimage: a text, or the canonical JSON bytes of a value. -/
inductive DigestPart where
  | text (s : String)
  | canonicalJson (value : Json)
deriving DecidableEq

/-- The hash function behind every digest of a record. -/
class Hashing where
  /-- SHA-256 of a domain and parts, each behind its length. -/
  lengthPrefixedSha256 (domain : String) (parts : List DigestPart) : Sha256Digest

/-- The content digest of the canonical JSON bytes of a value. -/
def canonicalDigest [Hashing] (value : Json) : Sha256Digest :=
  Hashing.lengthPrefixedSha256 "saliencegate:content:v1" [.canonicalJson value]

/-! ## Failed validation -/

/-- Why a value is not a valid record: a field breaks its constraint, or a validator raises. -/
inductive ValidationError where
  | constraint (field : String) (type : String)
  | validator (message : String)
deriving DecidableEq

/-- The check of a record. -/
abbrev Check := Except ValidationError Unit

/-- `if c: raise ValueError(message)` in a validator. -/
def refuse (c : Prop) [Decidable c] (message : String) : Check :=
  Checked.raiseIf c (.validator message)

/-- A field constraint: the error is of pydantic's `type`. -/
def constrain (c : Prop) [Decidable c] (field type : String) : Check :=
  Checked.raiseIf (¬c) (.constraint field type)

@[simp] theorem refuse_eq_ok {c : Prop} [Decidable c] {message : String} {u : Unit} :
    refuse c message = .ok u ↔ ¬c := Checked.raiseIf_eq_ok

@[simp] theorem constrain_eq_ok {c : Prop} [Decidable c] {field type : String} {u : Unit} :
    constrain c field type = .ok u ↔ c := by
  simp [constrain]

@[simp] theorem refuse_bind_eq_ok {c : Prop} [Decidable c] {message : String}
    {α : Type} {f : Unit → Except ValidationError α} {a : α} :
    (refuse c message >>= f) = .ok a ↔ ¬c ∧ f () = .ok a := Checked.raiseIf_bind_eq_ok

@[simp] theorem constrain_bind_eq_ok {c : Prop} [Decidable c] {field type : String}
    {α : Type} {f : Unit → Except ValidationError α} {a : α} :
    (constrain c field type >>= f) = .ok a ↔ c ∧ f () = .ok a := by
  simp [constrain]

end SalienceGate
