import Mathlib.Data.List.Basic
import Mathlib.Data.BitVec
import Mathlib.Tactic.SplitIfs

/-!
# JSON values and codecs

A JSON value as a Python program holds it: integers and floats are different values, and the items
of an object are listed in key order, so that two objects with the same members are the same value
and the canonical text of a value is determined by it. `pyEq` is Python's `==`, which also
identifies `1`, `1.0` and `True`.

A `Codec` is a pair of a writer and a reader such that reading what was written gives it back.
-/

/-- A binary64 floating-point value, as its 64 bits. -/
structure Float64 where
  /-- Sign, biased exponent and mantissa. -/
  bits : BitVec 64
deriving DecidableEq

namespace Float64

/-- The biased exponent. -/
def exponent (x : Float64) : ℕ := x.bits.toNat / 2^52 % 2^11

/-- The mantissa, with the implicit bit of a normal number. -/
def mantissa (x : Float64) : ℕ :=
  x.bits.toNat % 2^52 + if x.exponent = 0 then 0 else 2^52

/-- Whether the sign bit is set. -/
def negative (x : Float64) : Bool := 2^63 ≤ x.bits.toNat

/-- Neither an infinity nor a NaN. -/
def isFinite (x : Float64) : Bool := x.exponent ≠ 2^11 - 1

/-- `0.0 <= x <= 1.0`: from `0.0` up to the bits of `1.0`, or `-0.0`. -/
def inUnit (x : Float64) : Bool :=
  x.bits.toNat ≤ 0x3FF0000000000000 || x.bits.toNat = 2^63

/-- `0.0`. -/
def zero : Float64 := ⟨0⟩

/-- `1.0`. -/
def one : Float64 := ⟨0x3FF0000000000000⟩

/-- The integer a finite value is, if it is one. -/
def toInt? (x : Float64) : Option ℤ :=
  let sign : ℤ := if x.negative then -1 else 1
  let e := max x.exponent 1
  if 1075 ≤ e then some (sign * (x.mantissa * 2^(e - 1075)))
  else if x.mantissa % 2^(1075 - e) = 0 then some (sign * (x.mantissa / 2^(1075 - e)))
  else none

/-- A float of the unit interval is finite. -/
theorem isFinite_of_inUnit {x : Float64} (h : x.inUnit = true) : x.isFinite = true := by
  simp only [inUnit, Bool.or_eq_true, decide_eq_true_eq] at h
  have hexponent : x.exponent ≠ 2^11 - 1 := by
    unfold exponent
    omega
  simpa [isFinite] using hexponent

/-- Python's `==` on finite floats: the two zeros are equal. -/
def pyEq (x y : Float64) : Bool := x = y || (x.bits.toNat % 2^63 = 0 && y.bits.toNat % 2^63 = 0)

end Float64

/-- A JSON value. The items of an object are in increasing key order. -/
inductive Json where
  | null
  | bool (b : Bool)
  | int (i : ℤ)
  | float (x : Float64)
  | str (s : String)
  | list (items : List Json)
  | object (items : List (String × Json))

namespace Json

/-! ## Equality -/

/-- Structural equality, as a computation. -/
def beq : Json → Json → Bool
  | .null, .null => true
  | .bool a, .bool b => a = b
  | .int a, .int b => a = b
  | .float a, .float b => a = b
  | .str a, .str b => a = b
  | .list xs, .list ys => beqList xs ys
  | .object xs, .object ys => beqItems xs ys
  | _, _ => false
where
  /-- `beq` on the items of a list. -/
  beqList : List Json → List Json → Bool
    | [], [] => true
    | x :: xs, y :: ys => beq x y && beqList xs ys
    | _, _ => false
  /-- `beq` on the items of an object. -/
  beqItems : List (String × Json) → List (String × Json) → Bool
    | [], [] => true
    | x :: xs, y :: ys => x.1 = y.1 && beq x.2 y.2 && beqItems xs ys
    | _, _ => false

mutual

theorem beq_iff : ∀ {a b : Json}, beq a b = true ↔ a = b
  | .null, b => by cases b <;> simp [beq]
  | .bool _, b => by cases b <;> simp [beq]
  | .int _, b => by cases b <;> simp [beq]
  | .float _, b => by cases b <;> simp [beq]
  | .str _, b => by cases b <;> simp [beq]
  | .list xs, b => by cases b <;> simp [beq, @beqList_iff xs]
  | .object xs, b => by cases b <;> simp [beq, @beqItems_iff xs]

theorem beqList_iff : ∀ {xs ys : List Json}, beq.beqList xs ys = true ↔ xs = ys
  | [], ys => by cases ys <;> simp [beq.beqList]
  | x :: xs, ys => by
    cases ys <;> simp [beq.beqList, beq_iff (a := x), @beqList_iff xs]

theorem beqItems_iff : ∀ {xs ys : List (String × Json)}, beq.beqItems xs ys = true ↔ xs = ys
  | [], ys => by cases ys <;> simp [beq.beqItems]
  | x :: xs, ys => by
    obtain ⟨k, v⟩ := x
    cases ys <;> simp [beq.beqItems, beq_iff (a := v), @beqItems_iff xs, Prod.ext_iff]

end

instance : DecidableEq Json := fun a b => decidable_of_iff (beq a b = true) beq_iff

/-- Python's `==` on two scalars: booleans are the integers `0` and `1`, and numbers are compared
by value. -/
def scalarPyEq : Json → Json → Bool
  | .null, .null => true
  | .str a, .str b => a = b
  | .float x, .float y => x.pyEq y
  | .float x, .int i => x.toInt? = some i
  | .int i, .float x => x.toInt? = some i
  | .float x, .bool b => x.toInt? = some b.toInt
  | .bool b, .float x => x.toInt? = some b.toInt
  | .int i, .int j => i = j
  | .int i, .bool b => i = b.toInt
  | .bool b, .int i => i = b.toInt
  | .bool a, .bool b => a = b
  | _, _ => false

/-- Python's `==`. -/
def pyEq : Json → Json → Bool
  | .list xs, .list ys => pyEqList xs ys
  | .object xs, .object ys => pyEqItems xs ys
  | a, b => scalarPyEq a b
where
  /-- `==` on two sequences. -/
  pyEqList : List Json → List Json → Bool
    | [], [] => true
    | x :: xs, y :: ys => pyEq x y && pyEqList xs ys
    | _, _ => false
  /-- `==` on the items of two mappings, both in key order. -/
  pyEqItems : List (String × Json) → List (String × Json) → Bool
    | [], [] => true
    | x :: xs, y :: ys => x.1 = y.1 && pyEq x.2 y.2 && pyEqItems xs ys
    | _, _ => false

/-! ## Well-formed values -/

/-- The order of keys: character by character, by code point. -/
@[simp] def keyLt : List Char → List Char → Bool
  | _, [] => false
  | [], _ :: _ => true
  | c :: cs, d :: ds => c.toNat < d.toNat || (c = d && keyLt cs ds)

/-- Keys in increasing order and floats finite, at every depth. -/
def canonical : Json → Bool
  | .list xs => canonicalList xs
  | .object xs => canonicalItems xs
  | .float x => x.isFinite
  | _ => true
where
  /-- `canonical` on the items of a list. -/
  canonicalList : List Json → Bool
    | [] => true
    | x :: xs => canonical x && canonicalList xs
  /-- `canonical` on the items of an object. -/
  canonicalItems : List (String × Json) → Bool
    | [] => true
    | x :: xs => canonical x.2 && xs.all (fun y => keyLt x.1.toList y.1.toList) && canonicalItems xs

/-! ## Reading objects -/

/-- The member of an object under a key. -/
def member (items : List (String × Json)) (key : String) : Option Json := items.lookup key

/-- Whether every key of an object is one of `names`: the reader forbids extra members. -/
def onlyMembers (items : List (String × Json)) (names : List String) : Bool :=
  (items.map Prod.fst).all fun key => key ∈ names

/-- A member that must be there, read with `load`. -/
def required {α : Type} (items : List (String × Json)) (key : String) (load : Json → Option α) :
    Option α :=
  (member items key).bind load

/-- A member with a default, read with `load` when it is there. -/
def defaulted {α : Type} (items : List (String × Json)) (key : String) (load : Json → Option α)
    (default : α) : Option α :=
  match member items key with
  | none => some default
  | some value => load value

@[simp] theorem canonicalItems_nil : canonical.canonicalItems [] = true := rfl

/-- An object is well-formed when its first member is, its key comes before the others, and the
others are. -/
@[simp] theorem canonicalItems_cons {key : String} {value : Json} {items : List (String × Json)} :
    canonical.canonicalItems ((key, value) :: items) = true ↔ value.canonical = true
      ∧ (∀ x ∈ items, keyLt key.toList x.1.toList = true)
      ∧ canonical.canonicalItems items = true := by
  simp [canonical.canonicalItems, and_assoc]

@[simp] theorem canonical_str (s : String) : canonical (.str s) = true := rfl

@[simp] theorem canonical_int (i : ℤ) : canonical (.int i) = true := rfl

@[simp] theorem canonical_bool (b : Bool) : canonical (.bool b) = true := rfl

@[simp] theorem canonical_object {items : List (String × Json)} :
    canonical (.object items) = canonical.canonicalItems items := rfl

section Members

variable {α : Type} {items : List (String × Json)} {key key' : String} {value : Json}
  {load : Json → Option α} {default : α}

@[simp] theorem required_cons_self : required ((key, value) :: items) key load = load value := by
  simp [required, member]

@[simp] theorem required_cons_of_ne (h : key ≠ key') :
    required ((key', value) :: items) key load = required items key load := by
  have hbeq : (key == key') = false := by simpa using h
  simp [required, member, List.lookup_cons, hbeq]

@[simp] theorem defaulted_nil : defaulted [] key load default = some default := rfl

@[simp] theorem defaulted_cons_self :
    defaulted ((key, value) :: items) key load default = load value := by
  simp [defaulted, member]

@[simp] theorem defaulted_cons_of_ne (h : key ≠ key') :
    defaulted ((key', value) :: items) key load default = defaulted items key load default := by
  have hbeq : (key == key') = false := by simpa using h
  simp [defaulted, member, List.lookup_cons, hbeq]

end Members

end Json

/-- A writer and a reader of JSON values other than `null`, the reader undoing the writer. -/
structure Codec (α : Type) where
  /-- The JSON form of a value. -/
  dump : α → Json
  /-- The value of a JSON form, or none if it has none. -/
  load : Json → Option α
  /-- What was written is read back. -/
  load_dump : ∀ a, load (dump a) = some a
  /-- No value is written as `null`. -/
  dump_ne_null : ∀ a, dump a ≠ .null
  /-- What is written is well-formed. -/
  canonical_dump : ∀ a, (dump a).canonical = true

namespace Codec

variable {α : Type}

attribute [simp] load_dump canonical_dump

/-- Strings. -/
def str : Codec String where
  dump := .str
  load
    | .str s => some s
    | _ => none
  load_dump _ := rfl
  dump_ne_null _ := nofun
  canonical_dump _ := rfl

/-- Booleans. -/
def bool : Codec Bool where
  dump := .bool
  load
    | .bool b => some b
    | _ => none
  load_dump _ := rfl
  dump_ne_null _ := nofun
  canonical_dump _ := rfl

/-- Natural numbers. -/
def nat : Codec ℕ where
  dump n := .int n
  load
    | .int i => if 0 ≤ i then some i.toNat else none
    | _ => none
  load_dump n := by simp
  dump_ne_null _ := nofun
  canonical_dump _ := rfl

/-- Integers. -/
def int : Codec ℤ where
  dump := .int
  load
    | .int i => some i
    | _ => none
  load_dump _ := rfl
  dump_ne_null _ := nofun
  canonical_dump _ := rfl

/-- An enumeration, by the string of each member. -/
def enum (all : List α) (value : α → String) (h : ∀ a, all.find? (value · = value a) = some a) :
    Codec α where
  dump a := .str (value a)
  load
    | .str s => all.find? (value · = s)
    | _ => none
  load_dump := h
  dump_ne_null _ := nofun
  canonical_dump _ := rfl

/-- The JSON form of an optional value, with `null` for none. -/
def dumpNullable (c : Codec α) : Option α → Json
  | none => .null
  | some a => c.dump a

/-- Reading an optional value. -/
def loadNullable (c : Codec α) : Json → Option (Option α)
  | .null => some none
  | j => (c.load j).map some

/-- A value that is there is read back from its own form. -/
@[simp] theorem loadNullable_dump (c : Codec α) (a : α) :
    c.loadNullable (c.dump a) = some (some a) := by
  unfold loadNullable
  split
  · next h => exact absurd h (c.dump_ne_null a)
  · rw [c.load_dump, Option.map_some]

/-- An optional value is read back. -/
@[simp] theorem loadNullable_dumpNullable (c : Codec α) (o : Option α) :
    c.loadNullable (c.dumpNullable o) = some o := by
  cases o with
  | none => rfl
  | some a => exact c.loadNullable_dump a

/-- An optional value is written well-formed. -/
@[simp] theorem canonical_dumpNullable (c : Codec α) (o : Option α) :
    (c.dumpNullable o).canonical = true := by
  cases o with
  | none => rfl
  | some a => exact c.canonical_dump a

/-- Reading a list whose items were written one by one. -/
theorem mapM_load_dump (c : Codec α) (xs : List α) : (xs.map c.dump).mapM c.load = some xs := by
  induction xs with
  | nil => rfl
  | cons x xs ih => simp [ih]

theorem canonicalList_dump (c : Codec α) (xs : List α) :
    Json.canonical.canonicalList (xs.map c.dump) = true := by
  induction xs with
  | nil => rfl
  | cons x xs ih => simp [Json.canonical.canonicalList, ih]

/-- Lists. -/
def list (c : Codec α) : Codec (List α) where
  dump xs := .list (xs.map c.dump)
  load
    | .list items => items.mapM c.load
    | _ => none
  load_dump := c.mapM_load_dump
  dump_ne_null _ := nofun
  canonical_dump := c.canonicalList_dump

end Codec
