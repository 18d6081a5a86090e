import Mathlib.Algebra.GroupWithZero.Nat
import SalienceGate.Bridge.Contracts

/-!
# Canonical JSON

`bridge-core/src/canonical.ts`: what `canonicalizeJson` takes, and how long the text of
`encodeCanonicalJson` is. The limits are on totals over the whole value, which only grow while it is
walked through, so the walk fails exactly if a total is over its limit.

For the proofs a document is bounded part by part: a code unit takes six bytes at most when it is
escaped (`quotedLength_le`), and one byte if it stands for itself (`quotedLength_of_plain`).
-/

namespace SalienceGate

/-- `MAX_CAPTURE_JSON_DEPTH`. -/
def maxCaptureJsonDepth : ℕ := 32

/-- `MAX_CAPTURE_JSON_ITEMS`. -/
def maxCaptureJsonItems : ℕ := 10000

/-- `MAX_CAPTURE_JSON_STRING_BYTES`. -/
def maxCaptureJsonStringBytes : ℕ := 1024 * 1024

/-! ## Strings as JSON -/

namespace JsString

/-- A string of ASCII characters. -/
def ofAscii (text : String) : JsString := ⟨text.toList.map fun c => ⟨c.toNat % 128, by omega⟩⟩

/-- The bytes of a code unit outside of surrogate pairs in `JSON.stringify`. -/
def escapedLength (code : Fin 65536) : ℕ :=
  -- A quotation mark, a backslash, and the control characters with a letter of their own.
  if code.val = 0x22 ∨ code.val = 0x5c ∨ code.val ∈ [0x08, 0x09, 0x0a, 0x0c, 0x0d] then 2
  else if code.val < 0x20 then 6
  else if code.val < 0x80 then 1
  else if code.val < 0x800 then 2
  else if isHigh code || isLow code then 6
  else 3

/-- The bytes of code units in `JSON.stringify`. -/
def escapedUnits : List (Fin 65536) → ℕ
  | [] => 0
  | [code] => escapedLength code
  | code :: next :: rest =>
    if isHigh code && isLow next then 4 + escapedUnits rest
    else escapedLength code + escapedUnits (next :: rest)

/-- The bytes of a string in `JSON.stringify`, with its quotation marks. -/
def quotedLength (text : JsString) : ℕ := 2 + escapedUnits text.units

/-- A code unit that stands for itself in JSON. -/
def isPlain (code : Fin 65536) : Bool := 0x20 ≤ code.val && code.val < 0x80 && code.val ≠ 0x22 && code.val ≠ 0x5c

end JsString

/-! ## Values -/

/-- A value of JavaScript, as `canonicalizeJson` sees it. The fields of an object are in the order of
their sorted keys, and a finite number is given by its text in JSON. -/
inductive JsValue where
  | null
  | bool (value : Bool)
  | number (literal : String)
  | text (value : JsString)
  | array (items : List JsValue)
  | object (fields : List (JsString × JsValue))
  /-- A value that has no place in JSON: `undefined`, a function, a number that is not finite, a
  property that is no plain value, an object of a class, or a value within itself. -/
  | refused

namespace JsValue

/-- The values in a value, itself included. -/
def items : JsValue → ℕ
  | .array values => 1 + itemsOfList values
  | .object fields => 1 + itemsOfFields fields
  | _ => 1
where
  /-- `items`, of the values of an array. -/
  itemsOfList : List JsValue → ℕ
    | [] => 0
    | value :: values => items value + itemsOfList values
  /-- `items`, of the fields of an object. -/
  itemsOfFields : List (JsString × JsValue) → ℕ
    | [] => 0
    | field :: fields => items field.2 + itemsOfFields fields

/-- How deep values are nested in a value. -/
def depth : JsValue → ℕ
  | .array values => depthOfList values
  | .object fields => depthOfFields fields
  | _ => 0
where
  /-- `depth`, of an array with these values. -/
  depthOfList : List JsValue → ℕ
    | [] => 0
    | value :: values => max (depth value + 1) (depthOfList values)
  /-- `depth`, of an object with these fields. -/
  depthOfFields : List (JsString × JsValue) → ℕ
    | [] => 0
    | field :: fields => max (depth field.2 + 1) (depthOfFields fields)

/-- The strings in a value, the keys included. -/
def texts : JsValue → List JsString
  | .text value => [value]
  | .array values => textsOfList values
  | .object fields => textsOfFields fields
  | _ => []
where
  /-- `texts`, of the values of an array. -/
  textsOfList : List JsValue → List JsString
    | [] => []
    | value :: values => texts value ++ textsOfList values
  /-- `texts`, of the fields of an object. -/
  textsOfFields : List (JsString × JsValue) → List JsString
    | [] => []
    | field :: fields => field.1 :: texts field.2 ++ textsOfFields fields

/-- No value in a value is refused. -/
def isJson : JsValue → Bool
  | .array values => listIsJson values
  | .object fields => fieldsAreJson fields
  | .refused => false
  | _ => true
where
  /-- `isJson`, of the values of an array. -/
  listIsJson : List JsValue → Bool
    | [] => true
    | value :: values => isJson value && listIsJson values
  /-- `isJson`, of the fields of an object. -/
  fieldsAreJson : List (JsString × JsValue) → Bool
    | [] => true
    | field :: fields => isJson field.2 && fieldsAreJson fields

/-- The bytes of the strings in a value. -/
def stringBytes (value : JsValue) : ℕ := (value.texts.map JsString.byteLength).sum

/-- `canonicalizeJson` takes the value. -/
def canonicalizes (value : JsValue) : Bool :=
  value.isJson && value.items ≤ maxCaptureJsonItems && value.depth ≤ maxCaptureJsonDepth
    && value.texts.all JsString.isWellFormedUnicode && value.stringBytes ≤ maxCaptureJsonStringBytes

/-- The bytes of `JSON.stringify`. -/
def encodedLength : JsValue → ℕ
  | .null => 4
  | .bool value => if value then 4 else 5
  | .number literal => literal.length
  | .text value => value.quotedLength
  | .array values => 2 + (values.length - 1) + lengthOfList values
  | .object fields => 2 + (fields.length - 1) + lengthOfFields fields
  | .refused => 0
where
  /-- `encodedLength`, of the values of an array. -/
  lengthOfList : List JsValue → ℕ
    | [] => 0
    | value :: values => encodedLength value + lengthOfList values
  /-- `encodedLength`, of the fields of an object. -/
  lengthOfFields : List (JsString × JsValue) → ℕ
    | [] => 0
    | field :: fields => field.1.quotedLength + 1 + encodedLength field.2 + lengthOfFields fields

/-- A field of an object in a document. -/
def field (key : String) (value : JsValue) : JsString × JsValue := (.ofAscii key, value)

/-- A constant text in a document. -/
def word (text : String) : JsValue := .text (.ofAscii text)

/-- A natural number in a document. -/
def natural (n : ℕ) : JsValue := .number n.repr

end JsValue

/-- `encodeCanonicalJson(value).byteLength`; nothing if the value breaks the contract. -/
def canonicalLength (value : JsValue) : Option ℕ :=
  if value.canonicalizes then some value.encodedLength else none

/-! ## Bounds -/

namespace JsString

theorem length_ofAscii (text : String) : (ofAscii text).units.length = text.length := by
  unfold ofAscii
  rw [List.length_map, String.length_toList]

theorem escapedLength_le (code : Fin 65536) : escapedLength code ≤ 6 := by
  unfold escapedLength
  split_ifs <;> omega

theorem escapedUnits_le (units : List (Fin 65536)) : escapedUnits units ≤ 6 * units.length := by
  fun_induction escapedUnits units with
  | case1 => exact Nat.le_refl 0
  | case2 code =>
    have hcode := escapedLength_le code
    rw [List.length_singleton]
    omega
  | case3 code next rest hpair ih =>
    rw [List.length_cons, List.length_cons]
    omega
  | case4 code next rest hpair ih =>
    have hcode := escapedLength_le code
    rw [List.length_cons]
    omega

/-- A code unit takes six bytes at most. -/
theorem quotedLength_le (text : JsString) : text.quotedLength ≤ 2 + 6 * text.units.length := by
  have hunits := escapedUnits_le text.units
  unfold quotedLength
  omega

theorem length_le_utf8Bytes (units : List (Fin 65536)) : units.length ≤ utf8Bytes units := by
  fun_induction utf8Bytes units <;> simp only [List.length_cons, List.length_nil] at * <;> omega

/-- A string has at least a byte for a code unit. -/
theorem length_le_byteLength (text : JsString) : text.units.length ≤ text.byteLength :=
  length_le_utf8Bytes text.units

theorem utf8Bytes_le (units : List (Fin 65536)) : utf8Bytes units ≤ 3 * units.length := by
  fun_induction utf8Bytes units <;> simp only [List.length_cons, List.length_nil] at * <;> omega

/-- A string has three bytes at most for a code unit. -/
theorem byteLength_le (text : JsString) : text.byteLength ≤ 3 * text.units.length := utf8Bytes_le text.units

theorem escapedUnits_of_plain {units : List (Fin 65536)} (h : ∀ code ∈ units, isPlain code = true) :
    escapedUnits units = units.length := by
  have hlength : ∀ code ∈ units, escapedLength code = 1 ∧ isHigh code = false := by
    intro code hmem
    have hplain := h code hmem
    simp only [isPlain, Bool.and_eq_true, decide_eq_true_eq, ne_eq] at hplain
    obtain ⟨⟨⟨hlow, hhigh⟩, hquote⟩, hbackslash⟩ := hplain
    constructor
    · have hcontrol : code.val ∉ [0x08, 0x09, 0x0a, 0x0c, 0x0d] := by
        simp only [List.mem_cons, List.not_mem_nil, or_false, not_or]
        omega
      unfold escapedLength
      rw [if_neg (by simp only [hcontrol, or_false]; omega), if_neg (by omega), if_pos hhigh]
    · unfold isHigh
      rw [decide_eq_false (by omega), Bool.false_and]
  clear h
  fun_induction escapedUnits units with
  | case1 => rfl
  | case2 code => exact (hlength code (by simp)).1
  | case3 code next rest hpair ih =>
    rw [(hlength code (by simp)).2, Bool.false_and] at hpair
    cases hpair
  | case4 code next rest hpair ih =>
    rw [(hlength code (by simp)).1, ih fun other hmem => hlength other (List.mem_cons_of_mem _ hmem),
      Nat.add_comm]
    rfl

/-- Plain code units take a byte each. -/
theorem quotedLength_of_plain {text : JsString} (h : ∀ code ∈ text.units, isPlain code = true) :
    text.quotedLength = 2 + text.units.length := by
  unfold quotedLength
  rw [escapedUnits_of_plain h]

/-- A string of code units below those of surrogates is well formed. -/
theorem wellFormedUnits_of_lt {units : List (Fin 65536)} (h : ∀ code ∈ units, code.val < 0xd800) :
    wellFormedUnits units = true := by
  fun_induction wellFormedUnits units with
  | case1 => rfl
  | case2 code =>
    have hcode := h code (by simp)
    simp only [isHigh, isLow, Bool.and_eq_true, Bool.not_eq_true', Bool.and_eq_false_iff, decide_eq_false_iff_not]
    omega
  | case3 code next rest hhigh ih =>
    have hcode := h code (by simp)
    simp only [isHigh, Bool.and_eq_true, decide_eq_true_eq] at hhigh
    omega
  | case4 code next rest hhigh ih =>
    have hcode := h code (by simp)
    have hlow : isLow code = false := by
      unfold isLow
      rw [decide_eq_false (by omega), Bool.false_and]
    rw [hlow, ih fun other hmem => h other (List.mem_cons_of_mem _ hmem)]
    rfl

theorem isWellFormedUnicode_ofAscii (text : String) : (ofAscii text).isWellFormedUnicode = true := by
  refine wellFormedUnits_of_lt fun code hmem => ?_
  obtain ⟨c, -, rfl⟩ := List.mem_map.mp hmem
  show c.toNat % 128 < 0xd800
  omega

theorem utf8Bytes_le_escapedUnits (units : List (Fin 65536)) : utf8Bytes units ≤ escapedUnits units := by
  have hcode : ∀ code : Fin 65536,
      (if code.val < 0x80 then 1 else if code.val < 0x800 then 2 else 3) ≤ escapedLength code := by
    intro code
    unfold escapedLength
    simp only [List.mem_cons, List.not_mem_nil, or_false]
    split_ifs <;> omega
  fun_induction escapedUnits units with
  | case1 => exact Nat.le_refl 0
  | case2 code => exact hcode code
  | case3 code next rest hpair ih =>
    have hhigh : 0xd800 ≤ code.val := by
      simp only [isHigh, Bool.and_eq_true, decide_eq_true_eq] at hpair
      exact hpair.1.1
    unfold utf8Bytes
    rw [if_neg (by omega), if_neg (by omega), if_pos hpair]
    omega
  | case4 code next rest hpair ih =>
    have hle := hcode code
    unfold utf8Bytes
    rw [if_neg hpair]
    split_ifs at hle ⊢ <;> omega

/-- No byte of a string is lost when it is quoted. -/
theorem byteLength_le_quotedLength (text : JsString) : text.byteLength + 2 ≤ text.quotedLength := by
  have hle := utf8Bytes_le_escapedUnits text.units
  unfold byteLength quotedLength
  omega

theorem byteLength_ofAscii_le (text : String) : (ofAscii text).byteLength ≤ 3 * text.length := by
  have hle := (ofAscii text).byteLength_le
  rw [length_ofAscii] at hle
  exact hle

end JsString

/-! ## Objects in parts -/

namespace JsValue

theorem itemsOfFields_append (fields others : List (JsString × JsValue)) :
    items.itemsOfFields (fields ++ others) = items.itemsOfFields fields + items.itemsOfFields others := by
  induction fields with
  | nil => simp [items.itemsOfFields]
  | cons field fields ih =>
    rw [List.cons_append]
    simp only [items.itemsOfFields, ih]
    omega

theorem depthOfFields_append (fields others : List (JsString × JsValue)) :
    depth.depthOfFields (fields ++ others) = max (depth.depthOfFields fields) (depth.depthOfFields others) := by
  induction fields with
  | nil => simp [depth.depthOfFields]
  | cons field fields ih =>
    rw [List.cons_append]
    simp only [depth.depthOfFields, ih]
    omega

theorem textsOfFields_append (fields others : List (JsString × JsValue)) :
    texts.textsOfFields (fields ++ others) = texts.textsOfFields fields ++ texts.textsOfFields others := by
  induction fields with
  | nil => simp [texts.textsOfFields]
  | cons field fields ih =>
    rw [List.cons_append]
    simp only [texts.textsOfFields, ih, List.cons_append, List.append_assoc]

theorem fieldsAreJson_append (fields others : List (JsString × JsValue)) :
    isJson.fieldsAreJson (fields ++ others) = (isJson.fieldsAreJson fields && isJson.fieldsAreJson others) := by
  induction fields with
  | nil => simp [isJson.fieldsAreJson]
  | cons field fields ih =>
    rw [List.cons_append]
    simp only [isJson.fieldsAreJson, ih, Bool.and_assoc]

theorem lengthOfFields_append (fields others : List (JsString × JsValue)) :
    encodedLength.lengthOfFields (fields ++ others)
      = encodedLength.lengthOfFields fields + encodedLength.lengthOfFields others := by
  induction fields with
  | nil => simp [encodedLength.lengthOfFields]
  | cons field fields ih =>
    rw [List.cons_append]
    simp only [encodedLength.lengthOfFields, ih]
    omega

/-! ## The strings of a value are in its text -/

mutual

theorem stringBytes_le_encodedLength : ∀ value : JsValue,
    (value.texts.map JsString.byteLength).sum ≤ value.encodedLength
  | .null | .bool _ | .number _ | .refused => by simp [texts]
  | .text value => by
    have hle := value.byteLength_le_quotedLength
    simp only [texts, encodedLength, List.map_cons, List.map_nil, List.sum_cons, List.sum_nil]
    omega
  | .array values => by
    have hle := stringBytes_le_lengthOfList values
    simp only [texts, encodedLength]
    omega
  | .object fields => by
    have hle := stringBytes_le_lengthOfFields fields
    simp only [texts, encodedLength]
    omega

theorem stringBytes_le_lengthOfList : ∀ values : List JsValue,
    ((texts.textsOfList values).map JsString.byteLength).sum ≤ encodedLength.lengthOfList values
  | [] => by simp [texts.textsOfList]
  | value :: values => by
    have hvalue := stringBytes_le_encodedLength value
    have hvalues := stringBytes_le_lengthOfList values
    simp only [texts.textsOfList, encodedLength.lengthOfList, List.map_append, List.sum_append]
    omega

theorem stringBytes_le_lengthOfFields : ∀ fields : List (JsString × JsValue),
    ((texts.textsOfFields fields).map JsString.byteLength).sum ≤ encodedLength.lengthOfFields fields
  | [] => by simp [texts.textsOfFields]
  | field :: fields => by
    have hkey := field.1.byteLength_le_quotedLength
    have hvalue := stringBytes_le_encodedLength field.2
    have hfields := stringBytes_le_lengthOfFields fields
    simp only [texts.textsOfFields, encodedLength.lengthOfFields, List.cons_append, List.map_cons, List.map_append,
      List.sum_cons, List.sum_append]
    omega

end

/-! ## Objects of texts -/

/-- An object of texts. -/
def flat (fields : List (String × JsString)) : JsValue := .object (fields.map fun f => field f.1 (.text f.2))

theorem length_flat (fields : List (String × JsString)) :
    encodedLength.lengthOfFields (fields.map fun f => field f.1 (.text f.2))
      ≤ (fields.map fun f => 3 + 6 * f.1.length + f.2.quotedLength).sum := by
  induction fields with
  | nil => simp [encodedLength.lengthOfFields]
  | cons f fields ih =>
    have hkey := (JsString.ofAscii f.1).quotedLength_le
    rw [JsString.length_ofAscii] at hkey
    simp only [List.map_cons, List.sum_cons, encodedLength.lengthOfFields, field, encodedLength] at ih ⊢
    omega

theorem encodedLength_flat_le (fields : List (String × JsString)) :
    (flat fields).encodedLength
      ≤ 2 + fields.length + (fields.map fun f => 3 + 6 * f.1.length + f.2.quotedLength).sum := by
  have hle := length_flat fields
  unfold flat encodedLength
  rw [List.length_map]
  omega

theorem isJson_flat (fields : List (String × JsString)) : (flat fields).isJson = true := by
  show isJson.fieldsAreJson (fields.map fun f => field f.1 (.text f.2)) = true
  induction fields with
  | nil => rfl
  | cons f fields ih => simpa [isJson.fieldsAreJson, field, isJson] using ih

theorem items_flat (fields : List (String × JsString)) : (flat fields).items = 1 + fields.length := by
  have hitems : items.itemsOfFields (fields.map fun f => field f.1 (.text f.2)) = fields.length := by
    induction fields with
    | nil => rfl
    | cons f fields ih =>
      simp only [List.map_cons, items.itemsOfFields, field, items, List.length_cons] at ih ⊢
      omega
  show 1 + items.itemsOfFields _ = _
  rw [hitems]

theorem depth_flat (fields : List (String × JsString)) : (flat fields).depth ≤ 1 := by
  show depth.depthOfFields (fields.map fun f => field f.1 (.text f.2)) ≤ 1
  induction fields with
  | nil => exact Nat.zero_le _
  | cons f fields ih =>
    simp only [List.map_cons, depth.depthOfFields, field, depth] at ih ⊢
    omega

theorem texts_flat {fields : List (String × JsString)} (htexts : ∀ f ∈ fields, f.2.isWellFormedUnicode = true) :
    (flat fields).texts.all JsString.isWellFormedUnicode = true := by
  show (texts.textsOfFields (fields.map fun f => field f.1 (.text f.2))).all JsString.isWellFormedUnicode = true
  induction fields with
  | nil => rfl
  | cons f fields ih =>
    have hrest := ih fun other hmem => htexts other (List.mem_cons_of_mem _ hmem)
    simp only [List.map_cons, texts.textsOfFields, field, texts, List.cons_append, List.nil_append, List.all_cons,
      JsString.isWellFormedUnicode_ofAscii, htexts f (List.mem_cons_self), Bool.true_and] at hrest ⊢
    exact hrest

/-- An object of some well-formed texts can be encoded. -/
theorem canonicalizes_flat {fields : List (String × JsString)} (hlength : fields.length ≤ 1000)
    (hencoded : (flat fields).encodedLength ≤ maxCaptureJsonStringBytes)
    (htexts : ∀ f ∈ fields, f.2.isWellFormedUnicode = true) : (flat fields).canonicalizes = true := by
  have hbytes := stringBytes_le_encodedLength (flat fields)
  unfold canonicalizes
  simp only [Bool.and_eq_true, decide_eq_true_eq]
  refine ⟨⟨⟨⟨isJson_flat fields, ?_⟩, ?_⟩, texts_flat htexts⟩, Nat.le_trans hbytes hencoded⟩
  · rw [items_flat]
    unfold maxCaptureJsonItems
    omega
  · exact Nat.le_trans (depth_flat fields) (by decide)

end JsValue

end SalienceGate
