import SalienceGate.Shadow.PreflightGrammar

/-!
# Reading an ATIF source

`_parse_source`: strict UTF-8 without a byte order mark, the preflight, the library parser with its hooks, and then
the value must be an object. It returns exactly the objects that `Admitted` describes.
-/

namespace SalienceGate

open Checked JsonText JSONPreflight

def maxShadowTraceBytes : ℕ := 64 * 1024 * 1024

/-- A trace failure without content. -/
structure ShadowTraceInputError where
  reasonCode : String
  stepOrdinal : Option ℕ := none
  callOrdinal : Option ℕ := none
  resultOrdinal : Option ℕ := none
  deriving DecidableEq

/-- A number as its text. -/
structure JSONNumber where
  lexeme : List Char
  integer : Bool
  deriving DecidableEq

/-- What the library parser builds with the importer's hooks. A string is its code points. -/
inductive SourceValue where
  | null
  | bool (b : Bool)
  | number (n : JSONNumber)
  | text (us : List ℕ)
  | list (items : List SourceValue)
  | dict (members : List (List ℕ × SourceValue))

/-- The exceptions below `_parse_source`. `decode` is the one of the library parser. -/
inductive JSONError where
  | malformed
  | limit
  | duplicateKey
  | decode
  deriving DecidableEq

/-- The loop of `_duplicate_safe_object`: no name comes twice. -/
def insertNew (result : List (List ℕ × SourceValue)) :
    List (List ℕ × SourceValue) → Except JSONError (List (List ℕ × SourceValue))
  | [] => .ok result
  | pair :: pairs =>
    if pair.1 ∈ result.map Prod.fst then .error .duplicateKey else insertNew (result ++ [pair]) pairs

/-- `_duplicate_safe_object`. -/
def duplicateSafeObject (pairs : List (List ℕ × SourceValue)) : Except JSONError SourceValue :=
  if pairs.length > maxObjectMembers then .error .limit else .dict <$> insertNew [] pairs

def integerToken (value : List Char) : SourceValue := .number ⟨value, true⟩

def floatToken (value : List Char) : SourceValue := .number ⟨value, false⟩

def rejectConstant (_ : String) : Except JSONError SourceValue := .error .malformed

/-- The hooks that `_parse_source` passes to `json.loads`. -/
def sourceHooks : Hooks JSONError SourceValue where
  null := .null
  bool := .bool
  string := .text
  array := .list
  object := duplicateSafeObject
  integer := fun value => .ok (integerToken value)
  float := fun value => .ok (floatToken value)
  constant := rejectConstant

/-- What `_parse_source` raises for an exception of the preflight or of the parser. -/
def sourceError : JSONError → ShadowTraceInputError
  | .limit => { reasonCode := "input_limit_exceeded" }
  | _ => { reasonCode := "invalid_json" }

/-- An exception of the preflight. -/
def scanError : ScanError → JSONError
  | .limit => .limit
  | _ => .malformed

/-- The UTF-8 byte order mark. -/
def byteOrderMark : List UInt8 := [0xEF, 0xBB, 0xBF]

section source

variable [UnicodeDigits]

/-- The body of the `try` of `_parse_source`, after the text is decoded. -/
def parseText (text : List Char) : Except JSONError SourceValue := do
  (run text).mapError scanError
  loads sourceHooks .decode text

/-- `_parse_source`. -/
def parseSource (source : ByteArray) : Except ShadowTraceInputError (List (List ℕ × SourceValue)) := do
  raiseIf (¬(1 ≤ source.size ∧ source.size ≤ maxShadowTraceBytes)) { reasonCode := "input_limit_exceeded" }
  raiseIf (byteOrderMark <+: source.data.toList) { reasonCode := "invalid_json" }
  let text ← expect source.utf8Decode? { reasonCode := "invalid_json" }
  let parsed ← (parseText text.toList).mapError sourceError
  match parsed with
  | .dict members => .ok members
  | _ => .error { reasonCode := "invalid_json" }

end source

/-! ## What is admitted -/

/-- The value that a tree says: numbers are their texts, and members stand in their order. -/
def Says : Tree → SourceValue → Prop
  | .null, .null => True
  | .bool b, .bool b' => b = b'
  | .number token isInteger, .number n => n = ⟨token, isInteger⟩
  | .string us, .text vs => us = vs
  | .array ts, .list vs => saysList ts vs
  | .object ms, .dict vs => saysMembers ms vs
  | _, _ => False
where
  /-- `Says` for the items of an array. -/
  saysList : List Tree → List SourceValue → Prop
    | [], [] => True
    | t :: ts, v :: vs => Says t v ∧ saysList ts vs
    | _, _ => False
  /-- `Says` for the members of an object. -/
  saysMembers : List (List ℕ × Tree) → List (List ℕ × SourceValue) → Prop
    | [], [] => True
    | m :: ms, v :: vs => (m.1 = v.1 ∧ Says m.2 v.2) ∧ saysMembers ms vs
    | _, _ => False

/-- No object of a tree has two members of one name. -/
def NoDuplicates (t : Tree) : Prop := ∀ ms, .object ms ∈ t.parts → (ms.map Prod.fst).Nodup

/-- A source and the object that it says: strict UTF-8 without a byte order mark, one text of RFC 8259 with an
object of strings that are well-formed, no name twice in an object, and nothing over its limit. -/
structure Admitted (source : ByteArray) (members : List (List ℕ × SourceValue)) (text : List Char) (t : Tree) :
    Prop where
  encoding : source = text.utf8Encode
  noMark : ¬byteOrderMark <+: source.data.toList
  grammar : DocumentText t text
  regular : Regular t
  noDuplicates : NoDuplicates t
  withinLimits : TreeWithinLimits t
  value : Says t (.dict members)

/-! ## The hooks -/

theorem fmap_eq_ok {ε α β : Type} {f : α → β} {x : Except ε α} {b : β} :
    f <$> x = .ok b ↔ ∃ a, x = .ok a ∧ f a = b := by
  rw [map_eq_pure_bind, bind_eq_ok]
  simp only [pure_eq_ok]

theorem insertNew_eq_ok {pairs result : List (List ℕ × SourceValue)} {out : List (List ℕ × SourceValue)}
    (hresult : (result.map Prod.fst).Nodup) :
    insertNew result pairs = .ok out ↔ ((result ++ pairs).map Prod.fst).Nodup ∧ out = result ++ pairs := by
  induction pairs generalizing result with
  | nil =>
    rw [insertNew, List.append_nil]
    constructor
    · intro h
      cases h
      exact ⟨hresult, rfl⟩
    · rintro ⟨-, rfl⟩
      rfl
  | cons pair pairs ih =>
    have happend : result ++ pair :: pairs = result ++ [pair] ++ pairs := by
      rw [List.append_assoc, List.singleton_append]
    rw [insertNew]
    split
    next hmem =>
      refine iff_of_false (fun h => by cases h) fun hall => ?_
      rw [List.map_append, List.map_cons] at hall
      exact (List.nodup_append.mp hall.1).2.2 _ hmem _ List.mem_cons_self rfl
    next hmem =>
      have hnodup : ((result ++ [pair]).map Prod.fst).Nodup := by
        rw [List.map_append, List.map_singleton]
        exact List.nodup_append.mpr ⟨hresult, List.pairwise_singleton _ _, fun a ha b hb hab =>
          hmem (by rw [← List.mem_singleton.mp hb, ← hab]; exact ha)⟩
      rw [happend]
      exact ih hnodup

theorem duplicateSafeObject_eq_ok {pairs : List (List ℕ × SourceValue)} {v : SourceValue} :
    duplicateSafeObject pairs = .ok v
      ↔ pairs.length ≤ maxObjectMembers ∧ (pairs.map Prod.fst).Nodup ∧ v = .dict pairs := by
  unfold duplicateSafeObject
  split
  next h => exact iff_of_false (fun heq => by cases heq) fun hall => by omega
  next h =>
    have hinsert (out : List (List ℕ × SourceValue)) := (insertNew_eq_ok List.nodup_nil : insertNew [] pairs = .ok out ↔ _)
    constructor
    · intro heq
      obtain ⟨out, hout, rfl⟩ := fmap_eq_ok.mp heq
      obtain ⟨hnodup, rfl⟩ := (hinsert out).mp hout
      exact ⟨by omega, hnodup, rfl⟩
    · rintro ⟨-, hnodup, rfl⟩
      exact fmap_eq_ok.mpr ⟨pairs, (hinsert pairs).mpr ⟨hnodup, rfl⟩, rfl⟩

/-- What the hooks ask of the objects among some parts. -/
def Buildable (parts : List Tree) : Prop :=
  ∀ ms, .object ms ∈ parts → ms.length ≤ maxObjectMembers ∧ (ms.map Prod.fst).Nodup

theorem buildable_append {ps qs : List Tree} : Buildable (ps ++ qs) ↔ Buildable ps ∧ Buildable qs := by
  unfold Buildable
  constructor
  · intro h
    exact ⟨fun ms hms => h ms (List.mem_append_left _ hms), fun ms hms => h ms (List.mem_append_right _ hms)⟩
  · rintro ⟨hps, hqs⟩ ms hms
    exact (List.mem_append.mp hms).elim (hps ms) (hqs ms)

theorem buildable_cons {t : Tree} {ps : List Tree} :
    Buildable (t :: ps) ↔ (∀ ms, t = .object ms → ms.length ≤ maxObjectMembers ∧ (ms.map Prod.fst).Nodup)
      ∧ Buildable ps := by
  unfold Buildable
  rw [← List.singleton_append]
  constructor
  · intro h
    refine ⟨fun ms heq => h ms (List.mem_append_left _ ?_), fun ms hms => h ms (List.mem_append_right _ hms)⟩
    rw [heq]
    exact List.mem_singleton.mpr rfl
  · rintro ⟨htop, hps⟩ ms hms
    rcases List.mem_append.mp hms with hms | hms
    · exact htop ms (List.mem_singleton.mp hms).symm
    · exact hps ms hms

theorem buildable_nil : Buildable [] := fun ms hms => (by cases hms)

theorem Says.names : ∀ {ms : List (List ℕ × Tree)} {vs : List (List ℕ × SourceValue)},
    Says.saysMembers ms vs → ms.map Prod.fst = vs.map Prod.fst
  | [], [], _ => rfl
  | m :: ms, v :: vs, h => by
    rw [Says.saysMembers] at h
    rw [List.map_cons, List.map_cons, h.1.1, Says.names h.2]
  | [], _ :: _, h => h.elim
  | _ :: _, [], h => h.elim

theorem build_leaf {t : Tree} {v w : SourceValue} (hbuild : buildTree sourceHooks t = .ok w) (hsaid : Says t v ↔ v = w)
    (hparts : t.parts = [t]) (hleaf : ∀ ms, t ≠ .object ms) :
    buildTree sourceHooks t = .ok v ↔ Says t v ∧ Buildable t.parts := by
  rw [hbuild, hsaid, hparts, buildable_cons]
  constructor
  · intro heq
    cases heq
    exact ⟨rfl, fun ms heq => absurd heq (hleaf ms), buildable_nil⟩
  · rintro ⟨rfl, -⟩
    rfl

mutual

/-- The hooks build the value that the tree says, if no object repeats a name or has too many members. -/
theorem build_eq_ok_iff : ∀ {t : Tree} {v : SourceValue},
    buildTree sourceHooks t = .ok v ↔ Says t v ∧ Buildable t.parts
  | .null, v => build_leaf rfl (by cases v <;> simp [Says, sourceHooks]) rfl fun ms h => by cases h
  | .bool b, v => build_leaf rfl (by cases v <;> simp [Says, sourceHooks, eq_comm]) rfl fun ms h => by cases h
  | .number token true, v =>
    build_leaf rfl (by cases v <;> simp [Says, integerToken]) rfl fun ms h => by cases h
  | .number token false, v =>
    build_leaf rfl (by cases v <;> simp [Says, floatToken]) rfl fun ms h => by cases h
  | .constant name, v => iff_of_false (fun h => by cases h) fun h => by cases v <;> exact h.1.elim
  | .string us, v => build_leaf rfl (by cases v <;> simp [Says, sourceHooks, eq_comm]) rfl fun ms h => by cases h
  | .array ts, v => by
    rw [buildTree, fmap_eq_ok, Tree.parts, buildable_cons]
    constructor
    · rintro ⟨vs, hvs, rfl⟩
      obtain ⟨hsaid, hbuildable⟩ := buildList_eq_ok_iff.mp hvs
      exact ⟨hsaid, fun ms heq => (by cases heq), hbuildable⟩
    · rintro ⟨hsaid, -, hbuildable⟩
      cases v with
      | list vs => exact ⟨vs, buildList_eq_ok_iff.mpr ⟨hsaid, hbuildable⟩, rfl⟩
      | _ => exact hsaid.elim
  | .object ms, v => by
    rw [buildTree, bind_eq_ok, Tree.parts, buildable_cons]
    constructor
    · rintro ⟨vs, hvs, hpairs⟩
      obtain ⟨hsaid, hbuildable⟩ := buildMembers_eq_ok_iff.mp hvs
      obtain ⟨hlength, hnodup, rfl⟩ := duplicateSafeObject_eq_ok.mp hpairs
      have hnames := Says.names hsaid
      refine ⟨hsaid, fun ms' heq => ?_, hbuildable⟩
      cases heq
      rw [hnames]
      have hcount := congrArg List.length hnames
      rw [List.length_map, List.length_map] at hcount
      exact ⟨by omega, hnodup⟩
    · rintro ⟨hsaid, htop, hbuildable⟩
      cases v with
      | dict vs =>
        obtain ⟨hlength, hnodup⟩ := htop ms rfl
        have hnames := Says.names hsaid
        have hcount := congrArg List.length hnames
        rw [List.length_map, List.length_map] at hcount
        rw [hnames] at hnodup
        exact ⟨vs, buildMembers_eq_ok_iff.mpr ⟨hsaid, hbuildable⟩,
          duplicateSafeObject_eq_ok.mpr ⟨by omega, hnodup, rfl⟩⟩
      | _ => exact hsaid.elim

theorem buildList_eq_ok_iff : ∀ {ts : List Tree} {vs : List SourceValue},
    buildTree.buildList sourceHooks ts = .ok vs ↔ Says.saysList ts vs ∧ Buildable (Tree.parts.partsOfList ts)
  | [], vs => by
    rw [buildTree.buildList, Tree.parts.partsOfList]
    cases vs with
    | nil => exact ⟨fun _ => ⟨trivial, buildable_nil⟩, fun _ => rfl⟩
    | cons v vs => exact iff_of_false (fun h => by cases h) fun h => h.1.elim
  | t :: ts, vs => by
    rw [buildTree.buildList, Tree.parts.partsOfList, bind_eq_ok, buildable_append]
    constructor
    · rintro ⟨item, hitem, hrest⟩
      obtain ⟨items, hitems, hout⟩ := bind_eq_ok.mp hrest
      obtain rfl := pure_eq_ok.mp hout
      obtain ⟨hsaid, hbuildable⟩ := build_eq_ok_iff.mp hitem
      obtain ⟨hsaid', hbuildable'⟩ := buildList_eq_ok_iff.mp hitems
      exact ⟨⟨hsaid, hsaid'⟩, hbuildable, hbuildable'⟩
    · rintro ⟨hsaid, hbuildable, hbuildable'⟩
      cases vs with
      | nil => exact hsaid.elim
      | cons v vs =>
        exact ⟨v, build_eq_ok_iff.mpr ⟨hsaid.1, hbuildable⟩,
          bind_eq_ok.mpr ⟨vs, buildList_eq_ok_iff.mpr ⟨hsaid.2, hbuildable'⟩, rfl⟩⟩

theorem buildMembers_eq_ok_iff : ∀ {ms : List (List ℕ × Tree)} {vs : List (List ℕ × SourceValue)},
    buildTree.buildMembers sourceHooks ms = .ok vs ↔ Says.saysMembers ms vs ∧ Buildable (Tree.parts.partsOfMembers ms)
  | [], vs => by
    rw [buildTree.buildMembers, Tree.parts.partsOfMembers]
    cases vs with
    | nil => exact ⟨fun _ => ⟨trivial, buildable_nil⟩, fun _ => rfl⟩
    | cons v vs => exact iff_of_false (fun h => by cases h) fun h => h.1.elim
  | m :: ms, vs => by
    rw [buildTree.buildMembers, Tree.parts.partsOfMembers, bind_eq_ok, buildable_append]
    constructor
    · rintro ⟨value, hvalue, hrest⟩
      obtain ⟨members, hmembers, hout⟩ := bind_eq_ok.mp hrest
      obtain rfl := pure_eq_ok.mp hout
      obtain ⟨hsaid, hbuildable⟩ := build_eq_ok_iff.mp hvalue
      obtain ⟨hsaid', hbuildable'⟩ := buildMembers_eq_ok_iff.mp hmembers
      exact ⟨⟨⟨rfl, hsaid⟩, hsaid'⟩, hbuildable, hbuildable'⟩
    · rintro ⟨hsaid, hbuildable, hbuildable'⟩
      cases vs with
      | nil => exact hsaid.elim
      | cons v vs =>
        obtain ⟨⟨hname, hvalue⟩, hmore⟩ := hsaid
        refine ⟨v.2, build_eq_ok_iff.mpr ⟨hvalue, hbuildable⟩,
          bind_eq_ok.mpr ⟨vs, buildMembers_eq_ok_iff.mpr ⟨hmore, hbuildable'⟩, ?_⟩⟩
        rw [hname]
        rfl

end

/-! ## Admission -/

section admission

variable [UnicodeDigits]

/-- A text is parsed to what its tree says, if the tree is regular, repeats no name and is within the limits. -/
theorem parseText_eq_ok {text : List Char} {v : SourceValue} :
    parseText text = .ok v
      ↔ ∃ t, DocumentText t text ∧ Regular t ∧ NoDuplicates t ∧ TreeWithinLimits t ∧ Says t v := by
  unfold parseText
  rw [check_bind_eq_ok, mapError_eq_ok, loads_eq_ok]
  constructor
  · rintro ⟨hrun, t, htext, hbuild⟩
    obtain ⟨hregular, hlimits⟩ := (run_iff htext).mp hrun
    obtain ⟨hsaid, hbuildable⟩ := build_eq_ok_iff.mp hbuild
    exact ⟨t, htext, hregular, fun ms hms => (hbuildable ms hms).2, hlimits, hsaid⟩
  · rintro ⟨t, htext, hregular, hnames, hlimits, hsaid⟩
    refine ⟨(run_iff htext).mpr ⟨hregular, hlimits⟩, t, htext, build_eq_ok_iff.mpr ⟨hsaid, fun ms hms => ?_⟩⟩
    exact ⟨hlimits.members ms hms, hnames ms hms⟩

omit [UnicodeDigits] in
/-- Strict decoding undoes encoding, and nothing else is decoded. -/
theorem utf8Decode?_eq_some {source : ByteArray} {text : Array Char} :
    source.utf8Decode? = some text ↔ source = text.toList.utf8Encode := by
  constructor
  · intro h
    have hvalid : source.IsValidUTF8 := ByteArray.isSome_utf8Decode?_iff.mp (by rw [h]; rfl)
    obtain ⟨l, rfl⟩ := hvalid
    rw [List.utf8Decode?_utf8Encode] at h
    rw [← Option.some.inj h]
  · rintro rfl
    rw [List.utf8Decode?_utf8Encode, Array.toArray_toList]

/-- A source is read exactly if it is admitted, and read as the object that it says. -/
theorem parseSource_eq_ok {source : ByteArray} {members : List (List ℕ × SourceValue)} :
    parseSource source = .ok members
      ↔ (1 ≤ source.size ∧ source.size ≤ maxShadowTraceBytes) ∧ ∃ text t, Admitted source members text t := by
  unfold parseSource
  rw [raiseIf_bind_eq_ok, Classical.not_not, raiseIf_bind_eq_ok, bind_eq_ok]
  constructor
  · rintro ⟨hsize, hmark, text, hdecode, hrest⟩
    have hencoding := utf8Decode?_eq_some.mp (expect_eq_ok.mp hdecode)
    obtain ⟨parsed, hparsed, hdict⟩ := bind_eq_ok.mp hrest
    obtain ⟨t, htext, hregular, hnames, hlimits, hsaid⟩ := parseText_eq_ok.mp (mapError_eq_ok.mp hparsed)
    cases parsed with
    | dict members' =>
      cases hdict
      exact ⟨hsize, text.toList, t, hencoding, hmark, htext, hregular, hnames, hlimits, hsaid⟩
    | null => cases hdict
    | bool b => cases hdict
    | number n => cases hdict
    | text us => cases hdict
    | list items => cases hdict
  · rintro ⟨hsize, text, t, h⟩
    refine ⟨hsize, h.noMark, text.toArray, expect_eq_ok.mpr (utf8Decode?_eq_some.mpr h.encoding), ?_⟩
    have hparsed := parseText_eq_ok.mpr ⟨t, h.grammar, h.regular, h.noDuplicates, h.withinLimits, h.value⟩
    exact bind_eq_ok.mpr ⟨_, mapError_eq_ok.mpr hparsed, rfl⟩

/-- Whatever the preflight lets through, the library parser builds nothing over the limits from it. -/
theorem withinLimits_of_run {text : List Char} {t : Tree} (hrun : run text = .ok ()) (hparse : parse text = some t) :
    TreeWithinLimits t := ((run_iff (parse_eq_some.mp hparse)).mp hrun).2

/-- Admission is exact: a source is read exactly if it is admitted, and as what it says; the preflight comes to its
end on every text; and where it accepts, the parser builds nothing over the limits. -/
theorem parseSource_exact :
    (∀ source members, parseSource source = .ok members
      ↔ (1 ≤ source.size ∧ source.size ≤ maxShadowTraceBytes) ∧ ∃ text t, Admitted source members text t)
    ∧ (∀ text, run text ≠ .error .fuel)
    ∧ ∀ text t, run text = .ok () → parse text = some t → TreeWithinLimits t :=
  ⟨fun _ _ => parseSource_eq_ok, run_terminates, fun _ _ hrun hparse => withinLimits_of_run hrun hparse⟩

end admission

section example_digits

/-- An alphabet with one digit outside ASCII. -/
local instance arabicThree : UnicodeDigits where
  isdigit c := c.isDigit || c = '٣'
  ascii c hc := by
    have hne : c ≠ '٣' := by
      rintro rfl
      exact absurd hc (by decide)
    rw [decide_eq_false hne, Bool.or_false]

-- a digit that the preflight reads and the library parser does not
example : (run ['1', '٣']).isOk = true ∧ (parse ['1', '٣']).isNone = true := by decide +kernel

end example_digits

end SalienceGate
