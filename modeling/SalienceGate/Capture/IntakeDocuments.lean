import Mathlib
import SalienceGate.Capture.IntakeRecords

/-!
# Stored documents of intakes and events

An intake and an event are stored as their canonical bytes. Every record has such bytes within the limits of a stored
document, they are loaded as the record, and nothing else is loaded (`captureDocuments_roundTrip`).
-/

namespace SalienceGate

open Checked Json

/-- `_CAPTURE_EVENT_LIMITS`. -/
def captureEventLimits : CaptureJSONLimits where
  maxBytes := 64 * 1024
  maxDepth := 32
  maxItems := 10000
  maxStringBytes := 1 * 1024 * 1024

/-! ## Loading and storing -/

section documents

variable [CaptureCapabilities] [DatetimeReading] [FloatRepr] [FloatReading]

omit [FloatRepr] in
/-- `_CAPTURE_INTAKE_ADAPTER.validate_json`. -/
def validateIntakeJson (value : ByteArray) : Except CaptureSchemaError CaptureIntakeRecord := do
  let document ← expect (decodeJson value) .invalid
  let fields ← expect (CaptureIntakeFields.load document) .invalid
  validateCaptureIntake fields

/-- `canonical_capture_intake`. -/
def canonicalCaptureIntake (value : CaptureIntakeRecord) : Except CaptureSchemaError ByteArray := do
  let validated ← validateCaptureIntake value.toCaptureIntakeFields
  let encoded := canonicalBytes validated.modelDump
  let _ ← readBoundedBytes encoded captureEventLimits
  return encoded

/-- `load_capture_intake`. -/
def loadCaptureIntake (value : ByteArray) : Except CaptureSchemaError CaptureIntakeRecord := do
  let _ ← readBoundedBytes value captureEventLimits
  let intake ← validateIntakeJson value
  let encoded ← canonicalCaptureIntake intake
  raiseIf (encoded ≠ value) .invalid
  return intake

omit [FloatRepr] in
/-- `CaptureEvent.model_validate_json`. -/
def validateEventJson (value : ByteArray) : Except CaptureSchemaError CaptureEventRecord := do
  let document ← expect (decodeJson value) .invalid
  let fields ← expect (CaptureEventFields.load document) .invalid
  validateCaptureEvent fields

/-- `canonical_capture_event`. -/
def canonicalCaptureEvent (value : CaptureEventRecord) : Except CaptureSchemaError ByteArray := do
  let validated ← validateCaptureEvent value.toCaptureEventFields
  let encoded := canonicalBytes validated.modelDump
  let _ ← readBoundedBytes encoded captureEventLimits
  return encoded

/-- `load_capture_event`. -/
def loadCaptureEvent (value : ByteArray) : Except CaptureSchemaError CaptureEventRecord := do
  let _ ← readBoundedBytes value captureEventLimits
  let event ← validateEventJson value
  raiseIf (canonicalBytes event.modelDump ≠ value) .invalid
  return event

end documents

/-! ## What is dumped is well-formed -/

section dumped

/-- A value in canonical form whose numbers are read back. -/
def Storable (j : Json) : Prop := j.canonical = true ∧ j.plainNumbers = true

/-- An object of storable members is storable. -/
theorem storable_sortMembers {members : List (String × Json)} (h : ∀ m ∈ members, Storable m.2) :
    Storable (.object (sortMembers members)) :=
  ⟨canonical_sortMembers fun m hm => (h m hm).1,
    plainNumbersOfItems_iff.mpr fun m hm => (h m (mem_sortMembers hm)).2⟩

theorem storable_str (s : String) : Storable (.str s) := ⟨rfl, rfl⟩

/-- An integer of up to nineteen digits is storable. -/
theorem storable_int {n : ℤ} (h : n.natAbs < 10^19) : Storable (.int n) := by
  have hdigits : (Nat.toDigits 10 n.natAbs).length ≤ 19 := (Nat.length_toDigits_le_iff (by decide) (by decide)).mpr h
  have hplain : (Nat.toDigits 10 n.natAbs).length ≤ maxIntDigits := by
    unfold maxIntDigits
    omega
  exact ⟨rfl, decide_eq_true hplain⟩

theorem storable_nullable {α : Type} (codec : Codec α) (h : ∀ a, Storable (codec.dump a)) (o : Option α) :
    Storable (codec.dumpNullable o) := by
  cases o with
  | none => exact ⟨rfl, rfl⟩
  | some a => exact h a

/-- An optional integer in a range of the schemas is storable. -/
theorem storable_range {low high : ℤ} {o : Option ℤ} (h : withinRange low high o = true) (hlow : -10^19 < low)
    (hhigh : high < 10^19) : Storable (Codec.int.dumpNullable o) := by
  cases o with
  | none => exact ⟨rfl, rfl⟩
  | some n =>
    obtain ⟨hge, hle⟩ := Bool.and_eq_true_iff.mp h
    rw [decide_eq_true_eq] at hge hle
    exact storable_int (by omega)

variable [DatetimeReading] [CaptureCapabilities]

omit [CaptureCapabilities] in
theorem CaptureIntakeBase.storable_members {base : CaptureIntakeBase}
    (h : withinRange 0 (2^63 - 1) base.producerSequence = true) : ∀ m ∈ base.members, Storable m.2 := by
  have hsequence := storable_range h (by decide) (by decide)
  have hinstant := storable_nullable datetimeCodec (fun t => storable_str t.isoText) base.occurredAt
  unfold members
  simp only [List.forall_mem_cons]
  exact ⟨storable_str _, storable_str _, storable_str _, storable_str _, storable_str _, storable_str _, storable_str _,
    hinstant, storable_str _, hsequence, storable_str _, storable_str _, fun _ hm => absurd hm List.not_mem_nil⟩

omit [DatetimeReading] [CaptureCapabilities] in
theorem CaptureIntakeDetail.storable_members {detail : CaptureIntakeDetail} (h : detail.check = .ok ()) :
    ∀ m ∈ detail.members, Storable m.2 := by
  have hdigest : ∀ digest, Storable (Sha256Digest.codec.dump digest) := fun digest => storable_str digest.text
  unfold members
  cases detail with
  | sessionStarted => exact fun _ hm => absurd hm List.not_mem_nil
  | actionStarted callRef actionDigest workspaceDigest environmentDigest toolClass identityAuthority =>
    simp only [List.forall_mem_cons]
    exact ⟨hdigest _, hdigest _, hdigest _, hdigest _, storable_str _, storable_str _,
      fun _ hm => absurd hm List.not_mem_nil⟩
  | actionFinished callRef outcomeStatus outcomeAuthority exitStatus errorCode failureSignature =>
    obtain ⟨hrange, -⟩ := raiseIf_bind_eq_ok.mp h
    have hexit := storable_range (Classical.not_not.mp hrange) (by decide) (by decide)
    simp only [List.forall_mem_cons]
    exact ⟨hdigest _, storable_nullable _ (fun status => storable_str status.value) _, storable_str _, hexit,
      storable_nullable _ (fun error => storable_str error.value) _, storable_nullable _ hdigest _,
      fun _ hm => absurd hm List.not_mem_nil⟩
  | permissionDenied callRef => exact List.forall_mem_singleton.mpr (hdigest _)
  | subagentStarted subagentId => exact List.forall_mem_singleton.mpr (hdigest _)
  | subagentFinished subagentId => exact List.forall_mem_singleton.mpr (hdigest _)
  | turnFinished turnId => exact List.forall_mem_singleton.mpr (hdigest _)
  | controllerFailed errorCode failureSignature =>
    simp only [List.forall_mem_cons]
    exact ⟨storable_str _, storable_nullable _ hdigest _, fun _ hm => absurd hm List.not_mem_nil⟩
  | sessionFinished => exact fun _ hm => absurd hm List.not_mem_nil

omit [DatetimeReading] in
/-- What the validators of an intake establish. -/
theorem CaptureIntakeFields.check_eq_ok {fields : CaptureIntakeFields} : fields.check = .ok ()
    ↔ withinRange 0 (2^63 - 1) fields.producerSequence = true ∧ fields.authorityIsConsistent = .ok ()
      ∧ fields.detail.check = .ok () := by
  unfold check
  rw [raiseIf_bind_eq_ok, Classical.not_not, check_bind_eq_ok]

omit [DatetimeReading] in
/-- What the validators of an event establish. -/
theorem CaptureEventFields.check_eq_ok {fields : CaptureEventFields} : fields.check = .ok ()
    ↔ withinRange 1 (2^63 - 1) (some fields.receiptOrdinal) = true ∧ fields.intake.check = .ok ()
      ∧ (fields.receiptOrdinal = 1 ↔ fields.previousEventTag = none) := by
  have hchain : decide (fields.receiptOrdinal = 1) = fields.previousEventTag.isNone
      ↔ (fields.receiptOrdinal = 1 ↔ fields.previousEventTag = none) := by
    rw [Bool.eq_iff_iff, decide_eq_true_eq, Option.isNone_iff_eq_none]
  unfold check
  rw [raiseIf_bind_eq_ok, Classical.not_not, check_bind_eq_ok, raiseIf_eq_ok, Classical.not_not, hchain]

/-- What an intake dumps is storable. -/
theorem CaptureIntakeFields.storable_modelDump {fields : CaptureIntakeFields} (h : fields.check = .ok ()) :
    Storable fields.modelDump := by
  obtain ⟨hsequence, -, hdetail⟩ := check_eq_ok.mp h
  refine storable_sortMembers (List.forall_mem_append.mpr ⟨CaptureIntakeBase.storable_members hsequence, ?_⟩)
  exact List.forall_mem_cons.mpr ⟨storable_str _, CaptureIntakeDetail.storable_members hdetail⟩

/-- What an event dumps is storable. -/
theorem CaptureEventFields.storable_modelDump {fields : CaptureEventFields} (h : fields.check = .ok ()) :
    Storable fields.modelDump := by
  obtain ⟨hordinal, hintake, -⟩ := check_eq_ok.mp h
  have hint : Storable (Codec.int.dump fields.receiptOrdinal) := storable_range hordinal (by decide) (by decide)
  refine storable_sortMembers ?_
  simp only [List.forall_mem_cons]
  exact ⟨storable_str _, hint, storable_nullable _ (fun digest => storable_str digest.text) _, storable_str _,
    CaptureIntakeFields.storable_modelDump hintake, fun _ hm => absurd hm List.not_mem_nil⟩

end dumped

/-! ## What is dumped is within the limits -/

/-- Letters, digits and the punctuation of identifiers and instants are not escaped. -/
theorem isPlain_of_forall {s : String}
    (h : ∀ c ∈ s.toList, c.isAlphanum = true ∨ c ∈ ['.', '_', ':', '/', '+', '-']) : isPlain s = true := by
  refine List.all_eq_true.mpr fun c hc => ?_
  rcases h c hc with halnum | hmem
  · simp only [Char.isAlphanum, Char.isAlpha, Char.isUpper, Char.isLower, Char.isDigit, Bool.or_eq_true,
      Bool.and_eq_true, decide_eq_true_eq, UInt32.le_iff_toNat_le, ge_iff_le] at halnum
    have hrange : (65 ≤ c.toNat ∧ c.toNat ≤ 90 ∨ 97 ≤ c.toNat ∧ c.toNat ≤ 122)
        ∨ 48 ≤ c.toNat ∧ c.toNat ≤ 57 := halnum
    simp only [Bool.and_eq_true, decide_eq_true_eq]
    omega
  · simp only [List.mem_cons, List.not_mem_nil, or_false] at hmem
    rcases hmem with rfl | rfl | rfl | rfl | rfl | rfl <;> decide

theorem isPlain_identifier (identifier : ComponentIdentifier) : isPlain identifier.text = true := by
  have hpattern := (Bool.and_eq_true_iff.mp identifier.pattern).2
  refine isPlain_of_forall fun c hc => ?_
  have hrest : ∀ d, isIdentifierRest d = true → d.isAlphanum = true ∨ d ∈ ['.', '_', ':', '/', '+', '-'] := by
    intro d hd
    exact (Bool.or_eq_true_iff.mp hd).imp id List.contains_iff_mem.mp
  cases hchars : identifier.text.toList with
  | nil =>
    rw [hchars] at hc
    cases hc
  | cons first rest =>
    rw [hchars] at hc hpattern
    obtain ⟨hfirst, hall⟩ := Bool.and_eq_true_iff.mp hpattern
    rcases List.mem_cons.mp hc with rfl | hc
    · refine (Bool.or_eq_true_iff.mp hfirst).imp id fun hunderscore => ?_
      rw [decide_eq_true_eq] at hunderscore
      exact .tail _ (hunderscore ▸ .head _)
    · exact hrest c (List.all_eq_true.mp hall c hc)

theorem isPlain_isoText (t : Datetime) : isPlain t.isoText = true := by
  refine isPlain_of_forall fun c hc => ?_
  unfold Datetime.isoText at hc
  rw [String.toList_ofList] at hc
  rcases Datetime.mem_isoChars hc with hdigit | hseparator
  · exact .inl (Bool.or_eq_true_iff.mpr (.inr hdigit))
  · simp only [List.mem_cons, List.not_mem_nil, or_false] at hseparator
    rcases hseparator with rfl | rfl | rfl | rfl | rfl <;> decide

section limits

variable [FloatText]

/-- A member that is inserted adds its own size at most, since it may stand for another one. -/
theorem insertMember_le (key : String) (value : Json) (members : List (String × Json)) :
    (insertMember key value members).length ≤ members.length + 1
    ∧ encodedLength.lengthOfItems (insertMember key value members)
      ≤ quotedLength key + 1 + value.encodedLength + encodedLength.lengthOfItems members
    ∧ Json.items.itemsOfItems (insertMember key value members) ≤ value.items + Json.items.itemsOfItems members
    ∧ Json.depth.depthOfItems (insertMember key value members) ≤ max (value.depth + 1) (Json.depth.depthOfItems members)
    ∧ stringBytes.stringBytesOfItems (insertMember key value members)
      ≤ key.utf8ByteSize + value.stringBytes + stringBytes.stringBytesOfItems members := by
  induction members with
  | nil => exact ⟨le_refl _, le_refl _, le_refl _, le_refl _, le_refl _⟩
  | cons m members ih =>
    obtain ⟨k, v⟩ := m
    obtain ⟨hlength, hbytes, hitems, hdepth, hstrings⟩ := ih
    rw [insertMember]
    simp only [List.length_cons, encodedLength.lengthOfItems, Json.items.itemsOfItems, Json.depth.depthOfItems,
      stringBytes.stringBytesOfItems]
    split_ifs with heq hlt
    all_goals
      simp only [List.length_cons, encodedLength.lengthOfItems, Json.items.itemsOfItems, Json.depth.depthOfItems,
        stringBytes.stringBytesOfItems]
      omega

/-- Members that are inserted one after the other add their sizes at most. -/
theorem foldl_insertMember_le (members sorted : List (String × Json)) :
    let all := members.foldl (fun sorted m => insertMember m.1 m.2 sorted) sorted
    all.length ≤ sorted.length + members.length
    ∧ encodedLength.lengthOfItems all ≤ encodedLength.lengthOfItems sorted + encodedLength.lengthOfItems members
    ∧ Json.items.itemsOfItems all ≤ Json.items.itemsOfItems sorted + Json.items.itemsOfItems members
    ∧ Json.depth.depthOfItems all ≤ max (Json.depth.depthOfItems sorted) (Json.depth.depthOfItems members)
    ∧ stringBytes.stringBytesOfItems all
      ≤ stringBytes.stringBytesOfItems sorted + stringBytes.stringBytesOfItems members := by
  induction members generalizing sorted with
  | nil => exact ⟨le_refl _, le_refl _, le_refl _, le_max_left _ _, le_refl _⟩
  | cons m members ih =>
    obtain ⟨key, value⟩ := m
    obtain ⟨hlength, hbytes, hitems, hdepth, hstrings⟩ := ih (insertMember key value sorted)
    obtain ⟨hlength', hbytes', hitems', hdepth', hstrings'⟩ := insertMember_le key value sorted
    simp only [List.foldl_cons, List.length_cons, encodedLength.lengthOfItems, Json.items.itemsOfItems,
      Json.depth.depthOfItems, stringBytes.stringBytesOfItems]
    omega

/-- An object of members within bounds is within bounds when they are sorted. -/
theorem within_sortMembers {n b i d t : ℕ} {members : List (String × Json)} (hlength : members.length ≤ n)
    (h : WithinItems b i d t members) : Within (2 + n + b) (1 + i) d t (.object (sortMembers members)) := by
  obtain ⟨hcount, hbytes, hitems, hdepth, hstrings⟩ := foldl_insertMember_le members []
  obtain ⟨hb, hi, hd, ht⟩ := h
  have hempty : encodedLength.lengthOfItems [] = 0 ∧ Json.items.itemsOfItems [] = 0 ∧ Json.depth.depthOfItems [] = 0
      ∧ stringBytes.stringBytesOfItems [] = 0 := ⟨rfl, rfl, rfl, rfl⟩
  have hsorted : WithinItems b i d t (sortMembers members) := by
    unfold sortMembers
    exact ⟨by omega, by omega, by omega, by omega⟩
  refine within_object ?_ hsorted
  unfold sortMembers
  rw [List.length_nil] at hcount
  omega

/-! ### Fields -/

theorem within_nullable {α : Type} (codec : Codec α) {b i d t : ℕ} (hb : 4 ≤ b) (hi : 1 ≤ i)
    (h : ∀ a, Within b i d t (codec.dump a)) (o : Option α) : Within b i d t (codec.dumpNullable o) := by
  cases o with
  | none => exact within_null.mono hb hi (Nat.zero_le d) (Nat.zero_le t)
  | some a => exact h a

/-- An integer of up to nineteen digits. -/
theorem within_int {n : ℤ} (h : n.natAbs < 10^19) : Within 20 1 0 0 (.int n) := by
  have hdigits : (Nat.toDigits 10 n.natAbs).length ≤ 19 := (Nat.length_toDigits_le_iff (by decide) (by decide)).mpr h
  have hsign : (if n < 0 then ['-'] else []).length ≤ 1 := by
    split
    · exact le_refl 1
    · exact Nat.zero_le 1
  refine ⟨?_, le_refl 1, le_refl 0, le_refl 0⟩
  show (toString n).length ≤ 20
  rw [← String.length_toList, toList_toString_int, List.length_append]
  omega

theorem within_range {low high : ℤ} {o : Option ℤ} (h : withinRange low high o = true) (hlow : -10^19 < low)
    (hhigh : high < 10^19) : Within 20 1 0 0 (Codec.int.dumpNullable o) := by
  cases o with
  | none => exact within_null.mono (by decide) (le_refl 1) (le_refl 0) (le_refl 0)
  | some n =>
    obtain ⟨hge, hle⟩ := Bool.and_eq_true_iff.mp h
    rw [decide_eq_true_eq] at hge hle
    exact within_int (by omega)

theorem within_identifier (identifier : ComponentIdentifier) :
    Within 258 1 0 256 (ComponentIdentifier.codec.dump identifier) := by
  have hlength := (Bool.and_eq_true_iff.mp identifier.pattern).1
  rw [decide_eq_true_eq] at hlength
  exact within_str identifier.text 256 (isPlain_identifier identifier) hlength

theorem within_datetime [DatetimeReading] (t : Datetime) : Within 29 1 0 27 (datetimeCodec.dump t) := by
  have hlength : t.isoText.length ≤ 27 := by
    unfold Datetime.isoText
    rw [String.length_ofList]
    exact Datetime.length_isoChars t.toDatetimeFields
  exact within_str t.isoText 27 (isPlain_isoText t) hlength

theorem within_nullableDigest (o : Option Sha256Digest) : Within 66 1 0 64 (Sha256Digest.codec.dumpNullable o) :=
  within_nullable Sha256Digest.codec (by decide) (by decide) within_digest o

/-- A member with a key and a text of up to 32 characters. -/
theorem within_value (s : String) (h : isPlain s = true ∧ s.length ≤ 32) : Within 34 1 0 32 (.str s) :=
  within_str s 32 h.1 h.2

/-- The fields that a kind adds take less than a thousand bytes. -/
theorem CaptureIntakeDetail.within_members {detail : CaptureIntakeDetail} (h : detail.check = .ok ()) :
    WithinItems 1000 6 1 1000 detail.members := by
  cases detail with
  | sessionStarted => exact withinItems_nil.mono (by decide) (by decide) (by decide) (by decide)
  | actionStarted callRef actionDigest workspaceDigest environmentDigest toolClass identityAuthority =>
    have htool : isPlain toolClass.value = true ∧ toolClass.value.length ≤ 32 := by cases toolClass <;> decide
    have hauthority : isPlain identityAuthority.value = true ∧ identityAuthority.value.length ≤ 32 := by
      cases identityAuthority <;> decide
    have hmembers := WithinItems.cons "call_ref" (by decide) (within_digest callRef) <|
      .cons "action_digest" (by decide) (within_digest actionDigest) <|
      .cons "workspace_digest" (by decide) (within_digest workspaceDigest) <|
      .cons "environment_digest" (by decide) (within_digest environmentDigest) <|
      .cons "tool_class" (by decide) (within_value _ htool) <|
      .cons "identity_authority" (by decide) (within_value _ hauthority) withinItems_nil
    exact hmembers.mono (by decide) (by decide) (by decide) (by decide)
  | actionFinished callRef outcomeStatus outcomeAuthority exitStatus errorCode failureSignature =>
    obtain ⟨hrange, -⟩ := raiseIf_bind_eq_ok.mp h
    have hexit := within_range (Classical.not_not.mp hrange) (by decide) (by decide)
    have hauthority : isPlain outcomeAuthority.value = true ∧ outcomeAuthority.value.length ≤ 32 := by
      cases outcomeAuthority <;> decide
    have hstatus := within_nullable CaptureOutcomeStatus.codec (by decide) (by decide)
      (fun status => within_value status.value (by cases status <;> decide)) outcomeStatus
    have herror := within_nullable CaptureActionError.codec (by decide) (by decide)
      (fun error => within_value error.value (by cases error <;> decide)) errorCode
    have hmembers := WithinItems.cons "call_ref" (by decide) (within_digest callRef) <|
      .cons "outcome_status" (by decide) hstatus <|
      .cons "outcome_authority" (by decide) (within_value _ hauthority) <|
      .cons "exit_status" (by decide) hexit <|
      .cons "error_code" (by decide) herror <|
      .cons "failure_signature" (by decide) (within_nullableDigest failureSignature) withinItems_nil
    exact hmembers.mono (by decide) (by decide) (by decide) (by decide)
  | permissionDenied callRef =>
    have hmembers := WithinItems.cons "call_ref" (by decide) (within_digest callRef) withinItems_nil
    exact hmembers.mono (by decide) (by decide) (by decide) (by decide)
  | subagentStarted subagentId =>
    have hmembers := WithinItems.cons "subagent_id" (by decide) (within_digest subagentId) withinItems_nil
    exact hmembers.mono (by decide) (by decide) (by decide) (by decide)
  | subagentFinished subagentId =>
    have hmembers := WithinItems.cons "subagent_id" (by decide) (within_digest subagentId) withinItems_nil
    exact hmembers.mono (by decide) (by decide) (by decide) (by decide)
  | turnFinished turnId =>
    have hmembers := WithinItems.cons "turn_id" (by decide) (within_digest turnId) withinItems_nil
    exact hmembers.mono (by decide) (by decide) (by decide) (by decide)
  | controllerFailed errorCode failureSignature =>
    have herror : isPlain errorCode.value = true ∧ errorCode.value.length ≤ 32 := by cases errorCode <;> decide
    have hmembers := WithinItems.cons "error_code" (by decide) (within_value _ herror) <|
      .cons "failure_signature" (by decide) (within_nullableDigest failureSignature) withinItems_nil
    exact hmembers.mono (by decide) (by decide) (by decide) (by decide)
  | sessionFinished => exact withinItems_nil.mono (by decide) (by decide) (by decide) (by decide)

omit [FloatText] in
theorem CaptureIntakeDetail.length_members_le (detail : CaptureIntakeDetail) : detail.members.length ≤ 6 := by
  cases detail <;> exact Nat.le_of_ble_eq_true rfl

variable [DatetimeReading] [CaptureCapabilities]

/-- An intake takes less than three thousand bytes. -/
theorem CaptureIntakeFields.within_modelDump {fields : CaptureIntakeFields} (h : fields.check = .ok ()) :
    Within 3000 20 1 3000 fields.modelDump := by
  obtain ⟨hsequence, -, hdetail⟩ := check_eq_ok.mp h
  obtain ⟨base, detail⟩ := fields
  have hschema : isPlain "capture-intake/v1" = true ∧ "capture-intake/v1".length ≤ 32 := by decide
  have hprofile := within_profile base.adapterProfile
  have htime : isPlain base.timestampAuthority.value = true ∧ base.timestampAuthority.value.length ≤ 32 := by
    cases base.timestampAuthority <;> decide
  have horder : isPlain base.sequenceAuthority.value = true ∧ base.sequenceAuthority.value.length ≤ 32 := by
    cases base.sequenceAuthority <;> decide
  have hdisposition : isPlain base.captureDisposition.value = true ∧ base.captureDisposition.value.length ≤ 32 := by
    cases base.captureDisposition <;> decide
  have hkind : isPlain detail.kind.value = true ∧ detail.kind.value.length ≤ 32 := by
    cases detail.kind <;> decide
  have hinstant := within_nullable datetimeCodec (by decide) (by decide) within_datetime base.occurredAt
  have hmembers := WithinItems.cons "schema_version" (by decide) (within_value _ hschema) <|
    .cons "adapter_profile" (by decide) hprofile <|
    .cons "capability_manifest_digest" (by decide) (within_digest base.capabilityManifestDigest) <|
    .cons "connection_id" (by decide) (within_identifier base.connectionId) <|
    .cons "session_id" (by decide) (within_digest base.sessionId) <|
    .cons "producer_event_digest" (by decide) (within_digest base.producerEventDigest) <|
    .cons "intake_tag" (by decide) (within_digest base.intakeTag) <|
    .cons "occurred_at" (by decide) hinstant <|
    .cons "timestamp_authority" (by decide) (within_value _ htime) <|
    .cons "producer_sequence" (by decide) (within_range hsequence (by decide) (by decide)) <|
    .cons "sequence_authority" (by decide) (within_value _ horder) <|
    .cons "capture_disposition" (by decide) (within_value _ hdisposition) <|
    .cons "kind" (by decide) (within_value _ hkind) (CaptureIntakeDetail.within_members hdetail)
  have hlength : (base.members ++ ("kind", CaptureIntakeKind.codec.dump detail.kind) :: detail.members).length
      ≤ 19 := by
    have hadded := detail.length_members_le
    have hbase : base.members.length = 12 := rfl
    rw [List.length_append, List.length_cons]
    omega
  exact (within_sortMembers hlength hmembers).mono (by decide) (by decide) (by decide) (by decide)

/-- An event takes less than four thousand bytes. -/
theorem CaptureEventFields.within_modelDump {fields : CaptureEventFields} (h : fields.check = .ok ()) :
    Within 4000 25 2 4000 fields.modelDump := by
  obtain ⟨hordinal, hintake, -⟩ := check_eq_ok.mp h
  have hschema : isPlain "capture-event/v1" = true ∧ "capture-event/v1".length ≤ 32 := by decide
  have hint : Within 20 1 0 0 (Codec.int.dump fields.receiptOrdinal) :=
    within_range hordinal (by decide) (by decide)
  have hmembers := WithinItems.cons "schema_version" (by decide) (within_value _ hschema) <|
    .cons "receipt_ordinal" (by decide) hint <|
    .cons "previous_event_tag" (by decide) (within_nullableDigest fields.previousEventTag) <|
    .cons "event_tag" (by decide) (within_digest fields.eventTag) <|
    .cons "intake" (by decide) (CaptureIntakeFields.within_modelDump hintake) withinItems_nil
  exact (within_sortMembers (Nat.le_refl 5) hmembers).mono (by decide) (by decide) (by decide) (by decide)

end limits

/-! ## Round trips -/

/-- A codec of documents: every value has one document, which is loaded as the value, and nothing else is loaded. -/
structure RoundTrips {α : Type} (canonical : α → Except CaptureSchemaError ByteArray)
    (load : ByteArray → Except CaptureSchemaError α) : Prop where
  encodes : ∀ value, ∃ bytes, canonical value = .ok bytes
  loads : ∀ value bytes, canonical value = .ok bytes → load bytes = .ok value
  injective : ∀ value value' bytes, canonical value = .ok bytes → canonical value' = .ok bytes → value = value'
  accepts : ∀ bytes, (∃ value, load bytes = .ok value) ↔ ∃ value, canonical value = .ok bytes
  unique : ∀ bytes bytes' value, load bytes = .ok value → load bytes' = .ok value → bytes = bytes'

/-- A loader that undoes a writer, and loads only what the writer writes for what it loads, is a codec. -/
theorem RoundTrips.of_inverse {α : Type} {canonical : α → Except CaptureSchemaError ByteArray}
    {load : ByteArray → Except CaptureSchemaError α} (hencodes : ∀ value, ∃ bytes, canonical value = .ok bytes)
    (hloads : ∀ value bytes, canonical value = .ok bytes → load bytes = .ok value)
    (hcanonical : ∀ bytes value, load bytes = .ok value → canonical value = .ok bytes) :
    RoundTrips canonical load where
  encodes := hencodes
  loads := hloads
  injective value value' bytes h h' := by
    have hsame := hloads value bytes h
    rw [hloads value' bytes h'] at hsame
    exact (Except.ok.inj hsame).symm
  accepts bytes :=
    ⟨fun ⟨value, h⟩ => ⟨value, hcanonical bytes value h⟩, fun ⟨value, h⟩ => ⟨value, hloads value bytes h⟩⟩
  unique bytes bytes' value h h' := by
    have hsame := hcanonical bytes value h
    rw [hcanonical bytes' value h'] at hsame
    exact (Except.ok.inj hsame).symm

section roundTrips

variable [CaptureCapabilities] [DatetimeReading] [FloatRepr] [FloatReading]

omit [CaptureCapabilities] [DatetimeReading] in
/-- The canonical bytes of a record within the limits are read. -/
theorem readBoundedBytes_storable {members : List (String × Json)} (h : Storable (.object members))
    (hwithin : Within 4000 25 2 4000 (.object members)) :
    ∃ read, readBoundedBytes (canonicalBytes (.object members)) captureEventLimits = .ok read :=
  ⟨_, readBoundedBytes_canonicalBytes h.1 h.2 (by decide)
    (hwithin.mono (by decide) (by decide) (by decide) (by decide))⟩

theorem canonicalCaptureIntake_eq_ok {intake : CaptureIntakeRecord} {bytes : ByteArray} :
    canonicalCaptureIntake intake = .ok bytes ↔ bytes = canonicalBytes intake.modelDump
      ∧ ∃ read, readBoundedBytes bytes captureEventLimits = .ok read := by
  constructor
  · intro h
    obtain ⟨validated, hvalidated, h⟩ := bind_eq_ok.mp h
    obtain ⟨read, hread, hbytes⟩ := bind_eq_ok.mp h
    obtain ⟨_, hsame⟩ := validate_eq_ok.mp hvalidated
    rw [← hsame] at hread hbytes
    rw [← Except.ok.inj hbytes]
    exact ⟨rfl, read, hread⟩
  · rintro ⟨rfl, read, hread⟩
    exact bind_eq_ok.mpr ⟨intake, validate_self intake.valid, bind_eq_ok.mpr ⟨read, hread, rfl⟩⟩

/-- The validator reads the canonical bytes of an intake as the intake. -/
theorem validateIntakeJson_canonicalBytes (intake : CaptureIntakeRecord) :
    validateIntakeJson (canonicalBytes intake.modelDump) = .ok intake := by
  obtain ⟨hcanonical, hplain⟩ := CaptureIntakeFields.storable_modelDump intake.valid
  unfold validateIntakeJson
  rw [decodeJson_canonicalBytes hcanonical hplain]
  refine expect_bind_eq_ok.mpr ⟨_, rfl, expect_bind_eq_ok.mpr ⟨_, CaptureIntakeFields.load_modelDump _, ?_⟩⟩
  exact validate_self intake.valid

theorem loadCaptureIntake_eq_ok {intake : CaptureIntakeRecord} {bytes : ByteArray} :
    loadCaptureIntake bytes = .ok intake ↔ canonicalCaptureIntake intake = .ok bytes := by
  unfold loadCaptureIntake
  constructor
  · intro h
    obtain ⟨-, -, h⟩ := bind_eq_ok.mp h
    obtain ⟨loaded, -, h⟩ := bind_eq_ok.mp h
    obtain ⟨encoded, hencoded, h⟩ := bind_eq_ok.mp h
    obtain ⟨hsame, hloaded⟩ := raiseIf_bind_eq_ok.mp h
    cases hloaded
    rw [hencoded, Classical.not_not.mp hsame]
  · intro h
    obtain ⟨hbytes, read, hread⟩ := canonicalCaptureIntake_eq_ok.mp h
    have hvalidated : validateIntakeJson bytes = .ok intake := hbytes ▸ validateIntakeJson_canonicalBytes intake
    refine bind_eq_ok.mpr ⟨read, hread, bind_eq_ok.mpr ⟨intake, hvalidated, bind_eq_ok.mpr ⟨bytes, h, ?_⟩⟩⟩
    exact raiseIf_bind_eq_ok.mpr ⟨fun hne => hne rfl, rfl⟩

theorem canonicalCaptureEvent_eq_ok {event : CaptureEventRecord} {bytes : ByteArray} :
    canonicalCaptureEvent event = .ok bytes ↔ bytes = canonicalBytes event.modelDump
      ∧ ∃ read, readBoundedBytes bytes captureEventLimits = .ok read := by
  constructor
  · intro h
    obtain ⟨validated, hvalidated, h⟩ := bind_eq_ok.mp h
    obtain ⟨read, hread, hbytes⟩ := bind_eq_ok.mp h
    obtain ⟨_, hsame⟩ := validate_eq_ok.mp hvalidated
    rw [← hsame] at hread hbytes
    rw [← Except.ok.inj hbytes]
    exact ⟨rfl, read, hread⟩
  · rintro ⟨rfl, read, hread⟩
    exact bind_eq_ok.mpr ⟨event, validate_self event.valid, bind_eq_ok.mpr ⟨read, hread, rfl⟩⟩

/-- The validator reads the canonical bytes of an event as the event. -/
theorem validateEventJson_canonicalBytes (event : CaptureEventRecord) :
    validateEventJson (canonicalBytes event.modelDump) = .ok event := by
  obtain ⟨hcanonical, hplain⟩ := CaptureEventFields.storable_modelDump event.valid
  unfold validateEventJson
  rw [decodeJson_canonicalBytes hcanonical hplain]
  refine expect_bind_eq_ok.mpr ⟨_, rfl, expect_bind_eq_ok.mpr ⟨_, CaptureEventFields.load_modelDump _, ?_⟩⟩
  exact validate_self event.valid

/-- The loader compares the bytes with the canonical ones itself, after it has read them. -/
theorem loadCaptureEvent_eq_ok {event : CaptureEventRecord} {bytes : ByteArray} :
    loadCaptureEvent bytes = .ok event ↔ canonicalCaptureEvent event = .ok bytes := by
  unfold loadCaptureEvent
  rw [canonicalCaptureEvent_eq_ok]
  constructor
  · intro h
    obtain ⟨read, hread, h⟩ := bind_eq_ok.mp h
    obtain ⟨loaded, -, h⟩ := bind_eq_ok.mp h
    obtain ⟨hsame, hloaded⟩ := raiseIf_bind_eq_ok.mp h
    cases hloaded
    exact ⟨(Classical.not_not.mp hsame).symm, read, hread⟩
  · rintro ⟨hbytes, read, hread⟩
    have hvalidated : validateEventJson bytes = .ok event := hbytes ▸ validateEventJson_canonicalBytes event
    refine bind_eq_ok.mpr ⟨read, hread, bind_eq_ok.mpr ⟨event, hvalidated, raiseIf_bind_eq_ok.mpr ⟨?_, rfl⟩⟩⟩
    exact fun hne => hne hbytes.symm

/-- Stored documents round-trip: an intake and an event have one document each, within the limits, which is loaded as
it, and every document that is loaded is the canonical one of what is loaded. -/
theorem captureDocuments_roundTrip :
    RoundTrips canonicalCaptureIntake loadCaptureIntake ∧ RoundTrips canonicalCaptureEvent loadCaptureEvent := by
  constructor
  · refine .of_inverse (fun intake => ?_) (fun _ _ => loadCaptureIntake_eq_ok.mpr) fun _ _ => loadCaptureIntake_eq_ok.mp
    have hwithin : Within 4000 25 2 4000 intake.modelDump :=
      (CaptureIntakeFields.within_modelDump intake.valid).mono (by decide) (by decide) (by decide) (by decide)
    exact ⟨_, canonicalCaptureIntake_eq_ok.mpr ⟨rfl,
      readBoundedBytes_storable (CaptureIntakeFields.storable_modelDump intake.valid) hwithin⟩⟩
  · refine .of_inverse (fun event => ?_) (fun _ _ => loadCaptureEvent_eq_ok.mpr) fun _ _ => loadCaptureEvent_eq_ok.mp
    exact ⟨_, canonicalCaptureEvent_eq_ok.mpr ⟨rfl,
      readBoundedBytes_storable (CaptureEventFields.storable_modelDump event.valid)
        (CaptureEventFields.within_modelDump event.valid)⟩⟩

end roundTrips

section session

/-- A digest of one digit. -/
def repeatedDigest : Sha256Digest := ⟨"aaaaaaaaaaaaaaaaaaaaaaaaaaaaaaaaaaaaaaaaaaaaaaaaaaaaaaaaaaaaaaaa", by decide +kernel⟩

local instance repeatedCapabilities : CaptureCapabilities := ⟨fun _ => some repeatedDigest⟩

local instance isoReading : DatetimeReading := ⟨Datetime.ofIsoText, Datetime.ofIsoText_isoText⟩

local instance zeroRepr : FloatRepr := ⟨fun _ => "0.0"⟩

local instance zeroReading : FloatReading := ⟨fun _ => Float64.zero⟩

/-- The start of a session at half past ten on 19 July 2026. -/
def startedSession : CaptureIntakeRecord where
  adapterProfile := .codexHooks
  capabilityManifestDigest := repeatedDigest
  connectionId := ⟨"connection-1", by decide +kernel⟩
  sessionId := repeatedDigest
  producerEventDigest := repeatedDigest
  intakeTag := repeatedDigest
  occurredAt := some ⟨⟨2026, 7, 19, 10, 30, 0, 0⟩, by decide⟩
  timestampAuthority := .localObservation
  producerSequence := none
  sequenceAuthority := .unavailable
  captureDisposition := .captured
  detail := .sessionStarted
  valid := by decide +kernel

/-- The start of the session is stored and loaded. -/
theorem captureDocuments_roundTrip_startedSession :
    ∃ bytes, canonicalCaptureIntake startedSession = .ok bytes ∧ loadCaptureIntake bytes = .ok startedSession := by
  obtain ⟨hintakes, -⟩ := captureDocuments_roundTrip
  obtain ⟨bytes, hbytes⟩ := hintakes.encodes startedSession
  exact ⟨bytes, hbytes, hintakes.loads startedSession bytes hbytes⟩

end session

end SalienceGate
