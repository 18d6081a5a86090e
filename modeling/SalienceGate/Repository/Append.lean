import SalienceGate.Repository.Slot

/-!
# Events and direct records

Appending an event, with the duplicate and collision paths of a source identity that is in use, and
storing a signal, a decision or an outcome. Each method checks and builds everything first and
assigns last.
-/

namespace SalienceGate

open Checked

/-! ## Drafts -/

/-- `str.casefold`, of an identifier, which is ASCII. -/
def casefold (text : ComponentIdentifier) : List Char := text.text.toList.map Char.toLower

/-- `"saliencegate:collision:"`. -/
def collisionPrefix : List Char := "saliencegate:collision:".toList

/-- `source_event_id.startswith("saliencegate:collision:")`. -/
def isCollisionSource (source : EventMetadataIdentifier) : Bool :=
  collisionPrefix.isPrefixOf source.text.toList

/-- The metadata that a draft brings along. -/
def NormalizedTraceEventDraft.metadata (draft : NormalizedTraceEventDraft) : JsonObject where
  items := [("source_adapter", .str draft.sourceAdapter.text),
    ("source_event_id", .str draft.sourceEventId.text)]
  canonical := by simp

/-- The metadata fields that only the repository may use as the draft does. -/
def reservedMetadata (draft : NormalizedTraceEventDraft) : List String :=
  [("source_event_id", "saliencegate:".toList.isPrefixOf (casefold draft.sourceEventId)),
    ("source_adapter", decide (casefold draft.sourceAdapter = "saliencegate.repository".toList)),
    ("trust_label", decide (draft.trustLabel = .trustedRuntime))].filterMap fun field =>
      if field.2 then some field.1 else none

/-- The metadata fields that a redaction changes. -/
def changedMetadata (draft : NormalizedTraceEventDraft) (redacted : JsonObject) : List String :=
  [("source_event_id", draft.sourceEventId.text), ("source_adapter", draft.sourceAdapter.text)]
    |>.filterMap fun field =>
      if Json.member redacted.items field.1 ≠ some (.str field.2) then some field.1 else none

/-- `_validate_draft`. -/
def validateDraft :
    Argument NormalizedTraceEventDraft → Except RepositoryError NormalizedTraceEventDraft
  | .exact draft => pure draft
  | .malformed => throw .invalidDraft
  | .foreign => throw .invalidAppendType

/-- `NormalizedTraceEventDraft(...)`. -/
def NormalizedTraceEventDraft.create (fields : TraceEventDraftFields) :
    Except ValidationError NormalizedTraceEventDraft :=
  Checked.validate TraceEventDraftFields.check NormalizedTraceEventDraft.mk
    { fields with parentIds := canonicalizeParentSet fields.parentIds }

section

variable [Redactor]

/-- `_validate_metadata`. -/
def validateMetadata (draft : NormalizedTraceEventDraft) : Except RepositoryError Unit := do
  let redacted ← (redactPayload draft.metadata).mapError .validation
  let changed := changedMetadata draft redacted ++ reservedMetadata draft
  raiseIf (changed ≠ []) (.unsafeEventMetadata changed.eraseDups)

/-- The check of a redacted draft. -/
def verifiedDraft [PayloadMac] (event : RedactedTraceEventDraft) :
    Except RepositoryError RedactedTraceEventDraft := do
  let verified ← (verifyRedactedEvent event).mapError .validation
  raiseIf (verified = false) (.digestVerification "redacted event")
  pure event

/-- `_redact_draft`. -/
def redactDraft [PayloadMac] (draft : NormalizedTraceEventDraft) :
    Except RepositoryError RedactedTraceEventDraft :=
  match redactEvent draft with
  | .error _ => throw .invalidDraft
  | .ok event => verifiedDraft event

end

/-! ## Collisions -/

/-- The fields in which two identities differ: `_differing_fields`. -/
def differingFields (existing incoming : EventIdentity) : List String :=
  [("timestamp", decide (existing.timestamp ≠ incoming.timestamp)),
    ("event_type", decide (existing.eventType ≠ incoming.eventType)),
    ("phase", decide (existing.phase ≠ incoming.phase)),
    ("payload", decide (existing.payload ≠ incoming.payload)),
    ("payload_digest", decide (existing.payloadDigest ≠ incoming.payloadDigest)),
    ("parent_ids", decide (existing.parentIds ≠ incoming.parentIds)),
    ("source_adapter", decide (existing.sourceAdapter ≠ incoming.sourceAdapter)),
    ("trust_label", decide (existing.trustLabel ≠ incoming.trustLabel))].filterMap fun field =>
      if field.2 then some field.1 else none

theorem isAlphanum_of_isLowerHex {c : Char} (h : isLowerHex c = true) : c.isAlphanum = true := by
  simp only [isLowerHex, Bool.or_eq_true, Bool.and_eq_true, decide_eq_true_eq] at h
  rcases h with h | ⟨hlow, hhigh⟩
  · simp [Char.isAlphanum, h]
  · have hz : c ≤ 'z' := Char.le_trans hhigh (by decide)
    have hlower : c.isLower = true := by
      show (decide ('a' ≤ c) && decide (c ≤ 'z')) = true
      rw [decide_eq_true hlow, decide_eq_true hz]
      rfl
    show ((c.isUpper || c.isLower) || c.isDigit) = true
    rw [hlower, Bool.or_true, Bool.true_or]

/-- `f"saliencegate:collision:{fingerprint}"`. -/
def collisionSourceId (fingerprint : Sha256Digest) : EventMetadataIdentifier where
  text := "saliencegate:collision:" ++ fingerprint.text
  pattern := by
    have hlength : ("saliencegate:collision:" ++ fingerprint.text).length ≤ 256 := by
      rw [String.length_append, fingerprint.pattern.1]
      decide
    have hrest : fingerprint.text.toList.all isIdentifierRest = true := by
      rw [List.all_eq_true]
      intro c hc
      have := isAlphanum_of_isLowerHex (List.all_eq_true.mp fingerprint.pattern.2 c hc)
      simp [isIdentifierRest, this]
    have hprefix : "saliencegate:collision:".toList
        = 's' :: "aliencegate:collision:".toList := by decide
    rw [isComponentIdentifier, String.toList_append, hprefix, List.cons_append]
    simp only [hlength, decide_true, Bool.true_and, List.all_append, hrest, Bool.and_true]
    decide

/-- The payload of the audit event of a collision. -/
def auditPayload (existingEventId : UUID4) (fingerprint : PayloadDigest)
    (differing : List String) : JsonObject where
  items := [
    ("collision_fingerprint", .object [("algorithm", .str fingerprint.algorithm.value),
      ("value", .str fingerprint.value.text)]),
    ("differing_fields", .list (differing.map .str)),
    ("existing_event_id", .str existingEventId.toString),
    ("reason_code", .str ReasonCode.sourceEventCollision.value)]
  canonical := by
    have hlist : Json.canonical.canonicalList (differing.map .str) = true :=
      Codec.str.canonicalList_dump differing
    simp [Json.canonical, hlist]

/-- `audit_draft`. -/
def auditDraft (existing : TraceEvent) (incoming : RedactedTraceEventDraft)
    (fingerprint : PayloadDigest) (differing : List String) : TraceEventDraftFields where
  runId := existing.runId
  sourceEventId := collisionSourceId fingerprint.value
  timestamp := incoming.timestamp
  eventType := .controllerError
  phase := .internal
  payload := auditPayload existing.eventId fingerprint differing
  parentIds := [existing.eventId]
  sourceAdapter := ⟨"saliencegate.repository", by decide⟩
  trustLabel := .trustedRuntime

/-! ## Events -/

/-- `_trace_event`, with the identity that the caller asks for or the factory makes. -/
def traceEvent (redacted : RedactedTraceEventDraft) (sequence : ℕ) (eventId newId : Option UUID4) :
    Except RepositoryError TraceEvent := do
  let eventId ← expect (eventId <|> newId)
    (.projectionInvariant "repository ID factory must return UUID4 values")
  (TraceEvent.create {
    toTraceEventDraftFields := redacted.toTraceEventDraftFields
    eventId
    sequence
    payloadDigest := redacted.payloadDigest }).mapError
      fun _ => .projectionInvariant "repository-created trace event is invalid"

variable [Hashing]

/-- `event_positions[event.event_id]`, with the error of a missing key. -/
def eventPosition (projection : Projection) (event : TraceEvent) : Except RepositoryError ℕ :=
  expect (projection.eventPositions.get? event.eventId)
    (.projectionInvariant "event position is missing")

/-- `_duplicate_event_receipt`. -/
def duplicateEventReceipt (slot : Slot) (existing : TraceEvent) :
    Except RepositoryError AppendReceipt := do
  let ledgerPosition ← eventPosition slot.projection existing
  (AppendReceipt.create {
    disposition := .duplicate
    event := existing
    ledgerPosition
    ingestionCursor := slot.projection.ingestionCursor }).mapError .validation

variable [Integrity]

/-- `_append_new_event_to_slot`. -/
def appendNewEventToSlot (draft : NormalizedTraceEventDraft) (redacted : RedactedTraceEventDraft)
    (eventId newId : Option UUID4) (publish : Bool) : RunM AppendReceipt := do
  let run ← get
  raiseIf (∃ parentId ∈ draft.parentIds, parentId ∉ run.slot.projection.eventsById)
    (RepositoryError.crossRunReference "event parent")
  let event ← traceEvent redacted (run.slot.projection.ingestionCursor + 1) eventId newId
  let staged ← stageEntry run.slot (.traceEvent event)
  let receipt ← (AppendReceipt.create {
    disposition := .appended
    event
    ledgerPosition := staged.entry.position
    ingestionCursor := staged.projected.ingestionCursor }).mapError RepositoryError.validation
  modify fun run => (run.append staged).trustIf publish
  pure receipt

/-- The assignment to the cache of the collision receipts. -/
def RunState.withCollision (run : RunState) (fingerprint : Sha256Digest) (receipt : AppendReceipt) :
    RunState :=
  { run with slot := { run.slot with
      collisionReceipts := run.slot.collisionReceipts.set fingerprint receipt } }

/-- `_record_collision`, for a collision that is not cached. -/
def recordNewCollision [Redactor] (existing : TraceEvent) (incoming : RedactedTraceEventDraft)
    (fingerprint : PayloadDigest) (newId : Option UUID4) : RunM AppendReceipt := do
  let run ← get
  let differing := differingFields existing.eventIdentity incoming.eventIdentity
  let audit ← (NormalizedTraceEventDraft.create
    (auditDraft existing incoming fingerprint differing)).mapError RepositoryError.validation
  let redactedAudit ← redactDraft audit
  let collisionEvent ← traceEvent redactedAudit (run.slot.projection.ingestionCursor + 1) none newId
  let staged ← stageEntry run.slot (.traceEvent collisionEvent)
  let ledgerPosition ← eventPosition run.slot.projection existing
  let receipt ← (AppendReceipt.create {
    disposition := .collision
    event := existing
    ledgerPosition
    ingestionCursor := staged.projected.ingestionCursor
    collisionEvent := some collisionEvent }).mapError RepositoryError.validation
  modify fun run => (run.append staged).trust.withCollision fingerprint.value receipt
  pure receipt

/-- The fingerprint of a collision. -/
def collisionFingerprint (existing : TraceEvent) (incoming : RedactedTraceEventDraft) :
    PayloadDigest :=
  tag (.sourceCollision existing.eventId incoming.eventIdentity)

/-- `_record_collision`. -/
def recordCollision [Redactor] (existing : TraceEvent) (incoming : RedactedTraceEventDraft)
    (newId : Option UUID4) : RunM AppendReceipt := do
  let run ← get
  let fingerprint := collisionFingerprint existing incoming
  match run.slot.collisionReceipts.get? fingerprint.value with
  | some cached => pure cached
  | none => recordNewCollision existing incoming fingerprint newId

/-- An append under a source identity that is in use. -/
def appendExisting [Redactor] (existing : TraceEvent) (redacted : RedactedTraceEventDraft)
    (newId : Option UUID4) : RunM AppendReceipt := do
  let run ← get
  if existing.eventIdentity = redacted.eventIdentity then duplicateEventReceipt run.slot existing
  else recordCollision existing redacted newId

/-- `_append_to_slot`. -/
def appendToSlot [Redactor] (draft : NormalizedTraceEventDraft) (redacted : RedactedTraceEventDraft)
    (eventId newId : Option UUID4) : RunM AppendReceipt := do
  let run ← get
  if run.isVacant then pure () else verifyHead run
  match run.slot.projection.eventsBySource.get? draft.sourceEventId with
  | some existing => appendExisting existing redacted newId
  | none => appendNewEventToSlot draft redacted eventId newId true

/-- A conditional append under a source identity that is in use. -/
def appendConditionalExisting (existing : TraceEvent) (redacted : RedactedTraceEventDraft) :
    RunM AppendReceipt := do
  let run ← get
  if existing.eventIdentity = redacted.eventIdentity then duplicateEventReceipt run.slot existing
  else throw (.recordCollision "trace_event" existing.eventId)

/-- `_append_conditional_to_slot`. -/
def appendConditionalToSlot (draft : NormalizedTraceEventDraft) (redacted : RedactedTraceEventDraft)
    (eventId : UUID4) (publish : Bool) : RunM AppendReceipt := do
  let run ← get
  match run.slot.projection.eventsBySource.get? draft.sourceEventId with
  | some existing => appendConditionalExisting existing redacted
  | none => appendNewEventToSlot draft redacted eventId none publish

/-! ## Direct records -/

/-- The assignment to the cache of the direct records. -/
def RunState.withDirect (run : RunState) (record : DirectLedgerRecord) (receipt : LedgerReceipt) :
    RunState :=
  { run with slot := { run.slot with
      directRecords := run.slot.directRecords.set record.key ⟨record, receipt⟩ } }

/-- `_record_direct_locked`, for a record that is not stored. -/
def recordNewDirect (record : DirectLedgerRecord) (publish : Bool) : RunM LedgerReceipt := do
  let run ← get
  let staged ← stageEntry run.slot record.toLedgerRecord
  let receipt := LedgerReceipt.ofEntry staged.entry record.recordId
  modify fun run => ((run.append staged).trustIf publish).withDirect record receipt
  pure receipt

/-- `_record_direct_locked`, for a record whose identity is in use. -/
def recordExistingDirect (record : DirectLedgerRecord) (existing : DirectRecord) :
    Except RepositoryError LedgerReceipt := do
  raiseIf (existing.record ≠ record) (.recordCollision record.operation record.recordId)
  pure existing.receipt.repeated

/-- `_record_direct_locked`. -/
def recordDirectLocked (record : DirectLedgerRecord) (verifiesHead publish : Bool) :
    RunM LedgerReceipt := do
  let run ← get
  if verifiesHead then verifyHead run else pure ()
  match run.slot.directRecords.get? record.key with
  | some existing => recordExistingDirect record existing
  | none => recordNewDirect record publish

/-- `_record_direct`. -/
def recordDirect (runId : UUID4) (record : DirectLedgerRecord) : RepositoryM LedgerReceipt :=
  onRun runId do
    acquireSlot (← get)
    recordDirectLocked record true true

/-- `_slot`, with a missing run as a conflict. -/
def acquireSlotAtHead (run : RunState) : Except RepositoryError Unit :=
  match acquireSlot run with
  | .error (.runNotFound _) => throw .ledgerHeadConflict
  | acquired => acquired

/-! ## Operations -/

/-- An optional event identity. -/
def validateOptionalId : Option (Argument UUID4) → Except RepositoryError (Option UUID4)
  | none => pure none
  | some id => some <$> validateRunId id

section

variable [Redactor]

/-- `append`. -/
def append (event : Argument NormalizedTraceEventDraft) (eventId : Option (Argument UUID4))
    (newId : Option UUID4) : RepositoryM AppendReceipt := do
  let draft ← validateDraft event
  let eventId ← validateOptionalId eventId
  validateMetadata draft
  let redacted ← redactDraft draft
  onRun draft.runId do
    acquireAppendSlot (← get)
    appendToSlot draft redacted eventId newId

/-- `append_event_if_head`. -/
def appendEventIfHead (event : Argument NormalizedTraceEventDraft) (eventId : Argument UUID4)
    (expectedHead : Option (Argument LedgerHead)) : RepositoryM AppendReceipt := do
  let draft ← validateDraft event
  let eventId ← validateRunId eventId
  let copiedHead ← copyOptionalHead expectedHead
  validateMetadata draft
  let redacted ← redactDraft draft
  onRun draft.runId do
    acquireAppendSlot (← get)
    requireExpectedHead (← get) copiedHead
    appendConditionalToSlot draft redacted eventId true

variable [Serialization]

/-- `record_signal`. -/
def recordSignal (signal : Argument Signal) : RepositoryM LedgerReceipt := do
  let validated ← validateCommand "signal" signal
  validateRecordContent (.signal validated) "signal"
  recordDirect validated.runId (.signal validated)

/-- `record_signal_if_head`. -/
def recordSignalIfHead (signal : Argument Signal) (expectedHead : Argument LedgerHead) :
    RepositoryM LedgerReceipt := do
  let validated ← validateCommand "signal" signal
  let copiedHead ← copyExpectedHead expectedHead
  validateRecordContent (.signal validated) "signal"
  onRun validated.runId do
    acquireSlotAtHead (← get)
    requireExpectedHead (← get) (some copiedHead)
    recordDirectLocked (.signal validated) true true

/-- `record_invocation_decision`. -/
def recordInvocationDecision (decision : Argument InvocationDecision) :
    RepositoryM LedgerReceipt := do
  let validated ← validateCommand "invocation_decision" decision
  validateRecordContent (.invocationDecision validated) "invocation_decision"
  recordDirect validated.runId (.invocationDecision validated)

/-- `record_outcome`. -/
def recordOutcome (outcome : Argument InterventionOutcome) : RepositoryM LedgerReceipt := do
  let validated ← validateCommand "intervention_outcome" outcome
  validateRecordContent (.interventionOutcome validated) "intervention_outcome"
  recordDirect validated.runId (.interventionOutcome validated)

end

end SalienceGate
