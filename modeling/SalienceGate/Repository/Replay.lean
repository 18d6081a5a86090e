import SalienceGate.Repository.Append
import SalienceGate.Repository.Cycles

/-!
# Replaying the ledger

Rebuilding the state of a run from its ledger. Every entry is authenticated and applied in turn;
the direct records and the delivery revisions come from the entries alone, the receipts of the cycle
revisions get their deliveries from the projection at the end, and the receipts of the collisions
are read off their audit events. `rebuild` compares the result with the live state and installs it;
`_replay_run` builds the same from a stored ledger and its head.
-/

namespace SalienceGate

open Checked

variable [Hashing]

/-! ## Records of an entry -/

/-- `_direct_record_from_entry`, the record. -/
def DirectLedgerRecord.ofLedgerRecord : LedgerRecord → Option DirectLedgerRecord
  | .signal record => some (.signal record)
  | .invocationDecision decision => some (.invocationDecision decision)
  | .interventionOutcome outcome => some (.interventionOutcome outcome)
  | _ => none

/-- The direct records with that of an entry: `_direct_record_from_entry`. -/
def addDirectRecord (records : Dict (String × UUID4) DirectRecord) (entry : LedgerEntry) :
    Dict (String × UUID4) DirectRecord :=
  match DirectLedgerRecord.ofLedgerRecord entry.record with
  | some record => records.set record.key ⟨record, .ofEntry entry record.recordId⟩
  | none => records

/-- The delivery revisions with that of an entry: `_delivery_record_from_entry`. -/
def addDeliveryRecord (records : Dict (UUID4 × ℕ) DeliveryRevision) (entry : LedgerEntry) :
    Dict (UUID4 × ℕ) DeliveryRevision :=
  match entry.record with
  | .deliveryRecord delivery =>
    records.set (delivery.deliveryId, delivery.revision) ⟨delivery, .ofEntry entry delivery⟩
  | _ => records

/-- `_CycleReceiptSeed`: the receipt of a cycle revision, without its delivery. -/
structure CycleReceiptSeed where
  record : CycleRecord
  recordTag : PayloadDigest
  ledgerPosition : ℕ
  chainTag : PayloadDigest
  budgetSnapshot : BudgetSnapshot
deriving DecidableEq

/-- The seeds by the identity and number of the revision. -/
abbrev CycleReceiptSeeds := Dict (Sha256Digest × ℕ) CycleReceiptSeed

/-- The seed of a cycle revision. -/
def cycleReceiptSeed (entry : LedgerEntry) (cycle : CycleRecord) (projection : Projection) :
    Except RepositoryError CycleReceiptSeed := do
  let snapshot ← budgetSnapshot projection
  pure {
    record := cycle
    recordTag := entry.recordTag
    ledgerPosition := entry.position
    chainTag := entry.chainTag
    budgetSnapshot := snapshot }

/-- The seeds with that of an entry: `_cycle_record_from_entry`. -/
def addCycleSeed (seeds : CycleReceiptSeeds) (entry : LedgerEntry) (projection : Projection) :
    Except RepositoryError CycleReceiptSeeds :=
  match entry.record with
  | .cycleRecord cycle => do
    let seed ← cycleReceiptSeed entry cycle projection
    pure (seeds.set (cycle.cycleId, cycle.revision) seed)
  | _ => pure seeds

/-! ## Cycle receipts -/

/-- The receipt that a seed becomes. Only a commit carries the delivery of its cycle. -/
def CycleReceiptSeed.attach (seed : CycleReceiptSeed)
    (pending : Dict Sha256Digest DeliveryRecord) : Except RepositoryError CycleReceipt :=
  (CycleReceipt.create {
    appended := true
    cycle := seed.record
    recordTag := seed.recordTag
    ledgerPosition := seed.ledgerPosition
    chainTag := seed.chainTag
    budgetSnapshot := seed.budgetSnapshot
    delivery := if seed.record.state = .committed then pending.get? seed.record.cycleId
      else none }).mapError .validation

/-- `_attach_cycle_deliveries`. -/
def attachCycleDeliveries (seeds : CycleReceiptSeeds) (projection : Projection) :
    Except RepositoryError (Dict (Sha256Digest × ℕ) CycleRevision) :=
  seeds.items.foldlM
    (fun attached item => do
      let receipt ← item.2.attach (initialDeliveries projection)
      pure (attached.set item.1 ⟨item.2.record, receipt⟩))
    .empty

/-! ## Collision receipts -/

/-- The error of an audit event that the repository did not write. -/
def invalidAuditEvent : RepositoryError :=
  .projectionInvariant "invalid collision audit event"

omit [Hashing] in
/-- The names of the fields that an audit event may list. -/
def identityFieldNames : List String :=
  ["schema_version", "timestamp", "event_type", "phase", "payload", "payload_digest", "parent_ids",
    "source_adapter", "trust_label"]

omit [Hashing] in
/-- The strings of a list of them. -/
def stringItems (items : List Json) : Option (List String) :=
  items.mapM Codec.str.load

omit [Hashing] in
/-- The fields that an audit event lists are names of identity fields, at least one and each once. -/
def areDifferingFields (items : List Json) : Bool :=
  match stringItems items with
  | none => false
  | some names => !names.isEmpty && decide names.Nodup && names.all fun name =>
      name ∈ identityFieldNames

omit [Hashing] in
/-- The fingerprint and the event that the payload of an audit event names. -/
def auditedCollision (event : TraceEvent) : Option (Sha256Digest × Json) :=
  match event.payload.items with
  | [("collision_fingerprint", .object [("algorithm", algorithm), ("value", .str value)]),
      ("differing_fields", .list differing), ("existing_event_id", existingEventId),
      ("reason_code", reason)] =>
    if reason = .str ReasonCode.sourceEventCollision.value
        ∧ algorithm = .str event.payloadDigest.algorithm.value
        ∧ areDifferingFields differing = true then
      (Sha256Digest.parse value).map fun fingerprint => (fingerprint, existingEventId)
    else none
  | _ => none

omit [Hashing] in
/-- The metadata of an audit event. -/
def isAuditEvent (event : TraceEvent) : Bool :=
  event.eventType = .controllerError && event.phase = .internal
    && event.sourceAdapter.text = "saliencegate.repository" && event.trustLabel = .trustedRuntime
    && event.parentIds.length = 1

/-- The receipt of the collision behind an audit event. -/
def auditedReceipt (projection : Projection) (existing event : TraceEvent) :
    Except RepositoryError AppendReceipt := do
  let ledgerPosition ← eventPosition projection existing
  (AppendReceipt.create {
    disposition := .collision
    event := existing
    ledgerPosition
    ingestionCursor := event.sequence
    collisionEvent := some event }).mapError .validation

/-- A round of `_collision_receipts`, for an event under a collision identity. -/
def addAuditedReceipt (projection : Projection) (receipts : Dict Sha256Digest AppendReceipt)
    (event : TraceEvent) : Except RepositoryError (Dict Sha256Digest AppendReceipt) := do
  raiseIf (isAuditEvent event = false) invalidAuditEvent
  let audited ← expect (auditedCollision event) invalidAuditEvent
  raiseIf (event.sourceEventId ≠ collisionSourceId audited.1) invalidAuditEvent
  let existing ← expect (event.parentIds.head?.bind projection.eventsById.get?) invalidAuditEvent
  raiseIf (audited.2 ≠ .str existing.eventId.toString ∨ audited.1 ∈ receipts) invalidAuditEvent
  let receipt ← auditedReceipt projection existing event
  pure (receipts.set audited.1 receipt)

/-- The events under a collision identity, in order. -/
def collisionEvents (projection : Projection) : List TraceEvent :=
  projection.eventsBySequence.values.filter fun event => isCollisionSource event.sourceEventId

/-- `_collision_receipts`. -/
def collisionReceipts (projection : Projection) :
    Except RepositoryError (Dict Sha256Digest AppendReceipt) :=
  (collisionEvents projection).foldlM (addAuditedReceipt projection) .empty

/-! ## The loop over the entries -/

variable [Integrity]

/-- What authenticating a ledger keeps from one entry to the next. -/
structure ReplayCursor where
  position : ℕ
  projection : Projection
  previous : Option PayloadDigest
  projectionTag : Option PayloadDigest
  directRecords : Dict (String × UUID4) DirectRecord
deriving DecidableEq

/-- The part of the loop that authenticates an entry and applies it. -/
def authenticateEntry (cursor : ReplayCursor) (entry : LedgerEntry) :
    Except RepositoryError ReplayCursor := do
  verifyEntry entry (cursor.position + 1) cursor.previous
  let projection ← applyEntry cursor.projection entry
  pure {
    position := cursor.position + 1
    projection
    previous := some entry.chainTag
    projectionTag := some (projectionCheckpointTag entry projection cursor.projectionTag)
    directRecords := addDirectRecord cursor.directRecords entry }

/-- What replaying a ledger keeps from one entry to the next. -/
structure Replayed extends ReplayCursor where
  cycleReceiptSeeds : CycleReceiptSeeds
  deliveryRecords : Dict (UUID4 × ℕ) DeliveryRevision
deriving DecidableEq

/-- The state before the first entry. -/
def Replayed.start (runId : UUID4) : Replayed where
  position := 0
  projection := emptyProjection runId
  previous := none
  projectionTag := none
  directRecords := .empty
  cycleReceiptSeeds := .empty
  deliveryRecords := .empty

/-- A round of the loop. -/
def replayEntry (replayed : Replayed) (entry : LedgerEntry) : Except RepositoryError Replayed := do
  let cursor ← authenticateEntry replayed.toReplayCursor entry
  let seeds ← addCycleSeed replayed.cycleReceiptSeeds entry cursor.projection
  pure {
    toReplayCursor := cursor
    cycleReceiptSeeds := seeds
    deliveryRecords := addDeliveryRecord replayed.deliveryRecords entry }

/-- The state that a ledger leads to: the projection with its digests, and the caches. -/
structure ReplayedRun where
  projection : Projection
  digests : ProjectionDigests
  directRecords : Dict (String × UUID4) DirectRecord
  cycleRecords : Dict (Sha256Digest × ℕ) CycleRevision
  deliveryRecords : Dict (UUID4 × ℕ) DeliveryRevision
  collisionReceipts : Dict Sha256Digest AppendReceipt
deriving DecidableEq

/-! ## Rebuilding -/

/-- The part of `rebuild` whose errors are one rebuild error. -/
def replaySlot (run : RunState) : Except RepositoryError ReplayedRun := do
  verifyHead run false
  let replayed ← run.slot.ledger.foldlM replayEntry (Replayed.start run.slot.runId)
  validateCompleteProjection replayed.projection
  let cycleRecords ← attachCycleDeliveries replayed.cycleReceiptSeeds replayed.projection
  let digests ← projectionDigests replayed.projection run.slot.ledger.length
  raiseIf (run.slot.ledgerHead = none
      ∨ replayed.projectionTag ≠ run.slot.ledgerHead.map (·.projectionTag))
    (.digestVerification "projection head")
  let collisionReceipts ← collisionReceipts replayed.projection
  pure {
    projection := replayed.projection
    digests
    directRecords := replayed.directRecords
    cycleRecords
    deliveryRecords := replayed.deliveryRecords
    collisionReceipts }

/-- The digests of the live projection, unless they fail to validate. -/
def liveDigests (slot : Slot) : Except RepositoryError (Option ProjectionDigests) :=
  match projectionDigests slot.projection slot.ledger.length with
  | .ok digests => pure (some digests)
  | .error (.validation _) => pure none
  | .error error => throw error

/-- The assignments of `rebuild`. -/
def RunState.install (run : RunState) (replayed : ReplayedRun) : RunState where
  slot := { run.slot with
    projection := replayed.projection
    directRecords := replayed.directRecords
    cycleRecords := replayed.cycleRecords
    deliveryRecords := replayed.deliveryRecords
    collisionReceipts := replayed.collisionReceipts }
  trustedHead := run.trustedHead
  trustedProjection := some replayed.projection

/-- The locked part of `rebuild`. -/
def rebuildLocked (runId : UUID4) : RunM RebuildReceipt := do
  let run ← get
  acquireSlot run
  let before ← liveDigests run.slot
  let replayed ← (replaySlot run).mapError fun _ => RepositoryError.rebuild
  let receipt : RebuildReceipt := {
    runId
    entriesReplayed := run.slot.ledger.length
    before
    after := replayed.digests
    equivalent := decide (before = some replayed.digests) }
  modify fun run => run.install replayed
  pure receipt

/-- `rebuild`. -/
def rebuild (runId : Argument UUID4) : RepositoryM RebuildReceipt := do
  let runId ← validateRunId runId
  onRun runId (rebuildLocked runId)

/-- The loop of `_replay_run`, which also checks the run of every entry. -/
def replayEntryOf (runId : UUID4) (replayed : Replayed) (entry : LedgerEntry) :
    Except RepositoryError Replayed := do
  raiseIf (entry.runId ≠ runId) (.digestVerification "durable ledger run")
  replayEntry replayed entry

/-- The part of `_replay_run` in which every other error is a rebuild error. -/
def replayEntries (entries : List LedgerEntry) (head : LedgerHead) :
    Except RepositoryError ReplayedRun := do
  let replayed ← entries.foldlM (replayEntryOf head.runId) (Replayed.start head.runId)
  validateCompleteProjection replayed.projection
  let cycleRecords ← attachCycleDeliveries replayed.cycleReceiptSeeds replayed.projection
  raiseIf (replayed.projectionTag ≠ some head.projectionTag)
    (.digestVerification "durable projection head")
  let collisionReceipts ← collisionReceipts replayed.projection
  let digests ← projectionDigests replayed.projection entries.length
  pure {
    projection := replayed.projection
    digests
    directRecords := replayed.directRecords
    cycleRecords
    deliveryRecords := replayed.deliveryRecords
    collisionReceipts }

/-- The errors of a replay: a failed digest check, or a rebuild error. -/
def replayError : RepositoryError → RepositoryError
  | .digestVerification scope => .digestVerification scope
  | _ => .rebuild

/-- `_replay_run`. -/
def replayRun (entries : List LedgerEntry) (head : LedgerHead) :
    Except RepositoryError ReplayedRun := do
  let last ← expect entries.getLast? .rebuild
  raiseIf (head.entryCount ≠ entries.length ∨ last.runId ≠ head.runId
      ∨ head.chainTag ≠ last.chainTag)
    (.digestVerification "durable ledger head")
  raiseIf (head.headTag ≠ headTag head.runId head.entryCount head.chainTag head.projectionTag)
    (.digestVerification "durable ledger head")
  (replayEntries entries head).mapError replayError

end SalienceGate
