import SalienceGate.Repository.Slot

/-!
# Delivery commands

The commands that move a delivery: claim, begin an attempt, complete, mark unknown and reject. They
share one shape, a `DeliveryRule`: a retry of a command that already took effect returns its receipt,
and anything else must follow the latest revision. The recovery marks every attempt in flight
unknown, on a copy of the slot that is published at the end.
-/

namespace SalienceGate

open Checked Stateful

variable [Hashing]

/-! ## Storing a revision -/

/-- The assignment to the cache of the delivery revisions. -/
def RunState.withDelivery (run : RunState) (record : DeliveryRecord)
    (receipt : DeliveryTransitionReceipt) : RunState :=
  { run with slot := { run.slot with
      deliveryRecords := run.slot.deliveryRecords.set (record.deliveryId, record.revision)
        ⟨record, receipt⟩ } }

/-- `_record_delivery_locked`, for a revision that is stored. -/
def recordExistingDelivery (record : DeliveryRecord) (existing : DeliveryRevision) :
    Except RepositoryError DeliveryTransitionReceipt := do
  raiseIf (existing.record ≠ record)
    (.deliveryRevisionConflict record.revision (some record.revision))
  pure existing.receipt.repeated

/-- `_transition_delivery`, with the updates already made. -/
def transitionDelivery (operation : String) (updated : DeliveryRecordFields) :
    Except RepositoryError DeliveryRecord :=
  (DeliveryRecord.create updated).mapError fun _ => .invalidRecord operation

/-- `_delivery_base`. -/
def deliveryBase (slot : Slot) (deliveryId : UUID4) (expectedRevision : ℕ) :
    Except RepositoryError DeliveryRecord := do
  let latest ← expect (slot.projection.deliveries.get? deliveryId) .deliveryNotFound
  raiseIf (latest.revision ≠ expectedRevision)
    (.deliveryRevisionConflict expectedRevision (some latest.revision))
  pure latest

/-- The end of `_delivery_retry`: the receipt of the latest revision. -/
def repeatedReceipt (slot : Slot) (deliveryId : UUID4) (latest : DeliveryRecord) :
    Except RepositoryError (Option DeliveryTransitionReceipt) := do
  let cached ← expect (slot.deliveryRecords.get? (deliveryId, latest.revision))
    (.projectionInvariant "delivery receipt cache is unavailable")
  pure (some cached.receipt.repeated)

/-- `_delivery_retry`: the receipt of the candidate, if it is the latest revision. -/
def deliveryRetry (slot : Slot) (deliveryId : UUID4) (expectedRevision : ℕ)
    (candidate : DeliveryRecord) : Except RepositoryError (Option DeliveryTransitionReceipt) :=
  match slot.projection.deliveries.get? deliveryId with
  | none => pure none
  | some latest =>
    if latest.revision ≠ expectedRevision + 1 ∨ latest ≠ candidate then pure none
    else repeatedReceipt slot deliveryId latest

/-- `_attempt_envelope`, of an attempt with its owner and its reminder. -/
def attemptEnvelope (projection : Projection) (delivery : DeliveryRecord) :
    Except RepositoryError DeliveryAttemptEnvelope := do
  let ungrounded : RepositoryError :=
    .projectionInvariant "delivery attempt has no grounded reminder"
  raiseIf (delivery.state ≠ .attempting) ungrounded
  let claimId ← expect delivery.claimId ungrounded
  let attemptId ← expect delivery.attemptId ungrounded
  let intervention ← expect (projection.interventions.get? delivery.interventionId) ungrounded
  let renderedText ← expect intervention.renderedText ungrounded
  let envelope : DeliveryAttemptEnvelope := {
    deliveryId := delivery.deliveryId
    runId := delivery.runId
    cycleId := delivery.cycleId
    interventionId := delivery.interventionId
    renderedTextDigest := delivery.renderedTextDigest
    claimId
    attemptId
    attemptNumber := delivery.attemptCount
    targetRequestId := delivery.targetRequestId
    target := delivery.target
    adapterId := delivery.adapterId
    adapterDeduplicates := delivery.adapterDeduplicates
    adapterDeduplicationGuarantee := delivery.adapterDeduplicationGuarantee
    adapterSupportsPreAction := delivery.adapterSupportsPreAction
    adapterContractVersion := delivery.adapterContractVersion
    adapterCapabilitiesDigest := delivery.adapterCapabilitiesDigest
    renderedText }
  envelope.check.mapError .validation
  pure envelope

/-! ## The shape of a command -/

/-- What distinguishes the commands on a delivery. -/
structure DeliveryRule where
  /-- The name of the command. -/
  operation : String
  deliveryId : UUID4
  expectedRevision : ℕ
  /-- The states that the command may follow. -/
  admits : DeliveryState → Bool
  /-- The check of the revision that it follows. -/
  guard : DeliveryRecord → Except RepositoryError Unit
  /-- The check of the latest revision, before a retry. -/
  race : DeliveryRecord → Except RepositoryError Unit := fun _ => .ok ()
  /-- The revision that it makes. -/
  next : DeliveryRecord → DeliveryRecordFields

namespace DeliveryRule

/-- A retry after the revision that the command followed. -/
def retryFrom (rule : DeliveryRule) (slot : Slot) (previous : DeliveryRecord) :
    Except RepositoryError (Option DeliveryTransitionReceipt) := do
  rule.guard previous
  (slot.projection.deliveries.get? rule.deliveryId).elim (pure ()) rule.race
  let candidate ← transitionDelivery rule.operation (rule.next previous)
  deliveryRetry slot rule.deliveryId rule.expectedRevision candidate

/-- The receipt of a command that already took effect. -/
def retry (rule : DeliveryRule) (slot : Slot) :
    Except RepositoryError (Option DeliveryTransitionReceipt) :=
  match slot.projection.deliveryHistory.get? (rule.deliveryId, rule.expectedRevision) with
  | none => pure none
  | some previous => if rule.admits previous.state then rule.retryFrom slot previous else pure none

/-- The revision that a command makes after the latest one. -/
def record (rule : DeliveryRule) (slot : Slot) : Except RepositoryError DeliveryRecord := do
  let base ← deliveryBase slot rule.deliveryId rule.expectedRevision
  raiseIf (rule.admits base.state = false) (.invalidDeliveryState rule.operation)
  rule.guard base
  transitionDelivery rule.operation (rule.next base)

end DeliveryRule

/-- The rule of `claim_delivery`. -/
def ClaimDelivery.rule (command : ClaimDelivery) : DeliveryRule where
  operation := "claim_delivery"
  deliveryId := command.deliveryId
  expectedRevision := command.expectedRevision
  admits state := state = .pending || state = .unknown
  guard previous := raiseIf (previous.state = .unknown ∧ previous.adapterDeduplicates = false)
    (.invalidDeliveryState "claim_delivery")
  next previous := { previous.toDeliveryRecordFields with
    revision := previous.revision + 1
    state := .claimed
    claimId := some command.claimId
    attemptId := none
    receipt := none
    outcome := none
    reasonCode := none
    updatedAt := command.updatedAt }

/-- The rule of `begin_delivery_attempt`. -/
def BeginDeliveryAttempt.rule (command : BeginDeliveryAttempt) : DeliveryRule where
  operation := "begin_delivery_attempt"
  deliveryId := command.deliveryId
  expectedRevision := command.expectedRevision
  admits state := state = .claimed
  guard previous := raiseIf (previous.claimId ≠ some command.claimId) .deliveryOwnership
  race latest := raiseIf (latest.revision = command.expectedRevision + 1
      ∧ latest.state = .attempting ∧ latest.attemptId ≠ some command.attemptId)
    .deliveryOwnership
  next previous := { previous.toDeliveryRecordFields with
    revision := previous.revision + 1
    state := .attempting
    attemptCount := previous.attemptCount + 1
    attemptId := some command.attemptId
    updatedAt := command.updatedAt }

/-- The previous revision has the owner and the attempt of a command. -/
def checkOwner (claimId attemptId : UUID4) (previous : DeliveryRecord) :
    Except RepositoryError Unit :=
  raiseIf (previous.claimId ≠ some claimId ∨ previous.attemptId ≠ some attemptId)
    .deliveryOwnership

/-- `{"provider_receipt_id": ...}`. -/
def providerReceipt (id : ComponentIdentifier) : JsonObject where
  items := [("provider_receipt_id", .str id.text)]
  canonical := by simp

/-- The rule of `complete_delivery`. -/
def CompleteDelivery.rule (command : CompleteDelivery) : DeliveryRule where
  operation := "complete_delivery"
  deliveryId := command.deliveryId
  expectedRevision := command.expectedRevision
  admits state := state = .attempting || state = .unknown
  guard := checkOwner command.claimId command.attemptId
  next previous := { previous.toDeliveryRecordFields with
    revision := previous.revision + 1
    state := if command.outcome = .delivered then .delivered else .failed
    receipt := command.providerReceiptId.map providerReceipt
    outcome := some command.outcome
    reasonCode := some (if command.outcome = .delivered then .deliverySucceeded
      else .deliveryFailed)
    updatedAt := command.updatedAt }

/-- A revision that marks an attempt unknown. -/
def markedUnknown (previous : DeliveryRecord) (updatedAt : UtcDatetime) : DeliveryRecordFields :=
  { previous.toDeliveryRecordFields with
    revision := previous.revision + 1
    state := .unknown
    receipt := none
    outcome := some .unknown
    reasonCode := some .deliveryUnknown
    updatedAt }

/-- The rule of `mark_delivery_unknown`. -/
def MarkDeliveryUnknown.rule (command : MarkDeliveryUnknown) : DeliveryRule where
  operation := "mark_delivery_unknown"
  deliveryId := command.deliveryId
  expectedRevision := command.expectedRevision
  admits state := state = .attempting
  guard := checkOwner command.claimId command.attemptId
  next previous := markedUnknown previous command.updatedAt

/-- The rule of `reject_delivery`: only the owner rejects a claimed delivery. -/
def RejectDelivery.rule (command : RejectDelivery) : DeliveryRule where
  operation := "reject_delivery"
  deliveryId := command.deliveryId
  expectedRevision := command.expectedRevision
  admits state := state = .pending || state = .claimed
  guard previous :=
    if previous.state = .pending then raiseIf (command.claimId ≠ none) .deliveryOwnership
    else raiseIf (previous.claimId ≠ command.claimId) .deliveryOwnership
  next previous := { previous.toDeliveryRecordFields with
    revision := previous.revision + 1
    state := .rejected
    receipt := none
    outcome := some .refused
    reasonCode := some command.reasonCode
    updatedAt := command.updatedAt }

/-! ## Commands -/

variable [Integrity]

/-- `_record_delivery_locked`, for a revision that is not stored. -/
def recordNewDelivery (record : DeliveryRecord) (publish : Bool) :
    RunM DeliveryTransitionReceipt := do
  let run ← get
  let staged ← stageEntry run.slot (.deliveryRecord record)
  let receipt := DeliveryTransitionReceipt.ofEntry staged.entry record
  modify fun run => ((run.append staged).withDelivery record receipt).trustIf publish
  pure receipt

/-- `_record_delivery_locked`. -/
def recordDeliveryLocked (record : DeliveryRecord) (publish : Bool) :
    RunM DeliveryTransitionReceipt := do
  let run ← get
  match run.slot.deliveryRecords.get? (record.deliveryId, record.revision) with
  | some existing => recordExistingDelivery record existing
  | none => recordNewDelivery record publish

/-- The locked part of a command that moves a delivery. -/
def transitionLocked (rule : DeliveryRule) : RunM DeliveryTransitionReceipt := do
  let run ← get
  acquireSlot run
  verifyHead run
  let retried ← rule.retry run.slot
  match retried with
  | some receipt => pure receipt
  | none => do
    let record ← rule.record run.slot
    recordDeliveryLocked record true

/-- The locked part of `begin_delivery_attempt`. Only a new attempt carries an envelope. -/
def beginAttemptLocked (rule : DeliveryRule) : RunM DeliveryAttemptReceipt := do
  let run ← get
  acquireSlot run
  verifyHead run
  let retried ← rule.retry run.slot
  match retried with
  | some receipt =>
    (DeliveryAttemptReceipt.create { receipt with envelope := none }).mapError
      RepositoryError.validation
  | none => do
    let record ← rule.record run.slot
    let envelope ← attemptEnvelope run.slot.projection record
    let receipt ← recordDeliveryLocked record true
    (DeliveryAttemptReceipt.create { receipt with envelope := some envelope }).mapError
      RepositoryError.validation

section

variable [Redactor] [Serialization]

/-- `claim_delivery`. -/
def claimDelivery (command : Argument ClaimDelivery) : RepositoryM DeliveryTransitionReceipt := do
  let validated ← validateCommand "claim_delivery" command
  validateRecordContent (.claimDelivery validated) "claim_delivery"
  onRun validated.runId (transitionLocked validated.rule)

/-- `begin_delivery_attempt`. -/
def beginDeliveryAttempt (command : Argument BeginDeliveryAttempt) :
    RepositoryM DeliveryAttemptReceipt := do
  let validated ← validateCommand "begin_delivery_attempt" command
  validateRecordContent (.beginDeliveryAttempt validated) "begin_delivery_attempt"
  onRun validated.runId (beginAttemptLocked validated.rule)

/-- `complete_delivery`. -/
def completeDelivery (command : Argument CompleteDelivery) :
    RepositoryM DeliveryTransitionReceipt := do
  let validated ← validateCommand "complete_delivery" command
  validateRecordContent (.completeDelivery validated) "complete_delivery"
  onRun validated.runId (transitionLocked validated.rule)

/-- `mark_delivery_unknown`. -/
def markDeliveryUnknown (command : Argument MarkDeliveryUnknown) :
    RepositoryM DeliveryTransitionReceipt := do
  let validated ← validateCommand "mark_delivery_unknown" command
  validateRecordContent (.markDeliveryUnknown validated) "mark_delivery_unknown"
  onRun validated.runId (transitionLocked validated.rule)

/-- `reject_delivery`. -/
def rejectDelivery (command : Argument RejectDelivery) :
    RepositoryM DeliveryTransitionReceipt := do
  let validated ← validateCommand "reject_delivery" command
  validateRecordContent (.rejectDelivery validated) "reject_delivery"
  onRun validated.runId (transitionLocked validated.rule)

end

/-! ## Reading -/

/-- The locked part of `delivery`. -/
def deliveryLocked (deliveryId : UUID4) : RunM DeliveryRecord := do
  let run ← get
  acquireSlot run
  verifyHead run
  expect (run.slot.projection.deliveries.get? deliveryId) RepositoryError.deliveryNotFound

/-- `delivery`: the latest revision of a delivery. -/
def delivery (runId deliveryId : Argument UUID4) : RepositoryM DeliveryRecord := do
  let runId ← validateRunId runId
  match deliveryId with
  | .exact deliveryId => onRun runId (deliveryLocked deliveryId)
  | .foreign | .malformed => throw .deliveryNotFound

/-! ## Recovery -/

omit [Integrity] in
/-- `sorted(projection.deliveries.items(), key=str)`. -/
def sortedDeliveries (projection : Projection) : List DeliveryRecord :=
  (projection.deliveries.items.insertionSort fun a b => a.1.int.toNat ≤ b.1.int.toNat).map Prod.snd

/-- A recovery time: an exact UTC instant. -/
def validateRecoveryTime : Argument UtcDatetime → Except RepositoryError UtcDatetime
  | .exact time => pure time
  | .foreign | .malformed => throw .invalidRecoveryTime

/-- A round of the recovery: an attempt in flight is marked unknown. -/
def markRecovered (recoveredAt : UtcDatetime) (delivery : DeliveryRecord) :
    RunM DeliveryTransitionReceipt := do
  let unknown ← transitionDelivery "recover_deliveries" (markedUnknown delivery recoveredAt)
  recordDeliveryLocked unknown false

/-- The assignments that publish a shadow, if it holds anything new. -/
def publishIf (mutated : Bool) (shadow : RunState) (message : String) : RunM Unit :=
  if mutated then do
    modify fun run => run.publishShadow shadow
    let published ← get
    raiseIf (published.slot.ledgerHead = none) (RepositoryError.projectionInvariant message)
    modify RunState.trust
  else pure ()

omit [Integrity] in
/-- The receipt of a recovery, with the deliveries by their state. -/
def recoveryReceipt (projection : Projection) (runId : UUID4)
    (marked : List DeliveryTransitionReceipt) : DeliveryRecoveryReceiptFields :=
  let latest := sortedDeliveries projection
  { runId
    markedUnknown := marked
    resumablePending := latest.filter fun delivery => delivery.state = .pending
    resumableClaimed := latest.filter fun delivery => delivery.state = .claimed
    retryableUnknown := latest.filter fun delivery =>
      delivery.state = .unknown && delivery.adapterDeduplicates
    nonRetryableUnknown := latest.filter fun delivery =>
      delivery.state = .unknown && !delivery.adapterDeduplicates }

/-- The locked part of `recover_deliveries`. -/
def recoverDeliveriesLocked (runId : UUID4) (recoveredAt : UtcDatetime) :
    RunM DeliveryRecoveryReceipt := do
  let run ← get
  acquireSlot run
  verifyHead run
  let attempting := (sortedDeliveries run.slot.projection).filter fun delivery =>
    delivery.state = .attempting
  raiseIf (∃ delivery ∈ attempting, recoveredAt < delivery.updatedAt)
    RepositoryError.invalidRecoveryTime
  let shadow ← onCopy (attempting.mapM (markRecovered recoveredAt))
  publishIf (!shadow.1.isEmpty) shadow.2 "delivery recovery shadow is incomplete"
  (DeliveryRecoveryReceipt.create
    (recoveryReceipt shadow.2.slot.projection runId shadow.1)).mapError RepositoryError.validation

/-- `recover_deliveries`. -/
def recoverDeliveries (runId : Argument UUID4) (recoveredAt : Argument UtcDatetime) :
    RepositoryM DeliveryRecoveryReceipt := do
  let runId ← validateRunId runId
  let recoveredAt ← validateRecoveryTime recoveredAt
  onRun runId (recoverDeliveriesLocked runId recoveredAt)

end SalienceGate
