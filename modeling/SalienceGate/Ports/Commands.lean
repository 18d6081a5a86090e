import SalienceGate.Ports.Receipts
import SalienceGate.Security.Redaction

/-!
# Commands

The arguments of the operations on cycles and deliveries, the operations of a conditional batch and
the receipt of one. A command is its fields together with the fact that its validators passed; an
`Argument` is what a caller hands in for one.
-/

namespace SalienceGate

variable [Hashing]

/-- What a caller hands in: an object of another type, one whose fields do not validate, or a valid
value. -/
inductive Argument (α : Type) where
  | foreign
  | malformed
  | exact (value : α)
deriving DecidableEq

/-! ## Cycles -/

/-- `BeginCycle`. -/
structure BeginCycle where
  runId : UUID4
  invocationDecisionId : UUID4
  groundingVersion : ComponentIdentifier
  groundingConfiguration : JsonObject
  groundingConfigurationDigest : Sha256Digest
  requestedDeliveryTarget : Option DeliveryTarget
  createdAt : UtcDatetime
deriving DecidableEq

/-- `ReserveCycle`. -/
structure ReserveCycle where
  runId : UUID4
  cycleId : Sha256Digest
  expectedRevision : ℕ
  reservation : BudgetAmounts
  updatedAt : UtcDatetime
  positive : 1 ≤ expectedRevision

/-- `StartCycle`. -/
structure StartCycle where
  runId : UUID4
  cycleId : Sha256Digest
  expectedRevision : ℕ
  batchDigest : Sha256Digest
  updatedAt : UtcDatetime
  positive : 1 ≤ expectedRevision

/-- The fields of the adapter binding of a delivery. -/
structure EnqueueDeliveryFields where
  targetRequestId : ComponentIdentifier
  adapterId : ComponentIdentifier
  adapterDeduplicates : Bool
  adapterDeduplicationGuarantee : DeduplicationGuarantee
  adapterSupportsPreAction : Bool
  adapterContractVersion : ComponentIdentifier
  adapterCapabilitiesDigest : Sha256Digest
deriving DecidableEq

/-- The adapter binding of a delivery. -/
structure EnqueueDelivery extends EnqueueDeliveryFields where
  /-- `deduplication_declaration_is_consistent`. -/
  consistent : adapterDeduplicates = decide (adapterDeduplicationGuarantee = .durableDeliveryId)
deriving DecidableEq

/-- The fields of a commit. -/
structure CommitCycleFields where
  runId : UUID4
  cycleId : Sha256Digest
  expectedRevision : ℕ
  settlement : BudgetAmounts
  modelCallDigests : List Sha256Digest
  modelCallLatenciesUs : List ℕ
  validatedDelta : MemoryDelta
  memoryIdAssignments : List MemoryIdAssignment
  intervention : InterventionDecision
  selectorProvenance : Option JsonObject
  delivery : Option EnqueueDelivery
  updatedAt : UtcDatetime
deriving DecidableEq

omit [Hashing] in
/-- `reconcile_model_call_receipts`, after the field constraints. -/
def CommitCycleFields.check (command : CommitCycleFields) : Check := do
  constrain (1 ≤ command.expectedRevision) "expected_revision" "greater_than_equal"
  refuse (command.modelCallDigests.length ≠ command.settlement.modelCalls
      ∨ command.modelCallLatenciesUs.length ≠ command.settlement.modelCalls)
    "model-call receipts must match settled calls"
  refuse (command.settlement.latencyUs < command.modelCallLatenciesUs.sum)
    "model-call latency exceeds settled cycle latency"
  refuse (decide (command.intervention.action = .remind) ≠ command.delivery.isSome)
    "only a reminder cycle must enqueue one delivery"

/-- `CommitCycle`. -/
structure CommitCycle extends CommitCycleFields where
  valid : toCommitCycleFields.check = .ok ()
deriving DecidableEq

/-- The fields of a failure. -/
structure FailCycleFields where
  runId : UUID4
  cycleId : Sha256Digest
  expectedRevision : ℕ
  reason : ReasonCode
  settlement : Option BudgetAmounts
  modelCallDigests : List Sha256Digest
  modelCallLatenciesUs : List ℕ
  updatedAt : UtcDatetime
deriving DecidableEq

omit [Hashing] in
/-- The checks of the model calls of a failure against its settlement. -/
def FailCycleFields.checkSettlement (command : FailCycleFields) : Check :=
  match command.settlement with
  | none => refuse (command.modelCallDigests ≠ []) "model-call receipts require a settlement"
  | some settlement => do
    refuse (settlement.latencyUs < command.modelCallLatenciesUs.sum)
      "model-call latency exceeds settled cycle latency"
    if command.reason = .failedUnknownCost then
      refuse (settlement.modelCalls < command.modelCallDigests.length)
        "known model-call receipts exceed settled calls"
    else
      refuse (command.modelCallDigests.length ≠ settlement.modelCalls)
        "model-call receipts must match settled calls"

omit [Hashing] in
/-- `reconcile_known_model_call_receipts`, after the field constraints. -/
def FailCycleFields.check (command : FailCycleFields) : Check := do
  constrain (1 ≤ command.expectedRevision) "expected_revision" "greater_than_equal"
  refuse (command.modelCallDigests.length ≠ command.modelCallLatenciesUs.length)
    "model-call receipts must have equal length"
  command.checkSettlement

/-- `FailCycle`. -/
structure FailCycle extends FailCycleFields where
  valid : toFailCycleFields.check = .ok ()
deriving DecidableEq

/-! ## Deliveries -/

/-- `ClaimDelivery`. -/
structure ClaimDelivery where
  runId : UUID4
  deliveryId : UUID4
  expectedRevision : ℕ
  claimId : UUID4
  updatedAt : UtcDatetime
  positive : 1 ≤ expectedRevision

/-- `BeginDeliveryAttempt`. -/
structure BeginDeliveryAttempt where
  runId : UUID4
  deliveryId : UUID4
  expectedRevision : ℕ
  claimId : UUID4
  attemptId : UUID4
  updatedAt : UtcDatetime
  positive : 1 ≤ expectedRevision

/-- `CompleteDelivery`, with `receipt_matches_outcome`. -/
structure CompleteDelivery where
  runId : UUID4
  deliveryId : UUID4
  expectedRevision : ℕ
  claimId : UUID4
  attemptId : UUID4
  outcome : DeliveryOutcome
  providerReceiptId : Option ComponentIdentifier
  updatedAt : UtcDatetime
  positive : 1 ≤ expectedRevision
  completion : outcome = .delivered ∨ outcome = .failed
  receipted : outcome = .delivered ↔ providerReceiptId ≠ none

/-- `MarkDeliveryUnknown`. -/
structure MarkDeliveryUnknown where
  runId : UUID4
  deliveryId : UUID4
  expectedRevision : ℕ
  claimId : UUID4
  attemptId : UUID4
  updatedAt : UtcDatetime
  positive : 1 ≤ expectedRevision

/-- `RejectDelivery`, with `reason_is_delivery_refusal`. -/
structure RejectDelivery where
  runId : UUID4
  deliveryId : UUID4
  expectedRevision : ℕ
  claimId : Option UUID4
  reasonCode : ReasonCode
  updatedAt : UtcDatetime
  positive : 1 ≤ expectedRevision
  refusal : reasonCode ∈ DeliveryRecordFields.rejectionReasons

/-! ## Conditional batches -/

/-- `MAX_CONDITIONAL_BATCH_OPERATIONS`. -/
def maxConditionalBatchOperations : ℕ := 5000

/-- `MAX_CONDITIONAL_BATCH_EVENTS`. -/
def maxConditionalBatchEvents : ℕ := 1000

/-- `MAX_CONDITIONAL_BATCH_SIGNALS`. -/
def maxConditionalBatchSignals : ℕ := 4000

/-- `MAX_CONDITIONAL_BATCH_REQUEST_BYTES`. -/
def maxConditionalBatchRequestBytes : ℕ := 128 * 1024 * 1024

/-- `MAX_CONDITIONAL_BATCH_RECEIPT_BYTES`. -/
def maxConditionalBatchReceiptBytes : ℕ := 256 * 1024 * 1024

/-- An operation of a batch. -/
inductive ConditionalAppendOperation where
  | appendEvent (event : NormalizedTraceEventDraft) (eventId : UUID4)
  | recordSignal (signal : Signal)
deriving DecidableEq

/-- A receipt of a batch: of an event, or of a signal. -/
inductive BatchEntryReceipt where
  | event (receipt : AppendReceipt)
  | signal (receipt : LedgerReceipt)
deriving DecidableEq

namespace BatchEntryReceipt

/-- An entry was appended. -/
def appended : BatchEntryReceipt → Bool
  | .event receipt => receipt.disposition = .appended
  | .signal receipt => receipt.appended

/-- `receipt.ledger_position`. -/
def ledgerPosition : BatchEntryReceipt → ℕ
  | .event receipt => receipt.ledgerPosition
  | .signal receipt => receipt.ledgerPosition

/-- It is the receipt of an event. -/
def isEvent : BatchEntryReceipt → Bool
  | .event _ => true
  | .signal _ => false

end BatchEntryReceipt

/-- The fields of the receipt of a batch. -/
structure ConditionalBatchReceiptFields where
  initialHead : Option LedgerHead
  receipts : List BatchEntryReceipt
  finalHead : LedgerHead
deriving DecidableEq

/-- The record and command types whose content is checked, with the value that is checked. -/
inductive SubmittedRecord where
  | signal (record : Signal)
  | invocationDecision (record : InvocationDecision)
  | interventionOutcome (record : InterventionOutcome)
  | beginCycle (command : BeginCycle)
  | reserveCycle (command : ReserveCycle)
  | startCycle (command : StartCycle)
  | commitCycle (command : CommitCycle)
  | failCycle (command : FailCycle)
  | claimDelivery (command : ClaimDelivery)
  | beginDeliveryAttempt (command : BeginDeliveryAttempt)
  | completeDelivery (command : CompleteDelivery)
  | markDeliveryUnknown (command : MarkDeliveryUnknown)
  | rejectDelivery (command : RejectDelivery)

/-- The JSON writer of the records: what the content checks walk, and the sizes that the bounds of a
batch are about. -/
class Serialization where
  /-- `record.model_dump(mode="json")`. -/
  modelDump (record : SubmittedRecord) : JsonObject
  /-- `len(canonical_json(operations))`. -/
  requestBytes (operations : List ConditionalAppendOperation) : ℕ
  /-- `len(canonical_json(receipt))`. -/
  receiptBytes (receipt : ConditionalBatchReceiptFields) : ℕ

/-- A round of the loop over the receipts of a batch: the number of entries so far. -/
def checkBatchEntry (head : LedgerHead) (count : ℕ) (receipt : BatchEntryReceipt) :
    Except ValidationError ℕ := do
  match receipt with
  | .event event => do
    refuse (event.event.runId ≠ head.runId) "event receipt belongs to a different run"
    refuse (event.disposition = .collision) "conditional batches cannot return collisions"
    refuse (event.event.payloadDigest.algorithm ≠ head.headTag.algorithm)
      "event receipt integrity algorithm does not match the head"
  | .signal signal =>
    refuse (signal.recordTag.algorithm ≠ head.headTag.algorithm
        ∨ signal.chainTag.algorithm ≠ head.headTag.algorithm)
      "record receipt integrity algorithm does not match the head"
  if receipt.appended then
    refuse (receipt.ledgerPosition ≠ count + 1)
      "appended receipt positions must be contiguous and ordered"
    pure (count + 1)
  else
    refuse (count < receipt.ledgerPosition)
      "duplicate receipt refers to a future ledger position"
    pure count

namespace ConditionalBatchReceiptFields

/-- `initial_count`. -/
def initialCount (receipt : ConditionalBatchReceiptFields) : ℕ :=
  receipt.initialHead.elim 0 (·.entryCount)

/-- The number of receipts of appended entries. -/
def appendedCount (receipt : ConditionalBatchReceiptFields) : ℕ :=
  receipt.receipts.countP (·.appended)

/-- The byte limit of a receipt. -/
def byteLimitError : ValidationError :=
  .validator "conditional batch receipt exceeds its canonical byte limit"

/-- `batch_receipt_is_consistent`, after the field constraints. -/
def check [Serialization] (receipt : ConditionalBatchReceiptFields) : Check := do
  constrain (1 ≤ receipt.receipts.length) "receipts" "too_short"
  constrain (receipt.receipts.length ≤ maxConditionalBatchOperations) "receipts" "too_long"
  refuse (∃ head ∈ receipt.initialHead, head.runId ≠ receipt.finalHead.runId)
    "batch heads belong to different runs"
  refuse (∃ head ∈ receipt.initialHead,
      head.headTag.algorithm ≠ receipt.finalHead.headTag.algorithm)
    "batch head algorithms do not match"
  let count ← receipt.receipts.foldlM (checkBatchEntry receipt.finalHead) receipt.initialCount
  refuse (maxConditionalBatchEvents < receipt.receipts.countP (·.isEvent)
      ∨ maxConditionalBatchSignals < receipt.receipts.countP (!·.isEvent))
    "conditional batch receipt exceeds its operation-kind limit"
  refuse (receipt.initialHead = none
      ∧ ¬∃ first ∈ receipt.receipts.head?, first.isEvent = true ∧ first.appended = true)
    "a genesis batch must begin with an appended event receipt"
  refuse (receipt.finalHead.entryCount ≠ receipt.initialCount + receipt.appendedCount
      ∨ receipt.finalHead.entryCount ≠ count)
    "final head does not match appended receipt count"
  refuse (receipt.appendedCount = 0 ∧ receipt.initialHead ≠ some receipt.finalHead)
    "a no-op batch must preserve the exact ledger head"
  Checked.raiseIf (maxConditionalBatchReceiptBytes < Serialization.receiptBytes receipt)
    byteLimitError

end ConditionalBatchReceiptFields

/-- The receipt of a batch. -/
structure ConditionalBatchReceipt [Serialization] extends ConditionalBatchReceiptFields where
  valid : toConditionalBatchReceiptFields.check = .ok ()
deriving DecidableEq

/-- `ConditionalBatchReceipt(...)`. -/
def ConditionalBatchReceipt.create [Serialization] (fields : ConditionalBatchReceiptFields) :
    Except ValidationError ConditionalBatchReceipt :=
  Checked.validate ConditionalBatchReceiptFields.check ConditionalBatchReceipt.mk fields

end SalienceGate
