import SalienceGate.Ports.Ledger

/-!
# Receipts

What the operations of a repository return. A receipt of a ledger entry is built from the entry, so
that its position is positive and its tags have one algorithm; the receipts with a validator of
their own are their fields together with the fact that it passed.
-/

namespace SalienceGate

variable [Hashing]

/-! ## Entries -/

/-- An entry has a positive position. -/
theorem LedgerEntry.one_le_position (entry : LedgerEntry) : 1 ≤ entry.position := by
  have h := entry.valid
  simp only [LedgerEntryFields.check, constrain_bind_eq_ok] at h
  exact h.1

/-- The tags of an entry have one algorithm. -/
theorem LedgerEntry.algorithm_eq (entry : LedgerEntry) :
    entry.recordTag.algorithm = entry.chainTag.algorithm := by
  have h := entry.valid
  simp only [LedgerEntryFields.check, constrain_bind_eq_ok, refuse_bind_eq_ok, refuse_eq_ok, not_or,
    not_not] at h
  exact h.2.2.2.2.2.1

/-- The record of an entry belongs to its run. -/
theorem LedgerEntry.record_runId (entry : LedgerEntry) : entry.record.runId = entry.runId := by
  have h := entry.valid
  simp only [LedgerEntryFields.check, constrain_bind_eq_ok, refuse_bind_eq_ok, not_not] at h
  exact h.2.2.2.1

/-! ## Events -/

/-- `AppendDisposition`. -/
inductive AppendDisposition where
  | appended | duplicate | collision
deriving DecidableEq, Repr

/-- The fields of the receipt of an append. -/
structure AppendReceiptFields where
  disposition : AppendDisposition
  event : TraceEvent
  ledgerPosition : ℕ
  ingestionCursor : ℕ
  collisionEvent : Option TraceEvent := none
deriving DecidableEq

omit [Hashing] in
/-- `collision_event_matches_disposition`, after the field constraints. -/
def AppendReceiptFields.check (receipt : AppendReceiptFields) : Check := do
  constrain (1 ≤ receipt.ledgerPosition) "ledger_position" "greater_than_equal"
  constrain (1 ≤ receipt.ingestionCursor) "ingestion_cursor" "greater_than_equal"
  refuse (decide (receipt.disposition = .collision) ≠ receipt.collisionEvent.isSome)
    "only collision receipts can carry a collision event"
  refuse (∃ event ∈ receipt.collisionEvent, event.runId ≠ receipt.event.runId)
    "collision event belongs to a different run"
  refuse (receipt.ingestionCursor < receipt.event.sequence)
    "receipt cursor cannot precede its event"
  refuse (∃ event ∈ receipt.collisionEvent, receipt.ingestionCursor ≠ event.sequence)
    "collision receipt cursor must identify its audit event"

/-- The receipt of an append. -/
structure AppendReceipt extends AppendReceiptFields where
  valid : toAppendReceiptFields.check = .ok ()
deriving DecidableEq

/-- `AppendReceipt(...)`. -/
def AppendReceipt.create (fields : AppendReceiptFields) : Except ValidationError AppendReceipt :=
  Checked.validate AppendReceiptFields.check AppendReceipt.mk fields

/-! ## Direct records -/

/-- The receipt of a record that is stored as it is. -/
structure LedgerReceipt where
  appended : Bool
  recordId : UUID4
  recordTag : PayloadDigest
  ledgerPosition : ℕ
  chainTag : PayloadDigest
  positive : 1 ≤ ledgerPosition
deriving DecidableEq

/-- `LedgerReceipt(appended=True, ...)`, of an entry. -/
def LedgerReceipt.ofEntry (entry : LedgerEntry) (recordId : UUID4) : LedgerReceipt where
  appended := true
  recordId
  recordTag := entry.recordTag
  ledgerPosition := entry.position
  chainTag := entry.chainTag
  positive := entry.one_le_position

omit [Hashing] in
/-- `receipt.model_copy(update={"appended": False})`. -/
def LedgerReceipt.repeated (receipt : LedgerReceipt) : LedgerReceipt :=
  { receipt with appended := false }

/-! ## Cycles -/

/-- The fields of the receipt of a cycle revision. -/
structure CycleReceiptFields where
  appended : Bool
  cycle : CycleRecord
  recordTag : PayloadDigest
  ledgerPosition : ℕ
  chainTag : PayloadDigest
  budgetSnapshot : BudgetSnapshot
  delivery : Option DeliveryRecord := none
deriving DecidableEq

/-- The receipt is of a commit with a reminder. -/
def CycleReceiptFields.expectsDelivery (receipt : CycleReceiptFields) : Bool :=
  receipt.cycle.state = .committed && receipt.cycle.intervention.any fun intervention =>
    intervention.action = .remind

/-- The delivery that a commit with a reminder enqueues. -/
def CycleReceiptFields.carries (receipt : CycleReceiptFields) (delivery : DeliveryRecord) : Prop :=
  receipt.cycle.state = .committed ∧ delivery.state = .pending ∧ delivery.revision = 1
    ∧ delivery.runId = receipt.cycle.runId ∧ delivery.cycleId = receipt.cycle.cycleId
    ∧ delivery.createdAt = receipt.cycle.updatedAt
    ∧ ∃ intervention ∈ receipt.cycle.intervention, intervention.action = .remind
      ∧ delivery.interventionId = intervention.interventionId
      ∧ intervention.deliveryTarget = some delivery.target

instance (receipt : CycleReceiptFields) (delivery : DeliveryRecord) :
    Decidable (receipt.carries delivery) := by
  unfold CycleReceiptFields.carries
  infer_instance

/-- `delivery_matches_committed_cycle`, after the field constraints. -/
def CycleReceiptFields.check (receipt : CycleReceiptFields) : Check := do
  constrain (1 ≤ receipt.ledgerPosition) "ledger_position" "greater_than_equal"
  refuse (receipt.expectsDelivery ≠ receipt.delivery.isSome)
    "only a committed reminder receipt must carry its delivery"
  refuse (∃ delivery ∈ receipt.delivery, ¬receipt.carries delivery)
    "cycle receipt delivery does not match its committed reminder"

/-- The receipt of a cycle revision. -/
structure CycleReceipt extends CycleReceiptFields where
  valid : toCycleReceiptFields.check = .ok ()
deriving DecidableEq

/-- `CycleReceipt(...)`. -/
def CycleReceipt.create (fields : CycleReceiptFields) : Except ValidationError CycleReceipt :=
  Checked.validate CycleReceiptFields.check CycleReceipt.mk fields

/-- `receipt.model_copy(update={"appended": False})`. -/
def CycleReceipt.repeated (receipt : CycleReceipt) : CycleReceipt where
  toCycleReceiptFields := { receipt.toCycleReceiptFields with appended := false }
  valid := receipt.valid

/-- `CycleRecoveryReceipt`. -/
structure CycleRecoveryReceipt where
  runId : UUID4
  resumablePending : List CycleRecord
  resumableReserved : List CycleRecord
  failedUnknownCost : List CycleReceipt
deriving DecidableEq

/-! ## Deliveries -/

/-- The receipt of a delivery revision. -/
structure DeliveryTransitionReceipt where
  appended : Bool
  delivery : DeliveryRecord
  recordTag : PayloadDigest
  ledgerPosition : ℕ
  chainTag : PayloadDigest
  positive : 1 ≤ ledgerPosition
  oneAlgorithm : recordTag.algorithm = chainTag.algorithm
deriving DecidableEq

/-- `DeliveryTransitionReceipt(appended=True, ...)`, of an entry. -/
def DeliveryTransitionReceipt.ofEntry (entry : LedgerEntry) (delivery : DeliveryRecord) :
    DeliveryTransitionReceipt where
  appended := true
  delivery
  recordTag := entry.recordTag
  ledgerPosition := entry.position
  chainTag := entry.chainTag
  positive := entry.one_le_position
  oneAlgorithm := entry.algorithm_eq

omit [Hashing] in
/-- `receipt.model_copy(update={"appended": False})`. -/
def DeliveryTransitionReceipt.repeated (receipt : DeliveryTransitionReceipt) :
    DeliveryTransitionReceipt :=
  { receipt with appended := false }

/-- What one attempt of an adapter needs. -/
structure DeliveryAttemptEnvelope where
  deliveryId : UUID4
  runId : UUID4
  cycleId : Sha256Digest
  interventionId : UUID4
  renderedTextDigest : Sha256Digest
  claimId : UUID4
  attemptId : UUID4
  attemptNumber : ℕ
  targetRequestId : ComponentIdentifier
  target : DeliveryTarget
  adapterId : ComponentIdentifier
  adapterDeduplicates : Bool
  adapterDeduplicationGuarantee : DeduplicationGuarantee
  adapterSupportsPreAction : Bool
  adapterContractVersion : ComponentIdentifier
  adapterCapabilitiesDigest : Sha256Digest
  renderedText : NonEmptyString
deriving DecidableEq

omit [Hashing] in
/-- The field constraints of an envelope. -/
def DeliveryAttemptEnvelope.check (envelope : DeliveryAttemptEnvelope) : Check := do
  constrain (1 ≤ envelope.attemptNumber) "attempt_number" "greater_than_equal"
  constrain (envelope.renderedText.text.length ≤ 4096) "rendered_text" "string_too_long"

omit [Hashing] in
/-- The envelope is of the attempt that a revision records. -/
def DeliveryAttemptEnvelope.isOf (envelope : DeliveryAttemptEnvelope) (delivery : DeliveryRecord) :
    Prop :=
  delivery.state = .attempting ∧ envelope.deliveryId = delivery.deliveryId
    ∧ envelope.runId = delivery.runId ∧ envelope.cycleId = delivery.cycleId
    ∧ envelope.interventionId = delivery.interventionId
    ∧ envelope.renderedTextDigest = delivery.renderedTextDigest
    ∧ some envelope.claimId = delivery.claimId ∧ some envelope.attemptId = delivery.attemptId
    ∧ envelope.attemptNumber = delivery.attemptCount
    ∧ envelope.targetRequestId = delivery.targetRequestId ∧ envelope.target = delivery.target
    ∧ envelope.adapterId = delivery.adapterId
    ∧ envelope.adapterDeduplicates = delivery.adapterDeduplicates
    ∧ envelope.adapterDeduplicationGuarantee = delivery.adapterDeduplicationGuarantee
    ∧ envelope.adapterSupportsPreAction = delivery.adapterSupportsPreAction
    ∧ envelope.adapterContractVersion = delivery.adapterContractVersion
    ∧ envelope.adapterCapabilitiesDigest = delivery.adapterCapabilitiesDigest

omit [Hashing] in
instance (envelope : DeliveryAttemptEnvelope) (delivery : DeliveryRecord) :
    Decidable (envelope.isOf delivery) := by
  unfold DeliveryAttemptEnvelope.isOf
  infer_instance

/-- The fields of the receipt of an attempt. -/
structure DeliveryAttemptReceiptFields extends DeliveryTransitionReceipt where
  envelope : Option DeliveryAttemptEnvelope
deriving DecidableEq

omit [Hashing] in
/-- `new_attempt_is_the_only_envelope_source`. -/
def DeliveryAttemptReceiptFields.check (receipt : DeliveryAttemptReceiptFields) : Check := do
  refuse (receipt.appended ≠ receipt.envelope.isSome)
    "only a newly persisted attempt can expose its envelope"
  refuse (∃ envelope ∈ receipt.envelope, ¬envelope.isOf receipt.delivery)
    "attempt envelope does not match its delivery revision"

/-- The receipt of an attempt. -/
structure DeliveryAttemptReceipt extends DeliveryAttemptReceiptFields where
  valid : toDeliveryAttemptReceiptFields.check = .ok ()
deriving DecidableEq

omit [Hashing] in
/-- `DeliveryAttemptReceipt(...)`. -/
def DeliveryAttemptReceipt.create (fields : DeliveryAttemptReceiptFields) :
    Except ValidationError DeliveryAttemptReceipt :=
  Checked.validate DeliveryAttemptReceiptFields.check DeliveryAttemptReceipt.mk fields

/-- The fields of the receipt of a delivery recovery. -/
structure DeliveryRecoveryReceiptFields where
  runId : UUID4
  markedUnknown : List DeliveryTransitionReceipt
  resumablePending : List DeliveryRecord
  resumableClaimed : List DeliveryRecord
  retryableUnknown : List DeliveryRecord
  nonRetryableUnknown : List DeliveryRecord
deriving DecidableEq

omit [Hashing] in
/-- The categories with their states. -/
def DeliveryRecoveryReceiptFields.categories (receipt : DeliveryRecoveryReceiptFields) :
    List (List DeliveryRecord × DeliveryState) :=
  [(receipt.resumablePending, .pending), (receipt.resumableClaimed, .claimed),
    (receipt.retryableUnknown, .unknown), (receipt.nonRetryableUnknown, .unknown)]

omit [Hashing] in
/-- `categories_match_authoritative_states`. -/
def DeliveryRecoveryReceiptFields.check (receipt : DeliveryRecoveryReceiptFields) : Check := do
  refuse (∃ category ∈ receipt.categories, ∃ record ∈ category.1,
      record.runId ≠ receipt.runId ∨ record.state ≠ category.2)
    "delivery recovery category has the wrong run or state"
  refuse (¬(receipt.categories.flatMap fun category => category.1.map (·.deliveryId)).Nodup)
    "delivery recovery categories must be disjoint"
  refuse (∃ record ∈ receipt.retryableUnknown, record.adapterDeduplicates = false)
    "retryable unknown delivery must support durable deduplication"
  refuse (∃ record ∈ receipt.nonRetryableUnknown, record.adapterDeduplicates = true)
    "non-retryable unknown delivery cannot support deduplication"
  refuse (∃ marked ∈ receipt.markedUnknown, marked.delivery.runId ≠ receipt.runId
      ∨ marked.delivery.state ≠ .unknown ∨ marked.appended = false)
    "recovered attempts must be newly marked unknown in this run"

/-- The receipt of a delivery recovery. -/
structure DeliveryRecoveryReceipt extends DeliveryRecoveryReceiptFields where
  valid : toDeliveryRecoveryReceiptFields.check = .ok ()
deriving DecidableEq

omit [Hashing] in
/-- `DeliveryRecoveryReceipt(...)`. -/
def DeliveryRecoveryReceipt.create (fields : DeliveryRecoveryReceiptFields) :
    Except ValidationError DeliveryRecoveryReceipt :=
  Checked.validate DeliveryRecoveryReceiptFields.check DeliveryRecoveryReceipt.mk fields

/-! ## Projections -/

/-- The digests of the components of a projection. -/
structure ProjectionDigests where
  events : PayloadDigest
  memory : PayloadDigest
  signals : PayloadDigest
  decisions : PayloadDigest
  cycles : PayloadDigest
  interventions : PayloadDigest
  budgets : PayloadDigest
  cursors : PayloadDigest
  deliveries : PayloadDigest
  outcomes : PayloadDigest
  overall : PayloadDigest
deriving DecidableEq

/-- `RebuildReceipt`. -/
structure RebuildReceipt where
  runId : UUID4
  entriesReplayed : ℕ
  before : Option ProjectionDigests
  after : ProjectionDigests
  equivalent : Bool
deriving DecidableEq

end SalienceGate
