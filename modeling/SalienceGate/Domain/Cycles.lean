import SalienceGate.Domain.Records

/-!
# Cycles and deliveries

The two records with a life cycle: a memory cycle, from its invocation to its commit or failure,
and the delivery of the reminder that a cycle committed. Their checks tie what a revision carries
to its state. `LedgerRecord` is the union of the records that a ledger holds.
-/

namespace SalienceGate

/-! ## Cycles -/

/-- The fields of a cycle record. -/
structure CycleRecordFields where
  cycleId : Sha256Digest
  runId : UUID4
  revision : ℕ
  invocationDecisionId : UUID4
  policyVersion : ComponentIdentifier
  configurationDigest : Sha256Digest
  groundingVersion : ComponentIdentifier
  groundingConfiguration : JsonObject
  groundingConfigurationDigest : Sha256Digest
  requestedDeliveryTarget : Option DeliveryTarget
  firstEventSequence : ℕ
  lastEventSequence : ℕ
  state : CycleState
  budgetReservation : Option BudgetAmounts := none
  budgetSettlement : Option BudgetAmounts := none
  batchDigest : Option Sha256Digest := none
  modelCallDigests : List Sha256Digest := []
  modelCallLatenciesUs : List ℕ := []
  validatedDelta : Option MemoryDelta := none
  memoryIdAssignments : List MemoryIdAssignment := []
  intervention : Option InterventionDecision := none
  selectorProvenance : Option JsonObject := none
  failureReason : Option ReasonCode := none
  createdAt : UtcDatetime
  updatedAt : UtcDatetime
deriving DecidableEq

namespace CycleRecordFields

/-- The checks of the event range, the identity and the embedded records. -/
def checkIdentity [Hashing] (cycle : CycleRecordFields) : Check := do
  refuse (cycle.lastEventSequence < cycle.firstEventSequence)
    "last_event_sequence cannot precede first_event_sequence"
  refuse (cycle.updatedAt < cycle.createdAt) "updated_at cannot precede created_at"
  refuse (cycle.cycleId ≠ SalienceGate.cycleId cycle.runId cycle.firstEventSequence
      cycle.lastEventSequence cycle.policyVersion cycle.configurationDigest cycle.groundingVersion
      cycle.groundingConfigurationDigest cycle.requestedDeliveryTarget)
    "cycle_id does not match the cycle identity fields"
  refuse (∃ delta ∈ cycle.validatedDelta, delta.runId ≠ cycle.runId)
    "validated delta belongs to a different run"
  refuse (∃ intervention ∈ cycle.intervention, intervention.runId ≠ cycle.runId)
    "intervention belongs to a different run"
  refuse (∃ intervention ∈ cycle.intervention, intervention.cycleId ≠ cycle.cycleId)
    "intervention belongs to a different cycle"
  refuse (∃ intervention ∈ cycle.intervention,
      intervention.groundingVersion ≠ cycle.groundingVersion
      ∨ Json.pyEq intervention.groundingConfiguration.json cycle.groundingConfiguration.json = false
      ∨ intervention.groundingConfigurationDigest ≠ cycle.groundingConfigurationDigest)
    "intervention grounding pin does not match the cycle"
  refuse (∃ intervention ∈ cycle.intervention, intervention.action = .remind
      ∧ intervention.deliveryTarget ≠ cycle.requestedDeliveryTarget)
    "intervention delivery target does not match the cycle request"

/-- The checks of the model-call receipts and the budget. -/
def checkBudget (cycle : CycleRecordFields) : Check := do
  refuse (cycle.modelCallDigests.length ≠ cycle.modelCallLatenciesUs.length)
    "model-call digests and latencies must have equal length"
  refuse (∃ reservation ∈ cycle.budgetReservation, reservation.modelCalls < 1)
    "cycle reservation requires a model call"
  refuse (∃ settlement ∈ cycle.budgetSettlement, ∃ reservation ∈ cycle.budgetReservation,
      ∃ field ∈ budgetFields, reservation.get field < settlement.get field)
    "cycle settlement cannot exceed its reservation"
  refuse (∃ settlement ∈ cycle.budgetSettlement, cycle.budgetReservation ≠ none
      ∧ settlement.latencyUs < cycle.modelCallLatenciesUs.sum)
    "model-call latency exceeds settled cycle latency"

/-- The handles that the delta of the cycle creates. -/
def expectedHandles (cycle : CycleRecordFields) : List NonEmptyString :=
  match cycle.validatedDelta with
  | none => []
  | some delta => delta.handles

/-- The checks of the memory identities that the cycle assigns. -/
def checkAssignments (cycle : CycleRecordFields) : Check := do
  refuse (¬(cycle.memoryIdAssignments.map (·.handle)).Nodup)
    "memory ID assignment handles must be unique"
  refuse (¬(cycle.memoryIdAssignments.map (·.memoryId)).Nodup)
    "assigned memory IDs must be unique"
  refuse (cycle.memoryIdAssignments.map (·.handle) ≠ cycle.expectedHandles)
    "memory ID assignments must exactly match created handles"

/-- Some of the outputs of a committed cycle are there. -/
def hasCommittedOutput (cycle : CycleRecordFields) : Bool :=
  cycle.budgetSettlement.isSome || cycle.validatedDelta.isSome || cycle.intervention.isSome

/-- A pending cycle carries nothing yet. -/
def checkPending (cycle : CycleRecordFields) : Check := do
  refuse (cycle.batchDigest ≠ none) "pending cycle cannot carry a batch digest"
  refuse (cycle.budgetReservation ≠ none ∨ cycle.hasCommittedOutput = true
      ∨ cycle.memoryIdAssignments ≠ [])
    "pending cycle cannot carry reservations or committed outputs"
  refuse (cycle.failureReason ≠ none) "pending cycle cannot carry a failure reason"
  refuse (cycle.modelCallDigests ≠ [] ∨ cycle.modelCallLatenciesUs ≠ [])
    "pending cycle cannot carry model-call receipts"

/-- A reserved or running cycle carries its reservation. -/
def checkActive (cycle : CycleRecordFields) : Check := do
  refuse (cycle.state = .running ∧ cycle.batchDigest = none)
    "running cycle requires a batch digest"
  refuse (cycle.budgetReservation = none)
    "reserved or running cycle requires a budget reservation"
  refuse (cycle.hasCommittedOutput = true ∨ cycle.memoryIdAssignments ≠ [])
    "uncommitted cycle cannot carry committed outputs"
  refuse (cycle.failureReason ≠ none) "uncommitted cycle cannot carry a failure reason"
  refuse (cycle.modelCallDigests ≠ [] ∨ cycle.modelCallLatenciesUs ≠ [])
    "uncommitted cycle cannot carry model-call receipts"

/-- `int(intervention.action is InterventionAction.REMIND)`. -/
def expectedInterventions (intervention : InterventionDecision) : ℕ :=
  if intervention.action = .remind then 1 else 0

/-- A committed cycle carries a reservation, a settlement, a delta and a verdict. -/
def checkCommitted (cycle : CycleRecordFields) : Check := do
  refuse (cycle.batchDigest = none) "committed cycle requires a batch digest"
  refuse (cycle.budgetReservation = none ∨ cycle.budgetSettlement = none
      ∨ cycle.validatedDelta = none ∨ cycle.intervention = none)
    "committed cycle requires reservation, settlement, and verdicts"
  refuse (cycle.failureReason ≠ none) "committed cycle cannot carry a failure reason"
  refuse (∃ settlement ∈ cycle.budgetSettlement, settlement.modelCalls < 1)
    "committed cycle must settle a model call"
  refuse (∃ settlement ∈ cycle.budgetSettlement,
      cycle.modelCallDigests.length ≠ settlement.modelCalls)
    "committed model-call digests must match settled calls"
  refuse (∃ settlement ∈ cycle.budgetSettlement, ∃ intervention ∈ cycle.intervention,
      settlement.interventions ≠ expectedInterventions intervention)
    "committed intervention usage must match its verdict"

/-- What a failure settles: the whole reservation if the cost is unknown, what the failed calls
cost otherwise. -/
def checkFailedSettlement (cycle : CycleRecordFields) : Check :=
  if cycle.failureReason = some .failedUnknownCost then do
    refuse (cycle.batchDigest = none ∨ cycle.budgetReservation = none)
      "failed_unknown_cost requires a running cycle"
    refuse (cycle.budgetSettlement ≠ cycle.budgetReservation)
      "failed_unknown_cost must consume the full reservation"
    refuse (∃ reservation ∈ cycle.budgetReservation,
        reservation.modelCalls < cycle.modelCallDigests.length)
      "known model-call receipts exceed the reservation"
  else match cycle.budgetSettlement with
    | none => .ok ()
    | some settlement => do
      refuse (settlement.interventions ≠ 0) "failed cycle cannot consume an intervention"
      match cycle.batchDigest with
      | none =>
        refuse (cycle.modelCallDigests ≠ [] ∨ cycle.modelCallLatenciesUs ≠ []
            ∨ settlement.modelCalls ≠ 0 ∨ settlement.inputTokens ≠ 0
            ∨ settlement.outputTokens ≠ 0 ∨ settlement.canonicalTokenEquivalents ≠ 0
            ∨ settlement.schemaRepairs ≠ 0)
          "failure before running cannot consume model usage"
      | some _ => do
        refuse (settlement.modelCalls < 1) "running failure must settle a model call"
        refuse (cycle.modelCallDigests.length ≠ settlement.modelCalls)
          "failed model-call digests must match settled calls"

/-- A failed cycle carries a reason, and a settlement if it had a reservation. -/
def checkFailed (cycle : CycleRecordFields) : Check := do
  refuse (cycle.failureReason = none) "failed cycle requires a failure reason"
  refuse (cycle.validatedDelta ≠ none ∨ cycle.intervention ≠ none)
    "failed cycle cannot carry committed mutations or intervention"
  refuse (cycle.budgetReservation = none
      ∧ (cycle.budgetSettlement ≠ none ∨ cycle.batchDigest ≠ none))
    "failure before reservation cannot carry settlement or batch"
  refuse (cycle.budgetReservation = none
      ∧ (cycle.modelCallDigests ≠ [] ∨ cycle.modelCallLatenciesUs ≠ []))
    "failure before reservation cannot carry model-call receipts"
  refuse (cycle.budgetReservation ≠ none ∧ cycle.budgetSettlement = none)
    "failed reserved cycle requires a budget settlement"
  cycle.checkFailedSettlement

/-- What a revision carries in its state. -/
def checkState (cycle : CycleRecordFields) : Check := do
  refuse (cycle.state ≠ .committed ∧ cycle.selectorProvenance ≠ none)
    "only a committed cycle can bind selector provenance"
  match cycle.state with
  | .pending => cycle.checkPending
  | .reserved | .running => cycle.checkActive
  | .committed => cycle.checkCommitted
  | .failed => cycle.checkFailed

/-- `validate_range_and_embedded_run`, after the field constraints. -/
def check [Hashing] (cycle : CycleRecordFields) : Check := do
  constrain (1 ≤ cycle.revision) "revision" "greater_than_equal"
  constrain (1 ≤ cycle.firstEventSequence) "first_event_sequence" "greater_than_equal"
  constrain (1 ≤ cycle.lastEventSequence) "last_event_sequence" "greater_than_equal"
  cycle.checkIdentity
  cycle.checkBudget
  cycle.checkAssignments
  cycle.checkState

end CycleRecordFields

/-- One revision of a memory cycle. -/
structure CycleRecord [Hashing] extends CycleRecordFields where
  valid : toCycleRecordFields.check = .ok ()
deriving DecidableEq

/-- `CycleRecord(...)`. -/
def CycleRecord.create [Hashing] (fields : CycleRecordFields) :
    Except ValidationError CycleRecord :=
  Checked.validate CycleRecordFields.check CycleRecord.mk fields

/-! ## Deliveries -/

/-- The fields of a delivery record. -/
structure DeliveryRecordFields where
  deliveryId : UUID4
  runId : UUID4
  revision : ℕ
  cycleId : Sha256Digest
  interventionId : UUID4
  renderedTextDigest : Sha256Digest
  targetRequestId : EventMetadataIdentifier
  target : DeliveryTarget
  state : DeliveryState
  attemptCount : ℕ
  adapterId : ComponentIdentifier
  adapterDeduplicates : Bool
  adapterDeduplicationGuarantee : DeduplicationGuarantee
  adapterSupportsPreAction : Bool
  adapterContractVersion : ComponentIdentifier
  adapterCapabilitiesDigest : Sha256Digest
  claimId : Option UUID4 := none
  attemptId : Option UUID4 := none
  receipt : Option JsonObject := none
  outcome : Option DeliveryOutcome := none
  reasonCode : Option ReasonCode := none
  createdAt : UtcDatetime
  updatedAt : UtcDatetime
deriving DecidableEq

namespace DeliveryRecordFields

/-- No receipt, outcome or reason. -/
def emptyResult (delivery : DeliveryRecordFields) : Prop :=
  delivery.receipt = none ∧ delivery.outcome = none ∧ delivery.reasonCode = none

instance (delivery : DeliveryRecordFields) : Decidable delivery.emptyResult :=
  inferInstanceAs (Decidable (_ ∧ _ ∧ _))

/-- A character of a provider receipt identity. -/
def isReceiptCharacter (c : Char) : Bool :=
  c.isAlphanum || ['.', '_', ':', '/', '+', '-'].contains c

/-- `{"provider_receipt_id": id}`, with an identity of 1 to 256 receipt characters that starts
with a letter or digit. -/
def isProviderReceipt (receipt : Option JsonObject) : Bool :=
  match receipt.map JsonObject.items with
  | some [("provider_receipt_id", .str id)] =>
    1 ≤ id.length && id.length ≤ 256 && id.toList.head?.any Char.isAlphanum
      && id.toList.all isReceiptCharacter
  | _ => false

/-- The reasons to reject a delivery. -/
def rejectionReasons : List ReasonCode :=
  [.unsupportedDeliveryTarget, .unsupportedDeliveryChannel, .unsafeRoleMapping, .targetUnavailable]

/-- An attempt was made, under a claim. -/
def attempted (delivery : DeliveryRecordFields) : Prop :=
  1 ≤ delivery.attemptCount ∧ delivery.claimId ≠ none ∧ delivery.attemptId ≠ none

instance (delivery : DeliveryRecordFields) : Decidable delivery.attempted :=
  inferInstanceAs (Decidable (_ ∧ _ ∧ _))

/-- What a revision carries in its state. -/
def checkState (delivery : DeliveryRecordFields) : Check :=
  match delivery.state with
  | .pending =>
    refuse (delivery.attemptCount ≠ 0 ∨ delivery.claimId ≠ none ∨ delivery.attemptId ≠ none
        ∨ ¬delivery.emptyResult)
      "pending delivery cannot have ownership, attempts, or outcome"
  | .claimed => do
    refuse (delivery.claimId = none ∨ delivery.attemptId ≠ none ∨ ¬delivery.emptyResult)
      "claimed delivery requires only a claim owner"
    refuse (0 < delivery.attemptCount ∧ delivery.adapterDeduplicates = false)
      "only a deduplicating adapter can reclaim an attempted delivery"
  | .attempting =>
    refuse (¬delivery.attempted ∨ ¬delivery.emptyResult)
      "attempting delivery requires claimed attempt ownership without an outcome"
  | .delivered =>
    refuse (¬delivery.attempted ∨ isProviderReceipt delivery.receipt = false
        ∨ delivery.outcome ≠ some .delivered ∨ delivery.reasonCode ≠ some .deliverySucceeded)
      "delivered state requires a bounded successful receipt"
  | .unknown =>
    refuse (¬delivery.attempted ∨ delivery.receipt ≠ none ∨ delivery.outcome ≠ some .unknown
        ∨ delivery.reasonCode ≠ some .deliveryUnknown)
      "unknown state requires an attempt and unknown outcome"
  | .failed =>
    refuse (¬delivery.attempted ∨ delivery.receipt ≠ none ∨ delivery.outcome ≠ some .failed
        ∨ delivery.reasonCode ≠ some .deliveryFailed)
      "failed state requires an attempt and failed outcome"
  | .rejected =>
    refuse (delivery.attemptId ≠ none ∨ delivery.receipt ≠ none
        ∨ delivery.outcome ≠ some .refused
        ∨ (∀ reason ∈ delivery.reasonCode, reason ∉ rejectionReasons)
        ∨ (delivery.claimId = none ∧ delivery.attemptCount ≠ 0)
        ∨ (0 < delivery.attemptCount ∧ delivery.adapterDeduplicates = false))
      "rejected state requires a safe refusal without a new attempt"

/-- `update_follows_creation`, after the field constraints. -/
def check (delivery : DeliveryRecordFields) : Check := do
  constrain (1 ≤ delivery.revision) "revision" "greater_than_equal"
  refuse (delivery.updatedAt < delivery.createdAt) "updated_at cannot precede created_at"
  refuse (delivery.adapterDeduplicates = false ∧ 1 < delivery.attemptCount)
    "a non-deduplicating adapter can be attempted at most once"
  refuse (delivery.adapterDeduplicates
      ≠ decide (delivery.adapterDeduplicationGuarantee = .durableDeliveryId))
    "adapter deduplication declaration is inconsistent"
  refuse (delivery.target = .preActionReplan ∧ 0 < delivery.attemptCount
      ∧ delivery.adapterSupportsPreAction = false)
    "pre-action delivery attempt requires interception capability"
  delivery.checkState

end DeliveryRecordFields

/-- One revision of the delivery of a reminder. -/
structure DeliveryRecord extends DeliveryRecordFields where
  valid : toDeliveryRecordFields.check = .ok ()
deriving DecidableEq

/-- `DeliveryRecord(...)`. -/
def DeliveryRecord.create (fields : DeliveryRecordFields) :
    Except ValidationError DeliveryRecord :=
  Checked.validate DeliveryRecordFields.check DeliveryRecord.mk fields

/-! ## The records of a ledger -/

/-- A record that a ledger holds. -/
inductive LedgerRecord [Hashing] where
  | traceEvent (event : TraceEvent)
  | signal (signal : Signal)
  | invocationDecision (decision : InvocationDecision)
  | cycleRecord (cycle : CycleRecord)
  | interventionOutcome (outcome : InterventionOutcome)
  | deliveryRecord (delivery : DeliveryRecord)
deriving DecidableEq

/-- `record.run_id`. -/
def LedgerRecord.runId [Hashing] : LedgerRecord → UUID4
  | .traceEvent event => event.runId
  | .signal record => record.runId
  | .invocationDecision decision => decision.runId
  | .cycleRecord cycle => cycle.runId
  | .interventionOutcome outcome => outcome.runId
  | .deliveryRecord delivery => delivery.runId

/-! ## What valid records satisfy -/

namespace CycleRecord

variable [Hashing] {cycle : CycleRecord}

/-- The parts of the check of a cycle. -/
theorem checks (cycle : CycleRecord) :
    1 ≤ cycle.revision ∧ 1 ≤ cycle.firstEventSequence ∧ cycle.checkIdentity = .ok ()
      ∧ cycle.checkBudget = .ok () ∧ cycle.checkAssignments = .ok ()
      ∧ cycle.checkState = .ok () := by
  have h := cycle.valid
  simp only [CycleRecordFields.check, Checked.check_bind_eq_ok, constrain_eq_ok] at h
  obtain ⟨hrev, hfirst, -, hid, hbudget, hassign, hstate⟩ := h
  exact ⟨hrev, hfirst, hid, hbudget, hassign, hstate⟩

/-- The event range of a cycle is not empty. -/
theorem first_le_last (cycle : CycleRecord) :
    1 ≤ cycle.firstEventSequence ∧ cycle.firstEventSequence ≤ cycle.lastEventSequence := by
  obtain ⟨-, hfirst, hid, -⟩ := cycle.checks
  simp only [CycleRecordFields.checkIdentity, refuse_bind_eq_ok] at hid
  exact ⟨hfirst, not_lt.mp hid.1⟩

/-- A settlement stays within the reservation of the same revision. -/
theorem settlement_le {settlement reservation : BudgetAmounts}
    (hs : cycle.budgetSettlement = some settlement)
    (hr : cycle.budgetReservation = some reservation) (field : BudgetField) :
    settlement.get field ≤ reservation.get field := by
  obtain ⟨-, -, -, hbudget, -⟩ := cycle.checks
  simp only [CycleRecordFields.checkBudget, refuse_bind_eq_ok, hs, hr, Option.mem_def,
    Option.some.injEq, exists_eq_left'] at hbudget
  exact not_lt.mp fun hlt => hbudget.2.2.1 ⟨field, mem_budgetFields field, hlt⟩

/-- The check of the state of a cycle, without the selector provenance. -/
theorem state_checks (cycle : CycleRecord) :
    (cycle.state ≠ .committed → cycle.selectorProvenance = none)
      ∧ (match cycle.state with
        | .pending => cycle.checkPending
        | .reserved | .running => cycle.checkActive
        | .committed => cycle.checkCommitted
        | .failed => cycle.checkFailed) = .ok () := by
  obtain ⟨-, -, -, -, -, hstate⟩ := cycle.checks
  simp only [CycleRecordFields.checkState, refuse_bind_eq_ok, not_and, not_not] at hstate
  exact hstate

/-- A pending cycle has no reservation, settlement or intervention. -/
theorem of_pending (h : cycle.state = .pending) :
    cycle.budgetReservation = none ∧ cycle.budgetSettlement = none
      ∧ cycle.intervention = none := by
  have hs := cycle.state_checks.2
  simp only [h, CycleRecordFields.checkPending, CycleRecordFields.hasCommittedOutput,
    refuse_bind_eq_ok, refuse_eq_ok, Bool.or_eq_true, not_or, not_not,
    Option.isSome_iff_ne_none] at hs
  obtain ⟨-, ⟨hres, ⟨⟨hset, -⟩, hint⟩, -⟩, -⟩ := hs
  exact ⟨hres, hset, hint⟩

/-- A reserved or running cycle has a reservation, and no settlement or intervention. -/
theorem of_active (h : cycle.state = .reserved ∨ cycle.state = .running) :
    cycle.budgetReservation ≠ none ∧ cycle.budgetSettlement = none
      ∧ cycle.intervention = none := by
  have hs := cycle.state_checks.2
  have hactive : cycle.checkActive = .ok () := by
    rcases h with h | h <;> simpa only [h] using hs
  simp only [CycleRecordFields.checkActive, CycleRecordFields.hasCommittedOutput,
    refuse_bind_eq_ok, refuse_eq_ok, Bool.or_eq_true, not_or, not_not,
    Option.isSome_iff_ne_none] at hactive
  obtain ⟨-, hres, ⟨⟨⟨hset, -⟩, hint⟩, -⟩, -⟩ := hactive
  exact ⟨hres, hset, hint⟩

/-- A committed cycle has a reservation, a settlement, a delta and an intervention. -/
theorem of_committed (h : cycle.state = .committed) :
    (∃ reservation, cycle.budgetReservation = some reservation)
      ∧ (∃ settlement, cycle.budgetSettlement = some settlement)
      ∧ (∃ delta, cycle.validatedDelta = some delta)
      ∧ ∃ intervention, cycle.intervention = some intervention := by
  have hs := cycle.state_checks.2
  simp only [h, CycleRecordFields.checkCommitted, refuse_bind_eq_ok, not_or] at hs
  obtain ⟨-, ⟨hres, hset, hdelta, hint⟩, -⟩ := hs
  exact ⟨Option.ne_none_iff_exists'.mp hres, Option.ne_none_iff_exists'.mp hset,
    Option.ne_none_iff_exists'.mp hdelta, Option.ne_none_iff_exists'.mp hint⟩

/-- A failed cycle has no intervention, and a settlement exactly when it has a reservation. -/
theorem of_failed (h : cycle.state = .failed) :
    cycle.intervention = none
      ∧ (cycle.budgetReservation = none ↔ cycle.budgetSettlement = none) := by
  have hs := cycle.state_checks.2
  simp only [h, CycleRecordFields.checkFailed, refuse_bind_eq_ok, not_or, not_and, not_not] at hs
  obtain ⟨-, ⟨-, hint⟩, hbefore, -, hafter, -⟩ := hs
  refine ⟨hint, fun hres => (hbefore hres).1, fun hset => ?_⟩
  by_contra hres
  exact hafter hres hset

/-- An intervention belongs to the cycle that carries it, and to its run. -/
theorem intervention_ids {intervention : InterventionDecision}
    (h : cycle.intervention = some intervention) :
    intervention.runId = cycle.runId ∧ intervention.cycleId = cycle.cycleId := by
  obtain ⟨-, -, hid, -⟩ := cycle.checks
  simp only [CycleRecordFields.checkIdentity, refuse_bind_eq_ok, h, Option.mem_def,
    Option.some.injEq, exists_eq_left', not_not] at hid
  exact ⟨hid.2.2.2.2.1, hid.2.2.2.2.2.1⟩

end CycleRecord

/-- Deliveries are numbered from 1. -/
theorem DeliveryRecord.one_le_revision (delivery : DeliveryRecord) : 1 ≤ delivery.revision := by
  have hvalid := delivery.valid
  simp only [DeliveryRecordFields.check, constrain_bind_eq_ok] at hvalid
  exact hvalid.1

/-- A pending delivery has no attempts. -/
theorem DeliveryRecord.attemptCount_pending {delivery : DeliveryRecord}
    (h : delivery.state = .pending) : delivery.attemptCount = 0 := by
  have hvalid := delivery.valid
  simp only [DeliveryRecordFields.check, DeliveryRecordFields.checkState, h,
    constrain_bind_eq_ok, refuse_bind_eq_ok, refuse_eq_ok, not_or, not_not] at hvalid
  exact hvalid.2.2.2.2.2.1

end SalienceGate
