import SalienceGate.Domain.Evidence
import SalienceGate.Domain.Ids

/-!
# The records of a run

Memory records and the deltas that change them, invocation decisions, interventions and their
outcomes, cycles and deliveries. Each record is its fields together with the fact that its check
passed: the field constraints first, then the validators with their messages, in the order of the
source.
-/

namespace SalienceGate

/-! ## Memory records -/

/-- The bounds of a memory delta. -/
def maxMemoryContentBytes : ℕ := 64 * 1024

@[inherit_doc maxMemoryContentBytes]
def maxMemoryDeltaItems : ℕ := 64

@[inherit_doc maxMemoryContentBytes]
def maxMemoryProvenanceItems : ℕ := 8

/-- The fields of a memory record. -/
structure MemoryRecordFields where
  memoryId : UUID4
  runId : UUID4
  kind : MemoryKind
  content : NonEmptyString
  provenance : List EvidenceReference
  confidence : UnitInterval
  validity : ValidityState
  revision : ℕ
  createdAt : UtcDatetime
  updatedAt : UtcDatetime
  accessCount : ℕ := 0
  lastAccessedAt : Option UtcDatetime := none
  expiresAt : Option UtcDatetime := none
  invalidatedAt : Option UtcDatetime := none
  trustLabel : TrustLabel
deriving DecidableEq

/-- `timestamps_follow_creation`, after the field constraints. -/
def MemoryRecordFields.check (record : MemoryRecordFields) : Check := do
  constrain (1 ≤ record.provenance.length) "provenance" "too_short"
  constrain (1 ≤ record.revision) "revision" "greater_than_equal"
  refuse (record.updatedAt < record.createdAt) "updated_at cannot precede created_at"
  refuse (∃ t ∈ record.lastAccessedAt, t < record.createdAt)
    "last_accessed_at cannot precede created_at"
  refuse (∃ t ∈ record.expiresAt, t ≤ record.createdAt) "expires_at must follow created_at"
  refuse (record.validity = .invalidated ∧ record.invalidatedAt = none)
    "invalidated memory requires invalidated_at"
  refuse (record.validity ≠ .invalidated ∧ record.invalidatedAt ≠ none)
    "only invalidated memory can carry invalidated_at"
  refuse (∃ t ∈ record.invalidatedAt, t < record.createdAt)
    "invalidated_at cannot precede created_at"

/-- One revision of a memory. -/
structure MemoryRecord extends MemoryRecordFields where
  valid : toMemoryRecordFields.check = .ok ()
deriving DecidableEq

/-- `MemoryRecord(...)`. -/
def MemoryRecord.create (fields : MemoryRecordFields) : Except ValidationError MemoryRecord :=
  Checked.validate MemoryRecordFields.check MemoryRecord.mk fields

/-! ## Invocation decisions -/

/-- `_FORCED_INVOKE_REASON_CODES`. -/
def forcedInvokeReasonCodes : List ReasonCode :=
  [.policyAlways, .scriptedInvoke, .bootstrap, .watchdog, .hardSignal, .riskThresholdMet]

/-- `_FORCED_SILENCE_REASON_CODES`. -/
def forcedSilenceReasonCodes : List ReasonCode :=
  [.policyNever, .scriptedSilence, .scriptExhausted, .budgetExhausted, .cooldownActive,
    .riskBelowThreshold]

/-- `_RISK_THRESHOLD_REASON_CODES`. -/
def riskThresholdReasonCodes : List ReasonCode := [.riskThresholdMet, .riskBelowThreshold]

/-- `_SIGNAL_REASON_CODES`. -/
def signalReasonCodes : List ReasonCode :=
  [.toolError, .testFailure, .repeatedAction, .repeatedFailure, .contextShift, .staleConstraint,
    .stagnation, .irreversibleAction, .conflict]

/-- `_INVOCATION_REASON_CODES`. -/
def invocationReasonCodes : List ReasonCode :=
  forcedInvokeReasonCodes ++ forcedSilenceReasonCodes ++ signalReasonCodes

/-- The fields of an invocation decision. -/
structure InvocationDecisionFields where
  decisionId : UUID4
  runId : UUID4
  eventSequence : ℕ
  invoke : Bool
  riskScore : Option UnitInterval
  reasonCodes : List ReasonCode
  policyVersion : ComponentIdentifier
  configurationDigest : Sha256Digest
  budgetSnapshot : BudgetSnapshot
  cooldownActive : Bool
  createdAt : UtcDatetime
deriving DecidableEq

/-- `reasons_match_decision`, after the field constraints. -/
def InvocationDecisionFields.check (decision : InvocationDecisionFields) : Check := do
  let reasons := decision.reasonCodes
  constrain (1 ≤ decision.eventSequence) "event_sequence" "greater_than_equal"
  constrain (1 ≤ reasons.length) "reason_codes" "too_short"
  constrain (reasons.length ≤ invocationReasonCodes.length) "reason_codes" "too_long"
  refuse (¬reasons.Nodup) "invocation reason_codes must be unique"
  refuse (∃ reason ∈ reasons, reason ∉ invocationReasonCodes)
    "reason_codes contain a non-invocation reason"
  refuse (decision.invoke = false ∧ ∃ reason ∈ reasons, reason ∈ forcedInvokeReasonCodes)
    "forced-invocation reason requires invoke=True"
  refuse (decision.invoke = true ∧ ∃ reason ∈ reasons, reason ∈ forcedSilenceReasonCodes)
    "forced-silence reason requires invoke=False"
  refuse (decision.riskScore = none ∧ ∃ reason ∈ reasons, reason ∈ riskThresholdReasonCodes)
    "risk-threshold reason requires risk_score"
  refuse (.cooldownActive ∈ reasons ∧ decision.cooldownActive = false)
    "cooldown_active reason requires cooldown_active=True"

/-- Whether a memory cycle is invoked at an event. -/
structure InvocationDecision extends InvocationDecisionFields where
  valid : toInvocationDecisionFields.check = .ok ()
deriving DecidableEq

/-! ## Memory deltas -/

/-- The fields of a memory creation. -/
structure MemoryCreateFields where
  handle : NonEmptyString
  kind : MemoryKind
  content : NonEmptyString
  provenance : List EvidenceReference
  confidence : UnitInterval
  trustLabel : TrustLabel
  expiresAt : Option UtcDatetime := none
deriving DecidableEq

/-- The check of a creation. -/
def MemoryCreateFields.check (create : MemoryCreateFields) : Check := do
  constrain (create.handle.text.length ≤ 256) "handle" "string_too_long"
  refuse (maxMemoryContentBytes < create.content.text.utf8ByteSize)
    "memory content exceeds its UTF-8 byte bound"
  constrain (1 ≤ create.provenance.length) "provenance" "too_short"
  constrain (create.provenance.length ≤ maxMemoryProvenanceItems) "provenance" "too_long"

/-- A memory that a delta creates, under a handle. -/
structure MemoryCreate extends MemoryCreateFields where
  valid : toMemoryCreateFields.check = .ok ()
deriving DecidableEq

/-- The fields of an expiration patch. -/
structure ExpirationPatchFields where
  action : ExpirationAction := .keep
  value : Option UtcDatetime := none
deriving DecidableEq

/-- `match_action_and_value`. -/
def ExpirationPatchFields.check (patch : ExpirationPatchFields) : Check := do
  refuse (patch.action = .set ∧ patch.value = none) "setting expiration requires a timestamp"
  refuse (patch.action ≠ .set ∧ patch.value ≠ none)
    "only an expiration set operation can carry a timestamp"

/-- What an update does to an expiration. -/
structure ExpirationPatch extends ExpirationPatchFields where
  valid : toExpirationPatchFields.check = .ok ()
deriving DecidableEq

/-- The fields of a memory update. -/
structure MemoryUpdateFields where
  memoryId : UUID4
  expectedRevision : ℕ
  content : Option NonEmptyString := none
  provenance : Option (List EvidenceReference) := none
  confidence : Option UnitInterval := none
  expiration : ExpirationPatch := ⟨{}, by decide⟩
deriving DecidableEq

/-- `include_a_change`, after the field constraints. -/
def MemoryUpdateFields.check (update : MemoryUpdateFields) : Check := do
  constrain (1 ≤ update.expectedRevision) "expected_revision" "greater_than_equal"
  refuse (∃ content ∈ update.content, maxMemoryContentBytes < content.text.utf8ByteSize)
    "memory content exceeds its UTF-8 byte bound"
  constrain (∀ provenance ∈ update.provenance, 1 ≤ provenance.length) "provenance" "too_short"
  constrain (∀ provenance ∈ update.provenance, provenance.length ≤ maxMemoryProvenanceItems)
    "provenance" "too_long"
  refuse ((update.content = none ∧ update.provenance = none ∧ update.confidence = none)
      ∧ update.expiration.action = .keep)
    "memory update must include at least one changed field"

/-- A change of a memory. -/
structure MemoryUpdate extends MemoryUpdateFields where
  valid : toMemoryUpdateFields.check = .ok ()
deriving DecidableEq

/-- The fields of a memory invalidation. -/
structure MemoryInvalidationFields where
  memoryId : UUID4
  expectedRevision : ℕ
  reasonCode : ReasonCode
deriving DecidableEq

/-- The check of an invalidation. -/
def MemoryInvalidationFields.check (invalidation : MemoryInvalidationFields) : Check :=
  constrain (1 ≤ invalidation.expectedRevision) "expected_revision" "greater_than_equal"

/-- The end of a memory. -/
structure MemoryInvalidation extends MemoryInvalidationFields where
  valid : toMemoryInvalidationFields.check = .ok ()
deriving DecidableEq

/-- The fields of a private-status replacement. -/
structure PrivateStatusReplacementFields where
  expectedMemoryId : Option UUID4 := none
  expectedRevision : Option ℕ := none
  replacement : MemoryCreate
deriving DecidableEq

/-- `validate_expected_revision_and_kind`, after the field constraints. -/
def PrivateStatusReplacementFields.check (replacement : PrivateStatusReplacementFields) :
    Check := do
  constrain (replacement.expectedRevision ≠ some 0) "expected_revision" "greater_than_equal"
  refuse (replacement.expectedMemoryId.isNone ≠ replacement.expectedRevision.isNone)
    "expected private-status ID and revision must be supplied together"
  refuse (replacement.replacement.kind ≠ .privateStatus)
    "private-status replacement must have kind private_status"

/-- A new private status, and the one it supersedes. -/
structure PrivateStatusReplacement extends PrivateStatusReplacementFields where
  valid : toPrivateStatusReplacementFields.check = .ok ()
deriving DecidableEq

/-- The fields of a memory delta. -/
structure MemoryDeltaFields where
  deltaId : UUID4
  runId : UUID4
  creates : List MemoryCreate := []
  updates : List MemoryUpdate := []
  invalidations : List MemoryInvalidation := []
  privateStatusReplacement : Option PrivateStatusReplacement := none
  createdAt : UtcDatetime
deriving DecidableEq

/-- The handles that a delta creates, the replacement's last. -/
def MemoryDeltaFields.handles (delta : MemoryDeltaFields) : List NonEmptyString :=
  delta.creates.map (·.handle)
    ++ delta.privateStatusReplacement.toList.map (·.replacement.handle)

/-- `keep_private_status_in_its_replacement_channel`, after the field constraints. -/
def MemoryDeltaFields.check (delta : MemoryDeltaFields) : Check := do
  constrain (delta.creates.length ≤ maxMemoryDeltaItems) "creates" "too_long"
  constrain (delta.updates.length ≤ maxMemoryDeltaItems) "updates" "too_long"
  constrain (delta.invalidations.length ≤ maxMemoryDeltaItems) "invalidations" "too_long"
  refuse (∃ item ∈ delta.creates, item.kind = .privateStatus)
    "private status must use private_status_replacement"
  refuse (¬delta.handles.Nodup) "memory create handles must be unique within a delta"
  refuse (¬(delta.updates.map (·.memoryId)).Nodup)
    "a delta cannot update the same memory more than once"
  refuse (¬(delta.invalidations.map (·.memoryId)).Nodup)
    "a delta cannot invalidate the same memory more than once"
  refuse (∃ id ∈ delta.updates.map (·.memoryId), id ∈ delta.invalidations.map (·.memoryId))
    "a delta cannot both update and invalidate the same memory"

/-- The memory changes of a cycle. -/
structure MemoryDelta extends MemoryDeltaFields where
  valid : toMemoryDeltaFields.check = .ok ()
deriving DecidableEq

/-! ## Interventions -/

/-- The fields of an intervention claim. -/
structure InterventionClaimFields where
  kind : ClaimKind
  fields : JsonObject
  evidence : List EvidenceReference
deriving DecidableEq

/-- `reject_duplicate_evidence`, after the field constraints. -/
def InterventionClaimFields.check (claim : InterventionClaimFields) : Check := do
  constrain (1 ≤ claim.evidence.length) "evidence" "too_short"
  constrain (claim.evidence.length ≤ 8) "evidence" "too_long"
  refuse (¬claim.evidence.Nodup) "claim evidence cannot contain duplicates"

/-- A claim of a reminder, with the evidence for it. -/
structure InterventionClaim extends InterventionClaimFields where
  valid : toInterventionClaimFields.check = .ok ()
deriving DecidableEq

/-- `InterventionClaim(...)`. -/
def InterventionClaim.create (fields : InterventionClaimFields) :
    Except ValidationError InterventionClaim :=
  Checked.validate InterventionClaimFields.check InterventionClaim.mk fields

/-- `_cited_ids`: the identities that the claims cite from a source, in order of first citation. -/
def citedIds (claims : List InterventionClaim) (source : EvidenceSource) : List UUID4 :=
  ((claims.flatMap (·.evidence)).filter (·.source = source)).map (·.sourceId) |>.eraseDups

/-- `_SILENCE_REASON_CODES`. -/
def silenceReasonCodes : List ReasonCode :=
  [.silenceSelected, .noGroundedClaims, .schemaInvalid, .claimOverLimit, .citationMissing,
    .citationCrossRun, .citationExpired, .citationInvalidated, .invalidProvenance, .ungrounded,
    .duplicateReminder, .cooldownBlocked, .unsupportedDeliveryTarget]

/-- The fields of an intervention decision. -/
structure InterventionDecisionFields where
  interventionId : UUID4
  runId : UUID4
  cycleId : Sha256Digest
  groundingVersion : ComponentIdentifier
  groundingConfiguration : JsonObject
  groundingConfigurationDigest : Sha256Digest
  groundingReceipt : JsonObject
  action : InterventionAction
  deliveryTarget : Option DeliveryTarget := none
  claims : List InterventionClaim := []
  renderedText : Option NonEmptyString := none
  citedMemoryIds : List UUID4 := []
  citedEventIds : List UUID4 := []
  confidence : UnitInterval
  reasonCode : ReasonCode
  ttlSteps : ℕ := 0
  createdAt : UtcDatetime
deriving DecidableEq

/-- `match_action_to_delivery`, after the field constraints. -/
def InterventionDecisionFields.check (decision : InterventionDecisionFields) : Check := do
  constrain (decision.claims.length ≤ 2) "claims" "too_long"
  refuse (decision.citedMemoryIds ≠ citedIds decision.claims .memory)
    "cited_memory_ids must match structured claim evidence"
  refuse (decision.citedEventIds ≠ citedIds decision.claims .event)
    "cited_event_ids must match structured claim evidence"
  match decision.action with
  | .silence =>
    refuse (decision.deliveryTarget ≠ none ∨ decision.renderedText ≠ none)
      "silence cannot carry a delivery target or rendered text"
    refuse (decision.claims ≠ [] ∨ decision.citedMemoryIds ≠ [] ∨ decision.citedEventIds ≠ [])
      "silence cannot carry claims or citation indexes"
    refuse (decision.reasonCode ∉ silenceReasonCodes)
      "silence must use an allowlisted grounding reason"
    refuse (decision.ttlSteps ≠ 0) "silence must have a zero-step time-to-live"
  | .remind =>
    refuse (decision.reasonCode ≠ .groundedReminder)
      "a reminder must use the grounded_reminder reason"
    refuse (decision.deliveryTarget = none) "a reminder requires a delivery target"
    refuse (decision.claims = []) "a reminder requires at least one structured claim"
    refuse (decision.renderedText = none) "a reminder requires deterministically rendered text"
    refuse (decision.ttlSteps ≠ 1) "a reminder requires a one-step time-to-live"

/-- The verdict of a cycle. -/
structure InterventionDecision extends InterventionDecisionFields where
  valid : toInterventionDecisionFields.check = .ok ()
deriving DecidableEq

/-- `InterventionDecision(...)`. -/
def InterventionDecision.create (fields : InterventionDecisionFields) :
    Except ValidationError InterventionDecision :=
  Checked.validate InterventionDecisionFields.check InterventionDecision.mk fields

/-- Python's `==` on claims: the fields are compared as JSON. -/
def InterventionClaim.pyEq (a b : InterventionClaim) : Bool :=
  a.kind = b.kind && Json.pyEq a.fields.json b.fields.json && a.evidence = b.evidence

/-- Python's `==` on interventions: the JSON objects inside are compared as JSON. -/
def InterventionDecision.pyEq (a b : InterventionDecision) : Bool :=
  (a.interventionId = b.interventionId && a.runId = b.runId && a.cycleId = b.cycleId
    && a.groundingVersion = b.groundingVersion
    && a.groundingConfigurationDigest = b.groundingConfigurationDigest && a.action = b.action
    && a.deliveryTarget = b.deliveryTarget && a.renderedText = b.renderedText
    && a.citedMemoryIds = b.citedMemoryIds && a.citedEventIds = b.citedEventIds
    && a.confidence.value.pyEq b.confidence.value && a.reasonCode = b.reasonCode
    && a.ttlSteps = b.ttlSteps && a.createdAt = b.createdAt)
  && (Json.pyEq a.groundingConfiguration.json b.groundingConfiguration.json
    && Json.pyEq a.groundingReceipt.json b.groundingReceipt.json)
  && (a.claims.length = b.claims.length
    && (a.claims.zip b.claims).all fun pair => pair.1.pyEq pair.2)

/-- The fields of an intervention outcome. -/
structure InterventionOutcomeFields where
  outcomeId : UUID4
  runId : UUID4
  interventionId : UUID4
  nextActionFingerprint : Option Sha256Digest := none
  repeatedErrorStatus : RepeatedErrorStatus
  constraintStatus : ConstraintStatus
  evidenceMode : OutcomeEvidenceMode
  utility : Option UtilityLabel := none
  actionChanged : Option Bool := none
  taskReward : Option Float64 := none
  taskPassed : Option Bool := none
  steps : ℕ := 0
  toolCalls : ℕ := 0
  memoryCalls : ℕ := 0
  inputTokens : ℕ := 0
  outputTokens : ℕ := 0
  canonicalTokenEquivalents : ℕ := 0
  latencyUs : ℕ := 0
  createdAt : UtcDatetime
deriving DecidableEq

/-- `keep_policy_replay_noncausal`, after the field constraints. -/
def InterventionOutcomeFields.check (outcome : InterventionOutcomeFields) : Check := do
  constrain (∀ reward ∈ outcome.taskReward, reward.isFinite = true) "task_reward" "finite_number"
  refuse (outcome.evidenceMode = .policyReplay ∧ outcome.utility ≠ none)
    "policy replay cannot assign a causal utility label"

/-- What happened after an intervention. -/
structure InterventionOutcome extends InterventionOutcomeFields where
  valid : toInterventionOutcomeFields.check = .ok ()
deriving DecidableEq

/-- The memory identity that a handle of a delta gets. -/
structure MemoryIdAssignment where
  handle : NonEmptyString
  memoryId : UUID4
deriving DecidableEq

end SalienceGate
