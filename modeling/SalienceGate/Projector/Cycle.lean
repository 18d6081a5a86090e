import SalienceGate.Projector.Memory

/-!
# Cycles in the projection

`applyCycle` stores a revision of a cycle: the checks of its decision and event range, of the
transition from the revision before, and of its budget. A commit also applies the memory delta and
verifies the intervention against the state that its receipt cites, which
`authoritativelyVerifyIntervention` selects from the projection.
-/

namespace SalienceGate

open Checked

variable [Hashing]

/-! ## Verifying an intervention -/

/-- The loop over the claims: the records that they cite from a source, added to `selected`. -/
def selectCited {ν : Type} (source : EvidenceSource) (lookup : UUID4 → Option ν) (key : ν → UUID4)
    (claims : List ProposedClaim) (selected : Dict UUID4 ν) : Dict UUID4 ν :=
  claims.foldl
    (fun selected claim =>
      if claim.evidence.source = source then
        match lookup claim.evidence.sourceId with
        | some record => selected.set (key record) record
        | none => selected
      else selected)
    selected

/-- The events that a grounding is verified with: the current one, and those that claims cite. -/
def selectedEvents (projection : Projection) (current : TraceEvent) (claims : List ProposedClaim) :
    Dict UUID4 TraceEvent :=
  selectCited .event projection.eventsById.get? (·.eventId) claims
    (Dict.empty.set current.eventId current)

/-- The memories that claims cite. -/
def selectedMemories (projection : Projection) (claims : List ProposedClaim) :
    Dict UUID4 MemoryRecord :=
  selectCited .memory projection.memories.get? (·.memoryId) claims .empty

/-- An earlier reminder, as the history of a grounding holds it. -/
def reminderHistory (sequence : ℕ) (prior : InterventionDecision) :
    Except GroundingError ReminderHistory := do
  let claimDigests ← expect (prior.claims.mapM claimFingerprint)
    (.validation (.validator "claim input failed validation"))
  built (ReminderHistory.create ⟨prior.interventionId, prior.runId, sequence, claimDigests⟩)

/-- The reminders at the sequences from `first` up to `last`, without `last`. -/
def remindersBetween (projection : Projection) (first last : ℕ) :
    Except GroundingError (List ReminderHistory) :=
  ((List.range' first (last - first)).filterMap fun sequence =>
      (projection.reminderInterventionsBySequence.get? sequence).map fun prior =>
        (sequence, prior)).mapM
    fun item => reminderHistory item.1 item.2

/-- The order of the events of a grounding state. -/
def eventOrder (a b : TraceEvent) : Prop :=
  a.sequence < b.sequence
    ∨ (a.sequence = b.sequence ∧ a.eventId.int.toNat ≤ b.eventId.int.toNat)

instance (a b : TraceEvent) : Decidable (eventOrder a b) := inferInstanceAs (Decidable (_ ∨ _ ∧ _))

/-- The longer of the windows in which a reminder can block another one. -/
def historyWindow (configuration : GroundingConfig) : ℕ :=
  max configuration.duplicateWindowEvents configuration.cooldownEvents

/-- The state that an intervention is verified with. -/
def boundedState (projection : Projection) (configuration : GroundingConfig)
    (current : TraceEvent) (claims : List ProposedClaim) (lastEventSequence : ℕ) :
    Except GroundingError GroundingState := do
  let history ← remindersBetween projection
    (max 1 (lastEventSequence - historyWindow configuration)) lastEventSequence
  built (GroundingState.create {
    events := (selectedEvents projection current claims).values.insertionSort eventOrder
    memories := (selectedMemories projection claims).values.insertionSort fun a b =>
      a.memoryId.int.toNat ≤ b.memoryId.int.toNat
    reminderHistory := history })

/-- The context of a cycle's verdict. -/
def cycleGroundingContext (cycle : CycleRecord) (intervention : InterventionDecision)
    (receipt : GroundingReceipt) : Except GroundingError GroundingContext :=
  built (GroundingContext.create {
    modelSchema := receipt.receiptVersion = .v1
    interventionId := intervention.interventionId
    runId := intervention.runId
    cycleId := cycle.cycleId
    currentEventSequence := cycle.lastEventSequence
    createdAt := intervention.createdAt
    requestedDeliveryTarget := cycle.requestedDeliveryTarget
    modelCallIndex := receipt.modelCallIndex
    modelCallDigest := receipt.modelCallDigest
    selectorProvenance := receipt.selectorProvenance })

/-- The selector provenance of a cycle, which must be in its own JSON form. -/
def cycleSelectorProvenance (cycle : CycleRecord) :
    Except GroundingError (Option DeterministicSelectorProvenance) :=
  match cycle.selectorProvenance with
  | none => .ok none
  | some object => do
    let provenance ← expect (DeterministicSelectorProvenance.codec.load object.json) .verification
    raiseIf (DeterministicSelectorProvenance.codec.dump provenance ≠ object.json) .verification
    pure (some provenance)

/-- `model_provenance_invalid or selector_provenance_invalid`: the receipt names a model call of
the cycle, or its selector. -/
def receiptProvenanceInvalid (cycle : CycleRecord) (receipt : GroundingReceipt)
    (selectorProvenance : Option DeterministicSelectorProvenance) : Prop :=
  match receipt.receiptVersion with
  | .v1 => selectorProvenance.isSome = true ∨ receipt.modelCallIndex = none
      ∨ receipt.modelCallDigest = none
      ∨ ∃ index ∈ receipt.modelCallIndex,
        cycle.modelCallDigests[index]? ≠ receipt.modelCallDigest
  | .v2 => selectorProvenance = none ∨ receipt.selectorProvenance ≠ selectorProvenance

instance (cycle : CycleRecord) (receipt : GroundingReceipt)
    (selectorProvenance : Option DeterministicSelectorProvenance) :
    Decidable (receiptProvenanceInvalid cycle receipt selectorProvenance) := by
  unfold receiptProvenanceInvalid
  split <;> infer_instance

/-- The body of `_authoritatively_verify_intervention`. -/
def verifyIntervention (projection : Projection) (cycle : CycleRecord)
    (intervention : InterventionDecision) : Except GroundingError Unit := do
  let pin ← (resolvedCycleGrounding cycle).mapError fun _ => .verification
  let receipt ← expect (GroundingReceipt.modelValidateJson intervention.groundingReceipt)
    .verification
  let selectorProvenance ← cycleSelectorProvenance cycle
  raiseIf (intervention.groundingVersion ≠ cycle.groundingVersion
      ∨ intervention.groundingConfigurationDigest ≠ cycle.groundingConfigurationDigest
      ∨ intervention.groundingConfiguration ≠ cycle.groundingConfiguration
      ∨ receipt.requestedDeliveryTarget ≠ cycle.requestedDeliveryTarget
      ∨ receiptProvenanceInvalid cycle receipt selectorProvenance) .verification
  let current ← expect (projection.eventsBySequence.get? cycle.lastEventSequence) .verification
  let context ← cycleGroundingContext cycle intervention receipt
  let state ← boundedState projection pin.1 current receipt.claims cycle.lastEventSequence
  verifyGroundedIntervention intervention context state pin.2

/-- `_authoritatively_verify_intervention`. -/
def authoritativelyVerifyIntervention (projection : Projection) (cycle : CycleRecord)
    (intervention : InterventionDecision) : Except RepositoryError Unit :=
  (verifyIntervention projection cycle intervention).mapError fun _ =>
    .projectionInvariant "grounded intervention failed authoritative verification"

/-! ## The budget of a cycle -/

/-- The part of `_validate_cycle_budget` for a reservation that the cycle did not have before. -/
def validateReservation (cycle : CycleRecord) (projection : Projection)
    (previous : Option CycleRecord) : Except RepositoryError Unit :=
  match cycle.budgetReservation, previous.bind (·.budgetReservation) with
  | some reservation, none => do
    raiseIf (reservation.modelCalls < 1)
      (.projectionInvariant "cycle reservation requires a model call")
    let snapshot ← budgetSnapshot projection
    raiseIf (∃ field ∈ budgetFields, (snapshot.limits.get field : ℤ) - snapshot.reserved.get field
        - snapshot.consumed.get field < reservation.get field)
      (.projectionInvariant "cycle reservation exceeds the decision budget")
  | _, _ => .ok ()

/-- The part of `_validate_cycle_budget` for the settlement and the model calls. -/
def validateSettlement (cycle : CycleRecord) (decision : InvocationDecision) :
    Except RepositoryError Unit := do
  raiseIf (∃ settlement ∈ cycle.budgetSettlement, ∀ reservation ∈ cycle.budgetReservation,
      ∃ field ∈ budgetFields, reservation.get field < settlement.get field)
    (.projectionInvariant "cycle settlement exceeds its reservation")
  raiseIf (cycle.modelCallDigests.length ≠ cycle.modelCallLatenciesUs.length)
    (.projectionInvariant "cycle model-call receipts are incomplete")
  raiseIf (∃ settlement ∈ cycle.budgetSettlement,
      settlement.latencyUs < cycle.modelCallLatenciesUs.sum)
    (.projectionInvariant "model-call latency exceeds settled cycle latency")
  raiseIf (∃ latencyUs ∈ cycle.modelCallLatenciesUs,
      decision.budgetSnapshot.limits.maxCallLatencyUs < latencyUs)
    (.projectionInvariant "model call exceeds the per-call latency limit")

/-- The part of `_validate_cycle_budget` for a committed cycle. -/
def validateCommittedBudget (cycle : CycleRecord) : Except RepositoryError Unit := do
  let settlement ← expect cycle.budgetSettlement
    (.projectionInvariant "committed cycle is missing its settlement")
  raiseIf (settlement.modelCalls < 1)
    (.projectionInvariant "committed cycle must settle a model call")
  raiseIf (cycle.modelCallDigests.length ≠ settlement.modelCalls)
    (.projectionInvariant "committed cycle call digests do not match settled calls")
  let intervention ← expect cycle.intervention
    (.projectionInvariant "committed cycle is missing its intervention")
  raiseIf (settlement.interventions ≠ CycleRecordFields.expectedInterventions intervention)
    (.projectionInvariant "committed cycle intervention usage does not match its verdict")

/-- The part of `_validate_cycle_budget` for a failed cycle. -/
def validateFailedBudget (cycle : CycleRecord) (previous : Option CycleRecord) :
    Except RepositoryError Unit :=
  match cycle.budgetSettlement with
  | none => .ok ()
  | some settlement =>
    if cycle.failureReason = some .failedUnknownCost then .ok ()
    else do
      raiseIf (settlement.interventions ≠ 0)
        (.projectionInvariant "failed cycle cannot consume an intervention")
      raiseIf (cycle.modelCallDigests.length ≠ settlement.modelCalls)
        (.projectionInvariant "failed cycle call digests do not match settled calls")
      raiseIf ((∃ p ∈ previous, p.state = .reserved) ∧ (settlement.modelCalls ≠ 0
          ∨ settlement.inputTokens ≠ 0 ∨ settlement.outputTokens ≠ 0
          ∨ settlement.canonicalTokenEquivalents ≠ 0 ∨ settlement.schemaRepairs ≠ 0))
        (.projectionInvariant "failure before running cannot consume model usage")
      raiseIf ((∃ p ∈ previous, p.state = .running) ∧ settlement.modelCalls < 1)
        (.projectionInvariant "running failure must settle a model call")

/-- `_validate_cycle_budget`. -/
def validateCycleBudget (cycle : CycleRecord) (decision : InvocationDecision)
    (projection : Projection) (previous : Option CycleRecord) : Except RepositoryError Unit := do
  validateReservation cycle projection previous
  validateSettlement cycle decision
  match cycle.state with
  | .committed => validateCommittedBudget cycle
  | .failed => validateFailedBudget cycle previous
  | _ => .ok ()

/-! ## Transitions -/

/-- `_CYCLE_TRANSITIONS`. -/
def cycleTransitions : CycleState → List CycleState
  | .pending => [.reserved, .failed]
  | .reserved => [.running, .failed]
  | .running => [.committed, .failed]
  | .committed | .failed => []

/-- `existing.state in (PENDING, RESERVED, RUNNING)`. -/
def CycleState.isActive (state : CycleState) : Bool :=
  state ∈ [CycleState.pending, .reserved, .running]

/-- The fields of a cycle that no revision changes. -/
structure CycleIdentity where
  runId : UUID4
  invocationDecisionId : UUID4
  policyVersion : ComponentIdentifier
  configurationDigest : Sha256Digest
  groundingVersion : ComponentIdentifier
  groundingConfigurationDigest : Sha256Digest
  requestedDeliveryTarget : Option DeliveryTarget
  firstEventSequence : ℕ
  lastEventSequence : ℕ
  createdAt : UtcDatetime
  groundingConfiguration : JsonObject
deriving DecidableEq

/-- `immutable_fields`, with the grounding configuration. -/
def CycleRecord.identity (cycle : CycleRecord) : CycleIdentity where
  runId := cycle.runId
  invocationDecisionId := cycle.invocationDecisionId
  policyVersion := cycle.policyVersion
  configurationDigest := cycle.configurationDigest
  groundingVersion := cycle.groundingVersion
  groundingConfigurationDigest := cycle.groundingConfigurationDigest
  requestedDeliveryTarget := cycle.requestedDeliveryTarget
  firstEventSequence := cycle.firstEventSequence
  lastEventSequence := cycle.lastEventSequence
  createdAt := cycle.createdAt
  groundingConfiguration := cycle.groundingConfiguration

/-- The checks of the first revision of a cycle. -/
def validateFirstCycle (projection : Projection) (cycle : CycleRecord) :
    Except RepositoryError Unit := do
  raiseIf (cycle.revision ≠ 1 ∨ cycle.state ≠ .pending)
    (.projectionInvariant "a cycle must begin pending at revision 1")
  raiseIf (cycle.firstEventSequence ≠ projection.memoryCursor + 1)
    (.projectionInvariant "cycle does not continue the memory cursor")
  raiseIf (∃ existing ∈ projection.cycles.values,
      existing.invocationDecisionId = cycle.invocationDecisionId)
    (.projectionInvariant "invocation decision already has a cycle")
  raiseIf (∃ existing ∈ projection.cycles.values, existing.state.isActive = true)
    (.projectionInvariant "run already has an active cycle")

/-- The checks of a failure. -/
def validateFailure (cycle previous : CycleRecord) : Except RepositoryError Unit := do
  raiseIf (previous.state = .pending ∧ (cycle.budgetReservation ≠ none
      ∨ cycle.budgetSettlement ≠ none ∨ cycle.batchDigest ≠ none ∨ cycle.modelCallDigests ≠ []
      ∨ cycle.modelCallLatenciesUs ≠ []))
    (.projectionInvariant "failure before reservation cannot introduce budget or batch state")
  raiseIf (previous.state = .reserved ∧ (cycle.batchDigest ≠ none ∨ cycle.modelCallDigests ≠ []
      ∨ cycle.modelCallLatenciesUs ≠ []))
    (.projectionInvariant "failure before running cannot introduce batch or model-call state")
  raiseIf (cycle.failureReason = some .failedUnknownCost ∧ previous.state ≠ .running)
    (.projectionInvariant "failed_unknown_cost requires a previously running cycle")

/-- The checks of a revision after `previous`. -/
def validateNextCycle (cycle previous : CycleRecord) : Except RepositoryError Unit := do
  raiseIf (cycle.revision ≠ previous.revision + 1)
    (.projectionInvariant "cycle revision is not contiguous")
  raiseIf (cycle.identity ≠ previous.identity)
    (.projectionInvariant "cycle identity fields changed across revisions")
  raiseIf (cycle.updatedAt < previous.updatedAt)
    (.projectionInvariant "cycle update timestamp moved backwards")
  raiseIf (previous.budgetReservation ≠ none
      ∧ cycle.budgetReservation ≠ previous.budgetReservation)
    (.projectionInvariant "cycle budget reservation changed")
  raiseIf (previous.batchDigest ≠ none ∧ cycle.batchDigest ≠ previous.batchDigest)
    (.projectionInvariant "cycle batch digest changed")
  raiseIf (cycle.state ∉ cycleTransitions previous.state)
    (.projectionInvariant "invalid cycle state transition")
  if cycle.state = .failed then validateFailure cycle previous else .ok ()

/-- The checks of a revision, the first or a later one. -/
def validateTransition (projection : Projection) (cycle : CycleRecord) :
    Option CycleRecord → Except RepositoryError Unit
  | none => validateFirstCycle projection cycle
  | some previous => validateNextCycle cycle previous

/-- `range(first_event_sequence, last_event_sequence + 1)`. -/
def CycleRecord.eventRange (cycle : CycleRecord) : List ℕ :=
  List.range' cycle.firstEventSequence (cycle.lastEventSequence + 1 - cycle.firstEventSequence)

/-- The checks of a cycle against its decision and its events. -/
def validateInvocation (projection : Projection) (cycle : CycleRecord) :
    Except RepositoryError InvocationDecision := do
  let decision ← expect (projection.decisions.get? cycle.invocationDecisionId)
    (.crossRunReference "cycle invocation decision")
  raiseIf (decision.invoke = false) (.projectionInvariant "cycle requires an invoking decision")
  raiseIf (cycle.policyVersion ≠ decision.policyVersion
      ∨ cycle.configurationDigest ≠ decision.configurationDigest)
    (.projectionInvariant "cycle policy does not match its invocation decision")
  let _ ← resolvedCycleGrounding cycle
  raiseIf (cycle.createdAt < decision.createdAt)
    (.projectionInvariant "cycle cannot precede its invocation decision")
  raiseIf (∃ sequence ∈ cycle.eventRange, sequence ∉ projection.eventsBySequence)
    (.crossRunReference "cycle event range")
  raiseIf (decision.eventSequence ≠ cycle.lastEventSequence)
    (.projectionInvariant "cycle must end at its invocation event")
  pure decision

/-! ## Commits -/

/-- `_apply_delta`. -/
def applyDelta (projection : Projection) (delta : MemoryDelta) (cycle : CycleRecord) :
    Except RepositoryError Projection :=
  previewMemoryDelta projection delta cycle.memoryIdAssignments cycle.lastEventSequence

/-- The reminders after a commit. -/
def commitReminder (reminders : Dict ℕ InterventionDecision) (sequence : ℕ)
    (intervention : InterventionDecision) :
    Except RepositoryError (Dict ℕ InterventionDecision) :=
  match intervention.action with
  | .silence => pure reminders
  | .remind => do
    raiseIf (sequence ∈ reminders) (.projectionInvariant "event sequence already has a reminder")
    pure (reminders.set sequence intervention)

/-- The part of `_apply_cycle` for a committed cycle. -/
def applyCommit (projection : Projection) (cycle : CycleRecord) (previous : Option CycleRecord) :
    Except RepositoryError Projection := do
  raiseIf (cycle.firstEventSequence ≠ projection.memoryCursor + 1)
    (.projectionInvariant "committed cycle does not continue the memory cursor")
  let delta ← expect cycle.validatedDelta
    (.projectionInvariant "committed cycle is missing its memory delta")
  let previous ← expect previous
    (.projectionInvariant "committed cycle is missing its running revision")
  raiseIf (¬(previous.updatedAt ≤ delta.createdAt ∧ delta.createdAt ≤ cycle.updatedAt))
    (.projectionInvariant "memory delta timestamp falls outside its cycle")
  let updated ← applyDelta projection delta cycle
  let intervention ← expect cycle.intervention
    (.projectionInvariant "committed cycle is missing its intervention")
  raiseIf (¬(previous.updatedAt ≤ intervention.createdAt
      ∧ intervention.createdAt ≤ cycle.updatedAt))
    (.projectionInvariant "intervention timestamp falls outside its cycle")
  raiseIf (intervention.createdAt < delta.createdAt)
    (.projectionInvariant "intervention cannot precede its memory delta")
  authoritativelyVerifyIntervention updated cycle intervention
  raiseIf (intervention.interventionId ∈ updated.interventions)
    (.projectionInvariant "intervention ID already exists")
  let reminders ← commitReminder updated.reminderInterventionsBySequence cycle.lastEventSequence
    intervention
  pure { updated with
    interventions := updated.interventions.set intervention.interventionId intervention
    reminderInterventionsBySequence := reminders
    memoryCursor := cycle.lastEventSequence }

/-- The projection with what a revision commits, if it does. -/
def applyCommitted (projection : Projection) (cycle : CycleRecord)
    (previous : Option CycleRecord) : Except RepositoryError Projection :=
  match cycle.state with
  | .committed => applyCommit projection cycle previous
  | _ => pure projection

/-- `_apply_cycle`. -/
def applyCycle (projection : Projection) (cycle : CycleRecord) :
    Except RepositoryError Projection := do
  let decision ← validateInvocation projection cycle
  let previous := projection.cycles.get? cycle.cycleId
  validateTransition projection cycle previous
  validateCycleBudget cycle decision projection previous
  raiseIf ((cycle.cycleId, cycle.revision) ∈ projection.cycleHistory)
    (.projectionInvariant "cycle revision already exists")
  let updated ← applyCommitted projection cycle previous
  pure { updated with
    cycleHistory := projection.cycleHistory.set (cycle.cycleId, cycle.revision) cycle
    cycles := projection.cycles.set cycle.cycleId cycle }

end SalienceGate
