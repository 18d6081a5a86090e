import SalienceGate.Projector.Cycle

/-!
# Applying an entry

`applyEntry` is the step function of the ledger: it checks an entry against the projection and
returns the next projection, or raises and leaves the projection as it is. A settled projection
also passes `validateCompleteProjection`, which asks that the committed reminders are exactly the
ones with a delivery.
-/

namespace SalienceGate

open Checked

variable [Hashing]

/-- `_apply_event`. -/
def applyEvent (projection : Projection) (position : ℕ) (event : TraceEvent) :
    Except RepositoryError Projection := do
  raiseIf (event.sequence ≠ projection.ingestionCursor + 1)
    (.projectionInvariant "event sequence is not contiguous")
  raiseIf (event.sequence ∈ projection.eventsBySequence)
    (.projectionInvariant "event sequence already exists")
  raiseIf (event.eventId ∈ projection.eventsById)
    (.projectionInvariant "event ID already exists")
  raiseIf (event.sourceEventId ∈ projection.eventsBySource)
    (.projectionInvariant "source event ID already exists")
  raiseIf (∃ parentId ∈ event.parentIds, parentId ∉ projection.eventsById)
    (.crossRunReference "event parent")
  pure { projection with
    eventsById := projection.eventsById.set event.eventId event
    eventsBySequence := projection.eventsBySequence.set event.sequence event
    eventsBySource := projection.eventsBySource.set event.sourceEventId event
    eventPositions := projection.eventPositions.set event.eventId position
    ingestionCursor := event.sequence }

/-- `apply_entry`, for a signal. -/
def applySignal (projection : Projection) (signal : Signal) : Except RepositoryError Projection := do
  raiseIf (signal.signalId ∈ projection.signals) (.projectionInvariant "signal ID already exists")
  raiseIf (∃ eventId ∈ signal.evidenceEventIds, eventId ∉ projection.eventsById)
    (.crossRunReference "signal evidence")
  pure { projection with signals := projection.signals.set signal.signalId signal }

/-- `apply_entry`, for an invocation decision. -/
def applyDecision (projection : Projection) (decision : InvocationDecision) :
    Except RepositoryError Projection := do
  raiseIf (decision.decisionId ∈ projection.decisions)
    (.projectionInvariant "invocation decision ID already exists")
  let event ← expect (projection.eventsBySequence.get? decision.eventSequence)
    (.crossRunReference "invocation event")
  raiseIf (decision.createdAt < event.timestamp)
    (.projectionInvariant "invocation decision precedes its event")
  raiseIf ((projection.decisionAt decision.eventSequence).isSome = true)
    (.projectionInvariant "invocation event already has a decision")
  let limits := projection.budgetLimits.getD decision.budgetSnapshot.limits
  raiseIf (limits ≠ decision.budgetSnapshot.limits)
    (.projectionInvariant "run budget limits changed")
  let snapshot ← budgetSnapshot projection (some limits)
  raiseIf (decision.budgetSnapshot ≠ snapshot)
    (.projectionInvariant "invocation decision budget snapshot is stale")
  projection.withDecisions (projection.decisions.set decision.decisionId decision) limits

/-- `apply_entry`, for an outcome. -/
def applyOutcome (projection : Projection) (outcome : InterventionOutcome) :
    Except RepositoryError Projection := do
  raiseIf (outcome.outcomeId ∈ projection.outcomes)
    (.projectionInvariant "outcome ID already exists")
  raiseIf (outcome.interventionId ∉ projection.interventions)
    (.crossRunReference "outcome intervention")
  pure { projection with outcomes := projection.outcomes.set outcome.outcomeId outcome }

/-! ## Deliveries -/

/-- `_DELIVERY_TRANSITIONS`. -/
def deliveryTransitions : DeliveryState → List DeliveryState
  | .pending => [.claimed, .rejected]
  | .claimed => [.attempting, .rejected]
  | .attempting => [.delivered, .unknown, .failed]
  | .unknown => [.claimed, .delivered, .failed]
  | .delivered | .failed | .rejected => []

/-- The checks of a delivery against the cycle that committed its reminder. -/
def validateOutboxSource (projection : Projection) (delivery : DeliveryRecord) :
    Except RepositoryError CycleRecord := do
  let cycle ← expect (projection.cycles.get? delivery.cycleId)
    (.crossRunReference "delivery cycle")
  let intervention ← expect (projection.interventions.get? delivery.interventionId)
    (.crossRunReference "delivery intervention")
  raiseIf (cycle.state ≠ .committed
      ∨ ∀ committed ∈ cycle.intervention, committed.pyEq intervention = false)
    (.projectionInvariant "delivery does not match its committed cycle")
  raiseIf (intervention.action ≠ .remind ∨ intervention.deliveryTarget ≠ some delivery.target)
    (.projectionInvariant "delivery is not authorized by its intervention")
  raiseIf (∀ text ∈ intervention.renderedText,
      delivery.renderedTextDigest ≠ canonicalDigest (.str text.text))
    (.projectionInvariant "delivery reminder digest is not authoritative")
  pure cycle

/-- The checks of the first revision of a delivery. -/
def validateFirstDelivery (projection : Projection) (delivery : DeliveryRecord)
    (cycle : CycleRecord) : Except RepositoryError Unit := do
  raiseIf (∃ existing ∈ projection.deliveries.values,
      existing.interventionId = delivery.interventionId)
    (.projectionInvariant "intervention already has a delivery")
  raiseIf (delivery.state ≠ .pending)
    (.projectionInvariant "a delivery must begin pending at revision 1")
  raiseIf (delivery.createdAt ≠ cycle.updatedAt ∨ delivery.updatedAt ≠ delivery.createdAt)
    (.projectionInvariant "delivery was not enqueued with its cycle commit")

/-- The fields of a delivery that no revision changes. -/
structure DeliveryIdentity where
  runId : UUID4
  cycleId : Sha256Digest
  interventionId : UUID4
  renderedTextDigest : Sha256Digest
  targetRequestId : EventMetadataIdentifier
  target : DeliveryTarget
  adapterId : ComponentIdentifier
  adapterDeduplicates : Bool
  adapterDeduplicationGuarantee : DeduplicationGuarantee
  adapterSupportsPreAction : Bool
  adapterContractVersion : ComponentIdentifier
  adapterCapabilitiesDigest : Sha256Digest
  createdAt : UtcDatetime
deriving DecidableEq

/-- `immutable_fields`. -/
def DeliveryRecord.identity (delivery : DeliveryRecord) : DeliveryIdentity where
  runId := delivery.runId
  cycleId := delivery.cycleId
  interventionId := delivery.interventionId
  renderedTextDigest := delivery.renderedTextDigest
  targetRequestId := delivery.targetRequestId
  target := delivery.target
  adapterId := delivery.adapterId
  adapterDeduplicates := delivery.adapterDeduplicates
  adapterDeduplicationGuarantee := delivery.adapterDeduplicationGuarantee
  adapterSupportsPreAction := delivery.adapterSupportsPreAction
  adapterContractVersion := delivery.adapterContractVersion
  adapterCapabilitiesDigest := delivery.adapterCapabilitiesDigest
  createdAt := delivery.createdAt

/-- The checks of a claim. -/
def validateClaim (projection : Projection) (delivery previous : DeliveryRecord) :
    Except RepositoryError Unit := do
  raiseIf (∃ existing ∈ projection.deliveryHistory.values, existing.claimId ≠ none
      ∧ existing.claimId = delivery.claimId)
    (.projectionInvariant "delivery claim owner token was reused")
  raiseIf (previous.state = .unknown ∧ delivery.adapterDeduplicates = false)
    (.projectionInvariant "non-deduplicating delivery cannot retry an unknown attempt")
  raiseIf (previous.state = .unknown ∧ delivery.claimId = previous.claimId)
    (.projectionInvariant "unknown delivery retry requires a new claim owner")
  raiseIf (delivery.claimId = none ∨ delivery.attemptId ≠ none)
    (.projectionInvariant "invalid delivery claim ownership")

/-- The checks of an attempt. -/
def validateAttempt (projection : Projection) (delivery previous : DeliveryRecord) :
    Except RepositoryError Unit := do
  raiseIf (∃ existing ∈ projection.deliveryHistory.values, existing.attemptId ≠ none
      ∧ existing.attemptId = delivery.attemptId)
    (.projectionInvariant "delivery attempt token was reused")
  raiseIf (delivery.attemptCount ≠ previous.attemptCount + 1)
    (.projectionInvariant "delivery attempt count is not contiguous")
  raiseIf (delivery.claimId ≠ previous.claimId ∨ delivery.attemptId = none
      ∨ delivery.attemptId = previous.attemptId)
    (.projectionInvariant "invalid delivery attempt ownership")

/-- The checks of the owner and the attempt count. Only a state without checks of its own has its
count compared with the revision before. -/
def validateOwnership (projection : Projection) (delivery previous : DeliveryRecord) :
    Except RepositoryError Unit :=
  match delivery.state with
  | .claimed => validateClaim projection delivery previous
  | .attempting => validateAttempt projection delivery previous
  | _ => raiseIf (delivery.attemptCount ≠ previous.attemptCount)
    (.projectionInvariant "delivery attempt count changed outside an attempt")

/-- The checks of a delivery after `previous`. -/
def validateNextDelivery (projection : Projection) (delivery previous : DeliveryRecord) :
    Except RepositoryError Unit := do
  raiseIf (delivery.identity ≠ previous.identity)
    (.projectionInvariant "delivery identity fields changed across revisions")
  raiseIf (delivery.updatedAt < previous.updatedAt)
    (.projectionInvariant "delivery update timestamp moved backwards")
  raiseIf (delivery.state ∉ deliveryTransitions previous.state)
    (.projectionInvariant "invalid delivery state transition")
  validateOwnership projection delivery previous
  raiseIf (delivery.state ∈ [DeliveryState.delivered, .failed, .unknown]
      ∧ (delivery.claimId ≠ previous.claimId ∨ delivery.attemptId ≠ previous.attemptId))
    (.projectionInvariant "delivery completion ownership changed")
  raiseIf (delivery.state = .rejected ∧ previous.state = .pending ∧ delivery.claimId ≠ none)
    (.projectionInvariant "unclaimed delivery rejection gained an owner")
  raiseIf (delivery.state = .rejected ∧ previous.state = .claimed
      ∧ delivery.claimId ≠ previous.claimId)
    (.projectionInvariant "claimed delivery rejection changed owner")

/-- The checks of a revision of a delivery, the first or a later one. -/
def validateDeliveryRevision (projection : Projection) (delivery : DeliveryRecord)
    (cycle : CycleRecord) : Option DeliveryRecord → Except RepositoryError Unit
  | none => validateFirstDelivery projection delivery cycle
  | some previous => validateNextDelivery projection delivery previous

/-- `apply_entry`, for a delivery. -/
def applyDelivery (projection : Projection) (delivery : DeliveryRecord) :
    Except RepositoryError Projection := do
  let cycle ← validateOutboxSource projection delivery
  let previous := projection.deliveries.get? delivery.deliveryId
  raiseIf (delivery.revision ≠ (previous.map (·.revision + 1)).getD 1)
    (.projectionInvariant "delivery revision is not contiguous")
  validateDeliveryRevision projection delivery cycle previous
  pure { projection with
    deliveryHistory :=
      projection.deliveryHistory.set (delivery.deliveryId, delivery.revision) delivery
    deliveries := projection.deliveries.set delivery.deliveryId delivery }

/-! ## The step function -/

/-- `apply_entry`, after the check of the run. -/
def applyRecord (projection : Projection) (position : ℕ) :
    LedgerRecord → Except RepositoryError Projection
  | .traceEvent event => applyEvent projection position event
  | .signal record => applySignal projection record
  | .invocationDecision decision => applyDecision projection decision
  | .cycleRecord cycle => applyCycle projection cycle
  | .interventionOutcome outcome => applyOutcome projection outcome
  | .deliveryRecord delivery => applyDelivery projection delivery

/-- `apply_entry`. -/
def applyEntry (projection : Projection) (entry : LedgerEntry) :
    Except RepositoryError Projection := do
  raiseIf (entry.record.runId ≠ projection.runId) (.crossRunReference "ledger record")
  applyRecord projection entry.position entry.record

/-! ## Complete projections -/

/-- The first loop of `validate_complete_projection`: the first revisions of the deliveries, by
cycle. -/
def pendingByCycle (projection : Projection) :
    Except RepositoryError (Dict Sha256Digest DeliveryRecord) :=
  projection.deliveryHistory.items.foldlM
    (fun pending item => do
      if item.1.2 ≠ 1 then pure pending
      else
        raiseIf (item.2.deliveryId ≠ item.1.1 ∨ item.2.cycleId ∈ pending)
          (.projectionInvariant "cycle has an ambiguous initial delivery")
        pure (pending.set item.2.cycleId item.2))
    .empty

/-- `pending_by_cycle`, which `_attach_cycle_deliveries` collects without the checks. -/
def initialDeliveries (projection : Projection) : Dict Sha256Digest DeliveryRecord :=
  projection.deliveryHistory.items.foldl
    (fun pending item =>
      if item.1.2 = 1 ∧ item.2.deliveryId = item.1.1 then pending.set item.2.cycleId item.2
      else pending)
    .empty

/-- A round of the second loop: a reminder has its delivery, a silence has none. -/
def validateCycleOutbox (pending : Dict Sha256Digest DeliveryRecord) (cycle : CycleRecord) :
    Except RepositoryError Unit :=
  match cycle.state, cycle.intervention with
  | .committed, some intervention =>
    match intervention.action with
    | .remind => raiseIf (∀ initial ∈ pending.get? cycle.cycleId,
        initial.interventionId ≠ intervention.interventionId)
      (.projectionInvariant "committed reminder is missing its delivery outbox")
    | .silence => raiseIf (cycle.cycleId ∈ pending)
      (.projectionInvariant "silent cycle cannot own a delivery outbox")
  | _, _ => .ok ()

/-- A committed cycle with a reminder. -/
def CycleRecord.isCommittedReminder (cycle : CycleRecord) : Bool :=
  cycle.state = .committed && cycle.intervention.any fun intervention =>
    intervention.action = .remind

/-- `validate_complete_projection`. -/
def validateCompleteProjection (projection : Projection) : Except RepositoryError Unit := do
  let pending ← pendingByCycle projection
  forM projection.cycles.values (validateCycleOutbox pending)
  raiseIf (pending.keys.toFinset
      ≠ ((projection.cycles.values.filter (·.isCommittedReminder)).map (·.cycleId)).toFinset)
    (.projectionInvariant "delivery outbox does not match committed reminders")

end SalienceGate
