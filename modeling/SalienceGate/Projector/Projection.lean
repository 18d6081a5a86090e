import SalienceGate.Intervention.Grounding
import SalienceGate.Lib.Dict
import SalienceGate.Ports.Ledger

/-!
# The projection of a ledger

The state that a ledger leads to: the records by identity, the history of those with revisions, and
the two cursors. The last part holds the reads that the projector's checks share: the evidence of
a record, the budget of the run, and the grounding pin of a cycle.
-/

namespace SalienceGate

open Checked

variable [Hashing]

/-- The event sequences of the decisions, in the order of the decisions. -/
def decisionSequences (decisions : Dict UUID4 InvocationDecision) : List ℕ :=
  decisions.values.map (·.eventSequence)

/-- The state of a run. No two decisions are about one event: this is what the constructor of the
source checks while it indexes the decisions by event sequence. -/
structure Projection where
  runId : UUID4
  eventsById : Dict UUID4 TraceEvent := .empty
  eventsBySequence : Dict ℕ TraceEvent := .empty
  eventsBySource : Dict EventMetadataIdentifier TraceEvent := .empty
  eventPositions : Dict UUID4 ℕ := .empty
  signals : Dict UUID4 Signal := .empty
  decisions : Dict UUID4 InvocationDecision := .empty
  cycleHistory : Dict (Sha256Digest × ℕ) CycleRecord := .empty
  cycles : Dict Sha256Digest CycleRecord := .empty
  memoryHistory : Dict (UUID4 × ℕ) MemoryRecord := .empty
  memories : Dict UUID4 MemoryRecord := .empty
  interventions : Dict UUID4 InterventionDecision := .empty
  reminderInterventionsBySequence : Dict ℕ InterventionDecision := .empty
  outcomes : Dict UUID4 InterventionOutcome := .empty
  deliveryHistory : Dict (UUID4 × ℕ) DeliveryRecord := .empty
  deliveries : Dict UUID4 DeliveryRecord := .empty
  currentPrivateStatusId : Option UUID4 := none
  budgetLimits : Option BudgetLimits := none
  ingestionCursor : ℕ := 0
  memoryCursor : ℕ := 0
  oneDecisionPerEvent : (decisionSequences decisions).Nodup := by decide
deriving DecidableEq

/-- `empty_projection`. -/
def emptyProjection (runId : UUID4) : Projection := { runId }

namespace Projection

/-- `decisions_by_event_sequence`, at one sequence. -/
def decisionAt (projection : Projection) (sequence : ℕ) : Option InvocationDecision :=
  projection.decisions.values.find? (·.eventSequence = sequence)

/-- `replace(projection, decisions=..., budget_limits=...)`, which indexes the decisions anew. -/
def withDecisions (projection : Projection) (decisions : Dict UUID4 InvocationDecision)
    (budgetLimits : BudgetLimits) : Except RepositoryError Projection :=
  if h : (decisionSequences decisions).Nodup then
    .ok { projection with decisions, budgetLimits := some budgetLimits, oneDecisionPerEvent := h }
  else .error (.projectionInvariant "invocation event already has a decision")

end Projection

/-! ## Evidence -/

/-- One round of `_validate_evidence`. -/
def validateReference (projection : Projection) (maxEventSequence : Option ℕ)
    (reference : EvidenceReference) : Except RepositoryError Unit :=
  match reference.source with
  | .event => do
    let event ← expect (projection.eventsById.get? reference.sourceId)
      (.crossRunReference "event evidence")
    raiseIf (∃ max ∈ maxEventSequence, max < event.sequence)
      (.projectionInvariant "event evidence falls after the cycle range")
  | .memory => raiseIf (¬∃ revision ∈ reference.revision,
      (reference.sourceId, revision) ∈ projection.memoryHistory)
    (.crossRunReference "memory evidence")

/-- `_validate_evidence`. -/
def validateEvidence (projection : Projection) (evidence : List EvidenceReference)
    (maxEventSequence : Option ℕ := none) : Except RepositoryError Unit :=
  forM evidence (validateReference projection maxEventSequence)

/-! ## The budget of a run -/

/-- `_add_amounts`. -/
def addAmounts (values : List BudgetAmounts) : BudgetAmounts where
  modelCalls := (values.map (·.modelCalls)).sum
  inputTokens := (values.map (·.inputTokens)).sum
  outputTokens := (values.map (·.outputTokens)).sum
  canonicalTokenEquivalents := (values.map (·.canonicalTokenEquivalents)).sum
  latencyUs := (values.map (·.latencyUs)).sum
  interventions := (values.map (·.interventions)).sum
  schemaRepairs := (values.map (·.schemaRepairs)).sum

omit [Hashing] in
/-- The amounts are added field by field. -/
@[simp] theorem get_addAmounts (values : List BudgetAmounts) (field : BudgetField) :
    (addAmounts values).get field = (values.map (·.get field)).sum := by
  cases field <;> rfl

/-- The reservations of the reserved and running cycles. -/
def activeReservations (projection : Projection) : List BudgetAmounts :=
  projection.cycles.values.filterMap fun cycle =>
    if cycle.state ∈ [CycleState.reserved, .running] then cycle.budgetReservation else none

/-- The settlements of the committed and failed cycles. -/
def settlements (projection : Projection) : List BudgetAmounts :=
  projection.cycles.values.filterMap fun cycle =>
    if cycle.state ∈ [CycleState.committed, .failed] then cycle.budgetSettlement else none

/-- `budget_snapshot`, for the limits of the run or for other ones. -/
def budgetSnapshot (projection : Projection) (limits : Option BudgetLimits := none) :
    Except RepositoryError BudgetSnapshot := do
  let resolvedLimits ← expect (limits <|> projection.budgetLimits)
    (.projectionInvariant "run budget limits are unavailable")
  (BudgetSnapshot.create {
    limits := resolvedLimits
    reserved := addAmounts (activeReservations projection)
    consumed := addAmounts (settlements projection) }).mapError .validation

/-! ## The grounding pin of a cycle -/

/-- `_resolved_cycle_grounding`. -/
def resolvedCycleGrounding (cycle : CycleRecord) :
    Except RepositoryError (GroundingConfig × ResolvedGroundingConfiguration) := do
  let configuration ← expect (GroundingConfig.modelValidateJson cycle.groundingConfiguration)
    (.projectionInvariant "cycle grounding pin failed validation")
  let resolved := resolveGroundingConfiguration configuration
  raiseIf (cycle.groundingVersion ≠ resolved.pipelineVersion
      ∨ cycle.groundingConfigurationDigest ≠ resolved.configurationDigest
      ∨ cycle.groundingConfiguration ≠ resolved.configuration)
    (.projectionInvariant "cycle grounding pin failed validation")
  pure (configuration, resolved)

end SalienceGate
