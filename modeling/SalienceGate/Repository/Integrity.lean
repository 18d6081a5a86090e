import SalienceGate.Ports.Commands
import SalienceGate.Projector.Apply

/-!
# Integrity tags

The values that the repository tags under its key, each under a domain of its own: the records and
the links of the ledger chain, the heads, the checkpoints of the projection, the identities of
source collisions, and the components of a projection.
-/

namespace SalienceGate

open Checked

/-- `_event_identity`: the fields of an event that a repeated append must not change. -/
structure EventIdentity where
  timestamp : UtcDatetime
  eventType : EventType
  phase : EventPhase
  payload : JsonObject
  payloadDigest : PayloadDigest
  parentIds : List UUID4
  sourceAdapter : EventMetadataIdentifier
  trustLabel : TrustLabel
deriving DecidableEq

/-- The identity of a draft with a payload digest. -/
def TraceEventDraftFields.identity (draft : TraceEventDraftFields) (payloadDigest : PayloadDigest) :
    EventIdentity where
  timestamp := draft.timestamp
  eventType := draft.eventType
  phase := draft.phase
  payload := draft.payload
  payloadDigest
  parentIds := draft.parentIds
  sourceAdapter := draft.sourceAdapter
  trustLabel := draft.trustLabel

@[inherit_doc EventIdentity]
def TraceEvent.eventIdentity (event : TraceEvent) : EventIdentity :=
  event.toTraceEventDraftFields.identity event.payloadDigest

@[inherit_doc EventIdentity]
def RedactedTraceEventDraft.eventIdentity (event : RedactedTraceEventDraft) : EventIdentity :=
  event.toTraceEventDraftFields.identity event.payloadDigest

variable [Hashing]

/-- The number of records of each kind in a projection, in the order of the checkpoint. -/
def Projection.counts (projection : Projection) : List ℕ :=
  [projection.eventsById.size, projection.signals.size, projection.decisions.size,
    projection.cycleHistory.size, projection.memories.size, projection.memoryHistory.size,
    projection.interventions.size, projection.outcomes.size, projection.deliveryHistory.size]

/-- What `projection_digests` lists of a cycle under the budgets. -/
structure CycleBudgetEntry where
  cycleId : Sha256Digest
  revision : ℕ
  reservation : Option BudgetAmounts
  settlement : Option BudgetAmounts
  modelCallDigests : List Sha256Digest
  modelCallLatenciesUs : List ℕ
deriving DecidableEq

/-- The values that are tagged. A mapping is given as it is: the source sorts its items first. -/
inductive TaggedValue where
  | ledgerRecord (record : LedgerRecord)
  | ledgerChain (runId : UUID4) (position : ℕ) (recordKey : String) (recordTag : PayloadDigest)
      (previousChainTag : Option PayloadDigest)
  | ledgerHead (runId : UUID4) (entryCount : ℕ) (chainTag projectionTag : PayloadDigest)
  | projectionCheckpoint (previousProjectionTag : Option PayloadDigest)
      (entryChainTag : PayloadDigest) (ledgerPosition ingestionCursor memoryCursor : ℕ)
      (counts : List ℕ)
  | sourceCollision (existingEventId : UUID4) (incomingIdentity : EventIdentity)
  | projectionEvents (records : Dict ℕ TraceEvent) (idIndex : Dict UUID4 TraceEvent)
      (sourceIndex : Dict EventMetadataIdentifier TraceEvent) (positions : Dict UUID4 ℕ)
  | projectionMemory (history : Dict (UUID4 × ℕ) MemoryRecord) (latest : Dict UUID4 MemoryRecord)
      (currentPrivateStatusId : Option UUID4)
  | projectionSignals (signals : Dict UUID4 Signal)
  | projectionDecisions (decisions : Dict UUID4 InvocationDecision)
  | projectionCycles (history : Dict (Sha256Digest × ℕ) CycleRecord)
      (latest : Dict Sha256Digest CycleRecord)
  | projectionInterventions (interventions : Dict UUID4 InterventionDecision)
  | projectionBudgets (snapshot : Option BudgetSnapshot) (cycles : List CycleBudgetEntry)
  | projectionCursors (ledgerPosition ingestionCursor memoryCursor : ℕ)
  | projectionDeliveries (history : Dict (UUID4 × ℕ) DeliveryRecord)
      (latest : Dict UUID4 DeliveryRecord)
  | projectionOutcomes (outcomes : Dict UUID4 InterventionOutcome)
  | projectionOverall (components : List PayloadDigest)

/-- The domain of a tagged value. -/
def TaggedValue.domain : TaggedValue → String
  | .ledgerRecord .. => "saliencegate:ledger-record:v1"
  | .ledgerChain .. => "saliencegate:ledger-chain:v1"
  | .ledgerHead .. => "saliencegate:ledger-head:v1"
  | .projectionCheckpoint .. => "saliencegate:projection-checkpoint:v1"
  | .sourceCollision .. => "saliencegate:source-collision:v1"
  | .projectionEvents .. => "saliencegate:projection:events:v1"
  | .projectionMemory .. => "saliencegate:projection:memory:v1"
  | .projectionSignals .. => "saliencegate:projection:signals:v1"
  | .projectionDecisions .. => "saliencegate:projection:decisions:v1"
  | .projectionCycles .. => "saliencegate:projection:cycles:v1"
  | .projectionInterventions .. => "saliencegate:projection:interventions:v1"
  | .projectionBudgets .. => "saliencegate:projection:budgets:v1"
  | .projectionCursors .. => "saliencegate:projection:cursors:v1"
  | .projectionDeliveries .. => "saliencegate:projection:deliveries:v1"
  | .projectionOutcomes .. => "saliencegate:projection:outcomes:v1"
  | .projectionOverall .. => "saliencegate:projection:overall:v1"

/-- `IntegrityContext`: the tags under the key of the repository. -/
class Integrity extends PayloadMac where
  /-- HMAC or SHA-256 of the canonical JSON of a value, under a domain. -/
  tagMac (domain : String) (value : TaggedValue) : Sha256Digest

variable [Integrity]

/-- `IntegrityContext.tag`. -/
def tag (value : TaggedValue) : PayloadDigest :=
  ⟨PayloadMac.algorithm, Integrity.tagMac value.domain value⟩

@[simp] theorem algorithm_tag (value : TaggedValue) :
    (tag value).algorithm = PayloadMac.algorithm := rfl

/-- `_record_key`. -/
def recordKey : LedgerRecord → String
  | .traceEvent event => "trace_event:" ++ event.eventId.toString
  | .signal record => "signal:" ++ record.signalId.toString
  | .invocationDecision decision => "invocation_decision:" ++ decision.decisionId.toString
  | .cycleRecord cycle => "cycle:" ++ cycle.cycleId.text ++ ":" ++ toString cycle.revision
  | .interventionOutcome outcome => "intervention_outcome:" ++ outcome.outcomeId.toString
  | .deliveryRecord delivery =>
    "delivery:" ++ delivery.deliveryId.toString ++ ":" ++ toString delivery.revision

/-- `_projection_checkpoint_tag`. -/
def projectionCheckpointTag (entry : LedgerEntry) (projection : Projection)
    (previous : Option PayloadDigest) : PayloadDigest :=
  tag (.projectionCheckpoint previous entry.chainTag entry.position projection.ingestionCursor
    projection.memoryCursor projection.counts)

/-- `_head_value`, tagged. -/
def headTag (runId : UUID4) (entryCount : ℕ) (chainTag projectionTag : PayloadDigest) :
    PayloadDigest :=
  tag (.ledgerHead runId entryCount chainTag projectionTag)

/-- The chain value of an entry, tagged. -/
def LedgerEntryFields.chainValueTag (entry : LedgerEntryFields) : PayloadDigest :=
  tag (.ledgerChain entry.runId entry.position entry.recordKey entry.recordTag
    entry.previousChainTag)

/-- `_verify_entry`. -/
def verifyEntry (entry : LedgerEntry) (expectedPosition : ℕ) (previous : Option PayloadDigest) :
    Except RepositoryError Unit := do
  raiseIf (entry.position ≠ expectedPosition ∨ entry.previousChainTag ≠ previous)
    (.digestVerification "ledger chain")
  raiseIf (entry.recordKey ≠ recordKey entry.record) (.digestVerification "ledger record key")
  raiseIf (entry.recordTag ≠ tag (.ledgerRecord entry.record)) (.digestVerification "ledger record")
  raiseIf (entry.chainTag ≠ entry.chainValueTag) (.digestVerification "ledger chain")

/-- `projection_digests`. -/
def projectionDigests (projection : Projection) (ledgerPosition : ℕ) :
    Except RepositoryError ProjectionDigests := do
  let snapshot ← match projection.budgetLimits with
    | none => pure none
    | some _ => some <$> budgetSnapshot projection
  let events := tag (.projectionEvents projection.eventsBySequence projection.eventsById
    projection.eventsBySource projection.eventPositions)
  let memory := tag (.projectionMemory projection.memoryHistory projection.memories
    projection.currentPrivateStatusId)
  let signals := tag (.projectionSignals projection.signals)
  let decisions := tag (.projectionDecisions projection.decisions)
  let cycles := tag (.projectionCycles projection.cycleHistory projection.cycles)
  let interventions := tag (.projectionInterventions projection.interventions)
  let budgets := tag (.projectionBudgets snapshot (projection.cycles.values.map fun cycle =>
    ⟨cycle.cycleId, cycle.revision, cycle.budgetReservation, cycle.budgetSettlement,
      cycle.modelCallDigests, cycle.modelCallLatenciesUs⟩))
  let cursors := tag (.projectionCursors ledgerPosition projection.ingestionCursor
    projection.memoryCursor)
  let deliveries := tag (.projectionDeliveries projection.deliveryHistory projection.deliveries)
  let outcomes := tag (.projectionOutcomes projection.outcomes)
  pure {
    events, memory, signals, decisions, cycles, interventions, budgets, cursors, deliveries,
    outcomes
    overall := tag (.projectionOverall [events, memory, signals, decisions, cycles, interventions,
      budgets, cursors, deliveries, outcomes]) }

end SalienceGate
