import Mathlib.Data.List.Lex
import Mathlib.Data.Prod.Lex
import SalienceGate.Domain.RecordJson
import SalienceGate.Lib.Grouping
import SalienceGate.Lib.Intervals
import SalienceGate.Runtime.TokenCounting

/-!
# The records of a batch

A request is one contiguous slice of events with the memories that must go with it. Its payload represents
each event once: verbatim, or in the aggregate of the events that have the same structure and the same
priorities. A record is its fields together with the fact that its validators passed.
-/

namespace SalienceGate

open Checked Grouping

/-- What the batcher raises: the sanitized input error and the integrity error, and what it turns into the
former or does not expect. -/
inductive BatchError where
  | batchInput
  | batchIntegrity
  | key
  | index
  | invalid (error : ValidationError)
deriving DecidableEq

/-- `BatchStatus`. -/
inductive BatchStatus where
  | ready
  | mandatoryInputOverflow
deriving DecidableEq

/-- `BatchMemoryRole`. -/
inductive BatchMemoryRole where
  | taskRequirement
  | unresolvedState
deriving DecidableEq

/-- `BatchMemoryRole.value`. -/
def BatchMemoryRole.value : BatchMemoryRole → String
  | .taskRequirement => "task_requirement"
  | .unresolvedState => "unresolved_state"

/-- `BatchPriorityKind`. -/
inductive BatchPriorityKind where
  | controllerError
  | actionProposal
  | toolError
  | testFailure
  | conflict
deriving DecidableEq

/-- `BatchPriorityKind.value`. -/
def BatchPriorityKind.value : BatchPriorityKind → String
  | .controllerError => "controller_error"
  | .actionProposal => "action_proposal"
  | .toolError => "tool_error"
  | .testFailure => "test_failure"
  | .conflict => "conflict"

/-- `_MAX_SEQUENCE`. -/
def maxSequence : ℕ := 2^63 - 1

/-! ## Configurations and requests -/

/-- The fields of a configuration. -/
structure BatchConfigFields where
  maxUtf8Bytes : ℕ
  maxApproximateTokens : ℕ
  recentEventCount : ℕ
  maxControllerErrors : ℕ
  maxActionProposals : ℕ
  maxToolErrors : ℕ
  maxTestFailures : ℕ
  maxConflicts : ℕ
deriving DecidableEq

/-- The constraints of the fields. -/
def BatchConfigFields.check (config : BatchConfigFields) : Check := do
  constrain (1 ≤ config.maxUtf8Bytes) "max_utf8_bytes" "greater_than_equal"
  constrain (config.maxUtf8Bytes ≤ 10000000) "max_utf8_bytes" "less_than_equal"
  constrain (1 ≤ config.maxApproximateTokens) "max_approximate_tokens" "greater_than_equal"
  constrain (config.maxApproximateTokens ≤ 2500000) "max_approximate_tokens" "less_than_equal"
  constrain (config.recentEventCount ≤ 10000) "recent_event_count" "less_than_equal"
  constrain (config.maxControllerErrors ≤ 10000) "max_controller_errors" "less_than_equal"
  constrain (config.maxActionProposals ≤ 10000) "max_action_proposals" "less_than_equal"
  constrain (config.maxToolErrors ≤ 10000) "max_tool_errors" "less_than_equal"
  constrain (config.maxTestFailures ≤ 10000) "max_test_failures" "less_than_equal"
  constrain (config.maxConflicts ≤ 10000) "max_conflicts" "less_than_equal"

/-- `BatchConfig`. -/
structure BatchConfig extends BatchConfigFields where
  valid : toBatchConfigFields.check = .ok ()
deriving DecidableEq

/-- `_BATCHER_VERSION`. -/
def batcherVersion : String := "deterministic-batcher-v1"

/-- `BatchConfig.model_dump(mode="json")`. -/
def BatchConfig.modelDump (config : BatchConfig) : Json :=
  .object [
    ("batcher_version", .str batcherVersion),
    ("max_action_proposals", .int config.maxActionProposals),
    ("max_approximate_tokens", .int config.maxApproximateTokens),
    ("max_conflicts", .int config.maxConflicts),
    ("max_controller_errors", .int config.maxControllerErrors),
    ("max_test_failures", .int config.maxTestFailures),
    ("max_tool_errors", .int config.maxToolErrors),
    ("max_utf8_bytes", .int config.maxUtf8Bytes),
    ("recent_event_count", .int config.recentEventCount)]

/-- The order of memories. -/
def memoryOrder (memory : MemoryRecord) : String ×ₗ ℕ ×ₗ ℕ :=
  toLex (memory.kind.value, toLex (memory.memoryId.int.toNat, memory.revision))

/-- The order of signals. -/
def signalOrder (signal : Signal) : ℤ ×ₗ ℕ := toLex (signal.createdAt, signal.signalId.int.toNat)

/-- The fields of a request. -/
structure BatchRequestFields where
  runId : UUID4
  memoryCursor : ℕ
  events : List TraceEvent
  historicalEventIds : List UUID4 := []
  signals : List Signal := []
  taskRequirements : List MemoryRecord := []
  unresolvedState : List MemoryRecord := []
deriving DecidableEq

namespace BatchRequestFields

/-- The identities of the events of the slice. -/
def eventIds (request : BatchRequestFields) : List UUID4 := request.events.map (·.eventId)

/-- The sequences of the events of the slice. -/
def sequences (request : BatchRequestFields) : List ℕ := request.events.map (·.sequence)

/-- The memories that must go with the slice. -/
def memories (request : BatchRequestFields) : List MemoryRecord :=
  request.taskRequirements ++ request.unresolvedState

/-- `records_form_one_unprocessed_slice`, after the field constraints. The field validators put the records in
order. -/
def check (request : BatchRequestFields) : Check := do
  constrain (request.memoryCursor < maxSequence) "memory_cursor" "less_than"
  constrain (1 ≤ request.events.length) "events" "too_short"
  constrain (request.events = sortBy (·.sequence) request.events) "events" "not_canonical"
  constrain (request.historicalEventIds = sortBy (·.int.toNat) request.historicalEventIds)
    "historical_event_ids" "not_canonical"
  constrain (request.signals = sortBy signalOrder request.signals) "signals" "not_canonical"
  constrain (request.taskRequirements = sortBy memoryOrder request.taskRequirements)
    "task_requirements" "not_canonical"
  constrain (request.unresolvedState = sortBy memoryOrder request.unresolvedState)
    "unresolved_state" "not_canonical"
  refuse (∃ event ∈ request.events, event.runId ≠ request.runId) "events must belong to the requested run"
  refuse (∃ last ∈ request.sequences.getLast?, maxSequence < last)
    "event sequence exceeds the signed 64-bit ledger range"
  refuse (request.sequences ≠ List.range' (request.memoryCursor + 1) request.events.length)
    "events must be one contiguous unprocessed sequence"
  refuse (¬request.eventIds.Nodup ∨ ¬(request.events.map (·.sourceEventId)).Nodup) "event identities must be unique"
  refuse (¬request.historicalEventIds.Nodup) "historical event identities must be unique"
  refuse (∃ id ∈ request.eventIds, id ∈ request.historicalEventIds)
    "historical event identities must be disjoint from the run slice"
  refuse (¬(request.signals.map (·.signalId)).Nodup) "signal identities must be unique"
  refuse (∃ signal ∈ request.signals, signal.runId ≠ request.runId
      ∨ (∃ id ∈ signal.evidenceEventIds, id ∉ request.eventIds ∧ id ∉ request.historicalEventIds)
      ∨ ∀ id ∈ signal.evidenceEventIds, id ∉ request.eventIds)
    "signals must cite known evidence and intersect the requested run slice"
  refuse (¬(request.memories.map (·.memoryId)).Nodup) "mandatory memories must be unique"
  refuse (∃ memory ∈ request.memories, memory.runId ≠ request.runId ∨ memory.validity ≠ .active)
    "mandatory memories must be active records from the requested run"

end BatchRequestFields

/-- `BatchRequest`. -/
structure BatchRequest extends BatchRequestFields where
  valid : toBatchRequestFields.check = .ok ()
deriving DecidableEq

/-! ## Ranges and aggregates -/

/-- The fields of a range. -/
structure SequenceRangeFields where
  firstSequence : ℕ
  lastSequence : ℕ
deriving DecidableEq

/-- `range_is_ordered`, after the field constraints. -/
def SequenceRangeFields.check (range : SequenceRangeFields) : Check := do
  constrain (1 ≤ range.firstSequence) "first_sequence" "greater_than_equal"
  constrain (1 ≤ range.lastSequence) "last_sequence" "greater_than_equal"
  refuse (range.lastSequence < range.firstSequence) "sequence range is reversed"

/-- `SequenceRange`. -/
structure SequenceRange extends SequenceRangeFields where
  valid : toSequenceRangeFields.check = .ok ()
deriving DecidableEq

/-- `SequenceRange(...)`. -/
def SequenceRange.create (fields : SequenceRangeFields) : Except ValidationError SequenceRange :=
  validate SequenceRangeFields.check SequenceRange.mk fields

/-- `SequenceRange.model_dump(mode="json")`. -/
def SequenceRange.modelDump (range : SequenceRange) : Json :=
  .object [("first_sequence", .int range.firstSequence), ("last_sequence", .int range.lastSequence)]

/-- The JSON form of priorities. -/
def priorityKindsJson (kinds : List BatchPriorityKind) : Json := .list (kinds.map fun kind => .str kind.value)

/-- `canonicalize_priority_kinds`: the kinds are unique, and put in order. -/
def checkPriorityKinds (kinds : List BatchPriorityKind) : Check := do
  refuse (¬kinds.Nodup) "priority kinds must be unique"
  constrain (kinds = sortBy BatchPriorityKind.value kinds) "priority_kinds" "not_canonical"

/-- The fields of a verbatim event. -/
structure VerbatimEventFields where
  event : TraceEvent
  priorityKinds : List BatchPriorityKind := []
deriving DecidableEq

/-- `VerbatimEvent`. -/
structure VerbatimEvent extends VerbatimEventFields where
  valid : checkPriorityKinds priorityKinds = .ok ()
deriving DecidableEq

/-- `VerbatimEvent(...)`. -/
def VerbatimEvent.create (fields : VerbatimEventFields) : Except ValidationError VerbatimEvent :=
  validate (fun fields : VerbatimEventFields => checkPriorityKinds fields.priorityKinds) VerbatimEvent.mk fields

/-- The fields of an aggregate. -/
structure EventAggregateFields where
  eventType : EventType
  phase : EventPhase
  trustLabel : TrustLabel
  structuralFingerprint : Sha256Digest
  priorityKinds : List BatchPriorityKind := []
  count : ℕ
  firstSequence : ℕ
  lastSequence : ℕ
  provenanceRanges : List SequenceRange
  sourceEventIds : List UUID4
  sourceDigest : Sha256Digest
deriving DecidableEq

/-- The loop over the ranges, which carries the last number of the one before. -/
def checkProvenance : ℕ → List SequenceRange → Check
  | _, [] => pure ()
  | previousLast, item :: items => do
    refuse (item.firstSequence ≤ previousLast) "aggregate provenance ranges must be ordered and disjoint"
    checkProvenance item.lastSequence items

/-- How many numbers ranges have. -/
def representedCount (ranges : List SequenceRange) : ℕ :=
  (ranges.map fun item => item.lastSequence - item.firstSequence + 1).sum

/-- `provenance_matches_count`, after the field constraints. -/
def EventAggregateFields.check (aggregate : EventAggregateFields) : Check := do
  checkPriorityKinds aggregate.priorityKinds
  constrain (1 ≤ aggregate.count) "count" "greater_than_equal"
  constrain (1 ≤ aggregate.firstSequence) "first_sequence" "greater_than_equal"
  constrain (1 ≤ aggregate.lastSequence) "last_sequence" "greater_than_equal"
  constrain (1 ≤ aggregate.provenanceRanges.length) "provenance_ranges" "too_short"
  constrain (1 ≤ aggregate.sourceEventIds.length) "source_event_ids" "too_short"
  checkProvenance 0 aggregate.provenanceRanges
  refuse (representedCount aggregate.provenanceRanges ≠ aggregate.count
      ∨ aggregate.sourceEventIds.length ≠ aggregate.count)
    "aggregate provenance does not match its count"
  refuse (aggregate.provenanceRanges.head?.map (·.firstSequence) ≠ some aggregate.firstSequence
      ∨ aggregate.provenanceRanges.getLast?.map (·.lastSequence) ≠ some aggregate.lastSequence)
    "aggregate bounds do not match its provenance"
  refuse (¬aggregate.sourceEventIds.Nodup) "aggregate source event IDs must be unique"

/-- `EventAggregate`. -/
structure EventAggregate extends EventAggregateFields where
  valid : toEventAggregateFields.check = .ok ()
deriving DecidableEq

/-- `EventAggregate(...)`. -/
def EventAggregate.create (fields : EventAggregateFields) : Except ValidationError EventAggregate :=
  validate EventAggregateFields.check EventAggregate.mk fields

/-- The members of `EventAggregate.model_dump(mode="json")`. -/
def EventAggregate.members (aggregate : EventAggregate) : List (String × Json) := [
  ("count", .int aggregate.count),
  ("event_type", .str aggregate.eventType.value),
  ("first_sequence", .int aggregate.firstSequence),
  ("last_sequence", .int aggregate.lastSequence),
  ("phase", .str aggregate.phase.value),
  ("priority_kinds", priorityKindsJson aggregate.priorityKinds),
  ("provenance_ranges", .list (aggregate.provenanceRanges.map SequenceRange.modelDump)),
  ("source_digest", .str aggregate.sourceDigest.text),
  ("source_event_ids", .list (aggregate.sourceEventIds.map fun id => .str id.toString)),
  ("structural_fingerprint", .str aggregate.structuralFingerprint.text),
  ("trust_label", .str aggregate.trustLabel.value)]

/-- `EventAggregate.model_dump(mode="json")`. -/
def EventAggregate.modelDump (aggregate : EventAggregate) : Json := .object aggregate.members

/-! ## Payloads -/

/-- `BatchMemory`. -/
structure BatchMemory where
  role : BatchMemoryRole
  record : MemoryRecord
deriving DecidableEq

/-- The fields of a payload. -/
structure BatchPayloadFields where
  runId : UUID4
  memoryCursor : ℕ
  firstEventSequence : ℕ
  lastEventSequence : ℕ
  configurationDigest : Sha256Digest
  mandatoryMemories : List BatchMemory
  verbatimEvents : List VerbatimEvent
  aggregates : List EventAggregate
  representedEventCount : ℕ
deriving DecidableEq

namespace BatchPayloadFields

/-- The sequences that the verbatim events and the ranges of the aggregates represent. -/
def represented (payload : BatchPayloadFields) : List ℕ :=
  payload.verbatimEvents.map (·.event.sequence) ++ payload.aggregates.flatMap fun aggregate =>
    aggregate.provenanceRanges.flatMap fun provenance =>
      Intervals.numbers (provenance.firstSequence, provenance.lastSequence)

/-- The sequences of the slice. -/
def expected (payload : BatchPayloadFields) : List ℕ :=
  List.range' payload.firstEventSequence (payload.lastEventSequence + 1 - payload.firstEventSequence)

/-- The identities of the represented events. -/
def eventIds (payload : BatchPayloadFields) : List UUID4 :=
  payload.verbatimEvents.map (·.event.eventId) ++ payload.aggregates.flatMap (·.sourceEventIds)

/-- `event_partition_is_exact`, after the field constraints. -/
def check (payload : BatchPayloadFields) : Check := do
  constrain (1 ≤ payload.firstEventSequence) "first_event_sequence" "greater_than_equal"
  constrain (1 ≤ payload.lastEventSequence) "last_event_sequence" "greater_than_equal"
  constrain (1 ≤ payload.representedEventCount) "represented_event_count" "greater_than_equal"
  refuse (payload.firstEventSequence ≠ payload.memoryCursor + 1) "batch does not continue the memory cursor"
  refuse (sortBy id payload.represented ≠ payload.expected ∨ ¬payload.represented.Nodup)
    "batch events are not represented exactly once"
  refuse (payload.representedEventCount ≠ payload.expected.length) "represented event count is inconsistent"
  refuse (payload.eventIds.length ≠ payload.expected.length ∨ ¬payload.eventIds.Nodup)
    "batch event identities are not represented exactly once"
  refuse (∃ item ∈ payload.verbatimEvents, item.event.runId ≠ payload.runId)
    "verbatim event belongs to another run"
  refuse (¬(payload.mandatoryMemories.map (·.record.memoryId)).Nodup
      ∨ ∃ item ∈ payload.mandatoryMemories, item.record.runId ≠ payload.runId ∨ item.record.validity ≠ .active)
    "batch mandatory memory is invalid"

end BatchPayloadFields

/-- `BatchPayload`. -/
structure BatchPayload extends BatchPayloadFields where
  valid : toBatchPayloadFields.check = .ok ()
deriving DecidableEq

/-- `BatchPayload(...)`. -/
def BatchPayload.create (fields : BatchPayloadFields) : Except ValidationError BatchPayload :=
  validate BatchPayloadFields.check BatchPayload.mk fields

variable [InstantText]

/-- `BatchMemory.model_dump(mode="json")`. -/
def BatchMemory.modelDump (memory : BatchMemory) : Json :=
  .object [("record", memory.record.modelDump), ("role", .str memory.role.value)]

/-- `VerbatimEvent.model_dump(mode="json")`. -/
def VerbatimEvent.modelDump (verbatim : VerbatimEvent) : Json :=
  .object [("event", verbatim.event.modelDump), ("priority_kinds", priorityKindsJson verbatim.priorityKinds)]

/-- The members of `BatchPayload.model_dump(mode="json")`. -/
def BatchPayload.members (payload : BatchPayload) : List (String × Json) := [
  ("aggregates", .list (payload.aggregates.map EventAggregate.modelDump)),
  ("batcher_version", .str batcherVersion),
  ("configuration_digest", .str payload.configurationDigest.text),
  ("first_event_sequence", .int payload.firstEventSequence),
  ("last_event_sequence", .int payload.lastEventSequence),
  ("mandatory_memories", .list (payload.mandatoryMemories.map BatchMemory.modelDump)),
  ("memory_cursor", .int payload.memoryCursor),
  ("represented_event_count", .int payload.representedEventCount),
  ("run_id", .str payload.runId.toString),
  ("schema_version", .str "1.0"),
  ("verbatim_events", .list (payload.verbatimEvents.map VerbatimEvent.modelDump))]

/-- `BatchPayload.model_dump(mode="json")`. -/
def BatchPayload.modelDump (payload : BatchPayload) : Json := .object payload.members

/-! ## Results -/

variable [FloatRepr] [Hashing]

/-- The digest of a batch. -/
def batchDigest (payload : BatchPayload) : Sha256Digest :=
  Hashing.lengthPrefixedSha256 "saliencegate:batch:manifest:v1" [.canonicalJson payload.modelDump]

/-- The fields of a manifest. -/
structure BatchManifestFields where
  payload : BatchPayload
  payloadSize : TextSize
  batchDigest : Sha256Digest
deriving DecidableEq

/-- `_attested_payload`: the canonical payload, if the size and the digest are its own. -/
def BatchManifestFields.attestedPayload (manifest : BatchManifestFields) : Option String :=
  match measure (canonicalJson manifest.payload.modelDump) with
  | .error _ => none
  | .ok measured =>
    if manifest.payloadSize ≠ measured ∨ manifest.batchDigest ≠ SalienceGate.batchDigest manifest.payload then none
    else some (canonicalJson manifest.payload.modelDump)

/-- `metrics_and_digest_match_payload`. -/
def BatchManifestFields.check (manifest : BatchManifestFields) : Check :=
  refuse (manifest.attestedPayload = none) "batch manifest attestation is inconsistent"

/-- `BatchManifest`. -/
structure BatchManifest extends BatchManifestFields where
  valid : toBatchManifestFields.check = .ok ()

/-- `BatchManifest(...)`. -/
def BatchManifest.create (fields : BatchManifestFields) : Except ValidationError BatchManifest :=
  validate BatchManifestFields.check BatchManifest.mk fields

/-- The fields of a result. -/
structure BatchBuildResultFields where
  status : BatchStatus
  reasonCode : Option ReasonCode := none
  manifest : Option BatchManifest := none
  requiredSize : TextSize

/-- `status_matches_payload`. -/
def BatchBuildResultFields.check (result : BatchBuildResultFields) : Check := do
  match result.status with
  | .mandatoryInputOverflow => do
    refuse (result.reasonCode ≠ some .mandatoryInputOverflow) "overflow requires its stable reason code"
    refuse (result.manifest.isSome = true) "overflow cannot expose a partial batch"
  | .ready =>
    refuse (result.reasonCode ≠ none ∨ result.manifest.isNone = true)
      "ready batch requires a manifest and no silence reason"
  refuse (∃ manifest ∈ result.manifest, result.requiredSize ≠ manifest.payloadSize)
    "ready batch required size must match its manifest"

/-- `BatchBuildResult`. -/
structure BatchBuildResult extends BatchBuildResultFields where
  valid : toBatchBuildResultFields.check = .ok ()

/-- `BatchBuildResult(...)`. -/
def BatchBuildResult.create (fields : BatchBuildResultFields) : Except ValidationError BatchBuildResult :=
  validate BatchBuildResultFields.check BatchBuildResult.mk fields

end SalienceGate
