import SalienceGate.Runtime.BatchRecords

/-!
# The deterministic batcher

`build` starts from the payload that has only the latest events verbatim, and then takes events with a
priority out of their aggregates as long as the limits and the budget allow it. The planner knows what each of
these steps does to the size of the payload without writing the payload: each aggregate keeps its sequences in
a doubly linked list, with the bytes of the ends of its ranges and of its identities.
-/

namespace SalienceGate

open Checked Grouping

section

variable [FloatRepr] [Hashing]

/-! ## Priorities -/

/-- The priorities of events. -/
abbrev PriorityReasons := Dict UUID4 (List BatchPriorityKind)

/-- `reasons.get(event_id, set())`. -/
def reasonsOf (reasons : PriorityReasons) (id : UUID4) : List BatchPriorityKind := (reasons.get? id).getD []

/-- `reasons[event_id].add(kind)`. -/
def addReason (kind : BatchPriorityKind) (reasons : PriorityReasons) (id : UUID4) : PriorityReasons :=
  let kinds := reasonsOf reasons id
  reasons.set id (if kind ∈ kinds then kinds else kinds ++ [kind])

/-- What the type of an event adds to the priorities. -/
def addEventReasons (reasons : PriorityReasons) (event : TraceEvent) : PriorityReasons :=
  let reasons := if event.eventType = .controllerError then addReason .controllerError reasons event.eventId else reasons
  if event.eventType = .actionProposal then addReason .actionProposal reasons event.eventId else reasons

/-- `signal_kinds`. -/
def signalKinds : SignalType → Option BatchPriorityKind
  | .toolError => some .toolError
  | .testFailure => some .testFailure
  | .conflict => some .conflict
  | _ => none

/-- What a signal adds to the priorities. -/
def addSignalReasons (reasons : PriorityReasons) (signal : Signal) : PriorityReasons :=
  match signalKinds signal.signalType with
  | none => reasons
  | some kind => signal.evidenceEventIds.foldl (addReason kind) reasons

/-- `_priority_reasons`. -/
def priorityReasons (request : BatchRequest) : PriorityReasons :=
  request.signals.foldl addSignalReasons (request.events.foldl addEventReasons .empty)

/-- `_PRIORITY_ORDER`. -/
def priorityOrder : List BatchPriorityKind :=
  [.controllerError, .testFailure, .conflict, .toolError, .actionProposal]

/-- `_priority_limits`. -/
def priorityLimits (config : BatchConfig) : BatchPriorityKind → ℕ
  | .controllerError => config.maxControllerErrors
  | .actionProposal => config.maxActionProposals
  | .toolError => config.maxToolErrors
  | .testFailure => config.maxTestFailures
  | .conflict => config.maxConflicts

/-- `sorted(reasons.get(event.event_id, set()), key=lambda kind: kind.value)`. -/
def sortedKinds (reasons : PriorityReasons) (event : TraceEvent) : List BatchPriorityKind :=
  sortBy BatchPriorityKind.value (reasonsOf reasons event.eventId)

/-- The order of candidates. -/
def candidateOrder (reasons : PriorityReasons) (event : TraceEvent) : ℕ ×ₗ ℤ ×ₗ ℕ :=
  let ranks := (reasonsOf reasons event.eventId).map priorityOrder.idxOf
  toLex (ranks.min?.getD 0, toLex (-(event.sequence : ℤ), event.eventId.int.toNat))

/-- `_priority_candidates`. -/
def priorityCandidates (request : BatchRequest) (mandatoryIds : Finset UUID4) (reasons : PriorityReasons) :
    List TraceEvent :=
  sortBy (candidateOrder reasons) (request.events.filter fun event =>
    event.eventId ∉ mandatoryIds ∧ reasonsOf reasons event.eventId ≠ [])

/-! ## Aggregates -/

/-- `_digest`. -/
def digest (value : Json) (domain : String) : Sha256Digest :=
  Hashing.lengthPrefixedSha256 domain [.canonicalJson value]

omit [Hashing] in
/-- `_json_shape`. -/
def jsonShape : Json → Json
  | .object items => .object [
      ("field_count", .int items.length),
      ("fields", .list (sortBy canonicalJson (shapesOfItems items))),
      ("kind", .str "object")]
  | .list items => .object [
      ("item_count", .int items.length),
      ("items", .list (shapesOfList items)),
      ("kind", .str "array")]
  | .null => .object [("kind", .str "null")]
  | .bool _ => .object [("kind", .str "boolean")]
  | .int _ => .object [("kind", .str "integer")]
  | .float _ => .object [("kind", .str "number")]
  | .str _ => .object [("kind", .str "string")]
where
  /-- The shapes of the values of a list. -/
  shapesOfList : List Json → List Json
    | [] => []
    | x :: xs => jsonShape x :: shapesOfList xs
  /-- The shapes of the values of an object. -/
  shapesOfItems : List (String × Json) → List Json
    | [] => []
    | x :: xs => jsonShape x.2 :: shapesOfItems xs

/-- `_event_structural_fingerprint`. -/
def eventStructuralFingerprint (event : TraceEvent) : Sha256Digest :=
  digest (.object [
    ("event_type", .str event.eventType.value),
    ("payload_digest_algorithm", .str event.payloadDigest.algorithm.value),
    ("payload_shape", jsonShape event.payload.json),
    ("phase", .str event.phase.value),
    ("trust_label", .str event.trustLabel.value)]) "saliencegate:batch:event-structural-fingerprint:v1"

/-- `_ranges`, of numbers in order. -/
def sequenceRanges (sequences : List ℕ) : Except BatchError (List SequenceRange) := do
  raiseIf (sequences = []) .index
  (Intervals.ranges (sortBy id sequences)).mapM fun range =>
    (SequenceRange.create ⟨range.1, range.2⟩).mapError .invalid

/-- The document behind the source digest of an aggregate. -/
def aggregateSources (events : List TraceEvent) : Json :=
  .list (events.map fun event => .object [
    ("event_id", .str event.eventId.toString),
    ("event_type", .str event.eventType.value),
    ("payload_digest", event.payloadDigest.modelDump),
    ("phase", .str event.phase.value),
    ("sequence", .int event.sequence)])

/-- `_aggregate`. -/
def aggregate (events : List TraceEvent) (priorityKinds : List BatchPriorityKind) :
    Except BatchError EventAggregate := do
  let first ← expect events.head? .index
  let last ← expect events.getLast? .index
  let provenance ← sequenceRanges (events.map (·.sequence))
  (EventAggregate.create {
    eventType := first.eventType
    phase := first.phase
    trustLabel := first.trustLabel
    structuralFingerprint := eventStructuralFingerprint first
    priorityKinds := priorityKinds
    count := events.length
    firstSequence := first.sequence
    lastSequence := last.sequence
    provenanceRanges := provenance
    sourceEventIds := events.map (·.eventId)
    sourceDigest := digest (aggregateSources events) "saliencegate:batch:aggregate-sources:v1" }).mapError .invalid

/-- What events of one aggregate have in common. -/
structure AggregateKey where
  eventType : EventType
  phase : EventPhase
  trustLabel : TrustLabel
  structuralFingerprint : Sha256Digest
  priorityKinds : List BatchPriorityKind
deriving DecidableEq

/-- The order of keys: a key is a tuple of strings. -/
def AggregateKey.order (key : AggregateKey) : String ×ₗ String ×ₗ String ×ₗ String ×ₗ List String :=
  toLex (key.eventType.value, toLex (key.phase.value, toLex (key.trustLabel.value,
    toLex (key.structuralFingerprint.text, key.priorityKinds.map BatchPriorityKind.value))))

/-- `_aggregate_key`. -/
def aggregateKey (reasons : PriorityReasons) (event : TraceEvent) : AggregateKey where
  eventType := event.eventType
  phase := event.phase
  trustLabel := event.trustLabel
  structuralFingerprint := eventStructuralFingerprint event
  priorityKinds := sortedKinds reasons event

/-- `_aggregate_model_key`. -/
def aggregateModelKey (aggregate : EventAggregate) : AggregateKey where
  eventType := aggregate.eventType
  phase := aggregate.phase
  trustLabel := aggregate.trustLabel
  structuralFingerprint := aggregate.structuralFingerprint
  priorityKinds := aggregate.priorityKinds

/-- The order of aggregates. -/
def aggregateOrder (aggregate : EventAggregate) : ℕ ×ₗ String ×ₗ String :=
  toLex (aggregate.firstSequence, toLex (aggregate.eventType.value, aggregate.structuralFingerprint.text))

/-- `_aggregates`. -/
def aggregates (events : List TraceEvent) (reasons : PriorityReasons) : Except BatchError (List EventAggregate) := do
  let groups := groupBy (aggregateKey reasons) events
  let aggregated ← (sortBy (fun group => group.1.order) groups.items).mapM fun group =>
    aggregate (sortBy (·.sequence) group.2) group.1.priorityKinds
  pure (sortBy aggregateOrder aggregated)

/-! ## Payloads -/

omit [FloatRepr] [Hashing] in
/-- `_mandatory_memories`. -/
def mandatoryMemories (request : BatchRequest) : List BatchMemory :=
  request.taskRequirements.map (BatchMemory.mk .taskRequirement)
    ++ request.unresolvedState.map (BatchMemory.mk .unresolvedState)

omit [FloatRepr] [Hashing] in
/-- `_verbatim_event`. -/
def verbatimEvent (event : TraceEvent) (reasons : PriorityReasons) : Except BatchError VerbatimEvent :=
  (VerbatimEvent.create ⟨event, sortedKinds reasons event⟩).mapError .invalid

/-- `_payload`. -/
def payload (request : BatchRequest) (configDigest : Sha256Digest) (verbatimIds : Finset UUID4)
    (reasons : PriorityReasons) : Except BatchError BatchPayload := do
  let verbatim ← (request.events.filter (·.eventId ∈ verbatimIds)).mapM fun event => verbatimEvent event reasons
  let compacted ← aggregates (request.events.filter (·.eventId ∉ verbatimIds)) reasons
  let first ← expect request.events.head? .index
  let last ← expect request.events.getLast? .index
  (BatchPayload.create {
    runId := request.runId
    memoryCursor := request.memoryCursor
    firstEventSequence := first.sequence
    lastEventSequence := last.sequence
    configurationDigest := configDigest
    mandatoryMemories := mandatoryMemories request
    verbatimEvents := verbatim
    aggregates := compacted
    representedEventCount := request.events.length }).mapError .invalid

end

/-! ## Sizes of aggregates -/

/-- `_array_inner_size`. -/
def arrayInnerSize (count itemBytes : ℤ) : Except BatchError ℤ := do
  raiseIf (count < 0 ∨ itemBytes < 0 ∨ decide (count = 0) ≠ decide (itemBytes = 0)) .batchIntegrity
  pure (itemBytes + max (count - 1) 0)

/-- `shell[key] = value`, for a key that the shell has. -/
def setMember (shell : List (String × Json)) (key : String) (value : Json) : List (String × Json) :=
  shell.map fun x => if x.1 = key then (key, value) else x

/-- The dictionary that a comprehension builds. -/
def dictOf {κ ν : Type} [DecidableEq κ] (items : List (κ × ν)) : Dict κ ν :=
  items.foldl (fun dict item => dict.set item.1 item.2) .empty

section

variable [FloatRepr]

/-- `_RANGE_FIXED_BYTES`. -/
def rangeFixedBytes : ℤ :=
  canonicalSize (.object [("first_sequence", .int 1), ("last_sequence", .int 1)]) - 2 * canonicalSize (.int 1)

/-- The bytes of a sequence. -/
def sequenceSize (sequence : ℕ) : ℤ := canonicalSize (.int sequence)

/-- `_AggregateRemoval`. -/
structure AggregateRemoval where
  sequence : ℕ
  previousSequence : Option ℕ
  nextSequence : Option ℕ
  count : ℤ
  headSequence : Option ℕ
  tailSequence : Option ℕ
  rangeCount : ℤ
  rangeEndpointBytes : ℤ
  sourceIdBytes : ℤ
  serializedSize : ℤ

/-- `_AggregateSizeState`. -/
structure AggregateSizeState where
  aggregateShell : List (String × Json)
  remainingSequences : Finset ℕ
  previousSequences : Dict ℕ (Option ℕ)
  nextSequences : Dict ℕ (Option ℕ)
  eventSequences : Dict UUID4 ℕ
  sourceIdSizes : Dict UUID4 ℤ
  count : ℤ
  headSequence : Option ℕ
  tailSequence : Option ℕ
  rangeCount : ℤ
  rangeEndpointBytes : ℤ
  sourceIdBytes : ℤ
  currentSize : ℤ

namespace AggregateSizeState

/-- `_serialized_size`. -/
def serializedSize (shell : List (String × Json)) (count : ℤ) (headSequence tailSequence : Option ℕ)
    (rangeCount rangeEndpointBytes sourceIdBytes : ℤ) : Except BatchError ℤ :=
  if count = 0 then pure 0
  else do
    let head ← expect headSequence .batchIntegrity
    let tail ← expect tailSequence .batchIntegrity
    raiseIf (rangeCount < 1) .batchIntegrity
    let shell := setMember shell "count" (.int count)
    let shell := setMember shell "first_sequence" (.int head)
    let shell := setMember shell "last_sequence" (.int tail)
    let rangeItemBytes := rangeCount * rangeFixedBytes + rangeEndpointBytes
    let rangeBytes ← arrayInnerSize rangeCount rangeItemBytes
    let idBytes ← arrayInnerSize count sourceIdBytes
    pure (canonicalSize (.object shell) + rangeBytes + idBytes)

/-- `from_aggregate`. -/
def fromAggregate (aggregate : EventAggregate) (events : List TraceEvent) : Except BatchError AggregateSizeState := do
  let ordered := sortBy (·.sequence) events
  raiseIf (ordered.map (·.eventId) ≠ aggregate.sourceEventIds) .batchIntegrity
  let sequences := ordered.map (·.sequence)
  let sourceIdSizes := dictOf (ordered.map fun event =>
    (event.eventId, (canonicalSize (.str event.eventId.toString) : ℤ)))
  let aggregateShell := setMember (setMember aggregate.members "provenance_ranges" (.list []))
    "source_event_ids" (.list [])
  let head ← expect sequences.head? .index
  let tail ← expect sequences.getLast? .index
  let rangeEndpointBytes := (aggregate.provenanceRanges.map fun item =>
    sequenceSize item.firstSequence + sequenceSize item.lastSequence).sum
  let currentSize ← serializedSize aggregateShell ordered.length head tail aggregate.provenanceRanges.length
    rangeEndpointBytes sourceIdSizes.values.sum
  raiseIf (currentSize ≠ canonicalSize aggregate.modelDump) .batchIntegrity
  pure {
    aggregateShell := aggregateShell
    remainingSequences := sequences.toFinset
    previousSequences := dictOf (sequences.zip (none :: sequences.map some))
    nextSequences := dictOf (sequences.zip (sequences.tail.map some ++ [none]))
    eventSequences := dictOf (ordered.map fun event => (event.eventId, event.sequence))
    sourceIdSizes := sourceIdSizes
    count := ordered.length
    headSequence := some head
    tailSequence := some tail
    rangeCount := aggregate.provenanceRanges.length
    rangeEndpointBytes := rangeEndpointBytes
    sourceIdBytes := sourceIdSizes.values.sum
    currentSize := currentSize }

/-- What taking a sequence out does to the number of ranges and to the bytes of their ends. -/
def rangesWithout (state : AggregateSizeState) (sequence : ℕ) : ℤ × ℤ :=
  let previousIsAdjacent := sequence - 1 ∈ state.remainingSequences
  let nextIsAdjacent := sequence + 1 ∈ state.remainingSequences
  if previousIsAdjacent ∧ nextIsAdjacent then
    (state.rangeCount + 1, state.rangeEndpointBytes + (sequenceSize (sequence - 1) + sequenceSize (sequence + 1)))
  else if previousIsAdjacent then
    (state.rangeCount, state.rangeEndpointBytes + (sequenceSize (sequence - 1) - sequenceSize sequence))
  else if nextIsAdjacent then
    (state.rangeCount, state.rangeEndpointBytes + (sequenceSize (sequence + 1) - sequenceSize sequence))
  else
    (state.rangeCount - 1, state.rangeEndpointBytes - 2 * sequenceSize sequence)

/-- `preview_removal`. -/
def previewRemoval (state : AggregateSizeState) (eventId : UUID4) : Except BatchError AggregateRemoval := do
  let sequence ← expect (state.eventSequences.get? eventId) .batchIntegrity
  let previousSequence ← expect (state.previousSequences.get? sequence) .batchIntegrity
  let nextSequence ← expect (state.nextSequences.get? sequence) .batchIntegrity
  let sourceSize ← expect (state.sourceIdSizes.get? eventId) .batchIntegrity
  let count := state.count - 1
  let headSequence := if some sequence = state.headSequence then nextSequence else state.headSequence
  let tailSequence := if some sequence = state.tailSequence then previousSequence else state.tailSequence
  let headSequence := if count = 0 then none else headSequence
  let tailSequence := if count = 0 then none else tailSequence
  let ranges := state.rangesWithout sequence
  let sourceIdBytes := state.sourceIdBytes - sourceSize
  let serializedSize ← serializedSize state.aggregateShell count headSequence tailSequence ranges.1 ranges.2 sourceIdBytes
  pure {
    sequence := sequence
    previousSequence := previousSequence
    nextSequence := nextSequence
    count := count
    headSequence := headSequence
    tailSequence := tailSequence
    rangeCount := ranges.1
    rangeEndpointBytes := ranges.2
    sourceIdBytes := sourceIdBytes
    serializedSize := serializedSize }

/-- `apply_removal`. -/
def applyRemoval (state : AggregateSizeState) (eventId : UUID4) (removal : AggregateRemoval) :
    Except BatchError AggregateSizeState := do
  raiseIf (state.eventSequences.get? eventId ≠ some removal.sequence) .batchIntegrity
  let nextSequences := match removal.previousSequence with
    | none => state.nextSequences
    | some previous => state.nextSequences.set previous removal.nextSequence
  let previousSequences := match removal.nextSequence with
    | none => state.previousSequences
    | some next => state.previousSequences.set next removal.previousSequence
  raiseIf (removal.sequence ∉ state.remainingSequences) .key
  raiseIf (removal.sequence ∉ previousSequences) .key
  raiseIf (removal.sequence ∉ nextSequences) .key
  raiseIf (eventId ∉ state.sourceIdSizes) .key
  pure { state with
    remainingSequences := state.remainingSequences.erase removal.sequence
    previousSequences := previousSequences.erase removal.sequence
    nextSequences := nextSequences.erase removal.sequence
    eventSequences := state.eventSequences.erase eventId
    sourceIdSizes := state.sourceIdSizes.erase eventId
    count := removal.count
    headSequence := removal.headSequence
    tailSequence := removal.tailSequence
    rangeCount := removal.rangeCount
    rangeEndpointBytes := removal.rangeEndpointBytes
    sourceIdBytes := removal.sourceIdBytes
    currentSize := removal.serializedSize }

end AggregateSizeState

/-! ## The size of a batch -/

/-- `_PromotionPreview`. The state of an aggregate is an object, which the key of the aggregate stands for. -/
structure PromotionPreview where
  eventId : UUID4
  aggregateState : AggregateKey
  aggregateRemoval : AggregateRemoval
  verbatimCount : ℤ
  verbatimItemBytes : ℤ
  aggregateCount : ℤ
  aggregateItemBytes : ℤ
  totalSize : ℤ

/-- `_BatchSizePlanner`, with the states of the aggregates that it refers to. -/
structure BatchSizePlanner where
  shellSize : ℤ
  verbatimCount : ℤ
  verbatimItemBytes : ℤ
  aggregateCount : ℤ
  aggregateItemBytes : ℤ
  totalSize : ℤ
  aggregateByEvent : Dict UUID4 AggregateKey
  states : Dict AggregateKey AggregateSizeState

namespace BatchSizePlanner

/-- `from_payload`. -/
def fromPayload [InstantText] [Hashing] (request : BatchRequest) (payload : BatchPayload) (payloadSize : TextSize)
    (verbatimIds : Finset UUID4) (reasons : PriorityReasons) : Except BatchError BatchSizePlanner := do
  let groups := groupBy (aggregateKey reasons) (request.events.filter (·.eventId ∉ verbatimIds))
  let aggregatesByKey := dictOf (payload.aggregates.map fun aggregate => (aggregateModelKey aggregate, aggregate))
  raiseIf (aggregatesByKey.size ≠ payload.aggregates.length
      ∨ groups.keys.toFinset ≠ aggregatesByKey.keys.toFinset) .batchIntegrity
  let states ← groups.items.mapM fun group => do
    let aggregate ← expect (aggregatesByKey.get? group.1) .key
    let state ← AggregateSizeState.fromAggregate aggregate group.2
    pure (group.1, state)
  let shell := setMember (setMember payload.members "aggregates" (.list [])) "verbatim_events" (.list [])
  let verbatimItemBytes := (payload.verbatimEvents.map fun item => (canonicalSize item.modelDump : ℤ)).sum
  let aggregateItemBytes := (states.map fun state => state.2.currentSize).sum
  let verbatimBytes ← arrayInnerSize payload.verbatimEvents.length verbatimItemBytes
  let aggregateBytes ← arrayInnerSize states.length aggregateItemBytes
  let totalSize := canonicalSize (.object shell) + verbatimBytes + aggregateBytes
  raiseIf (totalSize ≠ payloadSize.utf8Bytes) .batchIntegrity
  pure {
    shellSize := canonicalSize (.object shell)
    verbatimCount := payload.verbatimEvents.length
    verbatimItemBytes := verbatimItemBytes
    aggregateCount := states.length
    aggregateItemBytes := aggregateItemBytes
    totalSize := totalSize
    aggregateByEvent := dictOf (groups.items.flatMap fun group => group.2.map fun event => (event.eventId, group.1))
    states := dictOf states }

/-- `preview`. -/
def preview (planner : BatchSizePlanner) (eventId : UUID4) (verbatimSize : ℤ) : Except BatchError PromotionPreview := do
  let key ← expect (planner.aggregateByEvent.get? eventId) .batchIntegrity
  let state ← expect (planner.states.get? key) .batchIntegrity
  let removal ← state.previewRemoval eventId
  let aggregateCount := planner.aggregateCount - if removal.count = 0 then 1 else 0
  let aggregateItemBytes := planner.aggregateItemBytes - state.currentSize + removal.serializedSize
  let verbatimCount := planner.verbatimCount + 1
  let verbatimItemBytes := planner.verbatimItemBytes + verbatimSize
  let verbatimBytes ← arrayInnerSize verbatimCount verbatimItemBytes
  let aggregateBytes ← arrayInnerSize aggregateCount aggregateItemBytes
  pure {
    eventId := eventId
    aggregateState := key
    aggregateRemoval := removal
    verbatimCount := verbatimCount
    verbatimItemBytes := verbatimItemBytes
    aggregateCount := aggregateCount
    aggregateItemBytes := aggregateItemBytes
    totalSize := planner.shellSize + verbatimBytes + aggregateBytes }

/-- `apply`. -/
def apply (planner : BatchSizePlanner) (preview : PromotionPreview) : Except BatchError BatchSizePlanner := do
  raiseIf (planner.aggregateByEvent.get? preview.eventId ≠ some preview.aggregateState) .batchIntegrity
  let state ← expect (planner.states.get? preview.aggregateState) .batchIntegrity
  let state ← state.applyRemoval preview.eventId preview.aggregateRemoval
  pure { planner with
    verbatimCount := preview.verbatimCount
    verbatimItemBytes := preview.verbatimItemBytes
    aggregateCount := preview.aggregateCount
    aggregateItemBytes := preview.aggregateItemBytes
    totalSize := preview.totalSize
    aggregateByEvent := planner.aggregateByEvent.erase preview.eventId
    states := planner.states.set preview.aggregateState state }

end BatchSizePlanner

/-! ## Building -/

variable [InstantText] [Hashing]

/-- `_measure`. -/
def measurePayload (payload : BatchPayload) : Except BatchError TextSize :=
  (measure (canonicalJson payload.modelDump)).mapError fun _ => .batchInput

omit [FloatRepr] [InstantText] [Hashing] in
/-- `_fits`. -/
def fits (size : TextSize) (config : BatchConfig) : Bool :=
  size.utf8Bytes ≤ config.maxUtf8Bytes ∧ size.approximateTokens ≤ config.maxApproximateTokens

/-- What the loop over the candidates carries. -/
structure Promotions where
  planner : BatchSizePlanner
  verbatimIds : Finset UUID4
  used : BatchPriorityKind → ℕ

/-- One candidate in the loop. -/
def promote (config : BatchConfig) (reasons : PriorityReasons) (promotions : Promotions) (candidate : TraceEvent) :
    Except BatchError Promotions :=
  let candidateReasons := reasonsOf reasons candidate.eventId
  if ∃ reason ∈ candidateReasons, priorityLimits config reason ≤ promotions.used reason then pure promotions
  else do
    let wrapper ← verbatimEvent candidate reasons
    let preview ← promotions.planner.preview candidate.eventId (canonicalSize wrapper.modelDump)
    if preview.totalSize < promotions.planner.totalSize
        ∨ ((min config.maxUtf8Bytes (config.maxApproximateTokens * 4) : ℕ) : ℤ) < preview.totalSize then
      pure promotions
    else do
      let planner ← promotions.planner.apply preview
      pure {
        planner := planner
        verbatimIds := insert candidate.eventId promotions.verbatimIds
        used := fun kind => promotions.used kind + if kind ∈ candidateReasons then 1 else 0 }

/-- What a handler makes of an error that is not the integrity error. -/
def sanitized : BatchError → BatchError
  | .index => .index
  | _ => .batchInput

/-- The handlers of the second half of `build`, which let the integrity error through. -/
def sanitizedUnlessIntegrity : BatchError → BatchError
  | .batchIntegrity => .batchIntegrity
  | error => sanitized error

omit [FloatRepr] [InstantText] [Hashing] in
/-- The latest events. -/
def recentEvents (request : BatchRequest) (config : BatchConfig) : List TraceEvent :=
  if config.recentEventCount ≠ 0 then request.events.drop (request.events.length - config.recentEventCount) else []

/-- The digest of a configuration. -/
def configurationDigest (config : BatchConfig) : Sha256Digest :=
  digest config.modelDump "saliencegate:batch:configuration:v1"

omit [FloatRepr] [InstantText] [Hashing] in
/-- The identities of the latest events. -/
def recentIds (request : BatchRequest) (config : BatchConfig) : Finset UUID4 :=
  ((recentEvents request config).map (·.eventId)).toFinset

omit [FloatRepr] [InstantText] [Hashing] in
/-- How many of the events carry a kind. -/
def usedBy (reasons : PriorityReasons) (verbatimIds : Finset UUID4) (kind : BatchPriorityKind) : ℕ :=
  (verbatimIds.filter fun id => kind ∈ reasonsOf reasons id).card

/-- The loop over the candidates, from the payload with the latest events. -/
def promotions (request : BatchRequest) (config : BatchConfig) (current : BatchPayload) (currentSize : TextSize)
    (candidates : List TraceEvent) : Except BatchError Promotions := do
  let reasons := priorityReasons request
  let verbatimIds := recentIds request config
  let planner ← BatchSizePlanner.fromPayload request current currentSize verbatimIds reasons
  candidates.foldlM (promote config reasons) ⟨planner, verbatimIds, usedBy reasons verbatimIds⟩

/-- The payload after the loop, made again if an event was promoted, and its size. -/
def finalPayload (request : BatchRequest) (config : BatchConfig) (current : BatchPayload) (currentSize : TextSize)
    (done : Promotions) : Except BatchError (BatchPayload × TextSize) :=
  if done.verbatimIds.card ≠ (recentEvents request config).length then do
    let current ← payload request (configurationDigest config) done.verbatimIds (priorityReasons request)
    let currentSize ← measurePayload current
    pure (current, currentSize)
  else pure (current, currentSize)

/-- The second half of `build`: the promotions, and the batch with them. -/
def promoted (request : BatchRequest) (config : BatchConfig) (current : BatchPayload) (currentSize : TextSize) :
    Except BatchError BatchBuildResult := do
  let reasons := priorityReasons request
  let candidates := priorityCandidates request (recentIds request config) reasons
  let done ← promotions request config current currentSize candidates
  let (current, currentSize) ← finalPayload request config current currentSize done
  raiseIf ((currentSize.utf8Bytes : ℤ) ≠ done.planner.totalSize ∨ fits currentSize config = false) .batchIntegrity
  let manifest ← (BatchManifest.create ⟨current, currentSize, batchDigest current⟩).mapError .invalid
  (BatchBuildResult.create {
    status := .ready
    manifest := some manifest
    requiredSize := currentSize }).mapError .invalid

/-- The first half of `build`: the payload with the latest events verbatim, and its size. -/
def mandatory (request : BatchRequest) (config : BatchConfig) : Except BatchError (BatchPayload × TextSize) := do
  let current ← payload request (configurationDigest config) (recentIds request config) (priorityReasons request)
  let currentSize ← measurePayload current
  pure (current, currentSize)

/-- `DeterministicBatcher.build`, of a request and a configuration that were copied. -/
def build (request : BatchRequest) (config : BatchConfig) : Except BatchError BatchBuildResult := do
  let (current, currentSize) ← (mandatory request config).mapError sanitized
  if fits currentSize config = false then
    (BatchBuildResult.create {
      status := .mandatoryInputOverflow
      reasonCode := some .mandatoryInputOverflow
      requiredSize := currentSize }).mapError .invalid
  else (promoted request config current currentSize).mapError sanitizedUnlessIntegrity

end

end SalienceGate
