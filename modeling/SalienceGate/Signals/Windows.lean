import Mathlib.Data.List.Chain
import SalienceGate.Lib.Sliding
import SalienceGate.Signals.Extraction

/-!
# Trusted detection windows

A sequence of events is admitted once: its events are put in order, their costs are added up, and the
walk of a sliding window finds for each event the least start whose window ends at it and is within the
bound. The context of that window is then handed to an extractor without a second validation.
-/

namespace SalienceGate

open Checked

/-- `_DetectionSequenceProof`. -/
structure DetectionSequenceProof where
  runId : UUID4
  events : List TraceEvent
  eventCosts : List ℕ
  prefixCosts : List ℕ
  contextStarts : List ℕ
  maximumContextCost : ℕ

/-- `_detection_sequence_proof_is_exact`. -/
def detectionSequenceProofIsExact (value : DetectionSequenceProof) : Bool :=
  1 ≤ value.events.length ∧ value.events.length ≤ maxDetectionEvents
    ∧ value.eventCosts.length = value.events.length
    ∧ value.prefixCosts.length = value.events.length + 1
    ∧ value.contextStarts.length = value.events.length
    ∧ value.prefixCosts.head? = some 0
    ∧ value.maximumContextCost = maxContextSizeUpperBound
    ∧ (∀ cost ∈ value.eventCosts.head?, 0 < cost)
    ∧ (∀ cost ∈ value.eventCosts.getLast?, 0 < cost)
    ∧ (∀ cost ∈ value.prefixCosts.getLast?, 0 < cost)
    ∧ value.contextStarts.head? = some 0
    ∧ (∀ start ∈ value.contextStarts.getLast?, start < value.events.length)

/-- `_admit_detection_sequence`. -/
def admitDetectionSequence (events : List TraceEvent) :
    Except DetectionError DetectionSequenceProof := do
  raiseIf (¬(1 ≤ events.length ∧ events.length ≤ maxDetectionEvents)) .input
  let copiedEvents := orderEvents events
  let first ← expect copiedEvents.head? .input
  raiseIf ((∃ last ∈ copiedEvents.getLast?, maxSigned64 < last.sequence)
      ∨ (∃ event ∈ copiedEvents, event.runId ≠ first.runId)
      ∨ ¬ContiguousSequences copiedEvents
      ∨ ¬(copiedEvents.map (·.eventId)).Nodup ∨ ¬(copiedEvents.map (·.sourceEventId)).Nodup) .input
  let costs ← expect (copiedEvents.mapM contextEventCost) .input
  let contextStarts ← expect (Sliding.slide maxContextSizeUpperBound costs 0 0 0 costs) .input
  let result : DetectionSequenceProof := {
    runId := first.runId
    events := copiedEvents
    eventCosts := costs
    prefixCosts := costs.scanl (· + ·) 0
    contextStarts
    maximumContextCost := maxContextSizeUpperBound }
  raiseIf (detectionSequenceProofIsExact result = false) .input
  pure result

/-- `_TrustedDetectionContext`. -/
structure TrustedDetectionContext where
  sequence : DetectionSequenceProof
  context : DetectionContextFields
  startIndex : ℕ
  endOrdinal : ℕ
  events : List TraceEvent

/-- The cost of the events from a start to an end, read off the prefix costs. -/
def DetectionSequenceProof.costBetween (sequence : DetectionSequenceProof) (start stop : ℕ) : ℕ :=
  sequence.prefixCosts.getD stop 0 - sequence.prefixCosts.getD start 0

/-- `_trusted_detection_context_is_exact`. -/
def trustedDetectionContextIsExact (value : TrustedDetectionContext) : Bool :=
  detectionSequenceProofIsExact value.sequence = true
    ∧ value.startIndex < value.endOrdinal ∧ value.endOrdinal ≤ value.sequence.events.length
    ∧ value.context.runId = value.sequence.runId
    ∧ value.context.events = value.events
    ∧ value.events.length = value.endOrdinal - value.startIndex
    ∧ value.events.head? = value.sequence.events[value.startIndex]?
    ∧ value.events.getLast? = value.sequence.events[value.endOrdinal - 1]?
    ∧ value.sequence.costBetween value.startIndex value.endOrdinal
      ≤ value.sequence.maximumContextCost
    ∧ (value.startIndex = 0 ∨ value.sequence.maximumContextCost
      < value.sequence.costBetween (value.startIndex - 1) value.endOrdinal)

/-- The events of a sequence from a start to an end. -/
def DetectionSequenceProof.window (sequence : DetectionSequenceProof) (start stop : ℕ) :
    List TraceEvent :=
  (sequence.events.take stop).drop start

/-- `_longest_trusted_detection_context`. -/
def longestTrustedDetectionContext (sequence : DetectionSequenceProof) (endOrdinal : ℕ) :
    Except DetectionError TrustedDetectionContext := do
  raiseIf (detectionSequenceProofIsExact sequence = false
      ∨ ¬(1 ≤ endOrdinal ∧ endOrdinal ≤ sequence.events.length)) .input
  let startIndex ← expect sequence.contextStarts[endOrdinal - 1]? .input
  let windowEvents := sequence.window startIndex endOrdinal
  let result : TrustedDetectionContext := {
    sequence
    context := ⟨sequence.runId, windowEvents⟩
    startIndex
    endOrdinal
    events := windowEvents }
  raiseIf (trustedDetectionContextIsExact result = false) .input
  pure result

/-- `_trusted_extractor_is_exact`. -/
def trustedExtractorIsExact (extractor : DeterministicSignalExtractor) : Bool :=
  extractor.entries.all (·.acceptsTrustedContext)

section

variable [Hashing]

/-- `_trusted_extraction_is_exact`. -/
def trustedExtractionIsExact (trustedContext : TrustedDetectionContext) (report : ExtractionReport) :
    Bool :=
  trustedDetectionContextIsExact trustedContext = true
    ∧ report.runId = trustedContext.context.runId
    ∧ trustedContext.context.events.getLast?.map (·.eventId) = some report.currentEventId
    ∧ trustedContext.context.events.getLast?.map (·.timestamp) = some report.currentEventTimestamp

/-- `_extract_trusted_report`: the report of the extraction. -/
def extractTrustedReport (extractor : DeterministicSignalExtractor)
    (trustedContext : TrustedDetectionContext) : Except DetectionError ExtractionReport := do
  raiseIf (trustedExtractorIsExact extractor = false
      ∨ trustedDetectionContextIsExact trustedContext = false) .contract
  let evaluations ← (extractor.evaluateValidated trustedContext.context).mapError fun _ => .contract
  let report ← (materializeExtractionReport trustedContext.context evaluations).mapError
    fun _ => .contract
  raiseIf (trustedExtractionIsExact trustedContext report = false) .contract
  pure report

end

/-! ## Admitted sequences -/

/-- The cost of the events of a window. -/
def windowCost (events : List TraceEvent) (start stop : ℕ) : ℕ :=
  (((events.take stop).drop start).map fun event => (contextEventCost event).getD 0).sum

/-- What an admitted sequence is: the ordered events of one run, with their costs, the sums of these and
the starts that the walk found. -/
structure Admits (events : List TraceEvent) (sequence : DetectionSequenceProof) : Prop where
  events_eq : sequence.events = orderEvents events
  nonempty : 1 ≤ sequence.events.length
  bounded : sequence.events.length ≤ maxDetectionEvents
  sequences : ∀ event ∈ sequence.events, event.sequence ≤ maxSigned64
  oneRun : ∀ event ∈ sequence.events, event.runId = sequence.runId
  contiguous : ContiguousSequences sequence.events
  eventIds : (sequence.events.map (·.eventId)).Nodup
  sourceIds : (sequence.events.map (·.sourceEventId)).Nodup
  costs : sequence.events.mapM contextEventCost = some sequence.eventCosts
  prefixCosts : sequence.prefixCosts = sequence.eventCosts.scanl (· + ·) 0
  starts : Sliding.slide maxContextSizeUpperBound sequence.eventCosts 0 0 0 sequence.eventCosts
    = some sequence.contextStarts
  maximum : sequence.maximumContextCost = maxContextSizeUpperBound
  exact : detectionSequenceProofIsExact sequence = true

/-- In a sequence in order, the last event has the largest sequence. -/
theorem sequence_le_last {events : List TraceEvent} (hcontiguous : ContiguousSequences events)
    (hlast : ∀ last ∈ events.getLast?, last.sequence ≤ maxSigned64) :
    ∀ event ∈ events, event.sequence ≤ maxSigned64 := by
  intro event hevent
  obtain ⟨front, last, rfl⟩ : ∃ front last, events = front ++ [last] := by
    have hne : events ≠ [] := List.ne_nil_of_mem hevent
    exact ⟨events.dropLast, events.getLast hne, (List.dropLast_append_getLast hne).symm⟩
  have hbound := hlast last (by simp)
  have hsorted := hcontiguous.sorted
  rcases List.mem_append.mp hevent with hfront | hone
  · have hlt := (List.pairwise_append.mp hsorted).2.2 event hfront last (List.mem_singleton.mpr rfl)
    omega
  · rw [List.mem_singleton.mp hone]
    exact hbound

theorem admits_of_admit {events : List TraceEvent} {sequence : DetectionSequenceProof}
    (h : admitDetectionSequence events = .ok sequence) : Admits events sequence := by
  unfold admitDetectionSequence at h
  obtain ⟨hlength, h⟩ := raiseIf_bind_eq_ok.mp h
  obtain ⟨first, hfirst, h⟩ := expect_bind_eq_ok.mp h
  obtain ⟨hrun, h⟩ := raiseIf_bind_eq_ok.mp h
  obtain ⟨costs, hcosts, h⟩ := expect_bind_eq_ok.mp h
  obtain ⟨starts, hstarts, h⟩ := expect_bind_eq_ok.mp h
  obtain ⟨hexact, h⟩ := raiseIf_bind_eq_ok.mp h
  obtain rfl := pure_eq_ok.mp h
  obtain ⟨hpositive, hbound⟩ := not_not.mp hlength
  simp only [not_or, not_exists, not_and, not_not, not_lt] at hrun
  obtain ⟨hlast, honeRun, hcontiguous, hids, hsources⟩ := hrun
  have hcount : (orderEvents events).length = events.length := List.length_insertionSort _ _
  exact {
    events_eq := rfl
    nonempty := hcount.symm ▸ hpositive
    bounded := hcount.symm ▸ hbound
    sequences := sequence_le_last hcontiguous hlast
    oneRun := honeRun
    contiguous := hcontiguous
    eventIds := hids
    sourceIds := hsources
    costs := hcosts
    prefixCosts := rfl
    starts := hstarts
    maximum := rfl
    exact := by simpa using hexact }

namespace Admits

variable {events : List TraceEvent} {sequence : DetectionSequenceProof}

theorem map_costs (h : Admits events sequence) :
    sequence.events.map contextEventCost = sequence.eventCosts.map some := mapM_eq_some.mp h.costs

theorem length_costs (h : Admits events sequence) :
    sequence.eventCosts.length = sequence.events.length := by
  simpa using (congrArg List.length h.map_costs).symm

theorem window_costs (h : Admits events sequence) (start stop : ℕ) :
    (sequence.window start stop).map contextEventCost
      = ((sequence.eventCosts.take stop).drop start).map some := by
  unfold DetectionSequenceProof.window
  rw [List.map_drop, List.map_take, h.map_costs, ← List.map_take, ← List.map_drop]

/-- The cost of a window, counted from its events, is a difference of two prefix costs. -/
theorem windowCost_eq (h : Admits events sequence) {start stop : ℕ} (hle : start ≤ stop) :
    windowCost sequence.events start stop
      = Sliding.prefixCost sequence.eventCosts stop - Sliding.prefixCost sequence.eventCosts start := by
  rw [← Sliding.sum_window _ hle]
  unfold windowCost
  have hmap : (sequence.window start stop).map (fun event => (contextEventCost event).getD 0)
      = (sequence.eventCosts.take stop).drop start := by
    calc (sequence.window start stop).map (fun event => (contextEventCost event).getD 0)
        = ((sequence.window start stop).map contextEventCost).map (·.getD 0) := by
          rw [List.map_map]
          rfl
      _ = (((sequence.eventCosts.take stop).drop start).map some).map (·.getD 0) := by
          rw [h.window_costs]
      _ = (sequence.eventCosts.take stop).drop start := by
          rw [List.map_map]
          exact List.map_id _
  exact congrArg List.sum hmap

/-- The cost that the exactness check reads off the prefix costs is the same difference. -/
theorem costBetween_eq (h : Admits events sequence) {start stop : ℕ} (hle : start ≤ stop)
    (hstop : stop ≤ sequence.events.length) :
    sequence.costBetween start stop
      = Sliding.prefixCost sequence.eventCosts stop - Sliding.prefixCost sequence.eventCosts start := by
  have hlength := h.length_costs
  unfold DetectionSequenceProof.costBetween
  rw [h.prefixCosts, Sliding.getD_scanl _ (by omega), Sliding.getD_scanl _ (by omega)]

/-- For every end the walk found the least start. -/
theorem exists_least (h : Admits events sequence) {endOrdinal : ℕ} (hpositive : 1 ≤ endOrdinal)
    (hend : endOrdinal ≤ sequence.events.length) :
    ∃ start, sequence.contextStarts[endOrdinal - 1]? = some start
      ∧ Sliding.Least maxContextSizeUpperBound sequence.eventCosts start endOrdinal := by
  have htooLong : Sliding.TooLong maxContextSizeUpperBound sequence.eventCosts 0 0 := by
    intro start hstart
    omega
  obtain ⟨hlength, hleast⟩ := @Sliding.slide_least _ _ _ 0 0 0 _
    List.drop_zero (Nat.le_refl 0) rfl htooLong h.starts
  have hcosts := h.length_costs
  have hlt : endOrdinal - 1 < sequence.contextStarts.length := by omega
  refine ⟨sequence.contextStarts[endOrdinal - 1], List.getElem?_eq_getElem hlt, ?_⟩
  have hstop : 0 + (endOrdinal - 1) + 1 = endOrdinal := by omega
  have hspec := hleast (endOrdinal - 1) _ (List.getElem?_eq_getElem hlt)
  rwa [hstop] at hspec

/-- The trusted context of a start. -/
def trusted (sequence : DetectionSequenceProof) (start endOrdinal : ℕ) : TrustedDetectionContext where
  sequence
  context := ⟨sequence.runId, sequence.window start endOrdinal⟩
  startIndex := start
  endOrdinal
  events := sequence.window start endOrdinal

theorem window_head? {start stop : ℕ} (hlt : start < stop) :
    (sequence.window start stop).head? = sequence.events[start]? := by
  unfold DetectionSequenceProof.window
  rw [List.head?_drop, List.getElem?_take, if_pos hlt]

theorem window_length {start stop : ℕ} (hstop : stop ≤ sequence.events.length) :
    (sequence.window start stop).length = stop - start := by
  unfold DetectionSequenceProof.window
  rw [List.length_drop, List.length_take, Nat.min_eq_left hstop]

theorem window_getLast? {start stop : ℕ} (hlt : start < stop)
    (hstop : stop ≤ sequence.events.length) :
    (sequence.window start stop).getLast? = sequence.events[stop - 1]? := by
  have hshort : ¬(sequence.events.take stop).length ≤ start := by
    rw [List.length_take]
    omega
  obtain ⟨event, hget⟩ : ∃ event, sequence.events[stop - 1]? = some event := by
    have hlt' : stop - 1 < sequence.events.length := by omega
    exact ⟨_, List.getElem?_eq_getElem hlt'⟩
  unfold DetectionSequenceProof.window
  rw [List.getLast?_drop, if_neg hshort, List.getLast?_take, if_neg (by omega), hget]
  rfl

/-- The context of the least start passes the exactness check. -/
theorem trusted_isExact (h : Admits events sequence) {start endOrdinal : ℕ}
    (hend : endOrdinal ≤ sequence.events.length)
    (hleast : Sliding.Least maxContextSizeUpperBound sequence.eventCosts start endOrdinal) :
    trustedDetectionContextIsExact (trusted sequence start endOrdinal) = true := by
  obtain ⟨hlt, hwithin, htooLong⟩ := hleast
  unfold trustedDetectionContextIsExact trusted
  refine decide_eq_true ⟨h.exact, hlt, hend, rfl, rfl, window_length hend, window_head? hlt,
    window_getLast? hlt hend, ?_, ?_⟩
  · dsimp only
    rw [h.costBetween_eq (Nat.le_of_lt hlt) hend, h.maximum]
    exact hwithin
  · dsimp only
    rcases Nat.eq_zero_or_pos start with hzero | hpos
    · exact .inl hzero
    · refine .inr ?_
      rw [h.costBetween_eq (by omega) hend, h.maximum]
      exact htooLong (start - 1) (by omega)

/-- For every ordinal of the sequence there is a longest context. -/
theorem longest_eq (h : Admits events sequence) {start endOrdinal : ℕ} (hpositive : 1 ≤ endOrdinal)
    (hend : endOrdinal ≤ sequence.events.length)
    (hstart : sequence.contextStarts[endOrdinal - 1]? = some start)
    (hleast : Sliding.Least maxContextSizeUpperBound sequence.eventCosts start endOrdinal) :
    longestTrustedDetectionContext sequence endOrdinal = .ok (trusted sequence start endOrdinal) := by
  have hexact := h.exact
  have htrusted := h.trusted_isExact hend hleast
  unfold longestTrustedDetectionContext
  rw [raiseIf_bind_of_not (by simp [hexact, hpositive, hend])]
  refine expect_bind_eq_ok.mpr ⟨start, hstart, ?_⟩
  show (raiseIf (trustedDetectionContextIsExact (trusted sequence start endOrdinal) = false) _ >>= _) = _
  rw [raiseIf_bind_of_not (by simp [htrusted])]
  rfl

/-! ## The public context of a window -/

theorem mem_of_mem_window {start stop : ℕ} {event : TraceEvent}
    (h : event ∈ sequence.window start stop) : event ∈ sequence.events :=
  List.mem_of_mem_take (List.mem_of_mem_drop h)

theorem window_sublist (start stop : ℕ) : (sequence.window start stop).Sublist sequence.events :=
  (List.drop_sublist _ _).trans (List.take_sublist _ _)

theorem window_contiguous (h : Admits events sequence) (start stop : ℕ) :
    ContiguousSequences (sequence.window start stop) := by
  unfold ContiguousSequences DetectionSequenceProof.window
  rw [List.map_drop, List.map_take]
  exact List.IsChain.drop (List.IsChain.take h.contiguous stop) start

/-- The public context of the window of a least start is valid. -/
theorem window_check (h : Admits events sequence) {start endOrdinal : ℕ}
    (hend : endOrdinal ≤ sequence.events.length)
    (hleast : Sliding.Least maxContextSizeUpperBound sequence.eventCosts start endOrdinal) :
    (trusted sequence start endOrdinal).context.check = .ok () := by
  obtain ⟨hlt, hwithin, -⟩ := hleast
  have hlength : (sequence.window start endOrdinal).length = endOrdinal - start := window_length hend
  have hbounded := h.bounded
  rw [DetectionContextFields.check_eq_ok]
  refine ⟨?_, ?_, ⟨?_, h.window_contiguous start endOrdinal⟩, ⟨?_, ?_⟩, ?_⟩
  · show 1 ≤ (sequence.window start endOrdinal).length
      ∧ (sequence.window start endOrdinal).length ≤ maxDetectionEvents
    rw [hlength]
    constructor <;> omega
  · intro event hevent
    exact h.oneRun event (mem_of_mem_window hevent)
  · intro last hlast
    exact h.sequences last (mem_of_mem_window (List.mem_of_getLast? hlast))
  · exact h.eventIds.sublist ((window_sublist start endOrdinal).map _)
  · exact h.sourceIds.sublist ((window_sublist start endOrdinal).map _)
  · refine contextIsBoundedLoop_eq_true.mpr
      ⟨_, mapM_eq_some.mpr (h.window_costs start endOrdinal), ?_⟩
    rw [Sliding.sum_window _ (Nat.le_of_lt hlt)]
    exact hwithin

/-- Building the public context leaves the events in their order. -/
theorem create_eq (h : Admits events sequence) {start endOrdinal : ℕ}
    (hcheck : (trusted sequence start endOrdinal).context.check = .ok ()) :
    DetectionContext.create ⟨sequence.runId, sequence.window start endOrdinal⟩
      = .ok ⟨(trusted sequence start endOrdinal).context, hcheck⟩ := by
  have hsorted := (h.window_contiguous start endOrdinal).sorted
  have horder : orderEvents (sequence.window start endOrdinal) = sequence.window start endOrdinal :=
    orderEvents_eq (hsorted.imp Nat.le_of_lt)
  unfold DetectionContext.create
  dsimp only
  rw [horder]
  exact validate_self hcheck

end Admits

/-! ## Extraction -/

section

variable [Hashing]

/-- A report says which event it was made at. -/
theorem materializeExtractionReport_current {context : DetectionContextFields}
    {evaluations : List DetectorEvaluation} {report : ExtractionReport}
    (h : materializeExtractionReport context evaluations = .ok report) :
    ∃ current, context.events.getLast? = some current ∧ report.runId = context.runId
      ∧ report.currentEventId = current.eventId
      ∧ report.currentEventTimestamp = current.timestamp := by
  unfold materializeExtractionReport at h
  obtain ⟨current, hcurrent, h⟩ := expect_bind_eq_ok.mp h
  obtain ⟨signals, -, h⟩ := bind_eq_ok.mp h
  obtain ⟨_, rfl⟩ := validate_eq_ok.mp (mapError_eq_ok.mp h)
  exact ⟨current, hcurrent, rfl, rfl, rfl⟩

/-- On a trusted context the trusted extraction makes the report that the public one makes on the
context of the same events, and no other. -/
theorem extractTrustedReport_eq_ok {trustedContext : TrustedDetectionContext}
    {context : DetectionContext} (hexact : trustedDetectionContextIsExact trustedContext = true)
    (hcontext : context.toDetectionContextFields = trustedContext.context)
    (extractor : DeterministicSignalExtractor) (report : ExtractionReport) :
    extractTrustedReport extractor trustedContext = .ok report ↔
      trustedExtractorIsExact extractor = true ∧ extractor.extractReport context = .ok report := by
  have hvalidated : validateDetectionContext context = .ok context := by
    have hbounded := (DetectionContextFields.check_eq_ok.mp context.valid).2.2.2.2
    unfold validateDetectionContext
    rw [raiseIf_bind_of_not (by simp [hbounded])]
    rfl
  have hpublic : extractor.extractReport context = .ok report ↔
      ∃ evaluations, extractor.evaluateValidated trustedContext.context = .ok evaluations
        ∧ materializeExtractionReport trustedContext.context evaluations = .ok report := by
    unfold DeterministicSignalExtractor.extractReport
    rw [hvalidated, ← hcontext, bind_eq_ok]
    constructor
    · rintro ⟨_, hsame, h⟩
      cases hsame
      exact bind_eq_ok.mp h
    · intro h
      exact ⟨context, rfl, bind_eq_ok.mpr h⟩
  rw [hpublic]
  unfold extractTrustedReport
  simp only [raiseIf_bind_eq_ok, not_or, Bool.not_eq_false]
  simp only [bind_eq_ok, mapError_eq_ok, raiseIf_eq_ok, pure_eq_ok, Bool.not_eq_false,
    exists_and_left, exists_const]
  constructor
  · rintro ⟨⟨htrusted, -⟩, evaluations, hevaluations, made, hmade, -, rfl⟩
    exact ⟨htrusted, evaluations, hevaluations, hmade⟩
  · rintro ⟨htrusted, evaluations, hevaluations, hmade⟩
    refine ⟨⟨htrusted, hexact⟩, evaluations, hevaluations, report, hmade, ?_, rfl⟩
    obtain ⟨current, hcurrent, hrun, hid, htime⟩ := materializeExtractionReport_current hmade
    unfold trustedExtractionIsExact
    refine decide_eq_true ⟨hexact, hrun, ?_, ?_⟩
    · rw [hcurrent, hid]
      rfl
    · rw [hcurrent, htime]
      rfl

/-- **Sliding context windows are maximal and always admissible.** For every admitted sequence and every
ordinal of it, the start that the walk found is the least one whose events up to the ordinal cost no more
than the bound; the longest trusted context is built and passes its exactness check; the public context
of the same events is valid; and extracting a report from the one is extracting it from the other, for
every extractor that takes trusted contexts. -/
theorem longestTrustedDetectionContext_spec (events : List TraceEvent)
    (sequence : DetectionSequenceProof) (hadmission : admitDetectionSequence events = .ok sequence)
    (endOrdinal : ℕ) (hpositive : 1 ≤ endOrdinal) (hend : endOrdinal ≤ sequence.events.length) :
    ∃ start, sequence.contextStarts[endOrdinal - 1]? = some start
      ∧ (start < endOrdinal
        ∧ windowCost sequence.events start endOrdinal ≤ maxContextSizeUpperBound
        ∧ ∀ earlier < start,
          maxContextSizeUpperBound < windowCost sequence.events earlier endOrdinal)
      ∧ ∃ trustedContext, longestTrustedDetectionContext sequence endOrdinal = .ok trustedContext
        ∧ trustedDetectionContextIsExact trustedContext = true
        ∧ trustedContext.context = ⟨sequence.runId, sequence.window start endOrdinal⟩
        ∧ ∃ context, DetectionContext.create trustedContext.context = .ok context
          ∧ context.toDetectionContextFields = trustedContext.context
          ∧ ∀ extractor report, extractTrustedReport extractor trustedContext = .ok report ↔
            trustedExtractorIsExact extractor = true
              ∧ extractor.extractReport context = .ok report := by
  have h := admits_of_admit hadmission
  obtain ⟨start, hstart, hleast⟩ := h.exists_least hpositive hend
  have hexact := h.trusted_isExact hend hleast
  have hcheck := h.window_check hend hleast
  refine ⟨start, hstart, ⟨hleast.lt, ?_, ?_⟩, _, h.longest_eq hpositive hend hstart hleast, hexact,
    rfl, _, h.create_eq hcheck, rfl, extractTrustedReport_eq_ok hexact rfl⟩
  · rw [h.windowCost_eq (Nat.le_of_lt hleast.lt)]
    exact hleast.within
  · intro earlier hearlier
    have hlt := hleast.lt
    rw [h.windowCost_eq (by omega)]
    exact hleast.tooLong earlier hearlier

end

/-- A hash function with one digest. -/
local instance quietHashing : Hashing where
  lengthPrefixedSha256 _ _ := ⟨"1111111111111111111111111111111111111111111111111111111111111111", by decide⟩

/-- An event without a payload. -/
def quietEvent (n : ℕ) (source : EventMetadataIdentifier) : TraceEventFields where
  runId := ⟨stampVersion4 0, .refl true⟩
  sourceEventId := source
  timestamp := 0
  eventType := .modelOutput
  phase := .internal
  payload := ⟨[], .refl true⟩
  sourceAdapter := ⟨"demo", .refl true⟩
  trustLabel := .syntheticFixture
  eventId := ⟨stampVersion4 n, stampVersion4_isVersion4 n⟩
  sequence := n
  payloadDigest := ⟨.syntheticSha256, quietHashing.lengthPrefixedSha256 "" []⟩

/-- The first two events of a run. -/
def quietEvents : List TraceEvent :=
  [⟨quietEvent 1 ⟨"a", .refl true⟩, rfl⟩, ⟨quietEvent 2 ⟨"b", .refl true⟩, rfl⟩]

/-- The sequence that they are admitted as. -/
def quietSequence : DetectionSequenceProof where
  runId := ⟨stampVersion4 0, .refl true⟩
  events := quietEvents
  eventCosts := [1056, 1056]
  prefixCosts := [0, 1056, 2112]
  contextStarts := [0, 0]
  maximumContextCost := maxContextSizeUpperBound

theorem longestTrustedDetectionContext_spec_quiet :
    ∃ trustedContext, longestTrustedDetectionContext quietSequence 2 = .ok trustedContext
      ∧ trustedDetectionContextIsExact trustedContext = true := by
  obtain ⟨start, -, -, trustedContext, hlongest, hexact, -⟩ :=
    longestTrustedDetectionContext_spec quietEvents quietSequence rfl 2 (by decide) (by decide)
  exact ⟨trustedContext, hlongest, hexact⟩

end SalienceGate
