import Mathlib.Data.List.Sort
import SalienceGate.Domain.Evidence

/-!
# Signal detection

The window of events that a detector looks at, the outcomes of detectors and the reports made of them. A
context is bounded: every event has a cost, an upper bound of its JSON size, and the costs of a context
add up to ten million at most.

A valid record is read back from its own JSON, so that the copies that the code makes of its arguments
are the arguments. The seals, which tie a trusted value to the call that built it, are not modelled: the
values are built by the functions of this directory only.
-/

namespace SalienceGate

open Checked

/-- `_MAX_CONTEXT_SIZE_UPPER_BOUND`. -/
def maxContextSizeUpperBound : ℕ := 10000000

/-- `_MAX_CONTEXT_PAYLOAD_NODES`. -/
def maxContextPayloadNodes : ℕ := 200000

/-- `_MAX_EVENT_PARENTS`. -/
def maxEventParents : ℕ := 256

/-- The most events of a context, and the most identities of an outcome. -/
def maxDetectionEvents : ℕ := 10000

/-- What a detection fails with: `DetectionInputError`, `DetectorContractError`, or a record that does
not validate. -/
inductive DetectionError where
  | input
  | contract
  | validation (error : ValidationError)
deriving DecidableEq

/-- The message of an error. -/
def DetectionError.message : DetectionError → String
  | .input => "signal detection input failed validation"
  | .contract => "signal detector output failed contract validation"
  | .validation (.constraint field type) => field ++ ": " ++ type
  | .validation (.validator message) => message

/-- `DetectionStatus`. -/
inductive DetectionStatus where
  | detected
  | noMatch
  | abstained
deriving DecidableEq

/-- `AbstentionReason`. -/
inductive AbstentionReason where
  | eventNotApplicable
  | structuredEvidenceMissing
  | structuredEvidenceInvalid
  | insufficientHistory
  | preActionInterceptionUnavailable
  | parentActionMissing
  | ambiguousParentAction
  | redactedEquivalenceInput
deriving DecidableEq

/-! ## The cost of an event -/

/-- What `_json_size_upper_bound` charges for a value, without the values inside it. -/
def sizeCharge : Json → Option ℕ
  | .object items => some (2 + (items.length - 1) + items.length)
  | .list items => some (2 + (items.length - 1))
  | .str s => some (2 + 6 * s.length)
  | .null => some 4
  | .bool _ => some 5
  | .int i => some (max 1 (bitLength i * 30103 / 100000 + 2))
  | .float x => if x.isFinite then some 32 else none

/-- The values that `_json_size_upper_bound` puts on its stack for a value, the next one first. -/
def sizeNested : Json → List Json
  | .object items => (items.map (fun item => Json.str item.1) ++ items.map Prod.snd).reverse
  | .list items => items.reverse
  | _ => []

/-- The loop of `_json_size_upper_bound`: the nodes still allowed, the total and the stack. -/
def jsonSizeLoop (limit : ℕ) : ℕ → ℕ → List Json → Option ℕ
  | _, total, [] => some total
  | 0, _, _ :: _ => none
  | nodes + 1, total, current :: stack =>
    match sizeCharge current with
    | none => none
    | some charge =>
      if limit < total + charge then none
      else jsonSizeLoop limit nodes (total + charge) (sizeNested current ++ stack)

/-- `_json_size_upper_bound`. -/
def jsonSizeUpperBound (value : Json) (limit : ℕ) : Option ℕ :=
  jsonSizeLoop limit maxContextPayloadNodes 0 [value]

/-- `_event_metadata_is_structurally_bounded`. -/
def eventMetadataIsStructurallyBounded (event : TraceEvent) : Bool :=
  1 ≤ event.sequence ∧ event.sequence ≤ maxSigned64 ∧ event.parentIds.length ≤ maxEventParents

/-- `_context_event_cost`, or none where it raises. -/
def contextEventCost (event : TraceEvent) : Option ℕ :=
  if eventMetadataIsStructurallyBounded event = false then none
  else (jsonSizeUpperBound event.payload.json maxContextSizeUpperBound).map fun payloadCost =>
    1024 + 6 * event.sourceEventId.text.length + 6 * event.sourceAdapter.text.length
      + 40 * event.parentIds.length + payloadCost

/-! ## Contexts -/

/-- The fields of a context. `model_construct` builds them without a check. -/
structure DetectionContextFields where
  runId : UUID4
  events : List TraceEvent
deriving DecidableEq

/-- The loop of `_context_is_bounded`: the cost that is left. -/
def contextIsBoundedLoop : ℤ → List TraceEvent → Bool
  | _, [] => true
  | remaining, event :: events =>
    match contextEventCost event with
    | none => false
    | some cost => if remaining - cost < 0 then false else contextIsBoundedLoop (remaining - cost) events

/-- `_context_is_bounded`. -/
def contextIsBounded (context : DetectionContextFields) : Bool :=
  contextIsBoundedLoop maxContextSizeUpperBound context.events

/-- The sequences of events are contiguous. -/
def ContiguousSequences (events : List TraceEvent) : Prop :=
  (events.map (·.sequence)).IsChain fun left right => right = left + 1

instance ContiguousSequences.decidable (events : List TraceEvent) :
    Decidable (ContiguousSequences events) :=
  inferInstanceAs (Decidable ((events.map (·.sequence)).IsChain fun left right => right = left + 1))

/-- `events_form_one_run_window`, after the constraint on the number of events. -/
def DetectionContextFields.check (context : DetectionContextFields) : Check := do
  constrain (1 ≤ context.events.length ∧ context.events.length ≤ maxDetectionEvents)
    "events" "length"
  refuse (∃ event ∈ context.events, event.runId ≠ context.runId)
    "detection events must belong to one run"
  refuse ((∃ last ∈ context.events.getLast?, maxSigned64 < last.sequence)
      ∨ ¬ContiguousSequences context.events)
    "detection events must be a contiguous signed-64-bit sequence"
  refuse (¬(context.events.map (·.eventId)).Nodup ∨ ¬(context.events.map (·.sourceEventId)).Nodup)
    "detection event identities must be unique"
  refuse (contextIsBounded context = false) "detection context exceeds its local size bound"

/-- `DetectionContext`: a verified contiguous window that ends at the event under evaluation. -/
structure DetectionContext extends DetectionContextFields where
  valid : toDetectionContextFields.check = .ok ()

/-- The events of a context in the order of their sequences. -/
def orderEvents (events : List TraceEvent) : List TraceEvent :=
  events.insertionSort fun a b => a.sequence ≤ b.sequence

/-- `DetectionContext(...)`: the events are put in order, then the check runs. -/
def DetectionContext.create (fields : DetectionContextFields) :
    Except ValidationError DetectionContext :=
  validate DetectionContextFields.check DetectionContext.mk
    { fields with events := orderEvents fields.events }

/-- `validate_detection_context`. -/
def validateDetectionContext (context : DetectionContext) : Except DetectionError DetectionContext :=
  do
    raiseIf (contextIsBounded context.toDetectionContextFields = false) .input
    pure context

/-! ## Outcomes -/

/-- The fields of an outcome. -/
structure DetectionOutcomeFields where
  signalType : SignalType
  status : DetectionStatus
  strength : Option UnitInterval := none
  reasonCode : Option ReasonCode := none
  evidenceEventIds : List UUID4 := []
  relatedEventIds : List UUID4 := []
  abstentionReason : Option AbstentionReason := none
deriving DecidableEq

/-- `fields_match_status`, after the field constraints. -/
def DetectionOutcomeFields.check (outcome : DetectionOutcomeFields) : Check := do
  constrain (outcome.evidenceEventIds.length ≤ maxDetectionEvents) "evidence_event_ids" "too_long"
  constrain (outcome.relatedEventIds.length ≤ maxDetectionEvents) "related_event_ids" "too_long"
  if outcome.status = .detected then
    refuse (outcome.strength = none ∨ outcome.reasonCode ≠ some outcome.signalType.reasonCode
        ∨ outcome.evidenceEventIds = [] ∨ outcome.relatedEventIds ≠ []
        ∨ outcome.abstentionReason ≠ none)
      "detected outcome fields are inconsistent"
  else
    refuse (outcome.strength ≠ none ∨ outcome.reasonCode ≠ none ∨ outcome.evidenceEventIds ≠ []
        ∨ outcome.relatedEventIds = []
        ∨ (outcome.status = .abstained ↔ outcome.abstentionReason = none))
      "non-detected outcome fields are inconsistent"
  refuse (¬outcome.evidenceEventIds.Nodup ∨ ¬outcome.relatedEventIds.Nodup)
    "detection evidence IDs must be unique"

/-- `DetectionOutcome`. -/
structure DetectionOutcome extends DetectionOutcomeFields where
  valid : toDetectionOutcomeFields.check = .ok ()
deriving DecidableEq

/-- `DetectionOutcome(...)`. -/
def DetectionOutcome.create (fields : DetectionOutcomeFields) :
    Except ValidationError DetectionOutcome :=
  validate DetectionOutcomeFields.check DetectionOutcome.mk fields

/-- `DetectionOutcome.detected`, of strength one. -/
def DetectionOutcome.detected (signalType : SignalType) (evidenceEventIds : List UUID4) :
    Except ValidationError DetectionOutcome :=
  DetectionOutcome.create {
    signalType
    status := .detected
    strength := some UnitInterval.one
    reasonCode := some signalType.reasonCode
    evidenceEventIds }

/-- `DetectionOutcome.no_match`. -/
def DetectionOutcome.noMatch (signalType : SignalType) (relatedEventIds : List UUID4) :
    Except ValidationError DetectionOutcome :=
  DetectionOutcome.create { signalType, status := .noMatch, relatedEventIds }

/-- `DetectionOutcome.abstained`. -/
def DetectionOutcome.abstained (signalType : SignalType) (reason : AbstentionReason)
    (relatedEventIds : List UUID4) : Except ValidationError DetectionOutcome :=
  DetectionOutcome.create {
    signalType
    status := .abstained
    relatedEventIds
    abstentionReason := some reason }

/-- `DetectorEvaluation`. -/
structure DetectorEvaluation where
  signalType : SignalType
  detectorVersion : ComponentIdentifier
  outcome : DetectionOutcome
  /-- `outcome_matches_detector`. -/
  matchesDetector : outcome.signalType = signalType
deriving DecidableEq

/-! ## What the checks establish -/

theorem DetectionContextFields.check_eq_ok {context : DetectionContextFields} :
    context.check = .ok () ↔
      (1 ≤ context.events.length ∧ context.events.length ≤ maxDetectionEvents)
        ∧ (∀ event ∈ context.events, event.runId = context.runId)
        ∧ ((∀ last ∈ context.events.getLast?, last.sequence ≤ maxSigned64)
          ∧ ContiguousSequences context.events)
        ∧ ((context.events.map (·.eventId)).Nodup ∧ (context.events.map (·.sourceEventId)).Nodup)
        ∧ contextIsBounded context = true := by
  unfold DetectionContextFields.check
  simp only [constrain_bind_eq_ok, refuse_bind_eq_ok, refuse_eq_ok, not_or, not_not, not_exists,
    not_and, ne_eq, not_lt, Bool.not_eq_false]

/-- The events of a valid context are in order. -/
theorem ContiguousSequences.sorted {events : List TraceEvent} (h : ContiguousSequences events) :
    events.Pairwise fun a b => a.sequence < b.sequence := by
  have hchain : (events.map (·.sequence)).IsChain (· < ·) := by
    refine List.IsChain.imp ?_ h
    intro a b hab
    omega
  exact List.pairwise_map.mp hchain.pairwise

/-- Events that are in order stay as they are. -/
theorem orderEvents_eq {events : List TraceEvent}
    (h : events.Pairwise fun a b => a.sequence ≤ b.sequence) : orderEvents events = events :=
  List.Pairwise.insertionSort_eq h

/-- A context is bounded exactly when its events have costs that add up to the bound at most. -/
theorem contextIsBoundedLoop_eq_true {events : List TraceEvent} :
    ∀ {remaining : ℕ}, contextIsBoundedLoop remaining events = true ↔
      ∃ costs, events.mapM contextEventCost = some costs ∧ costs.sum ≤ remaining := by
  induction events with
  | nil =>
    intro remaining
    simp [contextIsBoundedLoop]
  | cons event events ih =>
    intro remaining
    unfold contextIsBoundedLoop
    rw [List.mapM_cons]
    cases hcost : contextEventCost event with
    | none => simp
    | some cost =>
      by_cases hover : (remaining : ℤ) - cost < 0
      · simp only [hover, if_true, Bool.false_eq_true, false_iff, not_exists, not_and]
        intro costs hcosts
        obtain ⟨later, -, rfl⟩ : ∃ later, events.mapM contextEventCost = some later
            ∧ cost :: later = costs := by simpa [Option.bind_eq_some_iff] using hcosts
        rw [List.sum_cons]
        omega
      · have hcast : (remaining : ℤ) - cost = ((remaining - cost : ℕ) : ℤ) := by omega
        simp only [hover, if_false]
        rw [hcast, ih]
        constructor
        · rintro ⟨later, hlater, hsum⟩
          refine ⟨cost :: later, by simp [hlater], ?_⟩
          rw [List.sum_cons]
          omega
        · rintro ⟨costs, hcosts, hsum⟩
          obtain ⟨later, hlater, rfl⟩ : ∃ later, events.mapM contextEventCost = some later
              ∧ cost :: later = costs := by simpa [Option.bind_eq_some_iff] using hcosts
          rw [List.sum_cons] at hsum
          exact ⟨later, hlater, by omega⟩

end SalienceGate
