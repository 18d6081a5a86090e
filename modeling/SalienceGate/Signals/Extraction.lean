import SalienceGate.Domain.Ids
import SalienceGate.Signals.Base

/-!
# The signal extractor

The extractor runs its detectors on a context, holds their outcomes to the contract, and makes a report
of the outcomes and of the signals that were detected. `extract_report` validates the context first.
-/

namespace SalienceGate

open Checked

/-- Python's `<=` on strings: code point by code point. -/
def textLe (a b : String) : Bool := !Json.keyLt b.toList a.toList

/-- The number of signal types. -/
def signalTypeCount : ℕ := 9

/-- What a detector returns on a context, or none where it raises or returns no outcome. The outcome of a
detector is a function of the fields of the context. -/
abbrev Evaluator := DetectionContextFields → Option DetectionOutcome

/-- A detector, as the constructor of the extractor sees it. -/
structure SignalDetector where
  evaluate : Evaluator
  /-- `_evaluate_validated` of a `_ValidatedSignalDetector`. -/
  evaluateValidated : Option Evaluator := none
  signalType : SignalType
  detectorVersion : String

/-- `_DetectorEntry`. -/
structure DetectorEntry where
  evaluator : Evaluator
  signalType : SignalType
  detectorVersion : ComponentIdentifier
  acceptsTrustedContext : Bool

/-- `DeterministicSignalExtractor`. -/
structure DeterministicSignalExtractor where
  entries : List DetectorEntry

/-- The entry of one detector. -/
def detectorEntry (detector : SignalDetector) : Except DetectionError DetectorEntry := do
  let version ← expect (ComponentIdentifier.parse detector.detectorVersion) .contract
  match detector.evaluateValidated with
  | some evaluator => pure ⟨evaluator, detector.signalType, version, true⟩
  | none => pure ⟨detector.evaluate, detector.signalType, version, false⟩

/-- The order of the entries: by signal type, then by version. -/
def entryLe (a b : DetectorEntry) : Bool :=
  if a.signalType = b.signalType then textLe a.detectorVersion.text b.detectorVersion.text
  else textLe a.signalType.value b.signalType.value

/-- `DeterministicSignalExtractor(...)`. -/
def DeterministicSignalExtractor.create (detectors : List SignalDetector) :
    Except DetectionError DeterministicSignalExtractor := do
  raiseIf (signalTypeCount < detectors.length) .contract
  let entries ← detectors.mapM detectorEntry
  raiseIf (¬(entries.map (·.signalType)).Nodup) .contract
  pure ⟨entries.insertionSort fun a b => entryLe a b = true⟩

/-- The place of an event in a context. -/
def contextOrder (context : DetectionContextFields) (eventId : UUID4) : ℕ :=
  context.events.findIdx (·.eventId = eventId)

/-- The identities of an outcome are events of the context in order, the current one among them. -/
def identitiesInOrder (context : DetectionContextFields) (current : TraceEvent)
    (eventIds : List UUID4) : Prop :=
  current.eventId ∈ eventIds ∧ (∀ eventId ∈ eventIds, eventId ∈ context.events.map (·.eventId))
    ∧ eventIds.insertionSort (fun a b => contextOrder context a ≤ contextOrder context b) = eventIds

instance identitiesInOrder.decidable (context : DetectionContextFields) (current : TraceEvent)
    (eventIds : List UUID4) : Decidable (identitiesInOrder context current eventIds) :=
  inferInstanceAs (Decidable (_ ∧ _ ∧ _))

/-- The round of one entry in `_evaluate_validated`. -/
def evaluateEntry (validated : DetectionContextFields) (current : TraceEvent) (entry : DetectorEntry) :
    Except DetectionError DetectorEvaluation := do
  let outcome ← expect (entry.evaluator validated) .contract
  if h : outcome.signalType = entry.signalType then
    raiseIf (outcome.status = .detected
        ∧ ¬identitiesInOrder validated current outcome.evidenceEventIds) .contract
    raiseIf (outcome.status ≠ .detected
        ∧ ¬identitiesInOrder validated current outcome.relatedEventIds) .contract
    pure ⟨entry.signalType, entry.detectorVersion, outcome, h⟩
  else throw .contract

/-- `_evaluate_validated`. -/
def DeterministicSignalExtractor.evaluateValidated (extractor : DeterministicSignalExtractor)
    (validated : DetectionContextFields) : Except DetectionError (List DetectorEvaluation) := do
  let current ← expect validated.events.getLast? .contract
  extractor.entries.mapM (evaluateEntry validated current)

variable [Hashing]

/-- `_deterministic_signal_id`. -/
def deterministicSignalId (runId : UUID4) (outcome : DetectionOutcome) (detectorVersion : String) :
    UUID4 :=
  let digest := Hashing.lengthPrefixedSha256 "saliencegate:signal:identity:v1"
    [.canonicalJson (.object [
      ("detector_version", .str detectorVersion),
      ("evidence_event_ids", .list (outcome.evidenceEventIds.map fun value => .str value.toString)),
      ("reason_code", match outcome.reasonCode with
        | none => .null
        | some reasonCode => .str reasonCode.value),
      ("run_id", .str runId.toString),
      ("signal_type", .str outcome.signalType.value),
      ("strength", match outcome.strength with
        | none => .null
        | some strength => .float strength.value)])]
  let raw := (Hex.value? (digest.text.toList.take 32)).getD 0
  ⟨stampVersion4 raw, stampVersion4_isVersion4 raw⟩

/-- The fields of a report. -/
structure ExtractionReportFields where
  runId : UUID4
  currentEventId : UUID4
  currentEventTimestamp : UtcDatetime
  evaluations : List DetectorEvaluation
  signals : List Signal
deriving DecidableEq

/-- The signal of a report belongs to the evaluation of its type. -/
def signalMatches (report : ExtractionReportFields) (signal : Signal)
    (evaluation : DetectorEvaluation) : Prop :=
  signal.detectorVersion = evaluation.detectorVersion
    ∧ some signal.strength = evaluation.outcome.strength
    ∧ some signal.reasonCode = evaluation.outcome.reasonCode
    ∧ signal.evidenceEventIds = evaluation.outcome.evidenceEventIds
    ∧ report.currentEventId ∈ signal.evidenceEventIds
    ∧ signal.createdAt = report.currentEventTimestamp
    ∧ signal.signalId
      = deterministicSignalId report.runId evaluation.outcome evaluation.detectorVersion.text

instance signalMatches.decidable (report : ExtractionReportFields) (signal : Signal)
    (evaluation : DetectorEvaluation) : Decidable (signalMatches report signal evaluation) :=
  inferInstanceAs (Decidable (_ ∧ _ ∧ _ ∧ _ ∧ _ ∧ _ ∧ _))

/-- The evaluations of a report that detected something. -/
def ExtractionReportFields.detected (report : ExtractionReportFields) : List DetectorEvaluation :=
  report.evaluations.filter (·.outcome.status = .detected)

/-- `contents_match_run`, after the field constraints. -/
def ExtractionReportFields.check (report : ExtractionReportFields) : Check := do
  constrain (report.evaluations.length ≤ signalTypeCount) "evaluations" "too_long"
  constrain (report.signals.length ≤ signalTypeCount) "signals" "too_long"
  refuse (∃ item ∈ report.evaluations,
      (item.outcome.status = .detected
        ∧ item.outcome.evidenceEventIds.getLast? ≠ some report.currentEventId)
      ∨ (item.outcome.status ≠ .detected
        ∧ item.outcome.relatedEventIds.getLast? ≠ some report.currentEventId))
    "extraction report outcomes do not end at the current event"
  let evaluationTypes := report.evaluations.map (·.signalType)
  refuse (¬evaluationTypes.Nodup
      ∨ evaluationTypes ≠ evaluationTypes.insertionSort fun a b => textLe a.value b.value = true)
    "extraction report signal types must be unique"
  let signalTypes := report.signals.map (·.signalType)
  refuse ((∃ signal ∈ report.signals, signal.runId ≠ report.runId) ∨ ¬signalTypes.Nodup
      ∨ (∃ signal ∈ report.signals, signal.signalType ∉ report.detected.map (·.signalType))
      ∨ (∃ evaluation ∈ report.detected, evaluation.signalType ∉ signalTypes)
      ∨ signalTypes ≠ signalTypes.insertionSort fun a b => textLe a.value b.value = true)
    "extraction report signals disagree with evaluations"
  refuse (∃ signal ∈ report.signals, ∃ evaluation ∈ report.detected,
      evaluation.signalType = signal.signalType ∧ ¬signalMatches report signal evaluation)
    "extraction report signal attribution is inconsistent"

/-- `ExtractionReport`. -/
structure ExtractionReport extends ExtractionReportFields where
  valid : toExtractionReportFields.check = .ok ()

/-- The signal of one evaluation, if it detected something. -/
def materializeSignal (context : DetectionContextFields) (current : TraceEvent)
    (evaluation : DetectorEvaluation) : Except ValidationError (Option Signal) :=
  match evaluation.outcome.status, evaluation.outcome.strength, evaluation.outcome.reasonCode with
  | .detected, some strength, some reasonCode =>
    (validate SignalFields.check Signal.mk {
      signalId := deterministicSignalId context.runId evaluation.outcome
        evaluation.detectorVersion.text
      runId := context.runId
      createdAt := current.timestamp
      signalType := evaluation.signalType
      strength
      evidenceEventIds := evaluation.outcome.evidenceEventIds
      detectorVersion := evaluation.detectorVersion
      reasonCode }).map some
  | _, _, _ => pure none

/-- `_materialize_extraction_report`. -/
def materializeExtractionReport (context : DetectionContextFields)
    (evaluations : List DetectorEvaluation) : Except DetectionError ExtractionReport := do
  let current ← expect context.events.getLast? .contract
  let signals ← (evaluations.mapM (materializeSignal context current)).mapError .validation
  (validate ExtractionReportFields.check ExtractionReport.mk {
    runId := context.runId
    currentEventId := current.eventId
    currentEventTimestamp := current.timestamp
    evaluations
    signals := (signals.filterMap id).insertionSort fun a b =>
      textLe a.signalType.value b.signalType.value = true }).mapError .validation

/-- `extract_report`. -/
def DeterministicSignalExtractor.extractReport (extractor : DeterministicSignalExtractor)
    (context : DetectionContext) : Except DetectionError ExtractionReport := do
  let validated ← validateDetectionContext context
  let evaluations ← extractor.evaluateValidated validated.toDetectionContextFields
  materializeExtractionReport validated.toDetectionContextFields evaluations

end SalienceGate
