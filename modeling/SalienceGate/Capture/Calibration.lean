import SalienceGate.Capture.Feedback
import Mathlib.Algebra.Order.Field.Rat

/-!
# Calibration reports

A data set of labelled sessions is evaluated on its final test: the predictions are counted against the
labels, for all providers together and for each provider that has enough sessions, and the metrics get
intervals by a bootstrap. The bootstrap draws within the sessions of one project at one provider. Its
draws are derived from a fixed seed, from the counts of such a group, and from the position of the group
among those with the same counts, and not from the names of projects or sessions.
-/

namespace SalienceGate.Calibration

open Checked Grouping

/-! ## Bounds -/

/-- `CAPTURE_E01_MIN_FINAL_TEST_SESSIONS`. -/
def captureE01MinFinalTestSessions : ℕ := 200

/-- `CAPTURE_E01_MIN_PROJECTS`. -/
def captureE01MinProjects : ℕ := 3

/-- `CAPTURE_E01_MIN_PROVIDERS`. -/
def captureE01MinProviders : ℕ := 2

/-- `CAPTURE_E01_MIN_MEMORY_NEEDED`. -/
def captureE01MinMemoryNeeded : ℕ := 30

/-- `CAPTURE_E01_MIN_NOT_MEMORY_NEEDED`. -/
def captureE01MinNotMemoryNeeded : ℕ := 30

/-- `CAPTURE_CALIBRATION_BOOTSTRAP_REPLICATES`. -/
def captureCalibrationBootstrapReplicates : ℕ := 2000

/-- `CAPTURE_CALIBRATION_MIN_INTERVAL_DENOMINATOR`. -/
def captureCalibrationMinIntervalDenominator : ℕ := 30

/-- `CAPTURE_CALIBRATION_MIN_PROVIDER_DISCLOSURE_SUPPORT`. -/
def captureCalibrationMinProviderDisclosureSupport : ℕ := 30

/-- `CAPTURE_CALIBRATION_BOOTSTRAP_SEED`. -/
def captureCalibrationBootstrapSeed : String := "9f4c8dc1d7f87c2bf08bfc24f9cb6bb4de27c57fa3466a7a63d7f01e13961e7e"

/-- `CAPTURE_CALIBRATION_BOOTSTRAP_SEED_COMMITMENT`. -/
def captureCalibrationBootstrapSeedCommitment : String :=
  "0ba351d0bc979e0f7280c10f3f36c6d4da3b9df59b4b8b0c664d504ecd89ddc3"

/-- `_PPM`. -/
def ppm : ℤ := 1000000

/-- `_BOOTSTRAP_LOWER_RANK`. -/
def bootstrapLowerRank : ℕ := 50

/-- `_BOOTSTRAP_UPPER_RANK`. -/
def bootstrapUpperRank : ℕ := 1950

/-- `_BOOTSTRAP_REJECTION_ATTEMPTS`. -/
def bootstrapRejectionAttempts : ℕ := 16

/-! ## Counting -/

/-- `_CONFUSION_CELL_NAMES`. -/
inductive ConfusionCell where
  | truePositive | falseNegative | abstainedMemoryNeeded
  | falsePositive | trueNegative | abstainedNotMemoryNeeded
  | uncertainPredictedMemoryNeeded | uncertainPredictedNotMemoryNeeded | uncertainPredictionAbstained
deriving DecidableEq

/-- The name of a cell. -/
def ConfusionCell.name : ConfusionCell → String
  | .truePositive => "true_positive"
  | .falseNegative => "false_negative"
  | .abstainedMemoryNeeded => "abstained_memory_needed"
  | .falsePositive => "false_positive"
  | .trueNegative => "true_negative"
  | .abstainedNotMemoryNeeded => "abstained_not_memory_needed"
  | .uncertainPredictedMemoryNeeded => "uncertain_predicted_memory_needed"
  | .uncertainPredictedNotMemoryNeeded => "uncertain_predicted_not_memory_needed"
  | .uncertainPredictionAbstained => "uncertain_prediction_abstained"

/-- The cells in the order of their names. -/
def ConfusionCell.all : List ConfusionCell :=
  [.abstainedMemoryNeeded, .abstainedNotMemoryNeeded, .falseNegative, .falsePositive, .trueNegative, .truePositive,
    .uncertainPredictedMemoryNeeded, .uncertainPredictedNotMemoryNeeded, .uncertainPredictionAbstained]

/-- The cell of a label and a prediction. -/
def cellOf : CaptureFeedbackLabel → CaptureFeedbackPrediction → ConfusionCell
  | .memoryNeeded, .memoryNeeded => .truePositive
  | .memoryNeeded, .notMemoryNeeded => .falseNegative
  | .memoryNeeded, .abstain => .abstainedMemoryNeeded
  | .notMemoryNeeded, .memoryNeeded => .falsePositive
  | .notMemoryNeeded, .notMemoryNeeded => .trueNegative
  | .notMemoryNeeded, .abstain => .abstainedNotMemoryNeeded
  | .uncertain, .memoryNeeded => .uncertainPredictedMemoryNeeded
  | .uncertain, .notMemoryNeeded => .uncertainPredictedNotMemoryNeeded
  | .uncertain, .abstain => .uncertainPredictionAbstained

/-- `_cell_name`. -/
def cellName (example_ : CaptureFeedbackDatasetExample) : ConfusionCell := cellOf example_.label example_.prediction

/-- `_counts`. -/
def counts (examples : List CaptureFeedbackDatasetExample) : ConfusionCell → ℕ :=
  examples.foldl (fun result example_ =>
    Function.update result (cellName example_) (result (cellName example_) + 1)) fun _ => 0

section Terms

variable (n : ConfusionCell → ℕ)

/-- The sessions that needed memory. -/
def positive : ℕ := n .truePositive + n .falseNegative + n .abstainedMemoryNeeded

/-- The sessions that did not need memory. -/
def negative : ℕ := n .falsePositive + n .trueNegative + n .abstainedNotMemoryNeeded

/-- The sessions without a clear label. -/
def uncertain : ℕ :=
  n .uncertainPredictedMemoryNeeded + n .uncertainPredictedNotMemoryNeeded + n .uncertainPredictionAbstained

/-- The sessions. -/
def total : ℕ := positive n + negative n + uncertain n

end Terms

/-- `_METRIC_NAMES`. -/
inductive CalibrationMetric where
  | prevalence | precision | recall | falsePositiveRate
  | referenceAbstentionRate | predictionAbstentionRate | jointAbstentionRate
deriving DecidableEq

/-- The name of a metric. -/
def CalibrationMetric.name : CalibrationMetric → String
  | .prevalence => "prevalence"
  | .precision => "precision"
  | .recall => "recall"
  | .falsePositiveRate => "false_positive_rate"
  | .referenceAbstentionRate => "reference_abstention_rate"
  | .predictionAbstentionRate => "prediction_abstention_rate"
  | .jointAbstentionRate => "joint_abstention_rate"

/-- The metrics in the order of their names. -/
def CalibrationMetric.all : List CalibrationMetric :=
  [.falsePositiveRate, .jointAbstentionRate, .precision, .predictionAbstentionRate, .prevalence, .recall,
    .referenceAbstentionRate]

/-- The numerator and the denominator of a metric. -/
def metricTerms (n : ConfusionCell → ℕ) : CalibrationMetric → ℕ × ℕ
  | .prevalence => (positive n, positive n + negative n)
  | .precision => (n .truePositive, n .truePositive + n .falsePositive)
  | .recall => (n .truePositive, positive n)
  | .falsePositiveRate => (n .falsePositive, negative n)
  | .referenceAbstentionRate => (uncertain n, total n)
  | .predictionAbstentionRate =>
    (n .abstainedMemoryNeeded + n .abstainedNotMemoryNeeded + n .uncertainPredictionAbstained, total n)
  | .jointAbstentionRate => (uncertain n + n .abstainedMemoryNeeded + n .abstainedNotMemoryNeeded, total n)

/-- `_metric_parts`. -/
def metricParts (n : ConfusionCell → ℕ) (metric : CalibrationMetric) : Option (ℕ × ℕ) :=
  if (metricTerms n metric).2 = 0 then none else some (metricTerms n metric)

/-- `_metric_fractions`. -/
def metricFractions (n : ConfusionCell → ℕ) (metric : CalibrationMetric) : Option ℚ :=
  if (metricTerms n metric).2 = 0 then none
  else some ((metricTerms n metric).1 / (metricTerms n metric).2)

/-- `_fraction_ppm`. -/
def fractionPpm (value : ℚ) : ℤ := value.num * ppm / value.den

/-! ## The bootstrap -/

/-- `int(digest[:16], 16)`. -/
def leading (digest : Sha256Digest) : ℕ := (Hex.value? (digest.text.toList.take 16)).getD 0

section Bootstrap

variable [Hashing]

/-- The number that an attempt at a draw proposes. -/
def bootstrapCandidate (replicate : ℕ) (profile projectId : String) (draw attempt : ℕ) : ℕ :=
  leading (Hashing.lengthPrefixedSha256 "saliencegate:capture:feedback-bootstrap-index:v1" [
    .text captureCalibrationBootstrapSeed, .text (toString replicate), .text profile, .text projectId,
    .text (toString draw), .text (toString attempt)])

/-- `_bootstrap_draw_index`. -/
def bootstrapDrawIndex (size replicate : ℕ) (profile projectId : String) (draw : ℕ) :
    Except CaptureFeedbackError ℕ := do
  raiseIf (¬(1 ≤ size ∧ size ≤ maxCaptureFeedbackExamples) ∨ ¬replicate < captureCalibrationBootstrapReplicates
    ∨ ¬draw < size) .invalid
  let space := 2 ^ 64
  let ceiling := space - space % size
  -- the first candidate below the ceiling is taken
  expect ((List.range bootstrapRejectionAttempts).findSome? fun attempt =>
    let candidate := bootstrapCandidate replicate profile projectId draw attempt
    if candidate < ceiling then some (candidate % size) else none) .invalid

/-- The sessions of a project at a provider. -/
structure BootstrapGroup where
  profile : String
  signature : String
  projectId : String
  ordered : List CaptureFeedbackDatasetExample

/-- The order of sessions within a group. -/
def orderKey (example_ : CaptureFeedbackDatasetExample) : String ×ₗ String ×ₗ String ×ₗ String :=
  toLex (example_.label.value, toLex (example_.prediction.value,
    toLex (example_.partition.value, example_.exampleId.text)))

/-- The order of groups. -/
def BootstrapGroup.key (group : BootstrapGroup) : String ×ₗ String ×ₗ String :=
  toLex (group.profile, toLex (group.signature, group.projectId))

/-- The counts of a group, as they are signed. -/
def cellDocument (n : ConfusionCell → ℕ) : Json :=
  .object [
    ("counts", .object (ConfusionCell.all.map fun cell => (cell.name, .int (n cell)))),
    ("schema_version", .str "capture-feedback-bootstrap-cell/v1")]

/-- The signature of a group with these counts. -/
def cellSignature (n : ConfusionCell → ℕ) : Sha256Digest :=
  Hashing.lengthPrefixedSha256 "saliencegate:capture:feedback-bootstrap-cell:v1" [.canonicalJson (cellDocument n)]

/-- The group of the sessions of a project at a provider. -/
def groupOf (cell : (String × String) × List CaptureFeedbackDatasetExample) : BootstrapGroup :=
  let ordered := sortBy orderKey cell.2
  { profile := cell.1.1, signature := (cellSignature (counts ordered)).text, projectId := cell.1.2, ordered }

/-- The groups that the bootstrap draws in. -/
def bootstrapGroups (examples : List CaptureFeedbackDatasetExample) : List BootstrapGroup :=
  let byCell := groupBy (fun example_ => (example_.profileId.value, example_.projectId.text)) examples
  sortBy BootstrapGroup.key (byCell.items.map groupOf)

/-- The draws in a group, of which so many with its signature came before. -/
def drawGroup (replicate : ℕ) (group : BootstrapGroup) (duplicateOrdinal : ℕ) :
    Except CaptureFeedbackError (List CaptureFeedbackDatasetExample) :=
  let projectCoordinate := group.signature ++ ":" ++ toString duplicateOrdinal
  (List.range group.ordered.length).mapM fun draw => do
    let index ← bootstrapDrawIndex group.ordered.length replicate group.profile projectCoordinate draw
    expect group.ordered[index]? .invalid

/-- A round of the loop over the groups: what is drawn so far, and how often each signature came. -/
def drawRound (replicate : ℕ)
    (state : List CaptureFeedbackDatasetExample × Dict (String × String) ℕ) (group : BootstrapGroup) :
    Except CaptureFeedbackError (List CaptureFeedbackDatasetExample × Dict (String × String) ℕ) := do
  let duplicateKey := (group.profile, group.signature)
  let duplicateOrdinal := (state.2.get? duplicateKey).getD 0
  let drawn ← drawGroup replicate group duplicateOrdinal
  pure (state.1 ++ drawn, state.2.set duplicateKey (duplicateOrdinal + 1))

/-- `_bootstrap_samples`. -/
def bootstrapSamples (examples : List CaptureFeedbackDatasetExample) (replicate : ℕ) :
    Except CaptureFeedbackError (List CaptureFeedbackDatasetExample) := do
  let state ← (bootstrapGroups examples).foldlM (drawRound replicate) ([], .empty)
  pure state.1

end Bootstrap

/-! ## Estimates -/

/-- A model instance is made only of what passes its validator. -/
def made {α : Type} (check : α → Check) (value : α) : Except CaptureFeedbackError α :=
  match check value with
  | .ok () => .ok value
  | .error _ => .error .invalid

/-- `CaptureCalibrationBoundaryStatus`. -/
inductive CaptureCalibrationBoundaryStatus where
  | interior | degenerateZeroWidth
deriving DecidableEq

/-- The text of a boundary status. -/
def CaptureCalibrationBoundaryStatus.value : CaptureCalibrationBoundaryStatus → String
  | .interior => "interior"
  | .degenerateZeroWidth => "degenerate_zero_width"

/-- `CaptureCalibrationBootstrapInterval`. -/
structure CaptureCalibrationBootstrapInterval where
  lowerPpm : ℤ
  upperPpm : ℤ
  boundaryStatus : CaptureCalibrationBoundaryStatus
deriving DecidableEq

/-- `interval_is_ordered`, after the field constraints. -/
def CaptureCalibrationBootstrapInterval.check (interval : CaptureCalibrationBootstrapInterval) : Check := do
  constrain (0 ≤ interval.lowerPpm) "lower_ppm" "greater_than_equal"
  constrain (interval.lowerPpm ≤ ppm) "lower_ppm" "less_than_equal"
  constrain (0 ≤ interval.upperPpm) "upper_ppm" "greater_than_equal"
  constrain (interval.upperPpm ≤ ppm) "upper_ppm" "less_than_equal"
  refuse (interval.upperPpm < interval.lowerPpm) "calibration interval is reversed"
  refuse ((interval.boundaryStatus = .degenerateZeroWidth) ≠ (interval.lowerPpm = interval.upperPpm))
    "calibration interval boundary status is inconsistent"

/-- `CaptureCalibrationIntervalStatus`. -/
inductive CaptureCalibrationIntervalStatus where
  | estimated | insufficientSupport | undefinedBootstrapReplicate
deriving DecidableEq

/-- The text of an interval status. -/
def CaptureCalibrationIntervalStatus.value : CaptureCalibrationIntervalStatus → String
  | .estimated => "estimated"
  | .insufficientSupport => "insufficient_support"
  | .undefinedBootstrapReplicate => "undefined_bootstrap_replicate"

/-- `CaptureCalibrationEstimate`. -/
structure CaptureCalibrationEstimate where
  numerator : ℕ
  denominator : ℕ
  valuePpm : ℕ
  interval : Option CaptureCalibrationBootstrapInterval
  intervalStatus : CaptureCalibrationIntervalStatus
  undefinedBootstrapReplicates : ℕ
deriving DecidableEq

/-- Whether the interval is there as its status says. -/
def CaptureCalibrationEstimate.statusValid (estimate : CaptureCalibrationEstimate) : Bool :=
  match estimate.intervalStatus with
  | .estimated => estimate.interval.isSome && estimate.undefinedBootstrapReplicates = 0
  | .insufficientSupport => estimate.interval.isNone && estimate.undefinedBootstrapReplicates = 0
  | .undefinedBootstrapReplicate => estimate.interval.isNone && 0 < estimate.undefinedBootstrapReplicates

/-- `estimate_is_exact`, after the field constraints. -/
def CaptureCalibrationEstimate.check (estimate : CaptureCalibrationEstimate) : Check := do
  constrain (estimate.numerator ≤ maxCaptureFeedbackExamples) "numerator" "less_than_equal"
  constrain (1 ≤ estimate.denominator) "denominator" "greater_than_equal"
  constrain (estimate.denominator ≤ maxCaptureFeedbackExamples) "denominator" "less_than_equal"
  constrain (estimate.valuePpm ≤ ppm) "value_ppm" "less_than_equal"
  estimate.interval.forM CaptureCalibrationBootstrapInterval.check
  constrain (estimate.undefinedBootstrapReplicates ≤ captureCalibrationBootstrapReplicates)
    "undefined_bootstrap_replicates" "less_than_equal"
  refuse (estimate.denominator < estimate.numerator
    ∨ estimate.valuePpm ≠ estimate.numerator * 1000000 / estimate.denominator) "calibration estimate is inconsistent"
  refuse (estimate.statusValid = false) "calibration estimate interval status is inconsistent"
  refuse (estimate.denominator < captureCalibrationMinIntervalDenominator
    ∧ estimate.intervalStatus ≠ .insufficientSupport) "calibration estimate interval support is inconsistent"

/-- `_interval`. -/
def interval (values : List ℚ) (undefined : ℕ) :
    Except CaptureFeedbackError (Option CaptureCalibrationBootstrapInterval) := do
  if undefined ≠ 0 ∨ values.length ≠ captureCalibrationBootstrapReplicates then
    return none
  let ordered := sortBy id values
  let lowerValue ← expect ordered[bootstrapLowerRank - 1]? .invalid
  let upperValue ← expect ordered[bootstrapUpperRank - 1]? .invalid
  let lower := fractionPpm lowerValue
  let upper := (upperValue.num * ppm + upperValue.den - 1) / upperValue.den
  let boundaryStatus := if lower = upper then .degenerateZeroWidth else .interior
  some <$> made CaptureCalibrationBootstrapInterval.check { lowerPpm := lower, upperPpm := upper, boundaryStatus }

/-- `_estimate`. -/
def estimate (n : ConfusionCell → ℕ) (metric : CalibrationMetric) (values : List ℚ) (undefined : ℕ)
    (bootstrapEnabled : Bool) : Except CaptureFeedbackError (Option CaptureCalibrationEstimate) := do
  match metricParts n metric with
  | none => return none
  | some (numerator, denominator) =>
    let intervalEnabled := bootstrapEnabled && captureCalibrationMinIntervalDenominator ≤ denominator
    let found ← if intervalEnabled then interval values undefined else pure none
    let intervalStatus := if intervalEnabled = false then .insufficientSupport
      else if undefined ≠ 0 then .undefinedBootstrapReplicate else .estimated
    let undefinedReplicates := if intervalEnabled = false then 0 else undefined
    some <$> made CaptureCalibrationEstimate.check {
      numerator, denominator
      valuePpm := numerator * 1000000 / denominator
      interval := found
      intervalStatus
      undefinedBootstrapReplicates := undefinedReplicates }

/-! ## Strata -/

/-- `CaptureCalibrationStratum`: all providers, or one. -/
structure CaptureCalibrationStratum where
  /-- `scope`: whether the stratum is pooled. -/
  pooled : Bool
  profileId : Option CaptureProfile
  projectCount : ℕ
  totalSupport : ℕ
  memoryNeededSupport : ℕ
  notMemoryNeededSupport : ℕ
  uncertainSupport : ℕ
  confusion : ConfusionCell → ℕ
  metrics : CalibrationMetric → Option CaptureCalibrationEstimate

/-- Whether a metric is as the counts have it. -/
def CaptureCalibrationStratum.metricExact (stratum : CaptureCalibrationStratum) (metric : CalibrationMetric) : Bool :=
  match metricParts stratum.confusion metric, stratum.metrics metric with
  | none, none => true
  | some parts, some estimate => (estimate.numerator, estimate.denominator) = parts
  | _, _ => false

/-- `stratum_counts_are_disjoint`, after the field constraints. -/
def CaptureCalibrationStratum.check (stratum : CaptureCalibrationStratum) : Check := do
  constrain (stratum.projectCount ≤ maxCaptureFeedbackExamples) "project_count" "less_than_equal"
  constrain (stratum.totalSupport ≤ maxCaptureFeedbackExamples) "total_support" "less_than_equal"
  constrain (stratum.memoryNeededSupport ≤ maxCaptureFeedbackExamples) "memory_needed_support" "less_than_equal"
  constrain (stratum.notMemoryNeededSupport ≤ maxCaptureFeedbackExamples) "not_memory_needed_support"
    "less_than_equal"
  constrain (stratum.uncertainSupport ≤ maxCaptureFeedbackExamples) "uncertain_support" "less_than_equal"
  ConfusionCell.all.forM fun cell =>
    constrain (stratum.confusion cell ≤ maxCaptureFeedbackExamples) cell.name "less_than_equal"
  CalibrationMetric.all.forM fun metric => (stratum.metrics metric).forM CaptureCalibrationEstimate.check
  refuse ((stratum.pooled = true) ≠ (stratum.profileId = none)
    ∨ positive stratum.confusion ≠ stratum.memoryNeededSupport
    ∨ negative stratum.confusion ≠ stratum.notMemoryNeededSupport
    ∨ uncertain stratum.confusion ≠ stratum.uncertainSupport
    ∨ stratum.totalSupport ≠ total stratum.confusion
    ∨ stratum.totalSupport < stratum.projectCount
    ∨ CalibrationMetric.all.all stratum.metricExact = false) "calibration stratum counts are inconsistent"

/-- What the bootstrap found: the values of each metric in each scope, and how often it had none. -/
structure BootstrapTables where
  values : Option CaptureProfile → CalibrationMetric → List ℚ
  undefined : Option CaptureProfile → CalibrationMetric → ℕ

/-- The estimates of the metrics. -/
def estimates (n : ConfusionCell → ℕ) (values : CalibrationMetric → List ℚ) (undefined : CalibrationMetric → ℕ)
    (bootstrapEnabled : Bool) :
    Except CaptureFeedbackError (CalibrationMetric → Option CaptureCalibrationEstimate) := do
  let found ← CalibrationMetric.all.mapM fun metric => do
    pure (metric, ← estimate n metric (values metric) (undefined metric) bootstrapEnabled)
  pure fun metric => (found.lookup metric).join

/-- `_build_stratum`. -/
def buildStratum (examples : List CaptureFeedbackDatasetExample) (profileId : Option CaptureProfile)
    (tables : BootstrapTables) (bootstrapEnabled : Bool) : Except CaptureFeedbackError CaptureCalibrationStratum := do
  let n := counts examples
  let metrics ← estimates n (tables.values profileId) (tables.undefined profileId) bootstrapEnabled
  made CaptureCalibrationStratum.check {
    pooled := profileId.isNone
    profileId
    projectCount := (examples.map CaptureFeedbackDatasetExample.projectId).dedup.length
    totalSupport := examples.length
    memoryNeededSupport := positive n
    notMemoryNeededSupport := negative n
    uncertainSupport := examples.length - positive n - negative n
    confusion := n
    metrics }

/-! ## Reports -/

/-- `CaptureCalibrationInsufficiency`. -/
inductive CaptureCalibrationInsufficiency where
  | nonE01Evidence | developmentCohort | finalTestSupport | projectSupport | providerSupport
  | memoryNeededSupport | notMemoryNeededSupport | processAttestation | providerDisclosure
  | metricInterval | externalReview
deriving DecidableEq

/-- The text of an insufficiency. -/
def CaptureCalibrationInsufficiency.value : CaptureCalibrationInsufficiency → String
  | .nonE01Evidence => "non_e01_evidence"
  | .developmentCohort => "development_or_calibration_cohort_missing"
  | .finalTestSupport => "final_test_support_below_200"
  | .projectSupport => "final_test_project_support_below_3"
  | .providerSupport => "final_test_provider_support_below_2"
  | .memoryNeededSupport => "final_test_memory_needed_support_below_30"
  | .notMemoryNeededSupport => "final_test_not_memory_needed_support_below_30"
  | .processAttestation => "external_process_attestation_missing"
  | .providerDisclosure => "provider_stratum_below_disclosure_floor_30"
  | .metricInterval => "descriptive_metric_interval_unavailable"
  | .externalReview => "external_review_required"

/-- What a report says of a data set, and not which data set it is. -/
structure CalibrationFindings where
  evidenceSource : CaptureFeedbackEvidenceSource
  studyAttestationDigest : Option Sha256Digest
  blindingStatus : Option CaptureFeedbackBlindingStatus
  insufficiencyReasons : List CaptureCalibrationInsufficiency
  datasetSupport : ℕ
  developmentSupport : ℕ
  calibrationSupport : ℕ
  finalTestSupport : ℕ
  providerCount : ℕ
  suppressedProviderCount : ℕ
  suppressedProviderSupport : ℕ
  pooled : CaptureCalibrationStratum
  providers : List CaptureCalibrationStratum

/-- The fields of a report but its digest and its tag. -/
structure CalibrationReportBody extends CalibrationFindings where
  datasetDigest : Sha256Digest

/-- `CaptureCalibrationReport`. -/
structure CaptureCalibrationReport extends CalibrationReportBody where
  reportDigest : Sha256Digest
  reportTag : Sha256Digest

/-- The JSON form of an interval. -/
def CaptureCalibrationBootstrapInterval.dump (interval : CaptureCalibrationBootstrapInterval) : Json :=
  .object [
    ("bootstrap_replicates", .int 2000),
    ("boundary_status", .str interval.boundaryStatus.value),
    ("confidence_ppm", .int 950000),
    ("finite_sample_safety_bound", .bool false),
    ("lower_ppm", .int interval.lowerPpm),
    ("percentile_rule", .str "nearest-rank-50-1950-of-2000/v1"),
    ("upper_ppm", .int interval.upperPpm)]

/-- The JSON form of an estimate. -/
def CaptureCalibrationEstimate.dump (estimate : CaptureCalibrationEstimate) : Json :=
  .object [
    ("denominator", .int estimate.denominator),
    ("interval", (estimate.interval.map CaptureCalibrationBootstrapInterval.dump).getD .null),
    ("interval_status", .str estimate.intervalStatus.value),
    ("numerator", .int estimate.numerator),
    ("undefined_bootstrap_replicates", .int estimate.undefinedBootstrapReplicates),
    ("value_ppm", .int estimate.valuePpm)]

/-- The JSON form of a stratum. -/
def CaptureCalibrationStratum.dump (stratum : CaptureCalibrationStratum) : Json :=
  .object [
    ("confusion", .object (ConfusionCell.all.map fun cell => (cell.name, .int (stratum.confusion cell)))),
    ("memory_needed_support", .int stratum.memoryNeededSupport),
    ("metrics", .object (CalibrationMetric.all.map fun metric =>
      (metric.name, ((stratum.metrics metric).map CaptureCalibrationEstimate.dump).getD .null))),
    ("not_memory_needed_support", .int stratum.notMemoryNeededSupport),
    ("profile_id", CaptureProfile.codec.dumpNullable stratum.profileId),
    ("project_count", .int stratum.projectCount),
    ("scope", .str (if stratum.pooled then "pooled" else "provider")),
    ("total_support", .int stratum.totalSupport),
    ("uncertain_support", .int stratum.uncertainSupport)]

/-- The members of a report but its digest and its tag, up to the providers. -/
def CalibrationReportBody.members (body : CalibrationReportBody) : List (String × Json) := [
  ("blinding_status", CaptureFeedbackBlindingStatus.codec.dumpNullable body.blindingStatus),
  ("bootstrap_seed_commitment", .str captureCalibrationBootstrapSeedCommitment),
  ("bootstrap_stratification", .str "provider_project"),
  ("calibrated", .bool false),
  ("calibration_eligible", .bool false),
  ("calibration_support", .int body.calibrationSupport),
  ("classification_evaluation", .bool true),
  ("confirmatory", .bool false),
  ("dataset_authentication_verified", .bool true),
  ("dataset_digest", .str body.datasetDigest.text),
  ("dataset_support", .int body.datasetSupport),
  ("decision_authority", .bool false),
  ("development_support", .int body.developmentSupport),
  ("evidence_source", .str body.evidenceSource.value),
  ("evidence_status", .str "insufficient_real_world_evidence"),
  ("final_test_support", .int body.finalTestSupport),
  ("insufficiency_reasons", .list (body.insufficiencyReasons.map fun reason => .str reason.value)),
  ("pooled", body.pooled.dump),
  ("project_identifiers_disclosed", .bool false),
  ("provider_count", .int body.providerCount),
  ("providers", .list (body.providers.map CaptureCalibrationStratum.dump)),
  ("raw_content_used", .bool false)]

/-- The members of a report after its digest. -/
def CalibrationReportBody.moreMembers (body : CalibrationReportBody) : List (String × Json) := [
  ("schema_version", .str "capture-calibration-report/v1"),
  ("study_attestation_digest", Sha256Digest.codec.dumpNullable body.studyAttestationDigest),
  ("suppressed_provider_count", .int body.suppressedProviderCount),
  ("suppressed_provider_support", .int body.suppressedProviderSupport)]

/-- `_calibration_report_body_digest`. -/
def calibrationReportBodyDigest [Hashing] (body : CalibrationReportBody) : Sha256Digest :=
  Hashing.lengthPrefixedSha256 "saliencegate:capture:calibration-report:v1"
    [.canonicalJson (.object (body.members ++ body.moreMembers))]

/-- `_calibration_report_tag_material`. -/
def calibrationReportTagMaterial (body : CalibrationReportBody) (reportDigest : Sha256Digest) : Json :=
  .object (body.members ++ ("report_digest", .str reportDigest.text) :: body.moreMembers)

/-- The reasons whose conditions hold. -/
def reasonsOf (conditions : List (CaptureCalibrationInsufficiency × Bool)) : List CaptureCalibrationInsufficiency :=
  (conditions.filter Prod.snd).map Prod.fst

/-- The estimates of strata. -/
def estimatesOf (strata : List CaptureCalibrationStratum) : List (Option CaptureCalibrationEstimate) :=
  strata.flatMap fun stratum => CalibrationMetric.all.map stratum.metrics

/-- Whether an estimate is without an interval. -/
def lacksInterval (estimate : Option CaptureCalibrationEstimate) : Bool :=
  estimate.all fun estimate => estimate.interval.isNone

/-- `expected_reasons`, of the report itself. -/
def CalibrationFindings.expectedReasons (findings : CalibrationFindings) : List CaptureCalibrationInsufficiency :=
  reasonsOf [
    (.externalReview, true),
    (.nonE01Evidence, findings.evidenceSource ≠ .declaredE01),
    (.developmentCohort, findings.developmentSupport + findings.calibrationSupport = 0),
    (.finalTestSupport, findings.finalTestSupport < captureE01MinFinalTestSessions),
    (.projectSupport, findings.pooled.projectCount < captureE01MinProjects),
    (.providerSupport, findings.providerCount < captureE01MinProviders),
    (.memoryNeededSupport, findings.pooled.memoryNeededSupport < captureE01MinMemoryNeeded),
    (.notMemoryNeededSupport, findings.pooled.notMemoryNeededSupport < captureE01MinNotMemoryNeeded),
    (.providerDisclosure, findings.suppressedProviderCount ≠ 0),
    (.processAttestation, findings.evidenceSource = .declaredE01
      ∧ findings.blindingStatus ≠ some .externallyAttested),
    (.metricInterval, (estimatesOf (findings.pooled :: findings.providers)).any lacksInterval)]

/-- `interval_statuses_are_exact`. -/
def CalibrationFindings.intervalStatusesExact (findings : CalibrationFindings) : Bool :=
  (estimatesOf (findings.pooled :: findings.providers)).all fun estimate =>
    estimate.all fun estimate => decide (estimate.intervalStatus = .insufficientSupport)
      = decide (findings.finalTestSupport < captureE01MinFinalTestSessions
        ∨ estimate.denominator < captureCalibrationMinIntervalDenominator)

/-- The text of the profile of a stratum. -/
def CaptureCalibrationStratum.profileValue (stratum : CaptureCalibrationStratum) : String :=
  (stratum.profileId.map CaptureProfile.value).getD ""

/-- What `report_is_canonical_and_non_authoritative` checks but for the digest, after the field constraints. -/
def CalibrationFindings.check (findings : CalibrationFindings) : Check := do
  constrain (1 ≤ findings.insufficiencyReasons.length) "insufficiency_reasons" "too_short"
  constrain (findings.insufficiencyReasons.length ≤ 11) "insufficiency_reasons" "too_long"
  constrain (findings.datasetSupport ≤ maxCaptureFeedbackExamples) "dataset_support" "less_than_equal"
  constrain (findings.developmentSupport ≤ maxCaptureFeedbackExamples) "development_support" "less_than_equal"
  constrain (findings.calibrationSupport ≤ maxCaptureFeedbackExamples) "calibration_support" "less_than_equal"
  constrain (findings.finalTestSupport ≤ maxCaptureFeedbackExamples) "final_test_support" "less_than_equal"
  constrain (findings.providerCount ≤ 4) "provider_count" "less_than_equal"
  constrain (findings.suppressedProviderCount ≤ 4) "suppressed_provider_count" "less_than_equal"
  constrain (findings.suppressedProviderSupport ≤ maxCaptureFeedbackExamples) "suppressed_provider_support"
    "less_than_equal"
  findings.pooled.check
  constrain (findings.providers.length ≤ 4) "providers" "too_long"
  findings.providers.forM CaptureCalibrationStratum.check
  let reasons := findings.insufficiencyReasons.map CaptureCalibrationInsufficiency.value
  let declaredE01 := findings.evidenceSource = .declaredE01
  let profiles := findings.providers.map CaptureCalibrationStratum.profileValue
  let support (of : CaptureCalibrationStratum → ℕ) := (findings.providers.map of).sum
  refuse (reasons ≠ sortBy id reasons.dedup
    ∨ findings.insufficiencyReasons ≠ sortBy CaptureCalibrationInsufficiency.value findings.expectedReasons
    ∨ (findings.studyAttestationDigest.isSome = true) ≠ declaredE01
    ∨ (findings.blindingStatus.isSome = true) ≠ declaredE01
    ∨ findings.datasetSupport
      ≠ findings.developmentSupport + findings.calibrationSupport + findings.finalTestSupport
    ∨ findings.pooled.pooled = false
    ∨ findings.pooled.totalSupport ≠ findings.finalTestSupport
    ∨ findings.providerCount ≠ findings.providers.length + findings.suppressedProviderCount
    ∨ findings.finalTestSupport < findings.suppressedProviderSupport
    ∨ (findings.suppressedProviderCount = 0) ≠ (findings.suppressedProviderSupport = 0)
    ∨ (∃ stratum ∈ findings.providers, stratum.profileId = none)
    ∨ profiles ≠ sortBy id profiles.dedup
    ∨ (∃ stratum ∈ findings.providers, stratum.pooled = true)
    ∨ (∃ stratum ∈ findings.providers, stratum.totalSupport < captureCalibrationMinProviderDisclosureSupport)
    ∨ findings.intervalStatusesExact = false
    ∨ support CaptureCalibrationStratum.totalSupport + findings.suppressedProviderSupport
      ≠ findings.finalTestSupport
    ∨ findings.suppressedProviderSupport = 0
      ∧ (support CaptureCalibrationStratum.memoryNeededSupport ≠ findings.pooled.memoryNeededSupport
        ∨ support CaptureCalibrationStratum.notMemoryNeededSupport ≠ findings.pooled.notMemoryNeededSupport
        ∨ support CaptureCalibrationStratum.uncertainSupport ≠ findings.pooled.uncertainSupport
        ∨ ∃ cell ∈ ConfusionCell.all,
          findings.pooled.confusion cell ≠ support fun stratum => stratum.confusion cell))
    "calibration report is inconsistent"

/-- `report_is_canonical_and_non_authoritative`. -/
def CaptureCalibrationReport.check [Hashing] (report : CaptureCalibrationReport) : Check := do
  report.toCalibrationFindings.check
  refuse (calibrationReportBodyDigest report.toCalibrationReportBody ≠ report.reportDigest)
    "calibration report is inconsistent"

/-! ## Evaluation -/

/-- The examples of a scope: all, or those of one provider. -/
def inScope (scope : Option CaptureProfile) (examples : List CaptureFeedbackDatasetExample) :
    List CaptureFeedbackDatasetExample :=
  match scope with
  | none => examples
  | some profile => examples.filter fun example_ => example_.profileId = profile

/-- What a replicate adds to the tables: for each scope and each metric a value, or that there is none. -/
def BootstrapTables.record (tables : BootstrapTables) (scopes : List (Option CaptureProfile))
    (sampled : List CaptureFeedbackDatasetExample) : BootstrapTables where
  values scope metric :=
    if scope ∈ scopes then
      tables.values scope metric ++ (metricFractions (counts (inScope scope sampled)) metric).toList
    else tables.values scope metric
  undefined scope metric :=
    if scope ∈ scopes ∧ metricFractions (counts (inScope scope sampled)) metric = none then
      tables.undefined scope metric + 1
    else tables.undefined scope metric

/-- `_attestation_digest`. -/
def attestationDigest [Hashing] (attestation : Option CaptureFeedbackStudyAttestation) : Option Sha256Digest :=
  attestation.map fun attestation =>
    Hashing.lengthPrefixedSha256 "saliencegate:capture:feedback-study-attestation:v1"
      [.canonicalJson (CaptureFeedbackStudyAttestation.codec.dump attestation)]

/-- The examples of a partition. -/
def inPartition (partition : CaptureFeedbackPartition) (examples : List CaptureFeedbackDatasetExample) :
    List CaptureFeedbackDatasetExample :=
  examples.filter fun example_ => example_.partition = partition

/-- The profiles of examples, in order. -/
def profilesOf (examples : List CaptureFeedbackDatasetExample) : List CaptureProfile :=
  sortBy CaptureProfile.value (examples.map CaptureFeedbackDatasetExample.profileId).dedup

/-- The profiles with enough examples to be disclosed. -/
def disclosedProfiles (examples : List CaptureFeedbackDatasetExample) : List CaptureProfile :=
  (profilesOf examples).filter fun profile =>
    captureCalibrationMinProviderDisclosureSupport ≤ (inScope (some profile) examples).length

/-- The tables of the bootstrap. -/
def bootstrapTables [Hashing] (finalTest : List CaptureFeedbackDatasetExample) :
    Except CaptureFeedbackError BootstrapTables :=
  let scopes := none :: (disclosedProfiles finalTest).map some
  let start : BootstrapTables := ⟨fun _ _ => [], fun _ _ => 0⟩
  if captureE01MinFinalTestSessions ≤ finalTest.length then
    (List.range captureCalibrationBootstrapReplicates).foldlM (fun tables replicate => do
      let sampled ← bootstrapSamples finalTest replicate
      pure (tables.record scopes sampled)) start
  else pure start

/-- What the evaluation finds in a data set. -/
def findingsOf [Hashing] (body : FeedbackDatasetBody) : Except CaptureFeedbackError CalibrationFindings := do
  let development := inPartition .development body.examples
  let calibration := inPartition .calibration body.examples
  let finalTest := inPartition .finalTest body.examples
  let profiles := profilesOf finalTest
  let disclosed := disclosedProfiles finalTest
  let suppressed := profiles.filter fun profile => profile ∉ disclosed
  let bootstrapEnabled := decide (captureE01MinFinalTestSessions ≤ finalTest.length)
  let tables ← bootstrapTables finalTest
  let pooled ← buildStratum finalTest none tables bootstrapEnabled
  let providers ← disclosed.mapM fun profile =>
    buildStratum (inScope (some profile) finalTest) (some profile) tables bootstrapEnabled
  let reasons := reasonsOf [
    (.externalReview, true),
    (.nonE01Evidence, body.evidenceSource ≠ .declaredE01),
    (.developmentCohort, development = [] ∧ calibration = []),
    (.finalTestSupport, finalTest.length < captureE01MinFinalTestSessions),
    (.projectSupport, pooled.projectCount < captureE01MinProjects),
    (.providerSupport, profiles.length < captureE01MinProviders),
    (.memoryNeededSupport, pooled.memoryNeededSupport < captureE01MinMemoryNeeded),
    (.notMemoryNeededSupport, pooled.notMemoryNeededSupport < captureE01MinNotMemoryNeeded),
    (.providerDisclosure, suppressed ≠ []),
    (.processAttestation, body.evidenceSource = .declaredE01
      ∧ body.studyAttestation.map CaptureFeedbackStudyAttestation.blindingStatus ≠ some .externallyAttested),
    (.metricInterval, (estimatesOf (pooled :: providers)).any lacksInterval)]
  pure {
    evidenceSource := body.evidenceSource
    studyAttestationDigest := attestationDigest body.studyAttestation
    blindingStatus := body.studyAttestation.map CaptureFeedbackStudyAttestation.blindingStatus
    insufficiencyReasons := sortBy CaptureCalibrationInsufficiency.value reasons
    datasetSupport := body.examples.length
    developmentSupport := development.length
    calibrationSupport := calibration.length
    finalTestSupport := finalTest.length
    providerCount := profiles.length
    suppressedProviderCount := suppressed.length
    suppressedProviderSupport := (suppressed.map fun profile => (inScope (some profile) finalTest).length).sum
    pooled
    providers }

/-- `evaluate_capture_feedback_dataset`. -/
def evaluateCaptureFeedbackDataset [FeedbackHashing] [FloatText] (dataset : CaptureFeedbackDataset) :
    Except CaptureFeedbackError CaptureCalibrationReport := do
  let checked ← decodeCaptureFeedbackDataset (← encodeCaptureFeedbackDataset dataset)
  let findings ← findingsOf checked.toFeedbackDatasetBody
  let body : CalibrationReportBody := { findings with datasetDigest := checked.datasetDigest }
  let reportDigest := calibrationReportBodyDigest body
  let reportTag := FeedbackHashing.hmacSha256 "saliencegate:capture:calibration-report-tag:v1"
    (calibrationReportTagMaterial body reportDigest)
  made CaptureCalibrationReport.check { body with reportDigest, reportTag }

end SalienceGate.Calibration
