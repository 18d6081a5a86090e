import SalienceGate.Capture.Evaluated

/-!
# Documents of calibration reports

A report is read back from its own document. Its strata are tables: an object with a member for each cell
of the confusion or for each metric. Every number of a report is bounded by its validators, so that the
document is well within the limits of its reader.
-/

namespace SalienceGate

open Checked Json

/-! ## Tables -/

section Tables

variable {κ α : Type} [DecidableEq κ]

/-- The JSON form of a table: a member for each key. -/
def dumpTable (keys : List κ) (name : κ → String) (dump : α → Json) (table : κ → α) : Json :=
  .object (keys.map fun key => (name key, dump (table key)))

/-- Reading a table. -/
def loadTable (keys : List κ) (name : κ → String) (load : Json → Option α) (default : α) :
    Json → Option (κ → α)
  | .object items => do
    guard (onlyMembers items (keys.map name))
    let found ← keys.mapM fun key => (required items (name key) load).map fun value => (key, value)
    some fun key => (found.lookup key).getD default
  | _ => none

omit [DecidableEq κ] in
theorem lookup_map_name {keys : List κ} {name : κ → String} (hnodup : (keys.map name).Nodup)
    (value : κ → Json) {key : κ} (hkey : key ∈ keys) :
    (keys.map fun key => (name key, value key)).lookup (name key) = some (value key) := by
  induction keys with
  | nil => cases hkey
  | cons first keys ih =>
    obtain ⟨hfirst, hnodup⟩ := List.nodup_cons.mp hnodup
    rw [List.map_cons]
    rcases List.mem_cons.mp hkey with rfl | hkey
    · exact List.lookup_cons_self
    · have hne : name key ≠ name first := by
        intro hsame
        rw [← hsame] at hfirst
        exact hfirst (List.mem_map_of_mem hkey)
      rw [List.lookup_cons, beq_false_of_ne hne]
      exact ih hnodup hkey

theorem lookup_map_key {keys : List κ} (value : κ → α) {key : κ} (hkey : key ∈ keys) :
    (keys.map fun key => (key, value key)).lookup key = some (value key) := by
  induction keys with
  | nil => cases hkey
  | cons first keys ih =>
    rw [List.map_cons, List.lookup_cons]
    by_cases hsame : key = first
    · rw [hsame, beq_self_eq_true]
    · rw [beq_false_of_ne hsame]
      rcases List.mem_cons.mp hkey with rfl | hkey
      · exact absurd rfl hsame
      · exact ih hkey

/-- A table is read back if its values are, and if its keys have names of their own. -/
theorem loadTable_dumpTable {keys : List κ} {name : κ → String} {dump : α → Json}
    {load : Json → Option α} {default : α} {table : κ → α} (hkeys : ∀ key, key ∈ keys)
    (hnodup : (keys.map name).Nodup) (hload : ∀ key, load (dump (table key)) = some (table key)) :
    loadTable keys name load default (dumpTable keys name dump table) = some table := by
  have hguard : onlyMembers (keys.map fun key => (name key, dump (table key))) (keys.map name) = true := by
    refine List.all_eq_true.mpr fun shown hshown => ?_
    obtain ⟨item, hitem, rfl⟩ := List.mem_map.mp hshown
    obtain ⟨key, hkey, rfl⟩ := List.mem_map.mp hitem
    have hname : name key ∈ keys.map name := List.mem_map_of_mem hkey
    simpa using hname
  have hfound : keys.mapM (fun key => (required (keys.map fun key => (name key, dump (table key)))
      (name key) load).map fun value => (key, value)) = some (keys.map fun key => (key, table key)) := by
    rw [mapM_eq_some, List.map_map]
    refine List.map_congr_left fun key hkey => ?_
    unfold required member
    rw [lookup_map_name hnodup _ hkey, Option.bind_some, hload]
    rfl
  unfold loadTable dumpTable
  dsimp only
  rw [hguard, hfound]
  show some (fun key => ((keys.map fun key => (key, table key)).lookup key).getD default) = some table
  congr 1
  funext key
  rw [lookup_map_key table (hkeys key)]
  rfl

end Tables

namespace Calibration

/-- Reading a value that may be `null`. -/
def loadOrNull {α : Type} (load : Json → Option α) : Json → Option (Option α)
  | .null => some none
  | value => (load value).map some

/-! ## Reading -/

/-- The JSON form of a boundary status. -/
def CaptureCalibrationBoundaryStatus.codec : Codec CaptureCalibrationBoundaryStatus :=
  .enum [.interior, .degenerateZeroWidth] CaptureCalibrationBoundaryStatus.value
    fun a => by cases a <;> decide

/-- The JSON form of an interval status. -/
def CaptureCalibrationIntervalStatus.codec : Codec CaptureCalibrationIntervalStatus :=
  .enum [.estimated, .insufficientSupport, .undefinedBootstrapReplicate]
    CaptureCalibrationIntervalStatus.value fun a => by cases a <;> decide

/-- The JSON form of an insufficiency. -/
def CaptureCalibrationInsufficiency.codec : Codec CaptureCalibrationInsufficiency :=
  .enum [.nonE01Evidence, .developmentCohort, .finalTestSupport, .projectSupport, .providerSupport,
    .memoryNeededSupport, .notMemoryNeededSupport, .processAttestation, .providerDisclosure,
    .metricInterval, .externalReview] CaptureCalibrationInsufficiency.value
    fun a => by cases a <;> decide

/-- The text of a scope. -/
def scopeValue (pooled : Bool) : String := if pooled then "pooled" else "provider"

/-- The JSON form of a scope. -/
def scopeCodec : Codec Bool := .enum [true, false] scopeValue fun a => by cases a <;> decide

/-- `CaptureCalibrationBootstrapInterval.model_validate_json`. -/
def CaptureCalibrationBootstrapInterval.load : Json → Option CaptureCalibrationBootstrapInterval
  | .object items => do
    guard (onlyMembers items ["bootstrap_replicates", "boundary_status", "confidence_ppm",
      "finite_sample_safety_bound", "lower_ppm", "percentile_rule", "upper_ppm"])
    let lowerPpm ← required items "lower_ppm" Codec.int.load
    let upperPpm ← required items "upper_ppm" Codec.int.load
    guard ((← defaulted items "confidence_ppm" Codec.int.load 950000) = 950000)
    guard ((← defaulted items "bootstrap_replicates" Codec.int.load 2000) = 2000)
    guard ((← defaulted items "percentile_rule" Codec.str.load "nearest-rank-50-1950-of-2000/v1")
      = "nearest-rank-50-1950-of-2000/v1")
    let boundaryStatus ← required items "boundary_status" CaptureCalibrationBoundaryStatus.codec.load
    guard ((← defaulted items "finite_sample_safety_bound" Codec.bool.load false) = false)
    (made CaptureCalibrationBootstrapInterval.check ⟨lowerPpm, upperPpm, boundaryStatus⟩).toOption
  | _ => none

/-- `CaptureCalibrationEstimate.model_validate_json`. -/
def CaptureCalibrationEstimate.load : Json → Option CaptureCalibrationEstimate
  | .object items => do
    guard (onlyMembers items ["denominator", "interval", "interval_status", "numerator",
      "undefined_bootstrap_replicates", "value_ppm"])
    let numerator ← required items "numerator" Codec.nat.load
    let denominator ← required items "denominator" Codec.nat.load
    let valuePpm ← required items "value_ppm" Codec.nat.load
    let interval ← required items "interval" (loadOrNull CaptureCalibrationBootstrapInterval.load)
    let intervalStatus ← required items "interval_status" CaptureCalibrationIntervalStatus.codec.load
    let undefinedBootstrapReplicates ← required items "undefined_bootstrap_replicates" Codec.nat.load
    (made CaptureCalibrationEstimate.check ⟨numerator, denominator, valuePpm, interval, intervalStatus,
      undefinedBootstrapReplicates⟩).toOption
  | _ => none

/-- `CaptureCalibrationStratum.model_validate_json`. -/
def CaptureCalibrationStratum.load : Json → Option CaptureCalibrationStratum
  | .object items => do
    guard (onlyMembers items ["confusion", "memory_needed_support", "metrics",
      "not_memory_needed_support", "profile_id", "project_count", "scope", "total_support",
      "uncertain_support"])
    let pooled ← required items "scope" scopeCodec.load
    let profileId ← required items "profile_id" CaptureProfile.codec.loadNullable
    let projectCount ← required items "project_count" Codec.nat.load
    let totalSupport ← required items "total_support" Codec.nat.load
    let memoryNeededSupport ← required items "memory_needed_support" Codec.nat.load
    let notMemoryNeededSupport ← required items "not_memory_needed_support" Codec.nat.load
    let uncertainSupport ← required items "uncertain_support" Codec.nat.load
    let confusion ← required items "confusion"
      (loadTable ConfusionCell.all ConfusionCell.name Codec.nat.load 0)
    let metrics ← required items "metrics"
      (loadTable CalibrationMetric.all CalibrationMetric.name
        (loadOrNull CaptureCalibrationEstimate.load) none)
    (made CaptureCalibrationStratum.check ⟨pooled, profileId, projectCount, totalSupport,
      memoryNeededSupport, notMemoryNeededSupport, uncertainSupport, confusion, metrics⟩).toOption
  | _ => none

/-- The strata of a report. -/
def loadStrata : Json → Option (List CaptureCalibrationStratum)
  | .list items => items.mapM CaptureCalibrationStratum.load
  | _ => none

/-- The names of the members of a report. -/
def reportMembers : List String :=
  ["blinding_status", "bootstrap_seed_commitment", "bootstrap_stratification", "calibrated",
    "calibration_eligible", "calibration_support", "classification_evaluation", "confirmatory",
    "dataset_authentication_verified", "dataset_digest", "dataset_support", "decision_authority",
    "development_support", "evidence_source", "evidence_status", "final_test_support",
    "insufficiency_reasons", "pooled", "project_identifiers_disclosed", "provider_count", "providers",
    "raw_content_used", "report_digest", "report_tag", "schema_version", "study_attestation_digest",
    "suppressed_provider_count", "suppressed_provider_support"]

/-- `CaptureCalibrationReport.model_validate_json`. -/
def CaptureCalibrationReport.load [Hashing] : Json → Option CaptureCalibrationReport
  | .object items => do
    guard (onlyMembers items reportMembers)
    guard ((← defaulted items "schema_version" Codec.str.load "capture-calibration-report/v1")
      = "capture-calibration-report/v1")
    let datasetDigest ← required items "dataset_digest" Sha256Digest.codec.load
    let evidenceSource ← required items "evidence_source" CaptureFeedbackEvidenceSource.codec.load
    let studyAttestationDigest ← required items "study_attestation_digest"
      Sha256Digest.codec.loadNullable
    let blindingStatus ← required items "blinding_status"
      CaptureFeedbackBlindingStatus.codec.loadNullable
    guard ((← defaulted items "evidence_status" Codec.str.load "insufficient_real_world_evidence")
      = "insufficient_real_world_evidence")
    let insufficiencyReasons ← required items "insufficiency_reasons"
      (Codec.list CaptureCalibrationInsufficiency.codec).load
    let datasetSupport ← required items "dataset_support" Codec.nat.load
    let developmentSupport ← required items "development_support" Codec.nat.load
    let calibrationSupport ← required items "calibration_support" Codec.nat.load
    let finalTestSupport ← required items "final_test_support" Codec.nat.load
    let providerCount ← required items "provider_count" Codec.nat.load
    let suppressedProviderCount ← required items "suppressed_provider_count" Codec.nat.load
    let suppressedProviderSupport ← required items "suppressed_provider_support" Codec.nat.load
    let pooled ← required items "pooled" CaptureCalibrationStratum.load
    let providers ← required items "providers" loadStrata
    guard ((← defaulted items "bootstrap_seed_commitment" Codec.str.load
      captureCalibrationBootstrapSeedCommitment) = captureCalibrationBootstrapSeedCommitment)
    guard ((← defaulted items "bootstrap_stratification" Codec.str.load "provider_project")
      = "provider_project")
    guard ((← defaulted items "classification_evaluation" Codec.bool.load true) = true)
    guard ((← defaulted items "calibrated" Codec.bool.load false) = false)
    guard ((← defaulted items "calibration_eligible" Codec.bool.load false) = false)
    guard ((← defaulted items "raw_content_used" Codec.bool.load false) = false)
    guard ((← defaulted items "project_identifiers_disclosed" Codec.bool.load false) = false)
    guard ((← defaulted items "confirmatory" Codec.bool.load false) = false)
    guard ((← defaulted items "decision_authority" Codec.bool.load false) = false)
    guard ((← defaulted items "dataset_authentication_verified" Codec.bool.load true) = true)
    let reportDigest ← required items "report_digest" Sha256Digest.codec.load
    let reportTag ← required items "report_tag" Sha256Digest.codec.load
    let findings : CalibrationFindings := ⟨evidenceSource, studyAttestationDigest, blindingStatus,
      insufficiencyReasons, datasetSupport, developmentSupport, calibrationSupport, finalTestSupport,
      providerCount, suppressedProviderCount, suppressedProviderSupport, pooled, providers⟩
    (made CaptureCalibrationReport.check
      ⟨⟨findings, datasetDigest⟩, reportDigest, reportTag⟩).toOption
  | _ => none

/-! ## Reading back -/

theorem made_toOption_self {α : Type} {check : α → Check} {value : α} (h : check value = .ok ()) :
    (made check value).toOption = some value := by
  rw [made_eq_ok h]
  rfl

theorem load_count (n : ℕ) : Codec.nat.load (.int n) = some n := Codec.nat.load_dump n

theorem load_dump_interval {interval : CaptureCalibrationBootstrapInterval}
    (h : interval.check = .ok ()) :
    CaptureCalibrationBootstrapInterval.load interval.dump = some interval := by
  have hboundary : Json.str interval.boundaryStatus.value
      = CaptureCalibrationBoundaryStatus.codec.dump interval.boundaryStatus := rfl
  unfold CaptureCalibrationBootstrapInterval.load CaptureCalibrationBootstrapInterval.dump
  simp [onlyMembers, Codec.str, Codec.bool, Codec.int, hboundary, made_toOption_self h]

theorem load_dump_estimate {estimate : CaptureCalibrationEstimate}
    (h : estimate.check = .ok ())
    (hinterval : ∀ interval ∈ estimate.interval, interval.check = .ok ()) :
    CaptureCalibrationEstimate.load estimate.dump = some estimate := by
  have hstatus : Json.str estimate.intervalStatus.value
      = CaptureCalibrationIntervalStatus.codec.dump estimate.intervalStatus := rfl
  have hload : loadOrNull CaptureCalibrationBootstrapInterval.load
      ((estimate.interval.map CaptureCalibrationBootstrapInterval.dump).getD .null)
      = some estimate.interval := by
    cases hfound : estimate.interval with
    | none => rfl
    | some interval =>
      show (CaptureCalibrationBootstrapInterval.load interval.dump).map some = _
      rw [load_dump_interval (hinterval interval hfound)]
      rfl
  unfold CaptureCalibrationEstimate.load CaptureCalibrationEstimate.dump
  simp [onlyMembers, load_count, hstatus, hload, made_toOption_self h]

theorem ConfusionCell.name_nodup : (ConfusionCell.all.map ConfusionCell.name).Nodup := by decide

theorem CalibrationMetric.mem_all (metric : CalibrationMetric) : metric ∈ CalibrationMetric.all := by
  cases metric <;> decide

theorem CalibrationMetric.name_nodup : (CalibrationMetric.all.map CalibrationMetric.name).Nodup := by
  decide

theorem load_dump_stratum {stratum : CaptureCalibrationStratum} (h : stratum.check = .ok ()) :
    CaptureCalibrationStratum.load stratum.dump = some stratum := by
  obtain ⟨-, -, -, -, -, -, hestimates, -⟩ := CaptureCalibrationStratum.check_eq_ok.mp h
  have hscope : Json.str (if stratum.pooled then "pooled" else "provider")
      = scopeCodec.dump stratum.pooled := rfl
  have hconfusion : loadTable ConfusionCell.all ConfusionCell.name Codec.nat.load 0
      (.object (ConfusionCell.all.map fun cell => (cell.name, .int (stratum.confusion cell))))
      = some stratum.confusion :=
    loadTable_dumpTable ConfusionCell.mem_all ConfusionCell.name_nodup
      fun cell => Codec.nat.load_dump (stratum.confusion cell)
  have hmetrics : loadTable CalibrationMetric.all CalibrationMetric.name
      (loadOrNull CaptureCalibrationEstimate.load) none
      (.object (CalibrationMetric.all.map fun metric => (metric.name,
        ((stratum.metrics metric).map CaptureCalibrationEstimate.dump).getD .null)))
      = some stratum.metrics := by
    refine @loadTable_dumpTable _ _ _ _ _
      (fun found : Option CaptureCalibrationEstimate =>
        (found.map CaptureCalibrationEstimate.dump).getD .null) _ _ _ CalibrationMetric.mem_all
      CalibrationMetric.name_nodup ?_
    intro metric
    cases hfound : stratum.metrics metric with
    | none => rfl
    | some estimate =>
      have hcheck := hestimates metric (CalibrationMetric.mem_all metric) estimate hfound
      obtain ⟨-, -, -, -, hinterval, -⟩ := CaptureCalibrationEstimate.check_eq_ok.mp hcheck
      show (CaptureCalibrationEstimate.load estimate.dump).map some = _
      rw [load_dump_estimate hcheck hinterval]
      rfl
  unfold CaptureCalibrationStratum.load CaptureCalibrationStratum.dump
  simp [onlyMembers, load_count, hscope, hconfusion, hmetrics, made_toOption_self h]

/-- The document of a report. -/
def CaptureCalibrationReport.document (report : CaptureCalibrationReport) : Json :=
  .object (report.members ++ ("report_digest", .str report.reportDigest.text)
    :: ("report_tag", .str report.reportTag.text) :: report.moreMembers)

/-- The document of a report that passes its validator is loaded. -/
theorem load_document_report [Hashing] {report : CaptureCalibrationReport} (h : report.check = .ok ()) :
    CaptureCalibrationReport.load report.document = some report := by
  obtain ⟨hfindings, -⟩ := check_bind_eq_ok.mp h
  obtain ⟨-, -, -, -, -, -, -, -, -, hpooled, -, hproviders, -⟩ :=
    CalibrationFindings.check_eq_ok.mp hfindings
  have hdigest : ∀ digest : Sha256Digest, Json.str digest.text = Sha256Digest.codec.dump digest :=
    fun _ => rfl
  have hsource : Json.str report.evidenceSource.value
      = CaptureFeedbackEvidenceSource.codec.dump report.evidenceSource := rfl
  have hreasons : Json.list (report.insufficiencyReasons.map fun reason => .str reason.value)
      = (Codec.list CaptureCalibrationInsufficiency.codec).dump report.insufficiencyReasons := rfl
  have hpooledLoad := load_dump_stratum hpooled
  have hstrata : loadStrata (.list (report.providers.map CaptureCalibrationStratum.dump))
      = some report.providers := by
    show (report.providers.map CaptureCalibrationStratum.dump).mapM CaptureCalibrationStratum.load = _
    rw [mapM_eq_some, List.map_map]
    exact List.map_congr_left fun stratum hstratum => load_dump_stratum (hproviders stratum hstratum)
  unfold CaptureCalibrationReport.load CaptureCalibrationReport.document CalibrationReportBody.members
    CalibrationReportBody.moreMembers
  simp [onlyMembers, reportMembers, Codec.str, Codec.bool, load_count, hdigest, hsource, hreasons,
    hpooledLoad, hstrata, made_toOption_self h]

/-! ## Limits -/

section

variable [FloatText]

/-- A number of so many digits. -/
theorem within_number {n : ℕ} {k : ℕ} (hk : 0 < k) (hn : n < 10 ^ k) : Within k 1 0 0 (.int n) := by
  refine ⟨?_, le_refl 1, le_refl 0, le_refl 0⟩
  show (Nat.repr n).length ≤ k
  exact (Nat.length_repr_le_iff hk).mpr hn

/-- A count is at most a thousand. -/
theorem within_count {n : ℕ} (hn : n ≤ maxCaptureFeedbackExamples) : Within 4 1 0 0 (.int n) := by
  unfold maxCaptureFeedbackExamples at hn
  exact within_number (by omega) (by omega)

/-- A share of a million. -/
theorem within_ppm {i : ℤ} (hnonneg : 0 ≤ i) (hle : i ≤ ppm) : Within 7 1 0 0 (.int i) := by
  obtain ⟨n, rfl⟩ := Int.eq_ofNat_of_zero_le hnonneg
  unfold ppm at hle
  exact within_number (by omega) (by omega)

/-- A member with a short key. -/
theorem withinItems_short {b b' i i' d d' t t' : ℕ} {value : Json} {members : List (String × Json)}
    (key : String) (hkey : isPlain key = true ∧ key.length ≤ 40) (hvalue : Within b i d t value)
    (h : WithinItems b' i' d' t' members) :
    WithinItems (43 + b + b') (i + i') (max (d + 1) d') (40 + t + t') ((key, value) :: members) := by
  obtain ⟨hb, hi, hd, ht⟩ := WithinItems.cons key hkey.1 hvalue h
  have hlength := hkey.2
  exact ⟨by omega, hi, hd, by omega⟩

/-- The members of a table, each within bounds. -/
theorem withinItems_map {κ : Type} {b i d t l : ℕ} {name : κ → String} {value : κ → Json}
    (hname : ∀ key, isPlain (name key) = true ∧ (name key).length ≤ l)
    (hvalue : ∀ key, Within b i d t (value key)) (keys : List κ) :
    WithinItems (keys.length * (l + 3 + b)) (keys.length * i) (d + 1) (keys.length * (l + t))
      (keys.map fun key => (name key, value key)) := by
  induction keys with
  | nil =>
    refine ⟨?_, ?_, Nat.zero_le _, ?_⟩
    · exact Nat.zero_le _
    · exact Nat.zero_le _
    · exact Nat.zero_le _
  | cons key keys ih =>
    obtain ⟨hb, hi, hd, ht⟩ := WithinItems.cons (name key) (hname key).1 (hvalue key) ih
    have hlength := (hname key).2
    rw [List.length_cons, Nat.succ_mul, Nat.succ_mul, Nat.succ_mul]
    exact ⟨hb.trans (by omega), hi.trans (by omega), hd.trans (by omega), ht.trans (by omega)⟩

theorem within_interval {interval : CaptureCalibrationBootstrapInterval} (h : interval.check = .ok ()) :
    Within 400 8 1 350 interval.dump := by
  obtain ⟨hlower, hlowerLe, hupper, hupperLe, -⟩ :=
    CaptureCalibrationBootstrapInterval.check_eq_ok.mp h
  have hboundary : Within 23 1 0 21 (.str interval.boundaryStatus.value) :=
    within_str interval.boundaryStatus.value 21 (by cases interval.boundaryStatus <;> decide)
      (by cases interval.boundaryStatus <;> decide)
  have hrule : Within 33 1 0 31 (.str "nearest-rank-50-1950-of-2000/v1") :=
    within_str "nearest-rank-50-1950-of-2000/v1" 31 (by decide) (by decide)
  have hreplicates : Within 4 1 0 0 (.int 2000) := @within_number _ 2000 4 (by decide) (by decide)
  have hconfidence : Within 6 1 0 0 (.int 950000) := @within_number _ 950000 6 (by decide) (by decide)
  have hmembers := withinItems_short "bootstrap_replicates" (by decide) hreplicates <|
    withinItems_short "boundary_status" (by decide) hboundary <|
    withinItems_short "confidence_ppm" (by decide) hconfidence <|
    withinItems_short "finite_sample_safety_bound" (by decide) (within_bool false) <|
    withinItems_short "lower_ppm" (by decide) (within_ppm hlower hlowerLe) <|
    withinItems_short "percentile_rule" (by decide) hrule <|
    withinItems_short "upper_ppm" (by decide) (within_ppm hupper hupperLe) withinItems_nil
  exact (within_object (Nat.le_refl 7) hmembers).mono (by decide) (by decide) (by decide) (by decide)

theorem within_estimate {estimate : CaptureCalibrationEstimate} (h : estimate.check = .ok ()) :
    Within 800 14 2 700 estimate.dump := by
  obtain ⟨hnumerator, -, hdenominator, hvalue, hinterval, hundefined, -⟩ :=
    CaptureCalibrationEstimate.check_eq_ok.mp h
  have hstatus : Within 31 1 0 29 (.str estimate.intervalStatus.value) :=
    within_str estimate.intervalStatus.value 29 (by cases estimate.intervalStatus <;> decide)
      (by cases estimate.intervalStatus <;> decide)
  have hfound : Within 400 8 1 350
      ((estimate.interval.map CaptureCalibrationBootstrapInterval.dump).getD .null) := by
    cases hsome : estimate.interval with
    | none => exact within_null.mono (by decide) (by decide) (by decide) (by decide)
    | some interval => exact within_interval (hinterval interval hsome)
  have hreplicates : Within 4 1 0 0 (.int estimate.undefinedBootstrapReplicates) := by
    unfold captureCalibrationBootstrapReplicates at hundefined
    exact within_number (by omega) (by omega)
  have hmembers := withinItems_short "denominator" (by decide) (within_count hdenominator) <|
    withinItems_short "interval" (by decide) hfound <|
    withinItems_short "interval_status" (by decide) hstatus <|
    withinItems_short "numerator" (by decide) (within_count hnumerator) <|
    withinItems_short "undefined_bootstrap_replicates" (by decide) hreplicates <|
    withinItems_short "value_ppm" (by decide) (within_ppm (Int.natCast_nonneg _) hvalue) withinItems_nil
  exact (within_object (Nat.le_refl 6) hmembers).mono (by decide) (by decide) (by decide) (by decide)

theorem within_stratum {stratum : CaptureCalibrationStratum} (h : stratum.check = .ok ()) :
    Within 8000 150 4 7000 stratum.dump := by
  obtain ⟨hprojects, htotal, hneeded, hnotNeeded, huncertain, hcells, hestimates, -⟩ :=
    CaptureCalibrationStratum.check_eq_ok.mp h
  have hscope : Within 10 1 0 8 (.str (if stratum.pooled then "pooled" else "provider")) :=
    within_str _ 8 (by cases stratum.pooled <;> decide) (by cases stratum.pooled <;> decide)
  have hprofile : Within 22 1 0 20 (CaptureProfile.codec.dumpNullable stratum.profileId) := by
    cases stratum.profileId with
    | none => exact within_null.mono (by decide) (by decide) (by decide) (by decide)
    | some profile => exact within_profile profile
  have hcellsLength : (ConfusionCell.all.map fun cell =>
      (cell.name, Json.int (stratum.confusion cell))).length ≤ 9 := by
    rw [List.length_map]
    decide
  have hconfusion := within_object hcellsLength <| @withinItems_map _ ConfusionCell 4 1 0 0 37
    ConfusionCell.name (fun cell => .int (stratum.confusion cell))
    (fun cell => by cases cell <;> decide)
    (fun cell => within_count (hcells cell (ConfusionCell.mem_all cell))) ConfusionCell.all
  have hmetric : ∀ metric, Within 800 14 2 700
      (((stratum.metrics metric).map CaptureCalibrationEstimate.dump).getD .null) := by
    intro metric
    cases hfound : stratum.metrics metric with
    | none => exact within_null.mono (by decide) (by decide) (by decide) (by decide)
    | some estimate =>
      exact within_estimate (hestimates metric (CalibrationMetric.mem_all metric) estimate hfound)
  have hmetricsLength : (CalibrationMetric.all.map fun metric => (metric.name,
      ((stratum.metrics metric).map CaptureCalibrationEstimate.dump).getD .null)).length ≤ 7 := by
    rw [List.length_map]
    decide
  have hmetrics := within_object hmetricsLength <| @withinItems_map _ CalibrationMetric 800 14 2 700 26
    CalibrationMetric.name _ (fun metric => by cases metric <;> decide) hmetric CalibrationMetric.all
  have hmembers := withinItems_short "confusion" (by decide) hconfusion <|
    withinItems_short "memory_needed_support" (by decide) (within_count hneeded) <|
    withinItems_short "metrics" (by decide) hmetrics <|
    withinItems_short "not_memory_needed_support" (by decide) (within_count hnotNeeded) <|
    withinItems_short "profile_id" (by decide) hprofile <|
    withinItems_short "project_count" (by decide) (within_count hprojects) <|
    withinItems_short "scope" (by decide) hscope <|
    withinItems_short "total_support" (by decide) (within_count htotal) <|
    withinItems_short "uncertain_support" (by decide) (within_count huncertain) withinItems_nil
  exact (within_object (Nat.le_refl 9) hmembers).mono (by decide) (by decide) (by decide) (by decide)

/-- A report that passes its validator is well within the limits of its reader. -/
theorem within_report [Hashing] {report : CaptureCalibrationReport} (h : report.check = .ok ()) :
    Within 60000 1000 6 60000 report.document := by
  obtain ⟨hfindings, -⟩ := check_bind_eq_ok.mp h
  obtain ⟨-, hreasons, hdataset, hdevelopment, hcalibration, hfinal, hproviderCount, hsuppressed, hsupport,
    hpooled, hfour, hproviders, -⟩ := CalibrationFindings.check_eq_ok.mp hfindings
  have hblinding : Within 21 1 0 19
      (CaptureFeedbackBlindingStatus.codec.dumpNullable report.blindingStatus) := by
    cases report.blindingStatus with
    | none => exact within_null.mono (by decide) (by decide) (by decide) (by decide)
    | some blindingStatus => exact within_blindingStatus blindingStatus
  have hattestation : Within 66 1 0 64
      (Sha256Digest.codec.dumpNullable report.studyAttestationDigest) := by
    cases report.studyAttestationDigest with
    | none => exact within_null.mono (by decide) (by decide) (by decide) (by decide)
    | some digest => exact within_digest digest
  have hcommitment : Within 66 1 0 64 (.str captureCalibrationBootstrapSeedCommitment) :=
    within_str captureCalibrationBootstrapSeedCommitment 64 (by decide) (by decide)
  have hstratification : Within 18 1 0 16 (.str "provider_project") :=
    within_str "provider_project" 16 (by decide) (by decide)
  have hstatus : Within 34 1 0 32 (.str "insufficient_real_world_evidence") :=
    within_str "insufficient_real_world_evidence" 32 (by decide) (by decide)
  have hschema : Within 31 1 0 29 (.str "capture-calibration-report/v1") :=
    within_str "capture-calibration-report/v1" 29 (by decide) (by decide)
  have hreasonList := @within_list _ 62 1 0 60 11
    (report.insufficiencyReasons.map fun reason => .str reason.value)
    (by rw [List.length_map]; exact hreasons) (by
      intro value hvalue
      obtain ⟨reason, -, rfl⟩ := List.mem_map.mp hvalue
      exact within_str reason.value 60 (by cases reason <;> decide) (by cases reason <;> decide))
  have hstrata := @within_list _ 8000 150 4 7000 4
    (report.providers.map CaptureCalibrationStratum.dump) (by rw [List.length_map]; exact hfour) (by
      intro value hvalue
      obtain ⟨stratum, hstratum, rfl⟩ := List.mem_map.mp hvalue
      exact within_stratum (hproviders stratum hstratum))
  have hfew : ∀ {n : ℕ}, n ≤ 4 → Within 4 1 0 0 (.int n) := by
    intro n hn
    exact within_number (by omega) (by omega)
  have hmembers := withinItems_short "blinding_status" (by decide) hblinding <|
    withinItems_short "bootstrap_seed_commitment" (by decide) hcommitment <|
    withinItems_short "bootstrap_stratification" (by decide) hstratification <|
    withinItems_short "calibrated" (by decide) (within_bool false) <|
    withinItems_short "calibration_eligible" (by decide) (within_bool false) <|
    withinItems_short "calibration_support" (by decide) (within_count hcalibration) <|
    withinItems_short "classification_evaluation" (by decide) (within_bool true) <|
    withinItems_short "confirmatory" (by decide) (within_bool false) <|
    withinItems_short "dataset_authentication_verified" (by decide) (within_bool true) <|
    withinItems_short "dataset_digest" (by decide) (within_digest report.datasetDigest) <|
    withinItems_short "dataset_support" (by decide) (within_count hdataset) <|
    withinItems_short "decision_authority" (by decide) (within_bool false) <|
    withinItems_short "development_support" (by decide) (within_count hdevelopment) <|
    withinItems_short "evidence_source" (by decide) (within_evidenceSource report.evidenceSource) <|
    withinItems_short "evidence_status" (by decide) hstatus <|
    withinItems_short "final_test_support" (by decide) (within_count hfinal) <|
    withinItems_short "insufficiency_reasons" (by decide) hreasonList <|
    withinItems_short "pooled" (by decide) (within_stratum hpooled) <|
    withinItems_short "project_identifiers_disclosed" (by decide) (within_bool false) <|
    withinItems_short "provider_count" (by decide) (hfew hproviderCount) <|
    withinItems_short "providers" (by decide) hstrata <|
    withinItems_short "raw_content_used" (by decide) (within_bool false) <|
    withinItems_short "report_digest" (by decide) (within_digest report.reportDigest) <|
    withinItems_short "report_tag" (by decide) (within_digest report.reportTag) <|
    withinItems_short "schema_version" (by decide) hschema <|
    withinItems_short "study_attestation_digest" (by decide) hattestation <|
    withinItems_short "suppressed_provider_count" (by decide) (hfew hsuppressed) <|
    withinItems_short "suppressed_provider_support" (by decide) (within_count hsupport) withinItems_nil
  exact (within_object (Nat.le_refl 28) hmembers).mono (by decide) (by decide) (by decide) (by decide)

end

/-! ## Well-formed documents -/

theorem canonical_table {κ : Type} {keys : List κ} {name : κ → String} {value : κ → Json}
    (hsorted : (keys.map name).Pairwise fun a b => keyLt a.toList b.toList = true)
    (hvalue : ∀ key, (value key).canonical = true) :
    (Json.object (keys.map fun key => (name key, value key))).canonical = true := by
  rw [canonical_object]
  induction keys with
  | nil => rfl
  | cons key keys ih =>
    obtain ⟨hfirst, hrest⟩ := List.pairwise_cons.mp hsorted
    rw [List.map_cons, canonicalItems_cons]
    refine ⟨hvalue key, ?_, ih hrest⟩
    intro item hitem
    obtain ⟨other, hother, rfl⟩ := List.mem_map.mp hitem
    exact hfirst (name other) (List.mem_map_of_mem hother)

theorem canonical_list {values : List Json} (h : ∀ value ∈ values, value.canonical = true) :
    (Json.list values).canonical = true := by
  show canonical.canonicalList values = true
  induction values with
  | nil => rfl
  | cons value values ih =>
    obtain ⟨hone, hrest⟩ := List.forall_mem_cons.mp h
    unfold canonical.canonicalList
    rw [hone, ih hrest]
    rfl

theorem canonical_interval (interval : CaptureCalibrationBootstrapInterval) :
    interval.dump.canonical = true := by
  unfold CaptureCalibrationBootstrapInterval.dump
  simp

theorem canonical_estimate (estimate : CaptureCalibrationEstimate) : estimate.dump.canonical = true := by
  have hinterval : ((estimate.interval.map CaptureCalibrationBootstrapInterval.dump).getD .null).canonical
      = true := by
    cases estimate.interval with
    | none => rfl
    | some interval => exact canonical_interval interval
  unfold CaptureCalibrationEstimate.dump
  simp [hinterval]

theorem canonical_stratum (stratum : CaptureCalibrationStratum) : stratum.dump.canonical = true := by
  have hconfusion := @canonical_table ConfusionCell ConfusionCell.all ConfusionCell.name
    (fun cell => .int (stratum.confusion cell)) (by decide) fun _ => rfl
  have hmetrics := @canonical_table CalibrationMetric CalibrationMetric.all CalibrationMetric.name
    (fun metric => ((stratum.metrics metric).map CaptureCalibrationEstimate.dump).getD .null)
    (by decide) (by
      intro metric
      cases stratum.metrics metric with
      | none => rfl
      | some estimate => exact canonical_estimate estimate)
  rw [canonical_object] at hconfusion hmetrics
  unfold CaptureCalibrationStratum.dump
  simp [hconfusion, hmetrics]

theorem canonical_report (report : CaptureCalibrationReport) : report.document.canonical = true := by
  have hreasons : (Json.list (report.insufficiencyReasons.map fun reason => .str reason.value)).canonical
      = true := by
    refine canonical_list fun value hvalue => ?_
    obtain ⟨reason, -, rfl⟩ := List.mem_map.mp hvalue
    rfl
  have hproviders : (Json.list (report.providers.map CaptureCalibrationStratum.dump)).canonical = true := by
    refine canonical_list fun value hvalue => ?_
    obtain ⟨stratum, -, rfl⟩ := List.mem_map.mp hvalue
    exact canonical_stratum stratum
  unfold CaptureCalibrationReport.document CalibrationReportBody.members
    CalibrationReportBody.moreMembers
  simp [hreasons, hproviders, canonical_stratum]

/-! ## Encoding -/

instance CaptureCalibrationStratum.decidableEq : DecidableEq CaptureCalibrationStratum := fun a b =>
  decidable_of_iff (a.pooled = b.pooled ∧ a.profileId = b.profileId ∧ a.projectCount = b.projectCount
    ∧ a.totalSupport = b.totalSupport ∧ a.memoryNeededSupport = b.memoryNeededSupport
    ∧ a.notMemoryNeededSupport = b.notMemoryNeededSupport ∧ a.uncertainSupport = b.uncertainSupport
    ∧ (∀ cell ∈ ConfusionCell.all, a.confusion cell = b.confusion cell)
    ∧ ∀ metric ∈ CalibrationMetric.all, a.metrics metric = b.metrics metric) (by
  constructor
  · rintro ⟨h1, h2, h3, h4, h5, h6, h7, hconfusion, hmetrics⟩
    cases a
    cases b
    cases h1; cases h2; cases h3; cases h4; cases h5; cases h6; cases h7
    congr 1
    · exact funext fun cell => hconfusion cell (ConfusionCell.mem_all cell)
    · exact funext fun metric => hmetrics metric (CalibrationMetric.mem_all metric)
  · rintro rfl
    exact ⟨rfl, rfl, rfl, rfl, rfl, rfl, rfl, fun _ _ => rfl, fun _ _ => rfl⟩)

deriving instance DecidableEq for CalibrationFindings
deriving instance DecidableEq for CalibrationReportBody
deriving instance DecidableEq for CaptureCalibrationReport

section

variable [FeedbackHashing] [FloatText]

/-- `_decode_calibration_report`, of the document that bytes are the canonical text of. -/
def decodeCalibrationReport (document : Json) : Option CaptureCalibrationReport := do
  guard (readBoundedJson document feedbackJsonLimits)
  CaptureCalibrationReport.load document

/-- `encode_capture_calibration_report`. -/
def encodeCaptureCalibrationReport (report : CaptureCalibrationReport) :
    Except CaptureFeedbackError Json := do
  let candidate := report.document
  raiseIf (decodeCalibrationReport candidate ≠ some report) .invalid
  pure candidate

/-- `_verified_calibration_report`. -/
def verifiedCalibrationReport (report : CaptureCalibrationReport) :
    Except CaptureFeedbackError CaptureCalibrationReport := do
  let expected := FeedbackHashing.hmacSha256 "saliencegate:capture:calibration-report-tag:v1"
    (calibrationReportTagMaterial report.toCalibrationReportBody report.reportDigest)
  raiseIf (report.reportTag ≠ expected) .invalid
  pure report

/-- `decode_capture_calibration_report`. -/
def decodeCaptureCalibrationReport (document : Json) :
    Except CaptureFeedbackError CaptureCalibrationReport := do
  verifiedCalibrationReport (← expect (decodeCalibrationReport document) .invalid)

theorem readBoundedJson_report {report : CaptureCalibrationReport} (h : report.check = .ok ()) :
    readBoundedJson report.document feedbackJsonLimits = true := by
  obtain ⟨hbytes, hitems, hdepth, hstrings⟩ := within_report h
  unfold readBoundedJson boundedJson
  rw [canonical_report]
  simp only [Bool.and_eq_true, decide_eq_true_eq]
  exact ⟨⟨⟨trivial, hbytes.trans (by decide)⟩, rfl⟩,
    ⟨hitems.trans (by decide), hdepth.trans (by decide)⟩, hstrings.trans (by decide)⟩

/-- A report that passes its validator and has the tag of the installation is encoded, and read back. -/
theorem decode_encode_report {report : CaptureCalibrationReport} (h : report.check = .ok ())
    (hverified : verifiedCalibrationReport report = .ok report) :
    (encodeCaptureCalibrationReport report >>= decodeCaptureCalibrationReport) = .ok report := by
  have hdecoded : decodeCalibrationReport report.document = some report := by
    unfold decodeCalibrationReport
    rw [readBoundedJson_report h, load_document_report h]
    rfl
  unfold encodeCaptureCalibrationReport
  dsimp only
  rw [hdecoded, raiseIf_bind_of_not (not_not.mpr rfl)]
  show decodeCaptureCalibrationReport report.document = _
  unfold decodeCaptureCalibrationReport
  rw [hdecoded]
  exact hverified

/-- What is evaluated passes its validator and has the tag of the installation. -/
theorem evaluated_verified {dataset : CaptureFeedbackDataset} {report : CaptureCalibrationReport}
    (h : evaluateCaptureFeedbackDataset dataset = .ok report) :
    report.check = .ok () ∧ verifiedCalibrationReport report = .ok report := by
  unfold evaluateCaptureFeedbackDataset at h
  obtain ⟨document, -, h⟩ := bind_eq_ok.mp h
  obtain ⟨checked, -, h⟩ := bind_eq_ok.mp h
  obtain ⟨findings, -, h⟩ := bind_eq_ok.mp h
  obtain ⟨rfl, hcheck⟩ := check_of_made h
  exact ⟨hcheck, raiseIf_bind_of_not (not_not.mpr rfl)⟩

omit [FloatText] in
theorem verifiedDataset_self {dataset other : CaptureFeedbackDataset}
    (h : verifiedDataset other = .ok dataset) : dataset = other := by
  unfold verifiedDataset at h
  obtain ⟨-, h⟩ := raiseIf_bind_eq_ok.mp h
  exact (pure_eq_ok.mp h).symm

/-- Every data set that decodes and has the tag of the installation is evaluated, if one of the attempts at
each draw of its bootstrap is accepted. Its report passes its validators, and is read back from its own
document. -/
theorem evaluate_report_contract (document : Json) (dataset : CaptureFeedbackDataset)
    (hdecode : decodeCaptureFeedbackDataset document = .ok dataset)
    (hdraws : captureE01MinFinalTestSessions ≤ (inPartition .finalTest dataset.examples).length →
      Draws (inPartition .finalTest dataset.examples)) :
    ∃ report, evaluateCaptureFeedbackDataset dataset = .ok report ∧ report.check = .ok ()
      ∧ (encodeCaptureCalibrationReport report >>= decodeCaptureCalibrationReport) = .ok report := by
  have hverified : verifiedDataset dataset = .ok dataset := by
    unfold decodeCaptureFeedbackDataset at hdecode
    obtain ⟨other, -, hverified⟩ := bind_eq_ok.mp hdecode
    obtain rfl := verifiedDataset_self hverified
    exact hverified
  obtain ⟨hlength, -, hassigned, hattestation, -⟩ :=
    CaptureFeedbackDatasetFields.check_eq_ok.mp dataset.valid
  obtain ⟨findings, hfindings, hcheck⟩ := findingsOf_checked hlength hassigned hattestation hdraws
  have hevaluated := evaluate_eq hverified
  rw [hfindings] at hevaluated
  have hmade : (evaluateCaptureFeedbackDataset dataset).map (fun report => report.toCalibrationFindings)
      = .ok findings := hevaluated.trans (made_eq_ok hcheck)
  obtain ⟨report, hreport, -⟩ := exists_of_map_eq_ok hmade
  obtain ⟨hvalid, htag⟩ := evaluated_verified hreport
  exact ⟨report, hreport, hvalid, decode_encode_report hvalid htag⟩

end

local instance sessionsHashing : FeedbackHashing := plainHashing

local instance sessionsFloats : FloatText := plainFloats

/-- The data set of the two sessions. -/
def twoSessions : CaptureFeedbackDatasetFields :=
  (bodyOf twoRecords (List.replicate 32 1) .synthetic none).sealed

theorem evaluate_report_contract_twoSessions :
    ∃ dataset : CaptureFeedbackDataset, dataset.toCaptureFeedbackDatasetFields = twoSessions
      ∧ ∃ report, evaluateCaptureFeedbackDataset dataset = .ok report
        ∧ (encodeCaptureCalibrationReport report >>= decodeCaptureCalibrationReport) = .ok report := by
  have hsessions : (twoRecords.map CaptureFeedbackExportRecord.sessionId).Nodup := by
    have hne : numbered 1 ≠ numbered 2 := fun h =>
      absurd (numbered_inj (by decide) (by decide) h) (by decide)
    simpa [twoRecords, recordOf] using hne
  have hassigned : ∀ record ∈ twoRecords, record.partition ≠ .unassigned := by
    intro record hrecord
    rcases List.mem_pair.mp hrecord with rfl | rfl <;> exact (fun h => by cases h)
  have hids := (tellsApart_plain twoRecords (List.replicate 32 1)).nodup_ids (.refl _) hsessions
  have hvalid : twoSessions.check = .ok () :=
    check_sealed.mpr ⟨by decide, hids, hassigned, by decide⟩
  let dataset : CaptureFeedbackDataset := ⟨twoSessions, hvalid⟩
  have hdecode : decodeCaptureFeedbackDataset dataset.document = .ok dataset := by
    unfold decodeCaptureFeedbackDataset
    rw [decodeDataset_document]
    have hsealed : dataset.toCaptureFeedbackDatasetFields
        = (bodyOf twoRecords (List.replicate 32 1) .synthetic none).sealed := rfl
    exact verifiedDataset_of_sealed hsealed
  have hfew : ¬captureE01MinFinalTestSessions ≤ (inPartition .finalTest dataset.examples).length := by
    have hle : (inPartition .finalTest dataset.examples).length ≤ dataset.examples.length :=
      List.length_filter_le _ _
    have htwo : dataset.examples.length = 2 := perm_bodyOf.length_eq
    unfold captureE01MinFinalTestSessions
    omega
  obtain ⟨report, hreport, -, hround⟩ :=
    evaluate_report_contract dataset.document dataset hdecode fun henough => absurd henough hfew
  exact ⟨dataset, rfl, report, hreport, hround⟩

end Calibration

end SalienceGate
