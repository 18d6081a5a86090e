import SalienceGate.Capture.Pseudonyms
import Mathlib.Tactic.Linarith
import Mathlib.Tactic.Ring

/-!
# Estimates are made

The validators of intervals, estimates and strata take what is computed from up to a thousand sessions:
the interval of sorted shares, rounded down and up, is in order, and the counts of the cells add up to the
supports.
-/

namespace SalienceGate.Calibration

open Checked Grouping

/-! ## Intervals -/

/-- A share: a number from zero to one. -/
def IsShare (value : ℚ) : Prop := 0 ≤ value ∧ value ≤ 1

theorem made_eq_ok {α : Type} {check : α → Check} {value : α} (h : check value = .ok ()) : made check value = .ok value := by
  unfold made
  rw [h]

theorem check_of_made {α : Type} {check : α → Check} {value value' : α} (h : made check value = .ok value') :
    value' = value ∧ check value' = .ok () := by
  unfold made at h
  split at h
  next hcheck =>
    cases h
    exact ⟨rfl, hcheck⟩
  next => cases h

theorem num_bounds {value : ℚ} (h : IsShare value) : 0 ≤ value.num ∧ value.num ≤ value.den := by
  refine ⟨Rat.num_nonneg.mpr h.1, ?_⟩
  have hle := (Rat.le_iff value 1).mp h.2
  simpa using hle

theorem lower_nonneg {a : ℚ} (ha : IsShare a) : 0 ≤ fractionPpm a := by
  have hpos : (0 : ℤ) < a.den := by exact_mod_cast a.den_pos
  exact Int.ediv_nonneg (mul_nonneg (num_bounds ha).1 (by decide)) hpos.le

theorem lower_le {a : ℚ} (ha : IsShare a) : fractionPpm a ≤ ppm := by
  have hpos : (0 : ℤ) < a.den := by exact_mod_cast a.den_pos
  have hnum : a.num * ppm ≤ a.den * ppm := mul_le_mul_of_nonneg_right (num_bounds ha).2 (by decide)
  unfold fractionPpm
  apply Int.ediv_le_of_le_mul hpos
  linarith

theorem upper_nonneg {b : ℚ} (hb : IsShare b) : 0 ≤ (b.num * ppm + b.den - 1) / b.den := by
  have hpos : (0 : ℤ) < b.den := by exact_mod_cast b.den_pos
  have hnum : 0 ≤ b.num * ppm := mul_nonneg (num_bounds hb).1 (by decide)
  apply Int.ediv_nonneg _ hpos.le
  omega

theorem upper_le {b : ℚ} (hb : IsShare b) : (b.num * ppm + b.den - 1) / b.den ≤ ppm := by
  have hpos : (0 : ℤ) < b.den := by exact_mod_cast b.den_pos
  have hnum : b.num * ppm ≤ b.den * ppm := mul_le_mul_of_nonneg_right (num_bounds hb).2 (by decide)
  have hlt : (b.num * ppm + b.den - 1) / b.den < ppm + 1 := by
    apply Int.ediv_lt_of_lt_mul hpos
    linarith
  omega

/-- Rounding the smaller share down and the larger one up keeps them in order. -/
theorem lower_le_upper {a b : ℚ} (hab : a ≤ b) : fractionPpm a ≤ (b.num * ppm + b.den - 1) / b.den := by
  have hapos : (0 : ℤ) < a.den := by exact_mod_cast a.den_pos
  have hbpos : (0 : ℤ) < b.den := by exact_mod_cast b.den_pos
  have hcross : a.num * b.den ≤ b.num * a.den := (Rat.le_iff a b).mp hab
  have hfloor : fractionPpm a * a.den ≤ a.num * ppm := Int.ediv_mul_le _ hapos.ne'
  have hscaled : fractionPpm a * b.den * a.den ≤ b.num * ppm * a.den :=
    calc
      fractionPpm a * b.den * a.den = fractionPpm a * a.den * b.den := by ring
      _ ≤ a.num * ppm * b.den := mul_le_mul_of_nonneg_right hfloor hbpos.le
      _ = a.num * b.den * ppm := by ring
      _ ≤ b.num * a.den * ppm := mul_le_mul_of_nonneg_right hcross (by decide)
      _ = b.num * ppm * a.den := by ring
  have hle : fractionPpm a * b.den ≤ b.num * ppm := le_of_mul_le_mul_right hscaled hapos
  apply Int.le_ediv_of_mul_le hbpos
  omega

theorem CaptureCalibrationBootstrapInterval.check_eq_ok {interval : CaptureCalibrationBootstrapInterval} :
    interval.check = .ok () ↔ 0 ≤ interval.lowerPpm ∧ interval.lowerPpm ≤ ppm ∧ 0 ≤ interval.upperPpm
      ∧ interval.upperPpm ≤ ppm ∧ interval.lowerPpm ≤ interval.upperPpm
      ∧ (interval.boundaryStatus = .degenerateZeroWidth ↔ interval.lowerPpm = interval.upperPpm) := by
  unfold CaptureCalibrationBootstrapInterval.check
  simp only [constrain_bind_eq_ok, refuse_bind_eq_ok, refuse_eq_ok, ne_eq, not_not, not_lt, eq_iff_iff]

/-- The values of a metric that has one in each replicate have an interval. -/
theorem interval_eq_some {values : List ℚ} (hvalues : ∀ value ∈ values, IsShare value)
    (hlength : values.length = captureCalibrationBootstrapReplicates) :
    ∃ found, interval values 0 = .ok (some found) ∧ found.check = .ok () := by
  have hlower : bootstrapLowerRank - 1 < (sortBy id values).length := by
    rw [length_sortBy, hlength]
    decide
  have hupper : bootstrapUpperRank - 1 < (sortBy id values).length := by
    rw [length_sortBy, hlength]
    decide
  have hshare : ∀ i (hi : i < (sortBy id values).length), IsShare (sortBy id values)[i] := fun i hi =>
    hvalues _ (mem_sortBy.mp (List.getElem_mem hi))
  have hordered : (sortBy id values)[bootstrapLowerRank - 1] ≤ (sortBy id values)[bootstrapUpperRank - 1] :=
    List.pairwise_iff_getElem.mp (pairwise_sortBy id values) _ _ hlower hupper (by decide)
  generalize ha : (sortBy id values)[bootstrapLowerRank - 1] = a at hordered
  generalize hb : (sortBy id values)[bootstrapUpperRank - 1] = b at hordered
  have hashare : IsShare a := ha ▸ hshare _ hlower
  have hbshare : IsShare b := hb ▸ hshare _ hupper
  have hcheck : CaptureCalibrationBootstrapInterval.check
      ⟨fractionPpm a, (b.num * ppm + b.den - 1) / b.den,
        if fractionPpm a = (b.num * ppm + b.den - 1) / b.den then .degenerateZeroWidth else .interior⟩ = .ok () := by
    rw [CaptureCalibrationBootstrapInterval.check_eq_ok]
    refine ⟨lower_nonneg hashare, lower_le hashare, upper_nonneg hbshare, upper_le hbshare,
      lower_le_upper hordered, ?_⟩
    dsimp only
    split
    next heq => exact iff_of_true rfl heq
    next hne => exact iff_of_false nofun hne
  refine ⟨_, ?_, hcheck⟩
  unfold interval
  rw [if_neg (by rw [hlength]; decide)]
  dsimp only
  rw [List.getElem?_eq_getElem hlower, List.getElem?_eq_getElem hupper, ha, hb]
  show some <$> made _ _ = _
  rw [made_eq_ok hcheck]
  rfl

/-! ## Estimates -/

theorem CaptureCalibrationEstimate.check_eq_ok {estimate : CaptureCalibrationEstimate} :
    estimate.check = .ok () ↔ estimate.numerator ≤ maxCaptureFeedbackExamples ∧ 1 ≤ estimate.denominator
      ∧ estimate.denominator ≤ maxCaptureFeedbackExamples ∧ estimate.valuePpm ≤ ppm
      ∧ (∀ interval ∈ estimate.interval, interval.check = .ok ())
      ∧ estimate.undefinedBootstrapReplicates ≤ captureCalibrationBootstrapReplicates
      ∧ estimate.numerator ≤ estimate.denominator
      ∧ estimate.valuePpm = estimate.numerator * 1000000 / estimate.denominator
      ∧ estimate.statusValid = true
      ∧ (estimate.denominator < captureCalibrationMinIntervalDenominator →
        estimate.intervalStatus = .insufficientSupport) := by
  have hforM : estimate.interval.forM CaptureCalibrationBootstrapInterval.check = .ok ()
      ↔ ∀ interval ∈ estimate.interval, interval.check = .ok () := by
    cases estimate.interval with
    | none => exact iff_of_true rfl nofun
    | some interval => exact ⟨fun h _ hmem => Option.some.inj hmem ▸ h, fun h => h interval rfl⟩
  unfold CaptureCalibrationEstimate.check
  simp only [constrain_eq_ok, refuse_eq_ok, check_bind_eq_ok, hforM, not_or, not_not, not_lt,
    ne_eq, Bool.not_eq_false, not_and, and_assoc]

/-- The terms of a metric are counts of sessions, the numerator among the denominator. -/
theorem metricTerms_le (n : ConfusionCell → ℕ) (metric : CalibrationMetric) :
    (metricTerms n metric).1 ≤ (metricTerms n metric).2 ∧ (metricTerms n metric).2 ≤ total n := by
  unfold metricTerms
  cases metric <;> dsimp only [total, positive, negative, uncertain] <;> omega

theorem metricParts_eq_some {n : ConfusionCell → ℕ} {metric : CalibrationMetric} {numerator denominator : ℕ}
    (h : metricParts n metric = some (numerator, denominator)) :
    1 ≤ denominator ∧ numerator ≤ denominator ∧ denominator ≤ total n := by
  unfold metricParts at h
  split at h
  · cases h
  next hzero =>
    have hterms := Option.some.inj h
    have hle := metricTerms_le n metric
    rw [hterms] at hle hzero
    dsimp only at hle hzero
    omega

/-- An estimate is as the counts have it, and lacks support as the evaluation says. -/
structure Fits (n : ConfusionCell → ℕ) (metric : CalibrationMetric) (bootstrapEnabled : Bool)
    (found : Option CaptureCalibrationEstimate) : Prop where
  parts : (found.map fun estimate => (estimate.numerator, estimate.denominator)) = metricParts n metric
  checked : ∀ estimate ∈ found, estimate.check = .ok ()
  status : ∀ estimate ∈ found, estimate.intervalStatus = .insufficientSupport
    ↔ bootstrapEnabled = false ∨ estimate.denominator < captureCalibrationMinIntervalDenominator

/-- What so many replicates found for a metric. -/
structure Tabulated (replicates : ℕ) (values : List ℚ) (undefined : ℕ) : Prop where
  shares : ∀ value ∈ values, IsShare value
  found : values.length + undefined = replicates

theorem valuePpm_le {numerator denominator : ℕ} (hle : numerator ≤ denominator) :
    ((numerator * 1000000 / denominator : ℕ) : ℤ) ≤ ppm := by
  have hnat : numerator * 1000000 / denominator ≤ 1000000 := by
    apply Nat.div_le_of_le_mul
    exact Nat.mul_le_mul_right _ hle
  unfold ppm
  exact_mod_cast hnat

theorem estimate_fits {n : ConfusionCell → ℕ} (metric : CalibrationMetric) {values : List ℚ} {undefined : ℕ}
    {bootstrapEnabled : Bool} (hn : total n ≤ maxCaptureFeedbackExamples)
    (htable : bootstrapEnabled = true → Tabulated captureCalibrationBootstrapReplicates values undefined) :
    ∃ found, estimate n metric values undefined bootstrapEnabled = .ok found ∧ Fits n metric bootstrapEnabled found := by
  unfold estimate
  cases hparts : metricParts n metric with
  | none => exact ⟨none, rfl, hparts.symm, nofun, nofun⟩
  | some parts =>
    obtain ⟨numerator, denominator⟩ := parts
    obtain ⟨hpos, hle, htotal⟩ := metricParts_eq_some hparts
    have hsize : denominator ≤ maxCaptureFeedbackExamples := Nat.le_trans htotal hn
    -- an estimate with these numbers is made when its interval goes with its status
    have hmade : ∀ (found : Option CaptureCalibrationBootstrapInterval) (status : CaptureCalibrationIntervalStatus)
        (count : ℕ), (∀ interval ∈ found, interval.check = .ok ()) → count ≤ captureCalibrationBootstrapReplicates →
        CaptureCalibrationEstimate.statusValid
          ⟨numerator, denominator, numerator * 1000000 / denominator, found, status, count⟩ = true →
        (status = .insufficientSupport ↔ bootstrapEnabled = false
          ∨ denominator < captureCalibrationMinIntervalDenominator) →
        ∃ result, some <$> made CaptureCalibrationEstimate.check
            ⟨numerator, denominator, numerator * 1000000 / denominator, found, status, count⟩ = .ok result
          ∧ Fits n metric bootstrapEnabled result := by
      intro found status count hfound hcount hstatus hsupport
      have hcheck := CaptureCalibrationEstimate.check_eq_ok.mpr ⟨Nat.le_trans hle hsize, hpos, hsize,
        valuePpm_le hle, hfound, hcount, hle, rfl, hstatus, fun hlt => hsupport.mpr (.inr hlt)⟩
      rw [made_eq_ok hcheck]
      refine ⟨some ⟨numerator, denominator, _, found, status, count⟩, rfl, hparts.symm, ?_, ?_⟩
      · intro estimate hestimate
        cases hestimate
        exact hcheck
      · intro estimate hestimate
        cases hestimate
        exact hsupport
    dsimp only
    cases hsupported : bootstrapEnabled && decide (captureCalibrationMinIntervalDenominator ≤ denominator) with
    | false =>
      refine hmade none .insufficientSupport 0 nofun (Nat.zero_le _) rfl (iff_of_true rfl ?_)
      rw [Bool.and_eq_false_iff, decide_eq_false_iff_not, not_le] at hsupported
      exact hsupported
    | true =>
      rw [Bool.and_eq_true, decide_eq_true_iff] at hsupported
      obtain ⟨henabled, hdenominator⟩ := hsupported
      have hcount := htable henabled
      have hnot : ¬(bootstrapEnabled = false ∨ denominator < captureCalibrationMinIntervalDenominator) := by
        rw [henabled, not_or, not_lt]
        exact ⟨nofun, hdenominator⟩
      by_cases hundefined : undefined = 0
      · subst hundefined
        obtain ⟨interval, hinterval, hcheck⟩ := interval_eq_some hcount.shares hcount.found
        rw [if_pos rfl, hinterval]
        refine hmade (some interval) .estimated 0 ?_ (Nat.zero_le _) rfl (iff_of_false nofun hnot)
        intro other hother
        cases hother
        exact hcheck
      · have hnone : interval values undefined = .ok none := by
          unfold interval
          rw [if_pos (.inl hundefined)]
          rfl
        have hbound := hcount.found
        rw [if_pos rfl, hnone]
        refine hmade none (if undefined ≠ 0 then .undefinedBootstrapReplicate else .estimated) undefined nofun
          (by omega) ?_ (iff_of_false ?_ hnot)
        · rw [if_pos hundefined]
          exact decide_eq_true (Nat.pos_of_ne_zero hundefined)
        · rw [if_pos hundefined]
          exact nofun

/-! ## Strata -/

theorem CaptureCalibrationStratum.check_eq_ok {stratum : CaptureCalibrationStratum} :
    stratum.check = .ok () ↔ stratum.projectCount ≤ maxCaptureFeedbackExamples
      ∧ stratum.totalSupport ≤ maxCaptureFeedbackExamples
      ∧ stratum.memoryNeededSupport ≤ maxCaptureFeedbackExamples
      ∧ stratum.notMemoryNeededSupport ≤ maxCaptureFeedbackExamples
      ∧ stratum.uncertainSupport ≤ maxCaptureFeedbackExamples
      ∧ (∀ cell ∈ ConfusionCell.all, stratum.confusion cell ≤ maxCaptureFeedbackExamples)
      ∧ (∀ metric ∈ CalibrationMetric.all, ∀ estimate ∈ stratum.metrics metric, estimate.check = .ok ())
      ∧ (stratum.pooled = true ↔ stratum.profileId = none)
      ∧ positive stratum.confusion = stratum.memoryNeededSupport
      ∧ negative stratum.confusion = stratum.notMemoryNeededSupport
      ∧ uncertain stratum.confusion = stratum.uncertainSupport
      ∧ stratum.totalSupport = total stratum.confusion
      ∧ stratum.projectCount ≤ stratum.totalSupport
      ∧ CalibrationMetric.all.all stratum.metricExact = true := by
  have hforM : ∀ metric, (stratum.metrics metric).forM CaptureCalibrationEstimate.check = .ok ()
      ↔ ∀ estimate ∈ stratum.metrics metric, estimate.check = .ok () := by
    intro metric
    cases stratum.metrics metric with
    | none => exact iff_of_true rfl nofun
    | some estimate => exact ⟨fun h _ hmem => Option.some.inj hmem ▸ h, fun h => h estimate rfl⟩
  have hcells : (ConfusionCell.all.forM fun cell =>
        constrain (stratum.confusion cell ≤ maxCaptureFeedbackExamples) cell.name "less_than_equal") = .ok ()
      ↔ ∀ cell ∈ ConfusionCell.all, stratum.confusion cell ≤ maxCaptureFeedbackExamples := by
    refine forM_eq_ok.trans (forall₂_congr fun cell _ => ?_)
    rw [constrain_eq_ok]
  have hmetrics : (CalibrationMetric.all.forM fun metric =>
        (stratum.metrics metric).forM CaptureCalibrationEstimate.check) = .ok ()
      ↔ ∀ metric ∈ CalibrationMetric.all, ∀ estimate ∈ stratum.metrics metric, estimate.check = .ok () :=
    forM_eq_ok.trans (forall₂_congr fun metric _ => hforM metric)
  unfold CaptureCalibrationStratum.check
  simp only [constrain_eq_ok, refuse_eq_ok, check_bind_eq_ok, hcells, hmetrics, not_or, not_not, not_lt, ne_eq,
    Bool.not_eq_false, eq_iff_iff]

/-- A stratum as it is built of examples. -/
structure Stratified (examples : List CaptureFeedbackDatasetExample) (profileId : Option CaptureProfile)
    (bootstrapEnabled : Bool) (stratum : CaptureCalibrationStratum) : Prop where
  pooled : stratum.pooled = profileId.isNone
  profileId : stratum.profileId = profileId
  totalSupport : stratum.totalSupport = examples.length
  memoryNeeded : stratum.memoryNeededSupport = positive (counts examples)
  notMemoryNeeded : stratum.notMemoryNeededSupport = negative (counts examples)
  uncertain : stratum.uncertainSupport = uncertain (counts examples)
  confusion : stratum.confusion = counts examples
  fits : ∀ metric, Fits (counts examples) metric bootstrapEnabled (stratum.metrics metric)
  checked : stratum.check = .ok ()

theorem Fits.metricExact {n : ConfusionCell → ℕ} {metric : CalibrationMetric} {bootstrapEnabled : Bool}
    {stratum : CaptureCalibrationStratum} (hn : stratum.confusion = n)
    (h : Fits n metric bootstrapEnabled (stratum.metrics metric)) : stratum.metricExact metric = true := by
  have hparts := h.parts
  unfold CaptureCalibrationStratum.metricExact
  rw [hn]
  cases hfound : stratum.metrics metric with
  | none =>
    rw [hfound] at hparts
    rw [← hparts]
    rfl
  | some estimate =>
    rw [hfound] at hparts
    rw [← hparts]
    exact decide_eq_true rfl

theorem estimates_fit {n : ConfusionCell → ℕ} {values : CalibrationMetric → List ℚ}
    {undefined : CalibrationMetric → ℕ} {bootstrapEnabled : Bool} (hn : total n ≤ maxCaptureFeedbackExamples)
    (htables : bootstrapEnabled = true → ∀ metric,
      Tabulated captureCalibrationBootstrapReplicates (values metric) (undefined metric)) :
    ∃ metrics, estimates n values undefined bootstrapEnabled = .ok metrics
      ∧ ∀ metric, Fits n metric bootstrapEnabled (metrics metric) := by
  choose found hfound hfits using fun metric =>
    estimate_fits metric hn fun h => htables h metric
  have hloop : (CalibrationMetric.all.mapM fun metric => do
      pure (metric, ← estimate n metric (values metric) (undefined metric) bootstrapEnabled))
        = .ok (CalibrationMetric.all.map fun metric => (metric, found metric)) := by
    rw [mapM_eq_ok, List.forall₂_map_right_iff, List.forall₂_same]
    intro metric _
    rw [hfound]
    rfl
  refine ⟨found, ?_, hfits⟩
  unfold estimates
  rw [hloop]
  refine congrArg Except.ok (funext fun metric => ?_)
  cases metric <;> rfl

/-- The stratum of up to a thousand examples is built. -/
theorem buildStratum_stratified {examples : List CaptureFeedbackDatasetExample} {profileId : Option CaptureProfile}
    {tables : BootstrapTables} {bootstrapEnabled : Bool} (hlength : examples.length ≤ maxCaptureFeedbackExamples)
    (htables : bootstrapEnabled = true → ∀ metric, Tabulated captureCalibrationBootstrapReplicates
      (tables.values profileId metric) (tables.undefined profileId metric)) :
    ∃ stratum, buildStratum examples profileId tables bootstrapEnabled = .ok stratum
      ∧ Stratified examples profileId bootstrapEnabled stratum := by
  have htotal := total_counts examples
  have hcells : ∀ cell, counts examples cell ≤ examples.length := by
    intro cell
    rw [counts_eq_count, ← List.length_map cellName]
    exact List.count_le_length
  have hprojects : (examples.map CaptureFeedbackDatasetExample.projectId).dedup.length ≤ examples.length := by
    have hle := (List.dedup_sublist (examples.map CaptureFeedbackDatasetExample.projectId)).length_le
    rwa [List.length_map] at hle
  obtain ⟨metrics, hmetrics, hfits⟩ := estimates_fit (n := counts examples) (by omega) htables
  have hsum : positive (counts examples) + negative (counts examples) + uncertain (counts examples)
      = examples.length := htotal
  have huncertain : examples.length - positive (counts examples) - negative (counts examples)
      = uncertain (counts examples) := by omega
  have hcheck : CaptureCalibrationStratum.check {
      pooled := profileId.isNone
      profileId
      projectCount := (examples.map CaptureFeedbackDatasetExample.projectId).dedup.length
      totalSupport := examples.length
      memoryNeededSupport := positive (counts examples)
      notMemoryNeededSupport := negative (counts examples)
      uncertainSupport := examples.length - positive (counts examples) - negative (counts examples)
      confusion := counts examples
      metrics } = .ok () := by
    rw [CaptureCalibrationStratum.check_eq_ok]
    dsimp only
    refine ⟨by omega, hlength, by omega, by omega, by omega, fun cell _ => Nat.le_trans (hcells cell) hlength,
      fun metric _ => (hfits metric).checked, Option.isNone_iff_eq_none, rfl, rfl, huncertain.symm, htotal.symm,
      hprojects, ?_⟩
    rw [List.all_eq_true]
    exact fun metric _ => (hfits metric).metricExact rfl
  refine ⟨_, ?_, rfl, rfl, rfl, rfl, rfl, huncertain, rfl, hfits, hcheck⟩
  unfold buildStratum
  dsimp only
  rw [hmetrics]
  exact made_eq_ok hcheck

end SalienceGate.Calibration
