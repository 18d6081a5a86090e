import SalienceGate.Capture.Estimates
import SalienceGate.Capture.FeedbackDocuments

/-!
# Evaluations return

A report passes its validators: the strata count every session once, and the reasons are those that the
report itself calls for. An evaluation fails only if every attempt at some draw of the bootstrap is
rejected (`Draws`). Since the attempts do not depend on the pseudonyms, two exports of the same records
have the same findings (`evaluate_export`).
-/

namespace SalienceGate.Calibration

open Checked Grouping

variable {xs : List CaptureFeedbackDatasetExample}

/-! ## Draws -/

section Draws

variable [Hashing]

/-- One of the attempts at each draw of the bootstrap is accepted. -/
def Draws (examples : List CaptureFeedbackDatasetExample) : Prop :=
  ∀ replicate < captureCalibrationBootstrapReplicates, ∀ group ∈ bootstrapGroups examples,
    ∀ ordinal < (bootstrapGroups examples).length, ∀ draw < group.ordered.length,
      ∃ attempt < bootstrapRejectionAttempts,
        bootstrapCandidate replicate group.profile (group.signature ++ ":" ++ toString ordinal) draw attempt
          < 2 ^ 64 - 2 ^ 64 % group.ordered.length

theorem bootstrapDrawIndex_eq_ok {size replicate draw : ℕ} {profile projectId : String}
    (hsize : size ≤ maxCaptureFeedbackExamples) (hreplicate : replicate < captureCalibrationBootstrapReplicates)
    (hdraw : draw < size) (hattempt : ∃ attempt < bootstrapRejectionAttempts,
      bootstrapCandidate replicate profile projectId draw attempt < 2 ^ 64 - 2 ^ 64 % size) :
    ∃ index < size, bootstrapDrawIndex size replicate profile projectId draw = .ok index := by
  obtain ⟨attempt, hattempt, haccepted⟩ := hattempt
  have hpos : 0 < size := by omega
  unfold bootstrapDrawIndex
  rw [raiseIf_bind_of_not (by omega)]
  dsimp only
  cases hfound : (List.range bootstrapRejectionAttempts).findSome? fun attempt =>
      if bootstrapCandidate replicate profile projectId draw attempt < 2 ^ 64 - 2 ^ 64 % size then
        some (bootstrapCandidate replicate profile projectId draw attempt % size) else none with
  | none =>
    rw [List.findSome?_eq_none_iff] at hfound
    have hnone := hfound attempt (List.mem_range.mpr hattempt)
    rw [if_pos haccepted] at hnone
    cases hnone
  | some index =>
    obtain ⟨taken, -, htaken⟩ := List.exists_of_findSome?_eq_some hfound
    split at htaken
    · cases htaken
      exact ⟨_, Nat.mod_lt _ hpos, rfl⟩
    · cases htaken

theorem drawGroup_eq_ok {group : BootstrapGroup} {replicate ordinal : ℕ} (hgroup : group ∈ bootstrapGroups xs)
    (hdraws : Draws xs) (hreplicate : replicate < captureCalibrationBootstrapReplicates)
    (hordinal : ordinal < (bootstrapGroups xs).length)
    (hsize : group.ordered.length ≤ maxCaptureFeedbackExamples) :
    ∃ drawn, drawGroup replicate group ordinal = .ok drawn := by
  unfold drawGroup
  refine exists_mapM_eq_ok fun draw hdraw => ?_
  rw [List.mem_range] at hdraw
  obtain ⟨index, hindex, hdrawn⟩ := bootstrapDrawIndex_eq_ok hsize hreplicate hdraw
    (hdraws replicate hreplicate group hgroup ordinal hordinal draw hdraw)
  rw [hdrawn]
  refine ⟨group.ordered[index], ?_⟩
  show expect group.ordered[index]? _ = _
  rw [List.getElem?_eq_getElem hindex]
  rfl

/-- A replicate of the bootstrap is drawn. -/
theorem bootstrapSamples_eq_ok {replicate : ℕ} (hdraws : Draws xs)
    (hreplicate : replicate < captureCalibrationBootstrapReplicates)
    (hsizes : ∀ group ∈ bootstrapGroups xs, group.ordered.length ≤ maxCaptureFeedbackExamples) :
    ∃ sampled, bootstrapSamples xs replicate = .ok sampled := by
  -- before the i-th group no signature came more than i times
  have hround : ∀ j (s : List CaptureFeedbackDatasetExample × Dict (String × String) ℕ),
      j < (bootstrapGroups xs).length → (∀ key, (s.2.get? key).getD 0 ≤ 0 + j) →
      ∀ group, (bootstrapGroups xs)[j]? = some group →
      ∃ t, drawRound replicate s group = .ok t ∧ ∀ key, (t.2.get? key).getD 0 ≤ 0 + j + 1 := by
    intro j s hj hcounts group hget
    have hgroup := List.mem_of_getElem? hget
    have hordinal : (s.2.get? (group.profile, group.signature)).getD 0 < (bootstrapGroups xs).length := by
      have hle := hcounts (group.profile, group.signature)
      omega
    obtain ⟨drawn, hdrawn⟩ := drawGroup_eq_ok hgroup hdraws hreplicate hordinal (hsizes group hgroup)
    unfold drawRound
    dsimp only
    rw [hdrawn]
    refine ⟨_, rfl, fun key => ?_⟩
    rw [Dict.get?_set]
    have hle := hcounts key
    have hthis := hcounts (group.profile, group.signature)
    split
    · show _ + 1 ≤ _
      omega
    · omega
  have hstart : ∀ key : String × String,
      (((([] : List CaptureFeedbackDatasetExample), (Dict.empty : Dict (String × String) ℕ)).2).get? key).getD 0 ≤ 0 :=
    fun key => Nat.le_refl 0
  obtain ⟨state, hstate, -⟩ := exists_foldlM_eq_ok
    (I := fun j (s : List CaptureFeedbackDatasetExample × Dict (String × String) ℕ) =>
      ∀ key, (s.2.get? key).getD 0 ≤ j) hround hstart
  unfold bootstrapSamples
  rw [hstate]
  exact ⟨state.1, rfl⟩

omit [Hashing] in
theorem isShare_of_metricFractions {n : ConfusionCell → ℕ} {metric : CalibrationMetric} {value : ℚ}
    (h : metricFractions n metric = some value) : IsShare value := by
  unfold metricFractions at h
  split at h
  · cases h
  · cases h
    have hle : ((metricTerms n metric).1 : ℚ) ≤ (metricTerms n metric).2 := by
      exact_mod_cast (metricTerms_le n metric).1
    exact ⟨div_nonneg (Nat.cast_nonneg _) (Nat.cast_nonneg _), div_le_one_of_le₀ hle (Nat.cast_nonneg _)⟩

omit [Hashing] in
/-- A replicate finds a value for each metric, or that there is none. -/
theorem BootstrapTables.record_tabulated {tables : BootstrapTables} {scopes : List (Option CaptureProfile)}
    {scope : Option CaptureProfile} (hscope : scope ∈ scopes) {metric : CalibrationMetric} {replicates : ℕ}
    (h : Tabulated replicates (tables.values scope metric) (tables.undefined scope metric))
    (sampled : List CaptureFeedbackDatasetExample) :
    Tabulated (replicates + 1) ((tables.record scopes sampled).values scope metric)
      ((tables.record scopes sampled).undefined scope metric) := by
  have hfound := h.found
  unfold BootstrapTables.record
  dsimp only
  rw [if_pos hscope]
  cases hvalue : metricFractions (counts (inScope scope sampled)) metric with
  | none =>
    rw [if_pos ⟨hscope, rfl⟩]
    constructor
    · intro value hmem
      exact h.shares value (by simpa using hmem)
    · rw [Option.toList_none, List.append_nil]
      omega
  | some value =>
    rw [if_neg (fun hnone => nomatch hnone.2)]
    constructor
    · intro other hmem
      rw [List.mem_append, Option.mem_toList] at hmem
      obtain hold | hnew := hmem
      · exact h.shares other hold
      · cases hnew
        exact isShare_of_metricFractions hvalue
    · rw [List.length_append, Option.toList_some, List.length_singleton]
      omega

theorem bootstrapTables_tabulated {partition : CaptureFeedbackPartition} (hxs : ∀ a ∈ xs, a.partition = partition)
    (hlength : xs.length ≤ maxCaptureFeedbackExamples)
    (hdraws : captureE01MinFinalTestSessions ≤ xs.length → Draws xs) :
    ∃ tables, bootstrapTables xs = .ok tables ∧ (captureE01MinFinalTestSessions ≤ xs.length →
      ∀ scope ∈ none :: (disclosedProfiles xs).map some, ∀ metric, Tabulated captureCalibrationBootstrapReplicates
        (tables.values scope metric) (tables.undefined scope metric)) := by
  have hsizes : ∀ group ∈ bootstrapGroups xs, group.ordered.length ≤ maxCaptureFeedbackExamples := by
    intro group hgroup
    rw [bootstrapGroups_eq, mem_sortBy] at hgroup
    obtain ⟨profile, projectId, rows, rfl, hle, -⟩ := mem_groups hxs hgroup
    show (sortBy orderKey rows).length ≤ _
    rw [length_sortBy]
    exact Nat.le_trans hle hlength
  unfold bootstrapTables
  dsimp only
  by_cases henough : captureE01MinFinalTestSessions ≤ xs.length
  · rw [if_pos henough]
    have hround : ∀ j (s : BootstrapTables), j < (List.range captureCalibrationBootstrapReplicates).length →
        (∀ scope ∈ none :: (disclosedProfiles xs).map some, ∀ metric,
          Tabulated (0 + j) (s.values scope metric) (s.undefined scope metric)) →
        ∀ replicate, (List.range captureCalibrationBootstrapReplicates)[j]? = some replicate →
        ∃ t, (do
            let sampled ← bootstrapSamples xs replicate
            pure (s.record (none :: (disclosedProfiles xs).map some) sampled)) = Except.ok t
          ∧ ∀ scope ∈ none :: (disclosedProfiles xs).map some, ∀ metric,
            Tabulated (0 + j + 1) (t.values scope metric) (t.undefined scope metric) := by
      intro j s hj htable replicate hget
      have hreplicate := List.mem_range.mp (List.mem_of_getElem? hget)
      obtain ⟨sampled, hsampled⟩ := bootstrapSamples_eq_ok (hdraws henough) hreplicate hsizes
      rw [hsampled]
      exact ⟨_, rfl, fun scope hscope metric => BootstrapTables.record_tabulated hscope (htable scope hscope metric) _⟩
    obtain ⟨tables, htables, hall⟩ := exists_foldlM_eq_ok
      (I := fun j (s : BootstrapTables) => ∀ scope ∈ none :: (disclosedProfiles xs).map some, ∀ metric,
        Tabulated j (s.values scope metric) (s.undefined scope metric))
      (s := ⟨fun _ _ => [], fun _ _ => 0⟩) hround fun _ _ _ => ⟨nofun, rfl⟩
    refine ⟨tables, htables, fun _ => ?_⟩
    rw [Nat.zero_add, List.length_range] at hall
    exact hall
  · rw [if_neg henough]
    exact ⟨_, rfl, fun h => absurd h henough⟩

end Draws

/-! ## Supports -/

theorem mem_profilesOf {profile : CaptureProfile} : profile ∈ profilesOf xs ↔ ∃ a ∈ xs, a.profileId = profile := by
  unfold profilesOf
  rw [mem_sortBy, List.mem_dedup, List.mem_map]

theorem nodup_profilesOf : (profilesOf xs).Nodup := (perm_sortBy _ _).nodup_iff.mpr (List.nodup_dedup _)

theorem length_profilesOf_le : (profilesOf xs).length ≤ 4 := by
  have hsub : profilesOf xs ⊆ [.codexHooks, .claudeCodeHooks, .opencodePlugin, .piExtension] := by
    intro profile _
    cases profile <;> decide
  exact (nodup_profilesOf.subperm hsub).length_le

/-- The profiles that are not disclosed. -/
def suppressedProfiles (examples : List CaptureFeedbackDatasetExample) : List CaptureProfile :=
  (profilesOf examples).filter fun profile => profile ∉ disclosedProfiles examples

theorem perm_profiles : (disclosedProfiles xs ++ suppressedProfiles xs).Perm (profilesOf xs) := by
  have hsuppressed : suppressedProfiles xs = (profilesOf xs).filter fun profile =>
      !decide (captureCalibrationMinProviderDisclosureSupport ≤ (inScope (some profile) xs).length) := by
    unfold suppressedProfiles
    refine List.filter_congr fun profile hprofile => ?_
    rw [← decide_not, decide_eq_decide]
    unfold disclosedProfiles
    rw [List.mem_filter, not_and, decide_eq_true_iff]
    exact ⟨fun h => h hprofile, fun h _ => h⟩
  rw [hsuppressed]
  exact List.filter_append_perm _ _

/-- Over all profiles the parts add up to the whole. -/
theorem sum_profiles (f : CaptureProfile → ℕ) :
    ((disclosedProfiles xs).map f).sum + ((suppressedProfiles xs).map f).sum = ((profilesOf xs).map f).sum := by
  rw [← (perm_profiles.map f).sum_eq, List.map_append, List.sum_append]

theorem sum_length_inScope :
    ((profilesOf xs).map fun profile => (inScope (some profile) xs).length).sum = xs.length :=
  sum_length_filter nodup_profilesOf fun a ha => mem_profilesOf.mpr ⟨a, ha, rfl⟩

theorem counts_eq_length_filter (cell : ConfusionCell) :
    counts xs cell = (xs.filter fun a => cellName a = cell).length := by
  rw [counts_eq_count, List.count_eq_length_filter, List.filter_map, List.length_map]
  rfl

theorem sum_counts_inScope (cell : ConfusionCell) :
    ((profilesOf xs).map fun profile => counts (inScope (some profile) xs) cell).sum = counts xs cell := by
  have hsum := sum_length_filter (@nodup_profilesOf xs) fun a (ha : a ∈ xs.filter fun a => cellName a = cell) =>
    mem_profilesOf.mpr ⟨a, List.mem_of_mem_filter ha, rfl⟩
  rw [counts_eq_length_filter, ← hsum]
  refine congrArg List.sum (List.map_congr_left fun profile _ => ?_)
  rw [counts_eq_length_filter]
  show ((xs.filter _).filter _).length = _
  rw [List.filter_comm]

/-- A suppressed profile has a session, but fewer than it takes to be disclosed. -/
theorem length_inScope_suppressed {profile : CaptureProfile} (h : profile ∈ suppressedProfiles xs) :
    0 < (inScope (some profile) xs).length := by
  obtain ⟨a, ha, hprofile⟩ := mem_profilesOf.mp (List.mem_of_mem_filter h)
  exact List.length_pos_of_mem (List.mem_filter.mpr ⟨ha, decide_eq_true hprofile⟩)

theorem suppressed_eq_nil_iff :
    ((suppressedProfiles xs).map fun profile => (inScope (some profile) xs).length).sum = 0
      ↔ suppressedProfiles xs = [] := by
  rw [List.sum_eq_zero_iff_forall_eq_nat]
  constructor
  · intro h
    rw [List.eq_nil_iff_forall_not_mem]
    intro profile hprofile
    have hzero := h _ (List.mem_map.mpr ⟨profile, hprofile, rfl⟩)
    have hpos := length_inScope_suppressed hprofile
    omega
  · intro h
    rw [h]
    exact nofun

/-- The partitions of assigned examples make up the data set. -/
theorem length_partitions (h : ∀ a ∈ xs, a.partition ≠ .unassigned) :
    xs.length = (inPartition .development xs).length + (inPartition .calibration xs).length
      + (inPartition .finalTest xs).length := by
  have hmem : ∀ a ∈ xs, a.partition ∈ [CaptureFeedbackPartition.development, .calibration, .finalTest] := by
    intro a ha
    have hassigned := h a ha
    cases hpartition : a.partition <;> first | exact absurd hpartition hassigned | decide
  have hsum := sum_length_filter (by decide) hmem
  rw [← hsum]
  show (inPartition _ _).length + ((inPartition _ _).length + ((inPartition _ _).length + 0)) = _
  omega

/-! ## Findings -/

theorem map_eq_of_forall₂ {α β γ : Type} {R : α → β → Prop} {as : List α} {bs : List β} {f : α → γ} {g : β → γ}
    (h : List.Forall₂ R as bs) (hfg : ∀ a b, R a b → f a = g b) : bs.map g = as.map f := by
  induction h with
  | nil => rfl
  | cons hab _ ih => rw [List.map_cons, List.map_cons, hfg _ _ hab, ih]

theorem exists_of_forall₂ {α β : Type} {R : α → β → Prop} {as : List α} {bs : List β} (h : List.Forall₂ R as bs)
    {b : β} (hb : b ∈ bs) : ∃ a ∈ as, R a b := by
  induction h with
  | nil => cases hb
  | cons hab _ ih =>
    obtain rfl | hb := List.mem_cons.mp hb
    · exact ⟨_, List.mem_cons_self, hab⟩
    · obtain ⟨a, ha, hR⟩ := ih hb
      exact ⟨a, List.mem_cons_of_mem _ ha, hR⟩

theorem CaptureCalibrationInsufficiency.value_inj {p q : CaptureCalibrationInsufficiency} (h : p.value = q.value) :
    p = q := by
  cases p <;> cases q <;> first | rfl | exact absurd h (by decide)

/-- Reasons whose conditions hold are listed once. -/
theorem texts_of_reasons {conditions : List (CaptureCalibrationInsufficiency × Bool)}
    (hnodup : (conditions.map Prod.fst).Nodup) :
    (sortBy CaptureCalibrationInsufficiency.value (reasonsOf conditions)).map CaptureCalibrationInsufficiency.value
      = sortBy id ((sortBy CaptureCalibrationInsufficiency.value (reasonsOf conditions)).map
        CaptureCalibrationInsufficiency.value).dedup := by
  rw [sortBy_dedup_iff _ (List.pairwise_map.mpr (pairwise_sortBy _ _))]
  have hreasons : (reasonsOf conditions).Nodup := hnodup.sublist (List.filter_sublist.map _)
  exact ((perm_sortBy _ _).nodup_iff.mpr hreasons).map fun _ _ => CaptureCalibrationInsufficiency.value_inj

theorem profileValue_of_stratified {profile : CaptureProfile} {bootstrapEnabled : Bool}
    {stratum : CaptureCalibrationStratum} (h : Stratified xs (some profile) bootstrapEnabled stratum) :
    profile.value = stratum.profileValue := by
  unfold CaptureCalibrationStratum.profileValue
  rw [h.profileId]
  rfl

/-- An estimate lacks support when the report says so. -/
theorem status_exact {rows : List CaptureFeedbackDatasetExample} {profileId : Option CaptureProfile}
    {stratum : CaptureCalibrationStratum}
    (h : Stratified rows profileId (decide (captureE01MinFinalTestSessions ≤ xs.length)) stratum)
    (metric : CalibrationMetric) :
    ((stratum.metrics metric).all fun estimate => decide (estimate.intervalStatus = .insufficientSupport)
      = decide (xs.length < captureE01MinFinalTestSessions
        ∨ estimate.denominator < captureCalibrationMinIntervalDenominator)) = true := by
  cases hfound : stratum.metrics metric with
  | none => rfl
  | some estimate =>
    have hstatus := (h.fits metric).status estimate hfound
    rw [decide_eq_false_iff_not, not_le] at hstatus
    exact decide_eq_true (decide_eq_decide.mpr hstatus)

/-- What the validator of reports asks of the providers and of the suppressed ones. -/
structure CalibrationFindings.CountsOnce (findings : CalibrationFindings) : Prop where
  providerCount : findings.providerCount = findings.providers.length + findings.suppressedProviderCount
  suppressedSupport : findings.suppressedProviderSupport ≤ findings.finalTestSupport
  suppressed : findings.suppressedProviderCount = 0 ↔ findings.suppressedProviderSupport = 0
  named : ¬∃ stratum ∈ findings.providers, stratum.profileId = none
  profiles : findings.providers.map CaptureCalibrationStratum.profileValue
    = sortBy id (findings.providers.map CaptureCalibrationStratum.profileValue).dedup
  separate : ¬∃ stratum ∈ findings.providers, stratum.pooled = true
  disclosed : ¬∃ stratum ∈ findings.providers,
    stratum.totalSupport < captureCalibrationMinProviderDisclosureSupport
  support : (findings.providers.map CaptureCalibrationStratum.totalSupport).sum + findings.suppressedProviderSupport
    = findings.finalTestSupport
  whole : findings.suppressedProviderSupport = 0 →
    (findings.providers.map CaptureCalibrationStratum.memoryNeededSupport).sum = findings.pooled.memoryNeededSupport
      ∧ (findings.providers.map CaptureCalibrationStratum.notMemoryNeededSupport).sum
        = findings.pooled.notMemoryNeededSupport
      ∧ (findings.providers.map CaptureCalibrationStratum.uncertainSupport).sum = findings.pooled.uncertainSupport
      ∧ ¬∃ cell ∈ ConfusionCell.all,
        findings.pooled.confusion cell ≠ (findings.providers.map fun stratum => stratum.confusion cell).sum

theorem CalibrationFindings.check_eq_ok {findings : CalibrationFindings} :
    findings.check = .ok () ↔ 1 ≤ findings.insufficiencyReasons.length ∧ findings.insufficiencyReasons.length ≤ 11
      ∧ findings.datasetSupport ≤ maxCaptureFeedbackExamples
      ∧ findings.developmentSupport ≤ maxCaptureFeedbackExamples
      ∧ findings.calibrationSupport ≤ maxCaptureFeedbackExamples
      ∧ findings.finalTestSupport ≤ maxCaptureFeedbackExamples
      ∧ findings.providerCount ≤ 4 ∧ findings.suppressedProviderCount ≤ 4
      ∧ findings.suppressedProviderSupport ≤ maxCaptureFeedbackExamples
      ∧ findings.pooled.check = .ok () ∧ findings.providers.length ≤ 4
      ∧ (∀ stratum ∈ findings.providers, stratum.check = .ok ())
      ∧ findings.insufficiencyReasons.map CaptureCalibrationInsufficiency.value
        = sortBy id (findings.insufficiencyReasons.map CaptureCalibrationInsufficiency.value).dedup
      ∧ findings.insufficiencyReasons = sortBy CaptureCalibrationInsufficiency.value findings.expectedReasons
      ∧ (findings.studyAttestationDigest.isSome = true ↔ findings.evidenceSource = .declaredE01)
      ∧ (findings.blindingStatus.isSome = true ↔ findings.evidenceSource = .declaredE01)
      ∧ findings.datasetSupport
        = findings.developmentSupport + findings.calibrationSupport + findings.finalTestSupport
      ∧ findings.pooled.pooled = true ∧ findings.pooled.totalSupport = findings.finalTestSupport
      ∧ findings.intervalStatusesExact = true ∧ findings.CountsOnce := by
  have hstrata : findings.providers.forM CaptureCalibrationStratum.check = .ok ()
      ↔ ∀ stratum ∈ findings.providers, stratum.check = .ok () := forM_eq_ok
  unfold CalibrationFindings.check
  dsimp only
  simp only [constrain_eq_ok, refuse_eq_ok, check_bind_eq_ok, hstrata, not_or, not_and, not_not, not_lt, ne_eq,
    Bool.not_eq_false, eq_iff_iff]
  constructor
  · rintro ⟨h1, h2, h3, h4, h5, h6, h7, h8, h9, hpooled, h10, hchecked, hreasons, hexpected, hdigest, hblinding, hsum,
      hscope, htotal, hcount, hsuppressed, hzero, hnamed, hprofiles, hseparate, hdisclosed, hstatus, hsupport, hwhole⟩
    exact ⟨h1, h2, h3, h4, h5, h6, h7, h8, h9, hpooled, h10, hchecked, hreasons, hexpected, hdigest, hblinding, hsum,
      hscope, htotal, hstatus, hcount, hsuppressed, hzero, hnamed, hprofiles, hseparate, hdisclosed, hsupport, hwhole⟩
  · rintro ⟨h1, h2, h3, h4, h5, h6, h7, h8, h9, hpooled, h10, hchecked, hreasons, hexpected, hdigest, hblinding, hsum,
      hscope, htotal, hstatus, hcount, hsuppressed, hzero, hnamed, hprofiles, hseparate, hdisclosed, hsupport, hwhole⟩
    exact ⟨h1, h2, h3, h4, h5, h6, h7, h8, h9, hpooled, h10, hchecked, hreasons, hexpected, hdigest, hblinding, hsum,
      hscope, htotal, hcount, hsuppressed, hzero, hnamed, hprofiles, hseparate, hdisclosed, hstatus, hsupport, hwhole⟩

section Findings

variable [Hashing] {body : FeedbackDatasetBody} {pooled : CaptureCalibrationStratum}
  {providers : List CaptureCalibrationStratum}

/-- The conditions of the reasons, of the examples and the strata. -/
def conditionsOf (body : FeedbackDatasetBody) (finalTest : List CaptureFeedbackDatasetExample)
    (pooled : CaptureCalibrationStratum) (providers : List CaptureCalibrationStratum) :
    List (CaptureCalibrationInsufficiency × Bool) := [
  (.externalReview, true),
  (.nonE01Evidence, body.evidenceSource ≠ .declaredE01),
  (.developmentCohort, inPartition .development body.examples = [] ∧ inPartition .calibration body.examples = []),
  (.finalTestSupport, finalTest.length < captureE01MinFinalTestSessions),
  (.projectSupport, pooled.projectCount < captureE01MinProjects),
  (.providerSupport, (profilesOf finalTest).length < captureE01MinProviders),
  (.memoryNeededSupport, pooled.memoryNeededSupport < captureE01MinMemoryNeeded),
  (.notMemoryNeededSupport, pooled.notMemoryNeededSupport < captureE01MinNotMemoryNeeded),
  (.providerDisclosure, suppressedProfiles finalTest ≠ []),
  (.processAttestation, body.evidenceSource = .declaredE01
    ∧ body.studyAttestation.map CaptureFeedbackStudyAttestation.blindingStatus ≠ some .externallyAttested),
  (.metricInterval, (estimatesOf (pooled :: providers)).any lacksInterval)]

/-- The findings with these strata of the final test. -/
def assembled (body : FeedbackDatasetBody) (finalTest : List CaptureFeedbackDatasetExample)
    (pooled : CaptureCalibrationStratum) (providers : List CaptureCalibrationStratum) : CalibrationFindings where
  evidenceSource := body.evidenceSource
  studyAttestationDigest := attestationDigest body.studyAttestation
  blindingStatus := body.studyAttestation.map CaptureFeedbackStudyAttestation.blindingStatus
  insufficiencyReasons := sortBy CaptureCalibrationInsufficiency.value
    (reasonsOf (conditionsOf body finalTest pooled providers))
  datasetSupport := body.examples.length
  developmentSupport := (inPartition .development body.examples).length
  calibrationSupport := (inPartition .calibration body.examples).length
  finalTestSupport := finalTest.length
  providerCount := (profilesOf finalTest).length
  suppressedProviderCount := (suppressedProfiles finalTest).length
  suppressedProviderSupport :=
    ((suppressedProfiles finalTest).map fun profile => (inScope (some profile) finalTest).length).sum
  pooled := pooled
  providers := providers

theorem findingsOf_eq_ok {finalTest : List CaptureFeedbackDatasetExample} {tables : BootstrapTables}
    (hfinal : inPartition .finalTest body.examples = finalTest) (htables : bootstrapTables finalTest = .ok tables)
    (hpooled : buildStratum finalTest none tables (decide (captureE01MinFinalTestSessions ≤ finalTest.length))
      = .ok pooled)
    (hproviders : ((disclosedProfiles finalTest).mapM fun profile => buildStratum (inScope (some profile) finalTest)
      (some profile) tables (decide (captureE01MinFinalTestSessions ≤ finalTest.length))) = .ok providers) :
    findingsOf body = .ok (assembled body finalTest pooled providers) := by
  unfold findingsOf
  dsimp only
  rw [hfinal]
  apply bind_eq_ok.mpr ⟨tables, htables, _⟩
  apply bind_eq_ok.mpr ⟨pooled, hpooled, _⟩
  exact bind_eq_ok.mpr ⟨providers, hproviders, rfl⟩

/-- The reasons are those that the findings themselves call for. -/
theorem reasons_assembled (finalTest : List CaptureFeedbackDatasetExample) :
    reasonsOf (conditionsOf body finalTest pooled providers)
      = (assembled body finalTest pooled providers).expectedReasons := by
  have hdevelopment : decide (inPartition .development body.examples = [] ∧ inPartition .calibration body.examples = [])
      = decide ((inPartition .development body.examples).length + (inPartition .calibration body.examples).length = 0) := by
    rw [decide_eq_decide, Nat.add_eq_zero_iff, List.length_eq_zero_iff, List.length_eq_zero_iff]
  have hdisclosure : decide (suppressedProfiles finalTest ≠ []) = decide ((suppressedProfiles finalTest).length ≠ 0) := by
    rw [decide_eq_decide, ne_eq, ne_eq, List.length_eq_zero_iff]
  unfold conditionsOf CalibrationFindings.expectedReasons
  rw [hdevelopment, hdisclosure]
  rfl

omit [Hashing] in
theorem nodup_conditionsOf (finalTest : List CaptureFeedbackDatasetExample) :
    ((conditionsOf body finalTest pooled providers).map Prod.fst).Nodup := by
  unfold conditionsOf
  simp only [List.map_cons, List.map_nil]
  decide

/-- Each session of the final test is counted at its provider. -/
theorem assembled_countsOnce {finalTest : List CaptureFeedbackDatasetExample}
    (hpooled : Stratified finalTest none (decide (captureE01MinFinalTestSessions ≤ finalTest.length)) pooled)
    (hproviders : List.Forall₂ (fun profile stratum => Stratified (inScope (some profile) finalTest) (some profile)
      (decide (captureE01MinFinalTestSessions ≤ finalTest.length)) stratum) (disclosedProfiles finalTest) providers) :
    (assembled body finalTest pooled providers).CountsOnce where
  providerCount := by
    have hprofiles := (@perm_profiles finalTest).length_eq
    rw [List.length_append, hproviders.length_eq] at hprofiles
    exact hprofiles.symm
  suppressedSupport := by
    have hsum := (sum_profiles fun profile => (inScope (some profile) finalTest).length).trans sum_length_inScope
    show _ ≤ finalTest.length
    rw [← hsum]
    exact Nat.le_add_left _ _
  suppressed := by
    show (suppressedProfiles finalTest).length = 0 ↔ _ = 0
    rw [List.length_eq_zero_iff]
    exact suppressed_eq_nil_iff.symm
  named := by
    rintro ⟨stratum, hstratum, hnone⟩
    obtain ⟨profile, -, hprofile⟩ := exists_of_forall₂ hproviders hstratum
    rw [hprofile.profileId] at hnone
    cases hnone
  profiles := by
    show providers.map _ = sortBy id (providers.map _).dedup
    rw [map_eq_of_forall₂ hproviders fun _ _ => profileValue_of_stratified]
    have hsorted : ((disclosedProfiles finalTest).map CaptureProfile.value).Pairwise (· ≤ ·) :=
      List.pairwise_map.mpr ((pairwise_sortBy _ _).sublist List.filter_sublist)
    have hnodup : (disclosedProfiles finalTest).Nodup := nodup_profilesOf.sublist List.filter_sublist
    exact (sortBy_dedup_iff _ hsorted).mpr (hnodup.map fun _ _ => CaptureProfile.value_inj)
  separate := by
    rintro ⟨stratum, hstratum, htrue⟩
    obtain ⟨profile, -, hprofile⟩ := exists_of_forall₂ hproviders hstratum
    rw [hprofile.pooled] at htrue
    cases htrue
  disclosed := by
    rintro ⟨stratum, hstratum, hlt⟩
    obtain ⟨profile, hmem, hprofile⟩ := exists_of_forall₂ hproviders hstratum
    rw [hprofile.totalSupport] at hlt
    have henough := of_decide_eq_true (List.mem_filter.mp hmem).2
    omega
  support := by
    have hsum := (sum_profiles fun profile => (inScope (some profile) finalTest).length).trans sum_length_inScope
    show (providers.map _).sum + _ = finalTest.length
    rw [map_eq_of_forall₂ hproviders fun _ _ h => h.totalSupport.symm]
    exact hsum
  whole := by
    intro hzero
    -- every provider is disclosed, so the cells of the providers add up to those of the final test
    have hnil := suppressed_eq_nil_iff.mp hzero
    have hcells : ∀ cell, ((disclosedProfiles finalTest).map fun profile =>
        counts (inScope (some profile) finalTest) cell).sum = counts finalTest cell := by
      intro cell
      have hsum := (sum_profiles fun profile => counts (inScope (some profile) finalTest) cell).trans
        (sum_counts_inScope cell)
      rw [hnil] at hsum
      exact hsum
    show (providers.map _).sum = pooled.memoryNeededSupport ∧ (providers.map _).sum = pooled.notMemoryNeededSupport
      ∧ (providers.map _).sum = pooled.uncertainSupport ∧ ¬∃ cell ∈ _, pooled.confusion cell ≠ (providers.map _).sum
    rw [hpooled.memoryNeeded, hpooled.notMemoryNeeded, hpooled.uncertain, hpooled.confusion,
      map_eq_of_forall₂ hproviders fun _ _ h => h.memoryNeeded.symm,
      map_eq_of_forall₂ hproviders fun _ _ h => h.notMemoryNeeded.symm,
      map_eq_of_forall₂ hproviders fun _ _ h => h.uncertain.symm]
    simp only [positive, negative, uncertain, List.sum_map_add, hcells, true_and]
    rintro ⟨cell, -, hne⟩
    rw [map_eq_of_forall₂ hproviders fun _ _ h => (congrFun h.confusion cell).symm, hcells] at hne
    exact hne rfl

/-- The validator of reports takes the findings. -/
theorem check_assembled {finalTest : List CaptureFeedbackDatasetExample}
    (hfinal : inPartition .finalTest body.examples = finalTest)
    (hlength : body.examples.length ≤ maxCaptureFeedbackExamples)
    (hassigned : ∀ a ∈ body.examples, a.partition ≠ .unassigned)
    (hattestation : body.evidenceSource = .declaredE01 ↔ body.studyAttestation.isSome = true)
    (hpooled : Stratified finalTest none (decide (captureE01MinFinalTestSessions ≤ finalTest.length)) pooled)
    (hproviders : List.Forall₂ (fun profile stratum => Stratified (inScope (some profile) finalTest) (some profile)
      (decide (captureE01MinFinalTestSessions ≤ finalTest.length)) stratum) (disclosedProfiles finalTest) providers) :
    (assembled body finalTest pooled providers).check = .ok () := by
  have hpartitions := length_partitions hassigned
  rw [hfinal] at hpartitions
  have honce : (assembled body finalTest pooled providers).CountsOnce := assembled_countsOnce hpooled hproviders
  have hcount := honce.providerCount
  have hsuppressed := honce.suppressedSupport
  have hfour := @length_profilesOf_le finalTest
  have hlist := (perm_sortBy CaptureCalibrationInsufficiency.value
    (reasonsOf (conditionsOf body finalTest pooled providers))).length_eq
  have hmost : (reasonsOf (conditionsOf body finalTest pooled providers)).length ≤ 11 := by
    unfold reasonsOf
    rw [List.length_map]
    exact List.length_filter_le _ _
  have hleast : 0 < (reasonsOf (conditionsOf body finalTest pooled providers)).length :=
    List.length_pos_of_mem (List.mem_map.mpr ⟨(.externalReview, true), List.mem_filter.mpr ⟨List.mem_cons_self, rfl⟩, rfl⟩)
  rw [CalibrationFindings.check_eq_ok]
  dsimp only [assembled] at hcount hsuppressed ⊢
  refine ⟨by omega, by omega, hlength, by omega, by omega, by omega, hfour, by omega, by omega, hpooled.checked,
    by omega, ?_, texts_of_reasons (nodup_conditionsOf finalTest), congrArg _ (reasons_assembled finalTest), ?_, ?_,
    hpartitions, hpooled.pooled, hpooled.totalSupport, ?_, honce⟩
  · intro stratum hstratum
    obtain ⟨profile, -, hprofile⟩ := exists_of_forall₂ hproviders hstratum
    exact hprofile.checked
  · unfold attestationDigest
    rw [Option.isSome_map]
    exact hattestation.symm
  · rw [Option.isSome_map]
    exact hattestation.symm
  · unfold CalibrationFindings.intervalStatusesExact estimatesOf
    rw [List.all_flatMap, List.all_eq_true]
    intro stratum hstratum
    rw [List.all_map, List.all_eq_true]
    intro metric _
    obtain rfl | hstratum := List.mem_cons.mp hstratum
    · exact status_exact hpooled metric
    · obtain ⟨profile, -, hprofile⟩ := exists_of_forall₂ hproviders hstratum
      exact status_exact hprofile metric

/-- What the evaluation finds is found, and passes the validator of reports. -/
theorem findingsOf_checked (hlength : body.examples.length ≤ maxCaptureFeedbackExamples)
    (hassigned : ∀ a ∈ body.examples, a.partition ≠ .unassigned)
    (hattestation : body.evidenceSource = .declaredE01 ↔ body.studyAttestation.isSome = true)
    (hdraws : captureE01MinFinalTestSessions ≤ (inPartition .finalTest body.examples).length →
      Draws (inPartition .finalTest body.examples)) :
    ∃ findings, findingsOf body = .ok findings ∧ findings.check = .ok () := by
  have hpartition : ∀ a ∈ inPartition .finalTest body.examples, a.partition = .finalTest :=
    fun a ha => of_decide_eq_true (List.mem_filter.mp ha).2
  have hsize : (inPartition .finalTest body.examples).length ≤ maxCaptureFeedbackExamples :=
    Nat.le_trans (List.length_filter_le _ _) hlength
  obtain ⟨tables, htables, htabulated⟩ := bootstrapTables_tabulated hpartition hsize hdraws
  have henabled : ∀ scope ∈ none :: (disclosedProfiles (inPartition .finalTest body.examples)).map some,
      decide (captureE01MinFinalTestSessions ≤ (inPartition .finalTest body.examples).length) = true →
      ∀ metric, Tabulated captureCalibrationBootstrapReplicates (tables.values scope metric)
        (tables.undefined scope metric) :=
    fun scope hscope henough => htabulated (of_decide_eq_true henough) scope hscope
  obtain ⟨pooled, hpooled, hwhole⟩ := buildStratum_stratified hsize (henabled none List.mem_cons_self)
  obtain ⟨providers, hproviders, hparts⟩ := exists_mapM_forall₂ fun profile hprofile =>
    buildStratum_stratified (Nat.le_trans (List.length_filter_le _ _) hsize)
      (henabled (some profile) (List.mem_cons_of_mem _ (List.mem_map.mpr ⟨profile, hprofile, rfl⟩)))
  exact ⟨_, findingsOf_eq_ok rfl htables hpooled hproviders,
    check_assembled rfl hlength hassigned hattestation hwhole hparts⟩

end Findings

/-! ## Exports -/

section Exports

variable [FeedbackHashing] {records records' : List CaptureFeedbackExportRecord} {exportNonce exportNonce' : List UInt8}
  {evidenceSource : CaptureFeedbackEvidenceSource} {optIn : Bool}
  {studyAttestation : Option CaptureFeedbackStudyAttestation} {dataset : CaptureFeedbackDataset}

/-- The message behind the pseudonym of a session. -/
def exampleMessage (exportId sessionId : Sha256Digest) : Json :=
  .object [
    ("export_id", .str exportId.text),
    ("schema_version", .str "capture-feedback-example-id/v1"),
    ("session_id", .str sessionId.text)]

/-- The message behind the pseudonym of a project. -/
def projectMessage (exportId projectDigest : Sha256Digest) : Json :=
  .object [
    ("export_id", .str exportId.text),
    ("project_digest", .str projectDigest.text),
    ("schema_version", .str "capture-feedback-project-id/v1")]

/-- In an export, the HMAC of the installation tells the sessions and the projects of records apart. -/
structure TellsApart (records : List CaptureFeedbackExportRecord) (exportNonce : List UInt8) : Prop where
  sessions : Set.InjOn (FeedbackHashing.hmacSha256 "saliencegate:capture:feedback-example:v1")
    {message | ∃ record ∈ records, message = exampleMessage (exportIdOf exportNonce) record.sessionId}
  projects : Set.InjOn (FeedbackHashing.hmacSha256 "saliencegate:capture:feedback-project:v1")
    {message | ∃ record ∈ records, message = projectMessage (exportIdOf exportNonce) record.projectDigest}

omit [FeedbackHashing] in
theorem exampleMessage_inj {exportId sessionId sessionId' : Sha256Digest}
    (h : exampleMessage exportId sessionId = exampleMessage exportId sessionId') : sessionId = sessionId' := by
  unfold exampleMessage at h
  simp only [Json.object.injEq, List.cons.injEq, Prod.mk.injEq, Json.str.injEq, true_and, and_true] at h
  exact digest_eq_of_text h

omit [FeedbackHashing] in
theorem projectMessage_inj {exportId projectDigest projectDigest' : Sha256Digest}
    (h : projectMessage exportId projectDigest = projectMessage exportId projectDigest') :
    projectDigest = projectDigest' := by
  unfold projectMessage at h
  simp only [Json.object.injEq, List.cons.injEq, Prod.mk.injEq, Json.str.injEq, true_and, and_true] at h
  exact digest_eq_of_text h

theorem TellsApart.session_eq (h : TellsApart records exportNonce) {r s : CaptureFeedbackExportRecord}
    (hr : r ∈ records) (hs : s ∈ records)
    (hid : exampleIdOf (exportIdOf exportNonce) r.sessionId = exampleIdOf (exportIdOf exportNonce) s.sessionId) :
    r.sessionId = s.sessionId :=
  exampleMessage_inj (h.sessions ⟨r, hr, rfl⟩ ⟨s, hs, rfl⟩ hid)

theorem TellsApart.project_iff (h : TellsApart records exportNonce) {r s : CaptureFeedbackExportRecord}
    (hr : r ∈ records) (hs : s ∈ records) :
    projectIdOf (exportIdOf exportNonce) r.projectDigest = projectIdOf (exportIdOf exportNonce) s.projectDigest
      ↔ r.projectDigest = s.projectDigest := by
  constructor
  · intro hid
    exact projectMessage_inj (h.projects ⟨r, hr, rfl⟩ ⟨s, hs, rfl⟩ hid)
  · intro hproject
    rw [hproject]

/-- The order of records does not matter to whether they are accepted. -/
theorem AcceptedRecords.perm (h : AcceptedRecords records evidenceSource studyAttestation) (hperm : records'.Perm records) :
    AcceptedRecords records' evidenceSource studyAttestation where
  length := by
    rw [hperm.length_eq]
    exact h.length
  verified record hrecord := h.verified record (hperm.mem_iff.mp hrecord)
  nodup := (hperm.map _).nodup_iff.mpr h.nodup
  admits := by
    have hadmits := h.admits
    have hall : ∀ p : CaptureFeedbackRecordOrigin → Bool,
        (records'.map CaptureFeedbackExportRecord.origin).all p
          = (records.map CaptureFeedbackExportRecord.origin).all p := fun p => (hperm.map _).all_eq
    unfold CaptureFeedbackEvidenceSource.admits at hadmits ⊢
    simp only [hall]
    exact hadmits
  assigned record hrecord := h.assigned record (hperm.mem_iff.mp hrecord)

theorem TellsApart.nodup_ids (h : TellsApart records exportNonce) (hperm : records'.Perm records)
    (hnodup : (records.map CaptureFeedbackExportRecord.sessionId).Nodup) :
    (records'.map fun record => exampleIdOf (exportIdOf exportNonce) record.sessionId).Nodup := by
  rw [(hperm.map _).nodup_iff]
  have hrecords : records.Nodup := hnodup.of_map
  refine hrecords.map_on fun r hr s hs hid => ?_
  exact List.inj_on_of_nodup_map hnodup hr hs (h.session_eq hr hs hid)

/-- Two exports of records pair their examples by the records. -/
theorem renamed_bodyOf (hapart : TellsApart records exportNonce) (hapart' : TellsApart records exportNonce')
    (hperm : records'.Perm records) :
    Renamed (records.map fun record =>
        (exampleOf (exportIdOf exportNonce) record, exampleOf (exportIdOf exportNonce') record))
      (bodyOf records exportNonce evidenceSource studyAttestation).examples
      (bodyOf records' exportNonce' evidenceSource studyAttestation).examples where
  left := by
    rw [List.map_map]
    exact perm_bodyOf
  right := by
    rw [List.map_map]
    exact perm_bodyOf.trans (hperm.map _)
  alike := by
    intro z hz
    obtain ⟨record, -, rfl⟩ := List.mem_map.mp hz
    rfl
  projects := by
    intro z hz w hw
    obtain ⟨r, hr, rfl⟩ := List.mem_map.mp hz
    obtain ⟨s, hs, rfl⟩ := List.mem_map.mp hw
    exact (hapart.project_iff hr hs).trans (hapart'.project_iff hr hs).symm

theorem verifiedDataset_of_sealed {body : FeedbackDatasetBody}
    (h : dataset.toCaptureFeedbackDatasetFields = body.sealed) : verifiedDataset dataset = .ok dataset := by
  unfold verifiedDataset
  rw [h]
  exact raiseIf_bind_of_not (not_not.mpr rfl)

variable [FloatText]

/-- What is evaluated are the findings of the data set, if they pass the validator. -/
theorem evaluate_eq (hverified : verifiedDataset dataset = .ok dataset) :
    (evaluateCaptureFeedbackDataset dataset).map (fun report => report.toCalibrationFindings)
      = findingsOf dataset.toFeedbackDatasetBody >>= made CalibrationFindings.check := by
  obtain ⟨document, hencoded, hdecoded⟩ := bind_eq_ok.mp (decode_encode hverified)
  have hreport : ∀ body : CalibrationReportBody, ∀ reportTag,
      (made CaptureCalibrationReport.check { body with reportDigest := calibrationReportBodyDigest body, reportTag }).map
          (fun report => report.toCalibrationFindings)
        = made CalibrationFindings.check body.toCalibrationFindings := by
    intro body reportTag
    have hcheck : CaptureCalibrationReport.check
        { body with reportDigest := calibrationReportBodyDigest body, reportTag } = body.toCalibrationFindings.check := by
      have hdigest : ∀ message, refuse (calibrationReportBodyDigest body ≠ calibrationReportBodyDigest body) message
          = .ok () := fun message => refuse_eq_ok.mpr (not_not.mpr rfl)
      unfold CaptureCalibrationReport.check
      rw [hdigest]
      cases body.toCalibrationFindings.check <;> rfl
    unfold made
    rw [hcheck]
    cases body.toCalibrationFindings.check <;> rfl
  unfold evaluateCaptureFeedbackDataset
  rw [hencoded]
  show (decodeCaptureFeedbackDataset document >>= _).map _ = _
  rw [hdecoded]
  show (findingsOf dataset.toFeedbackDatasetBody >>= _).map _ = _
  rw [map_bind_view]
  refine bind_congr fun findings => ?_
  exact hreport { findings with datasetDigest := dataset.datasetDigest } _

/-- Two exports of the same records, in any order and under any nonce, evaluate to the same findings. -/
theorem evaluate_export (hsigns : SignsCells) (hapart : TellsApart records exportNonce)
    (hapart' : TellsApart records exportNonce')
    (hbuild : buildCaptureFeedbackDataset records exportNonce evidenceSource optIn studyAttestation = .ok dataset)
    (hperm : records'.Perm records) (hnonce : exportNonce'.length = 32) :
    ∃ dataset', buildCaptureFeedbackDataset records' exportNonce' evidenceSource optIn studyAttestation = .ok dataset'
      ∧ (evaluateCaptureFeedbackDataset dataset).map (fun report => report.toCalibrationFindings)
        = (evaluateCaptureFeedbackDataset dataset').map (fun report => report.toCalibrationFindings)
      ∧ ((captureE01MinFinalTestSessions ≤ (inPartition .finalTest dataset.examples).length →
          Draws (inPartition .finalTest dataset.examples)) →
        ∃ report report', evaluateCaptureFeedbackDataset dataset = .ok report
          ∧ evaluateCaptureFeedbackDataset dataset' = .ok report'
          ∧ report.toCalibrationFindings = report'.toCalibrationFindings) := by
  obtain ⟨haccepted, -, hopt, hids, hfields⟩ := build_eq_ok.mp hbuild
  have haccepted' := AcceptedRecords.perm haccepted hperm
  have hids' := hapart'.nodup_ids hperm haccepted.nodup
  have hdeclared := declaredE01_iff_of_admits haccepted.admits
  let dataset' : CaptureFeedbackDataset := ⟨(bodyOf records' exportNonce' evidenceSource studyAttestation).sealed,
    check_sealed.mpr ⟨haccepted'.length, hids', haccepted'.assigned, hdeclared⟩⟩
  have hbuild' : buildCaptureFeedbackDataset records' exportNonce' evidenceSource optIn studyAttestation
      = .ok dataset' := build_eq_ok.mpr ⟨haccepted', hnonce, hopt, hids', rfl⟩
  have hbody : dataset.toFeedbackDatasetBody = bodyOf records exportNonce evidenceSource studyAttestation :=
    congrArg CaptureFeedbackDatasetFields.toFeedbackDatasetBody hfields
  have hlength : dataset.examples.length ≤ maxCaptureFeedbackExamples := length_examples_le dataset
  have hsame : findingsOf dataset.toFeedbackDatasetBody = findingsOf dataset'.toFeedbackDatasetBody := by
    rw [hbody] at hlength ⊢
    exact findingsOf_eq (renamed_bodyOf hapart hapart' hperm) hsigns hlength rfl rfl
  have hequal : (evaluateCaptureFeedbackDataset dataset).map (fun report => report.toCalibrationFindings)
      = (evaluateCaptureFeedbackDataset dataset').map (fun report => report.toCalibrationFindings) := by
    rw [evaluate_eq (verifiedDataset_of_sealed hfields), evaluate_eq (verifiedDataset_of_sealed rfl), hsame]
  refine ⟨dataset', hbuild', hequal, fun hdraws => ?_⟩
  have hassigned : ∀ a ∈ dataset.examples, a.partition ≠ .unassigned := by
    rw [hbody]
    intro a ha
    obtain ⟨record, hrecord, rfl⟩ := List.mem_map.mp (perm_bodyOf.mem_iff.mp ha)
    exact haccepted.assigned record hrecord
  have hsource : dataset.evidenceSource = .declaredE01 ↔ dataset.studyAttestation.isSome = true := by
    rw [hbody]
    exact hdeclared
  obtain ⟨findings, hfindings, hcheck⟩ := findingsOf_checked hlength hassigned hsource hdraws
  have hevaluated := evaluate_eq (verifiedDataset_of_sealed hfields)
  rw [hfindings] at hevaluated
  have hmade : (evaluateCaptureFeedbackDataset dataset).map (fun report => report.toCalibrationFindings) = .ok findings :=
    hevaluated.trans (made_eq_ok hcheck)
  obtain ⟨report, hreport, hview⟩ := exists_of_map_eq_ok hmade
  obtain ⟨report', hreport', hview'⟩ := exists_of_map_eq_ok (hequal.symm.trans hmade)
  exact ⟨report, report', hreport, hreport', hview.trans hview'.symm⟩

end Exports

section TwoSessions

theorem all_digits (k n : ℕ) : (Hex.digits k n).all isLowerHex = true := by
  have hdigit : ∀ m < 16, isLowerHex (Hex.digit m) = true := by decide
  induction k generalizing n with
  | zero => rfl
  | succ k ih =>
    unfold Hex.digits
    rw [List.all_append, ih, List.all_cons, hdigit _ (Nat.mod_lt n (by decide))]
    rfl

/-- The digest with these digits. -/
def numbered (n : ℕ) : Sha256Digest where
  text := String.ofList (Hex.digits 64 n)
  pattern := by
    rw [String.length_ofList, Hex.length_digits, String.toList_ofList]
    exact ⟨rfl, all_digits 64 n⟩

theorem numbered_inj {m n : ℕ} (hm : m < 16 ^ 64) (hn : n < 16 ^ 64) (h : numbered m = numbered n) : m = n := by
  have htext : (numbered m).text = (numbered n).text := by rw [h]
  have hdigits : Hex.digits 64 m = Hex.digits 64 n := String.ofList_injective htext
  have hvalue : Hex.value? (Hex.digits 64 m) = Hex.value? (Hex.digits 64 n) := by rw [hdigits]
  rw [Hex.value?_digits hm, Hex.value?_digits hn] at hvalue
  exact Option.some.inj hvalue

/-- The counts of a cell document as one number. -/
def cellsNumber (items : List (String × Json)) : ℕ :=
  items.foldl (fun number item =>
    match item.2 with
    | .int count => number * 1024 + count.toNat
    | _ => number) 0

/-- A hash function that numbers the counts of up to a thousand sessions, and an HMAC that is the text that
it is asked to hide. -/
local instance plainHashing : FeedbackHashing where
  lengthPrefixedSha256 _ parts :=
    match parts with
    | [.canonicalJson (.object [(_, .object items), _])] => numbered (cellsNumber items)
    | _ => numbered 0
  bytesSha256 _ bytes := numbered bytes.length
  hmacSha256 _ message :=
    match message with
    | .object [_, _, ("session_id", .str text)] => (Sha256Digest.parse text).getD (numbered 0)
    | .object [_, ("project_digest", .str text), _] => (Sha256Digest.parse text).getD (numbered 0)
    | _ => numbered 0

theorem cellSignature_plain (n : ConfusionCell → ℕ) : Hashing.lengthPrefixedSha256
      "saliencegate:capture:feedback-bootstrap-cell:v1" [.canonicalJson (cellDocument n)]
    = numbered (cellsNumber (ConfusionCell.all.map fun cell => (cell.name, .int (n cell)))) := rfl

theorem cellsNumber_eq (n : ConfusionCell → ℕ) :
    cellsNumber (ConfusionCell.all.map fun cell => (cell.name, .int (n cell)))
      = (ConfusionCell.all.map n).foldl (fun number count => number * 1024 + count) 0 := rfl

/-- Digits below the base are read off their number. -/
theorem eq_of_foldl_eq {counts counts' : List ℕ} (hlength : counts.length = counts'.length)
    (hcounts : ∀ count ∈ counts, count < 1024) (hcounts' : ∀ count ∈ counts', count < 1024)
    (h : counts.foldl (fun number count => number * 1024 + count) 0
      = counts'.foldl (fun number count => number * 1024 + count) 0) : counts = counts' := by
  induction counts using List.reverseRecOn generalizing counts' with
  | nil => exact (List.length_eq_zero_iff.mp hlength.symm).symm
  | append_singleton counts count ih =>
    induction counts' using List.reverseRecOn with
    | nil => simp at hlength
    | append_singleton counts' count' _ =>
      have hcount := hcounts count (by simp)
      have hcount' := hcounts' count' (by simp)
      rw [List.foldl_append, List.foldl_append] at h
      simp only [List.foldl_cons, List.foldl_nil] at h
      have hrest := ih (by simpa using hlength) (fun c hc => hcounts c (List.mem_append_left _ hc))
        (fun c hc => hcounts' c (List.mem_append_left _ hc)) (by omega)
      rw [hrest] at h ⊢
      have hlast : count = count' := by omega
      rw [hlast]

theorem foldl_lt {counts : List ℕ} (hcounts : ∀ count ∈ counts, count < 1024) :
    counts.foldl (fun number count => number * 1024 + count) 0 < 1024 ^ counts.length := by
  induction counts using List.reverseRecOn with
  | nil => decide
  | append_singleton counts count ih =>
    have hrest := ih fun c hc => hcounts c (List.mem_append_left _ hc)
    have hcount := hcounts count (by simp)
    rw [List.foldl_append, List.length_append, List.length_singleton, Nat.pow_succ]
    simp only [List.foldl_cons, List.foldl_nil]
    omega

theorem signsCells_plain : SignsCells := by
  have hsmall : ∀ n : ConfusionCell → ℕ, total n ≤ maxCaptureFeedbackExamples →
      ∀ count ∈ ConfusionCell.all.map n, count < 1024 := by
    intro n hn count hcount
    obtain ⟨cell, -, rfl⟩ := List.mem_map.mp hcount
    unfold total positive negative uncertain maxCaptureFeedbackExamples at hn
    cases cell <;> omega
  rintro _ ⟨n, hn, rfl⟩ _ ⟨n', hn', rfl⟩ heq
  dsimp only at heq
  rw [cellSignature_plain, cellSignature_plain, cellsNumber_eq, cellsNumber_eq] at heq
  have hbound : ∀ n : ConfusionCell → ℕ, total n ≤ maxCaptureFeedbackExamples →
      (ConfusionCell.all.map n).foldl (fun number count => number * 1024 + count) 0 < 16 ^ 64 := by
    intro n hn
    refine Nat.lt_trans (foldl_lt (hsmall n hn)) ?_
    rw [List.length_map]
    decide
  have hlist := eq_of_foldl_eq (by simp) (hsmall n hn) (hsmall n' hn') (numbered_inj (hbound n hn) (hbound n' hn') heq)
  have hsame : n = n' := funext fun cell => List.map_inj_left.mp hlist cell (ConfusionCell.mem_all cell)
  rw [hsame]

theorem tellsApart_plain (records : List CaptureFeedbackExportRecord) (exportNonce : List UInt8) :
    TellsApart records exportNonce := by
  have hparse : ∀ digest : Sha256Digest, (Sha256Digest.parse digest.text).getD (numbered 0) = digest := by
    intro digest
    unfold Sha256Digest.parse
    rw [dif_pos digest.pattern]
    rfl
  constructor
  · rintro _ ⟨r, -, rfl⟩ _ ⟨s, -, rfl⟩ heq
    have hid : (Sha256Digest.parse r.sessionId.text).getD (numbered 0)
        = (Sha256Digest.parse s.sessionId.text).getD (numbered 0) := heq
    rw [hparse, hparse] at hid
    rw [hid]
  · rintro _ ⟨r, -, rfl⟩ _ ⟨s, -, rfl⟩ heq
    have hid : (Sha256Digest.parse r.projectDigest.text).getD (numbered 0)
        = (Sha256Digest.parse s.projectDigest.text).getD (numbered 0) := heq
    rw [hparse, hparse] at hid
    rw [hid]

/-- A session of a project. -/
def recordOf (session : ℕ) (label : CaptureFeedbackLabel) : CaptureFeedbackExportRecord where
  projectDigest := numbered 7
  profileId := .codexHooks
  sessionId := numbered session
  label
  prediction := .memoryNeeded
  partition := .finalTest
  origin := .syntheticFixture
  sourceReportDigest := numbered (session + 10)
  recordTag := numbered 0

/-- Two sessions of one project. -/
def twoRecords : List CaptureFeedbackExportRecord := [recordOf 1 .memoryNeeded, recordOf 2 .uncertain]

/-- The writer of floats, which the data set has none of. -/
local instance plainFloats : FloatText where
  length _ := 0

/-- The two sessions are exported twice, in either order and under two nonces, and the reports agree. -/
theorem evaluate_export_twoRecords : ∃ dataset dataset' report report',
    buildCaptureFeedbackDataset twoRecords (List.replicate 32 1) .synthetic true none = .ok dataset
      ∧ buildCaptureFeedbackDataset twoRecords.reverse (List.replicate 32 2) .synthetic true none = .ok dataset'
      ∧ evaluateCaptureFeedbackDataset dataset = .ok report ∧ evaluateCaptureFeedbackDataset dataset' = .ok report'
      ∧ report.toCalibrationFindings = report'.toCalibrationFindings := by
  have hsessions : (twoRecords.map CaptureFeedbackExportRecord.sessionId).Nodup := by
    have hne : numbered 1 ≠ numbered 2 := fun h => absurd (numbered_inj (by decide) (by decide) h) (by decide)
    simpa [twoRecords, recordOf] using hne
  have haccepted : AcceptedRecords twoRecords .synthetic none := {
    length := by decide
    verified := by
      intro record hrecord
      rcases List.mem_pair.mp hrecord with rfl | rfl <;> exact raiseIf_bind_of_not (not_not.mpr rfl)
    nodup := hsessions
    admits := rfl
    assigned := by
      intro record hrecord
      rcases List.mem_pair.mp hrecord with rfl | rfl <;> exact nofun }
  have hids := (tellsApart_plain twoRecords (List.replicate 32 1)).nodup_ids (.refl _) hsessions
  have hdeclared := declaredE01_iff_of_admits haccepted.admits
  let dataset : CaptureFeedbackDataset := ⟨(bodyOf twoRecords (List.replicate 32 1) .synthetic none).sealed,
    check_sealed.mpr ⟨haccepted.length, hids, haccepted.assigned, hdeclared⟩⟩
  have hbuild : buildCaptureFeedbackDataset twoRecords (List.replicate 32 1) .synthetic true none = .ok dataset :=
    build_eq_ok.mpr ⟨haccepted, rfl, rfl, hids, rfl⟩
  obtain ⟨dataset', hbuild', -, hreports⟩ := evaluate_export signsCells_plain
    (tellsApart_plain twoRecords (List.replicate 32 1)) (tellsApart_plain twoRecords (List.replicate 32 2)) hbuild
    (List.reverse_perm twoRecords) (by decide)
  have hfew : ¬captureE01MinFinalTestSessions ≤ (inPartition .finalTest dataset.examples).length := by
    have hle : (inPartition .finalTest dataset.examples).length ≤ dataset.examples.length := List.length_filter_le _ _
    have htwo : dataset.examples.length = 2 := perm_bodyOf.length_eq
    unfold captureE01MinFinalTestSessions
    omega
  obtain ⟨report, report', hreport, hreport', hsame⟩ := hreports fun henough => absurd henough hfew
  exact ⟨dataset, dataset', report, report', hbuild, hbuild', hreport, hreport', hsame⟩

end TwoSessions

end SalienceGate.Calibration
