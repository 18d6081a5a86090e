import SalienceGate.Capture.Feedback

/-!
# Documents of feedback exports

A data set is read back from its own document: what is written is loaded again (`load_document`), and the
document is within the limits of its reader, since a data set has at most a thousand examples
(`readBoundedJson_document`).
-/

namespace SalienceGate

open Checked Grouping Json

/-! ## Loading -/

/-- The document of fields is loaded exactly if they pass the validator. -/
theorem load_document [Hashing] (fields : CaptureFeedbackDatasetFields) :
    CaptureFeedbackDataset.load fields.document
      = (validate CaptureFeedbackDatasetFields.check CaptureFeedbackDataset.mk fields).toOption := by
  unfold CaptureFeedbackDatasetFields.document FeedbackDatasetBody.members
  simp [CaptureFeedbackDataset.load, onlyMembers, datasetMembers, Codec.str, Codec.bool]

theorem load_document_self [Hashing] (dataset : CaptureFeedbackDataset) :
    CaptureFeedbackDataset.load dataset.document = some dataset := by
  rw [load_document, validate_self dataset.valid]
  rfl

/-! ## Limits -/

theorem isPlain_digest (digest : Sha256Digest) : isPlain digest.text = true := by
  refine List.all_eq_true.mpr fun c hc => ?_
  have hhex := List.all_eq_true.mp digest.pattern.2 c hc
  simp only [isLowerHex, Char.isDigit, Bool.and_eq_true, Bool.or_eq_true, decide_eq_true_eq, UInt32.le_iff_toNat_le,
    Char.le_def] at hhex
  have hrange : 48 ≤ c.toNat ∧ c.toNat ≤ 57 ∨ 97 ≤ c.toNat ∧ c.toNat ≤ 102 := hhex
  simp only [Bool.and_eq_true, decide_eq_true_eq]
  omega

section

variable [FloatText]

theorem within_digest (digest : Sha256Digest) : Within 66 1 0 64 (Sha256Digest.codec.dump digest) :=
  within_str digest.text 64 (isPlain_digest digest) (Nat.le_of_eq digest.pattern.1)

theorem within_label (label : CaptureFeedbackLabel) : Within 19 1 0 17 (CaptureFeedbackLabel.codec.dump label) :=
  within_str label.value 17 (by cases label <;> decide) (by cases label <;> decide)

theorem within_prediction (prediction : CaptureFeedbackPrediction) :
    Within 19 1 0 17 (CaptureFeedbackPrediction.codec.dump prediction) :=
  within_str prediction.value 17 (by cases prediction <;> decide) (by cases prediction <;> decide)

theorem within_partition (partition : CaptureFeedbackPartition) :
    Within 13 1 0 11 (CaptureFeedbackPartition.codec.dump partition) :=
  within_str partition.value 11 (by cases partition <;> decide) (by cases partition <;> decide)

theorem within_profile (profile : CaptureProfile) : Within 22 1 0 20 (CaptureProfile.codec.dump profile) :=
  within_str profile.value 20 (by cases profile <;> decide) (by cases profile <;> decide)

theorem within_evidenceSource (evidenceSource : CaptureFeedbackEvidenceSource) :
    Within 30 1 0 28 (CaptureFeedbackEvidenceSource.codec.dump evidenceSource) :=
  within_str evidenceSource.value 28 (by cases evidenceSource <;> decide) (by cases evidenceSource <;> decide)

theorem within_blindingStatus (blindingStatus : CaptureFeedbackBlindingStatus) :
    Within 21 1 0 19 (CaptureFeedbackBlindingStatus.codec.dump blindingStatus) :=
  within_str blindingStatus.value 19 (by cases blindingStatus <;> decide) (by cases blindingStatus <;> decide)

/-- An example takes less than four hundred bytes. -/
theorem within_example (example_ : CaptureFeedbackDatasetExample) :
    Within 400 8 1 330 (CaptureFeedbackDatasetExample.codec.dump example_) := by
  have hmembers := WithinItems.cons "example_id" (by decide) (within_digest example_.exampleId) <|
    .cons "label" (by decide) (within_label example_.label) <|
    .cons "partition" (by decide) (within_partition example_.partition) <|
    .cons "prediction" (by decide) (within_prediction example_.prediction) <|
    .cons "profile_id" (by decide) (within_profile example_.profileId) <|
    .cons "project_id" (by decide) (within_digest example_.projectId) <|
    .cons "report_binding" (by decide) (within_digest example_.reportBinding) withinItems_nil
  exact (within_object (Nat.le_refl 7) hmembers).mono (by decide) (by decide) (by decide) (by decide)

theorem within_attestation (attestation : Option CaptureFeedbackStudyAttestation) :
    Within 1000 10 1 900 (CaptureFeedbackStudyAttestation.codec.dumpNullable attestation) := by
  cases attestation with
  | none => exact within_null.mono (by decide) (by decide) (by decide) (by decide)
  | some attestation =>
    have hschema : Within 40 1 0 38 (.str "capture-feedback-study-attestation/v1") :=
      within_str "capture-feedback-study-attestation/v1" 38 (by decide) (by decide)
    have hmembers := WithinItems.cons "blinding_status" (by decide) (within_blindingStatus attestation.blindingStatus) <|
      .cons "consent_protocol_digest" (by decide) (within_digest attestation.consentProtocolDigest) <|
      .cons "evaluator_freeze_digest" (by decide) (within_digest attestation.evaluatorFreezeDigest) <|
      .cons "label_freeze_digest" (by decide) (within_digest attestation.labelFreezeDigest) <|
      .cons "no_test_tuning_digest" (by decide) (within_digest attestation.noTestTuningDigest) <|
      .cons "preregistration_digest" (by decide) (within_digest attestation.preregistrationDigest) <|
      .cons "report_selection_policy_digest" (by decide) (within_digest attestation.reportSelectionPolicyDigest) <|
      .cons "schema_version" (by decide) hschema <|
      .cons "temporal_split_digest" (by decide) (within_digest attestation.temporalSplitDigest) withinItems_nil
    exact (within_object (Nat.le_refl 9) hmembers).mono (by decide) (by decide) (by decide) (by decide)

/-- A data set of up to a thousand examples is within the limits of its reader. -/
theorem within_document {fields : CaptureFeedbackDatasetFields}
    (hlength : fields.examples.length ≤ maxCaptureFeedbackExamples) :
    Within 410000 8100 3 340000 fields.document := by
  have hexamples : Within 401002 8001 2 330000
      ((Codec.list CaptureFeedbackDatasetExample.codec).dump fields.examples) := by
    have hcount : (fields.examples.map CaptureFeedbackDatasetExample.codec.dump).length ≤ 1000 := by
      rw [List.length_map]
      exact hlength
    have hvalues : ∀ value ∈ fields.examples.map CaptureFeedbackDatasetExample.codec.dump, Within 400 8 1 330 value := by
      intro value hvalue
      obtain ⟨example_, -, rfl⟩ := List.mem_map.mp hvalue
      exact within_example example_
    exact (within_list hcount hvalues).mono (by decide) (by decide) (by decide) (by decide)
  have hscope : Within 22 1 0 20 (.str "export_specific_hmac") := within_str "export_specific_hmac" 20 (by decide) (by decide)
  have hschema : Within 30 1 0 28 (.str "capture-feedback-dataset/v1") :=
    within_str "capture-feedback-dataset/v1" 28 (by decide) (by decide)
  have hmembers := WithinItems.cons "dataset_digest" (by decide) (within_digest fields.datasetDigest) <|
    .cons "dataset_tag" (by decide) (within_digest fields.datasetTag) <|
    .cons "direct_identifiers_included" (by decide) (within_bool false) <|
    .cons "evidence_source" (by decide) (within_evidenceSource fields.evidenceSource) <|
    .cons "examples" (by decide) hexamples <|
    .cons "explicit_opt_in" (by decide) (within_bool true) <|
    .cons "export_id" (by decide) (within_digest fields.exportId) <|
    .cons "identifier_scope" (by decide) hscope <|
    .cons "raw_content_included" (by decide) (within_bool false) <|
    .cons "schema_version" (by decide) hschema <|
    .cons "study_attestation" (by decide) (within_attestation fields.studyAttestation) withinItems_nil
  exact (within_object (Nat.le_refl 11) hmembers).mono (by decide) (by decide) (by decide) (by decide)

omit [FloatText] in
theorem canonical_document (fields : CaptureFeedbackDatasetFields) : fields.document.canonical = true := by
  unfold CaptureFeedbackDatasetFields.document FeedbackDatasetBody.members
  simp

theorem readBoundedJson_document {fields : CaptureFeedbackDatasetFields}
    (hlength : fields.examples.length ≤ maxCaptureFeedbackExamples) :
    readBoundedJson fields.document feedbackJsonLimits = true := by
  obtain ⟨hbytes, hitems, hdepth, hstrings⟩ := within_document hlength
  unfold readBoundedJson boundedJson
  rw [canonical_document]
  simp only [Bool.and_eq_true, decide_eq_true_eq]
  exact ⟨⟨⟨trivial, hbytes.trans (by decide)⟩, rfl⟩, ⟨hitems.trans (by decide), hdepth.trans (by decide)⟩,
    hstrings.trans (by decide)⟩

end

/-! ## Reading back -/

section

variable [FeedbackHashing] [FloatText]

omit [FloatText] in
theorem length_examples_le (dataset : CaptureFeedbackDataset) :
    dataset.examples.length ≤ maxCaptureFeedbackExamples := by
  have hvalid := dataset.valid
  unfold CaptureFeedbackDatasetFields.check at hvalid
  rw [constrain_bind_eq_ok] at hvalid
  exact hvalid.1

theorem decodeDataset_document (dataset : CaptureFeedbackDataset) : decodeDataset dataset.document = some dataset := by
  unfold decodeDataset
  rw [readBoundedJson_document (length_examples_le dataset), load_document_self]
  rfl

/-- A data set is encoded, and read back if its tag is that of the installation. -/
theorem decode_encode {dataset : CaptureFeedbackDataset} (h : verifiedDataset dataset = .ok dataset) :
    (encodeCaptureFeedbackDataset dataset >>= decodeCaptureFeedbackDataset) = .ok dataset := by
  unfold encodeCaptureFeedbackDataset
  dsimp only
  rw [decodeDataset_document, raiseIf_bind_of_not (not_not.mpr rfl)]
  show decodeCaptureFeedbackDataset dataset.document = _
  unfold decodeCaptureFeedbackDataset
  rw [decodeDataset_document]
  exact h

end

/-! ## Building -/

section

variable [FeedbackHashing] {records : List CaptureFeedbackExportRecord} {exportNonce : List UInt8}
  {evidenceSource : CaptureFeedbackEvidenceSource} {optIn : Bool}
  {studyAttestation : Option CaptureFeedbackStudyAttestation} {dataset : CaptureFeedbackDataset}

/-- What does not depend on the nonce when records are accepted for an evidence source. -/
structure AcceptedRecords (records : List CaptureFeedbackExportRecord) (evidenceSource : CaptureFeedbackEvidenceSource)
    (studyAttestation : Option CaptureFeedbackStudyAttestation) : Prop where
  length : records.length ≤ maxCaptureFeedbackExamples
  verified : ∀ record ∈ records, verifiedExportRecord record = .ok record
  nodup : (records.map CaptureFeedbackExportRecord.sessionId).Nodup
  admits : evidenceSource.admits (records.map CaptureFeedbackExportRecord.origin) studyAttestation = true
  assigned : ∀ record ∈ records, record.partition ≠ .unassigned

/-- The body of the data set of records. -/
def bodyOf (records : List CaptureFeedbackExportRecord) (exportNonce : List UInt8)
    (evidenceSource : CaptureFeedbackEvidenceSource)
    (studyAttestation : Option CaptureFeedbackStudyAttestation) : FeedbackDatasetBody where
  evidenceSource := evidenceSource
  studyAttestation := studyAttestation
  exportId := exportIdOf exportNonce
  examples := sortBy (fun example_ => example_.exampleId.text) (records.map (exampleOf (exportIdOf exportNonce)))

theorem mapM_verifiedExportRecord {checked : List CaptureFeedbackExportRecord}
    (h : records.mapM verifiedExportRecord = .ok checked) :
    checked = records ∧ ∀ record ∈ records, verifiedExportRecord record = .ok record := by
  have hself : ∀ record other, verifiedExportRecord record = .ok other → other = record := by
    intro record other hverified
    unfold verifiedExportRecord at hverified
    dsimp only at hverified
    rw [raiseIf_bind_eq_ok, pure_eq_ok] at hverified
    exact hverified.2.symm
  have hall := mapM_eq_ok.mp h
  clear h
  induction hall with
  | nil => exact ⟨rfl, nofun⟩
  | cons hrecord hrest ih =>
    obtain ⟨rfl, hverified⟩ := ih
    obtain rfl := hself _ _ hrecord
    exact ⟨rfl, List.forall_mem_cons.mpr ⟨hrecord, hverified⟩⟩

omit [FeedbackHashing] in
theorem sortBy_dedup_iff (texts : List String) (hsorted : texts.Pairwise (· ≤ ·)) :
    texts = sortBy id texts.dedup ↔ texts.Nodup := by
  constructor
  · intro heq
    rw [heq]
    exact (perm_sortBy id _).nodup_iff.mpr (List.nodup_dedup texts)
  · intro hnodup
    rw [hnodup.dedup]
    exact (hsorted.insertionSort_eq).symm

theorem texts_bodyOf_sorted : ((bodyOf records exportNonce evidenceSource studyAttestation).examples.map
    fun example_ => example_.exampleId.text).Pairwise (· ≤ ·) :=
  List.pairwise_map.mpr (pairwise_sortBy _ _)

theorem perm_bodyOf : (bodyOf records exportNonce evidenceSource studyAttestation).examples.Perm
    (records.map (exampleOf (exportIdOf exportNonce))) :=
  perm_sortBy _ _

theorem texts_bodyOf_nodup : ((bodyOf records exportNonce evidenceSource studyAttestation).examples.map
      fun example_ => example_.exampleId.text).Nodup
    ↔ (records.map fun record => exampleIdOf (exportIdOf exportNonce) record.sessionId).Nodup := by
  rw [(perm_bodyOf.map _).nodup_iff, List.map_map]
  have htexts : records.map ((fun example_ : CaptureFeedbackDatasetExample => example_.exampleId.text)
        ∘ exampleOf (exportIdOf exportNonce))
      = (records.map fun record => exampleIdOf (exportIdOf exportNonce) record.sessionId).map Sha256Digest.text := by
    rw [List.map_map]
    rfl
  rw [htexts]
  refine List.nodup_map_iff fun digest digest' h => ?_
  cases digest
  cases digest'
  cases h
  rfl

omit [FeedbackHashing] in
theorem CaptureFeedbackDatasetFields.check_eq_ok [Hashing] {fields : CaptureFeedbackDatasetFields} :
    fields.check = .ok () ↔ fields.examples.length ≤ maxCaptureFeedbackExamples
      ∧ (fields.examples.map fun example_ => example_.exampleId.text)
        = sortBy id (fields.examples.map fun example_ => example_.exampleId.text).dedup
      ∧ (∀ example_ ∈ fields.examples, example_.partition ≠ .unassigned)
      ∧ (fields.evidenceSource = .declaredE01 ↔ fields.studyAttestation.isSome = true)
      ∧ datasetBodyDigest fields.toFeedbackDatasetBody = fields.datasetDigest := by
  unfold CaptureFeedbackDatasetFields.check
  dsimp only
  rw [constrain_bind_eq_ok, refuse_eq_ok, not_or, not_or, not_or, not_not, not_not, not_not]
  simp only [not_exists, not_and, eq_iff_iff]

/-- The validator of a data set takes what is built from accepted records with distinct pseudonyms. -/
theorem check_sealed : (bodyOf records exportNonce evidenceSource studyAttestation).sealed.check = .ok ()
    ↔ records.length ≤ maxCaptureFeedbackExamples
      ∧ (records.map fun record => exampleIdOf (exportIdOf exportNonce) record.sessionId).Nodup
      ∧ (∀ record ∈ records, record.partition ≠ .unassigned)
      ∧ (evidenceSource = .declaredE01 ↔ studyAttestation.isSome = true) := by
  have hlength : (bodyOf records exportNonce evidenceSource studyAttestation).examples.length = records.length := by
    rw [perm_bodyOf.length_eq, List.length_map]
  have hassigned : (∀ example_ ∈ (bodyOf records exportNonce evidenceSource studyAttestation).examples,
      example_.partition ≠ .unassigned) ↔ ∀ record ∈ records, record.partition ≠ .unassigned := by
    simp only [perm_bodyOf.mem_iff, List.forall_mem_map]
    rfl
  rw [CaptureFeedbackDatasetFields.check_eq_ok]
  show (bodyOf records exportNonce evidenceSource studyAttestation).examples.length ≤ _ ∧ _ ∧ _ ∧ _ ∧ _ ↔ _
  rw [hlength]
  refine and_congr_right fun _ => and_congr ?_ (and_congr hassigned ⟨fun h => h.1, fun h => ⟨h, rfl⟩⟩)
  exact (sortBy_dedup_iff _ texts_bodyOf_sorted).trans texts_bodyOf_nodup

omit [FeedbackHashing] in
theorem declaredE01_iff_of_admits {origins : List CaptureFeedbackRecordOrigin}
    (h : evidenceSource.admits origins studyAttestation = true) :
    evidenceSource = .declaredE01 ↔ studyAttestation.isSome = true := by
  unfold CaptureFeedbackEvidenceSource.admits at h
  cases evidenceSource <;> cases studyAttestation <;> simp_all

/-- A data set is built exactly from accepted records whose pseudonyms are distinct. -/
theorem build_eq_ok : buildCaptureFeedbackDataset records exportNonce evidenceSource optIn studyAttestation = .ok dataset
    ↔ AcceptedRecords records evidenceSource studyAttestation ∧ exportNonce.length = 32 ∧ optIn = true
      ∧ (records.map fun record => exampleIdOf (exportIdOf exportNonce) record.sessionId).Nodup
      ∧ dataset.toCaptureFeedbackDatasetFields = (bodyOf records exportNonce evidenceSource studyAttestation).sealed := by
  have hload : CaptureFeedbackDataset.load (bodyOf records exportNonce evidenceSource studyAttestation).sealed.document
      = some dataset ↔ (bodyOf records exportNonce evidenceSource studyAttestation).sealed.check = .ok ()
        ∧ dataset.toCaptureFeedbackDatasetFields
          = (bodyOf records exportNonce evidenceSource studyAttestation).sealed := by
    rw [load_document]
    constructor
    · intro h
      cases hvalidate : validate CaptureFeedbackDatasetFields.check CaptureFeedbackDataset.mk
          (bodyOf records exportNonce evidenceSource studyAttestation).sealed with
      | error e =>
        rw [hvalidate] at h
        cases h
      | ok built =>
        rw [hvalidate] at h
        cases h
        obtain ⟨hcheck, rfl⟩ := validate_eq_ok.mp hvalidate
        exact ⟨hcheck, rfl⟩
    · rintro ⟨hcheck, hfields⟩
      rw [validate_self hcheck]
      obtain ⟨fields, hvalid⟩ := dataset
      cases hfields
      rfl
  unfold buildCaptureFeedbackDataset
  rw [raiseIf_bind_eq_ok, not_or, not_or, not_not]
  constructor
  · rintro ⟨⟨-, hnonce, hopt⟩, hrest⟩
    obtain ⟨checked, hchecked, hbuild⟩ := bind_eq_ok.mp hrest
    obtain ⟨rfl, hverified⟩ := mapM_verifiedExportRecord hchecked
    clear hrest
    dsimp only at hbuild
    rw [raiseIf_bind_eq_ok, raiseIf_bind_eq_ok, not_not, expect_eq_ok] at hbuild
    obtain ⟨hdedup, hadmits, hloaded⟩ := hbuild
    obtain ⟨hcheck, hfields⟩ := hload.mp hloaded
    obtain ⟨hlength', hnodup, hassigned, -⟩ := check_sealed.mp hcheck
    refine ⟨⟨hlength', hverified, ?_, by simpa using hadmits, hassigned⟩, hnonce, by simpa using hopt, hnodup, hfields⟩
    exact List.dedup_eq_self.mp ((List.dedup_sublist _).eq_of_length hdedup)
  · rintro ⟨haccepted, hnonce, hopt, hnodup, hfields⟩
    refine ⟨⟨Nat.not_lt_of_le haccepted.length, hnonce, by simp [hopt]⟩, ?_⟩
    have hchecked : records.mapM verifiedExportRecord = .ok records := by
      rw [mapM_eq_ok, List.forall₂_same]
      exact haccepted.verified
    rw [bind_eq_ok]
    refine ⟨records, hchecked, ?_⟩
    dsimp only
    rw [raiseIf_bind_eq_ok, raiseIf_bind_eq_ok, not_not, expect_eq_ok]
    refine ⟨by rw [haccepted.nodup.dedup], by simp [haccepted.admits], hload.mpr ⟨?_, hfields⟩⟩
    exact check_sealed.mpr ⟨haccepted.length, hnodup, haccepted.assigned, declaredE01_iff_of_admits haccepted.admits⟩

end

end SalienceGate
