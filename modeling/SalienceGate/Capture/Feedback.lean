import SalienceGate.Capture.Intake
import SalienceGate.Capture.Schema
import SalienceGate.Lib.Grouping
import Mathlib.Data.Prod.Lex
import Mathlib.Data.String.Basic

/-!
# Feedback exports

An export is a data set of labelled sessions. The records that go into it are sealed by the installation
key, and name sessions and projects by their local digests. In the data set these are replaced by
pseudonyms, which the key derives for the one export: its examples are in the order of their pseudonyms,
and nothing of the local names remains.
-/

namespace SalienceGate

open Checked Grouping Json

/-- `CaptureFeedbackError`: "capture feedback data is invalid". -/
inductive CaptureFeedbackError where
  | invalid
deriving DecidableEq

/-! ## Enumerations -/

/-- The text of a profile. -/
def CaptureProfile.value : CaptureProfile → String
  | .codexHooks => "codex-hooks/v1"
  | .claudeCodeHooks => "claude-code-hooks/v1"
  | .opencodePlugin => "opencode-plugin/v1"
  | .piExtension => "pi-extension/v1"

/-- `CaptureFeedbackLabel`. -/
inductive CaptureFeedbackLabel where
  | memoryNeeded | notMemoryNeeded | uncertain
deriving DecidableEq

/-- The text of a label. -/
def CaptureFeedbackLabel.value : CaptureFeedbackLabel → String
  | .memoryNeeded => "memory-needed"
  | .notMemoryNeeded => "not-memory-needed"
  | .uncertain => "uncertain"

/-- `CaptureFeedbackPrediction`. -/
inductive CaptureFeedbackPrediction where
  | memoryNeeded | notMemoryNeeded | abstain
deriving DecidableEq

/-- The text of a prediction. -/
def CaptureFeedbackPrediction.value : CaptureFeedbackPrediction → String
  | .memoryNeeded => "memory-needed"
  | .notMemoryNeeded => "not-memory-needed"
  | .abstain => "abstain"

/-- `CaptureFeedbackPartition`. -/
inductive CaptureFeedbackPartition where
  | development | calibration | finalTest | unassigned
deriving DecidableEq

/-- The text of a partition. -/
def CaptureFeedbackPartition.value : CaptureFeedbackPartition → String
  | .development => "development"
  | .calibration => "calibration"
  | .finalTest => "final_test"
  | .unassigned => "unassigned"

/-- `CaptureFeedbackEvidenceSource`. -/
inductive CaptureFeedbackEvidenceSource where
  | synthetic | localFeedback | declaredE01
deriving DecidableEq

/-- The text of an evidence source. -/
def CaptureFeedbackEvidenceSource.value : CaptureFeedbackEvidenceSource → String
  | .synthetic => "synthetic"
  | .localFeedback => "local_feedback"
  | .declaredE01 => "declared_e01_external_review"

/-- `CaptureFeedbackRecordOrigin`. -/
inductive CaptureFeedbackRecordOrigin where
  | syntheticFixture | localCaptureReport
deriving DecidableEq

/-- The text of an origin. -/
def CaptureFeedbackRecordOrigin.value : CaptureFeedbackRecordOrigin → String
  | .syntheticFixture => "synthetic_fixture"
  | .localCaptureReport => "local_capture_report"

/-- `CaptureFeedbackBlindingStatus`. -/
inductive CaptureFeedbackBlindingStatus where
  | externallyAttested | notBlinded | unknown
deriving DecidableEq

/-- The text of a blinding status. -/
def CaptureFeedbackBlindingStatus.value : CaptureFeedbackBlindingStatus → String
  | .externallyAttested => "externally_attested"
  | .notBlinded => "not_blinded"
  | .unknown => "unknown"

/-- The JSON form of a profile. -/
def CaptureProfile.codec : Codec CaptureProfile :=
  .enum [.codexHooks, .claudeCodeHooks, .opencodePlugin, .piExtension] CaptureProfile.value
    fun a => by cases a <;> decide

/-- The JSON form of a label. -/
def CaptureFeedbackLabel.codec : Codec CaptureFeedbackLabel :=
  .enum [.memoryNeeded, .notMemoryNeeded, .uncertain] CaptureFeedbackLabel.value fun a => by cases a <;> decide

/-- The JSON form of a prediction. -/
def CaptureFeedbackPrediction.codec : Codec CaptureFeedbackPrediction :=
  .enum [.memoryNeeded, .notMemoryNeeded, .abstain] CaptureFeedbackPrediction.value fun a => by cases a <;> decide

/-- The JSON form of a partition. -/
def CaptureFeedbackPartition.codec : Codec CaptureFeedbackPartition :=
  .enum [.development, .calibration, .finalTest, .unassigned] CaptureFeedbackPartition.value
    fun a => by cases a <;> decide

/-- The JSON form of an evidence source. -/
def CaptureFeedbackEvidenceSource.codec : Codec CaptureFeedbackEvidenceSource :=
  .enum [.synthetic, .localFeedback, .declaredE01] CaptureFeedbackEvidenceSource.value
    fun a => by cases a <;> decide

/-- The JSON form of a blinding status. -/
def CaptureFeedbackBlindingStatus.codec : Codec CaptureFeedbackBlindingStatus :=
  .enum [.externallyAttested, .notBlinded, .unknown] CaptureFeedbackBlindingStatus.value
    fun a => by cases a <;> decide

/-! ## Records -/

/-- The hash functions behind an export. -/
class FeedbackHashing extends Hashing where
  /-- `length_prefixed_sha256` of bytes, under a domain. -/
  bytesSha256 (domain : String) (bytes : List UInt8) : Sha256Digest
  /-- `InstallationKey._hmac_sha256` of the canonical JSON bytes of a value, under a domain. -/
  hmacSha256 (domain : String) (message : Json) : Sha256Digest

/-- `MAX_CAPTURE_FEEDBACK_EXAMPLES`. -/
def maxCaptureFeedbackExamples : ℕ := 1000

/-- `CAPTURE_FEEDBACK_EVALUATOR_VERSION`. -/
def captureFeedbackEvaluatorVersion : String := "capture-headline-three-way/v1"

/-- `CaptureFeedbackStudyAttestation`. -/
structure CaptureFeedbackStudyAttestation where
  consentProtocolDigest : Sha256Digest
  preregistrationDigest : Sha256Digest
  temporalSplitDigest : Sha256Digest
  evaluatorFreezeDigest : Sha256Digest
  labelFreezeDigest : Sha256Digest
  reportSelectionPolicyDigest : Sha256Digest
  noTestTuningDigest : Sha256Digest
  blindingStatus : CaptureFeedbackBlindingStatus
deriving DecidableEq

/-- The JSON form of an attestation. -/
def CaptureFeedbackStudyAttestation.codec : Codec CaptureFeedbackStudyAttestation where
  dump attestation := .object [
    ("blinding_status", CaptureFeedbackBlindingStatus.codec.dump attestation.blindingStatus),
    ("consent_protocol_digest", Sha256Digest.codec.dump attestation.consentProtocolDigest),
    ("evaluator_freeze_digest", Sha256Digest.codec.dump attestation.evaluatorFreezeDigest),
    ("label_freeze_digest", Sha256Digest.codec.dump attestation.labelFreezeDigest),
    ("no_test_tuning_digest", Sha256Digest.codec.dump attestation.noTestTuningDigest),
    ("preregistration_digest", Sha256Digest.codec.dump attestation.preregistrationDigest),
    ("report_selection_policy_digest", Sha256Digest.codec.dump attestation.reportSelectionPolicyDigest),
    ("schema_version", .str "capture-feedback-study-attestation/v1"),
    ("temporal_split_digest", Sha256Digest.codec.dump attestation.temporalSplitDigest)]
  load
    | .object items => do
      guard (onlyMembers items ["blinding_status", "consent_protocol_digest", "evaluator_freeze_digest",
        "label_freeze_digest", "no_test_tuning_digest", "preregistration_digest",
        "report_selection_policy_digest", "schema_version", "temporal_split_digest"])
      guard ((← defaulted items "schema_version" Codec.str.load "capture-feedback-study-attestation/v1")
        = "capture-feedback-study-attestation/v1")
      let consentProtocolDigest ← required items "consent_protocol_digest" Sha256Digest.codec.load
      let preregistrationDigest ← required items "preregistration_digest" Sha256Digest.codec.load
      let temporalSplitDigest ← required items "temporal_split_digest" Sha256Digest.codec.load
      let evaluatorFreezeDigest ← required items "evaluator_freeze_digest" Sha256Digest.codec.load
      let labelFreezeDigest ← required items "label_freeze_digest" Sha256Digest.codec.load
      let reportSelectionPolicyDigest ← required items "report_selection_policy_digest" Sha256Digest.codec.load
      let noTestTuningDigest ← required items "no_test_tuning_digest" Sha256Digest.codec.load
      let blindingStatus ← required items "blinding_status" CaptureFeedbackBlindingStatus.codec.load
      some ⟨consentProtocolDigest, preregistrationDigest, temporalSplitDigest, evaluatorFreezeDigest,
        labelFreezeDigest, reportSelectionPolicyDigest, noTestTuningDigest, blindingStatus⟩
    | _ => none
  load_dump attestation := by simp [onlyMembers, Codec.str]
  dump_ne_null _ := nofun
  canonical_dump _ := by simp

/-- `CaptureFeedbackExportRecord`. -/
structure CaptureFeedbackExportRecord where
  projectDigest : Sha256Digest
  profileId : CaptureProfile
  sessionId : Sha256Digest
  label : CaptureFeedbackLabel
  prediction : CaptureFeedbackPrediction
  partition : CaptureFeedbackPartition
  origin : CaptureFeedbackRecordOrigin
  sourceReportDigest : Sha256Digest
  recordTag : Sha256Digest
deriving DecidableEq

/-- `_export_record_material`. -/
def exportRecordMaterial (record : CaptureFeedbackExportRecord) : Json :=
  .object [
    ("evaluator_version", .str captureFeedbackEvaluatorVersion),
    ("label", .str record.label.value),
    ("origin", .str record.origin.value),
    ("partition", .str record.partition.value),
    ("prediction", .str record.prediction.value),
    ("profile_id", .str record.profileId.value),
    ("project_digest", .str record.projectDigest.text),
    ("schema_version", .str "capture-feedback-export-record/v1"),
    ("session_id", .str record.sessionId.text),
    ("source_report_digest", .str record.sourceReportDigest.text)]

/-- `_verified_export_record`: the record is as the installation sealed it. -/
def verifiedExportRecord [FeedbackHashing] (record : CaptureFeedbackExportRecord) :
    Except CaptureFeedbackError CaptureFeedbackExportRecord := do
  let expected := FeedbackHashing.hmacSha256 "saliencegate:capture:feedback-export-record:v1"
    (exportRecordMaterial record)
  raiseIf (record.recordTag ≠ expected) .invalid
  pure record

/-! ## Data sets -/

/-- `CaptureFeedbackDatasetExample`. -/
structure CaptureFeedbackDatasetExample where
  exampleId : Sha256Digest
  projectId : Sha256Digest
  profileId : CaptureProfile
  label : CaptureFeedbackLabel
  prediction : CaptureFeedbackPrediction
  partition : CaptureFeedbackPartition
  reportBinding : Sha256Digest
deriving DecidableEq

/-- The JSON form of an example. -/
def CaptureFeedbackDatasetExample.codec : Codec CaptureFeedbackDatasetExample where
  dump example_ := .object [
    ("example_id", Sha256Digest.codec.dump example_.exampleId),
    ("label", CaptureFeedbackLabel.codec.dump example_.label),
    ("partition", CaptureFeedbackPartition.codec.dump example_.partition),
    ("prediction", CaptureFeedbackPrediction.codec.dump example_.prediction),
    ("profile_id", CaptureProfile.codec.dump example_.profileId),
    ("project_id", Sha256Digest.codec.dump example_.projectId),
    ("report_binding", Sha256Digest.codec.dump example_.reportBinding)]
  load
    | .object items => do
      guard (onlyMembers items ["example_id", "label", "partition", "prediction", "profile_id", "project_id",
        "report_binding"])
      let exampleId ← required items "example_id" Sha256Digest.codec.load
      let projectId ← required items "project_id" Sha256Digest.codec.load
      let profileId ← required items "profile_id" CaptureProfile.codec.load
      let label ← required items "label" CaptureFeedbackLabel.codec.load
      let prediction ← required items "prediction" CaptureFeedbackPrediction.codec.load
      let partition ← required items "partition" CaptureFeedbackPartition.codec.load
      let reportBinding ← required items "report_binding" Sha256Digest.codec.load
      some ⟨exampleId, projectId, profileId, label, prediction, partition, reportBinding⟩
    | _ => none
  load_dump example_ := by simp [onlyMembers]
  dump_ne_null _ := nofun
  canonical_dump _ := by simp

/-- The fields of a data set but its digest and its tag. -/
structure FeedbackDatasetBody where
  evidenceSource : CaptureFeedbackEvidenceSource
  studyAttestation : Option CaptureFeedbackStudyAttestation
  exportId : Sha256Digest
  examples : List CaptureFeedbackDatasetExample
deriving DecidableEq

/-- The members of a data set that say what it is about. -/
def FeedbackDatasetBody.members (body : FeedbackDatasetBody) : List (String × Json) := [
  ("direct_identifiers_included", .bool false),
  ("evidence_source", CaptureFeedbackEvidenceSource.codec.dump body.evidenceSource),
  ("examples", (Codec.list CaptureFeedbackDatasetExample.codec).dump body.examples),
  ("explicit_opt_in", .bool true),
  ("export_id", Sha256Digest.codec.dump body.exportId),
  ("identifier_scope", .str "export_specific_hmac"),
  ("raw_content_included", .bool false),
  ("schema_version", .str "capture-feedback-dataset/v1"),
  ("study_attestation", CaptureFeedbackStudyAttestation.codec.dumpNullable body.studyAttestation)]

/-- `_dataset_body_digest`. -/
def datasetBodyDigest [Hashing] (body : FeedbackDatasetBody) : Sha256Digest :=
  Hashing.lengthPrefixedSha256 "saliencegate:capture:feedback-dataset:v1" [.canonicalJson (.object body.members)]

/-- `_dataset_tag_material`. -/
def datasetTagMaterial (body : FeedbackDatasetBody) (datasetDigest : Sha256Digest) : Json :=
  .object (("dataset_digest", Sha256Digest.codec.dump datasetDigest) :: body.members)

/-- The fields of a data set. -/
structure CaptureFeedbackDatasetFields extends FeedbackDatasetBody where
  datasetDigest : Sha256Digest
  datasetTag : Sha256Digest
deriving DecidableEq

/-- `dataset_is_canonical_and_bound`, after the field constraints. -/
def CaptureFeedbackDatasetFields.check [Hashing] (dataset : CaptureFeedbackDatasetFields) : Check := do
  constrain (dataset.examples.length ≤ maxCaptureFeedbackExamples) "examples" "too_long"
  let identities := dataset.examples.map fun example_ => example_.exampleId.text
  refuse (identities ≠ sortBy id identities.dedup
    ∨ (∃ example_ ∈ dataset.examples, example_.partition = .unassigned)
    ∨ (dataset.evidenceSource = .declaredE01) ≠ (dataset.studyAttestation.isSome = true)
    ∨ datasetBodyDigest dataset.toFeedbackDatasetBody ≠ dataset.datasetDigest) "feedback dataset is inconsistent"

/-- `CaptureFeedbackDataset`. -/
structure CaptureFeedbackDataset [Hashing] extends CaptureFeedbackDatasetFields where
  valid : toCaptureFeedbackDatasetFields.check = .ok ()
deriving DecidableEq

/-- The document of a data set. -/
def CaptureFeedbackDatasetFields.document (dataset : CaptureFeedbackDatasetFields) : Json :=
  .object (("dataset_digest", Sha256Digest.codec.dump dataset.datasetDigest)
    :: ("dataset_tag", Sha256Digest.codec.dump dataset.datasetTag) :: dataset.members)

/-- The names of the members of a data set. -/
def datasetMembers : List String :=
  ["dataset_digest", "dataset_tag", "direct_identifiers_included", "evidence_source", "examples", "explicit_opt_in",
    "export_id", "identifier_scope", "raw_content_included", "schema_version", "study_attestation"]

/-- `CaptureFeedbackDataset.model_validate_json`. -/
def CaptureFeedbackDataset.load [Hashing] : Json → Option CaptureFeedbackDataset
  | .object items => do
    guard (onlyMembers items datasetMembers)
    guard ((← defaulted items "schema_version" Codec.str.load "capture-feedback-dataset/v1")
      = "capture-feedback-dataset/v1")
    let evidenceSource ← required items "evidence_source" CaptureFeedbackEvidenceSource.codec.load
    let studyAttestation ← required items "study_attestation" CaptureFeedbackStudyAttestation.codec.loadNullable
    guard ((← defaulted items "explicit_opt_in" Codec.bool.load true) = true)
    guard ((← defaulted items "raw_content_included" Codec.bool.load false) = false)
    guard ((← defaulted items "direct_identifiers_included" Codec.bool.load false) = false)
    guard ((← defaulted items "identifier_scope" Codec.str.load "export_specific_hmac") = "export_specific_hmac")
    let exportId ← required items "export_id" Sha256Digest.codec.load
    let examples ← required items "examples" (Codec.list CaptureFeedbackDatasetExample.codec).load
    let datasetDigest ← required items "dataset_digest" Sha256Digest.codec.load
    let datasetTag ← required items "dataset_tag" Sha256Digest.codec.load
    (Checked.validate CaptureFeedbackDatasetFields.check CaptureFeedbackDataset.mk
      { evidenceSource, studyAttestation, exportId, examples, datasetDigest, datasetTag }).toOption
  | _ => none

/-! ## Building -/

/-- What an evidence source admits: records of its own origin, and an attestation if it declares one. -/
def CaptureFeedbackEvidenceSource.admits (evidenceSource : CaptureFeedbackEvidenceSource)
    (origins : List CaptureFeedbackRecordOrigin) (studyAttestation : Option CaptureFeedbackStudyAttestation) : Bool :=
  match evidenceSource with
  | .synthetic => (origins.all fun origin => origin = .syntheticFixture) && studyAttestation.isNone
  | .localFeedback => (origins.all fun origin => origin = .localCaptureReport) && studyAttestation.isNone
  | .declaredE01 => (origins.all fun origin => origin = .localCaptureReport) && studyAttestation.isSome

section

variable [FeedbackHashing]

/-- The pseudonym of an export. -/
def exportIdOf (exportNonce : List UInt8) : Sha256Digest :=
  FeedbackHashing.bytesSha256 "saliencegate:capture:feedback-export:v1" exportNonce

/-- The pseudonym of a session in an export. -/
def exampleIdOf (exportId sessionId : Sha256Digest) : Sha256Digest :=
  FeedbackHashing.hmacSha256 "saliencegate:capture:feedback-example:v1" (.object [
    ("export_id", .str exportId.text),
    ("schema_version", .str "capture-feedback-example-id/v1"),
    ("session_id", .str sessionId.text)])

/-- The pseudonym of a project in an export. -/
def projectIdOf (exportId projectDigest : Sha256Digest) : Sha256Digest :=
  FeedbackHashing.hmacSha256 "saliencegate:capture:feedback-project:v1" (.object [
    ("export_id", .str exportId.text),
    ("project_digest", .str projectDigest.text),
    ("schema_version", .str "capture-feedback-project-id/v1")])

/-- What binds an example to its report, in an export. -/
def reportBindingOf (exportId sourceReportDigest : Sha256Digest) : Sha256Digest :=
  FeedbackHashing.hmacSha256 "saliencegate:capture:feedback-report-binding:v1" (.object [
    ("evaluator_version", .str captureFeedbackEvaluatorVersion),
    ("export_id", .str exportId.text),
    ("report_digest", .str sourceReportDigest.text),
    ("schema_version", .str "capture-feedback-report-binding/v1")])

/-- The example of a record in an export. -/
def exampleOf (exportId : Sha256Digest) (record : CaptureFeedbackExportRecord) : CaptureFeedbackDatasetExample where
  exampleId := exampleIdOf exportId record.sessionId
  projectId := projectIdOf exportId record.projectDigest
  profileId := record.profileId
  label := record.label
  prediction := record.prediction
  partition := record.partition
  reportBinding := reportBindingOf exportId record.sourceReportDigest

/-- The fields of a data set: its digest is over its body, and its tag over both. -/
def FeedbackDatasetBody.sealed (body : FeedbackDatasetBody) : CaptureFeedbackDatasetFields where
  toFeedbackDatasetBody := body
  datasetDigest := datasetBodyDigest body
  datasetTag := FeedbackHashing.hmacSha256 "saliencegate:capture:feedback-dataset-tag:v1"
    (datasetTagMaterial body (datasetBodyDigest body))

/-- `build_capture_feedback_dataset`. -/
def buildCaptureFeedbackDataset (records : List CaptureFeedbackExportRecord) (exportNonce : List UInt8)
    (evidenceSource : CaptureFeedbackEvidenceSource) (optIn : Bool)
    (studyAttestation : Option CaptureFeedbackStudyAttestation) :
    Except CaptureFeedbackError CaptureFeedbackDataset := do
  raiseIf (maxCaptureFeedbackExamples < records.length ∨ exportNonce.length ≠ 32 ∨ optIn = false) .invalid
  let checked ← records.mapM verifiedExportRecord
  let internalSessions := checked.map CaptureFeedbackExportRecord.sessionId
  raiseIf (internalSessions.dedup.length ≠ internalSessions.length) .invalid
  let origins := checked.map CaptureFeedbackExportRecord.origin
  raiseIf (evidenceSource.admits origins studyAttestation = false) .invalid
  let exportId := exportIdOf exportNonce
  let examples := sortBy (fun example_ => example_.exampleId.text) (checked.map (exampleOf exportId))
  let body : FeedbackDatasetBody := { evidenceSource, studyAttestation, exportId, examples }
  expect (CaptureFeedbackDataset.load body.sealed.document) .invalid

end

/-! ## Encoding -/

/-- `_FEEDBACK_JSON_LIMITS`. -/
def feedbackJsonLimits : CaptureJSONLimits where
  maxBytes := 4194304
  maxDepth := 12
  maxItems := 50000
  maxStringBytes := 1048576

section

variable [FeedbackHashing] [FloatText]

/-- `_decode_dataset`, of the document that bytes are the canonical text of. -/
def decodeDataset (document : Json) : Option CaptureFeedbackDataset := do
  guard (readBoundedJson document feedbackJsonLimits)
  CaptureFeedbackDataset.load document

/-- `encode_capture_feedback_dataset`. -/
def encodeCaptureFeedbackDataset (dataset : CaptureFeedbackDataset) : Except CaptureFeedbackError Json := do
  let candidate := dataset.document
  raiseIf (decodeDataset candidate ≠ some dataset) .invalid
  pure candidate

/-- `_verified_dataset`. -/
def verifiedDataset (dataset : CaptureFeedbackDataset) : Except CaptureFeedbackError CaptureFeedbackDataset := do
  let expected := FeedbackHashing.hmacSha256 "saliencegate:capture:feedback-dataset-tag:v1"
    (datasetTagMaterial dataset.toFeedbackDatasetBody dataset.datasetDigest)
  raiseIf (dataset.datasetTag ≠ expected) .invalid
  pure dataset

/-- `decode_capture_feedback_dataset`. -/
def decodeCaptureFeedbackDataset (document : Json) : Except CaptureFeedbackError CaptureFeedbackDataset := do
  verifiedDataset (← expect (decodeDataset document) .invalid)

end

end SalienceGate
