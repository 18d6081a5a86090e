import SalienceGate.Capture.BoundedReader
import SalienceGate.Capture.FeedbackDocuments
import SalienceGate.Lib.IsoDatetime

/-!
# Capture intakes and events as records

The nine kinds of intakes share the fields of `_CaptureIntakeBase` and add their own. A record is fields that pass the
validators of its model: each authority is unavailable exactly when what it is about is absent, the manifest digest is
the installed one of the profile, an outcome carries only the evidence its authority allows, and an event has a
predecessor unless it is the first. What the model dumps is read back as the same fields (`load_modelDump`).
-/

namespace SalienceGate

open Checked Json

/-! ## Enumerations -/

/-- `timestamp_authority`. -/
inductive CaptureTimestampAuthority where
  | localObservation | unavailable
deriving DecidableEq

/-- `sequence_authority`. -/
inductive CaptureSequenceAuthority where
  | producerExact | unavailable
deriving DecidableEq

/-- `outcome_status`. -/
inductive CaptureOutcomeStatus where
  | succeeded | failed
deriving DecidableEq

/-- `outcome_authority`. -/
inductive CaptureOutcomeAuthority where
  | producerClaimedStructured | unavailable
deriving DecidableEq

/-- `kind`, which tells the models of the union apart. -/
inductive CaptureIntakeKind where
  | sessionStarted | actionStarted | actionFinished | permissionDenied | subagentStarted | subagentFinished
  | turnFinished | controllerFailed | sessionFinished
deriving DecidableEq

/-- The text of a timestamp authority. -/
def CaptureTimestampAuthority.value : CaptureTimestampAuthority → String
  | .localObservation => "local_observation"
  | .unavailable => "unavailable"

/-- The text of a sequence authority. -/
def CaptureSequenceAuthority.value : CaptureSequenceAuthority → String
  | .producerExact => "producer_exact"
  | .unavailable => "unavailable"

/-- The text of a disposition. -/
def CaptureDisposition.value : CaptureDisposition → String
  | .captured => "captured"
  | .coverageBoundary => "coverage_boundary"
  | .degraded => "degraded"

/-- The text of a tool class. -/
def CaptureToolClass.value : CaptureToolClass → String
  | .shell => "shell"
  | .fileRead => "file_read"
  | .fileWrite => "file_write"
  | .search => "search"
  | .network => "network"
  | .subagent => "subagent"
  | .other => "other"

/-- The text of an identity authority. -/
def CaptureIdentityAuthority.value : CaptureIdentityAuthority → String
  | .exact => "exact"
  | .coarse => "coarse"
  | .unavailable => "unavailable"

/-- The text of an outcome status. -/
def CaptureOutcomeStatus.value : CaptureOutcomeStatus → String
  | .succeeded => "succeeded"
  | .failed => "failed"

/-- The text of an outcome authority. -/
def CaptureOutcomeAuthority.value : CaptureOutcomeAuthority → String
  | .producerClaimedStructured => "producer_claimed_structured"
  | .unavailable => "unavailable"

/-- The text of the error of an action. -/
def CaptureActionError.value : CaptureActionError → String
  | .toolError => "tool_error"
  | .permissionDenied => "permission_denied"
  | .interrupted => "interrupted"
  | .timeout => "timeout"
  | .providerError => "provider_error"

/-- The text of the error of a controller. -/
def CaptureControllerError.value : CaptureControllerError → String
  | .providerCallbackFailed => "provider_callback_failed"
  | .invalidTransition => "invalid_transition"
  | .spawnFailed => "spawn_failed"
  | .timeout => "timeout"
  | .overflow => "overflow"
  | .gapDetected => "gap_detected"

/-- The text of a kind. -/
def CaptureIntakeKind.value : CaptureIntakeKind → String
  | .sessionStarted => "session_started"
  | .actionStarted => "action_started"
  | .actionFinished => "action_finished"
  | .permissionDenied => "permission_denied"
  | .subagentStarted => "subagent_started"
  | .subagentFinished => "subagent_finished"
  | .turnFinished => "turn_finished"
  | .controllerFailed => "controller_failed"
  | .sessionFinished => "session_finished"

/-- The JSON form of a timestamp authority. -/
def CaptureTimestampAuthority.codec : Codec CaptureTimestampAuthority :=
  .enum [.localObservation, .unavailable] CaptureTimestampAuthority.value fun a => by cases a <;> decide

/-- The JSON form of a sequence authority. -/
def CaptureSequenceAuthority.codec : Codec CaptureSequenceAuthority :=
  .enum [.producerExact, .unavailable] CaptureSequenceAuthority.value fun a => by cases a <;> decide

/-- The JSON form of a disposition. -/
def CaptureDisposition.codec : Codec CaptureDisposition :=
  .enum [.captured, .coverageBoundary, .degraded] CaptureDisposition.value fun a => by cases a <;> decide

/-- The JSON form of a tool class. -/
def CaptureToolClass.codec : Codec CaptureToolClass :=
  .enum [.shell, .fileRead, .fileWrite, .search, .network, .subagent, .other] CaptureToolClass.value
    fun a => by cases a <;> decide

/-- The JSON form of an identity authority. -/
def CaptureIdentityAuthority.codec : Codec CaptureIdentityAuthority :=
  .enum [.exact, .coarse, .unavailable] CaptureIdentityAuthority.value fun a => by cases a <;> decide

/-- The JSON form of an outcome status. -/
def CaptureOutcomeStatus.codec : Codec CaptureOutcomeStatus :=
  .enum [.succeeded, .failed] CaptureOutcomeStatus.value fun a => by cases a <;> decide

/-- The JSON form of an outcome authority. -/
def CaptureOutcomeAuthority.codec : Codec CaptureOutcomeAuthority :=
  .enum [.producerClaimedStructured, .unavailable] CaptureOutcomeAuthority.value fun a => by cases a <;> decide

/-- The JSON form of the error of an action. -/
def CaptureActionError.codec : Codec CaptureActionError :=
  .enum [.toolError, .permissionDenied, .interrupted, .timeout, .providerError] CaptureActionError.value
    fun a => by cases a <;> decide

/-- The JSON form of the error of a controller. -/
def CaptureControllerError.codec : Codec CaptureControllerError :=
  .enum [.providerCallbackFailed, .invalidTransition, .spawnFailed, .timeout, .overflow, .gapDetected]
    CaptureControllerError.value fun a => by cases a <;> decide

/-- The JSON form of a kind. -/
def CaptureIntakeKind.codec : Codec CaptureIntakeKind :=
  .enum [.sessionStarted, .actionStarted, .actionFinished, .permissionDenied, .subagentStarted, .subagentFinished,
    .turnFinished, .controllerFailed, .sessionFinished] CaptureIntakeKind.value fun a => by cases a <;> decide

/-! ## Fields -/

/-- The fields of `_CaptureIntakeBase`. -/
structure CaptureIntakeBase where
  adapterProfile : CaptureProfile
  capabilityManifestDigest : Sha256Digest
  connectionId : ComponentIdentifier
  sessionId : Sha256Digest
  producerEventDigest : Sha256Digest
  intakeTag : Sha256Digest
  occurredAt : Option Datetime
  timestampAuthority : CaptureTimestampAuthority
  producerSequence : Option ℤ
  sequenceAuthority : CaptureSequenceAuthority
  captureDisposition : CaptureDisposition
deriving DecidableEq

/-- The fields that each kind adds. -/
inductive CaptureIntakeDetail where
  | sessionStarted
  | actionStarted (callRef actionDigest workspaceDigest environmentDigest : Sha256Digest)
      (toolClass : CaptureToolClass) (identityAuthority : CaptureIdentityAuthority)
  | actionFinished (callRef : Sha256Digest) (outcomeStatus : Option CaptureOutcomeStatus)
      (outcomeAuthority : CaptureOutcomeAuthority) (exitStatus : Option ℤ) (errorCode : Option CaptureActionError)
      (failureSignature : Option Sha256Digest)
  | permissionDenied (callRef : Sha256Digest)
  | subagentStarted (subagentId : Sha256Digest)
  | subagentFinished (subagentId : Sha256Digest)
  | turnFinished (turnId : Sha256Digest)
  | controllerFailed (errorCode : CaptureControllerError) (failureSignature : Option Sha256Digest)
  | sessionFinished
deriving DecidableEq

/-- The fields of an intake. -/
structure CaptureIntakeFields extends CaptureIntakeBase where
  detail : CaptureIntakeDetail
deriving DecidableEq

/-- The fields of `CaptureEvent`. -/
structure CaptureEventFields where
  receiptOrdinal : ℤ
  previousEventTag : Option Sha256Digest
  eventTag : Sha256Digest
  intake : CaptureIntakeFields
deriving DecidableEq

/-! ## Validators -/

/-- `capture_capability_digest` of the installed manifest of a profile, or none where this raises. -/
class CaptureCapabilities where
  digest : CaptureProfile → Option Sha256Digest

/-- `Field(ge=..., le=...)` of an integer that may be absent. -/
def withinRange (low high : ℤ) (value : Option ℤ) : Bool := value.all fun n => low ≤ n && n ≤ high

section validators

variable [CaptureCapabilities]

/-- `_validate_profile_binding`. -/
def validateProfileBinding (adapterProfile : CaptureProfile) (manifestDigest : Sha256Digest) :
    Except CaptureSchemaError Unit :=
  raiseIf (CaptureCapabilities.digest adapterProfile ≠ some manifestDigest) .invalid

/-- `authority_is_consistent`. -/
def CaptureIntakeBase.authorityIsConsistent (base : CaptureIntakeBase) : Except CaptureSchemaError Unit := do
  raiseIf (base.occurredAt.isNone ≠ decide (base.timestampAuthority = .unavailable)) .invalid
  raiseIf (base.producerSequence.isNone ≠ decide (base.sequenceAuthority = .unavailable)) .invalid
  validateProfileBinding base.adapterProfile base.capabilityManifestDigest

/-- `outcome_is_consistent`. -/
def outcomeIsConsistent (outcomeStatus : Option CaptureOutcomeStatus) (outcomeAuthority : CaptureOutcomeAuthority)
    (exitStatus : Option ℤ) (errorCode : Option CaptureActionError) (failureSignature : Option Sha256Digest) :
    Except CaptureSchemaError Unit := do
  let detailPresent := exitStatus.isSome || errorCode.isSome || failureSignature.isSome
  if outcomeAuthority = .unavailable then
    raiseIf (outcomeStatus.isSome ∨ detailPresent) .invalid
  else
    raiseIf (outcomeStatus.isNone) .invalid
  raiseIf (outcomeStatus = some .succeeded
    ∧ (¬(exitStatus = none ∨ exitStatus = some 0) ∨ errorCode.isSome ∨ failureSignature.isSome)) .invalid

/-- The validators of the fields that a kind adds. -/
def CaptureIntakeDetail.check : CaptureIntakeDetail → Except CaptureSchemaError Unit
  | .actionFinished _ outcomeStatus outcomeAuthority exitStatus errorCode failureSignature => do
    raiseIf (¬withinRange (-2^31) (2^31 - 1) exitStatus) .invalid
    outcomeIsConsistent outcomeStatus outcomeAuthority exitStatus errorCode failureSignature
  | _ => .ok ()

/-- The validators of an intake. -/
def CaptureIntakeFields.check (fields : CaptureIntakeFields) : Except CaptureSchemaError Unit := do
  raiseIf (¬withinRange 0 (2^63 - 1) fields.producerSequence) .invalid
  fields.authorityIsConsistent
  fields.detail.check

/-- `chain_position_is_consistent`, after the validators of the fields. -/
def CaptureEventFields.check (fields : CaptureEventFields) : Except CaptureSchemaError Unit := do
  raiseIf (¬withinRange 1 (2^63 - 1) (some fields.receiptOrdinal)) .invalid
  fields.intake.check
  raiseIf (decide (fields.receiptOrdinal = 1) ≠ fields.previousEventTag.isNone) .invalid

/-- A validated `CaptureIntake`. -/
structure CaptureIntakeRecord extends CaptureIntakeFields where
  valid : toCaptureIntakeFields.check = .ok ()

/-- A validated `CaptureEvent`. -/
structure CaptureEventRecord extends CaptureEventFields where
  valid : toCaptureEventFields.check = .ok ()

/-- `validate_capture_intake`, of the fields of a model. -/
def validateCaptureIntake (fields : CaptureIntakeFields) : Except CaptureSchemaError CaptureIntakeRecord :=
  validate CaptureIntakeFields.check CaptureIntakeRecord.mk fields

/-- `validate_capture_event`, of the fields of a model. -/
def validateCaptureEvent (fields : CaptureEventFields) : Except CaptureSchemaError CaptureEventRecord :=
  validate CaptureEventFields.check CaptureEventRecord.mk fields

end validators

/-! ## What the models dump -/

/-- How the validators read an instant from JSON: they read the text that the models dump, and read it as the instant. -/
class DatetimeReading where
  parse : String → Option Datetime
  parse_isoText : ∀ t : Datetime, parse t.isoText = some t

/-- The kind of an intake. -/
def CaptureIntakeDetail.kind : CaptureIntakeDetail → CaptureIntakeKind
  | .sessionStarted => .sessionStarted
  | .actionStarted .. => .actionStarted
  | .actionFinished .. => .actionFinished
  | .permissionDenied _ => .permissionDenied
  | .subagentStarted _ => .subagentStarted
  | .subagentFinished _ => .subagentFinished
  | .turnFinished _ => .turnFinished
  | .controllerFailed .. => .controllerFailed
  | .sessionFinished => .sessionFinished

/-- The names of the fields that a kind adds. -/
def CaptureIntakeKind.names : CaptureIntakeKind → List String
  | .sessionStarted => []
  | .actionStarted =>
    ["call_ref", "action_digest", "workspace_digest", "environment_digest", "tool_class", "identity_authority"]
  | .actionFinished =>
    ["call_ref", "outcome_status", "outcome_authority", "exit_status", "error_code", "failure_signature"]
  | .permissionDenied => ["call_ref"]
  | .subagentStarted => ["subagent_id"]
  | .subagentFinished => ["subagent_id"]
  | .turnFinished => ["turn_id"]
  | .controllerFailed => ["error_code", "failure_signature"]
  | .sessionFinished => []

/-- The names of the fields of every intake. -/
def captureIntakeNames : List String :=
  ["schema_version", "adapter_profile", "capability_manifest_digest", "connection_id", "session_id",
    "producer_event_digest", "intake_tag", "occurred_at", "timestamp_authority", "producer_sequence",
    "sequence_authority", "capture_disposition", "kind"]

section documents

variable [DatetimeReading]

/-- The JSON form of an instant: its text. -/
def datetimeCodec : Codec Datetime where
  dump t := .str t.isoText
  load
    | .str s => DatetimeReading.parse s
    | _ => none
  load_dump := DatetimeReading.parse_isoText
  dump_ne_null _ := nofun
  canonical_dump _ := rfl

/-- The members of every intake but its kind, in the order of the fields. -/
def CaptureIntakeBase.members (base : CaptureIntakeBase) : List (String × Json) := [
  ("schema_version", .str "capture-intake/v1"),
  ("adapter_profile", CaptureProfile.codec.dump base.adapterProfile),
  ("capability_manifest_digest", Sha256Digest.codec.dump base.capabilityManifestDigest),
  ("connection_id", ComponentIdentifier.codec.dump base.connectionId),
  ("session_id", Sha256Digest.codec.dump base.sessionId),
  ("producer_event_digest", Sha256Digest.codec.dump base.producerEventDigest),
  ("intake_tag", Sha256Digest.codec.dump base.intakeTag),
  ("occurred_at", datetimeCodec.dumpNullable base.occurredAt),
  ("timestamp_authority", CaptureTimestampAuthority.codec.dump base.timestampAuthority),
  ("producer_sequence", Codec.int.dumpNullable base.producerSequence),
  ("sequence_authority", CaptureSequenceAuthority.codec.dump base.sequenceAuthority),
  ("capture_disposition", CaptureDisposition.codec.dump base.captureDisposition)]

omit [DatetimeReading] in
/-- The members that a kind adds, in the order of its fields. -/
def CaptureIntakeDetail.members : CaptureIntakeDetail → List (String × Json)
  | .sessionStarted => []
  | .actionStarted callRef actionDigest workspaceDigest environmentDigest toolClass identityAuthority => [
      ("call_ref", Sha256Digest.codec.dump callRef),
      ("action_digest", Sha256Digest.codec.dump actionDigest),
      ("workspace_digest", Sha256Digest.codec.dump workspaceDigest),
      ("environment_digest", Sha256Digest.codec.dump environmentDigest),
      ("tool_class", CaptureToolClass.codec.dump toolClass),
      ("identity_authority", CaptureIdentityAuthority.codec.dump identityAuthority)]
  | .actionFinished callRef outcomeStatus outcomeAuthority exitStatus errorCode failureSignature => [
      ("call_ref", Sha256Digest.codec.dump callRef),
      ("outcome_status", CaptureOutcomeStatus.codec.dumpNullable outcomeStatus),
      ("outcome_authority", CaptureOutcomeAuthority.codec.dump outcomeAuthority),
      ("exit_status", Codec.int.dumpNullable exitStatus),
      ("error_code", CaptureActionError.codec.dumpNullable errorCode),
      ("failure_signature", Sha256Digest.codec.dumpNullable failureSignature)]
  | .permissionDenied callRef => [("call_ref", Sha256Digest.codec.dump callRef)]
  | .subagentStarted subagentId => [("subagent_id", Sha256Digest.codec.dump subagentId)]
  | .subagentFinished subagentId => [("subagent_id", Sha256Digest.codec.dump subagentId)]
  | .turnFinished turnId => [("turn_id", Sha256Digest.codec.dump turnId)]
  | .controllerFailed errorCode failureSignature => [
      ("error_code", CaptureControllerError.codec.dump errorCode),
      ("failure_signature", Sha256Digest.codec.dumpNullable failureSignature)]
  | .sessionFinished => []

/-- `model_dump(mode="json")` of an intake, whose members `canonical_json` sorts. -/
def CaptureIntakeFields.modelDump (fields : CaptureIntakeFields) : Json :=
  .object (sortMembers (fields.toCaptureIntakeBase.members
    ++ ("kind", CaptureIntakeKind.codec.dump fields.detail.kind) :: fields.detail.members))

/-- `model_dump(mode="json")` of an event, whose members `canonical_json` sorts. -/
def CaptureEventFields.modelDump (fields : CaptureEventFields) : Json :=
  .object (sortMembers [
    ("schema_version", .str "capture-event/v1"),
    ("receipt_ordinal", Codec.int.dump fields.receiptOrdinal),
    ("previous_event_tag", Sha256Digest.codec.dumpNullable fields.previousEventTag),
    ("event_tag", Sha256Digest.codec.dump fields.eventTag),
    ("intake", fields.intake.modelDump)])

/-! ## What the validators read -/

/-- The fields of every intake. -/
def CaptureIntakeBase.load (items : List (String × Json)) : Option CaptureIntakeBase := do
  guard ((← defaulted items "schema_version" Codec.str.load "capture-intake/v1") = "capture-intake/v1")
  let adapterProfile ← required items "adapter_profile" CaptureProfile.codec.load
  let capabilityManifestDigest ← required items "capability_manifest_digest" Sha256Digest.codec.load
  let connectionId ← required items "connection_id" ComponentIdentifier.codec.load
  let sessionId ← required items "session_id" Sha256Digest.codec.load
  let producerEventDigest ← required items "producer_event_digest" Sha256Digest.codec.load
  let intakeTag ← required items "intake_tag" Sha256Digest.codec.load
  let occurredAt ← defaulted items "occurred_at" datetimeCodec.loadNullable none
  let timestampAuthority ←
    defaulted items "timestamp_authority" CaptureTimestampAuthority.codec.load .unavailable
  let producerSequence ← defaulted items "producer_sequence" Codec.int.loadNullable none
  let sequenceAuthority ← defaulted items "sequence_authority" CaptureSequenceAuthority.codec.load .unavailable
  let captureDisposition ← defaulted items "capture_disposition" CaptureDisposition.codec.load .captured
  return ⟨adapterProfile, capabilityManifestDigest, connectionId, sessionId, producerEventDigest, intakeTag,
    occurredAt, timestampAuthority, producerSequence, sequenceAuthority, captureDisposition⟩

omit [DatetimeReading] in
/-- The fields that a kind adds. -/
def CaptureIntakeDetail.load (kind : CaptureIntakeKind) (items : List (String × Json)) :
    Option CaptureIntakeDetail :=
  match kind with
  | .sessionStarted => some .sessionStarted
  | .actionStarted => do
    let callRef ← required items "call_ref" Sha256Digest.codec.load
    let actionDigest ← required items "action_digest" Sha256Digest.codec.load
    let workspaceDigest ← required items "workspace_digest" Sha256Digest.codec.load
    let environmentDigest ← required items "environment_digest" Sha256Digest.codec.load
    let toolClass ← required items "tool_class" CaptureToolClass.codec.load
    let identityAuthority ← required items "identity_authority" CaptureIdentityAuthority.codec.load
    return .actionStarted callRef actionDigest workspaceDigest environmentDigest toolClass identityAuthority
  | .actionFinished => do
    let callRef ← required items "call_ref" Sha256Digest.codec.load
    let outcomeStatus ← required items "outcome_status" CaptureOutcomeStatus.codec.loadNullable
    let outcomeAuthority ← required items "outcome_authority" CaptureOutcomeAuthority.codec.load
    let exitStatus ← defaulted items "exit_status" Codec.int.loadNullable none
    let errorCode ← defaulted items "error_code" CaptureActionError.codec.loadNullable none
    let failureSignature ← defaulted items "failure_signature" Sha256Digest.codec.loadNullable none
    return .actionFinished callRef outcomeStatus outcomeAuthority exitStatus errorCode failureSignature
  | .permissionDenied => do
    let callRef ← required items "call_ref" Sha256Digest.codec.load
    return .permissionDenied callRef
  | .subagentStarted => do
    let subagentId ← required items "subagent_id" Sha256Digest.codec.load
    return .subagentStarted subagentId
  | .subagentFinished => do
    let subagentId ← required items "subagent_id" Sha256Digest.codec.load
    return .subagentFinished subagentId
  | .turnFinished => do
    let turnId ← required items "turn_id" Sha256Digest.codec.load
    return .turnFinished turnId
  | .controllerFailed => do
    let errorCode ← required items "error_code" CaptureControllerError.codec.load
    let failureSignature ← defaulted items "failure_signature" Sha256Digest.codec.loadNullable none
    return .controllerFailed errorCode failureSignature
  | .sessionFinished => some .sessionFinished

/-- The fields of an intake: the model of its kind, which forbids the fields of the others. -/
def CaptureIntakeFields.load : Json → Option CaptureIntakeFields
  | .object items => do
    let kind ← required items "kind" CaptureIntakeKind.codec.load
    guard (onlyMembers items (captureIntakeNames ++ kind.names))
    let base ← CaptureIntakeBase.load items
    let detail ← CaptureIntakeDetail.load kind items
    return ⟨base, detail⟩
  | _ => none

/-- The fields of an event. -/
def CaptureEventFields.load : Json → Option CaptureEventFields
  | .object items => do
    guard (onlyMembers items ["schema_version", "receipt_ordinal", "previous_event_tag", "event_tag", "intake"])
    guard ((← defaulted items "schema_version" Codec.str.load "capture-event/v1") = "capture-event/v1")
    let receiptOrdinal ← required items "receipt_ordinal" Codec.int.load
    let previousEventTag ← defaulted items "previous_event_tag" Sha256Digest.codec.loadNullable none
    let eventTag ← required items "event_tag" Sha256Digest.codec.load
    let intake ← required items "intake" CaptureIntakeFields.load
    return ⟨receiptOrdinal, previousEventTag, eventTag, intake⟩
  | _ => none

/-- The fields of every intake are read among those that a kind adds. -/
theorem CaptureIntakeBase.load_members (base : CaptureIntakeBase) (detail : CaptureIntakeDetail) (kind : Json) :
    CaptureIntakeBase.load (sortMembers (base.members ++ ("kind", kind) :: detail.members)) = some base := by
  cases detail <;> simp [load, sortMembers, members, CaptureIntakeDetail.members, Codec.str]

/-- The fields that a kind adds are read among those of every intake. -/
theorem CaptureIntakeDetail.load_members (base : CaptureIntakeBase) (detail : CaptureIntakeDetail) (kind : Json) :
    CaptureIntakeDetail.load detail.kind (sortMembers (base.members ++ ("kind", kind) :: detail.members))
      = some detail := by
  cases detail <;> simp [load, sortMembers, members, CaptureIntakeBase.members, CaptureIntakeDetail.kind]

/-- The members of an intake are those of its kind. -/
theorem onlyMembers_modelDump (base : CaptureIntakeBase) (detail : CaptureIntakeDetail) (kind : Json) :
    onlyMembers (sortMembers (base.members ++ ("kind", kind) :: detail.members))
      (captureIntakeNames ++ detail.kind.names) = true := by
  cases detail <;> simp [sortMembers, CaptureIntakeDetail.members, CaptureIntakeBase.members, CaptureIntakeDetail.kind,
    captureIntakeNames, CaptureIntakeKind.names]

theorem required_kind (base : CaptureIntakeBase) (detail : CaptureIntakeDetail) :
    required (sortMembers (base.members ++ ("kind", CaptureIntakeKind.codec.dump detail.kind) :: detail.members)) "kind"
      CaptureIntakeKind.codec.load = some detail.kind := by
  cases detail <;> simp [sortMembers, CaptureIntakeDetail.members, CaptureIntakeBase.members]

/-- What an intake dumps is read as its fields. -/
theorem CaptureIntakeFields.load_modelDump (fields : CaptureIntakeFields) :
    CaptureIntakeFields.load fields.modelDump = some fields := by
  obtain ⟨base, detail⟩ := fields
  unfold modelDump load
  dsimp only
  rw [required_kind, Option.bind_eq_bind, Option.bind_some, onlyMembers_modelDump, CaptureIntakeBase.load_members,
    CaptureIntakeDetail.load_members]
  rfl

/-- What an event dumps is read as its fields. -/
theorem CaptureEventFields.load_modelDump (fields : CaptureEventFields) :
    CaptureEventFields.load fields.modelDump = some fields := by
  have hintake := fields.intake.load_modelDump
  simp [load, modelDump, sortMembers, Codec.str, hintake]

end documents

end SalienceGate
