import SalienceGate.Security.Redaction
import SalienceGate.Signals.Base

/-!
# Structured evidence

The envelopes that an adapter puts into the payload of an event: a shell action or an opaque one, the
outcome of a tool, a report of tests. A payload is bounded before it is read, and what does not read is
invalid evidence, whatever is wrong with it.
-/

namespace SalienceGate

open Checked

/-! ## Bounds -/

/-- `_MAX_ACTION_PAYLOAD_BYTES`. -/
def maxActionPayloadBytes : ℕ := 512 * 1024

/-- `_MAX_ACTION_PAYLOAD_NODES`. -/
def maxActionPayloadNodes : ℕ := 1024

/-- `_MAX_ARGV_ITEMS`. -/
def maxArgvItems : ℕ := 256

/-- `_MAX_ARG_BYTES`. -/
def maxArgBytes : ℕ := 16 * 1024

/-- `_MAX_ARGV_BYTES`. -/
def maxArgvBytes : ℕ := 256 * 1024

/-- `_MAX_COMMAND_BYTES`. -/
def maxCommandBytes : ℕ := 128 * 1024

/-- `_MAX_DIRECTORY_BYTES`. -/
def maxDirectoryBytes : ℕ := 16 * 1024

/-- `_MAX_SHORT_TEXT_BYTES`. -/
def maxShortTextBytes : ℕ := 16 * 1024

/-- `_MAX_SIGNATURE_BYTES`. -/
def maxSignatureBytes : ℕ := 128 * 1024

/-- `_MAX_TOOL_PAYLOAD_BYTES`. -/
def maxToolPayloadBytes : ℕ := 512 * 1024

/-- `_MAX_TOOL_PAYLOAD_NODES`. -/
def maxToolPayloadNodes : ℕ := 128

/-- `_MAX_TEST_FAILURES`. -/
def maxTestFailures : ℕ := 10000

/-- `_MAX_TEST_REPORT_BYTES`. -/
def maxTestReportBytes : ℕ := 2 * 1024 * 1024

/-- `_MAX_TEST_REPORT_NODES`. -/
def maxTestReportNodes : ℕ := 60000

/-- `_MAX_TEST_ID_BYTES`. -/
def maxTestIdBytes : ℕ := 32 * 1024

/-- `_MAX_PAYLOAD_DEPTH`. -/
def maxPayloadDepth : ℕ := 8

/-- `_MIN_EXIT_STATUS` and `_MAX_EXIT_STATUS`. -/
def isExitStatus (status : ℤ) : Bool := -2^31 ≤ status ∧ status ≤ 2^31 - 1

/-- What `_payload_is_bounded` charges for a value, without the values inside it. -/
def payloadCharge : Json → ℤ
  | .object items => 2 + items.length * 2 + (items.map fun item => 6 * (item.1.length : ℤ) + 3).sum
  | .list items => 2 + items.length
  | .str s => 6 * s.length + 2
  | .null | .bool _ => 5
  | .int i => max 2 (bitLength i / 3 + 2)
  | .float _ => 32

/-- The loop of `_payload_is_bounded`: the nodes and bytes still allowed, and the stack of values with
their depths, the next one first. -/
def payloadIsBoundedLoop : ℕ → ℤ → List (Json × ℕ) → Bool
  | _, _, [] => true
  | 0, _, _ :: _ => false
  | nodes + 1, remaining, (item, depth) :: stack =>
    let nested := nestedValues item
    if maxPayloadDepth < depth then false
    else if nodes < nested.length then false
    else if remaining - payloadCharge item < 0 then false
    else payloadIsBoundedLoop nodes (remaining - payloadCharge item)
      ((nested.map fun value => (value, depth + 1)).reverse ++ stack)

/-- `_payload_is_bounded`. -/
def payloadIsBounded (value : Json) (maxBytes maxNodes : ℕ) : Bool :=
  payloadIsBoundedLoop maxNodes maxBytes [(value, 0)]

/-! ## Texts -/

/-- `REDACTED_PRIVATE_KEY`. -/
def redactedPrivateKeyMarker : String := "[REDACTED PRIVATE KEY]"

/-- Whether a text holds another one: Python's `in`. -/
def holdsText (part text : String) : Bool := part.toList <:+: text.toList

/-- Whether a text holds one of the markers that redaction leaves. -/
def isRedacted (text : String) : Bool :=
  holdsText redactedMarker text || holdsText redactedPrivateKeyMarker text

/-- `_contract_text`: not empty, without a NUL and within a bound. -/
def contractText (maxBytes : ℕ) (value : String) : Bool :=
  value ≠ "" ∧ value.utf8ByteSize ≤ maxBytes ∧ '\x00' ∉ value.toList

/-- `_validate_derived_text`. -/
def derivedText (maxBytes : ℕ) (allowEmpty : Bool) (value : String) : Bool :=
  (value ≠ "" ∨ allowEmpty = true) ∧ value.utf8ByteSize ≤ maxBytes ∧ '\x00' ∉ value.toList
    ∧ isRedacted value = false

/-! ## Readers -/

/-- One of the texts of a literal type. -/
def loadLiteral {α : Type} (values : List (String × α)) : Json → Option α
  | .str s => values.lookup s
  | _ => none

/-- A text of an envelope. -/
def loadText (maxBytes : ℕ) : Json → Option String
  | .str s => if contractText maxBytes s then some s else none
  | _ => none

/-- A value or `null`. -/
def loadOptional {α : Type} (load : Json → Option α) : Json → Option (Option α)
  | .null => some none
  | value => (load value).map some

/-- A digest of 64 lowercase hexadecimal digits. -/
def loadDigest : Json → Option Sha256Digest
  | .str s => Sha256Digest.parse s
  | _ => none

/-- `schema_version: Literal["1.0"]`. -/
def loadSchemaVersion : Json → Option Unit := loadLiteral [("1.0", ())]

/-! ## Actions -/

/-- The fields of a shell action. -/
structure ShellActionEvidenceFields where
  command : Option String := none
  argv : Option (List String) := none
  workingDirectory : String
  environmentDigest : Sha256Digest
deriving DecidableEq

/-- The bytes of some texts. -/
def totalBytes (texts : List String) : ℕ := (texts.map String.utf8ByteSize).sum

/-- The validators of a shell action. -/
def ShellActionEvidenceFields.valid (action : ShellActionEvidenceFields) : Bool :=
  action.command.all (contractText maxCommandBytes)
    && action.argv.all (fun argv => decide (1 ≤ argv.length ∧ argv.length ≤ maxArgvItems)
      && argv.all (contractText maxArgBytes) && decide (totalBytes argv ≤ maxArgvBytes))
    && contractText maxDirectoryBytes action.workingDirectory
    && (action.command.isNone != action.argv.isNone)

/-- `ShellActionEvidence`. -/
structure ShellActionEvidence extends ShellActionEvidenceFields where
  isValid : toShellActionEvidenceFields.valid = true
deriving DecidableEq

/-- A list of texts. -/
def loadTexts : Json → Option (List String)
  | .list items => items.mapM fun
    | .str s => some s
    | _ => none
  | _ => none

/-- `ShellActionEvidence.model_validate`. -/
def ShellActionEvidence.load : Json → Option ShellActionEvidence
  | .object items => do
    guard (Json.onlyMembers items ["schema_version", "kind", "command", "argv", "working_directory",
      "environment_digest"])
    let _ ← Json.required items "schema_version" loadSchemaVersion
    let _ ← Json.required items "kind" (loadLiteral [("shell", ())])
    let command ← Json.defaulted items "command" (loadOptional (loadText maxCommandBytes)) none
    let argv ← Json.defaulted items "argv" (loadOptional loadTexts) none
    let workingDirectory ← Json.required items "working_directory" (loadText maxDirectoryBytes)
    let environmentDigest ← Json.required items "environment_digest" loadDigest
    let fields : ShellActionEvidenceFields := { command, argv, workingDirectory, environmentDigest }
    if h : fields.valid = true then some ⟨fields, h⟩ else none
  | _ => none

/-- What an opaque identity stands for. -/
inductive IdentityAuthority where
  | exact
  | coarse
  | unavailable
deriving DecidableEq

/-- `OpaqueActionEvidence`. -/
structure OpaqueActionEvidence where
  actionDigest : Sha256Digest
  workspaceDigest : Sha256Digest
  environmentDigest : Sha256Digest
  identityAuthority : IdentityAuthority
deriving DecidableEq

/-- `OpaqueActionEvidence.model_validate`. -/
def OpaqueActionEvidence.load : Json → Option OpaqueActionEvidence
  | .object items => do
    guard (Json.onlyMembers items ["schema_version", "kind", "action_digest", "workspace_digest",
      "environment_digest", "identity_authority"])
    let _ ← Json.required items "schema_version" loadSchemaVersion
    let _ ← Json.required items "kind" (loadLiteral [("opaque", ())])
    let actionDigest ← Json.required items "action_digest" loadDigest
    let workspaceDigest ← Json.required items "workspace_digest" loadDigest
    let environmentDigest ← Json.required items "environment_digest" loadDigest
    let identityAuthority ← Json.required items "identity_authority"
      (loadLiteral [("exact", .exact), ("coarse", .coarse), ("unavailable", .unavailable)])
    some { actionDigest, workspaceDigest, environmentDigest, identityAuthority }
  | _ => none

/-! ## Outcomes -/

/-- `ToolOutcomeStatus`. -/
inductive ToolOutcomeStatus where
  | succeeded
  | failed
deriving DecidableEq

/-- The fields of the outcome of a tool. -/
structure ToolOutcomeEvidenceFields where
  status : Option ToolOutcomeStatus := none
  exitStatus : Option ℤ := none
  exceptionType : Option String := none
  errorCode : Option String := none
  failureSignature : Option String := none
deriving DecidableEq

/-- One of the optional texts of an outcome is there. -/
def ToolOutcomeEvidenceFields.auxiliaryFailure (outcome : ToolOutcomeEvidenceFields) : Bool :=
  outcome.exceptionType.isSome || outcome.errorCode.isSome || outcome.failureSignature.isSome

/-- The validators of an outcome, `evidence_is_consistent` the last of them. -/
def ToolOutcomeEvidenceFields.valid (outcome : ToolOutcomeEvidenceFields) : Bool :=
  outcome.exitStatus.all isExitStatus
    && outcome.exceptionType.all (contractText maxShortTextBytes)
    && outcome.errorCode.all (contractText maxShortTextBytes)
    && outcome.failureSignature.all (contractText maxSignatureBytes)
    && !(outcome.exitStatus = some 0 && outcome.status ≠ some .failed && outcome.auxiliaryFailure)
    && !(outcome.status = some .succeeded
      && ((outcome.exitStatus ≠ none && outcome.exitStatus ≠ some 0) || outcome.auxiliaryFailure))
    && !(outcome.status = none && outcome.exitStatus = none && !outcome.auxiliaryFailure)

/-- `ToolOutcomeEvidence`. -/
structure ToolOutcomeEvidence extends ToolOutcomeEvidenceFields where
  isValid : toToolOutcomeEvidenceFields.valid = true
deriving DecidableEq

/-- An integer. -/
def loadInt : Json → Option ℤ
  | .int i => some i
  | _ => none

/-- `ToolOutcomeEvidence.model_validate`. -/
def ToolOutcomeEvidence.load : Json → Option ToolOutcomeEvidence
  | .object items => do
    guard (Json.onlyMembers items ["schema_version", "status", "exit_status", "exception_type",
      "error_code", "failure_signature"])
    let _ ← Json.required items "schema_version" loadSchemaVersion
    let status ← Json.defaulted items "status"
      (loadOptional (loadLiteral [("succeeded", .succeeded), ("failed", .failed)])) none
    let exitStatus ← Json.defaulted items "exit_status" (loadOptional loadInt) none
    let exceptionType ← Json.defaulted items "exception_type"
      (loadOptional (loadText maxShortTextBytes)) none
    let errorCode ← Json.defaulted items "error_code"
      (loadOptional (loadText maxShortTextBytes)) none
    let failureSignature ← Json.defaulted items "failure_signature"
      (loadOptional (loadText maxSignatureBytes)) none
    let fields : ToolOutcomeEvidenceFields :=
      { status, exitStatus, exceptionType, errorCode, failureSignature }
    if h : fields.valid = true then some ⟨fields, h⟩ else none
  | _ => none

/-! ## Test reports -/

/-- `TestReportStatus`. -/
inductive TestReportStatus where
  | passed
  | failed
deriving DecidableEq

/-- The fields of a failed test. -/
structure TestFailureEvidenceFields where
  testId : String
  failureType : Option String := none
  signature : Option String := none
deriving DecidableEq

/-- The validators of a failed test. -/
def TestFailureEvidenceFields.valid (failure : TestFailureEvidenceFields) : Bool :=
  contractText maxTestIdBytes failure.testId
    && failure.failureType.all (contractText maxShortTextBytes)
    && failure.signature.all (contractText maxSignatureBytes)

/-- `TestFailureEvidence`. -/
structure TestFailureEvidence extends TestFailureEvidenceFields where
  isValid : toTestFailureEvidenceFields.valid = true
deriving DecidableEq

/-- `TestFailureEvidence.model_validate`. -/
def TestFailureEvidence.load : Json → Option TestFailureEvidence
  | .object items => do
    guard (Json.onlyMembers items ["schema_version", "test_id", "failure_type", "signature"])
    let _ ← Json.required items "schema_version" loadSchemaVersion
    let testId ← Json.required items "test_id" (loadText maxTestIdBytes)
    let failureType ← Json.defaulted items "failure_type"
      (loadOptional (loadText maxShortTextBytes)) none
    let signature ← Json.defaulted items "signature" (loadOptional (loadText maxSignatureBytes)) none
    let fields : TestFailureEvidenceFields := { testId, failureType, signature }
    if h : fields.valid = true then some ⟨fields, h⟩ else none
  | _ => none

/-- The bytes that a report charges for a failed test. -/
def failureCharge (testId : String) (failureType signature : Option String) : ℕ :=
  6 * testId.length + 128 + (match failureType with
    | none => 0
    | some text => 6 * text.length + 2) + (match signature with
    | none => 0
    | some text => 6 * text.length + 2)

/-- The fields of a report of tests. -/
structure TestReportEvidenceFields where
  framework : String
  status : TestReportStatus
  failures : List TestFailureEvidence
deriving DecidableEq

/-- The validators of a report, `failures_match_status` the last of them. -/
def TestReportEvidenceFields.valid (report : TestReportEvidenceFields) : Bool :=
  contractText maxShortTextBytes report.framework
    && decide (report.failures.length ≤ maxTestFailures)
    && ((report.status = .failed) == !report.failures.isEmpty)
    && decide (6 * report.framework.length + 64 + (report.failures.map fun failure =>
      failureCharge failure.testId failure.failureType failure.signature).sum ≤ maxTestReportBytes)

/-- `TestReportEvidence`. -/
structure TestReportEvidence extends TestReportEvidenceFields where
  isValid : toTestReportEvidenceFields.valid = true
deriving DecidableEq

/-- The failures of a report, `bounded_failures_input` before them. -/
def loadFailures : Json → Option (List TestFailureEvidence)
  | .list items =>
    if maxTestFailures < items.length
        ∨ (items ≠ [] ∧ payloadIsBounded (.list items) maxTestReportBytes maxTestReportNodes = false)
    then none
    else items.mapM TestFailureEvidence.load
  | _ => none

/-- `TestReportEvidence.model_validate`. -/
def TestReportEvidence.load : Json → Option TestReportEvidence
  | .object items => do
    guard (Json.onlyMembers items ["schema_version", "framework", "status", "failures"])
    let _ ← Json.required items "schema_version" loadSchemaVersion
    let framework ← Json.required items "framework" (loadText maxShortTextBytes)
    let status ← Json.required items "status"
      (loadLiteral [("passed", .passed), ("failed", .failed)])
    let failures ← Json.required items "failures" loadFailures
    let fields : TestReportEvidenceFields := { framework, status, failures }
    if h : fields.valid = true then some ⟨fields, h⟩ else none
  | _ => none

/-! ## The evidence of an event -/

/-- What a fingerprint fails with: `FingerprintUnavailableError`, or the `ValueError` of a derived
value. -/
inductive FingerprintError where
  | unavailable (reason : AbstentionReason)
  | value
deriving DecidableEq

/-- A member of the payload of an event. -/
def payloadMember (event : TraceEvent) (key : String) : Option Json :=
  Json.member event.payload.items key

/-- `_load_payload`. -/
def loadPayload {α : Type} (load : Json → Option α) (value : Json) (maxBytes maxNodes : ℕ) :
    Except FingerprintError α := do
  raiseIf (payloadIsBounded value maxBytes maxNodes = false) (.unavailable .structuredEvidenceInvalid)
  expect (load value) (.unavailable .structuredEvidenceInvalid)

/-- The evidence of an action: a shell action or an opaque one. -/
inductive ActionEvidence where
  | shell (action : ShellActionEvidence)
  | opaqueAction (action : OpaqueActionEvidence)
deriving DecidableEq

/-- `_load_action`. -/
def loadAction (event : TraceEvent) : Except FingerprintError ActionEvidence := do
  raiseIf (event.eventType ≠ .actionProposal) (.unavailable .eventNotApplicable)
  match payloadMember event "action", payloadMember event "action_identity" with
  | some _, some _ => throw (.unavailable .structuredEvidenceInvalid)
  | none, none => throw (.unavailable .structuredEvidenceMissing)
  | none, some value => do
    let action ← loadPayload OpaqueActionEvidence.load value maxActionPayloadBytes
      maxActionPayloadNodes
    pure (.opaqueAction action)
  | some value, none => do
    let action ← loadPayload ShellActionEvidence.load value maxActionPayloadBytes
      maxActionPayloadNodes
    pure (.shell action)

/-- `_load_tool_outcome`. -/
def loadToolOutcome (event : TraceEvent) : Except FingerprintError ToolOutcomeEvidence := do
  raiseIf (event.eventType ≠ .toolCompletion) (.unavailable .eventNotApplicable)
  raiseIf ((payloadMember event "test_report").isSome = true) (.unavailable .structuredEvidenceInvalid)
  let value ← expect (payloadMember event "tool_outcome") (.unavailable .structuredEvidenceMissing)
  loadPayload ToolOutcomeEvidence.load value maxToolPayloadBytes maxToolPayloadNodes

/-- `_load_test_report`. -/
def loadTestReport (event : TraceEvent) : Except FingerprintError TestReportEvidence := do
  raiseIf (event.eventType ≠ .toolCompletion ∧ event.eventType ≠ .observation)
    (.unavailable .eventNotApplicable)
  raiseIf ((payloadMember event "tool_outcome").isSome = true)
    (.unavailable .structuredEvidenceInvalid)
  let value ← expect (payloadMember event "test_report") (.unavailable .structuredEvidenceMissing)
  loadPayload TestReportEvidence.load value maxTestReportBytes maxTestReportNodes

end SalienceGate
