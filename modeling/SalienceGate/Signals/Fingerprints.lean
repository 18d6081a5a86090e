import SalienceGate.Lib.Framing
import SalienceGate.Lib.Grouping
import SalienceGate.Signals.Evidence
import Mathlib.Data.String.Basic
import Mathlib.Data.List.Lex

/-!
# Fingerprints

The fingerprint of an action or of a failure is a digest of the texts that identify it, each framed by
its length. Commands of `pytest` are put into a normal form first, and the failures of a report are put
in order.
-/

namespace SalienceGate

open Checked Grouping Framing

/-- SHA-256. -/
class Sha256 where
  /-- The digest of some bytes. -/
  sha256 (bytes : List UInt8) : Sha256Digest

/-- `length_prefixed_sha256`: the digest of the framed domain and parts. -/
def lengthPrefixedSha256 [Sha256] (domain : String) (parts : List String) : Sha256Digest :=
  Sha256.sha256 (framedTexts (domain :: parts))

/-- `_equivalence_text`. -/
def equivalenceText (value : String) : Except FingerprintError String := do
  raiseIf (isRedacted value = true) (.unavailable .redactedEquivalenceInput)
  pure value

/-- An optional text, `_equivalence_text` of it when it is there. -/
def equivalenceText? : Option String → Except FingerprintError (Option String)
  | none => pure none
  | some value => do
    let text ← equivalenceText value
    pure (some text)

/-! ## Commands -/

/-- `_PYTEST_COMMUTATIVE_FLAGS`. -/
def pytestCommutativeFlags : List String := ["--quiet", "--verbose", "-q", "-v"]

/-- The length of the prefix that names `pytest`, or zero for another command. -/
def pytestPrefixLength (tokens : List String) : ℕ :=
  match tokens with
  | [] => 0
  | executable :: rest =>
    if executable = "py.test" ∨ executable = "pytest" then 1
    else if (executable = "python" ∨ executable = "python3") ∧ rest.take 2 = ["-m", "pytest"] then 3
    else 0

/-- Not the terminator of the options. -/
def notTerminator (token : String) : Bool := token ≠ "--"

/-- An option that is none of the commutative flags. -/
def isUnknownOption (token : String) : Bool :=
  token.toList.head? = some '-' ∧ token ∉ pytestCommutativeFlags

/-- `_normalize_pytest_flags`. -/
def normalizePytestFlags (tokens : List String) : List String :=
  let prefixLength := pytestPrefixLength tokens
  if prefixLength = 0 then tokens
  else
    let arguments := tokens.drop prefixLength
    let beforeTerminator := arguments.takeWhile notTerminator
    let afterTerminator := arguments.dropWhile notTerminator
    if beforeTerminator.any isUnknownOption then tokens
    else
      tokens.take prefixLength
        ++ sortBy id (beforeTerminator.filter (· ∈ pytestCommutativeFlags))
        ++ beforeTerminator.filter (· ∉ pytestCommutativeFlags) ++ afterTerminator

/-- `_UNSAFE_RAW_SHELL_CHARACTERS`. -/
def unsafeRawShellCharacters : List Char :=
  "$`*?[]".toList ++ ['\x7b', '\x7d'] ++ "~#!%^\r\n\x00();<>|&'\"\\=".toList

/-- `str.isspace`, of one character. -/
def isSpace (c : Char) : Bool :=
  (9 ≤ c.toNat && c.toNat ≤ 13) || (28 ≤ c.toNat && c.toNat ≤ 32)
    || [0x85, 0xA0, 0x1680, 0x2028, 0x2029, 0x202F, 0x205F, 0x3000].contains c.toNat
    || (0x2000 ≤ c.toNat && c.toNat ≤ 0x200A)

/-- A character that splits a command. -/
def isShellBlank (c : Char) : Bool := c = ' ' || c = '\t'

/-- The tokens of a command: `re.split`, without the empty ones. -/
def splitCommand (command : String) : List String :=
  ((command.toList.splitOnP isShellBlank).filter fun token => !token.isEmpty).map String.ofList

/-- The tokens of a shell action, before they are checked. -/
def rawShellTokens (action : ShellActionEvidence) : Except FingerprintError (List String) :=
  match action.argv, action.command with
  | some argv, _ => pure argv
  | none, none => pure []
  | none, some command => do
    raiseIf (isRedacted command = true) (.unavailable .redactedEquivalenceInput)
    raiseIf (command.toList.any (fun c => unsafeRawShellCharacters.contains c) = true
        ∨ command.toList.any (fun c => isSpace c && !isShellBlank c) = true)
      (.unavailable .structuredEvidenceInvalid)
    pure (splitCommand command)

/-- `_shell_tokens`. -/
def shellTokens (action : ShellActionEvidence) : Except FingerprintError (List String) := do
  let tokens ← rawShellTokens action
  raiseIf (tokens = [] ∨ maxArgvItems < tokens.length
      ∨ (∃ token ∈ tokens, token = "" ∨ maxArgBytes < token.utf8ByteSize)
      ∨ maxArgvBytes < totalBytes tokens)
    (.unavailable .structuredEvidenceInvalid)
  let normalized ← tokens.mapM equivalenceText
  pure (normalizePytestFlags normalized)

/-! ## Action fingerprints -/

/-- How an action is executed. -/
inductive ExecutionMode where
  | argv
  | shell
  | opaqueMode
deriving DecidableEq

/-- The text of an execution mode. -/
def ExecutionMode.value : ExecutionMode → String
  | .argv => "argv"
  | .shell => "shell"
  | .opaqueMode => "opaque"

/-- `ActionFingerprint`. -/
structure ActionFingerprint where
  executionMode : ExecutionMode
  digest : Sha256Digest
deriving DecidableEq

/-- What identifies a shell action: the arguments of `ActionFingerprint(...)`. -/
structure ActionIdentity where
  executionMode : ExecutionMode
  tokens : List String
  workingDirectory : String
  environmentDigest : Sha256Digest
deriving DecidableEq

/-- The texts that the fingerprint of an action hashes, behind the domain. -/
def ActionIdentity.parts (identity : ActionIdentity) : List String :=
  identity.executionMode.value :: identity.workingDirectory :: identity.environmentDigest.text
    :: identity.tokens

/-- The domain of the fingerprints of actions. -/
def actionFingerprintDomain : String := "saliencegate:signals:action-fingerprint:v1"

/-- The domain of the fingerprints of opaque actions. -/
def opaqueActionFingerprintDomain : String := "saliencegate:signals:opaque-action-fingerprint:v1"

/-- The identity that `action_fingerprint` makes of a shell action. -/
def shellIdentity (action : ShellActionEvidence) : Except FingerprintError ActionIdentity := do
  let tokens ← shellTokens action
  let workingDirectory ← equivalenceText action.workingDirectory
  pure {
    executionMode := if action.argv.isSome then .argv else .shell
    tokens
    workingDirectory
    environmentDigest := action.environmentDigest }

/-- The checks of `ActionFingerprint.__post_init__`. -/
def ActionIdentity.valid (identity : ActionIdentity) : Bool :=
  identity.executionMode ≠ .opaqueMode ∧ identity.tokens ≠ []
    ∧ identity.tokens.length ≤ maxArgvItems
    ∧ identity.tokens.all (derivedText maxArgBytes false) = true
    ∧ totalBytes identity.tokens ≤ maxArgvBytes
    ∧ derivedText maxDirectoryBytes false identity.workingDirectory = true

section

variable [Sha256]

/-- `ActionFingerprint(...)`. -/
def ActionIdentity.fingerprint (identity : ActionIdentity) :
    Except FingerprintError ActionFingerprint := do
  raiseIf (identity.valid = false) .value
  pure ⟨identity.executionMode, lengthPrefixedSha256 actionFingerprintDomain identity.parts⟩

/-- `ActionFingerprint._from_opaque`. -/
def fromOpaque (action : OpaqueActionEvidence) : ActionFingerprint :=
  ⟨.opaqueMode, lengthPrefixedSha256 opaqueActionFingerprintDomain
    [action.actionDigest.text, action.workspaceDigest.text, action.environmentDigest.text]⟩

/-- `action_fingerprint`. -/
def actionFingerprint (event : TraceEvent) : Except FingerprintError ActionFingerprint := do
  let action ← loadAction event
  match action with
  | .opaqueAction action => do
    raiseIf (action.identityAuthority ≠ .exact) (.unavailable .structuredEvidenceMissing)
    pure (fromOpaque action)
  | .shell action => do
    let identity ← shellIdentity action
    identity.fingerprint

end

/-! ## Outcomes of tools -/

/-- `ToolOutcome`. -/
structure ToolOutcome where
  status : ToolOutcomeStatus
  exitStatus : Option ℤ := none
  exceptionType : Option String := none
  errorCode : Option String := none
  failureSignature : Option String := none
deriving DecidableEq

/-- The checks of `ToolOutcome.__post_init__`. -/
def ToolOutcome.valid (outcome : ToolOutcome) : Bool :=
  outcome.exitStatus.all isExitStatus
    && outcome.exceptionType.all (derivedText maxShortTextBytes false)
    && outcome.errorCode.all (derivedText maxShortTextBytes false)
    && outcome.failureSignature.all (derivedText maxSignatureBytes false)
    && !(outcome.status = .succeeded && ((outcome.exitStatus ≠ none && outcome.exitStatus ≠ some 0)
      || outcome.exceptionType.isSome || outcome.errorCode.isSome || outcome.failureSignature.isSome))

/-- `_tool_status`. -/
def toolStatus (payload : ToolOutcomeEvidence) : ToolOutcomeStatus :=
  match payload.status with
  | some status => status
  | none => if payload.exitStatus = some 0 then .succeeded else .failed

/-- `classify_tool_outcome`. -/
def classifyToolOutcome (event : TraceEvent) : Except FingerprintError ToolOutcomeStatus := do
  let payload ← loadToolOutcome event
  pure (toolStatus payload)

/-- `parse_tool_outcome`. -/
def parseToolOutcome (event : TraceEvent) : Except FingerprintError ToolOutcome := do
  let payload ← loadToolOutcome event
  let exceptionType ← equivalenceText? payload.exceptionType
  let errorCode ← equivalenceText? payload.errorCode
  let failureSignature ← equivalenceText? payload.failureSignature
  let outcome : ToolOutcome := {
    status := toolStatus payload
    exitStatus := payload.exitStatus
    exceptionType
    errorCode
    failureSignature }
  raiseIf (outcome.valid = false) .value
  pure outcome

/-! ## Reports of tests -/

/-- `^[A-Za-z]:[\\/]`. -/
def isDriveQualified : List Char → Bool
  | letter :: ':' :: separator :: _ => letter.isAlpha && (separator = '\\' || separator = '/')
  | _ => false

/-- `value.partition("::")`: the part before the first separator, and the part after it if there is
one. -/
def partitionSelector : List Char → List Char × Option (List Char)
  | [] => ([], none)
  | ':' :: ':' :: rest => ([], some rest)
  | c :: rest =>
    let parts := partitionSelector rest
    (c :: parts.1, parts.2)

/-- `normalize_test_id`. -/
def normalizeTestId (value : String) : Except FingerprintError String := do
  raiseIf (contractText maxTestIdBytes value = false) (.unavailable .structuredEvidenceInvalid)
  let checked ← equivalenceText value
  raiseIf (checked = "./") (.unavailable .structuredEvidenceInvalid)
  let characters := checked.toList
  let remainder := if characters.take 2 = ['.', '/'] then characters.drop 2 else []
  let normalized :=
    if remainder ≠ [] ∧ isDriveQualified remainder = false ∧ remainder.take 2 ≠ ['.', '/']
        ∧ remainder.head? ≠ some '/' ∧ remainder.head? ≠ some '\\'
    then remainder else characters
  raiseIf (normalized = []) (.unavailable .structuredEvidenceInvalid)
  let parts := partitionSelector normalized
  raiseIf (parts.1 = [] ∨ parts.2 = some []) (.unavailable .structuredEvidenceInvalid)
  raiseIf (['.', '.'] ∈ parts.1.splitOnP fun c => c = '\\' || c = '/')
    (.unavailable .structuredEvidenceInvalid)
  pure (String.ofList normalized)

/-- `NormalizedTestFailure`. -/
structure NormalizedTestFailure where
  testId : String
  failureType : Option String := none
  signature : Option String := none
deriving DecidableEq

/-- The checks of `NormalizedTestFailure.__post_init__`; `normalize_test_id` may raise in them. -/
def NormalizedTestFailure.check (failure : NormalizedTestFailure) : Except FingerprintError Unit := do
  let normalized ← normalizeTestId failure.testId
  raiseIf (normalized ≠ failure.testId
      ∨ failure.failureType.all (derivedText maxShortTextBytes false) = false
      ∨ failure.signature.all (derivedText maxSignatureBytes false) = false) .value

/-- `TestReport`. -/
structure TestReport where
  framework : String
  status : TestReportStatus
  failures : List NormalizedTestFailure
deriving DecidableEq

/-- `_test_failure_sort_key`. -/
def testFailureSortKey (failure : NormalizedTestFailure) : List String :=
  [failure.testId, failure.failureType.getD "", failure.signature.getD ""]

/-- The checks of `TestReport.__post_init__`. -/
def TestReport.valid (report : TestReport) : Bool :=
  derivedText maxShortTextBytes false report.framework = true
    ∧ report.failures.length ≤ maxTestFailures
    ∧ 6 * report.framework.length + 64 + (report.failures.map fun failure =>
      failureCharge failure.testId failure.failureType failure.signature).sum ≤ maxTestReportBytes
    ∧ (report.status = .failed ↔ report.failures ≠ [])
    ∧ report.failures.Nodup ∧ report.failures = sortBy testFailureSortKey report.failures

/-- `_validated_test_ids`. -/
def validatedTestIds (payload : TestReportEvidence) : Except FingerprintError (List String) :=
  payload.failures.mapM fun failure => normalizeTestId failure.testId

/-- `classify_test_report`. -/
def classifyTestReport (event : TraceEvent) : Except FingerprintError TestReportStatus := do
  let payload ← loadTestReport event
  let _ ← equivalenceText payload.framework
  let _ ← validatedTestIds payload
  pure payload.status

/-- The transient view of one failed test. -/
def normalizeFailure (failure : TestFailureEvidence) :
    Except FingerprintError NormalizedTestFailure := do
  let testId ← normalizeTestId failure.testId
  let failureType ← equivalenceText? failure.failureType
  let signature ← equivalenceText? failure.signature
  let normalized : NormalizedTestFailure := { testId, failureType, signature }
  normalized.check
  pure normalized

/-- `parse_test_report`. -/
def parseTestReport (event : TraceEvent) : Except FingerprintError TestReport := do
  let payload ← loadTestReport event
  let normalized ← payload.failures.mapM normalizeFailure
  let failures := sortBy testFailureSortKey normalized
  raiseIf (¬failures.Nodup) (.unavailable .structuredEvidenceInvalid)
  let framework ← equivalenceText payload.framework
  let report : TestReport := { framework, status := payload.status, failures }
  raiseIf (report.valid = false) .value
  pure report

/-! ## Failure fingerprints -/

/-- What failed. -/
inductive FailureCategory where
  | test
  | tool
deriving DecidableEq

/-- The text of a category. -/
def FailureCategory.value : FailureCategory → String
  | .test => "test"
  | .tool => "tool"

/-- `FailureFingerprint`. -/
structure FailureFingerprint where
  category : FailureCategory
  digest : Sha256Digest
deriving DecidableEq

/-- What identifies a failure: the arguments of `FailureFingerprint(...)`. -/
structure FailureIdentity where
  category : FailureCategory
  components : List String
deriving DecidableEq

/-- The texts that the fingerprint of a failure hashes, behind the domain. -/
def FailureIdentity.parts (identity : FailureIdentity) : List String :=
  identity.category.value :: identity.components

/-- The domain of the fingerprints of failures. -/
def failureFingerprintDomain : String := "saliencegate:signals:failure-fingerprint:v1"

/-- The checks of `FailureFingerprint.__post_init__`. -/
def FailureIdentity.valid (identity : FailureIdentity) : Bool :=
  identity.components ≠ [] ∧ identity.components.length ≤ 2 + 3 * maxTestFailures
    ∧ identity.components.all (derivedText maxSignatureBytes true) = true
    ∧ (identity.components.map fun component => 6 * component.length + 2).sum ≤ maxTestReportBytes

/-- The components of one failed test. -/
def failureComponents (failure : NormalizedTestFailure) : List String :=
  [failure.testId, failure.failureType.getD "", failure.signature.getD ""]

/-- The components of a report of tests. -/
def reportComponents (report : TestReport) : List String :=
  report.framework :: toString report.failures.length :: report.failures.flatMap failureComponents

/-- The components of the outcome of a tool. -/
def outcomeComponents (outcome : ToolOutcome) : List String :=
  [match outcome.exitStatus with
    | none => "exit:none"
    | some status => "exit:" ++ toString status,
    outcome.exceptionType.getD "", outcome.errorCode.getD "", outcome.failureSignature.getD ""]

/-- The identity that `failure_fingerprint` makes of an event. -/
def failureIdentity (event : TraceEvent) : Except FingerprintError FailureIdentity := do
  raiseIf ((payloadMember event "test_report").isSome = true
      ∧ (payloadMember event "tool_outcome").isSome = true) (.unavailable .structuredEvidenceInvalid)
  if (payloadMember event "test_report").isSome = true then do
    let report ← parseTestReport event
    raiseIf (report.status ≠ .failed) (.unavailable .eventNotApplicable)
    raiseIf (∃ failure ∈ report.failures, failure.failureType = none ∨ failure.signature = none)
      (.unavailable .structuredEvidenceMissing)
    pure ⟨.test, reportComponents report⟩
  else do
    let outcome ← parseToolOutcome event
    raiseIf (outcome.status ≠ .failed) (.unavailable .eventNotApplicable)
    raiseIf ((outcome.exitStatus = none ∨ outcome.exitStatus = some 0)
        ∧ outcome.exceptionType = none ∧ outcome.errorCode = none
        ∧ outcome.failureSignature = none) (.unavailable .structuredEvidenceMissing)
    pure ⟨.tool, outcomeComponents outcome⟩

section

variable [Sha256]

/-- `FailureFingerprint(...)`. -/
def FailureIdentity.fingerprint (identity : FailureIdentity) :
    Except FingerprintError FailureFingerprint := do
  raiseIf (identity.valid = false) .value
  pure ⟨identity.category, lengthPrefixedSha256 failureFingerprintDomain identity.parts⟩

/-- `failure_fingerprint`. -/
def failureFingerprint (event : TraceEvent) : Except FingerprintError FailureFingerprint := do
  let identity ← failureIdentity event
  identity.fingerprint

end

end SalienceGate
