import SalienceGate.Intervention.Grounding

/-!
# Attested trajectory prefixes

What the runtime projections read of a prefix that the repository attested: its events in order, and
for each of them the binding that names the payload value holding its action step.
-/

namespace SalienceGate

open Checked

/-- `TrajectoryErrorCode`. -/
inductive TrajectoryErrorCode where
  | invalidInput
  | duplicateBinding
  | retrogradeBinding
  | missingReference
  | futureReference
  | crossRunReference
  | unattestedReference
  | invalidPointer
  | invalidSpan
  | limitExceeded
  | repositoryUnavailable
deriving DecidableEq

/-- `TrajectoryErrorCode.value`. -/
def TrajectoryErrorCode.value : TrajectoryErrorCode → String
  | .invalidInput => "invalid_input"
  | .duplicateBinding => "duplicate_binding"
  | .retrogradeBinding => "retrograde_binding"
  | .missingReference => "missing_reference"
  | .futureReference => "future_reference"
  | .crossRunReference => "cross_run_reference"
  | .unattestedReference => "unattested_reference"
  | .invalidPointer => "invalid_pointer"
  | .invalidSpan => "invalid_span"
  | .limitExceeded => "limit_exceeded"
  | .repositoryUnavailable => "repository_unavailable"

/-- The message of a `TrajectoryError`. -/
def TrajectoryErrorCode.message (code : TrajectoryErrorCode) : String :=
  "trajectory projection failed: " ++ code.value

/-- The bounds of a payload pointer. -/
def maxTrajectoryPointerSegments : ℕ := 32

@[inherit_doc maxTrajectoryPointerSegments]
def maxTrajectoryPointerUtf8Bytes : ℕ := 1024

/-- The most events of a prefix. -/
def maxTrajectoryEvents : ℕ := 10000

/-- `_bounded_payload_pointer`: whether the pointer lies in the payload, within the bounds. -/
def boundedPayloadPointer (pointer : String) : Bool :=
  let segments := (pointer.toList.splitOn '/').drop 1
  "/payload/".toList <+: pointer.toList ∧ segments ≠ []
    ∧ segments.length ≤ maxTrajectoryPointerSegments
    ∧ pointer.utf8ByteSize ≤ maxTrajectoryPointerUtf8Bytes

/-- `ActionStepBinding`: where the payload of an event holds its action step. -/
structure ActionStepBinding where
  fieldPath : JsonPointer
  bounded : boundedPayloadPointer fieldPath.text = true
deriving DecidableEq

/-- `TrajectoryBinding`: the selector that the schedule reads. -/
structure TrajectoryBinding where
  actionStep : Option ActionStepBinding := none
deriving DecidableEq

/-- `AttestedTrajectoryEvent`. -/
structure AttestedTrajectoryEvent where
  event : TraceEvent
  binding : TrajectoryBinding
deriving DecidableEq

/-- `AttestedTrajectoryPrefix`. -/
structure AttestedTrajectoryPrefix where
  runId : UUID4
  boundaryEventSequence : ℕ
  items : List AttestedTrajectoryEvent
  prefixDigest : Sha256Digest
deriving DecidableEq

/-- The segments of a pointer, with their escapes replaced. -/
def pointerSegments (pointer : String) : List String :=
  ((pointer.toList.splitOn '/').drop 1).map fun segment =>
    String.ofList (replaceEscape '0' '~' (replaceEscape '1' '/' segment))

/-- `_resolve_attested_payload_value`. -/
def resolveAttestedPayloadValue (item : AttestedTrajectoryEvent) (fieldPath : String) :
    Except TrajectoryErrorCode Json := do
  raiseIf (boundedPayloadPointer fieldPath = false) .invalidPointer
  expect (walkPointer (.object [("payload", item.event.payload.json)]) (pointerSegments fieldPath))
    .invalidPointer

end SalienceGate
