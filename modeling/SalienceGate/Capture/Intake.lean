import SalienceGate.Domain.Primitives

/-!
# Capture intakes

An intake is one pseudonymized record of a provider's session. Its session is that of a connection, and
it is authenticated by the installation key, whose tags name it in the spool and in the store.
-/

namespace SalienceGate

/-- `adapter_profile`. -/
inductive CaptureProfile where
  | codexHooks | claudeCodeHooks | opencodePlugin | piExtension
deriving DecidableEq

/-- `_TRANSPORT_PROFILES`: the profiles of a bridge, which transports its records in chunks. -/
def CaptureProfile.isTransport : CaptureProfile → Bool
  | .opencodePlugin | .piExtension => true
  | .codexHooks | .claudeCodeHooks => false

/-- `capture_disposition`. -/
inductive CaptureDisposition where
  | captured | coverageBoundary | degraded
deriving DecidableEq

/-- `tool_class`. -/
inductive CaptureToolClass where
  | shell | fileRead | fileWrite | search | network | subagent | other
deriving DecidableEq

/-- `identity_authority`. -/
inductive CaptureIdentityAuthority where
  | exact | coarse | unavailable
deriving DecidableEq

/-- The error code of a finished action. -/
inductive CaptureActionError where
  | toolError | permissionDenied | interrupted | timeout | providerError
deriving DecidableEq

/-- The error code of a failed controller. -/
inductive CaptureControllerError where
  | providerCallbackFailed | invalidTransition | spawnFailed | timeout | overflow | gapDetected
deriving DecidableEq

/-- What an intake says beyond its routing, by its kind. -/
inductive CaptureIntakeContent where
  | sessionStarted
  | actionStarted (callRef actionDigest workspaceDigest environmentDigest : Sha256Digest)
      (toolClass : CaptureToolClass) (identityAuthority : CaptureIdentityAuthority)
  | actionFinished (callRef : Sha256Digest) (succeeded : Option Bool) (exitStatus : Option ℤ)
      (errorCode : Option CaptureActionError) (failureSignature : Option Sha256Digest)
  | permissionDenied (callRef : Sha256Digest)
  | subagentStarted (subagentId : Sha256Digest)
  | subagentFinished (subagentId : Sha256Digest)
  | turnFinished (turnId : Sha256Digest)
  | controllerFailed (errorCode : CaptureControllerError) (failureSignature : Option Sha256Digest)
  | sessionFinished
deriving DecidableEq

/-- `CaptureIntake`. An authority is unavailable exactly when what it is about is absent, so it is not
a field of its own. -/
structure CaptureIntake where
  adapterProfile : CaptureProfile
  capabilityManifestDigest : Sha256Digest
  connectionId : ComponentIdentifier
  sessionId : Sha256Digest
  producerEventDigest : Sha256Digest
  intakeTag : Sha256Digest
  occurredAt : Option UtcDatetime
  producerSequence : Option ℕ
  captureDisposition : CaptureDisposition
  content : CaptureIntakeContent
deriving DecidableEq

/-- The session of a connection. -/
abbrev SessionKey := ComponentIdentifier × Sha256Digest

/-- The session of an intake. -/
def CaptureIntake.session (intake : CaptureIntake) : SessionKey := (intake.connectionId, intake.sessionId)

/-- `sorted` of sessions. -/
def sessionBefore (key other : SessionKey) : Bool :=
  let codes (key : SessionKey) : List (List ℕ) :=
    [key.1.text.toList.map Char.toNat, key.2.text.toList.map Char.toNat]
  !(List.lex (codes other) (codes key) fun a b => List.lex a b)

/-- What the installation key makes of intakes and sessions. The tags are those of a keyed hash: two
authentic intakes with one tag are the same, and so are two sessions. -/
class CaptureKey where
  /-- `verify_capture_intake_authentication`. -/
  authenticates : CaptureIntake → Bool
  /-- `_record_tag`, which names the entry of an intake. -/
  recordTag : CaptureIntake → String
  /-- `_session_marker_name_tag`, which names the marker of a session. -/
  sessionMarkerTag : SessionKey → String
  /-- The length of the canonical bytes of an intake. -/
  canonicalBytes : CaptureIntake → ℕ
  recordTag_inj : ∀ intake other, authenticates intake = true → authenticates other = true →
    recordTag intake = recordTag other → intake = other
  sessionMarkerTag_inj : ∀ key other, sessionMarkerTag key = sessionMarkerTag other → key = other

/-- `CaptureTransportChunk`: the routing of one chunk of a bridge, with its commitment. -/
structure CaptureTransportChunk where
  connectionId : ComponentIdentifier
  sessionId : Sha256Digest
  batchRef : Sha256Digest
  chunkIndex : ℕ
  chunkCount : ℕ
  chunkDigest : Sha256Digest
  valid : chunkIndex < chunkCount ∧ chunkCount ≤ 1000
deriving DecidableEq

/-- The session of a chunk. -/
def CaptureTransportChunk.session (chunk : CaptureTransportChunk) : SessionKey :=
  (chunk.connectionId, chunk.sessionId)

/-- What the capture store raises. -/
inductive CaptureStoreError where
  /-- `CaptureStoreBusyError`. -/
  | busy
  /-- `CaptureStoreIntegrityError`. -/
  | integrity
  /-- `CaptureStoreStateError`. -/
  | state
  /-- `CaptureStoreClosedError`. -/
  | closed
  /-- `CaptureStoreError` itself. -/
  | invalid
  /-- An exception of another class. -/
  | other
deriving DecidableEq

/-- `CaptureAdmissionSource`. -/
inductive CaptureAdmissionSource where
  | direct | spoolDrain
deriving DecidableEq

/-- `CaptureSessionState`. -/
inductive CaptureSessionState where
  | opened | closed | quarantined | deleting
deriving DecidableEq

/-- `CaptureAppendDisposition`. -/
inductive CaptureAppendDisposition where
  | admitted | replayed | quarantined | overflow
deriving DecidableEq

/-- `CaptureAppendReceipt`. -/
structure CaptureAppendReceipt where
  disposition : CaptureAppendDisposition
  connectionId : ComponentIdentifier
  sessionId : Sha256Digest
  producerEventDigest : Sha256Digest
  receiptOrdinal : Option ℕ
  previousEventTag : Option String
  eventTag : Option String
  sessionState : CaptureSessionState
  eventCount : ℕ
deriving DecidableEq

end SalienceGate
