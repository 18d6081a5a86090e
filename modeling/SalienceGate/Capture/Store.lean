import SalienceGate.Capture.Feedback
import SalienceGate.Lib.DatetimeOrder
import SalienceGate.Lib.Dict
import SalienceGate.Lib.Stateful

/-!
# The capture store

The store is a database of connections, and of the sessions of each. A session has a chain of events and,
if its connection is that of a bridge, a chain of the receipts of the chunks that brought them. Every
operation is one transaction, which verifies the chains of the sessions that it extends.

Every row carries a tag over its content, which is computed anew at each write. Nothing else writes the
database, so the tag of a row always matches; only the tags that link rows are fields here. The rows of
a session are kept together.
-/

namespace SalienceGate

open Checked Stateful

/-- `MAX_CAPTURE_EVENTS_PER_SESSION`. -/
def maxCaptureEventsPerSession : ℕ := 1000

/-- `MAX_CAPTURE_TRANSPORT_CHUNKS_PER_SESSION`. -/
def maxCaptureTransportChunksPerSession : ℕ := 1000

/-! ## Rows -/

/-- `CaptureConnectionState`. -/
inductive CaptureConnectionState where
  | pending | enabled | draining | disabled | deleting
deriving DecidableEq

/-- `CaptureHealthCode`. -/
inductive CaptureHealthCode where
  | producerCollision | sessionOverflow | spoolQuota | spoolUnavailable | unattributedDrop
  | integrityFailure | gapDetected | coverageDegraded
deriving DecidableEq

/-- A row of `connections`. -/
structure CaptureConnection where
  projectDigest : Sha256Digest
  profile : CaptureProfile
  capabilityManifestDigest : Sha256Digest
  state : CaptureConnectionState
deriving DecidableEq

/-- A row of `capture_events`. -/
structure CaptureEvent where
  receiptOrdinal : ℕ
  previousEventTag : Option String
  eventTag : String
  intake : CaptureIntake
  admissionSource : CaptureAdmissionSource
  admittedAt : UtcDatetime
deriving DecidableEq

/-- A row of `capture_heads`. -/
structure CaptureHead where
  receiptCount : ℕ
  headEventTag : Option String
deriving DecidableEq

/-- A row of `capture_transport_heads`. -/
structure TransportHead where
  receiptCount : ℕ
  headReceiptTag : Option String
deriving DecidableEq

/-- A row of `capture_transport_receipts`, but for its own tag. -/
structure TransportMaterial where
  transportOrdinal : ℕ
  batchRef : Sha256Digest
  chunkIndex : ℕ
  chunkCount : ℕ
  chunkDigest : Sha256Digest
  intakeCount : ℕ
  intakeSetDigest : String
  postEventCount : ℕ
  postHeadEventTag : Option String
  previousReceiptTag : Option String
  admittedAt : UtcDatetime
deriving DecidableEq

/-- A row of `capture_transport_receipts`. -/
structure TransportRow extends TransportMaterial where
  receiptTag : String
deriving DecidableEq

/-- A row of `capture_health`: its marker is named by its session and code. -/
structure CaptureHealth where
  code : CaptureHealthCode
  count : ℕ
deriving DecidableEq

/-- A row of `capture_sessions`. A session whose transport is required has the tag of its transport head,
and no other session has one. -/
structure CaptureSession where
  state : CaptureSessionState
  eventCount : ℕ
  coverageDegraded : Bool
  transportHeadTag : Option String
  healthMarkerCount : ℕ
  healthSetDigest : String
deriving DecidableEq

/-- The rows of a session. -/
structure StoredSession where
  session : CaptureSession
  head : CaptureHead
  transportHead : Option TransportHead
  events : List CaptureEvent
  receipts : List TransportRow
  health : List CaptureHealth
deriving DecidableEq

/-- A row of `feedback_labels`. -/
structure FeedbackRow where
  labelId : String
  label : CaptureFeedbackLabel
  createdAt : String
deriving DecidableEq

/-- The body of a `CaptureFeedbackRecord`. -/
structure FeedbackRecordMaterial where
  projectDigest : Sha256Digest
  profileId : CaptureProfile
  sessionId : Sha256Digest
  humanId : String
  label : CaptureFeedbackLabel
  revisionCount : ℕ
  labeledAt : Datetime
deriving DecidableEq

/-- The tags that link the rows of a session, and name them. -/
class CaptureTags where
  eventTag (key : SessionKey) (receiptOrdinal : ℕ) (intake : CaptureIntake)
    (previousEventTag : Option String) (admissionSource : CaptureAdmissionSource)
    (admittedAt : UtcDatetime) : String
  transportReceiptTag (key : SessionKey) (material : TransportMaterial) : String
  transportHeadTag (key : SessionKey) (head : TransportHead) : String
  healthSetDigest (key : SessionKey) (health : List CaptureHealth) : String
  /-- `_transport_intake_set_digest`. -/
  intakeSetDigest (intakes : List CaptureIntake) : String
  feedbackId (key : SessionKey) (revision : ℕ) (previousLabelId : Option String) (label : CaptureFeedbackLabel)
    (createdAt : String) : String
  feedbackAnchorId (key : SessionKey) (revisionCount : ℕ) (headLabelId : String) (label : CaptureFeedbackLabel)
    (createdAt : String) : String
  feedbackRecordTag (material : FeedbackRecordMaterial) : String
  /-- `_human_session_id`. -/
  humanId (key : SessionKey) : String

/-- The rows of a capture database. -/
structure CaptureStore where
  connections : Dict ComponentIdentifier CaptureConnection
  sessions : Dict SessionKey StoredSession
  /-- The sessions of `deleted_sessions`. -/
  tombstones : List SessionKey
  /-- The rows of `feedback_labels`, by their sessions. -/
  feedback : Dict SessionKey (List FeedbackRow)

/-- A new database. -/
def CaptureStore.empty : CaptureStore := ⟨.empty, .empty, [], .empty⟩

/-- A transaction: the rows, and the heads of the chains that this process verified before. The latter
are kept in memory, whatever becomes of the transaction. -/
structure CaptureTransaction where
  store : CaptureStore
  /-- `_verified_append_heads`. -/
  verified : Dict SessionKey CaptureHead

/-- A part of a transaction. -/
abbrev StoreM := EStateM CaptureStoreError CaptureTransaction

variable [CaptureKey] [CaptureTags]

/-! ## Verification -/

namespace CaptureStore

/-- `_load_verified_event`, of the session of a key. -/
def loadVerifiedEvent (key : SessionKey) (event : CaptureEvent) : Except CaptureStoreError Unit :=
  raiseIf (CaptureKey.authenticates event.intake = false ∨ event.intake.session ≠ key
    ∨ event.eventTag ≠ CaptureTags.eventTag key event.receiptOrdinal event.intake event.previousEventTag
      event.admissionSource event.admittedAt) .integrity

/-- The loop of `_verify_chain_rows`, with the tag of the last event. -/
def verifyEvents (key : SessionKey) : ℕ → Option String → List CaptureEvent →
    Except CaptureStoreError (Option String)
  | _, previous, [] => pure previous
  | ordinal, previous, event :: rest => do
    loadVerifiedEvent key event
    raiseIf (event.receiptOrdinal ≠ ordinal ∨ event.previousEventTag ≠ previous) .integrity
    verifyEvents key (ordinal + 1) (some event.eventTag) rest

/-- `_verify_health_set`. -/
def verifyHealthSet (key : SessionKey) (stored : StoredSession) : Except CaptureStoreError Unit :=
  raiseIf (stored.session.healthMarkerCount ≠ stored.health.length
    ∨ stored.session.healthSetDigest ≠ CaptureTags.healthSetDigest key stored.health) .integrity

/-- The loop of `_verify_transport_chain` over the events. -/
def loadTransportEvents (key : SessionKey) : ℕ → List CaptureEvent → Except CaptureStoreError Unit
  | _, [] => pure ()
  | ordinal, event :: rest => do
    loadVerifiedEvent key event
    raiseIf (event.receiptOrdinal ≠ ordinal) .integrity
    loadTransportEvents key (ordinal + 1) rest

/-- The tag of the event of an ordinal, nothing for the ordinal zero. -/
def eventTagAt (events : List CaptureEvent) : ℕ → Option String
  | 0 => none
  | ordinal + 1 => (events[ordinal]?).map CaptureEvent.eventTag

/-- The loop of `_verify_transport_chain` over the receipts, after those that were read, with the tag and
the event count of the last one. -/
def verifyReceipts (key : SessionKey) (events : List CaptureEvent) :
    List TransportRow → Option String → ℕ → List TransportRow → Except CaptureStoreError (Option String × ℕ)
  | _, previous, previousEventCount, [] => pure (previous, previousEventCount)
  | earlier, previous, previousEventCount, row :: rest => do
    raiseIf (row.receiptTag ≠ CaptureTags.transportReceiptTag key row.toTransportMaterial) .integrity
    raiseIf (row.transportOrdinal ≠ earlier.length + 1 ∨ row.previousReceiptTag ≠ previous
      ∨ row.chunkCount ≤ row.chunkIndex
      ∨ (∃ other ∈ earlier, other.batchRef = row.batchRef ∧ other.chunkCount ≠ row.chunkCount)
      ∨ row.postEventCount < previousEventCount ∨ events.length < row.postEventCount
      ∨ eventTagAt events row.postEventCount ≠ row.postHeadEventTag) .integrity
    raiseIf (∃ other ∈ earlier, other.batchRef = row.batchRef ∧ other.chunkIndex = row.chunkIndex) .integrity
    verifyReceipts key events (earlier ++ [row]) (some row.receiptTag) row.postEventCount rest

/-- How many batches lack chunks. -/
def incompleteBatches (receipts : List TransportRow) : ℕ :=
  (receipts.map fun row => (row.batchRef, row.chunkCount)).dedup.countP fun batch =>
    receipts.countP (fun row => row.batchRef = batch.1) ≠ batch.2

/-- `_verify_transport_chain`, with the number of incomplete batches. -/
def verifyTransportChain (transportProfile : Bool) (key : SessionKey) (stored : StoredSession)
    (allowPendingEventTail : Bool := false) : Except CaptureStoreError ℕ :=
  if transportProfile = false then do
    raiseIf (stored.session.transportHeadTag ≠ none ∨ stored.receipts ≠ [] ∨ stored.transportHead ≠ none)
      .integrity
    pure 0
  else match stored.session.transportHeadTag with
    | none => do
      raiseIf (stored.receipts ≠ [] ∨ stored.transportHead ≠ none) .integrity
      pure 0
    | some tag => do
      let head ← expect stored.transportHead .integrity
      raiseIf (tag ≠ CaptureTags.transportHeadTag key head) .integrity
      loadTransportEvents key 1 stored.events
      let last ← verifyReceipts key stored.events [] none 0 stored.receipts
      raiseIf (stored.receipts.length ≠ head.receiptCount ∨ last.1 ≠ head.headReceiptTag) .integrity
      raiseIf (last.2 ≠ stored.events.length ∧ allowPendingEventTail = false
        ∧ (stored.session.coverageDegraded = false
          ∨ ∃ event ∈ stored.events.drop last.2, event.admissionSource ≠ .spoolDrain)) .integrity
      pure (incompleteBatches stored.receipts)

/-- `_verify_chain`, and `_verify_append_chain`. -/
def verifyChain (transportProfile : Bool) (key : SessionKey) (stored : StoredSession)
    (allowPendingTransportTail : Bool := false) : Except CaptureStoreError Unit := do
  let previous ← verifyEvents key 1 none stored.events
  raiseIf (stored.events.length ≠ stored.session.eventCount ∨ stored.events.length ≠ stored.head.receiptCount
    ∨ previous ≠ stored.head.headEventTag) .integrity
  verifyHealthSet key stored
  let _ ← verifyTransportChain transportProfile key stored allowPendingTransportTail
  pure ()

/-- `_verify_append_commitment` of a chain whose head was verified before. -/
def verifyLatest (key : SessionKey) (stored : StoredSession) : Except CaptureStoreError Unit := do
  raiseIf (stored.events.length ≠ stored.head.receiptCount) .integrity
  match stored.events.getLast? with
  | none => do
    raiseIf (stored.head.receiptCount ≠ 0 ∨ stored.head.headEventTag ≠ none) .integrity
    verifyHealthSet key stored
  | some latest => do
    raiseIf (latest.receiptOrdinal ≠ stored.head.receiptCount) .integrity
    loadVerifiedEvent key latest
    raiseIf (some latest.eventTag ≠ stored.head.headEventTag) .integrity
    verifyHealthSet key stored

/-! ## Rows that are read and written -/

/-- `_connection_row`. -/
def connectionRow (connectionId : ComponentIdentifier) : StoreM CaptureConnection := do
  let t ← get
  expect (t.store.connections.get? connectionId) CaptureStoreError.state

/-- `_session_row`, with the other rows of the session. -/
def sessionRow (key : SessionKey) : StoreM StoredSession := do
  let t ← get
  expect (t.store.sessions.get? key) CaptureStoreError.integrity

/-- `_append_session_row`. -/
def appendSessionRow (key : SessionKey) : StoreM (Option StoredSession) := do
  let t ← get
  raiseIf (t.store.tombstones.any fun tombstone => decide (tombstone = key)) CaptureStoreError.state
  let stored := t.store.sessions.get? key
  raiseIf (stored.any fun stored => decide (stored.session.state = .deleting)) CaptureStoreError.state
  pure stored

/-- The rows of a session are written. -/
def putSession (key : SessionKey) (stored : StoredSession) : StoreM Unit :=
  modify fun t => { t with store.sessions := t.store.sessions.set key stored }

/-- The head of a chain is known to be verified. -/
def putVerified (key : SessionKey) (head : CaptureHead) : StoreM Unit :=
  modify fun t => { t with verified := t.verified.set key head }

/-- `_update_session`. -/
def updateSession (key : SessionKey) (stored : StoredSession) (state : CaptureSessionState) (eventCount : ℕ)
    (coverageDegraded : Bool) : StoreM StoredSession := do
  let updated : StoredSession := { stored with session := { stored.session with state, eventCount, coverageDegraded } }
  putSession key updated
  pure updated

/-- The transport head of a new session. -/
def newTransportHead (profile : CaptureProfile) : Option TransportHead :=
  if profile.isTransport then some ⟨0, none⟩ else none

/-- A session without events. -/
def newSession (key : SessionKey) (profile : CaptureProfile) (state : CaptureSessionState)
    (coverageDegraded : Bool) : StoredSession where
  session := {
    state
    eventCount := 0
    coverageDegraded
    transportHeadTag := (newTransportHead profile).map (CaptureTags.transportHeadTag key)
    healthMarkerCount := 0
    healthSetDigest := CaptureTags.healthSetDigest key [] }
  head := ⟨0, none⟩
  transportHead := newTransportHead profile
  events := []
  receipts := []
  health := []

/-- `_create_session`. -/
def createSession (intake : CaptureIntake) (forceCoverageDegraded : Bool) : StoreM StoredSession := do
  let stored := newSession intake.session intake.adapterProfile .opened
    (forceCoverageDegraded || intake.captureDisposition ≠ .captured)
  putSession intake.session stored
  pure stored

/-- `_create_degraded_session`. -/
def createDegradedSession (key : SessionKey) : StoreM StoredSession := do
  let connection ← connectionRow key.1
  let stored := newSession key connection.profile .quarantined true
  putSession key stored
  pure stored

/-- The health rows after a code was recorded once more. -/
def countHealth (code : CaptureHealthCode) (health : List CaptureHealth) : List CaptureHealth :=
  if ∃ row ∈ health, row.code = code then
    health.map fun row => if row.code = code then { row with count := row.count + 1 } else row
  else health ++ [⟨code, 1⟩]

/-- A session with other health rows. -/
def withHealth (key : SessionKey) (stored : StoredSession) (health : List CaptureHealth) : StoredSession :=
  { stored with
    health
    session := { stored.session with
      healthMarkerCount := health.length
      healthSetDigest := CaptureTags.healthSetDigest key health } }

/-- `_record_health`. -/
def recordHealth (key : SessionKey) (code : CaptureHealthCode) : StoreM Unit := do
  let stored ← sessionRow key
  verifyHealthSet key stored
  let updated := withHealth key stored (countHealth code stored.health)
  putSession key updated
  verifyHealthSet key updated

/-- `_mark_transport_fallback_session`. -/
def markTransportFallbackSession (key : SessionKey) (stored : StoredSession) : StoreM StoredSession := do
  let connection ← connectionRow key.1
  raiseIf (connection.profile.isTransport = false) CaptureStoreError.integrity
  let updated ← updateSession key stored stored.session.state stored.session.eventCount true
  let _ ← verifyTransportChain connection.profile.isTransport key updated
  pure updated

/-- `_verify_append_commitment`. -/
def verifyAppendCommitment (key : SessionKey) (stored : StoredSession) : StoreM Unit := do
  raiseIf (stored.session.eventCount ≠ stored.head.receiptCount) CaptureStoreError.integrity
  let t ← get
  if t.verified.get? key = some stored.head then verifyLatest key stored
  else do
    let connection ← connectionRow key.1
    verifyChain connection.profile.isTransport key stored
    putVerified key stored.head

/-- `_quarantine_transport_session`. -/
def quarantineTransportSession (code : CaptureHealthCode) (key : SessionKey) : StoreM Unit := do
  let existing ← appendSessionRow key
  match existing with
  | none => do
    let _ ← createDegradedSession key
  | some stored => do
    verifyAppendCommitment key stored
    if stored.session.state ≠ .quarantined ∨ stored.session.coverageDegraded = false then do
      let _ ← updateSession key stored .quarantined stored.session.eventCount true
  let stored ← sessionRow key
  verifyHealthSet key stored
  if ∃ row ∈ stored.health, row.code = code then pure () else recordHealth key code

end CaptureStore

end SalienceGate
