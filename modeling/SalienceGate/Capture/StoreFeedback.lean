import SalienceGate.Capture.StoreAppend

/-!
# Feedback in the capture store

A closed session has a history of labels. Each revision is a row that is named by what it says, its place and the row
before it, and a last row anchors the history: it names the last revision and how many there are, and is replaced with
every revision. The rows are read in the order of the texts of their times.
-/

namespace SalienceGate

open Checked Stateful

namespace CaptureStore

/-! ## Rows -/

/-- `MAX_CAPTURE_FEEDBACK_REVISIONS_PER_SESSION`. -/
def maxCaptureFeedbackRevisionsPerSession : ℕ := 1000

/-- `_MAX_CAPTURE_QUERY_RESULTS`. -/
def maxCaptureQueryResults : ℕ := 1000

/-- `ORDER BY created_at, label_id`. -/
def feedbackBefore (row other : FeedbackRow) : Bool :=
  decide (row.createdAt < other.createdAt ∨ row.createdAt = other.createdAt ∧ row.labelId ≤ other.labelId)

/-- The feedback rows of a session. -/
def feedbackOf (store : CaptureStore) (key : SessionKey) : List FeedbackRow := (store.feedback.get? key).getD []

/-- `_stored_timestamp`, of a text that is also checked to be the `isoformat()` of its time in UTC. -/
def storedTimestamp (text : String) : Except CaptureStoreError Datetime := expect (Datetime.ofOffsetText text) .integrity

variable [CaptureTags]

/-- The loop of `_verified_feedback_rows`, after a row and its time. -/
def verifyRevisions (key : SessionKey) : ℕ → Option (FeedbackRow × Datetime) → List FeedbackRow →
    Except CaptureStoreError (Option (FeedbackRow × Datetime))
  | _, previous, [] => pure previous
  | revision, previous, row :: rest => do
    let createdAt ← storedTimestamp row.createdAt
    raiseIf ((∃ before ∈ previous, createdAt ≤ before.2) ∨ ∃ before ∈ previous, row.label = before.1.label) .integrity
    raiseIf (row.labelId ≠ CaptureTags.feedbackId key revision (previous.map fun before => before.1.labelId) row.label
      row.createdAt) .integrity
    verifyRevisions key (revision + 1) (some (row, createdAt)) rest

/-- `_verified_feedback_rows`. -/
def verifiedFeedbackRows (key : SessionKey) (stored : List FeedbackRow) : Except CaptureStoreError (List FeedbackRow) := do
  let rows := stored.mergeSort feedbackBefore
  match rows.getLast? with
  | none => pure []
  | some anchor => do
    raiseIf (¬(2 ≤ rows.length ∧ rows.length ≤ maxCaptureFeedbackRevisionsPerSession + 1)) .integrity
    let revisions := rows.dropLast
    let last ← verifyRevisions key 1 none revisions
    let (head, createdAt) ← expect last .integrity
    let anchorCreatedAt ← storedTimestamp anchor.createdAt
    raiseIf (anchor.label ≠ head.label ∨ anchorCreatedAt ≤ createdAt
      ∨ anchor.labelId ≠ CaptureTags.feedbackAnchorId key revisions.length head.labelId head.label anchor.createdAt)
      .integrity
    pure revisions

/-! ## Recording -/

/-- `CaptureFeedbackWriteDisposition`. -/
inductive CaptureFeedbackWriteDisposition where
  | recorded | unchanged | changed
deriving DecidableEq

/-- `CaptureFeedbackReceipt`, but for the session. -/
structure CaptureFeedbackReceipt where
  label : CaptureFeedbackLabel
  disposition : CaptureFeedbackWriteDisposition
  revisionCount : ℕ
  labeledAt : Datetime
deriving DecidableEq

/-- The feedback rows of a session are replaced. -/
def putFeedback (store : CaptureStore) (key : SessionKey) (rows : List FeedbackRow) : CaptureStore :=
  { store with feedback := store.feedback.set key rows }

/-- A row is inserted, whose id is the primary key of the table. -/
def insertFeedback (key : SessionKey) (row : FeedbackRow) : StoreM Unit := do
  let t ← get
  raiseIf (∃ rows ∈ t.store.feedback.values, ∃ other ∈ rows, other.labelId = row.labelId) CaptureStoreError.invalid
  modify fun t => { t with store := t.store.putFeedback key (t.store.feedbackOf key ++ [row]) }

/-- The anchor of a history is deleted, and its time is read: `ORDER BY created_at DESC, label_id DESC LIMIT 1`. -/
def deleteAnchor (key : SessionKey) : StoreM Datetime := do
  let t ← get
  let rows := t.store.feedbackOf key
  let anchor ← expect (rows.mergeSort feedbackBefore).getLast? CaptureStoreError.integrity
  let createdAt ← storedTimestamp anchor.createdAt
  raiseIf (rows.countP (fun row => row.labelId = anchor.labelId) ≠ 1) CaptureStoreError.integrity
  modify fun t => { t with
    store := t.store.putFeedback key ((t.store.feedbackOf key).filter fun row => row.labelId ≠ anchor.labelId) }
  pure createdAt

/-- A microsecond later, or the overflow of the calendar. -/
def microsecondAfter (timestamp : Datetime) : Except CaptureStoreError Datetime := expect timestamp.next .integrity

/-- `_verified_feedback_rows` and the checks before it, of a session that is named by its human id. `bound` is what
`validate_capture_capability_binding` says of its connection. -/
def feedbackSession (key : SessionKey) (projectDigest : Sha256Digest) (allowed : CaptureSessionState → Bool)
    [CaptureKey] (bound : CaptureConnection → Except CaptureStoreError Unit) : StoreM (List FeedbackRow) := do
  let t ← get
  let stored ← expect (t.store.sessions.get? key) CaptureStoreError.state
  let connection ← connectionRow key.1
  raiseIf (connection.projectDigest ≠ projectDigest) CaptureStoreError.state
  raiseIf (connection.state = .deleting ∨ allowed stored.session.state = false) CaptureStoreError.state
  verifyChain connection.profile.isTransport key stored
  bound connection
  verifiedFeedbackRows key (t.store.feedbackOf key)

/-- A revision of a history, and the anchor behind it. -/
def addRevision (key : SessionKey) (revisions : List FeedbackRow) (label : CaptureFeedbackLabel) (timestamp : Datetime) :
    StoreM CaptureFeedbackReceipt := do
  let revision := revisions.length + 1
  let labelId := CaptureTags.feedbackId key revision (revisions.getLast?.map FeedbackRow.labelId) label timestamp.offsetText
  insertFeedback key ⟨labelId, label, timestamp.offsetText⟩
  let anchorTimestamp ← microsecondAfter timestamp
  insertFeedback key ⟨CaptureTags.feedbackAnchorId key revision labelId label anchorTimestamp.offsetText, label,
    anchorTimestamp.offsetText⟩
  pure ⟨label, if revision = 1 then .recorded else .changed, revision, timestamp⟩

/-- `record_feedback`, in its transaction. The times of a session are not kept with its rows: `closedAt` is that of the
row, and `now` what the clock says. -/
def recordFeedback [CaptureKey] (key : SessionKey) (label : CaptureFeedbackLabel) (projectDigest : Sha256Digest)
    (bound : CaptureConnection → Except CaptureStoreError Unit) (closedAt now : Datetime) :
    StoreM CaptureFeedbackReceipt := do
  let rows ← feedbackSession key projectDigest (fun state => state = .closed) bound
  match rows.getLast? with
  | none => addRevision key rows label (if now < closedAt then closedAt else now)
  | some last =>
    if last.label = label then do
      let labeledAt ← storedTimestamp last.createdAt
      pure ⟨label, .unchanged, rows.length, labeledAt⟩
    else do
      raiseIf (maxCaptureFeedbackRevisionsPerSession ≤ rows.length) CaptureStoreError.state
      let previous ← deleteAnchor key
      let timestamp ← (if now ≤ previous then microsecondAfter previous else pure now)
      addRevision key rows label timestamp

/-! ## Reading -/

/-- `CaptureFeedbackRecord`. -/
structure CaptureFeedbackRecord extends FeedbackRecordMaterial where
  recordTag : String
deriving DecidableEq

/-- The rows whose times are before the freeze. -/
def selectRows (labelFreeze : Option Datetime) : List FeedbackRow → Except CaptureStoreError (List FeedbackRow)
  | [] => pure []
  | row :: rest =>
    match labelFreeze with
    | none => pure (row :: rest)
    | some freeze => do
      let createdAt ← storedTimestamp row.createdAt
      let selected ← selectRows labelFreeze rest
      pure (if createdAt < freeze then row :: selected else selected)

/-- The record of a session in `list_feedback`. -/
def feedbackRecord [CaptureKey] (labelFreeze : Option Datetime)
    (bound : CaptureConnection → Except CaptureStoreError Unit) (key : SessionKey) : StoreM CaptureFeedbackRecord := do
  let connection ← connectionRow key.1
  let stored ← sessionRow key
  raiseIf (connection.state = .deleting ∨ stored.session.state = .deleting) CaptureStoreError.state
  verifyChain connection.profile.isTransport key stored
  bound connection
  let t ← get
  let rows ← verifiedFeedbackRows key (t.store.feedbackOf key)
  let selected ← selectRows labelFreeze rows
  let latest ← expect selected.getLast? CaptureStoreError.integrity
  let labeledAt ← storedTimestamp latest.createdAt
  let material : FeedbackRecordMaterial := {
    projectDigest := connection.projectDigest
    profileId := connection.profile
    sessionId := key.2
    humanId := CaptureTags.humanId key
    label := latest.label
    revisionCount := selected.length
    labeledAt }
  pure { material with recordTag := CaptureTags.feedbackRecordTag material }

/-- The sessions of a project that have a feedback row before the freeze, by their human ids. -/
def feedbackSessions (store : CaptureStore) (projectDigest : Option Sha256Digest) (labelFreeze : Option Datetime) :
    List SessionKey :=
  (store.sessions.keys.filter fun key =>
    (store.connections.get? key.1).any (fun connection => decide (∀ digest ∈ projectDigest, connection.projectDigest = digest))
      && (store.feedbackOf key).any fun row => decide (∀ freeze ∈ labelFreeze, row.createdAt < freeze.offsetText)).mergeSort
    fun key other => decide (CaptureTags.humanId key ≤ CaptureTags.humanId other)

/-- `list_feedback`, in its transaction. -/
def listFeedback [CaptureKey] (projectDigest : Option Sha256Digest) (labelFreeze : Option Datetime) (limit : ℕ)
    (bound : CaptureConnection → Except CaptureStoreError Unit) : StoreM (List CaptureFeedbackRecord) := do
  raiseIf (¬(1 ≤ limit ∧ limit ≤ maxCaptureQueryResults)) CaptureStoreError.state
  let t ← get
  let keys := t.store.feedbackSessions projectDigest labelFreeze
  raiseIf (limit < keys.length) CaptureStoreError.state
  keys.mapM (feedbackRecord labelFreeze bound)

end CaptureStore

end SalienceGate
