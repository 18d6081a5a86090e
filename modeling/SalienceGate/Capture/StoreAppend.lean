import SalienceGate.Capture.Store

/-!
# Appending to the capture store

An intake is appended to the chain of its session once: an intake that is there is replayed, and one
whose producer digest is there with other content quarantines the sessions of both. A chunk of a bridge
is admitted as a whole, with a receipt that covers the events of its session, or not at all.
-/

namespace SalienceGate

open Checked Stateful

variable [CaptureKey] [CaptureTags]

namespace CaptureStore

/-! ## Single intakes -/

/-- The event of a connection with a producer digest, with its session. -/
def eventOf (store : CaptureStore) (connectionId : ComponentIdentifier) (digest : Sha256Digest) :
    Option (SessionKey × CaptureEvent) :=
  store.sessions.items.findSome? fun entry =>
    if entry.1.1 = connectionId then
      (entry.2.events.find? fun event => event.intake.producerEventDigest = digest).map fun event =>
        (entry.1, event)
    else none

/-- `_replay_receipt`. -/
def replayReceipt (event : CaptureEvent) (session : CaptureSession) : CaptureAppendReceipt where
  disposition := .replayed
  connectionId := event.intake.connectionId
  sessionId := event.intake.sessionId
  producerEventDigest := event.intake.producerEventDigest
  receiptOrdinal := some event.receiptOrdinal
  previousEventTag := event.previousEventTag
  eventTag := some event.eventTag
  sessionState := session.state
  eventCount := session.eventCount

/-- The receipt of an intake that quarantined its session. -/
def quarantineReceipt (disposition : CaptureAppendDisposition) (intake : CaptureIntake) (eventCount : ℕ) :
    CaptureAppendReceipt where
  disposition
  connectionId := intake.connectionId
  sessionId := intake.sessionId
  producerEventDigest := intake.producerEventDigest
  receiptOrdinal := none
  previousEventTag := none
  eventTag := none
  sessionState := .quarantined
  eventCount

/-- The states of a connection that takes intakes of a source. -/
def allowedState (source : CaptureAdmissionSource) (state : CaptureConnectionState) : Prop :=
  match source with
  | .direct => state = .enabled
  | .spoolDrain => state = .enabled ∨ state = .draining ∨ state = .disabled

instance decidableAllowedState (source : CaptureAdmissionSource) (state : CaptureConnectionState) :
    Decidable (allowedState source state) := by
  unfold allowedState
  cases source <;> infer_instance

/-- A session whose intake collides with an event of another session, or of itself, is quarantined. -/
def quarantineCollision (intake : CaptureIntake) (transportFallback : Bool) (existingKey : SessionKey)
    (key : SessionKey) : StoreM Unit := do
  let session ← appendSessionRow key
  let stored ← match session with
    | none => do
      raiseIf (key ≠ intake.session) CaptureStoreError.integrity
      createSession intake transportFallback
    | some stored => do
      if key ≠ existingKey then verifyAppendCommitment key stored
      pure stored
  let _ ← updateSession key stored .quarantined stored.session.eventCount true
  recordHealth key .producerCollision

/-- An intake whose producer digest is that of an event. -/
def appendKnown (intake : CaptureIntake) (connection : CaptureConnection) (source : CaptureAdmissionSource)
    (transportBound transportFallback : Bool) (existingKey : SessionKey) (existing : CaptureEvent) :
    StoreM CaptureAppendReceipt := do
  loadVerifiedEvent existingKey existing
  let found ← appendSessionRow existingKey
  let stored ← expect found CaptureStoreError.integrity
  verifyChain connection.profile.isTransport existingKey stored transportBound
  if existing.intake = intake then do
    let stored ← (if transportFallback then markTransportFallbackSession existingKey stored else pure stored)
    pure (replayReceipt existing stored.session)
  else do
    raiseIf (¬allowedState source connection.state) CaptureStoreError.state
    ([intake.session, existingKey].dedup).forM (quarantineCollision intake transportFallback existingKey)
    let incoming ← sessionRow intake.session
    pure (quarantineReceipt .quarantined intake incoming.session.eventCount)

/-- The event that an intake becomes, after the head of a chain. -/
def newEvent (intake : CaptureIntake) (source : CaptureAdmissionSource) (admittedAt : UtcDatetime)
    (head : CaptureHead) : CaptureEvent where
  receiptOrdinal := head.receiptCount + 1
  previousEventTag := head.headEventTag
  eventTag := CaptureTags.eventTag intake.session (head.receiptCount + 1) intake head.headEventTag source admittedAt
  intake
  admissionSource := source
  admittedAt

/-- A session with another event at the end of its chain. -/
def withEvent (stored : StoredSession) (event : CaptureEvent) (transportFallback : Bool) : StoredSession :=
  { stored with
    events := stored.events ++ [event]
    head := ⟨event.receiptOrdinal, some event.eventTag⟩
    session := { stored.session with
      state := if event.intake.content = .sessionFinished then .closed else .opened
      eventCount := event.receiptOrdinal
      coverageDegraded := stored.session.coverageDegraded || event.intake.captureDisposition ≠ .captured
        || transportFallback } }

/-- An intake is the next event of its session, which is open, if the session has room. -/
def extendSession (intake : CaptureIntake) (source : CaptureAdmissionSource) (transportFallback : Bool)
    (admittedAt : UtcDatetime) (stored : StoredSession) : StoreM CaptureAppendReceipt := do
  verifyAppendCommitment intake.session stored
  let stored ← (if transportFallback then markTransportFallbackSession intake.session stored else pure stored)
  if maxCaptureEventsPerSession ≤ stored.head.receiptCount then do
    let stored ← updateSession intake.session stored .quarantined stored.session.eventCount true
    recordHealth intake.session .sessionOverflow
    pure (quarantineReceipt .overflow intake stored.session.eventCount)
  else do
    let event := newEvent intake source admittedAt stored.head
    let updated := withEvent stored event transportFallback
    putSession intake.session updated
    pure {
      disposition := .admitted
      connectionId := intake.connectionId
      sessionId := intake.sessionId
      producerEventDigest := intake.producerEventDigest
      receiptOrdinal := some event.receiptOrdinal
      previousEventTag := event.previousEventTag
      eventTag := some event.eventTag
      sessionState := updated.session.state
      eventCount := updated.session.eventCount }

/-- An intake whose producer digest is new. -/
def appendNew (intake : CaptureIntake) (connection : CaptureConnection) (source : CaptureAdmissionSource)
    (transportFallback : Bool) (admittedAt : UtcDatetime) (incoming : Option StoredSession) :
    StoreM CaptureAppendReceipt := do
  raiseIf (¬allowedState source connection.state) CaptureStoreError.state
  match incoming with
  | none => do
    raiseIf (intake.content ≠ .sessionStarted) CaptureStoreError.state
    let stored ← createSession intake transportFallback
    extendSession intake source transportFallback admittedAt stored
  | some stored =>
    if transportFallback ∧ (stored.session.state = .closed ∨ stored.session.state = .quarantined) then do
      quarantineTransportSession .gapDetected intake.session
      let stored ← sessionRow intake.session
      pure (quarantineReceipt .quarantined intake stored.session.eventCount)
    else do
      raiseIf (stored.session.state ≠ .opened ∨ intake.content = .sessionStarted) CaptureStoreError.state
      extendSession intake source transportFallback admittedAt stored

/-- `_append_authenticated_in_transaction`. -/
def appendAuthenticated (intake : CaptureIntake) (source : CaptureAdmissionSource) (transportBound : Bool)
    (admittedAt : UtcDatetime) : StoreM CaptureAppendReceipt := do
  let connection ← connectionRow intake.connectionId
  raiseIf (connection.profile ≠ intake.adapterProfile
    ∨ connection.capabilityManifestDigest ≠ intake.capabilityManifestDigest) CaptureStoreError.state
  raiseIf (connection.state = .deleting) CaptureStoreError.state
  raiseIf (connection.profile.isTransport ∧ source = .direct ∧ transportBound = false) CaptureStoreError.state
  let transportFallback := connection.profile.isTransport && source = .spoolDrain && !transportBound
  let incoming ← appendSessionRow intake.session
  let t ← get
  match t.store.eventOf intake.connectionId intake.producerEventDigest with
  | some (existingKey, existing) =>
    appendKnown intake connection source transportBound transportFallback existingKey existing
  | none => appendNew intake connection source transportFallback admittedAt incoming

/-! ## Chunks -/

/-- `CaptureTransportDisposition`. -/
inductive CaptureTransportDisposition where
  | admitted | replayed | quarantined | overflow
deriving DecidableEq

/-- `CaptureTransportReceipt`. -/
structure CaptureTransportReceipt where
  disposition : CaptureTransportDisposition
  chunk : CaptureTransportChunk
  intakeCount : ℕ
  transportOrdinal : Option ℕ
  previousReceiptTag : Option String
  receiptTag : Option String
  incompleteBatchCount : ℕ
  eventCount : ℕ
deriving DecidableEq

/-- The receipts of a batch of a connection, with their sessions. -/
def batchRows (store : CaptureStore) (connectionId : ComponentIdentifier) (batchRef : Sha256Digest) :
    List (SessionKey × TransportRow) :=
  store.sessions.items.flatMap fun entry =>
    if entry.1.1 = connectionId then
      (entry.2.receipts.filter fun row => row.batchRef = batchRef).map fun row => (entry.1, row)
    else []

/-- `_verify_transport_chain` of a session. -/
def verifyTransportSession (key : SessionKey) (allowPendingEventTail : Bool := false) : StoreM ℕ := do
  let connection ← connectionRow key.1
  let stored ← sessionRow key
  verifyTransportChain connection.profile.isTransport key stored allowPendingEventTail

/-- `_transport_failure_receipt`. -/
def transportFailureReceipt (chunk : CaptureTransportChunk) (disposition : CaptureTransportDisposition)
    (intakeCount : ℕ) : StoreM CaptureTransportReceipt := do
  let incomplete ← verifyTransportSession chunk.session
  let stored ← sessionRow chunk.session
  pure ⟨disposition, chunk, intakeCount, none, none, none, incomplete, stored.session.eventCount⟩

/-- The sessions that a chunk affects are quarantined, its own among them. -/
def quarantineChunk (chunk : CaptureTransportChunk) (code : CaptureHealthCode)
    (disposition : CaptureTransportDisposition) (intakeCount : ℕ) (affected : List SessionKey) :
    StoreM (CaptureTransportReceipt × Bool) := do
  ((chunk.session :: affected).dedup.mergeSort sessionBefore).forM (quarantineTransportSession code)
  let receipt ← transportFailureReceipt chunk disposition intakeCount
  pure (receipt, true)

/-- A chunk whose index has a receipt is replayed if it is the same. -/
def replayChunk (chunk : CaptureTransportChunk) (intakes : List CaptureIntake) (existingKey : SessionKey)
    (existing : TransportRow) : StoreM (CaptureTransportReceipt × Bool) := do
  let incomplete ← verifyTransportSession existingKey
  if existingKey = chunk.session ∧ existing.chunkCount = chunk.chunkCount
      ∧ existing.chunkDigest = chunk.chunkDigest ∧ existing.intakeCount = intakes.length
      ∧ existing.intakeSetDigest = CaptureTags.intakeSetDigest intakes then do
    let connection ← connectionRow chunk.connectionId
    let stored ← sessionRow chunk.session
    verifyChain connection.profile.isTransport chunk.session stored
    raiseIf (∃ intake ∈ intakes, ∀ event ∈ stored.events, event.intake ≠ intake) CaptureStoreError.integrity
    pure (⟨.replayed, chunk, intakes.length, some existing.transportOrdinal, existing.previousReceiptTag,
      some existing.receiptTag, incomplete, stored.session.eventCount⟩, false)
  else quarantineChunk chunk .producerCollision .quarantined intakes.length [existingKey]

/-- Why the intakes of a chunk are not admitted, with the session of the event that one collides with. -/
abbrev ChunkFailure := CaptureTransportDisposition × Option SessionKey

/-- The intakes of a chunk are appended one after the other, until one is not admitted. -/
def admitIntakes (chunk : CaptureTransportChunk) (clock : ℕ → UtcDatetime) :
    ℕ → List CaptureIntake → StoreM (Option ChunkFailure)
  | _, [] => pure none
  | position, intake :: rest => do
    let t ← get
    let prior := (t.store.eventOf intake.connectionId intake.producerEventDigest).map Prod.fst
    let appended ← appendAuthenticated intake .direct true (clock position)
    match appended.disposition with
    | .admitted => do
      putVerified chunk.session ⟨appended.receiptOrdinal.getD 0, appended.eventTag⟩
      admitIntakes chunk clock (position + 1) rest
    | .replayed => admitIntakes chunk clock (position + 1) rest
    | .overflow => pure (some (.overflow, none))
    | .quarantined => pure (some (.quarantined, prior))

/-- The receipt row of a chunk, after the receipts of its session. -/
def newReceipt (chunk : CaptureTransportChunk) (intakes : List CaptureIntake) (admittedAt : UtcDatetime)
    (stored : StoredSession) (head : TransportHead) : TransportRow :=
  let material : TransportMaterial := {
    transportOrdinal := head.receiptCount + 1
    batchRef := chunk.batchRef
    chunkIndex := chunk.chunkIndex
    chunkCount := chunk.chunkCount
    chunkDigest := chunk.chunkDigest
    intakeCount := intakes.length
    intakeSetDigest := CaptureTags.intakeSetDigest intakes
    postEventCount := stored.session.eventCount
    postHeadEventTag := stored.head.headEventTag
    previousReceiptTag := head.headReceiptTag
    admittedAt }
  { material with receiptTag := CaptureTags.transportReceiptTag chunk.session material }

/-- A session with another receipt at the end of its chain. -/
def withReceipt (key : SessionKey) (stored : StoredSession) (row : TransportRow) : StoredSession :=
  let head : TransportHead := ⟨row.transportOrdinal, some row.receiptTag⟩
  { stored with
    receipts := stored.receipts ++ [row]
    transportHead := some head
    session := { stored.session with transportHeadTag := some (CaptureTags.transportHeadTag key head) } }

/-- The intakes of a chunk are admitted, and the chunk gets its receipt. -/
def admitChunk (chunk : CaptureTransportChunk) (intakes : List CaptureIntake) (clock : ℕ → UtcDatetime) :
    StoreM (CaptureTransportReceipt × Bool) := do
  let savepoint ← get
  let failure ← admitIntakes chunk clock 0 intakes
  match failure with
  | some (disposition, prior) => do
    modify fun t => { t with store := savepoint.store }
    let code : CaptureHealthCode := if disposition = .overflow then .sessionOverflow else .producerCollision
    quarantineChunk chunk code disposition intakes.length prior.toList
  | none => do
    let stored ← sessionRow chunk.session
    let _ ← verifyTransportSession chunk.session true
    let head ← expect stored.transportHead CaptureStoreError.integrity
    if maxCaptureTransportChunksPerSession ≤ head.receiptCount then do
      modify fun t => { t with store := savepoint.store }
      quarantineChunk chunk .sessionOverflow .overflow intakes.length []
    else do
      let row := newReceipt chunk intakes (clock intakes.length) stored head
      let updated := withReceipt chunk.session stored row
      putSession chunk.session updated
      let incomplete ← verifyTransportSession chunk.session
      pure (⟨.admitted, chunk, intakes.length, some row.transportOrdinal, row.previousReceiptTag,
        some row.receiptTag, incomplete, updated.session.eventCount⟩, true)

/-- A session that predates the receipts of its bridge gets an empty chain of them. -/
def requireTransport (key : SessionKey) (stored : StoredSession) : StoreM Unit := do
  let head : TransportHead := ⟨0, none⟩
  putSession key { stored with
    transportHead := some head
    session := { stored.session with
      state := .opened
      coverageDegraded := true
      transportHeadTag := some (CaptureTags.transportHeadTag key head) } }
  let _ ← verifyTransportSession key true

/-- A chunk without a receipt, of a batch that is its session's alone. -/
def extendChunks (chunk : CaptureTransportChunk) (intakes : List CaptureIntake) (clock : ℕ → UtcDatetime) :
    StoreM (CaptureTransportReceipt × Bool) := do
  let existing ← appendSessionRow chunk.session
  match existing with
  | none => do
    raiseIf ((intakes.head?.map fun intake => intake.content) ≠ some .sessionStarted) CaptureStoreError.state
    admitChunk chunk intakes clock
  | some stored => do
    verifyAppendCommitment chunk.session stored
    if stored.session.state = .quarantined then do
      verifyHealthSet chunk.session stored
      let disposition : CaptureTransportDisposition :=
        if ∃ row ∈ stored.health, row.code = .sessionOverflow then .overflow else .quarantined
      let receipt ← transportFailureReceipt chunk disposition intakes.length
      pure (receipt, false)
    else if stored.session.state ≠ .opened then do
      verifyHealthSet chunk.session stored
      quarantineChunk chunk .producerCollision .quarantined intakes.length []
    else do
      let _ ← verifyTransportSession chunk.session
      if stored.session.transportHeadTag = none then requireTransport chunk.session stored
      let current ← sessionRow chunk.session
      let head ← expect current.transportHead CaptureStoreError.integrity
      if maxCaptureTransportChunksPerSession ≤ head.receiptCount then
        quarantineChunk chunk .sessionOverflow .overflow intakes.length []
      else admitChunk chunk intakes clock

/-- The part of `append_transport_chunk` in its transaction. -/
def chunkAuthenticated (chunk : CaptureTransportChunk) (intakes : List CaptureIntake)
    (clock : ℕ → UtcDatetime) : StoreM (CaptureTransportReceipt × Bool) := do
  let connection ← connectionRow chunk.connectionId
  raiseIf (connection.profile.isTransport = false ∨ connection.state ≠ .enabled
    ∨ ∃ intake ∈ intakes, intake.adapterProfile ≠ connection.profile
      ∨ intake.capabilityManifestDigest ≠ connection.capabilityManifestDigest) CaptureStoreError.state
  let t ← get
  let batch := t.store.batchRows chunk.connectionId chunk.batchRef
  match batch.find? fun entry => entry.2.chunkIndex = chunk.chunkIndex with
  | some (existingKey, existing) => replayChunk chunk intakes existingKey existing
  | none => do
    let sessions := (batch.map Prod.fst).dedup
    (sessions.mergeSort sessionBefore).forM fun key => do
      let _ ← verifyTransportSession key
    if ∃ entry ∈ batch, entry.1 ≠ chunk.session ∨ entry.2.chunkCount ≠ chunk.chunkCount then
      quarantineChunk chunk .producerCollision .quarantined intakes.length sessions
    else extendChunks chunk intakes clock

/-! ## Transactions -/

/-- A transaction ends: an error, or a result that writes nothing, leaves the rows as they were. -/
def commit (x : StoreM α) (writes : α → Bool) (verified : Dict SessionKey CaptureHead)
    (store : CaptureStore) : Except CaptureStoreError α × CaptureStore :=
  match x ⟨store, verified⟩ with
  | .ok result t => (.ok result, if writes result then t.store else store)
  | .error e _ => (.error e, store)

/-- `append`, after it began its transaction. -/
def append (intake : CaptureIntake) (source : CaptureAdmissionSource) (admittedAt : UtcDatetime)
    (verified : Dict SessionKey CaptureHead) (store : CaptureStore) :
    Except CaptureStoreError CaptureAppendReceipt × CaptureStore :=
  if CaptureKey.authenticates intake = false then (.error .integrity, store)
  else commit (appendAuthenticated intake source false admittedAt)
    (fun receipt => receipt.disposition ≠ .replayed) verified store

/-- `append_transport_chunk`, after it began its transaction. -/
def appendTransportChunk (chunk : CaptureTransportChunk) (intakes : List CaptureIntake)
    (clock : ℕ → UtcDatetime) (verified : Dict SessionKey CaptureHead) (store : CaptureStore) :
    Except CaptureStoreError CaptureTransportReceipt × CaptureStore :=
  if maxCaptureTransportChunksPerSession < intakes.length then (.error .invalid, store)
  else if ∃ intake ∈ intakes, CaptureKey.authenticates intake = false then (.error .integrity, store)
  else if ∃ intake ∈ intakes, intake.session ≠ chunk.session then (.error .state, store)
  else
    let ended := commit (chunkAuthenticated chunk intakes clock) Prod.snd verified store
    (ended.1.map Prod.fst, ended.2)

/-- The part of `mark_session_health` in its transaction. -/
def markAuthenticated (key : SessionKey) (code : CaptureHealthCode) : StoreM Unit := do
  let connection ← connectionRow key.1
  raiseIf (connection.state ≠ .enabled) CaptureStoreError.state
  let existing ← appendSessionRow key
  match existing with
  | none => do
    let _ ← createDegradedSession key
  | some stored => do
    verifyAppendCommitment key stored
    let _ ← updateSession key stored stored.session.state stored.session.eventCount true
  recordHealth key code

/-- `mark_session_health`, after it began its transaction. -/
def markSessionHealth (key : SessionKey) (code : CaptureHealthCode) (verified : Dict SessionKey CaptureHead)
    (store : CaptureStore) : Except CaptureStoreError Unit × CaptureStore :=
  commit (markAuthenticated key code) (fun _ => true) verified store

end CaptureStore

end SalienceGate
