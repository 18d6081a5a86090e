import SalienceGate.Capture.Intake
import SalienceGate.Lib.Checked
import SalienceGate.Lib.Dict
import SalienceGate.Lib.Locked

/-!
# The capture spool

The spool keeps the intakes that the store was too busy to take. It is a directory of files of three
kinds: an entry for each queued intake, a marker for each session that the store must not be given
intakes of, and a drop state, which counts what was lost. The files are written one at a time, under a
lock, and a call may crash between any two of them; the next call settles what it finds.

Nothing else writes the directory. The name of an entry or a marker is the tag of its content, so the
files are known by their contents here.
-/

namespace SalienceGate

open Checked

/-- `MAX_CAPTURE_SPOOL_BYTES`. -/
def maxCaptureSpoolBytes : ℕ := 32 * 1024 * 1024

/-- `MAX_CAPTURE_SPOOL_EVENTS`. -/
def maxCaptureSpoolEvents : ℕ := 10000

/-- `_MAX_BRIDGE_FALLBACK_EXISTING_EVENTS`. -/
def maxBridgeFallbackExistingEvents : ℕ := 32

/-! ## The directory -/

/-- The state of a session marker. -/
inductive MarkerState where
  | acknowledged | pending
deriving DecidableEq

/-- `last_drop_reason`. -/
inductive DropReason where
  | spoolIncomplete | spoolQuota
deriving DecidableEq

/-- The drop state of a spool that lost intakes. -/
structure DropState where
  droppedEvents : ℕ
  lastDropReason : DropReason
  /-- The tag of the marker of the session that was last counted. -/
  acknowledgedMarker : Option String
  /-- The tag of the marker that keeps out the chunks of bridges. -/
  bridgeBarrierMarker : Option String
  positive : 0 < droppedEvents
deriving DecidableEq

/-- `_drop_state`: what the drop state counts, nothing if there is none. -/
def droppedEvents (state : Option DropState) : ℕ := state.elim 0 DropState.droppedEvents

@[inherit_doc DropState.acknowledgedMarker]
def acknowledgedMarker (state : Option DropState) : Option String := state.bind DropState.acknowledgedMarker

@[inherit_doc DropState.bridgeBarrierMarker]
def bridgeBarrierMarker (state : Option DropState) : Option String := state.bind DropState.bridgeBarrierMarker

/-- The markers of sessions. -/
abbrev SessionMarkers := Dict SessionKey MarkerState

/-- The files of a spool. -/
structure Spool where
  entries : List CaptureIntake
  markers : SessionMarkers
  dropState : Option DropState

/-- A new spool. -/
def Spool.empty : Spool := ⟨[], .empty, none⟩

variable [CaptureKey]

/-- The length of the frame of an intake: a header, its tag and its canonical bytes, on lines. -/
def framedBytes (intake : CaptureIntake) : ℕ := 16 + 1 + 64 + 1 + CaptureKey.canonicalBytes intake

/-- The marker of a name. -/
def SessionMarkers.named? (markers : SessionMarkers) (tag : String) : Option (SessionKey × MarkerState) :=
  markers.items.find? fun marker => CaptureKey.sessionMarkerTag marker.1 = tag

/-- `_drain_order_key`, as numbers that are compared lexicographically. The texts of two instants are in
the order of the instants. -/
def drainOrderKey (intake : CaptureIntake) : List (List ℤ) :=
  let codes (text : String) : List ℤ := text.toList.map fun c => (c.toNat : ℤ)
  let lifecycleRank : ℤ := match intake.content with
    | .sessionStarted => 0
    | .sessionFinished => 2
    | _ => 1
  let authority : List ℤ := match intake.producerSequence, intake.occurredAt with
    | some producerSequence, _ => [0, producerSequence]
    | none, some occurredAt => [1, 0, occurredAt]
    | none, none => [2, 0]
  [codes intake.connectionId.text, codes intake.sessionId.text, lifecycleRank :: authority,
    codes (CaptureKey.recordTag intake)]

/-- `_drain_order_key` sorts an intake not after another. -/
def drainsBefore (intake other : CaptureIntake) : Bool :=
  !(List.lex (drainOrderKey other) (drainOrderKey intake) fun a b => List.lex a b)

/-! ## Requests -/

/-- A step on the files of the spool. -/
inductive SpoolFileRequest where
  /-- `_entries`. -/
  | entries
  /-- `_session_markers`. -/
  | sessionMarkers
  /-- `_drop_state_record`. -/
  | dropState
  /-- `_read_session_marker`. -/
  | sessionMarker (key : SessionKey)
  /-- `_decode_session_marker` of a name. -/
  | markerNamed (tag : String)
  /-- The scan of the names for entries. -/
  | backlog
  | publishMarker (key : SessionKey) (state : MarkerState)
  | publishEntry (intake : CaptureIntake)
  | publishDropState (state : DropState)
  | deleteEntry (intake : CaptureIntake)
  | deleteMarker (key : SessionKey)
  | deleteDropState

omit [CaptureKey] in
/-- What answers a step on the files. -/
@[reducible] def SpoolFileRequest.Reply : SpoolFileRequest → Type
  | .entries => List CaptureIntake
  | .sessionMarkers => SessionMarkers
  | .dropState => Option DropState
  | .sessionMarker _ => Option MarkerState
  | .markerNamed _ => Option (SessionKey × MarkerState)
  | .backlog => ℕ
  | .publishMarker .. | .publishEntry _ | .publishDropState _ | .deleteEntry _ | .deleteMarker _
  | .deleteDropState => Unit

/-- A step on the files: its answer, and the files after it. -/
def Spool.perform (spool : Spool) : (request : SpoolFileRequest) → request.Reply × Spool
  | .entries => (spool.entries.mergeSort drainsBefore, spool)
  | .sessionMarkers => (spool.markers, spool)
  | .dropState => (spool.dropState, spool)
  | .sessionMarker key => (spool.markers.get? key, spool)
  | .markerNamed tag => (spool.markers.named? tag, spool)
  | .backlog => (spool.entries.length, spool)
  | .publishMarker key state => ((), { spool with markers := spool.markers.set key state })
  | .publishEntry intake => ((), { spool with entries := spool.entries ++ [intake] })
  | .publishDropState state => ((), { spool with dropState := some state })
  | .deleteEntry intake => ((), { spool with entries := spool.entries.filter (· ≠ intake) })
  | .deleteMarker key => ((), { spool with markers := spool.markers.erase key })
  | .deleteDropState => ((), { spool with dropState := none })

/-- What a call of the spool asks: a step on the files, or a call of the store. -/
inductive SpoolRequest where
  | file (request : SpoolFileRequest)
  | append (source : CaptureAdmissionSource) (intake : CaptureIntake)
  | appendTransportChunk (chunk : CaptureTransportChunk) (intakes : List CaptureIntake)

omit [CaptureKey] in
/-- What answers a request. The spool does not look at the receipt of a chunk. -/
@[reducible] def SpoolRequest.Reply : SpoolRequest → Type
  | .file request => request.Reply
  | .append .. => CaptureAppendReceipt
  | .appendTransportChunk .. => Unit

/-- What a call of the spool raises, or what the store answers instead of a receipt. -/
inductive SpoolError where
  /-- `CaptureSpoolIntegrityError`. -/
  | integrity
  /-- `CaptureSpoolError`. -/
  | failed
  /-- `CaptureSpoolObservationError`. -/
  | observation
  | store (error : CaptureStoreError)
deriving DecidableEq

/-- The program of a call of the spool. -/
abbrev Spooling := Program SpoolRequest SpoolRequest.Reply SpoolError

/-- One step on the files. -/
abbrev SpoolFileRequest.ask (request : SpoolFileRequest) : Spooling request.Reply :=
  .request (SpoolRequest.file request)

/-! ## Drop state and markers -/

/-- `CaptureSpoolHealth`. The coverage is degraded exactly when something was dropped. -/
structure CaptureSpoolHealth where
  queuedEvents : ℕ
  queuedBytes : ℕ
  droppedEvents : ℕ
  lastDropReason : Option DropReason
deriving DecidableEq

namespace CaptureSpool

omit [CaptureKey] in
/-- `_reconcile_session_markers`: the sessions with a marker that have no entry. -/
def reconcileSessionMarkers (entries : List CaptureIntake) (markers : SessionMarkers) :
    Except SpoolError (List SessionKey) := do
  raiseIf (∃ intake ∈ entries, intake.session ∉ markers) .integrity
  pure (markers.keys.filter fun key => ∀ intake ∈ entries, intake.session ≠ key)

/-- A marker that is not counted yet, of a session without an entry. -/
def isSyntheticDrop (orphans : List SessionKey) (state : Option DropState) (key : SessionKey)
    (marker : MarkerState) : Prop :=
  key ∈ orphans ∧ marker = .pending
    ∧ acknowledgedMarker state ≠ some (CaptureKey.sessionMarkerTag key)
    ∧ bridgeBarrierMarker state ≠ some (CaptureKey.sessionMarkerTag key)

instance decidableSyntheticDrop (orphans : List SessionKey) (state : Option DropState) (key : SessionKey)
    (marker : MarkerState) : Decidable (isSyntheticDrop orphans state key marker) :=
  inferInstanceAs (Decidable (_ ∧ _))

/-- `_health_from_state`. -/
def healthFromState (entries : List CaptureIntake) (state : Option DropState) (markers : SessionMarkers)
    (orphans : List SessionKey) : Except SpoolError CaptureSpoolHealth := do
  raiseIf (∃ marker ∈ markers.items, marker.2 = .acknowledged ∧ droppedEvents state = 0) .integrity
  raiseIf (∃ marker ∈ markers.items, marker.2 = .pending
    ∧ acknowledgedMarker state = some (CaptureKey.sessionMarkerTag marker.1) ∧ marker.1 ∉ orphans) .integrity
  raiseIf (∃ tag ∈ bridgeBarrierMarker state, markers.named? tag = none) .integrity
  let syntheticDrops := markers.items.countP fun marker =>
    isSyntheticDrop orphans state marker.1 marker.2
  pure {
    queuedEvents := entries.length
    queuedBytes := (entries.map framedBytes).sum
    droppedEvents := droppedEvents state + syntheticDrops
    lastDropReason :=
      if syntheticDrops = 0 then state.map DropState.lastDropReason else some .spoolIncomplete }

omit [CaptureKey] in
/-- `_write_drop_state`, with the state that it wrote. -/
def writeDropState (droppedEvents : ℕ) (reason : DropReason) (acknowledgedMarker bridgeBarrierMarker : Option String) :
    Spooling (Option DropState) :=
  if positive : 1 ≤ droppedEvents then do
    let state : DropState := ⟨droppedEvents, reason, acknowledgedMarker, bridgeBarrierMarker, positive⟩
    (SpoolFileRequest.publishDropState state).ask
    pure (some state)
  else .raise .integrity

/-- `_set_session_marker_state_locked`. -/
def setSessionMarkerState (key : SessionKey) (state : MarkerState) : Spooling Unit := do
  (SpoolFileRequest.publishMarker key state).ask
  let marker ← (SpoolFileRequest.sessionMarker key).ask
  .lift (raiseIf (marker ≠ some state) .integrity)

/-- `_ensure_session_marker_locked`. -/
def ensureSessionMarker (key : SessionKey) : Spooling MarkerState := do
  let existing ← (SpoolFileRequest.sessionMarker key).ask
  match existing with
  | some state => pure state
  | none => do
    setSessionMarkerState key .pending
    pure .pending

/-- A marker whose session was counted is deleted, or acknowledged. -/
def settleMarker (key : SessionKey) (marker : MarkerState) (markers : SessionMarkers) (remove : Bool) :
    Spooling SessionMarkers :=
  if remove then do
    (SpoolFileRequest.deleteMarker key).ask
    pure (markers.erase key)
  else if marker = .pending then do
    setSessionMarkerState key .acknowledged
    pure (markers.set key .acknowledged)
  else pure markers

/-- The marker that the drop state names as the barrier of bridges is acknowledged; it is not counted,
and deleted only when the drop state is. -/
def settleBridgeBarrier (state : Option DropState) (orphans : List SessionKey) (markers : SessionMarkers)
    (clear : Bool) : Spooling (List SessionKey × SessionMarkers) :=
  match bridgeBarrierMarker state with
  | none => pure (orphans, markers)
  | some tag => match markers.named? tag with
    | none => .raise .integrity
    | some (key, marker) => do
      let markers ← settleMarker key marker markers false
      if key ∈ orphans then do
        let markers ← (if clear then settleMarker key .acknowledged markers true else pure markers)
        pure (orphans.filter (· ≠ key), markers)
      else pure (orphans, markers)

/-- The marker that the drop state counted last was not settled when it is still pending. -/
def settleAcknowledged (state : Option DropState) (orphans remaining : List SessionKey)
    (markers : SessionMarkers) (remove : Bool) : Spooling (List SessionKey × SessionMarkers) :=
  match (acknowledgedMarker state).bind markers.named? with
  | some (key, .pending) => do
    .lift (raiseIf (key ∉ orphans) .integrity)
    let markers ← settleMarker key .pending markers remove
    .lift (raiseIf (key ∉ remaining) .failed)
    pure (remaining.filter (· ≠ key), markers)
  | _ => pure (remaining, markers)

/-- A session is counted, unless its marker is acknowledged or was counted last. -/
def countOrphan (key : SessionKey) (marker : MarkerState) (state : Option DropState) :
    Spooling (Option DropState) :=
  let tag := CaptureKey.sessionMarkerTag key
  if marker = .pending ∧ acknowledgedMarker state ≠ some tag then
    writeDropState (droppedEvents state + 1) .spoolIncomplete (some tag) (bridgeBarrierMarker state)
  else pure state

/-- Each of the remaining sessions is counted, unless it was, and its marker settled. -/
def settleOrphans (remove : Bool) :
    List SessionKey → Option DropState → SessionMarkers → Spooling SessionMarkers
  | [], _, markers => pure markers
  | key :: rest, state, markers => do
    let marker ← .lift (expect (markers.get? key) .failed)
    .lift (raiseIf (marker = .acknowledged ∧ droppedEvents state = 0) .integrity)
    let state ← countOrphan key marker state
    let markers ← settleMarker key marker markers remove
    settleOrphans remove rest state markers

/-- `_persist_orphan_degradation_locked`. -/
def persistOrphanDegradation (orphans : List SessionKey) (markers : SessionMarkers) (remove : Bool)
    (clearBridgeBarrier : Bool := false) : Spooling SessionMarkers :=
  if orphans = [] then pure markers
  else do
    let state ← SpoolFileRequest.dropState.ask
    let barred ← settleBridgeBarrier state orphans markers (remove && clearBridgeBarrier)
    let settled ← settleAcknowledged state orphans barred.1 barred.2 remove
    settleOrphans remove (settled.1.mergeSort sessionBefore) state settled.2

/-- `_require_bridge_barrier_locked`. -/
def requireBridgeBarrier (tag : String) : Spooling Unit := do
  let named ← (SpoolFileRequest.markerNamed tag).ask
  match named with
  | none => .raise .integrity
  | some (key, .pending) => setSessionMarkerState key .acknowledged
  | some (_, .acknowledged) => pure ()

/-- The barrier that the drop state names, if it does, is there. -/
def requireNamedBarrier (state : Option DropState) : Spooling Unit :=
  match bridgeBarrierMarker state with
  | some tag => requireBridgeBarrier tag
  | none => pure ()

/-! ## Health -/

/-- `_health_locked`, and the part of `_audit_read_only` that is not about file identities. -/
def health : Spooling CaptureSpoolHealth := do
  let entries ← SpoolFileRequest.entries.ask
  let markers ← SpoolFileRequest.sessionMarkers.ask
  let orphans ← .lift (reconcileSessionMarkers entries markers)
  let state ← SpoolFileRequest.dropState.ask
  .lift (healthFromState entries state markers orphans)

/-- `observe_health`: the bounds of an observation refuse a health that is out of them. -/
def observeHealth : Spooling CaptureSpoolHealth := do
  let health ← health
  .lift (raiseIf (maxCaptureSpoolEvents < health.queuedEvents ∨ maxCaptureSpoolBytes < health.queuedBytes
    ∨ 2 ^ 63 ≤ health.droppedEvents) .observation)
  pure health

/-- `_clear_drop_health_if_empty_locked`. -/
def clearDropHealthIfEmpty : Spooling Bool := do
  let entries ← SpoolFileRequest.entries.ask
  let markers ← SpoolFileRequest.sessionMarkers.ask
  let orphans ← .lift (reconcileSessionMarkers entries markers)
  if entries ≠ [] then pure false
  else do
    let _ ← persistOrphanDegradation orphans markers true true
    let state ← SpoolFileRequest.dropState.ask
    (if state ≠ none then SpoolFileRequest.deleteDropState.ask else pure ())
    pure true

/-! ## Admission -/

/-- The disposition of `CaptureSpoolEnqueueReceipt`. -/
inductive EnqueueDisposition where
  | queued | alreadyQueued | droppedQuota
deriving DecidableEq

/-- An intake of a session that has a marker, which was there before or was not, is counted. -/
def countQuotaDrop (key : SessionKey) (known : Option MarkerState) (marker : MarkerState)
    (bridgeBarrier : Bool) : Spooling EnqueueDisposition := do
  let state ← SpoolFileRequest.dropState.ask
  let tag := CaptureKey.sessionMarkerTag key
  let barrier := if bridgeBarrier && bridgeBarrierMarker state = none then some tag
    else bridgeBarrierMarker state
  let _ ← writeDropState (droppedEvents state + 1) .spoolQuota
    (if known = none then some tag else acknowledgedMarker state) barrier
  (if known = none ∨ (barrier = some tag ∧ marker = .pending) then
    setSessionMarkerState key .acknowledged
  else pure ())
  pure .droppedQuota

/-- An intake that does not fit into the spool is counted, and its session gets a marker. -/
def dropForQuota (key : SessionKey) (markers : SessionMarkers) (bridgeBarrier : Bool) :
    Spooling EnqueueDisposition :=
  match markers.get? key with
  | some marker => countQuotaDrop key (some marker) marker bridgeBarrier
  | none => do
    let marker ← ensureSessionMarker key
    countQuotaDrop key none marker bridgeBarrier

/-- `_enqueue_locked`. -/
def enqueueLocked (intake : CaptureIntake) (bridgeBarrier : Bool := false) :
    Spooling EnqueueDisposition := do
  let entries ← SpoolFileRequest.entries.ask
  let markers ← SpoolFileRequest.sessionMarkers.ask
  let orphans ← .lift (reconcileSessionMarkers entries markers)
  let markers ← persistOrphanDegradation orphans markers false
  match entries.find? fun entry => CaptureKey.recordTag entry = CaptureKey.recordTag intake with
  | some existing => do
    .lift (raiseIf (existing ≠ intake) .integrity)
    pure .alreadyQueued
  | none =>
    if maxCaptureSpoolEvents ≤ entries.length
        ∨ maxCaptureSpoolBytes < (entries.map framedBytes).sum + framedBytes intake then
      dropForQuota intake.session markers bridgeBarrier
    else do
      let _ ← ensureSessionMarker intake.session
      (SpoolFileRequest.publishEntry intake).ask
      pure .queued

/-- `_drop_bridge_fallback_locked`. -/
def dropBridgeFallback (key : SessionKey) (count : ℕ) : Spooling (List EnqueueDisposition) := do
  let state ← SpoolFileRequest.dropState.ask
  match bridgeBarrierMarker state with
  | some tag => do
    requireBridgeBarrier tag
    let _ ← writeDropState (droppedEvents state + count) .spoolQuota (acknowledgedMarker state) (some tag)
    pure (List.replicate count .droppedQuota)
  | none => do
    let marker ← ensureSessionMarker key
    let _ ← writeDropState (droppedEvents state + count) .spoolQuota (acknowledgedMarker state)
      (some (CaptureKey.sessionMarkerTag key))
    (if marker = .pending then setSessionMarkerState key .acknowledged else pure ())
    pure (List.replicate count .droppedQuota)

/-- `enqueue`. -/
def enqueue (intake : CaptureIntake) : Spooling EnqueueDisposition := do
  .lift (raiseIf (CaptureKey.authenticates intake = false) .failed)
  enqueueLocked intake

/-- `admit`: the receipt of the store, or of the queue. -/
def admitIntake (intake : CaptureIntake) : Spooling (CaptureAppendReceipt ⊕ EnqueueDisposition) := do
  .lift (raiseIf (CaptureKey.authenticates intake = false) .failed)
  let marker ← (SpoolFileRequest.sessionMarker intake.session).ask
  match marker with
  | some _ => do
    let disposition ← enqueueLocked intake
    pure (.inr disposition)
  | none => do
    let answer ← (Program.request (SpoolRequest.append .direct intake) :
      Spooling CaptureAppendReceipt).attempt
    match answer with
    | .ok receipt => pure (.inl receipt)
    | .error (.store .busy) => do
      let disposition ← enqueueLocked intake
      pure (.inr disposition)
    | .error (.store .other) => .raise .failed
    | .error error => .raise error

/-- The intakes that a chunk falls back to are queued one after the other. -/
def enqueueFallback : List CaptureIntake → Spooling (List EnqueueDisposition)
  | [] => pure []
  | intake :: rest => do
    let disposition ← enqueueLocked intake true
    let dispositions ← enqueueFallback rest
    pure (disposition :: dispositions)

/-- `admit_transport`, which returns no receipts when the store took the chunk. The fallback is not
empty, and of one session. -/
def admitTransport (chunk : CaptureTransportChunk) (intakes fallback : List CaptureIntake) :
    Spooling (List EnqueueDisposition) :=
  match fallback with
  | [] => .raise .failed
  | first :: _ => do
    let key := first.session
    .lift (raiseIf (∃ intake ∈ fallback, intake.session ≠ key) .failed)
    .lift (raiseIf (∃ intake ∈ fallback, CaptureKey.authenticates intake = false) .failed)
    let state ← SpoolFileRequest.dropState.ask
    match bridgeBarrierMarker state with
    | some tag => do
      requireBridgeBarrier tag
      dropBridgeFallback key fallback.length
    | none => do
      let marker ← (SpoolFileRequest.sessionMarker key).ask
      let answer ← (if marker = none then
          (Program.request (SpoolRequest.appendTransportChunk chunk intakes) : Spooling Unit).attempt
        else pure (.error (.store .busy)))
      match answer with
      | .ok () => pure []
      | .error (.store .busy) => do
        let existingEvents ← SpoolFileRequest.backlog.ask
        if maxBridgeFallbackExistingEvents < existingEvents then
          dropBridgeFallback key fallback.length
        else enqueueFallback fallback
      | .error (.store .other) => .raise .failed
      | .error error => .raise error

/-! ## Draining -/

/-- `CaptureSpoolDrainReceipt`. -/
structure DrainReceipt where
  admittedEvents : ℕ
  remainingEvents : ℕ
deriving DecidableEq

/-- The marker of a session without further entries is deleted, unless it is the barrier. -/
def releaseMarker (barrier : Option String) (key : SessionKey) (markers : SessionMarkers) :
    Spooling SessionMarkers := do
  let _ ← .lift (expect (markers.get? key) .failed)
  if barrier ≠ some (CaptureKey.sessionMarkerTag key) then do
    (SpoolFileRequest.deleteMarker key).ask
    pure (markers.erase key)
  else pure markers

/-- The loop of `_drain_locked`: an entry is deleted after the store took it, and the marker of its
session after the last of its entries. -/
def drainEntries (total : ℕ) (barrier : Option String) :
    List CaptureIntake → SessionMarkers → ℕ → Spooling DrainReceipt
  | [], _, admitted => pure ⟨admitted, 0⟩
  | intake :: rest, markers, admitted => do
    let answer ← (Program.request (SpoolRequest.append .spoolDrain intake) :
      Spooling CaptureAppendReceipt).attempt
    match answer with
    | .error (.store .busy) => pure ⟨admitted, total - admitted⟩
    | .error (.store .other) => .raise .failed
    | .error error => .raise error
    | .ok _ => do
      (SpoolFileRequest.deleteEntry intake).ask
      -- no entry of the session remains
      let markers ← (if ∀ entry ∈ rest, entry.session ≠ intake.session then
          releaseMarker barrier intake.session markers
        else pure markers)
      drainEntries total barrier rest markers (admitted + 1)

/-- `_drain_locked`. -/
def drain : Spooling DrainReceipt := do
  let entries ← SpoolFileRequest.entries.ask
  let markers ← SpoolFileRequest.sessionMarkers.ask
  let orphans ← .lift (reconcileSessionMarkers entries markers)
  let markers ← persistOrphanDegradation orphans markers true
  let state ← SpoolFileRequest.dropState.ask
  requireNamedBarrier state
  drainEntries entries.length (bridgeBarrierMarker state) entries markers 0

end CaptureSpool

/-! ## Calls -/

/-- A call of the spool. A maintenance lease holds the lock over several calls of `drain` and
`clearDropHealthIfEmpty`. -/
inductive SpoolCall where
  | enqueue (intake : CaptureIntake)
  | admitIntake (intake : CaptureIntake)
  | admitTransport (chunk : CaptureTransportChunk) (intakes fallback : List CaptureIntake)
  | drain
  | clearDropHealthIfEmpty
  | health
  | observeHealth
  | auditReadOnly

/-- What a call returns. -/
inductive SpoolResult where
  | enqueued (disposition : CaptureSpool.EnqueueDisposition)
  | admitted (receipt : CaptureAppendReceipt ⊕ CaptureSpool.EnqueueDisposition)
  | transported (dispositions : List CaptureSpool.EnqueueDisposition)
  | drained (receipt : CaptureSpool.DrainReceipt)
  | cleared (cleared : Bool)
  | healthy (health : CaptureSpoolHealth)

/-- The program of a call. -/
def SpoolCall.program : SpoolCall → Spooling SpoolResult
  | .enqueue intake => do
    let disposition ← CaptureSpool.enqueue intake
    pure (.enqueued disposition)
  | .admitIntake intake => do
    let receipt ← CaptureSpool.admitIntake intake
    pure (.admitted receipt)
  | .admitTransport chunk intakes fallback => do
    let dispositions ← CaptureSpool.admitTransport chunk intakes fallback
    pure (.transported dispositions)
  | .drain => do
    let receipt ← CaptureSpool.drain
    pure (.drained receipt)
  | .clearDropHealthIfEmpty => do
    let cleared ← CaptureSpool.clearDropHealthIfEmpty
    pure (.cleared cleared)
  | .health | .auditReadOnly => do
    let health ← CaptureSpool.health
    pure (.healthy health)
  | .observeHealth => do
    let health ← CaptureSpool.observeHealth
    pure (.healthy health)

/-- How a request is answered: a step on the files by what is there, and a call of the store by anything
that it returns or raises. The store takes a chunk with intakes of its session only. -/
def SpoolRequest.answers (spool : Spool) :
    (request : SpoolRequest) → Except SpoolError request.Reply → Spool → Prop
  | .file request, reply, t => reply = .ok (spool.perform request).1 ∧ t = (spool.perform request).2
  | .append .., reply, t => t = spool ∧ ∀ error, reply = .error error → ∃ e, error = .store e
  | .appendTransportChunk chunk intakes, reply, t =>
    t = spool ∧ (∀ error, reply = .error error → ∃ e, error = .store e)
      ∧ (reply = .ok () → ∀ intake ∈ intakes, intake.session = chunk.session)

/-- The spool, and the call that holds its lock. -/
abbrev LockedSpool := Locked Spool SpoolCall SpoolRequest SpoolRequest.Reply SpoolError SpoolResult

/-- What happens in a step of a call of the spool. -/
abbrev SpoolEvent := LockedEvent SpoolCall SpoolRequest SpoolRequest.Reply SpoolError SpoolResult

/-- A step of the calls of a spool, which may crash anywhere. -/
abbrev SpoolStep : LockedSpool → SpoolEvent → LockedSpool → Prop :=
  Locked.Step SpoolCall.program SpoolRequest.answers fun _ => True

/-- The lock of a spool is free. -/
def Spool.unlocked (spool : Spool) : LockedSpool := ⟨spool, none⟩

end SalienceGate
