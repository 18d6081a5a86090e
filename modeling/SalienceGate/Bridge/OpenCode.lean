import SalienceGate.Bridge.Chunks
import SalienceGate.Lib.Json
import SalienceGate.Lib.Marks

/-!
# The OpenCode bridge

`opencode/src/plugin.ts` and `transport.ts`: the records of the reducer are buffered by session, a
buffer is flushed at the ends of turns and sessions or when it is full, and a flush writes the chunks
of its records through launchers, at most four at a time. What cannot be kept is dropped, and the
session is marked: its next flush starts with a `transport_gap` record.

The runtime is single-threaded. An `Action` is what runs without a pause: a part of a synchronous
block that works for one session (`event` and `pass` put these parts on `tasks`, and nothing else
runs before they are done), or the continuation of a promise. A flush is a `Flight`: queued by
`scheduleFlush`, started by the queue of its session, then one chunk after the other is written and
the flush goes on, and at its end the handler of `finally` settles it. Any order of the
continuations of different flights is a run. The waits of `dispose` are left out: a pass may come at
any time after it.
-/

namespace SalienceGate.OpenCode

/-! ## Records -/

/-- The reasons of the reducer's `coverage_degraded` records. -/
inductive DegradationReason where
  | invalidTransition | missingField | overflow
deriving DecidableEq

/-- `ReducedOpenCodeRecord`. The authority of the identity of a started tool is `exact` if its input
is on the record, and `unavailable` otherwise. -/
inductive ReducedRecord where
  | toolStarted (sessionId : NativeSessionId) (eventId : Option JsString) (callId tool : JsString)
      (input : Option Json)
  | toolFinished (sessionId : NativeSessionId) (eventId : Option JsString) (callId : JsString)
      (succeeded : Bool)
  | turnFinished (sessionId : NativeSessionId) (eventId : Option JsString)
  | controllerFailed (sessionId : NativeSessionId) (eventId : Option JsString)
  | coverageBoundary (sessionId : NativeSessionId) (eventId : Option JsString)
  | coverageDegraded (sessionId : NativeSessionId) (reason : DegradationReason)
  | sessionFinished (sessionId : NativeSessionId) (eventId : Option JsString)
deriving DecidableEq

/-- `session_id`. -/
def ReducedRecord.sessionId : ReducedRecord → NativeSessionId
  | .toolStarted sessionId _ _ _ _ | .toolFinished sessionId _ _ _ | .turnFinished sessionId _
  | .controllerFailed sessionId _ | .coverageBoundary sessionId _ | .coverageDegraded sessionId _
  | .sessionFinished sessionId _ => sessionId

/-- The record is a `session_finished`. -/
def ReducedRecord.isFinished : ReducedRecord → Bool
  | .sessionFinished .. => true
  | _ => false

/-- The canonical JSON that the transport handles. -/
inductive Event where
  | record (reduced : ReducedRecord)
  | oversize (sessionId : NativeSessionId)
  | transportGap (sessionId : NativeSessionId)
deriving DecidableEq

/-- `session_id`. -/
def Event.sessionId : Event → NativeSessionId
  | .record reduced => reduced.sessionId
  | .oversize sessionId | .transportGap sessionId => sessionId

/-- The event is a `session_finished` record. -/
def Event.isTerminal : Event → Bool
  | .record reduced => reduced.isFinished
  | _ => false

/-- `terminalControl`: the last `session_finished` record. -/
def terminalControl (records : List Event) : Option Event := records.reverse.find? Event.isTerminal

/-! ## Limits -/

/-- `MAX_PENDING_GAP_SESSIONS`. -/
def maxPendingGapSessions : ℕ := 256

/-- `MAX_SESSION_BUFFER_BYTES`. -/
def maxSessionBufferBytes : ℕ := 512 * 1024

/-- `MAX_TOTAL_RETAINED_BYTES`. -/
def maxTotalRetainedBytes : ℕ := 16 * 1024 * 1024

/-- `MAX_PENDING_FLUSHES_PER_SESSION`. -/
def maxPendingFlushesPerSession : ℕ := 1

/-- `MAX_PENDING_FLUSH_SESSIONS`. -/
def maxPendingFlushSessions : ℕ := 64

/-- `MAX_POST_PENDING_GAP_CHECKS`. -/
def maxPostPendingGapChecks : ℕ := 256

/-- `MAX_DEFERRED_TERMINAL_SESSIONS`. -/
def maxDeferredTerminalSessions : ℕ := 256

/-- `MAX_TERMINAL_RESERVE_BYTES`. -/
def maxTerminalReserveBytes : ℕ := maxDeferredTerminalSessions * maxCaptureEventBytes

/-- `MAX_DISPOSE_FLUSH_PASSES`. -/
def maxDisposeFlushPasses : ℕ := 4

/-! ## The state -/

/-- `CaptureFlushResult`. -/
inductive FlushResult where
  | attemptedFailure | delivered | notStarted
deriving DecidableEq

/-- The result of `#writeBounded`. -/
inductive WriteResult where
  | delivered | failed | notStarted
deriving DecidableEq

/-- A flush that writes its chunks. -/
structure Writing where
  /-- The mark of the session when the flush started. -/
  pendingGapGeneration : Option ℕ
  events : List Event
  /-- `chunks.length`. -/
  chunkCount : ℕ
  /-- The chunks that are still to be written. -/
  remaining : List (List Event)
  started : ℕ
  delivered : ℕ
  /-- The result of the current chunk, once its launcher is done. -/
  result : Option WriteResult

/-- How far a flush is. -/
inductive Phase where
  | queued
  | writing (writing : Writing)
  | ended (result : FlushResult)

/-- The flush is over. -/
def Phase.isEnded : Phase → Bool
  | .ended _ => true
  | _ => false

/-- A flush that was scheduled and is not settled. -/
structure Flight where
  sessionId : NativeSessionId
  records : List Event
  bufferBytes : ℕ
  phase : Phase

/-- `SessionBuffer`. -/
structure SessionBuffer where
  records : List Event
  bytes : ℕ

/-- A part of a synchronous block that is still to be run. -/
inductive Task where
  /-- The round of the loop of `event` for a session, with its records and whether it is a target. -/
  | observe (sessionId : NativeSessionId) (records : List Event) (target : Bool)
  /-- The forced flush of a session, in a pass of `dispose`. -/
  | flush (sessionId : NativeSessionId)

/-- `OpenCodePluginRuntime`, its transport and the flushes that are not settled. -/
structure Runtime (ρ : Type) where
  reducer : ρ
  buffers : Dict NativeSessionId SessionBuffer
  pendingFlushes : Dict NativeSessionId ℕ
  postPendingGapChecks : List NativeSessionId
  deferredTerminalSessions : List NativeSessionId
  retainedBytes : ℤ
  disposed : Bool
  /-- The passes of `dispose` so far. -/
  passes : ℕ
  pendingGaps : Marks NativeSessionId
  activeWrites : ℕ
  flights : Dict ℕ Flight
  /-- The number of the next flight. -/
  nextFlight : ℕ
  tasks : List Task

/-- A reducer of host events, and the flush targets of an event. -/
structure Host (ρ υ : Type) where
  initial : ρ
  reduce : ρ → υ → List ReducedRecord × ρ
  isFinalized : ρ → NativeSessionId → Bool × ρ
  flushTargets : υ → List NativeSessionId

/-- The runtime that the plugin creates. -/
def Runtime.initial {ρ υ : Type} (host : Host ρ υ) : Runtime ρ where
  reducer := host.initial
  buffers := .empty
  pendingFlushes := .empty
  postPendingGapChecks := []
  deferredTerminalSessions := []
  retainedBytes := 0
  disposed := false
  passes := 0
  pendingGaps := .empty
  activeWrites := 0
  flights := .empty
  nextFlight := 0
  tasks := []

namespace Runtime

variable {ρ υ : Type} [CaptureEncoding NativeSessionId Event]

/-- `Set.add`. -/
def addTo (sessions : List NativeSessionId) (sessionId : NativeSessionId) : List NativeSessionId :=
  if sessionId ∈ sessions then sessions else sessions ++ [sessionId]

/-- `encodeCanonicalJson(record).byteLength`. -/
def recordBytes (record : Event) : ℕ := CaptureEncoding.byteLength NativeSessionId record

/-- `markGap`. -/
def markGap (s : Runtime ρ) (sessionId : NativeSessionId) : Runtime ρ :=
  { s with pendingGaps := s.pendingGaps.mark maxPendingGapSessions sessionId }

/-! ## Buffers -/

/-- `#retainOnlyTerminal`. -/
def retainOnlyTerminal (s : Runtime ρ) (sessionId : NativeSessionId) (buffer : SessionBuffer) :
    Runtime ρ × Option Event :=
  let dropped := { s with
    buffers := s.buffers.erase sessionId
    retainedBytes := s.retainedBytes - buffer.bytes }
  match terminalControl buffer.records with
  | none => (dropped, none)
  | some terminal =>
    ({ dropped with
        buffers := dropped.buffers.set sessionId ⟨[terminal], recordBytes terminal⟩
        retainedBytes := dropped.retainedBytes + recordBytes terminal }, some terminal)

/-- `buffer.records.push(record)`, of the buffer of a session or of a new one. -/
def push (s : Runtime ρ) (sessionId : NativeSessionId) (buffer : Option SessionBuffer) (record : Event) :
    Runtime ρ :=
  let buffer := buffer.getD ⟨[], 0⟩
  { s with
    buffers := s.buffers.set sessionId ⟨buffer.records ++ [record], buffer.bytes + recordBytes record⟩
    retainedBytes := s.retainedBytes + recordBytes record }

/-- A record that does not fit into a buffer of the session. -/
def overflows (buffer : SessionBuffer) (record : Event) : Bool :=
  buffer.records ≠ [] && maxSessionBufferBytes < buffer.bytes + recordBytes record

/-- `#restoreTerminal`. -/
def restoreTerminal (s : Runtime ρ) (sessionId : NativeSessionId) (terminal : Event) : Runtime ρ × Bool :=
  let buffer := s.buffers.get? sessionId
  if buffer.any fun buffer => (terminalControl buffer.records).isSome then (s, true)
  else
    let full := buffer.filter fun buffer => overflows buffer terminal
    let s := match full with
      | some buffer => markGap { s with
          buffers := s.buffers.erase sessionId
          retainedBytes := s.retainedBytes - buffer.bytes } sessionId
      | none => s
    let buffer := if full.isSome then none else buffer
    if (maxTotalRetainedBytes + maxTerminalReserveBytes : ℤ) < s.retainedBytes + recordBytes terminal then
      (s.markGap sessionId, false)
    else (s.push sessionId buffer terminal, true)

/-- `#deferTerminal`. -/
def deferTerminal (s : Runtime ρ) (sessionId : NativeSessionId) : Runtime ρ :=
  if sessionId ∈ s.deferredTerminalSessions
      ∨ s.deferredTerminalSessions.length < maxDeferredTerminalSessions then
    { s with deferredTerminalSessions := addTo s.deferredTerminalSessions sessionId }
  else s

/-! ## Flushes -/

/-- A flush of a session beyond the sessions that may have one: the buffer is dropped but for its
terminal. -/
def refuseSession (s : Runtime ρ) (sessionId : NativeSessionId) (buffer : SessionBuffer) : Runtime ρ :=
  let retained := s.retainOnlyTerminal sessionId buffer
  let s := retained.1.markGap sessionId
  if retained.2.isSome then s.deferTerminal sessionId else s

/-- A flush of a session that has one: the buffer, if there are records, is dropped but for its
terminal, and another flush follows the one that is pending. -/
def followPending (s : Runtime ρ) (sessionId : NativeSessionId) (buffer : Option SessionBuffer) : Runtime ρ :=
  let retained := match buffer with
    | some buffer =>
      let retained := s.retainOnlyTerminal sessionId buffer
      (retained.1.markGap sessionId, retained.2)
    | none => (s, none)
  let s := retained.1
  if buffer.isNone ∨ retained.2.isSome then
    if sessionId ∈ s.postPendingGapChecks ∨ s.postPendingGapChecks.length < maxPostPendingGapChecks then
      { s with postPendingGapChecks := addTo s.postPendingGapChecks sessionId }
    else if retained.2.isSome then s.deferTerminal sessionId
    else s
  else s

/-- A flush takes the buffer and is queued. -/
def queueFlush (s : Runtime ρ) (sessionId : NativeSessionId) (buffer : Option SessionBuffer) : Runtime ρ :=
  { s with
    buffers := if buffer.isSome then s.buffers.erase sessionId else s.buffers
    pendingFlushes := s.pendingFlushes.set sessionId ((s.pendingFlushes.get? sessionId).getD 0 + 1)
    flights := s.flights.set s.nextFlight
      ⟨sessionId, buffer.elim [] SessionBuffer.records, buffer.elim 0 SessionBuffer.bytes, .queued⟩
    nextFlight := s.nextFlight + 1 }

/-- `#scheduleFlush`. -/
def scheduleFlush (s : Runtime ρ) (sessionId : NativeSessionId) (force : Bool) : Runtime ρ :=
  -- `hasRecords` is that this buffer is there.
  let buffer := (s.buffers.get? sessionId).filter fun buffer => buffer.records ≠ []
  if buffer.isNone ∧ ¬force then s
  else if sessionId ∉ s.pendingFlushes ∧ maxPendingFlushSessions ≤ s.pendingFlushes.size then
    match buffer with
    | some buffer => s.refuseSession sessionId buffer
    | none => s
  else if maxPendingFlushesPerSession ≤ (s.pendingFlushes.get? sessionId).getD 0 then
    s.followPending sessionId buffer
  else s.queueFlush sessionId buffer

/-- `#scheduleOneDeferredTerminal`. -/
def scheduleOneDeferredTerminal (s : Runtime ρ) : Runtime ρ :=
  match s.deferredTerminalSessions.find? fun sessionId => sessionId ∉ s.pendingFlushes with
  | some sessionId =>
    { s with deferredTerminalSessions := s.deferredTerminalSessions.erase sessionId }.scheduleFlush
      sessionId true
  | none =>
    match s.buffers.items.find? fun entry =>
        entry.1 ∉ s.pendingFlushes ∧ (terminalControl entry.2.records).isSome with
    | some entry => s.scheduleFlush entry.1 true
    | none => s

/-! ## Events of the host -/

/-- A round of the loop of `#appendRecords`. -/
def appendRecord (s : Runtime ρ) (sessionId : NativeSessionId) (record : Event) : Runtime ρ :=
  let buffer := s.buffers.get? sessionId
  let full := buffer.any fun buffer => overflows buffer record
  let s := if full then s.scheduleFlush sessionId false else s
  let buffer := if full then none else buffer
  let limit : ℤ :=
    if record.isTerminal then maxTotalRetainedBytes + maxTerminalReserveBytes else maxTotalRetainedBytes
  if limit < s.retainedBytes + recordBytes record then s.markGap sessionId
  else if record.isTerminal ∧ (maxTotalRetainedBytes : ℤ) < s.retainedBytes + recordBytes record then
    (s.markGap sessionId).push sessionId buffer record
  else s.push sessionId buffer record

/-- `#appendRecords`. -/
def appendRecords (s : Runtime ρ) (sessionId : NativeSessionId) (records : List Event) : Runtime ρ :=
  records.foldl (fun s record => s.appendRecord sessionId record) s

/-- The round of the loop of `event` for a session. -/
def observe (s : Runtime ρ) (sessionId : NativeSessionId) (records : List Event) (target : Bool) :
    Runtime ρ :=
  let s := s.appendRecords sessionId records
  if target ∧ (records ≠ [] ∨ ((s.buffers.get? sessionId).any fun buffer => buffer.records ≠ [])
      ∨ sessionId ∈ s.pendingFlushes ∨ sessionId ∈ s.pendingGaps.table) then
    s.scheduleFlush sessionId true
  else s

/-- The records of an event by session, in order, with the sessions that it finishes. -/
structure Grouped (ρ : Type) where
  reducer : ρ
  grouped : Dict NativeSessionId (List Event) := .empty
  terminalSessions : List NativeSessionId := []

/-- `asCanonicalRecord`. -/
def asCanonicalRecord (record : ReducedRecord) : Event :=
  normalizeCaptureEvent NativeSessionId (.oversize record.sessionId) (.record record)

/-- The record joins the others of its session. -/
def Grouped.add (g : Grouped ρ) (record : ReducedRecord) : Grouped ρ :=
  let list := (g.grouped.get? record.sessionId).getD []
  { g with grouped := g.grouped.set record.sessionId (list ++ [asCanonicalRecord record]) }

/-- A round of the loop over the records: those of finalized sessions are left out, but for the
terminal. -/
def Grouped.round (host : Host ρ υ) (g : Grouped ρ) (record : ReducedRecord) : Grouped ρ :=
  if record.isFinished then
    { g with terminalSessions := addTo g.terminalSessions record.sessionId }.add record
  else
    let finalized := host.isFinalized g.reducer record.sessionId
    let g := { g with reducer := finalized.2 }
    if finalized.1 then g else g.add record

/-- A round of the loop over the targets: finalized sessions are left out, but for those that the
event finishes. -/
def targetRound (host : Host ρ υ) (terminalSessions : List NativeSessionId)
    (found : ρ × List NativeSessionId) (sessionId : NativeSessionId) : ρ × List NativeSessionId :=
  let finalized := host.isFinalized found.1 sessionId
  (finalized.2, if finalized.1 ∧ sessionId ∉ terminalSessions then found.2 else found.2 ++ [sessionId])

/-- `event`: what the event leaves to be done for the sessions. -/
def event (host : Host ρ υ) (s : Runtime ρ) (value : υ) : Runtime ρ :=
  if s.disposed then s
  else
    let reduced := host.reduce s.reducer value
    let g := reduced.1.foldl (Grouped.round host) { reducer := reduced.2 }
    let targets := (host.flushTargets value).foldl (targetRound host g.terminalSessions) (g.reducer, [])
    let sessions := targets.2.foldl addTo g.grouped.keys
    { s with
      reducer := targets.1
      tasks := sessions.map fun sessionId =>
        .observe sessionId ((g.grouped.get? sessionId).getD []) (sessionId ∈ targets.2) }

/-- `#knownSessions`. -/
def knownSessions (s : Runtime ρ) : List NativeSessionId :=
  (s.buffers.keys ++ s.pendingFlushes.keys ++ s.postPendingGapChecks ++ s.deferredTerminalSessions
    ++ s.pendingGaps.table.keys).foldl addTo []

/-- A pass of `dispose`. -/
def pass (s : Runtime ρ) : Runtime ρ :=
  match s.knownSessions with
  | [] => { s with passes := maxDisposeFlushPasses }
  | sessions => { s with passes := s.passes + 1, tasks := sessions.map .flush }

/-- A task. -/
def perform (s : Runtime ρ) : Task → Runtime ρ
  | .observe sessionId records target => s.observe sessionId records target
  | .flush sessionId => s.scheduleFlush sessionId true

/-! ## The transport -/

/-- The flight is as far as a phase. -/
def putPhase (s : Runtime ρ) (number : ℕ) (flight : Flight) (phase : Phase) : Runtime ρ :=
  { s with flights := s.flights.set number { flight with phase } }

/-- A flush ends without being delivered. -/
def endMarked (s : Runtime ρ) (number : ℕ) (flight : Flight) (result : FlushResult) : Runtime ρ :=
  (s.markGap flight.sessionId).putPhase number flight (.ended result)

/-- `#writeBounded`, until it has to wait, for the next chunk; after the last one, `flush` ends. -/
def writeNext (s : Runtime ρ) (number : ℕ) (flight : Flight) (writing : Writing) : Runtime ρ :=
  match writing.remaining with
  | _ :: remaining =>
    if maxConcurrentCaptureLaunchers ≤ s.activeWrites then
      s.putPhase number flight (.writing { writing with remaining, result := some .notStarted })
    else
      { s with activeWrites := s.activeWrites + 1 }.putPhase number flight
        (.writing { writing with remaining, result := none })
  | [] =>
    if writing.started = 0 then s.endMarked number flight .notStarted
    else if writing.delivered = writing.chunkCount then
      { s with pendingGaps := s.pendingGaps.clear flight.sessionId writing.pendingGapGeneration }.putPhase
        number flight (.ended .delivered)
    else s.endMarked number flight .attemptedFailure

/-- `flush`, until it has to wait. `accepted` says that the bootstrap, the batch id and the workspace
path are as the contract has them. -/
def flush (s : Runtime ρ) (number : ℕ) (flight : Flight) (accepted : Bool) : Runtime ρ :=
  if flight.records.all fun record => record.sessionId = flight.sessionId then
    let pendingGapGeneration := s.pendingGaps.get? flight.sessionId
    let events :=
      if pendingGapGeneration.isSome then .transportGap flight.sessionId :: flight.records
      else flight.records
    if events = [] then s.putPhase number flight (.ended .delivered)
    else
      match buildCaptureChunks flight.sessionId accepted (.oversize flight.sessionId) events with
      | none => s.endMarked number flight .attemptedFailure
      | some chunks =>
        s.writeNext number flight
          { pendingGapGeneration, events, chunkCount := chunks.length, remaining := chunks
            started := 0, delivered := 0, result := none }
  else s.endMarked number flight .attemptedFailure

/-- The queue of the session has come to the flight: the flushes before it are over. -/
def AtHead (s : Runtime ρ) (number : ℕ) (flight : Flight) : Prop :=
  ∀ entry ∈ s.flights.items, entry.1 < number → entry.2.sessionId = flight.sessionId →
    entry.2.phase.isEnded = true

/-- The launcher of the current chunk is done, and its permit is released. -/
def written (s : Runtime ρ) (number : ℕ) (flight : Flight) (writing : Writing) (exited : Bool) :
    Runtime ρ :=
  { s with activeWrites := s.activeWrites - 1 }.putPhase number flight
    (.writing { writing with result := some (if exited then .delivered else .failed) })

/-- `flush` goes on with the result of a chunk. -/
def advance (s : Runtime ρ) (number : ℕ) (flight : Flight) (writing : Writing) (result : WriteResult) :
    Runtime ρ :=
  s.writeNext number flight { writing with
    started := if result ≠ .notStarted then writing.started + 1 else writing.started
    delivered := if result = .delivered then writing.delivered + 1 else writing.delivered }

/-- The part of the handler of `finally` that gives back what a flush with records held: its bytes, and
a terminal that no launcher was started for. -/
def release (s : Runtime ρ) (flight : Flight) (result : FlushResult) : Runtime ρ :=
  if flight.records = [] then s
  else
    let s := { s with retainedBytes := s.retainedBytes - flight.bufferBytes }
    match terminalControl flight.records with
    | some terminal =>
      if result = .notStarted then
        let restored := s.restoreTerminal flight.sessionId terminal
        if restored.2 then restored.1.deferTerminal flight.sessionId else restored.1
      else s
    | none => s

/-- The flush is not pending any more. -/
def unpend (s : Runtime ρ) (sessionId : NativeSessionId) : Runtime ρ :=
  match s.pendingFlushes.get? sessionId with
  | some current =>
    if current ≤ 1 then { s with pendingFlushes := s.pendingFlushes.erase sessionId }
    else { s with pendingFlushes := s.pendingFlushes.set sessionId (current - 1) }
  | none => s

/-- The handler of `finally`. -/
def settle (s : Runtime ρ) (number : ℕ) (flight : Flight) (result : FlushResult) : Runtime ρ :=
  let s := { s with flights := s.flights.erase number }
  let s := (s.release flight result).unpend flight.sessionId
  if flight.sessionId ∈ s.postPendingGapChecks then
    { s with postPendingGapChecks := s.postPendingGapChecks.erase flight.sessionId }.scheduleFlush
      flight.sessionId true
  else if result = .delivered then s.scheduleOneDeferredTerminal
  else s

end Runtime

/-! ## Steps -/

/-- What runs without a pause. -/
inductive Action (υ : Type) where
  /-- The host gives an event to the plugin. -/
  | event (value : υ)
  /-- The next part of the synchronous block. -/
  | task
  /-- The queue of a session starts a flush. -/
  | start (flight : ℕ) (accepted : Bool)
  /-- A launcher is done. -/
  | written (flight : ℕ) (exited : Bool)
  /-- A flush goes on. -/
  | advance (flight : ℕ)
  /-- The handler of `finally` runs. -/
  | settle (flight : ℕ)
  /-- The host disposes of the plugin. -/
  | dispose
  /-- The next pass of `dispose`. -/
  | pass

section

variable {ρ υ : Type} [CaptureEncoding NativeSessionId Event]

instance decidableAtHead (s : Runtime ρ) (number : ℕ) (flight : Flight) :
    Decidable (s.AtHead number flight) :=
  List.decidableBAll _ _

/-- The next state, if the action can be taken. -/
def step (host : Host ρ υ) (s : Runtime ρ) (action : Action υ) : Option (Runtime ρ) :=
  match s.tasks, action with
  | task :: tasks, .task => some ({ s with tasks }.perform task)
  | [], .event value => some (s.event host value)
  | [], .start number accepted => do
    let flight ← s.flights.get? number
    match flight.phase with
    | .queued => if s.AtHead number flight then some (s.flush number flight accepted) else none
    | _ => none
  | [], .written number exited => do
    let flight ← s.flights.get? number
    match flight.phase with
    | .writing writing => if writing.result = none then some (s.written number flight writing exited) else none
    | _ => none
  | [], .advance number => do
    let flight ← s.flights.get? number
    match flight.phase with
    | .writing writing => writing.result.map (s.advance number flight writing)
    | _ => none
  | [], .settle number => do
    let flight ← s.flights.get? number
    match flight.phase with
    | .ended result => some (s.settle number flight result)
    | _ => none
  | [], .dispose => some { s with disposed := true }
  | [], .pass => if s.disposed ∧ s.passes < maxDisposeFlushPasses then some s.pass else none
  | _, _ => none

end

end SalienceGate.OpenCode
