import SalienceGate.Bridge.WindowedTransport

/-!
# The Pi bridge

`pi/src/extension.ts`: the records of the active window are buffered, and flushed at its start, at the
boundaries of its events, before the buffer overflows, and when another session starts. Only the end
of the session is put back, if a flush was not started.

The callbacks of the host run one after the other: `SerialSessionQueue` starts one when the one before
is over, and all of them share a key. So a `Callback` is a step, with what the host's objects give when
it runs. The window that a method works on is the active one throughout. `emitted` keeps what the
reducers have emitted, for statements about runs.
-/

namespace SalienceGate.Pi

/-- `MAX_SESSION_BUFFER_BYTES`. -/
def maxSessionBufferBytes : ℕ := 512 * 1024

/-! ## The context of a callback -/

/-- What reading the context of a callback gives; nothing where it throws. -/
structure Context where
  /-- `sessionManager.getSessionId()`. -/
  sessionId : Option Field
  cwd : Option Field

/-- `checkedNativeSessionID`. -/
def checkedNativeSessionId (text : JsString) : Option PiSessionId :=
  if h : text.isExactText maxPiNativeSessionIdBytes = true ∧ isNativeSessionId text = true then some ⟨text, h.1, h.2⟩
  else none

/-- `contextSessionID`. -/
def contextSessionId (context : Context) : Option PiSessionId :=
  match context.sessionId with
  | some (.text value) => checkedNativeSessionId value
  | _ => none

/-- `path.win32.isAbsolute`. -/
def isAbsoluteOnWindows (path : JsString) : Bool :=
  path.units.head?.any (fun code => code.val = 0x2f || code.val = 0x5c) || isWindowsAbsolute path

/-- `contextWorkspacePath`. -/
def contextWorkspacePath (context : Context) : Option JsString :=
  match context.cwd with
  | some (.text cwd) =>
    if cwd.units ≠ [] ∧ ¬hasNul cwd ∧ cwd.byteLength ≤ maxWorkspacePathBytes
        ∧ (startsWithSlash cwd ∨ isAbsoluteOnWindows cwd) ∧ (JsValue.text cwd).canonicalizes then some cwd
    else none
  | _ => none

/-- `START_REASONS`. -/
def startReasons : List String := ["startup", "reload", "new", "resume", "fork"]

/-- A `windowDiscriminator` that is taken. -/
def checkedWindowDiscriminator (text : JsString) : Option WindowDiscriminator :=
  if h : isSha256 text = true then some ⟨text, h⟩ else none

/-! ## The state -/

/-- `ActiveWindow`. -/
structure ActiveWindow (δ : Type) where
  reducer : Reducer δ
  workspacePath : Option JsString
  records : List Event
  bytes : ℕ

/-- `coordinates`. -/
def ActiveWindow.coordinates {δ : Type} (active : ActiveWindow δ) : Coordinates := active.reducer.coordinates

/-- `PiExtensionRuntime`, and what its reducers have emitted. -/
structure Runtime (δ : Type) [DecidableEq δ] where
  active : Option (ActiveWindow δ)
  transport : Transport δ
  emitted : List (List ReducedRecord)

/-- A callback of the host. -/
inductive Callback where
  /-- `session_start`, with what `windowDiscriminator()` gives, if it does not throw. -/
  | sessionStart (value : HostValue) (context : Context) (discriminator : Option JsString)
  | observedEvent (expectedType : EventType) (value : HostValue) (context : Context)

/-- `flushBoundary`. -/
def EventType.flushBoundary : EventType → Bool
  | .agentSettled | .sessionCompact | .sessionTree | .sessionShutdown => true
  | _ => false

/-- `closesWindow`. -/
def EventType.closesWindow : EventType → Bool
  | .sessionShutdown => true
  | _ => false

/-- `encodeCanonicalJson(record).byteLength`. -/
def recordBytes (record : Event) : ℕ := record.json.encodedLength

/-- `asCanonicalRecord`. The coordinates that are checked are those of the record. -/
def asCanonicalRecord (record : ReducedRecord) : Event :=
  normalizeCaptureEvent Batch (.oversize record.coordinates) (.record record)

/-- The records of a group that are buffered: an oversize event takes the place of all of them. -/
def grouped (records : List ReducedRecord) : List Event :=
  let normalized := records.map asCanonicalRecord
  match normalized.find? Event.isOversize with
  | some oversized => [oversized]
  | none => normalized

namespace Runtime

variable {δ : Type} [DecidableEq δ] [Digesting δ]

/-- The runtime of a new extension. -/
def create : Runtime δ := ⟨none, .create, []⟩

/-- The last result of the transport. -/
def lastResult (t : Transport δ) : Option FlushResult := t.flushes.getLast?.map Flush.result

/-- `#flush`. -/
def flush (host : Host) (s : Runtime δ) (force : Bool) : Runtime δ :=
  match s.active with
  | none => s
  | some active =>
    if ¬force ∧ active.records = [] then s
    else
      let transport := s.transport.flush host active.coordinates active.records force active.workspacePath
      -- The buffer was emptied before; its terminals come back if nothing was started.
      let retained :=
        if lastResult transport = some .notStarted then active.records.filter Event.isTerminal else []
      { s with
        active := some { active with records := retained, bytes := (retained.map recordBytes).sum }
        transport := transport }

/-- The records are pushed onto the buffer. -/
def push (s : Runtime δ) (records : List Event) : Runtime δ :=
  match s.active with
  | none => s
  | some active =>
    { s with active := some { active with
        records := active.records ++ records
        bytes := active.bytes + (records.map recordBytes).sum } }

/-- The buffer overflows with some more bytes. -/
def overflows (s : Runtime δ) (bytes : ℕ) : Bool :=
  s.active.any fun active => active.records ≠ [] && maxSessionBufferBytes < active.bytes + bytes

/-- `#append`. -/
def append (host : Host) (s : Runtime δ) (records : List ReducedRecord) : Runtime δ :=
  let group := grouped records
  let s := if s.overflows (group.map recordBytes).sum then s.flush host false else s
  s.push group

/-- The reducer of the active window makes records, which are appended. -/
def reduceBy (host : Host) (s : Runtime δ) (reduction : Reducing δ (List ReducedRecord)) : Runtime δ :=
  match s.active with
  | none => s
  | some active =>
    let reduced := reduction.run active.reducer
    { s with
      active := some { active with reducer := reduced.2 }
      emitted := s.emitted ++ [reduced.1] }.append host reduced.1

/-- `#degradeActive`. -/
def degradeActive (host : Host) (s : Runtime δ) (reason : DegradationReason) : Runtime δ :=
  s.reduceBy host (Reducer.degrade reason)

/-- A start that is not taken: the active window is degraded and flushed. -/
def refuseStart (host : Host) (s : Runtime δ) : Runtime δ := (s.degradeActive host .missingField).flush host false

/-- A new window becomes active, and is flushed. -/
def openWindow (host : Host) (s : Runtime δ) (sessionId : PiSessionId) (workspacePath : Option JsString)
    (discriminator : Option JsString) : Runtime δ :=
  match discriminator.bind checkedWindowDiscriminator with
  | none => s
  | some window =>
    { s with active := some ⟨.create ⟨sessionId, window⟩, workspacePath, [], 0⟩ }.flush host true

/-- A session starts: the active window, if there is one, is degraded, flushed and left, unless its
end is put back. -/
def start (host : Host) (s : Runtime δ) (sessionId : PiSessionId) (workspacePath : Option JsString)
    (discriminator : Option JsString) : Runtime δ :=
  let s := (s.degradeActive host .invalidTransition).flush host false
  if s.active.any fun active => active.records ≠ [] then s
  else { s with active := none }.openWindow host sessionId workspacePath discriminator

/-- `#sessionStart`. -/
def sessionStart (host : Host) (s : Runtime δ) (value : HostValue) (context : Context)
    (discriminator : Option JsString) : Runtime δ :=
  match value with
  | .other => s.refuseStart host
  | .record dataValue =>
    match dataValue "type" with
    -- Where reading throws, the callback ends.
    | none => s
    | some (.text type) =>
      if type ≠ .ofAscii "session_start" then s.refuseStart host
      else
        match dataValue "reason", contextSessionId context with
        | none, _ => s
        | some (.text reason), some sessionId =>
          if ¬startReasons.any fun name => reason = .ofAscii name then s.refuseStart host
          else s.start host sessionId (contextWorkspacePath context) discriminator
        | _, _ => s.refuseStart host
    | some _ => s.refuseStart host

/-- The window is flushed at a boundary, and left after its end. -/
def afterEvent (host : Host) (s : Runtime δ) (type : EventType) : Runtime δ :=
  let s := if type.flushBoundary then s.flush host false else s
  if type.closesWindow ∧ s.active.any fun active => active.reducer.finished && active.records = [] then
    { s with active := none }
  else s

/-- The context is not the one of the active window. -/
def strays (active : ActiveWindow δ) (context : Context) : Bool :=
  contextSessionId context ≠ some active.coordinates.sessionId
    || active.workspacePath.any fun path => (contextWorkspacePath context).any fun other => other ≠ path

/-- `#observedEvent`. -/
def observedEvent (host : Host) (s : Runtime δ) (expectedType : EventType) (value : HostValue)
    (context : Context) : Runtime δ :=
  match s.active with
  | none => s
  | some active =>
    if strays active context then
      (s.reduceBy host (Reducer.degrade .missingField)).afterEvent host expectedType
    else
      match value with
      | .other => (s.reduceBy host (Reducer.degrade .missingField)).afterEvent host expectedType
      | .record dataValue =>
        match dataValue "type" with
        | none => s
        | some (.text type) =>
          if type ≠ .ofAscii expectedType.text then
            (s.reduceBy host (Reducer.degrade .missingField)).afterEvent host expectedType
          else (s.reduceBy host (Reducer.reduce (.record dataValue))).afterEvent host expectedType
        | some _ => (s.reduceBy host (Reducer.degrade .missingField)).afterEvent host expectedType

/-- A callback runs. -/
def step (host : Host) (s : Runtime δ) : Callback → Runtime δ
  | .sessionStart value context discriminator => s.sessionStart host value context discriminator
  | .observedEvent expectedType value context => s.observedEvent host expectedType value context

/-- The runtime after callbacks. -/
def run (host : Host) (callbacks : List Callback) : Runtime δ := callbacks.foldl (step host) create

end Runtime

end SalienceGate.Pi
