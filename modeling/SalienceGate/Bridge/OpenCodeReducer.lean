import SalienceGate.Bridge.OpenCode

/-!
# The reducer of the OpenCode bridge

`opencode/src/reducer.ts`: host events become records of a session. The reducer keeps bounded tables:
the sessions with their calls and event ids, the sessions that are finished, and those that found no
place. Every key and fingerprint is a digest, which is left open.

A host event is given by what the reducer reads of it. Objects in JavaScript are shared, so what the
source changes in a session is written back to the table here.
-/

namespace SalienceGate.OpenCode

/-! ## Host events -/

/-- A field of a host event. -/
inductive Field where
  | undefined
  | text (value : JsString)
  /-- A value of another type. -/
  | other

/-- `exactText`. -/
def Field.exactText (maximumBytes : ℕ) : Field → Option JsString
  | .text value => if value.isExactText maximumBytes then some value else none
  | _ => none

/-- `exactText(value, MAX_CAPTURE_SESSION_ID_BYTES)`. -/
def Field.sessionId : Field → Option NativeSessionId
  | .text value =>
    if h : value.isExactText maxCaptureSessionIdBytes = true then some ⟨value, h⟩ else none
  | _ => none

/-- `optionalEventID`. -/
def Field.eventId (field : Field) : Option JsString := field.exactText maxCaptureEventIdBytes

/-- `OpenCodeToolStatus`. -/
inductive ToolStatus where
  | pending | running | completed | error
deriving DecidableEq

/-- `rank`. -/
def ToolStatus.rank : ToolStatus → ℕ
  | .pending => 0
  | .running => 1
  | .completed | .error => 2

/-- `isTerminal`. -/
def ToolStatus.isTerminal (status : ToolStatus) : Bool := status = .completed || status = .error

/-- A `state` with an `input`. -/
structure ToolState where
  /-- The status, if it is one. -/
  status : Option ToolStatus
  /-- What `canonicalizeJson` makes of the input, if it takes it. -/
  input : Option Json

/-- A `part` of type `tool`. -/
structure ToolPart where
  sessionId : Field
  callId : Field
  tool : Field
  state : Option ToolState

/-- `session.idle`, `session.error` and `session.compacted`. -/
inductive Lifecycle where
  | idle | error | compacted
deriving DecidableEq

/-- An event of the host, with properties. -/
inductive HostEvent where
  /-- `message.part.updated`, with a part of a tool. -/
  | partUpdated (id sessionId : Field) (part : ToolPart)
  /-- `session.deleted`, with the id of its `info`. -/
  | deleted (id sessionId infoId : Field)
  | lifecycle (type : Lifecycle) (id sessionId : Field)
  /-- Anything else. -/
  | ignored

/-! ## The state -/

/-- What the reducer digests; `δ` are the digests. -/
inductive Digested (δ : Type) where
  | activeSession (sessionId : NativeSessionId)
  | finalizedSession (sessionId : NativeSessionId)
  | sessionTableOverflow (sessionId : NativeSessionId)
  | eventId (eventId : JsString)
  | callId (callId : JsString)
  | unavailableIdentity (callId tool : JsString)
  | toolFingerprint (sessionId : NativeSessionId) (callId tool : JsString) (status : ToolStatus) (identity : δ)
  | lifecycleFingerprint (sessionId : NativeSessionId) (type : Lifecycle)
  | deletedFingerprint (sessionId : NativeSessionId)

/-- `digest`. -/
class Digesting (δ : Type) where
  digest : Digested δ → δ
  /-- The digest of a tool with its input; nothing if the two together break the contract. -/
  digestInput : JsString → Json → Option δ

/-- `CallState`. -/
structure CallState (δ : Type) where
  status : ToolStatus
  identity : δ
  retainedBytes : ℕ

/-- `EventState`. -/
structure EventState (δ : Type) where
  fingerprint : δ
  retainedBytes : ℕ

/-- `SessionState`. -/
structure SessionState (δ : Type) where
  calls : Dict δ (CallState δ)
  events : Dict δ (EventState δ)
  disabled : Bool
  deleted : Bool
  recordCount : ℕ
  overflowReported : Bool
  retainedBytes : ℕ

/-- `FinalizedSessionState`. -/
structure FinalizedSessionState (δ : Type) where
  events : Dict δ δ
  degradationReported : Bool

/-- `OpenCodeEventReducer`. -/
structure Reducer (δ : Type) where
  sessions : Dict δ (SessionState δ)
  finalizedSessions : Dict δ (FinalizedSessionState δ)
  overflowSessions : Dict δ Unit
  evictAfterReduction : List δ
  retainedStateBytes : ℕ

/-- `MAX_SESSIONS`. -/
def maxSessions : ℕ := 256

/-- `MAX_CALLS_PER_SESSION`. -/
def maxCallsPerSession : ℕ := 1000

/-- `MAX_EVENT_IDS_PER_SESSION`. -/
def maxEventIdsPerSession : ℕ := 4096

/-- `MAX_REDUCED_RECORDS_PER_SESSION`. -/
def maxReducedRecordsPerSession : ℕ := 997

/-- `MAX_FINALIZED_SESSIONS`. -/
def maxFinalizedSessions : ℕ := 1024

/-- `MAX_FINALIZED_EVENT_IDS`. -/
def maxFinalizedEventIds : ℕ := 8

/-- `MAX_OVERFLOW_SESSION_MARKERS`. -/
def maxOverflowSessionMarkers : ℕ := 1024

/-- `MAX_REDUCER_STATE_BYTES`. -/
def maxReducerStateBytes : ℕ := 2 * 1024 * 1024

/-- `SESSION_STATE_OVERHEAD_BYTES`. -/
def sessionStateOverheadBytes : ℕ := 256

/-- `CALL_STATE_OVERHEAD_BYTES`. -/
def callStateOverheadBytes : ℕ := 192

/-- `EVENT_STATE_OVERHEAD_BYTES`. -/
def eventStateOverheadBytes : ℕ := 160

namespace Reducer

variable {δ : Type} [DecidableEq δ] [Digesting δ]

open Digesting

/-- The records of a reduction, and the reducer after it. -/
abbrev Reducing (δ α : Type) := StateM (Reducer δ) α

/-- The oldest entries make room for one more. -/
def evict {ν : Type} (limit : ℕ) (table : Dict δ ν) : Dict δ ν :=
  (table.keys.take (table.size + 1 - limit)).foldl Dict.erase table

/-- `#activeSession`. -/
def activeSession (sessionId : NativeSessionId) : Reducing δ (Option (SessionState δ)) := do
  return (← get).sessions.get? (digest (.activeSession sessionId))

/-- The fields of a session are written. -/
def putSession (sessionId : NativeSessionId) (session : SessionState δ) : Reducing δ Unit :=
  modify fun r => { r with sessions := r.sessions.set (digest (.activeSession sessionId)) session }

/-- `#reserveState`. -/
def reserveState (bytes : ℕ) : Reducing δ Bool := do
  let r ← get
  if maxReducerStateBytes < r.retainedStateBytes + bytes then return false
  else
    set { r with retainedStateBytes := r.retainedStateBytes + bytes }
    return true

/-- `#releaseSession`. -/
def releaseSession (sessionId : NativeSessionId) (session : SessionState δ) : Reducing δ Unit := do
  let bytes := session.retainedBytes + session.calls.total CallState.retainedBytes
    + session.events.total EventState.retainedBytes
  modify fun r => { r with retainedStateBytes := r.retainedStateBytes - bytes }
  putSession sessionId { session with calls := .empty, events := .empty }

/-- `#sessionOverflow`. -/
def sessionOverflow (sessionId : NativeSessionId) : Reducing δ (List ReducedRecord) := do
  let r ← get
  let key := digest (.sessionTableOverflow sessionId)
  if key ∈ r.overflowSessions then
    set { r with overflowSessions := (r.overflowSessions.erase key).set key () }
    return []
  else
    set { r with overflowSessions := (evict maxOverflowSessionMarkers r.overflowSessions).set key () }
    return [.coverageDegraded sessionId .overflow]

/-- `#finalizedSession`: the session becomes the one that was used last. -/
def finalizedSession (sessionId : NativeSessionId) : Reducing δ (Option (FinalizedSessionState δ)) := do
  let r ← get
  let key := digest (.finalizedSession sessionId)
  match r.finalizedSessions.get? key with
  | none => return none
  | some state =>
    set { r with finalizedSessions := (r.finalizedSessions.erase key).set key state }
    return some state

/-- The fields of a finalized session are written. -/
def putFinalized (sessionId : NativeSessionId) (state : FinalizedSessionState δ) : Reducing δ Unit :=
  modify fun r => { r with
    finalizedSessions := r.finalizedSessions.set (digest (.finalizedSession sessionId)) state }

/-- `#rememberFinalized`. -/
def rememberFinalized (sessionId : NativeSessionId) (eventId : Option JsString) (fingerprint : δ) :
    Reducing δ Unit :=
  modify fun r =>
    let key := digest (.finalizedSession sessionId)
    let events : Dict δ δ :=
      match eventId with
      | some eventId => Dict.empty.set (digest (.eventId eventId)) fingerprint
      | none => .empty
    { r with
      finalizedSessions := (evict maxFinalizedSessions (r.finalizedSessions.erase key)).set key ⟨events, false⟩ }

/-- `#reduceFinalized`. -/
def reduceFinalized (sessionId : NativeSessionId) (state : FinalizedSessionState δ)
    (eventId : Option JsString) (fingerprint : δ) : Reducing δ (List ReducedRecord) := do
  match eventId with
  | none => return []
  | some eventId =>
    let key := digest (.eventId eventId)
    match state.events.get? key with
    | some prior =>
      if prior = fingerprint then return []
      else return [.coverageDegraded sessionId .invalidTransition]
    | none =>
      if maxFinalizedEventIds ≤ state.events.size then return [.coverageDegraded sessionId .overflow]
      else
        putFinalized sessionId { state with events := state.events.set key fingerprint }
        return []

/-- `#session`: the session, or a new one if there is a place. -/
def session (sessionId : NativeSessionId) : Reducing δ (Option (SessionState δ)) := do
  let r ← get
  match r.sessions.get? (digest (.activeSession sessionId)) with
  | some prior => return some prior
  | none =>
    let retainedBytes := sessionStateOverheadBytes + sessionId.text.byteLength
    if maxSessions ≤ r.sessions.size then return none
    else if ← reserveState retainedBytes then
      let overflowKey := digest (.sessionTableOverflow sessionId)
      let state : SessionState δ := {
        calls := .empty, events := .empty, disabled := false, deleted := false
        recordCount := if overflowKey ∈ r.overflowSessions then 1 else 0
        overflowReported := false, retainedBytes }
      modify fun r => { r with overflowSessions := r.overflowSessions.erase overflowKey }
      putSession sessionId state
      return some state
    else return none

/-- `#degrade`. -/
def degrade (sessionId : NativeSessionId) (reason : DegradationReason) (disable : Bool) :
    Reducing δ (List ReducedRecord) := do
  match ← session sessionId with
  | none => sessionOverflow sessionId
  | some state =>
    if disable then putSession sessionId { state with disabled := true }
    return [.coverageDegraded sessionId reason]

/-- `#degrade`, or `#degradeFinalized` for a finalized session. -/
def degradeEither (finalized : Option (FinalizedSessionState δ)) (sessionId : NativeSessionId) :
    Reducing δ (List ReducedRecord) :=
  match finalized with
  | none => degrade sessionId .missingField true
  | some _ => return [.coverageDegraded sessionId .missingField]

/-- The result of `#eventReplay`. -/
inductive EventReplay where
  | new | replay | conflict | overflow

/-- `#eventReplay`. -/
def eventReplay (sessionId : NativeSessionId) (state : SessionState δ) (eventId : Option JsString)
    (fingerprint : δ) : Reducing δ EventReplay := do
  match eventId with
  | none => return .new
  | some eventId =>
    let key := digest (.eventId eventId)
    match state.events.get? key with
    | some prior => if prior.fingerprint = fingerprint then return .replay else return .conflict
    | none =>
      let retainedBytes := eventStateOverheadBytes + eventId.byteLength
      if maxEventIdsPerSession ≤ state.events.size then return .overflow
      else if ← reserveState retainedBytes then
        putSession sessionId { state with events := state.events.set key ⟨fingerprint, retainedBytes⟩ }
        return .new
      else return .overflow

/-- What follows a replay check, for an event that is not new. -/
def afterReplay (sessionId : NativeSessionId) (outcome : EventReplay)
    (new : Reducing δ (List ReducedRecord)) : Reducing δ (List ReducedRecord) :=
  match outcome with
  | .new => new
  | .replay => return []
  | .conflict => degrade sessionId .invalidTransition false
  | .overflow => degrade sessionId .overflow true

/-! ## Tools -/

/-- The `tool_finished` record of a terminal status. -/
def toolFinished (sessionId : NativeSessionId) (eventId : Option JsString) (callId : JsString)
    (status : ToolStatus) : ReducedRecord :=
  .toolFinished sessionId eventId callId (status = .completed)

/-- A call that is seen for the first time. -/
def newCall (sessionId : NativeSessionId) (eventId : Option JsString) (callId tool : JsString)
    (status : ToolStatus) (input : Option Json) (identity : δ) : Reducing δ (List ReducedRecord) := do
  let some state ← activeSession sessionId | return []
  let retainedBytes := callStateOverheadBytes + callId.byteLength + tool.byteLength
  if maxCallsPerSession ≤ state.calls.size then degrade sessionId .overflow true
  else if ← reserveState retainedBytes then
    putSession sessionId { state with
      calls := state.calls.set (digest (.callId callId)) ⟨status, identity, retainedBytes⟩ }
    let started := ReducedRecord.toolStarted sessionId eventId callId tool input
    if status.isTerminal then return [started, toolFinished sessionId eventId callId status]
    else return [started]
  else degrade sessionId .overflow true

/-- A call that was seen before. -/
def knownCall (sessionId : NativeSessionId) (eventId : Option JsString) (callId : JsString)
    (status : ToolStatus) (identity : δ) (prior : CallState δ) : Reducing δ (List ReducedRecord) := do
  if prior.identity ≠ identity then degrade sessionId .invalidTransition false
  else if status.rank < prior.status.rank ∨ prior.status.isTerminal ∧ status ≠ prior.status then
    degrade sessionId .invalidTransition false
  else
    let some state ← activeSession sessionId | return []
    putSession sessionId { state with calls := state.calls.set (digest (.callId callId)) { prior with status } }
    if status = prior.status ∨ ¬status.isTerminal ∧ prior.status.rank < status.rank then return []
    else return [toolFinished sessionId eventId callId status]

/-- `#reduceTool`, once the fields of the part are checked. -/
def reduceCheckedTool (sessionId : NativeSessionId) (finalized : Option (FinalizedSessionState δ))
    (eventId : Option JsString) (callId tool : JsString) (status : ToolStatus) (input : Option Json) :
    Reducing δ (List ReducedRecord) := do
  let identity := (input.bind (digestInput tool)).getD (digest (.unavailableIdentity callId tool))
  let fingerprint := digest (.toolFingerprint sessionId callId tool status identity)
  match finalized with
  | some finalized => reduceFinalized sessionId finalized eventId fingerprint
  | none =>
    match ← session sessionId with
    | none => sessionOverflow sessionId
    | some state =>
      let outcome ← eventReplay sessionId state eventId fingerprint
      afterReplay sessionId outcome do
        match state.calls.get? (digest (.callId callId)) with
        | none => newCall sessionId eventId callId tool status input identity
        | some prior => knownCall sessionId eventId callId status identity prior

/-- `#reduceTool`. -/
def reduceTool (id outerSessionId : Field) (part : ToolPart) : Reducing δ (List ReducedRecord) := do
  let some sessionId := part.sessionId.sessionId | return []
  let finalized ← finalizedSession sessionId
  let existing ← activeSession sessionId
  if finalized.isNone && existing.any fun state => state.disabled || state.deleted then return []
  else
    let outerDiffers := match outerSessionId with
      | .undefined => false
      | outer => outer.sessionId ≠ some sessionId
    if outerDiffers then degradeEither finalized sessionId
    else
      match part.callId.exactText maxCaptureCallIdBytes, part.tool.exactText maxCaptureToolNameBytes,
        part.state with
      | some callId, some tool, some ⟨some status, input⟩ =>
        reduceCheckedTool sessionId finalized id.eventId callId tool status input
      | _, _, _ => degradeEither finalized sessionId

/-! ## Sessions -/

/-- `session.deleted`. -/
def reduceDeleted (id outerSessionId infoId : Field) : Reducing δ (List ReducedRecord) := do
  let some sessionId := infoId.sessionId | return []
  let fingerprint : δ := digest (.deletedFingerprint sessionId)
  let finalized ← finalizedSession sessionId
  let outerDiffers := match outerSessionId with
    | .undefined => false
    | outer => outer.sessionId ≠ some sessionId
  if outerDiffers then degradeEither finalized sessionId
  else
    match finalized with
    | some finalized => reduceFinalized sessionId finalized id.eventId fingerprint
    | none =>
      match ← session sessionId with
      | none => sessionOverflow sessionId
      | some state =>
        if state.deleted then return []
        else
          let outcome ← eventReplay sessionId state id.eventId fingerprint
          afterReplay sessionId outcome do
            let some state ← activeSession sessionId | return []
            rememberFinalized sessionId id.eventId fingerprint
            releaseSession sessionId { state with deleted := true }
            modify fun r => { r with
              evictAfterReduction := r.evictAfterReduction ++ [digest (.activeSession sessionId)] }
            return [.sessionFinished sessionId id.eventId]

/-- The record of a lifecycle event. -/
def lifecycleRecord (sessionId : NativeSessionId) (eventId : Option JsString) : Lifecycle → ReducedRecord
  | .idle => .turnFinished sessionId eventId
  | .error => .controllerFailed sessionId eventId
  | .compacted => .coverageBoundary sessionId eventId

/-- `session.idle`, `session.error` and `session.compacted`. -/
def reduceLifecycle (type : Lifecycle) (id sessionIdField : Field) : Reducing δ (List ReducedRecord) := do
  let some sessionId := sessionIdField.sessionId | return []
  let fingerprint : δ := digest (.lifecycleFingerprint sessionId type)
  match ← finalizedSession sessionId with
  | some finalized => reduceFinalized sessionId finalized id.eventId fingerprint
  | none =>
    match ← session sessionId with
    | none => sessionOverflow sessionId
    | some state =>
      if state.disabled || state.deleted then return []
      else
        let outcome ← eventReplay sessionId state id.eventId fingerprint
        afterReplay sessionId outcome do return [lifecycleRecord sessionId id.eventId type]

/-- `#reduceValue`. -/
def reduceValue : HostEvent → Reducing δ (List ReducedRecord)
  | .partUpdated id sessionId part => reduceTool id sessionId part
  | .deleted id sessionId infoId => reduceDeleted id sessionId infoId
  | .lifecycle type id sessionId => reduceLifecycle type id sessionId
  | .ignored => return []

/-! ## The bound on the records of a session -/

/-- The record is a `coverage_degraded`. -/
def isDegradation : ReducedRecord → Bool
  | .coverageDegraded .. => true
  | _ => false

/-- The records of a session that is not active: one degradation, reported once. -/
def boundInactive (sessionId : NativeSessionId) (values : List ReducedRecord) :
    Reducing δ (List ReducedRecord) := do
  match ← finalizedSession sessionId with
  | some finalized =>
    if !finalized.degradationReported && values.all isDegradation then
      putFinalized sessionId { finalized with degradationReported := true }
      return values.take 1
    else return []
  | none =>
    if digest (.sessionTableOverflow sessionId) ∈ (← get).overflowSessions && values.all isDegradation then
      return values.take 1
    else return []

/-- The records of an active session. -/
def boundActive (sessionId : NativeSessionId) (state : SessionState δ) (values : List ReducedRecord) :
    Reducing δ (List ReducedRecord) := do
  let terminalOnly := values.all ReducedRecord.isFinished
  if state.overflowReported then
    if terminalOnly && state.recordCount + values.length ≤ maxReducedRecordsPerSession then
      putSession sessionId { state with recordCount := state.recordCount + values.length }
      return values
    else return []
  else
    let limit :=
      if terminalOnly then maxReducedRecordsPerSession
      else if values.all isDegradation then maxReducedRecordsPerSession - 1
      else maxReducedRecordsPerSession - 2
    if state.recordCount + values.length ≤ limit then
      putSession sessionId { state with recordCount := state.recordCount + values.length }
      return values
    else if state.recordCount < maxReducedRecordsPerSession - 1 then
      putSession sessionId { state with
        disabled := true, overflowReported := true, recordCount := state.recordCount + 1 }
      return [.coverageDegraded sessionId .overflow]
    else
      putSession sessionId { state with disabled := true, overflowReported := true }
      return []

/-- `#boundedRecords`. -/
def boundedRecords (records : List ReducedRecord) : Reducing δ (List ReducedRecord) := do
  let grouped := records.foldl (fun (grouped : Dict NativeSessionId (List ReducedRecord)) record =>
    grouped.set record.sessionId ((grouped.get? record.sessionId).getD [] ++ [record])) .empty
  let admitted ← grouped.items.mapM fun (sessionId, values) => do
    match ← activeSession sessionId with
    | none => boundInactive sessionId values
    | some state => boundActive sessionId state values
  return admitted.flatten

/-- `reduce`. -/
def reduce (value : HostEvent) : Reducing δ (List ReducedRecord) := do
  let records ← reduceValue value
  let bounded ← boundedRecords records
  modify fun r => { r with
    sessions := r.evictAfterReduction.foldl Dict.erase r.sessions
    evictAfterReduction := [] }
  return bounded

/-- `isFinalized`. -/
def isFinalized (sessionId : NativeSessionId) : Reducing δ Bool := do
  return (← finalizedSession sessionId).isSome

end Reducer

/-- `flushTargets`. -/
def flushTargets : HostEvent → List NativeSessionId
  | .deleted _ _ infoId => infoId.sessionId.toList
  | .lifecycle _ _ sessionId => sessionId.sessionId.toList
  | _ => []

/-- The plugin's reducer. -/
def reducingHost (δ : Type) [DecidableEq δ] [Digesting δ] : Host (Reducer δ) HostEvent where
  initial := ⟨.empty, .empty, .empty, [], 0⟩
  reduce r value := (Reducer.reduce value).run r
  isFinalized r sessionId := (Reducer.isFinalized sessionId).run r
  flushTargets

/-! ## Sessions that become idle first

A session whose first event is `session.idle` is reduced to the end of a turn, as long as the table of
sessions has a place; the first session after that is reduced to an overflow. -/

section

open Digesting Reducer

variable {δ : Type} [DecidableEq δ] [Digesting δ] {r : Reducer δ} {x : NativeSessionId} {n : ℕ}

/-- The first `session.idle` of a session. -/
def idleEvent (sessionId : NativeSessionId) : HostEvent := .lifecycle .idle .undefined (.text sessionId.text)

theorem sessionId_text (x : NativeSessionId) : (Field.text x.text).sessionId = some x := dif_pos x.exact

theorem run_finalizedSession (h : r.finalizedSessions = .empty) :
    (finalizedSession x).run r = pure (none, r) := by
  simp [finalizedSession, h]

theorem run_activeSession :
    (activeSession x).run r = pure (r.sessions.get? (digest (.activeSession x)), r) := by
  simp [activeSession]

omit [DecidableEq δ] [Digesting δ] in
theorem run_reserveState (h : r.retainedStateBytes + n ≤ maxReducerStateBytes) :
    (reserveState n).run r = pure (true, { r with retainedStateBytes := r.retainedStateBytes + n }) := by
  simp [reserveState, Nat.not_lt_of_le h]

/-- The state of a session that is new. -/
def newSession (x : NativeSessionId) : SessionState δ where
  calls := .empty
  events := .empty
  disabled := false
  deleted := false
  recordCount := 0
  overflowReported := false
  retainedBytes := sessionStateOverheadBytes + x.text.byteLength

/-- The reducer with a new session. -/
def withSession (r : Reducer δ) (x : NativeSessionId) : Reducer δ :=
  { r with
    sessions := r.sessions.set (digest (.activeSession x)) (newSession x)
    retainedStateBytes := r.retainedStateBytes + (sessionStateOverheadBytes + x.text.byteLength) }

/-- The reducer with a session that found no place. -/
def withOverflow (r : Reducer δ) (x : NativeSessionId) : Reducer δ :=
  { r with overflowSessions := Dict.empty.set (digest (.sessionTableOverflow x)) () }

theorem run_session_new (hkey : digest (.activeSession x) ∉ r.sessions) (hsize : r.sessions.size < maxSessions)
    (hoverflow : r.overflowSessions = .empty)
    (hbytes : r.retainedStateBytes + (sessionStateOverheadBytes + x.text.byteLength) ≤ maxReducerStateBytes) :
    (Reducer.session x).run r = pure (some (newSession x), withSession r x) := by
  have hreserved := run_reserveState hbytes
  simp only [Reducer.session, StateT.run_bind, StateT.run_get, pure_bind, Dict.get?_eq_none.mpr hkey,
    if_neg (Nat.not_le_of_lt hsize), hreserved, hoverflow]
  simp [newSession, withSession, putSession, Dict.notMem_empty, hoverflow]
  rfl

theorem run_session_full (hkey : digest (.activeSession x) ∉ r.sessions) (hsize : maxSessions ≤ r.sessions.size) :
    (Reducer.session x).run r = pure (none, r) := by
  simp [Reducer.session, Dict.get?_eq_none.mpr hkey, hsize]

theorem run_sessionOverflow (hoverflow : r.overflowSessions = .empty) :
    (sessionOverflow x).run r = pure ([.coverageDegraded x .overflow], withOverflow r x) := by
  have hevicted : evict maxOverflowSessionMarkers (Dict.empty : Dict δ Unit) = .empty := by
    unfold evict
    rw [show (Dict.empty : Dict δ Unit).keys = [] from rfl, List.take_nil, List.foldl_nil]
  simp [sessionOverflow, hoverflow, Dict.notMem_empty, hevicted, withOverflow]

theorem run_boundedRecords_one (record : ReducedRecord) {state : SessionState δ}
    (hget : r.sessions.get? (digest (.activeSession record.sessionId)) = some state)
    (hover : state.overflowReported = false) (hcount : state.recordCount = 0) :
    (boundedRecords [record]).run r = pure ([record], { r with
      sessions := r.sessions.set (digest (.activeSession record.sessionId)) { state with recordCount := 1 } }) := by
  have hitems : ((Dict.empty : Dict NativeSessionId (List ReducedRecord)).set record.sessionId [record]).items
      = [(record.sessionId, [record])] := by
    rw [Dict.items_set_of_notMem (Dict.notMem_empty _)]
    rfl
  have hlimit : 1 ≤ if record.isFinished = true then maxReducedRecordsPerSession
      else if isDegradation record = true then maxReducedRecordsPerSession - 1
      else maxReducedRecordsPerSession - 2 := by
    split
    · decide
    · split <;> decide
  have hpositive := Nat.succ_le_iff.mp hlimit
  simp [boundedRecords, hitems, run_activeSession, hget, boundActive, hover, hcount, putSession, hlimit, hpositive]

/-- The reducer has seen the given sessions, in order, each with one event. -/
structure Seen (xs : List NativeSessionId) (r : Reducer δ) : Prop where
  sessions : r.sessions.keys = xs.map fun x => digest (.activeSession x)
  finalized : r.finalizedSessions = .empty
  overflow : r.overflowSessions = .empty
  evict : r.evictAfterReduction = []
  bytes : r.retainedStateBytes ≤ 300 * xs.length

omit [DecidableEq δ] in
theorem Seen.size_sessions {xs : List NativeSessionId} (h : Seen xs r) : r.sessions.size = xs.length := by
  have hlengths := congrArg List.length h.sessions
  rw [List.length_map] at hlengths
  rw [← hlengths]
  exact (List.length_map _).symm

/-- A reduction that evicts no session. -/
theorem reduce_eq {value : HostEvent} {records bounded : List ReducedRecord} {r₁ r₂ : Reducer δ}
    (hvalue : (reduceValue value).run r = pure (records, r₁))
    (hbounded : (boundedRecords records).run r₁ = pure (bounded, r₂)) (hevict : r₂.evictAfterReduction = []) :
    (reducingHost δ).reduce r value = (bounded, r₂) := by
  show (Reducer.reduce value).run r = pure (bounded, r₂)
  obtain ⟨sessions, finalizedSessions, overflowSessions, evictAfterReduction, retainedStateBytes⟩ := r₂
  dsimp only at hevict
  subst hevict
  simp [Reducer.reduce, hvalue, hbounded]

/-- A new session that finds a place. -/
theorem Seen.reduce_new {xs : List NativeSessionId} (h : Seen xs r)
    (hkey : digest (δ := δ) (.activeSession x) ∉ xs.map fun x => digest (.activeSession x))
    (hlength : xs.length < maxSessions) (hbytes : x.text.byteLength ≤ 4) :
    ∃ r', (reducingHost δ).reduce r (idleEvent x) = ([.turnFinished x none], r') ∧ Seen (xs ++ [x]) r' := by
  have hfresh : digest (.activeSession x) ∉ r.sessions := by
    rw [Dict.mem_def, h.sessions]
    exact hkey
  have hsize : r.sessions.size < maxSessions := by
    rw [h.size_sessions]
    exact hlength
  have hroom : r.retainedStateBytes + (sessionStateOverheadBytes + x.text.byteLength) ≤ maxReducerStateBytes := by
    have hseen := h.bytes
    unfold maxSessions at hlength
    unfold sessionStateOverheadBytes maxReducerStateBytes
    omega
  have hvalue : (reduceValue (idleEvent x)).run r = pure ([.turnFinished x none], withSession r x) := by
    simp [reduceValue, idleEvent, reduceLifecycle, sessionId_text, run_finalizedSession h.finalized,
      run_session_new hfresh hsize h.overflow hroom, newSession, Field.eventId, Field.exactText, eventReplay,
      afterReplay, lifecycleRecord]
  have hget : (withSession r x).sessions.get? (digest (.activeSession x)) = some (newSession x) :=
    Dict.get?_set_self
  have hbounded := run_boundedRecords_one (.turnFinished x none) hget rfl rfl
  refine ⟨_, reduce_eq hvalue hbounded h.evict, ⟨?_, h.finalized, h.overflow, h.evict, ?_⟩⟩
  · show ((r.sessions.set _ (newSession x)).set _ _).keys = _
    refine (Dict.keys_set_of_mem (Dict.mem_set.mpr (.inl rfl))).trans ?_
    rw [Dict.keys_set_of_notMem hfresh, h.sessions, List.map_append]
    rfl
  · have hseen := h.bytes
    rw [List.length_append]
    show r.retainedStateBytes + (256 + x.text.byteLength) ≤ 300 * (xs.length + 1)
    omega

/-- A new session that finds no place. -/
theorem Seen.reduce_full {xs : List NativeSessionId} (h : Seen xs r)
    (hkey : digest (δ := δ) (.activeSession x) ∉ xs.map fun x => digest (.activeSession x))
    (hlength : xs.length = maxSessions) :
    (reducingHost δ).reduce r (idleEvent x) = ([.coverageDegraded x .overflow], withOverflow r x) := by
  have hfresh : digest (.activeSession x) ∉ r.sessions := by
    rw [Dict.mem_def, h.sessions]
    exact hkey
  have hsize : maxSessions ≤ r.sessions.size := by
    rw [h.size_sessions]
    exact hlength.ge
  have hvalue : (reduceValue (idleEvent x)).run r = pure ([.coverageDegraded x .overflow], withOverflow r x) := by
    simp [reduceValue, idleEvent, reduceLifecycle, sessionId_text, run_finalizedSession h.finalized,
      run_session_full hfresh hsize, run_sessionOverflow h.overflow]
  have hbounded : (boundedRecords [.coverageDegraded x .overflow]).run (withOverflow r x)
      = pure ([.coverageDegraded x .overflow], withOverflow r x) := by
    have hitems : ((Dict.empty : Dict NativeSessionId (List ReducedRecord)).set x
        [.coverageDegraded x .overflow]).items = [(x, [.coverageDegraded x .overflow])] := by
      rw [Dict.items_set_of_notMem (Dict.notMem_empty _)]
      rfl
    have hnone : (withOverflow r x).sessions.get? (digest (.activeSession x)) = none :=
      Dict.get?_eq_none.mpr hfresh
    have hreported : digest (.sessionTableOverflow x) ∈ (withOverflow r x).overflowSessions :=
      Dict.mem_set.mpr (.inl rfl)
    simp [boundedRecords, ReducedRecord.sessionId, hitems, run_activeSession, hnone, boundInactive,
      run_finalizedSession (r := withOverflow r x) h.finalized, hreported, isDegradation]
  exact reduce_eq hvalue hbounded h.evict

/-- A session that is not finished. -/
theorem isFinalized_of_empty (h : r.finalizedSessions = .empty) :
    (reducingHost δ).isFinalized r x = (false, r) := by
  show (Reducer.isFinalized x).run r = pure _
  simp [Reducer.isFinalized, run_finalizedSession h]

end

end SalienceGate.OpenCode
