import SalienceGate.Bridge.Documents
import SalienceGate.Lib.Dict

/-!
# The reducer of the Pi bridge

`pi/src/reducer.ts`: the events of one window of a Pi session become records. A call is remembered
while it runs and after it, in tables with a bound on their bytes; what does not fit together makes a
`coverage_degraded` record. A window has at most 997 records, the last two of which are kept for a
degradation and for the end of the session.

An event of the host is given by what reading its properties gives. Objects in JavaScript are shared,
so what the source changes in an entry of a table is written back here.
-/

namespace SalienceGate.Pi

/-! ## Limits -/

/-- `MAX_PI_NATIVE_SESSION_ID_BYTES`. -/
def maxPiNativeSessionIdBytes : ℕ := 16 * 1024

/-- `MAX_PI_LEAF_ID_BYTES`. -/
def maxPiLeafIdBytes : ℕ := 16 * 1024

/-- `MAX_CALLS_PER_WINDOW`. -/
def maxCallsPerWindow : ℕ := 1000

/-- `MAX_REDUCED_RECORDS_PER_WINDOW`. -/
def maxReducedRecordsPerWindow : ℕ := 997

/-- `MAX_REDUCER_STATE_BYTES`. -/
def maxReducerStateBytes : ℕ := 2 * 1024 * 1024

/-- `CALL_STATE_OVERHEAD_BYTES`. -/
def callStateOverheadBytes : ℕ := 192

/-- `FINAL_CALL_STATE_BYTES`. -/
def finalCallStateBytes : ℕ := 192

/-! ## Coordinates -/

/-- A letter or a digit of ASCII. -/
def isAlphanumeric (code : Fin 65536) : Bool :=
  (0x30 ≤ code.val && code.val ≤ 0x39) || (0x41 ≤ code.val && code.val ≤ 0x5a)
    || (0x61 ≤ code.val && code.val ≤ 0x7a)

/-- A character within a native session id: these, and `-`, `.` and `_`. -/
def isIdCharacter (code : Fin 65536) : Bool :=
  isAlphanumeric code || code.val = 0x2d || code.val = 0x2e || code.val = 0x5f

/-- `NATIVE_SESSION_ID`. -/
def isNativeSessionId (text : JsString) : Bool :=
  text.units.all isIdCharacter && text.units.head?.any isAlphanumeric && text.units.getLast?.any isAlphanumeric

/-- A session id that `checkedNativeSessionID` takes. -/
structure PiSessionId where
  text : JsString
  exact : text.isExactText maxPiNativeSessionIdBytes = true
  closed : isNativeSessionId text = true
deriving DecidableEq

/-- A window discriminator of the right form. -/
structure WindowDiscriminator where
  text : JsString
  sha256 : isSha256 text = true
deriving DecidableEq

/-- `WindowCoordinates`. -/
structure Coordinates where
  sessionId : PiSessionId
  windowDiscriminator : WindowDiscriminator
deriving DecidableEq

/-! ## Records -/

/-- The reasons of a `coverage_degraded` record. -/
inductive DegradationReason where
  | ambiguousError | invalidTransition | missingField | overflow | unmatchedStart
deriving DecidableEq

/-- `PiCompactionReason`. -/
inductive CompactionReason where
  | manual | threshold | overflow
deriving DecidableEq

/-- `PiSessionShutdownReason`. -/
inductive ShutdownReason where
  | quit | reload | new | resume | fork
deriving DecidableEq

/-- The text of a degradation reason. -/
def DegradationReason.text : DegradationReason → String
  | .ambiguousError => "ambiguous_error"
  | .invalidTransition => "invalid_transition"
  | .missingField => "missing_field"
  | .overflow => "overflow"
  | .unmatchedStart => "unmatched_start"

/-- The text of a compaction reason. -/
def CompactionReason.text : CompactionReason → String
  | .manual => "manual"
  | .threshold => "threshold"
  | .overflow => "overflow"

/-- The text of a shutdown reason. -/
def ShutdownReason.text : ShutdownReason → String
  | .quit => "quit"
  | .reload => "reload"
  | .new => "new"
  | .resume => "resume"
  | .fork => "fork"

/-- `ReducedPiBody`. -/
inductive ReducedBody where
  | toolStarted (callId tool : JsString)
  | toolFinished (callId : JsString)
  | turnFinished
  | compaction (reason : CompactionReason) (fromExtension willRetry : Bool)
  | tree (oldLeafId newLeafId : Option JsString)
  | coverageDegraded (reason : DegradationReason)
  | sessionFinished (reason : ShutdownReason)
deriving DecidableEq

/-- The body of a `session_finished` record. -/
def ReducedBody.isFinished : ReducedBody → Bool
  | .sessionFinished _ => true
  | _ => false

/-- `ReducedPiRecord`. -/
structure ReducedRecord where
  body : ReducedBody
  coordinates : Coordinates
  eventId : ℕ
deriving DecidableEq

/-- The text of a leaf, or `null`. -/
def leafJson (leaf : Option JsString) : JsValue := leaf.elim .null .text

open JsValue (field word)

/-- The object of a record. -/
def ReducedRecord.json (record : ReducedRecord) : JsValue :=
  let eventId := field "event_id" (word record.eventId.repr)
  let sessionId := field "session_id" (.text record.coordinates.sessionId.text)
  let window := field "window_discriminator" (.text record.coordinates.windowDiscriminator.text)
  match record.body with
  | .toolStarted callId tool =>
    .object [field "call_id" (.text callId), eventId, field "identity_authority" (word "coarse"),
      field "kind" (word "tool_started"), sessionId, field "tool" (.text tool), window]
  | .toolFinished callId =>
    .object [field "call_id" (.text callId), eventId, field "kind" (word "tool_finished"),
      field "outcome" (word "succeeded"), sessionId, window]
  | .turnFinished => .object [eventId, field "kind" (word "turn_finished"), sessionId, window]
  | .compaction reason fromExtension willRetry =>
    .object [field "compaction_reason" (word reason.text), eventId, field "from_extension" (.bool fromExtension),
      field "kind" (word "coverage_boundary"), field "reason" (word "compaction"), sessionId,
      field "will_retry" (.bool willRetry), window]
  | .tree oldLeafId newLeafId =>
    .object [eventId, field "kind" (word "coverage_boundary"), field "new_leaf_id" (leafJson newLeafId),
      field "old_leaf_id" (leafJson oldLeafId), field "reason" (word "tree"), sessionId, window]
  | .coverageDegraded reason =>
    .object [eventId, field "kind" (word "coverage_degraded"), field "reason" (word reason.text), sessionId, window]
  | .sessionFinished reason =>
    .object [eventId, field "kind" (word "session_finished"), field "reason" (word reason.text), sessionId, window]

/-! ## Host events -/

/-- A value of a property; `other` also stands for a property that is not there. -/
inductive Field where
  | null
  | bool (value : Bool)
  | text (value : JsString)
  | other

/-- `exactText`. -/
def Field.exactText (maximumBytes : ℕ) : Field → Option JsString
  | .text value => if value.isExactText maximumBytes then some value else none
  | _ => none

/-- `exactLeaf`. -/
def Field.exactLeaf : Field → Option (Option JsString)
  | .null => some none
  | field => (field.exactText maxPiLeafIdBytes).map some

/-- What the host passes as an event: an object, by what `dataValue` reads of it, or something else.
Reading a property may throw, and then it gives nothing. -/
inductive HostValue where
  | record (dataValue : String → Option Field)
  | other

/-- The events of a window. -/
inductive EventType where
  | beforeAgentStart | toolExecutionStart | toolExecutionEnd | agentSettled | sessionCompact | sessionTree
  | sessionShutdown
deriving DecidableEq

/-- The `type` of an event. -/
def EventType.text : EventType → String
  | .beforeAgentStart => "before_agent_start"
  | .toolExecutionStart => "tool_execution_start"
  | .toolExecutionEnd => "tool_execution_end"
  | .agentSettled => "agent_settled"
  | .sessionCompact => "session_compact"
  | .sessionTree => "session_tree"
  | .sessionShutdown => "session_shutdown"

/-- A member of an enumeration, by its text. -/
def named {α : Type} (members : List α) (text : α → String) : Option Field → Option α
  | some (.text value) => members.find? fun member => value = .ofAscii (text member)
  | _ => none

/-- `EventType`, of a `type`. -/
def EventType.named : Option Field → Option EventType :=
  Pi.named [.beforeAgentStart, .toolExecutionStart, .toolExecutionEnd, .agentSettled, .sessionCompact, .sessionTree,
    .sessionShutdown] EventType.text

/-- `COMPACTION_REASONS`. -/
def CompactionReason.named : Option Field → Option CompactionReason :=
  Pi.named [.manual, .threshold, .overflow] CompactionReason.text

/-- `SHUTDOWN_REASONS`. -/
def ShutdownReason.named : Option Field → Option ShutdownReason :=
  Pi.named [.quit, .reload, .new, .resume, .fork] ShutdownReason.text

/-- A property that is a text within a bound. -/
def exactProperty (dataValue : String → Option Field) (key : String) (maximumBytes : ℕ) : Option JsString :=
  (dataValue key).bind (Field.exactText maximumBytes)

/-- A property that is a Boolean. -/
def booleanProperty (dataValue : String → Option Field) (key : String) : Option Bool :=
  match dataValue key with
  | some (.bool value) => some value
  | _ => none

/-! ## The state -/

/-- What the bridge digests. -/
inductive Digested where
  | call (callId : JsString)
  | start (callId tool : JsString)
  | finish (callId tool : JsString) (isError : Bool)
  | window (coordinates : Coordinates)
deriving DecidableEq

/-- `digest` and `windowKey`; `δ` are the digests. -/
class Digesting (δ : Type) where
  digest : Digested → δ

/-- `PendingCall`. -/
structure PendingCall (δ : Type) where
  startFingerprint : δ
  retainedBytes : ℕ

/-- `FinalCall`. -/
structure FinalCall (δ : Type) where
  startFingerprint : Option δ
  endFingerprint : Option δ
  retainedBytes : ℕ

/-- `PiWindowReducer`. -/
structure Reducer (δ : Type) where
  coordinates : Coordinates
  pending : Dict δ (PendingCall δ)
  final : Dict δ (FinalCall δ)
  retainedStateBytes : ℕ
  recordCount : ℕ
  nextEventId : ℕ
  overflowReported : Bool
  disabled : Bool
  finished : Bool
  turnOpen : Bool

/-- A reduction. -/
abbrev Reducing (δ α : Type) := StateM (Reducer δ) α

/-- How records are admitted. -/
inductive AdmissionMode where
  | degradation | normal | terminal
deriving DecidableEq

/-- The records that a window may have with those of a mode. -/
def AdmissionMode.limit : AdmissionMode → ℕ
  | .terminal => maxReducedRecordsPerWindow
  | .degradation => maxReducedRecordsPerWindow - 1
  | .normal => maxReducedRecordsPerWindow - 2

namespace Reducer

section

variable {δ : Type} [DecidableEq δ] [Digesting δ]

open Digesting

/-- The reducer of a new window. -/
def create (coordinates : Coordinates) : Reducer δ where
  coordinates := coordinates
  pending := .empty
  final := .empty
  retainedStateBytes := 0
  recordCount := 0
  nextEventId := 1
  overflowReported := false
  disabled := false
  finished := false
  turnOpen := false

/-- `#reserveState`. -/
def reserveState (bytes : ℕ) : Reducing δ Bool := do
  let r ← get
  if maxReducerStateBytes < r.retainedStateBytes + bytes then return false
  else
    modify fun r => { r with retainedStateBytes := r.retainedStateBytes + bytes }
    return true

/-- `#releaseState`. -/
def releaseState (bytes : ℕ) : Reducing δ Unit :=
  modify fun r => { r with retainedStateBytes := r.retainedStateBytes - bytes }

/-- A round of the loop of `#clearPending`. -/
def finalize (r : Reducer δ) (entry : δ × PendingCall δ) : Reducer δ :=
  { r with
    retainedStateBytes := r.retainedStateBytes - (entry.2.retainedBytes - finalCallStateBytes)
    final := r.final.set entry.1 ⟨some entry.2.startFingerprint, none, finalCallStateBytes⟩ }

/-- `#clearPending`. -/
def clearPending : Reducing δ Bool := do
  let r ← get
  modify fun r => { r.pending.items.foldl finalize r with pending := .empty }
  return 0 < r.pending.size

/-- `#materialize`. -/
def materialize (body : ReducedBody) : Reducing δ ReducedRecord := do
  let r ← get
  set { r with nextEventId := r.nextEventId + 1, recordCount := r.recordCount + 1 }
  return ⟨body, r.coordinates, r.nextEventId⟩

/-- `#admit`. -/
def admission (bodies : List ReducedBody) (mode : AdmissionMode) : Reducing δ (List ReducedRecord) := do
  let r ← get
  if bodies = [] then return []
  else if r.recordCount + bodies.length ≤ mode.limit then bodies.mapM materialize
  else if mode ≠ .normal then return []
  else
    modify fun r => { r with disabled := true }
    if ¬r.overflowReported ∧ r.recordCount < maxReducedRecordsPerWindow - 1 then
      modify fun r => { r with overflowReported := true }
      [.coverageDegraded .overflow].mapM materialize
    else return []

/-- `degrade`. -/
def degrade (reason : DegradationReason) : Reducing δ (List ReducedRecord) := do
  let r ← get
  if r.finished then return []
  else if reason = .overflow then
    modify fun r => { r with disabled := true, overflowReported := true }
    if r.overflowReported then return [] else admission [.coverageDegraded reason] .degradation
  else admission [.coverageDegraded reason] .degradation

/-- `#rememberFinal`. -/
def rememberFinal (key : δ) (startFingerprint endFingerprint : Option δ) : Reducing δ Bool := do
  if ← reserveState finalCallStateBytes then
    modify fun r => { r with final := r.final.set key ⟨startFingerprint, endFingerprint, finalCallStateBytes⟩ }
    return true
  else return false

/-- A call that was remembered makes a degradation, and one that could not be an overflow. -/
def degradeRemembered (remembered : Bool) (reason : DegradationReason) : Reducing δ (List ReducedRecord) :=
  if remembered then degrade reason else degrade .overflow

/-- A pending call is no longer pending. -/
def dropPending (key : δ) (call : PendingCall δ) : Reducing δ Unit := do
  modify fun r => { r with pending := r.pending.erase key }
  releaseState call.retainedBytes

/-- The tables have a place for another call. -/
def hasPlace (r : Reducer δ) : Bool := r.pending.size + r.final.size < maxCallsPerWindow

/-- `#toolStart`, of a call that is not known. -/
def startCall (key startFingerprint : δ) : Reducing δ (List ReducedRecord) := do
  if ¬(← get).hasPlace then degrade .overflow
  else if ← reserveState callStateOverheadBytes then
    modify fun r =>
      { r with pending := r.pending.set key ⟨startFingerprint, callStateOverheadBytes⟩, turnOpen := true }
    return []
  else degrade .overflow

/-- `#toolStart`, of an event with its call and its tool. -/
def toolStarted (callId tool : JsString) : Reducing δ (List ReducedRecord) := do
  let key : δ := digest (.call callId)
  let startFingerprint : δ := digest (.start callId tool)
  match (← get).final.get? key with
  | some finalized =>
    if finalized.startFingerprint = some startFingerprint then return [] else degrade .invalidTransition
  | none =>
    match (← get).pending.get? key with
    | some prior =>
      if prior.startFingerprint = startFingerprint then return []
      else
        dropPending key prior
        degradeRemembered (← rememberFinal key none none) .invalidTransition
    | none => startCall key startFingerprint

/-- `#toolStart`. A property that cannot be read ends in the same degradation as one of the wrong
form. -/
def toolStart (dataValue : String → Option Field) : Reducing δ (List ReducedRecord) := do
  if (← get).disabled then return []
  else
    match exactProperty dataValue "toolCallId" maxCaptureCallIdBytes,
        exactProperty dataValue "toolName" maxCaptureToolNameBytes with
    | some callId, some tool => toolStarted callId tool
    | _, _ => degrade .missingField

/-- `#toolEnd`, of a call that is not known. -/
def endUnknown (key endFingerprint : δ) : Reducing δ (List ReducedRecord) := do
  if ¬(← get).hasPlace then degrade .overflow
  else degradeRemembered (← rememberFinal key none (some endFingerprint)) .invalidTransition

/-- `#toolEnd`, of a pending call. -/
def endPending (callId tool : JsString) (isError : Bool) (pending : PendingCall δ) :
    Reducing δ (List ReducedRecord) := do
  let key : δ := digest (.call callId)
  let startFingerprint : δ := digest (.start callId tool)
  dropPending key pending
  if pending.startFingerprint ≠ startFingerprint then
    degradeRemembered (← rememberFinal key none none) .invalidTransition
  else if ← rememberFinal key (some startFingerprint) (some (digest (.finish callId tool isError))) then
    if isError then degrade .ambiguousError
    else admission [.toolStarted callId tool, .toolFinished callId] .normal
  else degrade .overflow

/-- `#toolEnd`, of a call that is over. -/
def endFinalized (key endFingerprint : δ) (finalized : FinalCall δ) : Reducing δ (List ReducedRecord) := do
  if finalized.endFingerprint = some endFingerprint then return []
  else
    if finalized.endFingerprint = none then
      modify fun r => { r with final := r.final.set key { finalized with endFingerprint := some endFingerprint } }
    degrade .invalidTransition

/-- `#toolEnd`, of an event with its call, its tool and whether it is an error. -/
def toolEnded (callId tool : JsString) (isError : Bool) : Reducing δ (List ReducedRecord) := do
  let key : δ := digest (.call callId)
  let endFingerprint : δ := digest (.finish callId tool isError)
  match (← get).final.get? key with
  | some finalized => endFinalized key endFingerprint finalized
  | none =>
    match (← get).pending.get? key with
    | some pending => endPending callId tool isError pending
    | none => endUnknown key endFingerprint

/-- `#toolEnd`. -/
def toolEnd (dataValue : String → Option Field) : Reducing δ (List ReducedRecord) := do
  if (← get).disabled then return []
  else
    match exactProperty dataValue "toolCallId" maxCaptureCallIdBytes,
        exactProperty dataValue "toolName" maxCaptureToolNameBytes, booleanProperty dataValue "isError" with
    | some callId, some tool, some isError => toolEnded callId tool isError
    | _, _, _ => degrade .missingField

/-- `#beforeAgentStart`. -/
def beforeAgentStart : Reducing δ (List ReducedRecord) := do
  let r ← get
  if r.disabled then return []
  else if r.turnOpen then degrade .invalidTransition
  else
    modify fun r => { r with turnOpen := true }
    return []

/-- The degradation of calls that were pending. -/
def unmatchedBodies (unmatched : Bool) : List ReducedBody :=
  if unmatched then [.coverageDegraded .unmatchedStart] else []

/-- `#agentSettled`. -/
def agentSettled : Reducing δ (List ReducedRecord) := do
  let unmatched ← clearPending
  let turn := if (← get).turnOpen then [ReducedBody.turnFinished] else []
  modify fun r => { r with turnOpen := false }
  admission (unmatchedBodies unmatched ++ turn) .normal

/-- A boundary: calls that are pending are not matched any more. -/
def boundary (body : ReducedBody) : Reducing δ (List ReducedRecord) := do
  let unmatched ← clearPending
  admission (unmatchedBodies unmatched ++ [body]) .normal

/-- The boundary of a `session_compact` event. -/
def compactionBody (dataValue : String → Option Field) : Option ReducedBody := do
  let reason ← CompactionReason.named (dataValue "reason")
  let fromExtension ← booleanProperty dataValue "fromExtension"
  let willRetry ← booleanProperty dataValue "willRetry"
  return .compaction reason fromExtension willRetry

/-- The boundary of a `session_tree` event. -/
def treeBody (dataValue : String → Option Field) : Option ReducedBody := do
  let newLeafId ← (dataValue "newLeafId").bind Field.exactLeaf
  let oldLeafId ← (dataValue "oldLeafId").bind Field.exactLeaf
  return .tree oldLeafId newLeafId

/-- `#compact` and `#tree`. -/
def boundaryOf : Option ReducedBody → Reducing δ (List ReducedRecord)
  | some body => boundary body
  | none => degrade .missingField

/-- The bodies at the end of a session: the terminal alone, if there is no room for more. -/
def terminalBodies (r : Reducer δ) (unmatched : Bool) (reason : ShutdownReason) : List ReducedBody :=
  let bodies := unmatchedBodies unmatched ++ [.sessionFinished reason]
  if maxReducedRecordsPerWindow < r.recordCount + bodies.length then [.sessionFinished reason] else bodies

/-- `#shutdown`, with a reason of the right form. -/
def finish (reason : ShutdownReason) : Reducing δ (List ReducedRecord) := do
  let unmatched ← clearPending
  modify fun r => { r with turnOpen := false }
  let records ← admission (terminalBodies (← get) unmatched reason) .terminal
  modify fun r => { r with finished := true }
  return records

/-- `#shutdown`. -/
def shutdown (dataValue : String → Option Field) : Reducing δ (List ReducedRecord) :=
  match ShutdownReason.named (dataValue "reason") with
  | some reason => finish reason
  | none => degrade .missingField

/-- `reduce`, of an event with its type. -/
def reduceTyped (dataValue : String → Option Field) : EventType → Reducing δ (List ReducedRecord)
  | .beforeAgentStart => beforeAgentStart
  | .toolExecutionStart => toolStart dataValue
  | .toolExecutionEnd => toolEnd dataValue
  | .agentSettled => agentSettled
  | .sessionCompact => boundaryOf (compactionBody dataValue)
  | .sessionTree => boundaryOf (treeBody dataValue)
  | .sessionShutdown => shutdown dataValue

/-- `reduce`. -/
def reduce : HostValue → Reducing δ (List ReducedRecord)
  | .other => return []
  | .record dataValue => do
    if (← get).finished then return []
    else if (dataValue "type").isNone then degrade .missingField
    else
      match EventType.named (dataValue "type") with
      | some type => reduceTyped dataValue type
      | none => return []

end

/-! ## The records of a reduction -/

section

variable {δ α β : Type} {r r' : Reducer δ}

/-- The event ids number the records, of which there are not too many. -/
structure Counts (r : Reducer δ) : Prop where
  nextEventId : r.nextEventId = r.recordCount + 1
  recordCount : r.recordCount ≤ maxReducedRecordsPerWindow

/-- Where a session ends, there are only degradations besides. -/
def Closing (bodies : List ReducedBody) : Prop :=
  (∃ body ∈ bodies, body.isFinished = true) →
    ∀ body ∈ bodies, (∃ reason, body = .coverageDegraded reason) ∨ ∃ reason, body = .sessionFinished reason

/-- A reduction from one state to another sends the records. -/
structure Sent (r : Reducer δ) (records : List ReducedRecord) (r' : Reducer δ) : Prop where
  coordinates : r'.coordinates = r.coordinates
  counts : r'.Counts
  /-- The records are of the window, and numbered. -/
  own : ∀ record ∈ records, record.coordinates = r.coordinates ∧ record.eventId ≤ maxReducedRecordsPerWindow
  closing : Closing (records.map ReducedRecord.body)

/-- A reduction that only sends such records. -/
def Sends (f : Reducing δ (List ReducedRecord)) : Prop :=
  ∀ r records r', r.Counts → f.run r = (records, r') → Sent r records r'

/-- A part of a reduction that makes no records. -/
def Silent (f : Reducing δ α) : Prop :=
  ∀ r a r', f.run r = (a, r') →
    r'.coordinates = r.coordinates ∧ r'.nextEventId = r.nextEventId ∧ r'.recordCount = r.recordCount

theorem counts_create (coordinates : Coordinates) : (create coordinates : Reducer δ).Counts :=
  ⟨rfl, Nat.zero_le _⟩

theorem closing_of_forall_not {bodies : List ReducedBody} (h : ∀ body ∈ bodies, body.isFinished = false) :
    Closing bodies := by
  rintro ⟨body, hmem, hfinished⟩
  rw [h body hmem] at hfinished
  cases hfinished

theorem Sent.nil (h : r.Counts) : Sent r [] r := by
  refine ⟨rfl, h, fun record hmem => ?_, closing_of_forall_not fun body hmem => ?_⟩
  · cases hmem
  · cases hmem

theorem Silent.counts {f : Reducing δ α} (hf : Silent f) {a : α} (hrun : f.run r = (a, r')) (h : r.Counts) :
    r'.Counts := by
  obtain ⟨-, hnext, hcount⟩ := hf r a r' hrun
  refine ⟨?_, hcount ▸ h.recordCount⟩
  rw [hnext, hcount]
  exact h.nextEventId

theorem silent_pure (a : α) : Silent (pure a : Reducing δ α) := by
  intro r b r' hrun
  cases hrun
  exact ⟨rfl, rfl, rfl⟩

theorem silent_get : Silent (get : Reducing δ (Reducer δ)) := by
  intro r b r' hrun
  cases hrun
  exact ⟨rfl, rfl, rfl⟩

theorem silent_modify {φ : Reducer δ → Reducer δ}
    (h : ∀ r, (φ r).coordinates = r.coordinates ∧ (φ r).nextEventId = r.nextEventId
      ∧ (φ r).recordCount = r.recordCount) : Silent (modify φ : Reducing δ Unit) := by
  intro r b r' hrun
  cases hrun
  exact h r

theorem Silent.bind {f : Reducing δ α} {g : α → Reducing δ β} (hf : Silent f) (hg : ∀ a, Silent (g a)) :
    Silent (f >>= g) := by
  intro r b r' hrun
  obtain ⟨hcoordinates, hnext, hcount⟩ := hf r _ _ rfl
  obtain ⟨hcoordinates', hnext', hcount'⟩ := hg _ _ b r' hrun
  exact ⟨hcoordinates'.trans hcoordinates, hnext'.trans hnext, hcount'.trans hcount⟩

theorem Silent.ite {c : Prop} [Decidable c] {f g : Reducing δ α} (hf : Silent f) (hg : Silent g) :
    Silent (if c then f else g) := by
  split
  · exact hf
  · exact hg

theorem sends_nil : Sends (pure [] : Reducing δ (List ReducedRecord)) := by
  intro r records r' h hrun
  cases hrun
  exact .nil h

theorem Silent.sends_bind {f : Reducing δ α} {g : α → Reducing δ (List ReducedRecord)} (hf : Silent f)
    (hg : ∀ a, Sends (g a)) : Sends (f >>= g) := by
  intro r records r' h hrun
  obtain ⟨hcoordinates, -, -⟩ := hf r _ _ rfl
  have hsent := hg _ _ records r' (hf.counts rfl h) hrun
  exact ⟨hsent.coordinates.trans hcoordinates, hsent.counts, hcoordinates ▸ hsent.own, hsent.closing⟩

theorem Sends.bind_silent {f : Reducing δ (List ReducedRecord)} {g : Reducing δ Unit} (hf : Sends f)
    (hg : Silent g) : Sends (f >>= fun records => g >>= fun _ => pure records) := by
  intro r records r' h hrun
  have hsplit : ((f.run r).1, (g.run (f.run r).2).2) = (records, r') := hrun
  obtain ⟨rfl, rfl⟩ := Prod.mk.inj hsplit
  have hsent := hf r _ _ h rfl
  obtain ⟨hcoordinates, -, -⟩ := hg _ _ _ rfl
  exact ⟨hcoordinates.trans hsent.coordinates, hg.counts rfl hsent.counts, hsent.own, hsent.closing⟩

theorem Sends.ite {c : Prop} [Decidable c] {f g : Reducing δ (List ReducedRecord)} (hf : Sends f) (hg : Sends g) :
    Sends (if c then f else g) := by
  split
  · exact hf
  · exact hg

/-! ### Admission -/

theorem run_mapM_materialize (bodies : List ReducedBody) (r : Reducer δ) :
    ∃ records, (bodies.mapM materialize).run r = (records, { r with
        nextEventId := r.nextEventId + bodies.length
        recordCount := r.recordCount + bodies.length })
      ∧ records.map ReducedRecord.body = bodies
      ∧ records.map ReducedRecord.eventId = List.range' r.nextEventId bodies.length
      ∧ ∀ record ∈ records, record.coordinates = r.coordinates ∧ record.eventId < r.nextEventId + bodies.length := by
  induction bodies generalizing r with
  | nil => exact ⟨[], rfl, rfl, rfl, by simp⟩
  | cons body bodies ih =>
    obtain ⟨records, hrun, hbodies, hids, hrecords⟩ := ih { r with
      nextEventId := r.nextEventId + 1
      recordCount := r.recordCount + 1 }
    refine ⟨⟨body, r.coordinates, r.nextEventId⟩ :: records, ?_, ?_, ?_, ?_⟩
    · have hlength : ∀ n, n + 1 + bodies.length = n + (body :: bodies).length := by
        intro n
        rw [List.length_cons]
        omega
      rw [List.mapM_cons]
      show ((fun p : List ReducedRecord × Reducer δ => (_ :: p.1, p.2)) ((bodies.mapM materialize).run _)) = _
      rw [hrun]
      simp only [hlength]
    · rw [List.map_cons, hbodies]
    · rw [List.map_cons, hids, List.length_cons, List.range'_succ]
    · intro record hmem
      rw [List.length_cons]
      rcases List.mem_cons.mp hmem with rfl | hmem
      · exact ⟨rfl, by show r.nextEventId < _; omega⟩
      · obtain ⟨hcoordinates, hlt⟩ := hrecords record hmem
        refine ⟨hcoordinates, ?_⟩
        have hnext : record.eventId < r.nextEventId + 1 + bodies.length := hlt
        omega

theorem sent_materialize {bodies : List ReducedBody} (h : r.Counts) (hclosing : Closing bodies)
    (hroom : r.recordCount + bodies.length ≤ maxReducedRecordsPerWindow) {records : List ReducedRecord}
    (hrun : (bodies.mapM materialize).run r = (records, r')) : Sent r records r' := by
  obtain ⟨records', hrun', hbodies, -, hrecords⟩ := run_mapM_materialize bodies r
  have heq := hrun.symm.trans hrun'
  cases heq
  have hnext := h.nextEventId
  refine ⟨rfl, ⟨?_, hroom⟩, fun record hmem => ?_, hbodies ▸ hclosing⟩
  · show r.nextEventId + bodies.length = r.recordCount + bodies.length + 1
    omega
  · obtain ⟨hcoordinates, hlt⟩ := hrecords record hmem
    exact ⟨hcoordinates, by omega⟩

theorem run_get_bind (g : Reducer δ → Reducing δ α) : (get >>= g).run r = (g r).run r := rfl

theorem run_modify_bind (φ : Reducer δ → Reducer δ) (g : Unit → Reducing δ α) :
    (modify φ >>= g).run r = (g ()).run (φ r) := rfl

/-- Where the records are not admitted, there is room for the record that says so. -/
theorem sends_admission {bodies : List ReducedBody} (hclosing : Closing bodies) (mode : AdmissionMode) :
    Sends (admission bodies mode : Reducing δ (List ReducedRecord)) := by
  intro r records r' h hrun
  have hlimit : mode.limit ≤ maxReducedRecordsPerWindow := by cases mode <;> decide
  unfold admission at hrun
  rw [run_get_bind] at hrun
  split at hrun
  · exact sends_nil r records r' h hrun
  split at hrun
  next hfits => exact sent_materialize h hclosing (hfits.trans hlimit) hrun
  split at hrun
  · exact sends_nil r records r' h hrun
  rw [run_modify_bind] at hrun
  split at hrun
  next hroom =>
    rw [run_modify_bind] at hrun
    have hclosing : Closing [.coverageDegraded .overflow] := closing_of_forall_not (by simp [ReducedBody.isFinished])
    have hsent := sent_materialize (r := { r with disabled := true, overflowReported := true })
      ⟨h.nextEventId, h.recordCount⟩ hclosing (by have hlt := hroom.2; show r.recordCount + 1 ≤ _; omega) hrun
    exact ⟨hsent.coordinates, hsent.counts, hsent.own, hsent.closing⟩
  next =>
    cases hrun
    exact ⟨rfl, ⟨h.nextEventId, h.recordCount⟩, by simp, closing_of_forall_not (by simp)⟩

theorem sends_degrade (reason : DegradationReason) : Sends (degrade reason : Reducing δ (List ReducedRecord)) := by
  have hadmission : Sends (admission [.coverageDegraded reason] .degradation : Reducing δ (List ReducedRecord)) :=
    sends_admission (closing_of_forall_not (by simp [ReducedBody.isFinished])) _
  refine silent_get.sends_bind fun r => .ite sends_nil (.ite ?_ hadmission)
  refine (silent_modify (by simp)).sends_bind fun _ => ?_
  exact .ite sends_nil hadmission

theorem sends_degradeRemembered (remembered : Bool) (reason : DegradationReason) :
    Sends (degradeRemembered remembered reason : Reducing δ (List ReducedRecord)) :=
  .ite (sends_degrade reason) (sends_degrade .overflow)

theorem sends_beforeAgentStart : Sends (beforeAgentStart : Reducing δ (List ReducedRecord)) :=
  silent_get.sends_bind fun _ => .ite sends_nil (.ite (sends_degrade _)
    ((silent_modify (by simp)).sends_bind fun _ => sends_nil))

theorem isFinished_of_mem_unmatchedBodies {unmatched : Bool} {body : ReducedBody}
    (h : body ∈ unmatchedBodies unmatched) : body = .coverageDegraded .unmatchedStart := by
  unfold unmatchedBodies at h
  split at h
  · exact List.mem_singleton.mp h
  · cases h

theorem closing_unmatchedBodies_append (unmatched : Bool) {bodies : List ReducedBody} (h : Closing bodies) :
    Closing (unmatchedBodies unmatched ++ bodies) := by
  rintro ⟨body, hmem, hfinished⟩ other hother
  rcases List.mem_append.mp hother with hdegraded | hother
  · exact .inl ⟨_, isFinished_of_mem_unmatchedBodies hdegraded⟩
  refine h ⟨body, ?_, hfinished⟩ other hother
  rcases List.mem_append.mp hmem with hdegraded | hmem
  · rw [isFinished_of_mem_unmatchedBodies hdegraded] at hfinished
    cases hfinished
  · exact hmem

theorem closing_terminalBodies (r : Reducer δ) (unmatched : Bool) (reason : ShutdownReason) :
    Closing (terminalBodies r unmatched reason) := by
  have hterminal : Closing [.sessionFinished reason] := by
    intro _ body hmem
    exact .inr ⟨reason, List.mem_singleton.mp hmem⟩
  unfold terminalBodies
  dsimp only
  split
  · exact hterminal
  · exact closing_unmatchedBodies_append unmatched hterminal

/-! ### The tables -/

theorem silent_reserveState (bytes : ℕ) : Silent (reserveState bytes : Reducing δ Bool) :=
  silent_get.bind fun _ => .ite (silent_pure _) ((silent_modify (by simp)).bind fun _ => silent_pure _)

theorem silent_releaseState (bytes : ℕ) : Silent (releaseState bytes : Reducing δ Unit) :=
  silent_modify (by simp)

end

section

variable {δ : Type} [DecidableEq δ]

theorem foldl_finalize (entries : List (δ × PendingCall δ)) (r : Reducer δ) :
    (entries.foldl finalize r).coordinates = r.coordinates
      ∧ (entries.foldl finalize r).nextEventId = r.nextEventId
      ∧ (entries.foldl finalize r).recordCount = r.recordCount := by
  induction entries generalizing r with
  | nil => exact ⟨rfl, rfl, rfl⟩
  | cons entry entries ih => exact ih (finalize r entry)

theorem silent_clearPending : Silent (clearPending : Reducing δ Bool) :=
  silent_get.bind fun _ => (silent_modify (by exact fun r => foldl_finalize r.pending.items r)).bind fun _ =>
    silent_pure _

theorem silent_rememberFinal (key : δ) (startFingerprint endFingerprint : Option δ) :
    Silent (rememberFinal key startFingerprint endFingerprint) :=
  (silent_reserveState _).bind fun _ =>
    .ite ((silent_modify (by simp)).bind fun _ => silent_pure _) (silent_pure _)

theorem silent_dropPending (key : δ) (call : PendingCall δ) : Silent (dropPending key call) :=
  (silent_modify (by simp)).bind fun _ => silent_releaseState _

theorem sends_endFinalized (key endFingerprint : δ) (finalized : FinalCall δ) :
    Sends (endFinalized key endFingerprint finalized) := by
  refine .ite sends_nil (.ite ?_ (sends_degrade _))
  exact (silent_modify (by simp)).sends_bind fun _ => sends_degrade _

theorem sends_endUnknown (key endFingerprint : δ) : Sends (endUnknown key endFingerprint) := by
  refine silent_get.sends_bind fun r => .ite (sends_degrade _) ?_
  exact (silent_rememberFinal _ _ _).sends_bind fun _ => sends_degradeRemembered _ _

theorem sends_agentSettled : Sends (agentSettled : Reducing δ (List ReducedRecord)) := by
  refine silent_clearPending.sends_bind fun unmatched => silent_get.sends_bind fun r => ?_
  refine (silent_modify (by simp)).sends_bind fun _ => sends_admission ?_ _
  refine closing_unmatchedBodies_append unmatched (closing_of_forall_not fun body hmem => ?_)
  split at hmem
  · cases List.mem_singleton.mp hmem
    rfl
  · cases hmem

theorem sends_boundary {body : ReducedBody} (h : body.isFinished = false) :
    Sends (boundary body : Reducing δ (List ReducedRecord)) := by
  have hclosing : Closing [body] := closing_of_forall_not (by simpa using h)
  exact silent_clearPending.sends_bind fun unmatched =>
    sends_admission (closing_unmatchedBodies_append unmatched hclosing) _

theorem sends_finish (reason : ShutdownReason) : Sends (finish reason : Reducing δ (List ReducedRecord)) := by
  refine silent_clearPending.sends_bind fun unmatched => ?_
  refine (silent_modify (by simp)).sends_bind fun _ => silent_get.sends_bind fun r => ?_
  exact (sends_admission (closing_terminalBodies r unmatched reason) _).bind_silent
    (silent_modify (by simp))

theorem isFinished_compactionBody {dataValue : String → Option Field} {body : ReducedBody}
    (h : compactionBody dataValue = some body) : body.isFinished = false := by
  unfold compactionBody at h
  obtain ⟨reason, -, h⟩ := Option.bind_eq_some_iff.mp h
  obtain ⟨fromExtension, -, h⟩ := Option.bind_eq_some_iff.mp h
  obtain ⟨willRetry, -, h⟩ := Option.bind_eq_some_iff.mp h
  cases h
  rfl

theorem isFinished_treeBody {dataValue : String → Option Field} {body : ReducedBody}
    (h : treeBody dataValue = some body) : body.isFinished = false := by
  unfold treeBody at h
  obtain ⟨newLeafId, -, h⟩ := Option.bind_eq_some_iff.mp h
  obtain ⟨oldLeafId, -, h⟩ := Option.bind_eq_some_iff.mp h
  cases h
  rfl

theorem sends_boundaryOf {body : Option ReducedBody} (h : ∀ b, body = some b → b.isFinished = false) :
    Sends (boundaryOf body : Reducing δ (List ReducedRecord)) := by
  cases body with
  | none => exact sends_degrade _
  | some b => exact sends_boundary (h b rfl)

variable [Digesting δ]

/-! ### The events -/

theorem sends_toolStarted (callId tool : JsString) :
    Sends (toolStarted callId tool : Reducing δ (List ReducedRecord)) := by
  refine silent_get.sends_bind fun r => ?_
  split
  · exact .ite sends_nil (sends_degrade _)
  refine silent_get.sends_bind fun r => ?_
  split
  · refine .ite sends_nil ((silent_dropPending _ _).sends_bind fun _ => ?_)
    exact (silent_rememberFinal _ _ _).sends_bind fun _ => sends_degradeRemembered _ _
  · refine silent_get.sends_bind fun r => .ite (sends_degrade _) ?_
    refine (silent_reserveState _).sends_bind fun _ => .ite ?_ (sends_degrade _)
    exact (silent_modify (by simp)).sends_bind fun _ => sends_nil

theorem sends_toolStart (dataValue : String → Option Field) :
    Sends (toolStart dataValue : Reducing δ (List ReducedRecord)) := by
  refine silent_get.sends_bind fun r => .ite sends_nil ?_
  split
  · exact sends_toolStarted _ _
  · exact sends_degrade _

theorem sends_endPending (callId tool : JsString) (isError : Bool) (pending : PendingCall δ) :
    Sends (endPending callId tool isError pending) := by
  have hpair : Closing [.toolStarted callId tool, .toolFinished callId] :=
    closing_of_forall_not (by simp [ReducedBody.isFinished])
  refine (silent_dropPending _ _).sends_bind fun _ => .ite ?_ ?_
  · exact (silent_rememberFinal _ _ _).sends_bind fun _ => sends_degradeRemembered _ _
  · refine (silent_rememberFinal _ _ _).sends_bind fun _ => .ite ?_ (sends_degrade _)
    exact .ite (sends_degrade _) (sends_admission hpair _)

theorem sends_toolEnd (dataValue : String → Option Field) :
    Sends (toolEnd dataValue : Reducing δ (List ReducedRecord)) := by
  refine silent_get.sends_bind fun r => .ite sends_nil ?_
  split
  · refine silent_get.sends_bind fun r => ?_
    split
    · exact sends_endFinalized _ _ _
    refine silent_get.sends_bind fun r => ?_
    split
    · exact sends_endPending _ _ _ _
    · exact sends_endUnknown _ _
  · exact sends_degrade _

theorem sends_reduceTyped (dataValue : String → Option Field) (type : EventType) :
    Sends (reduceTyped dataValue type : Reducing δ (List ReducedRecord)) := by
  cases type with
  | beforeAgentStart => exact sends_beforeAgentStart
  | toolExecutionStart => exact sends_toolStart dataValue
  | toolExecutionEnd => exact sends_toolEnd dataValue
  | agentSettled => exact sends_agentSettled
  | sessionCompact => exact sends_boundaryOf fun _ => isFinished_compactionBody
  | sessionTree => exact sends_boundaryOf fun _ => isFinished_treeBody
  | sessionShutdown =>
    show Sends (shutdown dataValue)
    unfold shutdown
    split
    · exact sends_finish _
    · exact sends_degrade _

/-- What an event makes. -/
theorem sends_reduce (value : HostValue) : Sends (reduce value : Reducing δ (List ReducedRecord)) := by
  cases value with
  | other => exact sends_nil
  | record dataValue =>
    refine silent_get.sends_bind fun r => .ite sends_nil (.ite (sends_degrade _) ?_)
    split
    · exact sends_reduceTyped dataValue _
    · exact sends_nil

end

end Reducer

end SalienceGate.Pi
