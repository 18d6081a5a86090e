import SalienceGate.Bridge.PiReducer
import SalienceGate.Lib.Marks

/-!
# The transport of windows

`bridge-core/src/windowed-transport.ts`, with the events of the Pi bridge. A flush writes the chunks
of its records one after the other. If one of them is not delivered, the window is marked, or, when
there are too many marks, all windows are; the next flush of a marked window starts with a
`transport_gap` event.

The launchers are the host's: which chunk of which flush is delivered is a `Host`'s to say. Every
flush is kept in `flushes`, for the host to count them and for statements about runs.
-/

namespace SalienceGate.Pi

open JsValue (field word)

/-! ## Events -/

/-- The canonical JSON that the transport handles. -/
inductive Event where
  | record (reduced : ReducedRecord)
  | oversize (coordinates : Coordinates)
  | transportGap (coordinates : Coordinates)
deriving DecidableEq

namespace Event

/-- `session_id` and `window_discriminator`. -/
def coordinates : Event → Coordinates
  | .record reduced => reduced.coordinates
  | .oversize coordinates | .transportGap coordinates => coordinates

/-- The object of an event. -/
def json : Event → JsValue
  | .record reduced => reduced.json
  | .oversize coordinates =>
    .object [field "kind" (word "oversize"), field "reason" (word "event_limit"),
      field "session_id" (.text coordinates.sessionId.text),
      field "window_discriminator" (.text coordinates.windowDiscriminator.text)]
  | .transportGap coordinates =>
    .object [field "kind" (word "coverage_degraded"), field "reason" (word "transport_gap"),
      field "session_id" (.text coordinates.sessionId.text),
      field "window_discriminator" (.text coordinates.windowDiscriminator.text)]

/-- The event is a `session_finished` record. -/
def isTerminal : Event → Bool
  | .record reduced => reduced.body.isFinished
  | _ => false

/-- The event is an `oversize` event. -/
def isOversize : Event → Bool
  | .oversize _ => true
  | _ => false

end Event

/-- The encoding of the events of the Pi bridge. -/
instance eventEncoding : CaptureEncoding Batch Event where
  canonicalizes event := event.json.canonicalizes
  byteLength event := event.json.encodedLength
  documentBytes batch chunkIndex chunkCount events :=
    canonicalLength (batch.document chunkIndex chunkCount (events.map Event.json))

/-! ## The state -/

/-- `MAX_PENDING_GAP_WINDOWS`. -/
def maxPendingGapWindows : ℕ := 256

/-- `WindowedCaptureFlushResult`. -/
inductive FlushResult where
  | attemptedFailure | delivered | notStarted
deriving DecidableEq

/-- The result of `#writeBounded`. -/
inductive WriteResult where
  | delivered | failed | notStarted
deriving DecidableEq

/-- What the host of the bridge does. -/
structure Host where
  bootstrap : Bootstrap
  /-- `batchID()`, in a flush by its number; nothing if it throws. -/
  batchId : ℕ → Option JsString
  /-- The launcher delivers a chunk of a flush. -/
  writeChunk : ℕ → ℕ → Bool

/-- A flush that was made. -/
structure Flush where
  window : Coordinates
  records : List Event
  /-- The events of the chunks that were handed to the launchers. -/
  chunks : List (List Event)
  result : FlushResult

/-- `WindowedBatchTransport`, and the flushes it has made. -/
structure Transport (δ : Type) [DecidableEq δ] where
  pendingGaps : Marks δ
  activeWrites : ℕ
  globalGapPoison : Bool
  flushes : List Flush

/-- The writes of a flush. -/
structure Written where
  activeWrites : ℕ
  started : ℕ
  delivered : ℕ

namespace Transport

variable {δ : Type} [DecidableEq δ] [Digesting δ]

/-- A new transport. -/
def create : Transport δ := ⟨.empty, 0, false, []⟩

/-- `windowKey`. -/
def windowKey (window : Coordinates) : δ := Digesting.digest (.window window)

/-- `validCoordinates`. -/
def validCoordinates (window : Coordinates) : Bool :=
  window.sessionId.text.isExactText maxCaptureSessionIdBytes && isSha256 window.windowDiscriminator.text

/-- `markGap`. -/
def markGap (t : Transport δ) (window : Coordinates) : Transport δ :=
  if validCoordinates window then
    if t.pendingGaps.HasRoom maxPendingGapWindows (windowKey window) then
      { t with pendingGaps := t.pendingGaps.mark maxPendingGapWindows (windowKey window) }
    else { t with globalGapPoison := true }
  else t

/-- `#writeBounded`: the result, and the active writes before and after it. -/
def writeBounded (activeWrites : ℕ) (delivers : Bool) : WriteResult × ℕ :=
  if maxConcurrentCaptureLaunchers ≤ activeWrites then (.notStarted, activeWrites)
  else
    -- The permit is released when the launcher is done.
    let acquired := activeWrites + 1
    (if delivers then .delivered else .failed, acquired - 1)

/-- A round of the loop over the chunks. -/
def writeChunk (delivers : ℕ → Bool) (written : Written) (chunkIndex : ℕ) : Written :=
  let result := writeBounded written.activeWrites (delivers chunkIndex)
  { activeWrites := result.2
    started := if result.1 ≠ .notStarted then written.started + 1 else written.started
    delivered := if result.1 = .delivered then written.delivered + 1 else written.delivered }

/-- A flush is over. -/
def ends (t : Transport δ) (flush : Flush) : Transport δ := { t with flushes := t.flushes ++ [flush] }

/-- The chunks of a flush are written. -/
def writeChunks (host : Host) (t : Transport δ) (window : Coordinates) (records : List Event)
    (chunks : List (List Event)) : Transport δ :=
  let pending := t.pendingGaps.get? (windowKey window)
  let written := (List.range chunks.length).foldl (writeChunk (host.writeChunk t.flushes.length))
    ⟨t.activeWrites, 0, 0⟩
  let t := { t with activeWrites := written.activeWrites }
  if written.started = 0 then (t.markGap window).ends ⟨window, records, chunks, .notStarted⟩
  else if written.delivered = chunks.length then
    { t with pendingGaps := t.pendingGaps.clear (windowKey window) pending }.ends
      ⟨window, records, chunks, .delivered⟩
  else (t.markGap window).ends ⟨window, records, chunks, .attemptedFailure⟩

/-- The events of a flush: its records, after a `transport_gap` if there is a gap. -/
def flushEvents (t : Transport δ) (window : Coordinates) (records : List Event) : List Event :=
  if t.pendingGaps.get? (windowKey window) = none ∧ ¬t.globalGapPoison then records
  else .transportGap window :: records

/-- The chunks of events; nothing if `batchID` throws or the contract is broken. -/
def chunksOf (host : Host) (number : ℕ) (window : Coordinates) (workspacePath : Option JsString)
    (events : List Event) : Option (List (List Event)) := do
  let batchId ← host.batchId number
  let batch : Batch :=
    ⟨host.bootstrap, batchId, window.sessionId.text, workspacePath, some window.windowDiscriminator.text⟩
  buildWindowedCaptureChunks batch batch.accepted (fun event => event.coordinates = window) (.oversize window) events

/-- `flush`. -/
def flush (host : Host) (t : Transport δ) (window : Coordinates) (records : List Event) (force : Bool)
    (workspacePath : Option JsString) : Transport δ :=
  if ¬validCoordinates window ∨ ∃ record ∈ records, record.coordinates ≠ window then
    (t.markGap window).ends ⟨window, records, [], .attemptedFailure⟩
  else
    let events := t.flushEvents window records
    if events = [] ∧ ¬force then t.ends ⟨window, records, [], .delivered⟩
    else
      match chunksOf host t.flushes.length window workspacePath events with
      | none => (t.markGap window).ends ⟨window, records, [], .attemptedFailure⟩
      | some chunks => t.writeChunks host window records chunks

end Transport

end SalienceGate.Pi
