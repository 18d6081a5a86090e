import Mathlib.Data.List.Basic

/-!
# The contracts of the bridges

The bridges run in the process of the coding agent, so their strings are those of JavaScript:
sequences of UTF-16 code units, which need not be well-formed Unicode. What goes into a capture
document is text that passed `exactText`, and a native session id is such a text.

The canonical JSON of events and documents is left open (`CaptureEncoding`): the bridges only compare
its lengths with their limits.
-/

namespace SalienceGate

/-! ## Limits -/

/-- `MAX_CAPTURE_BATCH_BYTES`. -/
def maxCaptureBatchBytes : ℕ := 2 * 1024 * 1024

/-- `MAX_CAPTURE_EVENT_BYTES`. -/
def maxCaptureEventBytes : ℕ := 64 * 1024

/-- `MAX_CAPTURE_BATCH_CHUNKS`. -/
def maxCaptureBatchChunks : ℕ := 1000

/-- `MAX_CAPTURE_EVENTS_PER_CHUNK`. -/
def maxCaptureEventsPerChunk : ℕ := 999

/-- `MAX_CAPTURE_SESSION_ID_BYTES`. -/
def maxCaptureSessionIdBytes : ℕ := 256 * 1024

/-- `MAX_CAPTURE_EVENT_ID_BYTES`. -/
def maxCaptureEventIdBytes : ℕ := 16 * 1024

/-- `MAX_CAPTURE_CALL_ID_BYTES`. -/
def maxCaptureCallIdBytes : ℕ := 16 * 1024

/-- `MAX_CAPTURE_TOOL_NAME_BYTES`. -/
def maxCaptureToolNameBytes : ℕ := 1024

/-- `MAX_CONCURRENT_CAPTURE_LAUNCHERS`. -/
def maxConcurrentCaptureLaunchers : ℕ := 4

/-! ## Strings -/

/-- A string of JavaScript: its UTF-16 code units. -/
structure JsString where
  units : List (Fin 65536)
deriving DecidableEq

namespace JsString

/-- A code unit that starts a surrogate pair. -/
def isHigh (code : Fin 65536) : Bool := 0xd800 ≤ code.val && code.val ≤ 0xdbff

/-- A code unit that ends a surrogate pair. -/
def isLow (code : Fin 65536) : Bool := 0xdc00 ≤ code.val && code.val ≤ 0xdfff

/-- `isWellFormedUnicode`, of the code units from some index on. -/
def wellFormedUnits : List (Fin 65536) → Bool
  | [] => true
  | [code] => !isHigh code && !isLow code
  | code :: next :: rest =>
    if isHigh code then isLow next && wellFormedUnits rest
    else !isLow code && wellFormedUnits (next :: rest)

/-- `isWellFormedUnicode`. -/
def isWellFormedUnicode (text : JsString) : Bool := wellFormedUnits text.units

/-- The UTF-8 bytes of the code units; a surrogate alone counts as the replacement character. -/
def utf8Bytes : List (Fin 65536) → ℕ
  | [] => 0
  | [code] => if code.val < 0x80 then 1 else if code.val < 0x800 then 2 else 3
  | code :: next :: rest =>
    if code.val < 0x80 then 1 + utf8Bytes (next :: rest)
    else if code.val < 0x800 then 2 + utf8Bytes (next :: rest)
    else if isHigh code && isLow next then 4 + utf8Bytes rest
    else 3 + utf8Bytes (next :: rest)

/-- `Buffer.byteLength(text, "utf8")`. -/
def byteLength (text : JsString) : ℕ := utf8Bytes text.units

/-- `exactText`: what a text has to be, to go into a capture document. -/
def isExactText (maximumBytes : ℕ) (text : JsString) : Bool :=
  text.units ≠ [] && text.isWellFormedUnicode && text.byteLength ≤ maximumBytes

end JsString

/-- A native session id that a bridge keeps. -/
structure NativeSessionId where
  text : JsString
  /-- It passed `exactText`. -/
  exact : text.isExactText maxCaptureSessionIdBytes = true
deriving DecidableEq

/-! ## Encoding -/

/-- The canonical JSON of the events `ε` of a bridge, and of its documents about `ω`. -/
class CaptureEncoding (ω ε : Type) where
  /-- `canonicalizeJson` takes the event. -/
  canonicalizes : ε → Bool
  /-- `encodeCanonicalJson(event).byteLength`. -/
  byteLength : ε → ℕ
  /-- `encodeCanonicalJson(documentFor(…)).byteLength`, of a chunk with its index and the count of the
  chunks; nothing if the document breaks the contract. -/
  documentBytes : ω → ℕ → ℕ → List ε → Option ℕ

end SalienceGate
