import SalienceGate.Domain.Records

/-!
# The JSON forms of events and memory records

What `model_dump(mode="json")` makes of a trace event and of a memory record, the members in key order.
-/

namespace SalienceGate

/-- How an instant is written in JSON. -/
class InstantText where
  text : UtcDatetime → String

/-! ## Enumerations -/

/-- The string of a member. -/
def EventType.value : EventType → String
  | .runStart => "run_start"
  | .runEnd => "run_end"
  | .modelOutput => "model_output"
  | .actionProposal => "action_proposal"
  | .toolStart => "tool_start"
  | .toolCompletion => "tool_completion"
  | .observation => "observation"
  | .controllerError => "controller_error"

/-- The string of a member. -/
def EventPhase.value : EventPhase → String
  | .initialization => "initialization"
  | .preAction => "pre_action"
  | .actionExecution => "action_execution"
  | .postAction => "post_action"
  | .terminal => "terminal"
  | .internal => "internal"

/-- The string of a member. -/
def MemoryKind.value : MemoryKind → String
  | .privateStatus => "private_status"
  | .knowledge => "knowledge"
  | .procedural => "procedural"

/-- The string of a member. -/
def ValidityState.value : ValidityState → String
  | .active => "active"
  | .invalidated => "invalidated"
  | .expired => "expired"
  | .superseded => "superseded"

/-! ## Records -/

/-- The JSON form of an optional field. -/
def optionalJson {α : Type} (dump : α → Json) : Option α → Json
  | none => .null
  | some a => dump a

/-- `PayloadDigest.model_dump(mode="json")`. -/
def PayloadDigest.modelDump (digest : PayloadDigest) : Json :=
  .object [("algorithm", .str digest.algorithm.value), ("value", .str digest.value.text)]

/-- `TextSpan.model_dump(mode="json")`. -/
def TextSpan.modelDump (span : TextSpan) : Json :=
  .object [("end_byte", .int span.endByte), ("start_byte", .int span.startByte)]

/-- `EvidenceReference.model_dump(mode="json")`. -/
def EvidenceReference.modelDump (reference : EvidenceReference) : Json :=
  .object [
    ("field_path", .str reference.fieldPath.text),
    ("revision", optionalJson (fun revision : ℕ => .int revision) reference.revision),
    ("source", .str reference.source.value),
    ("source_id", .str reference.sourceId.toString),
    ("span", optionalJson TextSpan.modelDump reference.span)]

variable [InstantText]

/-- The JSON form of an instant. -/
def instantJson (instant : UtcDatetime) : Json := .str (InstantText.text instant)

/-- `TraceEvent.model_dump(mode="json")`. -/
def TraceEvent.modelDump (event : TraceEvent) : Json :=
  .object [
    ("event_id", .str event.eventId.toString),
    ("event_type", .str event.eventType.value),
    ("parent_ids", .list (event.parentIds.map fun parent => .str parent.toString)),
    ("payload", event.payload.json),
    ("payload_digest", event.payloadDigest.modelDump),
    ("phase", .str event.phase.value),
    ("record_type", .str "trace_event"),
    ("run_id", .str event.runId.toString),
    ("schema_version", .str "1.0"),
    ("sequence", .int event.sequence),
    ("source_adapter", .str event.sourceAdapter.text),
    ("source_event_id", .str event.sourceEventId.text),
    ("timestamp", instantJson event.timestamp),
    ("trust_label", .str event.trustLabel.value)]

/-- `MemoryRecord.model_dump(mode="json")`. -/
def MemoryRecord.modelDump (record : MemoryRecord) : Json :=
  .object [
    ("access_count", .int record.accessCount),
    ("confidence", .float record.confidence.value),
    ("content", .str record.content.text),
    ("created_at", instantJson record.createdAt),
    ("expires_at", optionalJson instantJson record.expiresAt),
    ("invalidated_at", optionalJson instantJson record.invalidatedAt),
    ("kind", .str record.kind.value),
    ("last_accessed_at", optionalJson instantJson record.lastAccessedAt),
    ("memory_id", .str record.memoryId.toString),
    ("provenance", .list (record.provenance.map EvidenceReference.modelDump)),
    ("record_type", .str "memory_record"),
    ("revision", .int record.revision),
    ("run_id", .str record.runId.toString),
    ("schema_version", .str "1.0"),
    ("trust_label", .str record.trustLabel.value),
    ("updated_at", instantJson record.updatedAt),
    ("validity", .str record.validity.value)]

end SalienceGate
