import Mathlib.Data.List.Sort
import SalienceGate.Domain.Enums
import SalienceGate.Domain.Primitives

/-!
# Events, evidence and budgets

The records that others are built from: evidence references, budget amounts, trace events and
signals. A record is a structure of fields together with the fact that its check passed; the check
runs the field constraints and the validators in the order of the source, and says why it fails.
-/

namespace SalienceGate

/-! ## Evidence references -/

/-- The largest signed 64-bit integer. -/
def maxSigned64 : ℕ := 2^63 - 1

/-- The fields of a text span. -/
structure TextSpanFields where
  startByte : ℕ
  endByte : ℕ
deriving DecidableEq

/-- A span lies within signed 64-bit offsets, and is not empty. -/
def TextSpanFields.check (span : TextSpanFields) : Check := do
  constrain (span.startByte ≤ maxSigned64) "start_byte" "less_than_equal"
  constrain (1 ≤ span.endByte) "end_byte" "greater_than_equal"
  constrain (span.endByte ≤ maxSigned64) "end_byte" "less_than_equal"
  refuse (span.endByte ≤ span.startByte) "span end must be greater than start"

/-- A span of bytes of a text. -/
structure TextSpan extends TextSpanFields where
  valid : toTextSpanFields.check = .ok ()
deriving DecidableEq

/-- The fields of an evidence reference. -/
structure EvidenceReferenceFields where
  source : EvidenceSource
  sourceId : UUID4
  revision : Option ℕ := none
  fieldPath : JsonPointer
  span : Option TextSpan := none
deriving DecidableEq

/-- Memory evidence names a revision, event evidence does not. -/
def EvidenceReferenceFields.check (reference : EvidenceReferenceFields) : Check := do
  constrain (reference.revision ≠ some 0) "revision" "greater_than_equal"
  refuse (reference.source = .memory ∧ reference.revision = none)
    "memory evidence must identify a revision"
  refuse (reference.source = .event ∧ reference.revision ≠ none)
    "event evidence cannot carry a memory revision"

/-- A reference to an event, or to a revision of a memory record. -/
structure EvidenceReference extends EvidenceReferenceFields where
  valid : toEvidenceReferenceFields.check = .ok ()
deriving DecidableEq

/-- A digest of a payload, with its algorithm. -/
structure PayloadDigest where
  algorithm : PayloadDigestAlgorithm
  value : Sha256Digest
deriving DecidableEq

/-! ## Budgets -/

/-- Amounts of the seven budget fields. -/
structure BudgetAmounts where
  modelCalls : ℕ := 0
  inputTokens : ℕ := 0
  outputTokens : ℕ := 0
  canonicalTokenEquivalents : ℕ := 0
  latencyUs : ℕ := 0
  interventions : ℕ := 0
  schemaRepairs : ℕ := 0
deriving DecidableEq

/-- The budget of a run, with the longest latency of one model call. -/
structure BudgetLimits extends BudgetAmounts where
  maxCallLatencyUs : ℕ := 0
deriving DecidableEq

/-- The budget fields. -/
inductive BudgetField where
  | modelCalls | inputTokens | outputTokens | canonicalTokenEquivalents | latencyUs
  | interventions | schemaRepairs
deriving DecidableEq

/-- `_BUDGET_FIELDS`. -/
def budgetFields : List BudgetField :=
  [.modelCalls, .inputTokens, .outputTokens, .canonicalTokenEquivalents, .latencyUs,
    .interventions, .schemaRepairs]

/-- The name of a field. -/
def BudgetField.name : BudgetField → String
  | .modelCalls => "model_calls"
  | .inputTokens => "input_tokens"
  | .outputTokens => "output_tokens"
  | .canonicalTokenEquivalents => "canonical_token_equivalents"
  | .latencyUs => "latency_us"
  | .interventions => "interventions"
  | .schemaRepairs => "schema_repairs"

/-- `getattr(amounts, field_name)`. -/
def BudgetAmounts.get (amounts : BudgetAmounts) : BudgetField → ℕ
  | .modelCalls => amounts.modelCalls
  | .inputTokens => amounts.inputTokens
  | .outputTokens => amounts.outputTokens
  | .canonicalTokenEquivalents => amounts.canonicalTokenEquivalents
  | .latencyUs => amounts.latencyUs
  | .interventions => amounts.interventions
  | .schemaRepairs => amounts.schemaRepairs

/-- Every budget field is in the list of the fields. -/
theorem mem_budgetFields (field : BudgetField) : field ∈ budgetFields := by
  cases field <;> decide

/-- The fields of a budget snapshot. -/
structure BudgetSnapshotFields where
  limits : BudgetLimits
  reserved : BudgetAmounts
  consumed : BudgetAmounts
deriving DecidableEq

/-- What is reserved and consumed stays within the limit, in every field. -/
def BudgetSnapshotFields.check (snapshot : BudgetSnapshotFields) : Check :=
  forM budgetFields fun field =>
    refuse (snapshot.limits.get field < snapshot.reserved.get field + snapshot.consumed.get field)
      ("reserved and consumed " ++ field.name ++ " exceed the limit")

/-- The budget of a run at one point of it. -/
structure BudgetSnapshot extends BudgetSnapshotFields where
  valid : toBudgetSnapshotFields.check = .ok ()
deriving DecidableEq

/-- `BudgetSnapshot(...)`. -/
def BudgetSnapshot.create (fields : BudgetSnapshotFields) : Except ValidationError BudgetSnapshot :=
  Checked.validate BudgetSnapshotFields.check BudgetSnapshot.mk fields

/-- A snapshot passes its check exactly when every field is within its limit. -/
theorem BudgetSnapshotFields.check_eq_ok {snapshot : BudgetSnapshotFields} :
    snapshot.check = .ok () ↔ ∀ field,
      snapshot.reserved.get field + snapshot.consumed.get field ≤ snapshot.limits.get field := by
  unfold BudgetSnapshotFields.check
  rw [Checked.forM_eq_ok]
  constructor
  · intro h field
    simpa using h field (mem_budgetFields field)
  · intro h field _
    simpa using h field

/-! ## Trace events -/

/-- The bounds of a trace event payload. -/
def maxTraceEventPayloadBytes : ℕ := 1024 * 1024

@[inherit_doc maxTraceEventPayloadBytes]
def maxTraceEventPayloadNodes : ℕ := 50000

@[inherit_doc maxTraceEventPayloadBytes]
def maxTraceEventPayloadDepth : ℕ := 64

/-- The most parents of an event. -/
def maxTraceEventParents : ℕ := 64

/-- `int.bit_length`. -/
def bitLength (i : ℤ) : ℕ := if i = 0 then 0 else Nat.log2 i.natAbs + 1

/-- The bytes that `_json_is_bounded` charges for a value, without the values inside it. -/
def chargedBytes : Json → ℤ
  | .object items => 2 + items.length * 2 + (items.map fun x => (x.1.utf8ByteSize : ℤ) + 3).sum
  | .list items => 2 + items.length
  | .str s => s.utf8ByteSize + 2
  | .null | .bool _ => 5
  | .int i => max 2 (bitLength i / 3 + 2)
  | .float _ => 32

/-- The values directly inside a value. -/
def nestedValues : Json → List Json
  | .object items => items.map Prod.snd
  | .list items => items
  | _ => []

/-- A value that is not a float, or a finite one. -/
def finiteNumber : Json → Bool
  | .float x => x.isFinite
  | _ => true

/-- The loop of `_json_is_bounded`: the nodes and bytes still allowed, and the stack of values with
their depths, the next one first. -/
def jsonIsBoundedLoop (maxDepth : ℕ) : ℕ → ℤ → List (Json × ℕ) → Bool
  | _, _, [] => true
  | 0, _, _ :: _ => false
  | nodes + 1, remaining, (item, depth) :: stack =>
    let nested := nestedValues item
    if maxDepth < depth then false
    else if (nodes : ℤ) - stack.length < nested.length then false
    else if !finiteNumber item then false
    else if remaining - chargedBytes item < 0 then false
    else jsonIsBoundedLoop maxDepth nodes (remaining - chargedBytes item)
      ((nested.map fun value => (value, depth + 1)).reverse ++ stack)

/-- `_json_is_bounded`. -/
def jsonIsBounded (value : Json) (maxBytes maxNodes maxDepth : ℕ) : Bool :=
  jsonIsBoundedLoop maxDepth maxNodes maxBytes [(value, 0)]

/-- `trace_event_payload_is_bounded`. -/
def traceEventPayloadIsBounded (value : Json) : Bool :=
  jsonIsBounded value maxTraceEventPayloadBytes maxTraceEventPayloadNodes maxTraceEventPayloadDepth

/-- `canonicalize_parent_set`: parents in the order of their texts. -/
def canonicalizeParentSet (parentIds : List UUID4) : List UUID4 :=
  parentIds.insertionSort fun a b => a.int.toNat ≤ b.int.toNat

/-- The fields that a draft of an event and the event share. -/
structure TraceEventDraftFields where
  runId : UUID4
  sourceEventId : EventMetadataIdentifier
  timestamp : UtcDatetime
  eventType : EventType
  phase : EventPhase
  payload : JsonObject
  parentIds : List UUID4 := []
  sourceAdapter : EventMetadataIdentifier
  trustLabel : TrustLabel
deriving DecidableEq

/-- The checks that a draft of an event and the event share. -/
def TraceEventDraftFields.check (draft : TraceEventDraftFields) : Check := do
  refuse (traceEventPayloadIsBounded draft.payload.json = false)
    ("trace event payload exceeds its structural bound, contains unsupported JSON, "
      ++ "or has non-finite numbers")
  constrain (draft.parentIds.length ≤ maxTraceEventParents) "parent_ids" "too_long"
  constrain (draft.parentIds = canonicalizeParentSet draft.parentIds) "parent_ids" "not_canonical"
  refuse (¬draft.parentIds.Nodup) "parent event IDs must be unique"

/-- An event as an adapter hands it in. -/
structure NormalizedTraceEventDraft extends TraceEventDraftFields where
  valid : toTraceEventDraftFields.check = .ok ()
deriving DecidableEq

/-- A draft whose payload went through the redactor. -/
structure RedactedTraceEventDraft extends TraceEventDraftFields where
  payloadDigest : PayloadDigest
  valid : toTraceEventDraftFields.check = .ok ()
deriving DecidableEq

/-- The fields of a trace event. -/
structure TraceEventFields extends TraceEventDraftFields where
  eventId : UUID4
  sequence : ℕ
  payloadDigest : PayloadDigest
deriving DecidableEq

/-- The check of an event. -/
def TraceEventFields.check (event : TraceEventFields) : Check := do
  constrain (1 ≤ event.sequence) "sequence" "greater_than_equal"
  event.toTraceEventDraftFields.check

/-- An event of the ledger. -/
structure TraceEvent extends TraceEventFields where
  valid : toTraceEventFields.check = .ok ()
deriving DecidableEq

/-- `TraceEvent(...)`: the parents are put in order, then the check runs. -/
def TraceEvent.create (fields : TraceEventFields) : Except ValidationError TraceEvent :=
  Checked.validate TraceEventFields.check TraceEvent.mk
    { fields with parentIds := canonicalizeParentSet fields.parentIds }

/-! ## Signals -/

/-- `ReasonCode(signal_type.value)`. -/
def SignalType.reasonCode : SignalType → ReasonCode
  | .toolError => .toolError
  | .testFailure => .testFailure
  | .repeatedAction => .repeatedAction
  | .repeatedFailure => .repeatedFailure
  | .contextShift => .contextShift
  | .staleConstraint => .staleConstraint
  | .stagnation => .stagnation
  | .irreversibleAction => .irreversibleAction
  | .conflict => .conflict

/-- The most events behind a signal. -/
def maxSignalEvidenceEvents : ℕ := 64

/-- The fields of a signal. -/
structure SignalFields where
  signalId : UUID4
  runId : UUID4
  createdAt : UtcDatetime
  signalType : SignalType
  strength : UnitInterval
  evidenceEventIds : List UUID4
  detectorVersion : ComponentIdentifier
  reasonCode : ReasonCode
deriving DecidableEq

/-- The check of a signal. -/
def SignalFields.check (signal : SignalFields) : Check := do
  constrain (1 ≤ signal.evidenceEventIds.length) "evidence_event_ids" "too_short"
  constrain (signal.evidenceEventIds.length ≤ maxSignalEvidenceEvents)
    "evidence_event_ids" "too_long"
  refuse (¬signal.evidenceEventIds.Nodup) "signal evidence event IDs must be unique"
  refuse (signal.reasonCode ≠ signal.signalType.reasonCode)
    "signal reason_code must match signal_type"

/-- What a detector saw in a set of events. -/
structure Signal extends SignalFields where
  valid : toSignalFields.check = .ok ()
deriving DecidableEq

end SalienceGate
