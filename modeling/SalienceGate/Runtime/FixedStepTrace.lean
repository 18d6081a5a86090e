import SalienceGate.Lib.Locked
import SalienceGate.Repository.Reached

/-!
# The fixed-step trace driver

The driver appends the events of a trace one after the other, and calls back at each of them. A write
may be lost: its caller gets no receipt, whether the write took effect or not. The driver then reads the
ledger to see which it was.

What the driver awaits are the questions of its program. A write, and the read after it, run as a task of
their own, which a cancellation of the caller does not stop.
-/

namespace SalienceGate

open Checked

/-- How what is awaited fails. -/
inductive TraceError where
  /-- `asyncio.CancelledError`, which no `except Exception` catches. -/
  | cancelled
  /-- `FixedStepTraceInputError`. -/
  | input
  /-- `FixedStepTraceInvariantError`. -/
  | invariant
  | repository (error : RepositoryError)
  /-- An exception of another class. -/
  | other
deriving DecidableEq

/-- A task that is done, and how often its caller was cancelled while it awaited it. -/
structure Finished (α : Type) where
  outcome : Except TraceError α
  cancellations : ℕ

/-- A cancellation was received while the task ran, or it was cancelled itself. -/
def Finished.interrupted {α : Type} (done : Finished α) : Bool :=
  match done.outcome with
  | .error .cancelled => true
  | _ => done.cancellations ≠ 0

/-- `_complete_boundary`. -/
def completeBoundary {α : Type} (done : Finished α) : Except TraceError (α × Bool) :=
  match done.outcome with
  | .ok result => .ok (result, done.cancellations ≠ 0)
  | .error .cancelled => .error .cancelled
  | .error error => if done.cancellations ≠ 0 then .error .cancelled else .error error

/-! ## Trace data -/

/-- What is computed along a trace, and not looked at by the driver. -/
class FixedStepProjections where
  /-- The selectors of an input: `task_description`, `logical_messages`, `action_step` and
  `target_request_id`. -/
  Selectors : Type
  /-- `TrajectoryBinding`. -/
  Binding : Type
  /-- `AttestedTrajectoryPrefix`. -/
  Prefix : Type
  /-- `FixedStepSchedule`. -/
  Schedule : Type
  /-- `MessageWindow`. -/
  Window : Type
  /-- What the callback returns. -/
  Projection : Type
  /-- `schedule.decisions[-1].invoke`. -/
  invokes : Schedule → Bool
  /-- `canonical_digest` of a draft. -/
  draftDigest : NormalizedTraceEventDraft → Sha256Digest
  /-- `algorithm_trace_digest`. -/
  traceDigest : List Sha256Digest → Sha256Digest

variable [Hashing] [FixedStepProjections]

/-- `FixedStepTraceInput`. -/
structure FixedStepTraceInput where
  draft : NormalizedTraceEventDraft
  expectedEventId : UUID4
  selectors : FixedStepProjections.Selectors

/-- `FixedStepTraceBoundary`. -/
structure FixedStepTraceBoundary where
  ordinal : ℕ
  traceDigest : Sha256Digest
  traceInput : FixedStepTraceInput
  event : TraceEvent
  binding : FixedStepProjections.Binding
  trajectoryPrefix : FixedStepProjections.Prefix
  schedule : FixedStepProjections.Schedule
  window : Option FixedStepProjections.Window

/-- `FixedStepTraceResult`, with its spine. -/
structure FixedStepTraceResult where
  runId : UUID4
  traceDigest : Sha256Digest
  normalizedDraftDigests : List Sha256Digest
  persistedEvents : List TraceEvent
  persistedEventDraftDigests : List Sha256Digest
  bindings : List FixedStepProjections.Binding
  trajectoryPrefix : FixedStepProjections.Prefix
  schedule : FixedStepProjections.Schedule
  windows : List FixedStepProjections.Window
  boundaryProjections : List FixedStepProjections.Projection
  projectionDigests : ProjectionDigests
  ledger : List LedgerEntry
  ledgerHead : LedgerHead
  rebuildEquivalent : Bool

omit [Hashing] [FixedStepProjections] in
/-- The draft of an event. -/
def TraceEvent.draft (event : TraceEvent) : NormalizedTraceEventDraft where
  toTraceEventDraftFields := event.toTraceEventDraftFields
  valid := (constrain_bind_eq_ok.mp event.valid).2

omit [Hashing] in
/-- `_persisted_draft_digest`. -/
def persistedDraftDigest (event : TraceEvent) : Sha256Digest :=
  FixedStepProjections.draftDigest event.draft

/-! ## Requests -/

/-- What the driver awaits. -/
inductive TraceRequest where
  | append (input : FixedStepTraceInput)
  | recordInvocationDecision (decision : InvocationDecision)
  /-- `repository.ledger`, in a task of its own. -/
  | readBack (runId : UUID4)
  /-- `repository.ledger`. -/
  | ledger (runId : UUID4)
  | ledgerHead (runId : UUID4)
  | rebuild (runId : UUID4)
  /-- `bind_persisted_trajectory_event`, which is computed at once. -/
  | bind (entry : LedgerEntry) (selectors : FixedStepProjections.Selectors)
  | resolveTrajectoryPrefix (runId : UUID4) (boundary : ℕ) (bindings : List FixedStepProjections.Binding)
  | projectFixedStepSchedule (trajectoryPrefix : FixedStepProjections.Prefix)
  | projectMessageWindow (trajectoryPrefix : FixedStepProjections.Prefix)
  | callback (boundary : FixedStepTraceBoundary)

/-- What answers a request. -/
@[reducible] def TraceRequest.Reply : TraceRequest → Type
  | .append _ => Finished AppendReceipt
  | .recordInvocationDecision _ => Finished LedgerReceipt
  | .readBack _ => Finished (List LedgerEntry)
  | .ledger _ => List LedgerEntry
  | .ledgerHead _ => LedgerHead
  | .rebuild _ => RebuildReceipt
  | .bind .. => FixedStepProjections.Binding
  | .resolveTrajectoryPrefix .. => FixedStepProjections.Prefix
  | .projectFixedStepSchedule _ => FixedStepProjections.Schedule
  | .projectMessageWindow _ => FixedStepProjections.Window
  | .callback _ => FixedStepProjections.Projection

/-- The program of a driver. -/
abbrev Tracing := Program TraceRequest TraceRequest.Reply TraceError

/-- One question. -/
abbrev TraceRequest.ask (request : TraceRequest) : Tracing request.Reply := .request request

/-! ## Reconciling an append -/

/-- `_PersistedTraceEvent`. -/
structure PersistedTraceEvent where
  event : TraceEvent
  entry : LedgerEntry
deriving DecidableEq

/-- The events of a ledger, with their entries. -/
def traceEvents (ledger : List LedgerEntry) : List PersistedTraceEvent :=
  ledger.filterMap fun entry => match entry.record with
    | .traceEvent event => some ⟨event, entry⟩
    | _ => none

/-- `_entry_has_exact_envelope`. -/
def entryHasExactEnvelope (ledger : List LedgerEntry) (entry : LedgerEntry) (expectedRecordKey : String) :
    Prop :=
  entry.recordKey = expectedRecordKey ∧ 0 < entry.position ∧ entry.position ≤ ledger.length
    ∧ ledger[entry.position - 1]? = some entry

instance decidableEntryHasExactEnvelope (ledger : List LedgerEntry) (entry : LedgerEntry)
    (expectedRecordKey : String) : Decidable (entryHasExactEnvelope ledger entry expectedRecordKey) :=
  inferInstanceAs (Decidable (_ ∧ _))

/-- `_event_matches_input`. The payload is not compared: it was redacted. -/
def eventMatchesInput (event : TraceEvent) (input : FixedStepTraceInput) (expectedSequence : ℕ) : Prop :=
  event.eventId = input.expectedEventId ∧ event.runId = input.draft.runId
    ∧ event.sequence = expectedSequence ∧ event.sourceEventId = input.draft.sourceEventId
    ∧ event.timestamp = input.draft.timestamp ∧ event.eventType = input.draft.eventType
    ∧ event.phase = input.draft.phase ∧ event.parentIds = input.draft.parentIds
    ∧ event.sourceAdapter = input.draft.sourceAdapter ∧ event.trustLabel = input.draft.trustLabel

instance decidableEventMatchesInput (event : TraceEvent) (input : FixedStepTraceInput)
    (expectedSequence : ℕ) : Decidable (eventMatchesInput event input expectedSequence) :=
  inferInstanceAs (Decidable (_ ∧ _))

/-- `_authoritative_trace_event`, of a ledger that was read. -/
def locateTraceEvent (ledger : List LedgerEntry) (input : FixedStepTraceInput) (expectedSequence : ℕ) :
    Except TraceError (Option PersistedTraceEvent) :=
  let events := traceEvents ledger
  let byIdentifier := events.filter fun item => item.event.eventId = input.expectedEventId
  let bySequence := events.filter fun item => item.event.sequence = expectedSequence
  let bySource := events.filter fun item => item.event.sourceEventId = input.draft.sourceEventId
  match byIdentifier with
  | [] => do
    raiseIf (bySequence ≠ [] ∨ bySource ≠ []) .invariant
    pure none
  | found :: others => do
    raiseIf (others ≠ [] ∨ bySequence ≠ found :: others ∨ bySource ≠ found :: others
      ∨ events.map (fun item => item.event.sequence) ≠ List.range' 1 expectedSequence
      ∨ events.getLast? ≠ some found) .invariant
    raiseIf (¬entryHasExactEnvelope ledger found.entry ("trace_event:" ++ input.expectedEventId.toString)
      ∨ ¬eventMatchesInput found.event input expectedSequence) .invariant
    pure (some found)

/-- `_authoritative_trace_event`, after what the read came to: a run without entries is not found. -/
def authoritativeTraceEvent (read : Except TraceError (List LedgerEntry)) (input : FixedStepTraceInput)
    (expectedSequence : ℕ) : Except TraceError (Option PersistedTraceEvent) :=
  match read with
  | .error (.repository (.runNotFound _)) => .ok none
  | .error error => .error error
  | .ok ledger => locateTraceEvent ledger input expectedSequence

/-- `_complete_boundary` of `_authoritative_trace_event`. -/
def readTraceEvent (input : FixedStepTraceInput) (expectedSequence : ℕ) :
    Tracing (Option PersistedTraceEvent × Bool) := do
  let done ← (TraceRequest.readBack input.draft.runId).ask
  .lift (completeBoundary
    ⟨authoritativeTraceEvent done.outcome input expectedSequence, done.cancellations⟩)

/-- The receipt of an append is of a new event, the expected one. -/
def isExpectedAppend (receipt : AppendReceipt) (input : FixedStepTraceInput) (expectedSequence : ℕ) : Prop :=
  receipt.disposition = .appended ∧ receipt.event.eventId = input.expectedEventId
    ∧ receipt.event.sequence = expectedSequence ∧ receipt.ingestionCursor = expectedSequence

instance decidableIsExpectedAppend (receipt : AppendReceipt) (input : FixedStepTraceInput)
    (expectedSequence : ℕ) : Decidable (isExpectedAppend receipt input expectedSequence) :=
  inferInstanceAs (Decidable (_ ∧ _))

/-- `_append_reconciled_trace_event`. -/
def appendReconciledTraceEvent (input : FixedStepTraceInput) (expectedSequence : ℕ) :
    Tracing (PersistedTraceEvent × Bool) := do
  let done ← (TraceRequest.append input).ask
  match completeBoundary done with
  | .error .cancelled => do
    let read ← readTraceEvent input expectedSequence
    match read.1 with
    | none => .raise .cancelled
    | some persisted => pure (persisted, true)
  | .error _ => do
    let read ← readTraceEvent input expectedSequence
    match read.1 with
    | none => .raise (if read.2 then .cancelled else .input)
    | some persisted => pure (persisted, read.2)
  | .ok (receipt, writeCancelled) => do
    .lift (raiseIf (¬isExpectedAppend receipt input expectedSequence) .input)
    let read ← readTraceEvent input expectedSequence
    match read.1 with
    | none => .raise .invariant
    | some persisted => do
      .lift (raiseIf (persisted.event ≠ receipt.event ∨ persisted.entry.position ≠ receipt.ledgerPosition)
        .invariant)
      pure (persisted, writeCancelled || read.2)

/-! ## Reconciling a decision -/

/-- The decisions of a ledger, with their entries. -/
def invocationDecisions (ledger : List LedgerEntry) : List (InvocationDecision × LedgerEntry) :=
  ledger.filterMap fun entry => match entry.record with
    | .invocationDecision decision => some (decision, entry)
    | _ => none

/-- `_authoritative_invocation_decision`, of a ledger that was read. -/
def locateInvocationDecision (ledger : List LedgerEntry) (decision : InvocationDecision) :
    Except TraceError (Option LedgerReceipt) :=
  let all := invocationDecisions ledger
  let decisions := all.filter fun item => item.1.decisionId = decision.decisionId
  let eventDecisions := all.filter fun item => item.1.eventSequence = decision.eventSequence
  match decisions with
  | [] => do
    raiseIf (eventDecisions ≠ []) .invariant
    pure none
  | found :: others => do
    raiseIf (others ≠ [] ∨ eventDecisions ≠ found :: others ∨ found.1 ≠ decision) .invariant
    raiseIf (¬entryHasExactEnvelope ledger found.2
      ("invocation_decision:" ++ decision.decisionId.toString)) .invariant
    pure (some (LedgerReceipt.ofEntry found.2 decision.decisionId).repeated)

/-- `_complete_boundary` of `_authoritative_invocation_decision`. -/
def readInvocationDecision (decision : InvocationDecision) : Tracing (Option LedgerReceipt × Bool) := do
  let done ← (TraceRequest.readBack decision.runId).ask
  .lift (completeBoundary
    ⟨done.outcome.bind fun ledger => locateInvocationDecision ledger decision, done.cancellations⟩)

/-- `record_reconciled_invocation_decision`. -/
def recordReconciledInvocationDecision (decision : InvocationDecision) : Tracing (LedgerReceipt × Bool) := do
  let done ← (TraceRequest.recordInvocationDecision decision).ask
  match completeBoundary done with
  | .error .cancelled => do
    let read ← readInvocationDecision decision
    match read.1 with
    | none => .raise .cancelled
    | some reconciled => pure (reconciled, true)
  | .error _ => do
    let read ← readInvocationDecision decision
    match read.1 with
    | none => .raise (if read.2 then .cancelled else .invariant)
    | some reconciled => pure (reconciled, read.2)
  | .ok (receipt, writeCancelled) => do
    .lift (raiseIf (receipt.appended = false) .invariant)
    let read ← readInvocationDecision decision
    match read.1 with
    | none => .raise .invariant
    | some reconciled => do
      .lift (raiseIf (receipt ≠ { reconciled with appended := true }) .invariant)
      pure (receipt, writeCancelled || read.2)

/-! ## The driver -/

/-- What the driver keeps from one event to the next. -/
structure TraceProgress where
  bindings : List FixedStepProjections.Binding := []
  persistedEvents : List TraceEvent := []
  windows : List FixedStepProjections.Window := []
  boundaryProjections : List FixedStepProjections.Projection := []
  final : Option (FixedStepProjections.Prefix × FixedStepProjections.Schedule) := none

/-- `except Exception: raise FixedStepTraceInvariantError`. -/
def orInvariant {α : Type} (x : Tracing α) : Tracing α := do
  let answer ← x.attempt
  match answer with
  | .ok a => pure a
  | .error .cancelled => .raise .cancelled
  | .error _ => .raise .invariant

/-- The part of a round of the loop after the event was persisted. -/
def reachBoundary (runId : UUID4) (traceDigest : Sha256Digest) (ordinal : ℕ) (input : FixedStepTraceInput)
    (persisted : PersistedTraceEvent) (appendCancelled : Bool) (progress : TraceProgress) :
    Tracing TraceProgress := do
  let event := persisted.event
  let binding ← orInvariant (TraceRequest.bind persisted.entry input.selectors).ask
  let bindings := progress.bindings ++ [binding]
  let trajectoryPrefix ← (TraceRequest.resolveTrajectoryPrefix runId event.sequence bindings).ask
  let schedule ← (TraceRequest.projectFixedStepSchedule trajectoryPrefix).ask
  let window ← (if FixedStepProjections.invokes schedule then
      some <$> (TraceRequest.projectMessageWindow trajectoryPrefix).ask
    else pure none)
  let projection ← (TraceRequest.callback {
    ordinal, traceDigest, traceInput := input, event, binding, trajectoryPrefix, schedule, window }).ask
  if appendCancelled then .raise .cancelled
  else pure {
    bindings
    persistedEvents := progress.persistedEvents ++ [event]
    windows := progress.windows ++ window.toList
    boundaryProjections := progress.boundaryProjections ++ [projection]
    final := some (trajectoryPrefix, schedule) }

/-- The loop of `FixedStepTraceDriver.run`. -/
def traceInputs (runId : UUID4) (traceDigest : Sha256Digest) :
    ℕ → List FixedStepTraceInput → TraceProgress → Tracing TraceProgress
  | _, [], progress => pure progress
  | ordinal, input :: rest, progress => do
    let reconciled ← appendReconciledTraceEvent input ordinal
    let progress ← reachBoundary runId traceDigest ordinal input reconciled.1 reconciled.2 progress
    traceInputs runId traceDigest (ordinal + 1) rest progress

/-- The run of the driver is new. -/
def requireFreshRun (runId : UUID4) : Tracing Unit := do
  let ledger ← (TraceRequest.ledger runId).ask.attempt
  match ledger with
  | .error (.repository (.runNotFound _)) => pure ()
  | .error .cancelled => .raise .cancelled
  | .error _ => .raise .invariant
  | .ok _ => .raise .input

/-- The part of `FixedStepTraceDriver.run` after its loop. -/
def attestTrace (runId : UUID4) (digests : List Sha256Digest) (progress : TraceProgress) :
    Tracing FixedStepTraceResult :=
  match progress.final with
  | none => .raise .invariant
  | some (trajectoryPrefix, schedule) => do
    let rebuild ← (TraceRequest.rebuild runId).ask
    .lift (raiseIf (rebuild.equivalent = false) .invariant)
    let ledger ← (TraceRequest.ledger runId).ask
    let ledgerHead ← (TraceRequest.ledgerHead runId).ask
    .lift (raiseIf (ledgerHead.entryCount ≠ ledger.length) .invariant)
    pure {
      runId
      traceDigest := FixedStepProjections.traceDigest digests
      normalizedDraftDigests := digests
      persistedEvents := progress.persistedEvents
      persistedEventDraftDigests := progress.persistedEvents.map persistedDraftDigest
      bindings := progress.bindings
      trajectoryPrefix
      schedule
      windows := progress.windows
      boundaryProjections := progress.boundaryProjections
      projectionDigests := rebuild.after
      ledger
      ledgerHead
      rebuildEquivalent := rebuild.equivalent }

/-- `FixedStepTraceDriver.run`. -/
def runTrace (inputs : List FixedStepTraceInput) : Tracing FixedStepTraceResult :=
  match inputs with
  | [] => .raise .input
  | first :: _ => do
    let digests := inputs.map fun input => FixedStepProjections.draftDigest input.draft
    let runId := first.draft.runId
    requireFreshRun runId
    let progress ← traceInputs runId (FixedStepProjections.traceDigest digests) 1 inputs {}
    attestTrace runId digests progress

/-! ## The repository -/

variable [Integrity] [Redactor] [Serialization]

/-- How a write of a repository ends: it returns its receipt, or its receipt is lost, or it takes no
effect. -/
inductive WriteAnswers {α : Type} (write : RepositoryM α) (s : Repository) :
    Except TraceError α → Repository → Prop where
  | returned {receipt : α} {t : Repository} (h : write s = .ok receipt t) :
      WriteAnswers write s (.ok receipt) t
  | lost {receipt : α} {t : Repository} (error : TraceError) (h : write s = .ok receipt t) :
      WriteAnswers write s (.error error) t
  | refused (error : TraceError) : WriteAnswers write s (.error error) s

/-- How a read of the ledger of a run ends: only a run without entries is not found. -/
inductive ReadAnswers (s : Repository) (runId : UUID4) : Except TraceError (List LedgerEntry) → Prop where
  | found (h : (s runId).slot.ledger ≠ []) : ReadAnswers s runId (.ok (s runId).slot.ledger)
  | missing (h : (s runId).slot.ledger = []) : ReadAnswers s runId (.error (.repository (.runNotFound runId)))
  | failed (error : TraceError) (h : ∀ id, error ≠ .repository (.runNotFound id)) :
      ReadAnswers s runId (.error error)

/-- What a callback may do to the run of its boundary: its ledger grows, but by no event. -/
structure Elaborates (runId : UUID4) (s t : Repository) : Prop where
  live : t.Live
  ledger : ∃ more, (t runId).slot.ledger = (s runId).slot.ledger ++ more ∧ traceEvents more = []

/-- How a request is answered. -/
def TraceRequest.answers (s : Repository) :
    (request : TraceRequest) → Except TraceError request.Reply → Repository → Prop
  | .append input, reply, t => ∃ done newId, reply = .ok done
      ∧ WriteAnswers (SalienceGate.append (.exact input.draft) (some (.exact input.expectedEventId)) newId) s
        done.outcome t
  | .recordInvocationDecision decision, reply, t => ∃ done, reply = .ok done
      ∧ WriteAnswers (SalienceGate.recordInvocationDecision (.exact decision)) s done.outcome t
  | .readBack runId, reply, t => t = s ∧ ∃ done, reply = .ok done ∧ ReadAnswers s runId done.outcome
  | .ledger runId, reply, t => t = s ∧ ReadAnswers s runId reply
  | .callback boundary, _, t => Elaborates boundary.event.runId s t
  | .rebuild runId, _, t => Elaborates runId s t
  | _, _, t => t = s

end SalienceGate
