import SalienceGate.Runtime.FixedStepTrace

/-!
# Lost receipts

A write whose receipt is lost is found in the ledger, or it is not there. The events of a ledger are
numbered from one, and no identity or source identity occurs twice among them, so that what is read back
is the event that was written, or that no such event is there.
-/

namespace SalienceGate

open Checked
open Stateful hiding bind_eq_ok check_bind_eq_ok raiseIf_bind_eq_ok expect_bind_eq_ok

section

variable [Hashing]

/-! ## Ledgers -/

variable {ledger more : List LedgerEntry} {entry : LedgerEntry} {event : TraceEvent}

theorem traceEvents_append : traceEvents (ledger ++ more) = traceEvents ledger ++ traceEvents more :=
  List.filterMap_append

theorem traceEvents_event (h : entry.record = .traceEvent event) : traceEvents [entry] = [⟨event, entry⟩] := by
  unfold traceEvents
  rw [List.filterMap_cons, List.filterMap_nil]
  simp only [h]

theorem traceEvents_other (h : ∀ event, entry.record ≠ .traceEvent event) : traceEvents [entry] = [] := by
  unfold traceEvents
  rw [List.filterMap_cons, List.filterMap_nil]
  split
  · rfl
  · next item hitem =>
    split at hitem
    · next event hevent => exact absurd hevent (h event)
    · cases hitem

theorem invocationDecisions_append :
    invocationDecisions (ledger ++ more) = invocationDecisions ledger ++ invocationDecisions more :=
  List.filterMap_append

theorem invocationDecisions_decision {decision : InvocationDecision}
    (h : entry.record = .invocationDecision decision) : invocationDecisions [entry] = [(decision, entry)] := by
  unfold invocationDecisions
  rw [List.filterMap_cons, List.filterMap_nil]
  simp only [h]

theorem invocationDecisions_other (h : ∀ decision, entry.record ≠ .invocationDecision decision) :
    invocationDecisions [entry] = [] := by
  unfold invocationDecisions
  rw [List.filterMap_cons, List.filterMap_nil]
  split
  · rfl
  · next item hitem =>
    split at hitem
    · next decision hdecision => exact absurd hdecision (h decision)
    · cases hitem

/-- The projection of a ledger has its events and its decisions, in order, and its entries are at their
positions. -/
structure LedgerIndexed (ledger : List LedgerEntry) (p : Projection) : Prop where
  numbered : (traceEvents ledger).map (fun item => item.event.sequence) = List.range' 1 p.ingestionCursor
  identities : p.eventsById.keys = (traceEvents ledger).map fun item => item.event.eventId
  sources : p.eventsBySource.keys = (traceEvents ledger).map fun item => item.event.sourceEventId
  decisions : p.decisions.items = (invocationDecisions ledger).map fun item => (item.1.decisionId, item.1)

theorem ledgerIndexed_nil (runId : UUID4) : LedgerIndexed [] (emptyProjection runId) where
  numbered := rfl
  identities := rfl
  sources := rfl
  decisions := rfl

/-- A ledger that the projector accepts one more entry of. -/
theorem LedgerIndexed.concat {p q : Projection} (h : LedgerIndexed ledger p)
    (haccepted : Accepted p entry.record q) : LedgerIndexed (ledger ++ [entry]) q := by
  generalize hrecord : entry.record = record at haccepted
  have hother : (∀ event, record ≠ .traceEvent event) → (∀ decision, record ≠ .invocationDecision decision) →
      q.eventsById = p.eventsById → q.eventsBySource = p.eventsBySource → q.decisions = p.decisions →
      q.ingestionCursor = p.ingestionCursor → LedgerIndexed (ledger ++ [entry]) q := by
    intro hevents hdecisions hid hsource hdecided hcursor
    have hnone : traceEvents [entry] = [] := traceEvents_other fun event => hrecord ▸ hevents event
    have hnone' : invocationDecisions [entry] = [] :=
      invocationDecisions_other fun decision => hrecord ▸ hdecisions decision
    constructor
    · rw [traceEvents_append, hnone, List.append_nil, hcursor, h.numbered]
    · rw [traceEvents_append, hnone, List.append_nil, hid, h.identities]
    · rw [traceEvents_append, hnone, List.append_nil, hsource, h.sources]
    · rw [invocationDecisions_append, hnone', List.append_nil, hdecided, h.decisions]
  cases haccepted with
  | event position event next freshId freshSource =>
    have hone := traceEvents_event hrecord
    have hnone : invocationDecisions [entry] = [] := invocationDecisions_other fun decision heq => by
      rw [hrecord] at heq
      cases heq
    unfold Projection.addEvent
    constructor
    · rw [traceEvents_append, hone, List.map_append, h.numbered, List.map_singleton, next, List.range'_concat]
      simp [Nat.add_comm]
    · rw [traceEvents_append, hone, List.map_append, ← h.identities, Dict.keys_set_of_notMem freshId]
      rfl
    · rw [traceEvents_append, hone, List.map_append, ← h.sources, Dict.keys_set_of_notMem freshSource]
      rfl
    · rw [invocationDecisions_append, hnone, List.append_nil, h.decisions]
  | decision decision limits fresh =>
    have hone := invocationDecisions_decision hrecord
    have hnone : traceEvents [entry] = [] := traceEvents_other fun event heq => by
      rw [hrecord] at heq
      cases heq
    constructor
    · rw [traceEvents_append, hnone, List.append_nil, h.numbered]
    · rw [traceEvents_append, hnone, List.append_nil, h.identities]
    · rw [traceEvents_append, hnone, List.append_nil, h.sources]
    · rw [invocationDecisions_append, hone, List.map_append, ← h.decisions, Dict.items_set_of_notMem fresh]
      rfl
  | signal | cycle | commit | outcome | delivery =>
    exact hother (fun _ heq => by cases heq) (fun _ heq => by cases heq) rfl rfl rfl rfl

/-- A direct record is of its entry. -/
theorem toLedgerRecord_of_ofLedgerRecord {record : LedgerRecord} {direct : DirectLedgerRecord}
    (h : DirectLedgerRecord.ofLedgerRecord record = some direct) : direct.toLedgerRecord = record := by
  unfold DirectLedgerRecord.ofLedgerRecord at h
  split at h
  · cases h
    rfl
  · cases h
    rfl
  · cases h
    rfl
  · cases h

variable [Integrity] {slot : Slot}

/-- A ledger that replays is indexed by what it replays to, and its entries are at their positions. -/
theorem ledgerIndexed_of_replayed {runId : UUID4} {replayed : Replayed}
    (h : ledger.foldlM replayEntry (Replayed.start runId) = .ok replayed) :
    LedgerIndexed ledger replayed.projection ∧ replayed.position = ledger.length
      ∧ (∀ i entry, ledger[i]? = some entry → entry.position = i + 1 ∧ entry.recordKey = recordKey entry.record)
      ∧ ∀ key found, replayed.directRecords.get? key = some found →
        ∃ entry ∈ ledger, entry.record = found.record.toLedgerRecord := by
  induction ledger using List.reverseRecOn generalizing replayed with
  | nil =>
    cases foldlM_nil_eq_ok.mp h
    exact ⟨ledgerIndexed_nil runId, rfl, fun i entry hentry => by simp at hentry, fun _ _ hget => by cases hget⟩
  | append_singleton ledger entry ih =>
    obtain ⟨m, hprefix, hlast⟩ := foldlM_append_eq_ok.mp h
    obtain ⟨n, hlast, hnil⟩ := foldlM_cons_eq_ok.mp hlast
    cases foldlM_nil_eq_ok.mp hnil
    obtain ⟨hindexed, hlength, hplaced, hdirect⟩ := ih hprefix
    have haccepted := (applyEntry_accepted (applyEntry_of_replayEntry hlast)).2
    obtain ⟨cursor, hcursor, hlast⟩ := bind_eq_ok.mp hlast
    obtain ⟨seeds, -, hlast⟩ := bind_eq_ok.mp hlast
    cases pure_eq_ok.mp hlast
    obtain ⟨hverified, hcursor⟩ := check_bind_eq_ok.mp hcursor
    obtain ⟨projection, -, hcursor⟩ := bind_eq_ok.mp hcursor
    cases pure_eq_ok.mp hcursor
    unfold verifyEntry at hverified
    simp only [raiseIf_bind_eq_ok, not_or, not_not] at hverified
    obtain ⟨⟨hposition, -⟩, hkey, -⟩ := hverified
    refine ⟨hindexed.concat haccepted, ?_, fun i other hother => ?_, fun key found hfound => ?_⟩
    · show m.position + 1 = (ledger ++ [entry]).length
      rw [List.length_append, List.length_singleton, hlength]
    · rcases Nat.lt_trichotomy i ledger.length with hlt | heq | hgt
      · rw [List.getElem?_append_left hlt] at hother
        exact hplaced i other hother
      · subst heq
        rw [List.getElem?_concat_length, Option.some.injEq] at hother
        subst hother
        exact ⟨by omega, hkey⟩
      · rw [List.getElem?_eq_none (by simp; omega)] at hother
        cases hother
    · have hknown : m.directRecords.get? key = some found →
          ∃ other ∈ ledger ++ [entry], other.record = found.record.toLedgerRecord := by
        intro hget
        obtain ⟨other, hother, hrecord⟩ := hdirect key found hget
        exact ⟨other, List.mem_append_left _ hother, hrecord⟩
      change (addDirectRecord m.directRecords entry).get? key = some found at hfound
      unfold addDirectRecord at hfound
      split at hfound
      · next record hrecord =>
        rcases Dict.get?_set_eq_some.mp hfound with ⟨-, rfl⟩ | ⟨-, hget⟩
        · exact ⟨entry, List.mem_append_right _ (List.mem_singleton_self entry),
            (toLedgerRecord_of_ofLedgerRecord hrecord).symm⟩
        · exact hknown hget
      · exact hknown hfound

/-- What is known of the ledger of a run. -/
structure Slot.Indexed (slot : Slot) : Prop where
  indexed : LedgerIndexed slot.ledger slot.projection
  placed : ∀ i entry, slot.ledger[i]? = some entry →
    entry.position = i + 1 ∧ entry.recordKey = recordKey entry.record
  direct : ∀ key found, slot.directRecords.get? key = some found →
    ∃ entry ∈ slot.ledger, entry.record = found.record.toLedgerRecord

theorem RunState.Live.indexed {run : RunState} (h : run.Live) : run.slot.Indexed := by
  obtain ⟨hindexed, -, hplaced, hdirect⟩ := ledgerIndexed_of_replayed h.settled.replayed
  exact ⟨hindexed, hplaced, hdirect⟩

end

/-! ## Writes -/

/-- An event has the identity that was asked for. -/
theorem traceEvent_eventId {redacted : RedactedTraceEventDraft} {sequence : ℕ} {eventId : UUID4}
    {newId : Option UUID4} {event : TraceEvent}
    (h : traceEvent redacted sequence (some eventId) newId = .ok event) : event.eventId = eventId := by
  obtain ⟨id, hid, hcreate⟩ := bind_eq_ok.mp h
  cases expect_eq_ok.mp hid
  unfold TraceEvent.create at hcreate
  cases hmade : validate TraceEventFields.check TraceEvent.mk _ with
  | error e =>
    rw [hmade] at hcreate
    cases hcreate
  | ok made =>
    rw [hmade] at hcreate
    cases hcreate
    obtain ⟨-, rfl⟩ := validate_eq_ok.mp hmade
    rfl

variable [Hashing] [FixedStepProjections] [Integrity] {s t : Repository} {input : FixedStepTraceInput}
  {expectedSequence : ℕ}

/-- An input is the next one of its run: none of its identities is in use. -/
structure NextInput (s : Repository) (input : FixedStepTraceInput) (expectedSequence : ℕ) : Prop where
  number : (traceEvents (s input.draft.runId).slot.ledger).length + 1 = expectedSequence
  identity : ∀ item ∈ traceEvents (s input.draft.runId).slot.ledger, item.event.eventId ≠ input.expectedEventId
  source : ∀ item ∈ traceEvents (s input.draft.runId).slot.ledger,
    item.event.sourceEventId ≠ input.draft.sourceEventId

/-- The event of an input was stored at the end of its run. -/
structure EventStored (s t : Repository) (input : FixedStepTraceInput) (expectedSequence : ℕ)
    (persisted : PersistedTraceEvent) : Prop where
  live : t.Live
  ledger : (t input.draft.runId).slot.ledger = (s input.draft.runId).slot.ledger ++ [persisted.entry]
  record : persisted.entry.record = .traceEvent persisted.event
  event : eventMatchesInput persisted.event input expectedSequence

/-- An append of the next input that returns stores its event. -/
theorem append_stored [Redactor] (hlive : s.Live) (hnext : NextInput s input expectedSequence) {newId : Option UUID4}
    {receipt : AppendReceipt}
    (h : append (.exact input.draft) (some (.exact input.expectedEventId)) newId s = .ok receipt t) :
    ∃ persisted, EventStored s t input expectedSequence persisted ∧ receipt.disposition = .appended
      ∧ receipt.event = persisted.event ∧ receipt.ledgerPosition = persisted.entry.position
      ∧ receipt.ingestionCursor = expectedSequence := by
  have hlater : t.Live := hlive.continued ((append_continued hlive).ok _ _ h)
  unfold append at h
  obtain ⟨draft, hdraft, h⟩ := lift_bind_eq_ok.mp h
  obtain ⟨id, hid, h⟩ := lift_bind_eq_ok.mp h
  obtain ⟨hmetadata, h⟩ := Stateful.check_bind_eq_ok.mp h
  obtain ⟨redacted, hredact, h⟩ := lift_bind_eq_ok.mp h
  cases pure_eq_ok.mp hdraft
  cases pure_eq_ok.mp hid
  obtain ⟨u, hrun, rfl⟩ := onRun_eq_ok.mp h
  rw [get_bind] at hrun
  obtain ⟨-, hrun⟩ := Stateful.check_bind_eq_ok.mp hrun
  have hindexed := (hlive.live input.draft.runId).indexed
  -- the source identity is new to the projection
  have hunknown : (s input.draft.runId).slot.projection.eventsBySource.get? input.draft.sourceEventId = none := by
    refine Dict.get?_eq_none.mpr fun hmem => ?_
    rw [Dict.mem_def, hindexed.indexed.sources] at hmem
    obtain ⟨item, hitem, hsource⟩ := List.mem_map.mp hmem
    exact hnext.source item hitem hsource
  have hcursor : (s input.draft.runId).slot.projection.ingestionCursor + 1 = expectedSequence := by
    have hlength := congrArg List.length hindexed.indexed.numbered
    rw [List.length_map, List.length_range'] at hlength
    rw [← hlength]
    exact hnext.number
  have hnew : appendNewEventToSlot input.draft redacted (some input.expectedEventId) newId true
      (s input.draft.runId) = .ok receipt u := by
    unfold appendToSlot at hrun
    rw [get_bind] at hrun
    simp only [hunknown] at hrun
    split at hrun
    · exact hrun
    · exact (Stateful.check_bind_eq_ok.mp hrun).2
  unfold appendNewEventToSlot at hnew
  rw [get_bind] at hnew
  obtain ⟨-, hnew⟩ := Stateful.raiseIf_bind_eq_ok.mp hnew
  obtain ⟨event, hevent, hnew⟩ := lift_bind_eq_ok.mp hnew
  obtain ⟨staged, hstaged, hnew⟩ := lift_bind_eq_ok.mp hnew
  obtain ⟨created, hcreated, hnew⟩ := lift_bind_eq_ok.mp hnew
  cases hnew
  rw [mapError_eq_ok] at hcreated
  obtain ⟨-, rfl⟩ := validate_eq_ok.mp hcreated
  have hstage := stageEntry_eq_ok hstaged
  obtain ⟨hsequence, hfields, -⟩ := traceEvent_eq_ok hevent
  obtain ⟨payload, -, hredacted, -⟩ := redactEvent_eq_ok (redactDraft_eq_ok hredact)
  have hidentity : event.eventId = input.expectedEventId := traceEvent_eventId hevent
  have hrunId : event.runId = input.draft.runId := by rw [hfields, hredacted]
  refine ⟨⟨event, staged.entry⟩, ⟨hlater, ?_, hstage.record_eq, ?_⟩, rfl, rfl, rfl, ?_⟩
  · rw [Function.update_self]
    rfl
  · rw [hcursor] at hsequence
    refine ⟨hidentity, hrunId, hsequence, ?_, ?_, ?_, ?_, ?_, ?_, ?_⟩ <;> rw [hfields, hredacted]
  · have haccepted := hstage.accepted.ingestionCursor_eq
    show staged.projected.ingestionCursor = expectedSequence
    rw [haccepted, hsequence, hcursor]

/-! ## Reading back -/

/-- The number of events of a run that are the one of an input. -/
def matching (s : Repository) (input : FixedStepTraceInput) (expectedSequence : ℕ) : ℕ :=
  (traceEvents (s input.draft.runId).slot.ledger).countP fun item =>
    eventMatchesInput item.event input expectedSequence

variable {persisted : PersistedTraceEvent}

theorem EventStored.traceEvents_eq (h : EventStored s t input expectedSequence persisted) :
    traceEvents (t input.draft.runId).slot.ledger
      = traceEvents (s input.draft.runId).slot.ledger ++ [persisted] := by
  rw [h.ledger, traceEvents_append, traceEvents_event h.record]

omit [Integrity] in
/-- Before its append, no event is that of the next input. -/
theorem matching_next (hnext : NextInput s input expectedSequence) : matching s input expectedSequence = 0 := by
  unfold matching
  rw [List.countP_eq_zero]
  intro item hitem hmatches
  exact hnext.identity item hitem (of_decide_eq_true hmatches).1

/-- After its event was stored, one is. -/
theorem EventStored.matching_eq (h : EventStored s t input expectedSequence persisted)
    (hnext : NextInput s input expectedSequence) : matching t input expectedSequence = 1 := by
  have hbefore := matching_next hnext
  unfold matching at hbefore ⊢
  rw [h.traceEvents_eq, List.countP_append, hbefore, List.countP_singleton, if_pos (decide_eq_true h.event)]

/-- An event that was stored is read back. -/
theorem EventStored.locate_eq (h : EventStored s t input expectedSequence persisted)
    (hnext : NextInput s input expectedSequence) :
    locateTraceEvent (t input.draft.runId).slot.ledger input expectedSequence = .ok (some persisted) := by
  have hindexed := (h.live.live input.draft.runId).indexed
  obtain ⟨hidentity, -, hsequence, hsource, -⟩ := h.event
  have hnumbered : (traceEvents (t input.draft.runId).slot.ledger).map (fun item => item.event.sequence)
      = List.range' 1 expectedSequence := by
    have hlength := congrArg List.length hindexed.indexed.numbered
    rw [List.length_map, List.length_range', h.traceEvents_eq, List.length_append, List.length_singleton,
      hnext.number] at hlength
    rw [hindexed.indexed.numbered, ← hlength]
  -- the events before it have other identities and other numbers
  have hids : (traceEvents (s input.draft.runId).slot.ledger).filter
      (fun item => item.event.eventId = input.expectedEventId) = [] :=
    List.filter_eq_nil_iff.mpr fun item hitem => by simpa using hnext.identity item hitem
  have hsources : (traceEvents (s input.draft.runId).slot.ledger).filter
      (fun item => item.event.sourceEventId = input.draft.sourceEventId) = [] :=
    List.filter_eq_nil_iff.mpr fun item hitem => by simpa using hnext.source item hitem
  have hsequences : (traceEvents (s input.draft.runId).slot.ledger).filter
      (fun item => item.event.sequence = expectedSequence) = [] := by
    rw [h.traceEvents_eq, List.map_append, List.map_singleton] at hnumbered
    have hnodup : (List.range' 1 expectedSequence).Nodup := List.nodup_range'
    rw [← hnumbered, List.nodup_append] at hnodup
    refine List.filter_eq_nil_iff.mpr fun item hitem heq => ?_
    refine hnodup.2.2 _ (List.mem_map_of_mem hitem) _ (List.mem_singleton_self _) ?_
    rw [hsequence]
    exact of_decide_eq_true heq
  have henvelope : entryHasExactEnvelope (t input.draft.runId).slot.ledger persisted.entry
      ("trace_event:" ++ input.expectedEventId.toString) := by
    have hlast : (t input.draft.runId).slot.ledger[(s input.draft.runId).slot.ledger.length]?
        = some persisted.entry := by
      rw [h.ledger, List.getElem?_concat_length]
    obtain ⟨hposition, hkey⟩ := hindexed.placed _ _ hlast
    refine ⟨?_, by omega, ?_, ?_⟩
    · rw [hkey, h.record, ← hidentity]
      rfl
    · rw [hposition, h.ledger, List.length_append, List.length_singleton]
    · rw [hposition, Nat.add_sub_cancel]
      exact hlast
  unfold locateTraceEvent
  simp only [h.traceEvents_eq, List.filter_append, hids, hsources, hsequences, List.nil_append,
    List.filter_cons, List.filter_nil, hidentity, hsource, hsequence, decide_true, if_true]
  rw [h.traceEvents_eq] at hnumbered
  rw [raiseIf_bind_of_not, raiseIf_bind_of_not]
  · rfl
  · rw [not_or, not_not, not_not]
    exact ⟨henvelope, h.event⟩
  · simp only [not_or, not_not]
    refine ⟨trivial, trivial, trivial, hnumbered, List.getLast?_concat⟩

/-- The next input is not read back. -/
theorem NextInput.locate_eq (hlive : s.Live) (hnext : NextInput s input expectedSequence) :
    locateTraceEvent (s input.draft.runId).slot.ledger input expectedSequence = .ok none := by
  have hindexed := (hlive.live input.draft.runId).indexed
  have hids : (traceEvents (s input.draft.runId).slot.ledger).filter
      (fun item => item.event.eventId = input.expectedEventId) = [] :=
    List.filter_eq_nil_iff.mpr fun item hitem => by simpa using hnext.identity item hitem
  have hsources : (traceEvents (s input.draft.runId).slot.ledger).filter
      (fun item => item.event.sourceEventId = input.draft.sourceEventId) = [] :=
    List.filter_eq_nil_iff.mpr fun item hitem => by simpa using hnext.source item hitem
  have hsequences : (traceEvents (s input.draft.runId).slot.ledger).filter
      (fun item => item.event.sequence = expectedSequence) = [] := by
    refine List.filter_eq_nil_iff.mpr fun item hitem heq => ?_
    have hmem := List.mem_map_of_mem (f := fun item : PersistedTraceEvent => item.event.sequence) hitem
    have hlength := congrArg List.length hindexed.indexed.numbered
    rw [List.length_map, List.length_range'] at hlength
    rw [hindexed.indexed.numbered, ← hlength, List.mem_range'_1] at hmem
    have hnumber := hnext.number
    have heq := of_decide_eq_true heq
    omega
  unfold locateTraceEvent
  simp only [hids, hsources, hsequences]
  rw [raiseIf_bind_of_not (by simp)]
  rfl

/-! ## Traces -/

/-- What is observed of a driver. -/
structure TraceLog where
  /-- The inputs whose append was asked for. -/
  appended : List FixedStepTraceInput := []
  /-- The decisions whose write was asked for. -/
  decided : List InvocationDecision := []
  /-- The boundaries whose callback was invoked. -/
  called : List FixedStepTraceBoundary := []
  /-- A cancellation was received while a write was in flight. -/
  interrupted : Bool := false
  /-- A ledger was not read back. -/
  unread : Bool := false
  /-- Something that is not a write raised an exception. -/
  refused : Bool := false
  /-- A read or a projection was cancelled. -/
  halted : Bool := false

/-- An exception, and no cancellation. -/
def isRaised {α : Type} : Except TraceError α → Bool
  | .ok _ | .error .cancelled => false
  | .error _ => true

def isCancelled {α : Type} : Except TraceError α → Bool
  | .error .cancelled => true
  | _ => false

/-- A ledger, or that there is none. -/
def isRead {α : Type} : Except TraceError α → Bool
  | .ok _ | .error (.repository (.runNotFound _)) => true
  | .error _ => false

/-- A log in which what was awaited may have failed. -/
def TraceLog.failed {α : Type} (g : TraceLog) (reply : Except TraceError α) : TraceLog :=
  { g with refused := g.refused || isRaised reply, halted := g.halted || isCancelled reply }

/-- A log in which a ledger was not read back. -/
def TraceLog.unanswered (g : TraceLog) (raised : Bool) : TraceLog :=
  { g with unread := true, refused := g.refused || raised, halted := g.halted || !raised }

/-- The answer to a request is observed. -/
def TraceLog.observe (g : TraceLog) : (request : TraceRequest) → Except TraceError request.Reply → TraceLog
  | .append input, .ok done =>
    { g with appended := g.appended ++ [input], interrupted := g.interrupted || done.interrupted }
  | .recordInvocationDecision decision, .ok done =>
    { g with decided := g.decided ++ [decision], interrupted := g.interrupted || done.interrupted }
  | .readBack _, .ok done => if isRead done.outcome then g else g.unanswered (isRaised done.outcome)
  | .ledger _, reply => if isRead reply then g else g.failed reply
  | .callback boundary, reply =>
    { g with called := g.called ++ [boundary], refused := g.refused || isRaised reply }
  | _, reply => g.failed reply

theorem TraceLog.refused_unanswered (g : TraceLog) {raised : Bool} (h : raised = true) :
    (g.unanswered raised).refused = true := by
  show (g.refused || raised) = true
  rw [h, Bool.or_true]

theorem TraceLog.failed_unanswered (g : TraceLog) (raised : Bool) :
    (g.unanswered raised).refused = true ∨ (g.unanswered raised).halted = true := by
  cases raised with
  | true => exact .inl (g.refused_unanswered rfl)
  | false => exact .inr (Bool.or_true _)

variable [Redactor] [Serialization] {α : Type} {g : TraceLog}

/-- A driver alone with its repository. -/
abbrev traceSetting := Program.alone TraceRequest.answers TraceLog.observe fun _ _ _ => True

variable {post : Except TraceError α → Repository × TraceLog → Prop}

/-- One question, and what follows it. -/
theorem meets_request_bind {request : TraceRequest} {f : request.Reply → Tracing α}
    (hok : ∀ a t, request.answers s (.ok a) t → (f a).Meets traceSetting post (t, g.observe request (.ok a)))
    (herror : ∀ e t, request.answers s (.error e) t → post (.error e) (t, g.observe request (.error e))) :
    (request.ask >>= f).Meets traceSetting post (s, g) := by
  refine Program.meets_ask.mpr ⟨trivial, fun reply t h => ?_⟩
  cases reply with
  | ok a => exact hok a t h
  | error e => exact Program.meets_raise.mpr (herror e t h)

/-- A task that reads the ledger back, when it is known what an answer comes to. -/
theorem meets_readBack {β : Type} {runId : UUID4}
    (locate : Except TraceError (List LedgerEntry) → Except TraceError β) {f : β × Bool → Tracing α} (found : β)
    (hread : ∀ outcome, ReadAnswers t runId outcome → isRead outcome = true → locate outcome = .ok found)
    (hfailed : ∀ e, isRead (.error e : Except TraceError (List LedgerEntry)) = false → locate (.error e) = .error e)
    (hfound : ∀ cancelled, (f (found, cancelled)).Meets traceSetting post (t, g))
    (hlost : ∀ e raised, (e = .cancelled ∨ raised = true) → post (.error e) (t, g.unanswered raised)) :
    ((do
      let done ← (TraceRequest.readBack runId).ask
      let read ← .lift (completeBoundary ⟨locate done.outcome, done.cancellations⟩)
      f read) : Tracing α).Meets traceSetting post (t, g) := by
  refine meets_request_bind (fun done u hanswers => ?_) fun e u hanswers => ?_
  · obtain ⟨rfl, done', hdone, hreads⟩ := hanswers
    cases hdone
    cases hanswered : isRead done.outcome with
    | true =>
      have hlog : g.observe (.readBack runId) (.ok done) = g := if_pos hanswered
      rw [hlog, hread _ hreads hanswered]
      exact hfound _
    | false =>
      have hlog : g.observe (.readBack runId) (.ok done) = g.unanswered (isRaised done.outcome) :=
        if_neg (by rw [hanswered]; simp)
      rw [hlog]
      match houtcome : done.outcome with
      | .ok ledger =>
        rw [houtcome] at hanswered
        cases hanswered
      | .error e =>
        rw [houtcome] at hanswered
        rw [hfailed e hanswered]
        refine Program.meets_lift_bind.mpr ⟨fun _ hok => ?_, fun e' he' => ?_⟩
        · unfold completeBoundary at hok
          split at hok
          · next h => cases h
          · cases hok
          · split at hok <;> cases hok
        · refine hlost e' _ ?_
          cases e with
          | cancelled => exact .inl (Except.error.inj he').symm
          | _ => exact .inr rfl
  · obtain ⟨-, done, hdone, -⟩ := hanswers
    cases hdone

/-! ## Events -/

/-- The run of an input as it was before its append, or with its event. -/
inductive Written (s : Repository) (input : FixedStepTraceInput) (expectedSequence : ℕ) :
    Option PersistedTraceEvent → Repository → Prop where
  | nothing : Written s input expectedSequence none s
  | event {t : Repository} {persisted : PersistedTraceEvent} (h : EventStored s t input expectedSequence persisted) :
      Written s input expectedSequence (some persisted) t

/-- What was written is read back. -/
theorem meets_readTraceEvent (hlive : s.Live) (hnext : NextInput s input expectedSequence)
    {found : Option PersistedTraceEvent} (hwritten : Written s input expectedSequence found t)
    {f : Option PersistedTraceEvent × Bool → Tracing α}
    (hfound : ∀ cancelled, (f (found, cancelled)).Meets traceSetting post (t, g))
    (hlost : ∀ e raised, (e = .cancelled ∨ raised = true) → post (.error e) (t, g.unanswered raised)) :
    (readTraceEvent input expectedSequence >>= f).Meets traceSetting post (t, g) := by
  unfold readTraceEvent
  rw [Program.bind_assoc]
  refine meets_readBack (fun read => authoritativeTraceEvent read input expectedSequence) found
    (fun outcome hreads hanswered => ?_) (fun e hunread => ?_) hfound hlost
  · cases hreads with
    | found =>
      cases hwritten with
      | nothing => exact hnext.locate_eq hlive
      | event h => exact h.locate_eq hnext
    | missing hempty =>
      cases hwritten with
      | nothing => rfl
      | event h =>
        rw [h.ledger] at hempty
        exact absurd hempty (List.append_ne_nil_of_right_ne_nil _ (List.cons_ne_nil _ _))
    | failed e hfailed =>
      unfold isRead at hanswered
      split at hanswered
      · next h => cases h
      · next h =>
        cases h
        exact absurd rfl (hfailed _)
      · cases hanswered
  · unfold authoritativeTraceEvent
    split
    · next h =>
      cases h
      cases hunread
    · next h =>
      cases h
      rfl
    · next h => cases h

/-- What is left of the append of an input: its event is stored and returned, unless the ledger was not
read back, or nothing is stored; and a cancellation of the write is not lost. -/
structure AppendReconciled (s : Repository) (g : TraceLog) (input : FixedStepTraceInput) (expectedSequence : ℕ)
    (result : Except TraceError (PersistedTraceEvent × Bool)) (u : Repository × TraceLog) : Prop where
  appended : u.2.appended = g.appended ++ [input]
  called : u.2.called = g.called
  stored : (u.1 = s ∧ ∃ e, result = .error e)
    ∨ ∃ persisted, EventStored s u.1 input expectedSequence persisted
      ∧ ((∃ cancelled, result = .ok (persisted, cancelled))
        ∨ (∃ e, result = .error e) ∧ u.2.unread = true ∧ (u.2.refused = true ∨ u.2.halted = true))
  interrupted : u.2.interrupted = true → (∃ persisted, result = .ok (persisted, true))
    ∨ ∃ e, result = .error e ∧ (e = .cancelled ∨ u.2.refused = true)

/-- An append whose receipt is lost is looked up in the ledger. -/
theorem meets_lostAppend (hlive : s.Live) (hnext : NextInput s input expectedSequence)
    {found : Option PersistedTraceEvent} (hwritten : Written s input expectedSequence found t)
    {k : TraceLog} (happended : k.appended = g.appended ++ [input]) (hcalled : k.called = g.called)
    (flag : Bool → Bool) (error : Bool → TraceError)
    (hflag : ∀ read, k.interrupted = true → flag read = true ∧ error read = .cancelled) :
    ((do
      let read ← readTraceEvent input expectedSequence
      match read.1 with
      | none => .raise (error read.2)
      | some persisted => pure (persisted, flag read.2)) : Tracing (PersistedTraceEvent × Bool)).Meets traceSetting
        (AppendReconciled s g input expectedSequence) (t, k) := by
  refine meets_readTraceEvent hlive hnext hwritten (fun cancelled => ?_) fun e raised he => ?_
  · cases hwritten with
    | nothing =>
      exact Program.meets_raise.mpr
        ⟨happended, hcalled, .inl ⟨rfl, _, rfl⟩, fun h => .inr ⟨_, rfl, .inl (hflag cancelled h).2⟩⟩
    | @event t persisted h =>
      refine Program.meets_done.mpr
        ⟨happended, hcalled, .inr ⟨_, h, .inl ⟨_, rfl⟩⟩, fun hint => .inl ⟨persisted, ?_⟩⟩
      rw [(hflag cancelled hint).1]
  · refine ⟨happended, hcalled, ?_, fun _ => ?_⟩
    · cases hwritten with
      | nothing => exact .inl ⟨rfl, e, rfl⟩
      | event h => exact .inr ⟨_, h, .inr ⟨⟨e, rfl⟩, rfl, k.failed_unanswered raised⟩⟩
    · exact .inr ⟨e, rfl, he.imp_right k.refused_unanswered⟩

omit [Hashing] [FixedStepProjections] [Integrity] [Redactor] [Serialization] in
/-- A task that fails is cancelled, or it was not interrupted. -/
theorem completeBoundary_error {β : Type} {done : Finished β} {e : TraceError} (h : done.outcome = .error e) :
    completeBoundary done = .error .cancelled
      ∨ e ≠ .cancelled ∧ completeBoundary done = .error e ∧ done.interrupted = false := by
  unfold completeBoundary Finished.interrupted
  rw [h]
  cases e with
  | cancelled => exact .inl rfl
  | _ =>
    by_cases hcancelled : done.cancellations = 0
    · exact .inr ⟨by simp, by simp [hcancelled], by simp [hcancelled]⟩
    · exact .inl (by simp [hcancelled])

omit [Hashing] [FixedStepProjections] [Integrity] [Redactor] [Serialization] in
theorem completeBoundary_ok {β : Type} {done : Finished β} {b : β} (h : done.outcome = .ok b) :
    completeBoundary done = .ok (b, done.interrupted) := by
  unfold completeBoundary Finished.interrupted
  rw [h]

/-- The append of the next input is reconciled. -/
theorem meets_appendReconciledTraceEvent (hlive : s.Live) (hnext : NextInput s input expectedSequence)
    (hquiet : g.interrupted = false) : (appendReconciledTraceEvent input expectedSequence).Meets traceSetting
      (AppendReconciled s g input expectedSequence) (s, g) := by
  unfold appendReconciledTraceEvent
  refine meets_request_bind (fun done t hanswers => ?_) fun e t hanswers => ?_
  swap
  · obtain ⟨done, newId, hdone, -⟩ := hanswers
    cases hdone
  obtain ⟨done', newId, hdone, hwrite⟩ := hanswers
  cases hdone
  have hinterrupted : (g.observe (.append input) (.ok done)).interrupted = done.interrupted := by
    show (g.interrupted || done.interrupted) = done.interrupted
    rw [hquiet, Bool.false_or]
  -- the outcome of the write, and what of it is in the ledger
  have houtcome : (∃ receipt persisted, done.outcome = .ok receipt
        ∧ EventStored s t input expectedSequence persisted ∧ receipt.disposition = .appended
        ∧ receipt.event = persisted.event ∧ receipt.ledgerPosition = persisted.entry.position
        ∧ receipt.ingestionCursor = expectedSequence)
      ∨ ∃ e found, done.outcome = .error e ∧ Written s input expectedSequence found t := by
    generalize done.outcome = outcome at hwrite
    cases hwrite with
    | returned h =>
      obtain ⟨persisted, hstored⟩ := append_stored hlive hnext h
      exact .inl ⟨_, persisted, rfl, hstored⟩
    | lost e h =>
      obtain ⟨persisted, hstored, -⟩ := append_stored hlive hnext h
      exact .inr ⟨e, some persisted, rfl, .event hstored⟩
    | refused e => exact .inr ⟨e, none, rfl, .nothing⟩
  rcases houtcome with ⟨receipt, persisted, hok, hstored, hdisposition, hevent, hposition, hcursor⟩
    | ⟨e, found, herror, hwritten⟩
  · obtain ⟨hidentity, -, hsequence, -⟩ := hstored.event
    have hexpected : isExpectedAppend receipt input expectedSequence :=
      ⟨hdisposition, by rw [hevent, hidentity], by rw [hevent, hsequence], hcursor⟩
    rw [completeBoundary_ok hok]
    refine Program.meets_lift_of_ok (b := ()) (if_neg (not_not.mpr hexpected)) ?_
    refine meets_readTraceEvent hlive hnext (.event hstored) (fun cancelled => ?_) fun e raised he => ?_
    · refine Program.meets_lift_of_ok (b := ()) (if_neg ?_) (Program.meets_done.mpr ?_)
      · rw [hevent, hposition]
        exact fun h => h.elim (· rfl) (· rfl)
      · refine ⟨rfl, rfl, .inr ⟨_, hstored, .inl ⟨_, rfl⟩⟩, fun h => .inl ⟨persisted, ?_⟩⟩
        rw [← hinterrupted, h, Bool.true_or]
    · exact ⟨rfl, rfl, .inr ⟨_, hstored, .inr ⟨⟨e, rfl⟩, rfl, TraceLog.failed_unanswered _ raised⟩⟩,
        fun _ => .inr ⟨e, rfl, he.imp_right (TraceLog.refused_unanswered _)⟩⟩
  · rcases completeBoundary_error herror with hcancelled | ⟨hraised, hfailed, hcalm⟩
    · rw [hcancelled]
      exact meets_lostAppend (g := g) (k := g.observe (.append input) (.ok done)) hlive hnext hwritten rfl rfl (fun _ => true) (fun _ => .cancelled)
        fun _ _ => ⟨rfl, rfl⟩
    · rw [hfailed]
      have hnever : ∀ read : Bool, (g.observe (.append input) (.ok done)).interrupted = true →
          read = true ∧ (if read then TraceError.cancelled else .input) = .cancelled := by
        intro read h
        rw [hinterrupted, hcalm] at h
        cases h
      cases e with
      | cancelled => exact absurd rfl hraised
      | _ =>
        exact meets_lostAppend (g := g) (k := g.observe (.append input) (.ok done)) hlive hnext hwritten rfl rfl id (fun read => if read then .cancelled else .input)
          hnever

/-! ## Decisions -/

/-- The number of decisions of a run that are a given one. -/
def matchingDecisions (s : Repository) (decision : InvocationDecision) : ℕ :=
  (invocationDecisions (s decision.runId).slot.ledger).countP fun item => item.1 = decision

/-- A decision is the next one of its run: its run is there, and no decision has its identity or is about
its event. -/
structure NextDecision (s : Repository) (decision : InvocationDecision) : Prop where
  run : (s decision.runId).slot.ledger ≠ []
  identity : ∀ item ∈ invocationDecisions (s decision.runId).slot.ledger,
    item.1.decisionId ≠ decision.decisionId
  event : ∀ item ∈ invocationDecisions (s decision.runId).slot.ledger,
    item.1.eventSequence ≠ decision.eventSequence

/-- A decision was stored at the end of its run. -/
structure StoredDecision (s t : Repository) (decision : InvocationDecision) (entry : LedgerEntry) : Prop where
  live : t.Live
  ledger : (t decision.runId).slot.ledger = (s decision.runId).slot.ledger ++ [entry]
  record : entry.record = .invocationDecision decision

variable {decision : InvocationDecision} {entry : LedgerEntry}

/-- A write of the next decision that returns stores it. -/
theorem recordInvocationDecision_stored (hlive : s.Live) (hnext : NextDecision s decision)
    {receipt : LedgerReceipt} (h : recordInvocationDecision (.exact decision) s = .ok receipt t) :
    ∃ entry, StoredDecision s t decision entry ∧ receipt = .ofEntry entry decision.decisionId := by
  have hextends : EndsIn (recordInvocationDecision (.exact decision)) s (OnEach Extended s) :=
    submitted_endsIn hlive fun _ => recordDirect_endsIn hlive
  have hlater : t.Live := hlive.continued fun id => (hextends.ok _ _ h id).continued
  unfold recordInvocationDecision at h
  obtain ⟨validated, hvalidated, h⟩ := lift_bind_eq_ok.mp h
  cases pure_eq_ok.mp hvalidated
  obtain ⟨-, h⟩ := Stateful.check_bind_eq_ok.mp h
  unfold recordDirect at h
  obtain ⟨u, hrun, rfl⟩ := onRun_eq_ok.mp h
  rw [get_bind] at hrun
  obtain ⟨-, hrun⟩ := Stateful.check_bind_eq_ok.mp hrun
  rcases recordDirectLocked_eq_ok hrun with ⟨-, existing, hexisting, -⟩ | ⟨-, staged, hstaged, hreceipt, rfl⟩
  · -- a record under its identity would be a decision of the ledger
    obtain ⟨entry, hentry, hrecord⟩ := (hlive.live decision.runId).indexed.direct _ _ hexisting
    refine absurd rfl (hnext.identity (decision, entry) ?_)
    exact List.mem_filterMap.mpr ⟨entry, hentry, by rw [hrecord]; rfl⟩
  · refine ⟨staged.entry, ⟨hlater, ?_, hstaged.record_eq⟩, hreceipt⟩
    show (Function.update s decision.runId _ decision.runId).slot.ledger = _
    rw [Function.update_self]
    rfl

omit [FixedStepProjections] [Integrity] [Redactor] [Serialization] in
/-- Before its write, no decision is the next one. -/
theorem matchingDecisions_next (hnext : NextDecision s decision) : matchingDecisions s decision = 0 := by
  unfold matchingDecisions
  rw [List.countP_eq_zero]
  intro item hitem heq
  have hsame : item.1 = decision := of_decide_eq_true heq
  exact hnext.identity item hitem (by rw [hsame])

omit [FixedStepProjections] [Redactor] [Serialization] in
theorem StoredDecision.invocationDecisions_eq (h : StoredDecision s t decision entry) :
    invocationDecisions (t decision.runId).slot.ledger
      = invocationDecisions (s decision.runId).slot.ledger ++ [(decision, entry)] := by
  rw [h.ledger, invocationDecisions_append, invocationDecisions_decision h.record]

omit [FixedStepProjections] [Redactor] [Serialization] in
/-- After it was stored, one is. -/
theorem StoredDecision.matchingDecisions_eq (h : StoredDecision s t decision entry)
    (hnext : NextDecision s decision) : matchingDecisions t decision = 1 := by
  have hbefore := matchingDecisions_next hnext
  unfold matchingDecisions at hbefore ⊢
  rw [h.invocationDecisions_eq, List.countP_append, hbefore, List.countP_singleton,
    if_pos (decide_eq_true rfl)]

omit [FixedStepProjections] [Integrity] [Redactor] [Serialization] in
theorem NextDecision.filter_eq (hnext : NextDecision s decision) :
    (invocationDecisions (s decision.runId).slot.ledger).filter
        (fun item => item.1.decisionId = decision.decisionId) = []
      ∧ (invocationDecisions (s decision.runId).slot.ledger).filter
        (fun item => item.1.eventSequence = decision.eventSequence) = [] :=
  ⟨List.filter_eq_nil_iff.mpr fun item hitem => by simpa using hnext.identity item hitem,
    List.filter_eq_nil_iff.mpr fun item hitem => by simpa using hnext.event item hitem⟩

omit [FixedStepProjections] [Integrity] [Redactor] [Serialization] in
/-- The next decision is not read back. -/
theorem NextDecision.locate_eq (hnext : NextDecision s decision) :
    locateInvocationDecision (s decision.runId).slot.ledger decision = .ok none := by
  obtain ⟨hids, hevents⟩ := hnext.filter_eq
  unfold locateInvocationDecision
  simp only [hids, hevents]
  rw [raiseIf_bind_of_not (by simp)]
  rfl

omit [FixedStepProjections] [Redactor] [Serialization] in
/-- A decision that was stored is read back. -/
theorem StoredDecision.locate_eq (h : StoredDecision s t decision entry) (hnext : NextDecision s decision) :
    locateInvocationDecision (t decision.runId).slot.ledger decision
      = .ok (some (LedgerReceipt.ofEntry entry decision.decisionId).repeated) := by
  obtain ⟨hids, hevents⟩ := hnext.filter_eq
  have henvelope : entryHasExactEnvelope (t decision.runId).slot.ledger entry
      ("invocation_decision:" ++ decision.decisionId.toString) := by
    have hlast : (t decision.runId).slot.ledger[(s decision.runId).slot.ledger.length]? = some entry := by
      rw [h.ledger, List.getElem?_concat_length]
    obtain ⟨hposition, hkey⟩ := (h.live.live decision.runId).indexed.placed _ _ hlast
    refine ⟨?_, by omega, ?_, ?_⟩
    · rw [hkey, h.record]
      rfl
    · rw [hposition, h.ledger, List.length_append, List.length_singleton]
    · rw [hposition, Nat.add_sub_cancel]
      exact hlast
  unfold locateInvocationDecision
  simp only [h.invocationDecisions_eq, List.filter_append, hids, hevents, List.nil_append, List.filter_cons,
    List.filter_nil, decide_true, if_true]
  rw [raiseIf_bind_of_not (by simp), raiseIf_bind_of_not (not_not.mpr henvelope)]
  rfl

/-- The run of a decision as it was before its write, or with its decision. -/
inductive WrittenDecision (s : Repository) (decision : InvocationDecision) :
    Option LedgerReceipt → Repository → Prop where
  | nothing : WrittenDecision s decision none s
  | decision {t : Repository} {entry : LedgerEntry} (h : StoredDecision s t decision entry) :
      WrittenDecision s decision (some (LedgerReceipt.ofEntry entry decision.decisionId).repeated) t

/-- What was written is read back. -/
theorem meets_readInvocationDecision (hnext : NextDecision s decision) {found : Option LedgerReceipt}
    (hwritten : WrittenDecision s decision found t) {f : Option LedgerReceipt × Bool → Tracing α}
    (hfound : ∀ cancelled, (f (found, cancelled)).Meets traceSetting post (t, g))
    (hlost : ∀ e raised, (e = .cancelled ∨ raised = true) → post (.error e) (t, g.unanswered raised)) :
    (readInvocationDecision decision >>= f).Meets traceSetting post (t, g) := by
  unfold readInvocationDecision
  rw [Program.bind_assoc]
  refine meets_readBack (fun read => read.bind fun ledger => locateInvocationDecision ledger decision) found
    (fun outcome hreads hanswered => ?_) (fun e hunread => rfl) hfound hlost
  cases hreads with
  | found =>
    cases hwritten with
    | nothing => exact hnext.locate_eq
    | decision h => exact h.locate_eq hnext
  | missing hempty =>
    cases hwritten with
    | nothing => exact absurd hempty hnext.run
    | decision h =>
      rw [h.ledger] at hempty
      exact absurd hempty (List.append_ne_nil_of_right_ne_nil _ (List.cons_ne_nil _ _))
  | failed e hfailed =>
    unfold isRead at hanswered
    split at hanswered
    · next h => cases h
    · next h =>
      cases h
      exact absurd rfl (hfailed _)
    · cases hanswered

/-- What is left of the write of a decision: the decision is stored, and a receipt of it is returned, unless
the ledger was not read back, or nothing is stored; and a cancellation of the write is not lost. -/
structure DecisionReconciled (s : Repository) (g : TraceLog) (decision : InvocationDecision)
    (result : Except TraceError (LedgerReceipt × Bool)) (u : Repository × TraceLog) : Prop where
  decided : u.2.decided = g.decided ++ [decision]
  stored : (u.1 = s ∧ ∃ e, result = .error e)
    ∨ ∃ entry, StoredDecision s u.1 decision entry
      ∧ ((∃ receipt cancelled, result = .ok (receipt, cancelled)
          ∧ receipt.repeated = (LedgerReceipt.ofEntry entry decision.decisionId).repeated)
        ∨ (∃ e, result = .error e) ∧ u.2.unread = true)
  interrupted : u.2.interrupted = true → (∃ receipt, result = .ok (receipt, true))
    ∨ ∃ e, result = .error e ∧ (e = .cancelled ∨ u.2.refused = true)

/-- A write of a decision whose receipt is lost is looked up in the ledger. -/
theorem meets_lostDecision (hnext : NextDecision s decision) {found : Option LedgerReceipt}
    (hwritten : WrittenDecision s decision found t) {k : TraceLog}
    (hdecided : k.decided = g.decided ++ [decision]) (flag : Bool → Bool) (error : Bool → TraceError)
    (hflag : ∀ read, k.interrupted = true → flag read = true ∧ error read = .cancelled) :
    ((do
      let read ← readInvocationDecision decision
      match read.1 with
      | none => .raise (error read.2)
      | some reconciled => pure (reconciled, flag read.2)) : Tracing (LedgerReceipt × Bool)).Meets traceSetting
        (DecisionReconciled s g decision) (t, k) := by
  refine meets_readInvocationDecision hnext hwritten (fun cancelled => ?_) fun e raised he => ?_
  · cases hwritten with
    | nothing =>
      exact Program.meets_raise.mpr
        ⟨hdecided, .inl ⟨rfl, _, rfl⟩, fun h => .inr ⟨_, rfl, .inl (hflag cancelled h).2⟩⟩
    | @decision t entry h =>
      refine Program.meets_done.mpr ⟨hdecided, .inr ⟨_, h, .inl ⟨_, _, rfl, rfl⟩⟩, fun hint => .inl
        ⟨(LedgerReceipt.ofEntry entry decision.decisionId).repeated, ?_⟩⟩
      rw [(hflag cancelled hint).1]
  · refine ⟨hdecided, ?_, fun _ => ?_⟩
    · cases hwritten with
      | nothing => exact .inl ⟨rfl, e, rfl⟩
      | decision h => exact .inr ⟨_, h, .inr ⟨⟨e, rfl⟩, rfl⟩⟩
    · exact .inr ⟨e, rfl, he.imp_right k.refused_unanswered⟩

/-- The write of the next decision is reconciled. -/
theorem meets_recordReconciledInvocationDecision (hlive : s.Live) (hnext : NextDecision s decision)
    (hquiet : g.interrupted = false) : (recordReconciledInvocationDecision decision).Meets traceSetting
      (DecisionReconciled s g decision) (s, g) := by
  unfold recordReconciledInvocationDecision
  refine meets_request_bind (fun done t hanswers => ?_) fun e t hanswers => ?_
  swap
  · obtain ⟨done, hdone, -⟩ := hanswers
    cases hdone
  obtain ⟨done', hdone, hwrite⟩ := hanswers
  cases hdone
  have hinterrupted : (g.observe (.recordInvocationDecision decision) (.ok done)).interrupted
      = done.interrupted := by
    show (g.interrupted || done.interrupted) = done.interrupted
    rw [hquiet, Bool.false_or]
  -- the outcome of the write, and what of it is in the ledger
  have houtcome : (∃ entry, done.outcome = .ok (.ofEntry entry decision.decisionId)
        ∧ StoredDecision s t decision entry)
      ∨ ∃ e found, done.outcome = .error e ∧ WrittenDecision s decision found t := by
    generalize done.outcome = outcome at hwrite
    cases hwrite with
    | returned h =>
      obtain ⟨entry, hstored, rfl⟩ := recordInvocationDecision_stored hlive hnext h
      exact .inl ⟨entry, rfl, hstored⟩
    | lost e h =>
      obtain ⟨entry, hstored, -⟩ := recordInvocationDecision_stored hlive hnext h
      exact .inr ⟨e, _, rfl, .decision hstored⟩
    | refused e => exact .inr ⟨e, none, rfl, .nothing⟩
  rcases houtcome with ⟨entry, hok, hstored⟩ | ⟨e, found, herror, hwritten⟩
  · rw [completeBoundary_ok hok]
    refine Program.meets_lift_of_ok (b := ()) rfl ?_
    refine meets_readInvocationDecision hnext (.decision hstored) (fun cancelled => ?_) fun e raised he => ?_
    · refine Program.meets_lift_of_ok (b := ()) (if_neg (not_not.mpr rfl)) (Program.meets_done.mpr ?_)
      refine ⟨rfl, .inr ⟨_, hstored, .inl ⟨_, _, rfl, rfl⟩⟩, fun h => .inl
        ⟨.ofEntry entry decision.decisionId, ?_⟩⟩
      rw [← hinterrupted, h, Bool.true_or]
    · exact ⟨rfl, .inr ⟨_, hstored, .inr ⟨⟨e, rfl⟩, rfl⟩⟩,
        fun _ => .inr ⟨e, rfl, he.imp_right (TraceLog.refused_unanswered _)⟩⟩
  · rcases completeBoundary_error herror with hcancelled | ⟨hraised, hfailed, hcalm⟩
    · rw [hcancelled]
      exact meets_lostDecision (g := g) (k := g.observe (.recordInvocationDecision decision) (.ok done)) hnext
        hwritten rfl (fun _ => true) (fun _ => .cancelled) fun _ _ => ⟨rfl, rfl⟩
    · rw [hfailed]
      have hnever : ∀ read : Bool,
          (g.observe (.recordInvocationDecision decision) (.ok done)).interrupted = true →
            read = true ∧ (if read then TraceError.cancelled else .invariant) = .cancelled := by
        intro read h
        rw [hinterrupted, hcalm] at h
        cases h
      cases e with
      | cancelled => exact absurd rfl hraised
      | _ =>
        exact meets_lostDecision (g := g) (k := g.observe (.recordInvocationDecision decision) (.ok done)) hnext
          hwritten rfl id (fun read => if read then .cancelled else .invariant) hnever

end SalienceGate
