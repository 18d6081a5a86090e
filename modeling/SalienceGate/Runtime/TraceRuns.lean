import SalienceGate.Repository.Equivalence
import SalienceGate.Runtime.Reconciled

/-!
# Runs of the trace driver

However the writes of a run end, its events are those of the first inputs, numbered from one, and the
callback was invoked once for each of them, or for each but the last. A write that was cancelled ends the
run after the callback of its event, unless something else fails first.
-/

namespace SalienceGate

open Checked
open Stateful hiding bind_eq_ok check_bind_eq_ok raiseIf_bind_eq_ok expect_bind_eq_ok

section

variable [Hashing] [FixedStepProjections]

/-! ## Inputs -/

/-- The inputs of a run, as its callers check them. -/
structure TraceInputs (runId : UUID4) (inputs : List FixedStepTraceInput) : Prop where
  run : ∀ input ∈ inputs, input.draft.runId = runId
  identities : (inputs.map (·.expectedEventId)).Nodup
  sources : (inputs.map (·.draft.sourceEventId)).Nodup

variable [Integrity] {runId : UUID4} {inputs processed rest : List FixedStepTraceInput}
  {input : FixedStepTraceInput} {s t : Repository} {g : TraceLog} {k m : ℕ}

/-- The events of a run. -/
def runEvents (s : Repository) (runId : UUID4) : List TraceEvent :=
  (traceEvents (s runId).slot.ledger).map (·.event)

/-- A run of which the events of `k` inputs are stored, and the callback was invoked for `m` of them. -/
structure Boundaries (runId : UUID4) (inputs : List FixedStepTraceInput) (s : Repository) (g : TraceLog)
    (k m : ℕ) : Prop where
  bound : k ≤ inputs.length
  /-- Every append was asked for once, in the order of the inputs. -/
  appended : ∃ asked, g.appended = inputs.take asked ∧ k ≤ asked
  numbered : (runEvents s runId).map (·.sequence) = List.range' 1 k
  identities : (runEvents s runId).map (·.eventId) = (inputs.take k).map (·.expectedEventId)
  sources : (runEvents s runId).map (·.sourceEventId) = (inputs.take k).map (·.draft.sourceEventId)
  ordinals : g.called.map (·.ordinal) = List.range' 1 m
  called : g.called.map (·.event) = (runEvents s runId).take m

/-- How a run ends. -/
def TraceEnds {α : Type} (runId : UUID4) (inputs : List FixedStepTraceInput) (result : Except TraceError α)
    (u : Repository × TraceLog) : Prop :=
  ∃ k m, Boundaries runId inputs u.1 u.2 k m ∧ (m = k ∨ m + 1 = k)
    ∧ (u.2.interrupted = true → u.2.refused = false →
      result = .error .cancelled ∧ (u.2.halted = false → m = k))

/-- Between two rounds of the loop: the inputs so far are stored and called back, and no write was
interrupted. -/
structure BetweenRounds (runId : UUID4) (inputs processed : List FixedStepTraceInput) (s : Repository)
    (g : TraceLog) : Prop where
  live : s.Live
  boundaries : Boundaries runId inputs s g processed.length processed.length
  appended : g.appended = processed
  quiet : g.interrupted = false

omit [Integrity] in
theorem Boundaries.length_eq (h : Boundaries runId inputs s g k m) : (runEvents s runId).length = k := by
  have hlength := congrArg List.length h.numbered
  rw [List.length_map, List.length_range'] at hlength
  exact hlength

omit [FixedStepProjections] in
theorem runEvents_of_elaborates (h : Elaborates runId s t) : runEvents t runId = runEvents s runId := by
  obtain ⟨more, hledger, hnone⟩ := h.ledger
  unfold runEvents
  rw [hledger, traceEvents_append, hnone, List.append_nil]

/-- Between two rounds, the next input is new to its run. -/
theorem BetweenRounds.next (h : BetweenRounds runId inputs processed s g)
    (hinputs : TraceInputs runId inputs) (hsplit : inputs = processed ++ input :: rest) :
    NextInput s input (processed.length + 1) := by
  have hrun : input.draft.runId = runId :=
    hinputs.run input (by rw [hsplit]; exact List.mem_append_right _ List.mem_cons_self)
  have htake : inputs.take processed.length = processed := by
    rw [hsplit, List.take_left]
  have hlength := h.boundaries.length_eq
  have hids := h.boundaries.identities
  have hsources := h.boundaries.sources
  have hnodup := hinputs.identities
  have hnodup' := hinputs.sources
  rw [htake] at hids hsources
  rw [hsplit, List.map_append, List.nodup_append] at hnodup hnodup'
  unfold runEvents at hlength hids hsources
  rw [List.length_map] at hlength
  rw [List.map_map] at hids hsources
  constructor
  · rw [hrun, hlength]
  · intro item hitem heq
    rw [hrun] at hitem
    have hmem := List.mem_map_of_mem (f := (fun event : TraceEvent => event.eventId) ∘ (·.event)) hitem
    rw [hids] at hmem
    exact hnodup.2.2 _ hmem _ List.mem_cons_self heq
  · intro item hitem heq
    rw [hrun] at hitem
    have hmem := List.mem_map_of_mem (f := (fun event : TraceEvent => event.sourceEventId) ∘ (·.event)) hitem
    rw [hsources] at hmem
    exact hnodup'.2.2 _ hmem _ List.mem_cons_self heq

/-- The event of the next input is the next event. -/
theorem Boundaries.stored (h : Boundaries runId inputs s g processed.length m)
    (hinputs : TraceInputs runId inputs) (hsplit : inputs = processed ++ input :: rest)
    {persisted : PersistedTraceEvent} (hstored : EventStored s t input (processed.length + 1) persisted)
    (hm : m ≤ processed.length) {g' : TraceLog} (happended : g'.appended = processed ++ [input])
    (hcalled : g'.called = g.called) :
    Boundaries runId inputs t g' (processed.length + 1) m
      ∧ runEvents t runId = runEvents s runId ++ [persisted.event] := by
  have hrun : input.draft.runId = runId :=
    hinputs.run input (by rw [hsplit]; exact List.mem_append_right _ List.mem_cons_self)
  obtain ⟨hidentity, -, hsequence, hsource, -⟩ := hstored.event
  have hevents : runEvents t runId = runEvents s runId ++ [persisted.event] := by
    unfold runEvents
    rw [← hrun, hstored.traceEvents_eq, List.map_append, List.map_singleton]
  have htake : inputs.take (processed.length + 1) = processed ++ [input] := by
    rw [hsplit, List.take_length_add_append, List.take_succ_cons, List.take_zero]
  have hbefore : inputs.take processed.length = processed := by
    rw [hsplit, List.take_left]
  have hids := h.identities
  have hsources := h.sources
  rw [hbefore] at hids hsources
  refine ⟨⟨?_, ⟨processed.length + 1, by rw [happended, htake], le_rfl⟩, ?_, ?_, ?_, ?_, ?_⟩, hevents⟩
  · rw [hsplit, List.length_append, List.length_cons]
    omega
  · rw [hevents, List.map_append, h.numbered, List.map_singleton, hsequence, List.range'_concat]
    simp [Nat.add_comm]
  · rw [hevents, htake, List.map_append, List.map_append, hids, List.map_singleton, List.map_singleton,
      hidentity]
  · rw [hevents, htake, List.map_append, List.map_append, hsources, List.map_singleton, List.map_singleton,
      hsource]
  · rw [hcalled, h.ordinals]
  · rw [hcalled, h.called, hevents, List.take_append_of_le_length]
    rw [h.length_eq]
    exact hm

/-! ## Rounds -/

variable [Redactor] [Serialization] {α : Type} {post : Except TraceError α → Repository × TraceLog → Prop}

omit [Hashing] [Integrity] [Redactor] [Serialization] in
theorem TraceLog.failed_ok {β : Type} (g : TraceLog) (b : β) :
    g.failed (.ok b : Except TraceError β) = g := by
  unfold TraceLog.failed isRaised isCancelled
  rw [Bool.or_false, Bool.or_false]

omit [Hashing] [Integrity] [Redactor] [Serialization] in
/-- What fails is cancelled, or it is seen that it failed. -/
theorem TraceLog.failed_error {β : Type} (g : TraceLog) (e : TraceError) :
    e = .cancelled ∧ (g.failed (.error e : Except TraceError β)).halted = true
      ∨ (g.failed (.error e : Except TraceError β)).refused = true := by
  cases e with
  | cancelled => exact .inl ⟨rfl, Bool.or_true _⟩
  | _ => exact .inr (Bool.or_true _)

omit [Integrity] [Redactor] [Serialization] in
/-- A run ends when something fails that is no write. -/
theorem Boundaries.ends_failed {β : Type} (h : Boundaries runId inputs s g k m) (hm : m = k ∨ m + 1 = k)
    (e : TraceError) {e' : TraceError} (he : e = .cancelled → e' = .cancelled) :
    TraceEnds runId inputs (.error e' : Except TraceError α) (s, g.failed (.error e : Except TraceError β)) := by
  refine ⟨k, m, ⟨h.bound, h.appended, h.numbered, h.identities, h.sources, h.ordinals, h.called⟩, hm,
    fun _ hrefused => ?_⟩
  rcases g.failed_error (β := β) e with ⟨hcancelled, hhalted⟩ | hraised
  · exact ⟨by rw [he hcancelled], fun hcalm => absurd hhalted (by rw [hcalm]; exact Bool.false_ne_true)⟩
  · exact absurd hraised (by rw [hrefused]; exact Bool.false_ne_true)

/-- A request that leaves the state as it is, and of which only a failure is observed. -/
theorem meets_projection {request : TraceRequest} {f : request.Reply → Tracing α}
    (hanswers : ∀ reply t, request.answers s reply t → t = s)
    (hobserve : ∀ reply, g.observe request reply = g.failed reply)
    (hok : ∀ a, (f a).Meets traceSetting post (s, g))
    (herror : ∀ e, post (.error e) (s, g.failed (.error e : Except TraceError request.Reply))) :
    (request.ask >>= f).Meets traceSetting post (s, g) := by
  refine meets_request_bind (fun a t h => ?_) fun e t h => ?_
  · rw [hanswers _ _ h, hobserve, g.failed_ok]
    exact hok a
  · rw [hanswers _ _ h, hobserve]
    exact herror e

omit [Integrity] [Redactor] [Serialization] in
theorem map_ask_bind {β : Type} {request : TraceRequest} {w : request.Reply → β} {f : β → Tracing α} :
    (w <$> request.ask >>= f : Tracing α) = request.ask >>= fun a => f (w a) := by
  refine congrArg (Program.ask request) (funext fun reply => ?_)
  cases reply with
  | ok a => rfl
  | error e => rfl

/-- The same, of a request whose exceptions are not told apart. -/
theorem meets_orInvariant {request : TraceRequest} {f : request.Reply → Tracing α}
    (hanswers : ∀ reply t, request.answers s reply t → t = s)
    (hobserve : ∀ reply, g.observe request reply = g.failed reply)
    (hok : ∀ a, (f a).Meets traceSetting post (s, g))
    (herror : ∀ e e', (e = .cancelled → e' = .cancelled) →
      post (.error e') (s, g.failed (.error e : Except TraceError request.Reply))) :
    (orInvariant request.ask >>= f).Meets traceSetting post (s, g) := by
  refine Program.meets_ask.mpr ⟨trivial, fun reply t h => ?_⟩
  rw [hanswers _ _ h, hobserve]
  cases reply with
  | ok a =>
    rw [g.failed_ok]
    exact hok a
  | error e =>
    cases e with
    | cancelled => exact Program.meets_raise.mpr (herror _ _ fun _ => rfl)
    | _ => exact Program.meets_raise.mpr (herror _ _ fun h => by cases h)

/-- A run whose last event was just stored: its callback is still to be invoked. -/
structure BeforeCallback (runId : UUID4) (inputs processed : List FixedStepTraceInput)
    (input : FixedStepTraceInput) (event : TraceEvent) (cancelled : Bool) (s : Repository) (g : TraceLog) :
    Prop where
  boundaries : Boundaries runId inputs s g (processed.length + 1) processed.length
  last : runEvents s runId = (runEvents s runId).take processed.length ++ [event]
  runId_eq : event.runId = runId
  appended : g.appended = processed ++ [input]
  interrupted : g.interrupted = true → cancelled = true

variable {event : TraceEvent} {cancelled : Bool}

omit [Redactor] [Serialization] in
/-- The callback was invoked for the last event. -/
theorem BeforeCallback.called (h : BeforeCallback runId inputs processed input event cancelled s g)
    {boundary : FixedStepTraceBoundary} (hordinal : boundary.ordinal = processed.length + 1)
    (hevent : boundary.event = event) (helaborates : Elaborates runId s t) {g' : TraceLog}
    (happended : g'.appended = g.appended) (hcalled : g'.called = g.called ++ [boundary]) :
    Boundaries runId inputs t g' (processed.length + 1) (processed.length + 1) := by
  obtain ⟨bound, appended, numbered, identities, sources, ordinals, called⟩ := h.boundaries
  have hsame := runEvents_of_elaborates helaborates
  have hlength := h.boundaries.length_eq
  constructor
  · exact bound
  · rw [happended]
    exact appended
  · rw [hsame, numbered]
  · rw [hsame, identities]
  · rw [hsame, sources]
  · rw [hcalled, List.map_append, ordinals, List.map_singleton, hordinal, List.range'_concat]
    simp [Nat.add_comm]
  · rw [hcalled, List.map_append, called, List.map_singleton, hevent, hsame, ← h.last,
      List.take_of_length_le (Nat.le_of_eq hlength)]

/-- The callback of a round, and the end of the round. -/
theorem meets_callback {boundary : FixedStepTraceBoundary} {next : FixedStepProjections.Projection → TraceProgress}
    (h : BeforeCallback runId inputs processed input event cancelled s g)
    (hordinal : boundary.ordinal = processed.length + 1) (hevent : boundary.event = event) :
    ((do
      let projection ← (TraceRequest.callback boundary).ask
      if cancelled then .raise .cancelled else pure (next projection)) : Tracing TraceProgress).Meets traceSetting
      (fun result u => match result with
        | .ok _ => BetweenRounds runId inputs (processed ++ [input]) u.1 u.2
        | .error e => TraceEnds runId inputs (.error e : Except TraceError α) u) (s, g) := by
  have hends : ∀ reply t, (TraceRequest.callback boundary).answers s reply t →
      Elaborates runId s t ∧ Boundaries runId inputs t (g.observe (.callback boundary) reply)
        (processed.length + 1) (processed.length + 1) := by
    intro reply t hanswers
    have helaborates : Elaborates runId s t := by
      rw [← h.runId_eq, ← hevent]
      exact hanswers
    exact ⟨helaborates, h.called hordinal hevent helaborates rfl rfl⟩
  refine meets_request_bind (fun projection t hanswers => ?_) fun e t hanswers => ?_
  · obtain ⟨helaborates, hcalled⟩ := hends _ _ hanswers
    cases hcancelled : cancelled with
    | true => exact Program.meets_raise.mpr ⟨_, _, hcalled, .inl rfl, fun _ _ => ⟨rfl, fun _ => rfl⟩⟩
    | false =>
      refine Program.meets_done.mpr ⟨helaborates.live, ?_, h.appended, ?_⟩
      · rw [List.length_append, List.length_singleton]
        exact hcalled
      · show g.interrupted = false
        exact Bool.eq_false_iff.mpr fun hint => Bool.false_ne_true (hcancelled ▸ h.interrupted hint)
  · obtain ⟨-, hcalled⟩ := hends _ _ hanswers
    refine ⟨_, _, hcalled, .inl rfl, fun _ hrefused => ?_⟩
    cases e with
    | cancelled => exact ⟨rfl, fun _ => rfl⟩
    | _ => exact absurd ((Bool.or_true _).symm.trans hrefused) (by decide)

/-- The part of a round after its event was persisted. -/
theorem meets_reachBoundary {persisted : PersistedTraceEvent} {progress : TraceProgress} {digest : Sha256Digest}
    (h : BeforeCallback runId inputs processed input persisted.event cancelled s g) :
    (reachBoundary runId digest (processed.length + 1) input persisted cancelled progress).Meets traceSetting
      (fun result u => match result with
        | .ok _ => BetweenRounds runId inputs (processed ++ [input]) u.1 u.2
        | .error e => TraceEnds runId inputs (.error e : Except TraceError α) u) (s, g) := by
  have hends : ∀ {β : Type} (e e' : TraceError), (e = .cancelled → e' = .cancelled) →
      TraceEnds runId inputs (.error e' : Except TraceError α)
        (s, g.failed (.error e : Except TraceError β)) :=
    fun e e' he => h.boundaries.ends_failed (.inr rfl) e he
  unfold reachBoundary
  refine meets_orInvariant (fun _ _ h => h) (fun _ => rfl) (fun binding => ?_) hends
  refine meets_projection (fun _ _ h => h) (fun _ => rfl) (fun trajectoryPrefix => ?_)
    fun e => hends e e id
  refine meets_projection (fun _ _ h => h) (fun _ => rfl) (fun schedule => ?_) fun e => hends e e id
  split
  · rw [map_ask_bind]
    refine meets_projection (fun _ _ h => h) (fun _ => rfl) (fun window => ?_) fun e => hends e e id
    exact meets_callback h rfl rfl
  · exact meets_callback h rfl rfl

omit [Redactor] [Serialization] in
/-- Between two rounds, the append of the next input leads to its callback, or ends the run. -/
theorem BetweenRounds.appended_next {processed rest : List FixedStepTraceInput}
    (h : BetweenRounds runId inputs processed s g) (hinputs : TraceInputs runId inputs)
    (hsplit : inputs = processed ++ input :: rest) {result : Except TraceError (PersistedTraceEvent × Bool)}
    {u : Repository × TraceLog} (hreconciled : AppendReconciled s g input (processed.length + 1) result u) :
    match result with
    | .ok reconciled => BeforeCallback runId inputs processed input reconciled.1.event reconciled.2 u.1 u.2
    | .error e => TraceEnds runId inputs (.error e : Except TraceError α) u := by
  have happended : u.2.appended = processed ++ [input] := by rw [hreconciled.appended, h.appended]
  have hrun : input.draft.runId = runId :=
    hinputs.run input (by rw [hsplit]; exact List.mem_append_right _ List.mem_cons_self)
  rcases hreconciled.stored with ⟨hsame, e, rfl⟩ | ⟨persisted, hstored, hend⟩
  · -- nothing was stored
    obtain ⟨bound, -, numbered, identities, sources, ordinals, called⟩ := h.boundaries
    have hasked : u.2.appended = inputs.take (processed.length + 1) := by
      rw [happended, hsplit, List.take_length_add_append, List.take_succ_cons, List.take_zero]
    refine ⟨processed.length, processed.length, ⟨bound, ⟨_, hasked, Nat.le_succ _⟩, ?_, ?_, ?_, ?_, ?_⟩,
      .inl rfl, fun hint hrefused => ?_⟩
    · rw [hsame, numbered]
    · rw [hsame, identities]
    · rw [hsame, sources]
    · rw [hreconciled.called, ordinals]
    · rw [hreconciled.called, called, hsame]
    · rcases hreconciled.interrupted hint with ⟨_, hok⟩ | ⟨e', he', hcancelled | hraised⟩
      · cases hok
      · cases he'
        exact ⟨by rw [hcancelled], fun _ => rfl⟩
      · exact absurd (hraised.symm.trans hrefused) (by decide)
  · obtain ⟨hboundaries, hevents⟩ :=
      h.boundaries.stored hinputs hsplit hstored le_rfl happended hreconciled.called
    rcases hend with ⟨cancelled, rfl⟩ | ⟨⟨e, rfl⟩, -, hfailed⟩
    · refine ⟨hboundaries, ?_, ?_, happended, fun hint => ?_⟩
      · have hlength := h.boundaries.length_eq
        rw [hevents, List.take_left' hlength]
      · rw [hstored.event.2.1, hrun]
      · rcases hreconciled.interrupted hint with ⟨_, hok⟩ | ⟨e, he, -⟩
        · cases hok
          rfl
        · cases he
    · -- the event was stored, and not read back
      refine ⟨_, _, hboundaries, .inr rfl, fun hint hrefused => ?_⟩
      rcases hfailed with hraised | hhalted
      · exact absurd (hraised.symm.trans hrefused) (by decide)
      · rcases hreconciled.interrupted hint with ⟨_, hok⟩ | ⟨e', he', hcancelled | hraised⟩
        · cases hok
        · cases he'
          exact ⟨by rw [hcancelled], fun hcalm => absurd (hhalted.symm.trans hcalm) (by decide)⟩
        · exact absurd (hraised.symm.trans hrefused) (by decide)

/-- The loop of a run: every round stores one event and calls back, or ends the run. -/
theorem meets_traceInputs {digest : Sha256Digest} {progress : TraceProgress} (hinputs : TraceInputs runId inputs)
    (hsplit : inputs = processed ++ rest) (h : BetweenRounds runId inputs processed s g) :
    (traceInputs runId digest (processed.length + 1) rest progress).Meets traceSetting
      (fun result u => match result with
        | .ok _ => BetweenRounds runId inputs inputs u.1 u.2
        | .error e => TraceEnds runId inputs (.error e : Except TraceError α) u) (s, g) := by
  induction rest generalizing processed s g progress with
  | nil =>
    rw [List.append_nil] at hsplit
    refine Program.meets_done.mpr ?_
    rw [hsplit] at h ⊢
    exact h
  | cons input rest ih =>
    have hnext := h.next hinputs hsplit
    unfold traceInputs
    refine .bind ((meets_appendReconciledTraceEvent h.live hnext h.quiet).mono fun result u hreconciled => ?_)
    have hround := h.appended_next (α := α) hinputs hsplit hreconciled
    cases result with
    | error e => exact hround
    | ok reconciled =>
      refine .bind ((meets_reachBoundary (α := α) hround).mono fun result v hreached => ?_)
      cases result with
      | error e => exact hreached
      | ok progress =>
        have hsplit' : inputs = (processed ++ [input]) ++ rest := by
          rw [hsplit, List.append_assoc]
          rfl
        have hlength : (processed ++ [input]).length = processed.length + 1 := by
          rw [List.length_append, List.length_singleton]
        rw [← hlength]
        exact ih hsplit' hreached

/-! ## Runs -/

omit [Integrity] [Redactor] [Serialization] in
/-- A run of which no write was interrupted may end between two rounds. -/
theorem Boundaries.ends_quiet {u : Repository × TraceLog} (h : Boundaries runId inputs s g k k)
    (hevents : runEvents u.1 runId = runEvents s runId) (happended : u.2.appended = g.appended)
    (hcalled : u.2.called = g.called) (hquiet : u.2.interrupted = false) (result : Except TraceError α) :
    TraceEnds runId inputs result u := by
  obtain ⟨bound, appended, numbered, identities, sources, ordinals, called⟩ := h
  refine ⟨k, k, ⟨bound, ?_, ?_, ?_, ?_, ?_, ?_⟩, .inl rfl, fun hint => ?_⟩
  · rw [happended]
    exact appended
  · rw [hevents, numbered]
  · rw [hevents, identities]
  · rw [hevents, sources]
  · rw [hcalled, ordinals]
  · rw [hcalled, called, hevents]
  · exact absurd (hint.symm.trans hquiet) (by decide)

omit [Integrity] [Redactor] [Serialization] in
/-- A ledger that is read is neither an append nor a callback. -/
theorem TraceLog.observe_ledger (g : TraceLog) (runId : UUID4) (reply : Except TraceError (List LedgerEntry)) :
    (g.observe (.ledger runId) reply).appended = g.appended
      ∧ (g.observe (.ledger runId) reply).called = g.called
      ∧ (g.observe (.ledger runId) reply).interrupted = g.interrupted := by
  have hlog : g.observe (.ledger runId) reply = if isRead reply then g else g.failed reply := rfl
  rw [hlog]
  split
  · exact ⟨rfl, rfl, rfl⟩
  · exact ⟨rfl, rfl, rfl⟩

/-- The part of a run after its loop. -/
theorem meets_attestTrace {digests : List Sha256Digest} {progress : TraceProgress}
    (h : BetweenRounds runId inputs inputs s g) :
    (attestTrace runId digests progress).Meets traceSetting (TraceEnds runId inputs) (s, g) := by
  unfold attestTrace
  split
  · exact Program.meets_raise.mpr (h.boundaries.ends_quiet rfl rfl rfl h.quiet _)
  · refine meets_request_bind (fun rebuild t hanswers => ?_) fun e t hanswers => ?_
    · have hevents := runEvents_of_elaborates hanswers
      have hlog : g.observe (.rebuild runId) (.ok rebuild) = g := g.failed_ok rebuild
      rw [hlog]
      have hends : ∀ (k : TraceLog) (result : Except TraceError FixedStepTraceResult), k.appended = g.appended →
          k.called = g.called → k.interrupted = g.interrupted → TraceEnds runId inputs result (t, k) :=
        fun k result happended hcalled hint =>
          h.boundaries.ends_quiet hevents happended hcalled (hint.trans h.quiet) result
      refine Program.meets_lift_bind.mpr ⟨fun _ _ => ?_, fun e _ => hends g _ rfl rfl rfl⟩
      refine meets_request_bind (fun ledger u hledger => ?_) fun e u hledger => ?_
      · obtain ⟨rfl, -⟩ := hledger
        refine meets_projection (fun _ _ h => h) (fun _ => rfl) (fun head => ?_) fun e => hends _ _ rfl rfl rfl
        exact Program.meets_lift_bind.mpr ⟨fun _ _ => Program.meets_done.mpr (hends _ _ rfl rfl rfl),
          fun e _ => hends _ _ rfl rfl rfl⟩
      · obtain ⟨rfl, -⟩ := hledger
        obtain ⟨happended, hcalled, hint⟩ := g.observe_ledger runId (.error e)
        exact hends _ _ happended hcalled hint
    · have helaborates : Elaborates runId s t := hanswers
      exact h.boundaries.ends_quiet (runEvents_of_elaborates helaborates) rfl rfl h.quiet _

/-- A run of the driver ends with its first inputs stored, and called back. -/
theorem meets_runTrace (hlive : s.Live) (hinputs : TraceInputs runId inputs)
    (hfresh : (s runId).slot.ledger = []) :
    (runTrace inputs).Meets traceSetting (TraceEnds runId inputs) (s, {}) := by
  have hstart : Boundaries runId inputs s {} 0 0 := by
    have hnone : runEvents s runId = [] := by
      unfold runEvents
      rw [hfresh]
      rfl
    constructor
    · exact Nat.zero_le _
    · exact ⟨0, rfl, le_rfl⟩
    · rw [hnone]
      rfl
    · rw [hnone]
      rfl
    · rw [hnone]
      rfl
    · rfl
    · rw [hnone]
      rfl
  unfold runTrace
  split
  · exact Program.meets_raise.mpr (hstart.ends_quiet rfl rfl rfl rfl _)
  · next first others =>
    have hrun : first.draft.runId = runId := hinputs.run first List.mem_cons_self
    have hloop : ∀ digest digests, (traceInputs runId digest 1 (first :: others) {} >>= fun progress =>
        attestTrace runId digests progress).Meets traceSetting (TraceEnds runId (first :: others)) (s, {}) := by
      intro digest digests
      have hbegin : BetweenRounds runId (first :: others) [] s {} := ⟨hlive, hstart, rfl, rfl⟩
      refine .bind ((meets_traceInputs (α := FixedStepTraceResult) hinputs rfl hbegin).mono
        fun result u hreached => ?_)
      cases result with
      | error e => exact hreached
      | ok progress => exact meets_attestTrace hreached
    unfold requireFreshRun
    rw [Program.bind_assoc, hrun]
    refine Program.meets_ask.mpr ⟨trivial, fun reply t hanswers => ?_⟩
    obtain ⟨hsame, hread⟩ := hanswers
    subst hsame
    cases hread with
    | found hsome => exact absurd hfresh hsome
    | missing => exact hloop _ _
    | failed e he =>
      have hends : ∀ e', TraceEnds runId (first :: others) (.error e' : Except TraceError FixedStepTraceResult)
          (t, TraceLog.observe {} (.ledger runId) (.error e)) := by
        intro e'
        obtain ⟨happended, hcalled, hint⟩ := TraceLog.observe_ledger {} runId (.error e)
        exact hstart.ends_quiet rfl happended hcalled hint _
      cases e with
      | repository error =>
        cases error with
        | runNotFound id => exact absurd rfl (he id)
        | _ => exact Program.meets_raise.mpr (hends _)
      | _ => exact Program.meets_raise.mpr (hends _)

/-! ## Exactly once -/

/-- What is observed of what a driver was answered. -/
def traceLog (asked : List ((request : TraceRequest) × Except TraceError request.Reply)) : TraceLog :=
  asked.foldl (fun g answer => g.observe answer.1 answer.2) {}

/-- A write that was reconciled returns if its record is in the ledger, once; otherwise none is. -/
def Reconciles (records : ℕ) (result : Except TraceError α) : Prop :=
  ((∃ a, result = .ok a) ↔ records = 1) ∧ ((∃ e, result = .error e) → records = 0)

/-- A cancellation of the write is returned, or raised, if nothing else raises an exception. -/
def KeepsCancellation (g : TraceLog) (result : Except TraceError (α × Bool)) : Prop :=
  g.interrupted = true → g.refused = false → (∃ a, result = .ok (a, true)) ∨ result = .error .cancelled

end

/-! ## Runs of a single event -/

section SingleEvent

attribute [local instance] collisionHashing collisionIntegrity collisionSerialization plainRedactor

/-- Projections that compute nothing. -/
local instance unitProjections : FixedStepProjections where
  Selectors := Unit
  Binding := Unit
  Prefix := Unit
  Schedule := Unit
  Window := Unit
  Projection := Unit
  invokes _ := false
  draftDigest _ := jumpTextDigest
  traceDigest _ := jumpTextDigest

/-- A write that returns, and whose caller is cancelled once while it is in flight. -/
def cancelledWrite {α : Type} (write : RepositoryM α) (s : Repository) : Finished α × Repository :=
  match write s with
  | .ok receipt t => (⟨.ok receipt, 1⟩, t)
  | .error error _ => (⟨.error (.repository error), 1⟩, s)

/-- A repository whose callers are cancelled while their writes are in flight, and a callback that
fails. -/
def cancelledAnswer (s : Repository) :
    (request : TraceRequest) → Except TraceError request.Reply × Repository
  | .append input =>
    let written := cancelledWrite (append (.exact input.draft) (some (.exact input.expectedEventId)) none) s
    (.ok written.1, written.2)
  | .recordInvocationDecision decision =>
    let written := cancelledWrite (recordInvocationDecision (.exact decision)) s
    (.ok written.1, written.2)
  | .readBack runId => (.ok ⟨if (s runId).slot.ledger = [] then .error (.repository (.runNotFound runId))
      else .ok (s runId).slot.ledger, 0⟩, s)
  | .ledger runId => (if (s runId).slot.ledger = [] then .error (.repository (.runNotFound runId))
      else .ok (s runId).slot.ledger, s)
  | .bind .. | .resolveTrajectoryPrefix .. | .projectFixedStepSchedule _ | .projectMessageWindow _ =>
    (.ok (), s)
  | .ledgerHead _ | .rebuild _ | .callback _ => (.error .other, s)

theorem readAnswers_ite (s : Repository) (runId : UUID4) :
    ReadAnswers s runId (if (s runId).slot.ledger = [] then .error (.repository (.runNotFound runId))
      else .ok (s runId).slot.ledger) := by
  split
  · next h => exact .missing h
  · next h => exact .found h

theorem writeAnswers_cancelledWrite {α : Type} {write : RepositoryM α} (hlive : s.Live)
    (hwrite : EndsIn write s (OnEach Continued s)) :
    WriteAnswers write s (cancelledWrite write s).1.outcome (cancelledWrite write s).2
      ∧ (cancelledWrite write s).2.Live := by
  unfold cancelledWrite
  split
  · next receipt t h => exact ⟨.returned h, hlive.continued (hwrite.ok _ _ h)⟩
  · exact ⟨.refused _, hlive⟩

theorem elaborates_same (hlive : s.Live) (runId : UUID4) : Elaborates runId s s :=
  ⟨hlive, [], (List.append_nil _).symm, rfl⟩

/-- What it answers is an answer, in a live repository. -/
theorem answers_cancelledAnswer (hlive : s.Live) (request : TraceRequest) :
    request.answers s (cancelledAnswer s request).1 (cancelledAnswer s request).2
      ∧ (cancelledAnswer s request).2.Live := by
  cases request with
  | append input =>
    have hcontinues : EndsIn (append (.exact input.draft) (some (.exact input.expectedEventId)) none) s
        (OnEach Continued s) := append_continued hlive
    obtain ⟨hanswers, hlater⟩ := writeAnswers_cancelledWrite hlive hcontinues
    exact ⟨⟨_, none, rfl, hanswers⟩, hlater⟩
  | recordInvocationDecision decision =>
    have hextends : EndsIn (recordInvocationDecision (.exact decision)) s (OnEach Extended s) :=
      submitted_endsIn hlive fun _ => recordDirect_endsIn hlive
    obtain ⟨hanswers, hlater⟩ := writeAnswers_cancelledWrite hlive
      ⟨fun a t h id => (hextends.ok a t h id).continued, fun e t h id => (hextends.error e t h id).continued⟩
    exact ⟨⟨_, rfl, hanswers⟩, hlater⟩
  | readBack runId => exact ⟨⟨rfl, _, rfl, readAnswers_ite s runId⟩, hlive⟩
  | ledger runId => exact ⟨⟨rfl, readAnswers_ite s runId⟩, hlive⟩
  | rebuild runId => exact ⟨elaborates_same hlive runId, hlive⟩
  | callback boundary => exact ⟨elaborates_same hlive boundary.event.runId, hlive⟩
  | _ => exact ⟨rfl, hlive⟩

/-- The input of the run. -/
def fullInput : FixedStepTraceInput := ⟨fullEvent, jumpId 2, ()⟩

/-- What the driver of a program is answered there, from a live repository. -/
theorem execution_cancelledAnswer {α : Type} (hlive : s.Live) (program : Tracing α) :
    Program.Execution TraceRequest.answers program s (program.evaluate cancelledAnswer s).1
      (program.evaluate cancelledAnswer s).2.1 (program.evaluate cancelledAnswer s).2.2 :=
  Program.execution_evaluate (I := Repository.Live) (fun _ request hlive => answers_cancelledAnswer hlive request)
    hlive

theorem traceInputs_fullInput : TraceInputs (jumpId 1) [fullInput] where
  run input h := by
    rw [List.mem_singleton.mp h]
    rfl
  identities := List.nodup_singleton _
  sources := List.nodup_singleton _

theorem nextInput_fullInput : NextInput Repository.empty fullInput 1 where
  number := rfl
  identity _ h := by cases h
  source _ h := by cases h

/-- The repository with the event. -/
def fullRepository : Repository := (cancelledAnswer Repository.empty (.append fullInput)).2

theorem nextDecision_jumpDecision : NextDecision fullRepository jumpDecision := by
  have hnone : (invocationDecisions (fullRepository (jumpId 1)).slot.ledger).length = 0 := by decide +kernel
  have hnone := List.length_eq_zero_iff.mp hnone
  constructor
  · intro hempty
    have hone : (fullRepository (jumpId 1)).slot.ledger.length = 1 := by decide +kernel
    have hempty : (fullRepository (jumpId 1)).slot.ledger = [] := hempty
    rw [hempty] at hone
    cases hone
  · intro item hitem
    have hitem : item ∈ invocationDecisions (fullRepository (jumpId 1)).slot.ledger := hitem
    rw [hnone] at hitem
    cases hitem
  · intro item hitem
    have hitem : item ∈ invocationDecisions (fullRepository (jumpId 1)).slot.ledger := hitem
    rw [hnone] at hitem
    cases hitem

end SingleEvent

end SalienceGate
