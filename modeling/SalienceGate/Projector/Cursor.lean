import SalienceGate.Lib.Tiling
import SalienceGate.Projector.Accepted

/-!
# The cursors of a run

Events are numbered up to the ingestion cursor, and the committed cycles tile the numbers up to the
memory cursor. A failed cycle covers nothing, so that the next cycle begins where it began; the
tile of a cycle is put in when it commits, at the cursor.
-/

namespace SalienceGate

open Checked

variable [Hashing] {p q : Projection} {record : LedgerRecord}

/-! ## Events -/

/-- The indexes of the events agree, and number them up to the ingestion cursor. -/
structure EventInvariant (p : Projection) : Prop where
  keyed : ∀ {id event}, p.eventsById.get? id = some event →
    event.eventId = id ∧ event.runId = p.runId
  indexed : ∀ {sequence event}, p.eventsBySequence.get? sequence = some event ↔
    event.sequence = sequence ∧ p.eventsById.get? event.eventId = some event
  numbered : ∀ {sequence}, sequence ∈ p.eventsBySequence ↔
    1 ≤ sequence ∧ sequence ≤ p.ingestionCursor

theorem eventInvariant_empty (runId : UUID4) : EventInvariant (emptyProjection runId) where
  keyed h := by cases h
  indexed := by simp [emptyProjection]
  numbered := by
    intro sequence
    simp only [emptyProjection, Dict.notMem_empty, false_iff]
    omega

/-- An accepted entry keeps the indexes of the events. -/
theorem event_accepted (hp : EventInvariant p) (hrun : record.runId = p.runId)
    (h : Accepted p record q) : EventInvariant q := by
  cases h with
  | signal | outcome | delivery | decision | cycle | commit =>
    exact ⟨hp.keyed, hp.indexed, hp.numbered⟩
  | event position event next freshId freshSource parents =>
    refine ⟨fun {id found} hfound => ?_, fun {sequence found} => ?_, fun {sequence} => ?_⟩
    · rcases Dict.get?_set_eq_some.mp hfound with ⟨rfl, rfl⟩ | ⟨-, hold⟩
      · exact ⟨rfl, hrun⟩
      · exact hp.keyed hold
    · have hfresh : ¬(event.sequence = found.sequence
          ∧ p.eventsById.get? found.eventId = some found) := by
        rintro ⟨hsequence, hfound⟩
        have hmem := hp.numbered.mp (Dict.mem_of_get? (hp.indexed.mpr ⟨rfl, hfound⟩))
        omega
      simp only [Projection.addEvent, Dict.get?_set_eq_some, hp.indexed]
      constructor
      · rintro (⟨rfl, rfl⟩ | ⟨hne, rfl, hfound⟩)
        · exact ⟨rfl, .inl ⟨rfl, rfl⟩⟩
        · refine ⟨rfl, .inr ⟨?_, hfound⟩⟩
          rintro heq
          exact freshId (heq ▸ Dict.mem_of_get? hfound)
      · rintro ⟨rfl, ⟨-, rfl⟩ | ⟨hne, hfound⟩⟩
        · exact .inl ⟨rfl, rfl⟩
        · exact .inr ⟨fun heq => hfresh ⟨heq.symm, hfound⟩, rfl, hfound⟩
    · simp only [Projection.addEvent, Dict.mem_set, hp.numbered, next]
      omega

/-- The event invariant holds after every ledger. -/
theorem eventInvariant {runId : UUID4} (run : LedgerRun runId) : EventInvariant run.final :=
  ledger_invariant run (eventInvariant_empty runId) fun _ _ _ hrun hp h =>
    event_accepted hp hrun h

/-- The source identities and the positions are those of the events. -/
structure SourceInvariant (p : Projection) : Prop where
  indexed : ∀ {source event}, p.eventsBySource.get? source = some event ↔
    event.sourceEventId = source ∧ p.eventsById.get? event.eventId = some event
  positioned : ∀ {id}, id ∈ p.eventPositions ↔ id ∈ p.eventsById

theorem sourceInvariant_empty (runId : UUID4) : SourceInvariant (emptyProjection runId) where
  indexed := by simp [emptyProjection]
  positioned := by simp [emptyProjection, Dict.notMem_empty]

/-- An accepted entry keeps the index of the source identities. -/
theorem source_accepted (hp : SourceInvariant p) (h : Accepted p record q) : SourceInvariant q := by
  cases h with
  | signal | outcome | delivery | decision | cycle | commit => exact ⟨hp.indexed, hp.positioned⟩
  | event position event next freshId freshSource parents =>
    refine ⟨fun {source found} => ?_, fun {id} => ?_⟩
    · simp only [Projection.addEvent, Dict.get?_set_eq_some, hp.indexed]
      constructor
      · rintro (⟨rfl, rfl⟩ | ⟨hne, hsource, hfound⟩)
        · exact ⟨rfl, .inl ⟨rfl, rfl⟩⟩
        · refine ⟨hsource, .inr ⟨?_, hfound⟩⟩
          rintro heq
          exact freshId (heq ▸ Dict.mem_of_get? hfound)
      · rintro ⟨hsource, ⟨-, rfl⟩ | ⟨hne, hfound⟩⟩
        · exact .inl ⟨hsource.symm, rfl⟩
        · refine .inr ⟨?_, hsource, hfound⟩
          rintro rfl
          exact freshSource (Dict.mem_of_get? (hp.indexed.mpr ⟨hsource, hfound⟩))
    · simp only [Projection.addEvent, Dict.mem_set, hp.positioned]

/-- The source invariant holds after every ledger. -/
theorem sourceInvariant {runId : UUID4} (run : LedgerRun runId) : SourceInvariant run.final :=
  ledger_invariant run (sourceInvariant_empty runId) fun _ _ _ _ hp h => source_accepted hp h

/-! ## Cycles -/

/-- The events of a committed cycle, and no events of another one. -/
def committedRange (p : Projection) (id : Sha256Digest) : Set ℕ :=
  {sequence | ∃ cycle, p.cycles.get? id = some cycle ∧ cycle.state = .committed
    ∧ sequence ∈ Set.Icc cycle.firstEventSequence cycle.lastEventSequence}

/-- The cycles of a projection and its memory cursor. -/
structure CycleInvariant (p : Projection) : Prop where
  kept : cycleLifecycle.Kept p.cycleHistory p.cycles
  /-- At most one cycle is active. -/
  active : ∀ i j c d, p.cycles.get? i = some c → p.cycles.get? j = some d →
    c.state.isActive = true → d.state.isActive = true → j = i
  /-- No two cycles have one decision. -/
  decisions : ∀ i j c d, p.cycles.get? i = some c → p.cycles.get? j = some d →
    c.invocationDecisionId = d.invocationDecisionId → j = i
  /-- The committed cycles tile the events up to the memory cursor. -/
  tiled : Tiling (committedRange p) p.memoryCursor
  /-- The memory cursor is not ahead of the events. -/
  behind : p.memoryCursor ≤ p.ingestionCursor

omit [Hashing] in
/-- A state with a successor is active. -/
theorem CycleState.isActive_of_mem {state next : CycleState} (h : next ∈ cycleTransitions state) :
    state.isActive = true := by
  cases state <;> first | rfl | simp [cycleTransitions] at h

/-- A revision of a cycle keeps at most one cycle active. -/
theorem active_addCycle {cycle : CycleRecord} {decision : InvocationDecision}
    (hp : CycleInvariant p) (hchecked : CycleChecked p cycle decision) :
    ∀ i j c d, (p.cycles.set cycle.cycleId cycle).get? i = some c →
      (p.cycles.set cycle.cycleId cycle).get? j = some d →
      c.state.isActive = true → d.state.isActive = true → j = i := by
  -- no other cycle is active
  have hother : ∀ j d, j ≠ cycle.cycleId → p.cycles.get? j = some d →
      d.state.isActive = false := by
    intro j d hj hd
    cases hchecked.accepts with
    | first fresh => exact ((hchecked.first fresh).2 d (Dict.mem_values.mpr ⟨j, hd⟩)).1
    | later previous current number next =>
      by_contra hactive
      exact hj (hp.active cycle.cycleId j previous d current hd
        (CycleState.isActive_of_mem next.2.2.1) (by simpa using hactive))
  intro i j c d hc hd hcactive hdactive
  rcases Dict.get?_set_eq_some.mp hc with ⟨rfl, -⟩ | ⟨hi, hc⟩
  · rcases Dict.get?_set_eq_some.mp hd with ⟨rfl, -⟩ | ⟨hj, hd⟩
    · rfl
    · rw [hother j d hj hd] at hdactive
      cases hdactive
  · rw [hother i c hi hc] at hcactive
    cases hcactive

/-- A revision of a cycle keeps the decisions of the cycles apart. -/
theorem decisions_addCycle {cycle : CycleRecord} {decision : InvocationDecision}
    (hp : CycleInvariant p) (hchecked : CycleChecked p cycle decision) :
    ∀ i j c d, (p.cycles.set cycle.cycleId cycle).get? i = some c →
      (p.cycles.set cycle.cycleId cycle).get? j = some d →
      c.invocationDecisionId = d.invocationDecisionId → j = i := by
  -- no other cycle has the decision of the revision
  have hother : ∀ j d, j ≠ cycle.cycleId → p.cycles.get? j = some d →
      d.invocationDecisionId ≠ cycle.invocationDecisionId := by
    intro j d hj hd
    cases hchecked.accepts with
    | first fresh => exact ((hchecked.first fresh).2 d (Dict.mem_values.mpr ⟨j, hd⟩)).2
    | later previous current number next =>
      intro heq
      have hsame : cycle.invocationDecisionId = previous.invocationDecisionId :=
        congrArg CycleIdentity.invocationDecisionId next.1
      exact hj (hp.decisions cycle.cycleId j previous d current hd (hsame.symm.trans heq.symm))
  intro i j c d hc hd heq
  rcases Dict.get?_set_eq_some.mp hc with ⟨rfl, rfl⟩ | ⟨hi, hold⟩
  · rcases Dict.get?_set_eq_some.mp hd with ⟨rfl, -⟩ | ⟨hj, hold⟩
    · rfl
    · exact absurd heq.symm (hother j d hj hold)
  · rcases Dict.get?_set_eq_some.mp hd with ⟨rfl, rfl⟩ | ⟨hj, hold'⟩
    · exact absurd heq (hother i c hi hold)
    · exact hp.decisions i j c d hold hold' heq

/-- Before a revision, its cycle was not committed. -/
theorem committedRange_before {cycle : CycleRecord} {decision : InvocationDecision}
    (hchecked : CycleChecked p cycle decision) : committedRange p cycle.cycleId = ∅ := by
  refine Set.eq_empty_iff_forall_notMem.mpr ?_
  rintro sequence ⟨found, hfound, hcommitted, -⟩
  cases hchecked.accepts with
  | first fresh =>
    have hnone : p.cycles.get? cycle.cycleId = none := fresh
    rw [hnone] at hfound
    cases hfound
  | later previous current number next =>
    have hcurrent : p.cycles.get? cycle.cycleId = some previous := current
    rw [hcurrent] at hfound
    cases hfound
    have hactive := CycleState.isActive_of_mem next.2.2.1
    simp [hcommitted, CycleState.isActive] at hactive

/-- A revision does not change the range of another cycle. -/
theorem committedRange_of_ne {cycle : CycleRecord} {id : Sha256Digest} (hid : id ≠ cycle.cycleId)
    (hcycles : q.cycles = p.cycles.set cycle.cycleId cycle) :
    committedRange q id = committedRange p id := by
  simp only [committedRange, hcycles, Dict.get?_set_of_ne hid]

/-- After a commit, the range of the cycle is that of its record. -/
theorem committedRange_self {cycle : CycleRecord} (hstate : cycle.state = .committed)
    (hcycles : q.cycles = p.cycles.set cycle.cycleId cycle) :
    committedRange q cycle.cycleId
      = Set.Icc cycle.firstEventSequence cycle.lastEventSequence := by
  ext sequence
  simp [committedRange, hcycles, hstate]

/-- A revision that does not commit changes no range. -/
theorem committedRange_uncommitted {cycle : CycleRecord} {decision : InvocationDecision}
    (hchecked : CycleChecked p cycle decision) (hstate : cycle.state ≠ .committed)
    (hcycles : q.cycles = p.cycles.set cycle.cycleId cycle) :
    committedRange q = committedRange p := by
  funext id
  by_cases hid : id = cycle.cycleId
  · subst hid
    rw [committedRange_before hchecked]
    simp [committedRange, hcycles, hstate]
  · exact committedRange_of_ne hid hcycles

/-- An accepted entry keeps the cycles and the memory cursor. -/
theorem cycle_accepted (hevents : EventInvariant p) (hp : CycleInvariant p)
    (h : Accepted p record q) : CycleInvariant q := by
  cases h with
  | signal | outcome | delivery | decision =>
    exact ⟨hp.kept, hp.active, hp.decisions, hp.tiled, hp.behind⟩
  | event position event next freshId freshSource parents =>
    refine ⟨hp.kept, hp.active, hp.decisions, hp.tiled, ?_⟩
    simp only [Projection.addEvent, next]
    exact hp.behind.trans (Nat.le_succ _)
  | cycle cycle decision checked uncommitted =>
    refine ⟨hp.kept.store checked.accepts, active_addCycle hp checked,
      decisions_addCycle hp checked, ?_, hp.behind⟩
    rw [committedRange_uncommitted checked uncommitted rfl]
    exact hp.tiled
  | commit cycle decision delta intervention bank reminders checked committed commit remembered =>
    obtain ⟨-, hle⟩ := cycle.first_le_last
    refine ⟨hp.kept.store checked.accepts, active_addCycle (p := p) hp checked,
      decisions_addCycle (p := p) hp checked, ?_, ?_⟩
    · refine hp.tiled.extend (i := cycle.cycleId) ?_ ?_ (committedRange_before checked)
        fun id hid => committedRange_of_ne hid rfl
      · have := commit.continues
        simp only [Projection.addCycle, Projection.commit]
        omega
      · rw [committedRange_self committed rfl, commit.continues]
        rfl
    · exact (hevents.numbered.mp (checked.events _ hle le_rfl)).2

/-- The cycle invariant holds after every ledger. -/
theorem cycleInvariant {runId : UUID4} (run : LedgerRun runId) : CycleInvariant run.final := by
  refine (ledger_invariant (I := fun p => EventInvariant p ∧ CycleInvariant p) run
    ⟨eventInvariant_empty runId, ⟨.empty, ?_, ?_, .empty ?_, le_rfl⟩⟩
    fun _ _ _ hrun hp h => ⟨event_accepted hp.1 hrun h, cycle_accepted hp.1 hp.2 h⟩).2
  · intro i j c d hc
    cases hc
  · intro i j c d hc
    cases hc
  · intro id
    refine Set.eq_empty_iff_forall_notMem.mpr ?_
    rintro sequence ⟨cycle, hcycle, -⟩
    cases hcycle

/-- The transitions of a cycle. -/
def cycleSteps : List (CycleState × CycleState) :=
  [(.pending, .reserved), (.reserved, .running), (.running, .committed),
    (.pending, .failed), (.reserved, .failed), (.running, .failed)]

omit [Hashing] in
/-- The table of the source has these transitions. -/
theorem mem_cycleTransitions {state next : CycleState} :
    next ∈ cycleTransitions state ↔ (state, next) ∈ cycleSteps := by
  cases state <;> cases next <;> decide

/-- The cursors and cycles of a run. The events are numbered from 1 to the ingestion cursor, with
the memory cursor behind it; at most one cycle is active; the ranges of the committed cycles are
disjoint, and together are the events up to the memory cursor; no two cycles have one decision, and
no event has two; and the revisions of a cycle are numbered from 1, begin pending, and follow the
transitions up to a commit or a failure, which is the last. -/
theorem cycle_cursor {runId : UUID4} (run : LedgerRun runId) :
    (∀ sequence, sequence ∈ run.final.eventsBySequence ↔
      1 ≤ sequence ∧ sequence ≤ run.final.ingestionCursor)
    ∧ run.final.memoryCursor ≤ run.final.ingestionCursor
    ∧ (run.final.cycles.values.filter (·.state.isActive)).length ≤ 1
    ∧ ((Pairwise fun i j => Disjoint (committedRange run.final i) (committedRange run.final j))
      ∧ ⋃ id, committedRange run.final id = Set.Icc 1 run.final.memoryCursor)
    ∧ (∀ i j c d, run.final.cycles.get? i = some c → run.final.cycles.get? j = some d →
      i ≠ j → c.invocationDecisionId ≠ d.invocationDecisionId)
    ∧ (∀ d ∈ run.final.decisions.values, ∀ e ∈ run.final.decisions.values,
      d.eventSequence = e.eventSequence → d = e)
    ∧ ∀ id, (id ∈ run.final.cycles ∨ ∃ m, (id, m) ∈ run.final.cycleHistory) →
      ∃ n latest, 1 ≤ n ∧ latest.revision = n ∧ run.final.cycles.get? id = some latest
        ∧ run.final.cycleHistory.get? (id, n) = some latest
        ∧ (∀ m, (id, m) ∈ run.final.cycleHistory ↔ 1 ≤ m ∧ m ≤ n)
        ∧ ∀ m cycle, run.final.cycleHistory.get? (id, m) = some cycle →
          (m = 1 → cycle.state = .pending)
          ∧ (∀ later, run.final.cycleHistory.get? (id, m + 1) = some later →
            (cycle.state, later.state) ∈ cycleSteps)
          ∧ (cycle.state = .committed ∨ cycle.state = .failed → m = n) := by
  have hevents := eventInvariant run
  obtain ⟨hkept, hactive, hdecisions, htiled, hbehind⟩ := cycleInvariant run
  refine ⟨fun sequence => hevents.numbered, hbehind, Dict.length_filter_values_le_one hactive,
    ⟨htiled.disjoint, htiled.covers⟩, fun i j c d hc hd hne heq =>
      hne (hdecisions i j c d hc hd heq).symm, fun d hd e he heq =>
      List.inj_on_of_nodup_map run.final.oneDecisionPerEvent hd he heq, fun id hid => ?_⟩
  obtain ⟨latest, hlatest⟩ : ∃ latest, run.final.cycles.get? id = some latest := by
    rcases hid with hid | ⟨m, hm⟩
    · exact Dict.mem_iff.mp hid
    · obtain ⟨latest, hlatest, -⟩ := hkept.contiguous.mp hm
      exact ⟨latest, hlatest⟩
  refine ⟨latest.revision, latest, hkept.one_le_latest hlatest, rfl, hlatest,
    hkept.stored hlatest, fun m => (hkept.contiguous (i := id) (n := m)).trans ?_,
    fun m cycle hcycle => ⟨?_, fun later hlater => ?_, fun hended => ?_⟩⟩
  · simp only [hlatest, Option.some.injEq, exists_eq_left']
    rfl
  · rintro rfl
    exact hkept.start hcycle
  · exact mem_cycleTransitions.mp (hkept.next hcycle hlater).2.2.1
  · have hlast := hkept.latest_of_last hcycle fun w hnext => by
      have hmem := hnext.2.2.1
      rcases hended with hended | hended <;> simp [hended, cycleTransitions] at hmem
    rw [hlatest] at hlast
    cases hlast
    exact (hkept.key hcycle).2.symm

end SalienceGate
