import SalienceGate.Projector.MemoryBank
import SalienceGate.Projector.Spacing

/-!
# Verifying in a bounded state

An intervention is verified in a state that is selected for it: the current event, the records that
its receipt cites, and the reminders of one window. `fullState` is what it stands for, all of the
records of the run. A replay cannot tell the two apart.
-/

namespace SalienceGate

open Checked

/-! ## Lists of keyed records -/

section Keyed

variable {κ ν : Type} [DecidableEq κ]

/-- A search by key in a list of keyed records is a lookup, if the list has the record. -/
theorem find?_key_eq_lookup {l : List ν} {key : ν → κ} {lookup : κ → Option ν} {id : κ}
    (hsound : ∀ r ∈ l, lookup (key r) = some r)
    (hid : ∀ r, lookup id = some r → r ∈ l ∧ key r = id) :
    l.find? (fun r => key r = id) = lookup id := by
  cases hfind : l.find? fun r => key r = id with
  | some r =>
    have hkey : key r = id := by simpa using List.find?_some hfind
    rw [← hkey, hsound r (List.mem_of_find?_eq_some hfind)]
  | none =>
    cases hlookup : lookup id with
    | none => rfl
    | some r =>
      obtain ⟨hmem, hkey⟩ := hid r hlookup
      exact absurd (decide_eq_true hkey) (List.find?_eq_none.mp hfind r hmem)

omit [DecidableEq κ] in
/-- A predicate that only one record of a list satisfies keeps that record. -/
theorem filter_eq_singleton {l : List ν} {a : ν} {p : ν → Bool} (hnodup : l.Nodup) (ha : a ∈ l)
    (hp : p a = true) (honly : ∀ x ∈ l, p x = true → x = a) : l.filter p = [a] := by
  have hmem : a ∈ l.filter p := List.mem_filter.mpr ⟨ha, hp⟩
  have hrep := List.eq_replicate_of_mem (l := l.filter p) (a := a) fun x hx =>
    honly x (List.mem_filter.mp hx).1 (List.mem_filter.mp hx).2
  have hle : (l.filter p).length ≤ 1 := by
    have hfilter := hnodup.filter p
    rw [hrep] at hfilter
    exact List.nodup_replicate.mp hfilter
  have hone : (l.filter p).length = 1 := hle.antisymm (List.length_pos_of_mem hmem)
  rw [hrep, hone]
  rfl

end Keyed

/-! ## Selecting the cited records -/

section Selection

variable {ν : Type} {source : EvidenceSource} {lookup : UUID4 → Option ν} {key : ν → UUID4}
  {claims : List ProposedClaim} {selected : Dict UUID4 ν} {id : UUID4} {r : ν}

/-- A selection holds records of the lookup. -/
def SelectedFrom (lookup : UUID4 → Option ν) (selected : Dict UUID4 ν) : Prop :=
  ∀ id r, selected.get? id = some r → lookup id = some r

/-- One round of the loop. -/
theorem selectedFrom_set (hkey : ∀ id r, lookup id = some r → key r = id)
    (hs : SelectedFrom lookup selected) (hr : lookup id = some r) :
    SelectedFrom lookup (selected.set (key r) r) := by
  intro id' r' hr'
  rcases Dict.get?_set_eq_some.mp hr' with ⟨rfl, rfl⟩ | ⟨-, hold⟩
  · rw [hkey id r' hr, hr]
  · exact hs id' r' hold

/-- The loop selects from the lookup, keeps what was selected, and adds what is cited. -/
theorem selectCited_spec (source : EvidenceSource) (claims : List ProposedClaim)
    (hkey : ∀ id r, lookup id = some r → key r = id) (hs : SelectedFrom lookup selected) :
    SelectedFrom lookup (selectCited source lookup key claims selected)
      ∧ (∀ id r, selected.get? id = some r →
        (selectCited source lookup key claims selected).get? id = some r)
      ∧ ∀ claim ∈ claims, claim.evidence.source = source → ∀ r,
        lookup claim.evidence.sourceId = some r →
        (selectCited source lookup key claims selected).get? claim.evidence.sourceId = some r := by
  induction claims generalizing selected with
  | nil => exact ⟨hs, fun _ _ h => h, by simp⟩
  | cons claim claims ih =>
    by_cases hsource : claim.evidence.source = source
    · cases hr : lookup claim.evidence.sourceId with
      | none =>
        have hstep : selectCited source lookup key (claim :: claims) selected
            = selectCited source lookup key claims selected := by
          simp [selectCited, hsource, hr]
        obtain ⟨hfrom, hmono, hcited⟩ := ih hs
        rw [hstep]
        refine ⟨hfrom, hmono, List.forall_mem_cons.mpr ⟨fun _ r hlookup => ?_, hcited⟩⟩
        rw [hr] at hlookup
        cases hlookup
      | some record =>
        have hstep : selectCited source lookup key (claim :: claims) selected
            = selectCited source lookup key claims (selected.set (key record) record) := by
          simp [selectCited, hsource, hr]
        obtain ⟨hfrom, hmono, hcited⟩ := ih (selectedFrom_set hkey hs hr)
        have hkeyed : key record = claim.evidence.sourceId := hkey _ _ hr
        rw [hstep]
        refine ⟨hfrom, fun id r hold => hmono id r ?_,
          List.forall_mem_cons.mpr ⟨fun _ r hlookup => hmono _ r ?_, hcited⟩⟩
        · rw [Dict.get?_set_eq_some]
          by_cases hid : id = key record
          · have hlookup := hs id r hold
            rw [hid, hkeyed, hr] at hlookup
            exact .inl ⟨hid, (Option.some.inj hlookup).symm⟩
          · exact .inr ⟨hid, hold⟩
        · rw [hr] at hlookup
          cases hlookup
          rw [← hkeyed]
          exact Dict.get?_set_self
    · have hstep : selectCited source lookup key (claim :: claims) selected
          = selectCited source lookup key claims selected := by
        simp [selectCited, hsource]
      obtain ⟨hfrom, hmono, hcited⟩ := ih hs
      rw [hstep]
      exact ⟨hfrom, hmono, List.forall_mem_cons.mpr ⟨fun h => absurd h hsource, hcited⟩⟩

end Selection

variable [Hashing] {p q : Projection} {record : LedgerRecord}

/-! ## The reminders of a projection -/

/-- The reminders of the index belong to the run, and the history can hold them. -/
structure ReminderInvariant (p : Projection) : Prop where
  recorded : ∀ {sequence prior}, p.reminderInterventionsBySequence.get? sequence = some prior →
    1 ≤ sequence ∧ prior.runId = p.runId ∧ prior.interventionId ∈ p.interventions
      ∧ ∃ reminder, reminderHistory sequence prior = .ok reminder
  /-- No intervention is in the index twice. -/
  distinct : ∀ {s t a b}, p.reminderInterventionsBySequence.get? s = some a →
    p.reminderInterventionsBySequence.get? t = some b → a.interventionId = b.interventionId → s = t

/-- A verified reminder can be held by the history. -/
theorem reminderHistory_of_verified {cycle : CycleRecord} {intervention : InterventionDecision}
    {configuration : GroundingConfig} {receipt : GroundingReceipt} {context : GroundingContext}
    {current : TraceEvent} {state : GroundingState}
    (h : Verified p cycle intervention configuration receipt context current state)
    (hremind : intervention.action = .remind) :
    ∃ reminder, reminderHistory cycle.lastEventSequence intervention = .ok reminder := by
  obtain ⟨digests, hunblocked⟩ := replayReceipt_remind h.replayed hremind
  obtain ⟨hone, htwo⟩ := hunblocked.bounds
  have hcontext := h.context_eq
  simp only [cycleGroundingContext, built, mapError_eq_ok, GroundingContext.create,
    validate_eq_ok] at hcontext
  obtain ⟨hvalid, -⟩ := hcontext
  simp only [GroundingContextFields.check, constrain_bind_eq_ok] at hvalid
  have hcheck : ReminderHistoryFields.check ⟨intervention.interventionId, intervention.runId,
      cycle.lastEventSequence, digests⟩ = .ok () := by
    simp only [ReminderHistoryFields.check, constrain_bind_eq_ok, refuse_eq_ok, not_not]
    exact ⟨hvalid.1, hvalid.2.1, hone, htwo, hunblocked.nodup⟩
  refine ⟨⟨_, hcheck⟩, ?_⟩
  rw [reminderHistory, expect_bind_eq_ok]
  refine ⟨digests, mapM_eq_some.mpr hunblocked.fingerprints, ?_⟩
  rw [built, mapError_eq_ok, ReminderHistory.create, validate_self hcheck]

/-- An accepted entry keeps the reminders of the index. -/
theorem reminder_accepted (hp : ReminderInvariant p) (hrun : record.runId = p.runId)
    (h : Accepted p record q) : ReminderInvariant q := by
  cases h with
  | event | signal | outcome | delivery | decision | cycle => exact ⟨hp.recorded, hp.distinct⟩
  | commit cycle decision delta intervention bank reminders checked committed commit remembered =>
    -- a reminder of the index is the new one, or was there
    have hcases : ∀ {s a}, reminders.get? s = some a →
        (s = cycle.lastEventSequence ∧ a = intervention ∧ intervention.action = .remind)
          ∨ p.reminderInterventionsBySequence.get? s = some a := by
      intro s a ha
      rw [commitReminder_eq_ok remembered] at ha
      split at ha
      next hnew => exact .inl ⟨hnew.1, (Option.some.inj ha).symm, hnew.2⟩
      next => exact .inr ha
    have hne : ∀ {s a}, p.reminderInterventionsBySequence.get? s = some a →
        a.interventionId ≠ intervention.interventionId := fun ha heq =>
      commit.fresh (heq ▸ (hp.recorded ha).2.2.1)
    refine ⟨fun {s a} ha => ?_, fun {s t a b} ha hb heq => ?_⟩
    · rcases hcases ha with ⟨rfl, rfl, hremind⟩ | hold
      · obtain ⟨configuration, receipt, context, current, state, hverified⟩ :=
          verifyIntervention_eq_ok commit.verified
        refine ⟨cycle.first_le_last.1.trans cycle.first_le_last.2,
          (cycle.intervention_ids commit.intervention_eq).1.trans hrun,
          Dict.mem_set.mpr (.inl rfl), reminderHistory_of_verified hverified hremind⟩
      · obtain ⟨hone, hrunId, hknown, hreminder⟩ := hp.recorded hold
        exact ⟨hone, hrunId, Dict.mem_set_of_mem hknown, hreminder⟩
    · rcases hcases ha with ⟨rfl, rfl, -⟩ | haold
      · rcases hcases hb with ⟨rfl, -, -⟩ | hbold
        · rfl
        · exact absurd heq.symm (hne hbold)
      · rcases hcases hb with ⟨rfl, rfl, -⟩ | hbold
        · exact absurd heq (hne haold)
        · exact hp.distinct haold hbold heq

/-- The reminder invariant holds after every ledger. -/
theorem reminderInvariant {runId : UUID4} (run : LedgerRun runId) :
    ReminderInvariant run.final := by
  refine ledger_invariant run ⟨?_, ?_⟩ fun _ _ _ hrun hp h => reminder_accepted hp hrun h
  · intro sequence prior h
    cases h
  · intro s t a b h
    cases h

/-! ## The full state -/

/-- All events, all latest memories and all reminders before `last`. -/
def fullState (projection : Projection) (last : ℕ) : Except GroundingError GroundingState := do
  let history ← (projection.reminderInterventionsBySequence.items.filter fun item =>
    item.1 < last).mapM fun item => reminderHistory item.1 item.2
  built (GroundingState.create {
    events := projection.eventsById.values
    memories := projection.memories.values
    reminderHistory := history })

/-- The full state is within the limits of a grounding state. -/
structure WithinLimits (p : Projection) (last : ℕ) : Prop where
  events : p.eventsById.size ≤ maxStateRecords
  memories : p.memories.size ≤ maxStateRecords
  reminders : (p.reminderInterventionsBySequence.items.filter fun item => item.1 < last).length
    ≤ maxReminderHistory

/-- The indexes that a grounding state is built from. -/
structure Groundable (p : Projection) : Prop where
  events : EventInvariant p
  reminders : ReminderInvariant p
  /-- Memories are stored under their identities. -/
  memories : ∀ id memory, p.memories.get? id = some memory → memory.memoryId = id

/-- A run can be grounded, also with the memories of a delta. -/
theorem groundable {runId : UUID4} (run : LedgerRun runId) {projection : Projection}
    (h : projection = run.final ∨ ∃ delta assignments last,
      previewMemoryDelta run.final delta assignments last = .ok projection) :
    Groundable projection := by
  have hevents := eventInvariant run
  have hreminders := reminderInvariant run
  have hmemories := memoryInvariant run
  rcases h with rfl | ⟨delta, assignments, last, hpreview⟩
  · exact ⟨hevents, hreminders, fun id memory => hmemories.bank.kept.ident_latest⟩
  · obtain ⟨bank, hbank, rfl⟩ := previewMemoryDelta_eq_ok hpreview
    have hdelta := applyChanges_invariant (le_max_left last run.final.memoryCursor)
      ⟨hmemories.bank.mono (fun _ _ hget => hget) (le_max_right _ _), hmemories.names,
        fun _ hk => hk⟩ hbank
    exact ⟨⟨hevents.keyed, hevents.indexed, hevents.numbered⟩,
      ⟨hreminders.recorded, hreminders.distinct⟩,
      fun id memory => hdelta.keeps.kept.ident_latest⟩

/-- The events of a run have distinct identities and distinct sequences. -/
theorem Groundable.event_ext (hp : Groundable p) {a b : TraceEvent}
    (ha : p.eventsById.get? a.eventId = some a) (hb : p.eventsById.get? b.eventId = some b)
    (h : a.sequence = b.sequence) : a = b := by
  have hseqa := hp.events.indexed.mpr ⟨rfl, ha⟩
  have hseqb := hp.events.indexed.mpr ⟨rfl, hb⟩
  rw [h, hseqb] at hseqa
  exact (Option.some.inj hseqa).symm

theorem Groundable.get?_eventId (hp : Groundable p) {event : TraceEvent}
    (h : event ∈ p.eventsById.values) : p.eventsById.get? event.eventId = some event := by
  obtain ⟨id, hid⟩ := Dict.mem_values.mp h
  rw [(hp.events.keyed hid).1, hid]

/-- The full history: the reminders before `last`, each once. -/
theorem mem_fullHistory {last : ℕ} {history : List ReminderHistory}
    (h : (p.reminderInterventionsBySequence.items.filter fun item => item.1 < last).mapM
      (fun item => reminderHistory item.1 item.2) = .ok history) {reminder : ReminderHistory} :
    reminder ∈ history ↔ ∃ sequence prior, sequence < last
      ∧ p.reminderInterventionsBySequence.get? sequence = some prior
      ∧ reminderHistory sequence prior = .ok reminder := by
  rw [mem_of_mapM_eq_ok h]
  constructor
  · rintro ⟨⟨sequence, prior⟩, hitem, hreminder⟩
    obtain ⟨hmem, hlast⟩ := List.mem_filter.mp hitem
    exact ⟨sequence, prior, of_decide_eq_true hlast, Dict.get?_eq_some.mpr hmem, hreminder⟩
  · rintro ⟨sequence, prior, hlast, hprior, hreminder⟩
    exact ⟨(sequence, prior), List.mem_filter.mpr ⟨Dict.get?_eq_some.mp hprior,
      decide_eq_true hlast⟩, hreminder⟩

/-- Reminders that are built from distinct interventions are distinct. -/
theorem nodup_interventionIds {items : List (ℕ × InterventionDecision)}
    {history : List ReminderHistory}
    (h : items.mapM (fun item => reminderHistory item.1 item.2) = .ok history)
    (hnodup : (items.map fun item => item.2.interventionId).Nodup) :
    (history.map (·.interventionId)).Nodup := by
  have heq : history.map (·.interventionId) = items.map fun item => item.2.interventionId := by
    induction mapM_eq_ok.mp h with
    | nil => rfl
    | cons hxy hrest ih =>
      rw [List.map_cons, List.nodup_cons] at hnodup
      rw [List.map_cons, List.map_cons, ih (mapM_eq_ok.mpr hrest) hnodup.2,
        (reminderHistory_eq_ok hxy).2.2.1]
  rwa [heq]

/-- The records of the full state. -/
theorem fullState_eq_ok {last : ℕ} {full : GroundingState} (h : fullState p last = .ok full) :
    full.events = p.eventsById.values ∧ full.memories = p.memories.values
      ∧ (p.reminderInterventionsBySequence.items.filter fun item => item.1 < last).mapM
        (fun item => reminderHistory item.1 item.2) = .ok full.reminderHistory := by
  simp only [fullState, bind_eq_ok, built, mapError_eq_ok, GroundingState.create,
    validate_eq_ok] at h
  obtain ⟨history, hhistory, -, rfl⟩ := h
  exact ⟨rfl, rfl, hhistory⟩

/-- The interventions of distinct items of the index are distinct. -/
theorem Groundable.nodup_interventionIds (hp : Groundable p)
    {items : List (ℕ × InterventionDecision)} (hnodup : items.Nodup)
    (hitems : ∀ item ∈ items, p.reminderInterventionsBySequence.get? item.1 = some item.2) :
    (items.map fun item => item.2.interventionId).Nodup := by
  refine hnodup.map_on fun x hx y hy heq => ?_
  have hxget := hitems x hx
  have hseq := hp.reminders.distinct hxget (hitems y hy) heq
  rw [hseq, hitems y hy] at hxget
  exact Prod.ext hseq (Option.some.inj hxget).symm

/-- Within its limits, there is a full state. -/
theorem exists_fullState (hp : Groundable p) {last : ℕ} (hlimits : WithinLimits p last) :
    ∃ full, fullState p last = .ok full := by
  obtain ⟨history, hhistory⟩ : ∃ history, (p.reminderInterventionsBySequence.items.filter
      fun item => item.1 < last).mapM (fun item => reminderHistory item.1 item.2) = .ok history :=
    exists_mapM_eq_ok fun item hitem =>
      (hp.reminders.recorded (Dict.get?_eq_some.mpr (List.mem_filter.mp hitem).1)).2.2.2
  have hids : (history.map (·.interventionId)).Nodup :=
    SalienceGate.nodup_interventionIds hhistory (hp.nodup_interventionIds
      ((List.Nodup.of_map _ p.reminderInterventionsBySequence.nodup_keys).filter _)
      fun item hitem => Dict.get?_eq_some.mpr (List.mem_filter.mp hitem).1)
  have hlength : history.length ≤ maxReminderHistory :=
    (mapM_eq_ok.mp hhistory).length_eq ▸ hlimits.reminders
  have hevents : (p.eventsById.values.map (·.eventId)).Nodup :=
    Dict.nodup_map_values fun id event h => (hp.events.keyed h).1
  have hcheck : GroundingStateFields.check ⟨p.eventsById.values, p.memories.values, history⟩
      = .ok () := by
    simp only [GroundingStateFields.check, constrain_bind_eq_ok, refuse_bind_eq_ok, refuse_eq_ok,
      not_not]
    refine ⟨by simpa [Dict.values, Dict.size] using hlimits.events,
      by simpa [Dict.values, Dict.size] using hlimits.memories, hlength, hevents, ?_,
      Dict.nodup_map_values hp.memories, hids⟩
    refine (List.Nodup.of_map _ hevents).map_on fun a ha b hb heq => ?_
    exact hp.event_ext (hp.get?_eventId ha) (hp.get?_eventId hb) (congrArg Prod.snd heq)
  refine ⟨⟨_, hcheck⟩, ?_⟩
  rw [fullState, hhistory]
  exact mapError_eq_ok.mpr (validate_self hcheck)

/-! ## The bounded state -/

omit [Hashing] in
/-- Some of the records of a state, each once, are a state. -/
theorem GroundingState.check_of_subset (state : GroundingState) {events : List TraceEvent}
    {memories : List MemoryRecord} {history : List ReminderHistory}
    (hevents : events.Nodup ∧ events ⊆ state.events)
    (hmemories : memories.Nodup ∧ memories ⊆ state.memories)
    (hhistory : history.Nodup ∧ history ⊆ state.reminderHistory) :
    GroundingStateFields.check ⟨events, memories, history⟩ = .ok () := by
  have hvalid := state.valid
  simp only [GroundingStateFields.check, constrain_bind_eq_ok, refuse_bind_eq_ok, refuse_eq_ok,
    not_not] at hvalid ⊢
  obtain ⟨helen, hmlen, hhlen, heids, heseq, hmids, hhids⟩ := hvalid
  have hlength : ∀ {α : Type} {l l' : List α}, l.Nodup ∧ l ⊆ l' → l.length ≤ l'.length :=
    fun h => (List.subperm_of_subset h.1 h.2).length_le
  have hmap : ∀ {α β : Type} {f : α → β} {l l' : List α}, l.Nodup ∧ l ⊆ l' → (l'.map f).Nodup →
      (l.map f).Nodup := fun h hf => h.1.map_on fun a ha b hb heq =>
    List.inj_on_of_nodup_map hf (h.2 ha) (h.2 hb) heq
  exact ⟨(hlength hevents).trans helen, (hlength hmemories).trans hmlen,
    (hlength hhistory).trans hhlen, hmap hevents heids, hmap hevents heseq, hmap hmemories hmids,
    hmap hhistory hhids⟩

/-- What the bounded state selects. -/
structure Selects (p : Projection) (configuration : GroundingConfig) (current : TraceEvent)
    (claims : List ProposedClaim) (last : ℕ) (state : GroundingState) : Prop where
  events : ∀ event ∈ state.events, p.eventsById.get? event.eventId = some event
  current : current ∈ state.events
  memories : ∀ memory ∈ state.memories, p.memories.get? memory.memoryId = some memory
  citedEvents : ∀ claim ∈ claims, claim.evidence.source = .event → ∀ event,
    p.eventsById.get? claim.evidence.sourceId = some event → event ∈ state.events
  citedMemories : ∀ claim ∈ claims, claim.evidence.source = .memory → ∀ memory,
    p.memories.get? claim.evidence.sourceId = some memory → memory ∈ state.memories
  history : ∀ reminder, reminder ∈ state.reminderHistory → ∃ sequence prior, sequence < last
    ∧ p.reminderInterventionsBySequence.get? sequence = some prior
    ∧ reminderHistory sequence prior = .ok reminder
  window : ∀ sequence prior reminder, sequence < last → last - sequence ≤ historyWindow configuration →
    p.reminderInterventionsBySequence.get? sequence = some prior →
    reminderHistory sequence prior = .ok reminder → reminder ∈ state.reminderHistory

/-- The full state selects everything. -/
theorem fullState_selects (hp : Groundable p) {configuration : GroundingConfig}
    {current : TraceEvent} {claims : List ProposedClaim} {last : ℕ} {full : GroundingState}
    (h : fullState p last = .ok full)
    (hcurrent : p.eventsBySequence.get? last = some current) :
    Selects p configuration current claims last full := by
  obtain ⟨hevents, hmemories, hhistory⟩ := fullState_eq_ok h
  refine ⟨fun event hevent => hp.get?_eventId (hevents ▸ hevent),
    hevents ▸ Dict.mem_values.mpr ⟨_, (hp.events.indexed.mp hcurrent).2⟩,
    fun memory hmemory => ?_,
    fun claim _ _ event hevent => hevents ▸ Dict.mem_values.mpr ⟨_, hevent⟩,
    fun claim _ _ memory hmemory => hmemories ▸ Dict.mem_values.mpr ⟨_, hmemory⟩,
    fun reminder hreminder => (mem_fullHistory hhistory).mp hreminder,
    fun sequence prior reminder hlast _ hprior hreminder =>
      (mem_fullHistory hhistory).mpr ⟨sequence, prior, hlast, hprior, hreminder⟩⟩
  obtain ⟨id, hid⟩ := Dict.mem_values.mp (hmemories ▸ hmemory)
  rw [hp.memories id memory hid, hid]

/-- The reminders of a window can be held, and each is held once. -/
theorem exists_remindersBetween (hp : Groundable p) (first last : ℕ) :
    ∃ history, remindersBetween p first last = .ok history ∧ history.Nodup := by
  have hitems : ∀ item ∈ (List.range' first (last - first)).filterMap fun sequence =>
      (p.reminderInterventionsBySequence.get? sequence).map fun prior => (sequence, prior),
      p.reminderInterventionsBySequence.get? item.1 = some item.2 := by
    intro item hitem
    obtain ⟨sequence, -, hsequence⟩ := List.mem_filterMap.mp hitem
    obtain ⟨prior, hprior, rfl⟩ := Option.map_eq_some_iff.mp hsequence
    exact hprior
  obtain ⟨history, hhistory⟩ := exists_mapM_eq_ok fun item hitem =>
    (hp.reminders.recorded (hitems item hitem)).2.2.2
  refine ⟨history, hhistory, List.Nodup.of_map _ (SalienceGate.nodup_interventionIds hhistory
    (hp.nodup_interventionIds (List.Nodup.filterMap ?_ List.nodup_range') hitems))⟩
  intro s t item hs ht
  obtain ⟨_, -, rfl⟩ := Option.map_eq_some_iff.mp hs
  obtain ⟨_, -, heq⟩ := Option.map_eq_some_iff.mp ht
  exact (congrArg Prod.fst heq).symm

/-- If there is a full state, there is a bounded one, and it selects what is cited. -/
theorem exists_boundedState (hp : Groundable p) (configuration : GroundingConfig)
    (claims : List ProposedClaim) {current : TraceEvent} {last : ℕ} {full : GroundingState}
    (hfull : fullState p last = .ok full)
    (hcurrent : p.eventsBySequence.get? last = some current) :
    ∃ bounded, boundedState p configuration current claims last = .ok bounded
      ∧ Selects p configuration current claims last bounded := by
  obtain ⟨hevents, hmemories, hfullHistory⟩ := fullState_eq_ok hfull
  have hcurrentId := (hp.events.indexed.mp hcurrent).2
  -- the two loops
  have hefirst : SelectedFrom p.eventsById.get? (Dict.empty.set current.eventId current) := by
    intro id r hr
    rcases Dict.get?_set_eq_some.mp hr with ⟨rfl, rfl⟩ | ⟨-, hold⟩
    · exact hcurrentId
    · cases hold
  have hekeyed : ∀ id event, p.eventsById.get? id = some event → event.eventId = id :=
    fun id event h => (hp.events.keyed h).1
  obtain ⟨hefrom, hekeep, hecited⟩ := selectCited_spec .event claims hekeyed hefirst
  have hmfirst : SelectedFrom p.memories.get? .empty := by
    intro id r hr
    cases hr
  obtain ⟨hmfrom, -, hmcited⟩ := selectCited_spec .memory claims hp.memories hmfirst
  obtain ⟨history, hhistory, hnodup⟩ := exists_remindersBetween hp
    (max 1 (last - historyWindow configuration)) last
  -- what is selected is part of the full state
  have hesub : ((selectedEvents p current claims).values.insertionSort eventOrder).Nodup
      ∧ (selectedEvents p current claims).values.insertionSort eventOrder ⊆ full.events := by
    refine ⟨(List.perm_insertionSort _ _).nodup_iff.mpr (List.Nodup.of_map _
      (Dict.nodup_map_values fun id r h => (hp.events.keyed (hefrom id r h)).1)), ?_⟩
    intro event hevent
    obtain ⟨id, hid⟩ := Dict.mem_values.mp ((List.perm_insertionSort _ _).mem_iff.mp hevent)
    rw [hevents]
    exact Dict.mem_values.mpr ⟨id, hefrom id event hid⟩
  have hmsub : ((selectedMemories p claims).values.insertionSort fun a b =>
        a.memoryId.int.toNat ≤ b.memoryId.int.toNat).Nodup
      ∧ ((selectedMemories p claims).values.insertionSort fun a b =>
        a.memoryId.int.toNat ≤ b.memoryId.int.toNat) ⊆ full.memories := by
    refine ⟨(List.perm_insertionSort _ _).nodup_iff.mpr (List.Nodup.of_map _
      (Dict.nodup_map_values fun id r h => hp.memories id r (hmfrom id r h))), ?_⟩
    intro memory hmemory
    obtain ⟨id, hid⟩ := Dict.mem_values.mp ((List.perm_insertionSort _ _).mem_iff.mp hmemory)
    rw [hmemories]
    exact Dict.mem_values.mpr ⟨id, hmfrom id memory hid⟩
  have hhsub : history.Nodup ∧ history ⊆ full.reminderHistory := by
    refine ⟨hnodup, fun reminder hreminder => ?_⟩
    obtain ⟨sequence, prior, -, hlast, hprior, hbuilt⟩ :=
      (mem_remindersBetween hhistory).mp hreminder
    exact (mem_fullHistory hfullHistory).mpr ⟨sequence, prior, hlast, hprior, hbuilt⟩
  refine ⟨⟨_, full.check_of_subset hesub hmsub hhsub⟩, ?_, ?_⟩
  · rw [boundedState, hhistory]
    exact mapError_eq_ok.mpr (validate_self (full.check_of_subset hesub hmsub hhsub))
  · refine ⟨fun event hevent => hp.get?_eventId (hevents ▸ hesub.2 hevent), ?_,
      fun memory hmemory => ?_, fun claim hclaim hsource event hevent => ?_,
      fun claim hclaim hsource memory hmemory => ?_, fun reminder hreminder => ?_,
      fun sequence prior reminder hlast hwindow hprior hreminder => ?_⟩
    · exact (List.perm_insertionSort _ _).mem_iff.mpr
        (Dict.mem_values.mpr ⟨_, hekeep _ _ Dict.get?_set_self⟩)
    · obtain ⟨id, hid⟩ := Dict.mem_values.mp (hmemories ▸ hmsub.2 hmemory)
      rw [hp.memories id memory hid, hid]
    · exact (List.perm_insertionSort _ _).mem_iff.mpr
        (Dict.mem_values.mpr ⟨_, hecited claim hclaim hsource event hevent⟩)
    · exact (List.perm_insertionSort _ _).mem_iff.mpr
        (Dict.mem_values.mpr ⟨_, hmcited claim hclaim hsource memory hmemory⟩)
    · obtain ⟨sequence, prior, -, hlast, hprior, hbuilt⟩ :=
        (mem_remindersBetween hhistory).mp hreminder
      exact ⟨sequence, prior, hlast, hprior, hbuilt⟩
    · have hone := (hp.reminders.recorded hprior).1
      exact (mem_remindersBetween hhistory).mpr ⟨sequence, prior, by omega, hlast, hprior,
        hreminder⟩

/-! ## Telling the states apart -/

section Replay

variable {configuration : GroundingConfig} {current : TraceEvent} {context : GroundingContext}
  {claims : List ProposedClaim} {state full : GroundingState}

/-- A selected state is a valid input exactly if the run and the time of the current event fit. -/
theorem Selects.inputsValid (hp : Groundable p)
    (h : Selects p configuration current claims context.currentEventSequence state)
    (hcurrent : p.eventsBySequence.get? context.currentEventSequence = some current) :
    groundingInputsValid context state
      = (decide (p.runId = context.runId) && decide (current.timestamp ≤ context.createdAt)) := by
  have hsequence := (hp.events.indexed.mp hcurrent).1
  have hcurrentId := (hp.events.indexed.mp hcurrent).2
  have hruns : ∀ event ∈ state.events, event.runId = p.runId := fun event hevent =>
    (hp.events.keyed (h.events event hevent)).2
  by_cases hrun : p.runId = context.runId
  · have hnodup : state.events.Nodup := by
      have hvalid := state.valid
      simp only [GroundingStateFields.check, constrain_bind_eq_ok, refuse_bind_eq_ok,
        not_not] at hvalid
      exact List.Nodup.of_map _ hvalid.2.2.2.1
    have hfilter : (state.events.filter fun event => event.runId = context.runId
        && event.sequence = context.currentEventSequence) = [current] := by
      refine filter_eq_singleton hnodup h.current ?_ fun event hevent hmatch => ?_
      · simp [hruns current h.current, hrun, hsequence]
      · simp only [Bool.and_eq_true, decide_eq_true_eq] at hmatch
        exact hp.event_ext (h.events event hevent) hcurrentId (hmatch.2.trans hsequence.symm)
    have hhistory : (state.reminderHistory.all fun reminder => reminder.runId = context.runId
        && reminder.eventSequence < context.currentEventSequence) = true := by
      refine List.all_eq_true.mpr fun reminder hreminder => ?_
      obtain ⟨sequence, prior, hlast, hprior, hbuilt⟩ := h.history reminder hreminder
      obtain ⟨hreminderSequence, hreminderRun, -⟩ := reminderHistory_eq_ok hbuilt
      simp only [Bool.and_eq_true, decide_eq_true_eq]
      exact ⟨by rw [hreminderRun, (hp.reminders.recorded hprior).2.1, hrun],
        hreminderSequence ▸ hlast⟩
    simp only [groundingInputsValid, hfilter, hhistory, hrun, decide_true, Bool.and_true,
      Bool.true_and]
  · have hfilter : (state.events.filter fun event => event.runId = context.runId
        && event.sequence = context.currentEventSequence) = [] := by
      refine List.filter_eq_nil_iff.mpr fun event hevent hmatch => ?_
      simp only [Bool.and_eq_true, decide_eq_true_eq] at hmatch
      exact hrun ((hruns event hevent).symm.trans hmatch.1)
    simp only [groundingInputsValid, hfilter, hrun, decide_false, Bool.false_and]

/-- What a citation resolves to in all of the records of a projection. -/
def resolveCited (p : Projection) (configuration : GroundingConfig) (context : GroundingContext)
    (claim : ProposedClaim) : Except ReasonCode (Option String × TrustLabel) :=
  match claim.evidence.source with
  | .memory => expect (p.memories.get? claim.evidence.sourceId) .citationMissing
      >>= resolveMemory claim context
  | .event => expect (p.eventsById.get? claim.evidence.sourceId) .citationMissing
      >>= resolveEvent claim context configuration

/-- A selected state finds what the projection has for a citation. -/
theorem Selects.resolveSource_eq (hp : Groundable p) {last : ℕ}
    (h : Selects p configuration current claims last state) {claim : ProposedClaim}
    (hclaim : claim ∈ claims) :
    resolveSource claim context state configuration = resolveCited p configuration context claim := by
  cases hsource : claim.evidence.source with
  | memory =>
    have hfind := find?_key_eq_lookup h.memories fun memory hmemory =>
      ⟨h.citedMemories claim hclaim hsource memory hmemory, hp.memories _ memory hmemory⟩
    simp only [resolveSource, resolveCited, hsource, hfind]
  | event =>
    have hfind := find?_key_eq_lookup h.events fun event hevent =>
      ⟨h.citedEvents claim hclaim hsource event hevent, (hp.events.keyed hevent).1⟩
    simp only [resolveSource, resolveCited, hsource, hfind]

/-- Two selected states cannot be told apart. -/
theorem Selects.indistinguishable (hp : Groundable p)
    (h : Selects p configuration current claims context.currentEventSequence state)
    (h' : Selects p configuration current claims context.currentEventSequence full)
    (hcurrent : p.eventsBySequence.get? context.currentEventSequence = some current) :
    Indistinguishable configuration context claims state full where
  inputs := by rw [h.inputsValid hp hcurrent, h'.inputsValid hp hcurrent]
  sources claim hclaim := by rw [h.resolveSource_eq hp hclaim, h'.resolveSource_eq hp hclaim]
  history reminder hwindow := by
    constructor
    · intro hreminder
      obtain ⟨sequence, prior, hlast, hprior, hbuilt⟩ := h.history reminder hreminder
      exact h'.window sequence prior reminder hlast
        ((reminderHistory_eq_ok hbuilt).1 ▸ hwindow) hprior hbuilt
    · intro hreminder
      obtain ⟨sequence, prior, hlast, hprior, hbuilt⟩ := h'.history reminder hreminder
      exact h.window sequence prior reminder hlast
        ((reminderHistory_eq_ok hbuilt).1 ▸ hwindow) hprior hbuilt

end Replay

/-- Grounding in a bounded state. In every run, also with the memories of a delta that is being
committed, and for every cycle, intervention and receipt: if the full state is within its limits,
the bounded state exists, and a replay of the receipt in it is the replay in the full state. And
what `ground` returns for any proposal, valid or not, stores a receipt that replays to it. -/
theorem bounded_verification :
    (∀ (runId : UUID4) (run : LedgerRun runId) (projection : Projection),
      (projection = run.final ∨ ∃ delta assignments last,
        previewMemoryDelta run.final delta assignments last = .ok projection) →
      ∀ (cycle : CycleRecord) (intervention : InterventionDecision) (receipt : GroundingReceipt)
        (configuration : GroundingConfig) (context : GroundingContext) (current : TraceEvent),
      cycleGroundingContext cycle intervention receipt = .ok context →
      projection.eventsBySequence.get? cycle.lastEventSequence = some current →
      WithinLimits projection cycle.lastEventSequence →
      ∃ bounded full,
        boundedState projection configuration current receipt.claims cycle.lastEventSequence
          = .ok bounded
        ∧ fullState projection cycle.lastEventSequence = .ok full
        ∧ replayReceipt configuration receipt context bounded
          = replayReceipt configuration receipt context full)
    ∧ ∀ (configuration : GroundingConfig) (proposal : ProposalArgument)
        (context : GroundingContext) (state : GroundingState),
      (groundingInputsValid context state = true → ∃ decision,
        ground configuration proposal context state = .ok decision)
      ∧ ∀ decision, ground configuration proposal context state = .ok decision →
        ∃ receipt, GroundingReceipt.modelValidateJson decision.groundingReceipt = some receipt
          ∧ replayReceipt configuration receipt context state = .ok decision := by
  refine ⟨fun runId run projection hprojection cycle intervention receipt configuration context
    current hcontext hcurrent hlimits => ?_, fun configuration proposal context state =>
      ⟨fun hinputs => ?_, fun decision hdecision => ?_⟩⟩
  · have hp := groundable run hprojection
    obtain ⟨full, hfull⟩ := exists_fullState hp hlimits
    obtain ⟨bounded, hbounded, hselects⟩ :=
      exists_boundedState hp configuration receipt.claims hfull hcurrent
    refine ⟨bounded, full, hbounded, hfull, replayReceipt_indistinguishable ?_⟩
    have hsequence : context.currentEventSequence = cycle.lastEventSequence :=
      cycleGroundingContext_sequence hcontext
    rw [← hsequence] at hselects hfull hcurrent
    exact hselects.indistinguishable hp (fullState_selects hp hfull hcurrent) hcurrent
  · obtain ⟨decision, -, hdecision, -⟩ := replayReceipt_ground configuration proposal hinputs
    exact ⟨decision, hdecision⟩
  · have hinputs : groundingInputsValid context state = true := by
      by_contra hinvalid
      rw [ground, Bool.not_eq_true _ |>.mp hinvalid] at hdecision
      simp [raiseIf, bind, Except.bind] at hdecision
    obtain ⟨found, receipt, hground, hreceipt, hreplay⟩ :=
      replayReceipt_ground configuration proposal hinputs
    rw [hdecision] at hground
    cases hground
    exact ⟨receipt, hreceipt, hreplay⟩

end SalienceGate
