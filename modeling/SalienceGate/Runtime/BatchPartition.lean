import SalienceGate.Runtime.Batching

/-!
# Every event is represented once

The events of a slice are in the order of their sequences and have identities of their own. Aggregates of such
events pass their validators, and so does the payload that has any part of the slice verbatim and the rest of it
in aggregates: each event is in the one or in the other, and once.
-/

namespace SalienceGate

open Checked Grouping

/-! ## Priorities -/

/-- No event has a priority twice. -/
def UniqueReasons (reasons : PriorityReasons) : Prop := ∀ id, (reasonsOf reasons id).Nodup

theorem reasonsOf_addReason (kind : BatchPriorityKind) (reasons : PriorityReasons) (id id' : UUID4) :
    reasonsOf (addReason kind reasons id) id' = if id' = id then
      (if kind ∈ reasonsOf reasons id then reasonsOf reasons id else reasonsOf reasons id ++ [kind])
    else reasonsOf reasons id' := by
  have hget : (addReason kind reasons id).get? id' = if id' = id then
      some (if kind ∈ reasonsOf reasons id then reasonsOf reasons id else reasonsOf reasons id ++ [kind])
    else reasons.get? id' := Dict.get?_set
  show ((addReason kind reasons id).get? id').getD [] = _
  rw [hget]
  by_cases h : id' = id
  · rw [if_pos h, if_pos h]
    rfl
  · rw [if_neg h, if_neg h]
    rfl

theorem UniqueReasons.addReason {reasons : PriorityReasons} (h : UniqueReasons reasons) (kind : BatchPriorityKind)
    (id : UUID4) : UniqueReasons (addReason kind reasons id) := by
  intro id'
  rw [reasonsOf_addReason]
  split
  next =>
    split
    next => exact h id
    next hnew =>
      refine List.nodup_append.mpr ⟨h id, List.nodup_singleton _, fun a ha b hb => ?_⟩
      rw [List.mem_singleton.mp hb]
      exact fun heq => hnew (heq ▸ ha)
  next => exact h id'

theorem UniqueReasons.addEventReasons {reasons : PriorityReasons} (h : UniqueReasons reasons) (event : TraceEvent) :
    UniqueReasons (addEventReasons reasons event) := by
  unfold SalienceGate.addEventReasons
  have hfirst : UniqueReasons (if event.eventType = .controllerError then
      SalienceGate.addReason .controllerError reasons event.eventId else reasons) := by
    split
    next => exact h.addReason _ _
    next => exact h
  show UniqueReasons (if event.eventType = .actionProposal then _ else _)
  split
  next => exact hfirst.addReason _ _
  next => exact hfirst

theorem UniqueReasons.addSignalReasons {reasons : PriorityReasons} (h : UniqueReasons reasons) (signal : Signal) :
    UniqueReasons (addSignalReasons reasons signal) := by
  unfold SalienceGate.addSignalReasons
  split
  next => exact h
  next kind _ =>
    refine List.foldlRecOn signal.evidenceEventIds _ h fun reasons hreasons id _ => ?_
    exact hreasons.addReason kind id

/-- The priorities of a request are sets. -/
theorem uniqueReasons_priorityReasons (request : BatchRequest) : UniqueReasons (priorityReasons request) := by
  unfold priorityReasons
  have hempty : UniqueReasons (.empty : PriorityReasons) := fun _ => List.nodup_nil
  have hevents : UniqueReasons (request.events.foldl addEventReasons .empty) :=
    List.foldlRecOn request.events _ hempty fun _ h event _ => h.addEventReasons event
  exact List.foldlRecOn request.signals _ hevents fun _ h signal _ => h.addSignalReasons signal

variable {reasons : PriorityReasons}

/-- The priorities of an event pass their validator. -/
theorem checkPriorityKinds_sortedKinds (h : UniqueReasons reasons) (event : TraceEvent) :
    checkPriorityKinds (sortedKinds reasons event) = .ok () := by
  unfold checkPriorityKinds
  rw [refuse_bind_eq_ok, constrain_eq_ok, not_not]
  constructor
  · exact (perm_sortBy BatchPriorityKind.value _).nodup_iff.mpr (h event.eventId)
  · exact (sortBy_sortBy BatchPriorityKind.value _).symm

theorem verbatimEvent_eq_ok (h : UniqueReasons reasons) (event : TraceEvent) :
    ∃ verbatim, verbatimEvent event reasons = .ok verbatim
      ∧ verbatim.toVerbatimEventFields = ⟨event, sortedKinds reasons event⟩ := by
  have hvalid := checkPriorityKinds_sortedKinds h event
  refine ⟨⟨⟨event, sortedKinds reasons event⟩, hvalid⟩, ?_, rfl⟩
  unfold verbatimEvent
  rw [mapError_eq_ok]
  exact @validate_self _ _ _ (fun fields : VerbatimEventFields => checkPriorityKinds fields.priorityKinds)
    VerbatimEvent.mk ⟨event, sortedKinds reasons event⟩ hvalid

/-! ## Slices -/

/-- Events in the order of their sequences, with identities of their own. -/
structure Slice (events : List TraceEvent) : Prop where
  sorted : (events.map (·.sequence)).Pairwise (· < ·)
  nodup : (events.map (·.eventId)).Nodup

variable {events : List TraceEvent}

namespace Slice

theorem filter (h : Slice events) (p : TraceEvent → Bool) : Slice (events.filter p) where
  sorted := h.sorted.sublist (List.filter_sublist.map _)
  nodup := h.nodup.sublist (List.filter_sublist.map _)

theorem positive (events : List TraceEvent) : ∀ sequence ∈ events.map (·.sequence), 1 ≤ sequence := by
  intro sequence hsequence
  obtain ⟨event, -, rfl⟩ := List.mem_map.mp hsequence
  have hvalid := event.valid
  unfold TraceEventFields.check at hvalid
  exact (constrain_bind_eq_ok.mp hvalid).1

/-- The events of a slice are already in the order of their sequences. -/
theorem sortBy_eq (h : Slice events) : sortBy (·.sequence) events = events := by
  have hle : events.Pairwise fun a b => a.sequence ≤ b.sequence :=
    (List.pairwise_map.mp h.sorted).imp fun hlt => hlt.le
  exact List.Pairwise.insertionSort_eq hle

theorem ids_inj (h : Slice events) {a b : TraceEvent} (ha : a ∈ events) (hb : b ∈ events)
    (hid : a.eventId = b.eventId) : a = b := List.inj_on_of_nodup_map h.nodup ha hb hid

theorem sequences_inj (h : Slice events) {a b : TraceEvent} (ha : a ∈ events) (hb : b ∈ events)
    (hsequence : a.sequence = b.sequence) : a = b := by
  have hnodup : (events.map (·.sequence)).Nodup := h.sorted.imp fun hlt => hlt.ne
  exact List.inj_on_of_nodup_map hnodup ha hb hsequence

end Slice

/-! ## Aggregates -/

theorem forall₂_map_eq {α β γ : Type} {f : β → γ} {g : α → γ} {xs : List α} {ys : List β}
    (h : List.Forall₂ (fun x y => f y = g x) xs ys) : ys.map f = xs.map g := by
  induction h with
  | nil => rfl
  | cons hhead _ ih => rw [List.map_cons, List.map_cons, hhead, ih]

theorem exists_of_forall₂ {α β : Type} {R : α → β → Prop} {xs : List α} {ys : List β} (h : List.Forall₂ R xs ys)
    {y : β} (hy : y ∈ ys) : ∃ x ∈ xs, R x y := by
  induction h with
  | nil => cases hy
  | cons hhead _ ih =>
    rcases List.mem_cons.mp hy with rfl | hy
    · exact ⟨_, List.mem_cons_self, hhead⟩
    · obtain ⟨x, hx, hR⟩ := ih hy
      exact ⟨x, List.mem_cons_of_mem _ hx, hR⟩

/-- Ranges of an increasing list of positive numbers. -/
theorem sequenceRanges_eq_ok {sequences : List ℕ} (hne : sequences ≠ []) (hsorted : sequences.Pairwise (· < ·))
    (hpositive : ∀ sequence ∈ sequences, 1 ≤ sequence) :
    ∃ ranges, sequenceRanges sequences = .ok ranges
      ∧ ranges.map (fun range => (range.firstSequence, range.lastSequence)) = Intervals.ranges sequences := by
  have hordered : sortBy id sequences = sequences :=
    List.Pairwise.insertionSort_eq (hsorted.imp fun hlt => hlt.le)
  have hrange : ∀ range ∈ Intervals.ranges sequences, ∃ made,
      (SequenceRange.create ⟨range.1, range.2⟩).mapError BatchError.invalid = .ok made
        ∧ (made.firstSequence, made.lastSequence) = range := by
    intro range hmem
    have hle := Intervals.ranges_le hsorted hmem
    have hnumbers : range.1 ∈ (Intervals.ranges sequences).flatMap Intervals.numbers := by
      refine List.mem_flatMap.mpr ⟨range, hmem, ?_⟩
      unfold Intervals.numbers
      rw [List.mem_range'_1]
      omega
    rw [Intervals.flatMap_numbers_ranges hsorted] at hnumbers
    have hfirst := hpositive _ hnumbers
    have hvalid : SequenceRangeFields.check ⟨range.1, range.2⟩ = .ok () := by
      unfold SequenceRangeFields.check
      rw [constrain_bind_eq_ok, constrain_bind_eq_ok, refuse_eq_ok]
      exact ⟨hfirst, hfirst.trans hle, not_lt.mpr hle⟩
    refine ⟨⟨_, hvalid⟩, ?_, rfl⟩
    rw [mapError_eq_ok]
    exact validate_self hvalid
  obtain ⟨ranges, hranges, hall⟩ := exists_mapM_forall₂ hrange
  refine ⟨ranges, ?_, ?_⟩
  · unfold sequenceRanges
    rw [raiseIf_bind_of_not hne, hordered]
    exact hranges
  · exact (forall₂_map_eq hall).trans (List.map_id _)

theorem checkProvenance_eq_ok {ranges : List SequenceRange} {previousLast : ℕ}
    (hfirst : ∀ range ∈ ranges, previousLast < range.firstSequence)
    (hseparated : ranges.Pairwise fun p q => p.lastSequence < q.firstSequence) :
    checkProvenance previousLast ranges = .ok () := by
  induction ranges generalizing previousLast with
  | nil => rfl
  | cons range ranges ih =>
    obtain ⟨hbefore, hrest⟩ := List.pairwise_cons.mp hseparated
    unfold checkProvenance
    rw [refuse_bind_eq_ok]
    exact ⟨not_le.mpr (hfirst range List.mem_cons_self), ih hbefore hrest⟩

theorem representedCount_eq (ranges : List SequenceRange) :
    representedCount ranges
      = (ranges.flatMap fun range => Intervals.numbers (range.firstSequence, range.lastSequence)).length := by
  unfold representedCount
  rw [List.length_flatMap]
  refine congrArg List.sum (List.map_congr_left fun range _ => ?_)
  have hvalid := range.valid
  unfold SequenceRangeFields.check at hvalid
  rw [constrain_bind_eq_ok, constrain_bind_eq_ok, refuse_eq_ok] at hvalid
  have hle := not_lt.mp hvalid.2.2
  unfold Intervals.numbers
  rw [List.length_range']
  show _ = range.lastSequence + 1 - range.firstSequence
  omega

variable [FloatRepr] [Hashing]

/-- What the aggregate of a slice has: the type of its events, their number, and where they are. -/
structure IsAggregate (events : List TraceEvent) (kinds : List BatchPriorityKind) (aggregate : EventAggregate) :
    Prop where
  first : ∃ event, events.head? = some event ∧ aggregate.eventType = event.eventType ∧ aggregate.phase = event.phase
    ∧ aggregate.trustLabel = event.trustLabel ∧ aggregate.structuralFingerprint = eventStructuralFingerprint event
    ∧ aggregate.firstSequence = event.sequence
  last : ∃ event, events.getLast? = some event ∧ aggregate.lastSequence = event.sequence
  kinds : aggregate.priorityKinds = kinds
  count : aggregate.count = events.length
  ranges : aggregate.provenanceRanges.map (fun range => (range.firstSequence, range.lastSequence))
    = Intervals.ranges (events.map (·.sequence))
  ids : aggregate.sourceEventIds = events.map (·.eventId)

/-- The ranges of an aggregate hold the sequences of its events. -/
theorem IsAggregate.numbers {kinds : List BatchPriorityKind} {made : EventAggregate}
    (h : IsAggregate events kinds made) (hslice : Slice events) :
    (made.provenanceRanges.flatMap fun range => Intervals.numbers (range.firstSequence, range.lastSequence))
      = events.map (·.sequence) := by
  have hmapped := congrArg (List.flatMap Intervals.numbers) h.ranges
  rw [List.flatMap_map, Intervals.flatMap_numbers_ranges hslice.sorted] at hmapped
  exact hmapped

/-- A slice that is not empty has an aggregate. -/
theorem aggregate_eq_ok {kinds : List BatchPriorityKind} (hne : events ≠ []) (hslice : Slice events)
    (hkinds : checkPriorityKinds kinds = .ok ()) :
    ∃ made, aggregate events kinds = .ok made ∧ IsAggregate events kinds made := by
  obtain ⟨first, hfirst⟩ : ∃ first, events.head? = some first := by
    cases events with
    | nil => exact absurd rfl hne
    | cons event rest => exact ⟨event, rfl⟩
  obtain ⟨last, hlast⟩ : ∃ last, events.getLast? = some last := by
    rw [List.getLast?_eq_some_getLast hne]
    exact ⟨_, rfl⟩
  have hsequences : events.map (·.sequence) ≠ [] := fun h => hne (List.map_eq_nil_iff.mp h)
  obtain ⟨ranges, hranges, hpairs⟩ := sequenceRanges_eq_ok hsequences hslice.sorted (Slice.positive events)
  have hfirstSequence : (events.map (·.sequence)).head? = some first.sequence := by rw [List.head?_map, hfirst]; rfl
  have hlastSequence : (events.map (·.sequence)).getLast? = some last.sequence := by
    rw [List.getLast?_map, hlast]; rfl
  have hlength : 1 ≤ events.length := List.length_pos_iff.mpr hne
  have hseparated : ranges.Pairwise fun p q => p.lastSequence < q.firstSequence := by
    have hpairwise := Intervals.ranges_separated hslice.sorted
    rw [← hpairs, List.pairwise_map] at hpairwise
    exact hpairwise
  have hpositive : ∀ range ∈ ranges, 0 < range.firstSequence := by
    intro range _
    have hvalid := range.valid
    unfold SequenceRangeFields.check at hvalid
    exact (constrain_bind_eq_ok.mp hvalid).1
  have hcount : representedCount ranges = events.length := by
    have hlengths : (events.map (·.sequence)).length = events.length := List.length_map _
    rw [representedCount_eq, ← hlengths, ← Intervals.flatMap_numbers_ranges hslice.sorted, ← hpairs, List.flatMap_map]
  have hhead : ranges.head?.map (·.firstSequence) = some first.sequence := by
    rw [← hfirstSequence, ← Intervals.head?_ranges, ← hpairs, List.head?_map, Option.map_map]
    rfl
  have hend : ranges.getLast?.map (·.lastSequence) = some last.sequence := by
    rw [← hlastSequence, ← Intervals.getLast?_ranges, ← hpairs, List.getLast?_map, Option.map_map]
    rfl
  have hsome : 1 ≤ ranges.length := by
    cases ranges with
    | nil => cases hhead
    | cons range rest => exact Nat.succ_pos _
  let fields : EventAggregateFields := {
    eventType := first.eventType
    phase := first.phase
    trustLabel := first.trustLabel
    structuralFingerprint := eventStructuralFingerprint first
    priorityKinds := kinds
    count := events.length
    firstSequence := first.sequence
    lastSequence := last.sequence
    provenanceRanges := ranges
    sourceEventIds := events.map (·.eventId)
    sourceDigest := digest (aggregateSources events) "saliencegate:batch:aggregate-sources:v1" }
  have hvalid : fields.check = .ok () := by
    unfold EventAggregateFields.check
    simp only [check_bind_eq_ok, constrain_eq_ok, refuse_eq_ok, not_or, not_not, ne_eq]
    refine ⟨hkinds, hlength, ?_, ?_, hsome, ?_, checkProvenance_eq_ok hpositive hseparated,
      ⟨hcount, List.length_map _⟩, ⟨hhead, hend⟩, hslice.nodup⟩
    · exact Slice.positive events _ (List.mem_of_head? hfirstSequence)
    · exact Slice.positive events _ (List.mem_of_getLast? hlastSequence)
    · show 1 ≤ (events.map (·.eventId)).length
      rw [List.length_map]
      exact hlength
  refine ⟨⟨fields, hvalid⟩, ?_, ⟨first, hfirst, rfl, rfl, rfl, rfl, rfl⟩, ⟨last, hlast, rfl⟩, rfl, rfl, hpairs, rfl⟩
  unfold aggregate
  rw [hfirst, hlast, hranges]
  show (EventAggregate.create fields).mapError BatchError.invalid = _
  rw [mapError_eq_ok]
  exact validate_self hvalid

/-! ## The aggregates of a slice -/

/-- The events with a key. -/
def keyed (reasons : PriorityReasons) (key : AggregateKey) (events : List TraceEvent) : List TraceEvent :=
  events.filter fun event => aggregateKey reasons event = key

/-- The aggregates of a slice: one for each key of its events, in some order. -/
structure AreAggregates (reasons : PriorityReasons) (events : List TraceEvent) (keys : List AggregateKey)
    (made : List EventAggregate) : Prop where
  nodup : keys.Nodup
  mem : ∀ key, key ∈ keys ↔ ∃ event ∈ events, aggregateKey reasons event = key
  made : ∃ listed, made.Perm listed
    ∧ List.Forall₂ (fun key a => aggregate (keyed reasons key events) key.priorityKinds = .ok a
      ∧ IsAggregate (keyed reasons key events) key.priorityKinds a) keys listed

theorem keyed_ne_nil {key : AggregateKey} (h : ∃ event ∈ events, aggregateKey reasons event = key) :
    keyed reasons key events ≠ [] := by
  obtain ⟨event, hevent, hkey⟩ := h
  exact List.ne_nil_of_mem (List.mem_filter.mpr ⟨hevent, decide_eq_true hkey⟩)

/-- The events with a key have an aggregate. -/
theorem aggregate_keyed (hreasons : UniqueReasons reasons) (hslice : Slice events) {key : AggregateKey}
    (h : ∃ event ∈ events, aggregateKey reasons event = key) :
    ∃ made, aggregate (keyed reasons key events) key.priorityKinds = .ok made
      ∧ IsAggregate (keyed reasons key events) key.priorityKinds made := by
  obtain ⟨event, hevent, hkey⟩ := id h
  have hkinds : checkPriorityKinds key.priorityKinds = .ok () := by
    rw [← hkey]
    exact checkPriorityKinds_sortedKinds hreasons event
  exact aggregate_eq_ok (keyed_ne_nil h) (hslice.filter _) hkinds

/-- A slice has its aggregates. -/
theorem aggregates_eq_ok (hreasons : UniqueReasons reasons) (hslice : Slice events) :
    ∃ keys made, aggregates events reasons = .ok made ∧ AreAggregates reasons events keys made := by
  have hmem : ∀ key, key ∈ (groupBy (aggregateKey reasons) events).keys
      ↔ ∃ event ∈ events, aggregateKey reasons event = key := by
    intro key
    rw [mem_keys_groupBy, List.mem_map]
  have hperm := perm_sortBy (fun group : AggregateKey × List TraceEvent => group.1.order)
    (groupBy (aggregateKey reasons) events).items
  have hkeys : ((sortBy (fun group : AggregateKey × List TraceEvent => group.1.order)
      (groupBy (aggregateKey reasons) events).items).map Prod.fst).Perm (groupBy (aggregateKey reasons) events).keys :=
    hperm.map Prod.fst
  have hgroup : ∀ group ∈ sortBy (fun group : AggregateKey × List TraceEvent => group.1.order)
      (groupBy (aggregateKey reasons) events).items,
      ∃ made, aggregate (sortBy (·.sequence) group.2) group.1.priorityKinds = .ok made
        ∧ aggregate (keyed reasons group.1 events) group.1.priorityKinds = .ok made
        ∧ IsAggregate (keyed reasons group.1 events) group.1.priorityKinds made := by
    intro group hin
    have hitem := mem_sortBy.mp hin
    rw [items_groupBy, List.mem_map] at hitem
    obtain ⟨key, hkey, rfl⟩ := hitem
    obtain ⟨made, hmade, his⟩ := aggregate_keyed hreasons hslice ((hmem key).mp hkey)
    refine ⟨made, ?_, hmade, his⟩
    have hsorted := (hslice.filter fun event => decide (aggregateKey reasons event = key)).sortBy_eq
    show aggregate (sortBy (·.sequence) (events.filter fun event => aggregateKey reasons event = key)) _ = _
    rw [hsorted]
    exact hmade
  obtain ⟨made, hmade, hall⟩ := exists_mapM_forall₂ hgroup
  refine ⟨_, sortBy aggregateOrder made, ?_, ⟨hkeys.nodup_iff.mpr (Dict.nodup_keys _), fun key => ?_,
    made, perm_sortBy _ _, List.forall₂_map_left_iff.mpr hall⟩⟩
  · unfold aggregates
    exact bind_eq_ok.mpr ⟨made, hmade, rfl⟩
  · rw [hkeys.mem_iff]
    exact hmem key

/-- What the aggregates hold is what the slice holds. -/
theorem AreAggregates.perm {keys : List AggregateKey} {made : List EventAggregate}
    (h : AreAggregates reasons events keys made) {β : Type} {view : EventAggregate → List β} {of : TraceEvent → β}
    (hview : ∀ key a, IsAggregate (keyed reasons key events) key.priorityKinds a →
      view a = (keyed reasons key events).map of) :
    (made.flatMap view).Perm (events.map of) := by
  obtain ⟨listed, hperm, hall⟩ := h.made
  have hlisted : listed.flatMap view = keys.flatMap fun key => (keyed reasons key events).map of := by
    clear hperm h
    induction hall with
    | nil => rfl
    | cons hhead _ ih => rw [List.flatMap_cons, List.flatMap_cons, hview _ _ hhead.2, ih]
  have hsplit := (perm_flatMap_filter (aggregateKey reasons) h.nodup events).map of
  have hevery : (events.filter fun event => aggregateKey reasons event ∈ keys) = events :=
    List.filter_eq_self.mpr fun event hevent => decide_eq_true ((h.mem _).mpr ⟨event, hevent, rfl⟩)
  rw [hevery, List.map_flatMap] at hsplit
  refine (hperm.flatMap_right view).trans ?_
  rw [hlisted]
  exact hsplit

theorem AreAggregates.perm_sequences {keys : List AggregateKey} {made : List EventAggregate}
    (h : AreAggregates reasons events keys made) (hslice : Slice events) :
    (made.flatMap fun a => a.provenanceRanges.flatMap fun range =>
      Intervals.numbers (range.firstSequence, range.lastSequence)).Perm (events.map (·.sequence)) :=
  h.perm fun _ _ his => his.numbers (hslice.filter _)

theorem AreAggregates.perm_ids {keys : List AggregateKey} {made : List EventAggregate}
    (h : AreAggregates reasons events keys made) : (made.flatMap (·.sourceEventIds)).Perm (events.map (·.eventId)) :=
  h.perm fun _ _ his => his.ids

/-! ## Payloads -/

section Requests

variable (request : BatchRequest)

omit [FloatRepr] [Hashing] in
/-- What the validators of a request establish about its events and memories. -/
theorem request_facts : request.events ≠ [] ∧ Slice request.events
    ∧ request.sequences = List.range' (request.memoryCursor + 1) request.events.length
    ∧ (∀ event ∈ request.events, event.runId = request.runId)
    ∧ (request.memories.map (·.memoryId)).Nodup
    ∧ ∀ memory ∈ request.memories, memory.runId = request.runId ∧ memory.validity = .active := by
  have hvalid := request.valid
  unfold BatchRequestFields.check at hvalid
  simp only [constrain_bind_eq_ok, refuse_bind_eq_ok, refuse_eq_ok] at hvalid
  obtain ⟨-, hlength, -, -, -, -, -, hrun, -, hsequences, hunique, -, -, -, -, hmemories, hactive⟩ := hvalid
  have hsequences := not_not.mp hsequences
  refine ⟨List.ne_nil_of_length_pos hlength, ⟨?_, ?_⟩, hsequences, fun event hevent => ?_, not_not.mp hmemories,
    fun memory hmemory => ?_⟩
  · show request.sequences.Pairwise (· < ·)
    rw [hsequences]
    exact List.pairwise_lt_range'
  · by_contra hids
    exact hunique (.inl hids)
  · by_contra hother
    exact hrun ⟨event, hevent, hother⟩
  · constructor
    · by_contra hother
      exact hactive ⟨memory, hmemory, .inl hother⟩
    · by_contra hother
      exact hactive ⟨memory, hmemory, .inr hother⟩

/-- What a payload has: the events that are verbatim, the aggregates of the others, and the memories. -/
structure IsPayload (configDigest : Sha256Digest) (verbatimIds : Finset UUID4) (reasons : PriorityReasons)
    (made : BatchPayload) : Prop where
  verbatim : made.verbatimEvents.map (·.toVerbatimEventFields)
    = (request.events.filter (·.eventId ∈ verbatimIds)).map fun event => ⟨event, sortedKinds reasons event⟩
  aggregated : ∃ keys, AreAggregates reasons (request.events.filter (·.eventId ∉ verbatimIds)) keys made.aggregates
  rest : made.toBatchPayloadFields = {
    runId := request.runId
    memoryCursor := request.memoryCursor
    firstEventSequence := request.memoryCursor + 1
    lastEventSequence := request.memoryCursor + request.events.length
    configurationDigest := configDigest
    mandatoryMemories := mandatoryMemories request
    verbatimEvents := made.verbatimEvents
    aggregates := made.aggregates
    representedEventCount := request.events.length }

omit [FloatRepr] [Hashing] in
theorem head?_sequences {first : TraceEvent} (h : request.events.head? = some first) :
    first.sequence = request.memoryCursor + 1 := by
  obtain ⟨hne, -, hsequences, -⟩ := request_facts request
  have hhead : request.sequences.head? = some first.sequence := by
    unfold BatchRequestFields.sequences
    rw [List.head?_map, h]
    rfl
  have hlength : request.events.length ≠ 0 := fun hzero => hne (List.length_eq_zero_iff.mp hzero)
  rw [hsequences, List.head?_range', if_neg hlength] at hhead
  exact (Option.some.inj hhead).symm

omit [FloatRepr] [Hashing] in
theorem getLast?_sequences {last : TraceEvent} (h : request.events.getLast? = some last) :
    last.sequence = request.memoryCursor + request.events.length := by
  obtain ⟨hne, -, hsequences, -⟩ := request_facts request
  have hend : request.sequences.getLast? = some last.sequence := by
    unfold BatchRequestFields.sequences
    rw [List.getLast?_map, h]
    rfl
  have hlength : request.events.length ≠ 0 := fun hzero => hne (List.length_eq_zero_iff.mp hzero)
  rw [hsequences, List.getLast?_range', if_neg hlength] at hend
  have hlast := Option.some.inj hend
  omega

/-- The payload with any part of the slice verbatim is valid. -/
theorem payload_eq_ok (hreasons : UniqueReasons reasons) (configDigest : Sha256Digest) (verbatimIds : Finset UUID4) :
    ∃ made, payload request configDigest verbatimIds reasons = .ok made
      ∧ IsPayload request configDigest verbatimIds reasons made := by
  obtain ⟨hne, hslice, hsequences, hrun, hmemories, hactive⟩ := request_facts request
  have hevery : ∀ event ∈ request.events.filter (·.eventId ∈ verbatimIds), ∃ verbatim,
      verbatimEvent event reasons = .ok verbatim
        ∧ verbatim.toVerbatimEventFields = ⟨event, sortedKinds reasons event⟩ :=
    fun event _ => verbatimEvent_eq_ok hreasons event
  obtain ⟨verbatim, hverbatim, hfields⟩ := exists_mapM_forall₂ hevery
  have hmap : verbatim.map (·.toVerbatimEventFields)
      = (request.events.filter (·.eventId ∈ verbatimIds)).map fun event => ⟨event, sortedKinds reasons event⟩ :=
    forall₂_map_eq hfields
  obtain ⟨keys, compacted, hcompacted, hare⟩ := aggregates_eq_ok hreasons
    (hslice.filter fun event => decide (event.eventId ∉ verbatimIds))
  obtain ⟨first, hfirst⟩ : ∃ first, request.events.head? = some first :=
    ⟨_, List.head?_eq_some_head hne⟩
  obtain ⟨last, hlast⟩ : ∃ last, request.events.getLast? = some last :=
    ⟨_, List.getLast?_eq_some_getLast hne⟩
  let fields : BatchPayloadFields := {
    runId := request.runId
    memoryCursor := request.memoryCursor
    firstEventSequence := request.memoryCursor + 1
    lastEventSequence := request.memoryCursor + request.events.length
    configurationDigest := configDigest
    mandatoryMemories := mandatoryMemories request
    verbatimEvents := verbatim
    aggregates := compacted
    representedEventCount := request.events.length }
  have hlength : 1 ≤ request.events.length := List.length_pos_iff.mpr hne
  have hevents : verbatim.map (·.event) = request.events.filter (·.eventId ∈ verbatimIds) := by
    have hmapped := congrArg (List.map VerbatimEventFields.event) hmap
    rw [List.map_map, List.map_map] at hmapped
    exact hmapped.trans (List.map_id _)
  -- the two parts of the slice, put together again
  have hparts : ∀ {β : Type} (of : TraceEvent → β), ((request.events.filter (·.eventId ∈ verbatimIds)).map of
      ++ (request.events.filter (·.eventId ∉ verbatimIds)).map of).Perm (request.events.map of) := by
    intro β of
    rw [← List.map_append]
    have hsplit := List.filter_append_perm (fun event : TraceEvent => decide (event.eventId ∈ verbatimIds)) request.events
    have hnot : (request.events.filter fun event => !decide (event.eventId ∈ verbatimIds))
        = request.events.filter (·.eventId ∉ verbatimIds) :=
      List.filter_congr fun event _ => by rw [decide_not]
    rw [hnot] at hsplit
    exact hsplit.map of
  have hrepresented : fields.represented.Perm request.sequences := by
    have hseq : verbatim.map (·.event.sequence)
        = (request.events.filter (·.eventId ∈ verbatimIds)).map (·.sequence) := by rw [← hevents, List.map_map]; rfl
    have haggregates := hare.perm_sequences (hslice.filter _)
    show (verbatim.map (·.event.sequence) ++ _).Perm _
    rw [hseq]
    exact (haggregates.append_left _).trans (hparts (·.sequence))
  have hids : fields.eventIds.Perm request.eventIds := by
    have hid : verbatim.map (·.event.eventId)
        = (request.events.filter (·.eventId ∈ verbatimIds)).map (·.eventId) := by rw [← hevents, List.map_map]; rfl
    show (verbatim.map (·.event.eventId) ++ _).Perm _
    rw [hid]
    exact (hare.perm_ids.append_left _).trans (hparts (·.eventId))
  have hexpected : fields.expected = request.sequences := by
    have hcount : request.memoryCursor + request.events.length + 1 - (request.memoryCursor + 1)
        = request.events.length := by omega
    show List.range' (request.memoryCursor + 1) _ = _
    rw [hcount, hsequences]
  have hpairwise : request.sequences.Pairwise (· < ·) := hslice.sorted
  have hsorted : sortBy id fields.represented = fields.expected := by
    rw [hexpected]
    refine (sortBy_eq_of_perm hrepresented fun a _ b _ heq => heq).trans ?_
    exact List.Pairwise.insertionSort_eq (hpairwise.imp fun hlt => hlt.le)
  have hexpectedLength : fields.expected.length = request.events.length := by
    rw [hexpected]
    exact List.length_map _
  have hmandatory : (mandatoryMemories request).map (·.record) = request.memories := by
    unfold mandatoryMemories BatchRequestFields.memories
    rw [List.map_append, List.map_map, List.map_map]
    exact congrArg₂ _ (List.map_id _) (List.map_id _)
  have hvalid : fields.check = .ok () := by
    unfold BatchPayloadFields.check
    simp only [constrain_bind_eq_ok, refuse_bind_eq_ok, refuse_eq_ok, not_or, not_not, ne_eq]
    refine ⟨Nat.succ_pos _, ?_, hlength, rfl, ⟨hsorted, hrepresented.nodup_iff.mpr (hpairwise.imp fun hlt => hlt.ne)⟩,
      hexpectedLength.symm, ⟨?_, hids.nodup_iff.mpr hslice.nodup⟩, ?_, ?_, ?_⟩
    · show 1 ≤ request.memoryCursor + request.events.length
      omega
    · rw [hids.length_eq, hexpectedLength]
      exact List.length_map _
    · rintro ⟨item, hitem, hother⟩
      have hevent : item.event ∈ verbatim.map (·.event) := List.mem_map_of_mem hitem
      rw [hevents] at hevent
      exact hother (hrun _ (List.mem_of_mem_filter hevent))
    · show ((mandatoryMemories request).map (·.record.memoryId)).Nodup
      rw [← hmandatory, List.map_map] at hmemories
      exact hmemories
    · rintro ⟨item, hitem, hother⟩
      have hrecord : item.record ∈ (mandatoryMemories request).map (·.record) := List.mem_map_of_mem hitem
      rw [hmandatory] at hrecord
      obtain ⟨hown, hstate⟩ := hactive _ hrecord
      rcases hother with hother | hother
      · exact hother hown
      · exact hother hstate
  refine ⟨⟨fields, hvalid⟩, ?_, ⟨hmap, ⟨keys, hare⟩, rfl⟩⟩
  unfold payload
  refine bind_eq_ok.mpr ⟨verbatim, hverbatim, bind_eq_ok.mpr ⟨compacted, hcompacted, ?_⟩⟩
  rw [hfirst, hlast]
  refine bind_eq_ok.mpr ⟨first, rfl, bind_eq_ok.mpr ⟨last, rfl, ?_⟩⟩
  rw [mapError_eq_ok, head?_sequences request hfirst, getLast?_sequences request hlast]
  exact validate_self hvalid

end Requests

end SalienceGate
