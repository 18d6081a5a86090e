import SalienceGate.Runtime.BatchSizes

/-!
# The planner knows the size of the payload

For a set of verbatim events, the planner has the length of the text of the payload with these events verbatim,
and each of its states tracks the events of one key that are not verbatim (`Plans`). This holds of the planner
that is made for a payload, and each promotion keeps it (`Plans.step`).
-/

namespace SalienceGate

open Checked Grouping

/-! ## The parts of a payload -/

/-- The events that stay verbatim. -/
def kept (events : List TraceEvent) (verbatimIds : Finset UUID4) : List TraceEvent :=
  events.filter (·.eventId ∈ verbatimIds)

/-- The events that go into aggregates. -/
def compacted (events : List TraceEvent) (verbatimIds : Finset UUID4) : List TraceEvent :=
  events.filter (·.eventId ∉ verbatimIds)

section Payloads

variable [InstantText]

/-- A payload without what is in its two arrays. -/
def payloadShell (payload : BatchPayload) : List (String × Json) :=
  setMember (setMember payload.members "aggregates" (.list [])) "verbatim_events" (.list [])

theorem payloadShell_eq (payload : BatchPayload) : payloadShell payload = [
    ("aggregates", .list []),
    ("batcher_version", .str batcherVersion),
    ("configuration_digest", .str payload.configurationDigest.text),
    ("first_event_sequence", .int payload.firstEventSequence),
    ("last_event_sequence", .int payload.lastEventSequence),
    ("mandatory_memories", .list (payload.mandatoryMemories.map BatchMemory.modelDump)),
    ("memory_cursor", .int payload.memoryCursor),
    ("represented_event_count", .int payload.representedEventCount),
    ("run_id", .str payload.runId.toString),
    ("schema_version", .str "1.0"),
    ("verbatim_events", .list [])] := rfl

variable [FloatRepr]

/-- The text of a payload: its shell, and the insides of its two arrays. -/
theorem canonicalSize_payload (payload : BatchPayload) :
    (canonicalSize payload.modelDump : ℤ)
      = canonicalSize (.object (payloadShell payload))
        + (canonicalSize (.list (payload.verbatimEvents.map VerbatimEvent.modelDump)) - 2)
        + (canonicalSize (.list (payload.aggregates.map EventAggregate.modelDump)) - 2) := by
  have hnone : Json.commas 0 = 0 := rfl
  rw [payloadShell_eq]
  unfold BatchPayload.modelDump BatchPayload.members
  simp only [canonicalSize_eq, Json.encodedLength, Json.encodedLength.lengthOfItems, Json.encodedLength.lengthOfList,
    List.length_cons, List.length_nil, List.length_map, hnone]
  push_cast
  omega

/-- The bytes of a verbatim event. -/
def verbatimSize (reasons : PriorityReasons) (event : TraceEvent) : ℤ :=
  match verbatimEvent event reasons with
  | .ok verbatim => canonicalSize verbatim.modelDump
  | .error _ => 0

variable [Hashing] {request : BatchRequest} {configDigest : Sha256Digest} {verbatimIds : Finset UUID4}
  {reasons : PriorityReasons} {made : BatchPayload}

omit [FloatRepr] in
/-- Payloads of one request have one shell. -/
theorem IsPayload.shell_eq [FloatRepr] {verbatimIds' : Finset UUID4} {made' : BatchPayload}
    (h : IsPayload request configDigest verbatimIds reasons made)
    (h' : IsPayload request configDigest verbatimIds' reasons made') : payloadShell made = payloadShell made' := by
  rw [payloadShell_eq, payloadShell_eq, h.rest, h'.rest]

/-- The inside of the array of verbatim events. -/
theorem IsPayload.inner_verbatim (h : IsPayload request configDigest verbatimIds reasons made)
    (hreasons : UniqueReasons reasons) :
    arrayInnerSize (kept request.events verbatimIds).length
        ((kept request.events verbatimIds).map (verbatimSize reasons)).sum
      = .ok ((canonicalSize (.list (made.verbatimEvents.map VerbatimEvent.modelDump)) : ℤ) - 2)
    ∧ made.verbatimEvents.length = (kept request.events verbatimIds).length
    ∧ (made.verbatimEvents.map fun item => (canonicalSize item.modelDump : ℤ)).sum
      = ((kept request.events verbatimIds).map (verbatimSize reasons)).sum := by
  have hlength : made.verbatimEvents.length = (kept request.events verbatimIds).length := by
    have hmapped := congrArg List.length h.verbatim
    rw [List.length_map, List.length_map] at hmapped
    exact hmapped
  have hsizes : made.verbatimEvents.map (fun item => (canonicalSize item.modelDump : ℤ))
      = (kept request.events verbatimIds).map (verbatimSize reasons) := by
    have hevents : made.verbatimEvents.map (fun item => item.event) = kept request.events verbatimIds := by
      have hmapped := congrArg (List.map VerbatimEventFields.event) h.verbatim
      rw [List.map_map, List.map_map] at hmapped
      exact hmapped.trans (List.map_id _)
    rw [← hevents, List.map_map]
    refine List.map_congr_left fun item hitem => ?_
    have hfields : item.toVerbatimEventFields ∈ made.verbatimEvents.map (·.toVerbatimEventFields) :=
      List.mem_map_of_mem hitem
    rw [h.verbatim] at hfields
    obtain ⟨event, -, heq⟩ := List.mem_map.mp hfields
    obtain ⟨verbatim, hverbatim, hverbatimFields⟩ := verbatimEvent_eq_ok hreasons event
    have hitemEvent : item.event = event := (congrArg VerbatimEventFields.event heq).symm
    have hitemKinds : item.priorityKinds = sortedKinds reasons event :=
      (congrArg VerbatimEventFields.priorityKinds heq).symm
    show _ = verbatimSize reasons item.event
    have hevent : verbatim.event = event := congrArg VerbatimEventFields.event hverbatimFields
    have hkinds : verbatim.priorityKinds = sortedKinds reasons event :=
      congrArg VerbatimEventFields.priorityKinds hverbatimFields
    unfold verbatimSize
    rw [hitemEvent, hverbatim]
    show _ = (canonicalSize verbatim.modelDump : ℤ)
    unfold VerbatimEvent.modelDump
    rw [hitemEvent, hitemKinds, hevent, hkinds]
  have hinner := arrayInnerSize_map VerbatimEvent.modelDump made.verbatimEvents
    fun item _ => canonicalSize_object_pos _
  rw [hsizes, hlength] at hinner
  exact ⟨hinner, hlength, congrArg List.sum hsizes⟩

end Payloads

/-! ## Sums over aggregates -/

/-- Sums over two lists of distinct keys agree if what one has beyond the other adds nothing. -/
theorem sum_eq_of_subset {κ : Type} [DecidableEq κ] {xs ys : List κ} (hxs : xs.Nodup) (hys : ys.Nodup) {f : κ → ℤ}
    (hsubset : ∀ y ∈ ys, y ∈ xs) (hzero : ∀ x ∈ xs, x ∉ ys → f x = 0) : (xs.map f).sum = (ys.map f).sum := by
  rw [← List.sum_toFinset f hxs, ← List.sum_toFinset f hys]
  refine (Finset.sum_subset (fun y hy => ?_) fun x hx hnot => ?_).symm
  · exact List.mem_toFinset.mpr (hsubset y (List.mem_toFinset.mp hy))
  · exact hzero x (List.mem_toFinset.mp hx) fun h => hnot (List.mem_toFinset.mpr h)

section Planner

variable [FloatRepr] [Hashing] {reasons : PriorityReasons} {events : List TraceEvent}

/-- One for a state that still has events. -/
def occupied (state : AggregateSizeState) : ℤ := if state.count = 0 then 0 else 1

/-- States that track the events of each key. -/
structure TracksAll (reasons : PriorityReasons) (events : List TraceEvent)
    (states : Dict AggregateKey AggregateSizeState) : Prop where
  known : ∀ event ∈ events, aggregateKey reasons event ∈ states
  tracks : ∀ key state, states.get? key = some state → Tracks key state (keyed reasons key events)

/-- What the states add up to is what the aggregates of the events do. -/
theorem TracksAll.total {states : Dict AggregateKey AggregateSizeState} (h : TracksAll reasons events states)
    {keys : List AggregateKey} {made : List EventAggregate} (hmade : AreAggregates reasons events keys made)
    (view : AggregateSizeState → ℤ) (size : AggregateKey → ℤ)
    (hview : ∀ key state, states.get? key = some state → view state = size key)
    (hnone : ∀ key, keyed reasons key events = [] → size key = 0) :
    states.total view = (keys.map size).sum := by
  have hitems : states.items.map (view ∘ Prod.snd) = (states.items.map Prod.fst).map size := by
    rw [List.map_map]
    refine List.map_congr_left fun item hitem => ?_
    exact hview item.1 item.2 (Dict.get?_eq_some.mpr hitem)
  unfold Dict.total Dict.values
  rw [List.map_map, hitems]
  refine sum_eq_of_subset states.nodup_keys hmade.nodup (fun key hkey => ?_) fun key _ hnot => hnone key ?_
  · obtain ⟨event, hevent, rfl⟩ := (hmade.mem key).mp hkey
    exact h.known event hevent
  · refine List.filter_eq_nil_iff.mpr fun event hevent heq => hnot ?_
    exact (hmade.mem key).mpr ⟨event, hevent, of_decide_eq_true heq⟩

/-- The inside of the array of aggregates, from what the states add up to. -/
theorem TracksAll.inner {states : Dict AggregateKey AggregateSizeState} (h : TracksAll reasons events states)
    {keys : List AggregateKey} {made : List EventAggregate} (hmade : AreAggregates reasons events keys made) :
    arrayInnerSize (states.total occupied) (states.total (·.currentSize))
      = .ok ((canonicalSize (.list (made.map EventAggregate.modelDump)) : ℤ) - 2)
    ∧ states.total occupied = made.length := by
  obtain ⟨listed, hperm, hall⟩ := hmade.made
  have hbytes : states.total (·.currentSize) = (made.map fun a => (canonicalSize a.modelDump : ℤ)).sum := by
    have hsum := h.total hmade (·.currentSize) (fun key => aggregateSize key (keyed reasons key events))
      (fun key state hstate => (h.tracks key state hstate).currentSize) fun key hnone => by rw [hnone]; rfl
    have hlisted : (keys.map fun key => aggregateSize key (keyed reasons key events))
        = listed.map fun a => (canonicalSize a.modelDump : ℤ) := by
      refine (forall₂_map_eq (hall.imp fun key a ha => ?_)).symm
      unfold aggregateSize
      rw [ha.1]
    rw [hsum, hlisted]
    exact ((hperm.map _).sum_eq).symm
  have hcount : states.total occupied = made.length := by
    have hsum := h.total hmade occupied
      (fun key => if keyed reasons key events = [] then 0 else 1) (fun key state hstate => ?_) fun key hnone => ?_
    · have hone : (keys.map fun key => if keyed reasons key events = [] then (0 : ℤ) else 1) = keys.map fun _ => 1 := by
        refine List.map_congr_left fun key hkey => ?_
        rw [if_neg (keyed_ne_nil ((hmade.mem key).mp hkey))]
      rw [hsum, hone, hperm.length_eq, ← hall.length_eq]
      simp
    · unfold occupied
      rw [(h.tracks key state hstate).count]
      simp only [Nat.cast_eq_zero, List.length_eq_zero_iff]
    · rw [if_pos hnone]
  have hinner := arrayInnerSize_map EventAggregate.modelDump made
    fun a _ => canonicalSize_object_pos _
  rw [hcount, hbytes]
  exact ⟨hinner, rfl⟩

end Planner

/-- The aggregates of a payload have the keys of its groups. -/
theorem AreAggregates.perm_keys [FloatRepr] [Hashing] {reasons : PriorityReasons} {events : List TraceEvent}
    {keys : List AggregateKey} {made : List EventAggregate} (h : AreAggregates reasons events keys made) :
    (made.map aggregateModelKey).Perm keys := by
  obtain ⟨listed, hperm, hall⟩ := h.made
  have hlisted : listed.map aggregateModelKey = keys.map id := by
    refine forall₂_map_eq (hall.imp fun key a ha => ?_)
    obtain ⟨first, hfirst, htype, hphase, htrust, hfingerprint, -⟩ := ha.2.first
    have hkey := of_decide_eq_true (List.mem_filter.mp (List.mem_of_head? hfirst)).2
    show aggregateModelKey a = key
    unfold aggregateModelKey
    rw [htype, hphase, htrust, hfingerprint, ha.2.kinds, ← hkey]
    rfl
  rw [List.map_id] at hlisted
  exact hlisted ▸ hperm.map aggregateModelKey

theorem AreAggregates.of_mem [FloatRepr] [Hashing] {reasons : PriorityReasons} {events : List TraceEvent}
    {keys : List AggregateKey} {made : List EventAggregate} (h : AreAggregates reasons events keys made)
    {a : EventAggregate} (ha : a ∈ made) :
    aggregate (keyed reasons (aggregateModelKey a) events) (aggregateModelKey a).priorityKinds = .ok a
      ∧ IsAggregate (keyed reasons (aggregateModelKey a) events) (aggregateModelKey a).priorityKinds a := by
  obtain ⟨listed, hperm, hall⟩ := h.made
  obtain ⟨key, -, hmade⟩ := exists_of_forall₂ hall (hperm.mem_iff.mp ha)
  obtain ⟨first, hfirst, htype, hphase, htrust, hfingerprint, -⟩ := hmade.2.first
  have hkey := of_decide_eq_true (List.mem_filter.mp (List.mem_of_head? hfirst)).2
  have hown : aggregateModelKey a = key := by
    unfold aggregateModelKey
    rw [htype, hphase, htrust, hfingerprint, hmade.2.kinds, ← hkey]
    rfl
  rw [hown]
  exact hmade

section Plans

variable [FloatRepr] [InstantText] [Hashing] {request : BatchRequest} {configDigest : Sha256Digest}
  {verbatimIds : Finset UUID4} {reasons : PriorityReasons} {planner : BatchSizePlanner}

/-- The planner agrees with the payload that has some events verbatim. -/
structure Plans (request : BatchRequest) (configDigest : Sha256Digest) (reasons : PriorityReasons)
    (verbatimIds : Finset UUID4) (planner : BatchSizePlanner) : Prop where
  byEvent : ∀ event ∈ compacted request.events verbatimIds,
    planner.aggregateByEvent.get? event.eventId = some (aggregateKey reasons event)
  states : TracksAll reasons (compacted request.events verbatimIds) planner.states
  verbatimCount : planner.verbatimCount = (kept request.events verbatimIds).length
  verbatimItemBytes : planner.verbatimItemBytes = ((kept request.events verbatimIds).map (verbatimSize reasons)).sum
  aggregateCount : planner.aggregateCount = planner.states.total occupied
  aggregateItemBytes : planner.aggregateItemBytes = planner.states.total (·.currentSize)
  shellSize : ∀ ids made, IsPayload request configDigest ids reasons made →
    planner.shellSize = canonicalSize (.object (payloadShell made))
  totalSize : ∃ made, payload request configDigest verbatimIds reasons = .ok made
    ∧ planner.totalSize = canonicalSize made.modelDump

/-- The insides of the two arrays of a payload, and its length, from what a planner keeps. -/
theorem payload_sizes (hreasons : UniqueReasons reasons) {states : Dict AggregateKey AggregateSizeState}
    (hstates : TracksAll reasons (compacted request.events verbatimIds) states) {made : BatchPayload}
    (his : IsPayload request configDigest verbatimIds reasons made) :
    ∃ verbatimBytes aggregateBytes,
      arrayInnerSize (kept request.events verbatimIds).length
        ((kept request.events verbatimIds).map (verbatimSize reasons)).sum = .ok verbatimBytes
      ∧ arrayInnerSize (states.total occupied) (states.total (·.currentSize)) = .ok aggregateBytes
      ∧ (canonicalSize (.object (payloadShell made)) : ℤ) + verbatimBytes + aggregateBytes
        = canonicalSize made.modelDump := by
  obtain ⟨keys, hare⟩ := his.aggregated
  refine ⟨_, _, (his.inner_verbatim hreasons).1, (hstates.inner hare).1, ?_⟩
  exact (canonicalSize_payload made).symm

omit [FloatRepr] [InstantText] [Hashing] in
theorem compacted_insert (events : List TraceEvent) (event : TraceEvent) (verbatimIds : Finset UUID4) :
    compacted events (insert event.eventId verbatimIds) = without event (compacted events verbatimIds) := by
  unfold compacted without
  rw [List.filter_filter]
  refine List.filter_congr fun other _ => ?_
  simp only [Finset.mem_insert, not_or, ne_eq, Bool.decide_and]

omit [FloatRepr] [InstantText] [Hashing] in
theorem kept_insert {events : List TraceEvent} (hslice : Slice events) {event : TraceEvent}
    (hevent : event ∈ compacted events verbatimIds) :
    (kept events (insert event.eventId verbatimIds)).Perm (event :: kept events verbatimIds) := by
  obtain ⟨hin, hnot⟩ := List.mem_filter.mp hevent
  have hnot := of_decide_eq_true hnot
  have hnodup : events.Nodup := hslice.nodup.of_map _
  have hfresh : event ∉ kept events verbatimIds := fun h => hnot (of_decide_eq_true (List.mem_filter.mp h).2)
  refine (List.perm_ext_iff_of_nodup (hnodup.filter _) (List.nodup_cons.mpr ⟨hfresh, hnodup.filter _⟩)).mpr fun other => ?_
  unfold kept
  rw [List.mem_filter, List.mem_cons, List.mem_filter, decide_eq_true_eq, decide_eq_true_eq, Finset.mem_insert]
  constructor
  · rintro ⟨hother, hid | hid⟩
    · exact .inl (hslice.ids_inj hother hin hid)
    · exact .inr ⟨hother, hid⟩
  · rintro (heq | ⟨hother, hid⟩)
    · rw [heq]
      exact ⟨hin, .inl rfl⟩
    · exact ⟨hother, .inr hid⟩

omit [InstantText] in
theorem keyed_without (key : AggregateKey) (event : TraceEvent) (events : List TraceEvent) :
    keyed reasons key (without event events) = without event (keyed reasons key events) := by
  unfold keyed without
  rw [List.filter_filter, List.filter_filter]
  exact List.filter_congr fun other _ => Bool.and_comm _ _

omit [InstantText] in
/-- The events of another key are untouched. -/
theorem without_of_notMem {event : TraceEvent} {events : List TraceEvent} (hslice : Slice events)
    {key : AggregateKey} (hevent : event ∈ events) (hkey : aggregateKey reasons event ≠ key) :
    without event (keyed reasons key events) = keyed reasons key events := by
  refine List.filter_eq_self.mpr fun other hother => decide_eq_true fun hid => hkey ?_
  obtain ⟨hin, hother⟩ := List.mem_filter.mp hother
  rw [← hslice.ids_inj hin hevent hid]
  exact of_decide_eq_true hother

/-- Each event that is compacted can be promoted. The planner then agrees with the payload that has it verbatim too,
whose length is the one that was previewed. -/
theorem Plans.step (hplans : Plans request configDigest reasons verbatimIds planner) (hreasons : UniqueReasons reasons)
    {event : TraceEvent} (hevent : event ∈ compacted request.events verbatimIds) :
    ∃ preview next, planner.preview event.eventId (verbatimSize reasons event) = .ok preview
      ∧ planner.apply preview = .ok next ∧ preview.totalSize = next.totalSize
      ∧ Plans request configDigest reasons (insert event.eventId verbatimIds) next := by
  obtain ⟨-, hwhole, -⟩ := request_facts request
  have hslice : Slice (compacted request.events verbatimIds) := hwhole.filter _
  have hkey := hplans.byEvent event hevent
  obtain ⟨state, hstate⟩ := Dict.mem_iff.mp (hplans.states.known event hevent)
  have htracks := hplans.states.tracks _ _ hstate
  have hkeyed : Keyed reasons (aggregateKey reasons event)
      (keyed reasons (aggregateKey reasons event) (compacted request.events verbatimIds)) :=
    ⟨hslice.filter _, fun other hother => of_decide_eq_true (List.mem_filter.mp hother).2⟩
  have hmember : event ∈ keyed reasons (aggregateKey reasons event) (compacted request.events verbatimIds) :=
    List.mem_filter.mpr ⟨hevent, decide_eq_true rfl⟩
  obtain ⟨removal, hremoval, hpreviews⟩ := htracks.previewRemoval hkeyed hreasons hmember
  obtain ⟨left, hleft, hleftTracks⟩ := htracks.applyRemoval hkeyed.slice hmember hpreviews
  have hstates : TracksAll reasons (compacted request.events (insert event.eventId verbatimIds))
      (planner.states.set (aggregateKey reasons event) left) := by
    rw [compacted_insert]
    constructor
    · intro other hother
      exact Dict.mem_set_of_mem (hplans.states.known other (List.mem_of_mem_filter hother))
    · intro key other hother
      rw [keyed_without]
      rcases Dict.get?_set_eq_some.mp hother with ⟨rfl, rfl⟩ | ⟨hne, hother⟩
      · exact hleftTracks
      · rw [without_of_notMem hslice hevent (Ne.symm hne)]
        exact hplans.states.tracks key other hother
  have hperm := kept_insert hwhole hevent
  have hverbatimCount : planner.verbatimCount + 1
      = (kept request.events (insert event.eventId verbatimIds)).length := by
    rw [hplans.verbatimCount, hperm.length_eq, List.length_cons]
    push_cast
    omega
  have hverbatimBytes : planner.verbatimItemBytes + verbatimSize reasons event
      = ((kept request.events (insert event.eventId verbatimIds)).map (verbatimSize reasons)).sum := by
    rw [hplans.verbatimItemBytes, (hperm.map _).sum_eq, List.map_cons, List.sum_cons]
    omega
  have hbytes : planner.aggregateItemBytes - state.currentSize + removal.serializedSize
      = (planner.states.set (aggregateKey reasons event) left).total (·.currentSize) := by
    have htotal := Dict.total_set (f := fun state : AggregateSizeState => state.currentSize) (v := left) hstate
    have hsize : left.currentSize = removal.serializedSize := by
      rw [hleftTracks.currentSize, hpreviews.serializedSize]
    rw [hplans.aggregateItemBytes]
    simp only [hsize] at htotal
    omega
  have hcount : (planner.aggregateCount - if removal.count = 0 then 1 else 0)
      = (planner.states.set (aggregateKey reasons event) left).total occupied := by
    have htotal := Dict.total_set (f := occupied) (v := left) hstate
    have hnow : occupied left = if removal.count = 0 then 0 else 1 := by
      unfold occupied
      rw [hleftTracks.count, hpreviews.count]
    have hbefore : occupied state = 1 := by
      unfold occupied
      rw [htracks.count, if_neg]
      have hpos := List.length_pos_of_mem hmember
      omega
    rw [hplans.aggregateCount]
    rw [hnow, hbefore] at htotal
    split at htotal <;> split <;> omega
  obtain ⟨made, hmade, his⟩ := payload_eq_ok request hreasons configDigest (insert event.eventId verbatimIds)
  obtain ⟨verbatimBytes, aggregateBytes, hverbatim, haggregate, htotal⟩ := payload_sizes hreasons hstates his
  rw [← hplans.shellSize _ made his] at htotal
  rw [← hverbatimCount, ← hverbatimBytes] at hverbatim
  rw [← hcount, ← hbytes] at haggregate
  let preview : PromotionPreview := {
    eventId := event.eventId
    aggregateState := aggregateKey reasons event
    aggregateRemoval := removal
    verbatimCount := planner.verbatimCount + 1
    verbatimItemBytes := planner.verbatimItemBytes + verbatimSize reasons event
    aggregateCount := planner.aggregateCount - if removal.count = 0 then 1 else 0
    aggregateItemBytes := planner.aggregateItemBytes - state.currentSize + removal.serializedSize
    totalSize := planner.shellSize + verbatimBytes + aggregateBytes }
  refine ⟨preview, { planner with
    verbatimCount := preview.verbatimCount
    verbatimItemBytes := preview.verbatimItemBytes
    aggregateCount := preview.aggregateCount
    aggregateItemBytes := preview.aggregateItemBytes
    totalSize := preview.totalSize
    aggregateByEvent := planner.aggregateByEvent.erase event.eventId
    states := planner.states.set (aggregateKey reasons event) left }, ?_, ?_, rfl, ?_⟩
  · unfold BatchSizePlanner.preview
    simp only [expect_bind_eq_ok]
    refine ⟨_, hkey, _, hstate, bind_eq_ok.mpr ⟨removal, hremoval, ?_⟩⟩
    exact bind_eq_ok.mpr ⟨verbatimBytes, hverbatim, bind_eq_ok.mpr ⟨aggregateBytes, haggregate, rfl⟩⟩
  · unfold BatchSizePlanner.apply
    rw [raiseIf_bind_of_not (fun h => h hkey)]
    simp only [expect_bind_eq_ok]
    exact ⟨state, hstate, bind_eq_ok.mpr ⟨left, hleft, rfl⟩⟩
  · refine ⟨fun other hother => ?_, hstates, hverbatimCount, hverbatimBytes, hcount, hbytes, hplans.shellSize,
      made, hmade, htotal⟩
    rw [compacted_insert] at hother
    obtain ⟨hin, hid⟩ := List.mem_filter.mp hother
    show (planner.aggregateByEvent.erase event.eventId).get? other.eventId = _
    rw [Dict.get?_erase_of_ne (of_decide_eq_true hid)]
    exact hplans.byEvent other hin

/-- A planner is made for every payload, and agrees with it. -/
theorem fromPayload_eq_ok (hreasons : UniqueReasons reasons) {made : BatchPayload} {size : TextSize}
    (hmade : payload request configDigest verbatimIds reasons = .ok made)
    (his : IsPayload request configDigest verbatimIds reasons made)
    (hsize : size.utf8Bytes = canonicalSize made.modelDump) :
    ∃ planner, BatchSizePlanner.fromPayload request made size verbatimIds reasons = .ok planner
      ∧ Plans request configDigest reasons verbatimIds planner := by
  obtain ⟨-, hwhole, -⟩ := request_facts request
  have hslice : Slice (compacted request.events verbatimIds) := hwhole.filter _
  obtain ⟨keys, hare⟩ := his.aggregated
  have hare : AreAggregates reasons (compacted request.events verbatimIds) keys made.aggregates := hare
  let groups := groupBy (aggregateKey reasons) (compacted request.events verbatimIds)
  have hgroupMem : ∀ key, key ∈ groups.keys ↔ key ∈ keys := by
    intro key
    rw [mem_keys_groupBy, List.mem_map, hare.mem]
  have hkeysPerm : groups.keys.Perm keys := (List.perm_ext_iff_of_nodup groups.nodup_keys hare.nodup).mpr hgroupMem
  have hkeyPairs : (made.aggregates.map fun a => (aggregateModelKey a, a)).map Prod.fst
      = made.aggregates.map aggregateModelKey := by rw [List.map_map]; rfl
  have hkeyNodup : ((made.aggregates.map fun a => (aggregateModelKey a, a)).map Prod.fst).Nodup := by
    rw [hkeyPairs]
    exact hare.perm_keys.nodup_iff.mpr hare.nodup
  let byKey := dictOf (made.aggregates.map fun a => (aggregateModelKey a, a))
  have hbyKeyItems : byKey.items = made.aggregates.map fun a => (aggregateModelKey a, a) := items_dictOf hkeyNodup
  have hbyKeySize : byKey.size = made.aggregates.length := by
    unfold Dict.size
    rw [hbyKeyItems, List.length_map]
  have hbyKeyKeys : groups.keys.toFinset = byKey.keys.toFinset := by
    have hown : byKey.keys = made.aggregates.map aggregateModelKey := by
      unfold Dict.keys
      rw [hbyKeyItems, hkeyPairs]
    ext key
    rw [List.mem_toFinset, List.mem_toFinset, hgroupMem, hown]
    exact hare.perm_keys.mem_iff.symm
  have hgroup : ∀ group ∈ groups.items, ∃ state,
      (do
        let aggregate ← expect (byKey.get? group.1) BatchError.key
        let state ← AggregateSizeState.fromAggregate aggregate group.2
        pure (group.1, state)) = .ok state
      ∧ (state.1 = group.1 ∧ Tracks group.1 state.2 (keyed reasons group.1 (compacted request.events verbatimIds))) := by
    intro group hin
    rw [items_groupBy, List.mem_map] at hin
    obtain ⟨key, hkey, rfl⟩ := hin
    have hmem := hare.perm_keys.mem_iff.mpr ((hgroupMem key).mp hkey)
    obtain ⟨a, ha, hown⟩ := List.mem_map.mp hmem
    obtain ⟨hmadeOf, hisOf⟩ := hare.of_mem ha
    rw [hown] at hmadeOf hisOf
    have hkeyed : Keyed reasons key (keyed reasons key (compacted request.events verbatimIds)) :=
      ⟨hslice.filter _, fun other hother => of_decide_eq_true (List.mem_filter.mp hother).2⟩
    have hne : keyed reasons key (compacted request.events verbatimIds) ≠ [] :=
      keyed_ne_nil ((hare.mem key).mp ((hgroupMem key).mp hkey))
    obtain ⟨state, hstate, htracks⟩ := fromAggregate_eq_ok hkeyed hreasons hne hmadeOf hisOf hown
    have hget : byKey.get? key = some a :=
      (get?_dictOf hkeyNodup).mpr (List.mem_map.mpr ⟨a, ha, by rw [hown]⟩)
    refine ⟨(key, state), ?_, rfl, htracks⟩
    simp only [expect_bind_eq_ok]
    exact ⟨a, hget, bind_eq_ok.mpr ⟨state, hstate, rfl⟩⟩
  obtain ⟨states, hstatesOk, hall⟩ := exists_mapM_forall₂ hgroup
  have hstateKeys : states.map Prod.fst = groups.keys :=
    forall₂_map_eq (hall.imp fun _ _ h => h.1)
  have hstateNodup : (states.map Prod.fst).Nodup := by
    rw [hstateKeys]
    exact groups.nodup_keys
  have hitems : (dictOf states).items = states := items_dictOf hstateNodup
  have htracks : ∀ item ∈ states, Tracks item.1 item.2
      (keyed reasons item.1 (compacted request.events verbatimIds)) := by
    intro item hitem
    obtain ⟨group, -, hown, htracks⟩ := exists_of_forall₂ hall hitem
    rw [hown]
    exact htracks
  have hall' : TracksAll reasons (compacted request.events verbatimIds) (dictOf states) := by
    constructor
    · intro event hevent
      rw [Dict.mem_def, Dict.keys, hitems, hstateKeys, hgroupMem, hare.mem]
      exact ⟨event, hevent, rfl⟩
    · intro key state hstate
      have hin := Dict.get?_eq_some.mp hstate
      rw [hitems] at hin
      exact htracks _ hin
  have htotals : ∀ view : AggregateSizeState → ℤ, (dictOf states).total view = (states.map fun item => view item.2).sum := by
    intro view
    unfold Dict.total Dict.values
    rw [hitems, List.map_map]
    rfl
  have hlength : (states.length : ℤ) = (dictOf states).total occupied := by
    rw [(hall'.inner hare).2, ← List.length_map (f := Prod.fst), hstateKeys, hkeysPerm.length_eq,
      ← hare.perm_keys.length_eq, List.length_map]
  obtain ⟨hverbatim, hverbatimLength, hverbatimSum⟩ := his.inner_verbatim hreasons
  obtain ⟨verbatimBytes, aggregateBytes, hverbatimOk, haggregateOk, htotal⟩ := payload_sizes hreasons hall' his
  have hrowPairs : (groups.items.flatMap fun group => group.2.map fun event => (event.eventId, group.1)).map Prod.fst
      = (groups.items.flatMap Prod.snd).map (·.eventId) := by
    rw [List.map_flatMap, List.map_flatMap]
    refine congrArg (fun f => groups.items.flatMap f) (funext fun group => ?_)
    rw [List.map_map]
    rfl
  have hrowNodup : ((groups.items.flatMap fun group =>
      group.2.map fun event => (event.eventId, group.1)).map Prod.fst).Nodup := by
    rw [hrowPairs]
    exact ((perm_flatMap_groupBy (aggregateKey reasons) _).map _).nodup_iff.mpr hslice.nodup
  refine ⟨{
    shellSize := canonicalSize (.object (payloadShell made))
    verbatimCount := made.verbatimEvents.length
    verbatimItemBytes := (made.verbatimEvents.map fun item => (canonicalSize item.modelDump : ℤ)).sum
    aggregateCount := states.length
    aggregateItemBytes := (states.map fun state => state.2.currentSize).sum
    totalSize := canonicalSize (.object (payloadShell made)) + verbatimBytes + aggregateBytes
    aggregateByEvent := dictOf (groups.items.flatMap fun group => group.2.map fun event => (event.eventId, group.1))
    states := dictOf states }, ?_, ⟨fun event hevent => ?_, hall', ?_, hverbatimSum, hlength, ?_, fun ids other hother => ?_,
      made, hmade, htotal⟩⟩
  · unfold BatchSizePlanner.fromPayload
    rw [raiseIf_bind_of_not]
    · refine bind_eq_ok.mpr ⟨states, hstatesOk, ?_⟩
      refine bind_eq_ok.mpr ⟨verbatimBytes, ?_, bind_eq_ok.mpr ⟨aggregateBytes, ?_, ?_⟩⟩
      · rw [hverbatimLength, hverbatimSum]
        exact hverbatimOk
      · rw [hlength, ← htotals]
        exact haggregateOk
      · rw [raiseIf_bind_of_not]
        · rfl
        · intro hne
          refine hne ?_
          rw [hsize]
          exact htotal
    · rintro (hne | hne)
      · exact hne hbyKeySize
      · exact hne hbyKeyKeys
  · refine (get?_dictOf hrowNodup).mpr (List.mem_flatMap.mpr ?_)
    have hkey : aggregateKey reasons event ∈ groups.keys := (hgroupMem _).mpr ((hare.mem _).mpr ⟨event, hevent, rfl⟩)
    refine ⟨(aggregateKey reasons event, keyed reasons (aggregateKey reasons event)
      (compacted request.events verbatimIds)), ?_, List.mem_map.mpr ⟨event, ?_, rfl⟩⟩
    · rw [items_groupBy]
      exact List.mem_map.mpr ⟨_, hkey, rfl⟩
    · exact List.mem_filter.mpr ⟨hevent, decide_eq_true rfl⟩
  · exact congrArg Nat.cast hverbatimLength
  · exact (htotals _).symm
  · rw [his.shell_eq hother]

end Plans

end SalienceGate
