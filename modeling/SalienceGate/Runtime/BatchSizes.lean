import Mathlib.Data.Finset.Max
import SalienceGate.Runtime.BatchPartition

/-!
# Sizes without serializing

The text of an aggregate is as long as that of its shell, in which the ranges and the identities are missing,
and the insides of these two arrays. A state that tracks what is left of an aggregate knows the length of each
part, and so the length of the text that the aggregate of what is left would have (`Tracks`). Taking an event out
keeps it so, wherever the event lies.
-/

namespace SalienceGate

open Checked Grouping

/-! ## Lengths of texts -/

theorem quotedLength_digest (digest : Sha256Digest) : Json.quotedLength digest.text = 66 := by
  obtain ⟨hlength, hhex⟩ := digest.pattern
  have hplain : Json.isPlain digest.text = true := by
    unfold Json.isPlain
    rw [List.all_eq_true] at hhex ⊢
    intro c hc
    have hdigit := hhex c hc
    unfold isLowerHex Char.isDigit at hdigit
    simp only [Bool.or_eq_true, Bool.and_eq_true, decide_eq_true_eq, ge_iff_le] at hdigit ⊢
    rcases hdigit with ⟨hlow, hhigh⟩ | ⟨hlow, hhigh⟩
    · have hlow' : 48 ≤ c.toNat := UInt32.le_iff_toNat_le.mp hlow
      have hhigh' : c.toNat ≤ 57 := UInt32.le_iff_toNat_le.mp hhigh
      omega
    · have hlow' : 97 ≤ c.toNat := UInt32.le_iff_toNat_le.mp hlow
      have hhigh' : c.toNat ≤ 102 := UInt32.le_iff_toNat_le.mp hhigh
      omega
  rw [Json.quotedLength_of_isPlain hplain, hlength]

variable [FloatRepr]

theorem lengthOfList_map {α : Type} (dump : α → Json) (xs : List α) :
    ((Json.encodedLength.lengthOfList (xs.map dump) : ℕ) : ℤ) = (xs.map fun x => (canonicalSize (dump x) : ℤ)).sum := by
  induction xs with
  | nil => rfl
  | cons x xs ih =>
    rw [List.map_cons, List.map_cons, List.sum_cons, ← ih, canonicalSize_eq]
    exact Nat.cast_add _ _

/-- The inside of an array of values that have a text. -/
theorem arrayInnerSize_map {α : Type} (dump : α → Json) (xs : List α) (hpos : ∀ x ∈ xs, 0 < canonicalSize (dump x)) :
    arrayInnerSize xs.length (xs.map fun x => (canonicalSize (dump x) : ℤ)).sum
      = .ok ((canonicalSize (.list (xs.map dump)) : ℤ) - 2) := by
  have hsum := lengthOfList_map dump xs
  have hlist : canonicalSize (.list (xs.map dump))
      = 2 + (xs.length - 1) + Json.encodedLength.lengthOfList (xs.map dump) := by
    rw [canonicalSize_eq]
    show 2 + ((xs.map dump).length - 1) + _ = _
    rw [List.length_map]
  have hzero : xs.length = 0 ↔ Json.encodedLength.lengthOfList (xs.map dump) = 0 := by
    cases xs with
    | nil => simp [Json.encodedLength.lengthOfList]
    | cons x xs =>
      have hfirst := hpos x List.mem_cons_self
      rw [canonicalSize_eq] at hfirst
      show xs.length + 1 = 0 ↔ (dump x).encodedLength + _ = 0
      omega
  unfold arrayInnerSize
  rw [← hsum, raiseIf_bind_of_not, hlist]
  · show Except.ok _ = Except.ok _
    refine congrArg Except.ok ?_
    omega
  · simp only [ne_eq, decide_eq_decide, not_or, not_not]
    omega

/-! ## The parts of an aggregate -/

theorem canonicalSize_range (range : SequenceRange) :
    (canonicalSize range.modelDump : ℤ)
      = rangeFixedBytes + (sequenceSize range.firstSequence + sequenceSize range.lastSequence) := by
  unfold rangeFixedBytes sequenceSize
  simp only [canonicalSize_eq]
  show ((2 + 1 + (Json.quotedLength "first_sequence" + 1 + (toString (range.firstSequence : ℤ)).length
      + (Json.quotedLength "last_sequence" + 1 + (toString (range.lastSequence : ℤ)).length + 0)) : ℕ) : ℤ)
    = ((2 + 1 + (Json.quotedLength "first_sequence" + 1 + (toString (1 : ℤ)).length
      + (Json.quotedLength "last_sequence" + 1 + (toString (1 : ℤ)).length + 0)) : ℕ) : ℤ)
      - 2 * ((toString (1 : ℤ)).length : ℕ)
      + (((toString (range.firstSequence : ℤ)).length : ℕ) + ((toString (range.lastSequence : ℤ)).length : ℕ))
  push_cast
  omega

/-- The bytes of the ranges of an aggregate, from their number and their ends. -/
theorem sum_ranges_eq (ranges : List SequenceRange) :
    (ranges.map fun range => (canonicalSize range.modelDump : ℤ)).sum
      = ranges.length * rangeFixedBytes
        + (ranges.map fun range => sequenceSize range.firstSequence + sequenceSize range.lastSequence).sum := by
  induction ranges with
  | nil => rfl
  | cons range ranges ih =>
    rw [List.map_cons, List.sum_cons, ih, canonicalSize_range, List.map_cons, List.sum_cons, List.length_cons]
    push_cast
    rw [Int.add_mul, Int.one_mul]
    omega

theorem canonicalSize_object_pos (items : List (String × Json)) : 0 < canonicalSize (.object items) := by
  rw [canonicalSize_eq]
  show 0 < 2 + _ + _
  omega

theorem canonicalSize_str_pos (s : String) : 0 < canonicalSize (.str s) := by
  rw [canonicalSize_eq]
  show 0 < 2 + _
  omega

/-- The shell of an aggregate: its members, without what is in its arrays. -/
def shellOf (aggregate : EventAggregate) : List (String × Json) :=
  setMember (setMember aggregate.members "provenance_ranges" (.list [])) "source_event_ids" (.list [])

/-- The shell of an aggregate with the count and the bounds of what is left of it. -/
def shellWith (aggregate : EventAggregate) (count : ℤ) (head tail : ℕ) : List (String × Json) :=
  setMember (setMember (setMember (shellOf aggregate) "count" (.int count)) "first_sequence" (.int head))
    "last_sequence" (.int tail)

omit [FloatRepr] in
theorem shellWith_eq (aggregate : EventAggregate) (count : ℤ) (head tail : ℕ) :
    shellWith aggregate count head tail = [
      ("count", .int count),
      ("event_type", .str aggregate.eventType.value),
      ("first_sequence", .int head),
      ("last_sequence", .int tail),
      ("phase", .str aggregate.phase.value),
      ("priority_kinds", priorityKindsJson aggregate.priorityKinds),
      ("provenance_ranges", .list []),
      ("source_digest", .str aggregate.sourceDigest.text),
      ("source_event_ids", .list []),
      ("structural_fingerprint", .str aggregate.structuralFingerprint.text),
      ("trust_label", .str aggregate.trustLabel.value)] := rfl

/-- The text of an aggregate: the shell of one with the same key, and the insides of its own arrays. -/
theorem canonicalSize_aggregate {shell own : EventAggregate} (hkey : aggregateModelKey shell = aggregateModelKey own) :
    (canonicalSize own.modelDump : ℤ)
      = canonicalSize (.object (shellWith shell own.count own.firstSequence own.lastSequence))
        + (canonicalSize (.list (own.provenanceRanges.map SequenceRange.modelDump)) - 2)
        + (canonicalSize (.list (own.sourceEventIds.map fun id => .str id.toString)) - 2) := by
  have htype := congrArg AggregateKey.eventType hkey
  have hphase := congrArg AggregateKey.phase hkey
  have htrust := congrArg AggregateKey.trustLabel hkey
  have hkinds := congrArg AggregateKey.priorityKinds hkey
  simp only [aggregateModelKey] at htype hphase htrust hkinds
  rw [shellWith_eq, htype, hphase, htrust, hkinds]
  unfold EventAggregate.modelDump EventAggregate.members
  simp only [canonicalSize_eq, Json.encodedLength, Json.encodedLength.lengthOfItems, Json.encodedLength.lengthOfList,
    quotedLength_digest, List.length_cons, List.length_nil, List.length_map]
  have hnone : Json.commas 0 = 0 := rfl
  rw [hnone]
  push_cast
  omega

/-! ## What is left of an aggregate -/

/-- The sequences of events, as a set. -/
def sequenceSet (events : List TraceEvent) : Finset ℕ := (events.map (·.sequence)).toFinset

/-- The bytes of an identity. -/
def idSize (event : TraceEvent) : ℤ := canonicalSize (.str event.eventId.toString)

omit [FloatRepr] in
theorem sum_map_ranges {c : ℤ} {w : ℕ → ℤ} {events : List TraceEvent} {ranges : List SequenceRange}
    (hslice : Slice events)
    (hranges : ranges.map (fun range => (range.firstSequence, range.lastSequence))
      = Intervals.ranges (events.map (·.sequence))) :
    (ranges.map fun range => c + w range.firstSequence + w range.lastSequence).sum
      = ∑ x ∈ sequenceSet events, Intervals.boundary c w (sequenceSet events) x := by
  have hsum := Intervals.sum_ranges (c := c) (w := w) hslice.sorted (Slice.positive events)
  rw [← hranges, List.map_map] at hsum
  exact hsum

variable [Hashing] {events : List TraceEvent} {reasons : PriorityReasons} {key : AggregateKey}

/-- The bytes of the aggregate of events, or none without events. -/
def aggregateSize (key : AggregateKey) (events : List TraceEvent) : ℤ :=
  match aggregate events key.priorityKinds with
  | .ok made => canonicalSize made.modelDump
  | .error _ => 0

/-- Events with a key. -/
structure Keyed (reasons : PriorityReasons) (key : AggregateKey) (events : List TraceEvent) : Prop where
  slice : Slice events
  key : ∀ event ∈ events, aggregateKey reasons event = key

theorem Keyed.filter (h : Keyed reasons key events) (p : TraceEvent → Bool) : Keyed reasons key (events.filter p) :=
  ⟨h.slice.filter p, fun event hevent => h.key event (List.mem_of_mem_filter hevent)⟩

/-- Events with a key have an aggregate, which has the key. -/
theorem Keyed.aggregate (h : Keyed reasons key events) (hreasons : UniqueReasons reasons) (hne : events ≠ []) :
    ∃ made, aggregate events key.priorityKinds = .ok made ∧ IsAggregate events key.priorityKinds made
      ∧ aggregateModelKey made = key := by
  obtain ⟨event, rest, rfl⟩ := List.exists_cons_of_ne_nil hne
  have hkey := h.key event List.mem_cons_self
  have hkinds : checkPriorityKinds key.priorityKinds = .ok () := by
    rw [← hkey]
    exact checkPriorityKinds_sortedKinds hreasons event
  obtain ⟨made, hmade, his⟩ := aggregate_eq_ok hne h.slice hkinds
  refine ⟨made, hmade, his, ?_⟩
  obtain ⟨first, hfirst, htype, hphase, htrust, hfingerprint, -⟩ := his.first
  obtain rfl := Option.some.inj hfirst
  unfold aggregateModelKey
  rw [htype, hphase, htrust, hfingerprint, his.kinds, ← hkey]
  rfl

/-- The state knows the length of the text of an aggregate from the parts it keeps. -/
theorem serializedSize_eq {shell own : EventAggregate} {kinds : List BatchPriorityKind} (hne : events ≠ [])
    (hslice : Slice events) (his : IsAggregate events kinds own) (hkey : aggregateModelKey shell = aggregateModelKey own) :
    AggregateSizeState.serializedSize (shellOf shell) events.length (some own.firstSequence) (some own.lastSequence)
      (∑ x ∈ sequenceSet events, Intervals.boundary 1 (fun _ => 0) (sequenceSet events) x)
      (∑ x ∈ sequenceSet events, Intervals.boundary 0 sequenceSize (sequenceSet events) x) (events.map idSize).sum
      = .ok (canonicalSize own.modelDump : ℤ) := by
  have hlength : (events.length : ℤ) ≠ 0 := by
    have hpos := List.length_pos_iff.mpr hne
    omega
  have hcount := sum_map_ranges (c := 1) (w := fun _ => 0) hslice his.ranges
  have hends := sum_map_ranges (c := 0) (w := sequenceSize) hslice his.ranges
  simp only [add_zero, List.map_const', List.sum_replicate, zero_add, mul_one, nsmul_eq_mul] at hcount hends
  have hsome : 1 ≤ own.provenanceRanges.length := by
    have hvalid := own.valid
    unfold EventAggregateFields.check at hvalid
    simp only [check_bind_eq_ok, constrain_eq_ok] at hvalid
    exact hvalid.2.2.2.2.1
  have hranges := arrayInnerSize_map SequenceRange.modelDump own.provenanceRanges
    fun range _ => canonicalSize_object_pos _
  rw [sum_ranges_eq] at hranges
  have hids := arrayInnerSize_map (fun id : UUID4 => Json.str id.toString) own.sourceEventIds
    fun id _ => canonicalSize_str_pos _
  have hidSum : (own.sourceEventIds.map fun id => (canonicalSize (.str id.toString) : ℤ)).sum
      = (events.map idSize).sum := by
    rw [his.ids, List.map_map]
    rfl
  have hidCount : own.sourceEventIds.length = events.length := by rw [his.ids, List.length_map]
  rw [hidSum, hidCount] at hids
  unfold AggregateSizeState.serializedSize
  rw [if_neg hlength, ← hcount, ← hends]
  show (raiseIf _ _ >>= fun _ => _) = _
  rw [raiseIf_bind_of_not (by omega), hranges, hids, canonicalSize_aggregate hkey, his.count]
  rfl

omit [FloatRepr] [Hashing] in
/-- A comprehension with distinct keys has its items. -/
theorem items_dictOf {κ ν : Type} [DecidableEq κ] {items : List (κ × ν)} (hnodup : (items.map Prod.fst).Nodup) :
    (dictOf items).items = items := by
  induction items using List.reverseRecOn with
  | nil => rfl
  | append_singleton items item ih =>
    rw [List.map_append, List.nodup_append] at hnodup
    obtain ⟨hinit, -, hdisjoint⟩ := hnodup
    have hstep : dictOf (items ++ [item]) = (dictOf items).set item.1 item.2 := by
      unfold dictOf
      rw [List.foldl_append]
      rfl
    have hnew : item.1 ∉ dictOf items := by
      intro hmem
      rw [Dict.mem_def, Dict.keys, ih hinit] at hmem
      exact hdisjoint item.1 hmem item.1 (List.mem_singleton_self _) rfl
    rw [hstep, Dict.items_set_of_notMem hnew, ih hinit]

omit [FloatRepr] [Hashing] in
theorem get?_dictOf {κ ν : Type} [DecidableEq κ] {items : List (κ × ν)} (hnodup : (items.map Prod.fst).Nodup)
    {k : κ} {v : ν} : (dictOf items).get? k = some v ↔ (k, v) ∈ items := by
  rw [Dict.get?_eq_some, items_dictOf hnodup]

/-- A state knows what is left of an aggregate: its sequences with their links, its identities, the ends of its
ranges, and the length that its text would have. -/
structure Tracks (key : AggregateKey) (state : AggregateSizeState) (events : List TraceEvent) : Prop where
  shell : ∃ own, state.aggregateShell = shellOf own ∧ aggregateModelKey own = key
  remaining : state.remainingSequences = sequenceSet events
  previous : ∀ event ∈ events, ∃ link, state.previousSequences.get? event.sequence = some link
    ∧ Intervals.Previous (sequenceSet events) event.sequence link
  next : ∀ event ∈ events, ∃ link, state.nextSequences.get? event.sequence = some link
    ∧ Intervals.Next (sequenceSet events) event.sequence link
  sequences : ∀ event ∈ events, state.eventSequences.get? event.eventId = some event.sequence
  ids : ∀ event ∈ events, state.sourceIdSizes.get? event.eventId = some (idSize event)
  count : state.count = events.length
  head : ∀ sequence, state.headSequence = some sequence ↔ IsLeast (sequenceSet events : Set ℕ) sequence
  tail : ∀ sequence, state.tailSequence = some sequence ↔ IsGreatest (sequenceSet events : Set ℕ) sequence
  rangeCount : state.rangeCount
    = ∑ x ∈ sequenceSet events, Intervals.boundary 1 (fun _ => 0) (sequenceSet events) x
  rangeEndpointBytes : state.rangeEndpointBytes
    = ∑ x ∈ sequenceSet events, Intervals.boundary 0 sequenceSize (sequenceSet events) x
  sourceIdBytes : state.sourceIdBytes = (events.map idSize).sum
  currentSize : state.currentSize = aggregateSize key events

/-- The events without one of them. -/
def without (event : TraceEvent) (events : List TraceEvent) : List TraceEvent :=
  events.filter fun other => other.eventId ≠ event.eventId

omit [FloatRepr] [Hashing] in
theorem perm_without {event : TraceEvent} (hslice : Slice events) (hevent : event ∈ events) :
    events.Perm (event :: without event events) := by
  have hsplit := List.filter_append_perm (fun other : TraceEvent => decide (other.eventId = event.eventId)) events
  have hown : (events.filter fun other => decide (other.eventId = event.eventId)).Perm [event] := by
    refine (List.perm_ext_iff_of_nodup ?_ (List.nodup_singleton _)).mpr fun other => ?_
    · exact (hslice.nodup.of_map _).filter _
    · rw [List.mem_filter, decide_eq_true_eq, List.mem_singleton]
      constructor
      · exact fun h => hslice.ids_inj h.1 hevent h.2
      · intro h
        rw [h]
        exact ⟨hevent, rfl⟩
  have hothers : (events.filter fun other => !decide (other.eventId = event.eventId)) = without event events :=
    List.filter_congr fun other _ => by simp
  rw [hothers] at hsplit
  exact hsplit.symm.trans (hown.append_right _)

omit [FloatRepr] [Hashing] in
theorem sequenceSet_without {event : TraceEvent} (hslice : Slice events) (hevent : event ∈ events) :
    sequenceSet (without event events) = (sequenceSet events).erase event.sequence := by
  ext sequence
  unfold sequenceSet without
  rw [Finset.mem_erase, List.mem_toFinset, List.mem_toFinset, List.mem_map, List.mem_map]
  constructor
  · rintro ⟨other, hother, rfl⟩
    obtain ⟨hin, hid⟩ := List.mem_filter.mp hother
    refine ⟨fun heq => ?_, other, hin, rfl⟩
    rw [hslice.sequences_inj hin hevent heq] at hid
    simp at hid
  · rintro ⟨hne, other, hin, rfl⟩
    refine ⟨other, List.mem_filter.mpr ⟨hin, ?_⟩, rfl⟩
    refine decide_eq_true fun hid => hne ?_
    rw [hslice.ids_inj hin hevent hid]

omit [FloatRepr] [Hashing] in
theorem sequence_mem {event : TraceEvent} (hevent : event ∈ events) : event.sequence ∈ sequenceSet events :=
  List.mem_toFinset.mpr (List.mem_map_of_mem hevent)

omit [FloatRepr] [Hashing] in
theorem sequenceSet_positive (events : List TraceEvent) : ∀ x ∈ sequenceSet events, 1 ≤ x :=
  fun x hx => Slice.positive events x (List.mem_toFinset.mp hx)

/-- The four cases of the ranges around a sequence that is taken out. -/
theorem rangesWithout_eq {state : AggregateSizeState} {event : TraceEvent} (htracks : Tracks key state events)
    (hslice : Slice events) (hevent : event ∈ events) :
    state.rangesWithout event.sequence
      = (∑ x ∈ sequenceSet (without event events),
          Intervals.boundary 1 (fun _ => 0) (sequenceSet (without event events)) x,
        ∑ x ∈ sequenceSet (without event events),
          Intervals.boundary 0 sequenceSize (sequenceSet (without event events)) x) := by
  have hpositive := sequenceSet_positive events
  rw [sequenceSet_without hslice hevent, Intervals.sum_boundary_erase (sequence_mem hevent) hpositive,
    Intervals.sum_boundary_erase (sequence_mem hevent) hpositive, ← htracks.rangeCount, ← htracks.rangeEndpointBytes]
  unfold AggregateSizeState.rangesWithout Intervals.boundary
  rw [htracks.remaining]
  by_cases hprevious : event.sequence - 1 ∈ sequenceSet events
  · by_cases hnext : event.sequence + 1 ∈ sequenceSet events
    · simp only [hprevious, hnext, and_self, if_true]
      refine Prod.ext ?_ ?_
      · show _ = _ - (0 + 0) + (1 + 0) + 0
        omega
      · show _ = _ - (0 + 0) + (0 + _) + _
        omega
    · simp only [hprevious, hnext, and_false, if_true, if_false]
      refine Prod.ext ?_ ?_
      · show _ = _ - (0 + 0) + 0 + 0
        omega
      · show _ = _ - (0 + _) + 0 + _
        omega
  · by_cases hnext : event.sequence + 1 ∈ sequenceSet events
    · simp only [hprevious, hnext, false_and, if_true, if_false]
      refine Prod.ext ?_ ?_
      · show _ = _ - (1 + 0 + 0) + (1 + 0) + 0
        omega
      · show _ = _ - (0 + _ + 0) + (0 + _) + 0
        omega
    · simp only [hprevious, hnext, and_self, if_false]
      refine Prod.ext ?_ ?_
      · show _ = _ - (1 + 0 + 0) + 0 + 0
        omega
      · show _ = _ - (0 + _ + _) + 0 + 0
        omega

/-- What the preview of a removal says. -/
structure Previews (key : AggregateKey) (event : TraceEvent) (events : List TraceEvent) (removal : AggregateRemoval) :
    Prop where
  sequence : removal.sequence = event.sequence
  previous : Intervals.Previous (sequenceSet events) event.sequence removal.previousSequence
  next : Intervals.Next (sequenceSet events) event.sequence removal.nextSequence
  count : removal.count = (without event events).length
  head : ∀ sequence, removal.headSequence = some sequence
    ↔ IsLeast (sequenceSet (without event events) : Set ℕ) sequence
  tail : ∀ sequence, removal.tailSequence = some sequence
    ↔ IsGreatest (sequenceSet (without event events) : Set ℕ) sequence
  rangeCount : removal.rangeCount = ∑ x ∈ sequenceSet (without event events),
    Intervals.boundary 1 (fun _ => 0) (sequenceSet (without event events)) x
  rangeEndpointBytes : removal.rangeEndpointBytes = ∑ x ∈ sequenceSet (without event events),
    Intervals.boundary 0 sequenceSize (sequenceSet (without event events)) x
  sourceIdBytes : removal.sourceIdBytes = ((without event events).map idSize).sum
  serializedSize : removal.serializedSize = aggregateSize key (without event events)

omit [FloatRepr] [Hashing] in
/-- The first sequence once an event is taken out: the next one, if it was the first. -/
theorem head_without {event : TraceEvent} (hslice : Slice events) (hevent : event ∈ events) {head link : Option ℕ}
    (hhead : ∀ sequence, head = some sequence ↔ IsLeast (sequenceSet events : Set ℕ) sequence)
    (hlink : Intervals.Next (sequenceSet events) event.sequence link) (hmore : without event events ≠ [])
    (sequence : ℕ) :
    (if some event.sequence = head then link else head) = some sequence
      ↔ IsLeast (sequenceSet (without event events) : Set ℕ) sequence := by
  obtain ⟨other, hother⟩ := List.exists_mem_of_ne_nil _ hmore
  have hin := sequence_mem hother
  rw [sequenceSet_without hslice hevent] at hin ⊢
  obtain ⟨hne, hmem⟩ := Finset.mem_erase.mp hin
  split
  next hfirst =>
    have hleast := (hhead _).mp hfirst.symm
    cases link with
    | none =>
      have hle := hleast.2 (Finset.mem_coe.mpr hmem)
      exact absurd (le_antisymm (hlink _ hmem) hle) hne
    | some n =>
      have hleast' := hlink.isLeast_erase hleast
      rw [Option.some.injEq]
      exact ⟨fun h => h ▸ hleast', fun h => hleast'.unique h⟩
  next hfirst =>
    rw [hhead]
    constructor
    · rintro ⟨hs, hle⟩
      have hother' : sequence ≠ event.sequence := by
        rintro rfl
        exact hfirst ((hhead _).mpr ⟨hs, hle⟩).symm
      refine ⟨Finset.mem_coe.mpr (Finset.mem_erase.mpr ⟨hother', Finset.mem_coe.mp hs⟩), fun z hz => ?_⟩
      exact hle (Finset.mem_coe.mpr (Finset.mem_of_mem_erase (Finset.mem_coe.mp hz)))
    · rintro ⟨hs, hle⟩
      obtain ⟨hs', hsin⟩ := Finset.mem_erase.mp (Finset.mem_coe.mp hs)
      -- the set has a least value, which is not the one taken out
      obtain ⟨least, hleast⟩ : ∃ least, IsLeast (sequenceSet events : Set ℕ) least :=
        ⟨(sequenceSet events).min' ⟨_, hmem⟩, Finset.isLeast_min' _ _⟩
      have hkept : least ≠ event.sequence := by
        rintro rfl
        exact hfirst ((hhead _).mpr hleast).symm
      have hback := hle (Finset.mem_coe.mpr (Finset.mem_erase.mpr ⟨hkept, Finset.mem_coe.mp hleast.1⟩))
      have hforth := hleast.2 (Finset.mem_coe.mpr hsin)
      rw [le_antisymm hback hforth]
      exact hleast

omit [FloatRepr] [Hashing] in
/-- The last sequence once an event is taken out: the previous one, if it was the last. -/
theorem tail_without {event : TraceEvent} (hslice : Slice events) (hevent : event ∈ events) {tail link : Option ℕ}
    (htail : ∀ sequence, tail = some sequence ↔ IsGreatest (sequenceSet events : Set ℕ) sequence)
    (hlink : Intervals.Previous (sequenceSet events) event.sequence link) (hmore : without event events ≠ [])
    (sequence : ℕ) :
    (if some event.sequence = tail then link else tail) = some sequence
      ↔ IsGreatest (sequenceSet (without event events) : Set ℕ) sequence := by
  obtain ⟨other, hother⟩ := List.exists_mem_of_ne_nil _ hmore
  have hin := sequence_mem hother
  rw [sequenceSet_without hslice hevent] at hin ⊢
  obtain ⟨hne, hmem⟩ := Finset.mem_erase.mp hin
  split
  next hlast =>
    have hgreatest := (htail _).mp hlast.symm
    cases link with
    | none =>
      have hle := hgreatest.2 (Finset.mem_coe.mpr hmem)
      exact absurd (le_antisymm hle (hlink _ hmem)) hne
    | some n =>
      have hgreatest' := hlink.isGreatest_erase hgreatest
      rw [Option.some.injEq]
      exact ⟨fun h => h ▸ hgreatest', fun h => hgreatest'.unique h⟩
  next hlast =>
    rw [htail]
    constructor
    · rintro ⟨hs, hle⟩
      have hother' : sequence ≠ event.sequence := by
        rintro rfl
        exact hlast ((htail _).mpr ⟨hs, hle⟩).symm
      refine ⟨Finset.mem_coe.mpr (Finset.mem_erase.mpr ⟨hother', Finset.mem_coe.mp hs⟩), fun z hz => ?_⟩
      exact hle (Finset.mem_coe.mpr (Finset.mem_of_mem_erase (Finset.mem_coe.mp hz)))
    · rintro ⟨hs, hle⟩
      obtain ⟨hs', hsin⟩ := Finset.mem_erase.mp (Finset.mem_coe.mp hs)
      obtain ⟨greatest, hgreatest⟩ : ∃ greatest, IsGreatest (sequenceSet events : Set ℕ) greatest :=
        ⟨(sequenceSet events).max' ⟨_, hmem⟩, Finset.isGreatest_max' _ _⟩
      have hkept : greatest ≠ event.sequence := by
        rintro rfl
        exact hlast ((htail _).mpr hgreatest).symm
      have hback := hle (Finset.mem_coe.mpr (Finset.mem_erase.mpr ⟨hkept, Finset.mem_coe.mp hgreatest.1⟩))
      have hforth := hgreatest.2 (Finset.mem_coe.mpr hsin)
      rw [le_antisymm hforth hback]
      exact hgreatest

/-- What is left of an aggregate knows its size, also when nothing is left. -/
theorem serializedSize_left {own : EventAggregate} (head tail : Option ℕ) (hkeyed : Keyed reasons key events)
    (hreasons : UniqueReasons reasons) (hkey : aggregateModelKey own = key)
    (hhead : events ≠ [] → ∀ sequence, head = some sequence ↔ IsLeast (sequenceSet events : Set ℕ) sequence)
    (htail : events ≠ [] → ∀ sequence, tail = some sequence ↔ IsGreatest (sequenceSet events : Set ℕ) sequence) :
    AggregateSizeState.serializedSize (shellOf own) events.length head tail
      (∑ x ∈ sequenceSet events, Intervals.boundary 1 (fun _ => 0) (sequenceSet events) x)
      (∑ x ∈ sequenceSet events, Intervals.boundary 0 sequenceSize (sequenceSet events) x) (events.map idSize).sum
      = .ok (aggregateSize key events) := by
  by_cases hne : events = []
  · subst hne
    rfl
  · obtain ⟨made, hmade, his, hmadeKey⟩ := hkeyed.aggregate hreasons hne
    obtain ⟨first, hfirst, -, -, -, -, hfirstSequence⟩ := his.first
    obtain ⟨last, hlast, hlastSequence⟩ := his.last
    have hsorted := hkeyed.slice.sorted
    have hheadIs : head = some made.firstSequence := by
      refine (hhead hne _).mpr ((Intervals.head?_eq_some_iff hsorted).mp ?_)
      rw [List.head?_map, hfirst, hfirstSequence]
      rfl
    have htailIs : tail = some made.lastSequence := by
      refine (htail hne _).mpr ((Intervals.getLast?_eq_some_iff hsorted).mp ?_)
      rw [List.getLast?_map, hlast, hlastSequence]
      rfl
    have hsize : aggregateSize key events = canonicalSize made.modelDump := by
      unfold aggregateSize
      rw [hmade]
    rw [hheadIs, htailIs, hsize]
    exact serializedSize_eq hne hkeyed.slice his (hkey.trans hmadeKey.symm)

/-- A removal is previewed as what it would leave. -/
theorem Tracks.previewRemoval {state : AggregateSizeState} {event : TraceEvent} (htracks : Tracks key state events)
    (hkeyed : Keyed reasons key events) (hreasons : UniqueReasons reasons) (hevent : event ∈ events) :
    ∃ removal, state.previewRemoval event.eventId = .ok removal ∧ Previews key event events removal := by
  have hslice := hkeyed.slice
  have hleft := hkeyed.filter fun other => decide (other.eventId ≠ event.eventId)
  obtain ⟨own, hshell, hown⟩ := htracks.shell
  obtain ⟨previous, hprevious, hpreviousLink⟩ := htracks.previous event hevent
  obtain ⟨next, hnext, hnextLink⟩ := htracks.next event hevent
  have hperm := perm_without hslice hevent
  have hlength : state.count - 1 = (without event events).length := by
    rw [htracks.count, hperm.length_eq, List.length_cons]
    push_cast
    omega
  have hids : state.sourceIdBytes - idSize event = ((without event events).map idSize).sum := by
    rw [htracks.sourceIdBytes, (hperm.map idSize).sum_eq, List.map_cons, List.sum_cons]
    omega
  have hempty : state.count - 1 = 0 ↔ without event events = [] := by
    rw [hlength, Nat.cast_eq_zero, List.length_eq_zero_iff]
  let head := if state.count - 1 = 0 then none
    else if some event.sequence = state.headSequence then next else state.headSequence
  let tail := if state.count - 1 = 0 then none
    else if some event.sequence = state.tailSequence then previous else state.tailSequence
  have hhead : ∀ sequence, head = some sequence
      ↔ IsLeast (sequenceSet (without event events) : Set ℕ) sequence := by
    intro sequence
    by_cases hnone : state.count - 1 = 0
    · show (if state.count - 1 = 0 then none else _) = _ ↔ _
      rw [if_pos hnone, hempty.mp hnone]
      simp [sequenceSet, IsLeast]
    · show (if state.count - 1 = 0 then none else _) = _ ↔ _
      rw [if_neg hnone]
      exact head_without hslice hevent htracks.head hnextLink (fun h => hnone (hempty.mpr h)) sequence
  have htail : ∀ sequence, tail = some sequence
      ↔ IsGreatest (sequenceSet (without event events) : Set ℕ) sequence := by
    intro sequence
    by_cases hnone : state.count - 1 = 0
    · show (if state.count - 1 = 0 then none else _) = _ ↔ _
      rw [if_pos hnone, hempty.mp hnone]
      simp [sequenceSet, IsGreatest]
    · show (if state.count - 1 = 0 then none else _) = _ ↔ _
      rw [if_neg hnone]
      exact tail_without hslice hevent htracks.tail hpreviousLink (fun h => hnone (hempty.mpr h)) sequence
  have hsize := serializedSize_left head tail hleft hreasons hown (fun _ => hhead) fun _ => htail
  have hranges := rangesWithout_eq htracks hslice hevent
  refine ⟨{
    sequence := event.sequence
    previousSequence := previous
    nextSequence := next
    count := state.count - 1
    headSequence := head
    tailSequence := tail
    rangeCount := (state.rangesWithout event.sequence).1
    rangeEndpointBytes := (state.rangesWithout event.sequence).2
    sourceIdBytes := state.sourceIdBytes - idSize event
    serializedSize := aggregateSize key (without event events) }, ?_, rfl, hpreviousLink, hnextLink, hlength, hhead,
    htail, congrArg Prod.fst hranges, congrArg Prod.snd hranges, hids, rfl⟩
  unfold AggregateSizeState.previewRemoval
  simp only [expect_bind_eq_ok]
  refine ⟨_, htracks.sequences event hevent, _, hprevious, _, hnext, _, htracks.ids event hevent, ?_⟩
  refine bind_eq_ok.mpr ⟨aggregateSize key (without event events), ?_, rfl⟩
  show AggregateSizeState.serializedSize state.aggregateShell (state.count - 1) head tail _ _ _ = _
  rw [hshell, hranges, hids, hlength]
  exact hsize

omit [FloatRepr] [Hashing] in
/-- A link of a dictionary once an event is taken out. -/
theorem get?_relinked {links : Dict ℕ (Option ℕ)} {before : Option ℕ} {after : Option ℕ} {x y : ℕ} {link : Option ℕ}
    (hne : y ≠ x) (hlink : links.get? y = some link) (hbefore : before = some y ↔ link = some x) :
    ((match before with
      | none => links
      | some other => links.set other after).erase x).get? y = some (if link = some x then after else link) := by
  rw [Dict.get?_erase_of_ne hne]
  cases before with
  | none =>
    have hother : link ≠ some x := fun h => by cases hbefore.mpr h
    rw [if_neg hother]
    exact hlink
  | some other =>
    show (links.set other after).get? y = _
    by_cases hto : link = some x
    · obtain rfl := Option.some.inj (hbefore.mpr hto)
      rw [if_pos hto, Dict.get?_set_self]
    · have hother : y ≠ other := fun h => hto (hbefore.mp (congrArg some h.symm))
      rw [if_neg hto, Dict.get?_set_of_ne hother]
      exact hlink

/-- A removal that was previewed leaves a state that tracks what is left. -/
theorem Tracks.applyRemoval {state : AggregateSizeState} {event : TraceEvent} {removal : AggregateRemoval}
    (htracks : Tracks key state events) (hslice : Slice events) (hevent : event ∈ events)
    (hpreviews : Previews key event events removal) :
    ∃ left, state.applyRemoval event.eventId removal = .ok left ∧ Tracks key left (without event events) := by
  have hin := sequence_mem hevent
  obtain ⟨previous, hprevious, hpreviousLink⟩ := htracks.previous event hevent
  obtain ⟨next, hnext, hnextLink⟩ := htracks.next event hevent
  have hsame : ∀ {other : TraceEvent}, other ∈ without event events → other ∈ events ∧ other.eventId ≠ event.eventId
      ∧ other.sequence ≠ event.sequence := by
    intro other hother
    obtain ⟨hmem, hid⟩ := List.mem_filter.mp hother
    have hid := of_decide_eq_true hid
    refine ⟨hmem, hid, fun heq => hid ?_⟩
    rw [hslice.sequences_inj hmem hevent heq]
  have hset : ∀ {links : Dict ℕ (Option ℕ)} {o after : Option ℕ}, event.sequence ∈ links →
      event.sequence ∈ (match o with
        | none => links
        | some other => links.set other after) := by
    intro links o after hmem
    cases o with
    | none => exact hmem
    | some other => exact Dict.mem_set_of_mem hmem
  let nextSequences := match removal.previousSequence with
    | none => state.nextSequences
    | some previous => state.nextSequences.set previous removal.nextSequence
  let previousSequences := match removal.nextSequence with
    | none => state.previousSequences
    | some next => state.previousSequences.set next removal.previousSequence
  refine ⟨{ state with
    remainingSequences := state.remainingSequences.erase removal.sequence
    previousSequences := previousSequences.erase removal.sequence
    nextSequences := nextSequences.erase removal.sequence
    eventSequences := state.eventSequences.erase event.eventId
    sourceIdSizes := state.sourceIdSizes.erase event.eventId
    count := removal.count
    headSequence := removal.headSequence
    tailSequence := removal.tailSequence
    rangeCount := removal.rangeCount
    rangeEndpointBytes := removal.rangeEndpointBytes
    sourceIdBytes := removal.sourceIdBytes
    currentSize := removal.serializedSize }, ?_, ?_⟩
  · unfold AggregateSizeState.applyRemoval
    simp only [raiseIf_bind_eq_ok, not_not, ne_eq]
    rw [hpreviews.sequence, htracks.remaining]
    refine ⟨htracks.sequences event hevent, hin, hset (Dict.mem_of_get? hprevious), hset (Dict.mem_of_get? hnext),
      Dict.mem_of_get? (htracks.ids event hevent), rfl⟩
  · refine ⟨htracks.shell, ?_, fun other hother => ?_, fun other hother => ?_, fun other hother => ?_,
      fun other hother => ?_, hpreviews.count, hpreviews.head, hpreviews.tail, hpreviews.rangeCount,
      hpreviews.rangeEndpointBytes, hpreviews.sourceIdBytes, hpreviews.serializedSize⟩
    · show state.remainingSequences.erase removal.sequence = _
      rw [htracks.remaining, hpreviews.sequence, sequenceSet_without hslice hevent]
    · obtain ⟨hmem, -, hsequence⟩ := hsame hother
      obtain ⟨link, hlink, hprev⟩ := htracks.previous other hmem
      refine ⟨if link = some event.sequence then removal.previousSequence else link, ?_, ?_⟩
      · show (previousSequences.erase removal.sequence).get? other.sequence = _
        rw [hpreviews.sequence]
        refine get?_relinked hsequence hlink ?_
        constructor
        · intro h
          have hto := hpreviews.next
          rw [h] at hto
          have hfrom := (Intervals.next_some_iff hin (sequence_mem hmem)).mp hto
          exact hprev.unique hfrom
        · intro h
          rw [h] at hprev
          exact hpreviews.next.unique ((Intervals.next_some_iff hin (sequence_mem hmem)).mpr hprev)
      · rw [sequenceSet_without hslice hevent]
        exact hprev.erase hpreviews.previous
    · obtain ⟨hmem, -, hsequence⟩ := hsame hother
      obtain ⟨link, hlink, hnxt⟩ := htracks.next other hmem
      refine ⟨if link = some event.sequence then removal.nextSequence else link, ?_, ?_⟩
      · show (nextSequences.erase removal.sequence).get? other.sequence = _
        rw [hpreviews.sequence]
        refine get?_relinked hsequence hlink ?_
        constructor
        · intro h
          have hto := hpreviews.previous
          rw [h] at hto
          have hfrom := (Intervals.next_some_iff (sequence_mem hmem) hin).mpr hto
          exact hnxt.unique hfrom
        · intro h
          rw [h] at hnxt
          exact hpreviews.previous.unique ((Intervals.next_some_iff (sequence_mem hmem) hin).mp hnxt)
      · rw [sequenceSet_without hslice hevent]
        exact hnxt.erase hpreviews.next
    · obtain ⟨hmem, hid, -⟩ := hsame hother
      show (state.eventSequences.erase event.eventId).get? other.eventId = _
      rw [Dict.get?_erase_of_ne hid]
      exact htracks.sequences other hmem
    · obtain ⟨hmem, hid, -⟩ := hsame hother
      show (state.sourceIdSizes.erase event.eventId).get? other.eventId = _
      rw [Dict.get?_erase_of_ne hid]
      exact htracks.ids other hmem

/-- The state of an aggregate tracks its events. -/
theorem fromAggregate_eq_ok {made : EventAggregate} (hkeyed : Keyed reasons key events)
    (hreasons : UniqueReasons reasons) (hne : events ≠ []) (hmade : aggregate events key.priorityKinds = .ok made)
    (his : IsAggregate events key.priorityKinds made) (hkey : aggregateModelKey made = key) :
    ∃ state, AggregateSizeState.fromAggregate made events = .ok state ∧ Tracks key state events := by
  have hslice := hkeyed.slice
  have hsorted := hslice.sorted
  have hordered := hslice.sortBy_eq
  have hsequencesNodup : (events.map (·.sequence)).Nodup := hsorted.imp fun hlt => hlt.ne
  have hcount := sum_map_ranges (c := 1) (w := fun _ => 0) hslice his.ranges
  have hends := sum_map_ranges (c := 0) (w := sequenceSize) hslice his.ranges
  simp only [add_zero, List.map_const', List.sum_replicate, zero_add, mul_one, nsmul_eq_mul] at hcount hends
  obtain ⟨head, hhead⟩ : ∃ head, (events.map (·.sequence)).head? = some head := by
    obtain ⟨event, rest, rfl⟩ := List.exists_cons_of_ne_nil hne
    exact ⟨_, rfl⟩
  obtain ⟨tail, htail⟩ : ∃ tail, (events.map (·.sequence)).getLast? = some tail :=
    ⟨_, List.getLast?_eq_some_getLast fun h => hne (List.map_eq_nil_iff.mp h)⟩
  have hidKeys : ((events.map fun event => (event.eventId, (canonicalSize (.str event.eventId.toString) : ℤ))).map
      Prod.fst).Nodup := by
    rw [List.map_map]
    exact hslice.nodup
  have hsequenceKeys : ((events.map fun event => (event.eventId, event.sequence)).map Prod.fst).Nodup := by
    rw [List.map_map]
    exact hslice.nodup
  have hvalues : (dictOf (events.map fun event =>
      (event.eventId, (canonicalSize (.str event.eventId.toString) : ℤ)))).values.sum = (events.map idSize).sum := by
    unfold Dict.values
    rw [items_dictOf hidKeys, List.map_map]
    rfl
  have hpreviousKeys : (((events.map (·.sequence)).zip (none :: (events.map (·.sequence)).map some)).map Prod.fst)
      = events.map (·.sequence) := List.map_fst_zip (by simp)
  have hnextKeys : (((events.map (·.sequence)).zip ((events.map (·.sequence)).tail.map some ++ [none])).map Prod.fst)
      = events.map (·.sequence) := List.map_fst_zip (by simp; omega)
  have hleast := fun sequence => Intervals.head?_eq_some_iff hsorted (x := sequence)
  have hgreatest := fun sequence => Intervals.getLast?_eq_some_iff hsorted (x := sequence)
  rw [hhead] at hleast
  rw [htail] at hgreatest
  have hsize := serializedSize_left (some head) (some tail) hkeyed hreasons hkey (fun _ => hleast) fun _ => hgreatest
  have hcanonical : aggregateSize key events = canonicalSize made.modelDump := by
    unfold aggregateSize
    rw [hmade]
  refine ⟨{
    aggregateShell := shellOf made
    remainingSequences := (events.map (·.sequence)).toFinset
    previousSequences := dictOf ((events.map (·.sequence)).zip (none :: (events.map (·.sequence)).map some))
    nextSequences := dictOf ((events.map (·.sequence)).zip ((events.map (·.sequence)).tail.map some ++ [none]))
    eventSequences := dictOf (events.map fun event => (event.eventId, event.sequence))
    sourceIdSizes := dictOf (events.map fun event =>
      (event.eventId, (canonicalSize (.str event.eventId.toString) : ℤ)))
    count := events.length
    headSequence := some head
    tailSequence := some tail
    rangeCount := made.provenanceRanges.length
    rangeEndpointBytes := (made.provenanceRanges.map fun item =>
      sequenceSize item.firstSequence + sequenceSize item.lastSequence).sum
    sourceIdBytes := (dictOf (events.map fun event =>
      (event.eventId, (canonicalSize (.str event.eventId.toString) : ℤ)))).values.sum
    currentSize := aggregateSize key events }, ?_, ⟨⟨made, rfl, hkey⟩, rfl, fun event hevent => ?_, fun event hevent => ?_,
      fun event hevent => ?_, fun event hevent => ?_, rfl, hleast, hgreatest, hcount, hends, hvalues, rfl⟩⟩
  · unfold AggregateSizeState.fromAggregate
    rw [hordered, raiseIf_bind_of_not (fun h => h his.ids.symm)]
    refine bind_eq_ok.mpr ⟨head, expect_eq_ok.mpr hhead, bind_eq_ok.mpr ⟨tail, expect_eq_ok.mpr htail, ?_⟩⟩
    refine bind_eq_ok.mpr ⟨aggregateSize key events, ?_, ?_⟩
    · rw [hvalues, hcount, hends]
      exact hsize
    · rw [raiseIf_bind_of_not (fun h => h hcanonical)]
      rfl
  · have hmem : event.sequence ∈ events.map (·.sequence) := List.mem_map_of_mem hevent
    rw [← hpreviousKeys] at hmem
    obtain ⟨pair, hpair, hfst⟩ := List.mem_map.mp hmem
    refine ⟨pair.2, (get?_dictOf (by rw [hpreviousKeys]; exact hsequencesNodup)).mpr (hfst ▸ hpair), ?_⟩
    rw [← hfst]
    exact Intervals.previous_of_mem_zip hsorted hpair
  · have hmem : event.sequence ∈ events.map (·.sequence) := List.mem_map_of_mem hevent
    rw [← hnextKeys] at hmem
    obtain ⟨pair, hpair, hfst⟩ := List.mem_map.mp hmem
    refine ⟨pair.2, (get?_dictOf (by rw [hnextKeys]; exact hsequencesNodup)).mpr (hfst ▸ hpair), ?_⟩
    rw [← hfst]
    exact Intervals.next_of_mem_zip hsorted hpair
  · exact (get?_dictOf hsequenceKeys).mpr (List.mem_map.mpr ⟨event, hevent, rfl⟩)
  · exact (get?_dictOf hidKeys).mpr (List.mem_map.mpr ⟨event, hevent, rfl⟩)

end SalienceGate
