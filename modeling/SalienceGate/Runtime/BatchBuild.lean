import SalienceGate.Runtime.BatchPlanner

/-!
# What the batcher returns

The loop of `build` promotes one candidate after the other, and after each of them the planner agrees with the
payload of the events that are verbatim by then. So `build` never finds the planner wrong: it returns a batch, or
that the latest events alone are too many. A batch represents every event once, within its limits.
-/

namespace SalienceGate

open Checked Grouping

/-! ## Sizes and budgets -/

/-- The largest payload of a configuration. -/
def byteBudget (config : BatchConfig) : ℕ := min config.maxUtf8Bytes (config.maxApproximateTokens * 4)

theorem fits_iff {size : TextSize} {config : BatchConfig} (htokens : size.approximateTokens = (size.utf8Bytes + 3) / 4) :
    fits size config = true ↔ size.utf8Bytes ≤ byteBudget config := by
  unfold fits byteBudget
  rw [decide_eq_true_eq, htokens, le_min_iff]
  constructor
  · rintro ⟨hbytes, htokens⟩
    refine ⟨hbytes, ?_⟩
    omega
  · rintro ⟨hbytes, htokens⟩
    refine ⟨hbytes, ?_⟩
    omega

variable [FloatRepr] [InstantText]

/-- Every payload is measured, in the bytes of its canonical text. -/
theorem measurePayload_eq_ok [Hashing] (made : BatchPayload) : ∃ size, measurePayload made = .ok size
    ∧ size.utf8Bytes = canonicalSize made.modelDump
    ∧ size.approximateTokens = (size.utf8Bytes + 3) / 4 := by
  obtain ⟨size, hsize, hbytes, htokens⟩ := measure_eq_ok (canonicalJson made.modelDump)
  refine ⟨size, ?_, hbytes, ?_⟩
  · unfold measurePayload
    rw [mapError_eq_ok]
    exact hsize
  · rw [hbytes]
    exact htokens

variable [Hashing] (request : BatchRequest) (config : BatchConfig)

/-- The first half of `build` returns the payload with the latest events, and its size. -/
theorem mandatory_eq_ok : ∃ current size, mandatory request config = .ok (current, size)
    ∧ payload request (configurationDigest config) (recentIds request config) (priorityReasons request) = .ok current
    ∧ IsPayload request (configurationDigest config) (recentIds request config) (priorityReasons request) current
    ∧ measurePayload current = .ok size ∧ size.utf8Bytes = canonicalSize current.modelDump
    ∧ size.approximateTokens = (size.utf8Bytes + 3) / 4 := by
  obtain ⟨current, hcurrent, his⟩ := payload_eq_ok request (uniqueReasons_priorityReasons request)
    (configurationDigest config) (recentIds request config)
  obtain ⟨size, hsize, hbytes, htokens⟩ := measurePayload_eq_ok current
  refine ⟨current, size, ?_, hcurrent, his, hsize, hbytes, htokens⟩
  unfold mandatory
  exact bind_eq_ok.mpr ⟨current, hcurrent, bind_eq_ok.mpr ⟨size, hsize, rfl⟩⟩

/-! ## The loop -/

/-- What the loop keeps: the planner agrees with the payload, the latest events stay, and each priority is counted
and within its limit, or not promoted. -/
structure Promoting (promotions : Promotions) : Prop where
  plans : Plans request (configurationDigest config) (priorityReasons request) promotions.verbatimIds promotions.planner
  recent : recentIds request config ⊆ promotions.verbatimIds
  used : promotions.used = usedBy (priorityReasons request) promotions.verbatimIds
  limited : ∀ kind, promotions.used kind
    ≤ max (priorityLimits config kind) (usedBy (priorityReasons request) (recentIds request config) kind)

variable {request config}

omit [FloatRepr] [InstantText] [Hashing] in
theorem usedBy_insert {reasons : PriorityReasons} {verbatimIds : Finset UUID4} {id : UUID4} (hid : id ∉ verbatimIds)
    (kind : BatchPriorityKind) : usedBy reasons (insert id verbatimIds) kind
      = usedBy reasons verbatimIds kind + if kind ∈ reasonsOf reasons id then 1 else 0 := by
  unfold usedBy
  rw [Finset.filter_insert]
  split
  next h => rw [Finset.card_insert_of_notMem fun hin => hid (Finset.mem_filter.mp hin).1]
  next h => rfl

/-- One candidate that is not yet verbatim: it is promoted, or left where it is. -/
theorem promote_eq_ok {promotions : Promotions} {candidate : TraceEvent} (h : Promoting request config promotions)
    (hcandidate : candidate ∈ compacted request.events promotions.verbatimIds) :
    ∃ next, promote config (priorityReasons request) promotions candidate = .ok next ∧ Promoting request config next
      ∧ (next = promotions ∨ next.verbatimIds = insert candidate.eventId promotions.verbatimIds
        ∧ next.planner.totalSize ≤ byteBudget config) := by
  have hreasons := uniqueReasons_priorityReasons request
  unfold promote
  dsimp only
  split
  next => exact ⟨promotions, rfl, h, .inl rfl⟩
  next hlimits =>
    obtain ⟨wrapper, hwrapper, -⟩ := verbatimEvent_eq_ok hreasons candidate
    obtain ⟨preview, next, hpreview, happly, hsize, hnext⟩ := h.plans.step hreasons hcandidate
    have hwrapperSize : verbatimSize (priorityReasons request) candidate = canonicalSize wrapper.modelDump := by
      unfold verbatimSize
      rw [hwrapper]
    rw [hwrapperSize] at hpreview
    by_cases hskip : preview.totalSize < promotions.planner.totalSize ∨ (byteBudget config : ℤ) < preview.totalSize
    · refine ⟨promotions, ?_, h, .inl rfl⟩
      refine bind_eq_ok.mpr ⟨wrapper, hwrapper, bind_eq_ok.mpr ⟨preview, hpreview, ?_⟩⟩
      exact if_pos hskip
    · have hid : candidate.eventId ∉ promotions.verbatimIds := of_decide_eq_true (List.mem_filter.mp hcandidate).2
      refine ⟨⟨next, insert candidate.eventId promotions.verbatimIds, fun kind => promotions.used kind
        + if kind ∈ reasonsOf (priorityReasons request) candidate.eventId then 1 else 0⟩, ?_,
        ⟨hnext, h.recent.trans (Finset.subset_insert _ _), funext fun kind => ?_, fun kind => ?_⟩, .inr ⟨rfl, ?_⟩⟩
      · refine bind_eq_ok.mpr ⟨wrapper, hwrapper, bind_eq_ok.mpr ⟨preview, hpreview, ?_⟩⟩
        exact (if_neg hskip).trans (bind_eq_ok.mpr ⟨next, happly, rfl⟩)
      · show promotions.used kind + _ = _
        rw [usedBy_insert hid, h.used]
      · show promotions.used kind + (if kind ∈ reasonsOf (priorityReasons request) candidate.eventId then 1 else 0) ≤ _
        have hbound := h.limited kind
        split
        next hkind =>
          -- a priority of a promoted event had not reached its limit
          have hfree : ¬priorityLimits config kind ≤ promotions.used kind := fun hfull => hlimits ⟨kind, hkind, hfull⟩
          exact le_max_of_le_left (by omega)
        next => exact hbound
      · show next.totalSize ≤ _
        rw [← hsize]
        omega

/-- The loop over candidates that are not yet verbatim. -/
theorem foldlM_promote_eq_ok {candidates : List TraceEvent} {start : Promotions} (h : Promoting request config start)
    (hcandidates : ∀ candidate ∈ candidates, candidate ∈ compacted request.events start.verbatimIds)
    (hnodup : (candidates.map (·.eventId)).Nodup) :
    ∃ done, candidates.foldlM (promote config (priorityReasons request)) start = .ok done
      ∧ Promoting request config done ∧ (done = start ∨ done.planner.totalSize ≤ byteBudget config) := by
  induction candidates generalizing start with
  | nil => exact ⟨start, rfl, h, .inl rfl⟩
  | cons candidate candidates ih =>
    rw [List.map_cons, List.nodup_cons] at hnodup
    obtain ⟨hfresh, hrest⟩ := hnodup
    obtain ⟨next, hnext, hpromoting, hcase⟩ := promote_eq_ok h (hcandidates candidate List.mem_cons_self)
    have hothers : ∀ other ∈ candidates, other ∈ compacted request.events next.verbatimIds := by
      intro other hother
      have hin := hcandidates other (List.mem_cons_of_mem _ hother)
      rcases hcase with heq | ⟨hids, -⟩
      · rw [heq]
        exact hin
      · rw [hids, compacted_insert]
        refine List.mem_filter.mpr ⟨hin, decide_eq_true fun hid => hfresh ?_⟩
        rw [← hid]
        exact List.mem_map_of_mem hother
    obtain ⟨done, hdone, hpromotingDone, hcaseDone⟩ := ih hpromoting hothers hrest
    refine ⟨done, ?_, hpromotingDone, ?_⟩
    · rw [foldlM_cons_eq_ok]
      exact ⟨next, hnext, hdone⟩
    · rcases hcaseDone with hsame | hbudget
      · rcases hcase with heq | ⟨-, hbudget⟩
        · exact .inl (hsame.trans heq)
        · rw [hsame]
          exact .inr hbudget
      · exact .inr hbudget

omit [FloatRepr] [InstantText] [Hashing] in
/-- The candidates are events of the slice that are not among the latest, each once. -/
theorem priorityCandidates_facts (request : BatchRequest) (verbatimIds : Finset UUID4) (reasons : PriorityReasons) :
    (∀ candidate ∈ priorityCandidates request verbatimIds reasons, candidate ∈ compacted request.events verbatimIds)
    ∧ ((priorityCandidates request verbatimIds reasons).map (·.eventId)).Nodup := by
  obtain ⟨-, hslice, -⟩ := request_facts request
  constructor
  · intro candidate hcandidate
    obtain ⟨hin, hkept⟩ := List.mem_filter.mp (mem_sortBy.mp hcandidate)
    exact List.mem_filter.mpr ⟨hin, decide_eq_true (of_decide_eq_true hkept).1⟩
  · have hperm := (perm_sortBy (candidateOrder reasons) (request.events.filter fun event =>
      event.eventId ∉ verbatimIds ∧ reasonsOf reasons event.eventId ≠ [])).map (·.eventId)
    exact hperm.nodup_iff.mpr (hslice.nodup.sublist (List.filter_sublist.map _))

variable (request config)

/-- The loop over any first part of the candidates. -/
theorem promotions_eq_ok {current : BatchPayload} {size : TextSize}
    (hcurrent : payload request (configurationDigest config) (recentIds request config) (priorityReasons request)
      = .ok current)
    (his : IsPayload request (configurationDigest config) (recentIds request config) (priorityReasons request) current)
    (hsize : size.utf8Bytes = canonicalSize current.modelDump) {first rest : List TraceEvent}
    (hcandidates : priorityCandidates request (recentIds request config) (priorityReasons request) = first ++ rest) :
    ∃ done, promotions request config current size first = .ok done ∧ Promoting request config done
      ∧ (size.utf8Bytes ≤ byteBudget config → done.planner.totalSize ≤ byteBudget config) := by
  have hreasons := uniqueReasons_priorityReasons request
  obtain ⟨planner, hplanner, hplans⟩ := fromPayload_eq_ok hreasons hcurrent his hsize
  have hstart : Promoting request config
      ⟨planner, recentIds request config, usedBy (priorityReasons request) (recentIds request config)⟩ :=
    ⟨hplans, Finset.Subset.refl _, rfl, fun kind => le_max_right _ _⟩
  obtain ⟨hin, hnodup⟩ := priorityCandidates_facts request (recentIds request config) (priorityReasons request)
  rw [hcandidates] at hin hnodup
  obtain ⟨done, hdone, hpromoting, hcase⟩ := foldlM_promote_eq_ok hstart
    (fun candidate hcandidate => hin candidate (List.mem_append_left _ hcandidate))
    (hnodup.sublist ((List.sublist_append_left _ _).map _))
  refine ⟨done, bind_eq_ok.mpr ⟨planner, hplanner, hdone⟩, hpromoting, fun hfits => ?_⟩
  rcases hcase with rfl | hbudget
  · obtain ⟨made, hmade, htotal⟩ := hplans.totalSize
    rw [hcurrent] at hmade
    obtain rfl := Except.ok.inj hmade
    show planner.totalSize ≤ _
    rw [htotal, ← hsize]
    exact_mod_cast hfits
  · exact hbudget

/-! ## The result -/

/-- What a batch is: the payload of some verbatim events, the latest among them, within the budget and the limits. -/
structure IsBatch (manifest : BatchManifest) : Prop where
  made : ∃ verbatimIds, payload request (configurationDigest config) verbatimIds (priorityReasons request)
      = .ok manifest.payload
    ∧ IsPayload request (configurationDigest config) verbatimIds (priorityReasons request) manifest.payload
    ∧ recentIds request config ⊆ verbatimIds
    ∧ ∀ kind, usedBy (priorityReasons request) verbatimIds kind
      ≤ max (priorityLimits config kind) (usedBy (priorityReasons request) (recentIds request config) kind)
  size : canonicalSize manifest.payload.modelDump ≤ byteBudget config

omit [FloatRepr] [InstantText] [Hashing] in
theorem card_recentIds : (recentIds request config).card = (recentEvents request config).length := by
  obtain ⟨-, hslice, -⟩ := request_facts request
  have hsub : (recentEvents request config).Sublist request.events := by
    unfold recentEvents
    split
    next => exact List.drop_sublist _ _
    next => exact List.nil_sublist _
  have hnodup : ((recentEvents request config).map (·.eventId)).Nodup := hslice.nodup.sublist (hsub.map _)
  unfold recentIds
  rw [List.toFinset_card_of_nodup hnodup, List.length_map]

/-- The second half of `build` returns a batch if the latest events fit. -/
theorem promoted_eq_ok {current : BatchPayload} {size : TextSize}
    (hcurrent : payload request (configurationDigest config) (recentIds request config) (priorityReasons request)
      = .ok current)
    (his : IsPayload request (configurationDigest config) (recentIds request config) (priorityReasons request) current)
    (hmeasured : measurePayload current = .ok size) (hsize : size.utf8Bytes = canonicalSize current.modelDump)
    (htokens : size.approximateTokens = (size.utf8Bytes + 3) / 4) (hfits : fits size config = true) :
    ∃ result, promoted request config current size = .ok result ∧ result.status = .ready
      ∧ ∃ manifest, result.manifest = some manifest ∧ IsBatch request config manifest := by
  have hbudget := (fits_iff htokens).mp hfits
  obtain ⟨done, hdone, hpromoting, hwithin⟩ := promotions_eq_ok request config hcurrent his hsize
    (List.append_nil _).symm
  have hwithin := hwithin hbudget
  -- whether the payload is made again or not, it is the one with the verbatim events of the loop
  obtain ⟨final, finalSize, hfinal, hfinalPayload, hfinalMeasured⟩ : ∃ final finalSize,
      finalPayload request config current size done = .ok (final, finalSize)
      ∧ payload request (configurationDigest config) done.verbatimIds (priorityReasons request) = .ok final
      ∧ measurePayload final = .ok finalSize := by
    unfold finalPayload
    by_cases hmore : done.verbatimIds.card ≠ (recentEvents request config).length
    · obtain ⟨made, hmade, -⟩ := payload_eq_ok request (uniqueReasons_priorityReasons request)
        (configurationDigest config) done.verbatimIds
      obtain ⟨madeSize, hmadeSize, -⟩ := measurePayload_eq_ok made
      refine ⟨made, madeSize, ?_, hmade, hmadeSize⟩
      rw [if_pos hmore]
      exact bind_eq_ok.mpr ⟨made, hmade, bind_eq_ok.mpr ⟨madeSize, hmadeSize, rfl⟩⟩
    · have hsame : recentIds request config = done.verbatimIds := by
        refine Finset.eq_of_subset_of_card_le hpromoting.recent ?_
        rw [card_recentIds]
        exact (not_not.mp hmore).le
      refine ⟨current, size, if_neg hmore, ?_, hmeasured⟩
      rw [← hsame]
      exact hcurrent
  obtain ⟨made, hmade, hmadeIs⟩ := payload_eq_ok request (uniqueReasons_priorityReasons request)
    (configurationDigest config) done.verbatimIds
  obtain rfl := Except.ok.inj (hfinalPayload.symm.trans hmade)
  obtain ⟨again, hagain, hbytes, hfinalTokens⟩ := measurePayload_eq_ok final
  obtain rfl := Except.ok.inj (hfinalMeasured.symm.trans hagain)
  obtain ⟨planned, hplanned, htotal⟩ := hpromoting.plans.totalSize
  obtain rfl := Except.ok.inj (hmade.symm.trans hplanned)
  have hfinalBudget : canonicalSize final.modelDump ≤ byteBudget config := by
    rw [htotal] at hwithin
    exact_mod_cast hwithin
  have hfinalFits : fits finalSize config = true := (fits_iff hfinalTokens).mpr (by rw [hbytes]; exact hfinalBudget)
  have hmeasure : measure (canonicalJson final.modelDump) = .ok finalSize := by
    unfold measurePayload at hfinalMeasured
    exact mapError_eq_ok.mp hfinalMeasured
  have hattested : BatchManifestFields.check ⟨final, finalSize, batchDigest final⟩ = .ok () := by
    unfold BatchManifestFields.check BatchManifestFields.attestedPayload
    rw [hmeasure, refuse_eq_ok]
    show ¬(if finalSize ≠ finalSize ∨ batchDigest final ≠ batchDigest final then none else _) = none
    rw [if_neg (by simp)]
    exact Option.some_ne_none _
  let manifest : BatchManifest := ⟨⟨final, finalSize, batchDigest final⟩, hattested⟩
  have hready : BatchBuildResultFields.check ⟨.ready, none, some manifest, finalSize⟩ = .ok () := by
    unfold BatchBuildResultFields.check
    show (refuse _ _ >>= fun _ => refuse _ _) = _
    rw [refuse_bind_eq_ok, refuse_eq_ok]
    refine ⟨?_, ?_⟩
    · rintro (h | h)
      · exact h rfl
      · cases h
    · rintro ⟨other, hother, hne⟩
      obtain rfl := Option.some.inj hother
      exact hne rfl
  refine ⟨⟨⟨.ready, none, some manifest, finalSize⟩, hready⟩, ?_, rfl, manifest, rfl,
    ⟨done.verbatimIds, hmade, hmadeIs, hpromoting.recent, fun kind => ?_⟩, hfinalBudget⟩
  · unfold promoted
    refine bind_eq_ok.mpr ⟨done, hdone, bind_eq_ok.mpr ⟨(final, finalSize), hfinal, ?_⟩⟩
    show (raiseIf _ _ >>= _) = _
    rw [raiseIf_bind_of_not]
    · refine bind_eq_ok.mpr ⟨manifest, ?_, ?_⟩
      · rw [mapError_eq_ok]
        exact validate_self hattested
      · rw [mapError_eq_ok]
        exact validate_self hready
    · rintro (hne | hne)
      · refine hne ?_
        rw [htotal, hbytes]
      · rw [hfinalFits] at hne
        cases hne
  · have hlimited := hpromoting.limited kind
    rw [hpromoting.used] at hlimited
    exact hlimited

/-! ## The partition -/

/-- A payload represents each event of a request once: verbatim, or in one aggregate of several. -/
structure ExactPartition (request : BatchRequest) (made : BatchPayload) : Prop where
  verbatim : (made.verbatimEvents.map (·.event)).Sublist request.events
  ids : made.eventIds.Perm request.eventIds
  sequences : made.represented.Perm request.sequences
  once : ∀ event ∈ request.events,
    (event ∈ made.verbatimEvents.map (·.event) ∧ ∀ a ∈ made.aggregates, event.eventId ∉ a.sourceEventIds)
    ∨ (event ∉ made.verbatimEvents.map (·.event) ∧ ∃ a ∈ made.aggregates, event.eventId ∈ a.sourceEventIds
      ∧ ∀ other ∈ made.aggregates, event.eventId ∈ other.sourceEventIds → other = a)
  groups : ∀ a ∈ made.aggregates, ∃ group, group.Sublist request.events ∧ group ≠ []
    ∧ a.sourceEventIds = group.map (·.eventId) ∧ a.count = group.length
    ∧ (a.provenanceRanges.flatMap fun range => Intervals.numbers (range.firstSequence, range.lastSequence))
      = group.map (·.sequence)

variable {request config}

omit [FloatRepr] [InstantText] in
theorem IsPayload.events_eq [FloatRepr] {configDigest : Sha256Digest} {verbatimIds : Finset UUID4}
    {reasons : PriorityReasons} {made : BatchPayload} (h : IsPayload request configDigest verbatimIds reasons made) :
    made.verbatimEvents.map (fun item => item.event) = kept request.events verbatimIds := by
  have hmapped := congrArg (List.map VerbatimEventFields.event) h.verbatim
  rw [List.map_map, List.map_map] at hmapped
  exact hmapped.trans (List.map_id _)

omit [FloatRepr] [InstantText] [Hashing] in
theorem perm_kept_compacted (events : List TraceEvent) (verbatimIds : Finset UUID4) :
    (kept events verbatimIds ++ compacted events verbatimIds).Perm events := by
  have hsplit := List.filter_append_perm (fun event : TraceEvent => decide (event.eventId ∈ verbatimIds)) events
  have hnot : (events.filter fun event => !decide (event.eventId ∈ verbatimIds)) = compacted events verbatimIds :=
    List.filter_congr fun event _ => by rw [decide_not]
  rw [hnot] at hsplit
  exact hsplit

omit [InstantText] in
/-- Every payload of a request is an exact partition of its events. -/
theorem IsPayload.exactPartition {configDigest : Sha256Digest} {verbatimIds : Finset UUID4}
    {reasons : PriorityReasons} {made : BatchPayload} (h : IsPayload request configDigest verbatimIds reasons made) :
    ExactPartition request made := by
  obtain ⟨-, hwhole, -⟩ := request_facts request
  obtain ⟨keys, hare⟩ := h.aggregated
  have hare : AreAggregates reasons (compacted request.events verbatimIds) keys made.aggregates := hare
  have hslice : Slice (compacted request.events verbatimIds) := hwhole.filter _
  have hevents := h.events_eq
  have hids : ∀ a ∈ made.aggregates, a.sourceEventIds
      = (keyed reasons (aggregateModelKey a) (compacted request.events verbatimIds)).map (·.eventId) :=
    fun a ha => (hare.of_mem ha).2.ids
  have hparts := perm_kept_compacted request.events verbatimIds
  -- an event is in an aggregate if it has its key and is not verbatim
  have hmem : ∀ event ∈ request.events, ∀ a ∈ made.aggregates, event.eventId ∈ a.sourceEventIds →
      event.eventId ∉ verbatimIds ∧ aggregateKey reasons event = aggregateModelKey a := by
    intro event hevent a ha hid
    rw [hids a ha] at hid
    obtain ⟨other, hother, hsame⟩ := List.mem_map.mp hid
    obtain ⟨hin, hkey⟩ := List.mem_filter.mp hother
    obtain ⟨hinEvents, hnot⟩ := List.mem_filter.mp hin
    rw [hwhole.ids_inj hinEvents hevent hsame] at hkey hnot
    exact ⟨of_decide_eq_true hnot, of_decide_eq_true hkey⟩
  refine ⟨?_, ?_, ?_, fun event hevent => ?_, fun a ha => ?_⟩
  · rw [hevents]
    exact List.filter_sublist
  · have hverbatim : made.verbatimEvents.map (·.event.eventId)
        = (kept request.events verbatimIds).map (·.eventId) := by rw [← hevents, List.map_map]; rfl
    show (made.verbatimEvents.map (·.event.eventId) ++ _).Perm _
    rw [hverbatim]
    refine (hare.perm_ids.append_left _).trans ?_
    rw [← List.map_append]
    exact hparts.map _
  · have hverbatim : made.verbatimEvents.map (·.event.sequence)
        = (kept request.events verbatimIds).map (·.sequence) := by rw [← hevents, List.map_map]; rfl
    show (made.verbatimEvents.map (·.event.sequence) ++ _).Perm _
    rw [hverbatim]
    refine ((hare.perm_sequences hslice).append_left _).trans ?_
    rw [← List.map_append]
    exact hparts.map _
  · rw [hevents]
    by_cases hid : event.eventId ∈ verbatimIds
    · refine .inl ⟨List.mem_filter.mpr ⟨hevent, decide_eq_true hid⟩, fun a ha hin => ?_⟩
      exact (hmem event hevent a ha hin).1 hid
    · have hcompacted : event ∈ compacted request.events verbatimIds :=
        List.mem_filter.mpr ⟨hevent, decide_eq_true hid⟩
      have hkey := hare.perm_keys.mem_iff.mpr ((hare.mem _).mpr ⟨event, hcompacted, rfl⟩)
      obtain ⟨a, ha, hown⟩ := List.mem_map.mp hkey
      refine .inr ⟨fun hin => hid (of_decide_eq_true (List.mem_filter.mp hin).2), a, ha, ?_, fun other hother hin => ?_⟩
      · rw [hids a ha, hown]
        exact List.mem_map_of_mem (List.mem_filter.mpr ⟨hcompacted, decide_eq_true rfl⟩)
      · have hsame := (hmem event hevent other hother hin).2
        have hmade := (hare.of_mem ha).1
        have hmadeOther := (hare.of_mem hother).1
        rw [hown] at hmade
        rw [← hsame] at hmadeOther
        exact Except.ok.inj (hmadeOther.symm.trans hmade)
  · obtain ⟨-, his⟩ := hare.of_mem ha
    refine ⟨keyed reasons (aggregateModelKey a) (compacted request.events verbatimIds),
      List.filter_sublist.trans List.filter_sublist, ?_, his.ids, his.count, his.numbers (hslice.filter _)⟩
    have hkey := hare.perm_keys.mem_iff.mp (List.mem_map_of_mem ha)
    exact keyed_ne_nil ((hare.mem _).mp hkey)

omit [InstantText] [FloatRepr] [Hashing] in
/-- The latest events are the last ones of the slice. -/
theorem recentEvents_eq (request : BatchRequest) (config : BatchConfig) :
    recentEvents request config = request.events.drop (request.events.length - config.recentEventCount) := by
  unfold recentEvents
  split
  next => rfl
  next hzero =>
    rw [not_not.mp hzero, Nat.sub_zero, List.drop_length]

omit [InstantText] [FloatRepr] [Hashing] in
/-- Counting identities is counting events. -/
theorem usedBy_toFinset {reasons : PriorityReasons} {events : List TraceEvent} (hnodup : (events.map (·.eventId)).Nodup)
    (kind : BatchPriorityKind) : usedBy reasons (events.map (·.eventId)).toFinset kind
      = (events.filter fun event => kind ∈ reasonsOf reasons event.eventId).length := by
  unfold usedBy
  have hset : ((events.map (·.eventId)).toFinset.filter fun id => kind ∈ reasonsOf reasons id)
      = ((events.filter fun event => kind ∈ reasonsOf reasons event.eventId).map (·.eventId)).toFinset := by
    ext id
    simp only [Finset.mem_filter, List.mem_toFinset, List.mem_map, List.mem_filter, decide_eq_true_eq]
    constructor
    · rintro ⟨⟨event, hevent, rfl⟩, hkind⟩
      exact ⟨event, ⟨hevent, hkind⟩, rfl⟩
    · rintro ⟨event, ⟨hevent, hkind⟩, rfl⟩
      exact ⟨⟨event, hevent, rfl⟩, hkind⟩
  rw [hset, List.toFinset_card_of_nodup (hnodup.sublist (List.filter_sublist.map _)), List.length_map]

omit [InstantText] in
/-- The verbatim events that carry a kind are counted by their identities. -/
theorem IsPayload.kinds_le {configDigest : Sha256Digest} {verbatimIds : Finset UUID4}
    {reasons : PriorityReasons} {made : BatchPayload} (h : IsPayload request configDigest verbatimIds reasons made)
    (kind : BatchPriorityKind) :
    (made.verbatimEvents.filter fun item => kind ∈ item.priorityKinds).length ≤ usedBy reasons verbatimIds kind := by
  obtain ⟨-, hwhole, -⟩ := request_facts request
  have hfields : (made.verbatimEvents.filter fun item => kind ∈ item.priorityKinds).length
      = ((made.verbatimEvents.map (·.toVerbatimEventFields)).filter fun item => kind ∈ item.priorityKinds).length := by
    rw [List.filter_map, List.length_map]
    rfl
  have hevents : (((request.events.filter (·.eventId ∈ verbatimIds)).map fun event =>
      (⟨event, sortedKinds reasons event⟩ : VerbatimEventFields)).filter fun item => kind ∈ item.priorityKinds).length
      = ((kept request.events verbatimIds).filter fun event => kind ∈ reasonsOf reasons event.eventId).length := by
    rw [List.filter_map, List.length_map]
    refine congrArg List.length (List.filter_congr fun event _ => ?_)
    show decide (kind ∈ sortedKinds reasons event) = _
    unfold sortedKinds
    simp only [mem_sortBy]
  have hnodup : ((kept request.events verbatimIds).map (·.eventId)).Nodup := (hwhole.filter _).nodup
  rw [hfields, h.verbatim, hevents, ← usedBy_toFinset hnodup]
  unfold usedBy
  refine Finset.card_le_card (Finset.filter_subset_filter _ fun id hid => ?_)
  obtain ⟨event, hevent, rfl⟩ := List.mem_map.mp (List.mem_toFinset.mp hid)
  exact of_decide_eq_true (List.mem_filter.mp hevent).2

/-! ## What `build` returns -/

/-- The planner has the size of the payload, and each of its states that of its aggregate made again. -/
structure SizesExact (request : BatchRequest) (config : BatchConfig) (promotions : Promotions) : Prop where
  total : ∃ made, payload request (configurationDigest config) promotions.verbatimIds (priorityReasons request) = .ok made
    ∧ promotions.planner.totalSize = canonicalSize made.modelDump
  aggregates : ∀ key state, promotions.planner.states.get? key = some state →
    (keyed (priorityReasons request) key (compacted request.events promotions.verbatimIds) = [] ∧ state.currentSize = 0)
    ∨ ∃ made, aggregate (keyed (priorityReasons request) key (compacted request.events promotions.verbatimIds))
        key.priorityKinds = .ok made ∧ state.currentSize = canonicalSize made.modelDump

theorem Promoting.sizesExact {promotions : Promotions} (h : Promoting request config promotions) :
    SizesExact request config promotions := by
  obtain ⟨-, hwhole, -⟩ := request_facts request
  refine ⟨h.plans.totalSize, fun key state hstate => ?_⟩
  have hsize := (h.plans.states.tracks key state hstate).currentSize
  by_cases hnone : keyed (priorityReasons request) key (compacted request.events promotions.verbatimIds) = []
  · refine .inl ⟨hnone, ?_⟩
    rw [hsize, hnone]
    rfl
  · have hkeyed : Keyed (priorityReasons request) key
        (keyed (priorityReasons request) key (compacted request.events promotions.verbatimIds)) :=
      ⟨(hwhole.filter _).filter _, fun other hother => of_decide_eq_true (List.mem_filter.mp hother).2⟩
    obtain ⟨made, hmade, -⟩ := hkeyed.aggregate (uniqueReasons_priorityReasons request) hnone
    refine .inr ⟨made, hmade, ?_⟩
    rw [hsize]
    unfold aggregateSize
    rw [hmade]

variable (request config)

/-- What `build` returns: a batch if the latest events fit, and the overflow otherwise. -/
theorem build_returns : ∃ result current size, build request config = .ok result
    ∧ mandatory request config = .ok (current, size)
    ∧ (fits size config = true → result.status = .ready
      ∧ ∃ manifest, result.manifest = some manifest ∧ IsBatch request config manifest)
    ∧ (fits size config = false → result.status = .mandatoryInputOverflow) := by
  obtain ⟨current, size, hmandatory, hcurrent, his, hmeasured, hsize, htokens⟩ := mandatory_eq_ok request config
  cases hfits : fits size config with
  | false =>
    have hoverflow : BatchBuildResultFields.check ⟨.mandatoryInputOverflow, some .mandatoryInputOverflow, none, size⟩
        = .ok () := by
      simp [BatchBuildResultFields.check]
    refine ⟨⟨_, hoverflow⟩, current, size, ?_, hmandatory,
      fun h => absurd (hfits.symm.trans h) Bool.false_ne_true, fun _ => rfl⟩
    unfold build
    refine bind_eq_ok.mpr ⟨(current, size), mapError_eq_ok.mpr hmandatory, ?_⟩
    show (if fits size config = false then _ else _) = _
    rw [if_pos hfits, mapError_eq_ok]
    exact validate_self hoverflow
  | true =>
    obtain ⟨result, hresult, hready, hmanifest⟩ :=
      promoted_eq_ok request config hcurrent his hmeasured hsize htokens hfits
    refine ⟨result, current, size, ?_, hmandatory, fun _ => ⟨hready, hmanifest⟩,
      fun h => absurd (h.symm.trans hfits) Bool.false_ne_true⟩
    unfold build
    refine bind_eq_ok.mpr ⟨(current, size), mapError_eq_ok.mpr hmandatory, ?_⟩
    show (if fits size config = false then _ else _) = _
    rw [if_neg (by rw [hfits]; exact Bool.noConfusion), mapError_eq_ok]
    exact hresult

end SalienceGate
