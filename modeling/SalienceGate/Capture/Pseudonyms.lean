import SalienceGate.Capture.Calibration

/-!
# Calibration without names

Two exports of the same records give their sessions and projects different pseudonyms, and hence put the
examples in different orders. The examples are paired by the records behind them (`Renamed`). The groups
of the bootstrap are those of the other export, in the same order up to groups with the same counts,
which hold the same outcomes (`groups_eq`), so the same outcomes are drawn in each replicate.
-/

namespace SalienceGate.Calibration

open Checked Grouping

theorem digest_eq_of_text {digest digest' : Sha256Digest} (h : digest.text = digest'.text) : digest = digest' := by
  cases digest
  cases digest'
  cases h
  rfl

/-- What an example says beyond its pseudonyms. -/
def seen (example_ : CaptureFeedbackDatasetExample) :
    CaptureProfile × CaptureFeedbackLabel × CaptureFeedbackPrediction × CaptureFeedbackPartition :=
  (example_.profileId, example_.label, example_.prediction, example_.partition)

/-- Paired examples differ only in their pseudonyms, and those of projects correspond. -/
structure Renamed (pairs : List (CaptureFeedbackDatasetExample × CaptureFeedbackDatasetExample))
    (xs ys : List CaptureFeedbackDatasetExample) : Prop extends Paired pairs xs ys where
  alike : ∀ z ∈ pairs, seen z.1 = seen z.2
  projects : ∀ z ∈ pairs, ∀ w ∈ pairs, z.1.projectId = w.1.projectId ↔ z.2.projectId = w.2.projectId

variable {pairs : List (CaptureFeedbackDatasetExample × CaptureFeedbackDatasetExample)}
  {xs ys rows rows' : List CaptureFeedbackDatasetExample}

theorem profileId_eq_of_seen {a b : CaptureFeedbackDatasetExample} (h : seen a = seen b) : a.profileId = b.profileId :=
  congrArg Prod.fst h

theorem cellName_eq_of_seen {a b : CaptureFeedbackDatasetExample} (h : seen a = seen b) : cellName a = cellName b := by
  have hlabel : a.label = b.label := congrArg (fun s => s.2.1) h
  have hprediction : a.prediction = b.prediction := congrArg (fun s => s.2.2.1) h
  unfold cellName
  rw [hlabel, hprediction]

/-- A part of the examples that is chosen without the pseudonyms. -/
theorem Renamed.filter (h : Renamed pairs xs ys) {p : CaptureFeedbackDatasetExample → Bool}
    (hp : ∀ a b, seen a = seen b → p a = p b) :
    Renamed (pairs.filter fun z => p z.1) (xs.filter p) (ys.filter p) where
  toPaired := h.toPaired.filter fun z hz => hp z.1 z.2 (h.alike z hz)
  alike z hz := h.alike z (List.mem_of_mem_filter hz)
  projects z hz w hw := h.projects z (List.mem_of_mem_filter hz) w (List.mem_of_mem_filter hw)

/-! ## Counts -/

theorem counts_append (xs : List CaptureFeedbackDatasetExample) (example_ : CaptureFeedbackDatasetExample)
    (cell : ConfusionCell) :
    counts (xs ++ [example_]) cell = counts xs cell + if cell = cellName example_ then 1 else 0 := by
  unfold counts
  rw [List.foldl_append]
  show Function.update _ _ _ cell = _
  by_cases hcell : cell = cellName example_
  · rw [hcell, Function.update_self, if_pos rfl]
  · rw [Function.update_of_ne hcell, if_neg hcell, Nat.add_zero]

/-- The counts are how often each cell occurs. -/
theorem counts_eq_count (xs : List CaptureFeedbackDatasetExample) (cell : ConfusionCell) :
    counts xs cell = (xs.map cellName).count cell := by
  induction xs using List.reverseRecOn with
  | nil => rfl
  | append_singleton xs example_ ih =>
    rw [counts_append, ih, List.map_append, List.count_append, List.map_singleton, List.count_singleton]
    by_cases hcell : cell = cellName example_
    · rw [if_pos hcell, if_pos (by rw [hcell, beq_self_eq_true])]
    · rw [if_neg hcell, if_neg (by simpa using fun heq => hcell heq.symm)]

theorem counts_eq_iff : counts xs = counts ys ↔ (xs.map cellName).Perm (ys.map cellName) := by
  rw [List.perm_iff_count, funext_iff]
  simp only [counts_eq_count]

theorem counts_sortBy {κ : Type} [LinearOrder κ] (key : CaptureFeedbackDatasetExample → κ)
    (xs : List CaptureFeedbackDatasetExample) : counts (sortBy key xs) = counts xs :=
  counts_eq_iff.mpr ((perm_sortBy key xs).map cellName)

theorem counts_eq_of_seen (h : xs.map seen = ys.map seen) : counts xs = counts ys := by
  refine counts_eq_iff.mpr (.of_eq ?_)
  have hlength : xs.length = ys.length := by
    rw [← List.length_map seen, h, List.length_map]
  refine List.ext_getElem (by rw [List.length_map, List.length_map, hlength]) fun i hi hi' => ?_
  rw [List.length_map] at hi hi'
  rw [List.getElem_map, List.getElem_map]
  refine cellName_eq_of_seen ?_
  have hget := congrArg (fun l => l[i]?) h
  simpa [hi, hi'] using hget

theorem Renamed.counts_eq (h : Renamed pairs xs ys) : counts xs = counts ys :=
  counts_eq_iff.mpr (h.map_perm fun z hz => cellName_eq_of_seen (h.alike z hz))

/-! ## Groups -/

/-- What a group says beyond its pseudonyms. -/
def groupSeen (group : BootstrapGroup) :
    String × String × List (CaptureProfile × CaptureFeedbackLabel × CaptureFeedbackPrediction × CaptureFeedbackPartition) :=
  (group.profile, group.signature, group.ordered.map seen)

/-- The texts by which the examples of a group are ordered, but for the pseudonym. -/
def seenKey (s : CaptureProfile × CaptureFeedbackLabel × CaptureFeedbackPrediction × CaptureFeedbackPartition) :
    String ×ₗ String ×ₗ String :=
  toLex (s.2.1.value, toLex (s.2.2.1.value, s.2.2.2.value))

theorem CaptureProfile.value_inj {p q : CaptureProfile} (h : p.value = q.value) : p = q := by
  cases p <;> cases q <;> first | rfl | exact absurd h (by decide)

theorem CaptureFeedbackLabel.value_inj {p q : CaptureFeedbackLabel} (h : p.value = q.value) : p = q := by
  cases p <;> cases q <;> first | rfl | exact absurd h (by decide)

theorem CaptureFeedbackPrediction.value_inj {p q : CaptureFeedbackPrediction} (h : p.value = q.value) : p = q := by
  cases p <;> cases q <;> first | rfl | exact absurd h (by decide)

theorem CaptureFeedbackPartition.value_inj {p q : CaptureFeedbackPartition} (h : p.value = q.value) : p = q := by
  cases p <;> cases q <;> first | rfl | exact absurd h (by decide)

theorem seenKey_le {a b : CaptureFeedbackDatasetExample} (h : orderKey a ≤ orderKey b) :
    seenKey (seen a) ≤ seenKey (seen b) := by
  unfold orderKey at h
  unfold seenKey
  simp only [Prod.Lex.toLex_le_toLex] at h ⊢
  rcases h with h | ⟨hlabel, h | ⟨hprediction, h | ⟨hpartition, -⟩⟩⟩
  · exact .inl h
  · exact .inr ⟨hlabel, .inl h⟩
  · exact .inr ⟨hlabel, .inr ⟨hprediction, le_of_lt h⟩⟩
  · exact .inr ⟨hlabel, .inr ⟨hprediction, le_of_eq hpartition⟩⟩

/-- At one provider the texts say everything. -/
theorem seen_eq_of_key {a b : CaptureFeedbackDatasetExample} (hprofile : a.profileId = b.profileId)
    (h : seenKey (seen a) ≤ seenKey (seen b)) (h' : seenKey (seen b) ≤ seenKey (seen a)) : seen a = seen b := by
  have hkey := toLex_inj.mp (le_antisymm h h')
  rw [Prod.ext_iff] at hkey
  have hrest := toLex_inj.mp hkey.2
  rw [Prod.ext_iff] at hrest
  exact Prod.ext hprofile (Prod.ext (CaptureFeedbackLabel.value_inj hkey.1)
    (Prod.ext (CaptureFeedbackPrediction.value_inj hrest.1) (CaptureFeedbackPartition.value_inj hrest.2)))

/-- The examples of a provider are seen in one order, however the pseudonyms break the ties. -/
theorem map_seen_sortBy (hperm : (rows.map seen).Perm (rows'.map seen))
    (hprofile : ∀ a ∈ rows, ∀ b ∈ rows, a.profileId = b.profileId) :
    (sortBy orderKey rows).map seen = (sortBy orderKey rows').map seen := by
  refine map_sortBy_eq (fun u v => seenKey u ≤ seenKey v) hperm (fun a _ b _ => seenKey_le)
    (fun a _ b _ => seenKey_le) fun u hu v hv hle hge => ?_
  obtain ⟨a, ha, rfl⟩ := List.mem_map.mp hu
  obtain ⟨b, hb, rfl⟩ := List.mem_map.mp hv
  exact seen_eq_of_key (hprofile a ha b hb) hle hge

/-- The label and the prediction of a cell. -/
def outcomeOf : ConfusionCell → CaptureFeedbackLabel × CaptureFeedbackPrediction
  | .truePositive => (.memoryNeeded, .memoryNeeded)
  | .falseNegative => (.memoryNeeded, .notMemoryNeeded)
  | .abstainedMemoryNeeded => (.memoryNeeded, .abstain)
  | .falsePositive => (.notMemoryNeeded, .memoryNeeded)
  | .trueNegative => (.notMemoryNeeded, .notMemoryNeeded)
  | .abstainedNotMemoryNeeded => (.notMemoryNeeded, .abstain)
  | .uncertainPredictedMemoryNeeded => (.uncertain, .memoryNeeded)
  | .uncertainPredictedNotMemoryNeeded => (.uncertain, .notMemoryNeeded)
  | .uncertainPredictionAbstained => (.uncertain, .abstain)

theorem outcomeOf_cellOf (label : CaptureFeedbackLabel) (prediction : CaptureFeedbackPrediction) :
    outcomeOf (cellOf label prediction) = (label, prediction) := by
  cases label <;> cases prediction <;> rfl

/-- At one provider, and in one partition, the cells say what there is to see. -/
theorem map_seen_eq_map_cellName {profile : CaptureProfile} {partition : CaptureFeedbackPartition}
    (hrows : ∀ a ∈ rows, a.profileId = profile ∧ a.partition = partition) :
    rows.map seen = (rows.map cellName).map fun cell =>
      (profile, (outcomeOf cell).1, (outcomeOf cell).2, partition) := by
  rw [List.map_map]
  refine List.map_congr_left fun a ha => ?_
  show seen a = (profile, (outcomeOf (cellOf a.label a.prediction)).1,
    (outcomeOf (cellOf a.label a.prediction)).2, partition)
  rw [outcomeOf_cellOf, ← (hrows a ha).1, ← (hrows a ha).2]
  rfl

theorem perm_seen_of_counts {profile : CaptureProfile} {partition : CaptureFeedbackPartition}
    (hrows : ∀ a ∈ rows, a.profileId = profile ∧ a.partition = partition)
    (hrows' : ∀ a ∈ rows', a.profileId = profile ∧ a.partition = partition) (hcounts : counts rows = counts rows') :
    (rows.map seen).Perm (rows'.map seen) := by
  rw [map_seen_eq_map_cellName hrows, map_seen_eq_map_cellName hrows']
  exact (counts_eq_iff.mp hcounts).map _

/-! ### Signatures -/

theorem ConfusionCell.mem_all (cell : ConfusionCell) : cell ∈ ConfusionCell.all := by
  cases cell <;> decide

/-- The document of the counts says what they are. -/
theorem cellDocument_inj {n n' : ConfusionCell → ℕ} (h : cellDocument n = cellDocument n') : n = n' := by
  unfold cellDocument at h
  injection h with hitems
  have hcounts := congrArg Prod.snd (List.cons.inj hitems).1
  injection hcounts with hcells
  funext cell
  have hcell := List.map_inj_left.mp hcells cell (ConfusionCell.mem_all cell)
  have hint := congrArg Prod.snd hcell
  injection hint with hcast
  exact Int.ofNat.inj hcast

/-- The SHA-256 of the counts of up to a thousand sessions tells them apart. -/
def SignsCells [Hashing] : Prop :=
  Set.InjOn (fun document =>
      Hashing.lengthPrefixedSha256 "saliencegate:capture:feedback-bootstrap-cell:v1" [.canonicalJson document])
    {document | ∃ n, total n ≤ maxCaptureFeedbackExamples ∧ document = cellDocument n}

theorem counts_eq_of_signature [Hashing] (hsigns : SignsCells) {n n' : ConfusionCell → ℕ}
    (hn : total n ≤ maxCaptureFeedbackExamples) (hn' : total n' ≤ maxCaptureFeedbackExamples)
    (h : (cellSignature n).text = (cellSignature n').text) : n = n' :=
  cellDocument_inj (hsigns ⟨n, hn, rfl⟩ ⟨n', hn', rfl⟩ (digest_eq_of_text h))

/-- Every example is counted in one cell. -/
theorem total_counts (xs : List CaptureFeedbackDatasetExample) : total (counts xs) = xs.length := by
  unfold total positive negative uncertain
  induction xs using List.reverseRecOn with
  | nil => rfl
  | append_singleton xs example_ ih =>
    simp only [counts_append, List.length_append, List.length_singleton]
    cases cellName example_ <;> simp only [reduceCtorEq, if_true, if_false] <;> omega

/-- A session is in the group of its project at its provider. -/
def groupKey (example_ : CaptureFeedbackDatasetExample) : String × String :=
  (example_.profileId.value, example_.projectId.text)

theorem groupKey_eq_iff {a b : CaptureFeedbackDatasetExample} :
    groupKey a = groupKey b ↔ a.profileId = b.profileId ∧ a.projectId = b.projectId := by
  unfold groupKey
  rw [Prod.mk.injEq]
  constructor
  · rintro ⟨hprofile, hproject⟩
    exact ⟨CaptureProfile.value_inj hprofile, digest_eq_of_text hproject⟩
  · rintro ⟨hprofile, hproject⟩
    rw [hprofile, hproject]
    exact ⟨rfl, rfl⟩

variable [Hashing]

theorem bootstrapGroups_eq (xs : List CaptureFeedbackDatasetExample) :
    bootstrapGroups xs = sortBy BootstrapGroup.key ((groupBy groupKey xs).items.map groupOf) := rfl

/-- Paired groups are seen the same. -/
theorem groupSeen_groupOf {key key' : String × String} (hkey : key.1 = key'.1) (hperm : (rows.map seen).Perm (rows'.map seen))
    (hprofile : ∀ a ∈ rows, ∀ b ∈ rows, a.profileId = b.profileId) :
    groupSeen (groupOf (key, rows)) = groupSeen (groupOf (key', rows')) := by
  have hordered := map_seen_sortBy hperm hprofile
  have hcounts := counts_eq_of_seen hordered
  unfold groupSeen groupOf
  dsimp only
  rw [hkey, hordered, hcounts]

theorem Renamed.groups (h : Renamed pairs xs ys) :
    (((groupBy groupKey xs).items.map groupOf).map groupSeen).Perm
      (((groupBy groupKey ys).items.map groupOf).map groupSeen) := by
  rw [List.map_map, List.map_map]
  refine h.toPaired.groupBy (fun z hz w hw => ?_) fun z hz rows rows' hrows => ?_
  · rw [groupKey_eq_iff, groupKey_eq_iff, h.projects z hz w hw, profileId_eq_of_seen (h.alike z hz),
      profileId_eq_of_seen (h.alike w hw)]
  · refine groupSeen_groupOf (congrArg CaptureProfile.value (profileId_eq_of_seen (h.alike z hz))) ?_ ?_
    · exact hrows.map_perm fun w hw => h.alike w (List.mem_of_mem_filter hw)
    · have hone : ∀ a ∈ rows, a.profileId = z.1.profileId := by
        intro a ha
        obtain ⟨w, hw, rfl⟩ := List.mem_map.mp (hrows.left.mem_iff.mp ha)
        exact (groupKey_eq_iff.mp (of_decide_eq_true (List.mem_filter.mp hw).2)).1
      exact fun a ha b hb => (hone a ha).trans (hone b hb).symm

/-- The order of groups but for the pseudonyms of their projects. -/
def groupBefore (u v : String × String × List (CaptureProfile × CaptureFeedbackLabel × CaptureFeedbackPrediction
    × CaptureFeedbackPartition)) : Prop :=
  toLex (u.1, u.2.1) ≤ toLex (v.1, v.2.1)

omit [Hashing] in
theorem groupBefore_of_key {g g' : BootstrapGroup} (h : g.key ≤ g'.key) : groupBefore (groupSeen g) (groupSeen g') := by
  unfold BootstrapGroup.key at h
  unfold groupBefore groupSeen
  simp only [Prod.Lex.toLex_le_toLex] at h ⊢
  rcases h with h | ⟨hprofile, h | ⟨hsignature, -⟩⟩
  · exact .inl h
  · exact .inr ⟨hprofile, le_of_lt h⟩
  · exact .inr ⟨hprofile, le_of_eq hsignature⟩

/-- The groups of a partition. -/
theorem mem_groups {partition : CaptureFeedbackPartition} (hxs : ∀ a ∈ xs, a.partition = partition) {group : BootstrapGroup}
    (hgroup : group ∈ (groupBy groupKey xs).items.map groupOf) :
    ∃ (profile : CaptureProfile) (projectId : String) (rows : List CaptureFeedbackDatasetExample),
      group = groupOf ((profile.value, projectId), rows) ∧ rows.length ≤ xs.length
        ∧ ∀ a ∈ rows, a.profileId = profile ∧ a.partition = partition := by
  obtain ⟨item, hitem, rfl⟩ := List.mem_map.mp hgroup
  rw [items_groupBy] at hitem
  obtain ⟨key, hkey, rfl⟩ := List.mem_map.mp hitem
  obtain ⟨a, ha, rfl⟩ := List.mem_map.mp (mem_keys_groupBy.mp hkey)
  refine ⟨a.profileId, a.projectId.text, _, rfl, List.length_filter_le _ _, fun b hb => ?_⟩
  obtain ⟨hmem, hb⟩ := List.mem_filter.mp hb
  exact ⟨(groupKey_eq_iff.mp (of_decide_eq_true hb)).1, hxs b hmem⟩

/-- Groups of one provider with one signature hold the same outcomes. -/
theorem groupSeen_eq_of_signature (hsigns : SignsCells) {partition : CaptureFeedbackPartition}
    (hxs : ∀ a ∈ xs, a.partition = partition) (hlength : xs.length ≤ maxCaptureFeedbackExamples) {g g' : BootstrapGroup}
    (hg : g ∈ (groupBy groupKey xs).items.map groupOf) (hg' : g' ∈ (groupBy groupKey xs).items.map groupOf)
    (hprofile : g.profile = g'.profile) (hsignature : g.signature = g'.signature) : groupSeen g = groupSeen g' := by
  obtain ⟨profile, projectId, rows, rfl, hle, hrows⟩ := mem_groups hxs hg
  obtain ⟨profile', projectId', rows', rfl, hle', hrows'⟩ := mem_groups hxs hg'
  obtain rfl : profile = profile' := CaptureProfile.value_inj hprofile
  have hsize : ∀ others : List CaptureFeedbackDatasetExample, others.length ≤ xs.length →
      total (counts (sortBy orderKey others)) ≤ maxCaptureFeedbackExamples := by
    intro others hothers
    rw [counts_sortBy, total_counts]
    omega
  have hcounts := counts_eq_of_signature hsigns (hsize rows hle) (hsize rows' hle') hsignature
  rw [counts_sortBy, counts_sortBy] at hcounts
  exact groupSeen_groupOf rfl (perm_seen_of_counts hrows hrows' hcounts)
    fun a ha b hb => (hrows a ha).1.trans (hrows b hb).1.symm

/-- The groups of the two exports are seen in the same order. -/
theorem Renamed.groups_eq (h : Renamed pairs xs ys) (hsigns : SignsCells) {partition : CaptureFeedbackPartition}
    (hxs : ∀ a ∈ xs, a.partition = partition) (hlength : xs.length ≤ maxCaptureFeedbackExamples) :
    (bootstrapGroups xs).map groupSeen = (bootstrapGroups ys).map groupSeen := by
  rw [bootstrapGroups_eq, bootstrapGroups_eq]
  refine map_sortBy_eq groupBefore h.groups (fun g _ g' _ => groupBefore_of_key) (fun g _ g' _ => groupBefore_of_key)
    fun u hu v hv hle hge => ?_
  obtain ⟨g, hg, rfl⟩ := List.mem_map.mp hu
  obtain ⟨g', hg', rfl⟩ := List.mem_map.mp hv
  have hkey := toLex_inj.mp (le_antisymm hle hge)
  rw [Prod.ext_iff] at hkey
  exact groupSeen_eq_of_signature hsigns hxs hlength hg hg' hkey.1 hkey.2

/-! ## Draws -/

/-- The draws in two groups that are seen the same. -/
theorem map_drawGroup (replicate ordinal : ℕ) {g g' : BootstrapGroup} (h : groupSeen g = groupSeen g') :
    (drawGroup replicate g ordinal).map (List.map seen) = (drawGroup replicate g' ordinal).map (List.map seen) := by
  obtain ⟨profile, signature, projectId, ordered⟩ := g
  obtain ⟨profile', signature', projectId', ordered'⟩ := g'
  unfold groupSeen at h
  rw [Prod.mk.injEq, Prod.mk.injEq] at h
  obtain ⟨hprofile, hsignature, hordered⟩ := h
  dsimp only at hprofile hsignature hordered
  subst hprofile hsignature
  have hlength : ordered.length = ordered'.length := by
    rw [← List.length_map seen, hordered, List.length_map]
  unfold drawGroup
  dsimp only
  rw [hlength]
  refine mapM_map_eq (List.forall₂_same.mpr fun draw _ => ?_)
  rw [map_bind_view, map_bind_view]
  refine bind_congr fun index => ?_
  have hget : ordered[index]?.map seen = ordered'[index]?.map seen := by
    rw [← List.getElem?_map, ← List.getElem?_map, hordered]
  cases hleft : ordered[index]? with
  | none =>
    cases hright : ordered'[index]? with
    | none => rfl
    | some b =>
      rw [hleft, hright] at hget
      cases hget
  | some a =>
    cases hright : ordered'[index]? with
    | none =>
      rw [hleft, hright] at hget
      cases hget
    | some b =>
      rw [hleft, hright] at hget
      exact congrArg Except.ok (Option.some.inj hget)

/-- What the loop over the groups has, seen without the pseudonyms. -/
def drawnSeen (state : List CaptureFeedbackDatasetExample × Dict (String × String) ℕ) :
    List (CaptureProfile × CaptureFeedbackLabel × CaptureFeedbackPrediction × CaptureFeedbackPartition)
      × Dict (String × String) ℕ :=
  (state.1.map seen, state.2)

theorem map_drawRound (replicate : ℕ) {s t : List CaptureFeedbackDatasetExample × Dict (String × String) ℕ}
    {g g' : BootstrapGroup} (hstate : drawnSeen s = drawnSeen t) (h : groupSeen g = groupSeen g') :
    (drawRound replicate s g).map drawnSeen = (drawRound replicate t g').map drawnSeen := by
  have hprofile : g.profile = g'.profile := congrArg Prod.fst h
  have hsignature : g.signature = g'.signature := congrArg (fun u => u.2.1) h
  unfold drawnSeen at hstate
  rw [Prod.mk.injEq] at hstate
  obtain ⟨hsampled, hordinals⟩ := hstate
  unfold drawRound
  dsimp only
  rw [map_bind_view, map_bind_view, hordinals, hprofile, hsignature]
  refine bind_congr_view (map_drawGroup replicate _ h) fun drawn drawn' hdrawn => ?_
  show Except.ok ((s.1 ++ drawn).map seen, _) = Except.ok ((t.1 ++ drawn').map seen, _)
  rw [List.map_append, List.map_append, hsampled, hdrawn]

/-- A replicate draws the same outcomes. -/
theorem Renamed.samples (h : Renamed pairs xs ys) (hsigns : SignsCells) {partition : CaptureFeedbackPartition}
    (hxs : ∀ a ∈ xs, a.partition = partition) (hlength : xs.length ≤ maxCaptureFeedbackExamples) (replicate : ℕ) :
    (bootstrapSamples xs replicate).map (List.map seen) = (bootstrapSamples ys replicate).map (List.map seen) := by
  have hgroups : List.Forall₂ (· = ·) ((bootstrapGroups xs).map groupSeen) ((bootstrapGroups ys).map groupSeen) := by
    rw [h.groups_eq hsigns hxs hlength]
    exact List.forall₂_refl _
  rw [List.forall₂_map_left_iff, List.forall₂_map_right_iff] at hgroups
  have hround : ∀ s t g g', drawnSeen s = drawnSeen t → groupSeen g = groupSeen g' →
      (drawRound replicate s g).map drawnSeen = (drawRound replicate t g').map drawnSeen :=
    fun _ _ _ _ => map_drawRound replicate
  have hloop : ((bootstrapGroups xs).foldlM (drawRound replicate) ([], .empty)).map drawnSeen
      = ((bootstrapGroups ys).foldlM (drawRound replicate) ([], .empty)).map drawnSeen :=
    foldlM_map_eq hround hgroups (Eq.refl (drawnSeen ([], .empty)))
  unfold bootstrapSamples
  rw [map_bind_view, map_bind_view]
  refine bind_congr_view hloop fun s t hstate => ?_
  have hsampled : s.1.map seen = t.1.map seen := congrArg Prod.fst hstate
  show Except.ok (s.1.map seen) = Except.ok (t.1.map seen)
  rw [hsampled]

/-! ## Findings -/

omit [Hashing] in
theorem counts_inScope_of_seen (scope : Option CaptureProfile) (h : rows.map seen = rows'.map seen) :
    counts (inScope scope rows) = counts (inScope scope rows') := by
  refine counts_eq_of_seen ?_
  cases scope with
  | none => exact h
  | some profile =>
    have hfilter : ∀ xs : List CaptureFeedbackDatasetExample, (inScope (some profile) xs).map seen
        = (xs.map seen).filter fun s => s.1 = profile := by
      intro xs
      rw [List.filter_map]
      rfl
    rw [hfilter, hfilter, h]

omit [Hashing] in
theorem BootstrapTables.record_of_seen (tables : BootstrapTables) (scopes : List (Option CaptureProfile))
    (h : rows.map seen = rows'.map seen) : tables.record scopes rows = tables.record scopes rows' := by
  unfold BootstrapTables.record
  simp only [counts_inScope_of_seen _ h]

omit [Hashing] in
theorem Renamed.inScope (h : Renamed pairs xs ys) (profile : CaptureProfile) :
    Renamed (pairs.filter fun z => z.1.profileId = profile) (inScope (some profile) xs) (inScope (some profile) ys) :=
  h.filter (p := fun a => a.profileId = profile) fun a b hab => by rw [profileId_eq_of_seen hab]

omit [Hashing] in
theorem Renamed.profilesOf (h : Renamed pairs xs ys) : profilesOf xs = profilesOf ys := by
  unfold Calibration.profilesOf
  have hperm := (h.map_perm fun z hz => profileId_eq_of_seen (h.alike z hz)).dedup
  rw [← List.map_id (sortBy _ _), ← List.map_id (sortBy CaptureProfile.value (List.map _ ys).dedup)]
  refine map_sortBy_eq (fun p q => p.value ≤ q.value) ?_ (fun _ _ _ _ => id) (fun _ _ _ _ => id)
    fun p _ q _ hle hge => CaptureProfile.value_inj (le_antisymm hle hge)
  rw [List.map_id, List.map_id]
  exact hperm

omit [Hashing] in
theorem Renamed.disclosedProfiles (h : Renamed pairs xs ys) : disclosedProfiles xs = disclosedProfiles ys := by
  unfold Calibration.disclosedProfiles
  rw [h.profilesOf]
  exact List.filter_congr fun profile _ => by rw [(h.inScope profile).length_eq]

/-- The tables of the bootstrap are the same. -/
theorem Renamed.bootstrapTables (h : Renamed pairs xs ys) (hsigns : SignsCells) {partition : CaptureFeedbackPartition}
    (hxs : ∀ a ∈ xs, a.partition = partition) (hlength : xs.length ≤ maxCaptureFeedbackExamples) :
    bootstrapTables xs = bootstrapTables ys := by
  unfold Calibration.bootstrapTables
  rw [h.disclosedProfiles, h.length_eq]
  dsimp only
  split
  · refine congrArg (fun f => List.foldlM f _ _) (funext fun tables => funext fun replicate => ?_)
    exact bind_congr_view (h.samples hsigns hxs hlength replicate) fun sampled sampled' hsampled =>
      congrArg Except.ok (tables.record_of_seen _ hsampled)
  · rfl

omit [Hashing] in
theorem Renamed.buildStratum (h : Renamed pairs xs ys) (profileId : Option CaptureProfile) (tables : BootstrapTables)
    (bootstrapEnabled : Bool) :
    buildStratum xs profileId tables bootstrapEnabled = buildStratum ys profileId tables bootstrapEnabled := by
  unfold Calibration.buildStratum
  rw [h.counts_eq, h.length_eq, h.length_dedup h.projects]

omit [Hashing] in
theorem Renamed.inPartition (h : Renamed pairs xs ys) (partition : CaptureFeedbackPartition) :
    Renamed (pairs.filter fun z => z.1.partition = partition) (inPartition partition xs) (inPartition partition ys) :=
  h.filter (p := fun a => a.partition = partition) fun a b hab => by
    have hpartition : a.partition = b.partition := congrArg (fun s => s.2.2.2) hab
    rw [hpartition]

/-- What the evaluation finds does not depend on the pseudonyms. -/
theorem findingsOf_eq {body body' : FeedbackDatasetBody} (h : Renamed pairs body.examples body'.examples)
    (hsigns : SignsCells) (hlength : body.examples.length ≤ maxCaptureFeedbackExamples)
    (hsource : body.evidenceSource = body'.evidenceSource)
    (hattestation : body.studyAttestation = body'.studyAttestation) : findingsOf body = findingsOf body' := by
  have hfinal := h.inPartition .finalTest
  have htables := hfinal.bootstrapTables hsigns
    (fun a ha => of_decide_eq_true (List.mem_filter.mp ha).2) (Nat.le_trans (List.length_filter_le _ _) hlength)
  have hnil : ∀ partition, inPartition partition body.examples = [] ↔ inPartition partition body'.examples = [] := by
    intro partition
    rw [← List.length_eq_zero_iff, ← List.length_eq_zero_iff, (h.inPartition partition).length_eq]
  unfold findingsOf
  dsimp only
  simp only [htables, hfinal.profilesOf, hfinal.disclosedProfiles, hfinal.length_eq, hfinal.buildStratum, hsource,
    hattestation, h.length_eq, (h.inPartition .development).length_eq, (h.inPartition .calibration).length_eq, hnil,
    fun profile => (hfinal.inScope profile).length_eq, fun profile => (hfinal.inScope profile).buildStratum]

end SalienceGate.Calibration
