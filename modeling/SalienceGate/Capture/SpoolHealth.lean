import SalienceGate.Capture.SpoolSteps

/-!
# The health of a spool

A spool is sound if its own checks accept it (`Spool.Sound`). Every call keeps it sound, at every file
it writes, but for two things: an entry is stored for a session with a new marker while the drop state
still names an old marker of the session, and `clearDropHealthIfEmpty` crashes after it deleted the
marker of the barrier and before it deleted the drop state that names it.
-/

namespace SalienceGate

open Checked CaptureSpool

variable [CaptureKey]

/-! ## Sound spools -/

/-- What the checks of a spool need, but for the barrier of bridges. -/
structure Spool.Kept (s : Spool) : Prop where
  authentic : ∀ intake ∈ s.entries, CaptureKey.authenticates intake = true
  fenced : ∀ intake ∈ s.entries, intake.session ∈ s.markers
  acknowledged : ∀ key, s.markers.get? key = some .acknowledged → s.dropState ≠ none
  /-- A pending marker that the drop state names is of no entry. -/
  settled : ∀ key, s.markers.get? key = some .pending →
    acknowledgedMarker s.dropState = some (CaptureKey.sessionMarkerTag key) → s.IsOrphan key

/-- The drop state names a barrier that exists. -/
def Spool.BarrierFound (s : Spool) : Prop :=
  ∀ tag ∈ bridgeBarrierMarker s.dropState, ∃ key ∈ s.markers, CaptureKey.sessionMarkerTag key = tag

/-- What the checks of a spool need. -/
structure Spool.Sound (s : Spool) : Prop extends s.Kept where
  barrier : s.BarrierFound

/-- The drop state names the marker of a session as the barrier. -/
def Spool.Bars (s : Spool) (key : SessionKey) : Prop :=
  bridgeBarrierMarker s.dropState = some (CaptureKey.sessionMarkerTag key)

/-- The drop state names the pending marker of a session as the one that was counted last. -/
def Spool.Counted (s : Spool) (key : SessionKey) : Prop :=
  s.markers.get? key = some .pending
    ∧ acknowledgedMarker s.dropState = some (CaptureKey.sessionMarkerTag key)

omit [CaptureKey] in
theorem droppedEvents_ne_zero {state : Option DropState} (h : state ≠ none) : droppedEvents state ≠ 0 := by
  obtain ⟨drop, rfl⟩ := Option.ne_none_iff_exists'.mp h
  have hpositive := drop.positive
  show drop.droppedEvents ≠ 0
  omega

theorem Spool.sound_empty : Spool.empty.Sound where
  authentic _ h := by cases h
  fenced _ h := by cases h
  acknowledged _ h := by cases h
  settled _ h := by cases h
  barrier _ h := by cases h

namespace Spool

variable {s : Spool} {key : SessionKey} {intake : CaptureIntake} {state : DropState}

theorem Kept.setMarker_acknowledged (h : s.Kept) (hdrop : s.dropState ≠ none) :
    (s.setMarker key .acknowledged).Kept where
  authentic := h.authentic
  fenced x hx := Dict.mem_set_of_mem (h.fenced x hx)
  acknowledged _ _ := hdrop
  settled other hother hack := by
    rcases Dict.get?_set_eq_some.mp hother with ⟨-, hstate⟩ | ⟨-, hother⟩
    · cases hstate
    · exact h.settled other hother hack

theorem Kept.setMarker_pending (h : s.Kept) (hnew : key ∉ s.markers) :
    (s.setMarker key .pending).Kept where
  authentic := h.authentic
  fenced x hx := Dict.mem_set_of_mem (h.fenced x hx)
  acknowledged other hother := by
    rcases Dict.get?_set_eq_some.mp hother with ⟨-, hstate⟩ | ⟨-, hother⟩
    · cases hstate
    · exact h.acknowledged other hother
  settled other hother hack := by
    rcases Dict.get?_set_eq_some.mp hother with ⟨rfl, -⟩ | ⟨-, hother⟩
    · exact fun x hx heq => hnew (heq ▸ h.fenced x hx)
    · exact h.settled other hother hack

theorem Kept.eraseMarker (h : s.Kept) (hkey : s.IsOrphan key) : (s.eraseMarker key).Kept where
  authentic := h.authentic
  fenced x hx := Dict.mem_erase.mpr ⟨hkey x hx, h.fenced x hx⟩
  acknowledged other hother := h.acknowledged other (Dict.get?_erase_eq_some.mp hother).2
  settled other hother hack := h.settled other (Dict.get?_erase_eq_some.mp hother).2 hack

theorem Kept.eraseEntry (h : s.Kept) : (s.eraseEntry intake).Kept where
  authentic x hx := h.authentic x (List.mem_of_mem_filter hx)
  fenced x hx := h.fenced x (List.mem_of_mem_filter hx)
  acknowledged := h.acknowledged
  settled other hother hack x hx := h.settled other hother hack x (List.mem_of_mem_filter hx)

/-- An entry of a session that has a marker, which is not a new one that the drop state names. -/
theorem Kept.addEntry (h : s.Kept) (hauthentic : CaptureKey.authenticates intake = true)
    (hmarker : intake.session ∈ s.markers)
    (hfresh : ¬(s.markers.get? intake.session = some .pending
      ∧ acknowledgedMarker s.dropState = some (CaptureKey.sessionMarkerTag intake.session))) :
    (s.addEntry intake).Kept where
  authentic x hx := by
    rcases List.mem_append.mp hx with hx | hx
    · exact h.authentic x hx
    · rw [List.mem_singleton.mp hx]
      exact hauthentic
  fenced x hx := by
    rcases List.mem_append.mp hx with hx | hx
    · exact h.fenced x hx
    · rw [List.mem_singleton.mp hx]
      exact hmarker
  acknowledged := h.acknowledged
  settled other hother hack x hx := by
    rcases List.mem_append.mp hx with hx | hx
    · exact h.settled other hother hack x hx
    · rw [List.mem_singleton.mp hx]
      rintro rfl
      exact hfresh ⟨hother, hack⟩

/-- A drop state that names no pending marker of an entry. -/
theorem Kept.setDropState (h : s.Kept)
    (hnamed : ∀ key, s.markers.get? key = some .pending →
      state.acknowledgedMarker = some (CaptureKey.sessionMarkerTag key) → s.IsOrphan key) :
    (s.setDropState (some state)).Kept where
  authentic := h.authentic
  fenced := h.fenced
  acknowledged _ _ := by simp [Spool.setDropState]
  settled := hnamed

theorem BarrierFound.setMarker (h : s.BarrierFound) {marker : MarkerState} :
    (s.setMarker key marker).BarrierFound := fun tag htag => by
  obtain ⟨found, hfound, heq⟩ := h tag htag
  exact ⟨found, Dict.mem_set_of_mem hfound, heq⟩

theorem BarrierFound.eraseMarker (h : s.BarrierFound)
    (hkey : bridgeBarrierMarker s.dropState ≠ some (CaptureKey.sessionMarkerTag key)) :
    (s.eraseMarker key).BarrierFound := fun tag htag => by
  obtain ⟨found, hfound, heq⟩ := h tag htag
  refine ⟨found, Dict.mem_erase.mpr ⟨?_, hfound⟩, heq⟩
  rintro rfl
  exact hkey (heq ▸ htag)

theorem Sound.setMarker_acknowledged (h : s.Sound) (hdrop : s.dropState ≠ none) :
    (s.setMarker key .acknowledged).Sound :=
  ⟨h.toKept.setMarker_acknowledged hdrop, h.barrier.setMarker⟩

theorem Sound.setMarker_pending (h : s.Sound) (hnew : key ∉ s.markers) :
    (s.setMarker key .pending).Sound :=
  ⟨h.toKept.setMarker_pending hnew, h.barrier.setMarker⟩

end Spool

/-! ## What the calls ask -/

/-- Nothing is asked that makes the spool unsound: no entry is stored for a session whose marker is
pending while the drop state names it. -/
def SpoolRequest.Settled (s : Spool) : SpoolRequest → Prop
  | .file (.publishEntry intake) => ¬(s.markers.get? intake.session = some .pending
      ∧ acknowledgedMarker s.dropState = some (CaptureKey.sessionMarkerTag intake.session))
  | _ => True

/-- The trace that observes nothing. -/
def unobserved (_ : Unit) (request : SpoolRequest) (_ : Except SpoolError request.Reply) : Unit := ()

/-- A call alone with a spool that it keeps, asking what it may ask by a condition. -/
abbrev soundSetting (C : Spool → SpoolRequest → Prop) :=
  spoolSetting C unobserved fun s (_ : Unit) (_ : SpoolRequest) => s.Kept

omit [CaptureKey] in
theorem isQuiet_unobserved : IsQuiet unobserved := fun _ _ _ _ => rfl

variable {C : Spool → SpoolRequest → Prop} {α : Type} {post : Except SpoolError α → Spool × Unit → Prop}
  {s : Spool}

namespace CaptureSpool

/-- A call that asks nothing that makes the spool unsound. -/
abbrev settledSetting := soundSetting SpoolRequest.Settled

/-- A program that returns, and leaves a spool with a property. -/
abbrev Leaves (C : Spool → SpoolRequest → Prop) (program : Spooling α) (s : Spool)
    (P : α → Spool → Prop) : Prop :=
  program.Meets (soundSetting C) (fun result t => ∃ a, result = .ok a ∧ P a t.1) (s, ())

theorem meets_write {dropped : ℕ} {reason : DropReason} {acknowledged barrier : Option String}
    {f : Option DropState → Spooling α} (hs : s.Kept) (hpositive : 1 ≤ dropped)
    (hf : (f (some ⟨dropped, reason, acknowledged, barrier, hpositive⟩)).Meets (soundSetting C) post
      (s.setDropState (some ⟨dropped, reason, acknowledged, barrier, hpositive⟩), ())) :
    (writeDropState dropped reason acknowledged barrier >>= f).Meets (soundSetting C) post (s, ()) := by
  unfold writeDropState
  rw [dif_pos hpositive, Program.bind_assoc]
  exact meets_file_bind hs fun _ => hf

variable {key : SessionKey}

theorem leaves_acknowledge (hs : s.Kept) (hdrop : s.dropState ≠ none) :
    Leaves C (setSessionMarkerState key .acknowledged) s fun _ t => t = s.setMarker key .acknowledged := by
  unfold setSessionMarkerState
  refine meets_file_bind hs fun _ => meets_file_bind (hs.setMarker_acknowledged hdrop) fun _ => ?_
  have hread : (s.setMarker key .acknowledged).markers.get? key = some .acknowledged := Dict.get?_set_self
  exact meets_last_guard (not_not.mpr hread) ⟨_, rfl, rfl⟩

/-! ## Settling -/

variable {marker : MarkerState} {markers : SessionMarkers} {remove : Bool}

/-- A marker that was settled: it is gone, or acknowledged, and nothing else changed. -/
structure MarkerSettled (key : SessionKey) (remove : Bool) (s t : Spool) : Prop where
  entries : t.entries = s.entries
  dropState : t.dropState = s.dropState
  others : ∀ other, other ≠ key → t.markers.get? other = s.markers.get? other
  self : t.markers.get? key = if remove then none else some .acknowledged

theorem leaves_settleMarker (hs : s.Kept) (hmarker : s.markers.get? key = some marker)
    (hdrop : s.dropState ≠ none) (horphan : remove = true → s.IsOrphan key) :
    Leaves C (settleMarker key marker s.markers remove) s fun markers t =>
      markers = t.markers ∧ t.Kept ∧ MarkerSettled key remove s t := by
  unfold settleMarker
  split
  · next hremove =>
    refine meets_file_bind hs fun _ => Program.meets_done.mpr ⟨_, rfl, rfl, ?_, rfl, rfl, ?_, ?_⟩
    · exact hs.eraseMarker (horphan hremove)
    · exact fun other hne => Dict.get?_erase_of_ne hne
    · rw [if_pos hremove]
      exact Dict.get?_erase_self
  · next hremove =>
    have hkept : (s.setMarker key .acknowledged).Kept := hs.setMarker_acknowledged hdrop
    have hself : ∀ t : Spool, t.markers.get? key = some .acknowledged →
        t.markers.get? key = if remove then none else some .acknowledged := by
      intro t ht
      rw [if_neg hremove, ht]
    split
    · refine meets_setSessionMarkerState isQuiet_unobserved hs hkept (Program.meets_done.mpr
        ⟨_, rfl, rfl, hkept, rfl, rfl, ?_, hself _ Dict.get?_set_self⟩)
      exact fun other hne => Dict.get?_set_of_ne hne
    · next hpending =>
      have hacknowledged : marker = .acknowledged := by cases marker <;> simp_all
      refine Program.meets_done.mpr ⟨_, rfl, rfl, hs, rfl, rfl, fun _ _ => rfl, hself _ ?_⟩
      rw [hmarker, hacknowledged]

/-- The markers after the barrier was settled, and the sessions that remain to be. -/
structure BarrierSettled (clear : Bool) (s t : Spool) (orphans remaining : List SessionKey) : Prop where
  kept : t.Kept
  entries : t.entries = s.entries
  dropState : t.dropState = s.dropState
  sublist : remaining.Sublist orphans
  remaining_iff : ∀ key, key ∈ remaining ↔ key ∈ orphans ∧ ¬s.Bars key
  others : ∀ key, ¬s.Bars key → t.markers.get? key = s.markers.get? key
  barrier : ∀ key, s.Bars key → t.markers.get? key ≠ some .pending
  mem_of_mem : ∀ key ∈ t.markers, key ∈ s.markers
  found : clear = false → t.BarrierFound
  cleared : clear = true → ∀ key ∈ orphans, s.Bars key → key ∉ t.markers

theorem leaves_settleBridgeBarrier (hs : s.Sound) {orphans : List SessionKey}
    (horphans : ∀ key ∈ orphans, s.IsOrphan key) {clear : Bool} :
    Leaves C (settleBridgeBarrier s.dropState orphans s.markers clear) s fun settled t =>
      settled.2 = t.markers ∧ BarrierSettled clear s t orphans settled.1 := by
  unfold settleBridgeBarrier
  cases hbarrier : bridgeBarrierMarker s.dropState with
  | none =>
    have hbars : ∀ key, ¬s.Bars key := fun key h => by simp [Spool.Bars, hbarrier] at h
    refine Program.meets_done.mpr ⟨_, rfl, rfl, hs.toKept, rfl, rfl, .refl _, fun key => ?_,
      fun _ _ => rfl, fun key h => absurd h (hbars key), fun _ h => h, fun _ => hs.barrier,
      fun _ key _ h => absurd h (hbars key)⟩
    simp [hbars key]
  | some tag =>
    obtain ⟨key, hkey, htag⟩ := hs.barrier tag hbarrier
    obtain ⟨marker, hmarker⟩ := Dict.mem_iff.mp hkey
    have hdrop : s.dropState ≠ none := by
      intro hnone
      rw [hnone] at hbarrier
      cases hbarrier
    have hbars : ∀ other, s.Bars other ↔ other = key := by
      intro other
      unfold Spool.Bars
      rw [hbarrier, ← htag, Option.some.injEq]
      exact ⟨fun h => CaptureKey.sessionMarkerTag_inj _ _ h.symm, fun h => h ▸ rfl⟩
    dsimp only
    rw [named?_eq_some.mpr ⟨htag, hmarker⟩]
    dsimp only
    refine (leaves_settleMarker hs.toKept hmarker hdrop (by simp)).bind_returns ?_
    rintro markers t ⟨rfl, hkept, hsettled⟩
    have hself : t.1.markers.get? key = some .acknowledged := hsettled.self
    have hmem : ∀ other ∈ t.1.markers, other ∈ s.markers := by
      intro other hother
      by_cases heq : other = key
      · exact heq ▸ hkey
      · rwa [Dict.mem_iff, hsettled.others other heq, ← Dict.mem_iff] at hother
    have hfound : t.1.BarrierFound := by
      intro found hfound
      rw [hsettled.dropState, hbarrier] at hfound
      cases hfound
      exact ⟨key, Dict.mem_of_get? hself, htag⟩
    have hothers : ∀ other, ¬s.Bars other → t.1.markers.get? other = s.markers.get? other :=
      fun other hother => hsettled.others other fun heq => hother ((hbars other).mpr heq)
    have hremaining : ∀ other, other ∈ orphans.filter (· ≠ key) ↔ other ∈ orphans ∧ ¬s.Bars other := by
      intro other
      simp [hbars]
    split
    · next horphan =>
      have hisOrphan : t.1.IsOrphan key := by
        unfold Spool.IsOrphan
        rw [hsettled.entries]
        exact horphans key horphan
      cases clear with
      | false =>
        refine Program.meets_done.mpr ⟨_, rfl, rfl, hkept, hsettled.entries, hsettled.dropState,
          List.filter_sublist, hremaining, hothers, fun other hother => ?_, hmem, fun _ => hfound,
          fun hclear => by cases hclear⟩
        rw [(hbars other).mp hother, hself]
        simp
      | true =>
        have hdrop' : t.1.dropState ≠ none := by rwa [hsettled.dropState]
        refine (leaves_settleMarker hkept hself hdrop' fun _ => hisOrphan).bind_returns ?_
        rintro markers u ⟨rfl, hkept', herased⟩
        have hgone : u.1.markers.get? key = none := herased.self
        refine Program.meets_done.mpr ⟨_, rfl, rfl, hkept', herased.entries.trans hsettled.entries,
          herased.dropState.trans hsettled.dropState, List.filter_sublist, hremaining,
          fun other hother => ?_, fun other hother => ?_, fun other hother => ?_, (by simp),
          fun _ other _ hother => ?_⟩
        · rw [herased.others other fun heq => hother ((hbars other).mpr heq)]
          exact hothers other hother
        · rw [(hbars other).mp hother, hgone]
          simp
        · have hne : other ≠ key := fun heq => Dict.get?_eq_none.mp hgone (heq ▸ hother)
          rw [Dict.mem_iff, herased.others other hne, ← Dict.mem_iff] at hother
          exact hmem other hother
        · rw [(hbars other).mp hother]
          exact Dict.get?_eq_none.mp hgone
    · next hnotOrphan =>
      refine Program.meets_done.mpr ⟨_, rfl, rfl, hkept, hsettled.entries, hsettled.dropState, .refl _,
        fun other => ?_, hothers, fun other hother => ?_, hmem, fun _ => hfound,
        fun _ other hmem hother => ?_⟩
      · simp only [hbars]
        exact ⟨fun hmem => ⟨hmem, fun heq => hnotOrphan (heq ▸ hmem)⟩, fun h => h.1⟩
      · rw [(hbars other).mp hother, hself]
        simp
      · exact absurd ((hbars other).mp hother ▸ hmem) hnotOrphan

/-- The markers after the one that was counted last was settled, and the sessions that remain to be. -/
structure CountedSettled (remove : Bool) (s t : Spool) (remaining rest : List SessionKey) : Prop where
  kept : t.Kept
  entries : t.entries = s.entries
  dropState : t.dropState = s.dropState
  sublist : rest.Sublist remaining
  rest_iff : ∀ key, key ∈ rest ↔ key ∈ remaining ∧ ¬s.Counted key
  others : ∀ key, ¬s.Counted key → t.markers.get? key = s.markers.get? key
  mem_of_mem : ∀ key ∈ t.markers, key ∈ s.markers
  found : s.BarrierFound → (∀ key, s.Bars key → ¬s.Counted key) → t.BarrierFound
  removed : remove = true → ∀ key, s.Counted key → key ∉ t.markers

theorem leaves_settleAcknowledged (hs : s.Kept) {orphans remaining : List SessionKey}
    (hremaining : ∀ key, s.Counted key → key ∈ orphans ∧ key ∈ remaining) :
    Leaves C (settleAcknowledged s.dropState orphans remaining s.markers remove) s fun settled t =>
      settled.2 = t.markers ∧ CountedSettled remove s t remaining settled.1 := by
  unfold settleAcknowledged
  split
  · next key hnamed =>
    obtain ⟨tag, htag, hfound⟩ := Option.bind_eq_some_iff.mp hnamed
    obtain ⟨rfl, hpending⟩ := named?_eq_some.mp hfound
    have hcounted : s.Counted key := ⟨hpending, htag⟩
    have hcounted_iff : ∀ other, s.Counted other ↔ other = key := by
      refine fun other => ⟨fun h => ?_, fun h => h ▸ hcounted⟩
      exact CaptureKey.sessionMarkerTag_inj _ _ (Option.some.inj (h.2.symm.trans htag))
    obtain ⟨horphan, hmem⟩ := hremaining key hcounted
    have hdrop : s.dropState ≠ none := by
      intro hnone
      rw [hnone] at htag
      cases htag
    refine meets_guard (not_not.mpr horphan) ?_
    refine (leaves_settleMarker hs hpending hdrop fun _ => hs.settled key hpending htag).bind_returns ?_
    rintro markers t ⟨rfl, hkept, hsettled⟩
    refine meets_guard (not_not.mpr hmem) ?_
    have hothers : ∀ other, ¬s.Counted other → t.1.markers.get? other = s.markers.get? other :=
      fun other hother => hsettled.others other fun heq => hother ((hcounted_iff other).mpr heq)
    refine Program.meets_done.mpr ⟨_, rfl, rfl, hkept, hsettled.entries, hsettled.dropState,
      List.filter_sublist, fun other => by simp [hcounted_iff], hothers, fun other hother => ?_,
      fun hbarrier hbars tag hbar => ?_, fun hremove other hother => ?_⟩
    · by_cases heq : other = key
      · exact heq ▸ Dict.mem_of_get? hpending
      · rwa [Dict.mem_iff, hsettled.others other heq, ← Dict.mem_iff] at hother
    · rw [hsettled.dropState] at hbar
      obtain ⟨barrier, hbarrier, rfl⟩ := hbarrier tag hbar
      refine ⟨barrier, ?_, rfl⟩
      rwa [Dict.mem_iff, hothers barrier (hbars barrier hbar), ← Dict.mem_iff]
    · rw [(hcounted_iff other).mp hother, ← Dict.get?_eq_none, hsettled.self, if_pos hremove]
  · next hnone =>
    have hcounted : ∀ key, ¬s.Counted key := by
      rintro key ⟨hpending, htag⟩
      refine hnone key ?_
      rw [htag]
      exact named?_eq_some.mpr ⟨rfl, hpending⟩
    exact Program.meets_done.mpr ⟨_, rfl, rfl, hs, rfl, rfl, .refl _, fun key => by simp [hcounted key],
      fun _ _ => rfl, fun _ h => h, fun h _ => h, fun _ key h => absurd h (hcounted key)⟩

/-- A session was counted if its marker was pending, and nothing else changed. -/
structure OrphanCounted (key : SessionKey) (marker : MarkerState) (s t : Spool) : Prop where
  kept : t.Kept
  entries : t.entries = s.entries
  markers : t.markers = s.markers
  barrier : bridgeBarrierMarker t.dropState = bridgeBarrierMarker s.dropState
  dropped : droppedEvents t.dropState = droppedEvents s.dropState + if marker = .pending then 1 else 0
  counted : ∀ other, other ≠ key → t.Counted other → s.Counted other
  present : marker = .pending → t.dropState ≠ none

theorem leaves_countOrphan (hs : s.Kept) (hmarker : s.markers.get? key = some marker)
    (horphan : s.IsOrphan key) (hcounted : ¬s.Counted key) :
    Leaves C (countOrphan key marker s.dropState) s fun state t =>
      state = t.dropState ∧ OrphanCounted key marker s t := by
  unfold countOrphan
  cases marker with
  | acknowledged =>
    rw [if_neg (by simp)]
    exact Program.meets_done.mpr ⟨_, rfl, rfl, hs, rfl, rfl, rfl, rfl, fun _ _ h => h, by simp⟩
  | pending =>
    have hnew : acknowledgedMarker s.dropState ≠ some (CaptureKey.sessionMarkerTag key) :=
      fun h => hcounted ⟨hmarker, h⟩
    have hkey : ∀ other, some (CaptureKey.sessionMarkerTag key) = some (CaptureKey.sessionMarkerTag other) →
        other = key :=
      fun other h => CaptureKey.sessionMarkerTag_inj _ _ (Option.some.inj h).symm
    rw [if_pos ⟨rfl, hnew⟩]
    unfold writeDropState
    rw [dif_pos (Nat.le_add_left 1 _)]
    refine meets_file_bind hs fun _ => Program.meets_done.mpr ⟨_, rfl, rfl, ?_, rfl, rfl, rfl, rfl, ?_, ?_⟩
    · refine hs.setDropState fun other hother hnamed => ?_
      rw [hkey other hnamed]
      exact horphan
    · exact fun other hne hother => absurd (hkey other hother.2) hne
    · exact fun _ => by simp [Spool.setDropState]

/-- The markers of sessions after they were counted and settled. -/
structure OrphansSettled (remove : Bool) (s t : Spool) (keys : List SessionKey) : Prop where
  kept : t.Kept
  entries : t.entries = s.entries
  barrier : bridgeBarrierMarker t.dropState = bridgeBarrierMarker s.dropState
  dropped : droppedEvents t.dropState = droppedEvents s.dropState
    + keys.countP fun key => s.markers.get? key = some .pending
  mem_of_mem : ∀ key ∈ t.markers, key ∈ s.markers
  found : s.BarrierFound → t.BarrierFound
  removed : remove = true → ∀ key ∈ keys, key ∉ t.markers

theorem leaves_settleOrphans {keys : List SessionKey} (hs : s.Kept) (hnodup : keys.Nodup)
    (hkeys : ∀ key ∈ keys, key ∈ s.markers ∧ s.IsOrphan key ∧ ¬s.Counted key ∧ ¬s.Bars key) :
    Leaves C (settleOrphans remove keys s.dropState s.markers) s fun markers t =>
      markers = t.markers ∧ OrphansSettled remove s t keys := by
  induction keys generalizing s with
  | nil => exact Program.meets_done.mpr ⟨_, rfl, rfl, hs, rfl, rfl, rfl, fun _ h => h, fun h => h, by simp⟩
  | cons key rest ih =>
    obtain ⟨hfresh, hrest⟩ := List.nodup_cons.mp hnodup
    obtain ⟨hmem, horphan, hcounted, hbars⟩ := hkeys key List.mem_cons_self
    obtain ⟨marker, hmarker⟩ := Dict.mem_iff.mp hmem
    unfold settleOrphans
    have hchecked : ¬(marker = .acknowledged ∧ droppedEvents s.dropState = 0) := by
      rintro ⟨rfl, hzero⟩
      exact droppedEvents_ne_zero (hs.acknowledged key hmarker) hzero
    refine Program.meets_lift_of_ok (expect_eq_ok.mpr hmarker) ?_
    refine meets_guard hchecked ?_
    refine (leaves_countOrphan hs hmarker horphan hcounted).bind_returns ?_
    rintro state t ⟨rfl, hcount⟩
    have hmarker' : t.1.markers.get? key = some marker := by rw [hcount.markers, hmarker]
    have horphan' : t.1.IsOrphan key := by
      unfold Spool.IsOrphan
      rw [hcount.entries]
      exact horphan
    have hdrop : t.1.dropState ≠ none := by
      cases marker with
      | pending => exact hcount.present rfl
      | acknowledged => exact hcount.kept.acknowledged key hmarker'
    rw [← hcount.markers]
    refine (leaves_settleMarker hcount.kept hmarker' hdrop fun _ => horphan').bind_returns ?_
    rintro markers u ⟨rfl, hkept, hsettled⟩
    have hentries : u.1.entries = s.entries := hsettled.entries.trans hcount.entries
    have hothers : ∀ other ∈ rest, u.1.markers.get? other = s.markers.get? other := by
      intro other hother
      rw [hsettled.others other fun heq => hfresh (heq ▸ hother), hcount.markers]
    have hkeys' : ∀ other ∈ rest,
        other ∈ u.1.markers ∧ u.1.IsOrphan other ∧ ¬u.1.Counted other ∧ ¬u.1.Bars other := by
      intro other hother
      obtain ⟨hmem', horphan', hcounted', hbars'⟩ := hkeys other (List.mem_cons_of_mem key hother)
      have hne : other ≠ key := fun heq => hfresh (heq ▸ hother)
      refine ⟨?_, ?_, fun h => ?_, fun h => ?_⟩
      · rwa [Dict.mem_iff, hothers other hother, ← Dict.mem_iff]
      · unfold Spool.IsOrphan
        rw [hentries]
        exact horphan'
      · refine hcounted' (hcount.counted other hne ⟨?_, ?_⟩)
        · rw [hcount.markers, ← hothers other hother]
          exact h.1
        · rw [← hsettled.dropState]
          exact h.2
      · unfold Spool.Bars at h hbars'
        rw [hsettled.dropState, hcount.barrier] at h
        exact hbars' h
    have hmem_of_mem : ∀ other ∈ u.1.markers, other ∈ s.markers := by
      intro other hother
      by_cases heq : other = key
      · exact heq ▸ hmem
      · rwa [Dict.mem_iff, hsettled.others other heq, hcount.markers, ← Dict.mem_iff] at hother
    rw [← hsettled.dropState]
    refine (ih hkept hrest hkeys').mono ?_
    rintro result v ⟨markers, rfl, rfl, hlast⟩
    refine ⟨_, rfl, rfl, hlast.kept, hlast.entries.trans hentries, ?_, ?_, ?_, ?_, ?_⟩
    · rw [hlast.barrier, hsettled.dropState, hcount.barrier]
    · have hcounts : rest.countP (fun other => u.1.markers.get? other = some .pending)
          = rest.countP fun other => s.markers.get? other = some .pending :=
        List.countP_congr fun other hother => by rw [hothers other hother]
      rw [hlast.dropped, hcounts, hsettled.dropState, hcount.dropped, List.countP_cons, hmarker]
      cases marker with
      | pending => simp; omega
      | acknowledged => simp
    · exact fun other hother => hmem_of_mem other (hlast.mem_of_mem other hother)
    · refine fun hfound => hlast.found fun tag htag => ?_
      rw [hsettled.dropState, hcount.barrier] at htag
      obtain ⟨barrier, hbarrier, rfl⟩ := hfound tag htag
      have hne : barrier ≠ key := by
        rintro rfl
        exact hbars htag
      refine ⟨barrier, ?_, rfl⟩
      rwa [Dict.mem_iff, hsettled.others barrier hne, hcount.markers, ← Dict.mem_iff]
    · intro hremove other hother
      rcases List.mem_cons.mp hother with rfl | hother
      · intro hmem'
        have hgone : u.1.markers.get? other = none := by rw [hsettled.self, if_pos hremove]
        exact Dict.get?_eq_none.mp hgone (hlast.mem_of_mem other hmem')
      · exact hlast.removed hremove other hother

/-! ## What is not counted yet -/

omit [CaptureKey] in
/-- The sessions with a marker that have no entry. -/
def orphansOf (s : Spool) : List SessionKey :=
  s.markers.keys.filter fun key => ∀ intake ∈ s.entries, intake.session ≠ key

omit [CaptureKey] in
theorem mem_orphansOf : key ∈ orphansOf s ↔ key ∈ s.markers ∧ s.IsOrphan key := by
  unfold orphansOf
  rw [List.mem_filter, decide_eq_true_iff]
  rfl

omit [CaptureKey] in
theorem nodup_orphansOf : (orphansOf s).Nodup := s.markers.nodup_keys.filter _

/-- The sessions without an entry that are not counted yet. -/
def syntheticDrops (s : Spool) : ℕ :=
  s.markers.items.countP fun marker => isSyntheticDrop (orphansOf s) s.dropState marker.1 marker.2

theorem reconcile_eq (hs : s.Kept) :
    reconcileSessionMarkers (s.entries.mergeSort drainsBefore) s.markers = .ok (orphansOf s) := by
  unfold reconcileSessionMarkers orphansOf
  have hfenced : ¬∃ intake ∈ s.entries.mergeSort drainsBefore, intake.session ∉ s.markers := by
    rintro ⟨intake, hmem, hsession⟩
    exact hsession (hs.fenced intake (List.mem_mergeSort.mp hmem))
  rw [raiseIf_bind_of_not hfenced, pure_eq_ok]
  refine List.filter_congr fun key _ => ?_
  simp only [List.mem_mergeSort]

/-- The sessions that are not counted yet, in any order. -/
theorem syntheticDrops_eq {keys : List SessionKey} (hnodup : keys.Nodup)
    (hkeys : ∀ key, key ∈ keys ↔ key ∈ orphansOf s ∧ ¬s.Bars key ∧ ¬s.Counted key) :
    keys.countP (fun key => s.markers.get? key = some .pending) = syntheticDrops s := by
  have hperm : (keys.filter fun key => s.markers.get? key = some .pending).Perm
      ((s.markers.items.filter fun marker =>
        isSyntheticDrop (orphansOf s) s.dropState marker.1 marker.2).map Prod.fst) := by
    refine (List.perm_ext_iff_of_nodup (hnodup.filter _) ?_).mpr fun key => ?_
    · exact s.markers.nodup_keys.sublist (List.filter_sublist.map Prod.fst)
    rw [List.mem_filter, hkeys, decide_eq_true_iff, List.mem_map]
    constructor
    · rintro ⟨⟨horphan, hbars, hcounted⟩, hpending⟩
      refine ⟨(key, .pending), List.mem_filter.mpr ⟨Dict.get?_eq_some.mp hpending, ?_⟩, rfl⟩
      exact decide_eq_true ⟨horphan, rfl, fun h => hcounted ⟨hpending, h⟩, hbars⟩
    · rintro ⟨⟨found, marker⟩, hmem, rfl⟩
      obtain ⟨hitem, hsynthetic⟩ := List.mem_filter.mp hmem
      obtain ⟨horphan, rfl, hack, hbars⟩ := of_decide_eq_true hsynthetic
      exact ⟨⟨horphan, hbars, fun h => hack h.2⟩, Dict.get?_eq_some.mpr hitem⟩
  unfold syntheticDrops
  rw [List.countP_eq_length_filter, List.countP_eq_length_filter, hperm.length_eq, List.length_map]

/-- The markers after every session without an entry was counted and settled. -/
structure Persisted (s t : Spool) : Prop where
  kept : t.Kept
  entries : t.entries = s.entries
  barrier : bridgeBarrierMarker t.dropState = bridgeBarrierMarker s.dropState
  dropped : droppedEvents t.dropState = droppedEvents s.dropState + syntheticDrops s
  mem_of_mem : ∀ key ∈ t.markers, key ∈ s.markers

theorem leaves_persistOrphanDegradation (hs : s.Sound) {clear : Bool} :
    Leaves C (persistOrphanDegradation (orphansOf s) s.markers remove clear) s fun markers t =>
      markers = t.markers ∧ Persisted s t ∧ ((remove && clear) = false → t.BarrierFound)
        ∧ ((remove && clear) = true → ∀ key, t.IsOrphan key → key ∉ t.markers) := by
  unfold persistOrphanDegradation
  split
  · next hnone =>
    refine Program.meets_done.mpr ⟨_, rfl, rfl, ⟨hs.toKept, rfl, rfl, ?_, fun _ h => h⟩,
      fun _ => hs.barrier, fun _ key hkey hmem => ?_⟩
    · unfold syntheticDrops isSyntheticDrop
      simp [hnone]
    · have horphan := mem_orphansOf.mpr ⟨hmem, hkey⟩
      rw [hnone] at horphan
      cases horphan
  · refine meets_file_bind hs.toKept fun _ => ?_
    refine (leaves_settleBridgeBarrier hs fun key h => (mem_orphansOf.mp h).2).bind_returns ?_
    rintro ⟨remaining, markers⟩ t ⟨rfl, hbar⟩
    have hcounted : ∀ key, t.1.Counted key → key ∈ orphansOf s ∧ key ∈ remaining := by
      intro key hkey
      have hmem := hbar.mem_of_mem key (Dict.mem_of_get? hkey.1)
      have horphan := hbar.kept.settled key hkey.1 hkey.2
      unfold Spool.IsOrphan at horphan
      rw [hbar.entries] at horphan
      have hof := mem_orphansOf.mpr ⟨hmem, horphan⟩
      exact ⟨hof, (hbar.remaining_iff key).mpr ⟨hof, fun hbars => hbar.barrier key hbars hkey.1⟩⟩
    rw [perform_dropState]
    dsimp only
    rw [← hbar.dropState]
    refine (leaves_settleAcknowledged hbar.kept hcounted).bind_returns ?_
    rintro ⟨rest, markers⟩ u ⟨rfl, hack⟩
    have hentries : u.1.entries = s.entries := hack.entries.trans hbar.entries
    have hdrop : u.1.dropState = s.dropState := hack.dropState.trans hbar.dropState
    have hcounted_iff : ∀ key, ¬s.Bars key → (t.1.Counted key ↔ s.Counted key) := by
      intro key hkey
      unfold Spool.Counted
      rw [hbar.others key hkey, hbar.dropState]
    have hrest_iff : ∀ key, key ∈ rest ↔ key ∈ orphansOf s ∧ ¬s.Bars key ∧ ¬s.Counted key := by
      intro key
      rw [hack.rest_iff, hbar.remaining_iff]
      constructor
      · rintro ⟨⟨horphan, hbars⟩, hnot⟩
        exact ⟨horphan, hbars, fun h => hnot ((hcounted_iff key hbars).mpr h)⟩
      · rintro ⟨horphan, hbars, hnot⟩
        exact ⟨⟨horphan, hbars⟩, fun h => hnot ((hcounted_iff key hbars).mp h)⟩
    have hsame : ∀ key ∈ rest, u.1.markers.get? key = s.markers.get? key := by
      intro key hkey
      obtain ⟨-, hbars, hnot⟩ := (hrest_iff key).mp hkey
      rw [hack.others key fun h => hnot ((hcounted_iff key hbars).mp h), hbar.others key hbars]
    have hperm := List.mergeSort_perm rest sessionBefore
    have hnodup : (rest.mergeSort sessionBefore).Nodup :=
      hperm.nodup_iff.mpr ((nodup_orphansOf.sublist hbar.sublist).sublist hack.sublist)
    have hkeys : ∀ key ∈ rest.mergeSort sessionBefore,
        key ∈ u.1.markers ∧ u.1.IsOrphan key ∧ ¬u.1.Counted key ∧ ¬u.1.Bars key := by
      intro key hkey
      have hrest := hperm.mem_iff.mp hkey
      obtain ⟨horphan, hbars, hnot⟩ := (hrest_iff key).mp hrest
      obtain ⟨hmem, horphan⟩ := mem_orphansOf.mp horphan
      refine ⟨?_, ?_, ?_, ?_⟩
      · rwa [Dict.mem_iff, hsame key hrest, ← Dict.mem_iff]
      · unfold Spool.IsOrphan
        rw [hentries]
        exact horphan
      · unfold Spool.Counted
        rw [hsame key hrest, hdrop]
        exact hnot
      · unfold Spool.Bars
        rw [hdrop]
        exact hbars
    dsimp only
    rw [← hack.dropState]
    refine (leaves_settleOrphans hack.kept hnodup hkeys).mono ?_
    rintro result v ⟨markers, rfl, rfl, hlast⟩
    refine ⟨_, rfl, rfl, ⟨hlast.kept, hlast.entries.trans hentries, ?_, ?_, fun key hkey => ?_⟩,
      fun hclear => ?_, fun hclear key hkey hmem => ?_⟩
    · rw [hlast.barrier, hdrop]
    · have hcounts : (rest.mergeSort sessionBefore).countP (fun key => u.1.markers.get? key = some .pending)
          = (rest.mergeSort sessionBefore).countP fun key => s.markers.get? key = some .pending :=
        List.countP_congr fun key hkey => by rw [hsame key (hperm.mem_iff.mp hkey)]
      have hsynthetic := syntheticDrops_eq hnodup fun key => hperm.mem_iff.trans (hrest_iff key)
      rw [hlast.dropped, hcounts, hsynthetic, hdrop]
    · exact hbar.mem_of_mem key (hack.mem_of_mem key (hlast.mem_of_mem key hkey))
    · refine hlast.found (hack.found (hbar.found hclear) fun key hkey hcount => ?_)
      unfold Spool.Bars at hkey
      rw [hbar.dropState] at hkey
      exact hbar.barrier key hkey hcount.1
    · have hremove : remove = true := (Bool.and_eq_true_iff.mp hclear).1
      have hu := hlast.mem_of_mem key hmem
      have ht := hack.mem_of_mem key hu
      have horphan : key ∈ orphansOf s := by
        refine mem_orphansOf.mpr ⟨hbar.mem_of_mem key ht, ?_⟩
        unfold Spool.IsOrphan at hkey
        rwa [hlast.entries, hentries] at hkey
      by_cases hbars : s.Bars key
      · exact hbar.cleared hclear key horphan hbars ht
      · by_cases hcount : t.1.Counted key
        · exact hack.removed hremove key hcount hu
        · have hrest := (hack.rest_iff key).mpr ⟨(hbar.remaining_iff key).mpr ⟨horphan, hbars⟩, hcount⟩
          exact hlast.removed hremove key (hperm.mem_iff.mpr hrest) hmem

/-! ## Health -/

/-- The checks accept a sound spool. -/
theorem exists_healthFromState (hs : s.Sound) (entries : List CaptureIntake) :
    ∃ health, healthFromState entries s.dropState s.markers (orphansOf s) = .ok health
      ∧ health.droppedEvents = droppedEvents s.dropState + syntheticDrops s := by
  unfold healthFromState
  have hacknowledged : ¬∃ marker ∈ s.markers.items,
      marker.2 = .acknowledged ∧ droppedEvents s.dropState = 0 := by
    rintro ⟨⟨key, marker⟩, hmem, rfl, hzero⟩
    exact droppedEvents_ne_zero (hs.acknowledged key (Dict.get?_eq_some.mpr hmem)) hzero
  have hcounted : ¬∃ marker ∈ s.markers.items, marker.2 = .pending
      ∧ acknowledgedMarker s.dropState = some (CaptureKey.sessionMarkerTag marker.1)
      ∧ marker.1 ∉ orphansOf s := by
    rintro ⟨⟨key, marker⟩, hmem, rfl, hack, horphan⟩
    have hget := Dict.get?_eq_some.mpr hmem
    exact horphan (mem_orphansOf.mpr ⟨Dict.mem_of_get? hget, hs.settled key hget hack⟩)
  have hbarrier : ¬∃ tag ∈ bridgeBarrierMarker s.dropState, s.markers.named? tag = none := by
    rintro ⟨tag, htag, hnone⟩
    obtain ⟨key, hkey, heq⟩ := hs.barrier tag htag
    exact named?_eq_none.mp hnone key hkey heq
  rw [raiseIf_bind_of_not hacknowledged, raiseIf_bind_of_not hcounted, raiseIf_bind_of_not hbarrier]
  exact ⟨_, rfl, rfl⟩

/-- The health of a sound spool counts what is not counted yet. -/
theorem leaves_health (hs : s.Sound) :
    Leaves C health s fun health t =>
      t = s ∧ health.droppedEvents = droppedEvents s.dropState + syntheticDrops s := by
  unfold health
  refine meets_file_bind hs.toKept fun _ => meets_file_bind hs.toKept fun _ => ?_
  refine Program.meets_lift_of_ok (reconcile_eq hs.toKept) (meets_file_bind hs.toKept fun _ => ?_)
  obtain ⟨health, hhealth, hdropped⟩ := exists_healthFromState hs (s.entries.mergeSort drainsBefore)
  simp only [perform_entries, perform_sessionMarkers, perform_dropState]
  rw [hhealth]
  exact Program.meets_done.mpr ⟨_, rfl, rfl, hdropped⟩

/-! ## Barriers -/

/-- The barrier of a sound spool is there. -/
theorem leaves_requireBridgeBarrier (hs : s.Sound) {tag : String}
    (htag : bridgeBarrierMarker s.dropState = some tag) :
    Leaves C (requireBridgeBarrier tag) s fun _ t =>
      t.Sound ∧ t.entries = s.entries ∧ t.dropState = s.dropState := by
  obtain ⟨key, hkey, rfl⟩ := hs.barrier tag htag
  obtain ⟨marker, hmarker⟩ := Dict.mem_iff.mp hkey
  have hnamed := named?_eq_some.mpr ⟨rfl, hmarker⟩
  have hdrop : s.dropState ≠ none := by
    intro hnone
    rw [hnone] at htag
    cases htag
  unfold requireBridgeBarrier
  refine meets_file_bind hs.toKept fun _ => ?_
  rw [perform_markerNamed]
  dsimp only
  rw [hnamed]
  cases marker with
  | acknowledged => exact Program.meets_done.mpr ⟨_, rfl, hs, rfl, rfl⟩
  | pending =>
    have hsound : (s.setMarker key .acknowledged).Sound := hs.setMarker_acknowledged hdrop
    refine (leaves_acknowledge hs.toKept hdrop).mono ?_
    rintro result t ⟨a, rfl, ht⟩
    exact ⟨a, rfl, ht ▸ hsound, ht ▸ rfl, ht ▸ rfl⟩

theorem leaves_requireNamedBarrier (hs : s.Sound) :
    Leaves C (requireNamedBarrier s.dropState) s fun _ t =>
      t.Sound ∧ t.entries = s.entries ∧ t.dropState = s.dropState := by
  unfold requireNamedBarrier
  split
  · next tag htag => exact leaves_requireBridgeBarrier hs htag
  · exact Program.meets_done.mpr ⟨_, rfl, hs, rfl, rfl⟩

theorem leaves_acknowledgeIf {c : Prop} [Decidable c] (hs : s.Sound) (hdrop : s.dropState ≠ none) :
    Leaves C (if c then setSessionMarkerState key .acknowledged else pure ()) s fun _ t => t.Sound := by
  split
  · refine (leaves_acknowledge hs.toKept hdrop).mono ?_
    rintro result t ⟨a, rfl, ht⟩
    exact ⟨a, rfl, ht ▸ hs.setMarker_acknowledged hdrop⟩
  · exact Program.meets_done.mpr ⟨_, rfl, hs⟩

/-! ## Admission -/

variable {intake : CaptureIntake}

/-- An intake is counted for a session that has a marker, and no entry if the marker is new. -/
theorem leaves_countQuotaDrop (hs : s.Sound) (hkey : key ∈ s.markers) {known : Option MarkerState}
    (horphan : known = none → s.IsOrphan key) {bridgeBarrier : Bool} :
    Leaves C (countQuotaDrop key known marker bridgeBarrier) s fun _ t => t.Sound := by
  unfold countQuotaDrop
  refine meets_file_bind hs.toKept fun _ => meets_write hs.toKept (Nat.le_add_left 1 _) ?_
  have hcounted : ∀ state : DropState,
      (state.acknowledgedMarker = acknowledgedMarker s.dropState
        ∨ known = none ∧ state.acknowledgedMarker = some (CaptureKey.sessionMarkerTag key)) →
      (state.bridgeBarrierMarker = bridgeBarrierMarker s.dropState
        ∨ state.bridgeBarrierMarker = some (CaptureKey.sessionMarkerTag key)) →
      (s.setDropState (some state)).Sound := by
    intro state hack hbarrier
    refine ⟨hs.toKept.setDropState fun other hother hnamed => ?_, fun tag htag => ?_⟩
    · rcases hack with hack | ⟨hnone, hack⟩
      · exact hs.settled other hother (hack.symm.trans hnamed)
      · have heq : other = key :=
          CaptureKey.sessionMarkerTag_inj _ _ (Option.some.inj (hnamed.symm.trans hack))
        exact heq ▸ horphan hnone
    · have htag : state.bridgeBarrierMarker = some tag := htag
      rcases hbarrier with hbarrier | hbarrier
      · exact hs.barrier tag (hbarrier.symm.trans htag)
      · exact ⟨key, hkey, Option.some.inj (hbarrier.symm.trans htag)⟩
  refine (leaves_acknowledgeIf (hcounted _ ?_ ?_) (by simp [Spool.setDropState])).bind_returns ?_
  · dsimp only
    split
    · next hnone => exact .inr ⟨hnone, rfl⟩
    · exact .inl rfl
  · dsimp only
    split
    · exact .inr rfl
    · exact .inl rfl
  · intro _ t ht
    exact Program.meets_done.mpr ⟨_, rfl, ht⟩

/-- A session that does not fit gets a marker that is settled. -/
theorem leaves_dropForQuota (hs : s.Sound) {bridgeBarrier : Bool} :
    Leaves C (dropForQuota key s.markers bridgeBarrier) s fun _ t => t.Sound := by
  unfold dropForQuota
  cases hknown : s.markers.get? key with
  | some marker => exact leaves_countQuotaDrop hs (Dict.mem_of_get? hknown) (by simp)
  | none =>
    refine meets_ensureSessionMarker isQuiet_unobserved hs.toKept (fun _ => hs.toKept)
      (fun hnew => (hs.setMarker_pending hnew).toKept) (fun marker hmarker => ?_) fun hnew => ?_
    · rw [hknown] at hmarker
      cases hmarker
    · refine leaves_countQuotaDrop (hs.setMarker_pending hnew) (Dict.mem_set.mpr (.inl rfl)) fun _ x hx heq => ?_
      exact hnew (heq ▸ hs.fenced x hx)

/-- An intake that is queued, was queued or is dropped leaves the spool sound. -/
theorem leaves_enqueueLocked (hs : s.Sound) (hauthentic : CaptureKey.authenticates intake = true)
    {bridgeBarrier : Bool} :
    Leaves SpoolRequest.Settled (enqueueLocked intake bridgeBarrier) s fun _ t => t.Sound := by
  unfold enqueueLocked
  refine meets_file_bind hs.toKept fun _ => meets_file_bind hs.toKept fun _ => ?_
  refine Program.meets_lift_of_ok (reconcile_eq hs.toKept) ?_
  refine (leaves_persistOrphanDegradation hs).bind_returns ?_
  rintro markers t ⟨rfl, hpersisted, hfound, -⟩
  have ht : t.1.Sound := ⟨hpersisted.kept, hfound rfl⟩
  split
  · next existing hexisting =>
    have hsame : existing = intake := by
      have hmem := List.mem_mergeSort.mp (List.mem_of_find?_eq_some hexisting)
      have htag := List.find?_some hexisting
      exact CaptureKey.recordTag_inj _ _ (hs.authentic existing hmem) hauthentic (by simpa using htag)
    exact meets_guard (not_not.mpr hsame) (Program.meets_done.mpr ⟨_, rfl, ht⟩)
  · split
    · exact leaves_dropForQuota ht
    · -- the condition on what is asked is that of the entry
      have hstored : ∀ u : Spool, u.Sound → intake.session ∈ u.markers →
          ((SpoolFileRequest.publishEntry intake).ask >>= fun _ => pure EnqueueDisposition.queued).Meets
            settledSetting (fun result t => ∃ a, result = .ok a ∧ t.1.Sound) (u, ()) :=
        fun u hu hmarker => meets_file_bind hu.toKept fun hsettled => Program.meets_done.mpr
          ⟨_, rfl, hu.toKept.addEntry hauthentic hmarker hsettled, hu.barrier⟩
      refine meets_ensureSessionMarker isQuiet_unobserved ht.toKept (fun _ => ht.toKept)
        (fun hnew => (ht.setMarker_pending hnew).toKept) (fun marker hmarker => ?_) fun hnew => ?_
      · exact hstored t.1 ht (Dict.mem_of_get? hmarker)
      · exact hstored _ (ht.setMarker_pending hnew) (Dict.mem_set.mpr (.inl rfl))

theorem leaves_dropBridgeFallback (hs : s.Sound) {count : ℕ} (hcount : 1 ≤ count) :
    Leaves C (dropBridgeFallback key count) s fun _ t => t.Sound := by
  unfold dropBridgeFallback
  refine meets_file_bind hs.toKept fun _ => ?_
  have hpositive : 1 ≤ droppedEvents s.dropState + count := hcount.trans (Nat.le_add_left _ _)
  -- the session that was counted last stays the same
  have hcounted : ∀ (u : Spool) (tag : String), u.Sound → u.dropState = s.dropState →
      (∃ found ∈ u.markers, CaptureKey.sessionMarkerTag found = tag) →
      (u.setDropState (some ⟨droppedEvents s.dropState + count, .spoolQuota,
        acknowledgedMarker s.dropState, some tag, hpositive⟩)).Sound := by
    intro u tag hu hdrop hfound
    refine ⟨hu.toKept.setDropState fun other hother hnamed => ?_, fun found htag => ?_⟩
    · exact hu.settled other hother (hdrop ▸ hnamed)
    · cases (show some tag = some found from htag)
      exact hfound
  rw [perform_dropState]
  dsimp only
  split
  · next tag htag =>
    refine (leaves_requireBridgeBarrier hs htag).bind_returns ?_
    rintro - t ⟨ht, -, hdrop⟩
    refine meets_write ht.toKept hpositive (Program.meets_done.mpr ⟨_, rfl, ?_⟩)
    exact hcounted t.1 tag ht hdrop (ht.barrier tag (hdrop ▸ htag))
  · next hnone =>
    have hwritten : ∀ (u : Spool) (marker : MarkerState), u.Sound → u.dropState = s.dropState →
        key ∈ u.markers →
        (writeDropState (droppedEvents s.dropState + count) .spoolQuota (acknowledgedMarker s.dropState)
            (some (CaptureKey.sessionMarkerTag key)) >>= fun _ =>
          (if marker = .pending then setSessionMarkerState key .acknowledged else pure ()) >>= fun _ =>
          pure (List.replicate count EnqueueDisposition.droppedQuota)).Meets (soundSetting C)
            (fun result t => ∃ a, result = .ok a ∧ t.1.Sound) (u, ()) := by
      intro u marker hu hdrop hkey
      have hsound := hcounted u _ hu hdrop ⟨key, hkey, rfl⟩
      refine meets_write hu.toKept hpositive ?_
      refine (leaves_acknowledgeIf hsound (by simp [Spool.setDropState])).bind_returns ?_
      intro _ t ht
      exact Program.meets_done.mpr ⟨_, rfl, ht⟩
    refine meets_ensureSessionMarker isQuiet_unobserved hs.toKept (fun _ => hs.toKept)
      (fun hnew => (hs.setMarker_pending hnew).toKept) (fun marker hmarker => ?_) fun hnew => ?_
    · exact hwritten s marker hs rfl (Dict.mem_of_get? hmarker)
    · exact hwritten _ .pending (hs.setMarker_pending hnew) rfl (Dict.mem_set.mpr (.inl rfl))

/-! ## Calls -/

/-- A call that does not raise an integrity error, and leaves the spool sound. -/
def IsSound (result : Except SpoolError α) (t : Spool × Unit) : Prop :=
  result ≠ .error .integrity ∧ t.1.Sound

theorem Leaves.isSound {program : Spooling α} {P : α → Spool → Prop} (h : Leaves C program s P)
    (hP : ∀ a t, P a t → t.Sound) : program.Meets (soundSetting C) IsSound (s, ()) := by
  refine h.mono ?_
  rintro result t ⟨a, rfl, ha⟩
  exact ⟨by simp, hP a t.1 ha⟩

theorem isSound_enqueue (hs : s.Sound) : (enqueue intake).Meets settledSetting IsSound (s, ()) := by
  unfold enqueue
  refine Program.meets_lift_bind.mpr ⟨fun _ hok => ?_, fun e he => ?_⟩
  · have hauthentic : CaptureKey.authenticates intake = true := by simpa using raiseIf_eq_ok.mp hok
    exact (leaves_enqueueLocked hs hauthentic).isSound fun _ _ h => h
  · obtain ⟨-, rfl⟩ := raiseIf_eq_error.mp he
    exact ⟨by simp, hs⟩

theorem leaves_enqueueFallback {fallback : List CaptureIntake} (hs : s.Sound)
    (hauthentic : ∀ intake ∈ fallback, CaptureKey.authenticates intake = true) :
    Leaves SpoolRequest.Settled (enqueueFallback fallback) s fun _ t => t.Sound := by
  induction fallback generalizing s with
  | nil => exact Program.meets_done.mpr ⟨_, rfl, hs⟩
  | cons intake rest ih =>
    unfold enqueueFallback
    refine (leaves_enqueueLocked hs (hauthentic intake List.mem_cons_self)).bind_returns ?_
    intro _ t ht
    refine (ih ht fun x hx => hauthentic x (List.mem_cons_of_mem intake hx)).bind_returns ?_
    intro _ u hu
    exact Program.meets_done.mpr ⟨_, rfl, hu⟩

/-- What follows a sound call, when it returns. -/
theorem isSound_bind {β : Type} {program : Spooling α} {f : α → Spooling β} {t : Spool × Unit}
    (h : program.Meets (soundSetting C) IsSound t)
    (hf : ∀ a (u : Spool), u.Sound → (f a).Meets (soundSetting C) IsSound (u, ())) :
    (program >>= f).Meets (soundSetting C) IsSound t := by
  refine Program.Meets.bind (h.mono fun result u hu => ?_)
  cases result with
  | ok a => exact hf a u.1 hu.2
  | error e => exact ⟨fun heq => hu.1 (by rw [Except.error.inj heq]), hu.2⟩

theorem isSound_pure {a : α} (hs : s.Sound) :
    (pure a : Spooling α).Meets (soundSetting C) IsSound (s, ()) := Program.meets_done.mpr ⟨by simp, hs⟩

theorem isSound_raise {error : SpoolError} (hs : s.Sound) (h : error ≠ .integrity) :
    (.raise error : Spooling α).Meets (soundSetting C) IsSound (s, ()) :=
  Program.meets_raise.mpr ⟨by simpa using h, hs⟩

theorem isSound_admitIntake (hs : s.Sound) : (admitIntake intake).Meets settledSetting IsSound (s, ()) := by
  unfold admitIntake
  refine Program.meets_lift_bind.mpr ⟨fun _ hok => ?_, fun e he => ?_⟩
  swap
  · obtain ⟨-, rfl⟩ := raiseIf_eq_error.mp he
    exact ⟨by simp, hs⟩
  have hauthentic : CaptureKey.authenticates intake = true := by simpa using raiseIf_eq_ok.mp hok
  have hqueued : (enqueueLocked intake >>= fun disposition =>
      pure (.inr disposition : CaptureAppendReceipt ⊕ EnqueueDisposition)).Meets settledSetting
        IsSound (s, ()) :=
    isSound_bind ((leaves_enqueueLocked hs hauthentic).isSound fun _ _ h => h) fun _ u hu => isSound_pure hu
  refine meets_file_bind hs.toKept fun _ => ?_
  split
  · exact hqueued
  · refine meets_append_bind hs.toKept (fun receipt => isSound_pure hs) fun e => ?_
    cases e with
    | busy => exact hqueued
    | _ => exact isSound_raise hs (by simp)

theorem isSound_admitTransport (hs : s.Sound) {chunk : CaptureTransportChunk}
    {intakes fallback : List CaptureIntake} :
    (admitTransport chunk intakes fallback).Meets settledSetting IsSound (s, ()) := by
  unfold admitTransport
  split
  · exact isSound_raise hs (by simp)
  · next first rest =>
    dsimp only
    refine Program.meets_lift_bind.mpr ⟨fun _ _ => ?_, fun e he => ?_⟩
    swap
    · obtain ⟨-, rfl⟩ := raiseIf_eq_error.mp he
      exact ⟨by simp, hs⟩
    refine Program.meets_lift_bind.mpr ⟨fun _ hok => ?_, fun e he => ?_⟩
    swap
    · obtain ⟨-, rfl⟩ := raiseIf_eq_error.mp he
      exact ⟨by simp, hs⟩
    have hauthentic : ∀ intake ∈ first :: rest, CaptureKey.authenticates intake = true := by
      have hnone := raiseIf_eq_ok.mp hok
      simpa using hnone
    have hdropped : ∀ u : Spool, u.Sound →
        (dropBridgeFallback first.session (first :: rest).length).Meets settledSetting IsSound (u, ()) :=
      fun u hu => (leaves_dropBridgeFallback hu (Nat.le_add_left 1 _)).isSound fun _ _ h => h
    refine meets_file_bind hs.toKept fun _ => ?_
    rw [perform_dropState]
    dsimp only
    split
    · next tag htag =>
      exact isSound_bind ((leaves_requireBridgeBarrier hs htag).isSound fun _ _ h => h.1) fun _ u hu =>
        hdropped u hu
    · have hbusy : (SpoolFileRequest.backlog.ask >>= fun existingEvents =>
          if maxBridgeFallbackExistingEvents < existingEvents then
            dropBridgeFallback first.session (first :: rest).length
          else enqueueFallback (first :: rest)).Meets settledSetting IsSound (s, ()) := by
        refine meets_file_bind hs.toKept fun _ => ?_
        split
        · exact hdropped s hs
        · exact (leaves_enqueueFallback hs hauthentic).isSound fun _ _ h => h
      refine meets_file_bind hs.toKept fun _ => ?_
      split
      · refine meets_appendTransportChunk_bind hs.toKept (isSound_pure hs) fun e => ?_
        cases e with
        | busy => exact hbusy
        | _ => exact isSound_raise hs (by simp)
      · exact hbusy

theorem leaves_releaseMarker (hs : s.Sound) (hkey : key ∈ markers) (horphan : s.IsOrphan key) :
    Leaves C (releaseMarker (bridgeBarrierMarker s.dropState) key markers) s fun remaining t =>
      t.Sound ∧ t.entries = s.entries ∧ t.dropState = s.dropState
        ∧ ∀ other ∈ markers, other ≠ key → other ∈ remaining := by
  unfold releaseMarker
  obtain ⟨marker, hmarker⟩ := Dict.mem_iff.mp hkey
  refine Program.meets_lift_of_ok (expect_eq_ok.mpr hmarker) ?_
  split
  · next hbarrier =>
    refine meets_file_bind hs.toKept fun _ => Program.meets_done.mpr ⟨_, rfl, ?_, rfl, rfl, ?_⟩
    · exact ⟨hs.toKept.eraseMarker horphan, hs.barrier.eraseMarker hbarrier⟩
    · exact fun other hother hne => Dict.mem_erase.mpr ⟨hne, hother⟩
  · exact Program.meets_done.mpr ⟨_, rfl, hs, rfl, rfl, fun _ hother _ => hother⟩

/-- Nothing that is drained makes the spool unsound, nor changes the drop state. -/
theorem isSound_drainEntries {total admitted : ℕ} {entries : List CaptureIntake} (hs : s.Sound)
    (hentries : ∀ intake ∈ s.entries, intake ∈ entries)
    (hmarkers : ∀ intake ∈ entries, intake.session ∈ markers) :
    (drainEntries total (bridgeBarrierMarker s.dropState) entries markers admitted).Meets (soundSetting C)
      (fun result t => IsSound result t ∧ t.1.dropState = s.dropState) (s, ()) := by
  induction entries generalizing s markers admitted with
  | nil => exact Program.meets_done.mpr ⟨⟨by simp, hs⟩, rfl⟩
  | cons intake rest ih =>
    unfold drainEntries
    refine meets_append_bind hs.toKept (fun receipt => ?_) fun e => ?_
    swap
    · cases e with
      | busy => exact Program.meets_done.mpr ⟨⟨by simp, hs⟩, rfl⟩
      | _ => exact Program.meets_raise.mpr ⟨⟨by simp, hs⟩, rfl⟩
    have herased : (s.eraseEntry intake).Sound := ⟨hs.toKept.eraseEntry, hs.barrier⟩
    have hrest : ∀ x ∈ (s.eraseEntry intake).entries, x ∈ rest := by
      intro x hx
      obtain ⟨hmem, hne⟩ := List.mem_filter.mp hx
      rcases List.mem_cons.mp (hentries x hmem) with rfl | hmem
      · simp at hne
      · exact hmem
    have hmarkers' : ∀ x ∈ rest, x.session ∈ markers :=
      fun x hx => hmarkers x (List.mem_cons_of_mem intake hx)
    have hnext : ∀ (u : Spool) (remaining : SessionMarkers), u.Sound →
        u.entries = (s.eraseEntry intake).entries → u.dropState = s.dropState →
        (∀ x ∈ rest, x.session ∈ remaining) →
        (drainEntries total (bridgeBarrierMarker s.dropState) rest remaining (admitted + 1)).Meets (soundSetting C)
          (fun result t => IsSound result t ∧ t.1.dropState = s.dropState) (u, ()) := by
      intro u remaining hu hentries' hdrop hfenced
      rw [← hdrop]
      refine ih hu (fun x hx => hrest x ?_) hfenced
      rwa [← hentries']
    refine meets_file_bind hs.toKept fun _ => ?_
    split
    · next hlast =>
      have horphan : (s.eraseEntry intake).IsOrphan intake.session := fun x hx => hlast x (hrest x hx)
      refine (leaves_releaseMarker herased (hmarkers intake List.mem_cons_self) horphan).bind_returns ?_
      rintro remaining t ⟨ht, hentries', hdrop, hothers⟩
      exact hnext t.1 remaining ht hentries' hdrop fun x hx => hothers x.session (hmarkers' x hx) (hlast x hx)
    · exact hnext _ markers herased rfl rfl hmarkers'

/-- A drain persists what health counts. -/
theorem isSound_drain (hs : s.Sound) :
    drain.Meets (soundSetting C) (fun result t => IsSound result t
      ∧ droppedEvents t.1.dropState = droppedEvents s.dropState + syntheticDrops s) (s, ()) := by
  unfold drain
  refine meets_file_bind hs.toKept fun _ => meets_file_bind hs.toKept fun _ => ?_
  refine Program.meets_lift_of_ok (reconcile_eq hs.toKept) ?_
  refine (leaves_persistOrphanDegradation hs).bind_returns ?_
  rintro markers t ⟨rfl, hpersisted, hfound, -⟩
  have ht : t.1.Sound := ⟨hpersisted.kept, hfound rfl⟩
  refine meets_file_bind ht.toKept fun _ => ?_
  refine (leaves_requireNamedBarrier ht).bind_returns ?_
  rintro - u ⟨hu, hentries, hdrop⟩
  rw [perform_dropState, perform_entries]
  dsimp only
  rw [← hdrop]
  have hsubset : ∀ intake ∈ u.1.entries, intake ∈ s.entries.mergeSort drainsBefore := by
    rw [hentries, hpersisted.entries]
    exact fun intake hmem => List.mem_mergeSort.mpr hmem
  have hmarkers : ∀ intake ∈ s.entries.mergeSort drainsBefore, intake.session ∈ t.1.markers := by
    intro intake hmem
    refine hpersisted.kept.fenced intake ?_
    rw [hpersisted.entries]
    exact List.mem_mergeSort.mp hmem
  refine (isSound_drainEntries hu hsubset hmarkers).mono ?_
  rintro result v ⟨hsound, hsame⟩
  refine ⟨hsound, ?_⟩
  rw [hsame, hdrop, hpersisted.dropped]

/-- Clearing deletes every marker before it deletes the drop state. -/
theorem isSound_clearDropHealthIfEmpty (hs : s.Sound) :
    clearDropHealthIfEmpty.Meets (soundSetting C) IsSound (s, ()) := by
  unfold clearDropHealthIfEmpty
  refine meets_file_bind hs.toKept fun _ => meets_file_bind hs.toKept fun _ => ?_
  refine Program.meets_lift_of_ok (reconcile_eq hs.toKept) ?_
  split
  · exact isSound_pure hs
  · next hempty =>
    have hnone : s.entries = [] := by
      have hsorted : s.entries.mergeSort drainsBefore = [] := not_not.mp hempty
      have hperm := List.mergeSort_perm s.entries drainsBefore
      rw [hsorted] at hperm
      exact List.nil_perm.mp hperm
    refine (leaves_persistOrphanDegradation hs).bind_returns ?_
    rintro markers t ⟨rfl, hpersisted, -, hcleared⟩
    have hentries : t.1.entries = [] := by rw [hpersisted.entries, hnone]
    have hmarkers : ∀ key, key ∉ t.1.markers := by
      refine fun key => hcleared rfl key fun intake hmem => ?_
      rw [hentries] at hmem
      cases hmem
    -- nothing is left that the drop state could be about
    have hsound : (t.1.setDropState none).Sound := by
      refine ⟨⟨hpersisted.kept.authentic, hpersisted.kept.fenced, fun key hkey => ?_, fun _ _ h => by cases h⟩,
        fun _ h => by cases h⟩
      exact absurd (Dict.mem_of_get? hkey) (hmarkers key)
    refine meets_file_bind hpersisted.kept fun _ => ?_
    rw [perform_dropState]
    dsimp only
    split
    · exact meets_file_bind hpersisted.kept fun _ => isSound_pure hsound
    · next hdrop =>
      refine isSound_pure ?_
      have heq : t.1.setDropState none = t.1 := by
        unfold Spool.setDropState
        rw [← not_not.mp hdrop]
      exact heq ▸ hsound

theorem isSound_observeHealth (hs : s.Sound) : observeHealth.Meets (soundSetting C) IsSound (s, ()) := by
  unfold observeHealth
  refine (leaves_health hs).bind_returns ?_
  rintro health t ⟨rfl, -⟩
  refine Program.meets_lift_bind.mpr ⟨fun _ _ => isSound_pure hs, fun e he => ?_⟩
  obtain ⟨-, rfl⟩ := raiseIf_eq_error.mp he
  exact ⟨by simp, hs⟩

end CaptureSpool

/-- Every call of a sound spool keeps it sound, and raises no integrity error. -/
theorem SpoolCall.isSound (hs : s.Sound) (call : SpoolCall) :
    call.program.Meets settledSetting IsSound (s, ()) := by
  cases call with
  | enqueue intake => exact isSound_bind (isSound_enqueue hs) fun _ _ hu => isSound_pure hu
  | admitIntake intake => exact isSound_bind (isSound_admitIntake hs) fun _ _ hu => isSound_pure hu
  | admitTransport chunk intakes fallback =>
    exact isSound_bind (isSound_admitTransport hs) fun _ _ hu => isSound_pure hu
  | drain =>
    refine isSound_bind ((isSound_drain hs).mono fun _ _ h => h.1) fun _ _ hu => isSound_pure hu
  | clearDropHealthIfEmpty =>
    exact isSound_bind (isSound_clearDropHealthIfEmpty hs) fun _ _ hu => isSound_pure hu
  | health | auditReadOnly =>
    refine isSound_bind ((leaves_health hs).isSound ?_) fun _ _ hu => isSound_pure hu
    rintro _ _ ⟨rfl, -⟩
    exact hs
  | observeHealth => exact isSound_bind (isSound_observeHealth hs) fun _ _ hu => isSound_pure hu

end SalienceGate
