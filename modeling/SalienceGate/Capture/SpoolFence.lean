import Mathlib.Algebra.Order.BigOperators.Group.List
import SalienceGate.Capture.SpoolSteps

/-!
# The fence of a spool

A session with a marker is fenced: nothing of it is given to the store, but what a drain takes from the
spool. Every entry is of a fenced session, and is deleted only after the store took it. This holds at
every file that a call writes, so a crash between two of them cannot break it; it needs none of the
checks that a call makes of the markers and the drop state.

The trace of a call remembers the call, the intake that the store took last, and how many sessions were
counted as incomplete.
-/

namespace SalienceGate

open Checked CaptureSpool

section

variable [CaptureKey]

/-! ## Fenced spools -/

/-- What every step of a call keeps of a spool. -/
structure Spool.Fenced (s : Spool) : Prop where
  fenced : ∀ intake ∈ s.entries, intake.session ∈ s.markers
  nodup : s.entries.Nodup
  events : s.entries.length ≤ maxCaptureSpoolEvents
  bytes : (s.entries.map framedBytes).sum ≤ maxCaptureSpoolBytes

theorem Spool.fenced_empty : Spool.empty.Fenced where
  fenced _ h := by cases h
  nodup := .nil
  events := Nat.zero_le _
  bytes := Nat.zero_le _

namespace Spool

variable {s : Spool} {key : SessionKey} {marker : MarkerState} {intake : CaptureIntake}

theorem Fenced.setMarker (h : s.Fenced) : (s.setMarker key marker).Fenced where
  fenced x hx := Dict.mem_set_of_mem (h.fenced x hx)
  nodup := h.nodup
  events := h.events
  bytes := h.bytes

theorem Fenced.eraseMarker (h : s.Fenced) (hkey : s.IsOrphan key) : (s.eraseMarker key).Fenced where
  fenced x hx := Dict.mem_erase.mpr ⟨hkey x hx, h.fenced x hx⟩
  nodup := h.nodup
  events := h.events
  bytes := h.bytes

theorem Fenced.setDropState (h : s.Fenced) (state : Option DropState) : (s.setDropState state).Fenced where
  fenced := h.fenced
  nodup := h.nodup
  events := h.events
  bytes := h.bytes

theorem Fenced.eraseEntry (h : s.Fenced) : (s.eraseEntry intake).Fenced := by
  have hsublist : (s.eraseEntry intake).entries.Sublist s.entries := List.filter_sublist
  refine ⟨fun x hx => h.fenced x (hsublist.subset hx), h.nodup.sublist hsublist, ?_, ?_⟩
  · exact hsublist.length_le.trans h.events
  · exact ((hsublist.map framedBytes).sum_le_sum fun _ _ => Nat.zero_le _).trans h.bytes

/-- An entry that fits, of a session with a marker. -/
theorem Fenced.addEntry (h : s.Fenced) (hnew : intake ∉ s.entries) (hmarker : intake.session ∈ s.markers)
    (hevents : s.entries.length < maxCaptureSpoolEvents)
    (hbytes : (s.entries.map framedBytes).sum + framedBytes intake ≤ maxCaptureSpoolBytes) :
    (s.addEntry intake).Fenced where
  fenced x hx := by
    rcases List.mem_append.mp hx with hx | hx
    · exact h.fenced x hx
    · rw [List.mem_singleton.mp hx]
      exact hmarker
  nodup := by
    refine List.nodup_append'.mpr ⟨h.nodup, List.nodup_singleton intake, fun x hx hx' => ?_⟩
    rw [List.mem_singleton.mp hx'] at hx
    exact hnew hx
  events := by
    have hlength : (s.addEntry intake).entries.length = s.entries.length + 1 := List.length_append
    omega
  bytes := by
    have hsum : ((s.addEntry intake).entries.map framedBytes).sum
        = (s.entries.map framedBytes).sum + framedBytes intake := by
      simp [Spool.addEntry]
    omega

end Spool

/-- The trace of a call. -/
structure SpoolTrace where
  call : SpoolCall
  /-- The intake that the store took last. -/
  taken : Option CaptureIntake
  /-- How many sessions were counted because a call that would have queued an intake stopped. -/
  incomplete : ℕ

namespace SpoolTrace

/-- The trace of a call that begins. -/
def start (call : SpoolCall) : SpoolTrace := ⟨call, none, 0⟩

omit [CaptureKey] in
/-- What a call is answered is observed. -/
def observe (g : SpoolTrace) : (request : SpoolRequest) → Except SpoolError request.Reply → SpoolTrace
  | .append _ intake, .ok _ => { g with taken := some intake }
  | .file (.publishDropState state), _ =>
    if state.lastDropReason = .spoolIncomplete then { g with incomplete := g.incomplete + 1 } else g
  | _, _ => g

end SpoolTrace

/-- The chunk of a call is of the session of its fallback. -/
def SpoolCall.Routed : SpoolCall → Prop
  | .admitTransport chunk _ fallback => ∀ intake ∈ fallback, intake.session = chunk.session
  | _ => True

/-- What the fence and the queue need of a request. -/
def SpoolRequest.Fenced (s : Spool) (g : SpoolTrace) : SpoolRequest → Prop
  | .file (.publishEntry intake) => intake ∉ s.entries ∧ intake.session ∈ s.markers
      ∧ s.entries.length < maxCaptureSpoolEvents
      ∧ (s.entries.map framedBytes).sum + framedBytes intake ≤ maxCaptureSpoolBytes
  | .file (.deleteEntry intake) => g.taken = some intake
  | .file (.deleteMarker key) => s.IsOrphan key
  | .file (.publishDropState state) => droppedEvents s.dropState ≤ state.droppedEvents
  | .file .deleteDropState => s.entries = [] ∧ g.call = .clearDropHealthIfEmpty
  | .append .direct intake => intake.session ∉ s.markers
  | .append .spoolDrain _ => g.call = .drain
  | .appendTransportChunk chunk _ => g.call.Routed → chunk.session ∉ s.markers
  | _ => True

/-- A call alone with a spool that it keeps fenced. -/
abbrev fenceSetting :=
  spoolSetting (fun _ _ => True) SpoolTrace.observe fun s g request => s.Fenced ∧ request.Fenced s g

omit [CaptureKey] in
theorem isQuiet_observe : IsQuiet SpoolTrace.observe := by
  intro g request reply h
  cases request <;> first | rfl | cases h

variable {α β : Type} {s t u : Spool} {g g' g'' : SpoolTrace}

namespace CaptureSpool

/-- A program that keeps the spool fenced, with what holds when it returns. -/
abbrev Yields (program : Spooling α) (s : Spool) (g : SpoolTrace) (P : α → Spool → SpoolTrace → Prop) :
    Prop :=
  program.Meets fenceSetting (fun result t => t.1.Fenced ∧ ∀ a, result = .ok a → P a t.1 t.2) (s, g)

variable {P : α → Spool → SpoolTrace → Prop} {Q : β → Spool → SpoolTrace → Prop}

theorem yields_pure {a : α} (hs : s.Fenced) (h : P a s g) : Yields (pure a) s g P := by
  refine Program.meets_done.mpr ⟨hs, fun b hb => ?_⟩
  cases hb
  exact h

theorem yields_raise {error : SpoolError} (hs : s.Fenced) : Yields (.raise error) s g P :=
  Program.meets_raise.mpr ⟨hs, fun _ h => by cases h⟩

theorem Yields.bind {program : Spooling α} {f : α → Spooling β} (h : Yields program s g P)
    (hf : ∀ a t g', t.Fenced → P a t g' → Yields (f a) t g' Q) : Yields (program >>= f) s g Q := by
  refine Program.Meets.bind (h.mono fun result t ht => ?_)
  obtain ⟨hfenced, hP⟩ := ht
  cases result with
  | ok a => exact hf a t.1 t.2 hfenced (hP a rfl)
  | error e => exact ⟨hfenced, fun _ h => by cases h⟩

theorem Yields.weaken {program : Spooling α} {P' : α → Spool → SpoolTrace → Prop} (h : Yields program s g P)
    (hP : ∀ a t g', P a t g' → P' a t g') : Yields program s g P' :=
  h.mono fun _ t ht => ⟨ht.1, fun a ha => hP a t.1 t.2 (ht.2 a ha)⟩

/-- What a check lets through. -/
theorem yields_lift_bind {x : Except SpoolError β} {f : β → Spooling α} (hs : s.Fenced)
    (hf : ∀ b, x = .ok b → Yields (f b) s g P) : Yields (.lift x >>= f) s g P :=
  Program.meets_lift_bind.mpr ⟨hf, fun _ _ => ⟨hs, fun _ h => by cases h⟩⟩

/-- What is written, and what follows it. -/
theorem yields_write_bind {request : SpoolFileRequest} {reply : request.Reply} {f : request.Reply → Spooling α}
    (hs : s.Fenced) (hwrite : s.perform request = (reply, t))
    (hfenced : SpoolRequest.Fenced s g (.file request))
    (hf : Yields (f reply) t (g.observe (.file request) (.ok reply)) P) :
    Yields (request.ask >>= f) s g P := by
  refine meets_file_bind ⟨hs, hfenced⟩ fun _ => ?_
  rw [hwrite]
  exact hf

/-- What is read, and what follows it. -/
theorem yields_read_bind {request : SpoolFileRequest} {reply : request.Reply} {f : request.Reply → Spooling α}
    (hs : s.Fenced) (hread : s.perform request = (reply, s)) (hquiet : request.isQuiet = true)
    (hfenced : SpoolRequest.Fenced s g (.file request)) (hf : Yields (f reply) s g P) :
    Yields (request.ask >>= f) s g P := by
  refine meets_quiet_bind isQuiet_observe hquiet ⟨hs, hfenced⟩ ?_
  rw [hread]
  exact hf

/-! ## Markers -/

/-- Nothing changed but markers. -/
structure Still (s : Spool) (g : SpoolTrace) (t : Spool) (g' : SpoolTrace) : Prop where
  entries : t.entries = s.entries
  dropState : t.dropState = s.dropState
  trace : g' = g

omit [CaptureKey] in
theorem Still.refl : Still s g s g := ⟨rfl, rfl, rfl⟩

omit [CaptureKey] in
theorem Still.trans (h : Still s g t g') (h' : Still t g' u g'') : Still s g u g'' :=
  ⟨h'.entries.trans h.entries, h'.dropState.trans h.dropState, h'.trace.trans h.trace⟩

omit [CaptureKey] in
theorem Still.isOrphan {key : SessionKey} (h : Still s g t g') (hkey : s.IsOrphan key) : t.IsOrphan key := by
  unfold Spool.IsOrphan
  rw [h.entries]
  exact hkey

variable {key : SessionKey} {marker : MarkerState} {markers : SessionMarkers} {remove : Bool}

theorem yields_setSessionMarkerState (hs : s.Fenced) :
    Yields (setSessionMarkerState key marker) s g fun _ => Still s g := by
  unfold setSessionMarkerState
  refine meets_file_bind ⟨hs, trivial⟩ fun _ => meets_file_bind ⟨hs.setMarker, trivial⟩ fun _ => ?_
  have hread : (s.setMarker key marker).markers.get? key = some marker := Dict.get?_set_self
  exact meets_last_guard (not_not.mpr hread) ⟨hs.setMarker, fun _ _ => ⟨rfl, rfl, rfl⟩⟩

theorem yields_settleMarker (hs : s.Fenced) (horphan : remove = true → s.IsOrphan key) :
    Yields (settleMarker key marker markers remove) s g fun _ => Still s g := by
  unfold settleMarker
  split
  · next hremove =>
    have herased := hs.eraseMarker (horphan hremove)
    exact yields_write_bind hs rfl (horphan hremove) (yields_pure herased ⟨rfl, rfl, rfl⟩)
  · split
    · exact (yields_setSessionMarkerState hs).bind fun _ _ _ ht hstill => yields_pure ht hstill
    · exact yields_pure hs .refl

/-- The sessions that remain to be counted are among those that were. -/
theorem yields_settleBridgeBarrier {state : Option DropState} {orphans : List SessionKey} {clear : Bool}
    (hs : s.Fenced) (horphans : ∀ key ∈ orphans, s.IsOrphan key) :
    Yields (settleBridgeBarrier state orphans markers clear) s g fun settled t g' =>
      settled.1 ⊆ orphans ∧ Still s g t g' := by
  unfold settleBridgeBarrier
  split
  · exact yields_pure hs ⟨List.Subset.refl _, .refl⟩
  · split
    · exact yields_raise hs
    · refine (yields_settleMarker hs (by simp)).bind fun _ t g' ht hstill => ?_
      split
      · next key _ _ _ horphan =>
        have hrest : orphans.filter (· ≠ key) ⊆ orphans := List.filter_subset_self _
        cases clear with
        | false => exact yields_pure ht ⟨hrest, hstill⟩
        | true =>
          rw [if_pos rfl]
          have hkey := hstill.isOrphan (horphans key horphan)
          refine (yields_settleMarker ht fun _ => hkey).bind fun _ u g'' hu hstill' => ?_
          exact yields_pure hu ⟨hrest, hstill.trans hstill'⟩
      · exact yields_pure ht ⟨List.Subset.refl _, hstill⟩

theorem yields_settleAcknowledged {state : Option DropState} {orphans remaining : List SessionKey}
    (hs : s.Fenced) (horphans : ∀ key ∈ orphans, s.IsOrphan key) :
    Yields (settleAcknowledged state orphans remaining markers remove) s g fun settled t g' =>
      settled.1 ⊆ remaining ∧ Still s g t g' := by
  unfold settleAcknowledged
  split
  · refine yields_lift_bind hs fun _ hchecked => ?_
    have horphan := not_not.mp (raiseIf_eq_ok.mp hchecked)
    refine (yields_settleMarker hs fun _ => horphans _ horphan).bind fun _ t g' ht hstill => ?_
    exact yields_lift_bind ht fun _ _ => yields_pure ht ⟨List.filter_subset_self _, hstill⟩
  · exact yields_pure hs ⟨List.Subset.refl _, .refl⟩

/-! ## Counting -/

/-- The drop state counts so many more intakes, but for the sessions that were counted as incomplete. -/
structure Counts (k : ℕ) (s : Spool) (g : SpoolTrace) (t : Spool) (g' : SpoolTrace) : Prop where
  call : g'.call = g.call
  dropped : droppedEvents t.dropState + g.incomplete = droppedEvents s.dropState + g'.incomplete + k

omit [CaptureKey] in
theorem Still.counts (h : Still s g t g') : Counts 0 s g t g' := by
  refine ⟨by rw [h.trace], ?_⟩
  rw [h.trace, h.dropState]
  rfl

omit [CaptureKey] in
theorem Counts.trans {k l : ℕ} (h : Counts k s g t g') (h' : Counts l t g' u g'') :
    Counts (k + l) s g u g'' := by
  have hfirst := h.dropped
  have hsecond := h'.dropped
  exact ⟨h'.call.trans h.call, by omega⟩

/-- A drop state that is written counts no fewer intakes. -/
theorem yields_writeDropState {dropped : ℕ} {reason : DropReason} {acknowledged barrier : Option String}
    (hs : s.Fenced) (hdropped : droppedEvents s.dropState ≤ dropped) :
    Yields (writeDropState dropped reason acknowledged barrier) s g fun state t g' =>
      state = t.dropState ∧ t.entries = s.entries ∧ droppedEvents t.dropState = dropped ∧ g'.call = g.call
        ∧ g'.incomplete = g.incomplete + if reason = .spoolIncomplete then 1 else 0 := by
  unfold writeDropState
  split
  · refine yields_write_bind hs rfl hdropped (yields_pure (hs.setDropState _) ⟨rfl, rfl, rfl, ?_⟩)
    unfold SpoolTrace.observe
    dsimp only
    split <;> exact ⟨rfl, rfl⟩
  · exact yields_raise hs

theorem yields_countOrphan {state : Option DropState} (hs : s.Fenced) (hstate : state = s.dropState) :
    Yields (countOrphan key marker state) s g fun state t g' =>
      state = t.dropState ∧ t.entries = s.entries ∧ Counts 0 s g t g' := by
  subst hstate
  unfold countOrphan
  dsimp only
  split
  · refine (yields_writeDropState hs (Nat.le_add_right _ 1)).weaken ?_
    rintro state t g' ⟨hstate, hentries, hdropped, hcall, hincomplete⟩
    rw [if_pos rfl] at hincomplete
    exact ⟨hstate, hentries, hcall, by omega⟩
  · exact yields_pure hs ⟨rfl, rfl, Still.refl.counts⟩

theorem yields_settleOrphans {keys : List SessionKey} {state : Option DropState} (hs : s.Fenced)
    (hkeys : ∀ key ∈ keys, s.IsOrphan key) (hstate : state = s.dropState) :
    Yields (settleOrphans remove keys state markers) s g fun _ t g' =>
      t.entries = s.entries ∧ Counts 0 s g t g' := by
  induction keys generalizing s g state markers with
  | nil => exact yields_pure hs ⟨rfl, Still.refl.counts⟩
  | cons key rest ih =>
    unfold settleOrphans
    refine yields_lift_bind hs fun marker _ => yields_lift_bind hs fun _ _ => ?_
    refine (yields_countOrphan hs hstate).bind ?_
    rintro state t g' ht ⟨rfl, hentries, hcounts⟩
    have hkeys' : ∀ other ∈ key :: rest, t.IsOrphan other := by
      unfold Spool.IsOrphan
      rw [hentries]
      exact hkeys
    refine (yields_settleMarker ht fun _ => hkeys' key List.mem_cons_self).bind fun _ u g'' hu hstill => ?_
    have hkeys'' : ∀ other ∈ rest, u.IsOrphan other :=
      fun other hother => hstill.isOrphan (hkeys' other (List.mem_cons_of_mem key hother))
    refine (ih hu hkeys'' hstill.dropState.symm).weaken ?_
    rintro _ v g₃ ⟨hentries', hcounts'⟩
    exact ⟨hentries'.trans (hstill.entries.trans hentries), (hcounts.trans hstill.counts).trans hcounts'⟩

/-- What stopped calls left is counted, and no entry is touched. -/
theorem yields_persistOrphanDegradation {orphans : List SessionKey} {clear : Bool} (hs : s.Fenced)
    (horphans : ∀ key ∈ orphans, s.IsOrphan key) :
    Yields (persistOrphanDegradation orphans markers remove clear) s g fun _ t g' =>
      t.entries = s.entries ∧ Counts 0 s g t g' := by
  unfold persistOrphanDegradation
  split
  · exact yields_pure hs ⟨rfl, Still.refl.counts⟩
  · refine yields_read_bind hs rfl rfl trivial ?_
    refine (yields_settleBridgeBarrier hs horphans).bind ?_
    rintro barred t g' ht ⟨hbarred, hstill⟩
    have horphans' : ∀ key ∈ orphans, t.IsOrphan key := fun key h => hstill.isOrphan (horphans key h)
    refine (yields_settleAcknowledged ht horphans').bind ?_
    rintro settled u g'' hu ⟨hsettled, hstill'⟩
    have hrest : ∀ key ∈ settled.1.mergeSort sessionBefore, u.IsOrphan key := by
      intro key hkey
      exact hstill'.isOrphan (horphans' key (hbarred (hsettled (List.mem_mergeSort.mp hkey))))
    have hstate : u.dropState = s.dropState := hstill'.dropState.trans hstill.dropState
    refine (yields_settleOrphans hu hrest hstate.symm).weaken ?_
    rintro _ v g₃ ⟨hentries, hcounts⟩
    exact ⟨hentries.trans (hstill'.entries.trans hstill.entries),
      (hstill.counts.trans hstill'.counts).trans hcounts⟩

/-! ## Reading -/

theorem isOrphan_of_reconcile {orphans : List SessionKey}
    (h : reconcileSessionMarkers (s.entries.mergeSort drainsBefore) markers = .ok orphans) :
    ∀ key ∈ orphans, s.IsOrphan key := by
  unfold reconcileSessionMarkers at h
  obtain ⟨-, h⟩ := raiseIf_bind_eq_ok.mp h
  cases h
  intro key hkey intake hmem
  have horphan := of_decide_eq_true (List.mem_filter.mp hkey).2
  exact horphan intake (List.mem_mergeSort.mpr hmem)

theorem yields_health (hs : s.Fenced) : Yields health s g fun _ => Still s g := by
  unfold health
  refine yields_read_bind hs rfl rfl trivial (yields_read_bind hs rfl rfl trivial ?_)
  refine yields_lift_bind hs fun orphans _ => yields_read_bind hs rfl rfl trivial ?_
  exact Program.Meets.lift fun t ht => ht ▸ ⟨hs, fun _ _ => .refl⟩

theorem yields_observeHealth (hs : s.Fenced) : Yields observeHealth s g fun _ => Still s g := by
  unfold observeHealth
  refine (yields_health hs).bind fun _ t g' ht hstill => ?_
  exact yields_lift_bind ht fun _ _ => yields_pure ht hstill

theorem yields_requireBridgeBarrier {tag : String} (hs : s.Fenced) :
    Yields (requireBridgeBarrier tag) s g fun _ => Still s g := by
  unfold requireBridgeBarrier
  refine yields_read_bind hs rfl rfl trivial ?_
  split
  · exact yields_raise hs
  · exact yields_setSessionMarkerState hs
  · exact yields_pure hs .refl

theorem yields_requireNamedBarrier {state : Option DropState} (hs : s.Fenced) :
    Yields (requireNamedBarrier state) s g fun _ => Still s g := by
  unfold requireNamedBarrier
  split
  · exact yields_requireBridgeBarrier hs
  · exact yields_pure hs .refl

/-- The session has a marker after it was ensured. -/
theorem yields_ensureSessionMarker (hs : s.Fenced) :
    Yields (ensureSessionMarker key) s g fun _ t g' => Still s g t g' ∧ key ∈ t.markers := by
  unfold ensureSessionMarker
  refine yields_read_bind hs rfl rfl trivial ?_
  split
  · next marker hmarker => exact yields_pure hs ⟨.refl, Dict.mem_of_get? hmarker⟩
  · unfold setSessionMarkerState
    simp only [Program.bind_assoc]
    refine yields_write_bind hs rfl trivial (yields_read_bind hs.setMarker rfl rfl trivial ?_)
    refine yields_lift_bind hs.setMarker fun _ _ => yields_pure hs.setMarker ⟨⟨rfl, rfl, rfl⟩, ?_⟩
    exact Dict.mem_set.mpr (.inl rfl)

/-! ## Queueing -/

variable {intake : CaptureIntake} {bridgeBarrier : Bool}

theorem yields_acknowledgeIf {c : Prop} [Decidable c] (hs : s.Fenced) :
    Yields (if c then setSessionMarkerState key .acknowledged else pure ()) s g fun _ => Still s g := by
  split
  · exact yields_setSessionMarkerState hs
  · exact yields_pure hs .refl

/-- An intake that is dropped is counted once. -/
theorem yields_countQuotaDrop {known : Option MarkerState} (hs : s.Fenced) :
    Yields (countQuotaDrop key known marker bridgeBarrier) s g fun disposition t g' =>
      disposition = .droppedQuota ∧ t.entries = s.entries ∧ Counts 1 s g t g' := by
  unfold countQuotaDrop
  refine yields_read_bind hs rfl rfl trivial ?_
  refine (yields_writeDropState hs (Nat.le_add_right _ 1)).bind ?_
  rintro _ t g' ht ⟨-, hentries, hdropped, hcall, hincomplete⟩
  rw [if_neg (by simp)] at hincomplete
  have hcounts : Counts 1 s g t g' := ⟨hcall, by omega⟩
  refine (yields_acknowledgeIf ht).bind fun _ u g'' hu hstill => ?_
  exact yields_pure hu ⟨rfl, hstill.entries.trans hentries, hcounts.trans hstill.counts⟩

theorem yields_dropForQuota (hs : s.Fenced) :
    Yields (dropForQuota key markers bridgeBarrier) s g fun disposition t g' =>
      disposition = .droppedQuota ∧ t.entries = s.entries ∧ Counts 1 s g t g' := by
  unfold dropForQuota
  split
  · exact yields_countQuotaDrop hs
  · refine (yields_ensureSessionMarker hs).bind ?_
    rintro marker t g' ht ⟨hstill, -⟩
    refine (yields_countQuotaDrop ht).weaken ?_
    rintro disposition u g'' ⟨hdropped, hentries, hcounts⟩
    refine ⟨hdropped, hentries.trans hstill.entries, ?_⟩
    have hboth := hstill.counts.trans hcounts
    rwa [Nat.zero_add] at hboth

/-- What a call that queues intakes leaves: it keeps the entries, has those that it queued, and counted
those that it dropped. -/
structure Queues (intakes : List CaptureIntake) (s : Spool) (g : SpoolTrace)
    (dispositions : List EnqueueDisposition) (t : Spool) (g' : SpoolTrace) : Prop where
  entries : ∀ intake ∈ s.entries, intake ∈ t.entries
  queued : ∀ intake disposition, (intake, disposition) ∈ intakes.zip dispositions →
    disposition ≠ .droppedQuota → intake ∈ t.entries
  counts : Counts (dispositions.count .droppedQuota) s g t g'

/-- An intake that is queued fits, of a session with a marker. -/
theorem yields_enqueueLocked (hs : s.Fenced) :
    Yields (enqueueLocked intake bridgeBarrier) s g fun disposition =>
      Queues [intake] s g [disposition] := by
  unfold enqueueLocked
  refine yields_read_bind hs rfl rfl trivial (yields_read_bind hs rfl rfl trivial ?_)
  refine yields_lift_bind hs fun orphans horphans => ?_
  refine (yields_persistOrphanDegradation hs (isOrphan_of_reconcile horphans)).bind ?_
  rintro markers t g' ht ⟨hentries, hcounts⟩
  have hkept : ∀ u : Spool, u.entries = t.entries → ∀ x ∈ s.entries, x ∈ u.entries := by
    intro u hu x hx
    rwa [hu, hentries]
  split
  · next existing hexisting =>
    refine yields_lift_bind ht fun _ hsame => yields_pure ht ⟨hkept t rfl, ?_, hcounts⟩
    have hmem := List.mem_mergeSort.mp (List.mem_of_find?_eq_some hexisting)
    rw [not_not.mp (raiseIf_eq_ok.mp hsame), ← hentries] at hmem
    intro x disposition hx _
    rw [(Prod.mk.inj (List.mem_singleton.mp hx)).1]
    exact hmem
  · next hnone =>
    have hnew : intake ∉ t.entries := by
      rw [hentries]
      intro hmem
      have htags := List.find?_eq_none.mp hnone intake (List.mem_mergeSort.mpr hmem)
      simp at htags
    split
    · refine (yields_dropForQuota ht).weaken ?_
      rintro _ u g'' ⟨rfl, hsame, hdropped⟩
      refine ⟨hkept u hsame, fun x disposition hx hne => ?_, ?_⟩
      · exact absurd (Prod.mk.inj (List.mem_singleton.mp hx)).2 hne
      · have hboth := hcounts.trans hdropped
        rwa [Nat.zero_add] at hboth
    · next hfits =>
      obtain ⟨hevents, hbytes⟩ := not_or.mp hfits
      have hperm : (s.entries.mergeSort drainsBefore).Perm t.entries := by
        rw [hentries]
        exact List.mergeSort_perm s.entries drainsBefore
      rw [hperm.length_eq, Nat.not_le] at hevents
      rw [(hperm.map framedBytes).sum_eq, Nat.not_lt] at hbytes
      refine (yields_ensureSessionMarker ht).bind ?_
      rintro _ u g'' hu ⟨hstill, hmarker⟩
      rw [← hstill.entries] at hnew hevents hbytes
      refine yields_write_bind hu rfl ⟨hnew, hmarker, hevents, hbytes⟩ ?_
      refine yields_pure (hu.addEntry hnew hmarker hevents hbytes) ⟨fun x hx => ?_, fun x _ hx _ => ?_, ?_⟩
      · exact List.mem_append_left _ (hkept u hstill.entries x hx)
      · rw [(Prod.mk.inj (List.mem_singleton.mp hx)).1]
        exact List.mem_append_right _ (List.mem_singleton.mpr rfl)
      · have hboth := hcounts.trans hstill.counts
        exact ⟨hboth.call, hboth.dropped⟩

/-- A fallback that is dropped is counted as a whole. -/
theorem yields_dropBridgeFallback {count : ℕ} (intakes : List CaptureIntake) (hs : s.Fenced) :
    Yields (dropBridgeFallback key count) s g (Queues intakes s g) := by
  unfold dropBridgeFallback
  have hdropped : ∀ t g', t.entries = s.entries → Counts count s g t g' →
      Queues intakes s g (List.replicate count .droppedQuota) t g' := by
    intro t g' hentries hcounts
    refine ⟨fun x hx => hentries ▸ hx, fun x disposition hx hne => ?_, ?_⟩
    · exact absurd (List.eq_of_mem_replicate (List.of_mem_zip hx).2) hne
    · rwa [List.count_replicate_self]
  refine yields_read_bind hs rfl rfl trivial ?_
  split
  · refine (yields_requireBridgeBarrier hs).bind fun _ t g' ht hstill => ?_
    have hle : droppedEvents t.dropState ≤ droppedEvents s.dropState + count := by
      rw [hstill.dropState]
      exact Nat.le_add_right _ count
    refine (yields_writeDropState ht hle).bind ?_
    rintro _ u g'' hu ⟨-, hentries, hwritten, hcall, hincomplete⟩
    rw [if_neg (by simp), Nat.add_zero, hstill.trace] at hincomplete
    refine yields_pure hu (hdropped u g'' (hentries.trans hstill.entries) ⟨?_, by omega⟩)
    rw [hcall, hstill.trace]
  · refine (yields_ensureSessionMarker hs).bind ?_
    rintro marker t g' ht ⟨hstill, -⟩
    have hle : droppedEvents t.dropState ≤ droppedEvents s.dropState + count := by
      rw [hstill.dropState]
      exact Nat.le_add_right _ count
    refine (yields_writeDropState ht hle).bind ?_
    rintro _ u g'' hu ⟨-, hentries, hwritten, hcall, hincomplete⟩
    rw [if_neg (by simp), Nat.add_zero, hstill.trace] at hincomplete
    rw [hstill.trace] at hcall
    have hcounts : Counts count s g u g'' := ⟨hcall, by omega⟩
    refine (yields_acknowledgeIf hu).bind fun _ v g₃ hv hstill' => ?_
    refine yields_pure hv (hdropped v g₃ ?_ (hcounts.trans hstill'.counts))
    exact hstill'.entries.trans (hentries.trans hstill.entries)

theorem yields_enqueueFallback {fallback : List CaptureIntake} (hs : s.Fenced) :
    Yields (enqueueFallback fallback) s g (Queues fallback s g) := by
  induction fallback generalizing s g with
  | nil => exact yields_pure hs ⟨fun _ h => h, fun _ _ h => (by cases h), Still.refl.counts⟩
  | cons intake rest ih =>
    unfold enqueueFallback
    refine (yields_enqueueLocked hs).bind fun disposition t g' ht hfirst => ?_
    refine (ih ht).bind fun dispositions u g'' hu hrest => ?_
    refine yields_pure hu ⟨fun x hx => hrest.entries x (hfirst.entries x hx), ?_, ?_⟩
    · intro x disposition' hx hne
      rcases List.mem_cons.mp hx with hx | hx
      · exact hrest.entries x (hfirst.queued x disposition' (List.mem_singleton.mpr hx) hne)
      · exact hrest.queued x disposition' hx hne
    · have hboth := hfirst.counts.trans hrest.counts
      rwa [← List.count_append] at hboth

/-! ## Admission -/

/-- What the store answers to an intake, and what follows it. -/
theorem yields_append_bind {source : CaptureAdmissionSource}
    {f : Except SpoolError CaptureAppendReceipt → Spooling α} (hs : s.Fenced)
    (hfenced : SpoolRequest.Fenced s g (.append source intake))
    (hok : ∀ receipt, Yields (f (.ok receipt)) s { g with taken := some intake } P)
    (herror : ∀ e, Yields (f (.error (.store e))) s g P) :
    Yields ((Program.request (SpoolRequest.append source intake) : Spooling CaptureAppendReceipt).attempt
      >>= f) s g P :=
  meets_append_bind ⟨hs, hfenced⟩ hok herror

/-- The dispositions of what a call admitted. -/
def dispositionsOf : CaptureAppendReceipt ⊕ EnqueueDisposition → List EnqueueDisposition
  | .inl _ => []
  | .inr disposition => [disposition]

theorem yields_admitIntake (hs : s.Fenced) :
    Yields (admitIntake intake) s g fun receipt => Queues [intake] s g (dispositionsOf receipt) := by
  have hqueued : Yields (enqueueLocked intake >>= fun disposition =>
      pure (.inr disposition : CaptureAppendReceipt ⊕ EnqueueDisposition)) s g
      fun receipt => Queues [intake] s g (dispositionsOf receipt) :=
    (yields_enqueueLocked hs).bind fun _ _ _ ht hqueues => yields_pure ht hqueues
  unfold admitIntake
  refine yields_lift_bind hs fun _ _ => yields_read_bind hs rfl rfl trivial ?_
  split
  · exact hqueued
  · next hnone =>
    refine yields_append_bind hs (Dict.get?_eq_none.mp hnone) (fun receipt => ?_) fun e => ?_
    · refine yields_pure hs ⟨fun _ h => h, fun _ _ h => ?_, rfl, rfl⟩
      cases h
    · cases e with
      | busy => exact hqueued
      | _ => exact yields_raise hs

theorem yields_admitTransport {chunk : CaptureTransportChunk} {intakes fallback : List CaptureIntake}
    (hs : s.Fenced) (hcall : g.call = .admitTransport chunk intakes fallback) :
    Yields (admitTransport chunk intakes fallback) s g (Queues fallback s g) := by
  unfold admitTransport
  split
  · exact yields_raise hs
  · next first rest =>
    dsimp only
    refine yields_lift_bind hs fun _ _ => yields_lift_bind hs fun _ _ => ?_
    refine yields_read_bind hs rfl rfl trivial ?_
    split
    · refine (yields_requireBridgeBarrier hs).bind fun _ t g' ht hstill => ?_
      refine (yields_dropBridgeFallback (first :: rest) ht).weaken fun dispositions u g'' h => ?_
      obtain ⟨hentries, hqueued, hcounts⟩ := h
      rw [hstill.entries] at hentries
      have hboth := hstill.counts.trans hcounts
      rw [Nat.zero_add] at hboth
      exact ⟨hentries, hqueued, hboth⟩
    · have hbusy : Yields (SpoolFileRequest.backlog.ask >>= fun existingEvents =>
          if maxBridgeFallbackExistingEvents < existingEvents then
            dropBridgeFallback first.session (first :: rest).length
          else enqueueFallback (first :: rest)) s g (Queues (first :: rest) s g) := by
        refine yields_read_bind hs rfl rfl trivial ?_
        split
        · exact yields_dropBridgeFallback _ hs
        · exact yields_enqueueFallback hs
      refine yields_read_bind hs rfl rfl trivial ?_
      split
      · next hnone =>
        have hfenced : SpoolRequest.Fenced s g (.appendTransportChunk chunk intakes) := by
          intro hrouted
          rw [hcall] at hrouted
          rw [← hrouted first List.mem_cons_self]
          exact Dict.get?_eq_none.mp hnone
        refine meets_appendTransportChunk_bind ⟨hs, hfenced⟩ ?_ fun e => ?_
        · exact yields_pure hs ⟨fun _ h => h, fun _ _ h => (by simp at h), Still.refl.counts⟩
        · cases e with
          | busy => exact hbusy
          | _ => exact yields_raise hs
      · exact hbusy

/-! ## Maintenance -/

theorem yields_releaseMarker {barrier : Option String} (hs : s.Fenced) (hkey : s.IsOrphan key) :
    Yields (releaseMarker barrier key markers) s g fun _ => Still s g := by
  unfold releaseMarker
  refine yields_lift_bind hs fun _ _ => ?_
  split
  · exact yields_write_bind hs rfl hkey (yields_pure (hs.eraseMarker hkey) ⟨rfl, rfl, rfl⟩)
  · exact yields_pure hs .refl

/-- An entry is deleted after the store took it, and the marker of a session after its last entry. -/
theorem yields_drainEntries {total admitted : ℕ} {barrier : Option String} {entries : List CaptureIntake}
    (hs : s.Fenced) (hcall : g.call = .drain) (hentries : ∀ x ∈ s.entries, x ∈ entries) :
    Yields (drainEntries total barrier entries markers admitted) s g fun _ => Counts 0 s g := by
  induction entries generalizing s g markers admitted with
  | nil => exact yields_pure hs Still.refl.counts
  | cons intake rest ih =>
    unfold drainEntries
    refine yields_append_bind hs hcall (fun receipt => ?_) fun e => ?_
    swap
    · cases e with
      | busy => exact yields_pure hs Still.refl.counts
      | _ => exact yields_raise hs
    have hrest : ∀ x ∈ (s.eraseEntry intake).entries, x ∈ rest := by
      intro x hx
      obtain ⟨hmem, hne⟩ := List.mem_filter.mp hx
      rcases List.mem_cons.mp (hentries x hmem) with rfl | hmem
      · simp at hne
      · exact hmem
    have hnext : ∀ remaining t g', t.Fenced → Still (s.eraseEntry intake) { g with taken := some intake } t g' →
        Yields (drainEntries total barrier rest remaining (admitted + 1)) t g' fun _ => Counts 0 s g := by
      intro remaining t g' ht hstill
      have hcall' : g'.call = .drain := by
        rw [hstill.trace]
        exact hcall
      refine (ih ht hcall' fun x hx => hrest x (hstill.entries ▸ hx)).weaken fun _ u g'' hcounts => ?_
      have hboth := hstill.counts.trans hcounts
      exact ⟨hboth.call, hboth.dropped⟩
    refine yields_write_bind hs rfl rfl ?_
    split
    · next hlast =>
      have horphan : (s.eraseEntry intake).IsOrphan intake.session := fun x hx => hlast x (hrest x hx)
      exact (yields_releaseMarker hs.eraseEntry horphan).bind fun remaining t g' ht hstill =>
        hnext remaining t g' ht hstill
    · exact hnext markers _ _ hs.eraseEntry .refl

theorem yields_drain (hs : s.Fenced) (hcall : g.call = .drain) :
    Yields drain s g fun _ => Counts 0 s g := by
  unfold drain
  refine yields_read_bind hs rfl rfl trivial (yields_read_bind hs rfl rfl trivial ?_)
  refine yields_lift_bind hs fun orphans horphans => ?_
  refine (yields_persistOrphanDegradation hs (isOrphan_of_reconcile horphans)).bind ?_
  rintro markers t g' ht ⟨hentries, hcounts⟩
  refine yields_read_bind ht rfl rfl trivial ?_
  refine (yields_requireNamedBarrier ht).bind fun _ u g'' hu hstill => ?_
  have hcall' : g''.call = .drain := by rw [hstill.trace, hcounts.call, hcall]
  have hsorted : ∀ x ∈ u.entries, x ∈ s.entries.mergeSort drainsBefore := by
    rw [hstill.entries, hentries]
    exact fun x hx => List.mem_mergeSort.mpr hx
  refine (yields_drainEntries hu hcall' hsorted).weaken fun _ v g₃ hdrained => ?_
  exact (hcounts.trans hstill.counts).trans hdrained

theorem yields_clearDropHealthIfEmpty (hs : s.Fenced) (hcall : g.call = .clearDropHealthIfEmpty) :
    Yields clearDropHealthIfEmpty s g fun _ _ _ => True := by
  unfold clearDropHealthIfEmpty
  refine yields_read_bind hs rfl rfl trivial (yields_read_bind hs rfl rfl trivial ?_)
  refine yields_lift_bind hs fun orphans horphans => ?_
  split
  · exact yields_pure hs trivial
  · next hempty =>
    refine (yields_persistOrphanDegradation hs (isOrphan_of_reconcile horphans)).bind ?_
    rintro markers t g' ht ⟨hentries, hcounts⟩
    have hnone : t.entries = [] := by
      have hperm := List.mergeSort_perm s.entries drainsBefore
      rw [not_not.mp hempty] at hperm
      rw [hentries]
      exact List.nil_perm.mp hperm
    refine yields_read_bind ht rfl rfl trivial ?_
    split
    · refine yields_write_bind ht rfl ⟨hnone, hcounts.call.trans hcall⟩ ?_
      exact yields_pure (ht.setDropState none) trivial
    · exact yields_pure ht trivial

end CaptureSpool

/-! ## Calls -/

/-- The intakes that a call is to queue if the store does not take them. -/
def SpoolCall.intakes : SpoolCall → List CaptureIntake
  | .enqueue intake | .admitIntake intake => [intake]
  | .admitTransport _ _ fallback => fallback
  | _ => []

/-- What a call reports of its intakes. -/
def SpoolResult.dispositions : SpoolResult → List EnqueueDisposition
  | .enqueued disposition => [disposition]
  | .admitted receipt => dispositionsOf receipt
  | .transported dispositions => dispositions
  | _ => []

/-- A call reports that an intake is queued, or was. -/
def SpoolCall.Reports (call : SpoolCall) (result : SpoolResult) (intake : CaptureIntake) : Prop :=
  ∃ disposition, (intake, disposition) ∈ call.intakes.zip result.dispositions ∧ disposition ≠ .droppedQuota

/-- What a call that returned leaves: the intakes that it reported as queued are there, and those that it
reported as dropped are counted. -/
structure SpoolCall.Leaves (call : SpoolCall) (s : Spool) (result : SpoolResult) (t : Spool) (g : SpoolTrace) :
    Prop where
  queued : ∀ intake, call.Reports result intake → intake ∈ t.entries
  counts : call ≠ .clearDropHealthIfEmpty →
    Counts (result.dispositions.count .droppedQuota) s (.start call) t g

/-- Every call keeps the spool fenced, at every step. -/
theorem SpoolCall.yields (hs : s.Fenced) (call : SpoolCall) :
    Yields call.program s (.start call) (call.Leaves s) := by
  have hqueues : ∀ result t g, Queues call.intakes s (.start call) result.dispositions t g →
      call.Leaves s result t g := by
    intro result t g h
    refine ⟨fun intake hreported => ?_, fun _ => h.counts⟩
    obtain ⟨disposition, hmem, hne⟩ := hreported
    exact h.queued intake disposition hmem hne
  have hcounts : ∀ result t g, result.dispositions = [] → Counts 0 s (.start call) t g →
      call.Leaves s result t g := by
    intro result t g hnone h
    refine ⟨fun intake hreported => ?_, fun _ => ?_⟩
    · obtain ⟨disposition, hmem, -⟩ := hreported
      rw [hnone, List.zip_nil_right] at hmem
      cases hmem
    · rw [hnone]
      exact h
  cases call with
  | enqueue intake =>
    have henqueue : Yields (CaptureSpool.enqueue intake) s (.start (.enqueue intake)) fun disposition =>
        Queues [intake] s (.start (.enqueue intake)) [disposition] :=
      yields_lift_bind hs fun _ _ => yields_enqueueLocked hs
    exact henqueue.bind fun disposition t g ht h => yields_pure ht (hqueues (.enqueued disposition) t g h)
  | admitIntake intake =>
    exact (yields_admitIntake hs).bind fun receipt t g ht h => yields_pure ht (hqueues (.admitted receipt) t g h)
  | admitTransport chunk intakes fallback =>
    exact (yields_admitTransport hs rfl).bind fun dispositions t g ht h =>
      yields_pure ht (hqueues (.transported dispositions) t g h)
  | drain =>
    exact (yields_drain hs rfl).bind fun receipt t g ht h => yields_pure ht (hcounts (.drained receipt) t g rfl h)
  | clearDropHealthIfEmpty =>
    refine (yields_clearDropHealthIfEmpty hs rfl).bind fun cleared t g ht _ => yields_pure ht ⟨?_, ?_⟩
    · rintro intake ⟨disposition, hmem, -⟩
      cases hmem
    · exact fun h => absurd rfl h
  | health | auditReadOnly =>
    exact (yields_health hs).bind fun health t g ht h =>
      yields_pure ht (hcounts (.healthy health) t g rfl h.counts)
  | observeHealth =>
    exact (yields_observeHealth hs).bind fun health t g ht h =>
      yields_pure ht (hcounts (.healthy health) t g rfl h.counts)

/-- What every call asks, and leaves. -/
theorem fenceContract : Locked.Contract SpoolCall.program
    (fun s request reply t => SpoolRequest.answers s request reply t ∧ True) (fun _ => True) SpoolTrace.observe
    SpoolTrace.start (fun s g request => s.Fenced ∧ request.Fenced s g)
    (fun call result t => t.1.Fenced ∧ ∀ a, result = .ok a → ∀ intake, call.Reports a intake →
      intake ∈ t.1.entries) Spool.Fenced where
  begins call _ hs := (call.yields hs).mono fun _ _ h =>
    ⟨h.1, fun a ha => (h.2 a ha).queued⟩
  ends _ _ _ _ h := h.1
  stops _ _ _ h _ := h.1

/-! ## Runs -/

variable {events : List SpoolEvent} {intake : CaptureIntake}

/-- The store took an intake that a call gave it. -/
def IsTaken (intake : CaptureIntake) : SpoolEvent → Prop
  | .asked _ (.append _ other) (.ok _) => other = intake
  | _ => False

omit [CaptureKey] in
/-- The intake that the trace remembers was taken since. -/
theorem isTaken_of_trace {g₀ : SpoolTrace} (hnone : g₀.taken = none)
    (h : (Locked.trace SpoolTrace.observe SpoolTrace.start g₀ events).taken = some intake) :
    ∃ event ∈ events, IsTaken intake event := by
  induction events using List.reverseRecOn with
  | nil =>
    rw [show (Locked.trace SpoolTrace.observe SpoolTrace.start g₀ []).taken = g₀.taken from rfl, hnone] at h
    cases h
  | append_singleton front event ih =>
    rw [Locked.trace_snoc] at h
    have hearlier : ∀ last : SpoolEvent,
        (Locked.trace SpoolTrace.observe SpoolTrace.start g₀ front).taken = some intake →
        ∃ event ∈ front ++ [last], IsTaken intake event := by
      intro last htaken
      obtain ⟨found, hmem, hfound⟩ := ih htaken
      exact ⟨found, List.mem_append_left _ hmem, hfound⟩
    cases event with
    | began call => cases h
    | ended call result => exact hearlier _ h
    | crashed call => exact hearlier _ h
    | asked call request reply =>
      dsimp only at h
      unfold SpoolTrace.observe at h
      split at h
      · next source other receipt =>
        cases h
        exact ⟨_, List.mem_append_right _ (List.mem_singleton.mpr rfl), rfl⟩
      · split at h <;> exact hearlier _ h
      · exact hearlier _ h

/-- A step of a call is one under the contract. -/
theorem step_fence {s t : LockedSpool} {event : SpoolEvent} (h : SpoolStep s event t) :
    Locked.Step SpoolCall.program
      (fun s request reply t => SpoolRequest.answers s request reply t ∧ True) (fun _ => True) s event t :=
  h.mono (fun _ _ _ _ hanswers => ⟨hanswers, trivial⟩) fun _ _ => trivial

/-- A run of calls is one under the contract. -/
theorem runs_fence {s t : LockedSpool} (h : Runs SpoolStep s events t) : Runs (Locked.Step SpoolCall.program
    (fun s request reply t => SpoolRequest.answers s request reply t ∧ True) fun _ => True) s events t :=
  h.mono fun _ _ _ => step_fence

/-- The spool is fenced in every state of a run. -/
theorem fenced_of_runs {s : LockedSpool} (hrun : Runs SpoolStep Spool.empty.unlocked events s) :
    s.shared.Fenced :=
  fenceContract.always (.start .health) Spool.fenced_empty (runs_fence hrun) (fun _ _ _ h => h.1)
    (fun _ _ _ _ h => h.1) fun _ h => h

/-- What a call asks in a run is as the fence needs. -/
theorem fenced_of_asked {s₀ : Spool} {s t : LockedSpool} (hs₀ : s₀.Fenced)
    (hrun : Runs SpoolStep s₀.unlocked events s) {call : SpoolCall} {request : SpoolRequest}
    {reply : Except SpoolError request.Reply} (h : SpoolStep s (.asked call request reply) t) :
    ∃ g, g.call = call ∧ (∀ x, g.taken = some x → ∃ event ∈ events, IsTaken x event)
      ∧ request.Fenced s.shared g := by
  have hruns := runs_fence hrun
  have hasks := (fenceContract.asks (.start .health) hs₀ hruns (step_fence h)).2
  refine ⟨_, ?_, fun x htaken => isTaken_of_trace rfl htaken, hasks⟩
  have hobserve : ∀ (g : SpoolTrace) request reply, (g.observe request reply).call = g.call := by
    intro g request reply
    unfold SpoolTrace.observe
    split
    · rfl
    · split <;> rfl
    · rfl
  cases h with
  | asked s call request next reply t hanswers =>
    exact Locked.trace_of_holder (fun _ => rfl) hobserve hruns rfl

/-- Nothing but its deletion removes an entry. -/
theorem mem_of_answers {s t : Spool} {request : SpoolRequest} {reply : Except SpoolError request.Reply}
    (h : request.answers s reply t) (hmem : intake ∈ s.entries)
    (hne : request ≠ .file (.deleteEntry intake)) : intake ∈ t.entries := by
  match request with
  | .append source x => exact h.1 ▸ hmem
  | .appendTransportChunk chunk intakes => exact h.1 ▸ hmem
  | .file request =>
    rw [h.2]
    cases request with
    | publishEntry x => exact List.mem_append_left _ hmem
    | deleteEntry x =>
      refine List.mem_filter.mpr ⟨hmem, decide_eq_true fun heq => hne ?_⟩
      rw [heq]
    | _ => exact hmem

/-- An entry stays until the store took it. -/
theorem stays_until_taken {s₀ : Spool} {s : LockedSpool} (hs₀ : s₀.Fenced) (hmem : intake ∈ s₀.entries)
    (hrun : Runs SpoolStep s₀.unlocked events s) :
    intake ∈ s.shared.entries ∨ ∃ event ∈ events, IsTaken intake event := by
  induction hrun with
  | refl => exact .inl hmem
  | @snoc front s t event hfront hlast ih =>
    rcases ih with hmem | ⟨event, hevent, htaken⟩
    swap
    · exact .inr ⟨event, List.mem_append_left _ hevent, htaken⟩
    have hasked := hlast
    cases hlast with
    | asked s call request next reply t hanswers =>
      by_cases hdeleted : request = .file (.deleteEntry intake)
      · subst hdeleted
        obtain ⟨g, -, htaken, hfenced⟩ := fenced_of_asked hs₀ hfront hasked
        obtain ⟨event, hevent, htaken⟩ := htaken intake hfenced
        exact .inr ⟨event, List.mem_append_left _ hevent, htaken⟩
      · exact .inl (mem_of_answers hanswers hmem hdeleted)
    | began | returned | raised | crashed => exact .inl hmem

/-- The intakes that a request can give to the store, which refuses a chunk with any of another session. -/
def SpoolRequest.given : SpoolRequest → List CaptureIntake
  | .append _ intake => [intake]
  | .appendTransportChunk chunk intakes => intakes.filter fun intake => intake.session = chunk.session
  | .file _ => []

/-- What the store is given of a fenced session is from a drain. -/
theorem drained_of_fenced {s₀ : Spool} {s t : LockedSpool} (hs₀ : s₀.Fenced)
    (hrun : Runs SpoolStep s₀.unlocked events s) {call : SpoolCall} {request : SpoolRequest}
    {reply : Except SpoolError request.Reply} (h : SpoolStep s (.asked call request reply) t)
    (hrouted : call.Routed) (hgiven : intake ∈ request.given) (hmarker : intake.session ∈ s.shared.markers) :
    call = .drain ∧ request = .append .spoolDrain intake := by
  obtain ⟨g, hcall, -, hfenced⟩ := fenced_of_asked hs₀ hrun h
  match request with
  | .append .direct x =>
    rw [List.mem_singleton.mp hgiven] at hmarker
    exact absurd hmarker hfenced
  | .append .spoolDrain x =>
    rw [List.mem_singleton.mp hgiven]
    exact ⟨hcall.symm.trans hfenced, rfl⟩
  | .appendTransportChunk chunk intakes =>
    rw [of_decide_eq_true (List.mem_filter.mp hgiven).2] at hmarker
    exact absurd hmarker (hfenced (hcall ▸ hrouted))
  | .file request => cases hgiven

/-- The count of what was dropped decreases in no step but one of an empty spool. -/
theorem droppedEvents_le {s₀ : Spool} {s t : LockedSpool} (hs₀ : s₀.Fenced)
    (hrun : Runs SpoolStep s₀.unlocked events s) {event : SpoolEvent} (h : SpoolStep s event t) :
    droppedEvents s.shared.dropState ≤ droppedEvents t.shared.dropState
      ∨ s.shared.entries = [] ∧ ∃ reply, event = .asked .clearDropHealthIfEmpty (.file .deleteDropState) reply := by
  have hasked := h
  cases h with
  | began | returned | raised | crashed => exact .inl le_rfl
  | asked s call request next reply t hanswers =>
    obtain ⟨g, hcall, -, hfenced⟩ := fenced_of_asked hs₀ hrun hasked
    match request with
    | .append source x => exact .inl (by rw [hanswers.1])
    | .appendTransportChunk chunk intakes => exact .inl (by rw [hanswers.1])
    | .file .deleteDropState =>
      refine .inr ⟨hfenced.1, reply, ?_⟩
      rw [← hcall, hfenced.2]
    | .file (.publishDropState state) =>
      refine .inl ?_
      rw [hanswers.2]
      exact hfenced
    | .file .entries | .file .sessionMarkers | .file .dropState | .file (.sessionMarker _)
    | .file (.markerNamed _) | .file .backlog | .file (.publishMarker ..) | .file (.publishEntry _)
    | .file (.deleteEntry _) | .file (.deleteMarker _) =>
      exact .inl (by rw [hanswers.2]; exact le_rfl)

/-- What a call asked, and was answered. -/
abbrev SpoolAnswers := List ((request : SpoolRequest) × Except SpoolError request.Reply)

/-- A session is counted as incomplete. -/
def SpoolRequest.countsIncomplete : SpoolRequest → Bool
  | .file (.publishDropState state) => state.lastDropReason = .spoolIncomplete
  | _ => false

omit [CaptureKey] in
theorem incomplete_foldl {asked : SpoolAnswers} {g : SpoolTrace} : (asked.foldl (fun g answer => g.observe answer.1 answer.2) g).incomplete
      = g.incomplete + asked.countP fun answer => answer.1.countsIncomplete := by
  induction asked generalizing g with
  | nil => rfl
  | cons answer rest ih =>
    rw [List.foldl_cons, ih, List.countP_cons]
    obtain ⟨request, reply⟩ := answer
    dsimp only
    unfold SpoolTrace.observe SpoolRequest.countsIncomplete
    split
    · simp
    · next state _ =>
      dsimp only
      by_cases hreason : state.lastDropReason = .spoolIncomplete
      · rw [if_pos hreason, if_pos (decide_eq_true hreason)]
        dsimp only
        omega
      · rw [if_neg hreason, if_neg (by simpa using hreason)]
        rfl
    · split
      · next hne => exact (hne _ _ rfl HEq.rfl).elim
      · rfl

/-- A call that returned raised the count by what it reported as dropped, and by the sessions that it
counted as incomplete. -/
theorem droppedEvents_eq {s : Spool} {t : LockedSpool} (hs : s.Fenced) {call : SpoolCall} {result : SpoolResult}
    {asked : SpoolAnswers} (hcall : call ≠ .clearDropHealthIfEmpty)
    (hrun : Runs SpoolStep s.unlocked (.began call
      :: (asked.map (fun answer => .asked call answer.1 answer.2) ++ [.ended call (.ok result)])) t) :
    droppedEvents t.shared.dropState = droppedEvents s.dropState
      + asked.countP (fun answer => answer.1.countsIncomplete) + result.dispositions.count .droppedQuota := by
  obtain ⟨u, hbegan, hrest⟩ := (runs_fence hrun).cons_inv
  cases hbegan
  obtain ⟨-, hexecution⟩ := Locked.execution_of_runs hrest
  obtain ⟨-, hleaves⟩ := (call.yields hs).execution hexecution
  have hcounts := ((hleaves result rfl).counts hcall).dropped
  rw [incomplete_foldl] at hcounts
  simp only [SpoolTrace.start] at hcounts
  omega

/-- In every run of calls that starts with an empty spool and may crash anywhere: an intake that a call
reported as queued stays until the store took it; what the store is given of a session with a marker, or
an entry, is from a drain; the queue keeps its quotas; and the count of what was dropped rises by one with
each intake that is reported as dropped, and falls only when an empty spool is cleared. -/
theorem spool_fence {s : LockedSpool} (hrun : Runs SpoolStep Spool.empty.unlocked events s) :
    (∀ call result t, SpoolStep s (.ended call (.ok result)) t → ∀ intake, call.Reports result intake →
      ∀ later u, Runs SpoolStep t later u →
        intake ∈ u.shared.entries ∨ ∃ event ∈ later, IsTaken intake event)
    ∧ (∀ call request reply t, SpoolStep s (.asked call request reply) t → call.Routed →
      ∀ intake ∈ request.given,
        (intake.session ∈ s.shared.markers ∨ ¬s.shared.IsOrphan intake.session) →
        call = .drain ∧ request = .append .spoolDrain intake)
    ∧ s.shared.entries.length ≤ maxCaptureSpoolEvents
    ∧ (s.shared.entries.map framedBytes).sum ≤ maxCaptureSpoolBytes
    ∧ (∀ call (asked : SpoolAnswers) result t, call ≠ .clearDropHealthIfEmpty → Runs SpoolStep s (.began call
        :: (asked.map (fun answer => .asked call answer.1 answer.2) ++ [.ended call (.ok result)])) t →
      droppedEvents t.shared.dropState = droppedEvents s.shared.dropState
        + asked.countP (fun answer => answer.1.countsIncomplete) + result.dispositions.count .droppedQuota)
    ∧ ∀ event t, SpoolStep s event t → droppedEvents s.shared.dropState ≤ droppedEvents t.shared.dropState
      ∨ s.shared.entries = []
        ∧ ∃ reply, event = .asked .clearDropHealthIfEmpty (.file .deleteDropState) reply := by
  have hs := fenced_of_runs hrun
  refine ⟨?_, ?_, hs.events, hs.bytes, ?_, fun _ _ => droppedEvents_le Spool.fenced_empty hrun⟩
  · intro call result t hended intake hreported later u hlater
    obtain ⟨hfree, hfenced, hqueued⟩ :=
      fenceContract.left (.start .health) Spool.fenced_empty (runs_fence hrun) (step_fence hended)
    obtain ⟨shared, holder⟩ := t
    cases hfree
    exact stays_until_taken hfenced (hqueued result rfl intake hreported) hlater
  · intro call request reply t hasked hrouted intake hgiven hsession
    refine drained_of_fenced Spool.fenced_empty hrun hasked hrouted hgiven ?_
    rcases hsession with hmarker | hentry
    · exact hmarker
    · unfold Spool.IsOrphan at hentry
      push Not at hentry
      obtain ⟨entry, hmem, heq⟩ := hentry
      exact heq ▸ hs.fenced entry hmem
  · intro call asked result t hcall hcalled
    have hfree : s.holder = none := by
      obtain ⟨u, hbegan, -⟩ := hcalled.cons_inv
      cases hbegan
      rfl
    obtain ⟨shared, holder⟩ := s
    cases hfree
    exact droppedEvents_eq hs hcall hcalled

end

/-! ## An intake that is queued -/

/-- The one digest of the run. -/
def spoolDigest : Sha256Digest := ⟨String.ofList (List.replicate 64 '0'), by decide⟩

/-- The one intake of the run, of its one session. -/
def spoolIntake : CaptureIntake where
  adapterProfile := .codexHooks
  capabilityManifestDigest := spoolDigest
  connectionId := ⟨"codex", by decide⟩
  sessionId := spoolDigest
  producerEventDigest := spoolDigest
  intakeTag := spoolDigest
  occurredAt := none
  producerSequence := none
  captureDisposition := .captured
  content := .sessionStarted

/-- A key that authenticates one intake. -/
local instance spoolKey : CaptureKey where
  authenticates intake := intake = spoolIntake
  recordTag _ := "intake"
  sessionMarkerTag key := key.2.text ++ key.1.text
  canonicalBytes _ := 400
  recordTag_inj intake other h h' _ := by
    rw [of_decide_eq_true h, of_decide_eq_true h']
  sessionMarkerTag_inj := by
    rintro ⟨⟨text, hid⟩, ⟨digits, hdigits⟩⟩ ⟨⟨text', hid'⟩, ⟨digits', hdigits'⟩⟩ heq
    have hlists : digits.toList ++ text.toList = digits'.toList ++ text'.toList := by
      rw [← String.toList_append, ← String.toList_append]
      exact congrArg String.toList heq
    have hlength : digits.toList.length = digits'.toList.length := by
      rw [String.length_toList, String.length_toList, hdigits.1, hdigits'.1]
    obtain ⟨hdigits, htext⟩ := List.append_inj hlists hlength
    cases String.toList_injective hdigits
    cases String.toList_injective htext
    rfl

/-- The store takes every intake that is drained. -/
def spoolAnswer (s : Spool) : (request : SpoolRequest) → Except SpoolError request.Reply × Spool
  | .file request => (.ok (s.perform request).1, (s.perform request).2)
  | .append _ intake =>
    (.ok ⟨.admitted, intake.connectionId, intake.sessionId, intake.producerEventDigest, some 1, none, none,
      .opened, 1⟩, s)
  | .appendTransportChunk chunk intakes =>
    (if ∀ intake ∈ intakes, intake.session = chunk.session then .ok () else .error (.store .state), s)

theorem answers_spoolAnswer (s : Spool) (request : SpoolRequest) :
    SpoolRequest.answers s request (spoolAnswer s request).1 (spoolAnswer s request).2 := by
  cases request with
  | file request => exact ⟨rfl, rfl⟩
  | append source intake => exact ⟨rfl, fun _ h => by cases h⟩
  | appendTransportChunk chunk intakes =>
    unfold spoolAnswer
    dsimp only
    split
    · next hsession => exact ⟨rfl, fun _ h => (by cases h), fun _ => hsession⟩
    · exact ⟨rfl, fun _ h => ⟨.state, (Except.error.inj h).symm⟩, fun h => by cases h⟩

/-- The intake is queued, up to the end of the call. -/
def queuedOnce : List (LockedTurn SpoolCall) := .call (.enqueue spoolIntake) :: List.replicate 6 .next

/-- The call is about to report that the intake is queued. -/
def isQueued (s : LockedSpool) : Bool :=
  match s.holder with
  | some (.enqueue intake, .done (.enqueued .queued)) => intake = spoolIntake
  | _ => false

theorem queuedOnce_isQueued : (Spool.empty.unlocked.schedule SpoolCall.program spoolAnswer (fun _ _ => true)
    (fun _ => true) queuedOnce).any (fun run => isQueued run.2) = true := by decide +kernel

/-- An intake is reported as queued, and stays until the store took it, whatever happens after. -/
theorem spool_fence_queued : ∃ (events : List SpoolEvent) (s t : LockedSpool) (call : SpoolCall)
    (result : SpoolResult), Runs SpoolStep Spool.empty.unlocked events s
      ∧ SpoolStep s (.ended call (.ok result)) t ∧ call.Reports result spoolIntake
      ∧ ∀ later u, Runs SpoolStep t later u →
        spoolIntake ∈ u.shared.entries ∨ ∃ event ∈ later, IsTaken spoolIntake event := by
  obtain ⟨⟨events, shared, holder⟩, hschedule, hqueued⟩ := (Option.any_eq_true ..).mp queuedOnce_isQueued
  have hrun : Runs SpoolStep Spool.empty.unlocked events ⟨shared, holder⟩ :=
    Locked.runs_schedule (fun s request _ => answers_spoolAnswer s request) (fun _ _ => trivial) hschedule
  unfold isQueued at hqueued
  split at hqueued
  · next intake hholder =>
    cases hholder
    cases of_decide_eq_true hqueued
    have hstep : SpoolStep ⟨shared, some (.enqueue spoolIntake, .done (.enqueued .queued))⟩
        (.ended (.enqueue spoolIntake) (.ok (.enqueued .queued))) ⟨shared, none⟩ := .returned shared _ _
    have hreports : SpoolCall.Reports (.enqueue spoolIntake) (.enqueued .queued) spoolIntake :=
      ⟨.queued, List.mem_singleton.mpr rfl, by simp⟩
    exact ⟨events, _, _, _, _, hrun, hstep, hreports,
      (spool_fence hrun).1 _ _ _ hstep spoolIntake hreports⟩
  · cases hqueued

end SalienceGate
