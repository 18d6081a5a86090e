import SalienceGate.Repository.CycleSteps

/-!
# What a rebuild leads to

A rebuild of a live run either raises, or leads to exactly the state that it rebuilds. It raises only
for an audit event whose payload does not read back: the payload of an audit event goes through the
redactor before it is stored, and the rebuild expects it as the repository wrote it.
-/

namespace SalienceGate

open Checked
open Stateful hiding bind_eq_ok check_bind_eq_ok raiseIf_bind_eq_ok expect_bind_eq_ok

variable [Hashing] {p : Projection}

/-! ## Collision receipts -/

/-- The payload of an audit event names its collision, as the repository wrote it. -/
def ReadsBack (event : TraceEvent) : Prop :=
  ∃ (fingerprint : Sha256Digest) (existingId : UUID4),
    event.sourceEventId = collisionSourceId fingerprint ∧ event.parentIds = [existingId]
      ∧ auditedCollision event = some (fingerprint, .str existingId.toString)

/-- Every audit event reads back. -/
def AuditsReadBack (p : Projection) : Prop := ∀ event ∈ collisionEvents p, ReadsBack event

omit [Hashing] in
/-- A collision identity names its fingerprint. -/
theorem collisionSourceId_injective {a b : Sha256Digest}
    (h : collisionSourceId a = collisionSourceId b) : a = b := by
  have htext : "saliencegate:collision:" ++ a.text = "saliencegate:collision:" ++ b.text :=
    congrArg ComponentIdentifier.text h
  have hlist := congrArg String.toList htext
  rw [String.toList_append, String.toList_append] at hlist
  have hdigits : a.text = b.text := String.toList_inj.mp (List.append_cancel_left hlist)
  cases a
  cases b
  simp_all

/-- The round of an audit event returns exactly if the event reads back. -/
theorem addAuditedReceipt_eq_ok {event existing : TraceEvent}
    {item : Sha256Digest × AppendReceipt} (h : Audits p event item existing)
    {receipts next : Dict Sha256Digest AppendReceipt} (hfresh : item.1 ∉ receipts) :
    addAuditedReceipt p receipts event = .ok next
      ↔ ReadsBack event ∧ next = receipts.set item.1 item.2 := by
  have hexisting : event.parentIds.head?.bind p.eventsById.get? = some existing := by
    rw [h.parent]
    exact h.known
  unfold addAuditedReceipt
  rw [raiseIf_bind_of_not (by simp [h.metadata])]
  simp only [bind_eq_ok, raiseIf_eq_ok, expect_eq_ok, pure_eq_ok, hexisting, Option.some.injEq,
    not_or, not_not]
  constructor
  · rintro ⟨⟨fingerprint, id⟩, haudited, -, hsource, _, rfl, -, ⟨hid, hnew⟩, receipt, hreceipt, rfl⟩
    obtain rfl : item.1 = fingerprint :=
      collisionSourceId_injective (h.source.symm.trans hsource)
    rw [h.receipt] at hreceipt
    cases hreceipt
    simp only at hid
    subst hid
    exact ⟨⟨item.1, existing.eventId, h.source, h.parent, haudited⟩, rfl⟩
  · rintro ⟨⟨fingerprint, id, hsource, hparent, haudited⟩, rfl⟩
    obtain rfl : item.1 = fingerprint :=
      collisionSourceId_injective (h.source.symm.trans hsource)
    obtain rfl : existing.eventId = id := by
      rw [h.parent] at hparent
      exact List.head_eq_of_cons_eq hparent
    exact ⟨_, haudited, (), h.source, existing, rfl, (), ⟨rfl, hfresh⟩, item.2, h.receipt, rfl⟩

/-- The loop over the audit events returns exactly if all of them read back. -/
theorem foldlM_addAuditedReceipt {events : List TraceEvent}
    {items : List (Sha256Digest × AppendReceipt)}
    (h : List.Forall₂ (fun event item => ∃ existing, Audits p event item existing) events items)
    (receipts : Dict Sha256Digest AppendReceipt) {next : Dict Sha256Digest AppendReceipt}
    (hnodup : ((receipts.items ++ items).map Prod.fst).Nodup) :
    events.foldlM (addAuditedReceipt p) receipts = .ok next
      ↔ (∀ event ∈ events, ReadsBack event) ∧ next.items = receipts.items ++ items := by
  induction h generalizing receipts with
  | nil =>
    rw [foldlM_nil_eq_ok, List.append_nil]
    exact ⟨fun heq => ⟨fun event hmem => absurd hmem List.not_mem_nil, heq ▸ rfl⟩,
      fun ⟨_, hitems⟩ => (Dict.ext hitems).symm⟩
  | @cons event item events items haudits hrest ih =>
    obtain ⟨existing, haudits⟩ := haudits
    have hfresh : item.1 ∉ receipts := by
      rw [List.map_append, List.map_cons, List.nodup_middle, List.nodup_cons, List.mem_append,
        not_or] at hnodup
      exact hnodup.1.1
    have hitems : (receipts.set item.1 item.2).items ++ items = receipts.items ++ item :: items := by
      rw [Dict.items_set_of_notMem hfresh, List.append_assoc]
      rfl
    have hround := ih (receipts.set item.1 item.2) (by rw [hitems]; exact hnodup)
    rw [foldlM_cons_eq_ok]
    simp only [addAuditedReceipt_eq_ok haudits hfresh]
    rw [List.forall_mem_cons, ← hitems]
    constructor
    · rintro ⟨_, ⟨hread, rfl⟩, hloop⟩
      obtain ⟨hall, hnext⟩ := hround.mp hloop
      exact ⟨⟨hread, hall⟩, hnext⟩
    · rintro ⟨⟨hread, hall⟩, hnext⟩
      exact ⟨_, ⟨hread, rfl⟩, hround.mpr ⟨hall, hnext⟩⟩

/-- The collision receipts of a projection are the live ones, if its audit events read back. -/
theorem collisionReceipts_eq_ok {receipts next : Dict Sha256Digest AppendReceipt}
    (h : Audited p receipts) :
    collisionReceipts p = .ok next ↔ AuditsReadBack p ∧ next = receipts := by
  unfold collisionReceipts AuditsReadBack
  rw [foldlM_addAuditedReceipt h Dict.empty receipts.nodup_keys]
  refine and_congr_right fun _ => ⟨fun hitems => Dict.ext hitems, fun heq => ?_⟩
  rw [heq]
  rfl

/-! ## The replay of a slot -/

variable [Integrity] {run t : RunState} {slot : Slot}

omit [Integrity] in
/-- The revision that a seed becomes. -/
def CycleReceiptSeed.revision (pending : Dict Sha256Digest DeliveryRecord)
    (seed : CycleReceiptSeed) : Except RepositoryError CycleRevision := do
  let receipt ← seed.attach pending
  pure ⟨seed.record, receipt⟩

/-- The cycle receipts that a rebuild attaches are the live ones. -/
theorem attachCycleDeliveries_eq (h : slot.Settled) :
    attachCycleDeliveries (slot.cycleRecords.mapValues CycleRevision.seed) slot.projection
      = .ok slot.cycleRecords := by
  have hloop := Dict.foldlM_set_mapValues (d := slot.cycleRecords)
    (f := fun _ => CycleReceiptSeed.revision (initialDeliveries slot.projection))
    fun key revision hget => by
      unfold CycleReceiptSeed.revision
      rw [h.attached hget]
      rfl
  rw [← hloop]
  unfold attachCycleDeliveries CycleReceiptSeed.revision
  simp only [bind_assoc, pure_bind]

/-- The digests of a live projection are there. -/
theorem exists_projectionDigests (h : slot.Replays) (position : ℕ) :
    ∃ digests, projectionDigests slot.projection position = .ok digests := by
  unfold projectionDigests
  cases hlimits : slot.projection.budgetLimits with
  | none => exact ⟨_, rfl⟩
  | some limits =>
    obtain ⟨snapshot, hsnapshot⟩ := (exists_budgetSnapshot hlimits).mpr (h.budget.within limits hlimits)
    simp only [hsnapshot]
    exact ⟨_, rfl⟩

/-- The state that a rebuild of a slot leads to. -/
def Slot.rebuilt (slot : Slot) (digests : ProjectionDigests) : ReplayedRun where
  projection := slot.projection
  digests
  directRecords := slot.directRecords
  cycleRecords := slot.cycleRecords
  deliveryRecords := slot.deliveryRecords
  collisionReceipts := slot.collisionReceipts

/-- Replaying a live slot returns exactly if its audit events read back, and then it leads to the
slot. -/
theorem replaySlot_eq_ok (hrun : run.Live) (hhead : run.slot.ledgerHead ≠ none)
    {replayed : ReplayedRun} : replaySlot run = .ok replayed
      ↔ AuditsReadBack run.slot.projection
        ∧ ∃ digests, projectionDigests run.slot.projection run.slot.ledger.length = .ok digests
          ∧ replayed = run.slot.rebuilt digests := by
  have hslot := hrun.settled
  have hcomplete := validateCompleteProjection_eq_ok.mpr hslot.complete
  have htag : ¬(run.slot.ledgerHead = none
      ∨ run.slot.replayed.projectionTag ≠ run.slot.ledgerHead.map (·.projectionTag)) :=
    not_or.mpr ⟨hhead, not_not.mpr rfl⟩
  unfold replaySlot
  rw [check_bind_eq_ok, bind_eq_ok]
  constructor
  · rintro ⟨-, replay, hreplay, h⟩
    rw [hslot.replayed, Except.ok.injEq] at hreplay
    subst hreplay
    obtain ⟨-, h⟩ := check_bind_eq_ok.mp h
    obtain ⟨cycleRecords, hcycles, h⟩ := bind_eq_ok.mp h
    have hattached : cycleRecords = run.slot.cycleRecords :=
      Except.ok.inj (hcycles.symm.trans (attachCycleDeliveries_eq hslot))
    obtain ⟨digests, hdigests, h⟩ := bind_eq_ok.mp h
    obtain ⟨-, h⟩ := raiseIf_bind_eq_ok.mp h
    obtain ⟨receipts, hreceipts, h⟩ := bind_eq_ok.mp h
    obtain ⟨hread, rfl⟩ := (collisionReceipts_eq_ok hslot.audited).mp hreceipts
    cases pure_eq_ok.mp h
    exact ⟨hread, digests, hdigests, by rw [hattached]; rfl⟩
  · rintro ⟨hread, digests, hdigests, rfl⟩
    refine ⟨hrun.verifyHead_eq hhead false, run.slot.replayed, hslot.replayed, ?_⟩
    refine check_bind_eq_ok.mpr ⟨hcomplete, ?_⟩
    refine bind_eq_ok.mpr ⟨_, attachCycleDeliveries_eq hslot, ?_⟩
    refine bind_eq_ok.mpr ⟨digests, hdigests, ?_⟩
    refine raiseIf_bind_eq_ok.mpr ⟨htag, ?_⟩
    exact bind_eq_ok.mpr ⟨_, (collisionReceipts_eq_ok hslot.audited).mpr ⟨hread, rfl⟩, rfl⟩

/-- A rebuild installs what is there. -/
theorem RunState.Live.install_rebuilt (hrun : run.Live) (hhead : run.slot.ledgerHead ≠ none)
    (digests : ProjectionDigests) : run.install (run.slot.rebuilt digests) = run := by
  obtain ⟨head, hsome⟩ := Option.ne_none_iff_exists'.mp hhead
  have hprojection := hrun.trusted.projection
  rw [hsome, Option.map_some] at hprojection
  unfold RunState.install Slot.rebuilt
  rw [← hprojection]

/-- The digests of a live slot. -/
theorem liveDigests_eq_ok {digests : ProjectionDigests}
    (h : projectionDigests slot.projection slot.ledger.length = .ok digests) :
    liveDigests slot = .ok (some digests) := by
  unfold liveDigests
  rw [h]
  rfl

/-- What a rebuild of a live run does when it returns: nothing but its receipt. -/
theorem rebuildLocked_eq_ok (hrun : run.Live) {runId : UUID4} {receipt : RebuildReceipt} :
    rebuildLocked runId run = .ok receipt t ↔ run.slot.ledgerHead ≠ none
      ∧ AuditsReadBack run.slot.projection ∧ t = run
      ∧ ∃ digests, projectionDigests run.slot.projection run.slot.ledger.length = .ok digests
        ∧ receipt = ⟨runId, run.slot.ledger.length, some digests, digests, true⟩ := by
  unfold rebuildLocked
  rw [get_bind, Stateful.check_bind_eq_ok]
  constructor
  · rintro ⟨hacquire, h⟩
    have hhead := hrun.ledgerHead_ne_none hacquire
    obtain ⟨before, hbefore, h⟩ := lift_bind_eq_ok.mp h
    obtain ⟨replayed, hreplayed, h⟩ := lift_bind_eq_ok.mp h
    rw [mapError_eq_ok] at hreplayed
    obtain ⟨hread, digests, hdigests, rfl⟩ := (replaySlot_eq_ok hrun hhead).mp hreplayed
    rw [liveDigests_eq_ok hdigests, Except.ok.injEq] at hbefore
    subst hbefore
    cases h
    exact ⟨hhead, hread, hrun.install_rebuilt hhead digests, digests, hdigests, by simp [Slot.rebuilt]⟩
  · rintro ⟨hhead, hread, rfl, digests, hdigests, rfl⟩
    refine ⟨hrun.acquireSlot_eq hhead, ?_⟩
    rw [lift_bind_of_ok (liveDigests_eq_ok hdigests)]
    have hreplayed : (replaySlot t).mapError (fun _ => RepositoryError.rebuild)
        = .ok (t.slot.rebuilt digests) := by
      rw [mapError_eq_ok, replaySlot_eq_ok hrun hhead]
      exact ⟨hread, digests, hdigests, rfl⟩
    rw [lift_bind_of_ok hreplayed, modify_bind, hrun.install_rebuilt hhead, pure_run]
    simp [Slot.rebuilt]

/-- A rebuild extends a live run, by nothing. -/
theorem rebuildLocked_endsIn (hrun : run.Live) {runId : UUID4} :
    EndsIn (rebuildLocked runId) run (Extended run) := by
  have hatomic : Atomic (rebuildLocked runId) := by
    unfold rebuildLocked
    exact .get_bind fun _ => .lift_bind fun _ _ => .lift_bind fun _ _ => .lift_bind fun _ _ =>
      atomic_modify_pure
  refine .of_atomic hatomic hrun.extended fun receipt t h => ?_
  obtain ⟨-, -, rfl, -⟩ := (rebuildLocked_eq_ok hrun).mp h
  exact hrun.extended

/-! ## The replay of a stored ledger -/

/-- The loop that also checks the run of each entry leads to the same state. -/
theorem foldlM_replayEntryOf {entries : List LedgerEntry} {runId : UUID4} {replayed next : Replayed}
    (hentries : ∀ entry ∈ entries, entry.runId = runId)
    (h : entries.foldlM replayEntry replayed = .ok next) :
    entries.foldlM (replayEntryOf runId) replayed = .ok next := by
  induction entries generalizing replayed with
  | nil => exact h
  | cons entry entries ih =>
    obtain ⟨hentry, hrest⟩ := List.forall_mem_cons.mp hentries
    obtain ⟨middle, hmiddle, h⟩ := foldlM_cons_eq_ok.mp h
    refine foldlM_cons_eq_ok.mpr ⟨middle, ?_, ih hrest h⟩
    unfold replayEntryOf
    rw [raiseIf_bind_of_not (not_not.mpr hentry)]
    exact hmiddle

/-- Replaying the stored ledger of a live slot returns exactly if its audit events read back, and then
it leads to the slot. -/
theorem replayRun_eq_ok (hslot : slot.Settled) {head : LedgerHead}
    (hhead : slot.ledgerHead = some head) {replayed : ReplayedRun} :
    replayRun slot.ledger head = .ok replayed ↔ AuditsReadBack slot.projection
      ∧ ∃ digests, projectionDigests slot.projection slot.ledger.length = .ok digests
        ∧ replayed = slot.rebuilt digests := by
  obtain ⟨hrun, hcount, hchain, htag⟩ := hslot.sealed head hhead
  unfold Slot.lastChainTag at hchain
  obtain ⟨last, hlast, hlastTag⟩ := Option.map_eq_some_iff.mp hchain
  have hlastRun : last.runId = slot.runId := hslot.entries last (List.mem_of_getLast? hlast)
  have hreplayed := hslot.replayed
  rw [← hrun] at hreplayed
  have hentries : ∀ entry ∈ slot.ledger, entry.runId = head.runId :=
    fun entry hmem => (hslot.entries entry hmem).trans hrun.symm
  have hloop := foldlM_replayEntryOf hentries hreplayed
  have hcomplete := validateCompleteProjection_eq_ok.mpr hslot.complete
  have hprojectionTag : slot.replayed.projectionTag = some head.projectionTag := by
    show slot.ledgerHead.map (·.projectionTag) = some head.projectionTag
    rw [hhead]
    rfl
  unfold replayRun
  rw [hlast]
  show (raiseIf _ _ >>= fun _ => _) = _ ↔ _
  rw [raiseIf_bind_of_not (by simp [hcount, hlastRun, hrun, hlastTag]),
    raiseIf_bind_of_not (not_not.mpr htag), mapError_eq_ok]
  unfold replayEntries
  rw [bind_eq_ok]
  constructor
  · rintro ⟨replay, hreplay, h⟩
    rw [hloop, Except.ok.injEq] at hreplay
    subst hreplay
    obtain ⟨-, h⟩ := check_bind_eq_ok.mp h
    obtain ⟨cycleRecords, hcycles, h⟩ := bind_eq_ok.mp h
    have hattached : cycleRecords = slot.cycleRecords :=
      Except.ok.inj (hcycles.symm.trans (attachCycleDeliveries_eq hslot))
    obtain ⟨-, h⟩ := raiseIf_bind_eq_ok.mp h
    obtain ⟨receipts, hreceipts, h⟩ := bind_eq_ok.mp h
    obtain ⟨hread, rfl⟩ := (collisionReceipts_eq_ok hslot.audited).mp hreceipts
    obtain ⟨digests, hdigests, h⟩ := bind_eq_ok.mp h
    cases pure_eq_ok.mp h
    exact ⟨hread, digests, hdigests, by rw [hattached]; rfl⟩
  · rintro ⟨hread, digests, hdigests, rfl⟩
    refine ⟨slot.replayed, hloop, check_bind_eq_ok.mpr ⟨hcomplete, ?_⟩⟩
    refine bind_eq_ok.mpr ⟨_, attachCycleDeliveries_eq hslot, ?_⟩
    refine raiseIf_bind_eq_ok.mpr ⟨not_not.mpr hprojectionTag, ?_⟩
    refine bind_eq_ok.mpr ⟨_, (collisionReceipts_eq_ok hslot.audited).mpr ⟨hread, rfl⟩, ?_⟩
    exact bind_eq_ok.mpr ⟨digests, hdigests, rfl⟩

end SalienceGate
