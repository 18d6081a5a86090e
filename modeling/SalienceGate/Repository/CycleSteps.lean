import SalienceGate.Repository.DeliverySteps

/-!
# What the cycle commands do

A cycle command finds the revision that it made, and returns its receipt, or stores the next one. A
commit stores its revision and the delivery of its reminder on a copy, and publishes the copy as a
whole, so that a commit that raises changes nothing.
-/

namespace SalienceGate

open Checked
open Stateful hiding bind_eq_ok check_bind_eq_ok raiseIf_bind_eq_ok expect_bind_eq_ok

variable [Hashing] [Integrity] {run t : RunState}

/-! ## Revisions -/

omit [Integrity] in
/-- A record that passes its check has the fields it was made of. -/
theorem transitionCycle_eq_ok {operation : String} {updated : CycleRecordFields}
    {record : CycleRecord} (h : transitionCycle operation updated = .ok record) :
    record.toCycleRecordFields = updated := by
  unfold transitionCycle at h
  rw [raiseIf_bind_eq_ok] at h
  cases hcreate : CycleRecord.create updated with
  | error e =>
    rw [hcreate] at h
    cases h.2
  | ok created =>
    rw [hcreate] at h
    cases h.2
    obtain ⟨hvalid, rfl⟩ := validate_eq_ok.mp hcreate
    rfl

omit [Integrity] in
/-- The revision that a command expects, in the state that it expects. -/
theorem cycleBase_eq_ok {slot : Slot} {id : Sha256Digest} {expectedRevision : ℕ}
    {expectedState : Option CycleState} {base : CycleRecord}
    (h : cycleBase slot id expectedRevision expectedState = .ok base) :
    slot.projection.cycleHistory.get? (id, expectedRevision) = some base
      ∧ ∀ state ∈ expectedState, base.state = state := by
  unfold cycleBase at h
  simp only [expect_bind_eq_ok, check_bind_eq_ok, pure_eq_ok, forM_eq_ok, raiseIf_eq_ok,
    not_not, Option.mem_toList] at h
  obtain ⟨found, hfound, hstate, rfl⟩ := h
  exact ⟨hfound, hstate⟩

/-- What `recordCycleLocked` does when it returns: it finds the revision, or stores it. -/
theorem recordCycleLocked_eq_ok {record : CycleRecord} {publish : Bool}
    {delivery : Option DeliveryRecord} {receipt : CycleReceipt}
    (h : recordCycleLocked record publish delivery run = .ok receipt t) :
    (t = run ∧ ∃ existing, run.slot.cycleRecords.get? (record.cycleId, record.revision)
        = some ⟨record, existing⟩ ∧ receipt = existing.repeated)
      ∨ ((record.cycleId, record.revision) ∉ run.slot.cycleRecords
        ∧ ∃ staged, IsStaged run.slot (.cycleRecord record) staged
        ∧ cycleReceipt record staged delivery = .ok receipt
        ∧ t = ((run.append staged).withCycle record receipt).trustIf publish) := by
  unfold recordCycleLocked at h
  rw [get_bind] at h
  cases hknown : run.slot.cycleRecords.get? (record.cycleId, record.revision) with
  | some existing =>
    simp only [hknown] at h
    obtain ⟨hreceipt, rfl⟩ := lift_eq_ok.mp h
    unfold recordExistingCycle at hreceipt
    rw [raiseIf_bind_eq_ok, pure_eq_ok, not_not] at hreceipt
    obtain ⟨rfl, rfl⟩ := hreceipt
    exact .inl ⟨rfl, existing.receipt, rfl, rfl⟩
  | none =>
    simp only [hknown] at h
    rw [Dict.get?_eq_none] at hknown
    unfold recordNewCycle at h
    rw [get_bind] at h
    obtain ⟨staged, hstaged, h⟩ := lift_bind_eq_ok.mp h
    obtain ⟨created, hreceipt, h⟩ := lift_bind_eq_ok.mp h
    cases h
    exact .inr ⟨hknown, staged, stageEntry_eq_ok hstaged, hreceipt, rfl⟩

/-- `recordCycleLocked` leaves the run as it is if it raises. -/
theorem atomic_recordCycleLocked {record : CycleRecord} {publish : Bool}
    {delivery : Option DeliveryRecord} : Atomic (recordCycleLocked record publish delivery) := by
  unfold recordCycleLocked
  refine .get_bind fun run => ?_
  split
  · exact atomic_lift
  · unfold recordNewCycle
    exact .get_bind fun _ => .lift_bind fun _ _ => .lift_bind fun _ _ => atomic_modify_pure

omit [Integrity] in
/-- The slot after storing a cycle revision. -/
theorem slot_withCycle {record : CycleRecord} {receipt : CycleReceipt} {staged : StagedEntry}
    {publish : Bool} : (((run.append staged).withCycle record receipt).trustIf publish).slot
      = run.slot.addCycle staged record receipt := by
  cases publish <;> rfl

/-- Storing a revision that does not commit extends a slot. -/
theorem recordCycleLocked_extends {record : CycleRecord} {publish : Bool} {receipt : CycleReceipt}
    (hstate : record.state ≠ .committed)
    (h : recordCycleLocked record publish none run = .ok receipt t) :
    Relation.ReflTransGen Extends run.slot t.slot := by
  rcases recordCycleLocked_eq_ok h with ⟨rfl, -⟩ | ⟨-, staged, hstaged, hreceipt, rfl⟩
  · exact .refl
  · rw [slot_withCycle]
    exact .single (.cycle record receipt staged hstaged hreceipt
      fun hcommitted => absurd hcommitted hstate)

/-- Storing and publishing a revision that does not commit extends a live run. -/
theorem recordCycleLocked_endsIn (hrun : run.Live) {record : CycleRecord}
    (hstate : record.state ≠ .committed) :
    EndsIn (recordCycleLocked record true) run (Extended run) := by
  refine .of_atomic atomic_recordCycleLocked hrun.extended fun receipt t h => ?_
  refine ⟨recordCycleLocked_extends hstate h, ?_⟩
  rcases recordCycleLocked_eq_ok h with ⟨rfl, -⟩ | ⟨-, staged, hstaged, hreceipt, rfl⟩
  · exact hrun.trusted
  · exact ⟨rfl, rfl⟩

/-! ## Commands that do not commit -/

omit [Integrity] in
/-- The first revisions of the cycles of a decision are first revisions. -/
theorem mem_existingBeginnings {projection : Projection} {decisionId : UUID4} {cycle : CycleRecord}
    (h : cycle ∈ existingBeginnings projection decisionId) :
    ∃ id, projection.cycleHistory.get? (id, 1) = some cycle
      ∧ cycle.invocationDecisionId = decisionId := by
  unfold existingBeginnings at h
  obtain ⟨item, hitem, rfl⟩ := List.mem_map.mp h
  obtain ⟨hmem, hfirst⟩ := List.mem_filter.mp hitem
  rw [Bool.and_eq_true, decide_eq_true_eq, decide_eq_true_eq] at hfirst
  refine ⟨item.1.1, ?_, hfirst.2⟩
  rw [← hfirst.1]
  exact Dict.get?_eq_some.mpr hmem

/-- Beginning a cycle extends a live run. -/
theorem beginCycleLocked_endsIn (hrun : run.Live) {command : BeginCycle} :
    EndsIn (beginCycleLocked command) run (Extended run) := by
  have hsame := hrun.extended
  unfold beginCycleLocked
  refine .get_bind (.lift_bind hsame fun _ _ => .lift_bind hsame fun _ _ =>
    .lift_bind hsame fun decision _ => .lift_bind hsame fun _ _ => ?_)
  split
  · next existing hexisting =>
    -- a first revision is pending, and so is the retry of it
    obtain ⟨id, hfirst, -⟩ := mem_existingBeginnings (List.mem_of_head? hexisting)
    have hpending : existing.state = .pending := hrun.settled.cycleInvariant.kept.start hfirst
    unfold rebeginCycle
    refine .lift_bind hsame fun _ _ => .lift_bind hsame fun retry hretry => ?_
    have hfields := transitionCycle_eq_ok hretry
    exact recordCycleLocked_endsIn hrun (by rw [hfields]; simp [hpending])
  · unfold beginNewCycle
    refine .get_bind (.lift_bind hsame fun _ _ => .lift_bind hsame fun _ _ =>
      .lift_bind hsame fun cycle hcycle => ?_)
    rw [mapError_eq_ok] at hcycle
    obtain ⟨hvalid, rfl⟩ := validate_eq_ok.mp hcycle
    exact recordCycleLocked_endsIn hrun (by simp [BeginCycle.pending])

/-- Moving a cycle to a state before its commit extends a live run. -/
theorem advanceCycleLocked_endsIn (hrun : run.Live) {operation : String} {id : Sha256Digest}
    {expectedRevision : ℕ} {expectedState : CycleState} {update : CycleRecord → CycleRecordFields}
    (hupdate : ∀ base, (update base).state ≠ .committed) :
    EndsIn (advanceCycleLocked operation id expectedRevision expectedState update) run
      (Extended run) := by
  have hsame := hrun.extended
  unfold advanceCycleLocked
  refine .get_bind (.lift_bind hsame fun _ _ => .lift_bind hsame fun _ _ =>
    .lift_bind hsame fun base _ => .lift_bind hsame fun cycle hcycle => ?_)
  exact recordCycleLocked_endsIn hrun (by rw [transitionCycle_eq_ok hcycle]; exact hupdate base)

/-- Failing a cycle extends a live run. -/
theorem failCycleLocked_endsIn (hrun : run.Live) {command : FailCycle} :
    EndsIn (failCycleLocked command) run (Extended run) := by
  have hsame := hrun.extended
  unfold failCycleLocked
  refine .get_bind (.lift_bind hsame fun _ _ => .lift_bind hsame fun _ _ =>
    .lift_bind hsame fun base _ => .lift_bind hsame fun _ _ => .lift_bind hsame fun settlement _ =>
    .lift_bind hsame fun cycle hcycle => ?_)
  exact recordCycleLocked_endsIn hrun (by rw [transitionCycle_eq_ok hcycle]; simp [FailCycle.next])

/-- A round of the recovery extends a slot. -/
theorem failRecovered_extends {recoveredAt : UtcDatetime} {cycle : CycleRecord}
    {receipt : CycleReceipt} (h : failRecovered recoveredAt cycle run = .ok receipt t) :
    Relation.ReflTransGen Extends run.slot t.slot := by
  unfold failRecovered at h
  obtain ⟨failed, hfailed, h⟩ := lift_bind_eq_ok.mp h
  rw [mapError_eq_ok] at hfailed
  obtain ⟨hvalid, rfl⟩ := validate_eq_ok.mp hfailed
  exact recordCycleLocked_extends (by simp) h

/-- The recovery of the cycles extends a live run. -/
theorem recoverCyclesLocked_endsIn (hrun : run.Live) {runId : UUID4} {recoveredAt : UtcDatetime} :
    EndsIn (recoverCyclesLocked runId recoveredAt) run (Extended run) := by
  have hsame := hrun.extended
  unfold recoverCyclesLocked
  refine .get_bind (.lift_bind hsame fun _ hacquire => .lift_bind hsame fun _ _ => ?_)
  refine .bind (fun e t h => atomic_onCopy h ▸ hsame) fun shadow t h => ?_
  obtain ⟨hloop, rfl⟩ := onCopy_eq_ok.mp h
  have hshadow : Relation.ReflTransGen Extends run.slot shadow.2.slot :=
    mapM_relation (R := fun s t : RunState => Relation.ReflTransGen Extends s.slot t.slot)
      (fun _ => .refl) (fun _ _ _ => .trans) (fun _ _ _ _ _ => failRecovered_extends) hloop
  have hpublish := publishIf_endsIn hrun (hrun.ledgerHead_ne_none hacquire) hshadow
  exact .bind (hpublish _ _).error fun u t ht => .pure ((hpublish _ _).ok u t ht)

/-! ## Commits -/

omit [Integrity] in
/-- The delivery that a commit enqueues is made of the command. -/
theorem enqueuedDelivery_eq_ok {command : CommitCycle} {cycle : CycleRecord}
    {delivery : Option DeliveryRecord} (h : enqueuedDelivery command cycle = .ok delivery) :
    (command.delivery = none ∧ delivery = none)
      ∨ ∃ plan target record, command.delivery = some plan
        ∧ command.intervention.deliveryTarget = some target ∧ delivery = some record
        ∧ record.toDeliveryRecordFields = command.pendingDelivery cycle plan target := by
  unfold enqueuedDelivery at h
  cases hplan : command.delivery with
  | none =>
    rw [hplan] at h
    exact .inl ⟨rfl, (pure_eq_ok.mp h).symm⟩
  | some plan =>
    rw [hplan] at h
    simp only [bind_eq_ok, expect_eq_ok, mapError_eq_ok, pure_eq_ok] at h
    obtain ⟨target, htarget, record, hrecord, rfl⟩ := h
    obtain ⟨hvalid, rfl⟩ := validate_eq_ok.mp hrecord
    exact .inr ⟨plan, target, _, rfl, htarget, rfl, rfl⟩

/-- What `stageCommit` does when it returns. -/
theorem stageCommit_eq_ok {cycle : CycleRecord} {delivery : Option DeliveryRecord}
    {receipt : CycleReceipt} (h : stageCommit cycle delivery run = .ok receipt t) :
    ∃ middle, recordCycleLocked cycle false delivery run = .ok receipt middle
      ∧ ((delivery = none ∧ t = middle)
        ∨ ∃ record made, delivery = some record
          ∧ recordDeliveryLocked record false middle = .ok made t) := by
  unfold stageCommit at h
  obtain ⟨created, middle, hcycle, h⟩ := Stateful.bind_eq_ok.mp h
  obtain ⟨⟨⟩, u, hloop, h⟩ := Stateful.bind_eq_ok.mp h
  cases h
  refine ⟨middle, hcycle, ?_⟩
  cases delivery with
  | none =>
    rw [Option.toList_none, List.forM_nil] at hloop
    cases hloop
    exact .inl ⟨rfl, rfl⟩
  | some record =>
    rw [Option.toList_some, List.forM_cons] at hloop
    obtain ⟨⟨⟩, v, hfirst, hrest⟩ := Stateful.bind_eq_ok.mp hloop
    obtain ⟨made, w, hdelivery, hdone⟩ := Stateful.bind_eq_ok.mp hfirst
    rw [List.forM_nil] at hrest
    cases hdone
    cases hrest
    exact .inr ⟨record, made, rfl, hdelivery⟩

/-- The first revision of a delivery, of a cycle that is about to commit, is new. -/
theorem fresh_initialDelivery {slot : Slot} (hslot : slot.Settled) {cycle : CycleRecord}
    {delivery : DeliveryRecord} {staged : StagedEntry}
    (hstaged : IsStaged slot (.cycleRecord cycle) staged) (hrevision : delivery.revision = 1)
    (hcycle : delivery.cycleId = cycle.cycleId) {existing : DeliveryTransitionReceipt} :
    slot.deliveryRecords.get? (delivery.deliveryId, delivery.revision)
      ≠ some ⟨delivery, existing⟩ := by
  intro hget
  have hhistory : slot.projection.deliveryHistory.get? (delivery.deliveryId, 1) = some delivery := by
    rw [← hrevision, hslot.deliveryRecords_get?, hget]
    rfl
  have hinitial := get?_of_pendingByCycle hslot.complete.pending hhistory
  rw [hcycle] at hinitial
  have hmem := Dict.mem_of_get? hinitial
  obtain ⟨owner, howner, hreminder⟩ := hslot.complete.owner hslot.cycleInvariant hmem
  obtain ⟨decision, hchecked⟩ := hstaged.accepted.cycleChecked
  exact hchecked.previous_state howner (CycleRecord.state_of_isCommittedReminder hreminder)

/-- A staged commit that leads to a complete projection extends a settled slot. -/
theorem stageCommit_extends {slot : Slot} (hslot : slot.Settled) (hrun : run.slot = slot)
    {cycle : CycleRecord} {delivery : Option DeliveryRecord} {receipt : CycleReceipt}
    (hfresh : (cycle.cycleId, cycle.revision) ∉ slot.cycleRecords)
    (h : stageCommit cycle delivery run = .ok receipt t)
    (hcomplete : validateCompleteProjection t.slot.projection = .ok ()) :
    Extends slot t.slot ∧ t.slot.ledgerHead ≠ none
      ∧ t.slot.cycleRecords.get? (cycle.cycleId, cycle.revision) = some ⟨cycle, receipt⟩ := by
  subst hrun
  obtain ⟨middle, hcycle, hrest⟩ := stageCommit_eq_ok h
  rcases recordCycleLocked_eq_ok hcycle with
    ⟨-, existing, hget, -⟩ | ⟨-, first, hfirst, hreceipt, rfl⟩
  · exact absurd (Dict.mem_of_get? hget) hfresh
  rcases hrest with ⟨rfl, rfl⟩ | ⟨record, made, rfl, hdelivery⟩
  · rw [slot_withCycle] at hcomplete ⊢
    exact ⟨.cycle cycle receipt first hfirst hreceipt fun _ => hcomplete, Option.some_ne_none _,
      Dict.get?_set_self⟩
  · obtain ⟨-, hfields⟩ := cycleReceipt_eq_ok hreceipt
    have hcarries := receipt.delivery_spec.2 record (congrArg CycleReceiptFields.delivery hfields)
    rw [hfields] at hcarries
    obtain ⟨-, -, hrevision, -, hid, -⟩ := hcarries
    rcases recordDeliveryLocked_eq_ok hdelivery with
      ⟨-, existing, hget, -⟩ | ⟨-, second, hsecond, rfl, rfl⟩
    · rw [slot_withCycle] at hget
      exact absurd hget (fresh_initialDelivery hslot hfirst hrevision hid)
    · rw [slot_withCycle] at hsecond
      rw [slot_withDelivery, slot_withCycle] at hcomplete ⊢
      exact ⟨.reminder cycle record receipt first second hfirst hreceipt hsecond hcomplete,
        Option.some_ne_none _, Dict.get?_set_self⟩

/-- What `commitNewCycle` does when it returns: it publishes the staged commit. -/
theorem commitNewCycle_eq_ok {command : CommitCycle} {cycle : CycleRecord} {receipt : CycleReceipt}
    (h : commitNewCycle command cycle run = .ok receipt t) :
    ∃ delivery shadow, enqueuedDelivery command cycle = .ok delivery
      ∧ stageCommit cycle delivery run = .ok receipt shadow
      ∧ validateCompleteProjection shadow.slot.projection = .ok ()
      ∧ t = (run.publishShadow shadow).trust := by
  unfold commitNewCycle at h
  obtain ⟨delivery, hdelivery, h⟩ := lift_bind_eq_ok.mp h
  obtain ⟨⟨created, shadow⟩, u, hcopy, h⟩ := Stateful.bind_eq_ok.mp h
  obtain ⟨hstage, rfl⟩ := onCopy_eq_ok.mp hcopy
  obtain ⟨hcomplete, h⟩ := Stateful.check_bind_eq_ok.mp h
  obtain ⟨⟨⟩, v, hpublish, h⟩ := Stateful.bind_eq_ok.mp h
  unfold publishIf at hpublish
  rw [if_pos rfl, modify_bind, get_bind, Stateful.raiseIf_bind_eq_ok] at hpublish
  cases hpublish.2
  cases h
  exact ⟨delivery, shadow, hdelivery, hstage, hcomplete, rfl⟩

/-- A staged commit has a head. -/
theorem stageCommit_ledgerHead {cycle : CycleRecord} {delivery : Option DeliveryRecord}
    {receipt : CycleReceipt} (hfresh : run.slot.cycleRecords.get? (cycle.cycleId, cycle.revision) = none)
    (h : stageCommit cycle delivery run = .ok receipt t) : t.slot.ledgerHead ≠ none := by
  obtain ⟨middle, hcycle, hrest⟩ := stageCommit_eq_ok h
  rcases recordCycleLocked_eq_ok hcycle with ⟨-, existing, hget, -⟩ | ⟨-, first, -, -, rfl⟩
  · rw [hfresh] at hget
    cases hget
  rcases hrest with ⟨-, rfl⟩ | ⟨record, made, -, hdelivery⟩
  · exact Option.some_ne_none _
  · rcases recordDeliveryLocked_eq_ok hdelivery with ⟨rfl, -⟩ | ⟨-, second, -, -, rfl⟩
    · exact Option.some_ne_none _
    · exact Option.some_ne_none _

/-- A commit that raises changes nothing. -/
theorem commitNewCycle_error {command : CommitCycle} {cycle : CycleRecord} {e : RepositoryError}
    (hfresh : run.slot.cycleRecords.get? (cycle.cycleId, cycle.revision) = none)
    (h : commitNewCycle command cycle run = .error e t) : t = run := by
  unfold commitNewCycle at h
  rcases Stateful.bind_eq_error.mp h with h | ⟨delivery, u, hdelivery, h⟩
  · exact atomic_lift h
  obtain ⟨-, rfl⟩ := lift_eq_ok.mp hdelivery
  rcases Stateful.bind_eq_error.mp h with h | ⟨⟨receipt, shadow⟩, v, hcopy, h⟩
  · exact atomic_onCopy h
  obtain ⟨hstage, rfl⟩ := onCopy_eq_ok.mp hcopy
  rcases Stateful.bind_eq_error.mp h with h | ⟨⟨⟩, w, hcomplete, h⟩
  · exact atomic_lift h
  obtain ⟨-, rfl⟩ := lift_eq_ok.mp hcomplete
  -- the copy has a head, so publishing it does not raise
  have hhead := stageCommit_ledgerHead hfresh hstage
  unfold publishIf at h
  rw [if_pos rfl] at h
  rcases Stateful.bind_eq_error.mp h with h | ⟨⟨⟩, x, hpublish, h⟩
  · rw [modify_bind, get_bind] at h
    have hguard : raiseIf ((run.publishShadow shadow).slot.ledgerHead = none)
        (RepositoryError.projectionInvariant "cycle commit shadow is incomplete") = .ok () :=
      raiseIf_eq_ok.mpr hhead
    rw [lift_bind_of_ok hguard] at h
    cases h
  · cases h

/-- The match on the cached revision, in `commit_cycle`. -/
theorem commitCycleLocked_eq_ok {command : CommitCycle} {receipt : CycleReceipt}
    (h : commitCycleLocked command run = .ok receipt t) : ∃ base cycle,
      cycleBase run.slot command.cycleId command.expectedRevision (some .running) = .ok base
      ∧ transitionCycle "commit_cycle" (command.next base) = .ok cycle
      ∧ ((∃ existing, run.slot.cycleRecords.get? (cycle.cycleId, cycle.revision) = some existing
          ∧ recommitCycle command cycle existing = .ok receipt ∧ t = run)
        ∨ (run.slot.cycleRecords.get? (cycle.cycleId, cycle.revision) = none
          ∧ commitNewCycle command cycle run = .ok receipt t)) := by
  unfold commitCycleLocked at h
  rw [get_bind] at h
  obtain ⟨-, -, h⟩ := lift_bind_eq_ok.mp h
  obtain ⟨-, -, h⟩ := lift_bind_eq_ok.mp h
  obtain ⟨base, hbase, h⟩ := lift_bind_eq_ok.mp h
  obtain ⟨-, -, h⟩ := lift_bind_eq_ok.mp h
  obtain ⟨cycle, hcycle, h⟩ := lift_bind_eq_ok.mp h
  refine ⟨base, cycle, hbase, hcycle, ?_⟩
  cases hknown : run.slot.cycleRecords.get? (cycle.cycleId, cycle.revision) with
  | some existing =>
    simp only [hknown] at h
    obtain ⟨hreceipt, rfl⟩ := lift_eq_ok.mp h
    exact .inl ⟨existing, rfl, hreceipt, rfl⟩
  | none =>
    simp only [hknown] at h
    exact .inr ⟨rfl, h⟩

/-- `commit_cycle` leaves the run as it is if it raises. -/
theorem atomic_commitCycleLocked {command : CommitCycle} : Atomic (commitCycleLocked command) := by
  intro run e t h
  unfold commitCycleLocked at h
  rw [get_bind] at h
  rcases Stateful.bind_eq_error.mp h with h | ⟨_, _, hu, h⟩
  · exact atomic_lift h
  obtain ⟨-, rfl⟩ := lift_eq_ok.mp hu
  rcases Stateful.bind_eq_error.mp h with h | ⟨_, _, hu, h⟩
  · exact atomic_lift h
  obtain ⟨-, rfl⟩ := lift_eq_ok.mp hu
  rcases Stateful.bind_eq_error.mp h with h | ⟨_, _, hu, h⟩
  · exact atomic_lift h
  obtain ⟨-, rfl⟩ := lift_eq_ok.mp hu
  rcases Stateful.bind_eq_error.mp h with h | ⟨_, _, hu, h⟩
  · exact atomic_lift h
  obtain ⟨-, rfl⟩ := lift_eq_ok.mp hu
  rcases Stateful.bind_eq_error.mp h with h | ⟨cycle, _, hu, h⟩
  · exact atomic_lift h
  obtain ⟨-, rfl⟩ := lift_eq_ok.mp hu
  cases hknown : run.slot.cycleRecords.get? (cycle.cycleId, cycle.revision) with
  | some existing =>
    simp only [hknown] at h
    exact atomic_lift h
  | none =>
    simp only [hknown] at h
    exact commitNewCycle_error hknown h

/-- A commit extends a live run. -/
theorem commitCycleLocked_endsIn (hrun : run.Live) {command : CommitCycle} :
    EndsIn (commitCycleLocked command) run (Extended run) := by
  refine .of_atomic atomic_commitCycleLocked hrun.extended fun receipt t h => ?_
  obtain ⟨base, cycle, -, -, ⟨existing, -, -, rfl⟩ | ⟨hnone, hnew⟩⟩ := commitCycleLocked_eq_ok h
  · exact hrun.extended
  obtain ⟨delivery, shadow, -, hstage, hcomplete, rfl⟩ := commitNewCycle_eq_ok hnew
  obtain ⟨hextends, hhead, -⟩ :=
    stageCommit_extends hrun.settled rfl (Dict.get?_eq_none.mp hnone) hstage hcomplete
  exact ⟨.single hextends, (run.publishShadow shadow).trusted_trust hhead⟩

end SalienceGate
