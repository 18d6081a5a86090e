import SalienceGate.Repository.ConditionalBatch
import SalienceGate.Repository.Located
import SalienceGate.Repository.Outcomes
import SalienceGate.Repository.Reminders

/-!
# Operations that raise

An operation that raises leaves the repository as it was: what is checked after a record was stored holds
of every record that is stored. And an operation that returns found its run, or began it.
-/

namespace SalienceGate

open Checked
open Stateful hiding bind_eq_ok check_bind_eq_ok raiseIf_bind_eq_ok expect_bind_eq_ok

variable [Hashing] [Integrity] {run t : RunState} {slot : Slot}

/-! ## Attempts -/

/-- The receipt of an attempt that was stored can be made. -/
theorem atomic_beginAttemptLocked {rule : DeliveryRule} : Atomic (beginAttemptLocked rule) := by
  unfold beginAttemptLocked
  refine .get_bind fun run => .lift_bind fun _ _ => .lift_bind fun _ _ => .lift_bind fun retried _ => ?_
  cases retried with
  | some receipt => exact atomic_lift
  | none =>
    refine .lift_bind fun record _ => .lift_bind fun envelope henvelope => ?_
    intro s e t h
    rcases Stateful.bind_eq_error.mp h with hraised | ⟨receipt, u, hstored, hlast⟩
    · exact atomic_recordDeliveryLocked hraised
    · rcases recordDeliveryLocked_eq_ok hstored with ⟨rfl, -⟩ | ⟨-, staged, -, rfl, -⟩
      · exact atomic_lift hlast
      · -- a new record is returned with its envelope
        have hcheck : DeliveryAttemptReceiptFields.check
            { DeliveryTransitionReceipt.ofEntry staged.entry record with envelope := some envelope } = .ok () := by
          unfold DeliveryAttemptReceiptFields.check
          rw [refuse_bind_eq_ok, refuse_eq_ok]
          constructor
          · exact not_not.mpr rfl
          · rintro ⟨found, hfound, hnot⟩
            cases hfound
            exact hnot (attemptEnvelope_eq_ok henvelope)
        have hcreate : (DeliveryAttemptReceipt.create
            { DeliveryTransitionReceipt.ofEntry staged.entry record with envelope := some envelope }).mapError
              RepositoryError.validation = .ok ⟨_, hcheck⟩ := mapError_eq_ok.mpr (validate_self hcheck)
        rw [hcreate] at hlast
        cases hlast

/-! ## Recoveries -/

/-- Publishing a copy that extends a live run does not raise. -/
theorem publishIf_returns (hhead : run.slot.ledgerHead ≠ none) {shadow : RunState}
    (hshadow : Relation.ReflTransGen Extends run.slot shadow.slot) (mutated : Bool) (message : String) :
    ∃ t, publishIf mutated shadow message run = .ok () t := by
  have hshadowHead := ledgerHead_ne_none hshadow hhead
  unfold publishIf
  cases mutated with
  | false => exact ⟨run, rfl⟩
  | true =>
    have hguard : raiseIf ((run.publishShadow shadow).slot.ledgerHead = none)
        (RepositoryError.projectionInvariant message) = .ok () := raiseIf_eq_ok.mpr hshadowHead
    rw [if_pos rfl, modify_bind, get_bind, lift_bind_of_ok hguard]
    exact ⟨_, rfl⟩

/-- A recovery of the cycles leaves a live run as it is if it raises. -/
theorem recoverCyclesLocked_error (hrun : run.Live) {runId : UUID4} {recoveredAt : UtcDatetime}
    {e : RepositoryError} (h : recoverCyclesLocked runId recoveredAt run = .error e t) : t = run := by
  unfold recoverCyclesLocked at h
  rw [get_bind] at h
  rcases Stateful.bind_eq_error.mp h with h | ⟨_, _, hu, h⟩
  · exact atomic_lift h
  obtain ⟨hacquire, rfl⟩ := lift_eq_ok.mp hu
  rcases Stateful.bind_eq_error.mp h with h | ⟨_, _, hu, h⟩
  · exact atomic_lift h
  obtain ⟨-, rfl⟩ := lift_eq_ok.mp hu
  rcases Stateful.bind_eq_error.mp h with h | ⟨shadow, u, hu, h⟩
  · exact atomic_onCopy h
  obtain ⟨hloop, rfl⟩ := onCopy_eq_ok.mp hu
  have hshadow : Relation.ReflTransGen Extends run.slot shadow.2.slot :=
    mapM_relation (R := fun s t : RunState => Relation.ReflTransGen Extends s.slot t.slot)
      (fun _ => .refl) (fun _ _ _ => .trans) (fun _ _ _ _ _ => failRecovered_extends) hloop
  obtain ⟨v, hpublished⟩ := publishIf_returns (hrun.ledgerHead_ne_none hacquire) hshadow (!shadow.1.isEmpty)
    "recovery shadow state is incomplete"
  rw [bind_of_ok hpublished] at h
  cases h

/-- A round of the recovery of the deliveries marks the latest revision unknown. -/
theorem markRecovered_latest (hslot : run.slot.Settled) {recoveredAt : UtcDatetime} {delivery : DeliveryRecord}
    (hlatest : run.slot.projection.deliveries.get? delivery.deliveryId = some delivery)
    {receipt : DeliveryTransitionReceipt} (h : markRecovered recoveredAt delivery run = .ok receipt t) :
    receipt.appended = true ∧ receipt.delivery.state = .unknown ∧ receipt.delivery.runId = run.slot.runId
      ∧ t.slot.Settled ∧ t.slot.runId = run.slot.runId
      ∧ ∀ id, id ≠ delivery.deliveryId → t.slot.projection.deliveries.get? id
        = run.slot.projection.deliveries.get? id := by
  have hkept := hslot.toReplays.deliveryInvariant.kept
  unfold markRecovered at h
  obtain ⟨record, hrecord, h⟩ := lift_bind_eq_ok.mp h
  have hfields := transitionDelivery_eq_ok hrecord
  have hid : record.deliveryId = delivery.deliveryId := by rw [hfields]; rfl
  have hrevision : record.revision = delivery.revision + 1 := by rw [hfields]; rfl
  have hstate : record.state = .unknown := by rw [hfields]; rfl
  have hrunId : record.runId = run.slot.runId := by
    have howned := hslot.toReplays.owned.deliveries (hkept.stored hlatest)
    rw [hslot.toReplays.projection_runId] at howned
    rw [hfields]
    exact howned
  rcases recordDeliveryLocked_eq_ok h with ⟨-, existing, hexisting, -⟩ | ⟨-, staged, hstaged, rfl, rfl⟩
  · -- the revision after the latest one is not stored
    have hmem := Dict.mem_of_get? hexisting
    rw [hslot.toReplays.mem_deliveryRecords, hid, hkept.contiguous] at hmem
    obtain ⟨latest, hget, -, hle⟩ := hmem
    rw [hlatest, Option.some.injEq] at hget
    subst hget
    have hle : record.revision ≤ delivery.revision := hle
    omega
  · have hlater : record.revision ≠ 1 := by
      have hone := delivery.one_le_revision
      omega
    refine ⟨rfl, hstate, hrunId, ?_, rfl, fun id hne => ?_⟩
    · rw [slot_withDelivery]
      exact (Extends.delivery record staged hstaged hlater).settled hslot
    · show staged.projected.deliveries.get? id = _
      have haccepted := hstaged.accepted
      generalize staged.projected = projected at haccepted
      cases haccepted with
      | delivery delivery cycle intervention checked =>
        exact Dict.get?_set_of_ne (by rw [hid]; exact hne)

/-- The loop of the recovery marks every attempt unknown. -/
theorem mapM_markRecovered {recoveredAt : UtcDatetime} {deliveries : List DeliveryRecord}
    (hslot : run.slot.Settled)
    (hlatest : ∀ delivery ∈ deliveries,
      run.slot.projection.deliveries.get? delivery.deliveryId = some delivery)
    (hnodup : (deliveries.map (·.deliveryId)).Nodup) {receipts : List DeliveryTransitionReceipt}
    (h : deliveries.mapM (markRecovered recoveredAt) run = .ok receipts t) :
    t.slot.Settled ∧ t.slot.runId = run.slot.runId ∧ ∀ receipt ∈ receipts,
      receipt.appended = true ∧ receipt.delivery.state = .unknown ∧ receipt.delivery.runId = run.slot.runId := by
  induction deliveries generalizing run receipts with
  | nil =>
    cases h
    exact ⟨hslot, rfl, fun _ hmem => by cases hmem⟩
  | cons delivery deliveries ih =>
    rw [List.mapM_cons] at h
    obtain ⟨receipt, u, hround, h⟩ := Stateful.bind_eq_ok.mp h
    obtain ⟨rest, v, hloop, h⟩ := Stateful.bind_eq_ok.mp h
    cases h
    obtain ⟨happended, hstate, hrunId, hsettled, hsame, hothers⟩ :=
      markRecovered_latest hslot (hlatest delivery List.mem_cons_self) hround
    rw [List.map_cons, List.nodup_cons] at hnodup
    obtain ⟨hnew, hnodup⟩ := hnodup
    have hkept : ∀ other ∈ deliveries, u.slot.projection.deliveries.get? other.deliveryId = some other := by
      intro other hother
      have hne : other.deliveryId ≠ delivery.deliveryId := fun heq =>
        hnew (heq ▸ List.mem_map_of_mem hother)
      rw [hothers _ hne]
      exact hlatest other (List.mem_cons_of_mem _ hother)
    obtain ⟨hlast, hrun, hall⟩ := ih hsettled hkept hnodup hloop
    rw [hsame] at hrun hall
    refine ⟨hlast, hrun, fun found hfound => ?_⟩
    rcases List.mem_cons.mp hfound with rfl | hfound
    · exact ⟨happended, hstate, hrunId⟩
    · exact hall found hfound

/-- The latest revisions, in their order, are those of the projection, once each. -/
theorem sortedDeliveries_spec (hslot : slot.Replays) :
    (∀ delivery ∈ sortedDeliveries slot.projection,
      slot.projection.deliveries.get? delivery.deliveryId = some delivery)
    ∧ ((sortedDeliveries slot.projection).map (·.deliveryId)).Nodup := by
  have hkept := hslot.deliveryInvariant.kept
  have hids : (sortedDeliveries slot.projection).map (·.deliveryId)
      = (slot.projection.deliveries.items.insertionSort fun a b => a.1.int.toNat ≤ b.1.int.toNat).map Prod.fst := by
    unfold sortedDeliveries
    rw [List.map_map]
    refine List.map_congr_left fun item hitem => ?_
    exact hkept.ident_latest (Dict.get?_eq_some.mpr ((List.mem_insertionSort _).mp hitem))
  constructor
  · intro delivery hmem
    obtain ⟨item, hitem, rfl⟩ := List.mem_map.mp hmem
    have hget : slot.projection.deliveries.get? item.1 = some item.2 :=
      Dict.get?_eq_some.mpr ((List.mem_insertionSort _).mp hitem)
    rw [show item.2.deliveryId = item.1 from hkept.ident_latest hget]
    exact hget
  · rw [hids]
    exact ((List.perm_insertionSort _ _).map Prod.fst).nodup_iff.mpr slot.projection.deliveries.nodup_keys

omit [Hashing] [Integrity] in
/-- Parts of a list that exclude each other have no identity twice. -/
theorem nodup_map_append {α β : Type} {f : α → β} {latest xs ys : List α} (hnodup : (latest.map f).Nodup)
    (hxs : (xs.map f).Nodup) (hys : (ys.map f).Nodup) (hxs' : ∀ x ∈ xs, x ∈ latest) (hys' : ∀ y ∈ ys, y ∈ latest)
    (hdisjoint : ∀ x ∈ xs, x ∉ ys) : ((xs ++ ys).map f).Nodup := by
  rw [List.map_append, List.nodup_append]
  refine ⟨hxs, hys, fun i hi j hj heq => ?_⟩
  obtain ⟨x, hx, rfl⟩ := List.mem_map.mp hi
  obtain ⟨y, hy, rfl⟩ := List.mem_map.mp hj
  have hsame : x = y := List.inj_on_of_nodup_map hnodup (hxs' x hx) (hys' y hy) heq
  exact hdisjoint x hx (hsame ▸ hy)

/-- The receipt of a recovery can be made of a replayed slot. -/
theorem recoveryReceipt_check (hslot : slot.Replays) {marked : List DeliveryTransitionReceipt}
    (hmarked : ∀ receipt ∈ marked, receipt.appended = true ∧ receipt.delivery.state = .unknown
      ∧ receipt.delivery.runId = slot.runId) :
    (recoveryReceipt slot.projection slot.runId marked).check = .ok () := by
  obtain ⟨hlatest, hnodup⟩ := sortedDeliveries_spec hslot
  have hrun : ∀ delivery ∈ sortedDeliveries slot.projection, delivery.runId = slot.runId := by
    intro delivery hmem
    have hstored := hslot.deliveryInvariant.kept.stored (hlatest delivery hmem)
    exact (hslot.owned.deliveries hstored).trans hslot.projection_runId
  have hpart : ∀ p : DeliveryRecord → Bool,
      (((sortedDeliveries slot.projection).filter p).map (·.deliveryId)).Nodup :=
    fun p => hnodup.sublist (List.filter_sublist.map _)
  unfold DeliveryRecoveryReceiptFields.check DeliveryRecoveryReceiptFields.categories recoveryReceipt
  simp only [refuse_bind_eq_ok, refuse_eq_ok, not_exists, not_and, not_or, not_not]
  refine ⟨fun category hcategory record hrecord => ?_, ?_, fun record hrecord => ?_, fun record hrecord => ?_,
    fun receipt hreceipt => ?_⟩
  · simp only [List.mem_cons, List.not_mem_nil, or_false] at hcategory
    rcases hcategory with rfl | rfl | rfl | rfl
    all_goals
      obtain ⟨hmem, hp⟩ := List.mem_filter.mp hrecord
      simp only [Bool.and_eq_true, decide_eq_true_eq] at hp
    · exact ⟨hrun record hmem, hp⟩
    · exact ⟨hrun record hmem, hp⟩
    · exact ⟨hrun record hmem, hp.1⟩
    · exact ⟨hrun record hmem, hp.1⟩
  · simp only [List.flatMap_cons, List.flatMap_nil, List.append_nil, ← List.map_append]
    -- the state, or else the adapter, tells the categories apart
    have hsub : ∀ p : DeliveryRecord → Bool, ∀ delivery ∈ (sortedDeliveries slot.projection).filter p,
        delivery ∈ sortedDeliveries slot.projection := fun p delivery hmem => List.mem_of_mem_filter hmem
    have hunknown := nodup_map_append hnodup (hpart fun d => d.state = .unknown && d.adapterDeduplicates)
      (hpart fun d => d.state = .unknown && !d.adapterDeduplicates) (hsub _) (hsub _) (by simp; grind)
    have hclaimed := nodup_map_append hnodup (hpart fun d => d.state = .claimed) hunknown (hsub _)
      (by simp; grind) (by simp; grind)
    exact nodup_map_append hnodup (hpart fun d => d.state = .pending) hclaimed (hsub _) (by simp; grind)
      (by simp; grind)
  · obtain ⟨-, hp⟩ := List.mem_filter.mp hrecord
    simp only [Bool.and_eq_true, decide_eq_true_eq] at hp
    rw [hp.2]
    exact Bool.true_eq_false_eq_False
  · obtain ⟨-, hp⟩ := List.mem_filter.mp hrecord
    simp only [Bool.and_eq_true, decide_eq_true_eq, Bool.not_eq_true'] at hp
    rw [hp.2]
    exact Bool.false_ne_true
  · obtain ⟨happended, hstate, hrunId⟩ := hmarked receipt hreceipt
    rw [happended]
    exact ⟨hrunId, hstate, Bool.true_eq_false_eq_False⟩

/-- A recovery of the deliveries leaves a live run as it is if it raises. -/
theorem recoverDeliveriesLocked_error (hrun : run.Live) {runId : UUID4} (hid : run.slot.runId = runId)
    {recoveredAt : UtcDatetime} {e : RepositoryError}
    (h : recoverDeliveriesLocked runId recoveredAt run = .error e t) : t = run := by
  unfold recoverDeliveriesLocked at h
  rw [get_bind] at h
  rcases Stateful.bind_eq_error.mp h with h | ⟨_, _, hu, h⟩
  · exact atomic_lift h
  obtain ⟨hacquire, rfl⟩ := lift_eq_ok.mp hu
  rcases Stateful.bind_eq_error.mp h with h | ⟨_, _, hu, h⟩
  · exact atomic_lift h
  obtain ⟨-, rfl⟩ := lift_eq_ok.mp hu
  rcases Stateful.bind_eq_error.mp h with h | ⟨_, _, hu, h⟩
  · exact atomic_lift h
  obtain ⟨-, rfl⟩ := lift_eq_ok.mp hu
  rcases Stateful.bind_eq_error.mp h with h | ⟨shadow, u, hu, h⟩
  · exact atomic_onCopy h
  obtain ⟨hloop, rfl⟩ := onCopy_eq_ok.mp hu
  have hshadow : Relation.ReflTransGen Extends run.slot shadow.2.slot :=
    mapM_relation (R := fun s t : RunState => Relation.ReflTransGen Extends s.slot t.slot)
      (fun _ => .refl) (fun _ _ _ => .trans) (fun _ _ _ _ _ => markRecovered_extends) hloop
  obtain ⟨v, hpublished⟩ := publishIf_returns (hrun.ledgerHead_ne_none hacquire) hshadow (!shadow.1.isEmpty)
    "delivery recovery shadow is incomplete"
  obtain ⟨hlatest, hnodup⟩ := sortedDeliveries_spec hrun.settled.toReplays
  obtain ⟨hsettled, hrunId, hmarked⟩ := mapM_markRecovered hrun.settled
    (fun delivery hmem => hlatest delivery (List.mem_of_mem_filter hmem))
    (hnodup.sublist (List.filter_sublist.map _)) hloop
  rw [← hrunId] at hmarked
  have hcheck := recoveryReceipt_check hsettled.toReplays hmarked
  rw [bind_of_ok hpublished, ← hid, ← hrunId] at h
  have hcreate : (DeliveryRecoveryReceipt.create (recoveryReceipt shadow.2.slot.projection
      shadow.2.slot.runId shadow.1)).mapError RepositoryError.validation = .ok ⟨_, hcheck⟩ :=
    mapError_eq_ok.mpr (validate_self hcheck)
  rw [hcreate] at h
  cases h

/-! ## Operations -/

theorem atomic_beginCycleLocked {command : BeginCycle} : Atomic (beginCycleLocked command) := by
  unfold beginCycleLocked
  refine .get_bind fun run => .lift_bind fun _ _ => .lift_bind fun _ _ => .lift_bind fun _ _ =>
    .lift_bind fun _ _ => ?_
  split
  · unfold rebeginCycle
    exact .lift_bind fun _ _ => .lift_bind fun _ _ => atomic_recordCycleLocked
  · unfold beginNewCycle
    exact .get_bind fun _ => .lift_bind fun _ _ => .lift_bind fun _ _ => .lift_bind fun _ _ =>
      atomic_recordCycleLocked

theorem atomic_advanceCycleLocked {operation : String} {id : Sha256Digest} {expectedRevision : ℕ}
    {state : CycleState} {update : CycleRecord → CycleRecordFields} :
    Atomic (advanceCycleLocked operation id expectedRevision state update) := by
  unfold advanceCycleLocked
  exact .get_bind fun _ => .lift_bind fun _ _ => .lift_bind fun _ _ => .lift_bind fun _ _ =>
    .lift_bind fun _ _ => atomic_recordCycleLocked

theorem atomic_failCycleLocked {command : FailCycle} : Atomic (failCycleLocked command) := by
  unfold failCycleLocked
  exact .get_bind fun _ => .lift_bind fun _ _ => .lift_bind fun _ _ => .lift_bind fun _ _ =>
    .lift_bind fun _ _ => .lift_bind fun _ _ => .lift_bind fun _ _ => atomic_recordCycleLocked

theorem atomic_transitionLocked {rule : DeliveryRule} : Atomic (transitionLocked rule) := by
  unfold transitionLocked
  refine .get_bind fun _ => .lift_bind fun _ _ => .lift_bind fun _ _ => .lift_bind fun retried _ => ?_
  cases retried with
  | some receipt => exact atomic_pure
  | none => exact .lift_bind fun _ _ => atomic_recordDeliveryLocked

theorem atomic_rebuildLocked {runId : UUID4} : Atomic (rebuildLocked runId) := by
  unfold rebuildLocked
  exact .get_bind fun _ => .lift_bind fun _ _ => .lift_bind fun _ _ => .lift_bind fun _ _ => atomic_modify_pure

theorem atomic_recordDirect {runId : UUID4} {record : DirectLedgerRecord} : Atomic (recordDirect runId record) :=
  atomic_onRun (.get_bind fun _ => .lift_bind fun _ _ => atomic_recordDirectLocked)

variable [Redactor] [Serialization] {repository next : Repository}

omit [Integrity] in
/-- A command on one run leaves the repository as it is if it raises. -/
theorem atomic_submitted {α β : Type} {name : String} {argument : Argument α} {record : α → SubmittedRecord}
    {x : α → RepositoryM β} (hx : ∀ value, Atomic (x value)) :
    Atomic (do
      let validated ← validateCommand name argument
      validateRecordContent (record validated) name
      x validated : RepositoryM β) :=
  .lift_bind fun _ _ => .lift_bind fun _ _ => hx _

omit [Integrity] [Redactor] [Serialization] in
/-- A recovery leaves the repository as it is if it raises, if its run stays as it is. -/
theorem recovery_error {β : Type} {id : Argument UUID4} {recoveredAt : Argument UtcDatetime}
    {x : UUID4 → UtcDatetime → RunM β} {e : RepositoryError}
    (hx : ∀ runId recoveredAt t, x runId recoveredAt (repository runId) = .error e t → t = repository runId)
    (h : (do
      let runId ← validateRunId id
      let recoveredAt ← validateRecoveryTime recoveredAt
      onRun runId (x runId recoveredAt) : RepositoryM β) repository = .error e next) : next = repository := by
  rcases Stateful.bind_eq_error.mp h with h | ⟨runId, _, hu, h⟩
  · exact atomic_lift h
  obtain ⟨-, rfl⟩ := lift_eq_ok.mp hu
  rcases Stateful.bind_eq_error.mp h with h | ⟨recoveredAt, _, hu, h⟩
  · exact atomic_lift h
  obtain ⟨-, rfl⟩ := lift_eq_ok.mp hu
  unfold onRun Stateful.zoom at h
  cases hraised : x runId recoveredAt (repository runId) with
  | ok a t =>
    rw [hraised] at h
    cases h
  | error e' t =>
    rw [hraised] at h
    cases h
    rw [hx runId recoveredAt t hraised]
    exact Function.update_eq_self runId repository

/-- An operation leaves a live repository as it is if it raises. -/
theorem Operation.perform_error (hlive : repository.Live) {operation : Operation} {e : RepositoryError}
    (h : operation.perform repository = .error e next) : next = repository := by
  cases operation with
  | append event eventId newId =>
    have hatomic : Atomic (SalienceGate.append event eventId newId) := by
      unfold SalienceGate.append
      exact .lift_bind fun _ _ => .lift_bind fun _ _ => .lift_bind fun _ _ => .lift_bind fun _ _ =>
        atomic_onRun (.get_bind fun _ => .lift_bind fun _ _ => atomic_appendToSlot)
    exact hatomic.map h
  | appendEventIfHead event eventId expectedHead =>
    have hatomic : Atomic (SalienceGate.appendEventIfHead event eventId expectedHead) := by
      unfold SalienceGate.appendEventIfHead
      exact .lift_bind fun _ _ => .lift_bind fun _ _ => .lift_bind fun _ _ => .lift_bind fun _ _ =>
        .lift_bind fun _ _ => atomic_onRun (.get_bind fun _ => .lift_bind fun _ _ =>
          .get_bind fun _ => .lift_bind fun _ _ => atomic_appendConditionalToSlot)
    exact hatomic.map h
  | appendRecordsIfHead => exact atomic_appendRecordsIfHead.map h
  | recordSignal => exact (atomic_submitted fun _ => atomic_recordDirect).map h
  | recordSignalIfHead signal expectedHead =>
    have hatomic : Atomic (SalienceGate.recordSignalIfHead signal expectedHead) := by
      unfold SalienceGate.recordSignalIfHead
      exact .lift_bind fun _ _ => .lift_bind fun _ _ => .lift_bind fun _ _ => atomic_onRun
        (.get_bind fun _ => .lift_bind fun _ _ => .get_bind fun _ => .lift_bind fun _ _ =>
          atomic_recordDirectLocked)
    exact hatomic.map h
  | recordInvocationDecision => exact (atomic_submitted fun _ => atomic_recordDirect).map h
  | recordOutcome => exact (atomic_submitted fun _ => atomic_recordDirect).map h
  | beginCycle => exact (atomic_submitted fun _ => atomic_onRun atomic_beginCycleLocked).map h
  | reserveCycle => exact (atomic_submitted fun _ => atomic_onRun atomic_advanceCycleLocked).map h
  | markCycleRunning => exact (atomic_submitted fun _ => atomic_onRun atomic_advanceCycleLocked).map h
  | commitCycle => exact atomic_commitCycle.map h
  | failCycle => exact (atomic_submitted fun _ => atomic_onRun atomic_failCycleLocked).map h
  | claimDelivery => exact (atomic_submitted fun _ => atomic_onRun atomic_transitionLocked).map h
  | beginDeliveryAttempt => exact (atomic_submitted fun _ => atomic_onRun atomic_beginAttemptLocked).map h
  | completeDelivery => exact (atomic_submitted fun _ => atomic_onRun atomic_transitionLocked).map h
  | markDeliveryUnknown => exact (atomic_submitted fun _ => atomic_onRun atomic_transitionLocked).map h
  | rejectDelivery => exact (atomic_submitted fun _ => atomic_onRun atomic_transitionLocked).map h
  | recoverCycles id recoveredAt =>
    exact recovery_error (fun runId _ _ hx => recoverCyclesLocked_error (hlive.live runId) hx)
      (map_eq_error.mp h)
  | recoverDeliveries id recoveredAt =>
    exact recovery_error
      (fun runId _ _ hx => recoverDeliveriesLocked_error (hlive.live runId) (hlive.runId runId) hx)
      (map_eq_error.mp h)
  | rebuild id =>
    have hatomic : Atomic (SalienceGate.rebuild id) := by
      unfold SalienceGate.rebuild
      exact .lift_bind fun _ _ => atomic_onRun atomic_rebuildLocked
    exact hatomic.map h

/-! ## The first operation of a run -/

/-- A method of a run that begins with finding it. -/
def Finds {β : Type} (x : RunM β) : Prop :=
  ∀ run a t, x run = .ok a t → acquireSlot run = .ok ()

omit [Integrity] [Redactor] [Serialization] in
theorem finds_get {β : Type} {f : RunState → Unit → RunM β} :
    Finds (do
      let run ← get
      let u ← acquireSlot run
      f run u) := by
  intro run a t h
  rw [get_bind] at h
  obtain ⟨_, hacquire, -⟩ := lift_bind_eq_ok.mp h
  exact hacquire

omit [Integrity] [Redactor] [Serialization] in
/-- An empty run is not found. -/
theorem acquireSlot_empty (runId : UUID4) : acquireSlot (RunState.empty runId) ≠ .ok () :=
  fun h => acquireSlot_eq_ok h rfl

omit [Integrity] [Redactor] [Serialization] in
/-- A method that begins with finding its run raises on a repository without runs. -/
theorem Finds.onRun_ne_ok {β : Type} {x : RunM β} (hx : Finds x) {runId : UUID4} {a : β} :
    onRun runId x Repository.empty ≠ .ok a next := by
  intro h
  obtain ⟨t, hrun, -⟩ := onRun_eq_ok.mp h
  exact acquireSlot_empty runId (hx _ _ _ hrun)

omit [Integrity] in
/-- A command that begins with finding its run raises on a repository without runs. -/
theorem submitted_ne_ok {α β : Type} {name : String} {argument : Argument α} {record : α → SubmittedRecord}
    {run : α → UUID4} {x : α → RunM β} (hx : ∀ value, Finds (x value)) {a : β} :
    (do
      let validated ← validateCommand name argument
      validateRecordContent (record validated) name
      onRun (run validated) (x validated) : RepositoryM β) Repository.empty ≠ .ok a next := by
  intro h
  obtain ⟨value, -, h⟩ := lift_bind_eq_ok.mp h
  obtain ⟨-, h⟩ := Stateful.check_bind_eq_ok.mp h
  exact (hx value).onRun_ne_ok h

omit [Integrity] [Redactor] [Serialization] in
/-- A recovery raises on a repository without runs. -/
theorem recovery_ne_ok {β : Type} {id : Argument UUID4} {recoveredAt : Argument UtcDatetime}
    {x : UUID4 → UtcDatetime → RunM β} (hx : ∀ runId recoveredAt, Finds (x runId recoveredAt)) {a : β} :
    (do
      let runId ← validateRunId id
      let recoveredAt ← validateRecoveryTime recoveredAt
      onRun runId (x runId recoveredAt) : RepositoryM β) Repository.empty ≠ .ok a next := by
  intro h
  obtain ⟨runId, -, h⟩ := lift_bind_eq_ok.mp h
  obtain ⟨recoveredAt, -, h⟩ := lift_bind_eq_ok.mp h
  exact (hx runId recoveredAt).onRun_ne_ok h

omit [Serialization] in
/-- The first append of a run stores its event. -/
theorem append_empty {event : Argument NormalizedTraceEventDraft} {eventId : Option (Argument UUID4)}
    {newId : Option UUID4} {receipt : AppendReceipt}
    (h : append event eventId newId Repository.empty = .ok receipt next) :
    ∃ runId, (next runId).slot.ledgerHead ≠ none := by
  unfold append at h
  obtain ⟨draft, -, h⟩ := lift_bind_eq_ok.mp h
  obtain ⟨_, -, h⟩ := lift_bind_eq_ok.mp h
  obtain ⟨-, h⟩ := Stateful.check_bind_eq_ok.mp h
  obtain ⟨redacted, hredacted, h⟩ := lift_bind_eq_ok.mp h
  obtain ⟨t, hrun, rfl⟩ := onRun_eq_ok.mp h
  rw [get_bind] at hrun
  obtain ⟨-, hrun⟩ := Stateful.check_bind_eq_ok.mp hrun
  refine ⟨draft.runId, ?_⟩
  rw [Function.update_self]
  cases appendToSlot_eq_ok (sourceEventId_redactDraft hredacted) hrun with
  | duplicate _ known => cases known
  | cached _ known => cases known
  | collision _ _ known => cases known
  | event => exact Option.some_ne_none _

omit [Serialization] in
/-- The first conditional append of a run stores its event. -/
theorem appendEventIfHead_empty {event : Argument NormalizedTraceEventDraft} {eventId : Argument UUID4}
    {expectedHead : Option (Argument LedgerHead)} {receipt : AppendReceipt}
    (h : appendEventIfHead event eventId expectedHead Repository.empty = .ok receipt next) :
    ∃ runId, (next runId).slot.ledgerHead ≠ none := by
  unfold appendEventIfHead at h
  obtain ⟨draft, -, h⟩ := lift_bind_eq_ok.mp h
  obtain ⟨_, -, h⟩ := lift_bind_eq_ok.mp h
  obtain ⟨_, -, h⟩ := lift_bind_eq_ok.mp h
  obtain ⟨-, h⟩ := Stateful.check_bind_eq_ok.mp h
  obtain ⟨redacted, -, h⟩ := lift_bind_eq_ok.mp h
  obtain ⟨t, hrun, rfl⟩ := onRun_eq_ok.mp h
  rw [get_bind] at hrun
  obtain ⟨-, hrun⟩ := Stateful.check_bind_eq_ok.mp hrun
  rw [get_bind] at hrun
  obtain ⟨-, hrun⟩ := Stateful.check_bind_eq_ok.mp hrun
  refine ⟨draft.runId, ?_⟩
  rw [Function.update_self]
  unfold appendConditionalToSlot at hrun
  rw [get_bind] at hrun
  have hnew : appendNewEventToSlot draft redacted (some _) none true (Repository.empty draft.runId)
      = .ok receipt t := hrun
  obtain ⟨added, staged, -, -, rfl⟩ := appendNewEventToSlot_eq_ok hnew
  exact Option.some_ne_none _

/-- The first batch of a run stores its records. -/
theorem appendRecordsIfHead_empty {operations : Argument (List (Argument ConditionalAppendOperation))}
    {expectedHead : Option (Argument LedgerHead)} {receipt : ConditionalBatchReceipt}
    (h : appendRecordsIfHead operations expectedHead Repository.empty = .ok receipt next) :
    ∃ runId, (next runId).slot.ledgerHead ≠ none := by
  unfold appendRecordsIfHead at h
  obtain ⟨batch, hbatch, h⟩ := lift_bind_eq_ok.mp h
  obtain ⟨_, -, h⟩ := lift_bind_eq_ok.mp h
  obtain ⟨t, hrun, rfl⟩ := onRun_eq_ok.mp h
  refine ⟨batch.1, ?_⟩
  rw [Function.update_self]
  obtain ⟨prepared, -, hall, -⟩ := prepareConditionalBatch_eq_ok hbatch
  obtain ⟨-, -, -, shadow, hloop, hfinal, rfl⟩ := appendRecordsLocked_eq_ok hrun
  split
  · show shadow.slot.ledgerHead ≠ none
    rw [hfinal]
    exact Option.some_ne_none _
  · next hnone =>
    -- a batch that stores nothing leaves the copy without a head
    have hslot := (live_repository_empty.live batch.1).settled
    obtain ⟨hbatched, hlength⟩ := mapM_stageOperation_eq_ok hall hslot (.refl _) hloop
    have hcount : receipt.receipts.countP (·.appended) = 0 := by
      rw [List.countP_eq_zero]
      intro found hfound happended
      exact hnone (List.any_eq_true.mpr ⟨found, hfound, happended⟩)
    have hledger : shadow.slot.ledger = [] := by
      rw [hcount] at hlength
      exact List.length_eq_zero_iff.mp hlength.symm
    rw [(hslot.of_extended hbatched.extended).vacant.mpr hledger] at hfinal
    cases hfinal

/-- An operation that returns on a repository without runs begins one. -/
theorem Operation.perform_empty {operation : Operation} {receipt : OperationReceipt}
    (h : operation.perform Repository.empty = .ok receipt next) :
    ∃ runId, (next runId).slot.ledgerHead ≠ none := by
  have hdirect : ∀ {runId : UUID4} {record : DirectLedgerRecord} {made : LedgerReceipt},
      recordDirect runId record Repository.empty ≠ .ok made next := finds_get.onRun_ne_ok
  cases operation with
  | append =>
    obtain ⟨made, hmade, -⟩ := map_eq_ok.mp h
    exact append_empty hmade
  | appendEventIfHead =>
    obtain ⟨made, hmade, -⟩ := map_eq_ok.mp h
    exact appendEventIfHead_empty hmade
  | appendRecordsIfHead =>
    obtain ⟨made, hmade, -⟩ := map_eq_ok.mp h
    exact appendRecordsIfHead_empty hmade
  | recordSignalIfHead signal expectedHead =>
    obtain ⟨made, hmade, -⟩ := map_eq_ok.mp h
    unfold SalienceGate.recordSignalIfHead at hmade
    obtain ⟨_, -, hmade⟩ := lift_bind_eq_ok.mp hmade
    obtain ⟨_, -, hmade⟩ := lift_bind_eq_ok.mp hmade
    obtain ⟨-, hmade⟩ := Stateful.check_bind_eq_ok.mp hmade
    obtain ⟨t, hrun, -⟩ := onRun_eq_ok.mp hmade
    rw [get_bind] at hrun
    obtain ⟨hacquire, -⟩ := Stateful.check_bind_eq_ok.mp hrun
    cases hacquire
  | recordSignal | recordInvocationDecision | recordOutcome | beginCycle | reserveCycle | markCycleRunning
    | commitCycle | failCycle | claimDelivery | beginDeliveryAttempt | completeDelivery
    | markDeliveryUnknown | rejectDelivery =>
    obtain ⟨made, hmade, -⟩ := map_eq_ok.mp h
    exact absurd hmade (submitted_ne_ok fun _ => finds_get)
  | recoverCycles | recoverDeliveries =>
    obtain ⟨made, hmade, -⟩ := map_eq_ok.mp h
    exact absurd hmade (recovery_ne_ok fun _ _ => finds_get)
  | rebuild =>
    obtain ⟨made, hmade, -⟩ := map_eq_ok.mp h
    unfold SalienceGate.rebuild at hmade
    obtain ⟨_, -, hmade⟩ := lift_bind_eq_ok.mp hmade
    exact absurd hmade finds_get.onRun_ne_ok

end SalienceGate
