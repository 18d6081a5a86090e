import SalienceGate.Repository.Appended

/-!
# What the delivery commands do

A delivery command finds the revision that it made, and returns its receipt, or stores one more
revision after the latest. Each of the rules makes the next revision of the same delivery
(`DeliveryRule.Advances`), so that no command stores a first revision.
-/

namespace SalienceGate

open Checked
open Stateful hiding bind_eq_ok check_bind_eq_ok raiseIf_bind_eq_ok expect_bind_eq_ok

variable [Hashing] [Integrity] {run t : RunState}

/-! ## Rules -/

/-- A rule makes the next revision of the same delivery. -/
def DeliveryRule.Advances (rule : DeliveryRule) : Prop :=
  ∀ previous, (rule.next previous).deliveryId = previous.deliveryId
    ∧ (rule.next previous).revision = previous.revision + 1

omit [Hashing] [Integrity] in
theorem ClaimDelivery.advances (command : ClaimDelivery) : command.rule.Advances :=
  fun _ => ⟨rfl, rfl⟩

omit [Hashing] [Integrity] in
theorem BeginDeliveryAttempt.advances (command : BeginDeliveryAttempt) : command.rule.Advances :=
  fun _ => ⟨rfl, rfl⟩

omit [Hashing] [Integrity] in
theorem CompleteDelivery.advances (command : CompleteDelivery) : command.rule.Advances :=
  fun _ => ⟨rfl, rfl⟩

omit [Hashing] [Integrity] in
theorem MarkDeliveryUnknown.advances (command : MarkDeliveryUnknown) : command.rule.Advances :=
  fun _ => ⟨rfl, rfl⟩

omit [Hashing] [Integrity] in
theorem RejectDelivery.advances (command : RejectDelivery) : command.rule.Advances :=
  fun _ => ⟨rfl, rfl⟩

omit [Hashing] [Integrity] in
/-- A record that passes its check has the fields it was made of. -/
theorem transitionDelivery_eq_ok {operation : String} {updated : DeliveryRecordFields}
    {record : DeliveryRecord} (h : transitionDelivery operation updated = .ok record) :
    record.toDeliveryRecordFields = updated := by
  unfold transitionDelivery at h
  cases hcreate : DeliveryRecord.create updated with
  | error e =>
    rw [hcreate] at h
    cases h
  | ok created =>
    rw [hcreate] at h
    cases h
    obtain ⟨hvalid, rfl⟩ := validate_eq_ok.mp hcreate
    rfl

omit [Integrity] in
/-- The latest revision of a delivery, at the number that the command expects. -/
theorem deliveryBase_eq_ok {slot : Slot} {deliveryId : UUID4} {expectedRevision : ℕ}
    {base : DeliveryRecord} (h : deliveryBase slot deliveryId expectedRevision = .ok base) :
    slot.projection.deliveries.get? deliveryId = some base ∧ base.revision = expectedRevision := by
  unfold deliveryBase at h
  simp only [expect_bind_eq_ok, raiseIf_bind_eq_ok, pure_eq_ok, not_not] at h
  obtain ⟨latest, hlatest, hrevision, rfl⟩ := h
  exact ⟨hlatest, hrevision⟩

/-- A new revision that a rule makes of the latest one. -/
structure DeliveryRule.Makes (rule : DeliveryRule) (slot : Slot) (base record : DeliveryRecord) :
    Prop where
  latest : slot.projection.deliveries.get? rule.deliveryId = some base
  expected : base.revision = rule.expectedRevision
  admits : rule.admits base.state = true
  guard : rule.guard base = .ok ()
  record_eq : transitionDelivery rule.operation (rule.next base) = .ok record

omit [Integrity] in
theorem DeliveryRule.record_eq_ok {rule : DeliveryRule} {slot : Slot} {record : DeliveryRecord}
    (h : rule.record slot = .ok record) : ∃ base, rule.Makes slot base record := by
  unfold DeliveryRule.record at h
  simp only [bind_eq_ok, raiseIf_eq_ok, Bool.not_eq_false] at h
  obtain ⟨base, hbase, _, hadmits, _, hguard, hrecord⟩ := h
  obtain ⟨hlatest, hrevision⟩ := deliveryBase_eq_ok hbase
  exact ⟨base, hlatest, hrevision, hadmits, hguard, hrecord⟩

omit [Integrity] in
/-- A command never makes a first revision. -/
theorem DeliveryRule.Makes.revision_eq {rule : DeliveryRule} {slot : Slot}
    {base record : DeliveryRecord} (h : rule.Makes slot base record) (hrule : rule.Advances) :
    record.deliveryId = base.deliveryId ∧ record.revision = rule.expectedRevision + 1 := by
  have hfields := transitionDelivery_eq_ok h.record_eq
  rw [hfields, (hrule base).1, (hrule base).2, h.expected]
  exact ⟨rfl, rfl⟩

/-! ## Storing a revision -/

/-- What `recordDeliveryLocked` does when it returns: it finds the revision, or stores it. -/
theorem recordDeliveryLocked_eq_ok {record : DeliveryRecord} {publish : Bool}
    {receipt : DeliveryTransitionReceipt} (h : recordDeliveryLocked record publish run = .ok receipt t) :
    (t = run ∧ ∃ existing, run.slot.deliveryRecords.get? (record.deliveryId, record.revision)
        = some ⟨record, existing⟩ ∧ receipt = existing.repeated)
      ∨ ((record.deliveryId, record.revision) ∉ run.slot.deliveryRecords
        ∧ ∃ staged, IsStaged run.slot (.deliveryRecord record) staged
        ∧ receipt = .ofEntry staged.entry record
        ∧ t = ((run.append staged).withDelivery record receipt).trustIf publish) := by
  unfold recordDeliveryLocked at h
  rw [get_bind] at h
  cases hknown : run.slot.deliveryRecords.get? (record.deliveryId, record.revision) with
  | some existing =>
    simp only [hknown] at h
    obtain ⟨hreceipt, rfl⟩ := lift_eq_ok.mp h
    unfold recordExistingDelivery at hreceipt
    rw [raiseIf_bind_eq_ok, pure_eq_ok, not_not] at hreceipt
    obtain ⟨rfl, rfl⟩ := hreceipt
    exact .inl ⟨rfl, existing.receipt, rfl, rfl⟩
  | none =>
    simp only [hknown] at h
    rw [Dict.get?_eq_none] at hknown
    unfold recordNewDelivery at h
    rw [get_bind] at h
    obtain ⟨staged, hstaged, h⟩ := lift_bind_eq_ok.mp h
    cases h
    exact .inr ⟨hknown, staged, stageEntry_eq_ok hstaged, rfl, rfl⟩

/-- `recordDeliveryLocked` leaves the run as it is if it raises. -/
theorem atomic_recordDeliveryLocked {record : DeliveryRecord} {publish : Bool} :
    Atomic (recordDeliveryLocked record publish) := by
  unfold recordDeliveryLocked
  refine .get_bind fun run => ?_
  split
  · exact atomic_lift
  · unfold recordNewDelivery
    exact .get_bind fun _ => .lift_bind fun _ _ => atomic_modify_pure

omit [Integrity] in
/-- The slot after storing a delivery revision. -/
theorem slot_withDelivery {record : DeliveryRecord} {staged : StagedEntry} {publish : Bool} :
    (((run.append staged).withDelivery record (.ofEntry staged.entry record)).trustIf publish).slot
      = run.slot.addDelivery staged record := by
  cases publish <;> rfl

/-- Storing a later revision extends a slot. -/
theorem recordDeliveryLocked_extends {record : DeliveryRecord} {publish : Bool}
    {receipt : DeliveryTransitionReceipt} (hlater : record.revision ≠ 1)
    (h : recordDeliveryLocked record publish run = .ok receipt t) :
    Relation.ReflTransGen Extends run.slot t.slot := by
  rcases recordDeliveryLocked_eq_ok h with ⟨rfl, -⟩ | ⟨-, staged, hstaged, rfl, rfl⟩
  · exact .refl
  · rw [slot_withDelivery]
    exact .single (.delivery record staged hstaged hlater)

/-- Storing and publishing a later revision extends a live run. -/
theorem recordDeliveryLocked_endsIn (hrun : run.Live) {record : DeliveryRecord}
    (hlater : record.revision ≠ 1) :
    EndsIn (recordDeliveryLocked record true) run (Extended run) := by
  refine .of_atomic atomic_recordDeliveryLocked hrun.extended fun receipt t h => ?_
  refine ⟨recordDeliveryLocked_extends hlater h, ?_⟩
  rcases recordDeliveryLocked_eq_ok h with ⟨rfl, -⟩ | ⟨-, staged, hstaged, rfl, rfl⟩
  · exact hrun.trusted
  · exact ⟨rfl, rfl⟩

/-! ## The commands -/

omit [Integrity] in
theorem DeliveryRule.Makes.later {rule : DeliveryRule} {slot : Slot} {base record : DeliveryRecord}
    (h : rule.Makes slot base record) (hrule : rule.Advances) : record.revision ≠ 1 := by
  have hone := base.one_le_revision
  rw [(h.revision_eq hrule).2, ← h.expected]
  omega

/-- A command that moves a delivery extends a live run. -/
theorem transitionLocked_endsIn (hrun : run.Live) {rule : DeliveryRule} (hrule : rule.Advances) :
    EndsIn (transitionLocked rule) run (Extended run) := by
  have hsame := hrun.extended
  unfold transitionLocked
  refine .get_bind ?_
  refine .lift_bind hsame fun _ _ => .lift_bind hsame fun _ _ => .lift_bind hsame fun retried _ => ?_
  cases retried with
  | some receipt => exact .pure hsame
  | none =>
    refine .lift_bind hsame fun record hrecord => ?_
    obtain ⟨base, hmakes⟩ := DeliveryRule.record_eq_ok hrecord
    exact recordDeliveryLocked_endsIn hrun (hmakes.later hrule)

/-- The beginning of an attempt extends a live run. -/
theorem beginAttemptLocked_endsIn (hrun : run.Live) {rule : DeliveryRule} (hrule : rule.Advances) :
    EndsIn (beginAttemptLocked rule) run (Extended run) := by
  have hsame := hrun.extended
  unfold beginAttemptLocked
  refine .get_bind ?_
  refine .lift_bind hsame fun _ _ => .lift_bind hsame fun _ _ => .lift_bind hsame fun retried _ => ?_
  cases retried with
  | some receipt => exact .lift hsame
  | none =>
    refine .lift_bind hsame fun record hrecord => .lift_bind hsame fun envelope _ => ?_
    obtain ⟨base, hmakes⟩ := DeliveryRule.record_eq_ok hrecord
    have hends := recordDeliveryLocked_endsIn hrun (hmakes.later hrule)
    exact .bind hends.error fun receipt t ht => .lift (hends.ok receipt t ht)

/-! ## Recovery -/

/-- A round of the recovery extends a slot. -/
theorem markRecovered_extends {recoveredAt : UtcDatetime} {delivery : DeliveryRecord}
    {receipt : DeliveryTransitionReceipt} (h : markRecovered recoveredAt delivery run = .ok receipt t) :
    Relation.ReflTransGen Extends run.slot t.slot := by
  unfold markRecovered at h
  obtain ⟨record, hrecord, h⟩ := lift_bind_eq_ok.mp h
  have hfields := transitionDelivery_eq_ok hrecord
  have hlater : record.revision ≠ 1 := by
    have hone := delivery.one_le_revision
    have hrevision : record.revision = delivery.revision + 1 := by rw [hfields]; rfl
    omega
  exact recordDeliveryLocked_extends hlater h

/-- A slot that grew from a settled one with a head has a head. -/
theorem ledgerHead_ne_none {slot u : Slot} (h : Relation.ReflTransGen Extends slot u)
    (hhead : slot.ledgerHead ≠ none) : u.ledgerHead ≠ none := by
  cases h with
  | refl => exact hhead
  | tail _ hstep => cases hstep <;> exact Option.some_ne_none _

/-- Publishing a copy that extends a live run extends the run. -/
theorem publishIf_endsIn (hrun : run.Live) (hhead : run.slot.ledgerHead ≠ none)
    {shadow : RunState} (hshadow : Relation.ReflTransGen Extends run.slot shadow.slot)
    (mutated : Bool) (message : String) : EndsIn (publishIf mutated shadow message) run (Extended run) := by
  have hshadowHead := ledgerHead_ne_none hshadow hhead
  have htrust : Extended run (run.publishShadow shadow).trust :=
    ⟨hshadow, (run.publishShadow shadow).trusted_trust hshadowHead⟩
  unfold publishIf
  cases mutated with
  | false => exact .pure hrun.extended
  | true =>
    constructor
    · intro _ t h
      rw [if_pos rfl, modify_bind, get_bind, Stateful.raiseIf_bind_eq_ok] at h
      cases h.2
      exact htrust
    · intro e t h
      rw [if_pos rfl, modify_bind, get_bind] at h
      have hguard : raiseIf ((run.publishShadow shadow).slot.ledgerHead = none)
          (RepositoryError.projectionInvariant message) = .ok () := raiseIf_eq_ok.mpr hshadowHead
      rw [lift_bind_of_ok hguard] at h
      cases h

/-- A run that is found has a head. -/
theorem RunState.Live.ledgerHead_ne_none (hrun : run.Live) (h : acquireSlot run = .ok ()) :
    run.slot.ledgerHead ≠ none := fun hnone =>
  acquireSlot_eq_ok h (hrun.isVacant_iff.mpr hnone)

/-- The recovery of the deliveries extends a live run. -/
theorem recoverDeliveriesLocked_endsIn (hrun : run.Live) {runId : UUID4} {recoveredAt : UtcDatetime} :
    EndsIn (recoverDeliveriesLocked runId recoveredAt) run (Extended run) := by
  have hsame := hrun.extended
  unfold recoverDeliveriesLocked
  refine .get_bind ?_
  refine .lift_bind hsame fun _ hacquire => .lift_bind hsame fun _ _ => .lift_bind hsame fun _ _ => ?_
  refine .bind (fun e t h => atomic_onCopy h ▸ hsame) fun shadow t h => ?_
  obtain ⟨hloop, rfl⟩ := onCopy_eq_ok.mp h
  have hshadow : Relation.ReflTransGen Extends run.slot shadow.2.slot :=
    mapM_relation (R := fun s t : RunState => Relation.ReflTransGen Extends s.slot t.slot)
      (fun _ => .refl) (fun _ _ _ => .trans) (fun _ _ _ _ _ => markRecovered_extends) hloop
  have hpublish := publishIf_endsIn hrun (hrun.ledgerHead_ne_none hacquire) hshadow
  exact .bind (hpublish _ _).error fun u t ht => .lift ((hpublish _ _).ok u t ht)

end SalienceGate
