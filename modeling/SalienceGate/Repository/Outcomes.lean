import SalienceGate.Projector.Sourced
import SalienceGate.Repository.Located
import SalienceGate.Repository.Retries

/-!
# What a delivery command ends with

A delivery command whose revision is in the ledger ends in one of two ways, if nothing but a race
stands against it (`DeliveryRule.Ready`): it returns the receipt of a stored revision, or the delivery
moved on and it raises a revision conflict.
-/

namespace SalienceGate

open Checked
open Stateful hiding bind_eq_ok check_bind_eq_ok raiseIf_bind_eq_ok expect_bind_eq_ok

variable [Hashing] [Integrity] {run t : RunState} {slot : Slot} {record : LedgerRecord}

/-! ## Staging -/

/-- The tags of a ledger are all made by the algorithm of the key. -/
theorem Slot.Replays.algorithm_lastChainTag (h : slot.Replays) {chainTag : PayloadDigest}
    (hlast : slot.lastChainTag = some chainTag) : chainTag.algorithm = PayloadMac.algorithm := by
  have hinvariant := foldlM_invariant (I := fun replayed : Replayed =>
    ∀ previous ∈ replayed.previous, previous.algorithm = PayloadMac.algorithm)
    (fun s entry next _ _ hround => ?_) (by rintro _ ⟨⟩) h.replayed
  · have hprevious : slot.replayed.previous = some chainTag := h.previous_eq.trans hlast
    exact hinvariant chainTag hprevious
  · obtain ⟨cursor, hcursor, hround⟩ := bind_eq_ok.mp hround
    obtain ⟨seeds, -, hround⟩ := bind_eq_ok.mp hround
    cases pure_eq_ok.mp hround
    obtain ⟨hverify, hcursor⟩ := check_bind_eq_ok.mp hcursor
    obtain ⟨projection, -, hcursor⟩ := bind_eq_ok.mp hcursor
    cases pure_eq_ok.mp hcursor
    -- the chain tag of the entry was verified
    simp only [verifyEntry, raiseIf_bind_eq_ok, raiseIf_eq_ok, not_not] at hverify
    rintro previous ⟨⟩
    rw [hverify.2.2.2]
    rfl

/-- An entry can be staged if the projection accepts its record, and its key is not too long. -/
theorem exists_stageEntry (hslot : slot.Replays) {q : Projection}
    (hrun : record.runId = slot.runId)
    (hkey : 1 ≤ (recordKey record).length ∧ (recordKey record).length ≤ 200)
    (happly : applyRecord slot.projection (slot.ledger.length + 1) record = .ok q) :
    ∃ staged, stageEntry slot record = .ok staged := by
  have hfirst : decide (slot.ledger.length + 1 = 1) = slot.lastChainTag.isNone := by
    unfold Slot.lastChainTag
    cases hledger : slot.ledger with
    | nil => rfl
    | cons entry entries => simp [List.getLast?_cons]
  have hcheck : (slot.nextEntry record).check = .ok () := by
    rw [LedgerEntryFields.check]
    simp only [constrain_bind_eq_ok, refuse_bind_eq_ok, refuse_eq_ok, not_or, not_not, not_exists,
      not_and]
    refine ⟨Nat.le_add_left 1 _, hkey.1, hkey.2, hrun, hfirst, rfl, fun previous hprevious => ?_⟩
    exact hslot.algorithm_lastChainTag hprevious
  have hentry : ledgerEntry slot record = .ok ⟨slot.nextEntry record, hcheck⟩ := by
    unfold ledgerEntry
    rw [bind_eq_ok]
    refine ⟨⟨slot.nextEntry record, hcheck⟩, ?_, ?_⟩
    · rw [mapError_eq_ok]
      exact validate_self hcheck
    · rw [check_bind_eq_ok]
      refine ⟨?_, rfl⟩
      simp only [verifyEntry, raiseIf_bind_eq_ok, raiseIf_eq_ok, Slot.nextEntry,
        LedgerEntryFields.chainValueTag, ne_eq, not_true_eq_false, or_self, not_false_eq_true,
        and_self]
  have happlied : applyEntry slot.projection ⟨slot.nextEntry record, hcheck⟩ = .ok q := by
    unfold applyEntry
    rw [raiseIf_bind_eq_ok, not_not]
    exact ⟨hrun.trans hslot.projection_runId.symm, happly⟩
  have hhead : ∃ head, ledgerHead slot ⟨slot.nextEntry record, hcheck⟩ q = .ok head := by
    have hsealed : (slot.nextHead ⟨slot.nextEntry record, hcheck⟩ q).check = .ok () := by
      rw [LedgerHeadFields.check]
      simp only [constrain_bind_eq_ok, refuse_eq_ok, not_or, not_not]
      exact ⟨Nat.le_add_left 1 _, rfl, rfl⟩
    unfold ledgerHead
    exact ⟨_, mapError_eq_ok.mpr (validate_self hsealed)⟩
  obtain ⟨head, hhead⟩ := hhead
  unfold stageEntry
  exact ⟨_, bind_eq_ok.mpr ⟨_, hentry, bind_eq_ok.mpr ⟨q, happlied,
    bind_eq_ok.mpr ⟨head, hhead, rfl⟩⟩⟩⟩

/-! ## Ready commands -/

/-- Nothing but a lost race stands against a command: the revision that it expects is stored and
passes its checks, and so does the one that it makes. -/
structure DeliveryRule.Ready (rule : DeliveryRule) (slot : Slot) (base : DeliveryRecord) : Prop where
  advances : rule.Advances
  stored : slot.projection.deliveryHistory.get? (rule.deliveryId, rule.expectedRevision) = some base
  admits : rule.admits base.state = true
  guard : rule.guard base = .ok ()
  /-- The latest revision is not one that the command races with. -/
  unraced : ∀ latest, slot.projection.deliveries.get? rule.deliveryId = some latest →
    rule.race latest = .ok ()
  valid : (rule.next base).check = .ok ()
  /-- The projector accepts the revision after the one expected. -/
  next : ∀ record : DeliveryRecord, record.toDeliveryRecordFields = rule.next base →
    validateNextDelivery slot.projection record base = .ok ()
  key : ("delivery:" ++ rule.deliveryId.toString ++ ":" ++ toString (rule.expectedRevision + 1)).length
    ≤ 200

namespace DeliveryRule.Ready

variable {rule : DeliveryRule} {base : DeliveryRecord}

omit [Integrity] in
/-- The revision that the command makes. -/
theorem transitionDelivery_eq (h : rule.Ready slot base) :
    transitionDelivery rule.operation (rule.next base) = .ok ⟨rule.next base, h.valid⟩ := by
  unfold transitionDelivery DeliveryRecord.create
  rw [validate_self h.valid]
  rfl

/-- A retry raises nothing. -/
theorem exists_retry (hslot : slot.Replays) (h : rule.Ready slot base) :
    ∃ retried, rule.retry slot = .ok retried ∧ ∀ receipt ∈ retried, receipt.appended = false := by
  have hkept := hslot.deliveryInvariant.kept
  obtain ⟨latest, hlatest, -⟩ := hkept.exists_latest h.stored
  have hrace : (slot.projection.deliveries.get? rule.deliveryId).elim (pure ()) rule.race = .ok () := by
    rw [hlatest]
    exact h.unraced latest hlatest
  have hretry : rule.retry slot
      = deliveryRetry slot rule.deliveryId rule.expectedRevision ⟨rule.next base, h.valid⟩ := by
    unfold retry
    rw [h.stored]
    simp only [h.admits, if_true]
    unfold retryFrom
    rw [h.guard, hrace, h.transitionDelivery_eq]
    rfl
  rw [hretry]
  unfold deliveryRetry
  rw [hlatest]
  simp only
  split
  · exact ⟨none, rfl, fun _ hmem => by cases hmem⟩
  · -- the latest revision has a receipt
    have hstored : slot.projection.deliveryHistory.get? (rule.deliveryId, latest.revision)
        = some latest := hkept.stored hlatest
    rw [hslot.deliveryRecords_get?, Option.map_eq_some_iff] at hstored
    obtain ⟨cached, hcached, -⟩ := hstored
    refine ⟨some cached.receipt.repeated, ?_, fun receipt hmem => ?_⟩
    · unfold repeatedReceipt
      rw [expect_bind_eq_ok]
      exact ⟨cached, hcached, rfl⟩
    · cases hmem
      rfl

/-- The command finds the delivery at another revision, or makes the next one. -/
theorem record_cases (hslot : slot.Replays) (h : rule.Ready slot base) :
    (∃ actual, rule.record slot
        = .error (.deliveryRevisionConflict rule.expectedRevision actual))
      ∨ (slot.projection.deliveries.get? rule.deliveryId = some base
        ∧ rule.record slot = .ok ⟨rule.next base, h.valid⟩) := by
  have hkept := hslot.deliveryInvariant.kept
  obtain ⟨latest, hlatest, -⟩ := hkept.exists_latest h.stored
  have hfound : expect (some latest) RepositoryError.deliveryNotFound = .ok latest := rfl
  by_cases hrevision : latest.revision = rule.expectedRevision
  · -- the latest revision is the one expected
    have hsame : latest = base := by
      have hstored : slot.projection.deliveryHistory.get? (rule.deliveryId, latest.revision)
          = some latest := hkept.stored hlatest
      rw [hrevision, h.stored] at hstored
      exact (Option.some.inj hstored).symm
    subst hsame
    refine .inr ⟨hlatest, ?_⟩
    have hbase : deliveryBase slot rule.deliveryId rule.expectedRevision = .ok latest := by
      unfold deliveryBase
      rw [hlatest, expect_bind_eq_ok]
      exact ⟨latest, rfl, raiseIf_bind_eq_ok.mpr ⟨not_not.mpr hrevision, rfl⟩⟩
    unfold record
    rw [hbase]
    simp only [bind, Except.bind, raiseIf, h.admits, Bool.true_eq_false, if_false, h.guard]
    exact h.transitionDelivery_eq
  · refine .inl ⟨some latest.revision, ?_⟩
    have hbase : deliveryBase slot rule.deliveryId rule.expectedRevision
        = .error (.deliveryRevisionConflict rule.expectedRevision (some latest.revision)) := by
      unfold deliveryBase
      simp only [hlatest, hfound, raiseIf, ne_eq, hrevision, not_false_eq_true, if_true, bind,
        Except.bind]
    unfold record
    rw [hbase]
    rfl

/-- The revision that the command makes of the latest one can be stored. -/
theorem exists_recordDeliveryLocked (hrun : run.Live) (h : rule.Ready run.slot base)
    (hlatest : run.slot.projection.deliveries.get? rule.deliveryId = some base) :
    ∃ receipt t, recordDeliveryLocked ⟨rule.next base, h.valid⟩ true run = .ok receipt t
      ∧ receipt.appended = true ∧ receipt.delivery = ⟨rule.next base, h.valid⟩ := by
  have hslot := hrun.settled.toReplays
  have hkept := hslot.deliveryInvariant.kept
  have hid : base.deliveryId = rule.deliveryId := hkept.ident_latest hlatest
  have hbaseRevision : base.revision = rule.expectedRevision := (hkept.key h.stored).2
  obtain ⟨hnextId, hnextRevision⟩ := h.advances base
  rw [hid] at hnextId
  rw [hbaseRevision] at hnextRevision
  have hrunId : base.runId = run.slot.runId :=
    (hslot.owned.deliveries h.stored).trans hslot.projection_runId
  have hidentity : DeliveryRecord.identity ⟨rule.next base, h.valid⟩ = base.identity := by
    have hnext := h.next ⟨rule.next base, h.valid⟩ rfl
    unfold validateNextDelivery at hnext
    rw [raiseIf_bind_eq_ok, not_not] at hnext
    exact hnext.1
  have hkey : recordKey (.deliveryRecord ⟨rule.next base, h.valid⟩)
      = "delivery:" ++ rule.deliveryId.toString ++ ":" ++ toString (rule.expectedRevision + 1) := by
    show "delivery:" ++ (rule.next base).deliveryId.toString ++ ":" ++ toString (rule.next base).revision
      = _
    rw [hnextId, hnextRevision]
  have hpositive : 1 ≤ ("delivery:" ++ rule.deliveryId.toString ++ ":"
      ++ toString (rule.expectedRevision + 1)).length := by
    rw [String.length_append, String.length_append, String.length_append]
    have hnine : "delivery:".length = 9 := by decide
    omega
  have happly : applyRecord run.slot.projection (run.slot.ledger.length + 1)
      (.deliveryRecord ⟨rule.next base, h.valid⟩)
        = .ok (run.slot.projection.addDelivery ⟨rule.next base, h.valid⟩) := by
    have hget : run.slot.projection.deliveries.get? (rule.next base).deliveryId = some base := by
      rw [hnextId]
      exact hlatest
    have hrevision : (rule.next base).revision = base.revision + 1 := by
      rw [hnextRevision, hbaseRevision]
    exact applyDelivery_of_next (deliveriesSourced hslot.run) hget hrevision
      (h.next ⟨rule.next base, h.valid⟩ rfl)
  have hrecordRun : (LedgerRecord.deliveryRecord ⟨rule.next base, h.valid⟩).runId = run.slot.runId :=
    (congrArg DeliveryIdentity.runId hidentity).trans hrunId
  obtain ⟨staged, hstaged⟩ := exists_stageEntry hslot hrecordRun (hkey ▸ ⟨hpositive, h.key⟩) happly
  have hnew : run.slot.deliveryRecords.get? ((rule.next base).deliveryId, (rule.next base).revision)
      = none := by
    rw [Dict.get?_eq_none, hslot.mem_deliveryRecords, hnextId, hnextRevision, hkept.contiguous]
    rintro ⟨latest, hget, -, hle⟩
    rw [hlatest, Option.some.injEq] at hget
    subst hget
    have : rule.expectedRevision + 1 ≤ base.revision := hle
    omega
  have hstored : ∃ t, recordDeliveryLocked ⟨rule.next base, h.valid⟩ true run
      = .ok (.ofEntry staged.entry ⟨rule.next base, h.valid⟩) t := by
    unfold recordDeliveryLocked
    rw [get_bind]
    simp only [hnew]
    unfold recordNewDelivery
    rw [get_bind, lift_bind_of_ok hstaged]
    exact ⟨_, rfl⟩
  obtain ⟨t, ht⟩ := hstored
  exact ⟨_, t, ht, rfl, rfl⟩

/-- A slot with a stored revision is found, and passes its checks. -/
theorem opens (hrun : run.Live) (h : rule.Ready run.slot base) :
    acquireSlot run = .ok () ∧ verifyHead run = .ok () := by
  have hhead : run.slot.ledgerHead ≠ none := by
    intro hnone
    have hledger := hrun.settled.vacant.mp hnone
    have hreplayed := hrun.settled.replayed
    rw [hledger, foldlM_nil_eq_ok] at hreplayed
    have hempty := congrArg (fun replayed : Replayed => replayed.projection.deliveryHistory) hreplayed
    have hstored := h.stored
    rw [show run.slot.projection.deliveryHistory = .empty from hempty.symm] at hstored
    cases hstored
  exact ⟨hrun.acquireSlot_eq hhead, hrun.verifyHead_eq hhead true⟩

/-- A ready command returns a receipt, or the delivery moved on. -/
theorem transitionLocked_cases (hrun : run.Live) (h : rule.Ready run.slot base) :
    (∃ receipt t, transitionLocked rule run = .ok receipt t)
      ∨ ∃ actual t, transitionLocked rule run
        = .error (.deliveryRevisionConflict rule.expectedRevision actual) t := by
  have hslot := hrun.settled.toReplays
  obtain ⟨hacquire, hverify⟩ := h.opens hrun
  obtain ⟨retried, hretry, -⟩ := h.exists_retry hslot
  unfold transitionLocked
  rw [get_bind, lift_bind_of_ok hacquire, lift_bind_of_ok hverify, lift_bind_of_ok hretry]
  cases retried with
  | some receipt => exact .inl ⟨receipt, run, rfl⟩
  | none =>
    rcases h.record_cases hslot with ⟨actual, hrecord⟩ | ⟨hlatest, hrecord⟩
    · refine .inr ⟨actual, run, ?_⟩
      simp only [hrecord]
      rfl
    · obtain ⟨receipt, t, hstored, -⟩ := h.exists_recordDeliveryLocked hrun hlatest
      refine .inl ⟨receipt, t, ?_⟩
      simp only
      rw [lift_bind_of_ok hrecord]
      exact hstored

end DeliveryRule.Ready

/-! ## Attempts -/

/-- The receipt of a stored revision is of that revision. -/
theorem Slot.Replays.receipt_delivery (h : slot.Replays) {key : UUID4 × ℕ}
    {revision : DeliveryRevision} (hget : slot.deliveryRecords.get? key = some revision) :
    revision.receipt.delivery = revision.record := by
  have hinvariant := foldlM_invariant (I := fun replayed : Replayed =>
    ∀ key revision, replayed.deliveryRecords.get? key = some revision →
      revision.receipt.delivery = revision.record)
    (fun s entry next _ hs hround => ?_) (fun _ _ hnone => by cases hnone) h.replayed
  · exact hinvariant key revision hget
  · obtain ⟨cursor, -, hround⟩ := bind_eq_ok.mp hround
    obtain ⟨seeds, -, hround⟩ := bind_eq_ok.mp hround
    cases pure_eq_ok.mp hround
    intro key found hfound
    have hfound : (addDeliveryRecord s.deliveryRecords entry).get? key = some found := hfound
    unfold addDeliveryRecord at hfound
    split at hfound
    · rcases Dict.get?_set_eq_some.mp hfound with ⟨-, rfl⟩ | ⟨-, hold⟩
      · rfl
      · exact hs key found hold
    · exact hs key found hfound

omit [Hashing] [Integrity] in
/-- A reminder has its text. -/
theorem InterventionDecision.renderedText_ne_none {decision : InterventionDecision}
    (h : decision.action = .remind) : decision.renderedText ≠ none := by
  have hvalid := decision.valid
  simp only [InterventionDecisionFields.check, h, constrain_bind_eq_ok, refuse_bind_eq_ok] at hvalid
  exact hvalid.2.2.2.2.2.2.1

omit [Hashing] [Integrity] in
/-- An attempt was made under a claim. -/
theorem DeliveryRecord.attempted_of_attempting {delivery : DeliveryRecord}
    (h : delivery.state = .attempting) : delivery.attempted := by
  have hvalid := delivery.valid
  simp only [DeliveryRecordFields.check, DeliveryRecordFields.checkState, h, constrain_bind_eq_ok,
    refuse_bind_eq_ok, refuse_eq_ok, not_or, not_not] at hvalid
  exact hvalid.2.2.2.2.2.1

omit [Integrity] in
/-- The envelope of an attempt is of that attempt. -/
theorem attemptEnvelope_eq_ok {p : Projection} {delivery : DeliveryRecord}
    {envelope : DeliveryAttemptEnvelope} (h : attemptEnvelope p delivery = .ok envelope) :
    envelope.isOf delivery := by
  unfold attemptEnvelope at h
  simp only [raiseIf_bind_eq_ok, expect_bind_eq_ok, not_not] at h
  obtain ⟨hstate, claimId, hclaimId, attemptId, hattemptId, intervention, -, text, -, h⟩ := h
  obtain ⟨-, h⟩ := check_bind_eq_ok.mp h
  cases pure_eq_ok.mp h
  exact ⟨hstate, rfl, rfl, rfl, rfl, rfl, hclaimId.symm, hattemptId.symm, rfl, rfl, rfl, rfl, rfl,
    rfl, rfl, rfl, rfl⟩

/-- The envelope of an attempt can be built: its reminder is in the projection, and fits. -/
theorem exists_attemptEnvelope (hslot : slot.Replays) {deliveryId : UUID4} {base record : DeliveryRecord}
    (hlatest : slot.projection.deliveries.get? deliveryId = some base)
    (hidentity : record.identity = base.identity) (hstate : record.state = .attempting) :
    ∃ envelope, attemptEnvelope slot.projection record = .ok envelope := by
  obtain ⟨hcount, hclaim, hattempt⟩ := record.attempted_of_attempting hstate
  obtain ⟨claimId, hclaimId⟩ := Option.ne_none_iff_exists'.mp hclaim
  obtain ⟨attemptId, hattemptId⟩ := Option.ne_none_iff_exists'.mp hattempt
  obtain ⟨cycle, hcycle⟩ := deliveriesSourced hslot.run deliveryId base hlatest
  obtain ⟨intervention, -, hintervention, -, hremind⟩ := validateOutboxSource_eq_ok hcycle
  rw [← show record.interventionId = base.interventionId from
    congrArg DeliveryIdentity.interventionId hidentity] at hintervention
  obtain ⟨text, htext⟩ :=
    Option.ne_none_iff_exists'.mp (intervention.renderedText_ne_none hremind)
  have hfits : text.text.length ≤ 4096 :=
    interventions_fit hslot.run _ intervention hintervention text htext
  have hbound : ∀ envelope : DeliveryAttemptEnvelope, envelope.attemptNumber = record.attemptCount →
      envelope.renderedText = text → envelope.check = .ok () := by
    intro envelope hnumber hrendered
    unfold DeliveryAttemptEnvelope.check
    rw [constrain_bind_eq_ok, constrain_eq_ok, hnumber, hrendered]
    exact ⟨hcount, hfits⟩
  unfold attemptEnvelope
  simp only [raiseIf_bind_eq_ok, expect_bind_eq_ok]
  apply Exists.intro
  refine ⟨not_not.mpr hstate, claimId, hclaimId, attemptId, hattemptId, intervention, hintervention,
    text, htext, ?_⟩
  rw [check_bind_eq_ok]
  exact ⟨mapError_eq_ok.mpr (hbound _ rfl rfl), rfl⟩

namespace DeliveryRule.Ready

variable {rule : DeliveryRule} {base : DeliveryRecord}

/-- A ready beginning of an attempt returns a receipt, or the delivery moved on. -/
theorem beginAttemptLocked_cases (hrun : run.Live) (h : rule.Ready run.slot base)
    (hattempting : (rule.next base).state = .attempting) :
    (∃ receipt t, beginAttemptLocked rule run = .ok receipt t)
      ∨ ∃ actual t, beginAttemptLocked rule run
        = .error (.deliveryRevisionConflict rule.expectedRevision actual) t := by
  have hslot := hrun.settled.toReplays
  obtain ⟨hacquire, hverify⟩ := h.opens hrun
  obtain ⟨retried, hretry, hrepeated⟩ := h.exists_retry hslot
  unfold beginAttemptLocked
  rw [get_bind, lift_bind_of_ok hacquire, lift_bind_of_ok hverify, lift_bind_of_ok hretry]
  cases retried with
  | some found =>
    have hcheck : DeliveryAttemptReceiptFields.check { found with envelope := none } = .ok () := by
      unfold DeliveryAttemptReceiptFields.check
      rw [refuse_bind_eq_ok, refuse_eq_ok]
      refine ⟨?_, fun hmem => by obtain ⟨_, hmem, -⟩ := hmem; cases hmem⟩
      rw [not_not]
      exact hrepeated found rfl
    have hcreate : (DeliveryAttemptReceipt.create { found with envelope := none }).mapError
        RepositoryError.validation = .ok ⟨_, hcheck⟩ := mapError_eq_ok.mpr (validate_self hcheck)
    exact .inl ⟨_, run, lift_eq_ok.mpr ⟨hcreate, rfl⟩⟩
  | none =>
    rcases h.record_cases hslot with ⟨actual, hrecord⟩ | ⟨hlatest, hrecord⟩
    · refine .inr ⟨actual, run, ?_⟩
      simp only [hrecord]
      rfl
    · have hidentity : DeliveryRecord.identity ⟨rule.next base, h.valid⟩ = base.identity := by
        have hnext := h.next ⟨rule.next base, h.valid⟩ rfl
        unfold validateNextDelivery at hnext
        rw [raiseIf_bind_eq_ok, not_not] at hnext
        exact hnext.1
      obtain ⟨envelope, henvelope⟩ := exists_attemptEnvelope hslot hlatest hidentity hattempting
      have hof := attemptEnvelope_eq_ok henvelope
      obtain ⟨receipt, t, hstored, happended, hdelivery⟩ := h.exists_recordDeliveryLocked hrun hlatest
      have hcheck : DeliveryAttemptReceiptFields.check { receipt with envelope := some envelope }
          = .ok () := by
        unfold DeliveryAttemptReceiptFields.check
        rw [refuse_bind_eq_ok, refuse_eq_ok]
        constructor
        · rw [not_not]
          exact happended
        · rintro ⟨found, hfound, hnot⟩
          cases hfound
          exact hnot (hdelivery ▸ hof)
      have hcreate : (DeliveryAttemptReceipt.create { receipt with envelope := some envelope }).mapError
          RepositoryError.validation = .ok ⟨_, hcheck⟩ := mapError_eq_ok.mpr (validate_self hcheck)
      refine .inl ⟨⟨{ receipt with envelope := some envelope }, hcheck⟩, t, ?_⟩
      simp only
      rw [lift_bind_of_ok hrecord, lift_bind_of_ok henvelope, bind_of_ok hstored]
      exact lift_eq_ok.mpr ⟨hcreate, rfl⟩

end DeliveryRule.Ready

/-! ## The rules of a worker -/

omit [Hashing] [Integrity] in
/-- The parts of the check of a delivery. -/
theorem DeliveryRecord.checks (delivery : DeliveryRecord) :
    1 ≤ delivery.revision ∧ delivery.createdAt ≤ delivery.updatedAt
      ∧ (delivery.adapterDeduplicates = false → delivery.attemptCount ≤ 1)
      ∧ delivery.adapterDeduplicates
        = decide (delivery.adapterDeduplicationGuarantee = .durableDeliveryId)
      ∧ (delivery.target = .preActionReplan → 0 < delivery.attemptCount →
        delivery.adapterSupportsPreAction = true)
      ∧ delivery.checkState = .ok () := by
  have hvalid := delivery.valid
  simp only [DeliveryRecordFields.check, constrain_bind_eq_ok, refuse_bind_eq_ok, not_lt, not_not,
    not_and, Bool.not_eq_false] at hvalid
  obtain ⟨hrevision, hupdated, hattempts, hguarantee, htarget, hstate⟩ := hvalid
  exact ⟨hrevision, hupdated, hattempts, hguarantee, htarget, hstate⟩

/-- The key of the next revision is not too long for an entry of the ledger. -/
def revisionKeyFits (deliveryId : UUID4) (expectedRevision : ℕ) : Prop :=
  ("delivery:" ++ deliveryId.toString ++ ":" ++ toString (expectedRevision + 1)).length ≤ 200

instance decidableRevisionKeyFits (deliveryId : UUID4) (expectedRevision : ℕ) :
    Decidable (revisionKeyFits deliveryId expectedRevision) :=
  inferInstanceAs (Decidable (_ ≤ _))

variable {base : DeliveryRecord}

omit [Integrity] in
/-- A claim of a delivery that is pending or retryable is ready. -/
theorem ClaimDelivery.ready {command : ClaimDelivery}
    (hstored : slot.projection.deliveryHistory.get? (command.deliveryId, command.expectedRevision)
      = some base)
    (hstate : base.state = .pending ∨ base.state = .unknown)
    (hretry : base.state = .unknown → base.adapterDeduplicates = true)
    (htime : base.updatedAt ≤ command.updatedAt)
    (hfresh : ∀ existing ∈ slot.projection.deliveryHistory.values,
      existing.claimId ≠ some command.claimId)
    (hkey : revisionKeyFits command.deliveryId command.expectedRevision) :
    command.rule.Ready slot base where
  advances := command.advances
  stored := hstored
  admits := by rcases hstate with hstate | hstate <;> simp [ClaimDelivery.rule, hstate]
  guard := by
    show raiseIf _ _ = _
    rw [raiseIf_eq_ok]
    rintro ⟨hunknown, hnot⟩
    rw [hretry hunknown] at hnot
    cases hnot
  unraced _ _ := rfl
  valid := by
    obtain ⟨-, hcreated, hattempts, hguarantee, htarget, -⟩ := base.checks
    have hcount : base.adapterDeduplicates = false → base.attemptCount = 0 := by
      intro hnot
      rcases hstate with hstate | hstate
      · exact DeliveryRecord.attemptCount_pending hstate
      · rw [hretry hstate] at hnot
        cases hnot
    have hmade : (command.rule.next base).state = .claimed := rfl
    simp only [DeliveryRecordFields.check, DeliveryRecordFields.checkState, hmade,
      constrain_bind_eq_ok, refuse_bind_eq_ok, refuse_eq_ok, not_lt, not_not, not_and, not_or,
      Bool.not_eq_false]
    refine ⟨Nat.le_add_left 1 _, hcreated.trans htime, hattempts, hguarantee, htarget,
      ⟨Option.some_ne_none _, rfl, rfl, rfl, rfl⟩, fun hpositive => ?_⟩
    have hpositive : 0 < base.attemptCount := hpositive
    show base.adapterDeduplicates = true
    by_contra hnot
    have := hcount (by simpa using hnot)
    omega
  next record hfields := validateNextDelivery_claim hfields htime hstate hretry
    (Dict.mem_values.mpr ⟨_, hstored⟩) hfresh
  key := hkey

omit [Integrity] in
/-- A beginning of an attempt under the claim of a delivery is ready, unless another attempt was begun
under the same claim. -/
theorem BeginDeliveryAttempt.ready {command : BeginDeliveryAttempt}
    (hstored : slot.projection.deliveryHistory.get? (command.deliveryId, command.expectedRevision)
      = some base)
    (hstate : base.state = .claimed) (hclaim : base.claimId = some command.claimId)
    (htarget : base.target = .preActionReplan → base.adapterSupportsPreAction = true)
    (htime : base.updatedAt ≤ command.updatedAt)
    (hfresh : ∀ existing ∈ slot.projection.deliveryHistory.values,
      existing.attemptId ≠ some command.attemptId)
    (hrace : ∀ latest, slot.projection.deliveries.get? command.deliveryId = some latest →
      ¬(latest.revision = command.expectedRevision + 1 ∧ latest.state = .attempting
        ∧ latest.attemptId ≠ some command.attemptId))
    (hkey : revisionKeyFits command.deliveryId command.expectedRevision) :
    command.rule.Ready slot base where
  advances := command.advances
  stored := hstored
  admits := by simp [BeginDeliveryAttempt.rule, hstate]
  guard := by
    show raiseIf _ _ = _
    rw [raiseIf_eq_ok, not_not]
    exact hclaim
  unraced latest hlatest := by
    show raiseIf _ _ = _
    rw [raiseIf_eq_ok]
    exact hrace latest hlatest
  valid := by
    obtain ⟨-, hcreated, -, hguarantee, -, hbase⟩ := base.checks
    have hcount : base.adapterDeduplicates = false → base.attemptCount = 0 := by
      simp only [DeliveryRecordFields.checkState, hstate, refuse_bind_eq_ok, refuse_eq_ok,
        not_and] at hbase
      intro hnot
      exact Nat.eq_zero_of_not_pos fun hpositive => hbase.2 hpositive hnot
    have hempty : base.emptyResult := by
      simp only [DeliveryRecordFields.checkState, hstate, refuse_bind_eq_ok, not_or, not_not] at hbase
      exact hbase.1.2.2
    have hmade : (command.rule.next base).state = .attempting := rfl
    have howner : base.claimId ≠ none := by
      rw [hclaim]
      exact Option.some_ne_none _
    simp only [DeliveryRecordFields.check, DeliveryRecordFields.checkState, hmade,
      constrain_bind_eq_ok, refuse_bind_eq_ok, refuse_eq_ok, not_lt, not_not, not_and, not_or,
      Bool.not_eq_false]
    refine ⟨Nat.le_add_left 1 _, hcreated.trans htime, fun hnot => ?_, hguarantee,
      fun hpre _ => htarget hpre, ⟨Nat.le_add_left 1 _, howner, Option.some_ne_none _⟩, hempty⟩
    show base.attemptCount + 1 ≤ 1
    rw [hcount hnot]
  next record hfields := validateNextDelivery_attempt hfields htime hstate
    (Dict.mem_values.mpr ⟨_, hstored⟩) hfresh
  key := hkey

omit [Integrity] in
/-- Marking an attempt unknown, by its owner, is ready. -/
theorem MarkDeliveryUnknown.ready {command : MarkDeliveryUnknown}
    (hstored : slot.projection.deliveryHistory.get? (command.deliveryId, command.expectedRevision)
      = some base)
    (hstate : base.state = .attempting) (hclaim : base.claimId = some command.claimId)
    (hattempt : base.attemptId = some command.attemptId) (htime : base.updatedAt ≤ command.updatedAt)
    (hkey : revisionKeyFits command.deliveryId command.expectedRevision) :
    command.rule.Ready slot base where
  advances := command.advances
  stored := hstored
  admits := by simp [MarkDeliveryUnknown.rule, hstate]
  guard := by
    show raiseIf _ _ = _
    rw [raiseIf_eq_ok, not_or, not_not, not_not]
    exact ⟨hclaim, hattempt⟩
  unraced _ _ := rfl
  valid := by
    obtain ⟨-, hcreated, hattempts, hguarantee, htarget, -⟩ := base.checks
    have hattempted : base.attempted := base.attempted_of_attempting hstate
    have hmade : (command.rule.next base).state = .unknown := rfl
    simp only [DeliveryRecordFields.check, DeliveryRecordFields.checkState, hmade,
      constrain_bind_eq_ok, refuse_bind_eq_ok, refuse_eq_ok, not_lt, not_not, not_and, not_or,
      Bool.not_eq_false]
    exact ⟨Nat.le_add_left 1 _, hcreated.trans htime, hattempts, hguarantee, htarget, hattempted, rfl,
      rfl, rfl⟩
  next record hfields := validateNextDelivery_unknown hfields htime hstate
  key := hkey

end SalienceGate
