import SalienceGate.Repository.Keeps

/-!
# Retries

A command that took effect finds what it stored, however much later it is submitted again. It then
returns its first receipt, not marked as appended, and changes nothing.
-/

namespace SalienceGate

open Checked
open Stateful hiding bind_eq_ok check_bind_eq_ok raiseIf_bind_eq_ok expect_bind_eq_ok

variable [Hashing] [Integrity] {run s t u : RunState}

/-- A run that grew out of one that was found is found, and its head passes the checks. -/
theorem RunState.Live.opened (hrun : run.Live) (h : acquireSlot run = .ok ()) (hs : s.Live)
    (hkeeps : run.slot.Keeps s.slot) : acquireSlot s = .ok () ∧ verifyHead s = .ok () := by
  have hledger : run.slot.ledger ≠ [] :=
    fun hnil => hrun.ledgerHead_ne_none h (hrun.settled.vacant.mpr hnil)
  have hhead : s.slot.ledgerHead ≠ none := by
    intro hnone
    have hprefix := hkeeps.ledger
    rw [hs.settled.vacant.mp hnone, List.prefix_nil] at hprefix
    exact hledger hprefix
  exact ⟨hs.acquireSlot_eq hhead, hs.verifyHead_eq hhead true⟩

/-! ## Direct records -/

omit [Hashing] [Integrity] in
@[simp] theorem LedgerReceipt.repeated_repeated (receipt : LedgerReceipt) :
    receipt.repeated.repeated = receipt.repeated := rfl

/-- A direct record that was stored is there, with its receipt. -/
theorem recordDirectLocked_stored {record : DirectLedgerRecord} {verifiesHead publish : Bool}
    {receipt : LedgerReceipt}
    (h : recordDirectLocked record verifiesHead publish run = .ok receipt t) :
    ∃ stored, t.slot.directRecords.get? record.key = some ⟨record, stored⟩
      ∧ stored.repeated = receipt.repeated := by
  rcases recordDirectLocked_eq_ok h with ⟨rfl, stored, hget, rfl⟩ | ⟨-, staged, -, rfl, rfl⟩
  · exact ⟨stored, hget, rfl⟩
  · refine ⟨_, ?_, rfl⟩
    rw [slot_withDirect]
    exact Dict.get?_set_self

/-- Storing a direct record again returns its receipt. -/
theorem recordDirect_repeats (hrun : run.Live) {record : DirectLedgerRecord} {receipt : LedgerReceipt}
    (h : (do
      acquireSlot (← get)
      recordDirectLocked record true true : RunM LedgerReceipt) run = .ok receipt t)
    (hs : s.Live) (hrs : run.slot.Keeps s.slot) (hts : t.slot.Keeps s.slot) :
    (do
      acquireSlot (← get)
      recordDirectLocked record true true : RunM LedgerReceipt) s = .ok receipt.repeated s := by
  rw [get_bind] at h ⊢
  obtain ⟨hacquire, h⟩ := Stateful.check_bind_eq_ok.mp h
  obtain ⟨hopen, hverify⟩ := hrun.opened hacquire hs hrs
  obtain ⟨stored, hstored, hreceipt⟩ := recordDirectLocked_stored h
  have hget := hts.directRecords hstored
  have hexisting : recordExistingDirect record ⟨record, stored⟩ = .ok receipt.repeated := by
    unfold recordExistingDirect
    rw [raiseIf_bind_eq_ok, pure_eq_ok]
    exact ⟨not_not.mpr rfl, hreceipt⟩
  rw [lift_bind_of_ok hopen]
  unfold recordDirectLocked
  rw [get_bind, if_pos rfl, lift_bind_of_ok hverify]
  simp only [hget]
  exact lift_eq_ok.mpr ⟨hexisting, rfl⟩

/-! ## Cycles -/

omit [Integrity] in
@[simp] theorem CycleReceipt.repeated_repeated (receipt : CycleReceipt) :
    receipt.repeated.repeated = receipt.repeated := rfl

/-- A cycle revision that was stored is there, with its receipt. -/
theorem recordCycleLocked_stored {record : CycleRecord} {publish : Bool}
    {delivery : Option DeliveryRecord} {receipt : CycleReceipt}
    (h : recordCycleLocked record publish delivery run = .ok receipt t) :
    ∃ stored, t.slot.cycleRecords.get? (record.cycleId, record.revision) = some ⟨record, stored⟩
      ∧ stored.repeated = receipt.repeated := by
  rcases recordCycleLocked_eq_ok h with ⟨rfl, stored, hget, rfl⟩ | ⟨-, staged, -, -, rfl⟩
  · exact ⟨stored, hget, rfl⟩
  · refine ⟨receipt, ?_, rfl⟩
    rw [slot_withCycle]
    exact Dict.get?_set_self

/-- Storing a revision that is there returns its receipt. -/
theorem recordCycleLocked_of_get? {record : CycleRecord} {publish : Bool}
    {delivery : Option DeliveryRecord} {stored : CycleReceipt}
    (h : s.slot.cycleRecords.get? (record.cycleId, record.revision) = some ⟨record, stored⟩) :
    recordCycleLocked record publish delivery s = .ok stored.repeated s := by
  have hexisting : recordExistingCycle record ⟨record, stored⟩ = .ok stored.repeated := by
    unfold recordExistingCycle
    rw [raiseIf_bind_eq_ok, pure_eq_ok]
    exact ⟨not_not.mpr rfl, rfl⟩
  unfold recordCycleLocked
  rw [get_bind]
  simp only [h]
  exact lift_eq_ok.mpr ⟨hexisting, rfl⟩

omit [Integrity] in
/-- The revision that a command follows stays where it is. -/
theorem cycleBase_keeps {id : Sha256Digest} {expectedRevision : ℕ} {expectedState : Option CycleState}
    {base : CycleRecord} (h : cycleBase run.slot id expectedRevision expectedState = .ok base)
    (hkeeps : run.slot.Keeps s.slot) :
    cycleBase s.slot id expectedRevision expectedState = .ok base := by
  obtain ⟨hget, hstate⟩ := cycleBase_eq_ok h
  unfold cycleBase
  simp only [expect_bind_eq_ok, check_bind_eq_ok, pure_eq_ok, forM_eq_ok, raiseIf_eq_ok, not_not,
    Option.mem_toList]
  exact ⟨base, hkeeps.projection.cycles hget, hstate, rfl⟩

/-- Moving a cycle again returns its receipt. -/
theorem advanceCycleLocked_repeats (hrun : run.Live) {operation : String} {id : Sha256Digest}
    {expectedRevision : ℕ} {expectedState : CycleState} {update : CycleRecord → CycleRecordFields}
    {receipt : CycleReceipt}
    (h : advanceCycleLocked operation id expectedRevision expectedState update run = .ok receipt t)
    (hs : s.Live) (hrs : run.slot.Keeps s.slot) (hts : t.slot.Keeps s.slot) :
    advanceCycleLocked operation id expectedRevision expectedState update s
      = .ok receipt.repeated s := by
  unfold advanceCycleLocked at h ⊢
  rw [get_bind] at h ⊢
  obtain ⟨hacquire, h⟩ := Stateful.check_bind_eq_ok.mp h
  obtain ⟨-, h⟩ := Stateful.check_bind_eq_ok.mp h
  obtain ⟨base, hbase, h⟩ := lift_bind_eq_ok.mp h
  obtain ⟨cycle, hcycle, h⟩ := lift_bind_eq_ok.mp h
  obtain ⟨hopen, hverify⟩ := hrun.opened hacquire hs hrs
  obtain ⟨stored, hstored, hreceipt⟩ := recordCycleLocked_stored h
  rw [lift_bind_of_ok hopen, lift_bind_of_ok hverify, lift_bind_of_ok (cycleBase_keeps hbase hrs),
    lift_bind_of_ok hcycle, recordCycleLocked_of_get? (hts.cycleRecords hstored), hreceipt]

/-- Failing a cycle again returns its receipt. -/
theorem failCycleLocked_repeats (hrun : run.Live) {command : FailCycle} {receipt : CycleReceipt}
    (h : failCycleLocked command run = .ok receipt t) (hs : s.Live)
    (hrs : run.slot.Keeps s.slot) (hts : t.slot.Keeps s.slot) :
    failCycleLocked command s = .ok receipt.repeated s := by
  unfold failCycleLocked at h ⊢
  rw [get_bind] at h ⊢
  obtain ⟨hacquire, h⟩ := Stateful.check_bind_eq_ok.mp h
  obtain ⟨-, h⟩ := Stateful.check_bind_eq_ok.mp h
  obtain ⟨base, hbase, h⟩ := lift_bind_eq_ok.mp h
  obtain ⟨hactive, h⟩ := Stateful.check_bind_eq_ok.mp h
  obtain ⟨settlement, hsettlement, h⟩ := lift_bind_eq_ok.mp h
  obtain ⟨cycle, hcycle, h⟩ := lift_bind_eq_ok.mp h
  obtain ⟨hopen, hverify⟩ := hrun.opened hacquire hs hrs
  obtain ⟨stored, hstored, hreceipt⟩ := recordCycleLocked_stored h
  rw [lift_bind_of_ok hopen, lift_bind_of_ok hverify, lift_bind_of_ok (cycleBase_keeps hbase hrs),
    lift_bind_of_ok hactive, lift_bind_of_ok hsettlement, lift_bind_of_ok hcycle,
    recordCycleLocked_of_get? (hts.cycleRecords hstored), hreceipt]

/-! ## Beginning -/

/-- A cycle with the grounding and the target that a command asks for. -/
def BeginCycle.Matches (command : BeginCycle) (cycle : CycleRecord) : Prop :=
  cycle.groundingVersion = command.groundingVersion
    ∧ cycle.groundingConfiguration = command.groundingConfiguration
    ∧ cycle.groundingConfigurationDigest = command.groundingConfigurationDigest
    ∧ cycle.requestedDeliveryTarget = command.requestedDeliveryTarget

/-- A first revision that a command makes, or finds as it would make it. -/
structure BeginCycle.Begins (command : BeginCycle) (cycle : CycleRecord) : Prop where
  revision : cycle.revision = 1
  decision : cycle.invocationDecisionId = command.invocationDecisionId
  matches_ : command.Matches cycle
  same : transitionCycle "begin_cycle" { cycle.toCycleRecordFields with
    createdAt := command.createdAt
    updatedAt := command.createdAt } = .ok cycle

/-- A command that finds a cycle of its decision finds it as it would make it. -/
theorem rebeginCycle_stored (hrun : run.Live) {command : BeginCycle} {existing : CycleRecord}
    {id : Sha256Digest} (hfirst : run.slot.projection.cycleHistory.get? (id, 1) = some existing)
    (hdecision : existing.invocationDecisionId = command.invocationDecisionId)
    {receipt : CycleReceipt} (h : rebeginCycle command existing run = .ok receipt t) :
    command.Begins existing ∧ ∃ stored, t.slot.cycleRecords.get? (existing.cycleId, existing.revision)
      = some ⟨existing, stored⟩ ∧ stored.repeated = receipt.repeated := by
  obtain ⟨hid, hone⟩ : existing.cycleId = id ∧ existing.revision = 1 :=
    hrun.settled.cycleInvariant.kept.key hfirst
  unfold rebeginCycle at h
  obtain ⟨hmatches, h⟩ := Stateful.raiseIf_bind_eq_ok.mp h
  obtain ⟨retry, hretry, hrecord⟩ := lift_bind_eq_ok.mp h
  have hfields := transitionCycle_eq_ok hretry
  have hkey : (retry.cycleId, retry.revision) = (id, 1) := by rw [hfields, ← hid, ← hone]
  have hsame : retry = existing := by
    rw [hrun.settled.cycleRecords_get?] at hfirst
    rcases recordCycleLocked_eq_ok hrecord with ⟨-, stored, hget, -⟩ | ⟨hfresh, -⟩
    · rw [hkey] at hget
      rw [hget] at hfirst
      exact Option.some.inj hfirst
    · rw [hkey] at hfresh
      rw [Dict.get?_eq_none.mpr hfresh] at hfirst
      cases hfirst
  subst hsame
  simp only [not_or, not_not] at hmatches
  exact ⟨⟨hone, hdecision, hmatches, hretry⟩, recordCycleLocked_stored hrecord⟩

/-- A command that begins a cycle makes its first revision. -/
theorem beginNewCycle_stored {command : BeginCycle} {decision : InvocationDecision}
    {receipt : CycleReceipt} (h : beginNewCycle command decision run = .ok receipt t) :
    ∃ cycle, command.Begins cycle ∧ ∃ stored,
      t.slot.cycleRecords.get? (cycle.cycleId, cycle.revision) = some ⟨cycle, stored⟩
        ∧ stored.repeated = receipt.repeated := by
  unfold beginNewCycle at h
  rw [get_bind] at h
  obtain ⟨-, h⟩ := Stateful.raiseIf_bind_eq_ok.mp h
  obtain ⟨-, h⟩ := Stateful.raiseIf_bind_eq_ok.mp h
  obtain ⟨cycle, hcycle, h⟩ := lift_bind_eq_ok.mp h
  rw [mapError_eq_ok] at hcycle
  obtain ⟨hvalid, rfl⟩ := validate_eq_ok.mp hcycle
  refine ⟨_, ⟨rfl, rfl, ⟨rfl, rfl, rfl, rfl⟩, ?_⟩, recordCycleLocked_stored h⟩
  unfold transitionCycle
  rw [raiseIf_bind_of_not (by simp [BeginCycle.pending]), mapError_eq_ok]
  exact hcycle

/-- A cycle is the only one of its decision. -/
theorem existingBeginnings_eq (hs : s.Live) {id : UUID4} {cycle : CycleRecord}
    (hget : s.slot.projection.cycleHistory.get? (cycle.cycleId, 1) = some cycle)
    (hdecision : cycle.invocationDecisionId = id) :
    existingBeginnings s.slot.projection id = [cycle] := by
  have hinvariant := hs.settled.cycleInvariant
  -- the decision of a revision is the one of the latest revision
  have hlatest : ∀ {i n c}, s.slot.projection.cycleHistory.get? (i, n) = some c →
      ∃ latest, s.slot.projection.cycles.get? i = some latest
        ∧ latest.invocationDecisionId = c.invocationDecisionId := by
    intro i n c hc
    obtain ⟨latest, hlatest, hle⟩ := hinvariant.kept.exists_latest hc
    have hidentity : latest.identity = c.identity :=
      hinvariant.kept.relation (R := fun v w : CycleRecord => w.identity = v.identity)
        (fun _ => rfl) (fun _ _ _ huv hvw => hvw.trans huv) (fun _ _ hnext => hnext.1) hc
        (hinvariant.kept.stored hlatest) hle
    exact ⟨latest, hlatest, congrArg CycleIdentity.invocationDecisionId hidentity⟩
  have hitems := Dict.filter_items_eq_singleton
    (p := fun item => item.1.2 = 1 && item.2.invocationDecisionId = id) hget
    (by simp [hdecision]) fun key other hother hp => by
      rw [Bool.and_eq_true, decide_eq_true_eq, decide_eq_true_eq] at hp
      obtain ⟨mine, hmine, hmineId⟩ := hlatest hget
      obtain ⟨yours, hyours, hyoursId⟩ := hlatest (i := key.1) (n := key.2) hother
      have hkey : key.1 = cycle.cycleId := hinvariant.decisions _ _ mine yours hmine hyours
        (by rw [hmineId, hyoursId, hdecision, hp.2])
      exact Prod.ext hkey hp.1
  unfold existingBeginnings
  rw [hitems]
  rfl

/-- Beginning a cycle again returns its receipt. -/
theorem beginCycleLocked_repeats (hrun : run.Live) {command : BeginCycle} {receipt : CycleReceipt}
    (h : beginCycleLocked command run = .ok receipt t) (hs : s.Live)
    (hrs : run.slot.Keeps s.slot) (hts : t.slot.Keeps s.slot) :
    beginCycleLocked command s = .ok receipt.repeated s := by
  unfold beginCycleLocked at h ⊢
  rw [get_bind] at h ⊢
  obtain ⟨hacquire, h⟩ := Stateful.check_bind_eq_ok.mp h
  obtain ⟨-, h⟩ := Stateful.check_bind_eq_ok.mp h
  obtain ⟨decision, hdecision, h⟩ := Stateful.expect_bind_eq_ok.mp h
  obtain ⟨-, h⟩ := Stateful.raiseIf_bind_eq_ok.mp h
  obtain ⟨hopen, hverify⟩ := hrun.opened hacquire hs hrs
  have hstored : ∃ cycle, command.Begins cycle ∧ ∃ stored,
      t.slot.cycleRecords.get? (cycle.cycleId, cycle.revision) = some ⟨cycle, stored⟩
        ∧ stored.repeated = receipt.repeated := by
    cases hhead : (existingBeginnings run.slot.projection command.invocationDecisionId).head? with
    | some existing =>
      simp only [hhead] at h
      obtain ⟨id, hfirst, hsame⟩ := mem_existingBeginnings (List.mem_of_head? hhead)
      exact ⟨existing, rebeginCycle_stored hrun hfirst hsame h⟩
    | none =>
      simp only [hhead] at h
      exact beginNewCycle_stored h
  obtain ⟨cycle, hbegins, stored, hstored, hreceipt⟩ := hstored
  have hget := hts.cycleRecords hstored
  have hfirst : s.slot.projection.cycleHistory.get? (cycle.cycleId, 1) = some cycle := by
    rw [hs.settled.cycleRecords_get?, ← hbegins.revision, hget]
    rfl
  have honly := existingBeginnings_eq hs hfirst hbegins.decision
  have hdecided : expect (s.slot.projection.decisions.get? command.invocationDecisionId)
      (RepositoryError.crossRunReference "cycle invocation decision") = .ok decision :=
    expect_eq_ok.mpr (hrs.projection.decisions hdecision)
  rw [lift_bind_of_ok hopen, lift_bind_of_ok hverify, lift_bind_of_ok hdecided]
  simp only [honly]
  have hguard : raiseIf (1 < [cycle].length)
      (RepositoryError.projectionInvariant "invocation decision has multiple cycles") = .ok () :=
    raiseIf_eq_ok.mpr (by simp)
  rw [lift_bind_of_ok hguard]
  obtain ⟨hversion, hconfiguration, hdigest, htarget⟩ := hbegins.matches_
  simp only [List.head?_cons]
  unfold rebeginCycle
  refine Stateful.raiseIf_bind_eq_ok.mpr
    ⟨by simp [hversion, hconfiguration, hdigest, htarget], ?_⟩
  rw [lift_bind_of_ok hbegins.same, recordCycleLocked_of_get? hget, hreceipt]

/-! ## Commits -/

/-- A commit that returned stored its revision, with the delivery that the command plans. -/
theorem commitCycle_stored (hrun : run.Live) {command : CommitCycle} {cycle : CycleRecord}
    {receipt : CycleReceipt}
    (h : (∃ existing, run.slot.cycleRecords.get? (cycle.cycleId, cycle.revision) = some existing
        ∧ recommitCycle command cycle existing = .ok receipt ∧ t = run)
      ∨ (run.slot.cycleRecords.get? (cycle.cycleId, cycle.revision) = none
        ∧ commitNewCycle command cycle run = .ok receipt t)) :
    ∃ stored, t.slot.cycleRecords.get? (cycle.cycleId, cycle.revision) = some ⟨cycle, stored⟩
      ∧ stored.repeated = receipt.repeated
      ∧ command.delivery.map (·.toEnqueueDeliveryFields) = stored.delivery.map (·.plan) := by
  rcases h with ⟨existing, hget, hagain, rfl⟩ | ⟨hnone, hnew⟩
  · unfold recommitCycle at hagain
    simp only [raiseIf_bind_eq_ok, pure_eq_ok, not_not] at hagain
    obtain ⟨rfl, hplan, rfl⟩ := hagain
    exact ⟨existing.receipt, hget, rfl, hplan⟩
  · obtain ⟨delivery, shadow, hdelivery, hstage, hcomplete, rfl⟩ := commitNewCycle_eq_ok hnew
    have hfresh := Dict.get?_eq_none.mp hnone
    obtain ⟨-, -, hget⟩ := stageCommit_extends hrun.settled rfl hfresh hstage hcomplete
    refine ⟨receipt, hget, rfl, ?_⟩
    -- the receipt carries the delivery that was staged with it
    obtain ⟨middle, hrecord, -⟩ := stageCommit_eq_ok hstage
    have hcarried : receipt.delivery = delivery := by
      rcases recordCycleLocked_eq_ok hrecord with ⟨-, stored, hknown, -⟩ | ⟨-, staged, -, hreceipt, -⟩
      · exact absurd (Dict.mem_of_get? hknown) hfresh
      · exact congrArg CycleReceiptFields.delivery (cycleReceipt_eq_ok hreceipt).2
    rw [hcarried]
    rcases enqueuedDelivery_eq_ok hdelivery with
      ⟨hplan, rfl⟩ | ⟨plan, target, record, hplan, -, rfl, hfields⟩
    · rw [hplan]
      rfl
    · rw [hplan, Option.map_some, Option.map_some, DeliveryRecord.plan, hfields]
      rfl

/-- Committing a cycle again returns its receipt. -/
theorem commitCycleLocked_repeats (hrun : run.Live) {command : CommitCycle} {receipt : CycleReceipt}
    (h : commitCycleLocked command run = .ok receipt t) (hs : s.Live)
    (hrs : run.slot.Keeps s.slot) (hts : t.slot.Keeps s.slot) :
    commitCycleLocked command s = .ok receipt.repeated s := by
  obtain ⟨base, cycle, hbase, hcycle, hcommit⟩ := commitCycleLocked_eq_ok h
  obtain ⟨stored, hstored, hreceipt, hplan⟩ := commitCycle_stored hrun hcommit
  unfold commitCycleLocked at h ⊢
  rw [get_bind] at h ⊢
  obtain ⟨hacquire, h⟩ := Stateful.check_bind_eq_ok.mp h
  obtain ⟨-, h⟩ := Stateful.check_bind_eq_ok.mp h
  obtain ⟨base', hbase', h⟩ := lift_bind_eq_ok.mp h
  obtain rfl : base' = base := Except.ok.inj (hbase'.symm.trans hbase)
  obtain ⟨hgrounded, -⟩ := Stateful.check_bind_eq_ok.mp h
  obtain ⟨hopen, hverify⟩ := hrun.opened hacquire hs hrs
  have hagain : recommitCycle command cycle ⟨cycle, stored⟩ = .ok receipt.repeated := by
    unfold recommitCycle
    simp only [raiseIf_bind_eq_ok, pure_eq_ok, not_not]
    exact ⟨trivial, hplan, hreceipt⟩
  rw [lift_bind_of_ok hopen, lift_bind_of_ok hverify, lift_bind_of_ok (cycleBase_keeps hbase hrs),
    lift_bind_of_ok hgrounded, lift_bind_of_ok hcycle]
  simp only [hts.cycleRecords hstored]
  exact lift_eq_ok.mpr ⟨hagain, rfl⟩

/-! ## Deliveries -/

/-- A command that took effect: the revision that it made of the one it expected is stored. -/
structure DeliveryRule.Took (rule : DeliveryRule) (slot : Slot) (record : DeliveryRecord)
    (stored : DeliveryTransitionReceipt) : Prop where
  base : ∃ base, slot.projection.deliveryHistory.get? (rule.deliveryId, rule.expectedRevision)
      = some base ∧ rule.admits base.state = true ∧ rule.guard base = .ok ()
    ∧ transitionDelivery rule.operation (rule.next base) = .ok record
  stored : slot.deliveryRecords.get? (rule.deliveryId, rule.expectedRevision + 1)
    = some ⟨record, stored⟩

/-- A command does not race with the revision that it made itself. -/
def DeliveryRule.KnowsOwn (rule : DeliveryRule) : Prop :=
  ∀ base record, transitionDelivery rule.operation (rule.next base) = .ok record →
    rule.race record = .ok ()

namespace DeliveryRule

variable {rule : DeliveryRule} {record : DeliveryRecord} {stored : DeliveryTransitionReceipt}

omit [Integrity] in
theorem Took.keeps {slot next : Slot} (h : rule.Took slot record stored) (hkeeps : slot.Keeps next) :
    rule.Took next record stored where
  base := by
    obtain ⟨base, hget, hrest⟩ := h.base
    exact ⟨base, hkeeps.projection.deliveries hget, hrest⟩
  stored := hkeeps.deliveryRecords h.stored

/-- A retry that returns a receipt found what its command made. -/
theorem retry_eq_some (hrun : run.Live) {receipt : DeliveryTransitionReceipt}
    (h : rule.retry run.slot = .ok (some receipt)) :
    ∃ record stored, rule.Took run.slot record stored ∧ receipt = stored.repeated := by
  unfold retry at h
  cases hbase : run.slot.projection.deliveryHistory.get? (rule.deliveryId, rule.expectedRevision) with
  | none =>
    rw [hbase] at h
    cases h
  | some base =>
    rw [hbase] at h
    simp only at h
    split at h
    · next hadmits =>
      unfold retryFrom at h
      obtain ⟨hguard, h⟩ := Checked.check_bind_eq_ok.mp h
      obtain ⟨-, h⟩ := Checked.check_bind_eq_ok.mp h
      obtain ⟨candidate, hcandidate, h⟩ := Checked.bind_eq_ok.mp h
      unfold deliveryRetry at h
      cases hlatest : run.slot.projection.deliveries.get? rule.deliveryId with
      | none =>
        rw [hlatest] at h
        cases h
      | some latest =>
        rw [hlatest] at h
        simp only at h
        split at h
        · cases h
        · next hsame =>
          simp only [not_or, not_not] at hsame
          obtain ⟨hrevision, rfl⟩ := hsame
          unfold repeatedReceipt at h
          obtain ⟨cached, hcached, h⟩ := Checked.expect_bind_eq_ok.mp h
          cases Checked.pure_eq_ok.mp h
          -- the cached revision is the latest one
          have hhistory : run.slot.projection.deliveryHistory.get? (rule.deliveryId, latest.revision)
              = some latest := hrun.settled.deliveryInvariant.kept.stored hlatest
          rw [hrun.settled.deliveryRecords_get?, hcached, Option.map_some, Option.some.injEq]
            at hhistory
          rw [hrevision] at hcached
          refine ⟨latest, cached.receipt, ⟨⟨base, hbase, hadmits, hguard, hcandidate⟩, ?_⟩, rfl⟩
          rw [hcached, ← hhistory]
    · cases h

/-- The latest revision of the delivery of a command that took effect. -/
theorem Took.exists_latest (hs : s.Live) (h : rule.Took s.slot record stored) :
    ∃ latest, s.slot.projection.deliveries.get? rule.deliveryId = some latest
      ∧ rule.expectedRevision + 1 ≤ latest.revision
      ∧ (latest.revision = rule.expectedRevision + 1 → latest = record) := by
  have hkept := hs.settled.deliveryInvariant.kept
  have hhistory : s.slot.projection.deliveryHistory.get? (rule.deliveryId, rule.expectedRevision + 1)
      = some record := by
    rw [hs.settled.deliveryRecords_get?, h.stored]
    rfl
  obtain ⟨latest, hlatest, hle⟩ := hkept.exists_latest hhistory
  refine ⟨latest, hlatest, hle, fun hrevision => ?_⟩
  have hstored : s.slot.projection.deliveryHistory.get? (rule.deliveryId, latest.revision)
      = some latest := hkept.stored hlatest
  rw [hrevision, hhistory] at hstored
  exact (Option.some.inj hstored).symm

/-- While the delivery is at the revision of the command, a retry returns its receipt. -/
theorem Took.retry_current (hs : s.Live) (h : rule.Took s.slot record stored) (hown : rule.KnowsOwn)
    {latest : DeliveryRecord} (hlatest : s.slot.projection.deliveries.get? rule.deliveryId = some latest)
    (hrevision : latest.revision = rule.expectedRevision + 1) :
    rule.retry s.slot = .ok (some stored.repeated) := by
  obtain ⟨found, hfound, -, hcurrent⟩ := h.exists_latest hs
  obtain rfl : found = latest := Option.some.inj (hfound.symm.trans hlatest)
  obtain rfl := hcurrent hrevision
  obtain ⟨base, hbase, hadmits, hguard, hnext⟩ := h.base
  have hrepeated : repeatedReceipt s.slot rule.deliveryId found = .ok (some stored.repeated) := by
    unfold repeatedReceipt
    rw [Checked.expect_bind_eq_ok]
    exact ⟨_, by rw [hrevision]; exact h.stored, rfl⟩
  unfold retry
  rw [hbase]
  simp only [hadmits, if_true]
  unfold retryFrom
  refine Checked.check_bind_eq_ok.mpr ⟨hguard, Checked.check_bind_eq_ok.mpr ⟨?_, ?_⟩⟩
  · rw [hlatest]
    exact hown base found hnext
  · refine Checked.bind_eq_ok.mpr ⟨found, hnext, ?_⟩
    unfold deliveryRetry
    rw [hlatest]
    simp only [hrevision, ne_eq, not_true_eq_false, or_self, if_false]
    exact hrepeated

/-- Once the delivery moved on, a retry finds nothing, or raises, and so does the command. -/
theorem Took.retry_superseded (hs : s.Live) (h : rule.Took s.slot record stored)
    {latest : DeliveryRecord} (hlatest : s.slot.projection.deliveries.get? rule.deliveryId = some latest)
    (hrevision : latest.revision ≠ rule.expectedRevision + 1) :
    (∀ receipt, rule.retry s.slot ≠ .ok (some receipt)) ∧ ∃ error, rule.record s.slot = .error error := by
  refine ⟨fun receipt hretry => ?_, ?_⟩
  · unfold retry at hretry
    obtain ⟨base, hbase, hadmits, hguard, hnext⟩ := h.base
    rw [hbase] at hretry
    simp only [hadmits, if_true] at hretry
    unfold retryFrom at hretry
    obtain ⟨-, hretry⟩ := Checked.check_bind_eq_ok.mp hretry
    obtain ⟨-, hretry⟩ := Checked.check_bind_eq_ok.mp hretry
    obtain ⟨candidate, -, hretry⟩ := Checked.bind_eq_ok.mp hretry
    unfold deliveryRetry at hretry
    rw [hlatest] at hretry
    simp only [ne_eq, hrevision, not_false_eq_true, true_or, if_true] at hretry
    cases hretry
  · obtain ⟨found, hfound, hle, -⟩ := h.exists_latest hs
    obtain rfl : found = latest := Option.some.inj (hfound.symm.trans hlatest)
    have hne : found.revision ≠ rule.expectedRevision := by omega
    have hbase : deliveryBase s.slot rule.deliveryId rule.expectedRevision
        = .error (.deliveryRevisionConflict rule.expectedRevision (some found.revision)) := by
      have hexpect : expect (some found) RepositoryError.deliveryNotFound = .ok found := rfl
      unfold deliveryBase
      simp only [hlatest, hexpect, raiseIf, if_pos hne, bind, Except.bind]
    unfold DeliveryRule.record
    rw [hbase]
    exact ⟨_, rfl⟩

end DeliveryRule

/-- The latest revision of a delivery has a number. -/
def Slot.AtRevision (slot : Slot) (deliveryId : UUID4) (revision : ℕ) : Prop :=
  ∃ latest, slot.projection.deliveries.get? deliveryId = some latest ∧ latest.revision = revision

variable {rule : DeliveryRule}

omit [Hashing] [Integrity] in
@[simp] theorem DeliveryTransitionReceipt.repeated_repeated (receipt : DeliveryTransitionReceipt) :
    receipt.repeated.repeated = receipt.repeated := rfl

/-- A command that stored the revision that it made took effect. -/
theorem DeliveryRule.Makes.took (hrun : run.Live) (hrule : rule.Advances)
    {base record : DeliveryRecord} (hmakes : rule.Makes run.slot base record)
    {receipt : DeliveryTransitionReceipt} (h : recordDeliveryLocked record true run = .ok receipt t)
    (hkeeps : run.slot.Keeps t.slot) :
    ∃ record stored, rule.Took t.slot record stored ∧ stored.repeated = receipt.repeated := by
  have hkept := hrun.settled.deliveryInvariant.kept
  have hident : base.deliveryId = rule.deliveryId := hkept.ident_latest hmakes.latest
  obtain ⟨hid, hrevision⟩ := hmakes.revision_eq hrule
  have hkey : (record.deliveryId, record.revision) = (rule.deliveryId, rule.expectedRevision + 1) := by
    rw [hid, hident, hrevision]
  have hbase : run.slot.projection.deliveryHistory.get? (rule.deliveryId, rule.expectedRevision)
      = some base := by
    rw [← hmakes.expected]
    exact hkept.stored hmakes.latest
  have htook : ∀ stored, t.slot.deliveryRecords.get? (record.deliveryId, record.revision)
      = some ⟨record, stored⟩ → rule.Took t.slot record stored := by
    intro stored hstored
    rw [hkey] at hstored
    exact ⟨⟨base, hkeeps.projection.deliveries hbase, hmakes.admits, hmakes.guard, hmakes.record_eq⟩,
      hstored⟩
  rcases recordDeliveryLocked_eq_ok h with ⟨rfl, stored, hget, rfl⟩ | ⟨-, staged, -, rfl, rfl⟩
  · exact ⟨record, stored, htook stored hget, rfl⟩
  · refine ⟨record, _, htook _ ?_, rfl⟩
    rw [slot_withDelivery]
    exact Dict.get?_set_self

/-- A command on a delivery that returned took effect. -/
theorem transitionLocked_took (hrun : run.Live) (hrule : rule.Advances)
    {receipt : DeliveryTransitionReceipt} (h : transitionLocked rule run = .ok receipt t)
    (hkeeps : run.slot.Keeps t.slot) : acquireSlot run = .ok ()
      ∧ ∃ record stored, rule.Took t.slot record stored ∧ stored.repeated = receipt.repeated := by
  unfold transitionLocked at h
  rw [get_bind] at h
  obtain ⟨hacquire, h⟩ := Stateful.check_bind_eq_ok.mp h
  obtain ⟨-, h⟩ := Stateful.check_bind_eq_ok.mp h
  obtain ⟨retried, hretried, h⟩ := lift_bind_eq_ok.mp h
  refine ⟨hacquire, ?_⟩
  cases retried with
  | some found =>
    cases h
    obtain ⟨record, stored, htook, rfl⟩ := DeliveryRule.retry_eq_some hrun hretried
    exact ⟨record, stored, htook, rfl⟩
  | none =>
    obtain ⟨record, hrecord, h⟩ := lift_bind_eq_ok.mp h
    obtain ⟨base, hmakes⟩ := DeliveryRule.record_eq_ok hrecord
    exact hmakes.took hrun hrule h hkeeps

/-- A command on a delivery that is submitted again returns its receipt while the delivery is at the
revision that it made, and raises from then on. -/
theorem transitionLocked_repeats (hrun : run.Live) (hrule : rule.Advances) (hown : rule.KnowsOwn)
    {receipt : DeliveryTransitionReceipt} (h : transitionLocked rule run = .ok receipt t)
    (hs : s.Live) (hrt : run.slot.Keeps t.slot) (hts : t.slot.Keeps s.slot) :
    (s.slot.AtRevision rule.deliveryId (rule.expectedRevision + 1) →
      transitionLocked rule s = .ok receipt.repeated s)
    ∧ (¬s.slot.AtRevision rule.deliveryId (rule.expectedRevision + 1) →
      ∃ error, transitionLocked rule s = .error error s) := by
  obtain ⟨hacquire, record, stored, htook, hreceipt⟩ := transitionLocked_took hrun hrule h hrt
  have hs_took := htook.keeps hts
  obtain ⟨hopen, hverify⟩ := hrun.opened hacquire hs (hrt.trans hts)
  unfold transitionLocked
  rw [get_bind, lift_bind_of_ok hopen, lift_bind_of_ok hverify]
  constructor
  · rintro ⟨latest, hlatest, hrevision⟩
    rw [lift_bind_of_ok (hs_took.retry_current hs hown hlatest hrevision), ← hreceipt]
    rfl
  · intro hmoved
    obtain ⟨latest, hlatest, -⟩ := hs_took.exists_latest hs
    have hrevision : latest.revision ≠ rule.expectedRevision + 1 :=
      fun heq => hmoved ⟨latest, hlatest, heq⟩
    obtain ⟨hnone, error, herror⟩ := hs_took.retry_superseded hs hlatest hrevision
    cases hretry : rule.retry s.slot with
    | error e => exact ⟨e, rfl⟩
    | ok retried =>
      cases retried with
      | some found => exact absurd hretry (hnone found)
      | none => exact ⟨error, by rw [herror]; rfl⟩

omit [Integrity] in
/-- The receipt of an attempt that is not new: it carries no envelope. -/
def DeliveryAttemptReceipt.repeated (receipt : DeliveryAttemptReceipt) : DeliveryAttemptReceipt where
  toDeliveryTransitionReceipt := receipt.toDeliveryTransitionReceipt.repeated
  envelope := none
  valid := rfl

/-- The beginning of an attempt that returned took effect. -/
theorem beginAttemptLocked_took (hrun : run.Live) (hrule : rule.Advances)
    {receipt : DeliveryAttemptReceipt} (h : beginAttemptLocked rule run = .ok receipt t)
    (hkeeps : run.slot.Keeps t.slot) : acquireSlot run = .ok ()
      ∧ ∃ record stored, rule.Took t.slot record stored
        ∧ stored.repeated = receipt.toDeliveryTransitionReceipt.repeated := by
  unfold beginAttemptLocked at h
  rw [get_bind] at h
  obtain ⟨hacquire, h⟩ := Stateful.check_bind_eq_ok.mp h
  obtain ⟨-, h⟩ := Stateful.check_bind_eq_ok.mp h
  obtain ⟨retried, hretried, h⟩ := lift_bind_eq_ok.mp h
  refine ⟨hacquire, ?_⟩
  cases retried with
  | some found =>
    obtain ⟨hcreate, rfl⟩ := lift_eq_ok.mp h
    rw [mapError_eq_ok] at hcreate
    obtain ⟨-, rfl⟩ := validate_eq_ok.mp hcreate
    obtain ⟨record, stored, htook, rfl⟩ := DeliveryRule.retry_eq_some hrun hretried
    exact ⟨record, stored, htook, rfl⟩
  | none =>
    obtain ⟨record, hrecord, h⟩ := lift_bind_eq_ok.mp h
    obtain ⟨envelope, -, h⟩ := lift_bind_eq_ok.mp h
    obtain ⟨base, hmakes⟩ := DeliveryRule.record_eq_ok hrecord
    obtain ⟨made, u, hmade, h⟩ := Stateful.bind_eq_ok.mp h
    obtain ⟨hcreate, rfl⟩ := lift_eq_ok.mp h
    rw [mapError_eq_ok] at hcreate
    obtain ⟨-, rfl⟩ := validate_eq_ok.mp hcreate
    exact hmakes.took hrun hrule hmade hkeeps

/-- The beginning of an attempt that is submitted again returns its receipt without an envelope
while the delivery is at the revision that it made, and raises from then on. -/
theorem beginAttemptLocked_repeats (hrun : run.Live) (hrule : rule.Advances) (hown : rule.KnowsOwn)
    {receipt : DeliveryAttemptReceipt} (h : beginAttemptLocked rule run = .ok receipt t)
    (hs : s.Live) (hrt : run.slot.Keeps t.slot) (hts : t.slot.Keeps s.slot) :
    (s.slot.AtRevision rule.deliveryId (rule.expectedRevision + 1) →
      beginAttemptLocked rule s = .ok receipt.repeated s)
    ∧ (¬s.slot.AtRevision rule.deliveryId (rule.expectedRevision + 1) →
      ∃ error, beginAttemptLocked rule s = .error error s) := by
  obtain ⟨hacquire, record, stored, htook, hreceipt⟩ := beginAttemptLocked_took hrun hrule h hrt
  have hs_took := htook.keeps hts
  obtain ⟨hopen, hverify⟩ := hrun.opened hacquire hs (hrt.trans hts)
  unfold beginAttemptLocked
  rw [get_bind, lift_bind_of_ok hopen, lift_bind_of_ok hverify]
  constructor
  · rintro ⟨latest, hlatest, hrevision⟩
    rw [lift_bind_of_ok (hs_took.retry_current hs hown hlatest hrevision), hreceipt]
    rfl
  · intro hmoved
    obtain ⟨latest, hlatest, -⟩ := hs_took.exists_latest hs
    have hrevision : latest.revision ≠ rule.expectedRevision + 1 :=
      fun heq => hmoved ⟨latest, hlatest, heq⟩
    obtain ⟨hnone, error, herror⟩ := hs_took.retry_superseded hs hlatest hrevision
    cases hretry : rule.retry s.slot with
    | error e => exact ⟨e, rfl⟩
    | ok retried =>
      cases retried with
      | some found => exact absurd hretry (hnone found)
      | none => exact ⟨error, by rw [herror]; rfl⟩

/-! ## Events -/

/-- An append that took effect: its source identity is in use, by its own event, or by one with
which its collision is on record. -/
def Recorded (slot : Slot) (draft : NormalizedTraceEventDraft) (redacted : RedactedTraceEventDraft) :
    Prop :=
  ∃ existing, slot.projection.eventsBySource.get? draft.sourceEventId = some existing
    ∧ (existing.eventIdentity = redacted.eventIdentity
      ∨ (collisionFingerprint existing redacted).value ∈ slot.collisionReceipts)

theorem Recorded.keeps {slot next : Slot} {draft : NormalizedTraceEventDraft}
    {redacted : RedactedTraceEventDraft} (h : Recorded slot draft redacted)
    (hkeeps : slot.Keeps next) : Recorded next draft redacted := by
  obtain ⟨existing, hknown, hsame⟩ := h
  refine ⟨existing, hkeeps.projection.sources hknown, hsame.imp_right fun hmem => ?_⟩
  obtain ⟨stored, hstored⟩ := Dict.mem_iff.mp hmem
  exact Dict.mem_of_get? (hkeeps.collisionReceipts hstored)

/-- An append that returned took effect. -/
theorem Appended.recorded [Redactor] {draft : NormalizedTraceEventDraft}
    {redacted : RedactedTraceEventDraft} {eventId newId : Option UUID4} {receipt : AppendReceipt}
    (h : Appended draft redacted eventId newId run receipt t)
    (hsource : redacted.sourceEventId = draft.sourceEventId) (hkeeps : run.slot.Keeps t.slot) :
    Recorded t.slot draft redacted := by
  cases h with
  | duplicate existing known same => exact ⟨existing, known, .inl same⟩
  | cached existing known differs stored => exact ⟨existing, known, .inr (Dict.mem_of_get? stored)⟩
  | collision existing _ known differs collides trusted stored =>
    exact ⟨existing, hkeeps.projection.sources known, .inr (Dict.mem_of_get? stored)⟩
  | event event staged created hstaged =>
    have hfields := (traceEvent_eq_ok created).2.1
    have hevent : event.sourceEventId = draft.sourceEventId := by rw [hfields, hsource]
    refine ⟨event, ?_, .inl (eventIdentity_traceEvent created)⟩
    show staged.projected.eventsBySource.get? draft.sourceEventId = some event
    rw [hstaged.accepted.of_event, hevent]
    exact Dict.get?_set_self

/-- An append that took effect changes nothing, whatever identity the factory makes. -/
theorem appendToSlot_again [Redactor] {draft : NormalizedTraceEventDraft}
    {redacted : RedactedTraceEventDraft} {eventId newId : Option UUID4}
    (h : Recorded s.slot draft redacted) :
    EndsIn (appendToSlot draft redacted eventId newId) s (· = s) := by
  obtain ⟨existing, hknown, hsame⟩ := h
  have hexisting : EndsIn (appendExisting existing redacted newId) s (· = s) := by
    unfold appendExisting
    refine .get_bind ?_
    split
    · exact .lift rfl
    · next hdiffers =>
      obtain ⟨stored, hstored⟩ := Dict.mem_iff.mp (hsame.resolve_left hdiffers)
      unfold recordCollision
      refine .get_bind ?_
      simp only [hstored]
      exact .pure rfl
  unfold appendToSlot
  refine .get_bind ?_
  simp only [hknown]
  split
  · exact hexisting
  · exact .lift_bind rfl fun _ _ => hexisting

end SalienceGate
