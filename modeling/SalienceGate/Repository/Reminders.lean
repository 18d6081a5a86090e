import SalienceGate.Repository.Keeps

/-!
# Reminders and their deliveries

The outbox of every reachable state is complete: a committed reminder has one delivery, whose first
revision stands in the ledger right after the commit, and no other cycle has one. A commit that
raises changes nothing.
-/

namespace SalienceGate

open Checked

variable [Hashing] [Integrity] {slot t : Slot} {delivery : DeliveryRecord} {cycle : CycleRecord}

/-- The first revision of a delivery was stored right after the commit of its reminder. -/
structure Enqueued (slot : Slot) (delivery : DeliveryRecord) (cycle : CycleRecord) : Prop where
  committed : slot.projection.cycles.get? delivery.cycleId = some cycle
  reminder : cycle.isCommittedReminder = true
  pending : delivery.state = .pending
  created : delivery.createdAt = cycle.updatedAt
  adjacent : ∃ before first second after, slot.ledger = before ++ first :: second :: after
    ∧ first.record = .cycleRecord cycle ∧ second.record = .deliveryRecord delivery

/-- Every first revision of a delivery was stored right after the commit of its reminder. -/
def Slot.Enqueues (slot : Slot) : Prop :=
  ∀ id delivery, slot.projection.deliveryHistory.get? (id, 1) = some delivery →
    ∃ cycle, Enqueued slot delivery cycle

omit [Integrity] in
/-- What was stored stays where it is. -/
theorem Enqueued.keeps (h : Enqueued slot delivery cycle) (ht : slot.Keeps t) :
    Enqueued t delivery cycle where
  committed := ht.projection.committed _ _ h.committed
    (CycleRecord.state_of_isCommittedReminder h.reminder)
  reminder := h.reminder
  pending := h.pending
  created := h.created
  adjacent := by
    obtain ⟨before, first, second, after, hledger, hfirst, hsecond⟩ := h.adjacent
    obtain ⟨suffix, hsuffix⟩ := ht.ledger
    refine ⟨before, first, second, after ++ suffix, ?_, hfirst, hsecond⟩
    rw [← hsuffix, hledger, List.append_assoc, List.cons_append, List.cons_append]

omit [Integrity] in
/-- A growth without a new first revision enqueues nothing. -/
theorem Slot.Enqueues.keeps (h : slot.Enqueues) (ht : slot.Keeps t)
    (hold : ∀ id delivery, t.projection.deliveryHistory.get? (id, 1) = some delivery →
      slot.projection.deliveryHistory.get? (id, 1) = some delivery) : t.Enqueues := by
  intro id delivery hget
  obtain ⟨cycle, henqueued⟩ := h id delivery (hold id delivery hget)
  exact ⟨cycle, henqueued.keeps ht⟩

/-- The commit of a reminder enqueues its delivery. -/
theorem Slot.Enqueues.reminder (h : slot.Enqueues) {receipt : CycleReceipt} {first second : StagedEntry} (hfirst : IsStaged slot (.cycleRecord cycle) first)
    (receipt_eq : cycleReceipt cycle first (some delivery) = .ok receipt)
    (hsecond : IsStaged (slot.addCycle first cycle receipt) (.deliveryRecord delivery) second)
    (hkeeps : slot.Keeps ((slot.addCycle first cycle receipt).addDelivery second delivery)) :
    ((slot.addCycle first cycle receipt).addDelivery second delivery).Enqueues := by
  intro id other hget
  have hhistory : second.projected.deliveryHistory
      = slot.projection.deliveryHistory.set (delivery.deliveryId, delivery.revision) delivery := by
    rw [hsecond.accepted.of_delivery.1]
    exact congrArg (Dict.set · _ _) (hfirst.accepted.deliveryHistory_eq (by simp))
  have hother : second.projected.deliveryHistory.get? (id, 1) = some other := hget
  rw [hhistory] at hother
  rcases Dict.get?_set_eq_some.mp hother with ⟨-, rfl⟩ | ⟨-, hold⟩
  · -- the delivery of this commit: what its receipt carries
    obtain ⟨-, hreceipt⟩ := cycleReceipt_eq_ok receipt_eq
    have hspec := receipt.delivery_spec
    have hcarries := hspec.2 other (congrArg CycleReceiptFields.delivery hreceipt)
    have hreminder := hspec.1
    rw [congrArg CycleReceiptFields.cycle hreceipt, congrArg CycleReceiptFields.delivery hreceipt]
      at hreminder
    rw [hreceipt] at hcarries
    obtain ⟨-, hpending, -, -, hid, hcreated, -⟩ := hcarries
    have hcycles : second.projected.cycles.get? other.cycleId = some cycle := by
      rw [hsecond.accepted.cycles_eq (by simp), hid]
      show first.projected.cycles.get? cycle.cycleId = some cycle
      rw [hfirst.accepted.of_cycle.2]
      exact Dict.get?_set_self
    refine ⟨cycle, hcycles, hreminder, hpending, hcreated, slot.ledger, first.entry, second.entry, [],
      ?_, hfirst.record_eq, hsecond.record_eq⟩
    exact List.append_assoc _ _ _
  · obtain ⟨owner, henqueued⟩ := h id other hold
    exact ⟨owner, henqueued.keeps hkeeps⟩

/-- An extension enqueues a delivery with its reminder, or none. -/
theorem Extends.enqueues (hslot : slot.Settled) (h : slot.Enqueues) (hext : Extends slot t) :
    t.Enqueues := by
  have hkeeps := hext.keeps hslot.toReplays
  cases hext with
  | event event staged hstaged plain =>
    refine h.keeps hkeeps fun id other hget => ?_
    rw [← hstaged.accepted.deliveryHistory_eq (by simp)]
    exact hget
  | direct record staged hstaged fresh =>
    refine h.keeps hkeeps fun id other hget => ?_
    rw [← hstaged.accepted.deliveryHistory_eq
      (by cases record <;> simp [DirectLedgerRecord.toLedgerRecord])]
    exact hget
  | cycle cycle receipt staged hstaged receipt_eq settled =>
    refine h.keeps hkeeps fun id other hget => ?_
    rw [← hstaged.accepted.deliveryHistory_eq (by simp)]
    exact hget
  | reminder cycle delivery receipt first second hfirst receipt_eq hsecond complete =>
    exact h.reminder hfirst receipt_eq hsecond hkeeps
  | delivery delivery staged hstaged later =>
    refine h.keeps hkeeps fun id other hget => ?_
    have hother : staged.projected.deliveryHistory.get? (id, 1) = some other := hget
    rw [hstaged.accepted.of_delivery.1, Dict.get?_set_of_ne] at hother
    · exact hother
    · exact fun heq => later (congrArg Prod.snd heq).symm

/-- A growth enqueues a delivery with its reminder, or none. -/
theorem Grows.enqueues [Redactor] (hslot : slot.Settled) (h : slot.Enqueues) (hgrows : Grows slot t) :
    t.Enqueues := by
  cases hgrows with
  | plain hext => exact hext.enqueues hslot h
  | collides incoming hcollides =>
    have hkeeps := (Grows.collides incoming hcollides).keeps hslot.toReplays
    cases hcollides with
    | audit existing event receipt staged hstaged =>
      refine h.keeps hkeeps fun id other hget => ?_
      rw [← hstaged.accepted.deliveryHistory_eq (by simp)]
      exact hget

/-- Whatever happens to a live run, its deliveries were enqueued with their reminders. -/
theorem Continued.enqueues [Redactor] {run next : RunState} (h : Continued run next)
    (hrun : run.Live) (henqueues : run.slot.Enqueues) : next.slot.Enqueues := by
  have hslot := h.slot
  generalize next.slot = t at hslot
  have hall : t.Settled ∧ t.Enqueues := by
    induction hslot with
    | refl => exact ⟨hrun.settled, henqueues⟩
    | tail _ hgrows ih => exact ⟨hgrows.settled ih.1, hgrows.enqueues ih.1 ih.2⟩
  exact hall.2

/-- The deliveries of every reachable run were enqueued with their reminders. -/
theorem ReachableBy.enqueues [Redactor] [Serialization] {C : Repository → Operation → Prop}
    {repository : Repository} (h : ReachableBy C repository) (runId : UUID4) :
    (repository runId).slot.Enqueues := by
  have hall : repository.Live ∧ ∀ runId, (repository runId).slot.Enqueues := by
    refine h.invariant (I := fun repository => repository.Live ∧ ∀ runId,
      (repository runId).slot.Enqueues) ⟨live_repository_empty, ?_⟩ ?_
    · intro runId id delivery hget
      cases hget
    · rintro repository operation ⟨hlive, henqueues⟩ -
      have hperform := (operation.perform_continued hlive).after
      exact ⟨hlive.continued hperform, fun id => (hperform id).enqueues (hlive.live id) (henqueues id)⟩
  exact hall.2 runId

/-- Every revision of a delivery is of the cycle of its first one. -/
theorem Slot.Replays.first_delivery (hslot : slot.Replays) {id : UUID4} {n : ℕ}
    (hget : slot.projection.deliveryHistory.get? (id, n) = some delivery) :
    ∃ first, slot.projection.deliveryHistory.get? (id, 1) = some first
      ∧ first.deliveryId = id ∧ first.cycleId = delivery.cycleId := by
  have hkept := hslot.deliveryInvariant.kept
  have hone := hkept.one_le hget
  obtain ⟨first, hfirst⟩ := hkept.exists_of_le hget le_rfl hone
  have hidentity : delivery.identity = first.identity :=
    hkept.relation (R := fun v w : DeliveryRecord => w.identity = v.identity) (fun _ => rfl)
      (fun _ _ _ huv hvw => hvw.trans huv) (fun _ _ hnext => hnext.1) hfirst hget hone
  exact ⟨first, hfirst, (hkept.key hfirst).1, (congrArg DeliveryIdentity.cycleId hidentity).symm⟩

/-- A committed reminder has one delivery, stored right after its commit. -/
theorem Slot.Settled.exists_enqueued (hslot : slot.Settled) (henqueues : slot.Enqueues)
    {id : Sha256Digest} (hget : slot.projection.cycles.get? id = some cycle)
    (hreminder : cycle.isCommittedReminder = true) :
    ∃ delivery, slot.projection.deliveryHistory.get? (delivery.deliveryId, 1) = some delivery
      ∧ delivery.cycleId = id ∧ Enqueued slot delivery cycle
      ∧ ∀ other n revision, slot.projection.deliveryHistory.get? (other, n) = some revision →
        revision.cycleId = id → other = delivery.deliveryId := by
  obtain ⟨intervention, delivery, -, hinitial, -⟩ := hslot.complete.owned hget hreminder
  have hident : cycle.cycleId = id := hslot.cycleInvariant.kept.ident_latest hget
  rw [hident] at hinitial
  obtain ⟨hfirst, hcycle⟩ := initialDeliveries_get? hinitial
  obtain ⟨owner, henqueued⟩ := henqueues _ _ hfirst
  have howner : owner = cycle := by
    have hcommitted := henqueued.committed
    rw [hcycle, hget] at hcommitted
    exact (Option.some.inj hcommitted).symm
  subst howner
  refine ⟨delivery, hfirst, hcycle, henqueued, fun other n revision hrevision hid => ?_⟩
  obtain ⟨first, hother, hsame, hfirstCycle⟩ := hslot.first_delivery hrevision
  rw [← hsame] at hother
  have hpending := get?_of_pendingByCycle hslot.complete.pending hother
  rw [hfirstCycle, hid, hinitial, Option.some.injEq] at hpending
  rw [hpending, hsame]

/-- The cycle of a delivery is a committed reminder. -/
theorem Slot.Settled.exists_owner (hslot : slot.Settled) {id : UUID4} {n : ℕ}
    (hget : slot.projection.deliveryHistory.get? (id, n) = some delivery) :
    ∃ cycle, slot.projection.cycles.get? delivery.cycleId = some cycle
      ∧ cycle.isCommittedReminder = true := by
  obtain ⟨first, hfirst, hsame, hcycle⟩ := hslot.first_delivery hget
  rw [← hsame] at hfirst
  have hpending := get?_of_pendingByCycle hslot.complete.pending hfirst
  rw [hcycle] at hpending
  exact hslot.complete.owner hslot.cycleInvariant (Dict.mem_of_get? hpending)

/-- A commit leaves the repository as it is if it raises. -/
theorem atomic_commitCycle [Redactor] [Serialization] {command : Argument CommitCycle} :
    Stateful.Atomic (commitCycle command) := by
  unfold commitCycle
  exact .lift_bind fun _ _ => .lift_bind fun _ _ => atomic_onRun atomic_commitCycleLocked

/-- After any sequence of operations the outbox of every run is complete: a committed reminder has
exactly one delivery, whose first revision is pending and stands right after the commit, and every
delivery is of a committed reminder. And a commit that raises, in any state, leaves it as it is. -/
theorem outbox_complete [Redactor] [Serialization] (operations : List Operation) (runId : UUID4) :
    validateCompleteProjection (performAll operations Repository.empty runId).slot.projection
        = .ok ()
    ∧ (∀ id cycle,
      (performAll operations Repository.empty runId).slot.projection.cycles.get? id = some cycle →
      cycle.isCommittedReminder = true → ∃ delivery,
        (performAll operations Repository.empty runId).slot.projection.deliveryHistory.get?
            (delivery.deliveryId, 1) = some delivery
          ∧ delivery.cycleId = id
          ∧ Enqueued (performAll operations Repository.empty runId).slot delivery cycle
          ∧ ∀ other n revision,
            (performAll operations Repository.empty runId).slot.projection.deliveryHistory.get?
              (other, n) = some revision →
            revision.cycleId = id → other = delivery.deliveryId)
    ∧ (∀ id n revision,
      (performAll operations Repository.empty runId).slot.projection.deliveryHistory.get? (id, n)
        = some revision →
      ∃ cycle, (performAll operations Repository.empty runId).slot.projection.cycles.get?
          revision.cycleId = some cycle
        ∧ cycle.isCommittedReminder = true)
    ∧ ∀ command repository error t,
      commitCycle command repository = .error error t → t = repository := by
  have hreached := reachable_performAll .empty operations
  have hsettled := (hreached.live.live runId).settled
  refine ⟨validateCompleteProjection_eq_ok.mpr hsettled.complete, fun id cycle hget hreminder => ?_,
    fun id n revision hget => hsettled.exists_owner hget,
    fun command repository error t h => atomic_commitCycle h⟩
  exact hsettled.exists_enqueued (hreached.enqueues runId) hget hreminder

end SalienceGate
