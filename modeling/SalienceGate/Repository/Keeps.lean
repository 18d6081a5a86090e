import SalienceGate.Repository.Reached

/-!
# What growth keeps

A slot never forgets: an entry, a record with its receipt, a source identity and a revision stay
where they are, whatever the repository does later. A committed cycle stays the latest revision of
its cycle.
-/

namespace SalienceGate

open Checked

variable [Hashing] {p q r : Projection} {record : LedgerRecord}

/-! ## Projections -/

/-- What a projection keeps of an earlier one. -/
structure Projection.Keeps (p q : Projection) : Prop where
  sources : p.eventsBySource ≤ q.eventsBySource
  decisions : p.decisions ≤ q.decisions
  cycles : p.cycleHistory ≤ q.cycleHistory
  deliveries : p.deliveryHistory ≤ q.deliveryHistory
  committed : ∀ id cycle, p.cycles.get? id = some cycle → cycle.state = .committed →
    q.cycles.get? id = some cycle

theorem Projection.Keeps.refl (p : Projection) : p.Keeps p :=
  ⟨le_rfl, le_rfl, le_rfl, le_rfl, fun _ _ h _ => h⟩

theorem Projection.Keeps.trans (h : p.Keeps q) (h' : q.Keeps r) : p.Keeps r where
  sources := h.sources.trans h'.sources
  decisions := h.decisions.trans h'.decisions
  cycles := h.cycles.trans h'.cycles
  deliveries := h.deliveries.trans h'.deliveries
  committed id cycle hget hstate :=
    h'.committed id cycle (h.committed id cycle hget hstate) hstate

/-- An accepted entry keeps what is there. -/
theorem Accepted.keeps (hcycles : CycleInvariant p) (hdeliveries : DeliveryInvariant p)
    (h : Accepted p record q) : p.Keeps q := by
  have hrefl := Projection.Keeps.refl p
  cases h with
  | event position event next freshId freshSource =>
    exact { hrefl with sources := Dict.le_set_of_notMem freshSource }
  | signal => exact { hrefl with }
  | decision decision limits fresh =>
    exact { hrefl with decisions := Dict.le_set_of_notMem fresh }
  | cycle cycle decision checked uncommitted =>
    have ha := Accepted.cycle cycle decision checked uncommitted
    exact { hrefl with
      cycles := Dict.le_set_of_notMem (ha.fresh_cycle hcycles)
      committed := fun _ _ => ha.committed_mono }
  | commit cycle decision delta intervention bank reminders checked committed commit remembered =>
    have ha := Accepted.commit cycle decision delta intervention bank reminders checked committed
      commit remembered
    exact { hrefl with
      cycles := Dict.le_set_of_notMem (ha.fresh_cycle hcycles)
      committed := fun _ _ => ha.committed_mono }
  | outcome => exact { hrefl with }
  | delivery delivery cycle intervention checked =>
    have ha := Accepted.delivery delivery cycle intervention checked
    exact { hrefl with deliveries := Dict.le_set_of_notMem (ha.fresh_delivery hdeliveries) }

/-! ## Slots -/

variable [Integrity] {slot t u : Slot} {staged : StagedEntry}

/-- What a slot keeps of an earlier one. -/
structure Slot.Keeps (slot t : Slot) : Prop where
  ledger : slot.ledger <+: t.ledger
  projection : slot.projection.Keeps t.projection
  directRecords : slot.directRecords ≤ t.directRecords
  cycleRecords : slot.cycleRecords ≤ t.cycleRecords
  deliveryRecords : slot.deliveryRecords ≤ t.deliveryRecords
  collisionReceipts : slot.collisionReceipts ≤ t.collisionReceipts

omit [Integrity] in
theorem Slot.Keeps.refl (slot : Slot) : slot.Keeps slot :=
  ⟨List.prefix_rfl, .refl _, le_rfl, le_rfl, le_rfl, le_rfl⟩

omit [Integrity] in
theorem Slot.Keeps.trans (h : slot.Keeps t) (h' : t.Keeps u) : slot.Keeps u where
  ledger := h.ledger.trans h'.ledger
  projection := h.projection.trans h'.projection
  directRecords := h.directRecords.trans h'.directRecords
  cycleRecords := h.cycleRecords.trans h'.cycleRecords
  deliveryRecords := h.deliveryRecords.trans h'.deliveryRecords
  collisionReceipts := h.collisionReceipts.trans h'.collisionReceipts

/-- A staged entry keeps what is there. -/
theorem IsStaged.keeps (h : IsStaged slot record staged) (hslot : slot.Replays) :
    slot.Keeps (slot.append staged) := by
  have hprojection := h.accepted.keeps hslot.cycleInvariant hslot.deliveryInvariant
  exact { Slot.Keeps.refl slot with
    ledger := List.prefix_append _ _
    projection := hprojection }

/-- A staged revision of a cycle keeps what is there. -/
theorem IsStaged.keeps_addCycle {cycle : CycleRecord} {receipt : CycleReceipt}
    (h : IsStaged slot (.cycleRecord cycle) staged) (hslot : slot.Replays) :
    slot.Keeps (slot.addCycle staged cycle receipt) := by
  have hfresh : (cycle.cycleId, cycle.revision) ∉ slot.cycleRecords := by
    have hmem := h.accepted.fresh_cycle hslot.cycleInvariant
    rwa [← hslot.cycles, Dict.mem_mapValues] at hmem
  exact { h.keeps hslot with cycleRecords := Dict.le_set_of_notMem hfresh }

/-- A staged revision of a delivery keeps what is there. -/
theorem IsStaged.keeps_addDelivery {delivery : DeliveryRecord}
    (h : IsStaged slot (.deliveryRecord delivery) staged) (hslot : slot.Replays) :
    slot.Keeps (slot.addDelivery staged delivery) := by
  have hfresh : (delivery.deliveryId, delivery.revision) ∉ slot.deliveryRecords := by
    have hmem := h.accepted.fresh_delivery hslot.deliveryInvariant
    rwa [← hslot.deliveries, Dict.mem_mapValues] at hmem
  exact { h.keeps hslot with deliveryRecords := Dict.le_set_of_notMem hfresh }

/-- An extension keeps what is there. -/
theorem Extends.keeps (hslot : slot.Replays) (h : Extends slot t) : slot.Keeps t := by
  cases h with
  | event event staged h plain => exact h.keeps hslot
  | direct record staged h fresh =>
    exact { h.keeps hslot with directRecords := Dict.le_set_of_notMem fresh }
  | cycle cycle receipt staged h receipt_eq settled => exact h.keeps_addCycle hslot
  | reminder cycle delivery receipt first second hfirst receipt_eq hsecond complete =>
    have hmiddle := Stores.replays hslot (.cycle cycle (some delivery) receipt first hfirst receipt_eq)
    exact (hfirst.keeps_addCycle hslot).trans (hsecond.keeps_addDelivery hmiddle)
  | delivery delivery staged h later => exact h.keeps_addDelivery hslot

/-- A growth keeps what is there. -/
theorem Grows.keeps [Redactor] (hslot : slot.Replays) (h : Grows slot t) : slot.Keeps t := by
  cases h with
  | plain h => exact h.keeps hslot
  | collides incoming h =>
    cases h with
    | audit existing event receipt staged h known fresh =>
      exact { h.keeps hslot with collisionReceipts := Dict.le_set_of_notMem fresh }

/-- Whatever happens to a live run, it keeps what is there. -/
theorem Continued.keeps [Redactor] {run next : RunState} (h : Continued run next) (hrun : run.Live) :
    run.slot.Keeps next.slot := by
  have hslot := h.slot
  generalize next.slot = t at hslot
  have hall : t.Settled ∧ run.slot.Keeps t := by
    induction hslot with
    | refl => exact ⟨hrun.settled, .refl _⟩
    | tail _ hgrows ih => exact ⟨hgrows.settled ih.1, ih.2.trans (hgrows.keeps ih.1.toReplays)⟩
  exact hall.2

end SalienceGate
