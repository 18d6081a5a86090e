import SalienceGate.Projector.Budget
import SalienceGate.Projector.Outbox
import SalienceGate.Repository.Staged

/-!
# Settled slots

Between two methods a slot is settled: its ledger replays to it, its projection is complete, the
receipts of its cycle revisions are those that a rebuild would attach, and its collision receipts
belong to its audit events, one by one. Every extension keeps a slot settled.
-/

namespace SalienceGate

open Checked

variable [Hashing] [Integrity] {slot t : Slot} {record : LedgerRecord} {staged : StagedEntry}

/-! ## The run of a slot -/

/-- Replaying an entry applies it. -/
theorem applyEntry_of_replayEntry {replayed next : Replayed} {entry : LedgerEntry}
    (h : replayEntry replayed entry = .ok next) :
    applyEntry replayed.projection entry = .ok next.projection := by
  obtain ⟨cursor, hcursor, h⟩ := bind_eq_ok.mp h
  obtain ⟨seeds, -, h⟩ := bind_eq_ok.mp h
  cases pure_eq_ok.mp h
  obtain ⟨-, hcursor⟩ := check_bind_eq_ok.mp hcursor
  obtain ⟨projection, happlied, hcursor⟩ := bind_eq_ok.mp hcursor
  cases pure_eq_ok.mp hcursor
  exact happlied

/-- The run of the ledger that replays to a slot. -/
def Slot.Replays.run (h : slot.Replays) : LedgerRun slot.runId where
  entries := slot.ledger
  final := slot.projection
  accepted := foldlM_project (p := fun replayed : Replayed => replayed.projection)
    (fun _ _ _ hround => applyEntry_of_replayEntry hround) h.replayed

namespace Slot.Replays

theorem events (h : slot.Replays) : EventInvariant slot.projection := eventInvariant h.run

theorem sources (h : slot.Replays) : SourceInvariant slot.projection := sourceInvariant h.run

theorem cycleInvariant (h : slot.Replays) : CycleInvariant slot.projection :=
  SalienceGate.cycleInvariant h.run

theorem deliveryInvariant (h : slot.Replays) : DeliveryInvariant slot.projection :=
  SalienceGate.deliveryInvariant h.run

theorem budget (h : slot.Replays) : BudgetInvariant slot.projection := budgetInvariant h.run

/-- A cycle revision of the projection is one with a receipt. -/
theorem cycleRecords_get? (h : slot.Replays) {key : Sha256Digest × ℕ} :
    slot.projection.cycleHistory.get? key = (slot.cycleRecords.get? key).map (·.record) := by
  rw [← h.cycles, Dict.get?_mapValues]

/-- A delivery revision of the projection is one with a receipt. -/
theorem deliveryRecords_get? (h : slot.Replays) {key : UUID4 × ℕ} :
    slot.projection.deliveryHistory.get? key = (slot.deliveryRecords.get? key).map (·.record) := by
  rw [← h.deliveries, Dict.get?_mapValues]

theorem mem_deliveryRecords (h : slot.Replays) {key : UUID4 × ℕ} :
    key ∈ slot.deliveryRecords ↔ key ∈ slot.projection.deliveryHistory := by
  rw [← h.deliveries, Dict.mem_mapValues]

end Slot.Replays

/-! ## Audit events -/

/-- An audit event and the receipt of its collision. -/
structure Audits (p : Projection) (event : TraceEvent) (item : Sha256Digest × AppendReceipt)
    (existing : TraceEvent) : Prop where
  source : event.sourceEventId = collisionSourceId item.1
  metadata : isAuditEvent event = true
  parent : event.parentIds = [existing.eventId]
  known : p.eventsById.get? existing.eventId = some existing
  receipt : auditedReceipt p existing event = .ok item.2

/-- The collision receipts belong to the audit events, in order. -/
def Audited (p : Projection) (receipts : Dict Sha256Digest AppendReceipt) : Prop :=
  List.Forall₂ (fun event item => ∃ existing, Audits p event item existing) (collisionEvents p)
    receipts.items

/-- A settled slot. -/
structure Slot.Settled (slot : Slot) : Prop extends slot.Replays where
  /-- The committed reminders are the cycles with a first delivery. -/
  complete : Complete slot.projection
  /-- The receipt of a cycle revision is the one that a rebuild attaches. -/
  attached : ∀ {key revision}, slot.cycleRecords.get? key = some revision →
    revision.seed.attach (initialDeliveries slot.projection) = .ok revision.receipt
  /-- The collision receipts belong to the audit events. -/
  audited : Audited slot.projection slot.collisionReceipts

theorem settled_emptySlot (runId : UUID4) : (emptySlot runId).Settled where
  toReplays := replays_emptySlot runId
  complete := complete_empty runId
  attached h := by cases h
  audited := .nil

/-! ## Events -/

section

variable {p q : Projection}

omit [Integrity] in
/-- An accepted entry keeps the events. -/
theorem Accepted.eventsById_mono (h : Accepted p record q) {id : UUID4} {event : TraceEvent}
    (hget : p.eventsById.get? id = some event) : q.eventsById.get? id = some event := by
  cases h with
  | signal | decision | cycle | commit | outcome | delivery => exact hget
  | event position added next freshId => exact Dict.get?_set_of_notMem freshId hget

omit [Integrity] in
/-- An accepted entry keeps the positions of the events. -/
theorem Accepted.eventPositions_mono (hp : SourceInvariant p) (h : Accepted p record q) {id : UUID4}
    {position : ℕ} (hget : p.eventPositions.get? id = some position) :
    q.eventPositions.get? id = some position := by
  cases h with
  | signal | decision | cycle | commit | outcome | delivery => exact hget
  | event _ added next freshId =>
    have hfresh : added.eventId ∉ p.eventPositions := fun hmem => freshId (hp.positioned.mp hmem)
    exact Dict.get?_set_of_notMem hfresh hget

omit [Integrity] in
/-- An entry that is not an event leaves the events under a collision identity. -/
theorem Accepted.collisionEvents_of_ne (h : Accepted p record q)
    (hevent : ∀ event, record ≠ .traceEvent event) : collisionEvents q = collisionEvents p := by
  cases h with
  | signal | decision | cycle | commit | outcome | delivery => rfl
  | event position event => exact absurd rfl (hevent event)

omit [Integrity] in
/-- An event under a collision identity is the last of them. -/
theorem Accepted.collisionEvents_eq {event : TraceEvent} (hp : EventInvariant p)
    (h : Accepted p (.traceEvent event) q) : collisionEvents q
      = collisionEvents p ++ if isCollisionSource event.sourceEventId = true then [event] else [] := by
  cases h with
  | event position _ next freshId =>
    have hfresh : event.sequence ∉ p.eventsBySequence := by
      intro hmem
      have := (hp.numbered.mp hmem).2
      omega
    unfold collisionEvents Projection.addEvent
    rw [Dict.values_set_of_notMem hfresh, List.filter_append, List.filter_singleton]
    split <;> simp_all

omit [Integrity] in
/-- An audit event stays the audit event of its collision. -/
theorem Audits.mono {event existing : TraceEvent} {item : Sha256Digest × AppendReceipt}
    (h : Audits p event item existing) (hp : SourceInvariant p) (ha : Accepted p record q) :
    Audits q event item existing where
  source := h.source
  metadata := h.metadata
  parent := h.parent
  known := ha.eventsById_mono h.known
  receipt := by
    obtain ⟨position, hposition, hreceipt⟩ := bind_eq_ok.mp h.receipt
    rw [eventPosition, expect_eq_ok] at hposition
    refine bind_eq_ok.mpr ⟨position, ?_, hreceipt⟩
    rw [eventPosition, expect_eq_ok]
    exact ha.eventPositions_mono hp hposition

omit [Integrity] in
/-- Without a new audit event, the collision receipts still belong to the audit events. -/
theorem Audited.mono {receipts : Dict Sha256Digest AppendReceipt} (h : Audited p receipts)
    (hp : SourceInvariant p) (ha : Accepted p record q)
    (hevents : collisionEvents q = collisionEvents p) : Audited q receipts := by
  unfold Audited
  rw [hevents]
  refine h.imp ?_
  rintro event item ⟨existing, haudits⟩
  exact ⟨existing, haudits.mono hp ha⟩

omit [Hashing] [Integrity] in
/-- The identity of an audit event is a collision identity. -/
theorem isCollisionSource_collisionSourceId (fingerprint : Sha256Digest) :
    isCollisionSource (collisionSourceId fingerprint) = true := by
  have htext : (collisionSourceId fingerprint).text.toList
      = collisionPrefix ++ fingerprint.text.toList := String.toList_append
  rw [isCollisionSource, htext, List.isPrefixOf_iff_prefix]
  exact List.prefix_append _ _

omit [Integrity] in
/-- A new collision receipt belongs to the new audit event. -/
theorem Audited.concat {receipts : Dict Sha256Digest AppendReceipt} (h : Audited p receipts)
    (hevents : EventInvariant p) (hp : SourceInvariant p) {event existing : TraceEvent}
    {item : Sha256Digest × AppendReceipt} (ha : Accepted p (.traceEvent event) q)
    (haudits : Audits p event item existing) (hfresh : item.1 ∉ receipts) :
    Audited q (receipts.set item.1 item.2) := by
  have hcollision : isCollisionSource event.sourceEventId = true := by
    rw [haudits.source]
    exact isCollisionSource_collisionSourceId item.1
  unfold Audited
  rw [ha.collisionEvents_eq hevents, if_pos hcollision, Dict.items_set_of_notMem hfresh]
  refine List.rel_append (h.imp ?_) (.cons ⟨existing, haudits.mono hp ha⟩ .nil)
  rintro other item ⟨existing, haudits⟩
  exact ⟨existing, haudits.mono hp ha⟩

end

/-! ## Cycle receipts -/

omit [Integrity] in
/-- The receipt of a staged cycle revision is the one that a rebuild attaches, if it carries the first
delivery of its commit. -/
theorem attach_eq_ok {cycle : CycleRecord} {delivery : Option DeliveryRecord}
    {receipt : CycleReceipt} (h : cycleReceipt cycle staged delivery = .ok receipt)
    {pending : Dict Sha256Digest DeliveryRecord} (hdelivery : delivery
      = if cycle.state = .committed then pending.get? cycle.cycleId else none) :
    (CycleRevision.seed ⟨cycle, receipt⟩).attach pending = .ok receipt := by
  obtain ⟨-, hreceipt⟩ := cycleReceipt_eq_ok h
  have hfields : receipt.toCycleReceiptFields = {
      appended := true
      cycle
      recordTag := receipt.recordTag
      ledgerPosition := receipt.ledgerPosition
      chainTag := receipt.chainTag
      budgetSnapshot := receipt.budgetSnapshot
      delivery := if cycle.state = .committed then pending.get? cycle.cycleId else none } := by
    have htag := congrArg CycleReceiptFields.recordTag hreceipt
    have hposition := congrArg CycleReceiptFields.ledgerPosition hreceipt
    have hchain := congrArg CycleReceiptFields.chainTag hreceipt
    rw [htag, hposition, hchain, ← hdelivery]
    exact hreceipt
  unfold CycleReceiptSeed.attach CycleRevision.seed
  rw [mapError_eq_ok]
  simp only
  rw [← hfields]
  exact validate_self receipt.valid

omit [Integrity] in
/-- The first delivery of another cycle does not change the receipt of a revision. -/
theorem attach_congr {seed : CycleReceiptSeed} {pending next : Dict Sha256Digest DeliveryRecord}
    (h : seed.record.state = .committed →
      next.get? seed.record.cycleId = pending.get? seed.record.cycleId) :
    seed.attach next = seed.attach pending := by
  unfold CycleReceiptSeed.attach
  by_cases hstate : seed.record.state = .committed
  · rw [if_pos hstate, if_pos hstate, h hstate]
  · rw [if_neg hstate, if_neg hstate]

omit [Integrity] in
/-- A cycle receipt carries a delivery exactly if its cycle is a committed reminder. -/
theorem CycleReceipt.delivery_spec (receipt : CycleReceipt) :
    receipt.cycle.isCommittedReminder = receipt.delivery.isSome
      ∧ ∀ delivery, receipt.delivery = some delivery → receipt.carries delivery := by
  have hvalid := receipt.valid
  simp only [CycleReceiptFields.check, constrain_bind_eq_ok, refuse_bind_eq_ok, refuse_eq_ok,
    not_not, not_exists, not_and] at hvalid
  exact ⟨hvalid.2.1, fun delivery hdelivery => hvalid.2.2 delivery hdelivery⟩

/-- The receipts of the revisions before a staged one are attached as before, and its own as it was
built. -/
theorem attached_addCycle (hslot : slot.Settled) {cycle : CycleRecord}
    {delivery : Option DeliveryRecord} {receipt : CycleReceipt}
    (h : IsStaged slot (.cycleRecord cycle) staged)
    (receipt_eq : cycleReceipt cycle staged delivery = .ok receipt)
    {pending : Dict Sha256Digest DeliveryRecord} (hdelivery : delivery
      = if cycle.state = .committed then pending.get? cycle.cycleId else none)
    (hother : ∀ id, id ≠ cycle.cycleId →
      pending.get? id = (initialDeliveries slot.projection).get? id)
    {key : Sha256Digest × ℕ} {revision : CycleRevision}
    (hget : (slot.addCycle staged cycle receipt).cycleRecords.get? key = some revision) :
    revision.seed.attach pending = .ok revision.receipt := by
  rcases Dict.get?_set_eq_some.mp hget with ⟨-, rfl⟩ | ⟨-, hold⟩
  · exact attach_eq_ok receipt_eq hdelivery
  · rw [← hslot.attached hold]
    refine attach_congr fun hstate => hother _ ?_
    -- a committed revision is the last of its cycle
    intro hsame
    have hhistory : slot.projection.cycleHistory.get? key = some revision.record := by
      rw [hslot.cycleRecords_get?]
      exact congrArg (Option.map CycleRevision.record) hold
    have hid : revision.record.cycleId = key.1 := (hslot.cycleInvariant.kept.key hhistory).1
    have hkey : (cycle.cycleId, key.2) = key := Prod.ext (hsame.symm.trans hid) rfl
    rw [← hkey] at hhistory
    exact h.accepted.earlier_state hslot.cycleInvariant hhistory hstate

/-! ## Every extension keeps a slot settled -/

/-- A cycle revision without a delivery keeps a slot settled. -/
theorem Slot.Settled.addCycle (hslot : slot.Settled) {cycle : CycleRecord} {receipt : CycleReceipt}
    (h : IsStaged slot (.cycleRecord cycle) staged)
    (receipt_eq : cycleReceipt cycle staged none = .ok receipt)
    (settled : cycle.state = .committed → Complete staged.projected)
    (ht : (slot.addCycle staged cycle receipt).Replays) :
    (slot.addCycle staged cycle receipt).Settled where
  toReplays := ht
  complete := by
    by_cases hstate : cycle.state = .committed
    · exact settled hstate
    · exact hslot.complete.addCycle hslot.cycleInvariant ht.cycleInvariant h.accepted hstate
  attached := by
    intro key revision hget
    have hinitial : initialDeliveries staged.projected = initialDeliveries slot.projection :=
      initialDeliveries_of_eq (h.accepted.deliveryHistory_eq (by simp))
    refine attached_addCycle hslot h receipt_eq ?_ (fun id _ => by rw [← hinitial]; rfl) hget
    split
    · next hstate =>
      -- a committed cycle with a first delivery would be a reminder, and its receipt carry one
      symm
      rw [Dict.get?_eq_none]
      intro hmem
      obtain ⟨owner, howner, hreminder⟩ := (settled hstate).owner ht.cycleInvariant hmem
      rw [h.accepted.of_cycle.2, Dict.get?_set_self, Option.some.injEq] at howner
      subst howner
      obtain ⟨-, hreceipt⟩ := cycleReceipt_eq_ok receipt_eq
      have hspec := receipt.delivery_spec.1
      rw [congrArg CycleReceiptFields.cycle hreceipt, congrArg CycleReceiptFields.delivery hreceipt,
        hreminder] at hspec
      cases hspec
    · rfl
  audited := hslot.audited.mono hslot.sources h.accepted
    (h.accepted.collisionEvents_of_ne (by simp))

/-- A committed reminder with its delivery keeps a slot settled. -/
theorem Slot.Settled.addReminder (hslot : slot.Settled) {cycle : CycleRecord}
    {delivery : DeliveryRecord} {receipt : CycleReceipt} {first second : StagedEntry}
    (hfirst : IsStaged slot (.cycleRecord cycle) first)
    (receipt_eq : cycleReceipt cycle first (some delivery) = .ok receipt)
    (hsecond : IsStaged (slot.addCycle first cycle receipt) (.deliveryRecord delivery) second)
    (complete : Complete second.projected)
    (hmiddle : (slot.addCycle first cycle receipt).Replays)
    (ht : ((slot.addCycle first cycle receipt).addDelivery second delivery).Replays) :
    ((slot.addCycle first cycle receipt).addDelivery second delivery).Settled where
  toReplays := ht
  complete := complete
  attached := by
    intro key revision hget
    obtain ⟨-, hreceipt⟩ := cycleReceipt_eq_ok receipt_eq
    have hcarries := receipt.delivery_spec.2 delivery (congrArg CycleReceiptFields.delivery hreceipt)
    rw [hreceipt] at hcarries
    obtain ⟨hstate, -, hrevision, -, hid, -⟩ := hcarries
    have hinitial : initialDeliveries second.projected
        = (initialDeliveries slot.projection).set cycle.cycleId delivery := by
      rw [hsecond.accepted.initialDeliveries_eq hmiddle.deliveryInvariant, if_pos hrevision, hid]
      congr 1
      exact initialDeliveries_of_eq (hfirst.accepted.deliveryHistory_eq (by simp))
    have hsame : initialDeliveries ((slot.addCycle first cycle receipt).addDelivery second
        delivery).projection = (initialDeliveries slot.projection).set cycle.cycleId delivery :=
      hinitial
    rw [hsame]
    refine attached_addCycle hslot hfirst receipt_eq ?_ (fun id hne => Dict.get?_set_of_ne hne) hget
    rw [if_pos hstate, Dict.get?_set_self]
  audited := by
    have hmiddleAudited := hslot.audited.mono hslot.sources hfirst.accepted
      (hfirst.accepted.collisionEvents_of_ne (by simp))
    exact hmiddleAudited.mono hmiddle.sources hsecond.accepted
      (hsecond.accepted.collisionEvents_of_ne (by simp))

/-- An entry that is neither of a cycle nor of a delivery keeps a slot settled. -/
theorem IsStaged.settled (h : IsStaged slot record staged) (hslot : slot.Settled) (ht : t.Replays)
    (hprojection : t.projection = staged.projected) (hcycles : t.cycleRecords = slot.cycleRecords)
    (hcycle : ∀ cycle, record ≠ .cycleRecord cycle)
    (hdelivery : ∀ delivery, record ≠ .deliveryRecord delivery)
    (haudited : Audited staged.projected t.collisionReceipts) : t.Settled where
  toReplays := ht
  complete := by
    rw [hprojection]
    exact hslot.complete.of_eq (h.accepted.cycles_eq hcycle) (h.accepted.deliveryHistory_eq hdelivery)
  attached := by
    intro key revision hget
    rw [hprojection, initialDeliveries_of_eq (h.accepted.deliveryHistory_eq hdelivery)]
    rw [hcycles] at hget
    exact hslot.attached hget
  audited := by
    rw [hprojection]
    exact haudited

/-- A later revision of a delivery keeps a slot settled. -/
theorem Slot.Settled.addDelivery (hslot : slot.Settled) {delivery : DeliveryRecord}
    (h : IsStaged slot (.deliveryRecord delivery) staged) (later : delivery.revision ≠ 1)
    (ht : (slot.addDelivery staged delivery).Replays) :
    (slot.addDelivery staged delivery).Settled where
  toReplays := ht
  complete := hslot.complete.addDelivery hslot.deliveryInvariant h.accepted later
  attached := by
    intro key revision hget
    have hinitial := h.accepted.initialDeliveries_eq hslot.deliveryInvariant
    rw [if_neg later] at hinitial
    have hsame : initialDeliveries (slot.addDelivery staged delivery).projection
        = initialDeliveries slot.projection := hinitial
    rw [hsame]
    exact hslot.attached hget
  audited := hslot.audited.mono hslot.sources h.accepted
    (h.accepted.collisionEvents_of_ne (by simp))

/-- A plain extension keeps a slot settled. -/
theorem Extends.settled (hslot : slot.Settled) (h : Extends slot t) : t.Settled := by
  have ht : t.Replays := replays_of_stores hslot.toReplays h.stores
  cases h with
  | event event staged h plain =>
    refine h.settled hslot ht rfl rfl (by simp) (by simp) ?_
    have hevents := h.accepted.collisionEvents_eq hslot.events
    rw [plain, if_neg Bool.false_ne_true, List.append_nil] at hevents
    exact hslot.audited.mono hslot.sources h.accepted hevents
  | direct record staged h fresh =>
    have hevents := h.accepted.collisionEvents_of_ne
      (by cases record <;> simp [DirectLedgerRecord.toLedgerRecord])
    exact h.settled hslot ht rfl rfl (by cases record <;> simp [DirectLedgerRecord.toLedgerRecord])
      (by cases record <;> simp [DirectLedgerRecord.toLedgerRecord])
      (hslot.audited.mono hslot.sources h.accepted hevents)
  | cycle cycle receipt staged h receipt_eq settled =>
    exact hslot.addCycle h receipt_eq
      (fun hstate => validateCompleteProjection_eq_ok.mp (settled hstate)) ht
  | reminder cycle delivery receipt first second hfirst receipt_eq hsecond complete =>
    have hmiddle := Stores.replays hslot.toReplays
      (.cycle cycle (some delivery) receipt first hfirst receipt_eq)
    exact hslot.addReminder hfirst receipt_eq hsecond
      (validateCompleteProjection_eq_ok.mp complete) hmiddle ht
  | delivery delivery staged h later => exact hslot.addDelivery h later ht

/-- The audit event of a collision keeps a slot settled. -/
theorem Collides.settled [Redactor] {incoming : RedactedTraceEventDraft} (hslot : slot.Settled)
    (h : Collides incoming slot t) : t.Settled := by
  have ht : t.Replays := replays_of_stores hslot.toReplays (Grows.collides incoming h).stores
  cases h with
  | audit existing event receipt staged h known fresh source payload digest metadata parent
      receipt_eq =>
    refine h.settled hslot ht rfl rfl (by simp) (by simp) ?_
    have hknown := (hslot.sources.indexed.mp known).2
    have haudits : Audits slot.projection event
        ((collisionFingerprint existing incoming).value, receipt) existing :=
      ⟨source, metadata, parent, hknown, receipt_eq⟩
    exact hslot.audited.concat hslot.events hslot.sources h.accepted haudits fresh

theorem Grows.settled [Redactor] (hslot : slot.Settled) (h : Grows slot t) : t.Settled := by
  cases h with
  | plain h => exact h.settled hslot
  | collides _ h => exact h.settled hslot

end SalienceGate
