import SalienceGate.Projector.Cursor
import SalienceGate.Projector.Deliveries

/-!
# Complete projections

A projection is complete if its committed reminders are exactly the cycles with a first delivery.
Only a committed cycle and a first delivery can change this: every other accepted entry keeps a
complete projection complete.
-/

namespace SalienceGate

open Checked

variable [Hashing] {p q : Projection} {record : LedgerRecord}

/-! ## First deliveries -/

/-- The first deliveries that pass the check are the first deliveries. -/
theorem pendingByCycle_eq_ok {pending : Dict Sha256Digest DeliveryRecord}
    (h : pendingByCycle p = .ok pending) : pending = initialDeliveries p := by
  unfold pendingByCycle at h
  unfold initialDeliveries
  generalize Dict.empty = start at h ⊢
  generalize p.deliveryHistory.items = items at h ⊢
  induction items generalizing start with
  | nil => exact (foldlM_nil_eq_ok.mp h).symm
  | cons item items ih =>
    obtain ⟨m, hm, hrest⟩ := foldlM_cons_eq_ok.mp h
    have hround : m = if item.1.2 = 1 ∧ item.2.deliveryId = item.1.1
        then start.set item.2.cycleId item.2 else start := by
      split at hm
      · next hrevision =>
        rw [if_neg (fun hfirst => hrevision hfirst.1)]
        exact (pure_eq_ok.mp hm).symm
      · next hrevision =>
        rw [raiseIf_bind_eq_ok, not_or, not_not, pure_eq_ok] at hm
        rw [if_pos ⟨not_not.mp hrevision, hm.1.1⟩]
        exact hm.2.symm
    rw [List.foldl_cons, ← hround]
    exact ih m hrest

/-- A new revision of a delivery is a first delivery exactly if its number is 1. -/
theorem initialDeliveries_addDelivery {delivery : DeliveryRecord}
    (hfresh : (delivery.deliveryId, delivery.revision) ∉ p.deliveryHistory) :
    initialDeliveries (p.addDelivery delivery)
      = if delivery.revision = 1 then (initialDeliveries p).set delivery.cycleId delivery
        else initialDeliveries p := by
  unfold initialDeliveries Projection.addDelivery
  rw [Dict.items_set_of_notMem hfresh, List.foldl_append]
  simp only [List.foldl_cons, List.foldl_nil, and_true]

/-- A first delivery is a first revision of its cycle. -/
theorem initialDeliveries_get? {id : Sha256Digest} {delivery : DeliveryRecord}
    (h : (initialDeliveries p).get? id = some delivery) :
    p.deliveryHistory.get? (delivery.deliveryId, 1) = some delivery ∧ delivery.cycleId = id := by
  unfold initialDeliveries at h
  have hitems : ∀ (items : List ((UUID4 × ℕ) × DeliveryRecord)) (start : Dict Sha256Digest DeliveryRecord),
      (items.foldl (fun pending item => if item.1.2 = 1 ∧ item.2.deliveryId = item.1.1
        then pending.set item.2.cycleId item.2 else pending) start).get? id = some delivery →
      start.get? id = some delivery
        ∨ (((delivery.deliveryId, 1), delivery) ∈ items ∧ delivery.cycleId = id) := by
    intro items
    induction items with
    | nil => exact fun _ hget => .inl hget
    | cons item items ih =>
      intro start hget
      rw [List.foldl_cons] at hget
      rcases ih _ hget with hget | ⟨hmem, hid⟩
      · split at hget
        · next hfirst =>
          rcases Dict.get?_set_eq_some.mp hget with ⟨rfl, rfl⟩ | ⟨-, hget⟩
          · refine .inr ⟨List.mem_cons.mpr (.inl ?_), rfl⟩
            exact Prod.ext (Prod.ext hfirst.2 hfirst.1.symm) rfl
          · exact .inl hget
        · exact .inl hget
      · exact .inr ⟨List.mem_cons_of_mem _ hmem, hid⟩
  rcases hitems _ _ h with hempty | ⟨hmem, hid⟩
  · cases hempty
  · exact ⟨Dict.get?_eq_some.mpr hmem, hid⟩

/-- In the loop over the first deliveries, a first revision is the first delivery of its cycle. -/
theorem get?_of_pendingByCycle {pending : Dict Sha256Digest DeliveryRecord}
    (h : pendingByCycle p = .ok pending) {delivery : DeliveryRecord}
    (hget : p.deliveryHistory.get? (delivery.deliveryId, 1) = some delivery) :
    pending.get? delivery.cycleId = some delivery := by
  have hitem := Dict.get?_eq_some.mp hget
  unfold pendingByCycle at h
  generalize Dict.empty = start at h
  generalize p.deliveryHistory.items = items at h hitem
  -- once the cycle has a first delivery, no later round replaces it
  have hkeep : ∀ (items : List ((UUID4 × ℕ) × DeliveryRecord))
      (start : Dict Sha256Digest DeliveryRecord),
      items.foldlM (fun pending item => do
        if item.1.2 ≠ 1 then pure pending
        else
          raiseIf (item.2.deliveryId ≠ item.1.1 ∨ item.2.cycleId ∈ pending)
            (RepositoryError.projectionInvariant "cycle has an ambiguous initial delivery")
          pure (pending.set item.2.cycleId item.2)) start = .ok pending → start ≤ pending := by
    intro items
    induction items with
    | nil => exact fun start h => (foldlM_nil_eq_ok.mp h) ▸ le_rfl
    | cons item items ih =>
      intro start h
      obtain ⟨m, hm, hrest⟩ := foldlM_cons_eq_ok.mp h
      refine le_trans ?_ (ih m hrest)
      split at hm
      · exact (pure_eq_ok.mp hm) ▸ le_rfl
      · rw [raiseIf_bind_eq_ok, not_or, pure_eq_ok] at hm
        obtain ⟨⟨-, hfresh⟩, rfl⟩ := hm
        exact Dict.le_set_of_notMem hfresh
  induction items generalizing start with
  | nil => exact absurd hitem List.not_mem_nil
  | cons item items ih =>
    obtain ⟨m, hm, hrest⟩ := foldlM_cons_eq_ok.mp h
    rcases List.mem_cons.mp hitem with rfl | hmem
    · simp only [ne_eq, not_true_eq_false, if_false, raiseIf_bind_eq_ok, pure_eq_ok] at hm
      refine hkeep items m hrest ?_
      rw [← hm.2]
      exact Dict.get?_set_self
    · exact ih m hrest hmem

/-! ## Completeness -/

/-- What a complete projection satisfies. -/
structure Complete (p : Projection) : Prop where
  /-- The first deliveries pass the check. -/
  pending : pendingByCycle p = .ok (initialDeliveries p)
  /-- A reminder has its delivery, a silence has none. -/
  outbox : ∀ cycle ∈ p.cycles.values, validateCycleOutbox (initialDeliveries p) cycle = .ok ()
  /-- The cycles with a first delivery are the committed reminders. -/
  owners : (initialDeliveries p).keys.toFinset
    = ((p.cycles.values.filter (·.isCommittedReminder)).map (·.cycleId)).toFinset

theorem validateCompleteProjection_eq_ok :
    validateCompleteProjection p = .ok () ↔ Complete p := by
  unfold validateCompleteProjection
  simp only [bind_eq_ok, raiseIf_eq_ok, not_not]
  constructor
  · rintro ⟨pending, hpending, ⟨⟩, hloop, howners⟩
    obtain rfl := pendingByCycle_eq_ok hpending
    exact ⟨hpending, forM_eq_ok.mp hloop, howners⟩
  · rintro ⟨hpending, houtbox, howners⟩
    exact ⟨_, hpending, (), forM_eq_ok.mpr houtbox, howners⟩

theorem complete_empty (runId : UUID4) : Complete (emptyProjection runId) :=
  validateCompleteProjection_eq_ok.mp (by rfl)

/-- A projection with the same cycles and deliveries is as complete. -/
theorem Complete.of_eq (h : Complete p) (hcycles : q.cycles = p.cycles)
    (hhistory : q.deliveryHistory = p.deliveryHistory) : Complete q := by
  rw [← validateCompleteProjection_eq_ok] at h ⊢
  unfold validateCompleteProjection pendingByCycle at h ⊢
  rw [hcycles, hhistory]
  exact h

/-- A committed reminder has a first delivery, of its intervention. -/
theorem Complete.owned (h : Complete p) {id : Sha256Digest} {cycle : CycleRecord}
    (hget : p.cycles.get? id = some cycle) (hreminder : cycle.isCommittedReminder = true) :
    ∃ intervention delivery, cycle.intervention = some intervention
      ∧ (initialDeliveries p).get? cycle.cycleId = some delivery
      ∧ delivery.interventionId = intervention.interventionId := by
  have hround := h.outbox cycle (Dict.mem_values.mpr ⟨id, hget⟩)
  simp only [CycleRecord.isCommittedReminder, Bool.and_eq_true, decide_eq_true_eq] at hreminder
  obtain ⟨hstate, hintervention⟩ := hreminder
  cases hsome : cycle.intervention with
  | none => simp [hsome] at hintervention
  | some intervention =>
    rw [hsome, Option.any_some, decide_eq_true_eq] at hintervention
    simp only [validateCycleOutbox, hstate, hsome, hintervention, raiseIf_eq_ok, not_forall,
      not_not] at hround
    obtain ⟨delivery, hdelivery, hid⟩ := hround
    exact ⟨intervention, delivery, rfl, hdelivery, hid⟩

/-- The first deliveries depend on the revisions of the deliveries alone. -/
theorem initialDeliveries_of_eq (h : q.deliveryHistory = p.deliveryHistory) :
    initialDeliveries q = initialDeliveries p := by
  unfold initialDeliveries
  rw [h]

/-- The identities of the committed reminders. -/
theorem mem_committedReminders (hp : CycleInvariant p) {id : Sha256Digest} :
    id ∈ ((p.cycles.values.filter (·.isCommittedReminder)).map (·.cycleId)).toFinset
      ↔ ∃ cycle, p.cycles.get? id = some cycle ∧ cycle.isCommittedReminder = true := by
  simp only [List.mem_toFinset, List.mem_map, List.mem_filter, Dict.mem_values]
  constructor
  · rintro ⟨cycle, ⟨⟨key, hget⟩, hreminder⟩, rfl⟩
    have hident : cycle.cycleId = key := hp.kept.ident_latest hget
    exact ⟨cycle, hident ▸ hget, hreminder⟩
  · rintro ⟨cycle, hget, hreminder⟩
    exact ⟨cycle, ⟨⟨id, hget⟩, hreminder⟩, hp.kept.ident_latest hget⟩

/-- The cycle of a first delivery is a committed reminder. -/
theorem Complete.owner (h : Complete p) (hp : CycleInvariant p) {id : Sha256Digest}
    (hmem : id ∈ initialDeliveries p) :
    ∃ cycle, p.cycles.get? id = some cycle ∧ cycle.isCommittedReminder = true := by
  have hkey : id ∈ (initialDeliveries p).keys.toFinset := List.mem_toFinset.mpr hmem
  rw [h.owners] at hkey
  exact (mem_committedReminders hp).mp hkey

/-- The latest revision before an accepted one is not committed. -/
theorem CycleChecked.previous_state {cycle previous : CycleRecord} {decision : InvocationDecision}
    (h : CycleChecked p cycle decision) (hget : p.cycles.get? cycle.cycleId = some previous) :
    previous.state ≠ .committed := by
  intro hstate
  cases h.accepts with
  | first fresh =>
    rw [show p.cycles.get? cycle.cycleId = none from fresh] at hget
    cases hget
  | later latest current number next =>
    rw [show p.cycles.get? cycle.cycleId = some latest from current, Option.some.injEq] at hget
    subst hget
    have hnext := next.2.2.1
    rw [hstate] at hnext
    exact List.not_mem_nil hnext

theorem CycleRecord.state_of_isCommittedReminder {cycle : CycleRecord}
    (h : cycle.isCommittedReminder = true) : cycle.state = .committed := by
  simp only [CycleRecord.isCommittedReminder, Bool.and_eq_true, decide_eq_true_eq] at h
  exact h.1

/-- An accepted revision of a cycle that does not commit keeps a projection complete. -/
theorem Complete.addCycle (h : Complete p) (hp : CycleInvariant p) (hq : CycleInvariant q)
    {cycle : CycleRecord} (ha : Accepted p (.cycleRecord cycle) q) (hstate : cycle.state ≠ .committed) :
    Complete q := by
  have hcycles := ha.of_cycle.2
  have hhistory := ha.deliveryHistory_eq (by simp)
  have hinitial := initialDeliveries_of_eq hhistory
  have hprevious : ∀ previous, p.cycles.get? cycle.cycleId = some previous →
      previous.state ≠ .committed := by
    cases ha with
    | cycle _ decision checked => exact fun previous => checked.previous_state
    | commit _ _ _ _ _ _ _ committed => exact absurd committed hstate
  refine ⟨?_, ?_, ?_⟩
  · rw [hinitial, ← h.pending]
    unfold pendingByCycle
    rw [hhistory]
  · intro other hother
    rw [hinitial]
    rw [hcycles, Dict.mem_values_set] at hother
    rcases hother with rfl | ⟨key, -, hget⟩
    · unfold validateCycleOutbox
      split
      · next hcommitted _ => exact absurd hcommitted hstate
      · rfl
    · exact h.outbox other (Dict.mem_values.mpr ⟨key, hget⟩)
  · ext id
    rw [hinitial, h.owners, mem_committedReminders hp, mem_committedReminders hq, hcycles]
    simp only [Dict.get?_set_eq_some]
    constructor
    · rintro ⟨other, hget, hreminder⟩
      refine ⟨other, .inr ⟨?_, hget⟩, hreminder⟩
      rintro rfl
      exact hprevious other hget (CycleRecord.state_of_isCommittedReminder hreminder)
    · rintro ⟨other, ⟨-, rfl⟩ | ⟨-, hget⟩, hreminder⟩
      · exact absurd (CycleRecord.state_of_isCommittedReminder hreminder) hstate
      · exact ⟨other, hget, hreminder⟩

/-- An accepted revision of a delivery is new. -/
theorem Accepted.fresh_delivery {delivery : DeliveryRecord} (hp : DeliveryInvariant p)
    (h : Accepted p (.deliveryRecord delivery) q) :
    (delivery.deliveryId, delivery.revision) ∉ p.deliveryHistory := by
  cases h with
  | delivery _ cycle intervention checked => exact hp.kept.notMem_of_accepts checked.accepts

/-- An accepted revision of a cycle is new. -/
theorem Accepted.fresh_cycle {cycle : CycleRecord} (hp : CycleInvariant p)
    (h : Accepted p (.cycleRecord cycle) q) : (cycle.cycleId, cycle.revision) ∉ p.cycleHistory := by
  cases h with
  | cycle _ _ checked => exact hp.kept.notMem_of_accepts checked.accepts
  | commit _ _ _ _ _ _ checked => exact hp.kept.notMem_of_accepts checked.accepts

/-- The first deliveries after a revision of a delivery. -/
theorem Accepted.initialDeliveries_eq {delivery : DeliveryRecord} (hp : DeliveryInvariant p)
    (h : Accepted p (.deliveryRecord delivery) q) :
    initialDeliveries q = if delivery.revision = 1
      then (initialDeliveries p).set delivery.cycleId delivery else initialDeliveries p := by
  rw [← initialDeliveries_addDelivery (h.fresh_delivery hp)]
  exact initialDeliveries_of_eq h.of_delivery.1

/-- A later revision of a delivery keeps a projection complete. -/
theorem Complete.addDelivery (h : Complete p) (hp : DeliveryInvariant p) {delivery : DeliveryRecord}
    (ha : Accepted p (.deliveryRecord delivery) q) (hlater : delivery.revision ≠ 1) :
    Complete q := by
  have hinitial := ha.initialDeliveries_eq hp
  rw [if_neg hlater] at hinitial
  have hcycles : q.cycles = p.cycles := by
    cases ha
    rfl
  refine ⟨?_, ?_, ?_⟩
  · rw [hinitial]
    unfold pendingByCycle
    rw [ha.of_delivery.1, Dict.items_set_of_notMem (ha.fresh_delivery hp), foldlM_append_eq_ok]
    refine ⟨initialDeliveries p, h.pending, ?_⟩
    rw [foldlM_cons_eq_ok]
    refine ⟨initialDeliveries p, ?_, rfl⟩
    simp only [ne_eq, hlater, not_false_eq_true, if_true, pure_eq_ok]
  · rw [hcycles, hinitial]
    exact h.outbox
  · rw [hcycles, hinitial]
    exact h.owners

/-! ## Earlier revisions -/

/-- An accepted revision of a cycle passed the checks of a cycle. -/
theorem Accepted.cycleChecked {cycle : CycleRecord} (h : Accepted p (.cycleRecord cycle) q) :
    ∃ decision, CycleChecked p cycle decision := by
  cases h with
  | cycle _ decision checked => exact ⟨decision, checked⟩
  | commit _ decision _ _ _ _ checked => exact ⟨decision, checked⟩

/-- No revision of a cycle before an accepted one is committed. -/
theorem Accepted.earlier_state {cycle earlier : CycleRecord} (hp : CycleInvariant p)
    (h : Accepted p (.cycleRecord cycle) q) {n : ℕ}
    (hget : p.cycleHistory.get? (cycle.cycleId, n) = some earlier) : earlier.state ≠ .committed := by
  intro hstate
  obtain ⟨decision, hchecked⟩ := h.cycleChecked
  have hlatest : p.cycles.get? cycle.cycleId = some earlier := by
    refine hp.kept.latest_of_last hget fun next hnext => ?_
    have hmem := hnext.2.2.1
    rw [hstate] at hmem
    exact List.not_mem_nil hmem
  exact hchecked.previous_state hlatest hstate

/-- An entry that is not a cycle revision leaves the cycles. -/
theorem Accepted.cycles_eq (h : Accepted p record q)
    (hcycle : ∀ cycle, record ≠ .cycleRecord cycle) : q.cycles = p.cycles := by
  cases h with
  | event | signal | decision | outcome | delivery => rfl
  | cycle cycle => exact absurd rfl (hcycle cycle)
  | commit cycle => exact absurd rfl (hcycle cycle)

/-- An accepted revision of a cycle does not replace a committed one. -/
theorem Accepted.committed_mono {cycle : CycleRecord} (h : Accepted p (.cycleRecord cycle) q)
    {id : Sha256Digest} {committed : CycleRecord} (hget : p.cycles.get? id = some committed)
    (hstate : committed.state = .committed) : q.cycles.get? id = some committed := by
  obtain ⟨decision, hchecked⟩ := h.cycleChecked
  have hne : id ≠ cycle.cycleId := by
    rintro rfl
    exact hchecked.previous_state hget hstate
  rw [h.of_cycle.2, Dict.get?_set_of_ne hne]
  exact hget

end SalienceGate
