import Mathlib.Algebra.BigOperators.Pi
import Mathlib.Algebra.Order.Pi
import SalienceGate.Lib.Allotment
import SalienceGate.Projector.Accepted

/-!
# The budget of a run

The cycles of a run share its budget limits: a cycle reserves amounts, which must fit, and settles
for no more than it reserved. This is an allotment of a bounded resource, with the seven budget
fields as one amount, so its rules carry the bound along a run.
-/

namespace SalienceGate

open Checked Allotment

variable [Hashing]

/-- What a cycle holds of the budget. -/
def cycleHolding (cycle : CycleRecord) : Holding (BudgetField → ℕ) :=
  match cycle.state, cycle.budgetReservation, cycle.budgetSettlement with
  | .reserved, some reservation, _ | .running, some reservation, _ => .reserved reservation.get
  | .committed, _, some settlement | .failed, _, some settlement => .settled settlement.get
  | _, _, _ => .free

/-- What a cycle is charged: its reservation while it is active, its settlement at the end. -/
def CycleRecord.charged (cycle : CycleRecord) : Option BudgetAmounts :=
  match cycle.state with
  | .pending => none
  | .reserved | .running => cycle.budgetReservation
  | .committed | .failed => cycle.budgetSettlement

/-! ## The sums of the snapshot -/

omit [Hashing] in
/-- A sum over the values that a function keeps. -/
theorem sum_filterMap {α β : Type} (f : α → Option β) (g : β → ℕ) (xs : List α) :
    ((xs.filterMap f).map g).sum = (xs.map fun x => ((f x).map g).getD 0).sum := by
  induction xs with
  | nil => rfl
  | cons x xs ih => cases h : f x <;> simp [h, ih]

/-- The reservations of the snapshot are what the cycles hold. -/
theorem sum_activeReservations (p : Projection) (field : BudgetField) :
    ((activeReservations p).map (·.get field)).sum = held cycleHolding p.cycles field := by
  rw [activeReservations, sum_filterMap, held, Dict.total, Pi.list_sum_apply, List.map_map]
  refine congrArg List.sum (List.map_congr_left fun cycle _ => ?_)
  cases hs : cycle.state <;> cases hr : cycle.budgetReservation <;>
    cases ht : cycle.budgetSettlement <;> simp [cycleHolding, hs, hr, ht, Holding.held]

/-- The settlements of the snapshot are what the cycles have spent. -/
theorem sum_settlements (p : Projection) (field : BudgetField) :
    ((settlements p).map (·.get field)).sum = spent cycleHolding p.cycles field := by
  rw [settlements, sum_filterMap, spent, Dict.total, Pi.list_sum_apply, List.map_map]
  refine congrArg List.sum (List.map_congr_left fun cycle _ => ?_)
  cases hs : cycle.state <;> cases hr : cycle.budgetReservation <;>
    cases ht : cycle.budgetSettlement <;> simp [cycleHolding, hs, hr, ht, Holding.spent]

/-- A snapshot has the limits and the sums of its projection. -/
theorem budgetSnapshot_eq_ok {p : Projection} {limits : Option BudgetLimits}
    {snapshot : BudgetSnapshot} (h : budgetSnapshot p limits = .ok snapshot) :
    (limits <|> p.budgetLimits) = some snapshot.limits
      ∧ snapshot.reserved = addAmounts (activeReservations p)
      ∧ snapshot.consumed = addAmounts (settlements p) := by
  simp only [budgetSnapshot, expect_bind_eq_ok, mapError_eq_ok, BudgetSnapshot.create,
    validate_eq_ok] at h
  obtain ⟨limits', hlimits, -, rfl⟩ := h
  exact ⟨hlimits, rfl, rfl⟩

/-- A snapshot is there exactly when the limits are, and the sums are within them. -/
theorem exists_budgetSnapshot {p : Projection} {limits : BudgetLimits}
    (hlimits : p.budgetLimits = some limits) :
    (∃ snapshot, budgetSnapshot p = .ok snapshot) ↔ used cycleHolding p.cycles ≤ limits.get := by
  have hcreate : budgetSnapshot p = (BudgetSnapshot.create {
      limits
      reserved := addAmounts (activeReservations p)
      consumed := addAmounts (settlements p) }).mapError .validation := by
    rw [budgetSnapshot, hlimits]
    rfl
  simp only [hcreate, mapError_eq_ok, BudgetSnapshot.create, exists_validate_eq_ok,
    BudgetSnapshotFields.check_eq_ok, get_addAmounts, sum_activeReservations, sum_settlements,
    used_eq, Pi.le_def, Pi.add_apply]

/-! ## The moves of a cycle -/

section Moves

variable {p : Projection} {cycle previous : CycleRecord}

/-- A new reservation fits in what is left of the budget. -/
theorem validateReservation_eq_ok {reservation : BudgetAmounts}
    (h : validateReservation cycle p (some previous) = .ok ())
    (hr : cycle.budgetReservation = some reservation) (hp : previous.budgetReservation = none) :
    ∃ limits, p.budgetLimits = some limits
      ∧ used cycleHolding p.cycles + reservation.get ≤ limits.get := by
  simp only [validateReservation, hr, Option.bind_some, hp, raiseIf_bind_eq_ok] at h
  obtain ⟨-, h⟩ := h
  rw [bind_eq_ok] at h
  obtain ⟨snapshot, hsnapshot, h⟩ := h
  rw [raiseIf_eq_ok, not_exists] at h
  obtain ⟨hlimits, hreserved, hconsumed⟩ := budgetSnapshot_eq_ok hsnapshot
  refine ⟨snapshot.limits, hlimits, fun field => ?_⟩
  have hfits := not_lt.mp fun hlt => h field ⟨mem_budgetFields field, hlt⟩
  rw [hreserved, hconsumed, get_addAmounts, get_addAmounts, sum_activeReservations,
    sum_settlements] at hfits
  rw [used_eq]
  change held cycleHolding p.cycles field + spent cycleHolding p.cycles field
    + reservation.get field ≤ snapshot.limits.get field
  omega

/-- A later revision moves the holding of its cycle. -/
theorem holding_moves {decision : InvocationDecision} {limit : BudgetField → ℕ}
    (hbudget : validateCycleBudget cycle decision p (some previous) = .ok ())
    (hnext : cycleLifecycle.next previous cycle)
    (hlimit : ∀ limits, p.budgetLimits = some limits → limit = limits.get) :
    Holding.Moves limit (used cycleHolding p.cycles) (cycleHolding previous)
      (cycleHolding cycle) := by
  obtain ⟨-, -, htransition, hkept, hfailed⟩ := hnext
  rw [validateCycleBudget, check_bind_eq_ok] at hbudget
  -- a settlement is for the reservation that the cycle had before
  have hsettles : ∀ reservation, previous.budgetReservation = some reservation →
      cycleHolding previous = .reserved reservation.get →
      cycle.state = .committed ∨ cycle.state = .failed →
      Holding.Moves limit (used cycleHolding p.cycles) (cycleHolding previous)
        (cycleHolding cycle) := by
    intro reservation hres hprevious hstate
    have hcycle : cycle.budgetReservation = some reservation := by
      rw [hkept (by simp [hres]), hres]
    obtain ⟨settlement, hsettlement⟩ : ∃ settlement, cycle.budgetSettlement = some settlement := by
      rcases hstate with hstate | hstate
      · exact (cycle.of_committed hstate).2.1
      · refine Option.ne_none_iff_exists'.mp fun hnone => ?_
        have := (cycle.of_failed hstate).2.mpr hnone
        simp [hcycle] at this
    have hholding : cycleHolding cycle = .settled settlement.get := by
      rcases hstate with hstate | hstate <;> simp [cycleHolding, hstate, hsettlement]
    rw [hprevious, hholding]
    exact .settle _ _ (cycle.settlement_le hsettlement hcycle)
  cases hs : previous.state with
  | pending =>
    have hnone := (previous.of_pending hs).1
    have hfree : cycleHolding previous = .free := by simp [cycleHolding, hs]
    simp only [hs, cycleTransitions, List.mem_cons, List.not_mem_nil, or_false] at htransition
    rcases htransition with hstate | hstate
    · obtain ⟨reservation, hres⟩ :=
        Option.ne_none_iff_exists'.mp (cycle.of_active (.inl hstate)).1
      obtain ⟨limits, hlimits, hfits⟩ := validateReservation_eq_ok hbudget.1 hres hnone
      have hholding : cycleHolding cycle = .reserved reservation.get := by
        simp [cycleHolding, hstate, hres]
      rw [hfree, hholding, hlimit limits hlimits]
      exact .reserve _ hfits
    · have hres := hfailed hs hstate
      have hset := (cycle.of_failed hstate).2.mp hres
      have hholding : cycleHolding cycle = .free := by simp [cycleHolding, hstate, hset]
      rw [hfree, hholding]
      exact .stay _
  | reserved =>
    obtain ⟨reservation, hres⟩ :=
      Option.ne_none_iff_exists'.mp (previous.of_active (.inl hs)).1
    have hprevious : cycleHolding previous = .reserved reservation.get := by
      simp [cycleHolding, hs, hres]
    simp only [hs, cycleTransitions, List.mem_cons, List.not_mem_nil, or_false] at htransition
    rcases htransition with hstate | hstate
    · have hcycle : cycleHolding cycle = .reserved reservation.get := by
        simp [cycleHolding, hstate, hkept (by simp [hres]), hres]
      rw [hprevious, hcycle]
      exact .stay _
    · exact hsettles reservation hres hprevious (.inr hstate)
  | running =>
    obtain ⟨reservation, hres⟩ :=
      Option.ne_none_iff_exists'.mp (previous.of_active (.inr hs)).1
    have hprevious : cycleHolding previous = .reserved reservation.get := by
      simp [cycleHolding, hs, hres]
    simp only [hs, cycleTransitions, List.mem_cons, List.not_mem_nil, or_false] at htransition
    exact hsettles reservation hres hprevious htransition
  | committed | failed => simp [hs, cycleTransitions] at htransition

end Moves

/-! ## The invariant -/

/-- The cycles of a run keep their lifecycle, and stay within its limits. -/
structure BudgetInvariant (p : Projection) : Prop where
  kept : cycleLifecycle.Kept p.cycleHistory p.cycles
  within : ∀ limits, p.budgetLimits = some limits → used cycleHolding p.cycles ≤ limits.get

/-- What an entry may do to the limits and the settlements. -/
structure BudgetStep (p q : Projection) : Prop where
  /-- The limits stay once they are set. -/
  limits : ∀ limits, p.budgetLimits = some limits → q.budgetLimits = some limits
  /-- No settlement is taken back. -/
  spent : spent cycleHolding p.cycles ≤ spent cycleHolding q.cycles

/-- A revision of a cycle keeps the cycles within the limits and takes back no settlement. -/
theorem budget_addCycle {p : Projection} {cycle : CycleRecord} {decision : InvocationDecision}
    (hp : BudgetInvariant p) (hchecked : CycleChecked p cycle decision) :
    (∀ limits, p.budgetLimits = some limits →
        used cycleHolding (p.cycles.set cycle.cycleId cycle) ≤ limits.get)
      ∧ spent cycleHolding p.cycles ≤ spent cycleHolding (p.cycles.set cycle.cycleId cycle) := by
  obtain ⟨-, -, -, -, haccepts, -, hbudget⟩ := hchecked
  cases haccepts with
  | first fresh number start =>
    have hfresh : cycle.cycleId ∉ p.cycles := Dict.get?_eq_none.mp fresh
    have hfree : cycleHolding cycle = .free := by
      have hpending : cycle.state = .pending := start
      simp [cycleHolding, hpending]
    rw [used_set_of_notMem hfresh hfree, spent_set_of_notMem hfresh hfree]
    exact ⟨hp.within, le_rfl⟩
  | later previous current number next =>
    have hprevious : p.cycles.get? cycle.cycleId = some previous := current
    rw [hprevious] at hbudget
    constructor
    · intro limits hlimits
      exact used_set_le hprevious (holding_moves hbudget next fun limits' hlimits' => by
        rw [hlimits] at hlimits'
        cases hlimits'
        rfl) (hp.within limits hlimits)
    · obtain ⟨limit, hlimit⟩ : ∃ limit : BudgetField → ℕ,
          ∀ limits, p.budgetLimits = some limits → limit = limits.get := by
        cases hlimits : p.budgetLimits with
        | none => exact ⟨0, nofun⟩
        | some limits => exact ⟨limits.get, fun limits' heq => Option.some.inj heq ▸ rfl⟩
      exact spent_le_set hprevious (holding_moves hbudget next hlimit)

/-- An accepted entry keeps the invariant, and steps the budget. -/
theorem budget_accepted {p q : Projection} {record : LedgerRecord} (hp : BudgetInvariant p)
    (h : Accepted p record q) : BudgetInvariant q ∧ BudgetStep p q := by
  cases h with
  | event | signal | outcome | delivery =>
    exact ⟨⟨hp.kept, hp.within⟩, ⟨fun _ => id, le_rfl⟩⟩
  | decision decision limits fresh kept single snapshot distinct =>
    refine ⟨⟨hp.kept, ?_⟩, ⟨fun previous hprevious => ?_, le_rfl⟩⟩
    · rintro _ ⟨⟩
      -- the snapshot of the decision is within the limits, whether they are new or not
      refine (exists_budgetSnapshot (p := { p with budgetLimits := some limits }) rfl).mp
        ⟨decision.budgetSnapshot, ?_⟩
      exact snapshot
    · rw [kept previous hprevious]
  | cycle cycle decision checked uncommitted =>
    obtain ⟨hwithin, hspent⟩ := budget_addCycle hp checked
    exact ⟨⟨hp.kept.store checked.accepts, hwithin⟩, ⟨fun _ => id, hspent⟩⟩
  | commit cycle decision delta intervention bank reminders checked committed commit remembered =>
    obtain ⟨hwithin, hspent⟩ := budget_addCycle hp checked
    exact ⟨⟨hp.kept.store checked.accepts, hwithin⟩, ⟨fun _ => id, hspent⟩⟩

/-- The empty projection is within every limit. -/
theorem budgetInvariant_empty (runId : UUID4) : BudgetInvariant (emptyProjection runId) where
  kept := .empty
  within limits h := by cases h

/-- The budget invariant holds after every ledger. -/
theorem budgetInvariant {runId : UUID4} (run : LedgerRun runId) : BudgetInvariant run.final :=
  ledger_invariant run (budgetInvariant_empty runId) fun _ _ _ _ hp h => (budget_accepted hp h).1

/-- The budget only steps forward along a ledger. -/
theorem budgetStep_of_replay {runId : UUID4} {p q : Projection} {earlier later : List LedgerEntry}
    (hp : Replay.replay applyEntry (emptyProjection runId) earlier = .ok p)
    (hq : Replay.replay applyEntry p later = .ok q) : BudgetStep p q :=
  Replay.replay_relation (fun _ => ⟨fun _ => id, le_rfl⟩)
    (fun _ _ _ h h' => ⟨fun limits hl => h'.limits limits (h.limits limits hl),
      h.spent.trans h'.spent⟩)
    (fun _ _ _ hs hstep => (budget_accepted hs (applyEntry_accepted hstep).2).1)
    (fun _ _ _ hs hstep => (budget_accepted hs (applyEntry_accepted hstep).2).2)
    (budgetInvariant ⟨earlier, p, hp⟩) hq

/-- What a cycle is charged is within the reservation that it first recorded. -/
theorem charged_le_first {p : Projection} (hp : BudgetInvariant p) {id : Sha256Digest} {n : ℕ}
    {cycle : CycleRecord} {charge : BudgetAmounts} (hcycle : p.cycleHistory.get? (id, n) = some cycle)
    (hcharge : cycle.charged = some charge) :
    ∃ m first reservation, p.cycleHistory.get? (id, m) = some first
      ∧ first.budgetReservation = some reservation
      ∧ (∀ k earlier, k < m → p.cycleHistory.get? (id, k) = some earlier →
        earlier.budgetReservation = none)
      ∧ ∀ field, charge.get field ≤ reservation.get field := by
  -- the charged revision has a reservation, which bounds the charge
  obtain ⟨reservation, hres, hle⟩ : ∃ reservation, cycle.budgetReservation = some reservation
      ∧ ∀ field, charge.get field ≤ reservation.get field := by
    cases hs : cycle.state with
    | pending => simp [CycleRecord.charged, hs] at hcharge
    | reserved | running =>
      simp only [CycleRecord.charged, hs] at hcharge
      exact ⟨charge, hcharge, fun _ => le_rfl⟩
    | committed =>
      simp only [CycleRecord.charged, hs] at hcharge
      obtain ⟨reservation, hres⟩ := (cycle.of_committed hs).1
      exact ⟨reservation, hres, cycle.settlement_le hcharge hres⟩
    | failed =>
      simp only [CycleRecord.charged, hs] at hcharge
      obtain ⟨reservation, hres⟩ : ∃ reservation, cycle.budgetReservation = some reservation :=
        Option.ne_none_iff_exists'.mp fun hnone => by
          simp [(cycle.of_failed hs).2.mp hnone] at hcharge
      exact ⟨reservation, hres, cycle.settlement_le hcharge hres⟩
  -- the first revision with a reservation has the same one
  have hexists : ∃ m, ∃ first, p.cycleHistory.get? (id, m) = some first
      ∧ first.budgetReservation ≠ none := ⟨n, cycle, hcycle, by simp [hres]⟩
  classical
  obtain ⟨first, hfirst, hne⟩ := Nat.find_spec hexists
  have hm : Nat.find hexists ≤ n := Nat.find_min' hexists ⟨cycle, hcycle, by simp [hres]⟩
  have hsame := hp.kept.relation
    (R := fun v w => v.budgetReservation ≠ none → w.budgetReservation = v.budgetReservation)
    (fun _ _ => rfl) (fun u v w huv hvw hu => by rw [hvw (by rwa [huv hu]), huv hu])
    (fun _ _ hnext => hnext.2.2.2.1) hfirst hcycle hm hne
  refine ⟨Nat.find hexists, first, reservation, hfirst, by rw [← hsame, hres],
    fun k earlier hk hearlier => ?_, hle⟩
  by_contra hne'
  exact Nat.find_min hexists hk ⟨earlier, hearlier, hne'⟩

/-- The budget over a whole run. While the limits are set, the reservations of the active cycles and
the settlements of the ended ones are within them in every field, so that there is a snapshot; no
cycle is charged more than the reservation it first recorded; and from every earlier projection of
the run to the last one, no settlement is taken back and the limits stay. -/
theorem budget_safety {runId : UUID4} (run : LedgerRun runId) :
    (∀ limits, run.final.budgetLimits = some limits →
      (∀ field, ((activeReservations run.final).map (·.get field)).sum
        + ((settlements run.final).map (·.get field)).sum ≤ limits.get field)
      ∧ ∃ snapshot, budgetSnapshot run.final = .ok snapshot)
    ∧ (∀ id n cycle charge, run.final.cycleHistory.get? (id, n) = some cycle →
      cycle.charged = some charge →
      ∃ m first reservation, run.final.cycleHistory.get? (id, m) = some first
        ∧ first.budgetReservation = some reservation
        ∧ (∀ k earlier, k < m → run.final.cycleHistory.get? (id, k) = some earlier →
          earlier.budgetReservation = none)
        ∧ ∀ field, charge.get field ≤ reservation.get field)
    ∧ ∀ earlier later p, run.entries = earlier ++ later →
      Replay.replay applyEntry (emptyProjection runId) earlier = .ok p →
      (∀ field, ((settlements p).map (·.get field)).sum
        ≤ ((settlements run.final).map (·.get field)).sum)
      ∧ ∀ limits, p.budgetLimits = some limits → run.final.budgetLimits = some limits := by
  have hinv := budgetInvariant run
  refine ⟨fun limits hlimits => ⟨fun field => ?_, ?_⟩, fun id n cycle charge hcycle hcharge =>
    charged_le_first hinv hcycle hcharge, fun earlier later p hentries hp => ?_⟩
  · have hle := hinv.within limits hlimits field
    rwa [used_eq, Pi.add_apply, ← sum_activeReservations, ← sum_settlements] at hle
  · exact (exists_budgetSnapshot hlimits).mpr (hinv.within limits hlimits)
  · obtain ⟨m, hm, hq⟩ := Replay.replay_append.mp (hentries ▸ run.accepted)
    rw [hp] at hm
    cases hm
    have hstep := budgetStep_of_replay hp hq
    refine ⟨fun field => ?_, hstep.limits⟩
    rw [sum_settlements, sum_settlements]
    exact hstep.spent field

end SalienceGate
