import SalienceGate.Lib.Replay
import SalienceGate.Lib.Revisions
import SalienceGate.Projector.Apply

/-!
# What an accepted entry does

`Accepted` lists the ways in which an entry changes the projection, with what its checks
established: one constructor for each kind of record, and one more for a cycle that commits.
`applyEntry_accepted` inverts the step function once. Every invariant of the projection is a case
analysis on `Accepted`, and `ledger_invariant` carries it along a run.
-/

namespace SalienceGate

open Checked

variable [Hashing]

/-- How the revisions of a cycle follow each other. -/
def cycleLifecycle : Lifecycle Sha256Digest CycleRecord where
  ident cycle := cycle.cycleId
  revision cycle := cycle.revision
  start cycle := cycle.state = .pending
  next previous cycle := cycle.identity = previous.identity
    ∧ previous.updatedAt ≤ cycle.updatedAt
    ∧ cycle.state ∈ cycleTransitions previous.state
    ∧ (previous.budgetReservation ≠ none → cycle.budgetReservation = previous.budgetReservation)
    ∧ (previous.state = .pending → cycle.state = .failed → cycle.budgetReservation = none)

/-- What a claim of a delivery, an attempt, or any other revision changes. -/
def deliveryOwnership (previous delivery : DeliveryRecord) : Prop :=
  match delivery.state with
  | .claimed => delivery.claimId ≠ none ∧ delivery.attemptId = none
      ∧ (previous.state = .unknown → delivery.adapterDeduplicates = true)
  | .attempting => delivery.attemptCount = previous.attemptCount + 1
      ∧ delivery.claimId = previous.claimId ∧ delivery.attemptId ≠ none
  | .delivered | .failed | .unknown => delivery.attemptCount = previous.attemptCount
      ∧ delivery.claimId = previous.claimId ∧ delivery.attemptId = previous.attemptId
  | _ => delivery.attemptCount = previous.attemptCount

omit [Hashing] in
/-- How the revisions of a delivery follow each other. -/
def deliveryLifecycle : Lifecycle UUID4 DeliveryRecord where
  ident delivery := delivery.deliveryId
  revision delivery := delivery.revision
  start delivery := delivery.state = .pending
  next previous delivery := delivery.identity = previous.identity
    ∧ previous.updatedAt ≤ delivery.updatedAt
    ∧ delivery.state ∈ deliveryTransitions previous.state
    ∧ deliveryOwnership previous delivery

/-- What the checks of a cycle establish. -/
structure CycleChecked (p : Projection) (cycle : CycleRecord) (decision : InvocationDecision) :
    Prop where
  /-- The cycle has an invoking decision. -/
  decided : p.decisions.get? cycle.invocationDecisionId = some decision
  /-- It ends at the event of the decision. -/
  ends : decision.eventSequence = cycle.lastEventSequence
  /-- The events of its range are there. -/
  events : ∀ sequence, cycle.firstEventSequence ≤ sequence → sequence ≤ cycle.lastEventSequence →
    sequence ∈ p.eventsBySequence
  /-- Its grounding pin resolves. -/
  pinned : ∃ pin, resolvedCycleGrounding cycle = .ok pin
  /-- It is the first revision, or one after the latest. -/
  accepts : cycleLifecycle.Accepts p.cycles cycle
  /-- A new cycle continues the cursor, and no other one is active or has the same decision. -/
  first : p.cycles.get? cycle.cycleId = none → cycle.firstEventSequence = p.memoryCursor + 1
    ∧ ∀ existing ∈ p.cycles.values, existing.state.isActive = false
      ∧ existing.invocationDecisionId ≠ cycle.invocationDecisionId
  /-- It stays within its budget. -/
  budget : validateCycleBudget cycle decision p (p.cycles.get? cycle.cycleId) = .ok ()

/-- What the checks of a commit establish. -/
structure CommitChecked (p : Projection) (cycle : CycleRecord) (delta : MemoryDelta)
    (intervention : InterventionDecision) (bank : MemoryBank) : Prop where
  /-- The commit continues the cursor. -/
  continues : cycle.firstEventSequence = p.memoryCursor + 1
  delta_eq : cycle.validatedDelta = some delta
  intervention_eq : cycle.intervention = some intervention
  /-- The delta leads to the memories. -/
  changes : applyChanges p delta cycle.memoryIdAssignments cycle.lastEventSequence p.bank = .ok bank
  /-- The intervention is verified with the memories after the delta. -/
  verified : verifyIntervention (p.withBank bank) cycle intervention = .ok ()
  /-- The intervention is new. -/
  fresh : intervention.interventionId ∉ p.interventions

/-- What the checks of a delivery against its cycle establish. -/
structure OutboxChecked (p : Projection) (delivery : DeliveryRecord) (cycle : CycleRecord)
    (intervention : InterventionDecision) : Prop where
  cycle_eq : p.cycles.get? delivery.cycleId = some cycle
  intervention_eq : p.interventions.get? delivery.interventionId = some intervention
  /-- The cycle committed the intervention. -/
  committed : cycle.state = .committed ∧ ∃ verdict, cycle.intervention = some verdict
    ∧ verdict.pyEq intervention = true
  /-- The intervention is a reminder. -/
  remind : intervention.action = .remind
  /-- The delivery is the first revision, or one after the latest. -/
  accepts : deliveryLifecycle.Accepts p.deliveries delivery
  /-- A new delivery is the only one of its intervention, and as old as the commit. -/
  first : p.deliveries.get? delivery.deliveryId = none →
    (∀ existing ∈ p.deliveries.values, existing.interventionId ≠ delivery.interventionId)
      ∧ delivery.createdAt = cycle.updatedAt
  /-- The owner of a claim is new. -/
  claim : delivery.state = .claimed →
    ∀ existing ∈ p.deliveryHistory.values, existing.claimId ≠ delivery.claimId
  /-- The token of an attempt is new. -/
  attempt : delivery.state = .attempting →
    ∀ existing ∈ p.deliveryHistory.values, existing.attemptId ≠ delivery.attemptId

namespace Projection

/-- The projection with one more event. -/
def addEvent (p : Projection) (position : ℕ) (event : TraceEvent) : Projection :=
  { p with
    eventsById := p.eventsById.set event.eventId event
    eventsBySequence := p.eventsBySequence.set event.sequence event
    eventsBySource := p.eventsBySource.set event.sourceEventId event
    eventPositions := p.eventPositions.set event.eventId position
    ingestionCursor := event.sequence }

/-- The projection with one more revision of a cycle. -/
def addCycle (p : Projection) (cycle : CycleRecord) : Projection :=
  { p with
    cycleHistory := p.cycleHistory.set (cycle.cycleId, cycle.revision) cycle
    cycles := p.cycles.set cycle.cycleId cycle }

/-- The projection after a commit, without the cycle itself. -/
def commit (p : Projection) (bank : MemoryBank) (intervention : InterventionDecision)
    (reminders : Dict ℕ InterventionDecision) (sequence : ℕ) : Projection :=
  { p.withBank bank with
    interventions := p.interventions.set intervention.interventionId intervention
    reminderInterventionsBySequence := reminders
    memoryCursor := sequence }

/-- The projection with one more revision of a delivery. -/
def addDelivery (p : Projection) (delivery : DeliveryRecord) : Projection :=
  { p with
    deliveryHistory := p.deliveryHistory.set (delivery.deliveryId, delivery.revision) delivery
    deliveries := p.deliveries.set delivery.deliveryId delivery }

end Projection

/-- What an accepted entry does to a projection, with what its checks established. -/
inductive Accepted (p : Projection) : LedgerRecord → Projection → Prop where
  | event (position : ℕ) (event : TraceEvent) (next : event.sequence = p.ingestionCursor + 1)
      (freshId : event.eventId ∉ p.eventsById) (freshSource : event.sourceEventId ∉ p.eventsBySource)
      (parents : ∀ parentId ∈ event.parentIds, parentId ∈ p.eventsById) :
      Accepted p (.traceEvent event) (p.addEvent position event)
  | signal (record : Signal) (fresh : record.signalId ∉ p.signals) :
      Accepted p (.signal record) { p with signals := p.signals.set record.signalId record }
  | decision (decision : InvocationDecision) (limits : BudgetLimits)
      (fresh : decision.decisionId ∉ p.decisions)
      (kept : ∀ previous ∈ p.budgetLimits, limits = previous)
      (single : p.decisionAt decision.eventSequence = none)
      (snapshot : budgetSnapshot p (some limits) = .ok decision.budgetSnapshot)
      (distinct : (decisionSequences (p.decisions.set decision.decisionId decision)).Nodup) :
      Accepted p (.invocationDecision decision)
        { p with
          decisions := p.decisions.set decision.decisionId decision
          budgetLimits := some limits
          oneDecisionPerEvent := distinct }
  | cycle (cycle : CycleRecord) (decision : InvocationDecision)
      (checked : CycleChecked p cycle decision) (uncommitted : cycle.state ≠ .committed) :
      Accepted p (.cycleRecord cycle) (p.addCycle cycle)
  | commit (cycle : CycleRecord) (decision : InvocationDecision) (delta : MemoryDelta)
      (intervention : InterventionDecision) (bank : MemoryBank)
      (reminders : Dict ℕ InterventionDecision) (checked : CycleChecked p cycle decision)
      (committed : cycle.state = .committed) (commit : CommitChecked p cycle delta intervention bank)
      (remembered : commitReminder p.reminderInterventionsBySequence cycle.lastEventSequence
        intervention = .ok reminders) :
      Accepted p (.cycleRecord cycle)
        ((p.commit bank intervention reminders cycle.lastEventSequence).addCycle cycle)
  | outcome (outcome : InterventionOutcome) (fresh : outcome.outcomeId ∉ p.outcomes) :
      Accepted p (.interventionOutcome outcome)
        { p with outcomes := p.outcomes.set outcome.outcomeId outcome }
  | delivery (delivery : DeliveryRecord) (cycle : CycleRecord) (intervention : InterventionDecision)
      (checked : OutboxChecked p delivery cycle intervention) :
      Accepted p (.deliveryRecord delivery) (p.addDelivery delivery)

variable {p q : Projection}

/-! ## Inverting the step function -/

theorem applyEvent_accepted {position : ℕ} {event : TraceEvent}
    (h : applyEvent p position event = .ok q) : Accepted p (.traceEvent event) q := by
  simp only [applyEvent, raiseIf_bind_eq_ok, pure_eq_ok, not_exists, not_and, not_not] at h
  obtain ⟨hnext, -, hid, hsource, hparents, rfl⟩ := h
  exact .event position event hnext hid hsource hparents

theorem applySignal_accepted {record : Signal} (h : applySignal p record = .ok q) :
    Accepted p (.signal record) q := by
  simp only [applySignal, raiseIf_bind_eq_ok, pure_eq_ok] at h
  obtain ⟨hfresh, -, rfl⟩ := h
  exact .signal record hfresh

theorem applyOutcome_accepted {outcome : InterventionOutcome} (h : applyOutcome p outcome = .ok q) :
    Accepted p (.interventionOutcome outcome) q := by
  simp only [applyOutcome, raiseIf_bind_eq_ok, pure_eq_ok] at h
  obtain ⟨hfresh, -, rfl⟩ := h
  exact .outcome outcome hfresh

theorem applyDecision_accepted {decision : InvocationDecision}
    (h : applyDecision p decision = .ok q) : Accepted p (.invocationDecision decision) q := by
  simp only [applyDecision, raiseIf_bind_eq_ok, expect_bind_eq_ok] at h
  obtain ⟨hfresh, -, -, -, hsingle, hlimits, h⟩ := h
  rw [bind_eq_ok] at h
  obtain ⟨snapshot, hsnapshot, h⟩ := h
  rw [raiseIf_bind_eq_ok, not_not] at h
  obtain ⟨rfl, h⟩ := h
  unfold Projection.withDecisions at h
  split at h
  next hdistinct =>
    cases h
    refine .decision decision _ hfresh (fun previous hprevious => ?_) (by simpa using hsingle)
      hsnapshot hdistinct
    rw [Option.mem_def.mp hprevious]
    rfl
  next => cases h

/-- A transition that passes its checks keeps the lifecycle. -/
theorem validateTransition_eq_ok {cycle : CycleRecord}
    (h : validateTransition p cycle (p.cycles.get? cycle.cycleId) = .ok ()) :
    cycleLifecycle.Accepts p.cycles cycle
      ∧ (p.cycles.get? cycle.cycleId = none → cycle.firstEventSequence = p.memoryCursor + 1
        ∧ ∀ existing ∈ p.cycles.values, existing.state.isActive = false
          ∧ existing.invocationDecisionId ≠ cycle.invocationDecisionId) := by
  cases hprevious : p.cycles.get? cycle.cycleId with
  | none =>
    simp only [hprevious, validateTransition, validateFirstCycle, raiseIf_bind_eq_ok,
      raiseIf_eq_ok, not_or, not_not, not_exists, not_and] at h
    obtain ⟨⟨hrevision, hstate⟩, hfirst, hdecision, hactive⟩ := h
    exact ⟨.first hprevious hrevision hstate, fun _ => ⟨hfirst, fun existing hmem =>
      ⟨by simpa using hactive existing hmem, hdecision existing hmem⟩⟩⟩
  | some previous =>
    simp only [hprevious, validateTransition, validateNextCycle, raiseIf_bind_eq_ok, not_not,
      not_lt, not_and] at h
    obtain ⟨hrevision, hidentity, htime, hreservation, -, hstate, hfailure⟩ := h
    refine ⟨.later previous hprevious hrevision ⟨hidentity, htime, hstate, hreservation,
      fun hpending hfailed => ?_⟩, fun hnone => by cases hnone⟩
    rw [if_pos hfailed, validateFailure, raiseIf_bind_eq_ok, not_and, not_or, not_not] at hfailure
    exact (hfailure.1 hpending).1

/-- The decision and the events of a cycle. -/
theorem validateInvocation_eq_ok {cycle : CycleRecord} {decision : InvocationDecision}
    (h : validateInvocation p cycle = .ok decision) :
    p.decisions.get? cycle.invocationDecisionId = some decision
      ∧ decision.eventSequence = cycle.lastEventSequence
      ∧ (∀ sequence, cycle.firstEventSequence ≤ sequence → sequence ≤ cycle.lastEventSequence →
        sequence ∈ p.eventsBySequence)
      ∧ ∃ pin, resolvedCycleGrounding cycle = .ok pin := by
  simp only [validateInvocation, raiseIf_bind_eq_ok, expect_bind_eq_ok] at h
  obtain ⟨found, hfound, -, -, h⟩ := h
  rw [bind_eq_ok] at h
  obtain ⟨pin, hpin, h⟩ := h
  simp only [raiseIf_bind_eq_ok, pure_eq_ok, not_exists, not_and, not_not] at h
  obtain ⟨-, hrange, hends, rfl⟩ := h
  refine ⟨hfound, hends, fun sequence hfirst hlast => hrange sequence ?_, pin, hpin⟩
  simp only [CycleRecord.eventRange, List.mem_range'_1]
  omega

theorem applyCommit_eq_ok {cycle : CycleRecord} {previous : Option CycleRecord}
    (h : applyCommit p cycle previous = .ok q) :
    ∃ delta intervention bank reminders, CommitChecked p cycle delta intervention bank
      ∧ commitReminder p.reminderInterventionsBySequence cycle.lastEventSequence intervention
        = .ok reminders
      ∧ q = p.commit bank intervention reminders cycle.lastEventSequence := by
  simp only [applyCommit, raiseIf_bind_eq_ok, expect_bind_eq_ok, not_not] at h
  obtain ⟨hcontinues, delta, hdelta, _, -, -, h⟩ := h
  rw [bind_eq_ok] at h
  obtain ⟨updated, hupdated, h⟩ := h
  obtain ⟨bank, hbank, rfl⟩ := previewMemoryDelta_eq_ok hupdated
  simp only [raiseIf_bind_eq_ok, expect_bind_eq_ok] at h
  obtain ⟨intervention, hintervention, -, -, h⟩ := h
  rw [check_bind_eq_ok, authoritativelyVerifyIntervention, mapError_eq_ok] at h
  obtain ⟨hverified, h⟩ := h
  rw [raiseIf_bind_eq_ok, bind_eq_ok] at h
  obtain ⟨hfresh, reminders, hreminders, hq⟩ := h
  exact ⟨delta, intervention, bank, reminders,
    ⟨hcontinues, hdelta, hintervention, hbank, hverified, hfresh⟩, hreminders,
    (pure_eq_ok.mp hq).symm⟩

theorem applyCycle_accepted {cycle : CycleRecord} (h : applyCycle p cycle = .ok q) :
    Accepted p (.cycleRecord cycle) q := by
  rw [applyCycle, bind_eq_ok] at h
  obtain ⟨decision, hdecision, h⟩ := h
  rw [check_bind_eq_ok, check_bind_eq_ok, raiseIf_bind_eq_ok, bind_eq_ok] at h
  obtain ⟨htransition, hbudget, -, updated, hupdated, hq⟩ := h
  obtain ⟨hdecided, hends, hevents, hpinned⟩ := validateInvocation_eq_ok hdecision
  obtain ⟨haccepts, hfirst⟩ := validateTransition_eq_ok htransition
  have hchecked : CycleChecked p cycle decision :=
    ⟨hdecided, hends, hevents, hpinned, haccepts, hfirst, hbudget⟩
  cases hstate : cycle.state with
  | committed =>
    rw [applyCommitted, hstate] at hupdated
    obtain ⟨delta, intervention, bank, reminders, hcommit, hreminders, rfl⟩ :=
      applyCommit_eq_ok hupdated
    cases hq
    exact .commit cycle decision delta intervention bank reminders hchecked hstate hcommit
      hreminders
  | pending | reserved | running | failed =>
    rw [applyCommitted, hstate] at hupdated
    cases hupdated
    cases hq
    exact .cycle cycle decision hchecked (by simp [hstate])

/-- The checks of a later revision of a delivery keep the lifecycle and the tokens. -/
theorem validateNextDelivery_eq_ok {delivery previous : DeliveryRecord}
    (h : validateNextDelivery p delivery previous = .ok ()) :
    deliveryLifecycle.next previous delivery
      ∧ (delivery.state = .claimed →
        ∀ existing ∈ p.deliveryHistory.values, existing.claimId ≠ delivery.claimId)
      ∧ (delivery.state = .attempting →
        ∀ existing ∈ p.deliveryHistory.values, existing.attemptId ≠ delivery.attemptId) := by
  simp only [validateNextDelivery, raiseIf_bind_eq_ok, not_not, not_lt] at h
  obtain ⟨hidentity, htime, hstate, h⟩ := h
  rw [check_bind_eq_ok] at h
  simp only [raiseIf_bind_eq_ok, not_and, not_or, not_not] at h
  obtain ⟨howner, hcompletion, -, -⟩ := h
  have hnext : deliveryOwnership previous delivery → deliveryLifecycle.next previous delivery :=
    fun hownership => ⟨hidentity, htime, hstate, hownership⟩
  cases hs : delivery.state with
  | claimed =>
    simp only [validateOwnership, hs, validateClaim, raiseIf_bind_eq_ok, raiseIf_eq_ok, not_exists,
      not_and, not_or, not_not] at howner
    obtain ⟨hreused, hretry, -, hclaim, hattempt⟩ := howner
    refine ⟨hnext ?_, fun _ existing hmem heq => ?_, by simp⟩
    · simpa only [deliveryOwnership, hs] using ⟨hclaim, hattempt, by simpa using hretry⟩
    · exact hreused existing hmem (heq ▸ hclaim) heq
  | attempting =>
    simp only [validateOwnership, hs, validateAttempt, raiseIf_bind_eq_ok, raiseIf_eq_ok,
      not_exists, not_and, not_or, not_not] at howner
    obtain ⟨hreused, hcount, hclaim, hattempt, -⟩ := howner
    refine ⟨hnext ?_, by simp, fun _ existing hmem heq => ?_⟩
    · simpa only [deliveryOwnership, hs] using ⟨hcount, hclaim, hattempt⟩
    · exact hreused existing hmem (heq ▸ hattempt) heq
  | delivered | failed | unknown =>
    simp only [validateOwnership, hs, raiseIf_eq_ok, not_not] at howner
    refine ⟨hnext ?_, by simp, by simp⟩
    simpa only [deliveryOwnership, hs] using ⟨howner, hcompletion (by simp [hs])⟩
  | pending | rejected =>
    simp only [validateOwnership, hs, raiseIf_eq_ok, not_not] at howner
    refine ⟨hnext ?_, by simp, by simp⟩
    simpa only [deliveryOwnership, hs] using howner

/-- The cycle and the intervention of a delivery. -/
theorem validateOutboxSource_eq_ok {delivery : DeliveryRecord} {cycle : CycleRecord}
    (h : validateOutboxSource p delivery = .ok cycle) :
    ∃ intervention, p.cycles.get? delivery.cycleId = some cycle
      ∧ p.interventions.get? delivery.interventionId = some intervention
      ∧ (cycle.state = .committed ∧ ∃ verdict, cycle.intervention = some verdict
        ∧ verdict.pyEq intervention = true)
      ∧ intervention.action = .remind := by
  simp only [validateOutboxSource, raiseIf_bind_eq_ok, expect_bind_eq_ok, pure_eq_ok, not_or,
    not_not, not_forall, Bool.not_eq_false] at h
  obtain ⟨found, hcycle, intervention, hintervention, ⟨hstate, verdict, hverdict, heq⟩,
    ⟨hremind, -⟩, -, rfl⟩ := h
  exact ⟨intervention, hcycle, hintervention, ⟨hstate, verdict, hverdict, heq⟩, hremind⟩

theorem applyDelivery_accepted {delivery : DeliveryRecord} (h : applyDelivery p delivery = .ok q) :
    Accepted p (.deliveryRecord delivery) q := by
  rw [applyDelivery, bind_eq_ok] at h
  obtain ⟨cycle, hcycle, h⟩ := h
  rw [raiseIf_bind_eq_ok, check_bind_eq_ok, not_not] at h
  obtain ⟨hrevision, hchecks, hq⟩ := h
  cases hq
  obtain ⟨intervention, hcycle', hintervention, hcommitted, hremind⟩ :=
    validateOutboxSource_eq_ok hcycle
  refine .delivery delivery cycle intervention ?_
  cases hprevious : p.deliveries.get? delivery.deliveryId with
  | none =>
    simp only [hprevious, validateDeliveryRevision, validateFirstDelivery, raiseIf_bind_eq_ok,
      raiseIf_eq_ok, not_exists, not_and, not_or, not_not] at hchecks
    obtain ⟨hsingle, hpending, hcreated, -⟩ := hchecks
    rw [hprevious] at hrevision
    exact ⟨hcycle', hintervention, hcommitted, hremind, .first hprevious hrevision hpending,
      fun _ => ⟨hsingle, hcreated⟩, by simp [hpending], by simp [hpending]⟩
  | some previous =>
    rw [hprevious] at hrevision hchecks
    obtain ⟨hnext, hclaim, hattempt⟩ := validateNextDelivery_eq_ok hchecks
    exact ⟨hcycle', hintervention, hcommitted, hremind, .later previous hprevious hrevision hnext,
      by simp [hprevious], hclaim, hattempt⟩

/-- An entry that is applied belongs to the run, and is accepted. -/
theorem applyEntry_accepted {entry : LedgerEntry} (h : applyEntry p entry = .ok q) :
    entry.record.runId = p.runId ∧ Accepted p entry.record q := by
  rw [applyEntry, raiseIf_bind_eq_ok, not_not] at h
  obtain ⟨hrun, h⟩ := h
  refine ⟨hrun, ?_⟩
  generalize entry.record = record at h
  cases record with
  | traceEvent event => exact applyEvent_accepted h
  | signal record => exact applySignal_accepted h
  | invocationDecision decision => exact applyDecision_accepted h
  | cycleRecord cycle => exact applyCycle_accepted h
  | interventionOutcome outcome => exact applyOutcome_accepted h
  | deliveryRecord delivery => exact applyDelivery_accepted h

/-! ## Runs -/

/-- A ledger of a run that the projector accepts, with the projection it leads to. -/
abbrev LedgerRun (runId : UUID4) := Replay.Run applyEntry (emptyProjection runId)

/-- What holds of the empty projection, and is preserved by accepted entries, holds after every
ledger. -/
theorem ledger_invariant {I : Projection → Prop} {runId : UUID4} (run : LedgerRun runId)
    (hempty : I (emptyProjection runId))
    (hstep : ∀ p record q, record.runId = p.runId → I p → Accepted p record q → I q) :
    I run.final :=
  Replay.replay_invariant
    (fun p entry q hp h => hstep p entry.record q (applyEntry_accepted h).1 hp
      (applyEntry_accepted h).2)
    hempty run.accepted

/-- An entry never changes the run of a projection. -/
theorem Accepted.runId {record : LedgerRecord} (h : Accepted p record q) : q.runId = p.runId := by
  cases h <;> rfl

variable {record : LedgerRecord}

/-- An entry that is not a cycle revision leaves the history of the cycles. -/
theorem Accepted.cycleHistory_eq (h : Accepted p record q)
    (hcycle : ∀ cycle, record ≠ .cycleRecord cycle) : q.cycleHistory = p.cycleHistory := by
  cases h with
  | event | signal | decision | outcome | delivery => rfl
  | cycle cycle => exact absurd rfl (hcycle cycle)
  | commit cycle => exact absurd rfl (hcycle cycle)

/-- An entry that is not a delivery revision leaves the history of the deliveries. -/
theorem Accepted.deliveryHistory_eq (h : Accepted p record q)
    (hdelivery : ∀ delivery, record ≠ .deliveryRecord delivery) :
    q.deliveryHistory = p.deliveryHistory := by
  cases h with
  | event | signal | decision | outcome | cycle | commit => rfl
  | delivery delivery => exact absurd rfl (hdelivery delivery)

/-- An event is stored under its source identity. -/
theorem Accepted.of_event {event : TraceEvent} (h : Accepted p (.traceEvent event) q) :
    q.eventsBySource = p.eventsBySource.set event.sourceEventId event := by
  cases h with
  | event => rfl

/-- A revision of a cycle is stored under its identity and number. -/
theorem Accepted.of_cycle {cycle : CycleRecord}
    (h : Accepted p (.cycleRecord cycle) q) :
    q.cycleHistory = p.cycleHistory.set (cycle.cycleId, cycle.revision) cycle
      ∧ q.cycles = p.cycles.set cycle.cycleId cycle := by
  cases h with
  | cycle | commit => exact ⟨rfl, rfl⟩

/-- A revision of a delivery is stored under its identity and number. -/
theorem Accepted.of_delivery {delivery : DeliveryRecord}
    (h : Accepted p (.deliveryRecord delivery) q) :
    q.deliveryHistory = p.deliveryHistory.set (delivery.deliveryId, delivery.revision) delivery
      ∧ q.deliveries = p.deliveries.set delivery.deliveryId delivery := by
  cases h with
  | delivery => exact ⟨rfl, rfl⟩

end SalienceGate
