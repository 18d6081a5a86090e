import SalienceGate.Intervention.ReceiptReplay
import SalienceGate.Projector.Cursor

/-!
# The spacing of reminders

A commit verifies its intervention against the reminders of the bounded window before it. What an
accepted reminder says about that window, and the cursor that only moves forward, space the
reminders of a whole run.
-/

namespace SalienceGate

open Checked

variable [Hashing] {p q : Projection} {record : LedgerRecord}

/-! ## What a verified intervention says -/

/-- What the verification of an intervention establishes. -/
structure Verified (p : Projection) (cycle : CycleRecord) (intervention : InterventionDecision)
    (configuration : GroundingConfig) (receipt : GroundingReceipt) (context : GroundingContext)
    (current : TraceEvent) (state : GroundingState) : Prop where
  /-- The configuration is the pin of the cycle. -/
  pinned : GroundingConfig.modelValidateJson cycle.groundingConfiguration = some configuration
  receipt_eq : GroundingReceipt.modelValidateJson intervention.groundingReceipt = some receipt
  current_eq : p.eventsBySequence.get? cycle.lastEventSequence = some current
  context_eq : cycleGroundingContext cycle intervention receipt = .ok context
  state_eq : boundedState p configuration current receipt.claims cycle.lastEventSequence = .ok state
  /-- The receipt replays to the intervention. -/
  replayed : replayReceipt configuration receipt context state = .ok intervention

/-- The pin of a cycle. -/
theorem resolvedCycleGrounding_eq_ok {cycle : CycleRecord}
    {pin : GroundingConfig × ResolvedGroundingConfiguration}
    (h : resolvedCycleGrounding cycle = .ok pin) :
    GroundingConfig.modelValidateJson cycle.groundingConfiguration = some pin.1
      ∧ pin.2 = resolveGroundingConfiguration pin.1 := by
  simp only [resolvedCycleGrounding, expect_bind_eq_ok, raiseIf_bind_eq_ok, pure_eq_ok] at h
  obtain ⟨configuration, hconfiguration, -, rfl⟩ := h
  exact ⟨hconfiguration, rfl⟩

/-- A decision is verified with the configuration and the receipt that it stores. -/
theorem verifyGroundedIntervention_eq_ok {decision : InterventionDecision}
    {context : GroundingContext} {state : GroundingState}
    {expected : ResolvedGroundingConfiguration}
    (h : verifyGroundedIntervention decision context state expected = .ok ()) :
    ∃ configuration receipt,
      GroundingConfig.modelValidateJson decision.groundingConfiguration = some configuration
      ∧ GroundingReceipt.modelValidateJson decision.groundingReceipt = some receipt
      ∧ replayReceipt configuration receipt context state = .ok decision := by
  simp only [verifyGroundedIntervention, raiseIf_bind_eq_ok, expect_bind_eq_ok] at h
  obtain ⟨-, ⟨configuration, resolved⟩, hconfiguration, receipt, hreceipt, -, h⟩ := h
  rw [bind_eq_ok] at h
  obtain ⟨replayed, hreplayed, h⟩ := h
  rw [mapError_eq_ok] at hreplayed
  rw [raiseIf_eq_ok, not_not] at h
  subst h
  refine ⟨configuration, receipt, ?_, hreceipt, hreplayed⟩
  cases hload : GroundingConfig.modelValidateJson replayed.groundingConfiguration with
  | none => simp [configFromDecision, hload] at hconfiguration
  | some candidate =>
    simp only [configFromDecision, hload, Option.bind_eq_bind, Option.bind_some,
      Option.ite_none_right_eq_some, Option.some.injEq, Prod.mk.injEq] at hconfiguration
    rw [hconfiguration.2.1]

theorem verifyIntervention_eq_ok {cycle : CycleRecord} {intervention : InterventionDecision}
    (h : verifyIntervention p cycle intervention = .ok ()) :
    ∃ configuration receipt context current state,
      Verified p cycle intervention configuration receipt context current state := by
  rw [verifyIntervention, bind_eq_ok] at h
  obtain ⟨pin, hpin, h⟩ := h
  rw [mapError_eq_ok] at hpin
  rw [expect_bind_eq_ok] at h
  obtain ⟨receipt, hreceipt, h⟩ := h
  rw [bind_eq_ok] at h
  obtain ⟨_, -, h⟩ := h
  rw [raiseIf_bind_eq_ok, expect_bind_eq_ok] at h
  obtain ⟨hmatches, current, hcurrent, h⟩ := h
  rw [bind_eq_ok] at h
  obtain ⟨context, hcontext, h⟩ := h
  rw [bind_eq_ok] at h
  obtain ⟨state, hstate, h⟩ := h
  obtain ⟨hpinned, -⟩ := resolvedCycleGrounding_eq_ok hpin
  obtain ⟨configuration, receipt', hconfiguration, hreceipt', hreplayed⟩ :=
    verifyGroundedIntervention_eq_ok h
  -- the decision stores the pin of the cycle, and its receipt
  simp only [not_or, not_not] at hmatches
  rw [hmatches.2.2.1, hpinned] at hconfiguration
  rw [hreceipt] at hreceipt'
  cases hconfiguration
  cases hreceipt'
  exact ⟨pin.1, receipt, context, current, state, hpinned, hreceipt, hcurrent, hcontext, hstate,
    hreplayed⟩

/-- The context of a cycle's verdict is at its last event. -/
theorem cycleGroundingContext_sequence {cycle : CycleRecord} {intervention : InterventionDecision}
    {receipt : GroundingReceipt} {context : GroundingContext}
    (h : cycleGroundingContext cycle intervention receipt = .ok context) :
    context.currentEventSequence = cycle.lastEventSequence := by
  simp only [cycleGroundingContext, built, mapError_eq_ok, GroundingContext.create,
    validate_eq_ok] at h
  obtain ⟨-, rfl⟩ := h
  rfl

/-! ## The window of the reminders -/

/-- The reminders of a window, as the history holds them. -/
theorem mem_remindersBetween {first last : ℕ} {history : List ReminderHistory}
    (h : remindersBetween p first last = .ok history) {reminder : ReminderHistory} :
    reminder ∈ history ↔ ∃ sequence prior, first ≤ sequence ∧ sequence < last
      ∧ p.reminderInterventionsBySequence.get? sequence = some prior
      ∧ reminderHistory sequence prior = .ok reminder := by
  rw [mem_of_mapM_eq_ok h]
  simp only [List.mem_filterMap, List.mem_range'_1, Option.map_eq_some_iff, Prod.exists,
    Prod.mk.injEq]
  constructor
  · rintro ⟨sequence, prior, ⟨k, ⟨hk, hlast⟩, found, hfound, rfl, rfl⟩, hhistory⟩
    exact ⟨k, found, hk, by omega, hfound, hhistory⟩
  · rintro ⟨sequence, prior, hfirst, hlast, hprior, hhistory⟩
    exact ⟨sequence, prior, ⟨sequence, ⟨hfirst, by omega⟩, prior, hprior, rfl, rfl⟩, hhistory⟩

/-- A reminder of the history has the sequence, and the fingerprints of the claims. -/
theorem reminderHistory_eq_ok {sequence : ℕ} {prior : InterventionDecision}
    {reminder : ReminderHistory} (h : reminderHistory sequence prior = .ok reminder) :
    reminder.eventSequence = sequence ∧ reminder.runId = prior.runId
      ∧ reminder.interventionId = prior.interventionId
      ∧ prior.claims.mapM claimFingerprint = some reminder.claimDigests := by
  simp only [reminderHistory, built, expect_bind_eq_ok, mapError_eq_ok, ReminderHistory.create,
    validate_eq_ok] at h
  obtain ⟨digests, hdigests, -, rfl⟩ := h
  exact ⟨rfl, rfl, rfl, hdigests⟩

/-- The state of a verification has the reminders of the window. -/
theorem boundedState_eq_ok {configuration : GroundingConfig} {current : TraceEvent}
    {claims : List ProposedClaim} {last : ℕ} {state : GroundingState}
    (h : boundedState p configuration current claims last = .ok state) :
    remindersBetween p (max 1 (last - historyWindow configuration)) last
        = .ok state.reminderHistory
      ∧ state.events = (selectedEvents p current claims).values.insertionSort eventOrder
      ∧ state.memories = (selectedMemories p claims).values.insertionSort fun a b =>
        a.memoryId.int.toNat ≤ b.memoryId.int.toNat := by
  simp only [boundedState, bind_eq_ok, built, mapError_eq_ok, GroundingState.create,
    validate_eq_ok] at h
  obtain ⟨history, hhistory, -, rfl⟩ := h
  exact ⟨hhistory, rfl, rfl⟩

/-! ## The invariant -/

/-- Two claims with one fingerprint. -/
def sharesFingerprint (a b : InterventionDecision) : Prop :=
  ∃ x ∈ a.claims, ∃ y ∈ b.claims, claimFingerprint x = claimFingerprint y

/-- A reminder at `later` respects the windows of its configuration towards one at `earlier`. -/
structure Spaced (configuration : GroundingConfig) (earlier later : ℕ)
    (a b : InterventionDecision) : Prop where
  cooldown : 0 < configuration.cooldownEvents → configuration.cooldownEvents < later - earlier
  duplicate : 0 < configuration.duplicateWindowEvents →
    later - earlier ≤ configuration.duplicateWindowEvents → ¬sharesFingerprint a b

/-- A committed cycle with a reminder. -/
structure Reminds (cycles : Dict Sha256Digest CycleRecord) (id : Sha256Digest)
    (cycle : CycleRecord) (intervention : InterventionDecision) : Prop where
  latest : cycles.get? id = some cycle
  committed : cycle.state = .committed
  intervention_eq : cycle.intervention = some intervention
  remind : intervention.action = .remind

/-- The reminders of a projection are those of the committed cycles, and they are spaced. -/
structure SpacingInvariant (p : Projection) : Prop where
  /-- The index holds the reminder of every committed cycle. -/
  indexed : ∀ {id cycle intervention}, Reminds p.cycles id cycle intervention →
    p.reminderInterventionsBySequence.get? cycle.lastEventSequence = some intervention
  /-- A committed cycle ends at a positive sequence, up to the cursor. -/
  before : ∀ {id cycle}, p.cycles.get? id = some cycle → cycle.state = .committed →
    1 ≤ cycle.lastEventSequence ∧ cycle.lastEventSequence ≤ p.memoryCursor
  /-- A later reminder respects its windows. -/
  spaced : ∀ {i j c d a b}, Reminds p.cycles i c a → Reminds p.cycles j d b →
    c.lastEventSequence < d.lastEventSequence →
    ∃ configuration, GroundingConfig.modelValidateJson d.groundingConfiguration = some configuration
      ∧ Spaced configuration c.lastEventSequence d.lastEventSequence a b

/-- A verified reminder is spaced from every reminder that the index holds before it. -/
theorem spaced_of_verified {cycle : CycleRecord} {intervention prior : InterventionDecision}
    {configuration : GroundingConfig} {receipt : GroundingReceipt} {context : GroundingContext}
    {current : TraceEvent} {state : GroundingState} {sequence : ℕ}
    (h : Verified p cycle intervention configuration receipt context current state)
    (hremind : intervention.action = .remind)
    (hprior : p.reminderInterventionsBySequence.get? sequence = some prior)
    (hone : 1 ≤ sequence) (hbefore : sequence < cycle.lastEventSequence) :
    Spaced configuration sequence cycle.lastEventSequence prior intervention := by
  obtain ⟨digests, hunblocked⟩ := replayReceipt_remind h.replayed hremind
  obtain ⟨hhistory, -, -⟩ := boundedState_eq_ok h.state_eq
  have hcurrent := cycleGroundingContext_sequence h.context_eq
  -- within the longer window, the prior reminder is in the history
  have hmem : cycle.lastEventSequence - sequence ≤ historyWindow configuration →
      ∃ reminder ∈ state.reminderHistory, reminder.eventSequence = sequence
        ∧ prior.claims.mapM claimFingerprint = some reminder.claimDigests := by
    intro hwindow
    have hrange : sequence ∈ List.range' (max 1 (cycle.lastEventSequence
        - historyWindow configuration)) (cycle.lastEventSequence - max 1
        (cycle.lastEventSequence - historyWindow configuration)) := by
      rw [List.mem_range'_1]
      omega
    obtain ⟨reminder, hreminder, hbuilt⟩ := exists_of_mapM_eq_ok hhistory
      (x := (sequence, prior)) (List.mem_filterMap.mpr ⟨sequence, hrange, by rw [hprior]; rfl⟩)
    obtain ⟨hsequence, -, -, hdigests⟩ := reminderHistory_eq_ok hbuilt
    exact ⟨reminder, hreminder, hsequence, hdigests⟩
  constructor
  · intro hpositive
    by_contra hle
    obtain ⟨reminder, hreminder, hsequence, -⟩ :=
      hmem ((not_lt.mp hle).trans (le_max_right _ _))
    have hblocked := hunblocked.cooldown
    simp only [cooldownBlocked, hpositive, decide_true, Bool.true_and, List.any_eq_false,
      decide_eq_true_eq, hcurrent] at hblocked
    exact hblocked reminder hreminder (hsequence ▸ not_lt.mp hle)
  · rintro hpositive hwindow ⟨x, hx, y, hy, heq⟩
    obtain ⟨reminder, hreminder, hsequence, hdigests⟩ := hmem (hwindow.trans (le_max_left _ _))
    have hblocked := hunblocked.duplicates
    simp only [duplicateBlocked, hpositive, decide_true, Bool.true_and, List.any_eq_false,
      Bool.and_eq_true, decide_eq_true_eq, List.any_eq_true, not_and, not_exists,
      hcurrent] at hblocked
    -- the shared fingerprint is a digest of both reminders
    have hy' : claimFingerprint y ∈ digests.map some :=
      hunblocked.fingerprints ▸ List.mem_map_of_mem hy
    obtain ⟨digest, hdigest, hsome⟩ := List.mem_map.mp hy'
    refine hblocked reminder hreminder (hsequence ▸ hwindow) digest hdigest ?_
    have hx' : claimFingerprint x ∈ reminder.claimDigests.map some := by
      rw [← mapM_eq_some.mp hdigests]
      exact List.mem_map_of_mem hx
    rw [heq, ← hsome] at hx'
    simpa using hx'

omit [Hashing] in
/-- The reminders after a commit: the index has the new one, if it is a reminder. -/
theorem commitReminder_eq_ok {reminders reminders' : Dict ℕ InterventionDecision} {sequence : ℕ}
    {intervention : InterventionDecision}
    (h : commitReminder reminders sequence intervention = .ok reminders') {k : ℕ} :
    reminders'.get? k = if k = sequence ∧ intervention.action = .remind then some intervention
      else reminders.get? k := by
  cases ha : intervention.action with
  | silence =>
    simp only [commitReminder, ha, pure_eq_ok] at h
    simp [h]
  | remind =>
    simp only [commitReminder, ha, raiseIf_bind_eq_ok, pure_eq_ok] at h
    obtain ⟨-, rfl⟩ := h
    simp [Dict.get?_set]

/-- A revision that does not commit leaves the reminders of the committed cycles. -/
theorem reminds_uncommitted {cycle : CycleRecord} (hstate : cycle.state ≠ .committed)
    {id : Sha256Digest} {c : CycleRecord} {a : InterventionDecision}
    (h : Reminds (p.cycles.set cycle.cycleId cycle) id c a) : Reminds p.cycles id c a := by
  obtain ⟨hlatest, hcommitted, hintervention, hremind⟩ := h
  rcases Dict.get?_set_eq_some.mp hlatest with ⟨-, rfl⟩ | ⟨-, hold⟩
  · exact absurd hcommitted hstate
  · exact ⟨hold, hcommitted, hintervention, hremind⟩

/-- An accepted entry keeps the reminders spaced. -/
theorem spacing_accepted (hp : SpacingInvariant p) (h : Accepted p record q) :
    SpacingInvariant q := by
  cases h with
  | event | signal | outcome | delivery | decision => exact ⟨hp.indexed, hp.before, hp.spaced⟩
  | cycle cycle decision checked uncommitted =>
    refine ⟨fun hr => hp.indexed (reminds_uncommitted uncommitted hr), fun hc hstate => ?_,
      fun ha hb => hp.spaced (reminds_uncommitted uncommitted ha)
        (reminds_uncommitted uncommitted hb)⟩
    rcases Dict.get?_set_eq_some.mp hc with ⟨-, rfl⟩ | ⟨-, hold⟩
    · exact absurd hstate uncommitted
    · exact hp.before hold hstate
  | commit cycle decision delta intervention bank reminders checked committed commit remembered =>
    obtain ⟨hone, hle⟩ := cycle.first_le_last
    have hcontinues := commit.continues
    -- a cycle with a reminder is the new one, or was there before the cursor
    have hcases : ∀ {id c a}, Reminds (p.cycles.set cycle.cycleId cycle) id c a →
        (c = cycle ∧ a = intervention)
          ∨ (Reminds p.cycles id c a ∧ c.lastEventSequence < cycle.lastEventSequence) := by
      rintro id c a ⟨hlatest, hcommitted, hintervention, hremind⟩
      rcases Dict.get?_set_eq_some.mp hlatest with ⟨-, rfl⟩ | ⟨-, hold⟩
      · rw [commit.intervention_eq] at hintervention
        cases hintervention
        exact .inl ⟨rfl, rfl⟩
      · have hbefore : c.lastEventSequence ≤ p.memoryCursor := (hp.before hold hcommitted).2
        exact .inr ⟨⟨hold, hcommitted, hintervention, hremind⟩, by omega⟩
    refine ⟨fun {id c a} hr => ?_, fun {id c} hc hstate => ?_, fun {i j c d a b} ha hb hlt => ?_⟩
    · refine (commitReminder_eq_ok remembered).trans ?_
      rcases hcases hr with ⟨rfl, rfl⟩ | ⟨hold, hlt⟩
      · rw [if_pos ⟨rfl, hr.remind⟩]
      · rw [if_neg fun hand => hlt.ne hand.1]
        exact hp.indexed hold
    · rcases Dict.get?_set_eq_some.mp hc with ⟨-, rfl⟩ | ⟨-, hold⟩
      · exact ⟨hone.trans hle, le_rfl⟩
      · obtain ⟨hpos, hbefore⟩ := hp.before hold hstate
        refine ⟨hpos, hbefore.trans ?_⟩
        simp only [Projection.addCycle, Projection.commit]
        omega
    · rcases hcases hb with ⟨rfl, rfl⟩ | ⟨hbold, hdlt⟩
      · rcases hcases ha with ⟨rfl, rfl⟩ | ⟨haold, -⟩
        · exact absurd hlt (lt_irrefl _)
        · obtain ⟨configuration, receipt, context, current, state, hverified⟩ :=
            verifyIntervention_eq_ok commit.verified
          exact ⟨configuration, hverified.pinned, spaced_of_verified hverified hb.remind
            (hp.indexed haold) (hp.before haold.latest haold.committed).1 hlt⟩
      · rcases hcases ha with ⟨rfl, rfl⟩ | ⟨haold, -⟩
        · exact absurd (hlt.trans hdlt) (lt_irrefl _)
        · exact hp.spaced haold hbold hlt

/-- The spacing invariant holds after every ledger. -/
theorem spacingInvariant {runId : UUID4} (run : LedgerRun runId) : SpacingInvariant run.final := by
  refine ledger_invariant run ⟨?_, ?_, ?_⟩ fun _ _ _ _ hp h => spacing_accepted hp h
  · rintro id cycle intervention ⟨h, -⟩
    cases h
  · intro id cycle h
    cases h
  · rintro i j c d a b ⟨h, -⟩
    cases h

/-- The reminders of a run. Of two committed cycles with reminders, the later one respects the
windows of its pinned configuration: it is further away than the cooldown, if there is one, and
shares no claim fingerprint within the duplicate window; and no two of them end at one event. -/
theorem reminder_spacing {runId : UUID4} (run : LedgerRun runId) :
    (∀ i j c d a b, Reminds run.final.cycles i c a → Reminds run.final.cycles j d b →
      c.lastEventSequence < d.lastEventSequence →
      ∃ configuration,
        GroundingConfig.modelValidateJson d.groundingConfiguration = some configuration
        ∧ (0 < configuration.cooldownEvents →
          configuration.cooldownEvents < d.lastEventSequence - c.lastEventSequence)
        ∧ (0 < configuration.duplicateWindowEvents →
          d.lastEventSequence - c.lastEventSequence ≤ configuration.duplicateWindowEvents →
          ¬sharesFingerprint a b))
    ∧ ∀ i j c d a b, Reminds run.final.cycles i c a → Reminds run.final.cycles j d b →
      c.lastEventSequence = d.lastEventSequence → i = j := by
  refine ⟨fun i j c d a b ha hb hlt => ?_, fun i j c d a b ha hb heq => ?_⟩
  · obtain ⟨configuration, hpinned, hspaced⟩ := (spacingInvariant run).spaced ha hb hlt
    exact ⟨configuration, hpinned, hspaced.cooldown, hspaced.duplicate⟩
  · -- the ranges of two committed cycles are disjoint
    by_contra hne
    have hc : c.lastEventSequence ∈ committedRange run.final i :=
      ⟨c, ha.latest, ha.committed, c.first_le_last.2, le_rfl⟩
    have hd : c.lastEventSequence ∈ committedRange run.final j :=
      ⟨d, hb.latest, hb.committed, heq ▸ d.first_le_last.2, heq.le⟩
    exact Set.disjoint_left.mp ((cycleInvariant run).tiled.disjoint hne) hc hd

end SalienceGate
