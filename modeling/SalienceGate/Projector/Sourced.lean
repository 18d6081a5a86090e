import Mathlib.Data.String.Basic
import SalienceGate.Projector.Outbox
import SalienceGate.Projector.Spacing

/-!
# The next revision of a delivery

When the projector accepts the next revision of a delivery. The checks against the outbox passed when
the delivery was enqueued, and nothing that they look at changes afterwards, so what is left are the
checks against the revision before. The reminder of a delivery is short enough for an envelope.
-/

namespace SalienceGate

open Checked

variable [Hashing] {p q : Projection} {delivery previous : DeliveryRecord}

/-! ## The source of a delivery -/

/-- The checks of a delivery against its outbox look at its identity only. -/
theorem validateOutboxSource_congr (h : delivery.identity = previous.identity) :
    validateOutboxSource p delivery = validateOutboxSource p previous := by
  have hcycle : delivery.cycleId = previous.cycleId := congrArg DeliveryIdentity.cycleId h
  have hintervention : delivery.interventionId = previous.interventionId :=
    congrArg DeliveryIdentity.interventionId h
  have htarget : delivery.target = previous.target := congrArg DeliveryIdentity.target h
  have hdigest : delivery.renderedTextDigest = previous.renderedTextDigest :=
    congrArg DeliveryIdentity.renderedTextDigest h
  unfold validateOutboxSource
  rw [hcycle, hintervention, htarget, hdigest]

/-- A committed cycle and an intervention that stay are a source that stays. -/
theorem validateOutboxSource_mono {cycle : CycleRecord}
    (hcycles : ∀ id cycle, p.cycles.get? id = some cycle → cycle.state = .committed →
      q.cycles.get? id = some cycle)
    (hinterventions : p.interventions ≤ q.interventions)
    (h : validateOutboxSource p delivery = .ok cycle) :
    validateOutboxSource q delivery = .ok cycle := by
  simp only [validateOutboxSource, raiseIf_bind_eq_ok, expect_bind_eq_ok, pure_eq_ok] at h ⊢
  obtain ⟨found, hfound, intervention, hintervention, hcommitted, hrest⟩ := h
  have hstate : found.state = .committed := not_not.mp (not_or.mp hcommitted).1
  exact ⟨found, hcycles _ _ hfound hstate, intervention, hinterventions hintervention, hcommitted,
    hrest⟩

/-- Every delivery has its source. -/
def DeliveriesSourced (p : Projection) : Prop :=
  ∀ id delivery, p.deliveries.get? id = some delivery →
    ∃ cycle, validateOutboxSource p delivery = .ok cycle

/-- A cycle that is accepted replaces no committed one, and a commit no intervention. -/
theorem DeliveriesSourced.addCycle (hp : DeliveriesSourced p) {cycle : CycleRecord}
    (h : Accepted p (.cycleRecord cycle) q) : DeliveriesSourced q := by
  have hinterventions : p.interventions ≤ q.interventions := by
    cases h with
    | cycle => exact le_rfl
    | commit cycle decision delta intervention bank reminders checked committed commit =>
      exact Dict.le_set_of_notMem commit.fresh
  have hdeliveries : q.deliveries = p.deliveries := by cases h <;> rfl
  intro id delivery hget
  rw [hdeliveries] at hget
  obtain ⟨source, hsource⟩ := hp id delivery hget
  exact ⟨source, validateOutboxSource_mono (fun _ _ => h.committed_mono) hinterventions hsource⟩

/-- A delivery that is accepted has its source. -/
theorem DeliveriesSourced.addDelivery (hp : DeliveriesSourced p)
    (h : applyDelivery p delivery = .ok q) : DeliveriesSourced q := by
  rw [applyDelivery, bind_eq_ok] at h
  obtain ⟨cycle, hcycle, h⟩ := h
  rw [raiseIf_bind_eq_ok, check_bind_eq_ok] at h
  obtain ⟨-, -, hq⟩ := h
  cases hq
  intro id found hget
  rcases Dict.get?_set_eq_some.mp hget with ⟨rfl, rfl⟩ | ⟨-, hold⟩
  · exact ⟨cycle, hcycle⟩
  · exact hp id found hold

/-- Every delivery of a ledger has its source. -/
theorem deliveriesSourced {runId : UUID4} (run : LedgerRun runId) : DeliveriesSourced run.final := by
  refine Replay.replay_invariant (I := DeliveriesSourced) (fun p entry q hp happly => ?_)
    (fun id delivery hget => by cases hget) run.accepted
  rw [applyEntry, raiseIf_bind_eq_ok] at happly
  obtain ⟨-, happly⟩ := happly
  generalize entry.record = record at happly
  cases record with
  | traceEvent event =>
    cases applyEvent_accepted happly
    exact hp
  | signal record =>
    cases applySignal_accepted happly
    exact hp
  | invocationDecision decision =>
    cases applyDecision_accepted happly
    exact hp
  | interventionOutcome outcome =>
    cases applyOutcome_accepted happly
    exact hp
  | cycleRecord cycle => exact hp.addCycle (applyCycle_accepted happly)
  | deliveryRecord delivery => exact hp.addDelivery happly

/-! ## The reminder of a delivery -/

omit [Hashing] in
/-- A text has no more characters than bytes. -/
theorem length_le_utf8ByteSize (text : String) : text.length ≤ text.utf8ByteSize := by
  have hsize := String.utf8ByteSize_ofList text.toList
  rw [String.ofList_toList] at hsize
  rw [hsize, ← String.length_toList]
  induction text.toList with
  | nil => exact le_rfl
  | cons c cs ih =>
    have hc : 1 ≤ c.utf8Size := Char.utf8Size_pos c
    rw [List.length_cons, String.utf8Len_cons]
    omega

omit [Hashing] in
/-- A rendered reminder is within the limit of the renderer. -/
theorem renderReminder_length {config : RenderingConfig} {claims : List GroundedClaim}
    {text : String} (h : renderReminder config claims = .ok text) : text.length ≤ 4096 := by
  simp only [renderReminder, raiseIf_bind_eq_ok] at h
  obtain ⟨-, -, h⟩ := h
  rw [bind_eq_ok] at h
  obtain ⟨body, -, h⟩ := h
  simp only [raiseIf_bind_eq_ok, pure_eq_ok, not_lt] at h
  obtain ⟨hbytes, -, rfl⟩ := h
  have hlimit : config.maxOutputBytes ≤ 4096 := by
    have hvalid := config.valid
    simp only [RenderingConfigFields.check, constrain_bind_eq_ok, constrain_eq_ok] at hvalid
    exact hvalid.2.2.2.2.2.1
  exact (length_le_utf8ByteSize _).trans (hbytes.trans hlimit)

/-- The reminder of an intervention fits into an envelope. -/
def InterventionDecision.Fits (decision : InterventionDecision) : Prop :=
  ∀ text ∈ decision.renderedText, text.text.length ≤ 4096

omit [Hashing] in
/-- A silence has no text. -/
theorem InterventionDecision.fits_of_silence {decision : InterventionDecision}
    (h : decision.action = .silence) : decision.Fits := by
  have hvalid := decision.valid
  simp only [InterventionDecisionFields.check, h, constrain_bind_eq_ok, refuse_bind_eq_ok,
    not_or, not_not] at hvalid
  have hnone : decision.renderedText = none := hvalid.2.2.2.1.2
  intro text htext
  rw [hnone] at htext
  cases htext

/-- What `remind` makes fits. -/
theorem remind_fits {config : GroundingConfig} {context : GroundingContext}
    {confidence : UnitInterval} {receipt : GroundingReceipt} {grounded : List ResolvedClaim}
    {decision : InterventionDecision}
    (h : remind config context confidence receipt grounded = .ok decision) : decision.Fits := by
  rw [remind, expect_bind_eq_ok] at h
  obtain ⟨renderedClaims, -, h⟩ := h
  split at h
  · exact decision.fits_of_silence (silence_eq_ok h).1
  · next rendered hrendered =>
    rw [built_eq_ok, InterventionDecision.create, validate_eq_ok] at h
    obtain ⟨hvalid, rfl⟩ := h
    intro text htext
    have htext : (if h : rendered ≠ "" then some (⟨rendered, h⟩ : NonEmptyString) else none)
        = some text := htext
    split at htext
    · cases htext
      exact renderReminder_length hrendered
    · cases htext

/-- A verdict that is replayed fits. -/
theorem replayReceipt_fits {config : GroundingConfig} {receipt : GroundingReceipt}
    {context : GroundingContext} {state : GroundingState} {decision : InterventionDecision}
    (h : replayReceipt config receipt context state = .ok decision) : decision.Fits := by
  rcases (replayReceipt_eq_ok h).2 with hsilence | ⟨proposal, made, hground⟩
  · exact decision.fits_of_silence hsilence
  · rcases groundValid_cases config context state proposal made with
      ⟨reason, -, hcase⟩ | ⟨grounded, -, hcase⟩
    · exact decision.fits_of_silence (silence_eq_ok (hcase ▸ hground)).1
    · exact remind_fits (hcase ▸ hground)

/-- Every reminder of a ledger fits. -/
theorem interventions_fit {runId : UUID4} (run : LedgerRun runId) :
    ∀ id intervention, run.final.interventions.get? id = some intervention →
      intervention.Fits := by
  refine ledger_invariant (I := fun p => ∀ id intervention,
    p.interventions.get? id = some intervention → intervention.Fits) run
    (fun id intervention hget => by cases hget) fun p record q _ hp h => ?_
  cases h with
  | event | signal | decision | outcome | cycle | delivery => exact hp
  | commit cycle decision delta intervention bank reminders checked committed commit =>
    intro id found hget
    rcases Dict.get?_set_eq_some.mp hget with ⟨rfl, rfl⟩ | ⟨-, hold⟩
    · obtain ⟨configuration, receipt, context, current, state, hverified⟩ :=
        verifyIntervention_eq_ok commit.verified
      exact replayReceipt_fits hverified.replayed
    · exact hp id found hold

/-! ## Applying a revision -/

/-- A later revision that passes its checks is applied. -/
theorem applyDelivery_of_next (hsourced : DeliveriesSourced p)
    (hprevious : p.deliveries.get? delivery.deliveryId = some previous)
    (hrevision : delivery.revision = previous.revision + 1)
    (hnext : validateNextDelivery p delivery previous = .ok ()) :
    applyDelivery p delivery = .ok (p.addDelivery delivery) := by
  have hidentity : delivery.identity = previous.identity := by
    unfold validateNextDelivery at hnext
    rw [raiseIf_bind_eq_ok, not_not] at hnext
    exact hnext.1
  obtain ⟨cycle, hcycle⟩ := hsourced _ previous hprevious
  rw [← validateOutboxSource_congr hidentity] at hcycle
  rw [applyDelivery, bind_eq_ok]
  refine ⟨cycle, hcycle, ?_⟩
  rw [hprevious, raiseIf_bind_eq_ok, check_bind_eq_ok]
  refine ⟨not_not.mpr hrevision, hnext, rfl⟩

/-- A claim of a delivery that is pending or unknown passes its checks. -/
theorem validateNextDelivery_claim {claimId : UUID4} {updatedAt : UtcDatetime}
    (hfields : delivery.toDeliveryRecordFields = { previous.toDeliveryRecordFields with
      revision := previous.revision + 1
      state := .claimed
      claimId := some claimId
      attemptId := none
      receipt := none
      outcome := none
      reasonCode := none
      updatedAt })
    (htime : previous.updatedAt ≤ updatedAt)
    (hstate : previous.state = .pending ∨ previous.state = .unknown)
    (hretry : previous.state = .unknown → previous.adapterDeduplicates = true)
    (hstored : previous ∈ p.deliveryHistory.values)
    (hfresh : ∀ existing ∈ p.deliveryHistory.values, existing.claimId ≠ some claimId) :
    validateNextDelivery p delivery previous = .ok () := by
  have hmade : delivery.state = .claimed := by rw [hfields]
  have hclaim : delivery.claimId = some claimId := by rw [hfields]
  have hattempt : delivery.attemptId = none := by rw [hfields]
  have hidentity : delivery.identity = previous.identity := by
    unfold DeliveryRecord.identity
    rw [hfields]
  have hupdated : delivery.updatedAt = updatedAt := by rw [hfields]
  have hdeduplicates : delivery.adapterDeduplicates = previous.adapterDeduplicates := by rw [hfields]
  have htransition : delivery.state ∈ deliveryTransitions previous.state := by
    rw [hmade]
    rcases hstate with hstate | hstate <;> rw [hstate] <;> decide
  have howner : validateOwnership p delivery previous = .ok () := by
    unfold validateOwnership
    simp only [hmade, validateClaim, raiseIf_bind_eq_ok, raiseIf_eq_ok, hclaim, hattempt,
      hdeduplicates]
    refine ⟨?_, ?_, ?_, by simp⟩
    · rintro ⟨existing, hmem, -, heq⟩
      exact hfresh existing hmem heq
    · rintro ⟨hunknown, hnot⟩
      rw [hretry hunknown] at hnot
      cases hnot
    · rintro ⟨-, heq⟩
      exact hfresh previous hstored heq.symm
  unfold validateNextDelivery
  simp only [raiseIf_eq_ok, check_bind_eq_ok, hidentity, hmade, hupdated,
    not_lt, not_not, ne_eq, not_true_eq_false, true_and, not_false_eq_true]
  exact ⟨htime, hmade ▸ htransition, howner, by simp, by simp, by simp⟩

/-- An attempt under a claim passes its checks. -/
theorem validateNextDelivery_attempt {attemptId : UUID4} {updatedAt : UtcDatetime}
    (hfields : delivery.toDeliveryRecordFields = { previous.toDeliveryRecordFields with
      revision := previous.revision + 1
      state := .attempting
      attemptCount := previous.attemptCount + 1
      attemptId := some attemptId
      updatedAt })
    (htime : previous.updatedAt ≤ updatedAt) (hstate : previous.state = .claimed)
    (hstored : previous ∈ p.deliveryHistory.values)
    (hfresh : ∀ existing ∈ p.deliveryHistory.values, existing.attemptId ≠ some attemptId) :
    validateNextDelivery p delivery previous = .ok () := by
  have hmade : delivery.state = .attempting := by rw [hfields]
  have hattempt : delivery.attemptId = some attemptId := by rw [hfields]
  have hclaim : delivery.claimId = previous.claimId := by rw [hfields]
  have hcount : delivery.attemptCount = previous.attemptCount + 1 := by rw [hfields]
  have hidentity : delivery.identity = previous.identity := by
    unfold DeliveryRecord.identity
    rw [hfields]
  have hupdated : delivery.updatedAt = updatedAt := by rw [hfields]
  have htransition : delivery.state ∈ deliveryTransitions previous.state := by
    rw [hmade, hstate]
    decide
  have howner : validateOwnership p delivery previous = .ok () := by
    unfold validateOwnership
    simp only [hmade, validateAttempt, raiseIf_bind_eq_ok, raiseIf_eq_ok, hclaim, hattempt, hcount]
    refine ⟨?_, by simp, ?_⟩
    · rintro ⟨existing, hmem, -, heq⟩
      exact hfresh existing hmem heq
    · rintro (hne | hnone | heq)
      · exact hne rfl
      · cases hnone
      · exact hfresh previous hstored heq.symm
  unfold validateNextDelivery
  simp only [raiseIf_eq_ok, check_bind_eq_ok, hidentity, hmade, hupdated,
    not_lt, not_not, ne_eq, not_true_eq_false, true_and, not_false_eq_true]
  exact ⟨htime, hmade ▸ htransition, howner, by simp, by simp, by simp⟩

/-- An attempt that is marked unknown passes its checks. -/
theorem validateNextDelivery_unknown {updatedAt : UtcDatetime}
    (hfields : delivery.toDeliveryRecordFields = { previous.toDeliveryRecordFields with
      revision := previous.revision + 1
      state := .unknown
      receipt := none
      outcome := some .unknown
      reasonCode := some .deliveryUnknown
      updatedAt })
    (htime : previous.updatedAt ≤ updatedAt) (hstate : previous.state = .attempting) :
    validateNextDelivery p delivery previous = .ok () := by
  have hmade : delivery.state = .unknown := by rw [hfields]
  have hclaim : delivery.claimId = previous.claimId := by rw [hfields]
  have hattempt : delivery.attemptId = previous.attemptId := by rw [hfields]
  have hcount : delivery.attemptCount = previous.attemptCount := by rw [hfields]
  have hidentity : delivery.identity = previous.identity := by
    unfold DeliveryRecord.identity
    rw [hfields]
  have hupdated : delivery.updatedAt = updatedAt := by rw [hfields]
  have htransition : delivery.state ∈ deliveryTransitions previous.state := by
    rw [hmade, hstate]
    decide
  have howner : validateOwnership p delivery previous = .ok () := by
    unfold validateOwnership
    simp only [hmade, raiseIf_eq_ok, hcount, ne_eq, not_true_eq_false, not_false_eq_true]
  unfold validateNextDelivery
  simp only [raiseIf_eq_ok, check_bind_eq_ok, hidentity, hmade, hupdated,
    not_lt, not_not, ne_eq, not_true_eq_false, true_and, not_false_eq_true, hclaim, hattempt]
  exact ⟨htime, hmade ▸ htransition, howner, by simp, by simp, by simp⟩

end SalienceGate
