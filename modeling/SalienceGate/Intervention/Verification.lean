import SalienceGate.Intervention.ReceiptReplay
import SalienceGate.Projector.Deliveries

/-!
# Verdicts that are verified

A verdict is stored with the receipt of its grounding, and is verified against it before a cycle commits. The verification is
exact: what it accepts is what the pipeline returns for some proposal, and a reminder among that is grounded.
-/

namespace SalienceGate

open Checked

section

variable [Hashing] {config : GroundingConfig} {context : GroundingContext} {state : GroundingState}
  {receipt : GroundingReceipt} {decision : InterventionDecision} {reason : ReasonCode} {confidence : UnitInterval}
  {proposal : ProposalArgument}

/-! ## Verdicts of a context -/

/-- A verdict has the identities of its context, and the configuration that it was made with. -/
structure Made (config : GroundingConfig) (context : GroundingContext) (decision : InterventionDecision) : Prop where
  interventionId : decision.interventionId = context.interventionId
  runId : decision.runId = context.runId
  cycleId : decision.cycleId = context.cycleId
  createdAt : decision.createdAt = context.createdAt
  version : decision.groundingVersion = groundingPipelineVersion
  configuration : decision.groundingConfiguration = config.modelDump
  digest : decision.groundingConfigurationDigest = (resolveGroundingConfiguration config).configurationDigest

theorem Made.configFromDecision (h : Made config context decision) :
    configFromDecision decision = some (config, resolveGroundingConfiguration config) := by
  unfold SalienceGate.configFromDecision
  rw [h.configuration, GroundingConfig.modelValidateJson_modelDump]
  exact if_pos ⟨h.version, h.digest⟩

theorem silence_made (h : silence config context reason confidence receipt = .ok decision) :
    Made config context decision := by
  rw [silence, built_eq_ok, InterventionDecision.create, validate_eq_ok] at h
  obtain ⟨-, rfl⟩ := h
  exact ⟨rfl, rfl, rfl, rfl, rfl, rfl, rfl⟩

theorem remind_made {grounded : List ResolvedClaim}
    (h : remind config context confidence receipt grounded = .ok decision) : Made config context decision := by
  rw [remind, expect_bind_eq_ok] at h
  obtain ⟨renderedClaims, -, h⟩ := h
  split at h
  · exact silence_made h
  · rw [built_eq_ok, InterventionDecision.create, validate_eq_ok] at h
    obtain ⟨-, rfl⟩ := h
    exact ⟨rfl, rfl, rfl, rfl, rfl, rfl, rfl⟩

/-- What `ground` returns is a silence, or the verdict about the proposal as it was read back. -/
theorem ground_cases (h : ground config proposal context state = .ok decision) :
    groundingInputsValid context state = true
      ∧ ((∃ reason confidence receipt, silence config context reason confidence receipt = .ok decision)
        ∨ ∃ validated receipt, validatedProposal proposal = some validated
          ∧ groundValid config context state validated receipt = .ok decision) := by
  unfold ground at h
  rw [raiseIf_bind_eq_ok, Bool.not_eq_false] at h
  obtain ⟨hinputs, h⟩ := h
  refine ⟨hinputs, ?_⟩
  split at h
  · obtain ⟨receipt, -, h⟩ := bind_eq_ok.mp h
    exact .inl ⟨_, _, receipt, h⟩
  · obtain ⟨receipt, -, h⟩ := bind_eq_ok.mp h
    exact .inl ⟨_, _, receipt, h⟩
  · cases hvalidated : validatedProposal proposal with
    | none =>
      rw [hvalidated] at h
      obtain ⟨receipt, -, h⟩ := bind_eq_ok.mp h
      exact .inl ⟨_, _, receipt, h⟩
    | some validated =>
      rw [hvalidated] at h
      obtain ⟨receipt, -, h⟩ := bind_eq_ok.mp h
      exact .inr ⟨validated, receipt, rfl, h⟩

theorem ground_made (h : ground config proposal context state = .ok decision) : Made config context decision := by
  rcases (ground_cases h).2 with ⟨reason, confidence, receipt, hsilence⟩ | ⟨validated, receipt, -, hvalid⟩
  · exact silence_made hsilence
  · rcases groundValid_cases config context state validated receipt with ⟨reason, -, hcase⟩ | ⟨grounded, -, hcase⟩
    · exact silence_made (hcase ▸ hvalid)
    · exact remind_made (hcase ▸ hvalid)

/-! ## Receipts of rejected proposals -/

/-- A receipt is the one that its own fields get in its context. -/
theorem groundingReceipt_self (htarget : receipt.requestedDeliveryTarget = context.requestedDeliveryTarget)
    (hprovenance : groundingProvenanceMatches context receipt = true) :
    groundingReceipt context receipt.parseStatus receipt.proposalAction receipt.claims receipt.confidence = .ok receipt := by
  unfold groundingProvenanceMatches at hprovenance
  simp only [Bool.and_eq_true, decide_eq_true_eq] at hprovenance
  obtain ⟨⟨⟨hversion, hindex⟩, hdigest⟩, hselector⟩ := hprovenance
  have hfirst : (if context.modelSchema = true then GroundingReceiptVersion.v1 else .v2) = receipt.receiptVersion := by
    rw [hversion]
    cases receipt.receiptVersion <;> rfl
  unfold groundingReceipt
  rw [hfirst, ← htarget, ← hindex, ← hdigest, ← hselector, built_eq_ok, GroundingReceipt.create, validate_eq_ok]
  exact ⟨receipt.valid, rfl⟩

/-- The silence of a receipt without a valid proposal is what some proposal gets. -/
theorem exists_ground_silence (hinputs : groundingInputsValid context state = true)
    (htarget : receipt.requestedDeliveryTarget = context.requestedDeliveryTarget)
    (hprovenance : groundingProvenanceMatches context receipt = true)
    (hreason : receipt.parseStatus.silenceReason = some reason)
    (h : silence config context reason receipt.confidence receipt = .ok decision) :
    ∃ proposal, ground config proposal context state = .ok decision := by
  have hself := groundingReceipt_self htarget hprovenance
  have hvalid := receipt.valid
  have hguard : ¬groundingInputsValid context state = false := by rw [hinputs]; decide
  simp only [GroundingReceiptFields.check, constrain_bind_eq_ok, refuse_bind_eq_ok] at hvalid
  obtain ⟨-, -, -, hvalid⟩ := hvalid
  -- A reminder with no claims, or with too many, is not looked at any further.
  have hproposal : ∀ {status : ProposalParseStatus} (claims : List Bool),
      groundingReceipt context status (some .remind) [] receipt.confidence = .ok receipt →
      (∀ confidence, ground config (.proposal ⟨some .remind, some claims, some confidence, some none, none⟩) context state
        = (do
          raiseIf (groundingInputsValid context state = false) .input
          let receipt ← groundingReceipt context status (some .remind) [] (safeProposalConfidence
            (.proposal ⟨some .remind, some claims, some confidence, some none, none⟩))
          silence config context reason (safeProposalConfidence
            (.proposal ⟨some .remind, some claims, some confidence, some none, none⟩)) receipt)) →
      ∃ proposal, ground config proposal context state = .ok decision := by
    intro status claims hself hground
    have hconfidence : safeProposalConfidence (.proposal
        ⟨some .remind, some claims, some receipt.confidence.value, some none, none⟩) = receipt.confidence :=
      dif_pos receipt.confidence.bounds
    refine ⟨_, (hground receipt.confidence.value).trans ?_⟩
    rw [raiseIf_bind_of_not hguard, hconfidence]
    exact bind_eq_ok.mpr ⟨receipt, hself, h⟩
  cases hstatus : receipt.parseStatus with
  | valid =>
    rw [hstatus] at hreason
    cases hreason
  | emptyReminder =>
    rw [hstatus] at hvalid hself hreason
    simp only [refuse_eq_ok, not_or, not_not] at hvalid
    cases hreason
    rw [hvalid.1, hvalid.2] at hself
    exact hproposal [] hself fun _ => rfl
  | claimOverLimit =>
    rw [hstatus] at hvalid hself hreason
    simp only [refuse_eq_ok, not_or, not_not] at hvalid
    cases hreason
    rw [hvalid.1, hvalid.2] at hself
    exact hproposal [true, true, true] hself fun _ => rfl
  | schemaInvalid =>
    rw [hstatus] at hvalid hself hreason
    simp only [refuse_eq_ok, not_or, not_not] at hvalid
    cases hreason
    obtain ⟨haction, hclaims, hconfidence⟩ := hvalid
    rw [haction, hclaims, hconfidence] at hself
    rw [hconfidence] at h
    refine ⟨.foreign, ?_⟩
    unfold ground
    rw [raiseIf_bind_of_not hguard]
    exact bind_eq_ok.mpr ⟨receipt, hself, h⟩

/-! ## The verification -/

/-- A stored verdict is verified exactly if the pipeline with that configuration returns it for some proposal, valid or not. -/
theorem verifyGroundedIntervention_iff :
    verifyGroundedIntervention decision context state (resolveGroundingConfiguration config) = .ok ()
      ↔ ∃ proposal, ground config proposal context state = .ok decision := by
  unfold verifyGroundedIntervention
  simp only [raiseIf_bind_eq_ok, expect_bind_eq_ok, Bool.not_eq_false]
  simp only [bind_eq_ok, mapError_eq_ok, raiseIf_eq_ok, not_or, not_not]
  constructor
  · rintro ⟨hinputs, ⟨found, resolved⟩, hfound, receipt, hreceipt, ⟨hresolved, -, -, -, -, htarget, hprovenance⟩, expected,
      hreplay, rfl⟩
    -- The configuration that was stored is the one that is expected, for it is read back.
    have hconfig : found = config := by
      unfold configFromDecision at hfound
      obtain ⟨candidate, -, hfound⟩ := Option.bind_eq_some_iff.mp hfound
      dsimp only at hfound
      split at hfound
      · cases hfound
        have hdump : found.modelDump = config.modelDump :=
          congrArg ResolvedGroundingConfiguration.configuration hresolved
        have hread := GroundingConfig.modelValidateJson_modelDump found
        rw [hdump, GroundingConfig.modelValidateJson_modelDump] at hread
        exact (Option.some.inj hread).symm
      · cases hfound
    subst hconfig
    rw [Bool.not_eq_false] at hprovenance
    rw [replayReceipt_eq found hinputs htarget hprovenance] at hreplay
    cases hreason : receipt.parseStatus.silenceReason with
    | some reason =>
      rw [hreason] at hreplay
      exact exists_ground_silence hinputs htarget hprovenance hreason hreplay
    | none =>
      rw [hreason] at hreplay
      obtain ⟨action, -, hreplay⟩ := expect_bind_eq_ok.mp hreplay
      obtain ⟨proposal, -, hreplay⟩ := bind_eq_ok.mp hreplay
      exact ⟨proposal.argument, hreplay⟩
  · rintro ⟨proposal, hground⟩
    have hinputs := (ground_cases hground).1
    have hmade := ground_made hground
    obtain ⟨found, receipt, hagain, hreceipt, hreplay⟩ := replayReceipt_ground config proposal hinputs
    cases hground.symm.trans hagain
    have hmatches := hreplay
    unfold replayReceipt at hmatches
    rw [raiseIf_bind_eq_ok, raiseIf_bind_eq_ok, not_or, not_not, Bool.not_eq_false] at hmatches
    obtain ⟨-, ⟨htarget, hprovenance⟩, -⟩ := hmatches
    exact ⟨hinputs, _, hmade.configFromDecision, receipt, hreceipt, ⟨rfl, hmade.interventionId, hmade.runId, hmade.cycleId,
      hmade.createdAt, htarget, hprovenance⟩, decision, hreplay, rfl⟩

end

section

attribute [local instance] jumpHashing

end

end SalienceGate
