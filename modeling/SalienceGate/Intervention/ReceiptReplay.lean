import SalienceGate.Intervention.Grounding

/-!
# Replaying a receipt

What a verdict says about its inputs. `ground` is total on valid inputs and stores a receipt that
replays to the same verdict, whatever the proposal was. The verdict depends on the state only
through the records that the claims cite and the history inside the two windows. A reminder says
that no window blocked it.
-/

namespace SalienceGate

open Checked

variable [Hashing] {config : GroundingConfig} {context : GroundingContext}
  {state : GroundingState} {receipt : GroundingReceipt} {decision : InterventionDecision}
  {reason : ReasonCode} {confidence : UnitInterval}

omit [Hashing] in
@[simp] theorem built_eq_ok {α : Type} {result : Except ValidationError α} {a : α} :
    built result = .ok a ↔ result = .ok a := mapError_eq_ok

/-! ## Silence -/

/-- A silence is a silence, with the receipt it was made of. -/
theorem silence_eq_ok (h : silence config context reason confidence receipt = .ok decision) :
    decision.action = .silence ∧ decision.groundingReceipt = receipt.modelDump := by
  rw [silence, built_eq_ok, InterventionDecision.create, validate_eq_ok] at h
  obtain ⟨_, rfl⟩ := h
  exact ⟨rfl, rfl⟩

/-- Every allowed reason gives a silence. -/
theorem silence_total (config : GroundingConfig) (context : GroundingContext)
    (confidence : UnitInterval) (receipt : GroundingReceipt) (hreason : reason ∈ silenceReasonCodes) :
    ∃ decision, silence config context reason confidence receipt = .ok decision := by
  simp only [silence, built_eq_ok, InterventionDecision.create, exists_validate_eq_ok]
  simp [InterventionDecisionFields.check, citedIds, hreason]

/-! ## Receipts -/

omit [Hashing] in
/-- The version of a receipt says which schema its context has. -/
theorem receiptVersion_eq_v1 (modelSchema : Bool) :
    decide ((if modelSchema = true then GroundingReceiptVersion.v1 else .v2) = .v1)
      = modelSchema := by
  cases modelSchema <;> rfl

/-- What a receipt holds. -/
theorem groundingReceipt_eq_ok {status : ProposalParseStatus} {action : Option InterventionAction}
    {claims : List ProposedClaim}
    (h : groundingReceipt context status action claims confidence = .ok receipt) :
    receipt.parseStatus = status ∧ receipt.proposalAction = action ∧ receipt.claims = claims
      ∧ receipt.confidence = confidence
      ∧ receipt.requestedDeliveryTarget = context.requestedDeliveryTarget
      ∧ groundingProvenanceMatches context receipt = true := by
  rw [groundingReceipt, built_eq_ok, GroundingReceipt.create, validate_eq_ok] at h
  obtain ⟨_, rfl⟩ := h
  refine ⟨rfl, rfl, rfl, rfl, rfl, ?_⟩
  simp [groundingProvenanceMatches]

/-- The fields that a proposal gives a receipt of a status. -/
def statusMatches (status : ProposalParseStatus) (action : Option InterventionAction)
    (claims : List ProposedClaim) (confidence : UnitInterval) : Prop :=
  match status with
  | .valid => (action = some .remind → claims ≠ []) ∧ (action = some .silence → claims = [])
      ∧ action ≠ none
  | .emptyReminder | .claimOverLimit => action = some .remind ∧ claims = []
  | .schemaInvalid => action = none ∧ claims = [] ∧ confidence = UnitInterval.one

/-- In every context a proposal gets a receipt: the provenance is that of the context. -/
theorem groundingReceipt_total (context : GroundingContext) {status : ProposalParseStatus}
    {action : Option InterventionAction} {claims : List ProposedClaim} (hclaims : claims.length ≤ 2)
    (hstatus : statusMatches status action claims confidence) :
    ∃ receipt, groundingReceipt context status action claims confidence = .ok receipt := by
  have hcontext := context.valid
  simp only [GroundingContextFields.check, constrain_bind_eq_ok, refuse_eq_ok] at hcontext
  obtain ⟨-, -, hindex, hprovenance⟩ := hcontext
  simp only [groundingReceipt, built_eq_ok, GroundingReceipt.create, exists_validate_eq_ok,
    GroundingReceiptFields.check, constrain_bind_eq_ok, refuse_bind_eq_ok, receiptVersion_eq_v1]
  refine ⟨hclaims, hindex, hprovenance, ?_⟩
  cases status with
  | valid =>
    simp only [refuse_bind_eq_ok, refuse_eq_ok, not_and, not_not]
    exact hstatus
  | emptyReminder => simp [hstatus.1, hstatus.2]
  | claimOverLimit => simp [hstatus.1, hstatus.2]
  | schemaInvalid => simp [hstatus.1, hstatus.2.1, hstatus.2.2]

/-! ## Reminders -/

/-- A resolved citation has the fingerprint of its claim, and the text of its claim. -/
theorem resolveEvidence_eq_ok {proposed : ProposedClaim} {item : ResolvedClaim}
    (h : resolveEvidence proposed context state config = .ok item) :
    claimFingerprint item.claim = some item.digest
      ∧ groundedClaimText item.claim = some item.text := by
  rw [resolveEvidence, bind_eq_ok] at h
  obtain ⟨source, -, h⟩ := h
  simp only [expect_bind_eq_ok, raiseIf_bind_eq_ok, pure_eq_ok] at h
  obtain ⟨text, -, -, digest, hdigest, rfl⟩ := h
  exact ⟨hdigest, groundedClaimText_materializeClaim _ _⟩

/-- Every verdict that `remind` gives has the receipt it was made of, and a reminder among them
carries the grounded claims. -/
theorem remind_eq_ok {grounded : List ResolvedClaim}
    (h : remind config context confidence receipt grounded = .ok decision) :
    decision.groundingReceipt = receipt.modelDump
      ∧ (decision.action = .remind → decision.claims = grounded.map (·.claim)) := by
  rw [remind, expect_bind_eq_ok] at h
  obtain ⟨renderedClaims, -, h⟩ := h
  split at h
  · obtain ⟨haction, hreceipt⟩ := silence_eq_ok h
    exact ⟨hreceipt, fun hremind => by rw [haction] at hremind; cases hremind⟩
  · rw [built_eq_ok, InterventionDecision.create, validate_eq_ok] at h
    obtain ⟨_, rfl⟩ := h
    exact ⟨rfl, fun _ => rfl⟩

/-- What a reminder says about the history: its claims have distinct digests, and no window blocks
them. -/
structure Unblocked (config : GroundingConfig) (current : ℕ) (history : List ReminderHistory)
    (claims : List InterventionClaim) (digests : List Sha256Digest) : Prop where
  /-- The digests are those of the claims. -/
  fingerprints : claims.map claimFingerprint = digests.map some
  /-- They are distinct. -/
  nodup : digests.Nodup
  /-- There is one or two of them. -/
  bounds : 1 ≤ digests.length ∧ digests.length ≤ 2
  /-- No reminder within the duplicate window shares one. -/
  duplicates : duplicateBlocked config current history digests = false
  /-- No reminder is within the cooldown. -/
  cooldown : cooldownBlocked config current history = false

/-! ## Totality -/

omit [Hashing] in
/-- A rendered reminder is not empty: it starts with its frame. -/
theorem renderReminder_ne_empty {config : RenderingConfig} {claims : List GroundedClaim}
    {text : String} (h : renderReminder config claims = .ok text) : text ≠ "" := by
  rw [renderReminder, raiseIf_bind_eq_ok, raiseIf_bind_eq_ok, bind_eq_ok] at h
  obtain ⟨-, -, body, -, h⟩ := h
  simp only [raiseIf_bind_eq_ok, pure_eq_ok] at h
  obtain ⟨-, -, rfl⟩ := h
  rw [List.cons_append, List.cons_append, String.intercalate_cons_of_ne_nil (by simp)]
  simp [String.append_eq_empty_iff]

/-- Every reason for which a source is refused has a place in the precedence. -/
theorem resolveSource_error {proposed : ProposedClaim}
    (h : resolveSource proposed context state config = .error reason) :
    reason ∈ citationReasonPrecedence := by
  unfold resolveSource at h
  split at h
  · simp only [resolveMemory, bind_eq_error, expect_eq_error, raiseIf_eq_error, pure_ne_error,
      and_false, exists_false, or_false] at h
    rcases h with ⟨-, rfl⟩ | ⟨_, -, ⟨-, rfl⟩ | ⟨_, -, ⟨-, rfl⟩ | ⟨_, -, ⟨-, rfl⟩ | ⟨_, -, -, rfl⟩⟩⟩⟩
    all_goals decide
  · simp only [resolveEvent, bind_eq_error, expect_eq_error, raiseIf_eq_error, pure_ne_error,
      and_false, exists_false, or_false] at h
    rcases h with ⟨-, rfl⟩ | ⟨_, -, ⟨-, rfl⟩ | ⟨_, -, -, rfl⟩⟩
    all_goals decide

/-- Every reason for which a citation fails has a place in the precedence. -/
theorem resolveEvidence_error {proposed : ProposedClaim}
    (h : resolveEvidence proposed context state config = .error reason) :
    reason ∈ citationReasonPrecedence := by
  simp only [resolveEvidence, bind_eq_error, expect_eq_error, raiseIf_eq_error, pure_ne_error,
    and_false, exists_false, or_false] at h
  rcases h with h | ⟨_, -, ⟨-, rfl⟩ | ⟨_, -, ⟨-, rfl⟩ | ⟨_, -, -, rfl⟩⟩⟩
  · exact resolveSource_error h
  all_goals decide

/-- A reminder can always be built of one or two resolved claims. -/
theorem remind_total {grounded : List ResolvedClaim}
    (htarget : context.requestedDeliveryTarget ≠ none)
    (hbounds : 1 ≤ grounded.length ∧ grounded.length ≤ 2)
    (htexts : ∀ item ∈ grounded, groundedClaimText item.claim = some item.text) :
    ∃ decision, remind config context confidence receipt grounded = .ok decision := by
  have hrendered : (grounded.mapM GroundedClaim.ofResolved).isSome = true := by
    clear hbounds
    induction grounded with
    | nil => rfl
    | cons item items ih =>
      rw [List.forall_mem_cons] at htexts
      obtain ⟨renderedClaims, hitems⟩ := Option.isSome_iff_exists.mp (ih htexts.2)
      simp [GroundedClaim.ofResolved, htexts.1, hitems]
  obtain ⟨renderedClaims, hrendered⟩ := Option.isSome_iff_exists.mp hrendered
  simp only [remind, expect_bind_eq_ok, hrendered, Option.some.injEq, exists_eq_left']
  split
  · exact silence_total _ _ _ _ (by decide)
  · next rendered hok =>
    have hne := renderReminder_ne_empty hok
    have hclaims : grounded ≠ [] := List.ne_nil_of_length_pos hbounds.1
    simp only [built_eq_ok, InterventionDecision.create, exists_validate_eq_ok]
    simp [InterventionDecisionFields.check, hne, hclaims, htarget, hbounds.2]

/-! ## The verdict about a valid proposal -/

omit [Hashing] in
/-- Citations none of which failed are their grounded claims. -/
theorem map_ok_groundedClaims {resolved : List (Except ReasonCode ResolvedClaim)}
    (h : ∀ reason, .error reason ∉ resolved) :
    (groundedClaims resolved).map .ok = resolved := by
  induction resolved with
  | nil => rfl
  | cons result resolved ih =>
    simp only [List.mem_cons, not_or] at h
    have htail := ih fun reason => (h reason).2
    cases result with
    | error reason => exact absurd rfl (h reason).1
    | ok item => simpa [groundedClaims, Except.toOption] using htail

/-- The claims of a proposal resolve to `grounded`, and nothing blocks a reminder of them. -/
structure Remindable (config : GroundingConfig) (context : GroundingContext)
    (state : GroundingState) (proposal : InterventionProposal) (grounded : List ResolvedClaim) :
    Prop where
  /-- Every citation resolves. -/
  resolved : (proposal.claims.map fun item => resolveEvidence item context state config)
    = grounded.map .ok
  /-- There is a target. -/
  target : context.requestedDeliveryTarget ≠ none
  /-- There is a claim. -/
  claims : proposal.claims ≠ []
  /-- The digests are distinct. -/
  nodup : (grounded.map (·.digest)).Nodup
  /-- No reminder within the duplicate window shares a digest. -/
  duplicates : duplicateBlocked config context.currentEventSequence state.reminderHistory
    (grounded.map (·.digest)) = false
  /-- No reminder is within the cooldown. -/
  cooldown : cooldownBlocked config context.currentEventSequence state.reminderHistory = false

/-- The verdict about a valid proposal is a silence for an allowed reason, or made by `remind` of
claims that nothing blocks. -/
theorem groundValid_cases (config : GroundingConfig) (context : GroundingContext)
    (state : GroundingState) (proposal : InterventionProposal) (receipt : GroundingReceipt) :
    (∃ reason ∈ silenceReasonCodes, groundValid config context state proposal receipt
        = silence config context reason proposal.confidence receipt)
      ∨ ∃ grounded, Remindable config context state proposal grounded
        ∧ groundValid config context state proposal receipt
          = remind config context proposal.confidence receipt grounded := by
  unfold groundValid groundReminder
  simp only
  split
  · exact .inl ⟨_, by decide, rfl⟩
  next haction =>
  split
  · exact .inl ⟨_, by decide, rfl⟩
  next htarget =>
  split
  · exact .inl ⟨_, by decide, rfl⟩
  split
  · next reason hfind =>
    -- every reason of the precedence is allowed
    refine .inl ⟨reason, ?_, rfl⟩
    have hmem := List.mem_of_find?_eq_some hfind
    revert hmem
    generalize reason = r
    revert r
    decide
  next hfind =>
  split
  · exact .inl ⟨_, by decide, rfl⟩
  next hnodup =>
  split
  · exact .inl ⟨_, by decide, rfl⟩
  next hduplicates =>
  split
  · exact .inl ⟨_, by decide, rfl⟩
  next hcooldown =>
  have hvalid := proposal.valid
  simp only [InterventionProposalFields.check, constrain_bind_eq_ok, refuse_bind_eq_ok,
    refuse_eq_ok] at hvalid
  refine .inr ⟨_, ⟨?_, ?_, ?_, not_not.mp hnodup, by simpa using hduplicates,
    by simpa using hcooldown⟩, rfl⟩
  · refine (map_ok_groundedClaims fun reason hmem => ?_).symm
    obtain ⟨item, -, herror⟩ := List.mem_map.mp hmem
    have hfailure : reason ∈ citationFailures (proposal.claims.map fun item =>
        resolveEvidence item context state config) := List.mem_filterMap.mpr ⟨_, hmem, rfl⟩
    exact List.find?_eq_none.mp hfind reason (resolveEvidence_error herror)
      (decide_eq_true hfailure)
  · rintro hnone
    exact htarget (by simp [hnone])
  · rintro hnil
    cases hproposal : proposal.action with
    | silence => exact haction hproposal
    | remind => exact hvalid.2.2.1 ⟨hproposal, hnil⟩

/-- A resolved claim has the text and the fingerprint that its citation gave it. -/
theorem Remindable.resolvedClaim {proposal : InterventionProposal}
    {grounded : List ResolvedClaim} (h : Remindable config context state proposal grounded)
    {item : ResolvedClaim} (hitem : item ∈ grounded) :
    claimFingerprint item.claim = some item.digest
      ∧ groundedClaimText item.claim = some item.text := by
  have hmem : .ok item ∈ proposal.claims.map fun claim =>
      resolveEvidence claim context state config := h.resolved ▸ List.mem_map_of_mem hitem
  obtain ⟨proposed, -, hok⟩ := List.mem_map.mp hmem
  exact resolveEvidence_eq_ok hok

/-- As many claims resolved as were proposed: one or two. -/
theorem Remindable.length_bounds {proposal : InterventionProposal}
    {grounded : List ResolvedClaim} (h : Remindable config context state proposal grounded) :
    1 ≤ grounded.length ∧ grounded.length ≤ 2 := by
  have hvalid := proposal.valid
  simp only [InterventionProposalFields.check, constrain_bind_eq_ok] at hvalid
  have hlength : proposal.claims.length = grounded.length := by
    simpa using congrArg List.length h.resolved
  rw [← hlength]
  exact ⟨List.length_pos_of_ne_nil h.claims, hvalid.1⟩

/-- A valid proposal always gets a verdict. -/
theorem groundValid_total (config : GroundingConfig) (context : GroundingContext)
    (state : GroundingState) (receipt : GroundingReceipt) (proposal : InterventionProposal) :
    ∃ decision, groundValid config context state proposal receipt = .ok decision := by
  rcases groundValid_cases config context state proposal receipt with
    ⟨reason, hreason, h⟩ | ⟨grounded, hremindable, h⟩
  · rw [h]
    exact silence_total _ _ _ _ hreason
  · rw [h]
    exact remind_total hremindable.target hremindable.length_bounds
      fun item hitem => (hremindable.resolvedClaim hitem).2

/-- Every verdict about a valid proposal has the receipt it was made of. -/
theorem groundValid_receipt {proposal : InterventionProposal}
    (h : groundValid config context state proposal receipt = .ok decision) :
    decision.groundingReceipt = receipt.modelDump := by
  rcases groundValid_cases config context state proposal receipt with
    ⟨reason, -, hcase⟩ | ⟨grounded, -, hcase⟩
  · exact (silence_eq_ok (hcase ▸ h)).2
  · exact (remind_eq_ok (hcase ▸ h)).1

/-- A reminder about a valid proposal is unblocked. -/
theorem groundValid_remind {proposal : InterventionProposal}
    (h : groundValid config context state proposal receipt = .ok decision)
    (hremind : decision.action = .remind) :
    ∃ digests, Unblocked config context.currentEventSequence state.reminderHistory
      decision.claims digests := by
  rcases groundValid_cases config context state proposal receipt with
    ⟨reason, -, hcase⟩ | ⟨grounded, hremindable, hcase⟩
  · have haction := (silence_eq_ok (hcase ▸ h)).1
    rw [hremind] at haction
    cases haction
  · have hclaims := (remind_eq_ok (hcase ▸ h)).2 hremind
    refine ⟨grounded.map (·.digest), ?_, hremindable.nodup, ?_, hremindable.duplicates,
      hremindable.cooldown⟩
    · rw [hclaims, List.map_map, List.map_map]
      exact List.map_congr_left fun item hitem => (hremindable.resolvedClaim hitem).1
    · simpa using hremindable.length_bounds

/-! ## Grounding and replay -/

omit [Hashing] in
/-- A valid proposal passes the preflight, and is read back as itself. -/
theorem validatedProposal_argument (proposal : InterventionProposal)
    (htext : proposal.modelFreeText = none) :
    preflightProposal proposal.argument = none
      ∧ validatedProposal proposal.argument = some proposal := by
  have hvalid := proposal.valid
  simp only [InterventionProposalFields.check, constrain_bind_eq_ok, refuse_bind_eq_ok,
    refuse_eq_ok] at hvalid
  obtain ⟨hlength, -, hremind, -⟩ := hvalid
  have hpreflight : preflightProposal proposal.argument = none := by
    simp only [preflightProposal, InterventionProposal.argument]
    rw [if_neg (by simpa using hremind), if_neg (by simpa using hlength)]
    simp [htext]
  refine ⟨hpreflight, ?_⟩
  unfold validatedProposal
  rw [hpreflight]
  rfl

/-- The verdict about a valid proposal depends on the action, the claims and the confidence. -/
theorem groundValid_congr {p q : InterventionProposal} (haction : p.action = q.action)
    (hclaims : p.claims = q.claims) (hconfidence : p.confidence = q.confidence) :
    groundValid config context state p receipt = groundValid config context state q receipt := by
  simp only [groundValid, groundReminder, haction, hclaims, hconfidence]

/-- The verdict about a valid proposal, without its free text. -/
theorem ground_argument (config : GroundingConfig) (proposal : InterventionProposal)
    (htext : proposal.modelFreeText = none)
    (hinputs : groundingInputsValid context state = true) :
    ground config proposal.argument context state
      = (do
        let receipt ← groundingReceipt context .valid (some proposal.action) proposal.claims
          proposal.confidence
        groundValid config context state proposal receipt) := by
  obtain ⟨hpreflight, hvalidated⟩ := validatedProposal_argument proposal htext
  simp [ground, groundValidated, hinputs, hpreflight, hvalidated, raiseIf, bind, Except.bind]

/-- The replay of a receipt in the context it was made in: the silence of its status, or the
verdict about the proposal that it holds. -/
theorem replayReceipt_eq (config : GroundingConfig)
    (hinputs : groundingInputsValid context state = true)
    (htarget : receipt.requestedDeliveryTarget = context.requestedDeliveryTarget)
    (hprovenance : groundingProvenanceMatches context receipt = true) :
    replayReceipt config receipt context state = (match receipt.parseStatus.silenceReason with
      | none => do
        let action ← expect receipt.proposalAction .input
        let proposal ← (InterventionProposal.create
          ⟨action, receipt.claims, receipt.confidence, none⟩).mapError fun _ => .input
        ground config proposal.argument context state
      | some reason => silence config context reason receipt.confidence receipt) := by
  rw [replayReceipt, raiseIf_bind_of_not (by simp [hinputs])]
  refine (raiseIf_bind_of_not (by simp [htarget, hprovenance])).trans ?_
  cases receipt.parseStatus.silenceReason <;> rfl

/-- In a context with its receipt's provenance, the replay of a valid receipt is the verdict about
the proposal that the receipt holds. -/
theorem replayReceipt_valid {proposal : InterventionProposal}
    (hinputs : groundingInputsValid context state = true)
    (hreceipt : groundingReceipt context .valid (some proposal.action) proposal.claims
      proposal.confidence = .ok receipt) :
    replayReceipt config receipt context state
      = groundValid config context state proposal receipt := by
  obtain ⟨hstatus, haction, hclaims, hconfidence, htarget, hprovenance⟩ :=
    groundingReceipt_eq_ok hreceipt
  have hcheck : InterventionProposalFields.check
      ⟨proposal.action, proposal.claims, proposal.confidence, none⟩ = .ok () := by
    have hvalid := proposal.valid
    simp only [InterventionProposalFields.check, constrain_bind_eq_ok, refuse_bind_eq_ok,
      refuse_eq_ok] at hvalid ⊢
    exact ⟨hvalid.1, by simp, hvalid.2.2⟩
  have hreplayed := ground_argument config ⟨_, hcheck⟩ rfl hinputs
  simp only [hreceipt, bind, Except.bind] at hreplayed
  rw [replayReceipt_eq config hinputs htarget hprovenance]
  simp only [hstatus, ProposalParseStatus.silenceReason, haction, hclaims, hconfidence, expect,
    InterventionProposal.create, validate_self hcheck, Except.mapError, bind, Except.bind,
    hreplayed]
  exact groundValid_congr rfl rfl rfl

/-- `ground` returns a verdict on valid inputs, whatever it is given as a proposal. The receipt
that the verdict stores replays to the same verdict. -/
theorem replayReceipt_ground (config : GroundingConfig) (proposal : ProposalArgument)
    (hinputs : groundingInputsValid context state = true) :
    ∃ decision receipt, ground config proposal context state = .ok decision
      ∧ GroundingReceipt.modelValidateJson decision.groundingReceipt = some receipt
      ∧ replayReceipt config receipt context state = .ok decision := by
  -- a proposal that is not valid leaves a receipt that replays to its silence
  have hinvalid : ∀ (status : ProposalParseStatus) {action} (confidence) {reason},
      statusMatches status action [] confidence → status.silenceReason = some reason →
      reason ∈ silenceReasonCodes →
      ground config proposal context state = (do
        let receipt ← groundingReceipt context status action [] confidence
        silence config context reason confidence receipt) →
      ∃ decision receipt, ground config proposal context state = .ok decision
        ∧ GroundingReceipt.modelValidateJson decision.groundingReceipt = some receipt
        ∧ replayReceipt config receipt context state = .ok decision := by
    intro status action confidence reason hmatches hreason hallowed hground
    obtain ⟨receipt, hreceipt⟩ := groundingReceipt_total context (by simp) hmatches
    obtain ⟨decision, hdecision⟩ := silence_total config context confidence receipt hallowed
    obtain ⟨hstatus, -, -, hconfidence, htarget, hprovenance⟩ := groundingReceipt_eq_ok hreceipt
    refine ⟨decision, receipt, ?_, ?_, ?_⟩
    · simpa only [hground, hreceipt, bind, Except.bind] using hdecision
    · simp [(silence_eq_ok hdecision).2]
    · rw [replayReceipt_eq config hinputs htarget hprovenance, hstatus]
      simpa only [hreason, hconfidence] using hdecision
  have hguard : ¬groundingInputsValid context state = false := by simp [hinputs]
  by_cases hempty : preflightProposal proposal = some .noGroundedClaims
  · refine hinvalid .emptyReminder (safeProposalConfidence proposal) ⟨rfl, rfl⟩ rfl (by decide) ?_
    rw [ground, raiseIf_bind_of_not hguard, hempty]
  by_cases hlimit : preflightProposal proposal = some .claimOverLimit
  · refine hinvalid .claimOverLimit (safeProposalConfidence proposal) ⟨rfl, rfl⟩ rfl (by decide) ?_
    rw [ground, raiseIf_bind_of_not hguard, hlimit]
  -- otherwise the proposal is read back, or it is not valid
  have hground : ground config proposal context state
      = groundValidated config context state (validatedProposal proposal) := by
    rw [ground, raiseIf_bind_of_not hguard]
    cases hpreflight : preflightProposal proposal with
    | none => rfl
    | some reason =>
      rw [hpreflight] at hempty hlimit
      cases reason <;> first | rfl | contradiction
  cases hvalidated : validatedProposal proposal with
  | none =>
    rw [hvalidated] at hground
    exact hinvalid .schemaInvalid _ ⟨rfl, rfl, rfl⟩ rfl (by decide) hground
  | some validated =>
    have hvalid := validated.valid
    simp only [InterventionProposalFields.check, constrain_bind_eq_ok, refuse_bind_eq_ok,
      refuse_eq_ok] at hvalid
    obtain ⟨hlength, -, hremind, hsilence⟩ := hvalid
    have hmatches : statusMatches .valid (some validated.action) validated.claims
        validated.confidence := ⟨by simpa using hremind, by simpa using hsilence, by simp⟩
    obtain ⟨receipt, hreceipt⟩ := groundingReceipt_total context hlength hmatches
    obtain ⟨decision, hdecision⟩ := groundValid_total config context state receipt validated
    refine ⟨decision, receipt, ?_, ?_, ?_⟩
    · simpa only [hground, hvalidated, groundValidated, hreceipt, bind, Except.bind] using hdecision
    · simp [groundValid_receipt hdecision]
    · rw [replayReceipt_valid hinputs hreceipt, hdecision]

/-! ## What a replay looks at -/

/-- A replay that returns had valid inputs, and gave a silence or the verdict about a proposal with
the claims of the receipt. -/
theorem replayReceipt_eq_ok (h : replayReceipt config receipt context state = .ok decision) :
    groundingInputsValid context state = true
      ∧ (decision.action = .silence ∨ ∃ proposal receipt',
        groundValid config context state proposal receipt' = .ok decision) := by
  simp only [replayReceipt, raiseIf_bind_eq_ok, Bool.not_eq_false] at h
  obtain ⟨hinputs, -, h⟩ := h
  refine ⟨hinputs, ?_⟩
  split at h
  · simp only [bind_eq_ok, mapError_eq_ok] at h
    obtain ⟨action, -, proposal, hproposal, h⟩ := h
    have hfields := InterventionProposal.create_eq_ok hproposal
    rw [ground_argument _ _ (by rw [hfields]) hinputs, bind_eq_ok] at h
    obtain ⟨receipt', -, h⟩ := h
    exact .inr ⟨proposal, receipt', h⟩
  · exact .inl (silence_eq_ok h).1

/-- A replayed reminder is unblocked. -/
theorem replayReceipt_remind (h : replayReceipt config receipt context state = .ok decision)
    (hremind : decision.action = .remind) :
    ∃ digests, Unblocked config context.currentEventSequence state.reminderHistory
      decision.claims digests := by
  rcases (replayReceipt_eq_ok h).2 with hsilence | ⟨proposal, receipt', hground⟩
  · rw [hremind] at hsilence
    cases hsilence
  · exact groundValid_remind hground hremind

/-- Two states that a replay cannot tell apart: they find the same records for the citations of
the claims, and hold the same reminders within the two windows. -/
structure Indistinguishable (config : GroundingConfig) (context : GroundingContext)
    (claims : List ProposedClaim) (s t : GroundingState) : Prop where
  /-- Both are valid inputs, or none is. -/
  inputs : groundingInputsValid context s = groundingInputsValid context t
  /-- Every claim cites the same record. -/
  sources : ∀ claim ∈ claims, resolveSource claim context s config
    = resolveSource claim context t config
  /-- The reminders within the windows are the same. -/
  history : ∀ reminder : ReminderHistory, context.currentEventSequence - reminder.eventSequence
      ≤ max config.duplicateWindowEvents config.cooldownEvents →
    (reminder ∈ s.reminderHistory ↔ reminder ∈ t.reminderHistory)

omit [Hashing] in
/-- The windows see no reminder that two histories do not share. -/
theorem any_reminder_congr {current window : ℕ} {xs ys : List ReminderHistory}
    (h : ∀ reminder : ReminderHistory, current - reminder.eventSequence ≤ window →
      (reminder ∈ xs ↔ reminder ∈ ys)) {p : ReminderHistory → Bool} {w : ℕ} (hw : w ≤ window) :
    (xs.any fun reminder => current - reminder.eventSequence ≤ w && p reminder)
      = ys.any fun reminder => current - reminder.eventSequence ≤ w && p reminder := by
  rw [Bool.eq_iff_iff]
  simp only [List.any_eq_true, Bool.and_eq_true, decide_eq_true_eq]
  constructor
  · rintro ⟨reminder, hmem, hwindow, hp⟩
    exact ⟨reminder, (h reminder (hwindow.trans hw)).mp hmem, hwindow, hp⟩
  · rintro ⟨reminder, hmem, hwindow, hp⟩
    exact ⟨reminder, (h reminder (hwindow.trans hw)).mpr hmem, hwindow, hp⟩

/-- The verdict about a valid proposal is the same in indistinguishable states. -/
theorem groundValid_indistinguishable {proposal : InterventionProposal} {s t : GroundingState}
    (h : Indistinguishable config context proposal.claims s t) :
    groundValid config context s proposal receipt
      = groundValid config context t proposal receipt := by
  have hresolved : (proposal.claims.map fun item => resolveEvidence item context s config)
      = proposal.claims.map fun item => resolveEvidence item context t config :=
    List.map_congr_left fun claim hclaim => by
      simp only [resolveEvidence, h.sources claim hclaim]
  have hduplicates : ∀ digests, duplicateBlocked config context.currentEventSequence
      s.reminderHistory digests
      = duplicateBlocked config context.currentEventSequence t.reminderHistory digests :=
    fun digests => by
      simp only [duplicateBlocked]
      rw [any_reminder_congr h.history (le_max_left _ _)]
  have hcooldown : cooldownBlocked config context.currentEventSequence s.reminderHistory
      = cooldownBlocked config context.currentEventSequence t.reminderHistory := by
    have hany := any_reminder_congr h.history (p := fun _ => true)
      (le_max_right config.duplicateWindowEvents config.cooldownEvents)
    simp only [Bool.and_true] at hany
    simp only [cooldownBlocked, hany]
  simp only [groundValid, groundReminder, hresolved, hduplicates, hcooldown]

/-- A replay is the same in indistinguishable states. -/
theorem replayReceipt_indistinguishable {s t : GroundingState}
    (h : Indistinguishable config context receipt.claims s t) :
    replayReceipt config receipt context s = replayReceipt config receipt context t := by
  by_cases hinputs : groundingInputsValid context s = true
  · have hinputs' : groundingInputsValid context t = true := h.inputs ▸ hinputs
    simp only [replayReceipt, hinputs, hinputs']
    refine bind_congr_ok fun _ _ => bind_congr_ok fun _ _ => ?_
    cases receipt.parseStatus.silenceReason with
    | some reason => rfl
    | none =>
      refine bind_congr_ok fun action _ => bind_congr_ok fun proposal hproposal => ?_
      have hfields := InterventionProposal.create_eq_ok (mapError_eq_ok.mp hproposal)
      have hclaims : Indistinguishable config context proposal.claims s t := by
        rw [hfields]
        exact h
      rw [ground_argument _ _ (by rw [hfields]) hinputs,
        ground_argument _ _ (by rw [hfields]) (h.inputs ▸ hinputs)]
      simp only [groundValid_indistinguishable hclaims]
  · have hs : groundingInputsValid context s = false := by simpa using hinputs
    simp [replayReceipt, hs, ← h.inputs, raiseIf, bind, Except.bind]

end SalienceGate
