import SalienceGate.Domain.Cycles

/-!
# Claims, proposals and receipts

A proposal is what a model asks for: an action, and claims that each cite one piece of evidence.
The receipt of its grounding is stored as JSON inside the decision, and read back when the decision
is verified, so the JSON form of a receipt is a codec. A claim of a decision is materialized from
the text that its citation resolves to; its fingerprint covers the kind and the citation only.
-/

namespace SalienceGate

open Json

/-! ## The JSON forms of the parts -/

/-- The JSON form of an evidence source. -/
def EvidenceSource.codec : Codec EvidenceSource :=
  .enum [.event, .memory] EvidenceSource.value fun a => by cases a <;> decide

/-- The JSON form of a claim kind. -/
def ClaimKind.codec : Codec ClaimKind :=
  .enum [.requirement, .environmentFact, .failedAttempt, .diagnosis, .openSubgoal]
    ClaimKind.value fun a => by cases a <;> decide

/-- The JSON form of an action. -/
def InterventionAction.codec : Codec InterventionAction :=
  .enum [.silence, .remind] InterventionAction.value fun a => by cases a <;> decide

/-- The JSON form of a delivery target. -/
def DeliveryTarget.codec : Codec DeliveryTarget :=
  .enum [.nextModelCall, .preActionReplan] DeliveryTarget.value fun a => by cases a <;> decide

/-- The JSON form of a text span. -/
def TextSpan.codec : Codec TextSpan where
  dump span := .object [("end_byte", .int span.endByte), ("start_byte", .int span.startByte)]
  load
    | .object items => do
      guard (onlyMembers items ["end_byte", "start_byte"])
      let startByte ← required items "start_byte" Codec.nat.load
      let endByte ← required items "end_byte" Codec.nat.load
      (Checked.validate TextSpanFields.check TextSpan.mk { startByte, endByte }).toOption
    | _ => none
  load_dump span := by
    simp [onlyMembers, Codec.nat, Checked.validate_self span.valid, Except.toOption]
  dump_ne_null _ := nofun
  canonical_dump _ := by simp

/-- The JSON form of an evidence reference. -/
def EvidenceReference.codec : Codec EvidenceReference where
  dump reference := .object [
    ("field_path", JsonPointer.codec.dump reference.fieldPath),
    ("revision", Codec.nat.dumpNullable reference.revision),
    ("source", EvidenceSource.codec.dump reference.source),
    ("source_id", UUID4.codec.dump reference.sourceId),
    ("span", TextSpan.codec.dumpNullable reference.span)]
  load
    | .object items => do
      guard (onlyMembers items ["field_path", "revision", "source", "source_id", "span"])
      let source ← required items "source" EvidenceSource.codec.load
      let sourceId ← required items "source_id" UUID4.codec.load
      let revision ← defaulted items "revision" Codec.nat.loadNullable none
      let fieldPath ← required items "field_path" JsonPointer.codec.load
      let span ← defaulted items "span" TextSpan.codec.loadNullable none
      (Checked.validate EvidenceReferenceFields.check EvidenceReference.mk
        { source, sourceId, revision, fieldPath, span }).toOption
    | _ => none
  load_dump reference := by
    simp [onlyMembers, Checked.validate_self reference.valid, Except.toOption]
  dump_ne_null _ := nofun
  canonical_dump _ := by simp

/-! ## Proposals -/

/-- `CLAIM_SCHEMA_VERSION`. -/
def claimSchemaVersion : String := "citation-only-claims/v1"

/-- A claim that a model proposes: a kind, and one citation. -/
structure ProposedClaim where
  kind : ClaimKind
  evidence : EvidenceReference
deriving DecidableEq

/-- The JSON form of a proposed claim. -/
def ProposedClaim.codec : Codec ProposedClaim where
  dump claim := .object [("evidence", EvidenceReference.codec.dump claim.evidence),
    ("kind", ClaimKind.codec.dump claim.kind)]
  load
    | .object items => do
      guard (onlyMembers items ["evidence", "kind"])
      let kind ← required items "kind" ClaimKind.codec.load
      let evidence ← required items "evidence" EvidenceReference.codec.load
      some { kind, evidence }
    | _ => none
  load_dump claim := by simp [onlyMembers]
  dump_ne_null _ := nofun
  canonical_dump _ := by simp

/-- The most bytes of a proposal's free text. -/
def maxModelFreeTextBytes : ℕ := 4096

/-- The fields of an intervention proposal. -/
structure InterventionProposalFields where
  action : InterventionAction
  claims : List ProposedClaim
  confidence : UnitInterval
  modelFreeText : Option String
deriving DecidableEq

/-- `action_matches_claims`, after the field constraints. -/
def InterventionProposalFields.check (proposal : InterventionProposalFields) : Check := do
  constrain (proposal.claims.length ≤ 2) "claims" "too_long"
  refuse (∃ text ∈ proposal.modelFreeText, maxModelFreeTextBytes < text.utf8ByteSize)
    "model free text must be bounded UTF-8 text"
  refuse (proposal.action = .remind ∧ proposal.claims = [])
    "a remind proposal requires at least one claim"
  refuse (proposal.action = .silence ∧ proposal.claims ≠ [])
    "a silence proposal cannot carry claims"

/-- What a model asks for. -/
structure InterventionProposal extends InterventionProposalFields where
  valid : toInterventionProposalFields.check = .ok ()
deriving DecidableEq

/-- `InterventionProposal(...)`. -/
def InterventionProposal.create (fields : InterventionProposalFields) :
    Except ValidationError InterventionProposal :=
  Checked.validate InterventionProposalFields.check InterventionProposal.mk fields

/-- A proposal that was built has the fields it was built from. -/
theorem InterventionProposal.create_eq_ok {fields : InterventionProposalFields}
    {proposal : InterventionProposal} (h : InterventionProposal.create fields = .ok proposal) :
    proposal.toInterventionProposalFields = fields := by
  obtain ⟨_, rfl⟩ := Checked.validate_eq_ok.mp h
  rfl

/-! ## Selector provenance -/

/-- The fields of a selector provenance. -/
structure DeterministicSelectorProvenanceFields where
  selectorId : ComponentIdentifier
  configurationDigest : Sha256Digest
  requestDigest : Sha256Digest
  resultDigest : Sha256Digest
  provenanceDigest : Sha256Digest
deriving DecidableEq

/-- `DETERMINISTIC_SELECTOR_PROVENANCE_SCHEMA_VERSION`. -/
def selectorProvenanceSchemaVersion : String := "deterministic-selector-provenance/v1"

/-- `_selector_provenance_digest`: the digest of the fields without the digest itself. -/
def selectorProvenanceDigest [Hashing] (selectorId : ComponentIdentifier)
    (configurationDigest requestDigest resultDigest : Sha256Digest) : Sha256Digest :=
  Hashing.lengthPrefixedSha256 "saliencegate:intervention:deterministic-selector-provenance:v1"
    [.canonicalJson (.object [
      ("configuration_digest", .str configurationDigest.text),
      ("request_digest", .str requestDigest.text),
      ("result_digest", .str resultDigest.text),
      ("schema_version", .str selectorProvenanceSchemaVersion),
      ("selector_id", .str selectorId.text)])]

/-- `digest_matches`. -/
def DeterministicSelectorProvenanceFields.check [Hashing]
    (provenance : DeterministicSelectorProvenanceFields) : Check :=
  refuse (provenance.provenanceDigest ≠ selectorProvenanceDigest provenance.selectorId
      provenance.configurationDigest provenance.requestDigest provenance.resultDigest)
    "deterministic selector provenance digest does not match"

/-- The content address of a selector that is not a model. -/
structure DeterministicSelectorProvenance [Hashing] extends
    DeterministicSelectorProvenanceFields where
  valid : toDeterministicSelectorProvenanceFields.check = .ok ()
deriving DecidableEq

/-- The JSON form of a selector provenance. A missing digest is computed. -/
def DeterministicSelectorProvenance.codec [Hashing] : Codec DeterministicSelectorProvenance where
  dump provenance := .object [
    ("configuration_digest", Sha256Digest.codec.dump provenance.configurationDigest),
    ("provenance_digest", Sha256Digest.codec.dump provenance.provenanceDigest),
    ("request_digest", Sha256Digest.codec.dump provenance.requestDigest),
    ("result_digest", Sha256Digest.codec.dump provenance.resultDigest),
    ("schema_version", .str selectorProvenanceSchemaVersion),
    ("selector_id", ComponentIdentifier.codec.dump provenance.selectorId)]
  load
    | .object items => do
      guard (onlyMembers items ["configuration_digest", "provenance_digest", "request_digest",
        "result_digest", "schema_version", "selector_id"])
      let schemaVersion ← defaulted items "schema_version" Codec.str.load
        selectorProvenanceSchemaVersion
      guard (schemaVersion = selectorProvenanceSchemaVersion)
      let selectorId ← required items "selector_id" ComponentIdentifier.codec.load
      let configurationDigest ← required items "configuration_digest" Sha256Digest.codec.load
      let requestDigest ← required items "request_digest" Sha256Digest.codec.load
      let resultDigest ← required items "result_digest" Sha256Digest.codec.load
      let provenanceDigest ← defaulted items "provenance_digest" Sha256Digest.codec.load
        (selectorProvenanceDigest selectorId configurationDigest requestDigest resultDigest)
      (Checked.validate DeterministicSelectorProvenanceFields.check
        DeterministicSelectorProvenance.mk
        { selectorId, configurationDigest, requestDigest, resultDigest,
          provenanceDigest }).toOption
    | _ => none
  load_dump provenance := by
    simp [onlyMembers, Codec.str, Checked.validate_self provenance.valid, Except.toOption]
  dump_ne_null _ := nofun
  canonical_dump _ := by simp

/-! ## Receipts -/

/-- The outcome of parsing a proposal, kept for the replay of its grounding. -/
inductive ProposalParseStatus where
  | valid | emptyReminder | claimOverLimit | schemaInvalid
deriving DecidableEq

/-- The string of a member. -/
def ProposalParseStatus.value : ProposalParseStatus → String
  | .valid => "valid"
  | .emptyReminder => "empty_reminder"
  | .claimOverLimit => "claim_over_limit"
  | .schemaInvalid => "schema_invalid"

/-- The JSON form of a parse status. -/
def ProposalParseStatus.codec : Codec ProposalParseStatus :=
  .enum [.valid, .emptyReminder, .claimOverLimit, .schemaInvalid] ProposalParseStatus.value
    fun a => by cases a <;> decide

/-- The versions of a receipt: of a model call, or of a deterministic selector. -/
inductive GroundingReceiptVersion where
  | v1 | v2
deriving DecidableEq

/-- `GROUNDING_RECEIPT_VERSION` and `GROUNDING_RECEIPT_SELECTOR_VERSION`. -/
def GroundingReceiptVersion.value : GroundingReceiptVersion → String
  | .v1 => "grounding-receipt/v1"
  | .v2 => "grounding-receipt/v2"

/-- The JSON form of a receipt version. -/
def GroundingReceiptVersion.codec : Codec GroundingReceiptVersion :=
  .enum [.v1, .v2] GroundingReceiptVersion.value fun a => by cases a <;> decide

/-- The fields of a grounding receipt. -/
structure GroundingReceiptFields [Hashing] where
  receiptVersion : GroundingReceiptVersion
  parseStatus : ProposalParseStatus
  proposalAction : Option InterventionAction
  claims : List ProposedClaim
  confidence : UnitInterval
  requestedDeliveryTarget : Option DeliveryTarget
  modelCallIndex : Option ℕ := none
  modelCallDigest : Option Sha256Digest := none
  selectorProvenance : Option DeterministicSelectorProvenance := none
deriving DecidableEq

/-- A model call, given by index and digest, is the provenance exactly in one version; a selector
is it in the other. -/
def provenanceMismatch [Hashing] (modelVersion : Bool) (modelCallIndex : Option ℕ)
    (modelCallDigest : Option Sha256Digest)
    (selectorProvenance : Option DeterministicSelectorProvenance) : Prop :=
  let modelProvenance := modelCallIndex.isSome && modelCallDigest.isSome
  modelCallIndex.isNone ≠ modelCallDigest.isNone
    ∨ modelProvenance = selectorProvenance.isSome
    ∨ (modelVersion = true ∧ (modelProvenance = false ∨ selectorProvenance.isSome = true))
    ∨ (modelVersion = false ∧ (modelProvenance = true ∨ selectorProvenance.isSome = false))

instance [Hashing] (modelVersion : Bool) (modelCallIndex : Option ℕ)
    (modelCallDigest : Option Sha256Digest)
    (selectorProvenance : Option DeterministicSelectorProvenance) :
    Decidable (provenanceMismatch modelVersion modelCallIndex modelCallDigest
      selectorProvenance) :=
  inferInstanceAs (Decidable (_ ∨ _ ∨ _ ∨ _))

/-- `status_matches_sanitized_proposal`, after the field constraints. -/
def GroundingReceiptFields.check [Hashing] (receipt : GroundingReceiptFields) : Check := do
  constrain (receipt.claims.length ≤ 2) "claims" "too_long"
  constrain (∀ index ∈ receipt.modelCallIndex, index ≤ maxSigned64) "model_call_index"
    "less_than_equal"
  refuse (provenanceMismatch (receipt.receiptVersion = .v1) receipt.modelCallIndex
      receipt.modelCallDigest receipt.selectorProvenance)
    "grounding receipt provenance does not match its version"
  match receipt.parseStatus with
  | .valid =>
    refuse (receipt.proposalAction = some .remind ∧ receipt.claims = [])
      "a valid remind receipt requires claims"
    refuse (receipt.proposalAction = some .silence ∧ receipt.claims ≠ [])
      "a valid silence receipt cannot carry claims"
    refuse (receipt.proposalAction = none) "a valid receipt requires a proposal action"
  | .emptyReminder =>
    refuse (receipt.proposalAction ≠ some .remind ∨ receipt.claims ≠ [])
      "an empty-reminder receipt requires an empty remind proposal"
  | .claimOverLimit =>
    refuse (receipt.proposalAction ≠ some .remind ∨ receipt.claims ≠ [])
      "an over-limit receipt stores no unbounded claims"
  | .schemaInvalid =>
    refuse (receipt.proposalAction ≠ none ∨ receipt.claims ≠ []
        ∨ receipt.confidence ≠ UnitInterval.one)
      "a schema-invalid receipt uses the canonical rejection sentinel"

/-- The receipt of a grounding, without the free text of the model. -/
structure GroundingReceipt [Hashing] extends GroundingReceiptFields where
  valid : toGroundingReceiptFields.check = .ok ()
deriving DecidableEq

/-- `GroundingReceipt(...)`. -/
def GroundingReceipt.create [Hashing] (fields : GroundingReceiptFields) :
    Except ValidationError GroundingReceipt :=
  Checked.validate GroundingReceiptFields.check GroundingReceipt.mk fields

/-- A member that is written only when there is a value. -/
def optionalMember {α : Type} (key : String) (c : Codec α) : Option α → List (String × Json)
  | none => []
  | some a => [(key, c.dump a)]

/-- The members of the JSON form of a receipt, in key order. -/
def GroundingReceipt.members [Hashing] (receipt : GroundingReceipt) : List (String × Json) :=
  [("claims", (Codec.list ProposedClaim.codec).dump receipt.claims),
    ("confidence", UnitInterval.codec.dump receipt.confidence)]
  ++ optionalMember "model_call_digest" Sha256Digest.codec receipt.modelCallDigest
  ++ optionalMember "model_call_index" .nat receipt.modelCallIndex
  ++ [("parse_status", ProposalParseStatus.codec.dump receipt.parseStatus),
    ("proposal_action", InterventionAction.codec.dumpNullable receipt.proposalAction),
    ("receipt_version", GroundingReceiptVersion.codec.dump receipt.receiptVersion),
    ("requested_delivery_target",
      DeliveryTarget.codec.dumpNullable receipt.requestedDeliveryTarget)]
  ++ optionalMember "selector_provenance" DeterministicSelectorProvenance.codec
    receipt.selectorProvenance

/-- The members of a receipt are in key order and well-formed. -/
theorem GroundingReceipt.canonical_members [Hashing] (receipt : GroundingReceipt) :
    (Json.object receipt.members).canonical = true := by
  unfold GroundingReceipt.members
  cases receipt.modelCallDigest <;> cases receipt.modelCallIndex <;>
    cases receipt.selectorProvenance <;> simp [optionalMember]

/-- The JSON form of a receipt. -/
def GroundingReceipt.codec [Hashing] : Codec GroundingReceipt where
  dump receipt := .object receipt.members
  load
    | .object items => do
      guard (onlyMembers items ["claims", "confidence", "model_call_digest", "model_call_index",
        "parse_status", "proposal_action", "receipt_version", "requested_delivery_target",
        "selector_provenance"])
      let receiptVersion ← required items "receipt_version" GroundingReceiptVersion.codec.load
      let parseStatus ← required items "parse_status" ProposalParseStatus.codec.load
      let proposalAction ← required items "proposal_action"
        InterventionAction.codec.loadNullable
      let claims ← required items "claims" (Codec.list ProposedClaim.codec).load
      let confidence ← required items "confidence" UnitInterval.codec.load
      let requestedDeliveryTarget ← required items "requested_delivery_target"
        DeliveryTarget.codec.loadNullable
      let modelCallIndex ← defaulted items "model_call_index" Codec.nat.loadNullable none
      let modelCallDigest ← defaulted items "model_call_digest"
        Sha256Digest.codec.loadNullable none
      let selectorProvenance ← defaulted items "selector_provenance"
        DeterministicSelectorProvenance.codec.loadNullable none
      (GroundingReceipt.create ⟨receiptVersion, parseStatus, proposalAction, claims, confidence,
        requestedDeliveryTarget, modelCallIndex, modelCallDigest, selectorProvenance⟩).toOption
    | _ => none
  load_dump receipt := by
    obtain ⟨⟨_, _, _, _, _, _, index, digest, selector⟩, valid⟩ := receipt
    unfold GroundingReceipt.members
    cases index <;> cases digest <;> cases selector <;>
      simp [onlyMembers, optionalMember, GroundingReceipt.create,
        Checked.validate_self valid, Except.toOption]
  dump_ne_null _ := nofun
  canonical_dump := GroundingReceipt.canonical_members

/-- `receipt.model_dump(mode="json")`. -/
def GroundingReceipt.modelDump [Hashing] (receipt : GroundingReceipt) : JsonObject :=
  ⟨receipt.members, receipt.canonical_members⟩

/-- `GroundingReceipt.model_validate_json(canonical_json(object))`. -/
def GroundingReceipt.modelValidateJson [Hashing] (object : JsonObject) :
    Option GroundingReceipt :=
  GroundingReceipt.codec.load object.json

/-- A stored receipt is read back. -/
@[simp] theorem GroundingReceipt.modelValidateJson_modelDump [Hashing]
    (receipt : GroundingReceipt) :
    GroundingReceipt.modelValidateJson receipt.modelDump = some receipt :=
  GroundingReceipt.codec.load_dump receipt

/-! ## Materialized claims -/

/-- `_FIELD_BY_KIND`. -/
def fieldByKind : ClaimKind → String
  | .requirement => "requirement"
  | .environmentFact => "fact"
  | .failedAttempt => "attempt"
  | .diagnosis => "diagnosis"
  | .openSubgoal => "subgoal"

/-- `materialize_claim`: a claim whose only text is the text that its citation resolved to. A valid
proposed claim always has one. -/
def materializeClaim (proposed : ProposedClaim) (sourceText : String) : InterventionClaim where
  kind := proposed.kind
  fields := ⟨[(fieldByKind proposed.kind, .str sourceText)], by simp⟩
  evidence := [proposed.evidence]
  valid := by simp [InterventionClaimFields.check]

/-- `grounded_claim_text`: the text of a materialized claim. -/
def groundedClaimText (claim : InterventionClaim) : Option String :=
  match claim.evidence, claim.fields.items with
  | [_], [(key, .str text)] => if key = fieldByKind claim.kind then some text else none
  | _, _ => none

/-- `claim_fingerprint`: the digest of the kind and the only citation of a claim. -/
def claimFingerprint [Hashing] (claim : InterventionClaim) : Option Sha256Digest :=
  match claim.evidence with
  | [evidence] => some (Hashing.lengthPrefixedSha256
      "saliencegate:intervention:claim-fingerprint:v1"
      [.canonicalJson (.object [
        ("claim_schema_version", .str claimSchemaVersion),
        ("evidence", EvidenceReference.codec.dump evidence),
        ("kind", ClaimKind.codec.dump claim.kind)])])
  | _ => none

/-- The text of a claim is the one it was materialized from. -/
@[simp] theorem groundedClaimText_materializeClaim (proposed : ProposedClaim) (text : String) :
    groundedClaimText (materializeClaim proposed text) = some text := by
  simp [groundedClaimText, materializeClaim]

end SalienceGate
