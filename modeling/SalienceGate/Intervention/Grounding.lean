import SalienceGate.Intervention.Rendering

/-!
# The grounding pipeline

`ground` turns a proposal into a verdict: it resolves every citation against the state, checks the
reminder against the history, and renders it. `replayReceipt` runs the pipeline again from the
receipt of a verdict, and `verifyGroundedIntervention` compares what it gives with a stored
verdict.
-/

namespace SalienceGate

open Checked Json

/-! ## Configuration -/

/-- The most records of a grounding state. -/
def maxStateRecords : ℕ := 10000

/-- The most reminders of a grounding state, and the longest window. -/
def maxReminderHistory : ℕ := 10000

/-- `GROUNDING_PIPELINE_VERSION`. -/
def groundingPipelineVersion : ComponentIdentifier := ⟨"grounding-pipeline/v1", by decide⟩

/-- `exact_unique_targets`: the selected targets, in the order of the enumeration. -/
def orderedTargets (targets : List DeliveryTarget) : List DeliveryTarget :=
  [DeliveryTarget.nextModelCall, .preActionReplan].filter (· ∈ targets)

/-- The fields of a grounding configuration. -/
structure GroundingConfigFields where
  maxClaims : ℕ
  maxPointerSegments : ℕ
  maxPointerUtf8Bytes : ℕ
  duplicateWindowEvents : ℕ
  cooldownEvents : ℕ
  allowedDeliveryTargets : List DeliveryTarget
  rendering : RenderingConfig
deriving DecidableEq

/-- `rendering_accepts_grounding_claim_limit`, after the field constraints. -/
def GroundingConfigFields.check (config : GroundingConfigFields) : Check := do
  constrain (1 ≤ config.maxClaims) "max_claims" "greater_than_equal"
  constrain (config.maxClaims ≤ 2) "max_claims" "less_than_equal"
  constrain (1 ≤ config.maxPointerSegments) "max_pointer_segments" "greater_than_equal"
  constrain (config.maxPointerSegments ≤ 32) "max_pointer_segments" "less_than_equal"
  constrain (1 ≤ config.maxPointerUtf8Bytes) "max_pointer_utf8_bytes" "greater_than_equal"
  constrain (config.maxPointerUtf8Bytes ≤ 1024) "max_pointer_utf8_bytes" "less_than_equal"
  constrain (config.duplicateWindowEvents ≤ maxReminderHistory) "duplicate_window_events"
    "less_than_equal"
  constrain (config.cooldownEvents ≤ maxReminderHistory) "cooldown_events" "less_than_equal"
  constrain (1 ≤ config.allowedDeliveryTargets.length) "allowed_delivery_targets" "too_short"
  refuse (¬config.allowedDeliveryTargets.Nodup) "delivery targets must be an exact unique tuple"
  constrain (orderedTargets config.allowedDeliveryTargets = config.allowedDeliveryTargets)
    "allowed_delivery_targets" "not_canonical"
  refuse (config.rendering.maxClaims < config.maxClaims)
    "renderer claim limit cannot be below grounding claim limit"

/-- The limits and windows of the pipeline. -/
structure GroundingConfig extends GroundingConfigFields where
  valid : toGroundingConfigFields.check = .ok ()
deriving DecidableEq

/-- `GroundingConfig(...)`: a list of distinct targets is put in order, then the check runs. -/
def GroundingConfig.create (fields : GroundingConfigFields) :
    Except ValidationError GroundingConfig := do
  refuse (¬fields.allowedDeliveryTargets.Nodup) "delivery targets must be an exact unique tuple"
  validate GroundingConfigFields.check GroundingConfig.mk
    { fields with allowedDeliveryTargets := orderedTargets fields.allowedDeliveryTargets }

/-- Creating a configuration from the fields of one gives it back. -/
theorem GroundingConfig.create_self (config : GroundingConfig) :
    GroundingConfig.create config.toGroundingConfigFields = .ok config := by
  have hvalid := config.valid
  simp only [GroundingConfigFields.check, constrain_bind_eq_ok, refuse_bind_eq_ok] at hvalid
  obtain ⟨-, -, -, -, -, -, -, -, -, hnodup, hordered, -⟩ := hvalid
  rw [GroundingConfig.create, refuse_bind_eq_ok, hordered]
  exact ⟨hnodup, validate_self config.valid⟩

/-- The JSON form of a grounding configuration. -/
def GroundingConfig.codec : Codec GroundingConfig where
  dump config := .object [
    ("allowed_delivery_targets",
      (Codec.list DeliveryTarget.codec).dump config.allowedDeliveryTargets),
    ("claim_schema_version", .str claimSchemaVersion),
    ("cooldown_events", .int config.cooldownEvents),
    ("duplicate_window_events", .int config.duplicateWindowEvents),
    ("max_claims", .int config.maxClaims),
    ("max_evidence_per_claim", .int 1),
    ("max_pointer_segments", .int config.maxPointerSegments),
    ("max_pointer_utf8_bytes", .int config.maxPointerUtf8Bytes),
    ("pipeline_version", .str groundingPipelineVersion.text),
    ("rendering", RenderingConfig.codec.dump config.rendering),
    ("schema_version", .str "1.0"),
    ("ttl_steps", .int 1)]
  load
    | .object items => do
      guard (onlyMembers items ["allowed_delivery_targets", "claim_schema_version",
        "cooldown_events", "duplicate_window_events", "max_claims", "max_evidence_per_claim",
        "max_pointer_segments", "max_pointer_utf8_bytes", "pipeline_version", "rendering",
        "schema_version", "ttl_steps"])
      guard ((← required items "schema_version" Codec.str.load) = "1.0")
      guard ((← required items "pipeline_version" Codec.str.load) = groundingPipelineVersion.text)
      guard ((← required items "claim_schema_version" Codec.str.load) = claimSchemaVersion)
      guard ((← required items "max_evidence_per_claim" Codec.nat.load) = 1)
      guard ((← required items "ttl_steps" Codec.nat.load) = 1)
      let maxClaims ← required items "max_claims" Codec.nat.load
      let maxPointerSegments ← required items "max_pointer_segments" Codec.nat.load
      let maxPointerUtf8Bytes ← required items "max_pointer_utf8_bytes" Codec.nat.load
      let duplicateWindowEvents ← required items "duplicate_window_events" Codec.nat.load
      let cooldownEvents ← required items "cooldown_events" Codec.nat.load
      let allowedDeliveryTargets ← required items "allowed_delivery_targets"
        (Codec.list DeliveryTarget.codec).load
      let rendering ← required items "rendering" RenderingConfig.codec.load
      (GroundingConfig.create ⟨maxClaims, maxPointerSegments, maxPointerUtf8Bytes,
        duplicateWindowEvents, cooldownEvents, allowedDeliveryTargets, rendering⟩).toOption
    | _ => none
  load_dump config := by
    simp [onlyMembers, Codec.str, Codec.nat, GroundingConfig.create_self config, Except.toOption]
  dump_ne_null _ := nofun
  canonical_dump _ := by simp

/-- `configuration.model_dump(mode="json")`. -/
def GroundingConfig.modelDump (config : GroundingConfig) : JsonObject where
  items := match GroundingConfig.codec.dump config with
    | .object items => items
    | _ => []
  canonical := GroundingConfig.codec.canonical_dump config

/-- `GroundingConfig.model_validate_json(canonical_json(object))`. -/
def GroundingConfig.modelValidateJson (object : JsonObject) : Option GroundingConfig :=
  GroundingConfig.codec.load object.json

/-- A stored configuration is read back. -/
@[simp] theorem GroundingConfig.modelValidateJson_modelDump (config : GroundingConfig) :
    GroundingConfig.modelValidateJson config.modelDump = some config :=
  GroundingConfig.codec.load_dump config

/-- A configuration with its digest. -/
structure ResolvedGroundingConfiguration where
  pipelineVersion : ComponentIdentifier
  configuration : JsonObject
  configurationDigest : Sha256Digest
deriving DecidableEq

/-- `resolve_grounding_configuration`. A valid configuration always resolves. -/
def resolveGroundingConfiguration [Hashing] (config : GroundingConfig) :
    ResolvedGroundingConfiguration where
  pipelineVersion := groundingPipelineVersion
  configuration := config.modelDump
  configurationDigest := Hashing.lengthPrefixedSha256 "saliencegate:grounding:configuration:v1"
    [.text groundingPipelineVersion.text, .canonicalJson config.modelDump.json]

/-! ## Context and state -/

/-- The fields of a grounding context. `modelSchema` is schema version `"1.0"`, of a model call;
the other is `"2.0"`, of a selector. -/
structure GroundingContextFields [Hashing] where
  modelSchema : Bool
  interventionId : UUID4
  runId : UUID4
  cycleId : Sha256Digest
  currentEventSequence : ℕ
  createdAt : UtcDatetime
  requestedDeliveryTarget : Option DeliveryTarget
  modelCallIndex : Option ℕ := none
  modelCallDigest : Option Sha256Digest := none
  selectorProvenance : Option DeterministicSelectorProvenance := none
deriving DecidableEq

/-- `provenance_matches_schema`, after the field constraints. -/
def GroundingContextFields.check [Hashing] (context : GroundingContextFields) : Check := do
  constrain (1 ≤ context.currentEventSequence) "current_event_sequence" "greater_than_equal"
  constrain (context.currentEventSequence ≤ maxSigned64) "current_event_sequence"
    "less_than_equal"
  constrain (∀ index ∈ context.modelCallIndex, index ≤ maxSigned64) "model_call_index"
    "less_than_equal"
  refuse (provenanceMismatch context.modelSchema context.modelCallIndex context.modelCallDigest
      context.selectorProvenance)
    "grounding context provenance does not match its schema"

/-- What a verdict is grounded for. -/
structure GroundingContext [Hashing] extends GroundingContextFields where
  valid : toGroundingContextFields.check = .ok ()
deriving DecidableEq

/-- `GroundingContext(...)`. -/
def GroundingContext.create [Hashing] (fields : GroundingContextFields) :
    Except ValidationError GroundingContext :=
  validate GroundingContextFields.check GroundingContext.mk fields

/-- The fields of a reminder in the history. -/
structure ReminderHistoryFields where
  interventionId : UUID4
  runId : UUID4
  eventSequence : ℕ
  claimDigests : List Sha256Digest
deriving DecidableEq

/-- `exact_unique_digests`, after the field constraints. -/
def ReminderHistoryFields.check (history : ReminderHistoryFields) : Check := do
  constrain (1 ≤ history.eventSequence) "event_sequence" "greater_than_equal"
  constrain (history.eventSequence ≤ maxSigned64) "event_sequence" "less_than_equal"
  constrain (1 ≤ history.claimDigests.length) "claim_digests" "too_short"
  constrain (history.claimDigests.length ≤ 2) "claim_digests" "too_long"
  refuse (¬history.claimDigests.Nodup) "claim digests must be an exact unique tuple"

/-- An earlier reminder of the run. -/
structure ReminderHistory extends ReminderHistoryFields where
  valid : toReminderHistoryFields.check = .ok ()
deriving DecidableEq

/-- `ReminderHistory(...)`. -/
def ReminderHistory.create (fields : ReminderHistoryFields) :
    Except ValidationError ReminderHistory :=
  validate ReminderHistoryFields.check ReminderHistory.mk fields

/-- The fields of a grounding state. -/
structure GroundingStateFields where
  events : List TraceEvent
  memories : List MemoryRecord
  reminderHistory : List ReminderHistory
deriving DecidableEq

/-- `indexes_are_unambiguous`, after the field constraints. -/
def GroundingStateFields.check (state : GroundingStateFields) : Check := do
  constrain (state.events.length ≤ maxStateRecords) "events" "too_long"
  constrain (state.memories.length ≤ maxStateRecords) "memories" "too_long"
  constrain (state.reminderHistory.length ≤ maxReminderHistory) "reminder_history" "too_long"
  refuse (¬(state.events.map (·.eventId)).Nodup) "grounding events must have unique IDs"
  refuse (¬(state.events.map fun event => (event.runId, event.sequence)).Nodup)
    "grounding events must have unique run sequences"
  refuse (¬(state.memories.map (·.memoryId)).Nodup) "grounding memories must have unique IDs"
  refuse (¬(state.reminderHistory.map (·.interventionId)).Nodup)
    "reminder history must have unique intervention IDs"

/-- What a verdict is grounded in. -/
structure GroundingState extends GroundingStateFields where
  valid : toGroundingStateFields.check = .ok ()
deriving DecidableEq

/-- `GroundingState(...)`. -/
def GroundingState.create (fields : GroundingStateFields) :
    Except ValidationError GroundingState :=
  validate GroundingStateFields.check GroundingState.mk fields

/-- The grounding errors. A validation error comes from a record that the pipeline builds. -/
inductive GroundingError where
  | configuration | input | verification
  | validation (error : ValidationError)
deriving DecidableEq

/-- The message of an error. -/
def GroundingError.message : GroundingError → String
  | .configuration => "grounding configuration failed validation"
  | .input => "grounding runtime input failed validation"
  | .verification => "grounded intervention failed authoritative verification"
  | .validation (.constraint field type) => field ++ ": " ++ type
  | .validation (.validator message) => message

/-- A record that the pipeline builds. -/
def built {α : Type} (result : Except ValidationError α) : Except GroundingError α :=
  result.mapError .validation

/-- `_validated_grounding_inputs`: the state has the current event, not after the context, and
only earlier reminders of the run. -/
def groundingInputsValid [Hashing] (context : GroundingContext) (state : GroundingState) : Bool :=
  match state.events.filter fun event =>
      event.runId = context.runId && event.sequence = context.currentEventSequence with
  | [current] => current.timestamp ≤ context.createdAt
      && state.reminderHistory.all fun history =>
        history.runId = context.runId && history.eventSequence < context.currentEventSequence
  | _ => false

/-! ## Resolving citations -/

/-- `_CLAIM_MEMORY_KINDS`. -/
def claimMemoryKind : ClaimKind → MemoryKind
  | .requirement | .environmentFact => .knowledge
  | .failedAttempt | .diagnosis => .procedural
  | .openSubgoal => .privateStatus

/-- `segment.replace`, of a tilde and a digit by a character. -/
def replaceEscape (digit replacement : Char) : List Char → List Char
  | [] => []
  | [c] => [c]
  | c :: d :: cs =>
    if c = '~' ∧ d = digit then replacement :: replaceEscape digit replacement cs
    else c :: replaceEscape digit replacement (d :: cs)

/-- `_decode_pointer`. -/
def decodePointer (pointer : String) (config : GroundingConfig) : Option (List String) :=
  let rawSegments := (pointer.toList.splitOn '/').drop 1
  if config.maxPointerUtf8Bytes < pointer.utf8ByteSize then none
  else if rawSegments = [] ∨ config.maxPointerSegments < rawSegments.length then none
  else some (rawSegments.map fun segment =>
    String.ofList (replaceEscape '0' '~' (replaceEscape '1' '/' segment)))

/-- `_POINTER_INDEX`, and the index it matches. -/
def pointerIndex? (segment : String) : Option ℕ :=
  match segment.toList with
  | [] => none
  | c :: cs =>
    if (c :: cs).all Char.isDigit && (c ≠ '0' || cs.isEmpty) then
      some ((c :: cs).foldl (fun n d => 10 * n + (d.toNat - 48)) 0)
    else none

/-- The value that the segments of a pointer lead to. -/
def walkPointer : Json → List String → Option Json
  | value, [] => some value
  | .object items, segment :: segments =>
    match member items segment with
    | none => none
    | some value => walkPointer value segments
  | .list items, segment :: segments =>
    match (pointerIndex? segment).bind (items[·]?) with
    | none => none
    | some value => walkPointer value segments
  | _, _ :: _ => none

/-- `_resolve_pointer`. -/
def resolvePointer (root : Json) (pointer : String) (config : GroundingConfig) : Option String :=
  match (decodePointer pointer config).bind (walkPointer root) with
  | some (.str text) => some text
  | _ => none

/-- The most code points of a source text. -/
def maxSourceCodePoints : ℕ := 1000000

/-- `_select_span`. -/
def selectSpan (text : String) (reference : EvidenceReference) : Option String :=
  if text = "" ∨ maxSourceCodePoints < text.length then none
  else match reference.span with
    | none => some text
    | some span =>
      let encoded := utf8Bytes text
      if encoded.length < span.endByte then none
      else
        let selected := (encoded.take span.endByte).drop span.startByte
        (String.fromUTF8? ⟨selected.toArray⟩).filter (· ≠ "")

/-- A claim whose citation resolved. -/
structure ResolvedClaim where
  claim : InterventionClaim
  text : String
  origin : TrustLabel
  digest : Sha256Digest
deriving DecidableEq

/-- The text and origin that a memory citation resolves to. -/
def resolveMemory [Hashing] (proposed : ProposedClaim) (context : GroundingContext)
    (record : MemoryRecord) : Except ReasonCode (Option String × TrustLabel) := do
  raiseIf (record.runId ≠ context.runId) .citationCrossRun
  raiseIf (record.validity = .expired ∨ ∃ t ∈ record.expiresAt, t ≤ context.createdAt)
    .citationExpired
  raiseIf (record.validity = .invalidated ∨ record.validity = .superseded) .citationInvalidated
  raiseIf (record.validity ≠ .active ∨ proposed.evidence.revision ≠ some record.revision
      ∨ proposed.evidence.fieldPath.text ≠ "/content" ∨ context.createdAt < record.updatedAt
      ∨ record.kind ≠ claimMemoryKind proposed.kind)
    .invalidProvenance
  pure (selectSpan record.content.text proposed.evidence, record.trustLabel)

/-- The text and origin that an event citation resolves to. -/
def resolveEvent [Hashing] (proposed : ProposedClaim) (context : GroundingContext)
    (config : GroundingConfig) (event : TraceEvent) :
    Except ReasonCode (Option String × TrustLabel) := do
  raiseIf (event.runId ≠ context.runId) .citationCrossRun
  raiseIf (context.currentEventSequence < event.sequence ∨ context.createdAt < event.timestamp
      ∨ ¬"/payload/".toList <+: proposed.evidence.fieldPath.text.toList)
    .invalidProvenance
  let selected := resolvePointer (.object [("payload", event.payload.json)])
    proposed.evidence.fieldPath.text config
  pure (selected.bind fun text => selectSpan text proposed.evidence, event.trustLabel)

/-- The text and origin that a citation resolves to. -/
def resolveSource [Hashing] (proposed : ProposedClaim) (context : GroundingContext)
    (state : GroundingState) (config : GroundingConfig) :
    Except ReasonCode (Option String × TrustLabel) :=
  match proposed.evidence.source with
  | .memory => do
    let record ← expect (state.memories.find? (·.memoryId = proposed.evidence.sourceId))
      .citationMissing
    resolveMemory proposed context record
  | .event => do
    let event ← expect (state.events.find? (·.eventId = proposed.evidence.sourceId))
      .citationMissing
    resolveEvent proposed context config event

/-- `_resolve_evidence`. -/
def resolveEvidence [Hashing] (proposed : ProposedClaim) (context : GroundingContext)
    (state : GroundingState) (config : GroundingConfig) : Except ReasonCode ResolvedClaim := do
  let source ← resolveSource proposed context state config
  let text ← expect source.1 .invalidProvenance
  raiseIf (config.rendering.maxEvidenceBytes < text.utf8ByteSize) .claimOverLimit
  let claim := materializeClaim proposed text
  let digest ← expect (claimFingerprint claim) .invalidProvenance
  pure { claim, text, origin := source.2, digest }

/-! ## Proposals as arguments -/

/-- An object whose type is `InterventionProposal`, with the attributes as `ground` can see them:
none stands for an attribute that is missing or of another type. -/
structure ProposalObject where
  /-- `value.action`, if it is an action. -/
  action : Option InterventionAction
  /-- For each item of `value.claims`, if that is a tuple, whether it is a `ProposedClaim`. -/
  claims : Option (List Bool)
  /-- `value.confidence`, if it is a float. -/
  confidence : Option Float64
  /-- `value.model_free_text`, if it is `None` or a string. -/
  modelFreeText : Option (Option String)
  /-- The proposal that the JSON form of the object is read as, if it equals the object. -/
  revalidated : Option InterventionProposal

/-- What `ground` may be called with as a proposal. -/
inductive ProposalArgument where
  | foreign
  | proposal (value : ProposalObject)

/-- A valid proposal as an argument. -/
def InterventionProposal.argument (proposal : InterventionProposal) : ProposalArgument :=
  .proposal {
    action := some proposal.action
    claims := some (proposal.claims.map fun _ => true)
    confidence := some proposal.confidence.value
    modelFreeText := some proposal.modelFreeText
    revalidated := some proposal }

/-- `_MAX_MODEL_FREE_TEXT_CODE_POINTS`. -/
def maxModelFreeTextCodePoints : ℕ := 16384

/-- `_preflight_proposal`. -/
def preflightProposal : ProposalArgument → Option ReasonCode
  | .foreign => some .schemaInvalid
  | .proposal value =>
    match value.action, value.claims with
    | some action, some claims =>
      if action = .remind ∧ claims = [] then some .noGroundedClaims
      else if 2 < claims.length then some .claimOverLimit
      else if value.confidence = none then some .schemaInvalid
      else match value.modelFreeText with
        | none => some .schemaInvalid
        | some text =>
          if ∃ t ∈ text, maxModelFreeTextCodePoints < t.length then some .schemaInvalid
          else if false ∈ claims then some .schemaInvalid
          else none
    | _, _ => some .schemaInvalid

/-- `_validated_proposal`. -/
def validatedProposal (argument : ProposalArgument) : Option InterventionProposal :=
  match preflightProposal argument, argument with
  | none, .proposal value => value.revalidated
  | _, _ => none

/-- `_safe_proposal_confidence`. -/
def safeProposalConfidence : ProposalArgument → UnitInterval
  | .foreign => UnitInterval.one
  | .proposal value =>
    match value.confidence with
    | none => UnitInterval.one
    | some x => if h : x.inUnit = true then ⟨x, h⟩ else UnitInterval.one

/-! ## The pipeline -/

section Pipeline

variable [Hashing]

/-- `_grounding_receipt`. -/
def groundingReceipt (context : GroundingContext) (parseStatus : ProposalParseStatus)
    (proposalAction : Option InterventionAction) (claims : List ProposedClaim)
    (confidence : UnitInterval) : Except GroundingError GroundingReceipt :=
  built (GroundingReceipt.create {
    receiptVersion := if context.modelSchema then .v1 else .v2
    parseStatus, proposalAction, claims, confidence
    requestedDeliveryTarget := context.requestedDeliveryTarget
    modelCallIndex := context.modelCallIndex
    modelCallDigest := context.modelCallDigest
    selectorProvenance := context.selectorProvenance })

/-- `GroundingPipeline._silence`. -/
def silence (config : GroundingConfig) (context : GroundingContext) (reason : ReasonCode)
    (confidence : UnitInterval) (receipt : GroundingReceipt) :
    Except GroundingError InterventionDecision :=
  built (InterventionDecision.create {
    interventionId := context.interventionId
    runId := context.runId
    cycleId := context.cycleId
    groundingVersion := groundingPipelineVersion
    groundingConfiguration := (resolveGroundingConfiguration config).configuration
    groundingConfigurationDigest := (resolveGroundingConfiguration config).configurationDigest
    groundingReceipt := receipt.modelDump
    action := .silence
    confidence
    reasonCode := reason
    ttlSteps := 0
    createdAt := context.createdAt })

/-- `_CITATION_REASON_PRECEDENCE`. -/
def citationReasonPrecedence : List ReasonCode :=
  [.citationMissing, .citationCrossRun, .citationExpired, .citationInvalidated,
    .invalidProvenance, .claimOverLimit]

/-- The reasons of the citations that did not resolve. -/
def citationFailures (resolved : List (Except ReasonCode ResolvedClaim)) : List ReasonCode :=
  resolved.filterMap fun
    | .error reason => some reason
    | .ok _ => none

/-- The claims whose citations resolved. -/
def groundedClaims (resolved : List (Except ReasonCode ResolvedClaim)) : List ResolvedClaim :=
  resolved.filterMap (·.toOption)

/-- A reminder of the history within the duplicate window shares a digest. -/
def duplicateBlocked (config : GroundingConfig) (current : ℕ) (history : List ReminderHistory)
    (digests : List Sha256Digest) : Bool :=
  0 < config.duplicateWindowEvents && history.any fun reminder =>
    current - reminder.eventSequence ≤ config.duplicateWindowEvents
      && digests.any (· ∈ reminder.claimDigests)

/-- A reminder of the history is within the cooldown. -/
def cooldownBlocked (config : GroundingConfig) (current : ℕ) (history : List ReminderHistory) :
    Bool :=
  0 < config.cooldownEvents && history.any fun reminder =>
    current - reminder.eventSequence ≤ config.cooldownEvents

/-- A resolved claim as the renderer takes it. -/
def GroundedClaim.ofResolved (item : ResolvedClaim) : Option GroundedClaim :=
  if h : groundedClaimText item.claim = some item.text then
    some ⟨item.claim, item.text, item.origin, h⟩
  else none

/-- The rendered reminder of `ground`: the claims in their frame, or the verdict to stay silent
when the text is over a limit. -/
def remind (config : GroundingConfig) (context : GroundingContext) (confidence : UnitInterval)
    (receipt : GroundingReceipt) (grounded : List ResolvedClaim) :
    Except GroundingError InterventionDecision := do
  let renderedClaims ← expect (grounded.mapM GroundedClaim.ofResolved)
    (.validation (.validator "claim source-derived field validation failed"))
  match renderReminder config.rendering renderedClaims with
  | .error _ => silence config context .claimOverLimit confidence receipt
  | .ok rendered =>
    let claims := grounded.map (·.claim)
    built (InterventionDecision.create {
      interventionId := context.interventionId
      runId := context.runId
      cycleId := context.cycleId
      groundingVersion := groundingPipelineVersion
      groundingConfiguration := (resolveGroundingConfiguration config).configuration
      groundingConfigurationDigest := (resolveGroundingConfiguration config).configurationDigest
      groundingReceipt := receipt.modelDump
      action := .remind
      deliveryTarget := context.requestedDeliveryTarget
      claims
      renderedText := if h : rendered ≠ "" then some ⟨rendered, h⟩ else none
      citedMemoryIds := citedIds claims .memory
      citedEventIds := citedIds claims .event
      confidence
      reasonCode := .groundedReminder
      ttlSteps := 1
      createdAt := context.createdAt })

/-- The part of `ground` that looks at the state: the citations, the history and the rendering of a
reminder for an allowed target. -/
def groundReminder (config : GroundingConfig) (context : GroundingContext)
    (state : GroundingState) (proposal : InterventionProposal) (receipt : GroundingReceipt) :
    Except GroundingError InterventionDecision :=
  let resolved := proposal.claims.map fun item => resolveEvidence item context state config
  let failures := citationFailures resolved
  let grounded := groundedClaims resolved
  let digests := grounded.map (·.digest)
  match citationReasonPrecedence.find? (· ∈ failures) with
  | some reason => silence config context reason proposal.confidence receipt
  | none =>
    if ¬digests.Nodup then
      silence config context .duplicateReminder proposal.confidence receipt
    else if duplicateBlocked config context.currentEventSequence state.reminderHistory digests then
      silence config context .duplicateReminder proposal.confidence receipt
    else if cooldownBlocked config context.currentEventSequence state.reminderHistory then
      silence config context .cooldownBlocked proposal.confidence receipt
    else remind config context proposal.confidence receipt grounded

/-- The part of `ground` after a valid proposal got its receipt. -/
def groundValid (config : GroundingConfig) (context : GroundingContext) (state : GroundingState)
    (proposal : InterventionProposal) (receipt : GroundingReceipt) :
    Except GroundingError InterventionDecision :=
  if proposal.action = .silence then
    silence config context .silenceSelected proposal.confidence receipt
  else if ∀ target ∈ context.requestedDeliveryTarget, target ∉ config.allowedDeliveryTargets then
    silence config context .unsupportedDeliveryTarget proposal.confidence receipt
  else if config.maxClaims < proposal.claims.length then
    silence config context .claimOverLimit proposal.confidence receipt
  else groundReminder config context state proposal receipt

/-- The rest of `ground`, after the preflight: the verdict about the proposal, if it validates. -/
def groundValidated (config : GroundingConfig) (context : GroundingContext)
    (state : GroundingState) :
    Option InterventionProposal → Except GroundingError InterventionDecision
  | none => do
    let receipt ← groundingReceipt context .schemaInvalid none [] UnitInterval.one
    silence config context .schemaInvalid UnitInterval.one receipt
  | some validated => do
    let receipt ← groundingReceipt context .valid (some validated.action) validated.claims
      validated.confidence
    groundValid config context state validated receipt

/-- `GroundingPipeline.ground`. -/
def ground (config : GroundingConfig) (proposal : ProposalArgument) (context : GroundingContext)
    (state : GroundingState) : Except GroundingError InterventionDecision := do
  raiseIf (groundingInputsValid context state = false) .input
  let confidence := safeProposalConfidence proposal
  match preflightProposal proposal with
  | some .noGroundedClaims =>
    let receipt ← groundingReceipt context .emptyReminder (some .remind) [] confidence
    silence config context .noGroundedClaims confidence receipt
  | some .claimOverLimit =>
    let receipt ← groundingReceipt context .claimOverLimit (some .remind) [] confidence
    silence config context .claimOverLimit confidence receipt
  | _ => groundValidated config context state (validatedProposal proposal)

/-- `_grounding_provenance_matches`. -/
def groundingProvenanceMatches (context : GroundingContext) (receipt : GroundingReceipt) : Bool :=
  context.modelSchema = decide (receipt.receiptVersion = .v1)
    && receipt.modelCallIndex = context.modelCallIndex
    && receipt.modelCallDigest = context.modelCallDigest
    && receipt.selectorProvenance = context.selectorProvenance

/-- The silence of a receipt whose proposal was not valid. -/
def ProposalParseStatus.silenceReason : ProposalParseStatus → Option ReasonCode
  | .valid => none
  | .emptyReminder => some .noGroundedClaims
  | .claimOverLimit => some .claimOverLimit
  | .schemaInvalid => some .schemaInvalid

/-- `GroundingPipeline.replay_receipt`. -/
def replayReceipt (config : GroundingConfig) (receipt : GroundingReceipt)
    (context : GroundingContext) (state : GroundingState) :
    Except GroundingError InterventionDecision := do
  raiseIf (groundingInputsValid context state = false) .input
  raiseIf (receipt.requestedDeliveryTarget ≠ context.requestedDeliveryTarget
      ∨ groundingProvenanceMatches context receipt = false) .input
  match receipt.parseStatus.silenceReason with
  | none =>
    let action ← expect receipt.proposalAction .input
    let proposal ← (InterventionProposal.create
      ⟨action, receipt.claims, receipt.confidence, none⟩).mapError fun _ => .input
    ground config proposal.argument context state
  | some reason => silence config context reason receipt.confidence receipt

/-- `_config_from_decision`. -/
def configFromDecision (decision : InterventionDecision) :
    Option (GroundingConfig × ResolvedGroundingConfiguration) := do
  let candidate ← GroundingConfig.modelValidateJson decision.groundingConfiguration
  let resolved := resolveGroundingConfiguration candidate
  if decision.groundingVersion = resolved.pipelineVersion
      ∧ decision.groundingConfigurationDigest = resolved.configurationDigest then
    some (candidate, resolved)
  else none

/-- `verify_grounded_intervention`: a stored decision is the one that its receipt replays to. -/
def verifyGroundedIntervention (decision : InterventionDecision) (context : GroundingContext)
    (state : GroundingState) (expectedConfiguration : ResolvedGroundingConfiguration) :
    Except GroundingError Unit := do
  raiseIf (groundingInputsValid context state = false) .verification
  let (config, resolved) ← expect (configFromDecision decision) .verification
  let receipt ← expect (GroundingReceipt.modelValidateJson decision.groundingReceipt) .verification
  raiseIf (resolved ≠ expectedConfiguration
      ∨ decision.interventionId ≠ context.interventionId
      ∨ decision.runId ≠ context.runId
      ∨ decision.cycleId ≠ context.cycleId
      ∨ decision.createdAt ≠ context.createdAt
      ∨ receipt.requestedDeliveryTarget ≠ context.requestedDeliveryTarget
      ∨ groundingProvenanceMatches context receipt = false) .verification
  let expected ← (replayReceipt config receipt context state).mapError fun _ => .verification
  raiseIf (expected ≠ decision) .verification

end Pipeline

end SalienceGate
