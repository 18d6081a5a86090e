import SalienceGate.Ports.Commands

/-!
# Adapters

What a delivery adapter declares about itself, what it is handed for one attempt, and what it answers.
A mapping says in which channel and role a reminder is injected: never in a role of authority, and in
a data channel of the provider or in a fixed block of an existing task.
-/

namespace SalienceGate

open Checked

/-! ## Mappings -/

/-- The channels of an injection. -/
inductive DeliveryChannel where
  | providerData | existingUserTask
deriving DecidableEq, Repr

/-- The string of a member. -/
def DeliveryChannel.value : DeliveryChannel → String
  | .providerData => "provider_data"
  | .existingUserTask => "existing_user_task"

/-- The roles of an injection. -/
inductive DeliveryRole where
  | data | user | system | developer
deriving DecidableEq, Repr

/-- The string of a member. -/
def DeliveryRole.value : DeliveryRole → String
  | .data => "data"
  | .user => "user"
  | .system => "system"
  | .developer => "developer"

/-- The string of a member. -/
def DeduplicationGuarantee.value : DeduplicationGuarantee → String
  | .atMostOnceAttempt => "at_most_once_attempt"
  | .durableDeliveryId => "durable_delivery_id"

/-- `_SAFE_PROVIDER_CHANNEL_LEAVES`. -/
def safeProviderChannelLeaves : List String :=
  ["context", "context_data", "data", "evidence", "metadata"]

/-- `_RESERVED_PROVIDER_CHANNEL_SEGMENTS`. -/
def reservedProviderChannelSegments : List String :=
  ["developer", "instruction", "instructions", "message", "messages", "prompt", "system"]

/-- The segments of the name of a provider channel, in lower case. -/
def providerChannelSegments (channel : ComponentIdentifier) : List (List Char) :=
  ((channel.text.toList.splitOnP fun c => ['.', '_', ':', '/', '+', '-'].contains c).filter
    fun segment => !segment.isEmpty).map fun segment => segment.map Char.toLower

/-- The provider channel is one for data. -/
def isDataChannel (channel : ComponentIdentifier) : Bool :=
  let segments := providerChannelSegments channel
  (segments.all fun segment => !reservedProviderChannelSegments.contains (String.ofList segment))
    && safeProviderChannelLeaves.contains (String.ofList (segments.getLast?.getD []))

/-- The fields of a mapping. -/
structure InjectionMappingFields where
  channel : DeliveryChannel
  role : DeliveryRole
  providerChannel : Option ComponentIdentifier := none
deriving DecidableEq

/-- The role of a mapping is one of authority. -/
def InjectionMappingFields.isAuthoritative (mapping : InjectionMappingFields) : Bool :=
  mapping.role = .system || mapping.role = .developer

/-- `channel_has_non_authoritative_role`. -/
def InjectionMappingFields.check (mapping : InjectionMappingFields) : Check := do
  refuse (mapping.isAuthoritative = true) "authoritative delivery roles are prohibited"
  match mapping.channel with
  | .providerData => do
    refuse (mapping.role ≠ .data ∨ mapping.providerChannel = none)
      "provider data delivery requires a named data channel"
    refuse (∃ channel ∈ mapping.providerChannel, isDataChannel channel = false)
      "provider channel is not an allowlisted data destination"
  | .existingUserTask =>
    refuse (mapping.role ≠ .user ∨ mapping.providerChannel ≠ none)
      "existing-task delivery requires the fixed user evidence block"

/-- `InjectionMapping`. -/
structure InjectionMapping extends InjectionMappingFields where
  valid : toInjectionMappingFields.check = .ok ()
deriving DecidableEq

/-! ## Capabilities -/

/-- `ADAPTER_CONTRACT_VERSION`. -/
def adapterContractVersion : ComponentIdentifier := ⟨"adapter-contract/v1", by decide⟩

/-- The fields of the capabilities of an adapter. -/
structure AdapterCapabilitiesFields where
  adapterId : ComponentIdentifier
  preActionInterception : Bool
  deduplicatesDeliveryId : Bool
  deduplicationGuarantee : DeduplicationGuarantee
  injectionMappings : List InjectionMapping
deriving DecidableEq

/-- `mappings_are_unique`, after the field constraints. -/
def AdapterCapabilitiesFields.check (capabilities : AdapterCapabilitiesFields) : Check := do
  constrain (capabilities.injectionMappings.length ≤ 4) "injection_mappings" "too_long"
  refuse (¬(capabilities.injectionMappings.map (·.channel)).Nodup)
    "duplicate injection channel declaration"
  refuse (capabilities.deduplicatesDeliveryId
      ≠ decide (capabilities.deduplicationGuarantee = .durableDeliveryId))
    "deduplication flag and durability guarantee disagree"

/-- `AdapterCapabilities`. -/
structure AdapterCapabilities extends AdapterCapabilitiesFields where
  valid : toAdapterCapabilitiesFields.check = .ok ()
deriving DecidableEq

/-- `AdapterDeliveryRefusedError`: only the refusals of a delivery are its reasons. -/
structure AdapterDeliveryRefused where
  reasonCode : ReasonCode
  refusal : reasonCode ∈ DeliveryRecordFields.rejectionReasons
deriving DecidableEq

namespace AdapterDeliveryRefused

def unsupportedTarget : AdapterDeliveryRefused := ⟨.unsupportedDeliveryTarget, by decide⟩

def unsupportedChannel : AdapterDeliveryRefused := ⟨.unsupportedDeliveryChannel, by decide⟩

def unsafeRoleMapping : AdapterDeliveryRefused := ⟨.unsafeRoleMapping, by decide⟩

def targetUnavailable : AdapterDeliveryRefused := ⟨.targetUnavailable, by decide⟩

end AdapterDeliveryRefused

/-- What an adapter returns as its capabilities: an object of another type, or without a tuple of
mappings; one that does not validate, with whether one of its mappings has a role of authority; or
valid capabilities. -/
inductive DeclaredCapabilities where
  | foreign
  | malformed (unsafeRole : Bool)
  | exact (capabilities : AdapterCapabilities)

/-- `validated_capabilities`. -/
def validatedCapabilities : DeclaredCapabilities → Except AdapterDeliveryRefused AdapterCapabilities
  | .foreign => throw .unsupportedChannel
  | .malformed unsafeRole => throw (if unsafeRole then .unsafeRoleMapping else .unsupportedChannel)
  | .exact capabilities => pure capabilities

/-- `mapping.model_dump(mode="json")`. -/
def InjectionMapping.modelDump (mapping : InjectionMapping) : Json :=
  .object [("channel", .str mapping.channel.value),
    ("provider_channel", mapping.providerChannel.elim .null fun channel => .str channel.text),
    ("role", .str mapping.role.value)]

/-- `capabilities.model_dump(mode="json")`. -/
def AdapterCapabilities.modelDump (capabilities : AdapterCapabilities) : Json :=
  .object [("adapter_id", .str capabilities.adapterId.text),
    ("deduplicates_delivery_id", .bool capabilities.deduplicatesDeliveryId),
    ("deduplication_guarantee", .str capabilities.deduplicationGuarantee.value),
    ("injection_mappings", .list (capabilities.injectionMappings.map (·.modelDump))),
    ("pre_action_interception", .bool capabilities.preActionInterception),
    ("schema_version", .str "1.0")]

/-- `adapter_capabilities_digest`. -/
def adapterCapabilitiesDigest [Hashing] (capabilities : AdapterCapabilities) : Sha256Digest :=
  canonicalDigest (.object [("capabilities", capabilities.modelDump),
    ("contract_version", .str adapterContractVersion.text)])

/-- The first mapping of a channel. -/
def AdapterCapabilities.mappingOf (capabilities : AdapterCapabilities) (channel : DeliveryChannel) :
    Option InjectionMapping :=
  capabilities.injectionMappings.find? fun mapping => mapping.channel = channel

/-- `select_injection_mapping`. -/
def selectInjectionMapping (capabilities : AdapterCapabilities) (target : DeliveryTarget) :
    Except AdapterDeliveryRefused InjectionMapping := do
  raiseIf (target = .preActionReplan ∧ capabilities.preActionInterception = false)
    .targetUnavailable
  expect (capabilities.mappingOf .providerData <|> capabilities.mappingOf .existingUserTask)
    .unsupportedChannel

/-! ## Payloads -/

/-- `UNTRUSTED_BLOCK_BEGIN`. -/
def untrustedBlockBegin : String := "<<<SALIENCEGATE_UNTRUSTED_EVIDENCE_V1>>>"

/-- `UNTRUSTED_BLOCK_END`. -/
def untrustedBlockEnd : String := "<<<END_SALIENCEGATE_UNTRUSTED_EVIDENCE_V1>>>"

/-- How often a text occurs in another one, without overlaps. The first characters are skipped. -/
def occurrences (text : List Char) : ℕ → List Char → ℕ
  | _, [] => 0
  | skip + 1, _ :: rest => occurrences text skip rest
  | 0, c :: rest =>
    if text.isPrefixOf (c :: rest) then occurrences text (text.length - 1) rest + 1
    else occurrences text 0 rest

/-- `value.count(text)`. -/
def countOf (text value : String) : ℕ := occurrences text.toList 0 value.toList

/-- The lines before the text of a fixed block. -/
def untrustedBlockPrefix : String := untrustedBlockBegin ++ "\nauthority=none\ninstructions=false\n"

/-- The lines after the text of a fixed block. -/
def untrustedBlockSuffix : String := "\n" ++ untrustedBlockEnd

/-- `_is_fixed_block`. -/
def isFixedBlock (value : String) : Bool :=
  untrustedBlockPrefix.toList.isPrefixOf value.toList
    && untrustedBlockSuffix.toList.isSuffixOf value.toList
    && countOf untrustedBlockBegin value = 1 && countOf untrustedBlockEnd value = 1

/-- A text of at most 4096 bytes. -/
def checkText (text : String) : Except AdapterDeliveryRefused Unit :=
  raiseIf (text = "" ∨ 4096 < text.utf8ByteSize) .unsupportedChannel

/-- `render_untrusted_user_block`. -/
def renderUntrustedUserBlock (text : String) : Except AdapterDeliveryRefused String := do
  checkText text
  raiseIf (countOf untrustedBlockBegin text ≠ 0 ∨ countOf untrustedBlockEnd text ≠ 0)
    .unsupportedChannel
  pure (untrustedBlockPrefix ++ text ++ untrustedBlockSuffix)

/-- `delivery_payload`. -/
def deliveryPayload (text : String) (mapping : InjectionMapping) :
    Except AdapterDeliveryRefused String :=
  match mapping.channel with
  | .existingUserTask => renderUntrustedUserBlock text
  | .providerData => do
    checkText text
    pure text

/-! ## Envelopes -/

/-- The fields of the envelope that an adapter is handed. -/
structure DeliveryEnvelopeFields where
  deliveryId : UUID4
  runId : UUID4
  cycleId : Sha256Digest
  interventionId : UUID4
  claimId : UUID4
  attemptId : UUID4
  attemptNumber : ℕ
  targetRequestId : ComponentIdentifier
  target : DeliveryTarget
  adapterId : ComponentIdentifier
  mapping : InjectionMapping
  payload : String
  createdAt : UtcDatetime
deriving DecidableEq

/-- `payload_matches_mapping`, after the field constraints. -/
def DeliveryEnvelopeFields.check (envelope : DeliveryEnvelopeFields) : Check := do
  constrain (1 ≤ envelope.attemptNumber) "attempt_number" "greater_than_equal"
  constrain (1 ≤ envelope.payload.length) "payload" "string_too_short"
  constrain (envelope.payload.length ≤ 8192) "payload" "string_too_long"
  refuse (envelope.mapping.channel = .existingUserTask ∧ isFixedBlock envelope.payload = false)
    "fallback payload must be the exact fixed untrusted block"
  refuse (envelope.mapping.channel = .providerData ∧ 4096 < envelope.payload.utf8ByteSize)
    "provider data payload exceeds its bound"
  refuse (8192 < envelope.payload.utf8ByteSize) "delivery payload exceeds its byte bound"

/-- `DeliveryEnvelope`. -/
structure DeliveryEnvelope extends DeliveryEnvelopeFields where
  valid : toDeliveryEnvelopeFields.check = .ok ()
deriving DecidableEq

/-- `DeliveryEnvelope(...)`. -/
def DeliveryEnvelope.create (fields : DeliveryEnvelopeFields) :
    Except ValidationError DeliveryEnvelope :=
  Checked.validate DeliveryEnvelopeFields.check DeliveryEnvelope.mk fields

/-! ## Receipts -/

/-- `DeliveryReceipt`, of an adapter. -/
structure DeliveryReceipt where
  deliveryId : UUID4
  attemptId : UUID4
  attemptNumber : ℕ
  adapterId : ComponentIdentifier
  targetRequestId : ComponentIdentifier
  deliveredAt : UtcDatetime
  providerReceiptId : ComponentIdentifier
deriving DecidableEq

/-- `_MAX_RECEIPT_LATENCY`, in microseconds. -/
def maxReceiptLatency : UtcDatetime := 15 * 60 * 1000000

/-- The receipt is of the attempt of an envelope. -/
def DeliveryReceipt.isOf (receipt : DeliveryReceipt) (envelope : DeliveryEnvelope) : Prop :=
  receipt.deliveryId = envelope.deliveryId ∧ receipt.attemptId = envelope.attemptId
    ∧ receipt.attemptNumber = envelope.attemptNumber ∧ receipt.adapterId = envelope.adapterId
    ∧ receipt.targetRequestId = envelope.targetRequestId
    ∧ envelope.createdAt ≤ receipt.deliveredAt
    ∧ receipt.deliveredAt ≤ envelope.createdAt + maxReceiptLatency

instance decidableReceiptIsOf (receipt : DeliveryReceipt) (envelope : DeliveryEnvelope) :
    Decidable (receipt.isOf envelope) := by
  unfold DeliveryReceipt.isOf
  infer_instance

/-- `validate_delivery_receipt`: the receipt, if it is a valid one of the envelope. -/
def validateDeliveryReceipt (envelope : DeliveryEnvelope) :
    Argument DeliveryReceipt → Option DeliveryReceipt
  | .exact receipt => if receipt.isOf envelope then some receipt else none
  | .foreign | .malformed => none

end SalienceGate
