import SalienceGate.Domain.Evidence

/-!
# Redaction

The walk of the redactor over a payload: text is redacted, the value under a secret field name is
replaced, and a field name that holds a secret is refused. What counts as a secret is the business
of the policy, a `Redactor`. The keyed digests of payloads come from the repository's key, a
`PayloadMac`, or from plain SHA-256 in synthetic mode.
-/

namespace SalienceGate

open Checked

/-- `REDACTED`. -/
def redactedMarker : String := "[REDACTED]"

/-- What a redaction policy decides about texts and field names. -/
class Redactor where
  /-- `_redact_text`. -/
  redactText (value : String) : String
  /-- `_field_name(key) in matched_secret_fields`, or the error of a name it cannot classify. -/
  isSecretField (key : String) : Except ValidationError Bool

/-- The digests of redacted payloads under the key of the repository. -/
class PayloadMac where
  algorithm : PayloadDigestAlgorithm
  /-- HMAC or SHA-256 of the canonical JSON of a payload. -/
  mac (payload : JsonObject) : Sha256Digest

/-- `create_payload_digest`. -/
def createPayloadDigest [PayloadMac] (payload : JsonObject) : PayloadDigest :=
  ⟨PayloadMac.algorithm, PayloadMac.mac payload⟩

/-- `verify_payload_digest`. -/
def verifyPayloadDigest [PayloadMac] (payload : JsonObject) (digest : PayloadDigest) :
    Except ValidationError Bool := do
  raiseIf (digest.algorithm ≠ PayloadMac.algorithm)
    (.validator "digest cannot be verified in this mode")
  pure (digest.value = PayloadMac.mac payload)

/-- The error of a field name that holds a secret. -/
def secretInFieldName : ValidationError :=
  .validator "secret material in a JSON field name cannot be persisted safely"

section

variable [Redactor]

/-- `_redact_value`, without its findings. -/
def redactValue : Json → Except ValidationError Json
  | .object items => do
    forM items fun item =>
      raiseIf (Redactor.redactText item.1 ≠ item.1) secretInFieldName
    let redacted ← redactItems items
    pure (.object redacted)
  | .list items => do
    let redacted ← redactList items
    pure (.list redacted)
  | .str s => pure (.str (Redactor.redactText s))
  | value => pure value
where
  /-- `_redact_value` on the items of a sequence. -/
  redactList : List Json → Except ValidationError (List Json)
    | [] => pure []
    | item :: items => do
      let first ← redactValue item
      let rest ← redactList items
      pure (first :: rest)
  /-- `_redact_value` on the items of a mapping, in key order. -/
  redactItems : List (String × Json) → Except ValidationError (List (String × Json))
    | [] => pure []
    | (key, child) :: items => do
      let secret ← Redactor.isSecretField key
      let first ← if secret then pure (.str redactedMarker) else redactValue child
      let rest ← redactItems items
      pure ((key, first) :: rest)

/-- `RedactedPayload(root=...)`. -/
def JsonObject.ofJson : Json → Except ValidationError JsonObject
  | .object items =>
    if h : (Json.object items).canonical = true then .ok ⟨items, h⟩
    else .error (.validator "payload is not a JSON object")
  | _ => .error (.validator "payload is not a JSON object")

/-- `Redactor.redact_payload`. -/
def redactPayload (payload : JsonObject) : Except ValidationError JsonObject := do
  let redacted ← redactValue payload.json
  JsonObject.ofJson redacted

/-- A policy without secrets. -/
class Redactor.Plain : Prop where
  text : ∀ value, Redactor.redactText value = value
  field : ∀ key, Redactor.isSecretField key = .ok false

mutual

/-- A policy without secrets leaves every value as it is. -/
theorem redactValue_of_plain [Redactor.Plain] : ∀ value : Json, redactValue value = .ok value
  | .object items => by
    have hnames : (forM items fun item =>
        raiseIf (Redactor.redactText item.1 ≠ item.1) secretInFieldName) = .ok () :=
      forM_eq_ok.mpr fun item _ => raiseIf_eq_ok.mpr (not_not.mpr (Redactor.Plain.text item.1))
    unfold redactValue
    rw [hnames, redactItems_of_plain items]
    rfl
  | .list items => by
    unfold redactValue
    rw [redactList_of_plain items]
    rfl
  | .str s => by
    unfold redactValue
    rw [Redactor.Plain.text]
    rfl
  | .null => rfl
  | .bool _ => rfl
  | .int _ => rfl
  | .float _ => rfl

/-- The same for the items of a sequence. -/
theorem redactList_of_plain [Redactor.Plain] :
    ∀ items : List Json, redactValue.redactList items = .ok items
  | [] => rfl
  | item :: items => by
    unfold redactValue.redactList
    rw [redactValue_of_plain item, redactList_of_plain items]
    rfl

/-- The same for the items of a mapping. -/
theorem redactItems_of_plain [Redactor.Plain] :
    ∀ items : List (String × Json), redactValue.redactItems items = .ok items
  | [] => rfl
  | (key, child) :: items => by
    unfold redactValue.redactItems
    rw [Redactor.Plain.field, redactItems_of_plain items]
    show (do
      let first ← redactValue child
      let rest ← Except.ok items
      pure ((key, first) :: rest)) = _
    rw [redactValue_of_plain child]
    rfl
end

/-- A policy without secrets leaves every payload as it is. -/
theorem redactPayload_of_plain [Redactor.Plain] (payload : JsonObject) :
    redactPayload payload = .ok payload := by
  unfold redactPayload
  rw [redactValue_of_plain]
  exact dif_pos payload.canonical

variable [PayloadMac]

/-- `RedactedTraceEventDraft(...)`. -/
def RedactedTraceEventDraft.create (fields : TraceEventDraftFields)
    (payloadDigest : PayloadDigest) : Except ValidationError RedactedTraceEventDraft :=
  Checked.validate TraceEventDraftFields.check (fun fields valid => ⟨fields, payloadDigest, valid⟩)
    fields

/-- `Redactor.redact_event`. -/
def redactEvent (draft : NormalizedTraceEventDraft) :
    Except ValidationError RedactedTraceEventDraft := do
  let payload ← redactPayload draft.payload
  RedactedTraceEventDraft.create { draft.toTraceEventDraftFields with payload }
    (createPayloadDigest payload)

/-- `verify_redacted_event`. -/
def verifyRedactedEvent (event : RedactedTraceEventDraft) : Except ValidationError Bool :=
  match redactPayload event.payload with
  | .error _ => pure false
  | .ok again =>
    if again ≠ event.payload then pure false else verifyPayloadDigest again event.payloadDigest

/-- A redacted draft has the fields of its draft, and the digest of its payload. -/
theorem redactEvent_eq_ok {draft : NormalizedTraceEventDraft} {event : RedactedTraceEventDraft}
    (h : redactEvent draft = .ok event) :
    ∃ payload, redactPayload draft.payload = .ok payload
      ∧ event.toTraceEventDraftFields = { draft.toTraceEventDraftFields with payload }
      ∧ event.payloadDigest = createPayloadDigest payload := by
  rw [redactEvent, bind_eq_ok] at h
  obtain ⟨payload, hpayload, h⟩ := h
  obtain ⟨hvalid, rfl⟩ := validate_eq_ok.mp h
  exact ⟨payload, hpayload, rfl, rfl⟩

end

end SalienceGate
