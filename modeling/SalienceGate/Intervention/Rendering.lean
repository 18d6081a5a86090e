import SalienceGate.Intervention.Claims

/-!
# Rendering a reminder

The text of a reminder: fixed ASCII framing around the quoted evidence of each claim, within the
byte and token limits of the configuration.
-/

namespace SalienceGate

open Checked Json

/-! ## Configuration -/

/-- The hard limits of the renderer. -/
def maxRenderedClaims : ℕ := 2

@[inherit_doc maxRenderedClaims]
def maxEvidenceBytes : ℕ := 1024

@[inherit_doc maxRenderedClaims]
def maxOutputBytes : ℕ := 4096

@[inherit_doc maxRenderedClaims]
def maxTokenEquivalents : ℕ := 1024

/-- `FIXED_ASCII_RENDERER_VERSION`. -/
def fixedAsciiRendererVersion : String := "fixed-ascii/v1"

/-- `TOKEN_COUNTER_VERSION`. -/
def tokenCounterVersion : String := "utf8-bytes-ceil-div-4-v1"

/-- The fields of a rendering configuration. -/
structure RenderingConfigFields where
  maxClaims : ℕ
  maxEvidenceBytes : ℕ
  maxOutputBytes : ℕ
  maxTokenEquivalents : ℕ
  includeProvenance : Bool
deriving DecidableEq

/-- Every limit is positive and within its hard limit. -/
def RenderingConfigFields.check (config : RenderingConfigFields) : Check := do
  constrain (1 ≤ config.maxClaims) "max_claims" "greater_than_equal"
  constrain (config.maxClaims ≤ maxRenderedClaims) "max_claims" "less_than_equal"
  constrain (1 ≤ config.maxEvidenceBytes) "max_evidence_bytes" "greater_than_equal"
  constrain (config.maxEvidenceBytes ≤ SalienceGate.maxEvidenceBytes) "max_evidence_bytes"
    "less_than_equal"
  constrain (1 ≤ config.maxOutputBytes) "max_output_bytes" "greater_than_equal"
  constrain (config.maxOutputBytes ≤ SalienceGate.maxOutputBytes) "max_output_bytes"
    "less_than_equal"
  constrain (1 ≤ config.maxTokenEquivalents) "max_token_equivalents" "greater_than_equal"
  constrain (config.maxTokenEquivalents ≤ SalienceGate.maxTokenEquivalents)
    "max_token_equivalents" "less_than_equal"

/-- The limits of the renderer. -/
structure RenderingConfig extends RenderingConfigFields where
  valid : toRenderingConfigFields.check = .ok ()
deriving DecidableEq

/-- The JSON form of a rendering configuration. -/
def RenderingConfig.codec : Codec RenderingConfig where
  dump config := .object [
    ("include_provenance", .bool config.includeProvenance),
    ("max_claims", .int config.maxClaims),
    ("max_evidence_bytes", .int config.maxEvidenceBytes),
    ("max_output_bytes", .int config.maxOutputBytes),
    ("max_token_equivalents", .int config.maxTokenEquivalents),
    ("renderer_version", .str fixedAsciiRendererVersion),
    ("schema_version", .str "1.0"),
    ("token_counter_version", .str tokenCounterVersion)]
  load
    | .object items => do
      guard (onlyMembers items ["include_provenance", "max_claims", "max_evidence_bytes",
        "max_output_bytes", "max_token_equivalents", "renderer_version", "schema_version",
        "token_counter_version"])
      guard ((← required items "schema_version" Codec.str.load) = "1.0")
      guard ((← required items "renderer_version" Codec.str.load) = fixedAsciiRendererVersion)
      guard ((← required items "token_counter_version" Codec.str.load) = tokenCounterVersion)
      let maxClaims ← required items "max_claims" Codec.nat.load
      let maxEvidenceBytes ← required items "max_evidence_bytes" Codec.nat.load
      let maxOutputBytes ← required items "max_output_bytes" Codec.nat.load
      let maxTokenEquivalents ← required items "max_token_equivalents" Codec.nat.load
      let includeProvenance ← required items "include_provenance" Codec.bool.load
      (validate RenderingConfigFields.check RenderingConfig.mk
        ⟨maxClaims, maxEvidenceBytes, maxOutputBytes, maxTokenEquivalents,
          includeProvenance⟩).toOption
    | _ => none
  load_dump config := by
    simp [onlyMembers, Codec.str, Codec.nat, Codec.bool, validate_self config.valid,
      Except.toOption]
  dump_ne_null _ := nofun
  canonical_dump _ := by simp

/-! ## Texts -/

/-- `text.encode("utf-8")`. -/
def utf8Bytes (text : String) : List UInt8 := text.toList.flatMap String.utf8EncodeChar

/-- `_SAFE_EVIDENCE_BYTES`: letters, digits, blanks and five punctuation marks. -/
def isSafeEvidenceByte (byte : UInt8) : Bool :=
  let c := Char.ofNat byte.toNat
  byte.toNat < 128 && (c.isAlphanum || [' ', '.', ',', '_', '-', '/'].contains c)

/-- `_escaped_ascii`: safe bytes as they are, the others in hexadecimal. -/
def escapedAscii (encoded : List UInt8) : String :=
  String.ofList (encoded.flatMap fun byte =>
    if isSafeEvidenceByte byte then [Char.ofNat byte.toNat]
    else '\\' :: 'x' :: Hex.digits 2 byte.toNat)

/-- `quote_untrusted_evidence`. -/
def quoteUntrustedEvidence (text : String) : String :=
  "\"" ++ escapedAscii (utf8Bytes text) ++ "\""

/-- The tokens that the counter estimates for a number of bytes. -/
def approximateTokens (utf8Bytes : ℕ) : ℕ := (utf8Bytes + 3) / 4

/-- A claim with the text that its citation resolved to, and where the text comes from. -/
structure GroundedClaim where
  claim : InterventionClaim
  sourceText : String
  originTrustLabel : TrustLabel
  /-- `fields_are_source_derived`. -/
  valid : groundedClaimText claim = some sourceText

/-- Why rendering fails. -/
inductive RenderingInputError where
  | claim | configuration | evidenceBytes | outputBytes | outputTokens | text
deriving DecidableEq

/-- `_MESSAGES`. -/
def RenderingInputError.message : RenderingInputError → String
  | .claim => "reminder claim input failed validation"
  | .configuration => "rendering configuration failed validation"
  | .evidenceBytes => "reminder evidence byte limit exceeded"
  | .outputBytes => "reminder output byte limit exceeded"
  | .outputTokens => "reminder output token limit exceeded"
  | .text => "rendering text input failed validation"

/-- `_provenance_lines`. -/
def provenanceLines (index : ℕ) (evidence : EvidenceReference) : List String :=
  let label := "claim." ++ toString index ++ ".provenance"
  [label ++ ".source=" ++ evidence.source.value,
    label ++ ".source_id=" ++ escapedAscii (utf8Bytes evidence.sourceId.toString)]
  ++ evidence.revision.toList.map (fun revision => label ++ ".revision=" ++ toString revision)
  ++ [label ++ ".field_path=" ++ escapedAscii (utf8Bytes evidence.fieldPath.text)]
  ++ evidence.span.toList.flatMap fun span =>
    [label ++ ".span.start_byte=" ++ toString span.startByte,
      label ++ ".span.end_byte=" ++ toString span.endByte]

/-- The lines of one claim. -/
def claimLines (config : RenderingConfig) (index : ℕ) (item : GroundedClaim) :
    Except RenderingInputError (List String) := do
  raiseIf (config.maxEvidenceBytes < item.sourceText.utf8ByteSize) .evidenceBytes
  let evidence ← expect item.claim.evidence.head? .claim
  let claimPrefix := "claim." ++ toString index
  let lines := [claimPrefix ++ ".kind=" ++ item.claim.kind.value,
    claimPrefix ++ ".origin=" ++ item.originTrustLabel.value,
    claimPrefix ++ ".evidence=" ++ quoteUntrustedEvidence item.sourceText]
  if config.includeProvenance then pure (lines ++ provenanceLines index evidence) else pure lines

/-- `DeterministicReminderRenderer.render`. -/
def renderReminder (config : RenderingConfig) (claims : List GroundedClaim) :
    Except RenderingInputError String := do
  raiseIf (¬(1 ≤ claims.length ∧ claims.length ≤ config.maxClaims)) .claim
  raiseIf (maxRenderedClaims < claims.length) .claim
  let body ← (claims.zipIdx 1).mapM fun item => claimLines config item.2 item.1
  let lines := ["[SALIENCEGATE_REMINDER " ++ fixedAsciiRendererVersion ++ "]", "authority=none",
    "reason=grounded_reminder", "ttl_steps=1"] ++ body.flatten ++ ["[/SALIENCEGATE_REMINDER]"]
  let text := "\n".intercalate lines
  raiseIf (config.maxOutputBytes < text.utf8ByteSize) .outputBytes
  raiseIf (config.maxTokenEquivalents < approximateTokens text.utf8ByteSize) .outputTokens
  pure text

end SalienceGate
