import SalienceGate.Bridge.CanonicalJson
import SalienceGate.Bridge.Chunks

/-!
# Documents

The capture documents of `bridge-core/src/chunks.ts` and `windowed-chunks.ts`: what the two files
check of a batch, and the document of a chunk. A document of a window has a `window_discriminator`.

The size of a document is that of its frame, the document without events, and of its events
(`encodedLength_document`); the chunk index and the chunk count matter by their digits only.
-/

namespace SalienceGate

open JsValue (field word natural)

/-! ## Formats -/

/-- A digit of a digest. -/
def isHexDigit (code : Fin 65536) : Bool :=
  (0x30 ≤ code.val && code.val ≤ 0x39) || (0x61 ≤ code.val && code.val ≤ 0x66)

/-- `SHA256` and `WINDOW_DISCRIMINATOR`. -/
def isSha256 (text : JsString) : Bool := text.units.length = 64 && text.units.all isHexDigit

/-- `CONNECTION_ID`. -/
def isConnectionId (text : JsString) : Bool :=
  text.units.length = 51 && text.units.take 3 = (JsString.ofAscii "sg-").units && (text.units.drop 3).all isHexDigit

/-- A letter of ASCII. -/
def isLetter (code : Fin 65536) : Bool :=
  (0x41 ≤ code.val && code.val ≤ 0x5a) || (0x61 ≤ code.val && code.val ≤ 0x7a)

/-- The text starts with a slash. -/
def startsWithSlash (text : JsString) : Bool := text.units.head?.any fun code => code.val = 0x2f

/-- `WINDOWS_ABSOLUTE`. -/
def isWindowsAbsolute (text : JsString) : Bool :=
  match text.units with
  | drive :: colon :: slash :: _ => isLetter drive && colon.val = 0x3a && (slash.val = 0x5c || slash.val = 0x2f)
  | _ => false

/-- `WINDOWS_UNC_ABSOLUTE`: two backslashes, a name, a backslash and a name. -/
def isWindowsUncAbsolute (text : JsString) : Bool :=
  match text.units with
  | first :: second :: rest =>
    first.val = 0x5c && second.val = 0x5c && rest.head?.any (fun code => code.val ≠ 0x5c)
      && ((rest.dropWhile fun code => code.val ≠ 0x5c).drop 1).head?.any fun code => code.val ≠ 0x5c
  | _ => false

/-- The text has a code unit zero. -/
def hasNul (text : JsString) : Bool := text.units.any fun code => code.val = 0

/-- `MAX_WORKSPACE_PATH_BYTES`. -/
def maxWorkspacePathBytes : ℕ := 4096

/-- The longest `launcher_path`. -/
def maxLauncherPathLength : ℕ := 4096

/-- `validWorkspacePath`. -/
def validWorkspacePath (path : JsString) : Bool :=
  path.isExactText maxWorkspacePathBytes && !hasNul path
    && (startsWithSlash path || isWindowsAbsolute path || isWindowsUncAbsolute path)

/-! ## Batches -/

/-- `BootstrapBinding`. -/
structure Bootstrap where
  schemaVersion : JsString
  profile : JsString
  connectionId : JsString
  launcherPath : JsString
  capabilityDigest : JsString
  bundleDigest : JsString
  receiptMac : JsString
deriving DecidableEq

namespace Bootstrap

/-- The bootstrap in a document. -/
def json (b : Bootstrap) : JsValue :=
  .object [field "bundle_digest" (.text b.bundleDigest), field "capability_digest" (.text b.capabilityDigest),
    field "connection_id" (.text b.connectionId), field "launcher_path" (.text b.launcherPath),
    field "profile" (.text b.profile), field "receipt_mac" (.text b.receiptMac),
    field "schema_version" (.text b.schemaVersion)]

/-- `validateBootstrap`, of a bootstrap with just its fields. -/
def validate (b : Bootstrap) : Bool :=
  b.schemaVersion = .ofAscii "integration-bootstrap/v1"
    && (b.profile = .ofAscii "opencode-plugin/v1" || b.profile = .ofAscii "pi-extension/v1")
    && isConnectionId b.connectionId && isSha256 b.capabilityDigest && isSha256 b.bundleDigest
    && isSha256 b.receiptMac && b.launcherPath.units ≠ [] && b.launcherPath.units.length ≤ maxLauncherPathLength
    && !hasNul b.launcherPath && (startsWithSlash b.launcherPath || isWindowsAbsolute b.launcherPath)
    && b.json.canonicalizes

end Bootstrap

/-- What the documents of a batch have in common. -/
structure Batch where
  bootstrap : Bootstrap
  batchId : JsString
  sessionId : JsString
  workspacePath : Option JsString
  windowDiscriminator : Option JsString
deriving DecidableEq

namespace Batch

/-- `documentFor`. -/
def document (b : Batch) (chunkIndex chunkCount : ℕ) (events : List JsValue) : JsValue :=
  .object ([field "batch_id" (.text b.batchId), field "bootstrap" b.bootstrap.json,
      field "chunk_count" (natural chunkCount), field "chunk_index" (natural chunkIndex),
      field "events" (.array events), field "schema_version" (word "capture-batch/v1"),
      field "session_id" (.text b.sessionId)]
    ++ b.windowDiscriminator.toList.map (fun window => field "window_discriminator" (.text window))
    ++ b.workspacePath.toList.map fun path => field "workspace_path" (JsValue.text path))

/-- The batch is as `buildCaptureChunks` and `buildWindowedCaptureChunks` want it. -/
def accepted (b : Batch) : Bool :=
  b.bootstrap.validate && isSha256 b.batchId && b.sessionId.units ≠ []
    && b.sessionId.byteLength ≤ maxCaptureSessionIdBytes && b.workspacePath.all validWorkspacePath
    && b.windowDiscriminator.all isSha256 && (JsValue.text b.sessionId).canonicalizes

/-- The record that takes the place of an event that is too large. -/
def oversize (b : Batch) : JsValue :=
  .object ([field "kind" (word "oversize"), field "reason" (word "event_limit"),
      field "session_id" (.text b.sessionId)]
    ++ b.windowDiscriminator.toList.map fun window => field "window_discriminator" (.text window))

end Batch

/-- The encoding of batches. -/
instance batchEncoding : CaptureEncoding Batch JsValue where
  canonicalizes := JsValue.canonicalizes
  byteLength := JsValue.encodedLength
  documentBytes batch chunkIndex chunkCount events := canonicalLength (batch.document chunkIndex chunkCount events)

/-! ## The size of a document -/

theorem length_repr_le {n k : ℕ} (hk : 0 < k) (h : n < 10^k) : n.repr.length ≤ k := by
  rw [← String.length_toList, Nat.toList_repr]
  exact (Nat.length_toDigits_le_iff (by omega) hk).mpr h

namespace Batch

/-- The bytes of a document without events. -/
def frame (b : Batch) : ℕ := (b.document 0 0 []).encodedLength

/-- A document is its frame, its events and the commas between them; the frame has a digit for the
chunk index and one for the chunk count. -/
theorem encodedLength_document (b : Batch) (chunkIndex chunkCount : ℕ) (events : List JsValue) :
    (b.document chunkIndex chunkCount events).encodedLength + 2
      = b.frame + chunkIndex.repr.length + chunkCount.repr.length + (events.length - 1)
        + JsValue.encodedLength.lengthOfList events := by
  have hzero : (0 : ℕ).repr.length = 1 := rfl
  unfold frame document
  simp only [JsValue.encodedLength, JsValue.lengthOfFields_append, JsValue.encodedLength.lengthOfFields,
    JsValue.encodedLength.lengthOfList, JsValue.field, JsValue.natural, List.length_append, List.length_cons,
    List.length_nil, hzero]
  omega

/-- Whether a document can be encoded depends on its events only. -/
theorem canonicalizes_document (b : Batch) (chunkIndex chunkCount : ℕ) (events : List JsValue) :
    (b.document chunkIndex chunkCount events).canonicalizes = (b.document 0 0 events).canonicalizes := by
  unfold document
  simp only [JsValue.canonicalizes, JsValue.stringBytes, JsValue.isJson, JsValue.items, JsValue.depth, JsValue.texts,
    List.cons_append, JsValue.isJson.fieldsAreJson, JsValue.items.itemsOfFields, JsValue.depth.depthOfFields,
    JsValue.texts.textsOfFields, JsValue.field, JsValue.natural]

end Batch

/-! ## Bounds for an accepted batch -/

theorem quotedLength_ofAscii_le (text : String) : (JsString.ofAscii text).quotedLength ≤ 2 + 6 * text.length := by
  have hle := (JsString.ofAscii text).quotedLength_le
  rw [JsString.length_ofAscii] at hle
  exact hle

theorem quotedLength_of_isSha256 {text : JsString} (h : isSha256 text = true) : text.quotedLength ≤ 386 := by
  simp only [isSha256, Bool.and_eq_true, decide_eq_true_eq] at h
  have hle := text.quotedLength_le
  omega

namespace Bootstrap

theorem encodedLength_json {b : Bootstrap} (h : b.validate = true) : b.json.encodedLength ≤ 30000 := by
  simp only [validate, Bool.and_eq_true, Bool.or_eq_true, decide_eq_true_eq] at h
  obtain ⟨⟨⟨⟨⟨⟨⟨⟨⟨⟨hschema, hprofile⟩, hconnection⟩, hcapability⟩, hbundle⟩, hmac⟩, -⟩, hlauncher⟩, -⟩, -⟩, -⟩ := h
  have hschemaLength : b.schemaVersion.quotedLength ≤ 2 + 6 * 24 := by
    rw [hschema]
    exact quotedLength_ofAscii_le _
  have hprofileLength : b.profile.quotedLength ≤ 2 + 6 * 18 := by
    rcases hprofile with hprofile | hprofile <;> rw [hprofile]
    · exact quotedLength_ofAscii_le _
    · exact Nat.le_trans (quotedLength_ofAscii_le _) (by decide)
  have hconnectionLength : b.connectionId.quotedLength ≤ 2 + 6 * 51 := by
    simp only [isConnectionId, Bool.and_eq_true, decide_eq_true_eq] at hconnection
    have hle := b.connectionId.quotedLength_le
    omega
  have hcapabilityLength := quotedLength_of_isSha256 hcapability
  have hbundleLength := quotedLength_of_isSha256 hbundle
  have hmacLength := quotedLength_of_isSha256 hmac
  have hlauncherLength : b.launcherPath.quotedLength ≤ 2 + 6 * 4096 := by
    have hle := b.launcherPath.quotedLength_le
    unfold maxLauncherPathLength at hlauncher
    omega
  have hkey : ∀ text : String, text.length ≤ 17 → (JsString.ofAscii text).quotedLength ≤ 104 := by
    intro text htext
    have hle := quotedLength_ofAscii_le text
    omega
  have h1 := hkey "bundle_digest" (by decide)
  have h2 := hkey "capability_digest" (by decide)
  have h3 := hkey "connection_id" (by decide)
  have h4 := hkey "launcher_path" (by decide)
  have h5 := hkey "profile" (by decide)
  have h6 := hkey "receipt_mac" (by decide)
  have h7 := hkey "schema_version" (by decide)
  simp only [json, JsValue.encodedLength, JsValue.encodedLength.lengthOfFields, JsValue.field, List.length_cons,
    List.length_nil]
  omega

end Bootstrap

namespace Batch

theorem quotedLength_of_validWorkspacePath {path : JsString} (h : validWorkspacePath path = true) :
    path.quotedLength ≤ 2 + 6 * 4096 := by
  simp only [validWorkspacePath, JsString.isExactText, Bool.and_eq_true, decide_eq_true_eq] at h
  have hle := path.quotedLength_le
  have hbytes := path.length_le_byteLength
  have hmax := h.1.1.2
  unfold maxWorkspacePathBytes at hmax
  omega

/-- The frame is the session id and little more. -/
theorem frame_le {b : Batch} (h : b.accepted = true) : b.frame ≤ b.sessionId.quotedLength + 60000 := by
  simp only [accepted, Bool.and_eq_true, decide_eq_true_eq] at h
  obtain ⟨⟨⟨⟨⟨⟨hbootstrap, hbatchId⟩, -⟩, -⟩, hpath⟩, hwindow⟩, -⟩ := h
  have hbootstrapLength := Bootstrap.encodedLength_json hbootstrap
  have hbatchIdLength := quotedLength_of_isSha256 hbatchId
  have hkey : ∀ text : String, text.length ≤ 20 → (JsString.ofAscii text).quotedLength ≤ 122 := by
    intro text htext
    have hle := quotedLength_ofAscii_le text
    omega
  have h1 := hkey "batch_id" (by decide)
  have h2 := hkey "bootstrap" (by decide)
  have h3 := hkey "chunk_count" (by decide)
  have h4 := hkey "chunk_index" (by decide)
  have h5 := hkey "events" (by decide)
  have h6 := hkey "schema_version" (by decide)
  have h7 := hkey "session_id" (by decide)
  have h8 := hkey "capture-batch/v1" (by decide)
  have h9 := hkey "window_discriminator" (by decide)
  have h10 := hkey "workspace_path" (by decide)
  have hzero : (0 : ℕ).repr.length = 1 := rfl
  have hwindowLength : JsValue.encodedLength.lengthOfFields (b.windowDiscriminator.toList.map
      fun window => field "window_discriminator" (.text window)) ≤ 600 := by
    cases hw : b.windowDiscriminator with
    | none => exact Nat.zero_le _
    | some window =>
      rw [hw] at hwindow
      have hlength : window.quotedLength ≤ 386 := quotedLength_of_isSha256 (by simpa using hwindow)
      simp only [Option.toList_some, List.map_cons, List.map_nil, JsValue.encodedLength.lengthOfFields,
        JsValue.encodedLength, JsValue.field]
      omega
  have hpathLength : JsValue.encodedLength.lengthOfFields (b.workspacePath.toList.map
      fun path => field "workspace_path" (JsValue.text path)) ≤ 25000 := by
    cases hp : b.workspacePath with
    | none => exact Nat.zero_le _
    | some path =>
      rw [hp] at hpath
      have hlength : path.quotedLength ≤ 2 + 6 * 4096 := quotedLength_of_validWorkspacePath (by simpa using hpath)
      simp only [Option.toList_some, List.map_cons, List.map_nil, JsValue.encodedLength.lengthOfFields,
        JsValue.encodedLength, JsValue.field]
      omega
  have hwindowCount : b.windowDiscriminator.toList.length ≤ 1 := by
    cases b.windowDiscriminator <;> simp
  have hpathCount : b.workspacePath.toList.length ≤ 1 := by
    cases b.workspacePath <;> simp
  unfold frame document
  simp only [JsValue.encodedLength, JsValue.lengthOfFields_append, JsValue.encodedLength.lengthOfFields,
    List.length_append, List.length_cons, List.length_nil, List.length_map]
  simp only [JsValue.field] at hwindowLength hpathLength ⊢
  simp only [JsValue.encodedLength, JsValue.encodedLength.lengthOfList, JsValue.natural, JsValue.word,
    List.length_nil, hzero]
  omega

end Batch

/-! ### Texts -/

/-- A text that is well formed and has at most so many bytes. -/
def Short (maximumBytes : ℕ) (text : JsString) : Prop :=
  text.isWellFormedUnicode = true ∧ text.byteLength ≤ maximumBytes

theorem short_ofAscii (text : String) : Short (3 * text.length) (.ofAscii text) :=
  ⟨JsString.isWellFormedUnicode_ofAscii text, JsString.byteLength_ofAscii_le text⟩

theorem short_of_isSha256 {text : JsString} (h : isSha256 text = true) : Short 192 text := by
  simp only [isSha256, Bool.and_eq_true, decide_eq_true_eq, List.all_eq_true] at h
  refine ⟨JsString.wellFormedUnits_of_lt fun code hmem => ?_, ?_⟩
  · have hdigit := h.2 code hmem
    simp only [isHexDigit, Bool.and_eq_true, Bool.or_eq_true, decide_eq_true_eq] at hdigit
    omega
  · have hle := text.byteLength_le
    omega

/-- The texts of a value are well formed, with at most so many bytes together. -/
def ShortTexts (maximumBytes : ℕ) (texts : List JsString) : Prop :=
  texts.all JsString.isWellFormedUnicode = true ∧ (texts.map JsString.byteLength).sum ≤ maximumBytes

theorem ShortTexts.nil : ShortTexts 0 [] := ⟨rfl, Nat.le_refl 0⟩

theorem sum_byteLength_cons {m n : ℕ} {text : JsString} {texts : List JsString} (h : text.byteLength ≤ m)
    (htexts : (texts.map JsString.byteLength).sum ≤ n) : ((text :: texts).map JsString.byteLength).sum ≤ m + n := by
  rw [List.map_cons, List.sum_cons]
  omega

theorem ShortTexts.cons {m n : ℕ} {text : JsString} {texts : List JsString} (h : Short m text)
    (htexts : ShortTexts n texts) : ShortTexts (m + n) (text :: texts) := by
  refine ⟨?_, sum_byteLength_cons h.2 htexts.2⟩
  rw [List.all_cons, h.1, htexts.1]
  rfl

theorem ShortTexts.append {m n : ℕ} {texts others : List JsString} (h : ShortTexts m texts)
    (hothers : ShortTexts n others) : ShortTexts (m + n) (texts ++ others) := by
  refine ⟨?_, ?_⟩
  · rw [List.all_append, h.1, hothers.1]
    rfl
  · have hsum := h.2
    have hsum' := hothers.2
    rw [List.map_append, List.sum_append]
    omega

theorem ShortTexts.mono {m n : ℕ} {texts : List JsString} (h : ShortTexts m texts) (hmn : m ≤ n) :
    ShortTexts n texts :=
  ⟨h.1, Nat.le_trans h.2 hmn⟩

theorem byteLength_of_isSha256 {text : JsString} (h : isSha256 text = true) : text.byteLength ≤ 192 :=
  (short_of_isSha256 h).2

theorem Bootstrap.shortTexts_json {b : Bootstrap} (h : b.validate = true) : ShortTexts 14000 b.json.texts := by
  simp only [validate, Bool.and_eq_true, Bool.or_eq_true, decide_eq_true_eq] at h
  obtain ⟨⟨⟨⟨⟨⟨⟨⟨⟨⟨hschema, hprofile⟩, hconnection⟩, hcapability⟩, hbundle⟩, hmac⟩, -⟩, hlauncher⟩, -⟩, -⟩,
    hcanonicalizes⟩ := h
  simp only [JsValue.canonicalizes, Bool.and_eq_true] at hcanonicalizes
  refine ⟨hcanonicalizes.1.2, ?_⟩
  have hschemaLength : b.schemaVersion.byteLength ≤ 72 := by
    rw [hschema]
    exact JsString.byteLength_ofAscii_le _
  have hprofileLength : b.profile.byteLength ≤ 54 := by
    rcases hprofile with hprofile | hprofile <;> rw [hprofile]
    · exact JsString.byteLength_ofAscii_le _
    · exact Nat.le_trans (JsString.byteLength_ofAscii_le _) (by decide)
  have hconnectionLength : b.connectionId.byteLength ≤ 153 := by
    simp only [isConnectionId, Bool.and_eq_true, decide_eq_true_eq] at hconnection
    have hle := b.connectionId.byteLength_le
    omega
  have hlauncherLength : b.launcherPath.byteLength ≤ 3 * 4096 := by
    have hle := b.launcherPath.byteLength_le
    unfold maxLauncherPathLength at hlauncher
    omega
  have hkey (text : String) := JsString.byteLength_ofAscii_le text
  have hsum := sum_byteLength_cons (hkey "bundle_digest") <| sum_byteLength_cons (byteLength_of_isSha256 hbundle) <|
    sum_byteLength_cons (hkey "capability_digest") <| sum_byteLength_cons (byteLength_of_isSha256 hcapability) <|
    sum_byteLength_cons (hkey "connection_id") <| sum_byteLength_cons hconnectionLength <|
    sum_byteLength_cons (hkey "launcher_path") <| sum_byteLength_cons hlauncherLength <|
    sum_byteLength_cons (hkey "profile") <| sum_byteLength_cons hprofileLength <|
    sum_byteLength_cons (hkey "receipt_mac") <| sum_byteLength_cons (byteLength_of_isSha256 hmac) <|
    sum_byteLength_cons (hkey "schema_version") <| sum_byteLength_cons hschemaLength ShortTexts.nil.2
  exact Nat.le_trans hsum (by decide)

namespace Batch

theorem shortTexts_optional (key : String) (n : ℕ) (text : Option JsString) (h : ∀ t, text = some t → Short n t) :
    ShortTexts (3 * key.length + n) (JsValue.texts.textsOfFields
      (text.toList.map fun t => field key (.text t))) := by
  cases text with
  | none => exact ShortTexts.nil.mono (Nat.zero_le _)
  | some t =>
    have htexts : ShortTexts (3 * key.length + (n + 0)) [.ofAscii key, t] :=
      .cons (short_ofAscii key) (.cons (h t rfl) .nil)
    simpa [JsValue.texts.textsOfFields, JsValue.texts, field] using htexts

/-- A document of an accepted batch can be encoded if its events leave some room for the frame. -/
theorem canonicalizes_document_of_accepted {b : Batch} (h : b.accepted = true) {events : List JsValue}
    (hjson : JsValue.isJson.listIsJson events = true) (hitems : JsValue.items.itemsOfList events ≤ 9000)
    (hdepth : JsValue.depth.depthOfList events ≤ 30)
    (htexts : ShortTexts 700000 (JsValue.texts.textsOfList events)) :
    (b.document 0 0 events).canonicalizes = true := by
  simp only [accepted, Bool.and_eq_true, decide_eq_true_eq] at h
  obtain ⟨⟨⟨⟨⟨⟨hbootstrap, hbatchId⟩, -⟩, hsession⟩, hpath⟩, hwindow⟩, hcanonicalizes⟩ := h
  have hbootstrapTexts := Bootstrap.shortTexts_json hbootstrap
  have hbatchIdTexts := short_of_isSha256 hbatchId
  have hsessionTexts : Short 262144 b.sessionId := by
    refine ⟨?_, hsession⟩
    simp only [JsValue.canonicalizes, Bool.and_eq_true] at hcanonicalizes
    simpa [JsValue.texts] using hcanonicalizes.1.2
  have hwindowTexts := shortTexts_optional "window_discriminator" 192 b.windowDiscriminator (by
    intro window hsome
    rw [hsome] at hwindow
    exact short_of_isSha256 (by simpa using hwindow))
  have hpathTexts := shortTexts_optional "workspace_path" 4096 b.workspacePath (by
    intro path hsome
    rw [hsome] at hpath
    simp only [Option.all_some, validWorkspacePath, JsString.isExactText, Bool.and_eq_true, decide_eq_true_eq] at hpath
    exact ⟨hpath.1.1.1.2, hpath.1.1.2⟩)
  have hall : ShortTexts 1000000 (b.document 0 0 events).texts := by
    have hparts := ShortTexts.cons (short_ofAscii "batch_id") <| .cons hbatchIdTexts <|
      .cons (short_ofAscii "bootstrap") <| hbootstrapTexts.append <| .cons (short_ofAscii "chunk_count") <|
      .cons (short_ofAscii "chunk_index") <| .cons (short_ofAscii "events") <| htexts.append <|
      .cons (short_ofAscii "schema_version") <| .cons (short_ofAscii "capture-batch/v1") <|
      .cons (short_ofAscii "session_id") <| .cons hsessionTexts <| hwindowTexts.append hpathTexts
    have hsum := hparts.mono (n := 1000000) (by decide)
    simpa only [document, JsValue.texts, JsValue.textsOfFields_append, JsValue.texts.textsOfFields, JsValue.field,
      JsValue.natural, JsValue.word, List.cons_append, List.nil_append, List.append_assoc] using hsum
  have hbootstrapJson := hbootstrap
  simp only [Bootstrap.validate, Bool.and_eq_true] at hbootstrapJson
  have hjsonWindow : ∀ (key : String) (text : Option JsString),
      JsValue.isJson.fieldsAreJson (text.toList.map fun t => field key (.text t)) = true := by
    intro key text
    cases text <;> simp [JsValue.isJson.fieldsAreJson, JsValue.isJson, field]
  have hitemsOptional : ∀ (key : String) (text : Option JsString),
      JsValue.items.itemsOfFields (text.toList.map fun t => field key (.text t)) ≤ 1 := by
    intro key text
    cases text <;> simp [JsValue.items.itemsOfFields, JsValue.items, field]
  have hdepthOptional : ∀ (key : String) (text : Option JsString),
      JsValue.depth.depthOfFields (text.toList.map fun t => field key (.text t)) ≤ 1 := by
    intro key text
    cases text <;> simp [JsValue.depth.depthOfFields, JsValue.depth, field]
  have hi := hitemsOptional "window_discriminator" b.windowDiscriminator
  have hi' := hitemsOptional "workspace_path" b.workspacePath
  have hd := hdepthOptional "window_discriminator" b.windowDiscriminator
  have hd' := hdepthOptional "workspace_path" b.workspacePath
  unfold JsValue.canonicalizes
  simp only [Bool.and_eq_true, decide_eq_true_eq]
  refine ⟨⟨⟨⟨?_, ?_⟩, ?_⟩, hall.1⟩, Nat.le_trans hall.2 (by decide)⟩
  · simp only [document, JsValue.isJson, JsValue.fieldsAreJson_append, hjsonWindow, Bool.and_true]
    simp [JsValue.isJson.fieldsAreJson, JsValue.field, JsValue.natural, JsValue.word, JsValue.isJson, hjson,
      Bootstrap.json]
  · simp only [document, JsValue.items, JsValue.itemsOfFields_append]
    simp only [JsValue.items.itemsOfFields, JsValue.field, JsValue.natural, JsValue.word, JsValue.items,
      Bootstrap.json] at hi hi' ⊢
    unfold maxCaptureJsonItems
    omega
  · simp only [document, JsValue.depth, JsValue.depthOfFields_append]
    simp only [JsValue.depth.depthOfFields, JsValue.field, JsValue.natural, JsValue.word, JsValue.depth,
      Bootstrap.json] at hd hd' ⊢
    unfold maxCaptureJsonDepth
    omega

end Batch

end SalienceGate
