import SalienceGate.Bridge.Partition
import SalienceGate.Lib.Dict

/-!
# The coverage of a batch

`inspectChunkCoverage` and `inspectWindowedChunkCoverage` say which chunks of a batch are among some
documents. Of the chunks that were built of a batch, any selection is complete exactly if every index is there.
-/

namespace SalienceGate

/-! ## Documents -/

namespace JsValue

/-- Two values have the same canonical JSON. -/
def sameText : JsValue → JsValue → Bool
  | .null, .null => true
  | .bool value, .bool other => value = other
  | .number literal, .number other => literal = other
  | .text value, .text other => value = other
  | .array values, .array others => sameList values others
  | .object fields, .object others => sameFields fields others
  | .refused, .refused => true
  | _, _ => false
where
  /-- `sameText`, of the values of arrays. -/
  sameList : List JsValue → List JsValue → Bool
    | [], [] => true
    | value :: values, other :: others => sameText value other && sameList values others
    | _, _ => false
  /-- `sameText`, of the fields of objects. -/
  sameFields : List (JsString × JsValue) → List (JsString × JsValue) → Bool
    | [], [] => true
    | field :: fields, other :: others => field.1 = other.1 && sameText field.2 other.2 && sameFields fields others
    | _, _ => false

mutual

theorem sameText_iff : ∀ value other : JsValue, value.sameText other = true ↔ value = other
  | .array values, other => by
    cases other with
    | array others => rw [sameText, sameList_iff values others, array.injEq]
    | _ => simp [sameText]
  | .object fields, other => by
    cases other with
    | object others => rw [sameText, sameFields_iff fields others, object.injEq]
    | _ => simp [sameText]
  | .null, other => by cases other <;> simp [sameText]
  | .bool _, other => by cases other <;> simp [sameText]
  | .number _, other => by cases other <;> simp [sameText]
  | .text _, other => by cases other <;> simp [sameText]
  | .refused, other => by cases other <;> simp [sameText]

theorem sameList_iff : ∀ values others : List JsValue, sameText.sameList values others = true ↔ values = others
  | [], [] => by simp [sameText.sameList]
  | [], _ :: _ => by simp [sameText.sameList]
  | _ :: _, [] => by simp [sameText.sameList]
  | value :: values, other :: others => by
    rw [sameText.sameList, Bool.and_eq_true, sameText_iff value other, sameList_iff values others, List.cons.injEq]

theorem sameFields_iff : ∀ fields others : List (JsString × JsValue),
    sameText.sameFields fields others = true ↔ fields = others
  | [], [] => by simp [sameText.sameFields]
  | [], _ :: _ => by simp [sameText.sameFields]
  | _ :: _, [] => by simp [sameText.sameFields]
  | (key, value) :: fields, (otherKey, other) :: others => by
    rw [sameText.sameFields, Bool.and_eq_true, Bool.and_eq_true, decide_eq_true_eq, sameText_iff value other,
      sameFields_iff fields others, List.cons.injEq, Prod.mk.injEq]

end

end JsValue

/-- A document of a chunk. -/
structure CaptureDocument where
  batch : Batch
  chunkIndex : ℕ
  chunkCount : ℕ
  events : List JsValue

namespace CaptureDocument

/-- The document as JSON. -/
def json (chunk : CaptureDocument) : JsValue := chunk.batch.document chunk.chunkIndex chunk.chunkCount chunk.events

/-- The document has the coordinates of the first one, and an index of their batch. -/
def isOf (first chunk : CaptureDocument) : Bool :=
  chunk.batch.batchId = first.batch.batchId && chunk.batch.sessionId = first.batch.sessionId
    && chunk.batch.workspacePath = first.batch.workspacePath
    && chunk.batch.windowDiscriminator = first.batch.windowDiscriminator
    && chunk.chunkCount = first.chunkCount && chunk.chunkIndex < first.chunkCount

end CaptureDocument

/-! ## Inspection -/

/-- `CaptureChunkCoverage`. -/
structure Coverage where
  complete : Bool
  missingIndexes : List ℕ
deriving DecidableEq

/-- A round of the loop over the documents: the values that were observed at the indexes. -/
def observe (first : CaptureDocument) (observed : Dict ℕ JsValue) (chunk : CaptureDocument) : Option (Dict ℕ JsValue) :=
  if !first.isOf chunk then none
  else if !chunk.json.canonicalizes then none
  else if (observed.get? chunk.chunkIndex).any fun prior => !prior.sameText chunk.json then none
  else some (observed.set chunk.chunkIndex chunk.json)

/-- `inspectChunkCoverage` and `inspectWindowedChunkCoverage`; the documents of the former have no window. -/
def inspectChunkCoverage : List CaptureDocument → Option Coverage
  | [] => none
  | first :: rest =>
    if !first.batch.windowDiscriminator.all isSha256 || first.chunkCount < 1 || maxCaptureBatchChunks < first.chunkCount then
      none
    else
      ((first :: rest).foldlM (observe first) .empty).map fun observed =>
        let missingIndexes := (List.range first.chunkCount).filter fun index => index ∉ observed
        ⟨missingIndexes.isEmpty, missingIndexes⟩

namespace Batch

variable {b : Batch} {chunks : List (List JsValue)}

/-- The documents of chunks. -/
def documents (b : Batch) (chunks : List (List JsValue)) : List CaptureDocument :=
  chunks.zipIdx.map fun group => ⟨b, group.2, chunks.length, group.1⟩

theorem mem_documents {chunk : CaptureDocument} :
    chunk ∈ b.documents chunks ↔ ∃ index group, chunks[index]? = some group ∧ chunk = ⟨b, index, chunks.length, group⟩ := by
  unfold documents
  rw [List.mem_map]
  constructor
  · rintro ⟨⟨group, index⟩, hmem, rfl⟩
    exact ⟨index, group, List.mem_zipIdx_iff_getElem?.mp hmem, rfl⟩
  · rintro ⟨index, group, hget, rfl⟩
    exact ⟨(group, index), List.mem_zipIdx_iff_getElem?.mpr hget, rfl⟩

/-- What was observed are documents of the chunks. -/
def Observed (b : Batch) (chunks : List (List JsValue)) (observed : Dict ℕ JsValue) : Prop :=
  ∀ index value, observed.get? index = some value →
    ∃ group, chunks[index]? = some group ∧ value = b.document index chunks.length group

theorem observe_of_mem {observed : Dict ℕ JsValue} (hobserved : b.Observed chunks observed)
    {first chunk : CaptureDocument} (hfirst : first ∈ b.documents chunks) (hchunk : chunk ∈ b.documents chunks)
    (hcanonicalizes : chunk.json.canonicalizes = true) :
    observe first observed chunk = some (observed.set chunk.chunkIndex chunk.json)
      ∧ b.Observed chunks (observed.set chunk.chunkIndex chunk.json) := by
  obtain ⟨firstIndex, firstGroup, -, rfl⟩ := mem_documents.mp hfirst
  obtain ⟨index, group, hget, rfl⟩ := mem_documents.mp hchunk
  have hlt : index < chunks.length := (List.getElem?_eq_some_iff.mp hget).1
  refine ⟨?_, fun k value hvalue => ?_⟩
  · unfold observe
    rw [if_neg (by simp [CaptureDocument.isOf, hlt]), if_neg (by simp [hcanonicalizes])]
    rw [if_neg]
    -- A document that was observed at this index is the same.
    cases hprior : observed.get? index with
    | none => simp
    | some prior =>
      obtain ⟨other, hother, rfl⟩ := hobserved index prior hprior
      have hsame : other = group := Option.some.inj (hother.symm.trans hget)
      have htext := (JsValue.sameText_iff (b.document index chunks.length other)
        (b.document index chunks.length group)).mpr (by rw [hsame])
      simp [CaptureDocument.json, htext]
  · rcases Dict.get?_set_eq_some.mp hvalue with ⟨rfl, rfl⟩ | ⟨-, hvalue⟩
    · exact ⟨group, hget, rfl⟩
    · exact hobserved k value hvalue

/-- The documents of chunks are observed, one after the other. -/
theorem foldlM_observe {first : CaptureDocument} (hfirst : first ∈ b.documents chunks) :
    ∀ (selection : List CaptureDocument) (observed : Dict ℕ JsValue), b.Observed chunks observed →
      (∀ chunk ∈ selection, chunk ∈ b.documents chunks ∧ chunk.json.canonicalizes = true) →
      ∃ result, selection.foldlM (observe first) observed = some result
        ∧ ∀ index, index ∈ result ↔ index ∈ observed ∨ ∃ chunk ∈ selection, chunk.chunkIndex = index
  | [], observed, _, _ => ⟨observed, rfl, fun index => by simp⟩
  | chunk :: selection, observed, hobserved, hall => by
    obtain ⟨hmem, hcanonicalizes⟩ := hall chunk List.mem_cons_self
    obtain ⟨hobserve, hnext⟩ := observe_of_mem hobserved hfirst hmem hcanonicalizes
    obtain ⟨result, hrun, hresult⟩ := foldlM_observe hfirst selection _ hnext
      fun other hother => hall other (List.mem_cons_of_mem _ hother)
    refine ⟨result, ?_, fun index => ?_⟩
    · rw [List.foldlM_cons, hobserve]
      exact hrun
    · rw [hresult, Dict.mem_set]
      constructor
      · rintro ((rfl | hbefore) | ⟨other, hother, heq⟩)
        · exact .inr ⟨chunk, List.mem_cons_self, rfl⟩
        · exact .inl hbefore
        · exact .inr ⟨other, List.mem_cons_of_mem _ hother, heq⟩
      · rintro (hbefore | ⟨other, hother, heq⟩)
        · exact .inl (.inr hbefore)
        · rcases List.mem_cons.mp hother with rfl | hother
          · exact .inl (.inl heq.symm)
          · exact .inr ⟨other, hother, heq⟩

/-- A selection of the documents is complete if every index is there. -/
theorem inspectChunkCoverage_of_subset (hwindow : b.windowDiscriminator.all isSha256 = true)
    (hcount : chunks.length ≤ maxCaptureBatchChunks)
    (hfits : ∀ index group, chunks[index]? = some group → b.Fits index chunks.length group)
    {selection : List CaptureDocument} (hselection : selection ⊆ b.documents chunks) (hne : selection ≠ []) :
    ∃ coverage, inspectChunkCoverage selection = some coverage
      ∧ (coverage.complete = true ↔ ∀ index < chunks.length, ∃ chunk ∈ selection, chunk.chunkIndex = index) := by
  have hall : ∀ chunk ∈ selection, chunk ∈ b.documents chunks ∧ chunk.json.canonicalizes = true := by
    intro chunk hmem
    have hdocument := hselection hmem
    obtain ⟨index, group, hget, rfl⟩ := mem_documents.mp hdocument
    exact ⟨hdocument, (hfits index group hget).1⟩
  cases selection with
  | nil => exact absurd rfl hne
  | cons first rest =>
    have hfirst := (hall first List.mem_cons_self).1
    obtain ⟨result, hrun, hresult⟩ := foldlM_observe hfirst (first :: rest) .empty nofun hall
    obtain ⟨index, group, hget, rfl⟩ := mem_documents.mp hfirst
    have hpos : index < chunks.length := (List.getElem?_eq_some_iff.mp hget).1
    unfold inspectChunkCoverage
    dsimp only
    rw [if_neg (by
      simp only [hwindow, Bool.not_true, Bool.false_or, Bool.or_eq_true, decide_eq_true_eq]
      omega), hrun]
    refine ⟨_, rfl, ?_⟩
    rw [List.isEmpty_iff, List.filter_eq_nil_iff]
    simp only [List.mem_range, decide_eq_true_eq, not_not]
    refine forall_congr' fun k => forall_congr' fun _ => ?_
    rw [hresult]
    exact or_iff_right (Dict.notMem_empty k)

end Batch

/-! ## What is built -/

/-- A field of an object has this text. -/
def JsValue.hasText (key : String) (text : JsString) : JsValue → Bool
  | .object fields => (fields.find? fun field => field.1 = .ofAscii key).any fun field =>
    match field.2 with
    | .text value => value = text
    | _ => false
  | _ => false

/-- `hasWindowCoordinates`. -/
def hasWindowCoordinates (sessionId window : JsString) (event : JsValue) : Bool :=
  event.hasText "session_id" sessionId && event.hasText "window_discriminator" window

namespace Batch

variable {b : Batch} {events : List JsValue} {chunks : List (List JsValue)}

/-- `buildCaptureChunks`, and `buildWindowedCaptureChunks` for a batch of a window. -/
def build (b : Batch) (events : List JsValue) : Option (List (List JsValue)) :=
  match b.windowDiscriminator with
  | none => buildCaptureChunks b b.accepted b.oversize events
  | some window =>
    buildWindowedCaptureChunks b b.accepted (hasWindowCoordinates b.sessionId window) b.oversize events

/-- The events that the chunks of a batch carry. -/
def sent (b : Batch) (events : List JsValue) : List JsValue := events.map (chunkedEvent b b.oversize)

/-- The chunks are a split of the events, each of which fits, and a selection of their documents is complete if
every index is there. -/
structure Partition (b : Batch) (events : List JsValue) (chunks : List (List JsValue)) : Prop where
  flatten : chunks.flatten = b.sent events
  /-- Each event is carried as it is, or replaced by an oversize record. -/
  carried : ∀ event ∈ events, (b.Carries event ∧ chunkedEvent b b.oversize event = event)
    ∨ (¬b.Carries event ∧ chunkedEvent b b.oversize event = b.oversize)
  count : 1 ≤ chunks.length ∧ chunks.length ≤ 1000
  fits : ∀ index group, chunks[index]? = some group →
    group.length ≤ 999 ∧ canonicalLength (b.document index chunks.length group) =
        some (b.document index chunks.length group).encodedLength
      ∧ (b.document index chunks.length group).encodedLength ≤ 2 * 1024 * 1024
  /-- Nothing is reported of no documents. -/
  coverage : ∀ selection, selection ⊆ b.documents chunks →
    ((inspectChunkCoverage selection).isSome ↔ selection ≠ [])
      ∧ ((inspectChunkCoverage selection).any Coverage.complete = true
        ↔ ∀ index < chunks.length, ∃ chunk ∈ selection, chunk.chunkIndex = index)

theorem hasWindowCoordinates_oversize {window : JsString} (h : b.windowDiscriminator = some window) :
    hasWindowCoordinates b.sessionId window b.oversize = true := by
  have hsession : b.oversize.hasText "session_id" b.sessionId = true := by
    simp [oversize, JsValue.hasText, JsValue.field, JsString.ofAscii]
  have hwindow : b.oversize.hasText "window_discriminator" window = true := by
    unfold oversize
    rw [h]
    simp [JsValue.hasText, JsValue.field, JsString.ofAscii]
  unfold hasWindowCoordinates
  rw [hsession, hwindow]
  rfl

/-- Where the events have the coordinates of the window, the two functions do the same. -/
theorem build_eq (hwindow : ∀ window, b.windowDiscriminator = some window →
      ∀ event ∈ events, hasWindowCoordinates b.sessionId window event = true) :
    b.build events = buildCaptureChunks b b.accepted b.oversize events := by
  unfold build
  cases hdiscriminator : b.windowDiscriminator with
  | none => rfl
  | some window =>
    dsimp only
    unfold buildWindowedCaptureChunks
    rw [if_pos]
    rw [List.all_eq_true]
    intro event hmem
    unfold normalizeCaptureEvent
    split
    · exact hwindow window hdiscriminator event hmem
    · exact hasWindowCoordinates_oversize hdiscriminator

theorem chunkedEvent_cases (h : b.accepted = true) (event : JsValue) :
    (b.Carries event ∧ chunkedEvent b b.oversize event = event)
      ∨ (¬b.Carries event ∧ chunkedEvent b b.oversize event = b.oversize) := by
  classical
  rw [chunkedEvent_eq h]
  by_cases hcarries : b.Carries event
  · exact .inl ⟨hcarries, if_pos hcarries⟩
  · exact .inr ⟨hcarries, if_neg hcarries⟩

/-- Every group fits at its place, unless it is an oversize record alone. -/
theorem fits_groupEvents (h : b.accepted = true) {index : ℕ} {group : List JsValue}
    (hcount : (groupEvents b (b.sent events)).length ≤ maxCaptureBatchChunks)
    (hget : (groupEvents b (b.sent events))[index]? = some group) :
    group.length ≤ maxCaptureEventsPerChunk
      ∧ (b.Fits index (groupEvents b (b.sent events)).length group
        ∨ (group = [b.oversize] ∧ ∃ event ∈ events, ¬b.Carries event)) := by
  have hindex : index < (groupEvents b (b.sent events)).length := (List.getElem?_eq_some_iff.mp hget).1
  have hlt : index < maxCaptureBatchChunks := Nat.lt_of_lt_of_le hindex hcount
  by_cases hne : b.sent events = []
  · rw [hne] at hget hcount ⊢
    -- Without events there is one chunk, which has none.
    have hnil : groupEvents b ([] : List JsValue) = [[]] := rfl
    rw [hnil] at hget hcount ⊢
    obtain ⟨hzero, hgroup⟩ := List.getElem?_eq_some_iff.mp hget
    have hnone : group = [] := by
      rw [← hgroup]
      have hone : index = 0 := by simpa using hzero
      subst hone
      rfl
    rw [hnone]
    exact ⟨Nat.zero_le _, .inl (fits_nil h hlt hcount)⟩
  obtain ⟨hflatten, hgroups⟩ := splits_groupEvents hne
  obtain ⟨hnonempty, hone | hadmitted⟩ := hgroups index group hget
  · refine ⟨?_, ?_⟩
    · rw [hone]
      decide
    obtain ⟨event, rfl⟩ := List.length_eq_one_iff.mp hone
    have hmem : event ∈ b.sent events := by
      rw [← hflatten]
      exact List.mem_flatten_of_mem (List.mem_of_getElem? hget) (List.mem_singleton_self event)
    obtain ⟨original, horiginal, rfl⟩ := List.mem_map.mp hmem
    rcases chunkedEvent_cases h original with ⟨hcarries, heq⟩ | ⟨hcarries, heq⟩
    · rw [heq]
      exact .inl (hcarries.2.2 index hlt _ hcount)
    · rw [heq]
      exact .inr ⟨rfl, original, horiginal, hcarries⟩
  · refine ⟨hadmitted.1, .inl ?_⟩
    exact ((encodedSize_le_iff index group).mp hadmitted.2).count hcount

/-- The groups are a partition if each fits. -/
theorem partition_of_fits (h : b.accepted = true) (hcount : (groupEvents b (b.sent events)).length ≤ maxCaptureBatchChunks)
    (hfits : ∀ index group, (groupEvents b (b.sent events))[index]? = some group →
      b.Fits index (groupEvents b (b.sent events)).length group) :
    b.Partition events (groupEvents b (b.sent events)) := by
  have hpos : 1 ≤ (groupEvents b (b.sent events)).length := List.length_pos_iff.mpr (groupEvents_ne_nil b _)
  have hwindow : b.windowDiscriminator.all isSha256 = true := by
    simp only [accepted, Bool.and_eq_true] at h
    exact h.1.2
  refine ⟨flatten_groupEvents b _, fun event _ => chunkedEvent_cases h event, ⟨hpos, hcount⟩,
    fun index group hget => ?_, fun selection hselection => ?_⟩
  · obtain ⟨hcanonicalizes, hlength⟩ := hfits index group hget
    exact ⟨(fits_groupEvents h hcount hget).1, if_pos hcanonicalizes, hlength⟩
  · by_cases hne : selection = []
    · subst hne
      refine ⟨⟨(fun h => by cases h), fun hne => absurd rfl hne⟩, (fun h => by cases h), fun hall => ?_⟩
      obtain ⟨chunk, hmem, -⟩ := hall 0 hpos
      cases hmem
    · obtain ⟨coverage, hinspect, hcomplete⟩ := inspectChunkCoverage_of_subset hwindow hcount hfits hselection hne
      rw [hinspect]
      exact ⟨⟨fun _ => hne, fun _ => rfl⟩, hcomplete⟩

/-- Nothing is built only where every split has too many chunks, or a chunk with an oversize record alone would be
too large. -/
def Refuses (b : Batch) (events : List JsValue) : Prop :=
  (∀ groups, b.Splits (b.sent events) groups → 1000 < groups.length)
    ∨ ((∃ event ∈ events, ¬b.Carries event) ∧ ∃ index < 1000, ∃ count ≤ 1000,
      2 * 1024 * 1024 < (b.document index count [b.oversize]).encodedLength)

/-- The chunks of a batch. -/
theorem build_partition (b : Batch) (events : List JsValue) (haccepted : b.accepted = true)
    (hlength : events.length ≤ 10000) (hwindow : ∀ window, b.windowDiscriminator = some window →
      ∀ event ∈ events, hasWindowCoordinates b.sessionId window event = true) :
    (b.build events = none ∧ b.Refuses events) ∨ ∃ chunks, b.build events = some chunks ∧ b.Partition events chunks := by
  rw [build_eq hwindow]
  unfold buildCaptureChunks
  dsimp only
  rw [if_neg (by simp [haccepted]; omega), show events.map (chunkedEvent b b.oversize) = b.sent events from rfl]
  by_cases hmany : maxCaptureBatchChunks < (groupEvents b (b.sent events)).length
  · rw [if_pos hmany]
    refine .inl ⟨rfl, .inl fun groups hsplits => ?_⟩
    have hne : b.sent events ≠ [] := by
      intro hnil
      rw [hnil] at hmany
      exact absurd hmany (show ¬maxCaptureBatchChunks < 1 by decide)
    have hle := length_groupEvents_le hsplits hne
    exact Nat.lt_of_lt_of_le hmany hle
  have hcount : (groupEvents b (b.sent events)).length ≤ maxCaptureBatchChunks := Nat.le_of_not_lt hmany
  rw [if_neg hmany]
  split
  next hall =>
    refine .inr ⟨_, rfl, ?_⟩
    have hfits : ∀ index group, (groupEvents b (b.sent events))[index]? = some group →
        b.Fits index (groupEvents b (b.sent events)).length group := by
      intro index group hget
      have hgroup := List.all_eq_true.mp hall (group, index) (List.mem_zipIdx_iff_getElem?.mpr hget)
      exact (documentFits_iff _ index group).mp hgroup
    exact partition_of_fits haccepted hcount hfits
  next hrefused =>
    refine .inl ⟨rfl, .inr ?_⟩
    rw [List.all_eq_true] at hrefused
    push Not at hrefused
    obtain ⟨⟨group, index⟩, hmem, hlarge⟩ := hrefused
    have hget := List.mem_zipIdx_iff_getElem?.mp hmem
    have hnot : ¬b.Fits index (groupEvents b (b.sent events)).length group := fun hfits =>
      hlarge ((documentFits_iff _ index group).mpr hfits)
    obtain ⟨rfl, hevent⟩ := ((fits_groupEvents haccepted hcount hget).2).resolve_left hnot
    have hindex := (List.getElem?_eq_some_iff.mp hget).1
    refine ⟨hevent, index, Nat.lt_of_lt_of_le hindex hcount, _, hcount, Nat.lt_of_not_le fun hle => hnot ⟨?_, hle⟩⟩
    rw [canonicalizes_document]
    exact canonicalizes_oversize haccepted

/-! ### A session id that is escaped -/

/-- A digest. -/
def zeros : JsString := .ofAscii "0000000000000000000000000000000000000000000000000000000000000000"

/-- A batch of a session, with a bootstrap that is as it should be. -/
def ofSession (sessionId : JsString) : Batch where
  bootstrap := ⟨.ofAscii "integration-bootstrap/v1", .ofAscii "opencode-plugin/v1",
    .ofAscii "sg-000000000000000000000000000000000000000000000000", .ofAscii "/", zeros, zeros, zeros⟩
  batchId := zeros
  sessionId := sessionId
  workspacePath := none
  windowDiscriminator := none

theorem sessionId_ofSession (sessionId : JsString) : (ofSession sessionId).sessionId = sessionId := rfl

theorem build_partition_ofSession : ((ofSession (.ofAscii "s")).build [.null] = none ∧ (ofSession (.ofAscii "s")).Refuses [.null])
    ∨ ∃ chunks, (ofSession (.ofAscii "s")).build [.null] = some chunks
      ∧ (ofSession (.ofAscii "s")).Partition [.null] chunks :=
  build_partition _ _ (by decide) (by decide) nofun

/-- A control character without a letter of its own. -/
def startOfHeading : Fin 65536 := ⟨1, by decide⟩

/-- The longest session id, of control characters: each is six bytes in JSON. -/
def escapedSessionId : JsString := ⟨List.replicate 262144 startOfHeading⟩

theorem utf8Bytes_replicate (n : ℕ) : JsString.utf8Bytes (List.replicate n startOfHeading) = n := by
  induction n with
  | zero => rfl
  | succ n ih =>
    cases n with
    | zero => rfl
    | succ n =>
      rw [List.replicate_succ, List.replicate_succ, JsString.utf8Bytes, if_pos (by decide), ← List.replicate_succ, ih]
      omega

theorem escapedUnits_replicate (n : ℕ) : JsString.escapedUnits (List.replicate n startOfHeading) = 6 * n := by
  have hsix : JsString.escapedLength startOfHeading = 6 := by decide
  induction n with
  | zero => rfl
  | succ n ih =>
    cases n with
    | zero => exact hsix
    | succ n =>
      rw [List.replicate_succ, List.replicate_succ, JsString.escapedUnits, if_neg (by decide), ← List.replicate_succ, ih,
        hsix]
      omega

theorem accepted_ofSession {sessionId : JsString} (hne : sessionId.units ≠ [])
    (hformed : sessionId.isWellFormedUnicode = true) (hbytes : sessionId.byteLength ≤ maxCaptureSessionIdBytes) :
    (ofSession sessionId).accepted = true := by
  have hbootstrap : (ofSession sessionId).bootstrap.validate = true :=
    show (ofSession (.ofAscii "s")).bootstrap.validate = true by decide
  have hbatch : isSha256 (ofSession sessionId).batchId = true := show isSha256 zeros = true by decide
  have hlimit : sessionId.byteLength ≤ maxCaptureJsonStringBytes := Nat.le_trans hbytes (by decide)
  have hcanonicalizes : (JsValue.text sessionId).canonicalizes = true := by
    unfold JsValue.canonicalizes JsValue.stringBytes
    simp [JsValue.isJson, JsValue.items, JsValue.depth, JsValue.texts, hformed, hlimit, maxCaptureJsonItems]
  unfold accepted
  rw [hbootstrap, hbatch, show (ofSession sessionId).sessionId = sessionId from rfl, decide_eq_true hne,
    decide_eq_true hbytes, hcanonicalizes]
  rfl

theorem accepted_escaped : (ofSession escapedSessionId).accepted = true := by
  refine accepted_ofSession (List.cons_ne_nil startOfHeading (List.replicate 262143 startOfHeading)) ?_ ?_
  · refine JsString.wellFormedUnits_of_lt fun code hmem => ?_
    rw [List.eq_of_mem_replicate hmem]
    decide
  · exact Nat.le_of_eq (utf8Bytes_replicate 262144)

theorem quotedLength_le_frame (b : Batch) : b.sessionId.quotedLength ≤ b.frame := by
  unfold frame document
  simp only [JsValue.encodedLength, JsValue.lengthOfFields_append, JsValue.encodedLength.lengthOfFields, JsValue.field]
  omega

theorem quotedLength_le_oversize (b : Batch) : b.sessionId.quotedLength ≤ b.oversize.encodedLength := by
  unfold oversize
  simp only [JsValue.encodedLength, JsValue.lengthOfFields_append, JsValue.encodedLength.lengthOfFields, JsValue.field]
  omega

theorem quotedLength_replicate (n : ℕ) : JsString.quotedLength ⟨List.replicate n startOfHeading⟩ = 2 + 6 * n := by
  unfold JsString.quotedLength
  rw [escapedUnits_replicate]

theorem quotedLength_escapedSessionId : escapedSessionId.quotedLength = 2 + 6 * 262144 := quotedLength_replicate 262144

theorem groupEvents_oversize (b : Batch) : groupEvents b [b.oversize] = [[b.oversize]] := rfl

theorem sent_refused {b : Batch} (haccepted : b.accepted = true) : b.sent [.refused] = [b.oversize] := by
  rcases chunkedEvent_cases haccepted .refused with ⟨hcarries, -⟩ | ⟨-, heq⟩
  · cases hcarries.1
  · exact congrArg (fun event => [event]) heq

/-- An oversize record does not fit beside its own session id, if that is long. -/
theorem not_fits_oversize {b : Batch} (hsession : maxCaptureBatchBytes + 3 < 2 * b.sessionId.quotedLength)
    (chunkIndex chunkCount : ℕ) : ¬b.Fits chunkIndex chunkCount [b.oversize] := by
  rintro ⟨-, hlength⟩
  have hdocument := b.encodedLength_document chunkIndex chunkCount [b.oversize]
  have hframe := quotedLength_le_frame b
  have hoversize := quotedLength_le_oversize b
  rw [lengthOfList_singleton] at hdocument
  omega

/-- A session with a long id has no chunk for an event that cannot be encoded. -/
theorem build_refused {b : Batch} (haccepted : b.accepted = true) (hwindow : b.windowDiscriminator = none)
    (hsession : maxCaptureBatchBytes + 3 < 2 * b.sessionId.quotedLength) : b.build [.refused] = none := by
  have hsent : [JsValue.refused].map (chunkedEvent b b.oversize) = [b.oversize] := sent_refused haccepted
  have hone : ¬maxCaptureBatchChunks < [[b.oversize]].length := show ¬maxCaptureBatchChunks < 1 by decide
  rw [build_eq (by rw [hwindow]; nofun)]
  unfold buildCaptureChunks
  dsimp only
  rw [hsent, groupEvents_oversize b, if_neg (by simp [haccepted]), if_neg hone, if_neg]
  intro hall
  have hfits := List.all_eq_true.mp hall ([b.oversize], 0) List.mem_cons_self
  exact not_fits_oversize hsession 0 1 ((documentFits_iff 1 0 _).mp hfits)

theorem splits_refused {b : Batch} (haccepted : b.accepted = true) : b.Splits (b.sent [.refused]) [[b.oversize]] := by
  have hsplits : b.Splits (b.sent [.refused]) (groupEvents b (b.sent [.refused])) := by
    rw [sent_refused haccepted]
    exact splits_groupEvents (List.cons_ne_nil _ _)
  rw [sent_refused haccepted, groupEvents_oversize] at hsplits
  rw [sent_refused haccepted]
  exact hsplits

theorem fits_build_refused {b : Batch} (haccepted : b.accepted = true) (hwindow : b.windowDiscriminator = none)
    (hsession : maxCaptureBatchBytes + 3 < 2 * b.sessionId.quotedLength) :
    b.accepted = true ∧ b.Fits 0 1 [] ∧ b.Splits (b.sent [.refused]) [[b.oversize]] ∧ b.build [.refused] = none :=
  ⟨haccepted, fits_nil haccepted (by decide) (by decide), splits_refused haccepted,
    build_refused haccepted hwindow hsession⟩

/-- The session id alone fits into a chunk, and one chunk would do; but the oversize record of an event that cannot
be encoded has the session id once more. -/
theorem build_escaped : (ofSession escapedSessionId).accepted = true ∧ (ofSession escapedSessionId).Fits 0 1 []
    ∧ (ofSession escapedSessionId).Splits ((ofSession escapedSessionId).sent [.refused])
        [[(ofSession escapedSessionId).oversize]]
    ∧ (ofSession escapedSessionId).build [.refused] = none := by
  have hsession : maxCaptureBatchBytes + 3 < 2 * (ofSession escapedSessionId).sessionId.quotedLength := by
    rw [sessionId_ofSession, quotedLength_escapedSessionId]
    unfold maxCaptureBatchBytes
    omega
  exact fits_build_refused accepted_escaped rfl hsession

end Batch

end SalienceGate
