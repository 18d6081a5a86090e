import SalienceGate.Lib.Greedy
import SalienceGate.Bridge.Documents
import Mathlib.Algebra.Order.BigOperators.Group.List
import Mathlib.Algebra.Order.Ring.Nat

/-!
# The chunks of a batch

`buildCaptureChunks` and `buildWindowedCaptureChunks` split the events of a batch, and
`inspectChunkCoverage` says whether all chunks of a split are there. The loop over the events is the greedy
split of `Lib/Greedy.lean`, with an estimate of the size of a document for whether a group fits: the chunk
count is taken to be 1000. The final document is not larger. A group of one event is not estimated at its
index; with an event of at most 64 KiB it fits all the same, and an oversize record, which has the session id
once more, may not.
-/

namespace SalienceGate

/-! ## Parts of a list of events -/

namespace JsValue

theorem isJson_of_sublist {part values : List JsValue} (h : part.Sublist values) (hjson : isJson.listIsJson values = true) :
    isJson.listIsJson part = true := by
  induction h with
  | slnil => rfl
  | cons value _ ih =>
    rw [isJson.listIsJson, Bool.and_eq_true] at hjson
    exact ih hjson.2
  | cons_cons value _ ih =>
    rw [isJson.listIsJson, Bool.and_eq_true] at hjson ⊢
    exact ⟨hjson.1, ih hjson.2⟩

theorem items_le_of_sublist {part values : List JsValue} (h : part.Sublist values) :
    items.itemsOfList part ≤ items.itemsOfList values := by
  induction h with
  | slnil => exact Nat.le_refl _
  | cons value _ ih =>
    rw [items.itemsOfList]
    omega
  | cons_cons value _ ih =>
    rw [items.itemsOfList, items.itemsOfList]
    omega

theorem depth_le_of_sublist {part values : List JsValue} (h : part.Sublist values) :
    depth.depthOfList part ≤ depth.depthOfList values := by
  induction h with
  | slnil => exact Nat.le_refl _
  | cons value _ ih =>
    rw [depth.depthOfList]
    omega
  | cons_cons value _ ih =>
    rw [depth.depthOfList, depth.depthOfList]
    omega

theorem texts_sublist {part values : List JsValue} (h : part.Sublist values) :
    (texts.textsOfList part).Sublist (texts.textsOfList values) := by
  induction h with
  | slnil => exact List.Sublist.refl _
  | cons value _ ih => exact ih.trans (List.sublist_append_right _ _)
  | cons_cons value _ ih => exact ih.append_left _

theorem length_le_of_sublist {part values : List JsValue} (h : part.Sublist values) :
    encodedLength.lengthOfList part ≤ encodedLength.lengthOfList values := by
  induction h with
  | slnil => exact Nat.le_refl _
  | cons value _ ih =>
    rw [encodedLength.lengthOfList]
    omega
  | cons_cons value _ ih =>
    rw [encodedLength.lengthOfList, encodedLength.lengthOfList]
    omega

end JsValue

namespace Batch

open JsValue

variable {b : Batch}

/-- The texts of a document are those of its events, and others before and after. -/
theorem texts_document (b : Batch) : ∃ before after, ∀ events,
    (b.document 0 0 events).texts = before ++ texts.textsOfList events ++ after := by
  refine ⟨.ofAscii "batch_id" :: b.batchId :: .ofAscii "bootstrap" :: (b.bootstrap.json.texts
      ++ [.ofAscii "chunk_count", .ofAscii "chunk_index", .ofAscii "events"]),
    .ofAscii "schema_version" :: .ofAscii "capture-batch/v1" :: .ofAscii "session_id" :: b.sessionId
      :: (texts.textsOfFields (b.windowDiscriminator.toList.map fun window => field "window_discriminator" (.text window))
        ++ texts.textsOfFields (b.workspacePath.toList.map fun path => field "workspace_path" (.text path))),
    fun events => ?_⟩
  simp only [document, texts, textsOfFields_append, texts.textsOfFields, field, natural, word, List.cons_append,
    List.nil_append, List.append_assoc]

/-- A document with a part of the events is encoded if the whole one is. -/
theorem canonicalizes_document_of_sublist {part events : List JsValue} (h : part.Sublist events)
    (hdocument : (b.document 0 0 events).canonicalizes = true) : (b.document 0 0 part).canonicalizes = true := by
  obtain ⟨before, after, htexts⟩ := texts_document b
  have hsublist := texts_sublist h
  unfold canonicalizes at hdocument ⊢
  simp only [Bool.and_eq_true, decide_eq_true_eq] at hdocument ⊢
  obtain ⟨⟨⟨⟨hjson, hitems⟩, hdepth⟩, hformed⟩, hbytes⟩ := hdocument
  have hall : ((b.document 0 0 part).texts).Sublist (b.document 0 0 events).texts := by
    rw [htexts, htexts]
    exact (hsublist.append_left before).append_right after
  refine ⟨⟨⟨⟨?_, ?_⟩, ?_⟩, ?_⟩, ?_⟩
  · simp only [document, isJson, fieldsAreJson_append, isJson.fieldsAreJson, field, Bool.and_eq_true] at hjson ⊢
    obtain ⟨⟨⟨h1, h2, h3, h4, h5, h6, h7⟩, hwindow⟩, hpath⟩ := hjson
    exact ⟨⟨⟨h1, h2, h3, h4, isJson_of_sublist h h5, h6, h7⟩, hwindow⟩, hpath⟩
  · have hle := items_le_of_sublist h
    simp only [document, items, itemsOfFields_append, items.itemsOfFields, field] at hitems ⊢
    omega
  · have hle := depth_le_of_sublist h
    simp only [document, depth, depthOfFields_append, depth.depthOfFields, field] at hdepth ⊢
    omega
  · rw [List.all_eq_true] at hformed ⊢
    exact fun text hmem => hformed text (hall.subset hmem)
  · refine Nat.le_trans ?_ hbytes
    exact (hall.map JsString.byteLength).sum_le_sum fun _ _ => Nat.zero_le _

/-! ## The estimate -/

/-- A document fits into a chunk. -/
def Fits (b : Batch) (chunkIndex chunkCount : ℕ) (events : List JsValue) : Prop :=
  (b.document chunkIndex chunkCount events).canonicalizes = true
    ∧ (b.document chunkIndex chunkCount events).encodedLength ≤ maxCaptureBatchBytes

theorem encodedSize_le_iff (chunkIndex : ℕ) (events : List JsValue) :
    encodedSize b chunkIndex events ≤ maxCaptureBatchBytes ↔ b.Fits chunkIndex maxCaptureBatchChunks events := by
  show (canonicalLength (b.document chunkIndex maxCaptureBatchChunks events)).getD (maxCaptureBatchBytes + 1) ≤ _ ↔ _
  unfold canonicalLength Fits
  split
  next hcanonicalizes => simp [hcanonicalizes]
  next hrefused => simp [hrefused]

theorem documentFits_iff (chunkCount chunkIndex : ℕ) (events : List JsValue) :
    documentFits b chunkCount chunkIndex events = true ↔ b.Fits chunkIndex chunkCount events := by
  show (canonicalLength (b.document chunkIndex chunkCount events)).any _ = true ↔ _
  unfold canonicalLength Fits
  split
  next hcanonicalizes => simp [hcanonicalizes]
  next hrefused => simp [hrefused]

theorem Fits.part {chunkIndex chunkCount : ℕ} {part events : List JsValue} (hfits : b.Fits chunkIndex chunkCount events)
    (h : part.Sublist events) : b.Fits chunkIndex chunkCount part := by
  obtain ⟨hcanonicalizes, hlength⟩ := hfits
  refine ⟨?_, ?_⟩
  · rw [canonicalizes_document] at hcanonicalizes ⊢
    exact canonicalizes_document_of_sublist h hcanonicalizes
  · have hpart := b.encodedLength_document chunkIndex chunkCount part
    have hall := b.encodedLength_document chunkIndex chunkCount events
    have hevents := length_le_of_sublist h
    have hcount := h.length_le
    omega

/-- The estimate counts four digits for the number of the chunks. -/
theorem Fits.count {chunkIndex chunkCount : ℕ} {events : List JsValue}
    (hfits : b.Fits chunkIndex maxCaptureBatchChunks events) (hcount : chunkCount ≤ maxCaptureBatchChunks) :
    b.Fits chunkIndex chunkCount events := by
  obtain ⟨hcanonicalizes, hlength⟩ := hfits
  refine ⟨?_, ?_⟩
  · rw [canonicalizes_document] at hcanonicalizes ⊢
    exact hcanonicalizes
  · have hestimate := b.encodedLength_document chunkIndex maxCaptureBatchChunks events
    have hfinal := b.encodedLength_document chunkIndex chunkCount events
    have hdigits : chunkCount.repr.length ≤ 4 := length_repr_le (by decide) (Nat.lt_of_le_of_lt hcount (by decide))
    have hfour : maxCaptureBatchChunks.repr.length = 4 := rfl
    omega

/-- The session id takes less than a chunk, also when it is escaped. -/
theorem quotedLength_sessionId (h : b.accepted = true) : b.sessionId.quotedLength ≤ 1572866 := by
  simp only [accepted, Bool.and_eq_true, decide_eq_true_eq] at h
  have hbytes := h.1.1.1.2
  have hquoted := b.sessionId.quotedLength_le
  have hunits := b.sessionId.length_le_byteLength
  unfold maxCaptureSessionIdBytes at hbytes
  omega

/-- A document of a batch that has an event of at most 64 KiB, or none, is small enough. -/
theorem encodedLength_le_of_single (h : b.accepted = true) {chunkIndex chunkCount : ℕ}
    (hindex : chunkIndex < maxCaptureBatchChunks) (hcount : chunkCount ≤ maxCaptureBatchChunks) {events : List JsValue}
    (hone : events.length ≤ 1) (hlength : encodedLength.lengthOfList events ≤ maxCaptureEventBytes) :
    (b.document chunkIndex chunkCount events).encodedLength ≤ maxCaptureBatchBytes := by
  have hframe := frame_le h
  have hsession := quotedLength_sessionId h
  have hdocument := b.encodedLength_document chunkIndex chunkCount events
  have hindexDigits : chunkIndex.repr.length ≤ 3 := length_repr_le (by decide) hindex
  have hcountDigits : chunkCount.repr.length ≤ 4 := length_repr_le (by decide) (Nat.lt_of_le_of_lt hcount (by decide))
  unfold maxCaptureEventBytes at hlength
  unfold maxCaptureBatchBytes
  omega

/-- The document without events fits. -/
theorem fits_nil (h : b.accepted = true) {chunkIndex chunkCount : ℕ} (hindex : chunkIndex < maxCaptureBatchChunks)
    (hcount : chunkCount ≤ maxCaptureBatchChunks) : b.Fits chunkIndex chunkCount [] := by
  refine ⟨?_, encodedLength_le_of_single h hindex hcount (Nat.zero_le _) (Nat.zero_le _)⟩
  rw [canonicalizes_document]
  exact canonicalizes_document_of_accepted h rfl (Nat.zero_le _) (Nat.zero_le _) ⟨rfl, Nat.zero_le _⟩

/-! ## Events -/

/-- An event goes into the chunks as it is: it can be encoded, in 64 KiB, and a document with it alone can be
encoded, in 2 MiB. -/
def Carries (b : Batch) (event : JsValue) : Prop :=
  event.canonicalizes = true ∧ event.encodedLength ≤ maxCaptureEventBytes
    ∧ ∀ chunkIndex < maxCaptureBatchChunks, ∀ chunkCount ≤ maxCaptureBatchChunks, b.Fits chunkIndex chunkCount [event]

theorem lengthOfList_singleton (event : JsValue) : encodedLength.lengthOfList [event] = event.encodedLength := rfl

/-- Whether an event fits alone does not depend on the place of its chunk. -/
theorem carries_iff (h : b.accepted = true) {event : JsValue} (hcanonicalizes : event.canonicalizes = true)
    (hlength : event.encodedLength ≤ maxCaptureEventBytes) :
    b.Carries event ↔ encodedSize b 0 [event] ≤ maxCaptureBatchBytes := by
  rw [encodedSize_le_iff]
  constructor
  · rintro ⟨-, -, hfits⟩
    exact hfits 0 (by decide) maxCaptureBatchChunks (Nat.le_refl _)
  · intro hfits
    refine ⟨hcanonicalizes, hlength, fun chunkIndex hindex chunkCount hcount => ⟨?_, ?_⟩⟩
    · have hsingle := hfits.1
      rw [canonicalizes_document] at hsingle ⊢
      exact hsingle
    · exact encodedLength_le_of_single h hindex hcount (Nat.le_refl 1) hlength

/-- The events of the chunks: those of the batch, each as it is if the chunks carry it, and else replaced by an
oversize record. -/
theorem chunkedEvent_eq (h : b.accepted = true) (event : JsValue) [Decidable (b.Carries event)] :
    chunkedEvent b b.oversize event = if b.Carries event then event else b.oversize := by
  unfold chunkedEvent normalizeCaptureEvent
  dsimp only
  by_cases hnormal : event.canonicalizes = true ∧ event.encodedLength ≤ maxCaptureEventBytes
  · have hsame : (CaptureEncoding.canonicalizes Batch event
        && decide (CaptureEncoding.byteLength Batch event ≤ maxCaptureEventBytes)) = true := by
      rw [Bool.and_eq_true, decide_eq_true_eq]
      exact hnormal
    rw [if_pos hsame]
    by_cases hcarries : b.Carries event
    · rw [if_pos hcarries, if_pos ((carries_iff h hnormal.1 hnormal.2).mp hcarries)]
    · rw [if_neg hcarries, if_neg fun hfits => hcarries ((carries_iff h hnormal.1 hnormal.2).mpr hfits)]
  · have hother : ¬(CaptureEncoding.canonicalizes Batch event
        && decide (CaptureEncoding.byteLength Batch event ≤ maxCaptureEventBytes)) = true := by
      rw [Bool.and_eq_true, decide_eq_true_eq]
      exact hnormal
    rw [if_neg hother, ite_self, if_neg fun hcarries => hnormal ⟨hcarries.1, hcarries.2.1⟩]

theorem short_sessionId (h : b.accepted = true) : Short 262144 b.sessionId := by
  simp only [accepted, Bool.and_eq_true, decide_eq_true_eq] at h
  obtain ⟨⟨⟨⟨-, hbytes⟩, -⟩, -⟩, hcanonicalizes⟩ := h
  refine ⟨?_, hbytes⟩
  simp only [canonicalizes, Bool.and_eq_true] at hcanonicalizes
  simpa [texts] using hcanonicalizes.1.2

/-- A document with an oversize record alone can be encoded, whatever its size. -/
theorem canonicalizes_oversize (h : b.accepted = true) : (b.document 0 0 [b.oversize]).canonicalizes = true := by
  have hsession := short_sessionId h
  have hwindow : ∀ window, b.windowDiscriminator = some window → Short 192 window := by
    intro window hsome
    simp only [accepted, Bool.and_eq_true] at h
    rw [hsome] at h
    exact short_of_isSha256 (by simpa using h.1.2)
  have hoptional := shortTexts_optional "window_discriminator" _ _ hwindow
  refine canonicalizes_document_of_accepted h ?_ ?_ ?_ ?_
  · unfold oversize
    cases b.windowDiscriminator <;> rfl
  · unfold oversize
    cases b.windowDiscriminator <;> exact of_decide_eq_true rfl
  · unfold oversize
    cases b.windowDiscriminator <;> exact of_decide_eq_true rfl
  · have hparts := ShortTexts.cons (short_ofAscii "kind") <| .cons (short_ofAscii "oversize") <|
      .cons (short_ofAscii "reason") <| .cons (short_ofAscii "event_limit") <|
      .cons (short_ofAscii "session_id") <| .cons hsession hoptional
    have hsum := hparts.mono (n := 700000) (by decide)
    simpa only [oversize, texts, texts.textsOfList, textsOfFields_append, texts.textsOfFields, field, word,
      List.cons_append, List.nil_append, List.append_nil, List.append_assoc] using hsum

/-! ## The groups -/

/-- The greedy split puts an event into the current group if the group is not full and the estimate fits. -/
def Admitted (b : Batch) (chunkIndex : ℕ) (events : List JsValue) : Prop :=
  events.length ≤ maxCaptureEventsPerChunk ∧ encodedSize b chunkIndex events ≤ maxCaptureBatchBytes

instance decidableAdmitted (b : Batch) (chunkIndex : ℕ) (events : List JsValue) :
    Decidable (b.Admitted chunkIndex events) :=
  inferInstanceAs (Decidable (_ ∧ _))

theorem groupEvent_eq_round (grouped : List (List JsValue) × List JsValue) (event : JsValue) :
    groupEvent b grouped event = Greedy.round b.Admitted grouped event := by
  unfold groupEvent Greedy.round Admitted
  dsimp only
  have hiff : (grouped.2 ≠ [] ∧ (maxCaptureEventsPerChunk ≤ grouped.2.length
        ∨ maxCaptureBatchBytes < encodedSize b grouped.1.length (grouped.2 ++ [event])))
      ↔ grouped.2 ≠ [] ∧ ¬((grouped.2 ++ [event]).length ≤ maxCaptureEventsPerChunk
        ∧ encodedSize b grouped.1.length (grouped.2 ++ [event]) ≤ maxCaptureBatchBytes) := by
    refine and_congr_right fun _ => ?_
    rw [List.length_append, List.length_singleton]
    omega
  by_cases hclose : grouped.2 ≠ [] ∧ (maxCaptureEventsPerChunk ≤ grouped.2.length
      ∨ maxCaptureBatchBytes < encodedSize b grouped.1.length (grouped.2 ++ [event]))
  · rw [if_pos hclose, if_pos (hiff.mp hclose)]
  · rw [if_neg hclose, if_neg fun hopen => hclose (hiff.mpr hopen)]

theorem groupEvents_eq (events : List JsValue) :
    groupEvents b events = if (events.foldl (Greedy.round b.Admitted) ([], [])).2 ≠ []
        ∨ (events.foldl (Greedy.round b.Admitted) ([], [])).1 = [] then
      (events.foldl (Greedy.round b.Admitted) ([], [])).1 ++ [(events.foldl (Greedy.round b.Admitted) ([], [])).2]
    else (events.foldl (Greedy.round b.Admitted) ([], [])).1 := by
  have hround : groupEvent b = Greedy.round b.Admitted := by
    funext grouped event
    exact groupEvent_eq_round grouped event
  unfold groupEvents
  rw [hround]

theorem hereditary_admitted : Greedy.Hereditary b.Admitted := by
  intro chunkIndex group part hinfix _ hadmitted
  obtain ⟨hlength, hsize⟩ := hadmitted
  rw [encodedSize_le_iff] at hsize
  refine ⟨Nat.le_trans hinfix.length_le hlength, ?_⟩
  rw [encodedSize_le_iff]
  exact hsize.part hinfix.sublist

/-- A split of events into chunks, each with one event or one whose estimate fits. -/
def Splits (b : Batch) (events : List JsValue) (groups : List (List JsValue)) : Prop :=
  groups.flatten = events ∧ Greedy.Groups b.Admitted groups

/-- The chunks of events are a split of them, if there are events at all. -/
theorem splits_groupEvents {events : List JsValue} (hne : events ≠ []) : b.Splits events (groupEvents b events) := by
  have hflatten := flatten_groupEvents b events
  refine ⟨hflatten, ?_⟩
  have hsplit : Greedy.Split b.Admitted (events.foldl (Greedy.round b.Admitted) ([], [])) :=
    Greedy.split_foldl_round events
  have hlast : (events.foldl (Greedy.round b.Admitted) ([], [])).2 ≠ [] := by
    obtain ⟨first, last, rfl⟩ := (List.eq_nil_or_concat events).resolve_left hne
    rw [List.concat_eq_append, List.foldl_append]
    exact Greedy.ne_nil_round _ last
  rw [groupEvents_eq, if_pos (.inl hlast)]
  exact hsplit.1.append hlast (hsplit.2.resolve_left hlast)

/-- No split has fewer chunks. -/
theorem length_groupEvents_le {events : List JsValue} {groups : List (List JsValue)} (h : b.Splits events groups)
    (hne : events ≠ []) : (groupEvents b events).length ≤ groups.length := by
  have hle := Greedy.length_round_le hereditary_admitted h.2
  have hlast : (events.foldl (Greedy.round b.Admitted) ([], [])).2 ≠ [] := by
    obtain ⟨first, last, rfl⟩ := (List.eq_nil_or_concat events).resolve_left hne
    rw [List.concat_eq_append, List.foldl_append]
    exact Greedy.ne_nil_round _ last
  rw [h.1, if_neg hlast] at hle
  rw [groupEvents_eq, if_pos (.inl hlast), List.length_append, List.length_singleton]
  exact hle

end Batch

end SalienceGate
