import SalienceGate.Bridge.Pi
import Mathlib.Data.List.Induction

/-!
# The Pi bridge loses nothing silently

Every record that a reducer emits is in the buffer or in a flush, in order (`InOrder`). A flush that
was not delivered leaves a mark on its window, or the poison on all of them, until a flush of the
window that starts with a `transport_gap` event is delivered (`Warns`).

The permits are free whenever a flush starts, since its chunks are written one after the other. So a
flush is always started, and no record goes back to the buffer.
-/

namespace SalienceGate.Pi

open JsValue (field word flat)

/-! ## Short events -/

theorem isPlain_of_isIdCharacter {code : Fin 65536} (h : isIdCharacter code = true) : JsString.isPlain code = true := by
  simp only [isIdCharacter, isAlphanumeric, Bool.or_eq_true, Bool.and_eq_true, decide_eq_true_eq] at h
  simp only [JsString.isPlain, Bool.and_eq_true, decide_eq_true_eq, ne_eq]
  omega

theorem quotedLength_sessionId (sessionId : PiSessionId) : sessionId.text.quotedLength ≤ 16386 := by
  have hclosed := sessionId.closed
  have hexact := sessionId.exact
  simp only [isNativeSessionId, Bool.and_eq_true, List.all_eq_true] at hclosed
  simp only [JsString.isExactText, Bool.and_eq_true] at hexact
  have hplain := JsString.quotedLength_of_plain fun code hmem => isPlain_of_isIdCharacter (hclosed.1.1 code hmem)
  have hlength := sessionId.text.length_le_byteLength
  have hbytes : sessionId.text.byteLength ≤ 16 * 1024 := of_decide_eq_true hexact.2
  omega

theorem isWellFormedUnicode_sessionId (sessionId : PiSessionId) : sessionId.text.isWellFormedUnicode = true := by
  have hexact := sessionId.exact
  simp only [JsString.isExactText, Bool.and_eq_true] at hexact
  exact hexact.1.2

/-- An event with some words and its coordinates. -/
def announcement (words : List (String × String)) (coordinates : Coordinates) : JsValue :=
  flat (words.map (fun f => (f.1, JsString.ofAscii f.2))
    ++ [("session_id", coordinates.sessionId.text), ("window_discriminator", coordinates.windowDiscriminator.text)])

theorem encodedLength_announcement {words : List (String × String)} (hwords : words.length ≤ 4)
    (hlengths : ∀ f ∈ words, f.1.length ≤ 20 ∧ f.2.length ≤ 20) (coordinates : Coordinates) :
    (announcement words coordinates).encodedLength ≤ 20000 := by
  have hsession := quotedLength_sessionId coordinates.sessionId
  have hwindow := quotedLength_of_isSha256 coordinates.windowDiscriminator.sha256
  have hsum : ((words.map fun f => (f.1, JsString.ofAscii f.2)).map
      fun f => 3 + 6 * f.1.length + f.2.quotedLength).sum ≤ 300 * words.length := by
    clear hwords
    induction words with
    | nil => exact Nat.zero_le _
    | cons f words ih =>
      have hrest := ih fun other hmem => hlengths other (List.mem_cons_of_mem _ hmem)
      have hf := hlengths f List.mem_cons_self
      have hquoted := quotedLength_ofAscii_le f.2
      rw [List.map_cons, List.map_cons, List.sum_cons, List.length_cons]
      dsimp only
      omega
  have hle := JsValue.encodedLength_flat_le (words.map (fun f => (f.1, JsString.ofAscii f.2))
    ++ [("session_id", coordinates.sessionId.text), ("window_discriminator", coordinates.windowDiscriminator.text)])
  have hkey : "session_id".length = 10 := rfl
  have hkey' : "window_discriminator".length = 20 := rfl
  simp only [List.map_append, List.sum_append, List.map_cons, List.map_nil, List.sum_cons, List.sum_nil,
    List.length_append, List.length_map, List.length_cons, List.length_nil, hkey, hkey'] at hle
  simp only [List.map_map] at hsum hle
  unfold announcement
  omega

theorem canonicalizes_announcement {words : List (String × String)} (hwords : words.length ≤ 4)
    (hlengths : ∀ f ∈ words, f.1.length ≤ 20 ∧ f.2.length ≤ 20) (coordinates : Coordinates) :
    (announcement words coordinates).canonicalizes = true := by
  have hencoded := encodedLength_announcement hwords hlengths coordinates
  refine JsValue.canonicalizes_flat ?_ (Nat.le_trans hencoded (by decide)) fun f hmem => ?_
  · rw [List.length_append, List.length_map, List.length_cons, List.length_cons, List.length_nil]
    omega
  · rcases List.mem_append.mp hmem with hmem | hmem
    · obtain ⟨pair, -, rfl⟩ := List.mem_map.mp hmem
      exact JsString.isWellFormedUnicode_ofAscii pair.2
    · rcases List.mem_cons.mp hmem with rfl | hmem
      · exact isWellFormedUnicode_sessionId coordinates.sessionId
      · cases List.mem_singleton.mp hmem
        exact (short_of_isSha256 coordinates.windowDiscriminator.sha256).1

/-- A `transport_gap` event is such an event. -/
theorem json_transportGap (coordinates : Coordinates) :
    (Event.transportGap coordinates).json
      = announcement [("kind", "coverage_degraded"), ("reason", "transport_gap")] coordinates := rfl

/-- The degradations and the end of a session are such events. -/
theorem exists_json_announcement {record : ReducedRecord} (hid : record.eventId ≤ maxReducedRecordsPerWindow)
    (h : (∃ reason, record.body = .coverageDegraded reason) ∨ ∃ reason, record.body = .sessionFinished reason) :
    ∃ words : List (String × String), words.length ≤ 4
      ∧ (∀ f ∈ words, f.1.length ≤ 20 ∧ f.2.length ≤ 20)
      ∧ (Event.record record).json = announcement words record.coordinates := by
  have hdigits : record.eventId.repr.length ≤ 20 :=
    length_repr_le (by decide) (Nat.lt_of_le_of_lt hid (by decide))
  have hwords : ∀ kind reason : String, kind.length ≤ 20 → reason.length ≤ 20 →
      ∀ f ∈ [("event_id", record.eventId.repr), ("kind", kind), ("reason", reason)],
        f.1.length ≤ 20 ∧ f.2.length ≤ 20 := by
    intro kind reason hkind hreason f hmem
    simp only [List.mem_cons, List.not_mem_nil, or_false] at hmem
    rcases hmem with rfl | rfl | rfl
    · exact ⟨show "event_id".length ≤ 20 by decide, hdigits⟩
    · exact ⟨show "kind".length ≤ 20 by decide, hkind⟩
    · exact ⟨show "reason".length ≤ 20 by decide, hreason⟩
  rcases h with ⟨reason, hbody⟩ | ⟨reason, hbody⟩
  · refine ⟨[("event_id", record.eventId.repr), ("kind", "coverage_degraded"), ("reason", reason.text)], Nat.le_succ 3,
      hwords _ _ (by decide) (by cases reason <;> decide), ?_⟩
    show record.json = _
    unfold ReducedRecord.json
    rw [hbody]
    rfl
  · refine ⟨[("event_id", record.eventId.repr), ("kind", "session_finished"), ("reason", reason.text)], Nat.le_succ 3,
      hwords _ _ (by decide) (by cases reason <;> decide), ?_⟩
    show record.json = _
    unfold ReducedRecord.json
    rw [hbody]
    rfl

theorem normalizeCaptureEvent_of_announcement {event oversize : Event} {words : List (String × String)}
    {coordinates : Coordinates} (hwords : words.length ≤ 4) (hlengths : ∀ f ∈ words, f.1.length ≤ 20 ∧ f.2.length ≤ 20)
    (hjson : event.json = announcement words coordinates) :
    normalizeCaptureEvent Batch oversize event = event := by
  have hcanonicalizes : CaptureEncoding.canonicalizes Batch event = true := by
    show event.json.canonicalizes = true
    rw [hjson]
    exact canonicalizes_announcement hwords hlengths coordinates
  have hlength : CaptureEncoding.byteLength Batch event ≤ maxCaptureEventBytes := by
    show event.json.encodedLength ≤ _
    rw [hjson]
    exact Nat.le_trans (encodedLength_announcement hwords hlengths coordinates) (by decide)
  unfold normalizeCaptureEvent
  rw [if_pos (by rw [hcanonicalizes, decide_eq_true hlength]; rfl)]

/-- The degradations and the end of a session are not replaced. -/
theorem asCanonicalRecord_of_short {record : ReducedRecord} (hid : record.eventId ≤ maxReducedRecordsPerWindow)
    (h : (∃ reason, record.body = .coverageDegraded reason) ∨ ∃ reason, record.body = .sessionFinished reason) :
    asCanonicalRecord record = .record record := by
  obtain ⟨words, hwords, hlengths, hjson⟩ := exists_json_announcement hid h
  exact normalizeCaptureEvent_of_announcement hwords hlengths hjson

/-! ## The chunks start with the gap -/

/-- An event of a few words fits into a chunk of an accepted batch of its window. -/
theorem chunkedEvent_of_announcement {batch : Batch} (haccepted : batch.accepted = true) {event oversize : Event}
    {words : List (String × String)} {coordinates : Coordinates} (hwords : words.length ≤ 4)
    (hlengths : ∀ f ∈ words, f.1.length ≤ 20 ∧ f.2.length ≤ 20)
    (hjson : event.json = announcement words coordinates) (hsession : batch.sessionId = coordinates.sessionId.text) :
    chunkedEvent batch oversize event = event := by
  have hencoded := encodedLength_announcement hwords hlengths coordinates
  have hcanonicalizes := canonicalizes_announcement hwords hlengths coordinates
  rw [← hjson] at hencoded hcanonicalizes
  have hframe := Batch.frame_le haccepted
  have hquoted := quotedLength_sessionId coordinates.sessionId
  rw [hsession] at hframe
  simp only [JsValue.canonicalizes, Bool.and_eq_true] at hcanonicalizes
  obtain ⟨⟨⟨⟨hisJson, -⟩, -⟩, htexts⟩, -⟩ := hcanonicalizes
  have hitems : event.json.items ≤ 7 := by
    rw [hjson]
    unfold announcement
    rw [JsValue.items_flat, List.length_append, List.length_map, List.length_cons, List.length_cons, List.length_nil]
    omega
  have hdepth : event.json.depth ≤ 1 := by
    rw [hjson]
    exact JsValue.depth_flat _
  have hbytes := JsValue.stringBytes_le_encodedLength event.json
  have hdocument : (batch.document 0 maxCaptureBatchChunks [event.json]).canonicalizes = true := by
    rw [Batch.canonicalizes_document]
    refine Batch.canonicalizes_document_of_accepted haccepted ?_ ?_ ?_ ?_
    · simp only [JsValue.isJson.listIsJson, hisJson, Bool.and_self]
    · simp only [JsValue.items.itemsOfList]
      omega
    · simp only [JsValue.depth.depthOfList]
      omega
    · simp only [JsValue.texts.textsOfList, List.append_nil]
      exact ⟨htexts, by omega⟩
  have hsize : (batch.document 0 maxCaptureBatchChunks [event.json]).encodedLength ≤ maxCaptureBatchBytes := by
    have hlength := batch.encodedLength_document 0 maxCaptureBatchChunks [event.json]
    have hindex : (0 : ℕ).repr.length = 1 := rfl
    have hcount : maxCaptureBatchChunks.repr.length = 4 := rfl
    simp only [JsValue.encodedLength.lengthOfList, List.length_cons, List.length_nil] at hlength
    unfold maxCaptureBatchBytes
    omega
  have hfits : encodedSize batch 0 [event] ≤ maxCaptureBatchBytes := by
    show ((canonicalLength (batch.document 0 maxCaptureBatchChunks [event.json])).getD _) ≤ _
    unfold canonicalLength
    rw [if_pos hdocument]
    exact hsize
  unfold chunkedEvent
  rw [normalizeCaptureEvent_of_announcement hwords hlengths hjson]
  exact if_pos hfits

/-! ## A flush -/

/-- The chunks of a flush start with a `transport_gap` event. -/
def Flush.StartsWithGap (f : Flush) : Prop := firstEvent f.chunks = some (.transportGap f.window)

namespace Transport

variable {δ : Type} [DecidableEq δ] [Digesting δ] {host : Host} {t : Transport δ} {window : Coordinates}
  {records : List Event} {force : Bool} {workspacePath : Option JsString}

theorem firstEvent_chunksOf {number : ℕ}
    {chunks : List (List Event)}
    (h : chunksOf host number window workspacePath (.transportGap window :: records) = some chunks) :
    firstEvent chunks = some (.transportGap window) := by
  unfold chunksOf at h
  obtain ⟨batchId, -, hbuild⟩ := Option.bind_eq_some_iff.mp h
  unfold buildWindowedCaptureChunks at hbuild
  split at hbuild
  · obtain ⟨haccepted, rfl⟩ := buildCaptureChunks_eq_some hbuild
    rw [List.map_cons, chunkedEvent_of_announcement haccepted (by decide) (by decide) (json_transportGap window) rfl]
    exact firstEvent_groupEvents _ _ _
  · cases hbuild

theorem validCoordinates_eq_true (window : Coordinates) : validCoordinates window = true := by
  have hexact := window.sessionId.exact
  have hbound : maxPiNativeSessionIdBytes ≤ maxCaptureSessionIdBytes := by decide
  simp only [JsString.isExactText, Bool.and_eq_true] at hexact
  have hbytes : window.sessionId.text.byteLength ≤ maxPiNativeSessionIdBytes := of_decide_eq_true hexact.2
  simp only [validCoordinates, JsString.isExactText, Bool.and_eq_true]
  exact ⟨⟨hexact.1, decide_eq_true (hbytes.trans hbound)⟩, window.windowDiscriminator.sha256⟩

/-- Where no permit is taken, every chunk is started. -/
theorem foldl_writeChunk (delivers : ℕ → Bool) (indexes : List ℕ) (written : Written)
    (h : written.activeWrites = 0) :
    (indexes.foldl (writeChunk delivers) written).activeWrites = 0
      ∧ (indexes.foldl (writeChunk delivers) written).started = written.started + indexes.length := by
  induction indexes generalizing written with
  | nil => exact ⟨h, rfl⟩
  | cons index indexes ih =>
    have hround : (writeChunk delivers written index).activeWrites = 0
        ∧ (writeChunk delivers written index).started = written.started + 1 := by
      unfold writeChunk writeBounded
      rw [h, if_neg (by decide)]
      refine ⟨rfl, ?_⟩
      dsimp only
      split_ifs <;> simp_all
    obtain ⟨hwrites, hstarted⟩ := ih _ hround.1
    refine ⟨hwrites, ?_⟩
    rw [List.foldl_cons, hstarted, hround.2, List.length_cons]
    omega

/-- A window has a gap that it was not warned of. -/
def Owed (t : Transport δ) (window : Coordinates) : Prop :=
  t.globalGapPoison = true ∨ t.pendingGaps.get? (windowKey window) ≠ none

theorem owed_markGap (t : Transport δ) (window : Coordinates) : (t.markGap window).Owed window := by
  unfold markGap
  rw [if_pos (validCoordinates_eq_true window)]
  split
  next hroom =>
    have hget := Marks.get?_mark_of_hasRoom hroom
    refine .inr ?_
    show (t.pendingGaps.mark maxPendingGapWindows (windowKey window)).get? _ ≠ none
    rw [hget]
    exact Option.some_ne_none _
  next => exact .inl rfl

/-- Marking a window takes no mark away. -/
theorem Owed.markGap {other : Coordinates} (h : t.Owed other) (window : Coordinates) :
    (t.markGap window).Owed other := by
  by_cases hkey : (windowKey other : δ) = windowKey window
  · have howed := owed_markGap t window
    unfold Owed at howed ⊢
    rw [hkey]
    exact howed
  · unfold Transport.markGap
    rw [if_pos (validCoordinates_eq_true window)]
    split
    · rcases h with hpoison | hmark
      · exact .inl hpoison
      · refine .inr ?_
        show (t.pendingGaps.mark maxPendingGapWindows (windowKey window)).get? _ ≠ none
        rw [Marks.get?_mark_of_ne hkey]
        exact hmark
    · exact .inl rfl

theorem markGap_flushes (t : Transport δ) (window : Coordinates) : (t.markGap window).flushes = t.flushes := by
  unfold markGap
  split
  · split <;> rfl
  · rfl

theorem markGap_activeWrites (t : Transport δ) (window : Coordinates) :
    (t.markGap window).activeWrites = t.activeWrites := by
  unfold markGap
  split
  · split <;> rfl
  · rfl

/-- What a flush of a window does. -/
structure Makes (t : Transport δ) (window : Coordinates) (records : List Event) (t' : Transport δ) : Prop where
  /-- It is kept, and it was started. -/
  exists_flush : ∃ f : Flush, t'.flushes = t.flushes ++ [f] ∧ f.window = window ∧ f.records = records
    ∧ f.result ≠ .notStarted
    ∧ (f.result = .delivered → t.Owed window → f.StartsWithGap)
    ∧ (f.result ≠ .delivered → t'.Owed window)
  activeWrites : t'.activeWrites = 0
  /-- The gaps of other windows stay. -/
  others : ∀ other : Coordinates, t.Owed other → (windowKey other : δ) ≠ windowKey window → t'.Owed other

/-- A flush that is not delivered. -/
theorem makes_failure (h : t.activeWrites = 0) (chunks : List (List Event)) :
    Makes t window records ((t.markGap window).ends ⟨window, records, chunks, .attemptedFailure⟩) := by
  refine ⟨⟨⟨window, records, chunks, .attemptedFailure⟩, ?_, rfl, rfl, nofun, nofun, ?_⟩, ?_, ?_⟩
  · show (t.markGap window).flushes ++ _ = _
    rw [markGap_flushes]
  · exact fun _ => owed_markGap t window
  · exact (markGap_activeWrites t window).trans h
  · exact fun other howed _ => howed.markGap window

theorem flushEvents_of_owed (h : t.Owed window) : t.flushEvents window records = .transportGap window :: records := by
  unfold flushEvents
  rw [if_neg]
  rintro ⟨hnone, hpoison⟩
  rcases h with h | h
  · exact hpoison h
  · exact h hnone

theorem makes_writeChunks (h : t.activeWrites = 0) {chunks : List (List Event)} (hchunks : chunks ≠ [])
    (hgap : t.Owed window → firstEvent chunks = some (.transportGap window)) :
    Makes t window records (t.writeChunks host window records chunks) := by
  obtain ⟨hwrites, hstarted⟩ :=
    foldl_writeChunk (host.writeChunk t.flushes.length) (List.range chunks.length) ⟨t.activeWrites, 0, 0⟩ h
  have hlength : 0 < chunks.length := List.length_pos_iff.mpr hchunks
  unfold writeChunks
  dsimp only
  generalize (List.range chunks.length).foldl (writeChunk (host.writeChunk t.flushes.length)) ⟨t.activeWrites, 0, 0⟩
    = written at hwrites hstarted
  rw [List.length_range] at hstarted
  rw [if_neg (by omega)]
  split
  · refine ⟨⟨⟨window, records, chunks, .delivered⟩, rfl, rfl, rfl, nofun, fun _ howed => hgap howed,
      fun hne => absurd rfl hne⟩, hwrites, fun other howed hkey => ?_⟩
    rcases howed with hpoison | hmark
    · exact .inl hpoison
    · refine .inr ?_
      show (t.pendingGaps.clear (windowKey window) _).get? _ ≠ none
      rw [Marks.get?_clear_of_ne hkey]
      exact hmark
  · have hmade : Makes { t with activeWrites := written.activeWrites } window records _ := makes_failure hwrites chunks
    exact ⟨hmade.exists_flush, hmade.activeWrites, hmade.others⟩

/-- A flush is kept with its records and warns of the gap that its window has. -/
theorem makes_flush (h : t.activeWrites = 0) (hsends : records ≠ [] ∨ force = true) :
    Makes t window records (t.flush host window records force workspacePath) := by
  unfold flush
  split
  · exact makes_failure h []
  dsimp only
  split
  next hempty =>
    rcases hsends with hrecords | hforce
    · have hnone := hempty.1
      unfold flushEvents at hnone
      split at hnone
      · exact absurd hnone hrecords
      · cases hnone
    · exact absurd hforce hempty.2
  next =>
    split
    · exact makes_failure h []
    next chunks hbuild =>
      have hchunks : chunks ≠ [] := by
        unfold chunksOf at hbuild
        obtain ⟨batchId, -, hbuild⟩ := Option.bind_eq_some_iff.mp hbuild
        unfold buildWindowedCaptureChunks at hbuild
        split at hbuild
        · exact buildCaptureChunks_ne_nil hbuild
        · cases hbuild
      refine makes_writeChunks h hchunks fun howed => ?_
      rw [flushEvents_of_owed howed] at hbuild
      exact firstEvent_chunksOf hbuild

end Transport

/-! ## Warnings -/

/-- The last flush of a window was not delivered. -/
def owing (window : Coordinates) (flushes : List Flush) : Bool :=
  flushes.foldl (fun owed f => if f.window = window then decide (f.result ≠ .delivered) else owed) false

theorem owing_append_singleton (window : Coordinates) (flushes : List Flush) (f : Flush) :
    owing window (flushes ++ [f])
      = if f.window = window then decide (f.result ≠ .delivered) else owing window flushes := by
  unfold owing
  rw [List.foldl_append]
  rfl

/-- A failed flush that no delivered one of the window follows is still to be warned of. -/
theorem owing_of_failed {window : Coordinates} {f : Flush} (hwindow : f.window = window)
    (hfailed : f.result ≠ .delivered) (before : List Flush) {between : List Flush}
    (hbetween : ∀ g ∈ between, g.window = window → g.result ≠ .delivered) :
    owing window (before ++ f :: between) = true := by
  induction between using List.reverseRecOn with
  | nil =>
    rw [owing_append_singleton, if_pos hwindow]
    exact decide_eq_true hfailed
  | append_singleton between g ih =>
    rw [← List.cons_append, ← List.append_assoc, owing_append_singleton]
    split
    next hg => exact decide_eq_true (hbetween g (by simp) hg)
    next => exact ih fun other hmem => hbetween other (by simp [hmem])

/-- A window that is owing was flushed. -/
theorem exists_of_owing {window : Coordinates} {flushes : List Flush} (h : owing window flushes = true) :
    ∃ f ∈ flushes, f.window = window := by
  induction flushes using List.reverseRecOn with
  | nil => cases h
  | append_singleton flushes f ih =>
    rw [owing_append_singleton] at h
    split at h
    next hwindow => exact ⟨f, by simp, hwindow⟩
    next =>
      obtain ⟨g, hmem, hwindow⟩ := ih h
      exact ⟨g, by simp [hmem], hwindow⟩

/-- The windows that were flushed have keys of their own. -/
def DistinctKeys (δ : Type) [Digesting δ] (flushes : List Flush) : Prop :=
  ∀ f ∈ flushes, ∀ g ∈ flushes,
    (Digesting.digest (.window f.window) : δ) = Digesting.digest (.window g.window) → f.window = g.window

namespace Transport

variable {δ : Type} [DecidableEq δ] [Digesting δ] {t t' : Transport δ} {window : Coordinates} {records : List Event}

/-- Every window that is owing has a gap, and a delivered flush of an owing window starts with it. -/
structure Warns (t : Transport δ) : Prop where
  owed : ∀ window, owing window t.flushes = true → t.Owed window
  startsWithGap : ∀ before f after, t.flushes = before ++ f :: after → owing f.window before = true →
    f.result = .delivered → f.StartsWithGap

theorem Warns.makes (h : t.Warns) (hmakes : t.Makes window records t') (hkeys : DistinctKeys δ t'.flushes) :
    t'.Warns := by
  obtain ⟨f, hflushes, hwindow, -, -, hdelivered, hfailed⟩ := hmakes.exists_flush
  refine ⟨fun other howing => ?_, fun before g after hsplit howing hresult => ?_⟩
  · rw [hflushes, owing_append_singleton] at howing
    split at howing
    next hother =>
      rw [← hother, hwindow]
      exact hfailed (of_decide_eq_true howing)
    next hother =>
      refine hmakes.others other (h.owed other howing) fun hkey => hother ?_
      obtain ⟨g, hmem, hg⟩ := exists_of_owing howing
      have hsame := hkeys g (by rw [hflushes]; simp [hmem]) f (by rw [hflushes]; simp) (by
        rw [hg, hwindow]
        exact hkey)
      rw [← hsame, hg]
  · rw [hflushes] at hsplit
    cases after using List.reverseRecOn with
    | nil =>
      obtain ⟨hbefore, hlast⟩ := List.append_inj' hsplit rfl
      cases hlast
      subst hbefore
      exact hdelivered hresult (hwindow ▸ h.owed f.window howing)
    | append_singleton after last =>
      rw [← List.cons_append, ← List.append_assoc] at hsplit
      obtain ⟨hold, -⟩ := List.append_inj' hsplit rfl
      exact h.startsWithGap before g after hold howing hresult

end Transport

/-! ## The buffer -/

theorem coordinates_asCanonicalRecord (record : ReducedRecord) :
    (asCanonicalRecord record).coordinates = record.coordinates := by
  unfold asCanonicalRecord normalizeCaptureEvent
  split <;> rfl

theorem coordinates_of_mem_grouped {records : List ReducedRecord} {window : Coordinates}
    (h : ∀ record ∈ records, record.coordinates = window) {event : Event} (hmem : event ∈ grouped records) :
    event.coordinates = window := by
  have hcanonical : ∀ other ∈ records.map asCanonicalRecord, other.coordinates = window := by
    intro other hother
    obtain ⟨record, hrecord, rfl⟩ := List.mem_map.mp hother
    rw [coordinates_asCanonicalRecord]
    exact h record hrecord
  unfold grouped at hmem
  dsimp only at hmem
  split at hmem
  next oversized hfind =>
    rw [List.mem_singleton.mp hmem]
    exact hcanonical oversized (List.mem_of_find?_eq_some hfind)
  next => exact hcanonical event hmem

/-- A group with the end of a session is buffered as it is. -/
theorem mem_grouped_of_terminal {records : List ReducedRecord}
    (hids : ∀ record ∈ records, record.eventId ≤ maxReducedRecordsPerWindow)
    (hclosing : Reducer.Closing (records.map ReducedRecord.body)) {record : ReducedRecord} (hmem : record ∈ records)
    (hfinished : record.body.isFinished = true) : Event.record record ∈ grouped records := by
  have hshort : ∀ other ∈ records, asCanonicalRecord other = .record other := by
    intro other hother
    exact asCanonicalRecord_of_short (hids other hother) (hclosing
      ⟨record.body, List.mem_map_of_mem hmem, hfinished⟩ other.body (List.mem_map_of_mem hother))
  have hnone : (records.map asCanonicalRecord).find? Event.isOversize = none := by
    rw [List.find?_eq_none]
    intro event hevent
    obtain ⟨other, hother, rfl⟩ := List.mem_map.mp hevent
    rw [hshort other hother]
    exact Bool.false_ne_true
  unfold grouped
  dsimp only
  rw [hnone]
  exact List.mem_map.mpr ⟨record, hmem, hshort record hmem⟩

namespace Runtime

variable {δ : Type} [DecidableEq δ] [Digesting δ] {host : Host} {s : Runtime δ} {outside : List Event}

/-- The records of the buffer. -/
def buffered (s : Runtime δ) : List Event := s.active.elim [] ActiveWindow.records

/-- Every record that was emitted is in a flush, in the buffer or outside of it, in order. -/
structure Sound (s : Runtime δ) (outside : List Event) : Prop where
  order : s.transport.flushes.flatMap Flush.records ++ s.buffered ++ outside = s.emitted.flatMap grouped
  /-- The flushes are of their windows. -/
  flushes : ∀ f ∈ s.transport.flushes, f.result ≠ .notStarted ∧ ∀ record ∈ f.records, record.coordinates = f.window
  /-- The active window, and what is outside for it. -/
  active : ∀ active, s.active = some active → active.reducer.Counts
    ∧ (∀ record ∈ active.records, record.coordinates = active.coordinates)
    ∧ ∀ record ∈ outside, record.coordinates = active.coordinates
  outside : outside ≠ [] → s.active ≠ none
  activeWrites : s.transport.activeWrites = 0
  emitted : ∀ records ∈ s.emitted, (∀ record ∈ records, record.eventId ≤ maxReducedRecordsPerWindow)
    ∧ Reducer.Closing (records.map ReducedRecord.body)
  warns : DistinctKeys δ s.transport.flushes → s.transport.Warns

theorem sound_create : (create : Runtime δ).Sound [] where
  order := rfl
  flushes := nofun
  active := nofun
  outside := fun h => absurd rfl h
  activeWrites := rfl
  emitted := nofun
  warns := by
    intro _
    refine ⟨nofun, fun before f after hsplit => ?_⟩
    exact absurd hsplit (by simp [create, Transport.create])

theorem Sound.flush (h : s.Sound outside) (force : Bool) : (s.flush host force).Sound outside := by
  cases hactive : s.active with
  | none =>
    unfold Runtime.flush
    rw [hactive]
    exact h
  | some active =>
    unfold Runtime.flush
    rw [hactive]
    dsimp only
    split
    · exact h
    next hflush =>
      have hsends : active.records ≠ [] ∨ force = true := by
        by_cases hforce : force = true
        · exact .inr hforce
        · exact .inl fun hnil => hflush ⟨hforce, hnil⟩
      have hmakes : Transport.Makes s.transport active.coordinates active.records
          (s.transport.flush host active.coordinates active.records force active.workspacePath) :=
        Transport.makes_flush h.activeWrites hsends
      obtain ⟨f, hflushes, hwindow, hrecords, hstarted, -, -⟩ := hmakes.exists_flush
      obtain ⟨hcounts, hown, houtside⟩ := h.active active hactive
      generalize s.transport.flush host active.coordinates active.records force active.workspacePath = t
        at hmakes hflushes
      have hretained : (if lastResult t = some .notStarted then active.records.filter Event.isTerminal else []) = [] := by
        rw [if_neg]
        unfold lastResult
        rw [hflushes, List.getLast?_concat]
        exact fun heq => hstarted (Option.some.inj heq)
      have hbuffered : s.buffered = active.records := by
        unfold buffered
        rw [hactive]
        rfl
      rw [hretained]
      refine ⟨?_, fun g hmem => ?_, fun other hother => ?_, fun _ => nofun, hmakes.activeWrites, h.emitted, fun hkeys => ?_⟩
      · show t.flushes.flatMap Flush.records ++ [] ++ outside = s.emitted.flatMap grouped
        rw [hflushes, List.flatMap_append, List.flatMap_singleton, hrecords, List.append_nil, ← hbuffered]
        exact h.order
      · rw [hflushes] at hmem
        rcases List.mem_append.mp hmem with hmem | hmem
        · exact h.flushes g hmem
        · rw [List.mem_singleton.mp hmem, hrecords, hwindow]
          exact ⟨hstarted, hown⟩
      · cases hother
        exact ⟨hcounts, nofun, houtside⟩
      · refine (h.warns fun g hg g' hg' => hkeys g ?_ g' ?_).makes hmakes hkeys
        · rw [hflushes]
          exact List.mem_append_left _ hg
        · rw [hflushes]
          exact List.mem_append_left _ hg'

theorem Sound.push (h : s.Sound outside) : (s.push outside).Sound [] := by
  cases hactive : s.active with
  | none =>
    have hnil : outside = [] := by
      by_contra hne
      exact h.outside hne hactive
    subst hnil
    unfold Runtime.push
    rw [hactive]
    exact h
  | some active =>
    obtain ⟨hcounts, hown, houtside⟩ := h.active active hactive
    have hbuffered : s.buffered = active.records := by
      unfold buffered
      rw [hactive]
      rfl
    unfold Runtime.push
    rw [hactive]
    refine ⟨?_, h.flushes, fun other hother => ?_, fun hne => absurd rfl hne, h.activeWrites, h.emitted, h.warns⟩
    · show s.transport.flushes.flatMap Flush.records ++ (active.records ++ outside) ++ [] = s.emitted.flatMap grouped
      rw [List.append_nil, ← List.append_assoc, ← hbuffered]
      exact h.order
    · cases hother
      refine ⟨hcounts, fun record hmem => ?_, nofun⟩
      rcases List.mem_append.mp hmem with hmem | hmem
      · exact hown record hmem
      · exact houtside record hmem

theorem Sound.append {records : List ReducedRecord} (h : s.Sound (grouped records)) :
    (s.append host records).Sound [] := by
  unfold Runtime.append
  dsimp only
  split
  · exact (h.flush false).push
  · exact h.push

/-- What a reducer makes is buffered. -/
theorem Sound.reduceBy (h : s.Sound []) {reduction : Reducing δ (List ReducedRecord)}
    (hsends : Reducer.Sends reduction) : (s.reduceBy host reduction).Sound [] := by
  cases hactive : s.active with
  | none =>
    unfold Runtime.reduceBy
    rw [hactive]
    exact h
  | some active =>
    obtain ⟨hcounts, hown, -⟩ := h.active active hactive
    obtain ⟨hcoordinates, hcounts', hrecords, hclosing⟩ := hsends active.reducer
      (reduction.run active.reducer).1 (reduction.run active.reducer).2 hcounts rfl
    unfold Runtime.reduceBy
    rw [hactive]
    refine Sound.append ?_
    refine ⟨?_, h.flushes, fun other hother => ?_, fun _ => nofun, h.activeWrites, fun records hmem => ?_, h.warns⟩
    · have horder := h.order
      unfold buffered at horder
      rw [hactive, List.append_nil] at horder
      show s.transport.flushes.flatMap Flush.records ++ active.records ++ grouped (reduction.run active.reducer).1
        = (s.emitted ++ [(reduction.run active.reducer).1]).flatMap grouped
      rw [List.flatMap_append, List.flatMap_singleton, ← horder]
      rfl
    · cases hother
      unfold ActiveWindow.coordinates at hown ⊢
      dsimp only
      rw [hcoordinates]
      exact ⟨hcounts', hown, fun record hmem => coordinates_of_mem_grouped (fun other hother =>
        (hrecords other hother).1) hmem⟩
    · rcases List.mem_append.mp hmem with hmem | hmem
      · exact h.emitted records hmem
      · rw [List.mem_singleton.mp hmem]
        exact ⟨fun record hrecord => (hrecords record hrecord).2, hclosing⟩

theorem Sound.degradeActive (h : s.Sound []) (reason : DegradationReason) : (s.degradeActive host reason).Sound [] :=
  h.reduceBy (Reducer.sends_degrade reason)

theorem Sound.refuseStart (h : s.Sound []) : (s.refuseStart host).Sound [] :=
  (h.degradeActive .missingField).flush false

/-- A window with an empty buffer is left. -/
theorem Sound.leave (h : s.Sound []) (hempty : s.buffered = []) : { s with active := none }.Sound [] := by
  refine ⟨?_, h.flushes, nofun, fun hne => absurd rfl hne, h.activeWrites, h.emitted, h.warns⟩
  have horder := h.order
  rw [hempty] at horder
  exact horder

omit [Digesting δ] in
theorem buffered_of_any_eq_false
    (h : ¬(s.active.any fun active => decide (active.records ≠ [])) = true) : s.buffered = [] := by
  unfold buffered
  cases hactive : s.active with
  | none => rfl
  | some active => simpa [hactive] using h

theorem Sound.openWindow (h : s.Sound []) (hinactive : s.active = none) (sessionId : PiSessionId)
    (workspacePath discriminator : Option JsString) :
    (s.openWindow host sessionId workspacePath discriminator).Sound [] := by
  unfold Runtime.openWindow
  split
  · exact h
  next window _ =>
    have hopened : { s with active := some ⟨.create ⟨sessionId, window⟩, workspacePath, [], 0⟩ }.Sound [] := by
      refine ⟨?_, h.flushes, fun active hactive => ?_, fun hne => absurd rfl hne, h.activeWrites, h.emitted, h.warns⟩
      · have horder := h.order
        unfold buffered at horder
        rw [hinactive] at horder
        exact horder
      · cases hactive
        exact ⟨Reducer.counts_create _, nofun, nofun⟩
    exact hopened.flush true

theorem Sound.start (h : s.Sound []) (sessionId : PiSessionId) (workspacePath discriminator : Option JsString) :
    (s.start host sessionId workspacePath discriminator).Sound [] := by
  have hdegraded : (s.degradeActive host .invalidTransition).Sound [] := h.degradeActive .invalidTransition
  have hflushed : ((s.degradeActive host .invalidTransition).flush host false).Sound [] := hdegraded.flush false
  unfold Runtime.start
  dsimp only
  split
  · exact hflushed
  next hempty => exact (hflushed.leave (buffered_of_any_eq_false hempty)).openWindow rfl _ _ _

theorem Sound.sessionStart (h : s.Sound []) (value : HostValue) (context : Context)
    (discriminator : Option JsString) : (s.sessionStart host value context discriminator).Sound [] := by
  unfold Runtime.sessionStart
  split
  · exact h.refuseStart
  · split
    · exact h
    · split
      · exact h.refuseStart
      · split
        · exact h
        · split
          · exact h.refuseStart
          · exact h.start _ _ _
        · exact h.refuseStart
    · exact h.refuseStart

theorem Sound.afterEvent (h : s.Sound []) (type : EventType) : (s.afterEvent host type).Sound [] := by
  have hflushed : (if type.flushBoundary then s.flush host false else s).Sound [] := by
    split
    · exact h.flush false
    · exact h
  unfold Runtime.afterEvent
  dsimp only
  generalize (if type.flushBoundary then s.flush host false else s) = s' at hflushed
  split
  next hcloses =>
    refine hflushed.leave ?_
    have hany := hcloses.2
    unfold buffered
    cases hactive : s'.active with
    | none => rfl
    | some active =>
      rw [hactive] at hany
      simp only [Option.any_some, Bool.and_eq_true, decide_eq_true_eq] at hany
      exact hany.2
  · exact hflushed

theorem Sound.observedEvent (h : s.Sound []) (type : EventType) (value : HostValue) (context : Context) :
    (s.observedEvent host type value context).Sound [] := by
  have hdegraded : ((s.reduceBy host (Reducer.degrade .missingField)).afterEvent host type).Sound [] :=
    (h.reduceBy (Reducer.sends_degrade _)).afterEvent type
  unfold Runtime.observedEvent
  split
  · exact h
  · split
    · exact hdegraded
    · split
      · exact hdegraded
      · split
        · exact h
        · split
          · exact hdegraded
          · exact (h.reduceBy (Reducer.sends_reduce _)).afterEvent type
        · exact hdegraded

theorem Sound.step (h : s.Sound []) (callback : Callback) : (s.step host callback).Sound [] := by
  cases callback with
  | sessionStart value context discriminator => exact h.sessionStart value context discriminator
  | observedEvent expectedType value context => exact h.observedEvent expectedType value context

/-- Whatever the host does, the runtime is sound between callbacks. -/
theorem sound_run (host : Host) (callbacks : List Callback) : (run host callbacks : Runtime δ).Sound [] := by
  have hfold : ∀ (callbacks : List Callback) (s : Runtime δ), s.Sound [] → (callbacks.foldl (Runtime.step host) s).Sound [] := by
    intro callbacks
    induction callbacks with
    | nil => exact fun s h => h
    | cons callback callbacks ih => exact fun s h => ih _ (h.step callback)
  exact hfold callbacks create sound_create

/-! ## Every window -/

/-- The records that were handed to the transport for a window, in order. -/
def flushedOf (s : Runtime δ) (window : Coordinates) : List Event :=
  (s.transport.flushes.filter fun f => f.window = window).flatMap Flush.records

/-- The records that are buffered for a window. -/
def bufferedOf (s : Runtime δ) (window : Coordinates) : List Event :=
  s.buffered.filter fun record => record.coordinates = window

/-- The records that were emitted for a window, in order; an oversize event stands for its group. -/
def emittedOf (s : Runtime δ) (window : Coordinates) : List Event :=
  (s.emitted.flatMap grouped).filter fun record => record.coordinates = window

/-- No record of a window is lost silently. -/
structure Kept (s : Runtime δ) (window : Coordinates) : Prop where
  /-- What was emitted is in the flushes, once and in order, and then in the buffer. -/
  once : s.flushedOf window ++ s.bufferedOf window = s.emittedOf window
  /-- After a flush that was not delivered, the next one that is starts with a `transport_gap`. -/
  warned : ∀ before f between g after, s.transport.flushes = before ++ f :: (between ++ g :: after) →
    f.window = window → f.result ≠ .delivered → g.window = window → g.result = .delivered →
    (∀ other ∈ between, other.window = window → other.result ≠ .delivered) → g.StartsWithGap
  /-- The end of a session is buffered until a flush with it was attempted. -/
  terminal : ∀ records ∈ s.emitted, ∀ record ∈ records, record.coordinates = window →
    record.body.isFinished = true →
      Event.record record ∈ s.bufferedOf window
        ∨ ∃ f ∈ s.transport.flushes, f.window = window ∧ f.result ≠ .notStarted ∧ Event.record record ∈ f.records

omit [DecidableEq δ] [Digesting δ] in
theorem filter_flatMap_records {flushes : List Flush} (window : Coordinates)
    (h : ∀ f ∈ flushes, ∀ record ∈ f.records, record.coordinates = f.window) :
    (flushes.flatMap Flush.records).filter (fun record => decide (record.coordinates = window))
      = (flushes.filter fun f => decide (f.window = window)).flatMap Flush.records := by
  induction flushes with
  | nil => rfl
  | cons f flushes ih =>
    have hrest := ih fun other hmem => h other (List.mem_cons_of_mem _ hmem)
    have hown := h f List.mem_cons_self
    rw [List.flatMap_cons, List.filter_append, hrest]
    by_cases hwindow : f.window = window
    · rw [List.filter_cons_of_pos (by simpa using hwindow), List.flatMap_cons]
      congr 1
      refine List.filter_eq_self.mpr fun record hmem => ?_
      rw [hown record hmem]
      exact decide_eq_true hwindow
    · rw [List.filter_cons_of_neg (by simpa using hwindow)]
      have hnone : f.records.filter (fun record => decide (record.coordinates = window)) = [] := by
        refine List.filter_eq_nil_iff.mpr fun record hmem => ?_
        rw [hown record hmem]
        simpa using hwindow
      rw [hnone, List.nil_append]

theorem Sound.once (h : s.Sound []) (window : Coordinates) :
    s.flushedOf window ++ s.bufferedOf window = s.emittedOf window := by
  have horder := h.order
  rw [List.append_nil] at horder
  unfold flushedOf bufferedOf emittedOf
  rw [← horder, List.filter_append, filter_flatMap_records window fun f hmem => (h.flushes f hmem).2]

/-- Whatever the host calls and however the writes end, every record that a reducer emits is kept until
it is flushed, and a flush that fails is made up for by a `transport_gap`. -/
theorem kept_run {host : Host} {callbacks : List Callback}
    (hkeys : DistinctKeys δ (run host callbacks : Runtime δ).transport.flushes) (window : Coordinates) :
    (run host callbacks : Runtime δ).Kept window := by
  have hsound := sound_run (δ := δ) host callbacks
  refine ⟨hsound.once window, ?_, ?_⟩
  · intro before f between g after hsplit hwindow hfailed hwindow' hdelivered hbetween
    have howing := owing_of_failed hwindow hfailed before hbetween
    rw [← hwindow'] at howing
    refine (hsound.warns hkeys).startsWithGap (before ++ f :: between) g after ?_ howing hdelivered
    rw [hsplit, List.append_assoc, List.cons_append]
  · intro records hmem record hrecord hcoordinates hfinished
    obtain ⟨hids, hclosing⟩ := hsound.emitted records hmem
    have hgrouped := mem_grouped_of_terminal hids hclosing hrecord hfinished
    have hemitted : Event.record record ∈ (run host callbacks : Runtime δ).emittedOf window :=
      List.mem_filter.mpr ⟨List.mem_flatMap.mpr ⟨records, hmem, hgrouped⟩, decide_eq_true hcoordinates⟩
    rw [← hsound.once window] at hemitted
    rcases List.mem_append.mp hemitted with hflushed | hbuffered
    · obtain ⟨f, hf, hmemf⟩ := List.mem_flatMap.mp hflushed
      obtain ⟨hflush, hwindow⟩ := List.mem_filter.mp hf
      exact .inr ⟨f, hflush, of_decide_eq_true hwindow, (hsound.flushes f hflush).1, hmemf⟩
    · exact .inl hbuffered

/-- Digests that are what they digest. -/
local instance plainDigesting : Digesting Digested := ⟨id⟩

/-- A session starts, and its first flush fails since there is no batch id. -/
theorem kept_start : (run
      { bootstrap := ⟨.ofAscii "", .ofAscii "", .ofAscii "", .ofAscii "", .ofAscii "", .ofAscii "", .ofAscii ""⟩
        batchId := fun _ => none
        writeChunk := fun _ _ => false }
      [.sessionStart (.record fun key => some (.text (.ofAscii (if key = "type" then "session_start" else "new"))))
        ⟨some (.text (.ofAscii "a")), none⟩ (some ⟨List.replicate 64 ⟨48, by decide⟩⟩)] : Runtime Digested).Kept
    ⟨⟨.ofAscii "a", by decide, by decide⟩, ⟨⟨List.replicate 64 ⟨48, by decide⟩⟩, by decide⟩⟩ := by
  refine kept_run (fun f _ g _ hkey => ?_) _
  exact Digested.window.inj hkey

end Runtime

end SalienceGate.Pi
