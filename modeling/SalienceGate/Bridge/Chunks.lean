import SalienceGate.Bridge.Contracts

/-!
# Chunks

`bridge-core/src/chunks.ts` and `windowed-chunks.ts`: the events of a flush, each replaced by an
oversize event if it is too large, in groups that fit into a document. The two files differ in the
documents' coordinates only.
-/

namespace SalienceGate

variable {ω ε : Type} [CaptureEncoding ω ε]

/-- `encodedSize`. -/
def encodedSize (about : ω) (chunkIndex : ℕ) (events : List ε) : ℕ :=
  (CaptureEncoding.documentBytes about chunkIndex maxCaptureBatchChunks events).getD (maxCaptureBatchBytes + 1)

variable (ω) in
/-- `normalizeCaptureEvent`. -/
def normalizeCaptureEvent (oversize event : ε) : ε :=
  if CaptureEncoding.canonicalizes ω event
      && CaptureEncoding.byteLength ω event ≤ maxCaptureEventBytes then event
  else oversize

/-- The event that goes into a chunk in the place of an event of the batch. -/
def chunkedEvent (about : ω) (oversize event : ε) : ε :=
  let normalized := normalizeCaptureEvent ω oversize event
  if encodedSize about 0 [normalized] ≤ maxCaptureBatchBytes then normalized else oversize

/-- A round of the loop over the events: the groups that are closed and the current one. -/
def groupEvent (about : ω) (grouped : List (List ε) × List ε) (event : ε) : List (List ε) × List ε :=
  let candidate := grouped.2 ++ [event]
  if grouped.2 ≠ [] ∧ (maxCaptureEventsPerChunk ≤ grouped.2.length
      ∨ maxCaptureBatchBytes < encodedSize about grouped.1.length candidate) then
    (grouped.1 ++ [grouped.2], [event])
  else (grouped.1, candidate)

/-- The groups of the events. -/
def groupEvents (about : ω) (events : List ε) : List (List ε) :=
  let grouped := events.foldl (groupEvent about) ([], [])
  if grouped.2 ≠ [] ∨ grouped.1 = [] then grouped.1 ++ [grouped.2] else grouped.1

/-- The document of a group fits into a batch. -/
def documentFits (about : ω) (chunkCount chunkIndex : ℕ) (group : List ε) : Bool :=
  (CaptureEncoding.documentBytes about chunkIndex chunkCount group).any fun bytes =>
    bytes ≤ maxCaptureBatchBytes

/-- `buildCaptureChunks`: the events of the chunks, unless the contract is broken. `accepted` says
that the bootstrap, the batch id and the workspace path are as the contract has them. -/
def buildCaptureChunks (about : ω) (accepted : Bool) (oversize : ε) (events : List ε) :
    Option (List (List ε)) :=
  let groups := groupEvents about (events.map (chunkedEvent about oversize))
  if !accepted || 10000 < events.length then none
  else if maxCaptureBatchChunks < groups.length then none
  else if groups.zipIdx.all fun group => documentFits about groups.length group.2 group.1 then some groups
  else none

/-- `buildWindowedCaptureChunks`: the contract is also broken by an event of another window. What took
the place of an event is of the window. -/
def buildWindowedCaptureChunks (about : ω) (accepted : Bool) (isOfWindow : ε → Bool) (oversize : ε)
    (events : List ε) : Option (List (List ε)) :=
  if events.all fun event => isOfWindow (normalizeCaptureEvent ω oversize event) then
    buildCaptureChunks about accepted oversize events
  else none

/-! ## The chunks carry the events -/

theorem flatten_groupEvent (about : ω) (grouped : List (List ε) × List ε) (event : ε) :
    (groupEvent about grouped event).1.flatten ++ (groupEvent about grouped event).2
      = grouped.1.flatten ++ grouped.2 ++ [event] := by
  unfold groupEvent
  dsimp only
  split <;> simp

theorem flatten_foldl_groupEvent (about : ω) (events : List ε) (grouped : List (List ε) × List ε) :
    (events.foldl (groupEvent about) grouped).1.flatten ++ (events.foldl (groupEvent about) grouped).2
      = grouped.1.flatten ++ grouped.2 ++ events := by
  induction events generalizing grouped with
  | nil => simp
  | cons event events ih =>
    rw [List.foldl_cons, ih, flatten_groupEvent, List.append_assoc, List.singleton_append]

theorem flatten_groupEvents (about : ω) (events : List ε) : (groupEvents about events).flatten = events := by
  have hall := flatten_foldl_groupEvent about events ([], [])
  rw [List.flatten_nil, List.nil_append, List.nil_append] at hall
  unfold groupEvents
  dsimp only
  split
  next => rw [List.flatten_append, List.flatten_singleton, hall]
  next h =>
    push Not at h
    rw [h.1, List.append_nil] at hall
    exact hall

theorem groupEvents_ne_nil (about : ω) (events : List ε) : groupEvents about events ≠ [] := by
  unfold groupEvents
  dsimp only
  split
  next => simp
  next h =>
    push Not at h
    exact h.2

/-- A flush has a chunk to write. -/
theorem buildCaptureChunks_ne_nil {about : ω} {accepted : Bool} {oversize : ε} {events : List ε}
    {chunks : List (List ε)} (h : buildCaptureChunks about accepted oversize events = some chunks) :
    chunks ≠ [] := by
  unfold buildCaptureChunks at h
  dsimp only at h
  split at h
  · cases h
  split at h
  · cases h
  split at h
  · cases h
    exact groupEvents_ne_nil about _
  · cases h

/-- Where the contract is kept, the chunks are the groups of the events. -/
theorem buildCaptureChunks_eq_some {about : ω} {accepted : Bool} {oversize : ε} {events : List ε}
    {chunks : List (List ε)} (h : buildCaptureChunks about accepted oversize events = some chunks) :
    accepted = true ∧ chunks = groupEvents about (events.map (chunkedEvent about oversize)) := by
  unfold buildCaptureChunks at h
  dsimp only at h
  split at h
  · cases h
  next haccepted =>
    split at h
    · cases h
    split at h
    · cases h
      refine ⟨?_, rfl⟩
      cases accepted with
      | false => exact absurd rfl haccepted
      | true => rfl
    · cases h

/-- The first event of the groups, so far. -/
def firstEvent (groups : List (List ε)) : Option ε := groups.head?.bind List.head?

theorem firstEvent_groupEvent (about : ω) {grouped : List (List ε) × List ε} {first : ε}
    (h : firstEvent (grouped.1 ++ [grouped.2]) = some first) (event : ε) :
    firstEvent ((groupEvent about grouped event).1 ++ [(groupEvent about grouped event).2]) = some first := by
  obtain ⟨closed, current⟩ := grouped
  unfold groupEvent
  dsimp only
  split
  · cases closed with
    | nil => exact h
    | cons group closed => exact h
  · cases closed with
    | cons group closed => exact h
    | nil =>
      cases current with
      | nil => cases h
      | cons other current => exact h

/-- The first group starts with the first event. -/
theorem firstEvent_groupEvents (about : ω) (event : ε) (events : List ε) :
    firstEvent (groupEvents about (event :: events)) = some event := by
  have hfold : ∀ (events : List ε) (grouped : List (List ε) × List ε),
      firstEvent (grouped.1 ++ [grouped.2]) = some event →
        firstEvent ((events.foldl (groupEvent about) grouped).1 ++ [(events.foldl (groupEvent about) grouped).2])
          = some event := by
    intro events
    induction events with
    | nil => exact fun grouped h => h
    | cons other events ih => exact fun grouped h => ih _ (firstEvent_groupEvent about h other)
  have hfirst := hfold events ([], [event]) rfl
  have hstart : (event :: events).foldl (groupEvent about) ([], [])
      = events.foldl (groupEvent about) ([], [event]) := by
    rw [List.foldl_cons]
    congr 1
  unfold groupEvents
  dsimp only
  rw [hstart]
  split
  · exact hfirst
  next hlast =>
    -- The current group is empty only if there are closed ones.
    push Not at hlast
    rw [hlast.1] at hfirst
    generalize (events.foldl (groupEvent about) ([], [event])).1 = closed at hfirst hlast
    cases closed with
    | nil => exact absurd rfl hlast.2
    | cons group closed => exact hfirst

end SalienceGate
