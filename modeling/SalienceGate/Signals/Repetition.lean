import SalienceGate.Domain.Ids
import SalienceGate.Signals.Fingerprints

/-!
# Repeated failures

A failure is repeated when an earlier one in the window has the same fingerprint, each comes from a
proposal of its own, the two proposals have one fingerprint, and nothing in between resolved the first:
no success of that action between the first failure and the second proposal. The detector looks for the
latest such failure, and abstains where it cannot tell.
-/

namespace SalienceGate

open Checked

/-- `RepetitionConfig`. -/
structure RepetitionConfig where
  windowEvents : ℕ
  /-- The bounds of the field. -/
  bounds : 2 ≤ windowEvents ∧ windowEvents ≤ 10000

/-- What an evaluation raises: the `ValueError` of a derived value, or a `DetectionError`. -/
inductive RepetitionError where
  | value
  | detection (error : DetectionError)
deriving DecidableEq

/-- `_RelatedFingerprintUnavailableError`, or the `ValueError` of a derived value. -/
inductive RelatedError where
  | related (reason : AbstentionReason) (eventId : UUID4)
  | value
deriving DecidableEq

/-- What `_structured_outcome` returns: its kind, and the fingerprint of a failure. -/
inductive StructuredOutcome where
  | absent
  | success
  | failure (fingerprint : FailureFingerprint)
deriving DecidableEq

/-! ## Parents -/

/-- `events_by_id`: the later event of an identity wins. -/
def eventsById (events : List TraceEvent) (eventId : UUID4) : Option TraceEvent :=
  events.reverse.find? (·.eventId = eventId)

/-- A parent of an event: an earlier event of the window. -/
def resolveParent (byId : UUID4 → Option TraceEvent) (event : TraceEvent) (parentId : UUID4) :
    Except FingerprintError TraceEvent :=
  expect ((byId parentId).filter (·.sequence < event.sequence)) (.unavailable .parentActionMissing)

/-- `_parent_action`. -/
def parentAction (byId : UUID4 → Option TraceEvent) (event : TraceEvent) :
    Except FingerprintError TraceEvent := do
  raiseIf (event.parentIds = []) (.unavailable .parentActionMissing)
  let parents ← event.parentIds.mapM (resolveParent byId event)
  match parents.filter (·.eventType = .actionProposal) with
  | [] => throw (.unavailable .parentActionMissing)
  | [parent] => pure parent
  | _ => throw (.unavailable .ambiguousParentAction)

section

variable [Sha256]

/-- `_structured_outcome`. -/
def structuredOutcome (event : TraceEvent) : Except FingerprintError StructuredOutcome := do
  raiseIf ((payloadMember event "test_report").isSome = true
      ∧ (payloadMember event "tool_outcome").isSome = true) (.unavailable .structuredEvidenceInvalid)
  if (payloadMember event "test_report").isSome = true then do
    let report ← parseTestReport event
    if report.status = .passed then pure .success
    else do
      let fingerprint ← failureFingerprint event
      pure (.failure fingerprint)
  else if (payloadMember event "tool_outcome").isSome = true then do
    let outcome ← parseToolOutcome event
    if outcome.status = .succeeded then pure .success
    else do
      let fingerprint ← failureFingerprint event
      pure (.failure fingerprint)
  else pure .absent

/-- `_action_for_outcome`. -/
def actionForOutcome (byId : UUID4 → Option TraceEvent) (event : TraceEvent) :
    Except FingerprintError (TraceEvent × ActionFingerprint) := do
  let action ← parentAction byId event
  let fingerprint ← actionFingerprint action
  pure (action, fingerprint)

/-! ## Successes -/

/-- `except FingerprintUnavailableError: raise _RelatedFingerprintUnavailableError`. -/
def relate {α : Type} (event : TraceEvent) (x : Except FingerprintError α) : Except RelatedError α :=
  x.mapError fun
    | .unavailable reason => .related reason event.eventId
    | .value => .value

/-- The loop of `_matching_success_between` and of `_success_for_action_event_between`: the first success
between two places that passes a test. An event without evidence has an outcome, so the `continue` in the
handler of the first is never reached. -/
def successBetween {α : Type} (afterSequence beforeSequence : ℕ)
    (test : TraceEvent → Except RelatedError (Option α)) :
    List TraceEvent → Except RelatedError (Option α)
  | [] => pure none
  | event :: events =>
    if ¬(afterSequence < event.sequence ∧ event.sequence < beforeSequence) then
      successBetween afterSequence beforeSequence test events
    else do
      let outcome ← relate event (structuredOutcome event)
      if outcome ≠ .success then successBetween afterSequence beforeSequence test events
      else do
        let found ← test event
        match found with
        | some result => pure (some result)
        | none => successBetween afterSequence beforeSequence test events

/-- `_matching_success_between`. -/
def matchingSuccessBetween (byId : UUID4 → Option TraceEvent) (afterSequence beforeSequence : ℕ)
    (action : ActionFingerprint) (events : List TraceEvent) :
    Except RelatedError (Option (TraceEvent × TraceEvent)) :=
  successBetween afterSequence beforeSequence (fun event => do
    let candidate ← relate event (actionForOutcome byId event)
    if candidate.2 = action then do
      raiseIf (candidate.1.sequence ≤ afterSequence)
        (.related .structuredEvidenceInvalid event.eventId)
      pure (some (candidate.1, event))
    else pure none) events

/-- `_success_for_action_event_between`. -/
def successForActionEventBetween (byId : UUID4 → Option TraceEvent)
    (afterSequence beforeSequence : ℕ) (actionEventId : UUID4) (events : List TraceEvent) :
    Except RelatedError (Option TraceEvent) :=
  successBetween afterSequence beforeSequence (fun event => do
    let parent ← relate event (parentAction byId event)
    if parent.eventId = actionEventId then pure (some event) else pure none) events

/-! ## The detector -/

/-- The outcome of the detector, or the error of a record that does not validate. -/
def outcomeOf (outcome : Except ValidationError DetectionOutcome) :
    Except RepetitionError DetectionOutcome :=
  outcome.mapError fun error => .detection (.validation error)

/-- `DetectionOutcome.abstained`, of the detector. -/
def abstain (reason : AbstentionReason) (relatedEventIds : List UUID4) :
    Except RepetitionError DetectionOutcome :=
  outcomeOf (DetectionOutcome.abstained .repeatedFailure reason relatedEventIds)

/-- `DetectionOutcome.no_match`, of the detector. -/
def noRepetition (relatedEventIds : List UUID4) : Except RepetitionError DetectionOutcome :=
  outcomeOf (DetectionOutcome.noMatch .repeatedFailure relatedEventIds)

/-- `DetectionOutcome.detected`, of the detector. -/
def detect (evidenceEventIds : List UUID4) : Except RepetitionError DetectionOutcome :=
  outcomeOf (DetectionOutcome.detected .repeatedFailure evidenceEventIds)

/-- What the search for a prior failure looks for: the window, the current event, its failure, its action
and the fingerprint of the action. -/
structure FailureSearch where
  window : List TraceEvent
  current : TraceEvent
  currentFailure : FailureFingerprint
  currentAction : TraceEvent
  currentActionFingerprint : ActionFingerprint

/-- The tests of a prior failure that has an action: the same action fingerprint, another proposal, and
the order of the four events. -/
def FailureSearch.accepts (search : FailureSearch) (candidate priorAction : TraceEvent)
    (priorActionFingerprint : ActionFingerprint) : Prop :=
  priorActionFingerprint = search.currentActionFingerprint
    ∧ priorAction.eventId ≠ search.currentAction.eventId
    ∧ priorAction.sequence < candidate.sequence
    ∧ candidate.sequence < search.currentAction.sequence
    ∧ search.currentAction.sequence < search.current.sequence

instance FailureSearch.accepts_decidable (search : FailureSearch) (candidate priorAction : TraceEvent)
    (fingerprint : ActionFingerprint) : Decidable (search.accepts candidate priorAction fingerprint) :=
  inferInstanceAs (Decidable (_ ∧ _ ∧ _ ∧ _ ∧ _))

/-- What the search returns at a prior failure that it accepts. -/
def FailureSearch.settle (search : FailureSearch) (candidate priorAction : TraceEvent) :
    Except RepetitionError DetectionOutcome :=
  match matchingSuccessBetween (eventsById search.window) candidate.sequence
    search.currentAction.sequence search.currentActionFingerprint search.window with
  | .error (.related reason eventId) => abstain reason [eventId, search.current.eventId]
  | .error .value => throw .value
  | .ok (some (resolutionAction, resolutionOutcome)) =>
    noRepetition [priorAction.eventId, candidate.eventId, resolutionAction.eventId,
      resolutionOutcome.eventId, search.currentAction.eventId, search.current.eventId]
  | .ok none =>
    detect [priorAction.eventId, candidate.eventId, search.currentAction.eventId,
      search.current.eventId]

/-- The loop over the candidates, the latest first. It remembers the first candidate whose outcome it
could not read, and what was wrong with it. -/
def FailureSearch.run (search : FailureSearch) :
    Option (AbstentionReason × UUID4) → List TraceEvent → Except RepetitionError DetectionOutcome
  | none, [] => noRepetition [search.current.eventId]
  | some (reason, eventId), [] => abstain reason [eventId, search.current.eventId]
  | unavailable, candidate :: candidates =>
    match structuredOutcome candidate with
    | .error (.unavailable reason) =>
      search.run (unavailable.or (some (reason, candidate.eventId))) candidates
    | .error .value => throw .value
    | .ok outcome =>
      if outcome ≠ .failure search.currentFailure then search.run unavailable candidates
      else
        match actionForOutcome (eventsById search.window) candidate with
        | .error (.unavailable reason) =>
          abstain reason [candidate.eventId, search.current.eventId]
        | .error .value => throw .value
        | .ok (priorAction, priorActionFingerprint) =>
          if search.accepts candidate priorAction priorActionFingerprint then
            search.settle candidate priorAction
          else search.run unavailable candidates

/-- The evaluation of a failure that has an action: the action must not have succeeded before. -/
def FailureSearch.start (search : FailureSearch) : Except RepetitionError DetectionOutcome :=
  match successForActionEventBetween (eventsById search.window) search.currentAction.sequence
    search.current.sequence search.currentAction.eventId search.window with
  | .error (.related reason eventId) => abstain reason [eventId, search.current.eventId]
  | .error .value => throw .value
  | .ok (some success) =>
    abstain .structuredEvidenceInvalid [success.eventId, search.current.eventId]
  | .ok none => search.run none search.window.dropLast.reverse

/-- The evaluation of a failure. -/
def evaluateFailure (window : List TraceEvent) (current : TraceEvent)
    (currentFailure : FailureFingerprint) : Except RepetitionError DetectionOutcome :=
  if window.length < 2 then abstain .insufficientHistory [current.eventId]
  else
    match actionForOutcome (eventsById window) current with
    | .error (.unavailable reason) => abstain reason [current.eventId]
    | .error .value => throw .value
    | .ok (currentAction, currentActionFingerprint) =>
      FailureSearch.start
        { window, current, currentFailure, currentAction, currentActionFingerprint }

/-- `DetectionContext.current`. -/
def DetectionContext.current (context : DetectionContext) : TraceEvent :=
  context.events.getLast (by
    intro hempty
    have hlength := (DetectionContextFields.check_eq_ok.mp context.valid).1.1
    rw [hempty] at hlength
    exact absurd hlength (by decide))

/-- The last events of a context: `context.events[-window_events:]`. -/
def RepetitionConfig.window (config : RepetitionConfig) (context : DetectionContext) :
    List TraceEvent :=
  context.events.drop (context.events.length - config.windowEvents)

/-- `RepeatedFailureDetector._evaluate_validated`. -/
def evaluateValidated (config : RepetitionConfig) (context : DetectionContext) :
    Except RepetitionError DetectionOutcome :=
  match structuredOutcome context.current with
  | .error (.unavailable reason) => abstain reason [context.current.eventId]
  | .error .value => throw .value
  | .ok .absent =>
    abstain (if context.current.eventType = .toolCompletion ∨ context.current.eventType = .observation
      then .structuredEvidenceMissing else .eventNotApplicable) [context.current.eventId]
  | .ok .success => noRepetition [context.current.eventId]
  | .ok (.failure currentFailure) =>
    evaluateFailure (config.window context) context.current currentFailure

/-- `RepeatedFailureDetector.evaluate`. -/
def evaluateRepeatedFailure (config : RepetitionConfig) (context : DetectionContext) :
    Except RepetitionError DetectionOutcome := do
  let validated ← (validateDetectionContext context).mapError .detection
  evaluateValidated config validated

/-! ## Windows -/

/-- A window: its events are in order and their identities differ. -/
structure IsWindow (window : List TraceEvent) : Prop where
  sorted : window.Pairwise fun a b => a.sequence < b.sequence
  nodup : (window.map (·.eventId)).Nodup

omit [Sha256] in
theorem IsWindow.eventsById_eq_some {window : List TraceEvent} (h : IsWindow window) {eventId : UUID4}
    {event : TraceEvent} :
    eventsById window eventId = some event ↔ event ∈ window ∧ event.eventId = eventId := by
  unfold eventsById
  constructor
  · intro hfound
    have hmem := List.mem_of_find?_eq_some hfound
    have hid := List.find?_some hfound
    exact ⟨List.mem_reverse.mp hmem, of_decide_eq_true hid⟩
  · rintro ⟨hmem, hid⟩
    cases hfound : window.reverse.find? (·.eventId = eventId) with
    | none =>
      have hnone := List.find?_eq_none.mp hfound event (List.mem_reverse.mpr hmem)
      exact absurd (decide_eq_true hid) hnone
    | some other =>
      have hother := List.mem_reverse.mp (List.mem_of_find?_eq_some hfound)
      have hotherId : other.eventId = eventId := by simpa using List.find?_some hfound
      have hsame := List.inj_on_of_nodup_map h.nodup hother hmem (hotherId.trans hid.symm)
      rw [hsame]

omit [Sha256] in
/-- Events at different places of a window have different identities. -/
theorem IsWindow.eventId_ne {window : List TraceEvent} (h : IsWindow window) {a b : TraceEvent}
    (ha : a ∈ window) (hb : b ∈ window) (hlt : a.sequence < b.sequence) : a.eventId ≠ b.eventId := by
  intro hid
  have hsame := List.inj_on_of_nodup_map h.nodup ha hb hid
  rw [hsame] at hlt
  omega

omit [Sha256] in
theorem RepetitionConfig.isWindow (config : RepetitionConfig) (context : DetectionContext) :
    IsWindow (config.window context) := by
  obtain ⟨-, -, ⟨-, hcontiguous⟩, ⟨hnodup, -⟩, -⟩ :=
    DetectionContextFields.check_eq_ok.mp context.valid
  have hsublist : (config.window context).Sublist context.events := List.drop_sublist _ _
  exact ⟨hcontiguous.sorted.sublist hsublist, hnodup.sublist (hsublist.map _)⟩

/-! ## Proposal parents -/

/-- A proposal is the parent of an event: all parents of the event are earlier events of the window, and
it is the only one that is a proposal. -/
structure ProposalParent (window : List TraceEvent) (event parent : TraceEvent) : Prop where
  resolved : ∀ parentId ∈ event.parentIds, ∃ other ∈ window, other.eventId = parentId
    ∧ other.sequence < event.sequence
  mem : parent ∈ window
  named : parent.eventId ∈ event.parentIds
  proposal : parent.eventType = .actionProposal
  unique : ∀ other ∈ window, other.eventId ∈ event.parentIds → other.eventType = .actionProposal →
    other = parent

omit [Sha256] in
theorem IsWindow.resolveParent_eq_ok {window : List TraceEvent} (h : IsWindow window)
    {event parent : TraceEvent} {parentId : UUID4} :
    resolveParent (eventsById window) event parentId = .ok parent ↔
      (parent ∈ window ∧ parent.eventId = parentId) ∧ parent.sequence < event.sequence := by
  unfold resolveParent
  rw [expect_eq_ok, Option.filter_eq_some_iff, h.eventsById_eq_some, decide_eq_true_eq]

omit [Sha256] in
theorem IsWindow.map_eventId {window : List TraceEvent} (h : IsWindow window) {event : TraceEvent}
    {parentIds : List UUID4} {parents : List TraceEvent}
    (hparents : parentIds.mapM (resolveParent (eventsById window) event) = .ok parents) :
    parents.map (·.eventId) = parentIds := by
  induction mapM_eq_ok.mp hparents with
  | nil => rfl
  | cons hone hrest ih =>
    rw [List.map_cons, ih (mapM_eq_ok.mpr hrest), (h.resolveParent_eq_ok.mp hone).1.2]

omit [Sha256] in
/-- The parent of an event is earlier. -/
theorem ProposalParent.earlier {window : List TraceEvent} (h : IsWindow window)
    {event parent : TraceEvent} (hparent : ProposalParent window event parent) :
    parent.sequence < event.sequence := by
  obtain ⟨other, hother, hid, hlt⟩ := hparent.resolved parent.eventId hparent.named
  have hsame := List.inj_on_of_nodup_map h.nodup hother hparent.mem hid
  rwa [hsame] at hlt

omit [Sha256] in
theorem TraceEvent.parentIds_nodup (event : TraceEvent) : event.parentIds.Nodup := by
  have hvalid := event.valid
  unfold TraceEventFields.check TraceEventDraftFields.check at hvalid
  simp only [constrain_bind_eq_ok, refuse_bind_eq_ok, refuse_eq_ok, not_not] at hvalid
  exact hvalid.2.2.2.2

omit [Sha256] in
theorem IsWindow.parentAction_eq_ok {window : List TraceEvent} (h : IsWindow window)
    {event parent : TraceEvent} :
    parentAction (eventsById window) event = .ok parent ↔ ProposalParent window event parent := by
  unfold parentAction
  rw [raiseIf_bind_eq_ok, bind_eq_ok]
  constructor
  · rintro ⟨-, parents, hparents, hone⟩
    have hmem : ∀ other, other ∈ parents ↔ other ∈ window ∧ other.eventId ∈ event.parentIds
        ∧ other.sequence < event.sequence := by
      intro other
      rw [mem_of_mapM_eq_ok hparents]
      constructor
      · rintro ⟨parentId, hnamed, hresolved⟩
        obtain ⟨⟨hother, rfl⟩, hlt⟩ := h.resolveParent_eq_ok.mp hresolved
        exact ⟨hother, hnamed, hlt⟩
      · rintro ⟨hother, hnamed, hlt⟩
        exact ⟨other.eventId, hnamed, h.resolveParent_eq_ok.mpr ⟨⟨hother, rfl⟩, hlt⟩⟩
    have hproposals : parents.filter (·.eventType = .actionProposal) = [parent] := by
      split at hone
      · cases hone
      · rename_i hsingle
        rw [hsingle, pure_eq_ok.mp hone]
      · cases hone
    have hresolved : ∀ parentId ∈ event.parentIds, ∃ other ∈ window, other.eventId = parentId
        ∧ other.sequence < event.sequence := by
      intro parentId hnamed
      obtain ⟨other, -, hother⟩ := exists_of_mapM_eq_ok hparents hnamed
      obtain ⟨⟨hwindow, hid⟩, hlt⟩ := h.resolveParent_eq_ok.mp hother
      exact ⟨other, hwindow, hid, hlt⟩
    have hparent : parent ∈ parents.filter (·.eventType = .actionProposal) := by
      rw [hproposals]
      exact List.mem_singleton_self parent
    obtain ⟨hparent, htype⟩ := List.mem_filter.mp hparent
    obtain ⟨hwindow, hnamed, -⟩ := (hmem parent).mp hparent
    refine ⟨hresolved, hwindow, hnamed, of_decide_eq_true htype, ?_⟩
    intro other hother hotherNamed hotherType
    obtain ⟨same, hsame, hid, hlt⟩ := hresolved other.eventId hotherNamed
    obtain rfl := List.inj_on_of_nodup_map h.nodup hsame hother hid
    have hfiltered : same ∈ parents.filter (·.eventType = .actionProposal) :=
      List.mem_filter.mpr ⟨(hmem same).mpr ⟨hother, hotherNamed, hlt⟩, decide_eq_true hotherType⟩
    rw [hproposals] at hfiltered
    exact List.mem_singleton.mp hfiltered
  · intro hparent
    obtain ⟨parents, hparents⟩ : ∃ parents,
        event.parentIds.mapM (resolveParent (eventsById window) event) = .ok parents := by
      refine exists_mapM_eq_ok fun parentId hnamed => ?_
      obtain ⟨other, hother, hid, hlt⟩ := hparent.resolved parentId hnamed
      exact ⟨other, h.resolveParent_eq_ok.mpr ⟨⟨hother, hid⟩, hlt⟩⟩
    have hids := h.map_eventId hparents
    have hnodup : parents.Nodup := by
      refine List.Nodup.of_map (·.eventId) ?_
      rw [hids]
      exact event.parentIds_nodup
    have hsingle : parents.filter (·.eventType = .actionProposal) = [parent] := by
      refine List.perm_singleton.mp ?_
      refine (List.perm_ext_iff_of_nodup (hnodup.filter _) (List.nodup_singleton parent)).mpr ?_
      intro other
      rw [List.mem_filter, List.mem_singleton, decide_eq_true_eq, mem_of_mapM_eq_ok hparents]
      constructor
      · rintro ⟨⟨parentId, hnamed, hresolved⟩, htype⟩
        obtain ⟨⟨hother, rfl⟩, -⟩ := h.resolveParent_eq_ok.mp hresolved
        exact hparent.unique other hother hnamed htype
      · rintro rfl
        exact ⟨⟨other.eventId, hparent.named,
          h.resolveParent_eq_ok.mpr ⟨⟨hparent.mem, rfl⟩, hparent.earlier h⟩⟩, hparent.proposal⟩
    refine ⟨List.ne_nil_of_mem hparent.named, parents, hparents, ?_⟩
    rw [hsingle]
    rfl

theorem IsWindow.actionForOutcome_eq_ok {window : List TraceEvent} (h : IsWindow window)
    {event action : TraceEvent} {fingerprint : ActionFingerprint} :
    actionForOutcome (eventsById window) event = .ok (action, fingerprint) ↔
      ProposalParent window event action ∧ actionFingerprint action = .ok fingerprint := by
  unfold actionForOutcome
  rw [bind_eq_ok]
  constructor
  · rintro ⟨parent, hparent, hrest⟩
    obtain ⟨found, hfound, hpair⟩ := bind_eq_ok.mp hrest
    cases pure_eq_ok.mp hpair
    exact ⟨h.parentAction_eq_ok.mp hparent, hfound⟩
  · rintro ⟨hparent, hfound⟩
    exact ⟨action, h.parentAction_eq_ok.mpr hparent, bind_eq_ok.mpr ⟨fingerprint, hfound, rfl⟩⟩

/-! ## Successes between two places -/

/-- No event after one place and before another is a success with the property. -/
def NoSuccessBetween (window : List TraceEvent) (afterSequence beforeSequence : ℕ)
    (ofAction : TraceEvent → Prop) : Prop :=
  ∀ event ∈ window, afterSequence < event.sequence → event.sequence < beforeSequence →
    structuredOutcome event = .ok .success → ¬ofAction event

/-- An event comes from an action with a fingerprint; `parent` says which proposal an event has. -/
def ComesFrom (parent : TraceEvent → TraceEvent → Prop) (fingerprint : ActionFingerprint)
    (event : TraceEvent) : Prop :=
  ∃ action, parent event action ∧ actionFingerprint action = .ok fingerprint

/-- The evidence of an event reads, and if there is any, then the event comes from an action. -/
def WellFormed (parent : TraceEvent → TraceEvent → Prop) (event : TraceEvent) : Prop :=
  ∃ outcome, structuredOutcome event = .ok outcome ∧ (outcome ≠ .absent →
    ∃ fingerprint, ComesFrom parent fingerprint event)

omit [Sha256] in
theorem relate_eq_ok {α : Type} {event : TraceEvent} {x : Except FingerprintError α} {a : α} :
    relate event x = .ok a ↔ x = .ok a :=
  mapError_eq_ok

/-- The loop finds nothing exactly when every event in between reads, and no success passes the test. -/
theorem successBetween_eq_none {α : Type} {afterSequence beforeSequence : ℕ}
    {test : TraceEvent → Except RelatedError (Option α)} {events : List TraceEvent} :
    successBetween afterSequence beforeSequence test events = .ok none ↔
      ∀ event ∈ events, afterSequence < event.sequence → event.sequence < beforeSequence →
        ∃ outcome, structuredOutcome event = .ok outcome
          ∧ (outcome = .success → test event = .ok none) := by
  induction events with
  | nil => exact ⟨fun _ => List.forall_mem_nil _, fun _ => rfl⟩
  | cons event events ih =>
    unfold successBetween
    rw [List.forall_mem_cons, ← ih]
    split
    · rename_i houtside
      refine ⟨fun hrest => ⟨?_, hrest⟩, fun h => h.2⟩
      intro hafter hbefore
      exact absurd ⟨hafter, hbefore⟩ houtside
    · rename_i hbetween
      obtain ⟨hafter, hbefore⟩ := not_not.mp hbetween
      simp only [bind_eq_ok, relate_eq_ok]
      constructor
      · rintro ⟨outcome, houtcome, h⟩
        split at h
        · rename_i hother
          exact ⟨fun _ _ => ⟨outcome, houtcome, fun hsuccess => absurd hsuccess hother⟩, h⟩
        · obtain ⟨found, hfound, h⟩ := bind_eq_ok.mp h
          cases found with
          | some result => cases pure_eq_ok.mp h
          | none => exact ⟨fun _ _ => ⟨outcome, houtcome, fun _ => hfound⟩, h⟩
      · rintro ⟨hone, hrest⟩
        obtain ⟨outcome, houtcome, htest⟩ := hone hafter hbefore
        refine ⟨outcome, houtcome, ?_⟩
        split
        · exact hrest
        · rename_i hsuccess
          exact bind_eq_ok.mpr ⟨none, htest (not_not.mp hsuccess), hrest⟩

/-- If no success is found, there is no success of an action with the fingerprint. -/
theorem IsWindow.noMatching {window : List TraceEvent} (h : IsWindow window)
    {afterSequence beforeSequence : ℕ} {fingerprint : ActionFingerprint} {events : List TraceEvent}
    (hnone : matchingSuccessBetween (eventsById window) afterSequence beforeSequence fingerprint events
      = .ok none) :
    NoSuccessBetween events afterSequence beforeSequence
      (ComesFrom (ProposalParent window) fingerprint) := by
  intro event hevent hafter hbefore hsuccess
  rintro ⟨action, hparent, hfound⟩
  obtain ⟨outcome, houtcome, htest⟩ := successBetween_eq_none.mp hnone event hevent hafter hbefore
  cases houtcome.symm.trans hsuccess
  obtain ⟨candidate, hcandidate, hrest⟩ := bind_eq_ok.mp (htest rfl)
  cases (relate_eq_ok.mp hcandidate).symm.trans (h.actionForOutcome_eq_ok.mpr ⟨hparent, hfound⟩)
  rw [if_pos rfl] at hrest
  obtain ⟨-, hrest⟩ := raiseIf_bind_eq_ok.mp hrest
  cases pure_eq_ok.mp hrest

/-- Without a success of an action with the fingerprint, none is found. -/
theorem NoSuccessBetween.matching {window : List TraceEvent} (h : IsWindow window)
    {afterSequence beforeSequence : ℕ} {fingerprint : ActionFingerprint} {events : List TraceEvent}
    (hno : NoSuccessBetween events afterSequence beforeSequence
      (ComesFrom (ProposalParent window) fingerprint))
    (hformed : ∀ event ∈ events, WellFormed (ProposalParent window) event) :
    matchingSuccessBetween (eventsById window) afterSequence beforeSequence fingerprint events
      = .ok none := by
  refine successBetween_eq_none.mpr ?_
  intro event hevent hafter hbefore
  obtain ⟨outcome, houtcome, hcomes⟩ := hformed event hevent
  refine ⟨outcome, houtcome, ?_⟩
  rintro rfl
  obtain ⟨found, action, hparent, hfound⟩ := hcomes (fun h => by cases h)
  have hne : found ≠ fingerprint := by
    rintro rfl
    exact hno event hevent hafter hbefore houtcome ⟨action, hparent, hfound⟩
  refine bind_eq_ok.mpr ⟨(action, found),
    relate_eq_ok.mpr (h.actionForOutcome_eq_ok.mpr ⟨hparent, hfound⟩), ?_⟩
  rw [if_neg hne]
  rfl

/-- If no success is found, there is no success of the action itself. -/
theorem IsWindow.noneForAction {window : List TraceEvent} (h : IsWindow window)
    {afterSequence beforeSequence : ℕ} {action : TraceEvent} {events : List TraceEvent}
    (hnone : successForActionEventBetween (eventsById window) afterSequence beforeSequence
      action.eventId events = .ok none) :
    NoSuccessBetween events afterSequence beforeSequence
      fun event => ProposalParent window event action := by
  intro event hevent hafter hbefore hsuccess hparent
  obtain ⟨outcome, houtcome, htest⟩ := successBetween_eq_none.mp hnone event hevent hafter hbefore
  cases houtcome.symm.trans hsuccess
  obtain ⟨parent, hfound, hrest⟩ := bind_eq_ok.mp (htest rfl)
  cases (relate_eq_ok.mp hfound).symm.trans (h.parentAction_eq_ok.mpr hparent)
  rw [if_pos rfl] at hrest
  cases pure_eq_ok.mp hrest

/-- Without a success of the action itself, none is found. -/
theorem NoSuccessBetween.forAction {window : List TraceEvent} (h : IsWindow window)
    {afterSequence beforeSequence : ℕ} {action : TraceEvent} (haction : action ∈ window)
    {events : List TraceEvent}
    (hno : NoSuccessBetween events afterSequence beforeSequence
      fun event => ProposalParent window event action)
    (hformed : ∀ event ∈ events, WellFormed (ProposalParent window) event) :
    successForActionEventBetween (eventsById window) afterSequence beforeSequence action.eventId events
      = .ok none := by
  refine successBetween_eq_none.mpr ?_
  intro event hevent hafter hbefore
  obtain ⟨outcome, houtcome, hcomes⟩ := hformed event hevent
  refine ⟨outcome, houtcome, ?_⟩
  rintro rfl
  obtain ⟨-, parent, hparent, -⟩ := hcomes (fun h => by cases h)
  have hne : parent.eventId ≠ action.eventId := by
    intro hid
    obtain rfl := List.inj_on_of_nodup_map h.nodup hparent.mem haction hid
    exact hno event hevent hafter hbefore houtcome hparent
  refine bind_eq_ok.mpr ⟨parent, relate_eq_ok.mpr (h.parentAction_eq_ok.mpr hparent), ?_⟩
  rw [if_neg hne]
  rfl

/-! ## Repeated failures -/

/-- A failure repeats a prior one: each comes from a proposal of its own, in this order, the two proposals
have one fingerprint and the two failures have one. -/
structure RepeatedFailure (window : List TraceEvent) (parent : TraceEvent → TraceEvent → Prop)
    (priorAction priorFailure action failure : TraceEvent) : Prop where
  priorMem : priorFailure ∈ window
  mem : failure ∈ window
  priorParent : parent priorFailure priorAction
  parent : parent failure action
  distinct : priorAction.eventId ≠ action.eventId
  order : priorAction.sequence < priorFailure.sequence ∧ priorFailure.sequence < action.sequence
    ∧ action.sequence < failure.sequence
  sameAction : ∃ fingerprint, actionFingerprint priorAction = .ok fingerprint
    ∧ actionFingerprint action = .ok fingerprint
  sameFailure : ∃ fingerprint, structuredOutcome priorFailure = .ok (.failure fingerprint)
    ∧ structuredOutcome failure = .ok (.failure fingerprint)

/-- Nothing resolved a prior failure: no action with the fingerprint succeeded between it and the proposal
of the failure, and that proposal itself did not succeed before the failure. -/
structure Unresolved (window : List TraceEvent) (parent : TraceEvent → TraceEvent → Prop)
    (priorFailure action failure : TraceEvent) : Prop where
  before : ∀ fingerprint, actionFingerprint action = .ok fingerprint →
    NoSuccessBetween window priorFailure.sequence action.sequence (ComesFrom parent fingerprint)
  after : NoSuccessBetween window action.sequence failure.sequence fun event => parent event action

/-! ## Outcomes -/

omit [Sha256] in
theorem status_of_abstain {reason : AbstentionReason} {eventIds : List UUID4}
    {outcome : DetectionOutcome} (h : abstain reason eventIds = .ok outcome) :
    outcome.status = .abstained := by
  obtain ⟨-, rfl⟩ := validate_eq_ok.mp (mapError_eq_ok.mp h)
  rfl

omit [Sha256] in
theorem status_of_noRepetition {eventIds : List UUID4} {outcome : DetectionOutcome}
    (h : noRepetition eventIds = .ok outcome) : outcome.status = .noMatch := by
  obtain ⟨-, rfl⟩ := validate_eq_ok.mp (mapError_eq_ok.mp h)
  rfl

omit [Sha256] in
theorem evidence_of_detect {eventIds : List UUID4} {outcome : DetectionOutcome}
    (h : detect eventIds = .ok outcome) : outcome.evidenceEventIds = eventIds := by
  obtain ⟨-, rfl⟩ := validate_eq_ok.mp (mapError_eq_ok.mp h)
  rfl

omit [Sha256] in
/-- Different events are detected. -/
theorem exists_detect {eventIds : List UUID4} (hne : eventIds ≠ [])
    (hlength : eventIds.length ≤ maxDetectionEvents) (hnodup : eventIds.Nodup) :
    ∃ outcome, detect eventIds = .ok outcome ∧ outcome.status = .detected
      ∧ outcome.evidenceEventIds = eventIds := by
  have hcheck : DetectionOutcomeFields.check {
      signalType := .repeatedFailure
      status := .detected
      strength := some UnitInterval.one
      reasonCode := some SignalType.repeatedFailure.reasonCode
      evidenceEventIds := eventIds } = .ok () := by
    unfold DetectionOutcomeFields.check
    rw [constrain_bind_eq_ok, constrain_bind_eq_ok, if_pos rfl, refuse_bind_eq_ok, refuse_eq_ok]
    refine ⟨hlength, Nat.zero_le _, ?_, ?_⟩
    · simp [hne]
    · simp [hnodup]
  exact ⟨_, mapError_eq_ok.mpr (validate_self hcheck), rfl, rfl⟩

/-! ## The search -/

/-- The search stops at a candidate: it is a failure with the fingerprint, and it and its action are
accepted. -/
structure FailureSearch.StopsAt (search : FailureSearch) (candidate priorAction : TraceEvent) : Prop where
  outcome : structuredOutcome candidate = .ok (.failure search.currentFailure)
  action : actionForOutcome (eventsById search.window) candidate
    = .ok (priorAction, search.currentActionFingerprint)
  accepted : search.accepts candidate priorAction search.currentActionFingerprint

/-- The identities of the evidence for a repeated failure. -/
def FailureSearch.evidence (search : FailureSearch) (candidate priorAction : TraceEvent) : List UUID4 :=
  [priorAction.eventId, candidate.eventId, search.currentAction.eventId, search.current.eventId]

/-- Where the search settles with a detection, no success is found in between. -/
theorem FailureSearch.settle_detected {search : FailureSearch} {candidate priorAction : TraceEvent}
    {outcome : DetectionOutcome} (h : search.settle candidate priorAction = .ok outcome)
    (hdetected : outcome.status = .detected) :
    matchingSuccessBetween (eventsById search.window) candidate.sequence
        search.currentAction.sequence search.currentActionFingerprint search.window = .ok none
      ∧ outcome.evidenceEventIds = search.evidence candidate priorAction := by
  unfold settle at h
  split at h
  · rw [status_of_abstain h] at hdetected
    cases hdetected
  · cases h
  · rw [status_of_noRepetition h] at hdetected
    cases hdetected
  · rename_i hnone
    exact ⟨hnone, evidence_of_detect h⟩

/-- A detection comes from a candidate that the search stops at. -/
theorem FailureSearch.run_detected {search : FailureSearch} {candidates : List TraceEvent}
    {outcome : DetectionOutcome} (hdetected : outcome.status = .detected) :
    ∀ {unavailable : Option (AbstentionReason × UUID4)},
      search.run unavailable candidates = .ok outcome →
      ∃ candidate ∈ candidates, ∃ priorAction, search.StopsAt candidate priorAction
        ∧ search.settle candidate priorAction = .ok outcome := by
  induction candidates with
  | nil =>
    intro unavailable h
    cases unavailable with
    | none =>
      rw [status_of_noRepetition h] at hdetected
      cases hdetected
    | some pair =>
      rw [status_of_abstain h] at hdetected
      cases hdetected
  | cons candidate candidates ih =>
    intro unavailable h
    have hlater : ∀ {unavailable : Option (AbstentionReason × UUID4)},
        search.run unavailable candidates = .ok outcome →
        ∃ other ∈ candidate :: candidates, ∃ priorAction, search.StopsAt other priorAction
          ∧ search.settle other priorAction = .ok outcome := by
      intro unavailable hrest
      obtain ⟨other, hother, hstops⟩ := ih hrest
      exact ⟨other, List.mem_cons_of_mem _ hother, hstops⟩
    rw [run] at h
    split at h
    · exact hlater h
    · cases h
    · rename_i found houtcome
      split at h
      · exact hlater h
      · rename_i hsame
        obtain rfl := not_not.mp hsame
        split at h
        · rw [status_of_abstain h] at hdetected
          cases hdetected
        · cases h
        · rename_i priorAction fingerprint haction
          split at h
          · rename_i haccepted
            have hfingerprint := haccepted.1
            subst hfingerprint
            exact ⟨candidate, List.mem_cons_self, priorAction,
              ⟨houtcome, haction, haccepted⟩, h⟩
          · exact hlater h

/-- A candidate that reads, and that the search does not stop at, is passed over. -/
theorem FailureSearch.run_skip {search : FailureSearch} (hwindow : IsWindow search.window)
    {candidate : TraceEvent} (hformed : WellFormed (ProposalParent search.window) candidate)
    (hpasses : ∀ priorAction, ¬search.StopsAt candidate priorAction)
    (unavailable : Option (AbstentionReason × UUID4)) (candidates : List TraceEvent) :
    search.run unavailable (candidate :: candidates) = search.run unavailable candidates := by
  obtain ⟨outcome, houtcome, hcomes⟩ := hformed
  rw [run, houtcome]
  dsimp only
  split
  · rfl
  · rename_i hsame
    obtain rfl := not_not.mp hsame
    obtain ⟨fingerprint, priorAction, hparent, hfound⟩ := hcomes (fun h => by cases h)
    have haction := hwindow.actionForOutcome_eq_ok.mpr ⟨hparent, hfound⟩
    rw [haction]
    dsimp only
    refine if_neg ?_
    intro haccepted
    have hfingerprint := haccepted.1
    subst hfingerprint
    exact hpasses priorAction ⟨houtcome, haction, haccepted⟩

/-- The search settles at the first candidate that it stops at. -/
theorem FailureSearch.run_eq_settle {search : FailureSearch} (hwindow : IsWindow search.window)
    {earlier later : List TraceEvent} {candidate priorAction : TraceEvent}
    (hformed : ∀ event ∈ earlier, WellFormed (ProposalParent search.window) event)
    (hpasses : ∀ event ∈ earlier, ∀ action, ¬search.StopsAt event action)
    (hstops : search.StopsAt candidate priorAction)
    (unavailable : Option (AbstentionReason × UUID4)) :
    search.run unavailable (earlier ++ candidate :: later) = search.settle candidate priorAction := by
  induction earlier with
  | nil =>
    rw [List.nil_append, run, hstops.outcome]
    dsimp only
    rw [if_neg (not_not.mpr rfl), hstops.action]
    exact if_pos hstops.accepted
  | cons event earlier ih =>
    obtain ⟨hone, hformed⟩ := List.forall_mem_cons.mp hformed
    obtain ⟨hpass, hpasses⟩ := List.forall_mem_cons.mp hpasses
    rw [List.cons_append, run_skip hwindow hone hpass]
    exact ih hformed hpasses

/-- A search for the prior of the last event of a window, which is a failure and has an action. -/
structure FailureSearch.IsFor (search : FailureSearch) : Prop where
  window : IsWindow search.window
  ends : search.window.dropLast ++ [search.current] = search.window
  failure : structuredOutcome search.current = .ok (.failure search.currentFailure)
  action : actionForOutcome (eventsById search.window) search.current
    = .ok (search.currentAction, search.currentActionFingerprint)

theorem FailureSearch.IsFor.mem {search : FailureSearch} (h : search.IsFor) :
    search.current ∈ search.window := by
  rw [← h.ends]
  exact List.mem_append_right _ (List.mem_singleton_self _)

/-- The search stops exactly at what the current failure repeats. -/
theorem FailureSearch.IsFor.stopsAt_iff {search : FailureSearch} (h : search.IsFor)
    {candidate priorAction : TraceEvent} (hcandidate : candidate ∈ search.window) :
    search.StopsAt candidate priorAction ↔ RepeatedFailure search.window
      (ProposalParent search.window) priorAction candidate search.currentAction search.current := by
  obtain ⟨hparent, hfingerprint⟩ := h.window.actionForOutcome_eq_ok.mp h.action
  constructor
  · intro hstops
    obtain ⟨hpriorParent, hprior⟩ := h.window.actionForOutcome_eq_ok.mp hstops.action
    obtain ⟨-, hdistinct, horder⟩ := hstops.accepted
    exact ⟨hcandidate, h.mem, hpriorParent, hparent, hdistinct, horder,
      ⟨_, hprior, hfingerprint⟩, ⟨_, hstops.outcome, h.failure⟩⟩
  · intro hrepeated
    obtain ⟨fingerprint, hprior, hsame⟩ := hrepeated.sameAction
    obtain ⟨failure, hpriorFailure, hsameFailure⟩ := hrepeated.sameFailure
    cases hsame.symm.trans hfingerprint
    cases hsameFailure.symm.trans h.failure
    exact ⟨hpriorFailure, h.window.actionForOutcome_eq_ok.mpr ⟨hrepeated.priorParent, hprior⟩,
      rfl, hrepeated.distinct, hrepeated.order⟩

/-- What the search detects is repeated and unresolved. -/
theorem FailureSearch.IsFor.sound {search : FailureSearch} (h : search.IsFor)
    {outcome : DetectionOutcome} (hstart : search.start = .ok outcome)
    (hdetected : outcome.status = .detected) :
    ∃ priorAction priorFailure, RepeatedFailure search.window (ProposalParent search.window)
        priorAction priorFailure search.currentAction search.current
      ∧ Unresolved search.window (ProposalParent search.window) priorFailure search.currentAction
        search.current
      ∧ outcome.evidenceEventIds = search.evidence priorFailure priorAction := by
  unfold start at hstart
  split at hstart
  · rw [status_of_abstain hstart] at hdetected
    cases hdetected
  · cases hstart
  · rw [status_of_abstain hstart] at hdetected
    cases hdetected
  · rename_i hnone
    obtain ⟨candidate, hcandidate, priorAction, hstops, hsettle⟩ := run_detected hdetected hstart
    have hmem : candidate ∈ search.window :=
      List.dropLast_subset _ (List.mem_reverse.mp hcandidate)
    obtain ⟨hmatching, hevidence⟩ := settle_detected hsettle hdetected
    refine ⟨priorAction, candidate, (h.stopsAt_iff hmem).mp hstops, ⟨?_, ?_⟩, hevidence⟩
    · intro fingerprint hfingerprint
      have hsame := (h.window.actionForOutcome_eq_ok.mp h.action).2
      cases hfingerprint.symm.trans hsame
      exact h.window.noMatching hmatching
    · exact h.window.noneForAction hnone

/-- Where all evidence of the window reads, the latest failure that the current one repeats is detected if
it is unresolved. -/
theorem FailureSearch.IsFor.complete {search : FailureSearch} (h : search.IsFor)
    (hformed : ∀ event ∈ search.window, WellFormed (ProposalParent search.window) event)
    {priorAction priorFailure : TraceEvent}
    (hrepeated : RepeatedFailure search.window (ProposalParent search.window) priorAction priorFailure
      search.currentAction search.current)
    (hlatest : ∀ otherAction otherFailure, RepeatedFailure search.window
      (ProposalParent search.window) otherAction otherFailure search.currentAction search.current →
      otherFailure.sequence ≤ priorFailure.sequence)
    (hunresolved : Unresolved search.window (ProposalParent search.window) priorFailure
      search.currentAction search.current) :
    search.start = detect (search.evidence priorFailure priorAction) := by
  obtain ⟨hparent, hfingerprint⟩ := h.window.actionForOutcome_eq_ok.mp h.action
  have hafter := hunresolved.after.forAction h.window hparent.mem hformed
  have hbefore := (hunresolved.before _ hfingerprint).matching h.window hformed
  have hprior : priorFailure ∈ search.window.dropLast.reverse := by
    have hmem := hrepeated.priorMem
    rw [← h.ends] at hmem
    rcases List.mem_append.mp hmem with hearlier | hlast
    · exact List.mem_reverse.mpr hearlier
    · have horder := hrepeated.order
      rw [List.mem_singleton.mp hlast] at horder
      omega
  have hsorted : search.window.dropLast.reverse.Pairwise fun a b => b.sequence < a.sequence := by
    refine List.pairwise_reverse.mpr ?_
    exact h.window.sorted.sublist (List.dropLast_sublist _)
  obtain ⟨earlier, later, hsplit⟩ := List.append_of_mem hprior
  rw [hsplit] at hsorted
  have hmem : ∀ event ∈ earlier, event ∈ search.window := by
    intro event hevent
    have hcandidate : event ∈ search.window.dropLast.reverse := by
      rw [hsplit]
      exact List.mem_append_left _ hevent
    exact List.dropLast_subset _ (List.mem_reverse.mp hcandidate)
  have hpasses : ∀ event ∈ earlier, ∀ action, ¬search.StopsAt event action := by
    intro event hevent action hstops
    have hle := hlatest action event ((h.stopsAt_iff (hmem event hevent)).mp hstops)
    have hlt := (List.pairwise_append.mp hsorted).2.2 event hevent priorFailure List.mem_cons_self
    omega
  unfold start
  rw [hafter]
  show search.run none search.window.dropLast.reverse = _
  rw [hsplit, run_eq_settle h.window (fun event hevent => hformed event (hmem event hevent)) hpasses
    ((h.stopsAt_iff hrepeated.priorMem).mpr hrepeated)]
  unfold settle
  rw [hbefore]
  rfl

/-! ## The detector is sound and complete -/

omit [Sha256] in
theorem RepetitionConfig.window_ends (config : RepetitionConfig) (context : DetectionContext) :
    (config.window context).dropLast ++ [context.current] = config.window context := by
  have hlength := (DetectionContextFields.check_eq_ok.mp context.valid).1.1
  have hbounds := config.bounds.1
  have hne : config.window context ≠ [] := by
    intro hempty
    have hdrop := List.drop_eq_nil_iff.mp hempty
    omega
  have hlast : (config.window context).getLast hne = context.current := List.getLast_drop hne
  rw [← hlast]
  exact List.dropLast_append_getLast hne

omit [Sha256] in
theorem validateDetectionContext_eq_ok (context : DetectionContext) :
    validateDetectionContext context = .ok context := by
  obtain ⟨-, -, -, -, hbounded⟩ := DetectionContextFields.check_eq_ok.mp context.valid
  unfold validateDetectionContext
  rw [hbounded]
  rfl

/-- The evaluation of a context is the evaluation of its current event. -/
theorem evaluateRepeatedFailure_eq (config : RepetitionConfig) (context : DetectionContext) :
    evaluateRepeatedFailure config context = evaluateValidated config context := by
  unfold evaluateRepeatedFailure
  rw [validateDetectionContext_eq_ok]
  rfl

/-- The evidence for a repeated failure consists of four different events. -/
theorem RepeatedFailure.nodup {window : List TraceEvent} (h : IsWindow window)
    {priorAction priorFailure action failure : TraceEvent}
    (hrepeated : RepeatedFailure window (ProposalParent window) priorAction priorFailure action failure) :
    [priorAction.eventId, priorFailure.eventId, action.eventId, failure.eventId].Nodup := by
  obtain ⟨hfirst, hsecond, hthird⟩ := hrepeated.order
  have hpriorAction := hrepeated.priorParent.mem
  have haction := hrepeated.parent.mem
  have hne := fun {a b : TraceEvent} => h.eventId_ne (a := a) (b := b)
  simp only [List.nodup_cons, List.mem_cons, List.not_mem_nil, or_false, not_or, not_false_eq_true,
    List.nodup_nil, and_true]
  refine ⟨⟨?_, ?_, ?_⟩, ⟨?_, ?_⟩, ?_⟩
  · exact hne hpriorAction hrepeated.priorMem hfirst
  · exact hrepeated.distinct
  · exact hne hpriorAction hrepeated.mem (by omega)
  · exact hne hrepeated.priorMem haction hsecond
  · exact hne hrepeated.priorMem hrepeated.mem (by omega)
  · exact hne haction hrepeated.mem hthird

/-- On one context, the detector detects the latest failure that the current one repeats, if all evidence
of the window reads and comes from actions, and nothing resolved that failure. -/
def DetectsLatest (parent : List TraceEvent → TraceEvent → TraceEvent → Prop)
    (config : RepetitionConfig) (context : DetectionContext) : Prop :=
  let window := config.window context
  ∀ priorAction priorFailure action,
    (∀ event ∈ window, WellFormed (parent window) event) →
    RepeatedFailure window (parent window) priorAction priorFailure action context.current →
    (∀ otherAction otherFailure other,
      RepeatedFailure window (parent window) otherAction otherFailure other context.current →
      otherFailure.sequence ≤ priorFailure.sequence) →
    Unresolved window (parent window) priorFailure action context.current →
    ∃ outcome, evaluateRepeatedFailure config context = .ok outcome ∧ outcome.status = .detected
      ∧ outcome.evidenceEventIds = [priorAction.eventId, priorFailure.eventId, action.eventId,
        context.current.eventId]

/-- The detector is sound, and complete on windows whose evidence reads and comes from actions. An event
comes from an action if all its parents are earlier events of the window and the action is the only
proposal among them. -/
theorem repeatedFailureDetector_sound_complete (config : RepetitionConfig)
    (context : DetectionContext) :
    (∀ outcome, evaluateRepeatedFailure config context = .ok outcome → outcome.status = .detected →
      ∃ priorAction priorFailure action,
        RepeatedFailure (config.window context) (ProposalParent (config.window context)) priorAction
          priorFailure action context.current
        ∧ Unresolved (config.window context) (ProposalParent (config.window context)) priorFailure
          action context.current
        ∧ outcome.evidenceEventIds = [priorAction.eventId, priorFailure.eventId, action.eventId,
          context.current.eventId])
    ∧ DetectsLatest ProposalParent config context := by
  have hwindow := config.isWindow context
  have hends := config.window_ends context
  rw [evaluateRepeatedFailure_eq]
  constructor
  · intro outcome hevaluate hdetected
    unfold evaluateValidated at hevaluate
    split at hevaluate
    · rw [status_of_abstain hevaluate] at hdetected
      cases hdetected
    · cases hevaluate
    · rw [status_of_abstain hevaluate] at hdetected
      cases hdetected
    · rw [status_of_noRepetition hevaluate] at hdetected
      cases hdetected
    · rename_i currentFailure hfailure
      unfold evaluateFailure at hevaluate
      split at hevaluate
      · rw [status_of_abstain hevaluate] at hdetected
        cases hdetected
      · split at hevaluate
        · rw [status_of_abstain hevaluate] at hdetected
          cases hdetected
        · cases hevaluate
        · rename_i action fingerprint haction
          have hfor : FailureSearch.IsFor ⟨config.window context, context.current, currentFailure,
            action, fingerprint⟩ := ⟨hwindow, hends, hfailure, haction⟩
          obtain ⟨priorAction, priorFailure, hrepeated, hunresolved, hevidence⟩ :=
            hfor.sound hevaluate hdetected
          exact ⟨priorAction, priorFailure, action, hrepeated, hunresolved, hevidence⟩
  · intro priorAction priorFailure action hformed hrepeated hlatest hunresolved
    obtain ⟨currentFailure, -, hfailure⟩ := hrepeated.sameFailure
    obtain ⟨fingerprint, -, hfingerprint⟩ := hrepeated.sameAction
    have haction := hwindow.actionForOutcome_eq_ok.mpr ⟨hrepeated.parent, hfingerprint⟩
    have hfor : FailureSearch.IsFor ⟨config.window context, context.current, currentFailure, action,
        fingerprint⟩ := ⟨hwindow, hends, hfailure, haction⟩
    have hstart := hfor.complete hformed hrepeated
      (fun otherAction otherFailure h => hlatest otherAction otherFailure action h) hunresolved
    have hlength : ¬(config.window context).length < 2 := by
      intro hshort
      have hone := congrArg List.length hends
      rw [List.length_append, List.length_singleton] at hone
      have hempty : (config.window context).dropLast = [] := List.length_eq_zero_iff.mp (by omega)
      have hmem := hrepeated.priorMem
      have horder := hrepeated.order
      rw [← hends, hempty, List.nil_append, List.mem_singleton] at hmem
      rw [hmem] at horder
      omega
    have hevaluate : evaluateValidated config context
        = detect [priorAction.eventId, priorFailure.eventId, action.eventId,
          context.current.eventId] := by
      unfold evaluateValidated
      rw [hfailure]
      show evaluateFailure (config.window context) context.current currentFailure = _
      unfold evaluateFailure
      rw [if_neg hlength, haction]
      exact hstart
    rw [evaluateRepeatedFailure_eq, hevaluate]
    have hfour : 4 ≤ maxDetectionEvents := by decide
    exact exists_detect (List.cons_ne_nil _ _) hfour (hrepeated.nodup hwindow)

/-- An action is the only proposal among the parents of an event that are earlier events of the window;
nothing is said about its other parents. -/
structure OnlyProposal (window : List TraceEvent) (event parent : TraceEvent) : Prop where
  mem : parent ∈ window
  named : parent.eventId ∈ event.parentIds
  earlier : parent.sequence < event.sequence
  proposal : parent.eventType = .actionProposal
  unique : ∀ other ∈ window, other.eventId ∈ event.parentIds → other.sequence < event.sequence →
    other.eventType = .actionProposal → other = parent

end

/-- A hash function that has the SHA-256 digests of the command and of the failure below. -/
local instance repetitionSha256 : Sha256 where
  sha256 bytes :=
    if bytes.length = 161 then
      ⟨"042b28d68c6a2d61c0636a7f5801b20fd9c131df68e4e88a810a26e2d775e83e", by decide⟩
    else ⟨"75599ae7bdaed51e3056218857fec3fb5943f721377c4726a556bb60d052ef18", by decide⟩

/-- An event of the window below. -/
def windowEvent (n : ℕ) (source : EventMetadataIdentifier) (eventType : EventType)
    (parentIds : List UUID4) (payload : JsonObject) : TraceEventFields where
  runId := ⟨stampVersion4 0, .refl true⟩
  sourceEventId := source
  timestamp := 0
  eventType := eventType
  phase := .internal
  payload := payload
  parentIds := parentIds
  sourceAdapter := ⟨"demo", .refl true⟩
  trustLabel := .syntheticFixture
  eventId := ⟨stampVersion4 n, stampVersion4_isVersion4 n⟩
  sequence := n
  payloadDigest := ⟨.syntheticSha256, repetitionSha256.sha256 []⟩

/-- The payload of a proposal to run the tests. -/
def proposalPayload : JsonObject where
  items := [("action", .object [("argv", .list [.str "pytest"]),
    ("environment_digest", .str (String.ofList (List.replicate 64 '0'))), ("kind", .str "shell"),
    ("schema_version", .str "1.0"), ("working_directory", .str "/work")])]
  canonical := by decide

/-- The payload of a failure. -/
def failurePayload : JsonObject where
  items := [("tool_outcome", .object [("exit_status", .int 1), ("schema_version", .str "1.0"),
    ("status", .str "failed")])]
  canonical := by decide

/-- A proposal. -/
def firstProposal : TraceEvent where
  toTraceEventFields := windowEvent 1 ⟨"a", .refl true⟩ .actionProposal [] proposalPayload
  valid := by decide +kernel

/-- Its failure. -/
def firstFailure : TraceEvent where
  toTraceEventFields := windowEvent 2 ⟨"b", .refl true⟩ .toolCompletion
    [⟨stampVersion4 1, .refl true⟩] failurePayload
  valid := by decide +kernel

/-- The proposal again. -/
def secondProposal : TraceEvent where
  toTraceEventFields := windowEvent 3 ⟨"c", by decide⟩ .actionProposal [] proposalPayload
  valid := by decide +kernel

/-- Its failure. -/
def secondFailure : TraceEvent where
  toTraceEventFields := windowEvent 4 ⟨"d", by decide⟩ .toolCompletion
    [⟨stampVersion4 3, stampVersion4_isVersion4 3⟩] failurePayload
  valid := by decide +kernel

/-- Its failure, with a second parent that is no event of the window. -/
def straySecondFailure : TraceEvent where
  toTraceEventFields := windowEvent 4 ⟨"d", by decide⟩ .toolCompletion
    [⟨stampVersion4 3, stampVersion4_isVersion4 3⟩, ⟨stampVersion4 9, stampVersion4_isVersion4 9⟩]
    failurePayload
  valid := by decide +kernel

/-- The events up to a second failure. -/
def failureWindow (last : TraceEvent) : List TraceEvent :=
  [firstProposal, firstFailure, secondProposal, last]

/-- A context of four events. -/
def repeatedContext : DetectionContext where
  toDetectionContextFields := ⟨firstProposal.runId, failureWindow secondFailure⟩
  valid := by decide +kernel

/-- The same context, with the second parent. -/
def strayContext : DetectionContext where
  toDetectionContextFields := ⟨firstProposal.runId, failureWindow straySecondFailure⟩
  valid := by decide +kernel

/-- A window of ten events. -/
def tenEvents : RepetitionConfig := ⟨10, by decide⟩

/-- The fingerprint of both proposals. -/
def proposalFingerprint : ActionFingerprint :=
  ⟨.argv, ⟨"042b28d68c6a2d61c0636a7f5801b20fd9c131df68e4e88a810a26e2d775e83e", by decide⟩⟩

/-- The fingerprint of both failures. -/
def repeatedFingerprint : FailureFingerprint :=
  ⟨.tool, ⟨"75599ae7bdaed51e3056218857fec3fb5943f721377c4726a556bb60d052ef18", by decide⟩⟩

theorem outcomes_window : structuredOutcome firstProposal = .ok .absent
    ∧ structuredOutcome firstFailure = .ok (.failure repeatedFingerprint)
    ∧ structuredOutcome secondProposal = .ok .absent
    ∧ structuredOutcome secondFailure = .ok (.failure repeatedFingerprint)
    ∧ structuredOutcome straySecondFailure = .ok (.failure repeatedFingerprint) := by
  decide +kernel

theorem actions_window : actionFingerprint firstProposal = .ok proposalFingerprint
    ∧ actionFingerprint secondProposal = .ok proposalFingerprint := by
  decide +kernel

/-- The second failure of the window repeats the first one, and nothing resolved it, whatever proposals
the two have as their parents. -/
theorem premises_of_parents {parent : TraceEvent → TraceEvent → Prop} {last : TraceEvent}
    (houtcome : structuredOutcome last = .ok (.failure repeatedFingerprint)) (hlast : last.sequence = 4)
    (hfirst : parent firstFailure firstProposal) (hsecond : parent last secondProposal) :
    (∀ event ∈ failureWindow last, WellFormed parent event)
      ∧ RepeatedFailure (failureWindow last) parent firstProposal firstFailure secondProposal last
      ∧ (∀ otherAction otherFailure other,
        RepeatedFailure (failureWindow last) parent otherAction otherFailure other last →
        otherFailure.sequence ≤ firstFailure.sequence)
      ∧ Unresolved (failureWindow last) parent firstFailure secondProposal last := by
  obtain ⟨houtcome1, houtcome2, houtcome3, -, -⟩ := outcomes_window
  have houtcomes : ∀ event ∈ failureWindow last, structuredOutcome event = .ok .absent
      ∨ structuredOutcome event = .ok (.failure repeatedFingerprint)
        ∧ ∃ action, parent event action ∧ actionFingerprint action = .ok proposalFingerprint := by
    intro event hevent
    simp only [failureWindow, List.mem_cons, List.not_mem_nil, or_false] at hevent
    rcases hevent with rfl | rfl | rfl | rfl
    · exact .inl houtcome1
    · exact .inr ⟨houtcome2, firstProposal, hfirst, actions_window.1⟩
    · exact .inl houtcome3
    · exact .inr ⟨houtcome, secondProposal, hsecond, actions_window.2⟩
  have hnone : ∀ first second (ofAction : TraceEvent → Prop),
      NoSuccessBetween (failureWindow last) first second ofAction := by
    intro first second ofAction event hevent _ _ hsuccess
    rcases houtcomes event hevent with habsent | ⟨hfailure, -⟩
    · cases habsent.symm.trans hsuccess
    · cases hfailure.symm.trans hsuccess
  refine ⟨?_, ?_, ?_, ⟨fun _ _ => hnone _ _ _, hnone _ _ _⟩⟩
  · intro event hevent
    rcases houtcomes event hevent with habsent | ⟨hfailure, hcomes⟩
    · exact ⟨_, habsent, fun h => absurd rfl h⟩
    · exact ⟨_, hfailure, fun _ => ⟨_, hcomes⟩⟩
  · have hproposal : secondProposal.sequence = 3 := rfl
    refine ⟨by simp [failureWindow], by simp [failureWindow], hfirst, hsecond, by decide +kernel,
      ⟨by decide +kernel, by decide +kernel, by omega⟩, ⟨_, actions_window⟩, ⟨_, houtcome2, houtcome⟩⟩
  · intro otherAction otherFailure other hrepeated
    obtain ⟨-, hbefore, hafter⟩ := hrepeated.order
    have htwo : firstFailure.sequence = 2 := rfl
    omega

/-- The detector fails closed on an event with a parent outside the window, so it abstains although the
event has one proposal among the parents that it can resolve. -/
theorem repeatedFailureDetector_incomplete_strayParent :
    ¬∀ config context, DetectsLatest OnlyProposal config context := by
  intro h
  have hfirst : OnlyProposal (failureWindow straySecondFailure) firstFailure firstProposal :=
    ⟨by decide +kernel, by decide +kernel, by decide +kernel, rfl, by decide +kernel⟩
  have hsecond : OnlyProposal (failureWindow straySecondFailure) straySecondFailure secondProposal :=
    ⟨by decide +kernel, by decide +kernel, by decide +kernel, rfl, by decide +kernel⟩
  obtain ⟨hformed, hrepeated, hlatest, hunresolved⟩ :=
    premises_of_parents outcomes_window.2.2.2.2 rfl hfirst hsecond
  obtain ⟨outcome, hevaluate, hdetected, -⟩ := h tenEvents strayContext firstProposal firstFailure
    secondProposal hformed hrepeated hlatest hunresolved
  have habstained : ((evaluateRepeatedFailure tenEvents strayContext).toOption.map (·.status))
      = some .abstained := by decide +kernel
  rw [hevaluate] at habstained
  have hstatus : outcome.status = .abstained := Option.some.inj habstained
  rw [hdetected] at hstatus
  cases hstatus

theorem repeatedFailureDetector_sound_complete_four :
    ∃ outcome, evaluateRepeatedFailure tenEvents repeatedContext = .ok outcome
      ∧ outcome.status = .detected ∧ outcome.evidenceEventIds = [firstProposal.eventId,
        firstFailure.eventId, secondProposal.eventId, secondFailure.eventId] := by
  have hwindow := tenEvents.isWindow repeatedContext
  have hfirst : ProposalParent (failureWindow secondFailure) firstFailure firstProposal :=
    hwindow.parentAction_eq_ok.mp (by decide +kernel)
  have hsecond : ProposalParent (failureWindow secondFailure) secondFailure secondProposal :=
    hwindow.parentAction_eq_ok.mp (by decide +kernel)
  obtain ⟨hformed, hrepeated, hlatest, hunresolved⟩ :=
    premises_of_parents outcomes_window.2.2.2.1 rfl hfirst hsecond
  exact (repeatedFailureDetector_sound_complete tenEvents repeatedContext).2 firstProposal
    firstFailure secondProposal hformed hrepeated hlatest hunresolved

end SalienceGate
