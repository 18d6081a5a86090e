import SalienceGate.Ports.Trajectory

/-!
# The fixed-step schedule

A schedule holds one decision for each event of an attested prefix. The first event invokes, and so does
every event that opens an action step. `FixedStepSchedule` checks the decisions it is given one by one;
the projector computes them from the steps that the events record.
-/

namespace SalienceGate

open Checked

/-- `FixedStepReason`. -/
inductive FixedStepReason where
  | bootstrap
  | actionStep
  | currentActionStep
  | noActionStep
deriving DecidableEq

/-- `FixedStepReason.value`. -/
def FixedStepReason.value : FixedStepReason → String
  | .bootstrap => "bootstrap"
  | .actionStep => "action_step"
  | .currentActionStep => "current_action_step"
  | .noActionStep => "no_action_step"

/-! ## Decisions -/

/-- The fields of a decision. -/
structure FixedStepDecisionFields where
  eventId : UUID4
  eventSequence : ℕ
  invoke : Bool
  invocationOrdinal : Option ℕ := none
  reason : FixedStepReason
  actionStepOrdinal : Option ℕ := none
deriving DecidableEq

/-- `PositiveSigned64Offset`. -/
def isPositiveSigned64 (n : ℕ) : Bool := 1 ≤ n ∧ n ≤ maxSigned64

/-- `fields_describe_one_unambiguous_decision`, after the field constraints. -/
def FixedStepDecisionFields.check (decision : FixedStepDecisionFields) : Check := do
  constrain (isPositiveSigned64 decision.eventSequence = true) "event_sequence" "range"
  constrain (decision.invocationOrdinal.all isPositiveSigned64 = true) "invocation_ordinal" "range"
  constrain (decision.actionStepOrdinal.all isPositiveSigned64 = true) "action_step_ordinal" "range"
  refuse (decision.invoke ≠ decision.invocationOrdinal.isSome)
    "only an invocation carries an invocation ordinal"
  match decision.reason with
  | .bootstrap =>
    refuse (decision.invoke = false ∨ decision.eventSequence ≠ 1)
      "bootstrap must invoke on the first event"
  | .actionStep =>
    refuse (decision.invoke = false ∨ decision.actionStepOrdinal = none)
      "a new action step must invoke"
  | .currentActionStep =>
    refuse (decision.invoke = true ∨ decision.actionStepOrdinal = none)
      "the current action step must stay silent"
  | .noActionStep =>
    refuse (decision.invoke = true ∨ decision.actionStepOrdinal ≠ none)
      "an event without a step must stay silent"

/-- `FixedStepDecision`. -/
structure FixedStepDecision extends FixedStepDecisionFields where
  valid : toFixedStepDecisionFields.check = .ok ()
deriving DecidableEq

/-- `FixedStepDecision(...)`. -/
def FixedStepDecision.create (fields : FixedStepDecisionFields) :
    Except ValidationError FixedStepDecision :=
  validate FixedStepDecisionFields.check FixedStepDecision.mk fields

/-- The JSON form of an optional number. -/
def optionalOrdinal : Option ℕ → Json
  | none => .null
  | some n => .int n

/-- `FixedStepDecision.model_dump(mode="json")`. -/
def FixedStepDecision.modelDump (decision : FixedStepDecision) : Json :=
  .object [
    ("action_step_ordinal", optionalOrdinal decision.actionStepOrdinal),
    ("event_id", .str decision.eventId.toString),
    ("event_sequence", .int decision.eventSequence),
    ("invocation_ordinal", optionalOrdinal decision.invocationOrdinal),
    ("invoke", .bool decision.invoke),
    ("reason", .str decision.reason.value)]

/-! ## Schedules -/

/-- `FIXED_STEP_SCHEDULE_VERSION`. -/
def fixedStepScheduleVersion : String := "first-and-every-action-step/v1"

section

variable [Hashing]

/-- `_schedule_digest`. -/
def scheduleDigest (runId : UUID4) (boundaryEventSequence : ℕ) (trajectoryPrefixDigest : Sha256Digest)
    (decisions : List FixedStepDecision) (invocationCount : ℕ) : Sha256Digest :=
  Hashing.lengthPrefixedSha256 "saliencegate:trajectory:fixed-step-schedule:v1"
    [.canonicalJson (.object [
      ("boundary_event_sequence", .int boundaryEventSequence),
      ("decisions", .list (decisions.map FixedStepDecision.modelDump)),
      ("invocation_count", .int invocationCount),
      ("run_id", .str runId.toString),
      ("schedule_version", .str fixedStepScheduleVersion),
      ("trajectory_prefix_digest", .str trajectoryPrefixDigest.text)])]

/-- The fields of a schedule. -/
structure FixedStepScheduleFields where
  runId : UUID4
  boundaryEventSequence : ℕ
  trajectoryPrefixDigest : Sha256Digest
  decisions : List FixedStepDecision
  invocationCount : ℕ
  scheduleDigest : Sha256Digest
deriving DecidableEq

omit [Hashing] in
/-- One decision in the loop over the steps, which carries the last step. -/
def checkStep (lastStep : Option ℕ) (decision : FixedStepDecision) :
    Except ValidationError (Option ℕ) :=
  match decision.actionStepOrdinal with
  | none => pure lastStep
  | some step => do
    refuse (lastStep.any (step < ·) = true) "schedule action steps cannot move backwards"
    refuse (decision.reason = .actionStep ∧ lastStep = some step)
      "only a distinct action step can invoke"
    refuse (decision.reason = .currentActionStep ∧ lastStep ≠ some step)
      "silent action-step events must retain the current step"
    pure (some step)

/-- `decisions_cover_the_prefix_exactly`, after the field constraints. -/
def FixedStepScheduleFields.check (schedule : FixedStepScheduleFields) : Check := do
  constrain (1 ≤ schedule.boundaryEventSequence
      ∧ schedule.boundaryEventSequence ≤ maxTrajectoryEvents) "boundary_event_sequence" "range"
  constrain (1 ≤ schedule.decisions.length
      ∧ schedule.decisions.length ≤ maxTrajectoryEvents) "decisions" "length"
  constrain (1 ≤ schedule.invocationCount
      ∧ schedule.invocationCount ≤ maxTrajectoryEvents) "invocation_count" "range"
  refuse (schedule.decisions.length ≠ schedule.boundaryEventSequence)
    "schedule must contain one decision per event"
  refuse (schedule.decisions.map (·.eventSequence) ≠ List.range' 1 schedule.decisions.length)
    "schedule decisions must be in contiguous source order"
  refuse (¬(schedule.decisions.map (·.eventId)).Nodup)
    "schedule decisions must identify unique events"
  let invocations := schedule.decisions.filterMap (·.invocationOrdinal)
  refuse (invocations.length ≠ schedule.invocationCount
      ∨ invocations ≠ List.range' 1 invocations.length)
    "schedule invocation ordinals must be contiguous"
  refuse (schedule.decisions.head?.map (·.reason) ≠ some .bootstrap)
    "the schedule must begin with bootstrap"
  let _ ← schedule.decisions.foldlM checkStep none
  refuse (schedule.scheduleDigest ≠ SalienceGate.scheduleDigest schedule.runId
      schedule.boundaryEventSequence schedule.trajectoryPrefixDigest schedule.decisions
      schedule.invocationCount)
    "fixed-step schedule digest does not match"

/-- `FixedStepSchedule`. -/
structure FixedStepSchedule extends FixedStepScheduleFields where
  valid : toFixedStepScheduleFields.check = .ok ()

/-- `FixedStepSchedule(...)`. -/
def FixedStepSchedule.create (fields : FixedStepScheduleFields) :
    Except ValidationError FixedStepSchedule :=
  validate FixedStepScheduleFields.check FixedStepSchedule.mk fields

end

/-! ## The projector -/

/-- What ends a projection: a `TrajectoryError`, or a decision that fails its own validation. -/
inductive ProjectionError where
  | trajectory (code : TrajectoryErrorCode)
  | validation (error : ValidationError)
deriving DecidableEq

/-- `_action_step`. -/
def actionStep (item : AttestedTrajectoryEvent) : Except TrajectoryErrorCode (Option ℕ) :=
  match item.binding.actionStep with
  | none => pure none
  | some selector => do
    let value ← resolveAttestedPayloadValue item selector.fieldPath.text
    match value with
    | .int i => do
      raiseIf (¬(1 ≤ i ∧ i ≤ maxSigned64)) .invalidPointer
      pure (some i.toNat)
    | _ => throw .invalidPointer

/-- What the projector reads of one item. -/
structure RecordedEvent where
  eventId : UUID4
  eventSequence : ℕ
  actionStepOrdinal : Option ℕ
deriving DecidableEq

/-- What the projector reads of one item, or why it cannot. -/
def readEvent (item : AttestedTrajectoryEvent) : Except ProjectionError RecordedEvent := do
  let step ← (actionStep item).mapError .trajectory
  pure ⟨item.event.eventId, item.event.sequence, step⟩

/-- The variables of the projector's loop. -/
structure Projecting where
  decisions : List FixedStepDecision := []
  lastStep : Option ℕ := none
  invocationOrdinal : ℕ := 0

/-- A decision that the loop builds. -/
def decided (fields : FixedStepDecisionFields) : Except ProjectionError FixedStepDecision :=
  (FixedStepDecision.create fields).mapError .validation

/-- One round of the projector's loop, on what it read of the item. -/
def projectEvent (index : ℕ) (loop : Projecting) (item : RecordedEvent) :
    Except ProjectionError Projecting :=
  if index = 0 then do
    let decision ← decided {
      eventId := item.eventId
      eventSequence := item.eventSequence
      invoke := true
      invocationOrdinal := some 1
      reason := .bootstrap
      actionStepOrdinal := item.actionStepOrdinal }
    pure ⟨loop.decisions ++ [decision], item.actionStepOrdinal, 1⟩
  else match item.actionStepOrdinal with
    | none => do
      let decision ← decided {
        eventId := item.eventId
        eventSequence := item.eventSequence
        invoke := false
        reason := .noActionStep }
      pure { loop with decisions := loop.decisions ++ [decision] }
    | some step => do
      raiseIf (loop.lastStep.any (step < ·) = true) (.trajectory .retrogradeBinding)
      if loop.lastStep = some step then
        let decision ← decided {
          eventId := item.eventId
          eventSequence := item.eventSequence
          invoke := false
          reason := .currentActionStep
          actionStepOrdinal := some step }
        pure { loop with decisions := loop.decisions ++ [decision] }
      else
        let decision ← decided {
          eventId := item.eventId
          eventSequence := item.eventSequence
          invoke := true
          invocationOrdinal := some (loop.invocationOrdinal + 1)
          reason := .actionStep
          actionStepOrdinal := some step }
        pure ⟨loop.decisions ++ [decision], some step, loop.invocationOrdinal + 1⟩

/-- The projector's loop, from an index on. -/
def projectItems (index : ℕ) (loop : Projecting) :
    List AttestedTrajectoryEvent → Except ProjectionError Projecting
  | [] => pure loop
  | item :: items => do
    let recorded ← readEvent item
    let loop ← projectEvent index loop recorded
    projectItems (index + 1) loop items

section

variable [Hashing]

/-- The schedule of the decisions that the loop computed. -/
def Projecting.schedule (loop : Projecting) (runId : UUID4) (boundaryEventSequence : ℕ)
    (prefixDigest : Sha256Digest) : Except ProjectionError FixedStepSchedule :=
  (FixedStepSchedule.create {
    runId
    boundaryEventSequence
    trajectoryPrefixDigest := prefixDigest
    decisions := loop.decisions
    invocationCount := loop.invocationOrdinal
    scheduleDigest := scheduleDigest runId boundaryEventSequence prefixDigest loop.decisions
      loop.invocationOrdinal }).mapError fun _ => .trajectory .invalidInput

/-- `_project_verified_fixed_step_schedule`. -/
def projectVerifiedFixedStepSchedule (validated : AttestedTrajectoryPrefix) :
    Except ProjectionError FixedStepSchedule := do
  let loop ← projectItems 0 {} validated.items
  loop.schedule validated.runId validated.boundaryEventSequence validated.prefixDigest

end

/-- The projector's loop on what it reads of its items. -/
def projectRecorded (index : ℕ) (loop : Projecting) :
    List RecordedEvent → Except ProjectionError Projecting
  | [] => pure loop
  | item :: items => do
    let loop ← projectEvent index loop item
    projectRecorded (index + 1) loop items

/-! ## What one decision says -/

/-- What the projector read of the event that a decision is about. -/
def FixedStepDecision.recorded (decision : FixedStepDecision) : RecordedEvent :=
  ⟨decision.eventId, decision.eventSequence, decision.actionStepOrdinal⟩

theorem FixedStepDecisionFields.check_eq_ok {decision : FixedStepDecisionFields} :
    decision.check = .ok () ↔
      isPositiveSigned64 decision.eventSequence = true
        ∧ decision.invocationOrdinal.all isPositiveSigned64 = true
        ∧ decision.actionStepOrdinal.all isPositiveSigned64 = true
        ∧ decision.invoke = decision.invocationOrdinal.isSome
        ∧ match decision.reason with
          | .bootstrap => decision.invoke = true ∧ decision.eventSequence = 1
          | .actionStep => decision.invoke = true ∧ decision.actionStepOrdinal ≠ none
          | .currentActionStep => decision.invoke = false ∧ decision.actionStepOrdinal ≠ none
          | .noActionStep => decision.invoke = false ∧ decision.actionStepOrdinal = none := by
  unfold FixedStepDecisionFields.check
  simp only [constrain_bind_eq_ok, refuse_bind_eq_ok, ne_eq, not_not]
  cases decision.reason <;> simp

theorem decided_eq_ok {fields : FixedStepDecisionFields} {decision : FixedStepDecision} :
    decided fields = .ok decision ↔ decision.toFixedStepDecisionFields = fields := by
  unfold decided FixedStepDecision.create
  rw [mapError_eq_ok, validate_eq_ok]
  constructor
  · rintro ⟨_, rfl⟩
    rfl
  · rintro rfl
    exact ⟨decision.valid, rfl⟩

/-- A decision is what its fields say. -/
theorem decided_recorded {decision : FixedStepDecision} {invoke : Bool} {ordinal step : Option ℕ}
    {reason : FixedStepReason} (hinvoke : decision.invoke = invoke)
    (hordinal : decision.invocationOrdinal = ordinal) (hreason : decision.reason = reason)
    (hstep : decision.actionStepOrdinal = step) :
    decided ⟨decision.recorded.eventId, decision.recorded.eventSequence, invoke, ordinal, reason, step⟩
      = .ok decision := by
  subst hinvoke hordinal hreason hstep
  exact decided_eq_ok.mpr rfl

/-- The loop appends one decision in each round. -/
theorem projectEvent_appends {index : ℕ} {loop next : Projecting} {item : RecordedEvent}
    (h : projectEvent index loop item = .ok next) :
    ∃ decision, next.decisions = loop.decisions ++ [decision] := by
  unfold projectEvent at h
  split at h
  · obtain ⟨decision, -, h⟩ := bind_eq_ok.mp h
    cases h
    exact ⟨decision, rfl⟩
  · split at h
    · obtain ⟨decision, -, h⟩ := bind_eq_ok.mp h
      cases h
      exact ⟨decision, rfl⟩
    · obtain ⟨-, h⟩ := raiseIf_bind_eq_ok.mp h
      split at h <;>
      · obtain ⟨decision, -, h⟩ := bind_eq_ok.mp h
        cases h
        exact ⟨decision, rfl⟩

theorem projectRecorded_appends {items : List RecordedEvent} :
    ∀ {index : ℕ} {loop final : Projecting}, projectRecorded index loop items = .ok final →
      ∃ decisions, final.decisions = loop.decisions ++ decisions := by
  induction items with
  | nil =>
    intro index loop final h
    cases h
    exact ⟨[], (List.append_nil _).symm⟩
  | cons item items ih =>
    intro index loop final h
    obtain ⟨next, hnext, h⟩ := bind_eq_ok.mp h
    obtain ⟨decision, hdecision⟩ := projectEvent_appends hnext
    obtain ⟨decisions, hdecisions⟩ := ih h
    exact ⟨decision :: decisions, by rw [hdecisions, hdecision, List.append_assoc]; rfl⟩

/-- The number of invocations after a decision. -/
def invocationsAfter (count : ℕ) (decision : FixedStepDecision) : ℕ :=
  if decision.invoke then count + 1 else count

/-- What a decision must be for the loop to compute it: the checks of the schedule that look at it. -/
structure Follows (index : ℕ) (loop next : Projecting) (decision : FixedStepDecision) : Prop where
  appends : next.decisions = loop.decisions ++ [decision]
  step : checkStep loop.lastStep decision = .ok next.lastStep
  bootstrap : index = 0 → decision.reason = .bootstrap
  ordinal : ∀ n, decision.invocationOrdinal = some n → n = loop.invocationOrdinal + 1
  count : next.invocationOrdinal = invocationsAfter loop.invocationOrdinal decision

theorem checkStep_none {lastStep next : Option ℕ} {decision : FixedStepDecision}
    (hstep : decision.actionStepOrdinal = none) :
    checkStep lastStep decision = .ok next ↔ lastStep = next := by
  unfold checkStep
  rw [hstep]
  exact pure_eq_ok

theorem checkStep_some {lastStep next : Option ℕ} {decision : FixedStepDecision} {step : ℕ}
    (hstep : decision.actionStepOrdinal = some step) :
    checkStep lastStep decision = .ok next ↔
      (∀ earlier, lastStep = some earlier → earlier ≤ step)
        ∧ (decision.reason = .actionStep → lastStep ≠ some step)
        ∧ (decision.reason = .currentActionStep → lastStep = some step) ∧ next = some step := by
  unfold checkStep
  simp only [hstep, refuse_bind_eq_ok, pure_eq_ok, not_and, not_not, eq_comm (b := next)]
  cases lastStep <;> simp

theorem Projecting.ext_fields {a b : Projecting} (hdecisions : a.decisions = b.decisions)
    (hstep : a.lastStep = b.lastStep) (hcount : a.invocationOrdinal = b.invocationOrdinal) : a = b := by
  cases a
  cases b
  cases hdecisions
  cases hstep
  cases hcount
  rfl

/-- What the loop computes in a round, the schedule's checks accept at that place. -/
theorem follows_of_projectEvent {index : ℕ} {loop next : Projecting} {decision : FixedStepDecision}
    (hstart : index = 0 → loop.lastStep = none ∧ loop.invocationOrdinal = 0)
    (h : projectEvent index loop decision.recorded = .ok next)
    (hdecisions : next.decisions = loop.decisions ++ [decision]) :
    Follows index loop next decision := by
  unfold projectEvent at h
  split at h
  · rename_i hindex
    obtain ⟨hlast, hcount⟩ := hstart hindex
    obtain ⟨built, hbuilt, h⟩ := bind_eq_ok.mp h
    cases h
    obtain rfl : built = decision := by simpa using hdecisions
    have hfields := decided_eq_ok.mp hbuilt
    refine ⟨rfl, ?_, fun _ => by rw [hfields], ?_, ?_⟩
    · have hreason : built.reason = .bootstrap := by rw [hfields]
      rw [hlast]
      cases hstep : built.actionStepOrdinal with
      | none => exact (checkStep_none hstep).mpr hstep.symm
      | some step =>
        refine (checkStep_some hstep).mpr ⟨?_, ?_, ?_, hstep⟩
        · intro earlier hearlier
          cases hearlier
        · intro hr
          cases hreason.symm.trans hr
        · intro hr
          cases hreason.symm.trans hr
    · intro n hn
      rw [hfields] at hn
      cases hn
      rw [hcount]
    · rw [invocationsAfter, hcount, hfields]
      rfl
  · rename_i hindex
    split at h
    · obtain ⟨built, hbuilt, h⟩ := bind_eq_ok.mp h
      cases h
      obtain rfl : built = decision := by simpa using hdecisions
      have hfields := decided_eq_ok.mp hbuilt
      have hstep : built.actionStepOrdinal = none := by rw [hfields]
      have hordinal : built.invocationOrdinal = none := by rw [hfields]
      have hinvoke : built.invoke = false := by rw [hfields]
      refine ⟨rfl, ?_, fun h0 => absurd h0 hindex, ?_, ?_⟩
      · exact (checkStep_none hstep).mpr rfl
      · intro n hn
        rw [hordinal] at hn
        cases hn
      · simp [invocationsAfter, hinvoke]
    · rename_i step hrecorded
      obtain ⟨hforward, h⟩ := raiseIf_bind_eq_ok.mp h
      have hforward : ∀ earlier, loop.lastStep = some earlier → earlier ≤ step := by
        intro earlier hearlier
        simpa [hearlier] using hforward
      split at h
      · rename_i hsame
        obtain ⟨built, hbuilt, h⟩ := bind_eq_ok.mp h
        cases h
        obtain rfl : built = decision := by simpa using hdecisions
        have hfields := decided_eq_ok.mp hbuilt
        have hstep : built.actionStepOrdinal = some step := by rw [hfields]
        have hordinal : built.invocationOrdinal = none := by rw [hfields]
        have hinvoke : built.invoke = false := by rw [hfields]
        have hreason : built.reason = .currentActionStep := by rw [hfields]
        refine ⟨rfl, ?_, fun h0 => absurd h0 hindex, ?_, ?_⟩
        · refine (checkStep_some hstep).mpr ⟨hforward, ?_, fun _ => hsame, hsame⟩
          intro hr
          cases hreason.symm.trans hr
        · intro n hn
          rw [hordinal] at hn
          cases hn
        · simp [invocationsAfter, hinvoke]
      · rename_i hother
        obtain ⟨built, hbuilt, h⟩ := bind_eq_ok.mp h
        cases h
        obtain rfl : built = decision := by simpa using hdecisions
        have hfields := decided_eq_ok.mp hbuilt
        have hstep : built.actionStepOrdinal = some step := by rw [hfields]
        have hordinal : built.invocationOrdinal = some (loop.invocationOrdinal + 1) := by rw [hfields]
        have hinvoke : built.invoke = true := by rw [hfields]
        have hreason : built.reason = .actionStep := by rw [hfields]
        refine ⟨rfl, ?_, fun h0 => absurd h0 hindex, ?_, ?_⟩
        · refine (checkStep_some hstep).mpr ⟨hforward, fun _ => hother, ?_, rfl⟩
          intro hr
          cases hreason.symm.trans hr
        · intro n hn
          rw [hordinal] at hn
          cases hn
          rfl
        · simp [invocationsAfter, hinvoke]

/-- What the schedule's checks accept at a place, the loop computes there. -/
theorem Follows.projectEvent_eq {index : ℕ} {loop next : Projecting} {decision : FixedStepDecision}
    (h : Follows index loop next decision) (hsequence : decision.eventSequence = index + 1)
    (hstart : index = 0 → loop.lastStep = none ∧ loop.invocationOrdinal = 0) :
    projectEvent index loop decision.recorded = .ok next := by
  obtain ⟨-, -, -, hinvokes, hreason⟩ := FixedStepDecisionFields.check_eq_ok.mp decision.valid
  have hordinal : decision.invoke = true →
      decision.invocationOrdinal = some (loop.invocationOrdinal + 1) := by
    intro hinvoke
    obtain ⟨n, hn⟩ := Option.isSome_iff_exists.mp (hinvokes.symm.trans hinvoke)
    rw [hn, h.ordinal n hn]
  have hsilent : decision.invoke = false → decision.invocationOrdinal = none := by
    intro hinvoke
    rw [← Option.isNone_iff_eq_none, ← Option.not_isSome, ← hinvokes, hinvoke]
    rfl
  have hchecked := h.step
  have hcount := h.count
  unfold invocationsAfter at hcount
  unfold projectEvent
  by_cases hindex : index = 0
  · obtain ⟨hlast, hzero⟩ := hstart hindex
    have hboot := h.bootstrap hindex
    rw [hboot] at hreason
    rw [if_pos hreason.1] at hcount
    have hone := hordinal hreason.1
    rw [hzero] at hone hcount
    rw [if_pos hindex]
    refine bind_eq_ok.mpr ⟨decision, decided_recorded hreason.1 hone hboot rfl, ?_⟩
    refine pure_eq_ok.mpr (Projecting.ext_fields h.appends.symm ?_ hcount.symm)
    show decision.actionStepOrdinal = next.lastStep
    rw [hlast] at hchecked
    cases hstep : decision.actionStepOrdinal with
    | none => exact (checkStep_none hstep).mp hchecked
    | some step => exact ((checkStep_some hstep).mp hchecked).2.2.2.symm
  · rw [if_neg hindex]
    cases hstep : decision.actionStepOrdinal with
    | none =>
      -- Without a step the decision can only be the silent one: the bootstrap is at the first place.
      have hlast := (checkStep_none hstep).mp hchecked
      have hnone : decision.reason = .noActionStep := by
        cases hr : decision.reason <;> rw [hr] at hreason
        · exact absurd (hsequence.symm.trans hreason.2) (by omega)
        · exact absurd hstep hreason.2
        · exact absurd hstep hreason.2
      rw [hnone] at hreason
      rw [hreason.1, if_neg (by decide)] at hcount
      simp only [FixedStepDecision.recorded, hstep]
      refine bind_eq_ok.mpr
        ⟨decision, decided_recorded hreason.1 (hsilent hreason.1) hnone hstep, ?_⟩
      exact pure_eq_ok.mpr (Projecting.ext_fields h.appends.symm hlast hcount.symm)
    | some step =>
      obtain ⟨hforward, hdistinct, hretain, hlast⟩ := (checkStep_some hstep).mp hchecked
      have hretrograde : ¬loop.lastStep.any (step < ·) = true := by
        intro hany
        cases hlast' : loop.lastStep with
        | none => simp [hlast'] at hany
        | some earlier =>
          have := hforward earlier hlast'
          simp only [hlast', Option.any_some, decide_eq_true_eq] at hany
          omega
      simp only [FixedStepDecision.recorded, hstep]
      rw [raiseIf_bind_of_not hretrograde]
      cases hr : decision.reason <;> rw [hr] at hreason
      · exact absurd (hsequence.symm.trans hreason.2) (by omega)
      · have hother := hdistinct hr
        rw [hreason.1, if_pos rfl] at hcount
        rw [if_neg hother]
        refine bind_eq_ok.mpr
          ⟨decision, decided_recorded hreason.1 (hordinal hreason.1) hr hstep, ?_⟩
        exact pure_eq_ok.mpr (Projecting.ext_fields h.appends.symm hlast.symm hcount.symm)
      · have hsame := hretain hr
        rw [hreason.1, if_neg (by decide)] at hcount
        rw [if_pos hsame]
        refine bind_eq_ok.mpr
          ⟨decision, decided_recorded hreason.1 (hsilent hreason.1) hr hstep, ?_⟩
        exact pure_eq_ok.mpr
          (Projecting.ext_fields h.appends.symm (hsame.trans hlast.symm) hcount.symm)
      · rw [hreason.2] at hstep
        cases hstep

/-! ## A whole schedule -/

/-- The invocation ordinals of a list of decisions. -/
def invocationOrdinals (decisions : List FixedStepDecision) : List ℕ :=
  decisions.filterMap (·.invocationOrdinal)

/-- What a list of decisions must be for the loop to compute it from what the events record. -/
structure FollowsAll (index : ℕ) (loop final : Projecting) (decisions : List FixedStepDecision) :
    Prop where
  appends : final.decisions = loop.decisions ++ decisions
  steps : decisions.foldlM checkStep loop.lastStep = .ok final.lastStep
  bootstrap : index = 0 → ∀ first, decisions.head? = some first → first.reason = .bootstrap
  ordinals : invocationOrdinals decisions
    = List.range' (loop.invocationOrdinal + 1) (invocationOrdinals decisions).length
  count : final.invocationOrdinal = loop.invocationOrdinal + (invocationOrdinals decisions).length

/-- An invocation carries the next ordinal, and a silent decision none. -/
theorem invocationOrdinals_cons (decision : FixedStepDecision) (decisions : List FixedStepDecision) :
    (decision.invoke = false ∧ decision.invocationOrdinal = none
        ∧ invocationOrdinals (decision :: decisions) = invocationOrdinals decisions)
      ∨ ∃ n, decision.invoke = true ∧ decision.invocationOrdinal = some n
        ∧ invocationOrdinals (decision :: decisions) = n :: invocationOrdinals decisions := by
  obtain ⟨-, -, -, hinvoke, -⟩ := FixedStepDecisionFields.check_eq_ok.mp decision.valid
  unfold invocationOrdinals
  cases hordinal : decision.invocationOrdinal with
  | none =>
    rw [hordinal] at hinvoke
    exact .inl ⟨hinvoke, rfl, List.filterMap_cons_none hordinal⟩
  | some n =>
    rw [hordinal] at hinvoke
    exact .inr ⟨n, hinvoke, rfl, List.filterMap_cons_some hordinal⟩

/-- One round before the others. -/
theorem FollowsAll.cons {index : ℕ} {loop next final : Projecting} {decision : FixedStepDecision}
    {decisions : List FixedStepDecision} (hone : Follows index loop next decision)
    (hrest : FollowsAll (index + 1) next final decisions) :
    FollowsAll index loop final (decision :: decisions) := by
  have hcount := hone.count
  have hrestCount := hrest.count
  have hrestOrdinals := hrest.ordinals
  refine ⟨?_, ?_, ?_, ?_, ?_⟩
  · rw [hrest.appends, hone.appends, List.append_assoc]
    rfl
  · exact foldlM_cons_eq_ok.mpr ⟨_, hone.step, hrest.steps⟩
  · intro hindex first hfirst
    cases hfirst
    exact hone.bootstrap hindex
  · obtain ⟨hinvoke, -, hordinals⟩ | ⟨n, hinvoke, hn, hordinals⟩ :=
      invocationOrdinals_cons decision decisions
    · rw [invocationsAfter, hinvoke, if_neg (by decide)] at hcount
      rw [hcount] at hrestOrdinals
      rw [hordinals]
      exact hrestOrdinals
    · rw [invocationsAfter, if_pos hinvoke] at hcount
      rw [hcount] at hrestOrdinals
      rw [hordinals, hone.ordinal n hn, List.length_cons, List.range'_succ]
      exact congrArg _ hrestOrdinals
  · obtain ⟨hinvoke, -, hordinals⟩ | ⟨n, hinvoke, hn, hordinals⟩ :=
      invocationOrdinals_cons decision decisions
    · rw [invocationsAfter, hinvoke, if_neg (by decide)] at hcount
      rw [hordinals, hrestCount, hcount]
    · rw [invocationsAfter, if_pos hinvoke] at hcount
      rw [hordinals, hrestCount, hcount, List.length_cons]
      omega

/-- The first round of a schedule, and the others. -/
theorem FollowsAll.uncons {index : ℕ} {loop final : Projecting} {decision : FixedStepDecision}
    {decisions : List FixedStepDecision} (h : FollowsAll index loop final (decision :: decisions)) :
    ∃ next, Follows index loop next decision ∧ FollowsAll (index + 1) next final decisions := by
  obtain ⟨mid, hmid, hsteps⟩ := foldlM_cons_eq_ok.mp h.steps
  have hcount := h.count
  have hordinals := h.ordinals
  have hboot : index = 0 → decision.reason = .bootstrap := fun hindex => h.bootstrap hindex _ rfl
  obtain ⟨hinvoke, hnone, hcons⟩ | ⟨n, hinvoke, hn, hcons⟩ :=
    invocationOrdinals_cons decision decisions
  · rw [hcons] at hcount hordinals
    refine ⟨⟨loop.decisions ++ [decision], mid, loop.invocationOrdinal⟩, ?_, ?_⟩
    · refine ⟨rfl, hmid, hboot, ?_, ?_⟩
      · intro n hn
        cases hnone.symm.trans hn
      · rw [invocationsAfter, hinvoke, if_neg (by decide)]
    · refine ⟨?_, hsteps, fun h0 => absurd h0 (by omega), hordinals, hcount⟩
      rw [h.appends, List.append_assoc]
      rfl
  · rw [hcons] at hcount hordinals
    rw [List.length_cons, List.range'_succ] at hordinals
    obtain ⟨hfirst, hlater⟩ := List.cons_eq_cons.mp hordinals
    refine ⟨⟨loop.decisions ++ [decision], mid, loop.invocationOrdinal + 1⟩, ?_, ?_⟩
    · refine ⟨rfl, hmid, hboot, ?_, ?_⟩
      · intro m hm
        rw [hn] at hm
        cases hm
        exact hfirst
      · rw [invocationsAfter, if_pos hinvoke]
    · refine ⟨?_, hsteps, fun h0 => absurd h0 (by omega), hlater, ?_⟩
      · rw [h.appends, List.append_assoc]
        rfl
      · rw [hcount, List.length_cons]
        show _ = loop.invocationOrdinal + 1 + _
        omega

/-- The loop computes a list of decisions exactly when the schedule's checks accept it: induction on
the decisions, with the variables of the loop carried from round to round. -/
theorem projectRecorded_eq_ok {decisions : List FixedStepDecision} :
    ∀ {index : ℕ} {loop final : Projecting},
      decisions.map (·.eventSequence) = List.range' (index + 1) decisions.length →
      (index = 0 → loop.lastStep = none ∧ loop.invocationOrdinal = 0) →
      (projectRecorded index loop (decisions.map FixedStepDecision.recorded) = .ok final
          ∧ final.decisions = loop.decisions ++ decisions
        ↔ FollowsAll index loop final decisions) := by
  induction decisions with
  | nil =>
    intro index loop final _ _
    constructor
    · rintro ⟨h, -⟩
      cases h
      refine ⟨(List.append_nil _).symm, rfl, ?_, rfl, rfl⟩
      intro _ first hfirst
      cases hfirst
    · intro h
      have hlast : loop.lastStep = final.lastStep := foldlM_nil_eq_ok.mp h.steps
      have hcount : final.invocationOrdinal = loop.invocationOrdinal := h.count
      have hdecisions := h.appends
      refine ⟨?_, hdecisions⟩
      rw [List.append_nil] at hdecisions
      exact pure_eq_ok.mpr (Projecting.ext_fields hdecisions.symm hlast hcount.symm)
  | cons decision decisions ih =>
    intro index loop final hsequences hstart
    rw [List.map_cons, List.length_cons, List.range'_succ] at hsequences
    obtain ⟨hsequence, hsequences⟩ := List.cons_eq_cons.mp hsequences
    have hlater : index + 1 = 0 → ∀ next : Projecting,
        next.lastStep = none ∧ next.invocationOrdinal = 0 := fun h0 => absurd h0 (by omega)
    constructor
    · rintro ⟨h, hdecisions⟩
      obtain ⟨next, hnext, hrun⟩ := bind_eq_ok.mp h
      obtain ⟨built, hbuilt⟩ := projectEvent_appends hnext
      obtain ⟨more, hmore⟩ := projectRecorded_appends hrun
      rw [hmore, hbuilt, List.append_assoc] at hdecisions
      obtain ⟨hsame, hrest⟩ := List.cons_eq_cons.mp (List.append_cancel_left hdecisions)
      have hrest : more = decisions := hrest
      rw [hsame] at hbuilt
      rw [hrest] at hmore
      exact FollowsAll.cons (follows_of_projectEvent hstart hnext hbuilt)
        ((ih hsequences (fun h0 => hlater h0 next)).mp ⟨hrun, hmore⟩)
    · intro h
      obtain ⟨next, hone, hrest⟩ := h.uncons
      have hrun := (ih hsequences (fun h0 => hlater h0 next)).mpr hrest
      exact ⟨bind_eq_ok.mpr ⟨next, hone.projectEvent_eq hsequence hstart, hrun.1⟩, h.appends⟩

/-! ## Which events invoke -/

/-- The last step of the events so far: none of them is later. -/
theorem checkStep_last {decisions : List FixedStepDecision} :
    ∀ {lastStep next : Option ℕ}, decisions.foldlM checkStep lastStep = .ok next →
      (∀ step, lastStep = some step ∨ (∃ d ∈ decisions, d.actionStepOrdinal = some step) →
        ∃ latest, next = some latest ∧ step ≤ latest)
      ∧ ∀ latest, next = some latest →
        lastStep = some latest ∨ ∃ d ∈ decisions, d.actionStepOrdinal = some latest := by
  induction decisions with
  | nil =>
    intro lastStep next h
    obtain rfl := foldlM_nil_eq_ok.mp h
    refine ⟨?_, fun latest hlatest => .inl hlatest⟩
    rintro step (hstep | ⟨d, hd, -⟩)
    · exact ⟨step, hstep, le_rfl⟩
    · cases hd
  | cons decision decisions ih =>
    intro lastStep next h
    obtain ⟨mid, hmid, h⟩ := foldlM_cons_eq_ok.mp h
    obtain ⟨hlater, hsource⟩ := ih h
    cases hstep : decision.actionStepOrdinal with
    | none =>
      obtain rfl := (checkStep_none hstep).mp hmid
      constructor
      · rintro step (hlast | ⟨d, hd, hds⟩)
        · exact hlater step (.inl hlast)
        · rcases List.mem_cons.mp hd with rfl | hd
          · cases hstep.symm.trans hds
          · exact hlater step (.inr ⟨d, hd, hds⟩)
      · intro latest hlatest
        rcases hsource latest hlatest with hlast | ⟨d, hd, hds⟩
        · exact .inl hlast
        · exact .inr ⟨d, List.mem_cons_of_mem _ hd, hds⟩
    | some current =>
      obtain ⟨hforward, -, -, rfl⟩ := (checkStep_some hstep).mp hmid
      obtain ⟨latest, hnext, hcurrent⟩ := hlater current (.inl rfl)
      constructor
      · rintro step (hlast | ⟨d, hd, hds⟩)
        · exact ⟨latest, hnext, (hforward step hlast).trans hcurrent⟩
        · rcases List.mem_cons.mp hd with rfl | hd
          · cases hstep.symm.trans hds
            exact ⟨latest, hnext, hcurrent⟩
          · exact hlater step (.inr ⟨d, hd, hds⟩)
      · intro last hlast
        rcases hsource last hlast with hmid | ⟨d, hd, hds⟩
        · cases hmid
          exact .inr ⟨decision, List.mem_cons_self, hstep⟩
        · exact .inr ⟨d, List.mem_cons_of_mem _ hd, hds⟩

/-- The steps never move backwards, and the decisions that invoke are the first one and the first one
of each step later than all before. -/
structure InvokesOnNewSteps (decisions : List FixedStepDecision) : Prop where
  ordered : ∀ before decision after, decisions = before ++ decision :: after →
    ∀ earlier ∈ before, ∀ s t, earlier.actionStepOrdinal = some s →
      decision.actionStepOrdinal = some t → s ≤ t
  invokes : ∀ before decision after, decisions = before ++ decision :: after →
    (decision.invoke = true ↔ before = [] ∨ ∃ step, decision.actionStepOrdinal = some step
      ∧ ∀ earlier ∈ before, ∀ s, earlier.actionStepOrdinal = some s → s < step)

theorem invokesOnNewSteps {decisions : List FixedStepDecision} {last : Option ℕ}
    (hsequences : decisions.map (·.eventSequence) = List.range' 1 decisions.length)
    (hbootstrap : decisions.head?.map (·.reason) = some .bootstrap)
    (hsteps : decisions.foldlM checkStep none = .ok last) : InvokesOnNewSteps decisions := by
  have hsplit : ∀ before decision after, decisions = before ++ decision :: after →
      ∃ mid next, before.foldlM checkStep none = .ok mid
        ∧ checkStep mid decision = .ok next := by
    intro before decision after h
    rw [h] at hsteps
    obtain ⟨mid, hmid, hrest⟩ := foldlM_append_eq_ok.mp hsteps
    obtain ⟨next, hnext, -⟩ := foldlM_cons_eq_ok.mp hrest
    exact ⟨mid, next, hmid, hnext⟩
  constructor
  · intro before decision after h earlier hearlier s t hs ht
    obtain ⟨mid, next, hmid, hnext⟩ := hsplit before decision after h
    obtain ⟨latest, hlatest, hle⟩ := (checkStep_last hmid).1 s (.inr ⟨earlier, hearlier, hs⟩)
    exact hle.trans (((checkStep_some ht).mp hnext).1 latest hlatest)
  · intro before decision after h
    obtain ⟨mid, next, hmid, hnext⟩ := hsplit before decision after h
    obtain ⟨hlater, hsource⟩ := checkStep_last hmid
    obtain ⟨-, -, -, -, hreason⟩ := FixedStepDecisionFields.check_eq_ok.mp decision.valid
    have hfirst : before = [] → decision.reason = .bootstrap := by
      rintro rfl
      rw [h] at hbootstrap
      simpa using hbootstrap
    have hposition : decision.eventSequence = before.length + 1 := by
      have hget : (decisions.map (·.eventSequence))[before.length]? = some decision.eventSequence := by
        rw [h]
        simp
      rw [hsequences, List.getElem?_range'] at hget
      · simp only [Option.some.injEq] at hget
        omega
      · rw [h]
        simp
    -- The reason decides: the bootstrap is at the first place, and each other reason at a later one.
    cases hr : decision.reason <;> rw [hr] at hreason
    · have hempty : before = [] := by
        have hzero : before.length = 0 := by omega
        exact List.length_eq_zero_iff.mp hzero
      exact ⟨fun _ => .inl hempty, fun _ => hreason.1⟩
    · obtain ⟨step, hstep⟩ := Option.ne_none_iff_exists'.mp hreason.2
      obtain ⟨hforward, hdistinct, -, -⟩ := (checkStep_some hstep).mp hnext
      refine ⟨fun _ => .inr ⟨step, hstep, ?_⟩, fun _ => hreason.1⟩
      intro earlier hearlier s hs
      obtain ⟨latest, hlatest, hle⟩ := hlater s (.inr ⟨earlier, hearlier, hs⟩)
      have hforward := hforward latest hlatest
      have hne : latest ≠ step := by
        rintro rfl
        exact hdistinct hr hlatest
      omega
    · obtain ⟨step, hstep⟩ := Option.ne_none_iff_exists'.mp hreason.2
      obtain ⟨-, -, hretain, -⟩ := (checkStep_some hstep).mp hnext
      refine ⟨fun hinvoke => by simp [hreason.1] at hinvoke, ?_⟩
      rintro (hempty | ⟨new, hnew, hall⟩)
      · cases hr.symm.trans (hfirst hempty)
      · cases hstep.symm.trans hnew
        rcases hsource step (hretain hr) with hnone | ⟨d, hd, hds⟩
        · cases hnone
        · exact absurd (hall d hd step hds) (by omega)
    · refine ⟨fun hinvoke => by simp [hreason.1] at hinvoke, ?_⟩
      rintro (hempty | ⟨new, hnew, -⟩)
      · cases hr.symm.trans (hfirst hempty)
      · cases hreason.2.symm.trans hnew

/-! ## The validator and the projector -/

section

variable [Hashing]

theorem FixedStepScheduleFields.check_eq_ok {schedule : FixedStepScheduleFields} :
    schedule.check = .ok () ↔
      (1 ≤ schedule.boundaryEventSequence ∧ schedule.boundaryEventSequence ≤ maxTrajectoryEvents)
        ∧ (1 ≤ schedule.decisions.length ∧ schedule.decisions.length ≤ maxTrajectoryEvents)
        ∧ (1 ≤ schedule.invocationCount ∧ schedule.invocationCount ≤ maxTrajectoryEvents)
        ∧ schedule.decisions.length = schedule.boundaryEventSequence
        ∧ schedule.decisions.map (·.eventSequence) = List.range' 1 schedule.decisions.length
        ∧ (schedule.decisions.map (·.eventId)).Nodup
        ∧ ((invocationOrdinals schedule.decisions).length = schedule.invocationCount
          ∧ invocationOrdinals schedule.decisions
            = List.range' 1 (invocationOrdinals schedule.decisions).length)
        ∧ schedule.decisions.head?.map (·.reason) = some .bootstrap
        ∧ (∃ last, schedule.decisions.foldlM checkStep none = .ok last)
        ∧ schedule.scheduleDigest = SalienceGate.scheduleDigest schedule.runId
          schedule.boundaryEventSequence schedule.trajectoryPrefixDigest schedule.decisions
          schedule.invocationCount := by
  unfold FixedStepScheduleFields.check invocationOrdinals
  simp only [constrain_bind_eq_ok, refuse_bind_eq_ok, not_or, not_not, ne_eq]
  simp only [bind_eq_ok, refuse_eq_ok, not_not, exists_and_right]

/-- A schedule whose checks pass has the decisions that the loop computes, and a schedule with those
decisions passes them. -/
theorem check_iff_projectRecorded (schedule : FixedStepScheduleFields)
    (hsequences : schedule.decisions.map (·.eventSequence)
      = List.range' 1 schedule.decisions.length)
    (hids : (schedule.decisions.map (·.eventId)).Nodup) :
    schedule.check = .ok () ↔
      schedule.decisions ≠ [] ∧ schedule.decisions.length ≤ maxTrajectoryEvents
        ∧ schedule.boundaryEventSequence = schedule.decisions.length
        ∧ schedule.scheduleDigest = scheduleDigest schedule.runId schedule.boundaryEventSequence
          schedule.trajectoryPrefixDigest schedule.decisions schedule.invocationCount
        ∧ ∃ loop, projectRecorded 0 {} (schedule.decisions.map FixedStepDecision.recorded) = .ok loop
          ∧ loop.decisions = schedule.decisions
          ∧ loop.invocationOrdinal = schedule.invocationCount := by
  have hrun : ∀ final, _ := fun final =>
    @projectRecorded_eq_ok _ 0 {} final hsequences (fun _ => ⟨rfl, rfl⟩)
  have hshort := List.length_filterMap_le (·.invocationOrdinal) schedule.decisions
  rw [FixedStepScheduleFields.check_eq_ok]
  constructor
  · rintro ⟨-, ⟨hpositive, hbound⟩, -, hlength, -, -, ⟨hcount, hordinals⟩, hboot, ⟨last, hsteps⟩, hdigest⟩
    have hfollows : FollowsAll 0 {} ⟨schedule.decisions, last, schedule.invocationCount⟩
        schedule.decisions := by
      refine ⟨rfl, hsteps, ?_, ?_, ?_⟩
      · intro _ first hfirst
        rw [hfirst] at hboot
        exact Option.some.inj hboot
      · exact hordinals
      · show schedule.invocationCount = 0 + _
        omega
    refine ⟨List.ne_nil_of_length_pos hpositive, hbound, hlength.symm, hdigest, _,
      ((hrun _).mpr hfollows).1, rfl, rfl⟩
  · rintro ⟨hne, hbound, hlength, hdigest, loop, hloop, hdecisions, hcount⟩
    have hfollows := (hrun loop).mp ⟨hloop, hdecisions⟩
    obtain ⟨first, rest, hfirst⟩ := List.exists_cons_of_ne_nil hne
    have hpositive : 1 ≤ schedule.decisions.length := List.length_pos_of_ne_nil hne
    have hboot : schedule.decisions.head?.map (·.reason) = some .bootstrap := by
      have hhead : schedule.decisions.head? = some first := by rw [hfirst]; rfl
      rw [hhead]
      exact congrArg some (hfollows.bootstrap rfl first hhead)
    have hcounted : schedule.invocationCount = (invocationOrdinals schedule.decisions).length := by
      have hafter : loop.invocationOrdinal = 0 + _ := hfollows.count
      omega
    -- The bootstrap invokes, so that there is an invocation.
    have hinvoked : 1 ≤ schedule.invocationCount := by
      obtain ⟨-, -, -, -, hreason⟩ := FixedStepDecisionFields.check_eq_ok.mp first.valid
      have hr : first.reason = .bootstrap := by
        rw [hfirst] at hboot
        exact Option.some.inj hboot
      rw [hr] at hreason
      rw [hcounted, hfirst]
      obtain ⟨hsilent, -, -⟩ | ⟨n, -, -, hcons⟩ := invocationOrdinals_cons first rest
      · rw [hreason.1] at hsilent
        cases hsilent
      · rw [hcons, List.length_cons]
        omega
    have hshort : schedule.invocationCount ≤ schedule.decisions.length := by
      rw [hcounted]
      exact hshort
    exact ⟨by omega, ⟨hpositive, hbound⟩, by omega, hlength.symm, hsequences, hids,
      ⟨hcounted.symm, hfollows.ordinals⟩, hboot, ⟨_, hfollows.steps⟩, hdigest⟩

omit [Hashing] in
/-- The loop on the items of a prefix is the loop on what they record. -/
theorem projectItems_eq {items : List AttestedTrajectoryEvent} :
    ∀ {records : List RecordedEvent} {index : ℕ} {loop : Projecting},
      items.mapM readEvent = .ok records →
      projectItems index loop items = projectRecorded index loop records := by
  induction items with
  | nil =>
    intro records index loop h
    cases h
    rfl
  | cons item items ih =>
    intro records index loop h
    rw [List.mapM_cons] at h
    obtain ⟨record, hrecord, h⟩ := bind_eq_ok.mp h
    obtain ⟨later, hlater, h⟩ := bind_eq_ok.mp h
    cases h
    unfold projectItems projectRecorded
    rw [hrecord]
    exact bind_congr_ok fun next _ => ih hlater

/-- **The schedule's checks accept exactly what the projector computes.** For decisions of contiguous
sequences and different events, the checks of a schedule pass if and only if the projector's loop, run on
the steps that the decisions record, computes these decisions; for every prefix whose events record these
steps, if and only if projecting it gives the schedule. In an accepted schedule the steps never decrease,
exactly the first event and the first event of each larger step invoke, and the invocations are numbered
from one. -/
theorem fixedStepSchedule_check_iff (schedule : FixedStepScheduleFields)
    (hsequences : schedule.decisions.map (·.eventSequence)
      = List.range' 1 schedule.decisions.length)
    (hids : (schedule.decisions.map (·.eventId)).Nodup) :
    (schedule.check = .ok () ↔
      schedule.decisions ≠ [] ∧ schedule.decisions.length ≤ maxTrajectoryEvents
        ∧ schedule.boundaryEventSequence = schedule.decisions.length
        ∧ schedule.scheduleDigest = scheduleDigest schedule.runId schedule.boundaryEventSequence
          schedule.trajectoryPrefixDigest schedule.decisions schedule.invocationCount
        ∧ ∃ loop, projectRecorded 0 {} (schedule.decisions.map FixedStepDecision.recorded) = .ok loop
          ∧ loop.decisions = schedule.decisions
          ∧ loop.invocationOrdinal = schedule.invocationCount)
      ∧ (∀ validated : AttestedTrajectoryPrefix,
        validated.items.mapM readEvent
          = .ok (schedule.decisions.map FixedStepDecision.recorded) →
        validated.runId = schedule.runId →
        validated.boundaryEventSequence = schedule.boundaryEventSequence →
        validated.prefixDigest = schedule.trajectoryPrefixDigest →
        (schedule.check = .ok () ↔
          ∃ projected, projectVerifiedFixedStepSchedule validated = .ok projected
            ∧ projected.toFixedStepScheduleFields = schedule))
      ∧ (schedule.check = .ok () →
        InvokesOnNewSteps schedule.decisions
          ∧ invocationOrdinals schedule.decisions = List.range' 1 schedule.invocationCount) := by
  have hchecked := check_iff_projectRecorded schedule hsequences hids
  refine ⟨hchecked, ?_, ?_⟩
  · intro validated hreads hrun hboundary hprefix
    constructor
    · intro hcheck
      obtain ⟨-, -, -, hdigest, loop, hloop, hdecisions, hcount⟩ := hchecked.mp hcheck
      refine ⟨⟨schedule, hcheck⟩, ?_, rfl⟩
      unfold projectVerifiedFixedStepSchedule
      rw [projectItems_eq hreads]
      refine bind_eq_ok.mpr ⟨loop, hloop, mapError_eq_ok.mpr (validate_eq_ok.mpr ?_)⟩
      rw [hrun, hboundary, hprefix, hdecisions, hcount, ← hdigest]
      exact ⟨hcheck, rfl⟩
    · rintro ⟨projected, -, rfl⟩
      exact projected.valid
  · intro hcheck
    obtain ⟨-, -, -, -, -, -, ⟨hcount, hordinals⟩, hboot, ⟨last, hsteps⟩, -⟩ :=
      FixedStepScheduleFields.check_eq_ok.mp hcheck
    refine ⟨invokesOnNewSteps hsequences hboot hsteps, ?_⟩
    rw [← hcount]
    exact hordinals

end

/-- A hash function with one digest. -/
local instance zeroHashing : Hashing where
  lengthPrefixedSha256 _ _ := ⟨"0000000000000000000000000000000000000000000000000000000000000000", by decide⟩

/-- An identity of an event, by its number. -/
def numberedEventId (n : ℕ) : UUID4 := ⟨stampVersion4 n, stampVersion4_isVersion4 n⟩

/-- A run start, an event that opens the first step, and one that belongs to it. -/
def oneStepSchedule : FixedStepScheduleFields where
  runId := numberedEventId 0
  boundaryEventSequence := 3
  trajectoryPrefixDigest := zeroHashing.lengthPrefixedSha256 "" []
  decisions := [
    ⟨⟨numberedEventId 1, 1, true, some 1, .bootstrap, none⟩, rfl⟩,
    ⟨⟨numberedEventId 2, 2, true, some 2, .actionStep, some 1⟩, rfl⟩,
    ⟨⟨numberedEventId 3, 3, false, none, .currentActionStep, some 1⟩, rfl⟩]
  invocationCount := 2
  scheduleDigest := zeroHashing.lengthPrefixedSha256 "" []

theorem fixedStepSchedule_check_iff_oneStep :
    oneStepSchedule.check = .ok () ∧ InvokesOnNewSteps oneStepSchedule.decisions :=
  ⟨rfl, ((fixedStepSchedule_check_iff oneStepSchedule rfl (by decide)).2.2 rfl).1⟩

end SalienceGate
