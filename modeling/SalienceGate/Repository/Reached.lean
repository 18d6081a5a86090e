import SalienceGate.Repository.BatchSteps
import SalienceGate.Repository.Operations

/-!
# Every reachable state

Every operation continues every run of the repository, and all but `append` extend it: only an
append records a source collision. So every run that a sequence of operations reaches is live.
-/

namespace SalienceGate

open Stateful

variable [Hashing] {repository t : Repository} {runId : UUID4}

/-! ## Methods of one run -/

/-- Every run is related to its state before. -/
def OnEach (R : RunState → RunState → Prop) (repository t : Repository) : Prop :=
  ∀ runId, R (repository runId) (t runId)

/-- A method of one run relates every run to its state before, if it does so to its own. -/
theorem onRun_endsIn {α : Type} {x : RunM α} {R : RunState → RunState → Prop}
    (hrefl : ∀ id, R (repository id) (repository id))
    (hx : EndsIn x (repository runId) (R (repository runId))) :
    EndsIn (onRun runId x) repository (OnEach R repository) := by
  refine EndsIn.zoom hx ?_
  intro run hrun id
  rw [Function.update_apply]
  split
  · next heq => exact heq ▸ hrun
  · exact hrefl id

/-- What a method of one run did when it returned. -/
theorem onRun_eq_ok {α : Type} {x : RunM α} {a : α} :
    onRun runId x repository = .ok a t
      ↔ ∃ u, x (repository runId) = .ok a u ∧ t = Function.update repository runId u := by
  unfold onRun zoom
  cases x (repository runId) with
  | ok b u => simp [eq_comm, and_comm]
  | error e u => simp

/-- A method of a run that returns is a method of the repository that returns. -/
theorem onRun_of_ok {α : Type} {x : RunM α} {a : α} {u : RunState}
    (h : x (repository runId) = .ok a u) :
    onRun runId x repository = .ok a (Function.update repository runId u) :=
  onRun_eq_ok.mpr ⟨u, h, rfl⟩

/-- A method of a run that leaves it as it is on an error leaves the repository as it is. -/
theorem atomic_onRun {α : Type} {x : RunM α} (h : Atomic x) : Atomic (onRun runId x) :=
  h.zoom fun repository => Function.update_eq_self runId repository

/-! ## Operations -/

variable [Integrity] [Redactor] [Serialization]

/-- Every run of the repository is live, under its own identity. -/
structure Repository.Live (repository : Repository) : Prop where
  live : ∀ runId, (repository runId).Live
  runId : ∀ runId, (repository runId).slot.runId = runId

/-- An operation that may record a source collision. -/
def Operation.isAppend : Operation → Bool
  | .append .. => true
  | _ => false

/-- A command on one run: its arguments are checked before the run is looked up. -/
theorem submitted_endsIn {α β : Type} (hlive : repository.Live) {name : String}
    {argument : Argument α} {record : α → SubmittedRecord} {run : α → UUID4} {x : α → RunM β}
    (hx : ∀ value, EndsIn (x value) (repository (run value)) (Extended (repository (run value)))) :
    EndsIn (do
      let validated ← validateCommand name argument
      validateRecordContent (record validated) name
      onRun (run validated) (x validated) : RepositoryM β) repository (OnEach Extended repository) := by
  have hsame : OnEach Extended repository repository := fun id => (hlive.live id).extended
  exact .lift_bind hsame fun value _ => .lift_bind hsame fun _ _ => onRun_endsIn hsame (hx value)

omit [Redactor] [Serialization] in
/-- Storing a direct record extends its run. -/
theorem recordDirect_endsIn (hlive : repository.Live) {record : DirectLedgerRecord} :
    EndsIn (do
      acquireSlot (← get)
      recordDirectLocked record true true : RunM LedgerReceipt) (repository runId) (Extended (repository runId)) :=
  .get_bind (.lift_bind (hlive.live _).extended fun _ _ => recordDirectLocked_endsIn (hlive.live _))

omit [Redactor] [Serialization] in
/-- A recovery extends its run. -/
theorem recovery_endsIn {β : Type} (hlive : repository.Live) {id : Argument UUID4}
    {recoveredAt : Argument UtcDatetime} {x : UUID4 → UtcDatetime → RunM β}
    (hx : ∀ id recoveredAt, EndsIn (x id recoveredAt) (repository id) (Extended (repository id))) :
    EndsIn (do
      let runId ← validateRunId id
      let recoveredAt ← validateRecoveryTime recoveredAt
      onRun runId (x runId recoveredAt) : RepositoryM β) repository (OnEach Extended repository) := by
  have hsame : OnEach Extended repository repository := fun id => (hlive.live id).extended
  exact .lift_bind hsame fun id _ => .lift_bind hsame fun at_ _ => onRun_endsIn hsame (hx id at_)

/-- An operation other than an append extends every run. -/
theorem Operation.perform_extended (hlive : repository.Live) {operation : Operation}
    (hoperation : operation.isAppend = false) :
    EndsIn operation.perform repository (OnEach Extended repository) := by
  have hsame : OnEach Extended repository repository := fun id => (hlive.live id).extended
  cases operation with
  | append => cases hoperation
  | appendEventIfHead event eventId expectedHead =>
    refine .map ?_
    unfold SalienceGate.appendEventIfHead
    refine .lift_bind hsame fun draft _ => .lift_bind hsame fun id _ => .lift_bind hsame fun head _ =>
      .lift_bind hsame fun _ hmetadata => .lift_bind hsame fun redacted hredact => ?_
    refine onRun_endsIn hsame (.get_bind (.lift_bind (hsame _) fun _ _ => ?_))
    refine .get_bind (.lift_bind (hsame _) fun _ _ => ?_)
    refine appendConditionalToSlot_endsIn (hlive.live _) ?_
    rw [sourceEventId_redactDraft hredact]
    exact isCollisionSource_of_validateMetadata hmetadata
  | appendRecordsIfHead operations expectedHead =>
    refine .map ?_
    unfold SalienceGate.appendRecordsIfHead
    refine .lift_bind hsame fun batch hbatch => .lift_bind hsame fun head _ => ?_
    obtain ⟨prepared, -, hall, -⟩ := prepareConditionalBatch_eq_ok hbatch
    exact onRun_endsIn hsame (appendRecordsLocked_endsIn (hlive.live _) hall)
  | recordSignal signal => exact .map (submitted_endsIn hlive fun _ => recordDirect_endsIn hlive)
  | recordSignalIfHead signal expectedHead =>
    refine .map ?_
    unfold SalienceGate.recordSignalIfHead
    refine .lift_bind hsame fun record _ => .lift_bind hsame fun head _ => .lift_bind hsame fun _ _ => ?_
    refine onRun_endsIn hsame (.get_bind (.lift_bind (hsame _) fun _ _ => ?_))
    exact .get_bind (.lift_bind (hsame _) fun _ _ => recordDirectLocked_endsIn (hlive.live _))
  | recordInvocationDecision decision =>
    exact .map (submitted_endsIn hlive fun _ => recordDirect_endsIn hlive)
  | recordOutcome outcome => exact .map (submitted_endsIn hlive fun _ => recordDirect_endsIn hlive)
  | beginCycle command =>
    exact .map (submitted_endsIn hlive fun _ => beginCycleLocked_endsIn (hlive.live _))
  | reserveCycle command =>
    refine .map (submitted_endsIn hlive fun value => advanceCycleLocked_endsIn (hlive.live _) ?_)
    simp [ReserveCycle.next]
  | markCycleRunning command =>
    refine .map (submitted_endsIn hlive fun value => advanceCycleLocked_endsIn (hlive.live _) ?_)
    simp [StartCycle.next]
  | commitCycle command =>
    exact .map (submitted_endsIn hlive fun _ => commitCycleLocked_endsIn (hlive.live _))
  | failCycle command =>
    exact .map (submitted_endsIn hlive fun _ => failCycleLocked_endsIn (hlive.live _))
  | recoverCycles id recoveredAt =>
    exact .map (recovery_endsIn hlive fun _ _ => recoverCyclesLocked_endsIn (hlive.live _))
  | claimDelivery command =>
    exact .map (submitted_endsIn hlive fun command => transitionLocked_endsIn (hlive.live _) command.advances)
  | beginDeliveryAttempt command =>
    exact .map (submitted_endsIn hlive fun command => beginAttemptLocked_endsIn (hlive.live _) command.advances)
  | completeDelivery command =>
    exact .map (submitted_endsIn hlive fun command => transitionLocked_endsIn (hlive.live _) command.advances)
  | markDeliveryUnknown command =>
    exact .map (submitted_endsIn hlive fun command => transitionLocked_endsIn (hlive.live _) command.advances)
  | rejectDelivery command =>
    exact .map (submitted_endsIn hlive fun command => transitionLocked_endsIn (hlive.live _) command.advances)
  | recoverDeliveries id recoveredAt =>
    exact .map (recovery_endsIn hlive fun _ _ => recoverDeliveriesLocked_endsIn (hlive.live _))
  | rebuild id =>
    refine .map ?_
    unfold SalienceGate.rebuild
    exact .lift_bind hsame fun id _ => onRun_endsIn hsame (rebuildLocked_endsIn (hlive.live _))

omit [Serialization] in
/-- An append continues every run. -/
theorem append_continued (hlive : repository.Live) {event : Argument NormalizedTraceEventDraft}
    {eventId : Option (Argument UUID4)} {newId : Option UUID4} :
    EndsIn (append event eventId newId) repository (OnEach Continued repository) := by
  have hsame : OnEach Continued repository repository := fun id => (hlive.live id).extended.continued
  unfold append
  refine .lift_bind hsame fun draft _ => .lift_bind hsame fun id _ => .lift_bind hsame fun _ hmetadata =>
    .lift_bind hsame fun redacted hredact => ?_
  refine onRun_endsIn hsame (.get_bind (.lift_bind (hsame _) fun _ _ => ?_))
  exact appendToSlot_endsIn (hlive.live _) (isCollisionSource_of_validateMetadata hmetadata)
    (sourceEventId_redactDraft hredact)

/-- Every operation continues every run. -/
theorem Operation.perform_continued (hlive : repository.Live) (operation : Operation) :
    EndsIn operation.perform repository (OnEach Continued repository) := by
  cases hoperation : operation.isAppend with
  | false =>
    have hextended := Operation.perform_extended hlive hoperation
    exact ⟨fun a t h id => (hextended.ok a t h id).continued,
      fun e t h id => (hextended.error e t h id).continued⟩
  | true =>
    cases operation with
    | append event eventId newId => exact .map (append_continued hlive)
    | _ => cases hoperation

/-! ## Runs -/

omit [Serialization] in
/-- A slot keeps its run. -/
theorem Continued.runId_eq {run t : RunState} (h : Continued run t) :
    t.slot.runId = run.slot.runId := by
  have hslot := h.slot
  generalize t.slot = slot at hslot
  induction hslot with
  | refl => rfl
  | tail _ hgrows ih =>
    rw [← ih]
    cases hgrows with
    | plain h => cases h <;> rfl
    | collides _ h => cases h; rfl

omit [Redactor] [Serialization] in
/-- The repository without runs is live. -/
theorem live_repository_empty : Repository.empty.Live where
  live := live_empty
  runId _ := rfl

omit [Serialization] in
theorem Repository.Live.continued (h : repository.Live) (ht : OnEach Continued repository t) :
    t.Live where
  live runId := (ht runId).live (h.live runId)
  runId runId := (ht runId).runId_eq.trans (h.runId runId)

/-- Every reachable repository is live. -/
theorem ReachableBy.live {C : Repository → Operation → Prop} (h : ReachableBy C repository) :
    repository.Live :=
  h.invariant live_repository_empty fun _ operation hlive _ =>
    hlive.continued (operation.perform_continued hlive).after

end SalienceGate
