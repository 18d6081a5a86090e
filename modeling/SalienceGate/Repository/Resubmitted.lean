import SalienceGate.Repository.Equivalence
import SalienceGate.Repository.Retries

/-!
# Operations submitted again

An operation that returned, submitted again after any other operations: an append changes nothing, a
command that stores a direct record or a cycle revision returns its receipt, and a command on a
delivery returns its receipt or raises.
-/

namespace SalienceGate

open Checked
open Stateful hiding bind_eq_ok check_bind_eq_ok raiseIf_bind_eq_ok expect_bind_eq_ok

variable [Hashing] [Integrity] [Redactor] [Serialization] {repository t later : Repository}
  {runId : UUID4}

/-! ## Commands on one run -/

omit [Integrity] [Redactor] [Serialization] in
/-- A method that leaves its run as it is leaves the repository as it is. -/
theorem onRun_same {α : Type} {x : RunM α} {a : α}
    (h : x (repository runId) = .ok a (repository runId)) :
    onRun runId x repository = .ok a repository :=
  onRun_eq_ok.mpr ⟨_, h, (Function.update_eq_self runId repository).symm⟩

omit [Integrity] [Redactor] [Serialization] in
/-- A method that leaves its run as it is leaves the repository as it is. -/
theorem onRun_same_error {α : Type} {x : RunM α} {e : RepositoryError}
    (h : x (repository runId) = .error e (repository runId)) :
    onRun runId x repository = .error e repository := by
  unfold onRun zoom
  rw [h]
  exact congrArg _ (Function.update_eq_self runId repository)

/-- The method of a command on one run, whose arguments are checked first. -/
def submit {α β : Type} (name : String) (record : α → SubmittedRecord) (run : α → UUID4)
    (x : α → RunM β) (argument : Argument α) : RepositoryM β := do
  let validated ← validateCommand name argument
  validateRecordContent (record validated) name
  onRun (run validated) (x validated)

omit [Integrity] in
/-- What a command did when it returned, and what it does when it is submitted again. -/
theorem submit_eq_ok {α β : Type} {name : String} {record : α → SubmittedRecord} {run : α → UUID4}
    {x : α → RunM β} {argument : Argument α} {receipt : β}
    (h : submit name record run x argument repository = .ok receipt t) :
    ∃ value, argument = .exact value
      ∧ x value (repository (run value)) = .ok receipt (t (run value))
      ∧ ∀ later, submit name record run x argument later = onRun (run value) (x value) later := by
  unfold submit at h ⊢
  obtain ⟨value, hvalue, h⟩ := lift_bind_eq_ok.mp h
  obtain ⟨hcontent, h⟩ := Stateful.check_bind_eq_ok.mp h
  obtain ⟨u, hx, rfl⟩ := onRun_eq_ok.mp h
  have hargument : argument = .exact value := by
    cases argument <;> cases hvalue
    rfl
  refine ⟨value, hargument, ?_, fun later => ?_⟩
  · rw [Function.update_self]
    exact hx
  · rw [lift_bind_of_ok hvalue, lift_bind_of_ok hcontent]

/-! ## Later states -/

/-- The states of the runs before an operation, after it, and much later. -/
structure Later (repository t later : Repository) : Prop where
  before : repository.Live
  live : later.Live
  first : ∀ runId, (repository runId).slot.Keeps (t runId).slot
  rest : ∀ runId, (t runId).slot.Keeps (later runId).slot

theorem performAll_keeps (h : repository.Live) (operations : List Operation) :
    (performAll operations repository).Live
      ∧ ∀ runId, (repository runId).slot.Keeps (performAll operations repository runId).slot := by
  unfold performAll
  induction operations generalizing repository with
  | nil => exact ⟨h, fun _ => .refl _⟩
  | cons operation operations ih =>
    have hstep := (operation.perform_continued h).after
    obtain ⟨hlive, hkeeps⟩ := ih (h.continued hstep)
    exact ⟨hlive, fun runId => ((hstep runId).keeps (h.live runId)).trans (hkeeps runId)⟩

/-- The states after an operation of a reachable repository, and after more operations. -/
theorem Later.of_performAll (h : Reachable repository) {operation : Operation}
    {receipt : OperationReceipt} (hfirst : operation.perform repository = .ok receipt t)
    (operations : List Operation) : Later repository t (performAll operations t) := by
  have hbefore := h.live
  have hstep := (operation.perform_continued hbefore).ok receipt t hfirst
  obtain ⟨hlive, hkeeps⟩ := performAll_keeps (hbefore.continued hstep) operations
  exact ⟨hbefore, hlive, fun runId => (hstep runId).keeps (hbefore.live runId), hkeeps⟩

namespace Later

/-- A command whose locked part returns its receipt again does so itself. -/
theorem submit_again (h : Later repository t later) {α β : Type} {name : String}
    {record : α → SubmittedRecord} {run : α → UUID4} {x : α → RunM β} {argument : Argument α}
    {receipt again : β} (hfirst : submit name record run x argument repository = .ok receipt t)
    (hx : ∀ value (run u s : RunState), run.Live → s.Live → run.slot.Keeps u.slot →
      u.slot.Keeps s.slot → x value run = .ok receipt u → x value s = .ok again s) :
    submit name record run x argument later = .ok again later := by
  obtain ⟨value, -, hrun, hlater⟩ := submit_eq_ok hfirst
  rw [hlater later]
  exact onRun_same (hx value _ _ _ (h.before.live _) (h.live.live _) (h.first _) (h.rest _) hrun)

/-- A command whose locked part returns its receipt again, or raises, does so itself. -/
theorem submit_either (h : Later repository t later) {α β : Type} {name : String}
    {record : α → SubmittedRecord} {run : α → UUID4} {x : α → RunM β} {value : α}
    {receipt again : β} (current : Slot → Prop)
    (hfirst : submit name record run x (.exact value) repository = .ok receipt t)
    (hx : ∀ r u s : RunState, r.Live → s.Live → r.slot.Keeps u.slot → u.slot.Keeps s.slot →
      x value r = .ok receipt u → (current s.slot → x value s = .ok again s)
        ∧ (¬current s.slot → ∃ error, x value s = .error error s)) :
    (current (later (run value)).slot → submit name record run x (.exact value) later = .ok again later)
    ∧ (¬current (later (run value)).slot →
      ∃ error, submit name record run x (.exact value) later = .error error later) := by
  obtain ⟨found, hfound, hrun, hlater⟩ := submit_eq_ok hfirst
  cases hfound
  obtain ⟨hcurrent, hmoved⟩ := hx _ _ _ (h.before.live _) (h.live.live _) (h.first _) (h.rest _) hrun
  rw [hlater later]
  refine ⟨fun hat => onRun_same (hcurrent hat), fun hat => ?_⟩
  obtain ⟨error, herror⟩ := hmoved hat
  exact ⟨error, onRun_same_error herror⟩

/-- A command on a delivery, with the receipt that the operation makes of its own. -/
theorem transition_again (h : Later repository t later) {α : Type} {name : String}
    {record : α → SubmittedRecord} {run : α → UUID4} {rule : α → DeliveryRule} {value : α}
    (hrule : (rule value).Advances) (hown : (rule value).KnowsOwn)
    {receipt : DeliveryTransitionReceipt}
    (hfirst : submit name record run (fun value => transitionLocked (rule value)) (.exact value)
      repository = .ok receipt t) :
    ((later (run value)).slot.AtRevision (rule value).deliveryId ((rule value).expectedRevision + 1) →
      submit name record run (fun value => transitionLocked (rule value)) (.exact value) later
        = .ok receipt.repeated later)
    ∧ (¬(later (run value)).slot.AtRevision (rule value).deliveryId
        ((rule value).expectedRevision + 1) →
      ∃ error, submit name record run (fun value => transitionLocked (rule value)) (.exact value)
        later = .error error later) :=
  h.submit_either
    (fun slot => slot.AtRevision (rule value).deliveryId ((rule value).expectedRevision + 1))
    hfirst fun _ _ _ hr hs hru hus hx => transitionLocked_repeats hr hrule hown hx hs hru hus

end Later

omit [Hashing] [Integrity] [Redactor] [Serialization] in
/-- A rule without a race check does not race. -/
theorem DeliveryRule.knowsOwn_of_race {rule : DeliveryRule} (h : rule.race = fun _ => .ok ()) :
    rule.KnowsOwn := by
  intro base record _
  rw [h]

omit [Hashing] [Integrity] [Redactor] [Serialization] in
/-- The beginning of an attempt does not race with its own attempt. -/
theorem BeginDeliveryAttempt.knowsOwn (command : BeginDeliveryAttempt) :
    command.rule.KnowsOwn := by
  intro base record hrecord
  have hfields := transitionDelivery_eq_ok hrecord
  have hattempt : record.attemptId = some command.attemptId :=
    congrArg DeliveryRecordFields.attemptId hfields
  unfold BeginDeliveryAttempt.rule
  rw [raiseIf_eq_ok]
  exact fun hrace => hrace.2.2 hattempt

/-- An operation that stores a direct record or a revision of a cycle. -/
def Operation.storesRecord : Operation → Bool
  | .recordSignal _ | .recordInvocationDecision _ | .recordOutcome _ | .beginCycle _
  | .reserveCycle _ | .markCycleRunning _ | .commitCycle _ | .failCycle _ => true
  | _ => false

/-- The run, the delivery and the revision that a command on a delivery makes. -/
def Operation.movesTo : Operation → Option (UUID4 × UUID4 × ℕ)
  | .claimDelivery (.exact command) =>
    some (command.runId, command.deliveryId, command.expectedRevision + 1)
  | .beginDeliveryAttempt (.exact command) =>
    some (command.runId, command.deliveryId, command.expectedRevision + 1)
  | .completeDelivery (.exact command) =>
    some (command.runId, command.deliveryId, command.expectedRevision + 1)
  | .markDeliveryUnknown (.exact command) =>
    some (command.runId, command.deliveryId, command.expectedRevision + 1)
  | .rejectDelivery (.exact command) =>
    some (command.runId, command.deliveryId, command.expectedRevision + 1)
  | _ => none

omit [Integrity] [Redactor] in
/-- The receipt of an operation, not marked as appended and without an envelope. -/
def OperationReceipt.repeated : OperationReceipt → OperationReceipt
  | .direct receipt => .direct receipt.repeated
  | .cycle receipt => .cycle receipt.repeated
  | .delivery receipt => .delivery receipt.repeated
  | .attempt receipt => .attempt receipt.repeated
  | receipt => receipt

/-- A command that stored a record returns its receipt again. -/
theorem Later.record_again (h : Later repository t later) {operation : Operation}
    {receipt : OperationReceipt} (hfirst : operation.perform repository = .ok receipt t)
    (hoperation : operation.storesRecord = true) :
    operation.perform later = .ok receipt.repeated later := by
  cases operation with
  | recordSignal signal =>
    obtain ⟨made, hmade, rfl⟩ := map_eq_ok.mp hfirst
    exact map_eq_ok.mpr ⟨_, h.submit_again hmade fun _ _ _ _ hrun hs hru hus hx =>
      recordDirect_repeats hrun hx hs (hru.trans hus) hus, rfl⟩
  | recordInvocationDecision decision =>
    obtain ⟨made, hmade, rfl⟩ := map_eq_ok.mp hfirst
    exact map_eq_ok.mpr ⟨_, h.submit_again hmade fun _ _ _ _ hrun hs hru hus hx =>
      recordDirect_repeats hrun hx hs (hru.trans hus) hus, rfl⟩
  | recordOutcome outcome =>
    obtain ⟨made, hmade, rfl⟩ := map_eq_ok.mp hfirst
    exact map_eq_ok.mpr ⟨_, h.submit_again hmade fun _ _ _ _ hrun hs hru hus hx =>
      recordDirect_repeats hrun hx hs (hru.trans hus) hus, rfl⟩
  | beginCycle command =>
    obtain ⟨made, hmade, rfl⟩ := map_eq_ok.mp hfirst
    exact map_eq_ok.mpr ⟨_, h.submit_again hmade fun _ _ _ _ hrun hs hru hus hx =>
      beginCycleLocked_repeats hrun hx hs (hru.trans hus) hus, rfl⟩
  | reserveCycle command =>
    obtain ⟨made, hmade, rfl⟩ := map_eq_ok.mp hfirst
    exact map_eq_ok.mpr ⟨_, h.submit_again hmade fun _ _ _ _ hrun hs hru hus hx =>
      advanceCycleLocked_repeats hrun hx hs (hru.trans hus) hus, rfl⟩
  | markCycleRunning command =>
    obtain ⟨made, hmade, rfl⟩ := map_eq_ok.mp hfirst
    exact map_eq_ok.mpr ⟨_, h.submit_again hmade fun _ _ _ _ hrun hs hru hus hx =>
      advanceCycleLocked_repeats hrun hx hs (hru.trans hus) hus, rfl⟩
  | commitCycle command =>
    obtain ⟨made, hmade, rfl⟩ := map_eq_ok.mp hfirst
    exact map_eq_ok.mpr ⟨_, h.submit_again hmade fun _ _ _ _ hrun hs hru hus hx =>
      commitCycleLocked_repeats hrun hx hs (hru.trans hus) hus, rfl⟩
  | failCycle command =>
    obtain ⟨made, hmade, rfl⟩ := map_eq_ok.mp hfirst
    exact map_eq_ok.mpr ⟨_, h.submit_again hmade fun _ _ _ _ hrun hs hru hus hx =>
      failCycleLocked_repeats hrun hx hs (hru.trans hus) hus, rfl⟩
  | _ => cases hoperation

omit [Serialization] in
/-- An append changes nothing when it is submitted again, whatever identity the factory makes. -/
theorem Later.append_again (h : Later repository t later) {event : Argument NormalizedTraceEventDraft}
    {eventId : Option (Argument UUID4)} {newId : Option UUID4} {receipt : AppendReceipt}
    (hfirst : append event eventId newId repository = .ok receipt t) (again : Option UUID4) :
    EndsIn (append event eventId again) later (· = later) := by
  unfold append at hfirst ⊢
  obtain ⟨draft, hdraft, hfirst⟩ := lift_bind_eq_ok.mp hfirst
  obtain ⟨id, hid, hfirst⟩ := lift_bind_eq_ok.mp hfirst
  obtain ⟨hmetadata, hfirst⟩ := Stateful.check_bind_eq_ok.mp hfirst
  obtain ⟨redacted, hredacted, hfirst⟩ := lift_bind_eq_ok.mp hfirst
  obtain ⟨u, hrun, rfl⟩ := onRun_eq_ok.mp hfirst
  rw [get_bind] at hrun
  obtain ⟨-, happend⟩ := Stateful.check_bind_eq_ok.mp hrun
  have hsource := sourceEventId_redactDraft hredacted
  have hfirstKeeps := h.first draft.runId
  have hrest := h.rest draft.runId
  rw [Function.update_self] at hfirstKeeps hrest
  have hrecorded := ((appendToSlot_eq_ok hsource happend).recorded hsource hfirstKeeps).keeps hrest
  refine .lift_bind rfl fun draft' hdraft' => ?_
  obtain rfl : draft' = draft := Except.ok.inj (hdraft'.symm.trans hdraft)
  refine .lift_bind rfl fun id' _ => .lift_bind rfl fun _ _ => .lift_bind rfl fun redacted' hagain => ?_
  obtain rfl : redacted' = redacted := Except.ok.inj (hagain.symm.trans hredacted)
  have hlocked : EndsIn (do
      acquireAppendSlot (← get)
      appendToSlot draft' redacted' id' again : RunM AppendReceipt) (later draft'.runId) (· = later draft'.runId) :=
    .get_bind (.lift_bind rfl fun _ _ => appendToSlot_again hrecorded)
  refine EndsIn.zoom hlocked ?_
  rintro run rfl
  exact Function.update_eq_self _ later

/-- A command on a delivery returns its receipt again while the delivery is at the revision that it
made, and raises from then on. -/
theorem Later.delivery_again (h : Later repository t later) {operation : Operation}
    {receipt : OperationReceipt} (hfirst : operation.perform repository = .ok receipt t)
    {deliveryId : UUID4} {revision : ℕ} (hmoves : operation.movesTo = some (runId, deliveryId, revision)) :
    ((later runId).slot.AtRevision deliveryId revision →
      operation.perform later = .ok receipt.repeated later)
    ∧ (¬(later runId).slot.AtRevision deliveryId revision →
      ∃ error, operation.perform later = .error error later) := by
  -- the operation only wraps the receipt of its method
  have hmap : ∀ {α : Type} {x : RepositoryM α} {wrap : α → OperationReceipt} {again : α} {P : Prop},
      ((P → x later = .ok again later) ∧ (¬P → ∃ error, x later = .error error later)) →
      (P → (wrap <$> x) later = .ok (wrap again) later)
        ∧ (¬P → ∃ error, (wrap <$> x) later = .error error later) := by
    rintro α x wrap again P ⟨hcurrent, hmoved⟩
    refine ⟨fun hP => map_eq_ok.mpr ⟨again, hcurrent hP, rfl⟩, fun hP => ?_⟩
    obtain ⟨error, herror⟩ := hmoved hP
    exact ⟨error, map_eq_error.mpr herror⟩
  cases operation with
  | claimDelivery argument =>
    cases argument with
    | exact command =>
      cases hmoves
      obtain ⟨made, hmade, rfl⟩ := map_eq_ok.mp hfirst
      exact hmap (h.transition_again command.advances (DeliveryRule.knowsOwn_of_race rfl) hmade)
    | _ => cases hmoves
  | beginDeliveryAttempt argument =>
    cases argument with
    | exact command =>
      cases hmoves
      obtain ⟨made, hmade, rfl⟩ := map_eq_ok.mp hfirst
      have hagain := h.submit_either
        (fun slot => slot.AtRevision command.deliveryId (command.expectedRevision + 1))
        hmade fun _ _ _ hr hs hru hus hx =>
          beginAttemptLocked_repeats hr command.advances command.knowsOwn hx hs hru hus
      exact hmap hagain
    | _ => cases hmoves
  | completeDelivery argument =>
    cases argument with
    | exact command =>
      cases hmoves
      obtain ⟨made, hmade, rfl⟩ := map_eq_ok.mp hfirst
      exact hmap (h.transition_again command.advances (DeliveryRule.knowsOwn_of_race rfl) hmade)
    | _ => cases hmoves
  | markDeliveryUnknown argument =>
    cases argument with
    | exact command =>
      cases hmoves
      obtain ⟨made, hmade, rfl⟩ := map_eq_ok.mp hfirst
      exact hmap (h.transition_again command.advances (DeliveryRule.knowsOwn_of_race rfl) hmade)
    | _ => cases hmoves
  | rejectDelivery argument =>
    cases argument with
    | exact command =>
      cases hmoves
      obtain ⟨made, hmade, rfl⟩ := map_eq_ok.mp hfirst
      exact hmap (h.transition_again command.advances (DeliveryRule.knowsOwn_of_race rfl) hmade)
    | _ => cases hmoves
  | _ => cases hmoves

end SalienceGate

namespace SalienceGate

section Retry

attribute [local instance] collisionHashing collisionIntegrity collisionSerialization plainRedactor

end Retry

end SalienceGate
