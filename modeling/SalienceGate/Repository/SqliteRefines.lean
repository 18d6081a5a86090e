import SalienceGate.Repository.Unfaulted

/-!
# One client of the SQLite repository

The calls of the only client of a database, none of whose statements fails, each to its end. If every
append keeps its audit event readable, they return and raise what the repository in memory returns and
raises, and the engine that the database leads to is that repository after every one of them.
-/

namespace SalienceGate

open Checked
open Stateful hiding bind_eq_ok check_bind_eq_ok raiseIf_bind_eq_ok expect_bind_eq_ok

variable [Hashing] [Integrity] [Serialization]

/-! ## Calls -/

/-- The identity that the factory makes for an operation. -/
def Operation.newId : Operation → Option UUID4
  | .append _ _ newId => newId
  | _ => none

/-- The steps of a call from a phase to its end, if it ends in so many: what it returns or raises. -/
def Phase.answer (newId : Option UUID4) (connection : Connection) (phase : Phase) :
    ℕ → Option (Except SqliteError OperationReceipt × Connection)
  | 0 => none
  | fuel + 1 =>
    match advance (unfaulted newId) connection phase with
    | (.continues phase, next) => phase.answer newId next fuel
    | (.returns _ receipt, next) => some (.ok receipt, next)
    | (.raises error, next) => some (.error error, next)

/-- A call to its end. An attempt takes three steps at most, and a step more ends the last one. -/
def Call.answer (call : Call) (connection : Connection) :
    Option (Except SqliteError OperationReceipt × Connection) :=
  match call.precheck with
  | .error error => some (.error (.repository error), connection)
  | .ok () =>
    (Phase.starting call call.attempts).answer call.operation.newId connection (3 * call.attempts + 1)

/-- What the call returns or raises on the repository in memory, and the repository after it. -/
def Call.reply (call : Call) (repository : Repository) :
    Except RepositoryError OperationReceipt × Repository :=
  match call.perform repository with
  | .ok receipt next => (.ok receipt, next)
  | .error error next => (.error error, next)

/-- The calls of a client, one after the other. -/
def answerAll : List Call → Connection →
    Option (List (Except SqliteError OperationReceipt) × Connection)
  | [], connection => some ([], connection)
  | call :: calls, connection => do
    let (answer, next) ← call.answer connection
    let (answers, last) ← answerAll calls next
    pure (answer :: answers, last)

/-- The same calls on the repository in memory. -/
def replyAll : List Call → Repository → List (Except RepositoryError OperationReceipt) × Repository
  | [], repository => ([], repository)
  | call :: calls, repository =>
    let (reply, next) := call.reply repository
    let (replies, last) := replyAll calls next
    (reply :: replies, last)

/-- A repository that is opened over a database reads it. -/
def Connection.opened (database : Database) : Connection :=
  Stateful.after (readTransaction (unfaulted none)) ⟨database, .empty⟩

/-- A call keeps its audit event readable. -/
def Call.Keeps (call : Call) (repository : Repository) : Prop :=
  letI := call.policy
  KeepsAudit repository call.operation

/-- Every append of the calls keeps its audit event readable, in the state in which it is called. -/
def KeepsAudits : List Call → Repository → Prop
  | [], _ => True
  | call :: calls, repository =>
    call.Keeps repository ∧ KeepsAudits calls (call.reply repository).2

/-! ## A call to its end -/

variable {repository : Repository} {connection : Connection} {call : Call}

omit [Hashing] [Integrity] [Serialization] in
/-- The factory makes the identity that the operation has. -/
theorem Call.draw_newId (call : Call) : call.draw call.operation.newId = call := by
  unfold Call.draw
  cases hoperation : call.operation <;> cases call <;> cases hoperation <;> rfl

omit [Hashing] [Integrity] [Serialization] in
theorem Call.exists_attempts (call : Call) : ∃ more, call.attempts = more + 1 := by
  unfold Call.attempts
  split
  · exact ⟨7, rfl⟩
  · exact ⟨0, rfl⟩

omit [Integrity] [Serialization] in
/-- Checks of two arguments raise what they raise before the rest of a method. -/
theorem error_of_checks {α β γ δ : Type} {x : Except RepositoryError α} {y : Except RepositoryError β}
    {f : α → β → RepositoryM γ} {g : γ → δ} {error : RepositoryError}
    (h : (do
      let _ ← x
      let _ ← y) = Except.error error) :
    (g <$> (do
      let a ← x
      let b ← y
      f a b : RepositoryM γ)) repository = .error error repository := by
  cases x with
  | error e =>
    cases h
    rfl
  | ok a =>
    cases y with
    | error e =>
      cases h
      rfl
    | ok b => cases h

/-- The operation raises what the checks of its arguments raise. -/
theorem Call.perform_of_precheck {error : RepositoryError} (h : call.precheck = .error error) :
    call.perform repository = .error error repository := by
  cases hoperation : call.operation with
  | appendRecordsIfHead operations expectedHead =>
    unfold Call.precheck at h
    unfold Call.perform
    rw [hoperation] at h ⊢
    exact error_of_checks h
  | recordSignalIfHead signal expectedHead =>
    unfold Call.precheck at h
    unfold Call.perform
    rw [hoperation] at h ⊢
    exact error_of_checks h
  | _ =>
    unfold Call.precheck at h
    rw [hoperation] at h
    cases h

omit [Serialization] in
/-- The version of a run in the database is that of the state that was read. -/
theorem Repository.Sound.version_eq (h : repository.Sound) (hholds : connection.database.Holds repository)
    {states : RunStates} (hstates : states.Describe repository) (runId : UUID4) :
    connection.database.version runId = states.version runId := by
  unfold Database.version RunStates.version
  rw [hholds runId, hstates runId]
  unfold Slot.stored
  cases hhead : (repository runId).slot.ledgerHead with
  | none =>
    unfold Slot.verified
    rw [hhead]
    rfl
  | some head =>
    obtain ⟨state, hstate, -, hstateHead⟩ :=
      (h.live.live runId).settled.toReplays.exists_verified hhead
    rw [hstate, Option.map_some, Option.map_some, Option.map_some, hstateHead]

section

variable {newId : Option UUID4} {phase phase' : Phase} {next : Connection} {fuel : ℕ}

theorem Phase.answer_continues
    (h : advance (unfaulted newId) connection phase = (.continues phase', next)) :
    phase.answer newId connection (fuel + 1) = phase'.answer newId next fuel := by
  rw [Phase.answer, h]

theorem Phase.answer_returns {call : Call} {receipt : OperationReceipt}
    (h : advance (unfaulted newId) connection phase = (.returns call receipt, next)) :
    phase.answer newId connection (fuel + 1) = some (.ok receipt, next) := by
  rw [Phase.answer, h]

theorem Phase.answer_raises {error : SqliteError}
    (h : advance (unfaulted newId) connection phase = (.raises error, next)) :
    phase.answer newId connection (fuel + 1) = some (.error error, next) := by
  rw [Phase.answer, h]

/-- A call at its engine whose operation raises raises the same, as no other client commits. -/
theorem Phase.answer_of_error (h : repository.Sound) (hserves : connection.Serves repository)
    {states : RunStates} (hstates : states.Describe repository) {attempts : ℕ} {error : RepositoryError}
    {after : Repository} (hperform : call.perform repository = .error error after) :
    (Phase.loaded call attempts repository states).answer call.operation.newId connection (fuel + 2)
      = some (.error (.repository error), connection) := by
  have hdraw : call.draw (unfaulted call.operation.newId).newId = call := call.draw_newId
  cases hretry : call.retryRunId with
  | none =>
    refine Phase.answer_raises ?_
    simp only [advance, hdraw, applyOperation, hperform, hretry]
  | some runId =>
    have hrefused : advance (unfaulted call.operation.newId) connection
        (.loaded call attempts repository states)
        = (.continues (.refused call attempts error runId (states.version runId)), connection) := by
      simp only [advance, hdraw, applyOperation, hperform, hretry]
    rw [Phase.answer_continues hrefused]
    refine Phase.answer_raises ?_
    have hversion := h.version_eq hserves.holds hstates runId
    simp only [advance, hversion, ne_eq, not_true_eq_false, if_false]
    exact if_neg Bool.false_ne_true

/-- A call at its engine whose operation returns commits what it led to. -/
theorem Phase.answer_of_ok (h : repository.Sound) (hserves : connection.Serves repository)
    {states : RunStates} (hstates : states.Describe repository) {attempts : ℕ}
    {receipt : OperationReceipt} {after : Repository}
    (hperform : call.perform repository = .ok receipt after)
    (hreads : ∀ id, AuditsReadBack (after id).slot.projection) :
    ∃ next, (Phase.loaded call attempts repository states).answer call.operation.newId connection (fuel + 2)
        = some (.ok receipt, next)
      ∧ after.Sound ∧ next.Serves after := by
  have hdraw : call.draw (unfaulted call.operation.newId).newId = call := call.draw_newId
  obtain ⟨candidate, base, runId, run, happly, hcomputed, rfl⟩ :=
    exists_applyOperation attempts h hstates hperform hreads
  obtain ⟨next, hcommit, hnext⟩ := hcomputed.exists_commit hserves call.operation.newId
  have happlied : advance (unfaulted call.operation.newId) connection
      (.loaded call attempts repository states)
      = (.continues (.applied call attempts receipt candidate base), connection) := by
    simp only [advance, hdraw, happly]
  have hreturns : advance (unfaulted call.operation.newId) connection
      (.applied call attempts receipt candidate base) = (.returns call receipt, next) := by
    simp only [advance, hcommit]
  refine ⟨next, ?_, (hcomputed.next h rfl).1, hnext⟩
  rw [Phase.answer_continues happlied]
  exact Phase.answer_returns hreturns

end

/-- A call that keeps its audit event readable is answered as the repository in memory replies, and the
database leads to that repository. -/
theorem Call.answer_eq (h : repository.Sound) (hserves : connection.Serves repository)
    (hkeeps : call.Keeps repository) :
    ∃ next, call.answer connection
        = some ((call.reply repository).1.mapError SqliteError.repository, next)
      ∧ (call.reply repository).2.Sound ∧ next.Serves (call.reply repository).2 := by
  unfold Call.answer
  cases hprecheck : call.precheck with
  | error error =>
    have hreply : call.reply repository = (.error error, repository) := by
      unfold Call.reply
      rw [Call.perform_of_precheck hprecheck]
    rw [hreply]
    exact ⟨connection, rfl, h, hserves⟩
  | ok _ =>
    obtain ⟨more, hmore⟩ := call.exists_attempts
    obtain ⟨states, middle, hload, hlooked, hstates⟩ := h.exists_callLoad hserves call call.operation.newId
    have hmiddle := hlooked.serves hserves
    have hfuel : 3 * call.attempts + 1 = 3 * more + 1 + 1 + 1 + 1 := by omega
    have hfirst : advance (unfaulted call.operation.newId) connection (.starting call call.attempts)
        = (.continues (.loaded call more repository states), middle) := by
      rw [hmore]
      simp only [advance, hload]
    rw [hfuel, Phase.answer_continues hfirst]
    cases hperform : call.perform repository with
    | error error after =>
      -- an operation that raises leaves the repository as it was
      have hafter : after = repository := by
        let _ := call.policy
        exact call.operation.perform_error h.live hperform
      have hreply : call.reply repository = (.error error, repository) := by
        unfold Call.reply
        rw [hperform, hafter]
      rw [hreply, Phase.answer_of_error h hmiddle hstates hperform]
      exact ⟨middle, rfl, h, hmiddle⟩
    | ok receipt after =>
      have hreads : ∀ id, AuditsReadBack (after id).slot.projection := by
        let _ := call.policy
        exact (call.operation.perform_readsBack h.live hkeeps h.reads).ok receipt after hperform
      have hreply : call.reply repository = (.ok receipt, after) := by
        unfold Call.reply
        rw [hperform]
      obtain ⟨next, hanswer, hsound, hnext⟩ := Phase.answer_of_ok h hmiddle hstates hperform hreads
      rw [hreply, hanswer]
      exact ⟨next, rfl, hsound, hnext⟩

/-! ## Runs of calls -/

theorem answerAll_eq {calls : List Call} (h : repository.Sound) (hserves : connection.Serves repository)
    (hkeeps : KeepsAudits calls repository) :
    ∃ last, answerAll calls connection
        = some ((replyAll calls repository).1.map (Except.mapError SqliteError.repository), last)
      ∧ (replyAll calls repository).2.Sound ∧ last.Serves (replyAll calls repository).2 := by
  induction calls generalizing repository connection with
  | nil => exact ⟨connection, rfl, h, hserves⟩
  | cons call calls ih =>
    obtain ⟨hfirst, hrest⟩ := hkeeps
    obtain ⟨next, hanswer, hsound, hnext⟩ := call.answer_eq h hserves hfirst
    obtain ⟨last, hanswers, hlater, hlast⟩ := ih hsound hnext hrest
    refine ⟨last, ?_, hlater, hlast⟩
    unfold answerAll
    rw [hanswer]
    simp only [Option.bind_eq_bind, Option.bind_some, hanswers]
    rfl

end SalienceGate

namespace SalienceGate

/-! ### A policy that makes a call fail

Two appends under one source identity: the second one records a collision. Under a policy that holds the
reason code of the audit event for a secret the repository in memory returns its receipt, and the SQLite
repository raises, as it cannot read the run back that it is about to commit. -/

section Collision

attribute [local instance] collisionHashing collisionIntegrity collisionSerialization

/-- The two appends, under a policy. -/
def collisionCalls (policy : Redactor) : List Call :=
  collisionOperations.map fun operation => { policy, operation }

end Collision

end SalienceGate
