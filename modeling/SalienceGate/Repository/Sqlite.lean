import SalienceGate.Lib.Runs
import SalienceGate.Repository.Operations

/-!
# The SQLite repository

Any number of repositories over one database. A call loads every run of the database into an engine
of its own, runs its operation there, and commits the run that the operation worked on if the head
of the run in the database is still the one that was loaded; what each repository read before is its
anchor for what it reads later. The database holds the committed ledgers with their heads: the
tables of the projection are derived from them, and no call reads them.

A transaction takes place at one moment, and so does each of the other steps of a call. An error of
the database, which may occur at any of its statements, is a part of the environment of a step.
-/

namespace SalienceGate

open Checked Stateful

variable [Hashing]

/-! ## The database -/

/-- What the SQLite repository raises. -/
inductive SqliteError where
  | repository (error : RepositoryError)
  | sqliteRepository
  | concurrentWrite

/-- `_VerifiedRunState`. -/
structure VerifiedRunState where
  runId : UUID4
  ledger : List LedgerEntry
  ledgerHead : LedgerHead
  projection : Projection
  digests : ProjectionDigests
deriving DecidableEq

/-- `_RunVersion`. -/
structure RunVersion where
  entryCount : ℕ
  algorithm : PayloadDigestAlgorithm
  headTag : Sha256Digest
deriving DecidableEq

omit [Hashing] in
/-- `_RunVersion.from_head`. -/
def RunVersion.fromHead (head : LedgerHead) : RunVersion :=
  ⟨head.entryCount, head.headTag.algorithm, head.headTag.value⟩

/-- The rows of a run: its ledger entries in the order of their positions, and its head. -/
structure StoredRun where
  entries : List LedgerEntry
  head : LedgerHead
deriving DecidableEq

/-- The committed rows, by run. -/
abbrev Database := Dict UUID4 StoredRun

/-- The ledger of a run in the database. -/
def Database.ledger (database : Database) (runId : UUID4) : List LedgerEntry :=
  (database.get? runId).elim [] StoredRun.entries

/-- `_database_version`, of rows that the repository wrote. -/
def Database.version (database : Database) (runId : UUID4) : Option RunVersion :=
  (database.get? runId).map fun stored => .fromHead stored.head

/-- The states that were read of the runs. -/
abbrev RunStates := Dict UUID4 VerifiedRunState

/-- The version of a run that was read. -/
def RunStates.version (states : RunStates) (runId : UUID4) : Option RunVersion :=
  (states.get? runId).map fun state => .fromHead state.ledgerHead

/-- A connection: the database as it sees it, and the anchors of its repository. -/
structure Connection where
  database : Database
  anchors : RunStates := .empty

/-- A method of a repository. -/
abbrev SqliteM := EStateM SqliteError Connection

/-- A computation that raises an error of the repository. -/
def checked {α : Type} (x : Except RepositoryError α) : Except SqliteError α :=
  x.mapError .repository

/-- A transaction that is rolled back on an error. What the repository remembers is kept. -/
def transaction {α : Type} (x : SqliteM α) : SqliteM α := fun connection =>
  match x connection with
  | .ok a next => .ok a next
  | .error e next => .error e { next with database := connection.database }

omit [Hashing] in
/-- The statements of a read of the whole database that fail. -/
structure ReadFaults where
  catalog : Bool := false
  entries : Bool := false

/-- What the environment does to a step: the statements that fail, and the identity that the identity
factory makes. -/
structure Environment where
  begins : Bool := false
  read : ReadFaults := {}
  insert : Bool := false
  readBack : ReadFaults := {}
  commit : Bool := false
  version : Bool := false
  newId : Option UUID4 := none

/-! ## Reading -/

variable [Integrity]

/-- `_replay_run`, with the state that it returns. -/
def replayState (entries : List LedgerEntry) (head : LedgerHead) :
    Except RepositoryError (VerifiedRunState × ReplayedRun) := do
  let replayed ← replayRun entries head
  pure ({
    runId := head.runId
    ledger := entries
    ledgerHead := head
    projection := replayed.projection
    digests := replayed.digests }, replayed)

/-- The rows of a run, which are replayed unless a trusted state describes them. -/
def readRun (trusted : Option VerifiedRunState) (stored : StoredRun) :
    Except RepositoryError VerifiedRunState :=
  match trusted with
  | some state =>
    if stored.entries = state.ledger ∧ stored.head = state.ledgerHead then pure state
    else Prod.fst <$> replayState stored.entries stored.head
  | none => Prod.fst <$> replayState stored.entries stored.head

omit [Integrity] in
/-- `sorted(run_ids, key=str)`, with the rows. -/
def sortedRuns (database : Database) : List (UUID4 × StoredRun) :=
  database.items.insertionSort fun a b => a.1.int.toNat ≤ b.1.int.toNat

/-- `_read_durable_catalog`. -/
def readCatalog (trusted : UUID4 → Option VerifiedRunState) (database : Database) :
    Except RepositoryError RunStates := do
  raiseIf (∃ stored ∈ database.values, stored.entries = [])
    (.digestVerification "durable run catalog")
  (sortedRuns database).foldlM
    (fun states item => do
      let state ← readRun (trusted item.1) item.2
      pure (states.set item.1 state))
    .empty

/-- A read of the whole database. -/
def readDurable (faults : ReadFaults) (trusted : UUID4 → Option VerifiedRunState) :
    SqliteM RunStates := do
  raiseIf (faults.catalog = true) (SqliteError.repository (.digestVerification "durable run catalog"))
  raiseIf (faults.entries = true) SqliteError.sqliteRepository
  let connection ← get
  checked (readCatalog trusted connection.database)

/-! ## Anchors -/

omit [Integrity] in
/-- The entries of a ledger begin with those of another. -/
def prefixMatches (base candidate : List LedgerEntry) : Bool :=
  decide (base.length ≤ candidate.length)
    && (base.zip candidate).all fun pair => decide (pair.1 = pair.2)

omit [Integrity] in
/-- The checks of a state that was read against the one that was read before. -/
def checkAnchor (trusted state : VerifiedRunState) : Except RepositoryError Unit := do
  raiseIf (state.ledger.length < trusted.ledger.length) (.digestVerification "durable ledger rollback")
  raiseIf (∃ pair ∈ trusted.ledger.zip state.ledger, pair.1 ≠ pair.2)
    (.digestVerification "durable ledger fork")
  raiseIf (state.ledger.length = trusted.ledger.length ∧ state.ledgerHead ≠ trusted.ledgerHead)
    (.digestVerification "durable ledger rollback")

omit [Integrity] in
/-- A round of `_check_and_remember_anchors`. -/
def rememberAnchor (item : UUID4 × VerifiedRunState) : SqliteM Unit := do
  let connection ← get
  checked (forM (connection.anchors.get? item.1).toList fun trusted => checkAnchor trusted item.2)
  modify fun connection => { connection with anchors := connection.anchors.set item.1 item.2 }

omit [Integrity] in
/-- `_check_and_remember_anchors`. -/
def checkAndRememberAnchors (states : RunStates) : SqliteM Unit := do
  let connection ← get
  checked (raiseIf (∃ runId ∈ connection.anchors.keys, runId ∉ states)
    (.digestVerification "durable ledger rollback"))
  forM states.items rememberAnchor

/-! ## Loading -/

/-- The run that a replay installs. -/
def RunState.restored (state : VerifiedRunState) (replayed : ReplayedRun) : RunState where
  slot := {
    runId := state.runId
    ledger := state.ledger
    ledgerHead := some state.ledgerHead
    projection := state.projection
    directRecords := replayed.directRecords
    cycleRecords := replayed.cycleRecords
    deliveryRecords := replayed.deliveryRecords
    collisionReceipts := replayed.collisionReceipts }
  trustedHead := some state.ledgerHead
  trustedProjection := some state.projection

/-- `_restore_run`. -/
def restoreRun (engine : Repository) (state : VerifiedRunState) :
    Except RepositoryError Repository := do
  let replayed ← replayState state.ledger state.ledgerHead
  raiseIf ((engine replayed.1.runId).isVacant = false
      ∨ (engine replayed.1.runId).hasTrustedState = true)
    (.projectionInvariant "durable run is already installed")
  pure (Function.update engine replayed.1.runId (.restored replayed.1 replayed.2))

/-- A round of `_install_replayed_runs`, with the replay of the read made again. -/
def installReplayedRun (engine : Repository) (item : UUID4 × VerifiedRunState) :
    Except RepositoryError Repository := do
  let replayed ← replayState item.2.ledger item.2.ledgerHead
  raiseIf (item.1 ≠ replayed.1.runId) (.digestVerification "batch replay target")
  pure (Function.update engine item.1 (.restored replayed.1 replayed.2))

/-- A read in a transaction of its own, which the repository remembers: `_read_transaction`. -/
def readTransaction (environment : Environment) : SqliteM RunStates := do
  let states ← transaction do
    raiseIf (environment.begins = true) SqliteError.sqliteRepository
    let states ← readDurable environment.read fun _ => none
    raiseIf (environment.commit = true) SqliteError.sqliteRepository
    pure states
  checkAndRememberAnchors states
  pure states

/-- `_load_engine`. -/
def loadEngine (environment : Environment) : SqliteM (Repository × RunStates) := do
  let states ← readTransaction environment
  let engine ← checked (states.values.foldlM restoreRun Repository.empty)
  pure (engine, states)

/-- `_load_batch_engine`. -/
def loadBatchEngine (environment : Environment) : SqliteM (Repository × RunStates) := do
  let states ← readTransaction environment
  let engine ← checked (states.items.foldlM installReplayedRun Repository.empty)
  pure (engine, states)

/-! ## Candidates -/

/-- The loop of `_verify_ledger`. -/
def verifyEntries (entries : List LedgerEntry) : Except RepositoryError Unit := do
  let _ ← entries.foldlM
    (fun (cursor : ℕ × Option PayloadDigest) entry => do
      verifyEntry entry (cursor.1 + 1) cursor.2
      pure (cursor.1 + 1, some entry.chainTag))
    (0, none)

/-- The digests of a slot, unless they fail to validate. -/
def candidateDigests (slot : Slot) : Except RepositoryError ProjectionDigests :=
  (projectionDigests slot.projection slot.ledger.length).mapError fun
    | .validation _ => .digestVerification "live projection"
    | error => error

/-- `_verified_state`. -/
def verifiedState (engine : Repository) (runId : UUID4) :
    Except RepositoryError VerifiedRunState := do
  let run := engine runId
  acquireSlot run
  verifyHead run
  verifyEntries run.slot.ledger
  let head ← expect run.slot.ledgerHead (.digestVerification "verified run state")
  let replayed ← replayState run.slot.ledger head
  let digests ← candidateDigests run.slot
  raiseIf (digests ≠ replayed.1.digests) (.digestVerification "live projection")
  pure replayed.1

/-- `_batch_candidate_state`. -/
def batchCandidateState (engine : Repository) (runId : UUID4) :
    Except RepositoryError VerifiedRunState := do
  let run := engine runId
  acquireSlot run
  verifyHead run
  let head ← expect run.slot.ledgerHead (.digestVerification "batch candidate")
  validateCompleteProjection run.slot.projection
  let digests ← projectionDigests run.slot.projection run.slot.ledger.length
  pure {
    runId
    ledger := run.slot.ledger
    ledgerHead := head
    projection := run.slot.projection
    digests }

/-- A round of `_authenticate_batch_candidate`. -/
def authenticateSuffixEntry (runId : UUID4) (cursor : ReplayCursor) (entry : LedgerEntry) :
    Except RepositoryError ReplayCursor := do
  raiseIf (entry.runId ≠ runId) (.digestVerification "batch candidate")
  authenticateEntry cursor entry

/-- Where the suffix of a candidate begins. -/
def candidateCursor (candidate : VerifiedRunState) : Option VerifiedRunState → ReplayCursor
  | none => (Replayed.start candidate.runId).toReplayCursor
  | some base => {
      position := base.ledger.length
      projection := base.projection
      previous := some base.ledgerHead.chainTag
      projectionTag := some base.ledgerHead.projectionTag
      directRecords := .empty }

/-- `_authenticate_batch_candidate`, of a candidate with a suffix. -/
def authenticateSuffix (candidate : VerifiedRunState) (base : Option VerifiedRunState) :
    Except RepositoryError Unit := do
  let invalid : RepositoryError := .digestVerification "batch candidate"
  let start := candidateCursor candidate base
  let cursor ← (candidate.ledger.drop start.position).foldlM
    (authenticateSuffixEntry candidate.runId) start
  let head := candidate.ledgerHead
  raiseIf (head.runId ≠ candidate.runId ∨ head.entryCount ≠ candidate.ledger.length
      ∨ some head.chainTag ≠ cursor.previous ∨ some head.projectionTag ≠ cursor.projectionTag
      ∨ head.headTag ≠ headTag head.runId head.entryCount head.chainTag head.projectionTag)
    invalid
  validateCompleteProjection cursor.projection
  let digests ← projectionDigests cursor.projection candidate.ledger.length
  raiseIf (cursor.projection ≠ candidate.projection ∨ digests ≠ candidate.digests) invalid

/-- `_authenticate_batch_candidate`. -/
def authenticateBatchCandidate (candidate : VerifiedRunState) (base : Option VerifiedRunState) :
    Except RepositoryError Unit := do
  raiseIf (∃ state ∈ base, prefixMatches state.ledger candidate.ledger = false)
    (.digestVerification "candidate ledger fork")
  raiseIf (∃ state ∈ base, candidate.runId ≠ state.runId)
    (.digestVerification "candidate ledger fork")
  if candidate.ledger.drop (base.elim [] VerifiedRunState.ledger).length = [] then
    raiseIf (base ≠ some candidate) (.digestVerification "batch candidate")
  else authenticateSuffix candidate base

/-! ## Committing -/

/-- The check of `_projection_sources`, which writing the tables of the projection begins with. -/
def checkProjectionSources (state : VerifiedRunState) : Except RepositoryError Unit := do
  let projected ← state.ledger.foldlM applyEntry (emptyProjection state.runId)
  raiseIf (projected ≠ state.projection) (.digestVerification "durable projection materialization")

omit [Integrity] in
/-- The rows of a run with the suffix of a candidate, and its head. -/
def Database.write (database : Database) (candidate : VerifiedRunState)
    (base : Option VerifiedRunState) : Database :=
  let suffix := candidate.ledger.drop (base.elim [] VerifiedRunState.ledger).length
  database.set candidate.runId
    ⟨database.ledger candidate.runId ++ suffix, candidate.ledgerHead⟩

omit [Integrity] in
/-- What a committed state of a run is compared by. -/
def VerifiedRunState.signature (state : VerifiedRunState) :
    List LedgerEntry × LedgerHead × ProjectionDigests :=
  (state.ledger, state.ledgerHead, state.digests)

omit [Integrity] in
/-- The check of what was written against what was expected. -/
def checkPersisted (persisted expected : RunStates) : Except RepositoryError Unit :=
  raiseIf ((∃ runId ∈ expected.keys, runId ∉ persisted)
      ∨ ∃ item ∈ persisted.items,
        (expected.get? item.1).map VerifiedRunState.signature ≠ some item.2.signature)
    (.digestVerification "post-write durable ledger")

/-- The writes of a commit, with the states that are read back: the rows of a new run or the suffix
of a run that is there, and the head. -/
def writeCandidate (environment : Environment) (candidate : VerifiedRunState)
    (base : Option VerifiedRunState) (current : RunStates) (trustExpected : Bool) :
    SqliteM RunStates := do
  checked (raiseIf (base = none ∧ candidate.projection.eventsBySequence.get? 1 = none)
    (.digestVerification "candidate run origin"))
  let connection ← get
  raiseIf (environment.insert = true ∨ base = none ∧ candidate.runId ∈ connection.database)
    SqliteError.sqliteRepository
  modify fun connection =>
    { connection with database := connection.database.write candidate base }
  checked (checkProjectionSources candidate)
  let expected := current.set candidate.runId candidate
  let persisted ← readDurable environment.readBack
    fun runId => if trustExpected then expected.get? runId else none
  checked (checkPersisted persisted expected)
  raiseIf (environment.commit = true) SqliteError.sqliteRepository
  pure persisted

omit [Integrity] in
/-- The comparison of `_commit_candidate` after the versions: of the run that is there with the one
that was loaded. -/
def checkFork (current base : Option VerifiedRunState) : Except RepositoryError Unit :=
  raiseIf (∃ state ∈ base, ∀ found ∈ current, found.ledgerHead ≠ state.ledgerHead
      ∨ prefixMatches state.ledger found.ledger = false
      ∨ found.ledger.length ≠ state.ledger.length)
    (.digestVerification "concurrent ledger fork")

/-- The transaction of `_commit_candidate`: nothing, if the run has another version. -/
def commitTransaction (environment : Environment) (candidate : VerifiedRunState)
    (base : Option VerifiedRunState) : SqliteM (Option RunStates) := transaction do
  raiseIf (environment.begins = true) SqliteError.sqliteRepository
  let current ← readDurable environment.read fun _ => none
  checkAndRememberAnchors current
  let found := current.get? candidate.runId
  if found.map (fun state => RunVersion.fromHead state.ledgerHead)
      ≠ base.map fun state => RunVersion.fromHead state.ledgerHead then pure none
  else do
    checked (checkFork found base)
    some <$> writeCandidate environment candidate base current false

/-- The transaction of `_commit_batch_candidate`: nothing, if the run is another one. -/
def commitBatchTransaction (environment : Environment) (candidate : VerifiedRunState)
    (base : Option VerifiedRunState) : SqliteM (Option RunStates) := transaction do
  raiseIf (environment.begins = true) SqliteError.sqliteRepository
  let anchors := (← get).anchors
  let current ← readDurable environment.read anchors.get?
  checkAndRememberAnchors current
  let found := current.get? candidate.runId
  if found.map (fun state => (state.ledger, state.ledgerHead))
      ≠ base.map fun state => (state.ledger, state.ledgerHead) then pure none
  else some <$> writeCandidate environment candidate base current true

/-- A commit remembers what it read back, and returns whether it took place. -/
def rememberCommitted : Option RunStates → SqliteM Bool
  | none => pure false
  | some persisted => do
    checkAndRememberAnchors persisted
    pure true

/-- `_commit_candidate`. -/
def commitCandidate (environment : Environment) (candidate : VerifiedRunState)
    (base : Option VerifiedRunState) : SqliteM Bool := do
  checked (raiseIf (∃ state ∈ base, prefixMatches state.ledger candidate.ledger = false)
    (.digestVerification "candidate ledger fork"))
  let committed ← commitTransaction environment candidate base
  rememberCommitted committed

/-- `_commit_batch_candidate`. -/
def commitBatchCandidate (environment : Environment) (candidate : VerifiedRunState)
    (base : Option VerifiedRunState) : SqliteM Bool := do
  checked (authenticateBatchCandidate candidate base)
  let committed ← commitBatchTransaction environment candidate base
  rememberCommitted committed

/-! ## Calls -/

variable [Serialization]

/-- A call of an operation. `runIdAttribute` is the version-4 identity that `getattr` finds under
`run_id` on an argument that is not a valid one. -/
structure Call where
  policy : Redactor
  operation : Operation
  runIdAttribute : Option UUID4 := none

/-- How an operation is committed. -/
inductive CommitMode where
  | mutate | ifHead | batch
deriving DecidableEq

omit [Integrity] [Serialization] in
/-- The method that an operation goes through: `_mutate`, `_mutate_if_head`, or that of a batch. -/
def Operation.mode : Operation → CommitMode
  | .appendEventIfHead .. | .recordSignalIfHead .. => .ifHead
  | .appendRecordsIfHead .. => .batch
  | _ => .mutate

omit [Integrity] [Serialization] in
/-- The operation with the identity that the factory makes. -/
def Operation.draw (newId : Option UUID4) : Operation → Operation
  | .append event eventId _ => .append event eventId newId
  | operation => operation

omit [Hashing] [Integrity] [Serialization] in
/-- `_retry_run_id`, of an argument. -/
def Argument.retryRunId {α : Type} (run : α → UUID4) (runIdAttribute : Option UUID4) :
    Argument α → Option UUID4
  | .exact value => some (run value)
  | .foreign | .malformed => runIdAttribute

omit [Integrity] [Serialization] in
/-- `retry_run_id`: the run whose version decides whether a failed call is made again. -/
def Call.retryRunId (call : Call) : Option UUID4 :=
  match call.operation with
  | .append event _ _ => event.retryRunId (fun draft => draft.runId) call.runIdAttribute
  | .recordSignal signal => signal.retryRunId (·.runId) call.runIdAttribute
  | .recordInvocationDecision decision => decision.retryRunId (·.runId) call.runIdAttribute
  | .recordOutcome outcome => outcome.retryRunId (·.runId) call.runIdAttribute
  | .beginCycle command => command.retryRunId (·.runId) call.runIdAttribute
  | .reserveCycle command => command.retryRunId (·.runId) call.runIdAttribute
  | .markCycleRunning command => command.retryRunId (·.runId) call.runIdAttribute
  | .commitCycle command => command.retryRunId (·.runId) call.runIdAttribute
  | .failCycle command => command.retryRunId (·.runId) call.runIdAttribute
  | .claimDelivery command => command.retryRunId (·.runId) call.runIdAttribute
  | .beginDeliveryAttempt command => command.retryRunId (·.runId) call.runIdAttribute
  | .completeDelivery command => command.retryRunId (·.runId) call.runIdAttribute
  | .markDeliveryUnknown command => command.retryRunId (·.runId) call.runIdAttribute
  | .rejectDelivery command => command.retryRunId (·.runId) call.runIdAttribute
  | .recoverCycles runId _ | .recoverDeliveries runId _ | .rebuild runId =>
    runId.retryRunId id none
  | .appendEventIfHead .. | .recordSignalIfHead .. | .appendRecordsIfHead .. => none

/-- `result_run_id`: the run that is committed. -/
def Operation.resultRunId (operation : Operation) (receipt : OperationReceipt) : Option UUID4 :=
  match operation, receipt with
  | .recordSignal (.exact signal), _ => some signal.runId
  | .recordInvocationDecision (.exact decision), _ => some decision.runId
  | .recordOutcome (.exact outcome), _ => some outcome.runId
  | .recordSignalIfHead _ (.exact head), _ => some head.runId
  | _, .event receipt => some receipt.event.runId
  | _, .batch receipt => some receipt.finalHead.runId
  | _, .cycle receipt => some receipt.cycle.runId
  | _, .cycleRecovery receipt => some receipt.runId
  | _, .delivery receipt => some receipt.delivery.runId
  | _, .attempt receipt => some receipt.delivery.runId
  | _, .deliveryRecovery receipt => some receipt.runId
  | _, .rebuilt receipt => some receipt.runId
  | _, .direct _ => none

/-- The checks of the arguments that precede the lock. -/
def Call.precheck (call : Call) : Except RepositoryError Unit :=
  letI := call.policy
  match call.operation with
  | .appendRecordsIfHead operations expectedHead => do
    let _ ← prepareConditionalBatch operations
    let _ ← copyOptionalHead expectedHead
  | .recordSignalIfHead signal expectedHead => do
    let _ ← validateCommand "signal" signal
    let _ ← copyExpectedHead expectedHead
  | _ => pure ()

/-- The operation of a call, on an engine with the policy of its repository. -/
def Call.perform (call : Call) : RepositoryM OperationReceipt :=
  letI := call.policy
  call.operation.perform

/-- The call with the identity that the factory makes. -/
def Call.draw (call : Call) (newId : Option UUID4) : Call :=
  { call with operation := call.operation.draw newId }

/-- The engine of a call, with the states that it was loaded from. -/
def Call.load (call : Call) (environment : Environment) : SqliteM (Repository × RunStates) :=
  if call.operation.mode = .batch then loadBatchEngine environment else loadEngine environment

/-- The state that a call commits. -/
def Call.candidate (call : Call) (engine : Repository) (runId : UUID4) :
    Except RepositoryError VerifiedRunState :=
  if call.operation.mode = .batch then batchCandidateState engine runId
  else verifiedState engine runId

/-- The commit of a call. -/
def Call.commit (call : Call) (environment : Environment) (candidate : VerifiedRunState)
    (base : Option VerifiedRunState) : SqliteM Bool :=
  if call.operation.mode = .batch then commitBatchCandidate environment candidate base
  else commitCandidate environment candidate base

/-- `_MAX_CAS_ATTEMPTS`, or the only attempt of a conditional call. -/
def Call.attempts (call : Call) : ℕ := if call.operation.mode = .mutate then 8 else 1

/-- Where a call is: before a load, with `attempts` attempts to go, the present one among them; after
the load; after an error of the engine; and before the commit. -/
inductive Phase where
  | starting (call : Call) (attempts : ℕ)
  | loaded (call : Call) (attempts : ℕ) (engine : Repository) (states : RunStates)
  | refused (call : Call) (attempts : ℕ) (error : RepositoryError) (runId : UUID4)
      (before : Option RunVersion)
  | applied (call : Call) (attempts : ℕ) (receipt : OperationReceipt)
      (candidate : VerifiedRunState) (base : Option VerifiedRunState)

/-- What a step of a call comes to. -/
inductive Outcome where
  | continues (phase : Phase)
  | returns (call : Call) (receipt : OperationReceipt)
  | raises (error : SqliteError)

/-- The operation of a call on its engine, with the state to commit. -/
def applyOperation (call : Call) (attempts : ℕ) (engine : Repository) (states : RunStates) :
    Outcome :=
  match call.perform engine with
  | .error error _ =>
    match call.retryRunId with
    | none => .raises (.repository error)
    | some runId => .continues (.refused call attempts error runId (states.version runId))
  | .ok receipt engine =>
    match call.operation.resultRunId receipt with
    | none => .raises (.repository .invalidRunId)
    | some runId =>
      match call.candidate engine runId with
      | .error error => .raises (.repository error)
      | .ok candidate =>
        .continues (.applied call attempts receipt candidate (states.get? runId))

/-- A commit that found another version: the next attempt, or a conflict. -/
def Call.lostRace (call : Call) (attempts : ℕ) : Outcome :=
  if call.operation.mode = .mutate then .continues (.starting call attempts)
  else .raises (.repository .ledgerHeadConflict)

/-- A step of a call, with the connection after it. -/
def advance (environment : Environment) (connection : Connection) : Phase → Outcome × Connection
  | .starting _ 0 => (.raises .concurrentWrite, connection)
  | .starting call (attempts + 1) =>
    match call.load environment connection with
    | .ok (engine, states) next => (.continues (.loaded call attempts engine states), next)
    | .error error next => (.raises error, next)
  | .loaded call attempts engine states =>
    (applyOperation (call.draw environment.newId) attempts engine states, connection)
  | .refused call attempts error runId before =>
    if environment.version = true then (.raises .sqliteRepository, connection)
    else if connection.database.version runId ≠ before then
      (.continues (.starting call attempts), connection)
    else (.raises (.repository error), connection)
  | .applied call attempts receipt candidate base =>
    match call.commit environment candidate base connection with
    | .ok true next => (.returns call receipt, next)
    | .ok false next => (call.lostRace attempts, next)
    | .error error next => (.raises error, next)

/-! ## Any number of repositories -/

/-- A repository: what it remembers, and its call, if it is at one. Its lock admits one at a time. -/
structure Instance where
  anchors : RunStates := .empty
  call : Option Phase := none

/-- The repositories over one database. -/
structure System (ι : Type) where
  database : Database
  instances : ι → Instance

/-- What happens in a step. A call that commits is answered, unless its repository is stopped before
it returns. -/
inductive Event (ι : Type) where
  | opened (i : ι)
  | called (i : ι) (call : Call)
  | continued (i : ι)
  | committed (i : ι) (call : Call) (receipt : OperationReceipt) (answered : Bool)
  | raised (i : ι) (error : SqliteError)
  | read (i : ι)
  | stopped (i : ι)

section

variable {ι : Type} [DecidableEq ι]

/-- No run is stored, and no repository is at a call. -/
def System.initial : System ι where
  database := .empty
  instances _ := {}

/-- The connection of a repository. -/
def System.connection (system : System ι) (i : ι) : Connection where
  database := system.database
  anchors := (system.instances i).anchors

/-- The system after a step of a repository. -/
def System.after (system : System ι) (i : ι) (connection : Connection) (call : Option Phase) :
    System ι where
  database := connection.database
  instances := Function.update system.instances i { anchors := connection.anchors, call }

/-- A step of the system, of one of its repositories. -/
inductive Step : System ι → Event ι → System ι → Prop where
  /-- A repository is opened, again if need be: it remembers what it reads. -/
  | opened (s : System ι) (i : ι) (environment : Environment) (states : RunStates)
      (next : Connection) (h : readTransaction environment ⟨s.database, .empty⟩ = .ok states next) :
      Step s (.opened i) (s.after i next none)
  /-- A call passes the checks of its arguments. -/
  | called (s : System ι) (i : ι) (call : Call) (idle : (s.instances i).call = none)
      (h : call.precheck = .ok ()) :
      Step s (.called i call) (s.after i (s.connection i) (some (.starting call call.attempts)))
  /-- A call fails the checks of its arguments. -/
  | refused (s : System ι) (i : ι) (call : Call) (idle : (s.instances i).call = none)
      (error : RepositoryError) (h : call.precheck = .error error) :
      Step s (.raised i (.repository error)) s
  /-- A call goes on. -/
  | continued (s : System ι) (i : ι) (phase phase' : Phase) (environment : Environment)
      (next : Connection) (call_eq : (s.instances i).call = some phase)
      (h : advance environment (s.connection i) phase = (.continues phase', next)) :
      Step s (.continued i) (s.after i next (some phase'))
  /-- A call commits. -/
  | committed (s : System ι) (i : ι) (phase : Phase) (environment : Environment)
      (next : Connection) (call : Call) (receipt : OperationReceipt) (answered : Bool)
      (call_eq : (s.instances i).call = some phase)
      (h : advance environment (s.connection i) phase = (.returns call receipt, next)) :
      Step s (.committed i call receipt answered) (s.after i next none)
  /-- A call raises. -/
  | raised (s : System ι) (i : ι) (phase : Phase) (environment : Environment) (next : Connection)
      (error : SqliteError) (call_eq : (s.instances i).call = some phase)
      (h : advance environment (s.connection i) phase = (.raises error, next)) :
      Step s (.raised i error) (s.after i next none)
  /-- A query loads an engine: only what the repository remembers changes. -/
  | read (s : System ι) (i : ι) (environment : Environment) (idle : (s.instances i).call = none) :
      Step s (.read i) (s.after i (Stateful.after (loadEngine environment) (s.connection i)) none)
  /-- A call is given up. -/
  | stopped (s : System ι) (i : ι) : Step s (.stopped i) (s.after i (s.connection i) none)

end

end SalienceGate
