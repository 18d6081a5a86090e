import SalienceGate.Repository.Equivalence
import SalienceGate.Repository.SqliteSteps

/-!
# What a repository commits

A call computes the state that it commits from the engine that it loaded, and from one run of it
alone. Its commit takes place only if the run in the database is the one that was loaded; the
operation does the same on the engine of the database then, and the rows that are written are those
of the run that it leads to.
-/

namespace SalienceGate

open Checked
open Stateful hiding bind_eq_ok check_bind_eq_ok raiseIf_bind_eq_ok expect_bind_eq_ok

variable [Hashing] [Integrity]

/-! ## Older engines -/

/-- Every run of an engine grew to that of another one. -/
def Repository.Older (old repository : Repository) : Prop :=
  ∀ runId, Relation.ReflTransGen Stores (old runId).slot (repository runId).slot

variable {old repository later : Repository} {runId : UUID4} {run : RunState}

theorem Repository.Older.refl (repository : Repository) : repository.Older repository :=
  fun _ => .refl

theorem Repository.Older.trans (h : old.Older repository) (h' : repository.Older later) :
    old.Older later := fun runId => (h runId).trans (h' runId)

/-- Two engines, one of which is older, have the same run if the state of the later one is not longer
than that of the older one. -/
theorem Repository.Older.run_eq (h : old.Older repository) (hold : old.Sound)
    (hrepository : repository.Sound)
    (hlength : ∀ found, (repository runId).slot.verified = some found →
      ∃ base, (old runId).slot.verified = some base ∧ found.ledger.length ≤ base.ledger.length) :
    repository runId = old runId := by
  have hledger : (repository runId).slot.ledger.length ≤ (old runId).slot.ledger.length := by
    cases hhead : (repository runId).slot.ledgerHead with
    | none =>
      have hvacant := (hrepository.live.live runId).settled.vacant.mp hhead
      rw [hvacant]
      exact Nat.zero_le _
    | some head =>
      obtain ⟨found, hfound, hledger, -⟩ :=
        (hrepository.live.live runId).settled.toReplays.exists_verified hhead
      obtain ⟨base, hbase, hle⟩ := hlength found hfound
      obtain ⟨_, _, -, -, rfl⟩ := Slot.verified_eq_some.mp hbase
      rwa [hledger] at hle
  exact (hrepository.live.live runId).eq_of_slot (hold.live.live runId)
    (eq_of_length_le (h runId) hledger)

/-! ## Candidates -/

/-- A state of a run that is read back. -/
structure IsCandidate (run : RunState) (candidate : VerifiedRunState) : Prop where
  verified : run.slot.verified = some candidate
  reads : AuditsReadBack run.slot.projection

/-- What a replay of a live run returns is its state. -/
theorem verifiedState_eq_ok (hlive : (repository runId).Live) {candidate : VerifiedRunState}
    (h : verifiedState repository runId = .ok candidate) :
    IsCandidate (repository runId) candidate := by
  unfold verifiedState at h
  obtain ⟨-, hverify⟩ := check_bind_eq_ok.mp h
  obtain ⟨-, hentries⟩ := check_bind_eq_ok.mp hverify
  obtain ⟨-, hexpect⟩ := check_bind_eq_ok.mp hentries
  obtain ⟨head, hhead, hreplay⟩ := expect_bind_eq_ok.mp hexpect
  obtain ⟨⟨state, replayed⟩, hstate, hdigests⟩ := bind_eq_ok.mp hreplay
  obtain ⟨_, -, hcompare⟩ := bind_eq_ok.mp hdigests
  obtain ⟨-, hpure⟩ := raiseIf_bind_eq_ok.mp hcompare
  cases pure_eq_ok.mp hpure
  unfold replayState at hstate
  obtain ⟨found, hfound, hpair⟩ := bind_eq_ok.mp hstate
  obtain ⟨hread, digests, hprojected, rfl⟩ := (replayRun_eq_ok hlive.settled hhead).mp hfound
  have hrun := (hlive.settled.sealed head hhead).1
  cases pure_eq_ok.mp hpair
  refine ⟨Slot.verified_eq_some.mpr ⟨head, digests, hhead, hprojected, ?_⟩, hread⟩
  rw [hrun]
  rfl

/-- What a batch commits is the state of its run. -/
theorem batchCandidateState_eq_ok (hrun : (repository runId).slot.runId = runId)
    {candidate : VerifiedRunState} (h : batchCandidateState repository runId = .ok candidate) :
    (repository runId).slot.verified = some candidate := by
  unfold batchCandidateState at h
  obtain ⟨-, hverify⟩ := check_bind_eq_ok.mp h
  obtain ⟨-, hexpect⟩ := check_bind_eq_ok.mp hverify
  obtain ⟨head, hhead, hcomplete⟩ := expect_bind_eq_ok.mp hexpect
  obtain ⟨-, hbind⟩ := check_bind_eq_ok.mp hcomplete
  obtain ⟨digests, hdigests, hpure⟩ := bind_eq_ok.mp hbind
  cases pure_eq_ok.mp hpure
  refine Slot.verified_eq_some.mpr ⟨head, digests, hhead, hdigests, ?_⟩
  rw [hrun]

/-! ## Computed commits -/

/-- The engine with a run in the place of the one that is there. -/
def Repository.set (repository : Repository) (runId : UUID4) (run : RunState) : Repository :=
  Function.update repository runId run

omit [Integrity] in
@[simp] theorem Repository.set_self : repository.set runId run runId = run := Function.update_self ..

omit [Integrity] in
theorem Repository.set_of_ne {id : UUID4} (h : id ≠ runId) : repository.set runId run id = repository id :=
  Function.update_of_ne h ..

variable [Serialization]

/-- What a call has to commit was computed from an engine: its operation does the same on every
engine with the run, and the state to commit is that of the run after it. -/
structure Call.Computed (call : Call) (receipt : OperationReceipt) (candidate : VerifiedRunState)
    (base : Option VerifiedRunState) (old : Repository) (runId : UUID4) (run : RunState) : Prop where
  sound : old.Sound
  performs : ∀ other : Repository, other runId = old runId →
    call.perform other = .ok receipt (other.set runId run)
  candidate : IsCandidate run candidate
  base : base = (old runId).slot.verified

variable {call : Call} {receipt : OperationReceipt} {candidate : VerifiedRunState}
  {base : Option VerifiedRunState}

/-- The operation of a call continues every run. -/
theorem Call.perform_grows (hlive : repository.Live)
    (h : call.perform repository = .ok receipt later) : later.Live ∧ repository.Older later := by
  let _ := call.policy
  have hcontinued := (call.operation.perform_continued hlive).ok receipt later h
  refine ⟨hlive.continued hcontinued, fun runId => ?_⟩
  have hslot := (hcontinued runId).slot
  generalize (later runId).slot = slot at hslot
  induction hslot with
  | refl => exact .refl
  | tail _ hgrows ih => exact ih.trans hgrows.stores

/-- The operation of a call on an engine with the run leads to an engine again. -/
theorem Call.Computed.next (h : call.Computed receipt candidate base old runId run)
    (hrepository : repository.Sound) (hrun : repository runId = old runId) :
    (repository.set runId run).Sound
      ∧ repository.Older (repository.set runId run) := by
  obtain ⟨hlive, holder⟩ := Call.perform_grows hrepository.live (h.performs repository hrun)
  refine ⟨⟨hlive, fun id => ?_, fun id => (hrepository.grown id).trans (holder id)⟩, holder⟩
  by_cases hid : id = runId
  · rw [hid, Repository.set_self]
    exact h.candidate.reads
  · rw [Repository.set_of_ne hid]
    exact hrepository.reads id

/-- The state to commit is of the run. -/
theorem Call.Computed.candidate_runId (h : call.Computed receipt candidate base old runId run) :
    candidate.runId = runId := by
  obtain ⟨hnext, -⟩ := h.next h.sound rfl
  refine hnext.verified_runId ?_
  rw [Repository.set_self]
  exact h.candidate.verified

/-- The state to commit begins with the ledger that it was computed from. -/
theorem Call.Computed.ledger_extends (h : call.Computed receipt candidate base old runId run) :
    (old runId).slot.ledger <+: candidate.ledger := by
  obtain ⟨-, holder⟩ := h.next h.sound rfl
  have hrun := holder runId
  rw [Repository.set_self] at hrun
  obtain ⟨_, _, -, -, rfl⟩ := Slot.verified_eq_some.mp h.candidate.verified
  exact SalienceGate.ledger_extends hrun

/-- What a call computes from an engine that it loaded. -/
theorem applyOperation_cases {attempts : ℕ} {states : RunStates} (hold : old.Sound)
    (hstates : states.Describe old) :
    (∃ error, applyOperation call attempts old states = .raises error)
    ∨ (∃ error runId before, applyOperation call attempts old states
        = .continues (.refused call attempts error runId before))
    ∨ ∃ receipt candidate base runId run, applyOperation call attempts old states
        = .continues (.applied call attempts receipt candidate base)
      ∧ call.Computed receipt candidate base old runId run := by
  unfold applyOperation
  cases hperform : call.perform old with
  | error error next =>
    simp only
    split
    · exact .inl ⟨_, rfl⟩
    · exact .inr (.inl ⟨_, _, _, rfl⟩)
  | ok made next =>
    let _ := call.policy
    obtain ⟨runId, hworks⟩ := Operation.perform_worksOn hold.live hperform
    obtain ⟨hlive, -⟩ := Call.perform_grows hold.live hperform
    simp only [hworks.result]
    cases hfound : call.candidate next runId with
    | error error => exact .inl ⟨_, rfl⟩
    | ok found =>
      refine .inr (.inr ⟨made, found, _, runId, next runId, rfl, hold, hworks.elsewhere, ?_,
        hstates runId⟩)
      unfold Call.candidate at hfound
      split at hfound
      · next hbatch =>
        refine ⟨batchCandidateState_eq_ok (hlive.runId runId) hfound, ?_⟩
        -- a batch records no source collision
        have hoperation : call.operation.isAppend = false := by
          cases hop : call.operation <;> simp_all [Operation.mode, Operation.isAppend]
        have hextended := (Operation.perform_extended hold.live hoperation).ok made next hperform
        exact (hextended runId).readsBack (hold.live.live runId) (hold.reads runId)
      · exact verifiedState_eq_ok (hlive.live runId) hfound

/-! ## Writing -/

variable {connection next : Connection} {environment : Environment} {current : RunStates}

/-- Writing what was computed from the run leads to a database that holds the run after it. -/
theorem Call.Computed.write_holds (h : call.Computed receipt candidate base old runId run)
    (hrepository : repository.Sound) {database : Database} (hholds : database.Holds repository)
    (hrun : repository runId = old runId) :
    (database.write candidate base).Holds (repository.set runId run) := by
  have hbase : base.elim [] VerifiedRunState.ledger = (old runId).slot.ledger := by
    rw [h.base]
    exact h.sound.verified_ledger runId
  have hledger : database.ledger runId = (old runId).slot.ledger := by
    rw [hrepository.ledger_eq hholds, hrun]
  -- the suffix of the ledger is written after the ledger that it was computed from
  have hrows : database.ledger runId
      ++ candidate.ledger.drop (base.elim [] VerifiedRunState.ledger).length = candidate.ledger := by
    rw [hledger, hbase]
    exact List.prefix_iff_eq_append.mp h.ledger_extends
  intro id
  unfold Database.write
  simp only [h.candidate_runId, hrows]
  by_cases hid : id = runId
  · obtain ⟨head, digests, hhead, -, rfl⟩ := Slot.verified_eq_some.mp h.candidate.verified
    rw [hid, Dict.get?_set_self, Repository.set_self]
    unfold Slot.stored
    rw [hhead]
    rfl
  · rw [Dict.get?_set_of_ne hid, Repository.set_of_ne hid]
    exact hholds id

omit [Serialization] in
/-- Writing does not change what is remembered. -/
theorem writeCandidate_anchors {trustExpected : Bool} :
    EndsIn (writeCandidate environment candidate base current trustExpected) connection
      fun next => next.anchors = connection.anchors := by
  unfold writeCandidate
  refine .lift_bind rfl fun _ _ => .get_bind (.lift_bind rfl fun _ _ => ?_)
  refine .bind (fun e t herror => by cases herror) fun _ t hwrite => ?_
  cases hwrite
  refine .lift_bind rfl fun _ _ => .bind (fun e t herror => ?_) fun persisted t hread => ?_
  · rw [atomic_readDurable herror]
  · rw [readDurable_ok hread]
    exact .lift_bind rfl fun _ _ => .lift_bind rfl fun _ _ => .pure rfl

/-- A write that returns leaves the run that the operation leads to in the database, and returns the
states of the runs. -/
theorem Call.Computed.writeCandidate_eq_ok (h : call.Computed receipt candidate base old runId run)
    (hrepository : repository.Sound) (hholds : connection.database.Holds repository)
    (hcurrent : current.Describe repository) (hrun : repository runId = old runId)
    {trustExpected : Bool} {persisted : RunStates}
    (hwrite : writeCandidate environment candidate base current trustExpected connection
      = .ok persisted next) :
    next.database.Holds (repository.set runId run)
      ∧ persisted.Describe (repository.set runId run) := by
  obtain ⟨hnext, holder⟩ := h.next hrepository hrun
  have hwritten := h.write_holds hrepository hholds hrun
  unfold writeCandidate at hwrite
  obtain ⟨-, hget⟩ := Stateful.check_bind_eq_ok.mp hwrite
  rw [get_bind] at hget
  obtain ⟨-, hmodify⟩ := Stateful.raiseIf_bind_eq_ok.mp hget
  rw [modify_bind] at hmodify
  obtain ⟨-, hread⟩ := Stateful.check_bind_eq_ok.mp hmodify
  obtain ⟨states, middle, hdurable, hcompare⟩ := Stateful.bind_eq_ok.mp hread
  obtain ⟨-, hcommit⟩ := Stateful.check_bind_eq_ok.mp hcompare
  obtain ⟨-, hpure⟩ := Stateful.raiseIf_bind_eq_ok.mp hcommit
  cases hpure
  -- the states that are trusted are those that were read, and the one that was written
  have htrusted : ∀ id, ∀ state ∈ (if trustExpected = true then
      (current.set candidate.runId candidate).get? id else none),
      (repository.set runId run id).slot.Had state := by
    intro id state hstate
    split at hstate
    · rcases Dict.get?_set_eq_some.mp hstate with ⟨rfl, rfl⟩ | ⟨-, hother⟩
      · rw [h.candidate_runId, Repository.set_self]
        exact Slot.had_of_verified h.candidate.verified
      · rw [hcurrent id] at hother
        exact (Slot.had_of_verified hother).grows (holder id)
    · cases hstate
  obtain ⟨rfl, hdescribe⟩ := hnext.readDurable_eq_ok hwritten htrusted hdurable
  exact ⟨hwritten, hdescribe⟩

/-! ## Committing -/

/-- A commit that took place: the run was the one that the commit was computed from, and the database
holds the run that the operation leads to. -/
structure Committed (repository old : Repository) (runId : UUID4) (run : RunState)
    (persisted : RunStates) (next : Connection) : Prop where
  run_eq : repository runId = old runId
  holds : next.database.Holds (repository.set runId run)
  anchors : next.anchors.Anchor repository
  persisted : persisted.Describe (repository.set runId run)

/-- What the statements of a commit lead to: an error, nothing, or a commit that takes place. -/
structure CommitsIn (x : SqliteM (Option RunStates)) (connection : Connection)
    (repository old : Repository) (runId : UUID4) (run : RunState) : Prop where
  error : ∀ e next, x connection = .error e next → next.anchors.Anchor repository
  lost : ∀ next, x connection = .ok none next → connection.Looked repository next
  committed : ∀ persisted next, x connection = .ok (some persisted) next →
    Committed repository old runId run persisted next

namespace CommitsIn

omit [Serialization] in
/-- Nothing is committed. -/
theorem none (hanchors : connection.anchors.Anchor repository) :
    CommitsIn (pure .none) connection repository old runId run where
  error _ _ h := by cases h
  lost _ h := by
    cases h
    exact ⟨rfl, hanchors⟩
  committed _ _ h := by cases h

omit [Serialization] in
/-- A check comes before the statements. -/
theorem lift_bind {α : Type} {y : Except SqliteError α} {f : α → SqliteM (Option RunStates)}
    (hanchors : connection.anchors.Anchor repository)
    (h : ∀ a, y = .ok a → CommitsIn (f a) connection repository old runId run) :
    CommitsIn (liftM y >>= f) connection repository old runId run := by
  cases hy : y with
  | ok a =>
    have hrest := h a hy
    exact ⟨hrest.error, hrest.lost, hrest.committed⟩
  | error e =>
    refine ⟨fun e t herror => ?_, fun t ht => ?_, fun persisted t ht => ?_⟩
    · cases herror
      exact hanchors
    · cases ht
    · cases ht

omit [Serialization] in
/-- What is remembered is read before the statements. -/
theorem get_bind {f : Connection → SqliteM (Option RunStates)}
    (h : CommitsIn (f connection) connection repository old runId run) :
    CommitsIn ((get : SqliteM Connection) >>= f) connection repository old runId run :=
  ⟨h.error, h.lost, h.committed⟩

omit [Serialization] in
/-- The statements that follow a read of the database see the states of its runs, and a connection that
remembers them. -/
theorem readAnchored (hrepository : repository.Sound) (hserves : connection.Serves repository)
    {faults : ReadFaults} {trusted : UUID4 → Option VerifiedRunState}
    (htrusted : ∀ id, ∀ state ∈ trusted id, (repository id).slot.Had state)
    {rest : RunStates → SqliteM (Option RunStates)}
    (h : ∀ current middle, current.Describe repository → connection.Looked repository middle →
      CommitsIn (rest current) middle repository old runId run) :
    CommitsIn (do
      let current ← readDurable faults trusted
      checkAndRememberAnchors current
      rest current) connection repository old runId run := by
  have hread : ∀ current middle, readDurable faults trusted connection = .ok current middle →
      ∃ next, checkAndRememberAnchors current middle = .ok () next
        ∧ connection.Looked repository next
        ∧ CommitsIn (rest current) next repository old runId run := by
    intro current middle hdurable
    obtain ⟨rfl, hdescribe⟩ := hrepository.readDurable_eq_ok hserves.holds htrusted hdurable
    obtain ⟨next, hremember, hdatabase, hanchors⟩ :=
      hrepository.checkAndRememberAnchors_eq hdescribe hserves.anchors
    exact ⟨next, hremember, ⟨hdatabase, hanchors⟩, h current next hdescribe ⟨hdatabase, hanchors⟩⟩
  refine ⟨fun e t herror => ?_, fun t ht => ?_, fun persisted t ht => ?_⟩
  · rcases bind_eq_error.mp herror with hdurable | ⟨current, middle, hdurable, hrest⟩
    · rw [atomic_readDurable hdurable]
      exact hserves.anchors
    · obtain ⟨next, hremember, -, hcommits⟩ := hread current middle hdurable
      rw [bind_of_ok hremember] at hrest
      exact hcommits.error e t hrest
  · obtain ⟨current, middle, hdurable, hrest⟩ := Stateful.bind_eq_ok.mp ht
    obtain ⟨next, hremember, hlooked, hcommits⟩ := hread current middle hdurable
    rw [bind_of_ok hremember] at hrest
    have hlost := hcommits.lost t hrest
    exact ⟨hlost.database.trans hlooked.database, hlost.anchors⟩
  · obtain ⟨current, middle, hdurable, hrest⟩ := Stateful.bind_eq_ok.mp ht
    obtain ⟨next, hremember, -, hcommits⟩ := hread current middle hdurable
    rw [bind_of_ok hremember] at hrest
    exact hcommits.committed persisted t hrest

/-- The writes commit what was computed from the run. -/
theorem write (h : call.Computed receipt candidate base old runId run)
    (hrepository : repository.Sound) (hserves : connection.Serves repository)
    (hcurrent : current.Describe repository) (hrun : repository runId = old runId)
    {trustExpected : Bool} :
    CommitsIn (some <$> writeCandidate environment candidate base current trustExpected) connection
      repository old runId run := by
  have hanchors : ∀ next : Connection, next.anchors = connection.anchors →
      next.anchors.Anchor repository := fun next hnext => hnext ▸ hserves.anchors
  refine ⟨fun e t herror => ?_, fun t ht => ?_, fun persisted t ht => ?_⟩
  · exact hanchors t (writeCandidate_anchors.error e t (map_eq_error.mp herror))
  · obtain ⟨_, -, hsome⟩ := map_eq_ok.mp ht
    cases hsome
  · obtain ⟨_, hwrite, hsome⟩ := map_eq_ok.mp ht
    cases hsome
    obtain ⟨hholds, hpersisted⟩ :=
      h.writeCandidate_eq_ok hrepository hserves.holds hcurrent hrun hwrite
    exact ⟨hrun, hholds, hanchors t (writeCandidate_anchors.ok persisted t hwrite), hpersisted⟩

end CommitsIn

/-- A state of the database is the one that was loaded, if the versions are equal and there is no
fork. -/
theorem Call.Computed.run_eq_of_checkFork (h : call.Computed receipt candidate base old runId run)
    (hrepository : repository.Sound) (holder : old.Older repository)
    {found : Option VerifiedRunState} (hfound : found = (repository runId).slot.verified)
    (hversion : found.map (fun state => RunVersion.fromHead state.ledgerHead)
      = base.map fun state => RunVersion.fromHead state.ledgerHead)
    (hfork : checkFork found base = .ok ()) : repository runId = old runId := by
  refine holder.run_eq h.sound hrepository fun state hstate => ?_
  rw [← hfound] at hstate
  rw [← h.base]
  subst hstate
  obtain ⟨state', hbase, -⟩ := Option.map_eq_some_iff.mp hversion.symm
  unfold checkFork at hfork
  rw [raiseIf_eq_ok] at hfork
  push Not at hfork
  obtain ⟨_, hsome, -, -, hlength⟩ := hfork state' hbase
  cases hsome
  exact ⟨state', hbase, hlength.le⟩

/-- A state of the database is the one that was loaded, if the ledgers are equal. -/
theorem Call.Computed.run_eq_of_ledger (h : call.Computed receipt candidate base old runId run)
    (hrepository : repository.Sound) (holder : old.Older repository)
    {found : Option VerifiedRunState} (hfound : found = (repository runId).slot.verified)
    (hledger : found.map (fun state => (state.ledger, state.ledgerHead))
      = base.map fun state => (state.ledger, state.ledgerHead)) : repository runId = old runId := by
  refine holder.run_eq h.sound hrepository fun state hstate => ?_
  rw [← hfound] at hstate
  rw [← h.base]
  subst hstate
  obtain ⟨state', hbase, hsame⟩ := Option.map_eq_some_iff.mp hledger.symm
  have hlength : state'.ledger = state.ledger := congrArg Prod.fst hsame
  exact ⟨state', hbase, by rw [hlength]⟩

omit [Serialization] in
/-- What the runs had, they had when they have grown. -/
theorem RunStates.Anchor.grows {anchors : RunStates} (h : anchors.Anchor repository)
    (holder : repository.Older later) : anchors.Anchor later :=
  fun id state hstate => (h id state hstate).grows (holder id)

/-- What a commit leads to: it takes place exactly if it returns true. -/
structure Commits (x : SqliteM Bool) (connection : Connection) (repository old : Repository)
    (runId : UUID4) (run : RunState) : Prop where
  error : ∀ e next, x connection = .error e next → connection.Looked repository next
  lost : ∀ next, x connection = .ok false next → connection.Looked repository next
  committed : ∀ next, x connection = .ok true next →
    repository runId = old runId ∧ next.Serves (repository.set runId run)

/-- A commit is what its transaction leads to. What it reads back is remembered, which does not
raise. -/
theorem CommitsIn.commits {x : SqliteM (Option RunStates)} {check : Except RepositoryError Unit}
    (h : CommitsIn x connection repository old runId run)
    (hcomputed : call.Computed receipt candidate base old runId run)
    (hrepository : repository.Sound) (hserves : connection.Serves repository) :
    Commits (do
      checked check
      let committed ← transaction x
      rememberCommitted committed) connection repository old runId run := by
  have hremember : ∀ persisted middle, transaction x connection = .ok (some persisted) middle →
      repository runId = old runId ∧ ∃ next, checkAndRememberAnchors persisted middle = .ok () next
        ∧ next.Serves (repository.set runId run) := by
    intro persisted middle htransaction
    obtain ⟨hrun, hholds, hanchors, hpersisted⟩ :=
      h.committed persisted middle (transaction_eq_ok.mp htransaction)
    obtain ⟨hnext, holder⟩ := hcomputed.next hrepository hrun
    obtain ⟨next, hok, hdatabase, hlater⟩ :=
      hnext.checkAndRememberAnchors_eq hpersisted (hanchors.grows holder)
    refine ⟨hrun, next, hok, ?_, hlater⟩
    rw [hdatabase]
    exact hholds
  refine ⟨fun e t herror => ?_, fun t ht => ?_, fun t ht => ?_⟩
  · rcases bind_eq_error.mp herror with hcheck | ⟨_, middle, hcheck, hrest⟩
    · rw [atomic_lift hcheck]
      exact hserves.looked
    obtain ⟨-, rfl⟩ := lift_eq_ok.mp hcheck
    rcases bind_eq_error.mp hrest with htransaction | ⟨committed, last, htransaction, hlast⟩
    · exact transaction_error h.error htransaction
    · cases committed with
      | none => cases hlast
      | some persisted =>
        obtain ⟨-, next, hok, -⟩ := hremember persisted last htransaction
        rw [rememberCommitted, bind_of_ok hok] at hlast
        cases hlast
  · obtain ⟨-, hrest⟩ := Stateful.check_bind_eq_ok.mp ht
    obtain ⟨committed, last, htransaction, hlast⟩ := Stateful.bind_eq_ok.mp hrest
    cases committed with
    | none =>
      cases hlast
      exact h.lost t (transaction_eq_ok.mp htransaction)
    | some persisted =>
      obtain ⟨-, next, hok, -⟩ := hremember persisted last htransaction
      rw [rememberCommitted, bind_of_ok hok] at hlast
      cases hlast
  · obtain ⟨-, hrest⟩ := Stateful.check_bind_eq_ok.mp ht
    obtain ⟨committed, last, htransaction, hlast⟩ := Stateful.bind_eq_ok.mp hrest
    cases committed with
    | none => cases hlast
    | some persisted =>
      obtain ⟨hrun, next, hok, hnext⟩ := hremember persisted last htransaction
      rw [rememberCommitted, bind_of_ok hok] at hlast
      cases hlast
      exact ⟨hrun, hnext⟩

/-- The commit of a call. -/
theorem Call.Computed.commits (h : call.Computed receipt candidate base old runId run)
    (hrepository : repository.Sound) (hserves : connection.Serves repository)
    (holder : old.Older repository) (environment : Environment) :
    Commits (call.commit environment candidate base) connection repository old runId run := by
  unfold Call.commit
  split
  · refine CommitsIn.commits ?_ h hrepository hserves
    refine .lift_bind hserves.anchors fun _ _ => .get_bind ?_
    refine .readAnchored hrepository hserves hserves.anchors fun current middle hcurrent hlooked => ?_
    have hmiddle := hlooked.serves hserves
    have hfound : current.get? candidate.runId = (repository runId).slot.verified := by
      rw [h.candidate_runId]
      exact hcurrent runId
    simp only
    split
    · exact .none hmiddle.anchors
    · next hsame =>
      exact .write h hrepository hmiddle hcurrent
        (h.run_eq_of_ledger hrepository holder hfound (not_not.mp hsame))
  · refine CommitsIn.commits ?_ h hrepository hserves
    refine .lift_bind hserves.anchors fun _ _ => ?_
    refine .readAnchored hrepository hserves (fun _ _ hstate => by cases hstate)
      fun current middle hcurrent hlooked => ?_
    have hmiddle := hlooked.serves hserves
    have hfound : current.get? candidate.runId = (repository runId).slot.verified := by
      rw [h.candidate_runId]
      exact hcurrent runId
    simp only
    split
    · exact .none hmiddle.anchors
    · next hversion =>
      refine .lift_bind hmiddle.anchors fun _ hfork => ?_
      unfold checked at hfork
      rw [mapError_eq_ok] at hfork
      exact .write h hrepository hmiddle hcurrent
        (h.run_eq_of_checkFork hrepository holder hfound (not_not.mp hversion) hfork)

end SalienceGate
