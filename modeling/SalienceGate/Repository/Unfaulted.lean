import SalienceGate.Repository.Linearizable
import SalienceGate.Repository.Undisturbed

/-!
# Steps that nothing disturbs

If no statement of the database fails and no other repository is at work, every step of a call does
what it is there for: the engine is loaded, the state to commit is the one that the operation led to,
and the commit takes place. The suffix of a candidate replays because the whole ledger does, and a
new run begins with an event because no other record can be its first.
-/

namespace SalienceGate

open Checked
open Stateful hiding bind_eq_ok check_bind_eq_ok raiseIf_bind_eq_ok expect_bind_eq_ok

variable [Hashing] [Integrity] {repository : Repository} {connection : Connection} {slot : Slot}

/-- What happens in a step in which no statement fails. -/
def unfaulted (newId : Option UUID4) : Environment := { newId }

/-! ## Reading -/

theorem Repository.Sound.exists_readDurable (h : repository.Sound)
    (hholds : connection.database.Holds repository) {trusted : UUID4 → Option VerifiedRunState}
    (htrusted : ∀ runId, ∀ state ∈ trusted runId, (repository runId).slot.Had state) :
    ∃ states, readDurable {} trusted connection = .ok states connection
      ∧ states.Describe repository := by
  obtain ⟨states, hcatalog, hdescribe⟩ := h.readCatalog_eq hholds htrusted
  have hread : checked (readCatalog trusted connection.database) = .ok states := by
    unfold checked
    rw [hcatalog]
    rfl
  refine ⟨states, ?_, hdescribe⟩
  unfold readDurable
  refine Stateful.raiseIf_bind_eq_ok.mpr ⟨Bool.false_ne_true, ?_⟩
  refine Stateful.raiseIf_bind_eq_ok.mpr ⟨Bool.false_ne_true, ?_⟩
  rw [get_bind]
  exact lift_eq_ok.mpr ⟨hread, rfl⟩

theorem Repository.Sound.exists_readTransaction (h : repository.Sound)
    (hserves : connection.Serves repository) (newId : Option UUID4) :
    ∃ states next, readTransaction (unfaulted newId) connection = .ok states next
      ∧ connection.Looked repository next ∧ states.Describe repository := by
  obtain ⟨states, hread, hdescribe⟩ := h.exists_readDurable hserves.holds
    (fun (_ : UUID4) _ (hstate : _ ∈ none) => by cases hstate)
  obtain ⟨next, hremember, hdatabase, hanchors⟩ :=
    h.checkAndRememberAnchors_eq hdescribe hserves.anchors
  refine ⟨states, next, ?_, ⟨hdatabase, hanchors⟩, hdescribe⟩
  have hstatements : (do
      raiseIf ((unfaulted newId).begins = true) SqliteError.sqliteRepository
      let states ← readDurable (unfaulted newId).read fun _ => none
      raiseIf ((unfaulted newId).commit = true) SqliteError.sqliteRepository
      pure states : SqliteM RunStates) connection = .ok states connection := by
    refine Stateful.raiseIf_bind_eq_ok.mpr ⟨Bool.false_ne_true, ?_⟩
    refine Stateful.bind_eq_ok.mpr ⟨states, connection, hread, ?_⟩
    exact Stateful.raiseIf_bind_eq_ok.mpr ⟨Bool.false_ne_true, rfl⟩
  unfold readTransaction
  rw [bind_of_ok (transaction_eq_ok.mpr hstatements), bind_of_ok hremember]
  rfl

/-- The engine of the database is loaded. -/
theorem Repository.Sound.exists_load (h : repository.Sound) (hserves : connection.Serves repository)
    (newId : Option UUID4) {install : RunStates → Except RepositoryError Repository}
    (hinstall : ∀ states, states.Describe repository → install states = .ok repository) :
    ∃ states next, (do
        let states ← readTransaction (unfaulted newId)
        let engine ← checked (install states)
        pure (engine, states) : SqliteM (Repository × RunStates)) connection
          = .ok (repository, states) next
      ∧ connection.Looked repository next ∧ states.Describe repository := by
  obtain ⟨states, next, hread, hlooked, hdescribe⟩ := h.exists_readTransaction hserves newId
  have hchecked : checked (install states) = .ok repository := by
    unfold checked
    rw [hinstall states hdescribe]
    rfl
  refine ⟨states, next, ?_, hlooked, hdescribe⟩
  rw [bind_of_ok hread, lift_bind_of_ok hchecked]
  rfl

theorem Repository.Sound.exists_loadEngine (h : repository.Sound) (hserves : connection.Serves repository)
    (newId : Option UUID4) :
    ∃ states next, loadEngine (unfaulted newId) connection = .ok (repository, states) next
      ∧ connection.Looked repository next ∧ states.Describe repository := by
  refine h.exists_load hserves newId fun states hstates => ?_
  rw [Dict.values, List.foldlM_map]
  exact h.installAll_eq hstates fun _ _ _ hstate hvacant => h.restoreRun_eq hstate hvacant

theorem Repository.Sound.exists_loadBatchEngine (h : repository.Sound)
    (hserves : connection.Serves repository) (newId : Option UUID4) :
    ∃ states next, loadBatchEngine (unfaulted newId) connection = .ok (repository, states) next
      ∧ connection.Looked repository next ∧ states.Describe repository :=
  h.exists_load hserves newId fun _ hstates =>
    h.installAll_eq hstates fun _ _ _ hstate _ => h.installReplayedRun_eq hstate

/-- A call loads the engine of the database. -/
theorem Repository.Sound.exists_callLoad (h : repository.Sound) (hserves : connection.Serves repository)
    (call : Call) (newId : Option UUID4) :
    ∃ states next, call.load (unfaulted newId) connection = .ok (repository, states) next
      ∧ connection.Looked repository next ∧ states.Describe repository := by
  unfold Call.load
  split
  · exact h.exists_loadBatchEngine hserves newId
  · exact h.exists_loadEngine hserves newId

/-! ## Candidates -/

/-- The entries of a replayed slot are verified. -/
theorem Slot.Replays.verifyEntries_eq (h : slot.Replays) : verifyEntries slot.ledger = .ok () := by
  let verify := fun (cursor : ℕ × Option PayloadDigest) (entry : LedgerEntry) => do
    verifyEntry entry (cursor.1 + 1) cursor.2
    pure (cursor.1 + 1, some entry.chainTag)
  have hround : ∀ (s : Replayed) (entry : LedgerEntry) (t : Replayed), replayEntry s entry = .ok t →
      verify (s.position, s.previous) entry = .ok (t.position, t.previous) := by
    intro s entry t hentry
    obtain ⟨cursor, hcursor, hentry⟩ := bind_eq_ok.mp hentry
    obtain ⟨seeds, -, hentry⟩ := bind_eq_ok.mp hentry
    obtain ⟨hverify, hcursor⟩ := check_bind_eq_ok.mp hcursor
    obtain ⟨projection, -, hcursor⟩ := bind_eq_ok.mp hcursor
    cases pure_eq_ok.mp hentry
    cases pure_eq_ok.mp hcursor
    exact check_bind_eq_ok.mpr ⟨hverify, rfl⟩
  have hloop := foldlM_project (p := fun replayed : Replayed => (replayed.position, replayed.previous))
    hround h.replayed
  exact bind_eq_ok.mpr ⟨_, hloop, rfl⟩

omit [Integrity] in
/-- A run with a head is found. -/
theorem acquireSlot_eq {run : RunState} (hhead : run.slot.ledgerHead ≠ none) : acquireSlot run = .ok () := by
  have hvacant := RunState.isVacant_of_head hhead
  unfold acquireSlot
  rw [raiseIf_bind_eq_ok, raiseIf_eq_ok]
  exact ⟨fun hboth => hvacant hboth.1, hvacant⟩

/-- A live run whose audit events read back has a state to commit. -/
theorem exists_verifiedState {runId : UUID4} (hrun : (repository runId).Live)
    (hreads : AuditsReadBack (repository runId).slot.projection)
    (hhead : (repository runId).slot.ledgerHead ≠ none) :
    ∃ candidate, verifiedState repository runId = .ok candidate := by
  obtain ⟨head, hsome⟩ := Option.ne_none_iff_exists'.mp hhead
  obtain ⟨digests, hdigests⟩ := exists_projectionDigests hrun.settled.toReplays
    (repository runId).slot.ledger.length
  have hreplay := (replayRun_eq_ok hrun.settled hsome).mpr ⟨hreads, digests, hdigests, rfl⟩
  have hstate : replayState (repository runId).slot.ledger head = .ok _ :=
    bind_eq_ok.mpr ⟨_, hreplay, rfl⟩
  have hcandidate : candidateDigests (repository runId).slot = .ok digests := by
    unfold candidateDigests
    rw [hdigests]
    rfl
  refine ⟨⟨head.runId, (repository runId).slot.ledger, head, (repository runId).slot.projection, digests⟩,
    ?_⟩
  unfold verifiedState
  refine check_bind_eq_ok.mpr ⟨acquireSlot_eq hhead, ?_⟩
  refine check_bind_eq_ok.mpr ⟨hrun.verifyHead_eq hhead true, ?_⟩
  refine check_bind_eq_ok.mpr ⟨hrun.settled.toReplays.verifyEntries_eq, ?_⟩
  refine expect_bind_eq_ok.mpr ⟨head, hsome, ?_⟩
  refine bind_eq_ok.mpr ⟨_, hstate, bind_eq_ok.mpr ⟨digests, hcandidate, ?_⟩⟩
  exact raiseIf_bind_eq_ok.mpr ⟨not_not.mpr rfl, rfl⟩

/-- A live run has a state to commit after a batch. -/
theorem exists_batchCandidateState {runId : UUID4} (hrun : (repository runId).Live)
    (hhead : (repository runId).slot.ledgerHead ≠ none) :
    ∃ candidate, batchCandidateState repository runId = .ok candidate := by
  obtain ⟨head, hsome⟩ := Option.ne_none_iff_exists'.mp hhead
  obtain ⟨digests, hdigests⟩ := exists_projectionDigests hrun.settled.toReplays
    (repository runId).slot.ledger.length
  refine ⟨⟨runId, (repository runId).slot.ledger, head, (repository runId).slot.projection, digests⟩, ?_⟩
  unfold batchCandidateState
  refine check_bind_eq_ok.mpr ⟨acquireSlot_eq hhead, ?_⟩
  refine check_bind_eq_ok.mpr ⟨hrun.verifyHead_eq hhead true, ?_⟩
  refine expect_bind_eq_ok.mpr ⟨head, hsome, ?_⟩
  refine check_bind_eq_ok.mpr ⟨validateCompleteProjection_eq_ok.mpr hrun.settled.complete, ?_⟩
  exact bind_eq_ok.mpr ⟨digests, hdigests, rfl⟩

/-! ## The first entry -/

omit [Integrity] in
/-- Only an event can be the first entry of a ledger. -/
theorem ingestionCursor_of_first {runId : UUID4} {entry : LedgerEntry} {p : Projection}
    (h : applyEntry (emptyProjection runId) entry = .ok p) : 1 ≤ p.ingestionCursor := by
  obtain ⟨-, haccepted⟩ := applyEntry_accepted h
  unfold applyEntry at h
  obtain ⟨-, h⟩ := raiseIf_bind_eq_ok.mp h
  generalize hrecord : entry.record = record at haccepted h
  cases haccepted with
  | event position event next =>
    show 1 ≤ event.sequence
    omega
  | signal record =>
    -- a signal has evidence, and nothing is there
    obtain ⟨-, h⟩ := raiseIf_bind_eq_ok.mp h
    obtain ⟨hevidence, -⟩ := raiseIf_bind_eq_ok.mp h
    have hlength : 1 ≤ record.evidenceEventIds.length := (constrain_bind_eq_ok.mp record.valid).1
    obtain ⟨eventId, hmem⟩ := List.exists_mem_of_length_pos hlength
    exact absurd ⟨eventId, hmem, Dict.notMem_empty eventId⟩ hevidence
  | decision =>
    obtain ⟨-, h⟩ := raiseIf_bind_eq_ok.mp h
    obtain ⟨event, hevent, -⟩ := expect_bind_eq_ok.mp h
    cases hevent
  | cycle cycle decision checked => cases checked.decided
  | commit cycle decision delta intervention bank reminders checked => cases checked.decided
  | outcome outcome =>
    obtain ⟨-, h⟩ := raiseIf_bind_eq_ok.mp h
    obtain ⟨hintervention, -⟩ := raiseIf_bind_eq_ok.mp h
    exact absurd (Dict.notMem_empty outcome.interventionId) hintervention
  | delivery delivery cycle intervention checked => cases checked.cycle_eq

omit [Integrity] in
/-- An entry never takes events away. -/
theorem Accepted.ingestionCursor_le {p q : Projection} {record : LedgerRecord} (h : Accepted p record q) :
    p.ingestionCursor ≤ q.ingestionCursor := by
  cases h with
  | event position event next =>
    show p.ingestionCursor ≤ event.sequence
    omega
  | _ => exact le_rfl

/-- A run that has entries has a first event. -/
theorem Slot.Replays.origin (h : slot.Replays) (hledger : slot.ledger ≠ []) :
    slot.projection.eventsBySequence.get? 1 ≠ none := by
  have hcursor : 1 ≤ slot.projection.ingestionCursor := by
    have hreplay : slot.ledger.foldlM applyEntry (emptyProjection slot.runId) = .ok slot.projection :=
      h.run.accepted
    obtain ⟨entry, rest, hentries⟩ := List.exists_cons_of_ne_nil hledger
    rw [hentries] at hreplay
    obtain ⟨p, hfirst, hrest⟩ := foldlM_cons_eq_ok.mp hreplay
    refine foldlM_invariant (I := fun p : Projection => 1 ≤ p.ingestionCursor) (fun p e q _ hp he => ?_)
      (ingestionCursor_of_first hfirst) hrest
    exact hp.trans (applyEntry_accepted he).2.ingestionCursor_le
  have hmem := h.events.numbered.mpr ⟨le_rfl, hcursor⟩
  intro hnone
  exact Dict.get?_eq_none.mp hnone hmem

/-! ## The suffix of a candidate -/

/-- Two cursors that differ at most in the direct records, which authenticating an entry does not read. -/
def ReplayCursor.Agrees (a b : ReplayCursor) : Prop :=
  a.position = b.position ∧ a.projection = b.projection ∧ a.previous = b.previous
    ∧ a.projectionTag = b.projectionTag

/-- Entries of the run that are replayed are authenticated, from a cursor that agrees. -/
theorem exists_authenticateSuffixEntry {runId : UUID4} {entries : List LedgerEntry} {s t : Replayed}
    {start : ReplayCursor} (hentries : ∀ entry ∈ entries, entry.runId = runId)
    (h : entries.foldlM replayEntry s = .ok t) (hstart : start.Agrees s.toReplayCursor) :
    ∃ cursor, entries.foldlM (authenticateSuffixEntry runId) start = .ok cursor
      ∧ cursor.Agrees t.toReplayCursor := by
  induction entries generalizing s start with
  | nil =>
    obtain rfl := foldlM_nil_eq_ok.mp h
    exact ⟨start, rfl, hstart⟩
  | cons entry rest ih =>
    obtain ⟨m, hentry, hrest⟩ := foldlM_cons_eq_ok.mp h
    obtain ⟨hposition, hprojection, hprevious, htag⟩ := hstart
    obtain ⟨cursor, hcursor, hentry⟩ := bind_eq_ok.mp hentry
    obtain ⟨seeds, -, hentry⟩ := bind_eq_ok.mp hentry
    cases pure_eq_ok.mp hentry
    obtain ⟨hverify, hcursor⟩ := check_bind_eq_ok.mp hcursor
    obtain ⟨projection, happly, hcursor⟩ := bind_eq_ok.mp hcursor
    cases pure_eq_ok.mp hcursor
    rw [← hposition, ← hprevious] at hverify
    rw [← hprojection] at happly
    let next : ReplayCursor := {
      position := start.position + 1
      projection
      previous := some entry.chainTag
      projectionTag := some (projectionCheckpointTag entry projection start.projectionTag)
      directRecords := addDirectRecord start.directRecords entry }
    have hround : authenticateSuffixEntry runId start entry = .ok next := by
      refine raiseIf_bind_eq_ok.mpr ⟨not_not.mpr (hentries entry List.mem_cons_self), ?_⟩
      exact check_bind_eq_ok.mpr ⟨hverify, bind_eq_ok.mpr ⟨projection, happly, rfl⟩⟩
    have hnext : next.Agrees {
        position := s.position + 1
        projection
        previous := some entry.chainTag
        projectionTag := some (projectionCheckpointTag entry projection s.projectionTag)
        directRecords := addDirectRecord s.directRecords entry } :=
      ⟨congrArg (· + 1) hposition, rfl, rfl,
        congrArg (fun found => some (projectionCheckpointTag entry projection found)) htag⟩
    obtain ⟨last, hloop, hlast⟩ := ih (fun e he => hentries e (List.mem_cons_of_mem _ he)) hrest hnext
    exact ⟨last, foldlM_cons_eq_ok.mpr ⟨_, hround, hloop⟩, hlast⟩

/-- What a replayed slot has beyond another one is authenticated, from a cursor that agrees. -/
theorem Slot.Replays.exists_authenticateSuffix {t : Slot} (hslot : slot.Replays) (ht : t.Replays)
    (hrun : t.runId = slot.runId) (hextends : slot.ledger <+: t.ledger) {start : ReplayCursor}
    (hstart : start.Agrees slot.cursor) :
    ∃ cursor, (t.ledger.drop slot.ledger.length).foldlM (authenticateSuffixEntry t.runId) start = .ok cursor
      ∧ cursor.Agrees t.cursor := by
  obtain ⟨suffix, hsuffix⟩ := hextends
  have hreplayed := ht.replayed
  rw [← hsuffix, hrun] at hreplayed
  obtain ⟨m, hm, hrest⟩ := foldlM_append_eq_ok.mp hreplayed
  rw [hslot.replayed, Except.ok.injEq] at hm
  subst hm
  have hdrop : t.ledger.drop slot.ledger.length = suffix := by rw [← hsuffix, List.drop_left]
  rw [hdrop]
  refine exists_authenticateSuffixEntry (fun entry hmem => ht.entries entry ?_) hrest hstart
  rw [← hsuffix]
  exact List.mem_append_right _ hmem

/-! ## Computing -/

variable [Serialization] {old next : Repository} {call : Call} {receipt : OperationReceipt}
  {candidate : VerifiedRunState} {base : Option VerifiedRunState} {runId : UUID4} {run : RunState}

/-- The run that an operation worked on has a head: the operation found it, or began it. -/
theorem Operation.WorksOn.ledgerHead_ne_none [Redactor] (hold : old.Sound) (hnext : next.Live)
    (holder : old.Older next) {operation : Operation} (h : operation.WorksOn receipt old next runId) :
    (next runId).slot.ledgerHead ≠ none := by
  intro hnone
  have hgrows := ledger_extends (holder runId)
  have hledger : (old runId).slot.ledger = [] := by
    rw [(hnext.live runId).settled.vacant.mp hnone] at hgrows
    exact List.prefix_nil.mp hgrows
  have hvacant := hold.vacant ((hold.live.live runId).settled.vacant.mpr hledger)
  -- the operation does the same on a repository without runs, where it begins one
  obtain ⟨id, hhead⟩ := Operation.perform_empty (h.elsewhere Repository.empty hvacant.symm)
  by_cases hid : id = runId
  · rw [hid, Function.update_self] at hhead
    exact hhead hnone
  · rw [Function.update_of_ne hid] at hhead
    exact hhead rfl

/-- An operation that returned on the engine has a state to commit, if the audit events of the run
read back. -/
theorem exists_applyOperation (attempts : ℕ) {states : RunStates} (hold : old.Sound)
    (hstates : states.Describe old) (hperform : call.perform old = .ok receipt next)
    (hreads : ∀ id, AuditsReadBack (next id).slot.projection) :
    ∃ candidate base runId run, applyOperation call attempts old states
        = .continues (.applied call attempts receipt candidate base)
      ∧ call.Computed receipt candidate base old runId run ∧ next = old.set runId run := by
  have hcandidate : ∃ runId candidate, call.operation.resultRunId receipt = some runId
      ∧ call.candidate next runId = .ok candidate := by
    let _ := call.policy
    obtain ⟨runId, hworks⟩ := Operation.perform_worksOn hold.live hperform
    obtain ⟨hlive, holder⟩ := Call.perform_grows hold.live hperform
    have hhead := hworks.ledgerHead_ne_none hold hlive holder
    refine ⟨runId, ?_⟩
    unfold Call.candidate
    split
    · obtain ⟨candidate, hfound⟩ := exists_batchCandidateState (hlive.live runId) hhead
      exact ⟨candidate, hworks.result, hfound⟩
    · obtain ⟨candidate, hfound⟩ := exists_verifiedState (hlive.live runId) (hreads runId) hhead
      exact ⟨candidate, hworks.result, hfound⟩
  obtain ⟨id, found, hresult, hfound⟩ := hcandidate
  have happly : applyOperation call attempts old states
      = .continues (.applied call attempts receipt found (states.get? id)) := by
    unfold applyOperation
    simp only [hperform, hresult, hfound]
  have hcases : (∃ error, applyOperation call attempts old states = .raises error) ∨ _ ∨ _ :=
    applyOperation_cases hold hstates
  rcases hcases with ⟨error, hraises⟩ | ⟨error, runId, before, hrefused⟩
    | ⟨made, candidate, base, runId, run, happlied, hcomputed⟩
  · rw [hraises] at happly
    cases happly
  · rw [hrefused] at happly
    cases happly
  · have hsame := happlied.symm.trans happly
    cases hsame
    refine ⟨_, _, runId, run, happly, hcomputed, ?_⟩
    have hperforms := hcomputed.performs old rfl
    rw [hperform] at hperforms
    cases hperforms
    rfl

/-! ## Committing -/

variable {current : RunStates} {newId : Option UUID4}

/-- The state that a computed commit was computed from, if there was a run. -/
theorem Call.Computed.base_eq_none (h : call.Computed receipt candidate base old runId run)
    (hbase : base = none) : (old runId).slot.ledgerHead = none := by
  rw [h.base] at hbase
  by_contra hhead
  obtain ⟨head, hsome⟩ := Option.ne_none_iff_exists'.mp hhead
  obtain ⟨state, hstate, -⟩ := (h.sound.live.live runId).settled.toReplays.exists_verified hsome
  rw [hbase] at hstate
  cases hstate

omit [Serialization] in
/-- A candidate has a first event. -/
theorem IsCandidate.origin (h : IsCandidate run candidate) (hrun : run.Live) :
    candidate.projection.eventsBySequence.get? 1 ≠ none := by
  obtain ⟨head, digests, hhead, -, rfl⟩ := Slot.verified_eq_some.mp h.verified
  refine hrun.settled.toReplays.origin fun hledger => ?_
  rw [hrun.settled.vacant.mpr hledger] at hhead
  cases hhead

omit [Serialization] in
/-- The rows of the projection of a candidate are those of its ledger. -/
theorem IsCandidate.checkProjectionSources_eq (h : IsCandidate run candidate) (hrun : run.Live) :
    checkProjectionSources candidate = .ok () := by
  obtain ⟨head, digests, -, -, rfl⟩ := Slot.verified_eq_some.mp h.verified
  unfold checkProjectionSources
  refine bind_eq_ok.mpr ⟨run.slot.projection, hrun.settled.toReplays.run.accepted, ?_⟩
  exact raiseIf_eq_ok.mpr (not_not.mpr rfl)

omit [Serialization] in
/-- States that describe the same engine are as expected. -/
theorem checkPersisted_eq {persisted expected : RunStates} (hpersisted : persisted.Describe repository)
    (hexpected : expected.Describe repository) : checkPersisted persisted expected = .ok () := by
  have hsame : ∀ id, expected.get? id = persisted.get? id := fun id =>
    (hexpected id).trans (hpersisted id).symm
  unfold checkPersisted
  rw [raiseIf_eq_ok, not_or]
  constructor
  · rintro ⟨id, hmem, hmissing⟩
    obtain ⟨state, hstate⟩ := Dict.mem_iff.mp (Dict.mem_def.mpr hmem)
    rw [hsame] at hstate
    exact hmissing (Dict.mem_of_get? hstate)
  · rintro ⟨⟨id, state⟩, hitem, hdiffers⟩
    have hstate : persisted.get? id = some state := Dict.get?_eq_some.mpr hitem
    exact hdiffers (by rw [hsame, hstate, Option.map_some])

/-- What was computed from the engine of the database is written. -/
theorem Call.Computed.exists_writeCandidate (h : call.Computed receipt candidate base repository runId run)
    (hserves : connection.Serves repository) (hcurrent : current.Describe repository)
    {trustExpected : Bool} :
    ∃ persisted next, writeCandidate (unfaulted newId) candidate base current trustExpected connection
      = .ok persisted next := by
  obtain ⟨hnext, holder⟩ := h.next h.sound rfl
  have hrun : run.Live := by
    have hlive := hnext.live.live runId
    rwa [Repository.set_self] at hlive
  have hcandidate := h.candidate
  let written : Connection := { connection with database := connection.database.write candidate base }
  have hwritten : written.database.Holds (repository.set runId run) :=
    h.write_holds h.sound hserves.holds rfl
  -- a run that is written for the first time is not in the database
  have hvacant : ¬((unfaulted newId).insert = true
      ∨ base = none ∧ candidate.runId ∈ connection.database) := by
    rintro (hinsert | ⟨hbase, hmem⟩)
    · cases hinsert
    · obtain ⟨stored, hstored⟩ := Dict.mem_iff.mp hmem
      rw [h.candidate_runId, hserves.holds runId, Slot.stored, h.base_eq_none hbase] at hstored
      cases hstored
  let expected : RunStates := current.set candidate.runId candidate
  have hexpected : expected.Describe (repository.set runId run) := by
    intro id
    show (current.set candidate.runId candidate).get? id = _
    rw [h.candidate_runId]
    by_cases hid : id = runId
    · rw [hid, Dict.get?_set_self, Repository.set_self, hcandidate.verified]
    · rw [Dict.get?_set_of_ne hid, Repository.set_of_ne hid, hcurrent id]
  have htrusted : ∀ id, ∀ state ∈ (if trustExpected = true then expected.get? id else none),
      (repository.set runId run id).slot.Had state := by
    intro id state hstate
    split at hstate
    · rw [hexpected id] at hstate
      exact Slot.had_of_verified hstate
    · cases hstate
  obtain ⟨persisted, hread, hpersisted⟩ := hnext.exists_readDurable hwritten htrusted
  have horigin : checked (raiseIf (base = none ∧ candidate.projection.eventsBySequence.get? 1 = none)
      (.digestVerification "candidate run origin")) = .ok () := by
    unfold checked
    rw [mapError_eq_ok, raiseIf_eq_ok]
    exact fun hnone => hcandidate.origin hrun hnone.2
  have hsources : checked (checkProjectionSources candidate) = .ok () := by
    unfold checked
    rw [mapError_eq_ok, hcandidate.checkProjectionSources_eq hrun]
  have hcompare : checked (checkPersisted persisted expected) = .ok () := by
    unfold checked
    rw [mapError_eq_ok, checkPersisted_eq hpersisted hexpected]
  refine ⟨persisted, written, ?_⟩
  unfold writeCandidate
  refine Stateful.check_bind_eq_ok.mpr ⟨horigin, ?_⟩
  rw [get_bind]
  refine Stateful.raiseIf_bind_eq_ok.mpr ⟨hvacant, ?_⟩
  rw [modify_bind]
  refine Stateful.check_bind_eq_ok.mpr ⟨hsources, ?_⟩
  refine Stateful.bind_eq_ok.mpr ⟨persisted, _, hread, ?_⟩
  refine Stateful.check_bind_eq_ok.mpr ⟨hcompare, ?_⟩
  exact Stateful.raiseIf_bind_eq_ok.mpr ⟨Bool.false_ne_true, rfl⟩

/-- The ledger of the base, if there is one, is that of the run that was loaded. -/
theorem Call.Computed.base_ledger (h : call.Computed receipt candidate base old runId run) :
    base.elim [] VerifiedRunState.ledger = (old runId).slot.ledger := by
  rw [h.base]
  exact h.sound.verified_ledger runId

/-- The candidate is no fork. -/
theorem Call.Computed.prefixMatches (h : call.Computed receipt candidate base old runId run) :
    ¬∃ state ∈ base, prefixMatches state.ledger candidate.ledger = false := by
  rintro ⟨state, hstate, hfork⟩
  have hledger := h.base_ledger
  rw [Option.mem_def.mp hstate] at hledger
  have hmatches := prefixMatches_iff.mpr h.ledger_extends
  rw [← hledger] at hmatches
  exact Bool.false_ne_true (hfork.symm.trans hmatches)

/-- The suffix of a candidate begins where the run that was loaded ends. -/
theorem Call.Computed.candidateCursor_agrees (h : call.Computed receipt candidate base old runId run) :
    (candidateCursor candidate base).Agrees (old runId).slot.cursor := by
  cases hbase : base with
  | none =>
    have hvacant := h.sound.vacant (h.base_eq_none hbase)
    rw [hvacant]
    show (Replayed.start candidate.runId).toReplayCursor.Agrees _
    rw [h.candidate_runId]
    exact ⟨rfl, rfl, rfl, rfl⟩
  | some state =>
    have hstate := h.base
    rw [hbase] at hstate
    obtain ⟨head, digests, hhead, -, rfl⟩ := Slot.verified_eq_some.mp hstate.symm
    refine ⟨rfl, rfl, ?_, ?_⟩
    · show some head.chainTag = (old runId).slot.ledgerHead.map (·.chainTag)
      rw [hhead, Option.map_some]
    · show some head.projectionTag = (old runId).slot.ledgerHead.map (·.projectionTag)
      rw [hhead, Option.map_some]

/-- The suffix of a candidate is authenticated. -/
theorem Call.Computed.authenticateSuffix_eq (h : call.Computed receipt candidate base old runId run) :
    authenticateSuffix candidate base = .ok () := by
  obtain ⟨hnext, -⟩ := h.next h.sound rfl
  have hrun : run.Live := by
    have hlive := hnext.live.live runId
    rwa [Repository.set_self] at hlive
  have hid : run.slot.runId = runId := by
    have hnextId := hnext.live.runId runId
    rwa [Repository.set_self] at hnextId
  have hextends := h.ledger_extends
  have hstart := h.candidateCursor_agrees
  obtain ⟨head, digests, hhead, hdigests, rfl⟩ := Slot.verified_eq_some.mp h.candidate.verified
  obtain ⟨hheadRun, hcount, -, htag⟩ := hrun.settled.sealed head hhead
  obtain ⟨cursor, hloop, -, hprojection, hprevious, hprojectionTag⟩ :=
    (h.sound.live.live runId).settled.toReplays.exists_authenticateSuffix hrun.settled.toReplays
      (hid.trans (h.sound.live.runId runId).symm) hextends hstart
  have hposition := hstart.1
  have hchain : cursor.previous = some head.chainTag := by
    rw [hprevious]
    show run.slot.ledgerHead.map (·.chainTag) = some head.chainTag
    rw [hhead, Option.map_some]
  have hcheckpoint : cursor.projectionTag = some head.projectionTag := by
    rw [hprojectionTag]
    show run.slot.ledgerHead.map (·.projectionTag) = some head.projectionTag
    rw [hhead, Option.map_some]
  have hcursor : cursor.projection = run.slot.projection := hprojection
  unfold authenticateSuffix
  refine bind_eq_ok.mpr ⟨cursor, ?_, ?_⟩
  · show (run.slot.ledger.drop _).foldlM _ _ = _
    rw [hposition]
    exact hloop
  · refine raiseIf_bind_eq_ok.mpr ⟨?_, ?_⟩
    · rw [hchain, hcheckpoint]
      push Not
      exact ⟨hheadRun, hcount, rfl, rfl, htag⟩
    · rw [hcursor]
      refine check_bind_eq_ok.mpr ⟨validateCompleteProjection_eq_ok.mpr hrun.settled.complete, ?_⟩
      refine bind_eq_ok.mpr ⟨digests, hdigests, raiseIf_eq_ok.mpr ?_⟩
      exact not_or.mpr ⟨not_not.mpr rfl, not_not.mpr rfl⟩

/-- A candidate is authenticated. -/
theorem Call.Computed.authenticateBatchCandidate_eq (h : call.Computed receipt candidate base old runId run) :
    authenticateBatchCandidate candidate base = .ok () := by
  have hsame : ¬∃ state ∈ base, candidate.runId ≠ state.runId := by
    rintro ⟨state, hstate, hdiffers⟩
    have hbase := h.base
    rw [Option.mem_def.mp hstate] at hbase
    exact hdiffers (h.candidate_runId.trans (h.sound.verified_runId hbase.symm).symm)
  unfold authenticateBatchCandidate
  refine raiseIf_bind_eq_ok.mpr ⟨h.prefixMatches, raiseIf_bind_eq_ok.mpr ⟨hsame, ?_⟩⟩
  split
  · next hdrop =>
    -- a candidate without a suffix is the state that was loaded
    obtain ⟨-, holder⟩ := h.next h.sound rfl
    have hrun := holder runId
    rw [Repository.set_self] at hrun
    rw [h.base_ledger, List.drop_eq_nil_iff] at hdrop
    have hcandidate := h.candidate.verified
    have hslot : run.slot = (old runId).slot := by
      obtain ⟨_, _, -, -, rfl⟩ := Slot.verified_eq_some.mp hcandidate
      exact eq_of_length_le hrun hdrop
    rw [hslot, ← h.base] at hcandidate
    rw [raiseIf_eq_ok, not_not]
    exact hcandidate
  · exact h.authenticateSuffix_eq

/-- A commit whose transaction takes place remembers what it read back. -/
theorem Call.Computed.exists_remember (h : call.Computed receipt candidate base repository runId run)
    {middle : Connection} (hserves : middle.Serves repository) (hcurrent : current.Describe repository)
    (newId : Option UUID4) (trustExpected : Bool) {x : SqliteM (Option RunStates)}
    {check : Except RepositoryError Unit} (hcheck : check = .ok ())
    (hx : ∀ persisted next, writeCandidate (unfaulted newId) candidate base current trustExpected middle
      = .ok persisted next → x connection = .ok (some persisted) next) :
    ∃ next, (do
      checked check
      let committed ← transaction x
      rememberCommitted committed : SqliteM Bool) connection = .ok true next := by
  obtain ⟨persisted, written, hwrite⟩ := h.exists_writeCandidate hserves hcurrent
  obtain ⟨hholds, hpersisted⟩ := h.writeCandidate_eq_ok h.sound hserves.holds hcurrent rfl hwrite
  obtain ⟨hnext, holder⟩ := h.next h.sound rfl
  have hanchors : written.anchors.Anchor (repository.set runId run) := by
    rw [writeCandidate_anchors.ok persisted written hwrite]
    exact hserves.anchors.grows holder
  obtain ⟨next, hremember, -, -⟩ := hnext.checkAndRememberAnchors_eq hpersisted hanchors
  have htransaction : transaction x connection = .ok (some persisted) written :=
    transaction_eq_ok.mpr (hx persisted written hwrite)
  have hchecked : checked check = .ok () := by
    unfold checked
    rw [hcheck]
    rfl
  refine ⟨next, Stateful.check_bind_eq_ok.mpr ⟨hchecked, ?_⟩⟩
  rw [bind_of_ok htransaction, rememberCommitted, bind_of_ok hremember]
  rfl

omit [Integrity] [Serialization] in
/-- The run in the database is no fork of the one that was loaded, which is the same. -/
theorem checkFork_self (base : Option VerifiedRunState) : checkFork base base = .ok () := by
  unfold checkFork
  rw [raiseIf_eq_ok]
  rintro ⟨state, hstate, hfork⟩
  rcases hfork state hstate with hhead | hnone | hlength
  · exact hhead rfl
  · exact Bool.false_ne_true (hnone.symm.trans (prefixMatches_iff.mpr List.prefix_rfl))
  · exact hlength rfl

/-- What was computed from the engine of the database is committed. -/
theorem Call.Computed.exists_commit (h : call.Computed receipt candidate base repository runId run)
    (hserves : connection.Serves repository) (newId : Option UUID4) :
    ∃ next, call.commit (unfaulted newId) candidate base connection = .ok true next
      ∧ next.Serves (repository.set runId run) := by
  have hcommits := h.commits h.sound hserves (.refl repository) (unfaulted newId)
  have hread : ∀ trusted : UUID4 → Option VerifiedRunState,
      (∀ id, ∀ state ∈ trusted id, (repository id).slot.Had state) →
      ∃ current middle, readDurable {} trusted connection = .ok current connection
        ∧ checkAndRememberAnchors current connection = .ok () middle
        ∧ middle.Serves repository ∧ current.Describe repository
        ∧ current.get? candidate.runId = base := by
    intro trusted htrusted
    obtain ⟨current, hdurable, hcurrent⟩ := h.sound.exists_readDurable hserves.holds htrusted
    obtain ⟨middle, hremember, hdatabase, hanchors⟩ :=
      h.sound.checkAndRememberAnchors_eq hcurrent hserves.anchors
    have hlooked : connection.Looked repository middle := ⟨hdatabase, hanchors⟩
    refine ⟨current, middle, hdurable, hremember, hlooked.serves hserves, hcurrent, ?_⟩
    rw [h.candidate_runId, hcurrent runId, h.base]
  have htrue : ∃ next, call.commit (unfaulted newId) candidate base connection = .ok true next := by
    unfold Call.commit
    split
    · obtain ⟨current, middle, hdurable, hremember, hmiddle, hcurrent, hfound⟩ :=
        hread connection.anchors.get? hserves.anchors
      refine h.exists_remember hmiddle hcurrent newId true h.authenticateBatchCandidate_eq fun persisted next hwrite => ?_
      refine Stateful.raiseIf_bind_eq_ok.mpr ⟨Bool.false_ne_true, ?_⟩
      rw [get_bind]
      refine Stateful.bind_eq_ok.mpr ⟨current, connection, hdurable, ?_⟩
      refine Stateful.bind_eq_ok.mpr ⟨(), middle, hremember, ?_⟩
      simp only [hfound, ne_eq, not_true_eq_false, if_false]
      exact map_eq_ok.mpr ⟨persisted, hwrite, rfl⟩
    · obtain ⟨current, middle, hdurable, hremember, hmiddle, hcurrent, hfound⟩ :=
        hread (fun _ => none) fun _ _ hstate => by cases hstate
      refine h.exists_remember hmiddle hcurrent newId false (raiseIf_eq_ok.mpr h.prefixMatches)
        fun persisted next hwrite => ?_
      refine Stateful.raiseIf_bind_eq_ok.mpr ⟨Bool.false_ne_true, ?_⟩
      refine Stateful.bind_eq_ok.mpr ⟨current, connection, hdurable, ?_⟩
      refine Stateful.bind_eq_ok.mpr ⟨(), middle, hremember, ?_⟩
      simp only [hfound, ne_eq, not_true_eq_false, if_false]
      have hfork : checked (checkFork base base) = .ok () := by
        unfold checked
        rw [checkFork_self]
        rfl
      refine Stateful.check_bind_eq_ok.mpr ⟨hfork, ?_⟩
      exact map_eq_ok.mpr ⟨persisted, hwrite, rfl⟩
  obtain ⟨next, hok⟩ := htrue
  exact ⟨next, hok, (hcommits.committed next hok).2⟩

end SalienceGate
