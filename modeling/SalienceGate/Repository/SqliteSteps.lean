import SalienceGate.Repository.Located

/-!
# What a repository reads and writes

A database holds the runs of an engine when it holds the ledger and the head of each of them. Reading
it then leads back to these runs, whatever a repository remembers of them: what it remembers is an
earlier state of the same ledger. A commit that takes place writes the ledger that the call made of
the one that is there.
-/

namespace SalienceGate

open Checked
open Stateful hiding bind_eq_ok check_bind_eq_ok raiseIf_bind_eq_ok expect_bind_eq_ok

variable [Hashing] [Integrity] {slot t u : Slot}

/-! ## Growing ledgers -/

/-- Storing a record adds one entry to the ledger. -/
theorem Stores.ledger_eq (h : Stores slot t) : ∃ entry, t.ledger = slot.ledger ++ [entry] := by
  cases h <;> exact ⟨_, rfl⟩

/-- What a slot grew into begins with its ledger. -/
theorem ledger_extends (h : Relation.ReflTransGen Stores slot t) : slot.ledger <+: t.ledger := by
  induction h with
  | refl => exact List.prefix_rfl
  | tail _ hstep ih =>
    obtain ⟨entry, hledger⟩ := hstep.ledger_eq
    rw [hledger]
    exact ih.trans (List.prefix_append _ _)

/-- A slot that did not grow is as it was. -/
theorem eq_of_length_le (h : Relation.ReflTransGen Stores slot t)
    (hlength : t.ledger.length ≤ slot.ledger.length) : t = slot := by
  induction h with
  | refl => rfl
  | @tail middle last hrun hstep ih =>
    obtain ⟨entry, hledger⟩ := hstep.ledger_eq
    have hextends := (ledger_extends hrun).length_le
    rw [hledger, List.length_append, List.length_singleton] at hlength
    omega

/-! ## Sound engines -/

/-- The state of a run as a replay returns it. -/
def Slot.verified (slot : Slot) : Option VerifiedRunState :=
  slot.ledgerHead.bind fun head =>
    (projectionDigests slot.projection slot.ledger.length).toOption.map fun digests => {
      runId := slot.runId
      ledger := slot.ledger
      ledgerHead := head
      projection := slot.projection
      digests }

theorem Slot.verified_eq_some {state : VerifiedRunState} : slot.verified = some state
    ↔ ∃ head digests, slot.ledgerHead = some head
      ∧ projectionDigests slot.projection slot.ledger.length = .ok digests
      ∧ state = ⟨slot.runId, slot.ledger, head, slot.projection, digests⟩ := by
  unfold Slot.verified
  cases slot.ledgerHead with
  | none => simp
  | some head =>
    cases hdigests : projectionDigests slot.projection slot.ledger.length with
    | error e => simp [Except.toOption]
    | ok digests => simp [Except.toOption, eq_comm]

/-- A replayed slot with a head has a state. -/
theorem Slot.Replays.exists_verified (h : slot.Replays) {head : LedgerHead}
    (hhead : slot.ledgerHead = some head) :
    ∃ state, slot.verified = some state ∧ state.ledger = slot.ledger ∧ state.ledgerHead = head := by
  obtain ⟨digests, hdigests⟩ := exists_projectionDigests h slot.ledger.length
  exact ⟨_, Slot.verified_eq_some.mpr ⟨head, digests, hhead, hdigests, rfl⟩, rfl, rfl⟩

/-- The rows of a run. -/
def Slot.stored (slot : Slot) : Option StoredRun :=
  slot.ledgerHead.map fun head => ⟨slot.ledger, head⟩

/-- An engine whose runs replay: they are live, their audit events read back, and they grew from
nothing. -/
structure Repository.Sound (repository : Repository) : Prop where
  live : repository.Live
  reads : ∀ runId, AuditsReadBack (repository runId).slot.projection
  grown : ∀ runId, Relation.ReflTransGen Stores (emptySlot runId) (repository runId).slot

variable {repository : Repository}

/-- A live run is its slot, trusted. -/
theorem RunState.Live.eq_of_slot {run other : RunState} (hrun : run.Live) (hother : other.Live)
    (h : run.slot = other.slot) : run = other := by
  have hhead := hrun.trusted.head
  have hprojection := hrun.trusted.projection
  rw [h, ← hother.trusted.head] at hhead
  rw [h, ← hother.trusted.projection] at hprojection
  cases run
  cases other
  simp_all

theorem sound_empty : Repository.empty.Sound where
  live := live_repository_empty
  reads _ event hmem := by cases hmem
  grown _ := .refl

/-- A run without a head is empty. -/
theorem Repository.Sound.vacant (h : repository.Sound) {runId : UUID4}
    (hhead : (repository runId).slot.ledgerHead = none) : repository runId = RunState.empty runId := by
  have hledger := (h.live.live runId).settled.vacant.mp hhead
  have hslot : (repository runId).slot = emptySlot runId :=
    eq_of_length_le (h.grown runId) (by rw [hledger]; exact Nat.zero_le _)
  exact (h.live.live runId).eq_of_slot (live_empty runId) hslot

/-- Replaying the rows of a run leads back to the run. -/
theorem Repository.Sound.replayState_eq (h : repository.Sound) {runId : UUID4}
    {state : VerifiedRunState} (hstate : (repository runId).slot.verified = some state) :
    ∃ replayed, replayState state.ledger state.ledgerHead = .ok (state, replayed)
      ∧ RunState.restored state replayed = repository runId := by
  obtain ⟨head, digests, hhead, hdigests, rfl⟩ := Slot.verified_eq_some.mp hstate
  have hlive := h.live.live runId
  have hreplay := (replayRun_eq_ok hlive.settled hhead).mpr ⟨h.reads runId, digests, hdigests, rfl⟩
  refine ⟨(repository runId).slot.rebuilt digests, ?_, ?_⟩
  · have hrun := (hlive.settled.sealed head hhead).1
    unfold replayState
    refine bind_eq_ok.mpr ⟨_, hreplay, ?_⟩
    rw [← hrun]
    rfl
  · have hprojection := hlive.trusted.projection
    rw [hhead, Option.map_some] at hprojection
    have htrusted := hlive.trusted.head
    unfold RunState.restored Slot.rebuilt
    rw [← hhead, ← hprojection]
    cases hrun : repository runId with
    | mk slot trustedHead trustedProjection =>
      rw [hrun] at htrusted
      simp only at htrusted ⊢
      rw [htrusted]

/-! ## Reading -/

/-- The database holds the runs of an engine. -/
def Database.Holds (database : Database) (repository : Repository) : Prop :=
  ∀ runId, database.get? runId = (repository runId).slot.stored

/-- The states are those of the runs of an engine. -/
def RunStates.Describe (states : RunStates) (repository : Repository) : Prop :=
  ∀ runId, states.get? runId = (repository runId).slot.verified

/-- A state that a slot had before it grew. -/
def Slot.Had (slot : Slot) (state : VerifiedRunState) : Prop :=
  ∃ earlier : Slot, earlier.verified = some state ∧ Relation.ReflTransGen Stores earlier slot

/-- What is remembered are states that the runs had. -/
def RunStates.Anchor (anchors : RunStates) (repository : Repository) : Prop :=
  ∀ runId state, anchors.get? runId = some state → (repository runId).slot.Had state

theorem Slot.had_of_verified {state : VerifiedRunState} (h : slot.verified = some state) :
    slot.Had state := ⟨slot, h, .refl⟩

theorem Slot.Had.grows {state : VerifiedRunState} (h : slot.Had state)
    (hgrows : Relation.ReflTransGen Stores slot t) : t.Had state := by
  obtain ⟨earlier, hverified, hearlier⟩ := h
  exact ⟨earlier, hverified, hearlier.trans hgrows⟩

/-- A state with the ledger of the slot is the state of the slot. -/
theorem Slot.Had.verified_of_length {state : VerifiedRunState} (h : slot.Had state)
    (hlength : slot.ledger.length ≤ state.ledger.length) : slot.verified = some state := by
  obtain ⟨earlier, hverified, hgrows⟩ := h
  obtain ⟨head, digests, -, -, rfl⟩ := Slot.verified_eq_some.mp hverified
  rw [eq_of_length_le hgrows hlength]
  exact hverified

/-- Reading the rows of a run leads to its state, with or without a state to trust. -/
theorem Repository.Sound.readRun_eq (h : repository.Sound) {runId : UUID4} {stored : StoredRun}
    (hstored : (repository runId).slot.stored = some stored) {trusted : Option VerifiedRunState}
    (htrusted : ∀ state ∈ trusted, (repository runId).slot.Had state) :
    ∃ state, readRun trusted stored = .ok state
      ∧ (repository runId).slot.verified = some state := by
  unfold Slot.stored at hstored
  obtain ⟨head, hhead, rfl⟩ := Option.map_eq_some_iff.mp hstored
  obtain ⟨state, hstate, hledger, hstateHead⟩ :=
    (h.live.live runId).settled.toReplays.exists_verified hhead
  obtain ⟨replayed, hreplay, -⟩ := h.replayState_eq hstate
  rw [hledger, hstateHead] at hreplay
  have hread : Prod.fst <$> replayState (repository runId).slot.ledger head = .ok state := by
    rw [hreplay]
    rfl
  unfold readRun
  cases trusted with
  | none => exact ⟨state, hread, hstate⟩
  | some found =>
    simp only
    split
    · next hsame =>
      refine ⟨found, rfl, (htrusted found rfl).verified_of_length ?_⟩
      rw [hsame.1]
    · exact ⟨state, hread, hstate⟩

omit [Hashing] [Integrity] in
/-- Sorting the runs keeps them. -/
theorem mem_sortedRuns [Hashing] {database : Database} {item : UUID4 × StoredRun} :
    item ∈ sortedRuns database ↔ item ∈ database.items := by
  unfold sortedRuns
  exact List.mem_insertionSort _

/-- Reading a database that holds the runs of an engine leads to their states. -/
theorem Repository.Sound.readCatalog_eq (h : repository.Sound) {database : Database}
    (hholds : database.Holds repository) {trusted : UUID4 → Option VerifiedRunState}
    (htrusted : ∀ runId, ∀ state ∈ trusted runId, (repository runId).slot.Had state) :
    ∃ states, readCatalog trusted database = .ok states ∧ states.Describe repository := by
  have hrows : ∀ runId stored, (runId, stored) ∈ database.items →
      (repository runId).slot.stored = some stored := by
    intro runId stored hmem
    rw [← hholds runId]
    exact Dict.get?_eq_some.mpr hmem
  have hentries : ¬∃ stored ∈ database.values, stored.entries = [] := by
    rintro ⟨stored, hmem, hnil⟩
    obtain ⟨runId, hitem⟩ := Dict.mem_values_iff_items.mp hmem
    have hstored := hrows runId stored hitem
    unfold Slot.stored at hstored
    obtain ⟨head, hhead, rfl⟩ := Option.map_eq_some_iff.mp hstored
    have hnone := (h.live.live runId).settled.vacant.mpr hnil
    rw [hnone] at hhead
    cases hhead
  have hread : ∀ item ∈ sortedRuns database, ∃ state,
      readRun (trusted item.1) item.2 = .ok state
        ∧ (repository item.1).slot.verified = some state :=
    fun item hitem => h.readRun_eq (hrows item.1 item.2 (mem_sortedRuns.mp hitem)) (htrusted item.1)
  obtain ⟨states, hloop, hget⟩ := Dict.exists_foldlM_set
    (f := fun item => readRun (trusted item.1) item.2)
    (g := fun runId => (repository runId).slot.verified) hread .empty
  refine ⟨states, ?_, fun runId => ?_⟩
  · unfold readCatalog
    rw [raiseIf_bind_of_not hentries]
    exact hloop
  · rw [hget runId]
    split
    · rfl
    · next hmissing =>
      have hnone : database.get? runId = none := by
        rw [Dict.get?_eq_none]
        intro hmem
        obtain ⟨stored, hstored⟩ := Dict.mem_iff.mp hmem
        exact hmissing (List.mem_map.mpr
          ⟨(runId, stored), mem_sortedRuns.mpr (Dict.get?_eq_some.mp hstored), rfl⟩)
      rw [hholds runId] at hnone
      unfold Slot.stored at hnone
      unfold Slot.verified
      rw [Option.map_eq_none_iff.mp hnone]
      rfl

/-! ## Anchors -/

omit [Integrity] in
/-- The entries match exactly if the one ledger is a prefix of the other. -/
theorem prefixMatches_iff {base candidate : List LedgerEntry} :
    prefixMatches base candidate = true ↔ base <+: candidate := by
  unfold prefixMatches
  rw [Bool.and_eq_true, decide_eq_true_eq, List.all_eq_true]
  constructor
  · rintro ⟨hlength, hall⟩
    rw [List.prefix_iff_eq_take]
    refine List.ext_getElem (by simp [hlength]) fun i hi hi' => ?_
    have hcandidate : i < candidate.length := by omega
    have hzip : i < (base.zip candidate).length := by
      rw [List.length_zip]
      omega
    have hpair := hall _ (List.getElem_mem hzip)
    rw [List.getElem_zip, decide_eq_true_eq] at hpair
    rw [List.getElem_take]
    exact hpair
  · rintro ⟨suffix, rfl⟩
    refine ⟨by rw [List.length_append]; omega, fun pair hpair => ?_⟩
    obtain ⟨i, hi, rfl⟩ := List.getElem_of_mem hpair
    rw [List.length_zip, List.length_append] at hi
    rw [List.getElem_zip, List.getElem_append_left (by omega), decide_eq_true_eq]

/-- What a slot had passes the checks against what it has. -/
theorem Slot.Had.checkAnchor_eq {trusted state : VerifiedRunState} (h : slot.Had trusted)
    (hstate : slot.verified = some state) : checkAnchor trusted state = .ok () := by
  obtain ⟨earlier, hverified, hgrows⟩ := h
  obtain ⟨oldHead, oldDigests, -, -, rfl⟩ := Slot.verified_eq_some.mp hverified
  obtain ⟨head, digests, -, -, rfl⟩ := Slot.verified_eq_some.mp hstate
  have hextends := ledger_extends hgrows
  have hmatches := prefixMatches_iff.mpr hextends
  unfold prefixMatches at hmatches
  rw [Bool.and_eq_true, List.all_eq_true] at hmatches
  unfold checkAnchor
  simp only [raiseIf_bind_eq_ok, raiseIf_eq_ok, not_lt, not_exists, not_and, not_not]
  refine ⟨hextends.length_le, fun pair hpair => of_decide_eq_true (hmatches.2 pair hpair),
    fun hlength => ?_⟩
  have hsame := eq_of_length_le hgrows hlength.le
  subst hsame
  rw [hverified] at hstate
  exact (congrArg VerifiedRunState.ledgerHead (Option.some.inj hstate)).symm

/-- A run that had a state has one. -/
theorem Repository.Sound.exists_verified (h : repository.Sound) {runId : UUID4}
    {trusted : VerifiedRunState} (hhad : (repository runId).slot.Had trusted) :
    ∃ state, (repository runId).slot.verified = some state := by
  obtain ⟨earlier, hverified, hgrows⟩ := hhad
  obtain ⟨oldHead, -, hold, -, -⟩ := Slot.verified_eq_some.mp hverified
  have hhead : (repository runId).slot.ledgerHead ≠ none := by
    intro hnone
    have hledger := (h.live.live runId).settled.vacant.mp hnone
    have hempty : earlier.ledger = [] := List.prefix_nil.mp (hledger ▸ ledger_extends hgrows)
    have hsame := eq_of_length_le hgrows (by rw [hledger, hempty])
    rw [hsame, hold] at hnone
    cases hnone
  obtain ⟨head, hsome⟩ := Option.ne_none_iff_exists'.mp hhead
  obtain ⟨state, hstate, -, -⟩ := (h.live.live runId).settled.toReplays.exists_verified hsome
  exact ⟨state, hstate⟩

/-- Remembering the states of the runs does not raise, and what is remembered are states that they
had. -/
theorem Repository.Sound.checkAndRememberAnchors_eq (h : repository.Sound) {states : RunStates}
    (hstates : states.Describe repository) {connection : Connection}
    (hanchors : connection.anchors.Anchor repository) :
    ∃ next, checkAndRememberAnchors states connection = .ok () next
      ∧ next.database = connection.database ∧ next.anchors.Anchor repository := by
  have hknown : ¬∃ runId ∈ connection.anchors.keys, runId ∉ states := by
    rintro ⟨runId, hmem, hmissing⟩
    obtain ⟨trusted, htrusted⟩ := Dict.mem_iff.mp (Dict.mem_def.mpr hmem)
    obtain ⟨state, hstate⟩ := h.exists_verified (hanchors runId trusted htrusted)
    rw [← hstates runId] at hstate
    exact hmissing (Dict.mem_of_get? hstate)
  -- a round remembers a state that its run has
  have hround : ∀ item ∈ states.items, ∀ s : Connection,
      s.database = connection.database ∧ s.anchors.Anchor repository →
      ∃ t, rememberAnchor item s = .ok () t
        ∧ t.database = connection.database ∧ t.anchors.Anchor repository := by
    rintro ⟨runId, state⟩ hitem s ⟨hdatabase, hs⟩
    have hstate : (repository runId).slot.verified = some state := by
      rw [← hstates runId]
      exact Dict.get?_eq_some.mpr hitem
    have hcheck : checked (forM (s.anchors.get? runId).toList fun trusted =>
        checkAnchor trusted state) = .ok () := by
      unfold checked
      rw [mapError_eq_ok]
      refine forM_eq_ok.mpr fun trusted htrusted => ?_
      rw [Option.mem_toList] at htrusted
      exact (hs runId trusted htrusted).checkAnchor_eq hstate
    refine ⟨{ s with anchors := s.anchors.set runId state }, ?_, hdatabase, ?_⟩
    · unfold rememberAnchor
      rw [get_bind]
      simp only
      rw [lift_bind_of_ok hcheck]
      rfl
    · intro id found hfound
      rcases Dict.get?_set_eq_some.mp hfound with ⟨rfl, rfl⟩ | ⟨-, hother⟩
      · exact Slot.had_of_verified hstate
      · exact hs id found hother
  have hall : checked (raiseIf (∃ runId ∈ connection.anchors.keys, runId ∉ states)
      (RepositoryError.digestVerification "durable ledger rollback")) = .ok () := by
    unfold checked
    rw [mapError_eq_ok, raiseIf_eq_ok]
    exact hknown
  obtain ⟨next, hloop, hdatabase, hnext⟩ := exists_forM_eq_ok hround ⟨rfl, hanchors⟩
  refine ⟨next, ?_, hdatabase, hnext⟩
  unfold checkAndRememberAnchors
  rw [get_bind, lift_bind_of_ok hall]
  exact hloop

/-! ## Loading -/

/-- A connection to a database with the runs of an engine, which remembers states that they had. -/
structure Connection.Serves (connection : Connection) (repository : Repository) : Prop where
  holds : connection.database.Holds repository
  anchors : connection.anchors.Anchor repository

/-- A step left the database as it was, and remembers states that the runs had. -/
structure Connection.Looked (connection : Connection) (repository : Repository) (next : Connection) :
    Prop where
  database : next.database = connection.database
  anchors : next.anchors.Anchor repository

variable {connection next : Connection} {environment : Environment}

theorem Connection.Serves.looked (h : connection.Serves repository) :
    connection.Looked repository connection := ⟨rfl, h.anchors⟩

theorem Connection.Looked.serves (h : connection.Looked repository next)
    (hserves : connection.Serves repository) : next.Serves repository where
  holds := by
    rw [h.database]
    exact hserves.holds
  anchors := h.anchors

omit [Hashing] [Integrity] in
theorem transaction_eq_ok [Hashing] {α : Type} {x : SqliteM α} {a : α} {connection next : Connection} :
    transaction x connection = .ok a next ↔ x connection = .ok a next := by
  unfold transaction
  cases x connection <;> simp

/-- A transaction whose statements remember states that the runs had does so, and leaves the database
as it was if it raises. -/
theorem transaction_error {α : Type} {x : SqliteM α} {error : SqliteError}
    (hx : ∀ e t, x connection = .error e t → t.anchors.Anchor repository)
    (h : transaction x connection = .error error next) : connection.Looked repository next := by
  unfold transaction at h
  cases hrun : x connection with
  | ok a t =>
    rw [hrun] at h
    cases h
  | error e t =>
    rw [hrun] at h
    cases h
    exact ⟨rfl, hx error t hrun⟩

/-- A read of a database with the runs of an engine returns their states, or raises. -/
theorem Repository.Sound.readDurable_eq_ok (h : repository.Sound)
    (hholds : connection.database.Holds repository) {faults : ReadFaults}
    {trusted : UUID4 → Option VerifiedRunState}
    (htrusted : ∀ runId, ∀ state ∈ trusted runId, (repository runId).slot.Had state)
    {states : RunStates} (hread : readDurable faults trusted connection = .ok states next) :
    next = connection ∧ states.Describe repository := by
  unfold readDurable at hread
  obtain ⟨-, hread⟩ := Stateful.raiseIf_bind_eq_ok.mp hread
  obtain ⟨-, hread⟩ := Stateful.raiseIf_bind_eq_ok.mp hread
  rw [get_bind] at hread
  obtain ⟨hcatalog, rfl⟩ := lift_eq_ok.mp hread
  obtain ⟨found, hfound, hdescribe⟩ := h.readCatalog_eq hholds htrusted
  unfold checked at hcatalog
  rw [mapError_eq_ok, hfound, Except.ok.injEq] at hcatalog
  exact ⟨rfl, hcatalog ▸ hdescribe⟩

/-- A read does not change what is remembered. -/
theorem atomic_readDurable {faults : ReadFaults} {trusted : UUID4 → Option VerifiedRunState} :
    Atomic (readDurable faults trusted) := by
  unfold readDurable
  exact .lift_bind fun _ _ => .lift_bind fun _ _ => .get_bind fun _ => atomic_lift

/-- A read leaves the connection as it was. -/
theorem readDurable_ok {faults : ReadFaults} {trusted : UUID4 → Option VerifiedRunState}
    {states : RunStates} (h : readDurable faults trusted connection = .ok states next) :
    next = connection := by
  unfold readDurable at h
  obtain ⟨-, h⟩ := Stateful.raiseIf_bind_eq_ok.mp h
  obtain ⟨-, h⟩ := Stateful.raiseIf_bind_eq_ok.mp h
  rw [get_bind] at h
  exact (lift_eq_ok.mp h).2.symm

/-- The statements of a read. -/
theorem atomic_readStatements : Atomic (do
    raiseIf (environment.begins = true) SqliteError.sqliteRepository
    let states ← readDurable environment.read fun _ => none
    raiseIf (environment.commit = true) SqliteError.sqliteRepository
    pure states : SqliteM RunStates) := by
  refine .lift_bind fun _ _ => ?_
  intro s e t herror
  rcases bind_eq_error.mp herror with hread | ⟨states, middle, hread, hrest⟩
  · exact atomic_readDurable hread
  · rw [← readDurable_ok hread]
    exact Atomic.lift_bind (fun _ _ => atomic_pure) hrest

/-- A read in a transaction of its own leaves the database as it was, and returns the states of the
runs if it returns. -/
theorem Repository.Sound.readTransaction_spec (h : repository.Sound)
    (hserves : connection.Serves repository) (environment : Environment) :
    EndsIn (readTransaction environment) connection (connection.Looked repository)
      ∧ ∀ states next, readTransaction environment connection = .ok states next →
        states.Describe repository := by
  -- what the transaction returns is remembered, which does not raise
  have hread : ∀ states middle, transaction (do
      raiseIf (environment.begins = true) SqliteError.sqliteRepository
      let states ← readDurable environment.read fun _ => none
      raiseIf (environment.commit = true) SqliteError.sqliteRepository
      pure states) connection = .ok states middle →
      states.Describe repository ∧ ∃ next, checkAndRememberAnchors states middle = .ok () next
        ∧ connection.Looked repository next := by
    intro states middle htransaction
    rw [transaction_eq_ok] at htransaction
    obtain ⟨-, hstatements⟩ := Stateful.raiseIf_bind_eq_ok.mp htransaction
    obtain ⟨read, u, hdurable, hcommit⟩ := Stateful.bind_eq_ok.mp hstatements
    obtain ⟨-, hpure⟩ := Stateful.raiseIf_bind_eq_ok.mp hcommit
    cases hpure
    obtain ⟨rfl, hdescribe⟩ := h.readDurable_eq_ok hserves.holds (by simp) hdurable
    obtain ⟨next, hremember, hdatabase, hanchors⟩ :=
      h.checkAndRememberAnchors_eq hdescribe hserves.anchors
    exact ⟨hdescribe, next, hremember, hdatabase, hanchors⟩
  unfold readTransaction
  constructor
  · refine .bind (fun e t herror => transaction_error (fun e t hraised => ?_) herror) ?_
    · rw [atomic_readStatements hraised]
      exact hserves.anchors
    · intro states middle htransaction
      obtain ⟨-, next, hremember, hlooked⟩ := hread states middle htransaction
      constructor
      · intro a t ht
        rw [bind_of_ok hremember] at ht
        cases ht
        exact hlooked
      · intro e t ht
        rw [bind_of_ok hremember] at ht
        cases ht
  · intro states next hok
    obtain ⟨found, middle, htransaction, hrest⟩ := Stateful.bind_eq_ok.mp hok
    obtain ⟨hdescribe, t, hremember, -⟩ := hread found middle htransaction
    rw [bind_of_ok hremember] at hrest
    cases hrest
    exact hdescribe

/-- A run that is not among the states is one without entries. -/
theorem Repository.Sound.vacant_of_notMem (h : repository.Sound) {states : RunStates}
    (hstates : states.Describe repository) {runId : UUID4} (hmem : runId ∉ states) :
    repository runId = RunState.empty runId := by
  refine h.vacant (Option.eq_none_iff_forall_ne_some.mpr fun head hhead => ?_)
  obtain ⟨state, hstate, -, -⟩ := (h.live.live runId).settled.toReplays.exists_verified hhead
  rw [← hstates runId] at hstate
  exact hmem (Dict.mem_of_get? hstate)

/-- A loop that installs every state in an engine without runs leads to the engine. -/
theorem Repository.Sound.installAll_eq (h : repository.Sound) {states : RunStates}
    (hstates : states.Describe repository)
    {install : Repository → UUID4 × VerifiedRunState → Except RepositoryError Repository}
    (hinstall : ∀ engine runId state, (repository runId).slot.verified = some state →
      engine runId = RunState.empty runId →
      install engine (runId, state) = .ok (Function.update engine runId (repository runId))) :
    states.items.foldlM install Repository.empty = .ok repository := by
  have hround : ∀ item ∈ states.items, ∀ engine : Repository,
      engine item.1 = Repository.empty item.1 →
      install engine item = .ok (Function.update engine item.1 (repository item.1)) := by
    rintro ⟨runId, state⟩ hitem engine hvacant
    refine hinstall engine runId state ?_ hvacant
    rw [← hstates runId]
    exact Dict.get?_eq_some.mpr hitem
  rw [Dict.foldlM_update hround states.nodup_keys, Except.ok.injEq]
  funext runId
  split
  · rfl
  · next hmissing => exact (h.vacant_of_notMem hstates hmissing).symm

/-- A verified state is of the run of its slot. -/
theorem Repository.Sound.verified_runId (h : repository.Sound) {runId : UUID4}
    {state : VerifiedRunState} (hstate : (repository runId).slot.verified = some state) :
    state.runId = runId := by
  obtain ⟨head, digests, -, -, rfl⟩ := Slot.verified_eq_some.mp hstate
  exact h.live.runId runId

theorem Repository.Sound.restoreRun_eq (h : repository.Sound) {engine : Repository} {runId : UUID4}
    {state : VerifiedRunState} (hstate : (repository runId).slot.verified = some state)
    (hvacant : engine runId = RunState.empty runId) :
    restoreRun engine state = .ok (Function.update engine runId (repository runId)) := by
  obtain ⟨replayed, hreplay, hrestored⟩ := h.replayState_eq hstate
  have hrun := h.verified_runId hstate
  have hfree : ¬((engine state.runId).isVacant = false
      ∨ (engine state.runId).hasTrustedState = true) := by
    rw [hrun, hvacant]
    simp [RunState.isVacant, RunState.hasTrustedState, RunState.empty, emptySlot]
  unfold restoreRun
  refine bind_eq_ok.mpr ⟨_, hreplay, raiseIf_bind_eq_ok.mpr ⟨hfree, ?_⟩⟩
  rw [pure_eq_ok, hrestored, hrun]

theorem Repository.Sound.installReplayedRun_eq (h : repository.Sound) {engine : Repository}
    {runId : UUID4} {state : VerifiedRunState}
    (hstate : (repository runId).slot.verified = some state) :
    installReplayedRun engine (runId, state)
      = .ok (Function.update engine runId (repository runId)) := by
  obtain ⟨replayed, hreplay, hrestored⟩ := h.replayState_eq hstate
  have hrun : ¬runId ≠ state.runId := not_not.mpr (h.verified_runId hstate).symm
  unfold installReplayedRun
  refine bind_eq_ok.mpr ⟨_, hreplay, raiseIf_bind_eq_ok.mpr ⟨hrun, ?_⟩⟩
  rw [pure_eq_ok, hrestored]

/-- A load that returns leads to the engine, with the states of its runs. -/
structure Loaded (connection : Connection) (repository engine : Repository) (states : RunStates)
    (next : Connection) : Prop where
  looked : connection.Looked repository next
  engine_eq : engine = repository
  states : states.Describe repository

/-- Loading the engine of a database that holds its runs. -/
theorem Repository.Sound.load_spec (h : repository.Sound) (hserves : connection.Serves repository)
    {install : RunStates → Except RepositoryError Repository}
    (hinstall : ∀ states, states.Describe repository → install states = .ok repository) :
    EndsIn (do
      let states ← readTransaction environment
      let engine ← checked (install states)
      pure (engine, states) : SqliteM (Repository × RunStates)) connection
        (connection.Looked repository)
      ∧ ∀ engine states next, (do
          let states ← readTransaction environment
          let engine ← checked (install states)
          pure (engine, states) : SqliteM (Repository × RunStates)) connection
            = .ok (engine, states) next → Loaded connection repository engine states next := by
  obtain ⟨hends, hdescribe⟩ := h.readTransaction_spec hserves environment
  refine ⟨.bind hends.error fun states middle hread => ?_, fun engine states next hload => ?_⟩
  · have hlooked := hends.ok states middle hread
    exact .lift_bind hlooked fun engine _ => .pure hlooked
  · obtain ⟨found, middle, hread, hrest⟩ := Stateful.bind_eq_ok.mp hload
    obtain ⟨installed, hinstalled, hpure⟩ := lift_bind_eq_ok.mp hrest
    cases hpure
    have hstates := hdescribe states next hread
    unfold checked at hinstalled
    rw [mapError_eq_ok, hinstall states hstates, Except.ok.injEq] at hinstalled
    exact ⟨hends.ok states next hread, hinstalled.symm, hstates⟩

theorem Repository.Sound.loadBatchEngine_spec (h : repository.Sound)
    (hserves : connection.Serves repository) (environment : Environment) :
    EndsIn (loadBatchEngine environment) connection (connection.Looked repository)
      ∧ ∀ engine states next, loadBatchEngine environment connection = .ok (engine, states) next →
        Loaded connection repository engine states next :=
  h.load_spec hserves fun _ hstates =>
    h.installAll_eq hstates fun _ _ _ hstate _ => h.installReplayedRun_eq hstate

theorem Repository.Sound.loadEngine_spec (h : repository.Sound)
    (hserves : connection.Serves repository) (environment : Environment) :
    EndsIn (loadEngine environment) connection (connection.Looked repository)
      ∧ ∀ engine states next, loadEngine environment connection = .ok (engine, states) next →
        Loaded connection repository engine states next := by
  refine h.load_spec hserves fun states hstates => ?_
  rw [Dict.values, List.foldlM_map]
  exact h.installAll_eq hstates fun _ _ _ hstate hvacant => h.restoreRun_eq hstate hvacant

/-- Loading the engine of a call. -/
theorem Repository.Sound.callLoad_spec (h : repository.Sound)
    (hserves : connection.Serves repository) (call : Call) (environment : Environment) :
    EndsIn (call.load environment) connection (connection.Looked repository)
      ∧ ∀ engine states next, call.load environment connection = .ok (engine, states) next →
        Loaded connection repository engine states next := by
  unfold Call.load
  split
  · exact h.loadBatchEngine_spec hserves environment
  · exact h.loadEngine_spec hserves environment

/-- The ledger of a run in a database that holds it. -/
theorem Repository.Sound.ledger_eq (h : repository.Sound) {database : Database}
    (hholds : database.Holds repository) (runId : UUID4) :
    database.ledger runId = (repository runId).slot.ledger := by
  unfold Database.ledger
  rw [hholds runId]
  unfold Slot.stored
  cases hhead : (repository runId).slot.ledgerHead with
  | none => exact ((h.live.live runId).settled.vacant.mp hhead).symm
  | some head => rfl

/-- The ledger of the state of a run. -/
theorem Repository.Sound.verified_ledger (h : repository.Sound) (runId : UUID4) :
    (repository runId).slot.verified.elim [] VerifiedRunState.ledger
      = (repository runId).slot.ledger := by
  cases hhead : (repository runId).slot.ledgerHead with
  | none =>
    unfold Slot.verified
    rw [hhead]
    exact ((h.live.live runId).settled.vacant.mp hhead).symm
  | some head =>
    obtain ⟨state, hstate, hledger, -⟩ :=
      (h.live.live runId).settled.toReplays.exists_verified hhead
    rw [hstate]
    exact hledger

end SalienceGate
