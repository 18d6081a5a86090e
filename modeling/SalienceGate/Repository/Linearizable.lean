import SalienceGate.Repository.SqliteCommits

/-!
# The repositories over one database

Whatever the repositories over one database do, and in whatever order their steps take place, the
database holds what the calls that committed lead to, one after the other. A call that commits adds
the entries that it computed to the ledger from which it computed them; every other step leaves the
database as it was.
-/

namespace SalienceGate

open Checked
open Stateful hiding bind_eq_ok check_bind_eq_ok raiseIf_bind_eq_ok expect_bind_eq_ok

variable [Hashing] [Integrity] [Serialization] {repository later : Repository}

/-! ## Phases -/

/-- What a call at a phase has from the database is of an engine that has grown to the present one. -/
def Phase.Fits (repository : Repository) : Phase → Prop
  | .starting .. | .refused .. => True
  | .loaded _ _ engine states =>
    engine.Sound ∧ states.Describe engine ∧ engine.Older repository
  | .applied call _ receipt candidate base =>
    ∃ old runId run, call.Computed receipt candidate base old runId run ∧ old.Older repository

theorem Phase.Fits.grows {phase : Phase} (h : phase.Fits repository)
    (holder : repository.Older later) : phase.Fits later := by
  cases phase with
  | starting => trivial
  | refused => trivial
  | loaded call attempts engine states =>
    obtain ⟨hsound, hstates, hengine⟩ := h
    exact ⟨hsound, hstates, hengine.trans holder⟩
  | applied call attempts receipt candidate base =>
    obtain ⟨old, runId, run, hcomputed, hold⟩ := h
    exact ⟨old, runId, run, hcomputed, hold.trans holder⟩

/-- A commit that takes place, of what a call computed from the run that is there. -/
structure Takes (repository : Repository) (phase : Phase) (call : Call) (receipt : OperationReceipt)
    (candidate : VerifiedRunState) (base : Option VerifiedRunState) (runId : UUID4) (run : RunState) :
    Prop where
  phase_eq : ∃ attempts, phase = .applied call attempts receipt candidate base
  computed : call.Computed receipt candidate base repository runId run

variable {environment : Environment} {connection next : Connection} {phase : Phase}

/-- What a call computed from a run, it computed from every engine with the run. -/
theorem Call.Computed.of_run_eq {call : Call} {receipt : OperationReceipt}
    {candidate : VerifiedRunState} {base : Option VerifiedRunState} {old : Repository}
    {runId : UUID4} {run : RunState} (h : call.Computed receipt candidate base old runId run)
    (hrepository : repository.Sound) (hrun : repository runId = old runId) :
    call.Computed receipt candidate base repository runId run where
  sound := hrepository
  performs other hother := h.performs other (hother.trans hrun)
  candidate := h.candidate
  base := by rw [hrun, h.base]

/-- What a step of a call leads to. -/
structure Advances (outcome : Outcome × Connection) (connection : Connection)
    (repository : Repository) (phase : Phase) : Prop where
  continues : ∀ phase', outcome.1 = .continues phase' →
    connection.Looked repository outcome.2 ∧ phase'.Fits repository
  raises : ∀ error, outcome.1 = .raises error → connection.Looked repository outcome.2
  returns : ∀ call receipt, outcome.1 = .returns call receipt →
    ∃ candidate base runId run, Takes repository phase call receipt candidate base runId run
      ∧ outcome.2.Serves (repository.set runId run)

/-- A step that does not commit. -/
theorem Advances.of_looked {outcome : Outcome} (hlooked : connection.Looked repository next)
    (hcontinues : ∀ phase', outcome = .continues phase' → phase'.Fits repository)
    (hreturns : ∀ call receipt, outcome ≠ .returns call receipt) :
    Advances (outcome, next) connection repository phase where
  continues phase' h := ⟨hlooked, hcontinues phase' h⟩
  raises _ _ := hlooked
  returns call receipt h := absurd h (hreturns call receipt)

/-- Every step of a call leads to one of them. -/
theorem advances (hrepository : repository.Sound) (hserves : connection.Serves repository)
    (hphase : phase.Fits repository) (environment : Environment) :
    Advances (advance environment connection phase) connection repository phase := by
  cases phase with
  | starting call attempts =>
    cases attempts with
    | zero => exact .of_looked hserves.looked (fun _ h => by cases h) fun _ _ h => by cases h
    | succ attempts =>
      obtain ⟨hends, hloaded⟩ :=
        hrepository.callLoad_spec hserves call environment
      cases hload : call.load environment connection with
      | ok loaded t =>
        obtain ⟨hlooked, hengine, hstates⟩ := hloaded loaded.1 loaded.2 t hload
        simp only [advance, hload]
        refine .of_looked hlooked (fun phase' h => ?_) fun _ _ h => by cases h
        cases h
        rw [Phase.Fits, hengine]
        exact ⟨hrepository, hstates, .refl _⟩
      | error error t =>
        simp only [advance, hload]
        exact .of_looked (hends.error error t hload) (fun _ h => by cases h) fun _ _ h => by cases h
  | loaded call attempts engine states =>
    obtain ⟨hengine, hstates, holder⟩ := hphase
    simp only [advance]
    rcases applyOperation_cases hengine hstates with
      ⟨error, happlied⟩ | ⟨error, runId, before, happlied⟩
        | ⟨receipt, candidate, base, runId, run, happlied, hcomputed⟩
    · rw [happlied]
      exact .of_looked hserves.looked (fun _ h => by cases h) fun _ _ h => by cases h
    · rw [happlied]
      refine .of_looked hserves.looked (fun phase' h => ?_) fun _ _ h => by cases h
      cases h
      trivial
    · rw [happlied]
      refine .of_looked hserves.looked (fun phase' h => ?_) fun _ _ h => by cases h
      cases h
      exact ⟨engine, runId, run, hcomputed, holder⟩
  | refused call attempts error runId before =>
    simp only [advance]
    split
    · exact .of_looked hserves.looked (fun _ h => by cases h) fun _ _ h => by cases h
    · split
      · refine .of_looked hserves.looked (fun phase' h => ?_) fun _ _ h => by cases h
        cases h
        trivial
      · exact .of_looked hserves.looked (fun _ h => by cases h) fun _ _ h => by cases h
  | applied call attempts receipt candidate base =>
    obtain ⟨old, runId, run, hcomputed, hold⟩ := hphase
    have hcommits := hcomputed.commits hrepository hserves hold environment
    cases hcommit : call.commit environment candidate base connection with
    | error error t =>
      simp only [advance, hcommit]
      exact .of_looked (hcommits.error error t hcommit) (fun _ h => by cases h)
        fun _ _ h => by cases h
    | ok committed t =>
      cases committed with
      | false =>
        simp only [advance, hcommit, Call.lostRace]
        refine .of_looked (hcommits.lost t hcommit) (fun phase' h => ?_) fun made receipt h => ?_
        · split at h
          · cases h
            trivial
          · cases h
        · split at h <;> cases h
      | true =>
        obtain ⟨hrun, hnext⟩ := hcommits.committed t hcommit
        simp only [advance, hcommit]
        refine ⟨fun _ h => (by cases h), fun _ h => (by cases h), fun made receipt h => ?_⟩
        cases h
        exact ⟨candidate, base, runId, run, ⟨⟨attempts, rfl⟩, hcomputed.of_run_eq hrepository hrun⟩,
          hnext⟩

/-! ## Steps of the system -/

variable {ι : Type} [DecidableEq ι] {s t : System ι} {event : Event ι} {i : ι}

/-- The database holds the runs of an engine, and every repository fits it. -/
structure System.Serves (s : System ι) (repository : Repository) : Prop where
  sound : repository.Sound
  holds : s.database.Holds repository
  anchors : ∀ i, (s.instances i).anchors.Anchor repository
  phases : ∀ i phase, (s.instances i).call = some phase → phase.Fits repository

omit [DecidableEq ι] in
theorem System.Serves.serves (h : s.Serves repository) (i : ι) :
    (s.connection i).Serves repository := ⟨h.holds, h.anchors i⟩

omit [DecidableEq ι] in
theorem serves_initial : (System.initial : System ι).Serves Repository.empty where
  sound := sound_empty
  holds _ := rfl
  anchors _ _ _ h := by cases h
  phases _ _ h := by cases h

omit [Integrity] in
@[simp] theorem System.after_self {call : Option Phase} :
    (s.after i next call).instances i = { anchors := next.anchors, call } :=
  Function.update_self ..

omit [Integrity] in
theorem System.after_of_ne {call : Option Phase} {j : ι} (h : j ≠ i) :
    (s.after i next call).instances j = s.instances j :=
  Function.update_of_ne h ..

omit [Integrity] in
/-- A repository sees the database after its own step. -/
theorem System.connection_after {call : Option Phase} : (s.after i next call).connection i = next := by
  unfold System.connection
  rw [System.after_self]
  rfl

/-- A step of one repository, after which the others fit a later engine. -/
theorem System.Serves.after (h : s.Serves repository) (hlater : later.Sound)
    (holder : repository.Older later) (hserves : next.Serves later) {call : Option Phase}
    (hcall : ∀ phase, call = some phase → phase.Fits later) :
    (s.after i next call).Serves later := by
  refine ⟨hlater, hserves.holds, fun j => ?_, fun j phase hphase => ?_⟩
  · by_cases hj : j = i
    · rw [hj, System.after_self]
      exact hserves.anchors
    · rw [System.after_of_ne hj]
      exact (h.anchors j).grows holder
  · by_cases hj : j = i
    · rw [hj, System.after_self] at hphase
      exact hcall phase hphase
    · rw [System.after_of_ne hj] at hphase
      exact (h.phases j phase hphase).grows holder

/-- A step of a repository that leaves the database as it was. -/
theorem System.Serves.looked (h : s.Serves repository)
    (hlooked : (s.connection i).Looked repository next) {call : Option Phase}
    (hcall : ∀ phase, call = some phase → phase.Fits repository) :
    (s.after i next call).Serves repository ∧ (s.after i next call).database = s.database :=
  ⟨h.after h.sound (.refl _) (hlooked.serves (h.serves i)) hcall, hlooked.database⟩

/-- The call that commits in a step, with its receipt. -/
def Event.commit : Event ι → Option (Call × OperationReceipt)
  | .committed _ call receipt _ => some (call, receipt)
  | _ => none

/-- The operation of a call, performed on an engine. -/
def Performs (repository : Repository) (performed : Call × OperationReceipt) (next : Repository) :
    Prop :=
  performed.1.perform repository = .ok performed.2 next

/-- A step in which no call commits leaves the database as it was. -/
theorem System.Serves.silent (h : s.Serves repository) (hstep : Step s event t)
    (hevent : event.commit = none) : t.Serves repository ∧ t.database = s.database := by
  have hidle : ∀ phase : Phase, (none : Option Phase) = some phase → phase.Fits repository := by
    intro phase hphase
    cases hphase
  cases hstep with
  | opened i environment states next hread =>
    have hempty : Connection.Serves ⟨s.database, .empty⟩ repository :=
      ⟨h.holds, fun _ _ hget => by cases hget⟩
    obtain ⟨hends, -⟩ := h.sound.readTransaction_spec hempty environment
    obtain ⟨hdatabase, hanchors⟩ := hends.ok states next hread
    exact h.looked ⟨hdatabase, hanchors⟩ hidle
  | called i call idle hprecheck =>
    refine h.looked (h.serves i).looked fun phase hphase => ?_
    cases hphase
    trivial
  | refused i call idle error hprecheck => exact ⟨h, rfl⟩
  | continued i phase phase' environment next call_eq hadvance =>
    have hadvances := advances h.sound (h.serves i) (h.phases i phase call_eq) environment
    rw [hadvance] at hadvances
    obtain ⟨hlooked, hfits⟩ := hadvances.continues phase' rfl
    refine h.looked hlooked fun found hfound => ?_
    cases hfound
    exact hfits
  | committed => cases hevent
  | raised i phase environment next error call_eq hadvance =>
    have hadvances := advances h.sound (h.serves i) (h.phases i phase call_eq) environment
    rw [hadvance] at hadvances
    exact h.looked (hadvances.raises error rfl) hidle
  | read i environment idle =>
    obtain ⟨hends, -⟩ := h.sound.loadEngine_spec (h.serves i) environment
    exact h.looked hends.after hidle
  | stopped i => exact h.looked (h.serves i).looked hidle

/-- What a step in which a call commits does: the operation of the call leads from the engine of the
database to that of the database after the step, and its run has the ledger that the call computed. -/
structure StepCommits (s t : System ι) (repository later : Repository) (i : ι) (call : Call)
    (receipt : OperationReceipt) : Prop where
  performs : Performs repository (call, receipt) later
  serves : t.Serves later
  appends : ∃ attempts candidate base,
    (s.instances i).call = some (.applied call attempts receipt candidate base)
      ∧ s.database.ledger candidate.runId = base.elim [] VerifiedRunState.ledger
      ∧ s.database.ledger candidate.runId <+: candidate.ledger
      ∧ t.database.ledger candidate.runId = candidate.ledger
      ∧ ∀ runId, runId ≠ candidate.runId → t.database.get? runId = s.database.get? runId

/-- A step in which a call commits performs its operation. -/
theorem System.Serves.commits (h : s.Serves repository) {call : Call} {receipt : OperationReceipt}
    {answered : Bool} (hstep : Step s (.committed i call receipt answered) t) :
    ∃ later, StepCommits s t repository later i call receipt := by
  cases hstep with
  | committed _ phase environment next _ _ _ call_eq hadvance =>
    have hadvances := advances h.sound (h.serves i) (h.phases i phase call_eq) environment
    rw [hadvance] at hadvances
    obtain ⟨candidate, base, runId, run, ⟨⟨attempts, rfl⟩, hcomputed⟩, hserves⟩ :=
      hadvances.returns call receipt rfl
    obtain ⟨hlater, holder⟩ := hcomputed.next h.sound rfl
    have hrun := hcomputed.candidate_runId
    have hledger := h.sound.ledger_eq h.holds runId
    refine ⟨repository.set runId run, hcomputed.performs repository rfl, ?_, attempts, candidate,
      base, call_eq, ?_, ?_, ?_, fun id hid => ?_⟩
    · refine h.after hlater holder hserves fun phase hphase => ?_
      cases hphase
    · rw [hrun, hledger, hcomputed.base, h.sound.verified_ledger]
    · rw [hrun, hledger]
      exact hcomputed.ledger_extends
    · obtain ⟨head, digests, -, -, rfl⟩ := Slot.verified_eq_some.mp hcomputed.candidate.verified
      have hnext := hlater.ledger_eq hserves.holds runId
      rw [Repository.set_self] at hnext
      rw [hrun]
      exact hnext
    · rw [hrun] at hid
      have hnext := hserves.holds id
      rw [Repository.set_of_ne hid, ← h.holds id] at hnext
      exact hnext

/-! ## Runs of the system -/

/-- The database of a system holds what the calls that committed lead to, in order. -/
theorem serves_of_runs {events : List (Event ι)} (h : Runs Step System.initial events s) :
    ∃ repository, Runs Performs Repository.empty (events.filterMap Event.commit) repository
      ∧ s.Serves repository := by
  refine h.simulates serves_initial (fun s event t repository hserves hstep hevent => ?_)
    fun s event t repository performed hserves hstep hevent => ?_
  · exact (hserves.silent hstep hevent).1
  · cases event with
    | committed i call receipt answered =>
      cases hevent
      obtain ⟨later, hcommits⟩ := hserves.commits hstep
      exact ⟨later, hcommits.performs, hcommits.serves⟩
    | _ => cases hevent

/-- After a step the database holds the runs of an engine again, whose ledgers extend those before. -/
theorem System.Serves.step (h : s.Serves repository) (hstep : Step s event t) :
    (∃ later, t.Serves later)
      ∧ ∀ runId, s.database.ledger runId <+: t.database.ledger runId := by
  cases hevent : event.commit with
  | none =>
    obtain ⟨hserves, hdatabase⟩ := h.silent hstep hevent
    refine ⟨⟨repository, hserves⟩, fun runId => ?_⟩
    rw [hdatabase]
  | some performed =>
    cases event with
    | committed i call receipt answered =>
      obtain ⟨later, hcommits⟩ := h.commits hstep
      obtain ⟨attempts, candidate, base, -, -, hextends, hledger, hothers⟩ := hcommits.appends
      refine ⟨⟨later, hcommits.serves⟩, fun runId => ?_⟩
      by_cases hrun : runId = candidate.runId
      · rw [hrun, hledger]
        exact hextends
      · unfold Database.ledger
        rw [hothers runId hrun]
    | _ => cases hevent

/-- Whatever the repositories over one database did, the ledgers of the database are those of the
operations that committed, performed one after the other; they only grow; a step in which no call
commits leaves the database as it was; and a call that commits performs its operation on the engine of
the database, and adds the entries that it computed to the ledger from which it computed them. -/
theorem linearizable {events : List (Event ι)} (h : Runs Step System.initial events s) :
    ∃ repository, Runs Performs Repository.empty (events.filterMap Event.commit) repository
      ∧ s.database.Holds repository
      ∧ (∀ runId, s.database.ledger runId = (repository runId).slot.ledger)
      ∧ (∀ more t, Runs Step s more t →
        ∀ runId, s.database.ledger runId <+: t.database.ledger runId)
      ∧ ∀ event t, Step s event t → (event.commit = none → t.database = s.database)
        ∧ ∀ i call receipt answered, event = .committed i call receipt answered →
          ∃ later, StepCommits s t repository later i call receipt := by
  obtain ⟨repository, hperforms, hserves⟩ := serves_of_runs h
  refine ⟨repository, hperforms, hserves.holds, hserves.sound.ledger_eq hserves.holds, ?_, ?_⟩
  · intro more t hmore runId
    refine hmore.relation (I := fun s => ∃ repository, System.Serves s repository)
      (R := fun s t => s.database.ledger runId <+: t.database.ledger runId)
      (fun _ => List.prefix_rfl) (fun _ _ _ hst htu => hst.trans htu) ⟨repository, hserves⟩ ?_
    rintro s event t ⟨present, hpresent⟩ hstep
    obtain ⟨hlater, hextends⟩ := hpresent.step hstep
    exact ⟨hlater, hextends runId⟩
  · intro event t hstep
    refine ⟨fun hevent => (hserves.silent hstep hevent).2, ?_⟩
    rintro i call receipt answered rfl
    exact hserves.commits hstep

/-! ## An undisturbed call -/

/-- The steps of a call from a phase to its commit, if no other repository is at a step. -/
def Phase.finish (environment : Environment) (connection : Connection) (phase : Phase) :
    ℕ → Option (Call × OperationReceipt × Connection)
  | 0 => none
  | fuel + 1 =>
    match advance environment connection phase with
    | (.continues phase, next) => phase.finish environment next fuel
    | (.returns call receipt, next) => some (call, receipt, next)
    | (.raises _, _) => none

/-- The steps of an undisturbed call are a run of the system. -/
theorem runs_of_finish {call : Call} {receipt : OperationReceipt} {fuel : ℕ}
    (hphase : (s.instances i).call = some phase)
    (h : phase.finish environment (s.connection i) fuel = some (call, receipt, next)) :
    ∃ events : List (Event ι), events.filterMap Event.commit = [(call, receipt)]
      ∧ Runs Step s events (s.after i next none) := by
  induction fuel generalizing s phase with
  | zero => cases h
  | succ fuel ih =>
    unfold Phase.finish at h
    split at h
    · next phase' middle hadvance =>
      have hstep := Step.continued s i phase phase' environment middle hphase hadvance
      have hcall : ((s.after i middle (some phase')).instances i).call = some phase' := by
        rw [System.after_self]
      have hconnection : (s.after i middle (some phase')).connection i = middle :=
        System.connection_after
      rw [← hconnection] at h
      obtain ⟨events, hevents, hruns⟩ := ih hcall h
      have hafter : (s.after i middle (some phase')).after i next none = s.after i next none := by
        unfold System.after
        rw [Function.update_idem]
      refine ⟨.continued i :: events, hevents, ?_⟩
      rw [hafter] at hruns
      exact (Runs.single hstep).trans hruns
    · next made given last hadvance =>
      cases h
      exact ⟨[.committed i call receipt true], rfl,
        .single (.committed s i phase environment next call receipt true hphase hadvance)⟩
    · cases h

/-- A call on an empty database that nothing disturbs is a run of the system. -/
theorem runs_of_call {call performed : Call} {receipt : OperationReceipt} {fuel : ℕ}
    (hprecheck : call.precheck = .ok ())
    (h : (Phase.starting call call.attempts).finish environment ⟨.empty, .empty⟩ fuel
      = some (performed, receipt, next)) :
    ∃ (events : List (Event Unit)) (s : System Unit),
      events.filterMap Event.commit = [(performed, receipt)]
        ∧ Runs Step System.initial events s := by
  have hcalled : Step System.initial (.called () call) _ :=
    .called (System.initial : System Unit) () call rfl hprecheck
  have hconnection : ((System.initial : System Unit).after () (System.initial.connection ())
      (some (.starting call call.attempts))).connection () = ⟨.empty, .empty⟩ :=
    System.connection_after
  rw [← hconnection] at h
  obtain ⟨events, hevents, hruns⟩ := runs_of_finish (by rw [System.after_self]) h
  exact ⟨.called () call :: events, _, hevents, (Runs.single hcalled).trans hruns⟩

end SalienceGate

namespace SalienceGate

section Append

attribute [local instance] collisionHashing collisionIntegrity collisionSerialization

/-- The call that appends an event. -/
def appendCall : Call where
  policy := plainRedactor
  operation := .append (.exact fullEvent) none (some (jumpId 2))

/-- A call that appends an event to an empty database commits, and the database holds the run that it
leads to. -/
theorem linearizable_append : ∃ (call : Call) (receipt : OperationReceipt) (s : System Unit)
    (repository : Repository), Runs Performs Repository.empty [(call, receipt)] repository
      ∧ s.database.Holds repository := by
  have hfinish : ((Phase.starting appendCall appendCall.attempts).finish
      { newId := some (jumpId 2) } ⟨.empty, .empty⟩ 3).isSome = true := by decide +kernel
  obtain ⟨⟨call, receipt, next⟩, hsome⟩ := Option.isSome_iff_exists.mp hfinish
  obtain ⟨events, s, hevents, hruns⟩ := runs_of_call rfl hsome
  obtain ⟨repository, hperforms, hholds, -⟩ := linearizable hruns
  rw [hevents] at hperforms
  exact ⟨call, receipt, s, repository, hperforms, hholds⟩

end Append

end SalienceGate
