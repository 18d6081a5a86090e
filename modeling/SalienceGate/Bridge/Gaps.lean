import SalienceGate.Bridge.Losses
import SalienceGate.Bridge.OpenCodeReducer
import SalienceGate.Lib.Runs

/-!
# Gap marks of the OpenCode bridge

A step that loses a record marks the session of the record, and the mark is set if it finds room. From
then on every flush of the session that starts has the mark in its first event, and the flushes from
before, which have not seen it, do not clear it (`Owed`). The table of marks is bounded, though: a
session that finds no room has its record lost without a mark (`warned_iff`).
-/

namespace SalienceGate.OpenCode

variable {ρ υ : Type}

namespace Runtime

variable {s t u : Runtime ρ} {i j : NativeSessionId} {n m : ℕ} {e : Event}
  [CaptureEncoding NativeSessionId Event]

/-! ## Steps that work for a session -/

/-- A step that works for a session and marks it a number of times. -/
structure Moves (i : NativeSessionId) (n : ℕ) (s t : Runtime ρ) : Prop where
  sound : t.Sound
  gaps : t.pendingGaps = s.pendingGaps.markTimes maxPendingGapSessions i n
  keeps : n = 0 → ∀ e, s.held i e ≤ t.held i e
  others : ∀ j, j ≠ i → ∀ e, s.held j e ≤ t.held j e
  queued : ∀ k f, t.flights.get? k = some f → s.flights.get? k = some f
    ∨ s.nextFlight ≤ k ∧ f.phase = .queued
  next : s.nextFlight ≤ t.nextFlight

/-- The rest of a synchronous block after one of its parts. -/
theorem moves_task (hs : s.Sound) {task : Task} {tasks : List Task} (htasks : s.tasks = task :: tasks) :
    ∃ j n, Moves j n s ({ s with tasks }.perform task) := by
  have hsound : Sound { s with tasks } := ⟨hs.fresh, hs.alone, hs.pends, hs.one, hs.bounded, hs.seen, hs.carries⟩
  have hheld : ∀ j e, s.held j e = held { s with tasks } j e + task.holds j e := by
    intro j e
    unfold held
    rw [htasks, List.map_cons, List.sum_cons]
    show _ = (s.buffered j).count e + s.flights.total _ + (tasks.map (Task.holds j e)).sum + _
    omega
  have hmoves : ∀ j given t, Accounts j given { s with tasks } t →
      (∀ e, task.holds j e = given.count e) → (∀ j', j' ≠ j → ∀ e, task.holds j' e = 0) →
      ∃ j n, Moves j n s t := by
    intro j given t haccounts hgiven hothers
    obtain ⟨n, hdoes, hkeeps⟩ := haccounts
    refine ⟨j, n, hdoes.sound, hdoes.gaps, fun hn e => ?_, fun j' hj' e => ?_, hdoes.queued, hdoes.next⟩
    · rw [hheld, hgiven]
      exact hkeeps hn e
    · rw [hheld, hothers j' hj', Nat.add_zero]
      exact hdoes.others j' hj' e
  cases task with
  | observe j records target =>
    refine hmoves j records _ (accounts_observe hsound j records target) (fun e => if_pos rfl) ?_
    intro j' hj' e
    exact if_neg hj'.symm
  | flush j =>
    refine hmoves j [] _ (accounts_scheduleFlush hsound j true) (fun e => ?_) (fun _ _ _ => rfl)
    rw [List.count_nil]
    rfl

/-- A step that changes nothing but what is to be done. -/
theorem moves_tasks (hs : s.Sound) (i : NativeSessionId) (htasks : s.tasks = [])
    (hflights : t.flights = s.flights) (hbuffers : t.buffers = s.buffers)
    (hpending : t.pendingFlushes = s.pendingFlushes) (hgaps : t.pendingGaps = s.pendingGaps)
    (hnext : t.nextFlight = s.nextFlight) : Moves i 0 s t := by
  have hkeeps : ∀ j e, s.held j e ≤ t.held j e := by
    intro j e
    unfold held buffered
    rw [hflights, hbuffers, htasks, List.map_nil, List.sum_nil]
    omega
  refine ⟨⟨?_, ?_, ?_, ?_, ?_, ?_, ?_⟩, hgaps, fun _ => hkeeps i, fun j _ => hkeeps j, ?_, by rw [hnext]⟩
  · rw [hflights, hnext]; exact hs.fresh
  · rw [hflights]; exact hs.alone
  · rw [hflights, hpending]; exact hs.pends
  · rw [hpending]; exact hs.one
  · rw [hpending]; exact hs.bounded
  · rw [hflights, hgaps]; exact hs.seen
  · rw [hflights]; exact hs.carries
  · intro k f hf
    rw [hflights] at hf
    exact .inl hf

/-- The handler of a flush that is over. -/
theorem moves_settle (hs : s.Sound) {k : ℕ} {flight : Flight} {result : FlushResult}
    (hflight : s.flights.get? k = some flight) (hphase : flight.phase = .ended result) :
    ∃ n, Moves flight.sessionId n s (s.settle k flight result) := by
  generalize hremoved : { s with flights := s.flights.erase k } = r
  have hget : ∀ {k' f}, r.flights.get? k' = some f → k' ≠ k ∧ s.flights.get? k' = some f := by
    rw [← hremoved]
    exact Dict.get?_erase_eq_some.mp
  have hr : r.Sound := by
    refine ⟨fun hf => ?_, fun hf hf' => hs.alone (hget hf).2 (hget hf').2, fun hf => ?_, fun hn => ?_, ?_,
      fun hf => ?_, fun hf => hs.carries (hget hf).2⟩
    · have hlt := hs.fresh (hget hf).2
      rw [← hremoved]
      exact hlt
    · have hmem := hs.pends (hget hf).2
      rw [← hremoved]
      exact hmem
    · rw [← hremoved] at hn
      exact hs.one hn
    · rw [← hremoved]
      exact hs.bounded
    · rw [← hremoved]
      exact hs.seen (hget hf).2
  have hheld : ∀ j e, s.held j e = r.held j e := by
    intro j e
    have hnone : flight.holds j e = 0 := by
      unfold Flight.holds
      rw [if_neg]
      rintro ⟨-, hended⟩
      rw [hphase] at hended
      cases hended
    rw [← hremoved]
    unfold held
    rw [← Dict.total_erase hflight, hnone]
    rfl
  -- No other flush of the session is under way, so its pending flush is over.
  have hno : ∀ k' f, r.flights.get? k' = some f → f.sessionId ≠ flight.sessionId := fun k' f hf hsame =>
    (hget hf).1 (hs.alone (hget hf).2 hflight hsame)
  have hpends : flight.sessionId ∈ r.pendingFlushes := by
    rw [← hremoved]
    exact hs.pends hflight
  obtain ⟨⟨n, hreleased, hreleasedHeld⟩, hflights, hpending⟩ := accounts_release hr flight result
  obtain ⟨hunpended, hunpendedHeld, hnot, hsize⟩ := does_unpend hreleased.sound (i := flight.sessionId)
    (by rw [hflights]; exact hno) (by rw [hpending]; exact hpends)
  generalize hu : (r.release flight result).unpend flight.sessionId = u at hunpended hunpendedHeld hnot hsize
  have hlast : Does flight.sessionId 0 u (s.settle k flight result)
      ∧ ∀ e, u.held flight.sessionId e ≤ (s.settle k flight result).held flight.sessionId e := by
    unfold settle
    dsimp only
    rw [hremoved, hu]
    split
    · have hquiet : Does flight.sessionId 0 u { u with
          postPendingGapChecks := u.postPendingGapChecks.erase flight.sessionId } :=
        .of_quiet hunpended.sound rfl rfl rfl rfl rfl fun _ _ => rfl
      obtain ⟨hdoes, hkeeps⟩ := does_scheduleFlush_of_room hquiet.sound hnot hsize true
      exact ⟨hquiet.trans hdoes, hkeeps⟩
    · split
      · exact does_scheduleOneDeferredTerminal hunpended.sound hsize flight.sessionId
      · exact ⟨.refl hunpended.sound, fun _ => le_rfl⟩
  have hall := (hreleased.trans hunpended).trans hlast.1
  have hnext : s.nextFlight = r.nextFlight := by rw [← hremoved]
  refine ⟨n, hall.sound, ?_, fun hn e => ?_, fun j hj e => ?_, fun k' f hf => ?_, ?_⟩
  · rw [hall.gaps, ← hremoved]
    rfl
  · calc s.held flight.sessionId e = r.held flight.sessionId e := hheld _ e
      _ ≤ (r.release flight result).held flight.sessionId e := hreleasedHeld hn e
      _ ≤ u.held flight.sessionId e := hunpendedHeld e
      _ ≤ (s.settle k flight result).held flight.sessionId e := hlast.2 e
  · rw [hheld]
    exact hall.others j hj e
  · rcases hall.queued k' f hf with hf | hf
    · exact .inl (hget hf).2
    · exact .inr (hnext ▸ hf)
  · rw [hnext]
    exact hall.next

/-! ## Steps of a flush -/

/-- How a flush goes on, and what it does to the marks. -/
inductive Progress (s : Runtime ρ) (flight : Flight) : Phase → Marks NativeSessionId → Prop where
  /-- It has seen the mark of its session, and it writes. -/
  | starts {w : Writing} (queued : flight.phase = .queued)
      (sees : w.pendingGapGeneration = s.pendingGaps.get? flight.sessionId)
      (carries : w.pendingGapGeneration.isSome → w.events.head? = some (.transportGap flight.sessionId)) :
      Progress s flight (.writing w) s.pendingGaps
  | goesOn {w w' : Writing} (writing : flight.phase = .writing w)
      (sees : w'.pendingGapGeneration = w.pendingGapGeneration) (events : w'.events = w.events) :
      Progress s flight (.writing w') s.pendingGaps
  | delivers {w : Writing} (writing : flight.phase = .writing w) :
      Progress s flight (.ended .delivered) (s.pendingGaps.clear flight.sessionId w.pendingGapGeneration)
  /-- There is nothing to write. -/
  | idles (queued : flight.phase = .queued) (unmarked : s.pendingGaps.get? flight.sessionId = none)
      (records : flight.records = []) : Progress s flight (.ended .delivered) s.pendingGaps
  | fails {result : FlushResult} (unended : flight.phase.isEnded = false) (failed : result ≠ .delivered) :
      Progress s flight (.ended result) (s.pendingGaps.mark maxPendingGapSessions flight.sessionId)

/-- A step of a flush. -/
structure Flies (k : ℕ) (flight : Flight) (s t : Runtime ρ) : Prop where
  found : s.flights.get? k = some flight
  progress : ∃ phase, Progress s flight phase t.pendingGaps ∧ t.flights = s.flights.set k { flight with phase }
  buffers : t.buffers = s.buffers
  pendingFlushes : t.pendingFlushes = s.pendingFlushes
  tasks : t.tasks = s.tasks
  nextFlight : t.nextFlight = s.nextFlight

theorem Progress.unended {flight : Flight} {phase : Phase} {gaps : Marks NativeSessionId}
    (h : Progress s flight phase gaps) : flight.phase.isEnded = false := by
  cases h with
  | starts queued | idles queued => rw [queued]; rfl
  | goesOn writing | delivers writing => rw [writing]; rfl
  | fails unended => exact unended

theorem flies_endMarked {k : ℕ} {flight : Flight} {result : FlushResult}
    (hflight : s.flights.get? k = some flight) (hunended : flight.phase.isEnded = false)
    (hresult : result ≠ .delivered) : Flies k flight s (s.endMarked k flight result) :=
  ⟨hflight, ⟨_, .fails hunended hresult, rfl⟩, rfl, rfl, rfl, rfl⟩

/-- The next chunk of a flush that has started, or starts now. -/
theorem flies_writeNext {k : ℕ} {flight : Flight} {w : Writing} (hflight : s.flights.get? k = some flight)
    (hfrom : (flight.phase = .queued ∧ w.started = 0
        ∧ w.pendingGapGeneration = s.pendingGaps.get? flight.sessionId
        ∧ (w.pendingGapGeneration.isSome → w.events.head? = some (.transportGap flight.sessionId)))
      ∨ ∃ w', flight.phase = .writing w' ∧ w.pendingGapGeneration = w'.pendingGapGeneration
        ∧ w.events = w'.events) : Flies k flight s (s.writeNext k flight w) := by
  have hwrites : ∀ remaining result, Progress s flight (.writing { w with remaining, result }) s.pendingGaps := by
    intro remaining result
    rcases hfrom with ⟨hqueued, -, hsees, hcarries⟩ | ⟨w', hwriting, hsees, hevents⟩
    · exact .starts hqueued hsees hcarries
    · exact .goesOn hwriting hsees hevents
  have hunended : flight.phase.isEnded = false := (hwrites [] none).unended
  unfold writeNext
  split
  · split
    · exact ⟨hflight, ⟨_, hwrites _ _, rfl⟩, rfl, rfl, rfl, rfl⟩
    · exact ⟨hflight, ⟨_, hwrites _ _, rfl⟩, rfl, rfl, rfl, rfl⟩
  · split
    · exact flies_endMarked hflight hunended (by simp)
    next hstarted =>
      split
      · rcases hfrom with ⟨-, hzero, -⟩ | ⟨w', hwriting, hsees, -⟩
        · exact absurd hzero hstarted
        · refine ⟨hflight, ⟨_, ?_, rfl⟩, rfl, rfl, rfl, rfl⟩
          rw [hsees]
          exact .delivers hwriting
      · exact flies_endMarked hflight hunended (by simp)

theorem flies_flush {k : ℕ} {flight : Flight} (hflight : s.flights.get? k = some flight)
    (hqueued : flight.phase = .queued) (accepted : Bool) : Flies k flight s (s.flush k flight accepted) := by
  have hunended : flight.phase.isEnded = false := by rw [hqueued]; rfl
  unfold flush
  split
  · dsimp only
    generalize hevents : (if (s.pendingGaps.get? flight.sessionId).isSome = true then
      Event.transportGap flight.sessionId :: flight.records else flight.records) = events
    split
    next hempty =>
      -- Without events there are no records, and no mark was seen.
      subst hempty
      split at hevents
      · cases hevents
      next hunmarked =>
        exact ⟨hflight, ⟨_, .idles hqueued (by simpa using hunmarked) hevents, rfl⟩, rfl, rfl, rfl, rfl⟩
    next =>
      split
      · exact flies_endMarked hflight hunended (by simp)
      · refine flies_writeNext hflight (.inl ⟨hqueued, rfl, rfl, fun hsome => ?_⟩)
        have hmarked : (s.pendingGaps.get? flight.sessionId).isSome = true := hsome
        rw [if_pos hmarked] at hevents
        rw [← hevents]
        rfl
  · exact flies_endMarked hflight hunended (by simp)

theorem Progress.generation_le {flight : Flight} {phase : Phase} {gaps : Marks NativeSessionId}
    (h : Progress s flight phase gaps) : s.pendingGaps.generation ≤ gaps.generation := by
  cases h with
  | starts | goesOn | idles => exact le_rfl
  | delivers => exact Marks.generation_clear.ge
  | fails => exact Marks.generation_le_mark

/-- The flights after a step of one of them. -/
theorem get?_flights_of_flies {k k' : ℕ} {flight f : Flight} {phase : Phase}
    (hflights : t.flights = s.flights.set k { flight with phase }) (hf : t.flights.get? k' = some f) :
    k' = k ∧ f = { flight with phase } ∨ k' ≠ k ∧ s.flights.get? k' = some f := by
  rw [hflights] at hf
  exact Dict.get?_set_eq_some.mp hf

theorem Flies.sound {k : ℕ} {flight : Flight} (h : Flies k flight s t) (hs : s.Sound) : t.Sound := by
  obtain ⟨hfound, ⟨phase, hprogress, hflights⟩, -, hpending, -, hnext⟩ := h
  have hget := fun {k' f} (hf : t.flights.get? k' = some f) => get?_flights_of_flies hflights hf
  -- Every flight is one from before, but for its phase.
  have hbefore : ∀ {k' f}, t.flights.get? k' = some f →
      ∃ f', s.flights.get? k' = some f' ∧ f'.sessionId = f.sessionId := by
    intro k' f hf
    rcases hget hf with ⟨rfl, rfl⟩ | ⟨-, hf⟩
    · exact ⟨flight, hfound, rfl⟩
    · exact ⟨f, hf, rfl⟩
  refine ⟨fun hf => ?_, fun hf hf' hsame => ?_, fun hf => ?_, fun hn => ?_, ?_, ?_, ?_⟩
  · obtain ⟨f', hf', -⟩ := hbefore hf
    rw [hnext]
    exact hs.fresh hf'
  · obtain ⟨f₁, hf₁, hsame₁⟩ := hbefore hf
    obtain ⟨f₂, hf₂, hsame₂⟩ := hbefore hf'
    exact hs.alone hf₁ hf₂ (by rw [hsame₁, hsame₂, hsame])
  · obtain ⟨f', hf', hsame⟩ := hbefore hf
    rw [hpending, ← hsame]
    exact hs.pends hf'
  · rw [hpending] at hn
    exact hs.one hn
  · rw [hpending]
    exact hs.bounded
  · intro k' f w g hf hw hg
    rcases hget hf with ⟨rfl, rfl⟩ | ⟨-, hf⟩
    · dsimp only at hw
      subst hw
      have hle : g ≤ s.pendingGaps.generation := by
        generalize t.pendingGaps = gaps at hprogress
        cases hprogress with
        | starts queued sees carries =>
          rw [sees] at hg
          exact Marks.get?_le_generation hg
        | goesOn writing sees events =>
          rw [sees] at hg
          exact hs.seen hfound writing hg
      exact hle.trans hprogress.generation_le
    · exact (hs.seen hf hw hg).trans hprogress.generation_le
  · intro k' f w hf hw hseen
    rcases hget hf with ⟨rfl, rfl⟩ | ⟨-, hf⟩
    · dsimp only at hw
      subst hw
      generalize t.pendingGaps = gaps at hprogress
      cases hprogress with
      | starts queued sees carries => exact carries hseen
      | goesOn writing sees events =>
        have hbefore := hs.carries hfound writing (sees ▸ hseen)
        rw [events]
        exact hbefore
    · exact hs.carries hf hw hseen

/-- What a step of a flush does to what is held: its records are held until it is over. -/
theorem Flies.held_eq {k : ℕ} {flight : Flight} (h : Flies k flight s t) (j : NativeSessionId) (e : Event) :
    t.held j e + flight.holds j e = s.held j e
      + (if ∃ f, t.flights.get? k = some f ∧ f.phase.isEnded = true then 0 else flight.holds j e) := by
  obtain ⟨hfound, ⟨phase, hprogress, hflights⟩, hbuffers, -, htasks, -⟩ := h
  have htotal := Dict.total_set (f := Flight.holds j e) (v := { flight with phase }) hfound
  rw [← hflights] at htotal
  have hafter : ({ flight with phase } : Flight).holds j e
      = if ∃ f, t.flights.get? k = some f ∧ f.phase.isEnded = true then 0 else flight.holds j e := by
    rw [hflights, Dict.get?_set_self]
    have hunended := hprogress.unended
    unfold Flight.holds
    by_cases hended : phase.isEnded = true
    · simp [hended]
    · simp [hended, hunended]
  have hbuffered : t.buffered j = s.buffered j := by
    unfold buffered
    rw [hbuffers]
  unfold held
  rw [hbuffered, htasks]
  rw [hafter] at htotal
  omega

/-! ## Every step -/

/-- A step works for a session, or is one of a flush. -/
theorem step_cases {host : Host ρ υ} {action : Action υ} (hs : s.Sound) (h : step host s action = some t)
    (i : NativeSessionId) : (∃ j n, Moves j n s t) ∨ ∃ k flight, Flies k flight s t := by
  unfold step at h
  split at h
  next task tasks htasks =>
    cases h
    exact .inl (moves_task hs htasks)
  next value htasks =>
    cases h
    refine .inl ⟨i, 0, ?_⟩
    unfold event
    split
    · exact moves_tasks hs i htasks rfl rfl rfl rfl rfl
    · exact moves_tasks hs i htasks rfl rfl rfl rfl rfl
  next number accepted htasks =>
    obtain ⟨flight, hflight, h⟩ := Option.bind_eq_some_iff.mp h
    split at h
    next hqueued =>
      split at h
      · cases h
        exact .inr ⟨number, flight, flies_flush hflight hqueued accepted⟩
      · cases h
    next => cases h
  next number exited htasks =>
    obtain ⟨flight, hflight, h⟩ := Option.bind_eq_some_iff.mp h
    split at h
    next w hwriting =>
      split at h
      · cases h
        refine .inr ⟨number, flight, hflight, ⟨_, ?_, rfl⟩, rfl, rfl, rfl, rfl⟩
        exact .goesOn hwriting rfl rfl
      · cases h
    next => cases h
  next number htasks =>
    obtain ⟨flight, hflight, h⟩ := Option.bind_eq_some_iff.mp h
    split at h
    next w hwriting =>
      obtain ⟨result, -, rfl⟩ := Option.map_eq_some_iff.mp h
      exact .inr ⟨number, flight, flies_writeNext hflight (.inr ⟨w, hwriting, rfl, rfl⟩)⟩
    next => cases h
  next number htasks =>
    obtain ⟨flight, hflight, h⟩ := Option.bind_eq_some_iff.mp h
    split at h
    next result hended =>
      cases h
      exact .inl ⟨flight.sessionId, moves_settle hs hflight hended⟩
    next => cases h
  next htasks =>
    cases h
    exact .inl ⟨i, 0, moves_tasks hs i htasks rfl rfl rfl rfl rfl⟩
  next htasks =>
    split at h
    · cases h
      refine .inl ⟨i, 0, ?_⟩
      unfold pass
      split
      · exact moves_tasks hs i htasks rfl rfl rfl rfl rfl
      · exact moves_tasks hs i htasks rfl rfl rfl rfl rfl
    · cases h
  next => cases h

/-! ## The mark of a loss -/

/-- The flush had been started. -/
def HasStarted (t : Runtime ρ) (number : ℕ) : Prop :=
  ∃ flight, t.flights.get? number = some flight ∧ flight.phase ≠ .queued

/-- The first event of a flush is the record of the gap. -/
def CarriesGap (u : Runtime ρ) (i : NativeSessionId) (number : ℕ) : Prop :=
  ∃ flight w, u.flights.get? number = some flight ∧ flight.phase = .writing w
    ∧ w.events.head? = some (.transportGap i)

/-- A session is owed the record of a gap since a state: its mark stands, the flushes from before have
not seen it, and those since then carry it. -/
structure Owed (i : NativeSessionId) (t u : Runtime ρ) : Prop where
  marked : u.pendingGaps.Stands i none
  unseen : ∀ {k f w}, u.flights.get? k = some f → f.sessionId = i → f.phase = .writing w →
    t.HasStarted k → u.pendingGaps.Stands i w.pendingGapGeneration
  carries : ∀ {k f w}, u.flights.get? k = some f → f.sessionId = i → f.phase = .writing w →
    ¬t.HasStarted k → w.events.head? = some (.transportGap i)
  started : ∀ {k f}, u.flights.get? k = some f → t.HasStarted k → f.phase ≠ .queued
  known : ∀ {k}, t.HasStarted k → k < u.nextFlight

/-- A step that loses a record of a session which finds room for a mark leaves one that no flush has
seen. -/
theorem owed_of_marked (hs : s.Sound) (ht : t.Sound) (hroom : s.pendingGaps.HasRoom maxPendingGapSessions i)
    (hgaps : t.pendingGaps = s.pendingGaps.markTimes maxPendingGapSessions i (n + 1))
    (hwriting : ∀ k f w, t.flights.get? k = some f → f.phase = .writing w → s.flights.get? k = some f) :
    Owed i t t := by
  obtain ⟨g, hget, hlt⟩ := Marks.exists_get?_markTimes hroom n
  rw [← hgaps] at hget
  refine ⟨⟨g, hget, by simp⟩, fun hf _ hw _ => ⟨g, hget, fun hseen => ?_⟩, fun hf _ hw hnot => ?_,
    fun hf hstarted => ?_, fun hstarted => ?_⟩
  · have hle := hs.seen (hwriting _ _ _ hf hw) hw hseen
    omega
  · exact absurd ⟨_, hf, by rw [hw]; simp⟩ hnot
  · obtain ⟨f', hf', hphase⟩ := hstarted
    rw [hf] at hf'
    cases hf'
    exact hphase
  · obtain ⟨f', hf', -⟩ := hstarted
    exact ht.fresh hf'

theorem Loses.owed (hs : s.Sound) (hloss : Loses i s t) (hroom : s.pendingGaps.HasRoom maxPendingGapSessions i)
    (hstep : (∃ j n, Moves j n s t) ∨ ∃ k flight, Flies k flight s t) : Owed i t t := by
  obtain ⟨e, hfewer, hundelivered⟩ := hloss
  rcases hstep with ⟨j, n, hmoves⟩ | ⟨k, flight, hflies⟩
  · have hj : i = j := by
      by_contra hne
      exact absurd (hmoves.others i hne e) (Nat.not_le_of_lt hfewer)
    subst hj
    obtain ⟨n, rfl⟩ : ∃ n', n = n' + 1 := by
      refine Nat.exists_eq_succ_of_ne_zero fun hzero => ?_
      exact absurd (hmoves.keeps hzero e) (Nat.not_le_of_lt hfewer)
    refine owed_of_marked hs hmoves.sound hroom hmoves.gaps fun k f w hf hw => ?_
    rcases hmoves.queued k f hf with hf | ⟨-, hqueued⟩
    · exact hf
    · rw [hqueued] at hw
      cases hw
  · have hsound := hflies.sound hs
    have heq := hflies.held_eq i e
    have hsession : flight.sessionId = i := by
      by_contra hne
      have hzero : flight.holds i e = 0 := by
        unfold Flight.holds
        rw [if_neg fun h => hne h.1]
      simp only [hzero, ite_self, Nat.add_zero] at heq
      omega
    obtain ⟨hfound, ⟨phase, hprogress, hflights⟩, -⟩ := hflies
    have hafter : t.flights.get? k = some { flight with phase } := by
      rw [hflights]
      exact Dict.get?_set_self
    have hunended := hprogress.unended
    have hholds : flight.holds i e = flight.records.count e := by
      unfold Flight.holds
      rw [if_pos ⟨hsession, hunended⟩]
    have hended : phase.isEnded = true := by
      by_contra hnot
      rw [if_neg] at heq
      · omega
      · rintro ⟨f, hf, hphase⟩
        rw [hafter] at hf
        cases hf
        exact hnot hphase
    generalize hnext : t.pendingGaps = gaps at hprogress
    cases hprogress with
    | starts | goesOn => cases hended
    | delivers | idles =>
      -- A delivered flush accounts for what is not held any more.
      have hmore := hundelivered k flight ⟨hfound, hsession, hunended, _, hafter, rfl⟩
      rw [hholds] at heq
      split at heq <;> omega
    | fails unended failed =>
      refine owed_of_marked (n := 0) hs hsound hroom ?_ fun k' f w hf hw => ?_
      · rw [hnext, hsession]
        rfl
      · rcases get?_flights_of_flies hflights hf with ⟨rfl, rfl⟩ | ⟨-, hf⟩
        · cases hw
        · exact hf

/-- A flush that goes on leaves the mark of a session, unless it is one of the session that has seen it. -/
theorem Progress.stands {flight : Flight} {phase : Phase} {gaps : Marks NativeSessionId}
    (h : Progress s flight phase gaps) {seen : Option ℕ} (hstands : s.pendingGaps.Stands i seen)
    (hseen : ∀ g, seen = some g → g ≤ s.pendingGaps.generation)
    (hunseen : ∀ w, flight.sessionId = i → flight.phase = .writing w → phase = .ended .delivered →
      s.pendingGaps.Stands i w.pendingGapGeneration) : gaps.Stands i seen := by
  cases h with
  | starts | goesOn | idles => exact hstands
  | fails => exact hstands.markTimes hseen flight.sessionId 1
  | @delivers w hwriting =>
    by_cases hsession : flight.sessionId = i
    · rw [hsession, Marks.clear_of_stands (hunseen w hsession hwriting rfl)]
      exact hstands
    · exact hstands.of_get?_eq (Marks.get?_clear_of_ne (Ne.symm hsession))

/-- A step that delivers no flush of the session started since leaves the session owed its record. -/
theorem Owed.step (h : Owed i t u) (hu : u.Sound) {v : Runtime ρ}
    (hstep : (∃ j n, Moves j n u v) ∨ ∃ k flight, Flies k flight u v)
    (hundelivered : ∀ k flight, Delivers i u v k flight → t.HasStarted k) : Owed i t v := by
  rcases hstep with ⟨j, n, hmoves⟩ | ⟨k, flight, hflies⟩
  · have hwriting : ∀ {k f w}, v.flights.get? k = some f → f.phase = .writing w →
        u.flights.get? k = some f := by
      intro k f w hf hw
      rcases hmoves.queued k f hf with hf | ⟨-, hqueued⟩
      · exact hf
      · rw [hqueued] at hw
        cases hw
    refine ⟨?_, fun hf hi hw hstarted => ?_, fun hf hi hw hnot => h.carries (hwriting hf hw) hi hw hnot,
      fun hf hstarted => ?_, fun hstarted => (h.known hstarted).trans_le hmoves.next⟩
    · rw [hmoves.gaps]
      exact h.marked.markTimes (by simp) j n
    · rw [hmoves.gaps]
      have hbefore := hwriting hf hw
      exact (h.unseen hbefore hi hw hstarted).markTimes (fun g hg => hu.seen hbefore hw hg) j n
    · rcases hmoves.queued _ _ hf with hf | ⟨hnew, -⟩
      · exact h.started hf hstarted
      · exact absurd (h.known hstarted) (Nat.not_lt_of_le hnew)
  · obtain ⟨hfound, ⟨phase, hprogress, hflights⟩, -, -, -, hnext⟩ := hflies
    have hafter : v.flights.get? k = some { flight with phase } := by
      rw [hflights]
      exact Dict.get?_set_self
    have hget := fun {k' f} (hf : v.flights.get? k' = some f) => get?_flights_of_flies hflights hf
    have hstands : ∀ seen, u.pendingGaps.Stands i seen →
        (∀ g, seen = some g → g ≤ u.pendingGaps.generation) → v.pendingGaps.Stands i seen := by
      intro seen hseen hle
      refine hprogress.stands hseen hle fun w hi hw hended => ?_
      have hstarted := hundelivered k flight ⟨hfound, hi, hprogress.unended, _, hafter, hended⟩
      exact h.unseen hfound hi hw hstarted
    refine ⟨hstands none h.marked (by simp), fun hf hi hw hstarted => ?_, fun hf hi hw hnot => ?_,
      fun hf hstarted => ?_, fun hstarted => by rw [hnext]; exact h.known hstarted⟩
    · rcases hget hf with ⟨rfl, rfl⟩ | ⟨-, hf⟩
      · dsimp only at hw hi
        subst hw
        generalize v.pendingGaps = gaps at hprogress hstands
        cases hprogress with
        | starts queued => exact absurd queued (h.started hfound hstarted)
        | goesOn writing sees events =>
          rw [sees]
          exact hstands _ (h.unseen hfound hi writing hstarted) fun g hg => hu.seen hfound writing hg
      · exact hstands _ (h.unseen hf hi hw hstarted) fun g hg => hu.seen hf hw hg
    · rcases hget hf with ⟨rfl, rfl⟩ | ⟨-, hf⟩
      · dsimp only at hw hi
        subst hw
        generalize v.pendingGaps = gaps at hprogress
        cases hprogress with
        | starts queued sees carries =>
          -- The flush starts while the session is marked.
          obtain ⟨g, hmark, -⟩ := h.marked
          rw [hi] at sees carries
          exact carries (by rw [sees, hmark]; rfl)
        | goesOn writing sees events =>
          rw [events]
          exact h.carries hfound hi writing hnot
      · exact h.carries hf hi hw hnot
    · rcases hget hf with ⟨rfl, rfl⟩ | ⟨-, hf⟩
      · dsimp only
        generalize v.pendingGaps = gaps at hprogress
        cases hprogress <;> simp
      · exact h.started hf hstarted

/-- A flush of the session that was started since, and is delivered, carries the record. -/
theorem Owed.carriesGap (h : Owed i t u) {v : Runtime ρ}
    (hstep : (∃ j n, Moves j n u v) ∨ ∃ k flight, Flies k flight u v) {k : ℕ} {flight : Flight}
    (hdelivers : Delivers i u v k flight) (hnot : ¬t.HasStarted k) : CarriesGap u i k := by
  obtain ⟨hfound, hi, hunended, after, hafter, hended⟩ := hdelivers
  rcases hstep with ⟨j, n, hmoves⟩ | ⟨k', flight', hflies⟩
  · rcases hmoves.queued k after hafter with hf | ⟨-, hqueued⟩
    · rw [hfound] at hf
      cases hf
      rw [hended] at hunended
      cases hunended
    · rw [hended] at hqueued
      cases hqueued
  · obtain ⟨hfound', ⟨phase, hprogress, hflights⟩, -⟩ := hflies
    rcases get?_flights_of_flies hflights hafter with ⟨rfl, rfl⟩ | ⟨-, hf⟩
    · rw [hfound] at hfound'
      cases hfound'
      dsimp only at hended
      subst hended
      generalize v.pendingGaps = gaps at hprogress
      cases hprogress with
      | delivers writing => exact ⟨flight, _, hfound, writing, h.carries hfound hi writing hnot⟩
      | idles queued unmarked =>
        obtain ⟨g, hmark, -⟩ := h.marked
        rw [hi, hmark] at unmarked
        cases unmarked
      | fails _ failed => exact absurd rfl failed
    · rw [hfound] at hf
      cases hf
      rw [hended] at hunended
      cases hunended

/-- A session that finds no room for a mark has none after the step. -/
theorem Loses.hasRoom_of_marked (hloss : Loses i s t)
    (hstep : (∃ j n, Moves j n s t) ∨ ∃ k flight, Flies k flight s t) {g : ℕ}
    (hmarked : t.pendingGaps.get? i = some g) : s.pendingGaps.HasRoom maxPendingGapSessions i := by
  by_contra hfull
  obtain ⟨e, hfewer, hundelivered⟩ := hloss
  have hnone : s.pendingGaps.get? i ≠ some g := fun hget =>
    hfull (.inl (Marks.mem_table_iff.mpr ⟨g, hget⟩))
  rcases hstep with ⟨j, n, hmoves⟩ | ⟨k, flight, hflies⟩
  · by_cases hj : i = j
    · subst hj
      rw [hmoves.gaps, Marks.markTimes_of_full hfull] at hmarked
      exact hnone hmarked
    · exact absurd (hmoves.others i hj e) (Nat.not_le_of_lt hfewer)
  · have hsame : t.pendingGaps.get? i ≠ some g := by
      obtain ⟨-, ⟨phase, hprogress, -⟩, -⟩ := hflies
      generalize t.pendingGaps = gaps at hprogress
      cases hprogress with
      | starts | goesOn | idles => exact hnone
      | delivers =>
        intro hget
        by_cases hi : flight.sessionId = i
        · rw [hi] at hget
          exact hnone (Marks.get?_of_get?_clear hget)
        · rw [Marks.get?_clear_of_ne (Ne.symm hi)] at hget
          exact hnone hget
      | fails =>
        by_cases hi : flight.sessionId = i
        · rw [hi, Marks.mark_of_full hfull]
          exact hnone
        · rw [Marks.get?_mark_of_ne (Ne.symm hi)]
          exact hnone
    exact hsame hmarked

end Runtime

open SalienceGate.OpenCode.Runtime

/-! ## Runs -/

section

variable [CaptureEncoding NativeSessionId Event]

/-- A step that delivers no flush of a session but those that had started before. -/
def Undelivered (host : Host ρ υ) (i : NativeSessionId) (t : Runtime ρ) (u : Runtime ρ) (action : Action υ)
    (v : Runtime ρ) : Prop :=
  step host u action = some v ∧ ∀ k flight, Delivers i u v k flight → t.HasStarted k

/-- A session is warned of since a state: until a flush of the session that starts later is delivered,
its gap is pending, and the first that is carries the record of the gap. -/
def Warned (host : Host ρ υ) (i : NativeSessionId) (t : Runtime ρ) : Prop :=
  ∀ after u, Runs (Undelivered host i t) t after u →
    u.pendingGaps.get? i ≠ none ∧
      ∀ action v k flight, step host u action = some v → Delivers i u v k flight → ¬t.HasStarted k →
        CarriesGap u i k

theorem sound_of_runs {host : Host ρ υ} {before : List (Action υ)} {s : Runtime ρ}
    (hrun : Runs (fun s action t => step host s action = some t) (initial host) before s) : s.Sound :=
  hrun.invariant (sound_initial host) fun _ _ t hs hstep => by
    obtain ⟨f⟩ : Nonempty NativeSessionId := ⟨⟨⟨[97]⟩, by decide⟩⟩
    rcases step_cases hs hstep f with ⟨j, n, hmoves⟩ | ⟨k, flight, hflies⟩
    · exact hmoves.sound
    · exact hflies.sound hs

/-- Whenever a record of a session is lost, in any run: the session is warned of exactly if it has a
pending gap already, or fewer than 256 other sessions have one. -/
theorem warned_iff {host : Host ρ υ} {before : List (Action υ)} {action : Action υ} {s t : Runtime ρ}
    {i : NativeSessionId}
    (hrun : Runs (fun s action t => step host s action = some t) (initial host) before s)
    (hstep : step host s action = some t) (hloss : Loses i s t) :
    Warned host i t ↔ s.pendingGaps.HasRoom maxPendingGapSessions i := by
  have hs := sound_of_runs hrun
  have ht := sound_of_runs (hrun.snoc hstep)
  have hcases := step_cases hs hstep i
  constructor
  · intro hwarned
    obtain ⟨hpending, -⟩ := hwarned [] t .refl
    obtain ⟨g, hg⟩ := Option.ne_none_iff_exists'.mp hpending
    exact hloss.hasRoom_of_marked hcases hg
  · intro hroom after u hafter
    have hboth : Owed i t u ∧ u.Sound := by
      refine hafter.invariant (I := fun u => Owed i t u ∧ u.Sound) ⟨hloss.owed hs hroom hcases, ht⟩ fun u action v h hundelivered => ?_
      obtain ⟨howed, hu⟩ := h
      have hnext := step_cases hu hundelivered.1 i
      refine ⟨howed.step hu hnext hundelivered.2, ?_⟩
      rcases hnext with ⟨j, n, hmoves⟩ | ⟨k, flight, hflies⟩
      · exact hmoves.sound
      · exact hflies.sound hu
    obtain ⟨howed, hu⟩ := hboth
    refine ⟨?_, fun action v k flight hlast hdelivers hnot => ?_⟩
    · obtain ⟨g, hg, -⟩ := howed.marked
      rw [hg]
      simp
    · exact howed.carriesGap (step_cases hu hlast i) hdelivers hnot

end

/-! ## A launcher that fails -/

section

open Digesting

/-- Lengths of small records. -/
local instance smallEncoding : CaptureEncoding NativeSessionId Event where
  canonicalizes _ := true
  byteLength event := 68 + event.sessionId.text.byteLength
  documentBytes sessionId _ _ events := some (800 + sessionId.text.byteLength
    + (events.map fun event => 69 + event.sessionId.text.byteLength).sum)

/-- A runtime with nothing to do. -/
def idle (reducer : ρ) (pendingGaps : Marks NativeSessionId) (nextFlight : ℕ) : Runtime ρ where
  reducer
  buffers := .empty
  pendingFlushes := .empty
  postPendingGapChecks := []
  deferredTerminalSessions := []
  retainedBytes := 0
  disposed := false
  passes := 0
  pendingGaps
  activeWrites := 0
  flights := .empty
  nextFlight
  tasks := []

/-- A flush of one record. -/
def flightOf (x : NativeSessionId) (e : Event) (phase : Phase) : Flight := ⟨x, [e], recordBytes e, phase⟩

/-- A runtime with one flush, of one record. -/
def flying (reducer : ρ) (pendingGaps : Marks NativeSessionId) (n : ℕ) (x : NativeSessionId) (e : Event)
    (activeWrites : ℕ) (phase : Phase) : Runtime ρ :=
  { idle reducer pendingGaps (n + 1) with
    pendingFlushes := Dict.empty.set x 1
    retainedBytes := recordBytes e
    activeWrites
    flights := Dict.empty.set n (flightOf x e phase) }

/-- The flush writes its one chunk. -/
def writingOne (e : Event) (result : Option WriteResult) : Phase :=
  .writing ⟨none, [e], 1, [], 0, 0, result⟩

variable {host : Host ρ υ} {r r' : ρ} {g : Marks NativeSessionId} {n : ℕ} {x : NativeSessionId} {e : Event}

theorem buildCaptureChunks_one (he : e.sessionId = x) (hx : x.text.byteLength ≤ 4) :
    buildCaptureChunks x true (.oversize x) [e] = some [[e]] := by
  have hchunked : chunkedEvent x (.oversize x) e = e := by
    have hfits : 68 + x.text.byteLength ≤ 65536 := by omega
    unfold chunkedEvent normalizeCaptureEvent encodedSize
    simp [CaptureEncoding.canonicalizes, CaptureEncoding.byteLength, CaptureEncoding.documentBytes,
      maxCaptureEventBytes, he, maxCaptureBatchBytes, hfits]
    omega
  have hgroups : groupEvents x [e] = [[e]] := by simp [groupEvents, groupEvent]
  unfold buildCaptureChunks
  simp [hchunked, hgroups, maxCaptureBatchChunks, documentFits, CaptureEncoding.documentBytes, he,
    maxCaptureBatchBytes]
  omega

theorem asCanonicalRecord_small {record : ReducedRecord} (hx : record.sessionId.text.byteLength ≤ 4) :
    asCanonicalRecord record = .record record := by
  have hfits : 68 + record.sessionId.text.byteLength ≤ maxCaptureEventBytes := by
    unfold maxCaptureEventBytes
    omega
  exact if_pos (decide_eq_true (p := 68 + record.sessionId.text.byteLength ≤ maxCaptureEventBytes) hfits)

/-- An event with one record of a session that it has flushed. -/
theorem step_event {value : υ} {record : ReducedRecord} (hreduce : host.reduce r value = ([record], r'))
    (hsession : record.sessionId = x) (hfinished : record.isFinished = false)
    (hfinalized : host.isFinalized r' x = (false, r')) (htargets : host.flushTargets value = [x])
    (hx : x.text.byteLength ≤ 4) :
    step host (idle r g n) (.event value)
      = some { idle r' g n with tasks := [.observe x [.record record] true] } := by
  subst hsession
  have hkeys : (Dict.empty.set record.sessionId [Event.record record]).keys = [record.sessionId] := by
    rw [Dict.keys_set_of_notMem (Dict.notMem_empty _)]
    rfl
  simp [step, idle, event, hreduce, Grouped.round, hfinished, hfinalized, htargets, targetRound, Grouped.add,
    addTo, asCanonicalRecord_small hx, hkeys]

theorem step_task (he : e.isTerminal = false) (hsession : e.sessionId = x) (hx : x.text.byteLength ≤ 4) :
    step host { idle r g n with tasks := [.observe x [e] true] } .task = some (flying r g n x e 0 .queued) := by
  have hbytes : recordBytes e ≤ 100 := by
    show 68 + e.sessionId.text.byteLength ≤ 100
    rw [hsession]
    omega
  have hretained : ¬((16777216 : ℤ) < recordBytes e) := by omega
  have herased : (Dict.empty.set x (SessionBuffer.mk [e] (recordBytes e))).erase x = .empty :=
    Dict.erase_set_empty x _
  simp [step, idle, perform, Runtime.observe, appendRecords, appendRecord, he, push, maxTotalRetainedBytes, hretained,
    scheduleFlush, Option.filter, Dict.notMem_empty, Dict.size, maxPendingFlushSessions,
    maxPendingFlushesPerSession, queueFlush, herased, flying, flightOf]
  simp [Dict.empty]

theorem step_start (hsession : e.sessionId = x) (hx : x.text.byteLength ≤ 4) (hunmarked : g.get? x = none) :
    step host (flying r g n x e 0 .queued) (.start n true) = some (flying r g n x e 1 (writingOne e none)) := by
  have hget : (flying r g n x e 0 .queued).flights.get? n = some (flightOf x e .queued) := Dict.get?_set_self
  have hhead : (flying r g n x e 0 .queued).AtHead n (flightOf x e .queued) := by
    intro entry hentry hlt
    have hitems : (flying r g n x e 0 .queued).flights.items = [(n, flightOf x e .queued)] := by
      unfold flying
      dsimp only
      rw [Dict.items_set_of_notMem (Dict.notMem_empty n)]
      rfl
    rw [hitems, List.mem_singleton] at hentry
    subst hentry
    exact absurd hlt (lt_irrefl n)
  have hstep : step host (flying r g n x e 0 .queued) (.start n true)
      = some ((flying r g n x e 0 .queued).flush n (flightOf x e .queued) true) := by
    show (((flying r g n x e 0 .queued).flights.get? n).bind _) = _
    rw [hget]
    exact if_pos hhead
  rw [hstep]
  simp [flying, idle, flightOf, flush, hsession, hunmarked, buildCaptureChunks_one hsession hx, writeNext,
    maxConcurrentCaptureLaunchers, putPhase, Dict.set_set_empty, writingOne]

theorem step_written : step host (flying r g n x e 1 (writingOne e none)) (.written n false)
    = some (flying r g n x e 0 (writingOne e (some .failed))) := by
  simp [step, flying, idle, flightOf, written, putPhase, Dict.set_set_empty, writingOne]

theorem step_advance : step host (flying r g n x e 0 (writingOne e (some .failed))) (.advance n)
    = some (flying r (g.mark maxPendingGapSessions x) n x e 0 (.ended .attemptedFailure)) := by
  simp [step, flying, idle, flightOf, advance, writeNext, endMarked, putPhase, Dict.set_set_empty, markGap,
    writingOne]

theorem step_settle (he : e.isTerminal = false) :
    step host (flying r g n x e 0 (.ended .attemptedFailure)) (.settle n) = some (idle r g (n + 1)) := by
  simp [step, flying, idle, flightOf, settle, Dict.erase_set_empty, release, terminalControl, he, unpend]

/-- The flush of one record, until its launcher has failed. -/
def failing (value : υ) (n : ℕ) : List (Action υ) := [.event value, .task, .start n true, .written n false]

variable (host) in
/-- An event with one record of a session without a mark, whose launcher fails. -/
theorem run_failing {value : υ} {record : ReducedRecord} (hreduce : host.reduce r value = ([record], r'))
    (hsession : record.sessionId = x) (hfinished : record.isFinished = false)
    (hfinalized : host.isFinalized r' x = (false, r')) (htargets : host.flushTargets value = [x])
    (hx : x.text.byteLength ≤ 4) (hunmarked : g.get? x = none) :
    (failing value n).foldlM (step host) (idle r g n)
      = some (flying r' g n x (.record record) 0 (writingOne (.record record) (some .failed))) := by
  have hterminal : (Event.record record).isTerminal = false := hfinished
  have hof : (Event.record record).sessionId = x := hsession
  simp only [failing, List.foldlM_cons, List.foldlM_nil, step_event hreduce hsession hfinished hfinalized htargets hx,
    Option.bind_eq_bind, Option.bind_some, step_task hterminal hof hx, step_start hof hx hunmarked, step_written]
  rfl

theorem held_flying (activeWrites : ℕ) (phase : Phase) :
    (flying r g n x e activeWrites phase).held x e = if phase.isEnded = false then 1 else 0 := by
  have htotal : (flying r g n x e activeWrites phase).flights.total (Flight.holds x e)
      = (flightOf x e phase).holds x e := by
    unfold flying
    dsimp only
    rw [Dict.total_set_of_notMem (Dict.notMem_empty n), Dict.total_empty, Nat.zero_add]
  unfold held
  rw [htotal]
  simp [flying, idle, buffered, Flight.holds, flightOf]

/-- The end of a flush of one record, that is not delivered, loses it. -/
theorem loses_flying (x : NativeSessionId) (e : Event) (g g' : Marks NativeSessionId) :
    Loses x (flying r g n x e 0 (writingOne e (some .failed))) (flying r g' n x e 0 (.ended .attemptedFailure)) := by
  refine ⟨e, ?_, fun number flight hdelivers => ?_⟩
  · rw [held_flying, held_flying]
    exact Nat.zero_lt_one
  · obtain ⟨-, -, -, after, hafter, hended⟩ := hdelivers
    have hflights : (flying r g' n x e 0 (.ended .attemptedFailure)).flights.get? number = some after := hafter
    unfold flying at hflights
    dsimp only at hflights
    rcases Dict.get?_set_eq_some.mp hflights with ⟨-, rfl⟩ | ⟨-, hempty⟩
    · cases hended
    · cases hempty

/-- Digests that tell sessions apart. -/
local instance tagDigesting : Digesting (ℕ × List (Fin 65536)) where
  digest
    | .activeSession sessionId => (0, sessionId.text.units)
    | .finalizedSession sessionId => (1, sessionId.text.units)
    | .sessionTableOverflow sessionId => (2, sessionId.text.units)
    | .eventId eventId => (3, eventId.units)
    | .callId callId => (4, callId.units)
    | .unavailableIdentity callId tool => (5, callId.units ++ tool.units)
    | .toolFingerprint sessionId callId tool _ identity =>
      (6 + identity.1, sessionId.text.units ++ callId.units ++ tool.units ++ identity.2)
    | .lifecycleFingerprint sessionId _ => (7, sessionId.text.units)
    | .deletedFingerprint sessionId => (8, sessionId.text.units)
  digestInput tool _ := some (9, tool.units)

/-- The plugin's reducer, with these digests. -/
def tagHost : Host (Reducer (ℕ × List (Fin 65536))) HostEvent := reducingHost _

/-- A session with an id of one character. -/
def letter (n : ℕ) : NativeSessionId where
  text := ⟨[⟨97 + n % 300, by omega⟩]⟩
  exact := by
    have hhigh : ¬55296 ≤ 97 + n % 300 := by omega
    have hlow : ¬56320 ≤ 97 + n % 300 := by omega
    have hbytes : 97 + n % 300 < 2048 := by omega
    simp [JsString.isExactText, JsString.isWellFormedUnicode, JsString.wellFormedUnits, JsString.isHigh,
      JsString.isLow, JsString.byteLength, JsString.utf8Bytes, hhigh, hlow, hbytes, maxCaptureSessionIdBytes]
    split <;> omega

theorem byteLength_letter (n : ℕ) : (letter n).text.byteLength ≤ 4 := by
  simp only [letter, JsString.byteLength, JsString.utf8Bytes]
  split
  · omega
  · split <;> omega

theorem letter_injective {m n : ℕ} (hm : m < 300) (hn : n < 300) (h : letter m = letter n) : m = n := by
  simp only [letter, NativeSessionId.mk.injEq, JsString.mk.injEq, List.cons.injEq, Fin.mk.injEq] at h
  omega

theorem flushTargets_idleEvent (x : NativeSessionId) : tagHost.flushTargets (idleEvent x) = [x] := by
  show (Field.text x.text).sessionId.toList = [x]
  rw [sessionId_text]
  rfl

theorem seen_initial : Seen [] tagHost.initial := ⟨rfl, rfl, rfl, rfl, le_rfl⟩

/-- A session of which the launcher of the first flush fails is warned of. -/
theorem warned_letter : ∃ s t : Runtime (Reducer (ℕ × List (Fin 65536))),
    Loses (letter 0) s t ∧ Warned tagHost (letter 0) t := by
  obtain ⟨r', hreduce, hseen⟩ := seen_initial.reduce_new (x := letter 0) (by simp) (by decide) (byteLength_letter 0)
  have hrun := run_failing tagHost (g := .empty) (n := 0) (x := letter 0) hreduce rfl rfl
    (isFinalized_of_empty hseen.finalized) (flushTargets_idleEvent _) (byteLength_letter 0) rfl
  have hloss := loses_flying (r := r') (n := 0) (letter 0) (.record (.turnFinished (letter 0) none)) .empty
    (Marks.empty.mark maxPendingGapSessions (letter 0))
  exact ⟨_, _, hloss, (warned_iff (Runs.of_foldlM hrun) step_advance hloss).mpr (.inr (Nat.zero_lt_succ 255))⟩

theorem fresh_letter {m : ℕ} (hm : m ≤ 256) : letter m ∉ (List.range m).map letter := by
  intro h
  obtain ⟨k, hk, heq⟩ := List.mem_map.mp h
  have hlt : k < m := List.mem_range.mp hk
  have hkm : k = m := letter_injective (by omega) (by omega) heq
  omega

theorem fresh_digest {m : ℕ} (hm : m ≤ 256) :
    digest (δ := ℕ × List (Fin 65536)) (.activeSession (letter m))
      ∉ ((List.range m).map letter).map fun x => digest (.activeSession x) := by
  intro h
  obtain ⟨x, hx, heq⟩ := List.mem_map.mp h
  have hunits : x.text.units = (letter m).text.units := congrArg Prod.snd heq
  have hsame : x = letter m := by
    obtain ⟨⟨units⟩, _⟩ := x
    simp only [letter, NativeSessionId.mk.injEq, JsString.mk.injEq]
    exact hunits
  exact fresh_letter hm (hsame ▸ hx)

theorem get?_of_keys {m : ℕ} (hm : m ≤ 256) (hkeys : g.table.keys = (List.range m).map letter) :
    g.get? (letter m) = none :=
  Dict.get?_eq_none.mpr fun h => fresh_letter hm (hkeys ▸ h)

/-- After the first flushes of at most 256 sessions have failed, the sessions are marked. -/
theorem exists_run_failures (m : ℕ) (hm : m ≤ 256) :
    ∃ (actions : List (Action HostEvent)) (r : Reducer (ℕ × List (Fin 65536))) (g : Marks NativeSessionId),
      actions.foldlM (step tagHost) (initial tagHost) = some (idle r g m)
        ∧ Seen ((List.range m).map letter) r ∧ g.table.keys = (List.range m).map letter := by
  induction m with
  | zero => exact ⟨[], tagHost.initial, .empty, rfl, seen_initial, rfl⟩
  | succ m ih =>
    obtain ⟨actions, r, g, hrun, hseen, hkeys⟩ := ih (by omega)
    have hlength : ((List.range m).map letter).length = m := by simp
    obtain ⟨r', hreduce, hseen'⟩ := hseen.reduce_new (fresh_digest (by omega))
      (by rw [hlength]; unfold maxSessions; omega) (byteLength_letter m)
    have hunmarked := get?_of_keys (by omega) hkeys
    have hfailing := run_failing tagHost (n := m) (x := letter m) hreduce rfl rfl
      (isFinalized_of_empty hseen'.finalized) (flushTargets_idleEvent _) (byteLength_letter m) hunmarked
    have hrange : (List.range (m + 1)).map letter = (List.range m).map letter ++ [letter m] := by
      rw [List.range_succ, List.map_append]
      rfl
    refine ⟨actions ++ failing (idleEvent (letter m)) m ++ [.advance m, .settle m], r',
      g.mark maxPendingGapSessions (letter m), ?_, hrange ▸ hseen', ?_⟩
    · rw [List.foldlM_append, List.foldlM_append, hrun]
      show ((failing (idleEvent (letter m)) m).foldlM (step tagHost) (idle r g m)).bind _ = _
      rw [hfailing]
      show (step tagHost _ (.advance m)).bind _ = _
      rw [step_advance]
      show (step tagHost _ (.settle m)).bind _ = _
      rw [step_settle rfl]
      rfl
    · have hroom : g.HasRoom maxPendingGapSessions (letter m) := by
        refine .inr ?_
        have hsize : g.table.size = m := by
          have hlengths := congrArg List.length hkeys
          rw [hlength] at hlengths
          rw [← hlengths]
          exact (List.length_map _).symm
        rw [hsize]
        unfold maxPendingGapSessions
        omega
      unfold Marks.mark
      rw [if_pos hroom, hrange, ← hkeys]
      exact Dict.keys_set_of_notMem (Dict.get?_eq_none.mp hunmarked)

/-- Where the flushes of 256 sessions have failed, the record of another session is lost silently: its
flush fails too, and the session is not warned of. -/
theorem exists_silent_loss : ∃ (before : List (Action HostEvent)) (action : Action HostEvent)
    (s t : Runtime (Reducer (ℕ × List (Fin 65536)))) (i : NativeSessionId),
    Runs (fun s action t => step tagHost s action = some t) (initial tagHost) before s
      ∧ step tagHost s action = some t ∧ Loses i s t ∧ ¬Warned tagHost i t := by
  obtain ⟨actions, r, g, hrun, hseen, hkeys⟩ := exists_run_failures 256 le_rfl
  have hreduce := hseen.reduce_full (fresh_digest le_rfl) (by simp [maxSessions])
  have hunmarked := get?_of_keys le_rfl hkeys
  have hfailing := run_failing tagHost (n := 256) (x := letter 256) hreduce rfl rfl
    (isFinalized_of_empty hseen.finalized) (flushTargets_idleEvent _) (byteLength_letter 256) hunmarked
  refine ⟨actions ++ failing (idleEvent (letter 256)) 256, .advance 256, _, _, letter 256,
    (Runs.of_foldlM hrun).trans (Runs.of_foldlM hfailing), step_advance, loses_flying _ _ _ _, fun hwarned => ?_⟩
  obtain ⟨hpending, -⟩ := hwarned [] _ .refl
  refine hpending ?_
  have hfull : ¬g.HasRoom maxPendingGapSessions (letter 256) := by
    rintro (hmem | hsize)
    · exact Dict.get?_eq_none.mp hunmarked hmem
    · have hlengths := congrArg List.length hkeys
      rw [List.length_map, List.length_range] at hlengths
      have hlength : g.table.size = 256 := by
        rw [← hlengths]
        exact (List.length_map _).symm
      rw [hlength] at hsize
      exact absurd hsize (lt_irrefl _)
  show (g.mark maxPendingGapSessions (letter 256)).get? (letter 256) = none
  rw [Marks.mark_of_full hfull]
  exact hunmarked

end

end SalienceGate.OpenCode
