import SalienceGate.Bridge.OpenCode

/-!
# Losses of the OpenCode bridge

A record is held from the event that emitted it until its flush is over: by the buffer of its
session, by a flush, or by the rest of a synchronous block. A step loses a record of a session if
the record is held fewer times after it than before, and no flush of the step was delivered with it.

Every part of a synchronous block works for one session and does one of two things: it keeps what
was held and leaves the marks alone, or it marks its session (`Does`, with the number of its marks).
-/

namespace SalienceGate.OpenCode

variable {ρ υ : Type}

/-! ## What is held -/

/-- How often a flush that is not over has a record of a session. -/
def Flight.holds (i : NativeSessionId) (e : Event) (flight : Flight) : ℕ :=
  if flight.sessionId = i ∧ flight.phase.isEnded = false then flight.records.count e else 0

/-- How often a task has a record of a session. -/
def Task.holds (i : NativeSessionId) (e : Event) : Task → ℕ
  | .observe sessionId records _ => if sessionId = i then records.count e else 0
  | .flush _ => 0

namespace Runtime

/-- The records in the buffer of a session. -/
def buffered (s : Runtime ρ) (i : NativeSessionId) : List Event :=
  (s.buffers.get? i).elim [] SessionBuffer.records

/-- How often a record of a session is held. -/
def held (s : Runtime ρ) (i : NativeSessionId) (e : Event) : ℕ :=
  (s.buffered i).count e + s.flights.total (Flight.holds i e) + (s.tasks.map (Task.holds i e)).sum

/-- A flush of a session is over in a step, and delivered. -/
def Delivers (i : NativeSessionId) (s t : Runtime ρ) (number : ℕ) (flight : Flight) : Prop :=
  s.flights.get? number = some flight ∧ flight.sessionId = i ∧ flight.phase.isEnded = false
    ∧ ∃ after, t.flights.get? number = some after ∧ after.phase = .ended .delivered

/-- A step loses a record of a session: it is held fewer times than before, and no flush was
delivered that accounts for it. -/
def Loses (i : NativeSessionId) (s t : Runtime ρ) : Prop :=
  ∃ e, t.held i e < s.held i e ∧
    ∀ number flight, Delivers i s t number flight → t.held i e + flight.records.count e < s.held i e

/-! ## The invariant -/

/-- What holds of every runtime that is reached: the numbers of flights are not reused; a session
with a flight is the one with a pending flush, and it has no other; and a flush that writes has seen
a mark of its time or none, with the mark in its first event. -/
structure Sound (s : Runtime ρ) : Prop where
  fresh : ∀ {k f}, s.flights.get? k = some f → k < s.nextFlight
  alone : ∀ {k k' f f'}, s.flights.get? k = some f → s.flights.get? k' = some f' →
    f.sessionId = f'.sessionId → k = k'
  pends : ∀ {k f}, s.flights.get? k = some f → f.sessionId ∈ s.pendingFlushes
  one : ∀ {i n}, s.pendingFlushes.get? i = some n → n = 1
  bounded : s.pendingFlushes.size ≤ maxPendingFlushSessions
  seen : ∀ {k f w g}, s.flights.get? k = some f → f.phase = .writing w →
    w.pendingGapGeneration = some g → g ≤ s.pendingGaps.generation
  carries : ∀ {k f w}, s.flights.get? k = some f → f.phase = .writing w →
    w.pendingGapGeneration.isSome → w.events.head? = some (.transportGap f.sessionId)

theorem sound_initial (host : Host ρ υ) : (initial host).Sound where
  fresh h := by cases h
  alone h := by cases h
  pends h := by cases h
  one h := by cases h
  bounded := Nat.zero_le _
  seen h := by cases h
  carries h := by cases h

/-! ## Parts of a synchronous block -/

/-- A part of a synchronous block that works for a session and marks it a number of times. -/
structure Does (i : NativeSessionId) (n : ℕ) (s t : Runtime ρ) : Prop where
  sound : t.Sound
  gaps : t.pendingGaps = s.pendingGaps.markTimes maxPendingGapSessions i n
  others : ∀ j, j ≠ i → ∀ e, s.held j e ≤ t.held j e
  kept : ∀ k f, s.flights.get? k = some f → t.flights.get? k = some f
  queued : ∀ k f, t.flights.get? k = some f → s.flights.get? k = some f
    ∨ s.nextFlight ≤ k ∧ f.phase = .queued
  next : s.nextFlight ≤ t.nextFlight

variable {s t u : Runtime ρ} {i j : NativeSessionId} {n m : ℕ} {e : Event}

theorem Does.refl (hs : s.Sound) : Does i 0 s s where
  sound := hs
  gaps := rfl
  others _ _ _ := le_rfl
  kept _ _ h := h
  queued _ _ h := .inl h
  next := le_rfl

theorem Does.trans (h : Does i n s t) (h' : Does i m t u) : Does i (n + m) s u where
  sound := h'.sound
  gaps := by rw [h'.gaps, h.gaps, Marks.markTimes_markTimes]
  others j hj e := (h.others j hj e).trans (h'.others j hj e)
  kept k f hf := h'.kept k f (h.kept k f hf)
  queued k f hf := by
    rcases h'.queued k f hf with hf | ⟨hk, hphase⟩
    · exact h.queued k f hf
    · exact .inr ⟨h.next.trans hk, hphase⟩
  next := h.next.trans h'.next

/-- A part that leaves flushes, tasks and the buffers of other sessions as they are. -/
theorem Does.of_quiet (hs : s.Sound) (hflights : t.flights = s.flights)
    (hpending : t.pendingFlushes = s.pendingFlushes) (hnext : t.nextFlight = s.nextFlight)
    (htasks : t.tasks = s.tasks)
    (hgaps : t.pendingGaps = s.pendingGaps.markTimes maxPendingGapSessions i n)
    (hbuffers : ∀ j, j ≠ i → t.buffers.get? j = s.buffers.get? j) : Does i n s t where
  sound := {
    fresh := by rw [hflights, hnext]; exact hs.fresh
    alone := by rw [hflights]; exact hs.alone
    pends := by rw [hflights, hpending]; exact hs.pends
    one := by rw [hpending]; exact hs.one
    bounded := by rw [hpending]; exact hs.bounded
    seen := by
      intro k f w g hf hw hg
      rw [hflights] at hf
      rw [hgaps]
      exact (hs.seen hf hw hg).trans (Marks.generation_le_markTimes n)
    carries := by rw [hflights]; exact hs.carries }
  gaps := hgaps
  others j hj e := by
    unfold held buffered
    rw [hflights, htasks, hbuffers j hj]
  kept k f h := by rw [hflights]; exact h
  queued k f h := by rw [hflights] at h; exact .inl h
  next := by rw [hnext]

/-- A part takes records for a session: it marks the session, or holds them in addition. -/
def Accounts (i : NativeSessionId) (given : List Event) (s t : Runtime ρ) : Prop :=
  ∃ n, Does i n s t ∧ (n = 0 → ∀ e, s.held i e + given.count e ≤ t.held i e)

theorem Does.accounts {given : List Event} (h : Does i (n + 1) s t) : Accounts i given s t :=
  ⟨n + 1, h, fun hn => absurd hn (Nat.succ_ne_zero n)⟩

theorem Accounts.trans {given more : List Event} (h : Accounts i given s t) (h' : Accounts i more t u) :
    Accounts i (given ++ more) s u := by
  obtain ⟨n, hdoes, hheld⟩ := h
  obtain ⟨n', hdoes', hheld'⟩ := h'
  refine ⟨n + n', hdoes.trans hdoes', fun hn e => ?_⟩
  have hfirst := hheld (by omega) e
  have hsecond := hheld' (by omega) e
  rw [List.count_append]
  omega

/-- A part that keeps what was held, for a session that it does not mark, works for any session. -/
theorem Does.of_keeps (h : Does j 0 s t) (hkeeps : ∀ e, s.held j e ≤ t.held j e) (i : NativeSessionId) :
    Does i 0 s t ∧ ∀ e, s.held i e ≤ t.held i e := by
  have hall : ∀ i e, s.held i e ≤ t.held i e := by
    intro i e
    by_cases hij : i = j
    · rw [hij]
      exact hkeeps e
    · exact h.others i hij e
  exact ⟨⟨h.sound, h.gaps, fun i _ => hall i, h.kept, h.queued, h.next⟩, hall i⟩

variable [CaptureEncoding NativeSessionId Event] {force : Bool} {record terminal : Event}
  {buffer : SessionBuffer}

theorem does_markGap (hs : s.Sound) (i : NativeSessionId) : Does i 1 s (s.markGap i) :=
  .of_quiet hs rfl rfl rfl rfl rfl fun _ _ => rfl

theorem does_retainOnlyTerminal (hs : s.Sound) (i : NativeSessionId) (buffer : SessionBuffer) :
    Does i 0 s (s.retainOnlyTerminal i buffer).1 := by
  unfold retainOnlyTerminal
  dsimp only
  cases terminalControl buffer.records with
  | none => exact .of_quiet hs rfl rfl rfl rfl rfl fun j hj => Dict.get?_erase_of_ne hj
  | some terminal =>
    refine .of_quiet hs rfl rfl rfl rfl rfl fun j hj => ?_
    exact (Dict.get?_set_of_ne hj).trans (Dict.get?_erase_of_ne hj)

theorem does_push (hs : s.Sound) (i : NativeSessionId) (buffer : Option SessionBuffer) (record : Event) :
    Does i 0 s (s.push i buffer record) :=
  .of_quiet hs rfl rfl rfl rfl rfl fun _ hj => Dict.get?_set_of_ne hj

/-- A record that joins the buffer of its session is held in addition. -/
theorem held_push (s : Runtime ρ) (i : NativeSessionId) (record e : Event) :
    (s.push i (s.buffers.get? i) record).held i e = s.held i e + [record].count e := by
  have hbuffered : (s.push i (s.buffers.get? i) record).buffered i = s.buffered i ++ [record] := by
    unfold buffered push
    dsimp only
    rw [Dict.get?_set_self]
    cases s.buffers.get? i <;> rfl
  unfold held
  rw [hbuffered, List.count_append]
  show _ + _ + s.flights.total _ + (s.tasks.map _).sum = _
  omega

theorem does_deferTerminal (hs : s.Sound) (i j : NativeSessionId) : Does i 0 s (s.deferTerminal j) := by
  unfold deferTerminal
  split
  · exact .of_quiet hs rfl rfl rfl rfl rfl fun _ _ => rfl
  · exact .refl hs

theorem held_deferTerminal (s : Runtime ρ) (i j : NativeSessionId) (e : Event) :
    (s.deferTerminal j).held i e = s.held i e := by
  unfold deferTerminal
  split <;> rfl

/-! ### Flushes that are scheduled -/

theorem does_refuseSession (hs : s.Sound) (i : NativeSessionId) (buffer : SessionBuffer) :
    Does i 1 s (s.refuseSession i buffer) := by
  have hmarked : Does i 1 s ((s.retainOnlyTerminal i buffer).1.markGap i) :=
    (does_retainOnlyTerminal hs i buffer).trans (does_markGap (does_retainOnlyTerminal hs i buffer).sound i)
  unfold refuseSession
  dsimp only
  split
  · exact hmarked.trans (does_deferTerminal hmarked.sound i i)
  · exact hmarked

/-- A flush that waits for the pending one marks the session if there was a buffer to drop. -/
theorem does_followPending (hs : s.Sound) (i : NativeSessionId) (buffer : Option SessionBuffer) :
    Does i buffer.toList.length s (s.followPending i buffer) := by
  have hretained : ∃ r : Runtime ρ × Option Event, Does i buffer.toList.length s r.1 ∧
      s.followPending i buffer =
        if buffer.isNone ∨ r.2.isSome then
          if i ∈ r.1.postPendingGapChecks ∨ r.1.postPendingGapChecks.length < maxPostPendingGapChecks then
            { r.1 with postPendingGapChecks := addTo r.1.postPendingGapChecks i }
          else if r.2.isSome then r.1.deferTerminal i
          else r.1
        else r.1 := by
    cases buffer with
    | none => exact ⟨(s, none), .refl hs, rfl⟩
    | some buffer =>
      refine ⟨((s.retainOnlyTerminal i buffer).1.markGap i, (s.retainOnlyTerminal i buffer).2), ?_, rfl⟩
      have hretain := does_retainOnlyTerminal hs i buffer
      exact hretain.trans (does_markGap hretain.sound i)
  obtain ⟨r, hr, heq⟩ := hretained
  rw [heq]
  split
  · split
    · exact hr.trans (m := 0) (.of_quiet hr.sound rfl rfl rfl rfl rfl fun _ _ => rfl)
    · split
      · exact hr.trans (does_deferTerminal hr.sound i i)
      · exact hr
  · exact hr

theorem held_followPending_none (s : Runtime ρ) (i j : NativeSessionId) (e : Event) :
    (s.followPending i none).held j e = s.held j e := by
  unfold followPending
  dsimp only
  split
  · split
    · rfl
    · rfl
  · rfl

/-- A flush takes the records that are buffered. -/
theorem elim_filter_buffers (s : Runtime ρ) (i : NativeSessionId) :
    ((s.buffers.get? i).filter fun buffer => buffer.records ≠ []).elim [] SessionBuffer.records
      = s.buffered i := by
  unfold buffered
  cases s.buffers.get? i with
  | none => rfl
  | some b => by_cases hb : b.records = [] <;> simp [Option.filter, hb]

/-- The number of the next flight is not in use. -/
theorem Sound.nextFlight_notMem (hs : s.Sound) : s.nextFlight ∉ s.flights := fun h => by
  obtain ⟨f, hf⟩ := Dict.mem_iff.mp h
  exact (hs.fresh hf).false

/-- A session that may have a flush: its buffer becomes the records of the flush. -/
theorem does_queueFlush (hs : s.Sound) (hpending : i ∉ s.pendingFlushes)
    (hsize : s.pendingFlushes.size < maxPendingFlushSessions) :
    Does i 0 s (s.queueFlush i ((s.buffers.get? i).filter fun buffer => buffer.records ≠ [])) ∧
      ∀ e, s.held i e ≤
        (s.queueFlush i ((s.buffers.get? i).filter fun buffer => buffer.records ≠ [])).held i e := by
  generalize hbuffer : (s.buffers.get? i).filter (fun buffer => buffer.records ≠ []) = buffer
  generalize hflight : Flight.mk i (buffer.elim [] SessionBuffer.records)
    (buffer.elim 0 SessionBuffer.bytes) .queued = flight
  have hsession : flight.sessionId = i := by rw [← hflight]
  have hphase : flight.phase = .queued := by rw [← hflight]
  have hflights : (s.queueFlush i buffer).flights = s.flights.set s.nextFlight flight := by rw [← hflight]; rfl
  have hpendings : (s.queueFlush i buffer).pendingFlushes = s.pendingFlushes.set i 1 := by
    unfold queueFlush
    dsimp only
    rw [Dict.get?_eq_none.mpr hpending]
    rfl
  have hcount : ∀ j e, (s.queueFlush i buffer).flights.total (Flight.holds j e)
      = s.flights.total (Flight.holds j e) + flight.holds j e := fun j e => by
    rw [hflights, Dict.total_set_of_notMem hs.nextFlight_notMem]
  have hholds : ∀ e, flight.holds i e = (s.buffered i).count e := by
    intro e
    have hrecords : flight.records = s.buffered i := by
      rw [← hflight, ← hbuffer]
      exact elim_filter_buffers s i
    unfold Flight.holds
    rw [if_pos ⟨hsession, by rw [hphase]; rfl⟩, hrecords]
  refine ⟨⟨⟨?_, ?_, ?_, ?_, ?_, ?_, ?_⟩, rfl, ?_, ?_, ?_, Nat.le_succ _⟩, ?_⟩
  · intro k f hf
    rw [hflights, Dict.get?_set_eq_some] at hf
    rcases hf with ⟨rfl, -⟩ | ⟨-, hf⟩
    · exact Nat.lt_succ_self _
    · exact Nat.lt_succ_of_lt (hs.fresh hf)
  · -- The session had no pending flush, so no flight of its own.
    intro k k' f f' hf hf' hsame
    rw [hflights, Dict.get?_set_eq_some] at hf hf'
    rcases hf with ⟨rfl, rfl⟩ | ⟨-, hf⟩ <;> rcases hf' with ⟨rfl, rfl⟩ | ⟨-, hf'⟩
    · rfl
    · exact absurd (hsession ▸ hsame ▸ hs.pends hf') hpending
    · exact absurd (hsession ▸ hsame ▸ hs.pends hf) hpending
    · exact hs.alone hf hf' hsame
  · intro k f hf
    rw [hpendings, Dict.mem_set]
    rw [hflights, Dict.get?_set_eq_some] at hf
    rcases hf with ⟨-, rfl⟩ | ⟨-, hf⟩
    · exact .inl hsession
    · exact .inr (hs.pends hf)
  · intro j n hn
    rw [hpendings, Dict.get?_set_eq_some] at hn
    rcases hn with ⟨-, rfl⟩ | ⟨-, hn⟩
    · rfl
    · exact hs.one hn
  · rw [hpendings, Dict.size_set_of_notMem hpending]
    exact hsize
  · intro k f w g hf hw hg
    rw [hflights, Dict.get?_set_eq_some] at hf
    rcases hf with ⟨-, rfl⟩ | ⟨-, hf⟩
    · rw [hphase] at hw
      cases hw
    · exact hs.seen hf hw hg
  · intro k f w hf hw hseen
    rw [hflights, Dict.get?_set_eq_some] at hf
    rcases hf with ⟨-, rfl⟩ | ⟨-, hf⟩
    · rw [hphase] at hw
      cases hw
    · exact hs.carries hf hw hseen
  · intro j hj e
    have hbuffered : (s.queueFlush i buffer).buffered j = s.buffered j := by
      unfold buffered queueFlush
      dsimp only
      split
      · rw [Dict.get?_erase_of_ne hj]
      · rfl
    unfold held
    rw [hbuffered, hcount]
    show _ ≤ _ + (_ + _) + (s.tasks.map (Task.holds j e)).sum
    omega
  · intro k f hf
    rw [hflights]
    exact Dict.get?_set_of_notMem hs.nextFlight_notMem hf
  · intro k f hf
    rw [hflights, Dict.get?_set_eq_some] at hf
    rcases hf with ⟨rfl, rfl⟩ | ⟨-, hf⟩
    · exact .inr ⟨le_rfl, hphase⟩
    · exact .inl hf
  · intro e
    unfold held
    rw [hcount, hholds]
    show _ ≤ _ + (_ + _) + (s.tasks.map (Task.holds i e)).sum
    omega

/-- A flush that is scheduled marks the session or keeps what was held; where it does not mark it, no
buffer of the session is left. -/
theorem does_scheduleFlush (hs : s.Sound) (i : NativeSessionId) (force : Bool) :
    ∃ n, Does i n s (s.scheduleFlush i force)
      ∧ (n = 0 → ∀ e, s.held i e ≤ (s.scheduleFlush i force).held i e)
      ∧ (n = 0 → s.buffered i ≠ [] → (s.scheduleFlush i force).buffers.get? i = none) := by
  generalize hbuffer : (s.buffers.get? i).filter (fun buffer => buffer.records ≠ []) = buffer
  have hempty : buffer = none → s.buffered i = [] := by
    rintro rfl
    rw [← elim_filter_buffers, hbuffer]
    rfl
  unfold scheduleFlush
  dsimp only
  rw [hbuffer]
  split
  next h =>
    have hnone : buffer = none := Option.isNone_iff_eq_none.mp h.1
    exact ⟨0, .refl hs, fun _ _ => le_rfl, fun _ hne => absurd (hempty hnone) hne⟩
  next =>
    split
    next =>
      cases buffer with
      | none => exact ⟨0, .refl hs, fun _ _ => le_rfl, fun _ hne => absurd (hempty rfl) hne⟩
      | some buffer =>
        exact ⟨1, does_refuseSession hs i buffer, fun h => absurd h one_ne_zero, fun h => absurd h one_ne_zero⟩
    next hfull =>
      split
      next =>
        refine ⟨_, does_followPending hs i buffer, ?_, ?_⟩
        · intro hn e
          have hnone : buffer = none := by simpa using hn
          rw [hnone, held_followPending_none]
        · intro hn hne
          exact absurd (hempty (by simpa using hn)) hne
      next hone =>
        have hnot : i ∉ s.pendingFlushes := by
          intro h
          obtain ⟨n, hn⟩ := Dict.mem_iff.mp h
          apply hone
          rw [hn, hs.one hn]
          exact le_rfl
        have hsize : s.pendingFlushes.size < maxPendingFlushSessions := by
          by_contra hle
          exact hfull ⟨hnot, Nat.le_of_not_lt hle⟩
        obtain ⟨hdoes, hheld⟩ := does_queueFlush hs hnot hsize
        rw [hbuffer] at hdoes hheld
        refine ⟨0, hdoes, fun _ => hheld, fun _ hne => ?_⟩
        have hsome : buffer.isSome = true := by
          cases buffer with
          | none => exact absurd (hempty rfl) hne
          | some b => rfl
        show (if buffer.isSome = true then s.buffers.erase i else s.buffers).get? i = none
        rw [if_pos hsome]
        exact Dict.get?_erase_self

/-- Where a session may have a flush, it is scheduled without a loss. -/
theorem does_scheduleFlush_of_room (hs : s.Sound) (hpending : i ∉ s.pendingFlushes)
    (hsize : s.pendingFlushes.size < maxPendingFlushSessions) (force : Bool) :
    Does i 0 s (s.scheduleFlush i force) ∧ ∀ e, s.held i e ≤ (s.scheduleFlush i force).held i e := by
  unfold scheduleFlush
  dsimp only
  rw [Dict.get?_eq_none.mpr hpending]
  split
  · exact ⟨.refl hs, fun _ => le_rfl⟩
  · rw [if_neg (fun h => absurd h.2 (Nat.not_le_of_lt hsize)),
      if_neg (fun h : maxPendingFlushesPerSession ≤ (none : Option ℕ).getD 0 => absurd h (by decide))]
    exact does_queueFlush hs hpending hsize

/-! ### Records that are appended -/

theorem accounts_push (hs : s.Sound) (i : NativeSessionId) (record : Event) :
    Accounts i [record] s (s.push i (s.buffers.get? i) record) :=
  ⟨0, does_push hs i _ record, fun _ e => (held_push s i record e).ge⟩

/-- What a round does after there is room in the buffer: the total cap drops the record, and the reserve
for terminals marks the session. -/
theorem accounts_capped (hs : s.Sound) (i : NativeSessionId) (limit : ℤ) (record : Event) :
    Accounts i [record] s
      (if limit < s.retainedBytes + recordBytes record then s.markGap i
        else if record.isTerminal ∧ (maxTotalRetainedBytes : ℤ) < s.retainedBytes + recordBytes record then
          (s.markGap i).push i (s.buffers.get? i) record
        else s.push i (s.buffers.get? i) record) := by
  have hmark := does_markGap hs i
  split
  · exact hmark.accounts
  · split
    · exact (hmark.trans (does_push hmark.sound i _ record)).accounts
    · exact accounts_push hs i record

theorem accounts_appendRecord (hs : s.Sound) (i : NativeSessionId) (record : Event) :
    Accounts i [record] s (s.appendRecord i record) := by
  unfold appendRecord
  dsimp only
  generalize hlimit : (if record.isTerminal = true then (maxTotalRetainedBytes + maxTerminalReserveBytes : ℤ)
    else maxTotalRetainedBytes) = limit
  cases hfull : (s.buffers.get? i).any fun buffer => overflows buffer record with
  | false => exact accounts_capped hs i limit record
  | true =>
    have hne : s.buffered i ≠ [] := by
      unfold buffered
      cases hget : s.buffers.get? i with
      | none =>
        rw [hget] at hfull
        cases hfull
      | some buffer =>
        rw [hget] at hfull
        have hover : overflows buffer record = true := hfull
        unfold overflows at hover
        simp only [Bool.and_eq_true, decide_eq_true_eq] at hover
        exact hover.1
    obtain ⟨n, hdoes, hheld, hgone⟩ := does_scheduleFlush hs i false
    simp only [if_true]
    generalize hnext : s.scheduleFlush i false = t at hdoes hheld hgone ⊢
    cases n with
    | zero =>
      -- The buffer has become a flush, so the record starts a new one.
      have hflushed : Accounts i [] s t := ⟨0, hdoes, fun _ e => hheld rfl e⟩
      rw [← hgone rfl hne]
      exact hflushed.trans (accounts_capped hdoes.sound i limit record)
    | succ n =>
      -- The buffer was dropped, but for a terminal that the new buffer overwrites: the session is marked.
      have hmark := does_markGap hdoes.sound i
      split
      · exact (hdoes.trans hmark).accounts
      · split
        · exact (hdoes.trans (hmark.trans (does_push hmark.sound i none record))).accounts
        · exact (hdoes.trans (does_push hdoes.sound i none record)).accounts

theorem accounts_appendRecords (hs : s.Sound) (i : NativeSessionId) (records : List Event) :
    Accounts i records s (s.appendRecords i records) := by
  induction records generalizing s with
  | nil => exact ⟨0, .refl hs, fun _ e => by rw [List.count_nil, Nat.add_zero]; exact le_rfl⟩
  | cons record records ih =>
    have hfirst := accounts_appendRecord hs i record
    obtain ⟨_, hdoes, _⟩ := id hfirst
    exact hfirst.trans (ih hdoes.sound)

theorem accounts_scheduleFlush (hs : s.Sound) (i : NativeSessionId) (force : Bool) :
    Accounts i [] s (s.scheduleFlush i force) := by
  obtain ⟨n, hdoes, hheld, -⟩ := does_scheduleFlush hs i force
  exact ⟨n, hdoes, hheld⟩

theorem accounts_observe (hs : s.Sound) (i : NativeSessionId) (records : List Event) (target : Bool) :
    Accounts i records s (s.observe i records target) := by
  have happended := accounts_appendRecords hs i records
  unfold observe
  dsimp only
  split
  · obtain ⟨_, hdoes, _⟩ := id happended
    have hboth := happended.trans (accounts_scheduleFlush hdoes.sound i true)
    rwa [List.append_nil] at hboth
  · exact happended

/-! ### The handler of a flush -/

theorem accounts_restoreTerminal (hs : s.Sound) (i : NativeSessionId) (terminal : Event) :
    Accounts i [] s (s.restoreTerminal i terminal).1 := by
  unfold restoreTerminal
  dsimp only
  split
  · exact ⟨0, .refl hs, fun _ _ => le_rfl⟩
  cases (s.buffers.get? i).filter fun buffer => overflows buffer terminal with
  | none =>
    dsimp only
    split
    · exact (does_markGap hs i).accounts
    · refine ⟨0, does_push hs i _ terminal, fun _ e => ?_⟩
      show _ ≤ (s.push i (s.buffers.get? i) terminal).held i e
      rw [held_push, List.count_nil]
      omega
  | some buffer =>
    -- The buffer makes room for the terminal, and the session is marked.
    dsimp only
    have hdropped : Does i 1 s (markGap { s with
        buffers := s.buffers.erase i
        retainedBytes := s.retainedBytes - buffer.bytes } i) :=
      .of_quiet hs rfl rfl rfl rfl rfl fun j hj => Dict.get?_erase_of_ne hj
    split
    · exact (hdropped.trans (does_markGap hdropped.sound i)).accounts
    · exact (hdropped.trans (does_push hdropped.sound i none terminal)).accounts

theorem restoreTerminal_flights (s : Runtime ρ) (i : NativeSessionId) (terminal : Event) :
    (s.restoreTerminal i terminal).1.flights = s.flights
      ∧ (s.restoreTerminal i terminal).1.pendingFlushes = s.pendingFlushes := by
  unfold restoreTerminal
  dsimp only
  split
  · exact ⟨rfl, rfl⟩
  cases (s.buffers.get? i).filter fun buffer => overflows buffer terminal <;> dsimp only <;> split <;>
    exact ⟨rfl, rfl⟩

theorem deferTerminal_flights (s : Runtime ρ) (i : NativeSessionId) :
    (s.deferTerminal i).flights = s.flights ∧ (s.deferTerminal i).pendingFlushes = s.pendingFlushes := by
  unfold deferTerminal
  split <;> exact ⟨rfl, rfl⟩

/-- What a flush gives back: nothing that is held is dropped without a mark, and the flushes are left
alone. -/
theorem accounts_release (hs : s.Sound) (flight : Flight) (result : FlushResult) :
    Accounts flight.sessionId [] s (s.release flight result)
      ∧ (s.release flight result).flights = s.flights
      ∧ (s.release flight result).pendingFlushes = s.pendingFlushes := by
  have hquiet : Does flight.sessionId 0 s { s with retainedBytes := s.retainedBytes - flight.bufferBytes } :=
    .of_quiet hs rfl rfl rfl rfl rfl fun _ _ => rfl
  have hkept : Accounts flight.sessionId [] s { s with retainedBytes := s.retainedBytes - flight.bufferBytes } :=
    ⟨0, hquiet, fun _ _ => le_rfl⟩
  unfold release
  split
  · exact ⟨⟨0, .refl hs, fun _ _ => le_rfl⟩, rfl, rfl⟩
  dsimp only
  cases terminalControl flight.records with
  | none => exact ⟨hkept, rfl, rfl⟩
  | some terminal =>
    dsimp only
    split
    · generalize hreleased : { s with retainedBytes := s.retainedBytes - flight.bufferBytes } = r at hkept hquiet
      have hrestored := hkept.trans (accounts_restoreTerminal hquiet.sound flight.sessionId terminal)
      obtain ⟨hflights, hpending⟩ := restoreTerminal_flights r flight.sessionId terminal
      have hflights' : r.flights = s.flights := by rw [← hreleased]
      have hpending' : r.pendingFlushes = s.pendingFlushes := by rw [← hreleased]
      split
      · obtain ⟨n, hdoes, hheld⟩ := id hrestored
        obtain ⟨hflights'', hpending''⟩ :=
          deferTerminal_flights (r.restoreTerminal flight.sessionId terminal).1 flight.sessionId
        refine ⟨⟨n, hdoes.trans (does_deferTerminal hdoes.sound _ _), fun hn e => ?_⟩, ?_, ?_⟩
        · rw [held_deferTerminal]
          exact hheld hn e
        · rw [hflights'', hflights, hflights']
        · rw [hpending'', hpending, hpending']
      · exact ⟨hrestored, by rw [hflights, hflights'], by rw [hpending, hpending']⟩
    · exact ⟨hkept, rfl, rfl⟩

/-- A session without a flight: its pending flush is over, so that there is room for another. -/
theorem does_unpend (hs : s.Sound) (hno : ∀ k f, s.flights.get? k = some f → f.sessionId ≠ i)
    (hi : i ∈ s.pendingFlushes) :
    Does i 0 s (s.unpend i) ∧ (∀ e, s.held i e ≤ (s.unpend i).held i e)
      ∧ i ∉ (s.unpend i).pendingFlushes
      ∧ (s.unpend i).pendingFlushes.size < maxPendingFlushSessions := by
  obtain ⟨n, hn⟩ := Dict.mem_iff.mp hi
  have heq : s.unpend i = { s with pendingFlushes := s.pendingFlushes.erase i } := by
    unfold unpend
    rw [hn]
    dsimp only
    rw [hs.one hn, if_pos le_rfl]
  have hsize : (s.pendingFlushes.erase i).size < maxPendingFlushSessions :=
    lt_of_lt_of_le (Dict.size_erase_lt hi) hs.bounded
  have hsound : Sound { s with pendingFlushes := s.pendingFlushes.erase i } := {
    fresh := hs.fresh
    alone := hs.alone
    pends := fun hf => Dict.mem_erase.mpr ⟨hno _ _ hf, hs.pends hf⟩
    one := fun hj => hs.one (Dict.get?_erase_eq_some.mp hj).2
    bounded := hsize.le
    seen := hs.seen
    carries := hs.carries }
  rw [heq]
  refine ⟨⟨hsound, rfl, fun _ _ _ => le_rfl, fun _ _ hf => hf, fun _ _ hf => .inl hf, le_rfl⟩,
    fun _ => le_rfl, fun h => ?_, hsize⟩
  exact (Dict.mem_erase.mp h).1 rfl

/-- A deferred terminal is flushed only where there is room. -/
theorem does_scheduleOneDeferredTerminal (hs : s.Sound)
    (hsize : s.pendingFlushes.size < maxPendingFlushSessions) (i : NativeSessionId) :
    Does i 0 s s.scheduleOneDeferredTerminal ∧ ∀ e, s.held i e ≤ s.scheduleOneDeferredTerminal.held i e := by
  unfold scheduleOneDeferredTerminal
  split
  next j hj =>
    have hpending : j ∉ s.pendingFlushes := by simpa using List.find?_some hj
    have hquiet : Does j 0 s { s with deferredTerminalSessions := s.deferredTerminalSessions.erase j } :=
      .of_quiet hs rfl rfl rfl rfl rfl fun _ _ => rfl
    obtain ⟨hdoes, hheld⟩ := does_scheduleFlush_of_room hquiet.sound hpending hsize true
    exact (hquiet.trans hdoes).of_keeps (fun e => hheld e) i
  next =>
    split
    next entry hentry =>
      have hboth := List.find?_some hentry
      have hpending : entry.1 ∉ s.pendingFlushes := by
        simp only [decide_eq_true_eq] at hboth
        exact hboth.1
      obtain ⟨hdoes, hheld⟩ := does_scheduleFlush_of_room hs hpending hsize true
      exact hdoes.of_keeps hheld i
    next => exact ⟨.refl hs, fun _ => le_rfl⟩

end Runtime

end SalienceGate.OpenCode
