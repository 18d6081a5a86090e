import SalienceGate.Bridge.PiReducer
import Mathlib.Data.List.Induction

/-!
# The records of a window

What `PiWindowReducer` emits for any sequence of events and of explicit degradations. The records are
counted, with room kept for a degradation and for the end of the session (`Counted`), and a call that
leaves nothing but a degradation behind has left one (`Accounts`).

A step first does something to the tables and then emits records. The tables are described call by call;
that the digests of different calls differ is assumed of the digests that a run asks for.
-/

namespace SalienceGate.Pi

/-- A degradation is among the records. -/
def Degraded (out : List ReducedRecord) : Prop := ∃ record ∈ out, ∃ reason, record.body = .coverageDegraded reason

theorem Degraded.append_right {out : List ReducedRecord} (h : Degraded out) (records : List ReducedRecord) :
    Degraded (out ++ records) := by
  obtain ⟨record, hmem, hbody⟩ := h
  exact ⟨record, List.mem_append_left _ hmem, hbody⟩

theorem Degraded.append_left {records : List ReducedRecord} (h : Degraded records) (out : List ReducedRecord) :
    Degraded (out ++ records) := by
  obtain ⟨record, hmem, hbody⟩ := h
  exact ⟨record, List.mem_append_right _ hmem, hbody⟩

theorem degraded_of_mem_map {records : List ReducedRecord} (reason : DegradationReason)
    (h : ReducedBody.coverageDegraded reason ∈ records.map ReducedRecord.body) : Degraded records := by
  obtain ⟨record, hmem, hbody⟩ := List.mem_map.mp h
  exact ⟨record, hmem, reason, hbody⟩

namespace Reducer

variable {δ : Type} {r r' : Reducer δ} {out records : List ReducedRecord}

/-! ## Counting -/

/-- The records are numbered, and there is room for a degradation and for the end of the session, unless
they have been emitted. -/
structure Counted (r : Reducer δ) (out : List ReducedRecord) : Prop where
  ids : out.map ReducedRecord.eventId = List.range' 1 r.recordCount
  counts : r.Counts
  /-- Until the end of the session there is room for it. -/
  unfinished : r.finished = false →
    r.recordCount < maxReducedRecordsPerWindow ∧ ∀ record ∈ out, record.body.isFinished = false
  /-- The room for a degradation is used for one. -/
  reserve : r.finished = false → maxReducedRecordsPerWindow - 1 ≤ r.recordCount → Degraded out
  finished : r.finished = true → ∃ before last, out = before ++ [last] ∧ last.body.isFinished = true
    ∧ ∀ record ∈ before, record.body.isFinished = false

theorem counted_create (coordinates : Coordinates) : (create coordinates : Reducer δ).Counted [] where
  ids := rfl
  counts := counts_create coordinates
  unfinished := fun _ => ⟨show 0 < maxReducedRecordsPerWindow by decide, nofun⟩
  reserve := fun _ hfull => absurd hfull (show ¬maxReducedRecordsPerWindow - 1 ≤ 0 by decide)
  finished := nofun

/-- The tables are the same. -/
structure SameTables (r r' : Reducer δ) : Prop where
  pending : r'.pending = r.pending
  final : r'.final = r.final
  retainedStateBytes : r'.retainedStateBytes = r.retainedStateBytes
  finished : r'.finished = r.finished
  disabled : r.disabled = true → r'.disabled = true
  overflowReported : r.overflowReported = true → r'.overflowReported = true

theorem SameTables.refl : SameTables r r := ⟨rfl, rfl, rfl, rfl, id, id⟩

/-- An overflow was told. -/
def Flagged (r : Reducer δ) (out : List ReducedRecord) : Prop :=
  r.disabled = true ∨ r.overflowReported = true → Degraded out

/-- Records of bodies that fit, none of which ends the session. -/
theorem counted_materialize (h : r.Counted out) (hfinished : r.finished = false) {bodies : List ReducedBody}
    (hbodies : ∀ body ∈ bodies, body.isFinished = false)
    (hroom : r.recordCount + bodies.length < maxReducedRecordsPerWindow)
    (hreserve : maxReducedRecordsPerWindow - 1 ≤ r.recordCount + bodies.length →
      ∃ reason, ReducedBody.coverageDegraded reason ∈ bodies)
    (hrun : (bodies.mapM materialize).run r = (records, r')) :
    r'.Counted (out ++ records) ∧ SameTables r r' ∧ records.map ReducedRecord.body = bodies := by
  obtain ⟨records', hrun', hmap, hids, -⟩ := run_mapM_materialize bodies r
  have heq := hrun.symm.trans hrun'
  cases heq
  have hnext := h.counts.nextEventId
  refine ⟨⟨?_, ⟨?_, Nat.le_of_lt hroom⟩, fun _ => ⟨hroom, fun record hmem => ?_⟩, fun _ hfull => ?_, ?_⟩,
    ⟨rfl, rfl, rfl, rfl, id, id⟩, hmap⟩
  · show (out ++ records).map ReducedRecord.eventId = List.range' 1 (r.recordCount + bodies.length)
    rw [List.map_append, h.ids, hids, hnext, Nat.add_comm r.recordCount 1, List.range'_append_1]
  · show r.nextEventId + bodies.length = r.recordCount + bodies.length + 1
    omega
  · rcases List.mem_append.mp hmem with hmem | hmem
    · exact (h.unfinished hfinished).2 record hmem
    · exact hbodies record.body (hmap ▸ List.mem_map_of_mem hmem)
  · obtain ⟨reason, hmem⟩ := hreserve hfull
    exact (degraded_of_mem_map _ (hmap ▸ hmem)).append_left out
  · intro hfinished'
    have hsame : r.finished = true := hfinished'
    rw [hfinished] at hsame
    cases hsame

/-- The records of a reduction are degradations only. -/
def OnlyDegradations (records : List ReducedRecord) : Prop :=
  ∀ record ∈ records, ∃ reason, record.body = .coverageDegraded reason

theorem onlyDegradations_of_map_eq {reason : DegradationReason}
    (h : records.map ReducedRecord.body = [.coverageDegraded reason]) : OnlyDegradations records := by
  intro record hmem
  have hbody : record.body ∈ records.map ReducedRecord.body := List.mem_map_of_mem hmem
  rw [h] at hbody
  exact ⟨reason, List.mem_singleton.mp hbody⟩

theorem degraded_of_map_eq {reason : DegradationReason}
    (h : records.map ReducedRecord.body = [.coverageDegraded reason]) : Degraded records :=
  degraded_of_mem_map _ (h ▸ List.mem_singleton_self _)

/-- What becomes of a degradation: it is emitted, or there is one already. -/
structure Degrades (r : Reducer δ) (out records : List ReducedRecord) (r' : Reducer δ) : Prop where
  counted : r'.Counted (out ++ records)
  tables : SameTables r r'
  degraded : Degraded (out ++ records)
  only : OnlyDegradations records

theorem degrades_nothing (h : r.Counted out) (hdegraded : Degraded out) : Degrades r out [] r := by
  rw [← List.append_nil out] at h hdegraded
  exact ⟨h, .refl, hdegraded, nofun⟩

/-- A degradation that is admitted. -/
theorem degrades_admission (h : r.Counted out) (hfinished : r.finished = false) (reason : DegradationReason)
    (hrun : (admission [.coverageDegraded reason] .degradation).run r = (records, r')) : Degrades r out records r' := by
  unfold admission at hrun
  rw [run_get_bind, if_neg (List.cons_ne_nil _ _)] at hrun
  split at hrun
  next hfits =>
    have hroom : r.recordCount + [ReducedBody.coverageDegraded reason].length < maxReducedRecordsPerWindow :=
      Nat.lt_of_le_of_lt hfits (by decide)
    obtain ⟨hcounted, htables, hmap⟩ := counted_materialize h hfinished (by simp [ReducedBody.isFinished]) hroom
      (fun _ => ⟨reason, List.mem_singleton_self _⟩) hrun
    exact ⟨hcounted, htables, (degraded_of_map_eq hmap).append_left out, onlyDegradations_of_map_eq hmap⟩
  next hfull =>
    -- The last records that are kept are for this: then there is one.
    rw [if_pos (by decide)] at hrun
    cases hrun
    refine degrades_nothing h (h.reserve hfinished ?_)
    unfold AdmissionMode.limit at hfull
    simp only [List.length_singleton] at hfull
    omega

/-- A degradation of the bridge; an overflow disables the tables. -/
theorem degrades_degrade (h : r.Counted out) (hflagged : r.Flagged out) (hfinished : r.finished = false)
    (reason : DegradationReason) (hrun : (degrade reason).run r = (records, r')) :
    Degrades r out records r' ∧ (reason = .overflow → r'.disabled = true) := by
  unfold degrade at hrun
  rw [run_get_bind, hfinished] at hrun
  simp only [Bool.false_eq_true, if_false] at hrun
  split at hrun
  next hoverflow =>
    rw [run_modify_bind] at hrun
    have hcounted : Counted { r with disabled := true, overflowReported := true } out :=
      ⟨h.ids, ⟨h.counts.nextEventId, h.counts.recordCount⟩, h.unfinished, h.reserve, h.finished⟩
    split at hrun
    next hreported =>
      cases hrun
      have hdone := degrades_nothing hcounted (hflagged (.inr hreported))
      exact ⟨⟨hdone.counted, ⟨rfl, rfl, rfl, rfl, fun _ => rfl, fun _ => rfl⟩, hdone.degraded, hdone.only⟩,
        fun _ => rfl⟩
    next =>
      have hdone := degrades_admission hcounted hfinished reason hrun
      have hdisabled : r'.disabled = true := hdone.tables.disabled rfl
      exact ⟨⟨hdone.counted, ⟨hdone.tables.pending, hdone.tables.final, hdone.tables.retainedStateBytes,
        hdone.tables.finished, fun _ => hdisabled, fun _ => hdone.tables.overflowReported rfl⟩,
        hdone.degraded, hdone.only⟩, fun _ => hdisabled⟩
  next hother => exact ⟨degrades_admission h hfinished reason hrun, fun heq => absurd heq hother⟩

/-- Bodies are admitted, or an overflow is told. -/
theorem emits_admission (h : r.Counted out) (hflagged : r.Flagged out) (hfinished : r.finished = false)
    {bodies : List ReducedBody} (hbodies : ∀ body ∈ bodies, body.isFinished = false)
    (hrun : (admission bodies .normal).run r = (records, r')) :
    (r'.Counted (out ++ records) ∧ SameTables r r' ∧ r'.Flagged (out ++ records)
        ∧ records.map ReducedRecord.body = bodies)
      ∨ Degrades r out records r' := by
  unfold admission at hrun
  rw [run_get_bind] at hrun
  split at hrun
  next hnil =>
    cases hrun
    rw [List.append_nil]
    exact .inl ⟨h, .refl, hflagged, hnil.symm⟩
  split at hrun
  next hfits =>
    have hlimit : r.recordCount + bodies.length < maxReducedRecordsPerWindow - 1 :=
      Nat.lt_of_le_of_lt hfits (by decide)
    obtain ⟨hcounted, htables, hmap⟩ := counted_materialize h hfinished hbodies
      (Nat.lt_of_lt_of_le hlimit (by decide)) (fun hfull => absurd hfull (Nat.not_le_of_lt hlimit)) hrun
    obtain ⟨records', hrun', -⟩ := run_mapM_materialize bodies r
    have heq := hrun.symm.trans hrun'
    cases heq
    exact .inl ⟨hcounted, htables, fun hflags => (hflagged hflags).append_right records, hmap⟩
  rw [if_neg (by decide), run_modify_bind] at hrun
  refine .inr ?_
  have hcounted : Counted { r with disabled := true } out :=
    ⟨h.ids, ⟨h.counts.nextEventId, h.counts.recordCount⟩, h.unfinished, h.reserve, h.finished⟩
  split at hrun
  next hroom =>
    rw [run_modify_bind] at hrun
    have hcounted' : Counted { r with disabled := true, overflowReported := true } out :=
      ⟨h.ids, ⟨h.counts.nextEventId, h.counts.recordCount⟩, h.unfinished, h.reserve, h.finished⟩
    have hlt : r.recordCount + [ReducedBody.coverageDegraded .overflow].length < maxReducedRecordsPerWindow := by
      have hroom' := hroom.2
      rw [List.length_singleton]
      unfold maxReducedRecordsPerWindow at hroom' ⊢
      omega
    obtain ⟨hcounted'', htables, hmap⟩ := counted_materialize hcounted' hfinished
      (by simp [ReducedBody.isFinished]) hlt (fun _ => ⟨_, List.mem_singleton_self _⟩) hrun
    exact ⟨hcounted'', ⟨htables.pending, htables.final, htables.retainedStateBytes, htables.finished,
      fun _ => htables.disabled rfl, fun _ => htables.overflowReported rfl⟩,
      (degraded_of_map_eq hmap).append_left out, onlyDegradations_of_map_eq hmap⟩
  next hreported =>
    cases hrun
    have hdegraded : Degraded out := by
      by_cases hoverflow : r.overflowReported = true
      · exact hflagged (.inr hoverflow)
      · have hfull : ¬r.recordCount < maxReducedRecordsPerWindow - 1 := fun hlt => hreported ⟨hoverflow, hlt⟩
        exact h.reserve hfinished (Nat.le_of_not_lt hfull)
    have hdone := degrades_nothing hcounted hdegraded
    exact ⟨hdone.counted, ⟨rfl, rfl, rfl, rfl, fun _ => rfl, id⟩, hdone.degraded, hdone.only⟩

/-! ## What an event does to the tables -/

/-- All but the tables is the same. -/
structure Frame (r mid : Reducer δ) : Prop where
  coordinates : mid.coordinates = r.coordinates
  nextEventId : mid.nextEventId = r.nextEventId
  recordCount : mid.recordCount = r.recordCount
  finished : mid.finished = r.finished
  disabled : mid.disabled = r.disabled
  overflowReported : mid.overflowReported = r.overflowReported

theorem Frame.refl : Frame r r := ⟨rfl, rfl, rfl, rfl, rfl, rfl⟩

theorem Counted.frame {mid : Reducer δ} (h : r.Counted out) (hframe : Frame r mid) : mid.Counted out := by
  obtain ⟨-, hnext, hcount, hfinished, -, -⟩ := hframe
  refine ⟨?_, ⟨?_, ?_⟩, ?_, ?_, ?_⟩
  · rw [hcount]
    exact h.ids
  · rw [hnext, hcount]
    exact h.counts.nextEventId
  · rw [hcount]
    exact h.counts.recordCount
  · rw [hfinished, hcount]
    exact h.unfinished
  · rw [hfinished, hcount]
    exact h.reserve
  · rw [hfinished]
    exact h.finished

theorem Flagged.frame {mid : Reducer δ} (h : r.Flagged out) (hframe : Frame r mid) : mid.Flagged out := by
  unfold Flagged
  rw [hframe.disabled, hframe.overflowReported]
  exact h

section

variable [DecidableEq δ]

/-- The bytes that are retained are those of the calls in the tables, and a call is in one of them. -/
structure Retains (r : Reducer δ) : Prop where
  bytes : r.retainedStateBytes = 192 * (r.pending.size + r.final.size)
  size : r.pending.size + r.final.size ≤ maxCallsPerWindow
  pending : ∀ key call, r.pending.get? key = some call → call.retainedBytes = 192 ∧ r.final.get? key = none

theorem retains_create (coordinates : Coordinates) : (create coordinates : Reducer δ).Retains where
  bytes := rfl
  size := Nat.zero_le _
  pending := nofun

theorem SameTables.retains (h : SameTables r r') (hretains : r.Retains) : r'.Retains := by
  refine ⟨?_, ?_, ?_⟩
  · rw [h.retainedStateBytes, h.pending, h.final]
    exact hretains.bytes
  · rw [h.pending, h.final]
    exact hretains.size
  · rw [h.pending, h.final]
    exact hretains.pending

/-- A call becomes pending. -/
structure Opens (r : Reducer δ) (key : δ) (call : PendingCall δ) (mid : Reducer δ) : Prop where
  frame : Frame r mid
  retains : mid.Retains
  pending : ∀ k, mid.pending.get? k = if k = key then some call else r.pending.get? k
  final : mid.final = r.final

/-- A call is over. -/
structure Closes (r : Reducer δ) (key : δ) (call : FinalCall δ) (mid : Reducer δ) : Prop where
  frame : Frame r mid
  retains : mid.Retains
  pending : ∀ k, mid.pending.get? k = if k = key then none else r.pending.get? k
  final : ∀ k, mid.final.get? k = if k = key then some call else r.final.get? k

/-- Every pending call is over. -/
structure Clears (r mid : Reducer δ) : Prop where
  frame : Frame r mid
  retains : mid.Retains
  pending : mid.pending = .empty
  final : ∀ k, mid.final.get? k = if (r.pending.get? k).isSome then mid.final.get? k else r.final.get? k
  isSome : ∀ k, (r.pending.get? k).isSome → (mid.final.get? k).isSome

/-! ### The moves of the tables -/

/-- The tables with a call that is over. -/
def closed (r : Reducer δ) (key : δ) (call : FinalCall δ) : Reducer δ :=
  { r with
    pending := r.pending.erase key
    final := r.final.set key call
    retainedStateBytes := r.retainedStateBytes - (if key ∈ r.pending then 192 else 0) + if key ∈ r.final then 0 else 192 }

theorem erase_of_notMem {ν : Type} {d : Dict δ ν} {key : δ} (h : key ∉ d) : d.erase key = d := by
  refine Dict.ext ?_
  rw [Dict.items_erase]
  refine List.filter_eq_self.mpr fun item hmem => decide_eq_true fun heq => h ?_
  exact heq ▸ List.mem_map_of_mem hmem

theorem closes_closed (h : r.Retains) (key : δ) (call : FinalCall δ)
    (hplace : key ∈ r.pending ∨ key ∈ r.final ∨ r.pending.size + r.final.size < maxCallsPerWindow) :
    Closes r key call (r.closed key call) := by
  have hbytes := h.bytes
  have hsize := h.size
  have hdisjoint : key ∈ r.pending → key ∉ r.final := by
    intro hpending
    obtain ⟨pending, hget⟩ := Dict.mem_iff.mp hpending
    exact Dict.get?_eq_none.mp (h.pending key pending hget).2
  have herased : (r.pending.erase key).size + (if key ∈ r.pending then 1 else 0) = r.pending.size := by
    split
    next hmem => exact Dict.size_erase hmem
    next hmem => rw [erase_of_notMem hmem, Nat.add_zero]
  have hset : (r.final.set key call).size = r.final.size + if key ∈ r.final then 0 else 1 := by
    split
    next hmem => rw [Dict.size_set_of_mem hmem, Nat.add_zero]
    next hmem => exact Dict.size_set_of_notMem hmem
  refine ⟨⟨rfl, rfl, rfl, rfl, rfl, rfl⟩, ⟨?_, ?_, fun k pending hget => ?_⟩, fun k => ?_, fun k => ?_⟩
  · show r.retainedStateBytes - (if key ∈ r.pending then 192 else 0) + (if key ∈ r.final then 0 else 192)
      = 192 * ((r.pending.erase key).size + (r.final.set key call).size)
    split_ifs at herased hset ⊢ <;> omega
  · show (r.pending.erase key).size + (r.final.set key call).size ≤ maxCallsPerWindow
    by_cases hpending : key ∈ r.pending
    · have hfinal := hdisjoint hpending
      rw [if_pos hpending] at herased
      rw [if_neg hfinal] at hset
      omega
    · rw [if_neg hpending] at herased
      by_cases hfinal : key ∈ r.final
      · rw [if_pos hfinal] at hset
        omega
      · rw [if_neg hfinal] at hset
        rcases hplace with hplace | hplace | hplace
        · exact absurd hplace hpending
        · exact absurd hplace hfinal
        · omega
  · obtain ⟨hne, hget⟩ := Dict.get?_erase_eq_some.mp hget
    obtain ⟨hretained, hfinal⟩ := h.pending k pending hget
    exact ⟨hretained, by rw [show (r.closed key call).final = r.final.set key call from rfl, Dict.get?_set_of_ne hne, hfinal]⟩
  · show (r.pending.erase key).get? k = _
    split
    next heq => rw [heq, Dict.get?_erase_self]
    next hne => exact Dict.get?_erase_of_ne hne
  · show (r.final.set key call).get? k = _
    rw [Dict.get?_set]

theorem opens_set (h : r.Retains) {key : δ} (startFingerprint : δ) (hpending : r.pending.get? key = none)
    (hfinal : r.final.get? key = none) (hplace : r.pending.size + r.final.size < maxCallsPerWindow) :
    Opens r key ⟨startFingerprint, callStateOverheadBytes⟩ { r with
      pending := r.pending.set key ⟨startFingerprint, callStateOverheadBytes⟩
      retainedStateBytes := r.retainedStateBytes + callStateOverheadBytes
      turnOpen := true } := by
  have hbytes := h.bytes
  have hset : (r.pending.set key ⟨startFingerprint, callStateOverheadBytes⟩).size = r.pending.size + 1 :=
    Dict.size_set_of_notMem (Dict.get?_eq_none.mp hpending)
  refine ⟨⟨rfl, rfl, rfl, rfl, rfl, rfl⟩, ⟨?_, ?_, fun k call hget => ?_⟩, fun k => ?_, rfl⟩
  · show r.retainedStateBytes + 192 = 192 * ((r.pending.set key _).size + r.final.size)
    omega
  · show (r.pending.set key _).size + r.final.size ≤ maxCallsPerWindow
    omega
  · rcases Dict.get?_set_eq_some.mp hget with ⟨rfl, rfl⟩ | ⟨-, hget⟩
    · exact ⟨rfl, hfinal⟩
    · exact h.pending k call hget
  · exact Dict.get?_set

theorem get?_foldl_finalize (entries : List (δ × PendingCall δ)) (r : Reducer δ)
    (hnodup : (entries.map Prod.fst).Nodup) (hfinal : ∀ entry ∈ entries, entry.1 ∉ r.final) :
    (entries.foldl finalize r).final.size = r.final.size + entries.length
      ∧ (∀ k, k ∉ entries.map Prod.fst → (entries.foldl finalize r).final.get? k = r.final.get? k)
      ∧ ∀ k, k ∈ entries.map Prod.fst → ((entries.foldl finalize r).final.get? k).isSome := by
  induction entries generalizing r with
  | nil => exact ⟨rfl, fun _ _ => rfl, nofun⟩
  | cons entry entries ih =>
    rw [List.map_cons, List.nodup_cons] at hnodup
    have hentry := hfinal entry List.mem_cons_self
    have hset : (finalize r entry).final = r.final.set entry.1 ⟨some entry.2.startFingerprint, none, finalCallStateBytes⟩ := rfl
    obtain ⟨hsize, hothers, hsome⟩ := ih (finalize r entry) hnodup.2 fun other hmem => by
      rw [hset, Dict.mem_set]
      rintro (heq | hother)
      · exact hnodup.1 (heq ▸ List.mem_map_of_mem hmem)
      · exact hfinal other (List.mem_cons_of_mem _ hmem) hother
    refine ⟨?_, fun k hk => ?_, fun k hk => ?_⟩
    · rw [List.foldl_cons, hsize, hset, Dict.size_set_of_notMem hentry, List.length_cons]
      omega
    · rw [List.map_cons, List.mem_cons, not_or] at hk
      rw [List.foldl_cons, hothers k hk.2, hset, Dict.get?_set_of_ne hk.1]
    · rw [List.foldl_cons]
      by_cases hlater : k ∈ entries.map Prod.fst
      · exact hsome k hlater
      · have heq : k = entry.1 := by
          rcases List.mem_cons.mp hk with heq | hmem
          · exact heq
          · exact absurd hmem hlater
        rw [hothers k hlater, hset, heq, Dict.get?_set_self]
        rfl

/-- The bytes of the pending calls are those of the calls that they become. -/
theorem foldl_finalize_tables (entries : List (δ × PendingCall δ)) (r : Reducer δ)
    (h : ∀ entry ∈ entries, entry.2.retainedBytes = 192) :
    (entries.foldl finalize r).retainedStateBytes = r.retainedStateBytes
      ∧ (entries.foldl finalize r).pending = r.pending ∧ (entries.foldl finalize r).finished = r.finished
      ∧ (entries.foldl finalize r).disabled = r.disabled
      ∧ (entries.foldl finalize r).overflowReported = r.overflowReported := by
  induction entries generalizing r with
  | nil => exact ⟨rfl, rfl, rfl, rfl, rfl⟩
  | cons entry entries ih =>
    obtain ⟨hbytes, hrest⟩ := ih (finalize r entry) fun other hmem => h other (List.mem_cons_of_mem _ hmem)
    have hentry : (finalize r entry).retainedStateBytes = r.retainedStateBytes := by
      show r.retainedStateBytes - (entry.2.retainedBytes - finalCallStateBytes) = _
      rw [h entry List.mem_cons_self]
      rfl
    exact ⟨hbytes.trans hentry, hrest⟩

/-- The tables after `#clearPending`. -/
theorem clears_clearPending (h : r.Retains) : Clears r { r.pending.items.foldl finalize r with pending := .empty } := by
  have hitems : ∀ entry ∈ r.pending.items, r.pending.get? entry.1 = some entry.2 := fun entry hmem =>
    Dict.get?_eq_some.mpr hmem
  have hbytes : ∀ entry ∈ r.pending.items, entry.2.retainedBytes = 192 := fun entry hmem =>
    (h.pending entry.1 entry.2 (hitems entry hmem)).1
  obtain ⟨hretained, -, hfinished, hdisabled, hoverflow⟩ := foldl_finalize_tables r.pending.items r hbytes
  obtain ⟨hcoordinates, hnext, hcount⟩ := foldl_finalize r.pending.items r
  obtain ⟨hsize, hothers, hsome⟩ := get?_foldl_finalize r.pending.items r r.pending.nodup_keys fun entry hmem =>
    Dict.get?_eq_none.mp (h.pending entry.1 entry.2 (hitems entry hmem)).2
  have htotal : (Dict.empty : Dict δ (PendingCall δ)).size + (r.pending.items.foldl finalize r).final.size
      = r.pending.size + r.final.size := by
    rw [hsize]
    show 0 + (r.final.size + r.pending.size) = _
    omega
  refine ⟨⟨hcoordinates, hnext, hcount, hfinished, hdisabled, hoverflow⟩, ⟨?_, ?_, nofun⟩, rfl, fun k => ?_, fun k hk => ?_⟩
  · show (r.pending.items.foldl finalize r).retainedStateBytes = _
    rw [hretained, h.bytes, htotal]
  · show _ + _ ≤ _
    rw [htotal]
    exact h.size
  · split
    · rfl
    next hnone =>
      refine hothers k fun hmem => hnone ?_
      obtain ⟨call, hget⟩ := Dict.mem_iff.mp hmem
      rw [hget]
      rfl
  · obtain ⟨call, hget⟩ := Option.isSome_iff_exists.mp hk
    exact hsome k (Dict.mem_of_get? hget)

/-! ### The events of tools -/

/-- An event of a tool, with its call. -/
inductive ToolEvent where
  | start (callId tool : JsString)
  | finish (callId tool : JsString) (isError : Bool)
deriving DecidableEq

/-- The call of an event. -/
def ToolEvent.callId : ToolEvent → JsString
  | .start callId _ | .finish callId _ _ => callId

/-- What is emitted after the tables are changed. -/
inductive Emission where
  | silent
  | degrade (reason : DegradationReason)
  | pair (callId tool : JsString)

/-- The reduction that emits. -/
def Emission.reducing : Emission → Reducing δ (List ReducedRecord)
  | .silent => pure []
  | .degrade reason => Reducer.degrade reason
  | .pair callId tool => admission [.toolStarted callId tool, .toolFinished callId] .normal

variable [Digesting δ]

/-- The key of a call. -/
def callKey (callId : JsString) : δ := Digesting.digest (.call callId)

/-- The fingerprint of a start. -/
def startPrint (callId tool : JsString) : δ := Digesting.digest (.start callId tool)

/-- The fingerprint of an end. -/
def finishPrint (callId tool : JsString) (isError : Bool) : δ := Digesting.digest (.finish callId tool isError)

/-- The event does not go on with the call: it is not the start that is pending or its end, or the call is not
known and the event is an end, or the call was given up before. -/
def Breaks (r : Reducer δ) (event : ToolEvent) : Prop :=
  (∃ prior, r.pending.get? (callKey event.callId) = some prior ∧ ∀ tool,
      prior.startFingerprint = startPrint event.callId tool →
        event ≠ .start event.callId tool ∧ event ≠ .finish event.callId tool false)
    ∨ (r.pending.get? (callKey event.callId) = none ∧ r.final.get? (callKey event.callId) = none
        ∧ ∀ tool, event ≠ .start event.callId tool)
    ∨ ∃ old, r.final.get? (callKey event.callId) = some old ∧ old.endFingerprint = none

/-- What an event of a tool does to the tables, and what is emitted then. -/
inductive Move (r : Reducer δ) : ToolEvent → Reducer δ → Emission → Prop where
  | disabled (event : ToolEvent) : r.disabled = true → Move r event r .silent
  | full (event : ToolEvent) : Move r event r (.degrade .overflow)
  | conflicts (event : ToolEvent) (call : FinalCall δ) (reason : DegradationReason) :
    r.final.get? (callKey event.callId) = some call → Move r event r (.degrade reason)
  | startedBefore (callId tool : JsString) (call : FinalCall δ) : r.final.get? (callKey callId) = some call →
    call.startFingerprint = some (startPrint callId tool) → Move r (.start callId tool) r .silent
  | endedBefore (callId tool : JsString) (isError : Bool) (call : FinalCall δ) :
    r.final.get? (callKey callId) = some call →
    call.endFingerprint = some (finishPrint callId tool isError) → Move r (.finish callId tool isError) r .silent
  | pendingBefore (callId tool : JsString) (call : PendingCall δ) : r.pending.get? (callKey callId) = some call →
    call.startFingerprint = startPrint callId tool → Move r (.start callId tool) r .silent
  | opens (callId tool : JsString) (mid : Reducer δ) : r.pending.get? (callKey callId) = none →
    r.final.get? (callKey callId) = none →
    Opens r (callKey callId) ⟨startPrint callId tool, callStateOverheadBytes⟩ mid → Move r (.start callId tool) mid .silent
  | closes (event : ToolEvent) (call : FinalCall δ) (mid : Reducer δ) (reason : DegradationReason) :
    Breaks r event → Closes r (callKey event.callId) call mid → Move r event mid (.degrade reason)
  | pairs (callId tool : JsString) (call : PendingCall δ) (mid : Reducer δ) :
    r.pending.get? (callKey callId) = some call → call.startFingerprint = startPrint callId tool →
    Closes r (callKey callId)
      ⟨some (startPrint callId tool), some (finishPrint callId tool false), finalCallStateBytes⟩ mid →
    Move r (.finish callId tool false) mid (.pair callId tool)

omit [Digesting δ] in
theorem run_rememberFinal (key : δ) (startFingerprint endFingerprint : Option δ)
    (h : r.retainedStateBytes + 192 ≤ maxReducerStateBytes) :
    (rememberFinal key startFingerprint endFingerprint).run r = (true, { r with
      final := r.final.set key ⟨startFingerprint, endFingerprint, finalCallStateBytes⟩
      retainedStateBytes := r.retainedStateBytes + 192 }) := by
  have hreserve : ¬maxReducerStateBytes < r.retainedStateBytes + finalCallStateBytes := Nat.not_lt_of_le h
  have hrun : (reserveState finalCallStateBytes).run r
      = (true, { r with retainedStateBytes := r.retainedStateBytes + finalCallStateBytes }) := by
    unfold reserveState
    rw [run_get_bind, if_neg hreserve, run_modify_bind]
    rfl
  unfold rememberFinal
  show (fun p : Bool × Reducer δ => (if p.1 = true then (do
      modify fun r => { r with final := r.final.set key ⟨startFingerprint, endFingerprint, finalCallStateBytes⟩ }
      return true : Reducing δ Bool) else pure false).run p.2) ((reserveState finalCallStateBytes).run r) = _
  rw [hrun]
  rfl

omit [Digesting δ] in
/-- There is always room for the bytes of a call. -/
theorem Retains.room (h : r.Retains) : r.retainedStateBytes + 192 ≤ maxReducerStateBytes := by
  have hbytes := h.bytes
  have hsize := h.size
  unfold maxCallsPerWindow at hsize
  unfold maxReducerStateBytes
  omega

omit [Digesting δ] in
/-- A pending call is over. -/
theorem run_closePending (h : r.Retains) {key : δ} {call : PendingCall δ} (hget : r.pending.get? key = some call)
    (startFingerprint endFingerprint : Option δ) :
    (dropPending key call >>= fun _ => rememberFinal key startFingerprint endFingerprint).run r
      = (true, r.closed key ⟨startFingerprint, endFingerprint, finalCallStateBytes⟩) := by
  obtain ⟨hretained, hfinal⟩ := h.pending key call hget
  have hroom := h.room
  have hdropped : (dropPending key call).run r = ((), { r with
      pending := r.pending.erase key
      retainedStateBytes := r.retainedStateBytes - call.retainedBytes }) := rfl
  show (fun p : Unit × Reducer δ => (rememberFinal key startFingerprint endFingerprint).run p.2)
    ((dropPending key call).run r) = _
  rw [hdropped]
  dsimp only
  rw [run_rememberFinal _ _ _ (by
    show r.retainedStateBytes - call.retainedBytes + 192 ≤ _
    omega)]
  unfold closed
  rw [if_pos (Dict.mem_of_get? hget), if_neg (Dict.get?_eq_none.mp hfinal), hretained]

theorem move_toolStarted (h : r.Retains) (callId tool : JsString) :
    ∃ mid emission, Move r (.start callId tool) mid emission
      ∧ (toolStarted callId tool).run r = emission.reducing.run mid := by
  unfold toolStarted
  rw [run_get_bind]
  cases hfinal : r.final.get? (Digesting.digest (.call callId)) with
  | some finalized =>
    dsimp only
    by_cases hsame : finalized.startFingerprint = some (Digesting.digest (.start callId tool))
    · rw [if_pos hsame]
      exact ⟨r, .silent, .startedBefore callId tool finalized hfinal hsame, rfl⟩
    · rw [if_neg hsame]
      exact ⟨r, .degrade .invalidTransition, .conflicts _ finalized _ hfinal, rfl⟩
  | none =>
    dsimp only
    rw [run_get_bind]
    cases hpending : r.pending.get? (Digesting.digest (.call callId)) with
    | some prior =>
      dsimp only
      by_cases hsame : prior.startFingerprint = Digesting.digest (.start callId tool)
      · rw [if_pos hsame]
        exact ⟨r, .silent, .pendingBefore callId tool prior hpending hsame, rfl⟩
      · rw [if_neg hsame]
        have hclosed := closes_closed h (callKey callId) ⟨none, none, finalCallStateBytes⟩
          (.inl (Dict.mem_of_get? hpending))
        have hbreaks : Breaks r (.start callId tool) := by
          refine .inl ⟨prior, hpending, fun t ht => ⟨fun heq => ?_, nofun⟩⟩
          cases heq
          exact hsame ht
        refine ⟨_, .degrade .invalidTransition, .closes _ _ _ .invalidTransition hbreaks hclosed, ?_⟩
        have hrun := run_closePending h hpending none none
        show (fun p : Bool × Reducer δ => (degradeRemembered p.1 .invalidTransition).run p.2)
          ((dropPending _ prior >>= fun _ => rememberFinal _ none none).run r) = _
        rw [hrun]
        rfl
    | none =>
      dsimp only
      unfold startCall
      rw [run_get_bind]
      by_cases hplace : r.hasPlace = true
      · rw [if_neg (by simpa using hplace)]
        have hroom := h.room
        have hreserve : ¬maxReducerStateBytes < r.retainedStateBytes + callStateOverheadBytes := Nat.not_lt_of_le hroom
        have hopens := opens_set h (startPrint callId tool) hpending hfinal (of_decide_eq_true hplace)
        refine ⟨_, .silent, .opens callId tool _ hpending hfinal hopens, ?_⟩
        have hrun : (reserveState callStateOverheadBytes).run r
            = (true, { r with retainedStateBytes := r.retainedStateBytes + callStateOverheadBytes }) := by
          unfold reserveState
          rw [run_get_bind, if_neg hreserve, run_modify_bind]
          rfl
        show (fun p : Bool × Reducer δ => (if p.1 = true then _ else _ : Reducing δ (List ReducedRecord)).run p.2)
          ((reserveState callStateOverheadBytes).run r) = _
        rw [hrun]
        rfl
      · rw [if_pos (by simpa using hplace)]
        exact ⟨r, .degrade .overflow, .full _, rfl⟩

omit [Digesting δ] in
theorem closed_of_mem_final (h : r.Retains) {key : δ} {old : FinalCall δ} (hfinal : r.final.get? key = some old)
    (call : FinalCall δ) : r.closed key call = { r with final := r.final.set key call } := by
  have hpending : key ∉ r.pending := by
    intro hmem
    obtain ⟨pending, hget⟩ := Dict.mem_iff.mp hmem
    rw [(h.pending key pending hget).2] at hfinal
    cases hfinal
  unfold closed
  rw [if_neg hpending, if_pos (Dict.mem_of_get? hfinal), erase_of_notMem hpending]
  rfl

theorem move_endFinalized (h : r.Retains) (callId tool : JsString) (isError : Bool) {finalized : FinalCall δ}
    (hfinal : r.final.get? (callKey callId) = some finalized) :
    ∃ mid emission, Move r (.finish callId tool isError) mid emission
      ∧ (endFinalized (callKey callId) (finishPrint callId tool isError) finalized).run r = emission.reducing.run mid := by
  unfold endFinalized
  by_cases hsame : finalized.endFingerprint = some (finishPrint callId tool isError)
  · rw [if_pos hsame]
    exact ⟨r, .silent, .endedBefore callId tool isError finalized hfinal hsame, rfl⟩
  rw [if_neg hsame]
  by_cases hopen : finalized.endFingerprint = none
  · rw [if_pos hopen, run_modify_bind]
    have hclosed := closes_closed h (callKey callId) { finalized with endFingerprint := some (finishPrint callId tool isError) }
      (.inr (.inl (Dict.mem_of_get? hfinal)))
    rw [closed_of_mem_final h hfinal] at hclosed
    have hbreaks : Breaks r (.finish callId tool isError) := .inr (.inr ⟨finalized, hfinal, hopen⟩)
    exact ⟨_, .degrade .invalidTransition, .closes _ _ _ .invalidTransition hbreaks hclosed, rfl⟩
  · rw [if_neg hopen]
    exact ⟨r, .degrade .invalidTransition, .conflicts _ finalized _ hfinal, rfl⟩

theorem move_endUnknown (h : r.Retains) (callId tool : JsString) (isError : Bool)
    (hpending : r.pending.get? (callKey callId) = none) (hfinal : r.final.get? (callKey callId) = none) :
    ∃ mid emission, Move r (.finish callId tool isError) mid emission
      ∧ (endUnknown (callKey callId) (finishPrint callId tool isError)).run r = emission.reducing.run mid := by
  unfold endUnknown
  rw [run_get_bind]
  by_cases hplace : r.hasPlace = true
  · rw [if_neg (by simpa using hplace)]
    have hclosed := closes_closed h (callKey callId)
      ⟨none, some (finishPrint callId tool isError), finalCallStateBytes⟩ (.inr (.inr (of_decide_eq_true hplace)))
    have hbreaks : Breaks r (.finish callId tool isError) := .inr (.inl ⟨hpending, hfinal, nofun⟩)
    refine ⟨_, .degrade .invalidTransition, .closes _ _ _ .invalidTransition hbreaks hclosed, ?_⟩
    have hrun := run_rememberFinal (callKey callId) none (some (finishPrint callId tool isError)) h.room
    show (fun p : Bool × Reducer δ => (degradeRemembered p.1 .invalidTransition).run p.2)
      ((rememberFinal (callKey callId) none (some (finishPrint callId tool isError))).run r) = _
    rw [hrun]
    unfold closed
    rw [if_neg (Dict.get?_eq_none.mp hpending), if_neg (Dict.get?_eq_none.mp hfinal),
      erase_of_notMem (Dict.get?_eq_none.mp hpending), Nat.sub_zero]
    rfl
  · rw [if_pos (by simpa using hplace)]
    exact ⟨r, .degrade .overflow, .full _, rfl⟩

/-- The end of a pending call: its start does not match, or it is remembered with both. -/
theorem run_endPending (h : r.Retains) (callId tool : JsString) (isError : Bool) {pending : PendingCall δ}
    (hpending : r.pending.get? (callKey callId) = some pending) :
    (endPending callId tool isError pending).run r
      = if pending.startFingerprint ≠ startPrint callId tool then
          (degrade .invalidTransition).run (r.closed (callKey callId) ⟨none, none, finalCallStateBytes⟩)
        else (if isError then degrade .ambiguousError
            else admission [.toolStarted callId tool, .toolFinished callId] .normal : Reducing δ _).run
          (r.closed (callKey callId)
            ⟨some (startPrint callId tool), some (finishPrint callId tool isError), finalCallStateBytes⟩) := by
  have hend : endPending callId tool isError pending
      = (dropPending (callKey callId) pending >>= fun _ =>
          if pending.startFingerprint ≠ startPrint callId tool then
            rememberFinal (callKey callId) none none >>= fun remembered =>
              degradeRemembered remembered .invalidTransition
          else rememberFinal (callKey callId) (some (startPrint callId tool))
              (some (finishPrint callId tool isError)) >>= fun remembered =>
            if remembered then
              if isError then degrade .ambiguousError
              else admission [.toolStarted callId tool, .toolFinished callId] .normal
            else degrade .overflow) := rfl
  rw [hend]
  by_cases hsame : pending.startFingerprint ≠ startPrint callId tool
  · simp only [if_pos hsame]
    have hrun := run_closePending h hpending none none
    show (fun p : Bool × Reducer δ => (degradeRemembered p.1 .invalidTransition).run p.2)
      ((dropPending (callKey callId) pending >>= fun _ => rememberFinal (callKey callId) none none).run r) = _
    rw [hrun]
    rfl
  · simp only [if_neg hsame]
    have hrun := run_closePending h hpending (some (startPrint callId tool)) (some (finishPrint callId tool isError))
    show (fun p : Bool × Reducer δ => (if p.1 = true then (if isError then degrade .ambiguousError
          else admission [.toolStarted callId tool, .toolFinished callId] .normal) else degrade .overflow
        : Reducing δ (List ReducedRecord)).run p.2)
      ((dropPending (callKey callId) pending >>= fun _ => rememberFinal (callKey callId)
        (some (startPrint callId tool)) (some (finishPrint callId tool isError))).run r) = _
    rw [hrun]
    rfl

theorem move_endPending (h : r.Retains) (callId tool : JsString) (isError : Bool) {pending : PendingCall δ}
    (hpending : r.pending.get? (callKey callId) = some pending) :
    ∃ mid emission, Move r (.finish callId tool isError) mid emission
      ∧ (endPending callId tool isError pending).run r = emission.reducing.run mid := by
  have hclosed := fun call => closes_closed h (callKey callId) call (.inl (Dict.mem_of_get? hpending))
  rw [run_endPending h callId tool isError hpending]
  by_cases hsame : pending.startFingerprint ≠ startPrint callId tool
  · rw [if_pos hsame]
    have hbreaks : Breaks r (.finish callId tool isError) := by
      refine .inl ⟨pending, hpending, fun t ht => ⟨nofun, fun heq => ?_⟩⟩
      cases heq
      exact hsame ht
    exact ⟨_, .degrade .invalidTransition, .closes _ _ _ .invalidTransition hbreaks (hclosed _), rfl⟩
  · rw [if_neg hsame]
    cases isError with
    | true =>
      have hbreaks : Breaks r (.finish callId tool true) :=
        .inl ⟨pending, hpending, fun t _ => ⟨nofun, nofun⟩⟩
      exact ⟨_, .degrade .ambiguousError, .closes _ _ _ .ambiguousError hbreaks (hclosed _), rfl⟩
    | false =>
      exact ⟨_, .pair callId tool, .pairs callId tool pending _ hpending (of_not_not hsame) (hclosed _), rfl⟩

theorem move_toolEnded (h : r.Retains) (callId tool : JsString) (isError : Bool) :
    ∃ mid emission, Move r (.finish callId tool isError) mid emission
      ∧ (toolEnded callId tool isError).run r = emission.reducing.run mid := by
  unfold toolEnded
  rw [run_get_bind]
  cases hfinal : r.final.get? (Digesting.digest (.call callId)) with
  | some finalized => exact move_endFinalized h callId tool isError hfinal
  | none =>
    dsimp only
    rw [run_get_bind]
    cases hpending : r.pending.get? (Digesting.digest (.call callId)) with
    | some pending => exact move_endPending h callId tool isError hpending
    | none => exact move_endUnknown h callId tool isError hpending hfinal

end

end Reducer

end SalienceGate.Pi
