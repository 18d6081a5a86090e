import SalienceGate.Capture.StoreInvariant

/-!
# The barrier of a deletion

A session that is marked for its deletion is not changed by anything but the deletion, and once its tombstone is there
none of its rows comes back, as long as its connection is there. A deletion that stopped somewhere ends when it is
repeated, whatever was done in between.
-/

namespace SalienceGate

open Stateful

namespace CaptureStore

section

variable [CaptureKey] [CaptureTags]

variable {store next : CaptureStore} {verified : Dict SessionKey CaptureHead} {key : SessionKey} {row : StoredSession}
  {operation : Operation}

/-! ## Deletions -/

/-- The operations that delete. -/
def Operation.isDeletion : Operation → Bool
  | .markSession _ | .purgeSession _ | .markProject _ | .purgeProject _ _ => true
  | _ => false

/-- `CaptureDeleteDisposition`. -/
inductive CaptureDeleteDisposition where
  | deleted | alreadyDeleted
deriving DecidableEq

/-- The first transaction of `_delete_session`. -/
def markTransaction (key : SessionKey) (verified : Dict SessionKey CaptureHead) (store : CaptureStore) :
    Except CaptureStoreError Bool × CaptureStore :=
  commit (markSession key) id verified store

/-- The second transaction of `_delete_session`. -/
def purgeTransaction (key : SessionKey) (verified : Dict SessionKey CaptureHead) (store : CaptureStore) :
    Except CaptureStoreError Unit × CaptureStore :=
  commit (purgeSession key) (fun _ => true) verified store

/-- `_delete_session`: the second transaction begins if the first one found the session. -/
def deleteSession (key : SessionKey) (verified : Dict SessionKey CaptureHead) (store : CaptureStore) :
    Except CaptureStoreError CaptureDeleteDisposition × CaptureStore :=
  match markTransaction key verified store with
  | (.error e, next) => (.error e, next)
  | (.ok false, next) => (.ok .alreadyDeleted, next)
  | (.ok true, next) =>
    match purgeTransaction key verified next with
    | (.error e, last) => (.error e, last)
    | (.ok _, last) => (.ok (if key ∈ next.sessions then .deleted else .alreadyDeleted), last)

/-- The places where `_delete_session` may stop. -/
inductive DeletionStop where
  | afterMarkCommit | afterTombstoneWrite | beforePurgeCommit | afterPurgeCommit
deriving DecidableEq

/-- The rows that a deletion leaves that stops: what the second transaction wrote is lost without its commit. -/
def stoppedDeletion (stop : DeletionStop) (key : SessionKey) (verified : Dict SessionKey CaptureHead)
    (store : CaptureStore) : CaptureStore :=
  match stop with
  | .afterMarkCommit | .afterTombstoneWrite | .beforePurgeCommit => (markTransaction key verified store).2
  | .afterPurgeCommit => (purgeTransaction key verified (markTransaction key verified store).2).2

/-- From one state of a store to a later one, with a connection that is there all the time. -/
def Connected (id : ComponentIdentifier) : CaptureStore → CaptureStore → Prop :=
  Relation.ReflTransGen fun store next => Step store next ∧ id ∈ next.connections

/-- A session has no rows, but a tombstone. -/
structure Buried (key : SessionKey) (store : CaptureStore) : Prop where
  tombstone : key ∈ store.tombstones
  session : store.sessions.get? key = none
  feedback : store.feedback.get? key = none

/-- A session is there, or its tombstone is. -/
def Known (key : SessionKey) (store : CaptureStore) : Prop := key ∈ store.sessions ∨ key ∈ store.tombstones

/-! ## What a step leaves -/

/-- A tombstone goes only with its connection. -/
theorem Stepped.tombstone (h : Stepped store next) (hkey : key ∈ store.tombstones)
    (hconnection : key.1 ∈ next.connections) : key ∈ next.tombstones := by
  cases h with
  | unchanged h =>
    rw [h]
    exact hkey
  | connected hsessions htombstones hfeedback hconnections =>
    rw [htombstones]
    exact hkey
  | written hwrites =>
    rw [Writes.tombstones hwrites]
    exact hkey
  | chunk chunk intakes hwrites =>
    rw [hwrites.frame.2.1]
    exact hkey
  | recorded hbefore hclosed honly hhistory =>
    rw [honly.tombstones]
    exact hkey
  | marked hbefore hnext =>
    rw [hnext]
    exact hkey
  | purged hbefore hstate hnext =>
    rw [hnext]
    show key ∈ ite _ _ _
    split
    · exact hkey
    · exact List.mem_append_left _ hkey
  | projectPurged ids hstates hconnections hsessions hfeedback htombstones =>
    rw [htombstones]
    refine List.mem_filter.mpr ⟨hkey, decide_eq_true fun hid => ?_⟩
    obtain ⟨connection, hfound⟩ := Dict.mem_iff.mp hconnection
    rw [hconnections, if_pos hid] at hfound
    cases hfound

/-- What becomes of a session that is being deleted: it stays as it is, or it goes away, with its connection or behind a
tombstone. -/
theorem Stepped.deleting (h : Stepped store next) (hrow : store.sessions.get? key = some row)
    (hstate : row.session.state = .deleting) :
    (next.sessions.get? key = some row ∧ next.feedback.get? key = store.feedback.get? key)
      ∨ (next.sessions.get? key = none ∧ (key.1 ∈ next.connections → key ∈ next.tombstones)) := by
  have hlater := h.later hrow
  cases h with
  | unchanged h =>
    rw [h]
    exact .inl ⟨hrow, rfl⟩
  | connected hsessions htombstones hfeedback hconnections =>
    rw [hsessions, hfeedback]
    exact .inl ⟨hrow, rfl⟩
  | written hwrites =>
    obtain ⟨later, hfound, hkept⟩ := Writes.later hwrites hrow
    rw [hkept.deleting hstate] at hfound
    rw [Writes.feedback hwrites]
    exact .inl ⟨hfound, rfl⟩
  | chunk chunk intakes hwrites =>
    obtain ⟨later, hfound, hkept⟩ := hwrites.later hrow
    rw [hkept.deleting hstate] at hfound
    rw [hwrites.frame.2.2]
    exact .inl ⟨hfound, rfl⟩
  | @recorded other before hbefore hclosed honly hhistory =>
    -- Only a closed session gets feedback.
    have hother : key ≠ other := by
      rintro rfl
      rw [Option.some_inj.mp (hrow.symm.trans hbefore), hclosed] at hstate
      cases hstate
    rw [honly.sessions, honly.others key hother]
    exact .inl ⟨hrow, rfl⟩
  | @marked other before hbefore hnext =>
    rcases hlater with hgone | ⟨later, hfound, hkept⟩
    · rw [hnext] at hgone
      by_cases hsame : key = other
      · rw [hsame, get?_put_self] at hgone
        cases hgone
      · rw [get?_put_of_ne hsame, hrow] at hgone
        cases hgone
    · rw [hkept.deleting hstate] at hfound
      refine .inl ⟨hfound, ?_⟩
      rw [hnext]
      rfl
  | @purged other before hbefore hdeleting hnext =>
    by_cases hsame : key = other
    · subst hsame
      refine .inr ⟨?_, fun _ => ?_⟩
      · rw [hnext]
        exact Dict.get?_erase_self
      · rw [hnext]
        show key ∈ ite _ _ _
        split
        · next hthere => exact hthere
        · exact List.mem_append_right _ (List.mem_singleton.mpr rfl)
    · left
      rw [hnext]
      exact ⟨(Dict.get?_erase_of_ne hsame).trans hrow, Dict.get?_erase_of_ne hsame⟩
  | projectPurged ids hstates hconnections hsessions hfeedback htombstones =>
    rw [hsessions, hfeedback]
    by_cases hid : key.1 ∈ ids
    · rw [if_pos hid]
      refine .inr ⟨rfl, fun hconnection => ?_⟩
      obtain ⟨connection, hfound⟩ := Dict.mem_iff.mp hconnection
      rw [hconnections, if_pos hid] at hfound
      cases hfound
    · rw [if_neg hid, if_neg hid]
      exact .inl ⟨hrow, rfl⟩

/-- A session goes away only in a deletion. -/
theorem mem_perform (hoperation : operation.isDeletion = false) (hkey : key ∈ store.sessions) :
    key ∈ (perform verified store operation).sessions := by
  obtain ⟨row, hrow⟩ := Dict.mem_iff.mp hkey
  generalize hperform : perform verified store operation = next
  -- What leaves the sessions as they are, and what writes to them.
  have hsame : next.sessions = store.sessions → key ∈ next.sessions := fun hsessions => hsessions ▸ hkey
  have hwritten : (∃ later, next.sessions.get? key = some later ∧ Later row later) → key ∈ next.sessions :=
    fun ⟨later, hlater, _⟩ => Dict.mem_of_get? hlater
  cases operation with
  | register connectionId projectDigest profile capabilityManifestDigest sameHost =>
    rcases commit_eq hperform with hunchanged | ⟨result, t, hx, -, rfl⟩
    · exact hsame (congrArg sessions hunchanged)
    · refine hsame ?_
      unfold registerConnection at hx
      rw [get_bind] at hx
      cases hfound : store.connections.get? connectionId with
      | some existing =>
        dsimp only at hx
        rw [hfound] at hx
        obtain ⟨-, hpure⟩ := raiseIf_bind_eq_ok.mp hx
        cases hpure
        rfl
      | none =>
        dsimp only at hx
        rw [hfound] at hx
        cases hx
        rfl
  | enroll connectionId projectDigest profile capabilityManifestDigest =>
    rcases commit_eq hperform with hunchanged | ⟨⟨⟩, t, hx, -, rfl⟩
    · exact hsame (congrArg sessions hunchanged)
    · unfold enrollConnection at hx
      rw [get_bind] at hx
      obtain ⟨-, hput⟩ := raiseIf_bind_eq_ok.mp hx
      cases hput
      exact hsame rfl
  | transition connectionId expected target =>
    rcases commit_eq hperform with hunchanged | ⟨⟨⟩, t, hx, -, rfl⟩
    · exact hsame (congrArg sessions hunchanged)
    · unfold transitionConnection at hx
      obtain ⟨-, hx⟩ := raiseIf_bind_eq_ok.mp hx
      obtain ⟨connection, -, hx⟩ := connectionRow_bind_eq_ok.mp hx
      obtain ⟨-, hput⟩ := raiseIf_bind_eq_ok.mp hx
      cases hput
      exact hsame rfl
  | append intake source admittedAt =>
    rcases append_writes hperform with hunchanged | hwrites
    · exact hsame (congrArg sessions hunchanged)
    · exact hwritten (Writes.later hwrites hrow)
  | appendTransportChunk chunk intakes clock =>
    rcases appendTransportChunk_writes hperform with hunchanged | hwrites
    · exact hsame (congrArg sessions hunchanged)
    · exact hwritten (hwrites.later hrow)
  | markSessionHealth other code =>
    rcases commit_eq hperform with hunchanged | ⟨⟨⟩, t, hx, -, rfl⟩
    · exact hsame (congrArg sessions hunchanged)
    · exact hwritten (Writes.later (markAuthenticated_writes none hx) hrow)
  | recordFeedback other label projectDigest bound closedAt now =>
    rcases commit_eq hperform with hunchanged | ⟨receipt, t, hx, -, rfl⟩
    · exact hsame (congrArg sessions hunchanged)
    · exact hsame (recordFeedback_only hx).1.sessions
  | markSession | purgeSession | markProject | purgeProject => cases hoperation

/-! ## Runs -/

theorem Connected.reached {connectionId : ComponentIdentifier} (h : Connected connectionId store next)
    (hstore : Reached store) : Reached next := by
  induction h with
  | refl => exact hstore
  | tail _ hlast ih => exact ih.tail hlast.1

/-- A session with a tombstone has no rows. -/
theorem Invariant.buried_of_tombstone (h : Invariant store) (hkey : key ∈ store.tombstones) : Buried key store where
  tombstone := hkey
  session := Dict.get?_eq_none.mpr (h.buried key hkey)
  feedback := Dict.get?_eq_none.mpr fun hmem => h.buried key hkey (h.labelled key hmem)

/-- A tombstone stays as long as the connection is there. -/
theorem Connected.tombstone (h : Connected key.1 store next) (hkey : key ∈ store.tombstones) : key ∈ next.tombstones := by
  induction h with
  | refl => exact hkey
  | tail _ hlast ih => exact hlast.1.stepped.tombstone ih hlast.2

/-- A session that is being deleted stays as it is until it is buried. -/
theorem Connected.deleting (h : Connected key.1 store next) (hstore : Reached store)
    (hrow : store.sessions.get? key = some row) (hstate : row.session.state = .deleting) :
    (next.sessions.get? key = some row ∧ next.feedback.get? key = store.feedback.get? key) ∨ Buried key next := by
  induction h with
  | refl => exact .inl ⟨hrow, rfl⟩
  | tail hfirst hlast ih =>
    have hreached : Reached _ := (Connected.reached hfirst hstore).tail hlast.1
    rcases ih with ⟨hsession, hfeedback⟩ | hburied
    · rcases hlast.1.stepped.deleting hsession hstate with ⟨hsame, hkept⟩ | ⟨-, htombstone⟩
      · exact .inl ⟨hsame, hkept.trans hfeedback⟩
      · exact .inr (hreached.invariant.buried_of_tombstone (htombstone hlast.2))
    · exact .inr (hreached.invariant.buried_of_tombstone (hlast.1.stepped.tombstone hburied.tombstone hlast.2))

/-! ## The transactions of a deletion -/

omit [CaptureKey] [CaptureTags] in
theorem commit_of_ok {α : Type} {x : StoreM α} {writes : α → Bool} {a : α} {t : CaptureTransaction}
    (h : x ⟨store, verified⟩ = .ok a t) (hwrites : writes a = true) :
    commit x writes verified store = (.ok a, t.store) := by
  unfold commit
  rw [h]
  dsimp only
  rw [if_pos hwrites]

variable (verified) in
/-- A session that is there is marked. -/
theorem markTransaction_of_mem (h : Invariant store) (hrow : store.sessions.get? key = some row) :
    ∃ next marked, markTransaction key verified store = (.ok true, next) ∧ next.sessions.get? key = some marked
      ∧ marked.session.state = .deleting ∧ next.connections = store.connections := by
  obtain ⟨connection, hconnection, hsound⟩ := h.sound.rows key row hrow
  obtain ⟨revisions, hhistory⟩ := h.histories key
  have hmark : ∀ {t : CaptureTransaction}, (if row.session.state ≠ .deleting then do
        let _ ← updateSession key row .deleting row.session.eventCount row.session.coverageDegraded
        pure true
      else pure true : StoreM Bool) ⟨store, verified⟩ = .ok true t →
      markSession key ⟨store, verified⟩ = .ok true t := by
    intro t ht
    unfold markSession
    rw [get_bind]
    dsimp only
    rw [hrow]
    refine connectionRow_bind_eq_ok.mpr ⟨connection, hconnection, ?_⟩
    refine check_bind_eq_ok.mpr ⟨hsound.verifyChain fun hpending => (by cases hpending), ?_⟩
    refine lift_bind_eq_ok.mpr ⟨_, hhistory.verified, ?_⟩
    split_ifs at ht ⊢ <;> exact ht
  by_cases hstate : row.session.state = .deleting
  · rw [if_neg (not_not.mpr hstate)] at hmark
    exact ⟨store, row, commit_of_ok (hmark rfl) rfl, hrow, hstate, rfl⟩
  · rw [if_pos hstate] at hmark
    exact ⟨_, _, commit_of_ok (hmark rfl) rfl, get?_put_self, rfl, rfl⟩

/-- A session that is deleted is found to be so. -/
theorem markTransaction_of_tombstone (h : Invariant store) (hkey : key ∈ store.tombstones) :
    markTransaction key verified store = (.ok false, store) := by
  have hnone : store.sessions.get? key = none := Dict.get?_eq_none.mpr (h.buried key hkey)
  have hrun : markSession key ⟨store, verified⟩ = .ok false ⟨store, verified⟩ := by
    unfold markSession
    rw [get_bind]
    dsimp only
    rw [hnone]
    exact raiseIf_bind_eq_ok.mpr ⟨not_not.mpr hkey, rfl⟩
  unfold markTransaction commit
  rw [hrun]
  rfl

variable (verified) in
/-- A session that is marked is removed, and one that is deleted stays so. -/
theorem purgeTransaction_buried (hstore : Reached store)
    (hkey : (∃ row, store.sessions.get? key = some row ∧ row.session.state = .deleting) ∨ key ∈ store.tombstones) :
    ∃ next, purgeTransaction key verified store = (.ok (), next) ∧ Buried key next := by
  have h := hstore.invariant
  rcases hkey with ⟨row, hrow, hstate⟩ | htombstone
  · obtain ⟨connection, hconnection, hsound⟩ := h.sound.rows key row hrow
    obtain ⟨revisions, hhistory⟩ := h.histories key
    have hrun : purgeSession key ⟨store, verified⟩ = .ok () ⟨{ store with
        sessions := store.sessions.erase key
        feedback := store.feedback.erase key
        tombstones := if key ∈ store.tombstones then store.tombstones else store.tombstones ++ [key] }, verified⟩ := by
      unfold purgeSession
      refine connectionRow_bind_eq_ok.mpr ⟨connection, hconnection, ?_⟩
      rw [get_bind]
      dsimp only
      rw [hrow]
      refine raiseIf_bind_eq_ok.mpr ⟨not_not.mpr hstate, ?_⟩
      refine check_bind_eq_ok.mpr ⟨hsound.verifyChain fun hpending => (by cases hpending), ?_⟩
      exact lift_bind_eq_ok.mpr ⟨_, hhistory.verified, rfl⟩
    refine ⟨_, commit_of_ok hrun rfl, ?_, Dict.get?_erase_self, Dict.get?_erase_self⟩
    show key ∈ ite _ _ _
    split
    · next hthere => exact hthere
    · exact List.mem_append_right _ (List.mem_singleton.mpr rfl)
  · obtain ⟨connection, hconnection⟩ := Dict.mem_iff.mp (h.graves key htombstone)
    have hnone : store.sessions.get? key = none := Dict.get?_eq_none.mpr (h.buried key htombstone)
    have hrun : purgeSession key ⟨store, verified⟩ = .ok () ⟨store, verified⟩ := by
      unfold purgeSession
      refine connectionRow_bind_eq_ok.mpr ⟨connection, hconnection, ?_⟩
      rw [get_bind]
      dsimp only
      rw [hnone]
      exact lift_eq_ok.mpr ⟨Checked.raiseIf_eq_ok.mpr (not_not.mpr htombstone), rfl⟩
    exact ⟨store, commit_of_ok hrun rfl, h.buried_of_tombstone htombstone⟩

/-! ## The barrier -/

theorem reached_markTransaction (key : SessionKey) (verified : Dict SessionKey CaptureHead) (h : Reached store) : Reached (markTransaction key verified store).2 :=
  h.tail ⟨verified, .markSession key, rfl⟩

theorem reached_purgeTransaction (h : Reached store) : Reached (purgeTransaction key verified store).2 :=
  h.tail ⟨verified, .purgeSession key, rfl⟩

/-- What the first transaction leaves, and whatever is done after it: the session is marked, or it is buried. -/
theorem marked_or_buried (h : Reached store) (hkey : Known key store)
    (hlater : Connected key.1 (markTransaction key verified store).2 next) :
    (∃ row, next.sessions.get? key = some row ∧ row.session.state = .deleting) ∨ key ∈ next.tombstones := by
  have hreached : Reached (markTransaction key verified store).2 := reached_markTransaction _ _ h
  rcases hkey with hsession | htombstone
  · obtain ⟨row, hrow⟩ := Dict.mem_iff.mp hsession
    obtain ⟨marked, after, hmark, hafter, hstate, -⟩ := markTransaction_of_mem verified h.invariant hrow
    rw [hmark] at hlater hreached
    rcases hlater.deleting hreached hafter hstate with ⟨hthere, -⟩ | hburied
    · exact .inl ⟨after, hthere, hstate⟩
    · exact .inr hburied.tombstone
  · rw [markTransaction_of_tombstone h.invariant htombstone] at hlater
    exact .inr (hlater.tombstone htombstone)

/-- A deletion of a session that is there, or that was deleted, ends with its tombstone and without its rows. -/
theorem deleteSession_buried (h : Reached store) (hkey : Known key store) :
    ∃ disposition next, deleteSession key verified store = (.ok disposition, next) ∧ Buried key next := by
  unfold deleteSession
  by_cases htombstone : key ∈ store.tombstones
  · rw [markTransaction_of_tombstone h.invariant htombstone]
    exact ⟨_, _, rfl, h.invariant.buried_of_tombstone htombstone⟩
  · obtain ⟨row, hrow⟩ := Dict.mem_iff.mp (hkey.resolve_right htombstone)
    obtain ⟨marked, after, hmark, hafter, hstate, -⟩ := markTransaction_of_mem verified h.invariant hrow
    have hreached : Reached marked := by
      have hmarked := reached_markTransaction key verified h
      rw [hmark] at hmarked
      exact hmarked
    obtain ⟨last, hpurge, hburied⟩ := purgeTransaction_buried verified hreached
      (.inl ⟨after, hafter, hstate⟩)
    rw [hmark]
    dsimp only
    rw [hpurge]
    exact ⟨_, _, rfl, hburied⟩

/-- Wherever a deletion stopped, and whatever was done since, the session or its tombstone is there. -/
theorem known_of_stopped {stop : DeletionStop} (h : Reached store) (hkey : Known key store)
    (hlater : Connected key.1 (stoppedDeletion stop key verified store) next) : Known key next := by
  have hmarked : ∀ {later : CaptureStore}, Connected key.1 (markTransaction key verified store).2 later → Known key later := by
    intro later hrun
    rcases marked_or_buried h hkey hrun with ⟨row, hrow, -⟩ | htombstone
    · exact .inl (Dict.mem_of_get? hrow)
    · exact .inr htombstone
  cases stop with
  | afterMarkCommit | afterTombstoneWrite | beforePurgeCommit => exact hmarked hlater
  | afterPurgeCommit =>
    obtain ⟨last, hpurge, hburied⟩ := purgeTransaction_buried verified
      (reached_markTransaction key verified h) (marked_or_buried h hkey .refl)
    unfold stoppedDeletion at hlater
    dsimp only at hlater
    rw [hpurge] at hlater
    exact .inr (hlater.tombstone hburied.tombstone)

theorem reached_stoppedDeletion {stop : DeletionStop} (h : Reached store) :
    Reached (stoppedDeletion stop key verified store) := by
  cases stop with
  | afterMarkCommit | afterTombstoneWrite | beforePurgeCommit => exact reached_markTransaction _ _ h
  | afterPurgeCommit => exact reached_purgeTransaction (reached_markTransaction _ _ h)

/-- In every state of a store that was created empty: behind a tombstone no row comes back while the connection is there;
nothing but a deletion changes a session that is marked, until it is buried; and a deletion ends with the session buried,
whatever is done between its transactions, and also when it is repeated after it stopped and anything was done. -/
theorem deletion_barrier (h : Reached store) (key : SessionKey) :
    (key ∈ store.tombstones → ∀ later, Connected key.1 store later → Buried key later)
      ∧ (∀ row, store.sessions.get? key = some row → row.session.state = .deleting →
        (∀ verified operation, operation.isDeletion = false →
          (perform verified store operation).sessions.get? key = some row
            ∧ (perform verified store operation).feedback.get? key = store.feedback.get? key)
        ∧ ∀ later, Connected key.1 store later →
          (later.sessions.get? key = some row ∧ later.feedback.get? key = store.feedback.get? key) ∨ Buried key later)
      ∧ (Known key store → ∀ verified,
        (∀ later, Connected key.1 (markTransaction key verified store).2 later → ∀ verified', ∃ next,
          purgeTransaction key verified' later = (.ok (), next) ∧ Buried key next)
        ∧ ∀ stop later, Connected key.1 (stoppedDeletion stop key verified store) later → ∀ verified',
          ∃ disposition next, deleteSession key verified' later = (.ok disposition, next) ∧ Buried key next) := by
  refine ⟨fun htombstone later hlater => ?_, fun row hrow hstate => ⟨fun verified operation hoperation => ?_, ?_⟩,
    fun hkey verified => ⟨fun later hlater verified' => ?_, fun stop later hlater verified' => ?_⟩⟩
  · exact (hlater.reached h).invariant.buried_of_tombstone (hlater.tombstone htombstone)
  · rcases (Step.stepped ⟨verified, operation, rfl⟩).deleting hrow hstate with hsame | ⟨hgone, -⟩
    · exact hsame
    · exact absurd (mem_perform hoperation (Dict.mem_of_get? hrow)) (Dict.get?_eq_none.mp hgone)
  · exact fun later hlater => hlater.deleting h hrow hstate
  · exact purgeTransaction_buried _ (hlater.reached (reached_markTransaction _ _ h)) (marked_or_buried h hkey hlater)
  · exact deleteSession_buried (hlater.reached (reached_stoppedDeletion h)) (known_of_stopped h hkey hlater)

end

section

attribute [local instance] localKey localTags

/-- A deletion of the session that stopped after its mark ends when it is repeated. -/
theorem deletion_barrier_transported : ∃ disposition next,
    deleteSession firstIntake.session .empty (stoppedDeletion .afterMarkCommit firstIntake.session .empty transported)
      = (.ok disposition, next) ∧ Buried firstIntake.session next := by
  have hthere : (transported.sessions.get? firstIntake.session).isSome = true := by decide +kernel
  obtain ⟨row, hrow⟩ := Option.isSome_iff_exists.mp hthere
  exact ((deletion_barrier reached_transported firstIntake.session).2.2 (.inl (Dict.mem_of_get? hrow)) .empty).2
    .afterMarkCommit _ .refl .empty

end

end CaptureStore

end SalienceGate
