import SalienceGate.Capture.StoreChunks
import SalienceGate.Capture.StoreHistory

/-!
# What a step of the store writes

`Stepped` is everything that one transaction can do to the rows. The invariants of the store are proved from it.
-/

namespace SalienceGate

open Stateful

variable [CaptureKey] [CaptureTags]

namespace CaptureStore

variable {store next : CaptureStore} {verified : Dict SessionKey CaptureHead} {key : SessionKey} {row : StoredSession}

/-- A session that is being deleted. -/
def deleting (row : StoredSession) : StoredSession := { row with session := { row.session with state := .deleting } }

omit [CaptureKey] [CaptureTags] in
/-- A transaction leaves the rows as they were, or it returned and they are written. -/
theorem commit_eq {α : Type} {x : StoreM α} {writes : α → Bool} (h : (commit x writes verified store).2 = next) :
    next = store ∨ ∃ a t, x ⟨store, verified⟩ = .ok a t ∧ writes a = true ∧ t.store = next := by
  unfold commit at h
  split at h
  · next a t hx =>
    dsimp only at h
    split at h
    · next hwrites => exact .inr ⟨a, t, hx, hwrites, h⟩
    · exact .inl h.symm
  · exact .inl h.symm

/-- What one transaction does to the rows. -/
inductive Stepped (store next : CaptureStore) : Prop
  | unchanged (h : next = store)
  | connected (hsessions : next.sessions = store.sessions) (htombstones : next.tombstones = store.tombstones)
      (hfeedback : next.feedback = store.feedback)
      (hconnections : ∀ id connection, store.connections.get? id = some connection →
        ∃ state, next.connections.get? id = some { connection with state })
  | written (hwrites : Writes none store next)
  | chunk (chunk : CaptureTransportChunk) (intakes : List CaptureIntake) (hwrites : ChunkWrites chunk intakes store next)
  | recorded {key : SessionKey} {row : StoredSession} (hrow : store.sessions.get? key = some row)
      (hclosed : row.session.state = .closed) (honly : FeedbackOnly key store next)
      (hhistory : ∀ revisions, History key (store.feedbackOf key) revisions →
        ∃ later, History key (next.feedbackOf key) later)
  | marked {key : SessionKey} {row : StoredSession} (hrow : store.sessions.get? key = some row)
      (hnext : next = store.put key (deleting row))
  | purged {key : SessionKey} {row : StoredSession} (hrow : store.sessions.get? key = some row)
      (hstate : row.session.state = .deleting)
      (hnext : next = { store with
        sessions := store.sessions.erase key
        feedback := store.feedback.erase key
        tombstones := if key ∈ store.tombstones then store.tombstones else store.tombstones ++ [key] })
  | projectPurged (ids : List ComponentIdentifier)
      (hstates : ∀ id ∈ ids, ∀ connection, store.connections.get? id = some connection → connection.state = .deleting)
      (hconnections : ∀ id, next.connections.get? id = if id ∈ ids then none else store.connections.get? id)
      (hsessions : ∀ key, next.sessions.get? key = if key.1 ∈ ids then none else store.sessions.get? key)
      (hfeedback : ∀ key, next.feedback.get? key = if key.1 ∈ ids then none else store.feedback.get? key)
      (htombstones : next.tombstones = store.tombstones.filter fun key => key.1 ∉ ids)

/-! ## Connections -/

omit [CaptureKey] [CaptureTags] in
/-- Only the state of a connection changes. -/
theorem set_connections {id : ComponentIdentifier} {connection : CaptureConnection}
    (h : ∀ before, store.connections.get? id = some before → connection = { before with state := connection.state }) :
    ∀ other before, store.connections.get? other = some before →
      ∃ state, (store.connections.set id connection).get? other = some { before with state } := by
  intro other before hbefore
  by_cases hsame : other = id
  · subst hsame
    refine ⟨connection.state, ?_⟩
    rw [Dict.get?_set_self, ← h before hbefore]
  · refine ⟨before.state, ?_⟩
    rw [Dict.get?_set_of_ne hsame, hbefore]

theorem Stepped.register {connectionId : ComponentIdentifier} {projectDigest capabilityManifestDigest : Sha256Digest}
    {profile : CaptureProfile} {sameHost : Bool} {result : Bool} {t : CaptureTransaction}
    (h : registerConnection connectionId projectDigest profile capabilityManifestDigest sameHost ⟨store, verified⟩
      = .ok result t) : Stepped store t.store := by
  unfold registerConnection at h
  rw [get_bind] at h
  cases hfound : store.connections.get? connectionId with
  | some existing =>
    dsimp only at h
    rw [hfound] at h
    obtain ⟨-, hpure⟩ := raiseIf_bind_eq_ok.mp h
    cases hpure
    exact .unchanged rfl
  | none =>
    dsimp only at h
    rw [hfound] at h
    cases h
    refine .connected rfl rfl rfl (set_connections fun before hbefore => ?_)
    cases hfound.symm.trans hbefore

theorem Stepped.enroll {connectionId : ComponentIdentifier} {projectDigest capabilityManifestDigest : Sha256Digest}
    {profile : CaptureProfile} {t : CaptureTransaction}
    (h : enrollConnection connectionId projectDigest profile capabilityManifestDigest ⟨store, verified⟩ = .ok () t) :
    Stepped store t.store := by
  unfold enrollConnection at h
  rw [get_bind] at h
  obtain ⟨hnew, hput⟩ := raiseIf_bind_eq_ok.mp h
  cases hput
  refine .connected rfl rfl rfl (set_connections fun before hbefore => ?_)
  exact absurd (Dict.mem_of_get? hbefore) hnew

theorem Stepped.transition {connectionId : ComponentIdentifier} {expected target : CaptureConnectionState}
    {t : CaptureTransaction} (h : transitionConnection connectionId expected target ⟨store, verified⟩ = .ok () t) :
    Stepped store t.store := by
  unfold transitionConnection at h
  obtain ⟨-, h⟩ := raiseIf_bind_eq_ok.mp h
  obtain ⟨connection, hconnection, h⟩ := connectionRow_bind_eq_ok.mp h
  obtain ⟨-, hput⟩ := raiseIf_bind_eq_ok.mp h
  cases hput
  refine .connected rfl rfl rfl (set_connections fun before hbefore => ?_)
  rw [Option.some_inj.mp (hbefore.symm.trans hconnection)]

theorem Stepped.markProject {projectDigest : Sha256Digest} {t : CaptureTransaction}
    (h : markProject projectDigest ⟨store, verified⟩ = .ok () t) : Stepped store t.store := by
  unfold CaptureStore.markProject at h
  rw [get_bind] at h
  obtain ⟨-, hmodify⟩ := raiseIf_bind_eq_ok.mp h
  cases hmodify
  refine .connected rfl rfl rfl fun id connection hconnection => ?_
  refine ⟨if connection.projectDigest = projectDigest then .deleting else connection.state, ?_⟩
  show (store.connections.mapValues _).get? id = _
  rw [Dict.get?_mapValues, hconnection, Option.map_some]
  split <;> rfl

/-! ## Deletions -/

theorem Stepped.markSession {found : Bool} {t : CaptureTransaction} (h : markSession key ⟨store, verified⟩ = .ok found t) : Stepped store t.store := by
  unfold CaptureStore.markSession at h
  rw [get_bind] at h
  cases hfound : store.sessions.get? key with
  | none =>
    dsimp only at h
    rw [hfound] at h
    obtain ⟨-, hpure⟩ := raiseIf_bind_eq_ok.mp h
    cases hpure
    exact .unchanged rfl
  | some row =>
    dsimp only at h
    rw [hfound] at h
    obtain ⟨connection, -, h⟩ := connectionRow_bind_eq_ok.mp h
    obtain ⟨-, h⟩ := check_bind_eq_ok.mp h
    obtain ⟨rows, -, h⟩ := lift_bind_eq_ok.mp h
    split at h
    · cases h
      exact .marked hfound rfl
    · cases h
      exact .unchanged rfl

theorem Stepped.purgeSession {t : CaptureTransaction} (h : purgeSession key ⟨store, verified⟩ = .ok () t) :
    Stepped store t.store := by
  unfold CaptureStore.purgeSession at h
  obtain ⟨connection, -, h⟩ := connectionRow_bind_eq_ok.mp h
  rw [get_bind] at h
  cases hfound : store.sessions.get? key with
  | none =>
    dsimp only at h
    rw [hfound] at h
    obtain ⟨-, rfl⟩ := lift_eq_ok.mp h
    exact .unchanged rfl
  | some row =>
    dsimp only at h
    rw [hfound] at h
    obtain ⟨hstate, h⟩ := raiseIf_bind_eq_ok.mp h
    obtain ⟨-, h⟩ := check_bind_eq_ok.mp h
    obtain ⟨rows, -, hmodify⟩ := lift_bind_eq_ok.mp h
    cases hmodify
    exact .purged hfound (not_not.mp hstate) rfl

omit [CaptureKey] [CaptureTags] in
/-- What is erased one key after the other is gone. -/
theorem get?_foldl_erase {κ ν : Type} [DecidableEq κ] {keys : List κ} {d : Dict κ ν} {k : κ} :
    (keys.foldl Dict.erase d).get? k = if k ∈ keys then none else d.get? k := by
  induction keys generalizing d with
  | nil => rfl
  | cons first rest ih =>
    rw [List.foldl_cons, ih]
    by_cases hfirst : k = first
    · subst hfirst
      rw [Dict.get?_erase_self, ite_self, if_pos List.mem_cons_self]
    · rw [Dict.get?_erase_of_ne hfirst]
      simp only [List.mem_cons, hfirst, false_or]

omit [CaptureKey] [CaptureTags] in
/-- A loop that only checks the rows leaves them as they are. -/
theorem forM_checks {α : Type} {f : α → StoreM Unit} {xs : List α} {t u : CaptureTransaction} (h : xs.forM f t = .ok () u)
    (hround : ∀ x ∈ xs, ∀ v w, f x v = .ok () w → w = v) : u = t := by
  induction xs generalizing t with
  | nil =>
    cases h
    rfl
  | cons first rest ih =>
    obtain ⟨⟨⟩, v, hfirst, hrest⟩ := bind_eq_ok.mp h
    cases hround first List.mem_cons_self t v hfirst
    exact ih hrest fun x hx => hround x (List.mem_cons_of_mem first hx)

omit [CaptureKey] [CaptureTags] in
/-- What belongs to given connections is erased. -/
theorem get?_eraseOf {ν : Type} {d : Dict SessionKey ν} {ids : List ComponentIdentifier} :
    ((d.keys.filter fun key => decide (key.1 ∈ ids)).foldl Dict.erase d).get? key
      = if key.1 ∈ ids then none else d.get? key := by
  rw [get?_foldl_erase]
  by_cases hkey : key.1 ∈ ids
  · rw [if_pos hkey]
    split
    · rfl
    · next hnot =>
      rw [Dict.get?_eq_none]
      exact fun hmem => hnot (List.mem_filter.mpr ⟨hmem, decide_eq_true hkey⟩)
  · rw [if_neg hkey, if_neg]
    exact fun hmem => hkey (of_decide_eq_true (List.mem_filter.mp hmem).2)

theorem Stepped.purgeProject {projectDigest : Sha256Digest} {ids : List ComponentIdentifier} {t : CaptureTransaction}
    (h : purgeProject projectDigest ids ⟨store, verified⟩ = .ok () t) : Stepped store t.store := by
  unfold CaptureStore.purgeProject at h
  rw [get_bind] at h
  obtain ⟨hcurrent, h⟩ := raiseIf_bind_eq_ok.mp h
  rw [not_not] at hcurrent
  obtain ⟨hstates, h⟩ := raiseIf_bind_eq_ok.mp h
  obtain ⟨⟨⟩, v, hloop, hmodify⟩ := bind_eq_ok.mp h
  have hsame : v = ⟨store, verified⟩ := by
    refine forM_checks hloop fun entry hentry v w hround => ?_
    obtain ⟨connection, -, hround⟩ := connectionRow_bind_eq_ok.mp hround
    obtain ⟨-, hround⟩ := check_bind_eq_ok.mp hround
    obtain ⟨rows, -, hpure⟩ := lift_bind_eq_ok.mp hround
    cases hpure
    rfl
  subst hsame
  cases hmodify
  refine .projectPurged ids ?_ (fun id => get?_foldl_erase) (fun key => get?_eraseOf) (fun key => get?_eraseOf) rfl
  intro id hid connection hconnection
  rw [← hcurrent] at hid
  obtain ⟨⟨other, found⟩, hentry, rfl⟩ := List.mem_map.mp hid
  have hitem := Dict.get?_eq_some.mpr (List.mem_filter.mp hentry).1
  rw [hconnection] at hitem
  cases hitem
  by_contra hne
  exact hstates ⟨_, hentry, hne⟩

/-! ## Feedback -/

theorem Stepped.recordFeedback {label : CaptureFeedbackLabel} {projectDigest : Sha256Digest}
    {bound : CaptureConnection → Except CaptureStoreError Unit} {closedAt now : Datetime}
    {receipt : CaptureFeedbackReceipt} {t : CaptureTransaction}
    (h : recordFeedback key label projectDigest bound closedAt now ⟨store, verified⟩ = .ok receipt t) :
    Stepped store t.store := by
  obtain ⟨honly, row, hrow, hclosed⟩ := recordFeedback_only h
  refine .recorded hrow hclosed honly fun revisions hhistory => ?_
  obtain ⟨later, hlater, -⟩ := recordFeedback_eq_ok h hhistory
  exact ⟨later, hlater⟩

/-! ## Appends -/

theorem append_writes {intake : CaptureIntake} {source : CaptureAdmissionSource} {admittedAt : UtcDatetime}
    (h : (append intake source admittedAt verified store).2 = next) : next = store ∨ Writes none store next := by
  unfold append at h
  split at h
  · exact .inl h.symm
  · next hauthentic =>
    rcases commit_eq h with hsame | ⟨receipt, t, hx, -, rfl⟩
    · exact .inl hsame
    · obtain ⟨connection, -, -, hwrites, -⟩ := appendAuthenticated_writes none hx
        (Bool.eq_true_of_not_eq_false hauthentic) fun hbound => by cases hbound
      exact .inr hwrites

theorem appendTransportChunk_writes {chunk : CaptureTransportChunk} {intakes : List CaptureIntake}
    {clock : ℕ → UtcDatetime} (h : (appendTransportChunk chunk intakes clock verified store).2 = next) :
    next = store ∨ ChunkWrites chunk intakes store next := by
  unfold appendTransportChunk at h
  split at h
  · exact .inl h.symm
  · split at h
    · exact .inl h.symm
    · next hauthentic =>
      split at h
      · exact .inl h.symm
      · next hsession =>
        rcases commit_eq h with hsame | ⟨⟨receipt, written⟩, t, hx, hwritten, rfl⟩
        · exact .inl hsame
        · dsimp only at hwritten
          subst hwritten
          refine .inr (chunkAuthenticated_writes hx (fun intake hintake => ?_) fun intake hintake => ?_)
          · by_contra hne
            exact hauthentic ⟨intake, hintake, Bool.eq_false_of_not_eq_true hne⟩
          · by_contra hne
            exact hsession ⟨intake, hintake, hne⟩

/-! ## Steps -/

/-- What a step can do. -/
theorem Step.stepped (h : Step store next) : Stepped store next := by
  obtain ⟨verified, operation, hperform⟩ := h
  cases operation with
  | register connectionId projectDigest profile capabilityManifestDigest sameHost =>
    rcases commit_eq hperform with hsame | ⟨result, t, hx, -, rfl⟩
    · exact .unchanged hsame
    · exact .register hx
  | enroll connectionId projectDigest profile capabilityManifestDigest =>
    rcases commit_eq hperform with hsame | ⟨⟨⟩, t, hx, -, rfl⟩
    · exact .unchanged hsame
    · exact .enroll hx
  | transition connectionId expected target =>
    rcases commit_eq hperform with hsame | ⟨⟨⟩, t, hx, -, rfl⟩
    · exact .unchanged hsame
    · exact .transition hx
  | append intake source admittedAt =>
    rcases append_writes hperform with hsame | hwrites
    · exact .unchanged hsame
    · exact .written hwrites
  | appendTransportChunk chunk intakes clock =>
    rcases appendTransportChunk_writes hperform with hsame | hwrites
    · exact .unchanged hsame
    · exact .chunk chunk intakes hwrites
  | markSessionHealth key code =>
    rcases commit_eq hperform with hsame | ⟨⟨⟩, t, hx, -, rfl⟩
    · exact .unchanged hsame
    · exact .written (markAuthenticated_writes none hx)
  | recordFeedback key label projectDigest bound closedAt now =>
    rcases commit_eq hperform with hsame | ⟨receipt, t, hx, -, rfl⟩
    · exact .unchanged hsame
    · exact .recordFeedback hx
  | markSession key =>
    rcases commit_eq hperform with hsame | ⟨found, t, hx, -, rfl⟩
    · exact .unchanged hsame
    · exact .markSession hx
  | purgeSession key =>
    rcases commit_eq hperform with hsame | ⟨⟨⟩, t, hx, -, rfl⟩
    · exact .unchanged hsame
    · exact .purgeSession hx
  | markProject projectDigest =>
    rcases commit_eq hperform with hsame | ⟨⟨⟩, t, hx, -, rfl⟩
    · exact .unchanged hsame
    · exact .markProject hx
  | purgeProject projectDigest connectionIds =>
    rcases commit_eq hperform with hsame | ⟨⟨⟩, t, hx, -, rfl⟩
    · exact .unchanged hsame
    · exact .purgeProject hx

/-! ## The rows of a session later on -/

/-- What stays of the rows of a session, as long as it is there. -/
structure Later (row later : StoredSession) : Prop where
  degraded : row.session.coverageDegraded = true → later.session.coverageDegraded = true
  quarantined : row.session.state = .quarantined → later.session.state = .quarantined ∨ later.session.state = .deleting
  deleting : row.session.state = .deleting → later = row
  events : row.events <+: later.events
  receipts : row.receipts <+: later.receipts

omit [CaptureKey] [CaptureTags]

theorem Later.refl (row : StoredSession) : Later row row := ⟨id, .inl, fun _ => rfl, List.prefix_rfl, List.prefix_rfl⟩

theorem Later.trans {row later last : StoredSession} (h : Later row later) (h' : Later later last) : Later row last where
  degraded hdegraded := h'.degraded (h.degraded hdegraded)
  quarantined hstate := by
    rcases h.quarantined hstate with hlater | hlater
    · exact h'.quarantined hlater
    · rw [h'.deleting hlater]
      exact .inr hlater
  deleting hstate := by
    have hsame := h.deleting hstate
    rw [h'.deleting (hsame ▸ hstate), hsame]
  events := h.events.trans h'.events
  receipts := h.receipts.trans h'.receipts

variable [CaptureKey] [CaptureTags] {pending : Option SessionKey} {profile : CaptureProfile} {after : StoredSession}

theorem RowWrite.later (h : RowWrite pending store key profile after) (hrow : store.sessions.get? key = some row)
    (hwritable : Writable store key) : Later row after := by
  have hdeleting : row.session.state = .deleting → after = row := fun hstate => absurd hstate (hwritable.state row hrow)
  cases h with
  | create hnew _ => exact absurd (Dict.mem_of_get? hrow) hnew
  | degrade hbefore =>
    cases hrow.symm.trans hbefore
    exact ⟨fun _ => rfl, .inl, hdeleting, List.prefix_rfl, List.prefix_rfl⟩
  | quarantine hbefore =>
    cases hrow.symm.trans hbefore
    exact ⟨fun _ => rfl, fun _ => .inl rfl, hdeleting, List.prefix_rfl, List.prefix_rfl⟩
  | health hbefore _ _ =>
    cases hrow.symm.trans hbefore
    exact ⟨id, .inl, hdeleting, List.prefix_rfl, List.prefix_rfl⟩
  | extend hbefore _ _ _ _ _ _ _ hopened _ _ =>
    cases hrow.symm.trans hbefore
    refine ⟨fun hdegraded => ?_, fun hstate => ?_, hdeleting, List.prefix_append _ _, List.prefix_rfl⟩
    · show (row.session.coverageDegraded || _ || _) = true
      rw [hdegraded, Bool.true_or, Bool.true_or]
    · cases hstate.symm.trans hopened
  | require hbefore _ _ hopened _ =>
    cases hrow.symm.trans hbefore
    exact ⟨fun _ => rfl, fun hstate => (by cases hstate.symm.trans hopened), hdeleting, List.prefix_rfl, List.prefix_rfl⟩

theorem Write.later (h : Write pending store next) (hrow : store.sessions.get? key = some row) :
    ∃ later, next.sessions.get? key = some later ∧ Later row later := by
  cases h with
  | mk other after connection hconnection hwritable hwrite =>
    by_cases hsame : key = other
    · subst hsame
      exact ⟨after, get?_put_self, hwrite.later hrow hwritable⟩
    · exact ⟨row, (get?_put_of_ne hsame).trans hrow, .refl row⟩

theorem Writes.later (h : Writes pending store next) (hrow : store.sessions.get? key = some row) :
    ∃ later, next.sessions.get? key = some later ∧ Later row later := by
  induction h with
  | refl => exact ⟨row, hrow, .refl row⟩
  | tail _ hlast ih =>
    obtain ⟨middle, hmiddle, hfirst⟩ := ih
    obtain ⟨later, hlater, hsecond⟩ := hlast.later hmiddle
    exact ⟨later, hlater, hfirst.trans hsecond⟩

omit [CaptureKey] in
theorem Receipted.later {chunk : CaptureTransportChunk} {intakes : List CaptureIntake}
    (h : Receipted chunk intakes store next) (hrow : store.sessions.get? key = some row) :
    ∃ later, next.sessions.get? key = some later ∧ Later row later := by
  cases h with
  | mk admittedAt before head connection hconnection hprofile hwritable hbefore hhead hroom hbatch =>
    by_cases hsame : key = chunk.session
    · subst hsame
      cases hrow.symm.trans hbefore
      exact ⟨_, get?_put_self, id, .inl, fun hstate => absurd hstate (hwritable.state row hrow),
        List.prefix_rfl, List.prefix_append _ _⟩
    · exact ⟨row, (get?_put_of_ne hsame).trans hrow, .refl row⟩

omit [CaptureKey] in
theorem Receipted.frame {chunk : CaptureTransportChunk} {intakes : List CaptureIntake}
    (h : Receipted chunk intakes store next) : next.connections = store.connections ∧ next.tombstones = store.tombstones
      ∧ next.feedback = store.feedback ∧ ∀ key, key ∈ next.sessions ↔ key ∈ store.sessions := by
  cases h with
  | mk admittedAt row head connection hconnection hprofile hwritable hrow hhead hroom hbatch =>
    refine ⟨rfl, rfl, rfl, fun key => ?_⟩
    refine Dict.mem_set.trans ⟨?_, .inr⟩
    rintro (rfl | hold)
    · exact Dict.mem_of_get? hrow
    · exact hold

theorem ChunkWrites.later {chunk : CaptureTransportChunk} {intakes : List CaptureIntake}
    (h : ChunkWrites chunk intakes store next) (hrow : store.sessions.get? key = some row) :
    ∃ later, next.sessions.get? key = some later ∧ Later row later := by
  cases h with
  | refused hwrites => exact Writes.later hwrites hrow
  | receipted hwrites hreceipted =>
    obtain ⟨middle, hmiddle, hfirst⟩ := Writes.later hwrites hrow
    obtain ⟨later, hlater, hsecond⟩ := hreceipted.later hmiddle
    exact ⟨later, hlater, hfirst.trans hsecond⟩
  | upgraded _ _ _ _ hwrites => exact Writes.later hwrites hrow

/-- A chunk changes no connection, no tombstone and no feedback. -/
theorem ChunkWrites.frame {chunk : CaptureTransportChunk} {intakes : List CaptureIntake}
    (h : ChunkWrites chunk intakes store next) : next.connections = store.connections
      ∧ next.tombstones = store.tombstones ∧ next.feedback = store.feedback := by
  cases h with
  | refused hwrites => exact ⟨Writes.connections hwrites, Writes.tombstones hwrites, Writes.feedback hwrites⟩
  | receipted hwrites hreceipted =>
    obtain ⟨hconnections, htombstones, hfeedback, -⟩ := hreceipted.frame
    exact ⟨hconnections.trans (Writes.connections hwrites), htombstones.trans (Writes.tombstones hwrites),
      hfeedback.trans (Writes.feedback hwrites)⟩
  | upgraded _ _ _ _ hwrites =>
    exact ⟨Writes.connections hwrites, Writes.tombstones hwrites, Writes.feedback hwrites⟩

/-- A session goes away, or its rows are later ones. -/
theorem Stepped.later (h : Stepped store next) (hrow : store.sessions.get? key = some row) :
    next.sessions.get? key = none ∨ ∃ later, next.sessions.get? key = some later ∧ Later row later := by
  cases h with
  | unchanged h =>
    subst h
    exact .inr ⟨row, hrow, .refl row⟩
  | connected hsessions htombstones hfeedback hconnections =>
    rw [hsessions]
    exact .inr ⟨row, hrow, .refl row⟩
  | written hwrites => exact .inr (hwrites.later hrow)
  | chunk chunk intakes hwrites => exact .inr (hwrites.later hrow)
  | recorded hbefore hclosed honly hhistory =>
    rw [honly.sessions]
    exact .inr ⟨row, hrow, .refl row⟩
  | @marked other before hbefore hnext =>
    subst hnext
    right
    by_cases hsame : key = other
    · subst hsame
      cases hrow.symm.trans hbefore
      refine ⟨_, get?_put_self, id, fun _ => .inr rfl, fun hstate => ?_, List.prefix_rfl, List.prefix_rfl⟩
      unfold CaptureStore.deleting
      rw [← hstate]
    · exact ⟨row, (get?_put_of_ne hsame).trans hrow, .refl row⟩
  | @purged other before hbefore hstate hnext =>
    subst hnext
    by_cases hsame : key = other
    · subst hsame
      exact .inl Dict.get?_erase_self
    · exact .inr ⟨row, (Dict.get?_erase_of_ne hsame).trans hrow, .refl row⟩
  | projectPurged ids hstates hconnections hsessions hfeedback htombstones =>
    rw [hsessions]
    split
    · exact .inl rfl
    · exact .inr ⟨row, hrow, .refl row⟩

end CaptureStore

end SalienceGate
