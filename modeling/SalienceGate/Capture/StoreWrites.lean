import SalienceGate.Capture.StoreOperations
import Mathlib.Logic.Relation

/-!
# What a transaction writes

An append or a chunk is a sequence of writes, each of the rows of one session: it is created, loses its coverage, is
quarantined, counts a health code, gets an event, or enters the transport of its bridge. `RowWrite` says what each of
these is given and leaves, and the theorems of this module find the writes of every function that returned. A chunk is
pending for its session until its receipt is written, which ends the chunk.
-/

namespace SalienceGate

open Stateful

namespace CaptureStore

/-- The rows of one session are replaced. -/
def put (store : CaptureStore) (key : SessionKey) (row : StoredSession) : CaptureStore :=
  { store with sessions := store.sessions.set key row }

/-- A session loses its coverage, in a state. -/
def degraded (row : StoredSession) (state : CaptureSessionState) : StoredSession :=
  { row with session := { row.session with state, coverageDegraded := true } }

/-! ## Rows that are read and written -/

section rows

variable {α : Type} {a : α} {t u : CaptureTransaction} {key : SessionKey} {row : StoredSession}

theorem connectionRow_bind_eq_ok {connectionId : ComponentIdentifier} {f : CaptureConnection → StoreM α} :
    (connectionRow connectionId >>= f) t = .ok a u ↔
      ∃ connection, t.store.connections.get? connectionId = some connection ∧ f connection t = .ok a u := by
  unfold connectionRow
  rw [bind_assoc, get_bind]
  exact expect_bind_eq_ok

theorem sessionRow_bind_eq_ok {f : StoredSession → StoreM α} : (sessionRow key >>= f) t = .ok a u ↔
    ∃ row, t.store.sessions.get? key = some row ∧ f row t = .ok a u := by
  unfold sessionRow
  rw [bind_assoc, get_bind]
  exact expect_bind_eq_ok

/-- The rows of a session may be written: it is neither deleted nor being deleted. -/
structure Writable (store : CaptureStore) (key : SessionKey) : Prop where
  tombstone : key ∉ store.tombstones
  state : ∀ row, store.sessions.get? key = some row → row.session.state ≠ .deleting

theorem appendSessionRow_bind_eq_ok {f : Option StoredSession → StoreM α} :
    (appendSessionRow key >>= f) t = .ok a u ↔
      Writable t.store key ∧ f (t.store.sessions.get? key) t = .ok a u := by
  unfold appendSessionRow
  simp only [bind_assoc, get_bind, raiseIf_bind_eq_ok, pure_bind]
  simp only [List.any_eq_true, decide_eq_true_eq, exists_eq_right, Option.any_eq_true, not_exists, not_and]
  exact ⟨fun ⟨htombstone, hstate, h⟩ => ⟨⟨htombstone, hstate⟩, h⟩, fun ⟨⟨htombstone, hstate⟩, h⟩ => ⟨htombstone, hstate, h⟩⟩

theorem putSession_bind_eq_ok {f : Unit → StoreM α} : (putSession key row >>= f) t = .ok a u ↔
    f () { t with store := t.store.put key row } = .ok a u := Iff.rfl

theorem updateSession_bind_eq_ok {state : CaptureSessionState} {f : StoredSession → StoreM α} :
    (updateSession key row state row.session.eventCount true >>= f) t = .ok a u ↔
      f (degraded row state) { t with store := t.store.put key (degraded row state) } = .ok a u := Iff.rfl

end rows

section

variable {s : CaptureStore} {key other : SessionKey} {row : StoredSession}

@[simp] theorem get?_put_self : (s.put key row).sessions.get? key = some row := Dict.get?_set_self

theorem get?_put_of_ne (h : other ≠ key) : (s.put key row).sessions.get? other = s.sessions.get? other :=
  Dict.get?_set_of_ne h

end

variable [CaptureKey] [CaptureTags]

/-! ## Writes -/

/-- A session of a bridge enters its transport. -/
def required (key : SessionKey) (row : StoredSession) : StoredSession :=
  { degraded row .opened with
    transportHead := some ⟨0, none⟩
    session := { (degraded row .opened).session with
      transportHeadTag := some (CaptureTags.transportHeadTag key ⟨0, none⟩) } }

/-- The rows of a session that a write leaves, where a chunk may be pending. -/
inductive RowWrite (pending : Option SessionKey) (store : CaptureStore) (key : SessionKey) (profile : CaptureProfile) :
    StoredSession → Prop
  | create {state : CaptureSessionState} {coverageDegraded : Bool} (hnew : key ∉ store.sessions)
      (hstate : state = .opened ∨ state = .quarantined ∧ coverageDegraded = true) :
      RowWrite pending store key profile (newSession key profile state coverageDegraded)
  | degrade {row : StoredSession} (hrow : store.sessions.get? key = some row) :
      RowWrite pending store key profile (degraded row row.session.state)
  | quarantine {row : StoredSession} (hrow : store.sessions.get? key = some row) :
      RowWrite pending store key profile (degraded row .quarantined)
  | health {row : StoredSession} (hrow : store.sessions.get? key = some row) (code : CaptureHealthCode)
      (hdegraded : row.session.coverageDegraded = true) :
      RowWrite pending store key profile (withHealth key row (countHealth code row.health))
  | extend {row : StoredSession} (hrow : store.sessions.get? key = some row) (intake : CaptureIntake)
      (source : CaptureAdmissionSource) (transportFallback : Bool) (admittedAt : UtcDatetime)
      (hkey : intake.session = key) (hauthentic : CaptureKey.authenticates intake = true)
      (hnew : store.eventOf intake.connectionId intake.producerEventDigest = none)
      (hopened : row.session.state = .opened) (hroom : row.head.receiptCount < maxCaptureEventsPerSession)
      (htail : profile.isTransport = true → pending = some key ∨ source = .spoolDrain ∧ transportFallback = true) :
      RowWrite pending store key profile
        (withEvent row (newEvent intake source admittedAt row.head) transportFallback)
  | require {row : StoredSession} (hrow : store.sessions.get? key = some row) (hpending : pending = some key)
      (hprofile : profile.isTransport = true) (hopened : row.session.state = .opened)
      (hnone : row.session.transportHeadTag = none) :
      RowWrite pending store key profile (required key row)

/-- A session is written, which is neither deleted nor being deleted. -/
inductive Write (pending : Option SessionKey) (store : CaptureStore) : CaptureStore → Prop
  | mk (key : SessionKey) (row : StoredSession) (connection : CaptureConnection)
      (hconnection : store.connections.get? key.1 = some connection) (hwritable : Writable store key)
      (hwrite : RowWrite pending store key connection.profile row) : Write pending store (store.put key row)

/-- A chunk ends with its receipt, which no other receipt of the connection stands in the way of. -/
inductive Receipted (chunk : CaptureTransportChunk) (intakes : List CaptureIntake) (store : CaptureStore) :
    CaptureStore → Prop
  | mk (admittedAt : UtcDatetime) (row : StoredSession) (head : TransportHead) (connection : CaptureConnection)
      (hconnection : store.connections.get? chunk.connectionId = some connection)
      (hprofile : connection.profile.isTransport = true) (hwritable : Writable store chunk.session)
      (hrow : store.sessions.get? chunk.session = some row)
      (hhead : row.transportHead = some head) (hroom : head.receiptCount < maxCaptureTransportChunksPerSession)
      (hbatch : ∀ key other, store.sessions.get? key = some other → key.1 = chunk.connectionId →
        ∀ receipt ∈ other.receipts, receipt.batchRef = chunk.batchRef →
          key = chunk.session ∧ receipt.chunkCount = chunk.chunkCount ∧ receipt.chunkIndex ≠ chunk.chunkIndex) :
      Receipted chunk intakes store
        (store.put chunk.session (withReceipt chunk.session row (newReceipt chunk intakes admittedAt row head)))

/-- One write after the other. -/
abbrev Writes (pending : Option SessionKey) : CaptureStore → CaptureStore → Prop :=
  Relation.ReflTransGen (Write pending)

section writes

variable {pending : Option SessionKey} {s s' : CaptureStore} {key other : SessionKey} {row : StoredSession}
  {profile : CaptureProfile}

/-- No write starts a deletion. -/
theorem RowWrite.state_ne (h : RowWrite pending s key profile row) (hwritable : Writable s key) :
    row.session.state ≠ .deleting := by
  cases h with
  | create hnew hstate =>
    rcases hstate with rfl | ⟨rfl, -⟩ <;> exact fun h => by cases h
  | degrade hrow =>
    have hstate := hwritable.state _ hrow
    exact hstate
  | quarantine hrow => exact fun h => by cases h
  | health hrow code hdegraded =>
    have hstate := hwritable.state _ hrow
    exact hstate
  | extend hrow intake source transportFallback admittedAt hkey hauthentic hnew hopened hroom htail =>
    show (if _ then CaptureSessionState.closed else .opened) ≠ .deleting
    split <;> exact fun h => by cases h
  | require hrow hpending hprofile hopened hnone => exact fun h => by cases h

theorem Write.connections (h : Write pending s s') : s'.connections = s.connections := by
  cases h
  rfl

theorem Write.tombstones (h : Write pending s s') : s'.tombstones = s.tombstones := by
  cases h
  rfl

theorem Write.feedback (h : Write pending s s') : s'.feedback = s.feedback := by
  cases h
  rfl

/-- What may be written stays so. -/
theorem Write.writable (h : Write pending s s') (hother : Writable s other) : Writable s' other := by
  cases h with
  | mk key row connection hconnection hwritable hwrite =>
    refine ⟨hother.tombstone, fun before hbefore => ?_⟩
    by_cases hsame : other = key
    · subst hsame
      rw [get?_put_self] at hbefore
      cases hbefore
      exact hwrite.state_ne hwritable
    · rw [get?_put_of_ne hsame] at hbefore
      exact hother.state before hbefore

theorem Writes.connections (h : Writes pending s s') : s'.connections = s.connections := by
  induction h with
  | refl => rfl
  | tail _ hlast ih => rw [hlast.connections, ih]

theorem Writes.tombstones (h : Writes pending s s') : s'.tombstones = s.tombstones := by
  induction h with
  | refl => rfl
  | tail _ hlast ih => rw [hlast.tombstones, ih]

theorem Writes.feedback (h : Writes pending s s') : s'.feedback = s.feedback := by
  induction h with
  | refl => rfl
  | tail _ hlast ih => rw [hlast.feedback, ih]

theorem Writes.writable (h : Writes pending s s') (hother : Writable s other) : Writable s' other := by
  induction h with
  | refl => exact hother
  | tail _ hlast ih => exact hlast.writable ih

end writes

/-! ## Events of a connection -/

section events

variable {s : CaptureStore} {key : SessionKey} {row : StoredSession} {connectionId : ComponentIdentifier}
  {digest : Sha256Digest} {event : CaptureEvent}

omit [CaptureKey] [CaptureTags]

/-- A connection has no event of a digest. -/
theorem eventOf_eq_none : s.eventOf connectionId digest = none ↔ ∀ key row, s.sessions.get? key = some row →
    key.1 = connectionId → ∀ event ∈ row.events, event.intake.producerEventDigest ≠ digest := by
  unfold eventOf
  rw [List.findSome?_eq_none_iff]
  constructor
  · intro h key row hrow hconnection event hevent
    have hnone := h _ (Dict.get?_eq_some.mp hrow)
    rw [if_pos hconnection, Option.map_eq_none_iff, List.find?_eq_none] at hnone
    exact fun hdigest => hnone event hevent (decide_eq_true hdigest)
  · rintro h ⟨key, row⟩ hrow
    split
    · next hconnection =>
      rw [Option.map_eq_none_iff, List.find?_eq_none]
      intro event hevent
      exact fun hdigest => h key row (Dict.get?_eq_some.mpr hrow) hconnection event hevent (of_decide_eq_true hdigest)
    · rfl

/-- The event of a digest is one of a session of the connection. -/
theorem eventOf_eq_some (h : s.eventOf connectionId digest = some (key, event)) : ∃ row,
    s.sessions.get? key = some row ∧ key.1 = connectionId ∧ event ∈ row.events
      ∧ event.intake.producerEventDigest = digest := by
  unfold eventOf at h
  obtain ⟨⟨key', row⟩, hrow, hfound⟩ := List.exists_of_findSome?_eq_some h
  split at hfound
  · next hconnection =>
    obtain ⟨found, hfind, hpair⟩ := Option.map_eq_some_iff.mp hfound
    cases hpair
    exact ⟨row, Dict.get?_eq_some.mpr hrow, hconnection, List.mem_of_find?_eq_some hfind,
      of_decide_eq_true (List.find?_some (p := fun event : CaptureEvent =>
        decide (event.intake.producerEventDigest = digest)) hfind)⟩
  · cases hfound

/-- A session whose events are not of a digest may be written. -/
theorem eventOf_put (h : s.eventOf connectionId digest = none)
    (hevents : key.1 = connectionId → ∀ event ∈ row.events, event.intake.producerEventDigest ≠ digest) :
    (s.put key row).eventOf connectionId digest = none := by
  rw [eventOf_eq_none] at h ⊢
  intro other found hfound hconnection
  by_cases hsame : other = key
  · subst hsame
    rw [get?_put_self] at hfound
    cases hfound
    exact hevents hconnection
  · rw [get?_put_of_ne hsame] at hfound
    exact h other found hfound hconnection

end events

/-! ## Functions that write one session -/

section functions

variable {pending : Option SessionKey} {t u : CaptureTransaction} {key : SessionKey} {row : StoredSession}
  {connection : CaptureConnection} {intake : CaptureIntake} {code : CaptureHealthCode}

/-- The rows of a session that a transaction may write, with its connection. -/
structure Ready (t : CaptureTransaction) (key : SessionKey) (connection : CaptureConnection) : Prop where
  connection : t.store.connections.get? key.1 = some connection
  writable : Writable t.store key

/-- A session that may be written is written. -/
theorem Ready.write (h : Ready t key connection) (hwrite : RowWrite pending t.store key connection.profile row) :
    Write pending t.store (t.store.put key row) := .mk key row connection h.connection h.writable hwrite

theorem Ready.next (h : Ready t key connection) (hwrites : Writes pending t.store u.store) : Ready u key connection where
  connection := by rw [hwrites.connections]; exact h.connection
  writable := hwrites.writable h.writable

theorem verifyAppendCommitment_eq_ok (h : verifyAppendCommitment key row t = .ok () u) :
    u.store = t.store ∧ u.verified.get? key = some row.head := by
  unfold verifyAppendCommitment at h
  rw [raiseIf_bind_eq_ok, get_bind] at h
  obtain ⟨-, hverify⟩ := h
  split at hverify
  · next hverified =>
    obtain ⟨-, rfl⟩ := lift_eq_ok.mp hverify
    exact ⟨rfl, hverified⟩
  · obtain ⟨connection, -, hchain⟩ := connectionRow_bind_eq_ok.mp hverify
    obtain ⟨-, hput⟩ := check_bind_eq_ok.mp hchain
    cases hput
    exact ⟨rfl, Dict.get?_set_self⟩

omit [CaptureKey] in
theorem recordHealth_eq_ok (h : recordHealth key code t = .ok () u) : ∃ row, t.store.sessions.get? key = some row
    ∧ u = { t with store := t.store.put key (withHealth key row (countHealth code row.health)) } := by
  unfold recordHealth at h
  obtain ⟨row, hrow, hverify⟩ := sessionRow_bind_eq_ok.mp h
  obtain ⟨-, hput⟩ := check_bind_eq_ok.mp hverify
  obtain ⟨-, rfl⟩ := lift_eq_ok.mp (putSession_bind_eq_ok.mp hput)
  exact ⟨row, hrow, rfl⟩

theorem markTransportFallbackSession_eq_ok {updated : StoredSession}
    (h : markTransportFallbackSession key row t = .ok updated u) :
    updated = degraded row row.session.state ∧ u = { t with store := t.store.put key updated } := by
  unfold markTransportFallbackSession at h
  obtain ⟨connection, -, hguard⟩ := connectionRow_bind_eq_ok.mp h
  rw [raiseIf_bind_eq_ok] at hguard
  obtain ⟨n, -, hlast⟩ := lift_bind_eq_ok.mp (updateSession_bind_eq_ok.mp hguard.2)
  cases hlast
  exact ⟨rfl, rfl⟩

/-- A quarantined session that has a health row of a code. -/
def Quarantined (store : CaptureStore) (key : SessionKey) (code : CaptureHealthCode) : Prop :=
  ∃ row, store.sessions.get? key = some row ∧ row.session.state = .quarantined ∧ row.session.coverageDegraded = true
    ∧ ∃ health ∈ row.health, health.code = code

omit [CaptureKey] [CaptureTags] in
theorem exists_mem_countHealth (code : CaptureHealthCode) (health : List CaptureHealth) :
    ∃ row ∈ countHealth code health, row.code = code := by
  unfold countHealth
  split
  · next h =>
    obtain ⟨row, hrow, hcode⟩ := h
    refine ⟨{ row with count := row.count + 1 }, List.mem_map.mpr ⟨row, hrow, ?_⟩, hcode⟩
    rw [if_pos hcode]
  · exact ⟨⟨code, 1⟩, List.mem_append_right _ (List.mem_singleton.mpr rfl), rfl⟩

variable (pending) in
/-- A session that is quarantined counts a health code. -/
theorem recordHealth_quarantined (h : recordHealth key code t = .ok () u)
    (hrow : t.store.sessions.get? key = some row) (hstate : row.session.state = .quarantined)
    (hdegraded : row.session.coverageDegraded = true) (hready : Ready t key connection) :
    Writes pending t.store u.store ∧ Quarantined u.store key code := by
  obtain ⟨again, hagain, rfl⟩ := recordHealth_eq_ok h
  rw [hrow] at hagain
  cases hagain
  refine ⟨.single (hready.write (.health hrow code hdegraded)), _, get?_put_self, hstate, hdegraded, ?_⟩
  exact exists_mem_countHealth code row.health

variable (pending) in
/-- A session is quarantined, and a new one if there is none. -/
theorem quarantineTransportSession_writes (h : quarantineTransportSession code key t = .ok () u)
    (hconnection : t.store.connections.get? key.1 = some connection) :
    Writes pending t.store u.store ∧ Quarantined u.store key code := by
  unfold quarantineTransportSession at h
  obtain ⟨hwritable, h⟩ := appendSessionRow_bind_eq_ok.mp h
  have hready : Ready t key connection := ⟨hconnection, hwritable⟩
  -- Once the session is quarantined, what is left is its health row.
  have hrest : ∀ {v : CaptureTransaction} (row : StoredSession), v.store.sessions.get? key = some row →
      row.session.state = .quarantined → row.session.coverageDegraded = true → Writes pending t.store v.store →
      (sessionRow key >>= fun stored => (do
        verifyHealthSet key stored
        if ∃ row ∈ stored.health, row.code = code then pure () else recordHealth key code : StoreM Unit)) v = .ok () u →
      Writes pending t.store u.store ∧ Quarantined u.store key code := by
    intro v row hrow hstate hdegraded hwrites hv
    obtain ⟨again, hagain, hv⟩ := sessionRow_bind_eq_ok.mp hv
    rw [hrow] at hagain
    cases hagain
    obtain ⟨-, hlast⟩ := check_bind_eq_ok.mp hv
    split at hlast
    · next hhealth =>
      cases hlast
      exact ⟨hwrites, row, hrow, hstate, hdegraded, hhealth⟩
    · obtain ⟨hrecorded, hquarantined⟩ := recordHealth_quarantined pending hlast hrow hstate hdegraded (hready.next hwrites)
      exact ⟨hwrites.trans hrecorded, hquarantined⟩
  cases hfound : t.store.sessions.get? key with
  | none =>
    rw [hfound] at h
    obtain ⟨created, v, hcreate, hlast⟩ := bind_eq_ok.mp h
    unfold createDegradedSession at hcreate
    obtain ⟨same, hsame, hput⟩ := connectionRow_bind_eq_ok.mp hcreate
    rw [hconnection] at hsame
    cases hsame
    cases hput
    refine hrest _ get?_put_self rfl rfl (.single (hready.write ?_)) hlast
    exact .create (Dict.get?_eq_none.mp hfound) (.inr ⟨rfl, rfl⟩)
  | some row =>
    rw [hfound] at h
    obtain ⟨⟨⟩, w, hverify, hwritten⟩ := bind_eq_ok.mp h
    obtain ⟨hsame, -⟩ := verifyAppendCommitment_eq_ok hverify
    split at hwritten
    · have hlast := updateSession_bind_eq_ok.mp hwritten
      refine hrest (degraded row .quarantined) get?_put_self rfl rfl ?_ hlast
      show Writes pending t.store (w.store.put key (degraded row .quarantined))
      rw [hsame]
      exact .single (hready.write (.quarantine hfound))
    · next hdone =>
      have hstate : row.session.state = .quarantined := by
        by_contra hne
        exact hdone (.inl hne)
      have hdegraded : row.session.coverageDegraded = true := by
        cases hflag : row.session.coverageDegraded with
        | false => exact absurd (.inr hflag) hdone
        | true => rfl
      refine hrest row ?_ hstate hdegraded ?_ hwritten
      · rw [hsame]
        exact hfound
      · rw [hsame]

omit [CaptureKey] [CaptureTags] in
theorem mem_countHealth {health : List CaptureHealth} {other : CaptureHealthCode}
    (h : ∃ row ∈ health, row.code = other) : ∃ row ∈ countHealth code health, row.code = other := by
  obtain ⟨row, hrow, hother⟩ := h
  unfold countHealth
  split
  · by_cases hcode : row.code = code
    · refine ⟨{ row with count := row.count + 1 }, List.mem_map.mpr ⟨row, hrow, ?_⟩, hother⟩
      rw [if_pos hcode]
    · refine ⟨row, List.mem_map.mpr ⟨row, hrow, ?_⟩, hother⟩
      rw [if_neg hcode]
  · exact ⟨row, List.mem_append_left _ hrow, hother⟩

/-- A session stays quarantined, with its health rows. -/
theorem Write.quarantined {s s' : CaptureStore} (h : Write pending s s') (hquarantined : Quarantined s key code) :
    Quarantined s' key code := by
  cases h with
  | mk other after connection hconnection hwritable hwrite =>
    obtain ⟨row, hrow, hstate, hdegraded, hhealth⟩ := hquarantined
    by_cases hsame : key = other
    · subst hsame
      refine ⟨after, get?_put_self, ?_⟩
      cases hwrite with
      | create hnew _ => exact absurd (Dict.mem_of_get? hrow) hnew
      | degrade hbefore =>
        rw [hrow] at hbefore
        cases hbefore
        exact ⟨hstate, rfl, hhealth⟩
      | quarantine hbefore =>
        rw [hrow] at hbefore
        cases hbefore
        exact ⟨rfl, rfl, hhealth⟩
      | health hbefore other _ =>
        rw [hrow] at hbefore
        cases hbefore
        exact ⟨hstate, hdegraded, mem_countHealth hhealth⟩
      | extend hbefore _ _ _ _ _ _ _ hopened _ _ =>
        rw [hrow] at hbefore
        cases hbefore
        cases hstate.symm.trans hopened
      | require hbefore _ _ hopened _ =>
        rw [hrow] at hbefore
        cases hbefore
        cases hstate.symm.trans hopened
    · refine ⟨row, ?_, hstate, hdegraded, hhealth⟩
      rw [get?_put_of_ne hsame]
      exact hrow

theorem Writes.quarantined {s s' : CaptureStore} (h : Writes pending s s') (hquarantined : Quarantined s key code) :
    Quarantined s' key code := by
  induction h with
  | refl => exact hquarantined
  | tail _ hlast ih => exact hlast.quarantined ih

variable (pending) in
/-- A loop that quarantines sessions leaves all of them quarantined. -/
theorem forM_quarantines {f : SessionKey → StoreM Unit} {keys : List SessionKey} (h : keys.forM f t = .ok () u)
    (hround : ∀ key ∈ keys, ∀ v w, f key v = .ok () w → v.store.connections = t.store.connections →
      Writes pending v.store w.store ∧ Quarantined w.store key code) :
    Writes pending t.store u.store ∧ ∀ key ∈ keys, Quarantined u.store key code := by
  induction keys generalizing t with
  | nil =>
    cases h
    exact ⟨.refl, fun key hkey => absurd hkey List.not_mem_nil⟩
  | cons first rest ih =>
    obtain ⟨⟨⟩, m, hfirst, hrest⟩ := bind_eq_ok.mp h
    obtain ⟨hwrites, hquarantined⟩ := hround first List.mem_cons_self t m hfirst rfl
    obtain ⟨hlater, hothers⟩ := ih hrest fun key hkey v w hv hsame =>
      hround key (List.mem_cons_of_mem first hkey) v w hv (hsame.trans hwrites.connections)
    exact ⟨hwrites.trans hlater, List.forall_mem_cons.mpr ⟨hlater.quarantined hquarantined, hothers⟩⟩

/-! ### Intakes -/

/-- The receipt of an intake that was admitted as the last event of a session. -/
def admittedReceipt (intake : CaptureIntake) (row : StoredSession) (event : CaptureEvent) : CaptureAppendReceipt where
  disposition := .admitted
  connectionId := intake.connectionId
  sessionId := intake.sessionId
  producerEventDigest := intake.producerEventDigest
  receiptOrdinal := some event.receiptOrdinal
  previousEventTag := event.previousEventTag
  eventTag := some event.eventTag
  sessionState := row.session.state
  eventCount := row.session.eventCount

/-- What became of an intake, by its receipt. -/
inductive Appended (intake : CaptureIntake) (transportFallback : Bool) (store next : CaptureStore) :
    CaptureAppendReceipt → Prop
  | replayed {existing : CaptureEvent} {row : StoredSession}
      (hevent : store.eventOf intake.connectionId intake.producerEventDigest = some (intake.session, existing))
      (hintake : existing.intake = intake) (hrow : store.sessions.get? intake.session = some row) :
      Appended intake transportFallback store next
        (replayReceipt existing (if transportFallback then degraded row row.session.state else row).session)
  | collided {key : SessionKey} {existing : CaptureEvent} {eventCount : ℕ}
      (hevent : store.eventOf intake.connectionId intake.producerEventDigest = some (key, existing))
      (hintake : existing.intake ≠ intake) (hquarantined : Quarantined next intake.session .producerCollision)
      (hother : Quarantined next key .producerCollision) :
      Appended intake transportFallback store next (quarantineReceipt .quarantined intake eventCount)
  | refused {eventCount : ℕ} (hevent : store.eventOf intake.connectionId intake.producerEventDigest = none)
      (hquarantined : Quarantined next intake.session .gapDetected) :
      Appended intake transportFallback store next (quarantineReceipt .quarantined intake eventCount)
  | overflowed {eventCount : ℕ} (hevent : store.eventOf intake.connectionId intake.producerEventDigest = none)
      (hquarantined : Quarantined next intake.session .sessionOverflow) :
      Appended intake transportFallback store next (quarantineReceipt .overflow intake eventCount)
  | admitted {row : StoredSession} {event : CaptureEvent}
      (hevent : store.eventOf intake.connectionId intake.producerEventDigest = none) (hintake : event.intake = intake)
      (hrow : next.sessions.get? intake.session = some row) (hlast : row.events.getLast? = some event)
      (hhead : row.head = ⟨event.receiptOrdinal, some event.eventTag⟩)
      (hdegraded : transportFallback = true → row.session.coverageDegraded = true) :
      Appended intake transportFallback store next (admittedReceipt intake row event)

/-- An intake of an open session is its next event, or the session is full. -/
theorem extendSession_writes {source : CaptureAdmissionSource} {transportFallback : Bool} {admittedAt : UtcDatetime}
    {receipt : CaptureAppendReceipt} {before : CaptureStore}
    (h : extendSession intake source transportFallback admittedAt row t = .ok receipt u)
    (hrow : t.store.sessions.get? intake.session = some row) (hready : Ready t intake.session connection)
    (hauthentic : CaptureKey.authenticates intake = true)
    (hnew : t.store.eventOf intake.connectionId intake.producerEventDigest = none)
    (hbefore : before.eventOf intake.connectionId intake.producerEventDigest = none)
    (hopened : row.session.state = .opened)
    (htail : connection.profile.isTransport = true →
      pending = some intake.session ∨ source = .spoolDrain ∧ transportFallback = true) :
    Writes pending t.store u.store ∧ Appended intake transportFallback before u.store receipt := by
  unfold extendSession at h
  obtain ⟨⟨⟩, m, hverify, h⟩ := bind_eq_ok.mp h
  obtain ⟨hsame, -⟩ := verifyAppendCommitment_eq_ok hverify
  obtain ⟨stored, v, hmark, h⟩ := bind_eq_ok.mp h
  -- The session is as it was, but that a fallback has cost it its coverage.
  have hmarked : Writes pending t.store v.store ∧ v.store.sessions.get? intake.session = some stored
      ∧ v.store.eventOf intake.connectionId intake.producerEventDigest = none
      ∧ stored.session.state = row.session.state
      ∧ (transportFallback = true → stored.session.coverageDegraded = true) := by
    split at hmark
    · obtain ⟨rfl, rfl⟩ := markTransportFallbackSession_eq_ok hmark
      refine ⟨?_, get?_put_self, ?_, rfl, fun _ => rfl⟩
      · show Writes pending t.store (m.store.put intake.session _)
        rw [hsame]
        exact .single (hready.write (.degrade hrow))
      · rw [← hsame] at hnew hrow
        exact eventOf_put hnew fun hkey event hevent => eventOf_eq_none.mp hnew _ row hrow hkey event hevent
    · next hnot =>
      cases hmark
      rw [hsame]
      exact ⟨.refl, hrow, hnew, rfl, fun hfallback => absurd hfallback hnot⟩
  obtain ⟨hwrites, hstored, hnewer, hstate, -⟩ := hmarked
  have hnext := hready.next hwrites
  split at h
  · obtain ⟨⟨⟩, w, hrecord, hreceipt⟩ := bind_eq_ok.mp (updateSession_bind_eq_ok.mp h)
    cases hreceipt
    have hquarantine : Write pending v.store (v.store.put intake.session (degraded stored .quarantined)) :=
      hnext.write (.quarantine hstored)
    obtain ⟨hrecorded, hquarantined⟩ := recordHealth_quarantined pending hrecord get?_put_self rfl rfl
      (hnext.next (.single hquarantine))
    exact ⟨(hwrites.tail hquarantine).trans hrecorded, .overflowed hbefore hquarantined⟩
  · next hroom =>
    have hput := putSession_bind_eq_ok.mp h
    cases hput
    refine ⟨hwrites.tail (hnext.write (.extend hstored intake source transportFallback admittedAt rfl hauthentic hnewer
      (hstate.trans hopened) (Nat.lt_of_not_le hroom) htail)), ?_⟩
    exact .admitted hbefore rfl get?_put_self List.getLast?_concat rfl fun hfallback =>
      Bool.or_eq_true_iff.mpr (.inr hfallback)

/-- The session of an intake whose digest is that of an event is quarantined. -/
theorem quarantineCollision_writes {transportFallback : Bool} {existingKey : SessionKey}
    (h : quarantineCollision intake transportFallback existingKey key t = .ok () u)
    (hconnection : t.store.connections.get? key.1 = some connection)
    (hprofile : connection.profile = intake.adapterProfile) :
    Writes pending t.store u.store ∧ Quarantined u.store key .producerCollision := by
  unfold quarantineCollision at h
  obtain ⟨hwritable, h⟩ := appendSessionRow_bind_eq_ok.mp h
  have hready : Ready t key connection := ⟨hconnection, hwritable⟩
  have hrest : ∀ {v : CaptureTransaction} (row : StoredSession), v.store.sessions.get? key = some row →
      Writes pending t.store v.store →
      (updateSession key row .quarantined row.session.eventCount true >>= fun _ =>
        recordHealth key .producerCollision) v = .ok () u →
      Writes pending t.store u.store ∧ Quarantined u.store key .producerCollision := by
    intro v row hrow hwrites hv
    have hrecord := updateSession_bind_eq_ok.mp hv
    have hquarantine : Write pending v.store (v.store.put key (degraded row .quarantined)) :=
      (hready.next hwrites).write (.quarantine hrow)
    obtain ⟨hrecorded, hquarantined⟩ := recordHealth_quarantined pending hrecord get?_put_self rfl rfl
      (hready.next (hwrites.tail hquarantine))
    exact ⟨(hwrites.tail hquarantine).trans hrecorded, hquarantined⟩
  cases hfound : t.store.sessions.get? key with
  | none =>
    rw [hfound] at h
    obtain ⟨hkey, h⟩ := raiseIf_bind_eq_ok.mp h
    have hkey : key = intake.session := by
      by_contra hne
      exact hkey hne
    subst hkey
    obtain ⟨created, v, hcreate, hlast⟩ := bind_eq_ok.mp h
    cases hcreate
    refine hrest _ get?_put_self (.single (hready.write ?_)) hlast
    rw [← hprofile]
    exact .create (Dict.get?_eq_none.mp hfound) (.inl rfl)
  | some row =>
    rw [hfound] at h
    dsimp only at h
    split at h
    · obtain ⟨⟨⟩, v, hverify, hlast⟩ := bind_eq_ok.mp h
      obtain ⟨hsame, -⟩ := verifyAppendCommitment_eq_ok hverify
      refine hrest row ?_ ?_ hlast
      · rw [hsame]
        exact hfound
      · rw [hsame]
    · exact hrest row hfound .refl h

/-- An intake whose digest is that of an event is replayed, or quarantines the sessions of both. -/
theorem appendKnown_writes {source : CaptureAdmissionSource} {transportBound transportFallback : Bool}
    {existing : CaptureEvent} {receipt : CaptureAppendReceipt}
    (h : appendKnown intake connection source transportBound transportFallback key existing t = .ok receipt u)
    (hevent : t.store.eventOf intake.connectionId intake.producerEventDigest = some (key, existing))
    (hconnection : t.store.connections.get? intake.connectionId = some connection)
    (hprofile : connection.profile = intake.adapterProfile) :
    Writes pending t.store u.store ∧ Appended intake transportFallback t.store u.store receipt := by
  obtain ⟨row, hrow, hkey, -, -⟩ := eventOf_eq_some hevent
  unfold appendKnown at h
  obtain ⟨hload, h⟩ := check_bind_eq_ok.mp h
  unfold loadVerifiedEvent at hload
  rw [Checked.raiseIf_eq_ok, not_or, not_or, not_not] at hload
  obtain ⟨-, hsession, -⟩ := hload
  obtain ⟨hwritable, h⟩ := appendSessionRow_bind_eq_ok.mp h
  rw [expect_bind_eq_ok] at h
  obtain ⟨found, hfound, h⟩ := h
  rw [hrow] at hfound
  cases hfound
  obtain ⟨-, h⟩ := check_bind_eq_ok.mp h
  have hready : Ready t key connection := ⟨hkey ▸ hconnection, hwritable⟩
  split at h
  · next hintake =>
    have hsame : key = intake.session := by rw [← hsession, hintake]
    subst hsame
    obtain ⟨stored, v, hmark, hreceipt⟩ := bind_eq_ok.mp h
    cases hreceipt
    split at hmark
    · next hfallback =>
      obtain ⟨rfl, rfl⟩ := markTransportFallbackSession_eq_ok hmark
      refine ⟨.single (hready.write (.degrade hrow)), ?_⟩
      have hreplayed : Appended intake transportFallback t.store (t.store.put intake.session
        (degraded row row.session.state)) _ := .replayed hevent hintake hrow
      rw [if_pos hfallback] at hreplayed
      exact hreplayed
    · next hnot =>
      cases hmark
      have hreplayed : Appended intake transportFallback t.store t.store _ := .replayed hevent hintake hrow
      rw [if_neg hnot] at hreplayed
      exact ⟨.refl, hreplayed⟩
  · next hintake =>
    rw [raiseIf_bind_eq_ok] at h
    obtain ⟨⟨⟩, v, hloop, hreceipt⟩ := bind_eq_ok.mp h.2
    obtain ⟨incoming, hincoming, hreceipt⟩ := sessionRow_bind_eq_ok.mp hreceipt
    cases hreceipt
    obtain ⟨hwrites, hquarantined⟩ := forM_quarantines pending hloop fun other hother v w hround hsame => by
      have hsession : v.store.connections.get? other.1 = some connection := by
        rw [hsame]
        simp only [List.mem_dedup, List.mem_cons, List.not_mem_nil, or_false] at hother
        rcases hother with rfl | rfl
        · exact hconnection
        · rw [hkey]
          exact hconnection
      exact quarantineCollision_writes hround hsession hprofile
    exact ⟨hwrites, .collided hevent hintake (hquarantined _ (by simp)) (hquarantined _ (by simp))⟩

/-- An intake whose digest is new is admitted, or refused to a session that is closed or full. -/
theorem appendNew_writes {source : CaptureAdmissionSource} {transportFallback : Bool} {admittedAt : UtcDatetime}
    {receipt : CaptureAppendReceipt}
    (h : appendNew intake connection source transportFallback admittedAt (t.store.sessions.get? intake.session) t
      = .ok receipt u)
    (hevent : t.store.eventOf intake.connectionId intake.producerEventDigest = none)
    (hready : Ready t intake.session connection) (hprofile : connection.profile = intake.adapterProfile)
    (hauthentic : CaptureKey.authenticates intake = true)
    (htail : connection.profile.isTransport = true →
      pending = some intake.session ∨ source = .spoolDrain ∧ transportFallback = true) :
    Writes pending t.store u.store ∧ Appended intake transportFallback t.store u.store receipt := by
  unfold appendNew at h
  rw [raiseIf_bind_eq_ok] at h
  obtain ⟨-, h⟩ := h
  cases hfound : t.store.sessions.get? intake.session with
  | none =>
    rw [hfound] at h
    obtain ⟨-, h⟩ := raiseIf_bind_eq_ok.mp h
    obtain ⟨created, v, hcreate, hextend⟩ := bind_eq_ok.mp h
    cases hcreate
    have hcreated : Write pending t.store (t.store.put intake.session (newSession intake.session intake.adapterProfile
        .opened (transportFallback || intake.captureDisposition ≠ .captured))) := by
      rw [← hprofile]
      exact hready.write (.create (Dict.get?_eq_none.mp hfound) (.inl rfl))
    obtain ⟨hwrites, happended⟩ := extendSession_writes hextend get?_put_self
      (hready.next (.single hcreated)) hauthentic (eventOf_put hevent fun _ event he => absurd he List.not_mem_nil)
      hevent rfl htail
    exact ⟨.head hcreated hwrites, happended⟩
  | some row =>
    rw [hfound] at h
    dsimp only at h
    split at h
    · obtain ⟨⟨⟩, v, hquarantine, hreceipt⟩ := bind_eq_ok.mp h
      obtain ⟨stored, hstored, hreceipt⟩ := sessionRow_bind_eq_ok.mp hreceipt
      cases hreceipt
      obtain ⟨hwrites, hquarantined⟩ := quarantineTransportSession_writes pending hquarantine
        hready.connection
      exact ⟨hwrites, .refused hevent hquarantined⟩
    · rw [raiseIf_bind_eq_ok] at h
      obtain ⟨hopen, hextend⟩ := h
      have hopened : row.session.state = .opened := by
        by_contra hne
        exact hopen (.inl hne)
      exact extendSession_writes hextend hfound hready hauthentic hevent hevent hopened htail

variable (pending) in
/-- What an append that returned has written, and what became of its intake. -/
theorem appendAuthenticated_writes {source : CaptureAdmissionSource} {transportBound : Bool} {admittedAt : UtcDatetime}
    {receipt : CaptureAppendReceipt}
    (h : appendAuthenticated intake source transportBound admittedAt t = .ok receipt u)
    (hauthentic : CaptureKey.authenticates intake = true)
    (hpending : transportBound = true → pending = some intake.session) :
    ∃ connection, t.store.connections.get? intake.connectionId = some connection
      ∧ connection.profile = intake.adapterProfile ∧ Writes pending t.store u.store
      ∧ Appended intake (connection.profile.isTransport && source = .spoolDrain && !transportBound) t.store u.store
        receipt := by
  unfold appendAuthenticated at h
  obtain ⟨connection, hconnection, h⟩ := connectionRow_bind_eq_ok.mp h
  rw [raiseIf_bind_eq_ok, raiseIf_bind_eq_ok, raiseIf_bind_eq_ok] at h
  obtain ⟨hsame, -, hdirect, h⟩ := h
  have hprofile : connection.profile = intake.adapterProfile := by
    by_contra hne
    exact hsame (.inl hne)
  obtain ⟨hwritable, h⟩ := appendSessionRow_bind_eq_ok.mp h
  rw [get_bind] at h
  refine ⟨connection, hconnection, hprofile, ?_⟩
  cases hevent : t.store.eventOf intake.connectionId intake.producerEventDigest with
  | some found =>
    obtain ⟨key, existing⟩ := found
    rw [hevent] at h
    exact appendKnown_writes h hevent hconnection hprofile
  | none =>
    rw [hevent] at h
    refine appendNew_writes h hevent ⟨hconnection, hwritable⟩ hprofile hauthentic fun htransport => ?_
    cases hbound : transportBound with
    | true => exact .inl (hpending hbound)
    | false =>
      have hsource : source = .spoolDrain := by
        cases source with
        | spoolDrain => rfl
        | direct => exact absurd ⟨htransport, rfl, hbound⟩ hdirect
      exact .inr ⟨hsource, by simp [htransport, hsource]⟩

end functions

end CaptureStore

end SalienceGate
