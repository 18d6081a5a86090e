import SalienceGate.Capture.StoreSound
import SalienceGate.Capture.StoreCoverage

/-!
# The invariant of the capture store

In every state of a store that was created empty all sessions are sound, no two events of a connection have one digest,
and the receipts of a batch are those of one session. A session that was deleted is not there, and neither is feedback
without a session.
-/

namespace SalienceGate

open Checked Stateful

variable [CaptureKey] [CaptureTags]

namespace CaptureStore

/-- The rows of a store between transactions, or while a chunk of a session is pending. -/
structure Sound (pending : Option SessionKey) (store : CaptureStore) : Prop where
  rows : ∀ key row, store.sessions.get? key = some row → ∃ connection, store.connections.get? key.1 = some connection
    ∧ RowSound (decide (pending = some key)) connection.profile key row
  digests : ∀ key row, store.sessions.get? key = some row →
    (row.events.map fun event => event.intake.producerEventDigest).Nodup
  apart : ∀ key row other before, store.sessions.get? key = some row → store.sessions.get? other = some before →
    key.1 = other.1 → ∀ event ∈ row.events, ∀ earlier ∈ before.events,
      event.intake.producerEventDigest = earlier.intake.producerEventDigest → key = other
  batches : ∀ key row other before, store.sessions.get? key = some row → store.sessions.get? other = some before →
    key.1 = other.1 → ∀ receipt ∈ row.receipts, ∀ earlier ∈ before.receipts,
      receipt.batchRef = earlier.batchRef → key = other

variable {pending : Option SessionKey} {store next : CaptureStore} {key other : SessionKey} {row : StoredSession}
  {profile : CaptureProfile}

/-! ## Writes -/

theorem RowSound.pend {flag : Bool} (h : RowSound false profile key row) : RowSound flag profile key row where
  chain := h.chain
  headCount := h.headCount
  eventCount := h.eventCount
  room := h.room
  opened := h.opened
  closed := h.closed
  markers := h.markers
  healthSet := h.healthSet
  unhealthy := h.unhealthy
  transport tag htag := by
    obtain ⟨hprofile, head, covered, hsound⟩ := h.transport tag htag
    exact ⟨hprofile, head, covered, hsound.stored, hsound.tagged, hsound.receipts, hsound.count, fun _ => hsound.tail rfl⟩
  direct := h.direct

/-- A chunk may begin. -/
theorem Sound.pend (h : Sound none store) : Sound pending store where
  rows key row hrow := by
    obtain ⟨connection, hconnection, hsound⟩ := h.rows key row hrow
    exact ⟨connection, hconnection, (show RowSound false _ _ _ from hsound).pend⟩
  digests := h.digests
  apart := h.apart
  batches := h.batches

/-- The rows that a write leaves are sound. -/
theorem RowWrite.sound {connection : CaptureConnection} (hwrite : RowWrite pending store key connection.profile row)
    (hconnection : store.connections.get? key.1 = some connection) (h : Sound pending store) :
    RowSound (decide (pending = some key)) connection.profile key row := by
  have hsound : ∀ {before : StoredSession}, store.sessions.get? key = some before →
      RowSound (decide (pending = some key)) connection.profile key before := by
    intro before hbefore
    obtain ⟨same, hsame, hsound⟩ := h.rows key before hbefore
    cases hconnection.symm.trans hsame
    exact hsound
  cases hwrite with
  | create hnew hstate =>
    refine rowSound_newSession ?_
    rcases hstate with rfl | ⟨rfl, -⟩ <;> exact fun h => by cases h
  | degrade hbefore => exact (hsound hbefore).degraded (.inl rfl)
  | quarantine hbefore => exact (hsound hbefore).degraded (.inr rfl)
  | health hbefore code hdegraded => exact (hsound hbefore).withHealth hdegraded _
  | extend hbefore intake source transportFallback admittedAt hkey hauthentic hnew hopened hroom htail =>
    refine (hsound hbefore).withEvent hkey hauthentic hopened hroom fun hprofile => ?_
    rcases htail hprofile with hpending | hspool
    · exact .inl (decide_eq_true hpending)
    · exact .inr hspool
  | require hbefore hpending hprofile hopened hnone =>
    have hflag : decide (pending = some key) = true := decide_eq_true hpending
    have hbeforehand := hsound hbefore
    rw [hflag] at hbeforehand ⊢
    exact hbeforehand.required hopened hprofile hnone

/-- The events that a write leaves are those before it, and perhaps one with a new digest. -/
theorem RowWrite.events (hwrite : RowWrite pending store key profile row) :
    (∃ before, store.sessions.get? key = some before ∧ row.events = before.events) ∨ row.events = []
      ∨ ∃ before event, store.sessions.get? key = some before ∧ row.events = before.events ++ [event]
        ∧ store.eventOf key.1 event.intake.producerEventDigest = none := by
  cases hwrite with
  | create _ _ => exact .inr (.inl rfl)
  | degrade hbefore => exact .inl ⟨_, hbefore, rfl⟩
  | quarantine hbefore => exact .inl ⟨_, hbefore, rfl⟩
  | health hbefore _ _ => exact .inl ⟨_, hbefore, rfl⟩
  | extend hbefore intake _ _ _ hkey _ hnew _ _ _ =>
    subst hkey
    exact .inr (.inr ⟨_, _, hbefore, rfl, hnew⟩)
  | require hbefore _ _ _ _ => exact .inl ⟨_, hbefore, rfl⟩

/-- Every event of a session that was written was there before, or its digest was not. -/
theorem RowWrite.mem_events (hwrite : RowWrite pending store key profile row) {event : CaptureEvent}
    (hevent : event ∈ row.events) : (∃ before, store.sessions.get? key = some before ∧ event ∈ before.events)
      ∨ store.eventOf key.1 event.intake.producerEventDigest = none := by
  rcases hwrite.events with ⟨before, hbefore, hsame⟩ | hnil | ⟨before, last, hbefore, hsame, hnew⟩
  · exact .inl ⟨before, hbefore, hsame ▸ hevent⟩
  · rw [hnil] at hevent
    exact absurd hevent List.not_mem_nil
  · rw [hsame] at hevent
    rcases List.mem_append.mp hevent with hold | hlast
    · exact .inl ⟨before, hbefore, hold⟩
    · rw [List.mem_singleton.mp hlast]
      exact .inr hnew

theorem Sound.write (h : Sound pending store) (hwrite : Write pending store next) : Sound pending next := by
  have hreceipts := fun key row (hrow : next.sessions.get? key = some row) => hwrite.receipts hrow
  cases hwrite with
  | mk key row connection hconnection hwritable hwritten =>
    -- Every event was there before, or its digest was not.
    have hevents : ∀ other after, (store.put key row).sessions.get? other = some after → ∀ event ∈ after.events,
        (∃ before, store.sessions.get? other = some before ∧ event ∈ before.events)
          ∨ other = key ∧ store.eventOf key.1 event.intake.producerEventDigest = none := by
      intro other after hafter event hevent
      by_cases hsame : other = key
      · subst hsame
        rw [get?_put_self] at hafter
        cases hafter
        rcases hwritten.mem_events hevent with hold | hnew
        · exact .inl hold
        · exact .inr ⟨rfl, hnew⟩
      · rw [get?_put_of_ne hsame] at hafter
        exact .inl ⟨after, hafter, hevent⟩
    refine ⟨fun other after hafter => ?_, fun other after hafter => ?_, ?_, ?_⟩
    · by_cases hsame : other = key
      · subst hsame
        rw [get?_put_self] at hafter
        cases hafter
        exact ⟨connection, hconnection, hwritten.sound hconnection h⟩
      · rw [get?_put_of_ne hsame] at hafter
        exact h.rows other after hafter
    · by_cases hsame : other = key
      · subst hsame
        rw [get?_put_self] at hafter
        cases hafter
        rcases hwritten.events with ⟨before, hbefore, hequal⟩ | hnil | ⟨before, last, hbefore, hequal, hnew⟩
        · rw [hequal]
          exact h.digests other before hbefore
        · rw [hnil]
          exact List.nodup_nil
        · rw [hequal, List.map_append, List.nodup_append]
          refine ⟨h.digests other before hbefore, List.nodup_singleton _, ?_⟩
          intro digest hdigest again hagain hclash
          obtain ⟨event, hevent, rfl⟩ := List.mem_map.mp hdigest
          rw [List.map_singleton, List.mem_singleton] at hagain
          exact eventOf_eq_none.mp hnew other before hbefore rfl event hevent (hclash.trans hagain)
      · rw [get?_put_of_ne hsame] at hafter
        exact h.digests other after hafter
    · intro one row' two before' hone htwo hconnection' event hevent earlier hearlier hdigest
      rcases hevents one row' hone event hevent with ⟨before, hbefore, hmem⟩ | ⟨rfl, hnew⟩
      · rcases hevents two before' htwo earlier hearlier with ⟨before', hbefore', hmem'⟩ | ⟨rfl, hnew⟩
        · exact h.apart one before two before' hbefore hbefore' hconnection' event hmem earlier hmem' hdigest
        · exact absurd hdigest (eventOf_eq_none.mp hnew one before hbefore hconnection' event hmem)
      · rcases hevents two before' htwo earlier hearlier with ⟨before', hbefore', hmem'⟩ | ⟨rfl, -⟩
        · exact absurd hdigest.symm (eventOf_eq_none.mp hnew two before' hbefore' hconnection'.symm earlier hmem')
        · rfl
    · intro one row' two before' hone htwo hconnection' receipt hreceipt earlier hearlier hbatch
      obtain ⟨before, hbefore, hmem⟩ := hreceipts one row' hone receipt hreceipt
      obtain ⟨before', hbefore', hmem'⟩ := hreceipts two before' htwo earlier hearlier
      exact h.batches one before two before' hbefore hbefore' hconnection' receipt hmem earlier hmem' hbatch

theorem Sound.writes (h : Sound pending store) (hwrites : Writes pending store next) : Sound pending next := by
  induction hwrites with
  | refl => exact h
  | tail _ hlast ih => exact ih.write hlast

/-- The receipt of a chunk ends it. -/
theorem Sound.receipted {chunk : CaptureTransportChunk} {intakes : List CaptureIntake}
    (h : Sound (some chunk.session) store) (hreceipted : Receipted chunk intakes store next) : Sound none next := by
  cases hreceipted with
  | mk admittedAt row head connection hconnection hprofile hwritable hrow hhead hroom hbatch =>
    have hevents : ∀ other after, (store.put chunk.session (withReceipt chunk.session row
        (newReceipt chunk intakes admittedAt row head))).sessions.get? other = some after →
        ∃ before, store.sessions.get? other = some before ∧ after.events = before.events
          ∧ ∀ receipt ∈ after.receipts, receipt ∈ before.receipts
            ∨ other = chunk.session ∧ receipt.batchRef = chunk.batchRef := by
      intro other after hafter
      by_cases hsame : other = chunk.session
      · subst hsame
        rw [get?_put_self] at hafter
        cases hafter
        refine ⟨row, hrow, rfl, fun receipt hreceipt => ?_⟩
        rcases List.mem_append.mp hreceipt with hold | hnew
        · exact .inl hold
        · rw [List.mem_singleton.mp hnew]
          exact .inr ⟨rfl, rfl⟩
      · rw [get?_put_of_ne hsame] at hafter
        exact ⟨after, hafter, rfl, fun receipt hreceipt => .inl hreceipt⟩
    refine ⟨fun other after hafter => ?_, fun other after hafter => ?_, ?_, ?_⟩
    · by_cases hsame : other = chunk.session
      · subst hsame
        rw [get?_put_self] at hafter
        cases hafter
        obtain ⟨same, hsame, hsound⟩ := h.rows chunk.session row hrow
        cases hconnection.symm.trans hsame
        refine ⟨connection, hconnection, ?_⟩
        exact hsound.withReceipt hprofile hhead fun receipt hreceipt hbatched =>
          (hbatch chunk.session row hrow rfl receipt hreceipt hbatched).2
      · rw [get?_put_of_ne hsame] at hafter
        obtain ⟨found, hfound, hsound⟩ := h.rows other after hafter
        refine ⟨found, hfound, ?_⟩
        rwa [decide_eq_false fun hpending => hsame (Option.some_inj.mp hpending).symm] at hsound
    · obtain ⟨before, hbefore, hsame, -⟩ := hevents other after hafter
      rw [hsame]
      exact h.digests other before hbefore
    · intro one row' two before' hone htwo hsame event hevent earlier hearlier hdigest
      obtain ⟨before, hbefore, hequal, -⟩ := hevents one row' hone
      obtain ⟨before', hbefore', hequal', -⟩ := hevents two before' htwo
      rw [hequal] at hevent
      rw [hequal'] at hearlier
      exact h.apart one before two before' hbefore hbefore' hsame event hevent earlier hearlier hdigest
    · intro one row' two before' hone htwo hsame receipt hreceipt earlier hearlier hbatched
      obtain ⟨before, hbefore, -, hold⟩ := hevents one row' hone
      obtain ⟨before', hbefore', -, hold'⟩ := hevents two before' htwo
      rcases hold receipt hreceipt with hmem | ⟨rfl, hnew⟩
      · rcases hold' earlier hearlier with hmem' | ⟨rfl, hnew'⟩
        · exact h.batches one before two before' hbefore hbefore' hsame receipt hmem earlier hmem' hbatched
        · exact (hbatch one before hbefore hsame receipt hmem (hbatched.trans hnew')).1
      · rcases hold' earlier hearlier with hmem' | ⟨rfl, hnew'⟩
        · exact (hbatch two before' hbefore' hsame.symm earlier hmem' (hbatched.symm.trans hnew)).1.symm
        · rfl

/-! ## Sessions of bridges -/

/-- The sessions of bridges have their transport heads: none is from before there were receipts. -/
def Modern (store : CaptureStore) : Prop :=
  ∀ key row connection, store.sessions.get? key = some row → store.connections.get? key.1 = some connection →
    connection.profile.isTransport = true → row.session.transportHeadTag ≠ none

theorem Modern.write (h : Modern store) (hwrite : Write pending store next) : Modern next := by
  cases hwrite with
  | mk key row connection hconnection hwritable hwritten =>
    intro other after found hafter hfound hprofile
    by_cases hsame : other = key
    · subst hsame
      rw [get?_put_self] at hafter
      cases hafter
      have hbefore : ∀ before, store.sessions.get? other = some before → before.session.transportHeadTag ≠ none :=
        fun before hbefore => h other before found hbefore hfound hprofile
      cases hwritten with
      | create hnew hstate =>
        cases hconnection.symm.trans hfound
        show (newTransportHead connection.profile).map _ ≠ none
        unfold newTransportHead
        rw [if_pos hprofile]
        exact Option.some_ne_none _
      | degrade hrow =>
        have hkept := hbefore _ hrow
        exact hkept
      | quarantine hrow =>
        have hkept := hbefore _ hrow
        exact hkept
      | health hrow _ _ =>
        have hkept := hbefore _ hrow
        exact hkept
      | extend hrow _ _ _ _ _ _ _ _ _ _ =>
        have hkept := hbefore _ hrow
        exact hkept
      | require hrow _ _ _ _ => exact Option.some_ne_none _
    · rw [get?_put_of_ne hsame] at hafter
      exact h other after found hafter hfound hprofile

theorem Modern.writes (h : Modern store) (hwrites : Writes pending store next) : Modern next := by
  induction hwrites with
  | refl => exact h
  | tail _ hlast ih => exact ih.write hlast

omit [CaptureKey] in
theorem Modern.receipted {chunk : CaptureTransportChunk} {intakes : List CaptureIntake} (h : Modern store)
    (hreceipted : Receipted chunk intakes store next) : Modern next := by
  cases hreceipted with
  | mk admittedAt row head connection hconnection hprofile hwritable hrow hhead hroom hbatch =>
    intro other after found hafter hfound hprofile'
    by_cases hsame : other = chunk.session
    · subst hsame
      rw [get?_put_self] at hafter
      cases hafter
      exact Option.some_ne_none _
    · rw [get?_put_of_ne hsame] at hafter
      exact h other after found hafter hfound hprofile'

/-! ## Steps -/

/-- What holds in every state of a store that was created empty. -/
structure Invariant (store : CaptureStore) : Prop where
  sound : Sound none store
  modern : Modern store
  buried : ∀ key ∈ store.tombstones, key ∉ store.sessions
  graves : ∀ key ∈ store.tombstones, key.1 ∈ store.connections
  labelled : ∀ key ∈ store.feedback, key ∈ store.sessions
  histories : ∀ key, ∃ revisions, History key (store.feedbackOf key) revisions

theorem invariant_empty : Invariant CaptureStore.empty where
  sound := by
    refine ⟨fun key row hrow => ?_, fun key row hrow => ?_, fun key row other before hrow => ?_,
      fun key row other before hrow => ?_⟩ <;> cases hrow
  modern key row connection hrow := by cases hrow
  buried key hkey := absurd hkey List.not_mem_nil
  graves key hkey := absurd hkey List.not_mem_nil
  labelled key hkey := absurd hkey (Dict.notMem_empty key)
  histories key := ⟨[], .empty⟩

/-- The sessions that writes leave are those before them, and new ones that may be written. -/
theorem Writes.mem_sessions (h : Writes pending store next) (hkey : key ∈ next.sessions) :
    key ∈ store.sessions ∨ key ∉ store.tombstones := by
  induction h with
  | refl => exact .inl hkey
  | @tail middle last hwrites hlast ih =>
    cases hlast with
    | mk other row connection hconnection hwritable hwritten =>
      rcases Dict.mem_set.mp hkey with rfl | hold
      · have htombstones := hwritable.tombstone
        rw [Writes.tombstones hwrites] at htombstones
        exact .inr htombstones
      · exact ih hold

/-- What writes leave of the rest of the store. -/
theorem Invariant.writes (h : Invariant store) (hwrites : Writes pending store next) (hsound : Sound none next)
    (hmodern : Modern next) : Invariant next where
  sound := hsound
  modern := hmodern
  buried key hkey hmem := by
    rw [hwrites.tombstones] at hkey
    rcases hwrites.mem_sessions hmem with hold | hnew
    · exact h.buried key hkey hold
    · exact hnew hkey
  graves key hkey := by
    rw [hwrites.tombstones] at hkey
    rw [hwrites.connections]
    exact h.graves key hkey
  labelled key hkey := by
    rw [hwrites.feedback] at hkey
    obtain ⟨row, hrow⟩ := Dict.mem_iff.mp (h.labelled key hkey)
    obtain ⟨later, hlater, -⟩ := hwrites.later hrow
    exact Dict.mem_of_get? hlater
  histories key := by
    unfold feedbackOf
    rw [hwrites.feedback]
    exact h.histories key

/-- A store with some of the sessions, whose connections keep their profiles. -/
structure Restricts (store next : CaptureStore) : Prop where
  sessions : ∀ key row, next.sessions.get? key = some row → store.sessions.get? key = some row
  connections : ∀ key ∈ next.sessions, ∀ connection, store.connections.get? key.1 = some connection →
    ∃ after, next.connections.get? key.1 = some after ∧ after.profile = connection.profile

theorem Sound.restrict (h : Sound pending store) (hrestricts : Restricts store next) : Sound pending next where
  rows key row hrow := by
    obtain ⟨connection, hconnection, hsound⟩ := h.rows key row (hrestricts.sessions key row hrow)
    obtain ⟨after, hafter, hprofile⟩ := hrestricts.connections key (Dict.mem_of_get? hrow) connection hconnection
    exact ⟨after, hafter, hprofile ▸ hsound⟩
  digests key row hrow := h.digests key row (hrestricts.sessions key row hrow)
  apart key row other before hrow hbefore :=
    h.apart key row other before (hrestricts.sessions key row hrow) (hrestricts.sessions other before hbefore)
  batches key row other before hrow hbefore :=
    h.batches key row other before (hrestricts.sessions key row hrow) (hrestricts.sessions other before hbefore)

theorem Modern.restrict (h : Modern store) (hsound : Sound none store) (hrestricts : Restricts store next) :
    Modern next := by
  intro key row connection hrow hconnection hprofile
  have hbefore := hrestricts.sessions key row hrow
  obtain ⟨found, hfound, -⟩ := hsound.rows key row hbefore
  obtain ⟨after, hafter, hsame⟩ := hrestricts.connections key (Dict.mem_of_get? hrow) found hfound
  cases hconnection.symm.trans hafter
  exact h key row found hbefore hfound (hsame ▸ hprofile)

/-- A chunk keeps the invariant. -/
theorem Invariant.chunk {chunk : CaptureTransportChunk} {intakes : List CaptureIntake} (h : Invariant store)
    (hwrites : ChunkWrites chunk intakes store next) : Invariant next := by
  cases hwrites with
  | refused hwrites => exact h.writes hwrites (h.sound.writes hwrites) (h.modern.writes hwrites)
  | @receipted last hwrites hreceipted =>
    have hpending : Sound (some chunk.session) store := h.sound.pend
    have hlast := hpending.writes hwrites
    have hmodern := h.modern.writes hwrites
    obtain ⟨hconnections, htombstones, hfeedback, hkeys⟩ := hreceipted.frame
    refine ⟨hlast.receipted hreceipted, hmodern.receipted hreceipted, fun key hkey hmem => ?_, fun key hkey => ?_,
      fun key hkey => ?_, fun key => ?_⟩
    · rw [htombstones, hwrites.tombstones] at hkey
      rcases hwrites.mem_sessions ((hkeys key).mp hmem) with hold | hnew
      · exact h.buried key hkey hold
      · exact hnew hkey
    · rw [htombstones, hwrites.tombstones] at hkey
      rw [hconnections, hwrites.connections]
      exact h.graves key hkey
    · rw [hfeedback, hwrites.feedback] at hkey
      obtain ⟨row, hrow⟩ := Dict.mem_iff.mp (h.labelled key hkey)
      obtain ⟨later, hlater, -⟩ := hwrites.later hrow
      exact (hkeys key).mpr (Dict.mem_of_get? hlater)
    · unfold feedbackOf
      rw [hfeedback, hwrites.feedback]
      exact h.histories key
  | upgraded hconnection hprofile hrow hnone hwrites =>
    exact absurd hnone (h.modern chunk.session _ _ hrow hconnection hprofile)

/-- Feedback keeps the invariant. -/
theorem Invariant.recorded (h : Invariant store) (hrow : store.sessions.get? key = some row)
    (honly : FeedbackOnly key store next)
    (hhistory : ∀ revisions, History key (store.feedbackOf key) revisions →
      ∃ later, History key (next.feedbackOf key) later) : Invariant next := by
  have hrestricts : Restricts store next := by
    refine ⟨fun other before hbefore => honly.sessions ▸ hbefore, fun other _ connection hconnection => ?_⟩
    exact ⟨connection, honly.connections ▸ hconnection, rfl⟩
  refine ⟨h.sound.restrict hrestricts, h.modern.restrict h.sound hrestricts, ?_, ?_, fun other hother => ?_, fun other => ?_⟩
  · rw [honly.sessions, honly.tombstones]
    exact h.buried
  · rw [honly.connections, honly.tombstones]
    exact h.graves
  · rw [honly.sessions]
    by_cases hsame : other = key
    · exact hsame ▸ Dict.mem_of_get? hrow
    · obtain ⟨rows, hrows⟩ := Dict.mem_iff.mp hother
      rw [honly.others other hsame] at hrows
      exact h.labelled other (Dict.mem_of_get? hrows)
  · by_cases hsame : other = key
    · subst hsame
      obtain ⟨revisions, hrevisions⟩ := h.histories other
      exact hhistory revisions hrevisions
    · unfold feedbackOf
      rw [honly.others other hsame]
      exact h.histories other

/-- The mark of a deletion keeps the invariant. -/
theorem Invariant.marked (h : Invariant store) (hrow : store.sessions.get? key = some row) :
    Invariant (store.put key (deleting row)) := by
  have hafter : ∀ other after, (store.put key (deleting row)).sessions.get? other = some after →
      ∃ before, store.sessions.get? other = some before ∧ after.events = before.events
        ∧ after.receipts = before.receipts ∧ after.session.transportHeadTag = before.session.transportHeadTag
        ∧ ∀ profile, RowSound false profile other before → RowSound false profile other after := by
    intro other after hafter
    by_cases hsame : other = key
    · subst hsame
      rw [get?_put_self] at hafter
      cases hafter
      exact ⟨row, hrow, rfl, rfl, rfl, fun _ hsound => hsound.deleting⟩
    · rw [get?_put_of_ne hsame] at hafter
      exact ⟨after, hafter, rfl, rfl, rfl, fun _ hsound => hsound⟩
  refine ⟨⟨fun other after hother => ?_, fun other after hother => ?_, ?_, ?_⟩, ?_, fun other hother hmem => ?_, h.graves,
    fun other hother => Dict.mem_set_of_mem (h.labelled other hother), h.histories⟩
  · obtain ⟨before, hbefore, -, -, -, hsound⟩ := hafter other after hother
    obtain ⟨connection, hconnection, hbeforehand⟩ := h.sound.rows other before hbefore
    exact ⟨connection, hconnection, hsound _ hbeforehand⟩
  · obtain ⟨before, hbefore, hevents, -⟩ := hafter other after hother
    rw [hevents]
    exact h.sound.digests other before hbefore
  · intro one row' two before' hone htwo hsame event hevent earlier hearlier hdigest
    obtain ⟨before, hbefore, hevents, -⟩ := hafter one row' hone
    obtain ⟨before', hbefore', hevents', -⟩ := hafter two before' htwo
    rw [hevents] at hevent
    rw [hevents'] at hearlier
    exact h.sound.apart one before two before' hbefore hbefore' hsame event hevent earlier hearlier hdigest
  · intro one row' two before' hone htwo hsame receipt hreceipt earlier hearlier hbatch
    obtain ⟨before, hbefore, -, hreceipts, -⟩ := hafter one row' hone
    obtain ⟨before', hbefore', -, hreceipts', -⟩ := hafter two before' htwo
    rw [hreceipts] at hreceipt
    rw [hreceipts'] at hearlier
    exact h.sound.batches one before two before' hbefore hbefore' hsame receipt hreceipt earlier hearlier hbatch
  · intro other after connection hother hconnection hprofile
    obtain ⟨before, hbefore, -, -, htag, -⟩ := hafter other after hother
    rw [htag]
    exact h.modern other before connection hbefore hconnection hprofile
  · rcases Dict.mem_set.mp hmem with rfl | hold
    · exact h.buried other hother (Dict.mem_of_get? hrow)
    · exact h.buried other hother hold

/-- The rows of a session are removed. -/
theorem Invariant.purged (h : Invariant store) (hrow : store.sessions.get? key = some row)
    (hnext : next = { store with
      sessions := store.sessions.erase key
      feedback := store.feedback.erase key
      tombstones := if key ∈ store.tombstones then store.tombstones else store.tombstones ++ [key] }) :
    Invariant next := by
  subst hnext
  have hrestricts : Restricts store { store with
      sessions := store.sessions.erase key
      feedback := store.feedback.erase key
      tombstones := if key ∈ store.tombstones then store.tombstones else store.tombstones ++ [key] } :=
    ⟨fun other before hbefore => (Dict.get?_erase_eq_some.mp hbefore).2,
      fun other _ connection hconnection => ⟨connection, hconnection, rfl⟩⟩
  have hgrave : ∀ other ∈ (if key ∈ store.tombstones then store.tombstones else store.tombstones ++ [key]),
      other = key ∨ other ∈ store.tombstones := by
    intro other hother
    split at hother
    · exact .inr hother
    · rcases List.mem_append.mp hother with hold | hnew
      · exact .inr hold
      · exact .inl (List.mem_singleton.mp hnew)
  refine ⟨h.sound.restrict hrestricts, h.modern.restrict h.sound hrestricts, fun other hother hmem => ?_,
    fun other hother => ?_, fun other hother => ?_, fun other => ?_⟩
  · obtain ⟨hne, hmem⟩ := Dict.mem_erase.mp hmem
    rcases hgrave other hother with rfl | hold
    · exact hne rfl
    · exact h.buried other hold hmem
  · rcases hgrave other hother with rfl | hold
    · obtain ⟨connection, hconnection, -⟩ := h.sound.rows other row hrow
      exact Dict.mem_of_get? hconnection
    · exact h.graves other hold
  · obtain ⟨hne, hmem⟩ := Dict.mem_erase.mp hother
    exact Dict.mem_erase.mpr ⟨hne, h.labelled other hmem⟩
  · by_cases hsame : other = key
    · subst hsame
      refine ⟨[], ?_⟩
      unfold feedbackOf
      rw [Dict.get?_erase_self]
      exact .empty
    · unfold feedbackOf
      rw [Dict.get?_erase_of_ne hsame]
      exact h.histories other

/-- The rows of connections are removed. -/
theorem Invariant.projectPurged {ids : List ComponentIdentifier} (h : Invariant store)
    (hconnections : ∀ id, next.connections.get? id = if id ∈ ids then none else store.connections.get? id)
    (hsessions : ∀ key, next.sessions.get? key = if key.1 ∈ ids then none else store.sessions.get? key)
    (hfeedback : ∀ key, next.feedback.get? key = if key.1 ∈ ids then none else store.feedback.get? key)
    (htombstones : next.tombstones = store.tombstones.filter fun key => key.1 ∉ ids) : Invariant next := by
  have hkept : ∀ key, key ∈ next.sessions → key.1 ∉ ids ∧ key ∈ store.sessions := by
    intro key hkey
    obtain ⟨row, hrow⟩ := Dict.mem_iff.mp hkey
    rw [hsessions] at hrow
    split at hrow
    · cases hrow
    · next hid => exact ⟨hid, Dict.mem_of_get? hrow⟩
  have hrestricts : Restricts store next := by
    refine ⟨fun key row hrow => ?_, fun key hkey connection hconnection => ⟨connection, ?_, rfl⟩⟩
    · have hid := (hkept key (Dict.mem_of_get? hrow)).1
      rwa [hsessions, if_neg hid] at hrow
    · rw [hconnections, if_neg (hkept key hkey).1]
      exact hconnection
  refine ⟨h.sound.restrict hrestricts, h.modern.restrict h.sound hrestricts, fun key hkey hmem => ?_, fun key hkey => ?_,
    fun key hkey => ?_, fun key => ?_⟩
  · rw [htombstones] at hkey
    exact h.buried key (List.mem_filter.mp hkey).1 (hkept key hmem).2
  · rw [htombstones] at hkey
    obtain ⟨hold, hid⟩ := List.mem_filter.mp hkey
    obtain ⟨connection, hconnection⟩ := Dict.mem_iff.mp (h.graves key hold)
    refine Dict.mem_of_get? (v := connection) ?_
    rw [hconnections, if_neg (of_decide_eq_true hid)]
    exact hconnection
  · obtain ⟨rows, hrows⟩ := Dict.mem_iff.mp hkey
    rw [hfeedback] at hrows
    split at hrows
    · cases hrows
    · next hid =>
      obtain ⟨row, hrow⟩ := Dict.mem_iff.mp (h.labelled key (Dict.mem_of_get? hrows))
      refine Dict.mem_of_get? (v := row) ?_
      rw [hsessions, if_neg hid]
      exact hrow
  · unfold feedbackOf
    rw [hfeedback]
    split
    · exact ⟨[], .empty⟩
    · exact h.histories key

/-- Every step keeps the invariant. -/
theorem Invariant.step (h : Invariant store) (hstep : Step store next) : Invariant next := by
  cases hstep.stepped with
  | unchanged hsame =>
    rw [hsame]
    exact h
  | connected hsessions htombstones hfeedback hconnections =>
    have hrestricts : Restricts store next := by
      refine ⟨fun key row hrow => hsessions ▸ hrow, fun key _ connection hconnection => ?_⟩
      obtain ⟨state, hafter⟩ := hconnections key.1 connection hconnection
      exact ⟨_, hafter, rfl⟩
    refine ⟨h.sound.restrict hrestricts, h.modern.restrict h.sound hrestricts, ?_, fun key hkey => ?_, ?_, ?_⟩
    · rw [hsessions, htombstones]
      exact h.buried
    · rw [htombstones] at hkey
      obtain ⟨connection, hconnection⟩ := Dict.mem_iff.mp (h.graves key hkey)
      obtain ⟨state, hafter⟩ := hconnections key.1 connection hconnection
      exact Dict.mem_of_get? hafter
    · rw [hsessions, hfeedback]
      exact h.labelled
    · unfold feedbackOf
      rw [hfeedback]
      exact h.histories
  | written hwrites => exact h.writes hwrites (h.sound.writes hwrites) (h.modern.writes hwrites)
  | chunk chunk intakes hwrites => exact h.chunk hwrites
  | recorded hrow hclosed honly hhistory => exact h.recorded hrow honly hhistory
  | marked hrow hnext =>
    rw [hnext]
    exact h.marked hrow
  | purged hrow hstate hnext => exact h.purged hrow hnext
  | projectPurged ids hstates hconnections hsessions hfeedback htombstones =>
    exact h.projectPurged hconnections hsessions hfeedback htombstones

/-- The invariant holds in every state of a store that was created empty. -/
theorem Reached.invariant (h : Reached store) : Invariant store := by
  induction h with
  | refl => exact invariant_empty
  | tail _ hlast ih => exact ih.step hlast

end CaptureStore

end SalienceGate
