import SalienceGate.Capture.StoreInvariant

/-!
# Intakes that are stored once

However often an intake is submitted, its connection has one event of its digest. Submitted again, at any later time, the
intake is answered from that event and no row changes; another intake of the digest is never stored.
-/

namespace SalienceGate

open Checked

namespace CaptureStore

section

variable [CaptureKey] [CaptureTags] {store next later : CaptureStore} {key other : SessionKey} {row before : StoredSession}
  {intake : CaptureIntake} {event earlier : CaptureEvent} {source : CaptureAdmissionSource} {admittedAt : UtcDatetime}
  {verified : Dict SessionKey CaptureHead} {receipt : CaptureAppendReceipt} {pending : Option SessionKey}

/-- The event of a digest is the one event that has it. -/
theorem Sound.eventOf_eq (h : Sound pending store) (hrow : store.sessions.get? key = some row) (hevent : event ∈ row.events) :
    store.eventOf key.1 event.intake.producerEventDigest = some (key, event) := by
  cases hfound : store.eventOf key.1 event.intake.producerEventDigest with
  | none => exact absurd rfl (eventOf_eq_none.mp hfound key row hrow rfl event hevent)
  | some found =>
    obtain ⟨other, earlier⟩ := found
    obtain ⟨before, hbefore, hconnection, hearlier, hdigest⟩ := eventOf_eq_some hfound
    have hsame := h.apart key row other before hrow hbefore hconnection.symm event hevent earlier hearlier hdigest.symm
    subst hsame
    cases hrow.symm.trans hbefore
    rw [List.inj_on_of_nodup_map (h.digests key row hrow) hearlier hevent hdigest]

/-- An event of a session is one of an intake of it. -/
theorem Sound.session_intake (h : Sound none store) (hrow : store.sessions.get? key = some row) (hevent : event ∈ row.events) :
    event.intake.session = key := by
  obtain ⟨connection, -, hsound⟩ := h.rows key row hrow
  obtain ⟨i, hi⟩ := List.mem_iff_getElem?.mp hevent
  have hload := (linked_of_verifyEvents hsound.chain hi).load
  unfold loadVerifiedEvent at hload
  rw [raiseIf_eq_ok] at hload
  push Not at hload
  exact hload.2.1

theorem Kept.reached (hkept : Kept key store later) (h : Reached store) : Reached later := by
  induction hkept with
  | refl => exact h
  | tail _ hlast ih => exact ih.tail hlast.1

/-- In every state of a store that was created empty, two events of a connection with one digest are the same event: they are
at the same place of the same session. -/
theorem stored_once (h : Reached store) (hrow : store.sessions.get? key = some row)
    (hbefore : store.sessions.get? other = some before) (hconnection : key.1 = other.1) {i j : ℕ}
    (hi : row.events[i]? = some event) (hj : before.events[j]? = some earlier)
    (hdigest : event.intake.producerEventDigest = earlier.intake.producerEventDigest) : key = other ∧ i = j := by
  have hsound := h.invariant.sound
  have hsame := hsound.apart key row other before hrow hbefore hconnection event (List.mem_of_getElem? hi) earlier
    (List.mem_of_getElem? hj) hdigest
  subst hsame
  cases hrow.symm.trans hbefore
  refine ⟨rfl, ?_⟩
  have hi' : (row.events.map fun event => event.intake.producerEventDigest)[i]?
      = some event.intake.producerEventDigest := by
    rw [List.getElem?_map, hi, Option.map_some]
  have hj' : (row.events.map fun event => event.intake.producerEventDigest)[j]?
      = some event.intake.producerEventDigest := by
    rw [List.getElem?_map, hj, Option.map_some, hdigest]
  exact (List.getElem?_inj (List.getElem?_eq_some_iff.mp hi').1 (hsound.digests key row hrow)).mp (hi'.trans hj'.symm)

/-- An intake that is stored is answered from its event whenever it is submitted again and not refused, as long as its session
is there; no row changes. -/
theorem append_replayed (h : Reached store) (hrow : store.sessions.get? key = some row) (hevent : event ∈ row.events)
    (hkept : Kept key store later)
    (happend : append event.intake source admittedAt verified later = (.ok receipt, next)) :
    next = later ∧ ∃ session, receipt = replayReceipt event session := by
  have hsound := (hkept.reached h).invariant.sound
  obtain ⟨after, hafter, hlater⟩ := hkept.later hrow
  have hmem := hlater.events.subset hevent
  have hfound := hsound.eventOf_eq hafter hmem
  rw [← hsound.session_intake hafter hmem] at hfound
  obtain ⟨hauthentic, t, happended, hnext⟩ := append_eq_ok happend
  obtain ⟨connection, -, -, -, houtcome⟩ := appendAuthenticated_writes none happended hauthentic
    fun hbound => by cases hbound
  cases houtcome with
  | replayed hagain _ _ =>
    cases hfound.symm.trans hagain
    -- A transaction that replays is rolled back, with the mark that it left on the session.
    rw [if_neg fun hne => hne rfl] at hnext
    exact ⟨hnext, _, rfl⟩
  | collided hagain hintake _ _ =>
    cases hfound.symm.trans hagain
    exact absurd rfl hintake
  | refused hnone _ => cases hfound.symm.trans hnone
  | overflowed hnone _ => cases hfound.symm.trans hnone
  | admitted hnone _ _ _ _ _ => cases hfound.symm.trans hnone

/-- An intake whose digest is that of the event of another intake is never stored: both sessions are quarantined with a
collision, and as long as that event is there no session of the connection has an event of the intake. -/
theorem append_collided (h : Reached store) (hrow : store.sessions.get? key = some row) (hevent : event ∈ row.events)
    (hconnection : key.1 = intake.connectionId)
    (hdigest : event.intake.producerEventDigest = intake.producerEventDigest) (hintake : event.intake ≠ intake)
    (happend : append intake source admittedAt verified store = (.ok receipt, next)) :
    (∃ eventCount, receipt = quarantineReceipt .quarantined intake eventCount)
      ∧ Quarantined next intake.session .producerCollision ∧ Quarantined next key .producerCollision
      ∧ ∀ later, Kept key next later → ∀ other before, later.sessions.get? other = some before →
        ∀ event ∈ before.events, event.intake ≠ intake := by
  have hfound := h.invariant.sound.eventOf_eq hrow hevent
  rw [hconnection, hdigest] at hfound
  obtain ⟨hauthentic, t, happended, hnext⟩ := append_eq_ok happend
  obtain ⟨connection, -, -, hwrites, houtcome⟩ := appendAuthenticated_writes none happended hauthentic
    fun hbound => by cases hbound
  cases houtcome with
  | replayed hagain hsame _ =>
    cases hfound.symm.trans hagain
    exact absurd hsame hintake
  | @collided _ _ eventCount hagain _ hquarantined hother =>
    cases hfound.symm.trans hagain
    rw [if_pos fun hreplayed => by cases hreplayed] at hnext
    subst hnext
    refine ⟨⟨eventCount, rfl⟩, hquarantined, hother, fun later hkept other before hbefore again hagain heq => ?_⟩
    have hstep : Kept key store t.store := by
      obtain ⟨row, hrow, -⟩ := hother
      exact .single ⟨⟨verified, .append intake source admittedAt, congrArg Prod.snd happend⟩, Dict.mem_of_get? hrow⟩
    -- The event is still there, and has the digest to itself.
    have hkept : Kept key store later := hstep.trans hkept
    have hreached := hkept.reached h
    obtain ⟨after, hafter, hlater⟩ := hkept.later hrow
    have hsame : other.1 = key.1 := by
      rw [← hreached.invariant.sound.session_intake hbefore hagain, heq, hconnection]
      rfl
    have hfirst := hreached.invariant.sound.eventOf_eq hafter (hlater.events.subset hevent)
    have hsecond := hreached.invariant.sound.eventOf_eq hbefore hagain
    rw [heq, hsame, ← hdigest] at hsecond
    cases hfirst.symm.trans hsecond
    exact hintake heq
  | refused hnone _ => cases hfound.symm.trans hnone
  | overflowed hnone _ => cases hfound.symm.trans hnone
  | admitted hnone _ _ _ _ _ => cases hfound.symm.trans hnone

end

/-! ## A session of a bridge -/

section

attribute [local instance] localKey localTags

/-- Another intake of the digest of the first one. -/
def collidingIntake : CaptureIntake := bridgeIntake firstIntake.sessionId firstIntake.producerEventDigest .sessionFinished

/-- The session that a bridge transported has the event of its first intake. -/
theorem exists_transported : ∃ (row : StoredSession) (event : CaptureEvent),
    transported.sessions.get? firstIntake.session = some row ∧ row.events[0]? = some event ∧ event.intake = firstIntake := by
  have hthere : ((transported.sessions.get? firstIntake.session).any fun row =>
      (row.events[0]?).any fun event => decide (event.intake = firstIntake)) = true := by decide +kernel
  obtain ⟨row, hrow, hevents⟩ := (Option.any_eq_true _ _).mp hthere
  obtain ⟨event, hevent, hintake⟩ := (Option.any_eq_true _ _).mp hevents
  exact ⟨row, event, hrow, hevent, of_decide_eq_true hintake⟩

/-- An append of which it is known that it returns. -/
theorem exists_append (intake : CaptureIntake)
    (h : (append intake .spoolDrain 0 .empty transported).1.toOption.isSome = true) :
    ∃ receipt next, append intake .spoolDrain 0 .empty transported = (.ok receipt, next) := by
  generalize append intake .spoolDrain 0 .empty transported = ended at h
  obtain ⟨_ | receipt, next⟩ := ended
  · cases h
  · exact ⟨receipt, next, rfl⟩

/-- Its first event is the one of its digest. -/
theorem stored_once_transported : ∃ (row : StoredSession) (event : CaptureEvent),
    transported.sessions.get? firstIntake.session = some row ∧ row.events[0]? = some event
      ∧ firstIntake.session = firstIntake.session ∧ 0 = 0 := by
  obtain ⟨row, event, hrow, hevent, -⟩ := exists_transported
  exact ⟨row, event, hrow, hevent, stored_once reached_transported hrow hrow rfl hevent hevent rfl⟩

/-- The first intake comes through the spool once more. -/
theorem append_replayed_transported : ∃ event session, append firstIntake .spoolDrain 0 .empty transported
    = (.ok (replayReceipt event session), transported) := by
  obtain ⟨row, event, hrow, hevent, hintake⟩ := exists_transported
  obtain ⟨receipt, next, happend⟩ := exists_append firstIntake (by decide +kernel)
  rw [← hintake] at happend ⊢
  obtain ⟨rfl, session, rfl⟩ := append_replayed reached_transported hrow (List.mem_of_getElem? hevent) .refl happend
  exact ⟨event, session, happend⟩

/-- Another intake of its digest comes through the spool. -/
theorem append_collided_transported : ∃ eventCount next, append collidingIntake .spoolDrain 0 .empty transported
      = (.ok (quarantineReceipt .quarantined collidingIntake eventCount), next)
    ∧ Quarantined next collidingIntake.session .producerCollision := by
  obtain ⟨row, event, hrow, hevent, hintake⟩ := exists_transported
  obtain ⟨receipt, next, happend⟩ := exists_append collidingIntake (by decide +kernel)
  have hdigest : event.intake.producerEventDigest = collidingIntake.producerEventDigest := by rw [hintake]; rfl
  have hother : event.intake ≠ collidingIntake := by rw [hintake]; decide
  have hconnection : firstIntake.session.1 = collidingIntake.connectionId := rfl
  obtain ⟨⟨eventCount, rfl⟩, hquarantined, -⟩ := append_collided reached_transported hrow (List.mem_of_getElem? hevent)
    hconnection hdigest hother happend
  exact ⟨eventCount, next, happend, hquarantined⟩

end

end CaptureStore

end SalienceGate
