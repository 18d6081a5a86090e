import SalienceGate.Capture.StoreSteps
import Mathlib

/-!
# The coverage of a session that lost its bridge

An intake of a bridge that comes through the spool has no receipt, so its session loses its coverage for good. An
intake that is replayed is the exception: its transaction ends without a commit, and with it the mark that it left.
-/

namespace SalienceGate

open Stateful

namespace CaptureStore

section

variable [CaptureKey] [CaptureTags]

/-- A session stays, from one state of a store to a later one. -/
def Kept (key : SessionKey) : CaptureStore → CaptureStore → Prop :=
  Relation.ReflTransGen fun store next => Step store next ∧ key ∈ next.sessions

variable {store next : CaptureStore} {verified : Dict SessionKey CaptureHead} {key : SessionKey} {row : StoredSession}
  {intake : CaptureIntake} {receipt : CaptureAppendReceipt} {admittedAt : UtcDatetime}

/-- The rows of a session that stays are later ones. -/
theorem Kept.later (h : Kept key store next) (hrow : store.sessions.get? key = some row) :
    ∃ later, next.sessions.get? key = some later ∧ Later row later := by
  induction h with
  | refl => exact ⟨row, hrow, .refl row⟩
  | tail _ hlast ih =>
    obtain ⟨middle, hmiddle, hfirst⟩ := ih
    obtain ⟨hstep, hkept⟩ := hlast
    rcases hstep.stepped.later hmiddle with hgone | ⟨later, hlater, hsecond⟩
    · exact absurd hkept (Dict.get?_eq_none.mp hgone)
    · exact ⟨later, hlater, hfirst.trans hsecond⟩

/-- The coverage of a session is lost, and stays so as long as the session is there. -/
def CoverageLost (store : CaptureStore) (key : SessionKey) : Prop :=
  (∃ row, store.sessions.get? key = some row ∧ row.session.coverageDegraded = true) ∧
    ∀ later, Kept key store later → ∃ row, later.sessions.get? key = some row ∧ row.session.coverageDegraded = true

/-- A flag that is set is never cleared. -/
theorem coverageLost_iff : CoverageLost store key ↔
    ∃ row, store.sessions.get? key = some row ∧ row.session.coverageDegraded = true := by
  constructor
  · intro h
    exact h.1
  · rintro ⟨row, hrow, hdegraded⟩
    refine ⟨⟨row, hrow, hdegraded⟩, fun later hkept => ?_⟩
    obtain ⟨after, hafter, hlater⟩ := hkept.later hrow
    exact ⟨after, hafter, hlater.degraded hdegraded⟩

theorem Quarantined.coverageLost {code : CaptureHealthCode} (h : Quarantined store key code) : CoverageLost store key := by
  obtain ⟨row, hrow, -, hdegraded, -⟩ := h
  exact coverageLost_iff.mpr ⟨row, hrow, hdegraded⟩

/-- An intake is stored as an event of its session, whose coverage is not lost. -/
def StoredCovered (store : CaptureStore) (intake : CaptureIntake) : Prop :=
  ∃ event row, store.eventOf intake.connectionId intake.producerEventDigest = some (intake.session, event)
    ∧ event.intake = intake ∧ store.sessions.get? intake.session = some row ∧ row.session.coverageDegraded = false

/-- An append that returned, of an authentic intake: what it wrote stays unless the intake was replayed. -/
theorem append_eq_ok {source : CaptureAdmissionSource}
    (h : append intake source admittedAt verified store = (.ok receipt, next)) :
    CaptureKey.authenticates intake = true
      ∧ ∃ t, appendAuthenticated intake source false admittedAt ⟨store, verified⟩ = .ok receipt t
        ∧ next = if receipt.disposition ≠ .replayed then t.store else store := by
  unfold append at h
  split at h
  · cases h
  · next hauthentic =>
    refine ⟨Bool.eq_true_of_not_eq_false hauthentic, ?_⟩
    unfold commit at h
    split at h
    · next result t hresult =>
      cases h
      refine ⟨t, hresult, ?_⟩
      simp only [decide_eq_true_eq]
    · cases h

/-- An append of a bridge's intake from the spool costs its session the coverage for good, unless the intake is stored
already and the session has all of its coverage. -/
theorem append_coverageLost (hprofile : intake.adapterProfile.isTransport = true)
    (h : append intake .spoolDrain admittedAt verified store = (.ok receipt, next)) :
    CoverageLost next intake.session ↔ ¬StoredCovered store intake := by
  obtain ⟨hauthentic, t, happended, hnext⟩ := append_eq_ok h
  obtain ⟨connection, -, hsame, -, houtcome⟩ := appendAuthenticated_writes none happended hauthentic
    fun hbound => by cases hbound
  have hfallback : (connection.profile.isTransport && decide (CaptureAdmissionSource.spoolDrain = .spoolDrain) && !false)
      = true := by
    rw [hsame, hprofile]
    rfl
  rw [hfallback] at houtcome
  have hfresh : store.eventOf intake.connectionId intake.producerEventDigest = none → ¬StoredCovered store intake := by
    rintro hnone ⟨event, row, hevent, -⟩
    cases hnone.symm.trans hevent
  cases houtcome with
  | @replayed existing row hevent hintake hrow =>
    -- The mark of the session is rolled back with everything else.
    have hstore : next = store := by
      rw [hnext, if_neg]
      exact fun hne => hne rfl
    rw [hstore, coverageLost_iff]
    constructor
    · rintro ⟨again, hagain, hdegraded⟩ ⟨event, covered, -, -, hcovered, hwhole⟩
      cases hagain.symm.trans hcovered
      cases hdegraded.symm.trans hwhole
    · intro hnot
      refine ⟨row, hrow, ?_⟩
      by_contra hflag
      exact hnot ⟨existing, row, hevent, hintake, hrow, Bool.eq_false_of_not_eq_true hflag⟩
  | collided hevent hintake hquarantined hother =>
    rw [hnext]
    refine iff_of_true hquarantined.coverageLost ?_
    rintro ⟨event, row, hagain, hequal, -⟩
    cases hevent.symm.trans hagain
    exact hintake hequal
  | refused hevent hquarantined =>
    rw [hnext]
    exact iff_of_true hquarantined.coverageLost (hfresh hevent)
  | overflowed hevent hquarantined =>
    rw [hnext]
    exact iff_of_true hquarantined.coverageLost (hfresh hevent)
  | admitted hevent hintake hrow hlast hhead hdegraded =>
    rw [hnext]
    exact iff_of_true (coverageLost_iff.mpr ⟨_, hrow, hdegraded rfl⟩) (hfresh hevent)

end

/-! ## An intake that is replayed from the spool -/

/-- The digest of 64 times one digit. -/
def repeatedDigest (digit : Char) (h : isLowerHex digit = true) : Sha256Digest where
  text := String.ofList (List.replicate 64 digit)
  pattern := by
    refine ⟨by rw [String.length_ofList, List.length_replicate], ?_⟩
    rw [String.toList_ofList, List.all_eq_true]
    intro other hother
    rw [List.eq_of_mem_replicate hother]
    exact h

/-- An intake of a bridge. -/
def bridgeIntake (sessionId producerEventDigest : Sha256Digest) (content : CaptureIntakeContent) : CaptureIntake where
  adapterProfile := .opencodePlugin
  capabilityManifestDigest := repeatedDigest '0' rfl
  connectionId := ⟨"opencode", .refl true⟩
  sessionId
  producerEventDigest
  intakeTag := producerEventDigest
  occurredAt := none
  producerSequence := none
  captureDisposition := .captured
  content

/-- Two texts before which stand texts of one length. -/
theorem append_text_inj {digest digest' : Sha256Digest} {text text' : String}
    (h : digest.text ++ text = digest'.text ++ text') : digest = digest' ∧ text = text' := by
  obtain ⟨digits, hdigits⟩ := digest
  obtain ⟨digits', hdigits'⟩ := digest'
  have hlists : digits.toList ++ text.toList = digits'.toList ++ text'.toList := by
    rw [← String.toList_append, ← String.toList_append]
    exact congrArg String.toList h
  have hlength : digits.toList.length = digits'.toList.length := by
    rw [String.length_toList, String.length_toList, hdigits.1, hdigits'.1]
  obtain ⟨hsame, htext⟩ := List.append_inj hlists hlength
  cases String.toList_injective hsame
  exact ⟨rfl, String.toList_injective htext⟩

theorem marker_injective : Function.Injective fun key : SessionKey => key.2.text ++ key.1.text := by
  rintro ⟨⟨text, hid⟩, digest⟩ ⟨⟨text', hid'⟩, digest'⟩ heq
  obtain ⟨rfl, htext⟩ := append_text_inj heq
  cases htext
  rfl

/-- A key that authenticates the first and the last intakes of sessions. -/
@[reducible] def bridgeKey : CaptureKey where
  authenticates intake := (intake.content = .sessionStarted ∨ intake.content = .sessionFinished)
    ∧ intake = bridgeIntake intake.sessionId intake.producerEventDigest intake.content
  recordTag intake := intake.sessionId.text ++ (intake.producerEventDigest.text
    ++ if intake.content = .sessionFinished then "finished" else "started")
  sessionMarkerTag key := key.2.text ++ key.1.text
  canonicalBytes _ := 400
  recordTag_inj intake other h h' heq := by
    obtain ⟨hcontent, hintake⟩ := of_decide_eq_true h
    obtain ⟨hcontent', hother⟩ := of_decide_eq_true h'
    obtain ⟨hsession, hrest⟩ := append_text_inj heq
    obtain ⟨hdigest, hkind⟩ := append_text_inj hrest
    have hsame : intake.content = other.content := by
      rcases hcontent with hc | hc <;> rcases hcontent' with hc' | hc'
      · rw [hc, hc']
      · rw [hc, hc'] at hkind
        exact absurd hkind (by decide)
      · rw [hc, hc'] at hkind
        exact absurd hkind (by decide)
      · rw [hc, hc']
    rw [hintake, hother, hsession, hdigest, hsame]
  sessionMarkerTag_inj := marker_injective

/-- Tags that count what is before them. -/
@[reducible] def countingTags : CaptureTags where
  eventTag _ receiptOrdinal _ _ _ _ := String.ofList (List.replicate receiptOrdinal 'e')
  transportReceiptTag _ material := String.ofList (List.replicate material.transportOrdinal 'r')
  transportHeadTag _ head := String.ofList (List.replicate head.receiptCount 'h')
  healthSetDigest _ health := String.ofList (health.map fun _ => 'm')
  intakeSetDigest intakes := String.ofList (intakes.map fun _ => 'i')
  feedbackId key revision _ _ _ := key.2.text ++ String.ofList (List.replicate revision 'f')
  feedbackAnchorId key revisionCount _ _ _ := key.2.text ++ String.ofList (List.replicate revisionCount 'a')
  feedbackRecordTag material := material.sessionId.text
  humanId key := key.2.text

section

local instance localKey : CaptureKey := bridgeKey
local instance localTags : CaptureTags := countingTags

/-- What is done to a store, one operation after the other, in a process of its own each. -/
def performAll (store : CaptureStore) (operations : List Operation) : CaptureStore :=
  operations.foldl (perform .empty) store

theorem reached_performAll {store : CaptureStore} {operations : List Operation} (h : Reached store) :
    Reached (store.performAll operations) := by
  induction operations generalizing store with
  | nil => exact h
  | cons operation rest ih => exact ih (h.tail ⟨.empty, operation, rfl⟩)

/-- The first intake of a session. -/
def firstIntake : CaptureIntake := bridgeIntake (repeatedDigest '1' rfl) (repeatedDigest '2' rfl) .sessionStarted

/-- The chunk that brings it. -/
def firstChunk : CaptureTransportChunk where
  connectionId := firstIntake.connectionId
  sessionId := firstIntake.sessionId
  batchRef := repeatedDigest '3' rfl
  chunkIndex := 0
  chunkCount := 1
  chunkDigest := repeatedDigest '4' rfl
  valid := ⟨Nat.one_pos, Nat.one_le_ofNat⟩

/-- A bridge is connected. -/
def connect : List Operation :=
  [.register firstIntake.connectionId (repeatedDigest '5' rfl) .opencodePlugin (repeatedDigest '0' rfl) true,
    .transition firstIntake.connectionId .pending .enabled]

/-- The store with a session that a bridge transported. -/
def transported : CaptureStore :=
  CaptureStore.empty.performAll (connect ++ [.appendTransportChunk firstChunk [firstIntake] fun _ => 0])

theorem reached_transported : Reached transported := reached_performAll .refl

/-- An append returned, and its session has all of its coverage. -/
def leavesCovered (intake : CaptureIntake) (ended : Except CaptureStoreError CaptureAppendReceipt × CaptureStore) : Bool :=
  ended.1.toOption.isSome && (ended.2.sessions.get? intake.session).any fun row => !row.session.coverageDegraded

theorem replayed_leavesCovered : leavesCovered firstIntake (append firstIntake .spoolDrain 0 .empty transported) = true := by
  decide +kernel

/-- An intake of a bridge comes through the spool, and its session keeps all of its coverage. -/
theorem append_replayed_covered : ∃ store next verified intake admittedAt receipt, Reached store
    ∧ intake.adapterProfile.isTransport = true
    ∧ append intake .spoolDrain admittedAt verified store = (.ok receipt, next) ∧ ¬CoverageLost next intake.session := by
  have hcovered := replayed_leavesCovered
  unfold leavesCovered at hcovered
  generalize hended : append firstIntake .spoolDrain 0 .empty transported = ended at hcovered
  obtain ⟨result, next⟩ := ended
  rw [Bool.and_eq_true] at hcovered
  cases result with
  | error e => cases hcovered.1
  | ok receipt =>
    refine ⟨transported, next, .empty, firstIntake, 0, receipt, reached_transported, rfl, hended, fun hlost => ?_⟩
    obtain ⟨row, hrow, hdegraded⟩ := coverageLost_iff.mp hlost
    have hwhole := hcovered.2
    rw [hrow, Option.any_some, hdegraded] at hwhole
    cases hwhole

/-- The intake comes through the spool first, and costs its session the coverage. -/
theorem append_coverageLost_first : ∃ next receipt,
    append firstIntake .spoolDrain 0 .empty (CaptureStore.empty.performAll connect) = (.ok receipt, next)
      ∧ CoverageLost next firstIntake.session := by
  have hreturns : (append firstIntake .spoolDrain 0 .empty (CaptureStore.empty.performAll connect)).1.toOption.isSome
      = true := by decide +kernel
  generalize hended : append firstIntake .spoolDrain 0 .empty (CaptureStore.empty.performAll connect) = ended at hreturns
  obtain ⟨result, next⟩ := ended
  cases result with
  | error e => cases hreturns
  | ok receipt =>
    refine ⟨next, receipt, rfl, (append_coverageLost rfl hended).mpr ?_⟩
    rintro ⟨event, row, -, -, hrow, -⟩
    have hnone : (CaptureStore.empty.performAll connect).sessions.get? firstIntake.session = none := by decide +kernel
    cases hnone.symm.trans hrow

end

end CaptureStore

end SalienceGate
