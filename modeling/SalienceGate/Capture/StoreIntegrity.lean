import SalienceGate.Capture.StoreInvariant
import Mathlib.Algebra.BigOperators.Group.Finset.Basic

/-!
# The integrity of the capture store

Whatever is done to a store that was created empty, and wherever it stops, every session has its events and receipts
numbered and linked, the states and the size that it should have, and no coverage that it lost; so its chains are
accepted, and the store can be opened.
-/

namespace SalienceGate

open Checked

namespace CaptureStore

section

variable [CaptureKey] [CaptureTags]

variable {store next : CaptureStore} {key : SessionKey} {row : StoredSession} {profile : CaptureProfile}

/-! ## What a session is -/

/-- The events that the last receipt of a session covers. -/
def coveredEvents (row : StoredSession) : ℕ := (row.receipts.getLast?.map fun receipt => receipt.postEventCount).getD 0

/-- The events and receipts of a session are numbered and linked, and its state and coverage are what they make them. -/
structure SessionIntact (profile : CaptureProfile) (key : SessionKey) (row : StoredSession) : Prop where
  numbered : ∀ i event, row.events[i]? = some event → event.receiptOrdinal = i + 1
  linked : ∀ i event, row.events[i]? = some event → event.previousEventTag = eventTagAt row.events i
  tagged : ∀ event ∈ row.events, event.eventTag = CaptureTags.eventTag key event.receiptOrdinal event.intake
    event.previousEventTag event.admissionSource event.admittedAt
  authentic : ∀ event ∈ row.events, CaptureKey.authenticates event.intake = true ∧ event.intake.session = key
  headTag : row.head.headEventTag = eventTagAt row.events row.events.length
  headCount : row.head.receiptCount = row.events.length
  eventCount : row.session.eventCount = row.events.length
  room : row.events.length ≤ maxCaptureEventsPerSession
  opened : row.session.state = .opened → ∀ event ∈ row.events, event.intake.content ≠ .sessionFinished
  closed : row.session.state = .closed → ∃ front last, row.events = front ++ [last]
    ∧ last.intake.content = .sessionFinished ∧ ∀ event ∈ front, event.intake.content ≠ .sessionFinished
  unhealthy : row.health ≠ [] → row.session.coverageDegraded = true
  uncovered : profile.isTransport = true → coveredEvents row < row.events.length → row.session.coverageDegraded = true
  receiptsNumbered : ∀ i receipt, row.receipts[i]? = some receipt → receipt.transportOrdinal = i + 1
  receiptsOnce : row.receipts.Pairwise fun a b => ¬(a.batchRef = b.batchRef ∧ a.chunkIndex = b.chunkIndex)
  receiptsGrow : row.receipts.Pairwise fun a b => a.postEventCount ≤ b.postEventCount

/-! ## Receipts -/

section receipts

variable {events : List CaptureEvent} {earlier rows : List TransportRow} {previous : Option String} {count : ℕ}
  {last : Option String × ℕ}

omit [CaptureKey]

theorem ordinal_of_verifyReceipts (h : verifyReceipts key events earlier previous count rows = .ok last) {i : ℕ}
    {receipt : TransportRow} (hi : rows[i]? = some receipt) : receipt.transportOrdinal = earlier.length + i + 1 := by
  induction rows generalizing earlier previous count i with
  | nil => cases hi
  | cons head rest ih =>
    obtain ⟨hhead, hrest⟩ := verifyReceipts_cons.mp h
    cases i with
    | zero =>
      cases hi
      exact hhead.ordinal
    | succ i =>
      have hlater := ih hrest hi
      rw [List.length_append, List.length_singleton] at hlater
      omega

/-- No receipt is one of those before it again. -/
theorem once_of_verifyReceipts (h : verifyReceipts key events earlier previous count rows = .ok last) :
    (∀ receipt ∈ rows, ∀ other ∈ earlier, ¬(other.batchRef = receipt.batchRef ∧ other.chunkIndex = receipt.chunkIndex))
      ∧ rows.Pairwise fun a b => ¬(a.batchRef = b.batchRef ∧ a.chunkIndex = b.chunkIndex) := by
  induction rows generalizing earlier previous count with
  | nil => exact ⟨fun _ hreceipt => absurd hreceipt List.not_mem_nil, List.Pairwise.nil⟩
  | cons head rest ih =>
    obtain ⟨hhead, hrest⟩ := verifyReceipts_cons.mp h
    obtain ⟨hearlier, hpairs⟩ := ih hrest
    refine ⟨fun receipt hreceipt other hother hsame => ?_, List.pairwise_cons.mpr ⟨fun receipt hreceipt => ?_, hpairs⟩⟩
    · rcases List.mem_cons.mp hreceipt with rfl | hmem
      · exact (hhead.batch other hother hsame.1).2 hsame.2
      · exact hearlier receipt hmem other (List.mem_append_left _ hother) hsame
    · exact hearlier receipt hreceipt head (List.mem_append_right _ (List.mem_singleton.mpr rfl))

/-- Each receipt covers what those before it cover. -/
theorem grow_of_verifyReceipts (h : verifyReceipts key events earlier previous count rows = .ok last) :
    (∀ receipt ∈ rows, count ≤ receipt.postEventCount)
      ∧ rows.Pairwise fun a b => a.postEventCount ≤ b.postEventCount := by
  induction rows generalizing earlier previous count with
  | nil => exact ⟨fun _ hreceipt => absurd hreceipt List.not_mem_nil, List.Pairwise.nil⟩
  | cons head rest ih =>
    obtain ⟨hhead, hrest⟩ := verifyReceipts_cons.mp h
    obtain ⟨hgrows, hpairs⟩ := ih hrest
    refine ⟨fun receipt hreceipt => ?_, List.pairwise_cons.mpr ⟨hgrows, hpairs⟩⟩
    rcases List.mem_cons.mp hreceipt with rfl | hmem
    · exact hhead.grows
    · exact hhead.grows.trans (hgrows receipt hmem)

/-- A chain ends with the count of its last receipt. -/
theorem covered_of_verifyReceipts (h : verifyReceipts key events earlier previous count rows = .ok last) :
    last.2 = (rows.getLast?.map fun receipt => receipt.postEventCount).getD count := by
  induction rows generalizing earlier previous count with
  | nil =>
    cases h
    rfl
  | cons head rest ih =>
    obtain ⟨-, hrest⟩ := verifyReceipts_cons.mp h
    rw [ih hrest, List.getLast?_cons]
    cases rest.getLast? <;> rfl

end receipts

/-! ## Every reached session -/

theorem RowSound.intact (h : RowSound false profile key row)
    (hmodern : profile.isTransport = true → row.session.transportHeadTag ≠ none) : SessionIntact profile key row := by
  have hload : ∀ event ∈ row.events, loadVerifiedEvent key event = .ok () := by
    intro event hevent
    obtain ⟨i, hi⟩ := List.mem_iff_getElem?.mp hevent
    exact (linked_of_verifyEvents h.chain hi).load
  have htransport : (row.receipts = [] ∧ row.session.transportHeadTag = none)
      ∨ ∃ tag head covered, TransportSound false key row tag head covered := by
    cases htag : row.session.transportHeadTag with
    | none => exact .inl ⟨(h.direct htag).1, rfl⟩
    | some tag =>
      obtain ⟨-, head, covered, hsound⟩ := h.transport tag htag
      exact .inr ⟨tag, head, covered, hsound⟩
  refine {
    numbered := fun i event hi => ?_
    linked := fun i event hi => ?_
    tagged := fun event hevent => ?_
    authentic := fun event hevent => ?_
    headTag := (eventTagAt_of_verifyEvents h.chain).symm
    headCount := h.headCount
    eventCount := h.eventCount
    room := h.room
    opened := h.opened
    closed := h.closed
    unhealthy := h.unhealthy
    uncovered := fun hprofile hlt => ?_
    receiptsNumbered := fun i receipt hi => ?_
    receiptsOnce := ?_
    receiptsGrow := ?_ }
  · rw [(linked_of_verifyEvents h.chain hi).ordinal, Nat.add_comm]
  · have hprevious := (linked_of_verifyEvents h.chain hi).previous
    cases i with
    | zero => exact hprevious
    | succ i => exact hprevious
  · have hloaded := hload event hevent
    unfold loadVerifiedEvent at hloaded
    rw [raiseIf_eq_ok] at hloaded
    by_contra hne
    exact hloaded (.inr (.inr hne))
  · have hloaded := hload event hevent
    unfold loadVerifiedEvent at hloaded
    rw [raiseIf_eq_ok] at hloaded
    push Not at hloaded
    exact ⟨Bool.eq_true_of_not_eq_false hloaded.1, hloaded.2.1⟩
  · rcases htransport with ⟨-, hnone⟩ | ⟨tag, head, covered, hsound⟩
    · exact absurd hnone (hmodern hprofile)
    · have hcovered : coveredEvents row = covered := (covered_of_verifyReceipts hsound.receipts).symm
      exact (hsound.tail rfl (by omega)).1
  · rcases htransport with ⟨hnil, -⟩ | ⟨tag, head, covered, hsound⟩
    · rw [hnil] at hi
      cases hi
    · have hordinal := ordinal_of_verifyReceipts hsound.receipts hi
      rw [List.length_nil, Nat.zero_add] at hordinal
      exact hordinal
  · rcases htransport with ⟨hnil, -⟩ | ⟨tag, head, covered, hsound⟩
    · rw [hnil]
      exact List.Pairwise.nil
    · exact (once_of_verifyReceipts hsound.receipts).2
  · rcases htransport with ⟨hnil, -⟩ | ⟨tag, head, covered, hsound⟩
    · rw [hnil]
      exact List.Pairwise.nil
    · exact (grow_of_verifyReceipts hsound.receipts).2

/-! ## Opening -/

omit [CaptureKey] [CaptureTags] in
/-- What is computed of each item without a change is computed of the list. -/
theorem mapM_eq_ok {α β : Type} {f : α → StoreM β} {g : α → β} {xs : List α} {t : CaptureTransaction}
    (h : ∀ x ∈ xs, f x t = .ok (g x) t) : xs.mapM f t = .ok (xs.map g) t := by
  induction xs with
  | nil => rfl
  | cons x rest ih =>
    rw [List.mapM_cons, Stateful.bind_of_ok (h x List.mem_cons_self),
      Stateful.bind_of_ok (ih fun y hy => h y (List.mem_cons_of_mem x hy))]
    rfl

omit [CaptureKey] [CaptureTags] in
theorem length_feedbackOf {rows : List FeedbackRow} (h : store.feedback.get? key = some rows) :
    store.feedbackOf key = rows := by
  unfold feedbackOf
  rw [h]
  rfl

omit [CaptureKey] [CaptureTags] in
/-- The feedback rows are those of the sessions. -/
theorem sum_feedback (h : ∀ key ∈ store.feedback, key ∈ store.sessions) :
    (store.feedback.values.map List.length).sum
      = (store.sessions.items.map fun entry => (store.feedbackOf entry.1).length).sum := by
  have hown : (store.feedback.values.map List.length).sum
      = (store.feedback.keys.map fun key => (store.feedbackOf key).length).sum := by
    unfold Dict.values Dict.keys
    rw [List.map_map, List.map_map]
    refine congrArg List.sum (List.map_congr_left fun entry hentry => ?_)
    have hfound : store.feedbackOf entry.1 = entry.2 := length_feedbackOf (Dict.get?_eq_some.mpr hentry)
    rw [Function.comp_apply, Function.comp_apply, hfound]
  have hsessions : (store.sessions.items.map fun entry => (store.feedbackOf entry.1).length)
      = store.sessions.keys.map fun key => (store.feedbackOf key).length := by
    unfold Dict.keys
    rw [List.map_map]
    rfl
  have hkeys : store.feedback.keys.Nodup := store.feedback.nodup_keys
  have hkeys' : store.sessions.keys.Nodup := store.sessions.nodup_keys
  rw [hown, hsessions, ← List.sum_toFinset _ hkeys, ← List.sum_toFinset _ hkeys']
  refine Finset.sum_subset (fun key hkey => ?_) fun key _ hkey => ?_
  · exact List.mem_toFinset.mpr (h key (List.mem_toFinset.mp hkey))
  · -- A session without feedback has no rows to count.
    have hnone : store.feedback.get? key = none :=
      Dict.get?_eq_none.mpr fun hmem => hkey (List.mem_toFinset.mpr hmem)
    unfold feedbackOf
    rw [hnone]
    rfl

omit [CaptureKey] in
theorem History.length {rows : List FeedbackRow} {revisions : List Labelled} (h : History key rows revisions) :
    (if revisionRows key 1 none revisions = [] then 0 else (revisionRows key 1 none revisions).length + 1)
      = rows.length := by
  cases h with
  | empty => rfl
  | @anchored front labelled anchorAt _ hchain hanchor hlength hrows hids =>
    have hne : revisionRows key 1 none (front ++ [labelled]) ≠ [] := by
      rw [← List.length_pos_iff_ne_nil, length_revisionRows, List.length_append, List.length_singleton]
      exact Nat.succ_pos _
    rw [if_neg hne, hrows, List.length_append, List.length_singleton]

/-- A store in which the invariant holds can be opened. -/
theorem Invariant.verifyAllState (h : Invariant store) (verified : Dict SessionKey CaptureHead) :
    verifyAllState ⟨store, verified⟩ = .ok () ⟨store, verified⟩ := by
  have hsession : ∀ entry ∈ store.sessions.items,
      verifySession entry ⟨store, verified⟩ = .ok (store.feedbackOf entry.1).length ⟨store, verified⟩ := by
    rintro ⟨key, row⟩ hentry
    obtain ⟨connection, hconnection, hsound⟩ := h.sound.rows key row (Dict.get?_eq_some.mpr hentry)
    obtain ⟨revisions, hhistory⟩ := h.histories key
    unfold verifySession
    refine connectionRow_bind_eq_ok.mpr ⟨connection, hconnection, ?_⟩
    refine Stateful.check_bind_eq_ok.mpr ⟨hsound.verifyChain fun hpending => (by cases hpending), ?_⟩
    rw [Stateful.get_bind]
    refine Stateful.lift_bind_eq_ok.mpr ⟨_, hhistory.verified, ?_⟩
    rw [hhistory.length]
    rfl
  unfold CaptureStore.verifyAllState
  rw [Stateful.get_bind, Stateful.bind_of_ok (mapM_eq_ok hsession)]
  refine Stateful.lift_eq_ok.mpr ⟨raiseIf_eq_ok.mpr (not_not.mpr ?_), rfl⟩
  exact sum_feedback h.labelled

/-- In every state of a store that was created empty, the store can be opened; every session is intact and its chains are
accepted; and no step takes a session out of quarantine, except to delete it, or gives it back its coverage. -/
theorem reached_intact (h : Reached store) :
    (∀ verified, verifyAllState ⟨store, verified⟩ = .ok () ⟨store, verified⟩) ∧
      ∀ key row, store.sessions.get? key = some row → ∃ connection, store.connections.get? key.1 = some connection
        ∧ SessionIntact connection.profile key row ∧ verifyChain connection.profile.isTransport key row = .ok ()
        ∧ ∀ next later, Step store next → next.sessions.get? key = some later →
          (row.session.state = .quarantined → later.session.state = .quarantined ∨ later.session.state = .deleting)
            ∧ (row.session.coverageDegraded = true → later.session.coverageDegraded = true) := by
  have hinvariant := h.invariant
  refine ⟨hinvariant.verifyAllState, fun key row hrow => ?_⟩
  obtain ⟨connection, hconnection, hsound⟩ := hinvariant.sound.rows key row hrow
  refine ⟨connection, hconnection, ?_, hsound.verifyChain fun hpending => (by cases hpending), fun next later hstep hlater => ?_⟩
  · exact RowSound.intact hsound fun hprofile => hinvariant.modern key row connection hrow hconnection hprofile
  · rcases hstep.stepped.later hrow with hgone | ⟨found, hfound, hkept⟩
    · cases hgone.symm.trans hlater
    · cases hfound.symm.trans hlater
      exact ⟨hkept.quarantined, hkept.degraded⟩

end

section

attribute [local instance] localKey localTags

/-- The session that a bridge transported is intact. -/
theorem reached_intact_transported : ∃ (row : StoredSession) (connection : CaptureConnection),
    transported.sessions.get? firstIntake.session = some row
      ∧ SessionIntact connection.profile firstIntake.session row
      ∧ verifyChain connection.profile.isTransport firstIntake.session row = .ok () := by
  have hthere : (transported.sessions.get? firstIntake.session).isSome = true := by decide +kernel
  obtain ⟨row, hrow⟩ := Option.isSome_iff_exists.mp hthere
  obtain ⟨connection, -, hintact, hchain, -⟩ := (reached_intact reached_transported).2 _ row hrow
  exact ⟨row, connection, hrow, hintact, hchain⟩

end

end CaptureStore

end SalienceGate
