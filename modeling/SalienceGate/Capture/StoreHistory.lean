import SalienceGate.Capture.StoreWrites
import Mathlib.Data.List.Chain
import Mathlib.Data.List.Sort

/-!
# The history of a session's feedback

The feedback rows of a session are those of a list of labels with their times, and an anchor. Each recording adds a label
at the end of the list, or leaves it, and the rows of a history are always accepted.
-/

namespace SalienceGate

open Stateful

namespace CaptureStore

/-- A label of a history, with its time. -/
abbrev Labelled := CaptureFeedbackLabel × Datetime

/-- A label is revised by another one, later. -/
def Revised (earlier later : Labelled) : Prop := earlier.2 < later.2 ∧ earlier.1 ≠ later.1

variable [CaptureTags] {key : SessionKey} {revisions : List Labelled} {rows : List FeedbackRow}

/-! ## The rows of a history -/

/-- The row of a revision. -/
def revisionRow (key : SessionKey) (revision : ℕ) (previous : Option String) (labelled : Labelled) : FeedbackRow where
  labelId := CaptureTags.feedbackId key revision previous labelled.1 labelled.2.offsetText
  label := labelled.1
  createdAt := labelled.2.offsetText

/-- The rows of revisions, from a number on and behind a row. -/
def revisionRows (key : SessionKey) : ℕ → Option String → List Labelled → List FeedbackRow
  | _, _, [] => []
  | revision, previous, labelled :: rest =>
    revisionRow key revision previous labelled
      :: revisionRows key (revision + 1) (some (revisionRow key revision previous labelled).labelId) rest

/-- The id of the last row, or that of the row before the first. -/
def lastId (rows : List FeedbackRow) (previous : Option String) : Option String :=
  (rows.getLast?.map FeedbackRow.labelId).or previous

/-- The row of an anchor. -/
def anchorRow (key : SessionKey) (count : ℕ) (head : FeedbackRow) (anchorAt : Datetime) : FeedbackRow where
  labelId := CaptureTags.feedbackAnchorId key count head.labelId head.label anchorAt.offsetText
  label := head.label
  createdAt := anchorAt.offsetText

@[simp] theorem length_revisionRows (revision : ℕ) (previous : Option String) (revisions : List Labelled) :
    (revisionRows key revision previous revisions).length = revisions.length := by
  induction revisions generalizing revision previous with
  | nil => rfl
  | cons labelled rest ih => rw [revisionRows, List.length_cons, List.length_cons, ih]

/-- Another revision has the row behind the others. -/
theorem revisionRows_concat (revision : ℕ) (previous : Option String) (revisions : List Labelled) (labelled : Labelled) :
    revisionRows key revision previous (revisions ++ [labelled]) = revisionRows key revision previous revisions
      ++ [revisionRow key (revision + revisions.length)
        (lastId (revisionRows key revision previous revisions) previous) labelled] := by
  induction revisions generalizing revision previous with
  | nil => rfl
  | cons first rest ih =>
    rw [List.cons_append, revisionRows, ih, revisionRows, List.cons_append, List.length_cons]
    have hlast : lastId (revisionRow key revision previous first :: revisionRows key (revision + 1)
          (some (revisionRow key revision previous first).labelId) rest) previous
        = lastId (revisionRows key (revision + 1) (some (revisionRow key revision previous first).labelId) rest)
          (some (revisionRow key revision previous first).labelId) := by
      unfold lastId
      rw [List.getLast?_cons]
      cases (revisionRows key (revision + 1) (some (revisionRow key revision previous first).labelId) rest).getLast? <;> rfl
    have hrevision : revision + 1 + rest.length = revision + (rest.length + 1) := by omega
    rw [hlast, hrevision]

/-- Every row is that of a label of the history. -/
theorem mem_revisionRows {row : FeedbackRow} {revision : ℕ} {previous : Option String}
    (h : row ∈ revisionRows key revision previous revisions) :
    ∃ labelled ∈ revisions, row.label = labelled.1 ∧ row.createdAt = labelled.2.offsetText := by
  induction revisions generalizing revision previous with
  | nil => exact absurd h List.not_mem_nil
  | cons first rest ih =>
    rcases List.mem_cons.mp h with rfl | hrest
    · exact ⟨first, List.mem_cons_self, rfl, rfl⟩
    · obtain ⟨labelled, hlabelled, hrow⟩ := ih hrest
      exact ⟨labelled, List.mem_cons_of_mem first hlabelled, hrow⟩

/-- The labels and texts of the rows are those of the history, in order. -/
theorem map_revisionRows (revision : ℕ) (previous : Option String) (revisions : List Labelled) :
    (revisionRows key revision previous revisions).map (fun row => (row.label, row.createdAt))
      = revisions.map fun labelled => (labelled.1, labelled.2.offsetText) := by
  induction revisions generalizing revision previous with
  | nil => rfl
  | cons first rest ih =>
    rw [revisionRows, List.map_cons, List.map_cons, ih]
    rfl

/-- The feedback rows of a session, of a list of labels with their times. -/
inductive History (key : SessionKey) : List FeedbackRow → List Labelled → Prop
  | empty : History key [] []
  | anchored {front : List Labelled} {labelled : Labelled} {anchorAt : Datetime} {rows : List FeedbackRow}
      (hchain : (front ++ [labelled]).IsChain Revised) (hanchor : labelled.2 < anchorAt)
      (hlength : front.length < maxCaptureFeedbackRevisionsPerSession)
      (hrows : rows = revisionRows key 1 none (front ++ [labelled]) ++ [anchorRow key (front.length + 1)
        (revisionRow key (front.length + 1) (lastId (revisionRows key 1 none front) none) labelled) anchorAt])
      (hids : (rows.map FeedbackRow.labelId).Nodup) : History key rows (front ++ [labelled])

/-! ## Verification -/

omit [CaptureTags] in
theorem storedTimestamp_offsetText (t : Datetime) : storedTimestamp t.offsetText = .ok t := by
  unfold storedTimestamp
  rw [Datetime.ofOffsetText_offsetText]
  rfl

omit [CaptureTags] in
/-- The times of a history increase. -/
theorem pairwise_of_isChain (h : revisions.IsChain Revised) : revisions.Pairwise fun a b => a.2 < b.2 := by
  have hchain : revisions.IsChain fun a b : Labelled => a.2 < b.2 := h.imp fun _ _ hrevised => hrevised.1
  have : Trans (fun a b : Labelled => a.2 < b.2) (fun a b : Labelled => a.2 < b.2) (fun a b : Labelled => a.2 < b.2) :=
    ⟨fun hab hbc => lt_trans hab hbc⟩
  exact List.isChain_iff_pairwise.mp hchain

omit [CaptureTags] in
/-- Rows in the order of their times are in their order. -/
theorem mergeSort_feedbackBefore (h : rows.Pairwise fun a b => a.createdAt < b.createdAt) :
    rows.mergeSort feedbackBefore = rows := by
  refine List.mergeSort_of_pairwise (h.imp fun hlt => ?_)
  exact decide_eq_true (.inl hlt)

/-- Each label of a history is revised by the next one. -/
theorem History.isChain (h : History key rows revisions) : revisions.IsChain Revised := by
  cases h with
  | empty => exact List.isChain_nil
  | anchored hchain _ _ _ _ => exact hchain

/-- The rows of a history and its anchor are in the order of their times. -/
theorem History.pairwise (h : History key rows revisions) : rows.Pairwise fun a b => a.createdAt < b.createdAt := by
  cases h with
  | empty => exact List.Pairwise.nil
  | @anchored front labelled anchorAt _ hchain hanchor hlength hrows hids =>
    have htimes := pairwise_of_isChain hchain
    have hlast : ∀ other ∈ front ++ [labelled], other.2 < anchorAt := by
      intro other hother
      rcases List.mem_append.mp hother with hfront | hlabelled
      · exact lt_trans ((List.pairwise_append.mp htimes).2.2 other hfront labelled List.mem_cons_self) hanchor
      · rw [List.mem_singleton.mp hlabelled]
        exact hanchor
    rw [hrows, List.pairwise_append]
    refine ⟨?_, List.pairwise_singleton _ _, ?_⟩
    · have hmap : ((revisionRows key 1 none (front ++ [labelled])).map fun row => (row.label, row.createdAt)).Pairwise
          fun a b => a.2 < b.2 := by
        rw [map_revisionRows, List.pairwise_map]
        exact htimes.imp fun hlt => Datetime.offsetText_lt.mpr hlt
      exact (List.pairwise_map.mp hmap).imp fun hlt => hlt
    · intro row hrow anchor hanchored
      obtain ⟨other, hother, -, hcreated⟩ := mem_revisionRows hrow
      rw [List.mem_singleton.mp hanchored, hcreated]
      exact Datetime.offsetText_lt.mpr (hlast other hother)

/-- What the loop reads after rows is read from where it was with these. -/
theorem verifyRevisions_concat {revision : ℕ} {previous : Option (FeedbackRow × Datetime)} {row : FeedbackRow} :
    verifyRevisions key revision previous (rows ++ [row]) = (do
      let last ← verifyRevisions key revision previous rows
      verifyRevisions key (revision + rows.length) last [row]) := by
  induction rows generalizing revision previous with
  | nil => rfl
  | cons first rest ih =>
    have hrevision : revision + 1 + rest.length = revision + (first :: rest).length := by
      rw [List.length_cons]
      omega
    rw [List.cons_append, verifyRevisions, verifyRevisions]
    simp only [ih, hrevision, bind_assoc]

/-- The last row of a history, with its time. -/
def lastRevision (key : SessionKey) (revisions : List Labelled) : Option (FeedbackRow × Datetime) :=
  revisions.getLast?.map fun labelled =>
    (revisionRow key revisions.length (lastId (revisionRows key 1 none revisions.dropLast) none) labelled, labelled.2)

theorem lastRevision_concat {labelled : Labelled} : lastRevision key (revisions ++ [labelled])
    = some (revisionRow key (revisions.length + 1) (lastId (revisionRows key 1 none revisions) none) labelled,
      labelled.2) := by
  unfold lastRevision
  rw [List.getLast?_concat, Option.map_some, List.length_append, List.length_singleton, List.dropLast_concat]

/-- The last row of a history is the last of its rows. -/
theorem map_lastRevision : (lastRevision key revisions).map (fun last => last.1.labelId)
    = lastId (revisionRows key 1 none revisions) none := by
  rcases revisions.eq_nil_or_concat' with rfl | ⟨front, labelled, rfl⟩
  · rfl
  · rw [lastRevision_concat, revisionRows_concat]
    unfold lastId
    rw [List.getLast?_concat, Nat.add_comm front.length 1]
    rfl

/-- The loop accepts the rows of a history, and ends with the last one. -/
theorem verifyRevisions_revisionRows (hchain : revisions.IsChain Revised) :
    verifyRevisions key 1 none (revisionRows key 1 none revisions) = .ok (lastRevision key revisions) := by
  induction revisions using List.reverseRecOn with
  | nil => rfl
  | append_singleton front labelled ih =>
    have hlater : ∀ before ∈ lastRevision key front, Revised (before.1.label, before.2) labelled := by
      intro before hbefore
      obtain ⟨last, hlast, rfl⟩ := Option.map_eq_some_iff.mp hbefore
      exact (List.isChain_append.mp hchain).2.2 last hlast labelled rfl
    have hguard : ¬((∃ before ∈ lastRevision key front, labelled.2 ≤ before.2)
        ∨ ∃ before ∈ lastRevision key front, labelled.1 = before.1.label) := by
      rintro (⟨before, hbefore, hle⟩ | ⟨before, hbefore, hsame⟩)
      · exact absurd (hlater before hbefore).1 (not_lt.mpr hle)
      · exact (hlater before hbefore).2 hsame.symm
    rw [revisionRows_concat, verifyRevisions_concat, ih hchain.left_of_append, lastRevision_concat, length_revisionRows]
    show verifyRevisions key (1 + front.length) (lastRevision key front) [_] = _
    rw [verifyRevisions, Nat.add_comm 1 front.length]
    refine Checked.bind_eq_ok.mpr ⟨labelled.2, storedTimestamp_offsetText labelled.2, ?_⟩
    refine Checked.raiseIf_bind_eq_ok.mpr ⟨hguard, Checked.raiseIf_bind_eq_ok.mpr ⟨?_, rfl⟩⟩
    rw [not_not, map_lastRevision]
    rfl

/-- The rows of a history are accepted, and its revisions are read back. -/
theorem History.verified (h : History key rows revisions) :
    verifiedFeedbackRows key rows = .ok (revisionRows key 1 none revisions) := by
  unfold verifiedFeedbackRows
  rw [mergeSort_feedbackBefore h.pairwise]
  cases h with
  | empty => rfl
  | @anchored front labelled anchorAt _ hchain hanchor hlength hrows hids =>
    dsimp only
    have hcount : rows.length = front.length + 2 := by
      rw [hrows, List.length_append, length_revisionRows, List.length_append]
      rfl
    rw [hcount, hrows, List.getLast?_concat, List.dropLast_concat, length_revisionRows, List.length_append]
    dsimp only
    refine Checked.raiseIf_bind_eq_ok.mpr ⟨not_not.mpr ⟨by omega, by omega⟩, ?_⟩
    refine Checked.bind_eq_ok.mpr ⟨_, verifyRevisions_revisionRows hchain, ?_⟩
    rw [lastRevision_concat]
    refine Checked.expect_bind_eq_ok.mpr ⟨_, rfl, ?_⟩
    dsimp only
    refine Checked.bind_eq_ok.mpr ⟨anchorAt, storedTimestamp_offsetText anchorAt, ?_⟩
    refine Checked.raiseIf_bind_eq_ok.mpr ⟨?_, rfl⟩
    rintro (hlabel | hle | hid)
    · exact hlabel rfl
    · exact absurd hanchor (not_lt.mpr hle)
    · exact hid rfl

/-! ## Recording -/

section

variable {store next last : CaptureStore} {other : SessionKey} {t u : CaptureTransaction} {row : FeedbackRow}

omit [CaptureTags]

@[simp] theorem feedbackOf_putFeedback : (store.putFeedback key rows).feedbackOf key = rows := by
  unfold feedbackOf putFeedback
  rw [Dict.get?_set_self, Option.getD_some]

/-- Only the feedback of one session changes. -/
structure FeedbackOnly (key : SessionKey) (store next : CaptureStore) : Prop where
  connections : next.connections = store.connections
  sessions : next.sessions = store.sessions
  tombstones : next.tombstones = store.tombstones
  others : ∀ other, other ≠ key → next.feedback.get? other = store.feedback.get? other

theorem FeedbackOnly.refl : FeedbackOnly key store store := ⟨rfl, rfl, rfl, fun _ _ => rfl⟩

theorem FeedbackOnly.trans (h : FeedbackOnly key store next) (h' : FeedbackOnly key next last) :
    FeedbackOnly key store last where
  connections := h'.connections.trans h.connections
  sessions := h'.sessions.trans h.sessions
  tombstones := h'.tombstones.trans h.tombstones
  others other hne := (h'.others other hne).trans (h.others other hne)

theorem feedbackOnly_putFeedback : FeedbackOnly key store (store.putFeedback key rows) :=
  ⟨rfl, rfl, rfl, fun _ hne => Dict.get?_set_of_ne hne⟩

theorem mem_feedback_values (h : row ∈ store.feedbackOf key) : ∃ rows ∈ store.feedback.values, row ∈ rows := by
  unfold feedbackOf at h
  cases hrows : store.feedback.get? key with
  | none =>
    rw [hrows] at h
    exact absurd h List.not_mem_nil
  | some rows =>
    rw [hrows] at h
    exact ⟨rows, Dict.mem_values.mpr ⟨key, hrows⟩, h⟩

theorem insertFeedback_eq_ok (h : insertFeedback key row t = .ok () u) :
    (∀ before ∈ t.store.feedbackOf key, before.labelId ≠ row.labelId)
      ∧ u = { t with store := t.store.putFeedback key (t.store.feedbackOf key ++ [row]) } := by
  unfold insertFeedback at h
  rw [get_bind] at h
  obtain ⟨hfresh, hmodify⟩ := raiseIf_bind_eq_ok.mp h
  cases hmodify
  refine ⟨fun before hbefore hsame => ?_, rfl⟩
  obtain ⟨found, hfound, hmem⟩ := mem_feedback_values hbefore
  exact hfresh ⟨found, hfound, before, hmem, hsame⟩

end

section

variable {t u : CaptureTransaction} {label : CaptureFeedbackLabel} {timestamp closedAt now : Datetime}
  {receipt : CaptureFeedbackReceipt}

/-- A revision is recorded behind the rows of a history without its anchor, and the new anchor behind it. -/
theorem addRevision_eq_ok
    (h : addRevision key (revisionRows key 1 none revisions) label timestamp t = .ok receipt u)
    (hstored : t.store.feedbackOf key = revisionRows key 1 none revisions)
    (hids : ((revisionRows key 1 none revisions).map FeedbackRow.labelId).Nodup)
    (hchain : (revisions ++ [(label, timestamp)]).IsChain Revised)
    (hlength : revisions.length < maxCaptureFeedbackRevisionsPerSession) :
    History key (u.store.feedbackOf key) (revisions ++ [(label, timestamp)])
      ∧ receipt = ⟨label, if revisions.length + 1 = 1 then .recorded else .changed, revisions.length + 1, timestamp⟩ := by
  unfold addRevision at h
  rw [length_revisionRows] at h
  obtain ⟨⟨⟩, v, hinsert, h⟩ := bind_eq_ok.mp h
  obtain ⟨hfresh, rfl⟩ := insertFeedback_eq_ok hinsert
  unfold microsecondAfter at h
  rw [expect_bind_eq_ok] at h
  obtain ⟨anchorAt, hnext, h⟩ := h
  obtain ⟨⟨⟩, w, hinsert', hpure⟩ := bind_eq_ok.mp h
  obtain ⟨hfresh', rfl⟩ := insertFeedback_eq_ok hinsert'
  cases hpure
  rw [hstored] at hfresh
  simp only [feedbackOf_putFeedback, hstored] at hfresh'
  have hrow : (⟨CaptureTags.feedbackId key (revisions.length + 1)
        ((revisionRows key 1 none revisions).getLast?.map FeedbackRow.labelId) label timestamp.offsetText, label,
        timestamp.offsetText⟩ : FeedbackRow)
      = revisionRow key (revisions.length + 1) (lastId (revisionRows key 1 none revisions) none) (label, timestamp) := by
    unfold revisionRow lastId
    rw [Option.or_none]
  refine ⟨?_, rfl⟩
  rw [feedbackOf_putFeedback, feedbackOf_putFeedback, hstored]
  rw [hrow] at hfresh hfresh' ⊢
  refine .anchored hchain (Datetime.lt_next hnext) hlength ?_ ?_
  · rw [revisionRows_concat, Nat.add_comm 1 revisions.length]
    unfold anchorRow revisionRow lastId
    rw [Option.or_none]
  · rw [List.map_append, List.map_append, List.nodup_append, List.nodup_append]
    refine ⟨⟨hids, List.nodup_singleton _, ?_⟩, List.nodup_singleton _, ?_⟩
    · intro id hid other hother hsame
      obtain ⟨before, hbefore, rfl⟩ := List.mem_map.mp hid
      rw [List.map_singleton, List.mem_singleton] at hother
      exact hfresh before hbefore (hsame.trans hother)
    · intro id hid other hother hsame
      rw [← List.map_append] at hid
      obtain ⟨before, hbefore, rfl⟩ := List.mem_map.mp hid
      rw [List.map_singleton, List.mem_singleton] at hother
      exact hfresh' before hbefore (hsame.trans hother)

omit [CaptureTags] in
theorem deleteAnchor_only {previous : Datetime} (h : deleteAnchor key t = .ok previous u) :
    FeedbackOnly key t.store u.store := by
  unfold deleteAnchor at h
  rw [get_bind] at h
  obtain ⟨anchor, -, h⟩ := lift_bind_eq_ok.mp h
  obtain ⟨createdAt, -, h⟩ := lift_bind_eq_ok.mp h
  obtain ⟨-, h⟩ := raiseIf_bind_eq_ok.mp h
  cases h
  exact feedbackOnly_putFeedback

/-- The anchor of a history is deleted, and no other row. -/
theorem deleteAnchor_eq_ok {previous : Datetime} (h : deleteAnchor key t = .ok previous u)
    (hhistory : History key (t.store.feedbackOf key) revisions) :
    u.store.feedbackOf key = revisionRows key 1 none revisions
      ∧ ((revisionRows key 1 none revisions).map FeedbackRow.labelId).Nodup
      ∧ ∀ labelled ∈ revisions.getLast?, labelled.2 < previous := by
  unfold deleteAnchor at h
  rw [get_bind] at h
  rw [mergeSort_feedbackBefore hhistory.pairwise, expect_bind_eq_ok] at h
  obtain ⟨anchor, hanchor, h⟩ := h
  obtain ⟨createdAt, hcreated, h⟩ := lift_bind_eq_ok.mp h
  obtain ⟨-, h⟩ := raiseIf_bind_eq_ok.mp h
  cases h
  rw [feedbackOf_putFeedback]
  generalize t.store.feedbackOf key = rows at hhistory hanchor
  cases hhistory with
  | empty => cases hanchor
  | @anchored front labelled anchorAt _ hchain hlater hlength hrows hids =>
    rw [hrows, List.getLast?_concat] at hanchor
    cases hanchor
    rw [hrows, List.map_append, List.nodup_append] at hids
    have hkept : ∀ row ∈ revisionRows key 1 none (front ++ [labelled]), row.labelId ≠ (anchorRow key (front.length + 1)
        (revisionRow key (front.length + 1) (lastId (revisionRows key 1 none front) none) labelled) anchorAt).labelId :=
      fun row hrow => hids.2.2 _ (List.mem_map_of_mem hrow) _ (List.mem_singleton.mpr rfl)
    refine ⟨?_, hids.1, fun other hother => ?_⟩
    · rw [hrows, List.filter_append, List.filter_eq_self.mpr fun row hrow => decide_eq_true (hkept row hrow)]
      rw [List.filter_singleton]
      simp
    · rw [List.getLast?_concat] at hother
      cases hother
      cases hcreated.symm.trans (storedTimestamp_offsetText anchorAt)
      exact hlater

/-- What became of a label, by its receipt. -/
inductive Recorded (label : CaptureFeedbackLabel) (closedAt now : Datetime) (revisions : List Labelled) :
    CaptureFeedbackReceipt → List Labelled → Prop
  | unchanged {labeledAt : Datetime} (hlast : revisions.getLast? = some (label, labeledAt)) :
      Recorded label closedAt now revisions ⟨label, .unchanged, revisions.length, labeledAt⟩ revisions
  | revised {labeledAt : Datetime} (hnow : now ≤ labeledAt) (hclosed : revisions = [] → closedAt ≤ labeledAt) :
      Recorded label closedAt now revisions
        ⟨label, if revisions.length + 1 = 1 then .recorded else .changed, revisions.length + 1, labeledAt⟩
        (revisions ++ [(label, labeledAt)])

variable [CaptureKey] {projectDigest : Sha256Digest} {bound : CaptureConnection → Except CaptureStoreError Unit}

/-- The session of a history is as it is asked for, and its rows are verified. -/
theorem feedbackSession_eq_ok {allowed : CaptureSessionState → Bool}
    (h : feedbackSession key projectDigest allowed bound t = .ok rows u) :
    u = t ∧ verifiedFeedbackRows key (t.store.feedbackOf key) = .ok rows
      ∧ ∃ row, t.store.sessions.get? key = some row ∧ allowed row.session.state = true := by
  unfold feedbackSession at h
  rw [get_bind, expect_bind_eq_ok] at h
  obtain ⟨row, hrow, h⟩ := h
  obtain ⟨connection, -, h⟩ := connectionRow_bind_eq_ok.mp h
  obtain ⟨-, h⟩ := raiseIf_bind_eq_ok.mp h
  obtain ⟨hallowed, h⟩ := raiseIf_bind_eq_ok.mp h
  obtain ⟨-, h⟩ := check_bind_eq_ok.mp h
  obtain ⟨-, h⟩ := check_bind_eq_ok.mp h
  obtain ⟨hverified, rfl⟩ := lift_eq_ok.mp h
  rw [not_or] at hallowed
  exact ⟨rfl, hverified, row, hrow, Bool.eq_true_of_not_eq_false hallowed.2⟩

omit [CaptureKey] in
theorem addRevision_only {rows : List FeedbackRow} (h : addRevision key rows label timestamp t = .ok receipt u) :
    FeedbackOnly key t.store u.store := by
  unfold addRevision at h
  obtain ⟨⟨⟩, v, hinsert, h⟩ := bind_eq_ok.mp h
  obtain ⟨-, rfl⟩ := insertFeedback_eq_ok hinsert
  obtain ⟨anchorAt, -, h⟩ := lift_bind_eq_ok.mp h
  obtain ⟨⟨⟩, w, hinsert', hpure⟩ := bind_eq_ok.mp h
  obtain ⟨-, rfl⟩ := insertFeedback_eq_ok hinsert'
  cases hpure
  exact feedbackOnly_putFeedback.trans feedbackOnly_putFeedback

/-- A label is recorded of a closed session, and changes nothing but its feedback. -/
theorem recordFeedback_only (h : recordFeedback key label projectDigest bound closedAt now t = .ok receipt u) :
    FeedbackOnly key t.store u.store ∧ ∃ row, t.store.sessions.get? key = some row ∧ row.session.state = .closed := by
  unfold recordFeedback at h
  obtain ⟨rows, v, hsession, hbody⟩ := bind_eq_ok.mp h
  obtain ⟨rfl, -, row, hrow, hclosed⟩ := feedbackSession_eq_ok hsession
  refine ⟨?_, row, hrow, of_decide_eq_true hclosed⟩
  cases hlast : rows.getLast? with
  | none =>
    rw [hlast] at hbody
    exact addRevision_only hbody
  | some last =>
    rw [hlast] at hbody
    dsimp only at hbody
    split at hbody
    · obtain ⟨labeledAt, -, hpure⟩ := lift_bind_eq_ok.mp hbody
      cases hpure
      exact .refl
    · obtain ⟨-, hbody⟩ := raiseIf_bind_eq_ok.mp hbody
      obtain ⟨anchorAt, w, hdelete, hbody⟩ := bind_eq_ok.mp hbody
      obtain ⟨timestamp, x, htimestamp, hadd⟩ := bind_eq_ok.mp hbody
      have hsame : x = w := by
        split at htimestamp
        · exact (lift_eq_ok.mp htimestamp).2.symm
        · cases htimestamp
          rfl
      subst hsame
      exact (deleteAnchor_only hdelete).trans (addRevision_only hadd)

/-- A label that is recorded is the last of the history, unless it was before. -/
theorem recordFeedback_eq_ok (h : recordFeedback key label projectDigest bound closedAt now t = .ok receipt u)
    (hhistory : History key (t.store.feedbackOf key) revisions) :
    ∃ later, History key (u.store.feedbackOf key) later ∧ Recorded label closedAt now revisions receipt later := by
  unfold recordFeedback at h
  obtain ⟨rows, v, hsession, h⟩ := bind_eq_ok.mp h
  obtain ⟨rfl, hverified, -⟩ := feedbackSession_eq_ok hsession
  rw [hhistory.verified] at hverified
  cases hverified
  rcases revisions.eq_nil_or_concat' with rfl | ⟨front, previous, rfl⟩
  · have hempty : v.store.feedbackOf key = [] := by
      generalize v.store.feedbackOf key = rows at hhistory
      generalize hnone : ([] : List Labelled) = none at hhistory
      cases hhistory with
      | empty => rfl
      | anchored _ _ _ _ _ => exact absurd hnone.symm (List.append_ne_nil_of_right_ne_nil _ (List.cons_ne_nil _ _))
    have hadd : addRevision key (revisionRows key 1 none []) label (if now < closedAt then closedAt else now) v
        = .ok receipt u := h
    obtain ⟨hlater, rfl⟩ := addRevision_eq_ok hadd hempty List.nodup_nil (List.isChain_singleton _) (by decide)
    refine ⟨_, hlater, @Recorded.revised label closedAt now [] _ ?_ fun _ => ?_⟩
    · split
      · next hlt => exact hlt.le
      · exact le_rfl
    · split
      · exact le_rfl
      · next hnot => exact not_lt.mp hnot
  · have hlast : (revisionRows key 1 none (front ++ [previous])).getLast?
        = some (revisionRow key (1 + front.length) (lastId (revisionRows key 1 none front) none) previous) := by
      rw [revisionRows_concat, List.getLast?_concat]
    rw [hlast] at h
    dsimp only at h
    split at h
    · next hsame =>
      obtain ⟨labeledAt, hlabeled, hpure⟩ := lift_bind_eq_ok.mp h
      cases hpure
      cases hlabeled.symm.trans (storedTimestamp_offsetText previous.2)
      refine ⟨_, hhistory, ?_⟩
      rw [length_revisionRows]
      refine .unchanged ?_
      rw [List.getLast?_concat]
      exact congrArg some (Prod.ext hsame rfl)
    · next hother =>
      obtain ⟨hroom, h⟩ := raiseIf_bind_eq_ok.mp h
      rw [length_revisionRows] at hroom
      obtain ⟨anchorAt, w, hdelete, h⟩ := bind_eq_ok.mp h
      obtain ⟨hkept, hids, hbefore⟩ := deleteAnchor_eq_ok hdelete hhistory
      obtain ⟨timestamp, x, htimestamp, hadd⟩ := bind_eq_ok.mp h
      -- The time is after that of the anchor, and not before what the clock says.
      have htimes : x = w ∧ anchorAt < timestamp ∧ now ≤ timestamp := by
        split at htimestamp
        · next hle =>
          unfold microsecondAfter at htimestamp
          obtain ⟨hnext, rfl⟩ := lift_eq_ok.mp htimestamp
          have hlater := Datetime.lt_next (Checked.expect_eq_ok.mp hnext)
          exact ⟨rfl, hlater, hle.trans hlater.le⟩
        · next hlt =>
          cases htimestamp
          exact ⟨rfl, not_le.mp hlt, le_rfl⟩
      obtain ⟨rfl, hlater, hnow⟩ := htimes
      have hchain : (front ++ [previous] ++ [(label, timestamp)]).IsChain Revised := by
        refine List.isChain_append.mpr ⟨hhistory.isChain, List.isChain_singleton _, ?_⟩
        intro before hmem after hafter
        cases hafter
        have hprevious := hbefore before hmem
        rw [List.getLast?_concat] at hmem
        cases hmem
        exact ⟨hprevious.trans hlater, hother⟩
      obtain ⟨hhistory', rfl⟩ := addRevision_eq_ok hadd hkept hids hchain (not_le.mp hroom)
      refine ⟨_, hhistory', .revised hnow fun hnil => ?_⟩
      exact absurd hnil (List.append_ne_nil_of_right_ne_nil _ (List.cons_ne_nil _ _))

end

end CaptureStore

end SalienceGate
