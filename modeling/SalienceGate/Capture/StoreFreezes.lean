import SalienceGate.Lib.Reading
import SalienceGate.Capture.StoreIntegrity
import Mathlib.Data.List.Forall2

/-!
# Feedback before a freeze

The revisions that calls of `record_feedback` add to a history are later than its last one, and not before what the clock
said. So what `list_feedback` reads before a time stays as it is, once no clock is before that time.
-/

namespace SalienceGate

open Stateful

namespace CaptureStore

section

variable [CaptureKey] [CaptureTags]

variable {store next : CaptureStore} {verified : Dict SessionKey CaptureHead} {key other : SessionKey}
  {freeze : Datetime} {revisions before later : List Labelled} {rows : List FeedbackRow}
  {bound : CaptureConnection → Except CaptureStoreError Unit} {projectDigest : Option Sha256Digest} {limit : ℕ}

/-! ## Calls -/

/-- A call of `record_feedback`, in a process that verified the given heads before. `now` is what its clock says. -/
structure FeedbackCall where
  verified : Dict SessionKey CaptureHead
  key : SessionKey
  label : CaptureFeedbackLabel
  projectDigest : Sha256Digest
  bound : CaptureConnection → Except CaptureStoreError Unit
  now : Datetime

/-- A call, with the times at which the sessions were closed. -/
def FeedbackCall.run (closedAt : SessionKey → Datetime) (call : FeedbackCall) (store : CaptureStore) :
    Except CaptureStoreError CaptureFeedbackReceipt × CaptureStore :=
  commit (recordFeedback call.key call.label call.projectDigest call.bound (closedAt call.key) call.now)
    (fun _ => true) call.verified store

/-- The revision of a session that a call recorded, by its receipt. -/
def FeedbackCall.recorded (call : FeedbackCall) (key : SessionKey) :
    Except CaptureStoreError CaptureFeedbackReceipt → List Labelled
  | .ok receipt =>
    if call.key = key ∧ receipt.disposition ≠ .unchanged then [(receipt.label, receipt.labeledAt)] else []
  | .error _ => []

/-- The revisions of a session that calls recorded, one call after the other, and the store that they leave. -/
def runCalls (closedAt : SessionKey → Datetime) (key : SessionKey) :
    List FeedbackCall → CaptureStore → List Labelled × CaptureStore
  | [], store => ([], store)
  | call :: rest, store =>
    let ended := call.run closedAt store
    let others := runCalls closedAt key rest ended.2
    (call.recorded key ended.1 ++ others.1, others.2)

/-- What `list_feedback` returns or raises before a freeze: it writes nothing. -/
def listed (projectDigest : Option Sha256Digest) (freeze : Datetime) (limit : ℕ)
    (bound : CaptureConnection → Except CaptureStoreError Unit) (verified : Dict SessionKey CaptureHead)
    (store : CaptureStore) : Except CaptureStoreError (List CaptureFeedbackRecord) :=
  (commit (listFeedback projectDigest (some freeze) limit bound) (fun _ => false) verified store).1

/-! ## What is read -/

/-- The verified rows of a session are those of revisions, in their order. -/
def Revisions (store : CaptureStore) (key : SessionKey) (revisions : List Labelled) : Prop :=
  ∃ rows, verifiedFeedbackRows key (store.feedbackOf key) = .ok rows
    ∧ rows.map (fun row => (row.label, storedTimestamp row.createdAt))
      = revisions.map fun labelled => (labelled.1, .ok labelled.2)

/-- The texts of the times of rows, and of any freeze, are in the order of the times. -/
def TextsOrdered (rows : List FeedbackRow) : Prop :=
  ∀ row ∈ rows, ∃ createdAt, storedTimestamp row.createdAt = .ok createdAt
    ∧ (∀ freeze : Datetime, row.createdAt < freeze.offsetText ↔ createdAt < freeze)
    ∧ ∀ other ∈ rows, ∀ otherAt, storedTimestamp other.createdAt = .ok otherAt →
      (row.createdAt < other.createdAt ↔ createdAt < otherAt)

/-- The record of a session is that of its last revision before a freeze. -/
def LastBefore (store : CaptureStore) (freeze : Datetime) (key : SessionKey) (record : CaptureFeedbackRecord) : Prop :=
  ∃ front latest later, Revisions store key (front ++ latest :: later)
    ∧ (∀ labelled ∈ front ++ [latest], labelled.2 < freeze) ∧ (∀ labelled ∈ later, freeze ≤ labelled.2)
    ∧ record.sessionId = key.2 ∧ record.label = latest.1 ∧ record.labeledAt = latest.2
    ∧ record.revisionCount = front.length + 1

/-- A list of feedback before a freeze: what it has, when it is returned, and which calls leave it as it is. -/
structure Frozen (closedAt : SessionKey → Datetime) (store : CaptureStore) (projectDigest : Option Sha256Digest)
    (freeze : Datetime) (limit : ℕ) (bound : CaptureConnection → Except CaptureStoreError Unit)
    (verified : Dict SessionKey CaptureHead) : Prop where
  sessions : ∀ key, key ∈ store.feedbackSessions projectDigest (some freeze) ↔
    (∃ connection, store.connections.get? key.1 = some connection
      ∧ ∀ digest ∈ projectDigest, connection.projectDigest = digest)
    ∧ key ∈ store.sessions ∧ ∃ revisions, Revisions store key revisions ∧ ∃ labelled ∈ revisions, labelled.2 < freeze
  latest : ∀ records, listed projectDigest freeze limit bound verified store = .ok records →
    List.Forall₂ (LastBefore store freeze) (store.feedbackSessions projectDigest (some freeze)) records
  returns : (∃ records, listed projectDigest freeze limit bound verified store = .ok records) ↔
    (1 ≤ limit ∧ limit ≤ maxCaptureQueryResults)
    ∧ (store.feedbackSessions projectDigest (some freeze)).length ≤ limit
    ∧ ∀ key ∈ store.feedbackSessions projectDigest (some freeze), ∀ connection row,
      store.connections.get? key.1 = some connection → store.sessions.get? key = some row →
        connection.state ≠ .deleting ∧ row.session.state ≠ .deleting ∧ bound connection = .ok ()
  stable : ∀ calls : List FeedbackCall, (∀ call ∈ calls, freeze ≤ call.now) → ∀ key,
    listed projectDigest freeze limit bound verified (runCalls closedAt key calls store).2
      = listed projectDigest freeze limit bound verified store

/-! ## The revisions before a time -/

omit [CaptureKey] [CaptureTags] in
/-- The revisions of a history before a time are the first ones. -/
theorem exists_before (h : revisions.IsChain Revised) (freeze : Datetime) : ∃ before later,
    revisions = before ++ later ∧ (∀ labelled ∈ before, labelled.2 < freeze) ∧ ∀ labelled ∈ later, freeze ≤ labelled.2 := by
  have htimes := pairwise_of_isChain h
  clear h
  induction revisions with
  | nil => exact ⟨[], [], rfl, fun _ hmem => absurd hmem List.not_mem_nil, fun _ hmem => absurd hmem List.not_mem_nil⟩
  | cons first rest ih =>
    rw [List.pairwise_cons] at htimes
    by_cases hfirst : first.2 < freeze
    · obtain ⟨before, later, rfl, hbefore, hlater⟩ := ih htimes.2
      exact ⟨first :: before, later, rfl, List.forall_mem_cons.mpr ⟨hfirst, hbefore⟩, hlater⟩
    · rw [not_lt] at hfirst
      refine ⟨[], first :: rest, rfl, fun _ hmem => absurd hmem List.not_mem_nil, ?_⟩
      exact List.forall_mem_cons.mpr ⟨hfirst, fun labelled hmem => hfirst.trans (htimes.1 labelled hmem).le⟩

omit [CaptureKey] in
/-- The rows of a history whose times are before a freeze. -/
theorem selectRows_revisionRows {revision : ℕ} {previous : Option String}
    (hbefore : ∀ labelled ∈ before, labelled.2 < freeze) (hlater : ∀ labelled ∈ later, freeze ≤ labelled.2) :
    selectRows (some freeze) (revisionRows key revision previous (before ++ later))
      = .ok (revisionRows key revision previous before) := by
  induction before generalizing revision previous with
  | nil =>
    rw [List.nil_append, revisionRows]
    induction later generalizing revision previous with
    | nil => rfl
    | cons first rest ih =>
      have hfirst : ¬first.2 < freeze := not_lt.mpr (hlater first List.mem_cons_self)
      rw [revisionRows, selectRows]
      refine Checked.bind_eq_ok.mpr ⟨first.2, storedTimestamp_offsetText first.2, ?_⟩
      refine Checked.bind_eq_ok.mpr ⟨[], ih fun labelled hmem => hlater labelled (List.mem_cons_of_mem first hmem), ?_⟩
      rw [if_neg hfirst]
      rfl
  | cons first rest ih =>
    have hfirst : first.2 < freeze := hbefore first List.mem_cons_self
    rw [List.cons_append, revisionRows, selectRows, revisionRows]
    refine Checked.bind_eq_ok.mpr ⟨first.2, storedTimestamp_offsetText first.2, ?_⟩
    refine Checked.bind_eq_ok.mpr ⟨_, ih fun labelled hmem => hbefore labelled (List.mem_cons_of_mem first hmem), ?_⟩
    rw [if_pos hfirst]
    rfl

omit [CaptureKey] in
/-- Every label of a history has a row. -/
theorem exists_revisionRow (key : SessionKey) (revision : ℕ) (previous : Option String) {labelled : Labelled} (h : labelled ∈ revisions) :
    ∃ row ∈ revisionRows key revision previous revisions, row.createdAt = labelled.2.offsetText := by
  have hmem : (labelled.1, labelled.2.offsetText) ∈ (revisionRows key revision previous revisions).map
      fun row => (row.label, row.createdAt) := by
    rw [map_revisionRows]
    exact List.mem_map.mpr ⟨labelled, h, rfl⟩
  obtain ⟨row, hrow, hsame⟩ := List.mem_map.mp hmem
  exact ⟨row, hrow, congrArg Prod.snd hsame⟩

omit [CaptureKey] in
/-- A session has a row before a freeze exactly if it has a revision before it: the anchor is behind the last one. -/
theorem History.any_lt (h : History key rows revisions) :
    (∃ row ∈ rows, row.createdAt < freeze.offsetText) ↔ ∃ labelled ∈ revisions, labelled.2 < freeze := by
  cases h with
  | empty => simp
  | @anchored front labelled anchorAt _ hchain hanchor hlength hrows hids =>
    constructor
    · rintro ⟨row, hrow, hlt⟩
      rw [hrows] at hrow
      rcases List.mem_append.mp hrow with hrevision | hlast
      · obtain ⟨found, hfound, -, hcreated⟩ := mem_revisionRows hrevision
        rw [hcreated, Datetime.offsetText_lt] at hlt
        exact ⟨found, hfound, hlt⟩
      · rw [List.mem_singleton.mp hlast] at hlt
        exact ⟨labelled, List.mem_append_right _ (List.mem_singleton.mpr rfl),
          hanchor.trans (Datetime.offsetText_lt.mp hlt)⟩
    · rintro ⟨found, hfound, hlt⟩
      obtain ⟨row, hrow, hcreated⟩ := exists_revisionRow key 1 none hfound
      refine ⟨row, ?_, ?_⟩
      · rw [hrows]
        exact List.mem_append_left _ hrow
      · rw [hcreated]
        exact Datetime.offsetText_lt.mpr hlt

omit [CaptureKey] in
/-- The texts of the rows of a history are in the order of their times. -/
theorem History.textsOrdered (h : History key rows revisions) : TextsOrdered rows := by
  have htexts : ∀ row ∈ rows, ∃ createdAt : Datetime, row.createdAt = createdAt.offsetText := by
    intro row hrow
    cases h with
    | empty => exact absurd hrow List.not_mem_nil
    | @anchored front labelled anchorAt _ hchain hanchor hlength hrows hids =>
      rw [hrows] at hrow
      rcases List.mem_append.mp hrow with hrevision | hlast
      · obtain ⟨found, -, -, hcreated⟩ := mem_revisionRows hrevision
        exact ⟨found.2, hcreated⟩
      · rw [List.mem_singleton.mp hlast]
        exact ⟨anchorAt, rfl⟩
  intro row hrow
  obtain ⟨createdAt, hcreated⟩ := htexts row hrow
  rw [hcreated]
  refine ⟨createdAt, storedTimestamp_offsetText createdAt, fun freeze => Datetime.offsetText_lt, ?_⟩
  intro other hother otherAt hstored
  obtain ⟨time, htime⟩ := htexts other hother
  rw [htime, storedTimestamp_offsetText] at hstored
  cases hstored
  rw [htime]
  exact Datetime.offsetText_lt

omit [CaptureKey] in
/-- The revisions of a history are those of its verified rows. -/
theorem History.read (h : History key (store.feedbackOf key) revisions) : Revisions store key revisions := by
  refine ⟨_, h.verified, ?_⟩
  have hmap : (revisionRows key 1 none revisions).map _ = _ := map_revisionRows 1 none revisions
  have hread := congrArg (List.map fun pair : CaptureFeedbackLabel × String => (pair.1, storedTimestamp pair.2)) hmap
  rw [List.map_map, List.map_map] at hread
  refine hread.trans (List.map_congr_left fun labelled _ => ?_)
  rw [Function.comp_apply, storedTimestamp_offsetText]

omit [CaptureKey] in
/-- The revisions of a session are those of its history. -/
theorem History.eq_of_revisions (h : History key (store.feedbackOf key) before)
    (hrevisions : Revisions store key revisions) : revisions = before := by
  obtain ⟨rows, hrows, hmap⟩ := hrevisions
  obtain ⟨rows', hrows', hmap'⟩ := h.read
  cases hrows.symm.trans hrows'
  have hsame := hmap.symm.trans hmap'
  refine List.map_injective_iff.mpr (fun a b hab => ?_) hsame
  obtain ⟨hlabel, htime⟩ := Prod.ext_iff.mp hab
  exact Prod.ext hlabel (Except.ok.inj htime)

/-! ## The record of a session -/

/-- The record of a session with so many revisions, of the last one. -/
def recordOf (key : SessionKey) (connection : CaptureConnection) (revisionCount : ℕ) (label : CaptureFeedbackLabel)
    (labeledAt : Datetime) : CaptureFeedbackRecord :=
  let material : FeedbackRecordMaterial := {
    projectDigest := connection.projectDigest
    profileId := connection.profile
    sessionId := key.2
    humanId := CaptureTags.humanId key
    label
    revisionCount
    labeledAt }
  { material with recordTag := CaptureTags.feedbackRecordTag material }

/-- The record of rows that were selected. -/
def selectedRecord (key : SessionKey) (connection : CaptureConnection) (selected : List FeedbackRow) :
    Except CaptureStoreError CaptureFeedbackRecord := do
  let latest ← Checked.expect selected.getLast? .integrity
  let labeledAt ← storedTimestamp latest.createdAt
  pure (recordOf key connection selected.length latest.label labeledAt)

theorem reads_feedbackRecord : Reads (feedbackRecord (some freeze) bound key) := by
  unfold feedbackRecord connectionRow sessionRow
  refine .bind (.get_bind fun _ => reads_lift) fun connection => ?_
  refine .bind (.get_bind fun _ => reads_lift) fun stored => ?_
  refine reads_lift.bind fun _ => reads_lift.bind fun _ => reads_lift.bind fun _ => .get_bind fun _ => ?_
  exact reads_lift.bind fun _ => reads_lift.bind fun _ => reads_lift.bind fun _ => reads_lift.bind fun _ => reads_pure

/-- What the record of a session depends on. -/
theorem result_feedbackRecord : result (feedbackRecord (some freeze) bound key) ⟨store, verified⟩ = (do
    let connection ← Checked.expect (store.connections.get? key.1) .state
    let stored ← Checked.expect (store.sessions.get? key) .integrity
    Checked.raiseIf (connection.state = .deleting ∨ stored.session.state = .deleting) .state
    verifyChain connection.profile.isTransport key stored
    bound connection
    let selected ← verifiedFeedbackRows key (store.feedbackOf key) >>= selectRows (some freeze)
    selectedRecord key connection selected) := by
  unfold feedbackRecord connectionRow sessionRow
  rw [(Reads.get_bind fun _ => reads_lift).result_bind, result_get_bind, result_lift]
  refine congrArg _ (funext fun connection => ?_)
  rw [(Reads.get_bind fun _ => reads_lift).result_bind, result_get_bind, result_lift]
  refine congrArg _ (funext fun stored => ?_)
  rw [result_lift_bind]
  refine congrArg _ (funext fun _ => ?_)
  rw [result_lift_bind]
  refine congrArg _ (funext fun _ => ?_)
  rw [result_lift_bind]
  refine congrArg _ (funext fun _ => ?_)
  rw [result_get_bind, result_lift_bind, bind_assoc]
  refine congrArg _ (funext fun rows => ?_)
  rw [result_lift_bind]
  refine congrArg _ (funext fun selected => ?_)
  rw [result_lift_bind]
  refine congrArg _ (funext fun latest => ?_)
  rw [result_lift_bind]
  rfl

/-- What a list of feedback depends on. -/
theorem listed_eq : listed projectDigest freeze limit bound verified store = (do
    Checked.raiseIf (¬(1 ≤ limit ∧ limit ≤ maxCaptureQueryResults)) .state
    Checked.raiseIf (limit < (store.feedbackSessions projectDigest (some freeze)).length) .state
    (store.feedbackSessions projectDigest (some freeze)).mapM fun key =>
      result (feedbackRecord (some freeze) bound key) ⟨store, verified⟩) := by
  have hcommit : ∀ {α : Type} (x : StoreM α) (writes : α → Bool),
      (commit x writes verified store).1 = result x ⟨store, verified⟩ := by
    intro α x writes
    unfold commit result
    cases x ⟨store, verified⟩ <;> rfl
  unfold listed listFeedback
  rw [hcommit, result_lift_bind]
  refine congrArg _ (funext fun _ => ?_)
  rw [result_get_bind, result_lift_bind]
  refine congrArg _ (funext fun _ => ?_)
  exact result_mapM fun _ => reads_feedbackRecord

omit [CaptureKey] in
/-- The rows of a session whose times are before a freeze. -/
theorem History.selected (h : History key (store.feedbackOf key) (before ++ later))
    (hbefore : ∀ labelled ∈ before, labelled.2 < freeze) (hlater : ∀ labelled ∈ later, freeze ≤ labelled.2) :
    (verifiedFeedbackRows key (store.feedbackOf key) >>= selectRows (some freeze))
      = .ok (revisionRows key 1 none before) :=
  Checked.bind_eq_ok.mpr ⟨_, h.verified, selectRows_revisionRows hbefore hlater⟩

omit [CaptureKey] in
/-- The record of rows is that of the last one. -/
theorem selectedRecord_eq_ok {connection : CaptureConnection} {row : FeedbackRow} {labeledAt : Datetime}
    (hlast : rows.getLast? = some row) (hstored : storedTimestamp row.createdAt = .ok labeledAt) :
    selectedRecord key connection rows = .ok (recordOf key connection rows.length row.label labeledAt) :=
  Checked.expect_bind_eq_ok.mpr ⟨row, hlast, Checked.bind_eq_ok.mpr ⟨labeledAt, hstored, rfl⟩⟩

/-! ## Sessions in a list -/

omit [CaptureKey] in
theorem mem_feedbackSessions (h : History key (store.feedbackOf key) revisions) :
    key ∈ store.feedbackSessions projectDigest (some freeze) ↔
      (∃ connection, store.connections.get? key.1 = some connection
        ∧ ∀ digest ∈ projectDigest, connection.projectDigest = digest)
      ∧ key ∈ store.sessions ∧ ∃ labelled ∈ revisions, labelled.2 < freeze := by
  have hrows : ((store.feedbackOf key).any fun row => decide (∀ time ∈ some freeze, row.createdAt < time.offsetText))
      = true ↔ ∃ labelled ∈ revisions, labelled.2 < freeze := by
    rw [← h.any_lt, List.any_eq_true]
    simp only [Option.mem_some_iff, forall_eq', decide_eq_true_eq]
  unfold feedbackSessions
  rw [List.mem_mergeSort, List.mem_filter, Bool.and_eq_true, hrows, Option.any_eq_true]
  simp only [decide_eq_true_eq]
  exact ⟨fun ⟨hkey, hconnection, hbefore⟩ => ⟨hconnection, hkey, hbefore⟩,
    fun ⟨hconnection, hkey, hbefore⟩ => ⟨hkey, hconnection, hbefore⟩⟩

/-- The record of a session that is listed: of the last revision before the freeze. -/
theorem result_feedbackRecord_eq_ok {connection : CaptureConnection} {row : StoredSession} {front : List Labelled}
    {latest : Labelled} {record : CaptureFeedbackRecord} (hinvariant : Invariant store)
    (hconnection : store.connections.get? key.1 = some connection) (hrow : store.sessions.get? key = some row)
    (hhistory : History key (store.feedbackOf key) (front ++ latest :: later))
    (hbefore : ∀ labelled ∈ front ++ [latest], labelled.2 < freeze) (hlater : ∀ labelled ∈ later, freeze ≤ labelled.2) :
    result (feedbackRecord (some freeze) bound key) ⟨store, verified⟩ = .ok record ↔
      (connection.state ≠ .deleting ∧ row.session.state ≠ .deleting ∧ bound connection = .ok ())
      ∧ recordOf key connection (front.length + 1) latest.1 latest.2 = record := by
  have hsplit : front ++ latest :: later = (front ++ [latest]) ++ later := by
    rw [List.append_assoc]
    rfl
  have hselected : (verifiedFeedbackRows key (store.feedbackOf key) >>= selectRows (some freeze))
      = .ok (revisionRows key 1 none (front ++ [latest])) := by
    rw [hsplit] at hhistory
    exact hhistory.selected hbefore hlater
  have hrecord : selectedRecord key connection (revisionRows key 1 none (front ++ [latest]))
      = .ok (recordOf key connection (front.length + 1) latest.1 latest.2) := by
    have hlast : (revisionRows key 1 none (front ++ [latest])).getLast?
        = some (revisionRow key (1 + front.length) (lastId (revisionRows key 1 none front) none) latest) := by
      rw [revisionRows_concat, List.getLast?_concat]
    rw [selectedRecord_eq_ok hlast (storedTimestamp_offsetText latest.2), length_revisionRows, List.length_append]
    rfl
  have hchain : verifyChain connection.profile.isTransport key row = .ok () := by
    obtain ⟨found, hfound, hsound⟩ := hinvariant.sound.rows key row hrow
    cases hfound.symm.trans hconnection
    exact hsound.verifyChain fun hpending => by cases hpending
  rw [result_feedbackRecord, hconnection, hrow, Checked.expect_bind_eq_ok]
  constructor
  · rintro ⟨found, hfound, h⟩
    cases hfound
    rw [Checked.expect_bind_eq_ok] at h
    obtain ⟨stored, hstored, h⟩ := h
    cases hstored
    obtain ⟨hstates, h⟩ := Checked.raiseIf_bind_eq_ok.mp h
    obtain ⟨-, h⟩ := Checked.check_bind_eq_ok.mp h
    obtain ⟨hbound, h⟩ := Checked.check_bind_eq_ok.mp h
    rw [hselected] at h
    obtain ⟨hconnected, hopen⟩ := not_or.mp hstates
    exact ⟨⟨hconnected, hopen, hbound⟩, Except.ok.inj (hrecord.symm.trans h)⟩
  · rintro ⟨⟨hconnected, hopen, hbound⟩, rfl⟩
    refine ⟨connection, rfl, Checked.expect_bind_eq_ok.mpr ⟨row, rfl, ?_⟩⟩
    refine Checked.raiseIf_bind_eq_ok.mpr ⟨not_or.mpr ⟨hconnected, hopen⟩, ?_⟩
    refine Checked.check_bind_eq_ok.mpr ⟨hchain, Checked.check_bind_eq_ok.mpr ⟨hbound, ?_⟩⟩
    rw [hselected]
    exact hrecord

/-- Stores with the same connections, sessions and revisions before a freeze have the same list. -/
theorem listed_congr (hconnections : next.connections = store.connections) (hsessions : next.sessions = store.sessions)
    (hhistories : ∀ key, ∃ before later later', History key (store.feedbackOf key) (before ++ later)
      ∧ History key (next.feedbackOf key) (before ++ later') ∧ (∀ labelled ∈ before, labelled.2 < freeze)
      ∧ (∀ labelled ∈ later, freeze ≤ labelled.2) ∧ ∀ labelled ∈ later', freeze ≤ labelled.2) :
    listed projectDigest freeze limit bound verified next = listed projectDigest freeze limit bound verified store := by
  have hany : ∀ {key : SessionKey} {rows : List FeedbackRow} {before later : List Labelled},
      History key rows (before ++ later) → (∀ labelled ∈ before, labelled.2 < freeze) →
      (∀ labelled ∈ later, freeze ≤ labelled.2) → ((∃ row ∈ rows, row.createdAt < freeze.offsetText) ↔ before ≠ []) := by
    intro key rows before later hhistory hbefore hlater
    rw [hhistory.any_lt]
    constructor
    · rintro ⟨labelled, hmem, hlt⟩ rfl
      exact absurd hlt (not_lt.mpr (hlater labelled hmem))
    · intro hne
      obtain ⟨labelled, hmem⟩ := List.exists_mem_of_ne_nil before hne
      exact ⟨labelled, List.mem_append_left later hmem, hbefore labelled hmem⟩
  have hkeys : next.feedbackSessions projectDigest (some freeze) = store.feedbackSessions projectDigest (some freeze) := by
    unfold feedbackSessions
    rw [hconnections, hsessions]
    refine congrArg (fun keys : List SessionKey => keys.mergeSort _) (List.filter_congr fun key _ => ?_)
    obtain ⟨before, later, later', hstore, hnext, hbefore, hlater, hlater'⟩ := hhistories key
    refine congrArg _ (Bool.eq_iff_iff.mpr ?_)
    rw [List.any_eq_true, List.any_eq_true]
    simp only [Option.mem_some_iff, forall_eq', decide_eq_true_eq]
    rw [hany hstore hbefore hlater, hany hnext hbefore hlater']
  have hrecord : ∀ key, result (feedbackRecord (some freeze) bound key) ⟨next, verified⟩
      = result (feedbackRecord (some freeze) bound key) ⟨store, verified⟩ := by
    intro key
    obtain ⟨before, later, later', hstore, hnext, hbefore, hlater, hlater'⟩ := hhistories key
    rw [result_feedbackRecord, result_feedbackRecord, hconnections, hsessions, hstore.selected hbefore hlater,
      hnext.selected hbefore hlater']
  rw [listed_eq, listed_eq, hkeys, funext hrecord]

/-- A session that is listed has a last revision before the freeze. -/
theorem exists_lastBefore (hinvariant : Invariant store)
    (hkey : key ∈ store.feedbackSessions projectDigest (some freeze)) : ∃ connection row front latest later,
      store.connections.get? key.1 = some connection ∧ store.sessions.get? key = some row
        ∧ History key (store.feedbackOf key) (front ++ latest :: later)
        ∧ (∀ labelled ∈ front ++ [latest], labelled.2 < freeze) ∧ ∀ labelled ∈ later, freeze ≤ labelled.2 := by
  obtain ⟨revisions, hhistory⟩ := hinvariant.histories key
  obtain ⟨⟨connection, hconnection, -⟩, hmem, labelled, hlabelled, hlt⟩ := (mem_feedbackSessions hhistory).mp hkey
  obtain ⟨row, hrow⟩ := Dict.mem_iff.mp hmem
  obtain ⟨before, later, rfl, hbefore, hlater⟩ := exists_before hhistory.isChain freeze
  rcases before.eq_nil_or_concat' with rfl | ⟨front, latest, rfl⟩
  · exact absurd hlt (not_lt.mpr (hlater labelled hlabelled))
  · rw [List.append_assoc] at hhistory
    exact ⟨connection, row, front, latest, later, hconnection, hrow, hhistory, hbefore, hlater⟩

/-! ## What calls add -/

theorem FeedbackCall.step {closedAt : SessionKey → Datetime} (call : FeedbackCall) :
    Step store (call.run closedAt store).2 :=
  ⟨call.verified, .recordFeedback call.key call.label call.projectDigest call.bound (closedAt call.key) call.now, rfl⟩

/-- What a call leaves: the history of its session, with what it recorded. -/
theorem FeedbackCall.run_history (closedAt : SessionKey → Datetime) (call : FeedbackCall)
    (h : History key (store.feedbackOf key) revisions) :
    History key ((call.run closedAt store).2.feedbackOf key)
        (revisions ++ call.recorded key (call.run closedAt store).1)
      ∧ (∀ labelled ∈ call.recorded key (call.run closedAt store).1, call.now ≤ labelled.2)
      ∧ (revisions = [] → ∀ labelled ∈ call.recorded key (call.run closedAt store).1, closedAt key ≤ labelled.2) := by
  unfold FeedbackCall.run commit
  cases hrun : recordFeedback call.key call.label call.projectDigest call.bound (closedAt call.key) call.now
      ⟨store, call.verified⟩ with
  | error e t =>
    dsimp only [FeedbackCall.recorded]
    rw [List.append_nil]
    exact ⟨h, fun _ hmem => absurd hmem List.not_mem_nil, fun _ _ hmem => absurd hmem List.not_mem_nil⟩
  | ok receipt t =>
    dsimp only [FeedbackCall.recorded]
    rw [if_pos rfl]
    by_cases hkey : call.key = key
    · subst hkey
      obtain ⟨later, hlater, hrecorded⟩ := recordFeedback_eq_ok hrun h
      cases hrecorded with
      | unchanged hlast =>
        rw [if_neg fun hne => hne.2 rfl, List.append_nil]
        exact ⟨hlater, fun _ hmem => absurd hmem List.not_mem_nil, fun _ _ hmem => absurd hmem List.not_mem_nil⟩
      | @revised labeledAt hnow hclosed =>
        have hdisposition : (if revisions.length + 1 = 1 then CaptureFeedbackWriteDisposition.recorded else .changed)
            ≠ .unchanged := by
          split <;> exact fun hsame => by cases hsame
        rw [if_pos ⟨rfl, hdisposition⟩]
        refine ⟨hlater, fun labelled hmem => ?_, fun hnil labelled hmem => ?_⟩
        · rw [List.mem_singleton.mp hmem]
          exact hnow
        · rw [List.mem_singleton.mp hmem]
          exact hclosed hnil
    · rw [if_neg fun hsame => hkey hsame.1, List.append_nil]
      obtain ⟨honly, -⟩ := recordFeedback_only hrun
      have hkept : t.store.feedbackOf key = store.feedbackOf key := by
        unfold feedbackOf
        rw [honly.others key (Ne.symm hkey)]
      rw [hkept]
      exact ⟨h, fun _ hmem => absurd hmem List.not_mem_nil, fun _ _ hmem => absurd hmem List.not_mem_nil⟩

/-- A call leaves the connections and the sessions as they are. -/
theorem FeedbackCall.run_frame (closedAt : SessionKey → Datetime) (call : FeedbackCall) (store : CaptureStore) :
    (call.run closedAt store).2.connections = store.connections
      ∧ (call.run closedAt store).2.sessions = store.sessions := by
  rcases commit_eq (rfl : (call.run closedAt store).2 = _) with hsame | ⟨receipt, t, hrun, -, hnext⟩
  · rw [hsame]
    exact ⟨rfl, rfl⟩
  · obtain ⟨honly, -⟩ := recordFeedback_only hrun
    rw [← hnext]
    exact ⟨honly.connections, honly.sessions⟩

/-- Calls reach the states of a store. -/
theorem reached_runCalls {closedAt : SessionKey → Datetime} {calls : List FeedbackCall} (h : Reached store) :
    Reached (runCalls closedAt key calls store).2 := by
  induction calls generalizing store with
  | nil => exact h
  | cons call rest ih => exact ih (h.tail call.step)

/-- The history of a session after calls has what they recorded behind what it had, not before it was closed. -/
theorem runCalls_history (closedAt : SessionKey → Datetime) (calls : List FeedbackCall)
    (h : History key (store.feedbackOf key) revisions) (hclosed : ∀ labelled ∈ revisions, closedAt key ≤ labelled.2) :
    History key ((runCalls closedAt key calls store).2.feedbackOf key)
        (revisions ++ (runCalls closedAt key calls store).1)
      ∧ ∀ labelled ∈ revisions ++ (runCalls closedAt key calls store).1, closedAt key ≤ labelled.2 := by
  induction calls generalizing store revisions with
  | nil =>
    rw [runCalls, List.append_nil]
    exact ⟨h, hclosed⟩
  | cons call rest ih =>
    obtain ⟨hnext, -, hfirst⟩ := call.run_history closedAt h
    rw [runCalls]
    dsimp only
    rw [← List.append_assoc]
    refine ih hnext fun labelled hmem => ?_
    rcases List.mem_append.mp hmem with hold | hnew
    · exact hclosed labelled hold
    · cases revisions with
      | nil => exact hfirst rfl labelled hnew
      | cons first others =>
        -- What is recorded is later than the revisions before it.
        have htimes := List.pairwise_append.mp (pairwise_of_isChain hnext.isChain)
        have hlt := htimes.2.2 first List.mem_cons_self labelled hnew
        exact (hclosed first List.mem_cons_self).trans hlt.le

/-- A call whose clock is not before a freeze leaves the list of what is before it. -/
theorem FeedbackCall.listed_run {closedAt : SessionKey → Datetime} (call : FeedbackCall) (hinvariant : Invariant store)
    (hnow : freeze ≤ call.now) : listed projectDigest freeze limit bound verified (call.run closedAt store).2
      = listed projectDigest freeze limit bound verified store := by
  obtain ⟨hconnections, hsessions⟩ := call.run_frame closedAt store
  refine listed_congr hconnections hsessions fun key => ?_
  obtain ⟨revisions, hhistory⟩ := hinvariant.histories key
  obtain ⟨before, later, rfl, hbefore, hlater⟩ := exists_before hhistory.isChain freeze
  obtain ⟨hnext, hadded, -⟩ := call.run_history closedAt hhistory
  rw [List.append_assoc] at hnext
  refine ⟨before, later, _, hhistory, hnext, hbefore, hlater, fun labelled hmem => ?_⟩
  rcases List.mem_append.mp hmem with hold | hnew
  · exact hlater labelled hold
  · exact hnow.trans (hadded labelled hnew)

/-- A list of feedback before a freeze, in every state of a store that was created empty. -/
theorem Reached.frozen {closedAt : SessionKey → Datetime} (h : Reached store) :
    Frozen closedAt store projectDigest freeze limit bound verified := by
  have hinvariant := h.invariant
  constructor
  case sessions =>
    intro key
    obtain ⟨revisions, hhistory⟩ := hinvariant.histories key
    rw [mem_feedbackSessions hhistory]
    refine and_congr_right fun _ => and_congr_right fun _ => ?_
    constructor
    · exact fun hbefore => ⟨revisions, hhistory.read, hbefore⟩
    · rintro ⟨others, hothers, hbefore⟩
      rw [hhistory.eq_of_revisions hothers] at hbefore
      exact hbefore
  case latest =>
    intro records hrecords
    rw [listed_eq] at hrecords
    obtain ⟨-, hrecords⟩ := Checked.raiseIf_bind_eq_ok.mp hrecords
    obtain ⟨-, hrecords⟩ := Checked.raiseIf_bind_eq_ok.mp hrecords
    have hrounds := (List.forall₂_and_left _ _).mpr ⟨fun key hkey => hkey, Checked.mapM_eq_ok.mp hrecords⟩
    refine hrounds.imp fun key record hround => ?_
    obtain ⟨hkey, hrecord⟩ := hround
    obtain ⟨connection, row, front, latest, later, hconnection, hrow, hhistory, hbefore, hlater⟩ :=
      exists_lastBefore hinvariant hkey
    obtain ⟨-, rfl⟩ := (result_feedbackRecord_eq_ok hinvariant hconnection hrow hhistory hbefore hlater).mp hrecord
    exact ⟨front, latest, later, hhistory.read, hbefore, hlater, rfl, rfl, rfl, rfl⟩
  case returns =>
    rw [listed_eq]
    constructor
    · rintro ⟨records, hrecords⟩
      obtain ⟨hlimit, hrecords⟩ := Checked.raiseIf_bind_eq_ok.mp hrecords
      obtain ⟨hroom, hrecords⟩ := Checked.raiseIf_bind_eq_ok.mp hrecords
      refine ⟨not_not.mp hlimit, not_lt.mp hroom, fun key hkey connection row hconnection hrow => ?_⟩
      obtain ⟨record, -, hrecord⟩ := Checked.exists_of_mapM_eq_ok hrecords hkey
      obtain ⟨found, stored, front, latest, later, hfound, hstored, hhistory, hbefore, hlater⟩ :=
        exists_lastBefore hinvariant hkey
      exact ((result_feedbackRecord_eq_ok hinvariant hconnection hrow hhistory hbefore hlater).mp hrecord).1
    · rintro ⟨hlimit, hroom, hstates⟩
      have hrounds : ∀ key ∈ store.feedbackSessions projectDigest (some freeze), ∃ record,
          result (feedbackRecord (some freeze) bound key) ⟨store, verified⟩ = .ok record := by
        intro key hkey
        obtain ⟨connection, row, front, latest, later, hconnection, hrow, hhistory, hbefore, hlater⟩ :=
          exists_lastBefore hinvariant hkey
        exact ⟨_, (result_feedbackRecord_eq_ok hinvariant hconnection hrow hhistory hbefore hlater).mpr
          ⟨hstates key hkey connection row hconnection hrow, rfl⟩⟩
      obtain ⟨records, hrecords⟩ := Checked.exists_mapM_eq_ok hrounds
      exact ⟨records, Checked.raiseIf_bind_eq_ok.mpr ⟨not_not.mpr hlimit,
        Checked.raiseIf_bind_eq_ok.mpr ⟨not_lt.mpr hroom, hrecords⟩⟩⟩
  case stable =>
    intro calls hcalls key
    induction calls generalizing store with
    | nil => rfl
    | cons call rest ih =>
      obtain ⟨hfirst, hrest⟩ := List.forall_mem_cons.mp hcalls
      have hreached : Reached (call.run closedAt store).2 := h.tail call.step
      rw [runCalls]
      dsimp only
      rw [ih hreached hreached.invariant hrest, call.listed_run hinvariant hfirst]

/-- After calls of `record_feedback`, in any order and with any clocks, the history of a session that had none has what
they recorded, not before the session was closed; its rows are accepted and in the order of their times. What is listed
before a freeze is the last revision before it of each session, and calls whose clocks are not before it leave it. -/
theorem runCalls_frozen (closedAt : SessionKey → Datetime) (h : Reached store) (key : SessionKey)
    (hnew : store.feedbackOf key = []) (calls : List FeedbackCall) :
    (let ended := runCalls closedAt key calls store
    Revisions ended.2 key ended.1 ∧ ended.1.Pairwise (fun a b => a.2 < b.2)
      ∧ (∀ labelled ∈ ended.1, closedAt key ≤ labelled.2) ∧ ended.1.IsChain (fun a b => a.1 ≠ b.1)
      ∧ TextsOrdered (ended.2.feedbackOf key)
      ∧ ∀ projectDigest freeze limit bound verified,
        Frozen closedAt ended.2 projectDigest freeze limit bound verified) := by
  have hstart : History key (store.feedbackOf key) [] := by
    rw [hnew]
    exact .empty
  obtain ⟨hhistory, hclosed⟩ := runCalls_history closedAt calls hstart
    fun _ hmem => absurd hmem List.not_mem_nil
  rw [List.nil_append] at hhistory hclosed
  refine ⟨hhistory.read, pairwise_of_isChain hhistory.isChain, hclosed, ?_, hhistory.textsOrdered, ?_⟩
  · exact hhistory.isChain.imp fun _ _ hrevised => hrevised.2
  · intro projectDigest freeze limit bound verified
    exact (reached_runCalls h).frozen

end

section

attribute [local instance] localKey localTags

/-- The last intake of the session. -/
def lastIntake : CaptureIntake := bridgeIntake firstIntake.sessionId (repeatedDigest '6' (.refl true)) .sessionFinished

/-- The store with a session that a bridge transported to its end. -/
def finished : CaptureStore :=
  CaptureStore.empty.performAll
    (connect ++ [.appendTransportChunk firstChunk [firstIntake, lastIntake] fun _ => 0])

/-- A label of the session. -/
def labelCall : FeedbackCall where
  verified := .empty
  key := firstIntake.session
  label := .memoryNeeded
  projectDigest := repeatedDigest '5' (.refl true)
  bound _ := .ok ()
  now := ⟨⟨2026, 1, 1, 0, 0, 0, 0⟩, .refl true⟩

/-- The session was closed after what the clock says. -/
def closedLater (_ : SessionKey) : Datetime := ⟨⟨2026, 1, 1, 0, 0, 0, 1⟩, .refl true⟩

theorem reached_finished : Reached finished := reached_performAll .refl

theorem feedbackOf_finished : finished.feedbackOf firstIntake.session = [] := by decide +kernel

/-- The session is closed, and has no feedback. -/
theorem feedbackSession_finished : feedbackSession firstIntake.session labelCall.projectDigest
    (fun state => state = .closed) labelCall.bound ⟨finished, .empty⟩ = .ok [] ⟨finished, .empty⟩ := by
  have hclosed : ((finished.sessions.get? firstIntake.session).any fun row => row.session.state = .closed) = true := by
    decide +kernel
  have hproject : ((finished.connections.get? firstIntake.session.1).any fun connection =>
      connection.projectDigest = labelCall.projectDigest ∧ connection.state ≠ .deleting) = true := by decide +kernel
  obtain ⟨row, hrow, hstate⟩ := Option.any_eq_true _ _ |>.mp hclosed
  obtain ⟨connection, hconnection, hstates⟩ := Option.any_eq_true _ _ |>.mp hproject
  obtain ⟨hdigest, hconnected⟩ := of_decide_eq_true hstates
  obtain ⟨found, hfound, hsound⟩ := reached_finished.invariant.sound.rows _ row hrow
  cases hfound.symm.trans hconnection
  have hempty : verifiedFeedbackRows firstIntake.session (finished.feedbackOf firstIntake.session) = .ok [] := by
    rw [feedbackOf_finished]
    exact History.empty.verified
  unfold feedbackSession
  rw [get_bind]
  refine expect_bind_eq_ok.mpr ⟨row, hrow, connectionRow_bind_eq_ok.mpr ⟨connection, hconnection, ?_⟩⟩
  refine raiseIf_bind_eq_ok.mpr ⟨not_not.mpr hdigest, raiseIf_bind_eq_ok.mpr ⟨?_, ?_⟩⟩
  · rintro (hdeleting | hopen)
    · exact hconnected hdeleting
    · cases hstate.symm.trans hopen
  · refine check_bind_eq_ok.mpr ⟨hsound.verifyChain fun hpending => (by cases hpending), ?_⟩
    exact check_bind_eq_ok.mpr ⟨rfl, lift_eq_ok.mpr ⟨hempty, rfl⟩⟩

/-- A label of a closed session is its history. -/
theorem runCalls_frozen_finished : (runCalls closedLater firstIntake.session [labelCall] finished).1.length = 1
    ∧ Revisions (runCalls closedLater firstIntake.session [labelCall] finished).2 firstIntake.session
      (runCalls closedLater firstIntake.session [labelCall] finished).1 := by
  obtain ⟨hrevisions, -⟩ := runCalls_frozen closedLater reached_finished firstIntake.session feedbackOf_finished [labelCall]
  refine ⟨?_, hrevisions⟩
  have hrun : labelCall.run closedLater finished = commit (addRevision firstIntake.session [] labelCall.label
      (closedLater firstIntake.session)) (fun _ => true) .empty finished := by
    unfold FeedbackCall.run commit
    have hrecord : recordFeedback firstIntake.session labelCall.label labelCall.projectDigest labelCall.bound
        (closedLater firstIntake.session) labelCall.now ⟨finished, .empty⟩
        = addRevision firstIntake.session [] labelCall.label (closedLater firstIntake.session) ⟨finished, .empty⟩ := by
      have hlater : labelCall.now < closedLater firstIntake.session := Datetime.lt_iff_rank.mpr (by decide)
      unfold recordFeedback
      rw [bind_of_ok feedbackSession_finished]
      show addRevision _ [] _ (if labelCall.now < closedLater firstIntake.session then _ else _) _ = _
      rw [if_pos hlater]
    rw [← hrecord]
    rfl
  rw [runCalls, hrun]
  decide +kernel

end

end CaptureStore

end SalienceGate
