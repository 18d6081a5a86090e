import SalienceGate.Capture.StoreSteps

/-!
# Sessions that verify

`RowSound` is what the rows of a session satisfy after every transaction: what the verification of its chains checks, and
besides it the states of the session, its size, and when it must have lost its coverage. Every write keeps it. While a
chunk is pending, the events of its session may run ahead of the receipts.
-/

namespace SalienceGate

open Checked

variable [CaptureKey] [CaptureTags]

namespace CaptureStore

variable {key : SessionKey} {events more : List CaptureEvent} {event : CaptureEvent} {first ordinal : ℕ}
  {previous last : Option String}

/-! ## Chains of events -/

/-- What the chain of more events is depends on the tag before them only. -/
theorem verifyEvents_append : verifyEvents key first previous (events ++ more) = (do
    let last ← verifyEvents key first previous events
    verifyEvents key (first + events.length) last more) := by
  induction events generalizing first previous with
  | nil => rfl
  | cons event rest ih =>
    have hfirst : first + 1 + rest.length = first + (event :: rest).length := by
      rw [List.length_cons]
      omega
    rw [List.cons_append, verifyEvents, verifyEvents]
    simp only [ih, hfirst, bind_assoc]

/-- A chain has another event at its end if that has the next number and names the tag before it. -/
theorem verifyEvents_concat (h : verifyEvents key first previous events = .ok last)
    (hload : loadVerifiedEvent key event = .ok ()) (hordinal : event.receiptOrdinal = first + events.length)
    (hprevious : event.previousEventTag = last) :
    verifyEvents key first previous (events ++ [event]) = .ok (some event.eventTag) := by
  rw [verifyEvents_append, h]
  refine check_bind_eq_ok.mpr ⟨hload, raiseIf_bind_eq_ok.mpr ⟨?_, rfl⟩⟩
  rintro (hne | hne)
  · exact hne hordinal
  · exact hne hprevious

omit [CaptureKey] [CaptureTags] in
theorem eventTagAt_succ : eventTagAt events (ordinal + 1) = (events[ordinal]?).map CaptureEvent.eventTag := rfl

/-- What a chain says of each of its events. -/
structure Linked (key : SessionKey) (first : ℕ) (previous : Option String) (events : List CaptureEvent) (i : ℕ)
    (event : CaptureEvent) : Prop where
  load : loadVerifiedEvent key event = .ok ()
  ordinal : event.receiptOrdinal = first + i
  previous : event.previousEventTag = if i = 0 then previous else eventTagAt events i

theorem linked_of_verifyEvents (h : verifyEvents key first previous events = .ok last) {i : ℕ}
    (hi : events[i]? = some event) : Linked key first previous events i event := by
  induction events generalizing first previous i with
  | nil => cases hi
  | cons head rest ih =>
    rw [verifyEvents] at h
    obtain ⟨hload, h⟩ := check_bind_eq_ok.mp h
    obtain ⟨hlink, hrest⟩ := raiseIf_bind_eq_ok.mp h
    rw [not_or, not_not, not_not] at hlink
    cases i with
    | zero =>
      cases hi
      exact ⟨hload, hlink.1, hlink.2⟩
    | succ i =>
      rw [List.getElem?_cons_succ] at hi
      obtain ⟨hloaded, hordinal, hprevious⟩ := ih hrest hi
      refine ⟨hloaded, by omega, ?_⟩
      rw [hprevious, if_neg (Nat.succ_ne_zero i)]
      cases i with
      | zero => rfl
      | succ i => rfl

/-- The last tag of a chain is that of its last event. -/
theorem eventTagAt_of_verifyEvents (h : verifyEvents key first none events = .ok last) :
    eventTagAt events events.length = last := by
  rcases events.eq_nil_or_concat' with rfl | ⟨front, event, rfl⟩
  · cases h
    rfl
  · rw [verifyEvents_append] at h
    obtain ⟨tag, -, h⟩ := bind_eq_ok.mp h
    rw [verifyEvents] at h
    obtain ⟨-, h⟩ := check_bind_eq_ok.mp h
    obtain ⟨-, h⟩ := raiseIf_bind_eq_ok.mp h
    cases h
    rw [List.length_append, List.length_singleton]
    rw [eventTagAt_succ, List.getElem?_concat_length, Option.map_some]

theorem loadTransportEvents_of_verifyEvents (h : verifyEvents key first previous events = .ok last) :
    loadTransportEvents key first events = .ok () := by
  induction events generalizing first previous with
  | nil => rfl
  | cons head rest ih =>
    rw [verifyEvents] at h
    obtain ⟨hload, h⟩ := check_bind_eq_ok.mp h
    obtain ⟨hlink, hrest⟩ := raiseIf_bind_eq_ok.mp h
    rw [loadTransportEvents]
    exact check_bind_eq_ok.mpr ⟨hload, raiseIf_bind_eq_ok.mpr ⟨fun hne => hlink (.inl hne), ih hrest⟩⟩

/-! ## Chains of receipts -/

variable {earlier rows others : List TransportRow} {row : TransportRow} {count : ℕ} {end_ : Option String × ℕ}

omit [CaptureKey] [CaptureTags] in
theorem eventTagAt_append (h : ordinal ≤ events.length) :
    eventTagAt (events ++ more) ordinal = eventTagAt events ordinal := by
  cases ordinal with
  | zero => rfl
  | succ ordinal =>
    rw [eventTagAt_succ, eventTagAt_succ, List.getElem?_append_left h]

omit [CaptureKey] in
theorem verifyReceipts_append : verifyReceipts key events earlier previous count (rows ++ others) = (do
    let last ← verifyReceipts key events earlier previous count rows
    verifyReceipts key events (earlier ++ rows) last.1 last.2 others) := by
  induction rows generalizing earlier previous count with
  | nil => rw [List.append_nil]; rfl
  | cons row rest ih =>
    have hearlier : earlier ++ [row] ++ rest = earlier ++ row :: rest := by rw [List.append_assoc]; rfl
    rw [List.cons_append, verifyReceipts, verifyReceipts]
    simp only [ih, hearlier, bind_assoc]

/-- What a chain of receipts checks of one, after those before it. -/
structure ReceiptLinked (key : SessionKey) (events : List CaptureEvent) (earlier : List TransportRow)
    (previous : Option String) (count : ℕ) (row : TransportRow) : Prop where
  tag : row.receiptTag = CaptureTags.transportReceiptTag key row.toTransportMaterial
  ordinal : row.transportOrdinal = earlier.length + 1
  previous : row.previousReceiptTag = previous
  index : row.chunkIndex < row.chunkCount
  batch : ∀ other ∈ earlier, other.batchRef = row.batchRef →
    other.chunkCount = row.chunkCount ∧ other.chunkIndex ≠ row.chunkIndex
  grows : count ≤ row.postEventCount
  covers : row.postEventCount ≤ events.length
  head : eventTagAt events row.postEventCount = row.postHeadEventTag

omit [CaptureKey] in
/-- A chain of receipts is accepted one by one. -/
theorem verifyReceipts_cons : verifyReceipts key events earlier previous count (row :: rows) = .ok end_ ↔
    ReceiptLinked key events earlier previous count row
      ∧ verifyReceipts key events (earlier ++ [row]) (some row.receiptTag) row.postEventCount rows = .ok end_ := by
  rw [verifyReceipts]
  simp only [raiseIf_bind_eq_ok]
  constructor
  · rintro ⟨htag, hlink, hindex, h⟩
    push Not at htag hlink hindex
    obtain ⟨hordinal, hprevious, hcount, hbatch, hgrows, hcovers, hhead⟩ := hlink
    exact ⟨⟨htag, hordinal, hprevious, hcount, fun other hother hsame => ⟨hbatch other hother hsame, hindex other hother hsame⟩,
      hgrows, hcovers, hhead⟩, h⟩
  · rintro ⟨⟨htag, hordinal, hprevious, hcount, hbatch, hgrows, hcovers, hhead⟩, h⟩
    refine ⟨not_not.mpr htag, ?_, ?_, h⟩
    · push Not
      exact ⟨hordinal, hprevious, hcount, fun other hother hsame => (hbatch other hother hsame).1, hgrows, hcovers, hhead⟩
    · push Not
      exact fun other hother hsame => (hbatch other hother hsame).2

omit [CaptureKey] in
/-- Another receipt ends the chain. -/
theorem verifyReceipts_concat (h : verifyReceipts key events [] none 0 rows = .ok end_)
    (hrow : ReceiptLinked key events rows end_.1 end_.2 row) :
    verifyReceipts key events [] none 0 (rows ++ [row]) = .ok (some row.receiptTag, row.postEventCount) := by
  rw [verifyReceipts_append, h]
  exact verifyReceipts_cons.mpr ⟨hrow, rfl⟩

omit [CaptureKey] in
/-- More events leave the receipts as they are. -/
theorem verifyReceipts_more (h : verifyReceipts key events earlier previous count rows = .ok end_) :
    verifyReceipts key (events ++ more) earlier previous count rows = .ok end_ := by
  induction rows generalizing earlier previous count with
  | nil => exact h
  | cons row rest ih =>
    obtain ⟨hrow, hrest⟩ := verifyReceipts_cons.mp h
    refine verifyReceipts_cons.mpr ⟨{ hrow with covers := ?_, head := ?_ }, ih hrest⟩
    · rw [List.length_append]
      exact Nat.le_add_right_of_le hrow.covers
    · rw [eventTagAt_append hrow.covers, hrow.head]

omit [CaptureKey] in
/-- The last receipt covers events that are there. -/
theorem verifyReceipts_le (h : verifyReceipts key events earlier previous count rows = .ok end_)
    (hcount : count ≤ events.length) : count ≤ end_.2 ∧ end_.2 ≤ events.length := by
  induction rows generalizing earlier previous count with
  | nil =>
    cases h
    exact ⟨le_rfl, hcount⟩
  | cons row rest ih =>
    obtain ⟨hrow, hrest⟩ := verifyReceipts_cons.mp h
    obtain ⟨hgrows, hle⟩ := ih hrest hrow.covers
    exact ⟨hrow.grows.trans hgrows, hle⟩

/-! ## Sessions -/

/-- A session whose transport is required: its receipts are those of its transport head, and the events behind the last of
them came through the spool of a session that lost its coverage, unless a chunk is pending. -/
structure TransportSound (pending : Bool) (key : SessionKey) (row : StoredSession) (tag : String) (head : TransportHead)
    (covered : ℕ) : Prop where
  stored : row.transportHead = some head
  tagged : tag = CaptureTags.transportHeadTag key head
  receipts : verifyReceipts key row.events [] none 0 row.receipts = .ok (head.headReceiptTag, covered)
  count : row.receipts.length = head.receiptCount
  tail : pending = false → covered ≠ row.events.length → row.session.coverageDegraded = true
    ∧ ∀ event ∈ row.events.drop covered, event.admissionSource = .spoolDrain

/-- The rows of a session between transactions, or while a chunk of it is pending. -/
structure RowSound (pending : Bool) (profile : CaptureProfile) (key : SessionKey) (row : StoredSession) : Prop where
  chain : verifyEvents key 1 none row.events = .ok row.head.headEventTag
  headCount : row.head.receiptCount = row.events.length
  eventCount : row.session.eventCount = row.events.length
  room : row.events.length ≤ maxCaptureEventsPerSession
  opened : row.session.state = .opened → ∀ event ∈ row.events, event.intake.content ≠ .sessionFinished
  closed : row.session.state = .closed → ∃ front last, row.events = front ++ [last]
    ∧ last.intake.content = .sessionFinished ∧ ∀ event ∈ front, event.intake.content ≠ .sessionFinished
  markers : row.session.healthMarkerCount = row.health.length
  healthSet : row.session.healthSetDigest = CaptureTags.healthSetDigest key row.health
  unhealthy : row.health ≠ [] → row.session.coverageDegraded = true
  transport : ∀ tag, row.session.transportHeadTag = some tag →
    profile.isTransport = true ∧ ∃ head covered, TransportSound pending key row tag head covered
  direct : row.session.transportHeadTag = none → row.receipts = [] ∧ row.transportHead = none

variable {pending : Bool} {profile : CaptureProfile} {stored : StoredSession} {state : CaptureSessionState}

/-- The chains of a sound session are accepted. -/
theorem RowSound.verifyChain {allow : Bool} (h : RowSound pending profile key stored)
    (hallow : pending = true → allow = true) :
    CaptureStore.verifyChain profile.isTransport key stored allow = .ok () := by
  unfold CaptureStore.verifyChain
  refine bind_eq_ok.mpr ⟨_, h.chain, raiseIf_bind_eq_ok.mpr ⟨?_, check_bind_eq_ok.mpr ⟨?_, ?_⟩⟩⟩
  · rintro (hne | hne | hne)
    · exact hne h.eventCount.symm
    · exact hne h.headCount.symm
    · exact hne rfl
  · unfold verifyHealthSet
    rw [raiseIf_eq_ok]
    rintro (hne | hne)
    · exact hne h.markers
    · exact hne h.healthSet
  · suffices hchain : ∃ incomplete, verifyTransportChain profile.isTransport key stored allow = .ok incomplete by
      obtain ⟨incomplete, hchain⟩ := hchain
      exact bind_eq_ok.mpr ⟨incomplete, hchain, rfl⟩
    unfold verifyTransportChain
    cases htag : stored.session.transportHeadTag with
    | none =>
      obtain ⟨hreceipts, hhead⟩ := h.direct htag
      refine ⟨0, ?_⟩
      split
      · refine raiseIf_bind_eq_ok.mpr ⟨?_, rfl⟩
        rintro (hne | hne | hne)
        · exact hne rfl
        · exact hne hreceipts
        · exact hne hhead
      · refine raiseIf_bind_eq_ok.mpr ⟨?_, rfl⟩
        rintro (hne | hne)
        · exact hne hreceipts
        · exact hne hhead
    | some tag =>
      obtain ⟨hprofile, head, covered, hsound⟩ := h.transport tag htag
      refine ⟨incompleteBatches stored.receipts, ?_⟩
      rw [if_neg (by rw [hprofile]; decide)]
      refine expect_bind_eq_ok.mpr ⟨head, hsound.stored, raiseIf_bind_eq_ok.mpr ⟨not_not.mpr hsound.tagged, ?_⟩⟩
      refine check_bind_eq_ok.mpr ⟨loadTransportEvents_of_verifyEvents h.chain, ?_⟩
      refine bind_eq_ok.mpr ⟨_, hsound.receipts, raiseIf_bind_eq_ok.mpr ⟨?_, raiseIf_bind_eq_ok.mpr ⟨?_, rfl⟩⟩⟩
      · rintro (hne | hne)
        · exact hne hsound.count
        · exact hne rfl
      · rintro ⟨hne, hallowed, htail⟩
        have hpending : pending = false := by
          cases pending with
          | false => rfl
          | true => cases (hallow rfl).symm.trans hallowed
        obtain ⟨hdegraded, hspool⟩ := hsound.tail hpending hne
        rcases htail with hwhole | ⟨event, hevent, hsource⟩
        · cases hdegraded.symm.trans hwhole
        · exact hsource (hspool event hevent)

/-! ## Writes -/

omit [CaptureKey] [CaptureTags] in
theorem isTransport_of_newTransportHead {head : TransportHead} (h : newTransportHead profile = some head) :
    profile.isTransport = true ∧ head = ⟨0, none⟩ := by
  unfold newTransportHead at h
  split at h
  · next hprofile => exact ⟨hprofile, (Option.some_inj.mp h).symm⟩
  · cases h

/-- A new session is sound. -/
theorem rowSound_newSession {coverageDegraded : Bool} (hstate : state ≠ .closed) :
    RowSound pending profile key (newSession key profile state coverageDegraded) where
  chain := rfl
  headCount := rfl
  eventCount := rfl
  room := Nat.zero_le _
  opened _ event hevent := absurd hevent List.not_mem_nil
  closed h := absurd h hstate
  markers := rfl
  healthSet := rfl
  unhealthy h := absurd rfl h
  transport tag htag := by
    obtain ⟨head, hhead, rfl⟩ := Option.map_eq_some_iff.mp htag
    obtain ⟨hprofile, rfl⟩ := isTransport_of_newTransportHead hhead
    exact ⟨hprofile, ⟨0, none⟩, 0, hhead, rfl, rfl, rfl, fun _ hne => absurd rfl hne⟩
  direct htag := ⟨rfl, Option.map_eq_none_iff.mp htag⟩

/-- A session that loses its coverage, and stays in its state or is quarantined, is sound. -/
theorem RowSound.degraded (h : RowSound pending profile key stored)
    (hstate : state = stored.session.state ∨ state = .quarantined) :
    RowSound pending profile key (degraded stored state) where
  chain := h.chain
  headCount := h.headCount
  eventCount := h.eventCount
  room := h.room
  opened hopened := by
    rcases hstate with rfl | rfl
    · exact h.opened hopened
    · cases hopened
  closed hclosed := by
    rcases hstate with rfl | rfl
    · exact h.closed hclosed
    · cases hclosed
  markers := h.markers
  healthSet := h.healthSet
  unhealthy _ := rfl
  transport tag htag := by
    obtain ⟨hprofile, head, covered, hsound⟩ := h.transport tag htag
    exact ⟨hprofile, head, covered, hsound.stored, hsound.tagged, hsound.receipts, hsound.count, fun hpending hne =>
      ⟨rfl, (hsound.tail hpending hne).2⟩⟩
  direct := h.direct

/-- A session that lost its coverage may have health rows. -/
theorem RowSound.withHealth (h : RowSound pending profile key stored) (hdegraded : stored.session.coverageDegraded = true)
    (health : List CaptureHealth) : RowSound pending profile key (withHealth key stored health) where
  chain := h.chain
  headCount := h.headCount
  eventCount := h.eventCount
  room := h.room
  opened := h.opened
  closed := h.closed
  markers := rfl
  healthSet := rfl
  unhealthy _ := hdegraded
  transport tag htag := by
    obtain ⟨hprofile, head, covered, hsound⟩ := h.transport tag htag
    exact ⟨hprofile, head, covered, hsound.stored, hsound.tagged, hsound.receipts, hsound.count, hsound.tail⟩
  direct := h.direct

/-- The event of an authentic intake of the session is the next one of its chain. -/
theorem loadVerifiedEvent_newEvent {intake : CaptureIntake} {source : CaptureAdmissionSource} {admittedAt : UtcDatetime}
    {head : CaptureHead} (hkey : intake.session = key) (hauthentic : CaptureKey.authenticates intake = true) :
    loadVerifiedEvent key (newEvent intake source admittedAt head) = .ok () := by
  unfold loadVerifiedEvent newEvent
  rw [raiseIf_eq_ok, hkey]
  rintro (hne | hne | hne)
  · cases hauthentic.symm.trans hne
  · exact hne rfl
  · exact hne rfl

/-- An open session with room for another event has it at its end. -/
theorem RowSound.withEvent {intake : CaptureIntake} {source : CaptureAdmissionSource} {transportFallback : Bool}
    {admittedAt : UtcDatetime} (h : RowSound pending profile key stored) (hkey : intake.session = key)
    (hauthentic : CaptureKey.authenticates intake = true) (hopened : stored.session.state = .opened)
    (hroom : stored.head.receiptCount < maxCaptureEventsPerSession)
    (htail : profile.isTransport = true → pending = true ∨ source = .spoolDrain ∧ transportFallback = true) :
    RowSound pending profile key
      (withEvent stored (newEvent intake source admittedAt stored.head) transportFallback) where
  chain := by
    refine verifyEvents_concat h.chain (loadVerifiedEvent_newEvent hkey hauthentic) ?_ rfl
    show stored.head.receiptCount + 1 = 1 + stored.events.length
    rw [h.headCount, Nat.add_comm]
  headCount := by
    show stored.head.receiptCount + 1 = (stored.events ++ [_]).length
    rw [h.headCount, List.length_append, List.length_singleton]
  eventCount := by
    show stored.head.receiptCount + 1 = (stored.events ++ [_]).length
    rw [h.headCount, List.length_append, List.length_singleton]
  room := by
    show (stored.events ++ [_]).length ≤ _
    rw [List.length_append, List.length_singleton, ← h.headCount]
    exact hroom
  opened hstate event hevent := by
    -- The session is open only if its new event does not finish it.
    have hcontent : intake.content ≠ .sessionFinished := by
      intro hfinished
      have hclosed : (if intake.content = .sessionFinished then CaptureSessionState.closed else .opened) = .opened := hstate
      rw [if_pos hfinished] at hclosed
      cases hclosed
    rcases List.mem_append.mp hevent with hold | hnew
    · exact h.opened hopened event hold
    · rw [List.mem_singleton.mp hnew]
      exact hcontent
  closed hstate := by
    refine ⟨stored.events, _, rfl, ?_, h.opened hopened⟩
    show intake.content = .sessionFinished
    by_contra hcontent
    have hopen : (if intake.content = .sessionFinished then CaptureSessionState.closed else .opened) = .closed := hstate
    rw [if_neg hcontent] at hopen
    cases hopen
  markers := h.markers
  healthSet := h.healthSet
  unhealthy hhealth := by
    show (stored.session.coverageDegraded || _ || _) = true
    rw [h.unhealthy hhealth, Bool.true_or, Bool.true_or]
  transport tag htag := by
    obtain ⟨hprofile, head, covered, hsound⟩ := h.transport tag htag
    have hcovered := (verifyReceipts_le hsound.receipts (Nat.zero_le _)).2
    refine ⟨hprofile, head, covered, hsound.stored, hsound.tagged, verifyReceipts_more hsound.receipts, hsound.count, ?_⟩
    intro hpending _
    rcases htail hprofile with htrue | ⟨hsource, hfallback⟩
    · cases htrue.symm.trans hpending
    refine ⟨?_, fun event hevent => ?_⟩
    · show (_ || transportFallback) = true
      rw [hfallback, Bool.or_true]
    · change event ∈ (stored.events ++ [_]).drop covered at hevent
      rw [List.drop_append_of_le_length hcovered] at hevent
      rcases List.mem_append.mp hevent with hold | hnew
      · refine (hsound.tail hpending fun hall => ?_).2 event hold
        have hnone : stored.events.drop covered = [] := List.drop_eq_nil_of_le hall.ge
        rw [hnone] at hold
        exact absurd hold List.not_mem_nil
      · rw [List.mem_singleton.mp hnew]
        exact hsource
  direct := h.direct

/-- A session of a bridge that enters its transport is sound while a chunk of it is pending. -/
theorem RowSound.required (h : RowSound true profile key stored) (hopened : stored.session.state = .opened)
    (hprofile : profile.isTransport = true) (hnone : stored.session.transportHeadTag = none) :
    RowSound true profile key (required key stored) where
  chain := h.chain
  headCount := h.headCount
  eventCount := h.eventCount
  room := h.room
  opened _ := h.opened hopened
  closed hclosed := by cases hclosed
  markers := h.markers
  healthSet := h.healthSet
  unhealthy _ := rfl
  transport tag htag := by
    cases htag
    obtain ⟨hreceipts, -⟩ := h.direct hnone
    refine ⟨hprofile, ⟨0, none⟩, 0, rfl, rfl, ?_, ?_, fun hpending => by cases hpending⟩
    · show verifyReceipts key stored.events [] none 0 stored.receipts = _
      rw [hreceipts]
      rfl
    · show stored.receipts.length = 0
      rw [hreceipts]
      rfl
  direct htag := by cases htag

/-- The receipt of a chunk covers all events of its session. -/
theorem RowSound.withReceipt {chunk : CaptureTransportChunk} {intakes : List CaptureIntake} {admittedAt : UtcDatetime}
    {head : TransportHead} (h : RowSound pending profile chunk.session stored) (hprofile : profile.isTransport = true)
    (hhead : stored.transportHead = some head)
    (hbatch : ∀ receipt ∈ stored.receipts, receipt.batchRef = chunk.batchRef →
      receipt.chunkCount = chunk.chunkCount ∧ receipt.chunkIndex ≠ chunk.chunkIndex) :
    RowSound false profile chunk.session
      (withReceipt chunk.session stored (newReceipt chunk intakes admittedAt stored head)) where
  chain := h.chain
  headCount := h.headCount
  eventCount := h.eventCount
  room := h.room
  opened := h.opened
  closed := h.closed
  markers := h.markers
  healthSet := h.healthSet
  unhealthy := h.unhealthy
  transport tag htag := by
    cases htag
    have htagged : ∃ before, stored.session.transportHeadTag = some before := by
      rw [← Option.isSome_iff_exists, Option.isSome_iff_ne_none]
      intro hnone
      cases hhead.symm.trans (h.direct hnone).2
    obtain ⟨before, hbefore⟩ := htagged
    obtain ⟨-, same, covered, hsound⟩ := h.transport before hbefore
    cases hhead.symm.trans hsound.stored
    have hcovered := (verifyReceipts_le hsound.receipts (Nat.zero_le _)).2
    refine ⟨hprofile, _, stored.session.eventCount, rfl, rfl, ?_, ?_, fun _ hne => absurd h.eventCount hne⟩
    · refine verifyReceipts_concat hsound.receipts ⟨rfl, ?_, rfl, chunk.valid.1, fun other hother hsame => ?_, ?_, ?_, ?_⟩
      · show head.receiptCount + 1 = stored.receipts.length + 1
        rw [hsound.count]
      · obtain ⟨hcount, hindex⟩ := hbatch other hother hsame
        exact ⟨hcount, hindex⟩
      · exact hcovered.trans h.eventCount.ge
      · exact h.eventCount.le
      · show eventTagAt stored.events stored.session.eventCount = stored.head.headEventTag
        rw [h.eventCount, eventTagAt_of_verifyEvents h.chain]
    · show (stored.receipts ++ [_]).length = head.receiptCount + 1
      rw [List.length_append, List.length_singleton, hsound.count]
  direct htag := by cases htag

/-- A session that is being deleted is sound. -/
theorem RowSound.deleting (h : RowSound pending profile key stored) : RowSound pending profile key (deleting stored) where
  chain := h.chain
  headCount := h.headCount
  eventCount := h.eventCount
  room := h.room
  opened hopened := by cases hopened
  closed hclosed := by cases hclosed
  markers := h.markers
  healthSet := h.healthSet
  unhealthy := h.unhealthy
  transport tag htag := by
    obtain ⟨hprofile, head, covered, hsound⟩ := h.transport tag htag
    exact ⟨hprofile, head, covered, hsound.stored, hsound.tagged, hsound.receipts, hsound.count, hsound.tail⟩
  direct := h.direct

end CaptureStore

end SalienceGate
