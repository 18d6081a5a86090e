import SalienceGate.Repository.Rebuilt

/-!
# What a conditional batch does

A batch stages its operations on a copy that it does not publish, and the single operations publish
each entry. `stageOperation_locked` relates one step of the two: from states with the same slot they
return the same receipt and end with the same slot. The check of the staged copy replays the staged
suffix, and never fails.
-/

namespace SalienceGate

open Checked
open Stateful hiding bind_eq_ok check_bind_eq_ok raiseIf_bind_eq_ok expect_bind_eq_ok

variable [Hashing] [Integrity] {run r s t : RunState}

/-! ## One operation -/

/-- The locked part of the operation on its own. -/
def PreparedConditionalOperation.locked (operation : PreparedConditionalOperation)
    (head : Option LedgerHead) : RunM BatchEntryReceipt :=
  match operation with
  | .event draft redacted eventId => .event <$> do
    acquireAppendSlot (← get)
    requireExpectedHead (← get) head
    appendConditionalToSlot draft redacted eventId true
  | .signal record => .signal <$> do
    acquireSlotAtHead (← get)
    requireExpectedHead (← get) head
    recordDirectLocked (.signal record) true true

/-- The checks of a run before a conditional operation pass, at its own head. -/
structure RunState.Verified (run : RunState) : Prop where
  acquired : acquireAppendSlot run = .ok ()
  expected : requireExpectedHead run run.slot.ledgerHead = .ok ()

/-- The head of a staged entry passes the checks. -/
theorem IsStaged.verified {slot : Slot} {record : LedgerRecord} {staged : StagedEntry}
    (h : IsStaged slot record staged) (hledger : t.slot.ledger = slot.ledger ++ [staged.entry])
    (hrun : t.slot.runId = slot.runId) (hhead : t.slot.ledgerHead = some staged.head)
    (htrusted : t.Trusted) : t.Verified ∧ verifyHead t = .ok () := by
  have hvacant : t.isVacant ≠ true := by simp [RunState.isVacant, hledger]
  have hverify : verifyHead t = .ok () := by
    have hentry := h.entry_eq
    have hfields := h.head_eq
    have hprojection := htrusted.projection
    rw [hhead, Option.map_some] at hprojection
    unfold verifyHead verifyLastEntry
    simp only [expect_bind_eq_ok, check_bind_eq_ok, raiseIf_eq_ok, hhead, hledger,
      htrusted.head, hprojection]
    refine ⟨staged.head, rfl, by simp, by simp, ?_, by simp, ?_⟩
    · simp [hfields, Slot.nextHead, hrun, hledger, h.position_eq, Slot.lastChainTag]
    · simp [hfields, Slot.nextHead]
  refine ⟨⟨?_, ?_⟩, hverify⟩
  · unfold acquireAppendSlot
    rw [raiseIf_eq_ok]
    exact fun hboth => hvacant hboth.1
  · unfold requireExpectedHead
    rw [if_neg hvacant, check_bind_eq_ok, raiseIf_eq_ok]
    exact ⟨hverify, by simp [hhead]⟩

/-- What a step of the staging loop does, with the step of the single operation beside it. -/
theorem appendConditionalToSlot_publish (hslot : s.slot = r.slot)
    {draft : NormalizedTraceEventDraft} {redacted : RedactedTraceEventDraft} {eventId : UUID4}
    {receipt : AppendReceipt}
    (h : appendConditionalToSlot draft redacted eventId false s = .ok receipt t) :
    (t = s ∧ receipt.disposition = .duplicate
        ∧ appendConditionalToSlot draft redacted eventId true r = .ok receipt r)
      ∨ ∃ event staged, event.sourceEventId = redacted.sourceEventId
        ∧ IsStaged r.slot (.traceEvent event) staged ∧ t = s.append staged
        ∧ receipt.disposition = .appended
        ∧ appendConditionalToSlot draft redacted eventId true r
          = .ok receipt (r.append staged).trust := by
  unfold appendConditionalToSlot at h ⊢
  rw [get_bind] at h ⊢
  rw [hslot] at h
  cases hknown : r.slot.projection.eventsBySource.get? draft.sourceEventId with
  | some existing =>
    simp only [hknown] at h ⊢
    obtain ⟨hsame, hreceipt, rfl⟩ := appendConditionalExisting_eq_ok h
    rw [hslot] at hreceipt
    refine .inl ⟨rfl, ?_, ?_⟩
    · obtain ⟨position, -, hcreate⟩ := bind_eq_ok.mp hreceipt
      rw [mapError_eq_ok] at hcreate
      obtain ⟨hvalid, rfl⟩ := validate_eq_ok.mp hcreate
      rfl
    · unfold appendConditionalExisting
      rw [get_bind, if_pos hsame]
      exact lift_eq_ok.mpr ⟨hreceipt, rfl⟩
  | none =>
    simp only [hknown] at h ⊢
    unfold appendNewEventToSlot at h ⊢
    rw [get_bind] at h ⊢
    rw [hslot] at h
    obtain ⟨_, hparents, h⟩ := lift_bind_eq_ok.mp h
    obtain ⟨event, hevent, h⟩ := lift_bind_eq_ok.mp h
    obtain ⟨staged, hstaged, h⟩ := lift_bind_eq_ok.mp h
    obtain ⟨created, hreceipt, h⟩ := lift_bind_eq_ok.mp h
    cases h
    refine .inr ⟨event, staged, by rw [(traceEvent_eq_ok hevent).2.1], stageEntry_eq_ok hstaged, rfl,
      ?_, ?_⟩
    · rw [mapError_eq_ok] at hreceipt
      obtain ⟨hvalid, rfl⟩ := validate_eq_ok.mp hreceipt
      rfl
    · rw [lift_bind_of_ok hparents, lift_bind_of_ok hevent, lift_bind_of_ok hstaged,
        lift_bind_of_ok hreceipt]
      rfl

/-- The same for a direct record. -/
theorem recordDirectLocked_publish (hslot : s.slot = r.slot) (hverify : verifyHead r = .ok ())
    {record : DirectLedgerRecord} {receipt : LedgerReceipt}
    (h : recordDirectLocked record false false s = .ok receipt t) :
    (t = s ∧ receipt.appended = false
        ∧ recordDirectLocked record true true r = .ok receipt r)
      ∨ (record.key ∉ r.slot.directRecords ∧ ∃ staged, IsStaged r.slot record.toLedgerRecord staged
        ∧ t = (s.append staged).withDirect record receipt
        ∧ receipt = .ofEntry staged.entry record.recordId
        ∧ recordDirectLocked record true true r
          = .ok receipt ((r.append staged).trust.withDirect record receipt)) := by
  unfold recordDirectLocked at h ⊢
  rw [get_bind] at h ⊢
  simp only [Bool.false_eq_true, if_false, if_true] at h ⊢
  rw [lift_bind_of_ok hverify]
  rw [hslot] at h
  cases hknown : r.slot.directRecords.get? record.key with
  | some existing =>
    simp only [hknown] at h ⊢
    obtain ⟨hreceipt, rfl⟩ := lift_eq_ok.mp h
    refine .inl ⟨rfl, ?_, lift_eq_ok.mpr ⟨hreceipt, rfl⟩⟩
    unfold recordExistingDirect at hreceipt
    rw [raiseIf_bind_eq_ok, pure_eq_ok] at hreceipt
    rw [← hreceipt.2]
    rfl
  | none =>
    simp only [hknown] at h ⊢
    rw [Dict.get?_eq_none] at hknown
    unfold recordNewDirect at h ⊢
    rw [get_bind] at h ⊢
    rw [hslot] at h
    obtain ⟨staged, hstaged, h⟩ := lift_bind_eq_ok.mp h
    cases h
    refine .inr ⟨hknown, staged, stageEntry_eq_ok hstaged, rfl, rfl, ?_⟩
    rw [lift_bind_of_ok hstaged]
    rfl

omit [Integrity] in
/-- A verified run with a head has entries. -/
theorem RunState.isVacant_of_head (h : run.slot.ledgerHead ≠ none) : run.isVacant ≠ true := by
  unfold RunState.isVacant
  rw [Ne, Bool.and_eq_true, not_and]
  intro _ hnone
  exact h (Option.isNone_iff_eq_none.mp hnone)

/-- The head of a verified run passes the checks. -/
theorem RunState.Verified.verifyHead_eq (hrun : run.Verified) (h : run.slot.ledgerHead ≠ none) :
    verifyHead run = .ok () := by
  have hexpected := hrun.expected
  unfold requireExpectedHead at hexpected
  rw [if_neg (RunState.isVacant_of_head h)] at hexpected
  exact (check_bind_eq_ok.mp hexpected).1

omit [Integrity] in
theorem acquireSlotAtHead_eq (h : run.slot.ledgerHead ≠ none) : acquireSlotAtHead run = .ok () := by
  have hvacant := RunState.isVacant_of_head h
  have hacquire : acquireSlot run = .ok () := by
    unfold acquireSlot
    rw [raiseIf_bind_eq_ok, raiseIf_eq_ok]
    exact ⟨fun hboth => hvacant hboth.1, hvacant⟩
  unfold acquireSlotAtHead
  rw [hacquire]

/-- What an operation of a batch does on the copy, it does on its own. -/
theorem stageOperation_locked (hslot : s.slot = r.slot) (hr : r.Verified)
    {operation : PreparedConditionalOperation} {receipt : BatchEntryReceipt}
    (h : stageOperation operation s = .ok receipt t)
    (hgenesis : r.slot.ledgerHead = none → receipt.isEvent = true) :
    (t = s ∧ receipt.appended = false
        ∧ operation.locked r.slot.ledgerHead r = .ok receipt r)
      ∨ ∃ u, operation.locked r.slot.ledgerHead r = .ok receipt u ∧ u.slot = t.slot
        ∧ receipt.appended = true ∧ u.Verified ∧ u.Trusted ∧ u.slot.ledgerHead ≠ none := by
  cases operation with
  | event draft redacted eventId =>
    simp only [stageOperation, Functor.map, EStateM.map] at h
    cases hone : appendConditionalToSlot draft redacted eventId false s with
    | error e m => rw [hone] at h; cases h
    | ok one m =>
      rw [hone] at h
      cases h
      have hlocked : ∀ u, appendConditionalToSlot draft redacted eventId true r = .ok one u →
          (PreparedConditionalOperation.event draft redacted eventId).locked r.slot.ledgerHead r
            = .ok (.event one) u := by
        intro u hu
        unfold PreparedConditionalOperation.locked
        simp only [Functor.map, EStateM.map, get_bind, lift_bind_of_ok hr.acquired,
          lift_bind_of_ok hr.expected, hu]
      rcases appendConditionalToSlot_publish hslot hone with
        ⟨rfl, hduplicate, hsame⟩ | ⟨event, staged, hsource, hstaged, rfl, happended, hsame⟩
      · exact .inl ⟨rfl, by simp [BatchEntryReceipt.appended, hduplicate], hlocked r hsame⟩
      · have htrusted : (r.append staged).trust.Trusted := ⟨rfl, rfl⟩
        have hverified := hstaged.verified (t := (r.append staged).trust) rfl rfl rfl htrusted
        refine .inr ⟨_, hlocked _ hsame, ?_, by simp [BatchEntryReceipt.appended, happended],
          hverified.1, htrusted, Option.some_ne_none _⟩
        simp only [RunState.trust, RunState.append, hslot]
  | signal signal =>
    simp only [stageOperation, Functor.map, EStateM.map] at h
    cases hone : recordDirectLocked (.signal signal) false false s with
    | error e m => rw [hone] at h; cases h
    | ok one m =>
      rw [hone] at h
      cases h
      have hhead : r.slot.ledgerHead ≠ none := fun hnone => Bool.false_ne_true (hgenesis hnone)
      have hlocked : ∀ u, recordDirectLocked (.signal signal) true true r = .ok one u →
          (PreparedConditionalOperation.signal signal).locked r.slot.ledgerHead r
            = .ok (.signal one) u := by
        intro u hu
        unfold PreparedConditionalOperation.locked
        simp only [Functor.map, EStateM.map, get_bind, lift_bind_of_ok (acquireSlotAtHead_eq hhead),
          lift_bind_of_ok hr.expected, hu]
      rcases recordDirectLocked_publish hslot (hr.verifyHead_eq hhead) hone with
        ⟨rfl, hrepeated, hsame⟩ | ⟨hfresh, staged, hstaged, rfl, rfl, hsame⟩
      · exact .inl ⟨rfl, hrepeated, hlocked r hsame⟩
      · have htrusted : ((r.append staged).trust.withDirect (.signal signal)
            (.ofEntry staged.entry signal.signalId)).Trusted := ⟨rfl, rfl⟩
        have hverified := hstaged.verified (t := (r.append staged).trust.withDirect (.signal signal)
          (.ofEntry staged.entry signal.signalId)) rfl rfl rfl htrusted
        refine .inr ⟨_, hlocked _ hsame, ?_, rfl, hverified.1, htrusted, Option.some_ne_none _⟩
        simp only [RunState.trust, RunState.append, RunState.withDirect, hslot]

/-! ## Preparing a batch -/

section

variable [Redactor] [Serialization]

/-- An operation with what preparing it computes. -/
inductive Prepares : ConditionalAppendOperation → PreparedConditionalOperation → Prop where
  | event (event : NormalizedTraceEventDraft) (redacted : RedactedTraceEventDraft) (eventId : UUID4)
      (metadata : validateMetadata event = .ok ()) (redact : redactDraft event = .ok redacted) :
      Prepares (.appendEvent event eventId) (.event event redacted eventId)
  | signal (signal : Signal)
      (content : validateRecordContent (.signal signal) "signal" = .ok ()) :
      Prepares (.recordSignal signal) (.signal signal)

omit [Hashing] [Integrity] [Redactor] [Serialization] in
/-- One more operation belongs to the run of the batch. -/
theorem BatchPreparation.add_eq_ok {state next : BatchPreparation}
    {copied : ConditionalAppendOperation} {prepared : PreparedConditionalOperation}
    (h : state.add copied prepared = .ok next) :
    next.prepared = state.prepared ++ [prepared] ∧ next.runId = some prepared.runId
      ∧ ∀ runId ∈ state.runId, prepared.runId = runId := by
  unfold BatchPreparation.add at h
  rw [raiseIf_bind_eq_ok, pure_eq_ok] at h
  obtain ⟨hsame, rfl⟩ := h
  have hall : ∀ runId ∈ state.runId, prepared.runId = runId := by
    intro runId hmem
    by_contra hne
    exact hsame ⟨runId, hmem, hne⟩
  refine ⟨rfl, ?_, hall⟩
  cases hrun : state.runId with
  | none => rfl
  | some runId =>
    rw [hall runId (by rw [hrun]; rfl)]
    rfl

/-- A round of the preparation. -/
theorem prepareOperation_eq_ok {state next : BatchPreparation}
    {argument : Argument ConditionalAppendOperation}
    (h : prepareOperation state argument = .ok next) :
    ∃ operation prepared, argument = .exact operation ∧ Prepares operation prepared
      ∧ next.prepared = state.prepared ++ [prepared] ∧ next.runId = some prepared.runId
      ∧ ∀ runId ∈ state.runId, prepared.runId = runId := by
  cases argument with
  | foreign => cases h
  | malformed => cases h
  | exact operation =>
    cases operation with
    | appendEvent event eventId =>
      simp only [prepareOperation] at h
      obtain ⟨-, h⟩ := raiseIf_bind_eq_ok.mp h
      obtain ⟨hmetadata, h⟩ := check_bind_eq_ok.mp h
      obtain ⟨redacted, hredact, h⟩ := bind_eq_ok.mp h
      have hadded := BatchPreparation.add_eq_ok h
      exact ⟨_, _, rfl, .event event redacted eventId hmetadata hredact, hadded⟩
    | recordSignal signal =>
      simp only [prepareOperation] at h
      obtain ⟨-, h⟩ := raiseIf_bind_eq_ok.mp h
      obtain ⟨hcontent, h⟩ := check_bind_eq_ok.mp h
      have hadded := BatchPreparation.add_eq_ok h
      exact ⟨_, _, rfl, .signal signal hcontent, hadded⟩

/-- The loop of the preparation. -/
theorem foldlM_prepareOperation {arguments : List (Argument ConditionalAppendOperation)}
    {state next : BatchPreparation} (h : arguments.foldlM prepareOperation state = .ok next) :
    ∃ operations prepared, arguments = operations.map .exact
      ∧ List.Forall₂ Prepares operations prepared ∧ next.prepared = state.prepared ++ prepared
      ∧ (∀ runId ∈ state.runId, next.runId = some runId)
      ∧ ∀ operation ∈ prepared, next.runId = some operation.runId := by
  induction arguments generalizing state with
  | nil =>
    obtain rfl := foldlM_nil_eq_ok.mp h
    exact ⟨[], [], rfl, .nil, by simp, fun runId hmem => hmem,
      fun operation hmem => absurd hmem List.not_mem_nil⟩
  | cons argument arguments ih =>
    obtain ⟨middle, hround, hrest⟩ := foldlM_cons_eq_ok.mp h
    obtain ⟨operation, prepared, rfl, hprepares, hprepared, hrun, hsame⟩ :=
      prepareOperation_eq_ok hround
    obtain ⟨operations, rest, rfl, hall, hnext, hkeep, hruns⟩ := ih hrest
    have hfirst : next.runId = some prepared.runId := hkeep prepared.runId hrun
    refine ⟨operation :: operations, prepared :: rest, rfl, .cons hprepares hall, ?_, ?_, ?_⟩
    · rw [hnext, hprepared, List.append_assoc]
      rfl
    · intro runId hmem
      rw [hfirst, hsame runId hmem]
    · intro other hmem
      rcases List.mem_cons.mp hmem with rfl | hmem
      · exact hfirst
      · exact hruns other hmem

/-- A prepared batch is a list of operations of one run. -/
theorem prepareConditionalBatch_eq_ok
    {arguments : Argument (List (Argument ConditionalAppendOperation))}
    {batch : UUID4 × List PreparedConditionalOperation}
    (h : prepareConditionalBatch arguments = .ok batch) :
    ∃ operations, arguments = .exact (operations.map .exact)
      ∧ List.Forall₂ Prepares operations batch.2
      ∧ ∀ operation ∈ batch.2, operation.runId = batch.1 := by
  cases arguments with
  | foreign => cases h
  | malformed => cases h
  | exact arguments =>
    simp only [prepareConditionalBatch, prepareOperations] at h
    obtain ⟨-, h⟩ := raiseIf_bind_eq_ok.mp h
    obtain ⟨state, hloop, h⟩ := bind_eq_ok.mp h
    obtain ⟨-, h⟩ := raiseIf_bind_eq_ok.mp h
    obtain ⟨runId, hrun, h⟩ := expect_bind_eq_ok.mp h
    cases pure_eq_ok.mp h
    obtain ⟨operations, prepared, rfl, hall, hprepared, -, hruns⟩ := foldlM_prepareOperation hloop
    refine ⟨operations, rfl, ?_, ?_⟩
    · rw [hprepared]
      exact hall
    · intro operation hmem
      rw [hprepared] at hmem
      have hsame := hruns operation hmem
      rw [hrun] at hsame
      exact (Option.some.inj hsame).symm

/-! ## The check of the staged copy -/

/-- A step of a batch that appends: the slot grows by an event or a signal. -/
inductive BatchStep (slot : Slot) : Slot → Prop where
  | event (event : TraceEvent) (staged : StagedEntry) (h : IsStaged slot (.traceEvent event) staged)
      (plain : isCollisionSource event.sourceEventId = false) :
      BatchStep slot (slot.append staged)
  | direct (record : DirectLedgerRecord) (staged : StagedEntry)
      (h : IsStaged slot record.toLedgerRecord staged) (fresh : record.key ∉ slot.directRecords) :
      BatchStep slot (slot.addDirect staged record)

/-- What an operation of a batch does to the copy. -/
theorem stageOperation_eq_ok {operation : ConditionalAppendOperation}
    {prepared : PreparedConditionalOperation} (hprepares : Prepares operation prepared)
    {receipt : BatchEntryReceipt} (h : stageOperation prepared s = .ok receipt t) :
    (t = s ∧ receipt.appended = false) ∨ (receipt.appended = true ∧ BatchStep s.slot t.slot) := by
  cases hprepares with
  | event event redacted eventId metadata redact =>
    simp only [stageOperation, Functor.map, EStateM.map] at h
    split at h
    · next one m hone =>
      cases h
      rcases appendConditionalToSlot_publish rfl hone with
        ⟨ht, hduplicate, -⟩ | ⟨added, staged, hsource, hstaged, rfl, happended, -⟩
      · exact .inl ⟨ht, by simp [BatchEntryReceipt.appended, hduplicate]⟩
      · have hplain : isCollisionSource added.sourceEventId = false := by
          rw [hsource, sourceEventId_redactDraft redact]
          exact isCollisionSource_of_validateMetadata metadata
        exact .inr ⟨by simp [BatchEntryReceipt.appended, happended],
          .event added staged hstaged hplain⟩
    · cases h
  | signal signal content =>
    simp only [stageOperation, Functor.map, EStateM.map] at h
    split at h
    · next one m hone =>
      cases h
      rcases recordDirectLocked_eq_ok hone with
        ⟨ht, existing, -, rfl⟩ | ⟨hfresh, staged, hstaged, rfl, rfl⟩
      · exact .inl ⟨ht, rfl⟩
      · exact .inr ⟨rfl, .direct (.signal signal) staged hstaged hfresh⟩
    · cases h

end

variable {slot u : Slot}

theorem BatchStep.extends (h : BatchStep slot u) : Extends slot u := by
  cases h with
  | event event staged h plain => exact .event event staged h plain
  | direct record staged h fresh => exact .direct record staged h fresh

/-- A step of a batch leaves the cycles and the deliveries alone. -/
theorem BatchStep.caches (h : BatchStep slot u) : u.runId = slot.runId
    ∧ u.cycleRecords = slot.cycleRecords ∧ u.deliveryRecords = slot.deliveryRecords
    ∧ u.collisionReceipts = slot.collisionReceipts := by
  cases h with
  | event => exact ⟨rfl, rfl, rfl, rfl⟩
  | direct => exact ⟨rfl, rfl, rfl, rfl⟩

/-- The entry of a step authenticates on the cursor before it, and leads to the cursor after it. -/
theorem BatchStep.authenticates (hslot : slot.Replays) (h : BatchStep slot u) :
    ∃ entry, u.ledger = slot.ledger ++ [entry]
      ∧ authenticateCandidate slot.runId slot.cursor entry = .ok u.cursor := by
  have hstep : ∀ (record : LedgerRecord) (staged : StagedEntry), IsStaged slot record staged →
      u.ledger = slot.ledger ++ [staged.entry] → u.ledgerHead = some staged.head →
      u.projection = staged.projected →
      u.directRecords = addDirectRecord slot.directRecords staged.entry →
      authenticateCandidate slot.runId slot.cursor staged.entry = .ok u.cursor := by
    intro record staged hstaged hledger hhead hprojection hdirect
    have hchain : staged.head.chainTag = staged.entry.chainTag :=
      congrArg LedgerHeadFields.chainTag hstaged.head_eq
    unfold authenticateCandidate
    rw [raiseIf_bind_of_not (not_not.mpr hstaged.runId_eq), hstaged.authenticateEntry_eq hslot]
    unfold Slot.cursor
    rw [hledger, hhead, hprojection, hdirect, List.length_append, Option.map_some, Option.map_some,
      hchain]
    rfl
  cases h with
  | event event staged h =>
    refine ⟨staged.entry, rfl, hstep _ staged h rfl rfl rfl ?_⟩
    unfold addDirectRecord
    rw [h.record_eq]
    rfl
  | direct record staged h =>
    refine ⟨staged.entry, rfl, hstep _ staged h rfl rfl rfl ?_⟩
    unfold addDirectRecord
    rw [h.record_eq]
    cases record <;> rfl

/-- What the steps of a batch lead to: the suffix authenticates, and the other caches are kept. -/
structure Batched (slot u : Slot) : Prop where
  extended : Relation.ReflTransGen Extends slot u
  caches : u.runId = slot.runId ∧ u.cycleRecords = slot.cycleRecords
    ∧ u.deliveryRecords = slot.deliveryRecords ∧ u.collisionReceipts = slot.collisionReceipts
  suffix : ∃ entries, u.ledger = slot.ledger ++ entries
    ∧ entries.foldlM (authenticateCandidate slot.runId) slot.cursor = .ok u.cursor

theorem Batched.refl (slot : Slot) : Batched slot slot where
  extended := .refl
  caches := ⟨rfl, rfl, rfl, rfl⟩
  suffix := ⟨[], (List.append_nil _).symm, rfl⟩

/-- The extensions of a settled slot are settled. -/
theorem Slot.Settled.of_extended (hslot : slot.Settled) (h : Relation.ReflTransGen Extends slot u) :
    u.Settled := by
  induction h with
  | refl => exact hslot
  | tail _ hstep ih => exact hstep.settled ih

/-- One more step of a batch. -/
theorem Batched.tail {v : Slot} (hslot : slot.Settled) (h : Batched slot u) (hstep : BatchStep u v) :
    Batched slot v := by
  obtain ⟨hrun, hcycles, hdeliveries, hcollisions⟩ := h.caches
  obtain ⟨hrun', hcycles', hdeliveries', hcollisions'⟩ := hstep.caches
  obtain ⟨entries, hledger, hloop⟩ := h.suffix
  obtain ⟨entry, hentry, hround⟩ := hstep.authenticates (hslot.of_extended h.extended).toReplays
  refine ⟨h.extended.tail hstep.extends, ⟨hrun'.trans hrun, hcycles'.trans hcycles,
    hdeliveries'.trans hdeliveries, hcollisions'.trans hcollisions⟩, entries ++ [entry], ?_, ?_⟩
  · rw [hentry, hledger, List.append_assoc]
  · rw [hrun] at hround
    exact foldlM_append_eq_ok.mpr ⟨u.cursor, hloop, foldlM_cons_eq_ok.mpr ⟨_, hround, rfl⟩⟩

/-- The check of a staged copy passes. -/
theorem Batched.verifyStaged_eq (hslot : slot.Settled) (h : Batched slot u) {mutated : Bool}
    (hmutated : mutated = true → slot.ledger.length < u.ledger.length) :
    verifyStaged slot u mutated = .ok () := by
  have hsettled := hslot.of_extended h.extended
  have hcomplete := validateCompleteProjection_eq_ok.mpr hsettled.complete
  unfold verifyStaged
  split
  · next happended =>
    obtain ⟨hrun, hcycles, hdeliveries, hcollisions⟩ := h.caches
    obtain ⟨entries, hledger, hloop⟩ := h.suffix
    have hlonger := hmutated happended
    have hne : u.ledger ≠ [] := fun hnil => by simp [hnil] at hlonger
    obtain ⟨head, hhead⟩ := Option.ne_none_iff_exists'.mp (mt hsettled.vacant.mp hne)
    obtain ⟨hheadRun, hcount, -, htag⟩ := hsettled.sealed head hhead
    have hprevious : u.cursor.previous = some head.chainTag := by
      show u.ledgerHead.map (·.chainTag) = some head.chainTag
      rw [hhead, Option.map_some]
    have hprojectionTag : u.cursor.projectionTag = some head.projectionTag := by
      show u.ledgerHead.map (·.projectionTag) = some head.projectionTag
      rw [hhead, Option.map_some]
    have hdrop : u.ledger.drop slot.ledger.length = entries := by
      rw [hledger, List.drop_left]
    have htake : u.ledger.take slot.ledger.length = slot.ledger := by
      rw [hledger, List.take_left]
    unfold verifyConditionalShadow
    refine expect_bind_eq_ok.mpr ⟨head, hhead, ?_⟩
    refine raiseIf_bind_eq_ok.mpr ⟨by simp [hrun, htake, hlonger], ?_⟩
    refine bind_eq_ok.mpr ⟨u.cursor, by rw [hdrop]; exact hloop, ?_⟩
    refine raiseIf_bind_eq_ok.mpr ⟨?_, check_bind_eq_ok.mpr ⟨hcomplete, ?_⟩⟩
    · rw [hprevious, hprojectionTag, hheadRun, hrun, hcount]
      rw [hheadRun, hrun, hcount] at htag
      simp [← htag]
    · rw [raiseIf_eq_ok, hcycles, hdeliveries, hcollisions]
      simp [Slot.cursor]
  · exact hcomplete

/-- What the staging loop leads to. -/
theorem mapM_stageOperation_eq_ok [Redactor] [Serialization]
    {operations : List ConditionalAppendOperation} {batch : List PreparedConditionalOperation}
    (hall : List.Forall₂ Prepares operations batch) (hslot : slot.Settled)
    (hs : Batched slot s.slot) {receipts : List BatchEntryReceipt}
    (h : batch.mapM stageOperation s = .ok receipts t) :
    Batched slot t.slot
      ∧ s.slot.ledger.length + receipts.countP (·.appended) = t.slot.ledger.length := by
  induction hall generalizing s receipts with
  | nil =>
    rw [List.mapM_nil] at h
    cases h
    exact ⟨hs, rfl⟩
  | cons hprepares hall ih =>
    rw [List.mapM_cons] at h
    obtain ⟨receipt, m, hstage, h⟩ := Stateful.bind_eq_ok.mp h
    obtain ⟨rest, last, hloop, h⟩ := Stateful.bind_eq_ok.mp h
    cases h
    rcases stageOperation_eq_ok hprepares hstage with ⟨rfl, hrepeated⟩ | ⟨happended, hstep⟩
    · obtain ⟨hbatched, hlength⟩ := ih hs hloop
      rw [List.countP_cons, hrepeated]
      exact ⟨hbatched, hlength⟩
    · have hlonger : m.slot.ledger.length = s.slot.ledger.length + 1 := by
        obtain ⟨entry, hentry, -⟩ := hstep.authenticates (hslot.of_extended hs.extended).toReplays
        rw [hentry, List.length_append, List.length_singleton]
      obtain ⟨hbatched, hlength⟩ := ih (hs.tail hslot hstep) hloop
      rw [List.countP_cons, happended, if_pos rfl]
      exact ⟨hbatched, by omega⟩

/-! ## The whole batch -/

/-- A batch leaves the run as it is if it raises. -/
theorem atomic_appendRecordsLocked [Serialization] {batch : List PreparedConditionalOperation}
    {head : Option LedgerHead} : Atomic (appendRecordsLocked batch head) := by
  unfold appendRecordsLocked
  exact .get_bind fun _ => .lift_bind fun _ _ => .lift_bind fun _ _ => .onCopy_bind fun _ =>
    .lift_bind fun _ _ => atomic_modify_pure

/-- The expected head of an operation that goes on is the head of the run. -/
theorem requireExpectedHead_eq_ok {head : Option LedgerHead}
    (h : requireExpectedHead run head = .ok ()) : head = run.slot.ledgerHead := by
  unfold requireExpectedHead at h
  split at h
  · next hvacant =>
    unfold RunState.isVacant at hvacant
    rw [Bool.and_eq_true, Option.isNone_iff_eq_none] at hvacant
    rw [raiseIf_eq_ok, not_not] at h
    rw [h, hvacant.2]
  · obtain ⟨-, h⟩ := check_bind_eq_ok.mp h
    rw [raiseIf_eq_ok, not_or, not_not] at h
    exact h.2.symm

/-- What a batch does when it returns. -/
theorem appendRecordsLocked_eq_ok [Serialization] {batch : List PreparedConditionalOperation}
    {head : Option LedgerHead} {receipt : ConditionalBatchReceipt}
    (h : appendRecordsLocked batch head run = .ok receipt t) :
    run.Verified ∧ head = run.slot.ledgerHead ∧ receipt.initialHead = run.slot.ledgerHead
      ∧ ∃ shadow, batch.mapM stageOperation run = .ok receipt.receipts shadow
        ∧ shadow.slot.ledgerHead = some receipt.finalHead
        ∧ t = if receipt.receipts.any (·.appended) then run.commitShadow shadow else run := by
  unfold appendRecordsLocked at h
  rw [get_bind] at h
  obtain ⟨hacquire, h⟩ := Stateful.check_bind_eq_ok.mp h
  obtain ⟨hexpected, h⟩ := Stateful.check_bind_eq_ok.mp h
  obtain ⟨staged, m, hstaged, h⟩ := Stateful.bind_eq_ok.mp h
  obtain ⟨hloop, rfl⟩ := onCopy_eq_ok.mp hstaged
  obtain ⟨created, hchecked, h⟩ := lift_bind_eq_ok.mp h
  cases h
  obtain rfl := requireExpectedHead_eq_ok hexpected
  unfold checkStagedBatch at hchecked
  obtain ⟨final, hfinal, hchecked⟩ := expect_bind_eq_ok.mp hchecked
  obtain ⟨-, hchecked⟩ := check_bind_eq_ok.mp hchecked
  rw [boundedConditionalBatchReceipt, mapError_eq_ok] at hchecked
  obtain ⟨hvalid, rfl⟩ := validate_eq_ok.mp hchecked
  exact ⟨⟨hacquire, hexpected⟩, rfl, rfl, staged.2, hloop, hfinal, rfl⟩

/-- A batch extends a live run. -/
theorem appendRecordsLocked_endsIn [Redactor] [Serialization] (hrun : run.Live)
    {operations : List ConditionalAppendOperation} {batch : List PreparedConditionalOperation}
    (hall : List.Forall₂ Prepares operations batch) {head : Option LedgerHead} :
    EndsIn (appendRecordsLocked batch head) run (Extended run) := by
  refine .of_atomic atomic_appendRecordsLocked hrun.extended fun receipt t h => ?_
  obtain ⟨-, -, -, shadow, hloop, hhead, rfl⟩ := appendRecordsLocked_eq_ok h
  have hbatched := (mapM_stageOperation_eq_ok hall hrun.settled (.refl run.slot) hloop).1
  split
  · have hsome : (run.publishShadow shadow).slot.ledgerHead ≠ none := by
      show shadow.slot.ledgerHead ≠ none
      rw [hhead]
      exact Option.some_ne_none _
    exact ⟨hbatched.extended, RunState.trusted_trust _ hsome⟩
  · exact hrun.extended

end SalienceGate
