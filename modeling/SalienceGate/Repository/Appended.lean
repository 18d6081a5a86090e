import SalienceGate.Repository.Settled

/-!
# Storing events and direct records

What the methods that append an event or store a direct record do: each of them raises and leaves
the run as it is, or finds the record and returns its receipt, or extends the slot by one entry.
`Live` is what a run satisfies between two operations of the repository, and `Extended` and
`Continued` what an operation may do to it.
-/

namespace SalienceGate

open Checked
open Stateful hiding bind_eq_ok check_bind_eq_ok raiseIf_bind_eq_ok expect_bind_eq_ok

variable [Hashing] [Integrity] {run t : RunState} {record : LedgerRecord} {staged : StagedEntry}

/-! ## Live runs -/

/-- The repository trusts what the slot holds. -/
structure RunState.Trusted (run : RunState) : Prop where
  head : run.trustedHead = run.slot.ledgerHead
  projection : run.trustedProjection = run.slot.ledgerHead.map fun _ => run.slot.projection

/-- A run between two operations. -/
structure RunState.Live (run : RunState) : Prop where
  settled : run.slot.Settled
  trusted : run.Trusted

/-- The slot was extended, and the repository trusts it. -/
structure Extended (run t : RunState) : Prop where
  slot : Relation.ReflTransGen Extends run.slot t.slot
  trusted : t.Trusted

/-- The slot was extended, or collided, and the repository trusts it. -/
structure Continued [Redactor] (run t : RunState) : Prop where
  slot : Relation.ReflTransGen Grows run.slot t.slot
  trusted : t.Trusted

theorem live_empty (runId : UUID4) : (RunState.empty runId).Live where
  settled := settled_emptySlot runId
  trusted := ⟨rfl, rfl⟩

theorem RunState.Live.extended (h : run.Live) : Extended run run := ⟨.refl, h.trusted⟩

theorem Extended.continued [Redactor] (h : Extended run t) : Continued run t where
  slot := Relation.ReflTransGen.mono (fun _ _ => Grows.plain) _ _ h.slot
  trusted := h.trusted

theorem Continued.live [Redactor] (h : Continued run t) (hrun : run.Live) : t.Live where
  settled := by
    have hslot := h.slot
    generalize t.slot = slot at hslot
    induction hslot with
    | refl => exact hrun.settled
    | tail _ hgrows ih => exact hgrows.settled ih
  trusted := h.trusted

omit [Integrity] in
theorem RunState.trusted_trust (run : RunState) (h : run.slot.ledgerHead ≠ none) :
    run.trust.Trusted where
  head := rfl
  projection := by
    obtain ⟨head, hhead⟩ := Option.ne_none_iff_exists'.mp h
    simp only [RunState.trust, hhead, Option.map_some]

/-- A live run without entries is empty. -/
theorem RunState.Live.isVacant_iff (h : run.Live) :
    run.isVacant = true ↔ run.slot.ledgerHead = none := by
  unfold RunState.isVacant
  rw [Bool.and_eq_true, List.isEmpty_iff, Option.isNone_iff_eq_none, h.settled.vacant, and_self]

/-- A live run with entries is found. -/
theorem RunState.Live.acquireSlot_eq (h : run.Live) (hhead : run.slot.ledgerHead ≠ none) :
    acquireSlot run = .ok () := by
  have hvacant : run.isVacant ≠ true := fun hvacant => hhead (h.isVacant_iff.mp hvacant)
  unfold acquireSlot
  rw [raiseIf_bind_eq_ok, raiseIf_eq_ok]
  exact ⟨fun hboth => hvacant hboth.1, hvacant⟩

/-- The head of a live run with entries passes the checks. -/
theorem RunState.Live.verifyHead_eq (h : run.Live) (hhead : run.slot.ledgerHead ≠ none)
    (verifyProjection : Bool) : verifyHead run verifyProjection = .ok () := by
  obtain ⟨head, hsome⟩ := Option.ne_none_iff_exists'.mp hhead
  obtain ⟨hrun, hcount, hchain, htag⟩ := h.settled.sealed head hsome
  have hledger : run.slot.ledger ≠ [] := fun hnil => hhead (h.settled.vacant.mpr hnil)
  unfold verifyHead verifyLastEntry
  simp only [expect_bind_eq_ok, check_bind_eq_ok, raiseIf_eq_ok, hsome]
  refine ⟨head, rfl, hledger, ?_, ?_, ?_, not_not.mpr htag⟩
  · rw [h.trusted.head, hsome, not_not]
  · simp only [hrun, hcount, hchain, ne_eq, not_true_eq_false, or_self, not_false_eq_true]
  · rw [h.trusted.projection, hsome]
    simp

omit [Integrity] in
/-- A run with a head has a slot that is found, and the other way round. -/
theorem acquireSlot_eq_ok (h : acquireSlot run = .ok ()) : run.isVacant ≠ true := by
  unfold acquireSlot at h
  simp only [raiseIf_bind_eq_ok, raiseIf_eq_ok] at h
  exact h.2

/-! ## Events -/

omit [Integrity] in
/-- The ingestion cursor is at the last event. -/
theorem Accepted.ingestionCursor_eq {p q : Projection} {event : TraceEvent}
    (h : Accepted p (.traceEvent event) q) : q.ingestionCursor = event.sequence := by
  cases h with
  | event => rfl

omit [Hashing] [Integrity] in
/-- The event of a redacted draft. -/
theorem traceEvent_eq_ok {redacted : RedactedTraceEventDraft} {sequence : ℕ}
    {eventId newId : Option UUID4} {event : TraceEvent}
    (h : traceEvent redacted sequence eventId newId = .ok event) :
    event.sequence = sequence ∧ event.toTraceEventDraftFields = redacted.toTraceEventDraftFields
      ∧ event.payloadDigest = redacted.payloadDigest := by
  obtain ⟨id, -, hcreate⟩ := bind_eq_ok.mp h
  -- the parents of a redacted draft are in order
  have hparents : redacted.parentIds = canonicalizeParentSet redacted.parentIds := by
    have hvalid := redacted.valid
    simp only [TraceEventDraftFields.check, constrain_bind_eq_ok, refuse_bind_eq_ok] at hvalid
    exact hvalid.2.2.1
  have hok : TraceEvent.create {
      toTraceEventDraftFields := redacted.toTraceEventDraftFields
      eventId := id
      sequence
      payloadDigest := redacted.payloadDigest } = .ok event := by
    revert hcreate
    cases TraceEvent.create _ <;> simp [Except.mapError]
  obtain ⟨hvalid, rfl⟩ := validate_eq_ok.mp hok
  refine ⟨rfl, ?_, rfl⟩
  simp only [← hparents]

omit [Hashing] [Integrity] in
/-- The event of a redacted draft has its identity. -/
theorem eventIdentity_traceEvent {redacted : RedactedTraceEventDraft} {sequence : ℕ}
    {eventId newId : Option UUID4} {event : TraceEvent}
    (h : traceEvent redacted sequence eventId newId = .ok event) :
    event.eventIdentity = redacted.eventIdentity := by
  obtain ⟨-, hfields, hdigest⟩ := traceEvent_eq_ok h
  rw [TraceEvent.eventIdentity, RedactedTraceEventDraft.eventIdentity, hfields, hdigest]

/-- A draft is redacted by the redactor. -/
theorem redactDraft_eq_ok [Redactor] {draft : NormalizedTraceEventDraft}
    {redacted : RedactedTraceEventDraft} (h : redactDraft draft = .ok redacted) :
    redactEvent draft = .ok redacted := by
  unfold redactDraft at h
  split at h
  · cases throw_ne_ok.mp h
  · next event hevent =>
    unfold verifiedDraft at h
    simp only [bind_eq_ok, pure_eq_ok] at h
    obtain ⟨_, -, _, -, rfl⟩ := h
    exact hevent

/-- A redacted draft has the source identity of its draft. -/
theorem sourceEventId_redactDraft [Redactor] {draft : NormalizedTraceEventDraft}
    {redacted : RedactedTraceEventDraft} (h : redactDraft draft = .ok redacted) :
    redacted.sourceEventId = draft.sourceEventId := by
  obtain ⟨payload, -, hfields, -⟩ := redactEvent_eq_ok (redactDraft_eq_ok h)
  rw [hfields]

omit [Hashing] [Integrity] in
/-- A collision identity is one of the reserved ones. -/
theorem isCollisionSource_of_validateMetadata [Redactor] {draft : NormalizedTraceEventDraft}
    (h : validateMetadata draft = .ok ()) : isCollisionSource draft.sourceEventId = false := by
  unfold validateMetadata at h
  simp only [bind_eq_ok, raiseIf_eq_ok, not_not, List.append_eq_nil_iff] at h
  obtain ⟨redacted, -, -, hreserved⟩ := h
  by_contra hcollision
  rw [Bool.not_eq_false, isCollisionSource, List.isPrefixOf_iff_prefix] at hcollision
  have hfold : collisionPrefix.map Char.toLower <+: casefold draft.sourceEventId :=
    hcollision.map Char.toLower
  have hreservedPrefix : "saliencegate:".toList <+: collisionPrefix.map Char.toLower := by
    rw [← List.isPrefixOf_iff_prefix]
    decide
  have hprefix := List.isPrefixOf_iff_prefix.mpr (hreservedPrefix.trans hfold)
  have hmem : "source_event_id" ∈ reservedMetadata draft := by
    unfold reservedMetadata
    rw [List.mem_filterMap]
    exact ⟨_, List.mem_cons_self, if_pos hprefix⟩
  rw [hreserved] at hmem
  exact List.not_mem_nil hmem

/-- What `appendNewEventToSlot` does when it returns. -/
theorem appendNewEventToSlot_eq_ok {draft : NormalizedTraceEventDraft}
    {redacted : RedactedTraceEventDraft} {eventId newId : Option UUID4} {publish : Bool}
    {receipt : AppendReceipt}
    (h : appendNewEventToSlot draft redacted eventId newId publish run = .ok receipt t) :
    ∃ event staged, traceEvent redacted (run.slot.projection.ingestionCursor + 1) eventId newId
        = .ok event
      ∧ IsStaged run.slot (.traceEvent event) staged
      ∧ t = (run.append staged).trustIf publish := by
  unfold appendNewEventToSlot at h
  simp only [get_bind, lift_bind_eq_ok, modify_bind, pure_run, EStateM.Result.ok.injEq] at h
  obtain ⟨-, -, event, hevent, staged, hstaged, -, -, -, rfl⟩ := h
  exact ⟨event, staged, hevent, stageEntry_eq_ok hstaged, rfl⟩

/-- `appendNewEventToSlot` leaves the run as it is if it raises. -/
theorem atomic_appendNewEventToSlot {draft : NormalizedTraceEventDraft}
    {redacted : RedactedTraceEventDraft} {eventId newId : Option UUID4} {publish : Bool} :
    Atomic (appendNewEventToSlot draft redacted eventId newId publish) := by
  unfold appendNewEventToSlot
  exact .get_bind fun _ => .lift_bind fun _ _ => .lift_bind fun _ _ => .lift_bind fun _ _ =>
    .lift_bind fun _ _ => atomic_modify_pure

/-- What `recordNewCollision` does when it returns. -/
theorem recordNewCollision_eq_ok [Redactor] {existing : TraceEvent}
    {incoming : RedactedTraceEventDraft} {newId : Option UUID4} {receipt : AppendReceipt}
    (h : recordNewCollision existing incoming (collisionFingerprint existing incoming) newId run
      = .ok receipt t)
    (known : run.slot.projection.eventsBySource.get? incoming.sourceEventId = some existing)
    (fresh : (collisionFingerprint existing incoming).value ∉ run.slot.collisionReceipts) :
    Collides incoming run.slot t.slot ∧ t.Trusted
      ∧ t.slot.collisionReceipts.get? (collisionFingerprint existing incoming).value
        = some receipt := by
  unfold recordNewCollision at h
  rw [get_bind] at h
  obtain ⟨audit, haudit, h⟩ := lift_bind_eq_ok.mp h
  obtain ⟨redacted, hredacted, h⟩ := lift_bind_eq_ok.mp h
  obtain ⟨event, hevent, h⟩ := lift_bind_eq_ok.mp h
  obtain ⟨staged, hstaged, h⟩ := lift_bind_eq_ok.mp h
  obtain ⟨position, hposition, h⟩ := lift_bind_eq_ok.mp h
  obtain ⟨created, hreceipt, h⟩ := lift_bind_eq_ok.mp h
  cases h
  rw [mapError_eq_ok] at haudit hreceipt
  have hstage := stageEntry_eq_ok hstaged
  obtain ⟨hvalid, rfl⟩ := validate_eq_ok.mp haudit
  have hredact := redactDraft_eq_ok hredacted
  obtain ⟨payload, hpayload, hfields, hdigest⟩ := redactEvent_eq_ok hredact
  obtain ⟨-, hevent, heventDigest⟩ := traceEvent_eq_ok hevent
  rw [hfields] at hevent
  have hcursor := hstage.accepted.ingestionCursor_eq
  have htype : event.eventType = .controllerError := by rw [hevent]; rfl
  have hphase : event.phase = .internal := by rw [hevent]; rfl
  have hadapter : event.sourceAdapter = ⟨"saliencegate.repository", by decide⟩ := by rw [hevent]; rfl
  have htrust : event.trustLabel = .trustedRuntime := by rw [hevent]; rfl
  have hparent : event.parentIds = [existing.eventId] := by rw [hevent]; rfl
  refine ⟨?_, ⟨rfl, rfl⟩, Dict.get?_set_self⟩
  refine .audit existing event receipt staged hstage known fresh ?_ ?_ ?_ ?_ ?_ ?_
  · rw [hevent]
    rfl
  · rw [hevent]
    exact hpayload
  · rw [heventDigest, hdigest, hevent]
  · simp only [isAuditEvent, htype, hphase, hadapter, htrust, hparent, decide_true, Bool.and_self,
      List.length_singleton]
  · exact hparent
  · unfold auditedReceipt
    rw [bind_eq_ok]
    refine ⟨position, hposition, ?_⟩
    rw [mapError_eq_ok, ← hcursor]
    exact hreceipt

/-- `recordNewCollision` leaves the run as it is if it raises. -/
theorem atomic_recordNewCollision [Redactor] {existing : TraceEvent}
    {incoming : RedactedTraceEventDraft} {fingerprint : PayloadDigest} {newId : Option UUID4} :
    Atomic (recordNewCollision existing incoming fingerprint newId) := by
  unfold recordNewCollision
  exact .get_bind fun _ => .lift_bind fun _ _ => .lift_bind fun _ _ => .lift_bind fun _ _ =>
    .lift_bind fun _ _ => .lift_bind fun _ _ => .lift_bind fun _ _ => atomic_modify_pure

/-- What an append does when it returns: it finds its event, or the receipt of its collision, or it
stores the one or the other. -/
inductive Appended [Redactor] (draft : NormalizedTraceEventDraft)
    (redacted : RedactedTraceEventDraft) (eventId newId : Option UUID4) (run : RunState)
    (receipt : AppendReceipt) : RunState → Prop where
  | duplicate (existing : TraceEvent)
      (known : run.slot.projection.eventsBySource.get? draft.sourceEventId = some existing)
      (same : existing.eventIdentity = redacted.eventIdentity) :
      Appended draft redacted eventId newId run receipt run
  | cached (existing : TraceEvent)
      (known : run.slot.projection.eventsBySource.get? draft.sourceEventId = some existing)
      (differs : existing.eventIdentity ≠ redacted.eventIdentity)
      (stored : run.slot.collisionReceipts.get? (collisionFingerprint existing redacted).value
        = some receipt) :
      Appended draft redacted eventId newId run receipt run
  | collision (existing : TraceEvent) (t : RunState)
      (known : run.slot.projection.eventsBySource.get? draft.sourceEventId = some existing)
      (differs : existing.eventIdentity ≠ redacted.eventIdentity)
      (collides : Collides redacted run.slot t.slot) (trusted : t.Trusted)
      (stored : t.slot.collisionReceipts.get? (collisionFingerprint existing redacted).value
        = some receipt) :
      Appended draft redacted eventId newId run receipt t
  | event (event : TraceEvent) (staged : StagedEntry)
      (created : traceEvent redacted (run.slot.projection.ingestionCursor + 1) eventId newId
        = .ok event)
      (h : IsStaged run.slot (.traceEvent event) staged) :
      Appended draft redacted eventId newId run receipt (run.append staged).trust

/-- An append under a source identity that is in use. -/
theorem appendExisting_eq_ok [Redactor] {draft : NormalizedTraceEventDraft}
    {redacted : RedactedTraceEventDraft} {eventId newId : Option UUID4} {receipt : AppendReceipt}
    {existing : TraceEvent} (hsource : redacted.sourceEventId = draft.sourceEventId)
    (known : run.slot.projection.eventsBySource.get? draft.sourceEventId = some existing)
    (h : appendExisting existing redacted newId run = .ok receipt t) :
    Appended draft redacted eventId newId run receipt t := by
  unfold appendExisting at h
  rw [get_bind] at h
  split at h
  · next hsame =>
    obtain ⟨-, rfl⟩ := lift_eq_ok.mp h
    exact .duplicate existing known hsame
  · next hdiffers =>
    unfold recordCollision at h
    rw [get_bind] at h
    cases hcached : run.slot.collisionReceipts.get? (collisionFingerprint existing redacted).value with
    | some cached =>
      simp only [hcached] at h
      cases h
      exact .cached existing known hdiffers hcached
    | none =>
      simp only [hcached] at h
      rw [Dict.get?_eq_none] at hcached
      have hknown : run.slot.projection.eventsBySource.get? redacted.sourceEventId
          = some existing := hsource ▸ known
      obtain ⟨hcollides, htrusted, hstored⟩ := recordNewCollision_eq_ok h hknown hcached
      exact .collision existing t known hdiffers hcollides htrusted hstored

/-- What `appendToSlot` does when it returns. -/
theorem appendToSlot_eq_ok [Redactor] {draft : NormalizedTraceEventDraft}
    {redacted : RedactedTraceEventDraft} {eventId newId : Option UUID4} {receipt : AppendReceipt}
    (hsource : redacted.sourceEventId = draft.sourceEventId)
    (h : appendToSlot draft redacted eventId newId run = .ok receipt t) :
    Appended draft redacted eventId newId run receipt t := by
  unfold appendToSlot at h
  rw [get_bind] at h
  cases hknown : run.slot.projection.eventsBySource.get? draft.sourceEventId with
  | some existing =>
    simp only [hknown] at h
    have hexisting : appendExisting existing redacted newId run = .ok receipt t := by
      split at h
      · exact h
      · exact (Stateful.check_bind_eq_ok.mp h).2
    exact appendExisting_eq_ok hsource hknown hexisting
  | none =>
    simp only [hknown] at h
    have hnew : appendNewEventToSlot draft redacted eventId newId true run = .ok receipt t := by
      split at h
      · exact h
      · exact (Stateful.check_bind_eq_ok.mp h).2
    obtain ⟨event, staged, hevent, hstaged, rfl⟩ := appendNewEventToSlot_eq_ok hnew
    exact .event event staged hevent hstaged

/-- `appendExisting` leaves the run as it is if it raises. -/
theorem atomic_appendExisting [Redactor] {existing : TraceEvent}
    {redacted : RedactedTraceEventDraft} {newId : Option UUID4} :
    Atomic (appendExisting existing redacted newId) := by
  unfold appendExisting recordCollision
  refine .get_bind fun run => .ite atomic_lift (.get_bind fun run => ?_)
  simp only
  split
  · exact atomic_pure
  · exact atomic_recordNewCollision

/-- `appendToSlot` leaves the run as it is if it raises. -/
theorem atomic_appendToSlot [Redactor] {draft : NormalizedTraceEventDraft}
    {redacted : RedactedTraceEventDraft} {eventId newId : Option UUID4} :
    Atomic (appendToSlot draft redacted eventId newId) := by
  unfold appendToSlot
  refine .get_bind fun run => ?_
  cases run.slot.projection.eventsBySource.get? draft.sourceEventId with
  | some existing => exact .ite atomic_appendExisting (.lift_bind fun _ _ => atomic_appendExisting)
  | none => exact .ite atomic_appendNewEventToSlot (.lift_bind fun _ _ => atomic_appendNewEventToSlot)

/-- An append continues a live run. -/
theorem Appended.continued [Redactor] {draft : NormalizedTraceEventDraft}
    {redacted : RedactedTraceEventDraft} {eventId newId : Option UUID4} {receipt : AppendReceipt}
    (hrun : run.Live) (hplain : isCollisionSource draft.sourceEventId = false)
    (hsource : redacted.sourceEventId = draft.sourceEventId)
    (h : Appended draft redacted eventId newId run receipt t) : Continued run t := by
  cases h with
  | duplicate => exact hrun.extended.continued
  | cached => exact hrun.extended.continued
  | collision existing _ known differs collides trusted => exact ⟨.single (.collides redacted collides), trusted⟩
  | event event staged created h =>
    have hfields := (traceEvent_eq_ok created).2.1
    have hevent : isCollisionSource event.sourceEventId = false := by
      rw [hfields, hsource]
      exact hplain
    exact ⟨.single (.plain (.event event staged h hevent)), ⟨rfl, rfl⟩⟩

omit [Integrity] in
/-- A conditional append under a source identity that is in use changes nothing. -/
theorem appendConditionalExisting_eq_ok {existing : TraceEvent}
    {redacted : RedactedTraceEventDraft} {receipt : AppendReceipt}
    (h : appendConditionalExisting existing redacted run = .ok receipt t) :
    existing.eventIdentity = redacted.eventIdentity
      ∧ duplicateEventReceipt run.slot existing = .ok receipt ∧ t = run := by
  unfold appendConditionalExisting at h
  rw [get_bind] at h
  split at h
  · next hsame =>
    obtain ⟨hreceipt, rfl⟩ := lift_eq_ok.mp h
    exact ⟨hsame, hreceipt, rfl⟩
  · cases h

/-- What `appendConditionalToSlot` does when it returns. -/
theorem appendConditionalToSlot_eq_ok {draft : NormalizedTraceEventDraft}
    {redacted : RedactedTraceEventDraft} {eventId : UUID4} {publish : Bool} {receipt : AppendReceipt}
    (h : appendConditionalToSlot draft redacted eventId publish run = .ok receipt t) :
    t = run ∨ ∃ event staged, event.sourceEventId = redacted.sourceEventId
      ∧ IsStaged run.slot (.traceEvent event) staged ∧ t = (run.append staged).trustIf publish := by
  unfold appendConditionalToSlot at h
  rw [get_bind] at h
  cases hknown : run.slot.projection.eventsBySource.get? draft.sourceEventId with
  | some existing =>
    simp only [hknown] at h
    exact .inl (appendConditionalExisting_eq_ok h).2.2
  | none =>
    simp only [hknown] at h
    obtain ⟨event, staged, hevent, hstaged, rfl⟩ := appendNewEventToSlot_eq_ok h
    exact .inr ⟨event, staged, by rw [(traceEvent_eq_ok hevent).2.1], hstaged, rfl⟩

/-- `appendConditionalToSlot` leaves the run as it is if it raises. -/
theorem atomic_appendConditionalToSlot {draft : NormalizedTraceEventDraft}
    {redacted : RedactedTraceEventDraft} {eventId : UUID4} {publish : Bool} :
    Atomic (appendConditionalToSlot draft redacted eventId publish) := by
  unfold appendConditionalToSlot
  refine .get_bind fun run => ?_
  split
  · unfold appendConditionalExisting
    refine .get_bind fun run => .ite atomic_lift ?_
    intro s e t h
    cases h
    rfl
  · exact atomic_appendNewEventToSlot

/-! ## Direct records -/

/-- What `recordDirectLocked` does when it returns: it finds the record, or stores it. -/
theorem recordDirectLocked_eq_ok {record : DirectLedgerRecord} {verifiesHead publish : Bool}
    {receipt : LedgerReceipt}
    (h : recordDirectLocked record verifiesHead publish run = .ok receipt t) :
    (t = run ∧ ∃ existing, run.slot.directRecords.get? record.key = some ⟨record, existing⟩
        ∧ receipt = existing.repeated)
      ∨ (record.key ∉ run.slot.directRecords ∧ ∃ staged, IsStaged run.slot record.toLedgerRecord staged
        ∧ receipt = .ofEntry staged.entry record.recordId
        ∧ t = ((run.append staged).trustIf publish).withDirect record receipt) := by
  unfold recordDirectLocked at h
  rw [get_bind] at h
  cases hknown : run.slot.directRecords.get? record.key with
  | some existing =>
    simp only [hknown] at h
    have hexisting : (liftM (recordExistingDirect record existing) : RunM LedgerReceipt) run
        = .ok receipt t := by
      split at h
      · exact (Stateful.check_bind_eq_ok.mp h).2
      · exact h
    obtain ⟨hreceipt, rfl⟩ := lift_eq_ok.mp hexisting
    unfold recordExistingDirect at hreceipt
    rw [raiseIf_bind_eq_ok, pure_eq_ok, not_not] at hreceipt
    obtain ⟨rfl, rfl⟩ := hreceipt
    exact .inl ⟨rfl, existing.receipt, rfl, rfl⟩
  | none =>
    simp only [hknown] at h
    rw [Dict.get?_eq_none] at hknown
    have hnew : recordNewDirect record publish run = .ok receipt t := by
      split at h
      · exact (Stateful.check_bind_eq_ok.mp h).2
      · exact h
    unfold recordNewDirect at hnew
    rw [get_bind] at hnew
    obtain ⟨staged, hstaged, hnew⟩ := lift_bind_eq_ok.mp hnew
    cases hnew
    exact .inr ⟨hknown, staged, stageEntry_eq_ok hstaged, rfl, rfl⟩

/-- `recordDirectLocked` leaves the run as it is if it raises. -/
theorem atomic_recordDirectLocked {record : DirectLedgerRecord} {verifiesHead publish : Bool} :
    Atomic (recordDirectLocked record verifiesHead publish) := by
  unfold recordDirectLocked
  refine .get_bind fun run => ?_
  cases run.slot.directRecords.get? record.key with
  | some existing => exact .ite (.lift_bind fun _ _ => atomic_lift) atomic_lift
  | none =>
    have hnew : Atomic (recordNewDirect record publish) := by
      unfold recordNewDirect
      exact .get_bind fun _ => .lift_bind fun _ _ => atomic_modify_pure
    exact .ite (.lift_bind fun _ _ => hnew) hnew

omit [Integrity] in
/-- The slot after storing a direct record. -/
theorem slot_withDirect {record : DirectLedgerRecord} {publish : Bool} :
    (((run.append staged).trustIf publish).withDirect record
      (.ofEntry staged.entry record.recordId)).slot = run.slot.addDirect staged record := by
  cases publish <;> rfl

/-! ## Operations on one run -/

theorem Extended.of_eq (hrun : run.Live) (h : t = run) : Extended run t := h ▸ hrun.extended

/-- Storing a direct record extends a live run. -/
theorem recordDirectLocked_endsIn (hrun : run.Live) {record : DirectLedgerRecord}
    {verifiesHead : Bool} : EndsIn (recordDirectLocked record verifiesHead true) run (Extended run) := by
  refine .of_atomic atomic_recordDirectLocked hrun.extended fun receipt t h => ?_
  rcases recordDirectLocked_eq_ok h with ⟨ht, -⟩ | ⟨hfresh, staged, hstaged, rfl, rfl⟩
  · exact .of_eq hrun ht
  · exact ⟨.single (.direct record staged hstaged hfresh), ⟨rfl, rfl⟩⟩

/-- A conditional append extends a live run. -/
theorem appendConditionalToSlot_endsIn (hrun : run.Live) {draft : NormalizedTraceEventDraft}
    {redacted : RedactedTraceEventDraft} {eventId : UUID4}
    (hplain : isCollisionSource redacted.sourceEventId = false) :
    EndsIn (appendConditionalToSlot draft redacted eventId true) run (Extended run) := by
  refine .of_atomic atomic_appendConditionalToSlot hrun.extended fun receipt t h => ?_
  rcases appendConditionalToSlot_eq_ok h with rfl | ⟨event, staged, hsource, hstaged, rfl⟩
  · exact hrun.extended
  · exact ⟨.single (.event event staged hstaged (hsource ▸ hplain)), ⟨rfl, rfl⟩⟩

/-- An append continues a live run. -/
theorem appendToSlot_endsIn [Redactor] (hrun : run.Live) {draft : NormalizedTraceEventDraft}
    {redacted : RedactedTraceEventDraft} {eventId newId : Option UUID4}
    (hplain : isCollisionSource draft.sourceEventId = false)
    (hsource : redacted.sourceEventId = draft.sourceEventId) :
    EndsIn (appendToSlot draft redacted eventId newId) run (Continued run) :=
  .of_atomic atomic_appendToSlot hrun.extended.continued fun _ _ h =>
    (appendToSlot_eq_ok hsource h).continued hrun hplain hsource

end SalienceGate
