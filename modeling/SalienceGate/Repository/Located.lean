import SalienceGate.Repository.Resubmitted
import SalienceGate.Repository.Sqlite

/-!
# The run of an operation

An operation that returns worked on one run, and its receipt names the run. What it did depends on
that run alone, and every other run is as it was.
-/

namespace SalienceGate

open Checked
open Stateful hiding bind_eq_ok check_bind_eq_ok raiseIf_bind_eq_ok expect_bind_eq_ok

variable [Hashing]

/-! ## Records of a run -/

/-- The revisions of a projection belong to its run. -/
structure OwnedInvariant (p : Projection) : Prop where
  cycles : ∀ {key cycle}, p.cycleHistory.get? key = some cycle → cycle.runId = p.runId
  deliveries : ∀ {key delivery}, p.deliveryHistory.get? key = some delivery →
    delivery.runId = p.runId

theorem ownedInvariant_empty (runId : UUID4) : OwnedInvariant (emptyProjection runId) where
  cycles h := by cases h
  deliveries h := by cases h

omit [Hashing] in
/-- A revision that is added to those of a run belongs to the run. -/
theorem runId_of_set {κ ν : Type} [DecidableEq κ] {d : Dict κ ν} {runId : UUID4} {run : ν → UUID4}
    (hd : ∀ {key value}, d.get? key = some value → run value = runId) {key : κ} {value : ν}
    (hvalue : run value = runId) {key' : κ} {value' : ν}
    (h : (d.set key value).get? key' = some value') : run value' = runId := by
  rcases Dict.get?_set_eq_some.mp h with ⟨-, rfl⟩ | ⟨-, hother⟩
  · exact hvalue
  · exact hd hother

/-- An accepted entry of the run keeps the revisions its own. -/
theorem owned_accepted {p q : Projection} {record : LedgerRecord} (hp : OwnedInvariant p)
    (hrun : record.runId = p.runId) (h : Accepted p record q) : OwnedInvariant q := by
  cases h with
  | event | signal | decision | outcome => exact ⟨hp.cycles, hp.deliveries⟩
  | cycle cycle => exact ⟨runId_of_set hp.cycles hrun, hp.deliveries⟩
  | commit cycle => exact ⟨runId_of_set hp.cycles hrun, hp.deliveries⟩
  | delivery delivery => exact ⟨hp.cycles, runId_of_set hp.deliveries hrun⟩

variable [Integrity] {slot : Slot} {run t : RunState}

namespace Slot.Replays

/-- The projection of a slot is of the run of the slot. -/
theorem projection_runId (h : slot.Replays) : slot.projection.runId = slot.runId :=
  ledger_invariant (I := fun p => p.runId = slot.runId) h.run rfl
    fun _ _ _ _ hp haccepted => haccepted.runId.trans hp

theorem owned (h : slot.Replays) : OwnedInvariant slot.projection :=
  ledger_invariant h.run (ownedInvariant_empty slot.runId) fun _ _ _ hrun hp haccepted =>
    owned_accepted hp hrun haccepted

/-- A known event is of the run of the slot. -/
theorem event_runId (h : slot.Replays) {source : EventMetadataIdentifier} {event : TraceEvent}
    (hknown : slot.projection.eventsBySource.get? source = some event) :
    event.runId = slot.runId :=
  (h.events.keyed (h.sources.indexed.mp hknown).2).2.trans h.projection_runId

/-- A cycle revision with a receipt is of the run of the slot. -/
theorem cycle_runId (h : slot.Replays) {key : Sha256Digest × ℕ} {revision : CycleRevision}
    (hget : slot.cycleRecords.get? key = some revision) : revision.record.runId = slot.runId := by
  have hhistory : slot.projection.cycleHistory.get? key = some revision.record := by
    rw [h.cycleRecords_get?, hget]
    rfl
  exact (h.owned.cycles hhistory).trans h.projection_runId

/-- A delivery revision with a receipt is of the run of the slot. -/
theorem delivery_runId (h : slot.Replays) {key : UUID4 × ℕ} {revision : DeliveryRevision}
    (hget : slot.deliveryRecords.get? key = some revision) :
    revision.record.runId = slot.runId := by
  have hhistory : slot.projection.deliveryHistory.get? key = some revision.record := by
    rw [h.deliveryRecords_get?, hget]
    rfl
  exact (h.owned.deliveries hhistory).trans h.projection_runId

/-- The receipt of a delivery revision is of the revision. -/
theorem delivery_receipt (h : slot.Replays) {key : UUID4 × ℕ} {revision : DeliveryRevision}
    (hget : slot.deliveryRecords.get? key = some revision) :
    revision.receipt.delivery = revision.record := by
  let I := fun replayed : Replayed => ∀ key revision,
    replayed.deliveryRecords.get? key = some revision → revision.receipt.delivery = revision.record
  have hround : ∀ replayed entry next, entry ∈ slot.ledger → I replayed →
      replayEntry replayed entry = .ok next → I next := by
    intro replayed entry next _ hreplayed hentry key revision hfound
    obtain ⟨cursor, -, hentry⟩ := bind_eq_ok.mp hentry
    obtain ⟨seeds, -, hentry⟩ := bind_eq_ok.mp hentry
    cases pure_eq_ok.mp hentry
    unfold addDeliveryRecord at hfound
    split at hfound
    · rcases Dict.get?_set_eq_some.mp hfound with ⟨-, rfl⟩ | ⟨-, hother⟩
      · rfl
      · exact hreplayed _ _ hother
    · exact hreplayed _ _ hfound
  have hstart : I (Replayed.start slot.runId) := fun key revision hfound => by cases hfound
  exact foldlM_invariant hround hstart h.replayed key revision hget

end Slot.Replays

omit [Integrity] in
/-- The receipt that a rebuild attaches to a cycle revision is of the revision. -/
theorem cycle_of_attach {seed : CycleReceiptSeed} {pending : Dict Sha256Digest DeliveryRecord}
    {receipt : CycleReceipt} (h : seed.attach pending = .ok receipt) : receipt.cycle = seed.record := by
  unfold CycleReceiptSeed.attach at h
  rw [mapError_eq_ok] at h
  obtain ⟨-, rfl⟩ := validate_eq_ok.mp h
  rfl

/-! ## Receipts -/

/-- The receipt of a stored cycle revision, or one that repeats it, is of the run. -/
theorem RunState.Live.cycle_runId (ht : t.Live) {key : Sha256Digest × ℕ} {cycle : CycleRecord}
    {stored receipt : CycleReceipt} (hget : t.slot.cycleRecords.get? key = some ⟨cycle, stored⟩)
    (hreceipt : stored.repeated = receipt.repeated) : receipt.cycle.runId = t.slot.runId := by
  have hcycle : receipt.cycle = stored.cycle :=
    (congrArg (fun receipt : CycleReceipt => receipt.cycle) hreceipt).symm
  rw [hcycle, cycle_of_attach (ht.settled.attached hget)]
  exact ht.settled.toReplays.cycle_runId hget

/-- The receipt of a stored delivery revision, or one that repeats it, is of the run. -/
theorem RunState.Live.delivery_runId (ht : t.Live) {key : UUID4 × ℕ} {delivery : DeliveryRecord}
    {stored receipt : DeliveryTransitionReceipt}
    (hget : t.slot.deliveryRecords.get? key = some ⟨delivery, stored⟩)
    (hreceipt : stored.repeated = receipt.repeated) : receipt.delivery.runId = t.slot.runId := by
  have hdelivery : receipt.delivery = stored.delivery :=
    (congrArg (fun receipt : DeliveryTransitionReceipt => receipt.delivery) hreceipt).symm
  have hrecord : stored.delivery = delivery := ht.settled.toReplays.delivery_receipt hget
  rw [hdelivery, hrecord]
  exact ht.settled.toReplays.delivery_runId hget

/-! ## Events -/

omit [Integrity] in
/-- A duplicate returns the event that is known. -/
theorem duplicateEventReceipt_event {existing : TraceEvent} {receipt : AppendReceipt}
    (h : duplicateEventReceipt slot existing = .ok receipt) : receipt.event = existing := by
  unfold duplicateEventReceipt at h
  obtain ⟨position, -, h⟩ := bind_eq_ok.mp h
  rw [mapError_eq_ok] at h
  obtain ⟨-, rfl⟩ := validate_eq_ok.mp h
  rfl

/-- A new event is of the run. -/
theorem appendNewEventToSlot_event {draft : NormalizedTraceEventDraft}
    {redacted : RedactedTraceEventDraft} {eventId newId : Option UUID4} {publish : Bool}
    {receipt : AppendReceipt}
    (h : appendNewEventToSlot draft redacted eventId newId publish run = .ok receipt t) :
    receipt.event.runId = run.slot.runId := by
  unfold appendNewEventToSlot at h
  rw [get_bind] at h
  obtain ⟨-, h⟩ := Stateful.raiseIf_bind_eq_ok.mp h
  obtain ⟨event, -, h⟩ := lift_bind_eq_ok.mp h
  obtain ⟨staged, hstaged, h⟩ := lift_bind_eq_ok.mp h
  obtain ⟨created, hcreated, h⟩ := lift_bind_eq_ok.mp h
  cases h
  rw [mapError_eq_ok] at hcreated
  obtain ⟨-, rfl⟩ := validate_eq_ok.mp hcreated
  have hstage := stageEntry_eq_ok hstaged
  have hrun := staged.entry.record_runId
  rw [hstage.record_eq, hstage.runId_eq] at hrun
  exact hrun

/-- The receipt of a collision returns an event of the run. -/
theorem Slot.Settled.collision_event (h : slot.Settled) {fingerprint : Sha256Digest}
    {receipt : AppendReceipt} (hget : slot.collisionReceipts.get? fingerprint = some receipt) :
    receipt.event.runId = slot.runId := by
  obtain ⟨i, hi, hitem⟩ := List.getElem_of_mem (Dict.get?_eq_some.mp hget)
  have hlength := h.audited.length_eq
  obtain ⟨existing, haudits⟩ := (List.forall₂_iff_get.mp h.audited).2 i (hlength ▸ hi) hi
  simp only [List.get_eq_getElem, hitem] at haudits
  have hevent : receipt.event = existing := by
    have hreceipt := haudits.receipt
    unfold auditedReceipt at hreceipt
    obtain ⟨position, -, hreceipt⟩ := bind_eq_ok.mp hreceipt
    rw [mapError_eq_ok] at hreceipt
    obtain ⟨-, rfl⟩ := validate_eq_ok.mp hreceipt
    rfl
  rw [hevent]
  exact (h.events.keyed haudits.known).2.trans h.projection_runId

/-- A new collision returns the event that is known. -/
theorem recordNewCollision_event [Redactor] {existing : TraceEvent}
    {incoming : RedactedTraceEventDraft} {fingerprint : PayloadDigest} {newId : Option UUID4}
    {receipt : AppendReceipt}
    (h : recordNewCollision existing incoming fingerprint newId run = .ok receipt t) :
    receipt.event = existing := by
  unfold recordNewCollision at h
  rw [get_bind] at h
  obtain ⟨audit, -, h⟩ := lift_bind_eq_ok.mp h
  obtain ⟨redacted, -, h⟩ := lift_bind_eq_ok.mp h
  obtain ⟨event, -, h⟩ := lift_bind_eq_ok.mp h
  obtain ⟨staged, -, h⟩ := lift_bind_eq_ok.mp h
  obtain ⟨position, -, h⟩ := lift_bind_eq_ok.mp h
  obtain ⟨created, hreceipt, h⟩ := lift_bind_eq_ok.mp h
  cases h
  rw [mapError_eq_ok] at hreceipt
  obtain ⟨-, rfl⟩ := validate_eq_ok.mp hreceipt
  rfl

/-- An append returns an event of the run. -/
theorem appendToSlot_event [Redactor] (hrun : run.Live) {draft : NormalizedTraceEventDraft}
    {redacted : RedactedTraceEventDraft} {eventId newId : Option UUID4} {receipt : AppendReceipt}
    (h : appendToSlot draft redacted eventId newId run = .ok receipt t) :
    receipt.event.runId = run.slot.runId := by
  unfold appendToSlot at h
  rw [get_bind] at h
  cases hknown : run.slot.projection.eventsBySource.get? draft.sourceEventId with
  | none =>
    simp only [hknown] at h
    have hnew : appendNewEventToSlot draft redacted eventId newId true run = .ok receipt t := by
      split at h
      · exact h
      · exact (Stateful.check_bind_eq_ok.mp h).2
    exact appendNewEventToSlot_event hnew
  | some existing =>
    simp only [hknown] at h
    have hexisting : appendExisting existing redacted newId run = .ok receipt t := by
      split at h
      · exact h
      · exact (Stateful.check_bind_eq_ok.mp h).2
    have hevent : existing.runId = run.slot.runId := hrun.settled.toReplays.event_runId hknown
    unfold appendExisting at hexisting
    rw [get_bind] at hexisting
    split at hexisting
    · rw [duplicateEventReceipt_event (lift_eq_ok.mp hexisting).1]
      exact hevent
    · unfold recordCollision at hexisting
      rw [get_bind] at hexisting
      cases hcached : run.slot.collisionReceipts.get? (collisionFingerprint existing redacted).value with
      | some cached =>
        simp only [hcached] at hexisting
        cases hexisting
        exact hrun.settled.collision_event hcached
      | none =>
        simp only [hcached] at hexisting
        rw [recordNewCollision_event hexisting]
        exact hevent

/-- A conditional append returns an event of the run. -/
theorem appendConditionalToSlot_event (hrun : run.Live) {draft : NormalizedTraceEventDraft}
    {redacted : RedactedTraceEventDraft} {eventId : UUID4} {publish : Bool} {receipt : AppendReceipt}
    (h : appendConditionalToSlot draft redacted eventId publish run = .ok receipt t) :
    receipt.event.runId = run.slot.runId := by
  unfold appendConditionalToSlot at h
  rw [get_bind] at h
  cases hknown : run.slot.projection.eventsBySource.get? draft.sourceEventId with
  | none =>
    simp only [hknown] at h
    exact appendNewEventToSlot_event h
  | some existing =>
    simp only [hknown] at h
    obtain ⟨-, hreceipt, -⟩ := appendConditionalExisting_eq_ok h
    rw [duplicateEventReceipt_event hreceipt]
    exact hrun.settled.toReplays.event_runId hknown

/-! ## Cycles -/

/-- The receipt is of a cycle revision that the run holds, or repeats one. -/
def HoldsCycle (t : RunState) (receipt : CycleReceipt) : Prop :=
  ∃ key cycle stored, t.slot.cycleRecords.get? key = some ⟨cycle, stored⟩
    ∧ stored.repeated = receipt.repeated

theorem recordCycleLocked_holds {record : CycleRecord} {publish : Bool}
    {delivery : Option DeliveryRecord} {receipt : CycleReceipt}
    (h : recordCycleLocked record publish delivery run = .ok receipt t) : HoldsCycle t receipt := by
  obtain ⟨stored, hget, hreceipt⟩ := recordCycleLocked_stored h
  exact ⟨_, record, stored, hget, hreceipt⟩

theorem beginCycleLocked_holds (hrun : run.Live) {command : BeginCycle} {receipt : CycleReceipt}
    (h : beginCycleLocked command run = .ok receipt t) : HoldsCycle t receipt := by
  unfold beginCycleLocked at h
  rw [get_bind] at h
  obtain ⟨-, h⟩ := Stateful.check_bind_eq_ok.mp h
  obtain ⟨-, h⟩ := Stateful.check_bind_eq_ok.mp h
  obtain ⟨decision, -, h⟩ := Stateful.expect_bind_eq_ok.mp h
  obtain ⟨-, h⟩ := Stateful.raiseIf_bind_eq_ok.mp h
  cases hhead : (existingBeginnings run.slot.projection command.invocationDecisionId).head? with
  | some existing =>
    simp only [hhead] at h
    obtain ⟨id, hfirst, hsame⟩ := mem_existingBeginnings (List.mem_of_head? hhead)
    obtain ⟨-, stored, hget, hreceipt⟩ := rebeginCycle_stored hrun hfirst hsame h
    exact ⟨_, existing, stored, hget, hreceipt⟩
  | none =>
    simp only [hhead] at h
    obtain ⟨cycle, -, stored, hget, hreceipt⟩ := beginNewCycle_stored h
    exact ⟨_, cycle, stored, hget, hreceipt⟩

theorem advanceCycleLocked_holds {operation : String} {id : Sha256Digest} {expectedRevision : ℕ}
    {expectedState : CycleState} {update : CycleRecord → CycleRecordFields} {receipt : CycleReceipt}
    (h : advanceCycleLocked operation id expectedRevision expectedState update run = .ok receipt t) :
    HoldsCycle t receipt := by
  unfold advanceCycleLocked at h
  rw [get_bind] at h
  obtain ⟨-, h⟩ := Stateful.check_bind_eq_ok.mp h
  obtain ⟨-, h⟩ := Stateful.check_bind_eq_ok.mp h
  obtain ⟨base, -, h⟩ := lift_bind_eq_ok.mp h
  obtain ⟨cycle, -, h⟩ := lift_bind_eq_ok.mp h
  exact recordCycleLocked_holds h

theorem failCycleLocked_holds {command : FailCycle} {receipt : CycleReceipt}
    (h : failCycleLocked command run = .ok receipt t) : HoldsCycle t receipt := by
  unfold failCycleLocked at h
  rw [get_bind] at h
  obtain ⟨-, h⟩ := Stateful.check_bind_eq_ok.mp h
  obtain ⟨-, h⟩ := Stateful.check_bind_eq_ok.mp h
  obtain ⟨base, -, h⟩ := lift_bind_eq_ok.mp h
  obtain ⟨-, h⟩ := Stateful.check_bind_eq_ok.mp h
  obtain ⟨settlement, -, h⟩ := lift_bind_eq_ok.mp h
  obtain ⟨cycle, -, h⟩ := lift_bind_eq_ok.mp h
  exact recordCycleLocked_holds h

theorem commitCycleLocked_holds (hrun : run.Live) {command : CommitCycle} {receipt : CycleReceipt}
    (h : commitCycleLocked command run = .ok receipt t) : HoldsCycle t receipt := by
  obtain ⟨base, cycle, -, -, hcommit⟩ := commitCycleLocked_eq_ok h
  obtain ⟨stored, hget, hreceipt, -⟩ := commitCycle_stored hrun hcommit
  exact ⟨_, cycle, stored, hget, hreceipt⟩

/-- A receipt that a run holds is of the run. -/
theorem HoldsCycle.runId {receipt : CycleReceipt} (h : HoldsCycle t receipt) (ht : t.Live) :
    receipt.cycle.runId = t.slot.runId := by
  obtain ⟨_, _, _, hget, hreceipt⟩ := h
  exact ht.cycle_runId hget hreceipt

/-! ## Operations -/

section

variable [Redactor] [Serialization] {repository next : Repository} {runId : UUID4}

/-- An operation that returned worked on one run, which its receipt names, and it does the same on
every repository that has the run. -/
structure Operation.WorksOn (operation : Operation) (receipt : OperationReceipt)
    (repository next : Repository) (runId : UUID4) : Prop where
  result : operation.resultRunId receipt = some runId
  elsewhere : ∀ other : Repository, other runId = repository runId →
    operation.perform other = .ok receipt (Function.update other runId (next runId))

omit [Integrity] [Redactor] [Serialization] in
/-- A method of one run does the same on every repository that has the run. -/
theorem onRun_elsewhere {α : Type} {x : RunM α} {a : α}
    (h : onRun runId x repository = .ok a next) :
    x (repository runId) = .ok a (next runId)
      ∧ ∀ other : Repository, other runId = repository runId →
        onRun runId x other = .ok a (Function.update other runId (next runId)) := by
  obtain ⟨u, hx, rfl⟩ := onRun_eq_ok.mp h
  rw [Function.update_self]
  refine ⟨hx, fun other hother => onRun_of_ok ?_⟩
  rw [hother]
  exact hx

omit [Integrity] in
/-- A command on one run does the same on every repository that has the run. -/
theorem submit_elsewhere {α β : Type} {name : String} {record : α → SubmittedRecord} {run : α → UUID4}
    {x : α → RunM β} {argument : Argument α} {made : β}
    (h : submit name record run x argument repository = .ok made next) :
    ∃ value, argument = .exact value ∧ x value (repository (run value)) = .ok made (next (run value))
      ∧ ∀ other : Repository, other (run value) = repository (run value) →
        submit name record run x argument other
          = .ok made (Function.update other (run value) (next (run value))) := by
  obtain ⟨value, hvalue, hx, hlater⟩ := submit_eq_ok h
  refine ⟨value, hvalue, hx, fun other hother => ?_⟩
  rw [hlater other]
  refine onRun_of_ok ?_
  rw [hother]
  exact hx

omit [Integrity] [Redactor] [Serialization] in
/-- What a method does elsewhere, it does with its result changed. -/
theorem map_elsewhere {α β : Type} {x : RepositoryM α} {f : α → β} {a : α} {other : Repository}
    {run : RunState} (h : x other = .ok a (Function.update other runId run)) :
    (f <$> x) other = .ok (f a) (Function.update other runId run) :=
  map_eq_ok.mpr ⟨a, h, rfl⟩

variable {receipt : OperationReceipt}

/-- A command on a cycle works on the run of the cycle. -/
theorem cycle_worksOn (hnext : next.Live) {α : Type} {name : String} {record : α → SubmittedRecord}
    {run : α → UUID4} {x : α → RunM CycleReceipt} {argument : Argument α} {operation : Operation}
    (hperform : operation.perform = .cycle <$> submit name record run x argument)
    (hresult : ∀ made, operation.resultRunId (.cycle made) = some made.cycle.runId)
    (hx : ∀ value made, x value (repository (run value)) = .ok made (next (run value)) →
      HoldsCycle (next (run value)) made)
    (h : operation.perform repository = .ok receipt next) :
    ∃ runId, operation.WorksOn receipt repository next runId := by
  rw [hperform] at h
  obtain ⟨made, hmade, rfl⟩ := map_eq_ok.mp h
  obtain ⟨value, -, hrun, helsewhere⟩ := submit_elsewhere hmade
  refine ⟨run value, ?_, fun other hother => ?_⟩
  · rw [hresult, (hx value made hrun).runId (hnext.live _), hnext.runId]
  · rw [hperform]
    exact map_elsewhere (helsewhere other hother)

/-- A command on a delivery works on the run of the delivery. -/
theorem delivery_worksOn (hlive : repository.Live) (hnext : next.Live)
    (hkeeps : ∀ runId, (repository runId).slot.Keeps (next runId).slot) {α : Type} {name : String}
    {record : α → SubmittedRecord} {run : α → UUID4} {rule : α → DeliveryRule} {argument : Argument α}
    {operation : Operation} (hrule : ∀ value, (rule value).Advances)
    (hperform : operation.perform = .delivery <$> submit name record run
      (fun value => transitionLocked (rule value)) argument)
    (hresult : ∀ made, operation.resultRunId (.delivery made) = some made.delivery.runId)
    (h : operation.perform repository = .ok receipt next) :
    ∃ runId, operation.WorksOn receipt repository next runId := by
  rw [hperform] at h
  obtain ⟨made, hmade, rfl⟩ := map_eq_ok.mp h
  obtain ⟨value, -, hrun, helsewhere⟩ := submit_elsewhere hmade
  refine ⟨run value, ?_, fun other hother => ?_⟩
  · obtain ⟨-, _, _, htook, hreceipt⟩ :=
      transitionLocked_took (hlive.live _) (hrule value) hrun (hkeeps _)
    rw [hresult, (hnext.live _).delivery_runId htook.stored hreceipt, hnext.runId]
  · rw [hperform]
    exact map_elsewhere (helsewhere other hother)

/-- A command that stores a direct record works on the run of the record. -/
theorem direct_worksOn {α : Type} {name : String} {record : α → SubmittedRecord} {run : α → UUID4}
    {x : α → RunM LedgerReceipt} {argument : Argument α} {operation : Operation}
    (hperform : operation.perform = .direct <$> submit name record run x argument)
    (hresult : ∀ value made, argument = .exact value →
      operation.resultRunId (.direct made) = some (run value))
    (h : operation.perform repository = .ok receipt next) :
    ∃ runId, operation.WorksOn receipt repository next runId := by
  rw [hperform] at h
  obtain ⟨made, hmade, rfl⟩ := map_eq_ok.mp h
  obtain ⟨value, hvalue, -, helsewhere⟩ := submit_elsewhere hmade
  refine ⟨run value, hresult value made hvalue, fun other hother => ?_⟩
  rw [hperform]
  exact map_elsewhere (helsewhere other hother)

/-- An append works on the run of its draft. -/
theorem append_worksOn (hlive : repository.Live) {event : Argument NormalizedTraceEventDraft}
    {eventId : Option (Argument UUID4)} {newId : Option UUID4}
    (h : (Operation.append event eventId newId).perform repository = .ok receipt next) :
    ∃ runId, (Operation.append event eventId newId).WorksOn receipt repository next runId := by
  obtain ⟨made, hmade, rfl⟩ := map_eq_ok.mp h
  unfold append at hmade
  obtain ⟨draft, hdraft, hmade⟩ := lift_bind_eq_ok.mp hmade
  obtain ⟨id, hid, hmade⟩ := lift_bind_eq_ok.mp hmade
  obtain ⟨hmetadata, hmade⟩ := Stateful.check_bind_eq_ok.mp hmade
  obtain ⟨redacted, hredact, hmade⟩ := lift_bind_eq_ok.mp hmade
  obtain ⟨hrun, helsewhere⟩ := onRun_elsewhere hmade
  refine ⟨draft.runId, ?_, fun other hother => map_elsewhere ?_⟩
  · rw [get_bind] at hrun
    obtain ⟨-, hrun⟩ := Stateful.check_bind_eq_ok.mp hrun
    have hevent := appendToSlot_event (hlive.live _) hrun
    rw [hlive.runId] at hevent
    exact congrArg some hevent
  · unfold append
    rw [lift_bind_of_ok hdraft, lift_bind_of_ok hid, lift_bind_of_ok hmetadata,
      lift_bind_of_ok hredact]
    exact helsewhere other hother

/-- A conditional append works on the run of its draft. -/
theorem appendEventIfHead_worksOn (hlive : repository.Live)
    {event : Argument NormalizedTraceEventDraft} {eventId : Argument UUID4}
    {expectedHead : Option (Argument LedgerHead)}
    (h : (Operation.appendEventIfHead event eventId expectedHead).perform repository
      = .ok receipt next) :
    ∃ runId, (Operation.appendEventIfHead event eventId expectedHead).WorksOn receipt repository next
      runId := by
  obtain ⟨made, hmade, rfl⟩ := map_eq_ok.mp h
  unfold appendEventIfHead at hmade
  obtain ⟨draft, hdraft, hmade⟩ := lift_bind_eq_ok.mp hmade
  obtain ⟨id, hid, hmade⟩ := lift_bind_eq_ok.mp hmade
  obtain ⟨head, hhead, hmade⟩ := lift_bind_eq_ok.mp hmade
  obtain ⟨hmetadata, hmade⟩ := Stateful.check_bind_eq_ok.mp hmade
  obtain ⟨redacted, hredact, hmade⟩ := lift_bind_eq_ok.mp hmade
  obtain ⟨hrun, helsewhere⟩ := onRun_elsewhere hmade
  refine ⟨draft.runId, ?_, fun other hother => map_elsewhere ?_⟩
  · rw [get_bind] at hrun
    obtain ⟨-, hrun⟩ := Stateful.check_bind_eq_ok.mp hrun
    rw [get_bind] at hrun
    obtain ⟨-, hrun⟩ := Stateful.check_bind_eq_ok.mp hrun
    have hevent := appendConditionalToSlot_event (hlive.live _) hrun
    rw [hlive.runId] at hevent
    exact congrArg some hevent
  · unfold appendEventIfHead
    rw [lift_bind_of_ok hdraft, lift_bind_of_ok hid, lift_bind_of_ok hhead, lift_bind_of_ok hmetadata,
      lift_bind_of_ok hredact]
    exact helsewhere other hother

/-- A batch works on the run of its operations. -/
theorem appendRecordsIfHead_worksOn (hlive : repository.Live)
    {operations : Argument (List (Argument ConditionalAppendOperation))}
    {expectedHead : Option (Argument LedgerHead)}
    (h : (Operation.appendRecordsIfHead operations expectedHead).perform repository
      = .ok receipt next) :
    ∃ runId, (Operation.appendRecordsIfHead operations expectedHead).WorksOn receipt repository next
      runId := by
  obtain ⟨made, hmade, rfl⟩ := map_eq_ok.mp h
  unfold appendRecordsIfHead at hmade
  obtain ⟨batch, hbatch, hmade⟩ := lift_bind_eq_ok.mp hmade
  obtain ⟨head, hhead, hmade⟩ := lift_bind_eq_ok.mp hmade
  obtain ⟨hrun, helsewhere⟩ := onRun_elsewhere hmade
  refine ⟨batch.1, ?_, fun other hother => map_elsewhere ?_⟩
  · obtain ⟨prepared, -, hall, -⟩ := prepareConditionalBatch_eq_ok hbatch
    obtain ⟨-, -, -, shadow, hloop, hfinal, -⟩ := appendRecordsLocked_eq_ok hrun
    have hsettled := (hlive.live batch.1).settled
    have hbatched := (mapM_stageOperation_eq_ok hall hsettled (.refl _) hloop).1
    have hsealed := (hsettled.of_extended hbatched.extended).sealed _ hfinal
    have hfinalRun : made.finalHead.runId = batch.1 := by
      rw [hsealed.1, hbatched.caches.1, hlive.runId]
    exact congrArg some hfinalRun
  · unfold appendRecordsIfHead
    rw [lift_bind_of_ok hbatch, lift_bind_of_ok hhead]
    exact helsewhere other hother

/-- A conditional signal works on the run of its signal, which is that of the expected head. -/
theorem recordSignalIfHead_worksOn (hlive : repository.Live) {signal : Argument Signal}
    {expectedHead : Argument LedgerHead}
    (h : (Operation.recordSignalIfHead signal expectedHead).perform repository = .ok receipt next) :
    ∃ runId, (Operation.recordSignalIfHead signal expectedHead).WorksOn receipt repository next
      runId := by
  obtain ⟨made, hmade, rfl⟩ := map_eq_ok.mp h
  unfold recordSignalIfHead at hmade
  obtain ⟨record, hrecord, hmade⟩ := lift_bind_eq_ok.mp hmade
  obtain ⟨head, hhead, hmade⟩ := lift_bind_eq_ok.mp hmade
  obtain ⟨hcontent, hmade⟩ := Stateful.check_bind_eq_ok.mp hmade
  obtain ⟨hrun, helsewhere⟩ := onRun_elsewhere hmade
  refine ⟨record.runId, ?_, fun other hother => map_elsewhere ?_⟩
  · rw [get_bind] at hrun
    obtain ⟨-, hrun⟩ := Stateful.check_bind_eq_ok.mp hrun
    rw [get_bind] at hrun
    obtain ⟨hexpected, -⟩ := Stateful.check_bind_eq_ok.mp hrun
    have hsealed := (hlive.live record.runId).settled.sealed head (requireExpectedHead_eq_ok hexpected).symm
    have hheadRun : head.runId = record.runId := hsealed.1.trans (hlive.runId _)
    cases expectedHead with
    | exact given =>
      cases hhead
      exact congrArg some hheadRun
    | foreign => cases hhead
    | malformed => cases hhead
  · unfold recordSignalIfHead
    rw [lift_bind_of_ok hrecord, lift_bind_of_ok hhead, lift_bind_of_ok hcontent]
    exact helsewhere other hother

/-- The beginning of an attempt works on the run of the delivery. -/
theorem beginDeliveryAttempt_worksOn (hlive : repository.Live) (hnext : next.Live)
    (hkeeps : ∀ runId, (repository runId).slot.Keeps (next runId).slot)
    {command : Argument BeginDeliveryAttempt}
    (h : (Operation.beginDeliveryAttempt command).perform repository = .ok receipt next) :
    ∃ runId, (Operation.beginDeliveryAttempt command).WorksOn receipt repository next runId := by
  obtain ⟨made, hmade, rfl⟩ := map_eq_ok.mp h
  have hsubmit : submit "begin_delivery_attempt" .beginDeliveryAttempt (fun command => command.runId)
      (fun command => beginAttemptLocked command.rule) command repository = .ok made next := hmade
  obtain ⟨value, -, hrun, helsewhere⟩ := submit_elsewhere hsubmit
  refine ⟨value.runId, ?_, fun other hother => map_elsewhere (helsewhere other hother)⟩
  obtain ⟨-, _, _, htook, hreceipt⟩ :=
    beginAttemptLocked_took (hlive.live _) value.advances hrun (hkeeps _)
  have hrunId := (hnext.live _).delivery_runId htook.stored hreceipt
  rw [hnext.runId] at hrunId
  exact congrArg some hrunId

omit [Integrity] [Redactor] [Serialization] in
/-- What a recovery does elsewhere. -/
theorem recovery_elsewhere {β : Type} {id : Argument UUID4} {recoveredAt : Argument UtcDatetime}
    {x : UUID4 → UtcDatetime → RunM β} {made : β}
    (h : (do
      let runId ← validateRunId id
      let recoveredAt ← validateRecoveryTime recoveredAt
      onRun runId (x runId recoveredAt) : RepositoryM β) repository = .ok made next) :
    ∃ runId at_, x runId at_ (repository runId) = .ok made (next runId)
      ∧ ∀ other : Repository, other runId = repository runId → (do
        let runId ← validateRunId id
        let recoveredAt ← validateRecoveryTime recoveredAt
        onRun runId (x runId recoveredAt) : RepositoryM β) other
          = .ok made (Function.update other runId (next runId)) := by
  obtain ⟨runId, hrunId, h⟩ := lift_bind_eq_ok.mp h
  obtain ⟨at_, hat, h⟩ := lift_bind_eq_ok.mp h
  obtain ⟨hx, helsewhere⟩ := onRun_elsewhere h
  refine ⟨runId, at_, hx, fun other hother => ?_⟩
  rw [lift_bind_of_ok hrunId, lift_bind_of_ok hat]
  exact helsewhere other hother

/-- A recovery of the cycles works on its run. -/
theorem recoverCycles_worksOn {id : Argument UUID4} {recoveredAt : Argument UtcDatetime}
    (h : (Operation.recoverCycles id recoveredAt).perform repository = .ok receipt next) :
    ∃ runId, (Operation.recoverCycles id recoveredAt).WorksOn receipt repository next runId := by
  obtain ⟨made, hmade, rfl⟩ := map_eq_ok.mp h
  obtain ⟨runId, at_, hx, helsewhere⟩ := recovery_elsewhere hmade
  refine ⟨runId, ?_, fun other hother => map_elsewhere (helsewhere other hother)⟩
  unfold recoverCyclesLocked at hx
  rw [get_bind] at hx
  obtain ⟨-, hx⟩ := Stateful.check_bind_eq_ok.mp hx
  obtain ⟨-, hx⟩ := Stateful.check_bind_eq_ok.mp hx
  obtain ⟨shadow, _, -, hx⟩ := Stateful.bind_eq_ok.mp hx
  obtain ⟨_, _, -, hx⟩ := Stateful.bind_eq_ok.mp hx
  cases hx
  rfl

/-- A recovery of the deliveries works on its run. -/
theorem recoverDeliveries_worksOn {id : Argument UUID4} {recoveredAt : Argument UtcDatetime}
    (h : (Operation.recoverDeliveries id recoveredAt).perform repository = .ok receipt next) :
    ∃ runId, (Operation.recoverDeliveries id recoveredAt).WorksOn receipt repository next runId := by
  obtain ⟨made, hmade, rfl⟩ := map_eq_ok.mp h
  obtain ⟨runId, at_, hx, helsewhere⟩ := recovery_elsewhere hmade
  refine ⟨runId, ?_, fun other hother => map_elsewhere (helsewhere other hother)⟩
  unfold recoverDeliveriesLocked at hx
  rw [get_bind] at hx
  obtain ⟨-, hx⟩ := Stateful.check_bind_eq_ok.mp hx
  obtain ⟨-, hx⟩ := Stateful.check_bind_eq_ok.mp hx
  obtain ⟨-, hx⟩ := Stateful.check_bind_eq_ok.mp hx
  obtain ⟨shadow, _, -, hx⟩ := Stateful.bind_eq_ok.mp hx
  obtain ⟨_, _, -, hx⟩ := Stateful.bind_eq_ok.mp hx
  obtain ⟨hcreate, -⟩ := lift_eq_ok.mp hx
  rw [mapError_eq_ok] at hcreate
  obtain ⟨-, rfl⟩ := validate_eq_ok.mp hcreate
  rfl

/-- A rebuild works on its run. -/
theorem rebuild_worksOn (hlive : repository.Live) {id : Argument UUID4}
    (h : (Operation.rebuild id).perform repository = .ok receipt next) :
    ∃ runId, (Operation.rebuild id).WorksOn receipt repository next runId := by
  obtain ⟨made, hmade, rfl⟩ := map_eq_ok.mp h
  unfold rebuild at hmade
  obtain ⟨runId, hrunId, hmade⟩ := lift_bind_eq_ok.mp hmade
  obtain ⟨hrun, helsewhere⟩ := onRun_elsewhere hmade
  refine ⟨runId, ?_, fun other hother => map_elsewhere ?_⟩
  · obtain ⟨-, -, -, digests, -, rfl⟩ := (rebuildLocked_eq_ok (hlive.live runId)).mp hrun
    rfl
  · unfold rebuild
    rw [lift_bind_of_ok hrunId]
    exact helsewhere other hother

/-- Every operation that returns worked on one run, which its receipt names. -/
theorem Operation.perform_worksOn (hlive : repository.Live) {operation : Operation}
    (h : operation.perform repository = .ok receipt next) :
    ∃ runId, operation.WorksOn receipt repository next runId := by
  have hcontinued := (operation.perform_continued hlive).ok receipt next h
  have hnext := hlive.continued hcontinued
  have hkeeps := fun runId => (hcontinued runId).keeps (hlive.live runId)
  cases operation with
  | append => exact append_worksOn hlive h
  | appendEventIfHead => exact appendEventIfHead_worksOn hlive h
  | appendRecordsIfHead => exact appendRecordsIfHead_worksOn hlive h
  | recordSignal => exact direct_worksOn rfl (fun _ _ hvalue => by rw [hvalue]; rfl) h
  | recordSignalIfHead => exact recordSignalIfHead_worksOn hlive h
  | recordInvocationDecision => exact direct_worksOn rfl (fun _ _ hvalue => by rw [hvalue]; rfl) h
  | recordOutcome => exact direct_worksOn rfl (fun _ _ hvalue => by rw [hvalue]; rfl) h
  | beginCycle =>
    exact cycle_worksOn hnext rfl (fun _ => rfl)
      (fun _ _ hx => beginCycleLocked_holds (hlive.live _) hx) h
  | reserveCycle =>
    exact cycle_worksOn hnext rfl (fun _ => rfl) (fun _ _ hx => advanceCycleLocked_holds hx) h
  | markCycleRunning =>
    exact cycle_worksOn hnext rfl (fun _ => rfl) (fun _ _ hx => advanceCycleLocked_holds hx) h
  | commitCycle =>
    exact cycle_worksOn hnext rfl (fun _ => rfl)
      (fun _ _ hx => commitCycleLocked_holds (hlive.live _) hx) h
  | failCycle =>
    exact cycle_worksOn hnext rfl (fun _ => rfl) (fun _ _ hx => failCycleLocked_holds hx) h
  | recoverCycles => exact recoverCycles_worksOn h
  | claimDelivery =>
    exact delivery_worksOn hlive hnext hkeeps ClaimDelivery.advances rfl (fun _ => rfl) h
  | beginDeliveryAttempt => exact beginDeliveryAttempt_worksOn hlive hnext hkeeps h
  | completeDelivery =>
    exact delivery_worksOn hlive hnext hkeeps CompleteDelivery.advances rfl (fun _ => rfl) h
  | markDeliveryUnknown =>
    exact delivery_worksOn hlive hnext hkeeps MarkDeliveryUnknown.advances rfl (fun _ => rfl) h
  | rejectDelivery =>
    exact delivery_worksOn hlive hnext hkeeps RejectDelivery.advances rfl (fun _ => rfl) h
  | recoverDeliveries => exact recoverDeliveries_worksOn h
  | rebuild => exact rebuild_worksOn hlive h

end

end SalienceGate
