import SalienceGate.Repository.Deliveries

/-!
# Cycle commands

The commands that move a memory cycle: begin, reserve, start, commit and fail, and the recovery of
running cycles. Each derives the next revision from the one that the command expects, and stores it
if it is not stored yet. A commit stages the revision and the delivery of its reminder on a copy of
the slot, which is published when the projection is complete.
-/

namespace SalienceGate

open Checked Stateful

variable [Hashing]

/-! ## Revisions -/

/-- The assignment to the cache of the cycle revisions. -/
def RunState.withCycle (run : RunState) (record : CycleRecord) (receipt : CycleReceipt) :
    RunState :=
  { run with slot := { run.slot with
      cycleRecords := run.slot.cycleRecords.set (record.cycleId, record.revision)
        ⟨record, receipt⟩ } }

/-- `_cycle_base`. -/
def cycleBase (slot : Slot) (cycleIdentifier : Sha256Digest) (expectedRevision : ℕ)
    (expectedState : Option CycleState) : Except RepositoryError CycleRecord := do
  let base ← expect (slot.projection.cycleHistory.get? (cycleIdentifier, expectedRevision))
    (.cycleRevisionConflict expectedRevision
      ((slot.projection.cycles.get? cycleIdentifier).map (·.revision)))
  forM expectedState.toList fun state =>
    raiseIf (base.state ≠ state) (.invalidCycleState "cycle transition" state)
  pure base

/-- `_transition_cycle`, with the updates already made. -/
def transitionCycle (operation : String) (updated : CycleRecordFields) :
    Except RepositoryError CycleRecord := do
  raiseIf (∃ reservation ∈ updated.budgetReservation, ∃ settlement ∈ updated.budgetSettlement,
      ∃ field ∈ budgetFields, reservation.get field < settlement.get field)
    (.projectionInvariant "cycle settlement exceeds its reservation")
  (CycleRecord.create updated).mapError fun _ => .invalidRecord operation

/-- `_record_cycle_locked`, for a revision that is stored. -/
def recordExistingCycle (record : CycleRecord) (existing : CycleRevision) :
    Except RepositoryError CycleReceipt := do
  raiseIf (existing.record ≠ record) .cycleConflict
  pure existing.receipt.repeated

variable [Integrity]

/-- The receipt of a staged cycle revision. -/
def cycleReceipt (record : CycleRecord) (staged : StagedEntry) (delivery : Option DeliveryRecord) :
    Except RepositoryError CycleReceipt := do
  let snapshot ← budgetSnapshot staged.projected
  (CycleReceipt.create {
    appended := true
    cycle := record
    recordTag := staged.entry.recordTag
    ledgerPosition := staged.entry.position
    chainTag := staged.entry.chainTag
    budgetSnapshot := snapshot
    delivery }).mapError .validation

/-- `_record_cycle_locked`, for a revision that is not stored. -/
def recordNewCycle (record : CycleRecord) (publish : Bool) (delivery : Option DeliveryRecord) :
    RunM CycleReceipt := do
  let run ← get
  let staged ← stageEntry run.slot (.cycleRecord record)
  let receipt ← cycleReceipt record staged delivery
  modify fun run => ((run.append staged).withCycle record receipt).trustIf publish
  pure receipt

/-- `_record_cycle_locked`. -/
def recordCycleLocked (record : CycleRecord) (publish : Bool)
    (delivery : Option DeliveryRecord := none) : RunM CycleReceipt := do
  let run ← get
  match run.slot.cycleRecords.get? (record.cycleId, record.revision) with
  | some existing => recordExistingCycle record existing
  | none => recordNewCycle record publish delivery

/-! ## Beginning -/

/-- The fields of the first revision of a cycle. -/
def BeginCycle.pending (command : BeginCycle) (decision : InvocationDecision)
    (firstEventSequence : ℕ) : CycleRecordFields where
  cycleId := cycleId command.runId firstEventSequence decision.eventSequence decision.policyVersion
    decision.configurationDigest command.groundingVersion command.groundingConfigurationDigest
    command.requestedDeliveryTarget
  runId := command.runId
  revision := 1
  invocationDecisionId := command.invocationDecisionId
  policyVersion := decision.policyVersion
  configurationDigest := decision.configurationDigest
  groundingVersion := command.groundingVersion
  groundingConfiguration := command.groundingConfiguration
  groundingConfigurationDigest := command.groundingConfigurationDigest
  requestedDeliveryTarget := command.requestedDeliveryTarget
  firstEventSequence
  lastEventSequence := decision.eventSequence
  state := .pending
  createdAt := command.createdAt
  updatedAt := command.createdAt

/-- `begin_cycle`, for a decision that has a cycle. -/
def rebeginCycle (command : BeginCycle) (existing : CycleRecord) : RunM CycleReceipt := do
  raiseIf (existing.groundingVersion ≠ command.groundingVersion
      ∨ existing.groundingConfiguration ≠ command.groundingConfiguration
      ∨ existing.groundingConfigurationDigest ≠ command.groundingConfigurationDigest
      ∨ existing.requestedDeliveryTarget ≠ command.requestedDeliveryTarget)
    RepositoryError.cycleConflict
  let retry ← transitionCycle "begin_cycle" { existing.toCycleRecordFields with
    createdAt := command.createdAt
    updatedAt := command.createdAt }
  recordCycleLocked retry true

/-- `begin_cycle`, for a decision without a cycle. -/
def beginNewCycle (command : BeginCycle) (decision : InvocationDecision) : RunM CycleReceipt := do
  let run ← get
  let firstEventSequence := run.slot.projection.memoryCursor + 1
  raiseIf (decision.eventSequence < firstEventSequence)
    (RepositoryError.projectionInvariant "cycle has no unprocessed event range")
  let pending := command.pending decision firstEventSequence
  raiseIf (∃ active ∈ run.slot.projection.cycles.values, active.state.isActive = true
      ∧ active.cycleId ≠ pending.cycleId)
    RepositoryError.cycleConflict
  let cycle ← (CycleRecord.create pending).mapError RepositoryError.validation
  recordCycleLocked cycle true

omit [Integrity] in
/-- The first revisions of the cycles of a decision. -/
def existingBeginnings (projection : Projection) (decisionId : UUID4) : List CycleRecord :=
  (projection.cycleHistory.items.filter fun item =>
    item.1.2 = 1 && item.2.invocationDecisionId = decisionId).map Prod.snd

/-- The locked part of `begin_cycle`. -/
def beginCycleLocked (command : BeginCycle) : RunM CycleReceipt := do
  let run ← get
  acquireSlot run
  verifyHead run
  let decision ← expect (run.slot.projection.decisions.get? command.invocationDecisionId)
    (RepositoryError.crossRunReference "cycle invocation decision")
  let beginnings := existingBeginnings run.slot.projection command.invocationDecisionId
  raiseIf (1 < beginnings.length)
    (RepositoryError.projectionInvariant "invocation decision has multiple cycles")
  match beginnings.head? with
  | some existing => rebeginCycle command existing
  | none => beginNewCycle command decision

/-! ## Reserving and starting -/

/-- The locked part of a command that moves a cycle from one state to the next. -/
def advanceCycleLocked (operation : String) (cycleIdentifier : Sha256Digest) (expectedRevision : ℕ)
    (expectedState : CycleState) (update : CycleRecord → CycleRecordFields) :
    RunM CycleReceipt := do
  let run ← get
  acquireSlot run
  verifyHead run
  let base ← cycleBase run.slot cycleIdentifier expectedRevision (some expectedState)
  let cycle ← transitionCycle operation (update base)
  recordCycleLocked cycle true

omit [Integrity] in
/-- The revision that `reserve_cycle` makes. -/
def ReserveCycle.next (command : ReserveCycle) (base : CycleRecord) : CycleRecordFields :=
  { base.toCycleRecordFields with
    revision := base.revision + 1
    state := .reserved
    budgetReservation := some command.reservation
    updatedAt := command.updatedAt }

omit [Integrity] in
/-- The revision that `mark_cycle_running` makes. -/
def StartCycle.next (command : StartCycle) (base : CycleRecord) : CycleRecordFields :=
  { base.toCycleRecordFields with
    revision := base.revision + 1
    state := .running
    batchDigest := some command.batchDigest
    updatedAt := command.updatedAt }

/-! ## Committing -/

omit [Hashing] [Integrity] in
/-- The adapter binding of a delivery. -/
def DeliveryRecord.plan (delivery : DeliveryRecord) : EnqueueDeliveryFields where
  targetRequestId := delivery.targetRequestId
  adapterId := delivery.adapterId
  adapterDeduplicates := delivery.adapterDeduplicates
  adapterDeduplicationGuarantee := delivery.adapterDeduplicationGuarantee
  adapterSupportsPreAction := delivery.adapterSupportsPreAction
  adapterContractVersion := delivery.adapterContractVersion
  adapterCapabilitiesDigest := delivery.adapterCapabilitiesDigest

omit [Integrity] in
/-- The revision that `commit_cycle` makes. -/
def CommitCycle.next (command : CommitCycle) (base : CycleRecord) : CycleRecordFields :=
  { base.toCycleRecordFields with
    revision := base.revision + 1
    state := .committed
    budgetSettlement := some command.settlement
    modelCallDigests := command.modelCallDigests
    modelCallLatenciesUs := command.modelCallLatenciesUs
    validatedDelta := some command.validatedDelta
    memoryIdAssignments := command.memoryIdAssignments
    intervention := some command.intervention
    selectorProvenance := command.selectorProvenance
    updatedAt := command.updatedAt }

omit [Integrity] in
/-- `canonical_digest(intervention.rendered_text)`. -/
def renderedTextDigest (intervention : InterventionDecision) : Sha256Digest :=
  canonicalDigest (intervention.renderedText.elim .null fun text => .str text.text)

omit [Integrity] in
/-- The first revision of the delivery of a reminder. -/
def CommitCycle.pendingDelivery (command : CommitCycle) (cycle : CycleRecord) (plan : EnqueueDelivery)
    (target : DeliveryTarget) : DeliveryRecordFields where
  deliveryId := deliveryId cycle.runId cycle.cycleId command.intervention.interventionId
    plan.targetRequestId target plan.adapterId plan.adapterCapabilitiesDigest
    (renderedTextDigest command.intervention)
  runId := cycle.runId
  revision := 1
  cycleId := cycle.cycleId
  interventionId := command.intervention.interventionId
  renderedTextDigest := renderedTextDigest command.intervention
  targetRequestId := plan.targetRequestId
  target
  state := .pending
  attemptCount := 0
  adapterId := plan.adapterId
  adapterDeduplicates := plan.adapterDeduplicates
  adapterDeduplicationGuarantee := plan.adapterDeduplicationGuarantee
  adapterSupportsPreAction := plan.adapterSupportsPreAction
  adapterContractVersion := plan.adapterContractVersion
  adapterCapabilitiesDigest := plan.adapterCapabilitiesDigest
  createdAt := command.updatedAt
  updatedAt := command.updatedAt

omit [Integrity] in
/-- The delivery that a commit enqueues, if it plans one. -/
def enqueuedDelivery (command : CommitCycle) (cycle : CycleRecord) :
    Except RepositoryError (Option DeliveryRecord) :=
  match command.delivery with
  | none => pure none
  | some plan => do
    let target ← expect command.intervention.deliveryTarget
      (.projectionInvariant "reminder delivery target is unavailable")
    let delivery ← (DeliveryRecord.create (command.pendingDelivery cycle plan target)).mapError .validation
    pure (some delivery)

omit [Integrity] in
/-- `commit_cycle`, for a revision that is stored. -/
def recommitCycle (command : CommitCycle) (cycle : CycleRecord) (existing : CycleRevision) :
    Except RepositoryError CycleReceipt := do
  raiseIf (existing.record ≠ cycle) .cycleConflict
  raiseIf (command.delivery.map (·.toEnqueueDeliveryFields)
      ≠ existing.receipt.delivery.map (·.plan))
    .cycleConflict
  pure existing.receipt.repeated

/-- The entries of a commit: the cycle, and the delivery of its reminder. -/
def stageCommit (cycle : CycleRecord) (delivery : Option DeliveryRecord) : RunM CycleReceipt := do
  let receipt ← recordCycleLocked cycle false delivery
  forM delivery.toList fun record => do
    let _ ← recordDeliveryLocked record false
  pure receipt

/-- `commit_cycle`, for a revision that is not stored. -/
def commitNewCycle (command : CommitCycle) (cycle : CycleRecord) : RunM CycleReceipt := do
  let delivery ← enqueuedDelivery command cycle
  let shadow ← onCopy (stageCommit cycle delivery)
  validateCompleteProjection shadow.2.slot.projection
  publishIf true shadow.2 "cycle commit shadow is incomplete"
  pure shadow.1

/-- The locked part of `commit_cycle`. -/
def commitCycleLocked (command : CommitCycle) : RunM CycleReceipt := do
  let run ← get
  acquireSlot run
  verifyHead run
  let base ← cycleBase run.slot command.cycleId command.expectedRevision (some .running)
  raiseIf (command.intervention.groundingVersion ≠ base.groundingVersion
      ∨ command.intervention.groundingConfigurationDigest ≠ base.groundingConfigurationDigest
      ∨ command.intervention.groundingConfiguration ≠ base.groundingConfiguration)
    (RepositoryError.projectionInvariant
      "grounded intervention failed authoritative verification")
  let cycle ← transitionCycle "commit_cycle" (command.next base)
  match run.slot.cycleRecords.get? (cycle.cycleId, cycle.revision) with
  | some existing => recommitCycle command cycle existing
  | none => commitNewCycle command cycle

/-! ## Failing -/

omit [Integrity] in
/-- The settlement of a failure: none before a reservation, and the whole reservation if the cost is
unknown. -/
def failureSettlement (command : FailCycle) (base : CycleRecord) :
    Except RepositoryError (Option BudgetAmounts) := do
  raiseIf (base.state = .pending ∧ (command.settlement ≠ none ∨ command.modelCallDigests ≠ []
      ∨ command.modelCallLatenciesUs ≠ []))
    .cycleConflict
  raiseIf (base.state ≠ .pending ∧ command.settlement = none) .cycleConflict
  raiseIf (base.state = .reserved ∧ (command.modelCallDigests ≠ []
      ∨ command.modelCallLatenciesUs ≠ []))
    .cycleConflict
  raiseIf (command.reason = .failedUnknownCost ∧ base.state ≠ .running) .cycleConflict
  raiseIf (command.reason = .failedUnknownCost ∧ command.settlement ≠ none
      ∧ command.settlement ≠ base.budgetReservation)
    .cycleConflict
  pure (if command.reason = .failedUnknownCost then base.budgetReservation else command.settlement)

omit [Integrity] in
/-- The revision that `fail_cycle` makes. -/
def FailCycle.next (command : FailCycle) (base : CycleRecord) (settlement : Option BudgetAmounts) :
    CycleRecordFields :=
  { base.toCycleRecordFields with
    revision := base.revision + 1
    state := .failed
    budgetSettlement := settlement
    modelCallDigests := command.modelCallDigests
    modelCallLatenciesUs := command.modelCallLatenciesUs
    failureReason := some command.reason
    updatedAt := command.updatedAt }

/-- The locked part of `fail_cycle`. -/
def failCycleLocked (command : FailCycle) : RunM CycleReceipt := do
  let run ← get
  acquireSlot run
  verifyHead run
  let base ← cycleBase run.slot command.cycleId command.expectedRevision none
  raiseIf (base.state.isActive = false) (RepositoryError.invalidCycleState "fail_cycle" .running)
  let settlement ← failureSettlement command base
  let cycle ← transitionCycle "fail_cycle" (command.next base settlement)
  recordCycleLocked cycle true

/-! ## Operations -/

section

variable [Redactor] [Serialization]

/-- `begin_cycle`. -/
def beginCycle (command : Argument BeginCycle) : RepositoryM CycleReceipt := do
  let validated ← validateCommand "begin_cycle" command
  validateRecordContent (.beginCycle validated) "begin_cycle"
  onRun validated.runId (beginCycleLocked validated)

/-- `reserve_cycle`. -/
def reserveCycle (command : Argument ReserveCycle) : RepositoryM CycleReceipt := do
  let validated ← validateCommand "reserve_cycle" command
  validateRecordContent (.reserveCycle validated) "reserve_cycle"
  onRun validated.runId (advanceCycleLocked "reserve_cycle" validated.cycleId
    validated.expectedRevision .pending validated.next)

/-- `mark_cycle_running`. -/
def markCycleRunning (command : Argument StartCycle) : RepositoryM CycleReceipt := do
  let validated ← validateCommand "mark_cycle_running" command
  validateRecordContent (.startCycle validated) "mark_cycle_running"
  onRun validated.runId (advanceCycleLocked "mark_cycle_running" validated.cycleId
    validated.expectedRevision .reserved validated.next)

/-- `commit_cycle`. -/
def commitCycle (command : Argument CommitCycle) : RepositoryM CycleReceipt := do
  let validated ← validateCommand "commit_cycle" command
  validateRecordContent (.commitCycle validated) "commit_cycle"
  onRun validated.runId (commitCycleLocked validated)

/-- `fail_cycle`. -/
def failCycle (command : Argument FailCycle) : RepositoryM CycleReceipt := do
  let validated ← validateCommand "fail_cycle" command
  validateRecordContent (.failCycle validated) "fail_cycle"
  onRun validated.runId (failCycleLocked validated)

end

/-! ## Recovery -/

omit [Integrity] in
/-- `sorted(projection.cycles.items())`, the values. -/
def sortedCycles (projection : Projection) : List CycleRecord :=
  (projection.cycles.items.insertionSort fun a b =>
    !Json.keyLt b.1.text.toList a.1.text.toList).map Prod.snd

/-- A round of the recovery: a running cycle fails at its full reservation. -/
def failRecovered (recoveredAt : UtcDatetime) (cycle : CycleRecord) : RunM CycleReceipt := do
  let failed ← (CycleRecord.create { cycle.toCycleRecordFields with
    revision := cycle.revision + 1
    state := .failed
    budgetSettlement := cycle.budgetReservation
    failureReason := some .failedUnknownCost
    updatedAt := max recoveredAt cycle.updatedAt }).mapError RepositoryError.validation
  recordCycleLocked failed false

/-- The locked part of `recover_cycles`. -/
def recoverCyclesLocked (runId : UUID4) (recoveredAt : UtcDatetime) :
    RunM CycleRecoveryReceipt := do
  let run ← get
  acquireSlot run
  verifyHead run
  let cycles := sortedCycles run.slot.projection
  let shadow ← onCopy ((cycles.filter (·.state = .running)).mapM (failRecovered recoveredAt))
  publishIf (!shadow.1.isEmpty) shadow.2 "recovery shadow state is incomplete"
  pure {
    runId
    resumablePending := cycles.filter (·.state = .pending)
    resumableReserved := cycles.filter (·.state = .reserved)
    failedUnknownCost := shadow.1 }

/-- `recover_cycles`. -/
def recoverCycles (runId : Argument UUID4) (recoveredAt : Argument UtcDatetime) :
    RepositoryM CycleRecoveryReceipt := do
  let runId ← validateRunId runId
  let recoveredAt ← validateRecoveryTime recoveredAt
  onRun runId (recoverCyclesLocked runId recoveredAt)

end SalienceGate
