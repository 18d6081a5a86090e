import SalienceGate.Repository.Replay

/-!
# Conditional batches

A batch of events and signals under one expected head. The operations are staged on a copy of the
slot, the staged suffix is authenticated again, and the copy is published as a whole.
-/

namespace SalienceGate

open Checked Stateful

/-- `_PreparedConditionalOperation`. -/
inductive PreparedConditionalOperation where
  | event (draft : NormalizedTraceEventDraft) (redacted : RedactedTraceEventDraft) (eventId : UUID4)
  | signal (signal : Signal)

/-- The run of an operation. -/
def PreparedConditionalOperation.runId : PreparedConditionalOperation → UUID4
  | .event draft .. => draft.runId
  | .signal record => record.runId

/-- What preparing a batch keeps from one operation to the next. -/
structure BatchPreparation where
  eventCount : ℕ := 0
  signalCount : ℕ := 0
  runId : Option UUID4 := none
  copied : List ConditionalAppendOperation := []
  prepared : List PreparedConditionalOperation := []

/-- The error of a batch that breaks a bound. -/
def invalidBatch : RepositoryError := .invalidRecord "conditional_batch"

/-- The preparation with one more operation, of the same run. -/
def BatchPreparation.add (state : BatchPreparation) (copied : ConditionalAppendOperation)
    (prepared : PreparedConditionalOperation) : Except RepositoryError BatchPreparation := do
  raiseIf (∃ runId ∈ state.runId, prepared.runId ≠ runId) invalidBatch
  pure { state with
    runId := some (state.runId.getD prepared.runId)
    copied := state.copied ++ [copied]
    prepared := state.prepared ++ [prepared] }

section

variable [Hashing] [Redactor] [PayloadMac] [Serialization]

/-- A round of the loop over the operations of a batch. -/
def prepareOperation (state : BatchPreparation) :
    Argument ConditionalAppendOperation → Except RepositoryError BatchPreparation
  | .foreign => throw (.invalidRecordType "conditional_batch")
  | .malformed => throw invalidBatch
  | .exact (.appendEvent event eventId) => do
    raiseIf (maxConditionalBatchEvents < state.eventCount + 1) invalidBatch
    validateMetadata event
    let redacted ← redactDraft event
    { state with eventCount := state.eventCount + 1 }.add (.appendEvent event eventId)
      (.event event redacted eventId)
  | .exact (.recordSignal signal) => do
    raiseIf (maxConditionalBatchSignals < state.signalCount + 1) invalidBatch
    validateRecordContent (.signal signal) "signal"
    { state with signalCount := state.signalCount + 1 }.add (.recordSignal signal) (.signal signal)

/-- `_prepare_conditional_batch`, of a tuple. -/
def prepareOperations (operations : List (Argument ConditionalAppendOperation)) :
    Except RepositoryError (UUID4 × List PreparedConditionalOperation) := do
  raiseIf (operations.length < 1 ∨ maxConditionalBatchOperations < operations.length) invalidBatch
  let state ← operations.foldlM prepareOperation {}
  raiseIf (maxConditionalBatchRequestBytes < Serialization.requestBytes state.copied) invalidBatch
  let runId ← expect state.runId (.projectionInvariant "conditional batch run is unavailable")
  pure (runId, state.prepared)

/-- `_prepare_conditional_batch`. -/
def prepareConditionalBatch (operations : Argument (List (Argument ConditionalAppendOperation))) :
    Except RepositoryError (UUID4 × List PreparedConditionalOperation) :=
  match operations with
  | .exact operations => prepareOperations operations
  | .foreign | .malformed => throw (.invalidRecordType "conditional_batch")

/-- `_bounded_conditional_batch_receipt`. -/
def boundedConditionalBatchReceipt (fields : ConditionalBatchReceiptFields) :
    Except RepositoryError ConditionalBatchReceipt :=
  (ConditionalBatchReceipt.create fields).mapError fun error =>
    if error = ConditionalBatchReceiptFields.byteLimitError then invalidBatch
    else .projectionInvariant "conditional batch receipt is invalid"

end

variable [Hashing] [Integrity]

/-- A round of the staging loop. -/
def stageOperation : PreparedConditionalOperation → RunM BatchEntryReceipt
  | .event draft redacted eventId => .event <$> appendConditionalToSlot draft redacted eventId false
  | .signal signal => .signal <$> recordDirectLocked (.signal signal) false false

/-- The error of a shadow that the batch cannot have staged. -/
def invalidCandidate : RepositoryError := .digestVerification "conditional batch candidate"

/-- A round of the loop over the staged suffix. -/
def authenticateCandidate (runId : UUID4) (cursor : ReplayCursor) (entry : LedgerEntry) :
    Except RepositoryError ReplayCursor := do
  raiseIf (entry.runId ≠ runId) invalidCandidate
  authenticateEntry cursor entry

/-- Where a slot is in its ledger: the start of the loop over a suffix. -/
def Slot.cursor (slot : Slot) : ReplayCursor where
  position := slot.ledger.length
  projection := slot.projection
  previous := slot.ledgerHead.map (·.chainTag)
  projectionTag := slot.ledgerHead.map (·.projectionTag)
  directRecords := slot.directRecords

/-- `_verify_conditional_shadow`. -/
def verifyConditionalShadow (slot shadow : Slot) : Except RepositoryError Unit := do
  let head ← expect shadow.ledgerHead
    (.projectionInvariant "conditional batch state is unavailable")
  let baseCount := slot.ledger.length
  raiseIf (shadow.runId ≠ slot.runId ∨ shadow.ledger.length ≤ baseCount
      ∨ shadow.ledger.take baseCount ≠ slot.ledger)
    invalidCandidate
  let cursor ← (shadow.ledger.drop baseCount).foldlM (authenticateCandidate slot.runId) slot.cursor
  raiseIf (head.runId ≠ slot.runId ∨ head.entryCount ≠ shadow.ledger.length
      ∨ some head.chainTag ≠ cursor.previous ∨ some head.projectionTag ≠ cursor.projectionTag
      ∨ head.headTag ≠ headTag head.runId head.entryCount head.chainTag head.projectionTag)
    invalidCandidate
  validateCompleteProjection cursor.projection
  raiseIf (cursor.projection ≠ shadow.projection ∨ cursor.directRecords ≠ shadow.directRecords
      ∨ shadow.cycleRecords ≠ slot.cycleRecords
      ∨ shadow.deliveryRecords ≠ slot.deliveryRecords
      ∨ shadow.collisionReceipts ≠ slot.collisionReceipts)
    invalidCandidate

/-- The check of a shadow: of its suffix, if the batch staged one. -/
def verifyStaged (slot shadow : Slot) (mutated : Bool) : Except RepositoryError Unit :=
  if mutated then verifyConditionalShadow slot shadow
  else validateCompleteProjection shadow.projection

/-- The checks of a staged batch, with the receipt of the batch. -/
def checkStagedBatch [Serialization] (slot shadow : Slot) (receipts : List BatchEntryReceipt) :
    Except RepositoryError ConditionalBatchReceipt := do
  let finalHead ← expect shadow.ledgerHead
    (.projectionInvariant "conditional batch state is unavailable")
  verifyStaged slot shadow (receipts.any (·.appended))
  boundedConditionalBatchReceipt { initialHead := slot.ledgerHead, receipts, finalHead }

/-- `_commit_conditional_shadow`. -/
def RunState.commitShadow (run shadow : RunState) : RunState := (run.publishShadow shadow).trust

/-- The locked part of `append_records_if_head`. -/
def appendRecordsLocked [Serialization] (prepared : List PreparedConditionalOperation)
    (expectedHead : Option LedgerHead) : RunM ConditionalBatchReceipt := do
  let run ← get
  acquireAppendSlot run
  requireExpectedHead run expectedHead
  let staged ← onCopy (prepared.mapM stageOperation)
  let receipt ← checkStagedBatch run.slot staged.2.slot staged.1
  modify fun run => if staged.1.any (·.appended) then run.commitShadow staged.2 else run
  pure receipt

/-- `append_records_if_head`. -/
def appendRecordsIfHead [Redactor] [Serialization]
    (operations : Argument (List (Argument ConditionalAppendOperation)))
    (expectedHead : Option (Argument LedgerHead)) : RepositoryM ConditionalBatchReceipt := do
  let batch ← prepareConditionalBatch operations
  let copiedHead ← copyOptionalHead expectedHead
  onRun batch.1 (appendRecordsLocked batch.2 copiedHead)

end SalienceGate
