import Mathlib.Logic.Function.Basic
import SalienceGate.Lib.Stateful
import SalienceGate.Repository.Integrity

/-!
# The slot of a run

What the repository holds of a run: the ledger with its head and projection, and the caches of the
records with their receipts. Beside the slot stand the trusted head and projection, against which
the slot is verified before it is used. `stageEntry` builds the next entry without touching the
slot, and `append` and `trust` are the assignments that publish it.
-/

namespace SalienceGate

open Checked

variable [Hashing]

/-! ## State -/

/-- A record that is stored as it is. -/
inductive DirectLedgerRecord where
  | signal (record : Signal)
  | invocationDecision (record : InvocationDecision)
  | interventionOutcome (record : InterventionOutcome)
deriving DecidableEq

namespace DirectLedgerRecord

/-- The record of the ledger. -/
def toLedgerRecord : DirectLedgerRecord → LedgerRecord
  | .signal record => .signal record
  | .invocationDecision record => .invocationDecision record
  | .interventionOutcome record => .interventionOutcome record

/-- The name of the operation that stores it. -/
def operation : DirectLedgerRecord → String
  | .signal _ => "signal"
  | .invocationDecision _ => "invocation_decision"
  | .interventionOutcome _ => "intervention_outcome"

/-- Its identity. -/
def recordId : DirectLedgerRecord → UUID4
  | .signal record => record.signalId
  | .invocationDecision record => record.decisionId
  | .interventionOutcome record => record.outcomeId

/-- Its key among the direct records. -/
def key (record : DirectLedgerRecord) : String × UUID4 := (record.operation, record.recordId)

end DirectLedgerRecord

/-- `_DirectRecord`. -/
structure DirectRecord where
  record : DirectLedgerRecord
  receipt : LedgerReceipt
deriving DecidableEq

/-- `_CycleRevision`. -/
structure CycleRevision where
  record : CycleRecord
  receipt : CycleReceipt
deriving DecidableEq

/-- `_DeliveryRevision`. -/
structure DeliveryRevision where
  record : DeliveryRecord
  receipt : DeliveryTransitionReceipt
deriving DecidableEq

/-- `_RunSlot`, without its lock and leases. -/
structure Slot where
  runId : UUID4
  ledger : List LedgerEntry := []
  ledgerHead : Option LedgerHead := none
  projection : Projection
  directRecords : Dict (String × UUID4) DirectRecord := .empty
  cycleRecords : Dict (Sha256Digest × ℕ) CycleRevision := .empty
  deliveryRecords : Dict (UUID4 × ℕ) DeliveryRevision := .empty
  collisionReceipts : Dict Sha256Digest AppendReceipt := .empty
deriving DecidableEq

/-- The slot of a run, with what the repository trusts about it. A run without a slot is one with an
empty slot: the source deletes a slot that stays empty. -/
structure RunState where
  slot : Slot
  trustedHead : Option LedgerHead := none
  trustedProjection : Option Projection := none
deriving DecidableEq

/-- `_RunSlot(run_id=...)`. -/
def emptySlot (runId : UUID4) : Slot := { runId, projection := emptyProjection runId }

/-- A run that nothing was stored for. -/
def RunState.empty (runId : UUID4) : RunState := { slot := emptySlot runId }

/-- The repository: the runs by their identity. -/
abbrev Repository := UUID4 → RunState

/-- A repository without runs. -/
def Repository.empty : Repository := RunState.empty

/-- A method on the slot of a run. -/
abbrev RunM := EStateM RepositoryError RunState

/-- A method of the repository. -/
abbrev RepositoryM := EStateM RepositoryError Repository

/-- The part of a method that holds the lock of a run. -/
def onRun {α : Type} (runId : UUID4) (x : RunM α) : RepositoryM α :=
  Stateful.zoom (fun repository => repository runId)
    (fun repository run => Function.update repository runId run) x

/-- What `_stage_entry` returns: the next entry, the projection after it, and the head. -/
structure StagedEntry where
  entry : LedgerEntry
  projected : Projection
  head : LedgerHead

namespace RunState

/-- Neither an entry nor a head is stored. -/
def isVacant (run : RunState) : Bool := run.slot.ledger.isEmpty && run.slot.ledgerHead.isNone

/-- `_has_trusted_state`. -/
def hasTrustedState (run : RunState) : Bool :=
  run.trustedHead.isSome || run.trustedProjection.isSome

/-- The assignments that take over a staged entry. -/
def append (run : RunState) (staged : StagedEntry) : RunState :=
  { run with slot := { run.slot with
      ledger := run.slot.ledger ++ [staged.entry]
      ledgerHead := some staged.head
      projection := staged.projected } }

/-- The assignments to the trusted maps. -/
def trust (run : RunState) : RunState :=
  { run with
    trustedHead := run.slot.ledgerHead
    trustedProjection := some run.slot.projection }

/-- `if publish`: the assignments to the trusted maps, or none. -/
def trustIf (run : RunState) (publish : Bool) : RunState := if publish then run.trust else run

/-- `_publish_shadow`. -/
def publishShadow (run shadow : RunState) : RunState := { run with slot := shadow.slot }

end RunState

/-- `_slot`: a run without entries is not found. -/
def acquireSlot (run : RunState) : Except RepositoryError Unit := do
  raiseIf (run.isVacant = true ∧ run.hasTrustedState = true)
    (.digestVerification "trusted ledger anchor")
  raiseIf (run.isVacant = true) (.runNotFound run.slot.runId)

/-- `_acquire_append_slot`: a run without entries is new. -/
def acquireAppendSlot (run : RunState) : Except RepositoryError Unit :=
  raiseIf (run.isVacant = true ∧ run.hasTrustedState = true)
    (.digestVerification "trusted ledger anchor")

/-! ## Staging an entry -/

variable [Integrity]

/-- The chain tag of the last entry. -/
def Slot.lastChainTag (slot : Slot) : Option PayloadDigest :=
  slot.ledger.getLast?.map fun entry => entry.chainTag

/-- The fields of the next entry of a ledger. -/
def Slot.nextEntry (slot : Slot) (record : LedgerRecord) : LedgerEntryFields :=
  let position := slot.ledger.length + 1
  let recordTag := tag (.ledgerRecord record)
  { runId := slot.runId
    position
    recordKey := recordKey record
    recordTag
    previousChainTag := slot.lastChainTag
    chainTag := tag (.ledgerChain slot.runId position (recordKey record) recordTag
      slot.lastChainTag)
    record }

/-- `_entry`. -/
def ledgerEntry (slot : Slot) (record : LedgerRecord) : Except RepositoryError LedgerEntry := do
  let entry ← (LedgerEntry.create (slot.nextEntry record)).mapError .validation
  verifyEntry entry (slot.ledger.length + 1) slot.lastChainTag
  pure entry

/-- The fields of the head after an entry. -/
def Slot.nextHead (slot : Slot) (entry : LedgerEntry) (projection : Projection) :
    LedgerHeadFields :=
  let projectionTag := projectionCheckpointTag entry projection
    (slot.ledgerHead.map (·.projectionTag))
  { runId := slot.runId
    entryCount := entry.position
    chainTag := entry.chainTag
    projectionTag
    headTag := headTag slot.runId entry.position entry.chainTag projectionTag }

/-- `_head`. -/
def ledgerHead (slot : Slot) (entry : LedgerEntry) (projection : Projection) :
    Except RepositoryError LedgerHead :=
  (LedgerHead.create (slot.nextHead entry projection)).mapError .validation

/-- `_stage_entry`. -/
def stageEntry (slot : Slot) (record : LedgerRecord) :
    Except RepositoryError StagedEntry := do
  let entry ← ledgerEntry slot record
  let projected ← applyEntry slot.projection entry
  let head ← ledgerHead slot entry projected
  pure { entry, projected, head }

/-! ## Verifying the slot -/

/-- The checks of a head against the last entry of its ledger. -/
def verifyLastEntry (slot : Slot) (head : LedgerHead) : Except RepositoryError Unit := do
  raiseIf (head.runId ≠ slot.runId ∨ head.entryCount ≠ slot.ledger.length
      ∨ slot.lastChainTag ≠ some head.chainTag)
    (.digestVerification "ledger head")

/-- `_verify_head`. The source compares the trusted projection by identity. -/
def verifyHead (run : RunState) (verifyProjection : Bool := true) : Except RepositoryError Unit := do
  let head ← expect run.slot.ledgerHead (.digestVerification "ledger head")
  raiseIf (run.slot.ledger = []) (.digestVerification "ledger head")
  raiseIf (run.trustedHead ≠ some head) (.digestVerification "trusted ledger anchor")
  verifyLastEntry run.slot head
  raiseIf (verifyProjection = true ∧ run.trustedProjection ≠ some run.slot.projection)
    (.digestVerification "projection head")
  raiseIf (head.headTag ≠ headTag head.runId head.entryCount head.chainTag head.projectionTag)
    (.digestVerification "ledger head")

/-- `_require_expected_head`. -/
def requireExpectedHead (run : RunState) (expectedHead : Option LedgerHead) :
    Except RepositoryError Unit :=
  if run.isVacant then raiseIf (expectedHead ≠ none) .ledgerHeadConflict
  else do
    verifyHead run
    raiseIf (expectedHead = none ∨ run.slot.ledgerHead ≠ expectedHead) .ledgerHeadConflict

/-- `_copy_expected_head`. -/
def copyExpectedHead : Argument LedgerHead → Except RepositoryError LedgerHead
  | .exact head => pure head
  | .foreign | .malformed => throw .ledgerHeadConflict

/-- An optional expected head. -/
def copyOptionalHead : Option (Argument LedgerHead) → Except RepositoryError (Option LedgerHead)
  | none => pure none
  | some head => some <$> copyExpectedHead head

/-! ## Checking the arguments -/

/-- `_validate_run_id`. -/
def validateRunId : Argument UUID4 → Except RepositoryError UUID4
  | .exact id => pure id
  | .foreign | .malformed => throw .invalidRunId

/-- `_validate_direct_record` and `_validate_cycle_command`. -/
def validateCommand {α : Type} (operation : String) : Argument α → Except RepositoryError α
  | .exact value => pure value
  | .malformed => throw (.invalidRecord operation)
  | .foreign => throw (.invalidRecordType operation)

/-- `_validate_record_content`. -/
def validateRecordContent [Redactor] [Serialization] (record : SubmittedRecord)
    (operation : String) : Except RepositoryError Unit :=
  match redactPayload (Serialization.modelDump record) with
  | .error _ => throw (.unsafeRecordContent operation)
  | .ok redacted => raiseIf (redacted ≠ Serialization.modelDump record)
    (.unsafeRecordContent operation)

end SalienceGate
