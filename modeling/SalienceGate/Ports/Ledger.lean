import SalienceGate.Domain.Cycles

/-!
# The ledger of a run

The errors of a repository, and the two records it signs: an entry of the ledger, which is chained
to the one before it, and the head, which seals the number of entries and the projection they lead
to.
-/

namespace SalienceGate

/-- What the repository and its projector raise. A validation error comes from a record that they
build, the others are the repository errors. -/
inductive RepositoryError where
  | validation (error : ValidationError)
  | invalidAppendType
  | invalidDraft
  | unsafeEventMetadata (fields : List String)
  | invalidRecordType (operation : String)
  | invalidRecord (operation : String)
  | unsafeRecordContent (operation : String)
  | invalidRunId
  | invalidCycleState (operation : String) (expected : CycleState)
  | cycleConflict
  | cycleRevisionConflict (expected : ℕ) (actual : Option ℕ)
  | deliveryNotFound
  | deliveryRevisionConflict (expected : ℕ) (actual : Option ℕ)
  | invalidDeliveryState (operation : String)
  | deliveryOwnership
  | invalidRecoveryTime
  | runNotFound (runId : UUID4)
  | recordCollision (recordType : String) (recordId : UUID4)
  | revisionConflict (memoryId : UUID4) (expected : ℕ) (actual : Option ℕ)
  | crossRunReference (referenceType : String)
  | digestVerification (scope : String)
  | ledgerHeadConflict
  | projectionInvariant (message : String)
  | previewConflict
  | rebuild
deriving DecidableEq

/-- The fields of a ledger entry. -/
structure LedgerEntryFields [Hashing] where
  runId : UUID4
  position : ℕ
  recordKey : String
  recordTag : PayloadDigest
  previousChainTag : Option PayloadDigest := none
  chainTag : PayloadDigest
  record : LedgerRecord
deriving DecidableEq

/-- `record_belongs_to_entry_run`, after the field constraints. -/
def LedgerEntryFields.check [Hashing] (entry : LedgerEntryFields) : Check := do
  constrain (1 ≤ entry.position) "position" "greater_than_equal"
  constrain (1 ≤ entry.recordKey.length) "record_key" "string_too_short"
  constrain (entry.recordKey.length ≤ 200) "record_key" "string_too_long"
  refuse (entry.record.runId ≠ entry.runId) "ledger record belongs to a different run"
  refuse (decide (entry.position = 1) ≠ entry.previousChainTag.isNone)
    "only the first ledger entry can omit its previous chain tag"
  refuse (entry.recordTag.algorithm ≠ entry.chainTag.algorithm
      ∨ ∃ tag ∈ entry.previousChainTag, tag.algorithm ≠ entry.chainTag.algorithm)
    "ledger entry integrity algorithms must match"

/-- An entry of the ledger: a record with its place in the chain. -/
structure LedgerEntry [Hashing] extends LedgerEntryFields where
  valid : toLedgerEntryFields.check = .ok ()
deriving DecidableEq

/-- `LedgerEntry(...)`. -/
def LedgerEntry.create [Hashing] (fields : LedgerEntryFields) :
    Except ValidationError LedgerEntry :=
  Checked.validate LedgerEntryFields.check LedgerEntry.mk fields

/-- The fields of a ledger head. -/
structure LedgerHeadFields where
  runId : UUID4
  entryCount : ℕ
  chainTag : PayloadDigest
  projectionTag : PayloadDigest
  headTag : PayloadDigest
deriving DecidableEq

/-- `algorithms_match`, after the field constraints. -/
def LedgerHeadFields.check (head : LedgerHeadFields) : Check := do
  constrain (1 ≤ head.entryCount) "entry_count" "greater_than_equal"
  refuse (head.chainTag.algorithm ≠ head.projectionTag.algorithm
      ∨ head.chainTag.algorithm ≠ head.headTag.algorithm)
    "ledger head integrity algorithms must match"

/-- The head of a ledger. -/
structure LedgerHead extends LedgerHeadFields where
  valid : toLedgerHeadFields.check = .ok ()
deriving DecidableEq

/-- `LedgerHead(...)`. -/
def LedgerHead.create (fields : LedgerHeadFields) : Except ValidationError LedgerHead :=
  Checked.validate LedgerHeadFields.check LedgerHead.mk fields

end SalienceGate
