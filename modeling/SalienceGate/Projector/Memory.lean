import SalienceGate.Projector.Projection

/-!
# Memory deltas

`previewMemoryDelta` applies the creates, updates and invalidations of a delta, and last the
replacement of the private status, to a copy of the memories. Each of them is checked against the
copy as the ones before it left it, except that the evidence of a create is looked up in the
projection.
-/

namespace SalienceGate

open Checked

/-- The copy of the memories that a delta changes. -/
structure MemoryBank where
  histories : Dict (UUID4 × ℕ) MemoryRecord
  memories : Dict UUID4 MemoryRecord
  currentPrivate : Option UUID4

/-- `_validate_memory_target`. -/
def validateMemoryTarget (memories : Dict UUID4 MemoryRecord) (memoryId : UUID4)
    (expectedRevision : ℕ) : Except RepositoryError MemoryRecord := do
  let existing ← expect (memories.get? memoryId)
    (.revisionConflict memoryId expectedRevision none)
  raiseIf (existing.revision ≠ expectedRevision)
    (.revisionConflict memoryId expectedRevision (some existing.revision))
  raiseIf (existing.validity ≠ .active)
    (.projectionInvariant "memory mutations require an active target")
  pure existing

/-- `_store_memory`. -/
def storeMemory (bank : MemoryBank) (record : MemoryRecord) : Except RepositoryError MemoryBank := do
  raiseIf ((record.memoryId, record.revision) ∈ bank.histories)
    (.projectionInvariant "memory revision already exists")
  pure { bank with
    histories := bank.histories.set (record.memoryId, record.revision) record
    memories := bank.memories.set record.memoryId record }

/-- A record that the projector builds. -/
def projectedMemory (fields : MemoryRecordFields) : Except RepositoryError MemoryRecord :=
  (MemoryRecord.create fields).mapError fun _ =>
    .projectionInvariant "projected memory record is invalid"

/-- `_new_memory`. -/
def newMemory (runId memoryId : UUID4) (create : MemoryCreate) (createdAt : UtcDatetime) :
    Except RepositoryError MemoryRecord :=
  projectedMemory {
    memoryId, runId
    kind := create.kind
    content := create.content
    provenance := create.provenance
    confidence := create.confidence
    validity := .active
    revision := 1
    createdAt
    updatedAt := createdAt
    expiresAt := create.expiresAt
    trustLabel := .untrustedModelOutput }

/-- `assignments[handle]`. The handles of a delta that reaches this are all assigned. -/
def assignedMemoryId (assignments : List MemoryIdAssignment) (handle : NonEmptyString) :
    Except RepositoryError UUID4 :=
  expect ((assignments.find? (·.handle = handle)).map (·.memoryId))
    (.projectionInvariant "memory ID assignments must exactly match created handles")

/-- The expiration after an update. -/
def ExpirationPatch.apply (patch : ExpirationPatch) (current : Option UtcDatetime) :
    Option UtcDatetime :=
  match patch.action with
  | .keep => current
  | .clear => none
  | .set => patch.value

/-- The memories of a projection. -/
def Projection.bank [Hashing] (projection : Projection) : MemoryBank where
  histories := projection.memoryHistory
  memories := projection.memories
  currentPrivate := projection.currentPrivateStatusId

/-- The projection with the memories of a bank. -/
def Projection.withBank [Hashing] (projection : Projection) (bank : MemoryBank) : Projection :=
  { projection with
    memoryHistory := bank.histories
    memories := bank.memories
    currentPrivateStatusId := bank.currentPrivate }

section Delta

variable [Hashing] (projection : Projection) (delta : MemoryDelta)
  (assignments : List MemoryIdAssignment) (lastEventSequence : ℕ)

/-- One round of the loop over the creates. -/
def applyCreate (bank : MemoryBank) (create : MemoryCreate) : Except RepositoryError MemoryBank := do
  let memoryId ← assignedMemoryId assignments create.handle
  raiseIf (memoryId ∈ bank.memories) (.projectionInvariant "assigned memory ID already exists")
  validateEvidence projection create.provenance (some lastEventSequence)
  let record ← newMemory projection.runId memoryId create delta.createdAt
  storeMemory bank record

/-- One round of the loop over the updates. -/
def applyUpdate (bank : MemoryBank) (update : MemoryUpdate) : Except RepositoryError MemoryBank := do
  let existing ← validateMemoryTarget bank.memories update.memoryId update.expectedRevision
  raiseIf (delta.createdAt < existing.updatedAt)
    (.projectionInvariant "memory update timestamp moved backwards")
  let provenance := update.provenance.getD existing.provenance
  validateEvidence { projection with memoryHistory := bank.histories } provenance
    (some lastEventSequence)
  let updated ← projectedMemory { existing.toMemoryRecordFields with
    content := update.content.getD existing.content
    provenance
    confidence := update.confidence.getD existing.confidence
    expiresAt := update.expiration.apply existing.expiresAt
    trustLabel := .untrustedModelOutput
    revision := existing.revision + 1
    updatedAt := delta.createdAt }
  storeMemory bank updated

/-- One round of the loop over the invalidations. -/
def applyInvalidation (bank : MemoryBank) (invalidation : MemoryInvalidation) :
    Except RepositoryError MemoryBank := do
  let existing ← validateMemoryTarget bank.memories invalidation.memoryId
    invalidation.expectedRevision
  raiseIf (delta.createdAt < existing.updatedAt)
    (.projectionInvariant "memory invalidation timestamp moved backwards")
  let invalidated ← projectedMemory { existing.toMemoryRecordFields with
    validity := .invalidated
    invalidatedAt := some delta.createdAt
    revision := existing.revision + 1
    updatedAt := delta.createdAt }
  let bank' ← storeMemory bank invalidated
  pure { bank' with
    currentPrivate :=
      if bank.currentPrivate = some existing.memoryId then none else bank.currentPrivate }

/-- The private status that a replacement expects, superseded. -/
def supersedePrivateStatus (bank : MemoryBank) (replacement : PrivateStatusReplacement) :
    Except RepositoryError MemoryBank :=
  match replacement.expectedMemoryId with
  | none => do
    raiseIf (bank.currentPrivate ≠ none)
      (.projectionInvariant "an active private status already exists")
    pure bank
  | some expectedMemoryId => do
    let existing ← validateMemoryTarget bank.memories expectedMemoryId
      (replacement.expectedRevision.getD 0)
    raiseIf (existing.kind ≠ .privateStatus ∨ bank.currentPrivate ≠ some existing.memoryId)
      (.projectionInvariant "private-status replacement target is not current")
    raiseIf (delta.createdAt < existing.updatedAt)
      (.projectionInvariant "private-status timestamp moved backwards")
    let superseded ← projectedMemory { existing.toMemoryRecordFields with
      validity := .superseded
      revision := existing.revision + 1
      updatedAt := delta.createdAt }
    storeMemory bank superseded

/-- The replacement of the private status. -/
def applyReplacement (bank : MemoryBank) (replacement : PrivateStatusReplacement) :
    Except RepositoryError MemoryBank := do
  let bank ← supersedePrivateStatus delta bank replacement
  let create := replacement.replacement
  let memoryId ← assignedMemoryId assignments create.handle
  raiseIf (memoryId ∈ bank.memories)
    (.projectionInvariant "assigned private-status ID already exists")
  validateEvidence { projection with memoryHistory := bank.histories } create.provenance
    (some lastEventSequence)
  let created ← newMemory projection.runId memoryId create delta.createdAt
  let bank ← storeMemory bank created
  pure { bank with currentPrivate := some memoryId }

/-- The changes of a delta, one after the other. -/
def applyChanges (bank : MemoryBank) : Except RepositoryError MemoryBank := do
  let bank ← delta.creates.foldlM (applyCreate projection delta assignments lastEventSequence) bank
  let bank ← delta.updates.foldlM (applyUpdate projection delta lastEventSequence) bank
  let bank ← delta.invalidations.foldlM (applyInvalidation delta) bank
  delta.privateStatusReplacement.toList.foldlM
    (applyReplacement projection delta assignments lastEventSequence) bank

/-- `preview_memory_delta`. -/
def previewMemoryDelta : Except RepositoryError Projection := do
  raiseIf (delta.runId ≠ projection.runId) (.crossRunReference "memory delta")
  raiseIf (¬(assignments.map (·.handle)).Nodup)
    (.projectionInvariant "memory ID assignment handles must be unique")
  raiseIf (¬(assignments.map (·.memoryId)).Nodup)
    (.projectionInvariant "assigned memory IDs must be unique")
  raiseIf (assignments.map (·.handle) ≠ delta.handles)
    (.projectionInvariant "memory ID assignments must exactly match created handles")
  raiseIf (∃ target ∈ delta.privateStatusReplacement.bind (·.expectedMemoryId),
      target ∈ delta.updates.map (·.memoryId) ++ delta.invalidations.map (·.memoryId))
    (.projectionInvariant "private-status replacement cannot overlap another mutation")
  let bank ← applyChanges projection delta assignments lastEventSequence projection.bank
  pure (projection.withBank bank)

end Delta

/-- A delta that is applied belongs to the run, and the changes lead to the new memories. -/
theorem previewMemoryDelta_eq_ok [Hashing] {projection updated : Projection} {delta : MemoryDelta}
    {assignments : List MemoryIdAssignment} {lastEventSequence : ℕ}
    (h : previewMemoryDelta projection delta assignments lastEventSequence = .ok updated) :
    ∃ bank, applyChanges projection delta assignments lastEventSequence projection.bank = .ok bank
      ∧ updated = projection.withBank bank := by
  simp only [previewMemoryDelta, raiseIf_bind_eq_ok] at h
  obtain ⟨-, -, -, -, -, h⟩ := h
  rw [bind_eq_ok] at h
  obtain ⟨bank, hbank, hupdated⟩ := h
  exact ⟨bank, hbank, (pure_eq_ok.mp hupdated).symm⟩

end SalienceGate
