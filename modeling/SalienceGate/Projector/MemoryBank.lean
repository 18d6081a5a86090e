import SalienceGate.Projector.Accepted

/-!
# The memories of a run

A memory bank keeps its lifecycle, its evidence is there and older, and its private status is the
one that the projection names. Each change of a delta keeps this, so a delta does, and so does a
run.
-/

namespace SalienceGate

open Checked

/-! ## The invariant -/

/-- How the revisions of a memory follow each other. -/
def memoryLifecycle : Lifecycle UUID4 MemoryRecord where
  ident record := record.memoryId
  revision record := record.revision
  start record := record.validity = .active
  next previous record := previous.validity = .active ∧ previous.updatedAt ≤ record.updatedAt

/-- A record cites a revision of a memory. -/
def MemoryRecord.cites (record : MemoryRecord) (key : UUID4 × ℕ) : Prop :=
  ∃ reference ∈ record.provenance, reference.source = .memory ∧ reference.sourceId = key.1
    ∧ reference.revision = some key.2

/-- The evidence of a record is there: events up to the cursor, and stored revisions. -/
def EvidenceHolds (events : Dict UUID4 TraceEvent) (cursor : ℕ)
    (histories : Dict (UUID4 × ℕ) MemoryRecord) (evidence : List EvidenceReference) : Prop :=
  ∀ reference ∈ evidence,
    (reference.source = .event → ∃ event, events.get? reference.sourceId = some event
      ∧ event.sequence ≤ cursor)
    ∧ (reference.source = .memory → ∃ revision, reference.revision = some revision
      ∧ (reference.sourceId, revision) ∈ histories)

/-- A bank keeps the lifecycle of its memories, and their evidence is there and older. -/
structure BankInvariant (events : Dict UUID4 TraceEvent) (cursor : ℕ) (bank : MemoryBank) :
    Prop where
  /-- The revisions follow each other. -/
  kept : memoryLifecycle.Kept bank.histories bank.memories
  /-- A record only cites revisions that were stored before it. -/
  grounded : bank.histories.RefersBack MemoryRecord.cites
  /-- The evidence of every record is there. -/
  evidence : ∀ k record, bank.histories.get? k = some record →
    EvidenceHolds events cursor bank.histories record.provenance

/-- The latest revision of a memory is an active private status. -/
def MemoryBank.isPrivateStatus (bank : MemoryBank) (id : UUID4) : Prop :=
  ∃ record, bank.memories.get? id = some record ∧ record.validity = .active
    ∧ record.kind = .privateStatus

/-- The bank names its active private status, if there is one. -/
def MemoryBank.namesPrivateStatus (bank : MemoryBank) : Prop :=
  ∀ id, bank.isPrivateStatus id ↔ bank.currentPrivate = some id

variable {events events' : Dict UUID4 TraceEvent} {cursor cursor' : ℕ} {bank bank' : MemoryBank}
  {record existing : MemoryRecord}

/-- Evidence stays when events and revisions are added and the cursor moves forward. -/
theorem EvidenceHolds.mono {histories histories' : Dict (UUID4 × ℕ) MemoryRecord}
    {evidence : List EvidenceReference} (h : EvidenceHolds events cursor histories evidence)
    (hevents : ∀ id event, events.get? id = some event → events'.get? id = some event)
    (hcursor : cursor ≤ cursor') (hhistories : ∀ k ∈ histories, k ∈ histories') :
    EvidenceHolds events' cursor' histories' evidence := by
  intro reference hreference
  obtain ⟨hevent, hmemory⟩ := h reference hreference
  refine ⟨fun hsource => ?_, fun hsource => ?_⟩
  · obtain ⟨event, hget, hle⟩ := hevent hsource
    exact ⟨event, hevents _ _ hget, hle.trans hcursor⟩
  · obtain ⟨revision, hrevision, hmem⟩ := hmemory hsource
    exact ⟨revision, hrevision, hhistories _ hmem⟩

/-- A bank keeps its invariant when events are added and the cursor moves forward. -/
theorem BankInvariant.mono (h : BankInvariant events cursor bank)
    (hevents : ∀ id event, events.get? id = some event → events'.get? id = some event)
    (hcursor : cursor ≤ cursor') : BankInvariant events' cursor' bank where
  kept := h.kept
  grounded := h.grounded
  evidence k record hrecord := (h.evidence k record hrecord).mono hevents hcursor fun _ => id

/-- What is cited is in the evidence. -/
theorem EvidenceHolds.mem_of_cites {histories : Dict (UUID4 × ℕ) MemoryRecord}
    (h : EvidenceHolds events cursor histories record.provenance) {key : UUID4 × ℕ}
    (hcites : record.cites key) : key ∈ histories := by
  obtain ⟨reference, hreference, hsource, hid, hrevision⟩ := hcites
  obtain ⟨revision, hrevision', hmem⟩ := (h reference hreference).2 hsource
  rw [hrevision] at hrevision'
  cases hrevision'
  rwa [hid] at hmem

/-- Evidence that passes its check is there. -/
theorem validateEvidence_eq_ok [Hashing] {p : Projection} {evidence : List EvidenceReference}
    {last : ℕ} (h : validateEvidence p evidence (some last) = .ok ()) :
    EvidenceHolds p.eventsById last p.memoryHistory evidence := by
  intro reference hreference
  have hcheck := (forM_eq_ok.mp h) reference hreference
  refine ⟨fun hsource => ?_, fun hsource => ?_⟩
  · simp only [validateReference, hsource, expect_bind_eq_ok, raiseIf_eq_ok, Option.mem_def,
      Option.some.injEq, exists_eq_left', not_lt] at hcheck
    exact hcheck
  · simpa only [validateReference, hsource, raiseIf_eq_ok, Option.mem_def, not_not] using hcheck

/-! ## Storing a record -/

theorem projectedMemory_eq_ok {fields : MemoryRecordFields}
    (h : projectedMemory fields = .ok record) : record.toMemoryRecordFields = fields := by
  rw [projectedMemory, mapError_eq_ok, MemoryRecord.create, validate_eq_ok] at h
  obtain ⟨-, rfl⟩ := h
  rfl

theorem storeMemory_eq_ok (h : storeMemory bank record = .ok bank') :
    bank' = { bank with
      histories := bank.histories.set (record.memoryId, record.revision) record
      memories := bank.memories.set record.memoryId record } := by
  rw [storeMemory, raiseIf_bind_eq_ok] at h
  exact (pure_eq_ok.mp h.2).symm

theorem validateMemoryTarget_eq_ok {memories : Dict UUID4 MemoryRecord} {id : UUID4}
    {expected : ℕ} (h : validateMemoryTarget memories id expected = .ok existing) :
    memories.get? id = some existing ∧ existing.validity = .active := by
  simp only [validateMemoryTarget, expect_bind_eq_ok, raiseIf_bind_eq_ok, pure_eq_ok, not_not] at h
  obtain ⟨found, hfound, -, hactive, rfl⟩ := h
  exact ⟨hfound, hactive⟩

/-- Storing an accepted record with its evidence keeps the bank. -/
theorem BankInvariant.store (h : BankInvariant events cursor bank)
    (haccepts : memoryLifecycle.Accepts bank.memories record)
    (hevidence : EvidenceHolds events cursor bank.histories record.provenance)
    (hs : storeMemory bank record = .ok bank') : BankInvariant events cursor bank' := by
  obtain rfl := storeMemory_eq_ok hs
  have hfresh := h.kept.notMem_of_accepts haccepts
  refine ⟨h.kept.store haccepts, h.grounded.set hfresh fun _ => hevidence.mem_of_cites, ?_⟩
  intro k stored hstored
  have hgrows : ∀ k ∈ bank.histories,
      k ∈ bank.histories.set (record.memoryId, record.revision) record :=
    fun _ => Dict.mem_set_of_mem
  rcases Dict.get?_set_eq_some.mp hstored with ⟨-, rfl⟩ | ⟨-, hold⟩
  · exact hevidence.mono (fun _ _ => id) le_rfl hgrows
  · exact (h.evidence k stored hold).mono (fun _ _ => id) le_rfl hgrows

/-- The first revision of a new memory is accepted. -/
theorem accepts_new {memories : Dict UUID4 MemoryRecord} (hid : record.memoryId ∉ memories)
    (hrevision : record.revision = 1) (hvalidity : record.validity = .active) :
    memoryLifecycle.Accepts memories record :=
  .first (Dict.get?_eq_none.mpr hid) hrevision hvalidity

/-- A revision after an active one is accepted. -/
theorem BankInvariant.accepts_next (h : BankInvariant events cursor bank) {id : UUID4}
    (hexisting : bank.memories.get? id = some existing) (hactive : existing.validity = .active)
    (hid : record.memoryId = existing.memoryId) (hrevision : record.revision = existing.revision + 1)
    (htime : existing.updatedAt ≤ record.updatedAt) :
    memoryLifecycle.Accepts bank.memories record := by
  refine .later existing ?_ hrevision ⟨hactive, htime⟩
  rwa [show memoryLifecycle.ident record = id from hid.trans (h.kept.ident_latest hexisting)]

/-- Storing a record names the private status, if the name changes with the status of the record
and with no other. -/
theorem MemoryBank.namesPrivateStatus.store (h : bank.namesPrivateStatus)
    {histories : Dict (UUID4 × ℕ) MemoryRecord} {current : Option UUID4}
    (hself : (record.validity = .active ∧ record.kind = .privateStatus)
      ↔ current = some record.memoryId)
    (hother : ∀ id, id ≠ record.memoryId → (current = some id ↔ bank.currentPrivate = some id)) :
    namesPrivateStatus ⟨histories, bank.memories.set record.memoryId record, current⟩ := by
  intro id
  by_cases hid : id = record.memoryId
  · subst hid
    simp [isPrivateStatus, hself]
  · rw [hother id hid, ← h id]
    simp [isPrivateStatus, Dict.get?_set_of_ne hid]

/-- An active record is a private status exactly if the bank names it. -/
theorem MemoryBank.namesPrivateStatus.iff (h : bank.namesPrivateStatus) {id : UUID4}
    (hexisting : bank.memories.get? id = some existing) (hactive : existing.validity = .active) :
    existing.kind = .privateStatus ↔ bank.currentPrivate = some id := by
  rw [← h id]
  simp [isPrivateStatus, hexisting, hactive]

/-! ## The changes of a delta -/

section Changes

variable [Hashing] {p : Projection} {delta : MemoryDelta} {assignments : List MemoryIdAssignment}
  {last : ℕ}

/-- What every change of a delta keeps. The bank has the history that the delta started with. -/
structure DeltaInvariant (p : Projection) (cursor : ℕ) (bank : MemoryBank) : Prop where
  keeps : BankInvariant p.eventsById cursor bank
  names : bank.namesPrivateStatus
  grows : ∀ k ∈ p.memoryHistory, k ∈ bank.histories

/-- A stored record keeps the history that the delta started with. -/
theorem grows_store (h : ∀ k ∈ p.memoryHistory, k ∈ bank.histories)
    (hs : storeMemory bank record = .ok bank') : ∀ k ∈ p.memoryHistory, k ∈ bank'.histories := by
  obtain rfl := storeMemory_eq_ok hs
  exact fun k hk => Dict.mem_set_of_mem (h k hk)

theorem applyCreate_invariant {create : MemoryCreate} (hle : last ≤ cursor)
    (h : DeltaInvariant p cursor bank)
    (hkind : create.kind ≠ .privateStatus)
    (happly : applyCreate p delta assignments last bank create = .ok bank') :
    DeltaInvariant p cursor bank' := by
  rw [applyCreate, bind_eq_ok] at happly
  obtain ⟨id, -, happly⟩ := happly
  rw [raiseIf_bind_eq_ok, check_bind_eq_ok, bind_eq_ok] at happly
  obtain ⟨hfresh, hevidence, record, hnew, hs⟩ := happly
  have hfields := projectedMemory_eq_ok hnew
  have hholds := (validateEvidence_eq_ok hevidence).mono (fun _ _ hget => hget) hle h.grows
  refine ⟨h.keeps.store (accepts_new (by simpa [hfields] using hfresh) (by simp [hfields])
    (by simp [hfields])) (by simpa [hfields] using hholds) hs, ?_, grows_store h.grows hs⟩
  obtain rfl := storeMemory_eq_ok hs
  refine h.names.store ?_ fun _ _ => Iff.rfl
  -- the new memory is not in the bank, so the bank does not name it
  have hnot : ¬bank.isPrivateStatus record.memoryId := by
    rintro ⟨found, hfound, -⟩
    exact hfresh (by simpa [hfields] using Dict.mem_of_get? hfound)
  rw [← h.names, iff_false_right hnot]
  simp [hfields, hkind]

theorem applyUpdate_invariant {update : MemoryUpdate} (hle : last ≤ cursor)
    (h : DeltaInvariant p cursor bank)
    (happly : applyUpdate p delta last bank update = .ok bank') :
    DeltaInvariant p cursor bank' := by
  rw [applyUpdate, bind_eq_ok] at happly
  obtain ⟨existing, htarget, happly⟩ := happly
  rw [raiseIf_bind_eq_ok, not_lt, check_bind_eq_ok, bind_eq_ok] at happly
  obtain ⟨htime, hevidence, record, hnew, hs⟩ := happly
  obtain ⟨hexisting, hactive⟩ := validateMemoryTarget_eq_ok htarget
  have hfields := projectedMemory_eq_ok hnew
  have hident : existing.memoryId = update.memoryId := h.keeps.kept.ident_latest hexisting
  have hholds : EvidenceHolds p.eventsById cursor bank.histories record.provenance := by
    simpa [hfields] using (validateEvidence_eq_ok hevidence).mono (fun _ _ hget => hget) hle
      fun _ hk => hk
  refine ⟨h.keeps.store (h.keeps.accepts_next hexisting hactive (by simp [hfields])
    (by simp [hfields]) (by simpa [hfields] using htime)) hholds hs, ?_, grows_store h.grows hs⟩
  obtain rfl := storeMemory_eq_ok hs
  refine h.names.store ?_ fun _ _ => Iff.rfl
  have hiff := h.names.iff hexisting hactive
  rw [← hident] at hiff
  simpa [hfields, hactive] using hiff

theorem applyInvalidation_invariant {invalidation : MemoryInvalidation}
    (h : DeltaInvariant p cursor bank)
    (happly : applyInvalidation delta bank invalidation = .ok bank') :
    DeltaInvariant p cursor bank' := by
  rw [applyInvalidation, bind_eq_ok] at happly
  obtain ⟨existing, htarget, happly⟩ := happly
  rw [raiseIf_bind_eq_ok, not_lt, bind_eq_ok] at happly
  obtain ⟨htime, record, hnew, happly⟩ := happly
  rw [bind_eq_ok] at happly
  obtain ⟨stored, hs, happly⟩ := happly
  cases happly
  obtain ⟨hexisting, hactive⟩ := validateMemoryTarget_eq_ok htarget
  have hfields := projectedMemory_eq_ok hnew
  have hholds : EvidenceHolds p.eventsById cursor bank.histories record.provenance := by
    simpa [hfields] using h.keeps.evidence _ _ (h.keeps.kept.stored hexisting)
  have hstored := h.keeps.store (h.keeps.accepts_next hexisting hactive (by simp [hfields])
    (by simp [hfields]) (by simpa [hfields] using htime)) hholds hs
  have hgrows : ∀ k ∈ p.memoryHistory, k ∈ stored.histories := grows_store h.grows hs
  refine ⟨⟨hstored.kept, hstored.grounded, hstored.evidence⟩, ?_, hgrows⟩
  obtain rfl := storeMemory_eq_ok hs
  have hid : record.memoryId = existing.memoryId := by simp [hfields]
  refine h.names.store ?_ fun id hne => ?_
  · rw [hid]
    split <;> simp_all
  · rw [hid] at hne
    split
    next hcurrent => simp [hcurrent, Ne.symm hne]
    next => rfl

/-- After the replaced status is superseded, the bank has no private status. -/
theorem supersedePrivateStatus_invariant {replacement : PrivateStatusReplacement}
    (h : DeltaInvariant p cursor bank)
    (happly : supersedePrivateStatus delta bank replacement = .ok bank') :
    BankInvariant p.eventsById cursor bank' ∧ (∀ id, ¬bank'.isPrivateStatus id)
      ∧ ∀ k ∈ p.memoryHistory, k ∈ bank'.histories := by
  cases hexpected : replacement.expectedMemoryId with
  | none =>
    simp only [supersedePrivateStatus, hexpected, raiseIf_bind_eq_ok, pure_eq_ok, not_not] at happly
    obtain ⟨hnone, rfl⟩ := happly
    refine ⟨h.keeps, fun id hid => ?_, h.grows⟩
    rw [h.names id, hnone] at hid
    cases hid
  | some expected =>
    simp only [supersedePrivateStatus, hexpected] at happly
    rw [bind_eq_ok] at happly
    obtain ⟨existing, htarget, happly⟩ := happly
    rw [raiseIf_bind_eq_ok, not_or, not_not, not_not, raiseIf_bind_eq_ok, not_lt,
      bind_eq_ok] at happly
    obtain ⟨⟨-, hcurrent⟩, htime, record, hnew, hs⟩ := happly
    obtain ⟨hexisting, hactive⟩ := validateMemoryTarget_eq_ok htarget
    have hfields := projectedMemory_eq_ok hnew
    have hholds : EvidenceHolds p.eventsById cursor bank.histories record.provenance := by
      simpa [hfields] using h.keeps.evidence _ _ (h.keeps.kept.stored hexisting)
    refine ⟨h.keeps.store (h.keeps.accepts_next hexisting hactive (by simp [hfields])
      (by simp [hfields]) (by simpa [hfields] using htime)) hholds hs, ?_, grows_store h.grows hs⟩
    -- the only private status of the bank is the one that is superseded
    obtain rfl := storeMemory_eq_ok hs
    rintro id ⟨found, hfound, hfoundActive, hfoundKind⟩
    rcases Dict.get?_set_eq_some.mp hfound with ⟨-, rfl⟩ | ⟨hne, hold⟩
    · simp [hfields] at hfoundActive
    · have hname := (h.names id).mp ⟨found, hold, hfoundActive, hfoundKind⟩
      rw [hcurrent] at hname
      exact hne (by simpa [hfields, eq_comm] using hname)

theorem applyReplacement_invariant {replacement : PrivateStatusReplacement}
    (hle : last ≤ cursor) (h : DeltaInvariant p cursor bank)
    (happly : applyReplacement p delta assignments last bank replacement = .ok bank') :
    DeltaInvariant p cursor bank' := by
  rw [applyReplacement, bind_eq_ok] at happly
  obtain ⟨superseded, hsuperseded, happly⟩ := happly
  rw [bind_eq_ok] at happly
  obtain ⟨id, -, happly⟩ := happly
  rw [raiseIf_bind_eq_ok, check_bind_eq_ok, bind_eq_ok] at happly
  obtain ⟨hfresh, hevidence, record, hnew, happly⟩ := happly
  rw [bind_eq_ok] at happly
  obtain ⟨stored, hs, happly⟩ := happly
  cases happly
  obtain ⟨hbank, hnone, hgrows⟩ := supersedePrivateStatus_invariant h hsuperseded
  have hfields := projectedMemory_eq_ok hnew
  have hholds : EvidenceHolds p.eventsById cursor superseded.histories record.provenance := by
    simpa [hfields] using (validateEvidence_eq_ok hevidence).mono (fun _ _ hget => hget) hle
      fun _ hk => hk
  have hstored := hbank.store (accepts_new (by simpa [hfields] using hfresh) (by simp [hfields])
    (by simp [hfields])) hholds hs
  have hgrows' : ∀ k ∈ p.memoryHistory, k ∈ stored.histories := grows_store hgrows hs
  refine ⟨⟨hstored.kept, hstored.grounded, hstored.evidence⟩, fun other => ?_, hgrows'⟩
  obtain rfl := storeMemory_eq_ok hs
  have hkind : record.kind = .privateStatus := by
    have hvalid := replacement.valid
    simp only [PrivateStatusReplacementFields.check, constrain_bind_eq_ok, refuse_bind_eq_ok,
      refuse_eq_ok, not_not] at hvalid
    simpa [hfields] using hvalid.2.2
  have hid : record.memoryId = id := by simp [hfields]
  have hactive : record.validity = .active := by simp [hfields]
  by_cases hother : other = record.memoryId
  · subst hother
    simp [MemoryBank.isPrivateStatus, hid, hkind, hactive]
  · have hold := hnone other
    simp only [MemoryBank.isPrivateStatus] at hold ⊢
    rw [Dict.get?_set_of_ne hother]
    simp [hold, ← hid, Ne.symm hother]

/-- The changes of a delta keep the bank. -/
theorem applyChanges_invariant (hle : last ≤ cursor) (h : DeltaInvariant p cursor bank)
    (happly : applyChanges p delta assignments last bank = .ok bank') :
    DeltaInvariant p cursor bank' := by
  have hkinds : ∀ create ∈ delta.creates, create.kind ≠ .privateStatus := by
    have hvalid := delta.valid
    simp only [MemoryDeltaFields.check, constrain_bind_eq_ok, refuse_bind_eq_ok, not_exists,
      not_and] at hvalid
    exact hvalid.2.2.2.1
  rw [applyChanges, bind_eq_ok] at happly
  obtain ⟨created, hcreates, happly⟩ := happly
  rw [bind_eq_ok] at happly
  obtain ⟨updated, hupdates, happly⟩ := happly
  rw [bind_eq_ok] at happly
  obtain ⟨invalidated, hinvalidations, hreplacement⟩ := happly
  have hcreated := foldlM_invariant (fun _ create _ hmem hb happ =>
    applyCreate_invariant hle hb (hkinds create hmem) happ) h hcreates
  have hupdated := foldlM_invariant (fun _ _ _ _ hb happ => applyUpdate_invariant hle hb happ)
    hcreated hupdates
  have hinvalidated := foldlM_invariant
    (fun _ _ _ _ hb happ => applyInvalidation_invariant hb happ) hupdated hinvalidations
  exact foldlM_invariant (fun _ _ _ _ hb happ => applyReplacement_invariant hle hb happ)
    hinvalidated hreplacement

end Changes

/-! ## Runs -/

variable [Hashing]

/-- The memories of a projection keep their invariant, with evidence up to the memory cursor. -/
structure MemoryInvariant (p : Projection) : Prop where
  bank : BankInvariant p.eventsById p.memoryCursor p.bank
  names : p.bank.namesPrivateStatus

/-- An accepted entry keeps the memories. -/
theorem memory_accepted {p q : Projection} {record : LedgerRecord} (hp : MemoryInvariant p)
    (h : Accepted p record q) : MemoryInvariant q := by
  cases h with
  | signal | outcome | delivery | decision | cycle => exact ⟨hp.bank, hp.names⟩
  | event position event next freshId freshSource parents =>
    exact ⟨hp.bank.mono (fun id found hfound => Dict.get?_set_of_notMem freshId hfound) le_rfl,
      hp.names⟩
  | commit cycle decision delta intervention bank reminders checked committed commit remembered =>
    have hcursor : p.memoryCursor ≤ cycle.lastEventSequence := by
      have := cycle.first_le_last
      have := commit.continues
      omega
    have hbank := applyChanges_invariant le_rfl
      ⟨hp.bank.mono (fun _ _ => id) hcursor, hp.names, fun _ => id⟩ commit.changes
    exact ⟨hbank.keeps, hbank.names⟩

/-- The memory invariant holds after every ledger. -/
theorem memoryInvariant {runId : UUID4} (run : LedgerRun runId) : MemoryInvariant run.final := by
  refine ledger_invariant run ⟨⟨.empty, Dict.refersBack_empty, ?_⟩, ?_⟩
    fun _ _ _ _ hp h => memory_accepted hp h
  · intro k record h
    cases h
  · intro id
    constructor
    · rintro ⟨record, h, -⟩
      cases h
    · nofun

/-- The active private statuses among the latest memories. -/
def activePrivateStatuses (p : Projection) : List MemoryRecord :=
  p.memories.values.filter fun record => record.validity = .active && record.kind = .privateStatus

/-- There is no active private status and no name for one, or exactly one, which is named. -/
theorem activePrivateStatuses_eq {p : Projection} (hp : MemoryInvariant p) :
    (activePrivateStatuses p = [] ∧ p.currentPrivateStatusId = none)
      ∨ ∃ record, activePrivateStatuses p = [record]
        ∧ p.currentPrivateStatusId = some record.memoryId := by
  have hnames : ∀ id record, p.memories.get? id = some record →
      (decide (record.validity = .active) && decide (record.kind = .privateStatus)) = true →
      p.currentPrivateStatusId = some id := by
    intro id record hrecord hstatus
    simp only [Bool.and_eq_true, decide_eq_true_eq] at hstatus
    exact (hp.names id).mp ⟨record, hrecord, hstatus⟩
  cases hcurrent : p.currentPrivateStatusId with
  | none =>
    refine .inl ⟨List.filter_eq_nil_iff.mpr fun record hmem hstatus => ?_, rfl⟩
    obtain ⟨id, hrecord⟩ := Dict.mem_values.mp hmem
    have := hnames id record hrecord hstatus
    simp [hcurrent] at this
  | some id =>
    obtain ⟨record, hrecord, hactive, hkind⟩ := (hp.names id).mpr hcurrent
    have hident : record.memoryId = id := hp.bank.kept.ident_latest hrecord
    refine .inr ⟨record, Dict.filter_values_eq_singleton hrecord (by simp [hactive, hkind]) ?_,
      by rw [hident]⟩
    intro id' record' hrecord' hstatus'
    have := hnames id' record' hrecord' hstatus'
    rw [hcurrent] at this
    exact (Option.some.inj this).symm

/-- The memories of a run. The revisions of a memory are numbered from 1 to that of the latest one;
the active private statuses are none, or the one that is named; a record that is not active is the
last of its memory, and no revision is older than the one before; and every citation of a stored
revision is of a revision stored before it, or of an event up to the memory cursor. -/
theorem memory_bank {runId : UUID4} (run : LedgerRun runId) :
    (∀ id, (id ∈ run.final.memories ∨ ∃ m, (id, m) ∈ run.final.memoryHistory) →
      ∃ n latest, 1 ≤ n ∧ latest.revision = n ∧ run.final.memories.get? id = some latest
        ∧ run.final.memoryHistory.get? (id, n) = some latest
        ∧ ∀ m, (id, m) ∈ run.final.memoryHistory ↔ 1 ≤ m ∧ m ≤ n)
    ∧ ((activePrivateStatuses run.final = [] ∧ run.final.currentPrivateStatusId = none)
      ∨ ∃ record, activePrivateStatuses run.final = [record]
        ∧ run.final.currentPrivateStatusId = some record.memoryId)
    ∧ (∀ id m (record : MemoryRecord), run.final.memoryHistory.get? (id, m) = some record →
      record.memoryId = id ∧ record.revision = m
      ∧ (record.validity ≠ .active → ∀ n, (id, n) ∈ run.final.memoryHistory → n ≤ m)
      ∧ ∀ n later, m ≤ n → run.final.memoryHistory.get? (id, n) = some later →
        record.updatedAt ≤ later.updatedAt)
    ∧ ∀ (i : ℕ) k (record : MemoryRecord), run.final.memoryHistory.items[i]? = some (k, record) →
      ∀ reference ∈ record.provenance,
      (reference.source = .memory → ∃ revision, reference.revision = some revision
        ∧ ∃ j, j < i ∧ ∃ earlier, run.final.memoryHistory.items[j]?
          = some ((reference.sourceId, revision), earlier))
      ∧ (reference.source = .event → ∃ event,
        run.final.eventsById.get? reference.sourceId = some event
          ∧ event.sequence ≤ run.final.memoryCursor) := by
  have hinv := memoryInvariant run
  obtain ⟨hkept, hgrounded, hevidence⟩ := hinv.bank
  refine ⟨fun id hid => ?_, activePrivateStatuses_eq hinv, fun id m record hrecord => ?_,
    fun i k record hrecord reference hreference => ?_⟩
  · obtain ⟨latest, hlatest⟩ : ∃ latest, run.final.memories.get? id = some latest := by
      rcases hid with hid | ⟨m, hm⟩
      · exact Dict.mem_iff.mp hid
      · obtain ⟨latest, hlatest, -⟩ := hkept.contiguous.mp hm
        exact ⟨latest, hlatest⟩
    refine ⟨latest.revision, latest, hkept.one_le_latest hlatest, rfl, hlatest,
      hkept.stored hlatest, fun m => (hkept.contiguous (i := id) (n := m)).trans ?_⟩
    have hbank : run.final.bank.memories.get? id = some latest := hlatest
    simp only [hbank, Option.some.injEq, exists_eq_left']
    rfl
  · refine ⟨(hkept.key hrecord).1, (hkept.key hrecord).2, fun hended n hn => ?_,
      fun n later hmn hlater => ?_⟩
    · have hlatest := hkept.latest_of_last hrecord fun w hnext => hended hnext.1
      obtain ⟨found, hfound, -, hle⟩ := hkept.contiguous.mp hn
      rw [hlatest] at hfound
      cases hfound
      exact hle.trans (hkept.key hrecord).2.le
    · exact hkept.relation (R := fun v w => v.updatedAt ≤ w.updatedAt) (fun _ => le_rfl)
        (fun _ _ _ => le_trans) (fun _ _ hnext => hnext.2) hrecord hlater hmn
  · have hstored : run.final.memoryHistory.get? k = some record :=
      Dict.get?_eq_some.mpr (List.mem_of_getElem? hrecord)
    obtain ⟨hevent, hmemory⟩ := hevidence k record hstored reference hreference
    refine ⟨fun hsource => ?_, hevent⟩
    obtain ⟨revision, hrevision, -⟩ := hmemory hsource
    exact ⟨revision, hrevision, hgrounded i k record _ hrecord
      ⟨reference, hreference, hsource, rfl, hrevision⟩⟩

end SalienceGate
