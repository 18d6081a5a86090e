import Mathlib.Logic.Relation
import SalienceGate.Projector.Accepted
import SalienceGate.Repository.Batch

/-!
# How a slot grows

Every method that changes a slot stages an entry, and takes it over together with the receipt of
its record. `IsStaged` is what staging establishes. `Extends` lists the ways in which a method can
then extend a slot, one constructor for each kind of record, with what the method checked before it;
a committed reminder and its delivery are one extension. `Collides` is the one extension that
records a source collision, by its audit event. `Grows` is either of them, and `Growth` any number.
-/

namespace SalienceGate

open Checked

variable [Hashing] [Integrity]

/-! ## Staging -/

/-- What staging a record on a slot establishes. -/
structure IsStaged (slot : Slot) (record : LedgerRecord) (staged : StagedEntry) : Prop where
  /-- The entry is the next one of the ledger. -/
  entry_eq : staged.entry.toLedgerEntryFields = slot.nextEntry record
  /-- The projection accepts it. -/
  applied : applyEntry slot.projection staged.entry = .ok staged.projected
  /-- The head seals it. -/
  head_eq : staged.head.toLedgerHeadFields = slot.nextHead staged.entry staged.projected

variable {slot t : Slot} {record : LedgerRecord} {staged : StagedEntry}

theorem ledgerEntry_eq_ok {entry : LedgerEntry} (h : ledgerEntry slot record = .ok entry) :
    entry.toLedgerEntryFields = slot.nextEntry record := by
  obtain ⟨created, hcreate, h⟩ := bind_eq_ok.mp h
  obtain ⟨-, h⟩ := check_bind_eq_ok.mp h
  cases pure_eq_ok.mp h
  rw [mapError_eq_ok, LedgerEntry.create, validate_eq_ok] at hcreate
  obtain ⟨hvalid, rfl⟩ := hcreate
  rfl

/-- An entry that was staged is staged as `IsStaged` says. -/
theorem stageEntry_eq_ok (h : stageEntry slot record = .ok staged) : IsStaged slot record staged := by
  obtain ⟨entry, hentry, h⟩ := bind_eq_ok.mp h
  obtain ⟨projected, happlied, h⟩ := bind_eq_ok.mp h
  obtain ⟨head, hhead, h⟩ := bind_eq_ok.mp h
  cases pure_eq_ok.mp h
  rw [ledgerHead, mapError_eq_ok, LedgerHead.create, validate_eq_ok] at hhead
  obtain ⟨hvalid, rfl⟩ := hhead
  exact ⟨ledgerEntry_eq_ok hentry, happlied, rfl⟩

namespace IsStaged

theorem record_eq (h : IsStaged slot record staged) : staged.entry.record = record :=
  congrArg LedgerEntryFields.record h.entry_eq

theorem position_eq (h : IsStaged slot record staged) :
    staged.entry.position = slot.ledger.length + 1 :=
  congrArg LedgerEntryFields.position h.entry_eq

theorem runId_eq (h : IsStaged slot record staged) : staged.entry.runId = slot.runId :=
  congrArg LedgerEntryFields.runId h.entry_eq

/-- The entry that was staged passes the checks of a stored entry. -/
theorem verifyEntry_eq_ok (h : IsStaged slot record staged) :
    verifyEntry staged.entry (slot.ledger.length + 1) slot.lastChainTag = .ok () := by
  have hentry := h.entry_eq
  unfold verifyEntry
  simp only [raiseIf_bind_eq_ok, raiseIf_eq_ok, not_or, not_not, hentry, Slot.nextEntry,
    LedgerEntryFields.chainValueTag, and_self]

/-- The projection accepts the record. -/
theorem accepted (h : IsStaged slot record staged) :
    Accepted slot.projection record staged.projected :=
  h.record_eq ▸ (applyEntry_accepted h.applied).2

end IsStaged

/-! ## Taking over an entry -/

namespace Slot

/-- The slot with a staged entry. -/
def append (slot : Slot) (staged : StagedEntry) : Slot :=
  { slot with
    ledger := slot.ledger ++ [staged.entry]
    ledgerHead := some staged.head
    projection := staged.projected }

/-- The slot with the receipt of a direct record. -/
def withDirect (slot : Slot) (record : DirectLedgerRecord) (receipt : LedgerReceipt) : Slot :=
  { slot with directRecords := slot.directRecords.set record.key ⟨record, receipt⟩ }

/-- The slot with the receipt of a cycle revision. -/
def withCycle (slot : Slot) (record : CycleRecord) (receipt : CycleReceipt) : Slot :=
  { slot with
    cycleRecords := slot.cycleRecords.set (record.cycleId, record.revision) ⟨record, receipt⟩ }

/-- The slot with the receipt of a delivery revision. -/
def withDelivery (slot : Slot) (record : DeliveryRecord) (receipt : DeliveryTransitionReceipt) :
    Slot :=
  { slot with
    deliveryRecords :=
      slot.deliveryRecords.set (record.deliveryId, record.revision) ⟨record, receipt⟩ }

/-- The slot with the receipt of a collision. -/
def withCollision (slot : Slot) (fingerprint : Sha256Digest) (receipt : AppendReceipt) : Slot :=
  { slot with collisionReceipts := slot.collisionReceipts.set fingerprint receipt }

/-- The slot with a staged direct record. -/
def addDirect (slot : Slot) (staged : StagedEntry) (record : DirectLedgerRecord) : Slot :=
  (slot.append staged).withDirect record (.ofEntry staged.entry record.recordId)

/-- The slot with a staged cycle revision and its receipt. -/
def addCycle (slot : Slot) (staged : StagedEntry) (cycle : CycleRecord) (receipt : CycleReceipt) :
    Slot :=
  (slot.append staged).withCycle cycle receipt

/-- The slot with a staged delivery revision and its receipt. -/
def addDelivery (slot : Slot) (staged : StagedEntry) (delivery : DeliveryRecord) : Slot :=
  (slot.append staged).withDelivery delivery (.ofEntry staged.entry delivery)

end Slot

/-! ## Growth -/

/-- One more entry on a slot, with the receipt of its record. -/
inductive Stores (slot : Slot) : Slot → Prop where
  | event (event : TraceEvent) (staged : StagedEntry) (receipts : Dict Sha256Digest AppendReceipt)
      (h : IsStaged slot (.traceEvent event) staged) :
      Stores slot { slot.append staged with collisionReceipts := receipts }
  | direct (record : DirectLedgerRecord) (staged : StagedEntry)
      (h : IsStaged slot record.toLedgerRecord staged) (fresh : record.key ∉ slot.directRecords) :
      Stores slot (slot.addDirect staged record)
  | cycle (cycle : CycleRecord) (delivery : Option DeliveryRecord) (receipt : CycleReceipt)
      (staged : StagedEntry) (h : IsStaged slot (.cycleRecord cycle) staged)
      (receipt_eq : cycleReceipt cycle staged delivery = .ok receipt) :
      Stores slot (slot.addCycle staged cycle receipt)
  | delivery (delivery : DeliveryRecord) (staged : StagedEntry)
      (h : IsStaged slot (.deliveryRecord delivery) staged) :
      Stores slot (slot.addDelivery staged delivery)

/-- A plain extension of a slot: an event, a direct record, a revision of a cycle or of a delivery,
or a committed reminder with its delivery. -/
inductive Extends (slot : Slot) : Slot → Prop where
  | event (event : TraceEvent) (staged : StagedEntry) (h : IsStaged slot (.traceEvent event) staged)
      (plain : isCollisionSource event.sourceEventId = false) :
      Extends slot (slot.append staged)
  | direct (record : DirectLedgerRecord) (staged : StagedEntry)
      (h : IsStaged slot record.toLedgerRecord staged) (fresh : record.key ∉ slot.directRecords) :
      Extends slot (slot.addDirect staged record)
  | cycle (cycle : CycleRecord) (receipt : CycleReceipt) (staged : StagedEntry)
      (h : IsStaged slot (.cycleRecord cycle) staged)
      (receipt_eq : cycleReceipt cycle staged none = .ok receipt)
      (settled : cycle.state = .committed → validateCompleteProjection staged.projected = .ok ()) :
      Extends slot (slot.addCycle staged cycle receipt)
  | reminder (cycle : CycleRecord) (delivery : DeliveryRecord) (receipt : CycleReceipt)
      (first second : StagedEntry) (hfirst : IsStaged slot (.cycleRecord cycle) first)
      (receipt_eq : cycleReceipt cycle first (some delivery) = .ok receipt)
      (hsecond : IsStaged (slot.addCycle first cycle receipt) (.deliveryRecord delivery) second)
      (complete : validateCompleteProjection second.projected = .ok ()) :
      Extends slot ((slot.addCycle first cycle receipt).addDelivery second delivery)
  | delivery (delivery : DeliveryRecord) (staged : StagedEntry)
      (h : IsStaged slot (.deliveryRecord delivery) staged) (later : delivery.revision ≠ 1) :
      Extends slot (slot.addDelivery staged delivery)

/-- The extension of a slot by the audit event of the collision of an incoming draft. -/
inductive Collides [Redactor] (incoming : RedactedTraceEventDraft) (slot : Slot) : Slot → Prop where
  | audit (existing event : TraceEvent) (receipt : AppendReceipt) (staged : StagedEntry)
      (h : IsStaged slot (.traceEvent event) staged)
      (known : slot.projection.eventsBySource.get? incoming.sourceEventId = some existing)
      (fresh : (collisionFingerprint existing incoming).value ∉ slot.collisionReceipts)
      (source : event.sourceEventId
        = collisionSourceId (collisionFingerprint existing incoming).value)
      (payload : redactPayload (auditPayload existing.eventId (collisionFingerprint existing incoming)
        (differingFields existing.eventIdentity incoming.eventIdentity)) = .ok event.payload)
      (digest : event.payloadDigest = createPayloadDigest event.payload)
      (metadata : isAuditEvent event = true) (parent : event.parentIds = [existing.eventId])
      (receipt_eq : auditedReceipt slot.projection existing event = .ok receipt) :
      Collides incoming slot ((slot.append staged).withCollision
        (collisionFingerprint existing incoming).value receipt)

/-- An extension of either kind. -/
inductive Grows [Redactor] (slot t : Slot) : Prop where
  | plain (h : Extends slot t)
  | collides (incoming : RedactedTraceEventDraft) (h : Collides incoming slot t)

/-- An extension stores one entry, or two. -/
theorem Extends.stores (h : Extends slot t) : Relation.ReflTransGen Stores slot t := by
  cases h with
  | event event staged h plain => exact .single (.event event staged slot.collisionReceipts h)
  | direct record staged h fresh => exact .single (.direct record staged h fresh)
  | cycle cycle receipt staged h receipt_eq settled =>
    exact .single (.cycle cycle none receipt staged h receipt_eq)
  | reminder cycle delivery receipt first second hfirst receipt_eq hsecond complete =>
    have hcycle := Stores.cycle cycle (some delivery) receipt first hfirst receipt_eq
    exact (Relation.ReflTransGen.single hcycle).tail (.delivery delivery second hsecond)
  | delivery delivery staged h later => exact .single (.delivery delivery staged h)

theorem Grows.stores [Redactor] (h : Grows slot t) : Relation.ReflTransGen Stores slot t := by
  cases h with
  | plain h => exact h.stores
  | collides incoming h =>
    cases h with
    | audit existing event receipt staged h => exact .single (.event event staged _ h)

/-! ## Replaying a slot -/

/-- The seed of the receipt of a cycle revision. -/
def CycleRevision.seed (revision : CycleRevision) : CycleReceiptSeed where
  record := revision.record
  recordTag := revision.receipt.recordTag
  ledgerPosition := revision.receipt.ledgerPosition
  chainTag := revision.receipt.chainTag
  budgetSnapshot := revision.receipt.budgetSnapshot

/-- What replaying the ledger of a slot should lead to. -/
def Slot.replayed (slot : Slot) : Replayed where
  toReplayCursor := slot.cursor
  cycleReceiptSeeds := slot.cycleRecords.mapValues CycleRevision.seed
  deliveryRecords := slot.deliveryRecords

/-- A slot is what its ledger replays to, sealed by its head. -/
structure Slot.Replays (slot : Slot) : Prop where
  /-- A ledger without entries has no head. -/
  vacant : slot.ledgerHead = none ↔ slot.ledger = []
  /-- The head seals the last entry. -/
  sealed : ∀ head, slot.ledgerHead = some head → head.runId = slot.runId
    ∧ head.entryCount = slot.ledger.length ∧ slot.lastChainTag = some head.chainTag
    ∧ head.headTag = headTag head.runId head.entryCount head.chainTag head.projectionTag
  /-- The ledger replays to the slot. -/
  replayed : slot.ledger.foldlM replayEntry (Replayed.start slot.runId) = .ok slot.replayed
  /-- The entries are of the run. -/
  entries : ∀ entry ∈ slot.ledger, entry.runId = slot.runId
  /-- The cycle revisions of the projection are those with a receipt. -/
  cycles : slot.cycleRecords.mapValues CycleRevision.record = slot.projection.cycleHistory
  /-- The delivery revisions of the projection are those with a receipt. -/
  deliveries :
    slot.deliveryRecords.mapValues DeliveryRevision.record = slot.projection.deliveryHistory

/-- The chain tag of a sealed ledger is that of its last entry. -/
theorem Slot.Replays.previous_eq (h : slot.Replays) :
    slot.ledgerHead.map (·.chainTag) = slot.lastChainTag := by
  cases hhead : slot.ledgerHead with
  | none =>
    have hledger := h.vacant.mp hhead
    simp [Slot.lastChainTag, hledger]
  | some head =>
    obtain ⟨-, -, hlast, -⟩ := h.sealed head hhead
    rw [hlast]
    rfl

/-- The empty slot is what an empty ledger replays to. -/
theorem replays_emptySlot (runId : UUID4) : (emptySlot runId).Replays where
  vacant := by simp [emptySlot]
  sealed _ h := by cases h
  replayed := rfl
  entries _ h := by cases h
  cycles := rfl
  deliveries := rfl

/-- Authenticating a staged entry leads to the state that was staged. -/
theorem IsStaged.authenticateEntry_eq (h : IsStaged slot record staged) (hslot : slot.Replays) :
    authenticateEntry slot.cursor staged.entry = .ok {
      position := slot.ledger.length + 1
      projection := staged.projected
      previous := some staged.entry.chainTag
      projectionTag := some staged.head.projectionTag
      directRecords := addDirectRecord slot.directRecords staged.entry } := by
  have hverify : verifyEntry staged.entry (slot.cursor.position + 1) slot.cursor.previous = .ok () := by
    have hprevious : slot.cursor.previous = slot.lastChainTag := hslot.previous_eq
    rw [hprevious]
    exact h.verifyEntry_eq_ok
  have htag : staged.head.projectionTag
      = projectionCheckpointTag staged.entry staged.projected slot.cursor.projectionTag :=
    congrArg LedgerHeadFields.projectionTag h.head_eq
  unfold authenticateEntry
  rw [check_bind_eq_ok, bind_eq_ok]
  refine ⟨hverify, staged.projected, h.applied, ?_⟩
  rw [htag]
  rfl

/-- What replaying a staged entry establishes about the slot that takes it over. -/
theorem IsStaged.replays (h : IsStaged slot record staged) (hslot : slot.Replays)
    (happend : t.ledger = slot.ledger ++ [staged.entry]) (hrun : t.runId = slot.runId)
    (hhead : t.ledgerHead = some staged.head) (hprojection : t.projection = staged.projected)
    (hdirect : t.directRecords = addDirectRecord slot.directRecords staged.entry)
    (hseeds : addCycleSeed (slot.cycleRecords.mapValues CycleRevision.seed) staged.entry
      staged.projected = .ok (t.cycleRecords.mapValues CycleRevision.seed))
    (hdeliveries : t.deliveryRecords = addDeliveryRecord slot.deliveryRecords staged.entry)
    (hcycles : t.cycleRecords.mapValues CycleRevision.record = staged.projected.cycleHistory)
    (hhistory : t.deliveryRecords.mapValues DeliveryRevision.record
      = staged.projected.deliveryHistory) : t.Replays where
  vacant := by simp [hhead, happend]
  sealed := by
    rintro head hsome
    rw [hhead, Option.some.injEq] at hsome
    subst hsome
    have heq := h.head_eq
    have hentry := h.entry_eq
    simp only [heq, Slot.nextHead, hrun, happend, h.position_eq, Slot.lastChainTag,
      List.length_append, List.length_cons, List.length_nil, List.getLast?_append,
      List.getLast?_singleton, Option.some_or, Option.map_some, and_self]
  replayed := by
    rw [happend, hrun, foldlM_append_eq_ok]
    refine ⟨slot.replayed, hslot.replayed, ?_⟩
    rw [foldlM_cons_eq_ok]
    refine ⟨t.replayed, ?_, rfl⟩
    unfold replayEntry
    rw [bind_eq_ok]
    refine ⟨_, h.authenticateEntry_eq hslot, ?_⟩
    rw [bind_eq_ok]
    refine ⟨_, hseeds, ?_⟩
    rw [pure_eq_ok]
    have hchain : staged.entry.chainTag = staged.head.chainTag :=
      (congrArg LedgerHeadFields.chainTag h.head_eq).symm
    simp only [Slot.replayed, Slot.cursor, happend, hhead, hprojection, hdirect, hdeliveries, hchain,
      List.length_append, List.length_cons, List.length_nil, Option.map_some]
  entries := by
    intro entry hmem
    rw [happend, List.mem_append, List.mem_singleton] at hmem
    rw [hrun]
    rcases hmem with hold | rfl
    · exact hslot.entries entry hold
    · exact h.runId_eq
  cycles := by rw [hcycles, hprojection]
  deliveries := by rw [hhistory, hprojection]

omit [Integrity] in
/-- What the checks of a cycle receipt establish. -/
theorem cycleReceipt_eq_ok {cycle : CycleRecord} {delivery : Option DeliveryRecord}
    {receipt : CycleReceipt} (h : cycleReceipt cycle staged delivery = .ok receipt) :
    budgetSnapshot staged.projected = .ok receipt.budgetSnapshot
      ∧ receipt.toCycleReceiptFields = {
        appended := true
        cycle
        recordTag := staged.entry.recordTag
        ledgerPosition := staged.entry.position
        chainTag := staged.entry.chainTag
        budgetSnapshot := receipt.budgetSnapshot
        delivery } := by
  obtain ⟨snapshot, hsnapshot, h⟩ := bind_eq_ok.mp h
  rw [mapError_eq_ok, CycleReceipt.create, validate_eq_ok] at h
  obtain ⟨hvalid, rfl⟩ := h
  exact ⟨hsnapshot, rfl⟩

omit [Integrity] in
/-- A direct record is the direct record of its entry. -/
theorem DirectLedgerRecord.ofLedgerRecord_toLedgerRecord (record : DirectLedgerRecord) :
    DirectLedgerRecord.ofLedgerRecord record.toLedgerRecord = some record := by
  cases record <;> rfl

omit [Integrity] in
/-- The receipt of a cycle revision has the seed of its entry. -/
theorem seed_eq {cycle : CycleRecord} {delivery : Option DeliveryRecord} {receipt : CycleReceipt}
    (h : cycleReceipt cycle staged delivery = .ok receipt) :
    cycleReceiptSeed staged.entry cycle staged.projected
      = .ok (CycleRevision.seed ⟨cycle, receipt⟩) := by
  obtain ⟨hsnapshot, hreceipt⟩ := cycleReceipt_eq_ok h
  have htag := congrArg CycleReceiptFields.recordTag hreceipt
  have hposition := congrArg CycleReceiptFields.ledgerPosition hreceipt
  have hchain := congrArg CycleReceiptFields.chainTag hreceipt
  unfold cycleReceiptSeed CycleRevision.seed
  rw [bind_eq_ok]
  refine ⟨_, hsnapshot, ?_⟩
  rw [pure_eq_ok, htag, hposition, hchain]

/-- One more entry keeps a slot what its ledger replays to. -/
theorem Stores.replays (hslot : slot.Replays) (h : Stores slot t) : t.Replays := by
  cases h with
  | event event staged receipts h =>
    have hcycles := h.accepted.cycleHistory_eq (by simp)
    have hdeliveries := h.accepted.deliveryHistory_eq (by simp)
    refine h.replays hslot rfl rfl rfl rfl ?_ ?_ ?_ ?_ ?_
    · simp only [addDirectRecord, h.record_eq, DirectLedgerRecord.ofLedgerRecord]
      rfl
    · simp only [addCycleSeed, h.record_eq]
      rfl
    · simp only [addDeliveryRecord, h.record_eq]
      rfl
    · exact hslot.cycles.trans hcycles.symm
    · exact hslot.deliveries.trans hdeliveries.symm
  | direct record staged h fresh =>
    have hcycles := h.accepted.cycleHistory_eq (by cases record <;> simp [DirectLedgerRecord.toLedgerRecord])
    have hdeliveries := h.accepted.deliveryHistory_eq
      (by cases record <;> simp [DirectLedgerRecord.toLedgerRecord])
    refine h.replays hslot rfl rfl rfl rfl ?_ ?_ ?_ ?_ ?_
    · simp only [addDirectRecord, h.record_eq, DirectLedgerRecord.ofLedgerRecord_toLedgerRecord]
      rfl
    · cases record <;> simp only [addCycleSeed, h.record_eq, DirectLedgerRecord.toLedgerRecord] <;> rfl
    · cases record <;> simp only [addDeliveryRecord, h.record_eq, DirectLedgerRecord.toLedgerRecord] <;>
        rfl
    · exact hslot.cycles.trans hcycles.symm
    · exact hslot.deliveries.trans hdeliveries.symm
  | cycle cycle delivery receipt staged h receipt_eq =>
    have hhistory := h.accepted.of_cycle.1
    have hdeliveries := h.accepted.deliveryHistory_eq (by simp)
    refine h.replays hslot rfl rfl rfl rfl ?_ ?_ ?_ ?_ ?_
    · simp only [addDirectRecord, h.record_eq, DirectLedgerRecord.ofLedgerRecord]
      rfl
    · simp only [addCycleSeed, h.record_eq, bind_eq_ok, pure_eq_ok]
      exact ⟨_, seed_eq receipt_eq, (Dict.mapValues_set ..).symm⟩
    · simp only [addDeliveryRecord, h.record_eq]
      rfl
    · rw [hhistory, ← hslot.cycles]
      exact Dict.mapValues_set ..
    · exact hslot.deliveries.trans hdeliveries.symm
  | delivery delivery staged h =>
    have hcycles := h.accepted.cycleHistory_eq (by simp)
    have hhistory := h.accepted.of_delivery.1
    refine h.replays hslot rfl rfl rfl rfl ?_ ?_ ?_ ?_ ?_
    · simp only [addDirectRecord, h.record_eq, DirectLedgerRecord.ofLedgerRecord]
      rfl
    · simp only [addCycleSeed, h.record_eq]
      rfl
    · simp only [addDeliveryRecord, h.record_eq]
      rfl
    · exact hslot.cycles.trans hcycles.symm
    · rw [hhistory, ← hslot.deliveries]
      exact Dict.mapValues_set ..

theorem replays_of_stores (hslot : slot.Replays) (h : Relation.ReflTransGen Stores slot t) :
    t.Replays := by
  induction h with
  | refl => exact hslot
  | tail _ hstep ih => exact hstep.replays ih

end SalienceGate
