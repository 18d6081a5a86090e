import SalienceGate.Repository.Reached

/-!
# Rebuilding reaches the live state

A rebuild derives everything from the ledger, and reaches what the operations built up: the
projection, the caches and the receipts. The one thing that it reads back from a payload is the
audit event of a source collision, and this payload has been through the redactor. `KeepsAudit` is
the condition under which it reads back; without it every later rebuild of the run fails.
-/

namespace SalienceGate

open Checked
open Stateful hiding bind_eq_ok check_bind_eq_ok raiseIf_bind_eq_ok expect_bind_eq_ok

variable [Hashing]

/-! ## Audit events that read back -/

/-- A payload is the audit payload of a collision, with some of the fields that may differ. -/
def NamesCollision (existingEventId : UUID4) (fingerprint : PayloadDigest) (payload : JsonObject) :
    Prop :=
  ∃ differing, areDifferingFields (differing.map .str) = true
    ∧ payload = auditPayload existingEventId fingerprint differing

omit [Hashing] in
/-- An audit event whose payload names its collision reads back. -/
theorem readsBack_of_namesCollision {event : TraceEvent} {existingEventId : UUID4}
    {fingerprint : PayloadDigest} (h : NamesCollision existingEventId fingerprint event.payload)
    (hsource : event.sourceEventId = collisionSourceId fingerprint.value)
    (hparent : event.parentIds = [existingEventId])
    (halgorithm : event.payloadDigest.algorithm = fingerprint.algorithm) : ReadsBack event := by
  obtain ⟨differing, hdiffering, hpayload⟩ := h
  have hparse : Sha256Digest.parse fingerprint.value.text = some fingerprint.value :=
    Sha256Digest.codec.load_dump fingerprint.value
  refine ⟨fingerprint.value, existingEventId, hsource, hparent, ?_⟩
  unfold auditedCollision
  rw [hpayload]
  simp only [auditPayload, halgorithm, hdiffering, hparse, and_self, if_true, Option.map_some]

omit [Hashing] in
/-- The fields that are marked are some of the fields. -/
theorem marked_sublist (fields : List (String × Bool)) :
    (fields.filterMap fun field => if field.2 then some field.1 else none).Sublist
      (fields.map Prod.fst) := by
  induction fields with
  | nil => exact .slnil
  | cons field fields ih =>
    rw [List.filterMap_cons, List.map_cons]
    cases field.2 with
    | true => exact ih.cons_cons field.1
    | false => exact ih.cons field.1

omit [Hashing] in
/-- Identities that are not the same differ in a field. -/
theorem differingFields_ne_nil {existing incoming : EventIdentity} (h : existing ≠ incoming) :
    differingFields existing incoming ≠ [] := by
  intro hnil
  apply h
  unfold differingFields at hnil
  simp only [List.filterMap_eq_nil_iff, List.forall_mem_cons, ite_eq_right_iff, reduceCtorEq,
    imp_false, decide_eq_true_eq, not_not] at hnil
  obtain ⟨h1, h2, h3, h4, h5, h6, h7, h8, -⟩ := hnil
  cases existing
  cases incoming
  simp_all

omit [Hashing] in
/-- The fields in which two identities differ may be listed in an audit event. -/
theorem areDifferingFields_differingFields {existing incoming : EventIdentity}
    (h : existing ≠ incoming) :
    areDifferingFields ((differingFields existing incoming).map .str) = true := by
  have hitems : stringItems ((differingFields existing incoming).map .str)
      = some (differingFields existing incoming) :=
    Codec.str.mapM_load_dump (differingFields existing incoming)
  have hsublist : (differingFields existing incoming).Sublist identityFieldNames.tail :=
    marked_sublist _
  have hnodup : (differingFields existing incoming).Nodup := hsublist.nodup (by decide)
  have hnames : ∀ name ∈ differingFields existing incoming, name ∈ identityFieldNames :=
    fun name hmem => List.mem_of_mem_tail (hsublist.subset hmem)
  unfold areDifferingFields
  rw [hitems]
  simp only [Bool.and_eq_true, Bool.not_eq_true', List.isEmpty_eq_false_iff, decide_eq_true_eq,
    List.all_eq_true]
  exact ⟨⟨differingFields_ne_nil h, hnodup⟩, hnames⟩
variable [Integrity] [Redactor]

/-- An append that is going to record a source collision records it so that it reads back: the
redactor leaves the audit payload one of the same collision. -/
def KeepsAudit [Serialization] (repository : Repository) : Operation → Prop
  | .append (.exact draft) _ _ => ∀ redacted existing payload, redactDraft draft = .ok redacted →
    (repository draft.runId).slot.projection.eventsBySource.get? draft.sourceEventId = some existing →
    existing.eventIdentity ≠ redacted.eventIdentity →
    (collisionFingerprint existing redacted).value
      ∉ (repository draft.runId).slot.collisionReceipts →
    redactPayload (auditPayload existing.eventId (collisionFingerprint existing redacted)
      (differingFields existing.eventIdentity redacted.eventIdentity)) = .ok payload →
    NamesCollision existing.eventId (collisionFingerprint existing redacted) payload
  | _ => True

/-- A policy that leaves the payload of every audit event as it is keeps them readable. -/
theorem keepsAudit_of_unchanged [Serialization] (h : ∀ existingEventId fingerprint differing,
      redactPayload (auditPayload existingEventId fingerprint differing)
        = .ok (auditPayload existingEventId fingerprint differing))
    (repository : Repository) (operation : Operation) : KeepsAudit repository operation := by
  cases operation with
  | append event eventId newId =>
    cases event with
    | exact draft =>
      intro redacted existing payload _ _ hdiffers _ hpayload
      rw [h, Except.ok.injEq] at hpayload
      exact ⟨_, areDifferingFields_differingFields hdiffers, hpayload.symm⟩
    | _ => trivial
  | _ => trivial

/-! ## Every step keeps the audit events readable -/

section

variable {slot t : Slot}

omit [Redactor] in
/-- A plain extension adds no audit event. -/
theorem Extends.collisionEvents_eq (hslot : slot.Settled) (h : Extends slot t) :
    collisionEvents t.projection = collisionEvents slot.projection := by
  cases h with
  | event event staged h plain =>
    show collisionEvents staged.projected = _
    rw [h.accepted.collisionEvents_eq hslot.events, plain, if_neg Bool.false_ne_true, List.append_nil]
  | direct record staged h fresh =>
    exact h.accepted.collisionEvents_of_ne
      (by cases record <;> simp [DirectLedgerRecord.toLedgerRecord])
  | cycle cycle receipt staged h receipt_eq settled =>
    exact h.accepted.collisionEvents_of_ne (by simp)
  | reminder cycle delivery receipt first second hfirst receipt_eq hsecond complete =>
    have hcycle := hfirst.accepted.collisionEvents_of_ne (by simp)
    have hdelivery := hsecond.accepted.collisionEvents_of_ne (by simp)
    exact hdelivery.trans hcycle
  | delivery delivery staged h later => exact h.accepted.collisionEvents_of_ne (by simp)

omit [Redactor] in
theorem Extended.readsBack {run next : RunState} (h : Extended run next) (hrun : run.Live)
    (hread : AuditsReadBack run.slot.projection) : AuditsReadBack next.slot.projection := by
  have hslot := h.slot
  generalize next.slot = t at hslot
  have hall : t.Settled ∧ AuditsReadBack t.projection := by
    induction hslot with
    | refl => exact ⟨hrun.settled, hread⟩
    | tail _ hext ih =>
      refine ⟨hext.settled ih.1, ?_⟩
      unfold AuditsReadBack
      rw [hext.collisionEvents_eq ih.1]
      exact ih.2
  exact hall.2

/-- The audit event of a collision reads back if the redactor leaves its payload one of the same
collision. -/
theorem Collides.readsBack {incoming : RedactedTraceEventDraft} (hslot : slot.Settled)
    (h : Collides incoming slot t) (hread : AuditsReadBack slot.projection)
    (hkeeps : ∀ existing payload,
      slot.projection.eventsBySource.get? incoming.sourceEventId = some existing →
      (collisionFingerprint existing incoming).value ∉ slot.collisionReceipts →
      redactPayload (auditPayload existing.eventId (collisionFingerprint existing incoming)
        (differingFields existing.eventIdentity incoming.eventIdentity)) = .ok payload →
      NamesCollision existing.eventId (collisionFingerprint existing incoming) payload) :
    AuditsReadBack t.projection := by
  cases h with
  | audit existing event receipt staged h known fresh source payload digest metadata parent
      receipt_eq =>
    have hnames := hkeeps existing event.payload known fresh payload
    have halgorithm : event.payloadDigest.algorithm
        = (collisionFingerprint existing incoming).algorithm := by
      rw [digest, collisionFingerprint, algorithm_tag]
      rfl
    have hevent := readsBack_of_namesCollision hnames source parent halgorithm
    intro other hother
    have hother : other ∈ collisionEvents staged.projected := hother
    rw [h.accepted.collisionEvents_eq hslot.events, List.mem_append] at hother
    rcases hother with hother | hother
    · exact hread other hother
    · split at hother
      · rw [List.mem_singleton.mp hother]
        exact hevent
      · exact absurd hother List.not_mem_nil

end

/-! ## Runs -/

variable [Serialization] {repository : Repository}

/-- An append that keeps its audit event readable keeps all of them readable. -/
theorem append_readsBack (hlive : repository.Live) {event : Argument NormalizedTraceEventDraft}
    {eventId : Option (Argument UUID4)} {newId : Option UUID4}
    (hmeets : KeepsAudit repository (.append event eventId newId))
    (hread : ∀ runId, AuditsReadBack (repository runId).slot.projection) :
    EndsIn (append event eventId newId) repository
      (OnEach (fun _ run => AuditsReadBack run.slot.projection) repository) := by
  have hsame : OnEach (fun _ run => AuditsReadBack run.slot.projection) repository repository := hread
  unfold append
  refine .lift_bind hsame fun draft hdraft => .lift_bind hsame fun id _ =>
    .lift_bind hsame fun _ hmetadata => .lift_bind hsame fun redacted hredacted => ?_
  have hevent : event = .exact draft := by
    cases event <;> cases hdraft
    rfl
  subst hevent
  have hsource := sourceEventId_redactDraft hredacted
  refine onRun_endsIn (R := fun _ run => AuditsReadBack run.slot.projection) hsame
    (.get_bind (.lift_bind (hsame _) fun _ _ => ?_))
  refine .of_atomic atomic_appendToSlot (hread _) fun receipt t happend => ?_
  cases appendToSlot_eq_ok hsource happend with
  | duplicate => exact hread _
  | cached => exact hread _
  | collision existing _ known differs collides trusted stored =>
    refine collides.readsBack (hlive.live _).settled (hread _) fun found payload hknown hfresh hpayload => ?_
    rw [hsource] at hknown
    obtain rfl : found = existing := Option.some.inj (hknown.symm.trans known)
    exact hmeets redacted found payload hredacted known differs hfresh hpayload
  | event event staged created hstaged =>
    have hplain : isCollisionSource event.sourceEventId = false := by
      rw [(traceEvent_eq_ok created).2.1, hsource]
      exact isCollisionSource_of_validateMetadata hmetadata
    have hextended : Extended (repository draft.runId) ((repository draft.runId).append staged).trust :=
      ⟨.single (.event event staged hstaged hplain), ⟨rfl, rfl⟩⟩
    exact hextended.readsBack (hlive.live _) (hread _)

/-- An operation that keeps its audit event readable keeps all of them readable. -/
theorem Operation.perform_readsBack (hlive : repository.Live) {operation : Operation}
    (hmeets : KeepsAudit repository operation)
    (hread : ∀ runId, AuditsReadBack (repository runId).slot.projection) :
    EndsIn operation.perform repository
      (OnEach (fun _ run => AuditsReadBack run.slot.projection) repository) := by
  cases hoperation : operation.isAppend with
  | false =>
    have hextended := Operation.perform_extended hlive hoperation
    constructor
    · intro receipt next h id
      exact (hextended.ok receipt next h id).readsBack (hlive.live id) (hread id)
    · intro error next h id
      exact (hextended.error error next h id).readsBack (hlive.live id) (hread id)
  | true =>
    cases operation with
    | append event eventId newId => exact (append_readsBack hlive hmeets hread).map
    | _ => cases hoperation

/-- If every append keeps its audit event readable, all of them read back. -/
theorem ReachableBy.readsBack (h : ReachableBy KeepsAudit repository) (runId : UUID4) :
    AuditsReadBack (repository runId).slot.projection := by
  have hall : repository.Live ∧ ∀ runId, AuditsReadBack (repository runId).slot.projection := by
    refine h.invariant (I := fun repository => repository.Live
      ∧ ∀ runId, AuditsReadBack (repository runId).slot.projection) ⟨live_repository_empty, ?_⟩ ?_
    · intro runId event hmem
      cases hmem
    · rintro repository operation ⟨hlive, hread⟩ hmeets
      exact ⟨hlive.continued (operation.perform_continued hlive).after,
        (Operation.perform_readsBack hlive hmeets hread).after⟩
  exact hall.2 runId

/-- If the redactor left every audit event readable, a rebuild of any reached run succeeds, reports
that it is equivalent and changes nothing; and replaying its stored ledger under its head leads to
the live projection, caches and receipts. -/
theorem rebuild_equivalent (h : ReachableBy KeepsAudit repository) (runId : UUID4) {head : LedgerHead}
    (hhead : (repository runId).slot.ledgerHead = some head) :
    ∃ digests, projectionDigests (repository runId).slot.projection
        (repository runId).slot.ledger.length = .ok digests
      ∧ rebuild (.exact runId) repository
        = .ok ⟨runId, (repository runId).slot.ledger.length, some digests, digests, true⟩ repository
      ∧ replayRun (repository runId).slot.ledger head = .ok ((repository runId).slot.rebuilt digests) := by
  have hlive := h.live.live runId
  have hread := h.readsBack runId
  have hsome : (repository runId).slot.ledgerHead ≠ none := by simp [hhead]
  obtain ⟨digests, hdigests⟩ := exists_projectionDigests hlive.settled.toReplays
    (repository runId).slot.ledger.length
  refine ⟨digests, hdigests, ?_,
    (replayRun_eq_ok hlive.settled hhead).mpr ⟨hread, digests, hdigests, rfl⟩⟩
  have hlocked : rebuildLocked runId (repository runId) = _ := (rebuildLocked_eq_ok hlive).mpr
    ⟨hsome, hread, rfl, digests, hdigests, rfl⟩
  unfold rebuild
  rw [lift_bind_of_ok (show validateRunId (.exact runId) = .ok runId from rfl),
    onRun_of_ok hlocked, Function.update_eq_self]

end SalienceGate

/-! ### A policy that makes a rebuild fail

Two events under one source identity, and a policy that holds the reason code of the audit event for
a secret: the audit event is stored, and no rebuild can read it. Under a policy without secrets the
same run is rebuilt. -/

namespace SalienceGate

section Collision

/-- SHA-256, which the run does not use. -/
local instance collisionHashing : Hashing where
  lengthPrefixedSha256 _ _ := jumpCycleId

/-- The tags of the run, by their domain, and the digests of its payloads. -/
local instance collisionIntegrity : Integrity where
  algorithm := .syntheticSha256
  mac payload :=
    if payload.items = [("text", .str "disk full")] then jumpTextDigest else jumpGroundingDigest
  tagMac domain _ :=
    if domain = "saliencegate:source-collision:v1" then jumpFingerprint else jumpCycleId

/-- The writer of the records, none of which the run stores. -/
local instance collisionSerialization : Serialization where
  modelDump _ := ⟨[], by decide⟩
  requestBytes _ := 0
  receiptBytes _ := 0

/-- An event of the run with a text. -/
def collisionEvent (text : String) : TraceEventDraftFields where
  runId := jumpId 1
  sourceEventId := jumpComponent
  timestamp := 0
  eventType := .observation
  phase := .postAction
  payload := ⟨[("text", .str text)], by rfl⟩
  sourceAdapter := jumpComponent
  trustLabel := .untrustedToolOutput

/-- The first event. -/
def fullEvent : NormalizedTraceEventDraft := ⟨collisionEvent "disk full", by decide⟩

/-- The event that collides with it. -/
def emptyEvent : NormalizedTraceEventDraft := ⟨collisionEvent "disk empty", by decide⟩

/-- Two appends under one source identity. -/
def collisionOperations : List Operation :=
  [.append (.exact fullEvent) none (some (jumpId 2)),
    .append (.exact emptyEvent) none (some (jumpId 3))]

/-- The state after them. -/
def collisionRepository [Redactor] : Repository := performAll collisionOperations Repository.empty

section Secret

/-- A policy with a secret field of its own. -/
local instance reasonCodeRedactor : Redactor where
  redactText value := value
  isSecretField key := .ok (key = "reason_code")

/-- The audit event of a collision under this policy makes every rebuild of its run fail. -/
theorem exists_rebuild_fails : Reachable collisionRepository
    ∧ (collisionRepository (jumpId 1)).slot.ledger.length = 2
    ∧ ∃ t, rebuild (.exact (jumpId 1)) collisionRepository = .error .rebuild t := by
  refine ⟨reachable_performAll .empty _, by decide +kernel, ?_⟩
  have hraised : Stateful.raised (rebuild (.exact (jumpId 1))) collisionRepository
      = some .rebuild := by decide +kernel
  exact Stateful.raised_eq_some.mp hraised

end Secret

/-- A policy without secrets of its own, on texts without secrets. -/
local instance plainRedactor : Redactor where
  redactText value := value
  isSecretField _ := .ok false

instance : Redactor.Plain := ⟨fun _ => rfl, fun _ => rfl⟩

/-- The run with the collision is rebuilt under a policy without secrets. -/
theorem rebuild_equivalent_collision : ∃ digests,
    projectionDigests (collisionRepository (jumpId 1)).slot.projection 2 = .ok digests
      ∧ rebuild (.exact (jumpId 1)) collisionRepository
        = .ok ⟨jumpId 1, 2, some digests, digests, true⟩ collisionRepository := by
  have hkeeps := keepsAudit_of_unchanged fun existingEventId fingerprint differing =>
    redactPayload_of_plain (auditPayload existingEventId fingerprint differing)
  have hreached : ReachableBy KeepsAudit collisionRepository :=
    ReachableBy.empty.performAll hkeeps collisionOperations
  have hlength : (collisionRepository (jumpId 1)).slot.ledger.length = 2 := by decide +kernel
  obtain ⟨head, hhead⟩ : ∃ head, (collisionRepository (jumpId 1)).slot.ledgerHead = some head :=
    Option.isSome_iff_exists.mp (by decide +kernel)
  obtain ⟨digests, hdigests, hrebuild, -⟩ := rebuild_equivalent hreached (jumpId 1) hhead
  rw [hlength] at hdigests hrebuild
  exact ⟨digests, hdigests, hrebuild⟩

end Collision

end SalienceGate
