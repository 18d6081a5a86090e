import SalienceGate.Repository.Reached

/-!
# Conditional batches and single operations

A conditional batch either changes nothing, or does what its operations do one by one, each under
the head that the one before it left. The check of the staged copy passes in every reachable state.
-/

namespace SalienceGate

open Checked
open Stateful hiding bind_eq_ok check_bind_eq_ok raiseIf_bind_eq_ok expect_bind_eq_ok

variable [Hashing]

/-! ## One by one -/

/-- The run of an operation of a batch. -/
def ConditionalAppendOperation.runId : ConditionalAppendOperation → UUID4
  | .appendEvent event _ => event.runId
  | .recordSignal signal => signal.runId

variable [Integrity] [Redactor] [Serialization]

/-- An operation of a batch on its own, under an expected head: `append_event_if_head` or
`record_signal_if_head`. -/
def ConditionalAppendOperation.perform (head : Option LedgerHead) :
    ConditionalAppendOperation → RepositoryM BatchEntryReceipt
  | .appendEvent event eventId =>
    .event <$> appendEventIfHead (.exact event) (.exact eventId) (head.map .exact)
  | .recordSignal signal => .signal <$> recordSignalIfHead (.exact signal) (head.elim .foreign .exact)

/-- The operations of a batch one by one, each under the head that the one before it left. -/
def performEach : List ConditionalAppendOperation → Option LedgerHead →
    RepositoryM (List BatchEntryReceipt)
  | [], _ => pure []
  | operation :: operations, head => do
    let receipt ← operation.perform head
    let repository ← get
    let receipts ← performEach operations (repository operation.runId).slot.ledgerHead
    pure (receipt :: receipts)

variable {repository : Repository} {run s t : RunState} {runId : UUID4}
  {operation : ConditionalAppendOperation} {prepared : PreparedConditionalOperation}

omit [Hashing] [Integrity] [Redactor] [Serialization] in
theorem copyOptionalHead_map (head : Option LedgerHead) :
    copyOptionalHead (head.map .exact) = .ok head := by
  cases head <;> rfl

/-- The operation on its own does what its locked part does. -/
theorem perform_eq_ok (hprepares : Prepares operation prepared) {head : Option LedgerHead}
    {receipt : BatchEntryReceipt} {u : RunState} (hhead : head = none → receipt.isEvent = true)
    (h : prepared.locked head (repository prepared.runId) = .ok receipt u) :
    operation.perform head repository
      = .ok receipt (Function.update repository prepared.runId u) := by
  cases hprepares with
  | event event redacted eventId metadata redact =>
    unfold PreparedConditionalOperation.locked at h
    simp only [Functor.map, EStateM.map] at h
    split at h
    · next one v hone =>
      cases h
      have hrun : onRun event.runId _ repository = _ := onRun_of_ok hone
      unfold ConditionalAppendOperation.perform appendEventIfHead
      simp only [Functor.map, EStateM.map]
      rw [lift_bind_of_ok (show validateDraft (.exact event) = .ok event from rfl),
        lift_bind_of_ok (show validateRunId (.exact eventId) = .ok eventId from rfl),
        lift_bind_of_ok (copyOptionalHead_map head), lift_bind_of_ok metadata,
        lift_bind_of_ok redact, hrun]
      rfl
    · cases h
  | signal signal content =>
    unfold PreparedConditionalOperation.locked at h
    simp only [Functor.map, EStateM.map] at h
    split at h
    · next one v hone =>
      cases h
      obtain ⟨expected, rfl⟩ : ∃ expected, head = some expected :=
        Option.ne_none_iff_exists'.mp fun hnone => Bool.false_ne_true (hhead hnone)
      have hrun : onRun signal.runId _ repository = _ := onRun_of_ok hone
      unfold ConditionalAppendOperation.perform recordSignalIfHead
      simp only [Functor.map, EStateM.map]
      rw [lift_bind_of_ok (show validateCommand "signal" (.exact signal) = .ok signal from rfl),
        lift_bind_of_ok (show copyExpectedHead ((some expected).elim .foreign .exact) = .ok expected
          from rfl), lift_bind_of_ok content, hrun]
      rfl
    · cases h

theorem Prepares.runId_eq (h : Prepares operation prepared) : operation.runId = prepared.runId := by
  cases h <;> rfl

/-- The operations of a batch are of the run of the batch. -/
theorem runId_eq_of_prepares {operations : List ConditionalAppendOperation}
    {batch : List PreparedConditionalOperation} (hall : List.Forall₂ Prepares operations batch)
    (hruns : ∀ operation ∈ batch, operation.runId = runId) :
    ∀ operation ∈ operations, operation.runId = runId := by
  induction hall with
  | nil => exact fun operation hmem => absurd hmem List.not_mem_nil
  | cons hprepares _ ih =>
    obtain ⟨hrun, hruns⟩ := List.forall_mem_cons.mp hruns
    exact List.forall_mem_cons.mpr ⟨hprepares.runId_eq.trans hrun, ih hruns⟩

/-- The staging loop does what the operations do one by one. -/
theorem performEach_of_mapM {operations : List ConditionalAppendOperation}
    {batch : List PreparedConditionalOperation} (hall : List.Forall₂ Prepares operations batch)
    (hruns : ∀ operation ∈ batch, operation.runId = runId) {receipts : List BatchEntryReceipt}
    (hslot : s.slot = (repository runId).slot) (hverified : (repository runId).Verified)
    (hgenesis : (repository runId).slot.ledgerHead = none →
      ∃ first ∈ receipts.head?, first.isEvent = true ∧ first.appended = true)
    (h : batch.mapM stageOperation s = .ok receipts t) :
    ∃ u, performEach operations (repository runId).slot.ledgerHead repository
        = .ok receipts (Function.update repository runId u)
      ∧ u.slot = t.slot
      ∧ (receipts.any (·.appended) = false → u = repository runId)
      ∧ (receipts.any (·.appended) = true → u.Trusted ∧ u.slot.ledgerHead ≠ none) := by
  induction hall generalizing s repository receipts with
  | nil =>
    rw [List.mapM_nil] at h
    cases h
    refine ⟨repository runId, ?_, hslot.symm, fun _ => rfl, fun hany => by cases hany⟩
    rw [Function.update_eq_self]
    rfl
  | @cons operation prepared operations batch hprepares hall ih =>
    obtain ⟨hrun, hruns⟩ := List.forall_mem_cons.mp hruns
    rw [List.mapM_cons] at h
    obtain ⟨receipt, middle, hstage, h⟩ := Stateful.bind_eq_ok.mp h
    obtain ⟨rest, last, hloop, h⟩ := Stateful.bind_eq_ok.mp h
    cases h
    have hfirst : (repository runId).slot.ledgerHead = none →
        receipt.isEvent = true ∧ receipt.appended = true := by
      intro hnone
      obtain ⟨first, hmem, hevent⟩ := hgenesis hnone
      cases hmem
      exact hevent
    have hperform : ∀ u, prepared.locked (repository runId).slot.ledgerHead (repository runId)
          = .ok receipt u →
        operation.perform (repository runId).slot.ledgerHead repository
          = .ok receipt (Function.update repository runId u) := by
      intro u hlocked
      rw [← hrun] at hlocked ⊢
      exact perform_eq_ok hprepares (fun hnone => (hfirst (hrun ▸ hnone)).1) hlocked
    have hoperation : operation.runId = runId := hprepares.runId_eq.trans hrun
    rcases stageOperation_locked hslot hverified hstage (fun hnone => (hfirst hnone).1) with
      ⟨rfl, hrepeated, hlocked⟩ | ⟨u, hlocked, huslot, happended, huverified, hutrusted, huhead⟩
    · -- a duplicate leaves the run as it is
      have hhead : (repository runId).slot.ledgerHead ≠ none := fun hnone =>
        Bool.false_ne_true (hrepeated.symm.trans (hfirst hnone).2)
      obtain ⟨v, hrest, hvslot, hvsame, hvtrusted⟩ := ih hruns hslot hverified
        (fun hnone => absurd hnone hhead) hloop
      have hone := hperform _ hlocked
      rw [Function.update_eq_self] at hone
      refine ⟨v, ?_, hvslot, ?_, ?_⟩
      · unfold performEach
        rw [bind_of_ok hone, get_bind, hoperation, bind_of_ok hrest]
        rfl
      · rw [List.any_cons, hrepeated, Bool.false_or]
        exact hvsame
      · rw [List.any_cons, hrepeated, Bool.false_or]
        exact hvtrusted
    · have hself : Function.update repository runId u runId = u := Function.update_self ..
      have hrest := @ih (Function.update repository runId u) _ hruns _
        (by rw [hself]; exact huslot.symm) (by rw [hself]; exact huverified)
        (fun hnone => absurd (hself ▸ hnone) huhead) hloop
      rw [hself] at hrest
      obtain ⟨v, hrest, hvslot, hvsame, hvtrusted⟩ := hrest
      refine ⟨v, ?_, hvslot, ?_, fun _ => ?_⟩
      · unfold performEach
        rw [bind_of_ok (hperform u hlocked), get_bind, hoperation, hself, bind_of_ok hrest,
          Function.update_idem]
        rfl
      · rw [List.any_cons, happended, Bool.true_or]
        exact fun hfalse => by cases hfalse
      · cases hany : rest.any (·.appended) with
        | false =>
          rw [hvsame hany]
          exact ⟨hutrusted, huhead⟩
        | true => exact hvtrusted hany

/-! ## The whole batch -/

/-- A batch leaves the repository as it is if it raises. -/
theorem atomic_appendRecordsIfHead {arguments : Argument (List (Argument ConditionalAppendOperation))}
    {expectedHead : Option (Argument LedgerHead)} :
    Atomic (appendRecordsIfHead arguments expectedHead) := by
  unfold appendRecordsIfHead
  exact .lift_bind fun _ _ => .lift_bind fun _ _ => atomic_onRun atomic_appendRecordsLocked

omit [Hashing] [Integrity] [Redactor] [Serialization] in
/-- An expected head that is not refused is none, or a head. -/
theorem copyOptionalHead_eq_ok {expectedHead : Option (Argument LedgerHead)}
    {head : Option LedgerHead} (h : copyOptionalHead expectedHead = .ok head) :
    expectedHead = head.map .exact := by
  cases expectedHead with
  | none => cases h; rfl
  | some argument =>
    cases argument with
    | exact value => cases h; rfl
    | foreign => cases h
    | malformed => cases h

omit [Integrity] [Redactor] [Serialization] in
/-- A run whose slot was taken over from a copy, and trusted, is the published copy. -/
theorem RunState.Trusted.eq_commitShadow {u shadow : RunState} (h : u.Trusted)
    (hhead : u.slot.ledgerHead ≠ none) (hslot : u.slot = shadow.slot) :
    u = run.commitShadow shadow := by
  obtain ⟨head, hsome⟩ := Option.ne_none_iff_exists'.mp hhead
  have hprojection := h.projection
  rw [hsome, Option.map_some] at hprojection
  cases u with
  | mk slot trustedHead trustedProjection =>
    obtain rfl : slot = shadow.slot := hslot
    obtain rfl : trustedHead = shadow.slot.ledgerHead := h.head
    obtain rfl : trustedProjection = some shadow.slot.projection := hprojection
    rfl

/-- A batch does what its operations do one by one. -/
theorem performEach_of_appendRecordsLocked {operations : List ConditionalAppendOperation}
    {batch : List PreparedConditionalOperation} (hall : List.Forall₂ Prepares operations batch)
    (hruns : ∀ operation ∈ batch, operation.runId = runId) {head : Option LedgerHead}
    {receipt : ConditionalBatchReceipt}
    (h : appendRecordsLocked batch head (repository runId) = .ok receipt t) :
    performEach operations head repository
        = .ok receipt.receipts (Function.update repository runId t)
      ∧ receipt.initialHead = head ∧ t.slot.ledgerHead = some receipt.finalHead := by
  obtain ⟨hverified, rfl, hinitial, shadow, hloop, hfinal, ht⟩ := appendRecordsLocked_eq_ok h
  have hgenesis : (repository runId).slot.ledgerHead = none →
      ∃ first ∈ receipt.receipts.head?, first.isEvent = true ∧ first.appended = true := by
    intro hnone
    have hvalid := receipt.valid
    unfold ConditionalBatchReceiptFields.check at hvalid
    simp only [constrain_bind_eq_ok, refuse_bind_eq_ok] at hvalid
    obtain ⟨count, -, hvalid⟩ := bind_eq_ok.mp hvalid.2.2.2.2
    obtain ⟨-, hvalid⟩ := refuse_bind_eq_ok.mp hvalid
    obtain ⟨hfirst, -⟩ := refuse_bind_eq_ok.mp hvalid
    rw [hinitial, not_and, not_not] at hfirst
    exact hfirst hnone
  obtain ⟨u, hperform, huslot, hsame, htrusted⟩ :=
    performEach_of_mapM hall hruns rfl hverified hgenesis hloop
  have hu : u = t := by
    rw [ht]
    cases hany : receipt.receipts.any (·.appended) with
    | true =>
      obtain ⟨hu, hhead⟩ := htrusted hany
      exact hu.eq_commitShadow hhead huslot
    | false => exact hsame hany
  rw [← hu]
  exact ⟨hperform, hinitial, huslot ▸ hfinal⟩

/-- A conditional batch raises and changes nothing, or does exactly what its operations do one by
one, each under the head that the one before it left; and in a reachable state the check of the
staged copy passes whatever the staging loop staged. -/
theorem conditional_batch (arguments : Argument (List (Argument ConditionalAppendOperation)))
    (expectedHead : Option (Argument LedgerHead)) (repository : Repository) :
    (∀ error t, appendRecordsIfHead arguments expectedHead repository = .error error t →
      t = repository)
    ∧ (∀ receipt t, appendRecordsIfHead arguments expectedHead repository = .ok receipt t →
      ∃ runId operations head, arguments = .exact (operations.map .exact)
        ∧ (∀ operation ∈ operations, operation.runId = runId) ∧ expectedHead = head.map .exact
        ∧ performEach operations head repository = .ok receipt.receipts t
        ∧ receipt.initialHead = head ∧ (t runId).slot.ledgerHead = some receipt.finalHead)
    ∧ (Reachable repository → ∀ runId batch receipts shadow,
      prepareConditionalBatch arguments = .ok (runId, batch) →
      batch.mapM stageOperation (repository runId) = .ok receipts shadow →
      verifyStaged (repository runId).slot shadow.slot (receipts.any (·.appended)) = .ok ()) := by
  refine ⟨fun error t h => atomic_appendRecordsIfHead h, fun receipt t h => ?_, ?_⟩
  · unfold appendRecordsIfHead at h
    obtain ⟨batch, hbatch, h⟩ := lift_bind_eq_ok.mp h
    obtain ⟨head, hhead, h⟩ := lift_bind_eq_ok.mp h
    obtain ⟨operations, hoperations, hall, hruns⟩ := prepareConditionalBatch_eq_ok hbatch
    cases hlocked : appendRecordsLocked batch.2 head (repository batch.1) with
    | error e u =>
      unfold onRun zoom at h
      rw [hlocked] at h
      cases h
    | ok created u =>
      rw [onRun_of_ok hlocked] at h
      cases h
      obtain ⟨hperform, hinitial, hfinal⟩ := performEach_of_appendRecordsLocked hall hruns hlocked
      refine ⟨batch.1, operations, head, hoperations, ?_, copyOptionalHead_eq_ok hhead, hperform,
        hinitial, ?_⟩
      · exact runId_eq_of_prepares hall hruns
      · rw [Function.update_self]
        exact hfinal
  · intro hreachable runId batch receipts shadow hbatch hloop
    obtain ⟨operations, -, hall, -⟩ := prepareConditionalBatch_eq_ok hbatch
    have hsettled := (hreachable.live.live runId).settled
    obtain ⟨hbatched, hlength⟩ := mapM_stageOperation_eq_ok hall hsettled (.refl _) hloop
    refine hbatched.verifyStaged_eq hsettled fun happended => ?_
    have hpositive : 0 < receipts.countP (·.appended) := by
      rw [List.countP_pos_iff]
      exact List.any_eq_true.mp happended
    omega

end SalienceGate
