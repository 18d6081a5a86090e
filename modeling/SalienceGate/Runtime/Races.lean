import SalienceGate.Repository.Outcomes
import SalienceGate.Runtime.Injections

/-!
# Races for a delivery

Workers deliver one delivery at the same time, and lose races against each other. A lost claim and a
lost completion are revision conflicts, which a worker answers with the authoritative record. A lost
beginning of an attempt is a conflict, too, unless the winner's attempt is the latest revision: then
the repository reports another owner, which a worker does not handle. In every run without such a race
each call returns a result that is built from a stored revision (`settles_of_unraced`).
-/

namespace SalienceGate

open Checked
open Stateful hiding bind_eq_ok check_bind_eq_ok raiseIf_bind_eq_ok expect_bind_eq_ok

/-! ## The conditions of a race -/

/-- A request was cancelled. -/
def wasCancelled {α : Type} : Except WorkerError α → Bool
  | .error .cancelled => true
  | _ => false

variable [Hashing]

/-- The adapter that declares the capabilities is capable of a delivery. -/
def isCapable (declared : DeclaredCapabilities) (delivery : DeliveryRecord) : Bool :=
  (DeliveryWorker.acceptedMapping declared delivery).isOk

/-- The revisions of all deliveries of a run. -/
def revisionsOf (repository : Repository) (runId : UUID4) : Dict (UUID4 × ℕ) DeliveryRecord :=
  (repository runId).slot.projection.deliveryHistory

/-- The instant of a command is not before the revision that it expects. -/
def isTimely (repository : Repository) (runId deliveryId : UUID4) (expectedRevision : ℕ)
    (updatedAt : UtcDatetime) : Prop :=
  ∀ base ∈ (revisionsOf repository runId).get? (deliveryId, expectedRevision),
    base.updatedAt ≤ updatedAt

instance decidableTimely (repository : Repository) (runId deliveryId : UUID4) (n : ℕ)
    (updatedAt : UtcDatetime) : Decidable (isTimely repository runId deliveryId n updatedAt) :=
  inferInstanceAs (Decidable (∀ base ∈ (revisionsOf repository runId).get? (deliveryId, n),
    base.updatedAt ≤ updatedAt))

variable [Integrity] [Redactor] [Serialization]

/-- What a race for a delivery takes for granted about a request and its answer: nothing is cancelled,
the adapter is capable of the delivery, the identities that a worker makes are new, time does not go
back, and neither the content policy nor the length of a ledger key refuses a command. -/
@[reducible] def WorkerRequest.Fair (repository : Repository) (runId deliveryId : UUID4) :
    (request : WorkerRequest) → Except WorkerError request.Reply → Prop
  | .capabilities, reply => match reply with
    | .ok declared => ∀ delivery ∈ (revisionsOf repository runId).values,
        delivery.deliveryId = deliveryId → isCapable declared delivery = true
    | .error _ => False
  | .newId, reply => match reply with
    | .ok (.exact _) => True
    | _ => False
  | .claimDelivery command, reply => wasCancelled reply = false
      ∧ validateRecordContent (.claimDelivery command) "claim_delivery" = .ok ()
      ∧ revisionKeyFits command.deliveryId command.expectedRevision
      ∧ isTimely repository command.runId command.deliveryId command.expectedRevision command.updatedAt
      ∧ ∀ delivery ∈ (revisionsOf repository command.runId).values,
        delivery.claimId ≠ some command.claimId
  | .beginDeliveryAttempt command, reply => wasCancelled reply = false
      ∧ validateRecordContent (.beginDeliveryAttempt command) "begin_delivery_attempt" = .ok ()
      ∧ revisionKeyFits command.deliveryId command.expectedRevision
      ∧ isTimely repository command.runId command.deliveryId command.expectedRevision command.updatedAt
      ∧ ∀ delivery ∈ (revisionsOf repository command.runId).values,
        delivery.attemptId ≠ some command.attemptId
  | .markDeliveryUnknown command, reply => wasCancelled reply = false
      ∧ validateRecordContent (.markDeliveryUnknown command) "mark_delivery_unknown" = .ok ()
      ∧ revisionKeyFits command.deliveryId command.expectedRevision
      ∧ isTimely repository command.runId command.deliveryId command.expectedRevision command.updatedAt
  | .delivery .., reply | .completeDelivery _, reply | .rejectDelivery _, reply
  | .recoverDeliveries .., reply | .deliver _, reply => wasCancelled reply = false

instance decidableFair (repository : Repository) (runId deliveryId : UUID4) :
    (request : WorkerRequest) → (reply : Except WorkerError request.Reply) →
    Decidable (request.Fair repository runId deliveryId reply)
  | .capabilities, .ok _ => inferInstance
  | .newId, .ok (.exact _) => instDecidableTrue
  | .newId, .ok .foreign | .newId, .ok .malformed | .newId, .error _ | .capabilities, .error _ =>
    instDecidableFalse
  | .claimDelivery _, _ | .beginDeliveryAttempt _, _ | .markDeliveryUnknown _, _ | .delivery .., _
  | .completeDelivery _, _ | .rejectDelivery _, _ | .recoverDeliveries .., _ | .deliver _, _ =>
    inferInstance

/-- A worker begins its attempt when the latest revision is not an attempt that another worker began
under the same claim. -/
@[reducible] def WorkerRequest.Unraced (repository : Repository) : WorkerRequest → Prop
  | .beginDeliveryAttempt command =>
    ∀ latest ∈ (repository command.runId).slot.projection.deliveries.get? command.deliveryId,
      ¬(latest.revision = command.expectedRevision + 1 ∧ latest.state = .attempting
        ∧ latest.attemptId ≠ some command.attemptId)
  | _ => True

instance decidableUnraced (repository : Repository) :
    (request : WorkerRequest) → Decidable (request.Unraced repository)
  | .beginDeliveryAttempt _ => inferInstance
  | .claimDelivery _ | .markDeliveryUnknown _ | .delivery .. | .completeDelivery _ | .rejectDelivery _
  | .recoverDeliveries .. | .deliver _ | .capabilities | .newId => instDecidableTrue

/-- The environment of a worker in a race: it answers fairly, and the runs of the repository grow. -/
def raceSetting (runId deliveryId : UUID4) :
    Program.Setting WorkerRequest WorkerRequest.Reply WorkerError Repository where
  answers repository request reply t := request.answers repository reply t
    ∧ request.Fair repository runId deliveryId reply ∧ request.Unraced repository
  rely repository t := repository.Live → t.Live ∧ OnEach (fun run u => run.slot.Keeps u.slot) repository t
  refl _ hlive := ⟨hlive, fun _ => .refl _⟩
  trans _ _ _ h h' hlive := by
    obtain ⟨hlive', hkeeps⟩ := h hlive
    obtain ⟨hlive'', hkeeps'⟩ := h' hlive'
    exact ⟨hlive'', fun id => (hkeeps id).trans (hkeeps' id)⟩

variable {repository t : Repository} {runId deliveryId : UUID4} {known : DeliveryRecord}

/-! ## What is known of a delivery -/

/-- A stored revision of the delivery. -/
structure Known (repository : Repository) (runId deliveryId : UUID4) (known : DeliveryRecord) : Prop where
  stored : (revisionsOf repository runId).get? (deliveryId, known.revision) = some known
  runId_eq : known.runId = runId
  deliveryId_eq : known.deliveryId = deliveryId

omit [Integrity] [Redactor] [Serialization] in
theorem Known.grows (h : Known repository runId deliveryId known)
    (hkeeps : OnEach (fun run u => run.slot.Keeps u.slot) repository t) :
    Known t runId deliveryId known where
  stored := (hkeeps runId).projection.deliveries h.stored
  runId_eq := h.runId_eq
  deliveryId_eq := h.deliveryId_eq

omit [Redactor] [Serialization] in
/-- A revision under the identity of a delivery is one of it. -/
theorem Known.of_stored (hlive : repository.Live) {n : ℕ}
    (h : (revisionsOf repository runId).get? (deliveryId, n) = some known) :
    Known repository runId deliveryId known := by
  have hslot := (hlive.live runId).settled.toReplays
  obtain ⟨hid, hrevision⟩ := hslot.deliveryInvariant.kept.key h
  have hrun : known.runId = runId :=
    ((hslot.owned.deliveries h).trans hslot.projection_runId).trans (hlive.runId runId)
  refine ⟨?_, hrun, hid⟩
  rw [show known.revision = n from hrevision]
  exact h

/-- A result reports a stored revision of the delivery. -/
structure Reports (repository : Repository) (runId deliveryId : UUID4) (result : DeliveryWorkerResult) :
    Prop where
  known : Known repository runId deliveryId result.delivery
  /-- It is built from that revision. -/
  built : ∃ reasonCode, DeliveryWorkerResult.fromDelivery result.delivery reasonCode = .ok result

/-- A call returns a result that reports a stored revision. -/
def Settles (runId deliveryId : UUID4) (result : Except WorkerError DeliveryWorkerResult)
    (repository : Repository) : Prop :=
  ∃ report, result = .ok report ∧ Reports repository runId deliveryId report

/-! ## Requests in a race -/

/-- A state that the repository grew into. -/
structure Grown (repository t : Repository) : Prop where
  live : t.Live
  keeps : OnEach (fun run u => run.slot.Keeps u.slot) repository t

omit [Redactor] [Serialization] in
theorem Grown.trans {u : Repository} (h : Grown repository t) (h' : Grown t u) : Grown repository u where
  live := h'.live
  keeps id := (h.keeps id).trans (h'.keeps id)

omit [Serialization] in
theorem Grown.of_continued (hlive : repository.Live) (h : OnEach Continued repository t) :
    Grown repository t where
  live := hlive.continued h
  keeps id := (h id).keeps (hlive.live id)

variable {α : Type} {post : Except WorkerError α → Repository → Prop}

/-- A request in a race: it is answered in a later state, fairly, and so is what follows. -/
theorem meets_ask_attempt (hlive : repository.Live) {request : WorkerRequest}
    {f : Except WorkerError request.Reply → Worker α}
    (h : ∀ later reply u, Grown repository later → request.answers later reply u →
      request.Fair later runId deliveryId reply → request.Unraced later → Grown repository u →
      (f reply).Meets (raceSetting runId deliveryId) post u) :
    (request.ask.attempt >>= f).Meets (raceSetting runId deliveryId) post repository := by
  refine Program.Meets.bind (Program.Meets.attempt (Program.Meets.request fun later hrely => ?_))
  obtain ⟨hlater, hkeeps⟩ := hrely hlive
  have hlater : Grown repository later := ⟨hlater, hkeeps⟩
  refine ⟨trivial, fun reply u hanswers v hv => ?_⟩
  obtain ⟨hanswers, hfair, hunraced⟩ := hanswers
  have hu : Grown repository u :=
    hlater.trans (.of_continued hlater.live (request.answers_continued hlater.live hanswers))
  exact (h later reply u hlater hanswers hfair hunraced hu).of_rely hv

/-- The same for a request whose error is raised. -/
theorem meets_ask (hlive : repository.Live) {request : WorkerRequest} {f : request.Reply → Worker α}
    (h : ∀ later a u, Grown repository later → request.answers later (.ok a) u →
      request.Fair later runId deliveryId (.ok a) → Grown repository u →
      (f a).Meets (raceSetting runId deliveryId) post u)
    (hraise : ∀ later e u, Grown repository later → request.answers later (.error e) u →
      request.Fair later runId deliveryId (.error e) → ∀ v, post (.error e) v) :
    (request.ask >>= f).Meets (raceSetting runId deliveryId) post repository := by
  refine Program.Meets.bind (Program.Meets.request fun later hrely => ?_)
  obtain ⟨hlater, hkeeps⟩ := hrely hlive
  have hlater : Grown repository later := ⟨hlater, hkeeps⟩
  refine ⟨trivial, fun reply u hanswers v hv => ?_⟩
  obtain ⟨hanswers, hfair, -⟩ := hanswers
  have hu : Grown repository u :=
    hlater.trans (.of_continued hlater.live (request.answers_continued hlater.live hanswers))
  cases reply with
  | ok a => exact (h later a u hlater hanswers hfair hu).of_rely hv
  | error e => exact hraise later e u hlater hanswers hfair v

/-- A program ends in a state that the repository grew into. -/
theorem meets_grown {program : Worker α} (hlive : repository.Live)
    (h : program.Meets (raceSetting runId deliveryId) post repository) :
    program.Meets (raceSetting runId deliveryId)
      (fun result t => post result t ∧ Grown repository t) repository := by
  have hgrown : ∀ (program : Worker α) (s : Repository), Grown repository s →
      program.Meets (raceSetting runId deliveryId) post s →
      program.Meets (raceSetting runId deliveryId)
        (fun result t => post result t ∧ Grown repository t) s := by
    intro program
    induction program with
    | done a =>
      intro s hs h t ht
      obtain ⟨hlive', hkeeps⟩ := ht hs.live
      exact ⟨h t ht, hs.trans ⟨hlive', hkeeps⟩⟩
    | raise e =>
      intro s hs h t ht
      obtain ⟨hlive', hkeeps⟩ := ht hs.live
      exact ⟨h t ht, hs.trans ⟨hlive', hkeeps⟩⟩
    | ask request next ih =>
      intro s hs h t ht
      obtain ⟨hlive', hkeeps⟩ := ht hs.live
      obtain ⟨hmay, hnext⟩ := h t ht
      refine ⟨hmay, fun reply u hu => ih reply u ?_ (hnext reply u hu)⟩
      have ht : Grown repository t := hs.trans ⟨hlive', hkeeps⟩
      exact ht.trans (.of_continued ht.live (request.answers_continued ht.live hu.1))
  exact hgrown program repository ⟨hlive, fun _ => .refl _⟩ h

/-! ## Results -/

namespace DeliveryWorker

omit [Hashing] [Integrity] [Redactor] [Serialization] in
/-- The reason of a delivered record is its success, and of no other record. -/
theorem reasonCode_of_state (delivery : DeliveryRecord) :
    (delivery.state = .delivered → delivery.reasonCode = some .deliverySucceeded)
      ∧ (delivery.state = .attempting → delivery.reasonCode = none)
      ∧ (delivery.state ≠ .delivered → delivery.reasonCode ≠ some .deliverySucceeded) := by
  have hstate := delivery.checks.2.2.2.2.2
  unfold DeliveryRecordFields.checkState DeliveryRecordFields.emptyResult at hstate
  cases hs : delivery.state with
  | pending | claimed | attempting =>
    have hnone : delivery.reasonCode = none := by
      simp only [hs, refuse_bind_eq_ok, refuse_eq_ok, not_or, not_not] at hstate
      simp_all
    rw [hnone]
    exact ⟨by simp, fun _ => rfl, by simp⟩
  | delivered =>
    simp only [hs, refuse_eq_ok, not_or, not_not] at hstate
    exact ⟨fun _ => hstate.2.2.2, by simp, fun hne => absurd rfl hne⟩
  | unknown | failed =>
    simp only [hs, refuse_eq_ok, not_or, not_not] at hstate
    rw [hstate.2.2.2]
    exact ⟨by simp, by simp, by simp⟩
  | rejected =>
    refine ⟨by simp, by simp, fun _ hsucceeded => ?_⟩
    simp only [hs, refuse_eq_ok, not_or, hsucceeded] at hstate
    exact absurd hstate.2.2.2.1 (by decide)

omit [Hashing] [Integrity] [Redactor] [Serialization] in
/-- The result of a record, with the reason that belongs to its state. -/
theorem exists_fromDelivery (delivery : DeliveryRecord) (reasonCode : Option ReasonCode)
    (h : ∀ reason ∈ reasonCode, delivery.state = .attempting ∧ reason = .deliveryUnknown) :
    ∃ result, DeliveryWorkerResult.fromDelivery delivery reasonCode = .ok result
      ∧ result.delivery = delivery := by
  obtain ⟨hdelivered, hattempting, hother⟩ := reasonCode_of_state delivery
  have hreason : (delivery.state = .delivered →
        DeliveryWorkerResult.reasonOf delivery reasonCode = .deliverySucceeded)
      ∧ (delivery.state ≠ .delivered →
        DeliveryWorkerResult.reasonOf delivery reasonCode ≠ .deliverySucceeded)
      ∧ ∀ reason ∈ delivery.reasonCode, DeliveryWorkerResult.reasonOf delivery reasonCode = reason := by
    unfold DeliveryWorkerResult.reasonOf
    cases reasonCode with
    | some reason =>
      obtain ⟨hstate, rfl⟩ := h reason rfl
      simp [hstate, hattempting hstate]
    | none =>
      cases hown : delivery.reasonCode with
      | none =>
        rw [hown] at hdelivered
        refine ⟨fun hstate => absurd (hdelivered hstate) (by simp), fun _ => ?_, by simp⟩
        show (if delivery.state = .attempting then ReasonCode.deliveryUnknown else .targetUnavailable) ≠ _
        split <;> simp
      | some reason =>
        rw [hown] at hdelivered hother
        exact ⟨fun hstate => Option.some.inj (hdelivered hstate), fun hstate heq =>
          hother hstate (congrArg some heq), fun found hfound => Option.some.inj hfound⟩
  have hcheck : (DeliveryWorkerResult.fieldsOf delivery reasonCode).check = .ok () := by
    unfold DeliveryWorkerResultFields.check
    simp only [refuse_bind_eq_ok, refuse_eq_ok, not_and, not_or, not_not, not_exists]
    exact ⟨⟨rfl, rfl⟩, fun hstate => hreason.1 (of_decide_eq_true hstate), fun hstate =>
      hreason.2.1 (of_decide_eq_false hstate), fun reason hmem => hreason.2.2 reason hmem⟩
  exact ⟨_, validate_self hcheck, rfl⟩

variable {post : Except WorkerError DeliveryWorkerResult → Repository → Prop}
  (hpost : ∀ report t, Reports t runId deliveryId report → post (.ok report) t)

include hpost

/-- The result of a known revision reports it. -/
theorem meets_resultOf (hlive : repository.Live) (hknown : Known repository runId deliveryId known)
    {reasonCode : Option ReasonCode}
    (hreason : ∀ reason ∈ reasonCode, known.state = .attempting ∧ reason = .deliveryUnknown) :
    (resultOf known reasonCode).Meets (raceSetting runId deliveryId) post repository := by
  obtain ⟨result, hresult, hdelivery⟩ := exists_fromDelivery known reasonCode hreason
  unfold resultOf
  rw [hresult]
  refine Program.Meets.lift fun t hrely => ?_
  obtain ⟨-, hkeeps⟩ := hrely hlive
  refine hpost result t ⟨?_, reasonCode, ?_⟩
  · rw [hdelivery]
    exact hknown.grows hkeeps
  · rw [hdelivery]
    exact hresult

omit hpost [Redactor] [Serialization] in
/-- A known delivery is found, at its latest revision. -/
theorem delivery_eq (hlive : repository.Live) (hknown : Known repository runId deliveryId known) :
    ∃ latest, SalienceGate.delivery (.exact runId) (.exact deliveryId) repository = .ok latest repository
      ∧ Known repository runId deliveryId latest := by
  have hrun := hlive.live runId
  have hkept := hrun.settled.deliveryInvariant.kept
  obtain ⟨latest, hlatest, -⟩ := hkept.exists_latest hknown.stored
  have hhead : (repository runId).slot.ledgerHead ≠ none := by
    intro hnone
    have hledger := hrun.settled.vacant.mp hnone
    have hreplayed := hrun.settled.replayed
    rw [hledger, foldlM_nil_eq_ok] at hreplayed
    have hempty := congrArg (fun replayed : Replayed => replayed.projection.deliveryHistory) hreplayed
    have hstored := hknown.stored
    rw [revisionsOf, show (repository runId).slot.projection.deliveryHistory = .empty from hempty.symm]
      at hstored
    cases hstored
  have hlocked : deliveryLocked deliveryId (repository runId) = .ok latest (repository runId) := by
    unfold deliveryLocked
    rw [get_bind, lift_bind_of_ok (hrun.acquireSlot_eq hhead),
      lift_bind_of_ok (hrun.verifyHead_eq hhead true)]
    exact lift_eq_ok.mpr ⟨expect_eq_ok.mpr hlatest, rfl⟩
  refine ⟨latest, ?_, .of_stored hlive (hkept.stored hlatest)⟩
  have hmethod := onRun_of_ok hlocked
  rw [Function.update_eq_self] at hmethod
  exact hmethod

omit hpost [Integrity] [Redactor] [Serialization] in
/-- A request that is not cancelled is answered by its method. -/
theorem answered_eq {method : RepositoryM α} {reply : Except WorkerError α}
    (h : Answered method repository reply t) (hfair : wasCancelled reply = false) :
    (∃ a, reply = .ok a ∧ method repository = .ok a t)
      ∨ ∃ error, reply = .error (.repository error) ∧ method repository = .error error t := by
  cases h with
  | returned a _ h => exact .inl ⟨a, rfl, h⟩
  | raised error _ h => exact .inr ⟨error, rfl, h⟩
  | cancelled | cancelledLater => cases hfair

omit hpost in
/-- Reading the current revision gives a known one. -/
theorem meets_current_bind {f : DeliveryRecord → Worker DeliveryWorkerResult} (hlive : repository.Live)
    (hknown : Known repository runId deliveryId known)
    (h : ∀ t latest, Grown repository t → Known t runId deliveryId latest →
      (f latest).Meets (raceSetting runId deliveryId) post t) :
    (current runId deliveryId >>= f).Meets (raceSetting runId deliveryId) post repository := by
  have hreply : ∀ later reply u, Grown repository later →
      (WorkerRequest.delivery runId deliveryId).answers later reply u →
      (WorkerRequest.delivery runId deliveryId).Fair later runId deliveryId reply →
      ∃ latest, reply = .ok (.exact latest) ∧ Known later runId deliveryId latest ∧ u = later := by
    intro later reply u hlater hanswers hfair
    obtain ⟨latest, hlatest, hfound⟩ := delivery_eq hlater.live (hknown.grows hlater.keeps)
    have hmethod : (Argument.exact <$> SalienceGate.delivery (.exact runId) (.exact deliveryId)) later
        = .ok (Argument.exact latest) later := map_eq_ok.mpr ⟨latest, hlatest, rfl⟩
    rcases answered_eq hanswers hfair with ⟨a, rfl, ha⟩ | ⟨error, -, herror⟩
    · cases hmethod.symm.trans ha
      exact ⟨latest, rfl, hfound, rfl⟩
    · cases hmethod.symm.trans herror
  unfold current
  refine Program.Meets.bind ?_
  refine meets_ask hlive (fun later a u hlater hanswers hfair hu => ?_)
    fun later e u hlater hanswers hfair => ?_
  · obtain ⟨latest, ha, hfound, rfl⟩ := hreply later (.ok a) u hlater hanswers hfair
    cases ha
    exact Program.Meets.done fun v hv => (h u latest hu hfound).of_rely hv
  · obtain ⟨latest, ha, -⟩ := hreply later (.error e) u hlater hanswers hfair
    cases ha

/-- The current result reports the latest revision. -/
theorem meets_currentResult (hlive : repository.Live) (hknown : Known repository runId deliveryId known) :
    (currentResult runId deliveryId).Meets (raceSetting runId deliveryId) post repository :=
  meets_current_bind hlive hknown fun _ _ hgrown hlatest =>
    meets_resultOf hpost hgrown.live hlatest fun _ hnone => by cases hnone

end DeliveryWorker

/-! ## Commands in a race -/

omit [Serialization] in
/-- A command of a run that returns a receipt makes a known revision. -/
theorem Known.of_took (hlive : repository.Live) {rule : DeliveryRule} {u : RunState}
    (hcontinued : Continued (repository runId) u) {record : DeliveryRecord}
    {stored receipt : DeliveryTransitionReceipt} (htook : rule.Took u.slot record stored)
    (hreceipt : stored.repeated = receipt.repeated) :
    Known (Function.update repository runId u) runId rule.deliveryId receipt.delivery := by
  have hu : u.Live := hcontinued.live (hlive.live runId)
  have hslot := hu.settled.toReplays
  have hdelivery : receipt.delivery = record := by
    have hsame : stored.repeated.delivery = receipt.repeated.delivery :=
      congrArg DeliveryTransitionReceipt.delivery hreceipt
    exact hsame.symm.trans (hslot.receipt_delivery htook.stored)
  have hhistory : u.slot.projection.deliveryHistory.get? (rule.deliveryId, rule.expectedRevision + 1)
      = some receipt.delivery := by
    rw [hslot.deliveryRecords_get?, htook.stored, hdelivery]
    rfl
  have hrun : u.slot.runId = runId := hcontinued.runId_eq.trans (hlive.runId runId)
  obtain ⟨hid, hrevision⟩ := hslot.deliveryInvariant.kept.key hhistory
  refine ⟨?_, ((hslot.owned.deliveries hhistory).trans hslot.projection_runId).trans hrun, hid⟩
  unfold revisionsOf
  rw [Function.update_self, show receipt.delivery.revision = rule.expectedRevision + 1 from hrevision]
  exact hhistory

omit [Serialization] in
theorem known_of_transitionLocked (hlive : repository.Live) {rule : DeliveryRule} (hrule : rule.Advances)
    {receipt : DeliveryTransitionReceipt}
    (h : onRun runId (transitionLocked rule) repository = .ok receipt t) :
    Known t runId rule.deliveryId receipt.delivery := by
  obtain ⟨u, hu, rfl⟩ := onRun_eq_ok.mp h
  have hrun := hlive.live runId
  have hcontinued : Continued (repository runId) u :=
    ((transitionLocked_endsIn hrun hrule).ok receipt u hu).continued
  obtain ⟨-, record, stored, htook, hreceipt⟩ :=
    transitionLocked_took hrun hrule hu (hcontinued.keeps hrun)
  exact .of_took hlive hcontinued htook hreceipt

omit [Serialization] in
theorem known_of_beginAttemptLocked (hlive : repository.Live) {rule : DeliveryRule}
    (hrule : rule.Advances) {receipt : DeliveryAttemptReceipt}
    (h : onRun runId (beginAttemptLocked rule) repository = .ok receipt t) :
    Known t runId rule.deliveryId receipt.delivery := by
  obtain ⟨u, hu, rfl⟩ := onRun_eq_ok.mp h
  have hrun := hlive.live runId
  have hcontinued : Continued (repository runId) u :=
    ((beginAttemptLocked_endsIn hrun hrule).ok receipt u hu).continued
  obtain ⟨-, record, stored, htook, hreceipt⟩ :=
    beginAttemptLocked_took hrun hrule hu (hcontinued.keeps hrun)
  exact .of_took hlive hcontinued htook hreceipt

/-- A conflict of revisions. -/
def RepositoryError.isConflict : RepositoryError → Bool
  | .deliveryRevisionConflict _ _ => true
  | _ => false

omit [Integrity] [Redactor] [Serialization] in
/-- A part of a method that returns or conflicts makes a method that returns or conflicts. -/
theorem onRun_cases {α : Type} {x : RunM α} {expected : ℕ}
    (h : (∃ a u, x (repository runId) = .ok a u) ∨ ∃ actual u, x (repository runId)
      = .error (.deliveryRevisionConflict expected actual) u) :
    (∃ a t, onRun runId x repository = .ok a t)
      ∨ ∃ e t, onRun runId x repository = .error e t ∧ e.isConflict = true := by
  rcases h with ⟨a, u, h⟩ | ⟨actual, u, h⟩
  · exact .inl ⟨a, _, onRun_of_ok h⟩
  · refine .inr ⟨.deliveryRevisionConflict expected actual, Function.update repository runId u, ?_, rfl⟩
    unfold onRun Stateful.zoom
    rw [h]

/-- A fair claim returns a receipt of a known revision, or loses the race. -/
theorem claimDelivery_cases (hlive : repository.Live) {command : ClaimDelivery}
    (hrun : command.runId = runId) (hid : command.deliveryId = deliveryId)
    (hexpected : command.expectedRevision = known.revision)
    (hknown : Known repository runId deliveryId known)
    (hstate : known.state = .pending ∨ known.state = .unknown)
    (hretry : known.state = .unknown → known.adapterDeduplicates = true)
    {reply : Except WorkerError (Argument DeliveryTransitionReceipt)}
    (hanswers : (WorkerRequest.claimDelivery command).answers repository reply t)
    (hfair : (WorkerRequest.claimDelivery command).Fair repository runId deliveryId reply) :
    (∃ receipt, reply = .ok (.exact receipt) ∧ Known t runId deliveryId receipt.delivery)
      ∨ ∃ e : RepositoryError, reply = .error (.repository e) ∧ e.isConflict = true := by
  subst hrun hid
  obtain ⟨hcancelled, hcontent, hkey, htimely, hfresh⟩ := hfair
  have hstored := hknown.stored
  rw [← hexpected] at hstored
  have hready : command.rule.Ready (repository command.runId).slot known :=
    command.ready hstored hstate hretry (htimely known hstored) hfresh hkey
  have hmethod : SalienceGate.claimDelivery (.exact command) repository
      = onRun command.runId (transitionLocked command.rule) repository := by
    unfold SalienceGate.claimDelivery
    have hvalidated : validateCommand "claim_delivery" (.exact command) = .ok command := rfl
    rw [lift_bind_of_ok hvalidated, lift_bind_of_ok hcontent]
  rcases DeliveryWorker.answered_eq hanswers hcancelled with ⟨a, rfl, ha⟩ | ⟨error, rfl, herror⟩
  · obtain ⟨receipt, hreceipt, rfl⟩ := map_eq_ok.mp ha
    rw [hmethod] at hreceipt
    exact .inl ⟨receipt, rfl, known_of_transitionLocked hlive command.advances hreceipt⟩
  · have herror := map_eq_error.mp herror
    rw [hmethod] at herror
    rcases onRun_cases (hready.transitionLocked_cases (hlive.live _)) with ⟨a, u, hok⟩ | ⟨e, u, he, hconflict⟩
    · cases hok.symm.trans herror
    · cases he.symm.trans herror
      exact .inr ⟨error, rfl, hconflict⟩

/-- A fair beginning of an attempt without the one race returns a receipt of a known revision, or
loses a race. -/
theorem beginDeliveryAttempt_cases (hlive : repository.Live) {command : BeginDeliveryAttempt}
    (hrun : command.runId = runId) (hid : command.deliveryId = deliveryId)
    (hexpected : command.expectedRevision = known.revision)
    (hknown : Known repository runId deliveryId known)
    (hstate : known.state = .claimed) (hclaim : known.claimId = some command.claimId)
    (htarget : known.target = .preActionReplan → known.adapterSupportsPreAction = true)
    {reply : Except WorkerError (Argument DeliveryAttemptReceipt)}
    (hanswers : (WorkerRequest.beginDeliveryAttempt command).answers repository reply t)
    (hfair : (WorkerRequest.beginDeliveryAttempt command).Fair repository runId deliveryId reply)
    (hunraced : (WorkerRequest.beginDeliveryAttempt command).Unraced repository) :
    (∃ receipt, reply = .ok (.exact receipt) ∧ Known t runId deliveryId receipt.delivery)
      ∨ ∃ e : RepositoryError, reply = .error (.repository e) ∧ e.isConflict = true := by
  subst hrun hid
  obtain ⟨hcancelled, hcontent, hkey, htimely, hfresh⟩ := hfair
  have hstored := hknown.stored
  rw [← hexpected] at hstored
  have hready : command.rule.Ready (repository command.runId).slot known :=
    command.ready hstored hstate hclaim htarget (htimely known hstored) hfresh hunraced hkey
  have hmethod : SalienceGate.beginDeliveryAttempt (.exact command) repository
      = onRun command.runId (beginAttemptLocked command.rule) repository := by
    unfold SalienceGate.beginDeliveryAttempt
    have hvalidated : validateCommand "begin_delivery_attempt" (.exact command) = .ok command := rfl
    rw [lift_bind_of_ok hvalidated, lift_bind_of_ok hcontent]
  rcases DeliveryWorker.answered_eq hanswers hcancelled with ⟨a, rfl, ha⟩ | ⟨error, rfl, herror⟩
  · obtain ⟨receipt, hreceipt, rfl⟩ := map_eq_ok.mp ha
    rw [hmethod] at hreceipt
    exact .inl ⟨receipt, rfl, known_of_beginAttemptLocked hlive command.advances hreceipt⟩
  · have herror := map_eq_error.mp herror
    rw [hmethod] at herror
    rcases onRun_cases (hready.beginAttemptLocked_cases (hlive.live _) rfl) with
      ⟨a, u, hok⟩ | ⟨e, u, he, hconflict⟩
    · cases hok.symm.trans herror
    · cases he.symm.trans herror
      exact .inr ⟨error, rfl, hconflict⟩

/-- The owner of an attempt marks it unknown, or loses a race. -/
theorem markDeliveryUnknown_cases (hlive : repository.Live) {command : MarkDeliveryUnknown}
    (hrun : command.runId = runId) (hid : command.deliveryId = deliveryId)
    (hexpected : command.expectedRevision = known.revision)
    (hknown : Known repository runId deliveryId known) (hstate : known.state = .attempting)
    (hclaim : known.claimId = some command.claimId)
    (hattempt : known.attemptId = some command.attemptId)
    {reply : Except WorkerError DeliveryTransitionReceipt}
    (hanswers : (WorkerRequest.markDeliveryUnknown command).answers repository reply t)
    (hfair : (WorkerRequest.markDeliveryUnknown command).Fair repository runId deliveryId reply) :
    (∃ receipt, reply = .ok receipt ∧ Known t runId deliveryId receipt.delivery)
      ∨ ∃ e : RepositoryError, reply = .error (.repository e) ∧ e.isConflict = true := by
  subst hrun hid
  obtain ⟨hcancelled, hcontent, hkey, htimely⟩ := hfair
  have hstored := hknown.stored
  rw [← hexpected] at hstored
  have hready : command.rule.Ready (repository command.runId).slot known :=
    command.ready hstored hstate hclaim hattempt (htimely known hstored) hkey
  have hmethod : SalienceGate.markDeliveryUnknown (.exact command) repository
      = onRun command.runId (transitionLocked command.rule) repository := by
    unfold SalienceGate.markDeliveryUnknown
    have hvalidated : validateCommand "mark_delivery_unknown" (.exact command) = .ok command := rfl
    rw [lift_bind_of_ok hvalidated, lift_bind_of_ok hcontent]
  rcases DeliveryWorker.answered_eq hanswers hcancelled with ⟨receipt, rfl, hreceipt⟩ | ⟨error, rfl, herror⟩
  · have hreceipt := hmethod.symm.trans hreceipt
    exact .inl ⟨receipt, rfl, known_of_transitionLocked hlive command.advances hreceipt⟩
  · have herror := hmethod.symm.trans herror
    rcases onRun_cases (hready.transitionLocked_cases (hlive.live _)) with ⟨a, u, hok⟩ | ⟨e, u, he, hconflict⟩
    · cases hok.symm.trans herror
    · cases he.symm.trans herror
      exact .inr ⟨error, rfl, hconflict⟩

/-- A completion that returns a receipt returns one of a known revision, and is not cancelled. -/
theorem completeDelivery_cases (hlive : repository.Live) {command : CompleteDelivery}
    (hrun : command.runId = runId) (hid : command.deliveryId = deliveryId)
    {reply : Except WorkerError DeliveryTransitionReceipt}
    (hanswers : (WorkerRequest.completeDelivery command).answers repository reply t)
    (hfair : (WorkerRequest.completeDelivery command).Fair repository runId deliveryId reply) :
    (∃ receipt, reply = .ok receipt ∧ Known t runId deliveryId receipt.delivery)
      ∨ ∃ e : RepositoryError, reply = .error (.repository e) := by
  subst hrun hid
  rcases DeliveryWorker.answered_eq hanswers hfair with ⟨receipt, rfl, hreceipt⟩ | ⟨error, rfl, -⟩
  · refine .inl ⟨receipt, rfl, ?_⟩
    have hreceipt : SalienceGate.completeDelivery (.exact command) repository = .ok receipt t := hreceipt
    unfold SalienceGate.completeDelivery at hreceipt
    obtain ⟨validated, hvalidated, hreceipt⟩ := lift_bind_eq_ok.mp hreceipt
    cases hvalidated
    obtain ⟨-, hreceipt⟩ := Stateful.check_bind_eq_ok.mp hreceipt
    exact known_of_transitionLocked hlive command.advances hreceipt
  · exact .inr ⟨error, rfl⟩

/-! ## The stages of a delivery -/

namespace DeliveryWorker

variable {post : Except WorkerError DeliveryWorkerResult → Repository → Prop}
  (hpost : ∀ report t, Reports t runId deliveryId report → post (.ok report) t) {now : UtcDatetime}

include hpost

omit hpost in
/-- What follows a lost race, or a command that was not lost. -/
theorem meets_unlessConflict (hlive : repository.Live) {request : WorkerRequest}
    {lost : Worker DeliveryWorkerResult} {next : request.Reply → Worker DeliveryWorkerResult}
    (hknown : Known repository runId deliveryId known)
    (hlost : ∀ u, Grown repository u → Known u runId deliveryId known →
      lost.Meets (raceSetting runId deliveryId) post u)
    (hcases : ∀ later reply u, Grown repository later → Grown repository u →
      request.answers later reply u → request.Fair later runId deliveryId reply → request.Unraced later →
      (∃ a, reply = .ok a ∧ (next a).Meets (raceSetting runId deliveryId) post u)
        ∨ ∃ e : RepositoryError, reply = .error (.repository e)
          ∧ (e.isConflict = true ∨ ∀ v, post (.error (.repository e)) v)) :
    (unlessConflict request.ask lost next).Meets (raceSetting runId deliveryId) post repository := by
  unfold unlessConflict
  refine meets_ask_attempt hlive fun later reply u hlater hanswers hfair hunraced hu => ?_
  rcases hcases later reply u hlater hu hanswers hfair hunraced with ⟨a, rfl, ha⟩ | ⟨e, rfl, he⟩
  · exact ha
  · have hlost := hlost u hu (hknown.grows hu.keeps)
    rcases he with hconflict | hraised
    · cases e with
      | deliveryRevisionConflict expected actual => exact hlost
      | _ => cases hconflict
    · cases e with
      | deliveryRevisionConflict expected actual => exact hlost
      | _ => exact Program.Meets.raise fun v _ => hraised v

/-- An attempt of its owner is marked unknown, or reported as it is. -/
theorem meets_unknown (hlive : repository.Live) (hknown : Known repository runId deliveryId known)
    (hstate : known.state = .attempting) :
    (unknown known now).Meets (raceSetting runId deliveryId) post repository := by
  obtain ⟨-, hclaim, hattempt⟩ := known.attempted_of_attempting hstate
  obtain ⟨claimId, hclaimId⟩ := Option.ne_none_iff_exists'.mp hclaim
  obtain ⟨attemptId, hattemptId⟩ := Option.ne_none_iff_exists'.mp hattempt
  unfold unknown
  rw [hclaimId, hattemptId]
  show (unlessConflict _ _ _).Meets _ _ _
  refine meets_unlessConflict hlive hknown (fun u hu hfound => ?_)
    fun later reply u hlater hu hanswers hfair _ => ?_
  · rw [hknown.runId_eq, hknown.deliveryId_eq]
    exact meets_currentResult hpost hu.live hfound
  · rcases markDeliveryUnknown_cases hlater.live hknown.runId_eq hknown.deliveryId_eq rfl
      (hknown.grows hlater.keeps) hstate hclaimId hattemptId hanswers hfair with
      ⟨receipt, rfl, hmade⟩ | ⟨e, rfl, hconflict⟩
    · exact .inl ⟨receipt, rfl, meets_resultOf hpost hu.live hmade fun _ hnone => by cases hnone⟩
    · exact .inr ⟨e, rfl, .inl hconflict⟩

omit hpost in
/-- A completion reports a known revision, or raises, but is not cancelled. -/
theorem meets_complete (hlive : repository.Live) (hknown : Known repository runId deliveryId known)
    (hstate : known.state = .attempting) {completion : Completion} :
    (complete completion known now).Meets (raceSetting runId deliveryId)
      (fun result t => (∃ report, result = .ok report ∧ Reports t runId deliveryId report)
        ∨ ∃ e, result = .error e ∧ e ≠ .cancelled) repository := by
  obtain ⟨-, hclaim, hattempt⟩ := known.attempted_of_attempting hstate
  obtain ⟨claimId, hclaimId⟩ := Option.ne_none_iff_exists'.mp hclaim
  obtain ⟨attemptId, hattemptId⟩ := Option.ne_none_iff_exists'.mp hattempt
  have hreport : ∀ report t, Reports t runId deliveryId report →
      (∃ found, (.ok report : Except WorkerError DeliveryWorkerResult) = .ok found
        ∧ Reports t runId deliveryId found)
        ∨ ∃ e, (.ok report : Except WorkerError DeliveryWorkerResult) = .error e ∧ e ≠ .cancelled :=
    fun report _ h => .inl ⟨report, rfl, h⟩
  unfold complete
  rw [hclaimId, hattemptId]
  show (unlessConflict _ _ _).Meets _ _ _
  refine meets_unlessConflict hlive hknown (fun u hu hfound => ?_)
    fun later reply u hlater hu hanswers hfair _ => ?_
  · -- an attempt that was marked unknown meanwhile is completed after that revision
    unfold completeAgain
    rw [hknown.runId_eq, hknown.deliveryId_eq]
    refine meets_current_bind hu.live hfound fun v latest hv hlatest => ?_
    split
    · refine meets_ask hv.live (fun later completed w hlater hanswers hfair hw => ?_)
        fun later e w hlater hanswers hfair z => ?_
      · rcases completeDelivery_cases hlater.live hknown.runId_eq hknown.deliveryId_eq hanswers hfair
          with ⟨receipt, hreceipt, hmade⟩ | ⟨e, he⟩
        · cases hreceipt
          exact meets_resultOf hreport hw.live hmade fun _ hnone => by cases hnone
        · cases he
      · rcases completeDelivery_cases hlater.live hknown.runId_eq hknown.deliveryId_eq hanswers hfair
          with ⟨receipt, hreceipt, -⟩ | ⟨error, he⟩
        · cases hreceipt
        · cases he
          exact .inr ⟨_, rfl, by simp⟩
    · exact meets_resultOf hreport hv.live hlatest fun _ hnone => by cases hnone
  · rcases completeDelivery_cases hlater.live hknown.runId_eq hknown.deliveryId_eq hanswers hfair with
      ⟨receipt, rfl, hmade⟩ | ⟨e, rfl⟩
    · exact .inl ⟨receipt, rfl, meets_resultOf hreport hu.live hmade fun _ hnone => by cases hnone⟩
    · exact .inr ⟨e, rfl, .inr fun _ => .inr ⟨_, rfl, by simp⟩⟩

/-- A completion that raises marks the attempt unknown. -/
theorem meets_completeOrUnknown (hlive : repository.Live)
    (hknown : Known repository runId deliveryId known) (hstate : known.state = .attempting)
    {completion : Completion} :
    (completeOrUnknown completion known now).Meets (raceSetting runId deliveryId) post repository := by
  have hcomplete : (complete completion known now).Meets (raceSetting runId deliveryId) _ repository :=
    meets_grown hlive (meets_complete hlive hknown hstate)
  unfold completeOrUnknown
  refine Program.Meets.bind (Program.Meets.attempt (hcomplete.mono fun result t hresult => ?_))
  obtain ⟨hresult, hgrown⟩ := hresult
  rcases hresult with ⟨report, rfl, hreport⟩ | ⟨e, rfl, hcancelled⟩
  · refine Program.Meets.done fun u hrely => hpost report u ?_
    obtain ⟨-, hkeeps⟩ := hrely hgrown.live
    exact ⟨hreport.known.grows hkeeps, hreport.built⟩
  · have hunknown : (unknown known now).Meets (raceSetting runId deliveryId) post t :=
      meets_unknown hpost hgrown.live (hknown.grows hgrown.keeps) hstate
    cases e with
    | cancelled => exact absurd rfl hcancelled
    | _ => exact hunknown

/-- The call of the adapter, and what follows from its answer. -/
theorem meets_inject (hlive : repository.Live) (hknown : Known repository runId deliveryId known)
    (hstate : known.state = .attempting) {envelope : DeliveryEnvelope} :
    (inject known envelope now).Meets (raceSetting runId deliveryId) post repository := by
  unfold inject
  refine meets_ask_attempt hlive fun later reply u hlater hanswers hfair _ hu => ?_
  have hfound := hknown.grows hu.keeps
  cases reply with
  | error e =>
    cases e with
    | cancelled => cases hfair
    | adapterFailed => exact meets_completeOrUnknown hpost hu.live hfound hstate
    | _ => exact meets_unknown hpost hu.live hfound hstate
  | ok untrusted =>
    dsimp only
    split
    · exact meets_unknown hpost hu.live hfound hstate
    · exact meets_completeOrUnknown hpost hu.live hfound hstate

/-- What follows from the receipt of an attempt. -/
theorem meets_attempted (hlive : repository.Live) {receipt : DeliveryAttemptReceipt}
    (hmade : Known repository runId deliveryId receipt.delivery) {claimId attemptId : UUID4}
    {mapping : InjectionMapping} :
    (attempted known claimId attemptId mapping now runId deliveryId (.exact receipt)).Meets
      (raceSetting runId deliveryId) post repository := by
  have hresult : (resultOf receipt.delivery).Meets (raceSetting runId deliveryId) post repository :=
    meets_resultOf hpost hlive hmade fun _ hnone => by cases hnone
  have hcurrent : (currentResult runId deliveryId).Meets (raceSetting runId deliveryId) post repository :=
    meets_currentResult hpost hlive hmade
  simp only [attempted]
  split
  · exact hresult
  · split
    · exact hresult
    · split
      · exact hcurrent
      · next hfollows =>
        have hstate : receipt.delivery.state = .attempting := (not_not.mp hfollows).state_eq
        split
        · exact hcurrent
        · split
          · exact meets_unknown hpost hlive hmade hstate
          · exact meets_inject hpost hlive hmade hstate

omit hpost in
/-- A new identity, and what follows. -/
theorem meets_newId_bind (hlive : repository.Live) {f : UUID4 → Worker DeliveryWorkerResult}
    (h : ∀ u id, Grown repository u → (f id).Meets (raceSetting runId deliveryId) post u) :
    (newId >>= f).Meets (raceSetting runId deliveryId) post repository := by
  unfold newId
  refine Program.Meets.bind ?_
  refine meets_ask hlive (fun later made u hlater hanswers hfair hu => ?_)
    fun later e u _ _ hfair => by cases hfair
  cases made with
  | foreign | malformed => cases hfair
  | exact id => exact Program.Meets.lift fun v hv => (h u id hu).of_rely hv

/-- The beginning of an attempt under a known claim. -/
theorem meets_beginAttempt (hlive : repository.Live) (hknown : Known repository runId deliveryId known)
    (hstate : known.state = .claimed) {claimId : UUID4} (hclaim : known.claimId = some claimId)
    (htarget : known.target = .preActionReplan → known.adapterSupportsPreAction = true)
    {mapping : InjectionMapping} :
    (beginAttempt known claimId mapping now runId deliveryId).Meets (raceSetting runId deliveryId) post
      repository := by
  unfold beginAttempt
  refine meets_newId_bind hlive fun u attemptId hu => ?_
  refine meets_ask_attempt hu.live fun later reply v hlater hanswers hfair hunraced hv => ?_
  have hlaterKnown := hknown.grows (hu.trans hlater).keeps
  have hfound := hknown.grows (hu.trans hv).keeps
  rcases beginDeliveryAttempt_cases hlater.live rfl rfl rfl hlaterKnown hstate hclaim htarget hanswers
    hfair hunraced with ⟨receipt, rfl, hmade⟩ | ⟨e, rfl, hconflict⟩
  · exact meets_attempted hpost hv.live hmade
  · cases e with
    | deliveryRevisionConflict expected actual => exact meets_currentResult hpost hv.live hfound
    | _ => cases hconflict

/-- The attempt of a delivery that is claimed, for an adapter that supports its target. -/
theorem meets_attemptClaimed (hlive : repository.Live)
    (hknown : Known repository runId deliveryId known)
    (htarget : known.target = .preActionReplan → known.adapterSupportsPreAction = true)
    {mapping : InjectionMapping} :
    (attemptClaimed known mapping now runId deliveryId).Meets (raceSetting runId deliveryId) post
      repository := by
  unfold attemptClaimed
  split
  · next claimId hstate hclaim => exact meets_beginAttempt hpost hlive hknown hstate hclaim htarget
  · exact meets_resultOf hpost hlive hknown fun _ hnone => by cases hnone

/-- The claim of a delivery that is pending or retryable, and its attempt. -/
theorem meets_claimAndAttempt (hlive : repository.Live)
    (hknown : Known repository runId deliveryId known)
    (hstate : known.state = .pending ∨ known.state = .unknown)
    (hretry : known.state = .unknown → known.adapterDeduplicates = true)
    (htarget : known.target = .preActionReplan → known.adapterSupportsPreAction = true)
    {mapping : InjectionMapping} :
    (claimAndAttempt known mapping now runId deliveryId).Meets (raceSetting runId deliveryId) post
      repository := by
  unfold claimAndAttempt
  refine meets_newId_bind hlive fun u claimId hu => ?_
  refine meets_unlessConflict hu.live (hknown.grows hu.keeps)
    (fun v hv hfound => meets_currentResult hpost hv.live hfound)
    fun later reply v hlater hv hanswers hfair _ => ?_
  rcases claimDelivery_cases hlater.live rfl rfl rfl (hknown.grows (hu.trans hlater).keeps) hstate hretry
    hanswers hfair with ⟨receipt, rfl, hmade⟩ | ⟨e, rfl, hconflict⟩
  · refine .inl ⟨_, rfl, ?_⟩
    simp only [claimed]
    split
    · exact meets_currentResult hpost hv.live hmade
    · next hfollows =>
      -- the claim has the target of the delivery
      have hbinding := (not_not.mp (not_or.mp hfollows).2).binding
      refine meets_attemptClaimed hpost hv.live hmade ?_
      rw [hbinding.2.2.2.2.1, hbinding.2.2.2.2.2.2.2.2.1]
      exact htarget
  · exact .inr ⟨e, rfl, .inl hconflict⟩

omit hpost [Integrity] [Redactor] [Serialization] in
/-- An adapter with a mapping for a delivery intercepts actions if the delivery needs that. -/
theorem supportsPreAction_of_mapping {declared : DeclaredCapabilities} {mapping : InjectionMapping}
    (h : acceptedMapping declared known = .ok mapping) :
    known.target = .preActionReplan → known.adapterSupportsPreAction = true := by
  intro htarget
  unfold acceptedMapping at h
  obtain ⟨capabilities, hcapabilities, h⟩ := Checked.bind_eq_ok.mp h
  obtain ⟨selected, hselected, -⟩ := Checked.bind_eq_ok.mp h
  unfold acceptedCapabilities at hcapabilities
  obtain ⟨validated, -, hcapabilities⟩ := Checked.bind_eq_ok.mp hcapabilities
  rw [Checked.raiseIf_bind_eq_ok, not_not] at hcapabilities
  obtain ⟨hfor, hsame⟩ := hcapabilities
  cases pure_eq_ok.mp hsame
  unfold selectInjectionMapping at hselected
  rw [Checked.raiseIf_bind_eq_ok, not_and, Bool.not_eq_false] at hselected
  rw [← hfor.2.2.2.1]
  exact hselected.1 htarget

/-- The delivery of a revision that may be attempted. -/
theorem meets_deliverCurrent (hlive : repository.Live)
    (hknown : Known repository runId deliveryId known)
    (hretry : known.state = .unknown → known.adapterDeduplicates = true) :
    (deliverCurrent known now runId deliveryId).Meets (raceSetting runId deliveryId) post
      repository := by
  unfold deliverCurrent declaredMapping
  refine Program.Meets.bind ?_
  refine meets_ask_attempt hlive fun later reply u hlater hanswers hfair _ hu => ?_
  cases reply with
  | error e => cases hfair
  | ok declared =>
    have hfound := hknown.grows hlater.keeps
    have hcapable : isCapable declared known = true :=
      hfair known (Dict.mem_values.mpr ⟨_, hfound.stored⟩) hfound.deliveryId_eq
    obtain ⟨mapping, hmapping⟩ : ∃ mapping, acceptedMapping declared known = .ok mapping := by
      unfold isCapable at hcapable
      cases haccepted : acceptedMapping declared known with
      | ok mapping => exact ⟨mapping, rfl⟩
      | error e =>
        rw [haccepted] at hcapable
        cases hcapable
    have htarget := supportsPreAction_of_mapping hmapping
    refine Program.Meets.done fun v hv => Program.Meets.of_rely ?_ hv
    rw [hmapping]
    have hknown := hknown.grows hu.keeps
    show (if known.state = .pending ∨ known.state = .unknown then
      claimAndAttempt known mapping now runId deliveryId
      else attemptClaimed known mapping now runId deliveryId).Meets _ _ _
    split
    · next hstate => exact meets_claimAndAttempt hpost hu.live hknown hstate hretry htarget
    · exact meets_attemptClaimed hpost hu.live hknown htarget

/-- Whatever race it loses, a delivery reports a stored revision. -/
theorem meets_deliver (hlive : repository.Live) (hknown : Known repository runId deliveryId known) :
    (deliver (.exact runId) (.exact deliveryId) (.exact now)).Meets (raceSetting runId deliveryId) post
      repository := by
  show (do
    let latest ← current runId deliveryId
    .lift (raiseIf (latest.runId ≠ runId) .runtime)
    if latest.state = .delivered ∨ latest.state = .failed ∨ latest.state = .rejected then
      resultOf latest
    else if latest.state = .attempting then resultOf latest (some .deliveryUnknown)
    else if latest.state = .unknown ∧ latest.adapterDeduplicates = false then resultOf latest
    else deliverCurrent latest now runId deliveryId : Worker DeliveryWorkerResult).Meets _ _ _
  refine meets_current_bind hlive hknown fun t latest ht hlatest => ?_
  have hreported : (resultOf latest).Meets (raceSetting runId deliveryId) post t :=
    meets_resultOf hpost ht.live hlatest fun _ hnone => by cases hnone
  have hrun : raiseIf (latest.runId ≠ runId) WorkerError.runtime = .ok () :=
    raiseIf_eq_ok.mpr (not_not.mpr hlatest.runId_eq)
  rw [hrun]
  refine Program.Meets.bind (Program.Meets.lift fun u hu => Program.Meets.of_rely ?_ hu)
  show (if _ then _ else _ : Worker DeliveryWorkerResult).Meets _ _ _
  split
  · exact hreported
  · split
    · next hattempting =>
      exact meets_resultOf hpost ht.live hlatest fun reason hreason => by
        cases hreason
        exact ⟨hattempting, rfl⟩
    · split
      · exact hreported
      · next hunretryable =>
        refine meets_deliverCurrent hpost ht.live hlatest fun hunknown => ?_
        by_contra hnot
        exact hunretryable ⟨hunknown, by simpa using hnot⟩

end DeliveryWorker

/-! ## The runs of a race -/

/-- A step of a race for a delivery, with a condition on what the workers ask: a worker starts to
deliver it, is answered fairly, ends or stops, or someone else operates on the repository. -/
abbrev Workers.RaceStep {ι : Type} [DecidableEq ι] (runId deliveryId : UUID4)
    (C : Repository → WorkerRequest → Prop) : Workers ι → WorkerEvent ι → Workers ι → Prop :=
  Processes.Step
    (fun program => ∃ now : UtcDatetime,
      program = (WorkerCall.deliver (.exact runId) (.exact deliveryId) (.exact now)).program)
    (fun repository request reply t => request.answers repository reply t
      ∧ request.Fair repository runId deliveryId reply ∧ C repository request)
    fun repository t => ∃ operation : Operation, t = Stateful.after operation.perform repository

/-- Every call that ended returned a result that reports a stored revision. -/
def Workers.Settled {ι : Type} (runId deliveryId : UUID4) (events : List (WorkerEvent ι))
    (s : Workers ι) : Prop :=
  ∀ i result, .ended i result ∈ events →
    ∃ report, result = .ok [report] ∧ Reports s.shared runId deliveryId report

/-- A delivery that the repository stores. -/
def StoresDelivery (runId deliveryId : UUID4) (repository : Repository) : Prop :=
  repository.Live ∧ ∃ known, Known repository runId deliveryId known

omit [Redactor] [Serialization] in
theorem StoresDelivery.grows (h : StoresDelivery runId deliveryId repository) (ht : Grown repository t) :
    StoresDelivery runId deliveryId t := by
  obtain ⟨known, hknown⟩ := h.2
  exact ⟨ht.live, known, hknown.grows ht.keeps⟩

/-- What a call of a race ends with. -/
def SettledCall (runId deliveryId : UUID4) (result : Except WorkerError (List DeliveryWorkerResult))
    (t : Repository) : Prop :=
  t.Live ∧ ∃ report, result = .ok [report] ∧ Reports t runId deliveryId report

theorem WorkerCall.meets_deliver (h : StoresDelivery runId deliveryId repository) {now : UtcDatetime} :
    (WorkerCall.deliver (.exact runId) (.exact deliveryId) (.exact now)).program.Meets
      (raceSetting runId deliveryId) (SettledCall runId deliveryId) repository := by
  obtain ⟨hlive, known, hknown⟩ := h
  have hdeliver : (DeliveryWorker.deliver (.exact runId) (.exact deliveryId) (.exact now)).Meets
      (raceSetting runId deliveryId) (Settles runId deliveryId) repository :=
    DeliveryWorker.meets_deliver (fun report _ hreport => ⟨report, rfl, hreport⟩) hlive hknown
  have hgrown := meets_grown hlive hdeliver
  refine Program.Meets.bind (hgrown.mono fun result t hresult => ?_)
  obtain ⟨⟨report, rfl, hreport⟩, ht⟩ := hresult
  refine Program.Meets.done fun u hrely => ?_
  obtain ⟨hu, hkeeps⟩ := hrely ht.live
  exact ⟨hu, report, rfl, hreport.known.grows hkeeps, hreport.built⟩

/-- In a race in which no worker begins its attempt after another began one under the same claim, every
call returns a result. -/
theorem settles_of_unraced {ι : Type} [DecidableEq ι] {events : List (WorkerEvent ι)} {s : Workers ι}
    (hreachable : Reachable repository)
    (hdelivery : deliveryId ∈ (repository runId).slot.projection.deliveries)
    (hrun : Runs (Workers.RaceStep runId deliveryId fun repository request => request.Unraced repository)
      ⟨repository, fun _ => none⟩ events s) :
    Workers.Settled runId deliveryId events s := by
  have hlive := hreachable.live
  obtain ⟨latest, hlatest⟩ := Dict.mem_iff.mp hdelivery
  have hkept := (hlive.live runId).settled.deliveryInvariant.kept
  have hstored : StoresDelivery runId deliveryId repository :=
    ⟨hlive, latest, .of_stored hlive (hkept.stored hlatest)⟩
  have hstart : Processes.AllMeet (raceSetting runId deliveryId) (SettledCall runId deliveryId)
      (StoresDelivery runId deliveryId) (⟨repository, fun _ => none⟩ : Workers ι) :=
    ⟨hstored, fun _ _ hnone => by cases hnone⟩
  have hends := hstart.run ?_ ?_ ?_ hrun
  · intro i result hended
    obtain ⟨u, ⟨hu, report, rfl, hreport⟩, hrely⟩ := hends.2 i result hended
    exact ⟨report, rfl, hreport.known.grows (hrely hu).2, hreport.built⟩
  · rintro program s ⟨now, rfl⟩ hs
    exact WorkerCall.meets_deliver hs
  · rintro s request reply t hs ⟨hanswers, hfair, hunraced⟩
    have ht : Grown s t := .of_continued hs.1 (request.answers_continued hs.1 hanswers)
    exact ⟨⟨hanswers, hfair, hunraced⟩, fun _ => ⟨ht.live, ht.keeps⟩, hs.grows ht⟩
  · rintro s t hs ⟨operation, rfl⟩
    have ht : Grown s _ := .of_continued hs.1 (operation.perform_continued hs.1).after
    exact ⟨fun _ => ⟨ht.live, ht.keeps⟩, hs.grows ht⟩

/-- Two workers start a call. -/
theorem Workers.runs_started {runId deliveryId : UUID4} {C : Repository → WorkerRequest → Prop}
    (repository : Repository) (now : UtcDatetime) {call : WorkerCall}
    (hcall : call = .deliver (.exact runId) (.exact deliveryId) (.exact now)) :
    Runs (Workers.RaceStep runId deliveryId C) (⟨repository, fun _ => none⟩ : Workers Bool)
      [.started false call.program, .started true call.program]
      ⟨repository, fun _ => some call.program⟩ := by
  have hset : (⟨repository, fun _ => some call.program⟩ : Workers Bool)
      = Processes.set (Processes.set ⟨repository, fun _ => none⟩ false repository (some call.program))
        true repository (some call.program) := by
    unfold Processes.set
    congr 1
    funext i
    cases i <;> rfl
  have hstarts : ∃ now : UtcDatetime, call.program
      = (WorkerCall.deliver (.exact runId) (.exact deliveryId) (.exact now)).program := ⟨now, by rw [hcall]⟩
  have hfirst : Workers.RaceStep runId deliveryId C (⟨repository, fun _ => none⟩ : Workers Bool)
      (.started false call.program) _ := .started _ false _ rfl hstarts
  rw [hset]
  exact (Runs.single hfirst).trans (.single (.started _ true _ rfl hstarts))

end SalienceGate

/-! ## Two races -/

namespace SalienceGate

attribute [local instance] jumpHashing plainRedactor outboxIntegrity collisionSerialization

/-- The hosts of two workers, which make different identities. -/
def racerHost (i : Bool) : WorkerHost := outboxHost (jumpId (if i then 100 else 200))

/-- What a host answers in a race is fair. -/
def allowsFair (repository : Repository) (request : WorkerRequest)
    (reply : Except WorkerError request.Reply) : Bool :=
  decide (request.Fair repository (jumpId 1) outboxId reply)

/-- It is fair, and no worker begins its attempt after the other. -/
def allowsUnraced (repository : Repository) (request : WorkerRequest)
    (reply : Except WorkerError request.Reply) : Bool :=
  allowsFair repository request reply && decide (request.Unraced repository)

/-- Both workers make a claim of the pending delivery; one claims it, and the other finds it claimed. -/
def pendingOrder : List Bool :=
  [true, true, true, false, false, false, true, false, false, false]

/-- Two workers at the pending delivery. -/
def pendingRacers : Workers Bool := ⟨outboxRepository, fun _ => some outboxCall.program⟩

/-- What happens between them. -/
def pendingEvents : List (WorkerEvent Bool) :=
  (pendingRacers.schedule (fun i => (racerHost i).answer) pendingOrder).1

/-- An event ends a call. -/
def isEnd : WorkerEvent Bool → Bool
  | .ended .. => true
  | _ => false

/-- The worker that does not claim the delivery returns a result. -/
theorem settles_of_unraced_pending : ∃ (events : List (WorkerEvent Bool)) (s : Workers Bool),
    Runs (Workers.RaceStep (jumpId 1) outboxId fun repository request => request.Unraced repository)
        ⟨outboxRepository, fun _ => none⟩ events s
      ∧ Workers.Settled (jumpId 1) outboxId events s ∧ ∃ i result, .ended i result ∈ events := by
  have hrace : outboxId ∈ (outboxRepository (jumpId 1)).slot.projection.deliveries
      ∧ pendingRacers.allowsAll (fun i => (racerHost i).answer) allowsUnraced pendingOrder = true
      ∧ pendingEvents.any isEnd = true := by decide +kernel
  obtain ⟨hdelivery, hallows, hends⟩ := hrace
  have hanswers : ∀ (i : Bool) (repository : Repository) (request : WorkerRequest),
      allowsUnraced repository request ((racerHost i).answer repository request).1 = true →
      request.answers repository ((racerHost i).answer repository request).1
        ((racerHost i).answer repository request).2
      ∧ request.Fair repository (jumpId 1) outboxId ((racerHost i).answer repository request).1
      ∧ request.Unraced repository := by
    intro i repository request hallowed
    obtain ⟨hfair, hunraced⟩ := Bool.and_eq_true_iff.mp hallowed
    exact ⟨(racerHost i).answers_answer repository request, of_decide_eq_true hfair,
      of_decide_eq_true hunraced⟩
  have hsteps : Runs (Workers.RaceStep (jumpId 1) outboxId
      fun repository request => request.Unraced repository) pendingRacers pendingEvents _ :=
    Processes.runs_schedule_of_allows hanswers pendingOrder pendingRacers hallows
  have hstarted : Runs (Workers.RaceStep (jumpId 1) outboxId
      fun repository request => request.Unraced repository)
      (⟨outboxRepository, fun _ => none⟩ : Workers Bool) _ pendingRacers :=
    Workers.runs_started outboxRepository 0 (rfl : outboxCall = _)
  obtain ⟨event, hevent, hend⟩ := List.any_eq_true.mp hends
  have hended : ∃ i result, event = .ended i result := by
    unfold isEnd at hend
    split at hend
    · next i result => exact ⟨i, result, rfl⟩
    · cases hend
  obtain ⟨i, result, rfl⟩ := hended
  have hruns := hstarted.trans hsteps
  have hreachable : Reachable outboxRepository := reachable_performAll .empty outboxOperations
  exact ⟨_, _, hruns, settles_of_unraced hreachable hdelivery hruns, i, result,
    List.mem_append_right _ hevent⟩

theorem racedClaim_positive : 1 ≤ 1 := le_rfl

/-- The claim of the delivery by a worker that stopped. -/
def racedClaim : Operation := .claimDelivery (.exact {
  runId := jumpId 1
  deliveryId := outboxId
  expectedRevision := 1
  claimId := jumpId 7
  updatedAt := 0
  positive := racedClaim_positive })

/-- The repository with the claimed delivery. -/
def racedRepository : Repository := performAll (outboxOperations ++ [racedClaim]) Repository.empty

/-- Two workers at the claimed delivery. -/
def racers : Workers Bool := ⟨racedRepository, fun _ => some outboxCall.program⟩

/-- Both workers read the claimed delivery; one begins its attempt, and then the other does. -/
def racedOrder : List Bool := [true, true, false, false, true, true, false, false, false]

/-- What happens in that race. -/
def racedEvents : List (WorkerEvent Bool) :=
  (racers.schedule (fun i => (racerHost i).answer) racedOrder).1

/-- An event ends a call because the delivery has another owner. -/
def isOwnershipError : WorkerEvent Bool → Bool
  | .ended _ (.error (.repository .deliveryOwnership)) => true
  | _ => false

/-- The delivery is claimed when the race starts, everything in it is answered fairly, and a call ends
because the delivery has another owner. -/
theorem raced : ((racedRepository (jumpId 1)).slot.projection.deliveries.get? outboxId).any
      (fun latest => latest.state = .claimed) = true
    ∧ racers.allowsAll (fun i => (racerHost i).answer) allowsFair racedOrder = true
    ∧ racedEvents.any isOwnershipError = true := by decide +kernel

/-- A worker that begins its attempt after another began one under the same claim raises. -/
theorem exists_race_raised : Reachable racedRepository
    ∧ (∃ latest ∈ (racedRepository (jumpId 1)).slot.projection.deliveries.get? outboxId,
      latest.state = .claimed)
    ∧ ∃ (events : List (WorkerEvent Bool)) (s : Workers Bool),
      Runs (Workers.RaceStep (jumpId 1) outboxId fun _ _ => True) ⟨racedRepository, fun _ => none⟩ events s
        ∧ (∃ i, .ended i (.error (.repository .deliveryOwnership)) ∈ events)
        ∧ ¬Workers.Settled (jumpId 1) outboxId events s := by
  obtain ⟨hclaimed, hallows, hraised⟩ := raced
  obtain ⟨latest, hlatest, hstate⟩ := (Option.any_eq_true ..).mp hclaimed
  refine ⟨reachable_performAll .empty _, ⟨latest, hlatest, of_decide_eq_true hstate⟩, ?_⟩
  have hsteps : Runs (Workers.RaceStep (jumpId 1) outboxId fun _ _ => True) racers racedEvents _ :=
    Processes.runs_schedule_of_allows (fun i repository request hfair =>
      ⟨(racerHost i).answers_answer repository request, of_decide_eq_true hfair, trivial⟩) racedOrder racers
      hallows
  have hstarted : Runs (Workers.RaceStep (jumpId 1) outboxId fun _ _ => True)
      (⟨racedRepository, fun _ => none⟩ : Workers Bool) _ racers :=
    Workers.runs_started racedRepository 0 (rfl : outboxCall = _)
  obtain ⟨event, hevent, hownership⟩ := List.any_eq_true.mp hraised
  have hended : ∃ i, event = .ended i (.error (.repository .deliveryOwnership)) := by
    unfold isOwnershipError at hownership
    split at hownership
    · next i => exact ⟨i, rfl⟩
    · cases hownership
  obtain ⟨i, rfl⟩ := hended
  have hmem := List.mem_append_right
    [.started false outboxCall.program, .started true outboxCall.program] hevent
  refine ⟨_, _, hstarted.trans hsteps, ⟨i, hmem⟩, fun hsettled => ?_⟩
  obtain ⟨report, hreport, -⟩ := hsettled i _ hmem
  cases hreport

end SalienceGate
