import SalienceGate.Lib.Program
import SalienceGate.Ports.Adapters
import SalienceGate.Repository.Operations

/-!
# The delivery worker

A worker brings the reminder of a delivery to its adapter. It claims the delivery, records an attempt
with a token of its own, and only then calls the adapter; what it knows about the outcome it stores
as the next revision. Each call of the repository or the adapter is a request, which the environment
answers by a value or an error, and any of them may be cancelled.
-/

namespace SalienceGate

open Checked

variable [Hashing]

/-! ## Requests -/

/-- What a worker requests of its repository, its adapter and its identity factory. -/
inductive WorkerRequest where
  | delivery (runId deliveryId : UUID4)
  | claimDelivery (command : ClaimDelivery)
  | beginDeliveryAttempt (command : BeginDeliveryAttempt)
  | completeDelivery (command : CompleteDelivery)
  | markDeliveryUnknown (command : MarkDeliveryUnknown)
  | rejectDelivery (command : RejectDelivery)
  | recoverDeliveries (runId : UUID4) (recoveredAt : UtcDatetime)
  | capabilities
  | deliver (envelope : DeliveryEnvelope)
  | newId

omit [Hashing] in
/-- What answers a request. A record or receipt that the worker validates again may be of another
type, or not validate; so may what the identity factory makes. -/
def WorkerRequest.Reply : WorkerRequest → Type
  | .delivery .. => Argument DeliveryRecord
  | .claimDelivery _ => Argument DeliveryTransitionReceipt
  | .beginDeliveryAttempt _ => Argument DeliveryAttemptReceipt
  | .completeDelivery _ | .markDeliveryUnknown _ | .rejectDelivery _ => DeliveryTransitionReceipt
  | .recoverDeliveries .. => DeliveryRecoveryReceipt
  | .capabilities => DeclaredCapabilities
  | .deliver _ => Argument DeliveryReceipt
  | .newId => Argument UUID4

/-- What a worker raises, or what answers it instead of a value. -/
inductive WorkerError where
  | repository (error : RepositoryError)
  /-- `DeliveryRuntimeError`. -/
  | runtime
  | refused (error : AdapterDeliveryRefused)
  /-- `AdapterDeliveryFailedError`. -/
  | adapterFailed
  | validation (error : ValidationError)
  /-- An exception of another class. -/
  | other
  /-- `CancelledError`, which is not an `Exception`. -/
  | cancelled
deriving DecidableEq

/-- The program of a worker. -/
abbrev Worker := Program WorkerRequest WorkerRequest.Reply WorkerError

/-- One request of a worker. -/
abbrev WorkerRequest.ask (request : WorkerRequest) : Worker request.Reply := .request request

/-! ## Results -/

/-- The fields of the result of a delivery. -/
structure DeliveryWorkerResultFields where
  delivery : DeliveryRecord
  reasonCode : ReasonCode
  delivered : Bool
  guarded : Bool
deriving DecidableEq

omit [Hashing] in
/-- The delivery reached its target before the action that it is about. -/
def DeliveryRecord.isGuarded (delivery : DeliveryRecord) : Bool :=
  delivery.state = .delivered && delivery.target = .preActionReplan
    && delivery.adapterSupportsPreAction

omit [Hashing] in
/-- `claims_match_authoritative_delivery`. -/
def DeliveryWorkerResultFields.check (result : DeliveryWorkerResultFields) : Check := do
  let expectedDelivered : Bool := result.delivery.state = .delivered
  refuse (result.delivered ≠ expectedDelivered ∨ result.guarded ≠ result.delivery.isGuarded)
    "delivery result overstates the authoritative outcome"
  refuse (expectedDelivered = true ∧ result.reasonCode ≠ .deliverySucceeded)
    "delivered result requires the success reason"
  refuse (expectedDelivered = false ∧ result.reasonCode = .deliverySucceeded)
    "undelivered result cannot carry the success reason"
  refuse (∃ reason ∈ result.delivery.reasonCode, result.reasonCode ≠ reason)
    "delivery result reason disagrees with the authoritative record"

/-- `DeliveryWorkerResult`. -/
structure DeliveryWorkerResult extends DeliveryWorkerResultFields where
  valid : toDeliveryWorkerResultFields.check = .ok ()

namespace DeliveryWorkerResult

omit [Hashing] in
/-- The reason of a result: the given one, or that of the record. -/
def reasonOf (delivery : DeliveryRecord) (reasonCode : Option ReasonCode) : ReasonCode :=
  (reasonCode <|> delivery.reasonCode).getD
    (if delivery.state = .attempting then .deliveryUnknown else .targetUnavailable)

omit [Hashing] in
/-- The fields that `from_delivery` makes. -/
def fieldsOf (delivery : DeliveryRecord) (reasonCode : Option ReasonCode) :
    DeliveryWorkerResultFields where
  delivery
  reasonCode := reasonOf delivery reasonCode
  delivered := delivery.state = .delivered
  guarded := delivery.isGuarded

omit [Hashing] in
/-- `from_delivery`. -/
def fromDelivery (delivery : DeliveryRecord) (reasonCode : Option ReasonCode := none) :
    Except ValidationError DeliveryWorkerResult :=
  Checked.validate DeliveryWorkerResultFields.check DeliveryWorkerResult.mk
    (fieldsOf delivery reasonCode)

end DeliveryWorkerResult

/-! ## Steps of a worker -/

namespace DeliveryWorker

/-- An instant that a caller gives: an exact UTC one. -/
def utcTimestamp : Argument UtcDatetime → Except WorkerError UtcDatetime
  | .exact time => pure time
  | .foreign | .malformed => throw .runtime

/-- `_uuid4`. -/
def uuid4 : Argument UUID4 → Except WorkerError UUID4
  | .exact id => pure id
  | .foreign | .malformed => throw .runtime

/-- The result of a record, as the end of a worker. -/
def resultOf (delivery : DeliveryRecord) (reasonCode : Option ReasonCode := none) :
    Worker DeliveryWorkerResult :=
  .lift ((DeliveryWorkerResult.fromDelivery delivery reasonCode).mapError .validation)

/-- `_new_id`. -/
def newId : Worker UUID4 := do
  let made : Argument UUID4 ← WorkerRequest.newId.ask
  .lift (uuid4 made)

/-- `_current`. -/
def current (runId deliveryId : UUID4) : Worker DeliveryRecord := do
  let untrusted : Argument DeliveryRecord ← (WorkerRequest.delivery runId deliveryId).ask
  match untrusted with
  | .exact record => pure record
  | .foreign | .malformed => .raise .runtime

/-- The result of the authoritative record. -/
def currentResult (runId deliveryId : UUID4) : Worker DeliveryWorkerResult := do
  let latest ← current runId deliveryId
  resultOf latest

/-- A command whose lost race is not an error: the record that it could not follow is read instead.
Any other error is raised. -/
def unlessConflict {α : Type} (request : Worker α) (lost : Worker DeliveryWorkerResult)
    (next : α → Worker DeliveryWorkerResult) : Worker DeliveryWorkerResult := do
  let reply ← request.attempt
  match reply with
  | .ok a => next a
  | .error (.repository (.deliveryRevisionConflict _ _)) => lost
  | .error error => .raise error

/-- The capabilities are those that the delivery was enqueued for. -/
def isFor (capabilities : AdapterCapabilities) (delivery : DeliveryRecord) : Prop :=
  capabilities.adapterId = delivery.adapterId
    ∧ capabilities.deduplicatesDeliveryId = delivery.adapterDeduplicates
    ∧ capabilities.deduplicationGuarantee = delivery.adapterDeduplicationGuarantee
    ∧ capabilities.preActionInterception = delivery.adapterSupportsPreAction
    ∧ delivery.adapterContractVersion = adapterContractVersion

instance decidableIsFor (capabilities : AdapterCapabilities) (delivery : DeliveryRecord) :
    Decidable (isFor capabilities delivery) := by
  unfold isFor
  infer_instance

/-- `_capabilities`, of what the adapter declares. -/
def acceptedCapabilities (declared : DeclaredCapabilities) (delivery : DeliveryRecord) :
    Except AdapterDeliveryRefused AdapterCapabilities := do
  let capabilities ← validatedCapabilities declared
  raiseIf (¬isFor capabilities delivery) .targetUnavailable
  pure capabilities

/-- The mapping of an adapter that is still the one that the delivery was enqueued for. -/
def acceptedMapping (declared : DeclaredCapabilities) (delivery : DeliveryRecord) :
    Except AdapterDeliveryRefused InjectionMapping := do
  let capabilities ← acceptedCapabilities declared delivery
  let mapping ← selectInjectionMapping capabilities delivery.target
  raiseIf (adapterCapabilitiesDigest capabilities ≠ delivery.adapterCapabilitiesDigest)
    .targetUnavailable
  pure mapping

/-- The capabilities of the adapter, unless it raises them as a refusal or fails. -/
def declaredMapping (delivery : DeliveryRecord) :
    Worker (Except AdapterDeliveryRefused InjectionMapping) := do
  let declared ← (WorkerRequest.capabilities.ask : Worker DeclaredCapabilities).attempt
  match declared with
  | .ok declared => pure (acceptedMapping declared delivery)
  | .error (.refused error) => pure (.error error)
  | .error .cancelled => .raise .cancelled
  | .error _ => pure (.error .unsupportedChannel)

/-- `_reject`. -/
def reject (delivery : DeliveryRecord) (refusal : AdapterDeliveryRefused) (now : UtcDatetime) :
    Worker DeliveryWorkerResult :=
  if delivery.state ≠ .pending ∧ delivery.state ≠ .claimed then resultOf delivery
  else
    unlessConflict (WorkerRequest.ask (.rejectDelivery {
        runId := delivery.runId
        deliveryId := delivery.deliveryId
        expectedRevision := delivery.revision
        claimId := delivery.claimId
        reasonCode := refusal.reasonCode
        updatedAt := now
        positive := delivery.one_le_revision
        refusal := refusal.refusal }))
      (currentResult delivery.runId delivery.deliveryId)
      fun receipt : DeliveryTransitionReceipt => resultOf receipt.delivery (some refusal.reasonCode)

/-- `_unknown`. -/
def unknown (delivery : DeliveryRecord) (now : UtcDatetime) : Worker DeliveryWorkerResult := do
  let claimId ← .lift (expect delivery.claimId .runtime)
  let attemptId ← .lift (expect delivery.attemptId .runtime)
  unlessConflict (WorkerRequest.ask (.markDeliveryUnknown {
      runId := delivery.runId
      deliveryId := delivery.deliveryId
      expectedRevision := delivery.revision
      claimId
      attemptId
      updatedAt := now
      positive := delivery.one_le_revision }))
    (currentResult delivery.runId delivery.deliveryId)
    fun receipt : DeliveryTransitionReceipt => resultOf receipt.delivery

/-- A task that runs to its end before the cancellation is raised, whatever it ends with. -/
def thenCancelled {α : Type} (cleanup : Worker α) : Worker DeliveryWorkerResult := do
  let _ ← cleanup.attempt
  .raise .cancelled

/-- `_unknown_persisted_attempt_after_cancellation`, without the task around it: an attempt that was
recorded under the claim is marked unknown. -/
def unknownPersistedAttempt (runId deliveryId claimId attemptId : UUID4) (now : UtcDatetime) :
    Worker Unit := do
  let latest ← current runId deliveryId
  if latest.state = .attempting ∧ latest.claimId = some claimId
      ∧ latest.attemptId = some attemptId then do
    let _ ← unknown latest now
    pure ()
  else pure ()

/-- What an attempt ends with, as the adapter reported it. -/
inductive Completion where
  | delivered (providerReceiptId : ComponentIdentifier)
  | failed

/-- The command that completes an attempt. -/
def Completion.command (completion : Completion) (delivery : DeliveryRecord)
    (claimId attemptId : UUID4) (expected : DeliveryRecord) (updatedAt : UtcDatetime) :
    CompleteDelivery where
  runId := delivery.runId
  deliveryId := delivery.deliveryId
  expectedRevision := expected.revision
  claimId
  attemptId
  outcome := match completion with
    | .delivered _ => .delivered
    | .failed => .failed
  providerReceiptId := match completion with
    | .delivered id => some id
    | .failed => none
  updatedAt
  positive := expected.one_le_revision
  completion := by cases completion <;> simp
  receipted := by cases completion <;> simp

/-- `_complete`, after a lost race: an attempt that was marked unknown meanwhile is completed. -/
def completeAgain (completion : Completion) (delivery : DeliveryRecord) (claimId attemptId : UUID4)
    (now : UtcDatetime) : Worker DeliveryWorkerResult := do
  let latest ← current delivery.runId delivery.deliveryId
  if latest.state = .unknown ∧ latest.claimId = some claimId
      ∧ latest.attemptId = some attemptId then do
    let completed : DeliveryTransitionReceipt ← WorkerRequest.ask (.completeDelivery
      (completion.command delivery claimId attemptId latest (max now latest.updatedAt)))
    resultOf completed.delivery
  else resultOf latest

/-- `_complete`, and `_complete_failed` with a failure. -/
def complete (completion : Completion) (delivery : DeliveryRecord) (now : UtcDatetime) :
    Worker DeliveryWorkerResult := do
  let claimId ← .lift (expect delivery.claimId .runtime)
  let attemptId ← .lift (expect delivery.attemptId .runtime)
  unlessConflict (WorkerRequest.ask (.completeDelivery
      (completion.command delivery claimId attemptId delivery now)))
    (completeAgain completion delivery claimId attemptId now)
    fun completed : DeliveryTransitionReceipt => resultOf completed.delivery

/-- A completion that fails marks the attempt unknown. -/
def completeOrUnknown (completion : Completion) (delivery : DeliveryRecord) (now : UtcDatetime) :
    Worker DeliveryWorkerResult := do
  let result ← (complete completion delivery now).attempt
  match result with
  | .ok result => pure result
  | .error .cancelled => thenCancelled (unknown delivery now)
  | .error _ => unknown delivery now

/-! ## The stages of a delivery -/

/-- The envelope that the adapter is handed for an attempt. -/
def envelopeOf (raw : DeliveryAttemptEnvelope) (mapping : InjectionMapping)
    (createdAt : UtcDatetime) : Except WorkerError DeliveryEnvelope := do
  let payload ← (deliveryPayload raw.renderedText.text mapping).mapError .refused
  (DeliveryEnvelope.create {
    deliveryId := raw.deliveryId
    runId := raw.runId
    cycleId := raw.cycleId
    interventionId := raw.interventionId
    claimId := raw.claimId
    attemptId := raw.attemptId
    attemptNumber := raw.attemptNumber
    targetRequestId := raw.targetRequestId
    target := raw.target
    adapterId := raw.adapterId
    mapping
    payload
    createdAt }).mapError .validation

/-- The call of the adapter, and what follows from its answer. -/
def inject (attempted : DeliveryRecord) (envelope : DeliveryEnvelope) (now : UtcDatetime) :
    Worker DeliveryWorkerResult := do
  let answer ← ((WorkerRequest.deliver envelope).ask : Worker (Argument DeliveryReceipt)).attempt
  match answer with
  | .error .cancelled => thenCancelled (unknown attempted now)
  | .error .adapterFailed => completeOrUnknown .failed attempted now
  | .error _ => unknown attempted now
  | .ok untrusted =>
    match validateDeliveryReceipt envelope untrusted with
    | none => unknown attempted now
    | some receipt => completeOrUnknown (.delivered receipt.providerReceiptId) attempted now

/-- `_same_delivery_binding`. -/
def sameDeliveryBinding (left right : DeliveryRecord) : Prop :=
  left.cycleId = right.cycleId ∧ left.interventionId = right.interventionId
    ∧ left.renderedTextDigest = right.renderedTextDigest
    ∧ left.targetRequestId = right.targetRequestId ∧ left.target = right.target
    ∧ left.adapterId = right.adapterId ∧ left.adapterDeduplicates = right.adapterDeduplicates
    ∧ left.adapterDeduplicationGuarantee = right.adapterDeduplicationGuarantee
    ∧ left.adapterSupportsPreAction = right.adapterSupportsPreAction
    ∧ left.adapterContractVersion = right.adapterContractVersion
    ∧ left.adapterCapabilitiesDigest = right.adapterCapabilitiesDigest
    ∧ left.createdAt = right.createdAt

instance decidableSameDeliveryBinding (left right : DeliveryRecord) :
    Decidable (sameDeliveryBinding left right) := by
  unfold sameDeliveryBinding
  infer_instance

/-- The revision is the one that a worker asked for, after another one. -/
structure Follows (made previous : DeliveryRecord) (runId deliveryId : UUID4) (state : DeliveryState)
    (claimId : UUID4) (attemptId : Option UUID4) (attemptCount : ℕ) (now : UtcDatetime) : Prop where
  deliveryId_eq : made.deliveryId = deliveryId
  runId_eq : made.runId = runId
  revision_eq : made.revision = previous.revision + 1
  state_eq : made.state = state
  claimId_eq : made.claimId = some claimId
  attemptId_eq : made.attemptId = attemptId
  attemptCount_eq : made.attemptCount = attemptCount
  updatedAt_eq : made.updatedAt = now
  binding : sameDeliveryBinding made previous

instance decidableFollows (made previous : DeliveryRecord) (runId deliveryId : UUID4)
    (state : DeliveryState) (claimId : UUID4) (attemptId : Option UUID4) (attemptCount : ℕ)
    (now : UtcDatetime) :
    Decidable (Follows made previous runId deliveryId state claimId attemptId attemptCount now) :=
  decidable_of_iff (made.deliveryId = deliveryId ∧ made.runId = runId
      ∧ made.revision = previous.revision + 1 ∧ made.state = state ∧ made.claimId = some claimId
      ∧ made.attemptId = attemptId ∧ made.attemptCount = attemptCount ∧ made.updatedAt = now
      ∧ sameDeliveryBinding made previous)
    ⟨fun ⟨h₁, h₂, h₃, h₄, h₅, h₆, h₇, h₈, h₉⟩ => ⟨h₁, h₂, h₃, h₄, h₅, h₆, h₇, h₈, h₉⟩,
      fun ⟨h₁, h₂, h₃, h₄, h₅, h₆, h₇, h₈, h₉⟩ => ⟨h₁, h₂, h₃, h₄, h₅, h₆, h₇, h₈, h₉⟩⟩

/-- What follows from the receipt of an attempt: the adapter is called only for a new attempt of this
worker. -/
def attempted (claimed : DeliveryRecord) (claimId attemptId : UUID4) (mapping : InjectionMapping)
    (now : UtcDatetime) (runId deliveryId : UUID4) :
    Argument DeliveryAttemptReceipt → Worker DeliveryWorkerResult
  | .foreign | .malformed => currentResult runId deliveryId
  | .exact receipt =>
    if receipt.appended = false then resultOf receipt.delivery
    else match receipt.envelope with
    | none => resultOf receipt.delivery
    | some raw =>
      if ¬Follows receipt.delivery claimed runId deliveryId .attempting claimId (some attemptId)
          (claimed.attemptCount + 1) now then currentResult runId deliveryId
      else if canonicalDigest (.str raw.renderedText.text) ≠ raw.renderedTextDigest then
        currentResult runId deliveryId
      else match envelopeOf raw mapping receipt.delivery.updatedAt with
      | .error _ => unknown receipt.delivery now
      | .ok envelope => inject receipt.delivery envelope now

/-- The beginning of an attempt under a claim. -/
def beginAttempt (claimed : DeliveryRecord) (claimId : UUID4) (mapping : InjectionMapping)
    (now : UtcDatetime) (runId deliveryId : UUID4) : Worker DeliveryWorkerResult := do
  let attemptId ← newId
  let reply ← (WorkerRequest.ask (.beginDeliveryAttempt {
    runId
    deliveryId
    expectedRevision := claimed.revision
    claimId
    attemptId
    updatedAt := now
    positive := claimed.one_le_revision }) : Worker (Argument DeliveryAttemptReceipt)).attempt
  match reply with
  | .error .cancelled =>
    thenCancelled (unknownPersistedAttempt runId deliveryId claimId attemptId now)
  | .error (.repository (.deliveryRevisionConflict _ _)) => currentResult runId deliveryId
  | .error error => .raise error
  | .ok receipt => attempted claimed claimId attemptId mapping now runId deliveryId receipt

/-- The attempt of a delivery that is claimed. -/
def attemptClaimed (delivery : DeliveryRecord) (mapping : InjectionMapping) (now : UtcDatetime)
    (runId deliveryId : UUID4) : Worker DeliveryWorkerResult :=
  match delivery.state, delivery.claimId with
  | .claimed, some claimId => beginAttempt delivery claimId mapping now runId deliveryId
  | _, _ => resultOf delivery

/-- What follows from the receipt of a claim. -/
def claimed (previous : DeliveryRecord) (claimId : UUID4) (mapping : InjectionMapping)
    (now : UtcDatetime) (runId deliveryId : UUID4) :
    Argument DeliveryTransitionReceipt → Worker DeliveryWorkerResult
  | .foreign | .malformed => currentResult runId deliveryId
  | .exact receipt =>
    if receipt.appended = false ∨ ¬Follows receipt.delivery previous runId deliveryId .claimed
        claimId none previous.attemptCount now then currentResult runId deliveryId
    else attemptClaimed receipt.delivery mapping now runId deliveryId

/-- The claim of a delivery, and its attempt. -/
def claimAndAttempt (previous : DeliveryRecord) (mapping : InjectionMapping) (now : UtcDatetime)
    (runId deliveryId : UUID4) : Worker DeliveryWorkerResult := do
  let claimId ← newId
  unlessConflict (WorkerRequest.ask (.claimDelivery {
      runId
      deliveryId
      expectedRevision := previous.revision
      claimId
      updatedAt := now
      positive := previous.one_le_revision }))
    (currentResult runId deliveryId)
    (claimed previous claimId mapping now runId deliveryId)

/-- The delivery of a record that may be attempted. -/
def deliverCurrent (delivery : DeliveryRecord) (now : UtcDatetime) (runId deliveryId : UUID4) :
    Worker DeliveryWorkerResult := do
  let mapping ← declaredMapping delivery
  match mapping with
  | .error refusal => reject delivery refusal now
  | .ok mapping =>
    if delivery.state = .pending ∨ delivery.state = .unknown then
      claimAndAttempt delivery mapping now runId deliveryId
    else attemptClaimed delivery mapping now runId deliveryId

/-- `deliver`. -/
def deliver (runId deliveryId : Argument UUID4) (now : Argument UtcDatetime) :
    Worker DeliveryWorkerResult := do
  let run ← .lift (uuid4 runId)
  let identifier ← .lift (uuid4 deliveryId)
  let timestamp ← .lift (utcTimestamp now)
  let latest ← current run identifier
  .lift (raiseIf (latest.runId ≠ run) .runtime)
  if latest.state = .delivered ∨ latest.state = .failed ∨ latest.state = .rejected then
    resultOf latest
  else if latest.state = .attempting then resultOf latest (some .deliveryUnknown)
  else if latest.state = .unknown ∧ latest.adapterDeduplicates = false then resultOf latest
  else deliverCurrent latest timestamp run identifier

/-! ## Recovery -/

/-- The deliveries of a recovery, one after the other. -/
def deliverAll (runId : UUID4) (now : UtcDatetime) :
    List DeliveryRecord → Worker (List DeliveryWorkerResult)
  | [] => pure []
  | delivery :: deliveries => do
    let result ← deliver (.exact runId) (.exact delivery.deliveryId) (.exact now)
    let results ← deliverAll runId now deliveries
    pure (result :: results)

/-- The results of the deliveries that may not be retried. -/
def results : List DeliveryRecord → Worker (List DeliveryWorkerResult)
  | [] => pure []
  | delivery :: deliveries => do
    let result ← resultOf delivery
    let results ← results deliveries
    pure (result :: results)

/-- `recover`. -/
def recover (runId : Argument UUID4) (recoveredAt : Argument UtcDatetime) :
    Worker (List DeliveryWorkerResult) := do
  let run ← .lift (uuid4 runId)
  let timestamp ← .lift (utcTimestamp recoveredAt)
  let recovered : DeliveryRecoveryReceipt ← (WorkerRequest.recoverDeliveries run timestamp).ask
  let retried ← deliverAll run timestamp
    (recovered.resumablePending ++ recovered.resumableClaimed ++ recovered.retryableUnknown)
  let unknown ← results recovered.nonRetryableUnknown
  pure (retried ++ unknown)

end DeliveryWorker

/-! ## Workers over one repository -/

/-- A call of a worker. -/
inductive WorkerCall where
  | deliver (runId deliveryId : Argument UUID4) (now : Argument UtcDatetime)
  | recover (runId : Argument UUID4) (recoveredAt : Argument UtcDatetime)

/-- The program of a call, with its results. -/
def WorkerCall.program : WorkerCall → Worker (List DeliveryWorkerResult)
  | .deliver runId deliveryId now => do
    let result ← DeliveryWorker.deliver runId deliveryId now
    pure [result]
  | .recover runId recoveredAt => DeliveryWorker.recover runId recoveredAt

variable [Integrity] [Redactor] [Serialization]

/-- The method of the repository that answers a request, if it is one of the repository. -/
def WorkerRequest.method : (request : WorkerRequest) → Option (RepositoryM request.Reply)
  | .delivery runId deliveryId =>
    some (.exact <$> SalienceGate.delivery (.exact runId) (.exact deliveryId))
  | .claimDelivery command => some (.exact <$> SalienceGate.claimDelivery (.exact command))
  | .beginDeliveryAttempt command =>
    some (.exact <$> SalienceGate.beginDeliveryAttempt (.exact command))
  | .completeDelivery command => some (SalienceGate.completeDelivery (.exact command))
  | .markDeliveryUnknown command => some (SalienceGate.markDeliveryUnknown (.exact command))
  | .rejectDelivery command => some (SalienceGate.rejectDelivery (.exact command))
  | .recoverDeliveries runId recoveredAt =>
    some (SalienceGate.recoverDeliveries (.exact runId) (.exact recoveredAt))
  | .capabilities | .deliver _ | .newId => none

/-- How a method answers: by what it returns or raises, or by a cancellation, before it takes effect
or after it. -/
inductive Answered {α : Type} (method : RepositoryM α) (repository : Repository) :
    Except WorkerError α → Repository → Prop where
  | returned (a : α) (t : Repository) (h : method repository = .ok a t) :
      Answered method repository (.ok a) t
  | raised (error : RepositoryError) (t : Repository) (h : method repository = .error error t) :
      Answered method repository (.error (.repository error)) t
  | cancelled : Answered method repository (.error .cancelled) repository
  | cancelledLater : Answered method repository (.error .cancelled) (Stateful.after method repository)

/-- How a request is answered. The repository answers by its methods, under the lock of the run; the
adapter and the identity factory answer anything, and do not touch the repository. What a worker that
stops during a call of its adapter would have been answered does not matter. -/
def WorkerRequest.answers (repository : Repository) (request : WorkerRequest)
    (reply : Except WorkerError request.Reply) (t : Repository) : Prop :=
  match request.method with
  | some method => Answered method repository reply t
  | none => t = repository

/-- An adapter and an identity factory, by what they answer. -/
structure WorkerHost where
  capabilities : DeclaredCapabilities
  deliver : DeliveryEnvelope → Except WorkerError (Argument DeliveryReceipt)
  newId : Argument UUID4

omit [Hashing] [Integrity] [Redactor] [Serialization] in
/-- What a method answers that is not cancelled. -/
def replyOf {α : Type} (method : RepositoryM α) (repository : Repository) :
    Except WorkerError α × Repository :=
  match method repository with
  | .ok a t => (.ok a, t)
  | .error error t => (.error (.repository error), t)

/-- What is answered on a host, if nothing is cancelled. -/
def WorkerHost.answer (host : WorkerHost) (repository : Repository) :
    (request : WorkerRequest) → Except WorkerError request.Reply × Repository
  | .capabilities => (.ok host.capabilities, repository)
  | .deliver envelope => (host.deliver envelope, repository)
  | .newId => (.ok host.newId, repository)
  | request => match request.method with
    | some method => replyOf method repository
    | none => (.error .other, repository)

omit [Integrity] [Redactor] [Serialization] in
theorem answered_replyOf {α : Type} {method : RepositoryM α} {repository : Repository} :
    Answered method repository (replyOf method repository).1 (replyOf method repository).2 := by
  unfold replyOf
  split
  · next a t h => exact .returned a t h
  · next error t h => exact .raised error t h

/-- What a host answers is an answer. -/
theorem WorkerHost.answers_answer (host : WorkerHost) (repository : Repository)
    (request : WorkerRequest) :
    request.answers repository (host.answer repository request).1 (host.answer repository request).2 := by
  cases request with
  | capabilities | deliver | newId => rfl
  | _ => exact answered_replyOf

/-- The workers over one repository. -/
abbrev Workers (ι : Type) :=
  Processes ι Repository WorkerRequest WorkerRequest.Reply WorkerError (List DeliveryWorkerResult)

/-- What happens in a step of the workers. -/
abbrev WorkerEvent (ι : Type) :=
  ProcessEvent ι WorkerRequest WorkerRequest.Reply WorkerError (List DeliveryWorkerResult)

/-- Nothing is stored, and no worker is at a call. -/
def Workers.initial {ι : Type} : Workers ι where
  shared := Repository.empty
  programs _ := none

/-- A step of one worker, or an operation of someone else on the repository. -/
abbrev Workers.Step {ι : Type} [DecidableEq ι] : Workers ι → WorkerEvent ι → Workers ι → Prop :=
  Processes.Step (fun program => ∃ call : WorkerCall, program = call.program) WorkerRequest.answers
    fun repository t => ∃ operation : Operation, t = Stateful.after operation.perform repository

/-- The operations of others, one after the other, are a run of the workers. -/
theorem Workers.runs_performAll {ι : Type} [DecidableEq ι] (operations : List Operation) (s : Workers ι) :
    Runs Workers.Step s (operations.map fun _ => .interfered)
      { s with shared := performAll operations s.shared } := by
  induction operations generalizing s with
  | nil => exact .refl
  | cons operation operations ih =>
    have hfirst : Workers.Step s .interfered
        { s with shared := Stateful.after operation.perform s.shared } := .interfered s _ ⟨operation, rfl⟩
    exact (Runs.single hfirst).trans (ih _)

/-- A worker alone starts a call. -/
theorem Workers.step_started (repository : Repository) (call : WorkerCall) :
    Workers.Step (⟨repository, fun _ => none⟩ : Workers Unit) (.started () call.program)
      ⟨repository, fun _ => some call.program⟩ := by
  have hset : (⟨repository, fun _ => some call.program⟩ : Workers Unit)
      = Processes.set ⟨repository, fun _ => none⟩ () repository (some call.program) := by
    unfold Processes.set
    congr 1
  rw [hset]
  exact .started _ () _ rfl ⟨call, rfl⟩

/-- The steps of workers on hosts, in the order of a schedule, are a run of the workers. -/
theorem Workers.runs_schedule {ι : Type} [DecidableEq ι] (hosts : ι → WorkerHost) (order : List ι)
    (s : Workers ι) :
    Runs Workers.Step s (s.schedule (fun i => (hosts i).answer) order).1
      (s.schedule (fun i => (hosts i).answer) order).2 :=
  Processes.runs_schedule (fun i => (hosts i).answers_answer) order s

omit [Hashing] [Integrity] [Redactor] [Serialization] in
/-- The envelope that a step hands to an adapter, if it does. -/
def WorkerEvent.invocation {ι : Type} : WorkerEvent ι → Option DeliveryEnvelope
  | .asked _ (.deliver envelope) _ => some envelope
  | _ => none

end SalienceGate
