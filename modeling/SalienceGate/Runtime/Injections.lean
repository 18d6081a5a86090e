import SalienceGate.Repository.Equivalence
import SalienceGate.Repository.Retries
import SalienceGate.Runtime.DeliveryWorker

/-!
# No delivery is injected twice

Any number of workers act on one repository, each of their requests being a step, and any of them may
stop at any point. A worker calls its adapter only after the repository answered that it recorded a
new attempt (`obeys_deliver`): the attempt is its ticket for one call. The recorded attempts are
pairwise different, and so are the tickets; hence no attempt is injected twice, nor a delivery whose
adapter does not deduplicate.
-/

namespace SalienceGate

open Checked
open Stateful hiding bind_eq_ok check_bind_eq_ok raiseIf_bind_eq_ok expect_bind_eq_ok

/-! ## Tickets -/

/-- The envelope is for the attempt that a revision records. -/
structure DeliveryEnvelope.IsFor (envelope : DeliveryEnvelope) (attempt : DeliveryRecord) : Prop where
  attempting : attempt.state = .attempting
  runId_eq : envelope.runId = attempt.runId
  deliveryId_eq : envelope.deliveryId = attempt.deliveryId
  attemptId_eq : some envelope.attemptId = attempt.attemptId

/-- The attempt that an answer gives a worker, for one call of its adapter. -/
def ticketAfter (ticket : Option DeliveryRecord) :
    (request : WorkerRequest) → Except WorkerError request.Reply → Option DeliveryRecord
  | .beginDeliveryAttempt _, .ok (.exact receipt) =>
    if receipt.appended then some receipt.delivery else none
  | .beginDeliveryAttempt _, _ | .deliver _, _ => none
  | _, _ => ticket

/-- What a worker sees of the world: its ticket. It may call the adapter only for the attempt of the
ticket. -/
def ticketSetting : Program.Setting WorkerRequest WorkerRequest.Reply WorkerError
    (Option DeliveryRecord) where
  answers ticket request reply ticket' := ticket' = ticketAfter ticket request reply
  rely ticket ticket' := ticket' = ticket
  may ticket request := ∀ envelope, request = .deliver envelope →
    ∃ attempt ∈ ticket, envelope.IsFor attempt
  refl _ := rfl
  trans _ _ _ h h' := h'.trans h

/-- A program calls the adapter only with a ticket. -/
def Obeys {α : Type} (program : Worker α) (ticket : Option DeliveryRecord) : Prop :=
  program.Meets ticketSetting (fun _ _ => True) ticket

namespace Obeys

variable {α β : Type} {program : Worker α} {ticket : Option DeliveryRecord}

theorem done {a : α} : Obeys (.done a) ticket := fun _ _ => trivial

theorem raise {error : WorkerError} : Obeys (.raise error : Worker α) ticket := fun _ _ => trivial

theorem lift {x : Except WorkerError α} : Obeys (.lift x) ticket := Program.Meets.lift fun _ _ => trivial

/-- A program obeys if its first part does, and its second part does with every ticket. -/
theorem bind {f : α → Worker β} (h : Obeys program ticket) (hf : ∀ a ticket, Obeys (f a) ticket) :
    Obeys (program >>= f) ticket := by
  refine Program.Meets.bind (Program.Meets.mono h fun result ticket _ => ?_)
  cases result with
  | ok a => exact hf a ticket
  | error e => trivial

theorem attempt_bind {f : Except WorkerError α → Worker β} (h : Obeys program ticket)
    (hf : ∀ result ticket, Obeys (f result) ticket) : Obeys (program.attempt >>= f) ticket :=
  bind (Program.Meets.attempt (h.mono fun _ _ _ => trivial)) hf

/-- A request that may be asked, with what follows each of its answers. -/
theorem ask_attempt_bind {request : WorkerRequest} {f : Except WorkerError request.Reply → Worker β}
    (hmay : ∀ envelope, request = .deliver envelope → ∃ attempt ∈ ticket, envelope.IsFor attempt)
    (hf : ∀ reply, Obeys (f reply) (ticketAfter ticket request reply)) :
    Obeys (request.ask.attempt >>= f) ticket := by
  refine Program.Meets.bind (Program.Meets.attempt (Program.Meets.request fun later hlater => ?_))
  rw [show later = ticket from hlater]
  refine ⟨hmay, fun reply u hu v hv => ?_⟩
  rw [show v = ticketAfter ticket request reply from hv.trans hu]
  exact hf reply

/-- Any request but a call of the adapter may be asked at any time. -/
theorem ask {request : WorkerRequest} (h : ∀ envelope, request ≠ .deliver envelope) :
    Obeys request.ask ticket :=
  Program.Meets.request fun _ _ => ⟨fun envelope heq => absurd heq (h envelope), fun _ _ _ _ _ => trivial⟩

end Obeys

/-! ## A worker needs a ticket -/

namespace DeliveryWorker

variable {α : Type} {ticket : Option DeliveryRecord} {delivery : DeliveryRecord}
  {runId deliveryId : UUID4} {now : UtcDatetime}

theorem obeys_resultOf {reasonCode : Option ReasonCode} :
    Obeys (resultOf delivery reasonCode) ticket := .lift

theorem obeys_newId : Obeys newId ticket := (Obeys.ask (by simp)).bind fun _ _ => .lift

theorem obeys_current : Obeys (current runId deliveryId) ticket := by
  refine (Obeys.ask (by simp)).bind fun untrusted _ => ?_
  cases untrusted with
  | exact record => exact .done
  | foreign | malformed => exact .raise

theorem obeys_currentResult : Obeys (currentResult runId deliveryId) ticket :=
  obeys_current.bind fun _ _ => obeys_resultOf

theorem obeys_unlessConflict {request : Worker α} {lost : Worker DeliveryWorkerResult}
    {next : α → Worker DeliveryWorkerResult} (hrequest : Obeys request ticket)
    (hlost : ∀ ticket, Obeys lost ticket) (hnext : ∀ a ticket, Obeys (next a) ticket) :
    Obeys (unlessConflict request lost next) ticket := by
  refine hrequest.attempt_bind fun reply ticket => ?_
  split
  · exact hnext _ _
  · exact hlost _
  · exact .raise

theorem obeys_reject {refusal : AdapterDeliveryRefused} : Obeys (reject delivery refusal now) ticket := by
  unfold reject
  split
  · exact obeys_resultOf
  · exact obeys_unlessConflict (Obeys.ask (by simp)) (fun _ => obeys_currentResult)
      fun _ _ => obeys_resultOf

theorem obeys_unknown : Obeys (unknown delivery now) ticket :=
  Obeys.lift.bind fun _ _ => Obeys.lift.bind fun _ _ =>
    obeys_unlessConflict (Obeys.ask (by simp)) (fun _ => obeys_currentResult) fun _ _ => obeys_resultOf

theorem obeys_thenCancelled {cleanup : Worker α} (h : Obeys cleanup ticket) :
    Obeys (thenCancelled cleanup) ticket :=
  h.attempt_bind fun _ _ => .raise

theorem obeys_unknownPersistedAttempt {claimId attemptId : UUID4} :
    Obeys (unknownPersistedAttempt runId deliveryId claimId attemptId now) ticket := by
  refine obeys_current.bind fun latest _ => ?_
  split
  · exact obeys_unknown.bind fun _ _ => .done
  · exact .done

theorem obeys_complete {completion : Completion} : Obeys (complete completion delivery now) ticket := by
  refine Obeys.lift.bind fun claimId _ => Obeys.lift.bind fun attemptId _ => ?_
  refine obeys_unlessConflict (Obeys.ask (by simp)) (fun _ => ?_) fun _ _ => obeys_resultOf
  refine obeys_current.bind fun latest _ => ?_
  split
  · exact (Obeys.ask (by simp)).bind fun _ _ => obeys_resultOf
  · exact obeys_resultOf

theorem obeys_completeOrUnknown {completion : Completion} :
    Obeys (completeOrUnknown completion delivery now) ticket := by
  refine obeys_complete.attempt_bind fun result _ => ?_
  split
  · exact .done
  · exact obeys_thenCancelled obeys_unknown
  · exact obeys_unknown

/-- With the ticket of its attempt, a worker may call the adapter. -/
theorem obeys_inject {envelope : DeliveryEnvelope} (h : ∃ attempt ∈ ticket, envelope.IsFor attempt) :
    Obeys (inject delivery envelope now) ticket := by
  have hask : Obeys (WorkerRequest.deliver envelope).ask ticket := by
    refine Program.Meets.request fun later hlater => ⟨fun found hfound => ?_, fun _ _ _ _ _ => trivial⟩
    cases hfound
    rw [show later = ticket from hlater]
    exact h
  refine hask.attempt_bind fun answer _ => ?_
  split
  · exact obeys_thenCancelled obeys_unknown
  · exact obeys_completeOrUnknown
  · exact obeys_unknown
  · split
    · exact obeys_unknown
    · exact obeys_completeOrUnknown

/-- The envelope of an attempt keeps its tokens. -/
theorem envelopeOf_eq_ok {raw : DeliveryAttemptEnvelope} {mapping : InjectionMapping}
    {createdAt : UtcDatetime} {envelope : DeliveryEnvelope}
    (h : envelopeOf raw mapping createdAt = .ok envelope) :
    envelope.runId = raw.runId ∧ envelope.deliveryId = raw.deliveryId
      ∧ envelope.attemptId = raw.attemptId := by
  unfold envelopeOf at h
  obtain ⟨payload, -, h⟩ := Checked.bind_eq_ok.mp h
  rw [mapError_eq_ok, DeliveryEnvelope.create, validate_eq_ok] at h
  obtain ⟨-, rfl⟩ := h
  exact ⟨rfl, rfl, rfl⟩

/-- The envelope that comes with a receipt is of its delivery. -/
theorem isOf_of_envelope {receipt : DeliveryAttemptReceipt} {raw : DeliveryAttemptEnvelope}
    (h : receipt.envelope = some raw) : raw.isOf receipt.delivery := by
  have hvalid := receipt.valid
  simp only [DeliveryAttemptReceiptFields.check, refuse_bind_eq_ok, refuse_eq_ok, not_not] at hvalid
  by_contra hnot
  exact hvalid.2 ⟨raw, h, hnot⟩

theorem obeys_results {deliveries : List DeliveryRecord} : Obeys (results deliveries) ticket := by
  induction deliveries generalizing ticket with
  | nil => exact .done
  | cons delivery deliveries ih => exact obeys_resultOf.bind fun _ _ => ih.bind fun _ _ => .done

variable [Hashing]

theorem obeys_declaredMapping : Obeys (declaredMapping delivery) ticket := by
  refine (Obeys.ask (by simp)).attempt_bind fun declared _ => ?_
  split
  · exact .done
  · exact .done
  · exact .raise
  · exact .done

theorem obeys_attempted {claimed : DeliveryRecord} {claimId attemptId : UUID4}
    {mapping : InjectionMapping} {reply : Argument DeliveryAttemptReceipt}
    (h : ∀ receipt, reply = .exact receipt → receipt.appended = true → ticket = some receipt.delivery) :
    Obeys (attempted claimed claimId attemptId mapping now runId deliveryId reply) ticket := by
  cases reply with
  | foreign | malformed => exact obeys_currentResult
  | exact receipt =>
    simp only [attempted]
    split
    · exact obeys_resultOf
    · next happended =>
      have hticket : ticket = some receipt.delivery := h receipt rfl (by simpa using happended)
      split
      · exact obeys_resultOf
      · next raw hraw =>
        split
        · exact obeys_currentResult
        · split
          · exact obeys_currentResult
          · split
            · exact obeys_unknown
            · next envelope henvelope =>
              obtain ⟨hrun, hid, hattempt⟩ := envelopeOf_eq_ok henvelope
              obtain ⟨hstate, hrawId, hrawRun, -, -, -, -, hrawAttempt, -⟩ := isOf_of_envelope hraw
              refine obeys_inject ⟨receipt.delivery, hticket, hstate, ?_, ?_, ?_⟩
              · rw [hrun, hrawRun]
              · rw [hid, hrawId]
              · rw [hattempt, hrawAttempt]

theorem obeys_beginAttempt {claimed : DeliveryRecord} {claimId : UUID4} {mapping : InjectionMapping} :
    Obeys (beginAttempt claimed claimId mapping now runId deliveryId) ticket := by
  refine obeys_newId.bind fun attemptId ticket => Obeys.ask_attempt_bind (by simp) fun reply => ?_
  split
  · exact obeys_thenCancelled obeys_unknownPersistedAttempt
  · exact obeys_currentResult
  · exact Obeys.raise
  · next receipt =>
    refine obeys_attempted fun found hfound happended => ?_
    subst hfound
    simp only [ticketAfter, happended, if_true]

theorem obeys_attemptClaimed {mapping : InjectionMapping} :
    Obeys (attemptClaimed delivery mapping now runId deliveryId) ticket := by
  unfold attemptClaimed
  split
  · exact obeys_beginAttempt
  · exact obeys_resultOf

theorem obeys_claimAndAttempt {mapping : InjectionMapping} :
    Obeys (claimAndAttempt delivery mapping now runId deliveryId) ticket := by
  refine obeys_newId.bind fun claimId ticket => obeys_unlessConflict (Obeys.ask (by simp))
    (fun _ => obeys_currentResult) fun reply _ => ?_
  cases reply with
  | foreign | malformed => exact obeys_currentResult
  | exact receipt =>
    simp only [claimed]
    split
    · exact obeys_currentResult
    · exact obeys_attemptClaimed

/-- Whatever a delivery is answered, it calls the adapter only with a ticket. -/
theorem obeys_deliver {runId deliveryId : Argument UUID4} {now : Argument UtcDatetime} :
    Obeys (deliver runId deliveryId now) ticket := by
  refine Obeys.lift.bind fun run _ => Obeys.lift.bind fun identifier _ => Obeys.lift.bind fun at_ _ =>
    obeys_current.bind fun latest _ => Obeys.lift.bind fun _ _ => ?_
  split
  · exact obeys_resultOf
  · split
    · exact obeys_resultOf
    · split
      · exact obeys_resultOf
      · refine obeys_declaredMapping.bind fun mapping _ => ?_
        split
        · exact obeys_reject
        · split
          · exact obeys_claimAndAttempt
          · exact obeys_attemptClaimed

theorem obeys_deliverAll {deliveries : List DeliveryRecord} :
    Obeys (deliverAll runId now deliveries) ticket := by
  induction deliveries generalizing ticket with
  | nil => exact .done
  | cons delivery deliveries ih => exact obeys_deliver.bind fun _ _ => ih.bind fun _ _ => .done

/-- A recovery calls the adapter only with a ticket, too. -/
theorem obeys_recover {runId : Argument UUID4} {recoveredAt : Argument UtcDatetime} :
    Obeys (recover runId recoveredAt) ticket :=
  Obeys.lift.bind fun _ _ => Obeys.lift.bind fun _ _ => (Obeys.ask (by simp)).bind fun _ _ =>
    obeys_deliverAll.bind fun _ _ => obeys_results.bind fun _ _ => .done

end DeliveryWorker

variable [Hashing]

/-- Every call of a worker obeys. -/
theorem WorkerCall.obeys (call : WorkerCall) {ticket : Option DeliveryRecord} :
    Obeys call.program ticket := by
  cases call with
  | deliver => exact DeliveryWorker.obeys_deliver.bind fun _ _ => .done
  | recover => exact DeliveryWorker.obeys_recover

/-! ## What the repository answers -/

variable [Integrity] [Redactor] [Serialization] {repository t : Repository}

/-- A revision of a delivery that is stored. -/
def Stored (repository : Repository) (attempt : DeliveryRecord) : Prop :=
  (repository attempt.runId).slot.projection.deliveryHistory.get? (attempt.deliveryId, attempt.revision)
    = some attempt

omit [Serialization] in
theorem Stored.grows {attempt : DeliveryRecord} (h : Stored repository attempt)
    (hlive : repository.Live) (ht : OnEach Continued repository t) : Stored t attempt :=
  ((ht attempt.runId).keeps (hlive.live attempt.runId)).projection.deliveries h

omit [Redactor] [Serialization] in
/-- A query leaves the repository as it is. -/
theorem delivery_endsIn (hlive : repository.Live) {runId deliveryId : Argument UUID4} :
    EndsIn (delivery runId deliveryId) repository (OnEach Extended repository) := by
  have hsame : OnEach Extended repository repository := fun id => (hlive.live id).extended
  unfold delivery
  refine .lift_bind hsame fun id _ => ?_
  cases deliveryId with
  | exact deliveryId =>
    refine onRun_endsIn hsame (.get_bind ?_)
    exact .lift_bind (hsame _) fun _ _ => .lift_bind (hsame _) fun _ _ => .lift (hsame _)
  | foreign | malformed => exact ⟨fun _ _ h => (by cases h), fun _ _ h => by cases h; exact hsame⟩

/-- Every request extends the runs of the repository. -/
theorem WorkerRequest.method_endsIn (hlive : repository.Live) {request : WorkerRequest}
    {method : RepositoryM request.Reply} (h : request.method = some method) :
    EndsIn method repository (OnEach Extended repository) := by
  cases request <;> cases h
  case delivery => exact .map (delivery_endsIn hlive)
  case claimDelivery =>
    exact .map (submitted_endsIn hlive fun command => transitionLocked_endsIn (hlive.live _) command.advances)
  case beginDeliveryAttempt =>
    exact .map (submitted_endsIn hlive fun command => beginAttemptLocked_endsIn (hlive.live _) command.advances)
  case completeDelivery =>
    exact submitted_endsIn hlive fun command => transitionLocked_endsIn (hlive.live _) command.advances
  case markDeliveryUnknown =>
    exact submitted_endsIn hlive fun command => transitionLocked_endsIn (hlive.live _) command.advances
  case rejectDelivery =>
    exact submitted_endsIn hlive fun command => transitionLocked_endsIn (hlive.live _) command.advances
  case recoverDeliveries =>
    exact recovery_endsIn hlive fun _ _ => recoverDeliveriesLocked_endsIn (hlive.live _)

/-- Whatever is answered, the runs of the repository only grow. -/
theorem WorkerRequest.answers_continued (hlive : repository.Live) {request : WorkerRequest}
    {reply : Except WorkerError request.Reply} (h : request.answers repository reply t) :
    OnEach Continued repository t := by
  have hsame : OnEach Extended repository repository := fun id => (hlive.live id).extended
  have hextended : OnEach Extended repository t := by
    unfold WorkerRequest.answers at h
    cases hmethod : request.method with
    | none =>
      rw [hmethod] at h
      rw [show t = repository from h]
      exact hsame
    | some method =>
      rw [hmethod] at h
      have hends := WorkerRequest.method_endsIn hlive hmethod
      cases h with
      | returned a _ h => exact hends.ok a t h
      | raised e _ h => exact hends.error e t h
      | cancelled => exact hsame
      | cancelledLater => exact hends.after
  exact fun id => (hextended id).continued

omit [Redactor] [Serialization] in
/-- What a receipt of a new attempt says about the run: the revision of the attempt is stored, and was
not before. -/
theorem beginAttemptLocked_appended {run u : RunState} (hrun : run.Live) {rule : DeliveryRule}
    {receipt : DeliveryAttemptReceipt} (h : beginAttemptLocked rule run = .ok receipt u)
    (happended : receipt.appended = true) :
    receipt.delivery.runId = run.slot.runId
      ∧ (receipt.delivery.deliveryId, receipt.delivery.revision) ∉ run.slot.projection.deliveryHistory
      ∧ u.slot.projection.deliveryHistory.get?
        (receipt.delivery.deliveryId, receipt.delivery.revision) = some receipt.delivery := by
  unfold beginAttemptLocked at h
  rw [get_bind] at h
  obtain ⟨-, h⟩ := Stateful.check_bind_eq_ok.mp h
  obtain ⟨-, h⟩ := Stateful.check_bind_eq_ok.mp h
  obtain ⟨retried, hretried, h⟩ := lift_bind_eq_ok.mp h
  cases retried with
  | some found =>
    -- the receipt of a retry is not of a new attempt
    obtain ⟨hcreate, rfl⟩ := lift_eq_ok.mp h
    rw [mapError_eq_ok, DeliveryAttemptReceipt.create, validate_eq_ok] at hcreate
    obtain ⟨hvalid, rfl⟩ := hcreate
    obtain ⟨record, stored, -, rfl⟩ := DeliveryRule.retry_eq_some hrun hretried
    cases happended
  | none =>
    obtain ⟨record, hrecord, h⟩ := lift_bind_eq_ok.mp h
    obtain ⟨envelope, -, h⟩ := lift_bind_eq_ok.mp h
    obtain ⟨made, v, hmade, h⟩ := Stateful.bind_eq_ok.mp h
    obtain ⟨hcreate, rfl⟩ := lift_eq_ok.mp h
    rw [mapError_eq_ok, DeliveryAttemptReceipt.create, validate_eq_ok] at hcreate
    obtain ⟨hvalid, rfl⟩ := hcreate
    rcases recordDeliveryLocked_eq_ok hmade with ⟨rfl, existing, -, rfl⟩ | ⟨hfresh, staged, hstaged, rfl, rfl⟩
    · cases happended
    · have hrunId : record.runId = run.slot.runId := by
        have hentry := staged.entry.record_runId
        rw [hstaged.record_eq, hstaged.runId_eq] at hentry
        exact hentry
      refine ⟨hrunId, ?_, ?_⟩
      · rw [← hrun.settled.toReplays.deliveries, Dict.mem_mapValues]
        exact hfresh
      · rw [slot_withDelivery]
        show staged.projected.deliveryHistory.get? (record.deliveryId, record.revision) = some record
        rw [hstaged.accepted.of_delivery.1, Dict.get?_set_self]

/-- The answer that gives a worker a ticket stored a revision that was not there before. -/
theorem ticketAfter_fresh (hlive : repository.Live) {command : BeginDeliveryAttempt}
    {reply : Except WorkerError (Argument DeliveryAttemptReceipt)} {attempt : DeliveryRecord}
    (h : (WorkerRequest.beginDeliveryAttempt command).answers repository reply t)
    {ticket : Option DeliveryRecord}
    (hticket : ticketAfter ticket (.beginDeliveryAttempt command) reply = some attempt) :
    Stored t attempt ∧ ∀ other, Stored repository other → other ≠ attempt := by
  -- only a receipt of a new attempt gives a ticket
  obtain ⟨receipt, rfl, happended, rfl⟩ : ∃ receipt, reply = .ok (.exact receipt)
      ∧ receipt.appended = true ∧ receipt.delivery = attempt := by
    cases reply with
    | error error => cases hticket
    | ok argument =>
      cases argument with
      | foreign | malformed => cases hticket
      | exact receipt =>
        simp only [ticketAfter, Option.ite_none_right_eq_some, Option.some.injEq] at hticket
        exact ⟨receipt, rfl, hticket.1, hticket.2⟩
  cases h with
  | returned a _ hreturned =>
    obtain ⟨found, hfound, hexact⟩ := Stateful.map_eq_ok.mp hreturned
    cases hexact
    unfold beginDeliveryAttempt at hfound
    obtain ⟨validated, hvalidated, hfound⟩ := lift_bind_eq_ok.mp hfound
    obtain ⟨-, hfound⟩ := Stateful.check_bind_eq_ok.mp hfound
    obtain ⟨u, hu, rfl⟩ := onRun_eq_ok.mp hfound
    obtain ⟨hrun, hfresh, hstored⟩ :=
      beginAttemptLocked_appended (hlive.live validated.runId) hu happended
    rw [hlive.runId] at hrun
    constructor
    · unfold Stored
      rw [hrun, Function.update_self]
      exact hstored
    · rintro other hother rfl
      unfold Stored at hother
      rw [hrun] at hother
      exact hfresh (Dict.mem_of_get? hother)

/-! ## The accounts of the workers -/

/-- The tickets that the workers hold, and the attempts that they spent on calls of an adapter: they
are stored, and no two are the same. -/
structure Accounts {ι : Type} (s : Workers ι) (tickets : ι → Option DeliveryRecord)
    (spent : List (DeliveryEnvelope × DeliveryRecord)) : Prop where
  live : s.shared.Live
  obeys : ∀ i program, s.programs i = some program → Obeys program (tickets i)
  held : ∀ i attempt, tickets i = some attempt → Stored s.shared attempt
  apart : ∀ i j attempt, tickets i = some attempt → tickets j = some attempt → i = j
  unspent : ∀ i attempt, tickets i = some attempt → attempt ∉ spent.map Prod.snd
  injected : ∀ x ∈ spent, Stored s.shared x.2 ∧ x.1.IsFor x.2
  distinct : (spent.map Prod.snd).Nodup

namespace Accounts

variable {ι : Type} [DecidableEq ι] {s : Workers ι} {tickets : ι → Option DeliveryRecord}
  {spent : List (DeliveryEnvelope × DeliveryRecord)}

omit [DecidableEq ι] [Redactor] [Serialization] in
theorem initial : Accounts (Workers.initial : Workers ι) (fun _ => none) [] where
  live := live_repository_empty
  obeys _ _ h := by cases h
  held _ _ h := by cases h
  apart _ _ _ h := by cases h
  unspent _ _ h := by cases h
  injected _ h := by cases h
  distinct := List.nodup_nil

omit [DecidableEq ι] [Serialization] in
/-- The accounts after the repository grew, with the programs of before. -/
theorem grows (h : Accounts s tickets spent) (ht : OnEach Continued s.shared t) :
    Accounts { s with shared := t } tickets spent where
  live := h.live.continued ht
  obeys := h.obeys
  held i attempt hticket := (h.held i attempt hticket).grows h.live ht
  apart := h.apart
  unspent := h.unspent
  injected x hx := ⟨(h.injected x hx).1.grows h.live ht, (h.injected x hx).2⟩
  distinct := h.distinct

omit [Redactor] [Serialization] in
/-- The accounts after a worker has another program, which obeys with its ticket. -/
theorem set (h : Accounts s tickets spent) {i : ι} {program : Option (Worker (List DeliveryWorkerResult))}
    (hprogram : ∀ p, program = some p → Obeys p (tickets i)) :
    Accounts (s.set i s.shared program) tickets spent where
  live := h.live
  obeys j p hp := by
    by_cases hj : j = i
    · subst hj
      rw [Processes.set_self] at hp
      exact hprogram p hp
    · rw [Processes.set_of_ne hj] at hp
      exact h.obeys j p hp
  held := h.held
  apart := h.apart
  unspent := h.unspent
  injected := h.injected
  distinct := h.distinct

omit [Hashing] [Integrity] [Redactor] [Serialization] in
/-- The tickets that are left without that of one worker are those of the others. -/
theorem update_none_eq_some {i j : ι} {attempt : DeliveryRecord}
    (h : Function.update tickets i none j = some attempt) : j ≠ i ∧ tickets j = some attempt := by
  by_cases hji : j = i
  · rw [hji, Function.update_self] at h
    cases h
  · rw [Function.update_of_ne hji] at h
    exact ⟨hji, h⟩

omit [Redactor] [Serialization] in
/-- A worker loses its ticket. -/
theorem drop (h : Accounts s tickets spent) {i : ι}
    {programs : ι → Option (Worker (List DeliveryWorkerResult))}
    (hprograms : ∀ j p, programs j = some p → Obeys p (Function.update tickets i none j)) :
    Accounts { s with programs } (Function.update tickets i none) spent where
  live := h.live
  obeys := hprograms
  held j a hj := h.held j a (update_none_eq_some hj).2
  apart j k a hj hk := h.apart j k a (update_none_eq_some hj).2 (update_none_eq_some hk).2
  unspent j a hj := h.unspent j a (update_none_eq_some hj).2
  injected := h.injected
  distinct := h.distinct

omit [Redactor] [Serialization] in
/-- A worker spends its ticket on a call of the adapter. -/
theorem spend (h : Accounts s tickets spent) {i : ι} {envelope : DeliveryEnvelope}
    {attempt : DeliveryRecord} (hticket : tickets i = some attempt) (hfor : envelope.IsFor attempt)
    {programs : ι → Option (Worker (List DeliveryWorkerResult))}
    (hprograms : ∀ j p, programs j = some p → Obeys p (Function.update tickets i none j)) :
    Accounts { s with programs } (Function.update tickets i none) (spent ++ [(envelope, attempt)]) := by
  refine { h.drop hprograms with unspent := ?_, injected := ?_, distinct := ?_ }
  · intro j a hj hmem
    obtain ⟨hji, hold⟩ := update_none_eq_some hj
    rw [List.map_append, List.mem_append, List.map_singleton, List.mem_singleton] at hmem
    rcases hmem with hmem | rfl
    · exact h.unspent j a hold hmem
    · exact hji (h.apart j i _ hold hticket)
  · intro x hx
    rw [List.mem_append, List.mem_singleton] at hx
    rcases hx with hx | rfl
    · exact h.injected x hx
    · exact ⟨h.held i attempt hticket, hfor⟩
  · rw [List.map_append, List.map_singleton, List.nodup_append]
    refine ⟨h.distinct, List.nodup_singleton _, fun a ha b hb heq => ?_⟩
    rw [List.mem_singleton] at hb
    rw [heq, hb] at ha
    exact h.unspent i attempt hticket ha

omit [Redactor] [Serialization] in
/-- A worker has a new ticket, which nobody had. -/
theorem issue (h : Accounts s tickets spent) {i : ι} {attempt : DeliveryRecord}
    (hstored : Stored s.shared attempt) (hheld : ∀ j, tickets j ≠ some attempt)
    (hspent : attempt ∉ spent.map Prod.snd)
    {programs : ι → Option (Worker (List DeliveryWorkerResult))}
    (hprograms : ∀ j p, programs j = some p → Obeys p (Function.update tickets i (some attempt) j)) :
    Accounts { s with programs } (Function.update tickets i (some attempt)) spent := by
  have hcases : ∀ {j a}, Function.update tickets i (some attempt) j = some a →
      (j = i ∧ a = attempt) ∨ (j ≠ i ∧ tickets j = some a) := by
    intro j a hj
    by_cases hji : j = i
    · rw [hji, Function.update_self, Option.some.injEq] at hj
      exact .inl ⟨hji, hj.symm⟩
    · rw [Function.update_of_ne hji] at hj
      exact .inr ⟨hji, hj⟩
  refine ⟨h.live, hprograms, fun j a hj => ?_, fun j k a hj hk => ?_, fun j a hj => ?_, h.injected,
    h.distinct⟩
  · rcases hcases hj with ⟨-, rfl⟩ | ⟨-, hj⟩
    · exact hstored
    · exact h.held j a hj
  · rcases hcases hj with ⟨rfl, rfl⟩ | ⟨-, hjold⟩
    · rcases hcases hk with ⟨rfl, -⟩ | ⟨-, hkold⟩
      · rfl
      · exact absurd hkold (hheld k)
    · rcases hcases hk with ⟨rfl, rfl⟩ | ⟨-, hkold⟩
      · exact absurd hjold (hheld j)
      · exact h.apart j k a hjold hkold
  · rcases hcases hj with ⟨-, rfl⟩ | ⟨-, hj⟩
    · exact hspent
    · exact h.unspent j a hj

/-- The accounts after a request was answered: a worker that called the adapter spent its ticket. -/
theorem answered (h : Accounts s tickets spent) {i : ι} {request : WorkerRequest}
    {next : Except WorkerError request.Reply → Worker (List DeliveryWorkerResult)}
    {reply : Except WorkerError request.Reply} (hi : s.programs i = some (.ask request next))
    (hanswers : request.answers s.shared reply t) :
    ∃ tickets spent', Accounts (s.set i t (some (next reply))) tickets spent'
      ∧ spent'.map Prod.fst = spent.map Prod.fst
        ++ (WorkerEvent.invocation (.asked i request reply)).toList := by
  obtain ⟨hmay, hnext⟩ := h.obeys i _ hi (tickets i) rfl
  have hobeys := hnext reply _ rfl
  have hgrown := h.grows (WorkerRequest.answers_continued h.live hanswers)
  -- the programs after the step, each with its ticket
  have hprograms : ∀ j p, (s.set i t (some (next reply))).programs j = some p →
      Obeys p (Function.update tickets i (ticketAfter (tickets i) request reply) j) := by
    intro j p hp
    by_cases hj : j = i
    · subst hj
      rw [Processes.set_self, Option.some.injEq] at hp
      rw [Function.update_self, ← hp]
      exact hobeys
    · rw [Processes.set_of_ne hj] at hp
      rw [Function.update_of_ne hj]
      exact h.obeys j p hp
  cases request
  case deliver envelope =>
    obtain ⟨attempt, hticket, hfor⟩ := hmay envelope rfl
    refine ⟨_, _, hgrown.spend hticket hfor hprograms, ?_⟩
    rw [List.map_append]
    rfl
  case beginDeliveryAttempt command =>
    refine ⟨Function.update tickets i (ticketAfter (tickets i) (.beginDeliveryAttempt command) reply),
      spent, ?_, (List.append_nil _).symm⟩
    cases hticket : ticketAfter (tickets i) (.beginDeliveryAttempt command) reply with
    | none =>
      rw [hticket] at hprograms
      exact hgrown.drop hprograms
    | some attempt =>
      obtain ⟨hstored, hnew⟩ := ticketAfter_fresh h.live hanswers hticket
      rw [hticket] at hprograms
      refine hgrown.issue hstored (fun j hj => hnew attempt (h.held j attempt hj) rfl) ?_ hprograms
      intro hmem
      obtain ⟨x, hx, rfl⟩ := List.mem_map.mp hmem
      exact hnew x.2 (h.injected x hx).1 rfl
  all_goals
    rw [show ticketAfter (tickets i) _ reply = tickets i from rfl, Function.update_eq_self] at hprograms
    exact ⟨tickets, spent, { hgrown with obeys := hprograms }, (List.append_nil _).symm⟩

/-- A step of the workers leads to accounts with its call of an adapter, if it makes one. -/
theorem step (h : Accounts s tickets spent) {event : WorkerEvent ι} {u : Workers ι}
    (hstep : Workers.Step s event u) :
    ∃ tickets spent', Accounts u tickets spent'
      ∧ spent'.map Prod.fst = spent.map Prod.fst ++ event.invocation.toList := by
  have hidle : ∀ (i : ι) (p : Worker (List DeliveryWorkerResult)), none = some p → Obeys p (tickets i) :=
    fun _ _ hp => by cases hp
  cases hstep with
  | started i program idle hstarts =>
    obtain ⟨call, rfl⟩ := hstarts
    refine ⟨tickets, spent, h.set fun p hp => ?_, (List.append_nil _).symm⟩
    cases hp
    exact call.obeys
  | asked i request next reply t hi hanswers => exact h.answered hi hanswers
  | returned i | raised i | stopped i =>
    exact ⟨tickets, spent, h.set (hidle i), (List.append_nil _).symm⟩
  | interfered t hothers =>
    obtain ⟨operation, rfl⟩ := hothers
    exact ⟨tickets, spent, h.grows (operation.perform_continued h.live).after,
      (List.append_nil _).symm⟩

/-- After every run of the workers there are accounts with all calls of an adapter. -/
theorem of_runs {events : List (WorkerEvent ι)} (h : Runs Workers.Step Workers.initial events s) :
    ∃ tickets spent, Accounts s tickets spent
      ∧ spent.map Prod.fst = events.filterMap WorkerEvent.invocation := by
  induction h with
  | refl => exact ⟨_, _, .initial, rfl⟩
  | snoc _ hlast ih =>
    obtain ⟨tickets, spent, haccounts, hspent⟩ := ih
    obtain ⟨tickets', spent', haccounts', hspent'⟩ := haccounts.step hlast
    refine ⟨tickets', spent', haccounts', ?_⟩
    rw [hspent', hspent, List.filterMap_append]
    rfl

end Accounts

/-! ## No double injection -/

omit [Hashing] [Integrity] [Redactor] [Serialization] in
/-- If no two entries of a list satisfy a condition, at most one does. -/
theorem length_filter_le_one {α : Type} {p : α → Bool} {xs : List α}
    (h : xs.Pairwise fun a b => ¬(p a = true ∧ p b = true)) : (xs.filter p).length ≤ 1 := by
  have hpairwise : (xs.filter p).Pairwise fun _ _ => False :=
    (h.filter p).imp_of_mem fun ha hb hnot =>
      hnot ⟨(List.mem_filter.mp ha).2, (List.mem_filter.mp hb).2⟩
  match hxs : xs.filter p with
  | [] => exact Nat.zero_le 1
  | [_] => exact le_rfl
  | a :: b :: rest =>
    rw [hxs, List.pairwise_cons] at hpairwise
    exact (hpairwise.1 b List.mem_cons_self).elim

namespace Accounts

variable {ι : Type} {s : Workers ι} {tickets : ι → Option DeliveryRecord}
  {spent : List (DeliveryEnvelope × DeliveryRecord)}

omit [Redactor] [Serialization] in
/-- If any two calls of a kind are for the same attempt, there is at most one of them. -/
theorem invocations_le_one (h : Accounts s tickets spent) {p : DeliveryEnvelope → Bool}
    (hsame : ∀ x y, x ∈ spent → y ∈ spent → p x.1 = true → p y.1 = true → y.2 = x.2) :
    ((spent.map Prod.fst).filter p).length ≤ 1 := by
  refine length_filter_le_one ?_
  rw [List.pairwise_map]
  have hdistinct : spent.Pairwise fun x y => x.2 ≠ y.2 := List.pairwise_map.mp h.distinct
  exact hdistinct.imp_of_mem fun hx hy hne ⟨hpx, hpy⟩ => hne (hsame _ _ hx hy hpx hpy).symm

omit [Redactor] [Serialization] in
/-- Two calls for one token of a run are for the same attempt. -/
theorem same_of_attemptId (h : Accounts s tickets spent) {x y : DeliveryEnvelope × DeliveryRecord}
    (hx : x ∈ spent) (hy : y ∈ spent) (hrun : x.1.runId = y.1.runId)
    (hattempt : x.1.attemptId = y.1.attemptId) : y.2 = x.2 := by
  obtain ⟨hxstored, hxfor⟩ := h.injected x hx
  obtain ⟨hystored, hyfor⟩ := h.injected y hy
  have hsame : x.2.runId = y.2.runId := by rw [← hxfor.runId_eq, ← hyfor.runId_eq, hrun]
  unfold Stored at hxstored hystored
  rw [← hsame] at hystored
  have hkey := (h.live.live x.2.runId).settled.deliveryInvariant.attempts _ _ _ _ hxstored hystored
    hxfor.attempting hyfor.attempting (by rw [← hxfor.attemptId_eq, ← hyfor.attemptId_eq, hattempt])
  rw [hkey, hxstored] at hystored
  exact (Option.some.inj hystored).symm

omit [Redactor] [Serialization] in
/-- Two calls for one delivery whose adapter does not deduplicate are for the same attempt. -/
theorem same_of_deliveryId (h : Accounts s tickets spent) {x y : DeliveryEnvelope × DeliveryRecord}
    (hx : x ∈ spent) (hy : y ∈ spent) {delivery : DeliveryRecord}
    (hdelivery : (s.shared x.1.runId).slot.projection.deliveries.get? x.1.deliveryId = some delivery)
    (hsingle : delivery.adapterDeduplicates = false)
    (hrun : x.1.runId = y.1.runId) (hid : x.1.deliveryId = y.1.deliveryId) : y.2 = x.2 := by
  obtain ⟨hxstored, hxfor⟩ := h.injected x hx
  obtain ⟨hystored, hyfor⟩ := h.injected y hy
  have hkept := (h.live.live x.1.runId).settled.deliveryInvariant.kept
  unfold Stored at hxstored hystored
  rw [← hxfor.runId_eq, ← hxfor.deliveryId_eq] at hxstored
  rw [← hyfor.runId_eq, ← hyfor.deliveryId_eq, ← hrun, ← hid] at hystored
  have hflag : ∀ {n d}, (s.shared x.1.runId).slot.projection.deliveryHistory.get?
      (x.1.deliveryId, n) = some d → d.adapterDeduplicates = false := by
    intro n d hd
    obtain ⟨latest, hlatest, hle⟩ := hkept.exists_latest hd
    obtain rfl := Option.some.inj (hdelivery.symm.trans hlatest)
    have hidentity := hkept.relation (R := fun v w : DeliveryRecord => w.identity = v.identity)
      (fun _ => rfl) (fun _ _ _ huv hvw => hvw.trans huv) (fun _ _ hnext => hnext.1) hd
      (hkept.stored hlatest) hle
    rw [← hsingle]
    exact (congrArg DeliveryIdentity.adapterDeduplicates hidentity).symm
  have hle := attempt_unique hkept hxstored hystored (hflag hxstored) hxfor.attempting hyfor.attempting
  have hge := attempt_unique hkept hystored hxstored (hflag hystored) hyfor.attempting hxfor.attempting
  rw [le_antisymm hle hge, hxstored] at hystored
  exact (Option.some.inj hystored).symm

end Accounts

/-- Delivery workers never inject twice, whatever they and others do on one repository and wherever
they stop. An adapter is called only while the revision of the attempt is stored, with the token of the
call; for each token of a run there is at most one call; and for a delivery whose adapter does not
deduplicate there is at most one call at all. -/
theorem never_injects_twice {ι : Type} [DecidableEq ι] {events : List (WorkerEvent ι)} {s : Workers ι}
    (h : Runs Workers.Step Workers.initial events s) :
    (∀ i envelope reply t, Workers.Step s (.asked i (.deliver envelope) reply) t →
      ∃ n attempt, (s.shared envelope.runId).slot.projection.deliveryHistory.get?
        (envelope.deliveryId, n) = some attempt ∧ attempt.state = .attempting
        ∧ attempt.attemptId = some envelope.attemptId)
    ∧ (∀ runId attemptId, ((events.filterMap WorkerEvent.invocation).filter fun envelope =>
      envelope.runId = runId ∧ envelope.attemptId = attemptId).length ≤ 1)
    ∧ ∀ runId deliveryId delivery,
      (s.shared runId).slot.projection.deliveries.get? deliveryId = some delivery →
      delivery.adapterDeduplicates = false →
      ((events.filterMap WorkerEvent.invocation).filter fun envelope =>
        envelope.runId = runId ∧ envelope.deliveryId = deliveryId).length ≤ 1 := by
  obtain ⟨tickets, spent, haccounts, hspent⟩ := Accounts.of_runs h
  refine ⟨fun i envelope reply t hstep => ?_, fun runId attemptId => ?_,
    fun runId deliveryId delivery hdelivery hsingle => ?_⟩
  · cases hstep with
    | asked _ _ next _ _ hi =>
      obtain ⟨hmay, -⟩ := haccounts.obeys i _ hi (tickets i) rfl
      obtain ⟨attempt, hticket, hfor⟩ := hmay envelope rfl
      have hstored := haccounts.held i attempt hticket
      unfold Stored at hstored
      rw [← hfor.runId_eq, ← hfor.deliveryId_eq] at hstored
      exact ⟨attempt.revision, attempt, hstored, hfor.attempting, hfor.attemptId_eq.symm⟩
  · rw [← hspent]
    refine haccounts.invocations_le_one fun x y hx hy hpx hpy => ?_
    simp only [decide_eq_true_eq] at hpx hpy
    exact haccounts.same_of_attemptId hx hy (hpx.1.trans hpy.1.symm) (hpx.2.trans hpy.2.symm)
  · rw [← hspent]
    refine haccounts.invocations_le_one fun x y hx hy hpx hpy => ?_
    simp only [decide_eq_true_eq] at hpx hpy
    rw [← hpx.1, ← hpx.2] at hdelivery
    exact haccounts.same_of_deliveryId hx hy hdelivery hsingle (hpx.1.trans hpy.1.symm)
      (hpx.2.trans hpy.2.symm)

end SalienceGate

/-! ### An injection

A run with a reminder, whose delivery a worker brings to its adapter. -/

namespace SalienceGate

section Outbox

attribute [local instance] jumpHashing plainRedactor collisionSerialization

/-- The tags of the run, which nothing changes. -/
local instance outboxIntegrity : Integrity where
  algorithm := .syntheticSha256
  mac _ := jumpTextDigest
  tagMac _ _ := jumpCycleId

/-- The event of the run, as its source gives it. -/
def outboxDraft : NormalizedTraceEventDraft := ⟨jumpEvent.toTraceEventDraftFields, by decide⟩

/-- The commit of the reminder of the run, for an adapter that deduplicates. -/
def outboxCommit : CommitCycle where
  runId := jumpId 1
  cycleId := jumpCycleId
  expectedRevision := 3
  settlement := jumpAmounts
  modelCallDigests := [jumpTextDigest]
  modelCallLatenciesUs := [0]
  validatedDelta := jumpCommitted.validatedDelta.get rfl
  memoryIdAssignments := []
  intervention := jumpIntervention
  selectorProvenance := none
  delivery := some {
    targetRequestId := jumpComponent
    adapterId := jumpComponent
    adapterDeduplicates := true
    adapterDeduplicationGuarantee := .durableDeliveryId
    adapterSupportsPreAction := false
    adapterContractVersion
    adapterCapabilitiesDigest := jumpTextDigest
    consistent := by decide }
  updatedAt := 0
  valid := by decide +kernel

/-- The operations that lead to the delivery. -/
def outboxOperations : List Operation :=
  [.append (.exact outboxDraft) none (some (jumpId 2)),
    .recordInvocationDecision (.exact jumpDecision),
    .beginCycle (.exact {
      runId := jumpId 1
      invocationDecisionId := jumpId 3
      groundingVersion := groundingPipelineVersion
      groundingConfiguration := jumpConfig.modelDump
      groundingConfigurationDigest := jumpGroundingDigest
      requestedDeliveryTarget := some .nextModelCall
      createdAt := 0 }),
    .reserveCycle (.exact {
      runId := jumpId 1
      cycleId := jumpCycleId
      expectedRevision := 1
      reservation := jumpAmounts
      updatedAt := 0
      positive := le_rfl }),
    .markCycleRunning (.exact {
      runId := jumpId 1
      cycleId := jumpCycleId
      expectedRevision := 2
      batchDigest := jumpTextDigest
      updatedAt := 0
      positive := by decide }),
    .commitCycle (.exact outboxCommit)]

/-- The delivery of the run. -/
def outboxId : UUID4 :=
  deliveryId (jumpId 1) jumpCycleId (jumpId 4) jumpComponent .nextModelCall jumpComponent
    jumpTextDigest jumpTextDigest

/-- A host whose adapter accepts every delivery, and whose identity factory makes one identity. -/
def outboxHost (newId : UUID4) : WorkerHost where
  capabilities := .exact {
    adapterId := jumpComponent
    preActionInterception := false
    deduplicatesDeliveryId := true
    deduplicationGuarantee := .durableDeliveryId
    injectionMappings := [⟨{ channel := .existingUserTask, role := .user }, by decide⟩]
    valid := by decide +kernel }
  deliver envelope := .ok (.exact {
    deliveryId := envelope.deliveryId
    attemptId := envelope.attemptId
    attemptNumber := envelope.attemptNumber
    adapterId := envelope.adapterId
    targetRequestId := envelope.targetRequestId
    deliveredAt := envelope.createdAt
    providerReceiptId := jumpComponent })
  newId := .exact newId

/-- A call to deliver it. -/
def outboxCall : WorkerCall := .deliver (.exact (jumpId 1)) (.exact outboxId) (.exact 0)

/-- The repository with the delivery. -/
def outboxRepository : Repository := performAll outboxOperations Repository.empty

/-- A worker at the call. -/
def outboxWorkers : Workers Unit := ⟨outboxRepository, fun _ => some outboxCall.program⟩

/-- What happens in the call. -/
def outboxEvents : List (WorkerEvent Unit) :=
  (outboxWorkers.schedule (fun _ => (outboxHost (jumpId 7)).answer) (List.replicate 9 ())).1

/-- An event calls the adapter for an attempt. -/
def isInjection (runId attemptId : UUID4) (event : WorkerEvent Unit) : Bool :=
  event.invocation.any fun envelope => envelope.runId = runId && envelope.attemptId = attemptId

/-- The operations, the start of the call and its steps are a run in which the adapter is called once,
for the attempt that the worker recorded. -/
theorem never_injects_twice_outbox : ∃ (events : List (WorkerEvent Unit)) (s : Workers Unit),
    Runs Workers.Step Workers.initial events s
      ∧ ((events.filterMap WorkerEvent.invocation).filter fun envelope =>
        envelope.runId = jumpId 1 ∧ envelope.attemptId = jumpId 7).length = 1 := by
  have hoperations : Runs Workers.Step (Workers.initial : Workers Unit)
      (outboxOperations.map fun _ => .interfered) ⟨outboxRepository, fun _ => none⟩ :=
    Workers.runs_performAll outboxOperations Workers.initial
  have hstarted : Workers.Step (⟨outboxRepository, fun _ => none⟩ : Workers Unit)
      (.started () outboxCall.program) outboxWorkers :=
    Workers.step_started outboxRepository outboxCall
  have hcalled := Workers.runs_schedule (fun _ => outboxHost (jumpId 7)) (List.replicate 9 ())
    outboxWorkers
  have hruns := (hoperations.trans (.single hstarted)).trans hcalled
  refine ⟨_, _, hruns, le_antisymm ((never_injects_twice hruns).2.1 (jumpId 1) (jumpId 7)) ?_⟩
  have hinjects : outboxEvents.any (isInjection (jumpId 1) (jumpId 7)) = true := by decide +kernel
  obtain ⟨event, hevent, hinjects⟩ := List.any_eq_true.mp hinjects
  obtain ⟨envelope, henvelope, hfor⟩ := (Option.any_eq_true ..).mp hinjects
  refine List.length_pos_of_mem (a := envelope) (List.mem_filter.mpr ⟨?_, by simpa using hfor⟩)
  refine List.mem_filterMap.mpr ⟨event, List.mem_append_right _ hevent, henvelope⟩

end Outbox

end SalienceGate
