import SalienceGate.Repository.Batch

/-!
# Operations and runs

The operations of the repository that change it, as one type, and the states that any sequence of
them reaches from an empty repository. An operation that raises is a step too: it leaves behind what
it assigned before the error.
-/

namespace SalienceGate

variable [Hashing]

/-- An operation with its arguments. `newId` is what the identity factory makes, if it is a
version-4 UUID. -/
inductive Operation where
  | append (event : Argument NormalizedTraceEventDraft) (eventId : Option (Argument UUID4))
      (newId : Option UUID4)
  | appendEventIfHead (event : Argument NormalizedTraceEventDraft) (eventId : Argument UUID4)
      (expectedHead : Option (Argument LedgerHead))
  | appendRecordsIfHead (operations : Argument (List (Argument ConditionalAppendOperation)))
      (expectedHead : Option (Argument LedgerHead))
  | recordSignal (signal : Argument Signal)
  | recordSignalIfHead (signal : Argument Signal) (expectedHead : Argument LedgerHead)
  | recordInvocationDecision (decision : Argument InvocationDecision)
  | recordOutcome (outcome : Argument InterventionOutcome)
  | beginCycle (command : Argument BeginCycle)
  | reserveCycle (command : Argument ReserveCycle)
  | markCycleRunning (command : Argument StartCycle)
  | commitCycle (command : Argument CommitCycle)
  | failCycle (command : Argument FailCycle)
  | recoverCycles (runId : Argument UUID4) (recoveredAt : Argument UtcDatetime)
  | claimDelivery (command : Argument ClaimDelivery)
  | beginDeliveryAttempt (command : Argument BeginDeliveryAttempt)
  | completeDelivery (command : Argument CompleteDelivery)
  | markDeliveryUnknown (command : Argument MarkDeliveryUnknown)
  | rejectDelivery (command : Argument RejectDelivery)
  | recoverDeliveries (runId : Argument UUID4) (recoveredAt : Argument UtcDatetime)
  | rebuild (runId : Argument UUID4)

variable [Integrity] [Redactor] [Serialization]

/-- What an operation returns. -/
inductive OperationReceipt where
  | event (receipt : AppendReceipt)
  | batch (receipt : ConditionalBatchReceipt)
  | direct (receipt : LedgerReceipt)
  | cycle (receipt : CycleReceipt)
  | cycleRecovery (receipt : CycleRecoveryReceipt)
  | delivery (receipt : DeliveryTransitionReceipt)
  | attempt (receipt : DeliveryAttemptReceipt)
  | deliveryRecovery (receipt : DeliveryRecoveryReceipt)
  | rebuilt (receipt : RebuildReceipt)

/-- The method of an operation. -/
def Operation.perform : Operation → RepositoryM OperationReceipt
  | .append event eventId newId => .event <$> SalienceGate.append event eventId newId
  | .appendEventIfHead event eventId expectedHead =>
    .event <$> SalienceGate.appendEventIfHead event eventId expectedHead
  | .appendRecordsIfHead operations expectedHead =>
    .batch <$> SalienceGate.appendRecordsIfHead operations expectedHead
  | .recordSignal signal => .direct <$> SalienceGate.recordSignal signal
  | .recordSignalIfHead signal expectedHead =>
    .direct <$> SalienceGate.recordSignalIfHead signal expectedHead
  | .recordInvocationDecision decision =>
    .direct <$> SalienceGate.recordInvocationDecision decision
  | .recordOutcome outcome => .direct <$> SalienceGate.recordOutcome outcome
  | .beginCycle command => .cycle <$> SalienceGate.beginCycle command
  | .reserveCycle command => .cycle <$> SalienceGate.reserveCycle command
  | .markCycleRunning command => .cycle <$> SalienceGate.markCycleRunning command
  | .commitCycle command => .cycle <$> SalienceGate.commitCycle command
  | .failCycle command => .cycle <$> SalienceGate.failCycle command
  | .recoverCycles runId recoveredAt =>
    .cycleRecovery <$> SalienceGate.recoverCycles runId recoveredAt
  | .claimDelivery command => .delivery <$> SalienceGate.claimDelivery command
  | .beginDeliveryAttempt command => .attempt <$> SalienceGate.beginDeliveryAttempt command
  | .completeDelivery command => .delivery <$> SalienceGate.completeDelivery command
  | .markDeliveryUnknown command => .delivery <$> SalienceGate.markDeliveryUnknown command
  | .rejectDelivery command => .delivery <$> SalienceGate.rejectDelivery command
  | .recoverDeliveries runId recoveredAt =>
    .deliveryRecovery <$> SalienceGate.recoverDeliveries runId recoveredAt
  | .rebuild runId => .rebuilt <$> SalienceGate.rebuild runId

/-- A state that a sequence of operations reaches, with `C` true of each of them in the state in
which it runs. -/
inductive ReachableBy (C : Repository → Operation → Prop) : Repository → Prop where
  | empty : ReachableBy C Repository.empty
  | step (repository : Repository) (operation : Operation) (reached : ReachableBy C repository)
      (meets : C repository operation) :
      ReachableBy C (Stateful.after operation.perform repository)

/-- A state that a sequence of operations reaches. -/
abbrev Reachable : Repository → Prop := ReachableBy fun _ _ => True

/-- What every operation preserves holds in every reachable state. -/
theorem ReachableBy.invariant {C : Repository → Operation → Prop} {I : Repository → Prop}
    {repository : Repository} (h : ReachableBy C repository) (hempty : I Repository.empty)
    (hstep : ∀ repository operation, I repository → C repository operation →
      I (Stateful.after operation.perform repository)) : I repository := by
  induction h with
  | empty => exact hempty
  | step repository operation _ meets ih => exact hstep repository operation ih meets

/-- The state after a sequence of operations. -/
def performAll (operations : List Operation) (repository : Repository) : Repository :=
  operations.foldl (fun repository operation => Stateful.after operation.perform repository) repository

/-- A sequence of operations that meet the condition in every state leads from a reachable state to a
reachable state. -/
theorem ReachableBy.performAll {C : Repository → Operation → Prop} {repository : Repository}
    (h : ReachableBy C repository) (hC : ∀ repository operation, C repository operation)
    (operations : List Operation) : ReachableBy C (performAll operations repository) := by
  unfold SalienceGate.performAll
  induction operations generalizing repository with
  | nil => exact h
  | cons operation operations ih =>
    exact ih (.step repository operation h (hC repository operation))

/-- A sequence of operations leads from a reachable state to a reachable state. -/
theorem reachable_performAll {repository : Repository} (h : Reachable repository)
    (operations : List Operation) : Reachable (performAll operations repository) :=
  h.performAll (fun _ _ => trivial) operations

end SalienceGate
