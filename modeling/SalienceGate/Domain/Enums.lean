/-!
# Enumerations

The string enumerations of the domain, each with the string (`value`) that stands for a member in
a serialized record.
-/

namespace SalienceGate

/-- What a trace event records. -/
inductive EventType where
  | runStart | runEnd | modelOutput | actionProposal | toolStart | toolCompletion | observation
  | controllerError
deriving DecidableEq, Repr

/-- The phase of the run an event belongs to. -/
inductive EventPhase where
  | initialization | preAction | actionExecution | postAction | terminal | internal
deriving DecidableEq, Repr

/-- The kinds of signals a detector raises. -/
inductive SignalType where
  | toolError | testFailure | repeatedAction | repeatedFailure | contextShift | staleConstraint
  | stagnation | irreversibleAction | conflict
deriving DecidableEq, Repr

/-- The string of a member. -/
def SignalType.value : SignalType → String
  | .toolError => "tool_error"
  | .testFailure => "test_failure"
  | .repeatedAction => "repeated_action"
  | .repeatedFailure => "repeated_failure"
  | .contextShift => "context_shift"
  | .staleConstraint => "stale_constraint"
  | .stagnation => "stagnation"
  | .irreversibleAction => "irreversible_action"
  | .conflict => "conflict"

/-- The kinds of memory records. -/
inductive MemoryKind where
  | privateStatus | knowledge | procedural
deriving DecidableEq, Repr

/-- Whether a memory record still holds. -/
inductive ValidityState where
  | active | invalidated | expired | superseded
deriving DecidableEq, Repr

/-- The states of a memory cycle. -/
inductive CycleState where
  | pending | reserved | running | committed | failed
deriving DecidableEq, Repr

/-- The verdict of an intervention: stay silent, or remind. -/
inductive InterventionAction where
  | silence | remind
deriving DecidableEq, Repr

/-- The string of a member. -/
def InterventionAction.value : InterventionAction → String
  | .silence => "silence"
  | .remind => "remind"

/-- Where a reminder is delivered. -/
inductive DeliveryTarget where
  | nextModelCall | preActionReplan
deriving DecidableEq, Repr

/-- The string of a member. -/
def DeliveryTarget.value : DeliveryTarget → String
  | .nextModelCall => "next_model_call"
  | .preActionReplan => "pre_action_replan"

/-- The states of a delivery. -/
inductive DeliveryState where
  | pending | claimed | attempting | delivered | failed | unknown | rejected
deriving DecidableEq, Repr

/-- How a delivery ended. -/
inductive DeliveryOutcome where
  | delivered | failed | unknown | refused
deriving DecidableEq, Repr

/-- What an adapter promises about repeated deliveries. -/
inductive DeduplicationGuarantee where
  | atMostOnceAttempt | durableDeliveryId
deriving DecidableEq, Repr

/-- The algorithm behind a payload digest. -/
inductive PayloadDigestAlgorithm where
  | hmacSha256 | syntheticSha256
deriving DecidableEq, Repr

/-- The string of a member. -/
def PayloadDigestAlgorithm.value : PayloadDigestAlgorithm → String
  | .hmacSha256 => "hmac_sha256"
  | .syntheticSha256 => "synthetic_sha256"

/-- What an update does to the expiration of a memory record. -/
inductive ExpirationAction where
  | keep | set | clear
deriving DecidableEq, Repr

/-- Where a text comes from, and how far it is trusted. -/
inductive TrustLabel where
  | trustedRuntime | trustedController | untrustedTaskInput | untrustedToolOutput
  | untrustedModelOutput | untrustedExternalMemory | syntheticFixture
deriving DecidableEq, Repr

/-- The string of a member. -/
def TrustLabel.value : TrustLabel → String
  | .trustedRuntime => "trusted_runtime"
  | .trustedController => "trusted_controller"
  | .untrustedTaskInput => "untrusted_task_input"
  | .untrustedToolOutput => "untrusted_tool_output"
  | .untrustedModelOutput => "untrusted_model_output"
  | .untrustedExternalMemory => "untrusted_external_memory"
  | .syntheticFixture => "synthetic_fixture"

/-- What an evidence reference points to. -/
inductive EvidenceSource where
  | event | memory
deriving DecidableEq, Repr

/-- The string of a member. -/
def EvidenceSource.value : EvidenceSource → String
  | .event => "event"
  | .memory => "memory"

/-- The kinds of claims a reminder makes. -/
inductive ClaimKind where
  | requirement | environmentFact | failedAttempt | diagnosis | openSubgoal
deriving DecidableEq, Repr

/-- The string of a member. -/
def ClaimKind.value : ClaimKind → String
  | .requirement => "requirement"
  | .environmentFact => "environment_fact"
  | .failedAttempt => "failed_attempt"
  | .diagnosis => "diagnosis"
  | .openSubgoal => "open_subgoal"

/-- Whether an error came back after an intervention. -/
inductive RepeatedErrorStatus where
  | avoided | repeated | notObserved | unknown
deriving DecidableEq, Repr

/-- Whether a constraint was kept after an intervention. -/
inductive ConstraintStatus where
  | respected | violated | notObserved | unknown
deriving DecidableEq, Repr

/-- How useful an intervention was. -/
inductive UtilityLabel where
  | helpful | harmful | redundant | unresolved
deriving DecidableEq, Repr

/-- How an outcome was established. -/
inductive OutcomeEvidenceMode where
  | liveObservation | deterministicOracle | pairedRollout | policyReplay
deriving DecidableEq, Repr

/-- The reason codes of every decision, verdict and failure. -/
inductive ReasonCode where
  | bootstrap | policyAlways | policyNever | scriptedInvoke | scriptedSilence | scriptExhausted
  | budgetExhausted | cooldownActive | watchdog | hardSignal | riskThresholdMet
  | riskBelowThreshold | toolError | testFailure | repeatedAction | repeatedFailure | contextShift
  | staleConstraint | stagnation | irreversibleAction | conflict | mandatoryInputOverflow
  | reminderAccepted | silenceSelected | groundedReminder | noGroundedClaims | ungrounded
  | invalidProvenance | citationMissing | citationCrossRun | citationExpired | citationInvalidated
  | claimOverLimit | duplicateReminder | cooldownBlocked | unsupportedDeliveryTarget
  | unsupportedDeliveryChannel | unsafeRoleMapping | targetUnavailable | deliverySucceeded
  | deliveryFailed | deliveryUnknown | schemaInvalid | invalidStructuredOutput | modelError
  | modelTimeout | memoryConflict | repositoryUnavailable | sourceEventCollision
  | failedUnknownCost | noIntervention
deriving DecidableEq, Repr

/-- The string of a member. -/
def ReasonCode.value : ReasonCode → String
  | .bootstrap => "bootstrap"
  | .policyAlways => "always_invoke"
  | .policyNever => "never_invoke"
  | .scriptedInvoke => "scripted_invoke"
  | .scriptedSilence => "scripted_silence"
  | .scriptExhausted => "script_exhausted"
  | .budgetExhausted => "budget_exhausted"
  | .cooldownActive => "cooldown_active"
  | .watchdog => "watchdog"
  | .hardSignal => "hard_signal"
  | .riskThresholdMet => "risk_threshold_met"
  | .riskBelowThreshold => "risk_below_threshold"
  | .toolError => "tool_error"
  | .testFailure => "test_failure"
  | .repeatedAction => "repeated_action"
  | .repeatedFailure => "repeated_failure"
  | .contextShift => "context_shift"
  | .staleConstraint => "stale_constraint"
  | .stagnation => "stagnation"
  | .irreversibleAction => "irreversible_action"
  | .conflict => "conflict"
  | .mandatoryInputOverflow => "mandatory_input_overflow"
  | .reminderAccepted => "reminder_accepted"
  | .silenceSelected => "silence_selected"
  | .groundedReminder => "grounded_reminder"
  | .noGroundedClaims => "no_grounded_claims"
  | .ungrounded => "ungrounded"
  | .invalidProvenance => "invalid_provenance"
  | .citationMissing => "citation_missing"
  | .citationCrossRun => "citation_cross_run"
  | .citationExpired => "citation_expired"
  | .citationInvalidated => "citation_invalidated"
  | .claimOverLimit => "claim_over_limit"
  | .duplicateReminder => "duplicate_reminder"
  | .cooldownBlocked => "cooldown_blocked"
  | .unsupportedDeliveryTarget => "unsupported_delivery_target"
  | .unsupportedDeliveryChannel => "unsupported_delivery_channel"
  | .unsafeRoleMapping => "unsafe_role_mapping"
  | .targetUnavailable => "target_unavailable"
  | .deliverySucceeded => "delivery_succeeded"
  | .deliveryFailed => "delivery_failed"
  | .deliveryUnknown => "delivery_unknown"
  | .schemaInvalid => "schema_invalid"
  | .invalidStructuredOutput => "invalid_structured_output"
  | .modelError => "model_error"
  | .modelTimeout => "model_timeout"
  | .memoryConflict => "memory_conflict"
  | .repositoryUnavailable => "repository_unavailable"
  | .sourceEventCollision => "source_event_collision"
  | .failedUnknownCost => "failed_unknown_cost"
  | .noIntervention => "no_intervention"

end SalienceGate
