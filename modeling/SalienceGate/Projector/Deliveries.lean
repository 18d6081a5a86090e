import SalienceGate.Projector.Accepted

/-!
# The deliveries of a run

A reminder has one delivery, which is claimed, attempted and completed. The tokens of claims and
attempts are new in the whole run, a completion carries the tokens of the attempt it completes, and
an adapter that does not deduplicate is never attempted twice. The attempt count, on the other hand,
is only checked outside of claims: `attemptsCounted_iff` says exactly when it counts the attempts.
-/

namespace SalienceGate

open Checked Lifecycle

variable [Hashing] {p q : Projection} {record : LedgerRecord}

/-! ## The invariant -/

/-- The deliveries of a projection. -/
structure DeliveryInvariant (p : Projection) : Prop where
  kept : deliveryLifecycle.Kept p.deliveryHistory p.deliveries
  /-- No two deliveries are of one intervention. -/
  single : ∀ i j d e, p.deliveries.get? i = some d → p.deliveries.get? j = some e →
    d.interventionId = e.interventionId → j = i
  /-- No two claims have one owner. -/
  claims : ∀ k l d e, p.deliveryHistory.get? k = some d → p.deliveryHistory.get? l = some e →
    d.state = .claimed → e.state = .claimed → d.claimId = e.claimId → l = k
  /-- No two attempts have one token. -/
  attempts : ∀ k l d e, p.deliveryHistory.get? k = some d → p.deliveryHistory.get? l = some e →
    d.state = .attempting → e.state = .attempting → d.attemptId = e.attemptId → l = k

theorem deliveryInvariant_empty (runId : UUID4) : DeliveryInvariant (emptyProjection runId) where
  kept := .empty
  single i j d e h := by cases h
  claims k l d e h := by cases h
  attempts k l d e h := by cases h

omit [Hashing] in
/-- A key that only new records have stays unique when a record with a new key is added. -/
theorem unique_set {κ ν τ : Type} [DecidableEq κ] {history : Dict κ ν} {k₀ : κ} {v₀ : ν}
    {p : ν → Prop} {token : ν → τ}
    (h : ∀ k l v w, history.get? k = some v → history.get? l = some w → p v → p w →
      token v = token w → l = k)
    (hnew : p v₀ → ∀ v ∈ history.values, token v ≠ token v₀) :
    ∀ k l v w, (history.set k₀ v₀).get? k = some v → (history.set k₀ v₀).get? l = some w →
      p v → p w → token v = token w → l = k := by
  intro k l v w hv hw hpv hpw heq
  rcases Dict.get?_set_eq_some.mp hv with ⟨rfl, rfl⟩ | ⟨-, hold⟩
  · rcases Dict.get?_set_eq_some.mp hw with ⟨rfl, -⟩ | ⟨-, hold⟩
    · rfl
    · exact absurd heq.symm (hnew hpv w (Dict.mem_values.mpr ⟨l, hold⟩))
  · rcases Dict.get?_set_eq_some.mp hw with ⟨rfl, rfl⟩ | ⟨-, hold'⟩
    · exact absurd heq (hnew hpw v (Dict.mem_values.mpr ⟨k, hold⟩))
    · exact h k l v w hold hold' hpv hpw heq

/-- A revision keeps the deliveries of the interventions apart. -/
theorem single_addDelivery {delivery : DeliveryRecord} {cycle : CycleRecord}
    {intervention : InterventionDecision} (hp : DeliveryInvariant p)
    (hchecked : OutboxChecked p delivery cycle intervention) :
    ∀ i j d e, (p.deliveries.set delivery.deliveryId delivery).get? i = some d →
      (p.deliveries.set delivery.deliveryId delivery).get? j = some e →
      d.interventionId = e.interventionId → j = i := by
  -- no other delivery is of the intervention
  have hother : ∀ j e, j ≠ delivery.deliveryId → p.deliveries.get? j = some e →
      e.interventionId ≠ delivery.interventionId := by
    intro j e hj he
    cases hchecked.accepts with
    | first fresh => exact (hchecked.first fresh).1 e (Dict.mem_values.mpr ⟨j, he⟩)
    | later previous current number next =>
      intro heq
      have hsame : delivery.interventionId = previous.interventionId :=
        congrArg DeliveryIdentity.interventionId next.1
      exact hj (hp.single delivery.deliveryId j previous e current he
        (hsame.symm.trans heq.symm))
  intro i j d e hd he heq
  rcases Dict.get?_set_eq_some.mp hd with ⟨rfl, rfl⟩ | ⟨hi, hold⟩
  · rcases Dict.get?_set_eq_some.mp he with ⟨rfl, -⟩ | ⟨hj, hold⟩
    · rfl
    · exact absurd heq.symm (hother j e hj hold)
  · rcases Dict.get?_set_eq_some.mp he with ⟨rfl, rfl⟩ | ⟨hj, hold'⟩
    · exact absurd heq (hother i d hi hold)
    · exact hp.single i j d e hold hold' heq

/-- An accepted entry keeps the deliveries. -/
theorem delivery_accepted (hp : DeliveryInvariant p) (h : Accepted p record q) :
    DeliveryInvariant q := by
  cases h with
  | event | signal | outcome | decision | cycle | commit =>
    exact ⟨hp.kept, hp.single, hp.claims, hp.attempts⟩
  | delivery delivery cycle intervention checked =>
    exact ⟨hp.kept.store checked.accepts, single_addDelivery hp checked,
      unique_set hp.claims checked.claim, unique_set hp.attempts checked.attempt⟩

/-- The delivery invariant holds after every ledger. -/
theorem deliveryInvariant {runId : UUID4} (run : LedgerRun runId) :
    DeliveryInvariant run.final :=
  ledger_invariant run (deliveryInvariant_empty runId) fun _ _ _ _ hp h => delivery_accepted hp h

/-! ## The revisions of a delivery -/

section Revisions

variable {history : Dict (UUID4 × ℕ) DeliveryRecord} {latest : Dict UUID4 DeliveryRecord}
  {id : UUID4} {m n : ℕ} {d e : DeliveryRecord}

omit [Hashing]

/-- How far a delivery is, when it may not be retried. -/
def DeliveryState.progress : DeliveryState → ℕ
  | .pending => 0
  | .claimed => 1
  | .attempting => 2
  | .unknown => 3
  | .delivered | .failed | .rejected => 4

/-- Without deduplication every revision is a progress. -/
theorem progress_lt (hnext : deliveryLifecycle.next d e) (hd : d.adapterDeduplicates = false) :
    e.adapterDeduplicates = false ∧ d.state.progress < e.state.progress := by
  obtain ⟨hidentity, -, htransition, hownership⟩ := hnext
  have hsame : e.adapterDeduplicates = false :=
    (congrArg DeliveryIdentity.adapterDeduplicates hidentity).trans hd
  refine ⟨hsame, ?_⟩
  cases hs : d.state <;> cases ht : e.state <;>
    simp_all [deliveryTransitions, deliveryOwnership, DeliveryState.progress]

/-- A delivery without deduplication is attempted at most once. -/
theorem attempt_unique (h : deliveryLifecycle.Kept history latest)
    (hd : history.get? (id, m) = some d) (he : history.get? (id, n) = some e)
    (hsingle : d.adapterDeduplicates = false) (hstate : d.state = .attempting)
    (hstate' : e.state = .attempting) : n ≤ m := by
  by_contra hlt
  obtain ⟨f, hf⟩ := h.exists_of_le he (Nat.le_add_left 1 m) (not_le.mp hlt)
  obtain ⟨hfsingle, hfprogress⟩ := progress_lt (h.next hd hf) hsingle
  have hle := h.relation (R := fun v w : DeliveryRecord => v.adapterDeduplicates = false →
      w.adapterDeduplicates = false ∧ v.state.progress ≤ w.state.progress)
    (fun _ hv => ⟨hv, le_rfl⟩)
    (fun _ _ _ huv hvw hu => ⟨(hvw (huv hu).1).1, (huv hu).2.trans (hvw (huv hu).1).2⟩)
    (fun _ _ hnext hv => ⟨(progress_lt hnext hv).1, (progress_lt hnext hv).2.le⟩)
    hf he (not_le.mp hlt) hfsingle
  rw [hstate] at hfprogress
  rw [hstate'] at hle
  exact absurd (hfprogress.trans_le hle.2) (lt_irrefl _)

/-- The attempt that a revision belongs to: the latest one up to it. -/
structure LatestAttempt (history : Dict (UUID4 × ℕ) DeliveryRecord) (id : UUID4) (n : ℕ)
    (attempt : DeliveryRecord) : Prop where
  stored : ∃ m, m ≤ n ∧ history.get? (id, m) = some attempt
    ∧ ∀ k later, m < k → k ≤ n → history.get? (id, k) = some later → later.state ≠ .attempting
  attempting : attempt.state = .attempting

/-- A completed or unknown delivery carries the tokens of its latest attempt. -/
theorem completion_tokens (h : deliveryLifecycle.Kept history latest)
    (hd : history.get? (id, n) = some d)
    (hstate : d.state ∈ [DeliveryState.attempting, .delivered, .failed, .unknown]) :
    ∃ attempt, LatestAttempt history id n attempt ∧ d.claimId = attempt.claimId
      ∧ d.attemptId = attempt.attemptId := by
  revert hstate
  refine h.induction (P := fun n d => d.state ∈ [DeliveryState.attempting, .delivered, .failed,
      .unknown] → ∃ attempt, LatestAttempt history id n attempt ∧ d.claimId = attempt.claimId
      ∧ d.attemptId = attempt.attemptId) ?_ ?_ hd
  · intro v hv hstart hstate
    have hpending : v.state = .pending := hstart
    simp [hpending] at hstate
  · intro n v w hv hw hnext ih hstate
    by_cases hattempting : w.state = .attempting
    · exact ⟨w, ⟨⟨n + 1, le_rfl, hw, fun k _ hk hk' => by omega⟩, hattempting⟩, rfl, rfl⟩
    -- a completion follows an attempt or an unknown outcome, with the same tokens
    obtain ⟨-, -, htransition, hownership⟩ := hnext
    have hboth : v.state ∈ [DeliveryState.attempting, .delivered, .failed, .unknown]
        ∧ w.claimId = v.claimId ∧ w.attemptId = v.attemptId := by
      cases hs : v.state <;> cases ht : w.state <;>
        simp_all [deliveryTransitions, deliveryOwnership]
    obtain ⟨hvstate, hclaim, hattempt⟩ := hboth
    obtain ⟨attempt, ⟨⟨m, hm, hstored, hlast⟩, hstate'⟩, hclaim', hattempt'⟩ := ih hvstate
    refine ⟨attempt, ⟨⟨m, hm.trans (Nat.le_succ n), hstored, fun k later hk hkn hlater => ?_⟩,
      hstate'⟩, hclaim.trans hclaim', hattempt.trans hattempt'⟩
    rcases Nat.eq_or_lt_of_le hkn with rfl | hlt
    · rw [hw] at hlater
      cases hlater
      exact hattempting
    · exact hlast k later hk (Nat.lt_succ_iff.mp hlt) hlater

end Revisions

/-- The deliveries of a run. An intervention has at most one delivery; the revisions of a delivery
are numbered from 1, with one identity, and a delivered, failed or rejected one is the last; no two
claims in the run have one owner, and no two attempts one token; a delivery without deduplication
is attempted at most once; and a delivered, failed or unknown revision carries the tokens of the
latest attempt. -/
theorem delivery_ledger {runId : UUID4} (run : LedgerRun runId) :
    (∀ i j d e, run.final.deliveries.get? i = some d → run.final.deliveries.get? j = some e →
      d.interventionId = e.interventionId → i = j)
    ∧ (∀ id, (id ∈ run.final.deliveries ∨ ∃ m, (id, m) ∈ run.final.deliveryHistory) →
      ∃ n latest, 1 ≤ n ∧ latest.revision = n ∧ run.final.deliveries.get? id = some latest
        ∧ (∀ m, (id, m) ∈ run.final.deliveryHistory ↔ 1 ≤ m ∧ m ≤ n)
        ∧ ∀ m d, run.final.deliveryHistory.get? (id, m) = some d →
          d.deliveryId = id ∧ d.revision = m ∧ d.identity = latest.identity
          ∧ (d.state ∈ [DeliveryState.delivered, .failed, .rejected] → m = n))
    ∧ (∀ k l d e, run.final.deliveryHistory.get? k = some d →
      run.final.deliveryHistory.get? l = some e →
      (d.state = .claimed → e.state = .claimed → d.claimId = e.claimId → k = l)
      ∧ (d.state = .attempting → e.state = .attempting → d.attemptId = e.attemptId → k = l))
    ∧ (∀ id m n d e, run.final.deliveryHistory.get? (id, m) = some d →
      run.final.deliveryHistory.get? (id, n) = some e → d.adapterDeduplicates = false →
      d.state = .attempting → e.state = .attempting → m = n)
    ∧ ∀ id n d, run.final.deliveryHistory.get? (id, n) = some d →
      d.state ∈ [DeliveryState.delivered, .failed, .unknown] →
      ∃ attempt, LatestAttempt run.final.deliveryHistory id n attempt
        ∧ d.claimId = attempt.claimId ∧ d.attemptId = attempt.attemptId := by
  obtain ⟨hkept, hsingle, hclaims, hattempts⟩ := deliveryInvariant run
  have hidentity : ∀ {id m n d e}, run.final.deliveryHistory.get? (id, m) = some d →
      run.final.deliveryHistory.get? (id, n) = some e → m ≤ n → e.identity = d.identity :=
    fun hd he hmn => hkept.relation (R := fun v w : DeliveryRecord => w.identity = v.identity)
      (fun _ => rfl) (fun _ _ _ huv hvw => hvw.trans huv) (fun _ _ hnext => hnext.1) hd he hmn
  refine ⟨fun i j d e hd he heq => (hsingle i j d e hd he heq).symm, fun id hid => ?_,
    fun k l d e hd he => ⟨fun hs ht heq => (hclaims k l d e hd he hs ht heq).symm,
      fun hs ht heq => (hattempts k l d e hd he hs ht heq).symm⟩,
    fun id m n d e hd he hdedup hs ht => ?_, fun id n d hd hstate => ?_⟩
  · obtain ⟨latest, hlatest⟩ : ∃ latest, run.final.deliveries.get? id = some latest := by
      rcases hid with hid | ⟨m, hm⟩
      · exact Dict.mem_iff.mp hid
      · obtain ⟨latest, hlatest, -⟩ := hkept.contiguous.mp hm
        exact ⟨latest, hlatest⟩
    refine ⟨latest.revision, latest, hkept.one_le_latest hlatest, rfl, hlatest,
      fun m => (hkept.contiguous (i := id) (n := m)).trans ?_, fun m d hd =>
      ⟨(hkept.key hd).1, (hkept.key hd).2, ?_, fun hended => ?_⟩⟩
    · simp only [hlatest, Option.some.injEq, exists_eq_left']
      rfl
    · obtain ⟨found, hfound, hle⟩ := hkept.exists_latest hd
      rw [hlatest] at hfound
      cases hfound
      exact (hidentity hd (hkept.stored hlatest) hle).symm
    · have hlast := hkept.latest_of_last hd fun w hnext => by
        have hmem := hnext.2.2.1
        simp only [List.mem_cons, List.not_mem_nil, or_false] at hended
        rcases hended with hended | hended | hended <;> simp [hended, deliveryTransitions] at hmem
      rw [hlatest] at hlast
      cases hlast
      exact (hkept.key hd).2.symm
  · rcases Nat.le_total m n with hmn | hnm
    · exact hmn.antisymm (attempt_unique hkept hd he hdedup hs ht)
    · have hededup : e.adapterDeduplicates = false := by
        rw [← hdedup]
        exact congrArg DeliveryIdentity.adapterDeduplicates (hidentity he hd hnm).symm
      exact (attempt_unique hkept he hd hededup ht hs).antisymm hnm
  · exact completion_tokens hkept hd (List.mem_cons_of_mem _ hstate)

/-! ## The attempt count -/

/-- A revision that is an attempt. -/
def DeliveryRecord.isAttempt (delivery : DeliveryRecord) : Bool := delivery.state = .attempting

/-- The attempt count of every revision is the number of attempts up to it. -/
def AttemptsCounted (p : Projection) : Prop :=
  ∀ id n delivery, p.deliveryHistory.get? (id, n) = some delivery →
    delivery.attemptCount = countThrough DeliveryRecord.isAttempt p.deliveryHistory id n

/-- A claim of a delivery has the attempt count of the revision before. -/
def ClaimKeepsCount (p : Projection) (entry : LedgerEntry) : Prop :=
  ∀ delivery previous, entry.record = .deliveryRecord delivery → delivery.state = .claimed →
    p.deliveries.get? delivery.deliveryId = some previous →
    delivery.attemptCount = previous.attemptCount

/-- A new revision is counted right exactly if it keeps the count of the revision before, or is an
attempt and adds one. -/
theorem attemptsCounted_set {delivery : DeliveryRecord}
    (hkept : deliveryLifecycle.Kept p.deliveryHistory p.deliveries)
    (haccepts : deliveryLifecycle.Accepts p.deliveries delivery) :
    AttemptsCounted (p.addDelivery delivery) ↔ AttemptsCounted p
      ∧ (delivery.state = .claimed → ∀ previous,
        p.deliveries.get? delivery.deliveryId = some previous →
        delivery.attemptCount = previous.attemptCount) := by
  have hfresh : (delivery.deliveryId, delivery.revision) ∉ p.deliveryHistory :=
    hkept.notMem_of_accepts haccepts
  -- the counts of the old revisions stay
  have hold : ∀ {id n d}, p.deliveryHistory.get? (id, n) = some d →
      countThrough DeliveryRecord.isAttempt (p.addDelivery delivery).deliveryHistory id n
        = countThrough DeliveryRecord.isAttempt p.deliveryHistory id n := by
    intro id n d hd
    refine countThrough_set fun hid => ?_
    subst hid
    by_contra hle
    obtain ⟨v, hv⟩ := hkept.exists_of_le hd delivery.one_le_revision (not_lt.mp hle)
    exact hfresh (Dict.mem_of_get? hv)
  have hsplit : AttemptsCounted (p.addDelivery delivery) ↔ AttemptsCounted p
      ∧ delivery.attemptCount = countThrough DeliveryRecord.isAttempt
        (p.addDelivery delivery).deliveryHistory delivery.deliveryId delivery.revision := by
    constructor
    · intro h
      refine ⟨fun id n d hd => ?_, h _ _ delivery Dict.get?_set_self⟩
      rw [← hold hd]
      exact h id n d (Dict.get?_set_of_notMem hfresh hd)
    · rintro ⟨h, hnew⟩ id n d hd
      rcases Dict.get?_set_eq_some.mp hd with ⟨hk, rfl⟩ | ⟨-, hd⟩
      · cases hk
        exact hnew
      · rw [hold hd]
        exact h id n d hd
  rw [hsplit]
  refine and_congr_right fun hcounted => ?_
  cases haccepts with
  | first fresh number start =>
    have hpending : delivery.state = .pending := start
    have hnone : p.deliveries.get? delivery.deliveryId = none := fresh
    have hone : delivery.revision = 0 + 1 := number
    have hself : (p.addDelivery delivery).deliveryHistory.get?
        (delivery.deliveryId, 0 + 1) = some delivery := by
      rw [← hone]
      exact Dict.get?_set_self
    rw [hone, countThrough_succ hself]
    simp [delivery.attemptCount_pending hpending, DeliveryRecord.isAttempt, hpending]
  | later previous current number next =>
    have hprevious : p.deliveries.get? delivery.deliveryId = some previous := current
    have hnumber : delivery.revision = previous.revision + 1 := number
    have hstored : p.deliveryHistory.get? (delivery.deliveryId, previous.revision) = some previous :=
      hkept.stored current
    have hself : (p.addDelivery delivery).deliveryHistory.get?
        (delivery.deliveryId, previous.revision + 1) = some delivery := by
      rw [← hnumber]
      exact Dict.get?_set_self
    have hcount := (hcounted _ _ previous hstored).trans (hold hstored).symm
    rw [hnumber, countThrough_succ hself, ← hcount]
    obtain ⟨-, -, -, hownership⟩ := next
    cases hs : delivery.state <;>
      simp_all [DeliveryRecord.isAttempt, deliveryOwnership]

/-- An accepted entry keeps the count of the attempts exactly if a claim keeps it. -/
theorem attemptsCounted_accepted {entry : LedgerEntry} (hp : DeliveryInvariant p)
    (h : Accepted p entry.record q) :
    AttemptsCounted q ↔ AttemptsCounted p ∧ ClaimKeepsCount p entry := by
  have hother : (∀ delivery, entry.record ≠ .deliveryRecord delivery) →
      (AttemptsCounted p ↔ AttemptsCounted p ∧ ClaimKeepsCount p entry) := fun hne =>
    (and_iff_left fun delivery _ heq => absurd heq (hne delivery)).symm
  generalize hrecord : entry.record = record at h
  cases h with
  | event | signal | outcome | decision | cycle | commit => exact hother (by simp [hrecord])
  | delivery delivery cycle intervention checked =>
    rw [attemptsCounted_set hp.kept checked.accepts]
    refine and_congr_right fun _ => ⟨fun hclaim d previous heq hstate hprevious => ?_,
      fun hclaim hstate previous hprevious => hclaim delivery previous hrecord hstate hprevious⟩
    rw [hrecord] at heq
    cases heq
    exact hclaim hstate previous hprevious

/-- The attempt counts of a run count the attempts exactly if every claim kept the count of the
revision before it. -/
theorem attemptsCounted_iff {runId : UUID4} (run : LedgerRun runId) :
    AttemptsCounted run.final
      ↔ Replay.StepsMeet applyEntry ClaimKeepsCount (emptyProjection runId) run.entries := by
  have hiff := Replay.replay_iff_stepsMeet (P := AttemptsCounted) (C := ClaimKeepsCount)
    (fun _ _ _ hp h => delivery_accepted hp (applyEntry_accepted h).2)
    (fun _ _ _ hp h => attemptsCounted_accepted hp (applyEntry_accepted h).2)
    (deliveryInvariant_empty runId) run.accepted
  rw [hiff, and_iff_right]
  intro id n delivery h
  cases h

end SalienceGate

/-! ### A claim that changes the count

A run of eight records whose last one, a claim, carries an attempt count of five before any
attempt. -/

namespace SalienceGate

open Lifecycle

section Jump

/-- The digest of the reminder of the run. -/
def jumpTextDigest : Sha256Digest :=
  ⟨"1e67b3731ec1d52f43b9493fcd9cdf476b49594af850fc3c91a15608b4adc836", by decide⟩

/-- The identity of the cycle of the run. -/
def jumpCycleId : Sha256Digest :=
  ⟨"a86454661c0de488713a520832f1858101b67c3a0ebf4d1249093bac54e2cdca", by decide⟩

/-- The digest of the grounding configuration of the run. -/
def jumpGroundingDigest : Sha256Digest :=
  ⟨"72137b01805521846c3725d2803a32b0f2e68037b7970ecdd2133a2c075e15ae", by decide⟩

/-- The fingerprint of the claim of the reminder. -/
def jumpFingerprint : Sha256Digest :=
  ⟨"671824bb5f567a43f09ddf482be4ab5249bc90350f0c1ad464cedaccd267f555", by decide⟩

/-- SHA-256 on the preimages of the run, each of which has a domain of its own. -/
local instance jumpHashing : Hashing where
  lengthPrefixedSha256 domain _ :=
    if domain = "saliencegate:cycle:v2" then jumpCycleId
    else if domain = "saliencegate:grounding:configuration:v1" then jumpGroundingDigest
    else if domain = "saliencegate:content:v1" then jumpTextDigest
    else jumpFingerprint

/-- The identities of the run: `00000000-0000-4000-8000-00000000000n`. -/
def jumpId (n : ℕ) : UUID4 := ⟨stampVersion4 n, stampVersion4_isVersion4 n⟩

/-- The name of every component of the run. -/
def jumpComponent : ComponentIdentifier := ⟨"demo", by decide⟩

/-- The tag of every entry of the run, which the projector does not read. -/
def jumpTag : PayloadDigest := ⟨.syntheticSha256, jumpTextDigest⟩

/-- The event of the run. -/
def jumpEvent : TraceEvent where
  runId := jumpId 1
  sourceEventId := jumpComponent
  timestamp := 0
  eventType := .observation
  phase := .postAction
  payload := ⟨[("text", .str "disk full")], by decide⟩
  sourceAdapter := jumpComponent
  trustLabel := .untrustedToolOutput
  eventId := jumpId 2
  sequence := 1
  payloadDigest := jumpTag
  valid := by decide

/-- What the cycle of the run reserves and settles, which is all there is. -/
def jumpAmounts : BudgetAmounts := { modelCalls := 1, interventions := 1 }

/-- The decision to invoke the cycle. -/
def jumpDecision : InvocationDecision where
  decisionId := jumpId 3
  runId := jumpId 1
  eventSequence := 1
  invoke := true
  riskScore := none
  reasonCodes := [.policyAlways]
  policyVersion := jumpComponent
  configurationDigest := jumpTextDigest
  budgetSnapshot := ⟨⟨{ jumpAmounts with }, {}, {}⟩, by decide⟩
  cooldownActive := false
  createdAt := 0
  valid := by decide

/-- The grounding configuration of the cycle. -/
def jumpConfig : GroundingConfig where
  maxClaims := 1
  maxPointerSegments := 8
  maxPointerUtf8Bytes := 64
  duplicateWindowEvents := 0
  cooldownEvents := 0
  allowedDeliveryTargets := [.nextModelCall]
  rendering := ⟨⟨1, 1024, 4096, 1024, false⟩, by decide⟩
  valid := by decide

/-- The text of the event, as evidence. -/
def jumpEvidence : EvidenceReference where
  source := .event
  sourceId := jumpId 2
  fieldPath := ⟨"/payload/text", by decide⟩
  valid := by decide

/-- The proposal to remind of the text. -/
def jumpProposal : InterventionProposal where
  action := .remind
  claims := [⟨.environmentFact, jumpEvidence⟩]
  confidence := .one
  modelFreeText := none
  valid := by decide

/-- What the proposal is grounded for. -/
def jumpContext : GroundingContext where
  modelSchema := true
  interventionId := jumpId 4
  runId := jumpId 1
  cycleId := jumpCycleId
  currentEventSequence := 1
  createdAt := 0
  requestedDeliveryTarget := some .nextModelCall
  modelCallIndex := some 0
  modelCallDigest := some jumpTextDigest
  valid := by decide

/-- The reminder of the run. -/
def jumpIntervention : InterventionDecision :=
  (ground jumpConfig jumpProposal.argument jumpContext
    ⟨⟨[jumpEvent], [], []⟩, by decide⟩).toOption.get (by decide +kernel)

/-- The first revision of the cycle. -/
def jumpPending : CycleRecordFields where
  cycleId := jumpCycleId
  runId := jumpId 1
  revision := 1
  invocationDecisionId := jumpId 3
  policyVersion := jumpComponent
  configurationDigest := jumpTextDigest
  groundingVersion := groundingPipelineVersion
  groundingConfiguration := jumpConfig.modelDump
  groundingConfigurationDigest := jumpGroundingDigest
  requestedDeliveryTarget := some .nextModelCall
  firstEventSequence := 1
  lastEventSequence := 1
  state := .pending
  createdAt := 0
  updatedAt := 0

@[inherit_doc jumpPending]
def jumpReserved : CycleRecordFields :=
  { jumpPending with revision := 2, state := .reserved, budgetReservation := some jumpAmounts }

@[inherit_doc jumpPending]
def jumpRunning : CycleRecordFields :=
  { jumpReserved with revision := 3, state := .running, batchDigest := some jumpTextDigest }

/-- The last revision of the cycle, which commits the reminder. -/
def jumpCommitted : CycleRecordFields :=
  { jumpRunning with
    revision := 4
    state := .committed
    budgetSettlement := some jumpAmounts
    modelCallDigests := [jumpTextDigest]
    modelCallLatenciesUs := [0]
    validatedDelta := some ⟨{ deltaId := jumpId 6, runId := jumpId 1, createdAt := 0 }, by decide⟩
    intervention := some jumpIntervention }

/-- The first revision of the delivery. -/
def jumpDelivery : DeliveryRecordFields where
  deliveryId := jumpId 5
  runId := jumpId 1
  revision := 1
  cycleId := jumpCycleId
  interventionId := jumpId 4
  renderedTextDigest := jumpTextDigest
  targetRequestId := jumpComponent
  target := .nextModelCall
  state := .pending
  attemptCount := 0
  adapterId := jumpComponent
  adapterDeduplicates := true
  adapterDeduplicationGuarantee := .durableDeliveryId
  adapterSupportsPreAction := false
  adapterContractVersion := jumpComponent
  adapterCapabilitiesDigest := jumpTextDigest
  createdAt := 0
  updatedAt := 0

/-- The claim of the delivery, with five attempts too many. -/
def jumpClaim : DeliveryRecord where
  toDeliveryRecordFields :=
    { jumpDelivery with
      revision := 2
      state := .claimed
      attemptCount := 5
      claimId := some (jumpId 7) }
  valid := by decide +kernel

/-- The entry of a record of the run. -/
def jumpEntry (index : ℕ) (record : LedgerRecord) : Option LedgerEntry :=
  (LedgerEntry.create {
    runId := jumpId 1
    position := index + 1
    recordKey := "demo"
    recordTag := jumpTag
    previousChainTag := if index = 0 then none else some jumpTag
    chainTag := jumpTag
    record }).toOption

/-- The ledger of the run. -/
def jumpEntries : List LedgerEntry :=
  ([.traceEvent jumpEvent, .invocationDecision jumpDecision,
    .cycleRecord ⟨jumpPending, by decide +kernel⟩, .cycleRecord ⟨jumpReserved, by decide +kernel⟩,
    .cycleRecord ⟨jumpRunning, by decide +kernel⟩, .cycleRecord ⟨jumpCommitted, by decide +kernel⟩,
    .deliveryRecord ⟨jumpDelivery, by decide +kernel⟩, .deliveryRecord jumpClaim].mapIdx
      jumpEntry).reduceOption

/-- The ledger is accepted and has the claim, which no attempt precedes. -/
theorem jumpEntries_accepted : ∃ p, Replay.replay applyEntry (emptyProjection (jumpId 1)) jumpEntries
      = .ok p ∧ p.deliveryHistory.get? (jumpId 5, 2) = some jumpClaim
    ∧ countThrough DeliveryRecord.isAttempt p.deliveryHistory (jumpId 5) 2 = 0 := by
  have hreplay : (Replay.replay applyEntry (emptyProjection (jumpId 1)) jumpEntries).toOption.any
      (fun p => p.deliveryHistory.get? (jumpId 5, 2) = some jumpClaim
        && countThrough DeliveryRecord.isAttempt p.deliveryHistory (jumpId 5) 2 = 0) = true := by
    decide +kernel
  cases hresult : Replay.replay applyEntry (emptyProjection (jumpId 1)) jumpEntries with
  | error e => simp [hresult, Except.toOption] at hreplay
  | ok p => exact ⟨p, rfl, by simpa [hresult, Except.toOption] using hreplay⟩

/-- There is a run whose attempt counts do not count the attempts. -/
theorem exists_attempts_miscounted :
    ¬∀ run : LedgerRun (jumpId 1), AttemptsCounted run.final := by
  intro h
  obtain ⟨p, hreplay, hclaim, hcount⟩ := jumpEntries_accepted
  have hcounted := h ⟨jumpEntries, p, hreplay⟩ (jumpId 5) 2 jumpClaim hclaim
  rw [hcount] at hcounted
  cases hcounted

end Jump

end SalienceGate
