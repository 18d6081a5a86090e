import Mathlib
import SalienceGate.Domain.Ids
import SalienceGate.Signals.NormalForms

/-!
# What fingerprints mean

If SHA-256 tells apart the framed texts that it is applied to, then two fingerprints are equal exactly
when what they identify is the same: the framework and the set of failures of two reports, the four
details of two outcomes, the directory, the environment and the normal form of two commands.
-/

namespace SalienceGate

open Checked Grouping Framing

/-! ## Texts -/

theorem equivalenceText_eq_ok {value text : String} (h : equivalenceText value = .ok text) :
    text = value := by
  obtain ⟨-, h⟩ := raiseIf_bind_eq_ok.mp h
  exact (pure_eq_ok.mp h).symm

theorem equivalenceText?_eq_ok {value text : Option String} (h : equivalenceText? value = .ok text) :
    text = value := by
  cases value with
  | none => exact (pure_eq_ok.mp h).symm
  | some value =>
    obtain ⟨same, hsame, h⟩ := bind_eq_ok.mp h
    rw [← pure_eq_ok.mp h, equivalenceText_eq_ok hsame]

theorem mapM_equivalenceText {tokens texts : List String} (h : tokens.mapM equivalenceText = .ok texts) :
    texts = tokens := by
  induction mapM_eq_ok.mp h with
  | nil => rfl
  | cons hone hrest ih => rw [equivalenceText_eq_ok hone, ih (mapM_eq_ok.mpr hrest)]

theorem utf8ByteSize_of_derivedText {maxBytes : ℕ} {allowEmpty : Bool} {text : String}
    (h : derivedText maxBytes allowEmpty text = true) : text.utf8ByteSize ≤ maxBytes :=
  (of_decide_eq_true h).2.1

theorem utf8ByteSize_digest (digest : Sha256Digest) : digest.text.utf8ByteSize < 2^64 := by
  have hsize := utf8ByteSize_le digest.text
  rw [digest.pattern.1] at hsize
  omega

/-- An optional text that is not empty is determined by the text that stands for it. -/
theorem getD_inj {a b : Option String} (ha : a ≠ some "") (hb : b ≠ some "")
    (h : a.getD "" = b.getD "") : a = b := by
  cases a with
  | none =>
    cases b with
    | none => rfl
    | some b =>
      have hempty : "" = b := h
      exact absurd (congrArg some hempty.symm) hb
  | some a =>
    cases b with
    | none =>
      have hempty : a = "" := h
      exact absurd (congrArg some hempty) ha
    | some b => exact congrArg some h

theorem ne_empty_of_contractText {maxBytes : ℕ} {text : Option String}
    (h : text.all (contractText maxBytes) = true) : text ≠ some "" := by
  rintro rfl
  have hcontract : contractText maxBytes "" = true := h
  exact (of_decide_eq_true hcontract).1 rfl

/-! ## Hashed texts -/

/-- The bytes that the fingerprint of a failure hashes. -/
def FailureIdentity.input (identity : FailureIdentity) : List UInt8 :=
  framedTexts (failureFingerprintDomain :: identity.parts)

/-- The bytes that the fingerprint of a shell action hashes. -/
def ActionIdentity.input (identity : ActionIdentity) : List UInt8 :=
  framedTexts (actionFingerprintDomain :: identity.parts)

/-- The bytes that the fingerprints of some events hash. -/
def hashedInputs (events : Set TraceEvent) : Set (List UInt8) :=
  fun bytes => ∃ event ∈ events,
    (∃ identity, failureIdentity event = .ok identity ∧ bytes = identity.input)
      ∨ ∃ action identity, loadAction event = .ok (.shell action)
        ∧ shellIdentity action = .ok identity ∧ bytes = identity.input

theorem FailureIdentity.small_parts {identity : FailureIdentity} (h : identity.valid = true) :
    ∀ text ∈ failureFingerprintDomain :: identity.parts, text.utf8ByteSize < 2^64 := by
  obtain ⟨-, -, htexts, -⟩ := of_decide_eq_true h
  intro text htext
  rcases List.mem_cons.mp htext with rfl | htext
  · decide
  · rcases List.mem_cons.mp htext with rfl | htext
    · cases identity.category <;> decide
    · have hsize := utf8ByteSize_of_derivedText (List.all_eq_true.mp htexts text htext)
      unfold maxSignatureBytes at hsize
      omega

theorem ActionIdentity.small_parts {identity : ActionIdentity} (h : identity.valid = true) :
    ∀ text ∈ actionFingerprintDomain :: identity.parts, text.utf8ByteSize < 2^64 := by
  obtain ⟨-, -, -, htokens, -, hdirectory⟩ := of_decide_eq_true h
  intro text htext
  rcases List.mem_cons.mp htext with rfl | htext
  · decide
  · rcases List.mem_cons.mp htext with rfl | htext
    · cases identity.executionMode <;> decide
    · rcases List.mem_cons.mp htext with rfl | htext
      · have hsize := utf8ByteSize_of_derivedText hdirectory
        unfold maxDirectoryBytes at hsize
        omega
      · rcases List.mem_cons.mp htext with rfl | htext
        · exact utf8ByteSize_digest identity.environmentDigest
        · have hsize := utf8ByteSize_of_derivedText (List.all_eq_true.mp htokens text htext)
          unfold maxArgBytes at hsize
          omega

section

variable [Sha256]

/-- Fingerprints of failures are equal exactly when their identities are. -/
theorem FailureIdentity.fingerprint_inj {i j : FailureIdentity} {f g : FailureFingerprint}
    (hi : i.fingerprint = .ok f) (hj : j.fingerprint = .ok g)
    (hinjective : Sha256.sha256 i.input = Sha256.sha256 j.input → i.input = j.input) :
    f = g ↔ i = j := by
  obtain ⟨hvalid, hf⟩ := raiseIf_bind_eq_ok.mp hi
  obtain ⟨hvalid', hg⟩ := raiseIf_bind_eq_ok.mp hj
  have hf := pure_eq_ok.mp hf
  have hg := pure_eq_ok.mp hg
  constructor
  · intro hsame
    rw [← hf, ← hg] at hsame
    have hcategory : i.category = j.category := congrArg FailureFingerprint.category hsame
    have hdigest : Sha256.sha256 i.input = Sha256.sha256 j.input :=
      congrArg FailureFingerprint.digest hsame
    have htexts := framedTexts_inj (small_parts (by simpa using hvalid))
      (small_parts (by simpa using hvalid')) (hinjective hdigest)
    have hparts : i.parts = j.parts := (List.cons_eq_cons.mp htexts).2
    have hcomponents : i.components = j.components := (List.cons_eq_cons.mp hparts).2
    cases i
    cases j
    cases hcategory
    cases hcomponents
    rfl
  · rintro rfl
    rw [← hf, ← hg]

/-- Fingerprints of shell actions are equal exactly when their identities are. -/
theorem ActionIdentity.fingerprint_inj {i j : ActionIdentity} {f g : ActionFingerprint}
    (hi : i.fingerprint = .ok f) (hj : j.fingerprint = .ok g)
    (hinjective : Sha256.sha256 i.input = Sha256.sha256 j.input → i.input = j.input) :
    f = g ↔ i = j := by
  obtain ⟨hvalid, hf⟩ := raiseIf_bind_eq_ok.mp hi
  obtain ⟨hvalid', hg⟩ := raiseIf_bind_eq_ok.mp hj
  have hf := pure_eq_ok.mp hf
  have hg := pure_eq_ok.mp hg
  constructor
  · intro hsame
    rw [← hf, ← hg] at hsame
    have hmode : i.executionMode = j.executionMode := congrArg ActionFingerprint.executionMode hsame
    have hdigest : Sha256.sha256 i.input = Sha256.sha256 j.input :=
      congrArg ActionFingerprint.digest hsame
    have htexts := framedTexts_inj (small_parts (by simpa using hvalid))
      (small_parts (by simpa using hvalid')) (hinjective hdigest)
    have hparts : i.parts = j.parts := (List.cons_eq_cons.mp htexts).2
    obtain ⟨-, hrest⟩ := List.cons_eq_cons.mp hparts
    obtain ⟨hdirectory, hrest⟩ := List.cons_eq_cons.mp hrest
    obtain ⟨henvironment, htokens⟩ := List.cons_eq_cons.mp hrest
    have henvironment : i.environmentDigest = j.environmentDigest := by
      cases hd : i.environmentDigest
      cases hd' : j.environmentDigest
      rw [hd, hd'] at henvironment
      cases henvironment
      rfl
    cases i
    cases j
    cases hmode
    cases htokens
    cases hdirectory
    cases henvironment
    rfl
  · rintro rfl
    rw [← hf, ← hg]

end

/-! ## Reports of tests -/

/-- A report lists a failure: one of its items has the identity of the failure in normal form, and its
details. -/
def ListsFailure (payload : TestReportEvidence) (failure : NormalizedTestFailure) : Prop :=
  ∃ item ∈ payload.failures, normalizeTestId item.testId = .ok failure.testId
    ∧ item.failureType = failure.failureType ∧ item.signature = failure.signature

theorem normalizeFailure_eq_ok {item : TestFailureEvidence} {failure : NormalizedTestFailure}
    (h : normalizeFailure item = .ok failure) :
    normalizeTestId item.testId = .ok failure.testId ∧ item.failureType = failure.failureType
      ∧ item.signature = failure.signature := by
  unfold normalizeFailure at h
  obtain ⟨testId, htestId, h⟩ := bind_eq_ok.mp h
  obtain ⟨failureType, htype, h⟩ := bind_eq_ok.mp h
  obtain ⟨signature, hsignature, h⟩ := bind_eq_ok.mp h
  obtain ⟨-, h⟩ := check_bind_eq_ok.mp h
  obtain rfl := pure_eq_ok.mp h
  exact ⟨htestId, (equivalenceText?_eq_ok htype).symm, (equivalenceText?_eq_ok hsignature).symm⟩

/-- A parsed report has the failures that the payload lists, once each and in order. -/
structure Parses (payload : TestReportEvidence) (report : TestReport) : Prop where
  framework : report.framework = payload.framework
  status : report.status = payload.status
  nodup : report.failures.Nodup
  sorted : report.failures = sortBy testFailureSortKey report.failures
  lists : ∀ failure, failure ∈ report.failures ↔ ListsFailure payload failure

theorem parses_of_parseTestReport {event : TraceEvent} {payload : TestReportEvidence}
    {report : TestReport} (hload : loadTestReport event = .ok payload)
    (h : parseTestReport event = .ok report) : Parses payload report := by
  unfold parseTestReport at h
  rw [hload] at h
  obtain ⟨_, hsame, h⟩ := bind_eq_ok.mp h
  cases hsame
  obtain ⟨normalized, hnormalized, h⟩ := bind_eq_ok.mp h
  obtain ⟨hnodup, h⟩ := raiseIf_bind_eq_ok.mp h
  obtain ⟨framework, hframework, h⟩ := bind_eq_ok.mp h
  obtain ⟨-, h⟩ := raiseIf_bind_eq_ok.mp h
  obtain rfl := pure_eq_ok.mp h
  refine ⟨equivalenceText_eq_ok hframework, rfl, not_not.mp hnodup, (sortBy_sortBy _ _).symm, ?_⟩
  intro failure
  rw [mem_sortBy, mem_of_mapM_eq_ok hnormalized]
  constructor
  · rintro ⟨item, hitem, hnormal⟩
    exact ⟨item, hitem, normalizeFailure_eq_ok hnormal⟩
  · rintro ⟨item, hitem, htestId, htype, hsignature⟩
    obtain ⟨other, -, hother⟩ := exists_of_mapM_eq_ok hnormalized hitem
    obtain ⟨hotherId, hotherType, hotherSignature⟩ := normalizeFailure_eq_ok hother
    have hsame : other = failure := by
      cases other
      cases failure
      cases Except.ok.inj (hotherId.symm.trans htestId)
      cases hotherType.symm.trans htype
      cases hotherSignature.symm.trans hsignature
      rfl
    exact ⟨item, hitem, by rw [hother, hsame]⟩

/-- Both details of a failure are there. -/
def Detailed (failure : NormalizedTestFailure) : Prop :=
  failure.failureType ≠ none ∧ failure.signature ≠ none

/-- A failure with both details is determined by its key. -/
theorem testFailureSortKey_inj {a b : NormalizedTestFailure} (ha : Detailed a) (hb : Detailed b)
    (h : testFailureSortKey a = testFailureSortKey b) : a = b := by
  obtain ⟨testId, failureType, signature⟩ := a
  obtain ⟨testId', failureType', signature'⟩ := b
  obtain ⟨text, rfl⟩ := Option.ne_none_iff_exists'.mp ha.1
  obtain ⟨detail, rfl⟩ := Option.ne_none_iff_exists'.mp ha.2
  obtain ⟨text', rfl⟩ := Option.ne_none_iff_exists'.mp hb.1
  obtain ⟨detail', rfl⟩ := Option.ne_none_iff_exists'.mp hb.2
  simp only [testFailureSortKey, Option.getD_some, List.cons.injEq, and_true] at h
  obtain ⟨rfl, rfl, rfl⟩ := h
  rfl

/-- Failures with both details are determined by their components. -/
theorem flatMap_failureComponents_inj {xs : List NormalizedTestFailure} :
    ∀ {ys : List NormalizedTestFailure}, (∀ x ∈ xs, Detailed x) → (∀ y ∈ ys, Detailed y) →
      xs.flatMap failureComponents = ys.flatMap failureComponents → xs = ys := by
  induction xs with
  | nil =>
    intro ys _ _ h
    cases ys with
    | nil => rfl
    | cons y ys => simp [failureComponents] at h
  | cons x xs ih =>
    intro ys hxs hys h
    cases ys with
    | nil => simp [failureComponents] at h
    | cons y ys =>
      obtain ⟨hx, hxs⟩ := List.forall_mem_cons.mp hxs
      obtain ⟨hy, hys⟩ := List.forall_mem_cons.mp hys
      rw [List.flatMap_cons, List.flatMap_cons] at h
      obtain ⟨hone, hrest⟩ := List.append_inj h rfl
      rw [testFailureSortKey_inj hx hy hone, ih hxs hys hrest]

/-- Reports of detailed failures have the same components exactly when they have the same framework and
list the same failures. -/
theorem reportComponents_inj {payload payload' : TestReportEvidence} {report report' : TestReport}
    (h : Parses payload report) (h' : Parses payload' report')
    (hdetailed : ∀ failure ∈ report.failures, Detailed failure)
    (hdetailed' : ∀ failure ∈ report'.failures, Detailed failure) :
    reportComponents report = reportComponents report' ↔ payload.framework = payload'.framework
      ∧ ∀ failure, ListsFailure payload failure ↔ ListsFailure payload' failure := by
  rw [← h.framework, ← h'.framework]
  constructor
  · intro hsame
    obtain ⟨hframework, hrest⟩ := List.cons_eq_cons.mp hsame
    obtain ⟨-, hflat⟩ := List.cons_eq_cons.mp hrest
    have hfailures := flatMap_failureComponents_inj hdetailed hdetailed' hflat
    refine ⟨hframework, fun failure => ?_⟩
    rw [← h.lists, ← h'.lists, hfailures]
  · rintro ⟨hframework, hlists⟩
    have hmem : ∀ failure, failure ∈ report.failures ↔ failure ∈ report'.failures := by
      intro failure
      rw [h.lists, h'.lists]
      exact hlists failure
    have hperm : report.failures.Perm report'.failures :=
      (List.perm_ext_iff_of_nodup h.nodup h'.nodup).mpr hmem
    have hfailures : report.failures = report'.failures := by
      rw [h.sorted, h'.sorted]
      exact sortBy_eq_of_perm hperm fun a ha b hb =>
        testFailureSortKey_inj (hdetailed a ha) (hdetailed b hb)
    unfold reportComponents
    rw [hframework, hfailures]

/-- The identity of the failure of an event with a report. -/
theorem failureIdentity_report {event : TraceEvent} {payload : TestReportEvidence}
    {identity : FailureIdentity} (hload : loadTestReport event = .ok payload)
    (h : failureIdentity event = .ok identity) :
    ∃ report, Parses payload report ∧ identity = ⟨.test, reportComponents report⟩
      ∧ ∀ failure ∈ report.failures, Detailed failure := by
  have hpresent : (payloadMember event "test_report").isSome = true := by
    unfold loadTestReport at hload
    obtain ⟨-, hload⟩ := raiseIf_bind_eq_ok.mp hload
    obtain ⟨-, hload⟩ := raiseIf_bind_eq_ok.mp hload
    obtain ⟨value, hvalue, -⟩ := expect_bind_eq_ok.mp hload
    rw [hvalue]
    rfl
  unfold failureIdentity at h
  obtain ⟨-, h⟩ := raiseIf_bind_eq_ok.mp h
  rw [if_pos hpresent] at h
  obtain ⟨report, hreport, h⟩ := bind_eq_ok.mp h
  obtain ⟨-, h⟩ := raiseIf_bind_eq_ok.mp h
  obtain ⟨hdetails, h⟩ := raiseIf_bind_eq_ok.mp h
  refine ⟨report, parses_of_parseTestReport hload hreport, (pure_eq_ok.mp h).symm, ?_⟩
  intro failure hfailure
  constructor
  · intro hnone
    exact hdetails ⟨failure, hfailure, .inl hnone⟩
  · intro hnone
    exact hdetails ⟨failure, hfailure, .inr hnone⟩

/-! ## Outcomes of tools -/

/-- The identity of the failure of an event with the outcome of a tool. -/
theorem failureIdentity_tool {event : TraceEvent} {payload : ToolOutcomeEvidence}
    {identity : FailureIdentity} (hload : loadToolOutcome event = .ok payload)
    (h : failureIdentity event = .ok identity) :
    identity = ⟨.tool, outcomeComponents ⟨toolStatus payload, payload.exitStatus,
      payload.exceptionType, payload.errorCode, payload.failureSignature⟩⟩ := by
  have habsent : ¬(payloadMember event "test_report").isSome = true := by
    unfold loadToolOutcome at hload
    obtain ⟨-, hload⟩ := raiseIf_bind_eq_ok.mp hload
    exact (raiseIf_bind_eq_ok.mp hload).1
  unfold failureIdentity at h
  obtain ⟨-, h⟩ := raiseIf_bind_eq_ok.mp h
  rw [if_neg habsent] at h
  obtain ⟨outcome, houtcome, h⟩ := bind_eq_ok.mp h
  obtain ⟨-, h⟩ := raiseIf_bind_eq_ok.mp h
  obtain ⟨-, h⟩ := raiseIf_bind_eq_ok.mp h
  obtain rfl := pure_eq_ok.mp h
  unfold parseToolOutcome at houtcome
  rw [hload] at houtcome
  obtain ⟨_, hsame, houtcome⟩ := bind_eq_ok.mp houtcome
  cases hsame
  obtain ⟨exceptionType, htype, houtcome⟩ := bind_eq_ok.mp houtcome
  obtain ⟨errorCode, hcode, houtcome⟩ := bind_eq_ok.mp houtcome
  obtain ⟨failureSignature, hsignature, houtcome⟩ := bind_eq_ok.mp houtcome
  obtain ⟨-, houtcome⟩ := raiseIf_bind_eq_ok.mp houtcome
  obtain rfl := pure_eq_ok.mp houtcome
  rw [equivalenceText?_eq_ok htype, equivalenceText?_eq_ok hcode, equivalenceText?_eq_ok hsignature]

/-- The text of a number has digits and a sign only. -/
theorem isDigit_of_mem_toString {status : ℤ} {c : Char} (h : c ∈ (toString status).toList) :
    c.isDigit = true ∨ c = '-' := by
  have hdigits : ∀ n : ℕ, c ∈ n.repr.toList → c.isDigit = true := by
    intro n hc
    rw [Nat.repr, String.toList_ofList] at hc
    exact Nat.isDigit_of_mem_toDigits (by omega) (by omega) hc
  cases status with
  | ofNat n => exact .inl (hdigits n h)
  | negSucc n =>
    have hc : c ∈ ("-" ++ (n + 1).repr).toList := h
    rw [String.toList_append] at hc
    rcases List.mem_append.mp hc with hsign | hc
    · exact .inr (List.mem_singleton.mp hsign)
    · exact .inl (hdigits (n + 1) hc)

/-- The text of an exit status determines it. -/
theorem exitText_inj {a b : Option ℤ}
    (h : (match a with
      | none => "exit:none"
      | some status => "exit:" ++ toString status) = match b with
      | none => "exit:none"
      | some status => "exit:" ++ toString status) : a = b := by
  have hnone : ∀ status : ℤ, "exit:none" ≠ "exit:" ++ toString status := by
    intro status hsame
    have hlists := congrArg String.toList hsame
    rw [String.toList_append] at hlists
    have htext : "none".toList = (toString status).toList :=
      @List.append_cancel_left Char "exit:".toList _ _ hlists
    have hletter : 'o' ∈ (toString status).toList := by
      rw [← htext]
      decide
    rcases isDigit_of_mem_toString hletter with hdigit | hsign
    · exact absurd hdigit (by decide)
    · exact absurd hsign (by decide)
  cases a with
  | none =>
    cases b with
    | none => rfl
    | some status => exact absurd h (hnone status)
  | some status =>
    cases b with
    | none => exact absurd h.symm (hnone status)
    | some status' =>
      have hlists := congrArg String.toList h
      rw [String.toList_append, String.toList_append] at hlists
      have htext : toString status = toString status' :=
        String.toList_inj.mp (List.append_cancel_left hlists)
      exact congrArg some (Int.repr_injective htext)

/-- Outcomes have the same components exactly when their four details are the same. -/
theorem outcomeComponents_inj (payload payload' : ToolOutcomeEvidence) :
    outcomeComponents ⟨toolStatus payload, payload.exitStatus, payload.exceptionType,
        payload.errorCode, payload.failureSignature⟩
      = outcomeComponents ⟨toolStatus payload', payload'.exitStatus, payload'.exceptionType,
        payload'.errorCode, payload'.failureSignature⟩ ↔
    payload.exitStatus = payload'.exitStatus ∧ payload.exceptionType = payload'.exceptionType
      ∧ payload.errorCode = payload'.errorCode
      ∧ payload.failureSignature = payload'.failureSignature := by
  have htexts : ∀ p : ToolOutcomeEvidence, p.exceptionType ≠ some "" ∧ p.errorCode ≠ some ""
      ∧ p.failureSignature ≠ some "" := by
    intro p
    have hvalid := p.isValid
    simp only [ToolOutcomeEvidenceFields.valid, Bool.and_eq_true] at hvalid
    obtain ⟨⟨⟨⟨⟨⟨-, htype⟩, hcode⟩, hsignature⟩, -⟩, -⟩, -⟩ := hvalid
    exact ⟨ne_empty_of_contractText htype, ne_empty_of_contractText hcode,
      ne_empty_of_contractText hsignature⟩
  obtain ⟨htype, hcode, hsignature⟩ := htexts payload
  obtain ⟨htype', hcode', hsignature'⟩ := htexts payload'
  constructor
  · intro h
    simp only [outcomeComponents, List.cons.injEq, and_true] at h
    obtain ⟨hexit, hsameType, hsameCode, hsameSignature⟩ := h
    exact ⟨exitText_inj hexit, getD_inj htype htype' hsameType, getD_inj hcode hcode' hsameCode,
      getD_inj hsignature hsignature' hsameSignature⟩
  · rintro ⟨hexit, hsameType, hsameCode, hsameSignature⟩
    simp only [outcomeComponents]
    rw [hexit, hsameType, hsameCode, hsameSignature]

/-! ## Commands -/

/-- The identity of a shell action given by its arguments. -/
theorem shellIdentity_argv {action : ShellActionEvidence} {argv : List String}
    {identity : ActionIdentity} (hargv : action.argv = some argv)
    (h : shellIdentity action = .ok identity) :
    identity = ⟨.argv, normalizePytestFlags argv, action.workingDirectory,
      action.environmentDigest⟩ := by
  unfold shellIdentity at h
  obtain ⟨tokens, htokens, h⟩ := bind_eq_ok.mp h
  obtain ⟨workingDirectory, hdirectory, h⟩ := bind_eq_ok.mp h
  obtain rfl := pure_eq_ok.mp h
  unfold shellTokens at htokens
  obtain ⟨raw, hraw, htokens⟩ := bind_eq_ok.mp htokens
  obtain ⟨-, htokens⟩ := raiseIf_bind_eq_ok.mp htokens
  obtain ⟨normalized, hnormalized, htokens⟩ := bind_eq_ok.mp htokens
  have hsame : raw = argv := by
    unfold rawShellTokens at hraw
    rw [hargv] at hraw
    exact (pure_eq_ok.mp hraw).symm
  rw [← pure_eq_ok.mp htokens, mapM_equivalenceText hnormalized, hsame, hargv,
    equivalenceText_eq_ok hdirectory]
  rfl

/-! ## What fingerprints mean -/

section

variable [Sha256]

/-- Failures of some events have one fingerprint exactly when they have one identity. -/
theorem failureFingerprint_inj {events : Set TraceEvent}
    (hinjective : Set.InjOn Sha256.sha256 (hashedInputs events)) {e e' : TraceEvent}
    (he : e ∈ events) (he' : e' ∈ events) {f f' : FailureFingerprint}
    (h : failureFingerprint e = .ok f) (h' : failureFingerprint e' = .ok f') :
    ∃ i i', failureIdentity e = .ok i ∧ failureIdentity e' = .ok i' ∧ (f = f' ↔ i = i') := by
  obtain ⟨i, hi, hf⟩ := bind_eq_ok.mp h
  obtain ⟨i', hi', hf'⟩ := bind_eq_ok.mp h'
  have hinput : i.input ∈ hashedInputs events := ⟨e, he, .inl ⟨i, hi, rfl⟩⟩
  have hinput' : i'.input ∈ hashedInputs events := ⟨e', he', .inl ⟨i', hi', rfl⟩⟩
  exact ⟨i, i', hi, hi', i.fingerprint_inj hf hf' fun hsame => hinjective hinput hinput' hsame⟩

/-- Shell actions of some events have one fingerprint exactly when they have one identity. -/
theorem actionFingerprint_inj {events : Set TraceEvent}
    (hinjective : Set.InjOn Sha256.sha256 (hashedInputs events)) {e e' : TraceEvent}
    (he : e ∈ events) (he' : e' ∈ events) {action action' : ShellActionEvidence}
    (hload : loadAction e = .ok (.shell action)) (hload' : loadAction e' = .ok (.shell action'))
    {f f' : ActionFingerprint} (h : actionFingerprint e = .ok f) (h' : actionFingerprint e' = .ok f') :
    ∃ i i' : ActionIdentity, shellIdentity action = .ok i ∧ shellIdentity action' = .ok i'
      ∧ (f = f' ↔ i = i') := by
  unfold actionFingerprint at h h'
  rw [hload] at h
  rw [hload'] at h'
  obtain ⟨_, hsame, h⟩ := bind_eq_ok.mp h
  cases hsame
  obtain ⟨_, hsame, h'⟩ := bind_eq_ok.mp h'
  cases hsame
  obtain ⟨i, hi, hf⟩ := bind_eq_ok.mp h
  obtain ⟨i', hi', hf'⟩ := bind_eq_ok.mp h'
  have hinput : i.input ∈ hashedInputs events := ⟨e, he, .inr ⟨action, i, hload, hi, rfl⟩⟩
  have hinput' : i'.input ∈ hashedInputs events := ⟨e', he', .inr ⟨action', i', hload', hi', rfl⟩⟩
  exact ⟨i, i', hi, hi', i.fingerprint_inj hf hf' fun hsame => hinjective hinput hinput' hsame⟩

/-- If SHA-256 tells apart what is hashed for some events, then their failures have one fingerprint
exactly when the frameworks and the sets of failures of their reports are the same, or the four details
of their outcomes, and a report has never the fingerprint of an outcome. Their commands have one
fingerprint exactly when the directory, the environment and the normal form of the arguments are the
same. The normal form is its own normal form. It is a permutation that keeps the prefix, the order of all
but the commutative flags, and everything from the terminator on. Commands of `pytest` without other
options that differ only in the places of the flags have one normal form; other commands are their own. -/
theorem fingerprints_mean_equivalence (events : Set TraceEvent)
    (hinjective : Set.InjOn Sha256.sha256 (hashedInputs events)) :
    (∀ e ∈ events, ∀ e' ∈ events, ∀ f f' : FailureFingerprint, failureFingerprint e = .ok f →
      failureFingerprint e' = .ok f' →
      (∀ p p', loadTestReport e = .ok p → loadTestReport e' = .ok p' →
        (f = f' ↔ p.framework = p'.framework
          ∧ ∀ failure, ListsFailure p failure ↔ ListsFailure p' failure))
      ∧ (∀ p p', loadToolOutcome e = .ok p → loadToolOutcome e' = .ok p' →
        (f = f' ↔ p.exitStatus = p'.exitStatus ∧ p.exceptionType = p'.exceptionType
          ∧ p.errorCode = p'.errorCode ∧ p.failureSignature = p'.failureSignature))
      ∧ ∀ p p', loadTestReport e = .ok p → loadToolOutcome e' = .ok p' → f ≠ f')
    ∧ (∀ e ∈ events, ∀ e' ∈ events, ∀ action action' : ShellActionEvidence,
      loadAction e = .ok (.shell action) → loadAction e' = .ok (.shell action') →
      ∀ argv argv', action.argv = some argv → action'.argv = some argv' →
      ∀ f f' : ActionFingerprint, actionFingerprint e = .ok f → actionFingerprint e' = .ok f' →
        (f = f' ↔ action.workingDirectory = action'.workingDirectory
          ∧ action.environmentDigest = action'.environmentDigest
          ∧ normalizePytestFlags argv = normalizePytestFlags argv'))
    ∧ (∀ tokens, normalizePytestFlags (normalizePytestFlags tokens) = normalizePytestFlags tokens
      ∧ (normalizePytestFlags tokens).Perm tokens
      ∧ (normalizePytestFlags tokens).take (pytestPrefixLength tokens)
        = tokens.take (pytestPrefixLength tokens)
      ∧ othersOf (beforeTerminator (normalizePytestFlags tokens)) = othersOf (beforeTerminator tokens)
      ∧ afterTerminator (normalizePytestFlags tokens) = afterTerminator tokens
      ∧ (¬IsPytestCommand tokens ∨ HasOtherOption tokens → normalizePytestFlags tokens = tokens))
    ∧ ∀ a b, IsPytestCommand a → IsPytestCommand b → ¬HasOtherOption a → ¬HasOtherOption b →
      DifferInFlagPlaces a b → normalizePytestFlags a = normalizePytestFlags b := by
  refine ⟨?_, ?_, ?_, ?_⟩
  · intro e he e' he' f f' hf hf'
    obtain ⟨i, i', hi, hi', hinj⟩ := failureFingerprint_inj hinjective he he' hf hf'
    refine ⟨?_, ?_, ?_⟩
    · intro p p' hp hp'
      obtain ⟨report, hparses, rfl, hdetailed⟩ := failureIdentity_report hp hi
      obtain ⟨report', hparses', rfl, hdetailed'⟩ := failureIdentity_report hp' hi'
      have hcomponents := reportComponents_inj hparses hparses' hdetailed hdetailed'
      rw [hinj, ← hcomponents, FailureIdentity.mk.injEq]
      exact ⟨fun h => h.2, fun h => ⟨rfl, h⟩⟩
    · intro p p' hp hp'
      obtain rfl := failureIdentity_tool hp hi
      obtain rfl := failureIdentity_tool hp' hi'
      rw [hinj, ← outcomeComponents_inj, FailureIdentity.mk.injEq]
      exact ⟨fun h => h.2, fun h => ⟨rfl, h⟩⟩
    · intro p p' hp hp' hsame
      obtain ⟨report, -, rfl, -⟩ := failureIdentity_report hp hi
      obtain rfl := failureIdentity_tool hp' hi'
      have hcategory := congrArg FailureIdentity.category (hinj.mp hsame)
      cases hcategory
  · intro e he e' he' action action' hload hload' argv argv' hargv hargv' f f' hf hf'
    obtain ⟨i, i', hi, hi', hinj⟩ :=
      actionFingerprint_inj hinjective he he' hload hload' hf hf'
    obtain rfl := shellIdentity_argv hargv hi
    obtain rfl := shellIdentity_argv hargv' hi'
    rw [hinj, ActionIdentity.mk.injEq]
    constructor
    · rintro ⟨-, htokens, hdirectory, henvironment⟩
      exact ⟨hdirectory, henvironment, htokens⟩
    · rintro ⟨hdirectory, henvironment, htokens⟩
      exact ⟨rfl, htokens, hdirectory, henvironment⟩
  · intro tokens
    refine ⟨normalizePytestFlags_idem tokens, normalizePytestFlags_perm tokens,
      normalizePytestFlags_take tokens, normalizePytestFlags_others tokens,
      normalizePytestFlags_after tokens, ?_⟩
    intro hplain
    exact normalizePytestFlags_of_plain hplain
  · intro a b ha hb hknown hknown' hdiffer
    exact normalizePytestFlags_eq_of_differ ha hb hknown hknown' hdiffer

end

/-- A command with an option of another kind keeps its flags where they are, so two commands that differ
only in their places keep two forms. -/
theorem normalizePytestFlags_keeps_places : ¬∀ a b, DifferInFlagPlaces a b →
    normalizePytestFlags a = normalizePytestFlags b := by
  intro h
  have hdiffer : DifferInFlagPlaces ["pytest", "-k", "foo", "-q"] ["pytest", "-q", "-k", "foo"] :=
    ⟨by decide, by decide, by decide⟩
  exact absurd (h _ _ hdiffer) (by decide)

/-- A hash function that has the SHA-256 digest of the command below. -/
local instance commandSha256 : Sha256 where
  sha256 _ := ⟨"0d9319f2b5355c5d1cbc5411d884510a8dac861017c409e8c03e1e717852a745", by decide⟩

/-- The proposal of a command. -/
def commandEvent (source : EventMetadataIdentifier) (payload : JsonObject) : TraceEventFields where
  runId := ⟨stampVersion4 0, .refl true⟩
  sourceEventId := source
  timestamp := 0
  eventType := .actionProposal
  phase := .preAction
  payload := payload
  sourceAdapter := ⟨"demo", .refl true⟩
  trustLabel := .syntheticFixture
  eventId := ⟨stampVersion4 1, .refl true⟩
  sequence := 1
  payloadDigest := ⟨.syntheticSha256, commandSha256.sha256 []⟩

/-- The payload of a command in a directory. -/
def commandPayload (argv : List String) : List (String × Json) :=
  [("action", .object [("argv", .list (argv.map .str)),
    ("environment_digest", .str (String.ofList (List.replicate 64 '0'))), ("kind", .str "shell"),
    ("schema_version", .str "1.0"), ("working_directory", .str "/work")])]

/-- A command with its flag before its argument. -/
def flagFirst : TraceEvent where
  toTraceEventFields := commandEvent ⟨"a", by decide⟩
    ⟨commandPayload ["pytest", "-q", "tests"], by decide⟩
  valid := by decide +kernel

/-- The same command with its flag behind its argument. -/
def flagLast : TraceEvent where
  toTraceEventFields := commandEvent ⟨"b", by decide⟩
    ⟨commandPayload ["pytest", "tests", "-q"], by decide⟩
  valid := by decide +kernel

theorem zeros_pattern : (String.ofList (List.replicate 64 '0')).length = 64
    ∧ (String.ofList (List.replicate 64 '0')).toList.all isLowerHex = true := by
  decide

/-- The action of a command in a directory. -/
def commandAction (argv : List String) : ShellActionEvidenceFields where
  argv := some argv
  workingDirectory := "/work"
  environmentDigest := ⟨String.ofList (List.replicate 64 '0'), zeros_pattern⟩

/-- The action of the command with its flag before its argument. -/
def flagFirstAction : ShellActionEvidence :=
  ⟨commandAction ["pytest", "-q", "tests"], by decide +kernel⟩

/-- The action of the command with its flag behind its argument. -/
def flagLastAction : ShellActionEvidence :=
  ⟨commandAction ["pytest", "tests", "-q"], by decide +kernel⟩

/-- What identifies both. -/
def flagIdentity : ActionIdentity :=
  ⟨.argv, ["pytest", "-q", "tests"], "/work", ⟨String.ofList (List.replicate 64 '0'), zeros_pattern⟩⟩

theorem loadAction_flags : loadAction flagFirst = .ok (.shell flagFirstAction)
    ∧ loadAction flagLast = .ok (.shell flagLastAction) := by
  decide +kernel

theorem shellIdentity_flags : shellIdentity flagFirstAction = .ok flagIdentity
    ∧ shellIdentity flagLastAction = .ok flagIdentity := by
  decide +kernel

/-- The two commands hash one text. -/
theorem hashedInputs_flags : ∀ bytes ∈ hashedInputs {flagFirst, flagLast}, bytes = flagIdentity.input := by
  have hnoFailure : (failureIdentity flagFirst).toOption = none
      ∧ (failureIdentity flagLast).toOption = none := by
    decide +kernel
  intro bytes hbytes
  obtain ⟨event, hevent, ⟨identity, hidentity, -⟩ | ⟨action, identity, hload, hidentity, rfl⟩⟩ := hbytes
  · rcases hevent with rfl | rfl
    · rw [hidentity] at hnoFailure
      cases hnoFailure.1
    · rw [hidentity] at hnoFailure
      cases hnoFailure.2
  · rcases hevent with rfl | rfl
    · rw [loadAction_flags.1] at hload
      cases hload
      rw [shellIdentity_flags.1] at hidentity
      cases hidentity
      rfl
    · rw [loadAction_flags.2] at hload
      cases hload
      rw [shellIdentity_flags.2] at hidentity
      cases hidentity
      rfl

theorem fingerprints_mean_equivalence_flags :
    (actionFingerprint flagFirst).toOption.isSome = true
      ∧ ∀ f f', actionFingerprint flagFirst = .ok f → actionFingerprint flagLast = .ok f' →
        f = f' := by
  refine ⟨by decide +kernel, ?_⟩
  intro f f' hf hf'
  have hinjective : Set.InjOn Sha256.sha256 (hashedInputs {flagFirst, flagLast}) := by
    intro a ha b hb _
    rw [hashedInputs_flags a ha, hashedInputs_flags b hb]
  obtain ⟨-, hcommands, -⟩ := fingerprints_mean_equivalence {flagFirst, flagLast} hinjective
  have hsame := hcommands flagFirst (.inl rfl) flagLast (.inr rfl) flagFirstAction flagLastAction
    loadAction_flags.1 loadAction_flags.2 _ _ rfl rfl f f' hf hf'
  exact hsame.mpr ⟨rfl, rfl, by decide⟩

end SalienceGate
