import SalienceGate.Bridge.PiWindow

/-!
# Runs of the reducer of a window

What `PiWindowReducer` emits for any sequence of events and of explicit degradations. An input is first
read (`Reading`); what the readings say of a call is a `Phase`, and as long as nothing was lost the tables
of the reducer hold the phase of every call.
-/

namespace SalienceGate.Pi

open Reducer (ToolEvent)

/-! ## Inputs and what they say -/

/-- What a reducer is given: an event of the host, or a degradation. -/
inductive Input where
  | event (value : HostValue)
  | degradation (reason : DegradationReason)

/-- What an input says. -/
inductive Reading where
  | ignored
  | degradation (reason : DegradationReason)
  /-- An event of a tool that lacks its call, its tool or its outcome. -/
  | malformedTool
  | tool (event : ToolEvent)
  | agentStarts
  | settles
  | boundary (body : ReducedBody)
  | shutdown (reason : ShutdownReason)
deriving DecidableEq

/-- A `tool_execution_start` event. -/
def readStart (dataValue : String → Option Field) : Reading :=
  match exactProperty dataValue "toolCallId" maxCaptureCallIdBytes,
      exactProperty dataValue "toolName" maxCaptureToolNameBytes with
  | some callId, some tool => .tool (.start callId tool)
  | _, _ => .malformedTool

/-- A `tool_execution_end` event. -/
def readEnd (dataValue : String → Option Field) : Reading :=
  match exactProperty dataValue "toolCallId" maxCaptureCallIdBytes,
      exactProperty dataValue "toolName" maxCaptureToolNameBytes, booleanProperty dataValue "isError" with
  | some callId, some tool, some isError => .tool (.finish callId tool isError)
  | _, _, _ => .malformedTool

/-- A boundary, if its event has the right form. -/
def readBoundary (body : Option ReducedBody) : Reading := body.elim (.degradation .missingField) .boundary

/-- An event with its type. -/
def readTyped (dataValue : String → Option Field) : EventType → Reading
  | .beforeAgentStart => .agentStarts
  | .toolExecutionStart => readStart dataValue
  | .toolExecutionEnd => readEnd dataValue
  | .agentSettled => .settles
  | .sessionCompact => readBoundary (Reducer.compactionBody dataValue)
  | .sessionTree => readBoundary (Reducer.treeBody dataValue)
  | .sessionShutdown => (ShutdownReason.named (dataValue "reason")).elim (.degradation .missingField) .shutdown

/-- What an input says. -/
def Input.reading : Input → Reading
  | .degradation reason => .degradation reason
  | .event .other => .ignored
  | .event (.record dataValue) =>
    if (dataValue "type").isNone then .degradation .missingField
    else (EventType.named (dataValue "type")).elim .ignored (readTyped dataValue)

/-- Calls that are pending are not matched past this. -/
def Reading.isBoundary : Reading → Bool
  | .settles | .boundary _ | .shutdown _ => true
  | _ => false

/-- The session ends. -/
def Reading.ends : Reading → Bool
  | .shutdown _ => true
  | _ => false

/-- The input is a degradation, or makes one. -/
def Reading.degrades : Reading → Bool
  | .degradation _ | .malformedTool => true
  | _ => false

/-- An event of the call. -/
def Reading.isOf (callId : JsString) : Reading → Bool
  | .tool event => event.callId = callId
  | _ => false

/-- What is digested for an event. -/
def Reducer.ToolEvent.digests : ToolEvent → List Digested
  | .start callId tool => [.call callId, .start callId tool]
  | .finish callId tool isError => [.call callId, .start callId tool, .finish callId tool isError]

/-- What is digested for an input. -/
def Reading.digests : Reading → List Digested
  | .tool event => event.digests
  | _ => []

/-- The inputs of a window: those until its session ends. -/
def history : List Reading → List Reading
  | [] => []
  | reading :: readings => if reading.ends then [reading] else reading :: history readings

theorem history_concat (readings : List Reading) (reading : Reading) :
    history (readings ++ [reading])
      = if ∃ r ∈ readings, r.ends = true then history readings else history readings ++ [reading] := by
  induction readings with
  | nil =>
    rw [if_neg (by simp)]
    show (if reading.ends then [reading] else [reading]) = [reading]
    rw [ite_self]
  | cons first readings ih =>
    rw [List.cons_append]
    unfold history
    by_cases hends : first.ends = true
    · rw [if_pos hends, if_pos hends, if_pos ⟨first, List.mem_cons_self, hends⟩]
    · have hiff : (∃ r ∈ first :: readings, r.ends = true) ↔ ∃ r ∈ readings, r.ends = true := by
        simp [hends]
      rw [if_neg hends, if_neg hends, ih]
      simp only [hiff]
      split <;> rfl

theorem history_subset (readings : List Reading) : history readings ⊆ readings := by
  induction readings with
  | nil => exact List.Subset.refl _
  | cons first readings ih =>
    intro reading hmem
    unfold history at hmem
    split at hmem
    · rw [List.mem_singleton.mp hmem]
      exact List.mem_cons_self
    · rcases List.mem_cons.mp hmem with rfl | hmem
      · exact List.mem_cons_self
      · exact List.mem_cons_of_mem _ (ih hmem)

theorem history_eq_self {readings : List Reading} (h : ∀ r ∈ readings, r.ends = false) :
    history readings = readings := by
  induction readings with
  | nil => rfl
  | cons first readings ih =>
    rw [List.forall_mem_cons] at h
    unfold history
    rw [h.1, if_neg Bool.false_ne_true, ih h.2]

/-! ## Calls -/

/-- The call has started and goes on: since its first event, a start, there were only repetitions of it,
and no boundary. -/
def Opened (h : List Reading) (callId tool : JsString) : Prop :=
  ∃ before since, h = before ++ .tool (.start callId tool) :: since
    ∧ (∀ reading ∈ before, reading.isOf callId = false)
    ∧ ∀ reading ∈ since, reading.isBoundary = false
      ∧ (reading.isOf callId = true → reading = .tool (.start callId tool))

/-- The first start and the first end of the call agree on the tool, without an error and with no boundary
between them. -/
def Agreed (h : List Reading) (callId tool : JsString) : Prop :=
  ∃ opened after, h = opened ++ .tool (.finish callId tool false) :: after ∧ Opened opened callId tool

/-- How far a call has come. -/
inductive Phase where
  | fresh
  | running (tool : JsString)
  | matched (tool : JsString)
  | broken
deriving DecidableEq

/-- An event of the call. -/
def Phase.on : Phase → ToolEvent → Phase
  | .fresh, .start _ tool => .running tool
  | .fresh, .finish _ _ _ => .broken
  | .running tool, .start _ other => if other = tool then .running tool else .broken
  | .running tool, .finish _ other isError => if other = tool ∧ isError = false then .matched tool else .broken
  | .matched tool, .start _ other => if other = tool then .matched tool else .broken
  | .matched tool, .finish _ other isError => if other = tool ∧ isError = false then .matched tool else .broken
  | .broken, _ => .broken

/-- A boundary. -/
def Phase.cut : Phase → Phase
  | .running _ => .broken
  | phase => phase

/-- What an input does to a call. -/
def Phase.next (callId : JsString) (phase : Phase) (reading : Reading) : Phase :=
  match reading with
  | .tool event => if event.callId = callId then phase.on event else phase
  | reading => if reading.isBoundary then phase.cut else phase

/-- How far a call has come after the inputs. -/
def phase (callId : JsString) (h : List Reading) : Phase := h.foldl (Phase.next callId) .fresh

/-- The call is over. -/
def Phase.settled : Phase → Bool
  | .matched _ | .broken => true
  | _ => false

@[simp]
theorem phase_concat (callId : JsString) (h : List Reading) (reading : Reading) :
    phase callId (h ++ [reading]) = (phase callId h).next callId reading := by
  unfold phase
  rw [List.foldl_append]
  rfl

/-- A call stays fresh while there is nothing of it. -/
theorem Phase.next_eq_fresh {callId : JsString} {p : Phase} {reading : Reading} (h : p.next callId reading = .fresh) :
    p = .fresh ∧ reading.isOf callId = false := by
  cases reading with
  | tool event =>
    unfold Phase.next at h
    dsimp only at h
    split at h
    next => cases p <;> cases event <;> simp only [Phase.on] at h <;> (try split at h) <;> cases h
    next hother => exact ⟨h, decide_eq_false hother⟩
  | _ => cases p <;> first | exact ⟨rfl, rfl⟩ | cases h

/-- A call is running since its start. -/
theorem Phase.next_eq_running {callId tool : JsString} {p : Phase} {reading : Reading}
    (h : p.next callId reading = .running tool) :
    (p = .fresh ∧ reading = .tool (.start callId tool))
      ∨ (p = .running tool ∧ reading.isBoundary = false
        ∧ (reading.isOf callId = true → reading = .tool (.start callId tool))) := by
  cases reading with
  | tool event =>
    unfold Phase.next at h
    dsimp only at h
    split at h
    next heq =>
      subst heq
      cases p with
      | fresh =>
        cases event with
        | start callId other =>
          cases h
          exact .inl ⟨rfl, rfl⟩
        | finish => cases h
      | running other =>
        cases event with
        | start callId again =>
          simp only [Phase.on] at h
          split at h
          next hsame =>
            cases h
            subst hsame
            exact .inr ⟨rfl, rfl, fun _ => rfl⟩
          next => cases h
        | finish =>
          simp only [Phase.on] at h
          split at h <;> cases h
      | matched other => cases event <;> simp only [Phase.on] at h <;> split at h <;> cases h
      | broken => cases h
    next hother => exact .inr ⟨h, rfl, fun hof => absurd (of_decide_eq_true hof) hother⟩
  | ignored => exact .inr ⟨h, rfl, nofun⟩
  | degradation => exact .inr ⟨h, rfl, nofun⟩
  | malformedTool => exact .inr ⟨h, rfl, nofun⟩
  | agentStarts => exact .inr ⟨h, rfl, nofun⟩
  | settles => cases p <;> cases h
  | boundary => cases p <;> cases h
  | shutdown => cases p <;> cases h

/-- The events of a call that is over and was matched. -/
def Matching (callId tool : JsString) (reading : Reading) : Prop :=
  reading.isOf callId = true →
    reading = .tool (.start callId tool) ∨ reading = .tool (.finish callId tool false)

/-- A call is matched by its end. -/
theorem Phase.next_eq_matched {callId tool : JsString} {p : Phase} {reading : Reading}
    (h : p.next callId reading = .matched tool) :
    (p = .running tool ∧ reading = .tool (.finish callId tool false))
      ∨ (p = .matched tool ∧ Matching callId tool reading) := by
  cases reading with
  | tool event =>
    unfold Phase.next at h
    dsimp only at h
    split at h
    next heq =>
      subst heq
      cases p with
      | fresh => cases event <;> cases h
      | running other =>
        cases event with
        | start callId again =>
          simp only [Phase.on] at h
          split at h <;> cases h
        | finish callId again isError =>
          simp only [Phase.on] at h
          split at h
          next hsame =>
            cases h
            obtain ⟨rfl, rfl⟩ := hsame
            exact .inl ⟨rfl, rfl⟩
          next => cases h
      | matched other =>
        cases event with
        | start callId again =>
          simp only [Phase.on] at h
          split at h
          next hsame =>
            cases h
            subst hsame
            exact .inr ⟨rfl, fun _ => .inl rfl⟩
          next => cases h
        | finish callId again isError =>
          simp only [Phase.on] at h
          split at h
          next hsame =>
            cases h
            obtain ⟨rfl, rfl⟩ := hsame
            exact .inr ⟨rfl, fun _ => .inr rfl⟩
          next => cases h
      | broken => cases h
    next hother => exact .inr ⟨h, fun hof => absurd (of_decide_eq_true hof) hother⟩
  | ignored => exact .inr ⟨h, nofun⟩
  | degradation => exact .inr ⟨h, nofun⟩
  | malformedTool => exact .inr ⟨h, nofun⟩
  | agentStarts => exact .inr ⟨h, nofun⟩
  | settles =>
    cases p <;> cases h
    exact .inr ⟨rfl, nofun⟩
  | boundary =>
    cases p <;> cases h
    exact .inr ⟨rfl, nofun⟩
  | shutdown =>
    cases p <;> cases h
    exact .inr ⟨rfl, nofun⟩

theorem Phase.settled_next {callId : JsString} {p : Phase} (h : p.settled = true) (reading : Reading) :
    (p.next callId reading).settled = true := by
  cases hnext : p.next callId reading with
  | fresh =>
    obtain ⟨rfl, -⟩ := Phase.next_eq_fresh hnext
    cases h
  | running tool =>
    rcases Phase.next_eq_running hnext with ⟨rfl, -⟩ | ⟨rfl, -⟩ <;> cases h
  | matched => rfl
  | broken => rfl

theorem not_isOf_of_phase {callId : JsString} {h : List Reading} (hphase : phase callId h = .fresh) :
    ∀ reading ∈ h, reading.isOf callId = false := by
  induction h using List.reverseRecOn with
  | nil => nofun
  | append_singleton h last ih =>
    rw [phase_concat] at hphase
    obtain ⟨hbefore, hlast⟩ := Phase.next_eq_fresh hphase
    intro reading hmem
    rcases List.mem_append.mp hmem with hmem | hmem
    · exact ih hbefore reading hmem
    · rw [List.mem_singleton.mp hmem]
      exact hlast

theorem opened_of_phase {callId tool : JsString} {h : List Reading} (hphase : phase callId h = .running tool) :
    Opened h callId tool := by
  induction h using List.reverseRecOn with
  | nil => cases hphase
  | append_singleton h last ih =>
    rw [phase_concat] at hphase
    rcases Phase.next_eq_running hphase with ⟨hfresh, rfl⟩ | ⟨hrunning, hboundary, hsame⟩
    · exact ⟨h, [], rfl, not_isOf_of_phase hfresh, nofun⟩
    · obtain ⟨before, since, heq, hbefore, hsince⟩ := ih hrunning
      refine ⟨before, since ++ [last], by rw [heq]; simp, hbefore, fun reading hmem => ?_⟩
      rcases List.mem_append.mp hmem with hmem | hmem
      · exact hsince reading hmem
      · rw [List.mem_singleton.mp hmem]
        exact ⟨hboundary, hsame⟩

theorem Opened.matching {callId tool : JsString} {h : List Reading} (hopened : Opened h callId tool) :
    ∀ reading ∈ h, Matching callId tool reading := by
  obtain ⟨before, since, rfl, hbefore, hsince⟩ := hopened
  intro reading hmem hof
  rcases List.mem_append.mp hmem with hmem | hmem
  · rw [hbefore reading hmem] at hof
    cases hof
  rcases List.mem_cons.mp hmem with rfl | hmem
  · exact .inl rfl
  · exact .inl ((hsince reading hmem).2 hof)

theorem Agreed.append {callId tool : JsString} {h : List Reading} (hagreed : Agreed h callId tool)
    (readings : List Reading) : Agreed (h ++ readings) callId tool := by
  obtain ⟨opened, after, rfl, hopened⟩ := hagreed
  exact ⟨opened, after ++ readings, by simp, hopened⟩

theorem agreed_of_phase {callId tool : JsString} {h : List Reading} (hphase : phase callId h = .matched tool) :
    Agreed h callId tool ∧ ∀ reading ∈ h, Matching callId tool reading := by
  induction h using List.reverseRecOn with
  | nil => cases hphase
  | append_singleton h last ih =>
    rw [phase_concat] at hphase
    rcases Phase.next_eq_matched hphase with ⟨hrunning, rfl⟩ | ⟨hmatched, hlast⟩
    · have hopened := opened_of_phase hrunning
      refine ⟨⟨h, [], rfl, hopened⟩, fun reading hmem => ?_⟩
      rcases List.mem_append.mp hmem with hmem | hmem
      · exact hopened.matching reading hmem
      · rw [List.mem_singleton.mp hmem]
        exact fun _ => .inr rfl
    · obtain ⟨hagreed, hmatching⟩ := ih hmatched
      refine ⟨hagreed.append [last], fun reading hmem => ?_⟩
      rcases List.mem_append.mp hmem with hmem | hmem
      · exact hmatching reading hmem
      · rw [List.mem_singleton.mp hmem]
        exact hlast

/-! ## The tables hold the phases -/

namespace Reducer

section

variable {δ : Type} [DecidableEq δ] [Digesting δ] {r r' mid : Reducer δ} {S : Set Digested} {h : List Reading}
  {callId : JsString}

/-- What the tables hold of a call. -/
def Holds (S : Set Digested) (r : Reducer δ) (callId : JsString) : Phase → Prop
  | .fresh => r.pending.get? (callKey callId) = none ∧ r.final.get? (callKey callId) = none
  | .running tool => .start callId tool ∈ S
      ∧ r.pending.get? (callKey callId) = some ⟨startPrint callId tool, callStateOverheadBytes⟩
  | .matched tool => .start callId tool ∈ S ∧ .finish callId tool false ∈ S ∧ r.final.get? (callKey callId)
      = some ⟨some (startPrint callId tool), some (finishPrint callId tool false), finalCallStateBytes⟩
  | .broken => (r.final.get? (callKey callId)).isSome

/-- The tables hold the phase of every call, until an overflow disables them. -/
def Located (S : Set Digested) (r : Reducer δ) (h : List Reading) : Prop :=
  r.disabled = false → ∀ callId, .call callId ∈ S → Holds S r callId (phase callId h)

theorem Holds.congr {p : Phase} (hholds : Holds S r callId p)
    (hpending : r'.pending.get? (callKey callId) = r.pending.get? (callKey callId))
    (hfinal : r'.final.get? (callKey callId) = r.final.get? (callKey callId)) : Holds S r' callId p := by
  unfold Holds
  rw [hpending, hfinal]
  exact hholds

theorem Located.sameTables (hlocated : Located S r h) (htables : SameTables r r') : Located S r' h := by
  intro hdisabled callId hmem
  have hbefore : r.disabled = false := by
    by_contra hne
    rw [htables.disabled (Bool.of_not_eq_false hne)] at hdisabled
    cases hdisabled
  refine (hlocated hbefore callId hmem).congr ?_ ?_
  · rw [htables.pending]
  · rw [htables.final]

/-- A call is over, in the tables: the event that is about it leaves it so. -/
theorem Holds.of_isSome {p : Phase} (hholds : Holds S r callId p) (hretains : r.Retains)
    (hsome : (r.final.get? (callKey callId)).isSome) : p.settled = true := by
  cases p with
  | fresh =>
    rw [hholds.2] at hsome
    cases hsome
  | running tool =>
    rw [(hretains.pending _ _ hholds.2).2] at hsome
    cases hsome
  | matched => rfl
  | broken => rfl

theorem Holds.on_of_settled {p : Phase} (hholds : Holds S r callId p) (hsettled : p.settled = true)
    (event : ToolEvent) : Holds S r callId (p.on event) := by
  cases p with
  | fresh => cases hsettled
  | running => cases hsettled
  | broken => exact hholds
  | matched tool =>
    have hbroken : Holds S r callId .broken := by
      show (r.final.get? _).isSome
      rw [hholds.2.2]
      rfl
    cases event with
    | start c other =>
      show Holds S r callId (if other = tool then .matched tool else .broken)
      split
      · exact hholds
      · exact hbroken
    | finish c other isError =>
      show Holds S r callId (if other = tool ∧ isError = false then .matched tool else .broken)
      split
      · exact hholds
      · exact hbroken

/-- What an event does to its call, as the tables have it. -/
structure Goes (S : Set Digested) (p : Phase) (event : ToolEvent) (mid : Reducer δ) (emission : Emission) : Prop where
  /-- Where nothing is emitted, the call starts or nothing comes of the event. -/
  silent : emission = .silent → p.on event = p ∨ ∃ tool, p.on event = .running tool
  pair : ∀ callId tool, emission = .pair callId tool →
    event = .finish callId tool false ∧ p = .running tool
  /-- An overflow disables the tables. -/
  holds : emission = .degrade .overflow ∨ Holds S mid event.callId (p.on event)

theorem goes_of_degrade {p : Phase} {event : ToolEvent} {reason : DegradationReason}
    (hholds : reason = .overflow ∨ Holds S mid event.callId (p.on event)) :
    Goes S p event mid (.degrade reason) := by
  refine ⟨nofun, nofun, ?_⟩
  rcases hholds with rfl | hholds
  · exact .inl rfl
  · exact .inr hholds

theorem holds_of_isSome {p : Phase} {event : ToolEvent} (hbroken : p.on event = .broken)
    (hsome : (mid.final.get? (callKey event.callId)).isSome) : Holds S mid event.callId (p.on event) := by
  rw [hbroken]
  exact hsome

/-- An event that breaks a call. -/
theorem on_of_breaks (hretains : r.Retains) {p : Phase} {event : ToolEvent} (hholds : Holds S r event.callId p)
    (hbreaks : Breaks r event) : p.on event = .broken := by
  rcases hbreaks with ⟨prior, hpending, hmismatch⟩ | ⟨hpending, hfinal, hstart⟩ | ⟨old, hfinal, hopen⟩
  · cases p with
    | fresh =>
      rw [hholds.1] at hpending
      cases hpending
    | running tool =>
      rw [hholds.2] at hpending
      cases hpending
      obtain ⟨hstart, hfinish⟩ := hmismatch tool rfl
      cases event with
      | start c other =>
        refine if_neg fun (heq : other = tool) => hstart ?_
        rw [heq]
        rfl
      | finish c other isError =>
        refine if_neg fun heq => hfinish ?_
        rw [heq.1, heq.2]
        rfl
    | matched tool =>
      have hfinal := (hretains.pending _ _ hpending).2
      rw [hholds.2.2] at hfinal
      cases hfinal
    | broken =>
      have hsome : (r.final.get? (callKey event.callId)).isSome := hholds
      rw [(hretains.pending _ _ hpending).2] at hsome
      cases hsome
  · cases p with
    | fresh =>
      cases event with
      | start c tool => exact absurd rfl (hstart tool)
      | finish => rfl
    | running tool =>
      rw [hholds.2] at hpending
      cases hpending
    | matched tool =>
      rw [hholds.2.2] at hfinal
      cases hfinal
    | broken =>
      have hsome : (r.final.get? (callKey event.callId)).isSome := hholds
      rw [hfinal] at hsome
      cases hsome
  · cases p with
    | fresh =>
      rw [hholds.2] at hfinal
      cases hfinal
    | running tool =>
      rw [(hretains.pending _ _ hholds.2).2] at hfinal
      cases hfinal
    | matched tool =>
      rw [hholds.2.2] at hfinal
      cases hfinal
      cases hopen
    | broken => rfl

omit [DecidableEq δ] in
/-- The prints of what was digested differ. -/
theorem startPrint_inj (hS : Set.InjOn (Digesting.digest : Digested → δ) S) {callId tool other : JsString}
    (h : Digested.start callId tool ∈ S) (hother : Digested.start callId other ∈ S)
    (heq : (startPrint callId tool : δ) = startPrint callId other) : tool = other := by
  cases hS h hother heq
  rfl

omit [DecidableEq δ] in
theorem finishPrint_inj (hS : Set.InjOn (Digesting.digest : Digested → δ) S) {callId tool other : JsString}
    {isError otherError : Bool} (h : Digested.finish callId tool isError ∈ S)
    (hother : Digested.finish callId other otherError ∈ S)
    (heq : (finishPrint callId tool isError : δ) = finishPrint callId other otherError) :
    tool = other ∧ isError = otherError := by
  cases hS h hother heq
  exact ⟨rfl, rfl⟩

/-- What an event does to its own call. -/
theorem goes_of_move (hS : Set.InjOn (Digesting.digest : Digested → δ) S) (hretains : r.Retains)
    (hdisabled : r.disabled = false) {p : Phase} {event : ToolEvent} {emission : Emission}
    (hasked : ∀ d ∈ event.digests, d ∈ S) (hholds : Holds S r event.callId p) (hmove : Move r event mid emission) :
    Goes S p event mid emission := by
  cases hmove with
  | disabled _ hdone =>
    rw [hdisabled] at hdone
    cases hdone
  | full => exact goes_of_degrade (.inl rfl)
  | conflicts _ call reason hfinal =>
    have hsettled := hholds.of_isSome hretains (Option.isSome_iff_exists.mpr ⟨call, hfinal⟩)
    exact goes_of_degrade (.inr (hholds.on_of_settled hsettled event))
  | startedBefore callId tool call hfinal hprint =>
    have hsettled := hholds.of_isSome hretains (Option.isSome_iff_exists.mpr ⟨call, hfinal⟩)
    refine ⟨fun _ => .inl ?_, (fun _ _ h => by cases h), .inr (hholds.on_of_settled hsettled _)⟩
    cases p with
    | matched other =>
      have hsame : some call = _ := hfinal.symm.trans hholds.2.2
      cases hsame
      have htool := startPrint_inj hS hholds.1 (hasked _ (by simp [ToolEvent.digests, ToolEvent.callId]))
        (Option.some.inj hprint)
      exact if_pos htool.symm
    | broken => rfl
    | _ => cases hsettled
  | endedBefore callId tool isError call hfinal hprint =>
    have hsettled := hholds.of_isSome hretains (Option.isSome_iff_exists.mpr ⟨call, hfinal⟩)
    refine ⟨fun _ => .inl ?_, (fun _ _ h => by cases h), .inr (hholds.on_of_settled hsettled _)⟩
    cases p with
    | matched other =>
      have hsame : some call = _ := hfinal.symm.trans hholds.2.2
      cases hsame
      obtain ⟨htool, herror⟩ := finishPrint_inj hS hholds.2.1
        (hasked _ (by simp [ToolEvent.digests, ToolEvent.callId])) (Option.some.inj hprint)
      exact if_pos ⟨htool.symm, herror.symm⟩
    | broken => rfl
    | _ => cases hsettled
  | pendingBefore callId tool call hpending hprint =>
    cases p with
    | fresh =>
      have hnone : some call = none := hpending.symm.trans hholds.1
      cases hnone
    | running other =>
      have hsame : some call = _ := hpending.symm.trans hholds.2
      cases hsame
      have htool := startPrint_inj hS hholds.1 (hasked _ (by simp [ToolEvent.digests, ToolEvent.callId])) hprint
      have hon : (Phase.running other).on (.start callId tool) = .running other := if_pos htool.symm
      refine ⟨fun _ => .inl hon, (fun _ _ h => by cases h), .inr ?_⟩
      rw [hon]
      exact hholds
    | matched other =>
      have hnone := (hretains.pending _ _ hpending).2
      have hsome := hholds.2.2
      cases hnone.symm.trans hsome
    | broken =>
      have hsome : (r.final.get? (callKey callId)).isSome := hholds
      rw [(hretains.pending _ _ hpending).2] at hsome
      cases hsome
  | opens callId tool _ hpending hfinal hopens =>
    have hfresh : p = .fresh := by
      cases p with
      | fresh => rfl
      | running other => cases hpending.symm.trans hholds.2
      | matched other => cases hfinal.symm.trans hholds.2.2
      | broken =>
        have hsome : (r.final.get? (callKey callId)).isSome := hholds
        rw [hfinal] at hsome
        cases hsome
    subst hfresh
    refine ⟨fun _ => .inr ⟨tool, rfl⟩, (fun _ _ h => by cases h), .inr ⟨hasked _ (by simp [ToolEvent.digests, ToolEvent.callId]), ?_⟩⟩
    show mid.pending.get? (callKey callId) = _
    rw [hopens.pending, if_pos rfl]
    rfl
  | closes _ call _ reason hbreaks hcloses =>
    refine goes_of_degrade (.inr (holds_of_isSome (on_of_breaks hretains hholds hbreaks) ?_))
    rw [hcloses.final, if_pos rfl]
    rfl
  | pairs callId tool call _ hpending hprint hcloses =>
    have hrunning : p = .running tool := by
      cases p with
      | fresh => cases hpending.symm.trans hholds.1
      | running other =>
        have hsame : some call = _ := hpending.symm.trans hholds.2
        cases hsame
        rw [startPrint_inj hS hholds.1 (hasked _ (by simp [ToolEvent.digests, ToolEvent.callId])) hprint]
      | matched other => cases (hretains.pending _ _ hpending).2.symm.trans hholds.2.2
      | broken =>
        have hsome : (r.final.get? (callKey callId)).isSome := hholds
        rw [(hretains.pending _ _ hpending).2] at hsome
        cases hsome
    subst hrunning
    have hon : (Phase.running tool).on (.finish callId tool false) = .matched tool := if_pos ⟨rfl, rfl⟩
    refine ⟨(fun h => by cases h), ?_, .inr ?_⟩
    · intro c t heq
      cases heq
      exact ⟨rfl, rfl⟩
    · rw [hon]
      refine ⟨hholds.1, hasked _ (by simp [ToolEvent.digests, ToolEvent.callId]), ?_⟩
      show mid.final.get? (callKey callId) = _
      rw [hcloses.final, if_pos rfl]
      rfl

/-- The other calls stay. -/
theorem Move.others {event : ToolEvent} {emission : Emission} (hmove : Move r event mid emission) {key : δ}
    (hne : key ≠ callKey event.callId) :
    mid.pending.get? key = r.pending.get? key ∧ mid.final.get? key = r.final.get? key := by
  cases hmove with
  | opens callId tool _ hpending hfinal hopens =>
    have hne' : key ≠ callKey callId := hne
    rw [hopens.pending, if_neg hne', hopens.final]
    exact ⟨rfl, rfl⟩
  | closes _ call _ reason hbreaks hcloses =>
    rw [hcloses.pending, if_neg hne, hcloses.final, if_neg hne]
    exact ⟨rfl, rfl⟩
  | pairs callId tool call _ hpending hprint hcloses =>
    have hne' : key ≠ callKey callId := hne
    rw [hcloses.pending, if_neg hne', hcloses.final, if_neg hne']
    exact ⟨rfl, rfl⟩
  | _ => exact ⟨rfl, rfl⟩

theorem Move.frame {event : ToolEvent} {emission : Emission} (hmove : Move r event mid emission) :
    Frame r mid := by
  cases hmove with
  | opens callId tool _ hpending hfinal hopens => exact hopens.frame
  | closes _ call _ reason hbreaks hcloses => exact hcloses.frame
  | pairs callId tool call _ hpending hprint hcloses => exact hcloses.frame
  | _ => exact .refl

theorem Move.retains {event : ToolEvent} {emission : Emission} (hmove : Move r event mid emission)
    (hretains : r.Retains) : mid.Retains := by
  cases hmove with
  | opens callId tool _ hpending hfinal hopens => exact hopens.retains
  | closes _ call _ reason hbreaks hcloses => exact hcloses.retains
  | pairs callId tool call _ hpending hprint hcloses => exact hcloses.retains
  | _ => exact hretains

/-- The tables after an event of a tool. -/
theorem Located.move (hS : Set.InjOn (Digesting.digest : Digested → δ) S) (hlocated : Located S r h)
    (hretains : r.Retains) {event : ToolEvent} {emission : Emission} (hasked : ∀ d ∈ event.digests, d ∈ S)
    (hmove : Move r event mid emission) :
    emission = .degrade .overflow ∨ Located S mid (h ++ [.tool event]) := by
  have hcall : Digested.call event.callId ∈ S := hasked _ (by cases event <;> simp [ToolEvent.digests, ToolEvent.callId])
  by_cases hoverflow : emission = .degrade .overflow
  · exact .inl hoverflow
  refine .inr fun hdisabled callId hmem => ?_
  have hbefore : r.disabled = false := hmove.frame.disabled.symm.trans hdisabled
  have hholds := hlocated hbefore callId hmem
  rw [phase_concat]
  show Holds S mid callId (if event.callId = callId then (phase callId h).on event else phase callId h)
  by_cases hself : event.callId = callId
  · subst hself
    rw [if_pos rfl]
    exact ((goes_of_move hS hretains hbefore hasked hholds hmove).holds).resolve_left hoverflow
  · rw [if_neg hself]
    have hne : (callKey callId : δ) ≠ callKey event.callId := by
      intro heq
      cases hS hmem hcall heq
      exact hself rfl
    exact hholds.congr (hmove.others hne).1 (hmove.others hne).2

/-- The tables after a boundary. -/
theorem Located.clears (hlocated : Located S r h) (hretains : r.Retains) (hclears : Clears r mid) (reading : Reading)
    (hboundary : reading.isBoundary = true) : Located S mid (h ++ [reading]) := by
  intro hdisabled callId hmem
  have hholds := hlocated (hclears.frame.disabled.symm.trans hdisabled) callId hmem
  have hnext : (phase callId h).next callId reading = (phase callId h).cut := by
    cases reading with
    | settles => rfl
    | boundary => rfl
    | shutdown => rfl
    | _ => cases hboundary
  have hpending : mid.pending.get? (callKey callId) = none := by
    rw [hclears.pending]
    rfl
  have hfinal := hclears.final (callKey callId)
  rw [phase_concat, hnext]
  cases hphase : phase callId h with
  | fresh =>
    rw [hphase] at hholds
    rw [hholds.1] at hfinal
    exact ⟨hpending, hfinal.trans hholds.2⟩
  | running tool =>
    rw [hphase] at hholds
    refine hclears.isSome _ ?_
    rw [hholds.2]
    rfl
  | matched tool =>
    rw [hphase] at hholds
    have hnone : r.pending.get? (callKey callId) = none := by
      by_contra hne
      obtain ⟨call, hget⟩ := Option.ne_none_iff_exists'.mp hne
      cases (hretains.pending _ _ hget).2.symm.trans hholds.2.2
    rw [hnone] at hfinal
    exact ⟨hholds.1, hholds.2.1, hfinal.trans hholds.2.2⟩
  | broken =>
    rw [hphase] at hholds
    show (mid.final.get? (callKey callId)).isSome
    by_cases hpend : (r.pending.get? (callKey callId)).isSome
    · exact hclears.isSome _ hpend
    · rw [if_neg hpend] at hfinal
      rw [hfinal]
      exact hholds

end

end Reducer

/-! ## The records -/

/-- The bodies of records. -/
def bodies (out : List ReducedRecord) : List ReducedBody := out.map ReducedRecord.body

/-- The body of a record of a tool. -/
def ReducedBody.isTool : ReducedBody → Bool
  | .toolStarted _ _ | .toolFinished _ => true
  | _ => false

/-- The records of tools are adjacent pairs, of a start and an end of one call. -/
inductive Paired : List ReducedBody → Prop where
  | nil : Paired []
  | pair (callId tool : JsString) {rest : List ReducedBody} : Paired rest →
    Paired (.toolStarted callId tool :: .toolFinished callId :: rest)
  | other {body : ReducedBody} {rest : List ReducedBody} : body.isTool = false → Paired rest → Paired (body :: rest)

/-- The call of a `tool_started` record. -/
def ReducedBody.startedCall : ReducedBody → Option JsString
  | .toolStarted callId _ => some callId
  | _ => none

/-- The calls that have `tool_started` records. -/
def startedCalls (out : List ReducedRecord) : List JsString := (bodies out).filterMap ReducedBody.startedCall

theorem Paired.append {xs ys : List ReducedBody} (hxs : Paired xs) (hys : Paired ys) : Paired (xs ++ ys) := by
  induction hxs with
  | nil => exact hys
  | pair callId tool _ ih => exact .pair callId tool ih
  | other hbody _ ih => exact .other hbody ih

theorem paired_of_quiet {xs : List ReducedBody} (h : ∀ body ∈ xs, body.isTool = false) : Paired xs := by
  induction xs with
  | nil => exact .nil
  | cons body xs ih =>
    rw [List.forall_mem_cons] at h
    exact .other h.1 (ih h.2)

theorem mem_startedCalls {out : List ReducedRecord} {callId : JsString} :
    callId ∈ startedCalls out ↔ ∃ tool, ReducedBody.toolStarted callId tool ∈ bodies out := by
  unfold startedCalls
  rw [List.mem_filterMap]
  constructor
  · rintro ⟨body, hmem, hcall⟩
    cases body with
    | toolStarted c tool =>
      cases hcall
      exact ⟨tool, hmem⟩
    | _ => cases hcall
  · rintro ⟨tool, hmem⟩
    exact ⟨_, hmem, rfl⟩

theorem startedCalls_append (out records : List ReducedRecord) :
    startedCalls (out ++ records) = startedCalls out ++ startedCalls records := by
  unfold startedCalls bodies
  rw [List.map_append, List.filterMap_append]

theorem bodies_append (out records : List ReducedRecord) : bodies (out ++ records) = bodies out ++ bodies records :=
  List.map_append

theorem startedCalls_of_quiet {records : List ReducedRecord} (h : ∀ body ∈ bodies records, body.isTool = false) :
    startedCalls records = [] := by
  refine List.filterMap_eq_nil_iff.mpr fun body hmem => ?_
  have hquiet := h body hmem
  cases body with
  | toolStarted => cases hquiet
  | _ => rfl

/-- The records of tools are of calls that agree, one pair a call. -/
structure Pairs (out : List ReducedRecord) (h : List Reading) : Prop where
  paired : Paired (bodies out)
  nodup : (startedCalls out).Nodup
  agreed : ∀ callId tool, ReducedBody.toolStarted callId tool ∈ bodies out →
    Agreed h callId tool ∧ (phase callId h).settled = true

/-- Nothing was lost without a degradation: a call that is over has its records. -/
def Accounts (S : Set Digested) (out : List ReducedRecord) (h : List Reading) : Prop :=
  Degraded out ∨ ((∀ reading ∈ h, reading.degrades = false)
    ∧ ∀ callId, Digested.call callId ∈ S → phase callId h ≠ .broken
      ∧ ∀ tool, phase callId h = .matched tool → ReducedBody.toolStarted callId tool ∈ bodies out)

section

variable {S : Set Digested} {out records : List ReducedRecord} {h : List Reading}

theorem pairs_nil : Pairs [] [] := ⟨.nil, List.nodup_nil, nofun⟩

theorem accounts_nil : Accounts S [] [] := .inr ⟨nofun, fun _ _ => ⟨nofun, nofun⟩⟩

theorem Pairs.append_quiet (hpairs : Pairs out h) (hquiet : ∀ body ∈ bodies records, body.isTool = false)
    (reading : Reading) : Pairs (out ++ records) (h ++ [reading]) := by
  refine ⟨?_, ?_, fun callId tool hmem => ?_⟩
  · rw [bodies_append]
    exact hpairs.paired.append (paired_of_quiet hquiet)
  · rw [startedCalls_append, startedCalls_of_quiet hquiet, List.append_nil]
    exact hpairs.nodup
  · rw [bodies_append] at hmem
    rcases List.mem_append.mp hmem with hmem | hmem
    · obtain ⟨hagreed, hsettled⟩ := hpairs.agreed callId tool hmem
      rw [phase_concat]
      exact ⟨hagreed.append _, Phase.settled_next hsettled reading⟩
    · cases hquiet _ hmem

/-- A pair for a call that was running. -/
theorem Pairs.append_pair (hpairs : Pairs out h) {callId tool : JsString} (hphase : phase callId h = .running tool)
    (hbodies : bodies records = [.toolStarted callId tool, .toolFinished callId]) :
    Pairs (out ++ records) (h ++ [.tool (.finish callId tool false)]) := by
  have hnext : phase callId (h ++ [.tool (.finish callId tool false)]) = .matched tool := by
    rw [phase_concat, hphase]
    show (if callId = callId then (Phase.running tool).on (.finish callId tool false) else .running tool) = _
    rw [if_pos rfl]
    exact if_pos ⟨rfl, rfl⟩
  have hcalls : startedCalls records = [callId] := by
    unfold startedCalls
    rw [hbodies]
    rfl
  refine ⟨?_, ?_, fun c t hmem => ?_⟩
  · rw [bodies_append, hbodies]
    exact hpairs.paired.append (.pair callId tool .nil)
  · rw [startedCalls_append, hcalls, List.nodup_append]
    refine ⟨hpairs.nodup, List.nodup_singleton callId, fun c hc c' hc' heq => ?_⟩
    -- A call that has its records is over, and this one was running.
    rw [heq, List.mem_singleton.mp hc'] at hc
    obtain ⟨t, hmem⟩ := mem_startedCalls.mp hc
    have hsettled := (hpairs.agreed callId t hmem).2
    rw [hphase] at hsettled
    cases hsettled
  · rw [bodies_append, hbodies] at hmem
    rcases List.mem_append.mp hmem with hmem | hmem
    · obtain ⟨hagreed, hsettled⟩ := hpairs.agreed c t hmem
      refine ⟨hagreed.append _, ?_⟩
      rw [phase_concat]
      exact Phase.settled_next hsettled _
    · simp only [List.mem_cons, ReducedBody.toolStarted.injEq, reduceCtorEq, List.not_mem_nil, or_false] at hmem
      obtain ⟨rfl, rfl⟩ := hmem
      refine ⟨(agreed_of_phase hnext).1, ?_⟩
      rw [hnext]
      rfl

/-- An input that loses nothing. -/
theorem Accounts.append (haccounts : Accounts S out h) {reading : Reading} (hdegrades : reading.degrades = false)
    (hphase : ∀ callId, Digested.call callId ∈ S → phase callId h ≠ .broken →
      phase callId (h ++ [reading]) = phase callId h ∨ (∃ tool, phase callId (h ++ [reading]) = .running tool)
        ∨ ∃ tool, phase callId (h ++ [reading]) = .matched tool
          ∧ ReducedBody.toolStarted callId tool ∈ bodies records) :
    Accounts S (out ++ records) (h ++ [reading]) := by
  rcases haccounts with hdegraded | ⟨hreadings, hcalls⟩
  · exact .inl (hdegraded.append_right records)
  refine .inr ⟨fun other hmem => ?_, fun callId hmem => ?_⟩
  · rcases List.mem_append.mp hmem with hmem | hmem
    · exact hreadings other hmem
    · rw [List.mem_singleton.mp hmem]
      exact hdegrades
  · obtain ⟨hbroken, hmatched⟩ := hcalls callId hmem
    rw [bodies_append]
    rcases hphase callId hmem hbroken with hsame | ⟨tool, hrunning⟩ | ⟨tool, hnow, hstarted⟩
    · rw [hsame]
      exact ⟨hbroken, fun tool heq => List.mem_append_left _ (hmatched tool heq)⟩
    · rw [hrunning]
      exact ⟨nofun, nofun⟩
    · rw [hnow]
      refine ⟨nofun, fun t heq => ?_⟩
      cases heq
      exact List.mem_append_right _ hstarted

end

/-! ## Reducing an input -/

namespace Reducer

section

variable {δ : Type} [DecidableEq δ] [Digesting δ]

/-- The reduction of an event of a tool. -/
def ToolEvent.reducing : ToolEvent → Reducing δ (List ReducedRecord)
  | .start callId tool => toolStarted callId tool
  | .finish callId tool isError => toolEnded callId tool isError

/-- The reduction of what an input says, before the end of the session. -/
def readingReduced : Reading → Reducing δ (List ReducedRecord)
  | .ignored => return []
  | .degradation reason => degrade reason
  | .malformedTool => do if (← get).disabled then return [] else degrade .missingField
  | .tool event => do if (← get).disabled then return [] else event.reducing
  | .agentStarts => beforeAgentStart
  | .settles => agentSettled
  | .boundary body => boundary body
  | .shutdown reason => finish reason

/-- A reducer takes an input. -/
def takeInput : Input → Reducing δ (List ReducedRecord)
  | .event value => reduce value
  | .degradation reason => degrade reason

/-- A reducer takes inputs, one after the other: the records that it emits, and its state. -/
def takes (coordinates : Coordinates) (inputs : List Input) : List ReducedRecord × Reducer δ :=
  inputs.foldl (fun (out, r) input => (out ++ ((takeInput input).run r).1, ((takeInput input).run r).2))
    ([], create coordinates)

theorem takes_concat (coordinates : Coordinates) (inputs : List Input) (input : Input) :
    (takes coordinates (inputs ++ [input]) : List ReducedRecord × Reducer δ)
      = ((takes (δ := δ) coordinates inputs).1 ++ ((takeInput input).run (takes (δ := δ) coordinates inputs).2).1,
        ((takeInput input).run (takes (δ := δ) coordinates inputs).2).2) := by
  unfold takes
  rw [List.foldl_append]
  rfl

theorem toolStart_eq (dataValue : String → Option Field) :
    (toolStart dataValue : Reducing δ (List ReducedRecord)) = readingReduced (readStart dataValue) := by
  unfold toolStart readStart
  cases exactProperty dataValue "toolCallId" maxCaptureCallIdBytes with
  | none => rfl
  | some callId => cases exactProperty dataValue "toolName" maxCaptureToolNameBytes <;> rfl

theorem toolEnd_eq (dataValue : String → Option Field) :
    (toolEnd dataValue : Reducing δ (List ReducedRecord)) = readingReduced (readEnd dataValue) := by
  unfold toolEnd readEnd
  cases exactProperty dataValue "toolCallId" maxCaptureCallIdBytes with
  | none => rfl
  | some callId =>
    cases exactProperty dataValue "toolName" maxCaptureToolNameBytes with
    | none => rfl
    | some tool => cases booleanProperty dataValue "isError" <;> rfl

theorem reduceTyped_eq (dataValue : String → Option Field) (type : EventType) :
    (reduceTyped dataValue type : Reducing δ (List ReducedRecord)) = readingReduced (readTyped dataValue type) := by
  cases type with
  | beforeAgentStart => rfl
  | toolExecutionStart => exact toolStart_eq dataValue
  | toolExecutionEnd => exact toolEnd_eq dataValue
  | agentSettled => rfl
  | sessionCompact =>
    show boundaryOf (compactionBody dataValue) = readingReduced (readBoundary (compactionBody dataValue))
    cases compactionBody dataValue <;> rfl
  | sessionTree =>
    show boundaryOf (treeBody dataValue) = readingReduced (readBoundary (treeBody dataValue))
    cases treeBody dataValue <;> rfl
  | sessionShutdown =>
    show shutdown dataValue = readingReduced ((ShutdownReason.named (dataValue "reason")).elim _ _)
    unfold shutdown
    cases ShutdownReason.named (dataValue "reason") <;> rfl

/-- Before the end of the session an input is reduced by what it says. -/
theorem run_takeInput {r : Reducer δ} (hfinished : r.finished = false) (input : Input) :
    (takeInput input).run r = (readingReduced input.reading).run r := by
  cases input with
  | degradation reason => rfl
  | event value =>
    cases value with
    | other => rfl
    | record dataValue =>
      show (reduce (.record dataValue)).run r
        = (readingReduced (if (dataValue "type").isNone then .degradation .missingField
            else (EventType.named (dataValue "type")).elim .ignored (readTyped dataValue))).run r
      unfold reduce
      rw [run_get_bind, hfinished, if_neg Bool.false_ne_true]
      by_cases htype : (dataValue "type").isNone = true
      · rw [if_pos htype, if_pos htype]
        rfl
      · rw [if_neg htype, if_neg htype]
        cases EventType.named (dataValue "type") with
        | none => rfl
        | some type => exact congrArg (fun f => f.run r) (reduceTyped_eq dataValue type)

/-- Past the end of the session nothing is done. -/
theorem run_takeInput_of_finished {r : Reducer δ} (hfinished : r.finished = true) (input : Input) :
    (takeInput input).run r = ([], r) := by
  cases input with
  | degradation reason =>
    show (degrade reason).run r = _
    unfold degrade
    rw [run_get_bind, if_pos hfinished]
    rfl
  | event value =>
    cases value with
    | other => rfl
    | record dataValue =>
      show (reduce (.record dataValue)).run r = _
      unfold reduce
      rw [run_get_bind, if_pos hfinished]
      rfl

end

end Reducer

theorem reading_boundary {body : ReducedBody} (read : Option ReducedBody) (h : readBoundary read = .boundary body) :
    read = some body := by
  cases read with
  | none => cases h
  | some other =>
    cases h
    rfl

/-- The boundary of an input is a compaction or a change of the tree. -/
theorem plain_of_reading {input : Input} {body : ReducedBody} (h : input.reading = .boundary body) :
    body.isTool = false ∧ body.isFinished = false := by
  cases input with
  | degradation reason => cases h
  | event value =>
    cases value with
    | other => cases h
    | record dataValue =>
      unfold Input.reading at h
      dsimp only at h
      split at h
      · cases h
      cases htype : EventType.named (dataValue "type") with
      | none =>
        rw [htype] at h
        cases h
      | some type =>
        rw [htype] at h
        cases type with
        | sessionCompact =>
          have hbody := reading_boundary (Reducer.compactionBody dataValue) h
          unfold Reducer.compactionBody at hbody
          obtain ⟨reason, -, hbody⟩ := Option.bind_eq_some_iff.mp hbody
          obtain ⟨fromExtension, -, hbody⟩ := Option.bind_eq_some_iff.mp hbody
          obtain ⟨willRetry, -, hbody⟩ := Option.bind_eq_some_iff.mp hbody
          cases hbody
          exact ⟨rfl, rfl⟩
        | sessionTree =>
          have hbody := reading_boundary (Reducer.treeBody dataValue) h
          unfold Reducer.treeBody at hbody
          obtain ⟨newLeafId, -, hbody⟩ := Option.bind_eq_some_iff.mp hbody
          obtain ⟨oldLeafId, -, hbody⟩ := Option.bind_eq_some_iff.mp hbody
          cases hbody
          exact ⟨rfl, rfl⟩
        | beforeAgentStart => cases h
        | agentSettled => cases h
        | toolExecutionStart =>
          have hread : readStart dataValue = .boundary body := h
          unfold readStart at hread
          split at hread <;> cases hread
        | toolExecutionEnd =>
          have hread : readEnd dataValue = .boundary body := h
          unfold readEnd at hread
          split at hread <;> cases hread
        | sessionShutdown =>
          have hread : (ShutdownReason.named (dataValue "reason")).elim (.degradation .missingField) .shutdown
            = Reading.boundary body := h
          cases hreason : ShutdownReason.named (dataValue "reason") <;> rw [hreason] at hread <;> cases hread

/-! ## A run -/

namespace Reducer

section

variable {δ : Type} [DecidableEq δ] [Digesting δ] {r r' mid : Reducer δ} {S : Set Digested} {h : List Reading}
  {out records : List ReducedRecord} {reading : Reading}

/-- What holds between the state of a reducer, the records that it emitted and what its inputs said. -/
structure Follows (S : Set Digested) (r : Reducer δ) (out : List ReducedRecord) (h : List Reading) : Prop where
  counted : r.Counted out
  flagged : r.Flagged out
  retains : r.Retains
  located : Located S r h
  pairs : Pairs out h
  accounts : Accounts S out h
  shut : ∀ reason, .shutdown reason ∈ h → (bodies out).getLast? = some (.sessionFinished reason)
  finished : r.finished = true ↔ ∃ reading ∈ h, reading.ends = true

theorem follows_create (coordinates : Coordinates) : Follows S (create coordinates : Reducer δ) [] [] where
  counted := counted_create coordinates
  flagged := by
    rintro (hdisabled | hoverflow)
    · cases hdisabled
    · cases hoverflow
  retains := retains_create coordinates
  located := fun _ _ _ => ⟨rfl, rfl⟩
  pairs := pairs_nil
  accounts := accounts_nil
  shut := nofun
  finished := ⟨nofun, nofun⟩

theorem not_mem_of_unfinished (hf : Follows S r out h) (hfinished : r.finished = false) :
    ∀ other ∈ h, other.ends = false := by
  intro other hmem
  by_contra hends
  have hdone := hf.finished.mpr ⟨other, hmem, Bool.of_not_eq_false hends⟩
  rw [hfinished] at hdone
  cases hdone

/-- An input that does not end the session, without records of tools. -/
theorem Follows.append (hf : Follows S r out h) (hfinished : r.finished = false) (hcounted : r'.Counted (out ++ records))
    (hflagged : r'.Flagged (out ++ records)) (hretains : r'.Retains) (hlocated : Located S r' (h ++ [reading]))
    (hpairs : Pairs (out ++ records) (h ++ [reading])) (haccounts : Accounts S (out ++ records) (h ++ [reading]))
    (hends : reading.ends = false) (hfinished' : r'.finished = false) :
    Follows S r' (out ++ records) (h ++ [reading]) := by
  have hnone : ∀ other ∈ h ++ [reading], other.ends = false := by
    intro other hmem
    rcases List.mem_append.mp hmem with hmem | hmem
    · exact not_mem_of_unfinished hf hfinished other hmem
    · rw [List.mem_singleton.mp hmem]
      exact hends
  refine ⟨hcounted, hflagged, hretains, hlocated, hpairs, haccounts, fun reason hmem => ?_, fun hdone => ?_, ?_⟩
  · cases hnone _ hmem
  · rw [hfinished'] at hdone
    cases hdone
  · rintro ⟨other, hmem, hother⟩
    rw [hnone other hmem] at hother
    cases hother

theorem quiet_of_onlyDegradations (honly : OnlyDegradations records) : ∀ body ∈ bodies records, body.isTool = false := by
  intro body hmem
  obtain ⟨record, hrecord, rfl⟩ := List.mem_map.mp hmem
  obtain ⟨reason, hbody⟩ := honly record hrecord
  rw [hbody]
  rfl

/-- An input that makes a degradation. -/
theorem Follows.degrades (hf : Follows S r out h) (hfinished : r.finished = false) (hframe : Frame r mid)
    (hretains : mid.Retains) (hdegrades : Degrades mid out records r') (hlocated : Located S r' (h ++ [reading]))
    (hends : reading.ends = false) : Follows S r' (out ++ records) (h ++ [reading]) := by
  have hpairs := hf.pairs.append_quiet (quiet_of_onlyDegradations hdegrades.only) reading
  refine hf.append hfinished hdegrades.counted (fun _ => hdegrades.degraded) (hdegrades.tables.retains hretains)
    hlocated hpairs (.inl hdegrades.degraded) hends ?_
  rw [hdegrades.tables.finished, hframe.finished]
  exact hfinished

/-- An input without records. -/
theorem Follows.still (hf : Follows S r out h) (hfinished : r.finished = false) (hframe : Frame r mid)
    (hretains : mid.Retains) (hlocated : Located S mid (h ++ [reading])) (haccounts : Accounts S out (h ++ [reading]))
    (hends : reading.ends = false) : Follows S mid (out ++ []) (h ++ [reading]) := by
  have hquiet : ∀ body ∈ bodies [], body.isTool = false := nofun
  have hpairs := hf.pairs.append_quiet hquiet reading
  have hcounted := hf.counted.frame hframe
  have hflagged := hf.flagged.frame hframe
  rw [← List.append_nil out] at hcounted hflagged haccounts
  exact hf.append hfinished hcounted hflagged hretains hlocated hpairs haccounts hends
    (hframe.finished.trans hfinished)

/-- A reading that is about no call and is no boundary. -/
theorem phase_concat_of_plain (callId : JsString) (hplain : ∀ event, reading ≠ .tool event)
    (hboundary : reading.isBoundary = false) : phase callId (h ++ [reading]) = phase callId h := by
  rw [phase_concat]
  cases reading with
  | tool event => exact absurd rfl (hplain event)
  | settles => cases hboundary
  | boundary => cases hboundary
  | shutdown => cases hboundary
  | _ => rfl

theorem Located.plain (hlocated : Located S r h) (hplain : ∀ event, reading ≠ .tool event)
    (hboundary : reading.isBoundary = false) : Located S r (h ++ [reading]) := by
  intro hdisabled callId hmem
  rw [phase_concat_of_plain callId hplain hboundary]
  exact hlocated hdisabled callId hmem

theorem located_of_disabled (hdisabled : r.disabled = true) : Located S r h := by
  intro henabled
  rw [hdisabled] at henabled
  cases henabled

/-- Once an overflow disabled the tables, events of tools are dropped: there is a degradation. -/
theorem Follows.dropped (hf : Follows S r out h) (hfinished : r.finished = false) (hdisabled : r.disabled = true)
    (hends : reading.ends = false) : Follows S r (out ++ []) (h ++ [reading]) :=
  hf.still hfinished .refl hf.retains (located_of_disabled hdisabled) (.inl (hf.flagged (.inl hdisabled))) hends

/-- A degradation after what an event did to the tables. -/
theorem Follows.degrade (hf : Follows S r out h) (hfinished : r.finished = false) (hframe : Frame r mid)
    (hretains : mid.Retains) {reason : DegradationReason}
    (hlocated : reason = .overflow ∨ Located S mid (h ++ [reading])) (hends : reading.ends = false)
    (hrun : (Reducer.degrade reason).run mid = (records, r')) : Follows S r' (out ++ records) (h ++ [reading]) := by
  obtain ⟨hdegrades, hoverflow⟩ := degrades_degrade (hf.counted.frame hframe) (hf.flagged.frame hframe)
    (hframe.finished.trans hfinished) reason hrun
  refine hf.degrades hfinished hframe hretains hdegrades ?_ hends
  rcases hlocated with heq | hlocated
  · exact located_of_disabled (hoverflow heq)
  · exact hlocated.sameTables hdegrades.tables

/-- The call of an event is asked for. -/
theorem call_mem {event : ToolEvent} (hasked : ∀ d ∈ event.digests, d ∈ S) : Digested.call event.callId ∈ S :=
  hasked _ (by cases event <;> simp [ToolEvent.digests, ToolEvent.callId])

theorem phase_concat_self (event : ToolEvent) :
    phase event.callId (h ++ [.tool event]) = (phase event.callId h).on event := by
  rw [phase_concat]
  exact if_pos rfl

theorem phase_concat_other {callId : JsString} {event : ToolEvent} (hne : event.callId ≠ callId) :
    phase callId (h ++ [.tool event]) = phase callId h := by
  rw [phase_concat]
  exact if_neg hne

/-- An event of a tool. -/
theorem Follows.tool (hS : Set.InjOn (Digesting.digest : Digested → δ) S) (hf : Follows S r out h)
    (hfinished : r.finished = false) (hdisabled : r.disabled = false) {event : ToolEvent} {emission : Emission}
    (hasked : ∀ d ∈ event.digests, d ∈ S) (hmove : Move r event mid emission)
    (hrun : emission.reducing.run mid = (records, r')) :
    Follows S r' (out ++ records) (h ++ [.tool event]) := by
  have hframe := hmove.frame
  have hretains := hmove.retains hf.retains
  have hlocated := hf.located.move hS hf.retains hasked hmove
  have hgoes := goes_of_move hS hf.retains hdisabled hasked (hf.located hdisabled _ (call_mem hasked)) hmove
  cases emission with
  | degrade reason =>
    have hplace : reason = .overflow ∨ Located S mid (h ++ [.tool event]) := by
      rcases hlocated with heq | hlocated
      · cases heq
        exact .inl rfl
      · exact .inr hlocated
    exact hf.degrade hfinished hframe hretains hplace rfl hrun
  | silent =>
    cases hrun
    refine hf.still hfinished hframe hretains (hlocated.resolve_left nofun) ?_ rfl
    have haccounts : Accounts S (out ++ []) (h ++ [.tool event]) := by
      refine hf.accounts.append rfl fun callId _ _ => ?_
      by_cases hself : event.callId = callId
      · subst hself
        rw [phase_concat_self]
        rcases hgoes.silent rfl with hsame | hrunning
        · exact .inl hsame
        · exact .inr (.inl hrunning)
      · exact .inl (phase_concat_other hself)
    rwa [List.append_nil] at haccounts
  | pair callId tool =>
    obtain ⟨rfl, hrunning⟩ := hgoes.pair callId tool rfl
    have hcounted := hf.counted.frame hframe
    have hfinished' := hframe.finished.trans hfinished
    have hmid := hlocated.resolve_left nofun
    rcases emits_admission hcounted (hf.flagged.frame hframe) hfinished' (by simp [ReducedBody.isFinished]) hrun with
      ⟨hcounted', htables, hflagged', hbodies⟩ | hdegrades
    · have hpairs := hf.pairs.append_pair hrunning hbodies
      have haccounts : Accounts S (out ++ records) (h ++ [.tool (.finish callId tool false)]) := by
        refine hf.accounts.append rfl fun c _ _ => ?_
        by_cases hself : callId = c
        · subst hself
          have hnext := phase_concat_self (h := h) (.finish callId tool false)
          rw [hrunning] at hnext
          refine .inr (.inr ⟨tool, hnext.trans (if_pos ⟨rfl, rfl⟩), ?_⟩)
          show _ ∈ records.map ReducedRecord.body
          rw [hbodies]
          exact List.mem_cons_self
        · exact .inl (phase_concat_other hself)
      exact hf.append hfinished hcounted' hflagged' (htables.retains hretains) (hmid.sameTables htables) hpairs
        haccounts rfl (htables.finished.trans hfinished')
    · exact hf.degrades hfinished hframe hretains hdegrades (hmid.sameTables hdegrades.tables) rfl

/-- At a boundary, what was pending makes a degradation. -/
theorem Follows.accountsPast (hf : Follows S r out h) (hboundary : reading.isBoundary = true)
    (hunmatched : 0 < r.pending.size → Degraded (out ++ records)) : Accounts S (out ++ records) (h ++ [reading]) := by
  by_cases hdisabled : r.disabled = true
  · exact .inl ((hf.flagged (.inl hdisabled)).append_right records)
  by_cases hpending : 0 < r.pending.size
  · exact .inl (hunmatched hpending)
  have hdegrades : reading.degrades = false := by
    cases reading with
    | settles => rfl
    | boundary => rfl
    | shutdown => rfl
    | _ => cases hboundary
  have hnext : ∀ p callId, Phase.next callId p reading = p.cut := by
    intro p callId
    cases reading with
    | settles => rfl
    | boundary => rfl
    | shutdown => rfl
    | _ => cases hboundary
  refine hf.accounts.append hdegrades fun callId hmem _ => .inl ?_
  have hholds := hf.located (Bool.of_not_eq_true hdisabled) callId hmem
  rw [phase_concat, hnext]
  cases hphase : phase callId h with
  | running tool =>
    -- No call is pending.
    rw [hphase] at hholds
    have hmem := Dict.mem_of_get? hholds.2
    exact absurd (List.length_pos_of_mem hmem) (by simpa [Dict.size, Dict.keys] using hpending)
  | _ => rfl

/-- The bodies of a boundary make a degradation if a call was pending. -/
theorem degraded_of_unmatchedBodies {size : ℕ} {rest : List ReducedBody}
    (hbodies : bodies records = unmatchedBodies (decide (0 < size)) ++ rest) (hpending : 0 < size) :
    Degraded (out ++ records) := by
  refine (degraded_of_mem_map .unmatchedStart ?_).append_left out
  show _ ∈ bodies records
  rw [hbodies, decide_eq_true hpending]
  exact List.mem_cons_self

/-- A boundary within the session. -/
theorem Follows.bounds (hf : Follows S r out h) (hfinished : r.finished = false) (hclears : Clears r mid)
    (hboundary : reading.isBoundary = true) (hends : reading.ends = false) (rest : List ReducedBody)
    (hrest : ∀ body ∈ rest, body.isTool = false ∧ body.isFinished = false)
    (hrun : (admission (unmatchedBodies (decide (0 < r.pending.size)) ++ rest) .normal).run mid = (records, r')) :
    Follows S r' (out ++ records) (h ++ [reading]) := by
  have hframe := hclears.frame
  have hfinished' := hframe.finished.trans hfinished
  have hmid := hf.located.clears hf.retains hclears reading hboundary
  have hall : ∀ body ∈ unmatchedBodies (decide (0 < r.pending.size)) ++ rest,
      body.isTool = false ∧ body.isFinished = false := by
    intro body hmem
    rcases List.mem_append.mp hmem with hmem | hmem
    · rw [isFinished_of_mem_unmatchedBodies hmem]
      exact ⟨rfl, rfl⟩
    · exact hrest body hmem
  rcases emits_admission (hf.counted.frame hframe) (hf.flagged.frame hframe) hfinished'
    (fun body hmem => (hall body hmem).2) hrun with ⟨hcounted, htables, hflagged, hbodies⟩ | hdegrades
  · have hquiet : ∀ body ∈ bodies records, body.isTool = false := by
      intro body hmem
      exact (hall body (hbodies ▸ hmem)).1
    exact hf.append hfinished hcounted hflagged (htables.retains hclears.retains) (hmid.sameTables htables)
      (hf.pairs.append_quiet hquiet reading)
      (hf.accountsPast hboundary (degraded_of_unmatchedBodies hbodies)) hends (htables.finished.trans hfinished')
  · exact hf.degrades hfinished hframe hclears.retains hdegrades (hmid.sameTables hdegrades.tables) hends

omit [DecidableEq δ] [Digesting δ] in
/-- The records at the end of a session. -/
theorem counted_terminal (hcounted : r.Counted out) (hfinished : r.finished = false) {before : List ReducedBody}
    {reason : ShutdownReason} (hbefore : ∀ body ∈ before, body.isFinished = false)
    (hroom : r.recordCount + (before ++ [ReducedBody.sessionFinished reason]).length ≤ maxReducedRecordsPerWindow)
    (hrun : ((before ++ [ReducedBody.sessionFinished reason]).mapM materialize).run r = (records, r')) :
    Counted { r' with finished := true } (out ++ records) ∧ SameTables r r'
      ∧ (r'.disabled = r.disabled ∧ r'.overflowReported = r.overflowReported)
      ∧ bodies records = before ++ [.sessionFinished reason] := by
  obtain ⟨records', hrun', hmap, hids, -⟩ := run_mapM_materialize (before ++ [.sessionFinished reason]) r
  have heq := hrun.symm.trans hrun'
  cases heq
  have hnext := hcounted.counts.nextEventId
  refine ⟨⟨?_, ⟨?_, hroom⟩, nofun, nofun, fun _ => ?_⟩, ⟨rfl, rfl, rfl, rfl, id, id⟩, ⟨rfl, rfl⟩, hmap⟩
  · show (out ++ records).map ReducedRecord.eventId = List.range' 1 (r.recordCount + _)
    rw [List.map_append, hcounted.ids, hids, hnext, Nat.add_comm r.recordCount 1, List.range'_append_1]
  · show r.nextEventId + _ = r.recordCount + _ + 1
    omega
  · obtain ⟨first, last, rfl, hfirst, hlast⟩ := List.map_eq_append_iff.mp hmap
    obtain ⟨record, rfl, hrecord⟩ := List.map_eq_singleton_iff.mp hlast
    refine ⟨out ++ first, record, by rw [List.append_assoc], by rw [hrecord]; rfl, fun other hmem => ?_⟩
    rcases List.mem_append.mp hmem with hmem | hmem
    · exact (hcounted.unfinished hfinished).2 other hmem
    · exact hbefore other.body (hfirst ▸ List.mem_map_of_mem hmem)

omit [DecidableEq δ] [Digesting δ] in
/-- There is always room for the bodies at the end of a session, which lack the degradation of the calls that
were pending only when there is a degradation. -/
theorem terminalBodies_eq (hcounted : r.Counted out) (hfinished : r.finished = false) (unmatched : Bool)
    (reason : ShutdownReason) :
    ∃ before, terminalBodies r unmatched reason = before ++ [.sessionFinished reason]
      ∧ (∀ body ∈ before, body = .coverageDegraded .unmatchedStart)
      ∧ r.recordCount + (before ++ [ReducedBody.sessionFinished reason]).length ≤ maxReducedRecordsPerWindow
      ∧ (unmatched = true → Degraded out ∨ ReducedBody.coverageDegraded .unmatchedStart ∈ before) := by
  have hcount := (hcounted.unfinished hfinished).1
  unfold terminalBodies
  dsimp only
  split
  next hfull =>
    refine ⟨[], rfl, nofun, hcount, fun hunmatched => .inl (hcounted.reserve hfinished ?_)⟩
    rw [hunmatched] at hfull
    have htwo : (unmatchedBodies true ++ [ReducedBody.sessionFinished reason]).length = 2 := rfl
    omega
  next hfits =>
    refine ⟨unmatchedBodies unmatched, rfl, fun body => isFinished_of_mem_unmatchedBodies, Nat.le_of_not_lt hfits,
      fun hunmatched => .inr ?_⟩
    rw [hunmatched]
    exact List.mem_cons_self

/-- The end of the session. -/
theorem Follows.ends (hf : Follows S r out h) (hfinished : r.finished = false) (reason : ShutdownReason)
    (hrun : (finish reason).run r = (records, r')) : Follows S r' (out ++ records) (h ++ [.shutdown reason]) := by
  obtain ⟨mid, hmid⟩ : ∃ mid, mid = { r.pending.items.foldl finalize r with pending := .empty, turnOpen := false } :=
    ⟨_, rfl⟩
  have hcleared := clears_clearPending hf.retains
  have hclears : Clears r mid := by
    rw [hmid]
    obtain ⟨⟨hc, hn, hr, hf', hd, ho⟩, ⟨hb, hs, hp⟩, hpending, hfinal, hsome⟩ := hcleared
    exact ⟨⟨hc, hn, hr, hf', hd, ho⟩, ⟨hb, hs, hp⟩, hpending, hfinal, hsome⟩
  have hcounted := hf.counted.frame hclears.frame
  have hunfinished := hclears.frame.finished.trans hfinished
  obtain ⟨before, heq, hbefore, hroom, hunmatched⟩ :=
    terminalBodies_eq hcounted hunfinished (decide (0 < r.pending.size)) reason
  have hadmitted : (admission (before ++ [.sessionFinished reason]) .terminal).run mid
      = ((before ++ [ReducedBody.sessionFinished reason]).mapM materialize).run mid := by
    have hfits : mid.recordCount + (before ++ [ReducedBody.sessionFinished reason]).length
      ≤ AdmissionMode.terminal.limit := hroom
    unfold admission
    rw [run_get_bind, if_neg (by simp), if_pos hfits]
  obtain ⟨⟨sent, last⟩, hsent⟩ : ∃ p, ((before ++ [ReducedBody.sessionFinished reason]).mapM materialize).run mid = p := ⟨_, rfl⟩
  have hresult : (finish reason).run r = (sent, { last with finished := true }) := by
    show (fun p : List ReducedRecord × Reducer δ => (p.1, { p.2 with finished := true }))
      ((admission (terminalBodies { r.pending.items.foldl finalize r with pending := .empty, turnOpen := false }
        (decide (0 < r.pending.size)) reason) .terminal).run
        { r.pending.items.foldl finalize r with pending := .empty, turnOpen := false }) = _
    rw [← hmid, heq, hadmitted, hsent]
  rw [hresult] at hrun
  cases hrun
  obtain ⟨hcounted', htables, ⟨hdisabled, hoverflow⟩, hbodies⟩ := counted_terminal hcounted hunfinished
    (fun body hmem => by rw [hbefore body hmem]; rfl) hroom hsent
  have hlocated := (hf.located.clears hf.retains hclears (.shutdown reason) rfl).sameTables htables
  have hretains := htables.retains hclears.retains
  have hquiet : ∀ body ∈ bodies records, body.isTool = false := by
    intro body hmem
    rw [hbodies] at hmem
    rcases List.mem_append.mp hmem with hmem | hmem
    · rw [hbefore body hmem]
      rfl
    · rw [List.mem_singleton.mp hmem]
      rfl
  have hflagged : Flagged { last with finished := true } (out ++ records) := by
    intro hflags
    refine (hf.flagged.frame hclears.frame ?_).append_right records
    rw [← hdisabled, ← hoverflow]
    exact hflags
  refine ⟨hcounted', hflagged, ⟨hretains.bytes, hretains.size, hretains.pending⟩, hlocated,
    hf.pairs.append_quiet hquiet _, hf.accountsPast rfl fun hpending => ?_, fun other hmem => ?_, fun _ => ?_, fun _ => rfl⟩
  · rcases hunmatched (decide_eq_true hpending) with hdegraded | hmem
    · exact hdegraded.append_right records
    · refine (degraded_of_mem_map .unmatchedStart ?_).append_left out
      show _ ∈ bodies records
      rw [hbodies]
      exact List.mem_append_left _ hmem
  · rw [bodies_append, hbodies, ← List.append_assoc, List.getLast?_concat]
    rcases List.mem_append.mp hmem with hmem | hmem
    · cases not_mem_of_unfinished hf hfinished _ hmem
    · cases List.mem_singleton.mp hmem
      rfl
  · exact ⟨.shutdown reason, List.mem_append_right _ (List.mem_singleton_self _), rfl⟩

omit [DecidableEq δ] [Digesting δ] in
theorem accounts_plain (haccounts : Accounts S out h) (hplain : ∀ event, reading ≠ .tool event)
    (hboundary : reading.isBoundary = false) (hdegrades : reading.degrades = false) :
    Accounts S out (h ++ [reading]) := by
  have happended : Accounts S (out ++ []) (h ++ [reading]) :=
    haccounts.append hdegrades fun callId _ _ => .inl (phase_concat_of_plain callId hplain hboundary)
  rwa [List.append_nil] at happended

theorem move_event (hretains : r.Retains) (event : ToolEvent) :
    ∃ mid emission, Move r event mid emission ∧ event.reducing.run r = emission.reducing.run mid := by
  cases event with
  | start callId tool => exact move_toolStarted hretains callId tool
  | finish callId tool isError => exact move_toolEnded hretains callId tool isError

omit [Digesting δ] in
theorem Clears.turnOpen (hclears : Clears r mid) (turnOpen : Bool) : Clears r { mid with turnOpen := turnOpen } := by
  obtain ⟨⟨hc, hn, hr, hf, hd, ho⟩, ⟨hb, hs, hp⟩, hpending, hfinal, hsome⟩ := hclears
  exact ⟨⟨hc, hn, hr, hf, hd, ho⟩, ⟨hb, hs, hp⟩, hpending, hfinal, hsome⟩

/-- An input before the end of the session. -/
theorem Follows.step (hS : Set.InjOn (Digesting.digest : Digested → δ) S) (hf : Follows S r out h) (reading : Reading)
    (hfinished : r.finished = false) (hasked : ∀ d ∈ reading.digests, d ∈ S)
    (hplain : ∀ body, reading = .boundary body → body.isTool = false ∧ body.isFinished = false)
    (hrun : (readingReduced reading).run r = (records, r')) : Follows S r' (out ++ records) (h ++ [reading]) := by
  cases reading with
  | ignored =>
    cases hrun
    exact hf.still hfinished .refl hf.retains (hf.located.plain nofun rfl) (accounts_plain hf.accounts nofun rfl rfl) rfl
  | degradation reason =>
    exact hf.degrade hfinished .refl hf.retains (.inr (hf.located.plain nofun rfl)) rfl hrun
  | malformedTool =>
    have hread : (if r.disabled then pure [] else Reducer.degrade .missingField : Reducing δ _).run r
      = (records, r') := hrun
    split at hread
    next hdisabled =>
      cases hread
      exact hf.dropped hfinished hdisabled rfl
    next => exact hf.degrade hfinished .refl hf.retains (.inr (hf.located.plain nofun rfl)) rfl hread
  | tool event =>
    have hread : (if r.disabled then pure [] else event.reducing : Reducing δ _).run r = (records, r') := hrun
    split at hread
    next hdisabled =>
      cases hread
      exact hf.dropped hfinished hdisabled rfl
    next henabled =>
      obtain ⟨mid, emission, hmove, hreduced⟩ := move_event hf.retains event
      exact hf.tool hS hfinished (Bool.of_not_eq_true henabled) hasked hmove (hreduced.symm.trans hread)
  | agentStarts =>
    have hread : (if r.disabled then pure [] else if r.turnOpen then Reducer.degrade .invalidTransition else do
      modify fun r => { r with turnOpen := true }
      return [] : Reducing δ _).run r = (records, r') := hrun
    split at hread
    next hdisabled =>
      cases hread
      exact hf.dropped hfinished hdisabled rfl
    split at hread
    next => exact hf.degrade hfinished .refl hf.retains (.inr (hf.located.plain nofun rfl)) rfl hread
    next =>
      cases hread
      have hframe : Frame r { r with turnOpen := true } := ⟨rfl, rfl, rfl, rfl, rfl, rfl⟩
      exact hf.still hfinished hframe
        ⟨hf.retains.bytes, hf.retains.size, hf.retains.pending⟩ (hf.located.plain nofun rfl)
        (accounts_plain hf.accounts nofun rfl rfl) rfl
  | settles =>
    refine hf.bounds hfinished ((clears_clearPending hf.retains).turnOpen false) rfl rfl _ (fun body hmem => ?_) hrun
    split at hmem
    · cases List.mem_singleton.mp hmem
      exact ⟨rfl, rfl⟩
    · cases hmem
  | boundary body =>
    refine hf.bounds hfinished (clears_clearPending hf.retains) rfl rfl [body] (fun other hmem => ?_) hrun
    rw [List.mem_singleton.mp hmem]
    exact hplain body rfl
  | shutdown reason => exact hf.ends hfinished reason hrun

/-- The reducer after the inputs. -/
theorem follows_takes {S : Set Digested} (hS : Set.InjOn (Digesting.digest : Digested → δ) S) (coordinates : Coordinates)
    (inputs : List Input) (hasked : ∀ input ∈ inputs, ∀ d ∈ input.reading.digests, d ∈ S) :
    Follows S (takes (δ := δ) coordinates inputs).2 (takes (δ := δ) coordinates inputs).1
        (history (inputs.map Input.reading))
      ∧ ((takes (δ := δ) coordinates inputs).2.finished = true
        ↔ ∃ reading ∈ inputs.map Input.reading, reading.ends = true) := by
  induction inputs using List.reverseRecOn with
  | nil => exact ⟨follows_create coordinates, nofun, nofun⟩
  | append_singleton inputs input ih =>
    obtain ⟨hf, hends⟩ := ih fun other hmem => hasked other (List.mem_append_left _ hmem)
    rw [takes_concat, List.map_append, List.map_singleton, history_concat]
    by_cases hfinished : (takes (δ := δ) coordinates inputs).2.finished = true
    · have hdone := hends.mp hfinished
      rw [run_takeInput_of_finished hfinished, if_pos hdone, List.append_nil]
      refine ⟨hf, fun _ => ?_, fun _ => hfinished⟩
      obtain ⟨reading, hmem, hreading⟩ := hdone
      exact ⟨reading, List.mem_append_left _ hmem, hreading⟩
    · have hunfinished := Bool.of_not_eq_true hfinished
      have hnone : ¬∃ reading ∈ inputs.map Input.reading, reading.ends = true := fun hex => hfinished (hends.mpr hex)
      rw [run_takeInput hunfinished, if_neg hnone]
      have hreadings : history (inputs.map Input.reading) = inputs.map Input.reading :=
        history_eq_self fun reading hmem => Bool.of_not_eq_true fun hreading => hnone ⟨reading, hmem, hreading⟩
      have hstep := hf.step hS input.reading hunfinished
        (hasked input (List.mem_append_right _ (List.mem_singleton_self _))) (fun body => plain_of_reading) rfl
      refine ⟨hstep, ?_⟩
      rw [← hreadings]
      exact hstep.finished

/-- No event of the call is among the inputs. -/
def Absent (h : List Reading) (callId : JsString) : Prop := ∀ reading ∈ h, reading.isOf callId = false

/-- What the records of a window say of its inputs `h`, up to the end of its session. -/
structure Reduced (h : List Reading) (out : List ReducedRecord) : Prop where
  /-- The records are numbered from 1, without gaps. -/
  ids : out.map ReducedRecord.eventId = List.range' 1 out.length
  length : out.length ≤ 997
  /-- The end of the session is only told last. -/
  last : ∀ before record after, out = before ++ record :: after → record.body.isFinished = true → after = []
  /-- A shutdown of the right form emits it. -/
  shut : ∀ reason, .shutdown reason ∈ h → (bodies out).getLast? = some (.sessionFinished reason)
  paired : Paired (bodies out)
  /-- A call has at most one pair. -/
  nodup : (startedCalls out).Nodup
  agreed : ∀ callId tool, ReducedBody.toolStarted callId tool ∈ bodies out → Agreed h callId tool
  /-- What has no records has left a degradation: only a call that goes on, and one that agrees with its pair in
  every event, have not. -/
  accounts : Degraded out ∨ ((∀ reading ∈ h, reading.degrades = false)
    ∧ ∀ callId, Absent h callId ∨ (∃ tool, Opened h callId tool)
      ∨ ∃ tool, Agreed h callId tool ∧ (∀ reading ∈ h, Matching callId tool reading)
        ∧ ReducedBody.toolStarted callId tool ∈ bodies out)

/-- The calls of the inputs that are read are asked for. -/
theorem absent_or_asked (h : List Reading) (callId : JsString) :
    Absent h callId ∨ ∃ reading ∈ h, Digested.call callId ∈ reading.digests := by
  by_cases habsent : Absent h callId
  · exact .inl habsent
  refine .inr ?_
  unfold Absent at habsent
  push Not at habsent
  obtain ⟨reading, hmem, hof⟩ := habsent
  refine ⟨reading, hmem, ?_⟩
  cases reading with
  | tool event =>
    have hcall : event.callId = callId := of_decide_eq_true (Bool.of_not_eq_false hof)
    subst hcall
    cases event <;> exact List.mem_cons_self
  | _ => exact absurd rfl hof

omit [DecidableEq δ] [Digesting δ] in
theorem Counted.last (hcounted : r.Counted out) {before after : List ReducedRecord} {record : ReducedRecord}
    (heq : out = before ++ record :: after) (hrecord : record.body.isFinished = true) : after = [] := by
  by_cases hfinished : r.finished = true
  · obtain ⟨first, last, hout, -, hfirst⟩ := hcounted.finished hfinished
    rcases List.eq_nil_or_concat after with hnil | ⟨after, other, rfl⟩
    · exact hnil
    have hsplit : first ++ [last] = (before ++ record :: after) ++ [other] := by
      rw [← hout, heq, List.concat_eq_append, List.append_assoc]
      rfl
    have hmem : record ∈ first := by
      rw [(List.append_inj' hsplit rfl).1]
      exact List.mem_append_right _ List.mem_cons_self
    rw [hfirst record hmem] at hrecord
    cases hrecord
  · have hmem : record ∈ out := heq ▸ List.mem_append_right _ List.mem_cons_self
    rw [(hcounted.unfinished (Bool.of_not_eq_true hfinished)).2 record hmem] at hrecord
    cases hrecord

/-- The records of any run are those of its inputs, and the bytes that are retained are those of its calls. -/
theorem reduced_takes (coordinates : Coordinates) (inputs : List Input)
    (hdigests : Set.InjOn (Digesting.digest : Digested → δ) {d | ∃ input ∈ inputs, d ∈ input.reading.digests}) :
    Reduced (history (inputs.map Input.reading)) (takes (δ := δ) coordinates inputs).1
      ∧ (takes (δ := δ) coordinates inputs).2.retainedStateBytes
        = 192 * ((takes (δ := δ) coordinates inputs).2.pending.size
          + (takes (δ := δ) coordinates inputs).2.final.size) := by
  obtain ⟨hf, -⟩ := follows_takes hdigests coordinates inputs fun input hmem d hd => ⟨input, hmem, hd⟩
  have hlength : (takes (δ := δ) coordinates inputs).1.length = (takes (δ := δ) coordinates inputs).2.recordCount := by
    have hids := congrArg List.length hf.counted.ids
    rw [List.length_map, List.length_range'] at hids
    exact hids
  have hcounted := hf.counted
  refine ⟨⟨?_, ?_, fun before record after heq hrecord => ?_, hf.shut, hf.pairs.paired, hf.pairs.nodup,
    fun callId tool hmem => (hf.pairs.agreed callId tool hmem).1, ?_⟩, hf.retains.bytes⟩
  · rw [hlength]
    exact hcounted.ids
  · rw [hlength]
    exact hcounted.counts.recordCount
  · exact hcounted.last heq hrecord
  · rcases hf.accounts with hdegraded | ⟨hreadings, hcalls⟩
    · exact .inl hdegraded
    refine .inr ⟨hreadings, fun callId => ?_⟩
    rcases absent_or_asked (history (inputs.map Input.reading)) callId with habsent | ⟨reading, hmem, hasked⟩
    · exact .inl habsent
    obtain ⟨input, hinput, rfl⟩ := List.mem_map.mp (history_subset _ hmem)
    obtain ⟨hbroken, hmatched⟩ := hcalls callId ⟨input, hinput, hasked⟩
    cases hphase : phase callId (history (inputs.map Input.reading)) with
    | fresh => exact .inl (not_isOf_of_phase hphase)
    | running tool => exact .inr (.inl ⟨tool, opened_of_phase hphase⟩)
    | matched tool =>
      obtain ⟨hagreed, hmatching⟩ := agreed_of_phase hphase
      exact .inr (.inr ⟨tool, hagreed, hmatching, hmatched tool hphase⟩)
    | broken => exact absurd hphase hbroken

end

section

local instance ownDigesting : Digesting Digested := ⟨id⟩

/-- An event of a tool, with one text for its call and its tool. -/
def sameToolEvent (type : String) (isError : Bool) : Input :=
  .event (.record fun key => some (if key = "isError" then .bool isError
    else .text (.ofAscii (if key = "type" then type else "x"))))

/-- A call that succeeds, and then ends again with an error. -/
def endedTwice : List Input :=
  [sameToolEvent "tool_execution_start" false, sameToolEvent "tool_execution_end" false,
    sameToolEvent "tool_execution_end" true]

/-- The coordinates of a window. -/
def window : Coordinates :=
  ⟨⟨.ofAscii "a", by decide, by decide⟩, ⟨⟨List.replicate 64 ⟨48, by decide⟩⟩, by decide⟩⟩

theorem reduced_takes_endedTwice :
    bodies (takes (δ := Digested) window endedTwice).1
      = [.toolStarted (.ofAscii "x") (.ofAscii "x"), .toolFinished (.ofAscii "x"), .coverageDegraded .invalidTransition]
    ∧ Reduced (history (endedTwice.map Input.reading)) (takes (δ := Digested) window endedTwice).1 :=
  ⟨by decide, (reduced_takes window endedTwice fun _ _ _ _ heq => heq).1⟩

end

end Reducer

end SalienceGate.Pi
