import SalienceGate.Lib.Program

/-!
# Calls under a lock

Calls of programs that ask questions of a state under a lock. At most one call holds the lock, and it
may crash between any two of its questions: what it asked up to then has taken effect, and the lock is
free again. What a call asked is observed by a trace, which starts anew with each call.

A contract says what each question of a call needs and what a call ends with (`Contract`). It holds of
all runs if every program meets it alone (`Contract.run`): a proof about one program, from question to
question, is a proof about every order of calls and crashes.
-/

variable {σ γ C Q : Type} {R : Q → Type} {ε α β : Type}

/-! ## Programs alone -/

namespace Program

/-- The environment of a program that is alone with its state: nothing else happens to the state. -/
def alone (answers : σ → (q : Q) → Except ε (R q) → σ → Prop) (observe : γ → (q : Q) → Except ε (R q) → γ)
    (may : σ → γ → Q → Prop) : Setting Q R ε (σ × γ) where
  answers s q reply t := answers s.1 q reply t.1 ∧ t.2 = observe s.2 q reply
  rely s t := t = s
  may s q := may s.1 s.2 q
  refl _ := rfl
  trans _ _ _ h h' := h'.trans h

variable {answers : σ → (q : Q) → Except ε (R q) → σ → Prop}
  {observe : γ → (q : Q) → Except ε (R q) → γ} {may : σ → γ → Q → Prop}
  {post : Except ε α → σ × γ → Prop} {s : σ × γ}

theorem meets_done {a : α} : (done a : Program Q R ε α).Meets (alone answers observe may) post s
    ↔ post (.ok a) s :=
  ⟨fun h => h s rfl, fun h _ heq => heq ▸ h⟩

theorem meets_raise {e : ε} : (raise e : Program Q R ε α).Meets (alone answers observe may) post s
    ↔ post (.error e) s :=
  ⟨fun h => h s rfl, fun h _ heq => heq ▸ h⟩

theorem meets_ask {q : Q} {next : Except ε (R q) → Program Q R ε α} :
    (ask q next).Meets (alone answers observe may) post s ↔ may s.1 s.2 q ∧
      ∀ reply t, answers s.1 q reply t →
        (next reply).Meets (alone answers observe may) post (t, observe s.2 q reply) := by
  constructor
  · intro h
    obtain ⟨hmay, hnext⟩ := h s rfl
    exact ⟨hmay, fun reply t ht => hnext reply (t, _) ⟨ht, rfl⟩⟩
  · rintro ⟨hmay, hnext⟩ t rfl
    refine ⟨hmay, fun reply u hu => ?_⟩
    obtain ⟨hanswers, hobserved⟩ := hu
    have hu : u = (u.1, observe t.2 q reply) := Prod.ext rfl hobserved
    rw [hu]
    exact hnext reply u.1 hanswers

/-- A computation that asks nothing, and what follows it. -/
theorem meets_lift_bind {x : Except ε β} {f : β → Program Q R ε α} :
    (lift x >>= f).Meets (alone answers observe may) post s
      ↔ (∀ b, x = .ok b → (f b).Meets (alone answers observe may) post s)
        ∧ ∀ e, x = .error e → post (.error e) s := by
  cases x with
  | ok b =>
    refine ⟨fun h => ⟨fun _ heq => ?_, fun _ heq => by cases heq⟩, fun h => h.1 b rfl⟩
    cases heq
    exact h
  | error e =>
    refine ⟨fun h => ⟨fun _ heq => (by cases heq), fun _ heq => ?_⟩, fun h => meets_raise.mpr (h.2 e rfl)⟩
    cases heq
    exact meets_raise.mp h

theorem meets_lift_of_ok {x : Except ε β} {b : β} {f : β → Program Q R ε α} (h : x = .ok b)
    (hf : (f b).Meets (alone answers observe may) post s) :
    (lift x >>= f).Meets (alone answers observe may) post s := by
  rw [h]
  exact hf

/-- How a program that is alone runs to its end: what it is answered, and how it ends. -/
inductive Execution (answers : σ → (q : Q) → Except ε (R q) → σ → Prop) :
    Program Q R ε α → σ → List ((q : Q) × Except ε (R q)) → Except ε α → σ → Prop where
  | done (a : α) (s : σ) : Execution answers (.done a) s [] (.ok a) s
  | raise (e : ε) (s : σ) : Execution answers (.raise e) s [] (.error e) s
  | ask {q : Q} {next : Except ε (R q) → Program Q R ε α} {s t u : σ} {reply : Except ε (R q)}
      {asked : List ((q : Q) × Except ε (R q))} {result : Except ε α} (h : answers s q reply t)
      (rest : Execution answers (next reply) t asked result u) :
      Execution answers (.ask q next) s (⟨q, reply⟩ :: asked) result u

theorem Execution.mono {answers' : σ → (q : Q) → Except ε (R q) → σ → Prop} {program : Program Q R ε α}
    {s t : σ} {asked : List ((q : Q) × Except ε (R q))} {result : Except ε α}
    (h : Execution answers program s asked result t)
    (hanswers : ∀ s q reply t, answers s q reply t → answers' s q reply t) :
    Execution answers' program s asked result t := by
  induction h with
  | done a s => exact .done a s
  | raise e s => exact .raise e s
  | ask h _ ih => exact .ask (hanswers _ _ _ _ h) ih

/-- The execution of a program in an environment that answers every question. -/
def evaluate (answer : σ → (q : Q) → Except ε (R q) × σ) :
    Program Q R ε α → σ → List ((q : Q) × Except ε (R q)) × Except ε α × σ
  | .done a, s => ([], .ok a, s)
  | .raise e, s => ([], .error e, s)
  | .ask q next, s =>
    let reply := answer s q
    let rest := (next reply.1).evaluate answer reply.2
    (⟨q, reply.1⟩ :: rest.1, rest.2)

/-- It is an execution if the answers are right in the states that are reached. -/
theorem execution_evaluate {I : σ → Prop} {answer : σ → (q : Q) → Except ε (R q) × σ}
    (hanswer : ∀ s q, I s → answers s q (answer s q).1 (answer s q).2 ∧ I (answer s q).2)
    {program : Program Q R ε α} {s : σ} (hs : I s) :
    Execution answers program s (program.evaluate answer s).1 (program.evaluate answer s).2.1
      (program.evaluate answer s).2.2 := by
  induction program generalizing s with
  | done a => exact .done a s
  | raise e => exact .raise e s
  | ask q next ih =>
    obtain ⟨hreply, hkept⟩ := hanswer s q hs
    exact .ask hreply (ih _ hkept)

/-- A program alone ends as it promised. -/
theorem Meets.execution {program : Program Q R ε α} {s t : σ} {g : γ} {result : Except ε α}
    {asked : List ((q : Q) × Except ε (R q))}
    (h : program.Meets (alone answers observe may) post (s, g))
    (hrun : Execution answers program s asked result t) :
    post result (t, asked.foldl (fun g answer => observe g answer.1 answer.2) g) := by
  induction hrun generalizing g with
  | done a s => exact meets_done.mp h
  | raise e s => exact meets_raise.mp h
  | ask hanswers _ ih => exact ih ((meets_ask.mp h).2 _ _ hanswers)

end Program

/-! ## Runs of calls -/

/-- The state under the lock, and the call that holds it, at its program. -/
structure Locked (σ C Q : Type) (R : Q → Type) (ε α : Type) where
  shared : σ
  holder : Option (C × Program Q R ε α)

/-- What happens in a step of a call. -/
inductive LockedEvent (C Q : Type) (R : Q → Type) (ε α : Type) where
  | began (call : C)
  | asked (call : C) (q : Q) (reply : Except ε (R q))
  | ended (call : C) (result : Except ε α)
  | crashed (call : C)

namespace Locked

/-- A step: a call takes the lock, asks its next question, ends, or crashes in a state in which that is
possible. -/
inductive Step (program : C → Program Q R ε α) (answers : σ → (q : Q) → Except ε (R q) → σ → Prop)
    (crashes : σ → Prop) :
    Locked σ C Q R ε α → LockedEvent C Q R ε α → Locked σ C Q R ε α → Prop where
  | began (s : σ) (call : C) :
      Step program answers crashes ⟨s, none⟩ (.began call) ⟨s, some (call, program call)⟩
  | asked (s : σ) (call : C) (q : Q) (next : Except ε (R q) → Program Q R ε α)
      (reply : Except ε (R q)) (t : σ) (h : answers s q reply t) :
      Step program answers crashes ⟨s, some (call, .ask q next)⟩ (.asked call q reply)
        ⟨t, some (call, next reply)⟩
  | returned (s : σ) (call : C) (a : α) :
      Step program answers crashes ⟨s, some (call, .done a)⟩ (.ended call (.ok a)) ⟨s, none⟩
  | raised (s : σ) (call : C) (e : ε) :
      Step program answers crashes ⟨s, some (call, .raise e)⟩ (.ended call (.error e)) ⟨s, none⟩
  | crashed (s : σ) (call : C) (at_ : Program Q R ε α) (h : crashes s) :
      Step program answers crashes ⟨s, some (call, at_)⟩ (.crashed call) ⟨s, none⟩

/-- The trace of the call that holds the lock. -/
def trace (observe : γ → (q : Q) → Except ε (R q) → γ) (start : C → γ) (g : γ) :
    List (LockedEvent C Q R ε α) → γ :=
  List.foldl (fun g event => match event with
    | .began call => start call
    | .asked _ q reply => observe g q reply
    | .ended .. | .crashed _ => g) g

variable {program : C → Program Q R ε α} {answers : σ → (q : Q) → Except ε (R q) → σ → Prop}
  {crashes : σ → Prop} {observe : γ → (q : Q) → Except ε (R q) → γ} {start : C → γ}

theorem trace_snoc {g₀ : γ} {events : List (LockedEvent C Q R ε α)} {event : LockedEvent C Q R ε α} :
    trace observe start g₀ (events ++ [event]) = match event with
      | .began call => start call
      | .asked _ q reply => observe (trace observe start g₀ events) q reply
      | .ended .. | .crashed _ => trace observe start g₀ events := by
  unfold trace
  rw [List.foldl_append]
  rfl

theorem Step.mono {answers' : σ → (q : Q) → Except ε (R q) → σ → Prop} {crashes' : σ → Prop}
    {s t : Locked σ C Q R ε α} {event : LockedEvent C Q R ε α} (h : Step program answers crashes s event t)
    (hanswers : ∀ s q reply t, answers s q reply t → answers' s q reply t)
    (hcrashes : ∀ s, crashes s → crashes' s) : Step program answers' crashes' s event t := by
  cases h with
  | began s call => exact .began s call
  | asked s call q next reply t h => exact .asked s call q next reply t (hanswers s q reply t h)
  | returned s call a => exact .returned s call a
  | raised s call e => exact .raised s call e
  | crashed s call at_ h => exact .crashed s call at_ (hcrashes s h)

/-- A trace that remembers the call is of the call that holds the lock. -/
theorem trace_of_holder {p : γ → C} (hstart : ∀ call, p (start call) = call)
    (hobserve : ∀ g q reply, p (observe g q reply) = p g) {g₀ : γ} {s₀ : σ} {s : Locked σ C Q R ε α}
    {events : List (LockedEvent C Q R ε α)}
    (hrun : Runs (Step program answers crashes) ⟨s₀, none⟩ events s) {call : C} {at_ : Program Q R ε α}
    (h : s.holder = some (call, at_)) : p (trace observe start g₀ events) = call := by
  induction hrun generalizing at_ with
  | refl => cases h
  | snoc _ hlast ih =>
    rw [trace_snoc]
    cases hlast with
    | began s call =>
      cases h
      exact hstart call
    | asked s call q next reply t hanswers =>
      cases h
      rw [hobserve]
      exact ih rfl
    | returned | raised | crashed => cases h

/-- A call that is answered until it ends runs alone. -/
theorem execution_of_runs {asked : List ((q : Q) × Except ε (R q))} {s : σ} {call : C}
    {at_ : Program Q R ε α} {result : Except ε α} {t : Locked σ C Q R ε α}
    (h : Runs (Step program answers crashes) ⟨s, some (call, at_)⟩
      (asked.map (fun answer => .asked call answer.1 answer.2) ++ [.ended call result]) t) :
    t.holder = none ∧ Program.Execution answers at_ s asked result t.shared := by
  induction asked generalizing s at_ with
  | nil =>
    obtain ⟨u, hlast, hrest⟩ := h.cons_inv
    cases hrest.eq_of_nil
    cases hlast with
    | returned s call a => exact ⟨rfl, .done a s⟩
    | raised s call e => exact ⟨rfl, .raise e s⟩
  | cons answer rest ih =>
    obtain ⟨u, hfirst, hrest⟩ := h.cons_inv
    cases hfirst with
    | asked s call q next reply t hanswers =>
      obtain ⟨hfree, hexecution⟩ := ih hrest
      exact ⟨hfree, .ask hanswers hexecution⟩

/-- What the questions of a call need, what a call ends with, and what is true whenever the lock is
free. -/
structure Contract (program : C → Program Q R ε α) (answers : σ → (q : Q) → Except ε (R q) → σ → Prop)
    (crashes : σ → Prop) (observe : γ → (q : Q) → Except ε (R q) → γ) (start : C → γ)
    (may : σ → γ → Q → Prop) (post : C → Except ε α → σ × γ → Prop) (free : σ → Prop) : Prop where
  /-- Every program meets it alone. -/
  begins : ∀ call s, free s → (program call).Meets (Program.alone answers observe may) (post call)
    (s, start call)
  ends : ∀ call result s g, post call result (s, g) → free s
  /-- A crash before a question leaves the state as it should be when the lock is free. -/
  stops : ∀ s g q, may s g q → crashes s → free s

/-- A state of a run under a contract: the call that holds the lock meets the rest of it. -/
def Meets (answers : σ → (q : Q) → Except ε (R q) → σ → Prop) (observe : γ → (q : Q) → Except ε (R q) → γ)
    (may : σ → γ → Q → Prop) (post : C → Except ε α → σ × γ → Prop) (free : σ → Prop)
    (s : Locked σ C Q R ε α) (g : γ) : Prop :=
  match s.holder with
  | none => free s.shared
  | some (call, at_) => at_.Meets (Program.alone answers observe may) (post call) (s.shared, g)

variable {may : σ → γ → Q → Prop} {post : C → Except ε α → σ × γ → Prop} {free : σ → Prop}
  {s : Locked σ C Q R ε α} {s₀ : σ} {events : List (LockedEvent C Q R ε α)}

theorem meets_some {s : σ} {call : C} {at_ : Program Q R ε α} {g : γ} :
    Meets answers observe may post free ⟨s, some (call, at_)⟩ g
      ↔ at_.Meets (Program.alone answers observe may) (post call) (s, g) := Iff.rfl

/-- A contract that every program meets alone holds in every run. -/
theorem Contract.run (g₀ : γ) (contract : Contract program answers crashes observe start may post free)
    (hfree : free s₀) (hrun : Runs (Step program answers crashes) ⟨s₀, none⟩ events s) :
    Meets answers observe may post free s (trace observe start g₀ events) := by
  induction hrun with
  | refl => exact hfree
  | @snoc events t u event _ hlast ih =>
    rw [trace_snoc]
    cases hlast with
    | began s call => exact contract.begins call s ih
    | asked s call q next reply t h => exact (Program.meets_ask.mp (meets_some.mp ih)).2 reply t h
    | returned s call a => exact contract.ends call _ s _ (Program.meets_done.mp (meets_some.mp ih))
    | raised s call e => exact contract.ends call _ s _ (Program.meets_raise.mp (meets_some.mp ih))
    | crashed s call at_ h =>
      rw [meets_some] at ih
      cases at_ with
      | done a => exact contract.ends call _ s _ (Program.meets_done.mp ih)
      | raise e => exact contract.ends call _ s _ (Program.meets_raise.mp ih)
      | ask q next => exact contract.stops s _ q (Program.meets_ask.mp ih).1 h

/-- What a call asks is as the contract needs. -/
theorem Contract.asks (g₀ : γ) (contract : Contract program answers crashes observe start may post free)
    (hfree : free s₀) (hrun : Runs (Step program answers crashes) ⟨s₀, none⟩ events s) {call : C} {q : Q}
    {reply : Except ε (R q)} {t : Locked σ C Q R ε α}
    (h : Step program answers crashes s (.asked call q reply) t) :
    may s.shared (trace observe start g₀ events) q := by
  have hmeets := contract.run g₀ hfree hrun
  cases h with
  | asked s call q next reply t h => exact (Program.meets_ask.mp (meets_some.mp hmeets)).1

/-- What the questions need of a state, and the ends of calls leave, holds in every state of a run. -/
theorem Contract.always (g₀ : γ) (contract : Contract program answers crashes observe start may post free)
    (hfree : free s₀) (hrun : Runs (Step program answers crashes) ⟨s₀, none⟩ events s) {I : σ → Prop}
    (hasks : ∀ s g q, may s g q → I s) (hends : ∀ call result s g, post call result (s, g) → I s)
    (hfrees : ∀ s, free s → I s) : I s.shared := by
  have hmeets := contract.run g₀ hfree hrun
  obtain ⟨shared, holder⟩ := s
  match holder with
  | none => exact hfrees shared hmeets
  | some (call, .done a) => exact hends call _ shared _ (Program.meets_done.mp (meets_some.mp hmeets))
  | some (call, .raise e) => exact hends call _ shared _ (Program.meets_raise.mp (meets_some.mp hmeets))
  | some (call, .ask q next) => exact hasks shared _ q (Program.meets_ask.mp (meets_some.mp hmeets)).1

/-- What a call ends with is as the contract says. -/
theorem Contract.left (g₀ : γ) (contract : Contract program answers crashes observe start may post free)
    (hfree : free s₀) (hrun : Runs (Step program answers crashes) ⟨s₀, none⟩ events s) {call : C}
    {result : Except ε α} {t : Locked σ C Q R ε α} (h : Step program answers crashes s (.ended call result) t) :
    t.holder = none ∧ post call result (t.shared, trace observe start g₀ events) := by
  have hmeets := contract.run g₀ hfree hrun
  cases h with
  | returned s call a => exact ⟨rfl, Program.meets_done.mp (meets_some.mp hmeets)⟩
  | raised s call e => exact ⟨rfl, Program.meets_raise.mp (meets_some.mp hmeets)⟩

/-- So it is of every call that ended in a run. -/
theorem Contract.ended (g₀ : γ) (contract : Contract program answers crashes observe start may post free)
    (hfree : free s₀) (hrun : Runs (Step program answers crashes) ⟨s₀, none⟩ events s) {call : C}
    {result : Except ε α} (h : .ended call result ∈ events) : ∃ t, post call result t := by
  induction hrun with
  | refl => cases h
  | @snoc events t u event hprefix hlast ih =>
    rcases List.mem_append.mp h with h | h
    · exact ih h
    · rw [← List.mem_singleton.mp h] at hlast
      exact ⟨_, (contract.left g₀ hfree hprefix hlast).2⟩

end Locked

/-! ## Schedules -/

/-- Whose turn is next: that of a call to take the lock, of the call that holds it, or of its crash. -/
inductive LockedTurn (C : Type) where
  | call (call : C)
  | next
  | crash

namespace Locked

/-- The step of a turn in an environment that answers every question, if it is allowed. -/
def advance (program : C → Program Q R ε α) (answer : σ → (q : Q) → Except ε (R q) × σ)
    (allows : σ → Q → Bool) (stops : σ → Bool) (s : Locked σ C Q R ε α) :
    LockedTurn C → Option (LockedEvent C Q R ε α × Locked σ C Q R ε α)
  | .call call => match s.holder with
    | none => some (.began call, ⟨s.shared, some (call, program call)⟩)
    | some _ => none
  | .next => match s.holder with
    | none => none
    | some (call, .done a) => some (.ended call (.ok a), ⟨s.shared, none⟩)
    | some (call, .raise e) => some (.ended call (.error e), ⟨s.shared, none⟩)
    | some (call, .ask q next) =>
      let reply := answer s.shared q
      if allows s.shared q then some (.asked call q reply.1, ⟨reply.2, some (call, next reply.1)⟩) else none
  | .crash => match s.holder with
    | none => none
    | some (call, _) => if stops s.shared then some (.crashed call, ⟨s.shared, none⟩) else none

/-- The steps of the turns of a schedule. -/
def schedule (program : C → Program Q R ε α) (answer : σ → (q : Q) → Except ε (R q) × σ)
    (allows : σ → Q → Bool) (stops : σ → Bool) (s : Locked σ C Q R ε α) :
    List (LockedTurn C) → Option (List (LockedEvent C Q R ε α) × Locked σ C Q R ε α)
  | [] => some ([], s)
  | turn :: rest => do
    let first ← s.advance program answer allows stops turn
    let later ← first.2.schedule program answer allows stops rest
    some (first.1 :: later.1, later.2)

variable {program : C → Program Q R ε α} {answers : σ → (q : Q) → Except ε (R q) → σ → Prop}
  {crashes : σ → Prop} {answer : σ → (q : Q) → Except ε (R q) × σ} {allows : σ → Q → Bool}
  {stops : σ → Bool}

theorem step_advance (hanswer : ∀ s q, allows s q = true → answers s q (answer s q).1 (answer s q).2)
    (hstops : ∀ s, stops s = true → crashes s) {s t : Locked σ C Q R ε α} {turn : LockedTurn C}
    {event : LockedEvent C Q R ε α} (h : s.advance program answer allows stops turn = some (event, t)) :
    Step program answers crashes s event t := by
  obtain ⟨shared, holder⟩ := s
  unfold advance at h
  cases turn with
  | call call =>
    cases holder with
    | none =>
      cases h
      exact .began shared call
    | some _ => cases h
  | next =>
    match holder with
    | none => cases h
    | some (call, .done a) =>
      cases h
      exact .returned shared call a
    | some (call, .raise e) =>
      cases h
      exact .raised shared call e
    | some (call, .ask q next) =>
      dsimp only at h
      split at h
      · next hallowed =>
        cases h
        exact .asked shared call q next _ _ (hanswer shared q hallowed)
      · cases h
  | crash =>
    match holder with
    | none => cases h
    | some (call, at_) =>
      dsimp only at h
      split at h
      · next hstop =>
        cases h
        exact .crashed shared call at_ (hstops shared hstop)
      · cases h

/-- The steps of a schedule are a run. -/
theorem runs_schedule (hanswer : ∀ s q, allows s q = true → answers s q (answer s q).1 (answer s q).2)
    (hstops : ∀ s, stops s = true → crashes s) {turns : List (LockedTurn C)} {s t : Locked σ C Q R ε α}
    {events : List (LockedEvent C Q R ε α)}
    (h : s.schedule program answer allows stops turns = some (events, t)) :
    Runs (Step program answers crashes) s events t := by
  induction turns generalizing s events with
  | nil =>
    cases h
    exact .refl
  | cons turn rest ih =>
    obtain ⟨⟨event, u⟩, hfirst, h⟩ := Option.bind_eq_some_iff.mp h
    obtain ⟨⟨later, v⟩, hlater, h⟩ := Option.bind_eq_some_iff.mp h
    cases h
    exact (Runs.single (step_advance hanswer hstops hfirst)).trans (ih hlater)

end Locked
