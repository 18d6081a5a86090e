import SalienceGate.Lib.Runs

/-!
# Programs that ask questions

A program with asynchronous calls, as the questions that it asks its environment: each is answered by
a value of its own type or by an error, and the program goes on with the answer. Any number of
processes, each with a program of its own, share a state that the answers read and change; a step of
the whole is one question of one process, and a process may be stopped between any two.

`Meets` says what a program ensures in an environment, which interferes between two questions: what
it may ask, and what is true when it ends. Its rules follow the constructions of programs.
-/

/-- A program that asks questions `Q`, with answers `R` or errors `ε`. -/
inductive Program (Q : Type) (R : Q → Type) (ε α : Type) where
  | done (a : α)
  | raise (e : ε)
  | ask (q : Q) (next : Except ε (R q) → Program Q R ε α)

namespace Program

variable {Q : Type} {R : Q → Type} {ε α β : Type}

/-- A program with what follows it, unless it raises. -/
def bind : Program Q R ε α → (α → Program Q R ε β) → Program Q R ε β
  | .done a, f => f a
  | .raise e, _ => .raise e
  | .ask q next, f => .ask q fun reply => (next reply).bind f

instance programMonad : Monad (Program Q R ε) where
  pure := .done
  bind := .bind

/-- Parts of a program that follow each other may be grouped in any way. -/
theorem bind_assoc {δ : Type} (x : Program Q R ε α) (f : α → Program Q R ε β) (g : β → Program Q R ε δ) :
    x >>= f >>= g = x >>= fun a => f a >>= g := by
  induction x with
  | done a => rfl
  | raise e => rfl
  | ask q next ih => exact congrArg (ask q) (funext ih)

/-- A program whose error is a result. -/
def attempt : Program Q R ε α → Program Q R ε (Except ε α)
  | .done a => .done (.ok a)
  | .raise e => .done (.error e)
  | .ask q next => .ask q fun reply => (next reply).attempt

/-- A computation that asks nothing. -/
def lift : Except ε α → Program Q R ε α
  | .ok a => .done a
  | .error e => .raise e

/-- One question. -/
def request (q : Q) : Program Q R ε (R q) := .ask q lift

/-! ## Environments -/

/-- What the environment of a program does: how it answers in a shared state, what else happens to
the state, and which questions may be asked. -/
structure Setting (Q : Type) (R : Q → Type) (ε σ : Type) where
  answers : σ → (q : Q) → Except ε (R q) → σ → Prop
  rely : σ → σ → Prop
  may : σ → Q → Prop := fun _ _ => True
  refl : ∀ s, rely s s
  trans : ∀ s t u, rely s t → rely t u → rely s u

variable {σ : Type} {setting : Setting Q R ε σ}

/-- In the environment, the program asks only what it may, and ends with what is required. -/
def Meets (setting : Setting Q R ε σ) (post : Except ε α → σ → Prop) :
    Program Q R ε α → σ → Prop
  | .done a, s => ∀ t, setting.rely s t → post (.ok a) t
  | .raise e, s => ∀ t, setting.rely s t → post (.error e) t
  | .ask q next, s => ∀ t, setting.rely s t → setting.may t q
      ∧ ∀ reply u, setting.answers t q reply u → (next reply).Meets setting post u

namespace Meets

variable {post post' : Except ε α → σ → Prop} {program : Program Q R ε α} {s t : σ}

/-- What the environment does before a program matters to it as little as what it does later. -/
theorem of_rely (h : program.Meets setting post s) (hrely : setting.rely s t) :
    program.Meets setting post t := by
  cases program with
  | done a => exact fun u hu => h u (setting.trans s t u hrely hu)
  | raise e => exact fun u hu => h u (setting.trans s t u hrely hu)
  | ask q next => exact fun u hu => h u (setting.trans s t u hrely hu)

theorem mono (h : program.Meets setting post s) (hpost : ∀ result t, post result t → post' result t) :
    program.Meets setting post' s := by
  induction program generalizing s with
  | done a => exact fun t ht => hpost _ t (h t ht)
  | raise e => exact fun t ht => hpost _ t (h t ht)
  | ask q next ih =>
    intro t ht
    obtain ⟨hmay, hnext⟩ := h t ht
    exact ⟨hmay, fun reply u hu => ih reply (hnext reply u hu)⟩

/-- A program that ends with a value. -/
theorem done {a : α} (h : ∀ t, setting.rely s t → post (.ok a) t) :
    (Program.done a : Program Q R ε α).Meets setting post s := h

theorem raise {e : ε} (h : ∀ t, setting.rely s t → post (.error e) t) :
    (Program.raise e : Program Q R ε α).Meets setting post s := h

/-- The first part of a program leads to its result, and the second part from there. -/
theorem bind {f : α → Program Q R ε β} {post : Except ε β → σ → Prop}
    (h : program.Meets setting (fun result t => match result with
      | .ok a => (f a).Meets setting post t
      | .error e => post (.error e) t) s) :
    (program >>= f).Meets setting post s := by
  induction program generalizing s with
  | done a => exact h s (setting.refl s)
  | raise e => exact h
  | ask q next ih =>
    intro t ht
    obtain ⟨hmay, hnext⟩ := h t ht
    exact ⟨hmay, fun reply u hu => ih reply (hnext reply u hu)⟩

/-- The first part of a program returns, and leads to the result of the second part from there. -/
theorem bind_returns {f : α → Program Q R ε β} {P : α → σ → Prop} {post : Except ε β → σ → Prop}
    (h : program.Meets setting (fun result t => ∃ a, result = .ok a ∧ P a t) s)
    (hf : ∀ a t, P a t → (f a).Meets setting post t) : (program >>= f).Meets setting post s := by
  refine bind (h.mono fun result t hresult => ?_)
  obtain ⟨a, rfl, ha⟩ := hresult
  exact hf a t ha

/-- An attempt ends with whatever the program ends with. -/
theorem attempt {post : Except ε (Except ε α) → σ → Prop}
    (h : program.Meets setting (fun result t => post (.ok result) t) s) :
    program.attempt.Meets setting post s := by
  induction program generalizing s with
  | done a => exact h
  | raise e => exact h
  | ask q next ih =>
    intro t ht
    obtain ⟨hmay, hnext⟩ := h t ht
    exact ⟨hmay, fun reply u hu => ih reply (hnext reply u hu)⟩

/-- A computation that asks nothing ends with its result. -/
theorem lift {x : Except ε α} (h : ∀ t, setting.rely s t → post x t) :
    (Program.lift x : Program Q R ε α).Meets setting post s := by
  cases x with
  | ok a => exact h
  | error e => exact h

/-- A question that may be asked ends with its answer. -/
theorem request {q : Q} {post : Except ε (R q) → σ → Prop}
    (h : ∀ t, setting.rely s t → setting.may t q ∧ ∀ reply u, setting.answers t q reply u →
      ∀ v, setting.rely u v → post reply v) :
    (Program.request q : Program Q R ε (R q)).Meets setting post s := by
  intro t ht
  obtain ⟨hmay, hreply⟩ := h t ht
  exact ⟨hmay, fun reply u hu => lift (hreply reply u hu)⟩

end Meets

end Program

/-! ## Processes -/

/-- Processes over a shared state, each at its program if it is at one. -/
structure Processes (ι σ Q : Type) (R : Q → Type) (ε α : Type) where
  shared : σ
  programs : ι → Option (Program Q R ε α)

/-- What happens in a step of the processes. -/
inductive ProcessEvent (ι Q : Type) (R : Q → Type) (ε α : Type) where
  | started (i : ι) (program : Program Q R ε α)
  | asked (i : ι) (q : Q) (reply : Except ε (R q))
  | ended (i : ι) (result : Except ε α)
  | stopped (i : ι)
  | interfered

namespace Processes

variable {ι σ Q : Type} [DecidableEq ι] {R : Q → Type} {ε α : Type}

/-- The processes with another program for one of them. -/
def set (s : Processes ι σ Q R ε α) (i : ι) (shared : σ) (program : Option (Program Q R ε α)) :
    Processes ι σ Q R ε α where
  shared
  programs := Function.update s.programs i program

/-- A step: a process starts one of the programs, asks its next question, ends or is stopped, or
something else happens to the state. -/
inductive Step (starts : Program Q R ε α → Prop) (answers : σ → (q : Q) → Except ε (R q) → σ → Prop)
    (others : σ → σ → Prop) :
    Processes ι σ Q R ε α → ProcessEvent ι Q R ε α → Processes ι σ Q R ε α → Prop where
  | started (s : Processes ι σ Q R ε α) (i : ι) (program : Program Q R ε α)
      (idle : s.programs i = none) (h : starts program) :
      Step starts answers others s (.started i program) (s.set i s.shared (some program))
  | asked (s : Processes ι σ Q R ε α) (i : ι) (q : Q) (next : Except ε (R q) → Program Q R ε α)
      (reply : Except ε (R q)) (shared : σ) (at_ : s.programs i = some (.ask q next))
      (h : answers s.shared q reply shared) :
      Step starts answers others s (.asked i q reply) (s.set i shared (some (next reply)))
  | returned (s : Processes ι σ Q R ε α) (i : ι) (a : α) (at_ : s.programs i = some (.done a)) :
      Step starts answers others s (.ended i (.ok a)) (s.set i s.shared none)
  | raised (s : Processes ι σ Q R ε α) (i : ι) (e : ε) (at_ : s.programs i = some (.raise e)) :
      Step starts answers others s (.ended i (.error e)) (s.set i s.shared none)
  | stopped (s : Processes ι σ Q R ε α) (i : ι) :
      Step starts answers others s (.stopped i) (s.set i s.shared none)
  | interfered (s : Processes ι σ Q R ε α) (shared : σ) (h : others s.shared shared) :
      Step starts answers others s .interfered { s with shared }

variable {s : Processes ι σ Q R ε α} {i j : ι} {shared : σ} {program : Option (Program Q R ε α)}

@[simp] theorem set_shared : (s.set i shared program).shared = shared := rfl

@[simp] theorem set_self : (s.set i shared program).programs i = program :=
  Function.update_self ..

theorem set_of_ne (h : j ≠ i) : (s.set i shared program).programs j = s.programs j :=
  Function.update_of_ne h ..

/-! ## Rely and guarantee -/

variable {starts : Program Q R ε α → Prop} {answers : σ → (q : Q) → Except ε (R q) → σ → Prop}
  {others : σ → σ → Prop}

/-- Processes that are all at programs that meet an environment. -/
structure AllMeet (setting : Program.Setting Q R ε σ) (post : Except ε α → σ → Prop) (I : σ → Prop)
    (s : Processes ι σ Q R ε α) : Prop where
  invariant : I s.shared
  programs : ∀ i program, s.programs i = some program → program.Meets setting post s.shared

omit [DecidableEq ι] in
/-- What happens to the shared state leaves the programs where they are, as the environment may. -/
theorem AllMeet.rely {setting : Program.Setting Q R ε σ} {post : Except ε α → σ → Prop} {I : σ → Prop}
    (h : AllMeet setting post I s) (hrely : setting.rely s.shared shared) (hI : I shared) :
    AllMeet setting post I { s with shared } where
  invariant := hI
  programs i program hprogram := (h.programs i program hprogram).of_rely hrely

/-- A process is at another program, which meets the environment. -/
theorem AllMeet.set {setting : Program.Setting Q R ε σ} {post : Except ε α → σ → Prop} {I : σ → Prop}
    (h : AllMeet setting post I s) (i : ι)
    (hprogram : ∀ p, program = some p → p.Meets setting post s.shared) :
    AllMeet setting post I (s.set i s.shared program) where
  invariant := h.invariant
  programs j p hp := by
    by_cases hj : j = i
    · subst hj
      rw [set_self] at hp
      exact hprogram p hp
    · rw [set_of_ne hj] at hp
      exact h.programs j p hp

/-- If every process meets an environment that the others are, it ends as it promised. -/
theorem AllMeet.run {setting : Program.Setting Q R ε σ} {post : Except ε α → σ → Prop} {I : σ → Prop}
    {t : Processes ι σ Q R ε α} {events : List (ProcessEvent ι Q R ε α)}
    (hstart : ∀ program s, starts program → I s → program.Meets setting post s)
    (hanswer : ∀ s q reply t, I s → answers s q reply t →
      setting.answers s q reply t ∧ setting.rely s t ∧ I t)
    (hothers : ∀ s t, I s → others s t → setting.rely s t ∧ I t)
    (h : AllMeet setting post I s) (hrun : Runs (Step starts answers others) s events t) :
    AllMeet setting post I t ∧ ∀ i result, .ended i result ∈ events →
      ∃ u, post result u ∧ setting.rely u t.shared := by
  induction hrun with
  | refl => exact ⟨h, fun _ _ hmem => by cases hmem⟩
  | @snoc events s' t event _ hlast ih =>
    obtain ⟨hmeet, hended⟩ := ih
    -- what ended before is still as promised after a step of the shared state
    have hlater : ∀ v, setting.rely s'.shared v → ∀ i result, .ended i result ∈ events →
        ∃ u, post result u ∧ setting.rely u v := by
      intro v hv i result hmem
      obtain ⟨u, hpost, hu⟩ := hended i result hmem
      exact ⟨u, hpost, setting.trans _ _ _ hu hv⟩
    have hsame := hlater s'.shared (setting.refl _)
    simp only [List.mem_append, List.mem_singleton]
    cases hlast with
    | started i program idle hstarts =>
      refine ⟨hmeet.set i fun p hp => ?_, ?_⟩
      · cases hp
        exact hstart program _ hstarts hmeet.invariant
      · rintro j result (hmem | hmem)
        · exact hsame j result hmem
        · cases hmem
    | asked i q next reply shared' hat hans =>
      obtain ⟨hanswered, hrely, hI⟩ := hanswer _ q reply shared' hmeet.invariant hans
      have hnext : (next reply).Meets setting post shared' :=
        ((hmeet.programs i _ hat) s'.shared (setting.refl _)).2 reply shared' hanswered
      refine ⟨(hmeet.rely hrely hI).set i fun p hp => ?_, ?_⟩
      · cases hp
        exact hnext
      · rintro j result (hmem | hmem)
        · exact hlater shared' hrely j result hmem
        · cases hmem
    | returned i a hat =>
      refine ⟨hmeet.set i (fun p hp => by cases hp), ?_⟩
      rintro j result (hmem | hmem)
      · exact hsame j result hmem
      · cases hmem
        exact ⟨_, hmeet.programs i _ hat s'.shared (setting.refl _), setting.refl _⟩
    | raised i e hat =>
      refine ⟨hmeet.set i (fun p hp => by cases hp), ?_⟩
      rintro j result (hmem | hmem)
      · exact hsame j result hmem
      · cases hmem
        exact ⟨_, hmeet.programs i _ hat s'.shared (setting.refl _), setting.refl _⟩
    | stopped i =>
      refine ⟨hmeet.set i (fun p hp => by cases hp), ?_⟩
      rintro j result (hmem | hmem)
      · exact hsame j result hmem
      · cases hmem
    | interfered shared' hother =>
      obtain ⟨hrely, hI⟩ := hothers _ _ hmeet.invariant hother
      refine ⟨hmeet.rely hrely hI, ?_⟩
      rintro j result (hmem | hmem)
      · exact hlater shared' hrely j result hmem
      · cases hmem

/-! ## Schedules -/

/-- One step of a process that is at a program: its question, answered, or its end. -/
def advance (answer : ι → σ → (q : Q) → Except ε (R q) × σ) (s : Processes ι σ Q R ε α) (i : ι) :
    List (ProcessEvent ι Q R ε α) × Processes ι σ Q R ε α :=
  match s.programs i with
  | none => ([], s)
  | some (.done a) => ([.ended i (.ok a)], s.set i s.shared none)
  | some (.raise e) => ([.ended i (.error e)], s.set i s.shared none)
  | some (.ask q next) =>
    let answered := answer i s.shared q
    ([.asked i q answered.1], s.set i answered.2 (some (next answered.1)))

/-- The steps of the processes in the order of a schedule. -/
def schedule (answer : ι → σ → (q : Q) → Except ε (R q) × σ) (s : Processes ι σ Q R ε α) :
    List ι → List (ProcessEvent ι Q R ε α) × Processes ι σ Q R ε α
  | [] => ([], s)
  | i :: rest =>
    let first := s.advance answer i
    let later := first.2.schedule answer rest
    (first.1 ++ later.1, later.2)

/-- What a process asks next is answered as a condition allows. -/
def allowsNext (answer : ι → σ → (q : Q) → Except ε (R q) × σ)
    (allows : σ → (q : Q) → Except ε (R q) → Bool) (s : Processes ι σ Q R ε α) (i : ι) : Bool :=
  match s.programs i with
  | some (.ask q _) => allows s.shared q (answer i s.shared q).1
  | _ => true

/-- Everything that is asked in a schedule is answered as a condition allows. -/
def allowsAll (answer : ι → σ → (q : Q) → Except ε (R q) × σ)
    (allows : σ → (q : Q) → Except ε (R q) → Bool) (s : Processes ι σ Q R ε α) : List ι → Bool
  | [] => true
  | i :: rest => s.allowsNext answer allows i && (s.advance answer i).2.allowsAll answer allows rest

variable {answer : ι → σ → (q : Q) → Except ε (R q) × σ}
  {allows : σ → (q : Q) → Except ε (R q) → Bool}

theorem runs_advance (h : ∀ i s q, allows s q (answer i s q).1 = true →
      answers s q (answer i s q).1 (answer i s q).2) (s : Processes ι σ Q R ε α) (i : ι)
    (hallows : s.allowsNext answer allows i = true) :
    Runs (Step starts answers others) s (s.advance answer i).1 (s.advance answer i).2 := by
  unfold advance
  unfold allowsNext at hallows
  split
  · exact .refl
  · next a hi => exact .single (.returned s i a hi)
  · next e hi => exact .single (.raised s i e hi)
  · next q next hi =>
    rw [hi] at hallows
    exact .single (.asked s i q next _ _ hi (h i s.shared q hallows))

/-- The steps of a schedule, if everything in it is allowed, are a run of the processes. -/
theorem runs_schedule_of_allows (h : ∀ i s q, allows s q (answer i s q).1 = true →
      answers s q (answer i s q).1 (answer i s q).2) (order : List ι) (s : Processes ι σ Q R ε α)
    (hallows : s.allowsAll answer allows order = true) :
    Runs (Step starts answers others) s (s.schedule answer order).1 (s.schedule answer order).2 := by
  induction order generalizing s with
  | nil => exact .refl
  | cons i rest ih =>
    rw [allowsAll, Bool.and_eq_true] at hallows
    exact (runs_advance h s i hallows.1).trans (ih _ hallows.2)

/-- The steps of a schedule are a run of the processes that are answered so. -/
theorem runs_schedule (h : ∀ i s q, answers s q (answer i s q).1 (answer i s q).2) (order : List ι)
    (s : Processes ι σ Q R ε α) :
    Runs (Step starts answers others) s (s.schedule answer order).1 (s.schedule answer order).2 := by
  have hallows : s.allowsAll answer (fun _ _ _ => true) order = true := by
    induction order generalizing s with
    | nil => rfl
    | cons i rest ih =>
      rw [allowsAll, ih, Bool.and_true]
      unfold allowsNext
      split <;> rfl
  exact runs_schedule_of_allows (fun i s q _ => h i s q) order s hallows

end Processes
