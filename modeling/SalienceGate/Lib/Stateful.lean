import SalienceGate.Lib.Checked

/-!
# Computations with a state that survives an error

An object with methods that raise: `EStateM ε σ`, in which an error keeps what was assigned before
it. A check or a pure computation in `Except ε` is lifted into it, `onCopy` runs a method on a copy
of the object, and `zoom` runs a method of one part of it.

`bind_eq_ok` and its variants invert a method that returned. A method is `Atomic` if an error leaves
the state as it was, and `EndsIn` says what the state satisfies after it, whether it returned or
raised. The rules of both follow the order of the statements.
-/

namespace Stateful

open Checked

variable {ε σ τ α β : Type} {s t : σ} {a : α} {b : β} {e : ε}

/-- A computation that does not use the state. -/
def lift (x : Except ε α) : EStateM ε σ α := fun s =>
  match x with
  | .ok a => .ok a s
  | .error e => .error e s

instance monadLiftExcept : MonadLift (Except ε) (EStateM ε σ) := ⟨lift⟩

/-- A method run on a copy of the object, which is returned with its result. -/
def onCopy (x : EStateM ε σ α) : EStateM ε σ (α × σ) := fun s =>
  match x s with
  | .ok a t => .ok (a, t) s
  | .error e _ => .error e s

/-- A method of the part that `get` reads and `put` replaces. -/
def zoom (get : σ → τ) (put : σ → τ → σ) (x : EStateM ε τ α) : EStateM ε σ α := fun s =>
  match x (get s) with
  | .ok a t => .ok a (put s t)
  | .error e t => .error e (put s t)

/-! ## Results -/

@[simp] theorem pure_run : (pure a : EStateM ε σ α) s = .ok a s := rfl

@[simp] theorem pure_bind_run {f : α → EStateM ε σ β} :
    ((pure a : EStateM ε σ α) >>= f) s = f a s := rfl

@[simp] theorem get_bind {f : σ → EStateM ε σ β} : ((get : EStateM ε σ σ) >>= f) s = f s s := rfl

@[simp] theorem modify_bind {g : σ → σ} {f : Unit → EStateM ε σ β} :
    ((modify g : EStateM ε σ Unit) >>= f) s = f () (g s) := rfl

@[simp] theorem modify_run {g : σ → σ} : (modify g : EStateM ε σ Unit) s = .ok () (g s) := rfl

@[simp] theorem lift_eq_ok {x : Except ε α} :
    (liftM x : EStateM ε σ α) s = .ok a t ↔ x = .ok a ∧ s = t := by
  cases x <;> simp [liftM, monadLift, MonadLift.monadLift, lift]

/-- A sequence returns exactly when both of its parts do. -/
theorem bind_eq_ok {x : EStateM ε σ α} {f : α → EStateM ε σ β} :
    (x >>= f) s = .ok b t ↔ ∃ a m, x s = .ok a m ∧ f a m = .ok b t := by
  simp only [bind, EStateM.bind]
  cases x s <;> simp

/-- A sequence raises what its first part raises, or what the second raises after it. -/
theorem bind_eq_error {x : EStateM ε σ α} {f : α → EStateM ε σ β} :
    (x >>= f) s = .error e t ↔ x s = .error e t ∨ ∃ a m, x s = .ok a m ∧ f a m = .error e t := by
  simp only [bind, EStateM.bind]
  cases x s <;> simp

/-- A method with its result changed returns exactly when it does. -/
theorem map_eq_ok {x : EStateM ε σ α} {f : α → β} :
    (f <$> x) s = .ok b t ↔ ∃ a, x s = .ok a t ∧ f a = b := by
  simp only [Functor.map, EStateM.map]
  cases x s <;> simp [and_comm]

/-- A method with its result changed raises exactly what it raises. -/
theorem map_eq_error {x : EStateM ε σ α} {f : α → β} :
    (f <$> x) s = .error e t ↔ x s = .error e t := by
  simp only [Functor.map, EStateM.map]
  cases x s <;> simp

/-- A pure computation and what follows it return exactly when both do. -/
theorem lift_bind_eq_ok {x : Except ε α} {f : α → EStateM ε σ β} :
    ((liftM x : EStateM ε σ α) >>= f) s = .ok b t ↔ ∃ a, x = .ok a ∧ f a s = .ok b t := by
  simp only [bind_eq_ok, lift_eq_ok]
  exact ⟨fun ⟨a, m, ⟨hx, hm⟩, hf⟩ => ⟨a, hx, hm ▸ hf⟩, fun ⟨a, hx, hf⟩ => ⟨a, s, ⟨hx, rfl⟩, hf⟩⟩

/-- A check and what follows it return exactly when both do. -/
theorem check_bind_eq_ok {x : Except ε Unit} {f : Unit → EStateM ε σ β} :
    ((liftM x : EStateM ε σ Unit) >>= f) s = .ok b t ↔ x = .ok () ∧ f () s = .ok b t :=
  lift_bind_eq_ok.trans ⟨fun ⟨_, hx, hf⟩ => ⟨hx, hf⟩, fun ⟨hx, hf⟩ => ⟨(), hx, hf⟩⟩

/-- The rest of a method runs exactly when the guard before it lets it. -/
@[simp] theorem raiseIf_bind_eq_ok {c : Prop} [Decidable c] {f : Unit → EStateM ε σ β} :
    ((liftM (raiseIf c e) : EStateM ε σ Unit) >>= f) s = .ok b t ↔ ¬c ∧ f () s = .ok b t := by
  rw [check_bind_eq_ok, raiseIf_eq_ok]

@[simp] theorem expect_bind_eq_ok {o : Option α} {f : α → EStateM ε σ β} :
    ((liftM (expect o e) : EStateM ε σ α) >>= f) s = .ok b t
      ↔ ∃ a, o = some a ∧ f a s = .ok b t := by
  simp only [lift_bind_eq_ok, expect_eq_ok]

/-- A pure computation that returns is only its value. -/
theorem lift_bind_of_ok {x : Except ε α} {f : α → EStateM ε σ β} (h : x = .ok a) :
    ((liftM x : EStateM ε σ α) >>= f) s = f a s := by
  rw [h]
  rfl

/-- A method that returns is only its value and the state after it. -/
theorem bind_of_ok {x : EStateM ε σ α} {f : α → EStateM ε σ β} (h : x s = .ok a t) :
    (x >>= f) s = f a t := by
  simp only [bind, EStateM.bind, h]

@[simp] theorem onCopy_eq_ok {x : EStateM ε σ α} {r : α × σ} :
    onCopy x s = .ok r t ↔ x s = .ok r.1 r.2 ∧ s = t := by
  obtain ⟨a, u⟩ := r
  unfold onCopy
  cases x s <;> simp [and_assoc]

/-- The error of a method that raises. -/
def raised (x : EStateM ε σ α) (s : σ) : Option ε :=
  match x s with
  | .ok _ _ => none
  | .error e _ => some e

theorem raised_eq_some {x : EStateM ε σ α} : raised x s = some e ↔ ∃ t, x s = .error e t := by
  unfold raised
  cases x s <;> simp

/-- The result of a method that returns. -/
def returned (x : EStateM ε σ α) (s : σ) : Option α :=
  match x s with
  | .ok a _ => some a
  | .error _ _ => none

theorem returned_eq_some {x : EStateM ε σ α} : returned x s = some a ↔ ∃ t, x s = .ok a t := by
  unfold returned
  cases x s <;> simp

/-! ## Atomic methods -/

/-- An error leaves the state as it was. -/
def Atomic (x : EStateM ε σ α) : Prop := ∀ ⦃s e t⦄, x s = .error e t → t = s

theorem atomic_pure : Atomic (pure a : EStateM ε σ α) := by
  intro s e t h
  cases h

theorem atomic_lift {x : Except ε α} : Atomic (liftM x : EStateM ε σ α) := by
  intro s e t h
  cases x <;> simp_all [liftM, monadLift, MonadLift.monadLift, lift]

theorem atomic_onCopy {x : EStateM ε σ α} : Atomic (onCopy x) := by
  intro s e t h
  unfold onCopy at h
  cases hx : x s <;> rw [hx] at h <;> cases h
  rfl

/-- A method that begins with a pure computation is atomic if the rest is. -/
theorem Atomic.lift_bind {x : Except ε α} {f : α → EStateM ε σ β}
    (h : ∀ a, x = .ok a → Atomic (f a)) : Atomic ((liftM x : EStateM ε σ α) >>= f) := by
  intro s e t herror
  cases x with
  | ok a => exact h a rfl herror
  | error e' =>
    cases herror
    rfl

/-- A method that begins with a read is atomic if it is with whatever it reads. -/
theorem Atomic.get_bind {f : σ → EStateM ε σ β} (h : ∀ s, Atomic (f s)) :
    Atomic ((get : EStateM ε σ σ) >>= f) :=
  fun s _ _ herror => h s herror

/-- A method that begins on a copy is atomic if the rest is. -/
theorem Atomic.onCopy_bind {x : EStateM ε σ α} {f : α × σ → EStateM ε σ β} (h : ∀ r, Atomic (f r)) :
    Atomic (onCopy x >>= f) := by
  intro s e t herror
  rcases bind_eq_error.mp herror with herror | ⟨r, m, hcopy, herror⟩
  · exact atomic_onCopy herror
  · obtain ⟨-, rfl⟩ := onCopy_eq_ok.mp hcopy
    exact h r herror

/-- A method that branches is atomic if its branches are. -/
theorem Atomic.ite {c : Prop} [Decidable c] {x y : EStateM ε σ α} (hx : Atomic x) (hy : Atomic y) :
    Atomic (if c then x else y) := by
  split
  · exact hx
  · exact hy

/-- What an atomic method returns does not matter to its errors. -/
theorem Atomic.map {x : EStateM ε σ α} {f : α → β} (h : Atomic x) : Atomic (f <$> x) := by
  intro s e t herror
  simp only [Functor.map, EStateM.map] at herror
  split at herror
  · cases herror
  · next e' u hx =>
    cases herror
    exact h hx

/-- A method of a part is atomic if it is a method of a whole that is made of its parts. -/
theorem Atomic.zoom {get : σ → τ} {put : σ → τ → σ} {x : EStateM ε τ α} (h : Atomic x)
    (hput : ∀ s, put s (get s) = s) : Atomic (Stateful.zoom get put x) := by
  intro s e t herror
  unfold Stateful.zoom at herror
  cases hx : x (get s) with
  | ok a u => rw [hx] at herror; cases herror
  | error e' u =>
    rw [hx] at herror
    cases herror
    rw [h hx, hput]

/-- A method that ends with an assignment and a result does not raise. -/
theorem atomic_modify_pure {g : σ → σ} :
    Atomic ((modify g : EStateM ε σ Unit) >>= fun _ => pure a) := by
  intro s e t h
  cases h

/-! ## The state after a method -/

/-- The state after a method. -/
def after (x : EStateM ε σ α) (s : σ) : σ :=
  match x s with
  | .ok _ t => t
  | .error _ t => t

/-- The state after a method satisfies `Q`, whether it returned or raised. -/
structure EndsIn (x : EStateM ε σ α) (s : σ) (Q : σ → Prop) : Prop where
  ok : ∀ a t, x s = .ok a t → Q t
  error : ∀ e t, x s = .error e t → Q t

variable {Q : σ → Prop}

theorem EndsIn.after {x : EStateM ε σ α} (h : EndsIn x s Q) : Q (after x s) := by
  unfold Stateful.after
  split
  · next a t ht => exact h.ok a t ht
  · next e t ht => exact h.error e t ht

/-- What a method returns does not matter to the state after it. -/
theorem EndsIn.map {x : EStateM ε σ α} {f : α → β} (h : EndsIn x s Q) :
    EndsIn (f <$> x) s Q := by
  constructor
  · intro b t ht
    simp only [Functor.map, EStateM.map] at ht
    split at ht
    · next a u hx =>
      cases ht
      exact h.ok a _ hx
    · cases ht
  · intro e t ht
    simp only [Functor.map, EStateM.map] at ht
    split at ht
    · cases ht
    · next e' u hx =>
      cases ht
      exact h.error _ _ hx

theorem EndsIn.pure (h : Q s) : EndsIn (Pure.pure a : EStateM ε σ α) s Q where
  ok _ _ ht := by
    cases ht
    exact h
  error _ _ ht := by cases ht

theorem EndsIn.lift {x : Except ε α} (h : Q s) : EndsIn (liftM x : EStateM ε σ α) s Q where
  ok _ _ ht := (lift_eq_ok.mp ht).2 ▸ h
  error _ _ ht := atomic_lift ht ▸ h

/-- An atomic method ends in a `Q` if it starts in one and returns in one. -/
theorem EndsIn.of_atomic {x : EStateM ε σ α} (hx : Atomic x) (hs : Q s)
    (hok : ∀ a t, x s = .ok a t → Q t) : EndsIn x s Q :=
  ⟨hok, fun _ _ h => hx h ▸ hs⟩

/-- The state after a sequence is the one after its second part, or after its first part if that
raises. -/
theorem EndsIn.bind {x : EStateM ε σ α} {f : α → EStateM ε σ β}
    (herror : ∀ e t, x s = .error e t → Q t) (hok : ∀ a t, x s = .ok a t → EndsIn (f a) t Q) :
    EndsIn (x >>= f) s Q := by
  constructor
  · intro b t h
    obtain ⟨a, m, hx, hf⟩ := bind_eq_ok.mp h
    exact (hok a m hx).ok b t hf
  · intro e t h
    simp only [Bind.bind, EStateM.bind] at h
    cases hx : x s with
    | ok a m =>
      rw [hx] at h
      exact (hok a m hx).error e t h
    | error e' m =>
      rw [hx] at h
      cases h
      exact herror e t hx

/-- A pure computation leaves the state to what follows it. -/
theorem EndsIn.lift_bind {x : Except ε α} {f : α → EStateM ε σ β} (hs : Q s)
    (hok : ∀ a, x = .ok a → EndsIn (f a) s Q) :
    EndsIn ((liftM x : EStateM ε σ α) >>= f) s Q :=
  .bind (fun _ _ h => atomic_lift h ▸ hs) fun a t h => by
    obtain ⟨hx, rfl⟩ := lift_eq_ok.mp h
    exact hok a hx

/-- A read leaves the state to what follows it. -/
theorem EndsIn.get_bind {f : σ → EStateM ε σ β} (h : EndsIn (f s) s Q) :
    EndsIn ((get : EStateM ε σ σ) >>= f) s Q := ⟨h.ok, h.error⟩

/-- What the state of a part satisfies after its method, the whole satisfies after `zoom`. -/
theorem EndsIn.zoom {get : σ → τ} {put : σ → τ → σ} {x : EStateM ε τ α} {P : τ → Prop}
    (hx : EndsIn x (get s) P) (hput : ∀ t, P t → Q (put s t)) :
    EndsIn (zoom get put x) s Q := by
  constructor
  · intro a t h
    unfold Stateful.zoom at h
    cases hrun : x (get s) <;> rw [hrun] at h <;> cases h
    exact hput _ (hx.ok _ _ hrun)
  · intro e t h
    unfold Stateful.zoom at h
    cases hrun : x (get s) <;> rw [hrun] at h <;> cases h
    exact hput _ (hx.error _ _ hrun)

/-! ## Loops -/

/-- A reflexive and transitive relation that every round of a loop satisfies relates the state before
the loop to the one after it. -/
theorem mapM_relation {R : σ → σ → Prop} (hrefl : ∀ s, R s s)
    (htrans : ∀ s t u, R s t → R t u → R s u) {f : α → EStateM ε σ β} {xs : List α}
    (hround : ∀ x ∈ xs, ∀ s b t, f x s = .ok b t → R s t) {ys : List β}
    (h : xs.mapM f s = .ok ys t) : R s t := by
  induction xs generalizing s ys with
  | nil =>
    rw [List.mapM_nil] at h
    cases h
    exact hrefl _
  | cons x xs ih =>
    rw [List.mapM_cons] at h
    obtain ⟨y, m, hy, h⟩ := bind_eq_ok.mp h
    obtain ⟨zs, u, hzs, h⟩ := bind_eq_ok.mp h
    cases h
    have hfirst := hround x List.mem_cons_self _ y m hy
    exact htrans _ m t hfirst (ih (fun x hx => hround x (List.mem_cons_of_mem _ hx)) hzs)

/-- A loop whose rounds all return, in a state with an invariant, returns in such a state. -/
theorem exists_forM_eq_ok {I : σ → Prop} {f : α → EStateM ε σ Unit} {xs : List α}
    (hround : ∀ x ∈ xs, ∀ s, I s → ∃ t, f x s = .ok () t ∧ I t) (hs : I s) :
    ∃ t, (forM xs f : EStateM ε σ Unit) s = .ok () t ∧ I t := by
  induction xs generalizing s with
  | nil => exact ⟨s, rfl, hs⟩
  | cons x xs ih =>
    obtain ⟨m, hm, hmid⟩ := hround x List.mem_cons_self s hs
    obtain ⟨t, ht, hend⟩ := ih (fun y hy => hround y (List.mem_cons_of_mem x hy)) hmid
    refine ⟨t, ?_, hend⟩
    rw [List.forM_cons, bind_of_ok hm]
    exact ht

end Stateful
