import SalienceGate.Lib.Stateful

/-!
# Methods that only read

`Reads` says that a method that returns leaves the state as it was, and `result` is what it returns or raises. The result
of a sequence that begins with such a method is the sequence of the results, so that two states that look the same to
each part have the same results.
-/

namespace Stateful

open Checked

variable {ε σ α β : Type} {s t : σ} {a : α} {e : ε}

/-- A method that returns leaves the state as it was. -/
def Reads (x : EStateM ε σ α) : Prop := ∀ ⦃s a t⦄, x s = .ok a t → t = s

/-- What a method returns or raises. -/
def result (x : EStateM ε σ α) (s : σ) : Except ε α :=
  match x s with
  | .ok a _ => .ok a
  | .error e _ => .error e

/-! ## Rules -/

theorem reads_lift {x : Except ε α} : Reads (liftM x : EStateM ε σ α) := by
  intro s a t h
  exact (lift_eq_ok.mp h).2.symm

/-- A method that begins with a read only reads if it does so with whatever it reads. -/
theorem Reads.get_bind {f : σ → EStateM ε σ β} (h : ∀ s, Reads (f s)) : Reads ((get : EStateM ε σ σ) >>= f) :=
  fun s _ _ hf => h s hf

theorem Reads.bind {x : EStateM ε σ α} {f : α → EStateM ε σ β} (hx : Reads x) (hf : ∀ a, Reads (f a)) :
    Reads (x >>= f) := by
  intro s b t h
  obtain ⟨a, m, hfirst, hsecond⟩ := bind_eq_ok.mp h
  rw [hf a hsecond, hx hfirst]

theorem reads_pure : Reads (pure a : EStateM ε σ α) := by
  intro s b t h
  cases h
  rfl

/-- A loop only reads if its rounds do. -/
theorem reads_mapM {f : α → EStateM ε σ β} (h : ∀ a, Reads (f a)) {xs : List α} : Reads (xs.mapM f) := by
  induction xs with
  | nil =>
    rw [List.mapM_nil]
    exact reads_pure
  | cons x rest ih =>
    rw [List.mapM_cons]
    exact (h x).bind fun _ => ih.bind fun _ => reads_pure

/-! ## Results -/

theorem result_lift {x : Except ε α} : result (liftM x : EStateM ε σ α) s = x := by
  cases x <;> rfl

theorem result_get_bind {f : σ → EStateM ε σ β} : result ((get : EStateM ε σ σ) >>= f) s = result (f s) s := rfl

/-- The result of a method that begins with a pure computation. -/
theorem result_lift_bind {x : Except ε α} {f : α → EStateM ε σ β} :
    result ((liftM x : EStateM ε σ α) >>= f) s = x >>= fun a => result (f a) s := by
  cases x <;> rfl

/-- The result of a method that begins with one that only reads. -/
theorem Reads.result_bind {x : EStateM ε σ α} {f : α → EStateM ε σ β} (h : Reads x) :
    result (x >>= f) s = result x s >>= fun a => result (f a) s := by
  unfold result
  simp only [Bind.bind, EStateM.bind]
  cases hx : x s with
  | ok a t =>
    cases h hx
    rfl
  | error e t => rfl

/-- The result of a loop whose rounds only read is the loop of their results. -/
theorem result_mapM {f : α → EStateM ε σ β} (h : ∀ a, Reads (f a)) {xs : List α} :
    result (xs.mapM f) s = xs.mapM fun a => result (f a) s := by
  induction xs with
  | nil => rfl
  | cons x rest ih =>
    rw [List.mapM_cons, List.mapM_cons, (h x).result_bind]
    refine congrArg _ (funext fun b => ?_)
    rw [(reads_mapM h).result_bind, ih]
    rfl

end Stateful
