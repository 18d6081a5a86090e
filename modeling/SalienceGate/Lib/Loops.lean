import Mathlib.Data.Nat.Basic

/-!
# Loops

A `while` loop is a pass over its state, which leaves the loop with a result or goes round again. `loop` runs so many
passes, and a rule for it needs no count of them: a variant that every pass lowers bounds them, and a function of the
state that no pass changes is the result. `Reaches` are the states at the head of the loop.
-/

namespace Loops

variable {σ β : Type*} {pass : σ → β ⊕ σ} {start s t : σ}

/-- At most so many passes of a loop. -/
def loop (pass : σ → β ⊕ σ) : ℕ → σ → Option β
  | 0, _ => none
  | n + 1, s =>
    match pass s with
    | .inl b => some b
    | .inr t => loop pass n t

/-- The states at the head of a loop. -/
inductive Reaches (pass : σ → β ⊕ σ) (start : σ) : σ → Prop
  | start : Reaches pass start start
  | pass {s t : σ} : Reaches pass start s → pass s = .inr t → Reaches pass start t

/-- What holds at first and is kept by every pass holds at the head of the loop. -/
theorem Reaches.invariant {I : σ → Prop} (h : Reaches pass start s) (hstart : I start)
    (hpass : ∀ s t, I s → pass s = .inr t → I t) : I s := by
  induction h with
  | start => exact hstart
  | pass _ hgoes ih => exact hpass _ _ ih hgoes

/-- A loop whose passes lower a variant and keep what it will answer gives that answer. -/
theorem loop_eq_some {I : σ → Prop} {answer : σ → β} (variant : σ → ℕ)
    (hleaves : ∀ s b, I s → pass s = .inl b → answer s = b)
    (hgoes : ∀ s t, I s → pass s = .inr t → I t ∧ variant t < variant s ∧ answer s = answer t)
    {n : ℕ} {s : σ} (hs : I s) (hn : variant s < n) : loop pass n s = some (answer s) := by
  induction n generalizing s with
  | zero => omega
  | succ n ih =>
    unfold loop
    cases hpass : pass s with
    | inl b =>
      dsimp only
      rw [hleaves s b hs hpass]
    | inr t =>
      obtain ⟨ht, hlower, hanswer⟩ := hgoes s t hs hpass
      have hrest : loop pass n t = some (answer t) := ih ht (by omega)
      dsimp only
      rw [hrest, hanswer]

end Loops
