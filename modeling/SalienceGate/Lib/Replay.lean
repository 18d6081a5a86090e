import SalienceGate.Lib.Checked

/-!
# Replaying a log of entries

A state that is rebuilt from a log: `step` accepts an entry and returns the next state, or raises,
and `replay` folds it over the entries. The rules of this module are the only inductions over a
log. `replay_invariant` carries what one accepted step preserves along a whole log,
`replay_relation` does the same for a relation between the first and the last state, and
`replay_invariant_of_steps` for an invariant that needs a condition on each step.
-/

namespace Replay

open Checked

variable {σ ε χ : Type} {step : σ → ε → Except χ σ} {s t u : σ} {e : ε} {es fs : List ε}

/-- The state after the entries of a log, from `s`. -/
def replay (step : σ → ε → Except χ σ) (s : σ) (es : List ε) : Except χ σ := es.foldlM step s

/-- A log that `step` accepts from `init`, with the state it leads to. -/
structure Run (step : σ → ε → Except χ σ) (init : σ) where
  /-- The entries, in order. -/
  entries : List ε
  /-- The state after the last entry. -/
  final : σ
  /-- Every entry is accepted. -/
  accepted : replay step init entries = .ok final

theorem replay_nil : replay step s [] = .ok t ↔ s = t := foldlM_nil_eq_ok

theorem replay_cons :
    replay step s (e :: es) = .ok t ↔ ∃ m, step s e = .ok m ∧ replay step m es = .ok t :=
  foldlM_cons_eq_ok

theorem replay_append :
    replay step s (es ++ fs) = .ok t ↔ ∃ m, replay step s es = .ok m ∧ replay step m fs = .ok t :=
  foldlM_append_eq_ok

/-- What every accepted step preserves holds after every accepted log. -/
theorem replay_invariant {I : σ → Prop} (hstep : ∀ s e t, I s → step s e = .ok t → I t)
    (hs : I s) (h : replay step s es = .ok t) : I t :=
  foldlM_invariant (fun s e t _ => hstep s e t) hs h

/-- A reflexive and transitive relation that every accepted step satisfies, from the states of an
invariant, relates the first state of an accepted log to the last. -/
theorem replay_relation {I : σ → Prop} {R : σ → σ → Prop} (hrefl : ∀ s, R s s)
    (htrans : ∀ s t u, R s t → R t u → R s u)
    (hinv : ∀ s e t, I s → step s e = .ok t → I t)
    (hstep : ∀ s e t, I s → step s e = .ok t → R s t)
    (hs : I s) (h : replay step s es = .ok t) : R s t := by
  induction es generalizing s with
  | nil => exact (replay_nil.mp h) ▸ hrefl s
  | cons e es ih =>
    obtain ⟨m, hm, ht⟩ := replay_cons.mp h
    exact htrans s m t (hstep s e m hs hm) (ih (hinv s e m hs hm) ht)

/-- Every entry of a log meets `C` in the state it is applied to. -/
def StepsMeet (step : σ → ε → Except χ σ) (C : σ → ε → Prop) : σ → List ε → Prop
  | _, [] => True
  | s, e :: es => C s e ∧ ∀ t, step s e = .ok t → StepsMeet step C t es

/-- If a step leads to a `P` exactly from a `P` and by meeting a condition, a log from a `P` leads to
one exactly if all of its steps meet the condition. -/
theorem replay_iff_stepsMeet {I P : σ → Prop} {C : σ → ε → Prop}
    (hinv : ∀ s e t, I s → step s e = .ok t → I t)
    (hstep : ∀ s e t, I s → step s e = .ok t → (P t ↔ P s ∧ C s e))
    (hs : I s) (h : replay step s es = .ok t) : P t ↔ P s ∧ StepsMeet step C s es := by
  induction es generalizing s with
  | nil =>
    obtain rfl := replay_nil.mp h
    simp [StepsMeet]
  | cons e es ih =>
    obtain ⟨m, hm, ht⟩ := replay_cons.mp h
    rw [ih (hinv s e m hs hm) ht, hstep s e m hs hm]
    simp only [StepsMeet, hm, Except.ok.injEq, forall_eq', and_assoc]

end Replay
