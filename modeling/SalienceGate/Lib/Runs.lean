import Mathlib.Data.List.Basic

/-!
# Runs of a transition system

A system is a relation between a state, what happens, and the state after it; `Runs` is the states
that it reaches, with what happened on the way. An invariant of the steps holds along a run, and a
simulation carries a run over to a system of fewer steps: a step with an effect is a step of the
other system, and a step without one leaves it where it is.
-/

variable {σ τ α β : Type*}

/-- The system reaches a state, with what happened in order. -/
inductive Runs (step : σ → α → σ → Prop) (start : σ) : List α → σ → Prop where
  | refl : Runs step start [] start
  | snoc {events : List α} {s t : σ} {event : α} (run : Runs step start events s)
      (last : step s event t) : Runs step start (events ++ [event]) t

namespace Runs

variable {step : σ → α → σ → Prop} {start s t u : σ} {events more : List α} {event : α}

/-- One step is a run. -/
theorem single (h : step s event t) : Runs step s [event] t := .snoc .refl h

/-- A run after a run is a run. -/
theorem trans (h : Runs step s events t) (h' : Runs step t more u) :
    Runs step s (events ++ more) u := by
  induction h' with
  | refl => rwa [List.append_nil]
  | snoc _ hlast ih =>
    rw [← List.append_assoc]
    exact .snoc ih hlast

/-- What is computed step by step is a run. -/
theorem of_foldlM {next : σ → α → Option σ} (h : events.foldlM next s = some t) :
    Runs (fun s event t => next s event = some t) s events t := by
  induction events generalizing s with
  | nil =>
    cases h
    exact .refl
  | cons event events ih =>
    rw [List.foldlM_cons] at h
    obtain ⟨u, hfirst, hrest⟩ := Option.bind_eq_some_iff.mp h
    exact (single hfirst).trans (ih hrest)

/-- A run of steps that are steps of another system is a run of the other. -/
theorem mono {step' : σ → α → σ → Prop} (h : Runs step start events s)
    (hstep : ∀ s event t, step s event t → step' s event t) : Runs step' start events s := by
  induction h with
  | refl => exact .refl
  | snoc _ hlast ih => exact .snoc ih (hstep _ _ _ hlast)

/-- A run of no steps goes nowhere. -/
theorem eq_of_nil (h : Runs step s [] t) : t = s := by
  generalize hnone : [] = none at h
  cases h with
  | refl => rfl
  | snoc _ _ => exact absurd hnone.symm (List.append_ne_nil_of_right_ne_nil _ (List.cons_ne_nil _ _))

/-- A run of one step and more has a first step. -/
theorem cons_inv (h : Runs step s (event :: events) t) : ∃ u, step s event u ∧ Runs step u events t := by
  generalize hall : event :: events = all at h
  induction h generalizing events with
  | refl => cases hall
  | @snoc front t u last hrun hlast ih =>
    cases front with
    | nil =>
      obtain ⟨rfl, rfl⟩ := List.cons.inj hall
      cases hrun.eq_of_nil
      exact ⟨u, hlast, .refl⟩
    | cons first front =>
      obtain ⟨rfl, rfl⟩ := List.cons.inj hall
      obtain ⟨v, hfirst, hrest⟩ := ih rfl
      exact ⟨v, hfirst, .snoc hrest hlast⟩

/-- What every step preserves holds in every state that a run reaches. -/
theorem invariant {I : σ → Prop} (h : Runs step start events s) (hstart : I start)
    (hstep : ∀ s event t, I s → step s event t → I t) : I s := by
  induction h with
  | refl => exact hstart
  | snoc _ hlast ih => exact hstep _ _ _ ih hlast

/-- A reflexive and transitive relation that every step satisfies, in a state with an invariant,
relates the ends of a run. -/
theorem relation {I : σ → Prop} {R : σ → σ → Prop} (h : Runs step start events s)
    (hrefl : ∀ s, R s s) (htrans : ∀ s t u, R s t → R t u → R s u) (hstart : I start)
    (hstep : ∀ s event t, I s → step s event t → I t ∧ R s t) : R start s := by
  have hboth : I s ∧ R start s := by
    induction h with
    | refl => exact ⟨hstart, hrefl _⟩
    | snoc _ hlast ih =>
      obtain ⟨hinvariant, hrelated⟩ := ih
      obtain ⟨hnext, hlater⟩ := hstep _ _ _ hinvariant hlast
      exact ⟨hnext, htrans _ _ _ hrelated hlater⟩
  exact hboth.2

/-- A run of a system that another one simulates is a run of the other, of the effects in order. -/
theorem simulates {step' : τ → β → τ → Prop} {start' : τ} {R : σ → τ → Prop} {effect : α → Option β}
    (h : Runs step start events s) (hstart : R start start')
    (hsilent : ∀ s event t u, R s u → step s event t → effect event = none → R t u)
    (heffect : ∀ s event t u b, R s u → step s event t → effect event = some b →
      ∃ v, step' u b v ∧ R t v) :
    ∃ u, Runs step' start' (events.filterMap effect) u ∧ R s u := by
  induction h with
  | refl => exact ⟨start', .refl, hstart⟩
  | @snoc events s t event _ hlast ih =>
    obtain ⟨u, hrun, hrelated⟩ := ih
    rw [List.filterMap_append]
    cases hevent : effect event with
    | none =>
      have hnone : [event].filterMap effect = [] := by simp [hevent]
      rw [hnone, List.append_nil]
      exact ⟨u, hrun, hsilent _ _ _ _ hrelated hlast hevent⟩
    | some b =>
      have hsome : [event].filterMap effect = [b] := by simp [hevent]
      obtain ⟨v, hstep', hnext⟩ := heffect _ _ _ _ _ hrelated hlast hevent
      rw [hsome]
      exact ⟨v, .snoc hrun hstep', hnext⟩

end Runs
