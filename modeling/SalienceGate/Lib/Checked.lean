import Mathlib.Logic.Basic
import Mathlib.Data.List.Basic

/-!
# Checked computations

A function that raises on a failed check is a computation in `Except ε`: `raiseIf` is the guard
`if c: raise e`, and `expect` reads an optional value or raises. The lemmas of this module turn
`computation = .ok result` into the facts that the run of the checks establishes, one conjunct for
each check, so that a proof about an accepted input never unfolds the monad.
-/

namespace Checked

variable {α β ε : Type}

/-- The guard `if c: raise e`. -/
def raiseIf (c : Prop) [Decidable c] (e : ε) : Except ε Unit :=
  if c then .error e else .ok ()

/-- The value of an optional, or the error `e` when there is none. -/
def expect (o : Option α) (e : ε) : Except ε α :=
  match o with
  | some a => .ok a
  | none => .error e

/-- The value of the type whose constructor `mk` asks that the check passes, or what the check
raises. -/
def validate (check : α → Except ε Unit) (mk : ∀ a, check a = .ok () → β) (a : α) : Except ε β :=
  match h : check a with
  | .ok () => .ok (mk a h)
  | .error e => .error e

/-- A sequence returns exactly when both of its parts do. -/
theorem bind_eq_ok {x : Except ε α} {f : α → Except ε β} {b : β} :
    (x >>= f) = .ok b ↔ ∃ a, x = .ok a ∧ f a = .ok b := by
  cases x <;> simp [bind, Except.bind]

/-- A check and what follows it pass exactly when both do. -/
theorem check_bind_eq_ok {x : Except ε Unit} {f : Unit → Except ε β} {b : β} :
    (x >>= f) = .ok b ↔ x = .ok () ∧ f () = .ok b := by
  rw [bind_eq_ok]
  exact ⟨fun ⟨_, hx, hf⟩ => ⟨hx, hf⟩, fun ⟨hx, hf⟩ => ⟨(), hx, hf⟩⟩

@[simp] theorem pure_eq_ok {a b : α} : (pure a : Except ε α) = .ok b ↔ a = b := by
  simp [pure, Except.pure]

@[simp] theorem throw_ne_ok {e : ε} {a : α} : (throw e : Except ε α) = .ok a ↔ False := by
  simp [throw, throwThe, MonadExceptOf.throw]

@[simp] theorem raiseIf_eq_ok {c : Prop} [Decidable c] {e : ε} {u : Unit} :
    raiseIf c e = .ok u ↔ ¬c := by
  unfold raiseIf
  split <;> simp_all

/-- The rest of a function runs exactly when the guard before it lets it. -/
@[simp] theorem raiseIf_bind_eq_ok {c : Prop} [Decidable c] {e : ε} {f : Unit → Except ε β}
    {b : β} : (raiseIf c e >>= f) = .ok b ↔ ¬c ∧ f () = .ok b := by
  unfold raiseIf
  split <;> simp_all [bind, Except.bind]

/-- Two sequences with one first part are equal if they agree on what it returns. -/
theorem bind_congr_ok {x : Except ε α} {f g : α → Except ε β} (h : ∀ a, x = .ok a → f a = g a) :
    (x >>= f) = (x >>= g) := by
  cases x with
  | error e => rfl
  | ok a => exact h a rfl

@[simp] theorem mapError_eq_ok {ε' : Type} {g : ε → ε'} {x : Except ε α} {a : α} :
    x.mapError g = .ok a ↔ x = .ok a := by
  cases x <;> simp [Except.mapError]

/-- A guard whose condition fails does nothing. -/
theorem raiseIf_bind_of_not {c : Prop} [Decidable c] {e : ε} {f : Unit → Except ε β} (h : ¬c) :
    (raiseIf c e >>= f) = f () := by
  simp [raiseIf, h, bind, Except.bind]

@[simp] theorem expect_eq_ok {o : Option α} {e : ε} {a : α} :
    expect o e = .ok a ↔ o = some a := by
  cases o <;> simp [expect]

@[simp] theorem expect_bind_eq_ok {o : Option α} {e : ε} {f : α → Except ε β} {b : β} :
    (expect o e >>= f) = .ok b ↔ ∃ a, o = some a ∧ f a = .ok b := by
  cases o <;> simp [expect, bind, Except.bind]

/-! ## Errors -/

/-- A sequence raises what its first part raises, or what the second raises after it. -/
theorem bind_eq_error {x : Except ε α} {f : α → Except ε β} {e : ε} :
    (x >>= f) = .error e ↔ x = .error e ∨ ∃ a, x = .ok a ∧ f a = .error e := by
  cases x <;> simp [bind, Except.bind]

@[simp] theorem pure_ne_error {a : α} {e : ε} : (pure a : Except ε α) = .error e ↔ False := by
  simp [pure, Except.pure]

@[simp] theorem raiseIf_eq_error {c : Prop} [Decidable c] {e e' : ε} :
    raiseIf c e = .error e' ↔ c ∧ e = e' := by
  unfold raiseIf
  split <;> simp_all

@[simp] theorem expect_eq_error {o : Option α} {e e' : ε} :
    expect o e = .error e' ↔ o = none ∧ e = e' := by
  cases o <;> simp [expect]

/-! ## Validated values -/

theorem validate_eq_ok {check : α → Except ε Unit} {mk : ∀ a, check a = .ok () → β} {a : α}
    {b : β} : validate check mk a = .ok b ↔ ∃ h, mk a h = b := by
  unfold validate
  split <;> simp_all

theorem validate_self {check : α → Except ε Unit} {mk : ∀ a, check a = .ok () → β} {a : α}
    (h : check a = .ok ()) : validate check mk a = .ok (mk a h) :=
  validate_eq_ok.mpr ⟨h, rfl⟩

/-- A value is built exactly when the check passes. -/
theorem exists_validate_eq_ok {check : α → Except ε Unit} {mk : ∀ a, check a = .ok () → β}
    {a : α} : (∃ b, validate check mk a = .ok b) ↔ check a = .ok () := by
  simp only [validate_eq_ok]
  exact ⟨fun ⟨_, h, _⟩ => h, fun h => ⟨_, h, rfl⟩⟩

/-! ## Loops -/

/-- A loop that only checks passes exactly when it passes at every element. -/
theorem forM_eq_ok {f : α → Except ε Unit} {xs : List α} :
    forM xs f = .ok () ↔ ∀ x ∈ xs, f x = .ok () := by
  induction xs with
  | nil => simp
  | cons x xs ih =>
    rw [List.forM_cons, bind_eq_ok]
    constructor
    · rintro ⟨⟨⟩, hx, hxs⟩
      exact List.forall_mem_cons.mpr ⟨hx, ih.mp hxs⟩
    · intro h
      obtain ⟨hx, hxs⟩ := List.forall_mem_cons.mp h
      exact ⟨(), hx, ih.mpr hxs⟩

/-- A loop with an accumulator, one round at a time. -/
theorem foldlM_cons_eq_ok {f : β → α → Except ε β} {x : α} {xs : List α} {s t : β} :
    (x :: xs).foldlM f s = .ok t ↔ ∃ m, f s x = .ok m ∧ xs.foldlM f m = .ok t := by
  rw [List.foldlM_cons, bind_eq_ok]

@[simp] theorem foldlM_nil_eq_ok {f : β → α → Except ε β} {s t : β} :
    ([] : List α).foldlM f s = .ok t ↔ s = t := by
  rw [List.foldlM_nil, pure_eq_ok]

/-- Two loops, one after the other, are one loop over both lists. -/
theorem foldlM_append_eq_ok {f : β → α → Except ε β} {xs ys : List α} {s t : β} :
    (xs ++ ys).foldlM f s = .ok t ↔ ∃ m, xs.foldlM f s = .ok m ∧ ys.foldlM f m = .ok t := by
  rw [List.foldlM_append, bind_eq_ok]

/-- A loop that builds a list returns exactly the results of its rounds. -/
theorem mapM_eq_ok {f : α → Except ε β} {xs : List α} {ys : List β} :
    xs.mapM f = .ok ys ↔ List.Forall₂ (fun x y => f x = .ok y) xs ys := by
  induction xs generalizing ys with
  | nil =>
    rw [List.mapM_nil, pure_eq_ok]
    exact ⟨fun h => h ▸ .nil, fun h => by cases h; rfl⟩
  | cons x xs ih =>
    simp only [List.mapM_cons, bind_eq_ok, pure_eq_ok, ih]
    constructor
    · rintro ⟨y, hy, zs, hzs, rfl⟩
      exact .cons hy hzs
    · rintro (_ | ⟨hy, hzs⟩)
      exact ⟨_, hy, _, hzs, rfl⟩

/-- The results of a loop that builds a list are those of its rounds. -/
theorem mem_of_mapM_eq_ok {f : α → Except ε β} {xs : List α} {ys : List β}
    (h : xs.mapM f = .ok ys) {y : β} : y ∈ ys ↔ ∃ x ∈ xs, f x = .ok y := by
  induction mapM_eq_ok.mp h with
  | nil => simp
  | cons hxy hrest ih =>
    rw [List.mem_cons, ih (mapM_eq_ok.mpr hrest), List.exists_mem_cons_iff, hxy,
      Except.ok.injEq, eq_comm]

/-- A round of a loop that returned has a result, which is in the list. -/
theorem exists_of_mapM_eq_ok {f : α → Except ε β} {xs : List α} {ys : List β}
    (h : xs.mapM f = .ok ys) {x : α} (hx : x ∈ xs) : ∃ y ∈ ys, f x = .ok y := by
  induction mapM_eq_ok.mp h with
  | nil => simp at hx
  | cons hxy hrest ih =>
    rcases List.mem_cons.mp hx with rfl | hx
    · exact ⟨_, List.mem_cons_self, hxy⟩
    · obtain ⟨y, hy, hfy⟩ := ih (mapM_eq_ok.mpr hrest) hx
      exact ⟨y, List.mem_cons_of_mem _ hy, hfy⟩

/-- A list built from optional values is there exactly if all of them are. -/
theorem mapM_eq_some {f : α → Option β} {xs : List α} {ys : List β} :
    xs.mapM f = some ys ↔ xs.map f = ys.map some := by
  induction xs generalizing ys with
  | nil => cases ys <;> simp
  | cons x xs ih =>
    cases hx : f x with
    | none => cases ys <;> simp [hx]
    | some y =>
      cases ys with
      | nil => simp [hx, Option.bind_eq_some_iff]
      | cons z zs => simp [hx, ← ih, Option.bind_eq_some_iff, and_comm]

/-- A loop whose rounds all return builds a list. -/
theorem exists_mapM_eq_ok {f : α → Except ε β} {xs : List α}
    (h : ∀ x ∈ xs, ∃ y, f x = .ok y) : ∃ ys, xs.mapM f = .ok ys := by
  induction xs with
  | nil => exact ⟨[], rfl⟩
  | cons x xs ih =>
    obtain ⟨y, hy⟩ := h x List.mem_cons_self
    obtain ⟨ys, hys⟩ := ih fun x hx => h x (List.mem_cons_of_mem _ hx)
    exact ⟨y :: ys, mapM_eq_ok.mpr (.cons hy (mapM_eq_ok.mp hys))⟩

/-- A loop that builds a list relates its results to its items, if each round does. -/
theorem exists_mapM_forall₂ {f : α → Except ε β} {R : α → β → Prop} {xs : List α}
    (h : ∀ x ∈ xs, ∃ y, f x = .ok y ∧ R x y) : ∃ ys, xs.mapM f = .ok ys ∧ List.Forall₂ R xs ys := by
  induction xs with
  | nil => exact ⟨[], rfl, .nil⟩
  | cons x xs ih =>
    obtain ⟨y, hy, hR⟩ := h x List.mem_cons_self
    obtain ⟨ys, hys, hall⟩ := ih fun x hx => h x (List.mem_cons_of_mem _ hx)
    exact ⟨y :: ys, mapM_eq_ok.mpr (.cons hy (mapM_eq_ok.mp hys)), .cons hR hall⟩

/-- A loop returns if each round does from what the rounds before it have established. -/
theorem exists_foldlM_eq_ok {f : β → α → Except ε β} {I : ℕ → β → Prop} {xs : List α} {i : ℕ} {s : β}
    (hround : ∀ j s, j < xs.length → I (i + j) s → ∀ x, xs[j]? = some x → ∃ t, f s x = .ok t ∧ I (i + j + 1) t)
    (hs : I i s) : ∃ t, xs.foldlM f s = .ok t ∧ I (i + xs.length) t := by
  induction xs generalizing i s with
  | nil => exact ⟨s, rfl, hs⟩
  | cons x xs ih =>
    obtain ⟨m, hm, hI⟩ := hround 0 s (Nat.zero_lt_succ _) hs x rfl
    have hrest : ∀ j s, j < xs.length → I (i + 1 + j) s → ∀ x, xs[j]? = some x →
        ∃ t, f s x = .ok t ∧ I (i + 1 + j + 1) t := by
      intro j s hj hI x hx
      have hshift : i + 1 + j = i + (j + 1) := by omega
      rw [hshift] at hI ⊢
      exact hround (j + 1) s (Nat.succ_lt_succ hj) hI x hx
    obtain ⟨t, ht, hdone⟩ := ih hrest hI
    refine ⟨t, foldlM_cons_eq_ok.mpr ⟨m, hm, ht⟩, ?_⟩
    have hlength : i + (x :: xs).length = i + 1 + xs.length := by
      rw [List.length_cons]
      omega
    rw [hlength]
    exact hdone

/-- What every round preserves, the loop preserves. -/
theorem foldlM_invariant {f : β → α → Except ε β} {I : β → Prop} {xs : List α}
    (hround : ∀ s x t, x ∈ xs → I s → f s x = .ok t → I t) {s t : β} (hs : I s)
    (h : xs.foldlM f s = .ok t) : I t := by
  induction xs generalizing s with
  | nil => exact (foldlM_nil_eq_ok.mp h) ▸ hs
  | cons x xs ih =>
    obtain ⟨m, hm, ht⟩ := foldlM_cons_eq_ok.mp h
    have hI : I m := hround s x m List.mem_cons_self hs hm
    exact ih (fun s' y t' hy => hround s' y t' (List.mem_cons_of_mem x hy)) hI ht

/-- A loop that another loop follows on a part of its state returns that part of the state. -/
theorem foldlM_project {γ : Type} {f : β → α → Except ε β} {g : γ → α → Except ε γ} {p : β → γ}
    (hround : ∀ s x t, f s x = .ok t → g (p s) x = .ok (p t)) {xs : List α} {s t : β}
    (h : xs.foldlM f s = .ok t) : xs.foldlM g (p s) = .ok (p t) := by
  induction xs generalizing s with
  | nil =>
    rw [foldlM_nil_eq_ok] at h ⊢
    rw [h]
  | cons x xs ih =>
    obtain ⟨m, hm, ht⟩ := foldlM_cons_eq_ok.mp h
    exact foldlM_cons_eq_ok.mpr ⟨p m, hround s x m hm, ih ht⟩

/-! ## Equal views -/

section Views

variable {γ σ τ ρ : Type}

/-- Two computations that are seen the same go on the same, if what follows looks at no more. -/
theorem bind_congr_view {x : Except ε α} {y : Except ε β} {view : α → γ} {view' : β → γ}
    {f : α → Except ε ρ} {g : β → Except ε ρ} (h : x.map view = y.map view')
    (hfg : ∀ a b, view a = view' b → f a = g b) : (x >>= f) = (y >>= g) := by
  cases x with
  | error e =>
    cases y with
    | error e' =>
      cases h
      rfl
    | ok b => cases h
  | ok a =>
    cases y with
    | error e' => cases h
    | ok b => exact hfg a b (Except.ok.inj h)

theorem exists_of_map_eq_ok {x : Except ε α} {view : α → γ} {c : γ} (h : x.map view = .ok c) :
    ∃ a, x = .ok a ∧ view a = c := by
  cases x with
  | error e => cases h
  | ok a => exact ⟨a, rfl, Except.ok.inj h⟩

theorem map_bind_view (view : β → γ) (x : Except ε α) (f : α → Except ε β) :
    (x >>= f).map view = x >>= fun a => (f a).map view := by
  cases x <;> rfl

/-- Two loops that build lists are seen the same if their rounds are. -/
theorem mapM_map_eq {f : α → Except ε σ} {g : β → Except ε τ} {view : σ → γ} {view' : τ → γ} {xs : List α}
    {ys : List β} (h : List.Forall₂ (fun a b => (f a).map view = (g b).map view') xs ys) :
    (xs.mapM f).map (List.map view) = (ys.mapM g).map (List.map view') := by
  induction h with
  | nil => rfl
  | cons hround hrest ih =>
    rw [List.mapM_cons, List.mapM_cons, map_bind_view, map_bind_view]
    refine bind_congr_view hround fun a b hab => ?_
    rw [map_bind_view, map_bind_view]
    refine bind_congr_view ih fun as bs has => ?_
    show Except.ok ((a :: as).map view) = Except.ok ((b :: bs).map view')
    rw [List.map_cons, List.map_cons, hab, has]

/-- Two loops with an accumulator are seen the same if each round keeps it so. -/
theorem foldlM_map_eq {f : σ → α → Except ε σ} {g : τ → β → Except ε τ} {view : σ → γ} {view' : τ → γ}
    {R : α → β → Prop} (hround : ∀ s t a b, view s = view' t → R a b → (f s a).map view = (g t b).map view')
    {xs : List α} {ys : List β} (h : List.Forall₂ R xs ys) {s : σ} {t : τ} (hstart : view s = view' t) :
    (xs.foldlM f s).map view = (ys.foldlM g t).map view' := by
  induction h generalizing s t with
  | nil => exact congrArg Except.ok hstart
  | cons hab hrest ih =>
    rw [List.foldlM_cons, List.foldlM_cons, map_bind_view, map_bind_view]
    exact bind_congr_view (hround _ _ _ _ hstart hab) fun s' t' hview => ih hview

end Views
end Checked
