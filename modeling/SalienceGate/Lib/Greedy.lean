import Mathlib.Data.List.Induction
import Mathlib.Data.List.Infix

/-!
# Greedy splits

A list is split into consecutive groups by a loop that closes the current group when the next item does
not fit into it. Whether a group fits may depend on its index. Where every part of a fitting group fits,
no split has fewer groups than the greedy one (`length_round_le`): at the start of each group the greedy
split is at least as far.
-/

namespace Greedy

variable {α : Type} (fits : ℕ → List α → Prop) [∀ index group, Decidable (fits index group)]

/-- A round of the loop: the groups that are closed and the current one. -/
def round (split : List (List α) × List α) (a : α) : List (List α) × List α :=
  if split.2 ≠ [] ∧ ¬fits split.1.length (split.2 ++ [a]) then (split.1 ++ [split.2], [a])
  else (split.1, split.2 ++ [a])

/-- A group is a single item, or fits. -/
def Admits (index : ℕ) (group : List α) : Prop := group.length = 1 ∨ fits index group

/-- Every group is admitted at its index. -/
def Groups (groups : List (List α)) : Prop :=
  ∀ index group, groups[index]? = some group → group ≠ [] ∧ Admits fits index group

/-- A part of a group that fits does. -/
def Hereditary : Prop :=
  ∀ index (group part : List α), part <:+: group → part ≠ [] → fits index group → fits index part

variable {fits}

omit [∀ index group, Decidable (fits index group)] in
theorem Groups.append {groups : List (List α)} {group : List α} (h : Groups fits groups) (hne : group ≠ [])
    (hadmits : Admits fits groups.length group) : Groups fits (groups ++ [group]) := by
  intro index other hget
  rcases Nat.lt_trichotomy index groups.length with hlt | heq | hgt
  · rw [List.getElem?_append_left hlt] at hget
    exact h index other hget
  · rw [heq, List.getElem?_concat_length] at hget
    cases hget
    rw [heq]
    exact ⟨hne, hadmits⟩
  · have hnone : (groups ++ [group])[index]? = none := by
      rw [List.getElem?_eq_none_iff, List.length_append, List.length_singleton]
      omega
    rw [hnone] at hget
    cases hget

omit [∀ index group, Decidable (fits index group)] in
theorem Groups.of_append {groups others : List (List α)} (h : Groups fits (groups ++ others)) : Groups fits groups := by
  intro index group hget
  obtain ⟨hlt, -⟩ := List.getElem?_eq_some_iff.mp hget
  exact h index group (by rw [List.getElem?_append_left hlt, hget])

/-- What holds of the closed groups and the current one. -/
def Split (fits : ℕ → List α → Prop) (split : List (List α) × List α) : Prop :=
  Groups fits split.1 ∧ (split.2 = [] ∨ Admits fits split.1.length split.2)

theorem split_round {split : List (List α) × List α} (h : Split fits split) (a : α) :
    Split fits (round fits split a) := by
  unfold round
  split
  next hclose =>
    exact ⟨h.1.append hclose.1 (h.2.resolve_left hclose.1), .inr (.inl rfl)⟩
  next hopen =>
    refine ⟨h.1, .inr ?_⟩
    by_cases hnil : split.2 = []
    · left
      rw [hnil]
      rfl
    · exact .inr (not_not.mp fun hfits => hopen ⟨hnil, hfits⟩)

/-- The groups of the greedy split are admitted. -/
theorem split_foldl_round (items : List α) : Split fits (items.foldl (round fits) ([], [])) := by
  have hstart : Split fits (([], []) : List (List α) × List α) := ⟨nofun, .inl rfl⟩
  induction items using List.reverseRecOn with
  | nil => exact hstart
  | append_singleton items a ih =>
    rw [List.foldl_append]
    exact split_round ih a

/-- Within a group of another split: the greedy split has no more closed groups than the other, and if it has as
many, its current group is the end of what the other has of its own. -/
def Ahead (count : ℕ) (part : List α) (split : List (List α) × List α) : Prop :=
  split.1.length ≤ count ∧ (split.1.length = count → split.2 <:+ part)

theorem ahead_round (hereditary : Hereditary fits) {count : ℕ} {part rest : List α} {a : α}
    (hadmits : Admits fits count (part ++ a :: rest)) {split : List (List α) × List α} (h : Ahead count part split) :
    Ahead count (part ++ [a]) (round fits split a) := by
  obtain ⟨hle, hsuffix⟩ := h
  unfold round
  by_cases hlt : split.1.length < count
  · split
    · refine ⟨?_, fun _ => List.suffix_append part [a]⟩
      rw [List.length_append, List.length_singleton]
      omega
    · exact ⟨hle, fun heq => absurd heq (Nat.ne_of_lt hlt)⟩
  have heq : split.1.length = count := by omega
  obtain ⟨before, hpart⟩ := hsuffix heq
  rw [if_neg]
  · refine ⟨hle, fun _ => ⟨before, ?_⟩⟩
    rw [← List.append_assoc, hpart]
  · rintro ⟨hne, hfits⟩
    -- The candidate is a part of the other split's group, which has two items at least.
    have hinfix : split.2 ++ [a] <:+: part ++ a :: rest := by
      refine ⟨before, rest, ?_⟩
      rw [← List.append_assoc before, hpart, List.append_assoc]
      rfl
    refine hfits (heq ▸ hereditary count _ _ hinfix (by simp) (hadmits.resolve_left fun hone => ?_))
    have hlength := hinfix.length_le
    rw [hone, List.length_append, List.length_singleton] at hlength
    have hpos := List.length_pos_iff.mpr hne
    omega

theorem ahead_foldl_round (hereditary : Hereditary fits) {count : ℕ} {split : List (List α) × List α}
    (h : Ahead count [] split) (part rest : List α) (hadmits : Admits fits count (part ++ rest)) :
    Ahead count part (part.foldl (round fits) split) := by
  induction part using List.reverseRecOn generalizing rest with
  | nil => exact h
  | append_singleton part a ih =>
    rw [List.append_assoc] at hadmits
    rw [List.foldl_append]
    exact ahead_round hereditary hadmits (ih (a :: rest) hadmits)

theorem ne_nil_round (split : List (List α) × List α) (a : α) : (round fits split a).2 ≠ [] := by
  unfold round
  split
  · exact List.cons_ne_nil a []
  · exact List.append_ne_nil_of_right_ne_nil _ (List.cons_ne_nil a [])

/-- No split has fewer groups than the greedy one. -/
theorem length_round_le (hereditary : Hereditary fits) {groups : List (List α)} (hgroups : Groups fits groups) :
    (groups.flatten.foldl (round fits) ([], [])).1.length
      + (if (groups.flatten.foldl (round fits) ([], [])).2 = [] then 0 else 1) ≤ groups.length := by
  induction groups using List.reverseRecOn with
  | nil => exact Nat.le_refl 0
  | append_singleton groups group ih =>
    have hbefore := ih hgroups.of_append
    obtain ⟨hne, hadmits⟩ := hgroups groups.length group List.getElem?_concat_length
    rw [List.flatten_append, List.flatten_singleton, List.foldl_append, List.length_append, List.length_singleton]
    generalize groups.flatten.foldl (round fits) ([], []) = split at hbefore
    have hstart : Ahead groups.length [] split := by
      split at hbefore
      next hnil => exact ⟨hbefore, fun _ => by rw [hnil]⟩
      next => exact ⟨by omega, fun heq => by omega⟩
    have hahead := ahead_foldl_round hereditary hstart group [] (by rwa [List.append_nil])
    have hle := hahead.1
    split <;> omega

end Greedy
