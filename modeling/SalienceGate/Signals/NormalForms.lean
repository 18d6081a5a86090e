import SalienceGate.Signals.Fingerprints

/-!
# Normal forms of commands

A command of `pytest` without options of other kinds is put into a normal form: its commutative flags
come first, in order, and everything else stays where it is. The form is a permutation of the command, it
is its own form, and commands that differ only in the places of these flags have one form.
-/

namespace SalienceGate

open Grouping

/-! ## Prefixes -/

/-- The prefixes that name `pytest`. -/
def pytestPrefixes : List (List String) :=
  [["py.test"], ["pytest"], ["python", "-m", "pytest"], ["python3", "-m", "pytest"]]

theorem pytestPrefixLength_append {front : List String} (h : front ∈ pytestPrefixes)
    (arguments : List String) : pytestPrefixLength (front ++ arguments) = front.length := by
  simp only [pytestPrefixes, List.mem_cons, List.not_mem_nil, or_false] at h
  rcases h with rfl | rfl | rfl | rfl <;> rfl

theorem exists_pytestPrefix {tokens : List String} (h : pytestPrefixLength tokens ≠ 0) :
    ∃ front ∈ pytestPrefixes, ∃ arguments, tokens = front ++ arguments := by
  unfold pytestPrefixLength at h
  cases tokens with
  | nil => exact absurd rfl h
  | cons executable rest =>
    dsimp only at h
    split at h
    · rename_i hplain
      rcases hplain with rfl | rfl
      · exact ⟨["py.test"], by simp [pytestPrefixes], rest, rfl⟩
      · exact ⟨["pytest"], by simp [pytestPrefixes], rest, rfl⟩
    · split at h
      · rename_i hmodule
        obtain ⟨hpython, htake⟩ := hmodule
        have hrest : rest = ["-m", "pytest"] ++ rest.drop 2 := by
          rw [← htake, List.take_append_drop]
        rcases hpython with rfl | rfl
        · exact ⟨["python", "-m", "pytest"], by simp [pytestPrefixes], rest.drop 2,
            congrArg (List.cons "python") hrest⟩
        · exact ⟨["python3", "-m", "pytest"], by simp [pytestPrefixes], rest.drop 2,
            congrArg (List.cons "python3") hrest⟩
      · exact absurd rfl h

/-- No prefix has a terminator or a commutative flag, and the prefixes differ in their first token. -/
theorem pytestPrefix_facts {front : List String} (h : front ∈ pytestPrefixes) :
    (∀ token ∈ front, notTerminator token = true) ∧ (∀ token ∈ front, token ∉ pytestCommutativeFlags)
      ∧ front ≠ [] ∧ ∀ other ∈ pytestPrefixes, front.head? = other.head? → front = other := by
  revert front
  decide

/-! ## Arguments -/

/-- The arguments before the terminator. -/
def beforeTerminator (arguments : List String) : List String := arguments.takeWhile notTerminator

/-- The terminator and the arguments after it. -/
def afterTerminator (arguments : List String) : List String := arguments.dropWhile notTerminator

/-- The commutative flags among some tokens. -/
def flagsOf (tokens : List String) : List String := tokens.filter (· ∈ pytestCommutativeFlags)

/-- The other tokens among some tokens. -/
def othersOf (tokens : List String) : List String := tokens.filter (· ∉ pytestCommutativeFlags)

/-- The arguments of a normal form. -/
def normalArguments (arguments : List String) : List String :=
  sortBy id (flagsOf (beforeTerminator arguments)) ++ othersOf (beforeTerminator arguments)
    ++ afterTerminator arguments

theorem normalizePytestFlags_append {front : List String} (h : front ∈ pytestPrefixes)
    (arguments : List String) : normalizePytestFlags (front ++ arguments)
      = if (beforeTerminator arguments).any isUnknownOption then front ++ arguments
        else front ++ normalArguments arguments := by
  have hne : front.length ≠ 0 := fun hzero =>
    (pytestPrefix_facts h).2.2.1 (List.length_eq_zero_iff.mp hzero)
  unfold normalizePytestFlags
  rw [pytestPrefixLength_append h]
  dsimp only
  rw [if_neg hne, List.drop_left, List.take_left, List.append_assoc, List.append_assoc,
    ← List.append_assoc (sortBy _ _)]
  rfl

theorem before_append_after (arguments : List String) :
    beforeTerminator arguments ++ afterTerminator arguments = arguments :=
  List.takeWhile_append_dropWhile

theorem notTerminator_of_mem_before {arguments : List String} {token : String}
    (h : token ∈ beforeTerminator arguments) : notTerminator token = true :=
  List.all_eq_true.mp List.all_takeWhile token h

/-- Nothing before the terminator is left once it was reached. -/
theorem before_after (arguments : List String) : beforeTerminator (afterTerminator arguments) = [] := by
  have hhead := List.head?_dropWhile_not notTerminator arguments
  unfold beforeTerminator afterTerminator
  cases hdrop : arguments.dropWhile notTerminator with
  | nil => rfl
  | cons token rest =>
    rw [hdrop] at hhead
    have htoken : notTerminator token = false := by simpa using hhead
    rw [List.takeWhile_cons, htoken]
    rfl

/-- Tokens without a terminator before some arguments come before the terminator of them. -/
theorem before_append {front : List String} (h : ∀ token ∈ front, notTerminator token = true)
    (arguments : List String) :
    beforeTerminator (front ++ arguments) = front ++ beforeTerminator arguments :=
  List.takeWhile_append_of_pos h

theorem after_append {front : List String} (h : ∀ token ∈ front, notTerminator token = true)
    (arguments : List String) : afterTerminator (front ++ arguments) = afterTerminator arguments :=
  List.dropWhile_append_of_pos h

theorem flags_perm_others (tokens : List String) : (flagsOf tokens ++ othersOf tokens).Perm tokens := by
  have hperm := List.filter_append_perm (fun token => decide (token ∈ pytestCommutativeFlags)) tokens
  have hothers : othersOf tokens
      = tokens.filter fun token => !decide (token ∈ pytestCommutativeFlags) := by
    unfold othersOf
    refine List.filter_congr fun token _ => ?_
    rw [decide_not]
  rw [hothers]
  exact hperm

/-- The head of a normal form, before its terminator. -/
def normalFront (arguments : List String) : List String :=
  sortBy id (flagsOf (beforeTerminator arguments)) ++ othersOf (beforeTerminator arguments)

theorem normalFront_perm (arguments : List String) :
    (normalFront arguments).Perm (beforeTerminator arguments) :=
  ((perm_sortBy id _).append_right _).trans (flags_perm_others _)

theorem notTerminator_normalFront {arguments : List String} :
    ∀ token ∈ normalFront arguments, notTerminator token = true := by
  intro token htoken
  exact notTerminator_of_mem_before ((normalFront_perm arguments).mem_iff.mp htoken)

theorem before_normalArguments (arguments : List String) :
    beforeTerminator (normalArguments arguments) = normalFront arguments := by
  show beforeTerminator (normalFront arguments ++ afterTerminator arguments) = _
  rw [before_append notTerminator_normalFront, before_after, List.append_nil]

theorem after_normalArguments (arguments : List String) :
    afterTerminator (normalArguments arguments) = afterTerminator arguments := by
  show afterTerminator (normalFront arguments ++ afterTerminator arguments) = _
  rw [after_append notTerminator_normalFront]
  have hsplit := before_append_after (afterTerminator arguments)
  rwa [before_after, List.nil_append] at hsplit

theorem flagsOf_normalFront (arguments : List String) :
    flagsOf (normalFront arguments) = sortBy id (flagsOf (beforeTerminator arguments)) := by
  show (normalFront arguments).filter (· ∈ pytestCommutativeFlags) = _
  unfold normalFront
  rw [List.filter_append]
  have hflags : (sortBy id (flagsOf (beforeTerminator arguments))).filter
      (· ∈ pytestCommutativeFlags) = sortBy id (flagsOf (beforeTerminator arguments)) := by
    refine List.filter_eq_self.mpr fun token htoken => ?_
    exact (List.mem_filter.mp (mem_sortBy.mp htoken)).2
  have hothers : (othersOf (beforeTerminator arguments)).filter (· ∈ pytestCommutativeFlags) = [] := by
    refine List.filter_eq_nil_iff.mpr fun token htoken hflag => ?_
    have hother := (List.mem_filter.mp htoken).2
    simp only [decide_eq_true_eq] at hother hflag
    exact hother hflag
  rw [hflags, hothers, List.append_nil]

theorem othersOf_normalFront (arguments : List String) :
    othersOf (normalFront arguments) = othersOf (beforeTerminator arguments) := by
  show (normalFront arguments).filter (· ∉ pytestCommutativeFlags) = _
  unfold normalFront
  rw [List.filter_append]
  have hflags : (sortBy id (flagsOf (beforeTerminator arguments))).filter
      (· ∉ pytestCommutativeFlags) = [] := by
    refine List.filter_eq_nil_iff.mpr fun token htoken hother => ?_
    have hflag := (List.mem_filter.mp (mem_sortBy.mp htoken)).2
    simp only [decide_eq_true_eq] at hother hflag
    exact hother hflag
  have hothers : (othersOf (beforeTerminator arguments)).filter (· ∉ pytestCommutativeFlags)
      = othersOf (beforeTerminator arguments) := by
    refine List.filter_eq_self.mpr fun token htoken => ?_
    exact (List.mem_filter.mp htoken).2
  rw [hflags, hothers, List.nil_append]

/-! ## Whole commands -/

/-- A command of `pytest`. -/
def IsPytestCommand (tokens : List String) : Prop := pytestPrefixLength tokens ≠ 0

/-- An option other than the commutative flags stands before the terminator of the arguments. -/
def HasOtherOption (tokens : List String) : Prop :=
  (beforeTerminator (tokens.drop (pytestPrefixLength tokens))).any isUnknownOption = true

/-- Two commands that differ only in where the commutative flags stand before the terminator. -/
structure DifferInFlagPlaces (a b : List String) : Prop where
  after : afterTerminator a = afterTerminator b
  others : othersOf (beforeTerminator a) = othersOf (beforeTerminator b)
  flags : (flagsOf (beforeTerminator a)).Perm (flagsOf (beforeTerminator b))

/-- The normal form of a command: itself, or, for a command of `pytest` without other options, the prefix
and its arguments in normal form. -/
theorem normalizePytestFlags_cases (tokens : List String) :
    ((¬IsPytestCommand tokens ∨ HasOtherOption tokens) ∧ normalizePytestFlags tokens = tokens)
      ∨ ∃ front ∈ pytestPrefixes, ∃ arguments, tokens = front ++ arguments
        ∧ (beforeTerminator arguments).any isUnknownOption = false
        ∧ normalizePytestFlags tokens = front ++ normalArguments arguments := by
  by_cases hcommand : IsPytestCommand tokens
  · obtain ⟨front, hfront, arguments, rfl⟩ := exists_pytestPrefix hcommand
    have hform := normalizePytestFlags_append hfront arguments
    by_cases hother : (beforeTerminator arguments).any isUnknownOption = true
    · refine .inl ⟨.inr ?_, hform.trans (if_pos hother)⟩
      unfold HasOtherOption
      rw [pytestPrefixLength_append hfront, List.drop_left]
      exact hother
    · refine .inr ⟨front, hfront, arguments, rfl, by simpa using hother, ?_⟩
      exact hform.trans (if_neg hother)
  · refine .inl ⟨.inl hcommand, ?_⟩
    unfold normalizePytestFlags
    exact if_pos (not_not.mp hcommand)

/-- A command of another program, or with another option, is its own normal form. -/
theorem normalizePytestFlags_of_plain {tokens : List String}
    (h : ¬IsPytestCommand tokens ∨ HasOtherOption tokens) : normalizePytestFlags tokens = tokens := by
  obtain ⟨-, hsame⟩ | ⟨front, hfront, arguments, rfl, hknown, -⟩ := normalizePytestFlags_cases tokens
  · exact hsame
  · unfold IsPytestCommand HasOtherOption at h
    rw [pytestPrefixLength_append hfront, List.drop_left, hknown] at h
    rcases h with hcommand | hother
    · have hempty := List.length_eq_zero_iff.mp (not_not.mp hcommand)
      exact absurd hempty (pytestPrefix_facts hfront).2.2.1
    · cases hother

/-- The arguments of a normal form have no other options either. -/
theorem any_unknown_normalFront {arguments : List String}
    (h : (beforeTerminator arguments).any isUnknownOption = false) :
    (normalFront arguments).any isUnknownOption = false := by
  rw [List.any_eq_false] at h ⊢
  intro token htoken
  exact h token ((normalFront_perm arguments).mem_iff.mp htoken)

/-- A normal form is its own normal form. -/
theorem normalizePytestFlags_idem (tokens : List String) :
    normalizePytestFlags (normalizePytestFlags tokens) = normalizePytestFlags tokens := by
  obtain ⟨-, hsame⟩ | ⟨front, hfront, arguments, -, hknown, hform⟩ := normalizePytestFlags_cases tokens
  · rw [hsame, hsame]
  · have hagain : normalArguments (normalArguments arguments) = normalArguments arguments := by
      calc normalArguments (normalArguments arguments)
          = sortBy id (flagsOf (normalFront arguments)) ++ othersOf (normalFront arguments)
              ++ afterTerminator arguments := by
            rw [normalArguments, before_normalArguments, after_normalArguments]
        _ = normalArguments arguments := by
            rw [flagsOf_normalFront, othersOf_normalFront, sortBy_sortBy]
            rfl
    rw [hform, normalizePytestFlags_append hfront, before_normalArguments,
      any_unknown_normalFront hknown, if_neg (by decide), hagain]

/-- A normal form has the tokens of the command. -/
theorem normalizePytestFlags_perm (tokens : List String) : (normalizePytestFlags tokens).Perm tokens := by
  obtain ⟨-, hsame⟩ | ⟨front, -, arguments, rfl, -, hform⟩ := normalizePytestFlags_cases tokens
  · rw [hsame]
  · rw [hform]
    refine List.Perm.append_left front ?_
    calc (normalFront arguments ++ afterTerminator arguments).Perm
          (beforeTerminator arguments ++ afterTerminator arguments) :=
        (normalFront_perm arguments).append_right _
      _ = arguments := before_append_after arguments

/-- A normal form keeps the prefix. -/
theorem normalizePytestFlags_take (tokens : List String) :
    (normalizePytestFlags tokens).take (pytestPrefixLength tokens)
      = tokens.take (pytestPrefixLength tokens) := by
  obtain ⟨-, hsame⟩ | ⟨front, hfront, arguments, rfl, -, hform⟩ := normalizePytestFlags_cases tokens
  · rw [hsame]
  · rw [hform, pytestPrefixLength_append hfront, List.take_left, List.take_left]

/-- A normal form keeps everything from the terminator on. -/
theorem normalizePytestFlags_after (tokens : List String) :
    afterTerminator (normalizePytestFlags tokens) = afterTerminator tokens := by
  obtain ⟨-, hsame⟩ | ⟨front, hfront, arguments, rfl, -, hform⟩ := normalizePytestFlags_cases tokens
  · rw [hsame]
  · have hplain := (pytestPrefix_facts hfront).1
    rw [hform, after_append hplain, after_append hplain, after_normalArguments]

/-- A normal form keeps the order of all tokens that are no commutative flags. -/
theorem normalizePytestFlags_others (tokens : List String) :
    othersOf (beforeTerminator (normalizePytestFlags tokens)) = othersOf (beforeTerminator tokens) := by
  obtain ⟨-, hsame⟩ | ⟨front, hfront, arguments, rfl, -, hform⟩ := normalizePytestFlags_cases tokens
  · rw [hsame]
  · have hplain := (pytestPrefix_facts hfront).1
    rw [hform, before_append hplain, before_append hplain, before_normalArguments]
    unfold othersOf
    rw [List.filter_append, List.filter_append]
    exact congrArg _ (othersOf_normalFront arguments)

/-- What a prefix of `pytest` and arguments look like without the places of the flags. -/
theorem othersOf_front {front : List String} (hfront : front ∈ pytestPrefixes)
    (arguments : List String) : othersOf (beforeTerminator (front ++ arguments))
      = front ++ othersOf (beforeTerminator arguments) := by
  obtain ⟨hplain, hnoFlags, -⟩ := pytestPrefix_facts hfront
  rw [before_append hplain]
  unfold othersOf
  rw [List.filter_append]
  have hself : front.filter (· ∉ pytestCommutativeFlags) = front :=
    List.filter_eq_self.mpr fun token htoken => decide_eq_true (hnoFlags token htoken)
  rw [hself]

theorem flagsOf_front {front : List String} (hfront : front ∈ pytestPrefixes)
    (arguments : List String) : flagsOf (beforeTerminator (front ++ arguments))
      = flagsOf (beforeTerminator arguments) := by
  obtain ⟨hplain, hnoFlags, -⟩ := pytestPrefix_facts hfront
  rw [before_append hplain]
  unfold flagsOf
  rw [List.filter_append]
  have hnil : front.filter (· ∈ pytestCommutativeFlags) = [] :=
    List.filter_eq_nil_iff.mpr fun token htoken hflag =>
      hnoFlags token htoken (of_decide_eq_true hflag)
  rw [hnil, List.nil_append]

/-- Commands of `pytest` without other options that differ only in the places of the commutative flags
have one normal form. -/
theorem normalizePytestFlags_eq_of_differ {a b : List String} (ha : IsPytestCommand a)
    (hb : IsPytestCommand b) (hknown : ¬HasOtherOption a) (hknown' : ¬HasOtherOption b)
    (h : DifferInFlagPlaces a b) : normalizePytestFlags a = normalizePytestFlags b := by
  obtain ⟨hself | hother, -⟩ | ⟨front, hfront, arguments, rfl, -, hform⟩ := normalizePytestFlags_cases a
  · exact absurd ha hself
  · exact absurd hother hknown
  · obtain ⟨hself | hother, -⟩ | ⟨front', hfront', arguments', rfl, -, hform'⟩ :=
      normalizePytestFlags_cases b
    · exact absurd hb hself
    · exact absurd hother hknown'
    · obtain ⟨hafter, hothers, hflags⟩ := h
      obtain ⟨hplain, -, hne, hunique⟩ := pytestPrefix_facts hfront
      obtain ⟨hplain', -, hne', -⟩ := pytestPrefix_facts hfront'
      rw [after_append hplain, after_append hplain'] at hafter
      rw [othersOf_front hfront, othersOf_front hfront'] at hothers
      rw [flagsOf_front hfront, flagsOf_front hfront'] at hflags
      have hhead := congrArg List.head? hothers
      rw [List.head?_append_of_ne_nil _ hne, List.head?_append_of_ne_nil _ hne'] at hhead
      obtain rfl := hunique front' hfront' hhead
      have hsorted : sortBy id (flagsOf (beforeTerminator arguments))
          = sortBy id (flagsOf (beforeTerminator arguments')) :=
        sortBy_eq_of_perm hflags fun _ _ _ _ hsame => hsame
      rw [hform, hform']
      unfold normalArguments
      rw [hsorted, List.append_cancel_left hothers, hafter]

end SalienceGate
