import SalienceGate.Domain.Serde
import SalienceGate.Lib.JsonGrammar

/-!
# Canonical text is read back

The canonical text of a value without floats is in the grammar of JSON texts, and what it says is the value: every
escaped string has one reading, and an integer is written as an integer.
-/

open JsonText

namespace Json

/-! ## Strings -/

/-- The code points of a string. -/
def codePoints (s : String) : List ℕ := s.toList.map Char.toNat

/-- A character that is no letter of an escape is escaped to what reads as it. -/
theorem stringText_escape (c : Char) {body : List Char} {us : List ℕ} (h : StringText body us) :
    StringText (escape c ++ body) (c.toNat :: us) := by
  have hletter : ∀ {letter : Char} {u : ℕ}, simpleEscape letter = some u → c.toNat = u →
      StringText ('\\' :: letter :: body) (c.toNat :: us) := by
    intro letter u hescape hu
    rw [hu]
    exact .escape hescape h
  unfold escape
  split_ifs with hback htab hline hfeed hreturn hquote hslash hcontrol
  · exact hletter (by decide) hback
  · exact hletter (by decide) htab
  · exact hletter (by decide) hline
  · exact hletter (by decide) hfeed
  · exact hletter (by decide) hreturn
  · exact hletter (by decide) hquote
  · exact hletter (by decide) hslash
  · have hvalue : Hex.value? (Hex.digits 4 c.toNat) = some c.toNat := Hex.value?_digits (by omega)
    exact .unicode hvalue h
  · refine .plain ?_ ?_ (by omega) h
    · rintro rfl
      exact hquote rfl
    · rintro rfl
      exact hslash rfl

theorem stringText_flatMap_escape (cs : List Char) : StringText (cs.flatMap escape) (cs.map Char.toNat) := by
  induction cs with
  | nil => exact .nil
  | cons c cs ih =>
    rw [List.flatMap_cons, List.map_cons]
    exact stringText_escape c ih

/-- Code points without halves of surrogate pairs have no pairs to join. -/
theorem joinPairs_of_scalar {us : List ℕ} (h : ∀ u ∈ us, isHighSurrogate u = false) : joinPairs us = us := by
  induction us with
  | nil => rfl
  | cons u us ih =>
    have hrest := ih fun v hv => h v (List.mem_cons_of_mem u hv)
    have hu := h u List.mem_cons_self
    cases us with
    | nil => rfl
    | cons v us =>
      rw [joinPairs, if_neg, hrest]
      rintro ⟨hhigh, -⟩
      rw [hu] at hhigh
      cases hhigh

theorem isHighSurrogate_toNat (c : Char) : isHighSurrogate c.toNat = false := by
  have hvalid := c.valid
  unfold UInt32.isValidChar Nat.isValidChar at hvalid
  unfold isHighSurrogate Char.toNat
  rw [decide_eq_false_iff_not]
  omega

/-- A string in JSON says its code points. -/
theorem quotedText (s : String) : QuotedText (codePoints s) (quoted s) := by
  refine ⟨_, _, stringText_flatMap_escape s.toList, (joinPairs_of_scalar fun u hu => ?_).symm, rfl⟩
  obtain ⟨c, -, rfl⟩ := List.mem_map.mp hu
  exact isHighSurrogate_toNat c

/-! ## Integers -/

/-- The digits of a number that is not zero do not start with one. -/
theorem toDigits_head (n : ℕ) (hn : 0 < n) : ∃ d rest, Nat.toDigits 10 n = d :: rest ∧ d ≠ '0' := by
  induction n using Nat.base_induction 10 (by decide) with
  | single m hm =>
    refine ⟨m.digitChar, [], Nat.toDigits_of_lt_base hm, ?_⟩
    rw [Ne, Nat.digitChar_eq_zero]
    omega
  | digit m k hk hm ih =>
    obtain ⟨d, rest, hdigits, hd⟩ := ih hm
    rw [← Nat.toDigits_append_toDigits (by decide) hm hk, hdigits, List.cons_append]
    exact ⟨d, _, rfl, hd⟩

theorem isDigit_toDigits (n : ℕ) : ∀ c ∈ Nat.toDigits 10 n, c.isDigit = true :=
  fun _ hc => Nat.isDigit_of_mem_toDigits (by decide) (by decide) hc

theorem isInteger_toDigits (n : ℕ) : IsInteger (Nat.toDigits 10 n) := by
  rcases Nat.eq_zero_or_pos n with rfl | hn
  · exact .inl rfl
  · obtain ⟨d, rest, hdigits, hd⟩ := toDigits_head n hn
    have hall := isDigit_toDigits n
    rw [hdigits] at hall ⊢
    exact .inr ⟨d, rest, rfl, hall d List.mem_cons_self, hd, fun x hx => hall x (List.mem_cons_of_mem d hx)⟩

/-- The characters of an integer: a sign, or none, and its digits. -/
theorem toList_toString_int (i : ℤ) :
    (toString i).toList = (if i < 0 then ['-'] else []) ++ Nat.toDigits 10 i.natAbs := by
  cases i with
  | ofNat n =>
    show (Nat.repr n).toList = _
    have hsign : ¬Int.ofNat n < 0 := Int.not_lt.mpr (Int.natCast_nonneg n)
    rw [Nat.toList_repr, if_neg hsign]
    rfl
  | negSucc n =>
    show ("-" ++ Nat.repr (n + 1)).toList = _
    rw [String.toList_append, Nat.toList_repr, if_pos (Int.negSucc_lt_zero n)]
    rfl

/-- An integer is written as one. -/
theorem numberText_int (i : ℤ) : NumberText (toString i).toList true := by
  refine ⟨if i < 0 then ['-'] else [], Nat.toDigits 10 i.natAbs, [], [], ?_, ?_, isInteger_toDigits i.natAbs, .inl rfl,
    .inl rfl, rfl⟩
  · rw [toList_toString_int, List.append_nil, List.append_nil]
  · split
    · exact .inr rfl
    · exact .inl rfl

/-- `int` of a token. -/
def intOfToken : List Char → ℤ
  | '-' :: ds => -(Nat.ofDigitChars 10 ds 0 : ℤ)
  | ds => Nat.ofDigitChars 10 ds 0

theorem intOfToken_toString (i : ℤ) : intOfToken (toString i).toList = i := by
  rw [toList_toString_int]
  split
  next hneg =>
    show -(Nat.ofDigitChars 10 (Nat.toDigits 10 i.natAbs) 0 : ℤ) = i
    rw [Nat.ofDigitChars_ten_toDigits]
    omega
  next hneg =>
    have hplain : intOfToken (Nat.toDigits 10 i.natAbs) = Nat.ofDigitChars 10 (Nat.toDigits 10 i.natAbs) 0 := by
      unfold intOfToken
      split
      next ds hds =>
        -- a digit is no sign
        have hsign := isDigit_toDigits i.natAbs '-' (by rw [hds]; exact List.mem_cons_self)
        exact absurd hsign (by decide)
      next => rfl
    rw [List.nil_append, hplain, Nat.ofDigitChars_ten_toDigits]
    omega

/-! ## Values -/

/-- How many digits `int` reads: `sys.int_info.default_max_str_digits`. -/
def maxIntDigits : ℕ := 4300

/-- No floats, and no integers of more digits than `int` reads, at any depth. -/
def plainNumbers : Json → Bool
  | .float _ => false
  | .int i => (Nat.toDigits 10 i.natAbs).length ≤ maxIntDigits
  | .list xs => plainNumbersOfList xs
  | .object xs => plainNumbersOfItems xs
  | _ => true
where
  /-- `plainNumbers` of the items of a list. -/
  plainNumbersOfList : List Json → Bool
    | [] => true
    | x :: xs => plainNumbers x && plainNumbersOfList xs
  /-- `plainNumbers` of the members of an object. -/
  plainNumbersOfItems : List (String × Json) → Bool
    | [] => true
    | x :: xs => plainNumbers x.2 && plainNumbersOfItems xs

theorem plainNumbersOfItems_iff {items : List (String × Json)} :
    plainNumbers.plainNumbersOfItems items = true ↔ ∀ item ∈ items, item.2.plainNumbers = true := by
  induction items with
  | nil => exact ⟨fun _ _ hitem => absurd hitem List.not_mem_nil, fun _ => rfl⟩
  | cons item items ih =>
    rw [plainNumbers.plainNumbersOfItems, Bool.and_eq_true, ih, List.forall_mem_cons]

theorem isBlanks_nil : IsBlanks [] := fun _ hc => absurd hc List.not_mem_nil

variable [FloatRepr]

/-- What the canonical text of a value says. -/
def tree : Json → Tree
  | .null => .null
  | .bool b => .bool b
  | .int i => .number (toString i).toList true
  | .float x => .number (FloatRepr.text x).toList false
  | .str s => .string (codePoints s)
  | .list xs => .array (treeOfList xs)
  | .object xs => .object (treeOfItems xs)
where
  /-- `tree` of the items of a list. -/
  treeOfList : List Json → List Tree
    | [] => []
    | x :: xs => tree x :: treeOfList xs
  /-- `tree` of the members of an object. -/
  treeOfItems : List (String × Json) → List (List ℕ × Tree)
    | [] => []
    | x :: xs => (codePoints x.1, tree x.2) :: treeOfItems xs

mutual

/-- The canonical text of a value without floats writes its tree. -/
theorem valueText_chars : ∀ {j : Json}, j.plainNumbers = true → ValueText j.tree j.chars
  | .null, _ => .literal (.head _)
  | .bool true, _ => .literal (.tail _ (.head _))
  | .bool false, _ => .literal (.tail _ (.tail _ (.head _)))
  | .int i, _ => .number (numberText_int i)
  | .float _, h => nomatch h
  | .str s, _ => .string (quotedText s)
  | .list [], _ => .emptyArray isBlanks_nil
  | .list (x :: xs), h => @ValueText.array [] _ _ isBlanks_nil (itemsText_chars (List.cons_ne_nil x xs) h)
  | .object [], _ => .emptyObject isBlanks_nil
  | .object (x :: xs), h => @ValueText.object [] _ _ isBlanks_nil (membersText_chars (List.cons_ne_nil x xs) h)

theorem itemsText_chars : ∀ {xs : List Json}, xs ≠ [] → plainNumbers.plainNumbersOfList xs = true →
    ItemsText (tree.treeOfList xs) (chars.charsOfList xs ++ [']'])
  | [], hne, _ => absurd rfl hne
  | [x], _, h => by
    obtain ⟨hx, -⟩ := Bool.and_eq_true_iff.mp h
    show ItemsText [x.tree] ((x.chars ++ []) ++ [']'])
    rw [List.append_nil]
    exact .last (valueText_chars hx) isBlanks_nil
  | x :: y :: xs, _, h => by
    obtain ⟨hx, hxs⟩ := Bool.and_eq_true_iff.mp h
    have hrest := itemsText_chars (List.cons_ne_nil y xs) hxs
    show ItemsText (x.tree :: _) ((x.chars ++ ',' :: chars.charsOfList (y :: xs)) ++ [']'])
    rw [List.append_assoc, List.cons_append]
    exact @ItemsText.more _ _ _ [] [] _ (valueText_chars hx) isBlanks_nil isBlanks_nil hrest

theorem membersText_chars : ∀ {xs : List (String × Json)}, xs ≠ [] → plainNumbers.plainNumbersOfItems xs = true →
    MembersText (tree.treeOfItems xs) (chars.charsOfItems xs ++ ['\x7d'])
  | [], hne, _ => absurd rfl hne
  | [(key, x)], _, h => by
    obtain ⟨hx, -⟩ := Bool.and_eq_true_iff.mp h
    show MembersText [(codePoints key, x.tree)] ((quoted key ++ ':' :: (x.chars ++ [])) ++ ['\x7d'])
    rw [List.append_nil, List.append_assoc, List.cons_append]
    exact .last (quotedText key) isBlanks_nil isBlanks_nil (valueText_chars hx) isBlanks_nil
  | (key, x) :: y :: xs, _, h => by
    obtain ⟨hx, hxs⟩ := Bool.and_eq_true_iff.mp h
    have hrest := membersText_chars (List.cons_ne_nil y xs) hxs
    show MembersText ((codePoints key, x.tree) :: _)
      ((quoted key ++ ':' :: (x.chars ++ ',' :: chars.charsOfItems (y :: xs))) ++ ['\x7d'])
    rw [List.append_assoc, List.cons_append, List.append_assoc, List.cons_append]
    exact @MembersText.more _ _ _ _ [] [] _ [] [] _ (quotedText key) isBlanks_nil isBlanks_nil (valueText_chars hx)
      isBlanks_nil isBlanks_nil hrest

end

/-- The canonical text of a value without floats is read as its tree. -/
theorem parse_chars {j : Json} (h : j.plainNumbers = true) : parse j.chars = some j.tree :=
  parse_eq_some.mpr ⟨[], j.chars, [], by rw [List.append_nil, List.nil_append], isBlanks_nil, valueText_chars h,
    isBlanks_nil⟩

end Json
