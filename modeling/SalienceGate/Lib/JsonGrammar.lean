import Mathlib.Data.List.TakeWhile
import SalienceGate.Lib.Hex

/-!
# The grammar of JSON texts

`ValueText` is the grammar of RFC 8259 over characters, with the three constants that Python's parser also
reads: it says which texts write a tree. `parse` reads one value and nothing after it, and reads exactly the texts
of the grammar (`parse_eq_some`). `loads` is what its hooks make of the tree, from the inside out.
A string is the list of its code points, where two escapes that are a surrogate pair make one code point.
-/

namespace JsonText

/-! ## Trees -/

/-- What a JSON text says: numbers are their texts, and the members of an object stand as they are written. -/
inductive Tree where
  | null
  | bool (b : Bool)
  | number (token : List Char) (isInteger : Bool)
  | constant (name : String)
  | string (text : List ℕ)
  | array (items : List Tree)
  | object (members : List (List ℕ × Tree))

/-- A blank. -/
def isBlank (c : Char) : Bool := c = ' ' || c = '\t' || c = '\r' || c = '\n'

/-- The text after its blanks. -/
def skip (text : List Char) : List Char := text.dropWhile isBlank

/-! ## Strings -/

/-- The first half of a surrogate pair. -/
def isHighSurrogate (u : ℕ) : Bool := 0xD800 ≤ u ∧ u ≤ 0xDBFF

/-- The second half of a surrogate pair. -/
def isLowSurrogate (u : ℕ) : Bool := 0xDC00 ≤ u ∧ u ≤ 0xDFFF

/-- Neither half of a surrogate pair. -/
def isScalar (u : ℕ) : Bool := !isHighSurrogate u && !isLowSurrogate u

/-- The code points of a string, with its surrogate pairs joined. -/
def joinPairs : List ℕ → List ℕ
  | [] => []
  | [u] => [u]
  | u :: v :: us =>
    if isHighSurrogate u ∧ isLowSurrogate v then (0x10000 + (u - 0xD800) * 0x400 + (v - 0xDC00)) :: joinPairs us
    else u :: joinPairs (v :: us)

/-- The code point behind an escape of one letter. -/
def simpleEscape (c : Char) : Option ℕ :=
  if c = '"' then some 34
  else if c = '\\' then some 92
  else if c = '/' then some 47
  else if c = 'b' then some 8
  else if c = 'f' then some 12
  else if c = 'n' then some 10
  else if c = 'r' then some 13
  else if c = 't' then some 9
  else none

/-- The inside of a string, and its code points before pairs are joined. -/
inductive StringText : List Char → List ℕ → Prop
  | nil : StringText [] []
  | plain {c : Char} {body : List Char} {us : List ℕ} : c ≠ '"' → c ≠ '\\' → 0x20 ≤ c.toNat → StringText body us →
      StringText (c :: body) (c.toNat :: us)
  | escape {c : Char} {u : ℕ} {body : List Char} {us : List ℕ} : simpleEscape c = some u → StringText body us →
      StringText ('\\' :: c :: body) (u :: us)
  | unicode {a b c d : Char} {u : ℕ} {body : List Char} {us : List ℕ} : Hex.value? [a, b, c, d] = some u →
      StringText body us → StringText ('\\' :: 'u' :: a :: b :: c :: d :: body) (u :: us)

/-- The inside of a string up to its closing quote. -/
def readString : List Char → Option (List ℕ × List Char)
  | [] => none
  | c :: rest =>
    if c = '"' then some ([], rest)
    else if c = '\\' then
      match rest with
      | [] => none
      | e :: rest =>
        match simpleEscape e with
        | some u => (readString rest).map fun read => (u :: read.1, read.2)
        | none =>
          if e = 'u' then
            match rest with
            | x :: y :: z :: w :: rest =>
              match Hex.value? [x, y, z, w] with
              | some u => (readString rest).map fun read => (u :: read.1, read.2)
              | none => none
            | _ => none
          else none
    else if c.toNat < 0x20 then none
    else (readString rest).map fun read => (c.toNat :: read.1, read.2)

theorem readString_of_stringText {body : List Char} {us : List ℕ} (h : StringText body us) (rest : List Char) :
    readString (body ++ '"' :: rest) = some (us, rest) := by
  induction h with
  | nil =>
    unfold readString
    rfl
  | @plain c body us hquote hbackslash hcontrol _ ih =>
    rw [List.cons_append]
    unfold readString
    rw [if_neg hquote, if_neg hbackslash, if_neg (by omega), ih]
    rfl
  | @escape c u body us hescape _ ih =>
    rw [List.cons_append, List.cons_append]
    unfold readString
    rw [if_neg (by decide), if_pos rfl]
    simp only [hescape, ih]
    rfl
  | @unicode x y z w u body us hvalue _ ih =>
    have hletter : simpleEscape 'u' = none := by decide
    simp only [List.cons_append]
    unfold readString
    rw [if_neg (by decide), if_pos rfl]
    simp only [hletter, hvalue, ih, if_true]
    rfl

/-- A string is read exactly as it is written. -/
theorem readString_eq_some {text : List Char} {us : List ℕ} {rest : List Char}
    (h : readString text = some (us, rest)) : ∃ body, StringText body us ∧ text = body ++ '"' :: rest := by
  induction hlength : text.length using Nat.strong_induction_on generalizing text us with
  | _ n ih =>
  cases text with
  | nil => cases h
  | cons c text =>
    unfold readString at h
    split at h
    next hquote =>
      cases h
      exact ⟨[], .nil, by rw [hquote]; rfl⟩
    next hquote =>
      split at h
      next hbackslash =>
        subst hbackslash
        cases text with
        | nil => cases h
        | cons e text =>
          dsimp only at h
          split at h
          next u hescape =>
            obtain ⟨⟨vs, rest'⟩, hread, heq⟩ := Option.map_eq_some_iff.mp h
            cases heq
            obtain ⟨body, hbody, htext⟩ := ih text.length (by simp only [List.length_cons] at hlength; omega) hread rfl
            exact ⟨_, .escape hescape hbody, by rw [htext]; rfl⟩
          next hescape =>
            split at h
            next hletter =>
              subst hletter
              split at h
              next x y z w text =>
                split at h
                next u hvalue =>
                  obtain ⟨⟨vs, rest'⟩, hread, heq⟩ := Option.map_eq_some_iff.mp h
                  cases heq
                  obtain ⟨body, hbody, htext⟩ :=
                    ih text.length (by simp only [List.length_cons] at hlength; omega) hread rfl
                  exact ⟨_, .unicode hvalue hbody, by rw [htext]; rfl⟩
                next => cases h
              next => cases h
            next => cases h
      next hbackslash =>
        split at h
        next => cases h
        next hcontrol =>
          obtain ⟨⟨vs, rest'⟩, hread, heq⟩ := Option.map_eq_some_iff.mp h
          cases heq
          obtain ⟨body, hbody, htext⟩ := ih text.length (by simp only [List.length_cons] at hlength; omega) hread rfl
          exact ⟨_, .plain hquote hbackslash (by omega) hbody, by rw [htext]; rfl⟩

/-! ## Numbers -/

/-- One digit or more. -/
def IsDigits (ds : List Char) : Prop := ds ≠ [] ∧ ∀ d ∈ ds, d.isDigit = true

/-- A zero, or digits that do not start with one. -/
def IsInteger (ds : List Char) : Prop :=
  ds = ['0'] ∨ ∃ d rest, ds = d :: rest ∧ d.isDigit = true ∧ d ≠ '0' ∧ ∀ x ∈ rest, x.isDigit = true

/-- A sign, or none. -/
def IsSign (sign : List Char) : Prop := sign = [] ∨ sign = ['-']

/-- A fraction, or none. -/
def IsFraction (fraction : List Char) : Prop := fraction = [] ∨ ∃ ds, fraction = '.' :: ds ∧ IsDigits ds

/-- An exponent, or none. -/
def IsExponent (exponent : List Char) : Prop :=
  exponent = [] ∨ ∃ e sign ds, exponent = e :: (sign ++ ds) ∧ (e = 'e' ∨ e = 'E')
    ∧ (sign = [] ∨ sign = ['-'] ∨ sign = ['+']) ∧ IsDigits ds

/-- The text of a number, which is an integer without a fraction and an exponent. -/
def NumberText (token : List Char) (isInteger : Bool) : Prop :=
  ∃ sign integer fraction exponent, token = sign ++ (integer ++ (fraction ++ exponent)) ∧ IsSign sign
    ∧ IsInteger integer ∧ IsFraction fraction ∧ IsExponent exponent
    ∧ isInteger = decide (fraction = [] ∧ exponent = [])

/-- The sign at the start of a text. -/
def readSign : List Char → List Char × List Char
  | '-' :: rest => (['-'], rest)
  | text => ([], text)

/-- The integer at the start of a text. -/
def readInteger : List Char → Option (List Char × List Char)
  | [] => none
  | c :: rest =>
    if c = '0' then some (['0'], rest)
    else if c.isDigit then some (c :: rest.takeWhile Char.isDigit, rest.dropWhile Char.isDigit)
    else none

/-- The fraction at the start of a text. -/
def readFraction : List Char → List Char × List Char
  | '.' :: rest =>
    if rest.takeWhile Char.isDigit = [] then ([], '.' :: rest)
    else ('.' :: rest.takeWhile Char.isDigit, rest.dropWhile Char.isDigit)
  | text => ([], text)

/-- The sign of an exponent at the start of a text. -/
def readExponentSign : List Char → List Char × List Char
  | '-' :: rest => (['-'], rest)
  | '+' :: rest => (['+'], rest)
  | text => ([], text)

/-- The exponent at the start of a text. -/
def readExponent : List Char → List Char × List Char
  | [] => ([], [])
  | c :: rest =>
    if c = 'e' ∨ c = 'E' then
      let signed := readExponentSign rest
      if signed.2.takeWhile Char.isDigit = [] then ([], c :: rest)
      else (c :: (signed.1 ++ signed.2.takeWhile Char.isDigit), signed.2.dropWhile Char.isDigit)
    else ([], c :: rest)

/-- The longest number at the start of a text. -/
def readNumber (text : List Char) : Option (List Char × Bool × List Char) :=
  let sign := readSign text
  (readInteger sign.2).map fun integer =>
    let fraction := readFraction integer.2
    let exponent := readExponent fraction.2
    (sign.1 ++ (integer.1 ++ (fraction.1 ++ exponent.1)), decide (fraction.1 = [] ∧ exponent.1 = []), exponent.2)

theorem isDigits_takeWhile {text : List Char} (h : text.takeWhile Char.isDigit ≠ []) :
    IsDigits (text.takeWhile Char.isDigit) := ⟨h, fun _ hd => List.mem_takeWhile_imp hd⟩

theorem readSign_spec (text : List Char) : IsSign (readSign text).1 ∧ text = (readSign text).1 ++ (readSign text).2 := by
  unfold readSign
  split
  · exact ⟨.inr rfl, rfl⟩
  · exact ⟨.inl rfl, rfl⟩

theorem readInteger_spec {text integer rest : List Char} (h : readInteger text = some (integer, rest)) :
    IsInteger integer ∧ text = integer ++ rest := by
  cases text with
  | nil => cases h
  | cons c text =>
    rw [readInteger] at h
    split at h
    next hzero =>
      cases h
      exact ⟨.inl rfl, by rw [hzero]; rfl⟩
    next hzero =>
      split at h
      next hdigit =>
        cases h
        refine ⟨.inr ⟨c, _, rfl, hdigit, hzero, fun x hx => List.mem_takeWhile_imp hx⟩, ?_⟩
        rw [List.cons_append, List.takeWhile_append_dropWhile]
      next => cases h

theorem readFraction_spec (text : List Char) :
    IsFraction (readFraction text).1 ∧ text = (readFraction text).1 ++ (readFraction text).2 := by
  unfold readFraction
  split
  next rest =>
    split
    next => exact ⟨.inl rfl, rfl⟩
    next hdigits =>
      refine ⟨.inr ⟨_, rfl, isDigits_takeWhile hdigits⟩, ?_⟩
      rw [List.cons_append, List.takeWhile_append_dropWhile]
  next => exact ⟨.inl rfl, rfl⟩

theorem readExponentSign_spec (text : List Char) :
    ((readExponentSign text).1 = [] ∨ (readExponentSign text).1 = ['-'] ∨ (readExponentSign text).1 = ['+'])
    ∧ text = (readExponentSign text).1 ++ (readExponentSign text).2 := by
  unfold readExponentSign
  split
  · exact ⟨.inr (.inl rfl), rfl⟩
  · exact ⟨.inr (.inr rfl), rfl⟩
  · exact ⟨.inl rfl, rfl⟩

theorem readExponent_spec (text : List Char) :
    IsExponent (readExponent text).1 ∧ text = (readExponent text).1 ++ (readExponent text).2 := by
  cases text with
  | nil => exact ⟨.inl rfl, rfl⟩
  | cons c rest =>
    rw [readExponent]
    split
    next hletter =>
      obtain ⟨hsign, hrest⟩ := readExponentSign_spec rest
      dsimp only
      split
      next => exact ⟨.inl rfl, rfl⟩
      next hdigits =>
        refine ⟨.inr ⟨c, _, _, rfl, hletter, hsign, isDigits_takeWhile hdigits⟩, ?_⟩
        rw [List.cons_append, List.append_assoc, List.takeWhile_append_dropWhile, ← hrest]
    next => exact ⟨.inl rfl, rfl⟩

/-- What is read is a number. -/
theorem readNumber_spec {text token rest : List Char} {isInteger : Bool}
    (h : readNumber text = some (token, isInteger, rest)) : NumberText token isInteger ∧ text = token ++ rest := by
  unfold readNumber at h
  obtain ⟨⟨integer, after⟩, hinteger, heq⟩ := Option.map_eq_some_iff.mp h
  cases heq
  obtain ⟨hsign, hsplit⟩ := readSign_spec text
  obtain ⟨hint, hsplitInt⟩ := readInteger_spec hinteger
  obtain ⟨hfraction, hsplitFraction⟩ := readFraction_spec after
  obtain ⟨hexponent, hsplitExponent⟩ := readExponent_spec (readFraction after).2
  refine ⟨⟨_, _, _, _, rfl, hsign, hint, hfraction, hexponent, rfl⟩, ?_⟩
  rw [List.append_assoc, List.append_assoc, List.append_assoc, ← hsplitExponent, ← hsplitFraction, ← hsplitInt,
    ← hsplit]

/-- What may follow a value. -/
def AfterValue (rest : List Char) : Prop :=
  ∀ c cs, rest = c :: cs → isBlank c = true ∨ c = ',' ∨ c = ']' ∨ c = '}'

theorem isBlank_iff {c : Char} : isBlank c = true ↔ c = ' ' ∨ c = '\t' ∨ c = '\r' ∨ c = '\n' := by
  unfold isBlank
  simp only [Bool.or_eq_true, decide_eq_true_eq, or_assoc]

/-- What follows a value is not part of a number. -/
theorem AfterValue.head {c : Char} {cs : List Char} (h : AfterValue (c :: cs)) :
    c.isDigit = false ∧ c ≠ '.' ∧ c ≠ 'e' ∧ c ≠ 'E' := by
  rcases h c cs rfl with hblank | rfl | rfl | rfl
  · rcases isBlank_iff.mp hblank with rfl | rfl | rfl | rfl <;> decide
  · decide
  · decide
  · decide

theorem takeWhile_append_of_stop {p : Char → Bool} {ds rest : List Char} (hds : ∀ d ∈ ds, p d = true)
    (hrest : ∀ c cs, rest = c :: cs → p c = false) :
    (ds ++ rest).takeWhile p = ds ∧ (ds ++ rest).dropWhile p = rest := by
  rw [List.takeWhile_append_of_pos hds, List.dropWhile_append_of_pos hds]
  cases rest with
  | nil => exact ⟨List.append_nil _, rfl⟩
  | cons c cs =>
    have hc := hrest c cs rfl
    rw [List.takeWhile_cons_of_neg (by rw [hc]; decide), List.dropWhile_cons_of_neg (by rw [hc]; decide)]
    exact ⟨List.append_nil _, rfl⟩

/-- What may not follow an integer, a fraction or an exponent that is complete. -/
def Ends (stop : Char → Prop) (rest : List Char) : Prop := ∀ c cs, rest = c :: cs → ¬stop c

theorem AfterValue.ends {rest : List Char} (h : AfterValue rest) :
    Ends (fun c => c.isDigit = true ∨ c = '.' ∨ c = 'e' ∨ c = 'E') rest := by
  rintro c cs rfl hstop
  obtain ⟨hdigit, hdot, he, hE⟩ := h.head
  rcases hstop with hstop | hstop | hstop | hstop
  · rw [hdigit] at hstop
    cases hstop
  · exact hdot hstop
  · exact he hstop
  · exact hE hstop

theorem Ends.isDigit {stop : Char → Prop} {rest : List Char} (h : Ends stop rest)
    (hstop : ∀ c, c.isDigit = true → stop c) : ∀ c cs, rest = c :: cs → c.isDigit = false := by
  intro c cs heq
  have hc := h c cs heq
  by_contra hdigit
  exact hc (hstop c (by simpa using hdigit))

theorem readExponentSign_append {sign ds rest : List Char} (hsign : sign = [] ∨ sign = ['-'] ∨ sign = ['+'])
    (hds : IsDigits ds) : readExponentSign (sign ++ (ds ++ rest)) = (sign, ds ++ rest) := by
  rcases hsign with rfl | rfl | rfl
  · obtain ⟨hne, hdigit⟩ := hds
    obtain ⟨d, ds, rfl⟩ := List.exists_cons_of_ne_nil hne
    have hd := hdigit d List.mem_cons_self
    rw [List.nil_append, List.cons_append]
    unfold readExponentSign
    split
    next heq =>
      cases heq
      exact absurd hd (by decide)
    next heq =>
      cases heq
      exact absurd hd (by decide)
    next => rfl
  · rfl
  · rfl

theorem readExponent_append {exponent rest : List Char} (h : IsExponent exponent) (hrest : AfterValue rest) :
    readExponent (exponent ++ rest) = (exponent, rest) := by
  have hends := hrest.ends
  rcases h with rfl | ⟨e, sign, ds, rfl, he, hsign, hds⟩
  · rw [List.nil_append]
    cases rest with
    | nil => rfl
    | cons c cs =>
      rw [readExponent, if_neg]
      exact fun hc => hends c cs rfl (.inr (.inr hc))
  · obtain ⟨htake, hdrop⟩ := takeWhile_append_of_stop hds.2 (hends.isDigit fun _ hc => .inl hc)
    rw [List.cons_append, List.append_assoc, readExponent, if_pos he, readExponentSign_append hsign hds]
    dsimp only
    rw [htake, hdrop, if_neg hds.1]

/-- No digit and no point follows a fraction, nor does a digit follow an integer. -/
theorem ends_exponent {exponent rest : List Char} (h : IsExponent exponent) (hrest : AfterValue rest) :
    Ends (fun c => c.isDigit = true ∨ c = '.') (exponent ++ rest) := by
  intro c cs heq hc
  rcases h with rfl | ⟨e, sign, ds, rfl, he, -, -⟩
  · exact hrest.ends c cs heq (hc.imp_right .inl)
  · rw [List.cons_append] at heq
    obtain ⟨rfl, -⟩ := List.cons.inj heq
    rcases he with rfl | rfl <;> exact absurd hc (by decide)

theorem readFraction_append {fraction exponent rest : List Char} (h : IsFraction fraction)
    (hexponent : IsExponent exponent) (hrest : AfterValue rest) :
    readFraction (fraction ++ (exponent ++ rest)) = (fraction, exponent ++ rest) := by
  have hends := ends_exponent hexponent hrest
  rcases h with rfl | ⟨ds, rfl, hds⟩
  · rw [List.nil_append]
    unfold readFraction
    split
    next heq => exact absurd (.inr rfl) (hends _ _ heq)
    next => rfl
  · obtain ⟨htake, hdrop⟩ := takeWhile_append_of_stop hds.2 (hends.isDigit fun _ hc => .inl hc)
    rw [List.cons_append, readFraction, htake, hdrop, if_neg hds.1]

theorem ends_fraction {fraction exponent rest : List Char} (h : IsFraction fraction)
    (hexponent : IsExponent exponent) (hrest : AfterValue rest) :
    Ends (fun c => c.isDigit = true) (fraction ++ (exponent ++ rest)) := by
  intro c cs heq hc
  rcases h with rfl | ⟨ds, rfl, -⟩
  · exact ends_exponent hexponent hrest c cs heq (.inl hc)
  · rw [List.cons_append] at heq
    obtain ⟨rfl, -⟩ := List.cons.inj heq
    exact absurd hc (by decide)

theorem readInteger_append {integer rest : List Char} (h : IsInteger integer)
    (hrest : Ends (fun c => c.isDigit = true) rest) : readInteger (integer ++ rest) = some (integer, rest) := by
  rcases h with rfl | ⟨d, ds, rfl, hdigit, hzero, hds⟩
  · rfl
  · obtain ⟨htake, hdrop⟩ := takeWhile_append_of_stop hds (hrest.isDigit fun _ hc => hc)
    rw [List.cons_append, readInteger, if_neg hzero, if_pos hdigit, htake, hdrop]

/-- An integer starts with a digit. -/
theorem IsInteger.head {integer : List Char} (h : IsInteger integer) :
    ∃ d ds, integer = d :: ds ∧ d.isDigit = true := by
  rcases h with rfl | ⟨d, ds, rfl, hdigit, -, -⟩
  · exact ⟨'0', [], rfl, by decide⟩
  · exact ⟨d, ds, rfl, hdigit⟩

theorem readSign_append {sign integer rest : List Char} (h : IsSign sign) (hinteger : IsInteger integer) :
    readSign (sign ++ (integer ++ rest)) = (sign, integer ++ rest) := by
  rcases h with rfl | rfl
  · obtain ⟨d, ds, rfl, hdigit⟩ := hinteger.head
    rw [List.nil_append, List.cons_append]
    unfold readSign
    split
    next heq =>
      cases heq
      exact absurd hdigit (by decide)
    next => rfl
  · rfl

/-- A number is read to its end. -/
theorem readNumber_append {token rest : List Char} {isInteger : Bool} (h : NumberText token isInteger)
    (hrest : AfterValue rest) : readNumber (token ++ rest) = some (token, isInteger, rest) := by
  obtain ⟨sign, integer, fraction, exponent, rfl, hsign, hinteger, hfraction, hexponent, rfl⟩ := h
  have hsplit : sign ++ (integer ++ (fraction ++ exponent)) ++ rest
      = sign ++ (integer ++ (fraction ++ (exponent ++ rest))) := by
    simp only [List.append_assoc]
  unfold readNumber
  rw [hsplit, readSign_append hsign hinteger]
  dsimp only
  rw [readInteger_append hinteger (ends_fraction hfraction hexponent hrest)]
  simp only [Option.map_some, readFraction_append hfraction hexponent hrest, readExponent_append hexponent hrest]

/-! ## Values -/

/-- Blanks only. -/
def IsBlanks (text : List Char) : Prop := ∀ c ∈ text, isBlank c = true

/-- The words of the grammar. The last three are not of RFC 8259. -/
def literals : List (List Char × Tree) :=
  [(['n', 'u', 'l', 'l'], .null), (['t', 'r', 'u', 'e'], .bool true), (['f', 'a', 'l', 's', 'e'], .bool false),
    (['N', 'a', 'N'], .constant "NaN"), (['I', 'n', 'f', 'i', 'n', 'i', 't', 'y'], .constant "Infinity"),
    (['-', 'I', 'n', 'f', 'i', 'n', 'i', 't', 'y'], .constant "-Infinity")]

/-- A string with its quotes, and its code points. -/
def QuotedText (us : List ℕ) (text : List Char) : Prop :=
  ∃ body units, StringText body units ∧ us = joinPairs units ∧ text = '"' :: (body ++ ['"'])

mutual

/-- The texts that write a tree. -/
inductive ValueText : Tree → List Char → Prop
  | literal {text : List Char} {t : Tree} : (text, t) ∈ literals → ValueText t text
  | number {token : List Char} {isInteger : Bool} : NumberText token isInteger →
      ValueText (.number token isInteger) token
  | string {us : List ℕ} {text : List Char} : QuotedText us text → ValueText (.string us) text
  | emptyArray {blanks : List Char} : IsBlanks blanks → ValueText (.array []) ('[' :: (blanks ++ [']']))
  | array {blanks inner : List Char} {ts : List Tree} : IsBlanks blanks → ItemsText ts inner →
      ValueText (.array ts) ('[' :: (blanks ++ inner))
  | emptyObject {blanks : List Char} : IsBlanks blanks → ValueText (.object []) ('{' :: (blanks ++ ['}']))
  | object {blanks inner : List Char} {ms : List (List ℕ × Tree)} : IsBlanks blanks → MembersText ms inner →
      ValueText (.object ms) ('{' :: (blanks ++ inner))

/-- The texts that write one item or more, to the end of the array. -/
inductive ItemsText : List Tree → List Char → Prop
  | last {t : Tree} {value blanks : List Char} : ValueText t value → IsBlanks blanks →
      ItemsText [t] (value ++ (blanks ++ [']']))
  | more {t : Tree} {ts : List Tree} {value blanks blanks' rest : List Char} : ValueText t value → IsBlanks blanks →
      IsBlanks blanks' → ItemsText ts rest → ItemsText (t :: ts) (value ++ (blanks ++ ',' :: (blanks' ++ rest)))

/-- The texts that write one member or more, to the end of the object. -/
inductive MembersText : List (List ℕ × Tree) → List Char → Prop
  | last {us : List ℕ} {t : Tree} {name before after value blanks : List Char} : QuotedText us name →
      IsBlanks before → IsBlanks after → ValueText t value → IsBlanks blanks →
      MembersText [(us, t)] (name ++ (before ++ ':' :: (after ++ (value ++ (blanks ++ ['}'])))))
  | more {us : List ℕ} {t : Tree} {ms : List (List ℕ × Tree)}
      {name before after value blanks blanks' rest : List Char} : QuotedText us name →
      IsBlanks before → IsBlanks after → ValueText t value → IsBlanks blanks → IsBlanks blanks' →
      MembersText ms rest →
      MembersText ((us, t) :: ms)
        (name ++ (before ++ ':' :: (after ++ (value ++ (blanks ++ ',' :: (blanks' ++ rest))))))

end

/-- A whole text: one value, with blanks around it. -/
def DocumentText (t : Tree) (text : List Char) : Prop :=
  ∃ before value after, text = before ++ (value ++ after) ∧ IsBlanks before ∧ ValueText t value ∧ IsBlanks after

/-! ## The parser -/

/-- The word at the start of a text. -/
def readLiteral (text : List Char) : Option (Tree × List Char) :=
  literals.findSome? fun entry => (text.dropPrefix? entry.1).map fun rest => (entry.2, rest)

mutual

/-- The value at the start of a text. -/
def readValue : ℕ → List Char → Option (Tree × List Char)
  | 0, _ => none
  | _ + 1, [] => none
  | fuel + 1, c :: rest =>
    if c = '"' then (readString rest).map fun read => (.string (joinPairs read.1), read.2)
    else if c = '[' then
      match skip rest with
      | ']' :: rest => some (.array [], rest)
      | inner => (readItems fuel inner).map fun read => (.array read.1, read.2)
    else if c = '{' then
      match skip rest with
      | '}' :: rest => some (.object [], rest)
      | inner => (readMembers fuel inner).map fun read => (.object read.1, read.2)
    else
      match readLiteral (c :: rest) with
      | some read => some read
      | none => (readNumber (c :: rest)).map fun read => (.number read.1 read.2.1, read.2.2)

/-- The items at the start of a text, to the end of the array. -/
def readItems : ℕ → List Char → Option (List Tree × List Char)
  | 0, _ => none
  | fuel + 1, text =>
    (readValue fuel text).bind fun value =>
      match skip value.2 with
      | ']' :: rest => some ([value.1], rest)
      | ',' :: rest => (readItems fuel (skip rest)).map fun read => (value.1 :: read.1, read.2)
      | _ => none

/-- The members at the start of a text, to the end of the object. -/
def readMembers : ℕ → List Char → Option (List (List ℕ × Tree) × List Char)
  | 0, _ => none
  | fuel + 1, '"' :: text =>
    (readString text).bind fun name =>
      match skip name.2 with
      | ':' :: rest =>
        (readValue fuel (skip rest)).bind fun value =>
          match skip value.2 with
          | '}' :: rest => some ([(joinPairs name.1, value.1)], rest)
          | ',' :: rest =>
            (readMembers fuel (skip rest)).map fun read => ((joinPairs name.1, value.1) :: read.1, read.2)
          | _ => none
      | _ => none
  | _ + 1, _ => none

end

/-- The tree that a text writes. -/
def parse (text : List Char) : Option Tree :=
  (readValue (2 * text.length + 1) (skip text)).bind fun read => if skip read.2 = [] then some read.1 else none

/-! ## The parser reads the grammar -/

theorem skip_spec (text : List Char) : ∃ blanks, IsBlanks blanks ∧ text = blanks ++ skip text :=
  ⟨text.takeWhile isBlank, fun _ hc => List.mem_takeWhile_imp hc, List.takeWhile_append_dropWhile.symm⟩

theorem skip_append {blanks rest : List Char} (h : IsBlanks blanks) (hrest : Ends (isBlank · = true) rest) :
    skip (blanks ++ rest) = rest := by
  unfold skip
  rw [List.dropWhile_append_of_pos h]
  cases rest with
  | nil => rfl
  | cons c cs => exact List.dropWhile_cons_of_neg (hrest c cs rfl)

theorem ends_cons {stop : Char → Prop} {c : Char} {cs : List Char} (h : ¬stop c) : Ends stop (c :: cs) := by
  rintro d ds heq
  cases heq
  exact h

/-- How a value starts. -/
def starts (c : Char) : Bool :=
  c = '"' || c = '[' || c = '{' || c = 'n' || c = 't' || c = 'f' || c = 'N' || c = 'I' || c = '-' || c.isDigit

theorem NumberText.head {token : List Char} {isInteger : Bool} (h : NumberText token isInteger) :
    ∃ c cs, token = c :: cs ∧ (c.isDigit = true ∨ c = '-' ∧ ∃ d ds, cs = d :: ds ∧ d.isDigit = true) := by
  obtain ⟨sign, integer, fraction, exponent, rfl, hsign, hinteger, -⟩ := h
  obtain ⟨d, ds, rfl, hd⟩ := hinteger.head
  rcases hsign with rfl | rfl
  · exact ⟨d, _, rfl, .inl hd⟩
  · exact ⟨'-', _, rfl, .inr ⟨rfl, d, _, rfl, hd⟩⟩

theorem ValueText.head {t : Tree} {text : List Char} (h : ValueText t text) :
    ∃ c cs, text = c :: cs ∧ starts c = true := by
  cases h with
  | literal hmem =>
    simp only [literals, List.mem_cons, Prod.mk.injEq, List.not_mem_nil, or_false] at hmem
    rcases hmem with ⟨rfl, -⟩ | ⟨rfl, -⟩ | ⟨rfl, -⟩ | ⟨rfl, -⟩ | ⟨rfl, -⟩ | ⟨rfl, -⟩ <;> exact ⟨_, _, rfl, by decide⟩
  | number hnumber =>
    obtain ⟨c, cs, rfl, hc⟩ := hnumber.head
    refine ⟨c, cs, rfl, ?_⟩
    unfold starts
    rcases hc with hc | ⟨rfl, -⟩
    · rw [hc, Bool.or_true]
    · rfl
  | string hquoted =>
    obtain ⟨body, units, -, -, rfl⟩ := hquoted
    exact ⟨_, _, rfl, by decide⟩
  | emptyArray _ => exact ⟨_, _, rfl, by decide⟩
  | array _ _ => exact ⟨_, _, rfl, by decide⟩
  | emptyObject _ => exact ⟨_, _, rfl, by decide⟩
  | object _ _ => exact ⟨_, _, rfl, by decide⟩

/-- A value does not start with a blank, a comma or a closing bracket. -/
theorem ends_of_starts {c : Char} (h : starts c = true) :
    isBlank c = false ∧ c ≠ ',' ∧ c ≠ ']' ∧ c ≠ '}' := by
  refine ⟨?_, ?_, ?_, ?_⟩
  · by_contra hblank
    rcases isBlank_iff.mp (by simpa using hblank) with rfl | rfl | rfl | rfl <;> exact absurd h (by decide)
  all_goals
    rintro rfl
    exact absurd h (by decide)

theorem ValueText.ends {t : Tree} {text : List Char} (h : ValueText t text) (rest : List Char) :
    Ends (fun c => isBlank c = true ∨ c = ',' ∨ c = ']' ∨ c = '}') (text ++ rest) := by
  obtain ⟨c, cs, rfl, hc⟩ := h.head
  obtain ⟨hblank, hcomma, hbracket, hbrace⟩ := ends_of_starts hc
  rw [List.cons_append]
  refine ends_cons ?_
  rintro (h | h | h | h)
  · rw [hblank] at h
    cases h
  · exact hcomma h
  · exact hbracket h
  · exact hbrace h

theorem Ends.mono {stop stop' : Char → Prop} {rest : List Char} (h : Ends stop rest) (hle : ∀ c, stop' c → stop c) :
    Ends stop' rest := fun c cs heq hc => h c cs heq (hle c hc)

theorem ItemsText.ends {ts : List Tree} {text : List Char} (h : ItemsText ts text) (rest : List Char) :
    Ends (fun c => isBlank c = true ∨ c = ',' ∨ c = ']' ∨ c = '}') (text ++ rest) := by
  cases h with
  | last hvalue _ =>
    rw [List.append_assoc]
    exact hvalue.ends _
  | more hvalue _ _ _ =>
    rw [List.append_assoc]
    exact hvalue.ends _

theorem MembersText.head {ms : List (List ℕ × Tree)} {text : List Char} (h : MembersText ms text) :
    ∃ rest, text = '"' :: rest := by
  cases h with
  | last hname _ _ _ _ =>
    obtain ⟨body, units, -, -, rfl⟩ := hname
    exact ⟨_, rfl⟩
  | more hname _ _ _ _ _ _ =>
    obtain ⟨body, units, -, -, rfl⟩ := hname
    exact ⟨_, rfl⟩

theorem readLiteral_spec {text rest : List Char} {t : Tree} (h : readLiteral text = some (t, rest)) :
    ∃ word, (word, t) ∈ literals ∧ text = word ++ rest := by
  obtain ⟨⟨word, t'⟩, hmem, hfound⟩ := List.exists_of_findSome?_eq_some h
  obtain ⟨rest', hprefix, heq⟩ := Option.map_eq_some_iff.mp hfound
  cases heq
  obtain ⟨front, hfront, hword⟩ := List.dropPrefix?_eq_some_iff.mp hprefix
  have hwords : front = word := eq_of_beq hword
  exact ⟨word, hmem, by rw [hfront, hwords]⟩

theorem readLiteral_word {word : List Char} {t : Tree} (h : (word, t) ∈ literals) (rest : List Char) :
    readLiteral (word ++ rest) = some (t, rest) := by
  simp only [literals, List.mem_cons, Prod.mk.injEq, List.not_mem_nil, or_false] at h
  rcases h with ⟨rfl, rfl⟩ | ⟨rfl, rfl⟩ | ⟨rfl, rfl⟩ | ⟨rfl, rfl⟩ | ⟨rfl, rfl⟩ | ⟨rfl, rfl⟩ <;>
    simp [readLiteral, literals, List.dropPrefix?]

/-- How a word starts. -/
theorem literals_head {word : List Char} {t : Tree} (h : (word, t) ∈ literals) :
    ∃ c cs, word = c :: cs ∧ (c.isDigit = false ∧ c ≠ '-' ∨ c = '-' ∧ ∃ ds, cs = 'I' :: ds) := by
  simp only [literals, List.mem_cons, Prod.mk.injEq, List.not_mem_nil, or_false] at h
  rcases h with ⟨rfl, -⟩ | ⟨rfl, -⟩ | ⟨rfl, -⟩ | ⟨rfl, -⟩ | ⟨rfl, -⟩ | ⟨rfl, -⟩
  · exact ⟨_, _, rfl, .inl (by decide)⟩
  · exact ⟨_, _, rfl, .inl (by decide)⟩
  · exact ⟨_, _, rfl, .inl (by decide)⟩
  · exact ⟨_, _, rfl, .inl (by decide)⟩
  · exact ⟨_, _, rfl, .inl (by decide)⟩
  · exact ⟨_, _, rfl, .inr ⟨rfl, _, rfl⟩⟩

/-- No number starts like a word. -/
theorem readLiteral_number {token : List Char} {isInteger : Bool} (h : NumberText token isInteger) (rest : List Char) :
    readLiteral (token ++ rest) = none := by
  cases hread : readLiteral (token ++ rest) with
  | none => rfl
  | some read =>
    obtain ⟨word, hmem, heq⟩ := readLiteral_spec hread
    obtain ⟨c, cs, rfl, hc⟩ := h.head
    obtain ⟨w, ws, rfl, hw⟩ := literals_head hmem
    rw [List.cons_append, List.cons_append] at heq
    obtain ⟨rfl, htail⟩ := List.cons.inj heq
    rcases hc with hdigit | ⟨rfl, d, ds, rfl, hd⟩
    · rcases hw with ⟨hnot, -⟩ | ⟨rfl, -⟩
      · rw [hdigit] at hnot
        cases hnot
      · exact absurd hdigit (by decide)
    · rcases hw with ⟨-, hne⟩ | ⟨-, es, rfl⟩
      · exact absurd rfl hne
      · rw [List.cons_append, List.cons_append] at htail
        obtain ⟨rfl, -⟩ := List.cons.inj htail
        exact absurd hd (by decide)

/-- What is read is a text of the grammar, and the rest of the text is left. -/
theorem read_sound (fuel : ℕ) :
    (∀ {text t rest}, readValue fuel text = some (t, rest) → ∃ value, ValueText t value ∧ text = value ++ rest)
    ∧ (∀ {text ts rest}, readItems fuel text = some (ts, rest) → ∃ items, ItemsText ts items ∧ text = items ++ rest)
    ∧ ∀ {text ms rest}, readMembers fuel text = some (ms, rest) →
        ∃ members, MembersText ms members ∧ text = members ++ rest := by
  induction fuel with
  | zero =>
    refine ⟨fun h => ?_, fun h => ?_, fun h => ?_⟩
    · rw [readValue] at h
      cases h
    · rw [readItems] at h
      cases h
    · rw [readMembers] at h
      cases h
  | succ fuel ih =>
    obtain ⟨ihValue, ihItems, ihMembers⟩ := ih
    refine ⟨fun {text t rest} h => ?_, fun {text ts rest} h => ?_, fun {text ms rest} h => ?_⟩
    · cases text with
      | nil =>
        rw [readValue] at h
        cases h
      | cons c text =>
        rw [readValue] at h
        split at h
        next hquote =>
          obtain ⟨⟨us, rest'⟩, hread, heq⟩ := Option.map_eq_some_iff.mp h
          cases heq
          obtain ⟨body, hbody, rfl⟩ := readString_eq_some hread
          refine ⟨_, .string ⟨body, us, hbody, rfl, rfl⟩, ?_⟩
          rw [hquote, List.cons_append, List.append_assoc]
          rfl
        next =>
        obtain ⟨blanks, hblanks, hskip⟩ := skip_spec text
        split at h
        next hbracket =>
          split at h
          next rest' hclosed =>
            cases h
            refine ⟨_, .emptyArray hblanks, ?_⟩
            rw [hbracket, hskip, hclosed, List.cons_append, List.append_assoc]
            rfl
          next inner _ =>
            obtain ⟨⟨ts, rest'⟩, hread, heq⟩ := Option.map_eq_some_iff.mp h
            cases heq
            obtain ⟨items, hitems, hinner⟩ := ihItems hread
            refine ⟨_, .array hblanks hitems, ?_⟩
            rw [hbracket, hskip, hinner, List.cons_append, List.append_assoc]
        next =>
        split at h
        next hbrace =>
          split at h
          next rest' hclosed =>
            cases h
            refine ⟨_, .emptyObject hblanks, ?_⟩
            rw [hbrace, hskip, hclosed, List.cons_append, List.append_assoc]
            rfl
          next inner _ =>
            obtain ⟨⟨ms, rest'⟩, hread, heq⟩ := Option.map_eq_some_iff.mp h
            cases heq
            obtain ⟨members, hmembers, hinner⟩ := ihMembers hread
            refine ⟨_, .object hblanks hmembers, ?_⟩
            rw [hbrace, hskip, hinner, List.cons_append, List.append_assoc]
        next =>
        split at h
        next read hread =>
          cases h
          obtain ⟨word, hmem, heq⟩ := readLiteral_spec hread
          exact ⟨word, .literal hmem, heq⟩
        next =>
          obtain ⟨⟨token, isInteger, rest'⟩, hread, heq⟩ := Option.map_eq_some_iff.mp h
          cases heq
          obtain ⟨hnumber, heq⟩ := readNumber_spec hread
          exact ⟨token, .number hnumber, heq⟩
    · rw [readItems] at h
      obtain ⟨⟨t, after⟩, hread, hnext⟩ := Option.bind_eq_some_iff.mp h
      obtain ⟨value, hvalue, rfl⟩ := ihValue hread
      obtain ⟨blanks, hblanks, hskip⟩ := skip_spec after
      dsimp only at hnext
      split at hnext
      next rest' hclosed =>
        cases hnext
        refine ⟨_, .last hvalue hblanks, ?_⟩
        rw [hskip, hclosed, List.append_assoc, List.append_assoc]
        rfl
      next rest' hcomma =>
        obtain ⟨⟨ts, rest''⟩, hmore, heq⟩ := Option.map_eq_some_iff.mp hnext
        cases heq
        obtain ⟨items, hitems, hafter⟩ := ihItems hmore
        obtain ⟨blanks', hblanks', hskip'⟩ := skip_spec rest'
        refine ⟨_, .more hvalue hblanks hblanks' hitems, ?_⟩
        rw [hskip, hcomma, hskip', hafter]
        simp only [List.append_assoc, List.cons_append]
      next => cases hnext
    · cases text with
      | nil =>
        rw [readMembers] at h
        · cases h
        · rintro _ heq
          cases heq
      | cons c text =>
        by_cases hc : c = '"'
        · subst hc
          rw [readMembers] at h
          obtain ⟨⟨us, afterName⟩, hread, hnext⟩ := Option.bind_eq_some_iff.mp h
          obtain ⟨body, hbody, rfl⟩ := readString_eq_some hread
          have hname : QuotedText (joinPairs us) ('"' :: (body ++ ['"'])) := ⟨body, us, hbody, rfl, rfl⟩
          obtain ⟨before, hbefore, hskip⟩ := skip_spec afterName
          dsimp only at hnext
          split at hnext
          next afterColon hcolon =>
            obtain ⟨⟨t, afterValue⟩, hvalueRead, hlast⟩ := Option.bind_eq_some_iff.mp hnext
            obtain ⟨value, hvalue, hvalueEq⟩ := ihValue hvalueRead
            obtain ⟨after, hafter, hskipAfter⟩ := skip_spec afterColon
            obtain ⟨blanks, hblanks, hskipValue⟩ := skip_spec afterValue
            dsimp only at hlast
            split at hlast
            next rest' hclosed =>
              cases hlast
              refine ⟨_, .last hname hbefore hafter hvalue hblanks, ?_⟩
              rw [hskip, hcolon, hskipAfter, hvalueEq, hskipValue, hclosed]
              simp only [List.append_assoc, List.cons_append, List.nil_append]
            next rest' hcomma =>
              obtain ⟨⟨ms, rest''⟩, hmore, heq⟩ := Option.map_eq_some_iff.mp hlast
              cases heq
              obtain ⟨members, hmembers, hrest⟩ := ihMembers hmore
              obtain ⟨blanks', hblanks', hskip'⟩ := skip_spec rest'
              refine ⟨_, .more hname hbefore hafter hvalue hblanks hblanks' hmembers, ?_⟩
              rw [hskip, hcolon, hskipAfter, hvalueEq, hskipValue, hcomma, hskip', hrest]
              simp only [List.append_assoc, List.cons_append, List.nil_append]
            next => cases hlast
          next => cases hnext
        · rw [readMembers] at h
          · cases h
          · rintro _ heq
            cases heq
            exact hc rfl

/-- A quoted string is read to its closing quote. -/
theorem readString_quoted {us : List ℕ} {text : List Char} (h : QuotedText us text) (rest : List Char) :
    ∃ body units, text ++ rest = '"' :: body ∧ readString body = some (units, rest) ∧ us = joinPairs units := by
  obtain ⟨body, units, hbody, hjoin, rfl⟩ := h
  refine ⟨body ++ '"' :: rest, units, ?_, readString_of_stringText hbody rest, hjoin⟩
  rw [List.cons_append, List.append_assoc]
  rfl

/-- A closing bracket or a comma is no blank. -/
theorem ends_blank_cons {c : Char} {cs : List Char} (h : isBlank c = false) : Ends (isBlank · = true) (c :: cs) :=
  ends_cons (by rw [h]; decide)

theorem follows_cons {c : Char} {cs : List Char} (hc : isBlank c = true ∨ c = ',' ∨ c = ']' ∨ c = '}') :
    AfterValue (c :: cs) := by
  rintro d ds heq
  cases heq
  exact hc

theorem follows_blanks {blanks : List Char} {c : Char} {cs : List Char} (h : IsBlanks blanks)
    (hc : c = ',' ∨ c = ']' ∨ c = '}') : AfterValue (blanks ++ c :: cs) := by
  cases blanks with
  | nil => exact follows_cons (.inr hc)
  | cons b bs => exact follows_cons (.inl (h b List.mem_cons_self))

/-- A text of the grammar is read whole, if no more of it could be a number. -/
theorem read_complete (fuel : ℕ) :
    (∀ {t text rest}, ValueText t text → 2 * text.length + 1 ≤ fuel → AfterValue rest →
      readValue fuel (text ++ rest) = some (t, rest))
    ∧ (∀ {ts text rest}, ItemsText ts text → 2 * text.length ≤ fuel →
      readItems fuel (text ++ rest) = some (ts, rest))
    ∧ ∀ {ms text rest}, MembersText ms text → 2 * text.length ≤ fuel →
      readMembers fuel (text ++ rest) = some (ms, rest) := by
  induction fuel with
  | zero =>
    refine ⟨fun _ hfuel => by omega, fun {ts text rest} h hfuel => ?_, fun {ms text rest} h hfuel => ?_⟩
    · cases h with
      | last _ _ =>
        simp only [List.length_append, List.length_cons] at hfuel
        omega
      | more _ _ _ _ =>
        simp only [List.length_append, List.length_cons] at hfuel
        omega
    · obtain ⟨tail, rfl⟩ := h.head
      rw [List.length_cons] at hfuel
      omega
  | succ fuel ih =>
    obtain ⟨ihValue, ihItems, ihMembers⟩ := ih
    refine ⟨fun {t text rest} h hfuel hrest => ?_, fun {ts text rest} h hfuel => ?_, fun {ms text rest} h hfuel => ?_⟩
    · cases h with
      | literal hmem =>
        obtain ⟨c, cs, rfl, hc⟩ := literals_head hmem
        have hword := readLiteral_word hmem rest
        rw [List.cons_append] at hword ⊢
        have hne : c ≠ '"' ∧ c ≠ '[' ∧ c ≠ '{' := by
          simp only [literals, List.mem_cons, Prod.mk.injEq, List.cons.injEq, List.not_mem_nil, or_false] at hmem
          rcases hmem with ⟨⟨rfl, -⟩, -⟩ | ⟨⟨rfl, -⟩, -⟩ | ⟨⟨rfl, -⟩, -⟩ | ⟨⟨rfl, -⟩, -⟩ | ⟨⟨rfl, -⟩, -⟩
            | ⟨⟨rfl, -⟩, -⟩ <;> decide
        rw [readValue, if_neg hne.1, if_neg hne.2.1, if_neg hne.2.2, hword]
      | number hnumber =>
        obtain ⟨c, cs, rfl, hc⟩ := hnumber.head
        have hliteral := readLiteral_number hnumber rest
        have hread := readNumber_append hnumber hrest
        have hne : c ≠ '"' ∧ c ≠ '[' ∧ c ≠ '{' := by
          refine ⟨?_, ?_, ?_⟩ <;>
            (rintro rfl; rcases hc with hc | ⟨hc, -⟩ <;> exact absurd hc (by decide))
        rw [List.cons_append] at hliteral hread ⊢
        rw [readValue, if_neg hne.1, if_neg hne.2.1, if_neg hne.2.2, hliteral]
        dsimp only
        rw [hread]
        rfl
      | string hquoted =>
        obtain ⟨body, units, hbody, hread, rfl⟩ := readString_quoted hquoted rest
        rw [hbody, readValue, if_pos rfl, hread]
        rfl
      | @emptyArray blanks hblanks =>
        have hskip : skip (blanks ++ ']' :: rest) = ']' :: rest := skip_append hblanks (ends_blank_cons (by decide))
        rw [List.cons_append, List.append_assoc, List.cons_append, List.nil_append, readValue, if_neg (by decide),
          if_pos rfl, hskip]
        rfl
      | @array blanks inner ts hblanks hitems =>
        have hinner := hitems.ends rest
        have hskip := skip_append hblanks (hinner.mono fun _ hc => .inl hc)
        rw [List.length_cons, List.length_append] at hfuel
        rw [List.cons_append, List.append_assoc, readValue, if_neg (by decide), if_pos rfl, hskip]
        split
        next rest' heq => exact absurd (.inr (.inr (.inl rfl))) (hinner _ _ heq)
        next => rw [ihItems hitems (by omega)]; rfl
      | @emptyObject blanks hblanks =>
        have hskip : skip (blanks ++ '}' :: rest) = '}' :: rest := skip_append hblanks (ends_blank_cons (by decide))
        rw [List.cons_append, List.append_assoc, List.cons_append, List.nil_append, readValue, if_neg (by decide),
          if_neg (by decide), if_pos rfl, hskip]
        rfl
      | @object blanks inner ms hblanks hmembers =>
        obtain ⟨tail, hhead⟩ := hmembers.head
        have hskip : skip (blanks ++ (inner ++ rest)) = inner ++ rest :=
          skip_append hblanks (by rw [hhead]; exact ends_blank_cons (by decide))
        rw [List.length_cons, List.length_append] at hfuel
        rw [List.cons_append, List.append_assoc, readValue, if_neg (by decide), if_neg (by decide), if_pos rfl, hskip]
        split
        next rest' heq =>
          rw [hhead] at heq
          cases heq
        next => rw [ihMembers hmembers (by omega)]; rfl
    · cases h with
      | @last t value blanks hvalue hblanks =>
        simp only [List.length_append, List.length_cons, List.length_nil] at hfuel
        have hskip : skip (blanks ++ ']' :: rest) = ']' :: rest := skip_append hblanks (ends_blank_cons (by decide))
        have hread : readValue fuel (value ++ (blanks ++ ']' :: rest)) = some (t, blanks ++ ']' :: rest) :=
          ihValue hvalue (by omega) (follows_blanks hblanks (.inr (.inl rfl)))
        rw [List.append_assoc, List.append_assoc, List.cons_append, List.nil_append, readItems, hread, Option.bind_some]
        dsimp only
        rw [hskip]
        rfl
      | @more t ts value blanks blanks' more hvalue hblanks hblanks' hitems =>
        simp only [List.length_append, List.length_cons] at hfuel
        have hskip : skip (blanks ++ ',' :: (blanks' ++ (more ++ rest))) = ',' :: (blanks' ++ (more ++ rest)) :=
          skip_append hblanks (ends_blank_cons (by decide))
        have hskip' := skip_append hblanks' ((hitems.ends rest).mono fun _ hc => .inl hc)
        have hread : readValue fuel (value ++ (blanks ++ ',' :: (blanks' ++ (more ++ rest))))
            = some (t, blanks ++ ',' :: (blanks' ++ (more ++ rest))) :=
          ihValue hvalue (by omega) (follows_blanks hblanks (.inl rfl))
        simp only [List.append_assoc, List.cons_append]
        rw [readItems, hread, Option.bind_some]
        dsimp only
        rw [hskip]
        show (readItems fuel (skip (blanks' ++ (more ++ rest)))).map _ = _
        rw [hskip', ihItems hitems (by omega)]
        rfl
    · cases h with
      | @last us t name before after value blanks hname hbefore hafter hvalue hblanks =>
        simp only [List.length_append, List.length_cons, List.length_nil] at hfuel
        obtain ⟨body, units, hbody, hread, rfl⟩ := readString_quoted hname
          (before ++ ':' :: (after ++ (value ++ (blanks ++ '}' :: rest))))
        have hskip : skip (before ++ ':' :: (after ++ (value ++ (blanks ++ '}' :: rest))))
            = ':' :: (after ++ (value ++ (blanks ++ '}' :: rest))) :=
          skip_append hbefore (ends_blank_cons (by decide))
        have hskipAfter := skip_append hafter
          ((hvalue.ends (blanks ++ '}' :: rest)).mono fun _ hc => .inl hc)
        have hskipEnd : skip (blanks ++ '}' :: rest) = '}' :: rest := skip_append hblanks (ends_blank_cons (by decide))
        have hvalueRead : readValue fuel (value ++ (blanks ++ '}' :: rest)) = some (t, blanks ++ '}' :: rest) :=
          ihValue hvalue (by omega) (follows_blanks hblanks (.inr (.inr rfl)))
        simp only [List.append_assoc, List.cons_append, List.nil_append]
        rw [hbody, readMembers, hread, Option.bind_some]
        dsimp only
        rw [hskip]
        show (readValue fuel (skip (after ++ (value ++ (blanks ++ '}' :: rest))))).bind _ = _
        rw [hskipAfter, hvalueRead, Option.bind_some]
        dsimp only
        rw [hskipEnd]
        rfl
      | @more us t ms name before after value blanks blanks' more hname hbefore hafter hvalue hblanks hblanks'
          hmembers =>
        simp only [List.length_append, List.length_cons] at hfuel
        obtain ⟨body, units, hbody, hread, rfl⟩ := readString_quoted hname
          (before ++ ':' :: (after ++ (value ++ (blanks ++ ',' :: (blanks' ++ (more ++ rest))))))
        have hskip : skip (before ++ ':' :: (after ++ (value ++ (blanks ++ ',' :: (blanks' ++ (more ++ rest))))))
            = ':' :: (after ++ (value ++ (blanks ++ ',' :: (blanks' ++ (more ++ rest))))) :=
          skip_append hbefore (ends_blank_cons (by decide))
        have hskipAfter := skip_append hafter
          ((hvalue.ends (blanks ++ ',' :: (blanks' ++ (more ++ rest)))).mono fun _ hc => .inl hc)
        have hskipEnd : skip (blanks ++ ',' :: (blanks' ++ (more ++ rest))) = ',' :: (blanks' ++ (more ++ rest)) :=
          skip_append hblanks (ends_blank_cons (by decide))
        have hvalueRead : readValue fuel (value ++ (blanks ++ ',' :: (blanks' ++ (more ++ rest))))
            = some (t, blanks ++ ',' :: (blanks' ++ (more ++ rest))) :=
          ihValue hvalue (by omega) (follows_blanks hblanks (.inl rfl))
        obtain ⟨tail, hhead⟩ := hmembers.head
        have hskip' : skip (blanks' ++ (more ++ rest)) = more ++ rest :=
          skip_append hblanks' (by rw [hhead]; exact ends_blank_cons (by decide))
        simp only [List.append_assoc, List.cons_append]
        rw [hbody, readMembers, hread, Option.bind_some]
        dsimp only
        rw [hskip]
        show (readValue fuel (skip (after ++ (value ++ (blanks ++ ',' :: (blanks' ++ (more ++ rest))))))).bind _ = _
        rw [hskipAfter, hvalueRead, Option.bind_some]
        dsimp only
        rw [hskipEnd]
        show (readMembers fuel (skip (blanks' ++ (more ++ rest)))).map _ = _
        rw [hskip', ihMembers hmembers (by omega)]
        rfl

/-- The parser reads the texts of the grammar, each as its tree, and no others. -/
theorem parse_eq_some {text : List Char} {t : Tree} : parse text = some t ↔ DocumentText t text := by
  unfold parse
  constructor
  · intro h
    obtain ⟨⟨t', after⟩, hread, hend⟩ := Option.bind_eq_some_iff.mp h
    split at hend
    next hskip =>
      cases hend
      obtain ⟨before, hbefore, htext⟩ := skip_spec text
      obtain ⟨value, hvalue, hrest⟩ := (read_sound _).1 hread
      obtain ⟨blanks, hblanks, hafter⟩ := skip_spec after
      refine ⟨before, value, after, by rw [htext, hrest], hbefore, hvalue, ?_⟩
      dsimp only at hskip
      rw [hafter, hskip, List.append_nil]
      exact hblanks
    next => cases hend
  · rintro ⟨before, value, after, rfl, hbefore, hvalue, hafter⟩
    have hfollows : AfterValue after := by
      rintro c cs rfl
      exact .inl (hafter c List.mem_cons_self)
    have hskip := skip_append hbefore ((hvalue.ends (after)).mono fun _ hc => .inl hc)
    have hend : skip after = [] := by
      have hnil : Ends (isBlank · = true) [] := by
        rintro c cs heq
        cases heq
      simpa using skip_append hafter hnil
    rw [hskip, (read_complete _).1 hvalue ?_ hfollows, Option.bind_some, if_pos hend]
    simp only [List.length_append]
    omega

/-! ## The inside of a tree -/

namespace Tree

/-- The tree and every tree inside it. -/
def parts : Tree → List Tree
  | .array ts => .array ts :: partsOfList ts
  | .object ms => .object ms :: partsOfMembers ms
  | t => [t]
where
  /-- `parts` of the items of an array. -/
  partsOfList : List Tree → List Tree
    | [] => []
    | t :: ts => parts t ++ partsOfList ts
  /-- `parts` of the values of an object. -/
  partsOfMembers : List (List ℕ × Tree) → List Tree
    | [] => []
    | m :: ms => parts m.2 ++ partsOfMembers ms

/-- How many arrays and objects are around the innermost part. -/
def depth : Tree → ℕ
  | .array ts => 1 + depthOfList ts
  | .object ms => 1 + depthOfMembers ms
  | _ => 0
where
  /-- The greatest `depth` of the items of an array. -/
  depthOfList : List Tree → ℕ
    | [] => 0
    | t :: ts => max (depth t) (depthOfList ts)
  /-- The greatest `depth` of the values of an object. -/
  depthOfMembers : List (List ℕ × Tree) → ℕ
    | [] => 0
    | m :: ms => max (depth m.2) (depthOfMembers ms)

end Tree

/-! ## Hooks -/

/-- What the parser calls for each part of a text. -/
structure Hooks (ε β : Type) where
  null : β
  bool : Bool → β
  string : List ℕ → β
  array : List β → β
  object : List (List ℕ × β) → Except ε β
  integer : List Char → Except ε β
  float : List Char → Except ε β
  constant : String → Except ε β

variable {ε β : Type}

/-- What the hooks make of a tree, from the inside out. -/
def buildTree (hooks : Hooks ε β) : Tree → Except ε β
  | .null => pure hooks.null
  | .bool b => pure (hooks.bool b)
  | .number token isInteger => if isInteger then hooks.integer token else hooks.float token
  | .constant name => hooks.constant name
  | .string us => pure (hooks.string us)
  | .array ts => hooks.array <$> buildList ts
  | .object ms => buildMembers ms >>= hooks.object
where
  /-- `buildTree` of the items of an array. -/
  buildList : List Tree → Except ε (List β)
    | [] => pure []
    | t :: ts => do
      let item ← buildTree hooks t
      let items ← buildList ts
      return item :: items
  /-- `buildTree` of the values of an object. -/
  buildMembers : List (List ℕ × Tree) → Except ε (List (List ℕ × β))
    | [] => pure []
    | m :: ms => do
      let value ← buildTree hooks m.2
      let members ← buildMembers ms
      return (m.1, value) :: members

/-- `json.loads` with hooks. -/
def loads (hooks : Hooks ε β) (syntaxError : ε) (text : List Char) : Except ε β :=
  match parse text with
  | none => .error syntaxError
  | some t => buildTree hooks t

/-- A value is what the hooks make of the tree that the text writes. -/
theorem loads_eq_ok {hooks : Hooks ε β} {syntaxError : ε} {text : List Char} {value : β} :
    loads hooks syntaxError text = .ok value ↔ ∃ t, DocumentText t text ∧ buildTree hooks t = .ok value := by
  unfold loads
  constructor
  · intro h
    split at h
    next => cases h
    next t hparse => exact ⟨t, parse_eq_some.mp hparse, h⟩
  · rintro ⟨t, htext, hbuild⟩
    rw [parse_eq_some.mpr htext]
    exact hbuild

end JsonText
