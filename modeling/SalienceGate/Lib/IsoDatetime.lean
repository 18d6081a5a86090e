import Mathlib.Data.String.Basic
import Mathlib.Tactic.SplitIfs

/-!
# Instants as ISO 8601 text

A `Datetime` is an instant in UTC by its fields, as Python holds it. Its text has fixed widths, a fraction only if there
are microseconds, and `Z` for the offset; reading a text of that form gives the instant back.
-/

/-! ## Fixed-width decimals -/

namespace Decimal

/-- The last `k` decimal digits of a number. -/
def digits : ℕ → ℕ → List Char
  | 0, _ => []
  | k + 1, n => digits k (n / 10) ++ [Nat.digitChar (n % 10)]

/-- So many digits at the start of a text, as a number, and the text after them. -/
def read (k : ℕ) (cs : List Char) : Option (ℕ × List Char) :=
  if (cs.take k).length = k ∧ (cs.take k).all Char.isDigit then some (Nat.ofDigitChars 10 (cs.take k) 0, cs.drop k)
  else none

@[simp] theorem length_digits (k n : ℕ) : (digits k n).length = k := by
  induction k generalizing n with
  | zero => rfl
  | succ k ih =>
    rw [digits, List.length_append, ih]
    rfl

theorem isDigit_digits (k n : ℕ) : ∀ c ∈ digits k n, c.isDigit = true := by
  induction k generalizing n with
  | zero => exact fun c hc => absurd hc List.not_mem_nil
  | succ k ih =>
    rw [digits]
    refine List.forall_mem_append.mpr ⟨ih (n / 10), List.forall_mem_singleton.mpr ?_⟩
    rw [Nat.isDigit_digitChar]
    exact decide_eq_true (Nat.mod_lt n (by decide))

/-- The digits of a number below `10^k` are the digits of that number. -/
theorem ofDigitChars_digits {k n : ℕ} (h : n < 10^k) : Nat.ofDigitChars 10 (digits k n) 0 = n := by
  induction k generalizing n with
  | zero =>
    have hzero : n = 0 := by omega
    rw [hzero]
    rfl
  | succ k ih =>
    have hlt : n / 10 < 10^k := by
      rw [Nat.pow_succ] at h
      exact Nat.div_lt_of_lt_mul (by omega)
    have hlast : n % 10 < 10 := Nat.mod_lt n (by decide)
    rw [digits, Nat.ofDigitChars_append, ih hlt, Nat.ofDigitChars_cons_digitChar_of_lt_ten hlast, Nat.ofDigitChars_nil]
    omega

/-- Digits are read back, whatever follows. -/
theorem read_digits {k n : ℕ} (h : n < 10^k) (rest : List Char) : read k (digits k n ++ rest) = some (n, rest) := by
  have htake : (digits k n ++ rest).take k = digits k n := List.take_left' (length_digits k n)
  have hdrop : (digits k n ++ rest).drop k = rest := List.drop_left' (length_digits k n)
  unfold read
  rw [htake, hdrop, if_pos ⟨length_digits k n, List.all_eq_true.mpr (isDigit_digits k n)⟩, ofDigitChars_digits h]

end Decimal

/-! ## Instants -/

/-- A leap year of the Gregorian calendar. -/
def isLeapYear (year : ℕ) : Bool := year % 4 = 0 && (year % 100 ≠ 0 || year % 400 = 0)

/-- The days of a month. -/
def daysInMonth (year month : ℕ) : ℕ :=
  if month = 2 then if isLeapYear year then 29 else 28
  else if month = 4 ∨ month = 6 ∨ month = 9 ∨ month = 11 then 30 else 31

/-- The fields of a Python `datetime` in UTC. -/
structure DatetimeFields where
  year : ℕ
  month : ℕ
  day : ℕ
  hour : ℕ
  minute : ℕ
  second : ℕ
  microsecond : ℕ
deriving DecidableEq

/-- Between `datetime.min` and `datetime.max`, and a day of the calendar. -/
def DatetimeFields.isValid (t : DatetimeFields) : Bool :=
  decide (1 ≤ t.year ∧ t.year ≤ 9999 ∧ 1 ≤ t.month ∧ t.month ≤ 12 ∧ 1 ≤ t.day ∧ t.day ≤ daysInMonth t.year t.month)
    && decide (t.hour < 24 ∧ t.minute < 60 ∧ t.second < 60 ∧ t.microsecond < 1000000)

/-- A Python `datetime` in UTC. -/
structure Datetime extends DatetimeFields where
  valid : toDatetimeFields.isValid = true
deriving DecidableEq

namespace Datetime

/-- The fraction of a second, if there is one. -/
def fraction (microsecond : ℕ) : List Char := if microsecond = 0 then [] else '.' :: Decimal.digits 6 microsecond

/-- The text of an instant. -/
def isoChars (t : DatetimeFields) : List Char :=
  Decimal.digits 4 t.year ++ '-' :: (Decimal.digits 2 t.month ++ '-' :: (Decimal.digits 2 t.day ++ 'T' ::
    (Decimal.digits 2 t.hour ++ ':' :: (Decimal.digits 2 t.minute ++ ':' :: (Decimal.digits 2 t.second ++
      (fraction t.microsecond ++ ['Z']))))))

/-- The text of an instant, as a string. -/
def isoText (t : Datetime) : String := String.ofList (isoChars t.toDatetimeFields)

/-- The text after a character. -/
def after (c : Char) : List Char → Option (List Char)
  | [] => none
  | d :: ds => if d = c then some ds else none

/-- A fraction at the start of a text, or none. -/
def readMicrosecond : List Char → Option (ℕ × List Char)
  | '.' :: cs => Decimal.read 6 cs
  | cs => some (0, cs)

/-- The fields that a text of this form says. -/
def readIso (cs : List Char) : Option DatetimeFields := do
  let (year, cs) ← Decimal.read 4 cs
  let cs ← after '-' cs
  let (month, cs) ← Decimal.read 2 cs
  let cs ← after '-' cs
  let (day, cs) ← Decimal.read 2 cs
  let cs ← after 'T' cs
  let (hour, cs) ← Decimal.read 2 cs
  let cs ← after ':' cs
  let (minute, cs) ← Decimal.read 2 cs
  let cs ← after ':' cs
  let (second, cs) ← Decimal.read 2 cs
  let (microsecond, cs) ← readMicrosecond cs
  let cs ← after 'Z' cs
  if cs = [] then some ⟨year, month, day, hour, minute, second, microsecond⟩ else none

/-- The instant that a text of this form says. -/
def ofIsoText (text : String) : Option Datetime :=
  (readIso text.toList).bind fun t => if h : t.isValid = true then some ⟨t, h⟩ else none

theorem after_cons (c : Char) (cs : List Char) : after c (c :: cs) = some cs := if_pos rfl

theorem readMicrosecond_fraction {n : ℕ} (h : n < 10^6) (rest : List Char) :
    readMicrosecond (fraction n ++ 'Z' :: rest) = some (n, 'Z' :: rest) := by
  unfold fraction
  split_ifs with hzero
  · rw [hzero]
    rfl
  · exact Decimal.read_digits h _

theorem lt_of_isValid {t : DatetimeFields} (h : t.isValid = true) : t.year < 10^4 ∧ t.month < 10^2 ∧ t.day < 10^2
    ∧ t.hour < 10^2 ∧ t.minute < 10^2 ∧ t.second < 10^2 ∧ t.microsecond < 10^6 := by
  unfold DatetimeFields.isValid at h
  rw [Bool.and_eq_true, decide_eq_true_eq, decide_eq_true_eq] at h
  obtain ⟨⟨-, hyear, -, hmonth, -, hday⟩, hhour, hminute, hsecond, hmicrosecond⟩ := h
  have hdays : daysInMonth t.year t.month ≤ 31 := by
    unfold daysInMonth
    split_ifs <;> omega
  omega

/-- The fields of an instant are read back from its text. -/
theorem readIso_isoChars {t : DatetimeFields} (h : t.isValid = true) : readIso (isoChars t) = some t := by
  obtain ⟨hyear, hmonth, hday, hhour, hminute, hsecond, hmicrosecond⟩ := lt_of_isValid h
  unfold readIso isoChars
  simp only [Decimal.read_digits hyear, Decimal.read_digits hmonth, Decimal.read_digits hday, Decimal.read_digits hhour,
    Decimal.read_digits hminute, Decimal.read_digits hsecond, readMicrosecond_fraction hmicrosecond, after_cons,
    Option.bind_eq_bind, Option.bind_some, if_true]

/-- An instant is read back from its text. -/
theorem ofIsoText_isoText (t : Datetime) : ofIsoText t.isoText = some t := by
  unfold ofIsoText isoText
  rw [String.toList_ofList, readIso_isoChars t.valid, Option.bind_some, dif_pos t.valid]

theorem length_isoChars (t : DatetimeFields) : (isoChars t).length ≤ 27 := by
  have hfraction : (fraction t.microsecond).length ≤ 7 := by
    unfold fraction
    split_ifs
    · exact Nat.zero_le 7
    · rw [List.length_cons, Decimal.length_digits]
  unfold isoChars
  simp only [List.length_append, List.length_cons, Decimal.length_digits, List.length_nil]
  omega

/-- The characters of a text are digits and separators. -/
theorem mem_isoChars {t : DatetimeFields} {c : Char} (h : c ∈ isoChars t) :
    c.isDigit = true ∨ c ∈ ['-', 'T', ':', '.', 'Z'] := by
  have hfraction : ∀ d ∈ fraction t.microsecond, d.isDigit = true ∨ d = '.' := by
    unfold fraction
    split_ifs
    · exact fun d hd => absurd hd List.not_mem_nil
    · exact List.forall_mem_cons.mpr ⟨.inr rfl, fun d hd => .inl (Decimal.isDigit_digits _ _ d hd)⟩
  have hdigits : ∀ k n, c ∈ Decimal.digits k n → c.isDigit = true := fun k n hc => Decimal.isDigit_digits k n c hc
  unfold isoChars at h
  simp only [List.mem_append, List.mem_cons, List.not_mem_nil, or_false] at h ⊢
  rcases h with h | rfl | h | rfl | h | rfl | h | rfl | h | rfl | h | h | rfl
  · exact .inl (hdigits _ _ h)
  · exact .inr (.inl rfl)
  · exact .inl (hdigits _ _ h)
  · exact .inr (.inl rfl)
  · exact .inl (hdigits _ _ h)
  · exact .inr (.inr (.inl rfl))
  · exact .inl (hdigits _ _ h)
  · exact .inr (.inr (.inr (.inl rfl)))
  · exact .inl (hdigits _ _ h)
  · exact .inr (.inr (.inr (.inl rfl)))
  · exact .inl (hdigits _ _ h)
  · rcases hfraction c h with hdigit | rfl
    · exact .inl hdigit
    · exact .inr (.inr (.inr (.inr (.inl rfl))))
  · exact .inr (.inr (.inr (.inr (.inr rfl))))

end Datetime
