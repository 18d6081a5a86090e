import SalienceGate.Lib.IsoDatetime
import Mathlib.Order.Basic

/-!
# Instants in order

Instants are ordered by their fields, the year first. Their texts with the offset `+00:00` are in the same order, since
the widths of the fields are fixed and `+` comes before the `.` of a fraction. Every instant but the last one has another
a microsecond later.
-/

/-! ## Texts of fixed widths -/

namespace Decimal

variable {α : Type} [LinearOrder α] {c : Char} {rest rest' : List Char} {k m n : ℕ}

/-- Texts that begin with texts of one length are in the order of these, or of what follows if these are the same. -/
theorem append_lt_append_iff {xs ys zs ws : List α} (h : xs.length = ys.length) :
    xs ++ zs < ys ++ ws ↔ xs < ys ∨ xs = ys ∧ zs < ws := by
  induction xs generalizing ys with
  | nil =>
    rw [List.length_nil, eq_comm, List.length_eq_zero_iff] at h
    subst h
    simp
  | cons x xs ih =>
    cases ys with
    | nil => cases h
    | cons y ys =>
      have hlength : xs.length = ys.length := Nat.succ.inj h
      have hrest := ih hlength
      rw [List.cons_append, List.cons_append, List.cons_lt_cons_iff, List.cons_lt_cons_iff, hrest, List.cons.injEq]
      tauto

theorem digitChar_lt_digitChar : ∀ d < 10, ∀ e < 10, (Nat.digitChar d < Nat.digitChar e ↔ d < e) := by decide

theorem digits_inj (hm : m < 10^k) (hn : n < 10^k) : digits k m = digits k n ↔ m = n := by
  constructor
  · intro h
    rw [← ofDigitChars_digits hm, h, ofDigitChars_digits hn]
  · intro h
    rw [h]

/-- Decimals of one width are in the order of their numbers. -/
theorem digits_lt_digits (hm : m < 10^k) (hn : n < 10^k) : digits k m < digits k n ↔ m < n := by
  induction k generalizing m n with
  | zero =>
    have hzero : m = 0 ∧ n = 0 := by omega
    rw [hzero.1, hzero.2]
    simp
  | succ k ih =>
    have hm' : m / 10 < 10^k := Nat.div_lt_of_lt_mul (by rw [Nat.pow_succ] at hm; omega)
    have hn' : n / 10 < 10^k := Nat.div_lt_of_lt_mul (by rw [Nat.pow_succ] at hn; omega)
    rw [digits, digits, append_lt_append_iff (by rw [length_digits, length_digits]), ih hm' hn', digits_inj hm' hn',
      List.cons_lt_cons_iff, digitChar_lt_digitChar _ (Nat.mod_lt m (by decide)) _ (Nat.mod_lt n (by decide))]
    simp only [List.not_lt_nil, and_false, or_false]
    omega

/-- A decimal of a fixed width and a separator before the rest. -/
theorem digits_append_lt (hm : m < 10^k) (hn : n < 10^k) :
    digits k m ++ c :: rest < digits k n ++ c :: rest' ↔ m < n ∨ m = n ∧ rest < rest' := by
  rw [append_lt_append_iff (by rw [length_digits, length_digits]), digits_lt_digits hm hn, digits_inj hm hn,
    List.cons_lt_cons_self]

end Decimal

namespace Datetime

/-! ## Order -/

/-- The fields as the digits of one number. -/
def rank (t : DatetimeFields) : ℕ :=
  (((((t.year * 100 + t.month) * 100 + t.day) * 100 + t.hour) * 100 + t.minute) * 100 + t.second) * 1000000 + t.microsecond

theorem rank_inj {t u : Datetime} (h : rank t.toDatetimeFields = rank u.toDatetimeFields) : t = u := by
  obtain ⟨⟨year, month, day, hour, minute, second, microsecond⟩, hvalid⟩ := t
  obtain ⟨⟨year', month', day', hour', minute', second', microsecond'⟩, hvalid'⟩ := u
  have hbounds := lt_of_isValid hvalid
  have hbounds' := lt_of_isValid hvalid'
  unfold rank at h
  dsimp only at h hbounds hbounds'
  have hsame : year = year' ∧ month = month' ∧ day = day' ∧ hour = hour' ∧ minute = minute' ∧ second = second'
      ∧ microsecond = microsecond' := by omega
  obtain ⟨rfl, rfl, rfl, rfl, rfl, rfl, rfl⟩ := hsame
  rfl

/-- Instants are compared by their fields. -/
instance linearOrder : LinearOrder Datetime :=
  LinearOrder.lift' (fun t => rank t.toDatetimeFields) fun _ _ h => rank_inj h

theorem lt_iff_rank {t u : Datetime} : t < u ↔ rank t.toDatetimeFields < rank u.toDatetimeFields := Iff.rfl

/-! ## The next microsecond -/

/-- The fields a microsecond later. -/
def nextFields (t : DatetimeFields) : DatetimeFields :=
  if t.microsecond + 1 < 1000000 then { t with microsecond := t.microsecond + 1 }
  else if t.second + 1 < 60 then { t with second := t.second + 1, microsecond := 0 }
  else if t.minute + 1 < 60 then { t with minute := t.minute + 1, second := 0, microsecond := 0 }
  else if t.hour + 1 < 24 then { t with hour := t.hour + 1, minute := 0, second := 0, microsecond := 0 }
  else if t.day + 1 ≤ daysInMonth t.year t.month then ⟨t.year, t.month, t.day + 1, 0, 0, 0, 0⟩
  else if t.month + 1 ≤ 12 then ⟨t.year, t.month + 1, 1, 0, 0, 0, 0⟩
  else ⟨t.year + 1, 1, 1, 0, 0, 0, 0⟩

/-- `t + timedelta(microseconds=1)`, nothing after the last instant. -/
def next (t : Datetime) : Option Datetime :=
  if h : (nextFields t.toDatetimeFields).isValid = true then some ⟨_, h⟩ else none

theorem lt_next {t u : Datetime} (h : t.next = some u) : t < u := by
  unfold next at h
  split_ifs at h with hvalid
  cases h
  rw [lt_iff_rank]
  have hbounds := lt_of_isValid t.valid
  obtain ⟨⟨year, month, day, hour, minute, second, microsecond⟩, htime⟩ := t
  unfold DatetimeFields.isValid at htime
  rw [Bool.and_eq_true, decide_eq_true_eq, decide_eq_true_eq] at htime
  dsimp only at htime hbounds
  unfold rank nextFields
  dsimp only
  split_ifs <;> dsimp only <;> omega

/-! ## Texts -/

/-- The offset of UTC. -/
def offset : List Char := ['+', '0', '0', ':', '0', '0']

/-- `isoformat()` of an instant in UTC. -/
def offsetChars (t : DatetimeFields) : List Char :=
  Decimal.digits 4 t.year ++ '-' :: (Decimal.digits 2 t.month ++ '-' :: (Decimal.digits 2 t.day ++ 'T' ::
    (Decimal.digits 2 t.hour ++ ':' :: (Decimal.digits 2 t.minute ++ ':' :: (Decimal.digits 2 t.second ++
      (fraction t.microsecond ++ offset))))))

/-- `isoformat()` of an instant in UTC, as a string. -/
def offsetText (t : Datetime) : String := String.ofList (offsetChars t.toDatetimeFields)

/-- The instant of a text that `isoformat()` makes. -/
def ofOffsetText (text : String) : Option Datetime :=
  if text.toList.drop (text.toList.length - 6) = offset then
    (readIso (text.toList.take (text.toList.length - 6) ++ ['Z'])).bind fun t =>
      if h : t.isValid = true then some ⟨t, h⟩ else none
  else none

/-- The texts with the two offsets differ only there. -/
theorem exists_prefix (t : DatetimeFields) : ∃ front, isoChars t = front ++ ['Z'] ∧ offsetChars t = front ++ offset := by
  refine ⟨Decimal.digits 4 t.year ++ '-' :: (Decimal.digits 2 t.month ++ '-' :: (Decimal.digits 2 t.day ++ 'T' ::
    (Decimal.digits 2 t.hour ++ ':' :: (Decimal.digits 2 t.minute ++ ':' :: (Decimal.digits 2 t.second ++
      fraction t.microsecond))))), ?_, ?_⟩
  · unfold isoChars
    simp only [List.append_assoc, List.cons_append]
  · unfold offsetChars
    simp only [List.append_assoc, List.cons_append]

/-- An instant is read back from its text. -/
theorem ofOffsetText_offsetText (t : Datetime) : ofOffsetText t.offsetText = some t := by
  obtain ⟨front, hiso, hoffset⟩ := exists_prefix t.toDatetimeFields
  have hlength : (front ++ offset).length - 6 = front.length := by
    rw [List.length_append]
    exact Nat.add_sub_cancel _ _
  unfold ofOffsetText offsetText
  rw [String.toList_ofList, hoffset, hlength, List.drop_left' rfl, List.take_left' rfl, if_pos rfl, ← hiso,
    readIso_isoChars t.valid, Option.bind_some, dif_pos t.valid]

/-- A fraction is behind the whole second, and fractions are in the order of their digits. -/
theorem fraction_lt {m n : ℕ} (hm : m < 10^6) (hn : n < 10^6) : fraction m ++ offset < fraction n ++ offset ↔ m < n := by
  unfold fraction
  by_cases hzero : m = 0 <;> by_cases hzero' : n = 0
  · rw [hzero, hzero']
    simp
  · rw [if_pos hzero, if_neg hzero']
    exact iff_of_true (List.cons_lt_cons_iff.mpr (.inl (by decide))) (by omega)
  · rw [if_neg hzero, if_pos hzero']
    refine iff_of_false (fun h => ?_) (by omega)
    rcases List.cons_lt_cons_iff.mp h with hdot | ⟨hsame, -⟩
    · exact absurd hdot (by decide)
    · exact absurd hsame (by decide)
  · rw [if_neg hzero, if_neg hzero', List.cons_append, List.cons_append, List.cons_lt_cons_self, offset,
      Decimal.digits_append_lt hm hn]
    simp

/-- The texts of instants are in the order of the instants. -/
theorem offsetText_lt {t u : Datetime} : t.offsetText < u.offsetText ↔ t < u := by
  have ht := lt_of_isValid t.valid
  have hu := lt_of_isValid u.valid
  unfold offsetText
  rw [String.lt_iff_toList_lt, String.toList_ofList, String.toList_ofList, lt_iff_rank]
  unfold offsetChars
  rw [Decimal.digits_append_lt ht.1 hu.1, Decimal.digits_append_lt ht.2.1 hu.2.1,
    Decimal.digits_append_lt ht.2.2.1 hu.2.2.1, Decimal.digits_append_lt ht.2.2.2.1 hu.2.2.2.1,
    Decimal.digits_append_lt ht.2.2.2.2.1 hu.2.2.2.2.1,
    Decimal.append_lt_append_iff (by rw [Decimal.length_digits, Decimal.length_digits]),
    Decimal.digits_lt_digits ht.2.2.2.2.2.1 hu.2.2.2.2.2.1, Decimal.digits_inj ht.2.2.2.2.2.1 hu.2.2.2.2.2.1,
    fraction_lt ht.2.2.2.2.2.2 hu.2.2.2.2.2.2]
  unfold rank
  omega

end Datetime
