import Mathlib.Data.List.Basic
import Mathlib.Data.Nat.Notation
import Mathlib.Tactic.IntervalCases

/-!
# Hexadecimal digits

Fixed-width lowercase hexadecimal: `digits k n` is the last `k` digits of `n`, and `value?` reads
digits of either case. Reading the digits of a number below `16^k` gives it back.
-/

namespace Hex

/-- The lowercase digit of a number below sixteen. -/
def digit (n : ℕ) : Char := Char.ofNat (if n < 10 then 48 + n else 87 + n)

/-- The number of a digit of either case. -/
def digitValue? (c : Char) : Option ℕ :=
  if 48 ≤ c.toNat ∧ c.toNat ≤ 57 then some (c.toNat - 48)
  else if 97 ≤ c.toNat ∧ c.toNat ≤ 102 then some (c.toNat - 87)
  else if 65 ≤ c.toNat ∧ c.toNat ≤ 70 then some (c.toNat - 55)
  else none

/-- The last `k` digits of `n`, the highest first. -/
def digits : ℕ → ℕ → List Char
  | 0, _ => []
  | k + 1, n => digits k (n / 16) ++ [digit (n % 16)]

/-- The number that `acc` followed by the digits is, if they are digits. -/
def valueFrom? (acc : ℕ) (cs : List Char) : Option ℕ :=
  cs.foldlM (fun n c => (digitValue? c).map (16 * n + ·)) acc

/-- The number that the digits are. -/
def value? (cs : List Char) : Option ℕ := valueFrom? 0 cs

theorem digitValue?_digit {n : ℕ} (h : n < 16) : digitValue? (digit n) = some n := by
  interval_cases n <;> decide

@[simp] theorem length_digits (k n : ℕ) : (digits k n).length = k := by
  induction k generalizing n with
  | zero => rfl
  | succ k ih => simp [digits, ih]

/-- The digits of a number below `16^k` are the digits of that number. -/
theorem value?_digits {k n : ℕ} (h : n < 16 ^ k) : value? (digits k n) = some n := by
  induction k generalizing n with
  | zero =>
    obtain rfl : n = 0 := by simpa using h
    rfl
  | succ k ih =>
    have hdiv : n / 16 < 16 ^ k := by
      rw [Nat.pow_succ] at h
      exact Nat.div_lt_of_lt_mul (by omega)
    have hrest := ih hdiv
    unfold value? valueFrom? at hrest ⊢
    rw [digits, List.foldlM_append, hrest]
    simp only [List.foldlM_cons, List.foldlM_nil, Option.bind_eq_bind, Option.bind_some,
      digitValue?_digit (Nat.mod_lt n (by decide : 0 < 16)), Option.map_some]
    exact congrArg some (Nat.div_add_mod n 16)

end Hex
