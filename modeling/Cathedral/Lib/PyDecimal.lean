import Mathlib.Data.List.DropRight
import Mathlib.Tactic

/-!
# Cathedral.Lib.PyDecimal — decimal numbers and their texts

A finite `Decimal` is a rational; `format(value, "f")` is a function of its value once
trailing zeros are dropped, and `text` writes the values with a given number of
fractional digits.
-/

namespace Cathedral

/-! ## Digits of fixed width -/

/-- The `k` lowest decimal digits of a number. -/
def fixedDigits : ℕ → ℕ → List Char
  | 0, _ => []
  | k + 1, n => fixedDigits k (n / 10) ++ [Nat.digitChar (n % 10)]

@[simp] theorem length_fixedDigits (k n : ℕ) : (fixedDigits k n).length = k := by
  induction k generalizing n with
  | zero => rfl
  | succ k ih => rw [fixedDigits, List.length_append, ih, List.length_singleton]

theorem isDigit_digitChar {n : ℕ} (h : n < 10) : (Nat.digitChar n).isDigit = true := by
  interval_cases n <;> rfl

theorem toNat_digitChar {n : ℕ} (h : n < 10) : (Nat.digitChar n).toNat = 48 + n := by
  interval_cases n <;> rfl

theorem isDigit_fixedDigits {k n : ℕ} {c : Char} (h : c ∈ fixedDigits k n) :
    c.isDigit = true := by
  induction k generalizing n with
  | zero => exact absurd h List.not_mem_nil
  | succ k ih =>
    rcases List.mem_append.mp h with h | h
    · exact ih h
    · rw [List.mem_singleton.mp h]
      exact isDigit_digitChar (Nat.mod_lt n (by decide))

/-- Reading the digits back. -/
theorem ofDigitChars_fixedDigits (k n : ℕ) :
    Nat.ofDigitChars 10 (fixedDigits k n) 0 = n % 10 ^ k := by
  induction k generalizing n with
  | zero => rw [fixedDigits, Nat.ofDigitChars_nil, pow_zero, Nat.mod_one]
  | succ k ih =>
    have hdigit := toNat_digitChar (Nat.mod_lt n (show 0 < 10 by decide))
    have hzero : '0'.toNat = 48 := rfl
    rw [fixedDigits, Nat.ofDigitChars_append, ih, Nat.ofDigitChars_cons, Nat.ofDigitChars_nil,
      hdigit, hzero, pow_succ', Nat.mod_mul]
    omega

namespace PyDecimal

/-! ## Texts -/

/-- The value of the digits behind a decimal point. -/
def fraction (part : List Char) : ℚ := Nat.ofDigitChars 10 part 0 / 10 ^ part.length

/-- `rstrip("0")`. -/
def stripZeros (part : List Char) : List Char := part.rdropWhile (· = '0')

/-- Trailing zeros do not count. -/
theorem fraction_stripZeros (part : List Char) : fraction (stripZeros part) = fraction part := by
  unfold stripZeros
  induction part using List.reverseRecOn with
  | nil => rfl
  | append_singleton part c ih =>
    by_cases hc : c = '0'
    · have hzero : '0'.toNat - '0'.toNat = 0 := rfl
      rw [List.rdropWhile_concat, if_pos (decide_eq_true hc), ih, hc]
      unfold fraction
      rw [Nat.ofDigitChars_append, Nat.ofDigitChars_cons, Nat.ofDigitChars_nil, hzero,
        List.length_append, List.length_singleton, pow_succ]
      push_cast
      field_simp
      ring
    · rw [List.rdropWhile_concat, if_neg (by simpa using hc)]

/-- `n / 10 ^ precision`, without trailing zeros. -/
def text (precision n : ℕ) : List Char :=
  let part := stripZeros (fixedDigits precision (n % 10 ^ precision))
  Nat.toDigits 10 (n / 10 ^ precision) ++ if part = [] then [] else '.' :: part

end PyDecimal

end Cathedral
