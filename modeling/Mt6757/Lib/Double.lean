import Mathlib.Tactic.Positivity
import Mathlib.Tactic.NormNum
import Mt6757.Lib.Numeral

/-!
# Doubles and their decimals

The values of a `double`, and the text that `%.1f` makes of one: the exact value, rounded to
tenths, to the even one of two that are as near.
-/

set_option autoImplicit false

/-- A finite value is `mantissa * 2 ^ (exponent - 1074)` with its sign. -/
inductive Double where
  | finite (negative : Bool) (mantissa exponent : Nat) (fits : mantissa < 2 ^ 53)
      (bounded : exponent ≤ 2045)
  | infinite (negative : Bool)
  | nan

namespace Double

def zero : Double := .finite false 0 0 (by decide) (by decide)

/-- `(double) n / 2`. -/
def half (n : UInt16) : Double :=
  .finite false n.toNat 1073 (lt_trans n.toNat_lt (by decide)) (by decide)

def roundHalfEven (n d : Nat) : Nat :=
  if d < 2 * (n % d) ∨ d = 2 * (n % d) ∧ n / d % 2 = 1 then n / d + 1 else n / d

def tenths (mantissa exponent : Nat) : Nat :=
  if 1074 ≤ exponent then 10 * mantissa * 2 ^ (exponent - 1074)
  else roundHalfEven (10 * mantissa) (2 ^ (1074 - exponent))

def sign (negative : Bool) : CString := if negative then [45] else []

/-- `%.1f`. -/
def oneDecimal : Double → CString
  | .finite negative mantissa exponent _ _ =>
      sign negative ++ CString.decimal (tenths mantissa exponent / 10) ++
        [46, CString.digitByte (tenths mantissa exponent % 10)]
  | .infinite negative => sign negative ++ CString.ascii "inf"
  | .nan => CString.ascii "nan"

example : (half 131).oneDecimal = CString.ascii "65.5" := by decide

theorem roundHalfEven_le (n d : Nat) : roundHalfEven n d ≤ n + 1 := by
  have quotient : n / d ≤ n := Nat.div_le_self n d
  rw [roundHalfEven]
  split <;> omega

theorem tenths_lt {mantissa exponent scale : Nat} (fits : mantissa < 2 ^ 53)
    (bounded : exponent - 1074 ≤ scale) : tenths mantissa exponent / 10 < 2 ^ 53 * 2 ^ scale := by
  have positive : 1 ≤ 2 ^ scale := Nat.one_le_two_pow
  rw [tenths]
  split
  · have scaled := Nat.pow_le_pow_right Nat.two_pos bounded
    rw [Nat.mul_assoc, Nat.mul_div_cancel_left _ (by decide)]
    exact Nat.mul_lt_mul_of_lt_of_le fits scaled positive
  · have rounded := roundHalfEven_le (10 * mantissa) (2 ^ (1074 - exponent))
    calc roundHalfEven (10 * mantissa) (2 ^ (1074 - exponent)) / 10 ≤ mantissa := by omega
      _ < 2 ^ 53 := fits
      _ ≤ 2 ^ 53 * 2 ^ scale := Nat.le_mul_of_pos_right _ positive

theorem largest_le : 2 ^ 53 * 2 ^ 971 ≤ 10 ^ (39 * 8) := by
  have base : 2 ^ 128 ≤ 10 ^ 39 := by norm_num
  have power := Nat.pow_le_pow_left base 8
  have exponents : 53 + 971 = 128 * 8 := rfl
  rw [← pow_mul, ← pow_mul] at power
  rw [← pow_add, exponents]
  exact power

theorem length_oneDecimal_le (value : Double) : value.oneDecimal.length ≤ 315 := by
  have signed : ∀ negative, (sign negative).length ≤ 1 := by decide
  cases value with
  | finite negative mantissa exponent fits bounded =>
      have shift : exponent - 1074 ≤ 971 := by omega
      have small := lt_of_lt_of_le (tenths_lt fits shift) largest_le
      have digits := CString.length_decimal_le (by decide) small
      have one := signed negative
      rw [oneDecimal, List.length_append, List.length_append, List.length_cons,
        List.length_singleton]
      omega
  | infinite negative =>
      have one := signed negative
      have name : (CString.ascii "inf").length = 3 := rfl
      rw [oneDecimal, List.length_append, name]
      omega
  | nan =>
      have name : (CString.ascii "nan").length = 3 := rfl
      rw [oneDecimal, name]
      omega

end Double
