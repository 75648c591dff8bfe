import Mathlib.Algebra.Order.Ring.Int
import Mathlib.Data.List.Induction
import Mathlib.Data.List.TakeWhile
import Mathlib.Tactic.Ring
import Mt6757.Lib.CString

/-!
# Numerals

`strtol` and `atoi`, printing with `%d`, and that reading what was printed gives
the number back.
-/

set_option autoImplicit false

namespace CString

/-! ## Reading -/

def isSpace (byte : UInt8) : Bool := byte == 32 || (9 ≤ byte && byte ≤ 13)

def digitValue (byte : UInt8) : Option Nat :=
  if 48 ≤ byte ∧ byte ≤ 57 then some (byte.toNat - 48)
  else if 97 ≤ toLower byte ∧ toLower byte ≤ 122 then some ((toLower byte).toNat - 87)
  else none

def isDigit (base : Nat) (byte : UInt8) : Bool := (digitValue byte).any (· < base)

/-- The sign that `strtol` accepts, and what follows it. -/
def takeSign (s : CString) : Bool × CString :=
  if s.head? = some 45 then (true, s.tail)
  else if s.head? = some 43 then (false, s.tail)
  else (false, s)

/-- The base that the prefix of a number selects, and the number behind the prefix. -/
def takeRadix (base : Nat) (s : CString) : Nat × CString :=
  if (base = 0 ∨ base = 16) ∧ s.head? = some 48 ∧ (s.drop 1).head?.map toLower = some 120 ∧
      (s.drop 2).head?.any (isDigit 16) then (16, s.drop 2)
  else if base = 0 then (if s.head? = some 48 then 8 else 10, s)
  else (base, s)

def digitsValue (base : Nat) (digits : CString) : Nat :=
  digits.foldl (fun value digit => base * value + (digitValue digit).getD 0) 0

/-- Out of range the result is the nearest `long`. -/
def clampLong (bits : Nat) (value : Int) : Int :=
  max (-2 ^ (bits - 1)) (min value (2 ^ (bits - 1) - 1))

/-- The value and how many characters it takes, none if there is no number. -/
def strtol (bits : Nat) (s : CString) (base : Nat) : Int × Nat :=
  let (negative, number) := takeSign (s.dropWhile isSpace)
  let (base, number) := takeRadix base number
  let digits := number.takeWhile (isDigit base)
  if digits = [] then (0, 0)
  else
    let value : Int := digitsValue base digits
    (clampLong bits (if negative then -value else value),
      s.length - (number.length - digits.length))

def atoi (bits : Nat) (s : CString) : Int32 := Int32.ofInt (strtol bits s 10).1

/-! ## Printing -/

def digitByte (digit : Nat) : UInt8 := UInt8.ofNat (48 + digit)

def decimalFrom : (fuel : Nat) → Nat → CString
  | 0, _ => []
  | fuel + 1, n =>
      if n < 10 then [digitByte n] else decimalFrom fuel (n / 10) ++ [digitByte (n % 10)]

def decimal (n : Nat) : CString := decimalFrom (n + 1) n

def printInt (z : Int) : CString := if z < 0 then 45 :: decimal z.natAbs else decimal z.natAbs

/-! ## Round trip -/

theorem decimalFrom_of_lt {fuel fuel' n : Nat} (enough : n < fuel) (enough' : n < fuel') :
    decimalFrom fuel n = decimalFrom fuel' n := by
  induction fuel generalizing fuel' n with
  | zero => omega
  | succ fuel ih =>
      cases fuel' with
      | zero => omega
      | succ fuel' =>
          unfold decimalFrom
          split
          · rfl
          · rw [ih (by omega : n / 10 < fuel) (by omega : n / 10 < fuel')]

theorem decimal_eq (n : Nat) :
    decimal n = if n < 10 then [digitByte n] else decimal (n / 10) ++ [digitByte (n % 10)] := by
  rw [decimal, decimalFrom]
  split
  · rfl
  · rw [decimal, decimalFrom_of_lt (by omega : n / 10 < n) (by omega : n / 10 < n / 10 + 1)]

theorem digitValue_digitByte {digit : Nat} (small : digit < 10) :
    digitValue (digitByte digit) = some digit := by
  have each : ∀ digit : Fin 10, digitValue (digitByte digit) = some digit.val := by decide
  exact each ⟨digit, small⟩

theorem isDigit_digitByte {digit : Nat} (small : digit < 10) :
    isDigit 10 (digitByte digit) = true := by
  simp [isDigit, digitValue_digitByte small, small]

theorem decimal_ne_nil (n : Nat) : decimal n ≠ [] := by
  rw [decimal_eq]
  split <;> simp

theorem isDigit_of_mem_decimal {n : Nat} {byte : UInt8} (here : byte ∈ decimal n) :
    isDigit 10 byte = true := by
  induction n using Nat.strongRecOn with
  | ind n ih =>
      rw [decimal_eq] at here
      split at here
      · rename_i small
        rw [List.mem_singleton.mp here]
        exact isDigit_digitByte small
      · rcases List.mem_append.mp here with upper | last
        · exact ih (n / 10) (by omega) upper
        · rw [List.mem_singleton.mp last]
          exact isDigit_digitByte (by omega)

theorem digitsValue_decimal (n : Nat) : digitsValue 10 (decimal n) = n := by
  induction n using Nat.strongRecOn with
  | ind n ih =>
      rw [decimal_eq]
      split
      · rename_i small
        simp [digitsValue, digitValue_digitByte small]
      · have upper := ih (n / 10) (by omega)
        have last : digitValue (digitByte (n % 10)) = some (n % 10) :=
          digitValue_digitByte (by omega)
        simp only [digitsValue, List.foldl_append] at upper ⊢
        rw [upper]
        simp only [List.foldl_cons, List.foldl_nil, last, Option.getD_some]
        omega

/-- Every digit more takes a tenth. -/
theorem length_decimal_le {n digits : Nat} (positive : 0 < digits) (small : n < 10 ^ digits) :
    (decimal n).length ≤ digits := by
  induction digits generalizing n with
  | zero => omega
  | succ digits ih =>
      rw [decimal_eq]
      split
      · simp
      · rename_i large
        have more : 0 < digits := by
          rcases Nat.eq_zero_or_pos digits with rfl | more
          · omega
          · exact more
        have smaller : n / 10 < 10 ^ digits := by
          rw [Nat.pow_succ] at small
          omega
        simpa using ih more smaller

set_option maxRecDepth 2000 in
/-- A digit is none of the characters that `strtol` skips or takes as a sign, and
ends no word. -/
theorem isDigit_ten_plain {byte : UInt8} (digit : isDigit 10 byte = true) :
    isSpace byte = false ∧ byte ≠ 45 ∧ byte ≠ 43 ∧ byte ≠ 0 ∧ byte ≠ 10 ∧ byte ≠ 32 := by
  have each : ∀ code : Fin 256, isDigit 10 (UInt8.ofNat code) = true →
      isSpace (UInt8.ofNat code) = false ∧ UInt8.ofNat code ≠ 45 ∧ UInt8.ofNat code ≠ 43 ∧
        UInt8.ofNat code ≠ 0 ∧ UInt8.ofNat code ≠ 10 ∧ UInt8.ofNat code ≠ 32 := by
    decide
  have here := each ⟨byte.toNat, byte.toNat_lt⟩
  simp only [UInt8.ofNat_toNat] at here
  exact here digit

/-- A number is read back whatever does not continue it. -/
theorem strtol_decimal {bits n : Nat} {negative : Bool} {rest : CString}
    (ends : rest.head?.all fun byte => !isDigit 10 byte)
    (s : CString) (signed : takeSign (s.dropWhile isSpace) = (negative, decimal n ++ rest)) :
    (strtol bits s 10).1 = clampLong bits (if negative then -n else n) := by
  have digits : (decimal n ++ rest).takeWhile (isDigit 10) = decimal n := by
    rw [List.takeWhile_append_of_pos fun byte => isDigit_of_mem_decimal]
    cases rest with
    | nil => simp
    | cons byte rest => simp_all
  have radix : takeRadix 10 (decimal n ++ rest) = (10, decimal n ++ rest) := by
    simp [takeRadix]
  simp only [strtol, signed, radix, digits, decimal_ne_nil, if_false, digitsValue_decimal]

theorem takeSign_decimal (n : Nat) (rest : CString) :
    takeSign ((decimal n ++ rest).dropWhile isSpace) = (false, decimal n ++ rest) := by
  cases shape : decimal n with
  | nil => exact absurd shape (decimal_ne_nil n)
  | cons byte tail =>
      have first : isDigit 10 byte = true :=
        isDigit_of_mem_decimal (by rw [shape]; exact List.mem_cons_self)
      obtain ⟨space, minus, plus, -⟩ := isDigit_ten_plain first
      simp [takeSign, space, minus, plus]

theorem takeSign_minus (n : Nat) (rest : CString) :
    takeSign ((45 :: decimal n ++ rest).dropWhile isSpace) = (true, decimal n ++ rest) := by
  have space : isSpace 45 = false := by decide
  simp [takeSign, space]

theorem strtol_printInt {bits : Nat} {z : Int} {rest : CString}
    (ends : rest.head?.all fun byte => !isDigit 10 byte) :
    (strtol bits (printInt z ++ rest) 10).1 = clampLong bits z := by
  unfold printInt
  split
  · rw [strtol_decimal ends _ (takeSign_minus z.natAbs rest), if_pos rfl]
    congr 1
    omega
  · rw [strtol_decimal ends _ (takeSign_decimal z.natAbs rest)]
    simp only [Bool.false_eq_true, if_false]
    congr 1
    omega

/-- What `%d` prints of an `int`, `atoi` reads back, for every width of `long` that
an `int` fits in. -/
theorem atoi_printInt {bits : Nat} (wide : 32 ≤ bits) (value : Int32) :
    atoi bits (printInt value.toInt) = value := by
  have read : (strtol bits (printInt value.toInt) 10).1 = clampLong bits value.toInt := by
    rw [← List.append_nil (printInt value.toInt)]
    exact strtol_printInt (by simp)
  have power : (2 : Int) ^ 31 ≤ 2 ^ (bits - 1) := by
    exact_mod_cast Nat.pow_le_pow_right (by decide : 0 < 2) (by omega : 31 ≤ bits - 1)
  have lower := value.le_toInt
  have upper := value.toInt_lt
  have inRange : clampLong bits value.toInt = value.toInt := by
    unfold clampLong
    omega
  rw [atoi, read, inRange, Int32.ofInt_toInt]

/-- A printed `int` is one word. -/
theorem printInt_plain {z : Int} {byte : UInt8} (here : byte ∈ printInt z) :
    byte ≠ 0 ∧ byte ≠ 10 ∧ byte ≠ 32 := by
  unfold printInt at here
  split at here
  · rcases List.mem_cons.mp here with rfl | digit
    · decide
    · obtain ⟨-, -, -, plain⟩ := isDigit_ten_plain (isDigit_of_mem_decimal digit)
      exact plain
  · obtain ⟨-, -, -, plain⟩ := isDigit_ten_plain (isDigit_of_mem_decimal here)
    exact plain

theorem printInt_ne_nil (z : Int) : printInt z ≠ [] := by
  unfold printInt
  split
  · exact List.cons_ne_nil _ _
  · exact decimal_ne_nil _

theorem length_printInt_le (value : Int32) : (printInt value.toInt).length ≤ 11 := by
  have lower := value.le_toInt
  have upper := value.toInt_lt
  have digits : (decimal value.toInt.natAbs).length ≤ 10 :=
    length_decimal_le (by decide) (by omega)
  unfold printInt
  split
  · rw [List.length_cons]
    omega
  · omega

/-! ## Digits of a known number -/

section Digits
variable {base : Nat} {s : CString}

theorem digitsValue_nil : digitsValue base [] = 0 := rfl

theorem digitsValue_concat (s : CString) (digit : UInt8) :
    digitsValue base (s ++ [digit]) = base * digitsValue base s + (digitValue digit).getD 0 := by
  rw [digitsValue, List.foldl_append]
  rfl

theorem digitsValue_append (s rest : CString) :
    digitsValue base (s ++ rest) = digitsValue base s * base ^ rest.length + digitsValue base rest := by
  induction rest using List.reverseRecOn with
  | nil => rw [List.append_nil, List.length_nil, pow_zero, Nat.mul_one, digitsValue_nil, Nat.add_zero]
  | append_singleton rest digit ih =>
      rw [← List.append_assoc, digitsValue_concat, digitsValue_concat, ih, List.length_append,
        List.length_singleton, pow_succ]
      ring

theorem digitsValue_lt (digits : ∀ byte ∈ s, isDigit base byte = true) :
    digitsValue base s < base ^ s.length := by
  induction s using List.reverseRecOn with
  | nil => exact Nat.one_pos
  | append_singleton s digit ih =>
      have upper := ih fun byte here => digits byte (List.mem_append_left _ here)
      have last : (digitValue digit).getD 0 < base := by
        have isDigit := digits digit (List.mem_append_right _ List.mem_cons_self)
        rw [CString.isDigit] at isDigit
        cases found : digitValue digit with
        | none =>
            rw [found] at isDigit
            cases isDigit
        | some value =>
            rw [found] at isDigit
            exact of_decide_eq_true isDigit
      rw [digitsValue_concat, List.length_append, List.length_singleton, pow_succ]
      have step : digitsValue base s + 1 ≤ base ^ s.length := upper
      calc base * digitsValue base s + (digitValue digit).getD 0
          < base * digitsValue base s + base := Nat.add_lt_add_left last _
        _ = (digitsValue base s + 1) * base := by ring
        _ ≤ base ^ s.length * base := Nat.mul_le_mul_right base step

set_option maxRecDepth 2000 in
/-- A digit of base 16 is none of the characters that `strtol` skips, takes as a sign, or
expects behind the zero of a prefix. -/
theorem isDigit_sixteen_plain {byte : UInt8} (digit : isDigit 16 byte = true) :
    isSpace byte = false ∧ byte ≠ 45 ∧ byte ≠ 43 ∧ toLower byte ≠ 120 := by
  have each : ∀ code : Fin 256, isDigit 16 (UInt8.ofNat code) = true →
      isSpace (UInt8.ofNat code) = false ∧ UInt8.ofNat code ≠ 45 ∧ UInt8.ofNat code ≠ 43 ∧
        toLower (UInt8.ofNat code) ≠ 120 := by
    decide
  have here := each ⟨byte.toNat, byte.toNat_lt⟩
  simp only [UInt8.ofNat_toNat] at here
  exact here digit

/-- Nothing but digits of base 16 is read as their value. -/
theorem strtol_sixteen (bits : Nat) (nonempty : s ≠ [])
    (digits : ∀ byte ∈ s, isDigit 16 byte = true) :
    (strtol bits s 16).1 = clampLong bits (digitsValue 16 s) := by
  obtain ⟨first, later, rfl⟩ := List.exists_cons_of_ne_nil nonempty
  obtain ⟨space, minus, plus, -⟩ := isDigit_sixteen_plain (digits first List.mem_cons_self)
  have unsigned : takeSign ((first :: later).dropWhile isSpace) = (false, first :: later) := by
    simp [takeSign, space, minus, plus]
  have unprefixed : takeRadix 16 (first :: later) = (16, first :: later) := by
    have second : later.head?.map toLower ≠ some 120 := by
      cases later with
      | nil => exact fun same => nomatch same
      | cons second later =>
          obtain ⟨-, -, -, letter⟩ := isDigit_sixteen_plain
            (digits second (List.mem_cons_of_mem _ List.mem_cons_self))
          exact fun same => letter (Option.some.inj same)
    rw [takeRadix, if_neg, if_neg (by decide)]
    intro isPrefix
    exact second isPrefix.2.2.1
  have whole : (first :: later).takeWhile (isDigit 16) = first :: later :=
    List.takeWhile_eq_self_iff.mpr digits
  simp only [strtol, unsigned, unprefixed, whole, if_neg (List.cons_ne_nil first later),
    Bool.false_eq_true, if_false]

/-- What a `long` has room for is not clamped, and what it has not comes out smaller. -/
theorem clampLong_eq_iff (bits value : Nat) :
    clampLong bits value = value ↔ value < 2 ^ (bits - 1) := by
  have positive : (0 : Int) < 2 ^ (bits - 1) := pow_pos (by decide) _
  have cast : ((2 ^ (bits - 1) : Nat) : Int) = 2 ^ (bits - 1) := by push_cast; rfl
  rw [clampLong]
  omega

theorem clampLong_nonneg (bits value : Nat) :
    0 ≤ clampLong bits value ∧ clampLong bits value ≤ value := by
  have positive : (0 : Int) < 2 ^ (bits - 1) := pow_pos (by decide) _
  rw [clampLong]
  omega

end Digits

end CString
