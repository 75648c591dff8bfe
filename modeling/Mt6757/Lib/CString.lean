import Mathlib.Data.List.Basic

/-!
# C strings

The bytes of a string without its terminator, and the comparisons of the C
library on them.  A terminator compares as the byte zero, so a string that ends
first is the smaller one.
-/

set_option autoImplicit false

abbrev CString := List UInt8

namespace CString

def ascii (text : String) : CString := text.toList.map fun char => UInt8.ofNat char.toNat

def strlen (s : CString) : Nat := s.length

def strncmp : Nat → CString → CString → Int
  | 0, _, _ => 0
  | _ + 1, [], [] => 0
  | _ + 1, [], byte :: _ => -byte.toNat
  | _ + 1, byte :: _, [] => byte.toNat
  | n + 1, byte :: s, byte' :: t =>
      if byte = byte' then strncmp n s t else (byte.toNat : Int) - byte'.toNat

/-- Whether two strings have different bytes at one of the first `n` indices that
both have. -/
def differ : Nat → CString → CString → Bool
  | n + 1, byte :: s, byte' :: t => byte != byte' || differ n s t
  | _, _, _ => false

/-- What differs in a prefix differs, however the string goes on. -/
theorem strncmp_ne_zero {n m : Nat} {s t : CString} (differs : differ n s t = true)
    (longer : n ≤ m) (rest : CString) : strncmp m (s ++ rest) t ≠ 0 := by
  induction n generalizing m s t with
  | zero => simp [differ] at differs
  | succ n ih =>
      obtain ⟨m, rfl⟩ : ∃ k, m = k + 1 := ⟨m - 1, by omega⟩
      cases s with
      | nil => simp [differ] at differs
      | cons byte s =>
          cases t with
          | nil => simp [differ] at differs
          | cons byte' t =>
              simp only [differ, Bool.or_eq_true, bne_iff_ne] at differs
              rw [List.cons_append, strncmp]
              split
              · rename_i same
                exact ih (differs.resolve_left fun different => different same) (by omega)
              · rename_i different
                have values : byte.toNat ≠ byte'.toNat :=
                  fun same => different (UInt8.toNat_inj.mp same)
                omega

theorem isPrefix_of_strncmp {n : Nat} {s t : CString} (equal : strncmp n s t = 0)
    (length : t.length = n) (whole : 0 ∉ t) : t <+: s := by
  induction n generalizing s t with
  | zero => exact List.eq_nil_of_length_eq_zero length ▸ List.nil_prefix
  | succ n ih =>
      cases t with
      | nil => exact List.nil_prefix
      | cons byte' t =>
          have nonzero : byte' ≠ 0 := fun zero => whole (zero ▸ List.mem_cons_self)
          have value : byte'.toNat ≠ 0 := fun zero => nonzero (UInt8.toNat_inj.mp zero)
          cases s with
          | nil =>
              rw [strncmp] at equal
              omega
          | cons byte s =>
              rw [strncmp] at equal
              split at equal
              · next same =>
                rw [same, List.cons_prefix_cons]
                exact ⟨rfl, ih equal (Nat.succ_inj.mp length)
                  fun here => whole (List.mem_cons_of_mem _ here)⟩
              · next different =>
                have values : byte.toNat ≠ byte'.toNat :=
                  fun same => different (UInt8.toNat_inj.mp same)
                omega

/-- Strings compare equal where their first `n` bytes are the same. -/
theorem strncmp_eq_zero_iff {n : Nat} {s t : CString} (whole : 0 ∉ s) (whole' : 0 ∉ t) :
    strncmp n s t = 0 ↔ s.take n = t.take n := by
  have value : ∀ {byte : UInt8}, byte ≠ 0 → byte.toNat ≠ 0 :=
    fun nonzero zero => nonzero (UInt8.toNat_inj.mp zero)
  induction n generalizing s t with
  | zero => simp [strncmp]
  | succ n ih =>
      cases s with
      | nil =>
          cases t with
          | nil => simp [strncmp]
          | cons byte' t =>
              have nonzero := value fun zero => whole' (zero ▸ List.mem_cons_self)
              simp only [strncmp, List.take_nil, List.take_succ_cons, List.nil_eq, reduceCtorEq,
                iff_false]
              omega
      | cons byte s =>
          have nonzero := value fun zero => whole (zero ▸ List.mem_cons_self)
          cases t with
          | nil =>
              simp only [strncmp, List.take_nil, List.take_succ_cons, reduceCtorEq, iff_false]
              omega
          | cons byte' t =>
              have later := ih (fun here => whole (List.mem_cons_of_mem _ here))
                fun here => whole' (List.mem_cons_of_mem _ here)
              rw [strncmp, List.take_succ_cons, List.take_succ_cons, List.cons.injEq]
              split
              · next same => exact later.trans (by simp [same])
              · next different =>
                have values : byte.toNat ≠ byte'.toNat :=
                  fun same => different (UInt8.toNat_inj.mp same)
                simp only [different, false_and, iff_false]
                omega

def strcmp (s t : CString) : Int := strncmp (max s.length t.length) s t

def toLower (byte : UInt8) : UInt8 := if 65 ≤ byte ∧ byte ≤ 90 then byte + 32 else byte

def strncasecmp (n : Nat) (s t : CString) : Int := strncmp n (s.map toLower) (t.map toLower)

def strcasecmp (s t : CString) : Int := strcmp (s.map toLower) (t.map toLower)

def strchr (s : CString) (byte : UInt8) : Option Nat := s.findIdx? (· == byte)

/-- The index at which the first occurrence of `t` starts. -/
def strstr : CString → CString → Option Nat
  | [], t => if t = [] then some 0 else none
  | byte :: s, t =>
      if t.isPrefixOf (byte :: s) then some 0 else (strstr s t).map (· + 1)

theorem isPrefix_of_strstr {s t : CString} {pos : Nat} (found : strstr s t = some pos) :
    t <+: s.drop pos := by
  induction s generalizing pos with
  | nil =>
      rw [strstr] at found
      split at found
      · next nothing => exact nothing ▸ List.nil_prefix
      · cases found
  | cons byte s ih =>
      rw [strstr] at found
      split at found
      · next here =>
        obtain rfl := Option.some.inj found
        exact List.isPrefixOf_iff_prefix.mp here
      · obtain ⟨later, rest, rfl⟩ := Option.map_eq_some_iff.mp found
        exact ih rest

theorem strstr_isSome_iff {s t : CString} : (strstr s t).isSome = true ↔ t <:+: s := by
  induction s with
  | nil =>
      rw [strstr, List.infix_nil]
      split <;> simp [*]
  | cons byte s ih =>
      rw [strstr, List.infix_cons_iff, ← List.isPrefixOf_iff_prefix]
      split
      · next here => simp [here]
      · next other => simp [other, ih]

/-- `strncpy` into `n` bytes: what is left over is filled with terminators. -/
def strncpy (n : Nat) (s : CString) : List UInt8 := s.take n ++ List.replicate (n - s.length) 0

def hexDigit (digit : Nat) : UInt8 := UInt8.ofNat (if digit < 10 then 48 + digit else 87 + digit)

def hexByte (byte : UInt8) : CString := [hexDigit (byte.toNat / 16), hexDigit (byte.toNat % 16)]

def upperHexDigit (digit : Nat) : UInt8 :=
  UInt8.ofNat (if digit < 10 then 48 + digit else 55 + digit)

/-- `%0nX` of a number that has no more digits. -/
def upperHex : Nat → Nat → CString
  | 0, _ => []
  | width + 1, n => upperHex width (n / 16) ++ [upperHexDigit (n % 16)]

end CString
