import Mathlib.Data.Nat.Notation
import Mathlib.Tactic.Ring

/-!
# Octets and little-endian words

Memory seen from the first byte of a buffer.  The buffer has a length, memory has
none: what is read past the end of the buffer is whatever lies behind it.
-/

set_option autoImplicit false

abbrev Octets := Nat → UInt8

/-- The value of bytes in memory order, least significant first. -/
def leValue : List UInt8 → Nat
  | [] => 0
  | byte :: rest => byte.toNat + 256 * leValue rest

/-- The bytes of a value, least significant first. -/
def leBytes : Nat → Nat → List UInt8
  | 0, _ => []
  | width + 1, value => UInt8.ofNat value :: leBytes width (value / 256)

@[simp] theorem leBytes_length (width value : Nat) : (leBytes width value).length = width := by
  induction width generalizing value with
  | zero => rfl
  | succ width ih => simp [leBytes, ih]

theorem leValue_leBytes (width value : Nat) :
    leValue (leBytes width value) = value % 256 ^ width := by
  induction width generalizing value with
  | zero => simp [leBytes, leValue, Nat.mod_one]
  | succ width ih =>
      have split : value % 256 ^ (width + 1) =
          value % 256 + 256 * (value / 256 % 256 ^ width) := by
        rw [pow_succ, Nat.mul_comm, Nat.mod_mul]
      simp [leBytes, leValue, ih, split]

theorem leValue_lt (bytes : List UInt8) : leValue bytes < 256 ^ bytes.length := by
  induction bytes with
  | nil => simp [leValue]
  | cons byte rest ih =>
      have small := byte.toNat_lt
      rw [leValue, List.length_cons, pow_succ]
      omega

/-- A word of so many bytes read as a signed number. -/
def signedWord (width word : Nat) : Int :=
  if 2 * word < 256 ^ width then word else word - 256 ^ width

theorem signedWord_neg_iff {width word : Nat} (fits : word < 256 ^ width) :
    signedWord width word < 0 ↔ 256 ^ width ≤ 2 * word := by
  have cast : (256 : Int) ^ width = (256 ^ width : Nat) := by simp
  rw [signedWord, cast]
  split <;> omega

theorem signedWord_of_small {width word : Nat} (small : 2 * word < 256 ^ width) :
    signedWord width word = word := if_pos small

/-- So many bytes from an offset on. -/
def slice (bytes : List UInt8) (start n : Nat) : List UInt8 := (bytes.drop start).take n

namespace Octets

def ofList (bytes : List UInt8) : Octets := fun i => bytes.getD i 0

/-- The `n` bytes from `start` on. -/
def fetch (mem : Octets) (start : Nat) : Nat → List UInt8
  | 0 => []
  | n + 1 => mem start :: fetch mem (start + 1) n

def word (mem : Octets) (start width : Nat) : Nat := leValue (mem.fetch start width)

variable (mem : Octets)

@[simp] theorem fetch_zero (start : Nat) : mem.fetch start 0 = [] := rfl

@[simp] theorem fetch_length (start n : Nat) : (mem.fetch start n).length = n := by
  induction n generalizing start with
  | zero => rfl
  | succ n ih => simp [fetch, ih]

theorem fetch_getElem? (start n i : Nat) :
    (mem.fetch start n)[i]? = if i < n then some (mem (start + i)) else none := by
  induction n generalizing start i with
  | zero => simp [fetch]
  | succ n ih =>
      cases i with
      | zero => simp [fetch]
      | succ i =>
          have shift : start + 1 + i = start + (i + 1) := by omega
          simp [fetch, ih, shift]

theorem fetch_add (start n m : Nat) :
    mem.fetch start (n + m) = mem.fetch start n ++ mem.fetch (start + n) m := by
  induction n generalizing start with
  | zero => simp
  | succ n ih =>
      have shift : start + 1 + n = start + (n + 1) := by omega
      rw [Nat.succ_add, fetch, fetch, ih, shift, List.cons_append]

theorem fetch_take {start n k : Nat} (short : k ≤ n) :
    (mem.fetch start n).take k = mem.fetch start k := by
  obtain ⟨rest, rfl⟩ := Nat.exists_eq_add_of_le short
  simp [fetch_add]

theorem fetch_drop {start n k : Nat} (short : k ≤ n) :
    (mem.fetch start n).drop k = mem.fetch (start + k) (n - k) := by
  obtain ⟨rest, rfl⟩ := Nat.exists_eq_add_of_le short
  simp [fetch_add]

theorem fetch_ofList {bytes : List UInt8} {start n : Nat} (whole : start + n ≤ bytes.length) :
    (ofList bytes).fetch start n = slice bytes start n := by
  apply List.ext_getElem?
  intro i
  rw [fetch_getElem?, slice, List.getElem?_take]
  by_cases inside : i < n
  · have here : start + i < bytes.length := by omega
    simp [ofList, inside, here]
  · simp [inside]

/-- A word of a list of bytes that is the encoding of a number. -/
theorem word_ofList_leBytes (before after : List UInt8) {start : Nat} (width value : Nat)
    (here : before.length = start) :
    (ofList (before ++ (leBytes width value ++ after))).word start width =
      value % 256 ^ width := by
  have bytes : slice (before ++ (leBytes width value ++ after)) start width =
      leBytes width value := by
    rw [slice, List.drop_left' here, List.take_left' (leBytes_length width value)]
  rw [word, fetch_ofList (by simp [here]), bytes, leValue_leBytes]

/-- A slice of what was fetched is fetched from further in. -/
theorem slice_fetch {start n offset k : Nat} (whole : offset + k ≤ n) :
    slice (mem.fetch start n) offset k = mem.fetch (start + offset) k := by
  rw [slice, fetch_drop mem (by omega), fetch_take mem (by omega)]

theorem word_lt (start width : Nat) : mem.word start width < 256 ^ width := by
  simpa [word] using leValue_lt (mem.fetch start width)

end Octets
