import Mt6757.Lib.LoadImage

/-!
# Machine code

Instruction words in memory, and runs of a processor over them.  The code is what is
mapped for execution; it does not change while it runs.
-/

set_option autoImplicit false

namespace MachineCode

/-- The bytes that are mapped. -/
abbrev ByteMap := Nat → Option UInt8

def field (word : BitVec 32) (start width : Nat) : Nat := (word.extractLsb' start width).toNat

def bytesAt (mem : ByteMap) : Nat → Nat → Option (List UInt8)
  | _, 0 => some []
  | address, n + 1 => do
      let byte ← mem address
      let rest ← bytesAt mem (address + 1) n
      some (byte :: rest)

/-- Four mapped bytes, as a number. -/
def wordAt (mem : ByteMap) (address : Nat) : Option Nat := (bytesAt mem address 4).map leValue

/-- Memory holds these bytes from an address on. -/
def Holds (mem : ByteMap) (address : Nat) (bytes : List UInt8) : Prop :=
  ∀ i < bytes.length, mem (address + i) = bytes[i]?

section Words

variable {mem mem' : ByteMap} {address : Nat} {bytes : List UInt8}

theorem bytesAt_of_holds (holds : Holds mem address bytes) :
    bytesAt mem address bytes.length = some bytes := by
  induction bytes generalizing address with
  | nil => rfl
  | cons byte rest ih =>
      have first : mem address = some byte := holds 0 (by simp)
      have later : Holds mem (address + 1) rest := by
        intro i inside
        have next := holds (i + 1) (by simpa using inside)
        rw [Nat.add_assoc, Nat.add_comm 1 i, next, List.getElem?_cons_succ]
      rw [List.length_cons, bytesAt, first, ih later]
      rfl

theorem wordAt_of_holds (holds : Holds mem address bytes) (length : bytes.length = 4) :
    wordAt mem address = some (leValue bytes) := by
  have read := bytesAt_of_holds holds
  rw [length] at read
  rw [wordAt, read, Option.map_some]

theorem Holds.word (holds : Holds mem address bytes) {k : Nat}
    (inside : 4 * k + 4 ≤ bytes.length) :
    wordAt mem (address + 4 * k) = some (leValue (slice bytes (4 * k) 4)) := by
  apply wordAt_of_holds
  · intro i short
    simp only [slice, List.length_take, List.length_drop] at short
    rw [slice_getElem?, if_pos (by omega), Nat.add_assoc]
    exact holds (4 * k + i) (by omega)
  · simp only [slice, List.length_take, List.length_drop]
    omega

theorem bytesAt_congr {n : Nat} (same : ∀ i < n, mem' (address + i) = mem (address + i)) :
    bytesAt mem' address n = bytesAt mem address n := by
  induction n generalizing address with
  | zero => rfl
  | succ n ih =>
      have first := same 0 (by omega)
      have later : bytesAt mem' (address + 1) n = bytesAt mem (address + 1) n := by
        apply ih
        intro i inside
        have next := same (i + 1) (by omega)
        rwa [Nat.add_comm i 1, ← Nat.add_assoc] at next
      rw [Nat.add_zero] at first
      rw [bytesAt, bytesAt, first, later]

theorem wordAt_congr (same : ∀ i < 4, mem' (address + i) = mem (address + i)) :
    wordAt mem' address = wordAt mem address := by
  rw [wordAt, wordAt, bytesAt_congr same]

/-- A store, which takes mapped bytes. -/
def storeWord (mem : ByteMap) (address value : Nat) : Option ByteMap :=
  (wordAt mem address).map fun _ => Patch.overlay [⟨address, leBytes 4 value⟩] mem

theorem word_covers {value i : Nat} :
    Patch.Covers ⟨address, leBytes 4 value⟩ i ↔ address ≤ i ∧ i < address + 4 := by
  simp [Patch.Covers, Patch.stop]

theorem storeWord_of_mapped {value old : Nat} (mapped : wordAt mem address = some old) :
    storeWord mem address value = some (Patch.overlay [⟨address, leBytes 4 value⟩] mem) := by
  rw [storeWord, mapped, Option.map_some]

theorem wordAt_store {value : Nat} (small : value < 256 ^ 4) :
    wordAt (Patch.overlay [⟨address, leBytes 4 value⟩] mem) address = some value := by
  have holds : Holds (Patch.overlay [⟨address, leBytes 4 value⟩] mem) address (leBytes 4 value) := by
    intro i inside
    rw [leBytes_length] at inside
    rw [Patch.overlay_covered (List.pairwise_singleton _ _) (List.mem_singleton_self _)
      (word_covers.mpr ⟨by omega, by omega⟩)]
    simp
  rw [wordAt_of_holds holds (leBytes_length 4 value), leValue_leBytes, Nat.mod_eq_of_lt small]

theorem store_off {value i : Nat} (off : i < address ∨ address + 4 ≤ i) :
    Patch.overlay [⟨address, leBytes 4 value⟩] mem i = mem i := by
  apply Patch.overlay_off
  intro patch here
  rw [List.mem_singleton] at here
  rw [here, word_covers]
  omega

theorem wordAt_store_apart {value other : Nat} (apart : other + 4 ≤ address ∨ address + 4 ≤ other) :
    wordAt (Patch.overlay [⟨address, leBytes 4 value⟩] mem) other = wordAt mem other :=
  wordAt_congr fun i inside => store_off (by omega)

end Words

/-! ## Runs -/

/-- A processor: where it fetches, and what the instruction word does to its state.  A
fault has no next state. -/
structure Isa (σ : Type) where
  pc : σ → Nat
  exec : Nat → σ → Option σ

namespace Isa

variable {σ : Type} (isa : Isa σ)

def step (code : ByteMap) (s : σ) : Option σ :=
  (wordAt code (isa.pc s)).bind fun word => isa.exec word s

def run (code : ByteMap) : Nat → σ → Option σ
  | 0, s => some s
  | n + 1, s => (isa.step code s).bind (run code n)

variable {isa} {code code' : ByteMap} {s s' s'' : σ} {n m : Nat}

theorem step_word {word : Nat} (fetched : wordAt code (isa.pc s) = some word) :
    isa.step code s = isa.exec word s := by
  rw [step, fetched, Option.bind_some]

theorem run_step (stepped : isa.step code s = some s') :
    isa.run code (n + 1) s = isa.run code n s' := by
  rw [run, stepped, Option.bind_some]

@[simp] theorem run_one : isa.run code 1 s = isa.step code s := by
  rw [run]
  cases isa.step code s <;> rfl

/-- Two codes have the same run as long as they do the same in every state it visits. -/
theorem run_congr
    (agree : ∀ k < n, ∀ s', isa.run code k s = some s' → isa.step code' s' = isa.step code s') :
    isa.run code' n s = isa.run code n s := by
  induction n generalizing s with
  | zero => rfl
  | succ n ih =>
      have first := agree 0 (by omega) s rfl
      rw [run, run, first]
      cases stepped : isa.step code s with
      | none => rfl
      | some next =>
          apply ih
          intro k small s' reached
          apply agree (k + 1) (by omega) s'
          rw [run_step stepped, reached]

end Isa

end MachineCode
