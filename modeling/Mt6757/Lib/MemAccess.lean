import Mathlib.Algebra.Order.Ring.Int
import Mt6757.Lib.Octets
import Mt6757.Lib.Traced

/-!
# Accesses to buffers

What a decoder does to memory: it reads bytes of a buffer that ends somewhere, it
writes elements of an array that has room for so many, it hands a pointer to a
function that reads up to the terminating zero.  A length of type `int` that is
negative is a huge one to `memcpy`.
-/

set_option autoImplicit false

inductive MemAccess where
  /-- Bytes from `start` on, of a buffer that ends at `bound`. -/
  | read (start : Nat) (size bound : Int)
  /-- Elements from `start` on, of an array of `room`. -/
  | write (start size room : Int)
  /-- Bytes from `start` up to the first zero, of a buffer that ends at `bound`. -/
  | string (start bound : Nat)
  /-- A field of what a null pointer points to. -/
  | null
  deriving DecidableEq, Repr

namespace MemAccess

def Fits (mem : Octets) : MemAccess → Prop
  | .read start size bound => 0 ≤ size ∧ (0 < size → start + size ≤ bound)
  | .write start size room => 0 ≤ size ∧ (0 < size → 0 ≤ start ∧ start + size ≤ room)
  | .string start bound => ∃ stop < bound, start ≤ stop ∧ mem stop = 0
  | .null => False

instance (mem : Octets) (access : MemAccess) : Decidable (access.Fits mem) := by
  cases access <;> unfold Fits <;> infer_instance

variable {mem : Octets}

@[simp] theorem fits_read {start : Nat} {size bound : Int} :
    (MemAccess.read start size bound).Fits mem ↔
      0 ≤ size ∧ (0 < size → start + size ≤ bound) := Iff.rfl

@[simp] theorem fits_write {start size room : Int} :
    (MemAccess.write start size room).Fits mem ↔
      0 ≤ size ∧ (0 < size → 0 ≤ start ∧ start + size ≤ room) := Iff.rfl

@[simp] theorem fits_string {start bound : Nat} :
    (MemAccess.string start bound).Fits mem ↔ ∃ stop < bound, start ≤ stop ∧ mem stop = 0 :=
  Iff.rfl

@[simp] theorem not_fits_null : ¬ MemAccess.null.Fits mem := id

/-- No access of the run leaves its buffer. -/
abbrev Safe {α : Type} (mem : Octets) (run : Traced MemAccess α) : Prop :=
  run.Every (Fits mem)

/-- Copy bytes out of a buffer that ends at `bound`. -/
def copy (mem : Octets) (start : Nat) (size bound : Int) : Traced MemAccess (List UInt8) :=
  ⟨mem.fetch start size.toNat, [.read start size bound]⟩

/-- A word of a buffer that ends at `bound`. -/
def word (mem : Octets) (start width : Nat) (bound : Int) : Traced MemAccess Nat :=
  ⟨mem.word start width, [.read start width bound]⟩

-- Not closed by `rfl`, so that `simp` rewrites conditions together with their instances.
@[simp] theorem copy_value (start : Nat) (size bound : Int) :
    (copy mem start size bound).value = mem.fetch start size.toNat := by
  simp only [copy]

@[simp] theorem word_value (start width : Nat) (bound : Int) :
    (word mem start width bound).value = mem.word start width := by
  simp only [word]

@[simp] theorem safe_copy {source : Octets} {start : Nat} {size bound : Int} :
    Safe mem (copy source start size bound) ↔
      0 ≤ size ∧ (0 < size → start + size ≤ bound) := by
  simp [Safe, Traced.Every, copy]

@[simp] theorem safe_word {source : Octets} {start width : Nat} {bound : Int} :
    Safe mem (word source start width bound) ↔ (0 < width → start + width ≤ bound) := by
  simp [Safe, Traced.Every, word]

/-- As `Fits`, of stores only. -/
def StoreFits : MemAccess → Prop
  | .write start size room => 0 ≤ size ∧ (0 < size → 0 ≤ start ∧ start + size ≤ room)
  | _ => True

@[simp] theorem storeFits_write {start size room : Int} :
    StoreFits (.write start size room) ↔
      0 ≤ size ∧ (0 < size → 0 ≤ start ∧ start + size ≤ room) := Iff.rfl

@[simp] theorem copy_stores (source : Octets) (start : Nat) (size bound : Int) :
    (copy source start size bound).Every StoreFits := by
  simp [Traced.Every, copy, StoreFits]

@[simp] theorem word_stores (source : Octets) (start width : Nat) (bound : Int) :
    (word source start width bound).Every StoreFits := by
  simp [Traced.Every, word, StoreFits]

end MemAccess
