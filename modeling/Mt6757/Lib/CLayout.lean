import Mathlib.Data.Nat.Notation

/-!
# Layout of C records

Each field of a record starts at the next multiple of its alignment; the size of a
record is rounded up to the alignment of its widest field.
-/

set_option autoImplicit false

structure CField where
  size : Nat
  align : Nat
  deriving DecidableEq, Repr

def CField.scalar (size : Nat) : CField := ⟨size, size⟩

/-- A field that is an array of characters. -/
def CField.chars (length : Nat) : CField := ⟨length, 1⟩

abbrev CRecord := List CField

namespace CRecord

def alignUp (offset align : Nat) : Nat := (offset + (align - 1)) / align * align

/-- The end of the last field when the first one may start at `offset`. -/
def extent (offset : Nat) : CRecord → Nat
  | [] => offset
  | field :: rest => extent (alignUp offset field.align + field.size) rest

def offsets (offset : Nat) : CRecord → List Nat
  | [] => []
  | field :: rest =>
      alignUp offset field.align :: offsets (alignUp offset field.align + field.size) rest

def alignment (record : CRecord) : Nat := record.foldl (fun widest field => max widest field.align) 1

def sizeof (record : CRecord) : Nat := alignUp (record.extent 0) record.alignment

def offsetof (record : CRecord) (index : Nat) : Nat := (record.offsets 0).getD index 0

/-- The record as a field of another. -/
def field (record : CRecord) : CField := ⟨record.sizeof, record.alignment⟩

end CRecord
