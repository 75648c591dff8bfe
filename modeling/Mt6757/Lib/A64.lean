import Mathlib.Data.BitVec
import Mathlib.Logic.Function.Basic
import Mt6757.Lib.MachineCode

/-!
# A part of the A64 instruction set

Moves of an immediate, returns, branches on a register that is not zero, and the
instruction that does nothing.  What the other words do is a parameter, and so is the
state that none of these touches.
-/

set_option autoImplicit false

namespace A64

open MachineCode

/-- The general registers without register 31, which reads as zero here. -/
abbrev Reg := Fin 31

def lr : Reg := 30

structure Cpu (τ : Type) where
  x : Reg → BitVec 64
  pc : BitVec 64
  others : τ

section Cpu

variable {τ : Type}

def Cpu.next (cpu : Cpu τ) : Cpu τ := { cpu with pc := cpu.pc + 4 }

def Cpu.read (cpu : Cpu τ) (code : Nat) : BitVec 64 :=
  if small : code < 31 then cpu.x ⟨code, small⟩ else 0

def Cpu.set (cpu : Cpu τ) (code : Nat) (value : BitVec 64) : Cpu τ :=
  if small : code < 31 then { cpu with x := Function.update cpu.x ⟨code, small⟩ value } else cpu

end Cpu

inductive Instr where
  /-- the width, the register, and the value that is moved -/
  | movz (wide : Bool) (rd : Nat) (imm : BitVec 64)
  | ret (rn : Nat)
  | cbnz (wide : Bool) (rt : Nat) (offset : BitVec 64)
  | nop
  deriving DecidableEq, Repr

def decodeWord (word : BitVec 32) : Option Instr :=
  if field word 23 8 = 0xa5 ∧ (word.getLsbD 31 ∨ !word.getLsbD 22) then
    some (.movz (word.getLsbD 31) (field word 0 5)
      ((word.extractLsb' 5 16).setWidth 64 <<< (16 * field word 21 2)))
  else if field word 10 22 = 0x3597c0 ∧ field word 0 5 = 0 then some (.ret (field word 5 5))
  else if field word 24 7 = 0x35 then
    some (.cbnz (word.getLsbD 31) (field word 0 5) ((word.extractLsb' 5 19).signExtend 64 <<< 2))
  else if word = 0xd503201f then some .nop
  else none

def decode (word : Nat) : Option Instr := decodeWord (BitVec.ofNat 32 word)

section Exec

variable {τ : Type}

/-- A register as a number of the width. -/
def Cpu.readAs (cpu : Cpu τ) (wide : Bool) (code : Nat) : BitVec 64 :=
  if wide then cpu.read code else ((cpu.read code).setWidth 32).setWidth 64

def execInstr (cpu : Cpu τ) : Instr → Cpu τ
  | .movz _ rd imm => (cpu.set rd imm).next
  | .ret rn => { cpu with pc := cpu.read rn }
  | .cbnz wide rt offset =>
      if cpu.readAs wide rt ≠ 0 then { cpu with pc := cpu.pc + offset } else cpu.next
  | .nop => cpu.next

/-- The processor, with the rest of its instructions.  It faults where the program
counter is not aligned. -/
def isa (rest : Nat → Cpu τ → Option (Cpu τ)) : Isa (Cpu τ) where
  pc cpu := cpu.pc.toNat
  exec word cpu :=
    if cpu.pc.toNat % 4 ≠ 0 then none
    else
      match decode word with
      | none => rest word cpu
      | some instr => some (execInstr cpu instr)

variable {rest : Nat → Cpu τ → Option (Cpu τ)} {code : ByteMap} {cpu : Cpu τ} {word : Nat}

theorem step_of_decode (instr : Instr) (aligned : cpu.pc.toNat % 4 = 0)
    (fetched : wordAt code cpu.pc.toNat = some word) (decoded : decode word = some instr) :
    (isa rest).step code cpu = some (execInstr cpu instr) := by
  have exec : (isa rest).step code cpu = (isa rest).exec word cpu := Isa.step_word fetched
  rw [exec]
  simp only [isa, aligned, decoded, ne_eq, not_true, if_false]

theorem step_misaligned (misaligned : cpu.pc.toNat % 4 ≠ 0) :
    (isa rest).step code cpu = none := by
  rw [Isa.step]
  cases wordAt code ((isa rest).pc cpu) with
  | none => rfl
  | some word => exact if_pos misaligned

/-- Where two codes have the same word. -/
theorem step_congr {code' : ByteMap}
    (same : wordAt code' cpu.pc.toNat = wordAt code cpu.pc.toNat) :
    (isa rest).step code' cpu = (isa rest).step code cpu := by
  have fetch : wordAt code' ((isa rest).pc cpu) = wordAt code ((isa rest).pc cpu) := same
  rw [Isa.step, Isa.step, fetch]

end Exec

end A64
