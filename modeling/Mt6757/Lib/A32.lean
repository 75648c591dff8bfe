import Mathlib.Data.BitVec
import Mathlib.Logic.Function.Basic
import Mt6757.Lib.MachineCode

/-!
# A part of the A32 instruction set

Moves and comparisons with an immediate, loads and stores of words with an immediate
offset, and branches.  What every other word does, and everything in Thumb state, is a
parameter.
-/

set_option autoImplicit false

namespace A32

open MachineCode

/-- The general registers; the program counter is apart. -/
abbrev Reg := Fin 15

def r0 : Reg := 0
def r1 : Reg := 1
def r2 : Reg := 2
def r3 : Reg := 3
def sp : Reg := 13
def lr : Reg := 14

structure Flags where
  n : Bool
  z : Bool
  c : Bool
  v : Bool

structure Cpu where
  reg : Reg → BitVec 32
  pc : BitVec 32
  flags : Flags
  thumb : Bool
  mem : ByteMap

namespace Cpu

def set (cpu : Cpu) (rd : Reg) (value : BitVec 32) : Cpu :=
  { cpu with reg := Function.update cpu.reg rd value }

def next (cpu : Cpu) : Cpu := { cpu with pc := cpu.pc + 4 }

/-- `BXWritePC`: bit 0 selects the state, and an address that is only even has none. -/
def bxWritePc (cpu : Cpu) (address : BitVec 32) : Option Cpu :=
  if address.getLsbD 0 then some { cpu with pc := address &&& ~~~1, thumb := true }
  else if address.getLsbD 1 then none
  else some { cpu with pc := address, thumb := false }

/-- `MemU` of four bytes. -/
def load (cpu : Cpu) (address : BitVec 32) : Option (BitVec 32) :=
  (wordAt cpu.mem address.toNat).map (BitVec.ofNat 32)

def store (cpu : Cpu) (address value : BitVec 32) : Option Cpu :=
  (storeWord cpu.mem address.toNat value.toNat).map fun mem => { cpu with mem := mem }

theorem load_eq {cpu : Cpu} {address : BitVec 32} {value : Nat}
    (read : wordAt cpu.mem address.toNat = some value) :
    cpu.load address = some (BitVec.ofNat 32 value) := by
  rw [load, read, Option.map_some]

theorem store_eq {cpu : Cpu} {address value : BitVec 32} {old : Nat}
    (mapped : wordAt cpu.mem address.toNat = some old) :
    cpu.store address value =
      some { cpu with mem := Patch.overlay [⟨address.toNat, leBytes 4 value.toNat⟩] cpu.mem } := by
  rw [store, storeWord_of_mapped mapped, Option.map_some]

@[simp] theorem set_set (cpu : Cpu) (rd : Reg) (value value' : BitVec 32) :
    (cpu.set rd value).set rd value' = cpu.set rd value' := by
  simp only [set, Function.update_idem]

@[simp] theorem load_next (cpu : Cpu) (address : BitVec 32) :
    cpu.next.load address = cpu.load address := rfl

@[simp] theorem load_set (cpu : Cpu) (rd : Reg) (value address : BitVec 32) :
    (cpu.set rd value).load address = cpu.load address := rfl

@[simp] theorem next_set (cpu : Cpu) (rd : Reg) (value : BitVec 32) :
    cpu.next.set rd value = (cpu.set rd value).next := rfl

theorem set_reg_of_ne (cpu : Cpu) {rd rn : Reg} (value : BitVec 32) (other : rn ≠ rd) :
    (cpu.set rd value).reg rn = cpu.reg rn := Function.update_of_ne other _ _

@[simp] theorem set_reg_self (cpu : Cpu) (rd : Reg) (value : BitVec 32) :
    (cpu.set rd value).reg rd = value := Function.update_self _ _ _

@[simp] theorem next_reg (cpu : Cpu) : cpu.next.reg = cpu.reg := rfl
@[simp] theorem next_pc (cpu : Cpu) : cpu.next.pc = cpu.pc + 4 := rfl
@[simp] theorem next_thumb (cpu : Cpu) : cpu.next.thumb = cpu.thumb := rfl
@[simp] theorem set_pc (cpu : Cpu) (rd : Reg) (value : BitVec 32) :
    (cpu.set rd value).pc = cpu.pc := rfl
@[simp] theorem set_thumb (cpu : Cpu) (rd : Reg) (value : BitVec 32) :
    (cpu.set rd value).thumb = cpu.thumb := rfl

end Cpu

inductive Cond where
  | eq | ne | cs | cc | mi | pl | vs | vc | hi | ls | ge | lt | gt | le | al
  deriving DecidableEq, Repr

def Cond.ofBits (code : Nat) : Option Cond :=
  [.eq, .ne, .cs, .cc, .mi, .pl, .vs, .vc, .hi, .ls, .ge, .lt, .gt, .le, .al][code]?

def Cond.holds (flags : Flags) : Cond → Bool
  | .eq => flags.z
  | .ne => !flags.z
  | .cs => flags.c
  | .cc => !flags.c
  | .mi => flags.n
  | .pl => !flags.n
  | .vs => flags.v
  | .vc => !flags.v
  | .hi => flags.c && !flags.z
  | .ls => !flags.c || flags.z
  | .ge => flags.n == flags.v
  | .lt => flags.n != flags.v
  | .gt => !flags.z && flags.n == flags.v
  | .le => flags.z || flags.n != flags.v
  | .al => true

inductive Instr where
  | movImm (rd : Reg) (imm : BitVec 32)
  | cmpImm (rn : Reg) (imm : BitVec 32)
  | ldrImm (rt rn : Reg) (offset : BitVec 32)
  | strImm (rt rn : Reg) (offset : BitVec 32)
  | b (offset : BitVec 32)
  | bx (rm : Reg)
  | blx (rm : Reg)
  deriving DecidableEq, Repr

/-! ## Decoding -/

def regOf (word : BitVec 32) (start : Nat) : Option Reg :=
  if small : field word start 4 < 15 then some ⟨field word start 4, small⟩ else none

/-- `ARMExpandImm`. -/
def expandImm (imm12 : Nat) : BitVec 32 :=
  (BitVec.ofNat 32 (imm12 % 256)).rotateRight (2 * (imm12 / 256))

/-- Up or down by a twelve-bit offset. -/
def indexOffset (word : BitVec 32) : BitVec 32 :=
  let imm := BitVec.ofNat 32 (field word 0 12)
  if word.getLsbD 23 then imm else -imm

def decodeInstr (word : BitVec 32) : Option Instr :=
  if field word 20 8 = 0x3a ∧ field word 16 4 = 0 then
    (regOf word 12).map fun rd => .movImm rd (expandImm (field word 0 12))
  else if field word 20 8 = 0x35 ∧ field word 12 4 = 0 then
    (regOf word 16).map fun rn => .cmpImm rn (expandImm (field word 0 12))
  else if field word 25 3 = 2 ∧ word.getLsbD 24 ∧ !word.getLsbD 22 ∧ !word.getLsbD 21 then do
    let rt ← regOf word 12
    let rn ← regOf word 16
    if word.getLsbD 20 then some (.ldrImm rt rn (indexOffset word))
    else some (.strImm rt rn (indexOffset word))
  else if field word 24 4 = 10 then
    some (.b ((word.extractLsb' 0 24).signExtend 32 <<< 2))
  else if field word 4 24 = 0x12fff1 then (regOf word 0).map .bx
  else if field word 4 24 = 0x12fff3 then (regOf word 0).map .blx
  else none

def decode (word : Nat) : Option (Cond × Instr) := do
  let cond ← Cond.ofBits (field (BitVec.ofNat 32 word) 28 4)
  let instr ← decodeInstr (BitVec.ofNat 32 word)
  some (cond, instr)

/-! ## Execution -/

/-- The flags of `AddWithCarry` of a number and the complement of another, with carry. -/
def cmpFlags (x y : BitVec 32) : Flags where
  n := (x - y).msb
  z := x - y == 0
  c := decide (y.toNat ≤ x.toNat)
  v := x.msb != y.msb && (x - y).msb != x.msb

/-- A branch counts from two instructions further on. -/
def execInstr (cpu : Cpu) : Instr → Option Cpu
  | .movImm rd imm => some (cpu.set rd imm).next
  | .cmpImm rn imm => some { cpu.next with flags := cmpFlags (cpu.reg rn) imm }
  | .ldrImm rt rn offset => do
      let value ← cpu.load (cpu.reg rn + offset)
      some (cpu.set rt value).next
  | .strImm rt rn offset => (cpu.store (cpu.reg rn + offset) (cpu.reg rt)).map Cpu.next
  | .b offset => some { cpu with pc := cpu.pc + 8 + offset }
  | .bx rm => cpu.bxWritePc (cpu.reg rm)
  | .blx rm => (cpu.set lr (cpu.pc + 4)).bxWritePc (cpu.reg rm)

/-- The processor, with the rest of its instructions. -/
def isa (rest : Nat → Cpu → Option Cpu) : Isa Cpu where
  pc cpu := cpu.pc.toNat
  exec word cpu :=
    if cpu.thumb then rest word cpu
    else
      match decode word with
      | none => rest word cpu
      | some (cond, instr) =>
          if cond.holds cpu.flags then execInstr cpu instr else some cpu.next

/-- The same processor with other flags and another return address. -/
def Cpu.relinked (cpu : Cpu) (flags : Flags) (link : BitVec 32) : Cpu :=
  { cpu.set lr link with flags := flags }

theorem Cpu.bxWritePc_relinked (cpu : Cpu) (flags : Flags) (link address : BitVec 32) :
    (cpu.relinked flags link).bxWritePc address =
      (cpu.bxWritePc address).map fun after => after.relinked flags link := by
  rw [bxWritePc, bxWritePc]
  split
  · rfl
  · split
    · rfl
    · rfl

@[simp] theorem Cpu.bxWritePc_next (cpu : Cpu) (address : BitVec 32) :
    cpu.next.bxWritePc address = cpu.bxWritePc address := rfl

section Steps

variable {rest : Nat → Cpu → Option Cpu} {code : ByteMap} {cpu : Cpu} {word : Nat}

/-- A word of the fragment, under a condition. -/
theorem step_of_decode {cond : Cond} {instr : Instr} (arm : cpu.thumb = false)
    (fetched : wordAt code cpu.pc.toNat = some word) (decoded : decode word = some (cond, instr)) :
    (isa rest).step code cpu =
      if cond.holds cpu.flags then execInstr cpu instr else some cpu.next := by
  have exec : (isa rest).step code cpu = (isa rest).exec word cpu := Isa.step_word fetched
  rw [exec]
  simp only [isa, arm, decoded, Bool.false_eq_true, if_false]

/-- The processor is at some word of code that is held from an entry on. -/
structure At (code : ByteMap) (entry : Nat) (bytes : List UInt8) (k : Nat) (cpu : Cpu) : Prop where
  holds : Holds code entry bytes
  fits : entry + bytes.length ≤ 2 ^ 32
  pc : cpu.pc = BitVec.ofNat 32 (entry + 4 * k)
  arm : cpu.thumb = false

variable {entry k : Nat} {bytes : List UInt8}

theorem At.fetched (here : At code entry bytes k cpu) (inside : 4 * k + 4 ≤ bytes.length) :
    wordAt code cpu.pc.toNat = some (leValue (slice bytes (4 * k) 4)) := by
  have fits := here.fits
  rw [here.pc, BitVec.toNat_ofNat, Nat.mod_eq_of_lt (by omega)]
  exact here.holds.word inside

theorem At.step (here : At code entry bytes k cpu) (cond : Cond) (instr : Instr)
    (inside : 4 * k + 4 ≤ bytes.length)
    (decoded : decode (leValue (slice bytes (4 * k) 4)) = some (cond, instr)) :
    (isa rest).step code cpu =
      if cond.holds cpu.flags then execInstr cpu instr else some cpu.next :=
  step_of_decode here.arm (here.fetched inside) decoded

/-- An instruction that is not conditional. -/
theorem At.always (here : At code entry bytes k cpu) (instr : Instr)
    (inside : 4 * k + 4 ≤ bytes.length)
    (decoded : decode (leValue (slice bytes (4 * k) 4)) = some (.al, instr)) :
    (isa rest).step code cpu = execInstr cpu instr := by
  rw [here.step .al instr inside decoded]
  rfl

theorem At.next {cpu' : Cpu} (here : At code entry bytes k cpu) (pc : cpu'.pc = cpu.pc + 4)
    (thumb : cpu'.thumb = cpu.thumb) : At code entry bytes (k + 1) cpu' where
  holds := here.holds
  fits := here.fits
  pc := by
    rw [pc, here.pc, Nat.mul_succ, ← Nat.add_assoc]
    exact (BitVec.ofNat_add (entry + 4 * k) 4).symm
  arm := thumb.trans here.arm

end Steps

theorem cmpFlags_zero_iff (x : BitVec 32) : (cmpFlags x 0).z = true ↔ x = 0 := by
  simp [cmpFlags]

end A32
