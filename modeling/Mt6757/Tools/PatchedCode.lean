import Mt6757.Lib.A32
import Mt6757.Tools.ElfPatch

/-!
# What the patched audio code does

The bytes that a script puts into a vendor library are instructions.  Here those of the
audio HAL are run: from the file that the script writes, through the loader, to the state
in which the patched function returns.
-/

set_option autoImplicit false

namespace Mt6757.Tools

open MachineCode

/-! ## From the file to the processor -/

/-- Code memory has what the loader takes from an image, moved by a base. -/
def Mapped (cls : ElfClass) (image : List UInt8) (base : Nat) (code : ByteMap) : Prop :=
  ∀ address byte, load (cls.segments image) (fun i => image[i]?) address = some byte →
    code (base + address) = some byte

theorem Faithful.holds {cls : ElfClass} {sites : List (Nat × List UInt8)} {blob out : List UInt8}
    {base : Nat} {code : ByteMap} (faithful : Faithful cls sites blob out)
    (apart : (sites.map fun site => (⟨site.1, site.2⟩ : Patch)).Pairwise Patch.Apart)
    (mapped : Mapped cls out base code) {site : Nat × List UInt8} (here : site ∈ sites) :
    Holds code (base + site.1) site.2 := by
  intro i inside
  have covers : Patch.Covers ⟨site.1, site.2⟩ (site.1 + i) :=
    ⟨Nat.le_add_right _ _, Nat.add_lt_add_left inside _⟩
  have loaded := faithful.memory (site.1 + i)
  rw [Patch.overlay_covered apart (List.mem_map_of_mem here) covers] at loaded
  simp only [Nat.add_sub_cancel_left, List.getElem?_eq_getElem inside] at loaded
  rw [Nat.add_assoc, List.getElem?_eq_getElem inside]
  exact mapped _ _ loaded

def mapAt (cls : ElfClass) (image : List UInt8) (base : Nat) : ByteMap := fun address =>
  if base ≤ address then load (cls.segments image) (fun i => image[i]?) (address - base) else none

theorem mapped_mapAt (cls : ElfClass) (image : List UInt8) (base : Nat) :
    Mapped cls image base (mapAt cls image base) := by
  intro address byte loaded
  rw [mapAt, if_pos (Nat.le_add_right base address), Nat.add_sub_cancel_left, loaded]

theorem sound_of_windows {cls : ElfClass} {sites : List (Nat × List UInt8)} {blob : List UInt8}
    {patches : List LoadedPatch} (segments : cls.segments blob = patches.map LoadedPatch.segment)
    (places : placed cls sites blob = patches) (backed : Backed cls sites blob)
    (inside : ∀ patch ∈ patches, patch.inFile.Inside blob)
    (apart : (patches.map LoadedPatch.inFile).Pairwise Patch.Apart)
    (apartVirtual : (patches.map LoadedPatch.virtual).Pairwise Patch.Apart) :
    Sound cls sites blob := by
  subst places
  refine ⟨backed, inside, apart, ?_, ?_⟩
  · intro patch there address here
    rw [LoadsByte, segments, placeOf_windows apartVirtual there here]
    obtain ⟨low, high⟩ := here
    simp only [LoadedPatch.virtual, Patch.stop] at low high
    refine .inl ⟨patch, there, ⟨Nat.le_add_right _ _, ?_⟩, ?_⟩
    · simp only [LoadedPatch.inFile, Patch.stop]
      omega
    · rw [Nat.add_sub_cancel_left]
  · intro address off position here
    rw [segments, placeOf_off_windows off] at here
    cases here

/-! ## The audio HAL -/

namespace AudioDc

open A32

variable {rest : Nat → Cpu → Option Cpu} {code : ByteMap} {entry : Nat} {cpu : Cpu}

/-- `int initDcRemoval() { return 0; }` -/
theorem run_initPatch (here : At code entry initPatch 0 cpu) :
    (isa rest).run code 2 cpu = (cpu.set r0 0).bxWritePc (cpu.reg lr) := by
  have moved : (isa rest).step code cpu = some (cpu.set r0 0).next :=
    here.always (.movImm r0 0) (by decide) (by decide)
  have after : At code entry initPatch 1 (cpu.set r0 0).next := here.next rfl rfl
  have returned : (isa rest).step code (cpu.set r0 0).next = (cpu.set r0 0).bxWritePc (cpu.reg lr) :=
    after.always (.bx lr) (by decide) (by decide)
  rw [Isa.run_step moved, Isa.run_one, returned]

/-- The arguments of `doDcRemoval`: the results go where a register and a word on the
stack point to, and the three places do not overlap. -/
structure Arguments (cpu : Cpu) (out outBytes : BitVec 32) : Prop where
  register : cpu.reg r3 = out
  stack : wordAt cpu.mem (cpu.reg sp).toNat = some outBytes.toNat
  outMapped : ∃ old, wordAt cpu.mem out.toNat = some old
  outBytesMapped : ∃ old, wordAt cpu.mem outBytes.toNat = some old
  stackApart : (cpu.reg sp).toNat + 4 ≤ out.toNat ∨ out.toNat + 4 ≤ (cpu.reg sp).toNat
  apart : outBytes.toNat + 4 ≤ out.toNat ∨ out.toNat + 4 ≤ outBytes.toNat

def stored (cpu : Cpu) (out outBytes : BitVec 32) : ByteMap :=
  Patch.overlay [⟨outBytes.toNat, leBytes 4 (cpu.reg r2).toNat⟩]
    (Patch.overlay [⟨out.toNat, leBytes 4 (cpu.reg r1).toNat⟩] cpu.mem)

/-- `*out = in; *outBytes = bytes; return 0;` -/
theorem run_passthroughPatch {out outBytes : BitVec 32}
    (here : At code entry passthroughPatch 0 cpu) (arguments : Arguments cpu out outBytes) :
    (isa rest).run code 5 cpu =
      ({ cpu.set r0 0 with mem := stored cpu out outBytes }).bxWritePc (cpu.reg lr) := by
  obtain ⟨old, outMapped⟩ := arguments.outMapped
  obtain ⟨old', outBytesMapped⟩ := arguments.outBytesMapped
  -- str r1, [r3]
  let cpu₁ : Cpu := { cpu with
    mem := Patch.overlay [⟨out.toNat, leBytes 4 (cpu.reg r1).toNat⟩] cpu.mem }
  have first : (isa rest).step code cpu = some cpu₁.next := by
    rw [here.always (.strImm r1 r3 0#32) (by decide) (by decide), execInstr,
      BitVec.add_zero, arguments.register, Cpu.store_eq outMapped, Option.map_some]
  have here₁ : At code entry passthroughPatch 1 cpu₁.next := here.next rfl rfl
  -- ldr r0, [sp]
  let cpu₂ : Cpu := cpu₁.next.set r0 outBytes
  have pointer : wordAt cpu₁.next.mem (cpu₁.next.reg sp).toNat = some outBytes.toNat :=
    (wordAt_store_apart arguments.stackApart).trans arguments.stack
  have second : (isa rest).step code cpu₁.next = some cpu₂.next := by
    rw [here₁.always (.ldrImm r0 sp 0#32) (by decide) (by decide), execInstr,
      BitVec.add_zero, Cpu.load_eq pointer, BitVec.ofNat_toNat, BitVec.setWidth_eq]
    rfl
  have here₂ : At code entry passthroughPatch 2 cpu₂.next := here₁.next rfl rfl
  -- str r2, [r0]
  let cpu₃ : Cpu := { cpu₂.next with mem := stored cpu out outBytes }
  have address : cpu₂.next.reg r0 = outBytes := by
    rw [Cpu.next_reg, Cpu.set_reg_self]
  have mapped : wordAt cpu₂.next.mem outBytes.toNat = some old' :=
    (wordAt_store_apart arguments.apart).trans outBytesMapped
  have third : (isa rest).step code cpu₂.next = some cpu₃.next := by
    rw [here₂.always (.strImm r2 r0 0#32) (by decide) (by decide), execInstr,
      BitVec.add_zero, address, Cpu.store_eq mapped, Option.map_some]
    rfl
  have here₃ : At code entry passthroughPatch 3 cpu₃.next := here₂.next rfl rfl
  -- mov r0, #0
  have fourth : (isa rest).step code cpu₃.next = some (cpu₃.next.set r0 0).next :=
    here₃.always (.movImm r0 0) (by decide) (by decide)
  have here₄ : At code entry passthroughPatch 4 (cpu₃.next.set r0 0).next := here₃.next rfl rfl
  -- bx lr
  have link : (cpu₃.next.set r0 0).next.reg lr = cpu.reg lr := by
    have other : lr ≠ r0 := by decide
    rw [Cpu.next_reg, Cpu.set_reg_of_ne _ _ other]
    exact Cpu.set_reg_of_ne cpu₁.next outBytes other
  have fifth : (isa rest).step code (cpu₃.next.set r0 0).next =
      (cpu₃.set r0 0).bxWritePc (cpu.reg lr) := by
    rw [here₄.always (.bx lr) (by decide) (by decide), execInstr, link,
      Cpu.bxWritePc_next]
    rfl
  have registers : (cpu₃.set r0 0).reg = (cpu.set r0 0).reg := by
    show Function.update (Function.update cpu.reg r0 outBytes) r0 0 = _
    rw [Function.update_idem]
    rfl
  rw [Isa.run_step first, Isa.run_step second, Isa.run_step third, Isa.run_step fourth,
    Isa.run_one, fifth, Cpu.bxWritePc, registers]
  rfl

/-- Whatever the base, the two functions of a patched library do what the comments at their
patches say, and return. -/
theorem dcRemoval_passes_through {blob out : List UInt8} {base : Nat}
    (faithful : Faithful elf32 sites blob out) (mapped : Mapped elf32 out base code)
    (low : base + doDcRemovalVa + passthroughPatch.length ≤ 2 ^ 32) (arm : cpu.thumb = false) :
    (cpu.pc = BitVec.ofNat 32 (base + initDcRemovalVa) →
      (isa rest).run code 2 cpu = (cpu.set r0 0).bxWritePc (cpu.reg lr)) ∧
    ∀ out outBytes, cpu.pc = BitVec.ofNat 32 (base + doDcRemovalVa) →
      Arguments cpu out outBytes →
      ∃ mem, (isa rest).run code 5 cpu = ({ cpu.set r0 0 with mem := mem }).bxWritePc (cpu.reg lr) ∧
        wordAt mem out.toNat = some (cpu.reg r1).toNat ∧
        wordAt mem outBytes.toNat = some (cpu.reg r2).toNat ∧
        ∀ i, (i < out.toNat ∨ out.toNat + 4 ≤ i) → (i < outBytes.toNat ∨ outBytes.toNat + 4 ≤ i) →
          mem i = cpu.mem i := by
  have holds : ∀ site ∈ sites, Holds code (base + site.1) site.2 :=
    fun _ here => faithful.holds patcher.apart mapped here
  constructor
  · intro pc
    have below : initDcRemovalVa + initPatch.length ≤ doDcRemovalVa + passthroughPatch.length := by
      decide
    exact run_initPatch ⟨holds (initDcRemovalVa, initPatch) (by decide), by
      show base + initDcRemovalVa + initPatch.length ≤ 2 ^ 32
      omega, pc, arm⟩
  · intro out outBytes pc arguments
    have small : (cpu.reg r1).toNat < 256 ^ 4 := (cpu.reg r1).isLt
    have small' : (cpu.reg r2).toNat < 256 ^ 4 := (cpu.reg r2).isLt
    refine ⟨stored cpu out outBytes,
      run_passthroughPatch ⟨holds (doDcRemovalVa, passthroughPatch) (by decide), low, pc, arm⟩
        arguments, ?_, wordAt_store small', fun i off off' => ?_⟩
    · exact (wordAt_store_apart arguments.apart.symm).trans (wordAt_store small)
    · rw [stored, store_off off', store_off off]

/-! ### The call through a pointer that may be null -/

theorem run_virtualCall {bytes : List UInt8} {k : Nat} (here : At code entry bytes k cpu)
    (inside : 4 * k + 12 ≤ bytes.length)
    (table : decode (leValue (slice bytes (4 * k) 4)) = some (.al, .ldrImm r1 r0 0#32))
    (function : decode (leValue (slice bytes (4 * (k + 1)) 4)) = some (.al, .ldrImm r1 r1 8#32))
    (call : decode (leValue (slice bytes (4 * (k + 1 + 1)) 4)) = some (.al, .blx r1)) :
    (isa rest).run code 3 cpu =
      (cpu.load (cpu.reg r0)).bind fun vtable => (cpu.load (vtable + 8#32)).bind fun target =>
        ((cpu.set r1 target).set lr (cpu.pc + 12)).bxWritePc target := by
  have first := (here.always _ (by omega) table : (isa rest).step code cpu = _)
  rw [execInstr, BitVec.add_zero] at first
  rw [Isa.run, first]
  cases cpu.load (cpu.reg r0) with
  | none => rfl
  | some vtable =>
      have here₁ : At code entry bytes (k + 1) (cpu.set r1 vtable).next := here.next rfl rfl
      have second : (isa rest).step code (cpu.set r1 vtable).next = _ :=
        here₁.always _ (by omega) function
      rw [execInstr, Cpu.next_reg, Cpu.set_reg_self, Cpu.load_next, Cpu.load_set] at second
      simp only [Option.bind_eq_bind, Option.bind_some]
      rw [Isa.run, second]
      cases cpu.load (vtable + 8#32) with
      | none => rfl
      | some target =>
          have here₂ : At code entry bytes (k + 1 + 1) (cpu.set r1 target).next.next :=
            here₁.next rfl rfl
          have third : (isa rest).step code (cpu.set r1 target).next.next = _ :=
            here₂.always _ (by omega) call
          have link : (cpu.set r1 target).next.next.pc + 4 = cpu.pc + 12 := by
            show cpu.pc + 4 + 4 + 4 = cpu.pc + 12
            rw [BitVec.add_assoc, BitVec.add_assoc]
            rfl
          rw [execInstr, link, Cpu.next_reg, Cpu.next_reg, Cpu.set_reg_self, Cpu.next_set,
            Cpu.next_set, Cpu.bxWritePc_next, Cpu.bxWritePc_next] at third
          simp only [Option.bind_eq_bind, Option.bind_some, Cpu.next_set, Cpu.set_set]
          rw [Isa.run_one, third]

/-- Where the guard goes for a null pointer, and where it joins the stock code again. -/
def nullPathVa : Nat := 0x95e90
def nullCheckVa : Nat := 0x95e84

theorem guard_null (here : At code entry bgsNullGuardPatch 0 cpu) (null : cpu.reg r0 = 0) :
    (isa rest).run code 2 cpu =
      some { cpu with pc := BitVec.ofNat 32 (entry + 0x38), flags := cmpFlags 0 0 } := by
  have compared : (isa rest).step code cpu =
      some { cpu.next with flags := cmpFlags (cpu.reg r0) 0 } :=
    here.always (.cmpImm r0 0) (by decide) (by decide)
  rw [null] at compared
  have here₁ : At code entry bgsNullGuardPatch 1 { cpu.next with flags := cmpFlags 0 0 } :=
    here.next rfl rfl
  have branched : (isa rest).step code { cpu.next with flags := cmpFlags 0 0 } = _ :=
    here₁.step .eq (.b 0x2c) (by decide) (by decide)
  have zero : Cond.eq.holds (cmpFlags 0 0) = true := (cmpFlags_zero_iff 0).mpr rfl
  have target : cpu.pc + 4 + 8 + 0x2c = BitVec.ofNat 32 (entry + 0x38) := by
    rw [here.pc, BitVec.add_assoc, BitVec.add_assoc]
    exact (BitVec.ofNat_add entry 0x38).symm
  rw [Isa.run_step compared, Isa.run_one, branched, if_pos zero, execInstr, ← target]
  rfl

/-- For any other pointer the guard does what the stock code does, faults included, but for
the flags and the address that the call returns to. -/
theorem guard_call {stock : ByteMap} (here : At code entry bgsNullGuardPatch 0 cpu)
    (original : Holds stock entry nullDeref) (pointer : cpu.reg r0 ≠ 0) :
    (isa rest).run code 5 cpu =
      ((isa rest).run stock 3 cpu).map fun after =>
        after.relinked (cmpFlags (cpu.reg r0) 0) (BitVec.ofNat 32 (entry + 20)) := by
  let cpu₁ : Cpu := { cpu.next with flags := cmpFlags (cpu.reg r0) 0 }
  have compared : (isa rest).step code cpu = some cpu₁ :=
    here.always (.cmpImm r0 0) (by decide) (by decide)
  have here₁ : At code entry bgsNullGuardPatch 1 cpu₁ := here.next rfl rfl
  have nonzero : ¬ Cond.eq.holds cpu₁.flags = true := mt (cmpFlags_zero_iff _).mp pointer
  have skipped : (isa rest).step code cpu₁ = some cpu₁.next := by
    rw [here₁.step .eq (.b 0x2c) (by decide) (by decide), if_neg nonzero]
  have here₂ : At code entry bgsNullGuardPatch 2 cpu₁.next := here₁.next rfl rfl
  have shorter : nullDeref.length ≤ bgsNullGuardPatch.length := by decide
  have fits := here.fits
  have stockHere : At stock entry nullDeref 0 cpu := ⟨original, by omega, here.pc, here.arm⟩
  have link : cpu₁.next.pc + 12 = BitVec.ofNat 32 (entry + 20) := by
    show cpu.pc + 4 + 4 + 12 = _
    rw [here.pc, BitVec.add_assoc, BitVec.add_assoc]
    exact (BitVec.ofNat_add entry 20).symm
  rw [Isa.run_step compared, Isa.run_step skipped,
    run_virtualCall here₂ (by decide) (by decide) (by decide) (by decide),
    run_virtualCall stockHere (by decide) (by decide) (by decide) (by decide), link]
  show ((cpu.load (cpu.reg r0)).bind fun vtable => _) = _
  cases cpu.load (cpu.reg r0) with
  | none => rfl
  | some vtable =>
      simp only [Option.bind_some]
      show ((cpu.load (vtable + 8#32)).bind fun target => _) = _
      cases cpu.load (vtable + 8#32) with
      | none => rfl
      | some target =>
          simp only [Option.bind_some]
          rw [← Cpu.bxWritePc_relinked, Cpu.relinked, Cpu.set_set]
          rfl

theorem guard_back (here : At code entry bgsNullGuardPatch 5 cpu) :
    (isa rest).step code cpu = some { cpu with pc := BitVec.ofNat 32 (entry + 0x2c) } := by
  rw [here.always (.b 0x10) (by decide) (by decide), execInstr, here.pc, BitVec.add_assoc]
  exact congrArg (fun pc => some { cpu with pc := pc })
    (BitVec.ofNat_add (entry + 4 * 5) 0x18).symm

/-- The guard at its place in the library: a null pointer goes to the null path without a
load, any other one through the stock code's call, and what comes back from it goes on at
the stock code's own check.  The stock code faults where page zero is not mapped. -/
theorem bgs_guarded {blob out : List UInt8} {base : Nat} {stock : ByteMap}
    (faithful : Faithful elf32 sites blob out) (mapped : Mapped elf32 out base code)
    (original : Holds stock (base + bgsNullDerefVa) nullDeref)
    (low : base + bgsNullDerefVa + bgsNullGuardPatch.length ≤ 2 ^ 32) (arm : cpu.thumb = false) :
    (cpu.pc = BitVec.ofNat 32 (base + bgsNullDerefVa) →
      (cpu.reg r0 = 0 →
        (isa rest).run code 2 cpu =
          some { cpu with pc := BitVec.ofNat 32 (base + nullPathVa), flags := cmpFlags 0 0 }) ∧
      (cpu.reg r0 = 0 → cpu.mem 0 = none → (isa rest).step stock cpu = none) ∧
      (cpu.reg r0 ≠ 0 →
        (isa rest).run code 5 cpu =
          ((isa rest).run stock 3 cpu).map fun after =>
            after.relinked (cmpFlags (cpu.reg r0) 0) (BitVec.ofNat 32 (base + bgsNullDerefVa + 20)))) ∧
    (cpu.pc = BitVec.ofNat 32 (base + bgsNullDerefVa + 20) →
      (isa rest).step code cpu = some { cpu with pc := BitVec.ofNat 32 (base + nullCheckVa) }) := by
  have holds : Holds code (base + bgsNullDerefVa) bgsNullGuardPatch :=
    faithful.holds patcher.apart mapped (List.mem_of_getElem? (i := 2) rfl)
  constructor
  · intro pc
    have here : At code (base + bgsNullDerefVa) bgsNullGuardPatch 0 cpu := ⟨holds, low, pc, arm⟩
    refine ⟨guard_null here, fun null unmapped => ?_, guard_call here original⟩
    have shorter : nullDeref.length ≤ bgsNullGuardPatch.length := by decide
    have stockHere : At stock (base + bgsNullDerefVa) nullDeref 0 cpu :=
      ⟨original, by omega, pc, arm⟩
    have fault : cpu.load 0 = none := by
      have missing : wordAt cpu.mem 0 = none := by
        rw [wordAt, bytesAt, unmapped]
        rfl
      exact congrArg (Option.map _) missing
    rw [stockHere.always (.ldrImm r1 r0 0#32) (by decide) (by decide), execInstr, BitVec.add_zero,
      null, fault]
    rfl
  · intro pc
    exact guard_back ⟨holds, low, pc, arm⟩

/-! ### An image that the script patches -/

def image : List UInt8 := truncatedImage ++ List.replicate 12 0

def imagePatches : List LoadedPatch :=
  [⟨initDcRemovalVa, 164, initPatch⟩, ⟨doDcRemovalVa, 172, passthroughPatch⟩,
    ⟨bgsNullDerefVa, 192, bgsNullGuardPatch⟩]

theorem image_segments : elf32.segments image = imagePatches.map LoadedPatch.segment := by
  decide +kernel

theorem image_placed : placed elf32 sites image = imagePatches := by decide +kernel

theorem image_sound : Sound elf32 sites image := by
  refine sound_of_windows image_segments image_placed ?_ (by decide +kernel) (by decide) (by decide)
  intro site here
  simp only [segmentOf, image_segments]
  simp only [sites, List.mem_cons, List.not_mem_nil, or_false] at here
  rcases here with rfl | rfl | rfl
  · exact ⟨⟨164, initDcRemovalVa, 8, 8⟩, rfl, by decide⟩
  · exact ⟨⟨172, doDcRemovalVa, 20, 20⟩, rfl, by decide⟩
  · exact ⟨⟨192, bgsNullDerefVa, 24, 24⟩, rfl, by decide⟩

theorem image_kept : HeadersKept elf32 sites image := by
  have table : elf32.table image = some (52, 32, 3) := by decide +kernel
  intro position header
  have early : position < 164 := by
    rcases header with first | ⟨place, here, low, high⟩ |
      ⟨programOffset, programEntrySize, programCount, found, index, small, place, here, low, high⟩
    · omega
    · have short : ∀ place ∈ [elf32.phoff, elf32.phentsize, elf32.phnum],
          place.1 + place.2 ≤ 164 := by decide
      have bound := short place here
      omega
    · rw [table] at found
      cases found
      have short : ∀ place ∈ [elf32.kind, elf32.offset, elf32.vaddr, elf32.filesz, elf32.memsz],
          place.1 + place.2 ≤ 24 := by decide
      have bound := short place here
      omega
  rintro ⟨patch, here, ⟨low, -⟩, -⟩
  rw [image_placed] at here
  have late : ∀ patch ∈ imagePatches, 164 ≤ patch.inFile.start := by decide
  have bound := late patch here
  omega

theorem image_faithful : ∃ out, apply image = some out ∧ Faithful elf32 sites image out := by
  have accepted : (patcher.apply image).isSome = true := by decide +kernel
  obtain ⟨out, written⟩ := Option.isSome_iff_exists.mp accepted
  have kept : HeadersKept patcher.cls patcher.sites image := image_kept
  have sound : Sound patcher.cls patcher.sites image := image_sound
  exact ⟨out, written, (patcher.faithful_iff written kept).mpr sound⟩

def caller : Cpu where
  reg r :=
    if r = r1 then 0x7000 else if r = r2 then 0x40 else if r = r3 then 0x100
    else if r = sp then 0x200 else if r = lr then 0x80 else 0
  pc := BitVec.ofNat 32 (0x10000 + doDcRemovalVa)
  flags := ⟨false, false, false, false⟩
  thumb := false
  mem address := if address = 0x200 then some 4 else if address = 0x201 then some 1 else some 0

theorem caller_arguments : Arguments caller 0x100 0x104 where
  register := rfl
  stack := by decide
  outMapped := ⟨0, by decide⟩
  outBytesMapped := ⟨0, by decide⟩
  stackApart := .inr (by decide)
  apart := .inr (by decide)

theorem dcRemoval_of_caller :
    ∃ out mem, apply image = some out ∧
      (isa fun _ _ => none).run (mapAt elf32 out 0x10000) 5 caller =
        ({ caller.set r0 0 with mem := mem }).bxWritePc 0x80 ∧
      wordAt mem 0x100 = some 0x7000 ∧ wordAt mem 0x104 = some 0x40 := by
  obtain ⟨out, written, faithful⟩ := image_faithful
  obtain ⟨mem, ran, first, second, -⟩ :=
    (dcRemoval_passes_through faithful (mapped_mapAt elf32 out 0x10000) (by decide) rfl).2
      0x100 0x104 rfl caller_arguments
  exact ⟨out, mem, written, ran, first, second⟩

def nullCaller : Cpu where
  reg _ := 0
  pc := BitVec.ofNat 32 (0x10000 + bgsNullDerefVa)
  flags := ⟨false, false, false, false⟩
  thumb := false
  mem _ := none

/-- An object at 0x300 whose table at 0x400 has 0x5000 as its third entry. -/
def objectCaller : Cpu :=
  { nullCaller with
    reg := fun r => if r = r0 then 0x300 else 0
    mem := fun address =>
      if address = 0x301 then some 4 else if address = 0x409 then some 0x50 else some 0 }

theorem bgs_guarded_callers :
    ∃ out, apply image = some out ∧
      (isa fun _ _ => none).run (mapAt elf32 out 0x10000) 2 nullCaller =
        some { nullCaller with
          pc := BitVec.ofNat 32 (0x10000 + nullPathVa), flags := cmpFlags 0 0 } ∧
      (isa fun _ _ => none).step (mapAt elf32 image 0x10000) nullCaller = none ∧
      ((isa fun _ _ => none).run (mapAt elf32 out 0x10000) 5 objectCaller).map (·.pc) =
        some 0x5000 := by
  obtain ⟨out, written, faithful⟩ := image_faithful
  have mapped := mapped_mapAt elf32 out 0x10000
  have original : Holds (mapAt elf32 image 0x10000) (0x10000 + bgsNullDerefVa) nullDeref := by
    unfold Holds
    decide +kernel
  have null := (@bgs_guarded (fun _ _ => none) _ nullCaller _ _ _ _ faithful mapped original
    (by decide) rfl).1 rfl
  have object := (@bgs_guarded (fun _ _ => none) _ objectCaller _ _ _ _ faithful mapped original
    (by decide) rfl).1 rfl
  refine ⟨out, written, null.1 rfl, null.2.1 rfl rfl, ?_⟩
  rw [object.2.2 (by decide)]
  decide +kernel

end AudioDc

end Mt6757.Tools
