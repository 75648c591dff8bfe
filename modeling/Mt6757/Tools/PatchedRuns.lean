import Mt6757.Lib.A64
import Mt6757.Tools.PatchedCode
import Mt6757.Tools.SitePatch

/-!
# What the patched 64-bit code does

The RIL patch replaces a function, the GPS patch two, and the HWC patch six branches.
For the last two the rest of the file is arbitrary code, and the patched file is compared
with the stock file along whole runs.
-/

set_option autoImplicit false

namespace Mt6757.Tools

open MachineCode

/-! ## The RIL -/

namespace RilProxy

open A64

variable {τ : Type} {rest : Nat → Cpu τ → Option (Cpu τ)} {code : ByteMap} {cpu : Cpu τ}

/-- `RIL_queryMyProxyIdByThread` returns two to every caller, and touches nothing else. -/
theorem queryProxyId_returns_two {blob out : List UInt8} {base : Nat}
    (faithful : Faithful elf64 sites blob out) (mapped : Mapped elf64 out base code)
    (aligned : base % 4 = 0) (low : base + queryProxyIdVa + patched.length ≤ 2 ^ 64)
    (pc : cpu.pc = BitVec.ofNat 64 (base + queryProxyIdVa)) :
    (isa rest).run code 2 cpu =
      some { cpu with x := Function.update cpu.x 0 2, pc := cpu.x lr } := by
  have holds : Holds code (base + queryProxyIdVa) patched :=
    faithful.holds patcher.apart mapped List.mem_cons_self
  have length : patched.length = 8 := rfl
  have entry : cpu.pc.toNat = base + queryProxyIdVa := by
    rw [pc, BitVec.toNat_ofNat, Nat.mod_eq_of_lt (by omega)]
  have even : (base + queryProxyIdVa) % 4 = 0 := by
    simp only [queryProxyIdVa]
    omega
  let cpu₁ : Cpu τ := { cpu with x := Function.update cpu.x 0 2 }
  have moved : (isa rest).step code cpu = some cpu₁.next := by
    have fetched := holds.word (k := 0) (by decide)
    rw [Nat.mul_zero, Nat.add_zero, ← entry] at fetched
    exact step_of_decode (.movz false 0 2) (entry ▸ even) fetched (by decide)
  have second : cpu₁.next.pc.toNat = base + queryProxyIdVa + 4 := by
    have four : (4 : BitVec 64).toNat = 4 := rfl
    show (cpu.pc + 4).toNat = _
    rw [BitVec.toNat_add, entry, four]
    exact Nat.mod_eq_of_lt (by omega)
  have returned : (isa rest).step code cpu₁.next = _ :=
    step_of_decode (.ret 30) (by omega) (second ▸ holds.word (k := 1) (by decide)) (by decide)
  rw [Isa.run_step moved, Isa.run_one, returned]
  rfl

theorem queryProxyId_of_ril :
    ∃ out, apply (rilImage 8) = some out ∧
      (isa fun _ _ => none).run (mapAt elf64 out 0x10000) 2
          ⟨fun _ => 0x80, BitVec.ofNat 64 (0x10000 + queryProxyIdVa), ()⟩ =
        some ⟨Function.update (fun _ => 0x80) 0 2, 0x80, ()⟩ := by
  have accepted : (patcher.apply (rilImage 8)).isSome = true := by decide +kernel
  obtain ⟨out, written⟩ := Option.isSome_iff_exists.mp accepted
  have kept : HeadersKept patcher.cls patcher.sites (rilImage 8) := rilImage_kept
  have sound : Sound patcher.cls patcher.sites (rilImage 8) := rilImage_sound
  have faithful : Faithful elf64 sites (rilImage 8) out :=
    (patcher.faithful_iff written kept).mpr sound
  exact ⟨out, written,
    queryProxyId_returns_two faithful (mapped_mapAt elf64 out 0x10000) (by decide) (by decide) rfl⟩

end RilProxy

/-! ## Files mapped as a whole -/

def codeOf (base : Nat) (bytes : List UInt8) : ByteMap :=
  fun address => if base ≤ address then bytes[address - base]? else none

theorem holds_of_heldBy {base : Nat} {bytes : List UInt8} {patch : Patch}
    (held : patch.HeldBy bytes) : Holds (codeOf base bytes) (base + patch.start) patch.new := by
  intro i inside
  have offset : base + patch.start + i - base = patch.start + i := by omega
  have covers : patch.Covers (patch.start + i) :=
    ⟨Nat.le_add_right _ _, Nat.add_lt_add_left inside _⟩
  rw [codeOf, if_pos (by omega), offset, Patch.heldBy_iff.mp held _ covers,
    Nat.add_sub_cancel_left]

namespace SiteTable

open A64

variable {table : SiteTable} {blob : List UInt8}

theorem stocks_apart : (table.sites.map stock).Pairwise Patch.Apart := by
  refine List.pairwise_map.mpr (table.apart.imp_of_mem ?_)
  intro site other here there away
  simpa only [Patch.Apart, Patch.stop, stock, table.wide site here, table.wide other there]
    using away

theorem restore_heldBy (recognised : table.Recognised blob) :
    ∀ site ∈ table.sites, (stock site).HeldBy (table.restore blob) := fun _ here =>
  Patch.putAll_heldBy recognised.stocks_inside stocks_apart _ (List.mem_map_of_mem here)

theorem restore_off (recognised : table.Recognised blob) {i : Nat} (off : table.OffSites i) :
    (table.restore blob)[i]? = blob[i]? := by
  apply Patch.putAll_outside recognised.stocks_inside
  intro patch here
  obtain ⟨site, there, rfl⟩ := List.mem_map.mp here
  exact mt (stock_covers_iff there i).mp (off site there)

structure OfWords (table : SiteTable) : Prop where
  width : table.replacement.length = 4
  aligned : ∀ site ∈ table.sites, site.1 % 4 = 0

theorem recognised_blank {n : Nat} (long : ∀ site ∈ table.sites, site.1 + site.2.length ≤ n) :
    table.Recognised (table.restore (List.replicate n 0)) := by
  have inside : ∀ patch ∈ table.sites.map stock, patch.Inside (List.replicate n 0) := by
    refine List.forall_mem_map.mpr fun site here => ?_
    rw [Patch.Inside, List.length_replicate]
    exact long site here
  exact fun site here =>
    .inl (Patch.putAll_heldBy inside stocks_apart _ (List.mem_map_of_mem here))

/-- The processor is at a site of a file. -/
def AtSite (table : SiteTable) (base pc : Nat) : Prop := ∃ site ∈ table.sites, pc = base + site.1

instance (base pc : Nat) : Decidable (table.AtSite base pc) := by
  unfold AtSite
  infer_instance

variable {τ : Type} {rest : Nat → Cpu τ → Option (Cpu τ)} {base : Nat} {cpu : Cpu τ}

theorem fetch_site (words : table.OfWords) (recognised : table.Recognised blob)
    {site : Nat × List UInt8} (here : site ∈ table.sites) :
    wordAt (codeOf base (table.patch blob)) (base + site.1) = some (leValue table.replacement) ∧
      wordAt (codeOf base (table.restore blob)) (base + site.1) = some (leValue site.2) :=
  ⟨wordAt_of_holds (holds_of_heldBy (patch_heldBy recognised site here)) words.width,
    wordAt_of_holds (holds_of_heldBy (restore_heldBy recognised site here))
      ((table.wide site here).trans words.width)⟩

theorem fetch_off (words : table.OfWords) (recognised : table.Recognised blob)
    (aligned : base % 4 = 0) {pc : Nat} (whole : pc % 4 = 0) (off : ¬ table.AtSite base pc) :
    wordAt (codeOf base (table.patch blob)) pc = wordAt (codeOf base (table.restore blob)) pc := by
  apply wordAt_congr
  intro i small
  rw [codeOf, codeOf]
  split
  next above =>
    have away : table.OffSites (pc + i - base) := by
      rintro site here ⟨low, high⟩
      have four := words.aligned site here
      have width := words.width
      simp only [patched, Patch.stop] at low high
      exact off ⟨site, here, by omega⟩
    rw [patch_off recognised away, restore_off recognised away]
  next => rfl

/-- A processor over the patched file does what the replacement says at the sites, and
anywhere else what it does over the stock file. -/
theorem step_patch (words : table.OfWords) (recognised : table.Recognised blob)
    (aligned : base % 4 = 0) {instr : Instr}
    (decoded : decode (leValue table.replacement) = some instr) :
    (isa rest).step (codeOf base (table.patch blob)) cpu =
      if table.AtSite base cpu.pc.toNat then some (execInstr cpu instr)
      else (isa rest).step (codeOf base (table.restore blob)) cpu := by
  split
  next here =>
    obtain ⟨site, there, pc⟩ := here
    have four := words.aligned site there
    exact step_of_decode instr (by omega) (pc ▸ (fetch_site words recognised there).1) decoded
  next off =>
    by_cases whole : cpu.pc.toNat % 4 = 0
    · exact step_congr (fetch_off words recognised aligned whole off)
    · rw [step_misaligned whole, step_misaligned whole]

end SiteTable

/-! ## The HWC blob and the GPS HAL -/

namespace RetireFence

open A64

theorem patches_ofWords : patches.OfWords := ⟨rfl, by decide⟩

theorem replacement_decodes : decode (leValue patches.replacement) = some .nop := by decide

/-- What stands at the sites of the stock file: a branch to the abort path on a register
that is not zero. -/
theorem site_decodes : ∀ site ∈ patches.sites, ∃ rt offset,
    decode (leValue site.2) = some (.cbnz false rt offset) := by
  intro site here
  simp only [patches, List.mem_cons, List.not_mem_nil, or_false] at here
  rcases here with rfl | rfl | rfl | rfl | rfl | rfl
  · exact ⟨9, 0x104, by decide⟩
  · exact ⟨9, 0x104, by decide⟩
  · exact ⟨9, 0x104, by decide⟩
  · exact ⟨8, 0xcc, by decide⟩
  · exact ⟨8, 0x1f8, by decide⟩
  · exact ⟨8, 0xa0, by decide⟩

variable {τ : Type} {rest : Nat → Cpu τ → Option (Cpu τ)} {blob : List UInt8} {base : Nat}

/-- No check of the stock file is fatal in this state. -/
def Passes (base : Nat) (cpu : Cpu τ) : Prop :=
  ∀ site ∈ patches.sites, cpu.pc.toNat = base + site.1 →
    ∀ rt offset, decode (leValue site.2) = some (.cbnz false rt offset) → cpu.readAs false rt = 0

/-- At a site the stock file may branch to its abort path, and the patched file goes on. -/
theorem step_site (recognised : patches.Recognised blob) (aligned : base % 4 = 0) {cpu : Cpu τ}
    {site : Nat × List UInt8} (here : site ∈ patches.sites) (pc : cpu.pc.toNat = base + site.1) :
    (isa rest).step (codeOf base (patches.patch blob)) cpu = some cpu.next ∧
      ∃ rt offset, decode (leValue site.2) = some (.cbnz false rt offset) ∧
        (isa rest).step (codeOf base (patches.restore blob)) cpu =
          some (if cpu.readAs false rt ≠ 0 then { cpu with pc := cpu.pc + offset }
            else cpu.next) := by
  have four := patches_ofWords.aligned site here
  obtain ⟨rt, offset, decoded⟩ := site_decodes site here
  have there : wordAt (codeOf base (patches.restore blob)) (base + site.1) = _ :=
    (SiteTable.fetch_site patches_ofWords recognised here).2
  constructor
  · rw [SiteTable.step_patch patches_ofWords recognised aligned replacement_decodes,
      if_pos ⟨site, here, pc⟩]
    rfl
  · exact ⟨rt, offset, decoded, step_of_decode _ (by omega) (pc ▸ there) decoded⟩

/-- The patched file runs as the stock file does as long as no check is fatal there, and at
a fatal one it takes the path that the check lets through. -/
theorem fences_fall_through (recognised : patches.Recognised blob) (aligned : base % 4 = 0) :
    (∀ (n : Nat) (cpu : Cpu τ),
      (∀ k < n, ∀ cpu', (isa rest).run (codeOf base (patches.restore blob)) k cpu = some cpu' →
        Passes base cpu') →
      (isa rest).run (codeOf base (patches.patch blob)) n cpu =
        (isa rest).run (codeOf base (patches.restore blob)) n cpu) ∧
    ∀ (cpu : Cpu τ), ∀ site ∈ patches.sites, cpu.pc.toNat = base + site.1 →
      (isa rest).step (codeOf base (patches.patch blob)) cpu = some cpu.next ∧
      ∃ rt offset, decode (leValue site.2) = some (.cbnz false rt offset) ∧
        (isa rest).step (codeOf base (patches.restore blob)) cpu =
          some (if cpu.readAs false rt ≠ 0 then { cpu with pc := cpu.pc + offset }
            else cpu.next) := by
  refine ⟨fun n cpu passes => ?_, fun cpu site here pc => step_site recognised aligned here pc⟩
  apply Isa.run_congr
  intro k small cpu' reached
  by_cases there : patches.AtSite base cpu'.pc.toNat
  · obtain ⟨site, here, pc⟩ := there
    obtain ⟨patched, rt, offset, decoded, stock⟩ := @step_site τ rest _ _ recognised aligned _ _ here pc
    have zero := passes k small cpu' reached site here pc rt offset decoded
    rw [patched, stock, if_neg (not_not_intro zero)]
  · rw [SiteTable.step_patch patches_ofWords recognised aligned replacement_decodes,
      if_neg there]

def fatal : Cpu Unit := ⟨fun _ => 1, 0x23D60, ()⟩

theorem fences_fall_through_fatal :
    (isa fun _ _ => none).step
        (codeOf 0 (patches.patch (patches.restore (List.replicate 0x26D58 0)))) fatal =
      some fatal.next :=
  ((fences_fall_through (SiteTable.recognised_blank (by decide)) rfl).2 fatal
    (0x23D60, [0x29, 0x08, 0x00, 0x35]) List.mem_cons_self rfl).1

end RetireFence

namespace GpsCallbacks

open A64

theorem patches_ofWords : patches.OfWords := ⟨rfl, by decide⟩

variable {τ : Type} {rest : Nat → Cpu τ → Option (Cpu τ)} {blob : List UInt8} {base : Nat}

/-- In the patched file a call of either function returns at once with nothing changed, and
a run that does not enter them is a run of the stock file. -/
theorem callbacks_return (recognised : patches.Recognised blob) (aligned : base % 4 = 0) :
    (∀ (cpu : Cpu τ), patches.AtSite base cpu.pc.toNat →
      (isa rest).step (codeOf base (patches.patch blob)) cpu =
        some { cpu with pc := cpu.x lr }) ∧
    ∀ (n : Nat) (cpu : Cpu τ),
      (∀ k < n, ∀ cpu', (isa rest).run (codeOf base (patches.restore blob)) k cpu = some cpu' →
        ¬ patches.AtSite base cpu'.pc.toNat) →
      (isa rest).run (codeOf base (patches.patch blob)) n cpu =
        (isa rest).run (codeOf base (patches.restore blob)) n cpu := by
  have decoded : decode (leValue patches.replacement) = some (.ret 30) := by decide
  constructor
  · intro cpu there
    rw [SiteTable.step_patch patches_ofWords recognised aligned decoded, if_pos there]
    rfl
  · intro n cpu outside
    apply Isa.run_congr
    intro k small cpu' reached
    rw [SiteTable.step_patch patches_ofWords recognised aligned decoded,
      if_neg (outside k small cpu' reached)]

theorem callbacks_return_request :
    (isa fun _ _ => none).step
        (codeOf 0 (patches.patch (patches.restore (List.replicate 0x8B24 0))))
        (⟨fun _ => 0x80, 0x87CC, ()⟩ : Cpu Unit) = some ⟨fun _ => 0x80, 0x80, ()⟩ :=
  (callbacks_return (SiteTable.recognised_blank (by decide)) rfl).1 _ (by decide)

end GpsCallbacks

end Mt6757.Tools
