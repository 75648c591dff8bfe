import Mathlib.Data.List.Basic
import Mt6757.Lib.LoadImage

/-!
# Patching by virtual address

Two scripts that replace code of a vendor library at virtual addresses.  The position in
the file comes from the program headers, for the first byte of each site only.
-/

set_option autoImplicit false

namespace Mt6757.Tools

/-! ## Program headers -/

/-- Offsets and sizes of the fields that are read, of the file header and of an entry of
the program header table. -/
structure ElfClass where
  ident : UInt8
  phoff : Nat × Nat
  phentsize : Nat × Nat
  phnum : Nat × Nat
  entrySize : Nat
  kind : Nat × Nat
  offset : Nat × Nat
  vaddr : Nat × Nat
  filesz : Nat × Nat
  memsz : Nat × Nat

def elf32 : ElfClass where
  ident := 1
  phoff := (0x1C, 4)
  phentsize := (0x2A, 2)
  phnum := (0x2C, 2)
  entrySize := 32
  kind := (0, 4)
  offset := (4, 4)
  vaddr := (8, 4)
  filesz := (16, 4)
  memsz := (20, 4)

def elf64 : ElfClass where
  ident := 2
  phoff := (0x20, 8)
  phentsize := (0x36, 2)
  phnum := (0x38, 2)
  entrySize := 56
  kind := (0, 4)
  offset := (8, 8)
  vaddr := (16, 8)
  filesz := (32, 8)
  memsz := (40, 8)

structure ProgramHeader where
  kind : Nat
  segment : Segment

def ptLoad : Nat := 1

def field (data : List UInt8) (start : Nat) (place : Nat × Nat) : Nat :=
  leValue (slice data (start + place.1) place.2)

/-- `struct.unpack_from` of one field of the file header. -/
def unpackFrom (data : List UInt8) (place : Nat × Nat) : Option Nat :=
  if place.1 + place.2 ≤ data.length then some (field data 0 place) else none

namespace ElfClass

variable (cls : ElfClass) (data : List UInt8)

def Ident : Prop :=
  slice data 0 4 = [0x7f, 0x45, 0x4c, 0x46] ∧ data[4]? = some cls.ident ∧ data[5]? = some 1

instance : Decidable (cls.Ident data) := by
  unfold Ident
  infer_instance

/-- `struct.unpack_from` of an entry, which fails unless all of it is in the file. -/
def entry (start : Nat) : Option ProgramHeader :=
  if start + cls.entrySize ≤ data.length then
    some
      { kind := field data start cls.kind
        segment :=
          { offset := field data start cls.offset
            vaddr := field data start cls.vaddr
            filesz := field data start cls.filesz
            memsz := field data start cls.memsz } }
  else none

def table : Option (Nat × Nat × Nat) :=
  if cls.Ident data then do
    let programOffset ← unpackFrom data cls.phoff
    let programEntrySize ← unpackFrom data cls.phentsize
    let programCount ← unpackFrom data cls.phnum
    some (programOffset, programEntrySize, programCount)
  else none

/-- The loop over the table: the first LOAD entry that backs the address. -/
def search (address programOffset programEntrySize : Nat) : List Nat → Option Nat
  | [] => none
  | index :: rest => do
      let header ← cls.entry data (programOffset + index * programEntrySize)
      if header.kind = ptLoad ∧ header.segment.vaddr ≤ address ∧
          address < header.segment.vaddr + header.segment.filesz then
        some (header.segment.offset + address - header.segment.vaddr)
      else search address programOffset programEntrySize rest

def virtualToFileOffset (address : Nat) : Option Nat := do
  let (programOffset, programEntrySize, programCount) ← cls.table data
  cls.search data address programOffset programEntrySize (List.range programCount)

def segments : List Segment :=
  match cls.table data with
  | none => []
  | some (programOffset, programEntrySize, programCount) =>
      (List.range programCount).filterMap fun index =>
        match cls.entry data (programOffset + index * programEntrySize) with
        | none => none
        | some header => if header.kind = ptLoad then some header.segment else none

/-- A byte of the identification, of a field that leads to the table, or of a field of an
entry that says how a segment is loaded. -/
def HeaderByte (position : Nat) : Prop :=
  position < 6 ∨
    (∃ place ∈ [cls.phoff, cls.phentsize, cls.phnum],
      place.1 ≤ position ∧ position < place.1 + place.2) ∨
    ∃ programOffset programEntrySize programCount,
      cls.table data = some (programOffset, programEntrySize, programCount) ∧
      ∃ index < programCount, ∃ place ∈ [cls.kind, cls.offset, cls.vaddr, cls.filesz, cls.memsz],
        programOffset + index * programEntrySize + place.1 ≤ position ∧
        position < programOffset + index * programEntrySize + place.1 + place.2

end ElfClass

/-! ## What a patcher promises -/

section Patcher

variable (cls : ElfClass) (sites : List (Nat × List UInt8)) (blob : List UInt8)

/-- The segment that an address is looked up in: the first whose file part contains it. -/
def segmentOf (address : Nat) : Option Segment :=
  (cls.segments blob).find? fun segment => segment.Backs address

/-- The sites with their positions in the file. -/
def placed : List LoadedPatch :=
  sites.filterMap fun site =>
    (segmentOf cls blob site.1).map fun segment => ⟨site.1, segment.fileOffset site.1, site.2⟩

/-- Every byte of every site lies in the file-backed part of the segment of its first. -/
def Backed : Prop :=
  ∀ site ∈ sites, ∃ segment, segmentOf cls blob site.1 = some segment ∧
    ∀ i < site.2.length, segment.Backs (site.1 + i)

/-- What is written is the same program with the patches in it. -/
structure Faithful (out : List UInt8) : Prop where
  length : out.length = blob.length
  backed : Backed cls sites blob
  apart : ((placed cls sites blob).map LoadedPatch.inFile).Pairwise Patch.Apart
  memory : ∀ address, load (cls.segments out) (fun i => out[i]?) address =
    Patch.overlay (sites.map fun site => ⟨site.1, site.2⟩)
      (load (cls.segments blob) fun i => blob[i]?) address

/-- No patch changes a byte of the headers. -/
def HeadersKept : Prop :=
  ∀ position, cls.HeaderByte blob position →
    ¬ Changes (placed cls sites blob) (fun i => blob[i]?) position

/-- What the image has to be like: the patches end in their segments and in the file, and
are apart there; what is loaded to a patched address is its patch byte, and nothing else
is loaded from a byte that changes. -/
structure Sound : Prop where
  backed : Backed cls sites blob
  inside : ∀ patch ∈ placed cls sites blob, patch.inFile.Inside blob
  apart : ((placed cls sites blob).map LoadedPatch.inFile).Pairwise Patch.Apart
  patched : ∀ patch ∈ placed cls sites blob, ∀ address, patch.virtual.Covers address →
    LoadsByte (placed cls sites blob) (fun i => blob[i]?) (cls.segments blob) address
      patch.new[address - patch.address]?
  rest : ∀ address, (∀ patch ∈ placed cls sites blob, ¬ patch.virtual.Covers address) →
    ∀ position, placeOf (cls.segments blob) address = some (.file position) →
      ¬ Changes (placed cls sites blob) (fun i => blob[i]?) position

end Patcher

/-- A script that finds every site of a list in an image and puts the patches there. -/
structure ElfPatcher where
  cls : ElfClass
  sites : List (Nat × List UInt8)
  pos : ∀ site ∈ sites, 0 < site.2.length
  apart : (sites.map fun site => (⟨site.1, site.2⟩ : Patch)).Pairwise Patch.Apart
  apply : List UInt8 → Option (List UInt8)
  finds : ∀ {blob out}, apply blob = some out →
    ∀ site ∈ sites, ∃ segment, segmentOf cls blob site.1 = some segment
  puts : ∀ {blob out}, apply blob = some out →
    out = Patch.putAll blob ((placed cls sites blob).map LoadedPatch.inFile)

section Headers

variable {cls : ElfClass} {data other : List UInt8}

theorem field_congr {start : Nat} {place : Nat × Nat}
    (same : ∀ i, start + place.1 ≤ i → i < start + place.1 + place.2 → other[i]? = data[i]?) :
    field other start place = field data start place := by
  have bytes : slice other (start + place.1) place.2 = slice data (start + place.1) place.2 := by
    apply List.ext_getElem?
    intro i
    rw [slice_getElem?, slice_getElem?]
    split
    next within => exact same _ (by omega) (by omega)
    next => rfl
  rw [field, field, bytes]

theorem segments_congr (length : other.length = data.length)
    (same : ∀ i, cls.HeaderByte data i → other[i]? = data[i]?) :
    cls.segments other = cls.segments data := by
  have ident : cls.Ident other ↔ cls.Ident data := by
    have magic : slice other 0 4 = slice data 0 4 := by
      apply List.ext_getElem?
      intro i
      rw [slice_getElem?, slice_getElem?]
      split
      next within => exact same _ (.inl (by omega))
      next => rfl
    rw [ElfClass.Ident, ElfClass.Ident, magic, same 4 (.inl (by omega)), same 5 (.inl (by omega))]
  have unpack : ∀ place ∈ [cls.phoff, cls.phentsize, cls.phnum],
      unpackFrom other place = unpackFrom data place := by
    intro place here
    have fields : field other 0 place = field data 0 place := by
      apply field_congr
      intro i low high
      exact same i (.inr (.inl ⟨place, here, by omega, by omega⟩))
    rw [unpackFrom, unpackFrom, length, fields]
  have tables : cls.table other = cls.table data := by
    simp only [ElfClass.table, ident, unpack cls.phoff (by simp), unpack cls.phentsize (by simp),
      unpack cls.phnum (by simp)]
  rw [ElfClass.segments, ElfClass.segments, tables]
  cases found : cls.table data with
  | none => rfl
  | some table =>
      obtain ⟨programOffset, programEntrySize, programCount⟩ := table
      apply List.filterMap_congr
      intro index here
      have fields : ∀ place ∈ [cls.kind, cls.offset, cls.vaddr, cls.filesz, cls.memsz],
          field other (programOffset + index * programEntrySize) place =
            field data (programOffset + index * programEntrySize) place := by
        intro place listed
        apply field_congr
        intro i low high
        exact same i (.inr (.inr ⟨_, _, _, found, index, List.mem_range.mp here, place, listed,
          low, high⟩))
      simp only [ElfClass.entry, length, fields cls.kind (by simp), fields cls.offset (by simp),
        fields cls.vaddr (by simp), fields cls.filesz (by simp), fields cls.memsz (by simp)]

theorem search_eq {address programOffset programEntrySize : Nat} {indices : List Nat}
    {position : Nat}
    (found : cls.search data address programOffset programEntrySize indices = some position) :
    ∃ segment, (indices.filterMap fun index =>
        match cls.entry data (programOffset + index * programEntrySize) with
        | none => none
        | some header => if header.kind = ptLoad then some header.segment else none).find?
          (fun segment => segment.Backs address) = some segment ∧
      position = segment.fileOffset address := by
  induction indices with
  | nil => cases found
  | cons index rest ih =>
      rw [ElfClass.search] at found
      cases present : cls.entry data (programOffset + index * programEntrySize) with
      | none =>
          rw [present] at found
          cases found
      | some header =>
          rw [present] at found
          simp only [Option.bind_eq_bind, Option.bind_some] at found
          by_cases loads : header.kind = ptLoad
          · by_cases backs : header.segment.Backs address
            · rw [if_pos ⟨loads, backs⟩] at found
              refine ⟨header.segment, ?_, ?_⟩
              · simp [present, loads, backs]
              · have low := backs.1
                cases found
                simp only [Segment.fileOffset]
                omega
            · rw [if_neg fun both => backs both.2] at found
              simpa [present, loads, backs] using ih found
          · rw [if_neg fun both => loads both.1] at found
            simpa [present, loads] using ih found

theorem virtualToFileOffset_eq {blob : List UInt8} {address position : Nat}
    (found : cls.virtualToFileOffset blob address = some position) :
    ∃ segment, segmentOf cls blob address = some segment ∧
      position = segment.fileOffset address := by
  rw [ElfClass.virtualToFileOffset] at found
  cases table : cls.table blob with
  | none =>
      rw [table] at found
      cases found
  | some entries =>
      rw [table] at found
      rw [segmentOf, ElfClass.segments, table]
      exact search_eq found

end Headers

/-! ## When a patcher is faithful -/

namespace ElfPatcher

variable (patcher : ElfPatcher) {blob out : List UInt8}

theorem mem_placed {patch : LoadedPatch}
    (here : patch ∈ placed patcher.cls patcher.sites blob) : 0 < patch.new.length := by
  obtain ⟨site, there, found⟩ := List.mem_filterMap.mp here
  obtain ⟨segment, -, rfl⟩ := Option.map_eq_some_iff.mp found
  exact patcher.pos site there

theorem placed_virtual
    (found : ∀ site ∈ patcher.sites, ∃ segment, segmentOf patcher.cls blob site.1 = some segment) :
    (placed patcher.cls patcher.sites blob).map LoadedPatch.virtual =
      patcher.sites.map fun site => ⟨site.1, site.2⟩ := by
  rw [placed, List.map_filterMap, ← List.filterMap_eq_map]
  apply List.filterMap_congr
  intro site here
  obtain ⟨segment, found⟩ := found site here
  rw [found]
  rfl

/-- While the headers stay, a patcher is faithful exactly to the images that are sound. -/
theorem faithful_iff (accepted : patcher.apply blob = some out)
    (kept : HeadersKept patcher.cls patcher.sites blob) :
    Faithful patcher.cls patcher.sites blob out ↔ Sound patcher.cls patcher.sites blob := by
  have put := patcher.puts accepted
  have virtual := patcher.placed_virtual (patcher.finds accepted)
  have apartVirtual :
      ((placed patcher.cls patcher.sites blob).map LoadedPatch.virtual).Pairwise Patch.Apart := by
    rw [virtual]
    exact patcher.apart
  have pos : ∀ patch ∈ (placed patcher.cls patcher.sites blob).map LoadedPatch.inFile,
      0 < patch.new.length :=
    List.forall_mem_map.mpr fun _ here => patcher.mem_placed here
  have grows := (@Patch.putAll_length_iff blob _ pos).2
  rw [← put, List.forall_mem_map] at grows
  -- once the windows lie in the file and are apart, the output is the input with them laid over it
  have memory : ∀ (inside : ∀ patch ∈ placed patcher.cls patcher.sites blob,
        patch.inFile.Inside blob)
      (apart : ((placed patcher.cls patcher.sites blob).map LoadedPatch.inFile).Pairwise
        Patch.Apart) (address : Nat),
      load (patcher.cls.segments out) (fun i => out[i]?) address =
        load (patcher.cls.segments blob)
          (Patch.overlay ((placed patcher.cls patcher.sites blob).map LoadedPatch.inFile)
            fun i => blob[i]?) address := by
    intro inside apart address
    have bytes : (fun i => out[i]?) =
        Patch.overlay ((placed patcher.cls patcher.sites blob).map LoadedPatch.inFile)
          fun i => blob[i]? := by
      funext i
      rw [put]
      exact Patch.putAll_getElem? (List.forall_mem_map.mpr inside) apart i
    have segments : patcher.cls.segments out = patcher.cls.segments blob := by
      apply segments_congr (grows.mpr inside)
      intro i header
      exact (congrFun bytes i).trans ((overlay_eq_iff_not_changes apart i).mpr (kept i header))
    rw [segments, bytes]
  constructor
  · intro faithful
    have inside := grows.mp faithful.length
    have loads := (load_overlay_iff faithful.apart apartVirtual).mp fun address => by
      rw [← memory inside faithful.apart address, faithful.memory address, virtual]
    exact ⟨faithful.backed, inside, faithful.apart, loads.1, loads.2⟩
  · intro sound
    have loads := (load_overlay_iff sound.apart apartVirtual).mpr ⟨sound.patched, sound.rest⟩
    refine ⟨grows.mpr sound.inside, sound.backed, sound.apart, fun address => ?_⟩
    rw [memory sound.inside sound.apart address, loads address, virtual]

end ElfPatcher

def occursIn (needle : List UInt8) : List UInt8 → Bool
  | [] => needle.isEmpty
  | byte :: rest => needle.isPrefixOf (byte :: rest) || occursIn needle rest

/-! ## The 32-bit audio HAL -/

namespace AudioDc

def expectedBuildId : List UInt8 :=
  [0x50, 0xdc, 0x24, 0x58, 0xd2, 0x0f, 0xc8, 0xbe, 0x7d, 0xca, 0x25, 0x53, 0xa0, 0xb4, 0xeb, 0xc0]

def initDcRemovalVa : Nat := 0x000C3AC0
def doDcRemovalVa : Nat := 0x000C3C74
def bgsNullDerefVa : Nat := 0x00095E58

def initPatch : List UInt8 := [0x00, 0x00, 0xa0, 0xe3, 0x1e, 0xff, 0x2f, 0xe1]

def passthroughPatch : List UInt8 :=
  [0x00, 0x10, 0x83, 0xe5, 0x00, 0x00, 0x9d, 0xe5, 0x00, 0x20, 0x80, 0xe5, 0x00, 0x00, 0xa0, 0xe3,
    0x1e, 0xff, 0x2f, 0xe1]

def bgsNullGuardPatch : List UInt8 :=
  [0x00, 0x00, 0x50, 0xe3, 0x0b, 0x00, 0x00, 0x0a, 0x00, 0x10, 0x90, 0xe5, 0x08, 0x10, 0x91, 0xe5,
    0x31, 0xff, 0x2f, 0xe1, 0x04, 0x00, 0x00, 0xea]

def prologue : List UInt8 := [0xf0, 0x48, 0x2d, 0xe9]

def nullDeref : List UInt8 :=
  [0x00, 0x10, 0x90, 0xe5, 0x08, 0x10, 0x91, 0xe5, 0x31, 0xff, 0x2f, 0xe1]

def virtualToFileOffset : List UInt8 → Nat → Option Nat := elf32.virtualToFileOffset

/-- What the script writes, if it gets that far. -/
def apply (blob : List UInt8) : Option (List UInt8) :=
  if occursIn expectedBuildId blob then do
    let initOffset ← virtualToFileOffset blob initDcRemovalVa
    let passthroughOffset ← virtualToFileOffset blob doDcRemovalVa
    let bgsNullDerefOffset ← virtualToFileOffset blob bgsNullDerefVa
    if slice blob initOffset 4 ≠ prologue then none
    else if slice blob passthroughOffset 4 ≠ prologue then none
    else if slice blob bgsNullDerefOffset 12 ≠ nullDeref then none
    else
      let blob := splice blob initOffset initPatch.length initPatch
      let blob := splice blob passthroughOffset passthroughPatch.length passthroughPatch
      let blob := splice blob bgsNullDerefOffset bgsNullGuardPatch.length bgsNullGuardPatch
      some blob
  else none

def sites : List (Nat × List UInt8) :=
  [(initDcRemovalVa, initPatch), (doDcRemovalVa, passthroughPatch),
    (bgsNullDerefVa, bgsNullGuardPatch)]

theorem apply_cases {blob out : List UInt8} (accepted : apply blob = some out) :
    ∃ init passthrough bgs,
      virtualToFileOffset blob initDcRemovalVa = some init ∧
      virtualToFileOffset blob doDcRemovalVa = some passthrough ∧
      virtualToFileOffset blob bgsNullDerefVa = some bgs ∧
      out = Patch.putAll blob
        [⟨init, initPatch⟩, ⟨passthrough, passthroughPatch⟩, ⟨bgs, bgsNullGuardPatch⟩] := by
  rw [apply] at accepted
  split at accepted
  · obtain ⟨init, first, accepted⟩ := Option.bind_eq_some_iff.mp accepted
    obtain ⟨passthrough, second, accepted⟩ := Option.bind_eq_some_iff.mp accepted
    obtain ⟨bgs, third, accepted⟩ := Option.bind_eq_some_iff.mp accepted
    split at accepted
    · cases accepted
    split at accepted
    · cases accepted
    split at accepted
    · cases accepted
    · exact ⟨init, passthrough, bgs, first, second, third, (Option.some.inj accepted).symm⟩
  · cases accepted

def patcher : ElfPatcher where
  cls := elf32
  sites := sites
  pos := by decide
  apart := by decide
  apply := apply
  finds := by
    intro blob out accepted site here
    obtain ⟨init, passthrough, bgs, first, second, third, -⟩ := apply_cases accepted
    simp only [sites, List.mem_cons, List.not_mem_nil, or_false] at here
    rcases here with rfl | rfl | rfl
    · obtain ⟨segment, found, -⟩ := virtualToFileOffset_eq first
      exact ⟨segment, found⟩
    · obtain ⟨segment, found, -⟩ := virtualToFileOffset_eq second
      exact ⟨segment, found⟩
    · obtain ⟨segment, found, -⟩ := virtualToFileOffset_eq third
      exact ⟨segment, found⟩
  puts := by
    intro blob out accepted
    obtain ⟨init, passthrough, bgs, first, second, third, put⟩ := apply_cases accepted
    obtain ⟨segment1, found1, rfl⟩ := virtualToFileOffset_eq first
    obtain ⟨segment2, found2, rfl⟩ := virtualToFileOffset_eq second
    obtain ⟨segment3, found3, rfl⟩ := virtualToFileOffset_eq third
    simp [put, placed, sites, found1, found2, found3, LoadedPatch.inFile]

end AudioDc

/-! ## The 64-bit RIL library -/

namespace RilProxy

def expectedBuildId : List UInt8 :=
  [0x32, 0xb3, 0xf9, 0x83, 0x76, 0x60, 0x44, 0x2c, 0x82, 0xcd, 0xac, 0x2a, 0x5e, 0x8e, 0xc3, 0xba]

def queryProxyIdVa : Nat := 0x0001B318

def original : List UInt8 := [0xf5, 0x0f, 0x1d, 0xf8, 0xf4, 0x4f, 0x01, 0xa9]

def patched : List UInt8 := [0x40, 0x00, 0x80, 0x52, 0xc0, 0x03, 0x5f, 0xd6]

def virtualToFileOffset : List UInt8 → Nat → Option Nat := elf64.virtualToFileOffset

/-- What the script writes, if it gets that far: also a file that is patched already. -/
def apply (blob : List UInt8) : Option (List UInt8) :=
  if occursIn expectedBuildId blob then do
    let patchOffset ← virtualToFileOffset blob queryProxyIdVa
    let current := slice blob patchOffset patched.length
    if current = patched then some blob
    else if current = original then some (splice blob patchOffset patched.length patched)
    else none
  else none

def sites : List (Nat × List UInt8) := [(queryProxyIdVa, patched)]

/-- All the bytes that are replaced are compared first, so they are in the file. -/
theorem apply_cases {blob out : List UInt8} (accepted : apply blob = some out) :
    ∃ position, virtualToFileOffset blob queryProxyIdVa = some position ∧
      (⟨position, patched⟩ : Patch).Inside blob ∧
      out = Patch.putAll blob [⟨position, patched⟩] := by
  have pos : 0 < patched.length := by decide
  rw [apply] at accepted
  split at accepted
  · obtain ⟨position, found, accepted⟩ := Option.bind_eq_some_iff.mp accepted
    refine ⟨position, found, ?_⟩
    dsimp only at accepted
    split at accepted
    next already =>
      have held : (⟨position, patched⟩ : Patch).HeldBy blob := already
      have inside := held.inside pos
      refine ⟨inside, ?_⟩
      rw [← Option.some.inj accepted]
      exact (Patch.put_of_heldBy inside held).symm
    next =>
      split at accepted
      next stock =>
        exact ⟨slice_inside pos (by rw [stock]; rfl), (Option.some.inj accepted).symm⟩
      next => cases accepted
  · cases accepted

def patcher : ElfPatcher where
  cls := elf64
  sites := sites
  pos := by decide
  apart := by decide
  apply := apply
  finds := by
    intro blob out accepted site here
    obtain ⟨position, found, -⟩ := apply_cases accepted
    rw [sites, List.mem_singleton] at here
    subst here
    obtain ⟨segment, backs, -⟩ := virtualToFileOffset_eq found
    exact ⟨segment, backs⟩
  puts := by
    intro blob out accepted
    obtain ⟨position, found, -, put⟩ := apply_cases accepted
    obtain ⟨segment, backs, rfl⟩ := virtualToFileOffset_eq found
    simp [put, placed, sites, backs, LoadedPatch.inFile]

end RilProxy

inductive ElfTool where
  | audioDc
  | rilProxy
  deriving DecidableEq, Repr

def ElfTool.patcher : ElfTool → ElfPatcher
  | .audioDc => AudioDc.patcher
  | .rilProxy => RilProxy.patcher

/-- Of either script: an image it accepts and whose headers it does not change is patched
faithfully exactly when the image is sound. -/
theorem elfTool_faithful_iff (tool : ElfTool) (blob out : List UInt8)
    (accepted : tool.patcher.apply blob = some out)
    (kept : HeadersKept tool.patcher.cls tool.patcher.sites blob) :
    Faithful tool.patcher.cls tool.patcher.sites blob out ↔
      Sound tool.patcher.cls tool.patcher.sites blob :=
  tool.patcher.faithful_iff accepted kept

def rilImage (filesz : Nat) : List UInt8 :=
  [0x7f, 0x45, 0x4c, 0x46, 2, 1] ++ List.replicate 26 0 ++ leBytes 8 64 ++ List.replicate 14 0 ++
    leBytes 2 56 ++ leBytes 2 1 ++ List.replicate 6 0 ++
    (leBytes 4 ptLoad ++ leBytes 4 0 ++ leBytes 8 136 ++ leBytes 8 RilProxy.queryProxyIdVa ++
      leBytes 8 0 ++ leBytes 8 filesz ++ leBytes 8 filesz ++ leBytes 8 0) ++
    RilProxy.expectedBuildId ++ RilProxy.original

theorem rilImage_table : elf64.table (rilImage 8) = some (64, 56, 1) := by decide +kernel

theorem rilImage_segments :
    elf64.segments (rilImage 8) = [⟨136, RilProxy.queryProxyIdVa, 8, 8⟩] := by decide +kernel

theorem rilImage_placed :
    placed elf64 RilProxy.sites (rilImage 8) =
      [⟨RilProxy.queryProxyIdVa, 136, RilProxy.patched⟩] := by
  rw [placed]
  simp only [segmentOf, rilImage_segments]
  decide +kernel

theorem rilImage_place (address : Nat) :
    placeOf (elf64.segments (rilImage 8)) address =
      if RilProxy.queryProxyIdVa ≤ address ∧ address < RilProxy.queryProxyIdVa + 8 then
        some (.file (136 + (address - RilProxy.queryProxyIdVa)))
      else none := by
  rw [rilImage_segments, placeOf, List.reverse_singleton]
  by_cases inside : RilProxy.queryProxyIdVa ≤ address ∧ address < RilProxy.queryProxyIdVa + 8
  · rw [if_pos inside, List.find?_cons_of_pos (by simpa [Segment.Maps] using inside)]
    simp [Segment.place, Segment.Backs, Segment.fileOffset, inside]
  · rw [if_neg inside, List.find?_cons_of_neg (by simpa [Segment.Maps] using inside)]
    rfl

theorem rilImage_sound : Sound elf64 RilProxy.sites (rilImage 8) := by
  have length : RilProxy.patched.length = 8 := rfl
  refine ⟨?_, ?_, ?_, ?_, ?_⟩
  · intro site here
    rw [RilProxy.sites, List.mem_singleton] at here
    subst here
    refine ⟨⟨136, RilProxy.queryProxyIdVa, 8, 8⟩, ?_, ?_⟩
    · rw [segmentOf, rilImage_segments]
      decide
    · intro i small
      rw [length] at small
      simp only [Segment.Backs]
      omega
  · rw [rilImage_placed]
    decide +kernel
  · rw [rilImage_placed]
    exact List.pairwise_singleton _ _
  · rw [rilImage_placed]
    intro patch here address covers
    rw [List.mem_singleton] at here
    subst here
    simp only [LoadedPatch.virtual, Patch.Covers, Patch.stop, length] at covers
    rw [LoadsByte, rilImage_place, if_pos covers]
    refine .inl ⟨_, List.mem_singleton_self _, ?_, ?_⟩
    · simp only [LoadedPatch.inFile, Patch.Covers, Patch.stop, length]
      omega
    · simp
  · rw [rilImage_placed]
    intro address off position here
    rw [rilImage_place, if_neg] at here
    · cases here
    · exact off _ (List.mem_singleton_self _)

theorem rilImage_kept : HeadersKept elf64 RilProxy.sites (rilImage 8) := by
  intro position header
  have early : position < 136 := by
    rcases header with first | ⟨place, here, low, high⟩ |
      ⟨programOffset, programEntrySize, programCount, table, index, small, place, here, low, high⟩
    · omega
    · simp only [elf64, List.mem_cons, List.not_mem_nil, or_false] at here
      rcases here with rfl | rfl | rfl
      · simp only at high; omega
      · simp only at high; omega
      · simp only at high; omega
    · rw [rilImage_table] at table
      cases table
      have only : index = 0 := by omega
      subst only
      simp only [elf64, List.mem_cons, List.not_mem_nil, or_false] at here
      rcases here with rfl | rfl | rfl | rfl | rfl
      all_goals
        simp only at high
        omega
  rintro ⟨patch, here, ⟨low, -⟩, -⟩
  rw [rilImage_placed, List.mem_singleton] at here
  subst here
  simp only [LoadedPatch.inFile] at low
  omega

/-- An image that is patched faithfully. -/
theorem elfTool_faithful_ril :
    ∃ out, RilProxy.patcher.apply (rilImage 8) = some out ∧
      Faithful elf64 RilProxy.sites (rilImage 8) out := by
  have accepted : (RilProxy.apply (rilImage 8)).isSome = true := by decide +kernel
  obtain ⟨out, written⟩ := Option.isSome_iff_exists.mp accepted
  exact ⟨out, written,
    (elfTool_faithful_iff .rilProxy (rilImage 8) out written rilImage_kept).mpr rilImage_sound⟩

/-- A 32-bit image with a segment for each site, which ends where the comparison of the
last site does. -/
def truncatedImage : List UInt8 :=
  let segment (offset vaddr size : Nat) : List UInt8 :=
    leBytes 4 ptLoad ++ leBytes 4 offset ++ leBytes 4 vaddr ++ leBytes 4 0 ++ leBytes 4 size ++
      leBytes 4 size ++ leBytes 4 0 ++ leBytes 4 0
  [0x7f, 0x45, 0x4c, 0x46, 1, 1] ++ List.replicate 22 0 ++ leBytes 4 52 ++ List.replicate 10 0 ++
    leBytes 2 32 ++ leBytes 2 3 ++ List.replicate 6 0 ++
    (segment 164 AudioDc.initDcRemovalVa 8 ++ segment 172 AudioDc.doDcRemovalVa 20 ++
      segment 192 AudioDc.bgsNullDerefVa 24) ++
    AudioDc.expectedBuildId ++ (AudioDc.prologue ++ List.replicate 4 0) ++
    (AudioDc.prologue ++ List.replicate 16 0) ++ AudioDc.nullDeref

/-- The audio script makes an image longer that ends inside the last site; the RIL script
patches a segment of one byte. -/
theorem elfTools_not_faithful :
    (∃ out, AudioDc.patcher.apply truncatedImage = some out ∧
        ¬ Faithful elf32 AudioDc.sites truncatedImage out) ∧
      ∃ out, RilProxy.patcher.apply (rilImage 1) = some out ∧
        ¬ Faithful elf64 RilProxy.sites (rilImage 1) out := by
  constructor
  · have grown : (AudioDc.apply truncatedImage).map List.length = some 216 := by decide +kernel
    have before : truncatedImage.length = 204 := by decide +kernel
    obtain ⟨out, written, after⟩ := Option.map_eq_some_iff.mp grown
    refine ⟨out, written, fun faithful => ?_⟩
    have same := faithful.length
    omega
  · have accepted : (RilProxy.apply (rilImage 1)).isSome = true := by decide +kernel
    have short : segmentOf elf64 (rilImage 1) RilProxy.queryProxyIdVa =
        some ⟨136, RilProxy.queryProxyIdVa, 1, 1⟩ := by decide +kernel
    obtain ⟨out, written⟩ := Option.isSome_iff_exists.mp accepted
    refine ⟨out, written, fun faithful => ?_⟩
    obtain ⟨segment, found, backs⟩ := faithful.backed _ (List.mem_singleton_self _)
    rw [short] at found
    cases found
    exact absurd (backs 1 (by decide)).2 (by decide)

end Mt6757.Tools
