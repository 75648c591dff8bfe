import Mt6757.Lib.Splice

/-!
# Loading segments of a file

Memory as it stands once segments of a file are mapped in order, and what becomes of it
when windows of the file are replaced.
-/

set_option autoImplicit false

structure Segment where
  offset : Nat
  vaddr : Nat
  filesz : Nat
  memsz : Nat
  deriving DecidableEq, Repr

inductive Place where
  | zero
  | file (position : Nat)
  deriving DecidableEq, Repr

namespace Segment

def Backs (segment : Segment) (address : Nat) : Prop :=
  segment.vaddr ≤ address ∧ address < segment.vaddr + segment.filesz

def Maps (segment : Segment) (address : Nat) : Prop :=
  segment.vaddr ≤ address ∧ address < segment.vaddr + max segment.filesz segment.memsz

instance (segment : Segment) (address : Nat) : Decidable (segment.Backs address) := by
  unfold Backs
  infer_instance

instance (segment : Segment) (address : Nat) : Decidable (segment.Maps address) := by
  unfold Maps
  infer_instance

def fileOffset (segment : Segment) (address : Nat) : Nat :=
  segment.offset + (address - segment.vaddr)

def place (segment : Segment) (address : Nat) : Place :=
  if segment.Backs address then .file (segment.fileOffset address) else .zero

end Segment

def Place.read (file : Nat → Option UInt8) : Place → Option UInt8
  | .zero => some 0
  | .file position => file position

/-- A later segment is mapped over an earlier one. -/
def placeOf (segments : List Segment) (address : Nat) : Option Place :=
  (segments.reverse.find? fun segment => segment.Maps address).map fun segment =>
    segment.place address

/-- The memory; an address that nothing is mapped to, or a byte behind the end of the
file, has no value. -/
def load (segments : List Segment) (file : Nat → Option UInt8) (address : Nat) : Option UInt8 :=
  (placeOf segments address).bind (Place.read file)

/-! ## Windows of the file -/

structure LoadedPatch where
  address : Nat
  offset : Nat
  new : List UInt8
  deriving DecidableEq

namespace LoadedPatch

def virtual (patch : LoadedPatch) : Patch := ⟨patch.address, patch.new⟩

def inFile (patch : LoadedPatch) : Patch := ⟨patch.offset, patch.new⟩

end LoadedPatch

section Windows

variable (patches : List LoadedPatch) (file : Nat → Option UInt8)

/-- Some window puts the byte at the position, or none touches it and it is there. -/
def Carries (position : Nat) (byte : Option UInt8) : Prop :=
  (∃ patch ∈ patches, patch.inFile.Covers position ∧
      patch.new[position - patch.offset]? = byte) ∨
    ((∀ patch ∈ patches, ¬ patch.inFile.Covers position) ∧ file position = byte)

/-- Some window puts another byte at the position. -/
def Changes (position : Nat) : Prop :=
  ∃ patch ∈ patches, patch.inFile.Covers position ∧
    patch.new[position - patch.offset]? ≠ file position

def LoadsByte (segments : List Segment) (address : Nat) (byte : Option UInt8) : Prop :=
  match placeOf segments address with
  | some (.file position) => Carries patches file position byte
  | some .zero => byte = some 0
  | none => False

variable {patches file} {segments : List Segment}

theorem covered_eq (apart : (patches.map LoadedPatch.inFile).Pairwise Patch.Apart)
    {position : Nat} {patch other : LoadedPatch} (there : patch ∈ patches)
    (here : patch.inFile.Covers position) (there' : other ∈ patches)
    (here' : other.inFile.Covers position) :
    patch.new[position - patch.offset]? = other.new[position - other.offset]? := by
  have first : Patch.overlay (patches.map LoadedPatch.inFile) (fun _ => none) position =
      patch.new[position - patch.offset]? :=
    Patch.overlay_covered apart (List.mem_map_of_mem there) here
  have second : Patch.overlay (patches.map LoadedPatch.inFile) (fun _ => none) position =
      other.new[position - other.offset]? :=
    Patch.overlay_covered apart (List.mem_map_of_mem there') here'
  exact first.symm.trans second

theorem overlay_eq_iff_carries (apart : (patches.map LoadedPatch.inFile).Pairwise Patch.Apart)
    (position : Nat) (byte : Option UInt8) :
    Patch.overlay (patches.map LoadedPatch.inFile) file position = byte ↔
      Carries patches file position byte := by
  by_cases off : ∀ patch ∈ patches, ¬ patch.inFile.Covers position
  · have none_covers : ¬ ∃ patch ∈ patches, patch.inFile.Covers position ∧
        patch.new[position - patch.offset]? = byte := by
      rintro ⟨patch, there, here, -⟩
      exact off patch there here
    rw [Patch.overlay_off (List.forall_mem_map.mpr off), Carries]
    rw [or_iff_right none_covers]
    exact (and_iff_right off).symm
  · push Not at off
    obtain ⟨patch, there, here⟩ := off
    rw [Patch.overlay_covered apart (List.mem_map_of_mem there) here]
    constructor
    · intro put
      exact .inl ⟨patch, there, here, put⟩
    · rintro (⟨other, there', here', put⟩ | ⟨off, -⟩)
      · exact (covered_eq apart there here there' here').trans put
      · exact absurd here (off patch there)

theorem overlay_eq_iff_not_changes
    (apart : (patches.map LoadedPatch.inFile).Pairwise Patch.Apart) (position : Nat) :
    Patch.overlay (patches.map LoadedPatch.inFile) file position = file position ↔
      ¬ Changes patches file position := by
  rw [overlay_eq_iff_carries apart]
  constructor
  · rintro (⟨patch, there, here, same⟩ | ⟨off, -⟩) ⟨other, there', here', differs⟩
    · exact differs ((covered_eq apart there' here' there here).trans same)
    · exact off other there' here'
  · intro kept
    by_cases off : ∀ patch ∈ patches, ¬ patch.inFile.Covers position
    · exact .inr ⟨off, rfl⟩
    · push Not at off
      obtain ⟨patch, there, here⟩ := off
      refine .inl ⟨patch, there, here, ?_⟩
      by_contra differs
      exact kept ⟨patch, there, here, differs⟩

/-- A patched address holds its new byte exactly when that byte is loaded there. -/
theorem load_eq_new_iff (apart : (patches.map LoadedPatch.inFile).Pairwise Patch.Apart)
    {patch : LoadedPatch} {address : Nat} (here : patch.virtual.Covers address) :
    load segments (Patch.overlay (patches.map LoadedPatch.inFile) file) address =
        patch.new[address - patch.address]? ↔
      LoadsByte patches file segments address patch.new[address - patch.address]? := by
  have some_byte : patch.new[address - patch.address]? ≠ none := by
    obtain ⟨low, high⟩ := here
    simp only [LoadedPatch.virtual, Patch.stop] at low high
    simp only [ne_eq, List.getElem?_eq_none_iff, not_le]
    omega
  rw [load, LoadsByte]
  cases placeOf segments address with
  | none =>
      simp only [Option.bind_none, iff_false]
      exact some_byte.symm
  | some place =>
      cases place with
      | zero => exact eq_comm
      | file position => exact overlay_eq_iff_carries apart position _

/-- An address keeps its byte exactly when the byte that it is loaded from does not change. -/
theorem load_eq_load_iff (apart : (patches.map LoadedPatch.inFile).Pairwise Patch.Apart)
    (address : Nat) :
    load segments (Patch.overlay (patches.map LoadedPatch.inFile) file) address =
        load segments file address ↔
      ∀ position, placeOf segments address = some (.file position) →
        ¬ Changes patches file position := by
  rw [load, load]
  cases placeOf segments address with
  | none => simp
  | some place =>
      cases place with
      | zero => simp [Place.read]
      | file position =>
          refine (overlay_eq_iff_not_changes apart position).trans ?_
          simp

/-- Windows put into a file are windows put into the memory exactly when each patched
address is loaded from its patch byte and no other address from a byte that changes. -/
theorem load_overlay_iff (apart : (patches.map LoadedPatch.inFile).Pairwise Patch.Apart)
    (apartVirtual : (patches.map LoadedPatch.virtual).Pairwise Patch.Apart) :
    (∀ address, load segments (Patch.overlay (patches.map LoadedPatch.inFile) file) address =
        Patch.overlay (patches.map LoadedPatch.virtual) (load segments file) address) ↔
      (∀ patch ∈ patches, ∀ address, patch.virtual.Covers address →
        LoadsByte patches file segments address patch.new[address - patch.address]?) ∧
      ∀ address, (∀ patch ∈ patches, ¬ patch.virtual.Covers address) →
        ∀ position, placeOf segments address = some (.file position) →
          ¬ Changes patches file position := by
  constructor
  · intro same
    constructor
    · intro patch there address here
      refine (load_eq_new_iff apart here).mp ?_
      rw [same, Patch.overlay_covered apartVirtual (List.mem_map_of_mem there) here]
      rfl
    · intro address off
      refine (load_eq_load_iff apart address).mp ?_
      rw [same, Patch.overlay_off (List.forall_mem_map.mpr off)]
  · rintro ⟨bytes, rest⟩ address
    by_cases off : ∀ patch ∈ patches, ¬ patch.virtual.Covers address
    · rw [Patch.overlay_off (List.forall_mem_map.mpr off)]
      exact (load_eq_load_iff apart address).mpr (rest address off)
    · push Not at off
      obtain ⟨patch, there, here⟩ := off
      rw [Patch.overlay_covered apartVirtual (List.mem_map_of_mem there) here]
      exact (load_eq_new_iff apart here).mpr (bytes patch there address here)

end Windows

/-! ## Images of windows -/

/-- The segment that is one window. -/
def LoadedPatch.segment (patch : LoadedPatch) : Segment :=
  ⟨patch.offset, patch.address, patch.new.length, patch.new.length⟩

section Exact

variable {patches : List LoadedPatch} {address : Nat}

theorem LoadedPatch.maps_iff (patch : LoadedPatch) :
    patch.segment.Maps address ↔ patch.virtual.Covers address := by
  simp only [Segment.Maps, segment, max_self, Patch.Covers, Patch.stop, virtual]

theorem placeOf_windows (apart : (patches.map LoadedPatch.virtual).Pairwise Patch.Apart)
    {patch : LoadedPatch} (there : patch ∈ patches) (here : patch.virtual.Covers address) :
    placeOf (patches.map LoadedPatch.segment) address =
      some (.file (patch.offset + (address - patch.address))) := by
  induction patches with
  | nil => cases there
  | cons head rest ih =>
      obtain ⟨first, later⟩ := List.pairwise_cons.mp apart
      rw [placeOf, List.map_cons, List.reverse_cons, List.find?_append]
      rcases List.mem_cons.mp there with rfl | there
      · have nowhere : (rest.map LoadedPatch.segment).reverse.find?
            (fun segment => segment.Maps address) = none := by
          rw [List.find?_eq_none]
          intro segment other
          obtain ⟨patch', there', rfl⟩ := List.mem_map.mp (List.mem_reverse.mp other)
          have away := (first _ (List.mem_map_of_mem there')).not_covers here
          simpa [LoadedPatch.maps_iff] using away
        have maps : patch.segment.Maps address := patch.maps_iff.mpr here
        have backs : patch.segment.Backs address := here
        rw [nowhere, Option.none_or, List.find?_cons_of_pos (by simpa using maps), Option.map_some,
          Segment.place, if_pos backs]
        rfl
      · have found := ih later there
        rw [placeOf] at found
        obtain ⟨segment, first_match, place⟩ := Option.map_eq_some_iff.mp found
        rw [first_match, Option.some_or, Option.map_some, place]

theorem placeOf_off_windows (off : ∀ patch ∈ patches, ¬ patch.virtual.Covers address) :
    placeOf (patches.map LoadedPatch.segment) address = none := by
  rw [placeOf, Option.map_eq_none_iff, List.find?_eq_none]
  intro segment here
  obtain ⟨patch, there, rfl⟩ := List.mem_map.mp (List.mem_reverse.mp here)
  have away := off patch there
  simpa [LoadedPatch.maps_iff] using away

end Exact
