import Mathlib.Data.List.Induction
import Mt6757.Lib.Octets

/-!
# Splices

A byte string some windows of which are replaced.  Assignment to a slice never fails: a
window that reaches past the end makes the string longer, so everything below is about
windows that lie inside.
-/

set_option autoImplicit false

/-- Assignment to the slice of `width` bytes from `start` on. -/
def splice (bytes : List UInt8) (start width : Nat) (new : List UInt8) : List UInt8 :=
  bytes.take start ++ new ++ bytes.drop (start + width)

/-- A slice that is as long as it was asked for lies inside. -/
theorem slice_inside {bytes : List UInt8} {start n : Nat} (pos : 0 < n)
    (full : (slice bytes start n).length = n) : start + n ≤ bytes.length := by
  simp only [slice, List.length_take, List.length_drop] at full
  omega

theorem slice_getElem? (bytes : List UInt8) (start n i : Nat) :
    (slice bytes start n)[i]? = if i < n then bytes[start + i]? else none := by
  rw [slice, List.getElem?_take]
  split
  · rw [List.getElem?_drop]
  · rfl

/-- A window, and what is to stand there. -/
structure Patch where
  start : Nat
  new : List UInt8

namespace Patch

def stop (patch : Patch) : Nat := patch.start + patch.new.length

def Covers (patch : Patch) (i : Nat) : Prop := patch.start ≤ i ∧ i < patch.stop

instance (patch : Patch) (i : Nat) : Decidable (patch.Covers i) := by
  unfold Covers
  infer_instance

def Inside (patch : Patch) (bytes : List UInt8) : Prop := patch.stop ≤ bytes.length

instance (patch : Patch) (bytes : List UInt8) : Decidable (patch.Inside bytes) := by
  unfold Inside
  infer_instance

def Apart (patch other : Patch) : Prop := patch.stop ≤ other.start ∨ other.stop ≤ patch.start

instance (patch other : Patch) : Decidable (patch.Apart other) := by
  unfold Apart
  infer_instance

def HeldBy (patch : Patch) (bytes : List UInt8) : Prop :=
  slice bytes patch.start patch.new.length = patch.new

instance (patch : Patch) (bytes : List UInt8) : Decidable (patch.HeldBy bytes) := by
  unfold HeldBy
  infer_instance

def put (bytes : List UInt8) (patch : Patch) : List UInt8 :=
  splice bytes patch.start patch.new.length patch.new

variable {patch other : Patch} {bytes : List UInt8}

theorem put_length (inside : patch.Inside bytes) : (put bytes patch).length = bytes.length := by
  simp only [Inside, stop] at inside
  simp only [put, splice, List.length_append, List.length_take, List.length_drop]
  omega

/-- What lies inside still does after an assignment that keeps the length. -/
theorem Inside.put (there : other.Inside bytes) (here : patch.Inside bytes) :
    other.Inside (put bytes patch) := by
  rw [Inside, put_length here]
  exact there

theorem inside_rest {rest : List Patch} (inside : ∀ each ∈ patch :: rest, each.Inside bytes) :
    ∀ each ∈ rest, each.Inside (put bytes patch) := by
  intro each there
  exact (inside each (List.mem_cons_of_mem _ there)).put (inside patch List.mem_cons_self)

/-- Assignment to a slice never makes the string shorter, and longer unless the slice lies
inside. -/
theorem put_length_ge (pos : 0 < patch.new.length) :
    bytes.length ≤ (put bytes patch).length ∧
      ((put bytes patch).length = bytes.length ↔ patch.Inside bytes) := by
  simp only [put, splice, List.length_append, List.length_take, List.length_drop, Inside, stop]
  omega

theorem put_getElem? (inside : patch.Inside bytes) (i : Nat) :
    (put bytes patch)[i]? =
      if patch.Covers i then patch.new[i - patch.start]? else bytes[i]? := by
  simp only [Inside, stop] at inside
  have front : (bytes.take patch.start).length = patch.start := by
    rw [List.length_take]
    omega
  rw [put, splice, List.append_assoc]
  by_cases before : i < patch.start
  · rw [List.getElem?_append_left (by omega), List.getElem?_take, if_pos before,
      if_neg fun here => absurd here.1 (by omega)]
  rw [List.getElem?_append_right (by omega), front]
  by_cases within : i < patch.start + patch.new.length
  · rw [List.getElem?_append_left (by omega), if_pos ⟨by omega, within⟩]
  · rw [List.getElem?_append_right (by omega), List.getElem?_drop, if_neg fun here => within here.2]
    congr 1
    omega

theorem put_outside (inside : patch.Inside bytes) {i : Nat} (off : ¬ patch.Covers i) :
    (put bytes patch)[i]? = bytes[i]? := by
  rw [put_getElem? inside, if_neg off]

theorem heldBy_iff :
    patch.HeldBy bytes ↔ ∀ i, patch.Covers i → bytes[i]? = patch.new[i - patch.start]? := by
  simp only [HeldBy, Covers, stop]
  constructor
  · intro held i here
    rw [← held, slice_getElem?, if_pos (by omega)]
    congr 1
    omega
  · intro same
    apply List.ext_getElem?
    intro i
    rw [slice_getElem?]
    split
    next within =>
      rw [same _ (by omega)]
      congr 1
      omega
    next out => rw [List.getElem?_eq_none (by omega)]

theorem HeldBy.inside (held : patch.HeldBy bytes) (pos : 0 < patch.new.length) :
    patch.Inside bytes :=
  slice_inside pos (by rw [held])

theorem put_heldBy (inside : patch.Inside bytes) : patch.HeldBy (put bytes patch) := by
  refine heldBy_iff.mpr fun i here => ?_
  rw [put_getElem? inside, if_pos here]

/-- A window that already holds what is put there. -/
theorem put_of_heldBy (inside : patch.Inside bytes) (held : patch.HeldBy bytes) :
    put bytes patch = bytes := by
  apply List.ext_getElem?
  intro i
  rw [put_getElem? inside]
  split
  next here => exact (heldBy_iff.mp held i here).symm
  next => rfl

theorem slice_put_of_apart (inside : patch.Inside bytes) {start n : Nat}
    (apart : patch.stop ≤ start ∨ start + n ≤ patch.start) :
    slice (put bytes patch) start n = slice bytes start n := by
  apply List.ext_getElem?
  intro i
  rw [slice_getElem?, slice_getElem?]
  split
  next within =>
    refine put_outside inside ?_
    simp only [Covers, stop] at apart ⊢
    omega
  next => rfl

/-! ## Several windows -/

def putAll (bytes : List UInt8) (patches : List Patch) : List UInt8 := patches.foldl put bytes

variable {patches : List Patch}

theorem putAll_length (inside : ∀ patch ∈ patches, patch.Inside bytes) :
    (putAll bytes patches).length = bytes.length := by
  induction patches generalizing bytes with
  | nil => rfl
  | cons patch rest ih =>
      have length := put_length (inside patch List.mem_cons_self)
      exact (ih (inside_rest inside)).trans length

theorem putAll_length_iff (pos : ∀ patch ∈ patches, 0 < patch.new.length) :
    bytes.length ≤ (putAll bytes patches).length ∧
      ((putAll bytes patches).length = bytes.length ↔ ∀ patch ∈ patches, patch.Inside bytes) := by
  induction patches generalizing bytes with
  | nil => simp [putAll]
  | cons patch rest ih =>
      obtain ⟨longer, same⟩ := @put_length_ge patch bytes (pos patch List.mem_cons_self)
      obtain ⟨longer', same'⟩ := @ih (put bytes patch) fun patch' there =>
        pos patch' (List.mem_cons_of_mem _ there)
      rw [putAll, List.foldl_cons]
      rw [putAll] at longer' same'
      refine ⟨le_trans longer longer', ?_⟩
      rw [List.forall_mem_cons]
      constructor
      · intro equal
        have head : (put bytes patch).length = bytes.length := by omega
        refine ⟨same.mp head, fun patch' there => ?_⟩
        have inside := same'.mp (by omega) patch' there
        rw [Inside, head] at inside
        exact inside
      · rintro ⟨head, inside⟩
        have equal := same.mpr head
        have later := same'.mpr fun patch' there => by
          rw [Inside, equal]
          exact inside patch' there
        omega

theorem putAll_outside (inside : ∀ patch ∈ patches, patch.Inside bytes) {i : Nat}
    (off : ∀ patch ∈ patches, ¬ patch.Covers i) : (putAll bytes patches)[i]? = bytes[i]? := by
  induction patches generalizing bytes with
  | nil => rfl
  | cons patch rest ih =>
      have here := inside patch List.mem_cons_self
      have later := ih (inside_rest inside) fun patch' there => off patch' (List.mem_cons_of_mem _ there)
      exact later.trans (put_outside here (off patch List.mem_cons_self))

/-- A slice that no window touches stays. -/
theorem slice_putAll_of_apart (inside : ∀ patch ∈ patches, patch.Inside bytes) {start n : Nat}
    (apart : ∀ patch ∈ patches, patch.stop ≤ start ∨ start + n ≤ patch.start) :
    slice (putAll bytes patches) start n = slice bytes start n := by
  apply List.ext_getElem?
  intro i
  rw [slice_getElem?, slice_getElem?]
  split
  next within =>
    refine putAll_outside inside fun patch here => ?_
    have away := apart patch here
    simp only [Covers, stop] at away ⊢
    omega
  next => rfl

/-- Windows that are apart hold what is put into them. -/
theorem putAll_heldBy (inside : ∀ patch ∈ patches, patch.Inside bytes)
    (apart : patches.Pairwise Apart) : ∀ patch ∈ patches, patch.HeldBy (putAll bytes patches) := by
  induction patches generalizing bytes with
  | nil =>
      intro patch here
      cases here
  | cons head rest ih =>
      obtain ⟨first, later⟩ := List.pairwise_cons.mp apart
      have here := inside head List.mem_cons_self
      have inside' := inside_rest inside
      intro patch there
      rcases List.mem_cons.mp there with rfl | there
      · have away : ∀ other ∈ rest,
            other.stop ≤ patch.start ∨ patch.start + patch.new.length ≤ other.start :=
          fun other there => (first other there).symm
        exact (slice_putAll_of_apart inside' away).trans (put_heldBy here)
      · exact ih inside' later patch there

/-- Only what is off the windows decides the result. -/
theorem putAll_congr {bytes' : List UInt8} (inside : ∀ patch ∈ patches, patch.Inside bytes)
    (length : bytes'.length = bytes.length)
    (agree : ∀ i, (∀ patch ∈ patches, ¬ patch.Covers i) → bytes'[i]? = bytes[i]?) :
    putAll bytes' patches = putAll bytes patches := by
  induction patches generalizing bytes bytes' with
  | nil =>
      apply List.ext_getElem?
      intro i
      exact agree i (by simp)
  | cons patch rest ih =>
      have here := inside patch List.mem_cons_self
      have here' : patch.Inside bytes' := by
        rw [Inside, length]
        exact here
      refine ih (inside_rest inside) ?_ ?_
      · rw [put_length here, put_length here', length]
      · intro i off
        rw [put_getElem? here, put_getElem? here']
        split
        · rfl
        next away =>
          refine agree i fun patch' there => ?_
          rcases List.mem_cons.mp there with rfl | there
          · exact away
          · exact off patch' there

/-! ## Windows over a map -/

theorem Apart.not_covers (apart : patch.Apart other) {i : Nat} (here : patch.Covers i) :
    ¬ other.Covers i := by
  simp only [Apart, Covers] at apart here ⊢
  omega

/-- A map with windows laid over it. -/
def overlay (patches : List Patch) (mem : Nat → Option UInt8) (i : Nat) : Option UInt8 :=
  match patches.find? (fun patch => patch.Covers i) with
  | some patch => patch.new[i - patch.start]?
  | none => mem i

theorem overlay_cons (patch : Patch) (rest : List Patch) (mem : Nat → Option UInt8) (i : Nat) :
    overlay (patch :: rest) mem i =
      if patch.Covers i then patch.new[i - patch.start]? else overlay rest mem i := by
  by_cases covers : patch.Covers i
  · rw [overlay, List.find?_cons_of_pos (by simpa using covers), if_pos covers]
  · rw [overlay, List.find?_cons_of_neg (by simpa using covers), if_neg covers, overlay]

theorem overlay_off {mem : Nat → Option UInt8} {i : Nat}
    (off : ∀ patch ∈ patches, ¬ patch.Covers i) : overlay patches mem i = mem i := by
  have nowhere : patches.find? (fun patch => patch.Covers i) = none := by
    rw [List.find?_eq_none]
    intro patch here
    simpa using off patch here
  rw [overlay, nowhere]

theorem overlay_covered {mem : Nat → Option UInt8} {i : Nat} (apart : patches.Pairwise Apart)
    (there : patch ∈ patches) (here : patch.Covers i) :
    overlay patches mem i = patch.new[i - patch.start]? := by
  induction patches with
  | nil => cases there
  | cons head rest ih =>
      obtain ⟨first, later⟩ := List.pairwise_cons.mp apart
      rw [overlay]
      by_cases covers : head.Covers i
      · have same : head = patch := by
          rcases List.mem_cons.mp there with same | there
          · exact same.symm
          · exact absurd here ((first patch there).not_covers covers)
        rw [List.find?_cons_of_pos (by simpa using covers), same]
      · have there : patch ∈ rest := by
          rcases List.mem_cons.mp there with rfl | there
          · exact absurd here covers
          · exact there
        rw [List.find?_cons_of_neg (by simpa using covers)]
        exact ih later there

/-- Windows put into a string are laid over it. -/
theorem putAll_getElem? (inside : ∀ patch ∈ patches, patch.Inside bytes)
    (apart : patches.Pairwise Apart) (i : Nat) :
    (putAll bytes patches)[i]? = overlay patches (fun i => bytes[i]?) i := by
  by_cases off : ∀ patch ∈ patches, ¬ patch.Covers i
  · rw [putAll_outside inside off, overlay_off off]
  · push Not at off
    obtain ⟨patch, there, here⟩ := off
    rw [overlay_covered apart there here]
    exact heldBy_iff.mp (putAll_heldBy inside apart patch there) i here

/-- Of windows that lie over each other the last one is seen. -/
theorem putAll_getElem?_last (inside : ∀ patch ∈ patches, patch.Inside bytes) (i : Nat) :
    (putAll bytes patches)[i]? = overlay patches.reverse (fun i => bytes[i]?) i := by
  induction patches using List.reverseRecOn with
  | nil => rfl
  | append_singleton earlier patch ih =>
      have before : ∀ other ∈ earlier, other.Inside bytes := fun other there =>
        inside other (List.mem_append_left _ there)
      have here : patch.Inside (putAll bytes earlier) := by
        rw [Inside, putAll_length before]
        exact inside patch (List.mem_append_right _ (List.mem_singleton_self _))
      have last : putAll bytes (earlier ++ [patch]) = put (putAll bytes earlier) patch := by
        rw [putAll, putAll, List.foldl_append, List.foldl_cons, List.foldl_nil]
      rw [last, put_getElem? here, ih before, List.reverse_append, List.reverse_singleton,
        List.singleton_append, overlay_cons]

end Patch
