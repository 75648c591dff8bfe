import Mathlib.Data.Set.Basic
import Mt6757.Lib.CharMemory

/-!
# What a program leaves alone

A frame between two memories says that nothing outside a region of places was written, and
nothing behind the end of an object.
-/

set_option autoImplicit false

namespace Memory

/-- A place is an object and an index in it; these are `n` places from a pointer on. -/
def span (p : CharPtr) (n : Nat) : Set (Nat × Nat) :=
  {place | place.1 = p.object ∧ p.offset ≤ place.2 ∧ place.2 < p.offset + n}

structure Frame (region : Set (Nat × Nat)) (mem mem' : Memory) : Prop where
  length : ∀ object, (mem' object).length = (mem object).length
  kept : ∀ object i, (object, i) ∉ region → (mem' object)[i]? = (mem object)[i]?

variable {region larger : Set (Nat × Nat)} {mem mem' mem'' : Memory} {p : CharPtr} {n : Nat}

theorem span_subset_add {i m : Nat} (inside : i + m ≤ n) : span (p.add i) m ⊆ span p n := by
  rintro ⟨object, index⟩ ⟨same, start, stop⟩
  simp only [CharPtr.add] at same start stop
  exact ⟨same, by simp only; omega, by simp only; omega⟩

theorem span_subset {m : Nat} (fewer : m ≤ n) : span p m ⊆ span p n :=
  fun _ ⟨same, start, stop⟩ => ⟨same, start, by omega⟩

namespace Frame

theorem refl (mem : Memory) : Frame region mem mem := ⟨fun _ => rfl, fun _ _ _ => rfl⟩

theorem trans (first : Frame region mem mem') (second : Frame region mem' mem'') :
    Frame region mem mem'' where
  length object := (second.length object).trans (first.length object)
  kept object i off := (second.kept object i off).trans (first.kept object i off)

theorem mono (frame : Frame region mem mem') (subset : region ⊆ larger) :
    Frame larger mem mem' :=
  ⟨frame.length, fun object i off => frame.kept object i fun here => off (subset here)⟩

end Frame

variable {new rest : List UInt8}

theorem frame_write (inside : p.offset + new.length ≤ (mem p.object).length) :
    Frame (span p new.length) mem (mem.write p new) where
  length := length_write inside
  kept object i off := by
    have read := getElem?_bytes_write inside ⟨object, 0⟩ i
    simp only [bytes, List.drop_zero] at read
    rw [read, if_neg]
    rintro ⟨same, start, stop⟩
    simp only [Nat.zero_add] at start stop
    exact off ⟨same, start, stop⟩

theorem frame_memset (inside : p.offset + n ≤ (mem p.object).length) (byte : UInt8) :
    Frame (span p n) mem (mem.memset p byte n) := by
  have length : (List.replicate n byte).length = n := List.length_replicate
  have frame := @frame_write mem p (List.replicate n byte) (by rw [length]; exact inside)
  rw [length] at frame
  exact frame

theorem frame_snprintf (inside : p.offset + n ≤ (mem p.object).length) (text : CString) :
    Frame (span p n) mem (mem.snprintf p n text) := by
  rw [snprintf]
  split
  next => exact .refl mem
  next nonzero =>
    have short : (text.take (n - 1) ++ [0]).length ≤ n := by
      rw [List.length_append, List.length_take, List.length_singleton]
      omega
    exact (frame_write (by omega)).mono (span_subset short)

/-- What stands behind the written bytes may be written along with them. -/
theorem write_append_rest {old : List UInt8} (here : mem.bytes p = old ++ rest)
    (length : new.length = old.length) : mem.write p (new ++ rest) = mem.write p new := by
  have behind : (mem p.object).drop (p.offset + new.length) = rest := by
    rw [← List.drop_drop, ← bytes, here, length, List.drop_left]
  have nothing : (mem p.object).drop (p.offset + (new ++ rest).length) = [] := by
    rw [List.length_append, ← Nat.add_assoc, ← List.drop_drop, behind, List.drop_length]
  rw [write, write, nothing, behind, List.append_nil, List.append_assoc]

/-! ## Terminators -/

/-- The string at a pointer ends no later than so many characters on. -/
def Ends (p : CharPtr) (n : Nat) (mem : Memory) : Prop := (mem p.object)[p.offset + n]? = some 0

theorem Ends.frame (ends : Ends p n mem) (frame : Frame (span p n) mem mem') : Ends p n mem' := by
  have off : (p.object, p.offset + n) ∉ span p n := fun ⟨_, _, stop⟩ => Nat.lt_irrefl _ stop
  exact (frame.kept p.object _ off).trans ends

theorem ends_of_terminated (terminated : 0 ∈ mem.bytes p) :
    Ends p (mem.string p).length mem := by
  obtain ⟨rest, here⟩ := bytes_of_terminated terminated
  rw [Ends, ← List.getElem?_drop, ← bytes, here, List.getElem?_append_right (Nat.le_refl _),
    Nat.sub_self]
  rfl

theorem Ends.inside (ends : Ends p n mem) : p.offset + n < (mem p.object).length :=
  (List.getElem?_eq_some_iff.mp ends).1

theorem Ends.mem_bytes {i : Nat} (ends : Ends p n mem) (within : i ≤ n) :
    0 ∈ mem.bytes (p.add i) := by
  apply @List.mem_of_getElem? _ _ (n - i)
  rw [bytes, List.getElem?_drop]
  have same : p.offset + i + (n - i) = p.offset + n := by omega
  exact (congrArg _ same).trans ends

theorem Ends.length_le {i : Nat} (ends : Ends p n mem) (within : i ≤ n) :
    i + (mem.string (p.add i)).length ≤ n := by
  by_contra longer
  have there : n - i < (mem.string (p.add i)).length := by omega
  obtain ⟨rest, here⟩ := bytes_of_terminated (ends.mem_bytes within)
  have zero : (mem.bytes (p.add i))[n - i]? = some 0 := by
    rw [bytes, List.getElem?_drop]
    have same : p.offset + i + (n - i) = p.offset + n := by omega
    exact (congrArg _ same).trans ends
  rw [here, List.getElem?_append_left there] at zero
  exact zero_not_mem_string mem _ (List.mem_of_getElem? zero)

end Memory
