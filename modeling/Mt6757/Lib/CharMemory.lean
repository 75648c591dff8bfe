import Mathlib.Data.List.TakeWhile
import Mathlib.Logic.Function.Basic
import Mt6757.Lib.CString
import Mt6757.Lib.Splice

/-!
# Character objects and pointers into them

Arrays of `char` by name, pointers into them, and the functions of the C library
that read and write through such pointers.  Two pointers may lead into one object.
-/

set_option autoImplicit false

abbrev Memory := Nat → List UInt8

structure CharPtr where
  object : Nat
  offset : Nat
  deriving DecidableEq, Repr

def CharPtr.add (p : CharPtr) (n : Nat) : CharPtr := ⟨p.object, p.offset + n⟩

namespace Memory

/-- What lies from a pointer to the end of its object. -/
def bytes (mem : Memory) (p : CharPtr) : List UInt8 := (mem p.object).drop p.offset

def string (mem : Memory) (p : CharPtr) : CString := (mem.bytes p).takeWhile (· ≠ 0)

def write (mem : Memory) (p : CharPtr) (new : List UInt8) : Memory :=
  Function.update mem p.object
    ((mem p.object).take p.offset ++ new ++ (mem p.object).drop (p.offset + new.length))

def memset (mem : Memory) (p : CharPtr) (byte : UInt8) (n : Nat) : Memory :=
  mem.write p (List.replicate n byte)

/-- A text that does not fit is cut so that its terminator does; the result of
`snprintf` is the length of the text. -/
def snprintf (mem : Memory) (p : CharPtr) (size : Nat) (text : CString) : Memory :=
  if size = 0 then mem else mem.write p (text.take (size - 1) ++ [0])

end Memory

theorem CString.takeWhile_append_zero {s : CString} {rest : List UInt8} (whole : 0 ∉ s) :
    (s ++ 0 :: rest).takeWhile (· ≠ 0) = s := by
  rw [List.takeWhile_append_of_pos]
  · simp
  · intro byte here
    simpa using fun zero : byte = 0 => whole (zero ▸ here)

namespace Memory

variable {mem : Memory} {p : CharPtr} {new rest : List UInt8} {s : CString}

theorem string_of_bytes (whole : 0 ∉ s) (here : mem.bytes p = s ++ 0 :: rest) :
    mem.string p = s := by
  rw [string, here]
  exact CString.takeWhile_append_zero whole

theorem zero_not_mem_string (mem : Memory) (p : CharPtr) : 0 ∉ mem.string p := by
  intro here
  have nonzero := List.mem_takeWhile_imp here
  exact of_decide_eq_true nonzero rfl

theorem bytes_of_terminated (terminated : 0 ∈ mem.bytes p) :
    ∃ rest, mem.bytes p = mem.string p ++ 0 :: rest := by
  rw [string]
  generalize mem.bytes p = bytes at terminated
  induction bytes with
  | nil => cases terminated
  | cons byte later ih =>
      by_cases zero : byte = 0
      · exact ⟨later, by rw [zero]; rfl⟩
      · obtain ⟨rest, same⟩ := ih ((List.mem_cons.mp terminated).resolve_left (Ne.symm zero))
        refine ⟨rest, ?_⟩
        rw [List.takeWhile_cons, if_pos (decide_eq_true zero), List.cons_append, ← same]

/-- What is written over a whole tail of an object is read back from every offset. -/
theorem bytes_write_add (inside : p.offset ≤ (mem p.object).length)
    (whole : new.length = (mem.bytes p).length) (n : Nat) :
    (mem.write p new).bytes (p.add n) = new.drop n := by
  have start : ((mem p.object).take p.offset).length = p.offset := by
    rw [List.length_take]
    omega
  have nothing : (mem p.object).drop (p.offset + new.length) = [] := by
    apply List.drop_eq_nil_of_le
    rw [whole, bytes, List.length_drop]
    omega
  have read : (mem.write p new).bytes (p.add n) =
      ((mem p.object).take p.offset ++ new).drop (p.offset + n) := by
    simp [bytes, write, CharPtr.add, nothing]
  rw [read, List.drop_append, start, Nat.add_sub_cancel_left, List.drop_eq_nil_of_le,
    List.nil_append]
  omega

theorem bytes_write_self (inside : p.offset ≤ (mem p.object).length) :
    (mem.write p new).bytes p = new ++ (mem.bytes p).drop new.length := by
  have start : ((mem p.object).take p.offset).length = p.offset := by
    rw [List.length_take]
    omega
  rw [bytes, bytes, write, Function.update_self, List.append_assoc, List.drop_append, start,
    Nat.sub_self, List.drop_eq_nil_of_le (Nat.le_of_eq start), List.drop_drop]
  rfl

theorem length_write (inside : p.offset + new.length ≤ (mem p.object).length) (object : Nat) :
    (mem.write p new object).length = (mem object).length := by
  by_cases same : object = p.object
  · rw [same, write, Function.update_self]
    exact @Patch.put_length ⟨p.offset, new⟩ _ inside
  · rw [write, Function.update_of_ne same]

/-- What stands `i` places behind a pointer is one of `n` places from another one on. -/
def Covers (p : CharPtr) (n : Nat) (q : CharPtr) (i : Nat) : Prop :=
  q.object = p.object ∧ p.offset ≤ q.offset + i ∧ q.offset + i < p.offset + n

instance (p : CharPtr) (n : Nat) (q : CharPtr) (i : Nat) : Decidable (Covers p n q i) := by
  unfold Covers
  infer_instance

/-- A write inside an object, seen from any pointer. -/
theorem getElem?_bytes_write (inside : p.offset + new.length ≤ (mem p.object).length)
    (q : CharPtr) (i : Nat) :
    ((mem.write p new).bytes q)[i]? =
      if Covers p new.length q i then new[q.offset + i - p.offset]? else (mem.bytes q)[i]? := by
  have inPatch : Patch.Inside ⟨p.offset, new⟩ (mem p.object) := inside
  rw [bytes, bytes, List.getElem?_drop, List.getElem?_drop]
  by_cases same : q.object = p.object
  · have patched : mem.write p new q.object = Patch.put (mem p.object) ⟨p.offset, new⟩ := by
      rw [same]
      exact Function.update_self _ _ _
    rw [patched, Patch.put_getElem? inPatch, same]
    exact if_congr (and_iff_right same).symm rfl rfl
  · have kept : mem.write p new q.object = mem q.object := Function.update_of_ne same _ _
    rw [kept, if_neg fun covered => same covered.1]

theorem getElem?_bytes_memset {n : Nat} (inside : p.offset + n ≤ (mem p.object).length)
    (byte : UInt8) (q : CharPtr) (i : Nat) :
    ((mem.memset p byte n).bytes q)[i]? =
      if Covers p n q i then some byte else (mem.bytes q)[i]? := by
  have length : (List.replicate n byte).length = n := List.length_replicate
  rw [memset, getElem?_bytes_write (by rw [length]; exact inside), length]
  refine if_ctx_congr Iff.rfl (fun covered => ?_) fun _ => rfl
  rw [List.getElem?_replicate, if_pos]
  have start := covered.2.1
  have stop := covered.2.2
  omega

end Memory
