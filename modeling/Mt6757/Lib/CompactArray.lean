import Mathlib.Data.List.Basic
import Mathlib.Data.List.Range
import Mathlib.Logic.Function.Basic

/-!
# Arrays kept compact by memmove

A block of `alloc` slots of which the first `num` are in use.  Entries are added
at the end; the first entry that matches is found by a loop over the indices and
removed by moving the entries behind it down one slot.  Everything a client
needs is stated about `toList`, the entries in use.
-/

set_option autoImplicit false

/-- The slots from `num` on hold whatever was last written there. -/
structure CompactArray (α : Type) where
  slot : Nat → α
  num : Nat
  alloc : Nat
  bound : num ≤ alloc

namespace CompactArray

variable {α : Type}

def toList (table : CompactArray α) : List α := (List.range' 0 table.num).map table.slot

def empty (fill : α) (alloc : Nat) : CompactArray α := ⟨fun _ => fill, 0, alloc, Nat.zero_le _⟩

/-- Copy `count` slots from `src` to `dst`; the source is read before it is overwritten. -/
def memmove (slot : Nat → α) (dst src count : Nat) : Nat → α :=
  fun i => if dst ≤ i ∧ i < dst + count then slot (i - dst + src) else slot i

/-- The loop `for (i = start; i < start + left; i++) if (matches slot[i]) break;`. -/
def firstIndex (hit : α → Bool) (slot : Nat → α) : (start left : Nat) → Option Nat
  | _, 0 => none
  | start, left + 1 =>
      if hit (slot start) then some start else firstIndex hit slot (start + 1) left

def findFirst (hit : α → Bool) (table : CompactArray α) : Option α :=
  (firstIndex hit table.slot 0 table.num).map table.slot

/-- Store at the end; `none` when every slot is in use. -/
def push (table : CompactArray α) (value : α) : Option (CompactArray α) :=
  if room : table.num < table.alloc then
    some ⟨Function.update table.slot table.num value, table.num + 1, table.alloc, room⟩
  else none

def removeFirst (hit : α → Bool) (table : CompactArray α) : CompactArray α :=
  match firstIndex hit table.slot 0 table.num with
  | none => table
  | some i =>
      ⟨memmove table.slot i (i + 1) (table.num - i - 1), table.num - 1, table.alloc,
        (Nat.sub_le _ _).trans table.bound⟩

@[simp] theorem length_toList (table : CompactArray α) : table.toList.length = table.num := by
  simp [toList]

theorem getElem?_toList_of_lt (table : CompactArray α) {i : Nat} (inUse : i < table.num) :
    table.toList[i]? = some (table.slot i) := by
  simp [toList, inUse]

/-! ## Storing at the end -/

theorem push_eq_none_iff (table : CompactArray α) (value : α) :
    table.push value = none ↔ table.toList.length = table.alloc := by
  have := table.bound
  simp only [push, length_toList]
  split <;> simp <;> omega

theorem toList_push {table table' : CompactArray α} {value : α}
    (pushed : table.push value = some table') : table'.toList = table.toList ++ [value] := by
  unfold push at pushed
  split at pushed
  · obtain rfl := Option.some.inj pushed
    simp only [toList, List.range'_concat, List.map_append, List.map_cons, List.map_nil,
      Nat.zero_add, Nat.one_mul, Function.update_self]
    congr 1
    apply List.map_congr_left
    intro i member
    have : i < table.num := by simpa using member
    exact Function.update_of_ne (by omega) _ _
  · contradiction

theorem alloc_push {table table' : CompactArray α} {value : α}
    (pushed : table.push value = some table') : table'.alloc = table.alloc := by
  unfold push at pushed
  split at pushed
  · obtain rfl := Option.some.inj pushed
    rfl
  · contradiction

/-! ## The search loop -/

theorem map_firstIndex (hit : α → Bool) (slot : Nat → α) (start left : Nat) :
    (firstIndex hit slot start left).map slot =
      ((List.range' start left).map slot).find? hit := by
  induction left generalizing start with
  | zero => rfl
  | succ left ih =>
      simp only [firstIndex, List.range'_succ, List.map_cons, List.find?_cons]
      cases hit (slot start) with
      | true => rfl
      | false => exact ih (start + 1)

theorem firstIndex_bounds {hit : α → Bool} {slot : Nat → α} {start left i : Nat}
    (found : firstIndex hit slot start left = some i) : start ≤ i ∧ i < start + left := by
  induction left generalizing start with
  | zero => simp [firstIndex] at found
  | succ left ih =>
      simp only [firstIndex] at found
      split at found
      · obtain rfl := Option.some.inj found
        omega
      · have := ih found
        omega

@[simp] theorem findFirst_eq_find? (hit : α → Bool) (table : CompactArray α) :
    table.findFirst hit = table.toList.find? hit :=
  map_firstIndex hit table.slot 0 table.num

/-! ## Removing by memmove -/

theorem map_memmove_down (slot : Nat → α) (start left : Nat) :
    (List.range' start left).map (memmove slot start (start + 1) left) =
      (List.range' (start + 1) left).map slot := by
  apply List.ext_getElem
  · simp
  · intro i inBounds _
    have small : i < left := by simpa using inBounds
    simp only [List.getElem_map, List.getElem_range', memmove]
    rw [if_pos (by omega)]
    congr 1
    omega

/-- The two cases of the loop: the entry at `start` matches and everything
behind it moves down, or it stays and the removal happens behind it. -/
theorem map_remove (hit : α → Bool) (slot : Nat → α) (start left i : Nat)
    (found : firstIndex hit slot start left = some i) :
    (List.range' start (left - 1)).map (memmove slot i (i + 1) (start + left - i - 1)) =
      ((List.range' start left).map slot).eraseP hit := by
  induction left generalizing start with
  | zero => simp [firstIndex] at found
  | succ left ih =>
      simp only [firstIndex] at found
      simp only [List.range'_succ, List.map_cons, Nat.add_sub_cancel]
      split at found
      · rename_i here
        obtain rfl := Option.some.inj found
        rw [List.eraseP_cons_of_pos here, ← map_memmove_down]
        have count : start + (left + 1) - start - 1 = left := by omega
        rw [count]
      · rename_i notHere
        rw [List.eraseP_cons_of_neg notHere, ← ih (start + 1) found]
        obtain ⟨lower, upper⟩ := firstIndex_bounds found
        obtain ⟨left, rfl⟩ : ∃ k, left = k + 1 := ⟨left - 1, by omega⟩
        have stays : memmove slot i (i + 1) (start + (left + 1 + 1) - i - 1) start =
            slot start := by
          simp only [memmove]
          rw [if_neg (by omega)]
        have count : start + 1 + (left + 1) - i - 1 = start + (left + 1 + 1) - i - 1 := by
          omega
        simp only [List.range'_succ, List.map_cons, stays, Nat.add_sub_cancel, count]

@[simp] theorem toList_removeFirst (hit : α → Bool) (table : CompactArray α) :
    (table.removeFirst hit).toList = table.toList.eraseP hit := by
  unfold removeFirst
  cases found : firstIndex hit table.slot 0 table.num with
  | none =>
      have absent := map_firstIndex hit table.slot 0 table.num
      rw [found] at absent
      have none_hit : ∀ value ∈ table.toList, ¬ hit value = true :=
        List.find?_eq_none.mp absent.symm
      exact (List.eraseP_of_forall_not none_hit).symm
  | some i =>
      have moved := map_remove hit table.slot 0 table.num i found
      simpa [toList] using moved

@[simp] theorem alloc_removeFirst (hit : α → Bool) (table : CompactArray α) :
    (table.removeFirst hit).alloc = table.alloc := by
  unfold removeFirst
  split <;> rfl

end CompactArray
