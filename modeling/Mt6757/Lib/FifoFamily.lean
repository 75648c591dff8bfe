import Mathlib.Algebra.BigOperators.Group.Finset.Basic
import Mathlib.Algebra.BigOperators.Group.List.Basic
import Mathlib.Algebra.BigOperators.Group.Finset.Piecewise
import Mathlib.Data.Finset.Basic
import Mt6757.Lib.KeyedList

/-!
# Families of bounded FIFO queues

One queue for every key, all of them sharing one bound.  This says what a
registry of handlers is for; how it is stored is left to its clients, which
relate to it by `Stores`: one list that carries every queue as the subsequence
of its key.
-/

set_option autoImplicit false

/-- Only finitely many queues are in use, so that their total length exists. -/
structure FifoFamily (K V : Type) where
  queue : K → List V
  support : Finset K
  empty_of_notMem : ∀ key, key ∉ support → queue key = []

namespace FifoFamily

variable {K V : Type}

def total (family : FifoFamily K V) : Nat := ∑ key ∈ family.support, (family.queue key).length

def none (K V : Type) : FifoFamily K V := ⟨fun _ => [], ∅, fun _ _ => rfl⟩

def peek (family : FifoFamily K V) (key : K) : Option V := (family.queue key).head?

variable [DecidableEq K]

def append (family : FifoFamily K V) (key : K) (value : V) : FifoFamily K V where
  queue := Function.update family.queue key (family.queue key ++ [value])
  support := insert key family.support
  empty_of_notMem := by
    intro other absent
    rw [Finset.mem_insert, not_or] at absent
    rw [Function.update_of_ne absent.1]
    exact family.empty_of_notMem other absent.2

def register (family : FifoFamily K V) (bound : Nat) (key : K) (value : V) :
    Option (FifoFamily K V) :=
  if family.total < bound then some (family.append key value) else .none

/-- Dequeue the oldest element of a key. -/
def unregister (family : FifoFamily K V) (key : K) : FifoFamily K V where
  queue := Function.update family.queue key (family.queue key).tail
  support := family.support
  empty_of_notMem := by
    intro other absent
    by_cases same : other = key
    · subst same
      simp [family.empty_of_notMem other absent]
    · rw [Function.update_of_ne same]
      exact family.empty_of_notMem other absent

/-! ## A list that stores a family -/

/-- The entries of each key, in their order in the list, are that key's queue. -/
def Stores {E : Type} (keyOf : E → K) (valueOf : E → V) (entries : List E)
    (family : FifoFamily K V) : Prop :=
  ∀ key, family.queue key = (entries.filter fun entry => keyOf entry = key).map valueOf

section Stores

variable {E : Type} {keyOf : E → K} {valueOf : E → V} {entries : List E}
  {family : FifoFamily K V}

theorem sum_filter_length (entries : List E) (keys : Finset K)
    (covered : ∀ entry ∈ entries, keyOf entry ∈ keys) :
    ∑ key ∈ keys, (entries.filter fun entry => keyOf entry = key).length = entries.length := by
  induction entries with
  | nil => simp
  | cons entry rest ih =>
      have tail := ih fun other member => covered other (List.mem_cons_of_mem _ member)
      have head : keyOf entry ∈ keys := covered entry List.mem_cons_self
      have split : ∀ key, ((entry :: rest).filter fun entry => keyOf entry = key).length =
          (rest.filter fun entry => keyOf entry = key).length +
            if keyOf entry = key then 1 else 0 := by
        intro key
        by_cases same : keyOf entry = key <;> simp [same]
      simp only [split, Finset.sum_add_distrib, tail, Finset.sum_ite_eq, head, if_true,
        List.length_cons]

theorem Stores.total_eq (stored : Stores keyOf valueOf entries family) :
    family.total = entries.length := by
  have covered : ∀ entry ∈ entries, keyOf entry ∈ family.support := by
    intro entry member
    by_contra absent
    have noQueue := stored (keyOf entry)
    rw [family.empty_of_notMem _ absent] at noQueue
    have filtered := List.map_eq_nil_iff.mp noQueue.symm
    have inFilter : entry ∈ entries.filter fun other => keyOf other = keyOf entry :=
      List.mem_filter.mpr ⟨member, by simp⟩
    rw [filtered] at inFilter
    exact List.not_mem_nil inFilter
  rw [← sum_filter_length entries family.support covered]
  apply Finset.sum_congr rfl
  intro key _
  rw [stored key, List.length_map]

theorem stores_none : Stores keyOf valueOf [] (none K V) := fun _ => rfl

theorem Stores.peek_eq (stored : Stores keyOf valueOf entries family) (key : K) :
    family.peek key = (entries.find? fun entry => keyOf entry = key).map valueOf := by
  simp [peek, stored key, List.head?_filter]

theorem Stores.append (stored : Stores keyOf valueOf entries family) (entry : E) :
    Stores keyOf valueOf (entries ++ [entry])
      (family.append (keyOf entry) (valueOf entry)) := by
  intro key
  by_cases same : key = keyOf entry
  · subst same
    simp [FifoFamily.append, stored (keyOf entry)]
  · have other : keyOf entry ≠ key := Ne.symm same
    simp [FifoFamily.append, Function.update_of_ne same, stored key, other]

/-- Erasing the first entry of a key dequeues that key and no other. -/
theorem Stores.unregister (stored : Stores keyOf valueOf entries family) (key : K) :
    Stores keyOf valueOf (entries.eraseP fun entry => keyOf entry = key)
      (family.unregister key) := by
  intro other
  by_cases same : other = key
  · subst same
    simp only [FifoFamily.unregister, Function.update_self, stored other,
      KeyedList.filter_eraseP_self, List.map_tail]
  · rw [KeyedList.filter_eraseP_of_disjoint]
    · simp only [FifoFamily.unregister, Function.update_of_ne same, stored other]
    · intro entry matches_key
      have : keyOf entry = key := by simpa using matches_key
      simp [this, Ne.symm same]

end Stores

end FifoFamily
