import Mathlib.Data.List.Count

/-!
# Ledgers of acquisitions and releases

A ledger records what is acquired and released, and when an owner is closed.  An
owner is settled when everything acquired for it has been released exactly once.
The rules here say what one more entry or segment does to the settled owners.
-/

set_option autoImplicit false

namespace Ledger

variable {ρ ι : Type}

inductive Event (ρ ι : Type) where
  | acquired (resource : ρ)
  | released (resource : ρ)
  | closed (owner : ι)
  deriving DecidableEq, Repr

def Event.owner (ownerOf : ρ → ι) : Event ρ ι → ι
  | .acquired resource => ownerOf resource
  | .released resource => ownerOf resource
  | .closed owner => owner

def Event.isClosed : Event ρ ι → Bool
  | .closed _ => true
  | _ => false

variable [DecidableEq ρ] [DecidableEq ι] {ownerOf : ρ → ι} {log segment : List (Event ρ ι)}
  {owner : ι}

def Settled (ownerOf : ρ → ι) (log : List (Event ρ ι)) (owner : ι) : Prop :=
  ∀ resource, ownerOf resource = owner → .acquired resource ∈ log →
    log.count (.released resource) = 1

/-- Every owner is settled at the moment it is closed. -/
def SettledAtClose (ownerOf : ρ → ι) (log : List (Event ρ ι)) : Prop :=
  ∀ before owner after, log = before ++ .closed owner :: after → Settled ownerOf before owner

theorem settled_nil : Settled ownerOf ([] : List (Event ρ ι)) owner := by
  intro resource _ acquired
  exact absurd acquired List.not_mem_nil

theorem not_settled {resource : ρ} (acquired : .acquired resource ∈ log)
    (kept : .released resource ∉ log) : ¬ Settled ownerOf log (ownerOf resource) := by
  intro settled
  have once := settled resource rfl acquired
  rw [List.count_eq_zero_of_not_mem kept] at once
  omega

/-- An owner that is new to the ledger is settled by its own segment alone. -/
theorem settled_append_iff (fresh : ∀ event ∈ log, event.owner ownerOf ≠ owner) :
    Settled ownerOf (log ++ segment) owner ↔ Settled ownerOf segment owner := by
  have notAcquired : ∀ resource, ownerOf resource = owner → .acquired resource ∉ log :=
    fun _ owned acquired => fresh _ acquired owned
  have notReleased : ∀ resource, ownerOf resource = owner →
      log.count (.released resource) = 0 :=
    fun _ owned => List.count_eq_zero_of_not_mem fun released => fresh _ released owned
  constructor
  · intro settled resource owned acquired
    have once := settled resource owned (List.mem_append_right log acquired)
    rw [List.count_append, notReleased resource owned] at once
    omega
  · intro settled resource owned acquired
    rw [List.count_append, notReleased resource owned, Nat.zero_add]
    apply settled resource owned
    exact (List.mem_append.mp acquired).resolve_left (notAcquired resource owned)

theorem settledAtClose_nil : SettledAtClose ownerOf ([] : List (Event ρ ι)) := by
  intro before owner after split
  simp at split

theorem SettledAtClose.of_append (settled : SettledAtClose ownerOf (log ++ segment)) :
    SettledAtClose ownerOf log := by
  intro before owner after split
  apply settled before owner (after ++ segment)
  rw [split, List.append_assoc, List.cons_append]

omit [DecidableEq ρ] [DecidableEq ι] in
theorem concat_eq_append_cons {before after : List (Event ρ ι)} {last event : Event ρ ι}
    (split : log ++ [last] = before ++ event :: after) :
    (before = log ∧ event = last) ∨ ∃ after', log = before ++ event :: after' := by
  rcases List.eq_nil_or_concat after with rfl | ⟨after', end', rfl⟩
  · obtain ⟨same, lasts⟩ := List.append_inj' split rfl
    exact .inl ⟨same.symm, (List.singleton_inj.mp lasts).symm⟩
  · rw [List.concat_eq_append, ← List.cons_append, ← List.append_assoc] at split
    exact .inr ⟨after', (List.append_inj' split rfl).1⟩

theorem settledAtClose_concat_iff {event : Event ρ ι} (running : event.isClosed = false) :
    SettledAtClose ownerOf (log ++ [event]) ↔ SettledAtClose ownerOf log := by
  refine ⟨.of_append, fun settled before owner after split => ?_⟩
  rcases concat_eq_append_cons split with ⟨-, rfl⟩ | ⟨after', earlier⟩
  · exact absurd running (by simp [Event.isClosed])
  · exact settled before owner after' earlier

/-- While no owner is closed, nothing is to be settled. -/
theorem settledAtClose_append_iff (running : ∀ event ∈ segment, event.isClosed = false) :
    SettledAtClose ownerOf (log ++ segment) ↔ SettledAtClose ownerOf log := by
  induction segment generalizing log with
  | nil => rw [List.append_nil]
  | cons event rest ih =>
      have restRunning : ∀ event' ∈ rest, event'.isClosed = false :=
        fun event' here => running event' (List.mem_cons_of_mem _ here)
      rw [← List.singleton_append, ← List.append_assoc, ih restRunning,
        settledAtClose_concat_iff (running event List.mem_cons_self)]

/-- Closing an owner asks that it is settled then. -/
theorem settledAtClose_close_iff :
    SettledAtClose ownerOf (log ++ [.closed owner]) ↔
      SettledAtClose ownerOf log ∧ Settled ownerOf log owner := by
  constructor
  · exact fun settled => ⟨settled.of_append, settled log owner [] rfl⟩
  · intro ⟨settled, last⟩ before owner' after split
    rcases concat_eq_append_cons split with ⟨rfl, same⟩ | ⟨after', earlier⟩
    · obtain rfl := Event.closed.inj same
      exact last
    · exact settled before owner' after' earlier

end Ledger
