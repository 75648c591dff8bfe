import Mathlib.Logic.Function.Basic

/-!
# Command trees

A program of one thread as the tree of the atomic operations it performs, where
the result of an operation selects the subtree that follows.  The same tree has
a sequential meaning (`Prog.run`) and, in `RelyGuarantee`, an interleaved one.
-/

set_option autoImplicit false

namespace CommandTree

/-- A finite tree of operations `op`, each answered by a value of type `Res op`. -/
inductive Prog (Op : Type) (Res : Op → Type) (α : Type) : Type where
  | ret (value : α) : Prog Op Res α
  | call (op : Op) (next : Res op → Prog Op Res α) : Prog Op Res α

namespace Prog

variable {Op : Type} {Res : Op → Type} {α β γ σ : Type}

def bind : Prog Op Res α → (α → Prog Op Res β) → Prog Op Res β
  | .ret value, after => after value
  | .call op next, after => .call op fun result => (next result).bind after

instance : Monad (Prog Op Res) where
  pure := .ret
  bind := bind

/-- The program that performs one operation and returns its result. -/
def perform (op : Op) : Prog Op Res (Res op) := .call op .ret

@[simp] theorem pure_eq_ret (value : α) : (pure value : Prog Op Res α) = .ret value := rfl

@[simp] theorem ret_bind (value : α) (after : α → Prog Op Res β) :
    (Prog.ret value >>= after) = after value := rfl

@[simp] theorem call_bind (op : Op) (next : Res op → Prog Op Res α) (after : α → Prog Op Res β) :
    (Prog.call op next >>= after) = .call op fun result => next result >>= after := rfl

@[simp] theorem perform_bind (op : Op) (after : Res op → Prog Op Res β) :
    (perform op >>= after) = .call op after := rfl

/-! ## Sequential runs -/

/-- The run of a program that no other thread disturbs, when `exec` says what
each operation answers and does to the shared state. -/
def run (exec : (op : Op) → σ → Res op × σ) : Prog Op Res α → σ → α × σ
  | .ret value, state => (value, state)
  | .call op next, state =>
      let answered := exec op state
      (next answered.1).run exec answered.2

variable (exec : (op : Op) → σ → Res op × σ)

@[simp] theorem run_ret (value : α) (state : σ) :
    (Prog.ret value : Prog Op Res α).run exec state = (value, state) := rfl

@[simp] theorem run_call (op : Op) (next : Res op → Prog Op Res α) (state : σ) :
    (Prog.call op next).run exec state =
      (next (exec op state).1).run exec (exec op state).2 := rfl

@[simp] theorem run_perform (op : Op) (state : σ) :
    (perform op : Prog Op Res (Res op)).run exec state = exec op state := rfl

@[simp] theorem run_bind (first : Prog Op Res α) (after : α → Prog Op Res β) (state : σ) :
    (first >>= after).run exec state =
      (after (first.run exec state).1).run exec (first.run exec state).2 := by
  induction first generalizing state with
  | ret value => rfl
  | call op next ih => exact ih (exec op state).1 (exec op state).2

/-! ## The operations of a program -/

/-- Every operation the program may perform, whatever the answers are, is among
`allowed`. -/
def AllOps (allowed : Op → Prop) : Prog Op Res α → Prop
  | .ret _ => True
  | .call op next => allowed op ∧ ∀ result, (next result).AllOps allowed

variable {allowed allowed' : Op → Prop}

@[simp] theorem allOps_ret (value : α) :
    (Prog.ret value : Prog Op Res α).AllOps allowed ↔ True := Iff.rfl

@[simp] theorem allOps_call (op : Op) (next : Res op → Prog Op Res α) :
    (Prog.call op next).AllOps allowed ↔
      allowed op ∧ ∀ result, (next result).AllOps allowed := Iff.rfl

theorem AllOps.bind {first : Prog Op Res α} {after : α → Prog Op Res β}
    (firstOps : first.AllOps allowed) (afterOps : ∀ value, (after value).AllOps allowed) :
    (first >>= after).AllOps allowed := by
  induction first with
  | ret value => exact afterOps value
  | call op next ih => exact ⟨firstOps.1, fun result => ih result (firstOps.2 result)⟩

theorem AllOps.performThen {op : Op} {after : Res op → Prog Op Res β} (allowedOp : allowed op)
    (afterOps : ∀ result, (after result).AllOps allowed) :
    (perform op >>= after).AllOps allowed := ⟨allowedOp, afterOps⟩

theorem AllOps.mono {program : Prog Op Res α} (ops : program.AllOps allowed)
    (weaker : ∀ op, allowed op → allowed' op) : program.AllOps allowed' := by
  induction program with
  | ret value => trivial
  | call op next ih => exact ⟨weaker op ops.1, fun result => ih result (ops.2 result)⟩

end Prog

end CommandTree
