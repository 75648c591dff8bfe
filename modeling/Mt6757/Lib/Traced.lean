import Mathlib.Data.List.Basic

/-!
# Computations that leave a trace

A value together with the events of its computation, in order.  What every event
has to satisfy is stated of the trace and splits along the computation.
-/

set_option autoImplicit false

structure Traced (ε α : Type) where
  value : α
  trace : List ε

namespace Traced

variable {ε α β σ : Type}

instance : Monad (Traced ε) where
  pure value := ⟨value, []⟩
  bind run next := ⟨(next run.value).value, run.trace ++ (next run.value).trace⟩

def emit (event : ε) : Traced ε Unit := ⟨(), [event]⟩

@[simp] theorem value_pure (value : α) : (pure value : Traced ε α).value = value := rfl

@[simp] theorem trace_pure (value : α) : (pure value : Traced ε α).trace = [] := rfl

@[simp] theorem value_bind (run : Traced ε α) (next : α → Traced ε β) :
    (run >>= next).value = (next run.value).value := rfl

@[simp] theorem trace_bind (run : Traced ε α) (next : α → Traced ε β) :
    (run >>= next).trace = run.trace ++ (next run.value).trace := rfl

@[simp] theorem trace_emit (event : ε) : (emit event).trace = [event] := rfl

/-- Every event of the computation satisfies `P`. -/
def Every (P : ε → Prop) (run : Traced ε α) : Prop := ∀ event ∈ run.trace, P event

variable {P : ε → Prop}

@[simp] theorem every_pure (value : α) : (pure value : Traced ε α).Every P := by
  simp [Every]

@[simp] theorem every_bind (run : Traced ε α) (next : α → Traced ε β) :
    (run >>= next).Every P ↔ run.Every P ∧ (next run.value).Every P := by
  simp only [Every, trace_bind, List.mem_append]
  constructor
  · intro all
    exact ⟨fun event here => all event (.inl here), fun event here => all event (.inr here)⟩
  · rintro ⟨first, second⟩ event (here | here)
    · exact first event here
    · exact second event here

@[simp] theorem every_emit (event : ε) : (emit event).Every P ↔ P event := by
  simp [Every]

/-- A computation made only under a condition. -/
def onlyIf (condition : Bool) (run : Traced ε α) (otherwise : α) : Traced ε α :=
  if condition then run else pure otherwise

@[simp] theorem every_onlyIf (condition : Bool) (run : Traced ε α) (otherwise : α) :
    (onlyIf condition run otherwise).Every P ↔ (condition = true → run.Every P) := by
  cases condition <;> simp [onlyIf]

@[simp] theorem value_onlyIf (condition : Bool) (run : Traced ε α) (otherwise : α) :
    (onlyIf condition run otherwise).value = if condition then run.value else otherwise := by
  cases condition <;> simp [onlyIf]

/-- A loop over a list that carries a state. -/
def foldl (body : σ → α → Traced ε σ) : σ → List α → Traced ε σ
  | state, [] => pure state
  | state, x :: rest => body state x >>= fun next => foldl body next rest

@[simp] theorem foldl_nil (body : σ → α → Traced ε σ) (state : σ) :
    foldl body state [] = pure state := rfl

@[simp] theorem foldl_cons (body : σ → α → Traced ε σ) (state : σ) (x : α) (rest : List α) :
    foldl body state (x :: rest) = body state x >>= fun next => foldl body next rest := rfl

/-- A loop over a list whose turns do not depend on each other. -/
def each (body : α → Traced ε β) : List α → Traced ε (List β)
  | [] => pure []
  | x :: rest => do
      let first ← body x
      let others ← each body rest
      pure (first :: others)

@[simp] theorem value_each (body : α → Traced ε β) (items : List α) :
    (each body items).value = items.map fun x => (body x).value := by
  induction items with
  | nil => rfl
  | cons x rest ih => simp [each, ih]

@[simp] theorem every_each (body : α → Traced ε β) (items : List α) :
    (each body items).Every P ↔ ∀ x ∈ items, (body x).Every P := by
  induction items with
  | nil => simp [each]
  | cons x rest ih => simp [each, ih]

theorem value_foldl (body : σ → α → Traced ε σ) (state : σ) (items : List α) :
    (foldl body state items).value = items.foldl (fun state x => (body state x).value) state := by
  induction items generalizing state with
  | nil => rfl
  | cons x rest ih => simp [ih]

/-- Every event of a loop: each turn, from the state that the turns before it leave. -/
theorem every_foldl (body : σ → α → Traced ε σ) (state : σ) (items : List α) :
    (foldl body state items).Every P ↔
      ∀ before x after, items = before ++ x :: after →
        (body (foldl body state before).value x).Every P := by
  induction items generalizing state with
  | nil => simp
  | cons first rest ih =>
      rw [foldl_cons, every_bind, ih]
      constructor
      · rintro ⟨head, tail⟩ before x after split
        cases before with
        | nil =>
            cases split
            exact head
        | cons y before =>
            cases split
            exact tail before x after rfl
      · intro all
        refine ⟨all [] first rest rfl, fun before x after split => ?_⟩
        exact all (first :: before) x after (by rw [split, List.cons_append])

/-- A loop whose turns emit the same whatever the state. -/
theorem every_foldl_of_const {body : σ → α → Traced ε σ} {Q : α → Prop} {items : List α}
    (turn : ∀ state, ∀ x ∈ items, (body state x).Every P ↔ Q x) (state : σ) :
    (foldl body state items).Every P ↔ ∀ x ∈ items, Q x := by
  induction items generalizing state with
  | nil => simp
  | cons x rest ih =>
      rw [foldl_cons, every_bind, turn state x List.mem_cons_self,
        ih (fun state y here => turn state y (List.mem_cons_of_mem x here)),
        List.forall_mem_cons]

end Traced
