import Mathlib.Logic.Relation
import Mt6757.Lib.CommandTree

/-!
# Programs of blocks

A program that may run for ever: blocks, each a finite tree of operations that ends in a
jump to the next block.  What is known of the environment is a state, which the answers
move along; `Prog.Meets` is the weakest precondition of one block, and `Runs.meets`
joins the blocks by an invariant at each label.
-/

set_option autoImplicit false

namespace CommandTree

variable {Op : Type} {Res : Op → Type} {α β σ Label : Type}

/-- Which answers an operation may get in a state, and the state behind an answer. -/
structure Environment (Op : Type) (Res : Op → Type) (σ : Type) where
  answers : σ → (op : Op) → Res op → Prop
  after : σ → (op : Op) → Res op → σ

variable {env : Environment Op Res σ} {allowed : σ → Op → Prop}

namespace Prog

/-- Whatever the answers are, every operation is made where it is allowed, and the value
at the end is one that `final` admits. -/
def Meets (env : Environment Op Res σ) (allowed : σ → Op → Prop) (final : σ → α → Prop) :
    Prog Op Res α → σ → Prop
  | .ret value, state => final state value
  | .call op next, state =>
      allowed state op ∧ ∀ result, env.answers state op result →
        (next result).Meets env allowed final (env.after state op result)

variable {final : σ → α → Prop} {middle : σ → β → Prop} {state : σ}

@[simp] theorem meets_ret (value : α) :
    (Prog.ret value : Prog Op Res α).Meets env allowed final state ↔ final state value := Iff.rfl

@[simp] theorem meets_call (op : Op) (next : Res op → Prog Op Res α) :
    (Prog.call op next).Meets env allowed final state ↔
      allowed state op ∧ ∀ result, env.answers state op result →
        (next result).Meets env allowed final (env.after state op result) := Iff.rfl

theorem Meets.bind {first : Prog Op Res β} {after : β → Prog Op Res α}
    (here : first.Meets env allowed middle state)
    (later : ∀ value state', middle state' value → (after value).Meets env allowed final state') :
    (first >>= after).Meets env allowed final state := by
  induction first generalizing state with
  | ret value => exact later value state here
  | call op next ih =>
      exact ⟨here.1, fun result answered => ih result (here.2 result answered)⟩

end Prog

/-! ## Runs -/

structure Config (Op : Type) (Res : Op → Type) (Label σ : Type) where
  rest : Prog Op Res Label
  state : σ

def Config.nextOp (config : Config Op Res Label σ) : Option Op :=
  match config.rest with
  | .ret _ => none
  | .call op _ => some op

/-- One operation with its answer, or a jump. -/
inductive BlockStep (env : Environment Op Res σ) (code : Label → Prog Op Res Label) :
    Config Op Res Label σ → Config Op Res Label σ → Prop where
  | act (op : Op) (next : Res op → Prog Op Res Label) (state : σ) (result : Res op)
      (answered : env.answers state op result) :
      BlockStep env code ⟨.call op next, state⟩ ⟨next result, env.after state op result⟩
  | jump (label : Label) (state : σ) : BlockStep env code ⟨.ret label, state⟩ ⟨code label, state⟩

abbrev Runs (env : Environment Op Res σ) (code : Label → Prog Op Res Label) :
    Config Op Res Label σ → Config Op Res Label σ → Prop :=
  Relation.ReflTransGen (BlockStep env code)

def Config.Guarded (allowed : σ → Op → Prop) (config : Config Op Res Label σ) : Prop :=
  match config.rest with
  | .ret _ => True
  | .call op _ => allowed config.state op

variable {code : Label → Prog Op Res Label} {inv : σ → Label → Prop}
  {config config' : Config Op Res Label σ}

theorem BlockStep.meets
    (blocks : ∀ label state, inv state label → (code label).Meets env allowed inv state)
    (meets : config.rest.Meets env allowed inv config.state)
    (step : BlockStep env code config config') :
    config'.rest.Meets env allowed inv config'.state := by
  cases step with
  | act op next state result answered => exact meets.2 result answered
  | jump label state => exact blocks label state meets

theorem Runs.meets
    (blocks : ∀ label state, inv state label → (code label).Meets env allowed inv state)
    (meets : config.rest.Meets env allowed inv config.state) (runs : Runs env code config config') :
    config'.rest.Meets env allowed inv config'.state := by
  induction runs with
  | refl => exact meets
  | tail _ step ih => exact step.meets blocks ih

theorem Runs.guarded
    (blocks : ∀ label state, inv state label → (code label).Meets env allowed inv state)
    (meets : config.rest.Meets env allowed inv config.state) (runs : Runs env code config config') :
    config'.Guarded allowed := by
  have reached := runs.meets blocks meets
  rw [Config.Guarded]
  split
  next => trivial
  next op next same =>
    rw [same] at reached
    exact reached.1

/-- Where a run jumps, the invariant of the label holds. -/
theorem Runs.jumps
    (blocks : ∀ label state, inv state label → (code label).Meets env allowed inv state)
    (meets : config.rest.Meets env allowed inv config.state) (runs : Runs env code config config')
    {label : Label} (jumps : config'.rest = .ret label) : inv config'.state label := by
  have reached := runs.meets blocks meets
  rw [jumps] at reached
  exact reached

/-! ## Following one run -/

section Follow
variable (env) (code) (answer : σ → (op : Op) → Option (Res op))

/-- The configuration after so many steps, as long as the operations are answered. -/
def follow : Nat → Config Op Res Label σ → Config Op Res Label σ
  | 0, config => config
  | steps + 1, ⟨.ret label, state⟩ => follow steps ⟨code label, state⟩
  | steps + 1, ⟨.call op next, state⟩ =>
      match answer state op with
      | none => ⟨.call op next, state⟩
      | some result => follow steps ⟨next result, env.after state op result⟩

variable {env code answer}

theorem runs_follow (admitted : ∀ state op result, answer state op = some result →
      env.answers state op result) (steps : Nat) (config : Config Op Res Label σ) :
    Runs env code config (follow env code answer steps config) := by
  induction steps generalizing config with
  | zero => exact .refl
  | succ steps ih =>
      obtain ⟨rest, state⟩ := config
      cases rest with
      | ret label => exact .head (.jump label state) (ih _)
      | call op next =>
          rw [follow]
          split
          next => exact .refl
          next result answered =>
            exact .head (.act op next state result (admitted state op result answered)) (ih _)

end Follow

end CommandTree
