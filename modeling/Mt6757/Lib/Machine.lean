import Mathlib.Logic.Relation

/-!
# Machines with named steps

A machine is a partial step function: `step state act` is the state after `act`,
or `none` where `act` is not enabled.  `ReachesWhen` follows only the steps that
a side condition admits, so that "every run whose steps all meet the condition"
is one induction.
-/

set_option autoImplicit false

namespace Machine

variable {σ Act : Type}

def StepWhen (step : σ → Act → Option σ) (ok : σ → Act → Prop) (state state' : σ) : Prop :=
  ∃ act, ok state act ∧ step state act = some state'

abbrev ReachesWhen (step : σ → Act → Option σ) (ok : σ → Act → Prop) : σ → σ → Prop :=
  Relation.ReflTransGen (StepWhen step ok)

abbrev Reaches (step : σ → Act → Option σ) : σ → σ → Prop :=
  ReachesWhen step fun _ _ => True

variable {step : σ → Act → Option σ} {ok : σ → Act → Prop}

/-- What one admitted step preserves, every admitted run preserves. -/
theorem ReachesWhen.invariant {inv : σ → Prop}
    (preserved : ∀ state act state', inv state → ok state act →
      step state act = some state' → inv state')
    {state state' : σ} (start : inv state) (reaches : ReachesWhen step ok state state') :
    inv state' := by
  induction reaches with
  | refl => exact start
  | tail _ stepped ih =>
      obtain ⟨act, admitted, stepped⟩ := stepped
      exact preserved _ act _ ih admitted stepped

/-! ## Playing a list of steps -/

section Run
variable (step ok) [∀ state act, Decidable (ok state act)]

/-- The state after the steps of a list, if each is admitted and enabled. -/
def runWhen : List Act → σ → Option σ
  | [], state => some state
  | act :: rest, state =>
      if ok state act then (step state act).bind (runWhen rest) else none

theorem reachesWhen_of_runWhen (acts : List Act) {state state' : σ}
    (ran : runWhen step ok acts state = some state') : ReachesWhen step ok state state' := by
  induction acts generalizing state with
  | nil =>
      obtain rfl := Option.some.inj ran
      exact .refl
  | cons act rest ih =>
      simp only [runWhen] at ran
      split at ran
      · rename_i admitted
        obtain ⟨middle, stepped, ran⟩ := Option.bind_eq_some_iff.mp ran
        exact .head ⟨act, admitted, stepped⟩ (ih ran)
      · contradiction

end Run

theorem exists_reachesWhen_of_run (step : σ → Act → Option σ) (ok : σ → Act → Prop)
    [∀ state act, Decidable (ok state act)] (acts : List Act) (state : σ) (goal : σ → Bool)
    (ran : (runWhen step ok acts state).any goal = true) :
    ∃ state', ReachesWhen step ok state state' ∧ goal state' = true := by
  obtain ⟨state', ran, met⟩ := (Option.any_eq_true _ _).mp ran
  exact ⟨state', reachesWhen_of_runWhen step ok acts ran, met⟩

theorem exists_reaches_of_run (step : σ → Act → Option σ) (acts : List Act) (state : σ)
    (goal : σ → Bool)
    (ran : (runWhen step (fun _ _ => True) acts state).any goal = true) :
    ∃ state', Reaches step state state' ∧ goal state' = true :=
  exists_reachesWhen_of_run step (fun _ _ => True) acts state goal ran

end Machine
