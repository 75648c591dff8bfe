import Mathlib.Logic.Relation
import Mt6757.Lib.CommandTree

/-!
# Rely/guarantee reasoning about command trees

Threads that run command trees over one shared state, one atomic operation at a
time in any order.  `Discipline.wp` is the weakest precondition of a tree when
the other threads move the state along `rely` between any two of its
operations; `Discipline.good_of_reaches` composes the threads.
-/

set_option autoImplicit false

namespace CommandTree

variable {Tid Op : Type} {Res : Op → Type} {α β σ Env : Type}

/-! ## Pools of threads -/

structure Pool (Tid Op : Type) (Res : Op → Type) (α σ : Type) where
  shared : σ
  thread : Tid → Prog Op Res α

/-- What one operation of one thread may answer and do to the shared state. -/
abbrev Sem (Tid Op : Type) (Res : Op → Type) (σ : Type) : Type :=
  Tid → (op : Op) → σ → Res op → σ → Prop

/-- The operations `exec` performs under some answer of the environment, in the
states that `ok` admits. -/
def guarded (ok : Tid → Op → σ → Prop) (exec : Tid → Env → (op : Op) → σ → Res op × σ) :
    Sem Tid Op Res σ :=
  fun t op state result after => ok t op state ∧ ∃ env, exec t env op state = (result, after)

section Steps
variable [DecidableEq Tid]

/-- A thread that has returned may start any of the calls open to it in this
state; a thread inside a call performs its next operation. -/
inductive Step (sem : Sem Tid Op Res σ) (calls : Tid → σ → Prog Op Res α → Prop) :
    Pool Tid Op Res α σ → Pool Tid Op Res α σ → Prop where
  | start {pool : Pool Tid Op Res α σ} (t : Tid) (value : α) (program : Prog Op Res α)
      (returned : pool.thread t = .ret value) (called : calls t pool.shared program) :
      Step sem calls pool ⟨pool.shared, Function.update pool.thread t program⟩
  | act {pool : Pool Tid Op Res α σ} (t : Tid) (op : Op) (next : Res op → Prog Op Res α)
      (result : Res op) (after : σ) (running : pool.thread t = .call op next)
      (does : sem t op pool.shared result after) :
      Step sem calls pool ⟨after, Function.update pool.thread t (next result)⟩

abbrev Reaches (sem : Sem Tid Op Res σ) (calls : Tid → σ → Prog Op Res α → Prop) :
    Pool Tid Op Res α σ → Pool Tid Op Res α σ → Prop :=
  Relation.ReflTransGen (Step sem calls)

theorem Step.mono {sem sem' : Sem Tid Op Res σ} {calls calls' : Tid → σ → Prog Op Res α → Prop}
    (weaker : ∀ t op s r s', sem t op s r s' → sem' t op s r s')
    (moreCalls : ∀ t s program, calls t s program → calls' t s program)
    {pool pool' : Pool Tid Op Res α σ} (step : Step sem calls pool pool') :
    Step sem' calls' pool pool' := by
  cases step with
  | start t value program returned called =>
      exact .start t value program returned (moreCalls _ _ _ called)
  | act t op next result after running does =>
      exact .act t op next result after running (weaker _ _ _ _ _ does)

theorem Reaches.mono {sem sem' : Sem Tid Op Res σ}
    {calls calls' : Tid → σ → Prog Op Res α → Prop}
    (weaker : ∀ t op s r s', sem t op s r s' → sem' t op s r s')
    (moreCalls : ∀ t s program, calls t s program → calls' t s program)
    {pool pool' : Pool Tid Op Res α σ} (reaches : Reaches sem calls pool pool') :
    Reaches sem' calls' pool pool' := by
  induction reaches with
  | refl => exact .refl
  | tail _ step ih => exact ih.tail (step.mono weaker moreCalls)

end Steps

/-! ## Playing a schedule -/

section Schedule
variable [DecidableEq Tid] (ok : Tid → Op → σ → Prop)
  (exec : Tid → Env → (op : Op) → σ → Res op × σ)

/-- Every operation of the undisturbed run of a program is admitted by `ok`. -/
def RunOk (t : Tid) (env : Env) : Prog Op Res α → σ → Prop
  | .ret _, _ => True
  | .call op next, state =>
      ok t op state ∧ RunOk t env (next (exec t env op state).1) (exec t env op state).2

instance decidableRunOk [∀ t op s, Decidable (ok t op s)] (t : Tid) (env : Env) :
    (program : Prog Op Res α) → (state : σ) → Decidable (RunOk ok exec t env program state)
  | .ret _, _ => isTrue trivial
  | .call op next, state =>
      have := decidableRunOk t env (next (exec t env op state).1) (exec t env op state).2
      inferInstanceAs (Decidable (_ ∧ _))

variable {ok exec} in
omit [DecidableEq Tid] in
theorem runOk_of_forall (always : ∀ t op state, ok t op state) (t : Tid) (env : Env)
    (program : Prog Op Res α) (state : σ) : RunOk ok exec t env program state := by
  induction program generalizing state with
  | ret value => trivial
  | call op next ih => exact ⟨always t op state, ih _ _⟩

/-- Thread `t` runs to the end of its program while the others wait. -/
def Pool.finish (t : Tid) (env : Env) (pool : Pool Tid Op Res α σ) : Pool Tid Op Res α σ :=
  ⟨((pool.thread t).run (exec t env) pool.shared).2,
    Function.update pool.thread t (.ret ((pool.thread t).run (exec t env) pool.shared).1)⟩

def Pool.act (t : Tid) (env : Env) (pool : Pool Tid Op Res α σ) : Pool Tid Op Res α σ :=
  match pool.thread t with
  | .ret _ => pool
  | .call op next =>
      ⟨(exec t env op pool.shared).2,
        Function.update pool.thread t (next (exec t env op pool.shared).1)⟩

def Pool.enter (t : Tid) (program : Prog Op Res α) (pool : Pool Tid Op Res α σ) :
    Pool Tid Op Res α σ :=
  ⟨pool.shared, Function.update pool.thread t program⟩

def Pool.Returned (t : Tid) (pool : Pool Tid Op Res α σ) : Prop :=
  ∃ value, pool.thread t = .ret value

variable {calls : Tid → σ → Prog Op Res α → Prop}

theorem reaches_finish (t : Tid) (env : Env) (pool : Pool Tid Op Res α σ)
    (admitted : RunOk ok exec t env (pool.thread t) pool.shared) :
    Reaches (guarded ok exec) calls pool (pool.finish exec t env) := by
  obtain ⟨shared, thread⟩ := pool
  dsimp only at admitted
  unfold Pool.finish
  dsimp only
  generalize running : thread t = program at admitted ⊢
  induction program generalizing shared thread with
  | ret value =>
      have unchanged : Function.update thread t (.ret value) = thread := by
        rw [← running]
        exact Function.update_eq_self t thread
      simp only [Prog.run_ret, unchanged]
      exact .refl
  | call op next ih =>
      obtain ⟨here, rest⟩ := admitted
      have first : Step (guarded ok exec) calls ⟨shared, thread⟩
          ⟨(exec t env op shared).2,
            Function.update thread t (next (exec t env op shared).1)⟩ :=
        .act t op next _ _ running ⟨here, env, rfl⟩
      have later := ih (exec t env op shared).1 (exec t env op shared).2
        (Function.update thread t (next (exec t env op shared).1))
        (Function.update_self t _ _) rest
      rw [Function.update_idem] at later
      exact .head first later

theorem reaches_act (t : Tid) (env : Env) (pool : Pool Tid Op Res α σ)
    (admitted : ∀ op next, pool.thread t = .call op next → ok t op pool.shared) :
    Reaches (guarded ok exec) calls pool (pool.act exec t env) := by
  unfold Pool.act
  cases running : pool.thread t with
  | ret value => exact .refl
  | call op next =>
      exact .single (.act t op next _ _ running ⟨admitted op next running, env, rfl⟩)

theorem reaches_enter (sem : Sem Tid Op Res σ) (t : Tid) (program : Prog Op Res α)
    (pool : Pool Tid Op Res α σ) (returned : pool.Returned t)
    (called : calls t pool.shared program) :
    Reaches sem calls pool (pool.enter t program) := by
  obtain ⟨value, idle⟩ := returned
  exact .single (.start t value program idle called)

end Schedule

/-! ## Weakest preconditions under interference -/

/-- A proof discipline: an invariant of the shared state, for each thread what
it may rely on and must guarantee, and what holds when its calls return. -/
structure Discipline (Tid Op : Type) (Res : Op → Type) (α σ : Type) where
  sem : Sem Tid Op Res σ
  inv : σ → Prop
  rely : Tid → σ → σ → Prop
  guar : Tid → σ → σ → Prop
  post : Tid → α → σ → Prop
  rely_refl : ∀ t s, rely t s s
  rely_trans : ∀ t s₁ s₂ s₃, rely t s₁ s₂ → rely t s₂ s₃ → rely t s₁ s₃
  guar_rely : ∀ t u s s', t ≠ u → guar t s s' → rely u s s'
  post_stable : ∀ t value s s', post t value s → rely t s s' → post t value s'

namespace Discipline

variable (d : Discipline Tid Op Res α σ)

def wp (t : Tid) : Prog Op Res β → (β → σ → Prop) → σ → Prop
  | .ret value, post, state => post value state
  | .call op next, post, state =>
      ∀ before, d.rely t state before → d.inv before →
        ∀ result after, d.sem t op before result after →
          d.inv after ∧ d.guar t before after ∧ wp t (next result) post after

@[simp] theorem wp_ret (t : Tid) (value : β) (post : β → σ → Prop) (state : σ) :
    d.wp t (.ret value : Prog Op Res β) post state ↔ post value state := Iff.rfl

theorem wp_call (t : Tid) (op : Op) (next : Res op → Prog Op Res β) (post : β → σ → Prop)
    (state : σ) :
    d.wp t (.call op next) post state ↔
      ∀ before, d.rely t state before → d.inv before →
        ∀ result after, d.sem t op before result after →
          d.inv after ∧ d.guar t before after ∧ d.wp t (next result) post after := Iff.rfl

theorem wp_bind {γ : Type} (t : Tid) (first : Prog Op Res β) (after : β → Prog Op Res γ)
    (post : γ → σ → Prop) (state : σ) :
    d.wp t (first >>= after) post state ↔
      d.wp t first (fun value state => d.wp t (after value) post state) state := by
  induction first generalizing state with
  | ret value => exact Iff.rfl
  | call op next ih =>
      simp only [Prog.call_bind, wp_call, ih]

theorem wp_mono (t : Tid) (program : Prog Op Res β) {post post' : β → σ → Prop} {state : σ}
    (holds : d.wp t program post state)
    (weaker : ∀ value state, post value state → post' value state) :
    d.wp t program post' state := by
  induction program generalizing state with
  | ret value => exact weaker value state holds
  | call op next ih =>
      intro before moved good result after does
      obtain ⟨good', guaranteed, rest⟩ := holds before moved good result after does
      exact ⟨good', guaranteed, ih result rest⟩

theorem wp_of_allOps (t : Tid) {allowed : Op → Prop} (keep : σ → Prop)
    (stable : ∀ state state', keep state → d.rely t state state' → keep state')
    (benign : ∀ op state result state', allowed op → keep state → d.inv state →
      d.sem t op state result state' → d.inv state' ∧ d.guar t state state' ∧ keep state')
    (program : Prog Op Res β) (ops : program.AllOps allowed) {state : σ} (kept : keep state) :
    d.wp t program (fun _ state => keep state) state := by
  induction program generalizing state with
  | ret value => exact kept
  | call op next ih =>
      intro before moved good result after does
      obtain ⟨good', guaranteed, kept'⟩ :=
        benign op before result after ops.1 (stable _ _ kept moved) good does
      exact ⟨good', guaranteed, ih result (ops.2 result) kept'⟩

/-- A weakest precondition survives what the other threads do. -/
theorem wp_stable (t : Tid) (program : Prog Op Res α) {state state' : σ}
    (holds : d.wp t program (d.post t) state) (moved : d.rely t state state') :
    d.wp t program (d.post t) state' := by
  cases program with
  | ret value => exact d.post_stable t value state state' holds moved
  | call op next =>
      intro before moved' good
      exact holds before (d.rely_trans t _ _ _ moved moved') good

def Good (pool : Pool Tid Op Res α σ) : Prop :=
  d.inv pool.shared ∧ ∀ t, d.wp t (pool.thread t) (d.post t) pool.shared

/-- A thread that has returned has met its postcondition. -/
theorem post_of_returned {pool : Pool Tid Op Res α σ} (good : d.Good pool) {t : Tid}
    (returned : pool.Returned t) : ∃ value, d.post t value pool.shared := by
  obtain ⟨value, idle⟩ := returned
  have finished := good.2 t
  rw [idle] at finished
  exact ⟨value, finished⟩

variable [DecidableEq Tid] {calls : Tid → σ → Prog Op Res α → Prop}

theorem good_step
    (calls_ok : ∀ t program value s, calls t s program → d.inv s → d.post t value s →
      d.wp t program (d.post t) s)
    {pool pool' : Pool Tid Op Res α σ} (good : d.Good pool)
    (step : Step d.sem calls pool pool') : d.Good pool' := by
  obtain ⟨inv, threads⟩ := good
  cases step with
  | start t value program returned called =>
      refine ⟨inv, fun u => ?_⟩
      by_cases same : u = t
      · subst same
        have idle : d.post u value pool.shared := by
          have := threads u
          rwa [returned] at this
        simpa using calls_ok u program value pool.shared called inv idle
      · simpa [Function.update_of_ne same] using threads u
  | act t op next result after running does =>
      have here := threads t
      rw [running] at here
      obtain ⟨inv', guaranteed, rest⟩ :=
        here pool.shared (d.rely_refl t _) inv result after does
      refine ⟨inv', fun u => ?_⟩
      by_cases same : u = t
      · subst same
        simpa using rest
      · have moved := d.guar_rely t u _ _ (Ne.symm same) guaranteed
        simpa [Function.update_of_ne same] using d.wp_stable u _ (threads u) moved

/-- The composition rule: if every call meets the discipline, every reachable
pool does. -/
theorem good_of_reaches
    (calls_ok : ∀ t program value s, calls t s program → d.inv s → d.post t value s →
      d.wp t program (d.post t) s)
    {pool pool' : Pool Tid Op Res α σ} (good : d.Good pool)
    (reaches : Reaches d.sem calls pool pool') : d.Good pool' := by
  induction reaches with
  | refl => exact good
  | tail _ step ih => exact d.good_step calls_ok ih step

end Discipline

end CommandTree
