import Mathlib.Logic.Function.Basic
import Mt6757.Lib.Machine

/-!
# A mutex that is destroyed again

The GNSS daemon destroys mutexes that are destroyed already, which Android 10 answers with an
abort.  The shim in front of `pthread_mutex_destroy` looks for the mark that bionic leaves in a
destroyed mutex.  The threads of the daemon tear down at the same time, and the look and the
call of the real function are two steps.
-/

set_option autoImplicit false

namespace Mt6757.MnldMutex

open Machine

/-- Zero is the null pointer. -/
abbrev Addr := Nat

/-- What bionic writes over the state of a mutex when it destroys it. -/
def destroyedMark : UInt16 := 0xffff

def EINVAL : Int := 22

/-- Where a thread is in the shim. -/
inductive Pc where
  | outside
  | entered (mutex : Addr)
  /-- The mutex had no mark. -/
  | tested (mutex : Addr)
  /-- `real_destroy` is not null. -/
  | calling (mutex : Addr)
  | leaving (mutex : Addr) (result : Int)
  deriving DecidableEq

structure State (Thread : Type) where
  /-- What stands in the first two bytes at an address. -/
  halfword : Addr → UInt16
  /-- The static of the function, from its initialisation on: whether `dlsym` found it. -/
  realDestroy : Option Bool
  pc : Thread → Pc
  aborted : Bool

variable {Thread : Type}

def initial (halfword : Addr → UInt16) : State Thread :=
  ⟨halfword, none, fun _ => .outside, false⟩

/-- The steps of the threads, with what `dlsym` and the real function answer.  A `store` is
what initialising, locking or unlocking a mutex leaves in it. -/
inductive Act (Thread : Type) where
  | enter (thread : Thread) (mutex : Addr)
  | test (thread : Thread)
  | resolve (thread : Thread) (found : Bool)
  | destroy (thread : Thread) (result : Int)
  | leave (thread : Thread)
  | store (mutex : Addr) (value : UInt16)

def State.put (state : State Thread) (mutex : Addr) (value : UInt16) : State Thread :=
  { state with halfword := Function.update state.halfword mutex value }

section Put
variable {state : State Thread} {mutex : Addr} {value : UInt16}

@[simp] theorem put_pc : (state.put mutex value).pc = state.pc := rfl
@[simp] theorem put_realDestroy : (state.put mutex value).realDestroy = state.realDestroy := rfl
@[simp] theorem put_aborted : (state.put mutex value).aborted = state.aborted := rfl

@[simp] theorem put_halfword_self : (state.put mutex value).halfword mutex = value :=
  Function.update_self _ _ _

theorem put_halfword_of_ne {mutex' : Addr} (elsewhere : mutex' ≠ mutex) :
    (state.put mutex value).halfword mutex' = state.halfword mutex' :=
  Function.update_of_ne elsewhere _ _

end Put

variable [DecidableEq Thread]

def State.goTo (state : State Thread) (thread : Thread) (pc : Pc) : State Thread :=
  { state with pc := Function.update state.pc thread pc }

/-- The real function aborts on a mutex with the mark, and has none to look at behind a null
pointer; it leaves the mark when it succeeds. -/
def State.destroy (state : State Thread) (thread : Thread) (mutex : Addr) (result : Int) :
    State Thread :=
  if mutex = 0 ∨ state.halfword mutex = destroyedMark then { state with aborted := true }
  else if result = 0 then (state.put mutex destroyedMark).goTo thread (.leaving mutex 0)
  else state.goTo thread (.leaving mutex result)

def move (state : State Thread) : Act Thread → Option (State Thread)
  | .enter thread mutex =>
      if state.pc thread = .outside then some (state.goTo thread (.entered mutex)) else none
  | .test thread =>
      match state.pc thread with
      | .entered mutex =>
          if mutex ≠ 0 ∧ state.halfword mutex = destroyedMark then
            some (state.goTo thread (.leaving mutex 0))
          else some (state.goTo thread (.tested mutex))
      | _ => none
  -- the static is initialised by the first thread that comes to it
  | .resolve thread found =>
      match state.pc thread with
      | .tested mutex =>
          let found := state.realDestroy.getD found
          some ({ state with realDestroy := some found }.goTo thread
            (if found then .calling mutex else .leaving mutex EINVAL))
      | _ => none
  | .destroy thread result =>
      match state.pc thread with
      | .calling mutex => some (state.destroy thread mutex result)
      | _ => none
  | .leave thread =>
      match state.pc thread with
      | .leaving _ _ => some (state.goTo thread .outside)
      | _ => none
  | .store mutex value =>
      if value = destroyedMark then none else some (state.put mutex value)

def step (state : State Thread) (act : Act Thread) : Option (State Thread) :=
  if state.aborted then none else move state act

/-! ## The threads between the look and the call -/

/-- The thread has found no mark and has not called the real function. -/
def Pc.Past (pc : Pc) (mutex : Addr) : Prop := pc = .tested mutex ∨ pc = .calling mutex

/-- No two threads are between the look and the call with one mutex, and none is there with
the null pointer. -/
structure State.Orderly (state : State Thread) : Prop where
  alone : ∀ {thread other mutex}, (state.pc thread).Past mutex → (state.pc other).Past mutex →
    thread = other
  nonnull : ∀ {thread mutex}, (state.pc thread).Past mutex → mutex ≠ 0

/-- A mutex that a thread is past the look with has no mark. -/
structure Unmarked (state : State Thread) : Prop where
  running : state.aborted = false
  unmarked : ∀ {thread mutex}, (state.pc thread).Past mutex → mutex ≠ 0 →
    state.halfword mutex ≠ destroyedMark

section Moves
variable {state : State Thread} {thread other : Thread} {pc : Pc} {mutex : Addr}

@[simp] theorem goTo_pc_self : (state.goTo thread pc).pc thread = pc := Function.update_self _ _ _

@[simp] theorem goTo_halfword : (state.goTo thread pc).halfword = state.halfword := rfl
@[simp] theorem goTo_realDestroy : (state.goTo thread pc).realDestroy = state.realDestroy := rfl
@[simp] theorem goTo_aborted : (state.goTo thread pc).aborted = state.aborted := rfl

theorem goTo_pc_of_ne (other_thread : other ≠ thread) :
    (state.goTo thread pc).pc other = state.pc other := Function.update_of_ne other_thread _ _

theorem goTo_past (moved : ((state.goTo thread pc).pc other).Past mutex) :
    other = thread ∧ pc.Past mutex ∨ other ≠ thread ∧ (state.pc other).Past mutex := by
  by_cases same : other = thread
  · rw [same, goTo_pc_self] at moved
    exact .inl ⟨same, moved⟩
  · rw [goTo_pc_of_ne same] at moved
    exact .inr ⟨same, moved⟩

theorem not_past_outside : ¬ Pc.outside.Past mutex := by
  rintro (same | same) <;> cases same

theorem not_past_entered {mutex' : Addr} : ¬ (Pc.entered mutex').Past mutex := by
  rintro (same | same) <;> cases same

theorem not_past_leaving {mutex' : Addr} {result : Int} :
    ¬ (Pc.leaving mutex' result).Past mutex := by
  rintro (same | same) <;> cases same

theorem past_tested {mutex' : Addr} : (Pc.tested mutex').Past mutex ↔ mutex' = mutex := by
  constructor
  · rintro (same | same)
    · exact Pc.tested.inj same
    · cases same
  · rintro rfl
    exact .inl rfl

theorem past_calling {mutex' : Addr} : (Pc.calling mutex').Past mutex ↔ mutex' = mutex := by
  constructor
  · rintro (same | same)
    · cases same
    · exact Pc.calling.inj same
  · rintro rfl
    exact .inr rfl

end Moves

/-! ## Orderly runs -/

section Orderly
variable {state state' : State Thread} {thread : Thread} {mutex : Addr}

theorem Unmarked.goTo {pc : Pc} (inv : Unmarked state)
    (clear : ∀ mutex, pc.Past mutex → mutex ≠ 0 → state.halfword mutex ≠ destroyedMark) :
    Unmarked (state.goTo thread pc) where
  running := inv.running
  unmarked := fun moved => by
    rcases goTo_past moved with ⟨-, here⟩ | ⟨-, there⟩
    · exact clear _ here
    · exact inv.unmarked there

/-- A call of the real function, by the only thread that is about to make it. -/
theorem Unmarked.destroy (inv : Unmarked state) (orderly : state.Orderly)
    (here : state.pc thread = .calling mutex) (result : Int) :
    Unmarked (state.destroy thread mutex result) := by
  have past : (state.pc thread).Past mutex := .inr here
  have nonnull := orderly.nonnull past
  rw [State.destroy, if_neg (not_or.mpr ⟨nonnull, inv.unmarked past nonnull⟩)]
  split
  · refine ⟨inv.running, fun {other mutex'} moved nonnull' => ?_⟩
    rcases goTo_past moved with ⟨-, leaving⟩ | ⟨differs, there⟩
    · exact absurd leaving not_past_leaving
    · rw [put_pc] at there
      have elsewhere : mutex' ≠ mutex := fun same => differs (orderly.alone (same ▸ there) past)
      rw [goTo_halfword, put_halfword_of_ne elsewhere]
      exact inv.unmarked there nonnull'
  · exact inv.goTo fun _ leaving => absurd leaving not_past_leaving

theorem Unmarked.step (inv : Unmarked state) (orderly : state.Orderly) {act : Act Thread}
    (stepped : step state act = some state') : Unmarked state' := by
  rw [MnldMutex.step, inv.running, if_neg Bool.false_ne_true] at stepped
  cases act with
  | enter thread mutex =>
      simp only [move] at stepped
      split at stepped
      · cases stepped
        exact inv.goTo fun _ entered => absurd entered not_past_entered
      · cases stepped
  | test thread =>
      simp only [move] at stepped
      split at stepped
      next mutex here =>
        split at stepped
        · cases stepped
          exact inv.goTo fun _ leaving => absurd leaving not_past_leaving
        next unmarked =>
          cases stepped
          refine inv.goTo fun mutex' tested nonnull marked => ?_
          rw [← past_tested.mp tested] at nonnull marked
          exact unmarked ⟨nonnull, marked⟩
      · cases stepped
  | resolve thread found =>
      simp only [move] at stepped
      split at stepped
      next mutex here =>
        cases stepped
        have resolved : Unmarked { state with realDestroy := some (state.realDestroy.getD found) } :=
          ⟨inv.running, inv.unmarked⟩
        refine resolved.goTo fun mutex' moved => ?_
        split at moved
        · rw [← past_calling.mp moved]
          exact inv.unmarked (.inl here)
        · exact absurd moved not_past_leaving
      · cases stepped
  | destroy thread result =>
      simp only [move] at stepped
      split at stepped
      next mutex here =>
        cases stepped
        exact inv.destroy orderly here result
      · cases stepped
  | leave thread =>
      simp only [move] at stepped
      split at stepped
      · cases stepped
        exact inv.goTo fun _ outside => absurd outside not_past_outside
      · cases stepped
  | store mutex value =>
      simp only [move] at stepped
      split at stepped
      · cases stepped
      next unmarked =>
        cases stepped
        refine ⟨inv.running, fun {thread mutex'} there nonnull => ?_⟩
        by_cases same : mutex' = mutex
        · rw [same, put_halfword_self]
          exact unmarked
        · rw [put_halfword_of_ne same]
          exact inv.unmarked there nonnull

theorem running_of_orderly {halfword : Addr → UInt16}
    (reaches : ReachesWhen step (fun state _ => state.Orderly) (initial halfword) state) :
    state.aborted = false := by
  have start : Unmarked (initial halfword : State Thread) :=
    ⟨rfl, fun here => absurd here not_past_outside⟩
  exact (reaches.invariant (fun _ _ _ inv orderly stepped => inv.step orderly stepped) start).running

end Orderly

/-! ## Two threads with one mutex -/

section Race
variable {state : State Thread} {thread other : Thread} {mutex : Addr}

theorem reaches_of_move {state' : State Thread} {act : Act Thread}
    (running : state.aborted = false) (moved : move state act = some state') :
    Reaches step state state' := by
  refine .single ⟨act, trivial, ?_⟩
  rw [step, running, if_neg Bool.false_ne_true, moved]

/-- A thread past the look gets to the call, where `dlsym` finds the function. -/
theorem reaches_calling (running : state.aborted = false)
    (found : state.realDestroy ≠ some false) (past : (state.pc thread).Past mutex) :
    ∃ state' : State Thread, Reaches step state (state'.goTo thread (.calling mutex)) ∧
      state'.aborted = false ∧ state'.realDestroy ≠ some false ∧
      state'.halfword = state.halfword ∧ state'.pc = state.pc := by
  rcases past with here | here
  · have yes : state.realDestroy.getD true = true := by
      cases answer : state.realDestroy with
      | none => rfl
      | some answered =>
          cases answered with
          | false => exact absurd answer found
          | true => rfl
    have resolved : move state (.resolve thread true) =
        some ({ state with realDestroy := some true }.goTo thread (.calling mutex)) := by
      simp only [move, here, yes]
      rfl
    exact ⟨{ state with realDestroy := some true }, reaches_of_move running resolved, running,
      by simp, rfl, rfl⟩
  · refine ⟨state, ?_, running, found, rfl, rfl⟩
    have same : state.goTo thread (.calling mutex) = state := by
      rw [State.goTo, ← here, Function.update_eq_self]
    rw [same]

/-- The call of a thread on a mutex that is null or has the mark. -/
theorem reaches_abort (running : state.aborted = false) (found : state.realDestroy ≠ some false)
    (past : (state.pc thread).Past mutex)
    (dead : mutex = 0 ∨ state.halfword mutex = destroyedMark) :
    ∃ state', Reaches step state state' ∧ state'.aborted = true := by
  obtain ⟨before, reaches, running', -, halfword, -⟩ := reaches_calling running found past
  have struck : move (before.goTo thread (.calling mutex)) (.destroy thread 0) =
      some { before.goTo thread (.calling mutex) with aborted := true } := by
    simp only [move, goTo_pc_self, State.destroy, goTo_halfword, halfword]
    rw [if_pos dead]
  exact ⟨_, reaches.trans (reaches_of_move running' struck), rfl⟩

/-- Where every run goes on without an abort, no two threads are past the look. -/
theorem orderly_of_safe (running : state.aborted = false) (found : state.realDestroy ≠ some false)
    (safe : ∀ state', Reaches step state state' → state'.aborted = false) : state.Orderly := by
  have nonnull : ∀ {thread mutex}, (state.pc thread).Past mutex → mutex ≠ 0 := by
    intro thread mutex past null
    obtain ⟨after, reaches, aborted⟩ := reaches_abort running found past (.inl null)
    exact Bool.false_ne_true ((safe after reaches).symm.trans aborted)
  refine ⟨fun {thread other mutex} past past' => ?_, nonnull⟩
  by_contra differ
  obtain ⟨before, reaches, running', found', halfword, pc⟩ := reaches_calling running found past
  -- the first thread destroys the mutex, and the second one calls as well
  have destroyed : move (before.goTo thread (.calling mutex)) (.destroy thread 0) =
      some ((before.goTo thread (.calling mutex)).destroy thread mutex 0) := by
    simp only [move, goTo_pc_self]
  have reaches' := reaches.trans (reaches_of_move running' destroyed)
  by_cases marked : state.halfword mutex = destroyedMark
  · obtain ⟨after, reaches, aborted⟩ := reaches_abort running found past (.inr marked)
    exact Bool.false_ne_true ((safe after reaches).symm.trans aborted)
  · rw [State.destroy, goTo_halfword, halfword,
      if_neg (not_or.mpr ⟨nonnull past, marked⟩), if_pos rfl] at reaches'
    have there : ((((before.goTo thread (.calling mutex)).put mutex destroyedMark).goTo thread
        (.leaving mutex 0)).pc other).Past mutex := by
      rw [goTo_pc_of_ne (Ne.symm differ), put_pc, goTo_pc_of_ne (Ne.symm differ), pc]
      exact past'
    obtain ⟨after, later, aborted⟩ := reaches_abort (by simpa using running') (by simpa using found')
      there (.inr (by simp))
    exact Bool.false_ne_true ((safe after (reaches'.trans later)).symm.trans aborted)

end Race

/-! ## Where the function is not found -/

section NotFound
variable {state state' : State Thread}

/-- The real function is called, and aborts, only once it has been found. -/
structure Looked (state : State Thread) : Prop where
  calling : ∀ {thread mutex}, state.pc thread = .calling mutex → state.realDestroy = some true
  aborted : state.aborted = true → state.realDestroy = some true

theorem Looked.goTo {thread : Thread} {pc : Pc} (inv : Looked state)
    (calls : ∀ mutex, pc = .calling mutex → state.realDestroy = some true) :
    Looked (state.goTo thread pc) where
  calling := fun {other mutex} here => by
    by_cases same : other = thread
    · rw [same, goTo_pc_self] at here
      exact calls mutex here
    · rw [goTo_pc_of_ne same] at here
      exact inv.calling here
  aborted := inv.aborted

theorem Looked.step (inv : Looked state) {act : Act Thread}
    (stepped : step state act = some state') : Looked state' := by
  rw [MnldMutex.step] at stepped
  split at stepped
  · cases stepped
  cases act with
  | enter thread mutex =>
      simp only [move] at stepped
      split at stepped
      · cases stepped
        exact inv.goTo nofun
      · cases stepped
  | test thread =>
      simp only [move] at stepped
      split at stepped
      · split at stepped <;> cases stepped <;> exact inv.goTo nofun
      · cases stepped
  | resolve thread found =>
      simp only [move] at stepped
      split at stepped
      next mutex here =>
        cases stepped
        have kept : state.realDestroy = some true →
            some (state.realDestroy.getD found) = some true := by
          intro answer
          rw [answer]
          rfl
        have resolved : Looked { state with realDestroy := some (state.realDestroy.getD found) } :=
          ⟨fun there => kept (inv.calling there), fun aborted => kept (inv.aborted aborted)⟩
        refine resolved.goTo fun mutex' calls => ?_
        split at calls
        next yes => exact congrArg some yes
        next => cases calls
      · cases stepped
  | destroy thread result =>
      simp only [move] at stepped
      split at stepped
      next mutex here =>
        cases stepped
        have looked := inv.calling here
        rw [State.destroy]
        split
        · exact ⟨fun _ => looked, fun _ => looked⟩
        · split
          · exact Looked.goTo ⟨fun there => inv.calling there, inv.aborted⟩ nofun
          · exact inv.goTo nofun
      · cases stepped
  | leave thread =>
      simp only [move] at stepped
      split at stepped
      · cases stepped
        exact inv.goTo nofun
      · cases stepped
  | store mutex value =>
      simp only [move] at stepped
      split at stepped
      · cases stepped
      · cases stepped
        exact ⟨fun there => inv.calling there, inv.aborted⟩

theorem running_of_not_found {halfword : Addr → UInt16}
    (reaches : Reaches step (initial halfword) state) (missing : state.realDestroy = some false) :
    state.aborted = false := by
  have start : Looked (initial halfword : State Thread) := ⟨nofun, nofun⟩
  have looked := reaches.invariant (fun _ _ _ inv _ stepped => inv.step stepped) start
  cases aborted : state.aborted with
  | false => rfl
  | true => cases missing.symm.trans (looked.aborted aborted)

end NotFound

/-- A thread that destroys a mutex again gets zero, and no memory changes.  The daemon is aborted
in no run in which no two threads are between the look and the call with one mutex, nor in any
where the function is not found; from every other state some run goes on to an abort. -/
theorem aborted_only_by_race (halfword : Addr → UInt16) :
    (∀ (state : State Thread) thread mutex, state.aborted = false →
      state.pc thread = .outside → mutex ≠ 0 → state.halfword mutex = destroyedMark →
      (step state (.enter thread mutex)).bind (step · (.test thread)) =
        some ((state.goTo thread (.entered mutex)).goTo thread (.leaving mutex 0))) ∧
    (∀ state : State Thread,
      ReachesWhen step (fun state _ => state.Orderly) (initial halfword) state →
        state.aborted = false) ∧
    (∀ state : State Thread, Reaches step (initial halfword) state →
      state.realDestroy = some false → state.aborted = false) ∧
    ∀ state : State Thread, state.aborted = false → state.realDestroy ≠ some false →
      ¬ state.Orderly → ∃ state', Reaches step state state' ∧ state'.aborted = true := by
  refine ⟨?_, fun _ reaches => running_of_orderly reaches,
    fun _ reaches missing => running_of_not_found reaches missing, ?_⟩
  · intro state thread mutex running outside nonnull marked
    have entered : step state (.enter thread mutex) = some (state.goTo thread (.entered mutex)) := by
      rw [step, running, if_neg Bool.false_ne_true, move, if_pos outside]
    rw [entered, Option.bind_some, step, goTo_aborted, running, if_neg Bool.false_ne_true]
    simp only [move, goTo_pc_self]
    exact if_pos ⟨nonnull, marked⟩
  · intro state running found disorderly
    by_contra none
    refine disorderly (orderly_of_safe running found fun state' reaches => ?_)
    exact Bool.eq_false_iff.mpr fun aborted => none ⟨state', reaches, aborted⟩

end Mt6757.MnldMutex
