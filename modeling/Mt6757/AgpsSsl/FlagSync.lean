import Mt6757.AgpsSsl.Bio

/-!
# Two copies of the flags

The view of a bridged BIO simulates the native BIO when both have the same flags
as a callback begins and the same flags and init as an operation ends.  Reading
and writing make it so whatever was done to the native flags before; a control
finds the flags that the operation before it left, and writes them back.
-/

set_option autoImplicit false

namespace Mt6757.AgpsSsl

open CommandTree

/-- A change of the native flags that is no operation of the bridge. -/
inductive NativeAction where
  | setFlags (mask : UInt32)
  | clearFlags (mask : UInt32)
  | setRetryRead
  | clearRetryFlags
  deriving DecidableEq, Repr

def NativeAction.run {Bio : Type} (lib : BioLib Bio) (native : Bio) : NativeAction → Bio
  | .setFlags mask => lib.setFlags native mask
  | .clearFlags mask => lib.clearFlags native mask
  | .setRetryRead => bioSetRetryReadNative lib native
  | .clearRetryFlags => bioClearRetryFlagsNative lib native

/-- What happens to one bridged BIO. -/
inductive BioEvent (Bio : Type) where
  | write (data : Ptr) (length : Int32) (env : Env Bio)
  | read (data : Ptr) (length : Int32) (env : Env Bio)
  | ctrl (cmd arg : Int32) (ptr : Ptr) (env : Env Bio)
  | native (action : NativeAction)

section Simulation

variable {Bio Tid : Type} [DecidableEq Tid] (lib : BioLib Bio) (t : Tid) (bio : Ptr)

def BioEvent.run (world : World Bio Tid) : BioEvent Bio → World Bio Tid
  | .write data length env => ((bridgeWrite bio data length).run (exec lib t env) world).2
  | .read data length env => ((bridgeRead bio data length).run (exec lib t env) world).2
  | .ctrl cmd arg ptr env => ((bridgeCtrl bio cmd arg ptr).run (exec lib t env) world).2
  | .native action => world.modifyBio bio fun native => action.run lib native

def World.viewOf (world : World Bio Tid) : Option OreoBio :=
  (((world.bios bio).bind lib.getData).bind world.states).map BioState.legacy

def SameFlags (world : World Bio Tid) : Prop :=
  (world.bios bio).map lib.flags = (world.viewOf lib bio).map OreoBio.flags

def SameInit (world : World Bio Tid) : Prop :=
  (world.bios bio).map lib.init = (world.viewOf lib bio).map OreoBio.init

def ViewAction.touchesFlags : ViewAction → Bool
  | .setInit _ => false
  | .setShutdown _ => false
  | _ => true

def BioEvent.callbackTouchesFlags : BioEvent Bio → Bool
  | .write _ _ env => env.actions.any ViewAction.touchesFlags
  | .read _ _ env => env.actions.any ViewAction.touchesFlags
  | .ctrl _ _ _ env => env.actions.any ViewAction.touchesFlags
  | .native _ => true

def BioEvent.isOperation : BioEvent Bio → Prop
  | .native _ => False
  | _ => True

def BioEvent.isControl : BioEvent Bio → Prop
  | .ctrl _ _ _ _ => True
  | _ => False

/-- The view simulates the native BIO in one operation from this state. -/
structure Simulates (event : BioEvent Bio) (world : World Bio Tid) : Prop where
  begin : ∀ legacy native,
    .callbackBegan bio legacy native ∈ (event.run lib t bio { world with log := [] }).log →
      legacy = native
  flags : SameFlags lib bio (event.run lib t bio world)
  init : SameInit lib bio (event.run lib t bio world)
  untouched : event.callbackTouchesFlags = false →
    ((event.run lib t bio world).bios bio).map lib.flags = (world.bios bio).map lib.flags

def SimulatesAll : List (BioEvent Bio) → World Bio Tid → Prop
  | [], _ => True
  | event :: rest, world =>
      (event.isOperation → Simulates lib t bio event world) ∧
        SimulatesAll rest (event.run lib t bio world)

/-- No control finds the native flags other than the operation before it left them. -/
def ControlsUndisturbed (left : UInt32) : List (BioEvent Bio) → World Bio Tid → Prop
  | [], _ => True
  | event :: rest, world =>
      (event.isControl → world.nativeFlags lib bio = left) ∧
        ControlsUndisturbed
          (match event with
            | .native _ => left
            | operation => (operation.run lib t bio world).nativeFlags lib bio)
          rest (event.run lib t bio world)

end Simulation

/-! ## One operation -/

section Step

variable {Bio Tid : Type} (lib : BioLib Bio) (t : Tid) (bio : Ptr)

/-- A bridged BIO with its state; no call of this thread is making it. -/
structure Bridged (native : Bio) (state : Ptr) (value : BioState) (world : World Bio Tid) :
    Prop where
  bios : world.bios bio = some native
  data : lib.getData native = some state
  states : world.states state = some value
  marked : value.legacy.method = kOreoMarker
  init : lib.init native = value.legacy.init
  made : world.heldBio t ≠ some bio

variable {lib t bio} {native : Bio} {state : Ptr} {value : BioState} {world : World Bio Tid}

theorem Bridged.viewOf (bridged : Bridged lib t bio native state value world) :
    world.viewOf lib bio = some value.legacy := by
  simp [World.viewOf, bridged.bios, bridged.data, bridged.states]

theorem Bridged.sameFlags_iff (bridged : Bridged lib t bio native state value world) :
    SameFlags lib bio world ↔ lib.flags native = value.legacy.flags := by
  simp [SameFlags, bridged.viewOf, bridged.bios]

theorem Bridged.nativeFlags (bridged : Bridged lib t bio native state value world) :
    world.nativeFlags lib bio = lib.flags native := by
  simp [World.nativeFlags, bridged.bios]

theorem Bridged.sameInit (bridged : Bridged lib t bio native state value world) :
    SameInit lib bio world := by
  simp [SameInit, bridged.viewOf, bridged.bios, bridged.init]

theorem Bridged.clearLog (bridged : Bridged lib t bio native state value world) :
    Bridged lib t bio native state value { world with log := [] } :=
  ⟨bridged.bios, bridged.data, bridged.states, bridged.marked, bridged.init, bridged.made⟩

variable (lib) in
theorem ViewAction.run_method (view : OreoBio) (action : ViewAction) :
    (action.run lib view).method = view.method := by
  cases action with
  | setFlags flags => rfl
  | setInit init => rfl
  | setShutdown shutdown => rfl
  | setRetryRead =>
      simp only [ViewAction.run, bioSetRetryRead]
      split <;> rfl
  | clearRetryFlags =>
      simp only [ViewAction.run, bioClearRetryFlags]
      split <;> rfl

variable (lib) in
theorem foldl_run_method (actions : List ViewAction) (view : OreoBio) :
    (actions.foldl (ViewAction.run lib) view).method = view.method := by
  induction actions generalizing view with
  | nil => rfl
  | cons action rest ih =>
      rw [List.foldl_cons, ih]
      exact ViewAction.run_method lib view action

theorem foldl_run_flags (actions : List ViewAction) (view : OreoBio)
    (untouched : actions.any ViewAction.touchesFlags = false) :
    (actions.foldl (ViewAction.run lib) view).flags = view.flags := by
  induction actions generalizing view with
  | nil => rfl
  | cons action rest ih =>
      rw [List.any_cons, Bool.or_eq_false_iff] at untouched
      obtain ⟨first, others⟩ := untouched
      rw [List.foldl_cons, ih _ others]
      cases action with
      | setInit init => rfl
      | setShutdown shutdown => rfl
      | _ => contradiction

def afterCallback (lib : BioLib Bio) (bio : Ptr) (native : Bio) (state : Ptr) (value : BioState)
    (view' : OreoBio) (log : List Observation) (world : World Bio Tid) : World Bio Tid :=
  { world with
    states := Function.update world.states state (some { value with legacy := view' })
    bios := Function.update world.bios bio (some (syncFlags lib native view'))
    log := log }

theorem Bridged.synced (bridged : Bridged lib t bio native state value world)
    {view' : OreoBio} (marked : view'.method = kOreoMarker) (log : List Observation) :
    Bridged lib t bio (syncFlags lib native view') state { value with legacy := view' }
      (afterCallback lib bio native state value view' log world) where
  bios := Function.update_self _ _ _
  data := by rw [getData_syncFlags, bridged.data]
  states := Function.update_self _ _ _
  marked := marked
  init := init_syncFlags lib native view'
  made := bridged.made

def loaded (lib : BioLib Bio) (native : Bio) (value : BioState) : OreoBio :=
  { value.legacy with flags := lib.testFlags native (~~~0) }

theorem loaded_flags (native : Bio) (value : BioState) :
    (loaded lib native value).flags = lib.flags native := by
  simp [loaded]

def BioEvent.begun (lib : BioLib Bio) (native : Bio) (value : BioState) :
    BioEvent Bio → Option OreoBio
  | .write _ _ _ => some (loaded lib native value)
  | .read _ _ _ => some (loaded lib native value)
  | .ctrl _ _ _ _ => if value.original.ctrl then some value.legacy else none
  | .native _ => none

def BioEvent.actions : BioEvent Bio → List ViewAction
  | .write _ _ env => env.actions
  | .read _ _ env => env.actions
  | .ctrl _ _ _ env => env.actions
  | .native _ => []

theorem BioEvent.begun_method {event : BioEvent Bio} {view : OreoBio}
    (begun : event.begun lib native value = some view) : view.method = value.legacy.method := by
  cases event with
  | write data length env =>
      obtain rfl := Option.some.inj begun
      rfl
  | read data length env =>
      obtain rfl := Option.some.inj begun
      rfl
  | ctrl cmd arg ptr env =>
      simp only [BioEvent.begun, Option.ite_none_right_eq_some, Option.some.injEq] at begun
      rw [← begun.2]
  | native action => contradiction

variable [DecidableEq Tid]

theorem Bridged.run_operation (bridged : Bridged lib t bio native state value world)
    {event : BioEvent Bio} (operation : event.isOperation) :
    event.run lib t bio world =
      match event.begun lib native value with
      | some view =>
          afterCallback lib bio native state value (event.actions.foldl (ViewAction.run lib) view)
            (.callbackBegan bio view.flags (lib.flags native) :: world.log) world
      | none => world := by
  cases event with
  | write data length env =>
      simp [BioEvent.run, BioEvent.begun, BioEvent.actions, bridgeWrite, stateOf, perform, exec,
        bridged.bios, bridged.data, bridged.states, bridged.made, World.modifyState,
        World.ioCallback, World.callback, World.note, World.nativeFlags, World.legacyFlags,
        World.modifyBio, afterCallback, loaded]
  | read data length env =>
      simp [BioEvent.run, BioEvent.begun, BioEvent.actions, bridgeRead, stateOf, perform, exec,
        bridged.bios, bridged.data, bridged.states, bridged.made, World.modifyState,
        World.ioCallback, World.callback, World.note, World.nativeFlags, World.legacyFlags,
        World.modifyBio, afterCallback, loaded]
  | ctrl cmd arg ptr env =>
      cases original : value.original.ctrl with
      | false =>
          simp [BioEvent.run, BioEvent.begun, bridgeCtrl, stateOf, perform, exec, bridged.bios,
            bridged.data, bridged.states, original]
      | true =>
          simp [BioEvent.run, BioEvent.begun, BioEvent.actions, bridgeCtrl, stateOf, perform,
            exec, bridged.bios, bridged.data, bridged.states, bridged.made, original,
            World.modifyState, World.ioCallback, World.callback, World.note, World.nativeFlags,
            World.legacyFlags, World.modifyBio, afterCallback]
  | native action => exact operation.elim

theorem NativeAction.run_init (native : Bio) (action : NativeAction) :
    lib.init (action.run lib native) = lib.init native := by
  cases action <;> simp [NativeAction.run, bioSetRetryReadNative, bioClearRetryFlagsNative]

theorem NativeAction.run_getData (native : Bio) (action : NativeAction) :
    lib.getData (action.run lib native) = lib.getData native := by
  cases action <;> simp [NativeAction.run, bioSetRetryReadNative, bioClearRetryFlagsNative]

theorem Bridged.run_native (bridged : Bridged lib t bio native state value world)
    (action : NativeAction) :
    Bridged lib t bio (action.run lib native) state value
      ((BioEvent.native action).run lib t bio world) where
  bios := by simp [BioEvent.run, World.modifyBio, bridged.bios]
  data := by rw [NativeAction.run_getData, bridged.data]
  states := bridged.states
  marked := bridged.marked
  init := by rw [NativeAction.run_init, bridged.init]
  made := bridged.made

theorem Bridged.run (bridged : Bridged lib t bio native state value world)
    (event : BioEvent Bio) :
    ∃ native' value', Bridged lib t bio native' state value' (event.run lib t bio world) := by
  have operation : event.isOperation →
      ∃ native' value', Bridged lib t bio native' state value' (event.run lib t bio world) := by
    intro isOperation
    rw [bridged.run_operation isOperation]
    cases begun : event.begun lib native value with
    | none => exact ⟨_, _, bridged⟩
    | some view =>
        have kept := foldl_run_method lib event.actions view
        have marked := (kept.trans (BioEvent.begun_method begun)).trans bridged.marked
        exact ⟨_, _, bridged.synced marked _⟩
  cases event with
  | native action => exact ⟨_, _, bridged.run_native action⟩
  | _ => exact operation trivial

/-- An operation simulates when the flags that its callback finds, or that it leaves
alone, are the native ones. -/
theorem Bridged.simulates_iff (bridged : Bridged lib t bio native state value world)
    {event : BioEvent Bio} (operation : event.isOperation) :
    Simulates lib t bio event world ↔
      lib.flags native = ((event.begun lib native value).getD value.legacy).flags := by
  have ran := bridged.run_operation operation
  have recorded := bridged.clearLog.run_operation operation
  have actions : event.callbackTouchesFlags = event.actions.any ViewAction.touchesFlags := by
    cases event <;> first | rfl | exact operation.elim
  cases begun : event.begun lib native value with
  | none =>
      rw [begun] at ran recorded
      dsimp only at ran recorded
      rw [Option.getD_none, ← bridged.sameFlags_iff]
      constructor
      · intro simulates
        have flags := simulates.flags
        rwa [ran] at flags
      · intro same
        refine ⟨?_, ?_, ?_, fun _ => by rw [ran]⟩
        · rw [recorded]
          exact fun _ _ absent => absurd absent List.not_mem_nil
        · rwa [ran]
        · rw [ran]
          exact bridged.sameInit
  | some view =>
      rw [begun] at ran recorded
      dsimp only at ran recorded
      have kept := foldl_run_method lib event.actions view
      have marked := (kept.trans (BioEvent.begun_method begun)).trans bridged.marked
      have after := bridged.synced marked (.callbackBegan bio view.flags (lib.flags native) ::
        world.log)
      rw [Option.getD_some]
      constructor
      · intro simulates
        have began := simulates.begin view.flags (lib.flags native)
        rw [recorded] at began
        exact (began List.mem_cons_self).symm
      · intro same
        refine ⟨?_, ?_, ?_, fun untouched => ?_⟩
        · rw [recorded]
          intro legacy native' member
          obtain ⟨rfl, rfl⟩ : legacy = view.flags ∧ native' = lib.flags native := by
            simpa [afterCallback] using member
          exact same.symm
        · rw [ran, after.sameFlags_iff]
          exact flags_syncFlags lib native _
        · rw [ran]
          exact after.sameInit
        · rw [ran, after.bios, bridged.bios, Option.map_some, Option.map_some, flags_syncFlags,
            foldl_run_flags _ _ (actions ▸ untouched), same]

end Step

/-! ## Sequences of operations -/

section Run

variable {Bio Tid : Type} [DecidableEq Tid] {lib : BioLib Bio} {t : Tid} {bio : Ptr}
  {native : Bio} {state : Ptr} {value : BioState} {world : World Bio Tid}

theorem Bridged.simulates_iff_undisturbed (bridged : Bridged lib t bio native state value world)
    {event : BioEvent Bio} (operation : event.isOperation) :
    Simulates lib t bio event world ↔
      (event.isControl → world.nativeFlags lib bio = value.legacy.flags) := by
  have simulates := bridged.simulates_iff operation
  rw [bridged.nativeFlags]
  cases event with
  | write data length env =>
      simpa [BioEvent.begun, loaded_flags, BioEvent.isControl] using simulates
  | read data length env =>
      simpa [BioEvent.begun, loaded_flags, BioEvent.isControl] using simulates
  | ctrl cmd arg ptr env =>
      cases original : value.original.ctrl <;>
        simpa [BioEvent.begun, original, BioEvent.isControl] using simulates
  | native action => exact operation.elim

/-- The view holds the flags that the last operation left. -/
theorem Bridged.simulatesAll_iff (bridged : Bridged lib t bio native state value world)
    (events : List (BioEvent Bio)) :
    SimulatesAll lib t bio events world ↔
      ControlsUndisturbed lib t bio value.legacy.flags events world := by
  induction events generalizing native value world with
  | nil => exact Iff.rfl
  | cons event rest ih =>
      have operation : event.isOperation →
          (SimulatesAll lib t bio (event :: rest) world ↔
            (event.isControl → world.nativeFlags lib bio = value.legacy.flags) ∧
              ControlsUndisturbed lib t bio ((event.run lib t bio world).nativeFlags lib bio)
                rest (event.run lib t bio world)) := by
        intro isOperation
        rw [← bridged.simulates_iff_undisturbed isOperation]
        obtain ⟨native', value', bridged'⟩ := bridged.run event
        have here : (event.isOperation → Simulates lib t bio event world) ↔
            Simulates lib t bio event world := forall_prop_of_true isOperation
        refine (and_congr_left' here).trans (and_congr_right fun simulates => ?_)
        have flags := bridged'.sameFlags_iff.mp simulates.flags
        rw [bridged'.nativeFlags, flags]
        exact ih bridged'
      cases event with
      | native action =>
          have later := ih (bridged.run_native action)
          simpa [SimulatesAll, ControlsUndisturbed, BioEvent.isOperation, BioEvent.isControl]
            using later
      | write data length env => exact operation trivial
      | read data length env => exact operation trivial
      | ctrl cmd arg ptr env => exact operation trivial

theorem bridged_of_bioNewNative {method : BioMethod} {env : Env Bio}
    (states : world.states state = some value) (marked : value.legacy.method = kOreoMarker)
    (made : ((bioNewNative method state).run (exec lib t env) world).1 = some bio) :
    ∃ native, lib.flags native = value.legacy.flags ∧
      bio ∈ ((bioNewNative method state).run (exec lib t env) world).2.live ∧
      Bridged lib t bio native state value
        ((bioNewNative method state).run (exec lib t env) world).2 := by
  cases answer : env.newBio with
  | none =>
      cases destroy : method.destroy <;>
        simp [bioNewNative, perform, exec, answer, destroy] at made
  | some fresh =>
      obtain rfl : world.nextBio = bio := by
        simpa [bioNewNative, perform, exec, answer, World.modifyBio, states] using made
      refine ⟨syncFlags lib (lib.setData fresh (some state)) value.legacy, flags_syncFlags _ _ _,
        ?_, ?_, ?_, ?_, marked, init_syncFlags _ _ _, ?_⟩
      · simp [bioNewNative, perform, exec, answer, World.modifyBio, states]
      · simp [bioNewNative, perform, exec, answer, World.modifyBio, states]
      · simp
      · simp [bioNewNative, perform, exec, answer, World.modifyBio, states]
      · simp [bioNewNative, perform, exec, answer, World.modifyBio, states]

def preparedState (method : BioMethod) : BioState :=
  ⟨⟨kOreoMarker, 0, 1, 0, 1⟩, method⟩

/-- A BIO is returned only through the last part, with a prepared state. -/
theorem bioNewBridged_through {method : BioMethod} {env : Env Bio}
    (made : ((bioNewBridged method).run (exec lib t env) world).1 = some bio) :
    ∃ prepared state value, World.states prepared state = some value ∧
      value.legacy.method = kOreoMarker ∧
      (bioNewBridged method).run (exec lib t env) world =
        (bioNewNative method state).run (exec lib t env) prepared := by
  unfold bioNewBridged at made ⊢
  split at made
  · simp at made
  · next contract =>
    simp only [contract]
    cases allocated : env.calloc with
    | false => simp [perform, exec, allocated] at made
    | true =>
        let fresh := (exec lib t env .calloc world).2
        let prepared := (exec lib t env (.prepare world.nextState method) fresh).2
        have preparedStates : prepared.states world.nextState = some (preparedState method) := by
          simp [prepared, fresh, exec, allocated, World.modifyState, preparedState,
            BioState.zeroed]
        cases create : method.create with
        | false =>
            refine ⟨prepared, world.nextState, _, preparedStates, rfl, ?_⟩
            simp [perform, prepared, fresh, exec, allocated]
        | true =>
            cases created : env.result != 0 with
            | false =>
                simp [perform, exec, allocated, create, created, World.modifyState] at made
            | true =>
                refine ⟨(exec lib t env (.create world.nextState) prepared).2, world.nextState,
                  { preparedState method with
                    legacy := env.actions.foldl (ViewAction.run lib)
                      (preparedState method).legacy }, ?_, foldl_run_method lib _ _, ?_⟩
                · simp [exec, World.callback, World.note, World.modifyState, preparedStates]
                · simp [perform, prepared, fresh, exec, allocated, created, World.modifyState]

/-- What `BIO_new` returns for a method of `mtk_agpsd` is live and bridged. -/
theorem bridged_of_bioNew {method : BioMethod} {env : Env Bio}
    (mtk : isMtkMethod (some method) = true)
    (made : ((bioNew (some method)).run (exec lib t env) world).1 = some bio) :
    ∃ native state value, lib.flags native = value.legacy.flags ∧
      bio ∈ ((bioNew (some method)).run (exec lib t env) world).2.live ∧
      Bridged lib t bio native state value
        ((bioNew (some method)).run (exec lib t env) world).2 := by
  cases loaded : env.loaded with
  | false => simp [bioNew, perform, exec, loaded] at made
  | true =>
      have reached : (bioNew (some method)).run (exec lib t env) world =
          (bioNewBridged method).run (exec lib t env)
            { world with made := Function.update world.made t none } := by
        simp [bioNew, perform, exec, loaded, mtk]
      rw [reached] at made ⊢
      obtain ⟨prepared, state, value, states, marked, through⟩ := bioNewBridged_through made
      rw [through] at made ⊢
      obtain ⟨native, same, live, bridged⟩ := bridged_of_bioNewNative states marked made
      exact ⟨native, state, value, same, live, bridged⟩

/-- Over a BIO that `BIO_new` has bridged, the view simulates the native BIO in every
operation if and only if no control follows a change of the native flags. -/
theorem view_simulates_iff {method : BioMethod} {env : Env Bio}
    (mtk : isMtkMethod (some method) = true)
    (made : ((bioNew (some method)).run (exec lib t env) world).1 = some bio)
    (events : List (BioEvent Bio)) :
    SimulatesAll lib t bio events ((bioNew (some method)).run (exec lib t env) world).2 ↔
      ControlsUndisturbed lib t bio
        (((bioNew (some method)).run (exec lib t env) world).2.nativeFlags lib bio) events
        ((bioNew (some method)).run (exec lib t env) world).2 := by
  obtain ⟨native, state, value, same, -, bridged⟩ := bridged_of_bioNew mtk made
  rw [bridged.simulatesAll_iff, bridged.nativeFlags, same]

end Run

/-! ## A native change before a control -/

/-- The events of a control after `BIO_set_retry_read` on the native BIO. -/
def retryThenControl : List (BioEvent PlainBio) :=
  [.native .setRetryRead, .ctrl 11 0 0 ⟨true, true, none, none, false, [], 1⟩]

def agpsdWorld : World PlainBio Unit :=
  ((bioNew (some agpsdMethod)).run
    (exec plainLib () ⟨true, true, some ⟨0, 0, none⟩, none, false, [.setInit 1], 1⟩)
    World.empty).2

/-- A read after a native change, and a control that finds what the read left. -/
def readThenControl : List (BioEvent PlainBio) :=
  [.native .setRetryRead, .read 0 16 ⟨true, true, none, none, false, [.setRetryRead], -1⟩,
    .ctrl 11 0 0 ⟨true, true, none, none, false, [.clearRetryFlags, .setInit 0], 1⟩,
    .native (.setFlags 32), .write 0 16 ⟨true, true, none, none, false, [], 16⟩]

theorem view_simulates_control_after_read :
    SimulatesAll plainLib () 0 readThenControl agpsdWorld := by
  refine (view_simulates_iff (by decide) (by decide) _).mpr ?_
  exact ⟨False.elim, False.elim, fun _ => by decide, False.elim, False.elim, trivial⟩

/-- The control writes back flags without the retry. -/
theorem retry_lost_at_control :
    ((bioNew (some agpsdMethod)).run
      (exec plainLib () ⟨true, true, some ⟨0, 0, none⟩, none, false, [.setInit 1], 1⟩)
      World.empty).1 = some 0 ∧
      ¬ SimulatesAll plainLib () 0 retryThenControl agpsdWorld := by
  refine ⟨by decide, ?_⟩
  intro simulates
  have began := (simulates.2.1 trivial).begin 0 9
  have differ : (0 : UInt32) ≠ 9 := by decide
  apply differ
  apply began
  decide

end Mt6757.AgpsSsl
