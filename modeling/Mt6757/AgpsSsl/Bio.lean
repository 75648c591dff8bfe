import Mt6757.Lib.CString
import Mt6757.Lib.CommandTree

/-!
# The BIO bridge

`BIO_new` wraps a method of `mtk_agpsd` in a native BIO of BoringSSL and gives
the callbacks of that method a view of the BIO as Oreo laid it out.  The bridge
copies flags between the native BIO and the view.
-/

set_option autoImplicit false

namespace Mt6757.AgpsSsl

open CommandTree CString

abbrev Ptr := Nat

/-! ## Data -/

/-- A `BIO_METHOD`: which callbacks it has, and the file `dladdr` finds it in. -/
structure BioMethod where
  bwrite : Bool
  bread : Bool
  bputs : Bool
  bgets : Bool
  ctrl : Bool
  create : Bool
  destroy : Bool
  callbackCtrl : Bool
  dliFname : Option CString
  deriving DecidableEq, Repr

/-- The address that tells a view from a native BIO. -/
def kOreoMarker : Ptr := 1

/-- The members of `OreoBio` that the bridge or its helpers touch. -/
structure OreoBio where
  method : Ptr
  init : Int32
  shutdown : Int32
  flags : UInt32
  references : UInt32
  deriving DecidableEq, Repr

structure BioState where
  legacy : OreoBio
  original : BioMethod
  deriving DecidableEq, Repr

def BioState.zeroed : BioState :=
  ⟨⟨0, 0, 0, 0, 0⟩, ⟨false, false, false, false, false, false, false, false, none⟩⟩

/-- The accessors of BoringSSL on its own `BIO`, and its flag constants. -/
structure BioLib (Bio : Type) where
  flags : Bio → UInt32
  init : Bio → Int32
  getData : Bio → Option Ptr
  testFlags : Bio → UInt32 → UInt32
  setFlags : Bio → UInt32 → Bio
  clearFlags : Bio → UInt32 → Bio
  setInit : Bio → Int32 → Bio
  setData : Bio → Option Ptr → Bio
  flagsRead : UInt32
  flagsRws : UInt32
  flagsShouldRetry : UInt32
  testFlags_eq : ∀ bio mask, testFlags bio mask = flags bio &&& mask
  flags_setFlags : ∀ bio mask, flags (setFlags bio mask) = flags bio ||| mask
  flags_clearFlags : ∀ bio mask, flags (clearFlags bio mask) = flags bio &&& ~~~mask
  flags_setInit : ∀ bio value, flags (setInit bio value) = flags bio
  init_setInit : ∀ bio value, init (setInit bio value) = value
  init_setFlags : ∀ bio mask, init (setFlags bio mask) = init bio
  init_clearFlags : ∀ bio mask, init (clearFlags bio mask) = init bio
  getData_setData : ∀ bio data, getData (setData bio data) = data
  getData_setInit : ∀ bio value, getData (setInit bio value) = getData bio
  getData_setFlags : ∀ bio mask, getData (setFlags bio mask) = getData bio
  getData_clearFlags : ∀ bio mask, getData (clearFlags bio mask) = getData bio

attribute [simp] BioLib.testFlags_eq BioLib.flags_setFlags BioLib.flags_clearFlags
  BioLib.flags_setInit BioLib.init_setInit BioLib.init_setFlags BioLib.init_clearFlags
  BioLib.getData_setData BioLib.getData_setInit BioLib.getData_setFlags
  BioLib.getData_clearFlags

section Flags

variable {Bio : Type} (lib : BioLib Bio)

/-- `BIO_clear_retry_flags` on a view; a native BIO goes to `BIO_clear_flags`. -/
def bioClearRetryFlags (bio : OreoBio) : OreoBio :=
  if bio.method = kOreoMarker then
    { bio with flags := bio.flags &&& ~~~(lib.flagsRws ||| lib.flagsShouldRetry) }
  else bio

def bioClearRetryFlagsNative (bio : Bio) : Bio :=
  lib.clearFlags bio (lib.flagsRws ||| lib.flagsShouldRetry)

/-- `BIO_set_retry_read` on a view; a native BIO goes to `BIO_set_flags`. -/
def bioSetRetryRead (bio : OreoBio) : OreoBio :=
  if bio.method = kOreoMarker then
    { bio with flags := bio.flags ||| (lib.flagsRead ||| lib.flagsShouldRetry) }
  else bio

def bioSetRetryReadNative (bio : Bio) : Bio :=
  lib.setFlags bio (lib.flagsRead ||| lib.flagsShouldRetry)

def syncFlags (bio : Bio) (legacy : OreoBio) : Bio :=
  lib.setInit (lib.setFlags (lib.clearFlags bio (~~~0)) legacy.flags) legacy.init

@[simp] theorem flags_syncFlags (native : Bio) (legacy : OreoBio) :
    lib.flags (syncFlags lib native legacy) = legacy.flags := by
  simp [syncFlags]

@[simp] theorem init_syncFlags (native : Bio) (legacy : OreoBio) :
    lib.init (syncFlags lib native legacy) = legacy.init := by
  simp [syncFlags]

@[simp] theorem getData_syncFlags (native : Bio) (legacy : OreoBio) :
    lib.getData (syncFlags lib native legacy) = lib.getData native := by
  simp [syncFlags]

/-- What a callback may do to its view.  No accessor of Oreo changes `method`. -/
inductive ViewAction where
  | setFlags (flags : UInt32)
  | setInit (init : Int32)
  | setShutdown (shutdown : Int32)
  | setRetryRead
  | clearRetryFlags
  deriving DecidableEq, Repr

def ViewAction.run (view : OreoBio) : ViewAction → OreoBio
  | .setFlags flags => { view with flags := flags }
  | .setInit init => { view with init := init }
  | .setShutdown shutdown => { view with shutdown := shutdown }
  | .setRetryRead => bioSetRetryRead lib view
  | .clearRetryFlags => bioClearRetryFlags lib view

end Flags

/-! ## The shared state and its operations -/

inductive Observation where
  | allocated (state : Ptr)
  | createReturned (state : Ptr) (method : BioMethod) (success : Bool)
  | destroyCalled (state : Ptr)
  | freed (state : Ptr)
  | callbackBegan (bio : Ptr) (legacy native : UInt32)
  | usedAfterFree (state : Ptr)
  deriving DecidableEq, Repr

/-- What a call of `BIO_new` has for its caller. -/
inductive Made where
  | plain (bio : Ptr)
  | bridged (bio : Ptr)
  deriving DecidableEq, Repr

def Made.bio : Made → Ptr
  | .plain bio => bio
  | .bridged bio => bio

/-- `states` is the heap of the bridge and `bios` are the native BIOs made for
it.  The rest is history: the bridged BIOs whose last reference has not gone and
those whose last reference has, what the last call of each thread has made, the
state and the BIO each thread owns for the call it is in, and the record. -/
structure World (Bio Tid : Type) where
  states : Ptr → Option BioState
  bios : Ptr → Option Bio
  nextState : Ptr
  nextBio : Ptr
  live : List Ptr
  gone : List Ptr
  made : Tid → Option Made
  heldState : Tid → Option Ptr
  heldBio : Tid → Option Ptr
  log : List Observation

structure Env (Bio : Type) where
  loaded : Bool
  calloc : Bool
  newBio : Option Bio
  plainBio : Option Ptr
  lastReference : Bool
  actions : List ViewAction
  result : Int32

inductive BioOp where
  | dlsym
  | realNewPlain
  | realNew
  | calloc
  | prepare (state : Ptr) (method : BioMethod)
  | create (state : Ptr)
  | destroy (state : Ptr)
  | bwrite (bio state data : Ptr) (length : Int32)
  | bread (bio state data : Ptr) (length : Int32)
  | ctrl (bio state : Ptr) (cmd arg : Int32) (ptr : Ptr)
  | original (state : Ptr)
  | loadFlags (bio state : Ptr)
  | syncFlags (bio state : Ptr)
  | free (state : Ptr)
  | getData (bio : Ptr)
  | setData (bio : Ptr) (state : Option Ptr)
  | lastReference (bio : Ptr)
  | release (bio : Ptr)

abbrev Res : BioOp → Type
  | .dlsym => Bool
  | .realNewPlain => Option Ptr
  | .realNew => Option Ptr
  | .calloc => Option Ptr
  | .prepare _ _ => Unit
  | .create _ => Bool
  | .destroy _ => Unit
  | .bwrite _ _ _ _ => Int32
  | .bread _ _ _ _ => Int32
  | .ctrl _ _ _ _ _ => Int32
  | .original _ => BioMethod
  | .loadFlags _ _ => Unit
  | .syncFlags _ _ => Unit
  | .free _ => Unit
  | .getData _ => Option Ptr
  | .setData _ _ => Unit
  | .lastReference _ => Bool
  | .release _ => Unit

abbrev Agps (α : Type) : Type := Prog BioOp Res α

abbrev perform (op : BioOp) : Agps (Res op) := Prog.perform op

section Exec

variable {Bio Tid : Type} [DecidableEq Tid] (lib : BioLib Bio)

namespace World

def note (world : World Bio Tid) (observation : Observation) : World Bio Tid :=
  { world with log := observation :: world.log }

def modifyState (world : World Bio Tid) (state : Ptr) (f : BioState → BioState) :
    World Bio Tid :=
  match world.states state with
  | some value => { world with states := Function.update world.states state (some (f value)) }
  | none => world.note (.usedAfterFree state)

def modifyBio (world : World Bio Tid) (bio : Ptr) (f : Bio → Bio) : World Bio Tid :=
  { world with bios := Function.update world.bios bio ((world.bios bio).map f) }

def callback (world : World Bio Tid) (state : Ptr) (actions : List ViewAction) :
    World Bio Tid :=
  world.modifyState state fun value =>
    { value with legacy := actions.foldl (ViewAction.run lib) value.legacy }

def nativeFlags (world : World Bio Tid) (bio : Ptr) : UInt32 :=
  match world.bios bio with
  | some native => lib.flags native
  | none => 0

def legacyFlags (world : World Bio Tid) (state : Ptr) : UInt32 :=
  match world.states state with
  | some value => value.legacy.flags
  | none => 0

/-- A callback of `bio` runs; the flags on both sides are recorded as it begins. -/
def ioCallback (world : World Bio Tid) (bio state : Ptr) (actions : List ViewAction) :
    World Bio Tid :=
  (world.note (.callbackBegan bio (world.legacyFlags state)
    (world.nativeFlags lib bio))).callback lib state actions

end World

def exec (t : Tid) (env : Env Bio) : (op : BioOp) → World Bio Tid → Res op × World Bio Tid
  | .dlsym, world => (env.loaded, { world with made := Function.update world.made t none })
  | .realNewPlain, world =>
      (env.plainBio,
        { world with made := Function.update world.made t (env.plainBio.map .plain) })
  | .realNew, world =>
      match env.newBio with
      | some native =>
          (some world.nextBio,
            { world with
              bios := Function.update world.bios world.nextBio (some native)
              nextBio := world.nextBio + 1
              heldBio := Function.update world.heldBio t (some world.nextBio) })
      | none => (none, world)
  | .calloc, world =>
      if env.calloc then
        (some world.nextState,
          { world with
            states := Function.update world.states world.nextState (some .zeroed)
            nextState := world.nextState + 1
            heldState := Function.update world.heldState t (some world.nextState)
            log := .allocated world.nextState :: world.log })
      else (none, world)
  | .prepare state method, world =>
      ((), world.modifyState state fun value =>
        { value with
          original := method
          legacy := { value.legacy with method := kOreoMarker, shutdown := 1, references := 1 } })
  | .create state, world =>
      match world.states state with
      | some value =>
          (env.result != 0,
            (world.callback lib state env.actions).note
              (.createReturned state value.original (env.result != 0)))
      | none => (false, world.note (.usedAfterFree state))
  | .destroy state, world =>
      ((), (world.callback lib state env.actions).note (.destroyCalled state))
  | .bwrite bio state _ _, world => (env.result, world.ioCallback lib bio state env.actions)
  | .bread bio state _ _, world => (env.result, world.ioCallback lib bio state env.actions)
  | .ctrl bio state _ _ _, world => (env.result, world.ioCallback lib bio state env.actions)
  | .original state, world =>
      match world.states state with
      | some value => (value.original, world)
      | none => (BioState.zeroed.original, world.note (.usedAfterFree state))
  | .loadFlags bio state, world =>
      match world.bios bio with
      | some native =>
          ((), world.modifyState state fun value =>
            { value with legacy := { value.legacy with flags := lib.testFlags native (~~~0) } })
      | none => ((), world)
  | .syncFlags bio state, world =>
      match world.states state with
      | some value =>
          let synced := world.modifyBio bio fun native => syncFlags lib native value.legacy
          ((), if world.heldBio t = some bio then
              { synced with
                live := bio :: world.live
                made := Function.update world.made t (some (.bridged bio))
                heldState := Function.update world.heldState t none
                heldBio := Function.update world.heldBio t none }
            else synced)
      | none => ((), world.note (.usedAfterFree state))
  | .free state, world =>
      ((), { world with
        states := Function.update world.states state none
        heldState := Function.update world.heldState t none
        log := .freed state :: world.log })
  | .getData bio, world => ((world.bios bio).bind lib.getData, world)
  | .setData bio state, world => ((), world.modifyBio bio fun native => lib.setData native state)
  -- BoringSSL drops a reference and says whether it was the last one
  | .lastReference bio, world =>
      if env.lastReference ∧ bio ∈ world.live then
        (true,
          { world with
            live := world.live.erase bio
            gone := bio :: world.gone
            made := Function.update world.made t none
            heldState := Function.update world.heldState t ((world.bios bio).bind lib.getData)
            heldBio := Function.update world.heldBio t (some bio) })
      else (false, { world with made := Function.update world.made t none })
  | .release bio, world =>
      ((), { world with
        bios := Function.update world.bios bio none
        heldBio := Function.update world.heldBio t none })

end Exec

/-! ## The bridge -/

def stateOf (bio : Ptr) : Agps (Option Ptr) := perform (.getData bio)

/-- A state that is not there is a crash, and no result. -/
def bridgeWrite (bio data : Ptr) (length : Int32) : Agps (Option Int32) := do
  match ← stateOf bio with
  | none => .ret none
  | some state => do
      perform (.loadFlags bio state)
      let result ← perform (.bwrite bio state data length)
      perform (.syncFlags bio state)
      .ret (some result)

def bridgeRead (bio data : Ptr) (length : Int32) : Agps (Option Int32) := do
  match ← stateOf bio with
  | none => .ret none
  | some state => do
      perform (.loadFlags bio state)
      let result ← perform (.bread bio state data length)
      perform (.syncFlags bio state)
      .ret (some result)

/-- Unlike the other two, it does not load the native flags first. -/
def bridgeCtrl (bio : Ptr) (cmd arg : Int32) (ptr : Ptr) : Agps (Option Int32) := do
  match ← stateOf bio with
  | none => .ret (some 0)
  | some state => do
      let original ← perform (.original state)
      if !original.ctrl then .ret (some 0)
      else do
        let result ← perform (.ctrl bio state cmd arg ptr)
        perform (.syncFlags bio state)
        .ret (some result)

def bridgeDestroy (bio : Ptr) : Agps Int32 := do
  match ← stateOf bio with
  | none => .ret 1
  | some state => do
      let original ← perform (.original state)
      if original.destroy then do
        perform (.destroy state)
        perform (.free state)
        perform (.setData bio none)
        .ret 1
      else do
        perform (.free state)
        perform (.setData bio none)
        .ret 1

def basename (path : CString) : CString :=
  (path.reverse.takeWhile (· ≠ 47)).reverse

def isMtkMethod (method : Option BioMethod) : Bool :=
  match method.bind BioMethod.dliFname with
  | none => false
  | some fname => strcmp (basename fname) (ascii "mtk_agpsd") == 0

/-- The end of `BIO_new`, with a state whose view the original `create` accepted. -/
def bioNewNative (method : BioMethod) (state : Ptr) : Agps (Option Ptr) := do
  match ← perform .realNew with
  | none =>
      if method.destroy then do
        perform (.destroy state)
        perform (.free state)
        .ret none
      else do
        perform (.free state)
        .ret none
  | some bio => do
      perform (.setData bio (some state))
      perform (.syncFlags bio state)
      .ret (some bio)

def bioNewBridged (method : BioMethod) : Agps (Option Ptr) := do
  if !method.bread || !method.bwrite || method.bputs || method.bgets || method.callbackCtrl then
    .ret none
  else do
    match ← perform .calloc with
    | none => .ret none
    | some state => do
        perform (.prepare state method)
        if method.create then do
          let created ← perform (.create state)
          if !created then do
            perform (.free state)
            .ret none
          else bioNewNative method state
        else bioNewNative method state

def bioNew (method : Option BioMethod) : Agps (Option Ptr) := do
  let realNew ← perform .dlsym
  if !realNew then .ret none
  else
    match method with
    | none => perform .realNewPlain
    | some given => if isMtkMethod method then bioNewBridged given else perform .realNewPlain

/-- `BIO_free` of BoringSSL on a bridged BIO. -/
def bioFree (bio : Ptr) : Agps (Option Ptr) := do
  let last ← perform (.lastReference bio)
  if last then do
    let _ ← bridgeDestroy bio
    perform (.release bio)
    .ret none
  else .ret none

/-! ## A run on fixed values -/

def World.empty {Bio Tid : Type} : World Bio Tid where
  states := fun _ => none
  bios := fun _ => none
  nextState := 0
  nextBio := 0
  live := []
  gone := []
  made := fun _ => none
  heldState := fun _ => none
  heldBio := fun _ => none
  log := []

structure PlainBio where
  flags : UInt32
  init : Int32
  data : Option Ptr
  deriving DecidableEq, Repr

def plainLib : BioLib PlainBio where
  flags := PlainBio.flags
  init := PlainBio.init
  getData := PlainBio.data
  testFlags bio mask := bio.flags &&& mask
  setFlags bio mask := { bio with flags := bio.flags ||| mask }
  clearFlags bio mask := { bio with flags := bio.flags &&& ~~~mask }
  setInit bio value := { bio with init := value }
  setData bio data := { bio with data := data }
  flagsRead := 1
  flagsRws := 7
  flagsShouldRetry := 8
  testFlags_eq _ _ := rfl
  flags_setFlags _ _ := rfl
  flags_clearFlags _ _ := rfl
  flags_setInit _ _ := rfl
  init_setInit _ _ := rfl
  init_setFlags _ _ := rfl
  init_clearFlags _ _ := rfl
  getData_setData _ _ := rfl
  getData_setInit _ _ := rfl
  getData_setFlags _ _ := rfl
  getData_clearFlags _ _ := rfl

def agpsdMethod : BioMethod :=
  ⟨true, true, false, false, true, true, true, false, some (ascii "/vendor/bin/mtk_agpsd")⟩

end Mt6757.AgpsSsl
