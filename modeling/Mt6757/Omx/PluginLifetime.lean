import Mt6757.Lib.BlockProgram
import Mt6757.Omx.Plugin

/-!
# The life of the plugin

The constructor loads the MTK core and sets it up, the framework then asks for what it likes
in any order, the destructor takes the core down.  Any symbol may be missing, and every call
into the core may fail.
-/

set_option autoImplicit false

namespace Mt6757.Omx.PluginLifetime

open CommandTree CString

inductive Symbol where
  | init | deinit | componentNameEnum | getHandle | freeHandle | getRolesOfComponent
  deriving DecidableEq

/-- What the framework asks of a plugin, `destroy` last. -/
inductive Request where
  | makeComponentInstance (name : Option CString)
  | destroyComponentInstance
  | enumerateComponents (size index : UInt32)
  | getRolesOfComponent (name : CString)
  | destroy
  deriving DecidableEq

/-- A call of an entry point.  The roles are asked for without buffers first, and then with
so many. -/
inductive Entry where
  | init
  | deinit
  | componentNameEnum (size index : UInt32)
  | getHandle (name : Option CString)
  | freeHandle
  | getRolesOfComponent (name : CString) (buffers : Option UInt32)
  deriving DecidableEq

def Entry.symbol : Entry → Symbol
  | .init => .init
  | .deinit => .deinit
  | .componentNameEnum _ _ => .componentNameEnum
  | .getHandle _ => .getHandle
  | .freeHandle => .freeHandle
  | .getRolesOfComponent _ _ => .getRolesOfComponent

structure CoreAnswer where
  err : OmxError
  name : CString
  count : UInt32

/-- The calls of the plugin into the loader and the core, its wait for the framework, and
its answer, with the name that an enumeration leaves. -/
inductive Call where
  | dlopen
  | dlsym (symbol : Symbol)
  | dlclose
  | invoke (entry : Entry)
  | await
  | reply (err : OmxError) (name : CString)
  deriving DecidableEq

/-- A pointer is known by whether it is null. -/
abbrev Answer : Call → Type
  | .dlopen => Bool
  | .dlsym _ => Bool
  | .dlclose => Unit
  | .invoke _ => CoreAnswer
  | .await => Request
  | .reply _ _ => Unit

abbrev Program (α : Type) : Type := Prog Call Answer α

def call (op : Call) : Program (Answer op) := Prog.perform op

/-- Where a plugin is; `handle` tells whether `mHandle` is not null. -/
inductive Label where
  | construct
  | alive (handle : Bool)
  | enumerating (size index raw visible : UInt32)
  | destroyed
  deriving DecidableEq

/-! ## The plugin -/

def unload : Program Label := do
  let _ ← call .dlclose
  pure (.alive false)

/-- `!mInit || ... || mInit() != OMX_ErrorNone`. -/
def setUp (complete : Bool) : Program Label :=
  if !complete then unload
  else do
    let answer : CoreAnswer ← call (.invoke .init)
    if answer.err ≠ .none then unload else pure (.alive true)

def construct : Program Label := do
  let handle : Bool ← call .dlopen
  if !handle then pure (.alive false)
  else do
    let mInit : Bool ← call (.dlsym .init)
    let mDeinit : Bool ← call (.dlsym .deinit)
    let mEnum : Bool ← call (.dlsym .componentNameEnum)
    let mGetHandle : Bool ← call (.dlsym .getHandle)
    let mFreeHandle : Bool ← call (.dlsym .freeHandle)
    let mGetRoles : Bool ← call (.dlsym .getRolesOfComponent)
    setUp (mInit && mDeinit && mEnum && mGetHandle && mFreeHandle && mGetRoles)

def destruct (handle : Bool) : Program Label :=
  if handle then do
    let _ ← call (.invoke .deinit)
    let _ ← call .dlclose
    pure .destroyed
  else pure .destroyed

def finish (handle : Bool) (err : OmxError) (name : CString) : Program Label := do
  let _ ← call (.reply err name)
  pure (.alive handle)

def makeComponentInstance (name : Option CString) : Program Label :=
  if isBrokenComponent name then finish true .componentNotFound []
  else do
    let answer : CoreAnswer ← call (.invoke (.getHandle name))
    finish true answer.err []

def getRolesOfComponent (name : CString) : Program Label := do
  let first : CoreAnswer ← call (.invoke (.getRolesOfComponent name none))
  if first.err ≠ .none ∨ first.count = 0 then finish true first.err []
  else do
    let second : CoreAnswer ← call (.invoke (.getRolesOfComponent name (some first.count)))
    finish true second.err []

/-- A request to a plugin with a core. -/
def serve : Request → Program Label
  | .makeComponentInstance name => makeComponentInstance name
  | .destroyComponentInstance => do
      let answer : CoreAnswer ← call (.invoke .freeHandle)
      finish true answer.err []
  | .enumerateComponents size index => pure (.enumerating size index 0 0)
  | .getRolesOfComponent name => getRolesOfComponent name
  | .destroy => destruct true

/-- Without a core every request but the last is answered with an error. -/
def refuse : Request → Program Label
  | .destroy => destruct false
  | _ => finish false .undefined []

def alive (handle : Bool) : Program Label := do
  let request : Request ← call .await
  if handle then serve request else refuse request

/-- One turn of the loop of `enumerateComponents`. -/
def enumerating (size index raw visible : UInt32) : Program Label := do
  let answer : CoreAnswer ← call (.invoke (.componentNameEnum size raw))
  if answer.err ≠ .none then finish true answer.err answer.name
  else if isBrokenComponent (some answer.name) then
    pure (.enumerating size index (raw + 1) visible)
  else if visible = index then finish true .none answer.name
  else pure (.enumerating size index (raw + 1) (visible + 1))

def code : Label → Program Label
  | .construct => construct
  | .alive handle => alive handle
  | .enumerating size index raw visible => enumerating size index raw visible
  | .destroyed => pure .destroyed

/-! ## The core -/

/-- Whether the library is open and the core set up, which symbols were found, and what the
framework waits for. -/
structure View where
  library : Bool
  running : Bool
  resolved : List Symbol
  asked : Option Request
  deriving DecidableEq

def View.initial : View := ⟨false, false, [], none⟩

/-- No instance of a hidden component is made, and no hidden name is given. -/
def Request.Answered : Request → OmxError → CString → Prop
  | .makeComponentInstance name, err, _ =>
      isBrokenComponent name = true → err = .componentNotFound
  | .enumerateComponents _ _, err, name => err = .none → isBrokenComponent (some name) = false
  | _, _, _ => True

def Entry.Admitted : Entry → Prop
  | .getHandle name => isBrokenComponent name = false
  | _ => True

/-- The core is set up only when all of its symbols were found, and otherwise entered only
between the set-up and the end, through a symbol that was found.  An answer is one to the
last request, and the next is waited for behind it. -/
def View.Allows (view : View) : Call → Prop
  | .dlopen => view.library = false
  | .dlsym _ => view.library = true
  | .dlclose => view.library = true ∧ view.running = false
  | .invoke .init => view.library = true ∧ view.running = false ∧ ∀ symbol, symbol ∈ view.resolved
  | .invoke entry =>
      view.library = true ∧ view.running = true ∧ entry.symbol ∈ view.resolved ∧ entry.Admitted
  | .await => view.library = view.running ∧ view.asked = none
  | .reply err name => ∃ request, view.asked = some request ∧
      if view.running then request.Answered err name else err = .undefined

def View.after (view : View) : (op : Call) → Answer op → View
  | .dlopen, found => { view with library := found, resolved := [] }
  | .dlsym symbol, found =>
      { view with resolved := if found then symbol :: view.resolved else view.resolved }
  | .dlclose, _ => { view with library := false, resolved := [] }
  | .invoke .init, answer => { view with running := decide (answer.err = .none) }
  | .invoke .deinit, _ => { view with running := false }
  | .invoke _, _ => view
  | .await, request => { view with asked := some request }
  | .reply _ _, _ => { view with asked := none }

def environment : Environment Call Answer View where
  answers _ _ _ := True
  after := View.after

abbrev Meets {α : Type} (program : Program α) (final : View → α → Prop) (view : View) : Prop :=
  program.Meets environment View.Allows final view

structure View.Ready (view : View) : Prop where
  library : view.library = true
  running : view.running = true
  found : ∀ symbol, symbol ∈ view.resolved

def View.Gone (view : View) : Prop := view.library = false ∧ view.running = false

def Inv (view : View) : Label → Prop
  | .construct => view.Gone ∧ view.asked = none
  | .alive true => view.Ready ∧ view.asked = none
  | .alive false => view.Gone ∧ view.asked = none
  | .enumerating size index _ _ =>
      view.Ready ∧ view.asked = some (.enumerateComponents size index)
  | .destroyed => view.Gone

section Parts

variable {view : View}

theorem meets_act {α : Type} {final : View → α → Prop} {op : Call} {next : Answer op → Program α}
    (allows : view.Allows op)
    (later : ∀ answer, Meets (next answer) final (view.after op answer)) :
    Meets (call op >>= next) final view := ⟨allows, fun answer _ => later answer⟩

theorem meets_unload (library : view.library = true) (running : view.running = false)
    (unasked : view.asked = none) : Meets unload Inv view :=
  meets_act ⟨library, running⟩ fun _ => ⟨⟨rfl, running⟩, unasked⟩

theorem meets_setUp {complete : Bool} (library : view.library = true)
    (running : view.running = false) (unasked : view.asked = none)
    (found : complete = true → ∀ symbol, symbol ∈ view.resolved) :
    Meets (setUp complete) Inv view := by
  cases complete with
  | false => exact meets_unload library running unasked
  | true =>
      refine meets_act ⟨library, running, found rfl⟩ fun answer => ?_
      split
      next failed => exact meets_unload library (decide_eq_false failed) unasked
      next success =>
        exact ⟨⟨library, decide_eq_true (not_not.mp success), found rfl⟩, unasked⟩

theorem mem_allSymbols (symbol : Symbol) :
    symbol ∈ [.getRolesOfComponent, .freeHandle, .getHandle, .componentNameEnum, .deinit, .init] := by
  cases symbol <;> decide

theorem meets_construct (gone : view.Gone) (unasked : view.asked = none) :
    Meets construct Inv view := by
  refine meets_act gone.1 fun handle => ?_
  cases handle with
  | false => exact ⟨⟨rfl, gone.2⟩, unasked⟩
  | true =>
      refine meets_act rfl fun mInit => meets_act rfl fun mDeinit => meets_act rfl fun mEnum => ?_
      refine meets_act rfl fun mGetHandle => meets_act rfl fun mFreeHandle => ?_
      refine meets_act rfl fun mGetRoles => meets_setUp rfl gone.2 unasked ?_
      intro complete symbol
      simp only [Bool.and_eq_true] at complete
      obtain ⟨⟨⟨⟨⟨rfl, rfl⟩, rfl⟩, rfl⟩, rfl⟩, rfl⟩ := complete
      exact mem_allSymbols symbol

theorem View.Ready.invoke {entry : Entry} (ready : view.Ready) (behind : entry ≠ .init)
    (admitted : entry.Admitted) : view.Allows (.invoke entry) := by
  cases entry with
  | init => exact absurd rfl behind
  | deinit | componentNameEnum | getHandle | freeHandle | getRolesOfComponent =>
      exact ⟨ready.library, ready.running, ready.found _, admitted⟩

theorem meets_finish {request : Request} {err : OmxError} {name : CString} (ready : view.Ready)
    (asked : view.asked = some request) (answered : request.Answered err name) :
    Meets (finish true err name) Inv view := by
  refine meets_act ⟨request, asked, ?_⟩ fun _ => ⟨⟨ready.library, ready.running, ready.found⟩, rfl⟩
  rw [if_pos ready.running]
  exact answered

theorem meets_destruct (ready : view.Ready) : Meets (destruct true) Inv view :=
  meets_act (ready.invoke nofun trivial) fun _ =>
    meets_act ⟨ready.library, rfl⟩ fun _ => ⟨rfl, rfl⟩

theorem meets_serve {request : Request} (ready : view.Ready) (asked : view.asked = some request) :
    Meets (serve request) Inv view := by
  cases request with
  | makeComponentInstance name =>
      rw [serve, makeComponentInstance]
      split
      next broken => exact meets_finish ready asked fun _ => rfl
      next sound =>
        refine meets_act (ready.invoke nofun (Bool.eq_false_iff.mpr sound)) fun answer => ?_
        exact meets_finish ready asked fun broken => absurd broken sound
  | destroyComponentInstance =>
      exact meets_act (ready.invoke nofun trivial) fun _ => meets_finish ready asked trivial
  | enumerateComponents size index => exact ⟨ready, asked⟩
  | getRolesOfComponent name =>
      refine meets_act (ready.invoke nofun trivial) fun first => ?_
      split
      · exact meets_finish ready asked trivial
      · exact meets_act (ready.invoke nofun trivial) fun _ => meets_finish ready asked trivial
  | destroy => exact meets_destruct ready

theorem meets_refuse {request : Request} (gone : view.Gone) (asked : view.asked = some request) :
    Meets (refuse request) Inv view := by
  have undefined : Meets (finish false .undefined []) Inv view := by
    refine meets_act ⟨request, asked, ?_⟩ fun _ => ⟨gone, rfl⟩
    rw [gone.2]
    rfl
  cases request with
  | destroy => exact gone
  | _ => exact undefined

theorem meets_enumerating {size index : UInt32} (ready : view.Ready)
    (asked : view.asked = some (.enumerateComponents size index)) (raw visible : UInt32) :
    Meets (enumerating size index raw visible) Inv view := by
  refine meets_act (ready.invoke nofun trivial) fun answer => ?_
  split
  next failed => exact meets_finish ready asked fun success => absurd success failed
  next =>
    split
    next => exact ⟨ready, asked⟩
    next sound =>
      split
      · exact meets_finish ready asked fun _ => Bool.eq_false_iff.mpr sound
      · exact ⟨ready, asked⟩

theorem meets_code (label : Label) (view : View) (inv : Inv view label) :
    Meets (code label) Inv view := by
  cases label with
  | construct => exact meets_construct inv.1 inv.2
  | alive handle =>
      cases handle with
      | true =>
          obtain ⟨ready, unasked⟩ := inv
          refine meets_act ⟨ready.library.trans ready.running.symm, unasked⟩ fun request => ?_
          exact meets_serve ⟨ready.library, ready.running, ready.found⟩ rfl
      | false =>
          obtain ⟨gone, unasked⟩ := inv
          refine meets_act ⟨gone.1.trans gone.2.symm, unasked⟩ fun request => ?_
          exact meets_refuse gone rfl
  | enumerating size index raw visible => exact meets_enumerating inv.1 inv.2 raw visible
  | destroyed => exact inv

end Parts

/-- The loop is the one of `enumerateFrom`: with the answers of its core the plugin comes to
the same reply. -/
theorem runs_enumerateFrom (core : MtkOmxCore) {size index raw visible : UInt32} {fuel : Nat}
    {err : OmxError} {name : CString} (view : View)
    (found : enumerateFrom core size index fuel raw visible = some (err, name)) :
    Runs environment code ⟨.ret (.enumerating size index raw visible), view⟩
      ⟨finish true err name, view⟩ := by
  induction fuel generalizing raw visible with
  | zero => cases found
  | succ fuel ih =>
      obtain ⟨⟨err', name'⟩, answered⟩ : ∃ left, core.componentNameEnum size raw = left := ⟨_, rfl⟩
      refine .head (.jump _ _) (.head (.act _ _ _ ⟨err', name', 0⟩ trivial) ?_)
      change Runs environment code ⟨if err' ≠ .none then finish true err' name' else _, view⟩ _
      simp only [enumerateFrom, answered] at found
      split at found
      next failed =>
        obtain ⟨rfl, rfl⟩ := Prod.mk.inj (Option.some.inj found)
        rw [if_pos failed]
      next success =>
        rw [if_neg success]
        split at found
        next broken =>
          rw [if_pos broken]
          exact ih found
        next sound =>
          rw [if_neg sound]
          split at found
          next last =>
            obtain ⟨rfl, rfl⟩ := Prod.mk.inj (Option.some.inj found)
            rw [if_pos last]
          next notYet =>
            rw [if_neg notYet]
            exact ih found

/-! ## Every life -/

abbrev Life : Type := Config Call Answer Label View

def created : Life := ⟨.ret .construct, .initial⟩

/-- Whatever is found and whatever the framework asks, the core is entered only between a
set-up that succeeded and its one take-down, and never for a hidden component; every request
is answered before the next; the library is closed only without a core, and a plugin that is
gone leaves neither behind. -/
theorem core_entered_while_set_up {life : Life} (runs : Runs environment code created life) :
    life.Guarded View.Allows ∧ (life.rest = .ret .destroyed → life.state.Gone) := by
  have start : Meets created.rest Inv created.state := ⟨⟨rfl, rfl⟩, rfl⟩
  exact ⟨Runs.guarded meets_code start runs, Runs.jumps meets_code start runs⟩

/-- A core with a hidden component in front of the others. -/
def mtkCore (_view : View) : (op : Call) → Option (Answer op)
  | .dlopen | .dlsym _ => some true
  | .dlclose | .reply _ _ => some ()
  | .invoke (.componentNameEnum _ 0) => some ⟨.none, ascii "OMX.MTK.VIDEO.ENCODER.AVC", 0⟩
  | .invoke (.componentNameEnum _ _) => some ⟨.none, ascii "OMX.MTK.AUDIO.DECODER.MP3", 0⟩
  | .invoke (.getRolesOfComponent _ _) => some ⟨.none, [], 1⟩
  | .invoke _ => some ⟨.none, [], 0⟩
  | .await => none

def asks (request : Request) (_view : View) : (op : Call) → Option (Answer op)
  | .await => some request
  | _ => none

/-- The life after the framework has asked for these, one after the other. -/
def asked : List Request → Life → Life
  | [], life => life
  | request :: rest, life =>
      asked rest (follow environment code mtkCore 12 (follow environment code (asks request) 1 life))

theorem runs_asked (requests : List Request) (life : Life) :
    Runs environment code life (asked requests life) := by
  induction requests generalizing life with
  | nil => exact .refl
  | cons request rest ih =>
      have taken := @runs_follow _ _ _ _ environment code (asks request)
        (fun _ _ _ _ => trivial) 1 life
      exact (taken.trans (runs_follow (fun _ _ _ _ => trivial) 12 _)).trans (ih _)

def mp3 : CString := ascii "OMX.MTK.AUDIO.DECODER.MP3"

def servedLife : Life :=
  asked [.makeComponentInstance (some mp3), .enumerateComponents 128 0, .getRolesOfComponent mp3,
    .makeComponentInstance (some (ascii "OMX.MTK.VIDEO.ENCODER.AVC")), .destroyComponentInstance,
    .destroy] (follow environment code mtkCore 12 created)

theorem servedLife_gone : servedLife.state.Gone :=
  (core_entered_while_set_up
    ((runs_follow (fun _ _ _ _ => trivial) 12 created).trans (runs_asked _ _))).2
    (by rfl)

end Mt6757.Omx.PluginLifetime
