import Mt6757.Lib.BlockProgram
import Mt6757.Lib.Numeral

/-!
# The runner of `atcid`

`atcid_runner` makes the socket that `init` would have made for the daemon, and becomes the
daemon.  It refuses to take over an endpoint that is in use.
-/

set_option autoImplicit false

namespace Mt6757.Tools.AtcidRunner

open CommandTree

def socketPath : CString := CString.ascii "/dev/socket/adb_atci_socket"

/-- The room of `sun_path`. -/
def sunPathSize : Nat := 108

/-- The size of `fd_value`. -/
def fdValueSize : Nat := 16

def socketVariable : CString := CString.ascii "ANDROID_SOCKET_adb_atci_socket"
def preloadVariable : CString := CString.ascii "LD_PRELOAD"
def shimPath : CString := CString.ascii "/system/lib64/libshim_atcid_radio.so"
def atcidPath : CString := CString.ascii "/system/bin/atcid"

/-- The calls of the C library; `fputs` writes to the standard error, and `strerror` describes
the error of the last call. -/
inductive Call where
  | socket
  | bind (fd : Int32) (path : CString)
  | chmod (path : CString) (mode : Nat)
  | listen (fd : Int32) (backlog : Nat)
  | setenv (name value : CString)
  | execl (path : CString) (args : List CString)
  | perror (text : CString)
  | fputs (text : CString)
  | strerror
  | exit (status : Int32)
  deriving DecidableEq

abbrev Answer : Call → Type
  | .exit _ => Empty
  | .perror _ => Unit
  | .fputs _ => Unit
  | .strerror => CString
  | _ => Int32

abbrev Program (α : Type) : Type := Prog Call Answer α

def call (op : Call) : Program (Answer op) := Prog.perform op

inductive Label where
  | main
  | returned (status : Int32)
  deriving DecidableEq

def exitFailure : Int32 := 1

def fail (text : String) : Program Label := do
  let _ ← call (.perror (CString.ascii text))
  pure (.returned exitFailure)

def complain (text : CString) : Program Label := do
  let _ ← call (.fputs text)
  pure (.returned exitFailure)

/-- The end of `main`: the daemon is told of the socket, and takes over. -/
def becomeAtcid (fd : Int32) : Program Label := do
  let fdValue := (CString.printInt fd.toInt).take (fdValueSize - 1)
  let _ ← call (.setenv socketVariable fdValue)
  let _ ← call (.setenv preloadVariable shimPath)
  let _ ← call (.execl atcidPath [CString.ascii "atcid"])
  let description : CString ← call .strerror
  complain (CString.ascii "exec atcid: " ++ description ++ CString.ascii "\n")

/-- Its owner and its group may use the endpoint. -/
def socketMode : Nat := 0o660

/-- `chmod(...) != 0 || listen(...) != 0`. -/
def prepareSocket (fd : Int32) : Program Bool := do
  let changed : Int32 ← call (.chmod socketPath socketMode)
  if changed ≠ 0 then pure false
  else do
    let listening : Int32 ← call (.listen fd 4)
    pure (decide (listening = 0))

def main : Program Label := do
  let fd : Int32 ← call .socket
  if fd < 0 then fail "socket"
  else if socketPath.length ≥ sunPathSize then
    complain (CString.ascii "socket path too long\n")
  else do
    let bound : Int32 ← call (.bind fd socketPath)
    if bound ≠ 0 then fail "bind"
    else do
      let prepared ← prepareSocket fd
      if prepared then becomeAtcid fd else fail "prepare socket"

def code : Label → Program Label
  | .main => main
  | .returned status => .call (.exit status) Empty.elim

/-! ## What is owed to the daemon -/

/-- The endpoint that a socket of the process is bound to, the file whose mode was changed last,
the socket that listens, and the environment. -/
structure View where
  bound : Option (Int32 × CString)
  mode : Option (CString × Nat)
  listening : Option Int32
  environ : List (CString × CString)
  setenvFailed : Bool
  deriving DecidableEq

def View.initial (inherited : List (CString × CString)) : View :=
  ⟨none, none, none, inherited, false⟩

def View.getenv (view : View) (name : CString) : Option CString :=
  (view.environ.find? (·.1 == name)).map Prod.snd

/-- The daemon finds a socket that listens at its endpoint, under a number that it reads
from its environment, unless the environment could not grow. -/
def View.ReadyForAtcid (view : View) : Prop :=
  view.mode = some (socketPath, socketMode) ∧ ∃ fd, view.listening = some fd ∧
    view.bound = some (fd, socketPath) ∧
    (view.setenvFailed = false →
      (view.getenv socketVariable).map (CString.atoi 64) = some fd ∧
        view.getenv preloadVariable = some shimPath)

/-- An endpoint is changed only after it was bound here, it listens only once it is
restricted, and no way out is a success. -/
def View.Allows (view : View) : Call → Prop
  | .bind fd path => 0 ≤ fd ∧ path.length < sunPathSize
  | .chmod path mode => view.bound.map Prod.snd = some path ∧ mode = socketMode
  | .listen fd _ => ∃ path, view.bound = some (fd, path) ∧ view.mode = some (path, socketMode)
  | .execl path _ => path = atcidPath ∧ view.ReadyForAtcid
  | .exit status => status = exitFailure
  | _ => True

def View.after (view : View) : (op : Call) → Answer op → View
  | .bind fd path, rc =>
      if rc = (0 : Int32) then { view with bound := some (fd, path) } else view
  | .chmod path mode, rc =>
      if rc = (0 : Int32) then { view with mode := some (path, mode) } else view
  | .listen fd _, rc => if rc = (0 : Int32) then { view with listening := some fd } else view
  | .setenv name value, rc =>
      if rc = (0 : Int32) then { view with environ := (name, value) :: view.environ }
      else { view with setenvFailed := true }
  | _, _ => view

def environment : Environment Call Answer View where
  answers _ _ _ := True
  after := View.after

abbrev Meets {α : Type} (program : Program α) (final : View → α → Prop) (view : View) : Prop :=
  program.Meets environment View.Allows final view

def Inv (_view : View) : Label → Prop
  | .main => True
  | .returned status => status = exitFailure

section Parts

variable {view : View}

theorem meets_act {α : Type} {final : View → α → Prop} {op : Call} {next : Answer op → Program α}
    (allows : view.Allows op)
    (later : ∀ answer, Meets (next answer) final (view.after op answer)) :
    Meets (call op >>= next) final view := ⟨allows, fun answer _ => later answer⟩

theorem meets_fail (text : String) : Meets (fail text) Inv view :=
  meets_act trivial fun _ => rfl

theorem meets_complain (text : CString) : Meets (complain text) Inv view :=
  meets_act trivial fun _ => rfl

/-- A descriptor has room in `fd_value`, and the daemon reads it back. -/
theorem atoi_fdValue (fd : Int32) :
    CString.atoi 64 ((CString.printInt fd.toInt).take (fdValueSize - 1)) = fd := by
  have short := CString.length_printInt_le fd
  rw [List.take_of_length_le (by rw [fdValueSize]; omega)]
  exact CString.atoi_printInt (by decide) fd

theorem getenv_cons (name value other : CString) :
    ({ view with environ := (name, value) :: view.environ } : View).getenv other =
      if name = other then some value else view.getenv other := by
  simp only [View.getenv]
  by_cases same : name = other
  · simp [same]
  · simp [same]

/-- A variable that was set is found, and the others are as they were. -/
theorem getenv_setenv {name value : CString} {rc : Int32}
    (set : (view.after (.setenv name value) rc).setenvFailed = false) (other : CString) :
    view.setenvFailed = false ∧ (view.after (.setenv name value) rc).getenv other =
      if name = other then some value else view.getenv other := by
  by_cases success : rc = 0
  · subst success
    exact ⟨set, getenv_cons name value other⟩
  · simp only [View.after, if_neg success] at set
    cases set

theorem after_setenv (name value : CString) (rc : Int32) :
    (view.after (.setenv name value) rc).mode = view.mode ∧
      (view.after (.setenv name value) rc).bound = view.bound ∧
      (view.after (.setenv name value) rc).listening = view.listening := by
  simp only [View.after]
  split
  · exact ⟨rfl, rfl, rfl⟩
  · exact ⟨rfl, rfl, rfl⟩

theorem meets_becomeAtcid {fd : Int32} (restricted : view.mode = some (socketPath, socketMode))
    (bound : view.bound = some (fd, socketPath)) (listening : view.listening = some fd) :
    Meets (becomeAtcid fd) Inv view := by
  refine meets_act trivial fun rc => meets_act trivial fun rc' => ?_
  obtain ⟨restricted', bound', listening'⟩ := @after_setenv view socketVariable
    ((CString.printInt fd.toInt).take (fdValueSize - 1)) rc
  obtain ⟨restricted'', bound'', listening''⟩ := @after_setenv
    (view.after (.setenv socketVariable ((CString.printInt fd.toInt).take (fdValueSize - 1))) rc)
    preloadVariable shimPath rc'
  refine meets_act ⟨rfl, ?_, fd, ?_, ?_, fun set => ?_⟩ fun _ =>
    meets_act trivial fun _ => meets_complain _
  · rw [restricted'', restricted', restricted]
  · rw [listening'', listening', listening]
  · rw [bound'', bound', bound]
  · obtain ⟨set', socket⟩ := getenv_setenv set socketVariable
    obtain ⟨_, value⟩ := getenv_setenv set' socketVariable
    obtain ⟨_, preload⟩ := getenv_setenv set preloadVariable
    rw [socket, if_neg (by decide), value, if_pos rfl, preload, if_pos rfl, Option.map_some,
      atoi_fdValue]
    exact ⟨rfl, rfl⟩

theorem meets_prepareSocket {fd : Int32} (bound : view.bound = some (fd, socketPath)) :
    Meets (prepareSocket fd) (fun view' prepared => prepared = true →
      view'.mode = some (socketPath, socketMode) ∧ view'.bound = some (fd, socketPath) ∧
        view'.listening = some fd) view := by
  have here : view.bound.map Prod.snd = some socketPath := congrArg (Option.map Prod.snd) bound
  refine meets_act ⟨here, rfl⟩ fun changed => ?_
  split
  next => exact fun never => nomatch never
  next restricted =>
    obtain rfl := not_not.mp restricted
    refine meets_act ⟨socketPath, bound, rfl⟩ fun listening success => ?_
    obtain rfl := of_decide_eq_true success
    exact ⟨rfl, bound, rfl⟩

theorem meets_main : Meets main Inv view := by
  refine meets_act trivial fun fd => ?_
  split
  next => exact meets_fail _
  next opened =>
    have short : ¬ socketPath.length ≥ sunPathSize := by decide
    rw [if_neg short]
    refine meets_act ⟨Int32.not_lt.mp opened, Nat.not_le.mp short⟩ fun bound => ?_
    split
    next => exact meets_fail _
    next success =>
      obtain rfl := not_not.mp success
      refine (meets_prepareSocket rfl).bind fun prepared view' ready => ?_
      split
      next success =>
        obtain ⟨restricted, bound, listening⟩ := ready success
        exact meets_becomeAtcid restricted bound listening
      next => exact meets_fail _

theorem meets_code (label : Label) (view : View) (inv : Inv view label) :
    Meets (code label) Inv view := by
  cases label with
  | main => exact meets_main
  | returned status => exact ⟨inv, fun never => nomatch never⟩

end Parts

/-! ## Every run -/

abbrev Process : Type := Config Call Answer Label View

def process (inherited : List (CString × CString)) : Process :=
  ⟨.ret .main, .initial inherited⟩

/-- Whatever the calls answer, the daemon is executed with a restricted socket that listens
at the endpoint and whose number stands in the environment; nothing is done to an endpoint
that could not be bound, and the runner never ends as if it had succeeded. -/
theorem daemon_finds_socket {inherited : List (CString × CString)} {reached : Process}
    (runs : Runs environment code (process inherited) reached) :
    reached.Guarded View.Allows := by
  have start : Meets (process inherited).rest Inv (process inherited).state := trivial
  exact Runs.guarded meets_code start runs

/-- Calls that succeed, up to the daemon. -/
def willing (_view : View) : (op : Call) → Option (Answer op)
  | .socket => some (7 : Int32)
  | .execl _ _ | .exit _ => none
  | .perror _ | .fputs _ => some ()
  | .strerror => some []
  | .bind _ _ | .chmod _ _ | .listen _ _ | .setenv _ _ => some (0 : Int32)

def startedProcess : Process := follow environment code willing 12 (process [])

theorem startedProcess_ready :
    startedProcess.nextOp = some (.execl atcidPath [CString.ascii "atcid"]) ∧
      startedProcess.Guarded View.Allows :=
  ⟨by decide +kernel, daemon_finds_socket (runs_follow (fun _ _ _ _ => trivial) 12 (process []))⟩

end Mt6757.Tools.AtcidRunner
