import Mt6757.Lib.BlockProgram
import Mt6757.Lib.Numeral

/-!
# The boot bridge

`bootbridge-init` runs in place of the first `init`: it mounts the system partition, leaves
two loggers behind, and hands the machine over to Android's `init` inside that partition.
None of its calls is trusted to succeed.
-/

set_option autoImplicit false

namespace Mt6757.Rootdir.BootBridge

open CommandTree

/-! ## The calls -/

inductive Flag where
  | remount | rdonly | move | detach
  | oRdonly | oWronly | oCreat | oTrunc | oAppend | oSync | oNonblock
  deriving DecidableEq, Repr

/-- The calls of the C library.  A null path is `none`; a `write` has the characters that
its buffer holds and the count that is asked for; `errno` is read like a file. -/
inductive Call where
  | mkdir (path : String) (mode : Nat)
  | mknod (path : String) (mode major minor : Nat)
  | mount (source : Option String) (target : String) (fstype : Option String) (flags : List Flag)
  | umount2 (target : String) (flags : List Flag)
  | «open» (path : String) (flags : List Flag) (mode : Nat)
  | close (fd : Int32)
  | read (fd : Int32) (size : Nat)
  | write (fd : Int32) (buffer : CString) (count : Nat)
  | fsync (fd : Int32)
  | fork
  | chroot (path : String)
  | chdir (path : String)
  | execl (path : String) (args : List String)
  | exit (status : Int32)
  | sleep (seconds : Nat)
  | usleep (microseconds : Nat)
  | pause
  | errno
  | strerror (errnum : Int32)
  deriving DecidableEq

/-- `read` gives the bytes, or fails; `execl` comes back only with a failure, `_exit` never. -/
abbrev Answer : Call → Type
  | .read _ _ => Option (List UInt8)
  | .strerror _ => CString
  | .execl _ _ => Unit
  | .exit _ => Empty
  | _ => Int32

abbrev Program (α : Type) : Type := Prog Call Answer α

def call (op : Call) : Program (Answer op) := Prog.perform op

def ignore (op : Call) : Program Unit := do
  let _ ← call op
  pure ()

def ebusy : Int32 := 16

/-! ## The program -/

/-- Where a loop without an end starts again. -/
inductive Label where
  | start
  | pause
  | drain (fd kmsgFd kmsgLogFd drained : Int32)
  | kmsgLogger (input output : Int32)
  deriving DecidableEq

def logText (stage : String) (rc savedErrno : Int32) (description : CString) : CString :=
  CString.ascii "bootbridge: " ++ CString.ascii stage ++ CString.ascii " rc=" ++
    CString.printInt rc.toInt ++ CString.ascii " errno=" ++ CString.printInt savedErrno.toInt ++
    CString.ascii " (" ++ description ++ CString.ascii ")\n"

/-- `log_line`: the count is the length of the whole text, of which `buf` holds what fits. -/
def logLine (fd : Int32) (stage : String) (rc : Int32) : Program Unit := do
  let savedErrno : Int32 ← call .errno
  let description : CString ← call (.strerror savedErrno)
  let text := logText stage rc savedErrno description
  let _ ← call (.write fd (text.take 255 ++ [0]) text.length)
  let _ ← call (.fsync fd)
  pure ()

def runKmsgLogger (input output : Int32) : Program Label := do
  let count : Option (List UInt8) ← call (.read input 4096)
  match count with
  | some (byte :: rest) => do
      let _ ← call (.write output (byte :: rest) (rest.length + 1))
      let _ ← call (.fsync output)
      pure (.kmsgLogger input output)
  | _ => do
      let _ ← call (.usleep 50000)
      pure (.kmsgLogger input output)

def exit (status : Int32) : Program Label := .call (.exit status) Empty.elim

def runLogcatLogger : Program Label := do
  let rooted : Int32 ← call (.chroot "/newroot")
  if rooted ≠ 0 then exit 1
  else do
    let there : Int32 ← call (.chdir "/")
    if there ≠ 0 then exit 1
    else do
      let _ ← call (.sleep 6)
      let _ ← call (.execl "/system/bin/logcat" ["logcat", "-b", "all", "-v",
        "threadtime", "-f", "/data/bootbridge-logcat.log", "*:V"])
      exit 1

/-- The attempts that are left to mount the partition of the logs; the result is the last
answer and the number of the attempt that broke off. -/
def mountUserdata : (left : Nat) → (i rc : Int32) → Program (Int32 × Int32)
  | 0, i, rc => pure (rc, i)
  | left + 1, i, _ => do
      let rc : Int32 ← call (.mount (some "/dev/mmcblk0p38") "/diagdata" (some "ext4") [])
      if rc = 0 then pure (rc, i)
      else do
        let error : Int32 ← call .errno
        if error = ebusy then pure (rc, i)
        else do
          let _ ← call (.sleep 1)
          mountUserdata left (i + 1) rc

/-- `main` up to the first log line. -/
def prepare : Program (Int32 × Int32 × Int32) := do
  ignore (.mkdir "/proc" 0o755)
  ignore (.mkdir "/sys" 0o755)
  ignore (.mkdir "/dev" 0o755)
  ignore (.mount (some "proc") "/proc" (some "proc") [])
  ignore (.mount (some "sysfs") "/sys" (some "sysfs") [])
  ignore (.mount (some "devtmpfs") "/dev" (some "devtmpfs") [])
  ignore (.mknod "/dev/mmcblk0p38" 0o60600 259 6)
  ignore (.mknod "/dev/mmcblk0p39" 0o60600 259 7)
  ignore (.mkdir "/diagdata" 0o755)
  let (rc, i) ← mountUserdata 60 0 (-1)
  let fd : Int32 ← call (.open "/diagdata/bootbridge.log" [.oWronly, .oCreat, .oTrunc, .oSync]
    0o644)
  pure (rc, i, fd)

/-- The mount points that Android expects, made while the partition is writable. -/
def makeMountPoints (fd : Int32) : Program Unit := do
  let rc : Int32 ← call (.mount none "/newroot" none [.remount])
  logLine fd "system_remount_rw" rc
  ignore (.mkdir "/newroot/nvdata" 0o771)
  ignore (.mkdir "/newroot/nvcfg" 0o771)
  ignore (.mkdir "/newroot/persist" 0o771)
  ignore (.mkdir "/newroot/protect_f" 0o771)
  ignore (.mkdir "/newroot/protect_s" 0o771)
  ignore (.mkdir "/newroot/custom" 0o755)
  ignore (.mkdir "/newroot/storage" 0o755)
  ignore (.mkdir "/newroot/storage/usbotg" 0o700)
  let rc : Int32 ← call (.mount none "/newroot" none [.remount, .rdonly])
  logLine fd "system_remount_ro" rc

def openKernelLog (fd : Int32) : Program Label := do
  let kmsgFd : Int32 ← call (.open "/proc/kmsg" [.oRdonly, .oNonblock] 0)
  let kmsgLogFd : Int32 ← call (.open "/diagdata/bootbridge-kmsg.log"
    [.oWronly, .oCreat, .oTrunc, .oSync] 0o644)
  logLine fd "kmsg_open" kmsgFd
  logLine fd "kmsg_log_open" kmsgLogFd
  pure (.drain fd kmsgFd kmsgLogFd 0)

/-- `main` from the mount of the system on, as far as the loop that drains the kernel log. -/
def mountSystem (fd : Int32) : Program Label := do
  ignore (.mkdir "/newroot" 0o755)
  let rc : Int32 ← call (.mount (some "/dev/mmcblk0p39") "/newroot" (some "ext4") [])
  logLine fd "system_mount" rc
  if rc ≠ 0 then pure .pause
  else do
    makeMountPoints fd
    openKernelLog fd

def start : Program Label := do
  let (rc, i, fd) ← prepare
  if fd < 0 then pure .pause
  else do
    logLine fd "userdata_mount" rc
    logLine fd "emmc_wait_loops" i
    mountSystem fd

def reportFailure : Program Label := do
  let fd : Int32 ← call (.open "/data/bootbridge.log" [.oWronly, .oAppend, .oSync]
    0o644)
  if fd ≥ 0 then do
    logLine fd "chroot_init_exec" (-1)
    ignore (.close fd)
    pure .pause
  else pure .pause

/-- `chroot`, and `chdir` where it worked. -/
def enterSystem : Program Int32 := do
  let rc : Int32 ← call (.chroot "/newroot")
  if rc = 0 then call (.chdir "/") else pure rc

def execInit (rc : Int32) : Program Label :=
  if rc = 0 then do
    ignore (.execl "/init" ["init"])
    reportFailure
  else reportFailure

def handOver : Program Label := do
  ignore (.mkdir "/newroot/data" 0o755)
  ignore (.mkdir "/newroot/dev" 0o755)
  ignore (.mkdir "/newroot/proc" 0o755)
  ignore (.mkdir "/newroot/sys" 0o755)
  ignore (.mount (some "/diagdata") "/newroot/data" none [.move])
  ignore (.umount2 "/dev" [.detach])
  ignore (.umount2 "/proc" [.detach])
  ignore (.umount2 "/sys" [.detach])
  let rc ← enterSystem
  execInit rc

def launch (fd kmsgFd kmsgLogFd drained : Int32) : Program Label := do
  logLine fd "kmsg_backlog_drained" drained
  let rc : Int32 ← call .fork
  logLine fd "kmsg_logger_fork" rc
  if rc = 0 then do
    ignore (.close fd)
    pure (.kmsgLogger kmsgFd kmsgLogFd)
  else do
    ignore (.close kmsgFd)
    ignore (.close kmsgLogFd)
    let rc : Int32 ← call .fork
    logLine fd "logcat_logger_fork" rc
    if rc = 0 then do
      ignore (.close fd)
      runLogcatLogger
    else do
      ignore (.close fd)
      handOver

/-- One turn of the loop that drains the kernel log, or what follows it. -/
def drain (fd kmsgFd kmsgLogFd drained : Int32) : Program Label :=
  if kmsgFd ≥ 0 then do
    let drainCount : Option (List UInt8) ← call (.read kmsgFd 16384)
    match drainCount with
    | some (_ :: rest) =>
        pure (.drain fd kmsgFd kmsgLogFd (drained + .ofNat (rest.length + 1)))
    | _ => launch fd kmsgFd kmsgLogFd drained
  else launch fd kmsgFd kmsgLogFd drained

def code : Label → Program Label
  | .start => start
  | .pause => do
      ignore .pause
      pure .pause
  | .drain fd kmsgFd kmsgLogFd drained => drain fd kmsgFd kmsgLogFd drained
  | .kmsgLogger input output => runKmsgLogger input output

/-! ## What a process has done -/

def systemPartition : String := "/dev/mmcblk0p39"

/-- What is known of one process: whether it is a child of the bridge, the descriptors it
holds, where the system partition is mounted and what was asked for it last, and the root and
the working directory of the process.  Places are paths from the root of the bridge. -/
structure View where
  child : Bool
  held : List Int32
  systemAt : Option String
  readOnlyAsked : Bool
  root : String
  cwd : String
  detachAsked : List String
  deriving DecidableEq

def View.initial : View := ⟨false, [], none, false, "/", "/", []⟩

/-- Where an absolute path of the process leads. -/
def View.resolve (view : View) (path : String) : String :=
  if view.root = "/" then path else if path = "/" then view.root else view.root ++ path

/-- A process uses a descriptor that it holds; a logger may also be left with one that
could not be opened. -/
def View.Uses (view : View) (fd : Int32) : Prop := fd ∈ view.held ∨ view.child = true ∧ fd < 0

/-- What another program is to find: no descriptor of the bridge, and its root and its working
directory where the system is mounted.  `init` is left alone with it, as far as the bridge
asked for that. -/
def View.ReadyFor (view : View) (path : String) : Prop :=
  view.held = [] ∧ view.systemAt = some "/newroot" ∧ view.root = "/newroot" ∧
    view.cwd = "/newroot" ∧
    if view.child then path = "/system/bin/logcat"
    else path = "/init" ∧ view.readOnlyAsked = true ∧
      view.detachAsked = ["/sys", "/proc", "/dev"]

def View.Allows (view : View) : Call → Prop
  | .write fd buffer count => view.Uses fd ∧ count ≤ buffer.length
  | .fsync fd => view.Uses fd
  | .read fd _ => view.Uses fd
  | .chroot path => view.systemAt = some (view.resolve path)
  | .execl path _ => view.ReadyFor path
  | .exit _ => view.child = true
  | _ => True

def opened (fd : Int32) (held : List Int32) : List Int32 :=
  if 0 ≤ fd then fd :: held else held

theorem mem_opened {fd other : Int32} {held : List Int32} :
    other ∈ opened fd held ↔ 0 ≤ fd ∧ other = fd ∨ other ∈ held := by
  rw [opened]
  split
  next natural => rw [List.mem_cons, and_iff_right natural]
  next negative => rw [or_iff_right fun both => negative both.1]

/-- A change of the mounts: the system is mounted, it is asked to be mounted otherwise, or
something else takes its place. -/
def View.mounted (view : View) (source : Option String) (target : String) (flags : List Flag)
    (rc : Int32) : View :=
  if view.systemAt = some (view.resolve target) then
    if .remount ∈ flags then { view with readOnlyAsked := decide (.rdonly ∈ flags) }
    else { view with systemAt := none }
  else if source = some systemPartition ∧ rc = 0 then
    { view with
      systemAt := some (view.resolve target)
      readOnlyAsked := decide (.rdonly ∈ flags) }
  else view

def View.after (view : View) : (op : Call) → Answer op → View
  | .open _ _ _, fd => { view with held := opened fd view.held }
  | .close fd, _ => { view with held := view.held.filter (· ≠ fd) }
  | .mount source target _ flags, rc => view.mounted source target flags rc
  | .umount2 target flags, _ =>
      { view with
        systemAt := if view.systemAt = some (view.resolve target) then none else view.systemAt
        detachAsked :=
          if .detach ∈ flags then view.resolve target :: view.detachAsked
          else view.detachAsked }
  | .fork, pid => { view with child := view.child || pid == (0 : Int32) }
  | .chroot path, rc =>
      if rc = (0 : Int32) then { view with root := view.resolve path } else view
  | .chdir path, rc =>
      if rc = (0 : Int32) then { view with cwd := view.resolve path } else view
  | _, _ => view

/-- A new descriptor is none that is open; the library describes an error in a few words. -/
def View.Answers (view : View) : (op : Call) → Answer op → Prop
  | .open _ _ _, fd => fd ∉ view.held
  | .strerror _, description => description.length ≤ 186
  | _, _ => True

def environment : Environment Call Answer View where
  answers := View.Answers
  after := View.after

/-- A block from its beginning: every call is made where it is allowed. -/
abbrev Meets {α : Type} (program : Program α) (final : View → α → Prop) (view : View) : Prop :=
  program.Meets environment View.Allows final view

/-! ## What the parts keep -/

section Parts

variable {α : Type} {view : View} {final : View → α → Prop}

theorem meets_act {op : Call} {next : Answer op → Program α} (allows : view.Allows op)
    (later : ∀ answer, view.Answers op answer → Meets (next answer) final (view.after op answer)) :
    Meets (call op >>= next) final view := ⟨allows, later⟩

theorem meets_act_ignore {op : Call} {next : Unit → Program α} (allows : view.Allows op)
    (later : ∀ answer, view.Answers op answer → Meets (next ()) final (view.after op answer)) :
    Meets (ignore op >>= next) final view := ⟨allows, later⟩

@[simp] theorem after_chroot_child (path : String) (rc : Int32) :
    (view.after (.chroot path) rc).child = view.child := by
  simp only [View.after]
  split
  · rfl
  · rfl

theorem after_remount {target : String} {flags : List Flag}
    (mounted : view.systemAt = some (view.resolve target)) (remounts : .remount ∈ flags)
    (rc : Int32) :
    view.after (.mount none target none flags) rc =
      { view with readOnlyAsked := decide (.rdonly ∈ flags) } := by
  simp only [View.after, View.mounted]
  rw [if_pos mounted, if_pos remounts]

@[simp] theorem after_chdir_child (path : String) (rc : Int32) :
    (view.after (.chdir path) rc).child = view.child := by
  simp only [View.after]
  split
  · rfl
  · rfl

/-- The view is as it was. -/
abbrev Keeps (program : Program α) (view : View) : Prop :=
  Meets program (fun view' _ => view' = view) view

theorem Keeps.bind {β : Type} {first : Program β} {next : β → Program α} (keeps : Keeps first view)
    (later : ∀ value, Meets (next value) final view) : Meets (first >>= next) final view := by
  apply Prog.Meets.bind keeps
  rintro value view' rfl
  exact later value

/-- Calls that are always allowed and tell nothing about the process, where the system is
mounted elsewhere. -/
def Call.Idle (view : View) : Call → Prop
  | .mkdir _ _ | .mknod _ _ _ _ | .sleep _ | .usleep _ | .pause | .errno => True
  | .mount source target _ _ =>
      source ≠ some systemPartition ∧ view.systemAt ≠ some (view.resolve target)
  | _ => False

theorem keeps_call {op : Call} (idle : op.Idle view) : Keeps (call op) view := by
  cases op with
  | mkdir | mknod | sleep | usleep | pause | errno => exact ⟨trivial, fun _ _ => rfl⟩
  | mount source target fstype flags =>
      refine ⟨trivial, fun rc _ => ?_⟩
      show view.mounted source target flags rc = view
      rw [View.mounted, if_neg idle.2, if_neg fun both => idle.1 both.1]
  | umount2 | «open» | close | read | write | fsync | fork | chroot | chdir | execl | exit |
    strerror => exact idle.elim

theorem meets_idle {op : Call} {next : Answer op → Program α} (idle : op.Idle view)
    (later : ∀ answer, Meets (next answer) final view) : Meets (call op >>= next) final view :=
  (keeps_call idle).bind later

theorem meets_ignore {op : Call} {next : Unit → Program α} (idle : op.Idle view)
    (later : Meets (next ()) final view) : Meets (ignore op >>= next) final view :=
  @meets_idle _ _ _ op (fun _ => next ()) idle fun _ => later

theorem meets_mkdir {path : String} {mode : Nat} {next : Unit → Program α}
    (later : Meets (next ()) final view) : Meets (ignore (.mkdir path mode) >>= next) final view :=
  meets_ignore trivial later

/-- Nothing is in the way of other file systems while the system is not mounted. -/
theorem meets_mount {source : Option String} {target : String} {fstype : Option String}
    {flags : List Flag} {next : Unit → Program α} (other : source ≠ some systemPartition)
    (apart : view.systemAt ≠ some (view.resolve target)) (later : Meets (next ()) final view) :
    Meets (ignore (.mount source target fstype flags) >>= next) final view :=
  meets_ignore ⟨other, apart⟩ later

theorem logText_length {stage : String} {description : CString} (short : stage.toList.length ≤ 20)
    (few : description.length ≤ 186) (rc savedErrno : Int32) :
    (logText stage rc savedErrno description).length ≤ 255 := by
  have rcLength := CString.length_printInt_le rc
  have errnoLength := CString.length_printInt_le savedErrno
  have texts : (CString.ascii "bootbridge: ").length = 12 ∧ (CString.ascii " rc=").length = 4 ∧
      (CString.ascii " errno=").length = 7 ∧ (CString.ascii " (").length = 2 ∧
      (CString.ascii ")\n").length = 2 := by decide
  have stageLength : (CString.ascii stage).length = stage.toList.length := List.length_map _
  simp only [logText, List.length_append]
  omega

theorem keeps_logLine {fd rc : Int32} {stage : String} (uses : view.Uses fd)
    (short : stage.toList.length ≤ 20) : Keeps (logLine fd stage rc) view := by
  refine meets_idle trivial fun savedErrno => ⟨trivial, fun description few => ?_⟩
  have fits := logText_length short few rc savedErrno
  refine ⟨⟨uses, ?_⟩, fun _ _ => ⟨uses, fun _ _ => rfl⟩⟩
  rw [List.length_append, List.length_take]
  omega

theorem meets_logLine {fd rc : Int32} {stage : String} {next : Unit → Program α}
    (uses : view.Uses fd) (short : stage.toList.length ≤ 20) (later : Meets (next ()) final view) :
    Meets (logLine fd stage rc >>= next) final view :=
  (keeps_logLine uses short).bind fun _ => later

theorem keeps_mountUserdata (unmounted : view.systemAt = none) (left : Nat) (i rc : Int32) :
    Keeps (mountUserdata left i rc) view := by
  induction left generalizing i rc with
  | zero => rfl
  | succ left ih =>
      refine meets_idle ⟨by decide, by simp [unmounted]⟩ fun rc => ?_
      split
      · rfl
      · refine meets_idle trivial fun error => ?_
        split
        · rfl
        · exact meets_idle trivial fun _ => ih (i + 1) rc

end Parts

/-! ## What the blocks keep -/

/-- The system is mounted and asked to be read-only, and not yet entered. -/
structure View.Prepared (view : View) : Prop where
  mounted : view.systemAt = some "/newroot"
  readOnly : view.readOnlyAsked = true
  outside : view.root = "/"
  attached : view.detachAsked = []

theorem View.Prepared.of_same {view view' : View} (prepared : view.Prepared)
    (mounted : view'.systemAt = view.systemAt) (asked : view'.readOnlyAsked = view.readOnlyAsked)
    (root : view'.root = view.root) (detached : view'.detachAsked = view.detachAsked) :
    view'.Prepared :=
  ⟨mounted.trans prepared.mounted, asked.trans prepared.readOnly, root.trans prepared.outside,
    detached.trans prepared.attached⟩

structure Loaded (fd kmsgFd kmsgLogFd : Int32) (view : View) : Prop where
  parent : view.child = false
  prepared : view.Prepared
  log : fd ∈ view.held
  kmsg : 0 ≤ kmsgFd → kmsgFd ∈ view.held
  kmsgLog : 0 ≤ kmsgLogFd → kmsgLogFd ∈ view.held
  kmsgApart : kmsgFd ≠ fd
  kmsgLogApart : kmsgLogFd ≠ fd
  others : ∀ other ∈ view.held, other = fd ∨ other = kmsgFd ∨ other = kmsgLogFd

def Inv (view : View) : Label → Prop
  | .start => view = .initial
  | .pause => True
  | .drain fd kmsgFd kmsgLogFd _ => Loaded fd kmsgFd kmsgLogFd view
  | .kmsgLogger input output => view.child = true ∧ view.Uses input ∧ view.Uses output

section Blocks

variable {view : View}

theorem uses_negative {fd : Int32} (child : view.child = true)
    (held : 0 ≤ fd → fd ∈ view.held) : view.Uses fd := by
  by_cases natural : 0 ≤ fd
  · exact .inl (held natural)
  · exact .inr ⟨child, Int32.not_le.mp natural⟩

theorem meets_exit (status : Int32) (child : view.child = true) :
    Meets (exit status) Inv view := ⟨child, fun never => nomatch never⟩

theorem meets_runKmsgLogger {input output : Int32} (child : view.child = true)
    (reads : view.Uses input) (writes : view.Uses output) :
    Meets (runKmsgLogger input output) Inv view := by
  refine meets_act reads fun count _ => ?_
  split
  · refine meets_act ⟨writes, le_of_eq rfl⟩ fun _ _ => ?_
    exact meets_act writes fun _ _ => ⟨child, reads, writes⟩
  · exact meets_idle trivial fun _ => ⟨child, reads, writes⟩

/-- Inside the system, whose root is also the working directory. -/
def View.inside (view : View) : View := { view with root := "/newroot", cwd := "/newroot" }

def View.detach (view : View) (target : String) : View :=
  { view with detachAsked := target :: view.detachAsked }

section Outside

variable (mounted : view.systemAt = some "/newroot") (outside : view.root = "/")

include mounted outside

theorem allows_chroot : view.Allows (.chroot "/newroot") := by
  show view.systemAt = some (view.resolve "/newroot")
  rw [mounted, View.resolve, if_pos outside]

omit mounted in
theorem after_chroot_chdir :
    (view.after (.chroot "/newroot") (0 : Int32)).after (.chdir "/") (0 : Int32) =
      view.inside := by
  simp [View.after, View.resolve, View.inside, outside]

theorem meets_umount2 {target : String} {next : Unit → Program Label}
    (other : target ≠ "/newroot")
    (later : Meets (next ()) Inv (view.detach target)) :
    Meets (ignore (.umount2 target [.detach]) >>= next) Inv view := by
  refine meets_act_ignore trivial fun rc _ => ?_
  have moved : view.after (.umount2 target [.detach]) rc = view.detach target := by
    simp [View.after, View.detach, View.resolve, mounted, outside, other.symm]
  rw [moved]
  exact later

end Outside

/-- The child enters the system, and has nothing open when it turns into `logcat`. -/
theorem meets_runLogcatLogger (child : view.child = true) (closed : view.held = [])
    (prepared : view.Prepared) : Meets runLogcatLogger Inv view := by
  refine meets_act (allows_chroot prepared.mounted prepared.outside) fun rooted _ => ?_
  split
  next => exact meets_exit 1 (by rw [after_chroot_child, child])
  next entered =>
    obtain rfl := not_not.mp entered
    refine meets_act trivial fun there _ => ?_
    split
    next => exact meets_exit 1 (by rw [after_chdir_child, after_chroot_child, child])
    next atRoot =>
      obtain rfl := not_not.mp atRoot
      rw [after_chroot_chdir prepared.outside]
      refine meets_idle trivial fun _ => meets_act ?_ fun _ _ => meets_exit 1 child
      exact ⟨closed, prepared.mounted, rfl, rfl, (if_pos child).mpr rfl⟩

theorem meets_reportFailure : Meets reportFailure Inv view := by
  refine meets_act trivial fun fd _ => ?_
  split
  next natural =>
    have held : fd ∈ opened fd view.held := mem_opened.mpr (.inl ⟨natural, rfl⟩)
    apply meets_logLine (.inl held) (by decide)
    exact meets_act_ignore trivial fun _ _ => trivial
  next => trivial

theorem meets_enterSystem (mounted : view.systemAt = some "/newroot")
    (outside : view.root = "/") :
    Meets enterSystem (fun view' rc => rc = 0 → view' = view.inside) view := by
  refine meets_act (allows_chroot mounted outside) fun rooted _ => ?_
  split
  next entered =>
    subst entered
    refine ⟨trivial, fun there _ atRoot => ?_⟩
    subst atRoot
    exact after_chroot_chdir outside
  next entered => exact fun entered' => absurd entered' entered

theorem meets_execInit {rc : Int32} (ready : rc = 0 → view.ReadyFor "/init") :
    Meets (execInit rc) Inv view := by
  rw [execInit]
  split
  next success => exact meets_act_ignore (ready success) fun _ _ => meets_reportFailure
  next => exact meets_reportFailure

/-- The bridge enters the system with nothing open, after it asked for its file systems to be
taken away. -/
theorem meets_handOver (parent : view.child = false) (closed : view.held = [])
    (prepared : view.Prepared) : Meets handOver Inv view := by
  obtain ⟨mounted, readOnly, outside, attached⟩ := prepared
  apply meets_mkdir
  apply meets_mkdir
  apply meets_mkdir
  apply meets_mkdir
  apply meets_mount (by decide) (by simp [mounted, View.resolve, outside])
  refine meets_umount2 (by exact mounted) (by exact outside) (by decide) ?_
  refine meets_umount2 (by exact mounted) (by exact outside) (by decide) ?_
  refine meets_umount2 (by exact mounted) (by exact outside) (by decide) ?_
  refine (meets_enterSystem (by exact mounted) (by exact outside)).bind fun rc view' entered =>
    meets_execInit fun success => ?_
  rw [entered success]
  refine ⟨closed, mounted, rfl, rfl, ?_⟩
  simp [View.inside, View.detach, parent, readOnly, attached]

theorem closed_others {fd kmsgFd kmsgLogFd : Int32} {held : List Int32}
    (others : ∀ other ∈ held, other = fd ∨ other = kmsgFd ∨ other = kmsgLogFd) :
    (((held.filter (· ≠ kmsgFd)).filter (· ≠ kmsgLogFd)).filter (· ≠ fd)) = [] := by
  apply List.filter_eq_nil_iff.mpr
  intro other here
  simp only [List.mem_filter, decide_eq_true_eq] at here
  obtain ⟨⟨held, notKmsg⟩, notLog⟩ := here
  have same := ((others other held).resolve_right fun either => either.elim notKmsg notLog)
  simp [same]

theorem meets_launch {fd kmsgFd kmsgLogFd : Int32} (loaded : Loaded fd kmsgFd kmsgLogFd view)
    (drained : Int32) : Meets (launch fd kmsgFd kmsgLogFd drained) Inv view := by
  refine meets_logLine (.inl loaded.log) (by decide) ?_
  refine meets_act trivial fun pid _ => ?_
  refine meets_logLine (.inl loaded.log) (by decide) ?_
  split
  next forked =>
    subst forked
    have child : (view.child || (0 : Int32) == 0) = true := Bool.or_true _
    have kept : ∀ {other : Int32}, other ≠ fd → (0 ≤ other → other ∈ view.held) →
        0 ≤ other → other ∈ view.held.filter (· ≠ fd) := by
      intro other apart held natural
      exact List.mem_filter.mpr ⟨held natural, decide_eq_true apart⟩
    refine meets_act_ignore trivial fun _ _ => ⟨child, ?_, ?_⟩
    · exact uses_negative child (kept loaded.kmsgApart loaded.kmsg)
    · exact uses_negative child (kept loaded.kmsgLogApart loaded.kmsgLog)
  next parent =>
    have log : fd ∈ (view.held.filter (· ≠ kmsgFd)).filter (· ≠ kmsgLogFd) := by
      simp [loaded.log, loaded.kmsgApart.symm, loaded.kmsgLogApart.symm]
    have alone := closed_others loaded.others
    have still : (view.child || pid == 0) = false := by
      rw [loaded.parent, Bool.false_or]
      exact beq_eq_false_iff_ne.mpr parent
    refine meets_act_ignore trivial fun _ _ => meets_act_ignore trivial fun _ _ => ?_
    refine meets_act trivial fun pid' _ => ?_
    refine meets_logLine (.inl log) (by decide) ?_
    split
    next forked =>
      subst forked
      refine meets_act_ignore trivial fun _ _ => ?_
      exact meets_runLogcatLogger (Bool.or_true _) alone (loaded.prepared.of_same rfl rfl rfl rfl)
    next parent' =>
      have still' : (view.child || pid == 0 || pid' == 0) = false := by
        rw [still, Bool.false_or]
        exact beq_eq_false_iff_ne.mpr parent'
      refine meets_act_ignore trivial fun _ _ => ?_
      exact meets_handOver still' alone (loaded.prepared.of_same rfl rfl rfl rfl)

theorem meets_drain {fd kmsgFd kmsgLogFd : Int32} (loaded : Loaded fd kmsgFd kmsgLogFd view)
    (drained : Int32) : Meets (drain fd kmsgFd kmsgLogFd drained) Inv view := by
  rw [drain]
  split
  next opened =>
    refine meets_act (.inl (loaded.kmsg opened)) fun drainCount _ => ?_
    split
    · exact loaded
    · exact meets_launch loaded drained
  next => exact meets_launch loaded drained

theorem meets_prepare :
    Meets prepare (fun view out =>
      0 ≤ out.2.2 → view = { View.initial with held := [out.2.2] }) .initial := by
  have unmounted (target : String) :
      View.initial.systemAt ≠ some (View.initial.resolve target) := Option.some_ne_none _ |>.symm
  apply meets_mkdir
  apply meets_mkdir
  apply meets_mkdir
  apply meets_mount (by decide) (unmounted _)
  apply meets_mount (by decide) (unmounted _)
  apply meets_mount (by decide) (unmounted _)
  refine meets_ignore (by trivial) ?_
  refine meets_ignore (by trivial) ?_
  apply meets_mkdir
  refine (keeps_mountUserdata rfl 60 0 (-1)).bind fun mounted => ?_
  exact meets_act trivial fun fd _ natural => congrArg (View.mk _ · _ _ _ _ _) (if_pos natural)

/-- The partition is asked to become writable and then, whatever came of it, read-only. -/
theorem meets_makeMountPoints {fd : Int32} (uses : view.Uses fd)
    (mounted : view.systemAt = some "/newroot") (outside : view.root = "/") :
    Meets (makeMountPoints fd) (fun view' _ => view' = { view with readOnlyAsked := true })
      view := by
  have here : view.systemAt = some (view.resolve "/newroot") := by
    rw [mounted, View.resolve, if_pos outside]
  refine meets_act trivial fun rc _ => ?_
  rw [after_remount here (by decide)]
  refine meets_logLine ?_ (by decide) ?_
  · exact uses
  apply meets_mkdir
  apply meets_mkdir
  apply meets_mkdir
  apply meets_mkdir
  apply meets_mkdir
  apply meets_mkdir
  apply meets_mkdir
  apply meets_mkdir
  refine meets_act trivial fun rc _ => ?_
  rw [after_remount (by exact here) (by decide)]
  exact keeps_logLine uses (by decide)

theorem meets_openKernelLog {fd : Int32} (parent : view.child = false) (held : view.held = [fd])
    (prepared : view.Prepared) : Meets (openKernelLog fd) Inv view := by
  refine meets_act trivial fun kmsgFd apart => meets_act trivial fun kmsgLogFd apart' => ?_
  have first : fd ∈ view.held := by
    rw [held]
    exact List.mem_singleton_self fd
  have second : fd ∈ opened kmsgFd view.held := mem_opened.mpr (.inr first)
  have log : fd ∈ opened kmsgLogFd (opened kmsgFd view.held) := mem_opened.mpr (.inr second)
  apply meets_logLine (.inl log) (by decide)
  apply meets_logLine (.inl log) (by decide)
  exact
    { parent, log
      prepared := prepared.of_same rfl rfl rfl rfl
      kmsg := fun natural => mem_opened.mpr (.inr (mem_opened.mpr (.inl ⟨natural, rfl⟩)))
      kmsgLog := fun natural => mem_opened.mpr (.inl ⟨natural, rfl⟩)
      kmsgApart := fun same => apart (same ▸ first)
      kmsgLogApart := fun same => apart' (same ▸ second)
      others := by
        intro other here
        rcases mem_opened.mp here with ⟨_, same⟩ | here
        · exact .inr (.inr same)
        · rcases mem_opened.mp here with ⟨_, same⟩ | here
          · exact .inr (.inl same)
          · rw [held] at here
            exact .inl (List.mem_singleton.mp here) }

theorem meets_mountSystem {fd : Int32} :
    Meets (mountSystem fd) Inv { View.initial with held := [fd] } := by
  have uses : ∀ view : View, view.held = [fd] → view.Uses fd := by
    intro view held
    left
    rw [held]
    exact List.mem_singleton_self fd
  apply meets_mkdir
  refine meets_act trivial fun rc _ => ?_
  by_cases success : rc = 0
  · subst success
    apply meets_logLine (uses _ rfl) (by decide)
    rw [if_neg (not_not_intro rfl)]
    refine (meets_makeMountPoints (uses _ rfl) rfl rfl).bind ?_
    rintro ⟨⟩ view' rfl
    exact meets_openKernelLog rfl rfl ⟨rfl, rfl, rfl, rfl⟩
  · have nothing : View.after { View.initial with held := [fd] }
        (.mount (some "/dev/mmcblk0p39") "/newroot" (some "ext4") []) rc =
          { View.initial with held := [fd] } := if_neg fun both => success both.2
    rw [nothing]
    apply meets_logLine (uses _ rfl) (by decide)
    rw [if_pos success]
    trivial

theorem meets_start : Meets start Inv .initial := by
  refine meets_prepare.bind fun out view prepared => ?_
  obtain ⟨rc, i, fd⟩ := out
  dsimp only
  split
  next => trivial
  next opened =>
    have held := prepared (Int32.not_lt.mp opened)
    have uses : view.Uses fd := by
      left
      rw [held]
      exact List.mem_singleton_self fd
    apply meets_logLine uses (by decide)
    apply meets_logLine uses (by decide)
    rw [held]
    exact meets_mountSystem

theorem meets_code (label : Label) (view : View) (inv : Inv view label) :
    Meets (code label) Inv view := by
  cases label with
  | start =>
      cases inv
      exact meets_start
  | pause => exact meets_ignore trivial trivial
  | drain fd kmsgFd kmsgLogFd drained => exact meets_drain inv drained
  | kmsgLogger input output => exact meets_runKmsgLogger inv.1 inv.2.1 inv.2.2

end Blocks

/-! ## Every run -/

abbrev Process : Type := Config Call Answer Label View

def boot : Process := ⟨.ret .start, .initial⟩

/-- Whatever the kernel answers and wherever it forks: `init` and `logcat` are executed inside
the mounted system and with nothing of the bridge open, `init` by the first process only and
after the bridge asked for its file systems to be taken away; no process reads or writes what
it does not hold, or past its buffer; and only a child exits. -/
theorem every_call_allowed {process : Process} (runs : Runs environment code boot process) :
    process.Guarded View.Allows := by
  have start : Meets boot.rest Inv boot.state := (rfl : View.initial = .initial)
  exact Runs.guarded meets_code start runs

def willing (view : View) : (op : Call) → Option (Answer op)
  | .open _ _ _ =>
      let fd := Int32.ofNat (view.held.length + 3)
      if fd ∈ view.held then none else some fd
  | .read _ _ => some none
  | .strerror _ => some (CString.ascii "Success")
  | .fork => some (1 : Int32)
  | .execl _ _ => none
  | .exit _ => none
  | .mkdir _ _ | .mknod _ _ _ _ | .mount _ _ _ _ | .umount2 _ _ | .close _ | .write _ _ _
  | .fsync _ | .chroot _ | .chdir _ | .sleep _ | .usleep _ | .pause | .errno => some (0 : Int32)

theorem willing_answers (view : View) (op : Call) (answer : Answer op)
    (answered : willing view op = some answer) : view.Answers op answer := by
  cases op with
  | «open» path flags mode =>
      simp only [willing] at answered
      split at answered
      next => cases answered
      next fresh =>
        cases answered
        exact fresh
  | strerror errnum =>
      cases answered
      exact (by decide : (CString.ascii "Success").length ≤ 186)
  | _ => trivial

def bootedProcess : Process := follow environment code willing 120 boot

theorem bootedProcess_allowed :
    bootedProcess.nextOp = some (.execl "/init" ["init"]) ∧
      bootedProcess.Guarded View.Allows :=
  ⟨by decide +kernel, every_call_allowed (runs_follow willing_answers 120 boot)⟩

end Mt6757.Rootdir.BootBridge
