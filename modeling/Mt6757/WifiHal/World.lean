import Mt6757.Lib.KeyedList
import Mt6757.Lib.RelyGuarantee
import Mt6757.WifiHal.Registry

/-!
# The state of the HAL and its atomic operations

The tables, the command objects with their manual reference counts, and a record
of what has happened.  `HalOp` lists what the API thread and the event thread do:
a section under `cb_lock`, a call into the driver, or one access to an object.  The
two functions that change the command table take no lock; here each is one
operation, and `CommandTable` takes them apart.
-/

set_option autoImplicit false

namespace Mt6757.WifiHal

open CommandTree

/-- The subclasses of `WifiCommand` that subscribe to vendor events. -/
inductive CommandType where
  | scan
  | fullScanResults
  | bssidHotlist
  | ePNO
  | significantWifiChange
  | setRSSIMonitor
  | rtt
  | anqpoConfigure
  deriving DecidableEq, Repr

inductive VendorEvent where
  | significantChangeResults
  | hotlistResultsFound
  | scanResultsAvailable
  | fullScanResults
  | rttEventComplete
  | completeScan
  | hotlistResultsLost
  | rssiMonitor
  | epnoEvent
  | anqpoHotspotMatch
  deriving DecidableEq, Repr

/-- The numbering of `WIFI_VENDOR_EVENT`. -/
def VendorEvent.subcmd : VendorEvent → Int32
  | .significantChangeResults => 0
  | .hotlistResultsFound => 1
  | .scanResultsAvailable => 2
  | .fullScanResults => 3
  | .rttEventComplete => 4
  | .completeScan => 5
  | .hotlistResultsLost => 6
  | .rssiMonitor => 7
  | .epnoEvent => 8
  | .anqpoHotspotMatch => 9

theorem VendorEvent.subcmd_injective {event event' : VendorEvent}
    (same : event.subcmd = event'.subcmd) : event = event' := by
  cases event <;> cases event' <;> first | rfl | exact absurd same (by decide)

/-! ## The entries of the HAL's own events -/

/-- The entry `registerVendorHandler` stores. -/
def vendorEntry (event : VendorEvent) (this : Ptr) : CbInfo :=
  ⟨nl80211CmdVendor, googleOui, event.subcmd, some eventHandler, some this⟩

/-- The entries of one of the HAL's own events. -/
def isEventEntry (event : VendorEvent) (entry : CbInfo) : Bool :=
  isVendorEntry googleOui event.subcmd entry

@[simp] theorem isEventEntry_vendorEntry (event event' : VendorEvent) (this : Ptr) :
    isEventEntry event (vendorEntry event' this) = decide (event' = event) := by
  by_cases same : event' = event
  · subst same
    simp [isEventEntry, isVendorEntry, vendorEntry]
  · have otherSubcmd : event'.subcmd ≠ event.subcmd :=
      fun subcmds => same (VendorEvent.subcmd_injective subcmds)
    simp [isEventEntry, isVendorEntry, vendorEntry, same, otherSubcmd]

theorem isEventEntry_exclusive : KeyedList.Exclusive isEventEntry := by
  intro event event' entry here here'
  simp only [isEventEntry, isVendorEntry, Bool.and_eq_true, beq_iff_eq] at here here'
  exact VendorEvent.subcmd_injective (here.2.symm.trans here'.2)

/-- The messages that the commands build and exchange with the driver. -/
inductive Request where
  | scanSetup
  | scanConfig
  | enableGscan (enable : Bool)
  | enableFullScanResults (enable : Bool)
  | hotlistSetup
  | hotlistTeardown
  | epnoSetup
  | epnoTeardown
  | significantChangeSetup
  | significantChangeTeardown
  | rssiMonitor (enable : Bool)
  | rttSetup
  | rttTeardown
  | anqpoConfig (configure : Bool)
  deriving DecidableEq, Repr

/-- The part of a command object that outlives its calls. -/
structure WifiCommand where
  mType : CommandType
  mId : Int32
  mRefs : Int
  deleted : Bool
  rtt : RttState

inductive Thread where
  | api
  | event
  deriving DecidableEq, Repr

/-- What is recorded of a run. -/
inductive Observation where
  | registered (event : VendorEvent) (cmd : Ptr)
  | acknowledged (cmd : Ptr) (request : Request)
  | cancelled (cmd : Ptr)
  | completed (cmd : Ptr)
  | released (thread : Thread) (cmd : Ptr)
  | cleanupBegan
  | usedAfterDelete (cmd : Ptr)
  deriving DecidableEq, Repr

/-- `info` and `heap` are the program's state and `next` is the next identity.
The rest is history: the references each thread holds for the call it is in, the
requests that were registered and not yet ended, how often the loop of
`wifi_cleanup` has read the command table, and the record. -/
structure World where
  info : HalInfo
  heap : Ptr → WifiCommand
  next : Ptr
  held : Thread → List Ptr
  outstanding : List (CommandType × Int32)
  reads : Nat
  log : List Observation

/-- The answers of allocation and of the driver.  No request returns a positive
number (`CommandSocket.requestResponse_nonpos`), and the functions that build
one return zero or the error of an attribute that did not fit. -/
structure Env where
  alloc : Bool
  create : Request → Int
  reply : Request → Int
  create_nonpos : ∀ request, create request ≤ 0
  reply_nonpos : ∀ request, reply request ≤ 0

/-- Memory is left and the driver rejects one request at most. -/
def Env.rejecting (rejected : Option Request) : Env where
  alloc := true
  create := fun _ => 0
  reply := fun request => if rejected = some request then -22 else 0
  create_nonpos := fun _ => Int.le_refl 0
  reply_nonpos := fun request => by split <;> decide

namespace World

def initial (eventFill : CbInfo) (cmdFill : CmdInfo) : World where
  info := .initial eventFill cmdFill defaultEventCbSize defaultCmdSize
  heap := fun _ => ⟨.scan, 0, 0, false, .fresh⟩
  next := 0
  held := fun _ => []
  outstanding := []
  reads := 0
  log := []

def note (world : World) (observation : Observation) : World :=
  { world with log := observation :: world.log }

/-- An access to an object, recorded when the object is gone. -/
def touch (world : World) (cmd : Ptr) : World :=
  if (world.heap cmd).deleted then world.note (.usedAfterDelete cmd) else world

def setCommand (world : World) (cmd : Ptr) (command : WifiCommand) : World :=
  { world with heap := Function.update world.heap cmd command }

def give (world : World) (t : Thread) (cmd : Ptr) : World :=
  { world with held := Function.update world.held t (cmd :: world.held t) }

def take (world : World) (t : Thread) (cmd : Ptr) : World :=
  { world with held := Function.update world.held t ((world.held t).erase cmd) }

/-- `new` and the constructor, which starts with one reference. -/
def newCommand (world : World) (t : Thread) (type : CommandType) (id : Int32) : World :=
  { (world.setCommand world.next ⟨type, id, 1, false, .fresh⟩).give t world.next with
    next := world.next + 1 }

def addRef (world : World) (t : Thread) (cmd : Ptr) : World :=
  let command := world.heap cmd
  ((world.touch cmd).setCommand cmd { command with mRefs := command.mRefs + 1 }).give t cmd

/-- The decrement, and `delete this` when it leaves zero. -/
def releaseRef (world : World) (t : Thread) (cmd : Ptr) : World :=
  let command := world.heap cmd
  (((world.touch cmd).setCommand cmd
    { command with
      mRefs := command.mRefs - 1
      deleted := command.deleted || command.mRefs - 1 == 0 }).take t cmd).note (.released t cmd)

end World

/-! ## Operations -/

/-- `this` is the command whose member function performs the operation.  The
`owner` of `wifiUnregisterCmd` is the command that gives up its own request id;
it is history, as is `ended`. -/
inductive HalOp where
  | newCommand (type : CommandType) (id : Int32)
  | createRequest (this : Ptr) (request : Request)
  | requestResponse (this : Ptr) (request : Request)
  | registerVendorHandler (this : Ptr) (event : VendorEvent)
  | unregisterVendorHandler (this : Ptr) (event : VendorEvent)
  | wifiRegisterCmd (id : Int32) (cmd : Ptr)
  | wifiUnregisterCmd (owner : Option Ptr) (id : Int32)
  | cancel (this : Ptr)
  | findAndAddRef (msg : NlMsg)
  | handleEvent (this : Ptr)
  | handleAttrs (this : Ptr) (attrs : List RttAttr)
  | clearResults (this : Ptr)
  | id (this : Ptr)
  | releaseRef (this : Ptr)
  | beginCleanup
  | numCmd
  | cmdAt (index : Nat)
  | ended (type : CommandType) (id : Int32)

abbrev Res : HalOp → Type
  | .newCommand _ _ => Option Ptr
  | .createRequest _ _ => Int
  | .requestResponse _ _ => Int
  | .registerVendorHandler _ _ => WifiError
  | .unregisterVendorHandler _ _ => Unit
  | .wifiRegisterCmd _ _ => WifiError
  | .wifiUnregisterCmd _ _ => Option Ptr
  | .cancel _ => CommandType
  | .findAndAddRef _ => Option CbInfo
  | .handleEvent _ => CommandType
  | .handleAttrs _ _ => Bool
  | .clearResults _ => Unit
  | .id _ => Int32
  | .releaseRef _ => Unit
  | .beginCleanup => Unit
  | .numCmd => Nat
  | .cmdAt _ => Ptr
  | .ended _ _ => Unit

abbrev Hal (α : Type) : Type := Prog HalOp Res α

abbrev perform (op : HalOp) : Hal (Res op) := Prog.perform op

namespace World

def setInfo (world : World) (info : HalInfo) : World := { world with info := info }

def withdraw (world : World) (type : CommandType) (id : Int32) : World :=
  { world with outstanding := world.outstanding.filter fun request => request != (type, id) }

/-- The registration of a command hands its first reference to the table. -/
def registerCmd (world : World) (t : Thread) (id : Int32) (cmd : Ptr) : World :=
  if (wifiRegisterCmd world.info id cmd).1 = wifiSuccess then
    { (world.take t cmd).setInfo (wifiRegisterCmd world.info id cmd).2 with
      outstanding := ((world.heap cmd).mType, id) :: world.outstanding }
  else world

/-- The thread that removes an entry gets its reference, and a command that
gives up its id is no longer requested. -/
def unregisterCmd (world : World) (t : Thread) (owner : Option Ptr) (id : Int32) : World :=
  let removed := world.setInfo (wifiUnregisterCmd world.info id).2
  let received := match (wifiUnregisterCmd world.info id).1 with
    | none => removed
    | some cmd => removed.give t cmd
  match owner with
  | none => received
  | some this => received.withdraw (world.heap this).mType id

def registerVendorHandler (world : World) (this : Ptr) (event : VendorEvent) : World :=
  (world.setInfo (wifiRegisterVendorHandler world.info googleOui event.subcmd
    (some eventHandler) (some this)).2).note (.registered event this)

def unregisterVendorHandler (world : World) (event : VendorEvent) : World :=
  world.setInfo (wifiUnregisterVendorHandler world.info googleOui event.subcmd)

/-- The locked section of `internal_valid_message_handler`. -/
def findAndAddRef (world : World) (t : Thread) (msg : NlMsg) : World :=
  match findHandler world.info msg with
  | none => world
  | some entry =>
      match entry.cbArg with
      | none => world
      | some cmd => world.addRef t cmd

/-- The completion flag after an RTT event, and the event's results. -/
def handleAttrs (world : World) (this : Ptr) (attrs : List RttAttr) : Bool × World :=
  let command := world.heap this
  let rtt := command.rtt.handleAttrs attrs
  let handled := world.setCommand this { command with rtt := rtt }
  if rtt.mCompleted = 0 then (false, handled) else (true, handled.note (.completed this))

def clearResults (world : World) (this : Ptr) : World :=
  let command := world.heap this
  world.setCommand this { command with rtt := command.rtt.clear }

/-- `getType` of the command of every handler that is left. -/
def touchHandlers (world : World) : List CbInfo → World
  | [] => world
  | entry :: rest =>
      match entry.cbArg with
      | none => world.touchHandlers rest
      | some cmd => (world.touch cmd).touchHandlers rest

def countRead (world : World) : World := { world with reads := world.reads + 1 }

/-- The first loop of `wifi_cleanup`. -/
def beginCleanup (world : World) : World :=
  { (world.touchHandlers world.info.events).note .cleanupBegan with reads := 0 }

end World

def exec (t : Thread) (env : Env) : (op : HalOp) → World → Res op × World
  | .newCommand type id, world =>
      if env.alloc then (some world.next, world.newCommand t type id) else (none, world)
  | .createRequest _ request, world => (env.create request, world)
  | .requestResponse this request, world =>
      (env.reply request,
        if env.reply request = 0 then world.note (.acknowledged this request) else world)
  | .registerVendorHandler this event, world =>
      ((wifiRegisterVendorHandler world.info googleOui event.subcmd (some eventHandler)
        (some this)).1, world.registerVendorHandler this event)
  | .unregisterVendorHandler _ event, world => ((), world.unregisterVendorHandler event)
  | .wifiRegisterCmd id cmd, world =>
      ((wifiRegisterCmd world.info id cmd).1, world.registerCmd t id cmd)
  | .wifiUnregisterCmd owner id, world =>
      ((wifiUnregisterCmd world.info id).1, world.unregisterCmd t owner id)
  | .cancel this, world =>
      ((world.heap this).mType, (world.touch this).note (.cancelled this))
  | .findAndAddRef msg, world => (findHandler world.info msg, world.findAndAddRef t msg)
  | .handleEvent this, world => ((world.heap this).mType, world.touch this)
  | .handleAttrs this attrs, world => world.handleAttrs this attrs
  | .clearResults this, world => ((), world.clearResults this)
  | .id this, world => ((world.heap this).mId, world.touch this)
  | .releaseRef this, world => ((), world.releaseRef t this)
  | .beginCleanup, world => ((), world.beginCleanup)
  | .numCmd, world => (world.info.cmd.num, world.countRead)
  | .cmdAt index, world =>
      -- the loop is to release the reference of the entry it reads
      let cmd := (world.info.cmd.slot index).cmd
      (cmd, (world.countRead.touch cmd).give t cmd)
  | .ended type id, world => ((), world.withdraw type id)

/-! ## What the operations leave alone -/

namespace World

section Frames

variable (world : World) (t : Thread) (cmd : Ptr)

@[simp] theorem note_info (observation : Observation) :
    (world.note observation).info = world.info := rfl

@[simp] theorem note_heap (observation : Observation) :
    (world.note observation).heap = world.heap := rfl

@[simp] theorem note_next (observation : Observation) :
    (world.note observation).next = world.next := rfl

@[simp] theorem note_held (observation : Observation) :
    (world.note observation).held = world.held := rfl

@[simp] theorem note_outstanding (observation : Observation) :
    (world.note observation).outstanding = world.outstanding := rfl

@[simp] theorem note_log (observation : Observation) :
    (world.note observation).log = observation :: world.log := rfl

@[simp] theorem touch_info : (world.touch cmd).info = world.info := by
  unfold touch; split <;> rfl

@[simp] theorem touch_heap : (world.touch cmd).heap = world.heap := by
  unfold touch; split <;> rfl

@[simp] theorem touch_next : (world.touch cmd).next = world.next := by
  unfold touch; split <;> rfl

@[simp] theorem touch_held : (world.touch cmd).held = world.held := by
  unfold touch; split <;> rfl

@[simp] theorem touch_outstanding : (world.touch cmd).outstanding = world.outstanding := by
  unfold touch; split <;> rfl

@[simp] theorem touch_reads : (world.touch cmd).reads = world.reads := by
  unfold touch; split <;> rfl

theorem touch_of_not_deleted (alive : (world.heap cmd).deleted = false) :
    world.touch cmd = world := by
  simp [touch, alive]

@[simp] theorem setCommand_info (command : WifiCommand) :
    (world.setCommand cmd command).info = world.info := rfl

@[simp] theorem setCommand_heap (command : WifiCommand) :
    (world.setCommand cmd command).heap = Function.update world.heap cmd command := rfl

@[simp] theorem setCommand_next (command : WifiCommand) :
    (world.setCommand cmd command).next = world.next := rfl

@[simp] theorem setCommand_held (command : WifiCommand) :
    (world.setCommand cmd command).held = world.held := rfl

@[simp] theorem setCommand_outstanding (command : WifiCommand) :
    (world.setCommand cmd command).outstanding = world.outstanding := rfl

@[simp] theorem setCommand_log (command : WifiCommand) :
    (world.setCommand cmd command).log = world.log := rfl

@[simp] theorem give_info : (world.give t cmd).info = world.info := rfl

@[simp] theorem give_heap : (world.give t cmd).heap = world.heap := rfl

@[simp] theorem give_next : (world.give t cmd).next = world.next := rfl

@[simp] theorem give_held :
    (world.give t cmd).held = Function.update world.held t (cmd :: world.held t) := rfl

@[simp] theorem give_outstanding : (world.give t cmd).outstanding = world.outstanding := rfl

@[simp] theorem give_log : (world.give t cmd).log = world.log := rfl

@[simp] theorem take_info : (world.take t cmd).info = world.info := rfl

@[simp] theorem take_heap : (world.take t cmd).heap = world.heap := rfl

@[simp] theorem take_next : (world.take t cmd).next = world.next := rfl

@[simp] theorem take_held :
    (world.take t cmd).held = Function.update world.held t ((world.held t).erase cmd) := rfl

@[simp] theorem take_outstanding : (world.take t cmd).outstanding = world.outstanding := rfl

@[simp] theorem take_log : (world.take t cmd).log = world.log := rfl

@[simp] theorem setInfo_info (info : HalInfo) : (world.setInfo info).info = info := rfl

@[simp] theorem setInfo_heap (info : HalInfo) : (world.setInfo info).heap = world.heap := rfl

@[simp] theorem setInfo_next (info : HalInfo) : (world.setInfo info).next = world.next := rfl

@[simp] theorem setInfo_held (info : HalInfo) : (world.setInfo info).held = world.held := rfl

@[simp] theorem setInfo_outstanding (info : HalInfo) :
    (world.setInfo info).outstanding = world.outstanding := rfl

@[simp] theorem setInfo_log (info : HalInfo) : (world.setInfo info).log = world.log := rfl

@[simp] theorem withdraw_info (type : CommandType) (id : Int32) :
    (world.withdraw type id).info = world.info := rfl

@[simp] theorem withdraw_heap (type : CommandType) (id : Int32) :
    (world.withdraw type id).heap = world.heap := rfl

@[simp] theorem withdraw_next (type : CommandType) (id : Int32) :
    (world.withdraw type id).next = world.next := rfl

@[simp] theorem withdraw_held (type : CommandType) (id : Int32) :
    (world.withdraw type id).held = world.held := rfl

@[simp] theorem withdraw_log (type : CommandType) (id : Int32) :
    (world.withdraw type id).log = world.log := rfl

end Frames

/-! ## The tables after an operation -/

section Tables

variable (world : World) (t : Thread)

theorem registerVendorHandler_events (this : Ptr) (event : VendorEvent) :
    (world.registerVendorHandler this event).info.events =
      if world.info.events.length < world.info.eventCb.alloc then
        world.info.events ++ [vendorEntry event this]
      else world.info.events :=
  addEventCb_events world.info (vendorEntry event this)

@[simp] theorem registerVendorHandler_cmd (this : Ptr) (event : VendorEvent) :
    (world.registerVendorHandler this event).info.cmd = world.info.cmd :=
  addEventCb_cmd world.info (vendorEntry event this)

@[simp] theorem registerVendorHandler_cmds (this : Ptr) (event : VendorEvent) :
    (world.registerVendorHandler this event).info.cmds = world.info.cmds := by
  unfold HalInfo.cmds
  rw [registerVendorHandler_cmd]

@[simp] theorem registerVendorHandler_alloc (this : Ptr) (event : VendorEvent) :
    (world.registerVendorHandler this event).info.eventCb.alloc = world.info.eventCb.alloc :=
  addEventCb_alloc world.info (vendorEntry event this)

@[simp] theorem unregisterVendorHandler_events (event : VendorEvent) :
    (world.unregisterVendorHandler event).info.events =
      world.info.events.eraseP (isEventEntry event) :=
  wifiUnregisterVendorHandler_events world.info googleOui event.subcmd

@[simp] theorem unregisterVendorHandler_cmd (event : VendorEvent) :
    (world.unregisterVendorHandler event).info.cmd = world.info.cmd := rfl

@[simp] theorem unregisterVendorHandler_cmds (event : VendorEvent) :
    (world.unregisterVendorHandler event).info.cmds = world.info.cmds := rfl

@[simp] theorem unregisterVendorHandler_alloc (event : VendorEvent) :
    (world.unregisterVendorHandler event).info.eventCb.alloc = world.info.eventCb.alloc :=
  wifiUnregisterVendorHandler_alloc world.info googleOui event.subcmd

theorem registerCmd_of_room (id : Int32) (cmd : Ptr)
    (room : world.info.cmds.length < world.info.cmd.alloc) :
    (wifiRegisterCmd world.info id cmd).1 = wifiSuccess ∧
      (world.registerCmd t id cmd).info.cmds = world.info.cmds ++ [⟨id, cmd⟩] ∧
      (world.registerCmd t id cmd).info.eventCb = world.info.eventCb ∧
      (world.registerCmd t id cmd).info.cmd.alloc = world.info.cmd.alloc ∧
      world.registerCmd t id cmd =
        { (world.take t cmd).setInfo (wifiRegisterCmd world.info id cmd).2 with
          outstanding := ((world.heap cmd).mType, id) :: world.outstanding } := by
  rcases wifiRegisterCmd_spec world.info id cmd with
    ⟨_, success, cmds, alloc, eventCb⟩ | ⟨full, _⟩
  · have registered : world.registerCmd t id cmd =
        { (world.take t cmd).setInfo (wifiRegisterCmd world.info id cmd).2 with
          outstanding := ((world.heap cmd).mType, id) :: world.outstanding } := by
      unfold registerCmd
      rw [if_pos success]
    refine ⟨success, ?_, ?_, ?_, registered⟩ <;> rw [registered] <;> assumption
  · omega

theorem registerCmd_of_full (id : Int32) (cmd : Ptr)
    (full : ¬ world.info.cmds.length < world.info.cmd.alloc) :
    (wifiRegisterCmd world.info id cmd).1 = wifiErrorOutOfMemory ∧
      world.registerCmd t id cmd = world := by
  rcases wifiRegisterCmd_spec world.info id cmd with ⟨room, _⟩ | ⟨_, failed⟩
  · exact absurd room full
  · refine ⟨by rw [failed], ?_⟩
    unfold registerCmd
    rw [failed]
    exact if_neg (by simp [wifiErrorOutOfMemory, wifiSuccess])

@[simp] theorem unregisterCmd_info (owner : Option Ptr) (id : Int32) :
    (world.unregisterCmd t owner id).info = (wifiUnregisterCmd world.info id).2 := by
  unfold unregisterCmd
  cases owner <;> cases (wifiUnregisterCmd world.info id).1 <;> rfl

theorem unregisterCmd_events (owner : Option Ptr) (id : Int32) :
    (world.unregisterCmd t owner id).info.events = world.info.events := by
  rw [unregisterCmd_info]
  rfl

theorem unregisterCmd_cmds (owner : Option Ptr) (id : Int32) :
    (world.unregisterCmd t owner id).info.cmds =
      world.info.cmds.eraseP (CmdInfo.id · == id) := by
  rw [unregisterCmd_info, wifiUnregisterCmd_cmds]

@[simp] theorem unregisterCmd_heap (owner : Option Ptr) (id : Int32) :
    (world.unregisterCmd t owner id).heap = world.heap := by
  unfold unregisterCmd
  cases owner <;> cases (wifiUnregisterCmd world.info id).1 <;> rfl

@[simp] theorem unregisterCmd_next (owner : Option Ptr) (id : Int32) :
    (world.unregisterCmd t owner id).next = world.next := by
  unfold unregisterCmd
  cases owner <;> cases (wifiUnregisterCmd world.info id).1 <;> rfl

@[simp] theorem unregisterCmd_log (owner : Option Ptr) (id : Int32) :
    (world.unregisterCmd t owner id).log = world.log := by
  unfold unregisterCmd
  cases owner <;> cases (wifiUnregisterCmd world.info id).1 <;> rfl

@[simp] theorem unregisterCmd_reads (owner : Option Ptr) (id : Int32) :
    (world.unregisterCmd t owner id).reads = world.reads := by
  unfold unregisterCmd
  cases owner <;> cases (wifiUnregisterCmd world.info id).1 <;> rfl

theorem unregisterCmd_held (owner : Option Ptr) (id : Int32) :
    (world.unregisterCmd t owner id).held =
      match (wifiUnregisterCmd world.info id).1 with
      | none => world.held
      | some cmd => Function.update world.held t (cmd :: world.held t) := by
  unfold unregisterCmd
  cases owner <;> cases (wifiUnregisterCmd world.info id).1 <;> rfl

@[simp] theorem addRef_info (cmd : Ptr) : (world.addRef t cmd).info = world.info := by
  simp [addRef]

@[simp] theorem addRef_reads (cmd : Ptr) : (world.addRef t cmd).reads = world.reads :=
  touch_reads world cmd

theorem addRef_heap (cmd : Ptr) :
    (world.addRef t cmd).heap = Function.update world.heap cmd
      { world.heap cmd with mRefs := (world.heap cmd).mRefs + 1 } := by
  simp [addRef]

@[simp] theorem addRef_next (cmd : Ptr) : (world.addRef t cmd).next = world.next := by
  simp [addRef]

@[simp] theorem addRef_outstanding (cmd : Ptr) :
    (world.addRef t cmd).outstanding = world.outstanding := by
  simp [addRef]

@[simp] theorem releaseRef_info (cmd : Ptr) : (world.releaseRef t cmd).info = world.info := by
  simp [releaseRef]

@[simp] theorem releaseRef_reads (cmd : Ptr) : (world.releaseRef t cmd).reads = world.reads :=
  touch_reads world cmd

theorem releaseRef_heap (cmd : Ptr) :
    (world.releaseRef t cmd).heap = Function.update world.heap cmd
      { world.heap cmd with
        mRefs := (world.heap cmd).mRefs - 1
        deleted := (world.heap cmd).deleted || (world.heap cmd).mRefs - 1 == 0 } := by
  simp [releaseRef]

@[simp] theorem releaseRef_next (cmd : Ptr) : (world.releaseRef t cmd).next = world.next := by
  simp [releaseRef]

@[simp] theorem releaseRef_outstanding (cmd : Ptr) :
    (world.releaseRef t cmd).outstanding = world.outstanding := by
  simp [releaseRef]

@[simp] theorem findAndAddRef_info (msg : NlMsg) :
    (world.findAndAddRef t msg).info = world.info := by
  unfold findAndAddRef
  split
  · rfl
  · split <;> simp

@[simp] theorem findAndAddRef_next (msg : NlMsg) :
    (world.findAndAddRef t msg).next = world.next := by
  unfold findAndAddRef
  split
  · rfl
  · split <;> simp

@[simp] theorem findAndAddRef_outstanding (msg : NlMsg) :
    (world.findAndAddRef t msg).outstanding = world.outstanding := by
  unfold findAndAddRef
  split
  · rfl
  · split <;> simp

/-- A preorder that every single read keeps to is kept to by the reads of all handlers. -/
theorem touchHandlers_of_touch {R : World → World → Prop} (refl : ∀ world, R world world)
    (trans : ∀ {world world' world'' : World}, R world world' → R world' world'' →
      R world world'')
    (touched : ∀ world cmd, R world (world.touch cmd)) (entries : List CbInfo) :
    ∀ world : World, R world (world.touchHandlers entries) := by
  induction entries with
  | nil => exact refl
  | cons entry rest ih =>
      intro world
      unfold touchHandlers
      split
      · exact ih world
      · exact trans (touched world _) (ih _)

theorem touchHandlers_eq (entries : List CbInfo) :
    world.touchHandlers entries = { world with log := (world.touchHandlers entries).log } := by
  refine touchHandlers_of_touch (R := fun world world' => world' = { world with log := world'.log })
    (fun _ => rfl) (fun first second => ?_) (fun world cmd => ?_) entries world
  · rw [second, first]
  · unfold touch
    split <;> rfl

@[simp] theorem countRead_info : world.countRead.info = world.info := rfl

@[simp] theorem countRead_next : world.countRead.next = world.next := rfl

@[simp] theorem countRead_outstanding : world.countRead.outstanding = world.outstanding := rfl

@[simp] theorem beginCleanup_info : world.beginCleanup.info = world.info := by
  rw [beginCleanup, touchHandlers_eq]
  rfl

@[simp] theorem beginCleanup_next : world.beginCleanup.next = world.next := by
  rw [beginCleanup, touchHandlers_eq]
  rfl

@[simp] theorem beginCleanup_outstanding :
    world.beginCleanup.outstanding = world.outstanding := by
  rw [beginCleanup, touchHandlers_eq]
  rfl

@[simp] theorem handleAttrs_info (cmd : Ptr) (attrs : List RttAttr) :
    (world.handleAttrs cmd attrs).2.info = world.info := by
  unfold handleAttrs
  dsimp only
  split <;> rfl

@[simp] theorem handleAttrs_next (cmd : Ptr) (attrs : List RttAttr) :
    (world.handleAttrs cmd attrs).2.next = world.next := by
  unfold handleAttrs
  dsimp only
  split <;> rfl

@[simp] theorem handleAttrs_outstanding (cmd : Ptr) (attrs : List RttAttr) :
    (world.handleAttrs cmd attrs).2.outstanding = world.outstanding := by
  unfold handleAttrs
  dsimp only
  split <;> rfl

end Tables

end World

theorem exec_newCommand {t : Thread} {env : Env} {type : CommandType} {id : Int32}
    {world world' : World} {cmd : Ptr}
    (created : exec t env (.newCommand type id) world = (some cmd, world')) :
    cmd = world.next ∧ world' = world.newCommand t type id := by
  simp only [exec] at created
  split at created
  · obtain ⟨same, rfl⟩ := Prod.mk.inj created
    exact ⟨(Option.some.inj same).symm, rfl⟩
  · simp at created

end Mt6757.WifiHal
