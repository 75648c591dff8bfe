import Mt6757.Lib.CompactArray
import Mt6757.WifiHal.RttResults

/-!
# The event and command tables of the Wi-Fi HAL

`hal_info` as far as its two tables go, and the functions of `common.cpp` that
add, find and remove entries.  Both tables are compact arrays; `event_cb` is
searched by event key and `cmd` by request id.
-/

set_option autoImplicit false

namespace Mt6757.WifiHal

/-- The identity of a C++ object.  Identities are not used again. -/
abbrev Ptr := Nat

abbrev FnPtr := Nat

/-- `&WifiCommand::event_handler`, the callback of every command. -/
def eventHandler : FnPtr := 1

/-! ## Error codes -/

abbrev WifiError := Int

def wifiSuccess : WifiError := 0
def wifiErrorInvalidArgs : WifiError := -5
def wifiErrorOutOfMemory : WifiError := -9

def nlOk : Int := 0
def nlSkip : Int := 1

/-- `NL80211_CMD_VENDOR` of the kernel header. -/
def nl80211CmdVendor : Int32 := 103

def googleOui : UInt32 := 0x001A11

def defaultEventCbSize : Nat := 64
def defaultCmdSize : Nat := 64

/-! ## The tables -/

structure CbInfo where
  nlCmd : Int32
  vendorId : UInt32
  vendorSubcmd : Int32
  cbFunc : Option FnPtr
  cbArg : Option Ptr
  deriving DecidableEq, Repr

structure CmdInfo where
  id : Int32
  cmd : Ptr
  deriving DecidableEq, Repr

structure HalInfo where
  eventCb : CompactArray CbInfo
  cmd : CompactArray CmdInfo

namespace HalInfo

/-- The tables as `wifi_initialize` leaves them; fresh memory holds anything. -/
def initial (eventFill : CbInfo) (cmdFill : CmdInfo) (allocEventCb allocCmd : Nat) : HalInfo :=
  ⟨.empty eventFill allocEventCb, .empty cmdFill allocCmd⟩

def events (info : HalInfo) : List CbInfo := info.eventCb.toList

def cmds (info : HalInfo) : List CmdInfo := info.cmd.toList

end HalInfo

def addEventCb (info : HalInfo) (entry : CbInfo) : WifiError × HalInfo :=
  match info.eventCb.push entry with
  | some eventCb => (wifiSuccess, { info with eventCb := eventCb })
  | none => (wifiErrorOutOfMemory, info)

def wifiRegisterHandler (info : HalInfo) (cmd : Int32) (func : Option FnPtr)
    (arg : Option Ptr) : WifiError × HalInfo :=
  addEventCb info ⟨cmd, 0, 0, func, arg⟩

def wifiRegisterVendorHandler (info : HalInfo) (id : UInt32) (subcmd : Int32)
    (func : Option FnPtr) (arg : Option Ptr) : WifiError × HalInfo :=
  addEventCb info ⟨nl80211CmdVendor, id, subcmd, func, arg⟩

def wifiUnregisterHandler (info : HalInfo) (cmd : Int32) : HalInfo :=
  if cmd = nl80211CmdVendor then info
  else { info with eventCb := info.eventCb.removeFirst fun entry => entry.nlCmd == cmd }

def isVendorEntry (id : UInt32) (subcmd : Int32) (entry : CbInfo) : Bool :=
  entry.nlCmd == nl80211CmdVendor && entry.vendorId == id && entry.vendorSubcmd == subcmd

def wifiUnregisterVendorHandler (info : HalInfo) (id : UInt32) (subcmd : Int32) : HalInfo :=
  { info with eventCb := info.eventCb.removeFirst (isVendorEntry id subcmd) }

def wifiRegisterCmd (info : HalInfo) (id : Int32) (cmd : Ptr) : WifiError × HalInfo :=
  match info.cmd.push ⟨id, cmd⟩ with
  | some table => (wifiSuccess, { info with cmd := table })
  | none => (wifiErrorOutOfMemory, info)

/-- The overload that takes a request id. -/
def wifiUnregisterCmd (info : HalInfo) (id : Int32) : Option Ptr × HalInfo :=
  ((info.cmd.findFirst fun entry => entry.id == id).map CmdInfo.cmd,
    { info with cmd := info.cmd.removeFirst fun entry => entry.id == id })

/-! ## Incoming messages -/

/-- A netlink message as `WifiEvent` sees it: the result of `nla_parse`, the
command of the header, the two vendor attributes when present, and the vendor
data walked by the RTT handler. -/
structure NlMsg where
  parsed : Int
  cmd : UInt8
  vendorId : Option UInt32
  vendorSubcmd : Option UInt32
  vendorData : List RttAttr

namespace NlMsg

def getCmd (msg : NlMsg) : Int32 := Int32.ofNat msg.cmd.toNat

/-- `WifiEvent::get_u32`: zero for an attribute that is not there. -/
def getU32 (attr : Option UInt32) : UInt32 := attr.getD 0

def dispatchVendorId (msg : NlMsg) : UInt32 :=
  if msg.getCmd = nl80211CmdVendor then getU32 msg.vendorId else 0

def dispatchSubcmd (msg : NlMsg) : Int32 :=
  if msg.getCmd = nl80211CmdVendor then (getU32 msg.vendorSubcmd).toInt32 else 0

/-- The tests of the loop in `internal_valid_message_handler`. -/
def isFor (msg : NlMsg) (entry : CbInfo) : Bool :=
  msg.getCmd == entry.nlCmd &&
    !(msg.getCmd == nl80211CmdVendor &&
      (msg.dispatchVendorId != entry.vendorId || msg.dispatchSubcmd != entry.vendorSubcmd))

end NlMsg

/-- The entry the loop of `internal_valid_message_handler` stops at. -/
def findHandler (info : HalInfo) (msg : NlMsg) : Option CbInfo :=
  info.eventCb.findFirst msg.isFor

/-- What `internal_valid_message_handler` returns and the callbacks it calls, in order. -/
def internalValidMessageCalls (info : HalInfo) (msg : NlMsg) :
    Int × List (FnPtr × Option Ptr) :=
  if msg.parsed < 0 then (nlSkip, [])
  else
    match findHandler info msg with
    | none => (nlOk, [])
    | some entry =>
        match entry.cbFunc with
        | none => (nlOk, [])
        | some func => (nlOk, [(func, entry.cbArg)])

/-! ## The tables as lists -/

section Lists

variable (info : HalInfo)

theorem addEventCb_events (entry : CbInfo) :
    (addEventCb info entry).2.events =
      if info.events.length < info.eventCb.alloc then info.events ++ [entry]
      else info.events := by
  have full := info.eventCb.push_eq_none_iff entry
  have bound := info.eventCb.bound
  unfold addEventCb HalInfo.events
  cases pushed : info.eventCb.push entry with
  | none =>
      have atBound := full.mp pushed
      rw [if_neg (by omega)]
  | some eventCb =>
      have room : info.eventCb.toList.length ≠ info.eventCb.alloc := by
        intro atBound
        rw [full.mpr atBound] at pushed
        contradiction
      have length := info.eventCb.length_toList
      rw [if_pos (by omega)]
      exact CompactArray.toList_push pushed

theorem addEventCb_success_iff (entry : CbInfo) :
    (addEventCb info entry).1 = wifiSuccess ↔
      info.events.length < info.eventCb.alloc := by
  have full := info.eventCb.push_eq_none_iff entry
  have bound := info.eventCb.bound
  have length := info.eventCb.length_toList
  unfold addEventCb HalInfo.events
  cases pushed : info.eventCb.push entry with
  | none =>
      have atBound := full.mp pushed
      simp only [wifiErrorOutOfMemory, wifiSuccess]
      constructor
      · intro impossible
        contradiction
      · omega
  | some eventCb =>
      have room : info.eventCb.toList.length ≠ info.eventCb.alloc := by
        intro atBound
        rw [full.mpr atBound] at pushed
        contradiction
      simp only [true_iff]
      omega

theorem addEventCb_of_full (entry : CbInfo)
    (full : ¬ info.events.length < info.eventCb.alloc) :
    addEventCb info entry = (wifiErrorOutOfMemory, info) := by
  have bound := info.eventCb.bound
  have length := info.eventCb.length_toList
  have atBound : info.eventCb.toList.length = info.eventCb.alloc := by
    unfold HalInfo.events at full
    omega
  unfold addEventCb
  rw [(info.eventCb.push_eq_none_iff entry).mpr atBound]

@[simp] theorem addEventCb_cmd (entry : CbInfo) : (addEventCb info entry).2.cmd = info.cmd := by
  unfold addEventCb
  split <;> rfl

@[simp] theorem addEventCb_alloc (entry : CbInfo) :
    (addEventCb info entry).2.eventCb.alloc = info.eventCb.alloc := by
  unfold addEventCb
  cases pushed : info.eventCb.push entry with
  | none => rfl
  | some eventCb => exact CompactArray.alloc_push pushed

@[simp] theorem wifiUnregisterVendorHandler_events (id : UInt32) (subcmd : Int32) :
    (wifiUnregisterVendorHandler info id subcmd).events =
      info.events.eraseP (isVendorEntry id subcmd) :=
  CompactArray.toList_removeFirst _ _

@[simp] theorem wifiUnregisterVendorHandler_cmd (id : UInt32) (subcmd : Int32) :
    (wifiUnregisterVendorHandler info id subcmd).cmd = info.cmd := rfl

@[simp] theorem wifiUnregisterVendorHandler_alloc (id : UInt32) (subcmd : Int32) :
    (wifiUnregisterVendorHandler info id subcmd).eventCb.alloc = info.eventCb.alloc :=
  CompactArray.alloc_removeFirst _ _

theorem wifiRegisterCmd_spec (id : Int32) (cmd : Ptr) :
    (info.cmds.length < info.cmd.alloc ∧ (wifiRegisterCmd info id cmd).1 = wifiSuccess ∧
        (wifiRegisterCmd info id cmd).2.cmds = info.cmds ++ [⟨id, cmd⟩] ∧
        (wifiRegisterCmd info id cmd).2.cmd.alloc = info.cmd.alloc ∧
        (wifiRegisterCmd info id cmd).2.eventCb = info.eventCb) ∨
      (info.cmds.length = info.cmd.alloc ∧
        wifiRegisterCmd info id cmd = (wifiErrorOutOfMemory, info)) := by
  have full := info.cmd.push_eq_none_iff ⟨id, cmd⟩
  have bound := info.cmd.bound
  have length := info.cmd.length_toList
  unfold wifiRegisterCmd HalInfo.cmds
  cases pushed : info.cmd.push ⟨id, cmd⟩ with
  | none => exact Or.inr ⟨full.mp pushed, rfl⟩
  | some table =>
      have room : info.cmd.toList.length ≠ info.cmd.alloc := by
        intro atBound
        rw [full.mpr atBound] at pushed
        contradiction
      exact Or.inl ⟨by omega, rfl, CompactArray.toList_push pushed,
        CompactArray.alloc_push pushed, rfl⟩

@[simp] theorem wifiUnregisterCmd_found (id : Int32) :
    (wifiUnregisterCmd info id).1 =
      (info.cmds.find? fun entry => entry.id == id).map CmdInfo.cmd := by
  simp [wifiUnregisterCmd, HalInfo.cmds]

@[simp] theorem wifiUnregisterCmd_cmds (id : Int32) :
    (wifiUnregisterCmd info id).2.cmds = info.cmds.eraseP fun entry => entry.id == id :=
  CompactArray.toList_removeFirst _ _

@[simp] theorem wifiUnregisterCmd_eventCb (id : Int32) :
    (wifiUnregisterCmd info id).2.eventCb = info.eventCb := rfl

@[simp] theorem wifiUnregisterCmd_alloc (id : Int32) :
    (wifiUnregisterCmd info id).2.cmd.alloc = info.cmd.alloc :=
  CompactArray.alloc_removeFirst _ _

@[simp] theorem findHandler_eq (msg : NlMsg) :
    findHandler info msg = info.events.find? msg.isFor :=
  CompactArray.findFirst_eq_find? _ _

end Lists

end Mt6757.WifiHal
