import Mt6757.Lib.CharMemory
import Mt6757.Lib.Numeral

/-!
# The driver interface of the supplicant

The objects that the driver commands work on, the test-mode requests, what the rest
of the system answers, and the functions through which a command acts.  A command
is a program over the character memory and the record of its effects.
-/

set_option autoImplicit false

namespace Mt6757.Supplicant

/-- The options that the build decides, the width of `long`,
`DRV_NUMBER_SEQUENTIAL_ERRORS` and the size of `struct wfd_data_s`. -/
structure Config where
  hotspotMgr : Bool
  lteCoex : Bool
  wapi : Bool
  wfdSink : Bool
  p2pSigma : Bool
  longBits : Nat
  long_wide : 32 ≤ longBits
  sequentialErrors : Nat
  wfdDataSize : Nat

/-- What the makefile gives: none of the options, and the 64-bit target. -/
def Config.plain : Config :=
  ⟨false, false, false, false, false, 64, by decide, 4, 0⟩

abbrev MacAddr := List UInt8

def macStr (addr : MacAddr) : CString := [58].intercalate (addr.map CString.hexByte)

/-! ## Objects -/

structure P2pDevice where
  p2pDeviceAddr : MacAddr
  interfaceAddr : MacAddr

structure P2pData where
  devCapab : UInt8
  devices : List P2pDevice

/-- What a command reads of `struct wpa_supplicant`.  A pointer that is only tested
is a `Bool`; `p2p` is `global->p2p`, and `currentSsid` says whether its mode is
`WPAS_MODE_INFRA`. -/
structure WpaSupplicant where
  conf : Bool
  drvPriv : Bool
  ownAddr : MacAddr
  bssid : MacAddr
  currentSsid : Option Bool
  p2p : Option P2pData

/-- `struct wpa_driver_nl80211_data`.  Behind the `ctx` of an `ap0` interface is a
`hostapd_data`, of which nothing is read. -/
structure DrvData where
  ctx : Option WpaSupplicant
  associated : Bool
  bssid : MacAddr
  firstBssIfname : CString

structure Bss where
  ifname : CString
  drv : Option DrvData

def stationBss : Bss :=
  ⟨CString.ascii "wlan0",
    some ⟨some ⟨true, true, [2, 0, 0, 0, 0, 1], [], none, none⟩, false, [], CString.ascii "wlan0"⟩⟩

/-! ## Test-mode requests -/

structure TestModeInfo where
  index : UInt32
  buflen : UInt32
  deriving DecidableEq, Repr

/-- What `buf` points to in `set-wapi-key`. -/
structure WapiKeyParam where
  addr : Option MacAddr
  keyIdx : Int32
  setTx : Bool
  seq : Option (List UInt8)
  seqLen : Nat
  key : Option (List UInt8)
  keyLen : Nat
  deriving DecidableEq, Repr

structure WapiKeyParams where
  keyIndex : UInt8
  keyLen : UInt8
  extFlags : UInt32
  txSeq : List UInt8
  addr : MacAddr
  alg : UInt16
  extKeyLen : UInt16
  key : List UInt8
  deriving DecidableEq, Repr

/-- The members of `struct wfd_data_s` that `wpas_wfd_data_update` copies. -/
structure WfdData where
  cmdType : UInt32
  enable : UInt8
  coupleSinkStatus : UInt8
  sessionAvailable : UInt8
  sigmaMode : UInt8
  devInfo : UInt16
  controlPort : UInt16
  maximumTp : UInt16
  extendCap : UInt16
  coupleSinkAddress : MacAddr
  associatedBssid : MacAddr
  videoIp : List UInt8
  audioIp : List UInt8
  videoPort : UInt16
  audioPort : UInt16
  flag : UInt32
  policy : UInt32
  state : UInt32
  sessionInformationIe : List UInt8
  sessionInformationIeLen : UInt16
  primarySinkMac : MacAddr
  secondarySinkMac : MacAddr
  advancedFlag : UInt32
  localIp : List UInt8
  deriving DecidableEq, Repr

inductive TestmodeParams where
  | staStatistics (addr : MacAddr)
  | swCmd (set : UInt8) (adr data : UInt32)
  | hotspot (blocked : UInt8) (bssid : MacAddr)
  | hotspotSetConfig (index value : UInt32)
  | availableChannel
  | wapiKey (params : WapiKeyParams)
  | p2pNoa (idx value count interval duration : UInt32)
  | p2pSigma (idx value : UInt32)
  | wfdData (data : WfdData)
  | suspendMode (suspend : UInt8)
  | rxFilter (ipv4High ipv4Low ipv6High ipv6Low snapHigh snapLow : UInt32)
  | strCmd (text : List UInt8)
  deriving DecidableEq, Repr

/-- What `wpa_driver_nl80211_testmode` is called with: the object that `data` points
to and `data_len`. -/
structure TestmodeRequest where
  hdr : TestModeInfo
  params : TestmodeParams
  dataLen : Nat
  deriving DecidableEq, Repr

/-- The header that all callers fill in this way, with the size of their structure. -/
def TestmodeRequest.of (index : UInt32) (size : Nat) (params : TestmodeParams) :
    TestmodeRequest :=
  ⟨⟨index ||| (1 : UInt32) <<< 24, UInt32.ofNat size⟩, params, size⟩

inductive Target where
  | priv
  | drvPriv
  deriving DecidableEq, Repr

/-- How `wpa_driver_nl80211_testmode` fares; an answered message may have stored
`ch_2g_base1`. -/
inductive TestmodeAnswer where
  | noMessage
  | noRoom
  | answered (ret : Int) (ch2gBase1 : UInt32)

def TestmodeAnswer.ret : TestmodeAnswer → Int
  | .noMessage => -1
  | .noRoom => -105
  | .answered ret _ => ret

def TestmodeAnswer.ch2gBase1 : TestmodeAnswer → UInt32
  | .answered _ channels => channels
  | _ => 0

/-! ## Effects and answers -/

inductive Effect where
  | testmode (target : Target) (request : TestmodeRequest)
  | countryIoctl (ifname text : CString)
  | channelListChanged (alpha2 : CString)
  | setIfaceFlags (ifname : CString) (up : Bool)
  | driverState (text : CString)
  | deauthenticate (bssid : MacAddr)
  | setDevCapab (cap : UInt8)
  | configScc (scc : Bool) (freq : UInt32)
  | setConcurrency (channels : Nat)
  | privateIoctl (ifname : CString) (buf : List UInt8) (usedLen : Int)
  deriving DecidableEq, Repr

/-- What the kernel, the driver and the supplicant answer, after the effects so far.
`hwaddrAton` is the supplicant's; `printStaStatistics` gives the bytes the report
leaves in a buffer of some length and its result, and `sharedRadioFreqs` the result
of `mtk_get_shared_radio_freqs` for one frequency. -/
structure Env where
  testmode : List Effect → TestmodeAnswer
  socket : List Effect → Int
  countryIoctl : List Effect → Int
  setIfaceFlags : List Effect → Int
  deauthenticate : List Effect → Int
  privateIoctl : List Effect → Int
  sharedRadioFreqs : List Effect → Int × UInt32
  hwaddrAton : CString → Option MacAddr
  printStaStatistics : Nat → List UInt8 × Int
  wapiKey : WapiKeyParam
  wapiMsgInLen : Int32
  wfdData : WfdData

def Env.obliging : Env where
  testmode := fun _ => .answered 0 0
  socket := fun _ => 3
  countryIoctl := fun _ => 0
  setIfaceFlags := fun _ => 0
  deauthenticate := fun _ => 0
  privateIoctl := fun _ => 0
  sharedRadioFreqs := fun _ => (0, 0)
  hwaddrAton := fun _ => none
  printStaStatistics := fun _ => ([], 0)
  wapiKey := ⟨none, 0, false, none, 0, none, 0⟩
  wapiMsgInLen := 0
  wfdData :=
    ⟨0, 0, 0, 0, 0, 0, 0, 0, 0, [], [], [], [], 0, 0, 0, 0, 0, [], 0, [], [], 0, []⟩

structure DriverState where
  mem : Memory
  trace : List Effect
  drvErrors : Nat

/-- What the program must not do: read `wpa_s` where it was never assigned, or follow
a null pointer. -/
inductive Fault where
  | unassigned
  | nullPointer
  deriving DecidableEq, Repr

abbrev Cmd := StateT DriverState (Except Fault)

def emit (effect : Effect) : Cmd Unit :=
  modify fun state => { state with trace := state.trace ++ [effect] }

def perform {α : Type} (effect : Effect) (answer : List Effect → α) : Cmd α := do
  let state ← get
  emit effect
  pure (answer state.trace)

def onMemory (change : Memory → Memory) : Cmd Unit :=
  modify fun state => { state with mem := change state.mem }

def readString (p : CharPtr) : Cmd CString := do
  let state ← get
  pure (state.mem.string p)

def snprintf (buf : CharPtr) (bufLen : Nat) (text : CString) : Cmd Int := do
  onMemory fun mem => mem.snprintf buf bufLen text
  pure text.length

def testmode (env : Env) (target : Target) (request : TestmodeRequest) : Cmd Int :=
  perform (.testmode target request) fun trace => (env.testmode trace).ret

section Run
variable {α β : Type} (state : DriverState)

@[simp] theorem run_pure (value : α) : (pure value : Cmd α) state = .ok (value, state) := rfl

@[simp] theorem run_bind (program : Cmd α) (next : α → Cmd β) :
    (program >>= next) state = (program state).bind fun ended => next ended.1 ended.2 := rfl

@[simp] theorem except_bind_ok {ε : Type} (value : α) (next : α → Except ε β) :
    (Except.ok value).bind next = next value := rfl

@[simp] theorem run_get : (get : Cmd DriverState) state = .ok (state, state) := rfl

@[simp] theorem run_emit (effect : Effect) :
    emit effect state = .ok ((), { state with trace := state.trace ++ [effect] }) := rfl

@[simp] theorem run_perform (effect : Effect) (answer : List Effect → α) :
    perform effect answer state =
      .ok (answer state.trace, { state with trace := state.trace ++ [effect] }) := rfl

@[simp] theorem run_onMemory (change : Memory → Memory) :
    onMemory change state = .ok ((), { state with mem := change state.mem }) := rfl

@[simp] theorem run_readString (p : CharPtr) :
    readString p state = .ok (state.mem.string p, state) := rfl

@[simp] theorem run_snprintf (buf : CharPtr) (bufLen : Nat) (text : CString) :
    snprintf buf bufLen text state =
      .ok ((text.length : Int), { state with mem := state.mem.snprintf buf bufLen text }) := rfl

@[simp] theorem run_testmode (env : Env) (target : Target) (request : TestmodeRequest) :
    testmode env target request state =
      .ok ((env.testmode state.trace).ret,
        { state with trace := state.trace ++ [.testmode target request] }) := rfl

end Run

/-! ## The functions that commands call -/

/-- `wpa_driver_nl80211_driver_sw_cmd`, which drops the result. -/
def driverSwCmd (env : Env) (set : Bool) (adr dat : UInt32) : Cmd Int := do
  let _ ← testmode env .priv (.of 1 20 (.swCmd (if set then 1 else 0) adr dat))
  pure 0

def hotspotBlockListUpdate (env : Env) (bssid : MacAddr) (blocked : UInt8) : Cmd Int :=
  testmode env .priv (.of 3 16 (.hotspot blocked bssid))

def staBlock (env : Env) (cmd : CString) (blocked : UInt8) : Cmd Int :=
  match env.hwaddrAton cmd with
  | none => pure (-1)
  | some bssid => hotspotBlockListUpdate env bssid blocked

def setMaxClient (config : Config) (env : Env) (cmd : CString) : Cmd Int :=
  testmode env .priv
    (.of 51 16 (.hotspotSetConfig 1 (CString.atoi config.longBits cmd).toUInt32))

/-- `wpa_driver_get_lte_available_channels`; the size of its structure has a pointer
in it. -/
def lteAvailableChannels (config : Config) (env : Env) : Cmd UInt32 :=
  perform (.testmode .priv (.of 0x30 (8 + config.longBits / 8) .availableChannel))
    fun trace => (env.testmode trace).ch2gBase1

/-- `wpa_driver_do_mtk_acs` with the polls that it has left. -/
def doMtkAcs (config : Config) (env : Env) : (polls : Nat) → Cmd UInt8
  | 0 => pure 0
  | polls + 1 => do
      let channels ← lteAvailableChannels config env
      if channels &&& (1 : UInt32) <<< 31 ≠ 0 then
        let free := (List.range 14).filter fun i =>
          channels &&& (1 : UInt32) <<< UInt32.ofNat i ≠ 0
        pure (UInt8.ofNat ((free.map (· + 1)).headD 0))
      else doMtkAcs config env polls

def broadcastAddr : MacAddr := List.replicate 6 0xff

/-- `wpa_driver_nl80211_set_wapi_key`.  A key or sequence of length zero is not copied. -/
def setWapiKey (env : Env) (param : WapiKeyParam) : Cmd Int := do
  if 16 < param.seqLen then pure (-1)
  else
    let groupKey : UInt32 := if param.addr.all (· = broadcastAddr) then 4 else 0
    let setTxKey : UInt32 := if param.setTx then 8 else 0
    let key := (param.key.getD []).take param.keyLen
    let _ ← testmode env .priv (.of 2 76 (.wapiKey
      { keyIndex := UInt8.ofInt (param.keyIdx.toInt + 1)
        keyLen := UInt8.ofNat param.keyLen
        extFlags := groupKey ||| setTxKey
        txSeq := (param.seq.getD []).take param.seqLen
        addr := param.addr.getD broadcastAddr
        alg := 0x20
        extKeyLen := if param.key.isSome then UInt16.ofNat param.keyLen else 0
        key := key }))
    pure 0

def sendMsg (msgInLen : Int32) : Cmd Int := pure (if 1024 < msgInLen then -1 else 0)

def setCountry (env : Env) (drv : DrvData) (alpha2 : CString) : Cmd Int := do
  let state ← get
  if env.socket state.trace < 0 then pure (-1)
  else
    let ret ← perform
      (.countryIoctl drv.firstBssIfname ((CString.ascii "COUNTRY " ++ alpha2).take 10))
      env.countryIoctl
    pure (if ret < 0 then ret else 0)

/-- `wpa_driver_notify_country_change`, which tells every interface. -/
def notifyCountryChange (cmd : CString) : Cmd Unit :=
  if CString.strncasecmp 7 cmd (CString.ascii "COUNTRY") = 0 then
    emit (.channelListChanged (if 9 < cmd.length then (cmd.drop 8).take 2 else []))
  else pure ()

def mtkP2pGetDevice (p2p : P2pData) (addr : MacAddr) : Option P2pDevice :=
  p2p.devices.find? fun dev => dev.p2pDeviceAddr == addr

def isZeroEtherAddr (addr : MacAddr) : Bool := addr.all (· == 0)

def p2pGetStaMac (wpaS : WpaSupplicant) (orgAddr : MacAddr) : Option MacAddr :=
  match wpaS.p2p, wpaS.currentSsid with
  | some p2p, some infra =>
      match mtkP2pGetDevice p2p orgAddr with
      | none => none
      | some dev =>
          if infra && (dev.p2pDeviceAddr != wpaS.bssid && !isZeroEtherAddr wpaS.bssid) then
            some wpaS.bssid
          else if dev.p2pDeviceAddr != dev.interfaceAddr && !isZeroEtherAddr dev.interfaceAddr then
            some dev.interfaceAddr
          else none
  | _, _ => none

/-- `wpas_get_sta_statistics`. -/
def getStaStatisticsRequest (config : Config) (env : Env) (staAddr : MacAddr) : Cmd Int :=
  testmode env .drvPriv
    (.of 0x10 (if config.longBits = 64 then 32 else 28) (.staStatistics staAddr))

def getStaStatistics (config : Config) (env : Env) (wpaS : WpaSupplicant) (addr : CString)
    (buf : CharPtr) (bufLen : Nat) : Cmd Int := do
  match env.hwaddrAton addr with
  | none => pure (-1)
  | some staAddr =>
      let ret ← getStaStatisticsRequest config env ((p2pGetStaMac wpaS staAddr).getD staAddr)
      if ret < 0 then pure (-1)
      else
        let (report, len) := env.printStaStatistics bufLen
        onMemory fun mem => mem.write buf report
        pure len

end Mt6757.Supplicant
