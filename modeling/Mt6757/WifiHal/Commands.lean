import Mt6757.WifiHal.World

/-!
# The commands and the calls of the API

`start` and `cancel` of every subclass as the list of steps its source performs,
the API functions around them, the event handlers, and the dispatch of an
incoming message, all as programs over `HalOp`.
-/

set_option autoImplicit false

namespace Mt6757.WifiHal

open CommandTree

/-! ## Scripts -/

/-- How a command tests the result of a step: `result != WIFI_SUCCESS` or
`result < 0`. -/
inductive Check where
  | notSuccess
  | negative
  deriving DecidableEq, Repr

def Check.fails : Check → Int → Bool
  | .notSuccess, result => result != wifiSuccess
  | .negative, result => result < 0

/-- The statements of `start`.  A `check` returns the result at hand when it
fails, after unregistering the events of its rollback. -/
inductive Stmt where
  | create (request : Request)
  | exchange (request : Request)
  | register (event : VendorEvent)
  | check (test : Check) (rollback : List VendorEvent)
  deriving DecidableEq, Repr

/-- The two shapes of `cancel`. -/
inductive CancelScript where
  | teardownFirst (request : Request) (events : List VendorEvent)
  | unregisterFirst (events : List VendorEvent) (request : Request)
  deriving DecidableEq, Repr

def CancelScript.events : CancelScript → List VendorEvent
  | .teardownFirst _ events => events
  | .unregisterFirst events _ => events

def ScanCommand.start : List Stmt :=
  [.create .scanSetup, .check .notSuccess [],
   .exchange .scanSetup, .check .notSuccess [],
   .create .scanConfig, .check .notSuccess [],
   .exchange .scanConfig, .check .notSuccess [],
   .create (.enableGscan true), .check .notSuccess [],
   .register .scanResultsAvailable, .register .completeScan, .register .fullScanResults,
   .exchange (.enableGscan true),
   .check .notSuccess [.completeScan, .scanResultsAvailable, .fullScanResults]]

def ScanCommand.cancel : CancelScript :=
  .teardownFirst (.enableGscan false) [.completeScan, .scanResultsAvailable, .fullScanResults]

def FullScanResultsCommand.start : List Stmt :=
  [.create (.enableFullScanResults true), .check .notSuccess [],
   .register .fullScanResults,
   .exchange (.enableFullScanResults true), .check .notSuccess [.fullScanResults]]

def FullScanResultsCommand.cancel : CancelScript :=
  .teardownFirst (.enableFullScanResults false) [.fullScanResults]

/-- The first rollback unregisters events that are registered only later. -/
def BssidHotlistCommand.start : List Stmt :=
  [.create .hotlistSetup, .check .negative [],
   .exchange .hotlistSetup, .check .negative [.hotlistResultsFound, .hotlistResultsLost],
   .create (.enableGscan true), .check .negative [],
   .register .hotlistResultsFound, .register .hotlistResultsLost,
   .exchange (.enableGscan true),
   .check .negative [.hotlistResultsFound, .hotlistResultsLost]]

def BssidHotlistCommand.cancel : CancelScript :=
  .unregisterFirst [.hotlistResultsFound, .hotlistResultsLost] .hotlistTeardown

def EPNOCommand.start : List Stmt :=
  [.create .epnoSetup, .check .negative [],
   .exchange .epnoSetup, .check .negative [.epnoEvent],
   .register .epnoEvent]

def EPNOCommand.cancel : CancelScript :=
  .unregisterFirst [.epnoEvent] .epnoTeardown

def SignificantWifiChangeCommand.start : List Stmt :=
  [.create .significantChangeSetup, .check .negative [],
   .exchange .significantChangeSetup, .check .negative [],
   .create (.enableGscan true), .check .negative [],
   .register .significantChangeResults,
   .exchange (.enableGscan true), .check .negative [.significantChangeResults]]

def SignificantWifiChangeCommand.cancel : CancelScript :=
  .unregisterFirst [.significantChangeResults] .significantChangeTeardown

/-- The last check tests a result that the check before it has let pass. -/
def SetRSSIMonitorCommand.start : List Stmt :=
  [.create (.rssiMonitor true), .check .negative [],
   .exchange (.rssiMonitor true), .check .negative [],
   .register .rssiMonitor, .check .negative [.rssiMonitor]]

def SetRSSIMonitorCommand.cancel : CancelScript :=
  .teardownFirst (.rssiMonitor false) [.rssiMonitor]

def RttCommand.start : List Stmt :=
  [.create .rttSetup, .check .notSuccess [],
   .exchange .rttSetup, .check .notSuccess [],
   .register .rttEventComplete]

def RttCommand.cancel : CancelScript :=
  .teardownFirst .rttTeardown [.rttEventComplete]

def AnqpoConfigureCommand.start : List Stmt :=
  [.create (.anqpoConfig true), .check .notSuccess [],
   .register .anqpoHotspotMatch,
   .exchange (.anqpoConfig true), .check .notSuccess [.anqpoHotspotMatch]]

def AnqpoConfigureCommand.cancel : CancelScript :=
  .teardownFirst (.anqpoConfig false) [.anqpoHotspotMatch]

namespace CommandType

def startScript : CommandType → List Stmt
  | .scan => ScanCommand.start
  | .fullScanResults => FullScanResultsCommand.start
  | .bssidHotlist => BssidHotlistCommand.start
  | .ePNO => EPNOCommand.start
  | .significantWifiChange => SignificantWifiChangeCommand.start
  | .setRSSIMonitor => SetRSSIMonitorCommand.start
  | .rtt => RttCommand.start
  | .anqpoConfigure => AnqpoConfigureCommand.start

def cancelScript : CommandType → CancelScript
  | .scan => ScanCommand.cancel
  | .fullScanResults => FullScanResultsCommand.cancel
  | .bssidHotlist => BssidHotlistCommand.cancel
  | .ePNO => EPNOCommand.cancel
  | .significantWifiChange => SignificantWifiChangeCommand.cancel
  | .setRSSIMonitor => SetRSSIMonitorCommand.cancel
  | .rtt => RttCommand.cancel
  | .anqpoConfigure => AnqpoConfigureCommand.cancel

/-- The events a command subscribes to are those its `cancel` unregisters. -/
def events (type : CommandType) : List VendorEvent := type.cancelScript.events

end CommandType

def registrations : List Stmt → List VendorEvent
  | [] => []
  | .register event :: rest => event :: registrations rest
  | _ :: rest => registrations rest

theorem registrations_perm_events (type : CommandType) :
    (registrations type.startScript).Perm type.events := by
  cases type <;> decide

/-! ## Programs -/

def createRequest (this : Ptr) (request : Request) : Hal Int :=
  perform (.createRequest this request)

def requestResponse (this : Ptr) (request : Request) : Hal Int :=
  perform (.requestResponse this request)

def releaseRef (this : Ptr) : Hal Unit := perform (.releaseRef this)

def unregisterAll (this : Ptr) : List VendorEvent → Hal Unit
  | [] => .ret ()
  | event :: rest => do
      perform (.unregisterVendorHandler this event)
      unregisterAll this rest

/-- `start` from some statement on, with the result at hand. -/
def startFrom (this : Ptr) : List Stmt → Int → Hal Int
  | [], result => .ret result
  | .create request :: rest, _ => do
      let result ← createRequest this request
      startFrom this rest result
  | .exchange request :: rest, _ => do
      let result ← requestResponse this request
      startFrom this rest result
  | .register event :: rest, result => do
      let _ ← perform (.registerVendorHandler this event)
      startFrom this rest result
  | .check test rollback :: rest, result =>
      if test.fails result then do
        unregisterAll this rollback
        .ret result
      else startFrom this rest result

def start (this : Ptr) (type : CommandType) : Hal Int :=
  startFrom this type.startScript wifiSuccess

def cancelBody (this : Ptr) : CancelScript → Hal Int
  | .teardownFirst request events => do
      let created ← createRequest this request
      if created = wifiSuccess then do
        let _ ← requestResponse this request
        unregisterAll this events
        .ret wifiSuccess
      else do
        unregisterAll this events
        .ret wifiSuccess
  | .unregisterFirst events request => do
      unregisterAll this events
      let created ← createRequest this request
      if created < 0 then .ret created else requestResponse this request

/-- The virtual call `cmd->cancel()`. -/
def cancel (this : Ptr) : Hal Int := do
  let type ← perform (.cancel this)
  cancelBody this type.cancelScript

/-! ## The API -/

/-- What all the functions that start a request do. -/
def wifiStart (type : CommandType) (id : Int32) : Hal Int := do
  match ← perform (.newCommand type id) with
  | none => .ret wifiErrorOutOfMemory
  | some cmd =>
      let registered ← perform (.wifiRegisterCmd id cmd)
      if registered = wifiSuccess then do
        let result ← start cmd type
        if result = wifiSuccess then .ret result
        else do
          let _ ← perform (.wifiUnregisterCmd (some cmd) id)
          releaseRef cmd
          .ret result
      else do
        releaseRef cmd
        .ret registered

def wifiCancelCmd (id : Int32) : Hal Int := do
  match ← perform (.wifiUnregisterCmd none id) with
  | none => .ret wifiErrorInvalidArgs
  | some cmd =>
      let _ ← cancel cmd
      releaseRef cmd
      .ret wifiSuccess

/-- A new command of the type cancels in place of the one that is running. -/
def cancelTemporary (type : CommandType) (id : Int32) : Hal Int := do
  match ← perform (.newCommand type id) with
  | none => .ret wifiErrorOutOfMemory
  | some cmd =>
      let _ ← cancel cmd
      releaseRef cmd
      .ret wifiSuccess

/-- After `body` the request `id` of this type is over. -/
def ending (type : CommandType) (id : Int32) (body : Hal Int) : Hal Int := do
  let result ← body
  perform (.ended type id)
  .ret result

def wifiStartGscan (id : Int32) : Hal Int := wifiStart .scan id

def wifiStopGscan (id : Int32) : Hal Int :=
  ending .scan id (if id = -1 then cancelTemporary .scan id else wifiCancelCmd id)

def wifiEnableFullScanResults (id : Int32) : Hal Int := wifiStart .fullScanResults id

def wifiDisableFullScanResults (id : Int32) : Hal Int :=
  ending .fullScanResults id
    (if id = -1 then cancelTemporary .fullScanResults 0 else wifiCancelCmd id)

def wifiSetBssidHotlist (id : Int32) : Hal Int := wifiStart .bssidHotlist id

def wifiResetBssidHotlist (id : Int32) : Hal Int := ending .bssidHotlist id (wifiCancelCmd id)

def wifiSetEpnoList (id : Int32) : Hal Int := wifiStart .ePNO id

def wifiResetEpnoList (id : Int32) : Hal Int :=
  ending .ePNO id (if id = -1 then cancelTemporary .ePNO id else wifiCancelCmd id)

def wifiSetSignificantChangeHandler (id : Int32) : Hal Int :=
  wifiStart .significantWifiChange id

def wifiResetSignificantChangeHandler (id : Int32) : Hal Int :=
  ending .significantWifiChange id (wifiCancelCmd id)

def wifiStartRssiMonitoring (id : Int32) : Hal Int := wifiStart .setRSSIMonitor id

def wifiStopRssiMonitoring (id : Int32) : Hal Int :=
  ending .setRSSIMonitor id
    (if id = -1 then cancelTemporary .setRSSIMonitor id else wifiCancelCmd id)

def wifiSetPasspointList (id : Int32) : Hal Int := wifiStart .anqpoConfigure id

def wifiResetPasspointList (id : Int32) : Hal Int :=
  ending .anqpoConfigure id (wifiCancelCmd id)

def wifiRttRangeRequest (id : Int32) : Hal Int := wifiStart .rtt id

/-- The temporary command calls `cancel_specific`, which has the steps of
`cancel`. -/
def wifiRttRangeCancel (id : Int32) : Hal Int :=
  ending .rtt id (cancelTemporary .rtt id)

/-- One call of the API. -/
inductive ApiCall where
  | start (type : CommandType) (id : Int32)
  | stop (type : CommandType) (id : Int32)
  deriving DecidableEq, Repr

def ApiCall.program : ApiCall → Hal Int
  | .start .scan id => wifiStartGscan id
  | .start .fullScanResults id => wifiEnableFullScanResults id
  | .start .bssidHotlist id => wifiSetBssidHotlist id
  | .start .ePNO id => wifiSetEpnoList id
  | .start .significantWifiChange id => wifiSetSignificantChangeHandler id
  | .start .setRSSIMonitor id => wifiStartRssiMonitoring id
  | .start .anqpoConfigure id => wifiSetPasspointList id
  | .start .rtt id => wifiRttRangeRequest id
  | .stop .scan id => wifiStopGscan id
  | .stop .fullScanResults id => wifiDisableFullScanResults id
  | .stop .bssidHotlist id => wifiResetBssidHotlist id
  | .stop .ePNO id => wifiResetEpnoList id
  | .stop .significantWifiChange id => wifiResetSignificantChangeHandler id
  | .stop .setRSSIMonitor id => wifiStopRssiMonitoring id
  | .stop .anqpoConfigure id => wifiResetPasspointList id
  | .stop .rtt id => wifiRttRangeCancel id

theorem ApiCall.program_start (type : CommandType) (id : Int32) :
    (ApiCall.start type id).program = wifiStart type id := by
  cases type <;> rfl

/-- The stop calls that leave the command table alone. -/
def usesTemporary (type : CommandType) (id : Int32) : Bool :=
  match type with
  | .rtt => true
  | .scan => id == -1
  | .fullScanResults => id == -1
  | .ePNO => id == -1
  | .setRSSIMonitor => id == -1
  | _ => false

def temporaryId (type : CommandType) (id : Int32) : Int32 :=
  match type with
  | .fullScanResults => 0
  | _ => id

/-- A stop call cancels the command of its id or a temporary one. -/
theorem ApiCall.program_stop (type : CommandType) (id : Int32) :
    (ApiCall.stop type id).program =
      ending type id
        (if usesTemporary type id then cancelTemporary type (temporaryId type id)
          else wifiCancelCmd id) := by
  by_cases all : id = -1 <;> cases type <;>
    simp [ApiCall.program, usesTemporary, temporaryId, all, wifiStopGscan,
      wifiDisableFullScanResults, wifiResetBssidHotlist, wifiResetEpnoList,
      wifiResetSignificantChangeHandler, wifiStopRssiMonitoring, wifiResetPasspointList,
      wifiRttRangeCancel]

/-! ## Cleanup -/

/-- The result of a loop that the fuel cut short. -/
def cleanupUnfinished : Int := -1

/-- The `while` loop of `wifi_cleanup`.  The table stores no null pointers. -/
def cleanupLoop : (fuel : Nat) → (badCommands : Nat) → Hal Int
  | 0, _ => .ret cleanupUnfinished
  | fuel + 1, badCommands => do
      let left ← perform .numCmd
      if badCommands < left then do
        let numCmd ← perform .numCmd
        let cmd ← perform (.cmdAt badCommands)
        let _ ← cancel cmd
        let numCmdNow ← perform .numCmd
        releaseRef cmd
        cleanupLoop fuel (if numCmd = numCmdNow then badCommands + 1 else badCommands)
      else .ret wifiSuccess

/-- `wifi_cleanup` from where it takes the lock. -/
def wifiCleanup (fuel : Nat) : Hal Int := do
  perform .beginCleanup
  cleanupLoop fuel 0

/-! ## Events -/

def RttCommand.handleEvent (this : Ptr) (attrs : List RttAttr) : Hal Int := do
  let mCompleted ← perform (.handleAttrs this attrs)
  if mCompleted then do
    perform (.unregisterVendorHandler this .rttEventComplete)
    perform (.clearResults this)
    let id ← perform (.id this)
    match ← perform (.wifiUnregisterCmd (some this) id) with
    | none => .ret nlSkip
    | some cmd => do
        releaseRef cmd
        .ret nlSkip
  else .ret nlSkip

/-- The virtual call `cmd->handleEvent(event)`.  The handlers of the other
subclasses report to the framework and touch no table. -/
def handleEvent (this : Ptr) (attrs : List RttAttr) : Hal Int := do
  let type ← perform (.handleEvent this)
  if type = .rtt then RttCommand.handleEvent this attrs else .ret nlSkip

/-- The callback of a handler; only `WifiCommand::event_handler` is registered. -/
def callback (entry : CbInfo) (msg : NlMsg) : Hal Int :=
  match entry.cbFunc, entry.cbArg with
  | some func, some cmd =>
      if func = eventHandler then handleEvent cmd msg.vendorData else .ret nlOk
  | _, _ => .ret nlOk

def internalValidMessageHandler (msg : NlMsg) : Hal Int :=
  if msg.parsed < 0 then .ret nlSkip
  else do
    match ← perform (.findAndAddRef msg) with
    | none => .ret nlOk
    | some entry =>
        let _ ← callback entry msg
        match entry.cbArg with
        | none => .ret nlOk
        | some cmd => do
            releaseRef cmd
            .ret nlOk

end Mt6757.WifiHal
