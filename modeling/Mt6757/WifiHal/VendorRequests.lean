import Mt6757.WifiHal.RttTeardown
import Mt6757.WifiHal.ScanResults

/-!
# Requests of a few attributes

Most commands put a short row of attributes into the vendor data of their request.  They
differ in the row only: one builder writes them all, one reader tells them apart.
-/

set_option autoImplicit false

namespace Mt6757.WifiHal

open NlMessage

def wifiSubcmdGetChannelList : UInt32 := 0x0001
def wifiSubcmdSetCountryCode : UInt32 := 0x0006
def wifiSubcmdSetRssiMonitor : UInt32 := 0x0007
def wifiSubcmdEnableRoaming : UInt32 := 0x000b
def gscanSubcmdSetScanConfig : UInt32 := 0x1002
def gscanSubcmdEnableGscan : UInt32 := 0x1003
def gscanSubcmdEnableFullScanResults : UInt32 := 0x1008
def gscanSubcmdSetEpnoSsid : UInt32 := 0x100F
def wifiOffloadStartMkeepAlive : UInt32 := 0x1600
def wifiOffloadStopMkeepAlive : UInt32 := 0x1601

def wifiAttributeBand : Nat := 1
def wifiAttributeCountryCode : Nat := 8
def wifiAttributeMaxRssi : Nat := 9
def wifiAttributeMinRssi : Nat := 10
def wifiAttributeRssiMonitorStart : Nat := 11
def wifiAttributeRoamingState : Nat := 17
def gscanAttributeNumApPerScan : Nat := 17
def gscanAttributeReportThreshold : Nat := 18
def gscanAttributeNumScansToCache : Nat := 19
def gscanAttributeEnableFeature : Nat := 20
def gscanEnableFullScanResults : Nat := 23
def gscanAttributeEpnoFlush : Nat := 77
def mkeepAliveAttributeId : Nat := 1
def mkeepAliveAttributeIpPktLen : Nat := 2
def mkeepAliveAttributeIpPkt : Nat := 3
def mkeepAliveAttributeSrcMacAddr : Nat := 4
def mkeepAliveAttributeDstMacAddr : Nat := 5
def mkeepAliveAttributePeriodMsec : Nat := 6

/-! ## The builders -/

/-- The vendor header and one nest around a row of checked puts. -/
def vendorRequest (env : RequestEnv) (subcmd : UInt32) (fields : List Attr) (final : Int → Int) :
    Builder Int := do
  let _ ← createVendor env googleOui subcmd
  let data ← env.lib.nestStart nl80211AttrVendorData.toNat
  let result ← env.lib.putEach fields 0
  env.lib.nestEnd data
  pure (final result)

section Builders

variable (env : RequestEnv)

def createFeatureRequest (subcmd : UInt32) (enable : Int32) : Builder Int :=
  vendorRequest env subcmd [u32Attr gscanAttributeEnableFeature enable.toUInt32]
    fun _ => wifiSuccess

def FullScanResultsCommand.createRequest (subcmd : UInt32) (enable : Int32) : Builder Int :=
  vendorRequest env subcmd [u32Attr gscanEnableFullScanResults enable.toUInt32]
    fun _ => wifiSuccess

/-- The parameter validity check. -/
def ScanCommand.validThreshold (percent : Int32) : Int32 :=
  if percent < 0 ∨ percent > 100 then 100 else percent

def ScanCommand.createScanConfigRequest (maxApPerScan reportThresholdPercent
    reportThresholdNumScans : Int32) : Builder Int :=
  vendorRequest env gscanSubcmdSetScanConfig
    [u32Attr gscanAttributeNumApPerScan maxApPerScan.toUInt32,
      u32Attr gscanAttributeReportThreshold (ScanCommand.validThreshold reportThresholdPercent).toUInt32,
      u32Attr gscanAttributeNumScansToCache reportThresholdNumScans.toUInt32]
    fun _ => wifiSuccess

def SignificantWifiChangeCommand.createTeardownRequest : Builder Int :=
  vendorRequest env gscanSubcmdSetSignificantChangeConfig
    [u16Attr gscanAttributeSignificantChangeFlush 1] id

def EPNOCommand.createTeardownRequest : Builder Int :=
  vendorRequest env gscanSubcmdSetEpnoSsid [u8Attr gscanAttributeEpnoFlush 1] id

/-- The list of a hotlist teardown is opened and closed with nothing in it. -/
def BssidHotlistCommand.createTeardownRequest : Builder Int := do
  let _ ← createVendor env googleOui gscanSubcmdSetHotlist
  let data ← env.lib.nestStart nl80211AttrVendorData.toNat
  let result ← (do
    let result ← putU8 env.lib gscanAttributeHotlistFlush 1
    let attr ← env.lib.nestStart gscanAttributeHotlistBssids
    let result ← (pure result : Builder Int)
    env.lib.nestEnd attr
    pure result)
  env.lib.nestEnd data
  pure result

def GetChannelListCommand.create (band : Int32) : Builder Int :=
  vendorRequest env wifiSubcmdGetChannelList [u32Attr wifiAttributeBand band.toUInt32] id

/-- `put_string` puts the characters and the NUL behind them. -/
def stringAttr (type : Nat) (value : List UInt8) : Attr := (type, value ++ [0])

def SetCountryCodeCommand.create (countryCode : List UInt8) : Builder Int :=
  vendorRequest env wifiSubcmdSetCountryCode [stringAttr wifiAttributeCountryCode countryCode]
    fun _ => wifiSuccess

/-- `enable ? rssi : 0`, an `s8` that becomes a `uint32_t`. -/
def SetRSSIMonitorCommand.threshold (enable : Int32) (rssi : Int8) : Int32 :=
  if enable ≠ 0 then rssi.toInt32 else 0

def SetRSSIMonitorCommand.createRequest (maxRssi minRssi : Int8) (enable : Int32) : Builder Int :=
  vendorRequest env wifiSubcmdSetRssiMonitor
    [u32Attr wifiAttributeMaxRssi (SetRSSIMonitorCommand.threshold enable maxRssi).toUInt32,
      u32Attr wifiAttributeMinRssi (SetRSSIMonitorCommand.threshold enable minRssi).toUInt32,
      u32Attr wifiAttributeRssiMonitorStart enable.toUInt32] id

def EnableRoamingCommand.create (state : UInt32) : Builder Int :=
  vendorRequest env wifiSubcmdEnableRoaming [u32Attr wifiAttributeRoamingState state]
    fun _ => wifiSuccess

end Builders

/-- What a start of the keep-alive offload passes on. -/
structure KeepAlive where
  index : UInt8
  ipPkt : List UInt8
  srcMacAddr : MacAddr
  dstMacAddr : MacAddr
  periodMsec : UInt32
  deriving DecidableEq

def KeepAlive.fields (params : KeepAlive) : List Attr :=
  [u8Attr mkeepAliveAttributeId params.index.toUInt32,
    u16Attr mkeepAliveAttributeIpPktLen (.ofNat params.ipPkt.length),
    (mkeepAliveAttributeIpPkt, params.ipPkt),
    (mkeepAliveAttributeSrcMacAddr, params.srcMacAddr.bytes),
    (mkeepAliveAttributeDstMacAddr, params.dstMacAddr.bytes),
    u32Attr mkeepAliveAttributePeriodMsec params.periodMsec]

inductive GetCmdType where
  | startMkeepAlive (params : KeepAlive)
  | stopMkeepAlive (index : UInt8)
  deriving DecidableEq

def MKeepAliveCommand.createRequest (env : RequestEnv) : GetCmdType → Builder Int
  | .startMkeepAlive params => vendorRequest env wifiOffloadStartMkeepAlive params.fields id
  | .stopMkeepAlive index =>
      vendorRequest env wifiOffloadStopMkeepAlive [u8Attr mkeepAliveAttributeId index.toUInt32] id

/-! ## The family -/

inductive VendorRequest where
  | enableGscan (enable : Int32)
  | enableFullScanResults (enable : Int32)
  | scanConfig (maxApPerScan reportThresholdPercent reportThresholdNumScans : Int32)
  | resetSignificantChange
  | resetEpno
  | resetHotlist
  | channelList (band : Int32)
  | countryCode (code : List UInt8)
  | rssiMonitor (maxRssi minRssi : Int8) (enable : Int32)
  | enableRoaming (state : UInt32)
  | keepAlive (command : GetCmdType)
  deriving DecidableEq

namespace VendorRequest

def create (env : RequestEnv) : VendorRequest → Builder Int
  | enableGscan enable => createFeatureRequest env gscanSubcmdEnableGscan enable
  | enableFullScanResults enable =>
      FullScanResultsCommand.createRequest env gscanSubcmdEnableFullScanResults enable
  | scanConfig maxApPerScan percent numScans =>
      ScanCommand.createScanConfigRequest env maxApPerScan percent numScans
  | resetSignificantChange => SignificantWifiChangeCommand.createTeardownRequest env
  | resetEpno => EPNOCommand.createTeardownRequest env
  | resetHotlist => BssidHotlistCommand.createTeardownRequest env
  | channelList band => GetChannelListCommand.create env band
  | countryCode code => SetCountryCodeCommand.create env code
  | rssiMonitor maxRssi minRssi enable =>
      SetRSSIMonitorCommand.createRequest env maxRssi minRssi enable
  | enableRoaming state => EnableRoamingCommand.create env state
  | keepAlive command => MKeepAliveCommand.createRequest env command

/-- A string has no NUL inside, and what has no fixed size fits into a message. -/
def InRange : VendorRequest → Prop
  | countryCode code => 0 ∉ code ∧ code.length ≤ 4043
  | keepAlive (.startMkeepAlive params) => params.ipPkt.length ≤ 3996
  | _ => True

/-- The parameters after the checks of the builders. -/
def checked : VendorRequest → VendorRequest
  | scanConfig maxApPerScan percent numScans =>
      scanConfig maxApPerScan (ScanCommand.validThreshold percent) numScans
  | rssiMonitor maxRssi minRssi enable =>
      if enable ≠ 0 then rssiMonitor maxRssi minRssi enable else rssiMonitor 0 0 0
  | request => request

def subcmd : VendorRequest → UInt32
  | enableGscan _ => gscanSubcmdEnableGscan
  | enableFullScanResults _ => gscanSubcmdEnableFullScanResults
  | scanConfig _ _ _ => gscanSubcmdSetScanConfig
  | resetSignificantChange => gscanSubcmdSetSignificantChangeConfig
  | resetEpno => gscanSubcmdSetEpnoSsid
  | resetHotlist => gscanSubcmdSetHotlist
  | channelList _ => wifiSubcmdGetChannelList
  | countryCode _ => wifiSubcmdSetCountryCode
  | rssiMonitor _ _ _ => wifiSubcmdSetRssiMonitor
  | enableRoaming _ => wifiSubcmdEnableRoaming
  | keepAlive (.startMkeepAlive _) => wifiOffloadStartMkeepAlive
  | keepAlive (.stopMkeepAlive _) => wifiOffloadStopMkeepAlive

/-! ### What a driver reads -/

def readInt (attrs : List Attr) (type : Nat) : Option Int32 :=
  (wordOf 4 attrs type).map UInt32.toInt32

/-- The characters before the NUL at the end. -/
def readString (payload : List UInt8) : Option (List UInt8) :=
  if payload.getLast? = some 0 ∧ 0 ∉ payload.dropLast then some payload.dropLast else none

/-- A flush attribute of so many bytes. -/
def readFlush (width : Nat) (attrs : List Attr) (type : Nat) (request : VendorRequest) :
    Option VendorRequest :=
  if wordOf width attrs type = some 1 then some request else none

def readKeepAlive (attrs : List Attr) : Option KeepAlive := do
  let index ← wordOf 1 attrs mkeepAliveAttributeId
  let ipPktLen ← wordOf 2 attrs mkeepAliveAttributeIpPktLen
  let ipPkt ← payloadOf attrs mkeepAliveAttributeIpPkt
  let ipPkt ← counted ipPktLen.toNat ipPkt
  let srcMacAddr ← (payloadOf attrs mkeepAliveAttributeSrcMacAddr).bind readAddr
  let dstMacAddr ← (payloadOf attrs mkeepAliveAttributeDstMacAddr).bind readAddr
  let periodMsec ← wordOf 4 attrs mkeepAliveAttributePeriodMsec
  some { index := index.toUInt8, ipPkt, srcMacAddr, dstMacAddr, periodMsec }

def readScanConfig (attrs : List Attr) : Option VendorRequest := do
  let maxApPerScan ← readInt attrs gscanAttributeNumApPerScan
  let percent ← readInt attrs gscanAttributeReportThreshold
  let numScans ← readInt attrs gscanAttributeNumScansToCache
  some (scanConfig maxApPerScan percent numScans)

def readRssiMonitor (attrs : List Attr) : Option VendorRequest := do
  let maxRssi ← readInt attrs wifiAttributeMaxRssi
  let minRssi ← readInt attrs wifiAttributeMinRssi
  let enable ← readInt attrs wifiAttributeRssiMonitorStart
  some (rssiMonitor maxRssi.toInt8 minRssi.toInt8 enable)

/-- The subcommand decides how the attributes of the vendor data are read. -/
def readFields (subcmd : UInt32) (attrs : List Attr) : Option VendorRequest :=
  if subcmd = gscanSubcmdEnableGscan then
    (readInt attrs gscanAttributeEnableFeature).map enableGscan
  else if subcmd = gscanSubcmdEnableFullScanResults then
    (readInt attrs gscanEnableFullScanResults).map enableFullScanResults
  else if subcmd = gscanSubcmdSetScanConfig then readScanConfig attrs
  else if subcmd = gscanSubcmdSetSignificantChangeConfig then
    readFlush 2 attrs gscanAttributeSignificantChangeFlush resetSignificantChange
  else if subcmd = gscanSubcmdSetEpnoSsid then
    readFlush 1 attrs gscanAttributeEpnoFlush resetEpno
  else if subcmd = gscanSubcmdSetHotlist then
    readFlush 1 attrs gscanAttributeHotlistFlush resetHotlist
  else if subcmd = wifiSubcmdGetChannelList then (readInt attrs wifiAttributeBand).map channelList
  else if subcmd = wifiSubcmdSetCountryCode then
    ((payloadOf attrs wifiAttributeCountryCode).bind readString).map countryCode
  else if subcmd = wifiSubcmdSetRssiMonitor then readRssiMonitor attrs
  else if subcmd = wifiSubcmdEnableRoaming then
    (wordOf 4 attrs wifiAttributeRoamingState).map enableRoaming
  else if subcmd = wifiOffloadStartMkeepAlive then
    (readKeepAlive attrs).map fun params => keepAlive (.startMkeepAlive params)
  else if subcmd = wifiOffloadStopMkeepAlive then
    (wordOf 1 attrs mkeepAliveAttributeId).map fun index =>
      keepAlive (.stopMkeepAlive index.toUInt8)
  else none

/-- A command of this vendor. -/
def read (msg : List UInt8) : Option VendorRequest := do
  let id ← wordOf 4 (walk msg) nl80211AttrVendorId.toNat
  let subcmd ← wordOf 4 (walk msg) nl80211AttrVendorSubcmd.toNat
  let vendor ← vendorData msg
  if id = googleOui then readFields subcmd (walk vendor) else none

/-! ### What is written -/

def attrs (lib : NlLib) : VendorRequest → List Attr
  | enableGscan enable => [u32Attr gscanAttributeEnableFeature enable.toUInt32]
  | enableFullScanResults enable => [u32Attr gscanEnableFullScanResults enable.toUInt32]
  | scanConfig maxApPerScan percent numScans =>
      [u32Attr gscanAttributeNumApPerScan maxApPerScan.toUInt32,
        u32Attr gscanAttributeReportThreshold (ScanCommand.validThreshold percent).toUInt32,
        u32Attr gscanAttributeNumScansToCache numScans.toUInt32]
  | resetSignificantChange => [u16Attr gscanAttributeSignificantChangeFlush 1]
  | resetEpno => [u8Attr gscanAttributeEpnoFlush 1]
  | resetHotlist => [u8Attr gscanAttributeHotlistFlush 1] ++ lib.nested gscanAttributeHotlistBssids []
  | channelList band => [u32Attr wifiAttributeBand band.toUInt32]
  | countryCode code => [stringAttr wifiAttributeCountryCode code]
  | rssiMonitor maxRssi minRssi enable =>
      [u32Attr wifiAttributeMaxRssi (SetRSSIMonitorCommand.threshold enable maxRssi).toUInt32,
        u32Attr wifiAttributeMinRssi (SetRSSIMonitorCommand.threshold enable minRssi).toUInt32,
        u32Attr wifiAttributeRssiMonitorStart enable.toUInt32]
  | enableRoaming state => [u32Attr wifiAttributeRoamingState state]
  | keepAlive (.startMkeepAlive params) => params.fields
  | keepAlive (.stopMkeepAlive index) => [u8Attr mkeepAliveAttributeId index.toUInt32]

/-! ### Running a builder -/

section Run

variable {env : RequestEnv}

/-- In a fresh message the vendor data opens, and closes behind a body that fits. -/
theorem vendor_run {subcmd : UInt32} {body : Builder Int} {attrs : List Attr} (final : Int → Int)
    (success : final 0 = 0) (got : env.allocated = true)
    (room : (attrsBytes attrs).length ≤ 4048) (runs : NlLib.RunsWithin 28 body attrs) :
    NlLib.RunsWithin 0 (do
      let _ ← createVendor env googleOui subcmd
      let data ← env.lib.nestStart nl80211AttrVendorData.toNat
      let result ← body
      env.lib.nestEnd data
      pure (final result))
      (createAttrs env googleOui subcmd ++
        env.lib.nested nl80211AttrVendorData.toNat attrs) := by
  have header := @createAttrs_length env googleOui subcmd
  have created : NlLib.RunsWithin 0 (createVendor env googleOui subcmd)
      (createAttrs env googleOui subcmd) := by
    apply (completes_createVendor googleOui subcmd got).runsWithin
    rw [env.room_eq]
    omega
  apply created.bind
  apply NlLib.runsWithin_nest _ final success
  · simp only [Netlink.hdrlen, env.room_eq]
    omega
  · apply runs.mono
    simp only [Netlink.hdrlen]
    omega

theorem vendorRequest_run {subcmd : UInt32} {fields : List Attr} (final : Int → Int)
    (success : final 0 = 0) (got : env.allocated = true)
    (room : (attrsBytes fields).length ≤ 4048) :
    NlLib.RunsWithin 0 (vendorRequest env subcmd fields final)
      (createAttrs env googleOui subcmd ++
        env.lib.nested nl80211AttrVendorData.toNat fields) := by
  apply vendor_run final success got room
  apply (NlLib.completes_putEach fields).runsWithin
  rw [env.room_eq]
  omega

theorem fields_length (params : KeepAlive) :
    (attrsBytes params.fields).length = 52 + Netlink.align params.ipPkt.length := by
  simp only [KeepAlive.fields, attrsBytes_cons, attrsBytes_nil, List.append_nil,
    List.length_append, attrBytes_length, u8Attr, u16Attr, u32Attr, leBytes_length,
    params.srcMacAddr.whole, params.dstMacAddr.whole, Netlink.hdrlen]
  simp only [Netlink.align]
  omega

theorem attrs_length (request : VendorRequest) (range : request.InRange) :
    (attrsBytes (request.attrs env.lib)).length ≤ 4048 := by
  cases request with
  | countryCode code =>
      have short : code.length ≤ 4043 := range.2
      simp only [attrs, stringAttr, attrsBytes_cons, attrsBytes_nil, List.append_nil,
        attrBytes_length, List.length_append, List.length_singleton, Netlink.align, Netlink.hdrlen]
      omega
  | keepAlive command =>
      cases command with
      | startMkeepAlive params =>
          have short : params.ipPkt.length ≤ 3996 := range
          rw [attrs, fields_length, Netlink.align]
          omega
      | stopMkeepAlive index =>
          simp [attrs, attrsBytes_cons, attrBytes_length, u8Attr, Netlink.align, Netlink.hdrlen]
  | resetHotlist =>
      have list := env.lib.nested_length_le gscanAttributeHotlistBssids []
      rw [attrs, attrsBytes_append, List.length_append]
      simp only [u8Attr, attrsBytes_cons, attrsBytes_nil, List.append_nil, List.length_nil,
        attrBytes_length, leBytes_length, Netlink.align, Netlink.hdrlen] at list ⊢
      omega
  | _ =>
      simp [attrs, attrsBytes_cons, attrBytes_length, u8Attr, u16Attr, u32Attr, Netlink.align,
        Netlink.hdrlen]

/-- An empty list opens and closes. -/
theorem resetHotlist_run (got : env.allocated = true) :
    NlLib.RunsWithin 0 (BssidHotlistCommand.createTeardownRequest env)
      (createAttrs env googleOui gscanSubcmdSetHotlist ++
        env.lib.nested nl80211AttrVendorData.toNat (resetHotlist.attrs env.lib)) := by
  have short : (attrsBytes (resetHotlist.attrs env.lib)).length ≤ 4048 := attrs_length _ trivial
  apply vendor_run id rfl got short
  apply NlLib.RunsWithin.bind (NlLib.runsWithin_put _ _ (by rw [env.room_eq]; decide))
  apply NlLib.runsWithin_nest _ id rfl
  · rw [env.room_eq]
    decide
  · intro msg _
    rw [attrsBytes_nil, List.append_nil]
    rfl

theorem create_run (request : VendorRequest) (range : request.InRange)
    (got : env.allocated = true) :
    NlLib.RunsWithin 0 (request.create env)
      (createAttrs env googleOui request.subcmd ++
        env.lib.nested nl80211AttrVendorData.toNat (request.attrs env.lib)) := by
  have room := @attrs_length env request range
  cases request with
  | resetHotlist => exact resetHotlist_run got
  | keepAlive command =>
      cases command with
      | startMkeepAlive params => exact vendorRequest_run id rfl got room
      | stopMkeepAlive index => exact vendorRequest_run id rfl got room
  | enableGscan enable => exact vendorRequest_run (fun _ => wifiSuccess) rfl got room
  | enableFullScanResults enable => exact vendorRequest_run (fun _ => wifiSuccess) rfl got room
  | scanConfig maxAp percent numScans =>
      exact vendorRequest_run (fun _ => wifiSuccess) rfl got room
  | resetSignificantChange => exact vendorRequest_run id rfl got room
  | resetEpno => exact vendorRequest_run id rfl got room
  | channelList band => exact vendorRequest_run id rfl got room
  | countryCode code => exact vendorRequest_run (fun _ => wifiSuccess) rfl got room
  | rssiMonitor maxRssi minRssi enable => exact vendorRequest_run id rfl got room
  | enableRoaming state => exact vendorRequest_run (fun _ => wifiSuccess) rfl got room

theorem attrs_ne_nil (lib : NlLib) (request : VendorRequest) : request.attrs lib ≠ [] := by
  cases request with
  | keepAlive command =>
      cases command with
      | startMkeepAlive params => exact List.cons_ne_nil _ _
      | stopMkeepAlive index => exact List.cons_ne_nil _ _
  | _ => exact List.cons_ne_nil _ _

end Run

/-! ### Reading it back -/

section Read

theorem readInt_back {attrs : List Attr} {type : Nat} {value : Int32}
    (here : payloadOf attrs type = some (leBytes 4 value.toUInt32.toNat)) :
    readInt attrs type = some value := by
  rw [readInt, wordOf, here, Option.bind_some, word_leBytes_four]
  simp

theorem readString_back {code : List UInt8} (noNul : 0 ∉ code) :
    readString (code ++ [0]) = some code := by
  rw [readString, List.getLast?_append, List.dropLast_concat]
  exact if_pos ⟨rfl, noNul⟩

theorem readKeepAlive_back (params : KeepAlive) (short : params.ipPkt.length ≤ 3996) :
    readKeepAlive params.fields = some params := by
  have length : (UInt32.ofNat params.ipPkt.length).toNat = params.ipPkt.length := by
    rw [UInt32.toNat_ofNat']
    omega
  have index : wordOf 1 params.fields mkeepAliveAttributeId = some params.index.toUInt32 :=
    wordOf_u8 (by simpa using params.index.toNat_lt) rfl
  have ipPktLen : wordOf 2 params.fields mkeepAliveAttributeIpPktLen =
      some (.ofNat params.ipPkt.length) := by
    show word 2 (leBytes 2 (UInt32.ofNat params.ipPkt.length).toNat) = _
    apply word_leBytes
    omega
  have ipPkt : payloadOf params.fields mkeepAliveAttributeIpPkt = some params.ipPkt := rfl
  have src : payloadOf params.fields mkeepAliveAttributeSrcMacAddr =
      some params.srcMacAddr.bytes := rfl
  have dst : payloadOf params.fields mkeepAliveAttributeDstMacAddr =
      some params.dstMacAddr.bytes := rfl
  have period : wordOf 4 params.fields mkeepAliveAttributePeriodMsec = some params.periodMsec :=
    word_leBytes_four _
  have whole : counted (UInt32.ofNat params.ipPkt.length).toNat params.ipPkt =
      some params.ipPkt := if_pos length.symm
  simp only [readKeepAlive, index, ipPktLen, ipPkt, whole, src, dst, period, readAddr_back,
    Option.bind_eq_bind, Option.bind_some]
  simp

/-- The attributes of a request tell a driver its parameters. -/
theorem readFields_back (lib : NlLib) (request : VendorRequest) (range : request.InRange) :
    readFields request.subcmd (request.attrs lib) = some request.checked := by
  cases request with
  | enableGscan enable =>
      have read : readInt [u32Attr gscanAttributeEnableFeature enable.toUInt32]
          gscanAttributeEnableFeature = some enable := readInt_back rfl
      exact congrArg (Option.map enableGscan) read
  | enableFullScanResults enable =>
      have read : readInt [u32Attr gscanEnableFullScanResults enable.toUInt32]
          gscanEnableFullScanResults = some enable := readInt_back rfl
      exact congrArg (Option.map enableFullScanResults) read
  | scanConfig maxAp percent numScans =>
      have read1 := @readInt_back ((scanConfig maxAp percent numScans).attrs lib)
        gscanAttributeNumApPerScan maxAp rfl
      have read2 := @readInt_back ((scanConfig maxAp percent numScans).attrs lib)
        gscanAttributeReportThreshold (ScanCommand.validThreshold percent) rfl
      have read3 := @readInt_back ((scanConfig maxAp percent numScans).attrs lib)
        gscanAttributeNumScansToCache numScans rfl
      show readScanConfig _ = _
      rw [readScanConfig, read1, read2, read3]
      rfl
  | resetSignificantChange =>
      show readFlush 2 (resetSignificantChange.attrs lib) gscanAttributeSignificantChangeFlush
        resetSignificantChange = some resetSignificantChange
      exact if_pos rfl
  | resetEpno =>
      show readFlush 1 (resetEpno.attrs lib) gscanAttributeEpnoFlush resetEpno =
        some resetEpno
      exact if_pos rfl
  | resetHotlist =>
      show readFlush 1 (resetHotlist.attrs lib) gscanAttributeHotlistFlush resetHotlist =
        some resetHotlist
      exact if_pos rfl
  | channelList band =>
      have read : readInt [u32Attr wifiAttributeBand band.toUInt32] wifiAttributeBand =
          some band := readInt_back rfl
      exact congrArg (Option.map channelList) read
  | countryCode code =>
      exact congrArg (Option.map countryCode) (readString_back range.1)
  | rssiMonitor maxRssi minRssi enable =>
      have read1 := @readInt_back ((rssiMonitor maxRssi minRssi enable).attrs lib)
        wifiAttributeMaxRssi (SetRSSIMonitorCommand.threshold enable maxRssi) rfl
      have read2 := @readInt_back ((rssiMonitor maxRssi minRssi enable).attrs lib)
        wifiAttributeMinRssi (SetRSSIMonitorCommand.threshold enable minRssi) rfl
      have read3 := @readInt_back ((rssiMonitor maxRssi minRssi enable).attrs lib)
        wifiAttributeRssiMonitorStart enable rfl
      show readRssiMonitor _ = _
      rw [readRssiMonitor, read1, read2, read3]
      by_cases enabled : enable ≠ 0
      · simp [checked, SetRSSIMonitorCommand.threshold, enabled]
      · have disabled : enable = 0 := not_not.mp enabled
        simp [checked, SetRSSIMonitorCommand.threshold, disabled]
  | enableRoaming state =>
      exact congrArg (Option.map enableRoaming) (word_leBytes_four state)
  | keepAlive command =>
      cases command with
      | startMkeepAlive params =>
          exact congrArg (Option.map fun params => keepAlive (.startMkeepAlive params))
            (readKeepAlive_back params range)
      | stopMkeepAlive index =>
          have read : wordOf 1 [u8Attr mkeepAliveAttributeId index.toUInt32]
              mkeepAliveAttributeId = some index.toUInt32 :=
            wordOf_u8 (by simpa using index.toNat_lt) rfl
          have back : index.toUInt32.toUInt8 = index := by simp
          show (wordOf 1 [u8Attr mkeepAliveAttributeId index.toUInt32] mkeepAliveAttributeId).map
            (fun index => keepAlive (.stopMkeepAlive index.toUInt8)) =
              some (keepAlive (.stopMkeepAlive index))
          rw [read, Option.map_some, back]

theorem attrs_walk (lib : NlLib) (request : VendorRequest)
    (short : (attrsBytes (request.attrs lib)).length < 65536) :
    walk (attrsBytes (request.attrs lib)) = request.attrs lib := by
  cases request with
  | resetHotlist => exact nested_walk (by decide) (types_small rfl) short
  | keepAlive command =>
      cases command with
      | startMkeepAlive params => exact walk_attrsBytes (types_small rfl) short
      | stopMkeepAlive index => exact walk_attrsBytes (types_small rfl) short
  | _ => exact walk_attrsBytes (types_small rfl) short

theorem vendorHeader_back {env : RequestEnv} {subcmd : UInt32} {attrs : List Attr}
    (short : (attrsBytes (createAttrs env googleOui subcmd ++
      env.lib.nested nl80211AttrVendorData.toNat attrs)).length < 65536) :
    let read := walk (attrsBytes (createAttrs env googleOui subcmd ++
      env.lib.nested nl80211AttrVendorData.toNat attrs))
    wordOf 4 read nl80211AttrVendorId.toNat = some googleOui ∧
      wordOf 4 read nl80211AttrVendorSubcmd.toNat = some subcmd := by
  have types : ∀ attr ∈ createAttrs env googleOui subcmd, attr.1 < 65536 := by
    rw [createAttrs]
    split
    · exact types_small rfl
    · exact types_small rfl
  intro read
  rw [show read = _ from nested_walk (by decide) types short]
  exact ⟨word_leBytes_four googleOui, word_leBytes_four subcmd⟩

theorem message_length (env : RequestEnv) (request : VendorRequest) (range : request.InRange) :
    (attrsBytes (createAttrs env googleOui request.subcmd ++
      env.lib.nested nl80211AttrVendorData.toNat (request.attrs env.lib))).length ≤ 4076 := by
  have header := @createAttrs_length env googleOui request.subcmd
  have inside := @attrs_length env request range
  have aligned := attrsBytes_aligned (request.attrs env.lib)
  rw [env.lib.nested_of_ne _ (request.attrs_ne_nil env.lib), attrsBytes_append,
    List.length_append]
  simp only [attrsBytes_cons, attrsBytes_nil, List.append_nil, attrBytes_length, Netlink.align,
    Netlink.hdrlen]
  omega

/-- A request that gets a message always fits into it and is read as what it was. -/
theorem read_back (env : RequestEnv) (request : VendorRequest) (range : request.InRange)
    (got : env.allocated = true) :
    ∃ msg, request.create env [] = .ok wifiSuccess msg ∧
      genlHdrlen + msg.length ≤ messageCapacity ∧ read msg = some request.checked := by
  have length := message_length env request range
  have inside := @attrs_length env request range
  refine ⟨_, create_run request range got [] (Nat.zero_le 0), ?_, ?_⟩
  · simp only [genlHdrlen, messageCapacity, List.nil_append]
    omega
  · have vendor := @vendorData_back env googleOui request.subcmd _
      (request.attrs_ne_nil env.lib) (by omega)
    obtain ⟨id, subcmd⟩ := @vendorHeader_back env request.subcmd (request.attrs env.lib) (by omega)
    rw [List.nil_append, read, id, subcmd, vendor]
    simp only [Option.bind_eq_bind, Option.bind_some, if_pos]
    rw [attrs_walk env.lib request (by omega)]
    exact readFields_back env.lib request range

end Read

theorem refused {env : RequestEnv} (request : VendorRequest) (missing : env.allocated = false) :
    request.create env [] = .returned wifiErrorOutOfMemory := by
  have noMessage : ∀ subcmd, createVendor env googleOui subcmd [] =
      .returned wifiErrorOutOfMemory := by
    intro subcmd
    rw [createVendor, if_neg (by simp [missing])]
    rfl
  cases request with
  | keepAlive command =>
      cases command with
      | startMkeepAlive params => exact bind_returned (noMessage _)
      | stopMkeepAlive index => exact bind_returned (noMessage _)
  | _ => exact bind_returned (noMessage _)

end VendorRequest

/-- Every request that gets a message fits into it, and a driver reads from it which
request it is and the parameters that passed the checks. -/
theorem vendorRequest_reads_back (env : RequestEnv) (request : VendorRequest)
    (range : request.InRange) :
    if env.allocated then
      ∃ msg, request.create env [] = .ok wifiSuccess msg ∧
        genlHdrlen + msg.length ≤ messageCapacity ∧
        VendorRequest.read msg = some request.checked
    else request.create env [] = .returned wifiErrorOutOfMemory := by
  cases got : env.allocated with
  | true => exact request.read_back env range got
  | false => exact request.refused got

/-- A monitor between -90 and -40 dBm on interface 3. -/
theorem rssiMonitor_reads_back :
    ∃ msg, SetRSSIMonitorCommand.createRequest (.paged 3 true false) (-40) (-90) 1 [] =
        .ok wifiSuccess msg ∧
      VendorRequest.read msg = some (.rssiMonitor (-40) (-90) 1) := by
  obtain ⟨msg, created, -, read⟩ :=
    vendorRequest_reads_back (.paged 3 true false) (.rssiMonitor (-40) (-90) 1) trivial
  exact ⟨msg, created, read⟩

/-! ## The keep-alive calls -/

/-- `N_AVAIL_ID` and `MKEEP_ALIVE_IP_PKT_MAX` of the platform header. -/
structure OffloadLimits where
  nAvailId : Int32
  ipPktMax : UInt16

/-- The arguments of the two calls; a missing one is a null pointer, and `ipPacket` is the
memory from there on. -/
inductive OffloadCall where
  | start (index : Int32) (ipPacket : Option (Nat → UInt8)) (ipPacketLen : UInt16)
      (srcMacAddr dstMacAddr : Option MacAddr) (periodMsec : UInt32)
  | stop (index : Int32)

inductive OffloadOutcome where
  | returned (code : WifiError)
  | requested (msg : List UInt8)
  | nullNest
  deriving DecidableEq

namespace OffloadCall

variable (limits : OffloadLimits)

/-- The parameter check and the constructor. -/
def command : OffloadCall → Option GetCmdType
  | start index (some ipPacket) ipPacketLen (some srcMacAddr) (some dstMacAddr) periodMsec =>
      if (0 < index ∧ index ≤ limits.nAvailId) ∧ 0 < periodMsec ∧ ipPacketLen ≤ limits.ipPktMax then
        some (.startMkeepAlive
          { index := index.toUInt32.toUInt8
            ipPkt := (List.range ipPacketLen.toNat).map ipPacket
            srcMacAddr
            dstMacAddr
            periodMsec })
      else none
  | start _ _ _ _ _ _ => none
  | stop index =>
      if 0 < index ∧ index ≤ limits.nAvailId then some (.stopMkeepAlive index.toUInt32.toUInt8)
      else none

/-- `wifi_start_sending_offloaded_packet` and `wifi_stop_sending_offloaded_packet` up to
`requestResponse`. -/
def request (env : RequestEnv) (call : OffloadCall) : OffloadOutcome :=
  match call.command limits with
  | none => .returned wifiErrorInvalidArgs
  | some command =>
      match MKeepAliveCommand.createRequest env command [] with
      | .ok result msg => if result ≠ wifiSuccess then .returned result else .requested msg
      | .returned code => .returned code
      | .nullNest => .nullNest

def Valid : OffloadCall → Prop
  | start index ipPacket ipPacketLen srcMacAddr dstMacAddr periodMsec =>
      (0 < index ∧ index ≤ limits.nAvailId) ∧ ipPacket ≠ none ∧ srcMacAddr ≠ none ∧
        dstMacAddr ≠ none ∧ periodMsec ≠ 0 ∧ ipPacketLen ≤ limits.ipPktMax
  | stop index => 0 < index ∧ index ≤ limits.nAvailId

/-- The command carries the arguments of the call. -/
def Carries : OffloadCall → GetCmdType → Prop
  | start index ipPacket ipPacketLen srcMacAddr dstMacAddr periodMsec, .startMkeepAlive params =>
      params.index.toNat = index.toNatClampNeg ∧ params.ipPkt.length = ipPacketLen.toNat ∧
        (∀ packet ∈ ipPacket, params.ipPkt = (List.range ipPacketLen.toNat).map packet) ∧
        srcMacAddr = some params.srcMacAddr ∧ dstMacAddr = some params.dstMacAddr ∧
        params.periodMsec = periodMsec
  | stop index, .stopMkeepAlive byte => byte.toNat = index.toNatClampNeg
  | _, _ => False

variable {limits}

/-- An index that passes the check keeps its value in a byte. -/
theorem index_byte (few : limits.nAvailId ≤ 255) {index : Int32}
    (valid : 0 < index ∧ index ≤ limits.nAvailId) :
    index.toUInt32.toUInt8.toNat = index.toNatClampNeg := by
  have natural : 0 ≤ index := Int32.le_of_lt valid.1
  have small : index ≤ 255 := Int32.le_trans valid.2 few
  have bound : index.toInt ≤ 255 := by simpa using Int32.le_iff_toInt_le.mp small
  have same : index.toUInt32.toNat = index.toNatClampNeg := toNat_toUInt32 natural
  have clamp : index.toNatClampNeg = index.toInt.toNat := rfl
  rw [UInt32.toNat_toUInt8, same, clamp]
  omega

theorem command_of_valid (few : limits.nAvailId ≤ 255) {call : OffloadCall}
    (valid : call.Valid limits) :
    ∃ command, call.command limits = some command ∧ call.Carries command ∧
      ∀ params, command = .startMkeepAlive params → params.ipPkt.length ≤ limits.ipPktMax.toNat := by
  cases call with
  | stop index =>
      refine ⟨_, if_pos valid, index_byte few valid, ?_⟩
      intro params same
      cases same
  | start index ipPacket ipPacketLen srcMacAddr dstMacAddr periodMsec =>
      obtain ⟨inRange, packet, src, dst, period, short⟩ := valid
      obtain ⟨ipPacket, rfl⟩ := Option.ne_none_iff_exists'.mp packet
      obtain ⟨srcMacAddr, rfl⟩ := Option.ne_none_iff_exists'.mp src
      obtain ⟨dstMacAddr, rfl⟩ := Option.ne_none_iff_exists'.mp dst
      have positive : 0 < periodMsec := UInt32.pos_iff_ne_zero.mpr period
      refine ⟨_, if_pos ⟨inRange, positive, short⟩, ?_, ?_⟩
      · refine ⟨index_byte few inRange, by simp, ?_, rfl, rfl, rfl⟩
        intro packet same
        obtain rfl := Option.some.inj same
        rfl
      · intro params same
        obtain rfl := GetCmdType.startMkeepAlive.inj same
        rw [List.length_map, List.length_range]
        exact short

theorem command_of_invalid {call : OffloadCall} (invalid : ¬ call.Valid limits) :
    call.command limits = none := by
  cases call with
  | stop index => exact if_neg invalid
  | start index ipPacket ipPacketLen srcMacAddr dstMacAddr periodMsec =>
      cases ipPacket with
      | none => rfl
      | some packet =>
          cases srcMacAddr with
          | none => rfl
          | some src =>
              cases dstMacAddr with
              | none => rfl
              | some dst =>
                  refine if_neg fun passed => invalid ?_
                  exact ⟨passed.1, Option.some_ne_none _, Option.some_ne_none _,
                    Option.some_ne_none _, UInt32.pos_iff_ne_zero.mp passed.2.1, passed.2.2⟩

end OffloadCall

/-- A keep-alive call with valid arguments that gets a message hands one to the driver that
carries all of them, whatever the packet; one with other arguments sends nothing. -/
theorem offload_reads_back (limits : OffloadLimits) (few : limits.nAvailId ≤ 255)
    (short : limits.ipPktMax.toNat ≤ 3996) (env : RequestEnv) (call : OffloadCall) :
    (call.Valid limits → env.allocated = true →
      ∃ msg command, call.request limits env = .requested msg ∧
        VendorRequest.read msg = some (.keepAlive command) ∧ call.Carries command) ∧
    (¬ call.Valid limits → call.request limits env = .returned wifiErrorInvalidArgs) := by
  constructor
  · intro valid got
    obtain ⟨command, built, carries, fits⟩ := OffloadCall.command_of_valid few valid
    have range : (VendorRequest.keepAlive command).InRange := by
      cases command with
      | startMkeepAlive params => exact le_trans (fits params rfl) short
      | stopMkeepAlive index => trivial
    obtain ⟨msg, created, -, read⟩ := VendorRequest.read_back env (.keepAlive command) range got
    have ran : MKeepAliveCommand.createRequest env command [] = .ok wifiSuccess msg := created
    refine ⟨msg, command, ?_, read, carries⟩
    rw [OffloadCall.request, built]
    dsimp only
    rw [ran]
    rfl
  · intro invalid
    rw [OffloadCall.request, OffloadCall.command_of_invalid invalid]

/-- A packet of six bytes, every half a second. -/
def sampleStart : OffloadCall :=
  .start 2 (some fun i => if i = 0 then 69 else i.toUInt8) 6
    (some ⟨[2, 0, 0, 0, 0, 1], rfl⟩) (some ⟨[2, 0, 0, 0, 0, 2], rfl⟩) 500

theorem offload_start_reads_back :
    ∃ msg params, sampleStart.request ⟨3, 256⟩ (.paged 7 true true) = .requested msg ∧
      VendorRequest.read msg = some (.keepAlive (.startMkeepAlive params)) ∧
      params.index.toNat = 2 ∧ params.ipPkt = [69, 1, 2, 3, 4, 5] ∧
      params.srcMacAddr.bytes = [2, 0, 0, 0, 0, 1] ∧
      params.dstMacAddr.bytes = [2, 0, 0, 0, 0, 2] ∧ params.periodMsec = 500 := by
  obtain ⟨msg, command, sent, read, carries⟩ :=
    (offload_reads_back ⟨3, 256⟩ (by decide) (by decide) (.paged 7 true true) sampleStart).1
      ⟨by decide, Option.some_ne_none _, Option.some_ne_none _, Option.some_ne_none _, by decide,
        by decide⟩ rfl
  cases command with
  | startMkeepAlive params =>
      obtain ⟨index, -, packet, src, dst, period⟩ := carries
      have bytes := packet _ rfl
      have source := congrArg MacAddr.bytes (Option.some.inj src)
      have destination := congrArg MacAddr.bytes (Option.some.inj dst)
      exact ⟨msg, params, sent, read, index, bytes, source.symm, destination.symm, period⟩
  | stopMkeepAlive index => exact carries.elim

end Mt6757.WifiHal
