import Mt6757.Lib.NlMessage
import Mt6757.WifiHal.Request
import Mt6757.WifiHal.RttElements

/-!
# Setup requests

The four functions that write a command's parameters into a vendor request, and the
attributes that they add to a message of one page.
-/

set_option autoImplicit false

namespace Mt6757.WifiHal

open NlMessage

def gscanSubcmdSetConfig : UInt32 := 0x1001
def gscanSubcmdSetHotlist : UInt32 := 0x1006
def gscanSubcmdSetSignificantChangeConfig : UInt32 := 0x1007
def rttSubcmdSetConfig : UInt32 := 0x1100

def gscanAttributeNumBuckets : Nat := 10
def gscanAttributeBasePeriod : Nat := 11
def gscanAttributeBucketsBand : Nat := 12
def gscanAttributeBucketId : Nat := 13
def gscanAttributeBucketPeriod : Nat := 14
def gscanAttributeBucketNumChannels : Nat := 15
def gscanAttributeBucketChannels : Nat := 16
def gscanAttributeReportEvents : Nat := 24
def gscanAttributeBucketStepCount : Nat := 25
def gscanAttributeBucketMaxPeriod : Nat := 26
def gscanAttributeBssid : Nat := 41
def gscanAttributeHotlistBssids : Nat := 50
def gscanAttributeRssiLow : Nat := 51
def gscanAttributeRssiHigh : Nat := 52
def gscanAttributeHotlistElem : Nat := 53
def gscanAttributeHotlistFlush : Nat := 54
def gscanAttributeRssiSampleSize : Nat := 60
def gscanAttributeLostApSampleSize : Nat := 61
def gscanAttributeMinBreaching : Nat := 62
def gscanAttributeNumAp : Nat := 63
def gscanAttributeSignificantChangeBssids : Nat := 64
def gscanAttributeSignificantChangeFlush : Nat := 65

def rttAttributeTargetCnt : Nat := 10
def rttAttributeTargetInfo : Nat := 11
def rttAttributeTargetType : Nat := 13
def rttAttributeTargetPeer : Nat := 14
def rttAttributeTargetChan : Nat := 15
def rttAttributeTargetPeriod : Nat := 16
def rttAttributeTargetNumBurst : Nat := 17
def rttAttributeTargetNumFtmBurst : Nat := 18
def rttAttributeTargetNumRetryFtm : Nat := 19
def rttAttributeTargetNumRetryFtmr : Nat := 20
def rttAttributeTargetLci : Nat := 21
def rttAttributeTargetLcr : Nat := 22
def rttAttributeTargetBurstDuration : Nat := 23
def rttAttributeTargetPreamble : Nat := 24
def rttAttributeTargetBw : Nat := 25

/-! ## Parameters -/

structure MacAddr where
  bytes : List UInt8
  whole : bytes.length = 6
  deriving DecidableEq

def wifiBandUnspecified : Int32 := 0
def wifiBandAbg : Int32 := 3
def wifiBandAbgWithDfs : Int32 := 7

/-- `wifi_scan_bucket_spec`, with the frequencies of its channels. -/
structure ScanBucket where
  bucket : Int32
  band : Int32
  period : Int32
  stepCount : Int32
  maxPeriod : Int32
  reportEvents : UInt8
  numChannels : Int32
  channels : Nat → Int32

structure ScanParams where
  basePeriod : Int32
  numBuckets : Int32
  buckets : Nat → ScanBucket

/-- `ap_threshold_param`. -/
structure ApThreshold where
  bssid : MacAddr
  low : Int32
  high : Int32
  deriving DecidableEq

structure HotlistParams where
  lostApSampleSize : Int32
  numBssid : Int32
  ap : Nat → ApThreshold

structure SignificantChangeParams where
  rssiSampleSize : Int32
  lostApSampleSize : Int32
  minBreaching : Int32
  numBssid : Int32
  ap : Nat → ApThreshold

/-- `wifi_rtt_config`; the channel is the bytes of a `wifi_channel_info`. -/
structure RttConfig where
  addr : MacAddr
  type : UInt32
  peer : UInt32
  channel : List UInt8
  burstPeriod : UInt32
  numBurst : UInt32
  numFramesPerBurst : UInt32
  numRetriesPerRttFrame : UInt32
  numRetriesPerFtmr : UInt32
  lciRequest : UInt8
  lcrRequest : UInt8
  burstDuration : UInt32
  preamble : UInt32
  bw : UInt32
  deriving DecidableEq

structure RttParams where
  numRttParams : UInt32
  rttParams : Nat → RttConfig

/-! ## Requests -/

/-- The default size of a message, one page. -/
def messageCapacity : Nat := 4096

/-- The interface of the request, whether `nlmsg_alloc` gives a message, and the library
that fills it. -/
structure RequestEnv where
  iface : Int32
  allocated : Bool
  lib : NlLib
  page : lib.room = messageCapacity - genlHdrlen

/-- Over a buffer of bytes; the library may take the header of an empty nest away. -/
def RequestEnv.paged (iface : Int32) (allocated trims : Bool) : RequestEnv where
  iface := iface
  allocated := allocated
  lib := .paged (messageCapacity - genlHdrlen) trims
  page := rfl

theorem RequestEnv.room_eq (env : RequestEnv) : env.lib.room = 4076 := env.page

section Put

variable (lib : NlLib)

/-- A `put` of a number with the check of its result. -/
def putWord (width type : Nat) (value : UInt32) : Builder Int :=
  orReturn (lib.put type (leBytes width value.toNat))

def putU8 : Nat → UInt32 → Builder Int := putWord lib 1
def putU16 : Nat → UInt32 → Builder Int := putWord lib 2
def putU32 : Nat → UInt32 → Builder Int := putWord lib 4

def putAddr (type : Nat) (addr : MacAddr) : Builder Int := orReturn (lib.put type addr.bytes)

end Put

/-- `WifiRequest::create(uint32_t, int)`, with the check of its result. -/
def createVendor (env : RequestEnv) (id subcmd : UInt32) : Builder Int :=
  if env.allocated then do
    let _ ← putU32 env.lib nl80211AttrVendorId.toNat id
    let result ← putU32 env.lib nl80211AttrVendorSubcmd.toNat subcmd
    if env.iface ≠ -1 then putU32 env.lib nl80211AttrIfindex.toNat env.iface.toUInt32
    else pure result
  else exit wifiErrorOutOfMemory

namespace ScanCommand

/-- The parameter validity check. -/
def validBand (band : Int32) : Int32 :=
  if band < wifiBandUnspecified ∨ band > wifiBandAbgWithDfs then wifiBandAbg else band

def putChannels (lib : NlLib) (bucket : ScanBucket) (result : Int) : Builder Int :=
  if bucket.numChannels ≠ 0 then do
    let channels ← lib.nestStart gscanAttributeBucketChannels
    let result ← loop (fun j _ => putU32 lib j (bucket.channels j).toUInt32)
      bucket.numChannels.toNatClampNeg 0 result
    lib.nestEnd channels
    pure result
  else pure result

def putBucket (lib : NlLib) (i : Nat) (spec : ScanBucket) : Builder Int := do
  let bucket ← lib.nestStart i
  let result ← (do
    let _ ← putU32 lib gscanAttributeBucketId spec.bucket.toUInt32
    let _ ← putU32 lib gscanAttributeBucketPeriod spec.period.toUInt32
    let _ ← putU32 lib gscanAttributeBucketsBand (validBand spec.band).toUInt32
    let _ ← putU32 lib gscanAttributeBucketStepCount spec.stepCount.toUInt32
    let _ ← putU32 lib gscanAttributeBucketMaxPeriod spec.maxPeriod.toUInt32
    let _ ← putU32 lib gscanAttributeReportEvents spec.reportEvents.toUInt32
    let result ← putU32 lib gscanAttributeBucketNumChannels spec.numChannels.toUInt32
    putChannels lib spec result)
  lib.nestEnd bucket
  pure result

def createSetupRequest (env : RequestEnv) (params : ScanParams) : Builder Int := do
  let _ ← createVendor env googleOui gscanSubcmdSetConfig
  let data ← env.lib.nestStart nl80211AttrVendorData.toNat
  let _result ← (do
    let _ ← putU32 env.lib gscanAttributeBasePeriod params.basePeriod.toUInt32
    let result ← putU32 env.lib gscanAttributeNumBuckets params.numBuckets.toUInt32
    loop (fun i _ => putBucket env.lib i (params.buckets i)) params.numBuckets.toNatClampNeg 0 result)
  env.lib.nestEnd data
  pure wifiSuccess

end ScanCommand

/-- One element of a list of access points, in a nest of its own. -/
def putThreshold (lib : NlLib) (type : Nat) (ap : ApThreshold) : Builder Int := do
  let attr2 ← lib.nestStart type
  if attr2 = none then exit wifiErrorOutOfMemory
  else do
    let result ← (do
      let _ ← putAddr lib gscanAttributeBssid ap.bssid
      let _ ← putU32 lib gscanAttributeRssiHigh ap.high.toUInt32
      putU32 lib gscanAttributeRssiLow ap.low.toUInt32)
    lib.nestEnd attr2
    pure result

def BssidHotlistCommand.createSetupRequest (env : RequestEnv) (params : HotlistParams) :
    Builder Int := do
  let _ ← createVendor env googleOui gscanSubcmdSetHotlist
  let data ← env.lib.nestStart nl80211AttrVendorData.toNat
  let result ← (do
    let _ ← putU8 env.lib gscanAttributeHotlistFlush 1
    let _ ← putU32 env.lib gscanAttributeLostApSampleSize params.lostApSampleSize.toUInt32
    let result ← putU16 env.lib gscanAttributeNumAp params.numBssid.toUInt32
    let attr ← env.lib.nestStart gscanAttributeHotlistBssids
    let result ← loop (fun i _ => putThreshold env.lib gscanAttributeHotlistElem (params.ap i))
      params.numBssid.toNatClampNeg 0 result
    env.lib.nestEnd attr
    pure result)
  env.lib.nestEnd data
  pure result

def SignificantWifiChangeCommand.createSetupRequest (env : RequestEnv)
    (params : SignificantChangeParams) : Builder Int := do
  let _ ← createVendor env googleOui gscanSubcmdSetSignificantChangeConfig
  let data ← env.lib.nestStart nl80211AttrVendorData.toNat
  let result ← (do
    let _ ← putU8 env.lib gscanAttributeSignificantChangeFlush 1
    let _ ← putU16 env.lib gscanAttributeRssiSampleSize params.rssiSampleSize.toUInt32
    let _ ← putU16 env.lib gscanAttributeLostApSampleSize params.lostApSampleSize.toUInt32
    let _ ← putU16 env.lib gscanAttributeMinBreaching params.minBreaching.toUInt32
    let result ← putU16 env.lib gscanAttributeNumAp params.numBssid.toUInt32
    let attr ← env.lib.nestStart gscanAttributeSignificantChangeBssids
    let result ← loop (fun i _ => putThreshold env.lib i (params.ap i))
      params.numBssid.toNatClampNeg 0 result
    env.lib.nestEnd attr
    pure result)
  env.lib.nestEnd data
  pure result

namespace RttCommand

def putTarget (lib : NlLib) (i : Nat) (config : RttConfig) : Builder Int := do
  let attr2 ← lib.nestStart i
  if attr2 = none then exit wifiErrorOutOfMemory
  else do
    let result ← (do
      let _ ← putAddr lib rttAttributeTargetMac config.addr
      let _ ← putU8 lib rttAttributeTargetType config.type
      let _ ← putU8 lib rttAttributeTargetPeer config.peer
      let _ ← orReturn (lib.put rttAttributeTargetChan config.channel)
      let _ ← putU32 lib rttAttributeTargetNumBurst config.numBurst
      let _ ← putU32 lib rttAttributeTargetNumFtmBurst config.numFramesPerBurst
      let _ ← putU32 lib rttAttributeTargetNumRetryFtm config.numRetriesPerRttFrame
      let _ ← putU32 lib rttAttributeTargetNumRetryFtmr config.numRetriesPerFtmr
      let _ ← putU32 lib rttAttributeTargetPeriod config.burstPeriod
      let _ ← putU32 lib rttAttributeTargetBurstDuration config.burstDuration
      let _ ← putU8 lib rttAttributeTargetLci config.lciRequest.toUInt32
      let _ ← putU8 lib rttAttributeTargetLcr config.lcrRequest.toUInt32
      let _ ← putU8 lib rttAttributeTargetBw config.bw
      putU8 lib rttAttributeTargetPreamble config.preamble)
    lib.nestEnd attr2
    pure result

def createSetupRequest (env : RequestEnv) (params : RttParams) : Builder Int := do
  let _ ← createVendor env googleOui rttSubcmdSetConfig
  let data ← env.lib.nestStart nl80211AttrVendorData.toNat
  let _result ← (do
    let result ← putU8 env.lib rttAttributeTargetCnt params.numRttParams
    let rttConfig ← env.lib.nestStart rttAttributeTargetInfo
    let result ← loop (fun i _ => putTarget env.lib i (params.rttParams i))
      params.numRttParams.toNat 0 result
    env.lib.nestEnd rttConfig
    pure result)
  env.lib.nestEnd data
  pure wifiSuccess

end RttCommand

/-! ## The attributes that are written -/

def u32Attr (type : Nat) (value : UInt32) : Attr := (type, leBytes 4 value.toNat)
def u16Attr (type : Nat) (value : UInt32) : Attr := (type, leBytes 2 value.toNat)
def u8Attr (type : Nat) (value : UInt32) : Attr := (type, leBytes 1 value.toNat)

/-- `count` nests numbered from zero. -/
def numberedNests (count : Nat) (attrsOf : Nat → List Attr) : List Attr :=
  (List.range count).map fun i => (i, attrsBytes (attrsOf i))

def createAttrs (env : RequestEnv) (id subcmd : UInt32) : List Attr :=
  [u32Attr nl80211AttrVendorId.toNat id, u32Attr nl80211AttrVendorSubcmd.toNat subcmd] ++
    if env.iface ≠ -1 then [u32Attr nl80211AttrIfindex.toNat env.iface.toUInt32] else []

def channelAttrs (spec : ScanBucket) : List Attr :=
  (List.range spec.numChannels.toNatClampNeg).map fun j => u32Attr j (spec.channels j).toUInt32

def bucketAttrs (spec : ScanBucket) : List Attr :=
  [u32Attr gscanAttributeBucketId spec.bucket.toUInt32,
    u32Attr gscanAttributeBucketPeriod spec.period.toUInt32,
    u32Attr gscanAttributeBucketsBand (ScanCommand.validBand spec.band).toUInt32,
    u32Attr gscanAttributeBucketStepCount spec.stepCount.toUInt32,
    u32Attr gscanAttributeBucketMaxPeriod spec.maxPeriod.toUInt32,
    u32Attr gscanAttributeReportEvents spec.reportEvents.toUInt32,
    u32Attr gscanAttributeBucketNumChannels spec.numChannels.toUInt32] ++
    if spec.numChannels ≠ 0 then [(gscanAttributeBucketChannels, attrsBytes (channelAttrs spec))]
    else []

def scanAttrs (params : ScanParams) : List Attr :=
  [u32Attr gscanAttributeBasePeriod params.basePeriod.toUInt32,
    u32Attr gscanAttributeNumBuckets params.numBuckets.toUInt32] ++
    numberedNests params.numBuckets.toNatClampNeg fun i => bucketAttrs (params.buckets i)

def thresholdAttrs (ap : ApThreshold) : List Attr :=
  [(gscanAttributeBssid, ap.bssid.bytes), u32Attr gscanAttributeRssiHigh ap.high.toUInt32,
    u32Attr gscanAttributeRssiLow ap.low.toUInt32]

def hotlistElements (params : HotlistParams) : List Attr :=
  (List.range params.numBssid.toNatClampNeg).map fun i =>
    (gscanAttributeHotlistElem, attrsBytes (thresholdAttrs (params.ap i)))

def hotlistAttrs (lib : NlLib) (params : HotlistParams) : List Attr :=
  [u8Attr gscanAttributeHotlistFlush 1,
    u32Attr gscanAttributeLostApSampleSize params.lostApSampleSize.toUInt32,
    u16Attr gscanAttributeNumAp params.numBssid.toUInt32] ++
    lib.nested gscanAttributeHotlistBssids (hotlistElements params)

def significantChangeElements (params : SignificantChangeParams) : List Attr :=
  numberedNests params.numBssid.toNatClampNeg fun i => thresholdAttrs (params.ap i)

def significantChangeAttrs (lib : NlLib) (params : SignificantChangeParams) : List Attr :=
  [u8Attr gscanAttributeSignificantChangeFlush 1,
    u16Attr gscanAttributeRssiSampleSize params.rssiSampleSize.toUInt32,
    u16Attr gscanAttributeLostApSampleSize params.lostApSampleSize.toUInt32,
    u16Attr gscanAttributeMinBreaching params.minBreaching.toUInt32,
    u16Attr gscanAttributeNumAp params.numBssid.toUInt32] ++
    lib.nested gscanAttributeSignificantChangeBssids (significantChangeElements params)

def targetAttrs (config : RttConfig) : List Attr :=
  [(rttAttributeTargetMac, config.addr.bytes),
    u8Attr rttAttributeTargetType config.type,
    u8Attr rttAttributeTargetPeer config.peer,
    (rttAttributeTargetChan, config.channel),
    u32Attr rttAttributeTargetNumBurst config.numBurst,
    u32Attr rttAttributeTargetNumFtmBurst config.numFramesPerBurst,
    u32Attr rttAttributeTargetNumRetryFtm config.numRetriesPerRttFrame,
    u32Attr rttAttributeTargetNumRetryFtmr config.numRetriesPerFtmr,
    u32Attr rttAttributeTargetPeriod config.burstPeriod,
    u32Attr rttAttributeTargetBurstDuration config.burstDuration,
    u8Attr rttAttributeTargetLci config.lciRequest.toUInt32,
    u8Attr rttAttributeTargetLcr config.lcrRequest.toUInt32,
    u8Attr rttAttributeTargetBw config.bw,
    u8Attr rttAttributeTargetPreamble config.preamble]

def rttTargets (params : RttParams) : List Attr :=
  numberedNests params.numRttParams.toNat fun i => targetAttrs (params.rttParams i)

def rttAttrs (lib : NlLib) (params : RttParams) : List Attr :=
  [u8Attr rttAttributeTargetCnt params.numRttParams] ++
    lib.nested rttAttributeTargetInfo (rttTargets params)

section Emits

variable {lib : NlLib} {env : RequestEnv} {limit : Nat}

theorem emits_putU32 (type : Nat) (value : UInt32) :
    lib.Emits limit (putU32 lib type value) [u32Attr type value] := NlLib.emits_put _ _

theorem emits_putU16 (type : Nat) (value : UInt32) :
    lib.Emits limit (putU16 lib type value) [u16Attr type value] := NlLib.emits_put _ _

theorem emits_putU8 (type : Nat) (value : UInt32) :
    lib.Emits limit (putU8 lib type value) [u8Attr type value] := NlLib.emits_put _ _

theorem emits_putAddr (type : Nat) (addr : MacAddr) :
    lib.Emits limit (putAddr lib type addr) [(type, addr.bytes)] := NlLib.emits_put _ _

theorem emits_createVendor (id subcmd : UInt32) :
    env.lib.Emits limit (createVendor env id subcmd) (createAttrs env id subcmd) := by
  rw [createVendor]
  by_cases got : env.allocated = true
  · rw [if_pos got]
    refine (emits_putU32 _ id).bind ((emits_putU32 _ subcmd).bind ?_)
    split
    · exact emits_putU32 _ _
    · exact NlLib.emits_pure
  · rw [if_neg got]
    intro msg _ _
    exact .inl ⟨wifiErrorOutOfMemory, by decide, rfl⟩

theorem createAttrs_length_eq (id subcmd : UInt32) :
    (attrsBytes (createAttrs env id subcmd)).length = if env.iface ≠ -1 then 24 else 16 := by
  rw [createAttrs]
  split
  all_goals
    simp [attrsBytes_cons, attrBytes_length, u32Attr, Netlink.align, Netlink.hdrlen]

theorem createAttrs_length (id subcmd : UInt32) :
    (attrsBytes (createAttrs env id subcmd)).length ≤ 24 := by
  rw [createAttrs_length_eq]
  split
  all_goals omega

/-- A request is its vendor header and one nest behind it, which has room to open. -/
theorem emits_request {id subcmd : UInt32} {body : Builder Int} {attrs : List Attr}
    (final : Int → Int) (success : final 0 = 0)
    (emits : env.lib.Emits 28 body attrs) :
    env.lib.Emits 0 (do
      let _ ← createVendor env id subcmd
      let data ← env.lib.nestStart nl80211AttrVendorData.toNat
      let result ← body
      env.lib.nestEnd data
      pure (final result))
      (createAttrs env id subcmd ++ env.lib.nested nl80211AttrVendorData.toNat attrs) := by
  have header := @createAttrs_length env id subcmd
  refine (emits_createVendor id subcmd).bind (NlLib.emits_nest _ final success (.inl ?_) ?_)
  · rw [env.room_eq, Netlink.hdrlen]
    omega
  · exact emits.mono (by simp only [Netlink.hdrlen]; omega)

theorem toNatClampNeg_pos {value : Int32} (natural : 0 ≤ value) (nonzero : value ≠ 0) :
    0 < value.toNatClampNeg := by
  have back := Int32.ofNat_toNatClampNeg value natural
  apply Nat.pos_of_ne_zero
  intro zero
  rw [zero] at back
  exact nonzero back.symm

theorem channelAttrs_ne_nil (spec : ScanBucket) (natural : 0 ≤ spec.numChannels)
    (nonzero : spec.numChannels ≠ 0) : channelAttrs spec ≠ [] := by
  have pos := toNatClampNeg_pos natural nonzero
  intro empty
  have length := congrArg List.length empty
  simp only [channelAttrs, List.length_map, List.length_range, List.length_nil] at length
  omega

/-- A list of channels opens without a check: its first channel needs more room. -/
theorem emits_putChannels (spec : ScanBucket) (natural : 0 ≤ spec.numChannels) :
    lib.Emits limit (ScanCommand.putChannels lib spec 0)
      (if spec.numChannels ≠ 0 then
        [(gscanAttributeBucketChannels, attrsBytes (channelAttrs spec))] else []) := by
  rw [ScanCommand.putChannels]
  by_cases nonzero : spec.numChannels ≠ 0
  · have pos := toNatClampNeg_pos natural nonzero
    rw [if_pos nonzero, if_pos nonzero,
      ← lib.nested_of_ne _ (channelAttrs_ne_nil spec natural nonzero)]
    refine NlLib.emits_nest _ id rfl (.inr ?_) ?_
    · exact NlLib.refuses_loop pos (NlLib.refuses_put _ _)
    · exact NlLib.emits_loop_one _ fun j _ => emits_putU32 _ _
  · rw [if_neg nonzero, if_neg nonzero]
    exact NlLib.emits_pure

/-- So does a bucket. -/
theorem emits_putBucket (i : Nat) (spec : ScanBucket) (natural : 0 ≤ spec.numChannels) :
    lib.Emits limit (ScanCommand.putBucket lib i spec) [(i, attrsBytes (bucketAttrs spec))] := by
  have some_inside : bucketAttrs spec ≠ [] :=
    List.append_ne_nil_of_left_ne_nil (List.cons_ne_nil _ _) _
  rw [← lib.nested_of_ne _ some_inside]
  refine NlLib.emits_nest i id rfl (.inr ?_) ?_
  · exact (NlLib.refuses_put _ _).bind
  · exact (emits_putU32 _ _).bind ((emits_putU32 _ _).bind ((emits_putU32 _ _).bind
      ((emits_putU32 _ _).bind ((emits_putU32 _ _).bind ((emits_putU32 _ _).bind
        ((emits_putU32 _ _).bind (emits_putChannels spec natural)))))))

theorem emits_scan (params : ScanParams)
    (natural : ∀ i < params.numBuckets.toNatClampNeg, 0 ≤ (params.buckets i).numChannels) :
    env.lib.Emits 0 (ScanCommand.createSetupRequest env params)
      (createAttrs env googleOui gscanSubcmdSetConfig ++
        env.lib.nested nl80211AttrVendorData.toNat (scanAttrs params)) := by
  refine emits_request (fun _ => wifiSuccess) rfl ?_
  refine (emits_putU32 _ _).bind ((emits_putU32 _ _).bind ?_)
  exact NlLib.emits_loop_one _ fun i small => emits_putBucket i _ (natural i small)

theorem emits_putThreshold (type : Nat) (ap : ApThreshold) :
    lib.Emits limit (putThreshold lib type ap) [(type, attrsBytes (thresholdAttrs ap))] := by
  have some_inside : thresholdAttrs ap ≠ [] := List.cons_ne_nil _ _
  rw [← lib.nested_of_ne _ some_inside]
  refine NlLib.emits_checked_nest type (by decide) ?_
  exact (emits_putAddr _ _).bind ((emits_putU32 _ _).bind (emits_putU32 _ _))

theorem emits_hotlist (params : HotlistParams) :
    env.lib.Emits 0 (BssidHotlistCommand.createSetupRequest env params)
      (createAttrs env googleOui gscanSubcmdSetHotlist ++
        env.lib.nested nl80211AttrVendorData.toNat (hotlistAttrs env.lib params)) := by
  refine emits_request id rfl ?_
  refine (emits_putU8 _ _).bind ((emits_putU32 _ _).bind ((emits_putU16 _ _).bind ?_))
  refine NlLib.emits_nest _ id rfl (.inl ?_) ?_
  · simp [attrsBytes_cons, attrBytes_length, u8Attr, u16Attr, u32Attr, Netlink.align,
      Netlink.hdrlen, env.room_eq]
  · exact NlLib.emits_loop_one _ fun i _ => emits_putThreshold _ _

theorem emits_significantChange (params : SignificantChangeParams) :
    env.lib.Emits 0 (SignificantWifiChangeCommand.createSetupRequest env params)
      (createAttrs env googleOui gscanSubcmdSetSignificantChangeConfig ++
        env.lib.nested nl80211AttrVendorData.toNat (significantChangeAttrs env.lib params)) := by
  refine emits_request id rfl ?_
  refine (emits_putU8 _ _).bind ((emits_putU16 _ _).bind ((emits_putU16 _ _).bind
    ((emits_putU16 _ _).bind ((emits_putU16 _ _).bind ?_))))
  refine NlLib.emits_nest _ id rfl (.inl ?_) ?_
  · simp [attrsBytes_cons, attrBytes_length, u8Attr, u16Attr, Netlink.align, Netlink.hdrlen,
      env.room_eq]
  · exact NlLib.emits_loop_one _ fun i _ => emits_putThreshold _ _

theorem emits_putTarget (i : Nat) (config : RttConfig) :
    lib.Emits limit (RttCommand.putTarget lib i config) [(i, attrsBytes (targetAttrs config))] := by
  have some_inside : targetAttrs config ≠ [] := List.cons_ne_nil _ _
  rw [← lib.nested_of_ne _ some_inside]
  refine NlLib.emits_checked_nest i (by decide) ?_
  exact (emits_putAddr _ _).bind ((emits_putU8 _ _).bind ((emits_putU8 _ _).bind
    ((NlLib.emits_put _ _).bind ((emits_putU32 _ _).bind ((emits_putU32 _ _).bind
      ((emits_putU32 _ _).bind ((emits_putU32 _ _).bind ((emits_putU32 _ _).bind
        ((emits_putU32 _ _).bind ((emits_putU8 _ _).bind ((emits_putU8 _ _).bind
          ((emits_putU8 _ _).bind (emits_putU8 _ _)))))))))))))

theorem emits_rtt (params : RttParams) :
    env.lib.Emits 0 (RttCommand.createSetupRequest env params)
      (createAttrs env googleOui rttSubcmdSetConfig ++
        env.lib.nested nl80211AttrVendorData.toNat (rttAttrs env.lib params)) := by
  refine emits_request (fun _ => wifiSuccess) rfl ?_
  refine (emits_putU8 _ _).bind (NlLib.emits_nest _ id rfl (.inl ?_) ?_)
  · simp [attrsBytes_cons, attrBytes_length, u8Attr, Netlink.align, Netlink.hdrlen,
      env.room_eq]
  · exact NlLib.emits_loop_one _ fun i _ => emits_putTarget i _

end Emits

section Completes

variable {lib : NlLib} {env : RequestEnv}

theorem completes_createVendor (id subcmd : UInt32) (got : env.allocated = true) :
    env.lib.Completes (createVendor env id subcmd) (createAttrs env id subcmd) := by
  rw [createVendor, if_pos got]
  refine (NlLib.completes_checked_put _ _).bind ((NlLib.completes_checked_put _ _).bind ?_)
  split
  · exact NlLib.completes_checked_put _ _
  · exact NlLib.completes_pure

theorem completes_request {id subcmd : UInt32} {body : Builder Int} {attrs : List Attr}
    (final : Int → Int) (success : final 0 = 0) (got : env.allocated = true)
    (some_inside : attrs ≠ []) (completes : env.lib.Completes body attrs) :
    env.lib.Completes (do
      let _ ← createVendor env id subcmd
      let data ← env.lib.nestStart nl80211AttrVendorData.toNat
      let result ← body
      env.lib.nestEnd data
      pure (final result))
      (createAttrs env id subcmd ++ [(nl80211AttrVendorData.toNat, attrsBytes attrs)]) :=
  (completes_createVendor id subcmd got).bind
    (NlLib.completes_nest _ final success some_inside completes)

theorem completes_putChannels (spec : ScanBucket) (natural : 0 ≤ spec.numChannels) :
    lib.Completes (ScanCommand.putChannels lib spec 0)
      (if spec.numChannels ≠ 0 then
        [(gscanAttributeBucketChannels, attrsBytes (channelAttrs spec))] else []) := by
  rw [ScanCommand.putChannels]
  by_cases nonzero : spec.numChannels ≠ 0
  · rw [if_pos nonzero, if_pos nonzero]
    refine NlLib.completes_nest _ id rfl (channelAttrs_ne_nil spec natural nonzero) ?_
    exact NlLib.completes_loop_one _ fun j _ => NlLib.completes_checked_put _ _
  · rw [if_neg nonzero, if_neg nonzero]
    exact NlLib.completes_pure

theorem completes_putBucket (i : Nat) (spec : ScanBucket) (natural : 0 ≤ spec.numChannels) :
    lib.Completes (ScanCommand.putBucket lib i spec) [(i, attrsBytes (bucketAttrs spec))] := by
  have put (type : Nat) (value : UInt32) :
      lib.Completes (putU32 lib type value) [u32Attr type value] :=
    NlLib.completes_checked_put _ _
  refine NlLib.completes_nest i id rfl
    (List.append_ne_nil_of_left_ne_nil (List.cons_ne_nil _ _) _) ?_
  exact (put _ _).bind ((put _ _).bind ((put _ _).bind ((put _ _).bind ((put _ _).bind
    ((put _ _).bind ((put _ _).bind (completes_putChannels spec natural)))))))

theorem completes_scan (params : ScanParams) (got : env.allocated = true)
    (natural : ∀ i < params.numBuckets.toNatClampNeg, 0 ≤ (params.buckets i).numChannels) :
    env.lib.Completes (ScanCommand.createSetupRequest env params)
      (createAttrs env googleOui gscanSubcmdSetConfig ++
        [(nl80211AttrVendorData.toNat, attrsBytes (scanAttrs params))]) := by
  refine completes_request (fun _ => wifiSuccess) rfl got (List.cons_ne_nil _ _) ?_
  refine (NlLib.completes_checked_put _ _).bind ((NlLib.completes_checked_put _ _).bind ?_)
  exact NlLib.completes_loop_one _ fun i small => completes_putBucket i _ (natural i small)

end Completes

/-! ## The vendor header and `WifiRequest.create` -/

/-- The bytes of one item; the length of a nest is not known before it is closed. -/
def NlItem.render : NlItem → List UInt8
  | .attr type payload => attrBytes type.toNat payload
  | .nestStart type => attrBytes type.toNat []
  | .nestEnd => []

/-- The bytes are those of the message's items. -/
structure Renders (msg : RequestMsg) (bytes : List UInt8) : Prop where
  capacity : msg.capacity = messageCapacity
  used : msg.used = genlHdrlen + bytes.length
  items : msg.items.flatMap NlItem.render = bytes

theorem u32Bytes_eq (value : UInt32) : u32Bytes value = leBytes 4 value.toNat := by
  simp only [u32Bytes, leBytes, List.cons.injEq, and_true]
  refine ⟨?_, ?_, ?_, ?_⟩
  all_goals
    apply UInt8.toNat_inj.mp
    simp [Nat.shiftRight_eq_div_pow]
  all_goals omega

/-- A step of the items and a run of the bytes end alike. -/
def EndAlike (made : Int × RequestMsg) (built : Built Int) : Prop :=
  (made.1 < 0 ∧ built = .returned made.1) ∨
    (made.1 = 0 ∧ ∃ bytes, built = .ok 0 bytes ∧ Renders made.2 bytes)

theorem EndAlike.bind {made : Int × RequestMsg} {run : Builder Int} {bytes : List UInt8}
    {after : Int × RequestMsg} {next : Int → Builder Int} (alike : EndAlike made (run bytes))
    (later : made.1 = 0 → ∀ bytes', Renders made.2 bytes' → EndAlike after (next 0 bytes')) :
    EndAlike (if made.1 < 0 then made else after) ((run >>= next) bytes) := by
  rcases alike with ⟨negative, returned⟩ | ⟨success, bytes', ran, renders⟩
  · rw [if_pos negative, bind_returned returned]
    exact .inl ⟨negative, rfl⟩
  · rw [if_neg (by omega), bind_ok ran]
    exact later success bytes' renders

section Create

variable {iface : Int32} {alloc trims : Bool} {msg : RequestMsg} {bytes : List UInt8}

theorem putU32_alike (renders : Renders msg bytes) (type : UInt16) (value : UInt32) :
    EndAlike (msg.putU32 type value)
      (putU32 (RequestEnv.paged iface alloc trims).lib type.toNat value bytes) := by
  let env := RequestEnv.paged iface alloc trims
  have length : (attrBytes type.toNat (u32Bytes value)).length =
      nlaAlign (nlaHdrlen + (u32Bytes value).length) := by
    rw [attrBytes_length, ← align_header]
    rfl
  have same : msg.used + nlaAlign (nlaHdrlen + (u32Bytes value).length) ≤ msg.capacity ↔
      (bytes ++ attrBytes type.toNat (u32Bytes value)).length ≤ env.lib.room := by
    rw [renders.used, renders.capacity, List.length_append, length, env.room_eq]
    simp only [messageCapacity, genlHdrlen]
    omega
  rw [EndAlike, RequestMsg.putU32, RequestMsg.put, RequestMsg.append]
  by_cases room : msg.used + nlaAlign (nlaHdrlen + (u32Bytes value).length) ≤ msg.capacity
  · have ran : env.lib.put type.toNat (leBytes 4 value.toNat) bytes =
        .ok 0 (bytes ++ attrBytes type.toNat (u32Bytes value)) := by
      rw [← u32Bytes_eq]
      exact env.lib.put_fits (same.mp room)
    rw [if_pos room]
    refine .inr ⟨rfl, bytes ++ attrBytes type.toNat (u32Bytes value), ?_, ⟨?_, ?_, ?_⟩⟩
    · rw [putU32, putWord, orReturn, bind_ok ran]
      rfl
    · exact renders.capacity
    · show msg.used + _ = _
      rw [renders.used, List.length_append, length, Nat.add_assoc]
    · show (msg.items ++ [_]).flatMap _ = _
      rw [List.flatMap_append, renders.items, List.flatMap_singleton]
      rfl
  · have ran : env.lib.put type.toNat (leBytes 4 value.toNat) bytes =
        .ok NlLib.noMemory bytes := by
      rw [← u32Bytes_eq]
      exact if_neg fun fits => room (same.mpr fits)
    rw [if_neg room]
    refine .inl ⟨show -nleNomem < 0 by decide, ?_⟩
    rw [putU32, putWord, orReturn, bind_ok ran]
    rfl

theorem putVendor_alike (renders : Renders msg bytes) (id subcmd : UInt32) :
    EndAlike (msg.putVendor iface id subcmd)
      (createVendor (.paged iface true trims) id subcmd bytes) := by
  have got : (RequestEnv.paged iface true trims).allocated = true := rfl
  rw [createVendor, if_pos got, RequestMsg.putVendor]
  refine (putU32_alike renders nl80211AttrVendorId id).bind fun _ bytes1 renders1 => ?_
  refine (putU32_alike renders1 nl80211AttrVendorSubcmd subcmd).bind
    fun success bytes2 renders2 => ?_
  by_cases noIface : iface = -1
  · have asked : ¬ (RequestEnv.paged iface true trims).iface ≠ -1 := not_not_intro noIface
    rw [if_pos noIface, if_neg asked]
    exact .inr ⟨success, bytes2, rfl, renders2⟩
  · have asked : (RequestEnv.paged iface true trims).iface ≠ -1 := noIface
    rw [if_neg noIface, if_pos asked]
    exact putU32_alike renders2 _ _

/-- The vendor header is what `WifiRequest.create` assembles. -/
theorem createVendor_renders (request : WifiRequest) (id subcmd : UInt32) (alloc trims : Bool) :
    let env := RequestEnv.paged request.mIface alloc trims
    let made := request.create (if alloc then some messageCapacity else none) id subcmd
    (made.1 < 0 ∧ createVendor env id subcmd [] = .returned made.1) ∨
      (made.1 = 0 ∧ ∃ msg bytes, made.2.mMsg = some msg ∧
        createVendor env id subcmd [] = .ok 0 bytes ∧ Renders msg bytes) := by
  intro env made
  cases alloc with
  | false => exact .inl ⟨show wifiErrorOutOfMemory < 0 by decide, rfl⟩
  | true =>
      have empty : Renders ⟨messageCapacity, genlHdrlen, []⟩ [] := ⟨rfl, rfl, rfl⟩
      rcases @putVendor_alike request.mIface trims _ _ empty id subcmd with
        ⟨negative, returned⟩ | ⟨success, bytes, ran, renders⟩
      · exact .inl ⟨negative, returned⟩
      · exact .inr ⟨success, _, bytes, rfl, ran, renders⟩

end Create

end Mt6757.WifiHal
