import Mt6757.WifiHal.SetupRequests

/-!
# Reading setup requests back

What a driver that walks over a setup request finds in it: the parameters, or there is
no request.
-/

set_option autoImplicit false

namespace Mt6757.WifiHal

open NlMessage

/-! ## What a driver reads -/

/-- The payload of the vendor data. -/
def vendorData (msg : List UInt8) : Option (List UInt8) :=
  payloadOf (walk msg) nl80211AttrVendorData.toNat

def readAddr (payload : List UInt8) : Option MacAddr :=
  if whole : payload.length = 6 then some ⟨payload, whole⟩ else none

structure BucketContent where
  bucket : Int32
  band : Int32
  period : Int32
  stepCount : Int32
  maxPeriod : Int32
  reportEvents : UInt8
  channels : List Int32
  deriving DecidableEq

structure ScanContent where
  basePeriod : Int32
  buckets : List BucketContent
  deriving DecidableEq

def readChannel (payload : List UInt8) : Option Int32 := (word 4 payload).map UInt32.toInt32

def readBucket (payload : List UInt8) : Option BucketContent := do
  let attrs := walk payload
  let bucket ← wordOf 4 attrs gscanAttributeBucketId
  let period ← wordOf 4 attrs gscanAttributeBucketPeriod
  let band ← wordOf 4 attrs gscanAttributeBucketsBand
  let stepCount ← wordOf 4 attrs gscanAttributeBucketStepCount
  let maxPeriod ← wordOf 4 attrs gscanAttributeBucketMaxPeriod
  let reportEvents ← wordOf 4 attrs gscanAttributeReportEvents
  let numChannels ← wordOf 4 attrs gscanAttributeBucketNumChannels
  let payloads ← indexed (walk ((payloadOf attrs gscanAttributeBucketChannels).getD []))
  let channels ← payloads.mapM readChannel
  let channels ← counted numChannels.toNat channels
  some
    { bucket := bucket.toInt32
      band := band.toInt32
      period := period.toInt32
      stepCount := stepCount.toInt32
      maxPeriod := maxPeriod.toInt32
      reportEvents := reportEvents.toUInt8
      channels }

/-- Everything but the base period and the number of buckets. -/
def isBucket (attr : Attr) : Bool :=
  attr.1 != gscanAttributeBasePeriod && attr.1 != gscanAttributeNumBuckets

def readScan (payload : List UInt8) : Option ScanContent := do
  let attrs := walk payload
  let basePeriod ← wordOf 4 attrs gscanAttributeBasePeriod
  let numBuckets ← wordOf 4 attrs gscanAttributeNumBuckets
  let payloads ← indexed (attrs.filter isBucket)
  let buckets ← payloads.mapM readBucket
  let buckets ← counted numBuckets.toNat buckets
  some { basePeriod := basePeriod.toInt32, buckets }

def ScanBucket.content (spec : ScanBucket) : BucketContent where
  bucket := spec.bucket
  band := ScanCommand.validBand spec.band
  period := spec.period
  stepCount := spec.stepCount
  maxPeriod := spec.maxPeriod
  reportEvents := spec.reportEvents
  channels := (List.range spec.numChannels.toNatClampNeg).map spec.channels

def ScanParams.content (params : ScanParams) : ScanContent where
  basePeriod := params.basePeriod
  buckets := (List.range params.numBuckets.toNatClampNeg).map fun i => (params.buckets i).content

def readThreshold (payload : List UInt8) : Option ApThreshold := do
  let attrs := walk payload
  let bssid ← (payloadOf attrs gscanAttributeBssid).bind readAddr
  let high ← wordOf 4 attrs gscanAttributeRssiHigh
  let low ← wordOf 4 attrs gscanAttributeRssiLow
  some { bssid, low := low.toInt32, high := high.toInt32 }

structure HotlistContent where
  lostApSampleSize : Int32
  ap : List ApThreshold
  deriving DecidableEq

/-- The payloads of attributes that all have one type. -/
def alike (type : Nat) (attrs : List Attr) : Option (List (List UInt8)) :=
  if attrs.all fun attr => attr.1 == type then some (attrs.map Prod.snd) else none

def readHotlist (payload : List UInt8) : Option HotlistContent := do
  let attrs := walk payload
  let lostApSampleSize ← wordOf 4 attrs gscanAttributeLostApSampleSize
  let numAp ← wordOf 2 attrs gscanAttributeNumAp
  let payloads ← alike gscanAttributeHotlistElem
    (walk ((payloadOf attrs gscanAttributeHotlistBssids).getD []))
  let ap ← payloads.mapM readThreshold
  let ap ← counted numAp.toNat ap
  some { lostApSampleSize := lostApSampleSize.toInt32, ap }

def HotlistParams.content (params : HotlistParams) : HotlistContent where
  lostApSampleSize := params.lostApSampleSize
  ap := (List.range params.numBssid.toNatClampNeg).map params.ap

structure SignificantChangeContent where
  rssiSampleSize : Int32
  lostApSampleSize : Int32
  minBreaching : Int32
  ap : List ApThreshold
  deriving DecidableEq

def readSignificantChange (payload : List UInt8) : Option SignificantChangeContent := do
  let attrs := walk payload
  let rssiSampleSize ← wordOf 2 attrs gscanAttributeRssiSampleSize
  let lostApSampleSize ← wordOf 2 attrs gscanAttributeLostApSampleSize
  let minBreaching ← wordOf 2 attrs gscanAttributeMinBreaching
  let numAp ← wordOf 2 attrs gscanAttributeNumAp
  let payloads ← indexed (walk ((payloadOf attrs gscanAttributeSignificantChangeBssids).getD []))
  let ap ← payloads.mapM readThreshold
  let ap ← counted numAp.toNat ap
  some
    { rssiSampleSize := rssiSampleSize.toInt32
      lostApSampleSize := lostApSampleSize.toInt32
      minBreaching := minBreaching.toInt32
      ap }

def SignificantChangeParams.content (params : SignificantChangeParams) :
    SignificantChangeContent where
  rssiSampleSize := params.rssiSampleSize
  lostApSampleSize := params.lostApSampleSize
  minBreaching := params.minBreaching
  ap := (List.range params.numBssid.toNatClampNeg).map params.ap

def readTarget (payload : List UInt8) : Option RttConfig := do
  let attrs := walk payload
  let addr ← (payloadOf attrs rttAttributeTargetMac).bind readAddr
  let type ← wordOf 1 attrs rttAttributeTargetType
  let peer ← wordOf 1 attrs rttAttributeTargetPeer
  let channel ← payloadOf attrs rttAttributeTargetChan
  let numBurst ← wordOf 4 attrs rttAttributeTargetNumBurst
  let numFramesPerBurst ← wordOf 4 attrs rttAttributeTargetNumFtmBurst
  let numRetriesPerRttFrame ← wordOf 4 attrs rttAttributeTargetNumRetryFtm
  let numRetriesPerFtmr ← wordOf 4 attrs rttAttributeTargetNumRetryFtmr
  let burstPeriod ← wordOf 4 attrs rttAttributeTargetPeriod
  let burstDuration ← wordOf 4 attrs rttAttributeTargetBurstDuration
  let lciRequest ← wordOf 1 attrs rttAttributeTargetLci
  let lcrRequest ← wordOf 1 attrs rttAttributeTargetLcr
  let bw ← wordOf 1 attrs rttAttributeTargetBw
  let preamble ← wordOf 1 attrs rttAttributeTargetPreamble
  some
    { addr, type, peer, channel, burstPeriod, numBurst, numFramesPerBurst, numRetriesPerRttFrame,
      numRetriesPerFtmr, burstDuration, preamble, bw
      lciRequest := lciRequest.toUInt8
      lcrRequest := lcrRequest.toUInt8 }

def readRtt (payload : List UInt8) : Option (List RttConfig) := do
  let attrs := walk payload
  let targetCnt ← wordOf 1 attrs rttAttributeTargetCnt
  let payloads ← indexed (walk ((payloadOf attrs rttAttributeTargetInfo).getD []))
  let targets ← payloads.mapM readTarget
  counted targetCnt.toNat targets

def RttParams.content (params : RttParams) : List RttConfig :=
  (List.range params.numRttParams.toNat).map params.rttParams

/-! ## Reading what was written -/

section Read

variable {lib : NlLib}

theorem toNat_toUInt32 {value : Int32} (natural : 0 ≤ value) :
    value.toUInt32.toNat = value.toNatClampNeg := Int32.toNat_toUInt32_of_le natural

theorem toNatClampNeg_le_iff {value : Int32} {bound : Nat} (small : bound < 2 ^ 31) :
    value.toNatClampNeg ≤ bound ↔ value ≤ .ofNat bound := by
  have clamp : value.toNatClampNeg = value.toInt.toNat := rfl
  rw [Int32.le_iff_toInt_le, Int32.toInt_ofNat_of_lt (by omega), clamp]
  omega

theorem wordOf_u16 {attrs : List Attr} {type : Nat} {value : Int32} (natural : 0 ≤ value)
    (small : value.toNatClampNeg < 65536)
    (here : payloadOf attrs type = some (leBytes 2 value.toUInt32.toNat)) :
    wordOf 2 attrs type = some value.toUInt32 := by
  rw [wordOf, here]
  refine word_leBytes ?_
  rw [toNat_toUInt32 natural]
  exact small

theorem wordOf_u8 {attrs : List Attr} {type : Nat} {value : UInt32} (small : value.toNat < 256)
    (here : payloadOf attrs type = some (leBytes 1 value.toNat)) :
    wordOf 1 attrs type = some value := by
  rw [wordOf, here]
  exact word_leBytes small

theorem element_short (attrs : List Attr) {i : Nat} {payload : List UInt8}
    (here : (i, payload) ∈ attrs) (short : (attrsBytes attrs).length < 65536) :
    payload.length < 65536 :=
  lt_of_le_of_lt (le_trans (Nat.le_add_left _ _) (attr_length_le here)) short

theorem readChannel_back (channel : Int32) :
    readChannel (leBytes 4 channel.toUInt32.toNat) = some channel := by
  simp [readChannel]

theorem readAddr_back (addr : MacAddr) : readAddr addr.bytes = some addr := dif_pos addr.whole

theorem readThreshold_back (ap : ApThreshold)
    (short : (attrsBytes (thresholdAttrs ap)).length < 65536) :
    readThreshold (attrsBytes (thresholdAttrs ap)) = some ap := by
  have walked := walk_attrsBytes (types_small (rfl : (thresholdAttrs ap).all _ = true)) short
  have bssid : payloadOf (thresholdAttrs ap) gscanAttributeBssid = some ap.bssid.bytes := rfl
  have high : wordOf 4 (thresholdAttrs ap) gscanAttributeRssiHigh = some ap.high.toUInt32 :=
    word_leBytes_four _
  have low : wordOf 4 (thresholdAttrs ap) gscanAttributeRssiLow = some ap.low.toUInt32 :=
    word_leBytes_four _
  simp [readThreshold, walked, bssid, high, low, readAddr_back]

theorem channels_back (spec : ScanBucket)
    (short : (attrsBytes (channelAttrs spec)).length < 65536) :
    ((indexed (walk (attrsBytes (channelAttrs spec)))).bind fun payloads =>
      payloads.mapM readChannel) =
      some ((List.range spec.numChannels.toNatClampNeg).map spec.channels) := by
  have walked : walk (attrsBytes (channelAttrs spec)) = channelAttrs spec :=
    @walk_numbered [] (by simp) _ _ short
  have listed : indexed (channelAttrs spec) = some ((List.range spec.numChannels.toNatClampNeg).map
      fun j => leBytes 4 (spec.channels j).toUInt32.toNat) := indexed_map _ _
  rw [walked, listed]
  exact mapM_map fun j _ => readChannel_back _

theorem bucketAttrs_channels (spec : ScanBucket) :
    (payloadOf (bucketAttrs spec) gscanAttributeBucketChannels).getD [] =
      attrsBytes (channelAttrs spec) := by
  rw [bucketAttrs, payloadOf_append rfl]
  by_cases nonzero : spec.numChannels ≠ 0
  · rw [if_pos nonzero]
    rfl
  · rw [if_neg nonzero, channelAttrs, not_not.mp nonzero]
    rfl

theorem bucketAttrs_types (spec : ScanBucket) : ∀ attr ∈ bucketAttrs spec, attr.1 < 65536 := by
  intro attr here
  rcases List.mem_append.mp here with here | here
  · exact types_small (rfl : List.all _ _ = true) attr here
  · split at here
    · rw [List.mem_singleton.mp here]
      show gscanAttributeBucketChannels < 65536
      decide
    · cases here

/-- A bucket, whose list of channels is there if it has any. -/
theorem readBucket_back (spec : ScanBucket) (natural : 0 ≤ spec.numChannels)
    (short : (attrsBytes (bucketAttrs spec)).length < 65536) :
    readBucket (attrsBytes (bucketAttrs spec)) = some spec.content := by
  have walked := walk_attrsBytes (bucketAttrs_types spec) short
  have bucket : wordOf 4 (bucketAttrs spec) gscanAttributeBucketId =
      some spec.bucket.toUInt32 := word_leBytes_four _
  have period : wordOf 4 (bucketAttrs spec) gscanAttributeBucketPeriod =
      some spec.period.toUInt32 := word_leBytes_four _
  have band : wordOf 4 (bucketAttrs spec) gscanAttributeBucketsBand =
      some (ScanCommand.validBand spec.band).toUInt32 := word_leBytes_four _
  have stepCount : wordOf 4 (bucketAttrs spec) gscanAttributeBucketStepCount =
      some spec.stepCount.toUInt32 := word_leBytes_four _
  have maxPeriod : wordOf 4 (bucketAttrs spec) gscanAttributeBucketMaxPeriod =
      some spec.maxPeriod.toUInt32 := word_leBytes_four _
  have reportEvents : wordOf 4 (bucketAttrs spec) gscanAttributeReportEvents =
      some spec.reportEvents.toUInt32 := word_leBytes_four _
  have numChannels : wordOf 4 (bucketAttrs spec) gscanAttributeBucketNumChannels =
      some spec.numChannels.toUInt32 := word_leBytes_four _
  have channels_short : (attrsBytes (channelAttrs spec)).length < 65536 := by
    by_cases nonzero : spec.numChannels ≠ 0
    · have here : (gscanAttributeBucketChannels, attrsBytes (channelAttrs spec)) ∈
          bucketAttrs spec := by
        refine List.mem_append_right _ ?_
        rw [if_pos nonzero]
        exact List.mem_singleton_self _
      exact element_short (bucketAttrs spec) here short
    · have no_channels : channelAttrs spec = [] := by
        rw [channelAttrs, not_not.mp nonzero]
        rfl
      rw [no_channels]
      decide
  have channels := channels_back spec channels_short
  obtain ⟨payloads, listed, read⟩ := Option.bind_eq_some_iff.mp channels
  have count := counted_map spec.channels spec.numChannels.toNatClampNeg
  rw [← toNat_toUInt32 natural] at count
  simp only [readBucket, walked, bucket, period, band, stepCount, maxPeriod, reportEvents,
    numChannels, bucketAttrs_channels, listed, read, Option.bind_eq_bind, Option.bind_some]
  rw [← toNat_toUInt32 natural, count]
  simp [ScanBucket.content, toNat_toUInt32 natural]

/-- The first ten buckets are told from the two attributes before them. -/
theorem filter_scanAttrs (params : ScanParams) (few : params.numBuckets.toNatClampNeg ≤ 10) :
    (scanAttrs params).filter isBucket =
      numberedNests params.numBuckets.toNatClampNeg fun i => bucketAttrs (params.buckets i) := by
  have own : (numberedNests params.numBuckets.toNatClampNeg fun i =>
      bucketAttrs (params.buckets i)).filter isBucket =
        numberedNests params.numBuckets.toNatClampNeg fun i => bucketAttrs (params.buckets i) := by
    refine List.filter_eq_self.mpr fun attr here => ?_
    obtain ⟨i, small, rfl⟩ := List.mem_map.mp here
    have below := List.mem_range.mp small
    simp only [isBucket, gscanAttributeBasePeriod, gscanAttributeNumBuckets, Bool.and_eq_true,
      bne_iff_ne]
    omega
  rw [scanAttrs, List.filter_append, own]
  rfl

/-- The eleventh bucket passes for their number. -/
theorem filter_scanAttrs_lt (params : ScanParams) (many : 10 < params.numBuckets.toNatClampNeg) :
    ((scanAttrs params).filter isBucket).length < params.numBuckets.toNatClampNeg := by
  have lost : ∃ attr ∈ numberedNests params.numBuckets.toNatClampNeg fun i =>
      bucketAttrs (params.buckets i), ¬ isBucket attr = true :=
    ⟨_, List.mem_map_of_mem (List.mem_range.mpr many), by
      simp [isBucket, gscanAttributeNumBuckets]⟩
  have fewer := List.length_filter_lt_length_iff_exists.mpr lost
  rw [numberedNests, List.length_map, List.length_range] at fewer
  rw [scanAttrs, List.filter_append, List.length_append]
  exact lt_of_eq_of_lt (Nat.zero_add _) fewer

theorem walk_scanAttrs (params : ScanParams)
    (short : (attrsBytes (scanAttrs params)).length < 65536) :
    walk (attrsBytes (scanAttrs params)) = scanAttrs params := walk_numbered (types_small rfl) short

theorem readScan_back (params : ScanParams) (natural : 0 ≤ params.numBuckets)
    (channels : ∀ i < params.numBuckets.toNatClampNeg, 0 ≤ (params.buckets i).numChannels)
    (few : params.numBuckets.toNatClampNeg ≤ 10)
    (short : (attrsBytes (scanAttrs params)).length < 65536) :
    readScan (attrsBytes (scanAttrs params)) = some params.content := by
  have basePeriod : wordOf 4 (scanAttrs params) gscanAttributeBasePeriod =
      some params.basePeriod.toUInt32 := word_leBytes_four _
  have numBuckets : wordOf 4 (scanAttrs params) gscanAttributeNumBuckets =
      some params.numBuckets.toUInt32 := word_leBytes_four _
  have listed := indexed_map (fun i => attrsBytes (bucketAttrs (params.buckets i)))
    params.numBuckets.toNatClampNeg
  have read : ((List.range params.numBuckets.toNatClampNeg).map fun i =>
      attrsBytes (bucketAttrs (params.buckets i))).mapM readBucket =
        some ((List.range params.numBuckets.toNatClampNeg).map fun i =>
          (params.buckets i).content) := by
    refine mapM_map fun i here => readBucket_back _ (channels i (List.mem_range.mp here)) ?_
    exact element_short (scanAttrs params) (List.mem_append_right _ (List.mem_map_of_mem here)) short
  have count := counted_map (fun i => (params.buckets i).content) params.numBuckets.toNatClampNeg
  simp only [readScan, walk_scanAttrs params short, basePeriod, numBuckets,
    filter_scanAttrs params few, numberedNests, listed, read, Option.bind_eq_bind,
    Option.bind_some, toNat_toUInt32 natural, count]
  simp [ScanParams.content]

/-- A reader that goes by type gives as many buckets as it finds containers for. -/
theorem readScan_length {payload : List UInt8} {content : ScanContent}
    (read : readScan payload = some content) :
    content.buckets.length = ((walk payload).filter isBucket).length := by
  simp only [readScan, Option.bind_eq_bind, Option.bind_eq_some_iff] at read
  obtain ⟨basePeriod, -, numBuckets, -, payloads, listed, buckets, each, _, count, whole⟩ := read
  rw [indexed] at listed
  split at listed
  · obtain rfl := Option.some.inj listed
    rw [counted] at count
    split at count
    · obtain rfl := Option.some.inj count
      obtain rfl := Option.some.inj whole
      rw [mapM_length each, List.length_map]
    · cases count
  · cases listed

theorem readScan_lost (params : ScanParams) (many : 10 < params.numBuckets.toNatClampNeg)
    (short : (attrsBytes (scanAttrs params)).length < 65536) :
    readScan (attrsBytes (scanAttrs params)) ≠ some params.content := by
  intro read
  have length := readScan_length read
  have fewer := filter_scanAttrs_lt params many
  rw [walk_scanAttrs params short] at length
  rw [ScanParams.content, List.length_map, List.length_range] at length
  omega

/-- Elements of a list of access points, each a nest of its own. -/
theorem thresholds_back (ap : Nat → ApThreshold) (n : Nat)
    (short : ∀ i < n, (attrsBytes (thresholdAttrs (ap i))).length < 65536) :
    ((List.range n).map fun i => attrsBytes (thresholdAttrs (ap i))).mapM readThreshold =
      some ((List.range n).map ap) :=
  mapM_map fun i here => readThreshold_back _ (short i (List.mem_range.mp here))

/-- The contents of a nest behind other attributes are shorter than all of them. -/
theorem nested_short {first attrs : List Attr} {type : Nat}
    (short : (attrsBytes (first ++ lib.nested type attrs)).length < 65536) :
    (attrsBytes attrs).length < 65536 := by
  have inside := lib.nested_length type attrs
  rw [attrsBytes_append, List.length_append] at short
  omega

theorem nested_walk {first attrs : List Attr} {type : Nat} (small : type < 65536)
    (types : ∀ attr ∈ first, attr.1 < 65536)
    (short : (attrsBytes (first ++ lib.nested type attrs)).length < 65536) :
    walk (attrsBytes (first ++ lib.nested type attrs)) = first ++ lib.nested type attrs := by
  refine walk_attrsBytes (fun attr here => ?_) short
  rcases List.mem_append.mp here with here | here
  · exact types attr here
  · rw [lib.nested_types type attrs attr here]
    exact small

theorem readHotlist_back (params : HotlistParams) (natural : 0 ≤ params.numBssid)
    (small : params.numBssid.toNatClampNeg < 65536)
    (short : (attrsBytes (hotlistAttrs lib params)).length < 65536) :
    readHotlist (attrsBytes (hotlistAttrs lib params)) = some params.content := by
  have elements_short : (attrsBytes (hotlistElements params)).length < 65536 := nested_short short
  have walked : walk (attrsBytes (hotlistAttrs lib params)) = hotlistAttrs lib params :=
    nested_walk (by decide) (types_small rfl) short
  have lost : wordOf 4 (hotlistAttrs lib params) gscanAttributeLostApSampleSize =
      some params.lostApSampleSize.toUInt32 := word_leBytes_four _
  have numAp : wordOf 2 (hotlistAttrs lib params) gscanAttributeNumAp =
      some params.numBssid.toUInt32 := wordOf_u16 natural small rfl
  have inside : (payloadOf (hotlistAttrs lib params) gscanAttributeHotlistBssids).getD [] =
      attrsBytes (hotlistElements params) := lib.payloadOf_nested _ rfl
  have elements : walk (attrsBytes (hotlistElements params)) = hotlistElements params := by
    refine walk_attrsBytes (fun attr here => ?_) elements_short
    obtain ⟨i, -, rfl⟩ := List.mem_map.mp here
    show gscanAttributeHotlistElem < 65536
    decide
  have listed : alike gscanAttributeHotlistElem (hotlistElements params) =
      some ((List.range params.numBssid.toNatClampNeg).map fun i =>
        attrsBytes (thresholdAttrs (params.ap i))) := by
    simp [alike, hotlistElements, Function.comp_def]
  have read := thresholds_back params.ap params.numBssid.toNatClampNeg fun i small =>
    element_short (hotlistElements params)
      (List.mem_map_of_mem (List.mem_range.mpr small)) elements_short
  simp only [readHotlist, walked, lost, numAp, inside, elements, listed, read,
    Option.bind_eq_bind, Option.bind_some, toNat_toUInt32 natural, counted_map]
  simp [HotlistParams.content]

theorem readSignificantChange_back (params : SignificantChangeParams)
    (rssi : 0 ≤ params.rssiSampleSize ∧ params.rssiSampleSize.toNatClampNeg < 65536)
    (lost : 0 ≤ params.lostApSampleSize ∧ params.lostApSampleSize.toNatClampNeg < 65536)
    (breaching : 0 ≤ params.minBreaching ∧ params.minBreaching.toNatClampNeg < 65536)
    (num : 0 ≤ params.numBssid ∧ params.numBssid.toNatClampNeg < 65536)
    (short : (attrsBytes (significantChangeAttrs lib params)).length < 65536) :
    readSignificantChange (attrsBytes (significantChangeAttrs lib params)) =
      some params.content := by
  have elements_short : (attrsBytes (significantChangeElements params)).length < 65536 :=
    nested_short short
  have walked : walk (attrsBytes (significantChangeAttrs lib params)) =
      significantChangeAttrs lib params := nested_walk (by decide) (types_small rfl) short
  have rssiSampleSize : wordOf 2 (significantChangeAttrs lib params)
      gscanAttributeRssiSampleSize = some params.rssiSampleSize.toUInt32 :=
    wordOf_u16 rssi.1 rssi.2 rfl
  have lostApSampleSize : wordOf 2 (significantChangeAttrs lib params)
      gscanAttributeLostApSampleSize = some params.lostApSampleSize.toUInt32 :=
    wordOf_u16 lost.1 lost.2 rfl
  have minBreaching : wordOf 2 (significantChangeAttrs lib params)
      gscanAttributeMinBreaching = some params.minBreaching.toUInt32 :=
    wordOf_u16 breaching.1 breaching.2 rfl
  have numAp : wordOf 2 (significantChangeAttrs lib params) gscanAttributeNumAp =
      some params.numBssid.toUInt32 := wordOf_u16 num.1 num.2 rfl
  have inside : (payloadOf (significantChangeAttrs lib params)
      gscanAttributeSignificantChangeBssids).getD [] =
        attrsBytes (significantChangeElements params) := lib.payloadOf_nested _ rfl
  have elements : walk (attrsBytes (significantChangeElements params)) =
      significantChangeElements params := @walk_numbered [] (by simp) _ _ elements_short
  have listed : indexed (significantChangeElements params) =
      some ((List.range params.numBssid.toNatClampNeg).map fun i =>
        attrsBytes (thresholdAttrs (params.ap i))) := indexed_map _ _
  have read := thresholds_back params.ap params.numBssid.toNatClampNeg fun i small =>
    element_short (significantChangeElements params)
      (List.mem_map_of_mem (List.mem_range.mpr small)) elements_short
  simp only [readSignificantChange, walked, rssiSampleSize, lostApSampleSize, minBreaching, numAp,
    inside, elements, listed, read, Option.bind_eq_bind, Option.bind_some, toNat_toUInt32 num.1,
    counted_map]
  simp [SignificantChangeParams.content]

/-- What a configuration has to be like for its bytes to hold its numbers. -/
def RttConfig.InWidth (config : RttConfig) : Prop :=
  config.type.toNat < 256 ∧ config.peer.toNat < 256 ∧ config.bw.toNat < 256 ∧
    config.preamble.toNat < 256

instance (config : RttConfig) : Decidable config.InWidth := by
  unfold RttConfig.InWidth
  infer_instance

theorem readTarget_back (config : RttConfig) (width : config.InWidth)
    (short : (attrsBytes (targetAttrs config)).length < 65536) :
    readTarget (attrsBytes (targetAttrs config)) = some config := by
  obtain ⟨typeWidth, peerWidth, bwWidth, preambleWidth⟩ := width
  have walked := walk_attrsBytes (types_small (rfl : (targetAttrs config).all _ = true)) short
  have addr : payloadOf (targetAttrs config) rttAttributeTargetMac = some config.addr.bytes := rfl
  have type : wordOf 1 (targetAttrs config) rttAttributeTargetType = some config.type :=
    wordOf_u8 typeWidth rfl
  have peer : wordOf 1 (targetAttrs config) rttAttributeTargetPeer = some config.peer :=
    wordOf_u8 peerWidth rfl
  have channel : payloadOf (targetAttrs config) rttAttributeTargetChan = some config.channel := rfl
  have numBurst : wordOf 4 (targetAttrs config) rttAttributeTargetNumBurst =
      some config.numBurst := word_leBytes_four _
  have numFrames : wordOf 4 (targetAttrs config) rttAttributeTargetNumFtmBurst =
      some config.numFramesPerBurst := word_leBytes_four _
  have numRetriesFrame : wordOf 4 (targetAttrs config) rttAttributeTargetNumRetryFtm =
      some config.numRetriesPerRttFrame := word_leBytes_four _
  have numRetriesFtmr : wordOf 4 (targetAttrs config) rttAttributeTargetNumRetryFtmr =
      some config.numRetriesPerFtmr := word_leBytes_four _
  have period : wordOf 4 (targetAttrs config) rttAttributeTargetPeriod =
      some config.burstPeriod := word_leBytes_four _
  have duration : wordOf 4 (targetAttrs config) rttAttributeTargetBurstDuration =
      some config.burstDuration := word_leBytes_four _
  have lci : wordOf 1 (targetAttrs config) rttAttributeTargetLci =
      some config.lciRequest.toUInt32 := wordOf_u8 (by simpa using config.lciRequest.toNat_lt) rfl
  have lcr : wordOf 1 (targetAttrs config) rttAttributeTargetLcr =
      some config.lcrRequest.toUInt32 := wordOf_u8 (by simpa using config.lcrRequest.toNat_lt) rfl
  have bw : wordOf 1 (targetAttrs config) rttAttributeTargetBw = some config.bw :=
    wordOf_u8 bwWidth rfl
  have preamble : wordOf 1 (targetAttrs config) rttAttributeTargetPreamble =
      some config.preamble := wordOf_u8 preambleWidth rfl
  simp [readTarget, walked, addr, type, peer, channel, numBurst, numFrames, numRetriesFrame,
    numRetriesFtmr, period, duration, lci, lcr, bw, preamble, readAddr_back]

theorem readRtt_back (params : RttParams) (small : params.numRttParams.toNat < 256)
    (width : ∀ i < params.numRttParams.toNat, (params.rttParams i).InWidth)
    (short : (attrsBytes (rttAttrs lib params)).length < 65536) :
    readRtt (attrsBytes (rttAttrs lib params)) = some params.content := by
  have targets_short : (attrsBytes (rttTargets params)).length < 65536 := nested_short short
  have walked : walk (attrsBytes (rttAttrs lib params)) = rttAttrs lib params :=
    nested_walk (by decide) (types_small rfl) short
  have targetCnt : wordOf 1 (rttAttrs lib params) rttAttributeTargetCnt =
      some params.numRttParams := wordOf_u8 small rfl
  have inside : (payloadOf (rttAttrs lib params) rttAttributeTargetInfo).getD [] =
      attrsBytes (rttTargets params) := lib.payloadOf_nested _ rfl
  have targets : walk (attrsBytes (rttTargets params)) = rttTargets params :=
    @walk_numbered [] (by simp) _ _ targets_short
  have listed : indexed (rttTargets params) = some ((List.range params.numRttParams.toNat).map
      fun i => attrsBytes (targetAttrs (params.rttParams i))) := indexed_map _ _
  have read : ((List.range params.numRttParams.toNat).map fun i =>
      attrsBytes (targetAttrs (params.rttParams i))).mapM readTarget =
        some ((List.range params.numRttParams.toNat).map params.rttParams) :=
    mapM_map fun i here => readTarget_back _ (width i (List.mem_range.mp here))
      (element_short (rttTargets params) (List.mem_map_of_mem here) targets_short)
  simp only [readRtt, walked, targetCnt, inside, targets, listed, read, Option.bind_eq_bind,
    Option.bind_some, counted_map]
  rfl

end Read

/-! ## The four commands -/

inductive SetupCommand where
  | scan (params : ScanParams)
  | hotlist (params : HotlistParams)
  | significantChange (params : SignificantChangeParams)
  | rtt (params : RttParams)

namespace SetupCommand

def createSetupRequest (env : RequestEnv) : SetupCommand → Builder Int
  | scan params => ScanCommand.createSetupRequest env params
  | hotlist params => BssidHotlistCommand.createSetupRequest env params
  | significantChange params => SignificantWifiChangeCommand.createSetupRequest env params
  | rtt params => RttCommand.createSetupRequest env params

/-- Counts are not negative, and numbers have the width of their attributes. -/
def InRange : SetupCommand → Prop
  | scan params => 0 ≤ params.numBuckets ∧
      ∀ i < params.numBuckets.toNatClampNeg, 0 ≤ (params.buckets i).numChannels
  | hotlist params => 0 ≤ params.numBssid ∧ params.numBssid.toNatClampNeg < 65536
  | significantChange params =>
      (0 ≤ params.rssiSampleSize ∧ params.rssiSampleSize.toNatClampNeg < 65536) ∧
      (0 ≤ params.lostApSampleSize ∧ params.lostApSampleSize.toNatClampNeg < 65536) ∧
      (0 ≤ params.minBreaching ∧ params.minBreaching.toNatClampNeg < 65536) ∧
      (0 ≤ params.numBssid ∧ params.numBssid.toNatClampNeg < 65536)
  | rtt params => params.numRttParams.toNat < 256 ∧
      ∀ i < params.numRttParams.toNat, (params.rttParams i).InWidth

instance : DecidablePred InRange
  | scan _ => inferInstanceAs (Decidable (_ ∧ _))
  | hotlist _ => inferInstanceAs (Decidable (_ ∧ _))
  | significantChange _ => inferInstanceAs (Decidable (_ ∧ _))
  | rtt _ => inferInstanceAs (Decidable (_ ∧ _))

/-- The parameters can be read back from the vendor data. -/
def ReadsBack (payload : List UInt8) : SetupCommand → Prop
  | scan params => readScan payload = some params.content
  | hotlist params => readHotlist payload = some params.content
  | significantChange params => readSignificantChange payload = some params.content
  | rtt params => readRtt payload = some params.content

def subcmd : SetupCommand → UInt32
  | scan _ => gscanSubcmdSetConfig
  | hotlist _ => gscanSubcmdSetHotlist
  | significantChange _ => gscanSubcmdSetSignificantChangeConfig
  | rtt _ => rttSubcmdSetConfig

def attrs (lib : NlLib) : SetupCommand → List Attr
  | scan params => scanAttrs params
  | hotlist params => hotlistAttrs lib params
  | significantChange params => significantChangeAttrs lib params
  | rtt params => rttAttrs lib params

variable (env : RequestEnv) (command : SetupCommand)

theorem attrs_ne_nil : command.attrs env.lib ≠ [] := by
  cases command with
  | scan params => exact List.cons_ne_nil _ _
  | hotlist params => exact List.cons_ne_nil _ _
  | significantChange params => exact List.cons_ne_nil _ _
  | rtt params => exact List.cons_ne_nil _ _

theorem emits (inRange : command.InRange) :
    env.lib.Emits 0 (command.createSetupRequest env)
      (createAttrs env googleOui command.subcmd ++
        env.lib.nested nl80211AttrVendorData.toNat (command.attrs env.lib)) := by
  cases command with
  | scan params => exact emits_scan params inRange.2
  | hotlist params => exact emits_hotlist params
  | significantChange params => exact emits_significantChange params
  | rtt params => exact emits_rtt params

/-- What a driver does not find otherwise in the vendor data: no bucket has the type of the
base period or of the number of buckets. -/
def TypesApart : SetupCommand → Prop
  | scan params => params.numBuckets ≤ 10
  | _ => True

theorem reads_back_iff (inRange : command.InRange)
    (short : (attrsBytes (command.attrs env.lib)).length < 65536) :
    command.ReadsBack (attrsBytes (command.attrs env.lib)) ↔ command.TypesApart := by
  cases command with
  | scan params =>
      have bound : params.numBuckets.toNatClampNeg ≤ 10 ↔ params.numBuckets ≤ 10 :=
        toNatClampNeg_le_iff (by decide)
      constructor
      · intro read
        by_contra many
        exact readScan_lost params (Nat.lt_of_not_le (mt bound.mp many)) short read
      · intro few
        exact readScan_back params inRange.1 inRange.2 (bound.mpr few) short
  | hotlist params =>
      exact iff_of_true (readHotlist_back params inRange.1 inRange.2 short) trivial
  | significantChange params =>
      obtain ⟨rssi, lost, breaching, num⟩ := inRange
      exact iff_of_true (readSignificantChange_back params rssi lost breaching num short) trivial
  | rtt params => exact iff_of_true (readRtt_back params inRange.1 inRange.2 short) trivial

end SetupCommand

theorem vendorData_back {env : RequestEnv} {id subcmd : UInt32} {attrs : List Attr}
    (some_inside : attrs ≠ [])
    (short : (attrsBytes (createAttrs env id subcmd ++
      env.lib.nested nl80211AttrVendorData.toNat attrs)).length < 65536) :
    vendorData (attrsBytes (createAttrs env id subcmd ++
      env.lib.nested nl80211AttrVendorData.toNat attrs)) = some (attrsBytes attrs) := by
  have types : ∀ attr ∈ createAttrs env id subcmd, attr.1 < 65536 := by
    rw [createAttrs]
    split
    · exact types_small rfl
    · exact types_small rfl
  have absent : (createAttrs env id subcmd).find?
      (fun attr => attr.1 == nl80211AttrVendorData.toNat) = none := by
    rw [createAttrs]
    split
    · rfl
    · rfl
  rw [vendorData, nested_walk (by decide) types short, payloadOf_append absent,
    env.lib.nested_of_ne _ some_inside]
  rfl

namespace SetupCommand

variable (env : RequestEnv) (command : SetupCommand)

def Refused : Prop := ∃ code, code < 0 ∧ command.createSetupRequest env [] = .returned code

/-- The request is refused with a negative code, or the parameters can be read back from it;
no nest is closed that was not opened. -/
def RefusedOrReadsBack : Prop :=
  command.Refused env ∨ ∃ msg vendor, command.createSetupRequest env [] = .ok wifiSuccess msg ∧
    genlHdrlen + msg.length ≤ messageCapacity ∧ vendorData msg = some vendor ∧
    command.ReadsBack vendor

/-- A message that is not refused carries the attributes of the command. -/
theorem refused_or_assembled (inRange : command.InRange) :
    command.Refused env ∨ ∃ msg, command.createSetupRequest env [] = .ok wifiSuccess msg ∧
      genlHdrlen + msg.length ≤ messageCapacity ∧
      vendorData msg = some (attrsBytes (command.attrs env.lib)) ∧
      (attrsBytes (command.attrs env.lib)).length < 65536 := by
  rcases command.emits env inRange [] (le_refl _) (Nat.zero_le _) with failed | ⟨fits, ran⟩
  · exact .inl failed
  rw [List.nil_append] at fits ran
  have room := env.room_eq
  have vendor := vendorData_back (command.attrs_ne_nil env) (lt_of_le_of_lt fits (by rw [room]; decide))
  have inside := env.lib.nested_length nl80211AttrVendorData.toNat (command.attrs env.lib)
  rw [attrsBytes_append, List.length_append] at fits
  refine .inr ⟨_, ran, ?_, vendor, by omega⟩
  rw [attrsBytes_append, List.length_append]
  simp only [genlHdrlen, messageCapacity]
  omega

theorem refusedOrReadsBack_iff (inRange : command.InRange) :
    command.RefusedOrReadsBack env ↔ command.TypesApart ∨ command.Refused env := by
  rcases command.refused_or_assembled env inRange with refused | ⟨msg, ran, fits, found, short⟩
  · exact iff_of_true (.inl refused) (.inr refused)
  have reads := command.reads_back_iff env inRange short
  constructor
  · rintro (refused | ⟨msg', vendor, ran', -, found', read⟩)
    · exact .inr refused
    · rw [ran] at ran'
      obtain ⟨-, rfl⟩ := Built.ok.inj ran'
      rw [found] at found'
      obtain rfl := Option.some.inj found'
      exact .inl (reads.mp read)
  · rintro (apart | refused)
    · exact .inr ⟨msg, _, ran, fits, found, reads.mpr apart⟩
    · exact .inl refused

end SetupCommand

/-! ## The length of a scan -/

/-- The attributes of a bucket in its container. -/
def bucketLength (spec : ScanBucket) : Nat :=
  60 + if spec.numChannels ≠ 0 then 4 + 8 * spec.numChannels.toNatClampNeg else 0

/-- The whole message, with the headers before its attributes. -/
def scanLength (env : RequestEnv) (params : ScanParams) : Nat :=
  (if env.iface ≠ -1 then 64 else 56) +
    ((List.range params.numBuckets.toNatClampNeg).map fun i => bucketLength (params.buckets i)).sum

theorem channelAttrs_length (spec : ScanBucket) :
    (attrsBytes (channelAttrs spec)).length = 8 * spec.numChannels.toNatClampNeg := by
  rw [channelAttrs]
  induction spec.numChannels.toNatClampNeg with
  | zero => rfl
  | succ n ih =>
      rw [List.range_succ, List.map_append, attrsBytes_append, List.length_append, ih]
      simp only [List.map_cons, List.map_nil, attrsBytes_cons, attrsBytes_nil, List.append_nil,
        u32Attr, attrBytes_length, leBytes_length, Netlink.align, Netlink.hdrlen]
      omega

theorem bucketAttrs_length (i : Nat) (spec : ScanBucket) :
    (attrBytes i (attrsBytes (bucketAttrs spec))).length = bucketLength spec := by
  rw [nest_length, bucketAttrs, attrsBytes_append, List.length_append, bucketLength]
  simp only [attrsBytes_cons, attrsBytes_nil, List.append_nil, List.length_append, u32Attr,
    attrBytes_length, leBytes_length, Netlink.align, Netlink.hdrlen]
  by_cases nonzero : spec.numChannels ≠ 0
  · rw [if_pos nonzero, if_pos nonzero, attrsBytes_cons, attrsBytes_nil, List.append_nil,
      nest_length, channelAttrs_length, Netlink.hdrlen]
    omega
  · rw [if_neg nonzero, if_neg nonzero]
    rfl

theorem scanRequest_length (env : RequestEnv) (params : ScanParams) :
    genlHdrlen + (attrsBytes (createAttrs env googleOui gscanSubcmdSetConfig ++
      [(nl80211AttrVendorData.toNat, attrsBytes (scanAttrs params))])).length =
      scanLength env params := by
  have buckets : (attrsBytes (numberedNests params.numBuckets.toNatClampNeg fun i =>
      bucketAttrs (params.buckets i))).length = ((List.range params.numBuckets.toNatClampNeg).map
        fun i => bucketLength (params.buckets i)).sum := by
    rw [attrsBytes, List.length_flatMap, numberedNests, List.map_map]
    exact congrArg List.sum (List.map_congr_left fun i _ => bucketAttrs_length i _)
  have created := @createAttrs_length_eq env googleOui gscanSubcmdSetConfig
  rw [attrsBytes_append, List.length_append, created, scanLength, attrsBytes_cons, attrsBytes_nil,
    List.append_nil, nest_length, scanAttrs, attrsBytes_append, List.length_append, buckets]
  simp only [attrsBytes_cons, attrsBytes_nil, List.append_nil, List.length_append, u32Attr,
    attrBytes_length, leBytes_length, Netlink.align, Netlink.hdrlen, genlHdrlen]
  split
  all_goals omega

/-! ## What becomes of a request -/

namespace SetupCommand

/-- A scan is refused where there is no message, or no room for it. -/
theorem scan_refused_iff {env : RequestEnv} {params : ScanParams}
    (inRange : (scan params).InRange) :
    (scan params).Refused env ↔
      env.allocated = false ∨ messageCapacity < scanLength env params := by
  have length := scanRequest_length env params
  simp only [genlHdrlen, messageCapacity] at length ⊢
  constructor
  · rintro ⟨code, -, returned⟩
    by_contra both
    rw [not_or, Bool.not_eq_false] at both
    have ran : (scan params).createSetupRequest env [] = .ok 0 _ :=
      completes_scan params both.1 inRange.2 [] (by
        rw [List.nil_append, env.room_eq]
        omega)
    rw [ran] at returned
    cases returned
  · rintro (missing | large)
    · refine ⟨wifiErrorOutOfMemory, by decide, bind_returned ?_⟩
      rw [createVendor, if_neg (by simp [missing])]
      rfl
    · rcases @emits_scan env params inRange.2 [] (le_refl _) (Nat.zero_le _) with
        failed | ⟨fits, -⟩
      · exact failed
      · have some_inside : scanAttrs params ≠ [] := List.cons_ne_nil _ _
        rw [env.lib.nested_of_ne _ some_inside, List.nil_append, env.room_eq] at fits
        omega

/-- Every bucket has a type of its own, or there is no request. -/
def Legible (env : RequestEnv) : SetupCommand → Prop
  | scan params => params.numBuckets ≤ 10 ∨ env.allocated = false ∨
      messageCapacity < scanLength env params
  | _ => True

end SetupCommand

/-- A setup request is refused or can be read back, except for a scan of more than ten buckets
that is sent. -/
theorem setupRequest_reads_back_iff (env : RequestEnv) (command : SetupCommand)
    (inRange : command.InRange) :
    command.RefusedOrReadsBack env ↔ command.Legible env := by
  rw [command.refusedOrReadsBack_iff env inRange]
  cases command with
  | scan params => rw [SetupCommand.scan_refused_iff inRange, SetupCommand.TypesApart,
      SetupCommand.Legible]
  | hotlist params => exact iff_of_true (.inl trivial) trivial
  | significantChange params => exact iff_of_true (.inl trivial) trivial
  | rtt params => exact iff_of_true (.inl trivial) trivial

/-- Two channels, none, and one; the last band is no band. -/
def sampleScan : ScanParams where
  basePeriod := 10000
  numBuckets := 3
  buckets
    | 0 => ⟨0, 1, 10000, 1, 10000, 0, 2, fun j => if j = 0 then 2412 else 2437⟩
    | 1 => ⟨1, 2, 20000, 1, 20000, 1, 0, fun _ => 0⟩
    | _ => ⟨2, 9, 40000, 2, 80000, 3, 1, fun _ => 5180⟩

theorem sampleScan_reads_back :
    ∃ msg vendor, ScanCommand.createSetupRequest (.paged 3 true true) sampleScan [] =
        .ok wifiSuccess msg ∧ vendorData msg = some vendor ∧
      readScan vendor = some
        { basePeriod := 10000
          buckets :=
            [⟨0, 1, 10000, 1, 10000, 0, [2412, 2437]⟩, ⟨1, 2, 20000, 1, 20000, 1, []⟩,
              ⟨2, wifiBandAbg, 40000, 2, 80000, 3, [5180]⟩] } := by
  have inRange : (SetupCommand.scan sampleScan).InRange := by decide
  have right := (setupRequest_reads_back_iff (.paged 3 true true) (.scan sampleScan) inRange).mpr
    (.inl (by decide))
  rcases right with refused | ⟨msg, vendor, ran, -, found, read⟩
  · rcases (SetupCommand.scan_refused_iff inRange).mp refused with missing | large
    · cases missing
    · exact absurd large (by decide)
  · exact ⟨msg, vendor, ran, found, read⟩

/-- Eleven buckets: the last one passes for their number. -/
def elevenBuckets : ScanParams where
  basePeriod := 10000
  numBuckets := 11
  buckets i := ⟨.ofNat i, 1, 10000, 1, 10000, 0, 0, fun _ => 0⟩

theorem elevenBuckets_not_read_back :
    ¬ ∀ env command, SetupCommand.InRange command → command.RefusedOrReadsBack env := by
  intro all
  have inRange : (SetupCommand.scan elevenBuckets).InRange := by decide
  have many : ¬ elevenBuckets.numBuckets ≤ 10 := by decide
  have right := all (.paged 3 true true) _ inRange
  rw [SetupCommand.refusedOrReadsBack_iff _ _ inRange, SetupCommand.scan_refused_iff inRange]
    at right
  rcases right with few | missing | large
  · exact many few
  · cases missing
  · exact absurd large (by decide)

end Mt6757.WifiHal
