import Mt6757.WifiHal.RecordEvents

/-!
# Full scan results

`wifi_handle_full_scan_event` takes a record of fixed layout and the information
elements behind it out of the vendor data.  The record starts behind an inner header,
the two length tests count from the start of the vendor data.
-/

set_option autoImplicit false

namespace Mt6757.WifiHal

open MemAccess

/-! ## The records of the driver -/

/-- `wifi_gscan_result_t`: time, SSID, BSSID, channel, RSSI, round trip time and its
deviation, beacon period, capability, length of the elements, elements. -/
def wifiGscanResult : CRecord :=
  [.scalar 8, .chars 33, .chars 6, .scalar 4, .scalar 4, .scalar 8, .scalar 8, .scalar 2,
    .scalar 2, .scalar 4, .chars 1]

/-- `wifi_gscan_full_result_t`: the fixed part, bucket mask, length of the elements,
elements. -/
def wifiGscanFullResult : CRecord :=
  [wifiGscanResult.field, .scalar 4, .scalar 4, .chars 1]

theorem wifiGscanResult_layout :
    wifiGscanResult.offsets 0 = [0, 8, 41, 48, 52, 56, 64, 72, 74, 76, 80] ∧
      wifiGscanResult.sizeof = 88 := by decide

theorem wifiGscanFullResult_layout :
    wifiGscanFullResult.offsets 0 = [0, 88, 92, 96] ∧ wifiGscanFullResult.sizeof = 104 := by
  decide

structure ScanRecord where
  ts : Nat
  channel : Nat
  rssi : Int
  rtt : Nat
  rttSd : Nat
  beaconPeriod : Nat
  capability : Nat
  ssid : List UInt8
  bssid : List UInt8
  deriving DecidableEq, Repr

def maxProbeRespIeLen : Nat := 2048

/-! ## The decoder -/

def convertToHalResult (mem : Octets) (source len : Nat) : Traced MemAccess ScanRecord := do
  let ts ← word mem (source + wifiGscanResult.offsetof 0) 8 len
  let channel ← word mem (source + wifiGscanResult.offsetof 3) 4 len
  let rssi ← word mem (source + wifiGscanResult.offsetof 4) 4 len
  let rtt ← word mem (source + wifiGscanResult.offsetof 5) 8 len
  let rttSd ← word mem (source + wifiGscanResult.offsetof 6) 8 len
  let beaconPeriod ← word mem (source + wifiGscanResult.offsetof 7) 2 len
  let capability ← word mem (source + wifiGscanResult.offsetof 8) 2 len
  let ssid ← copy mem (source + wifiGscanResult.offsetof 1) 33 len
  let bssid ← copy mem (source + wifiGscanResult.offsetof 2) 6 len
  pure ⟨ts, channel, signedWord 4 rssi, rtt, rttSd, beaconPeriod, capability, ssid, bssid⟩

structure FullScanCall where
  result : ScanRecord
  ieLength : Nat
  ieData : List UInt8
  bucketsScanned : Nat
  deriving DecidableEq, Repr

/-- The part behind the tests: the copy, the call, and the log line, which prints the
SSID in the vendor data as a string. -/
def deliverFullScan (onFullScanResult : Bool) (mem : Octets) (len ieLen : Nat) :
    Traced MemAccess (Option FullScanCall) := do
  let drvRes := Netlink.data 0
  let result ← convertToHalResult mem drvRes len
  let ieData ← copy mem (drvRes + wifiGscanFullResult.offsetof 3) ieLen len
  let bucket ← word mem (drvRes + wifiGscanFullResult.offsetof 1) 4 len
  Traced.emit (.string (drvRes + wifiGscanResult.offsetof 1) len)
  pure (if onFullScanResult then some ⟨result, ieLen, ieData, bucket⟩ else none)

/-- `wifi_handle_full_scan_event`; `allocated` is the answer of `malloc`. -/
def wifiHandleFullScanEvent (allocated onFullScanResult : Bool) (event : VendorMessage) :
    Traced MemAccess (Option FullScanCall) :=
  match event.vendorData with
  | none => pure none
  | some ⟨mem, len⟩ =>
      if len < wifiGscanFullResult.sizeof then pure none
      else if event.subcmd ≠ VendorEvent.fullScanResults.subcmd then pure none
      else do
        let declared ← word mem (Netlink.data 0 + wifiGscanFullResult.offsetof 2) 4 len
        let ieLen := min maxProbeRespIeLen declared
        Traced.onlyIf (ieLen + wifiGscanFullResult.offsetof 3 ≤ len && allocated)
          (deliverFullScan onFullScanResult mem len ieLen) none

/-! ## What the handler is owed -/

def ScanRecord.ofBytes (bytes : List UInt8) : ScanRecord :=
  { ts := leValue (slice bytes 0 8)
    channel := leValue (slice bytes 48 4)
    rssi := signedWord 4 (leValue (slice bytes 52 4))
    rtt := leValue (slice bytes 56 8)
    rttSd := leValue (slice bytes 64 8)
    beaconPeriod := leValue (slice bytes 72 2)
    capability := leValue (slice bytes 74 2)
    ssid := slice bytes 8 33
    bssid := slice bytes 41 6 }

def declaredIeLen (bytes : List UInt8) : Nat :=
  min maxProbeRespIeLen (leValue (slice bytes 92 4))

/-- The record of an event starts behind an inner header of four bytes.  A call carries
the record and all of its elements, and they lie inside the vendor data. -/
def FullScanFaithful (allocated onFullScanResult : Bool) (event : VendorMessage) : Prop :=
  Safe event.octets (wifiHandleFullScanEvent allocated onFullScanResult event) ∧
    ∀ call, (wifiHandleFullScanEvent allocated onFullScanResult event).value = some call →
      ∃ mem len, event.vendorData = some ⟨mem, len⟩ ∧
        let record := (mem.fetch 0 len).drop 4
        96 + declaredIeLen record ≤ record.length ∧
          call.ieLength = declaredIeLen record ∧
          call.ieData = slice record 96 (declaredIeLen record) ∧
          call.result = ScanRecord.ofBytes record

/-- The tests of the decoder, which take the elements to start at offset 96 of the
vendor data. -/
def FullScanAccepted (allocated : Bool) (event : VendorMessage) (mem : Octets) (len : Nat) :
    Prop :=
  event.vendorData = some ⟨mem, len⟩ ∧ event.subcmd = VendorEvent.fullScanResults.subcmd ∧
    104 ≤ len ∧ min maxProbeRespIeLen (mem.word 96 4) + 96 ≤ len ∧ allocated = true

/-- The elements end inside the vendor data where they really start, and so does the
text that is printed for the SSID. -/
def FullScanFits (allocated : Bool) (event : VendorMessage) : Prop :=
  ∀ mem len, FullScanAccepted allocated event mem len →
    min maxProbeRespIeLen (mem.word 96 4) + 100 ≤ len ∧
      ∃ stop < len, 12 ≤ stop ∧ mem stop = 0

section Offsets

@[simp] theorem wifiGscanResult_offsetof :
    wifiGscanResult.offsetof 0 = 0 ∧ wifiGscanResult.offsetof 1 = 8 ∧
      wifiGscanResult.offsetof 2 = 41 ∧ wifiGscanResult.offsetof 3 = 48 ∧
      wifiGscanResult.offsetof 4 = 52 ∧ wifiGscanResult.offsetof 5 = 56 ∧
      wifiGscanResult.offsetof 6 = 64 ∧ wifiGscanResult.offsetof 7 = 72 ∧
      wifiGscanResult.offsetof 8 = 74 := by decide

@[simp] theorem wifiGscanFullResult_offsetof :
    wifiGscanFullResult.offsetof 1 = 88 ∧ wifiGscanFullResult.offsetof 2 = 92 ∧
      wifiGscanFullResult.offsetof 3 = 96 := by decide

end Offsets

theorem convertToHalResult_safe {mem mem' : Octets} {len : Nat} (room : 104 ≤ len) :
    Safe mem' (convertToHalResult mem 4 len) := by
  simp [convertToHalResult]
  omega

theorem convertToHalResult_value {mem : Octets} {source len n : Nat} (room : 88 ≤ n) :
    (convertToHalResult mem source len).value = ScanRecord.ofBytes (mem.fetch source n) := by
  have field : ∀ offset k, offset + k ≤ 88 →
      slice (mem.fetch source n) offset k = mem.fetch (source + offset) k := by
    intro offset k inside
    exact Octets.slice_fetch mem (by omega)
  simp [convertToHalResult, ScanRecord.ofBytes, field, Octets.word]

theorem deliverFullScan_safe_iff {mem : Octets} {len ieLen : Nat} (onFullScanResult : Bool)
    (room : 104 ≤ len) :
    Safe mem (deliverFullScan onFullScanResult mem len ieLen) ↔
      ieLen + 100 ≤ len ∧ ∃ stop < len, 12 ≤ stop ∧ mem stop = 0 := by
  have fixed : Safe mem (convertToHalResult mem 4 len) := convertToHalResult_safe room
  simp [deliverFullScan, Netlink.data, Netlink.hdrlen, fixed]
  constructor
  · rintro ⟨copied, -, ended⟩
    exact ⟨by omega, ended⟩
  · rintro ⟨fits, ended⟩
    exact ⟨by omega, by omega, ended⟩

theorem declaredIeLen_record {mem : Octets} {len : Nat} (room : 104 ≤ len) :
    declaredIeLen ((mem.fetch 0 len).drop 4) = min maxProbeRespIeLen (mem.word 96 4) := by
  rw [declaredIeLen, Octets.fetch_drop mem (by omega), Octets.slice_fetch mem (by omega)]
  rfl

theorem deliverFullScan_call {mem : Octets} {len ieLen : Nat} {onFullScanResult : Bool}
    {call : FullScanCall} (room : 104 ≤ len) (fits : ieLen + 100 ≤ len)
    (made : (deliverFullScan onFullScanResult mem len ieLen).value = some call) :
    call.ieLength = ieLen ∧ call.ieData = slice ((mem.fetch 0 len).drop 4) 96 ieLen ∧
      call.result = ScanRecord.ofBytes ((mem.fetch 0 len).drop 4) := by
  have elements : slice ((mem.fetch 0 len).drop 4) 96 ieLen = mem.fetch 100 ieLen := by
    rw [Octets.fetch_drop mem (by omega), Octets.slice_fetch mem (by omega)]
  have record : (convertToHalResult mem 4 len).value =
      ScanRecord.ofBytes ((mem.fetch 0 len).drop 4) := by
    rw [Octets.fetch_drop mem (by omega)]
    exact convertToHalResult_value (by omega)
  simp only [deliverFullScan, Netlink.data, Netlink.hdrlen, Traced.value_bind,
    Traced.value_pure, Nat.zero_add, record] at made
  split at made
  next =>
    cases made
    exact ⟨rfl, by simp [elements], rfl⟩
  next => cases made

section Event

variable {allocated : Bool} (onFullScanResult : Bool) {event : VendorMessage} {mem : Octets}
  {len : Nat}

theorem wifiHandleFullScanEvent_accepted (accepted : FullScanAccepted allocated event mem len) :
    (Safe event.octets (wifiHandleFullScanEvent allocated onFullScanResult event) ↔
      Safe mem (deliverFullScan onFullScanResult mem len
        (min maxProbeRespIeLen (mem.word 96 4)))) ∧
    (wifiHandleFullScanEvent allocated onFullScanResult event).value =
      (deliverFullScan onFullScanResult mem len
        (min maxProbeRespIeLen (mem.word 96 4))).value := by
  obtain ⟨cmd, subcmd, vendorData⟩ := event
  obtain ⟨present, right, large, room, got⟩ := accepted
  dsimp only at present right
  subst present right got
  have notShort : ¬ len < wifiGscanFullResult.sizeof := by
    rw [wifiGscanFullResult_layout.2]
    omega
  simp only [wifiHandleFullScanEvent, notShort, if_false, ne_eq, not_true, Traced.every_bind,
    Traced.value_bind, word_value, Traced.every_onlyIf, Traced.value_onlyIf, safe_word,
    wifiGscanFullResult_offsetof, Netlink.data, Netlink.hdrlen, VendorMessage.octets]
  simp [room]
  omega

theorem wifiHandleFullScanEvent_refused
    (refused : ∀ mem len, ¬ FullScanAccepted allocated event mem len) :
    Safe event.octets (wifiHandleFullScanEvent allocated onFullScanResult event) ∧
      (wifiHandleFullScanEvent allocated onFullScanResult event).value = none := by
  obtain ⟨cmd, subcmd, _ | ⟨mem, len⟩⟩ := event
  · simp [wifiHandleFullScanEvent, Safe]
  · have here := refused mem len
    simp only [FullScanAccepted, true_and, not_and] at here
    simp only [wifiHandleFullScanEvent, wifiGscanFullResult_layout.2]
    split
    next => simp [Safe]
    next large =>
      split
      next => simp [Safe]
      next right =>
        have closed := here (not_not.mp right) (by omega)
        simp [Netlink.data, Netlink.hdrlen]
        refine ⟨⟨by omega, ?_⟩, ?_⟩ <;> intro room got <;>
          exact absurd got (closed (by simpa using room))

end Event

/-- The decoder reads inside the vendor data, and calls with what the record holds,
exactly when the elements end inside the vendor data and the SSID has an end there. -/
theorem wifiHandleFullScanEvent_faithful_iff (allocated onFullScanResult : Bool)
    (event : VendorMessage) :
    FullScanFaithful allocated onFullScanResult event ↔ FullScanFits allocated event := by
  by_cases some : ∃ mem len, FullScanAccepted allocated event mem len
  · obtain ⟨mem, len, accepted⟩ := some
    obtain ⟨safe, value⟩ :=
      wifiHandleFullScanEvent_accepted onFullScanResult accepted
    have large := accepted.2.2.1
    rw [FullScanFaithful, safe, value, deliverFullScan_safe_iff onFullScanResult large]
    constructor
    · rintro ⟨⟨fits, ended⟩, -⟩ mem' len' accepted'
      cases accepted'.1.symm.trans accepted.1
      exact ⟨fits, ended⟩
    · intro fits
      obtain ⟨whole, ended⟩ := fits mem len accepted
      refine ⟨⟨whole, ended⟩, fun call made => ⟨mem, len, accepted.1, ?_⟩⟩
      simp only [declaredIeLen_record large]
      refine ⟨?_, deliverFullScan_call large whole made⟩
      simp only [List.length_drop, Octets.fetch_length]
      omega
  · have refused : ∀ mem len, ¬ FullScanAccepted allocated event mem len :=
      fun mem len accepted => some ⟨mem, len, accepted⟩
    obtain ⟨safe, value⟩ :=
      wifiHandleFullScanEvent_refused onFullScanResult refused
    constructor
    · intro _ mem len accepted
      exact absurd accepted (refused mem len)
    · intro _
      refine ⟨safe, fun call made => ?_⟩
      rw [value] at made
      cases made

def overlongFullScan : VendorMessage :=
  { cmd := nl80211CmdVendor
    subcmd := VendorEvent.fullScanResults.subcmd
    vendorData := some ⟨fun i => if i = 96 then 5 else 0, 104⟩ }

theorem overlongFullScan_not_faithful : ¬ FullScanFaithful true true overlongFullScan := by
  rintro ⟨safe, -⟩
  have accepted : FullScanAccepted true overlongFullScan
      (fun i => if i = 96 then 5 else 0) 104 := ⟨rfl, rfl, by decide, by decide, rfl⟩
  rw [(wifiHandleFullScanEvent_accepted true accepted).1,
    deliverFullScan_safe_iff true (by decide)] at safe
  have whole := safe.1
  revert whole
  decide

end Mt6757.WifiHal
