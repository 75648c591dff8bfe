import Mt6757.WifiHal.FullScan

/-!
# Scan and hotspot events

The vendor data of a scan event is taken for an attribute; that of a hotspot match is
taken for a full result, with a GAS response behind its elements and the identifier of
the network behind the response.  No length in it is compared with what was received.
-/

set_option autoImplicit false

namespace Mt6757.WifiHal

open MemAccess

/-! ## Scan events -/

inductive ScanCall where
  | scanEvent (type : Nat)
  | fullScanResult (call : FullScanCall)
  deriving DecidableEq, Repr

def ScanCommand.handleScanEvent (onScanEvent : Bool) (event : VendorMessage) :
    Traced MemAccess (Option ScanCall) :=
  match event.vendorData with
  | none => pure none
  | some ⟨mem, len⟩ => do
      let nlaLen ← word mem 0 2 len
      Traced.onlyIf (nlaLen == 8)
        (do
          let evtType ← word mem (Netlink.data 0) 4 len
          pure (if onScanEvent then some (.scanEvent evtType) else none))
        none

def ScanCommand.handleEvent (allocated onScanEvent onFullScanResult : Bool)
    (event : VendorMessage) : Traced MemAccess (Option ScanCall) :=
  if event.subcmd = VendorEvent.completeScan.subcmd ∨
      event.subcmd = VendorEvent.scanResultsAvailable.subcmd then
    handleScanEvent onScanEvent event
  else if event.subcmd = VendorEvent.fullScanResults.subcmd then do
    let call ← wifiHandleFullScanEvent allocated onFullScanResult event
    pure (call.map .fullScanResult)
  else pure none

def VendorMessage.IsScanEvent (event : VendorMessage) : Prop :=
  event.subcmd = VendorEvent.completeScan.subcmd ∨
    event.subcmd = VendorEvent.scanResultsAvailable.subcmd

def ScanEventFits (event : VendorMessage) : Prop :=
  event.IsScanEvent → ∀ mem len, event.vendorData = some ⟨mem, len⟩ →
    2 ≤ len ∧ (mem.word 0 2 = 8 → 8 ≤ len)

theorem handleScanEvent_safe_iff (onScanEvent : Bool) {event : VendorMessage}
    (scanned : event.IsScanEvent) :
    Safe event.octets (ScanCommand.handleScanEvent onScanEvent event) ↔ ScanEventFits event := by
  obtain ⟨cmd, subcmd, _ | ⟨mem, len⟩⟩ := event
  · simp [ScanCommand.handleScanEvent, ScanEventFits, Safe]
  · simp [ScanCommand.handleScanEvent, ScanEventFits, scanned, Netlink.data, Netlink.hdrlen]

theorem wifiHandleFullScanEvent_safe_iff (allocated onFullScanResult : Bool)
    (event : VendorMessage) :
    Safe event.octets (wifiHandleFullScanEvent allocated onFullScanResult event) ↔
      FullScanFits allocated event := by
  by_cases some : ∃ mem len, FullScanAccepted allocated event mem len
  · obtain ⟨mem, len, accepted⟩ := some
    rw [(wifiHandleFullScanEvent_accepted onFullScanResult accepted).1,
      deliverFullScan_safe_iff onFullScanResult accepted.2.2.1]
    constructor
    · intro inside mem' len' accepted'
      cases accepted'.1.symm.trans accepted.1
      exact inside
    · intro fits
      exact fits mem len accepted
  · have refused : ∀ mem len, ¬ FullScanAccepted allocated event mem len :=
      fun mem len accepted => some ⟨mem, len, accepted⟩
    constructor
    · intro _ mem len accepted
      exact absurd accepted (refused mem len)
    · intro _
      exact (wifiHandleFullScanEvent_refused onFullScanResult refused).1

theorem fullScanFits_of_subcmd {allocated : Bool} {event : VendorMessage}
    (other : event.subcmd ≠ VendorEvent.fullScanResults.subcmd) : FullScanFits allocated event := by
  intro mem len accepted
  exact absurd accepted.2.1 other

theorem not_full_of_scan {event : VendorMessage} (scanned : event.IsScanEvent) :
    event.subcmd ≠ VendorEvent.fullScanResults.subcmd := by
  intro full
  rw [VendorMessage.IsScanEvent, full] at scanned
  revert scanned
  decide

/-- The events of one scan are read inside their vendor data exactly when what an inner
header announces is there, and a full result fits behind such a header. -/
theorem scanCommand_reads_inside_iff (allocated onScanEvent onFullScanResult : Bool)
    (event : VendorMessage) :
    Safe event.octets (ScanCommand.handleEvent allocated onScanEvent onFullScanResult event) ↔
      ScanEventFits event ∧ FullScanFits allocated event := by
  by_cases scanned : event.IsScanEvent
  · have run : ScanCommand.handleEvent allocated onScanEvent onFullScanResult event =
        ScanCommand.handleScanEvent onScanEvent event := if_pos scanned
    rw [run, handleScanEvent_safe_iff onScanEvent scanned]
    exact (and_iff_left (fullScanFits_of_subcmd (not_full_of_scan scanned))).symm
  · have silent : ScanEventFits event := fun scanned' => absurd scanned' scanned
    have run : ScanCommand.handleEvent allocated onScanEvent onFullScanResult event = _ :=
      if_neg scanned
    rw [run, and_iff_right silent]
    split
    next =>
      rw [← wifiHandleFullScanEvent_safe_iff allocated onFullScanResult event]
      exact (Traced.every_bind _ _).trans (and_iff_left (Traced.every_pure _))
    next other =>
      exact iff_of_true (Traced.every_pure _) (fullScanFits_of_subcmd other)

/-! ## Hotspot events -/

/-- `wifi_anqp_gas_resp`: channel, dialog token, fragment, status, length of the data, data. -/
def wifiAnqpGasResp : CRecord :=
  [.scalar 2, .chars 1, .chars 1, .scalar 2, .scalar 2, .chars 1]

theorem wifiAnqpGasResp_layout :
    wifiAnqpGasResp.offsetof 4 = 6 ∧ wifiAnqpGasResp.offsetof 5 = 8 := by decide

structure PasspointCall where
  networkId : Int
  result : ScanRecord
  anqpLen : Nat
  anqp : List UInt8
  deriving DecidableEq, Repr

/-- The part behind the tests.  The log prints the copy of the SSID as a string, which has
to end within the 33 bytes that were copied. -/
def AnqpoConfigureCommand.deliver (onFound : Bool) (mem : Octets) (len : Nat) :
    Traced MemAccess (Option PasspointCall) := do
  let result ← convertToHalResult mem 0 len
  let ieLength ← word mem (wifiGscanFullResult.offsetof 2) 4 len
  let anqp := wifiGscanFullResult.offsetof 3 + ieLength
  let dataLen ← word mem (anqp + wifiAnqpGasResp.offsetof 4) 2 len
  let anqpLen := wifiAnqpGasResp.offsetof 5 + dataLen
  let networkId ← word mem (anqp + anqpLen) 4 len
  Traced.emit (.string (wifiGscanResult.offsetof 1) (wifiGscanResult.offsetof 1 + 33))
  pure (if onFound then
    some ⟨signedWord 4 networkId, result, anqpLen, mem.fetch anqp anqpLen⟩ else none)

/-- `AnqpoConfigureCommand::handleEvent`; the size of `wifi_scan_result` is that of the
platform header, `allocated` the answer of `malloc`. -/
def AnqpoConfigureCommand.handleEvent (scanResult : Nat) (allocated onFound : Bool)
    (event : VendorMessage) : Traced MemAccess (Option PasspointCall) :=
  match event.vendorData with
  | none => pure none
  | some ⟨mem, len⟩ =>
      if len < scanResult then pure none
      else Traced.onlyIf allocated (deliver onFound mem len) none

/-! ## What the handlers are owed -/

/-- The room that the record, its elements, the response and the identifier take by the
lengths they declare. -/
def hotspotExtent (bytes : List UInt8) : Nat :=
  let ieLength := leValue (slice bytes 92 4)
  108 + ieLength + leValue (slice bytes (102 + ieLength) 2)

def PasspointCall.ofBytes (bytes : List UInt8) : PasspointCall :=
  let anqp := 96 + leValue (slice bytes 92 4)
  let anqpLen := 8 + leValue (slice bytes (anqp + 6) 2)
  { networkId := signedWord 4 (leValue (slice bytes (anqp + anqpLen) 4))
    result := ScanRecord.ofBytes bytes
    anqpLen
    anqp := slice bytes anqp anqpLen }

/-- Nothing outside the vendor data is read, and a call carries what lies in it. -/
def PasspointFaithful (scanResult : Nat) (allocated onFound : Bool) (event : VendorMessage) :
    Prop :=
  Safe event.octets (AnqpoConfigureCommand.handleEvent scanResult allocated onFound event) ∧
    ∀ call, (AnqpoConfigureCommand.handleEvent scanResult allocated onFound event).value =
      some call →
        ∃ mem len, event.vendorData = some ⟨mem, len⟩ ∧
          hotspotExtent (mem.fetch 0 len) ≤ len ∧ call = .ofBytes (mem.fetch 0 len)

/-- The vendor data that passes the tests holds all that is declared, and an end of the
SSID. -/
def PasspointFits (scanResult : Nat) (allocated : Bool) (event : VendorMessage) : Prop :=
  ∀ mem len, event.vendorData = some ⟨mem, len⟩ → scanResult ≤ len → allocated = true →
    96 ≤ len ∧ hotspotExtent (mem.fetch 0 len) ≤ len ∧ ∃ stop < 41, 8 ≤ stop ∧ mem stop = 0

section Deliver

variable {mem : Octets} {len : Nat}

theorem word_slice {offset width : Nat} (inside : offset + width ≤ len) :
    leValue (slice (mem.fetch 0 len) offset width) = mem.word offset width := by
  rw [Octets.slice_fetch mem inside, Nat.zero_add, Octets.word]

theorem hotspotExtent_eq (room : 104 + mem.word 92 4 ≤ len) :
    hotspotExtent (mem.fetch 0 len) =
      108 + mem.word 92 4 + mem.word (102 + mem.word 92 4) 2 := by
  have elements : leValue (slice (mem.fetch 0 len) 92 4) = mem.word 92 4 :=
    word_slice (by omega)
  rw [hotspotExtent, elements, word_slice (by omega)]

theorem elements_le_extent (room : 96 ≤ len) :
    108 + mem.word 92 4 ≤ hotspotExtent (mem.fetch 0 len) := by
  have elements : leValue (slice (mem.fetch 0 len) 92 4) = mem.word 92 4 :=
    word_slice (by omega)
  simp only [hotspotExtent, elements]
  omega

theorem convertToHalResult_start (record : 96 ≤ len) :
    Safe mem (convertToHalResult mem 0 len) := by
  simp [convertToHalResult]
  omega

theorem deliver_safe_iff (onFound : Bool) :
    Safe mem (AnqpoConfigureCommand.deliver onFound mem len) ↔
      96 ≤ len ∧ hotspotExtent (mem.fetch 0 len) ≤ len ∧
        ∃ stop < 41, 8 ≤ stop ∧ mem stop = 0 := by
  obtain ⟨gasLength, gasData⟩ := wifiAnqpGasResp_layout
  have shift : 96 + mem.word 92 4 + 6 = 102 + mem.word 92 4 := by omega
  simp only [AnqpoConfigureCommand.deliver, wifiGscanResult_offsetof,
    wifiGscanFullResult_offsetof, gasLength, gasData, shift, Traced.every_bind, safe_word,
    word_value, Traced.every_emit, Traced.every_pure, fits_string]
  constructor
  · rintro ⟨-, elements, response, identifier, ended, -⟩
    have whole := identifier (by decide)
    have room : 104 + mem.word 92 4 ≤ len := by
      have inside := response (by decide)
      omega
    refine ⟨by omega, ?_, ended⟩
    rw [hotspotExtent_eq room]
    omega
  · rintro ⟨record, whole, ended⟩
    have elements := @elements_le_extent mem len record
    rw [hotspotExtent_eq (by omega)] at whole
    refine ⟨convertToHalResult_start record, fun _ => ?_, fun _ => ?_, fun _ => ?_, ended, trivial⟩
    all_goals omega

theorem deliver_value (onFound : Bool) (record : 96 ≤ len)
    (whole : hotspotExtent (mem.fetch 0 len) ≤ len) :
    (AnqpoConfigureCommand.deliver onFound mem len).value =
      if onFound then some (.ofBytes (mem.fetch 0 len)) else none := by
  obtain ⟨gasLength, gasData⟩ := wifiAnqpGasResp_layout
  have elements := @elements_le_extent mem len record
  have extent := @hotspotExtent_eq mem len (by omega)
  have scanned : (convertToHalResult mem 0 len).value = ScanRecord.ofBytes (mem.fetch 0 len) :=
    convertToHalResult_value (by omega)
  have length : leValue (slice (mem.fetch 0 len) 92 4) = mem.word 92 4 := word_slice (by omega)
  have shift : 102 + mem.word 92 4 = 96 + mem.word 92 4 + 6 := by omega
  rw [extent, shift] at whole
  have data : leValue (slice (mem.fetch 0 len) (96 + mem.word 92 4 + 6) 2) =
      mem.word (96 + mem.word 92 4 + 6) 2 := word_slice (by omega)
  simp only [AnqpoConfigureCommand.deliver, wifiGscanFullResult_offsetof, gasLength, gasData,
    Traced.value_bind, Traced.value_pure, word_value, scanned, PasspointCall.ofBytes, length, data]
  rw [word_slice (by omega), Octets.slice_fetch mem (by omega), Nat.zero_add]

end Deliver

/-- A hotspot event is read inside its vendor data, and handed over as it was sent,
exactly when every declared length ends inside the vendor data and the SSID has an end. -/
theorem hotspotEvent_faithful_iff (scanResult : Nat) (allocated onFound : Bool)
    (event : VendorMessage) :
    PasspointFaithful scanResult allocated onFound event ↔
      PasspointFits scanResult allocated event := by
  obtain ⟨cmd, subcmd, _ | ⟨mem, len⟩⟩ := event
  · simp [PasspointFaithful, PasspointFits, AnqpoConfigureCommand.handleEvent, Safe]
  · by_cases accepted : scanResult ≤ len ∧ allocated = true
    · obtain ⟨large, rfl⟩ := accepted
      have run : AnqpoConfigureCommand.handleEvent scanResult true onFound
          ⟨cmd, subcmd, some ⟨mem, len⟩⟩ = AnqpoConfigureCommand.deliver onFound mem len := by
        simp [AnqpoConfigureCommand.handleEvent, Nat.not_lt.mpr large, Traced.onlyIf]
      rw [PasspointFaithful, run, VendorMessage.octets, deliver_safe_iff]
      constructor
      · rintro ⟨fits, -⟩ mem' len' here _ _
        cases here
        exact fits
      · intro fits
        obtain ⟨record, whole, ended⟩ := fits mem len rfl large rfl
        refine ⟨⟨record, whole, ended⟩, fun call made => ⟨mem, len, rfl, whole, ?_⟩⟩
        rw [deliver_value onFound record whole] at made
        split at made
        next => exact (Option.some.inj made).symm
        next => cases made
    · have run : AnqpoConfigureCommand.handleEvent scanResult allocated onFound
          ⟨cmd, subcmd, some ⟨mem, len⟩⟩ = pure none := by
        by_cases short : len < scanResult
        · exact if_pos short
        · have refused : allocated = false := by
            simpa [Nat.not_lt.mp short] using accepted
          simp [AnqpoConfigureCommand.handleEvent, Traced.onlyIf, refused]
      constructor
      · intro _ mem' len' here large got
        cases here
        exact absurd ⟨large, got⟩ accepted
      · intro _
        simp [PasspointFaithful, run, Safe]

end Mt6757.WifiHal
