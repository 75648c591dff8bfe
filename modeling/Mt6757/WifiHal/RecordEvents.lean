import Mt6757.Lib.CLayout
import Mt6757.Lib.Netlink
import Mt6757.WifiHal.World

/-!
# Records behind an inner attribute header

Four decoders take the payload of the vendor data attribute for an attribute of its
own: they look at its type and read records from four bytes further in.  The length
they have is that of the outer payload.
-/

set_option autoImplicit false

namespace Mt6757.WifiHal

open MemAccess

/-- The payload of `NL80211_ATTR_VENDOR_DATA`, and the memory it starts. -/
structure VendorData where
  mem : Octets
  len : Nat

structure VendorMessage where
  cmd : Int32
  subcmd : Int32
  vendorData : Option VendorData

def VendorMessage.octets (message : VendorMessage) : Octets :=
  match message.vendorData with
  | none => fun _ => 0
  | some vendorData => vendorData.mem

/-! ## Walks -/

/-- `class nl_iterator`. -/
structure NlIterator where
  pos : Nat
  rem : Int

namespace NlIterator
variable (reader : Netlink.Reader) (mem : Octets)

def create (attr : Nat) : NlIterator := ⟨reader.data attr, reader.len mem attr⟩

def hasNext (it : NlIterator) : Bool := reader.ok mem it.pos it.rem

def next (it : NlIterator) : NlIterator :=
  let (pos, rem) := reader.next mem it.pos it.rem
  ⟨pos, rem⟩

/-- `for (; it.has_next(); it.next())`, for so many turns at most. -/
def visits : Nat → NlIterator → List Nat
  | 0, _ => []
  | fuel + 1, it => if it.hasNext reader mem then it.pos :: visits fuel (it.next reader mem) else []

theorem visits_eq_walk (fuel : Nat) (it : NlIterator) :
    it.visits reader mem fuel = reader.walk mem fuel (it.pos, it.rem) := by
  induction fuel generalizing it with
  | zero => rfl
  | succ fuel ih => rw [visits, Netlink.Reader.walk, ih]; rfl

/-- Whatever the library, the loop over an attribute visits what the decoders here visit. -/
theorem visits_create {fuel attr : Nat} (enough : Netlink.payloadLen mem attr ≤ fuel) :
    (create reader mem attr).visits reader mem fuel =
      (Netlink.iterate mem (Netlink.data attr) (Netlink.payloadLen mem attr)).value := by
  rw [visits_eq_walk, Netlink.iterate_value]
  exact reader.walk_inside enough

end NlIterator

def gscanMaxResults : Nat := 64

/-! ## Hotlist events -/

structure HotlistCall where
  found : Bool
  num : Nat
  results : List UInt8
  deriving DecidableEq, Repr

def VendorEvent.attrType (event : VendorEvent) : Nat := event.subcmd.toNatClampNeg

/-- `BssidHotlistCommand::handleEvent`; the size of `wifi_scan_result` is that of the
platform header. -/
def BssidHotlistCommand.handleEvent (scanResult : Nat) (onFound onLost : Bool)
    (event : VendorMessage) : Traced MemAccess (Option HotlistCall) :=
  match event.vendorData with
  | none => pure none
  | some ⟨mem, len⟩ =>
      if len = 0 then pure none
      else do
        let num := min gscanMaxResults (len / scanResult)
        let _nlaLen ← word mem 0 2 len
        let nlaType ← word mem 2 2 len
        let copied ← Traced.onlyIf (nlaType == VendorEvent.hotlistResultsLost.attrType ||
            nlaType == VendorEvent.hotlistResultsFound.attrType)
          (copy mem (Netlink.data 0) (num * scanResult) len) []
        let results := copied ++ List.replicate (gscanMaxResults * scanResult - copied.length) 0
        pure <|
          if event.subcmd = VendorEvent.hotlistResultsFound.subcmd then
            if onFound then some ⟨true, num, results⟩ else none
          else if event.subcmd = VendorEvent.hotlistResultsLost.subcmd then
            if onLost then some ⟨false, num, results⟩ else none
          else none

/-- The inner header is there, and behind it the bytes counted from the outer length. -/
def BssidHotlistCommand.HasRoom (scanResult : Nat) (event : VendorMessage) : Prop :=
  ∀ mem len, event.vendorData = some ⟨mem, len⟩ → len ≠ 0 →
    4 ≤ len ∧
      (Netlink.attrType mem 0 = VendorEvent.hotlistResultsLost.attrType ∨
          Netlink.attrType mem 0 = VendorEvent.hotlistResultsFound.attrType →
        4 + min gscanMaxResults (len / scanResult) * scanResult ≤ len)

theorem BssidHotlistCommand.handleEvent_safe_iff (scanResult : Nat) (onFound onLost : Bool)
    (event : VendorMessage) :
    Safe event.octets (handleEvent scanResult onFound onLost event) ↔
      HasRoom scanResult event := by
  obtain ⟨cmd, subcmd, _ | ⟨mem, len⟩⟩ := event
  · simp [handleEvent, HasRoom, Safe]
  · by_cases empty : len = 0
    · simp [handleEvent, HasRoom, Safe, empty]
    · simp [handleEvent, HasRoom, empty, Netlink.attrType, Netlink.data, Netlink.hdrlen]
      constructor
      · rintro ⟨-, least, copied⟩
        refine ⟨least, fun listed => ?_⟩
        obtain ⟨-, fits⟩ := copied listed
        norm_cast at fits
        omega
      · rintro ⟨least, room⟩
        refine ⟨by omega, least, fun listed => ?_⟩
        have fits := room listed
        norm_cast
        omega

/-! ## Significant change events -/

/-- `ChangeInfo`: flags, channel, BSSID, history of eight. -/
def changeInfo : CRecord := [.scalar 2, .scalar 2, .chars 6, .chars 8]

@[simp] theorem changeInfo_sizeof : changeInfo.sizeof = 18 := by decide

@[simp] theorem changeInfo_channel : changeInfo.offsetof 1 = 2 := by decide

@[simp] theorem changeInfo_bssid : changeInfo.offsetof 2 = 4 := by decide

@[simp] theorem changeInfo_rssiHistory : changeInfo.offsetof 3 = 10 := by decide

structure SignificantChangeResult where
  bssid : List UInt8
  channel : Nat
  rssi : List Int
  deriving DecidableEq, Repr

def readChange (mem : Octets) (len : Nat) (i : Nat) :
    Traced MemAccess SignificantChangeResult := do
  let ci := Netlink.data 0 + i * changeInfo.sizeof
  let bssid ← copy mem (ci + changeInfo.offsetof 2) 6 len
  let channel ← word mem (ci + changeInfo.offsetof 1) 2 len
  let history ← copy mem (ci + changeInfo.offsetof 3) 8 len
  pure ⟨bssid, channel, history.map fun byte => signedWord 1 byte.toNat⟩

/-- `SignificantWifiChangeCommand::handleEvent`; the list is what the handler is
called with. -/
def SignificantWifiChangeCommand.handleEvent (event : VendorMessage) :
    Traced MemAccess (Option (List SignificantChangeResult)) :=
  match event.vendorData with
  | none => pure none
  | some ⟨mem, len⟩ =>
      if len = 0 then pure none
      else do
        let num := min (len / changeInfo.sizeof) gscanMaxResults
        let nlaType ← word mem 2 2 len
        Traced.onlyIf (nlaType == VendorEvent.significantChangeResults.attrType)
          (do
            let results ← Traced.each (readChange mem len) (List.range num)
            pure (if num ≠ 0 then some results else none))
          none

def SignificantWifiChangeCommand.HasRoom (event : VendorMessage) : Prop :=
  ∀ mem len, event.vendorData = some ⟨mem, len⟩ → len ≠ 0 →
    4 ≤ len ∧
      (Netlink.attrType mem 0 = VendorEvent.significantChangeResults.attrType →
        4 + min (len / 18) gscanMaxResults * 18 ≤ len)

theorem readChange_safe_iff (mem mem' : Octets) (len i : Nat) :
    Safe mem' (readChange mem len i) ↔ 4 + (i + 1) * 18 ≤ len := by
  simp [readChange, Netlink.data, Netlink.hdrlen]
  omega

theorem SignificantWifiChangeCommand.handleEvent_safe_iff (event : VendorMessage) :
    Safe event.octets (handleEvent event) ↔ HasRoom event := by
  obtain ⟨cmd, subcmd, _ | ⟨mem, len⟩⟩ := event
  · simp [handleEvent, HasRoom, Safe]
  · by_cases empty : len = 0
    · simp [handleEvent, HasRoom, Safe, empty]
    · simp [handleEvent, HasRoom, empty, Netlink.attrType, readChange_safe_iff]
      intro _
      constructor
      · intro records listed
        cases count : min (len / 18) gscanMaxResults with
        | zero => omega
        | succ last =>
            have fits := records listed last (by omega) (by omega)
            omega
      · intro room listed i short few
        have fits := room listed
        omega

/-! ## RSSI monitor events -/

/-- `rssi_monitor_evt`: version, RSSI, BSSID. -/
def rssiMonitorEvt : CRecord := [.scalar 1, .scalar 1, .chars 6]

@[simp] theorem rssiMonitorEvt_rssi : rssiMonitorEvt.offsetof 1 = 1 := by decide

@[simp] theorem rssiMonitorEvt_bssid : rssiMonitorEvt.offsetof 2 = 2 := by decide

def rssiMonitorEvtVersion : Nat := 1

structure RssiCall where
  bssid : List UInt8
  curRssi : Int
  deriving DecidableEq, Repr

/-- `SetRSSIMonitorCommand::handleEvent`; every member is logged before the version is
looked at. -/
def SetRSSIMonitorCommand.handleEvent (onBreached : Bool) (event : VendorMessage) :
    Traced MemAccess (Option RssiCall) :=
  match event.vendorData with
  | none => pure none
  | some ⟨mem, len⟩ =>
      if len = 0 then pure none
      else do
        let nlaType ← word mem 2 2 len
        Traced.onlyIf (nlaType == VendorEvent.rssiMonitor.attrType)
          (do
            let data := Netlink.data 0
            let version ← word mem data 1 len
            let curRssi ← word mem (data + rssiMonitorEvt.offsetof 1) 1 len
            let bssid ← copy mem (data + rssiMonitorEvt.offsetof 2) 6 len
            pure (if version ≠ rssiMonitorEvtVersion then none
              else if onBreached then some ⟨bssid, signedWord 1 curRssi⟩ else none))
          none

def SetRSSIMonitorCommand.HasRoom (event : VendorMessage) : Prop :=
  ∀ mem len, event.vendorData = some ⟨mem, len⟩ → len ≠ 0 →
    4 ≤ len ∧ (Netlink.attrType mem 0 = VendorEvent.rssiMonitor.attrType → 12 ≤ len)

theorem SetRSSIMonitorCommand.handleEvent_safe_iff (onBreached : Bool) (event : VendorMessage) :
    Safe event.octets (handleEvent onBreached event) ↔ HasRoom event := by
  obtain ⟨cmd, subcmd, _ | ⟨mem, len⟩⟩ := event
  · simp [handleEvent, HasRoom, Safe]
  · by_cases empty : len = 0
    · simp [handleEvent, HasRoom, Safe, empty]
    · simp [handleEvent, HasRoom, empty, Netlink.attrType, Netlink.data, Netlink.hdrlen]
      omega

/-! ## RTT capability replies -/

def rttAttributeCapabilities : Nat := 1

/-- `GetRttCapabilitiesCommand::handleResponse`: the header is read before anything is
known of the vendor data.  The result is the record the caller supplied. -/
def GetRttCapabilitiesCommand.handleResponse (capabilities : List UInt8) (reply : VendorMessage) :
    Traced MemAccess (Int × List UInt8) :=
  if reply.cmd ≠ nl80211CmdVendor then pure (nlSkip, capabilities)
  else
    match reply.vendorData with
    | none => do
        Traced.emit .null
        pure (nlOk, capabilities)
    | some ⟨mem, len⟩ => do
        let nlaType ← word mem 2 2 len
        let copied ← Traced.onlyIf (nlaType == rttAttributeCapabilities)
          (copy mem (Netlink.data 0) (min ((len : Int) - Netlink.hdrlen) capabilities.length) len) []
        pure (nlOk, copied ++ capabilities.drop copied.length)

def GetRttCapabilitiesCommand.HasRoom (reply : VendorMessage) : Prop :=
  reply.cmd = nl80211CmdVendor → ∃ mem len, reply.vendorData = some ⟨mem, len⟩ ∧ 4 ≤ len

theorem GetRttCapabilitiesCommand.handleResponse_safe_iff (capabilities : List UInt8)
    (reply : VendorMessage) :
    Safe reply.octets (handleResponse capabilities reply) ↔ HasRoom reply := by
  obtain ⟨cmd, subcmd, _ | ⟨mem, len⟩⟩ := reply
  · by_cases vendor : cmd = nl80211CmdVendor <;> simp [handleResponse, HasRoom, Safe, vendor]
  · by_cases vendor : cmd = nl80211CmdVendor
    · simp [handleResponse, HasRoom, vendor, Netlink.data, Netlink.hdrlen]
      omega
    · simp [handleResponse, HasRoom, Safe, vendor]

/-! ## All four -/

/-- The decoders that read behind an inner header stay inside the vendor data. -/
def RecordDecodersSafe (scanResult : Nat) (onHotlistFound onHotlistLost onBreached : Bool)
    (capabilities : List UInt8) (message : VendorMessage) : Prop :=
  Safe message.octets
      (BssidHotlistCommand.handleEvent scanResult onHotlistFound onHotlistLost message) ∧
    Safe message.octets (SignificantWifiChangeCommand.handleEvent message) ∧
    Safe message.octets (SetRSSIMonitorCommand.handleEvent onBreached message) ∧
    Safe message.octets (GetRttCapabilitiesCommand.handleResponse capabilities message)

/-- Every decoder reads inside the vendor data exactly when the inner header is there
and the records counted from the outer length end inside it as well. -/
theorem recordDecoders_safe_iff (scanResult : Nat) (onHotlistFound onHotlistLost onBreached : Bool)
    (capabilities : List UInt8) (message : VendorMessage) :
    (Safe message.octets
        (BssidHotlistCommand.handleEvent scanResult onHotlistFound onHotlistLost message) ↔
      BssidHotlistCommand.HasRoom scanResult message) ∧
    (Safe message.octets (SignificantWifiChangeCommand.handleEvent message) ↔
      SignificantWifiChangeCommand.HasRoom message) ∧
    (Safe message.octets (SetRSSIMonitorCommand.handleEvent onBreached message) ↔
      SetRSSIMonitorCommand.HasRoom message) ∧
    (Safe message.octets (GetRttCapabilitiesCommand.handleResponse capabilities message) ↔
      GetRttCapabilitiesCommand.HasRoom message) :=
  ⟨BssidHotlistCommand.handleEvent_safe_iff scanResult onHotlistFound onHotlistLost message,
    SignificantWifiChangeCommand.handleEvent_safe_iff message,
    SetRSSIMonitorCommand.handleEvent_safe_iff onBreached message,
    GetRttCapabilitiesCommand.handleResponse_safe_iff capabilities message⟩

/-- A significant change event that holds one whole record and no more: the record is
read four bytes past its end. -/
def headerlessChange : VendorMessage :=
  { cmd := nl80211CmdVendor
    subcmd := VendorEvent.significantChangeResults.subcmd
    vendorData := some ⟨fun _ => 0, 18⟩ }

def dataLessReply : VendorMessage :=
  { cmd := nl80211CmdVendor, subcmd := 0, vendorData := none }

theorem recordDecoders_unsafe :
    ¬ RecordDecodersSafe 104 true true true [] headerlessChange ∧
      ¬ RecordDecodersSafe 104 true true true [] dataLessReply := by
  constructor
  · rintro ⟨-, significant, -, -⟩
    rw [SignificantWifiChangeCommand.handleEvent_safe_iff] at significant
    have fits := (significant _ _ rfl (by decide)).2 (by decide)
    revert fits
    decide
  · rintro ⟨-, -, -, capabilities⟩
    rw [GetRttCapabilitiesCommand.handleResponse_safe_iff] at capabilities
    obtain ⟨mem, len, here, -⟩ := capabilities rfl
    cases here

end Mt6757.WifiHal
