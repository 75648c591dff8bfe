import Mt6757.WifiHal.RecordEvents

/-!
# Preferred network events

The vendor data is a row of `wifi_pno_result_t`, with no header before it.  The loop
fills the entry of each record that was found; the handler gets as many entries as
there are records.
-/

set_option autoImplicit false

namespace Mt6757.WifiHal

open MemAccess

/-- `wifi_pno_result_t`: SSID, its length, RSSI, channel, flags, BSSID. -/
def wifiPnoResult : CRecord :=
  [.chars 32, .scalar 1, .scalar 1, .scalar 2, .scalar 2, .chars 6]

@[simp] theorem wifiPnoResult_sizeof : wifiPnoResult.sizeof = 44 := by decide

@[simp] theorem wifiPnoResult_offsetof :
    wifiPnoResult.offsetof 0 = 0 ∧ wifiPnoResult.offsetof 1 = 32 ∧
      wifiPnoResult.offsetof 2 = 33 ∧ wifiPnoResult.offsetof 3 = 34 ∧
      wifiPnoResult.offsetof 4 = 36 ∧ wifiPnoResult.offsetof 5 = 38 := by decide

def pnoSsidFound : Nat := 1

/-- The length of the member `ssid` of `wifi_scan_result`. -/
def scanResultSsid : Nat := 33

structure EpnoResult where
  ssid : List UInt8
  bssid : List UInt8
  channel : Nat
  rssi : Int
  deriving DecidableEq, Repr

def EpnoResult.cleared : EpnoResult :=
  { ssid := List.replicate scanResultSsid 0, bssid := List.replicate 6 0, channel := 0, rssi := 0 }

/-! ## The decoder -/

/-- One turn of the loop.  The copy of the SSID and its terminator go into a member of
33 bytes; what more of them would overwrite is not followed. -/
def readNetwork (mem : Octets) (len : Nat) (i : Nat) : Traced MemAccess EpnoResult := do
  let res := i * wifiPnoResult.sizeof
  let flags ← word mem (res + wifiPnoResult.offsetof 4) 2 len
  Traced.onlyIf (flags == pnoSsidFound)
    (do
      let ssidLen ← word mem (res + wifiPnoResult.offsetof 1) 1 len
      let ssid ← copy mem (res + wifiPnoResult.offsetof 0) ssidLen len
      Traced.emit (.write 0 ssidLen scanResultSsid)
      let bssid ← copy mem (res + wifiPnoResult.offsetof 5) 6 len
      Traced.emit (.write ssidLen 1 scanResultSsid)
      let channel ← word mem (res + wifiPnoResult.offsetof 3) 2 len
      let rssi ← word mem (res + wifiPnoResult.offsetof 2) 1 len
      pure
        { ssid := (ssid ++ List.replicate (scanResultSsid - ssidLen) 0).take scanResultSsid
          bssid := bssid
          channel := channel
          rssi := signedWord 1 rssi })
    EpnoResult.cleared

/-- `ePNOCommand::handleEvent`; the list is what `on_network_found` is called with.
`MAX_EPNO_NETWORKS` is that of the platform header. -/
def EPNOCommand.handleEvent (maxEpnoNetworks : Nat) (onNetworkFound : Bool)
    (event : VendorMessage) : Traced MemAccess (Option (List EpnoResult)) :=
  match event.vendorData with
  | none => pure none
  | some ⟨mem, len⟩ =>
      if len = 0 then pure none
      else do
        let num := min maxEpnoNetworks (len / wifiPnoResult.sizeof)
        let results ← Traced.each (readNetwork mem len) (List.range num)
        pure (if onNetworkFound then some results else none)

/-! ## What the handler is owed -/

structure PnoRecord where
  ssid : List UInt8
  ssidLen : Nat
  rssi : Int
  channel : Nat
  flags : Nat
  bssid : List UInt8
  deriving DecidableEq, Repr

def PnoRecord.ofBytes (bytes : List UInt8) : PnoRecord :=
  { ssid := slice bytes 0 32
    ssidLen := leValue (slice bytes 32 1)
    rssi := signedWord 1 (leValue (slice bytes 33 1))
    channel := leValue (slice bytes 34 2)
    flags := leValue (slice bytes 36 2)
    bssid := slice bytes 38 6 }

/-- The entry that stands for a record: its SSID up to its length, then zeros. -/
def PnoRecord.result (record : PnoRecord) : EpnoResult :=
  { ssid := record.ssid.take record.ssidLen ++
      List.replicate (scanResultSsid - min record.ssidLen 32) 0
    bssid := record.bssid
    channel := record.channel
    rssi := record.rssi }

def considered (maxEpnoNetworks : Nat) (event : VendorMessage) : List PnoRecord :=
  match event.vendorData with
  | none => []
  | some ⟨mem, len⟩ =>
      (List.range (min maxEpnoNetworks (len / 44))).map fun i =>
        PnoRecord.ofBytes (mem.fetch (i * 44) 44)

def PnoRecord.Found (record : PnoRecord) : Prop := record.flags = pnoSsidFound

instance (record : PnoRecord) : Decidable record.Found := by
  unfold PnoRecord.Found; infer_instance

/-- Nothing is stored beside the SSID of an entry, and the handler gets the networks
that were found, in order. -/
def EpnoFaithful (maxEpnoNetworks : Nat) (onNetworkFound : Bool) (event : VendorMessage) :
    Prop :=
  (EPNOCommand.handleEvent maxEpnoNetworks onNetworkFound event).Every StoreFits ∧
    ∀ networks, (EPNOCommand.handleEvent maxEpnoNetworks onNetworkFound event).value =
        some networks →
      networks = ((considered maxEpnoNetworks event).filter (·.Found)).map PnoRecord.result

/-- No network that was found has an SSID longer than 32 bytes, and none was lost if
somebody listens. -/
def EpnoFits (maxEpnoNetworks : Nat) (onNetworkFound : Bool) (event : VendorMessage) : Prop :=
  ∀ record ∈ considered maxEpnoNetworks event,
    (record.Found → record.ssidLen ≤ 32) ∧ (onNetworkFound = true → record.Found)

section Turn

variable (mem : Octets) (len i : Nat)

def recordAt : PnoRecord := PnoRecord.ofBytes (mem.fetch (i * 44) 44)

theorem recordAt_eq : recordAt mem i =
    { ssid := mem.fetch (i * 44) 32
      ssidLen := mem.word (i * 44 + 32) 1
      rssi := signedWord 1 (mem.word (i * 44 + 33) 1)
      channel := mem.word (i * 44 + 34) 2
      flags := mem.word (i * 44 + 36) 2
      bssid := mem.fetch (i * 44 + 38) 6 } := by
  simp [recordAt, PnoRecord.ofBytes, Octets.slice_fetch, Octets.word]

theorem readNetwork_stores :
    (readNetwork mem len i).Every StoreFits ↔
      ((recordAt mem i).Found → (recordAt mem i).ssidLen ≤ 32) := by
  simp [readNetwork, recordAt_eq, PnoRecord.Found, scanResultSsid]
  omega

theorem readNetwork_found (found : (recordAt mem i).Found)
    (short : (recordAt mem i).ssidLen ≤ 32) :
    (readNetwork mem len i).value = (recordAt mem i).result := by
  rw [recordAt_eq] at found short ⊢
  simp only [PnoRecord.Found] at found short
  have whole : mem.word (i * 44 + 32) 1 + (33 - mem.word (i * 44 + 32) 1) = 33 := by omega
  have ssid : (mem.fetch (i * 44) (mem.word (i * 44 + 32) 1) ++
      List.replicate (scanResultSsid - mem.word (i * 44 + 32) 1) 0).take scanResultSsid =
      (mem.fetch (i * 44) 32).take (mem.word (i * 44 + 32) 1) ++
        List.replicate (scanResultSsid - min (mem.word (i * 44 + 32) 1) 32) 0 := by
    rw [Octets.fetch_take mem short, Nat.min_eq_left short]
    apply List.take_of_length_le
    rw [List.length_append, Octets.fetch_length, List.length_replicate, scanResultSsid, whole]
  simp [readNetwork, found, PnoRecord.result, ssid]

end Turn

section Events

variable (maxEpnoNetworks : Nat) (onNetworkFound : Bool) (mem : Octets) (len : Nat)

theorem considered_some (cmd subcmd : Int32) :
    considered maxEpnoNetworks ⟨cmd, subcmd, some ⟨mem, len⟩⟩ =
      (List.range (min maxEpnoNetworks (len / 44))).map (recordAt mem) := rfl

theorem handleEvent_stores (cmd subcmd : Int32) (present : len ≠ 0) :
    (EPNOCommand.handleEvent maxEpnoNetworks onNetworkFound
        ⟨cmd, subcmd, some ⟨mem, len⟩⟩).Every StoreFits ↔
      ∀ record ∈ considered maxEpnoNetworks ⟨cmd, subcmd, some ⟨mem, len⟩⟩,
        record.Found → record.ssidLen ≤ 32 := by
  rw [considered_some, List.forall_mem_map]
  simp [EPNOCommand.handleEvent, present, readNetwork_stores]

theorem handleEvent_value (cmd subcmd : Int32) (present : len ≠ 0) :
    (EPNOCommand.handleEvent maxEpnoNetworks onNetworkFound
        ⟨cmd, subcmd, some ⟨mem, len⟩⟩).value =
      if onNetworkFound then
        some ((List.range (min maxEpnoNetworks (len / 44))).map fun i =>
          (readNetwork mem len i).value)
      else none := by
  simp [EPNOCommand.handleEvent, present]

end Events

/-- Exactly then the event is passed on as it should be. -/
theorem epno_faithful_iff (maxEpnoNetworks : Nat) (onNetworkFound : Bool)
    (event : VendorMessage) :
    EpnoFaithful maxEpnoNetworks onNetworkFound event ↔
      EpnoFits maxEpnoNetworks onNetworkFound event := by
  obtain ⟨cmd, subcmd, _ | ⟨mem, len⟩⟩ := event
  · simp [EpnoFaithful, EpnoFits, EPNOCommand.handleEvent, considered]
  by_cases present : len = 0
  · simp [EpnoFaithful, EpnoFits, EPNOCommand.handleEvent, considered, present]
  rw [EpnoFaithful, EpnoFits, handleEvent_stores _ _ _ _ _ _ present,
    handleEvent_value _ _ _ _ _ _ present]
  constructor
  · rintro ⟨short, list⟩ record here
    refine ⟨short record here, fun listening => ?_⟩
    have lists := list _ (by rw [if_pos listening])
    have lengths := congrArg List.length lists
    simp only [List.length_map, List.length_range] at lengths
    have count : (considered maxEpnoNetworks ⟨cmd, subcmd, some ⟨mem, len⟩⟩).length =
        min maxEpnoNetworks (len / 44) := by simp [considered_some]
    have all := List.length_filter_eq_length_iff.mp (lengths.symm.trans count.symm)
    simpa using all record here
  · intro fits
    refine ⟨fun record here => (fits record here).1, fun networks made => ?_⟩
    split at made
    next listening =>
      cases made
      have all : (considered maxEpnoNetworks ⟨cmd, subcmd, some ⟨mem, len⟩⟩).filter (·.Found) =
          considered maxEpnoNetworks ⟨cmd, subcmd, some ⟨mem, len⟩⟩ := by
        rw [List.filter_eq_self]
        intro record here
        simpa using (fits record here).2 listening
      rw [all, considered_some, List.map_map]
      refine List.map_congr_left fun i here => ?_
      have member : recordAt mem i ∈
          considered maxEpnoNetworks ⟨cmd, subcmd, some ⟨mem, len⟩⟩ :=
        List.mem_map_of_mem here
      obtain ⟨short, found⟩ := fits _ member
      exact readNetwork_found mem len i (found listening) (short (found listening))
    next => cases made

def lostThenFound : VendorMessage :=
  { cmd := nl80211CmdVendor
    subcmd := VendorEvent.epnoEvent.subcmd
    vendorData := some ⟨fun i => if i = 36 then 2 else if i = 80 then 1 else 0, 88⟩ }

def longSsid : VendorMessage :=
  { cmd := nl80211CmdVendor
    subcmd := VendorEvent.epnoEvent.subcmd
    vendorData := some ⟨fun i => if i = 32 then 33 else if i = 36 then 1 else 0, 44⟩ }

theorem epno_not_faithful :
    ¬ EpnoFaithful 64 true lostThenFound ∧ ¬ EpnoFaithful 64 true longSsid := by
  constructor
  · rintro ⟨-, list⟩
    have lists := list _ rfl
    revert lists
    decide
  · rintro ⟨stores, -⟩
    rw [longSsid, handleEvent_stores _ _ _ _ _ _ (by decide)] at stores
    revert stores
    decide

end Mt6757.WifiHal
