import Mt6757.Lib.Splice
import Mt6757.WifiHal.RecordEvents

/-!
# Replies that fill a record

Five queries hand over a record.  Every reply is laid over the front of it, as far as the reply
goes: two of the handlers look for an attribute in the vendor data, three take the bytes as they
are.  A request may pass on several replies before its acknowledgement comes.
-/

set_option autoImplicit false

namespace Mt6757.WifiHal

open MemAccess (Safe)

def gscanAttributeCapabilities : Nat := 1
def nlStop : Int := 2

/-! ## The handlers -/

/-- `memcpy(record, data, min(len, sizeof record))`; without vendor data the length is zero. -/
def copyVendorData (record : List UInt8) (reply : VendorMessage) :
    Traced MemAccess (List UInt8) :=
  match reply.vendorData with
  | none => pure record
  | some ⟨mem, len⟩ => do
      let copied ← MemAccess.copy mem 0 (min (len : Int) record.length) len
      pure (copied ++ record.drop copied.length)

/-- As `copyVendorData`, of what is behind the header of an attribute, if that has the type. -/
def copyBehindHeader (type : Nat) (record : List UInt8) (reply : VendorMessage) :
    Traced MemAccess (List UInt8) :=
  match reply.vendorData with
  | none => do
      Traced.emit .null
      pure record
  | some ⟨mem, len⟩ => do
      let nlaType ← MemAccess.word mem 2 2 len
      let copied ← Traced.onlyIf (nlaType == type)
        (MemAccess.copy mem (Netlink.data 0) (min ((len : Int) - Netlink.hdrlen) record.length) len)
        []
      pure (copied ++ record.drop copied.length)

/-- A handler that takes the replies of vendor commands only. -/
def takeReply (copy : List UInt8 → VendorMessage → Traced MemAccess (List UInt8))
    (result : List UInt8 → Int) (record : List UInt8) (reply : VendorMessage) :
    Traced MemAccess (Int × List UInt8) :=
  if reply.cmd ≠ nl80211CmdVendor then pure (nlSkip, record)
  else do
    let record ← copy record reply
    pure (result record, record)

/-- The members that tell whether the driver scans at all stand at the offsets `tested`. -/
def GetCapabilitiesCommand.handleResponse (tested : List Nat) :
    List UInt8 → VendorMessage → Traced MemAccess (Int × List UInt8) :=
  takeReply (copyBehindHeader gscanAttributeCapabilities) fun capabilities =>
    if tested.any fun offset => leValue (slice capabilities offset 4) ≠ 0 then nlOk else nlStop

def GetRttResponderInfoCommand.handleResponse :
    List UInt8 → VendorMessage → Traced MemAccess (Int × List UInt8) :=
  takeReply copyVendorData fun _ => nlOk

def EnableResponderCommand.handleResponse :
    List UInt8 → VendorMessage → Traced MemAccess (Int × List UInt8) :=
  takeReply copyVendorData fun _ => nlOk

theorem GetRttCapabilitiesCommand.handleResponse_eq :
    GetRttCapabilitiesCommand.handleResponse =
      takeReply (copyBehindHeader rttAttributeCapabilities) fun _ => nlOk := by
  funext record reply
  obtain ⟨cmd, subcmd, _ | ⟨mem, len⟩⟩ := reply
  · rfl
  · simp only [handleResponse, takeReply, copyBehindHeader]
    split
    · rfl
    · simp only [bind, pure, List.append_nil]

/-- `GetFeatureSetCommand::handleResponse` for `WIFI_ATTRIBUTE_FEATURE_SET`; `supplied` says
whether there is a `fset`. -/
def GetFeatureSetCommand.handleFeatureSet (supplied : Bool) (fset : List UInt8)
    (reply : VendorMessage) : Traced MemAccess (Int × List UInt8) :=
  if reply.cmd ≠ nl80211CmdVendor then pure (nlSkip, fset)
  else
    match reply.vendorData with
    | none => pure (nlSkip, fset)
    | some vendorData =>
        if vendorData.len = 0 then pure (nlSkip, fset)
        else if !supplied then pure (nlSkip, fset)
        else do
          let fset ← copyVendorData fset reply
          pure (nlOk, fset)

/-! ## What a reply holds -/

/-- The bytes of the vendor data, as far as a record of `size` has room for them. -/
def VendorMessage.front (reply : VendorMessage) (size : Nat) : List UInt8 :=
  match reply.vendorData with
  | none => []
  | some ⟨mem, len⟩ => mem.fetch 0 (min len size)

def VendorMessage.behindHeader (reply : VendorMessage) (type size : Nat) : List UInt8 :=
  match reply.vendorData with
  | none => []
  | some ⟨mem, len⟩ =>
      if mem.word 2 2 = type then mem.fetch Netlink.hdrlen (min (len - Netlink.hdrlen) size) else []

def VendorMessage.HasHeader (reply : VendorMessage) : Prop :=
  ∃ vendorData, reply.vendorData = some vendorData ∧ Netlink.hdrlen ≤ vendorData.len

section Copies
variable (type : Nat) (record : List UInt8) (reply : VendorMessage)

theorem put_front (bytes : List UInt8) :
    Patch.put record ⟨0, bytes⟩ = bytes ++ record.drop bytes.length := by
  simp [Patch.put, splice]

theorem copyVendorData_value :
    (copyVendorData record reply).value =
      Patch.put record ⟨0, reply.front record.length⟩ := by
  obtain ⟨cmd, subcmd, _ | ⟨mem, len⟩⟩ := reply
  · rfl
  · have size : (min (len : Int) record.length).toNat = min len record.length := by omega
    simp [copyVendorData, VendorMessage.front, put_front, size]

theorem copyVendorData_safe : Safe reply.octets (copyVendorData record reply) := by
  obtain ⟨cmd, subcmd, _ | ⟨mem, len⟩⟩ := reply
  · exact Traced.every_pure _
  · simp [copyVendorData]

theorem copyBehindHeader_value :
    (copyBehindHeader type record reply).value =
      Patch.put record ⟨0, reply.behindHeader type record.length⟩ := by
  obtain ⟨cmd, subcmd, _ | ⟨mem, len⟩⟩ := reply
  · rfl
  · have size : (min ((len : Int) - Netlink.hdrlen) record.length).toNat =
        min (len - Netlink.hdrlen) record.length := by
      simp only [Netlink.hdrlen]
      omega
    by_cases found : mem.word 2 2 = type
    · simp [copyBehindHeader, VendorMessage.behindHeader, put_front, found, size, Netlink.data]
    · simp [copyBehindHeader, VendorMessage.behindHeader, put_front, found]

theorem copyBehindHeader_safe_iff :
    Safe reply.octets (copyBehindHeader type record reply) ↔ reply.HasHeader := by
  obtain ⟨cmd, subcmd, _ | ⟨mem, len⟩⟩ := reply
  · simp [copyBehindHeader, VendorMessage.HasHeader, Safe]
  · simp [copyBehindHeader, VendorMessage.HasHeader, Netlink.data, Netlink.hdrlen]
    omega

end Copies

/-! ## The five queries -/

inductive CapabilityQuery where
  | gscan (tested : List Nat)
  | rtt
  | responderInfo
  | enableResponder
  | featureSet (supplied : Bool)

namespace CapabilityQuery

def handle : CapabilityQuery → List UInt8 → VendorMessage → Traced MemAccess (Int × List UInt8)
  | gscan tested => GetCapabilitiesCommand.handleResponse tested
  | rtt => GetRttCapabilitiesCommand.handleResponse
  | responderInfo => GetRttResponderInfoCommand.handleResponse
  | enableResponder => EnableResponderCommand.handleResponse
  | featureSet supplied => GetFeatureSetCommand.handleFeatureSet supplied

/-- What a reply holds for a record of so many bytes. -/
def supplied (query : CapabilityQuery) (size : Nat) (reply : VendorMessage) : List UInt8 :=
  if reply.cmd ≠ nl80211CmdVendor then []
  else
    match query with
    | gscan _ => reply.behindHeader gscanAttributeCapabilities size
    | rtt => reply.behindHeader rttAttributeCapabilities size
    | responderInfo | enableResponder => reply.front size
    | featureSet present => if present then reply.front size else []

def HasRoom (query : CapabilityQuery) (reply : VendorMessage) : Prop :=
  match query with
  | gscan _ | rtt => reply.cmd = nl80211CmdVendor → reply.HasHeader
  | _ => True

/-- Four of the commands clear the record when they are made. -/
def initial (query : CapabilityQuery) (record : List UInt8) : List UInt8 :=
  match query with
  | featureSet _ => record
  | _ => List.replicate record.length 0

/-- The record after the replies that a request passes on. -/
def run (query : CapabilityQuery) (record : List UInt8) (replies : List VendorMessage) :
    List UInt8 :=
  replies.foldl (fun record reply => (query.handle record reply).value.2) (query.initial record)

section OneReply
variable (query : CapabilityQuery) (record : List UInt8) (reply : VendorMessage)

theorem takeReply_value {copy : List UInt8 → VendorMessage → Traced MemAccess (List UInt8)}
    {result : List UInt8 → Int} {held : List UInt8}
    (value : (copy record reply).value = Patch.put record ⟨0, held⟩) :
    (takeReply copy result record reply).value.2 =
      Patch.put record ⟨0, if reply.cmd ≠ nl80211CmdVendor then [] else held⟩ := by
  by_cases vendor : reply.cmd = nl80211CmdVendor
  · simp [takeReply, vendor, value]
  · simp [takeReply, vendor, put_front]

theorem takeReply_safe_iff {copy : List UInt8 → VendorMessage → Traced MemAccess (List UInt8)}
    {result : List UInt8 → Int} {room : Prop}
    (safe : Safe reply.octets (copy record reply) ↔ room) :
    Safe reply.octets (takeReply copy result record reply) ↔
      (reply.cmd = nl80211CmdVendor → room) := by
  by_cases vendor : reply.cmd = nl80211CmdVendor
  · simp [takeReply, vendor, safe]
  · simp [takeReply, vendor, Safe]

theorem handleFeatureSet_value (present : Bool) :
    (GetFeatureSetCommand.handleFeatureSet present record reply).value.2 =
      Patch.put record ⟨0, (featureSet present).supplied record.length reply⟩ := by
  have nothing : Patch.put record ⟨0, []⟩ = record := put_front record []
  have copied := copyVendorData_value record reply
  by_cases vendor : reply.cmd = nl80211CmdVendor
  · rw [supplied, if_neg (not_not_intro vendor), GetFeatureSetCommand.handleFeatureSet,
      if_neg (not_not_intro vendor)]
    cases present with
    | false =>
        rw [if_neg Bool.false_ne_true, nothing]
        split
        · rfl
        · split <;> rfl
    | true =>
        rw [if_pos rfl, ← copied]
        split
        next none => rw [copyVendorData, none]; rfl
        next vendorData here =>
          split
          next empty => simp [copyVendorData, here, empty]
          next => rfl
  · rw [supplied, if_pos vendor, nothing, GetFeatureSetCommand.handleFeatureSet, if_pos vendor]
    rfl

theorem handleFeatureSet_safe (present : Bool) :
    Safe reply.octets (GetFeatureSetCommand.handleFeatureSet present record reply) := by
  have copied := copyVendorData_safe record reply
  rw [GetFeatureSetCommand.handleFeatureSet]
  split
  · exact Traced.every_pure _
  · split
    · exact Traced.every_pure _
    · split
      · exact Traced.every_pure _
      · split
        · exact Traced.every_pure _
        · exact (Traced.every_bind _ _).mpr ⟨copied, Traced.every_pure _⟩

/-- What a handler leaves: the record with what the reply holds over its front. -/
theorem handle_value :
    (query.handle record reply).value.2 =
      Patch.put record ⟨0, query.supplied record.length reply⟩ := by
  cases query with
  | gscan tested => exact takeReply_value record reply (copyBehindHeader_value _ record reply)
  | rtt =>
      rw [handle, GetRttCapabilitiesCommand.handleResponse_eq]
      exact takeReply_value record reply (copyBehindHeader_value _ record reply)
  | responderInfo => exact takeReply_value record reply (copyVendorData_value record reply)
  | enableResponder => exact takeReply_value record reply (copyVendorData_value record reply)
  | featureSet present => exact handleFeatureSet_value record reply present

theorem handle_safe_iff :
    Safe reply.octets (query.handle record reply) ↔ query.HasRoom reply := by
  have anywhere := @takeReply_safe_iff record reply copyVendorData (fun _ => nlOk) True
    (iff_of_true (copyVendorData_safe record reply) trivial)
  cases query with
  | gscan tested => exact takeReply_safe_iff record reply (copyBehindHeader_safe_iff _ record reply)
  | rtt =>
      rw [handle, GetRttCapabilitiesCommand.handleResponse_eq]
      exact takeReply_safe_iff record reply (copyBehindHeader_safe_iff _ record reply)
  | responderInfo => exact iff_of_true (anywhere.mpr fun _ => trivial) trivial
  | enableResponder => exact iff_of_true (anywhere.mpr fun _ => trivial) trivial
  | featureSet present => exact iff_of_true (handleFeatureSet_safe record reply present) trivial

theorem length_supplied_le (size : Nat) : (query.supplied size reply).length ≤ size := by
  have front : (reply.front size).length ≤ size := by
    unfold VendorMessage.front
    split
    · exact Nat.zero_le _
    · rw [Octets.fetch_length]
      exact Nat.min_le_right _ _
  have behind : ∀ type, (reply.behindHeader type size).length ≤ size := by
    intro type
    unfold VendorMessage.behindHeader
    split
    · exact Nat.zero_le _
    · split
      · rw [Octets.fetch_length]
        exact Nat.min_le_right _ _
      · exact Nat.zero_le _
  unfold supplied
  split
  · exact Nat.zero_le _
  · split
    · exact behind _
    · exact behind _
    · exact front
    · exact front
    · split
      · exact front
      · exact Nat.zero_le _

end OneReply

/-! ## All replies of a request -/

section Replies
variable (query : CapabilityQuery)

def patch (size : Nat) (reply : VendorMessage) : Patch := ⟨0, query.supplied size reply⟩

theorem patch_inside {size : Nat} {record : List UInt8} (length : record.length = size)
    (reply : VendorMessage) : (query.patch size reply).Inside record := by
  have short := query.length_supplied_le reply size
  rw [Patch.Inside, Patch.stop, length]
  exact (Nat.zero_add _).trans_le short

theorem foldl_handle (size : Nat) (replies : List VendorMessage) {record : List UInt8}
    (length : record.length = size) :
    replies.foldl (fun record reply => (query.handle record reply).value.2) record =
      Patch.putAll record (replies.map (query.patch size)) := by
  induction replies generalizing record with
  | nil => rfl
  | cons reply replies ih =>
      have first : (query.handle record reply).value.2 =
          Patch.put record (query.patch size reply) := by
        rw [handle_value, length]
        rfl
      have length' : (Patch.put record (query.patch size reply)).length = size :=
        (Patch.put_length (query.patch_inside length reply)).trans length
      rw [List.foldl_cons, first, ih length', Patch.putAll, Patch.putAll, List.map_cons,
        List.foldl_cons]

theorem length_initial (record : List UInt8) :
    (query.initial record).length = record.length := by
  cases query with
  | featureSet present => rfl
  | _ => exact List.length_replicate

/-- The last reply that reaches as far as byte `i`. -/
def deciding (size : Nat) (replies : List VendorMessage) (i : Nat) : Option VendorMessage :=
  replies.reverse.find? fun reply => i < (query.supplied size reply).length

theorem overlay_patches (size : Nat) (replies : List VendorMessage) (mem : Nat → Option UInt8)
    (i : Nat) :
    Patch.overlay (replies.map (query.patch size)).reverse mem i =
      match query.deciding size replies i with
      | some reply => (query.supplied size reply)[i]?
      | none => mem i := by
  have covers : (fun patch : Patch => decide (patch.Covers i)) ∘ query.patch size =
      fun reply => decide (i < (query.supplied size reply).length) := by
    funext reply
    simp [patch, Patch.Covers, Patch.stop]
  rw [Patch.overlay, ← List.map_reverse, List.find?_map, covers, deciding]
  cases replies.reverse.find? fun reply => decide (i < (query.supplied size reply).length) with
  | none => rfl
  | some reply => rfl

/-- The handlers read inside the vendor data exactly when each reply that is looked at has the
header; the record keeps its size, and the last reply that reaches a byte decides it. -/
theorem last_reply_decides (record : List UInt8) (replies : List VendorMessage) :
    ((∀ before reply after, replies = before ++ reply :: after →
        Safe reply.octets (query.handle (query.run record before) reply)) ↔
      ∀ reply ∈ replies, query.HasRoom reply) ∧
    (query.run record replies).length = record.length ∧
    ∀ i, (query.run record replies)[i]? =
      match query.deciding record.length replies i with
      | some reply => (query.supplied record.length reply)[i]?
      | none => (query.initial record)[i]? := by
  have length := query.length_initial record
  have inside : ∀ patch ∈ replies.map (query.patch record.length),
      patch.Inside (query.initial record) := by
    intro patch here
    obtain ⟨reply, -, rfl⟩ := List.mem_map.mp here
    exact query.patch_inside length reply
  have whole : query.run record replies =
      Patch.putAll (query.initial record) (replies.map (query.patch record.length)) :=
    query.foldl_handle record.length replies length
  refine ⟨⟨?_, ?_⟩, ?_, ?_⟩
  · intro safe reply here
    obtain ⟨before, after, split⟩ := List.append_of_mem here
    exact (query.handle_safe_iff _ reply).mp (safe before reply after split)
  · rintro room before reply after rfl
    exact (query.handle_safe_iff _ reply).mpr
      (room reply (List.mem_append_right _ List.mem_cons_self))
  · rw [whole, Patch.putAll_length inside, length]
  · intro i
    rw [whole, Patch.putAll_getElem?_last inside, overlay_patches]

end Replies

end CapabilityQuery

end Mt6757.WifiHal
