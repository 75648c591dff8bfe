import Mathlib.Algebra.Order.Ring.Int
import Mt6757.WifiHal.Roaming

/-!
# What a roaming configuration is encoded to

The encoder copies each SSID of the whitelist into one local buffer, by the length that the
entry gives.  How far it gets depends on the room in the message; what it copies on the way
is in bounds exactly when no entry that it gets to is too long.
-/

set_option autoImplicit false

namespace Mt6757.WifiHal

/-! ## Messages that grow -/

def NlItem.size : NlItem → Nat
  | .attr _ payload => nlaAlign (nlaHdrlen + payload.length)
  | .nestStart _ => nlaAlign nlaHdrlen
  | .nestEnd => 0

def itemsSize (items : List NlItem) : Nat := (items.map NlItem.size).sum

@[simp] theorem itemsSize_nil : itemsSize [] = 0 := rfl

theorem itemsSize_cons (item : NlItem) (items : List NlItem) :
    itemsSize (item :: items) = item.size + itemsSize items := List.sum_cons

theorem itemsSize_singleton (item : NlItem) : itemsSize [item] = item.size := List.sum_singleton

theorem itemsSize_append (items rest : List NlItem) :
    itemsSize (items ++ rest) = itemsSize items + itemsSize rest := by
  rw [itemsSize, List.map_append, List.sum_append]
  rfl

theorem noRoom_neg : -nleNomem < 0 := by decide

namespace RequestMsg

/-- The message with more items behind those it has. -/
def grow (msg : RequestMsg) (items : List NlItem) : RequestMsg :=
  { msg with used := msg.used + itemsSize items, items := msg.items ++ items }

variable (msg : RequestMsg)

theorem grow_grow (items rest : List NlItem) :
    (msg.grow items).grow rest = msg.grow (items ++ rest) := by
  simp only [grow, itemsSize_append, Nat.add_assoc, List.append_assoc]

theorem grow_nil : msg.grow [] = msg := by
  rw [grow, itemsSize_nil, Nat.add_zero, List.append_nil]

@[simp] theorem grow_used (items : List NlItem) :
    (msg.grow items).used = msg.used + itemsSize items := rfl

@[simp] theorem grow_capacity (items : List NlItem) :
    (msg.grow items).capacity = msg.capacity := rfl

theorem put_cases (type : UInt16) (payload : Payload) :
    (msg.used + (NlItem.attr type payload).size ≤ msg.capacity ∧
        msg.put type payload = (0, msg.grow [.attr type payload])) ∨
      (msg.capacity < msg.used + (NlItem.attr type payload).size ∧
        msg.put type payload = (-nleNomem, msg)) := by
  rw [put, append]
  by_cases room : msg.used + nlaAlign (nlaHdrlen + payload.length) ≤ msg.capacity
  · exact .inl ⟨room, by rw [if_pos room]; rfl⟩
  · exact .inr ⟨Nat.lt_of_not_le room, by rw [if_neg room]⟩

theorem nestStart_cases (type : UInt16) :
    (msg.used + (NlItem.nestStart type).size ≤ msg.capacity ∧
        msg.nestStart type = (true, msg.grow [.nestStart type])) ∨
      (msg.capacity < msg.used + (NlItem.nestStart type).size ∧
        msg.nestStart type = (false, msg)) := by
  rw [nestStart, append]
  by_cases room : msg.used + nlaAlign (nlaHdrlen + 0) ≤ msg.capacity
  · exact .inl ⟨room, by rw [if_pos room]; rfl⟩
  · exact .inr ⟨Nat.lt_of_not_le room, by rw [if_neg room]⟩

end RequestMsg

namespace Roaming

/-! ## The items of a configuration -/

def vendorItems (request : WifiRequest) : List NlItem :=
  [.attr nl80211AttrVendorId (u32Bytes googleOui)] ++
    ([.attr nl80211AttrVendorSubcmd (u32Bytes wifiSubcmdConfigRoaming)] ++
      if request.mIface = -1 then []
      else [.attr nl80211AttrIfindex (u32Bytes request.mIface.toUInt32)])

section Items

variable (config : Config)

def blacklistItem (i : Nat) : NlItem :=
  .attr wifiAttributeRoamingBlacklistBssid (config.blacklistBssid i)

def blacklistItems (i count : Nat) : List NlItem :=
  (List.range' i count).map (blacklistItem config)

/-- What stands before the SSIDs. -/
def headItems : List NlItem :=
  [.nestStart nl80211AttrVendorData,
    .attr wifiAttributeRoamingBlacklistNum (u32Bytes config.numBlacklistBssid)] ++
    (blacklistItems config 0 config.numBlacklistBssid.toNat ++
      [.attr wifiAttributeRoamingWhitelistNum (u32Bytes config.numWhitelistSsid)])

/-- The local buffer as it is put for entry `i`. -/
def bufferItem (i : Nat) : NlItem :=
  .attr wifiAttributeRoamingWhitelistSsid (config.whitelistSsid i).payload

def bufferItems (i count : Nat) : List NlItem :=
  (List.range' i count).map (bufferItem config)

/-- The bytes of an SSID and a NUL. -/
def Ssid.terminated (ssid : Ssid) : Payload :=
  (List.range ssid.length.toNat).map ssid.ssidStr ++ [0]

/-- The whitelist, each SSID as its bytes and a NUL. -/
def ssidItems (count : Nat) : List NlItem :=
  (List.range count).map fun i =>
    .attr wifiAttributeRoamingWhitelistSsid (config.whitelistSsid i).terminated

theorem blacklistItems_succ (i count : Nat) :
    blacklistItems config i (count + 1) =
      [blacklistItem config i] ++ blacklistItems config (i + 1) count := by
  rw [blacklistItems, List.range'_succ, List.map_cons]
  rfl

theorem bufferItems_succ (i count : Nat) :
    bufferItems config i (count + 1) =
      [bufferItem config i] ++ bufferItems config (i + 1) count := by
  rw [bufferItems, List.range'_succ, List.map_cons]
  rfl

theorem bufferItems_add (i count more : Nat) :
    bufferItems config i (count + more) =
      bufferItems config i count ++ bufferItems config (i + count) more := by
  rw [bufferItems, ← List.range'_append_1, List.map_append]
  rfl

theorem bufferItems_mono (i : Nat) {count more : Nat} (le : count ≤ more) :
    itemsSize (bufferItems config i count) ≤ itemsSize (bufferItems config i more) := by
  obtain ⟨rest, rfl⟩ := Nat.exists_eq_add_of_le le
  rw [bufferItems_add, itemsSize_append]
  omega

/-- Where no SSID is too long, the local buffer is put as far as it was filled. -/
theorem Ssid.payload_eq {ssid : Ssid} (short : ssid.length.toNat + 1 < 2 ^ 32) :
    ssid.payload = ssid.terminated := by
  have bytes : ssid.terminated.length = ssid.length.toNat + 1 := by
    rw [Ssid.terminated, List.length_append, List.length_map, List.length_range]
    rfl
  have whole : (ssid.length + 1).toNat = ssid.length.toNat + 1 := by
    rw [UInt32.toNat_add]
    exact Nat.mod_eq_of_lt short
  rw [Ssid.payload, whole, ← bytes]
  exact List.take_length

theorem bufferItems_eq {count : Nat}
    (short : ∀ k < count, (config.whitelistSsid k).length.toNat + 1 < 2 ^ 32) :
    bufferItems config 0 count = ssidItems config count := by
  rw [bufferItems, ssidItems, ← List.range_eq_range']
  refine List.map_congr_left fun k listed => ?_
  rw [bufferItem, Ssid.payload_eq (short k (List.mem_range.mp listed))]

end Items

/-! ## Accesses to SSIDs -/

/-- The bytes of `ssid_str`, of which there are `maxSsidLength`, and of the local buffer,
which has one more. -/
def Access.inSsid (maxSsidLength : Nat) : Access → Prop
  | .copySsid length => length ≤ maxSsidLength ∧ length ≤ maxSsidLength + 1
  | .terminateSsid i => i < maxSsidLength + 1
  | .blacklistBssid _ => True
  | .whitelistSsid _ => True

def AllInSsid (maxSsidLength : Nat) (accesses : List Access) : Prop :=
  ∀ access ∈ accesses, access.inSsid maxSsidLength

section Encoder

variable {maxSsidLength : Nat} {config : Config}

theorem allInSsid_nil : AllInSsid maxSsidLength [] := List.forall_mem_nil _

theorem allInSsid_append {accesses rest : List Access} :
    AllInSsid maxSsidLength (accesses ++ rest) ↔
      AllInSsid maxSsidLength accesses ∧ AllInSsid maxSsidLength rest :=
  List.forall_mem_append

theorem allInSsid_bssid (i : Nat) : AllInSsid maxSsidLength [.blacklistBssid i] := by
  intro access listed
  rw [List.mem_singleton.mp listed]
  trivial

theorem allInSsid_entry (i : Nat) (length : Nat) :
    AllInSsid maxSsidLength [.whitelistSsid i, .copySsid length, .terminateSsid length] ↔
      length ≤ maxSsidLength := by
  simp only [AllInSsid, List.forall_mem_cons, List.not_mem_nil, false_imp_iff, implies_true,
    and_true, Access.inSsid, true_and]
  omega

/-! ## Adding items -/

/-- A run adds these items to a message, or it fails and there was no room for them. -/
def Puts (result : Int) (last msg : RequestMsg) (items : List NlItem) : Prop :=
  (msg.used + itemsSize items ≤ msg.capacity ∧ result = 0 ∧ last = msg.grow items) ∨
    (msg.capacity < msg.used + itemsSize items ∧ result < 0)

section Puts

variable {result : Int} {last msg : RequestMsg} {first items : List NlItem}

theorem Puts.after (added : Puts result last (msg.grow first) items) :
    Puts result last msg (first ++ items) := by
  rw [Puts, RequestMsg.grow_grow, RequestMsg.grow_used, RequestMsg.grow_capacity,
    Nat.add_assoc, ← itemsSize_append] at added
  exact added

theorem puts_stopped (full : msg.capacity < msg.used + itemsSize first) (failed : result < 0) :
    Puts result last msg (first ++ items) := by
  refine .inr ⟨?_, failed⟩
  rw [itemsSize_append]
  omega

end Puts

theorem puts_put (msg : RequestMsg) (type : UInt16) (payload : Payload) :
    Puts (msg.put type payload).1 (msg.put type payload).2 msg [.attr type payload] := by
  rw [Puts, itemsSize_singleton]
  rcases msg.put_cases type payload with ⟨room, put⟩ | ⟨full, put⟩
  · rw [put]
    exact .inl ⟨room, rfl, rfl⟩
  · rw [put]
    exact .inr ⟨full, noRoom_neg⟩

theorem putBlacklist_inSsid (left i : Nat) (encoding : Encoding) :
    AllInSsid maxSsidLength (putBlacklist config left i encoding).2.accesses ↔
      AllInSsid maxSsidLength encoding.accesses := by
  induction left generalizing i encoding with
  | zero => exact Iff.rfl
  | succ left ih =>
      have added : AllInSsid maxSsidLength (encoding.accesses ++ [.blacklistBssid i]) ↔
          AllInSsid maxSsidLength encoding.accesses :=
        allInSsid_append.trans (and_iff_left (allInSsid_bssid i))
      rw [putBlacklist]
      dsimp only
      split
      · exact added
      · exact (ih _ _).trans added

theorem puts_blacklist (left i : Nat) {encoding : Encoding}
    (fits : encoding.msg.used ≤ encoding.msg.capacity) :
    Puts (putBlacklist config left i encoding).1 (putBlacklist config left i encoding).2.msg
      encoding.msg (blacklistItems config i left) := by
  induction left generalizing i encoding with
  | zero => exact .inl ⟨fits, rfl, encoding.msg.grow_nil.symm⟩
  | succ left ih =>
      rw [blacklistItems_succ]
      rcases encoding.msg.put_cases wifiAttributeRoamingBlacklistBssid (config.blacklistBssid i)
        with ⟨room, put⟩ | ⟨full, put⟩
      · rw [putBlacklist, put]
        exact (ih (i + 1) room).after
      · rw [putBlacklist, put]
        exact puts_stopped full noRoom_neg

theorem puts_whitelist (left i : Nat) {encoding : Encoding}
    (fits : encoding.msg.used ≤ encoding.msg.capacity) :
    Puts (putWhitelist config left i encoding).1 (putWhitelist config left i encoding).2.msg
      encoding.msg (bufferItems config i left) := by
  induction left generalizing i encoding with
  | zero => exact .inl ⟨fits, rfl, encoding.msg.grow_nil.symm⟩
  | succ left ih =>
      rw [bufferItems_succ]
      rcases encoding.msg.put_cases wifiAttributeRoamingWhitelistSsid
        (config.whitelistSsid i).payload with ⟨room, put⟩ | ⟨full, put⟩
      · rw [putWhitelist, put]
        exact (ih (i + 1) room).after
      · rw [putWhitelist, put]
        exact puts_stopped full noRoom_neg

/-- The entries that the encoder gets to, from index `i` on, are not too long. -/
def ReachedShort (maxSsidLength : Nat) (config : Config) (msg : RequestMsg) (i left : Nat) : Prop :=
  ∀ k < left, msg.used + itemsSize (bufferItems config i k) ≤ msg.capacity →
    (config.whitelistSsid (i + k)).length.toNat ≤ maxSsidLength

/-- The first entry is always got to; the others only if it has been put. -/
theorem reachedShort_succ {msg : RequestMsg} (fits : msg.used ≤ msg.capacity) (i left : Nat) :
    ReachedShort maxSsidLength config msg i (left + 1) ↔
      (config.whitelistSsid i).length.toNat ≤ maxSsidLength ∧
        ReachedShort maxSsidLength config (msg.grow [bufferItem config i]) (i + 1) left := by
  have shifted (k : Nat) : msg.used + itemsSize (bufferItems config i (k + 1)) =
      (msg.grow [bufferItem config i]).used + itemsSize (bufferItems config (i + 1) k) := by
    rw [bufferItems_succ, itemsSize_append, RequestMsg.grow_used, Nat.add_assoc]
  constructor
  · intro short
    refine ⟨short 0 (Nat.succ_pos _) fits, fun k small reached => ?_⟩
    rw [Nat.add_right_comm i 1 k]
    exact short (k + 1) (Nat.succ_lt_succ small) (by rw [shifted]; exact reached)
  · intro both k small reached
    obtain ⟨first, rest⟩ := both
    cases k with
    | zero => exact first
    | succ k =>
        rw [← Nat.add_assoc, Nat.add_right_comm i k 1]
        exact rest k (Nat.lt_of_succ_lt_succ small) (by rw [← shifted]; exact reached)

theorem reachedShort_full {msg : RequestMsg} (full : msg.capacity < msg.used) (i left : Nat) :
    ReachedShort maxSsidLength config msg i left :=
  fun _ _ reached => absurd reached (by omega)

theorem putWhitelist_inSsid (left i : Nat) {encoding : Encoding}
    (fits : encoding.msg.used ≤ encoding.msg.capacity) :
    AllInSsid maxSsidLength (putWhitelist config left i encoding).2.accesses ↔
      AllInSsid maxSsidLength encoding.accesses ∧
        ReachedShort maxSsidLength config encoding.msg i left := by
  induction left generalizing i encoding with
  | zero => exact (and_iff_left fun k small => absurd small k.not_lt_zero).symm
  | succ left ih =>
      rw [reachedShort_succ fits, ← and_assoc, ← allInSsid_entry i, ← allInSsid_append]
      rcases encoding.msg.put_cases wifiAttributeRoamingWhitelistSsid
        (config.whitelistSsid i).payload with ⟨room, put⟩ | ⟨full, put⟩
      · rw [putWhitelist, put]
        exact ih (i + 1) room
      · -- what has no room is copied before it is refused
        rw [putWhitelist, put]
        exact (and_iff_left (reachedShort_full full (i + 1) left)).symm

/-! ## The whole configuration -/

/-- What the encoder does of a configuration: its copies are in bounds exactly if those are
that it gets to, and if it succeeds everything has been put. -/
structure Encodes (maxSsidLength : Nat) (config : Config) (msg : RequestMsg)
    (run : Int × Encoding) : Prop where
  inSsid : AllInSsid maxSsidLength run.2.accesses ↔
    ReachedShort maxSsidLength config (msg.grow (headItems config)) 0 config.numWhitelistSsid.toNat
  complete : run.1 = wifiSuccess →
    run.2.msg = (msg.grow (headItems config ++
        bufferItems config 0 config.numWhitelistSsid.toNat)).nestEnd ∧
      (msg.grow (headItems config ++
        bufferItems config 0 config.numWhitelistSsid.toNat)).used ≤ msg.capacity

theorem encodes_stopped {msg : RequestMsg} {run : Int × Encoding}
    (harmless : AllInSsid maxSsidLength run.2.accesses)
    (full : msg.capacity < msg.used + itemsSize (headItems config)) (failed : run.1 < 0) :
    Encodes maxSsidLength config msg run where
  inSsid := iff_of_true harmless (reachedShort_full full 0 _)
  complete success := absurd failed (by rw [success]; decide)

theorem encodes_whitelist {msg : RequestMsg} {encoding : Encoding}
    (before : encoding.msg = msg.grow (headItems config))
    (fits : msg.used + itemsSize (headItems config) ≤ msg.capacity)
    (harmless : AllInSsid maxSsidLength encoding.accesses) :
    Encodes maxSsidLength config msg
      (match putWhitelist config config.numWhitelistSsid.toNat 0 encoding with
        | (result, encoding) =>
            if result < 0 then (result, encoding)
            else (wifiSuccess, { encoding with msg := encoding.msg.nestEnd })) := by
  have room : encoding.msg.used ≤ encoding.msg.capacity := by
    rw [before]
    exact fits
  have inSsid := (@putWhitelist_inSsid maxSsidLength config
    config.numWhitelistSsid.toNat 0 _ room).trans (and_iff_right harmless)
  have added := @puts_whitelist config config.numWhitelistSsid.toNat 0 _ room
  rw [before] at inSsid added
  generalize putWhitelist config config.numWhitelistSsid.toNat 0 encoding = run at inSsid added ⊢
  obtain ⟨result, last⟩ := run
  rcases added.after with ⟨all, succeeded, grown⟩ | ⟨-, failed⟩
  · obtain rfl : result = 0 := succeeded
    exact ⟨inSsid, fun _ => ⟨congrArg RequestMsg.nestEnd grown, all⟩⟩
  · have negative : result < 0 := failed
    dsimp only
    rw [if_pos negative]
    refine ⟨inSsid, fun success => absurd negative ?_⟩
    rw [show result = wifiSuccess from success]
    decide

theorem encodes_whitelistNum {msg : RequestMsg} {encoding : Encoding} {front : List NlItem}
    (before : encoding.msg = msg.grow front)
    (head : headItems config = front ++
      [.attr wifiAttributeRoamingWhitelistNum (u32Bytes config.numWhitelistSsid)])
    (harmless : AllInSsid maxSsidLength encoding.accesses) :
    Encodes maxSsidLength config msg
      (match encoding.msg.putU32 wifiAttributeRoamingWhitelistNum config.numWhitelistSsid with
        | (result, msg) =>
            let encoding := { encoding with msg := msg }
            if result < 0 then (result, encoding)
            else
              match putWhitelist config config.numWhitelistSsid.toNat 0 encoding with
              | (result, encoding) =>
                  if result < 0 then (result, encoding)
                  else (wifiSuccess, { encoding with msg := encoding.msg.nestEnd })) := by
  have size := congrArg itemsSize head
  rw [itemsSize_append, itemsSize_singleton] at size
  rw [RequestMsg.putU32]
  rcases encoding.msg.put_cases wifiAttributeRoamingWhitelistNum (u32Bytes config.numWhitelistSsid)
    with ⟨room, put⟩ | ⟨full, put⟩
  · rw [put]
    rw [before, RequestMsg.grow_used, RequestMsg.grow_capacity] at room
    refine encodes_whitelist ?_ (by omega) harmless
    rw [before, RequestMsg.grow_grow, head]
  · rw [put]
    rw [before, RequestMsg.grow_used, RequestMsg.grow_capacity] at full
    exact encodes_stopped harmless (by omega) noRoom_neg

theorem encodes_blacklist {msg : RequestMsg} {encoding : Encoding}
    (before : encoding.msg = msg.grow [.nestStart nl80211AttrVendorData,
      .attr wifiAttributeRoamingBlacklistNum (u32Bytes config.numBlacklistBssid)])
    (fits : encoding.msg.used ≤ encoding.msg.capacity)
    (harmless : AllInSsid maxSsidLength encoding.accesses) :
    Encodes maxSsidLength config msg
      (match putBlacklist config config.numBlacklistBssid.toNat 0 encoding with
        | (result, encoding) =>
            if result < 0 then (result, encoding)
            else
              match encoding.msg.putU32 wifiAttributeRoamingWhitelistNum
                  config.numWhitelistSsid with
              | (result, msg) =>
                  let encoding := { encoding with msg := msg }
                  if result < 0 then (result, encoding)
                  else
                    match putWhitelist config config.numWhitelistSsid.toNat 0 encoding with
                    | (result, encoding) =>
                        if result < 0 then (result, encoding)
                        else (wifiSuccess, { encoding with msg := encoding.msg.nestEnd })) := by
  have inSsid := (@putBlacklist_inSsid _ config config.numBlacklistBssid.toNat 0
    encoding).mpr harmless
  have added := @puts_blacklist config config.numBlacklistBssid.toNat 0 _ fits
  rw [before] at added
  generalize putBlacklist config config.numBlacklistBssid.toNat 0 encoding = run at inSsid added ⊢
  obtain ⟨result, last⟩ := run
  rcases added.after with ⟨-, succeeded, grown⟩ | ⟨full, failed⟩
  · obtain rfl : result = 0 := succeeded
    exact encodes_whitelistNum grown (List.append_assoc _ _ _).symm inSsid
  · have negative : result < 0 := failed
    have more : itemsSize (headItems config) = _ + _ :=
      (congrArg itemsSize (List.append_assoc _ _ _).symm).trans (itemsSize_append _ _)
    dsimp only
    rw [if_pos negative]
    exact encodes_stopped inSsid (by omega) negative

theorem NlItem.nestStart_le (type nest : UInt16) (payload : Payload) :
    (NlItem.nestStart nest).size ≤ (NlItem.attr type payload).size := by
  simp only [NlItem.size, nlaAlign]
  omega

theorem encodes_putConfig (msg : RequestMsg) :
    Encodes maxSsidLength config msg (putConfig config ⟨msg, []⟩) := by
  have front : headItems config = [.nestStart nl80211AttrVendorData,
      .attr wifiAttributeRoamingBlacklistNum (u32Bytes config.numBlacklistBssid)] ++ _ := rfl
  have size : itemsSize (headItems config) = _ + _ :=
    (congrArg itemsSize front).trans (itemsSize_append _ _)
  rw [itemsSize_cons, itemsSize_singleton] at size
  rw [putConfig]
  rcases msg.nestStart_cases nl80211AttrVendorData with ⟨opened, nest⟩ | ⟨full, nest⟩
  · rw [nest, RequestMsg.putU32]
    rcases (msg.grow [.nestStart nl80211AttrVendorData]).put_cases
      wifiAttributeRoamingBlacklistNum (u32Bytes config.numBlacklistBssid) with
      ⟨room, put⟩ | ⟨full, put⟩
    · rw [put]
      have both := msg.grow_grow [.nestStart nl80211AttrVendorData]
        [.attr wifiAttributeRoamingBlacklistNum (u32Bytes config.numBlacklistBssid)]
      exact encodes_blacklist both room allInSsid_nil
    · rw [put]
      rw [RequestMsg.grow_used, RequestMsg.grow_capacity, itemsSize_singleton] at full
      exact encodes_stopped allInSsid_nil (by omega) noRoom_neg
  · -- without room for a nest there is none for the number either
    rw [nest, RequestMsg.putU32]
    have larger := NlItem.nestStart_le wifiAttributeRoamingBlacklistNum nl80211AttrVendorData
      (u32Bytes config.numBlacklistBssid)
    rcases msg.put_cases wifiAttributeRoamingBlacklistNum (u32Bytes config.numBlacklistBssid) with
      ⟨room, put⟩ | ⟨-, put⟩
    · omega
    · rw [put]
      exact encodes_stopped allInSsid_nil (by omega) noRoom_neg

/-! ## The request -/

theorem puts_vendor (msg : RequestMsg) (request : WifiRequest) :
    Puts (msg.putVendor request.mIface googleOui wifiSubcmdConfigRoaming).1
      (msg.putVendor request.mIface googleOui wifiSubcmdConfigRoaming).2 msg
      (vendorItems request) := by
  rw [RequestMsg.putVendor, vendorItems, RequestMsg.putU32]
  rcases msg.put_cases nl80211AttrVendorId (u32Bytes googleOui) with ⟨-, put⟩ | ⟨full, put⟩
  · rw [put]
    refine Puts.after ?_
    dsimp only
    rw [if_neg (Int.lt_irrefl 0), RequestMsg.putU32]
    rcases (msg.grow [.attr nl80211AttrVendorId (u32Bytes googleOui)]).put_cases
      nl80211AttrVendorSubcmd (u32Bytes wifiSubcmdConfigRoaming) with ⟨room, put⟩ | ⟨full, put⟩
    · rw [put]
      refine Puts.after ?_
      dsimp only
      rw [if_neg (Int.lt_irrefl 0)]
      by_cases bare : request.mIface = -1
      · rw [if_pos bare, if_pos bare]
        exact .inl ⟨room, rfl, (RequestMsg.grow_nil _).symm⟩
      · rw [if_neg bare, if_neg bare]
        exact puts_put _ _ _
    · rw [put]
      exact puts_stopped full noRoom_neg
  · rw [put]
    exact puts_stopped full noRoom_neg

end Encoder

section Request

variable (maxSsidLength : Nat) (request : WifiRequest) (alloc : Option Nat) (config : Config)

/-- What the message holds when the encoder gets to entry `k` of the whitelist. -/
def usedBefore (k : Nat) : Nat :=
  genlHdrlen + itemsSize (vendorItems request ++ (headItems config ++ bufferItems config 0 k))

/-- No SSID that the encoder gets to is too long. -/
def ShortAsReached : Prop :=
  ∀ capacity, alloc = some capacity → ∀ k < config.numWhitelistSsid.toNat,
    usedBefore request config k ≤ capacity →
      (config.whitelistSsid k).length.toNat ≤ maxSsidLength

/-- The encoder stays in its buffers, and what it succeeds with has the whole lists in order,
each SSID as its bytes and a NUL. -/
structure RoamingEncoded : Prop where
  inSsid : AllInSsid maxSsidLength (createRequest request alloc config).2.2
  lists : (createRequest request alloc config).1 = wifiSuccess →
    ∃ msg, (createRequest request alloc config).2.1.mMsg = some msg ∧
      msg.items = vendorItems request ++
        (headItems config ++ ssidItems config config.numWhitelistSsid.toNat) ++ [.nestEnd]

variable {maxSsidLength request alloc config}

theorem createRequest_some (capacity : Nat) :
    createRequest request (some capacity) config =
      match RequestMsg.putVendor ⟨capacity, genlHdrlen, []⟩ request.mIface googleOui
          wifiSubcmdConfigRoaming with
      | (result, msg) =>
          if result < 0 then (result, { request with mMsg := some msg }, [])
          else
            match putConfig config ⟨msg, []⟩ with
            | (result, encoding) =>
                (result, { request with mMsg := some encoding.msg }, encoding.accesses) := rfl

theorem shortAsReached_iff (capacity : Nat) :
    ShortAsReached maxSsidLength request (some capacity) config ↔
      ReachedShort maxSsidLength config
        ((RequestMsg.grow ⟨capacity, genlHdrlen, []⟩ (vendorItems request)).grow
          (headItems config)) 0 config.numWhitelistSsid.toNat := by
  have used (k : Nat) : usedBefore request config k =
      ((RequestMsg.grow ⟨capacity, genlHdrlen, []⟩ (vendorItems request)).grow
        (headItems config)).used + itemsSize (bufferItems config 0 k) := by
    simp only [usedBefore, itemsSize_append, RequestMsg.grow_used, Nat.add_assoc]
  constructor
  · intro short k inList reached
    rw [Nat.zero_add]
    exact short capacity rfl k inList (by rw [used]; exact reached)
  · intro short capacity' given k inList reached
    obtain rfl := Option.some.inj given
    rw [used] at reached
    have bound := short k inList reached
    rw [Nat.zero_add] at bound
    exact bound

/-- What a request that is given a message does, and what it is when it succeeds. -/
theorem createRequest_encodes (capacity : Nat) :
    (AllInSsid maxSsidLength (createRequest request (some capacity) config).2.2 ↔
        ShortAsReached maxSsidLength request (some capacity) config) ∧
      ((createRequest request (some capacity) config).1 = wifiSuccess →
        usedBefore request config config.numWhitelistSsid.toNat ≤ capacity ∧
        ∃ msg, (createRequest request (some capacity) config).2.1.mMsg = some msg ∧
          msg.items = vendorItems request ++ (headItems config ++
            bufferItems config 0 config.numWhitelistSsid.toNat) ++ [.nestEnd]) := by
  have added := puts_vendor ⟨capacity, genlHdrlen, []⟩ request
  rw [shortAsReached_iff, createRequest_some]
  generalize RequestMsg.putVendor ⟨capacity, genlHdrlen, []⟩ request.mIface googleOui
    wifiSubcmdConfigRoaming = run at added ⊢
  obtain ⟨result, msg⟩ := run
  rcases added with ⟨-, succeeded, grown⟩ | ⟨full, failed⟩
  · obtain rfl : result = 0 := succeeded
    obtain rfl : msg = _ := grown
    obtain ⟨inSsid, complete⟩ := @encodes_putConfig maxSsidLength config
      (RequestMsg.grow ⟨capacity, genlHdrlen, []⟩ (vendorItems request))
    refine ⟨inSsid, fun success => ?_⟩
    obtain ⟨last, room⟩ := complete success
    refine ⟨?_, _, congrArg some last, ?_⟩
    · rw [RequestMsg.grow_grow] at room
      exact room
    · rw [RequestMsg.grow_grow]
      rfl
  · have negative : result < 0 := failed
    dsimp only
    rw [if_pos negative]
    constructor
    · refine iff_of_true allInSsid_nil (reachedShort_full ?_ 0 _)
      rw [RequestMsg.grow_used, RequestMsg.grow_used, RequestMsg.grow_capacity,
        RequestMsg.grow_capacity]
      omega
    · intro success
      rw [show result = wifiSuccess from success] at negative
      contradiction

/-- The encoder is right exactly if no SSID that it gets to is too long. -/
theorem roaming_encoded_iff {maxSsidLength : Nat} (small : maxSsidLength + 1 < 2 ^ 32)
    (request : WifiRequest) (alloc : Option Nat) (config : Config) :
    RoamingEncoded maxSsidLength request alloc config ↔
      ShortAsReached maxSsidLength request alloc config := by
  cases alloc with
  | none =>
      have failed : wifiErrorOutOfMemory ≠ wifiSuccess := by decide
      have encoded : RoamingEncoded maxSsidLength request none config :=
        ⟨allInSsid_nil, fun success => absurd success failed⟩
      exact iff_of_true encoded fun capacity given => nomatch given
  | some capacity =>
      obtain ⟨inSsid, complete⟩ := @createRequest_encodes maxSsidLength request config capacity
      constructor
      · intro encoded
        exact inSsid.mp encoded.inSsid
      · intro short
        refine ⟨inSsid.mpr short, fun success => ?_⟩
        obtain ⟨room, msg, made, items⟩ := complete success
        refine ⟨msg, made, ?_⟩
        -- all entries were got to, so all of them are short
        rw [items, bufferItems_eq]
        intro k inList
        have reached : usedBefore request config k ≤ capacity := by
          have fewer := bufferItems_mono config 0 (Nat.le_of_lt inList)
          simp only [usedBefore, itemsSize_append] at room ⊢
          omega
        have bound := short capacity rfl k inList reached
        omega

def onInterface : WifiRequest := ⟨0, 3, none⟩

/-- Two BSSIDs to avoid, and SSIDs of one, two and thirty-two bytes. -/
def officeLists : Config :=
  ⟨2, fun i => List.replicate 6 (UInt8.ofNat i),
    3, fun i => ⟨[1, 2].getD i 32, fun byte => UInt8.ofNat (97 + i + byte)⟩⟩

theorem officeLists_short :
    ∀ k < officeLists.numWhitelistSsid.toNat, (officeLists.whitelistSsid k).length.toNat ≤ 32 := by
  decide

theorem officeLists_encoded :
    RoamingEncoded 32 onInterface (some 4096) officeLists ∧
      (createRequest onInterface (some 4096) officeLists).1 = wifiSuccess :=
  ⟨(roaming_encoded_iff (by decide) onInterface (some 4096) officeLists).mpr
      fun _ _ k listed _ => officeLists_short k listed,
    by decide +kernel⟩

/-- A configuration with a single SSID, of this length. -/
def oneSsid (length : UInt32) : Config :=
  ⟨0, fun _ => [], 1, fun _ => ⟨length, fun _ => 97⟩⟩

/-- An SSID of 33 bytes passes the checks and is copied over the end of the local buffer. -/
theorem roaming_overruns :
    ¬ ∀ cached config, checkConfig cached (some config) = .ok config →
      ∀ request alloc, RoamingEncoded 32 request alloc config := by
  intro all
  have encoded := all ⟨16, 8⟩ (oneSsid 33) rfl onInterface (some 4096)
  have copied := encoded.inSsid (.copySsid 33) (by decide)
  exact absurd copied.1 (by decide)

end Request

end Roaming

end Mt6757.WifiHal
