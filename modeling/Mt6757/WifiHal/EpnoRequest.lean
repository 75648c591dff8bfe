import Mathlib.Data.List.TakeWhile
import Mt6757.WifiHal.VendorRequests

/-!
# Preferred network requests

The list of networks is limited by the parameters' array and by the message.  The limit of
the message is the smaller one; a list within both is sent, and can be read back.
-/

set_option autoImplicit false

namespace Mt6757.WifiHal

open NlMessage

def dot11MaxSsidLen : Nat := 32

def gscanAttributeEpnoSsidList : Nat := 70
def gscanAttributeEpnoSsid : Nat := 71
def gscanAttributeEpnoSsidLen : Nat := 72
def gscanAttributeEpnoFlags : Nat := 74
def gscanAttributeEpnoAuth : Nat := 75
def gscanAttributeEpnoSsidNum : Nat := 76
def gscanAttributeEpno5gRssiThr : Nat := 130
def gscanAttributeEpno2gRssiThr : Nat := 131
def gscanAttributeEpnoInitScoreMax : Nat := 132
def gscanAttributeEpnoCurConnBonus : Nat := 133
def gscanAttributeEpnoSameNetworkBonus : Nat := 134
def gscanAttributeEpnoSecureBonus : Nat := 135
def gscanAttributeEpno5gBonus : Nat := 136

/-- `wifi_epno_network`, whose `ssid` has room for a NUL behind 32 bytes. -/
structure EpnoNetwork where
  ssid : List UInt8
  flags : UInt8
  authBitField : UInt8
  whole : ssid.length = dot11MaxSsidLen + 1
  terminated : 0 ∈ ssid

/-- `strlen` of the array. -/
def EpnoNetwork.strlen (network : EpnoNetwork) : Nat :=
  (network.ssid.takeWhile (· != 0)).length

structure EpnoParams where
  min5GHzRssi : Int32
  min24GHzRssi : Int32
  initialScoreMax : Int32
  currentConnectionBonus : Int32
  sameNetworkBonus : Int32
  secureBonus : Int32
  band5GHzBonus : Int32
  numNetworks : Int32
  networks : Nat → EpnoNetwork

/-! ## The request -/

namespace EPNOCommand

def putNetwork (lib : NlLib) (i : Nat) (network : EpnoNetwork) : Builder Int := do
  let attr2 ← lib.nestStart i
  if attr2 = none then exit wifiErrorOutOfMemory
  else do
    let result ← (do
      let _ ← orReturn (lib.put gscanAttributeEpnoSsid (network.ssid.take dot11MaxSsidLen))
      let _ ← putU32 lib gscanAttributeEpnoSsidLen (.ofNat network.strlen)
      let _ ← putU32 lib gscanAttributeEpnoFlags network.flags.toUInt32
      putU32 lib gscanAttributeEpnoAuth network.authBitField.toUInt32)
    lib.nestEnd attr2
    pure result

def createSetupRequest (maxEpnoNetworks : Int32) (env : RequestEnv) (params : EpnoParams) :
    Builder Int :=
  if params.numNetworks > maxEpnoNetworks then exit wifiErrorInvalidArgs
  else do
    let _ ← createVendor env googleOui gscanSubcmdSetEpnoSsid
    let data ← env.lib.nestStart nl80211AttrVendorData.toNat
    let result ← (do
      let _ ← putU8 env.lib gscanAttributeEpnoFlush 1
      let _ ← putU8 env.lib gscanAttributeEpno5gRssiThr params.min5GHzRssi.toUInt32
      let _ ← putU8 env.lib gscanAttributeEpno2gRssiThr params.min24GHzRssi.toUInt32
      let _ ← putU16 env.lib gscanAttributeEpnoInitScoreMax params.initialScoreMax.toUInt32
      let _ ← putU16 env.lib gscanAttributeEpnoCurConnBonus params.currentConnectionBonus.toUInt32
      let _ ← putU16 env.lib gscanAttributeEpnoSameNetworkBonus params.sameNetworkBonus.toUInt32
      let _ ← putU16 env.lib gscanAttributeEpnoSecureBonus params.secureBonus.toUInt32
      let _ ← putU16 env.lib gscanAttributeEpno5gBonus params.band5GHzBonus.toUInt32
      let result ← putU8 env.lib gscanAttributeEpnoSsidNum params.numNetworks.toUInt32
      let attr ← env.lib.nestStart gscanAttributeEpnoSsidList
      let result ← loop (fun i _ => putNetwork env.lib i (params.networks i))
        params.numNetworks.toNatClampNeg 0 result
      env.lib.nestEnd attr
      pure result)
    env.lib.nestEnd data
    pure result

end EPNOCommand

/-! ## The attributes that are written -/

def networkAttrs (network : EpnoNetwork) : List Attr :=
  [(gscanAttributeEpnoSsid, network.ssid.take dot11MaxSsidLen),
    u32Attr gscanAttributeEpnoSsidLen (.ofNat network.strlen),
    u32Attr gscanAttributeEpnoFlags network.flags.toUInt32,
    u32Attr gscanAttributeEpnoAuth network.authBitField.toUInt32]

def epnoElements (params : EpnoParams) : List Attr :=
  numberedNests params.numNetworks.toNatClampNeg fun i => networkAttrs (params.networks i)

def epnoHead (params : EpnoParams) : List Attr :=
  [u8Attr gscanAttributeEpnoFlush 1,
    u8Attr gscanAttributeEpno5gRssiThr params.min5GHzRssi.toUInt32,
    u8Attr gscanAttributeEpno2gRssiThr params.min24GHzRssi.toUInt32,
    u16Attr gscanAttributeEpnoInitScoreMax params.initialScoreMax.toUInt32,
    u16Attr gscanAttributeEpnoCurConnBonus params.currentConnectionBonus.toUInt32,
    u16Attr gscanAttributeEpnoSameNetworkBonus params.sameNetworkBonus.toUInt32,
    u16Attr gscanAttributeEpnoSecureBonus params.secureBonus.toUInt32,
    u16Attr gscanAttributeEpno5gBonus params.band5GHzBonus.toUInt32,
    u8Attr gscanAttributeEpnoSsidNum params.numNetworks.toUInt32]

def epnoAttrs (lib : NlLib) (params : EpnoParams) : List Attr :=
  epnoHead params ++ lib.nested gscanAttributeEpnoSsidList (epnoElements params)

theorem networkAttrs_length (network : EpnoNetwork) :
    (attrsBytes (networkAttrs network)).length = 60 := by
  have ssid : (network.ssid.take dot11MaxSsidLen).length = 32 := by
    rw [List.length_take, network.whole, dot11MaxSsidLen]
    rfl
  simp [networkAttrs, attrsBytes_cons, attrBytes_length, u32Attr, ssid, Netlink.align,
    Netlink.hdrlen]

theorem numberedNests_length (count size : Nat) (attrsOf : Nat → List Attr) (aligned : size % 4 = 0)
    (sizes : ∀ i, (attrsBytes (attrsOf i)).length = size) :
    (attrsBytes (numberedNests count attrsOf)).length = (Netlink.hdrlen + size) * count := by
  induction count with
  | zero => rfl
  | succ count ih =>
      have more : Netlink.align size = size := by
        rw [Netlink.align]
        omega
      have last : (attrsBytes [(count, attrsBytes (attrsOf count))]).length =
          Netlink.hdrlen + size := by
        rw [attrsBytes_cons, attrsBytes_nil, List.append_nil, attrBytes_length, sizes, more]
      rw [numberedNests] at ih ⊢
      rw [List.range_succ, List.map_append, attrsBytes_append, List.length_append, ih,
        List.map_singleton, last, Nat.mul_succ]

theorem epnoElements_length (params : EpnoParams) :
    (attrsBytes (epnoElements params)).length = 64 * params.numNetworks.toNatClampNeg :=
  numberedNests_length _ 60 _ rfl fun _ => networkAttrs_length _

theorem epnoHead_length (params : EpnoParams) : (attrsBytes (epnoHead params)).length = 72 := by
  simp [epnoHead, attrsBytes_cons, attrBytes_length, u8Attr, u16Attr, Netlink.align,
    Netlink.hdrlen]

section Emits

variable {env : RequestEnv} {lib : NlLib} {limit : Nat}

theorem networkAttrs_ne_nil (network : EpnoNetwork) : networkAttrs network ≠ [] :=
  List.cons_ne_nil _ _

theorem emits_putNetwork (i : Nat) (network : EpnoNetwork) :
    lib.Emits limit (EPNOCommand.putNetwork lib i network)
      [(i, attrsBytes (networkAttrs network))] := by
  rw [← lib.nested_of_ne _ (networkAttrs_ne_nil network)]
  apply NlLib.emits_checked_nest i (by decide)
  exact (NlLib.emits_put _ _).bind ((emits_putU32 _ _).bind ((emits_putU32 _ _).bind
    (emits_putU32 _ _)))

theorem completes_putNetwork (i : Nat) (network : EpnoNetwork) :
    lib.Completes (EPNOCommand.putNetwork lib i network)
      [(i, attrsBytes (networkAttrs network))] := by
  apply NlLib.completes_checked_nest i wifiErrorOutOfMemory (networkAttrs_ne_nil network)
  exact (NlLib.completes_checked_put _ _).bind ((NlLib.completes_checked_put _ _).bind
    ((NlLib.completes_checked_put _ _).bind (NlLib.completes_checked_put _ _)))

/-- From a message that is not too full the run returns a negative code early, or adds
attributes; both ways out are open. -/
theorem emits_epno {maxEpnoNetworks : Int32} {params : EpnoParams}
    (few : ¬ params.numNetworks > maxEpnoNetworks) :
    env.lib.Emits 0 (EPNOCommand.createSetupRequest maxEpnoNetworks env params)
      (createAttrs env googleOui gscanSubcmdSetEpnoSsid ++
        env.lib.nested nl80211AttrVendorData.toNat (epnoAttrs env.lib params)) := by
  rw [EPNOCommand.createSetupRequest, if_neg few]
  apply emits_request id rfl
  refine (emits_putU8 _ _).bind ((emits_putU8 _ _).bind ((emits_putU8 _ _).bind
    ((emits_putU16 _ _).bind ((emits_putU16 _ _).bind ((emits_putU16 _ _).bind
      ((emits_putU16 _ _).bind ((emits_putU16 _ _).bind ((emits_putU8 _ _).bind ?_))))))))
  refine NlLib.emits_nest _ id rfl (.inl ?_) ?_
  · simp [attrsBytes_cons, attrBytes_length, u8Attr, u16Attr, Netlink.align, Netlink.hdrlen,
      env.room_eq]
  · exact NlLib.emits_loop_one _ fun i _ => emits_putNetwork _ _

/-- A number of at most four bytes has room after up to 100 bytes. -/
theorem runsWithin_putWord {width : Nat} (narrow : width ≤ 4) (short : limit ≤ 100) (type : Nat)
    (value : UInt32) :
    NlLib.RunsWithin limit (putWord env.lib width type value)
      [(type, leBytes width value.toNat)] := by
  apply NlLib.runsWithin_put
  rw [attrBytes_length, leBytes_length, env.room_eq, Netlink.align, Netlink.hdrlen]
  omega

theorem u8Attr_length (type : Nat) (value : UInt32) :
    (attrsBytes [u8Attr type value]).length = 8 := by
  simp [u8Attr, attrsBytes_cons, attrBytes_length, Netlink.align, Netlink.hdrlen]

theorem u16Attr_length (type : Nat) (value : UInt32) :
    (attrsBytes [u16Attr type value]).length = 8 := by
  simp [u16Attr, attrsBytes_cons, attrBytes_length, Netlink.align, Netlink.hdrlen]

theorem u32Attr_length (type : Nat) (value : UInt32) :
    (attrsBytes [u32Attr type value]).length = 8 := by
  simp [u32Attr, attrsBytes_cons, attrBytes_length, Netlink.align, Netlink.hdrlen]

theorem epno_run {maxEpnoNetworks : Int32} {params : EpnoParams} (got : env.allocated = true)
    (few : ¬ params.numNetworks > maxEpnoNetworks)
    (fits : params.numNetworks.toNatClampNeg ≤ 62) :
    NlLib.RunsWithin 0 (EPNOCommand.createSetupRequest maxEpnoNetworks env params)
      (createAttrs env googleOui gscanSubcmdSetEpnoSsid ++
        env.lib.nested nl80211AttrVendorData.toNat (epnoAttrs env.lib params)) := by
  have elementsLength := epnoElements_length params
  have put8 : ∀ {limit}, limit ≤ 100 → ∀ type value,
      NlLib.RunsWithin limit (putU8 env.lib type value) [u8Attr type value] :=
    fun short => runsWithin_putWord (by decide) short
  have put16 : ∀ {limit}, limit ≤ 100 → ∀ type value,
      NlLib.RunsWithin limit (putU16 env.lib type value) [u16Attr type value] :=
    fun short => runsWithin_putWord (by decide) short
  have list := env.lib.nested_length_le gscanAttributeEpnoSsidList (epnoElements params)
  have room : (attrsBytes (epnoAttrs env.lib params)).length ≤ 4048 := by
    rw [epnoAttrs, attrsBytes_append, List.length_append, epnoHead_length]
    simp only [Netlink.hdrlen] at list
    omega
  rw [EPNOCommand.createSetupRequest, if_neg few]
  apply VendorRequest.vendor_run id rfl got room
  apply (put8 (by decide) _ _).bind
  apply (put8 ?_ _ _).bind
  apply (put8 ?_ _ _).bind
  apply (put16 ?_ _ _).bind
  apply (put16 ?_ _ _).bind
  apply (put16 ?_ _ _).bind
  apply (put16 ?_ _ _).bind
  apply (put16 ?_ _ _).bind
  apply (put8 ?_ _ _).bind
  apply NlLib.runsWithin_nest _ id rfl
  case body =>
    apply NlLib.Completes.runsWithin
    · exact NlLib.completes_loop_one _ fun i _ => completes_putNetwork i (params.networks i)
    · simp only [u8Attr_length, u16Attr_length, env.room_eq, Netlink.hdrlen]
      omega
  all_goals
    simp only [u8Attr_length, u16Attr_length, env.room_eq, Netlink.hdrlen]
    omega

end Emits

/-! ## What a driver reads -/

structure EpnoNetworkContent where
  name : List UInt8
  flags : UInt8
  authBitField : UInt8
  deriving DecidableEq

/-- The parameters in the width of their attributes, and the networks by name. -/
structure EpnoContent where
  min5GHzRssi : Int8
  min24GHzRssi : Int8
  initialScoreMax : UInt16
  currentConnectionBonus : UInt16
  sameNetworkBonus : UInt16
  secureBonus : UInt16
  band5GHzBonus : UInt16
  numNetworks : UInt8
  networks : List EpnoNetworkContent
  deriving DecidableEq

def EpnoNetwork.content (network : EpnoNetwork) : EpnoNetworkContent where
  name := network.ssid.takeWhile (· != 0)
  flags := network.flags
  authBitField := network.authBitField

def EpnoParams.content (params : EpnoParams) : EpnoContent where
  min5GHzRssi := params.min5GHzRssi.toUInt32.toUInt8.toInt8
  min24GHzRssi := params.min24GHzRssi.toUInt32.toUInt8.toInt8
  initialScoreMax := params.initialScoreMax.toUInt32.toUInt16
  currentConnectionBonus := params.currentConnectionBonus.toUInt32.toUInt16
  sameNetworkBonus := params.sameNetworkBonus.toUInt32.toUInt16
  secureBonus := params.secureBonus.toUInt32.toUInt16
  band5GHzBonus := params.band5GHzBonus.toUInt32.toUInt16
  numNetworks := params.numNetworks.toUInt32.toUInt8
  networks := (List.range params.numNetworks.toNatClampNeg).map fun i =>
    (params.networks i).content

def readU8 (attrs : List Attr) (type : Nat) : Option UInt8 :=
  (wordOf 1 attrs type).map UInt32.toUInt8

def readU16 (attrs : List Attr) (type : Nat) : Option UInt16 :=
  (wordOf 2 attrs type).map UInt32.toUInt16

def readEpnoNetwork (payload : List UInt8) : Option EpnoNetworkContent := do
  let attrs := walk payload
  let ssid ← payloadOf attrs gscanAttributeEpnoSsid
  let ssidLen ← wordOf 4 attrs gscanAttributeEpnoSsidLen
  let flags ← wordOf 4 attrs gscanAttributeEpnoFlags
  let authBitField ← wordOf 4 attrs gscanAttributeEpnoAuth
  some
    { name := ssid.take ssidLen.toNat
      flags := flags.toUInt8
      authBitField := authBitField.toUInt8 }

def readEpno (payload : List UInt8) : Option EpnoContent := do
  let attrs := walk payload
  let min5GHzRssi ← readU8 attrs gscanAttributeEpno5gRssiThr
  let min24GHzRssi ← readU8 attrs gscanAttributeEpno2gRssiThr
  let initialScoreMax ← readU16 attrs gscanAttributeEpnoInitScoreMax
  let currentConnectionBonus ← readU16 attrs gscanAttributeEpnoCurConnBonus
  let sameNetworkBonus ← readU16 attrs gscanAttributeEpnoSameNetworkBonus
  let secureBonus ← readU16 attrs gscanAttributeEpnoSecureBonus
  let band5GHzBonus ← readU16 attrs gscanAttributeEpno5gBonus
  let numNetworks ← readU8 attrs gscanAttributeEpnoSsidNum
  let payloads ← indexed (walk ((payloadOf attrs gscanAttributeEpnoSsidList).getD []))
  let networks ← payloads.mapM readEpnoNetwork
  some
    { min5GHzRssi := min5GHzRssi.toInt8
      min24GHzRssi := min24GHzRssi.toInt8
      initialScoreMax, currentConnectionBonus, sameNetworkBonus, secureBonus, band5GHzBonus
      numNetworks, networks }

section Read

variable {lib : NlLib}

theorem word_leBytes_mod (width n : Nat) :
    word width (leBytes width n) = some (.ofNat (n % 256 ^ width)) := by
  rw [word, if_pos (leBytes_length width n), leValue_leBytes]

theorem readU8_back {attrs : List Attr} {type : Nat} {value : UInt32}
    (here : payloadOf attrs type = some (leBytes 1 value.toNat)) :
    readU8 attrs type = some value.toUInt8 := by
  have low : (UInt32.ofNat (value.toNat % 256 ^ 1)).toUInt8 = value.toUInt8 := by
    apply UInt8.toNat_inj.mp
    rw [UInt32.toNat_toUInt8, UInt32.toNat_toUInt8, UInt32.toNat_ofNat']
    omega
  rw [readU8, wordOf, here, Option.bind_some, word_leBytes_mod, Option.map_some, low]

theorem readU16_back {attrs : List Attr} {type : Nat} {value : UInt32}
    (here : payloadOf attrs type = some (leBytes 2 value.toNat)) :
    readU16 attrs type = some value.toUInt16 := by
  have low : (UInt32.ofNat (value.toNat % 256 ^ 2)).toUInt16 = value.toUInt16 := by
    apply UInt16.toNat_inj.mp
    rw [UInt32.toNat_toUInt16, UInt32.toNat_toUInt16, UInt32.toNat_ofNat']
    omega
  rw [readU16, wordOf, here, Option.bind_some, word_leBytes_mod, Option.map_some, low]

/-- The string ends before the last byte of the array. -/
theorem EpnoNetwork.strlen_le (network : EpnoNetwork) : network.strlen ≤ dot11MaxSsidLen := by
  have before : (network.ssid.takeWhile (· != 0)) <+: network.ssid := List.takeWhile_prefix _
  have bound := before.length_le
  rw [network.whole] at bound
  by_contra long
  have same : network.ssid.takeWhile (· != 0) = network.ssid := by
    apply before.eq_of_length
    rw [network.whole]
    rw [EpnoNetwork.strlen] at long
    omega
  have here := network.terminated
  rw [← same] at here
  have nonzero := List.mem_takeWhile_imp here
  simp at nonzero

theorem EpnoNetwork.name_eq (network : EpnoNetwork) :
    (network.ssid.take dot11MaxSsidLen).take network.strlen =
      network.ssid.takeWhile (· != 0) := by
  have before : (network.ssid.takeWhile (· != 0)) <+: network.ssid := List.takeWhile_prefix _
  rw [List.take_take, Nat.min_eq_left network.strlen_le]
  exact (List.prefix_iff_eq_take.mp before).symm

theorem readEpnoNetwork_back (network : EpnoNetwork) :
    readEpnoNetwork (attrsBytes (networkAttrs network)) = some network.content := by
  have short : (attrsBytes (networkAttrs network)).length < 65536 := by
    rw [networkAttrs_length]
    decide
  have walked := walk_attrsBytes (types_small (rfl : (networkAttrs network).all _ = true)) short
  have ssid : payloadOf (networkAttrs network) gscanAttributeEpnoSsid =
      some (network.ssid.take dot11MaxSsidLen) := rfl
  have ssidLen : wordOf 4 (networkAttrs network) gscanAttributeEpnoSsidLen =
      some (.ofNat network.strlen) := word_leBytes_four _
  have flags : wordOf 4 (networkAttrs network) gscanAttributeEpnoFlags =
      some network.flags.toUInt32 := word_leBytes_four _
  have auth : wordOf 4 (networkAttrs network) gscanAttributeEpnoAuth =
      some network.authBitField.toUInt32 := word_leBytes_four _
  have length : (UInt32.ofNat network.strlen).toNat = network.strlen := by
    have bound := network.strlen_le
    rw [dot11MaxSsidLen] at bound
    rw [UInt32.toNat_ofNat']
    omega
  simp only [readEpnoNetwork, walked, ssid, ssidLen, flags, auth, Option.bind_eq_bind,
    Option.bind_some, length, network.name_eq]
  simp [EpnoNetwork.content]

theorem readEpno_back (params : EpnoParams)
    (short : (attrsBytes (epnoAttrs lib params)).length < 65536) :
    readEpno (attrsBytes (epnoAttrs lib params)) = some params.content := by
  have walked : walk (attrsBytes (epnoAttrs lib params)) = epnoAttrs lib params :=
    nested_walk (by decide) (types_small rfl) short
  have elements : walk (attrsBytes (epnoElements params)) = epnoElements params :=
    @walk_numbered [] (by simp) _ _ (nested_short short)
  have inside : (payloadOf (epnoAttrs lib params) gscanAttributeEpnoSsidList).getD [] =
      attrsBytes (epnoElements params) := lib.payloadOf_nested _ rfl
  have listed : indexed (epnoElements params) =
      some ((List.range params.numNetworks.toNatClampNeg).map fun i =>
        attrsBytes (networkAttrs (params.networks i))) := indexed_map _ _
  have networks : ((List.range params.numNetworks.toNatClampNeg).map fun i =>
      attrsBytes (networkAttrs (params.networks i))).mapM readEpnoNetwork =
        some ((List.range params.numNetworks.toNatClampNeg).map fun i =>
          (params.networks i).content) := mapM_map fun i _ => readEpnoNetwork_back _
  have rssi5 : readU8 (epnoAttrs lib params) gscanAttributeEpno5gRssiThr =
      some params.min5GHzRssi.toUInt32.toUInt8 := readU8_back rfl
  have rssi24 : readU8 (epnoAttrs lib params) gscanAttributeEpno2gRssiThr =
      some params.min24GHzRssi.toUInt32.toUInt8 := readU8_back rfl
  have score : readU16 (epnoAttrs lib params) gscanAttributeEpnoInitScoreMax =
      some params.initialScoreMax.toUInt32.toUInt16 := readU16_back rfl
  have current : readU16 (epnoAttrs lib params) gscanAttributeEpnoCurConnBonus =
      some params.currentConnectionBonus.toUInt32.toUInt16 := readU16_back rfl
  have same : readU16 (epnoAttrs lib params) gscanAttributeEpnoSameNetworkBonus =
      some params.sameNetworkBonus.toUInt32.toUInt16 := readU16_back rfl
  have secure : readU16 (epnoAttrs lib params) gscanAttributeEpnoSecureBonus =
      some params.secureBonus.toUInt32.toUInt16 := readU16_back rfl
  have band : readU16 (epnoAttrs lib params) gscanAttributeEpno5gBonus =
      some params.band5GHzBonus.toUInt32.toUInt16 := readU16_back rfl
  have number : readU8 (epnoAttrs lib params) gscanAttributeEpnoSsidNum =
      some params.numNetworks.toUInt32.toUInt8 := readU8_back rfl
  simp only [readEpno, walked, rssi5, rssi24, score, current, same, secure, band, number, inside,
    elements, listed, networks, Option.bind_eq_bind, Option.bind_some]
  simp [EpnoParams.content]

end Read

/-! ## What becomes of a list -/

/-- A message and the parameters' array have room for the list. -/
def EpnoParams.Fits (maxEpnoNetworks : Int32) (params : EpnoParams) : Prop :=
  params.numNetworks ≤ maxEpnoNetworks ∧ params.numNetworks ≤ 62

instance (maxEpnoNetworks : Int32) (params : EpnoParams) :
    Decidable (params.Fits maxEpnoNetworks) := inferInstanceAs (Decidable (_ ∧ _))

theorem epnoMessage_length (env : RequestEnv) (params : EpnoParams) :
    64 * params.numNetworks.toNatClampNeg + 92 ≤
        (attrsBytes (createAttrs env googleOui gscanSubcmdSetEpnoSsid ++
          env.lib.nested nl80211AttrVendorData.toNat (epnoAttrs env.lib params))).length := by
  have created : 16 ≤ (attrsBytes (createAttrs env googleOui gscanSubcmdSetEpnoSsid)).length := by
    rw [createAttrs, attrsBytes_append, List.length_append]
    exact le_trans (by simp [attrsBytes_cons, attrBytes_length, u32Attr, Netlink.align,
      Netlink.hdrlen]) (Nat.le_add_right _ _)
  have some_inside : epnoAttrs env.lib params ≠ [] := List.cons_ne_nil _ _
  have inside := attr_length_le
    (List.mem_singleton_self (nl80211AttrVendorData.toNat, attrsBytes (epnoAttrs env.lib params)))
  have list := env.lib.nested_length gscanAttributeEpnoSsidList (epnoElements params)
  have body : (attrsBytes (epnoAttrs env.lib params)).length =
      72 + (attrsBytes (env.lib.nested gscanAttributeEpnoSsidList (epnoElements params))).length := by
    rw [epnoAttrs, attrsBytes_append, List.length_append, epnoHead_length]
  rw [epnoElements_length] at list
  rw [env.lib.nested_of_ne _ some_inside, attrsBytes_append, List.length_append]
  simp only [Netlink.hdrlen] at inside
  omega

/-- A list within both limits is sent whenever there is a message, and a driver reads from
it what was passed in, as many networks as are announced; any other list is refused with a
negative code. -/
theorem epnoSetup_reads_back (maxEpnoNetworks : Int32) (env : RequestEnv) (params : EpnoParams) :
    if env.allocated = true ∧ params.Fits maxEpnoNetworks then
      ∃ msg vendor, EPNOCommand.createSetupRequest maxEpnoNetworks env params [] = .ok 0 msg ∧
        genlHdrlen + msg.length ≤ messageCapacity ∧ vendorData msg = some vendor ∧
        readEpno vendor = some params.content ∧
        (0 ≤ params.numNetworks →
          params.content.numNetworks.toNat = params.content.networks.length)
    else
      ∃ code, code < 0 ∧
        EPNOCommand.createSetupRequest maxEpnoNetworks env params [] = .returned code := by
  have bound : params.numNetworks.toNatClampNeg ≤ 62 ↔ params.numNetworks ≤ 62 :=
    toNatClampNeg_le_iff (by decide)
  have length := epnoMessage_length env params
  split
  next sent =>
    obtain ⟨got, few, fits⟩ := sent
    have few : ¬ params.numNetworks > maxEpnoNetworks := Int32.not_lt.mpr few
    have ran := epno_run got few (bound.mpr fits) [] (Nat.zero_le 0)
    rw [List.nil_append] at ran
    rcases emits_epno few [] (Nat.zero_le 0) (Nat.zero_le _) with ⟨code, _, returned⟩ | ⟨room, _⟩
    · rw [ran] at returned
      cases returned
    · rw [List.nil_append, env.room_eq] at room
      have some_inside : epnoAttrs env.lib params ≠ [] := List.cons_ne_nil _ _
      have inside := env.lib.nested_length nl80211AttrVendorData.toNat (epnoAttrs env.lib params)
      have whole := room
      rw [attrsBytes_append, List.length_append] at whole
      refine ⟨_, _, ran, ?_, vendorData_back some_inside (by omega), readEpno_back params (by omega),
        fun natural => ?_⟩
      · simp only [genlHdrlen, messageCapacity]
        omega
      · have small := bound.mpr fits
        rw [EpnoParams.content, UInt32.toNat_toUInt8, toNat_toUInt32 natural, List.length_map,
          List.length_range]
        omega
  next refused =>
    by_cases few : params.numNetworks > maxEpnoNetworks
    · refine ⟨wifiErrorInvalidArgs, by decide, ?_⟩
      rw [EPNOCommand.createSetupRequest, if_pos few]
      rfl
    · rcases emits_epno few [] (Nat.zero_le 0) (Nat.zero_le _) with returned | ⟨room, ran⟩
      · exact returned
      · rw [List.nil_append, env.room_eq] at room
        cases got : env.allocated with
        | true =>
            have fits : params.numNetworks ≤ 62 := bound.mp (by omega)
            exact absurd ⟨got, Int32.not_lt.mp few, fits⟩ refused
        | false =>
            refine ⟨wifiErrorOutOfMemory, by decide, ?_⟩
            have missing : createVendor env googleOui gscanSubcmdSetEpnoSsid [] =
                .returned wifiErrorOutOfMemory := by
              rw [createVendor, if_neg (by simp [got])]
              rfl
            rw [EPNOCommand.createSetupRequest, if_neg few]
            exact bind_returned missing

end Mt6757.WifiHal
