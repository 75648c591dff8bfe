import Mt6757.WifiHal.EpnoRequest

/-!
# Passpoint requests

One builder serves the start of a passpoint subscription and its cancel.  The size of the
list goes in front of the vendor data, and the argument that tells a cancel from a start is
not looked at.
-/

set_option autoImplicit false

namespace Mt6757.WifiHal

open NlMessage

def gscanSubcmdAnqpoConfig : UInt32 := 0x1015

def gscanAttributeAnqpoHsList : Nat := 110
def gscanAttributeAnqpoHsListSize : Nat := 111
def gscanAttributeAnqpoHsNetworkId : Nat := 112
def gscanAttributeAnqpoHsNaiRealm : Nat := 113
def gscanAttributeAnqpoHsRoamConsortiumId : Nat := 114
def gscanAttributeAnqpoHsPlmn : Nat := 115

/-- `wifi_passpoint_network`, its arrays as they lie in memory. -/
structure PasspointNetwork where
  id : Int32
  realm : List UInt8
  roamingConsortiumIds : List UInt8
  plmn : List UInt8
  realmWhole : realm.length = 256
  idsWhole : roamingConsortiumIds.length = 128
  plmnWhole : plmn.length = 3
  deriving DecidableEq

/-! ## The request -/

/-- `WifiRequest::create(uint32_t, int)` on a message that was allocated: a failed `put`
ends it. -/
def putVendorHeader (env : RequestEnv) (id subcmd : UInt32) : Builder Int := do
  let result ← env.lib.put nl80211AttrVendorId.toNat (leBytes 4 id.toNat)
  if result < 0 then pure result
  else do
    let result ← env.lib.put nl80211AttrVendorSubcmd.toNat (leBytes 4 subcmd.toNat)
    if result < 0 then pure result
    else if env.iface ≠ -1 then
      env.lib.put nl80211AttrIfindex.toNat (leBytes 4 env.iface.toUInt32.toNat)
    else pure result

/-- A `put` into a message that was not allocated: as with a nest that was not opened, the
pointer is null. -/
def nullMessage {α : Type} : Builder α := fun _ => .nullNest

namespace AnqpoConfigureCommand

def putNetwork (lib : NlLib) (i : Nat) (network : PasspointNetwork) : Builder Int := do
  let attr2 ← lib.nestStart i
  if attr2 = none then exit wifiErrorOutOfMemory
  else do
    let result ← (do
      let _ ← putU32 lib gscanAttributeAnqpoHsNetworkId network.id.toUInt32
      let _ ← orReturn (lib.put gscanAttributeAnqpoHsNaiRealm network.realm)
      let _ ← orReturn
        (lib.put gscanAttributeAnqpoHsRoamConsortiumId network.roamingConsortiumIds)
      orReturn (lib.put gscanAttributeAnqpoHsPlmn network.plmn))
    lib.nestEnd attr2
    pure result

/-- The part of `createRequest` behind `create`, whose result is replaced. -/
def putHotspots (lib : NlLib) (numHs : Int32) (networks : Nat → PasspointNetwork) :
    Builder Int := do
  let result ← putU32 lib gscanAttributeAnqpoHsListSize numHs.toUInt32
  let data ← lib.nestStart nl80211AttrVendorData.toNat
  let _result ← (do
    let attr ← lib.nestStart gscanAttributeAnqpoHsList
    let result ← loop (fun i _ => putNetwork lib i (networks i)) numHs.toNatClampNeg 0 result
    lib.nestEnd attr
    pure result)
  lib.nestEnd data
  pure wifiSuccess

def createRequest (env : RequestEnv) (numHs : Int32) (networks : Nat → PasspointNetwork)
    (_val : Int32) : Builder Int :=
  if env.allocated then do
    let _ ← putVendorHeader env googleOui gscanSubcmdAnqpoConfig
    putHotspots env.lib numHs networks
  else nullMessage

/-- The request of `start`. -/
def startRequest (env : RequestEnv) (numHs : Int32) (networks : Nat → PasspointNetwork) :
    Builder Int := createRequest env numHs networks numHs

/-- The request of `cancel`. -/
def cancelRequest (env : RequestEnv) (numHs : Int32) (networks : Nat → PasspointNetwork) :
    Builder Int := createRequest env numHs networks 0

end AnqpoConfigureCommand

/-! ## The attributes that are written -/

def passpointNetworkAttrs (network : PasspointNetwork) : List Attr :=
  [u32Attr gscanAttributeAnqpoHsNetworkId network.id.toUInt32,
    (gscanAttributeAnqpoHsNaiRealm, network.realm),
    (gscanAttributeAnqpoHsRoamConsortiumId, network.roamingConsortiumIds),
    (gscanAttributeAnqpoHsPlmn, network.plmn)]

def passpointElements (numHs : Int32) (networks : Nat → PasspointNetwork) : List Attr :=
  numberedNests numHs.toNatClampNeg fun i => passpointNetworkAttrs (networks i)

def passpointHead (env : RequestEnv) (numHs : Int32) : List Attr :=
  createAttrs env googleOui gscanSubcmdAnqpoConfig ++
    [u32Attr gscanAttributeAnqpoHsListSize numHs.toUInt32]

def passpointAttrs (env : RequestEnv) (numHs : Int32) (networks : Nat → PasspointNetwork) :
    List Attr :=
  passpointHead env numHs ++ env.lib.nested nl80211AttrVendorData.toNat
    (env.lib.nested gscanAttributeAnqpoHsList (passpointElements numHs networks))

theorem passpointNetworkAttrs_length (network : PasspointNetwork) :
    (attrsBytes (passpointNetworkAttrs network)).length = 408 := by
  simp [passpointNetworkAttrs, attrsBytes_cons, attrBytes_length, u32Attr, network.realmWhole,
    network.idsWhole, network.plmnWhole, Netlink.align, Netlink.hdrlen]

theorem passpointElements_length (numHs : Int32) (networks : Nat → PasspointNetwork) :
    (attrsBytes (passpointElements numHs networks)).length = 412 * numHs.toNatClampNeg :=
  numberedNests_length _ 408 _ rfl fun _ => passpointNetworkAttrs_length _

section Emits

variable {env : RequestEnv} {lib : NlLib} {limit : Nat}

theorem emits_putPasspointNetwork (i : Nat) (network : PasspointNetwork) :
    lib.Emits limit (AnqpoConfigureCommand.putNetwork lib i network)
      [(i, attrsBytes (passpointNetworkAttrs network))] := by
  have some_inside : passpointNetworkAttrs network ≠ [] := List.cons_ne_nil _ _
  rw [← lib.nested_of_ne _ some_inside]
  apply NlLib.emits_checked_nest i (by decide)
  apply (emits_putU32 _ _).bind
  apply (NlLib.emits_put _ _).bind
  apply (NlLib.emits_put _ _).bind
  exact NlLib.emits_put _ _

theorem completes_putPasspointNetwork (i : Nat) (network : PasspointNetwork) :
    lib.Completes (AnqpoConfigureCommand.putNetwork lib i network)
      [(i, attrsBytes (passpointNetworkAttrs network))] := by
  apply NlLib.completes_checked_nest i wifiErrorOutOfMemory (List.cons_ne_nil _ _)
  apply (NlLib.completes_checked_put _ _).bind
  apply (NlLib.completes_checked_put _ _).bind
  apply (NlLib.completes_checked_put _ _).bind
  exact NlLib.completes_checked_put _ _

theorem completes_putVendorHeader (id subcmd : UInt32) :
    env.lib.Completes (putVendorHeader env id subcmd) (createAttrs env id subcmd) := by
  apply (NlLib.completes_put _ _).bind
  rw [if_neg (by decide)]
  apply (NlLib.completes_put _ _).bind
  rw [if_neg (by decide)]
  split
  · exact NlLib.completes_put _ _
  · exact NlLib.completes_pure

/-- A fresh message has room for the header, so that its result need not be looked at. -/
theorem putVendorHeader_run :
    putVendorHeader env googleOui gscanSubcmdAnqpoConfig [] =
      .ok 0 (attrsBytes (createAttrs env googleOui gscanSubcmdAnqpoConfig)) := by
  have header := @createAttrs_length env googleOui gscanSubcmdAnqpoConfig
  apply completes_putVendorHeader
  rw [List.nil_append, env.room_eq]
  omega

theorem emits_putHotspots {numHs : Int32} {networks : Nat → PasspointNetwork} :
    env.lib.Emits 24 (AnqpoConfigureCommand.putHotspots env.lib numHs networks)
      ([u32Attr gscanAttributeAnqpoHsListSize numHs.toUInt32] ++
        env.lib.nested nl80211AttrVendorData.toNat
          (env.lib.nested gscanAttributeAnqpoHsList (passpointElements numHs networks))) := by
  have size := u32Attr_length gscanAttributeAnqpoHsListSize numHs.toUInt32
  apply (emits_putU32 _ _).bind
  apply NlLib.emits_nest _ (fun _ => wifiSuccess) rfl
  · left
    rw [size, env.room_eq, Netlink.hdrlen]
    omega
  · apply NlLib.emits_nest _ id rfl
    · left
      rw [size, env.room_eq, Netlink.hdrlen]
      omega
    · exact NlLib.emits_loop_one _ fun i _ => emits_putPasspointNetwork i (networks i)

theorem putHotspots_run {numHs : Int32} {networks : Nat → PasspointNetwork}
    (few : numHs.toNatClampNeg ≤ 9) :
    NlLib.RunsWithin 24 (AnqpoConfigureCommand.putHotspots env.lib numHs networks)
      ([u32Attr gscanAttributeAnqpoHsListSize numHs.toUInt32] ++
        env.lib.nested nl80211AttrVendorData.toNat
          (env.lib.nested gscanAttributeAnqpoHsList (passpointElements numHs networks))) := by
  have size := u32Attr_length gscanAttributeAnqpoHsListSize numHs.toUInt32
  have length := passpointElements_length numHs networks
  have announced : NlLib.RunsWithin 24
      (putU32 env.lib gscanAttributeAnqpoHsListSize numHs.toUInt32)
      [u32Attr gscanAttributeAnqpoHsListSize numHs.toUInt32] :=
    runsWithin_putWord (by decide) (by decide) _ _
  have list := env.lib.nested_length_le gscanAttributeAnqpoHsList (passpointElements numHs networks)
  simp only [Netlink.hdrlen] at list
  apply announced.bind
  apply NlLib.runsWithin_nest _ (fun _ => wifiSuccess) rfl
  case room =>
    rw [size, env.room_eq, Netlink.hdrlen]
    omega
  apply NlLib.runsWithin_nest _ id rfl
  case room =>
    rw [size, env.room_eq, Netlink.hdrlen]
    omega
  apply NlLib.Completes.runsWithin
  · exact NlLib.completes_loop_one _ fun i _ => completes_putPasspointNetwork i (networks i)
  · rw [size, env.room_eq, Netlink.hdrlen]
    omega

end Emits

/-! ## What a driver reads -/

def readPasspointNetwork (payload : List UInt8) : Option PasspointNetwork := do
  let attrs := walk payload
  let id ← wordOf 4 attrs gscanAttributeAnqpoHsNetworkId
  let realm ← payloadOf attrs gscanAttributeAnqpoHsNaiRealm
  let roamingConsortiumIds ← payloadOf attrs gscanAttributeAnqpoHsRoamConsortiumId
  let plmn ← payloadOf attrs gscanAttributeAnqpoHsPlmn
  if whole : realm.length = 256 ∧ roamingConsortiumIds.length = 128 ∧ plmn.length = 3 then
    some ⟨id.toInt32, realm, roamingConsortiumIds, plmn, whole.1, whole.2.1, whole.2.2⟩
  else none

/-- The networks in the vendor data of a message, none if there is no vendor data. -/
def readPasspoint (msg : List UInt8) : Option (List PasspointNetwork) := do
  let vendor := (vendorData msg).getD []
  let payloads ← indexed (walk ((payloadOf (walk vendor) gscanAttributeAnqpoHsList).getD []))
  payloads.mapM readPasspointNetwork

/-- The size of the list, where a driver looks for what belongs to the command. -/
def readPasspointSize (msg : List UInt8) : Option UInt32 :=
  wordOf 4 (walk ((vendorData msg).getD [])) gscanAttributeAnqpoHsListSize

theorem readPasspointNetwork_back (network : PasspointNetwork) :
    readPasspointNetwork (attrsBytes (passpointNetworkAttrs network)) = some network := by
  have short : (attrsBytes (passpointNetworkAttrs network)).length < 65536 := by
    rw [passpointNetworkAttrs_length]
    decide
  have walked := walk_attrsBytes
    (types_small (rfl : (passpointNetworkAttrs network).all _ = true)) short
  have number : wordOf 4 (passpointNetworkAttrs network) gscanAttributeAnqpoHsNetworkId =
      some network.id.toUInt32 := word_leBytes_four _
  have realm : payloadOf (passpointNetworkAttrs network) gscanAttributeAnqpoHsNaiRealm =
      some network.realm := rfl
  have ids : payloadOf (passpointNetworkAttrs network) gscanAttributeAnqpoHsRoamConsortiumId =
      some network.roamingConsortiumIds := rfl
  have plmn : payloadOf (passpointNetworkAttrs network) gscanAttributeAnqpoHsPlmn =
      some network.plmn := rfl
  have whole : network.realm.length = 256 ∧ network.roamingConsortiumIds.length = 128 ∧
      network.plmn.length = 3 := ⟨network.realmWhole, network.idsWhole, network.plmnWhole⟩
  simp only [readPasspointNetwork, walked, number, realm, ids, plmn, Option.bind_eq_bind,
    Option.bind_some, dif_pos whole]
  simp

section Read

variable {env : RequestEnv} {numHs : Int32} {networks : Nat → PasspointNetwork}

theorem passpointHead_types (env : RequestEnv) (numHs : Int32) :
    ∀ attr ∈ passpointHead env numHs, attr.1 < 65536 := by
  apply types_small
  rw [passpointHead, createAttrs]
  split
  · rfl
  · rfl

theorem passpointHead_absent (env : RequestEnv) (numHs : Int32) :
    (passpointHead env numHs).find? (fun attr => attr.1 == nl80211AttrVendorData.toNat) =
      none := by
  rw [passpointHead, createAttrs]
  split
  · rfl
  · rfl

/-- The vendor data is the list, and nothing else. -/
theorem passpoint_vendorData
    (short : (attrsBytes (passpointAttrs env numHs networks)).length < 65536) :
    walk ((vendorData (attrsBytes (passpointAttrs env numHs networks))).getD []) =
      env.lib.nested gscanAttributeAnqpoHsList (passpointElements numHs networks) := by
  have walked : walk (attrsBytes (passpointAttrs env numHs networks)) =
      passpointAttrs env numHs networks :=
    nested_walk (by decide) (passpointHead_types env numHs) short
  have inside := env.lib.payloadOf_nested
    (env.lib.nested gscanAttributeAnqpoHsList (passpointElements numHs networks))
    (passpointHead_absent env numHs)
  rw [vendorData, walked, passpointAttrs, inside]
  exact @nested_walk env.lib [] _ _ (by decide) (by simp) (nested_short short)

theorem readPasspoint_back
    (short : (attrsBytes (passpointAttrs env numHs networks)).length < 65536) :
    readPasspoint (attrsBytes (passpointAttrs env numHs networks)) =
      some ((List.range numHs.toNatClampNeg).map networks) := by
  have listed := @NlLib.payloadOf_nested env.lib [] gscanAttributeAnqpoHsList
    (passpointElements numHs networks) rfl
  have vendorShort := nested_short short
  have elements : walk (attrsBytes (passpointElements numHs networks)) =
      passpointElements numHs networks :=
    @walk_numbered [] (by simp) _ _ (@nested_short env.lib [] _ _ vendorShort)
  rw [List.nil_append] at listed
  rw [readPasspoint, passpoint_vendorData short, listed, elements, passpointElements,
    numberedNests, indexed_map]
  exact mapM_map fun i _ => readPasspointNetwork_back (networks i)

theorem readPasspointSize_back
    (short : (attrsBytes (passpointAttrs env numHs networks)).length < 65536) :
    readPasspointSize (attrsBytes (passpointAttrs env numHs networks)) = none := by
  have absent : payloadOf (env.lib.nested gscanAttributeAnqpoHsList
      (passpointElements numHs networks)) gscanAttributeAnqpoHsListSize = none := by
    rw [NlLib.nested, nestAttrs]
    split
    · rfl
    · rfl
  rw [readPasspointSize, passpoint_vendorData short, wordOf, absent]
  rfl

end Read

/-! ## What becomes of a list -/

theorem passpointMessage_length (env : RequestEnv) (numHs : Int32)
    (networks : Nat → PasspointNetwork) (some_inside : 0 < numHs.toNatClampNeg) :
    412 * numHs.toNatClampNeg + 32 ≤
      (attrsBytes (passpointAttrs env numHs networks)).length := by
  have length := passpointElements_length numHs networks
  have elements : passpointElements numHs networks ≠ [] := by
    intro none_inside
    rw [none_inside, attrsBytes_nil, List.length_nil] at length
    omega
  have created : 24 ≤ (attrsBytes (passpointHead env numHs)).length := by
    rw [passpointHead, createAttrs, attrsBytes_append, attrsBytes_append, List.length_append,
      List.length_append]
    simp [attrsBytes_cons, attrBytes_length, u32Attr, Netlink.align, Netlink.hdrlen]
  have list := attr_length_le
    (List.mem_singleton_self (gscanAttributeAnqpoHsList, attrsBytes (passpointElements numHs networks)))
  have data := attr_length_le (List.mem_singleton_self
    (nl80211AttrVendorData.toNat,
      attrsBytes [(gscanAttributeAnqpoHsList, attrsBytes (passpointElements numHs networks))]))
  rw [passpointAttrs, attrsBytes_append, List.length_append,
    env.lib.nested_of_ne _ elements, env.lib.nested_of_ne _ (List.cons_ne_nil _ _)]
  simp only [Netlink.hdrlen] at list data
  omega

theorem createRequest_eq {env : RequestEnv} (got : env.allocated = true) (numHs val : Int32)
    (networks : Nat → PasspointNetwork) :
    AnqpoConfigureCommand.createRequest env numHs networks val [] =
      AnqpoConfigureCommand.putHotspots env.lib numHs networks
        (attrsBytes (createAttrs env googleOui gscanSubcmdAnqpoConfig)) := by
  rw [AnqpoConfigureCommand.createRequest, if_pos got]
  exact bind_ok putVendorHeader_run

theorem createRequest_null {env : RequestEnv} (missing : env.allocated = false) (numHs val : Int32)
    (networks : Nat → PasspointNetwork) :
    AnqpoConfigureCommand.createRequest env numHs networks val [] = .nullNest := by
  rw [AnqpoConfigureCommand.createRequest, if_neg (by simp [missing])]
  rfl

/-- A start and a cancel send the same message, from which a driver reads the networks and
no size of the list.  More than nine networks are refused; what is put into a message that
was not allocated goes through a null pointer. -/
theorem passpoint_reads_back (env : RequestEnv) (numHs : Int32)
    (networks : Nat → PasspointNetwork) :
    (env.allocated = true → numHs ≤ 9 →
      ∃ msg, AnqpoConfigureCommand.startRequest env numHs networks [] = .ok wifiSuccess msg ∧
        AnqpoConfigureCommand.cancelRequest env numHs networks [] = .ok wifiSuccess msg ∧
        genlHdrlen + msg.length ≤ messageCapacity ∧
        readPasspoint msg = some ((List.range numHs.toNatClampNeg).map networks) ∧
        readPasspointSize msg = none) ∧
    (env.allocated = true → 9 < numHs →
      ∃ code, code < 0 ∧
        AnqpoConfigureCommand.startRequest env numHs networks [] = .returned code ∧
        AnqpoConfigureCommand.cancelRequest env numHs networks [] = .returned code) ∧
    (env.allocated = false →
      AnqpoConfigureCommand.startRequest env numHs networks [] = .nullNest ∧
        AnqpoConfigureCommand.cancelRequest env numHs networks [] = .nullNest) := by
  have header := @createAttrs_length env googleOui gscanSubcmdAnqpoConfig
  have bound : numHs.toNatClampNeg ≤ 9 ↔ numHs ≤ 9 := toNatClampNeg_le_iff (by decide)
  have emitted := @emits_putHotspots env numHs networks
    (attrsBytes (createAttrs env googleOui gscanSubcmdAnqpoConfig)) header
    (by rw [env.room_eq]; omega)
  rw [← attrsBytes_append, ← List.append_assoc] at emitted
  refine ⟨fun got few => ?_, fun got many => ?_, fun missing => ?_⟩
  · have ran := @putHotspots_run env numHs networks (bound.mpr few) _ header
    rcases emitted with ⟨code, _, returned⟩ | ⟨room, ran⟩
    · rw [ran] at returned
      cases returned
    · have short : (attrsBytes (passpointAttrs env numHs networks)).length ≤ env.lib.room := room
      rw [env.room_eq] at short
      refine ⟨attrsBytes (passpointAttrs env numHs networks), ?_, ?_, ?_,
        readPasspoint_back (by omega), readPasspointSize_back (by omega)⟩
      · rw [AnqpoConfigureCommand.startRequest, createRequest_eq got]
        exact ran
      · rw [AnqpoConfigureCommand.cancelRequest, createRequest_eq got]
        exact ran
      · simp only [genlHdrlen, messageCapacity]
        omega
  · rcases emitted with ⟨code, negative, returned⟩ | ⟨room, _⟩
    · refine ⟨code, negative, ?_, ?_⟩
      · rw [AnqpoConfigureCommand.startRequest, createRequest_eq got]
        exact returned
      · rw [AnqpoConfigureCommand.cancelRequest, createRequest_eq got]
        exact returned
    · have short : (attrsBytes (passpointAttrs env numHs networks)).length ≤ env.lib.room := room
      rw [env.room_eq] at short
      have more : ¬ numHs.toNatClampNeg ≤ 9 := by
        rw [bound]
        exact Int32.not_le.mpr many
      have long := passpointMessage_length env numHs networks (by omega)
      omega
  · constructor
    · rw [AnqpoConfigureCommand.startRequest, createRequest_null missing]
    · rw [AnqpoConfigureCommand.cancelRequest, createRequest_null missing]

end Mt6757.WifiHal
