import Mt6757.Lib.NlMessage
import Mt6757.WifiHal.Initialize

/-!
# Multicast groups

`wifi_initialize` ends with four memberships.  The number of a group is looked up in the
reply of the generic netlink controller, which nests one attribute for each group, with
its name and its number, in an attribute among others.
-/

set_option autoImplicit false

namespace Mt6757.WifiHal.Initialize

open NlMessage

def ctrlAttrMcastGroups : Nat := 7
def ctrlAttrMcastGrpName : Nat := 1
def ctrlAttrMcastGrpId : Nat := 2

/-- The attributes of a reply, as `genlmsg_attrdata` and `genlmsg_attrlen` give them. -/
structure CtrlReply where
  mem : Octets
  attrdata : Nat
  attrlen : Nat

/-! ## The lookup -/

/-- The loop of `handleResponse` over the groups.  It takes the number of the first
group that compares equal, and skips a group without a name or a number. -/
def findGroup (mem : Octets) (mGroup : CString) : List Nat → Option UInt32
  | [] => none
  | mcgrp :: rest =>
      let tb2 := Netlink.table mem (Netlink.data mcgrp) (Netlink.payloadLen mem mcgrp)
      match tb2 ctrlAttrMcastGrpName, tb2 ctrlAttrMcastGrpId with
      | some name, some id =>
          let grpName := (Netlink.payload mem name).takeWhile (· ≠ 0)
          let grpNameLen := (Netlink.payloadLen mem name).toNat
          if CString.strncmp grpNameLen grpName mGroup ≠ 0 then findGroup mem mGroup rest
          else some (Netlink.getU32 mem id)
      | _, _ => findGroup mem mGroup rest

/-- `GetMulticastIdCommand::handleResponse`, on the member `mId`. -/
def handleMulticastId (mGroup : CString) (reply : CtrlReply) (mId : Int) : Int × Int :=
  match Netlink.table reply.mem reply.attrdata reply.attrlen ctrlAttrMcastGroups with
  | none => (mId, nlSkip)
  | some groups =>
      match findGroup reply.mem mGroup (Netlink.inside reply.mem groups) with
      | none => (mId, nlSkip)
      | some id => (signedWord 4 id.toNat, nlSkip)

/-- `wifi_get_multicast_id`, with the result of its request and the replies to it. -/
def wifiGetMulticastId (res : Int) (replies : List CtrlReply) (group : CString) : Int :=
  if res < 0 then res
  else replies.foldl (fun mId reply => (handleMulticastId group reply mId).1) (-1)

/-! ## Groups as the controller lists them -/

structure McastGroup where
  name : CString
  id : UInt32

def McastGroup.attrs (group : McastGroup) : List Attr :=
  [(ctrlAttrMcastGrpId, leBytes 4 group.id.toNat), (ctrlAttrMcastGrpName, group.name ++ [0])]

def groupsFrom (first : Nat) : List McastGroup → List Attr
  | [] => []
  | group :: rest => (first, attrsBytes group.attrs) :: groupsFrom (first + 1) rest

def groupsBytes (groups : List McastGroup) : List UInt8 := attrsBytes (groupsFrom 1 groups)

def groupId (groups : List McastGroup) (name : CString) : Option UInt32 :=
  (groups.find? fun group => group.name = name).map McastGroup.id

/-- The reply lists these groups: its last attribute of that type has them, the names
have no terminator inside, and the lengths fit their fields. -/
structure CtrlReply.Lists (reply : CtrlReply) (groups : List McastGroup) : Prop where
  attrs : lastOf (walk (reply.mem.fetch reply.attrdata reply.attrlen)) ctrlAttrMcastGroups =
    some (groupsBytes groups)
  names : ∀ group ∈ groups, 0 ∉ group.name
  short : (groupsBytes groups).length < 65536

theorem groupsFrom_length (first : Nat) (groups : List McastGroup) :
    (groupsFrom first groups).length = groups.length := by
  induction groups generalizing first with
  | nil => rfl
  | cons group rest ih => rw [groupsFrom, List.length_cons, ih, List.length_cons]

theorem groupsFrom_payloads (first : Nat) (groups : List McastGroup) :
    (groupsFrom first groups).map Prod.snd = groups.map fun group => attrsBytes group.attrs := by
  induction groups generalizing first with
  | nil => rfl
  | cons group rest ih => rw [groupsFrom, List.map_cons, ih, List.map_cons]

theorem groupsFrom_types {first : Nat} {groups : List McastGroup} {attr : Attr}
    (here : attr ∈ groupsFrom first groups) : attr.1 < first + groups.length := by
  induction groups generalizing first with
  | nil => cases here
  | cons group rest ih =>
      rw [List.length_cons]
      rcases List.mem_cons.mp here with rfl | later
      · simp
      · have below := ih later
        omega

theorem walk_groupsBytes {groups : List McastGroup} (short : (groupsBytes groups).length < 65536) :
    walk (groupsBytes groups) = groupsFrom 1 groups := by
  apply walk_attrsBytes _ short
  have many := attrsBytes_length_ge (groupsFrom 1 groups)
  rw [groupsFrom_length] at many
  rw [groupsBytes] at short
  intro attr here
  have below := groupsFrom_types here
  omega

theorem walk_groupAttrs {group : McastGroup} (short : (attrsBytes group.attrs).length < 65536) :
    walk (attrsBytes group.attrs) = group.attrs :=
  walk_attrsBytes (types_small rfl) short

theorem CtrlReply.lists_of_attrs {groups : List McastGroup} {before after : List Attr}
    (types : ∀ attr ∈ before ++ after, attr.1 < 65536)
    (only : ∀ attr ∈ after, attr.1 % 2 ^ 14 ≠ ctrlAttrMcastGroups)
    (names : ∀ group ∈ groups, 0 ∉ group.name) {bytes : List UInt8}
    (assembled : bytes = attrsBytes (before ++ (ctrlAttrMcastGroups, groupsBytes groups) :: after))
    (short : bytes.length < 65536) :
    CtrlReply.Lists ⟨Octets.ofList bytes, 0, bytes.length⟩ groups := by
  have typed : ∀ attr ∈ before ++ (ctrlAttrMcastGroups, groupsBytes groups) :: after,
      attr.1 < 65536 := by
    intro attr here
    rcases List.mem_append.mp here with here | here
    · exact types attr (List.mem_append_left _ here)
    · rcases List.mem_cons.mp here with rfl | here
      · show 7 < 65536
        omega
      · exact types attr (List.mem_append_right _ here)
  have inside : Netlink.hdrlen + (groupsBytes groups).length ≤
      (attrsBytes (before ++ (ctrlAttrMcastGroups, groupsBytes groups) :: after)).length :=
    @attr_length_le _ (ctrlAttrMcastGroups, groupsBytes groups)
      (List.mem_append_right _ List.mem_cons_self)
  have copy : (Octets.ofList bytes).fetch 0 bytes.length = bytes := by
    rw [Octets.fetch_ofList (by simp), slice, List.drop_zero, List.take_length]
  rw [← assembled] at inside
  refine ⟨?_, names, by omega⟩
  have last : lastOf (before ++ (ctrlAttrMcastGroups, groupsBytes groups) :: after)
      ctrlAttrMcastGroups = some (groupsBytes groups) := by
    rw [List.append_cons, lastOf_append only, lastOf_concat _ (by decide)]
  rw [copy, assembled, walk_attrsBytes typed (assembled ▸ short), last]

/-! ## What the lookup finds -/

/-- Against a name with its terminator the comparison is exact. -/
theorem strncmp_terminated {name mGroup : CString} (whole : 0 ∉ name) (whole' : 0 ∉ mGroup) :
    CString.strncmp (name ++ [0]).length ((name ++ [0]).takeWhile (· ≠ 0)) mGroup = 0 ↔
      name = mGroup := by
  have text : (name ++ [0]).takeWhile (· ≠ 0) = name := by
    rw [List.takeWhile_append_of_pos]
    · simp
    · intro byte here
      exact decide_eq_true fun zero => whole (zero ▸ here)
  rw [text, CString.strncmp_eq_zero_iff whole whole', List.length_append,
    List.take_of_length_le (by simp)]
  constructor
  · intro same
    have lengths := congrArg List.length same
    rw [List.length_take, List.length_singleton] at lengths
    rw [same, List.take_of_length_le (by omega)]
  · rintro rfl
    rw [List.take_of_length_le (by simp)]

variable {mem : Octets} {mGroup : CString}

theorem group_table {group : McastGroup} {mcgrp : Nat} {nla : Nat} {rem : Int}
    (visited : mcgrp ∈ Netlink.attrs mem nla rem)
    (bytes : Netlink.payload mem mcgrp = attrsBytes group.attrs)
    (short : (attrsBytes group.attrs).length < 65536) :
    ∃ name id,
      Netlink.table mem (Netlink.data mcgrp) (Netlink.payloadLen mem mcgrp)
          ctrlAttrMcastGrpName = some name ∧
        Netlink.table mem (Netlink.data mcgrp) (Netlink.payloadLen mem mcgrp)
          ctrlAttrMcastGrpId = some id ∧
        Netlink.payload mem name = group.name ++ [0] ∧
        Netlink.payload mem id = leBytes 4 group.id.toNat := by
  have length := Netlink.payloadLen_nonneg visited
  have whole : ((Netlink.payloadLen mem mcgrp).toNat : Int) = Netlink.payloadLen mem mcgrp := by
    omega
  have found := table_payload mem (Netlink.data mcgrp) (Netlink.payloadLen mem mcgrp).toNat
  rw [← Netlink.payload, bytes, walk_groupAttrs short, whole] at found
  obtain ⟨name, named, nameBytes⟩ := Option.map_eq_some_iff.mp (found ctrlAttrMcastGrpName)
  obtain ⟨id, numbered, idBytes⟩ := Option.map_eq_some_iff.mp (found ctrlAttrMcastGrpId)
  exact ⟨name, id, named, numbered, nameBytes, idBytes⟩

theorem getU32_of_payload {nla : Nat} {value : UInt32}
    (bytes : Netlink.payload mem nla = leBytes 4 value.toNat) : Netlink.getU32 mem nla = value := by
  have length := congrArg List.length bytes
  rw [Netlink.payload, Octets.fetch_length, leBytes_length] at length
  rw [Netlink.payload, length] at bytes
  have small : value.toNat < 256 ^ 4 := value.toNat_lt
  rw [Netlink.getU32, Octets.word, bytes, leValue_leBytes, Nat.mod_eq_of_lt small,
    UInt32.ofNat_toNat]

theorem payloadLen_of_payload {nla : Nat} {bytes : List UInt8}
    (here : Netlink.payload mem nla = bytes) :
    (Netlink.payloadLen mem nla).toNat = bytes.length := by
  rw [← here, Netlink.payload, Octets.fetch_length]

theorem findGroup_eq {nla : Nat} {rem : Int} {groups : List McastGroup} {mcgrps : List Nat}
    (visited : ∀ mcgrp ∈ mcgrps, mcgrp ∈ Netlink.attrs mem nla rem)
    (bytes : mcgrps.map (Netlink.payload mem) = groups.map fun group => attrsBytes group.attrs)
    (names : ∀ group ∈ groups, 0 ∉ group.name)
    (short : ∀ group ∈ groups, (attrsBytes group.attrs).length < 65536)
    (whole : 0 ∉ mGroup) : findGroup mem mGroup mcgrps = groupId groups mGroup := by
  induction groups generalizing mcgrps with
  | nil =>
      obtain rfl := List.map_eq_nil_iff.mp bytes
      rfl
  | cons group rest ih =>
      cases mcgrps with
      | nil => cases bytes
      | cons mcgrp mcgrps =>
          rw [List.map_cons, List.map_cons, List.cons.injEq] at bytes
          obtain ⟨name, id, named, numbered, nameBytes, idBytes⟩ :=
            group_table (visited _ List.mem_cons_self) bytes.1 (short _ List.mem_cons_self)
          have later := ih (fun other here => visited other (List.mem_cons_of_mem _ here)) bytes.2
            (fun other here => names other (List.mem_cons_of_mem _ here))
            fun other here => short other (List.mem_cons_of_mem _ here)
          have compared := strncmp_terminated (names _ List.mem_cons_self) whole
          simp only [findGroup, named, numbered, payloadLen_of_payload nameBytes, nameBytes,
            getU32_of_payload idBytes]
          by_cases same : group.name = mGroup
          · rw [if_neg (not_not_intro (compared.mpr same)), groupId,
              List.find?_cons_of_pos (by simpa using same), Option.map_some]
          · rw [if_pos (mt compared.mp same), later, groupId, groupId,
              List.find?_cons_of_neg (by simpa using same)]

theorem handleMulticastId_eq {reply : CtrlReply} {groups : List McastGroup}
    (lists : reply.Lists groups) (whole : 0 ∉ mGroup) (mId : Int) :
    handleMulticastId mGroup reply mId =
      (match groupId groups mGroup with
        | none => mId
        | some id => signedWord 4 id.toNat, nlSkip) := by
  have found := table_payload reply.mem reply.attrdata reply.attrlen ctrlAttrMcastGroups
  rw [lists.attrs] at found
  obtain ⟨nested, here, bytes⟩ := Option.map_eq_some_iff.mp found
  have nonneg : 0 ≤ Netlink.payloadLen reply.mem nested :=
    Netlink.payloadLen_nonneg (List.mem_filter.mp (List.mem_of_getLast? here)).1
  have entries := walk_fetch reply.mem (Netlink.data nested)
    (Netlink.payloadLen reply.mem nested).toNat
  rw [← Netlink.payload, bytes, walk_groupsBytes lists.short, Int.toNat_of_nonneg nonneg,
    ← Netlink.inside] at entries
  have payloads := congrArg (List.map Prod.snd) entries
  rw [List.map_map, groupsFrom_payloads] at payloads
  have short : ∀ group ∈ groups, (attrsBytes group.attrs).length < 65536 := by
    intro group listed
    have mapped : attrsBytes group.attrs ∈ (groupsFrom 1 groups).map Prod.snd := by
      rw [groupsFrom_payloads]
      exact List.mem_map_of_mem listed
    obtain ⟨attr, within, same⟩ := List.mem_map.mp mapped
    have below := attr_length_le within
    rw [same, ← groupsBytes] at below
    have room := lists.short
    omega
  have search : findGroup reply.mem mGroup (Netlink.inside reply.mem nested) =
      groupId groups mGroup :=
    findGroup_eq (fun _ visited => visited) payloads lists.names short whole
  rw [handleMulticastId, here]
  simp only [search]
  cases groupId groups mGroup <;> rfl

/-- The number of the first group of that very name, and minus one without one. -/
theorem wifiGetMulticastId_eq {reply : CtrlReply} {groups : List McastGroup}
    (lists : reply.Lists groups) (whole : 0 ∉ mGroup) {res : Int} (sent : 0 ≤ res) :
    wifiGetMulticastId res [reply] mGroup =
      match groupId groups mGroup with
      | none => -1
      | some id => signedWord 4 id.toNat := by
  rw [wifiGetMulticastId, if_neg (by omega), List.foldl_cons, List.foldl_nil,
    handleMulticastId_eq lists whole]

/-! ## The four memberships -/

/-- The groups that `wifi_initialize` joins, in its order. -/
def memberships : List CString :=
  [CString.ascii "scan", CString.ascii "mlme", CString.ascii "regulatory", CString.ascii "vendor"]

/-- The environment in which each lookup is a request of its own to the controller. -/
def InitEnv.asking (env : InitEnv) (res : CString → Int) (reply : CString → CtrlReply) : InitEnv :=
  { env with multicastId := fun group => wifiGetMulticastId (res group) [reply group] group }

theorem wifiAddMembership_nonneg_iff {env : InitEnv} {res : CString → Int}
    {reply : CString → CtrlReply} {groups : List McastGroup} (sent : 0 ≤ res mGroup)
    (lists : (reply mGroup).Lists groups) (whole : 0 ∉ mGroup) :
    0 ≤ wifiAddMembership (env.asking res reply) mGroup ↔
      ∃ id, groupId groups mGroup = some id ∧ id.toNat < 2 ^ 31 ∧ 0 ≤ env.addMembership id.toNat := by
  have asked : (env.asking res reply).multicastId mGroup =
      match groupId groups mGroup with
      | none => -1
      | some id => signedWord 4 id.toNat := wifiGetMulticastId_eq lists whole sent
  rw [wifiAddMembership, asked]
  cases groupId groups mGroup with
  | none => simp
  | some id =>
      have fits : id.toNat < 256 ^ 4 := id.toNat_lt
      have sign := signedWord_neg_iff fits
      by_cases small : id.toNat < 2 ^ 31
      · have value := @signedWord_of_small 4 id.toNat (by omega)
        have nonneg : ¬ (id.toNat : Int) < 0 := by omega
        simp only [value, nonneg, if_false, Option.some.injEq, exists_eq_left', small, true_and]
        exact Iff.rfl
      · have negative := sign.mpr (by omega)
        simp only [negative, if_true]
        constructor
        · intro nonneg
          omega
        · rintro ⟨other, same, below, -⟩
          obtain rfl := Option.some.inj same
          exact absurd below small

/-- The last step of `wifi_initialize` goes through exactly where the controller lists
all four groups by name, with numbers that stay positive in an `int`, and the socket
joins those. -/
theorem joins_all_iff {env : InitEnv} {res : CString → Int} {reply : CString → CtrlReply}
    {groups : List McastGroup} (sent : ∀ group ∈ memberships, 0 ≤ res group)
    (lists : ∀ group ∈ memberships, (reply group).Lists groups) :
    membershipFails (env.asking res reply) = false ↔
      ∀ group ∈ memberships, ∃ id, groupId groups group = some id ∧ id.toNat < 2 ^ 31 ∧
        0 ≤ env.addMembership id.toNat := by
  have whole : ∀ group ∈ memberships, 0 ∉ group := by decide
  have each : ∀ group ∈ memberships, (0 ≤ wifiAddMembership (env.asking res reply) group ↔
      ∃ id, groupId groups group = some id ∧ id.toNat < 2 ^ 31 ∧ 0 ≤ env.addMembership id.toNat) :=
    fun group here => wifiAddMembership_nonneg_iff (sent group here) (lists group here)
      (whole group here)
  have all : membershipFails (env.asking res reply) = false ↔
      ∀ group ∈ memberships, 0 ≤ wifiAddMembership (env.asking res reply) group := by
    simp [membershipFails, memberships, and_assoc]
  rw [all]
  exact forall₂_congr each

def nl80211Groups : List McastGroup :=
  [⟨CString.ascii "scan", 4⟩, ⟨CString.ascii "regulatory", 5⟩, ⟨CString.ascii "mlme", 6⟩,
    ⟨CString.ascii "vendor", 7⟩, ⟨CString.ascii "config", 3⟩]

def nl80211Reply : List UInt8 :=
  attrsBytes [(2, CString.ascii "nl80211" ++ [0]), (ctrlAttrMcastGroups, groupsBytes nl80211Groups)]

theorem joins_all_nl80211 :
    membershipFails (InitEnv.good.asking (fun _ => 0) fun _ =>
      ⟨Octets.ofList nl80211Reply, 0, nl80211Reply.length⟩) = false :=
  (@joins_all_iff _ _ _ nl80211Groups (fun _ _ => le_refl 0) fun _ _ =>
      @CtrlReply.lists_of_attrs _ [(2, CString.ascii "nl80211" ++ [0])] [] (by decide)
        (by decide) (by decide) _ rfl (by decide +kernel)).mpr (by
    intro group here
    simp only [memberships, List.mem_cons, List.not_mem_nil, or_false] at here
    rcases here with rfl | rfl | rfl | rfl
    · exact ⟨4, rfl, by decide, le_refl 0⟩
    · exact ⟨6, rfl, by decide, le_refl 0⟩
    · exact ⟨5, rfl, by decide, le_refl 0⟩
    · exact ⟨7, rfl, by decide, le_refl 0⟩)

end Mt6757.WifiHal.Initialize
