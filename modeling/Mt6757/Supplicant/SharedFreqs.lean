import Mathlib.Algebra.Order.Ring.Int
import Mt6757.Lib.FirstUse

/-!
# The frequencies of a shared radio

`mtk_get_shared_radio_freqs_data` walks the interfaces that share a radio and fills an array
with the frequencies they operate on, each with flags that say by whom it is used.
-/

set_option autoImplicit false

namespace Mt6757.Supplicant

open FirstUse

/-- The modes that the walk tells apart. -/
inductive SsidMode where
  | infra
  | ap
  | p2pGo
  | other
  deriving DecidableEq, Repr

structure Ssid where
  mode : SsidMode
  frequency : Int32
  p2pGroup : Bool

/-- An interface of the radio; `getBssid` is the result of `wpa_drv_get_bssid` on it. -/
structure RadioIface where
  currentSsid : Option Ssid
  assocFreq : UInt32
  getBssid : Int32

/-- `WPA_FREQ_USED_BY_INFRA_STATION` and `WPA_FREQ_USED_BY_P2P_CLIENT`, two flags that have no
bit in common. -/
structure FreqFlags where
  infraStation : UInt32
  p2pClient : UInt32
  station_ne : infraStation ≠ 0
  client_ne : p2pClient ≠ 0
  apart : infraStation &&& p2pClient = 0

structure UsedFreqData where
  freq : Int32
  flags : UInt32
  deriving DecidableEq, Repr

def operatingFreq (ifs : RadioIface) : Option (Ssid × Int32) :=
  match ifs.currentSsid with
  | none => none
  | some ssid =>
      if ifs.assocFreq = 0 then none
      else if ssid.mode = .ap ∨ ssid.mode = .p2pGo then some (ssid, ssid.frequency)
      else if ifs.getBssid = 0 then some (ssid, ifs.assocFreq.toInt32)
      else none

/-- `freqs_data`, and `idx`. -/
structure SharedFreqs where
  data : List UsedFreqData
  idx : Nat

def FreqFlags.ofSsid (flags : FreqFlags) (ssid : Ssid) : UInt32 :=
  if ssid.p2pGroup then flags.p2pClient else flags.infraStation

/-- The entry of a frequency among the first `idx`, or else `idx`. -/
def SharedFreqs.search (freqs : SharedFreqs) (freq : Int32) : Nat :=
  (freqs.data.take freqs.idx).findIdx fun entry => entry.freq = freq

def SharedFreqs.visit (flags : FreqFlags) (freqs : SharedFreqs) (ifs : RadioIface) : SharedFreqs :=
  match operatingFreq ifs with
  | none => freqs
  | some (ssid, freq) =>
      let i := freqs.search freq
      let freqs : SharedFreqs :=
        if i = freqs.idx then
          ⟨freqs.data.modify freqs.idx fun entry => { entry with freq := freq }, freqs.idx + 1⟩
        else freqs
      if ssid.mode = .infra then
        { freqs with
          data := freqs.data.modify i fun entry => { entry with flags := flags.ofSsid ssid } }
      else freqs

def SharedFreqs.walk (flags : FreqFlags) (len : Nat) : List RadioIface → SharedFreqs → SharedFreqs
  | [], freqs => freqs
  | ifs :: rest, freqs =>
      if freqs.idx = len then freqs else walk flags len rest (freqs.visit flags ifs)

def mtkGetSharedRadioFreqsData (flags : FreqFlags) (ifaces : List RadioIface) (len : UInt32) :
    Int32 × List UsedFreqData :=
  let freqs := SharedFreqs.walk flags len.toNat ifaces ⟨List.replicate len.toNat ⟨0, 0⟩, 0⟩
  (Int32.ofNat freqs.idx, freqs.data)

/-- `mtk_get_shared_radio_freqs`; `allocated` says whether `os_calloc` succeeds. -/
def mtkGetSharedRadioFreqs (flags : FreqFlags) (ifaces : List RadioIface) (len : UInt32)
    (allocated : Bool) : Int32 × List Int32 :=
  let freqArray := List.replicate len.toNat 0
  if !allocated then (-1, freqArray)
  else
    let (num, data) := mtkGetSharedRadioFreqsData flags ifaces len
    let stored := (data.take num.toInt.toNat).map UsedFreqData.freq
    (num, stored ++ freqArray.drop stored.length)

/-! ## The uses -/

inductive Role where
  | infraStation
  | p2pClient
  deriving DecidableEq, Repr

def FreqFlags.ofRole (flags : FreqFlags) : Role → UInt32
  | .infraStation => flags.infraStation
  | .p2pClient => flags.p2pClient

def Ssid.role (ssid : Ssid) : Option Role :=
  if ssid.mode = .infra then some (if ssid.p2pGroup then .p2pClient else .infraStation) else none

/-- What a connected interface uses. -/
def useOf (ifs : RadioIface) : Option (Use Int32 Role) :=
  (operatingFreq ifs).map fun (ssid, freq) => ⟨freq, ssid.role⟩

def usesOf (ifaces : List RadioIface) : List (Use Int32 Role) := ifaces.filterMap useOf

def entryOf (flags : FreqFlags) (uses : List (Use Int32 Role)) (freq : Int32) : UsedFreqData :=
  ⟨freq, (latest uses freq).elim 0 flags.ofRole⟩

structure SharedFreqs.Holds (freqs : SharedFreqs) (flags : FreqFlags) (len : Nat)
    (uses : List (Use Int32 Role)) : Prop where
  data : freqs.data =
    (keys uses).map (entryOf flags uses) ++ List.replicate (len - (keys uses).length) ⟨0, 0⟩
  idx : freqs.idx = (keys uses).length
  room : (keys uses).length ≤ len

section Walk

variable {flags : FreqFlags} {len : Nat} {freqs : SharedFreqs} {seen : List (Use Int32 Role)}

theorem findIdx_map_entryOf (freq : Int32) (list : List Int32) :
    (list.map (entryOf flags seen)).findIdx (fun entry => entry.freq = freq) =
      list.idxOf freq := by
  rw [List.findIdx_map, List.idxOf]
  rfl

theorem SharedFreqs.Holds.search_eq (holds : freqs.Holds flags len seen) (freq : Int32) :
    freqs.search freq = (keys seen).idxOf freq := by
  have length : ((keys seen).map (entryOf flags seen)).length = (keys seen).length :=
    List.length_map _
  rw [SharedFreqs.search, holds.data, holds.idx, ← length, List.take_left, findIdx_map_entryOf]

def SharedFreqs.setFlags (flags : FreqFlags) (i : Nat) (role : Option Role) (freqs : SharedFreqs) :
    SharedFreqs :=
  match role with
  | none => freqs
  | some role =>
      { freqs with data := freqs.data.modify i fun entry => { entry with flags := flags.ofRole role } }

def SharedFreqs.addFreq (freq : Int32) (freqs : SharedFreqs) : SharedFreqs :=
  ⟨freqs.data.modify freqs.idx fun entry => { entry with freq := freq }, freqs.idx + 1⟩

theorem SharedFreqs.visit_eq {ifs : RadioIface} {ssid : Ssid} {freq : Int32}
    (connected : operatingFreq ifs = some (ssid, freq)) :
    freqs.visit flags ifs = SharedFreqs.setFlags flags (freqs.search freq) ssid.role
      (if freqs.search freq = freqs.idx then freqs.addFreq freq else freqs) := by
  simp only [SharedFreqs.visit, connected, SharedFreqs.addFreq, Ssid.role, FreqFlags.ofSsid]
  by_cases infra : ssid.mode = .infra
  · rw [if_pos infra, if_pos infra]
    cases ssid.p2pGroup <;> rfl
  · rw [if_neg infra, if_neg infra]
    rfl

theorem entryOf_congr {uses uses' : List (Use Int32 Role)}
    (same : ∀ freq, latest uses' freq = latest uses freq) :
    entryOf flags uses' = entryOf flags uses := by
  funext freq
  rw [entryOf, entryOf, same]

theorem SharedFreqs.Holds.congr {uses uses' : List (Use Int32 Role)}
    (holds : freqs.Holds flags len uses) (same_keys : keys uses' = keys uses)
    (same_latest : ∀ freq, latest uses' freq = latest uses freq) : freqs.Holds flags len uses' := by
  constructor
  · rw [same_keys, entryOf_congr same_latest]
    exact holds.data
  · rw [same_keys]
    exact holds.idx
  · rw [same_keys]
    exact holds.room

theorem SharedFreqs.Holds.setFlags (holds : freqs.Holds flags len seen) {freq : Int32}
    (known : freq ∈ keys seen) (role : Option Role) :
    (freqs.setFlags flags ((keys seen).idxOf freq) role).Holds flags len
      (seen ++ [⟨freq, role⟩]) := by
  have same_keys : keys (seen ++ [⟨freq, role⟩]) = keys seen := by
    rw [keys_concat, if_pos known]
  cases role with
  | none =>
      exact holds.congr same_keys (latest_concat_none seen freq)
  | some role =>
      constructor
      · rw [same_keys, SharedFreqs.setFlags, holds.data]
        refine modify_map_idxOf (nodup_keys seen) known ?_ (fun other differ => ?_) _
        · rw [entryOf, entryOf, latest_concat, if_pos rfl]
          rfl
        · rw [entryOf, entryOf, latest_concat, if_neg (Ne.symm differ)]
      · rw [same_keys]
        exact holds.idx
      · rw [same_keys]
        exact holds.room

theorem SharedFreqs.Holds.addFreq (holds : freqs.Holds flags len seen) {freq : Int32}
    (fresh : freq ∉ keys seen) (room : freqs.idx ≠ len) :
    (freqs.addFreq freq).Holds flags len (seen ++ [⟨freq, none⟩]) := by
  have more_keys : keys (seen ++ [⟨freq, none⟩]) = keys seen ++ [freq] := by
    rw [keys_concat, if_neg fresh]
  have entries : entryOf flags (seen ++ [⟨freq, none⟩]) = entryOf flags seen :=
    entryOf_congr (latest_concat_none seen freq)
  have unset : latest seen freq = none :=
    latest_eq_none_iff.mpr fun use here same => absurd (mem_keys.mpr ⟨use, here, same⟩) fresh
  rw [holds.idx] at room
  obtain ⟨left, more⟩ : ∃ left, len - (keys seen).length = left + 1 :=
    ⟨len - (keys seen).length - 1, by have := holds.room; omega⟩
  constructor
  · have length : freqs.idx = ((keys seen).map (entryOf flags seen)).length := by
      rw [holds.idx, List.length_map]
    rw [SharedFreqs.addFreq, length, holds.data, more, List.replicate_succ, modify_length, more_keys,
      entries, List.map_append, List.append_assoc, List.length_append, List.length_singleton,
      ← Nat.sub_sub, more]
    rw [List.map_singleton, entryOf, unset]
    rfl
  · rw [more_keys, List.length_append, List.length_singleton, ← holds.idx]
    rfl
  · rw [more_keys, List.length_append, List.length_singleton]
    omega

theorem SharedFreqs.Holds.visit (holds : freqs.Holds flags len seen) (room : freqs.idx ≠ len)
    {ifs : RadioIface} {ssid : Ssid} {freq : Int32}
    (connected : operatingFreq ifs = some (ssid, freq)) :
    (freqs.visit flags ifs).Holds flags len (seen ++ [⟨freq, ssid.role⟩]) := by
  rw [SharedFreqs.visit_eq connected, holds.search_eq, holds.idx]
  by_cases known : freq ∈ keys seen
  · rw [if_neg (Nat.ne_of_lt (List.idxOf_lt_length_of_mem known))]
    exact holds.setFlags known ssid.role
  · have behind : (keys seen).idxOf freq = (keys seen).length := List.idxOf_eq_length known
    have started := holds.addFreq known room
    have listed : keys (seen ++ [⟨freq, none⟩]) = keys seen ++ [freq] := by
      rw [keys_concat, if_neg known]
    have here : freq ∈ keys (seen ++ [⟨freq, none⟩]) := by
      rw [listed]
      exact List.mem_append_right _ (List.mem_singleton_self freq)
    have at_end : (keys (seen ++ [⟨freq, none⟩])).idxOf freq = (keys seen).length := by
      rw [listed, List.idxOf_append_of_notMem known, List.idxOf_cons_self, Nat.add_zero]
    rw [if_pos behind, behind, ← at_end]
    refine (started.setFlags here ssid.role).congr ?_ fun other => ?_
    · rw [keys_concat, if_neg known, keys_concat, if_pos here, listed]
    · rw [latest_concat, latest_concat, latest_concat_none]

theorem SharedFreqs.Holds.walk (holds : freqs.Holds flags len seen) (ifaces : List RadioIface)
    (early : ∀ before, before <+: seen → before ≠ seen → (keys before).length < len) :
    ∃ looked, Looked len (seen ++ usesOf ifaces) looked ∧
      (SharedFreqs.walk flags len ifaces freqs).Holds flags len looked := by
  induction ifaces generalizing freqs seen with
  | nil =>
      refine ⟨seen, ⟨?_, early, .inl ?_⟩, holds⟩
      · exact List.prefix_append _ _
      · exact (List.append_nil seen).symm
  | cons ifs rest ih =>
      rw [SharedFreqs.walk]
      by_cases full : freqs.idx = len
      · rw [if_pos full]
        exact ⟨seen, ⟨List.prefix_append _ _, early, .inr (holds.idx.symm.trans full)⟩, holds⟩
      · rw [if_neg full, usesOf, List.filterMap_cons, useOf]
        cases connected : operatingFreq ifs with
        | none =>
            have same : freqs.visit flags ifs = freqs := by
              simp only [SharedFreqs.visit, connected]
            rw [same]
            exact ih holds early
        | some found =>
            obtain ⟨ssid, freq⟩ := found
            have later := holds.visit full connected
            have room : (keys seen).length < len := by
              have bound := holds.room
              rw [holds.idx] at full
              omega
            obtain ⟨looked, is_looked, holds'⟩ := ih later (by
              intro before shorter differ
              rcases List.prefix_concat_iff.mp shorter with whole | inside
              · exact absurd whole differ
              · exact Nat.lt_of_le_of_lt (keys_isPrefix inside).length_le room)
            rw [List.append_assoc] at is_looked
            exact ⟨looked, is_looked, holds'⟩

end Walk

/-! ## What is returned -/

/-- The entries that a caller reads, as many as the result says. -/
def returnedFreqs (flags : FreqFlags) (ifaces : List RadioIface) (len : UInt32) :
    List UsedFreqData :=
  let (num, data) := mtkGetSharedRadioFreqsData flags ifaces len
  data.take num.toInt.toNat

def operatingFreqs (ifaces : List RadioIface) : List Int32 := keys (usesOf ifaces)

/-- Whether an infrastructure network uses a frequency in a role. -/
def UsedIn (ifaces : List RadioIface) (freq : Int32) (role : Role) : Prop :=
  (⟨freq, some role⟩ : Use Int32 Role) ∈ usesOf ifaces

instance (ifaces : List RadioIface) (freq : Int32) (role : Role) :
    Decidable (UsedIn ifaces freq role) := by
  unfold UsedIn
  infer_instance

/-- The union of the uses of a frequency. -/
def unionFlags (flags : FreqFlags) (ifaces : List RadioIface) (freq : Int32) : UInt32 :=
  (if UsedIn ifaces freq .infraStation then flags.infraStation else 0) |||
    (if UsedIn ifaces freq .p2pClient then flags.p2pClient else 0)

/-- The frequencies are returned in the order of their first use, as far as there is room for
them; where there is room for all of them, the flags are the unions of the uses, in whatever
order the interfaces come. -/
structure SharedFreqsRight (flags : FreqFlags) (ifaces : List RadioIface) (len : UInt32) :
    Prop where
  freqs : (returnedFreqs flags ifaces len).map UsedFreqData.freq =
    (operatingFreqs ifaces).take len.toNat
  distinct : ((returnedFreqs flags ifaces len).map UsedFreqData.freq).Nodup
  union : (operatingFreqs ifaces).length ≤ len.toNat →
    ∀ entry ∈ returnedFreqs flags ifaces len, entry.flags = unionFlags flags ifaces entry.freq
  order : (operatingFreqs ifaces).length ≤ len.toNat →
    ∀ ifaces' : List RadioIface, ifaces'.Perm ifaces →
      ∀ entry' ∈ returnedFreqs flags ifaces' len, ∀ entry ∈ returnedFreqs flags ifaces len,
        entry'.freq = entry.freq → entry'.flags = entry.flags

/-- No frequency is used in both roles, and where there is room for no more frequencies than
there are, one that an infrastructure network uses is used by no other one. -/
structure UsesAgree (ifaces : List RadioIface) (len : UInt32) : Prop where
  few : ((operatingFreqs ifaces).take len.toNat).length < 2 ^ 31
  one_role : (operatingFreqs ifaces).length ≤ len.toNat →
    ∀ freq, ¬ (UsedIn ifaces freq .infraStation ∧ UsedIn ifaces freq .p2pClient)
  unmixed : (operatingFreqs ifaces).length = len.toNat →
    ∀ use ∈ usesOf ifaces, ∀ use' ∈ usesOf ifaces, use.key = use'.key →
      use.value.isSome = use'.value.isSome

theorem toInt_ofNat_idx {n : Nat} (word : n < 2 ^ 32) :
    (Int32.ofNat n).toInt = if n < 2 ^ 31 then (n : Int) else n - 2 ^ 32 := by
  have bits : (Int32.ofNat n).toInt = (BitVec.ofNat 32 n).toInt := rfl
  rw [bits, BitVec.toInt_eq_toNat_cond, BitVec.toNat_ofNat, Nat.mod_eq_of_lt word]
  split
  · rw [if_pos (by omega)]
  · rw [if_neg (by omega)]
    rfl

section Returned

variable {flags : FreqFlags} {ifaces ifaces' : List RadioIface} {len : UInt32}
  {seen : List (Use Int32 Role)}

theorem walk_holds (flags : FreqFlags) (ifaces : List RadioIface) (len : UInt32) :
    ∃ seen, Looked len.toNat (usesOf ifaces) seen ∧
      (SharedFreqs.walk flags len.toNat ifaces ⟨List.replicate len.toNat ⟨0, 0⟩, 0⟩).Holds flags
        len.toNat seen := by
  have empty : SharedFreqs.Holds ⟨List.replicate len.toNat ⟨0, 0⟩, 0⟩ flags len.toNat [] :=
    ⟨rfl, rfl, Nat.zero_le _⟩
  exact empty.walk ifaces fun before shorter differ =>
    absurd (List.prefix_nil.mp shorter) differ

theorem result_eq (flags : FreqFlags) (ifaces : List RadioIface) (len : UInt32) :
    (mtkGetSharedRadioFreqsData flags ifaces len).1 =
      Int32.ofNat ((operatingFreqs ifaces).take len.toNat).length := by
  obtain ⟨seen, looked, holds⟩ := walk_holds flags ifaces len
  rw [mtkGetSharedRadioFreqsData, holds.idx, looked.keys_eq, operatingFreqs]

/-- What a caller gets is the table of what the walk looks at. -/
theorem exists_looked (flags : FreqFlags) (ifaces : List RadioIface) (len : UInt32) :
    ∃ seen, Looked len.toNat (usesOf ifaces) seen ∧
      returnedFreqs flags ifaces len =
        if (keys seen).length < 2 ^ 31 then (keys seen).map (entryOf flags seen) else [] := by
  obtain ⟨seen, looked, holds⟩ := walk_holds flags ifaces len
  refine ⟨seen, looked, ?_⟩
  have word : (keys seen).length < 2 ^ 32 := Nat.lt_of_le_of_lt looked.length_le len.toNat_lt
  rw [returnedFreqs, mtkGetSharedRadioFreqsData]
  dsimp only
  rw [holds.idx, holds.data, toInt_ofNat_idx word]
  split
  · rw [Int.toNat_natCast, List.take_left' (List.length_map _)]
  · have negative : ((keys seen).length - 2 ^ 32 : Int).toNat = 0 := by omega
    rw [negative, List.take_zero]

theorem returnedFreqs_eq (few : ((operatingFreqs ifaces).take len.toNat).length < 2 ^ 31)
    (looked : Looked len.toNat (usesOf ifaces) seen) :
    returnedFreqs flags ifaces len = (keys seen).map (entryOf flags seen) := by
  obtain ⟨seen', looked', returned⟩ := exists_looked flags ifaces len
  obtain rfl := looked.unique looked'
  rw [operatingFreqs, ← looked.keys_eq] at few
  rw [returned, if_pos few]

theorem map_freq_entryOf (flags : FreqFlags) (seen : List (Use Int32 Role)) (freqs : List Int32) :
    (freqs.map (entryOf flags seen)).map UsedFreqData.freq = freqs := by
  rw [List.map_map]
  exact List.map_id freqs

/-- The frequencies come as they should, unless they are so many that their number does not
fit the result. -/
theorem freqs_returned_iff :
    (returnedFreqs flags ifaces len).map UsedFreqData.freq =
        (operatingFreqs ifaces).take len.toNat ↔
      ((operatingFreqs ifaces).take len.toNat).length < 2 ^ 31 := by
  obtain ⟨seen, looked, returned⟩ := exists_looked flags ifaces len
  rw [returned, operatingFreqs, ← looked.keys_eq]
  split
  · next few => exact iff_of_true (map_freq_entryOf flags seen _) few
  · next many =>
    refine iff_of_false (fun nothing => many ?_) many
    rw [← nothing]
    decide

/-! ## Unions -/

theorem FreqFlags.ofRole_ne_zero (flags : FreqFlags) (role : Role) : flags.ofRole role ≠ 0 := by
  cases role
  · exact flags.station_ne
  · exact flags.client_ne

theorem or_and_right (a b : UInt32) : (a ||| b) &&& b = b := by
  apply UInt32.toBitVec_inj.mp
  rw [UInt32.toBitVec_and, UInt32.toBitVec_or]
  ext i inside
  rw [BitVec.getElem_and, BitVec.getElem_or]
  cases b.toBitVec[i] <;> simp

theorem FreqFlags.or_ne_ofRole (flags : FreqFlags) (role : Role) :
    flags.infraStation ||| flags.p2pClient ≠ flags.ofRole role := by
  intro same
  have apart := flags.apart
  cases role with
  | infraStation =>
      have inside := or_and_right flags.infraStation flags.p2pClient
      rw [same] at inside
      exact flags.client_ne (inside.symm.trans apart)
  | p2pClient =>
      have inside := or_and_right flags.p2pClient flags.infraStation
      rw [UInt32.or_comm, same] at inside
      exact flags.station_ne (inside.symm.trans ((UInt32.and_comm _ _).trans apart))

theorem unionFlags_of_unused {freq : Int32} (unused : ∀ role, ¬ UsedIn ifaces freq role) :
    unionFlags flags ifaces freq = 0 := by
  rw [unionFlags, if_neg (unused _), if_neg (unused _)]
  rfl

theorem unionFlags_of_both {freq : Int32}
    (both : UsedIn ifaces freq .infraStation ∧ UsedIn ifaces freq .p2pClient) :
    unionFlags flags ifaces freq = flags.infraStation ||| flags.p2pClient := by
  rw [unionFlags, if_pos both.1, if_pos both.2]

theorem unionFlags_of_one {freq : Int32} {role : Role} (used : UsedIn ifaces freq role)
    (one : ¬ (UsedIn ifaces freq .infraStation ∧ UsedIn ifaces freq .p2pClient)) :
    unionFlags flags ifaces freq = flags.ofRole role := by
  cases role with
  | infraStation =>
      rw [unionFlags, if_pos used, if_neg fun other => one ⟨used, other⟩, UInt32.or_zero]
      rfl
  | p2pClient =>
      rw [unionFlags, if_pos used, if_neg fun other => one ⟨other, used⟩, UInt32.zero_or]
      rfl

theorem unionFlags_ne_zero {freq : Int32} {role : Role} (used : UsedIn ifaces freq role) :
    unionFlags flags ifaces freq ≠ 0 := by
  by_cases both : UsedIn ifaces freq .infraStation ∧ UsedIn ifaces freq .p2pClient
  · rw [unionFlags_of_both both]
    exact fun nothing => flags.station_ne (UInt32.or_eq_zero_iff.mp nothing).1
  · rw [unionFlags_of_one used both]
    exact flags.ofRole_ne_zero role

theorem usedIn_perm (perm : ifaces'.Perm ifaces) (freq : Int32) (role : Role) :
    UsedIn ifaces' freq role ↔ UsedIn ifaces freq role :=
  (perm.filterMap useOf).mem_iff

theorem unionFlags_perm (perm : ifaces'.Perm ifaces) (freq : Int32) :
    unionFlags flags ifaces' freq = unionFlags flags ifaces freq := by
  simp only [unionFlags, usedIn_perm perm]

theorem length_operatingFreqs_perm (perm : ifaces'.Perm ifaces) :
    (operatingFreqs ifaces').length = (operatingFreqs ifaces).length :=
  (keys_perm (perm.filterMap useOf)).length_eq

theorem UsesAgree.perm (agree : UsesAgree ifaces len) (perm : ifaces'.Perm ifaces) :
    UsesAgree ifaces' len := by
  have same := length_operatingFreqs_perm perm
  have mem : ∀ use, use ∈ usesOf ifaces' ↔ use ∈ usesOf ifaces := fun use =>
    (perm.filterMap useOf).mem_iff
  refine ⟨?_, ?_, ?_⟩
  · rw [List.length_take, same, ← List.length_take]
    exact agree.few
  · intro enough freq
    rw [usedIn_perm perm, usedIn_perm perm]
    exact agree.one_role (same ▸ enough) freq
  · intro full use here use' here'
    exact agree.unmixed (same ▸ full) use ((mem use).mp here) use' ((mem use').mp here')

/-- Where the uses agree, the flags of an entry are the union of the uses. -/
theorem UsesAgree.flags_eq (agree : UsesAgree ifaces len)
    (enough : (operatingFreqs ifaces).length ≤ len.toNat)
    (looked : Looked len.toNat (usesOf ifaces) seen) {freq : Int32} (here : freq ∈ keys seen) :
    (entryOf flags seen freq).flags = unionFlags flags ifaces freq := by
  cases found : latest seen freq with
  | some role =>
      have used : UsedIn ifaces freq role := looked.part.subset (mem_of_latest found)
      rw [entryOf, found, unionFlags_of_one used (agree.one_role enough freq)]
      rfl
  | none =>
      rw [entryOf, found, unionFlags_of_unused]
      · rfl
      · intro role used
        have unset := latest_eq_none_iff.mp found
        rcases Nat.lt_or_eq_of_le enough with room | full
        · rw [looked.eq_of_lt room] at unset
          exact absurd (unset _ used rfl) (Option.some_ne_none role)
        · obtain ⟨use, inSeen, same⟩ := mem_keys.mp here
          have mixed := agree.unmixed full use (looked.part.subset inSeen) _ used same
          rw [unset use inSeen same] at mixed
          cases mixed

/-- Where an infrastructure network shares its frequency with another one, the interfaces may
come in an order in which the walk never sees it. -/
theorem exists_unseen {use : Use Int32 Role} (here : use ∈ usesOf ifaces)
    (unset : use.value = none) :
    ∃ ifaces', ifaces'.Perm ifaces ∧ ∃ seen,
      Looked (operatingFreqs ifaces).length (usesOf ifaces') seen ∧ use.key ∈ keys seen ∧
        latest seen use.key = none := by
  let isUse : RadioIface → Bool := fun ifs => (useOf ifs).any fun other => other.key = use.key
  obtain ⟨ifs, inIfaces, isUsed⟩ := List.mem_filterMap.mp here
  have picked : ifs ∈ ifaces.filter isUse :=
    List.mem_filter.mpr ⟨inIfaces, by simp [isUse, isUsed]⟩
  obtain ⟨front, back, split⟩ := List.append_of_mem picked
  let others := ifaces.filter (!isUse ·)
  have perm : (others ++ ifs :: (front ++ back)).Perm ifaces := by
    have first : (others ++ ifaces.filter isUse).Perm ifaces :=
      List.perm_append_comm.trans (List.filter_append_perm isUse ifaces)
    rw [split] at first
    exact (List.Perm.append_left others List.perm_middle.symm).trans first
  have uses : usesOf (others ++ ifs :: (front ++ back)) =
      usesOf others ++ use :: usesOf (front ++ back) := by
    rw [usesOf, List.filterMap_append, List.filterMap_cons, isUsed]
    rfl
  have fresh : ∀ other ∈ usesOf others, other.key ≠ use.key := by
    intro other inOthers same
    obtain ⟨ifs', inIfaces', isUsed'⟩ := List.mem_filterMap.mp inOthers
    have unpicked := (List.mem_filter.mp inIfaces').2
    simp [isUse, isUsed', same] at unpicked
  have only : ∀ other ∈ usesOf (front ++ back), other.key = use.key := by
    intro other inRest
    obtain ⟨ifs', inIfaces', isUsed'⟩ := List.mem_filterMap.mp inRest
    have inPicked : ifs' ∈ ifaces.filter isUse := by
      rw [split]
      exact List.perm_middle.mem_iff.mpr (List.mem_cons_of_mem _ inIfaces')
    have picked' := (List.mem_filter.mp inPicked).2
    simpa [isUse, isUsed'] using picked'
  have looked := Looked.of_last
    (fun inKeys => by
      obtain ⟨other, inOthers, same⟩ := mem_keys.mp inKeys
      exact fresh other inOthers same) only
  refine ⟨_, perm, usesOf others ++ [use], ?_, ?_, ?_⟩
  · rw [← length_operatingFreqs_perm perm, operatingFreqs, uses]
    exact looked
  · exact mem_keys.mpr ⟨use, List.mem_append_right _ (List.mem_singleton_self use), rfl⟩
  · refine latest_eq_none_iff.mpr fun other inSeen same => ?_
    rcases List.mem_append.mp inSeen with inOthers | last
    · exact absurd same (fresh other inOthers)
    · rw [List.mem_singleton.mp last]
      exact unset

theorem mem_returnedFreqs (few : ((operatingFreqs ifaces).take len.toNat).length < 2 ^ 31)
    (looked : Looked len.toNat (usesOf ifaces) seen) {entry : UsedFreqData} :
    entry ∈ returnedFreqs flags ifaces len ↔
      ∃ freq ∈ keys seen, entryOf flags seen freq = entry := by
  rw [returnedFreqs_eq few looked, List.mem_map]

theorem UsesAgree.union (agree : UsesAgree ifaces len)
    (enough : (operatingFreqs ifaces).length ≤ len.toNat) {entry : UsedFreqData}
    (here : entry ∈ returnedFreqs flags ifaces len) :
    entry.flags = unionFlags flags ifaces entry.freq := by
  obtain ⟨seen, looked, -⟩ := exists_looked flags ifaces len
  obtain ⟨freq, inKeys, rfl⟩ := (mem_returnedFreqs agree.few looked).mp here
  exact agree.flags_eq enough looked inKeys

/-- With room for all, each frequency has its entry. -/
theorem entryOf_mem_returnedFreqs
    (few : ((operatingFreqs ifaces).take len.toNat).length < 2 ^ 31)
    (looked : Looked len.toNat (usesOf ifaces) seen)
    (enough : (operatingFreqs ifaces).length ≤ len.toNat) {use : Use Int32 Role}
    (here : use ∈ usesOf ifaces) :
    entryOf flags seen use.key ∈ returnedFreqs flags ifaces len := by
  refine (mem_returnedFreqs few looked).mpr ⟨use.key, ?_, rfl⟩
  have all : keys seen = keys (usesOf ifaces) :=
    looked.keys_eq.trans (List.take_of_length_le enough)
  rw [all]
  exact mem_keys.mpr ⟨use, here, rfl⟩

section Right

variable (right : SharedFreqsRight flags ifaces len)
include right

theorem SharedFreqsRight.few : ((operatingFreqs ifaces).take len.toNat).length < 2 ^ 31 :=
  freqs_returned_iff.mp right.freqs

theorem SharedFreqsRight.one_role (enough : (operatingFreqs ifaces).length ≤ len.toNat)
    (freq : Int32) : ¬ (UsedIn ifaces freq .infraStation ∧ UsedIn ifaces freq .p2pClient) := by
  intro both
  obtain ⟨seen, looked, -⟩ := exists_looked flags ifaces len
  have union : (latest seen freq).elim 0 flags.ofRole = unionFlags flags ifaces freq :=
    right.union enough _ (entryOf_mem_returnedFreqs right.few looked enough both.1)
  rw [unionFlags_of_both both] at union
  cases found : latest seen freq with
  | none =>
      rw [found] at union
      exact flags.station_ne (UInt32.or_eq_zero_iff.mp union.symm).1
  | some role =>
      rw [found] at union
      exact flags.or_ne_ofRole role union.symm

/-- With room for no more frequencies than there are, an infrastructure network must not share
its frequency with another one. -/
theorem SharedFreqsRight.unset (full : (operatingFreqs ifaces).length = len.toNat)
    {use use' : Use Int32 Role} (here : use ∈ usesOf ifaces) (here' : use' ∈ usesOf ifaces)
    (same : use.key = use'.key) (unset : use'.value = none) : use.value = none := by
  cases set : use.value with
  | none => rfl
  | some role =>
      obtain ⟨seen, looked, -⟩ := exists_looked flags ifaces len
      obtain ⟨ifaces', perm, seen', looked', inKeys, unseen⟩ := exists_unseen here' unset
      rw [full] at looked'
      have few' : ((operatingFreqs ifaces').take len.toNat).length < 2 ^ 31 := by
        rw [List.length_take, length_operatingFreqs_perm perm, ← List.length_take]
        exact right.few
      have entry' : entryOf flags seen' use'.key ∈ returnedFreqs flags ifaces' len :=
        (mem_returnedFreqs few' looked').mpr ⟨use'.key, inKeys, rfl⟩
      have entry : entryOf flags seen use'.key ∈ returnedFreqs flags ifaces len :=
        entryOf_mem_returnedFreqs right.few looked (Nat.le_of_eq full) here'
      have lost : (latest seen' use'.key).elim 0 flags.ofRole = _ :=
        right.order (Nat.le_of_eq full) ifaces' perm _ entry' _ entry rfl
      rw [unseen, right.union (Nat.le_of_eq full) _ entry] at lost
      have used : UsedIn ifaces use'.key role := by
        rw [UsedIn, ← same, ← set]
        exact here
      exact absurd lost.symm (unionFlags_ne_zero used)

theorem SharedFreqsRight.agree : UsesAgree ifaces len := by
  refine ⟨right.few, right.one_role, fun full use here use' here' same => ?_⟩
  cases set : use.value with
  | none => rw [right.unset full here' here same.symm set]
  | some role =>
      cases set' : use'.value with
      | none => exact absurd (right.unset full here here' same set') (by rw [set]; simp)
      | some role' => rfl

end Right

/-- The frequencies and their flags are right exactly if the uses agree. -/
theorem shared_freqs_right_iff (flags : FreqFlags) (ifaces : List RadioIface) (len : UInt32) :
    SharedFreqsRight flags ifaces len ↔ UsesAgree ifaces len := by
  refine ⟨SharedFreqsRight.agree, fun agree => ?_⟩
  have freqs := (@freqs_returned_iff flags ifaces len).mpr agree.few
  refine ⟨freqs, ?_, fun enough entry => agree.union enough, ?_⟩
  · rw [freqs]
    exact (nodup_keys _).sublist (List.take_sublist _ _)
  · intro enough ifaces' perm entry' here' entry here same
    have enough' : (operatingFreqs ifaces').length ≤ len.toNat := by
      rw [length_operatingFreqs_perm perm]
      exact enough
    rw [(agree.perm perm).union enough' here', agree.union enough here, same,
      unionFlags_perm perm]

end Returned

def FreqFlags.bits : FreqFlags := ⟨1, 2, by decide, by decide, by decide⟩

def stationAndClient : List RadioIface :=
  [⟨some ⟨.infra, 0, false⟩, 2412, 0⟩, ⟨some ⟨.infra, 0, true⟩, 2412, 0⟩]

/-- The later of the two takes the flag of the other away. -/
theorem shared_freqs_not_right : ¬ ∀ flags ifaces len, SharedFreqsRight flags ifaces len := by
  intro all
  exact (all .bits stationAndClient 2).one_role (by decide) 2412 (by decide)

/-- The first connected interface decides what a caller with room for one frequency gets. -/
theorem mtkGetSharedRadioFreqs_one (flags : FreqFlags) (ifaces : List RadioIface) :
    mtkGetSharedRadioFreqs flags ifaces 1 true =
      match operatingFreqs ifaces with
      | [] => (0, [0])
      | freq :: _ => (1, [freq]) := by
  have room : ((operatingFreqs ifaces).take (1 : UInt32).toNat).length ≤ 1 :=
    List.length_take_le _ _
  have freqs := (@freqs_returned_iff flags ifaces 1).mpr (by omega)
  have stored : mtkGetSharedRadioFreqs flags ifaces 1 true =
      ((mtkGetSharedRadioFreqsData flags ifaces 1).1,
        (returnedFreqs flags ifaces 1).map UsedFreqData.freq ++
          [0].drop ((returnedFreqs flags ifaces 1).map UsedFreqData.freq).length) := rfl
  rw [stored, freqs, result_eq]
  cases operatingFreqs ifaces <;> rfl

end Mt6757.Supplicant
