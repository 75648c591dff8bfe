import Mt6757.Supplicant.DriverCmd
import Mt6757.Supplicant.SharedFreqs

/-!
# The channel of a display sink

`p2p_wfd_sink_config_scc` ties the P2P device to the channel of one frequency, or goes back to
the configured channels.  The frequency is converted by `priv_p2p_freq_to_channel`.
-/

set_option autoImplicit false

namespace Mt6757.Supplicant

structure OperChannel where
  regClass : UInt8
  channel : UInt8
  deriving DecidableEq, Repr

/-- `priv_p2p_freq_to_channel`; no subtraction is below zero behind its test. -/
def privP2pFreqToChannel (freq : Nat) : Option OperChannel :=
  if 2412 ≤ freq ∧ freq ≤ 2472 then
    if (freq - 2407) % 5 ≠ 0 then none
    else some ⟨81, UInt8.ofNat ((freq - 2407) / 5)⟩
  else if freq = 2484 then some ⟨82, 14⟩
  else if 5180 ≤ freq ∧ freq ≤ 5240 then
    if (freq - 5000) % 5 ≠ 0 then none
    else some ⟨115, UInt8.ofNat ((freq - 5000) / 5)⟩
  else if 5260 ≤ freq ∧ freq ≤ 5320 then some ⟨118, UInt8.ofNat ((freq - 5000) / 5)⟩
  else if 5500 ≤ freq ∧ freq ≤ 5700 then some ⟨121, UInt8.ofNat ((freq - 5000) / 5)⟩
  else if 5745 ≤ freq ∧ freq ≤ 5805 then
    if (freq - 5000) % 5 ≠ 0 then none
    else some ⟨124, UInt8.ofNat ((freq - 5000) / 5)⟩
  else if 5825 ≤ freq ∧ freq ≤ 5845 then some ⟨125, UInt8.ofNat ((freq - 5000) / 5)⟩
  else none

/-- `struct p2p_reg_class`, with room for `maxChannels + 1` channels. -/
structure RegClass (maxChannels : Nat) where
  regClass : UInt8
  channel : Vector UInt8 (maxChannels + 1)
  channels : Nat

/-- `struct p2p_channels`, with room for `maxClasses + 1` classes. -/
structure P2pChannels (maxClasses maxChannels : Nat) where
  regClass : Vector (RegClass maxChannels) (maxClasses + 1)
  regClasses : Nat

/-- What `p2p_wfd_sink_config_scc` reads and writes of `struct p2p_data`; `cfgChannels` and
`cfgOpChannel` are members of its `cfg`. -/
structure P2pOperation (maxClasses maxChannels : Nat) where
  opRegClass : UInt8
  opChannel : UInt8
  channels : P2pChannels maxClasses maxChannels
  cfgChannels : P2pChannels maxClasses maxChannels
  cfgOpChannel : Bool

/-- The operating channel in the configuration of the supplicant. -/
structure OperConf where
  p2pOperRegClass : Int32
  p2pOperChannel : Int32

section Config

variable {maxClasses maxChannels : Nat}

def P2pChannels.setOnly (channels : P2pChannels maxClasses maxChannels) (oper : OperChannel) :
    P2pChannels maxClasses maxChannels where
  regClasses := 1
  regClass := channels.regClass.set 0
    { channels := 1
      regClass := oper.regClass
      channel := channels.regClass[0].channel.set 0 oper.channel }

def P2pOperation.configScc (p2p : P2pOperation maxClasses maxChannels) (operFreq : UInt32) :
    P2pOperation maxClasses maxChannels :=
  -- the error of the conversion is dropped, and both variables are still zero then
  let oper := (privP2pFreqToChannel operFreq.toNat).getD ⟨0, 0⟩
  { p2p with
    opChannel := oper.channel
    opRegClass := oper.regClass
    channels := p2p.channels.setOnly oper }

/-- The configured channel, or a social channel by chance, and all configured channels. -/
def P2pOperation.configMcc (p2p : P2pOperation maxClasses maxChannels) (conf : OperConf)
    (r : UInt32) : P2pOperation maxClasses maxChannels :=
  if conf.p2pOperRegClass ≠ 0 ∧ conf.p2pOperChannel ≠ 0 then
    { p2p with
      opRegClass := conf.p2pOperRegClass.toUInt32.toUInt8
      opChannel := conf.p2pOperChannel.toUInt32.toUInt8
      cfgOpChannel := true
      channels := p2p.cfgChannels }
  else
    { p2p with
      opRegClass := 81
      opChannel := (1 + r % 3 * 5).toUInt8
      cfgOpChannel := false
      channels := p2p.cfgChannels }

/-- `p2p_wfd_sink_config_scc`, whose result is always 0; `r` is what `os_get_random` gives. -/
def p2pWfdSinkConfigScc (conf : OperConf) (r : UInt32)
    (p2p : Option (P2pOperation maxClasses maxChannels)) (scc : Int32) (operFreq : UInt32) :
    Option (P2pOperation maxClasses maxChannels) :=
  match p2p with
  | none => none
  | some p2p =>
      if scc ≠ 0 ∧ operFreq ≠ 0 then some (p2p.configScc operFreq)
      else some (p2p.configMcc conf r)

end Config

/-! ## Centre frequencies -/

/-- The classes whose channels are numbered from 5000 MHz on, each with the range of numbers
that the conversion gives. -/
def NumberedFrom5000 (regClass : UInt8) (ch : Nat) : Prop :=
  regClass = 115 ∧ 36 ≤ ch ∧ ch ≤ 48 ∨ regClass = 118 ∧ 52 ≤ ch ∧ ch ≤ 64 ∨
    regClass = 121 ∧ 100 ≤ ch ∧ ch ≤ 140 ∨ regClass = 124 ∧ 149 ≤ ch ∧ ch ≤ 161 ∨
    regClass = 125 ∧ 149 ≤ ch ∧ ch ≤ 169

instance (regClass : UInt8) (ch : Nat) : Decidable (NumberedFrom5000 regClass ch) := by
  unfold NumberedFrom5000
  infer_instance

/-- The centre frequency of a channel of a class. -/
def centreFreq (oper : OperChannel) : Option Nat :=
  let ch := oper.channel.toNat
  if oper.regClass = 81 ∧ 1 ≤ ch ∧ ch ≤ 13 then some (2407 + 5 * ch)
  else if oper.regClass = 82 ∧ ch = 14 then some 2484
  else if NumberedFrom5000 oper.regClass ch then some (5000 + 5 * ch)
  else none

def IsCentre (freq : Nat) : Prop := ∃ oper, centreFreq oper = some freq

def OnRaster (freq : Nat) : Prop :=
  2412 ≤ freq ∧ freq ≤ 2472 ∧ (freq - 2407) % 5 = 0 ∨ freq = 2484 ∨
    freq % 5 = 0 ∧ (5180 ≤ freq ∧ freq ≤ 5240 ∨ 5260 ≤ freq ∧ freq ≤ 5320 ∨
      5500 ≤ freq ∧ freq ≤ 5700 ∨ 5745 ≤ freq ∧ freq ≤ 5805 ∨ 5825 ≤ freq ∧ freq ≤ 5845)

instance (freq : Nat) : Decidable (OnRaster freq) := by
  unfold OnRaster
  infer_instance

/-- What a frequency off the raster is taken for: in three of the bands the channel below
it. -/
def takenFor (freq : Nat) : OperChannel :=
  if 5260 ≤ freq ∧ freq ≤ 5320 then ⟨118, UInt8.ofNat ((freq - 5000) / 5)⟩
  else if 5500 ≤ freq ∧ freq ≤ 5700 then ⟨121, UInt8.ofNat ((freq - 5000) / 5)⟩
  else if 5825 ≤ freq ∧ freq ≤ 5845 then ⟨125, UInt8.ofNat ((freq - 5000) / 5)⟩
  else ⟨0, 0⟩

section Frequencies

variable {freq : Nat}

theorem toNat_channel {n : Nat} (small : n < 256) : (UInt8.ofNat n).toNat = n := by
  rw [UInt8.toNat_ofNat', Nat.mod_eq_of_lt small]

theorem toNat_channel_of_band (low : 5180 ≤ freq) (high : freq ≤ 5845) :
    (UInt8.ofNat ((freq - 5000) / 5)).toNat = (freq - 5000) / 5 := by
  have small : (freq - 5000) / 5 < 256 := by omega
  exact toNat_channel small

theorem centreFreq_of_numbered {regClass channel : UInt8} {ch : Nat}
    (number : channel.toNat = ch) (numbered : NumberedFrom5000 regClass ch) :
    centreFreq ⟨regClass, channel⟩ = some (5000 + 5 * ch) := by
  subst number
  have not81 : ¬ (regClass = 81 ∧ 1 ≤ channel.toNat ∧ channel.toNat ≤ 13) := by
    unfold NumberedFrom5000 at numbered
    omega
  have not82 : ¬ (regClass = 82 ∧ channel.toNat = 14) := by
    unfold NumberedFrom5000 at numbered
    omega
  rw [centreFreq, if_neg not81, if_neg not82, if_pos numbered]

theorem privP2pFreqToChannel_of_onRaster (raster : OnRaster freq) :
    ∃ oper, privP2pFreqToChannel freq = some oper ∧ centreFreq oper = some freq := by
  unfold OnRaster at raster
  obtain ⟨low, high, step⟩ | rfl | ⟨step, band⟩ := raster
  · refine ⟨⟨81, UInt8.ofNat ((freq - 2407) / 5)⟩, ?_, ?_⟩
    · rw [privP2pFreqToChannel, if_pos ⟨low, high⟩, if_neg (by omega)]
    · have small : (freq - 2407) / 5 < 256 := by omega
      simp only [centreFreq, toNat_channel small]
      rw [if_pos ⟨trivial, by omega, by omega⟩, Option.some.injEq]
      omega
  · exact ⟨⟨82, 14⟩, by decide, by decide⟩
  · -- the five bands from 5000 on differ in their class, and in how many tests come before
    have number : (UInt8.ofNat ((freq - 5000) / 5)).toNat = (freq - 5000) / 5 :=
      toNat_channel_of_band (by omega) (by omega)
    have centre : 5000 + 5 * ((freq - 5000) / 5) = freq := by omega
    have named (regClass : UInt8)
        (converted : privP2pFreqToChannel freq =
          some ⟨regClass, UInt8.ofNat ((freq - 5000) / 5)⟩)
        (numbered : NumberedFrom5000 regClass ((freq - 5000) / 5)) :
        ∃ oper, privP2pFreqToChannel freq = some oper ∧ centreFreq oper = some freq := by
      refine ⟨_, converted, ?_⟩
      rw [centreFreq_of_numbered number numbered, centre]
    obtain ⟨low, high⟩ | ⟨low, high⟩ | ⟨low, high⟩ | ⟨low, high⟩ | ⟨low, high⟩ := band
    · refine named 115 ?_ (.inl ⟨rfl, by omega, by omega⟩)
      rw [privP2pFreqToChannel, if_neg (by omega), if_neg (by omega), if_pos ⟨low, high⟩,
        if_neg (by omega)]
    · refine named 118 ?_ (.inr (.inl ⟨rfl, by omega, by omega⟩))
      rw [privP2pFreqToChannel, if_neg (by omega), if_neg (by omega), if_neg (by omega),
        if_pos ⟨low, high⟩]
    · refine named 121 ?_ (.inr (.inr (.inl ⟨rfl, by omega, by omega⟩)))
      rw [privP2pFreqToChannel, if_neg (by omega), if_neg (by omega), if_neg (by omega),
        if_neg (by omega), if_pos ⟨low, high⟩]
    · refine named 124 ?_ (.inr (.inr (.inr (.inl ⟨rfl, by omega, by omega⟩))))
      rw [privP2pFreqToChannel, if_neg (by omega), if_neg (by omega), if_neg (by omega),
        if_neg (by omega), if_neg (by omega), if_pos ⟨low, high⟩, if_neg (by omega)]
    · refine named 125 ?_ (.inr (.inr (.inr (.inr ⟨rfl, by omega, by omega⟩))))
      rw [privP2pFreqToChannel, if_neg (by omega), if_neg (by omega), if_neg (by omega),
        if_neg (by omega), if_neg (by omega), if_neg (by omega), if_pos ⟨low, high⟩]

theorem privP2pFreqToChannel_of_not_onRaster (off : ¬ OnRaster freq) :
    (privP2pFreqToChannel freq).getD ⟨0, 0⟩ = takenFor freq := by
  unfold OnRaster at off
  unfold privP2pFreqToChannel takenFor
  split_ifs <;> first | rfl | omega

theorem raster_of_centreFreq {oper : OperChannel} (centre : centreFreq oper = some freq) :
    freq = 2484 ∨ 2412 ≤ freq ∧ freq ≤ 2472 ∧ freq % 5 = 2 ∨ 5180 ≤ freq ∧ freq % 5 = 0 := by
  unfold centreFreq at centre
  dsimp only at centre
  split_ifs at centre with low fourteen numbered
  · have is := Option.some.inj centre
    omega
  · exact .inl (Option.some.inj centre).symm
  · have is := Option.some.inj centre
    unfold NumberedFrom5000 at numbered
    omega

/-- Off the raster, the channel written is not one of the frequency. -/
theorem centreFreq_takenFor (off : ¬ OnRaster freq) : centreFreq (takenFor freq) ≠ some freq := by
  intro centre
  have raster := raster_of_centreFreq centre
  unfold OnRaster at off
  unfold takenFor at centre
  split_ifs at centre
  · omega
  · omega
  · omega
  · have none : centreFreq ⟨0, 0⟩ = none := by decide
    rw [none] at centre
    cases centre

theorem not_isCentre_zero : ¬ IsCentre 0 := by
  rintro ⟨oper, centre⟩
  have raster := raster_of_centreFreq centre
  omega

end Frequencies

/-! ## What the P2P device is left with -/

section Sink

variable {maxClasses maxChannels : Nat} {conf : OperConf} {r : UInt32}
  {before after p2p : P2pOperation maxClasses maxChannels} {oper : OperChannel}

structure P2pChannels.Only (channels : P2pChannels maxClasses maxChannels) (oper : OperChannel) :
    Prop where
  regClasses : channels.regClasses = 1
  count : channels.regClass[0].channels = 1
  regClass : channels.regClass[0].regClass = oper.regClass
  channel : channels.regClass[0].channel[0] = oper.channel

structure Follows (after : P2pOperation maxClasses maxChannels) (freq : Nat) : Prop where
  operating : centreFreq ⟨after.opRegClass, after.opChannel⟩ = some freq
  listed : ∃ oper, after.channels.Only oper ∧ centreFreq oper = some freq

structure Kept (before after : P2pOperation maxClasses maxChannels) : Prop where
  opRegClass : after.opRegClass = before.opRegClass
  opChannel : after.opChannel = before.opChannel
  channels : after.channels = before.channels

/-- The device follows the frequency, or that is no channel's and nothing changes. -/
def SccRight (conf : OperConf) (r : UInt32) (p2p : P2pOperation maxClasses maxChannels)
    (scc : Int32) (freq : UInt32) : Prop :=
  ∃ after, p2pWfdSinkConfigScc conf r (some p2p) scc freq = some after ∧
    (Follows after freq.toNat ∨ ¬ IsCentre freq.toNat ∧ Kept p2p after)

def NothingToChange (conf : OperConf) (r : UInt32) (p2p : P2pOperation maxClasses maxChannels)
    (freq : UInt32) : Prop :=
  if freq = 0 then
    -- the branch of several channels
    p2p.channels = p2p.cfgChannels ∧
      if conf.p2pOperRegClass ≠ 0 ∧ conf.p2pOperChannel ≠ 0 then
        p2p.opRegClass = conf.p2pOperRegClass.toUInt32.toUInt8 ∧
          p2p.opChannel = conf.p2pOperChannel.toUInt32.toUInt8
      else p2p.opRegClass = 81 ∧ p2p.opChannel = (1 + r % 3 * 5).toUInt8
  else
    p2p.opRegClass = (takenFor freq.toNat).regClass ∧
      p2p.opChannel = (takenFor freq.toNat).channel ∧ p2p.channels.Only (takenFor freq.toNat)

theorem P2pChannels.only_setOnly (channels : P2pChannels maxClasses maxChannels)
    (oper : OperChannel) : (channels.setOnly oper).Only oper where
  regClasses := rfl
  count := by simp [setOnly]
  regClass := by simp [setOnly]
  channel := by simp [setOnly]

theorem RegClass.eq_of_fields {entry : RegClass maxChannels} (count : entry.channels = 1)
    (regClass : entry.regClass = oper.regClass) (channel : entry.channel[0] = oper.channel) :
    { channels := 1, regClass := oper.regClass, channel := entry.channel.set 0 oper.channel } =
      entry := by
  cases entry with
  | mk entryClass list channels =>
      rw [← channel, Vector.set_getElem_self, ← regClass, ← count]

theorem P2pChannels.setOnly_eq_iff {channels : P2pChannels maxClasses maxChannels} :
    channels.setOnly oper = channels ↔ channels.Only oper := by
  constructor
  · intro same
    have only := channels.only_setOnly oper
    rwa [same] at only
  · intro only
    have entry := RegClass.eq_of_fields only.count only.regClass only.channel
    rw [setOnly, entry, Vector.set_getElem_self, ← only.regClasses]

theorem kept_configScc_iff {freq : UInt32} (off : ¬ OnRaster freq.toNat) (nonzero : freq ≠ 0) :
    Kept p2p (p2p.configScc freq) ↔ NothingToChange conf r p2p freq := by
  rw [NothingToChange, if_neg nonzero, P2pOperation.configScc,
    privP2pFreqToChannel_of_not_onRaster off]
  constructor
  · rintro ⟨opRegClass, opChannel, channels⟩
    exact ⟨opRegClass.symm, opChannel.symm, P2pChannels.setOnly_eq_iff.mp channels⟩
  · rintro ⟨opRegClass, opChannel, only⟩
    exact ⟨opRegClass.symm, opChannel.symm, P2pChannels.setOnly_eq_iff.mpr only⟩

theorem kept_configMcc_iff : Kept p2p (p2p.configMcc conf r) ↔ NothingToChange conf r p2p 0 := by
  rw [NothingToChange, if_pos rfl, P2pOperation.configMcc]
  split
  all_goals
    constructor
    · rintro ⟨opRegClass, opChannel, channels⟩
      exact ⟨channels.symm, opRegClass.symm, opChannel.symm⟩
    · rintro ⟨channels, opRegClass, opChannel⟩
      exact ⟨opRegClass.symm, opChannel.symm, channels.symm⟩

theorem follows_configScc {freq : UInt32} (raster : OnRaster freq.toNat) :
    Follows (p2p.configScc freq) freq.toNat := by
  obtain ⟨oper, converted, centre⟩ := privP2pFreqToChannel_of_onRaster raster
  rw [P2pOperation.configScc, converted, Option.getD_some]
  exact ⟨centre, oper, P2pChannels.only_setOnly _ _, centre⟩

theorem not_follows_configScc {freq : UInt32} (off : ¬ OnRaster freq.toNat) :
    ¬ Follows (p2p.configScc freq) freq.toNat := by
  intro follows
  have operating := follows.operating
  rw [P2pOperation.configScc, privP2pFreqToChannel_of_not_onRaster off] at operating
  exact centreFreq_takenFor off operating

/-- The request is carried out as it should exactly for a frequency on the raster, or if it
writes what stands there. -/
theorem scc_right_iff (conf : OperConf) (r : UInt32) (p2p : P2pOperation maxClasses maxChannels)
    (scc : Int32) (freq : UInt32) (enabled : scc ≠ 0) :
    SccRight conf r p2p scc freq ↔
      OnRaster freq.toNat ∨ ¬ IsCentre freq.toNat ∧ NothingToChange conf r p2p freq := by
  by_cases zero : freq = 0
  · subst zero
    have mcc : p2pWfdSinkConfigScc conf r (some p2p) scc 0 = some (p2p.configMcc conf r) :=
      if_neg fun both => both.2 rfl
    have off : ¬ OnRaster (0 : UInt32).toNat := by decide
    -- a frequency of zero goes back to several channels, although `scc` is set
    constructor
    · rintro ⟨after, done, follows | ⟨noCentre, kept⟩⟩
      · exact absurd ⟨_, follows.operating⟩ not_isCentre_zero
      · obtain rfl := Option.some.inj (mcc.symm.trans done)
        exact .inr ⟨noCentre, kept_configMcc_iff.mp kept⟩
    · rintro (raster | ⟨noCentre, nothing⟩)
      · exact absurd raster off
      · exact ⟨_, mcc, .inr ⟨noCentre, kept_configMcc_iff.mpr nothing⟩⟩
  · have set : p2pWfdSinkConfigScc conf r (some p2p) scc freq = some (p2p.configScc freq) :=
      if_pos ⟨enabled, zero⟩
    by_cases raster : OnRaster freq.toNat
    · exact ⟨fun _ => .inl raster, fun _ => ⟨_, set, .inl (follows_configScc raster)⟩⟩
    · constructor
      · rintro ⟨after, done, right⟩
        obtain rfl := Option.some.inj (set.symm.trans done)
        obtain ⟨noCentre, kept⟩ := right.resolve_left (not_follows_configScc raster)
        exact .inr ⟨noCentre, (kept_configScc_iff raster zero).mp kept⟩
      · rintro (onRaster | ⟨noCentre, nothing⟩)
        · exact absurd onRaster raster
        · exact ⟨_, set, .inr ⟨noCentre, (kept_configScc_iff raster zero).mpr nothing⟩⟩

end Sink

def onChannel11 : P2pOperation 9 19 :=
  let channels : P2pChannels 9 19 := ⟨.replicate 10 ⟨81, .replicate 20 11, 1⟩, 1⟩
  ⟨81, 11, channels, channels, false⟩

theorem scc_right_2437 : SccRight ⟨0, 0⟩ 0 onChannel11 1 2437 :=
  (scc_right_iff ⟨0, 0⟩ 0 onChannel11 1 2437 (by decide)).mpr (.inl (by decide))

/-- The frequency 5262 is taken for channel 52. -/
theorem scc_not_right :
    ¬ ∀ (maxClasses maxChannels : Nat) (conf : OperConf) (r : UInt32)
        (p2p : P2pOperation maxClasses maxChannels) (scc : Int32) (freq : UInt32),
      scc ≠ 0 → SccRight conf r p2p scc freq := by
  intro all
  obtain ⟨after, done, right⟩ := all 9 19 ⟨0, 0⟩ 0 onChannel11 1 5262 (by decide)
  obtain rfl : onChannel11.configScc 5262 = after := Option.some.inj done
  obtain follows | ⟨-, kept⟩ := right
  · exact not_follows_configScc (by decide) follows
  · have same : (118 : UInt8) = 81 := kept.opRegClass
    exact absurd same (by decide)

/-! ## The requests of a run -/

def Effect.sinkRequest : Effect → Option (Bool × UInt32)
  | .configScc scc freq => some (scc, freq)
  | _ => none

def lastRequest (trace : List Effect) : Option (Bool × UInt32) :=
  (trace.filterMap Effect.sinkRequest).getLast?

section Runs

variable {maxClasses maxChannels : Nat} {conf : OperConf}
  {p2p after : P2pOperation maxClasses maxChannels} {trace : List Effect}

/-- The requests of a trace are carried out in their order; each may draw another number. -/
inductive SinkRun (conf : OperConf) (p2p : P2pOperation maxClasses maxChannels) :
    List Effect → P2pOperation maxClasses maxChannels → Prop
  | start : SinkRun conf p2p [] p2p
  | request {trace mid after effect scc freq} (r : UInt32) (run : SinkRun conf p2p trace mid)
      (asked : Effect.sinkRequest effect = some (scc, freq))
      (done : p2pWfdSinkConfigScc conf r (some mid) (if scc then 1 else 0) freq = some after) :
      SinkRun conf p2p (trace ++ [effect]) after
  | other {trace mid effect} (run : SinkRun conf p2p trace mid)
      (asked : Effect.sinkRequest effect = none) : SinkRun conf p2p (trace ++ [effect]) mid

def InForce (p2p after : P2pOperation maxClasses maxChannels) : Option (Bool × UInt32) → Prop
  | none => after = p2p
  | some (scc, freq) =>
      if scc ∧ freq ≠ 0 then Follows after freq.toNat else after.channels = p2p.cfgChannels

theorem inForce_some {scc : Bool} {freq : UInt32} :
    InForce p2p after (some (scc, freq)) ↔
      if scc ∧ freq ≠ 0 then Follows after freq.toNat else after.channels = p2p.cfgChannels :=
  .rfl

theorem lastRequest_append_some {effect : Effect} {request : Bool × UInt32}
    (asked : effect.sinkRequest = some request) :
    lastRequest (trace ++ [effect]) = some request := by
  rw [lastRequest, List.filterMap_append, List.filterMap_cons_some asked, List.filterMap_nil,
    List.getLast?_concat]

theorem lastRequest_append_none {effect : Effect} (asked : effect.sinkRequest = none) :
    lastRequest (trace ++ [effect]) = lastRequest trace := by
  rw [lastRequest, List.filterMap_append, List.filterMap_cons_none asked, List.filterMap_nil,
    List.append_nil, lastRequest]

theorem sink_step {mid : P2pOperation maxClasses maxChannels} {r freq : UInt32} {scc : Bool}
    (done : p2pWfdSinkConfigScc conf r (some mid) (if scc then 1 else 0) freq = some after) :
    after.cfgChannels = mid.cfgChannels ∧
      ((scc → freq = 0 ∨ OnRaster freq.toNat) → InForce mid after (some (scc, freq))) := by
  unfold p2pWfdSinkConfigScc at done
  have enabled : (if scc then 1 else 0 : Int32) ≠ 0 ↔ scc := by
    cases scc <;> decide
  simp only [enabled] at done
  rw [inForce_some]
  split at done
  case isTrue follow =>
      obtain rfl := Option.some.inj done
      refine ⟨rfl, fun known => ?_⟩
      rw [if_pos follow]
      exact follows_configScc ((known follow.1).resolve_left follow.2)
  case isFalse several =>
      obtain rfl := Option.some.inj done
      rw [if_neg several]
      unfold P2pOperation.configMcc
      split
      · exact ⟨rfl, fun _ => rfl⟩
      · exact ⟨rfl, fun _ => rfl⟩

theorem SinkRun.cfgChannels (run : SinkRun conf p2p trace after) :
    after.cfgChannels = p2p.cfgChannels := by
  induction run with
  | start => rfl
  | request r run asked done ih => exact (sink_step done).1.trans ih
  | other run asked ih => exact ih

/-- After every run whose last request is for a frequency on the raster, or for none, the device
is where this request puts it. -/
theorem SinkRun.inForce (run : SinkRun conf p2p trace after)
    (known : ∀ freq, lastRequest trace = some (true, freq) → freq = 0 ∨ OnRaster freq.toNat) :
    InForce p2p after (lastRequest trace) := by
  induction run with
  | start => rfl
  | @request trace mid after effect scc freq r run asked done ih =>
      rw [lastRequest_append_some asked] at known ⊢
      have here : InForce mid after (some (scc, freq)) := by
        refine (sink_step done).2 fun set => known freq ?_
        rw [set]
      rwa [inForce_some, run.cfgChannels] at here
  | other run asked ih =>
      rw [lastRequest_append_none asked] at known ⊢
      exact ih known

end Runs

/-! ## The frequency of a connected interface -/

def sharedAnswer (flags : FreqFlags) (ifaces : List RadioIface) : Int × UInt32 :=
  let (num, freqs) := mtkGetSharedRadioFreqs flags ifaces 1 true
  (num.toInt, (freqs.headD 0).toUInt32)

def sharedRequest (positive : UInt32 → Bool) (ifaces : List RadioIface) : Effect :=
  match operatingFreqs ifaces with
  | [] => .configScc false 0
  | freq :: _ =>
      if positive freq.toUInt32 then .configScc true freq.toUInt32 else .configScc false 0

theorem sharedAnswer_eq (flags : FreqFlags) (ifaces : List RadioIface) :
    sharedAnswer flags ifaces =
      match operatingFreqs ifaces with
      | [] => (0, 0)
      | freq :: _ => (1, freq.toUInt32) := by
  rw [sharedAnswer, mtkGetSharedRadioFreqs_one]
  cases operatingFreqs ifaces <;> rfl

theorem run_configSharedFreq_shared {env : Env} {state : DriverState} {flags : FreqFlags}
    {ifaces : List RadioIface} (positive : UInt32 → Bool)
    (answers : env.sharedRadioFreqs state.trace = sharedAnswer flags ifaces) :
    configSharedFreq env positive state =
      .ok ((), { state with trace := state.trace ++ [sharedRequest positive ifaces] }) := by
  rw [sharedAnswer_eq] at answers
  simp only [configSharedFreq, run_bind, run_get, except_bind_ok, answers, sharedRequest]
  cases operatingFreqs ifaces with
  | nil => rfl
  | cons freq rest =>
      by_cases set : positive freq.toUInt32
      · simp [set]
      · simp [set]

/-- Where the first connected interface has a frequency on the raster, the device follows it. -/
theorem follows_first_connected {maxClasses maxChannels : Nat} {conf : OperConf}
    {p2p after : P2pOperation maxClasses maxChannels} {trace : List Effect}
    {positive : UInt32 → Bool} {ifaces : List RadioIface} {freq : Int32} {rest : List Int32}
    (first : operatingFreqs ifaces = freq :: rest) (set : positive freq.toUInt32)
    (raster : OnRaster freq.toUInt32.toNat)
    (run : SinkRun conf p2p (trace ++ [sharedRequest positive ifaces]) after) :
    Follows after freq.toUInt32.toNat := by
  have asked : (sharedRequest positive ifaces).sinkRequest = some (true, freq.toUInt32) := by
    rw [sharedRequest, first]
    simp only [if_pos set, Effect.sinkRequest]
  have last : lastRequest (trace ++ [sharedRequest positive ifaces]) = _ :=
    lastRequest_append_some asked
  have inForce := run.inForce fun other same => by
    rw [last] at same
    obtain rfl := congrArg Prod.snd (Option.some.inj same)
    exact .inr raster
  have nonzero : freq.toUInt32 ≠ 0 := by
    intro zero
    rw [zero] at raster
    exact absurd raster (by decide)
  rwa [last, inForce_some, if_pos ⟨rfl, nonzero⟩] at inForce

end Mt6757.Supplicant
