import Mathlib.Data.List.Induction
import Mathlib.Data.Nat.Bitwise
import Mt6757.Supplicant.ApInterface
import Mt6757.Supplicant.CommandFrame
import Mt6757.Supplicant.Passthrough
import Mt6757.Supplicant.StaHandler

/-!
# The choice of a channel

The command "MTK-ACS" asks the driver which channels of 2.4 GHz are free, up to six times, until
a report has the mark of a finished scan, and takes the lowest channel of that report.  A report
is an attribute of a message that answers the request.
-/

set_option autoImplicit false

namespace Mt6757.Supplicant

open CString (ascii)

/-! ## The report -/

/-- `struct wpa_driver_available_chan_s`. -/
structure AvailableChans where
  ch2gBase1 : UInt32
  ch5gBase36 : UInt32
  ch5gBase52 : UInt32
  ch5gBase100 : UInt32
  ch5gBase149 : UInt32
  deriving DecidableEq, Repr

def AvailableChans.zero : AvailableChans := ⟨0, 0, 0, 0, 0⟩

inductive ChanAttr where
  | base2g1
  | base5g36
  | base5g52
  | base5g100
  | base5g149
  deriving DecidableEq, Repr

def ChanAttr.number (attr : ChanAttr) : Nat := attr.ctorIdx + 1

def ChanAttr.max : Nat := 5

def ChanAttr.policy (type : Nat) : Nat := if 1 ≤ type ∧ type ≤ ChanAttr.max then 4 else 0

/-- `tb_chan`, unless the handler leaves before it looks. -/
def chanInfo (msg : Octets) : Option (Nat → Option Nat) := do
  let attrlen : Int := msg.word 0 4 - genlHeaders
  let testdata ← Netlink.table msg genlHeaders attrlen attrTestdata
  Netlink.parse msg (Netlink.data testdata) (Netlink.payloadLen msg testdata) ChanAttr.max
    ChanAttr.policy

def chanOr (msg : Octets) (tb : Nat → Option Nat) (attr : ChanAttr) (old : UInt32) : UInt32 :=
  match tb attr.number with
  | none => old
  | some nla => Netlink.getU32 msg nla

/-- `testmode_available_channel_handler`, whose result is always `NL_SKIP`. -/
def testmodeAvailableChannelHandler (chans : AvailableChans) (msg : Octets) : AvailableChans :=
  match chanInfo msg with
  | none => chans
  | some tb =>
      { ch2gBase1 := chanOr msg tb .base2g1 chans.ch2gBase1
        ch5gBase36 := chanOr msg tb .base5g36 chans.ch5gBase36
        ch5gBase52 := chanOr msg tb .base5g52 chans.ch5gBase52
        ch5gBase100 := chanOr msg tb .base5g100 chans.ch5gBase100
        ch5gBase149 := chanOr msg tb .base5g149 chans.ch5gBase149 }

/-- The handler stores the same with any netlink library. -/
theorem testmodeAvailableChannelHandler_reader (reader : Netlink.Reader) {attrMax : Nat}
    (known : attrTestdata ≤ attrMax) (chans : AvailableChans) (msg : Octets) :
    testmodeAvailableChannelHandler chans msg =
      match testdataTable reader attrMax ChanAttr.max ChanAttr.policy msg with
      | none => chans
      | some tb =>
          ⟨chanOr msg tb .base2g1 chans.ch2gBase1, chanOr msg tb .base5g36 chans.ch5gBase36,
            chanOr msg tb .base5g52 chans.ch5gBase52, chanOr msg tb .base5g100 chans.ch5gBase100,
            chanOr msg tb .base5g149 chans.ch5gBase149⟩ := by
  rw [testmodeAvailableChannelHandler]
  rcases testdataTable_agrees reader known msg with ⟨refused, plain⟩ | ⟨tb, found, tb', plain, same⟩
  · rw [refused, show chanInfo msg = none from plain]
  · have stored (attr : ChanAttr) (old : UInt32) :
        chanOr msg tb' attr old = chanOr msg tb attr old := by
      have known : attr.number ≤ ChanAttr.max := by cases attr <;> decide
      rw [chanOr, chanOr, same _ known]
    rw [found, show chanInfo msg = some tb' from plain]
    simp only [stored]

/-- A driver that answers the request with messages, or no message for the request. -/
abbrev ChanDriver := List Effect → Option (Int × List Octets)

/-- The answers as the command sees them: its record is cleared before each request. -/
def ChanDriver.answer (driver : ChanDriver) (trace : List Effect) : TestmodeAnswer :=
  match driver trace with
  | none => .noMessage
  | some (ret, messages) =>
      .answered ret (messages.foldl testmodeAvailableChannelHandler .zero).ch2gBase1

def Env.hearing (env : Env) (driver : ChanDriver) : Env := { env with testmode := driver.answer }

/-! ## What is reported -/

def chanReport (msg : Octets) : Option UInt32 :=
  (chanInfo msg).bind fun tb => (tb ChanAttr.base2g1.number).map (Netlink.getU32 msg)

/-- The last report among the answers to a request, or none of the channels. -/
def ChanDriver.reported (driver : ChanDriver) (trace : List Effect) : UInt32 :=
  match driver trace with
  | none => 0
  | some (_, messages) => (messages.reverse.findSome? chanReport).getD 0

/-- `BIT(31)`: the driver has finished its scan. -/
def Finished (channels : UInt32) : Prop := channels.toNat.testBit 31 = true

def Free (channels : UInt32) (i : Nat) : Prop := channels.toNat.testBit i = true

/-- The lowest of the channels from 1 to 14 that are free, or zero where none is. -/
def IsLowest (channels : UInt32) (ch : UInt8) : Prop :=
  (ch = 0 ∧ ∀ i < 14, ¬ Free channels i) ∨
    ∃ i < 14, ch.toNat = i + 1 ∧ Free channels i ∧ ∀ j < i, ¬ Free channels j

section Report

theorem handler_ch2gBase1 (chans : AvailableChans) (msg : Octets) :
    (testmodeAvailableChannelHandler chans msg).ch2gBase1 =
      (chanReport msg).getD chans.ch2gBase1 := by
  rw [testmodeAvailableChannelHandler, chanReport]
  cases chanInfo msg with
  | none => rfl
  | some tb =>
      dsimp only [Option.bind_some]
      rw [chanOr]
      cases tb ChanAttr.base2g1.number with
      | none => rfl
      | some nla => rfl

theorem foldl_handler (messages : List Octets) (chans : AvailableChans) :
    (messages.foldl testmodeAvailableChannelHandler chans).ch2gBase1 =
      (messages.reverse.findSome? chanReport).getD chans.ch2gBase1 := by
  induction messages using List.reverseRecOn with
  | nil => rfl
  | append_singleton messages msg ih =>
      rw [List.foldl_append, List.foldl_cons, List.foldl_nil, handler_ch2gBase1, ih,
        List.reverse_append, List.reverse_singleton, List.singleton_append, List.findSome?_cons]
      cases chanReport msg with
      | none => rfl
      | some channels => rfl

theorem answer_ch2gBase1 (driver : ChanDriver) (trace : List Effect) :
    (driver.answer trace).ch2gBase1 = driver.reported trace := by
  rw [ChanDriver.answer, ChanDriver.reported]
  cases driver trace with
  | none => rfl
  | some answer => exact foldl_handler answer.2 .zero

end Report

/-! ## The lowest free channel -/

section Lowest
variable {channels : UInt32} {i : Nat}

theorem toNat_bit (small : i < 32) : ((1 : UInt32) <<< UInt32.ofNat i).toNat = 2 ^ i := by
  have shift : (UInt32.ofNat i).toNat % 32 = i := by
    rw [UInt32.toNat_ofNat']
    omega
  have fits : 2 ^ i < 2 ^ 32 := Nat.pow_lt_pow_right (by decide) small
  rw [UInt32.toNat_shiftLeft, shift]
  simp only [UInt32.reduceToNat, Nat.one_shiftLeft]
  exact Nat.mod_eq_of_lt fits

theorem and_bit_ne_zero (small : i < 32) :
    channels &&& (1 : UInt32) <<< UInt32.ofNat i ≠ 0 ↔ channels.toNat.testBit i = true := by
  rw [ne_eq, ← UInt32.toNat_inj, UInt32.toNat_and, toNat_bit small, Nat.and_two_pow]
  cases channels.toNat.testBit i <;> simp

theorem isLowest_head (channels : UInt32) :
    IsLowest channels (UInt8.ofNat (((((List.range 14).filter fun i =>
      channels &&& (1 : UInt32) <<< UInt32.ofNat i ≠ 0)).map (· + 1)).headD 0)) := by
  rw [List.headD_eq_head?_getD, List.head?_map, List.head?_filter]
  cases found : (List.range 14).find? fun i =>
      decide (channels &&& (1 : UInt32) <<< UInt32.ofNat i ≠ 0) with
  | none =>
      refine .inl ⟨rfl, fun i few free => ?_⟩
      have taken := List.find?_eq_none.mp found i (List.mem_range.mpr few)
      exact taken (decide_eq_true ((and_bit_ne_zero (by omega)).mpr free))
  | some i =>
      obtain ⟨free, few, below⟩ := List.find?_range_eq_some.mp found
      have few := List.mem_range.mp few
      have number : (UInt8.ofNat (i + 1)).toNat = i + 1 := by
        rw [UInt8.toNat_ofNat']
        omega
      refine .inr ⟨i, few, number, (and_bit_ne_zero (by omega)).mp (of_decide_eq_true free), ?_⟩
      intro j lower free'
      have taken := below j lower
      rw [decide_eq_true ((and_bit_ne_zero (by omega)).mpr free')] at taken
      cases taken

end Lowest

/-! ## The requests -/

def chanRequest (config : Config) : Effect :=
  .testmode .priv (.of 0x30 (8 + config.longBits / 8) .availableChannel)

def asked (config : Config) (trace : List Effect) (n : Nat) : List Effect :=
  trace ++ List.replicate n (chanRequest config)

/-- After some requests the first finished report gives the channel, or none was finished. -/
structure Chosen (report : Nat → UInt32) (polls requests : Nat) (ch : UInt8) : Prop where
  earlier : ∀ n, n + 1 < requests → ¬ Finished (report n)
  outcome : (∃ last, requests = last + 1 ∧ last < polls ∧ Finished (report last) ∧
      IsLowest (report last) ch) ∨
    (requests = polls ∧ ch = 0 ∧ ∀ n < polls, ¬ Finished (report n))

section Requests
variable {config : Config} {env : Env} {polls requests : Nat} {ch : UInt8}

theorem asked_succ (trace : List Effect) (n : Nat) :
    asked config (trace ++ [chanRequest config]) n = asked config trace (n + 1) := by
  rw [asked, asked, List.append_assoc, List.replicate_succ, List.singleton_append]

theorem Chosen.succ {report : Nat → UInt32} (unfinished : ¬ Finished (report 0))
    (chosen : Chosen (fun n => report (n + 1)) polls requests ch) :
    Chosen report (polls + 1) (requests + 1) ch where
  earlier := fun n before => by
    cases n with
    | zero => exact unfinished
    | succ n => exact chosen.earlier n (by omega)
  outcome := by
    rcases chosen.outcome with ⟨last, count, few, finished, lowest⟩ | ⟨count, none, never⟩
    · exact .inl ⟨last + 1, by omega, by omega, finished, lowest⟩
    · refine .inr ⟨by omega, none, fun n before => ?_⟩
      cases n with
      | zero => exact unfinished
      | succ n => exact never n (by omega)

theorem run_doMtkAcs (polls : Nat) (state : DriverState) :
    ∃ requests ch, doMtkAcs config env polls state =
        .ok (ch, { state with trace := asked config state.trace requests }) ∧
      Chosen (fun n => (env.testmode (asked config state.trace n)).ch2gBase1) polls requests ch := by
  induction polls generalizing state with
  | zero =>
      refine ⟨0, 0, ?_, ⟨fun n before => absurd before (by omega), .inr ⟨rfl, rfl, ?_⟩⟩⟩
      · rw [asked, List.replicate_zero, List.append_nil]
        rfl
      · exact fun n before => absurd before (Nat.not_lt_zero n)
  | succ polls ih =>
      have first : asked config state.trace 0 = state.trace := List.append_nil _
      have mark : (env.testmode state.trace).ch2gBase1 &&& (1 : UInt32) <<< 31 ≠ 0 ↔
          Finished (env.testmode state.trace).ch2gBase1 := and_bit_ne_zero (i := 31) (by decide)
      rw [doMtkAcs, run_bind, lteAvailableChannels, run_perform, except_bind_ok]
      dsimp only
      by_cases finished : Finished (env.testmode state.trace).ch2gBase1
      · rw [if_pos (mark.mpr finished)]
        refine ⟨1, _, rfl, ⟨fun n before => absurd before (by omega), .inl ⟨0, rfl, by omega, ?_⟩⟩⟩
        rw [first]
        exact ⟨finished, isLowest_head _⟩
      · rw [if_neg fun set => finished (mark.mp set)]
        obtain ⟨requests, ch, ran, chosen⟩ :=
          ih { state with trace := state.trace ++ [chanRequest config] }
        simp only [asked_succ] at ran chosen
        refine ⟨requests + 1, ch, ran, chosen.succ ?_⟩
        rw [first]
        exact finished

end Requests

/-! ## The command -/

section Command
variable {config : Config} {bss : Bss} {drv : DrvData} {wpaS : Option WpaSupplicant}
  {state : DriverState} {s : CString}

theorem branchOf_mtkAcs (coex : config.lteCoex = true) (begins : ascii "MTK-ACS" <+: s) :
    branchOf config s = .mtkAcs := by
  obtain ⟨rest, rfl⟩ := begins
  have split : chain config =
      (commonTests ++ if config.hotspotMgr then hotspotTests else []) ++
        (.strncmp "MTK-ACS" 7, .mtkAcs) ::
          ((if config.wapi then wapiTests else []) ++
            (if config.wfdSink then wfdSinkTests else []) ++
            (if config.p2pSigma then p2pSigmaTests else []) ++ lastTests) := by
    simp [chain, optionTests, coex, lteCoexTests]
  refine branchOf_eq split ?_ rest rfl
  rw [List.all_append, Bool.and_eq_true]
  refine ⟨by decide, ?_⟩
  split
  · decide
  · rfl

/-- The command asks at most six times and stops at the first finished report, whose lowest free
channel it puts into the reply buffer; without a finished report it is zero. -/
theorem driverCmd_mtkAcs (env : Env) (driver : ChanDriver) (cmd buf : CharPtr) (bufLen : Nat)
    (set : bss.Dispatches drv wpaS) (coex : config.lteCoex = true)
    (begins : ascii "MTK-ACS" <+: state.mem.string cmd) :
    ∃ requests ch, driverCmd config (env.hearing driver) bss cmd buf bufLen state =
        .ok (1, { state with
          mem := state.mem.write buf [ch], trace := asked config state.trace requests }) ∧
      Chosen (fun n => driver.reported (asked config state.trace n)) 6 requests ch := by
  obtain ⟨requests, ch, ran, chosen⟩ := @run_doMtkAcs config (env.hearing driver) 6 state
  have heard : ∀ trace, ((env.hearing driver).testmode trace).ch2gBase1 = driver.reported trace :=
    answer_ch2gBase1 driver
  simp only [heard] at chosen
  refine ⟨requests, ch, ?_, chosen⟩
  rw [driverCmd_dispatched set, branchOf_mtkAcs coex begins]
  simp only [body, run_bind, ran, except_bind_ok, run_onMemory]
  rfl

end Command

def finishedMessage : Octets :=
  .ofList (leBytes 4 32 ++ List.replicate 16 0 ++ leBytes 2 12 ++ leBytes 2 69 ++
    leBytes 2 8 ++ leBytes 2 1 ++ leBytes 4 0x80000420)

def slowDriver : ChanDriver := fun trace => some (0, if trace = [] then [] else [finishedMessage])

theorem driverCmd_mtkAcs_slow :
    ∃ requests ch, driverCmd .full (Env.obliging.hearing slowDriver) stationBss ⟨0, 0⟩ ⟨1, 0⟩ 64
        (stateOf "MTK-ACS") =
        .ok (1, { stateOf "MTK-ACS" with
          mem := (stateOf "MTK-ACS").mem.write ⟨1, 0⟩ [ch], trace := asked .full [] requests }) ∧
      Chosen (fun n => slowDriver.reported (asked .full [] n)) 6 requests ch ∧
      chanReport finishedMessage = some 0x80000420 := by
  obtain ⟨drv, wpaS, set⟩ := stationBss_dispatches
  have begins : ascii "MTK-ACS" <+: (stateOf "MTK-ACS").mem.string ⟨0, 0⟩ := by decide
  obtain ⟨requests, ch, ran, chosen⟩ :=
    @driverCmd_mtkAcs .full stationBss drv wpaS (stateOf "MTK-ACS") Env.obliging slowDriver
      ⟨0, 0⟩ ⟨1, 0⟩ 64 set rfl begins
  exact ⟨requests, ch, ran, chosen, by decide +kernel⟩

end Mt6757.Supplicant
