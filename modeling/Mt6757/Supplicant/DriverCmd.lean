import Mt6757.Supplicant.Driver
import Mt6757.Supplicant.Tokenize

/-!
# The command dispatcher

`wpa_driver_nl80211_driver_cmd`: the tests of its `else if` chain in their order,
the body behind each of them, and the private command that some bodies fall through
to.  The two typed P2P entry points print a command and send it the same way.
-/

set_option autoImplicit false

namespace Mt6757.Supplicant

open CString (ascii)

/-! ## The chain -/

inductive Branch where
  | powermode
  | getStaStatistics
  | macaddr
  | country
  | start
  | stop
  | getpower
  | rxfilterAdd
  | rxfilterRemove
  | rxfilterStop
  | rxfilterStart
  | btcoexscanStart
  | btcoexscanStop
  | btcoexmode
  | staBlock
  | staUnblock
  | setMaxClient
  | mtkAcs
  | setWapiKey
  | wapiMsgSend
  | p2pGetCap
  | p2pSetCap
  | miracast
  | p2pUseMcc
  | wfdDataUpdate
  | mcc
  | p2pSetOpps
  | p2pSetPowerSave
  | p2pSetSleepOf
  | p2pSetSleep
  | sigmaMode
  | p2pSetNoa
  | p2pSetPs
  | setsuspendmode
  | rxPacketFilter
  | transparent
  deriving DecidableEq, Repr

/-- The comparisons of the chain: `os_strncmp`, `os_strncasecmp` and `os_strcasecmp`. -/
inductive Test where
  | strncmp (text : String) (n : Nat)
  | strncasecmp (text : String) (n : Nat)
  | strcasecmp (text : String)

def Test.holds (cmd : CString) : Test → Bool
  | .strncmp text n => CString.strncmp n cmd (ascii text) == 0
  | .strncasecmp text n => CString.strncasecmp n cmd (ascii text) == 0
  | .strcasecmp text => CString.strcasecmp cmd (ascii text) == 0

def commonTests : List (Test × Branch) :=
  [(.strncasecmp "POWERMODE " 10, .powermode),
    (.strncasecmp "GET_STA_STATISTICS " 19, .getStaStatistics),
    (.strncmp "MACADDR" 7, .macaddr),
    (.strncasecmp "COUNTRY" 7, .country),
    (.strcasecmp "start", .start),
    (.strcasecmp "stop", .stop),
    (.strncasecmp "getpower" 8, .getpower),
    (.strncasecmp "rxfilter-add" 12, .rxfilterAdd),
    (.strncasecmp "rxfilter-remove" 15, .rxfilterRemove),
    (.strncasecmp "rxfilter-stop" 13, .rxfilterStop),
    (.strncasecmp "rxfilter-start" 14, .rxfilterStart),
    (.strcasecmp "btcoexscan-start", .btcoexscanStart),
    (.strcasecmp "btcoexscan-stop", .btcoexscanStop),
    (.strncasecmp "btcoexmode" 10, .btcoexmode)]

def hotspotTests : List (Test × Branch) :=
  [(.strncmp "STA-BLOCK " 10, .staBlock),
    (.strncmp "STA-UNBLOCK " 12, .staUnblock),
    (.strncasecmp "set_max_client " 15, .setMaxClient)]

def lteCoexTests : List (Test × Branch) := [(.strncmp "MTK-ACS" 7, .mtkAcs)]

def wapiTests : List (Test × Branch) :=
  [(.strncasecmp "set-wapi-key" 12, .setWapiKey),
    (.strncasecmp "wapi-msg-send" 13, .wapiMsgSend)]

def wfdSinkTests : List (Test × Branch) :=
  [(.strncmp "p2p_get_cap " 12, .p2pGetCap),
    (.strncmp "p2p_set_cap " 12, .p2pSetCap),
    (.strncmp "MIRACAST " 9, .miracast),
    (.strncasecmp "p2p_use_mcc=" 12, .p2pUseMcc),
    (.strncmp "wfd_data_update" 15, .wfdDataUpdate)]

def p2pSigmaTests : List (Test × Branch) :=
  [(.strncasecmp "mcc" 3, .mcc),
    (.strncmp "p2p_set_opps " 13, .p2pSetOpps),
    (.strncmp "p2p_set_power_save " 19, .p2pSetPowerSave),
    (.strncmp "p2p_set_sleep " 14, .p2pSetSleepOf),
    (.strncmp "p2p_set_sleep" 13, .p2pSetSleep),
    (.strncasecmp "sigma_mode" 10, .sigmaMode)]

def lastTests : List (Test × Branch) :=
  [(.strncmp "P2P_SET_NOA" 11, .p2pSetNoa),
    (.strncmp "P2P_SET_PS" 10, .p2pSetPs),
    (.strncasecmp "SETSUSPENDMODE " 15, .setsuspendmode),
    (.strncasecmp "mtk_rx_packet_filter " 21, .rxPacketFilter)]

/-- The tests up to the last option, in source order; some are compiled in on an
option only. -/
def optionTests (config : Config) : List (Test × Branch) :=
  commonTests ++ (if config.hotspotMgr then hotspotTests else []) ++
    (if config.lteCoex then lteCoexTests else []) ++ (if config.wapi then wapiTests else []) ++
    (if config.wfdSink then wfdSinkTests else []) ++
    (if config.p2pSigma then p2pSigmaTests else [])

def chain (config : Config) : List (Test × Branch) := optionTests config ++ lastTests

def branchOf (config : Config) (cmd : CString) : Branch :=
  match (chain config).find? fun link => link.1.holds cmd with
  | some link => link.2
  | none => .transparent

/-! ### Commands with a known start -/

def Test.refuses (known : CString) : Test → Bool
  | .strncmp text n => CString.differ n known (ascii text)
  | .strncasecmp text n =>
      CString.differ n (known.map CString.toLower) ((ascii text).map CString.toLower)
  | .strcasecmp text =>
      CString.differ (ascii text).length (known.map CString.toLower)
        ((ascii text).map CString.toLower)

theorem Test.not_holds {known : CString} {test : Test} (refuses : test.refuses known = true)
    (rest : CString) : test.holds (known ++ rest) = false := by
  cases test with
  | strncmp text n => simpa [holds] using CString.strncmp_ne_zero refuses (Nat.le_refl n) rest
  | strncasecmp text n =>
      simpa [holds, CString.strncasecmp] using
        CString.strncmp_ne_zero refuses (Nat.le_refl n) (rest.map CString.toLower)
  | strcasecmp text =>
      have long : (ascii text).length ≤ max ((known ++ rest).map CString.toLower).length
          ((ascii text).map CString.toLower).length :=
        Nat.le_trans (by simp) (Nat.le_max_right _ _)
      simpa [holds, CString.strcasecmp, CString.strcmp] using
        CString.strncmp_ne_zero refuses long (rest.map CString.toLower)

theorem branchOf_eq {config : Config} {known : CString} {before after : List (Test × Branch)}
    {link : Test × Branch} (split : chain config = before ++ link :: after)
    (refused : before.all (fun link => link.1.refuses known) = true) (rest : CString)
    (holds : link.1.holds (known ++ rest) = true) :
    branchOf config (known ++ rest) = link.2 := by
  have earlier : before.find? (fun link => link.1.holds (known ++ rest)) = none := by
    rw [List.find?_eq_none]
    intro link here
    simp [Test.not_holds (List.all_eq_true.mp refused link here) rest]
  simp [branchOf, split, List.find?_append, earlier, holds]

theorem branchOf_of_refused {config : Config} {known : CString}
    (refused : (chain config).all (fun link => link.1.refuses known) = true) (rest : CString) :
    branchOf config (known ++ rest) = .transparent := by
  have none : (chain config).find? (fun link => link.1.holds (known ++ rest)) = none := by
    rw [List.find?_eq_none]
    intro link here
    simp [Test.not_holds (List.all_eq_true.mp refused link here) rest]
  rw [branchOf, none]

theorem optionTests_refuse {known : CString} {config : Config}
    (refused : (optionTests ⟨true, true, true, true, true, 32, by decide, 0, 0⟩).all
      (fun link => link.1.refuses known) = true) :
    (optionTests config).all (fun link => link.1.refuses known) = true := by
  simp only [optionTests, List.all_append, Bool.and_eq_true, if_true] at refused ⊢
  obtain ⟨⟨⟨⟨⟨first, hotspot⟩, coex⟩, wapi⟩, sink⟩, sigma⟩ := refused
  refine ⟨⟨⟨⟨⟨first, ?_⟩, ?_⟩, ?_⟩, ?_⟩, ?_⟩
  · split
    · exact hotspot
    · rfl
  · split
    · exact coex
    · rfl
  · split
    · exact wapi
    · rfl
  · split
    · exact sink
    · rfl
  · split
    · exact sigma
    · rfl

/-! ## P2P helpers -/

def p2pSigmaTestMode (env : Env) (index : UInt32) (value : Int32) : Cmd Int :=
  testmode env .drvPriv (.of 1 16 (.p2pSigma index value.toUInt32))

/-- Overwrites the first blank of the string at a pointer, if there is one, and
returns its index. -/
def splitAtBlank (p : CharPtr) : Cmd (Option Nat) := do
  let s ← readString p
  match CString.strchr s 32 with
  | none => pure none
  | some i =>
      onMemory fun mem => mem.write (p.add i) [0]
      pure (some i)

/-- `p2p_ctrl_iface_set_opps`.  Without a blank in the command the second `strchr`
gets a null pointer. -/
def p2pCtrlIfaceSetOpps (config : Config) (env : Env) (cmd : CharPtr) : Cmd Int := do
  let ctWin := CString.atoi config.longBits (← readString cmd)
  match ← splitAtBlank cmd with
  | none => throw .nullPointer
  | some i =>
      let str := cmd.add (i + 1)
      match env.hwaddrAton (← readString str) with
      | none => pure (-1)
      | some _ =>
          let _ ← splitAtBlank str
          let _ ← p2pSigmaTestMode env 107 ctWin
          pure 0

def p2pCtrlIfaceSetPowerSave (config : Config) (env : Env) (cmd : CString) : Cmd Int := do
  let _ ← p2pSigmaTestMode env 108 (CString.atoi config.longBits cmd)
  pure 0

/-- `p2p_ctrl_iface_set_sleep` on a command in the caller's memory. -/
def p2pCtrlIfaceSetSleep (env : Env) (cmd : CharPtr) : Cmd Int := do
  match env.hwaddrAton (← readString cmd) with
  | none => pure (-1)
  | some _ =>
      let _ ← splitAtBlank cmd
      let _ ← p2pSigmaTestMode env 106 0
      pure 0

/-- `p2p_ctrl_iface_set_sleep` on the literal that `p2p_set_sleep` passes. -/
def p2pCtrlIfaceSetSleepAll (env : Env) : Cmd Int := do
  match env.hwaddrAton (ascii "ff:ff:ff:ff:ff:ff \"\"") with
  | none => pure (-1)
  | some _ =>
      let _ ← p2pSigmaTestMode env 106 0
      pure 0

def tokenize (cmd : CharPtr) : Cmd (List CharPtr) := do
  let s ← readString cmd
  let state ← get
  let (argv, mem) := tokenizeSpace state.mem cmd s.length
  onMemory fun _ => mem
  pure argv

def fourWords (cmd : CharPtr) : Cmd (Option (CString × CString × CString)) := do
  match ← tokenize cmd with
  | [_, first, second, third] =>
      pure (some (← readString first, ← readString second, ← readString third))
  | _ => pure none

def p2pCtrlIfaceSetNoa (config : Config) (env : Env) (cmd : CharPtr) : Cmd Int := do
  match ← fourWords cmd with
  | none => pure (-1)
  | some (count, interval, duration) =>
      testmode env .drvPriv (.of 1 28 (.p2pNoa 4 0
        (CString.atoi config.longBits count).toUInt32
        (CString.atoi config.longBits interval).toUInt32
        (CString.atoi config.longBits duration).toUInt32))

/-- `p2p_ctrl_iface_set_ps`; bit 7 of the value switches opportunistic power save. -/
def p2pCtrlIfaceSetPs (config : Config) (env : Env) (cmd : CharPtr) : Cmd Int := do
  match ← fourWords cmd with
  | none => pure (-1)
  | some (_, oppPs, ctWindow) =>
      let enable := CString.atoi config.longBits oppPs
      let ctw := (CString.atoi config.longBits ctWindow).toUInt32
      testmode env .drvPriv
        (.of 1 16 (.p2pSigma 107 (if enable ≠ 0 then ctw ||| (1 : UInt32) <<< 7 else ctw)))

def p2pGetCapability (p2p : P2pData) (cmd : CString) (buf : CharPtr) (bufLen : Nat) : Cmd Int := do
  if CString.strncmp 12 cmd (ascii "p2p_dev_capa") = 0 then
    snprintf buf bufLen
      (ascii "p2p_dev_capa=" ++ CString.decimal p2p.devCapab.toNat ++ ascii "\n")
  else if CString.strncmp 14 cmd (ascii "p2p_group_capa") = 0 then pure (-1)
  else pure 0

def p2pSetCapability (config : Config) (cmd : CString) : Cmd Int := do
  if CString.strncmp 13 cmd (ascii "p2p_dev_capa ") = 0 then
    emit (.setDevCapab (CString.atoi config.longBits (cmd.drop 13)).toUInt32.toUInt8)
    pure 0
  else if CString.strncmp 15 cmd (ascii "p2p_group_capa ") = 0 then pure (-1)
  else pure 0

/-- Follows the frequency in use, if there is one, and goes back to several channels
otherwise.  The comparison of the frequency is signed or not. -/
def configSharedFreq (env : Env) (positive : UInt32 → Bool) : Cmd Unit := do
  let state ← get
  let (num, freq) := env.sharedRadioFreqs state.trace
  if 0 < num ∧ positive freq then emit (.configScc true freq)
  else emit (.configScc false 0)

/-- `wpas_wfd_data_update`; the header gives the size of another structure than the
one that is sent. -/
def wfdDataUpdate (config : Config) (env : Env) : Cmd Int :=
  testmode env .drvPriv
    { TestmodeRequest.of 2 config.wfdDataSize (.wfdData env.wfdData) with dataLen := 464 }

/-! ## The bodies -/

structure BranchEnd where
  handled : Bool
  ret : Int

def BranchEnd.done (ret : Int) : BranchEnd := ⟨true, ret⟩

/-- The variable `wpa_s`, which is assigned on interfaces other than `ap0`. -/
def readWpaS (wpaS : Option WpaSupplicant) : Cmd WpaSupplicant :=
  match wpaS with
  | some wpaS => pure wpaS
  | none => throw .unassigned

def rxfilterNumber (config : Config) (env : Env) (arg : CString) (offset : UInt32) :
    Cmd BranchEnd := do
  let (idx, used) := CString.strtol config.longBits arg 0
  if used = 0 then pure (.done (-1))
  else
    let _ ← driverSwCmd env true 0x9F000000 (UInt32.ofInt idx + offset)
    pure (.done 0)

def filterWord (config : Config) (cmd : CString) (index : Nat) : UInt32 :=
  UInt32.ofInt (CString.strtol config.longBits ((cmd.drop index).take 8) 16).1

def miracast (config : Config) (env : Env) (wpaS : Option WpaSupplicant) (cmd : CharPtr)
    (s : CString) : Cmd BranchEnd := do
  let value := (CString.atoi config.longBits (s.drop 9)).toUInt32.toUInt8
  if value = 0 ∨ value = 1 then
    let _ ← readWpaS wpaS
    configSharedFreq env (0 < ·)
    pure ⟨false, -1⟩
  else if value = 2 then
    match CString.strstr s (ascii " freq=") with
    | some pos =>
        let freq := (CString.atoi config.longBits (s.drop (pos + 6))).toUInt32
        let _ ← readWpaS wpaS
        emit (.configScc true freq)
        onMemory fun mem => (mem.memset cmd 0 s.length).write cmd (ascii "MIRACAST 2")
        pure ⟨false, -1⟩
    | none =>
        let _ ← readWpaS wpaS
        configSharedFreq env (0 < ·)
        pure ⟨false, -1⟩
  else pure ⟨false, -1⟩

/-- The body of `mcc`.  It returns early where there is no value. -/
def mcc (config : Config) (wpaS : Option WpaSupplicant) (cmd : CharPtr) (s : CString) :
    Cmd BranchEnd := do
  let wpaS ← readWpaS wpaS
  if wpaS.drvPriv then
    match ← splitAtBlank cmd with
    | none => pure (.done (-1))
    | some i =>
        emit (.setConcurrency
          (if CString.atoi config.longBits (s.drop (i + 1)) ≠ 0 then 2 else 0))
        pure (.done 0)
  else pure (.done (-1))

def rxPacketFilter (config : Config) (env : Env) (s : CString) : Cmd BranchEnd := do
  if s.length ≠ 71 then pure (.done (-1))
  else
    let word := filterWord config s
    let ret ← testmode env .priv
      (.of 103 32 (.rxFilter (word 21) (word 29) (word 38) (word 46) (word 55) (word 63)))
    pure (.done ret)

/-- The body of the last `else`: `buffer` has room for 92 characters, and `buflen`, which is
also the length that is passed on, counts all of them. -/
def transparentCmd (env : Env) (s : CString) : Cmd BranchEnd := do
  let request := TestmodeRequest.of 102 (8 + s.length) (.strCmd (CString.strncpy 92 s))
  let ret ← testmode env .priv { request with dataLen := request.hdr.buflen.toNat }
  pure ⟨false, ret⟩

def body (config : Config) (env : Env) (drv : DrvData) (wpaS : Option WpaSupplicant)
    (cmd buf : CharPtr) (bufLen : Nat) (s : CString) : Branch → Cmd BranchEnd
  | .powermode => pure (.done (-1))
  | .getStaStatistics => do
      let wpaS ← readWpaS wpaS
      return .done (← getStaStatistics config env wpaS (s.drop 19) buf bufLen)
  | .macaddr => do
      let wpaS ← readWpaS wpaS
      return .done (← snprintf buf bufLen
        (ascii "Macaddr = " ++ macStr wpaS.ownAddr ++ ascii "\n"))
  | .country => do
      if s.length ≠ 7 + 3 then return .done 0
      let ret ← setCountry env drv (s.drop 8)
      if ret = 0 then
        let _ ← readWpaS wpaS
        notifyCountryChange s
      return .done ret
  | .start => do
      let ret ← perform (.setIfaceFlags drv.firstBssIfname true) env.setIfaceFlags
      if ret = 0 then emit (.driverState (ascii "CTRL-EVENT-DRIVER-STATE STARTED"))
      return .done ret
  | .stop => do
      if drv.associated then
        let _ ← readWpaS wpaS
        let _ ← perform (.deauthenticate drv.bssid) env.deauthenticate
      let ret ← perform (.setIfaceFlags drv.firstBssIfname false) env.setIfaceFlags
      if ret = 0 then emit (.driverState (ascii "CTRL-EVENT-DRIVER-STATE STOPPED"))
      return .done ret
  | .getpower => do
      -- the query of the mode is commented out, and `ret` is still -1 here
      let ret : Int := -1
      if ret = 0 then return .done (← snprintf buf bufLen (ascii "powermode = 0\n"))
      return .done ret
  | .rxfilterAdd => rxfilterNumber config env (s.drop 12) 0x00900200
  | .rxfilterRemove => rxfilterNumber config env (s.drop 15) 0x00900300
  | .rxfilterStop => do return .done (← driverSwCmd env true 0x9F000000 0x00900000)
  | .rxfilterStart => do return .done (← driverSwCmd env true 0x9F000000 0x00900100)
  | .btcoexscanStart => pure (.done 0)
  | .btcoexscanStop => pure (.done 0)
  | .btcoexmode => pure (.done 0)
  | .staBlock => do
      let ret ← staBlock env (s.drop 10) 1
      return .done (if ret ≠ 0 then -1 else 0)
  | .staUnblock => do
      let ret ← staBlock env (s.drop 12) 0
      return .done (if ret ≠ 0 then -1 else 0)
  | .setMaxClient => do
      let _ ← setMaxClient config env (s.drop 15)
      return .done (-1)
  | .mtkAcs => do
      let ch ← doMtkAcs config env 6
      onMemory fun mem => mem.write buf [ch]
      return .done 1
  | .setWapiKey => do return .done (← setWapiKey env env.wapiKey)
  | .wapiMsgSend => do return .done (← sendMsg env.wapiMsgInLen)
  | .p2pGetCap => do
      let wpaS ← readWpaS wpaS
      match wpaS.p2p with
      | none => return .done (-1)
      | some p2p => return .done (← p2pGetCapability p2p (s.drop 12) buf bufLen)
  | .p2pSetCap => do
      let wpaS ← readWpaS wpaS
      match wpaS.p2p with
      | none => return .done (-1)
      | some _ => return .done (← p2pSetCapability config (s.drop 12))
  | .miracast => miracast config env wpaS cmd s
  | .p2pUseMcc => do
      let useMcc := (CString.atoi config.longBits (s.drop 12)).toUInt32.toUInt8
      let _ ← readWpaS wpaS
      if useMcc ≠ 0 then emit (.configScc false 0)
      else configSharedFreq env fun freq => 0 < freq.toInt32
      return .done (-1)
  | .wfdDataUpdate => do
      let _ ← readWpaS wpaS
      return .done (← wfdDataUpdate config env)
  | .mcc => mcc config wpaS cmd s
  | .p2pSetOpps => do
      let _ ← readWpaS wpaS
      return .done (← p2pCtrlIfaceSetOpps config env (cmd.add 13))
  | .p2pSetPowerSave => do
      let _ ← readWpaS wpaS
      return .done (← p2pCtrlIfaceSetPowerSave config env (s.drop 19))
  | .p2pSetSleepOf => do
      let _ ← readWpaS wpaS
      return .done (← p2pCtrlIfaceSetSleep env (cmd.add 14))
  | .p2pSetSleep => do
      let _ ← readWpaS wpaS
      return .done (← p2pCtrlIfaceSetSleepAll env)
  | .sigmaMode => do
      match ← splitAtBlank cmd with
      | none => return .done (-1)
      | some _ => return .done 0
  | .p2pSetNoa => do
      let _ ← readWpaS wpaS
      return .done (← p2pCtrlIfaceSetNoa config env cmd)
  | .p2pSetPs => do
      let _ ← readWpaS wpaS
      return .done (← p2pCtrlIfaceSetPs config env cmd)
  | .setsuspendmode => do
      let _ ← testmode env .priv (.of 101 12 (.suspendMode ((s.drop 15).headD 0 - 48)))
      return ⟨false, -1⟩
  | .rxPacketFilter => rxPacketFilter config env s
  | .transparent => transparentCmd env s

/-! ## The private command -/

def privCmdSize : Nat := 512

def sendHangMsg (config : Config) : Cmd Unit :=
  modify fun state =>
    { state with
      drvErrors :=
        if config.sequentialErrors < state.drvErrors + 1 then 0 else state.drvErrors + 1 }

/-- What follows the chain when `handled` is zero.  The reply buffer is cleared before
the command is copied.  The length of the command is an `int`, and becomes a size again
for the copy. -/
def privateCmd (config : Config) (env : Env) (bss : Bss) (cmd buf : CharPtr) (bufLen : Nat) :
    Cmd Int := do
  let cmdLen := (Int32.ofNat (← readString cmd).length).toInt
  onMemory fun mem => mem.memset buf 0 bufLen
  let cmdLen := if (privCmdSize : Int) ≤ cmdLen then (privCmdSize : Int) - 1 else cmdLen
  let state ← get
  let copied := (state.mem.bytes cmd).take ((cmdLen + 1) % 2 ^ config.longBits).toNat
  let ret ← perform
    (.privateIoctl (bss.ifname.take 15)
      (copied ++ List.replicate (privCmdSize - copied.length) 0) (cmdLen + 1))
    env.privateIoctl
  if ret < 0 then
    sendHangMsg config
    snprintf buf bufLen (ascii "FAIL\n")
  else
    modify fun state => { state with drvErrors := 0 }
    if CString.strncasecmp 12 (← readString cmd) (ascii "WLS_BATCHING") = 0 then
      return (← readString buf).length
    return 0

/-! ## The dispatcher -/

/-- `wpa_s` after the selection of the context: `none` where it is not assigned. -/
def selectContext (bss : Bss) (ctx : WpaSupplicant) : Option WpaSupplicant :=
  if CString.strcmp bss.ifname (ascii "ap0") = 0 then none else some ctx

def driverCmd (config : Config) (env : Env) (bss : Bss) (cmd buf : CharPtr) (bufLen : Nat) :
    Cmd Int := do
  match bss.drv with
  | none => return -1
  | some drv =>
      match drv.ctx with
      | none => return -1
      | some ctx =>
          let wpaS := selectContext bss ctx
          if wpaS.any (!·.conf) then return -1
          let s ← readString cmd
          let ended ← body config env drv wpaS cmd buf bufLen s (branchOf config s)
          if ended.handled then return ended.ret
          privateCmd config env bss cmd buf bufLen

/-- The buffer on the stack that both entry points print into, of `MAX_DRV_CMD_SIZE`
bytes: the bytes it holds are `stack`. -/
def withCommand (config : Config) (env : Env) (bss : Bss) (frame : Nat) (stack : List UInt8)
    (text : CString) : Cmd Int := do
  let buf : CharPtr := ⟨frame, 0⟩
  onMemory fun mem => Function.update mem frame stack
  let _ ← snprintf buf stack.length text
  let len := (← readString buf).length
  driverCmd config env bss buf buf (len + 1)

def setP2pNoa (config : Config) (env : Env) (bss : Bss) (frame : Nat) (stack : List UInt8)
    (count : UInt8) (start duration : Int32) : Cmd Int :=
  withCommand config env bss frame stack
    (ascii "P2P_SET_NOA " ++ CString.printInt count.toNat ++ ascii " " ++
      CString.printInt start.toInt ++ ascii " " ++ CString.printInt duration.toInt)

def setP2pPs (config : Config) (env : Env) (bss : Bss) (frame : Nat) (stack : List UInt8)
    (legacyPs oppPs ctWindow : Int32) : Cmd Int :=
  withCommand config env bss frame stack
    (ascii "P2P_SET_PS " ++ CString.printInt legacyPs.toInt ++ ascii " " ++
      CString.printInt oppPs.toInt ++ ascii " " ++ CString.printInt ctWindow.toInt)

end Mt6757.Supplicant
