import Mt6757.Supplicant.ApInterface

/-!
# What a command sends

The effects that a run adds to the record, as a property that holds of a program when it
holds of its parts, and what a run of the dispatcher consists of.
-/

set_option autoImplicit false

namespace Mt6757.Supplicant

open CString (ascii)

/-- Every effect that a run of the program adds is allowed. -/
def Emits {α : Type} (allowed : Effect → Prop) (program : Cmd α) : Prop :=
  ∀ state value state', program state = .ok (value, state') →
    ∃ emitted, state'.trace = state.trace ++ emitted ∧ ∀ effect ∈ emitted, allowed effect

section Emits
variable {α β : Type} {allowed : Effect → Prop}

/-- A program that leaves the record as it is. -/
theorem emits_of_silent {program : Cmd α}
    (silent : ∀ state value state', program state = .ok (value, state') →
      state'.trace = state.trace) : Emits allowed program := by
  intro state value state' ran
  exact ⟨[], by rw [silent state value state' ran, List.append_nil], List.forall_mem_nil _⟩

theorem Emits.pure (value : α) : Emits allowed (pure value : Cmd α) := by
  refine emits_of_silent fun state value' state' ran => ?_
  obtain ⟨-, rfl⟩ := Prod.mk.inj (Except.ok.inj ran)
  rfl

theorem Emits.throw (fault : Fault) : Emits allowed (throw fault : Cmd α) :=
  fun _ _ _ ran => nomatch ran

theorem Emits.bind {program : Cmd α} {next : α → Cmd β} (first : Emits allowed program)
    (later : ∀ value, Emits allowed (next value)) : Emits allowed (program >>= next) := by
  intro state value state' ran
  rw [run_bind] at ran
  cases middle : program state with
  | error fault =>
      rw [middle] at ran
      cases ran
  | ok ended =>
      rw [middle] at ran
      obtain ⟨early, trace, ofEarly⟩ := first state ended.1 ended.2 middle
      obtain ⟨late, trace', ofLate⟩ := later ended.1 ended.2 value state' ran
      refine ⟨early ++ late, by rw [trace', trace, List.append_assoc], ?_⟩
      exact List.forall_mem_append.mpr ⟨ofEarly, ofLate⟩

theorem Emits.ite {condition : Prop} [Decidable condition] {yes no : Cmd α}
    (whenTrue : Emits allowed yes) (whenFalse : Emits allowed no) :
    Emits allowed (if condition then yes else no) := by
  split
  · exact whenTrue
  · exact whenFalse

theorem emits_get : Emits allowed (get : Cmd DriverState) := by
  refine emits_of_silent fun state value state' ran => ?_
  obtain ⟨-, rfl⟩ := Prod.mk.inj (Except.ok.inj ran)
  rfl

theorem emits_onMemory (change : Memory → Memory) : Emits allowed (onMemory change) := by
  refine emits_of_silent fun state value state' ran => ?_
  obtain ⟨-, rfl⟩ := Prod.mk.inj (Except.ok.inj ran)
  rfl

theorem emits_emit {effect : Effect} (fine : allowed effect) : Emits allowed (emit effect) := by
  intro state value state' ran
  obtain ⟨-, rfl⟩ := Prod.mk.inj (Except.ok.inj ran)
  exact ⟨[effect], rfl, List.forall_mem_singleton.mpr fine⟩

theorem emits_readString (p : CharPtr) : Emits allowed (readString p) :=
  emits_get.bind fun _ => .pure _

theorem emits_perform {effect : Effect} (answer : List Effect → α) (fine : allowed effect) :
    Emits allowed (perform effect answer) :=
  emits_get.bind fun _ => (emits_emit fine).bind fun _ => .pure _

theorem emits_snprintf (buf : CharPtr) (bufLen : Nat) (text : CString) :
    Emits allowed (snprintf buf bufLen text) :=
  (emits_onMemory _).bind fun _ => .pure _

end Emits

/-! ## The branches -/

/-- Anything but a private command. -/
def Effect.IsPublic : Effect → Prop
  | .privateIoctl _ _ _ => False
  | _ => True

section Functions
variable (config : Config) (env : Env)

theorem emits_testmode (target : Target) (request : TestmodeRequest) :
    Emits Effect.IsPublic (testmode env target request) :=
  emits_perform _ trivial

theorem emits_driverSwCmd (set : Bool) (adr dat : UInt32) :
    Emits Effect.IsPublic (driverSwCmd env set adr dat) :=
  (emits_testmode env _ _).bind fun _ => .pure 0

theorem emits_staBlock (cmd : CString) (blocked : UInt8) :
    Emits Effect.IsPublic (staBlock env cmd blocked) := by
  unfold staBlock
  split
  · exact .pure _
  · exact emits_testmode env _ _

theorem emits_doMtkAcs (polls : Nat) : Emits Effect.IsPublic (doMtkAcs config env polls) := by
  induction polls with
  | zero => exact .pure 0
  | succ polls ih => exact (emits_perform _ trivial).bind fun _ => .ite (.pure _) ih

theorem emits_setWapiKey (param : WapiKeyParam) :
    Emits Effect.IsPublic (setWapiKey env param) :=
  .ite (.pure _) ((emits_testmode env _ _).bind fun _ => .pure 0)

theorem emits_setCountry (drv : DrvData) (alpha2 : CString) :
    Emits Effect.IsPublic (setCountry env drv alpha2) :=
  emits_get.bind fun _ => .ite (.pure _) ((emits_perform _ trivial).bind fun _ => .pure _)

theorem emits_notifyCountryChange (s : CString) :
    Emits Effect.IsPublic (notifyCountryChange s) :=
  .ite (emits_emit trivial) (.pure ())

theorem emits_getStaStatistics (wpaS : WpaSupplicant) (addr : CString) (buf : CharPtr)
    (bufLen : Nat) : Emits Effect.IsPublic (getStaStatistics config env wpaS addr buf bufLen) := by
  unfold getStaStatistics
  split
  · exact .pure _
  · refine (emits_testmode env _ _).bind fun ret => .ite (.pure _) ?_
    exact (emits_onMemory _).bind fun _ => .pure _

theorem emits_splitAtBlank (p : CharPtr) : Emits Effect.IsPublic (splitAtBlank p) := by
  refine (emits_readString p).bind fun s => ?_
  split
  · exact .pure none
  · exact (emits_onMemory _).bind fun _ => .pure _

theorem emits_readWpaS (wpaS : Option WpaSupplicant) : Emits Effect.IsPublic (readWpaS wpaS) := by
  cases wpaS with
  | none => exact .throw _
  | some wpaS => exact .pure _

theorem emits_configSharedFreq (positive : UInt32 → Bool) :
    Emits Effect.IsPublic (configSharedFreq env positive) :=
  emits_get.bind fun _ => .ite (emits_emit trivial) (emits_emit trivial)

theorem emits_rxfilterNumber (arg : CString) (offset : UInt32) :
    Emits Effect.IsPublic (rxfilterNumber config env arg offset) :=
  .ite (.pure _) ((emits_driverSwCmd env _ _ _).bind fun _ => .pure _)

theorem emits_rxPacketFilter (s : CString) :
    Emits Effect.IsPublic (rxPacketFilter config env s) :=
  .ite (.pure _) ((emits_testmode env _ _).bind fun _ => .pure _)

theorem emits_p2pGetCapability (p2p : P2pData) (s : CString) (buf : CharPtr) (bufLen : Nat) :
    Emits Effect.IsPublic (p2pGetCapability p2p s buf bufLen) :=
  .ite (emits_snprintf _ _ _) (.ite (.pure _) (.pure _))

theorem emits_p2pSetCapability (s : CString) :
    Emits Effect.IsPublic (p2pSetCapability config s) :=
  .ite ((emits_emit trivial).bind fun _ => .pure _) (.ite (.pure _) (.pure _))

theorem emits_fourWords (cmd : CharPtr) : Emits Effect.IsPublic (fourWords cmd) := by
  refine Emits.bind ?_ fun argv => ?_
  · exact (emits_readString cmd).bind fun _ => emits_get.bind fun _ =>
      (emits_onMemory _).bind fun _ => .pure _
  · split
    · exact (emits_readString _).bind fun _ => (emits_readString _).bind fun _ =>
        (emits_readString _).bind fun _ => .pure _
    · exact .pure none

theorem emits_setNoa (cmd : CharPtr) : Emits Effect.IsPublic (p2pCtrlIfaceSetNoa config env cmd) := by
  refine (emits_fourWords cmd).bind fun found => ?_
  split
  · exact .pure _
  · exact emits_testmode env _ _

theorem emits_setPs (cmd : CharPtr) : Emits Effect.IsPublic (p2pCtrlIfaceSetPs config env cmd) := by
  refine (emits_fourWords cmd).bind fun found => ?_
  split
  · exact .pure _
  · exact emits_testmode env _ _

theorem emits_setOpps (cmd : CharPtr) :
    Emits Effect.IsPublic (p2pCtrlIfaceSetOpps config env cmd) := by
  refine (emits_readString cmd).bind fun s => (emits_splitAtBlank cmd).bind fun found => ?_
  split
  · exact .throw _
  · refine (emits_readString _).bind fun str => ?_
    split
    · exact .pure _
    · exact (emits_splitAtBlank _).bind fun _ => (emits_testmode env _ _).bind fun _ => .pure 0

theorem emits_setSleep (cmd : CharPtr) : Emits Effect.IsPublic (p2pCtrlIfaceSetSleep env cmd) := by
  refine (emits_readString cmd).bind fun s => ?_
  split
  · exact .pure _
  · exact (emits_splitAtBlank _).bind fun _ => (emits_testmode env _ _).bind fun _ => .pure 0

theorem emits_setSleepAll : Emits Effect.IsPublic (p2pCtrlIfaceSetSleepAll env) := by
  unfold p2pCtrlIfaceSetSleepAll
  split
  · exact .pure _
  · exact (emits_testmode env _ _).bind fun _ => .pure 0

theorem emits_miracast (wpaS : Option WpaSupplicant) (cmd : CharPtr) (s : CString) :
    Emits Effect.IsPublic (miracast config env wpaS cmd s) := by
  have follows : Emits Effect.IsPublic (do
      let _ ← readWpaS wpaS
      configSharedFreq env (0 < ·)
      pure ⟨false, -1⟩ : Cmd BranchEnd) :=
    (emits_readWpaS wpaS).bind fun _ => (emits_configSharedFreq env _).bind fun _ => .pure _
  refine .ite follows (.ite ?_ (.pure _))
  split
  · exact (emits_readWpaS wpaS).bind fun _ => (emits_emit trivial).bind fun _ =>
      (emits_onMemory _).bind fun _ => .pure _
  · exact follows

theorem emits_mcc (wpaS : Option WpaSupplicant) (cmd : CharPtr) (s : CString) :
    Emits Effect.IsPublic (mcc config wpaS cmd s) := by
  refine (emits_readWpaS wpaS).bind fun wpaS => .ite ?_ (.pure _)
  refine (emits_splitAtBlank cmd).bind fun found => ?_
  split
  · exact .pure _
  · exact (emits_emit trivial).bind fun _ => .pure _

/-- No branch sends a private command itself. -/
theorem emits_body (drv : DrvData) (wpaS : Option WpaSupplicant) (cmd buf : CharPtr)
    (bufLen : Nat) (s : CString) (branch : Branch) :
    Emits Effect.IsPublic (body config env drv wpaS cmd buf bufLen s branch) := by
  cases branch with
  | powermode | btcoexscanStart | btcoexscanStop | btcoexmode => exact .pure _
  | getStaStatistics =>
      exact (emits_readWpaS wpaS).bind fun _ =>
        (emits_getStaStatistics config env _ _ _ _).bind fun _ => .pure _
  | macaddr =>
      exact (emits_readWpaS wpaS).bind fun _ => (emits_snprintf _ _ _).bind fun _ => .pure _
  | country =>
      refine .ite (.pure _) ((emits_setCountry env _ _).bind fun _ => .ite ?_ (.pure _))
      exact (emits_readWpaS wpaS).bind fun _ =>
        (emits_notifyCountryChange _).bind fun _ => .pure _
  | start =>
      exact (emits_perform _ trivial).bind fun _ =>
        .ite ((emits_emit trivial).bind fun _ => .pure _) (.pure _)
  | stop =>
      have down : Emits Effect.IsPublic (do
          let ret ← perform (.setIfaceFlags drv.firstBssIfname false) env.setIfaceFlags
          if ret = 0 then emit (.driverState (ascii "CTRL-EVENT-DRIVER-STATE STOPPED"))
          return .done ret : Cmd BranchEnd) :=
        (emits_perform _ trivial).bind fun _ =>
          .ite ((emits_emit trivial).bind fun _ => .pure _) (.pure _)
      refine .ite ?_ down
      exact (emits_readWpaS wpaS).bind fun _ => (emits_perform _ trivial).bind fun _ => down
  | getpower => exact Emits.pure _
  | rxfilterAdd => exact emits_rxfilterNumber config env _ _
  | rxfilterRemove => exact emits_rxfilterNumber config env _ _
  | rxfilterStop => exact (emits_driverSwCmd env _ _ _).bind fun _ => .pure _
  | rxfilterStart => exact (emits_driverSwCmd env _ _ _).bind fun _ => .pure _
  | staBlock => exact (emits_staBlock env _ _).bind fun _ => .pure _
  | staUnblock => exact (emits_staBlock env _ _).bind fun _ => .pure _
  | setMaxClient => exact (emits_testmode env _ _).bind fun _ => .pure _
  | mtkAcs =>
      exact (emits_doMtkAcs config env 6).bind fun _ => (emits_onMemory _).bind fun _ => .pure _
  | setWapiKey => exact (emits_setWapiKey env _).bind fun _ => .pure _
  | wapiMsgSend => exact (Emits.pure _).bind fun _ => .pure _
  | p2pGetCap =>
      refine (emits_readWpaS wpaS).bind fun wpaS => ?_
      split
      · exact .pure _
      · exact (emits_p2pGetCapability _ _ _ _).bind fun _ => .pure _
  | p2pSetCap =>
      refine (emits_readWpaS wpaS).bind fun wpaS => ?_
      split
      · exact .pure _
      · exact (emits_p2pSetCapability config _).bind fun _ => .pure _
  | miracast => exact emits_miracast config env wpaS cmd s
  | p2pUseMcc =>
      refine (emits_readWpaS wpaS).bind fun _ => .ite ?_ ?_
      · exact (emits_emit trivial).bind fun _ => .pure _
      · exact (emits_configSharedFreq env _).bind fun _ => .pure _
  | wfdDataUpdate =>
      exact (emits_readWpaS wpaS).bind fun _ => (emits_testmode env _ _).bind fun _ => .pure _
  | mcc => exact emits_mcc config wpaS cmd s
  | p2pSetOpps =>
      exact (emits_readWpaS wpaS).bind fun _ => (emits_setOpps config env _).bind fun _ => .pure _
  | p2pSetPowerSave =>
      exact (emits_readWpaS wpaS).bind fun _ =>
        (Emits.bind (emits_testmode env _ _) fun _ => .pure _).bind fun _ => .pure _
  | p2pSetSleepOf =>
      exact (emits_readWpaS wpaS).bind fun _ => (emits_setSleep env _).bind fun _ => .pure _
  | p2pSetSleep =>
      exact (emits_readWpaS wpaS).bind fun _ => (emits_setSleepAll env).bind fun _ => .pure _
  | sigmaMode =>
      refine (emits_splitAtBlank cmd).bind fun found => ?_
      split
      · exact .pure _
      · exact .pure _
  | p2pSetNoa =>
      exact (emits_readWpaS wpaS).bind fun _ => (emits_setNoa config env _).bind fun _ => .pure _
  | p2pSetPs =>
      exact (emits_readWpaS wpaS).bind fun _ => (emits_setPs config env _).bind fun _ => .pure _
  | setsuspendmode => exact (emits_testmode env _ _).bind fun _ => .pure _
  | rxPacketFilter => exact emits_rxPacketFilter config env s
  | transparent => exact (emits_testmode env _ _).bind fun _ => .pure _

end Functions

/-! ## Who handles a command -/

/-- What a run of the program ends with. -/
def Yields {α : Type} (ends : α → Prop) (program : Cmd α) : Prop :=
  ∀ state value state', program state = .ok (value, state') → ends value

section Yields
variable {α β : Type} {ends : β → Prop}

theorem Yields.pure {value : β} (fine : ends value) : Yields ends (pure value : Cmd β) := by
  intro state value' state' ran
  obtain ⟨rfl, -⟩ := Prod.mk.inj (Except.ok.inj ran)
  exact fine

theorem Yields.bind {program : Cmd α} {next : α → Cmd β}
    (later : ∀ value, Yields ends (next value)) : Yields ends (program >>= next) := by
  intro state value state' ran
  rw [run_bind] at ran
  cases middle : program state with
  | error fault =>
      rw [middle] at ran
      cases ran
  | ok ended =>
      rw [middle] at ran
      exact later ended.1 ended.2 value state' ran

theorem Yields.ite {condition : Prop} [Decidable condition] {yes no : Cmd β}
    (whenTrue : Yields ends yes) (whenFalse : Yields ends no) :
    Yields ends (if condition then yes else no) := by
  split
  · exact whenTrue
  · exact whenFalse

end Yields

/-- The branches that may leave a command to the private one. -/
def Branch.HandsOn : Branch → Prop
  | .miracast | .setsuspendmode | .transparent => True
  | _ => False

/-- All other branches handle the command. -/
theorem body_handles (config : Config) (env : Env) (drv : DrvData) (wpaS : Option WpaSupplicant)
    (cmd buf : CharPtr) (bufLen : Nat) (s : CString) {branch : Branch} (keeps : ¬ branch.HandsOn) :
    Yields (·.handled = true) (body config env drv wpaS cmd buf bufLen s branch) := by
  cases branch with
  | miracast | setsuspendmode | transparent => exact absurd trivial keeps
  | powermode | btcoexscanStart | btcoexscanStop | btcoexmode | getpower => exact .pure rfl
  | rxfilterStop | rxfilterStart | staBlock | staUnblock | setMaxClient | setWapiKey
  | wapiMsgSend => exact .bind fun _ => .pure rfl
  | getStaStatistics | macaddr | wfdDataUpdate | p2pSetOpps | p2pSetPowerSave | p2pSetSleepOf
  | p2pSetSleep | p2pSetNoa | p2pSetPs | mtkAcs =>
      exact .bind fun _ => .bind fun _ => .pure rfl
  | country =>
      exact .ite (.pure rfl) (.bind fun _ => .ite (.bind fun _ => .bind fun _ => .pure rfl) (.pure rfl))
  | start => exact .bind fun _ => .ite (.bind fun _ => .pure rfl) (.pure rfl)
  | stop =>
      have down : Yields (·.handled = true) (do
          let ret ← perform (.setIfaceFlags drv.firstBssIfname false) env.setIfaceFlags
          if ret = 0 then emit (.driverState (ascii "CTRL-EVENT-DRIVER-STATE STOPPED"))
          return .done ret : Cmd BranchEnd) :=
        .bind fun _ => .ite (.bind fun _ => .pure rfl) (.pure rfl)
      exact .ite (.bind fun _ => .bind fun _ => down) down
  | rxfilterAdd | rxfilterRemove | rxPacketFilter => exact .ite (.pure rfl) (.bind fun _ => .pure rfl)
  | p2pGetCap | p2pSetCap =>
      refine .bind fun wpaS => ?_
      split
      · exact .pure rfl
      · exact .bind fun _ => .pure rfl
  | p2pUseMcc =>
      exact .bind fun _ => .ite (.bind fun _ => .pure rfl) (.bind fun _ => .pure rfl)
  | mcc =>
      refine .bind fun wpaS => .ite (.bind fun found => ?_) (.pure rfl)
      split
      · exact .pure rfl
      · exact .bind fun _ => .pure rfl
  | sigmaMode =>
      refine .bind fun found => ?_
      split
      · exact .pure rfl
      · exact .pure rfl

/-! ## The dispatcher -/

/-- The interface gets as far as the chain, with this value of `wpa_s`. -/
structure Bss.Dispatches (bss : Bss) (drv : DrvData) (wpaS : Option WpaSupplicant) : Prop where
  hasDrv : bss.drv = some drv
  context : ∃ ctx, drv.ctx = some ctx ∧ selectContext bss ctx = wpaS
  configured : wpaS.any (!·.conf) = false

section Dispatcher
variable {config : Config} {env : Env} {bss : Bss} {drv : DrvData} {wpaS : Option WpaSupplicant}
  {cmd buf : CharPtr} {bufLen : Nat}

/-- The branch, and the private command where it leaves the command unhandled. -/
theorem driverCmd_dispatched (set : bss.Dispatches drv wpaS) (state : DriverState) :
    driverCmd config env bss cmd buf bufLen state =
      (body config env drv wpaS cmd buf bufLen (state.mem.string cmd)
        (branchOf config (state.mem.string cmd)) state).bind fun ended =>
          if ended.1.handled then .ok (ended.1.ret, ended.2)
          else privateCmd config env bss cmd buf bufLen ended.2 := by
  obtain ⟨ctx, hasCtx, selected⟩ := set.context
  simp only [driverCmd, set.hasDrv, hasCtx, selected, set.configured, Bool.false_eq_true, if_false,
    run_bind, run_readString, except_bind_ok]
  congr 1
  funext ended
  split
  · rfl
  · rfl

/-- Without an interface that is set up nothing is done. -/
theorem driverCmd_undispatched (unset : ∀ drv wpaS, ¬ bss.Dispatches drv wpaS)
    (state : DriverState) :
    driverCmd config env bss cmd buf bufLen state = .ok (-1, state) := by
  cases hasDrv : bss.drv with
  | none =>
      simp only [driverCmd, hasDrv]
      rfl
  | some drv =>
      cases hasCtx : drv.ctx with
      | none =>
          simp only [driverCmd, hasDrv, hasCtx]
          rfl
      | some ctx =>
          have refused : (selectContext bss ctx).any (!·.conf) = true := by
            by_contra configured
            exact unset drv _ ⟨hasDrv, ⟨ctx, hasCtx, rfl⟩, by simpa using configured⟩
          simp only [driverCmd, hasDrv, hasCtx, refused, if_true]
          rfl

/-- A run is idle, or is a branch that handles the command, or is one that does not and the
private command. -/
theorem driverCmd_cases {state state' : DriverState} {ret : Int}
    (ran : driverCmd config env bss cmd buf bufLen state = .ok (ret, state')) :
    ((∀ drv wpaS, ¬ bss.Dispatches drv wpaS) ∧ ret = -1 ∧ state' = state) ∨
      ∃ drv wpaS ended middle, bss.Dispatches drv wpaS ∧
        body config env drv wpaS cmd buf bufLen (state.mem.string cmd)
          (branchOf config (state.mem.string cmd)) state = .ok (ended, middle) ∧
        ((ended.handled = true ∧ ret = ended.ret ∧ state' = middle) ∨
          (ended.handled = false ∧
            privateCmd config env bss cmd buf bufLen middle = .ok (ret, state'))) := by
  by_cases unset : ∀ drv wpaS, ¬ bss.Dispatches drv wpaS
  · rw [driverCmd_undispatched unset] at ran
    obtain ⟨rfl, rfl⟩ := Prod.mk.inj (Except.ok.inj ran)
    exact .inl ⟨unset, rfl, rfl⟩
  · simp only [not_forall, not_not] at unset
    obtain ⟨drv, wpaS, set⟩ := unset
    rw [driverCmd_dispatched set] at ran
    refine .inr ⟨drv, wpaS, ?_⟩
    cases result : body config env drv wpaS cmd buf bufLen (state.mem.string cmd)
        (branchOf config (state.mem.string cmd)) state with
    | error fault =>
        rw [result] at ran
        cases ran
    | ok ended =>
        rw [result, except_bind_ok] at ran
        refine ⟨ended.1, ended.2, set, rfl, ?_⟩
        by_cases handled : ended.1.handled = true
        · rw [if_pos handled] at ran
          obtain ⟨rfl, rfl⟩ := Prod.mk.inj (Except.ok.inj ran)
          exact .inl ⟨handled, rfl, rfl⟩
        · rw [if_neg handled] at ran
          exact .inr ⟨by simpa using handled, ran⟩

/-! ## The private command -/

/-- `cmd_len` when the command is copied. -/
def privateLen (s : CString) : Int :=
  if (privCmdSize : Int) ≤ (Int32.ofNat s.length).toInt then (privCmdSize : Int) - 1
  else (Int32.ofNat s.length).toInt

/-- `priv_cmd.buf`, from what lies at the command when it is copied. -/
def privateBuf (config : Config) (source : List UInt8) (cmdLen : Int) : List UInt8 :=
  let copied := source.take ((cmdLen + 1) % 2 ^ config.longBits).toNat
  copied ++ List.replicate (privCmdSize - copied.length) 0

/-- A private command is sent once. -/
theorem privateCmd_sends (config : Config) (env : Env) (bss : Bss) (cmd buf : CharPtr)
    (bufLen : Nat) (state : DriverState) :
    ∃ ret state', privateCmd config env bss cmd buf bufLen state = .ok (ret, state') ∧
      state'.trace = state.trace ++ [.privateIoctl (bss.ifname.take 15)
        (privateBuf config ((state.mem.memset buf 0 bufLen).bytes cmd)
          (privateLen (state.mem.string cmd)))
        (privateLen (state.mem.string cmd) + 1)] := by
  -- what is left after the record was written does not write to it again
  have answers (result : CString) (middle : DriverState) :
      (do
        if CString.strncasecmp 12 result (ascii "WLS_BATCHING") = 0 then
          return (← readString buf).length
        return 0 : Cmd Int) middle =
        .ok (if CString.strncasecmp 12 result (ascii "WLS_BATCHING") = 0 then
          ((middle.mem.string buf).length : Int) else 0, middle) := by
    split
    · rfl
    · rfl
  simp only [privateCmd, run_bind, run_readString, run_onMemory, run_get, run_perform,
    except_bind_ok]
  by_cases failed : env.privateIoctl state.trace < 0
  · rw [if_pos failed]
    exact ⟨_, _, rfl, rfl⟩
  · rw [if_neg failed]
    exact ⟨_, _, answers _ _, rfl⟩

end Dispatcher

theorem stationBss_dispatches : ∃ drv wpaS, stationBss.Dispatches drv wpaS :=
  ⟨_, _, rfl, ⟨_, rfl, rfl⟩, by decide⟩

end Mt6757.Supplicant
