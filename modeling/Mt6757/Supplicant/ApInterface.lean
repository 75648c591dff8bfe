import Mt6757.Supplicant.DriverCmd

/-!
# Commands on an access point interface

On `ap0` the variable `wpa_s` is never assigned.  Each body either reads it, and then
the command is undefined, or returns whatever the memory and the answers are.
-/

set_option autoImplicit false

namespace Mt6757.Supplicant

open CString (ascii)

/-! ## Programs that return -/

def Returns {α : Type} (program : Cmd α) : Prop :=
  ∀ state, ∃ value state', program state = .ok (value, state')

section Returns
variable {α β : Type}

theorem Returns.pure (value : α) : Returns (pure value : Cmd α) :=
  fun state => ⟨value, state, rfl⟩

theorem Returns.bind {program : Cmd α} {next : α → Cmd β} (first : Returns program)
    (later : ∀ value, Returns (next value)) : Returns (program >>= next) := by
  intro state
  obtain ⟨value, middle, ran⟩ := first state
  obtain ⟨result, state', ran'⟩ := later value middle
  refine ⟨result, state', ?_⟩
  simp only [Bind.bind, StateT.bind, ran, Except.bind]
  exact ran'

theorem Returns.ite {condition : Prop} [Decidable condition] {yes no : Cmd α}
    (whenTrue : condition → Returns yes) (whenFalse : ¬ condition → Returns no) :
    Returns (if condition then yes else no) := by
  split
  · exact whenTrue ‹_›
  · exact whenFalse ‹_›

theorem returns_modify (change : DriverState → DriverState) : Returns (modify change : Cmd Unit) :=
  fun state => ⟨(), change state, rfl⟩

theorem returns_get : Returns (get : Cmd DriverState) := fun state => ⟨state, state, rfl⟩

theorem returns_emit (effect : Effect) : Returns (emit effect) := returns_modify _

theorem returns_onMemory (change : Memory → Memory) : Returns (onMemory change) :=
  returns_modify _

theorem returns_readString (p : CharPtr) : Returns (readString p) :=
  returns_get.bind fun _ => .pure _

theorem returns_perform (effect : Effect) (answer : List Effect → α) :
    Returns (perform effect answer) :=
  returns_get.bind fun _ => (returns_emit effect).bind fun _ => .pure _

theorem returns_snprintf (buf : CharPtr) (bufLen : Nat) (text : CString) :
    Returns (snprintf buf bufLen text) :=
  (returns_onMemory _).bind fun _ => .pure _

end Returns

section Functions
variable (config : Config) (env : Env)

theorem returns_testmode (target : Target) (request : TestmodeRequest) :
    Returns (testmode env target request) :=
  returns_perform _ _

theorem returns_driverSwCmd (set : Bool) (adr dat : UInt32) :
    Returns (driverSwCmd env set adr dat) :=
  (returns_testmode env _ _).bind fun _ => .pure 0

theorem returns_staBlock (cmd : CString) (blocked : UInt8) :
    Returns (staBlock env cmd blocked) := by
  unfold staBlock
  split
  · exact .pure _
  · exact returns_testmode env _ _

theorem returns_doMtkAcs (polls : Nat) : Returns (doMtkAcs config env polls) := by
  induction polls with
  | zero => exact .pure 0
  | succ polls ih =>
      exact (returns_perform _ _).bind fun _ => .ite (fun _ => .pure _) fun _ => ih

theorem returns_setWapiKey (param : WapiKeyParam) : Returns (setWapiKey env param) :=
  .ite (fun _ => .pure _) fun _ => (returns_testmode env _ _).bind fun _ => .pure 0

theorem returns_splitAtBlank (p : CharPtr) : Returns (splitAtBlank p) := by
  refine (returns_readString p).bind fun s => ?_
  split
  · exact .pure none
  · exact (returns_onMemory _).bind fun _ => .pure _

theorem returns_rxfilterNumber (arg : CString) (offset : UInt32) :
    Returns (rxfilterNumber config env arg offset) :=
  .ite (fun _ => .pure _) fun _ => (returns_driverSwCmd env _ _ _).bind fun _ => .pure _

theorem returns_rxPacketFilter (s : CString) : Returns (rxPacketFilter config env s) :=
  .ite (fun _ => .pure _) fun _ => (returns_testmode env _ _).bind fun _ => .pure _

theorem returns_privateCmd (bss : Bss) (cmd buf : CharPtr) (bufLen : Nat) :
    Returns (privateCmd config env bss cmd buf bufLen) := by
  unfold privateCmd
  refine (returns_readString cmd).bind fun s => ?_
  refine (returns_onMemory _).bind fun _ => ?_
  refine returns_get.bind fun state => ?_
  refine (returns_perform _ _).bind fun ret => .ite (fun _ => ?_) fun _ => ?_
  · exact (returns_modify _).bind fun _ => returns_snprintf buf bufLen _
  · refine (returns_modify _).bind fun _ => (returns_readString cmd).bind fun s => ?_
    exact .ite (fun _ => (returns_readString buf).bind fun _ => .pure _) fun _ => .pure 0

end Functions

/-! ## The branches that read `wpa_s` -/

/-- Whether a branch reads `wpa_s`.  Four of them do so on a condition: `COUNTRY` when
the country was set, `stop` when the interface is associated, and `MIRACAST` for the
values 0, 1 and 2. -/
def readsWpaS (config : Config) (env : Env) (drv : DrvData) (trace : List Effect) (s : CString) :
    Branch → Bool
  | .getStaStatistics | .macaddr => true
  | .country =>
      s.length == 10 && (0 ≤ env.socket trace && 0 ≤ env.countryIoctl trace : Bool)
  | .stop => drv.associated
  | .p2pGetCap | .p2pSetCap | .p2pUseMcc | .wfdDataUpdate => true
  | .miracast => (CString.atoi config.longBits (s.drop 9)).toUInt32.toUInt8 ≤ 2
  | .mcc | .p2pSetOpps | .p2pSetPowerSave | .p2pSetSleepOf | .p2pSetSleep => true
  | .p2pSetNoa | .p2pSetPs => true
  | _ => false

section Body
variable (config : Config) (env : Env) (drv : DrvData) (cmd buf : CharPtr) (bufLen : Nat)
  (s : CString)

/-- `setCountry` returns zero exactly if both system calls succeed. -/
theorem setCountry_ret (alpha2 : CString) (state : DriverState) :
    ∃ ret state', setCountry env drv alpha2 state = .ok (ret, state') ∧
      (ret = 0 ↔ 0 ≤ env.socket state.trace ∧ 0 ≤ env.countryIoctl state.trace) := by
  unfold setCountry
  simp only [run_bind, run_get, except_bind_ok]
  split
  · exact ⟨-1, state, rfl, by omega⟩
  · refine ⟨_, _, rfl, ?_⟩
    split <;> omega

theorem uint8_le_two_iff (value : UInt8) : value ≤ 2 ↔ value = 0 ∨ value = 1 ∨ value = 2 := by
  simp only [UInt8.le_iff_toNat_le, ← UInt8.toNat_inj]
  have two : (2 : UInt8).toNat = 2 := rfl
  have one : (1 : UInt8).toNat = 1 := rfl
  have zero : (0 : UInt8).toNat = 0 := rfl
  omega

theorem miracast_faults (state : DriverState)
    (known : (CString.atoi config.longBits (s.drop 9)).toUInt32.toUInt8 ≤ 2) :
    miracast config env none cmd s state = .error .unassigned := by
  unfold miracast
  dsimp only
  split
  · rfl
  · split
    · cases CString.strstr s (ascii " freq=") <;> rfl
    · have either := (uint8_le_two_iff _).mp known
      tauto

theorem miracast_returns
    (unknown : ¬ (CString.atoi config.longBits (s.drop 9)).toUInt32.toUInt8 ≤ 2) :
    Returns (miracast config env none cmd s) := by
  have neither := fun either => unknown ((uint8_le_two_iff _).mpr either)
  unfold miracast
  refine .ite (fun low => ?_) fun _ => .ite (fun two => ?_) fun _ => .pure _
  · exact absurd low fun low => neither (low.imp_right .inl)
  · exact absurd two fun two => neither (.inr (.inr two))

theorem body_faults {branch : Branch} (state : DriverState)
    (reads : readsWpaS config env drv state.trace s branch = true) :
    body config env drv none cmd buf bufLen s branch state = .error .unassigned := by
  cases branch with
  | country =>
      simp only [readsWpaS, Bool.and_eq_true, beq_iff_eq, decide_eq_true_eq] at reads
      obtain ⟨long, opened, set⟩ := reads
      obtain ⟨ret, state', ran, zero⟩ := setCountry_ret env drv (s.drop 8) state
      have done : ret = 0 := zero.mpr ⟨opened, set⟩
      simp only [body, long, ne_eq, not_true_eq_false, if_false, run_bind, ran, except_bind_ok,
        done, if_true]
      rfl
  | stop =>
      have associated : drv.associated = true := reads
      simp only [body, associated, if_true]
      rfl
  | miracast => exact miracast_faults config env cmd s state (by simpa [readsWpaS] using reads)
  | getStaStatistics | macaddr | p2pGetCap | p2pSetCap | p2pUseMcc | wfdDataUpdate | mcc
  | p2pSetOpps | p2pSetPowerSave | p2pSetSleepOf | p2pSetSleep | p2pSetNoa | p2pSetPs => rfl
  | _ => cases reads

theorem body_returns {branch : Branch} (state : DriverState)
    (spared : readsWpaS config env drv state.trace s branch = false) :
    ∃ ended state', body config env drv none cmd buf bufLen s branch state = .ok (ended, state') := by
  cases branch with
  | country =>
      by_cases long : s.length = 10
      · obtain ⟨ret, state', ran, zero⟩ := setCountry_ret env drv (s.drop 8) state
        have failed : ret ≠ 0 := by
          intro done
          obtain ⟨opened, set⟩ := zero.mp done
          simp [readsWpaS, long, opened, set] at spared
        simp [body, long, ran, failed]
      · simp [body, long]
  | start =>
      refine ((returns_perform _ _).bind fun ret => ?_) state
      dsimp only
      split
      · exact (returns_emit _).bind fun _ => .pure _
      · exact .pure _
  | stop =>
      have free : drv.associated = false := spared
      simp only [body, free, Bool.false_eq_true, if_false]
      refine ((returns_perform _ _).bind fun ret => ?_) state
      split
      · exact (returns_emit _).bind fun _ => .pure _
      · exact .pure _
  | getpower => exact Returns.pure _ state
  | rxfilterAdd => exact returns_rxfilterNumber config env _ _ state
  | rxfilterRemove => exact returns_rxfilterNumber config env _ _ state
  | rxfilterStop => exact ((returns_driverSwCmd env _ _ _).bind fun _ => .pure _) state
  | rxfilterStart => exact ((returns_driverSwCmd env _ _ _).bind fun _ => .pure _) state
  | staBlock => exact ((returns_staBlock env _ _).bind fun _ => .pure _) state
  | staUnblock => exact ((returns_staBlock env _ _).bind fun _ => .pure _) state
  | setMaxClient => exact (Returns.bind (returns_testmode env _ _) fun _ => .pure _) state
  | mtkAcs =>
      exact ((returns_doMtkAcs config env 6).bind fun _ =>
        (returns_onMemory _).bind fun _ => .pure _) state
  | setWapiKey => exact ((returns_setWapiKey env _).bind fun _ => .pure _) state
  | wapiMsgSend => exact (Returns.bind (.pure _) fun _ => .pure _) state
  | miracast => exact miracast_returns config env cmd s (by simpa [readsWpaS] using spared) state
  | sigmaMode =>
      refine ((returns_splitAtBlank cmd).bind fun i => ?_) state
      cases i <;> exact .pure _
  | setsuspendmode => exact ((returns_testmode env _ _).bind fun _ => .pure _) state
  | rxPacketFilter => exact returns_rxPacketFilter config env s state
  | transparent => exact ((returns_testmode env _ _).bind fun _ => .pure _) state
  | powermode | btcoexscanStart | btcoexscanStop | btcoexmode => exact Returns.pure _ state
  | _ => cases spared

end Body

/-! ## The dispatcher on `ap0` -/

/-- The command gets as far as the chain and takes a branch that reads `wpa_s`. -/
def UsesWpaS (config : Config) (env : Env) (bss : Bss) (trace : List Effect) (s : CString) :
    Prop :=
  ∃ drv ctx, bss.drv = some drv ∧ drv.ctx = some ctx ∧
    readsWpaS config env drv trace s (branchOf config s) = true

section Dispatcher
variable {config : Config} {env : Env} {bss : Bss} {cmd buf : CharPtr} {bufLen : Nat}
  {state : DriverState}

theorem selectContext_ap {ctx : WpaSupplicant} (ap : bss.ifname = ascii "ap0") :
    selectContext bss ctx = none := by
  have same : CString.strcmp bss.ifname (ascii "ap0") = 0 := by
    rw [ap]
    decide
  rw [selectContext, if_pos same]

theorem driverCmd_of_uses (ap : bss.ifname = ascii "ap0")
    (uses : UsesWpaS config env bss state.trace (state.mem.string cmd)) :
    driverCmd config env bss cmd buf bufLen state = .error .unassigned := by
  obtain ⟨drv, ctx, drvHere, ctxHere, reads⟩ := uses
  have faults := body_faults config env drv cmd buf bufLen (state.mem.string cmd) state reads
  simp only [driverCmd, drvHere, ctxHere, selectContext_ap ap, Option.any_none,
    Bool.false_eq_true, if_false, run_bind, run_readString, except_bind_ok, faults]
  rfl

theorem driverCmd_of_not_uses (ap : bss.ifname = ascii "ap0")
    (spared : ¬ UsesWpaS config env bss state.trace (state.mem.string cmd)) :
    ∃ ret state', driverCmd config env bss cmd buf bufLen state = .ok (ret, state') := by
  cases drvHere : bss.drv with
  | none =>
      simp only [driverCmd, drvHere]
      exact ⟨-1, state, rfl⟩
  | some drv =>
      cases ctxHere : drv.ctx with
      | none =>
          simp only [driverCmd, drvHere, ctxHere]
          exact ⟨-1, state, rfl⟩
      | some ctx =>
          have free : readsWpaS config env drv state.trace (state.mem.string cmd)
              (branchOf config (state.mem.string cmd)) = false := by
            by_contra reads
            exact spared ⟨drv, ctx, drvHere, ctxHere, by simpa using reads⟩
          obtain ⟨ended, middle, ran⟩ := body_returns config env drv cmd buf bufLen _ state free
          simp only [driverCmd, drvHere, ctxHere, selectContext_ap ap, Option.any_none,
            Bool.false_eq_true, if_false, run_bind, run_readString, except_bind_ok, ran]
          split
          · exact ⟨ended.ret, middle, rfl⟩
          · exact returns_privateCmd config env bss cmd buf bufLen middle

/-- On `ap0` a command is handled or rejected without `wpa_s` exactly where its branch
does not read the variable, and is undefined everywhere else. -/
theorem apCommand_returns_iff (ap : bss.ifname = ascii "ap0") :
    ((∃ ret state', driverCmd config env bss cmd buf bufLen state = .ok (ret, state')) ↔
        ¬ UsesWpaS config env bss state.trace (state.mem.string cmd)) ∧
      (driverCmd config env bss cmd buf bufLen state = .error .unassigned ↔
        UsesWpaS config env bss state.trace (state.mem.string cmd)) := by
  by_cases uses : UsesWpaS config env bss state.trace (state.mem.string cmd)
  · have faults : driverCmd config env bss cmd buf bufLen state = .error .unassigned :=
      driverCmd_of_uses ap uses
    simp [faults, uses]
  · have returns : ∃ ret state', driverCmd config env bss cmd buf bufLen state =
        .ok (ret, state') := driverCmd_of_not_uses ap uses
    obtain ⟨ret, state', ran⟩ := returns
    simp [ran, uses]

end Dispatcher

/-- A host access point with its context. -/
def apBss : Bss :=
  ⟨ascii "ap0",
    some ⟨some ⟨true, true, [2, 0, 0, 0, 0, 1], [], none, none⟩, false, [], ascii "wlan0"⟩⟩

/-- A command in one object, and a reply buffer in another. -/
def stateOf (command : String) : DriverState :=
  ⟨fun object => if object = 0 then ascii command ++ [0] else List.replicate 64 0, [], 0⟩

theorem apCommand_start :
    ∃ ret state', driverCmd .plain .obliging apBss ⟨0, 0⟩ ⟨1, 0⟩ 64 (stateOf "start") =
      .ok (ret, state') := by
  refine (apCommand_returns_iff rfl).1.mpr ?_
  intro ⟨drv, ctx, drvHere, ctxHere, reads⟩
  have start : branchOf .plain ((stateOf "start").mem.string ⟨0, 0⟩) = .start := by decide
  rw [start] at reads
  cases reads

/-- `MACADDR` reads the address from a variable without a value. -/
theorem apCommand_macaddr :
    ¬ ∀ (config : Config) (env : Env) (bss : Bss) (cmd buf : CharPtr) (bufLen : Nat)
      (state : DriverState), bss.ifname = ascii "ap0" →
        ∃ ret state', driverCmd config env bss cmd buf bufLen state = .ok (ret, state') := by
  intro all
  obtain ⟨ret, state', ran⟩ :=
    all .plain .obliging apBss ⟨0, 0⟩ ⟨1, 0⟩ 64 (stateOf "MACADDR") rfl
  have text : (stateOf "MACADDR").mem.string ⟨0, 0⟩ = ascii "MACADDR" := by decide
  have macaddr : branchOf .plain (ascii "MACADDR") = .macaddr := by decide
  have uses : UsesWpaS .plain .obliging apBss [] ((stateOf "MACADDR").mem.string ⟨0, 0⟩) := by
    refine ⟨_, _, rfl, rfl, ?_⟩
    rw [text, macaddr]
    rfl
  rw [driverCmd_of_uses rfl uses] at ran
  cases ran

end Mt6757.Supplicant
