import Mathlib.Logic.Relation
import Mt6757.Lib.MemoryFrame
import Mt6757.Supplicant.Emission
import Mt6757.Supplicant.StaHandler

/-!
# What a command writes

Commands are taken apart where they stand, and answered in a buffer of the caller.  Nothing
else is written, and the count of errors is left to the private command.
-/

set_option autoImplicit false

namespace Mt6757.Supplicant

open CString (ascii)
open Memory (Frame Ends span)

/-! ## Programs that keep to a region -/

/-- From a memory that is ready, a program that returns has written to the region only, and
counted no error. -/
def Confined {α : Type} (ready : Memory → Prop) (region : Set (Nat × Nat)) (program : Cmd α) :
    Prop :=
  ∀ state value state', ready state.mem → program state = .ok (value, state') →
    Frame region state.mem state'.mem ∧ state'.drvErrors = state.drvErrors

/-- What is ready stays so while the region is written. -/
def Stable (ready : Memory → Prop) (region : Set (Nat × Nat)) : Prop :=
  ∀ mem mem', ready mem → Frame region mem mem' → ready mem'

/-- The values that a program returns from a memory that is ready. -/
def Returned {α : Type} (ready : Memory → Prop) (program : Cmd α) (value : α) : Prop :=
  ∃ state state', ready state.mem ∧ program state = .ok (value, state')

section Confined
variable {α β : Type} {ready ready' : Memory → Prop} {region larger : Set (Nat × Nat)}

/-- A program that leaves memory and count as they are. -/
theorem confined_of_silent {program : Cmd α}
    (silent : ∀ state value state', program state = .ok (value, state') →
      state'.mem = state.mem ∧ state'.drvErrors = state.drvErrors) :
    Confined ready region program := by
  intro state value state' _ ran
  obtain ⟨kept, errors⟩ := silent state value state' ran
  rw [kept]
  exact ⟨.refl _, errors⟩

theorem Confined.mono {program : Cmd α} (confined : Confined ready region program)
    (stronger : ∀ mem, ready' mem → ready mem) (subset : region ⊆ larger) :
    Confined ready' larger program := by
  intro state value state' here ran
  obtain ⟨frame, errors⟩ := confined state value state' (stronger _ here) ran
  exact ⟨frame.mono subset, errors⟩

theorem Confined.pure (value : α) : Confined ready region (pure value : Cmd α) := by
  refine confined_of_silent fun state value' state' ran => ?_
  obtain ⟨-, rfl⟩ := Prod.mk.inj (Except.ok.inj ran)
  exact ⟨rfl, rfl⟩

theorem Confined.throw (fault : Fault) : Confined ready region (throw fault : Cmd α) :=
  fun _ _ _ _ ran => nomatch ran

theorem Confined.bind {program : Cmd α} {next : α → Cmd β} (stable : Stable ready region)
    (first : Confined ready region program)
    (later : ∀ value, Returned ready program value → Confined ready region (next value)) :
    Confined ready region (program >>= next) := by
  intro state value state' here ran
  rw [run_bind] at ran
  cases middle : program state with
  | error fault =>
      rw [middle] at ran
      cases ran
  | ok ended =>
      rw [middle] at ran
      obtain ⟨frame, errors⟩ := first state ended.1 ended.2 here middle
      have there := stable _ _ here frame
      obtain ⟨frame', errors'⟩ :=
        later ended.1 ⟨state, ended.2, here, middle⟩ ended.2 value state' there ran
      exact ⟨frame.trans frame', errors'.trans errors⟩

theorem Confined.ite {condition : Prop} [Decidable condition] {yes no : Cmd α}
    (whenTrue : condition → Confined ready region yes)
    (whenFalse : ¬ condition → Confined ready region no) :
    Confined ready region (if condition then yes else no) := by
  split
  next holds => exact whenTrue holds
  next fails => exact whenFalse fails

theorem confined_get : Confined ready region (get : Cmd DriverState) := by
  refine confined_of_silent fun state value state' ran => ?_
  obtain ⟨-, rfl⟩ := Prod.mk.inj (Except.ok.inj ran)
  exact ⟨rfl, rfl⟩

theorem confined_emit (effect : Effect) : Confined ready region (emit effect) := by
  refine confined_of_silent fun state value state' ran => ?_
  obtain ⟨-, rfl⟩ := Prod.mk.inj (Except.ok.inj ran)
  exact ⟨rfl, rfl⟩

theorem confined_readString (p : CharPtr) : Confined ready region (readString p) := by
  refine confined_of_silent fun state value state' ran => ?_
  obtain ⟨-, rfl⟩ := Prod.mk.inj (Except.ok.inj ran)
  exact ⟨rfl, rfl⟩

theorem confined_perform (effect : Effect) (answer : List Effect → α) :
    Confined ready region (perform effect answer) := by
  refine confined_of_silent fun state value state' ran => ?_
  obtain ⟨-, rfl⟩ := Prod.mk.inj (Except.ok.inj ran)
  exact ⟨rfl, rfl⟩

theorem confined_onMemory {change : Memory → Memory}
    (writes : ∀ mem, ready mem → Frame region mem (change mem)) :
    Confined ready region (onMemory change) := by
  intro state value state' here ran
  obtain ⟨-, rfl⟩ := Prod.mk.inj (Except.ok.inj ran)
  exact ⟨writes state.mem here, rfl⟩

theorem confined_testmode (env : Env) (target : Target) (request : TestmodeRequest) :
    Confined ready region (testmode env target request) :=
  confined_perform _ _

/-- A program that writes nothing. -/
abbrev Silent (program : Cmd α) : Prop := Confined (fun _ => True) ∅ program

theorem Silent.confined {program : Cmd α} (silent : Silent program) :
    Confined ready region program :=
  silent.mono (fun _ _ => trivial) (Set.empty_subset _)

theorem Silent.bind {program : Cmd α} {next : α → Cmd β} (first : Silent program)
    (later : ∀ value, Silent (next value)) : Silent (program >>= next) :=
  Confined.bind (fun _ _ _ _ => trivial) first fun value _ => later value

end Confined

/-! ## Functions that write nothing -/

section Silent
variable (config : Config) (env : Env)

theorem silent_driverSwCmd (set : Bool) (adr dat : UInt32) :
    Silent (driverSwCmd env set adr dat) :=
  Silent.bind (confined_testmode env _ _) fun _ => .pure 0

theorem silent_staBlock (cmd : CString) (blocked : UInt8) : Silent (staBlock env cmd blocked) := by
  unfold staBlock
  split
  · exact .pure _
  · exact confined_testmode env _ _

theorem silent_doMtkAcs (polls : Nat) : Silent (doMtkAcs config env polls) := by
  induction polls with
  | zero => exact .pure 0
  | succ polls ih =>
      exact Silent.bind (confined_perform _ _) fun _ => .ite (fun _ => .pure _) fun _ => ih

theorem silent_setWapiKey (param : WapiKeyParam) : Silent (setWapiKey env param) :=
  .ite (fun _ => .pure _) fun _ => Silent.bind (confined_testmode env _ _) fun _ => .pure 0

theorem silent_setCountry (drv : DrvData) (alpha2 : CString) : Silent (setCountry env drv alpha2) :=
  Silent.bind confined_get fun _ => .ite (fun _ => .pure _) fun _ =>
    Silent.bind (confined_perform _ _) fun _ => .pure _

theorem silent_notifyCountryChange (s : CString) : Silent (notifyCountryChange s) :=
  .ite (fun _ => confined_emit _) fun _ => .pure ()

theorem silent_readWpaS (wpaS : Option WpaSupplicant) : Silent (readWpaS wpaS) := by
  cases wpaS with
  | none => exact .throw _
  | some wpaS => exact .pure _

theorem silent_configSharedFreq (positive : UInt32 → Bool) :
    Silent (configSharedFreq env positive) :=
  Silent.bind confined_get fun _ => .ite (fun _ => confined_emit _) fun _ => confined_emit _

theorem silent_rxfilterNumber (arg : CString) (offset : UInt32) :
    Silent (rxfilterNumber config env arg offset) :=
  .ite (fun _ => .pure _) fun _ => (silent_driverSwCmd env _ _ _).bind fun _ => .pure _

theorem silent_rxPacketFilter (s : CString) : Silent (rxPacketFilter config env s) :=
  .ite (fun _ => .pure _) fun _ => Silent.bind (confined_testmode env _ _) fun _ => .pure _

theorem silent_p2pSetCapability (s : CString) : Silent (p2pSetCapability config s) :=
  .ite (fun _ => Silent.bind (confined_emit _) fun _ => .pure _) fun _ =>
    .ite (fun _ => .pure _) fun _ => .pure _

theorem silent_setSleepAll : Silent (p2pCtrlIfaceSetSleepAll env) := by
  unfold p2pCtrlIfaceSetSleepAll
  split
  · exact .pure _
  · exact Silent.bind (confined_testmode env _ _) fun _ => .pure 0

end Silent

/-! ## Functions that answer -/

/-- The buffer of the reply lies in its object, and has room for a character. -/
def HasRoom (buf : CharPtr) (bufLen : Nat) (mem : Memory) : Prop :=
  0 < bufLen ∧ buf.offset + bufLen ≤ (mem buf.object).length

section Reply
variable {buf : CharPtr} {bufLen : Nat}

theorem stable_hasRoom : Stable (HasRoom buf bufLen) (span buf bufLen) := by
  rintro mem mem' ⟨positive, inside⟩ frame
  exact ⟨positive, by rw [frame.length]; exact inside⟩

theorem confined_write {new : List UInt8} (short : 0 < bufLen → new.length ≤ bufLen) :
    Confined (HasRoom buf bufLen) (span buf bufLen) (onMemory fun mem => mem.write buf new) := by
  refine confined_onMemory fun mem ⟨positive, within⟩ => ?_
  have fits := short positive
  exact (Memory.frame_write (by omega)).mono (Memory.span_subset fits)

theorem confined_snprintf (text : CString) :
    Confined (HasRoom buf bufLen) (span buf bufLen) (snprintf buf bufLen text) :=
  .bind stable_hasRoom (confined_onMemory fun _ room => Memory.frame_snprintf room.2 text)
    fun _ _ => .pure _

/-- The environment prints records the way `print_sta_statistics` does. -/
def Env.PrintsReports (env : Env) : Prop :=
  ∀ bufLen, ∃ stats, env.printStaStatistics bufLen = reportAnswer stats bufLen

theorem length_reportAnswer_le (stats : StaStatistics) (bufLen : Nat) :
    (reportAnswer stats bufLen).1.length ≤ bufLen := by
  rw [reportAnswer]
  split
  next => exact Nat.zero_le _
  next nonzero =>
    rw [List.length_append, List.length_take, List.length_singleton]
    omega

theorem confined_getStaStatistics (config : Config) {env : Env} (prints : env.PrintsReports)
    (wpaS : WpaSupplicant) (addr : CString) :
    Confined (HasRoom buf bufLen) (span buf bufLen)
      (getStaStatistics config env wpaS addr buf bufLen) := by
  unfold getStaStatistics
  split
  · exact .pure _
  · refine .bind stable_hasRoom (confined_testmode env _ _) fun ret _ => ?_
    refine .ite (fun _ => .pure _) fun _ => ?_
    obtain ⟨stats, printed⟩ := prints bufLen
    rw [printed]
    exact .bind stable_hasRoom (confined_write fun _ => length_reportAnswer_le stats bufLen)
      fun _ _ => .pure _

theorem confined_p2pGetCapability (p2p : P2pData) (s : CString) :
    Confined (HasRoom buf bufLen) (span buf bufLen) (p2pGetCapability p2p s buf bufLen) :=
  .ite (fun _ => confined_snprintf _) fun _ => .ite (fun _ => .pure _) fun _ => .pure _

theorem confined_mtkAcs (config : Config) (env : Env) :
    Confined (HasRoom buf bufLen) (span buf bufLen) (do
      let ch ← doMtkAcs config env 6
      onMemory fun mem => mem.write buf [ch]
      return .done 1 : Cmd BranchEnd) := by
  refine .bind stable_hasRoom (silent_doMtkAcs config env 6).confined fun ch _ => ?_
  exact .bind stable_hasRoom (confined_write fun positive => positive) fun _ _ => .pure _

end Reply

/-! ## Functions that take a command apart -/

section Command
variable {cmd : CharPtr} {len : Nat}

theorem stable_ends : Stable (Ends cmd len) (span cmd len) := fun _ _ ends frame => ends.frame frame

theorem strchr_lt {s : CString} {byte : UInt8} {i : Nat} (found : CString.strchr s byte = some i) :
    i < s.length := (List.findIdx?_eq_some_iff_findIdx_eq.mp found).1

theorem run_splitAtBlank (p : CharPtr) (state : DriverState) :
    splitAtBlank p state =
      match CString.strchr (state.mem.string p) 32 with
      | none => .ok (none, state)
      | some k => .ok (some k, { state with mem := state.mem.write (p.add k) [0] }) := by
  rw [splitAtBlank, run_bind, run_readString, except_bind_ok]
  dsimp only
  cases CString.strchr (state.mem.string p) 32 with
  | none => rfl
  | some k => rfl

/-- The blank that is overwritten stands before the end of the command. -/
theorem confined_splitAtBlank {i : Nat} (within : i ≤ len) :
    Confined (Ends cmd len) (span cmd len) (splitAtBlank (cmd.add i)) := by
  intro state value state' ends ran
  rw [run_splitAtBlank] at ran
  have short := ends.length_le within
  cases found : CString.strchr (state.mem.string (cmd.add i)) 32 with
  | none =>
      rw [found] at ran
      obtain ⟨-, rfl⟩ := Prod.mk.inj (Except.ok.inj ran)
      exact ⟨.refl _, rfl⟩
  | some k =>
      rw [found] at ran
      obtain ⟨-, rfl⟩ := Prod.mk.inj (Except.ok.inj ran)
      have before := strchr_lt found
      have inside := ends.inside
      have place : (cmd.add i).add k = cmd.add (i + k) := by simp [CharPtr.add, Nat.add_assoc]
      have one : ([0] : List UInt8).length = 1 := rfl
      have frame := @Memory.frame_write state.mem (cmd.add (i + k)) [0] (by
        simp only [CharPtr.add, one]
        omega)
      rw [one] at frame
      rw [place]
      exact ⟨frame.mono (Memory.span_subset_add (by omega)), rfl⟩

theorem splitAtBlank_before {i k : Nat} (within : i ≤ len)
    (returned : Returned (Ends cmd len) (splitAtBlank (cmd.add i)) (some k)) : i + k < len := by
  obtain ⟨state, state', ends, ran⟩ := returned
  have short := ends.length_le within
  rw [run_splitAtBlank] at ran
  cases found : CString.strchr (state.mem.string (cmd.add i)) 32 with
  | none =>
      rw [found] at ran
      cases (Prod.mk.inj (Except.ok.inj ran)).1
  | some k' =>
      rw [found] at ran
      obtain rfl := Option.some.inj (Prod.mk.inj (Except.ok.inj ran)).1
      have before := strchr_lt found
      omega

theorem confined_setOpps (config : Config) (env : Env) {i : Nat} (within : i ≤ len) :
    Confined (Ends cmd len) (span cmd len) (p2pCtrlIfaceSetOpps config env (cmd.add i)) := by
  refine .bind stable_ends (confined_readString _) fun s _ => ?_
  refine .bind stable_ends (confined_splitAtBlank within) fun found returned => ?_
  cases found with
  | none => exact .throw _
  | some k =>
      have before := splitAtBlank_before within returned
      have place : (cmd.add i).add (k + 1) = cmd.add (i + (k + 1)) := by
        simp [CharPtr.add, Nat.add_assoc]
      refine .bind stable_ends (confined_readString _) fun str _ => ?_
      split
      · exact .pure _
      · rw [place]
        refine .bind stable_ends (confined_splitAtBlank (by omega)) fun _ _ => ?_
        exact .bind stable_ends (confined_testmode env _ _) fun _ _ => .pure 0

theorem confined_setSleep (env : Env) {i : Nat} (within : i ≤ len) :
    Confined (Ends cmd len) (span cmd len) (p2pCtrlIfaceSetSleep env (cmd.add i)) := by
  refine .bind stable_ends (confined_readString _) fun s _ => ?_
  split
  · exact .pure _
  · refine .bind stable_ends (confined_splitAtBlank within) fun _ _ => ?_
    exact .bind stable_ends (confined_testmode env _ _) fun _ _ => .pure 0

theorem add_zero_ptr (p : CharPtr) : p.add 0 = p := rfl

theorem run_tokenize (state : DriverState) :
    tokenize cmd state =
      .ok ((tokenizeSpace state.mem cmd (state.mem.string cmd).length).1, { state with
        mem := (tokenizeSpace state.mem cmd (state.mem.string cmd).length).2 }) := rfl

/-- The separators that are overwritten are characters of the command. -/
theorem confined_tokenize : Confined (Ends cmd len) (span cmd len) (tokenize cmd) := by
  intro state value state' ends ran
  rw [run_tokenize] at ran
  obtain ⟨-, rfl⟩ := Prod.mk.inj (Except.ok.inj ran)
  have short := ends.length_le (Nat.zero_le len)
  have inside := ends.inside
  obtain ⟨rest, here⟩ := Memory.bytes_of_terminated (ends.mem_bytes (Nat.zero_le len))
  rw [add_zero_ptr] at short here
  have length : (cut (state.mem.string cmd)).length = (state.mem.string cmd).length :=
    List.length_map _
  refine ⟨?_, rfl⟩
  rw [tokenizeSpace_eq (Memory.zero_not_mem_string _ _) here, Memory.write_append_rest here length]
  exact (Memory.frame_write (by omega)).mono (Memory.span_subset (by omega))

theorem confined_fourWords : Confined (Ends cmd len) (span cmd len) (fourWords cmd) := by
  refine .bind stable_ends confined_tokenize fun argv _ => ?_
  split
  · refine .bind stable_ends (confined_readString _) fun _ _ => ?_
    refine .bind stable_ends (confined_readString _) fun _ _ => ?_
    exact .bind stable_ends (confined_readString _) fun _ _ => .pure _
  · exact .pure none

theorem confined_setNoa (config : Config) (env : Env) :
    Confined (Ends cmd len) (span cmd len) (p2pCtrlIfaceSetNoa config env cmd) := by
  refine .bind stable_ends confined_fourWords fun found _ => ?_
  split
  · exact .pure _
  · exact confined_testmode env _ _

theorem confined_setPs (config : Config) (env : Env) :
    Confined (Ends cmd len) (span cmd len) (p2pCtrlIfaceSetPs config env cmd) := by
  refine .bind stable_ends confined_fourWords fun found _ => ?_
  split
  · exact .pure _
  · exact confined_testmode env _ _

theorem confined_mcc (config : Config) (wpaS : Option WpaSupplicant) (s : CString) :
    Confined (Ends cmd len) (span cmd len) (mcc config wpaS cmd s) := by
  refine .bind stable_ends (silent_readWpaS wpaS).confined fun wpaS _ => ?_
  refine .ite (fun _ => ?_) fun _ => .pure _
  refine .bind stable_ends (confined_splitAtBlank (Nat.zero_le len)) fun found _ => ?_
  split
  · exact .pure _
  · exact .bind stable_ends (confined_emit _) fun _ _ => .pure _

/-- A value that is not zero has a digit behind the name of the command. -/
theorem long_of_value {config : Config} {s : CString}
    (nonzero : (CString.atoi config.longBits (s.drop 9)).toUInt32.toUInt8 ≠ 0) : 10 ≤ s.length := by
  by_contra short
  rw [List.drop_eq_nil_of_le (by omega)] at nonzero
  exact nonzero rfl

/-- The command that replaces `MIRACAST` is no longer than it. -/
theorem confined_miracast (config : Config) (env : Env) (wpaS : Option WpaSupplicant)
    (s : CString) :
    Confined (Ends cmd s.length) (span cmd s.length) (miracast config env wpaS cmd s) := by
  have follows : Silent (do
      let _ ← readWpaS wpaS
      configSharedFreq env (0 < ·)
      pure ⟨false, -1⟩ : Cmd BranchEnd) :=
    (silent_readWpaS wpaS).bind fun _ => (silent_configSharedFreq env _).bind fun _ => .pure _
  refine .ite (fun _ => follows.confined) fun _ => .ite (fun two => ?_) fun _ => .pure _
  split
  · have long := @long_of_value config s (by rw [two]; decide)
    refine .bind stable_ends (silent_readWpaS wpaS).confined fun _ _ => ?_
    refine .bind stable_ends (confined_emit _) fun _ _ => ?_
    refine .bind stable_ends (confined_onMemory fun mem ends => ?_) fun _ _ => .pure _
    have inside := ends.inside
    have cleared : Frame (span cmd s.length) mem (mem.memset cmd 0 s.length) :=
      Memory.frame_memset (by omega) 0
    have name : (ascii "MIRACAST 2").length = 10 := rfl
    have written := @Memory.frame_write (mem.memset cmd 0 s.length) cmd (ascii "MIRACAST 2")
      (by rw [cleared.length, name]; omega)
    exact cleared.trans (written.mono (Memory.span_subset (by rw [name]; exact long)))
  · exact follows.confined

end Command

/-! ## The branches -/

/-- Where the branch looks at the command from. -/
def Branch.offset : Branch → Nat
  | .p2pSetOpps => 13
  | .p2pSetSleepOf => 14
  | _ => 0

/-- A test that only commands pass which reach as far as `n`. -/
def Test.reaches (n : Nat) : Test → Bool
  | .strncmp text k => (ascii text).length == k && !(ascii text).contains 0 && decide (n ≤ k)
  | .strncasecmp _ _ | .strcasecmp _ => n == 0

theorem Test.length_le {n : Nat} {test : Test} {s : CString} (reaches : test.reaches n = true)
    (holds : test.holds s = true) : n ≤ s.length := by
  cases test with
  | strncmp text k =>
      simp only [Test.reaches, Bool.and_eq_true, Bool.not_eq_true', beq_iff_eq,
        decide_eq_true_eq] at reaches
      obtain ⟨⟨length, whole⟩, within⟩ := reaches
      have begins := CString.isPrefix_of_strncmp (beq_iff_eq.mp holds) length (by simpa using whole)
      have longer := begins.length_le
      omega
  | strncasecmp text k =>
      obtain rfl := beq_iff_eq.mp reaches
      exact Nat.zero_le _
  | strcasecmp text =>
      obtain rfl := beq_iff_eq.mp reaches
      exact Nat.zero_le _

/-- Every option, for the chain of which all others are parts. -/
def Config.full : Config := ⟨true, true, true, true, true, 32, by decide, 4, 0⟩

theorem chain_subset (config : Config) : chain config ⊆ chain .full := by
  intro link here
  simp only [chain, optionTests, List.mem_append, List.mem_ite_nil_right] at here ⊢
  have all : Config.full.hotspotMgr = true ∧ Config.full.lteCoex = true ∧
      Config.full.wapi = true ∧ Config.full.wfdSink = true ∧ Config.full.p2pSigma = true :=
    ⟨rfl, rfl, rfl, rfl, rfl⟩
  tauto

theorem offset_le_length (config : Config) (s : CString) :
    (branchOf config s).offset ≤ s.length := by
  rw [branchOf]
  cases found : (chain config).find? fun link => link.1.holds s with
  | none => exact Nat.zero_le _
  | some link =>
      have holds : link.1.holds s = true := @List.find?_some _ (·.1.holds s) link _ found
      have here := chain_subset config (List.mem_of_find?_eq_some found)
      have reaches : (chain .full).all (fun link => link.1.reaches link.2.offset) = true := by decide
      exact Test.length_le (List.all_eq_true.mp reaches link here) holds

section Body
variable (config : Config) {env : Env} (drv : DrvData) (wpaS : Option WpaSupplicant)
  {cmd buf : CharPtr} {bufLen : Nat} (s : CString)

/-- The command and the buffer before a branch. -/
def Placed (cmd buf : CharPtr) (bufLen len : Nat) (mem : Memory) : Prop :=
  Ends cmd len mem ∧ HasRoom buf bufLen mem

theorem Confined.reply {program : Cmd BranchEnd}
    (confined : Confined (HasRoom buf bufLen) (span buf bufLen) program) :
    Confined (Placed cmd buf bufLen s.length) (span cmd s.length ∪ span buf bufLen) program :=
  confined.mono (fun _ placed => placed.2) Set.subset_union_right

theorem Confined.command {program : Cmd BranchEnd}
    (confined : Confined (Ends cmd s.length) (span cmd s.length) program) :
    Confined (Placed cmd buf bufLen s.length) (span cmd s.length ∪ span buf bufLen) program :=
  confined.mono (fun _ placed => placed.1) Set.subset_union_left

/-- Behind `wpa_s` a branch takes the command apart, and hands its result on. -/
theorem confined_behind {program : WpaSupplicant → Cmd Int}
    (confined : ∀ ctx, Confined (Ends cmd s.length) (span cmd s.length) (program ctx)) :
    Confined (Ends cmd s.length) (span cmd s.length) (do
      let ctx ← readWpaS wpaS
      return .done (← program ctx) : Cmd BranchEnd) :=
  .bind stable_ends (silent_readWpaS wpaS).confined fun ctx _ =>
    .bind stable_ends (confined ctx) fun _ _ => .pure _

theorem confined_body (prints : env.PrintsReports) {branch : Branch}
    (within : branch.offset ≤ s.length) :
    Confined (Placed cmd buf bufLen s.length) (span cmd s.length ∪ span buf bufLen)
      (body config env drv wpaS cmd buf bufLen s branch) := by
  cases branch with
  | powermode | btcoexscanStart | btcoexscanStop | btcoexmode | getpower => exact .pure _
  | getStaStatistics =>
      refine .reply s (.bind stable_hasRoom (silent_readWpaS wpaS).confined fun _ _ => ?_)
      exact .bind stable_hasRoom (confined_getStaStatistics config prints _ _) fun _ _ => .pure _
  | macaddr =>
      refine .reply s (.bind stable_hasRoom (silent_readWpaS wpaS).confined fun _ _ => ?_)
      exact .bind stable_hasRoom (confined_snprintf _) fun _ _ => .pure _
  | country =>
      refine Silent.confined (.ite (fun _ => .pure _) fun _ => ?_)
      refine (silent_setCountry env _ _).bind fun _ => .ite (fun _ => ?_) fun _ => .pure _
      exact (silent_readWpaS wpaS).bind fun _ =>
        (silent_notifyCountryChange _).bind fun _ => .pure _
  | start =>
      refine Silent.confined (.bind (confined_perform _ _) fun _ => ?_)
      exact .ite (fun _ => Silent.bind (confined_emit _) fun _ => .pure _) fun _ => .pure _
  | stop =>
      have down : Silent (do
          let ret ← perform (.setIfaceFlags drv.firstBssIfname false) env.setIfaceFlags
          if ret = 0 then emit (.driverState (ascii "CTRL-EVENT-DRIVER-STATE STOPPED"))
          return .done ret : Cmd BranchEnd) :=
        .bind (confined_perform _ _) fun _ =>
          .ite (fun _ => Silent.bind (confined_emit _) fun _ => .pure _) fun _ => .pure _
      refine Silent.confined (.ite (fun _ => ?_) fun _ => down)
      exact (silent_readWpaS wpaS).bind fun _ => Silent.bind (confined_perform _ _) fun _ => down
  | rxfilterAdd | rxfilterRemove => exact (silent_rxfilterNumber config env _ _).confined
  | rxfilterStop | rxfilterStart =>
      exact Silent.confined ((silent_driverSwCmd env _ _ _).bind fun _ => .pure _)
  | staBlock | staUnblock =>
      exact Silent.confined ((silent_staBlock env _ _).bind fun _ => .pure _)
  | setMaxClient => exact Silent.confined (.bind (confined_testmode env _ _) fun _ => .pure _)
  | mtkAcs => exact .reply s (confined_mtkAcs config env)
  | setWapiKey => exact Silent.confined ((silent_setWapiKey env _).bind fun _ => .pure _)
  | wapiMsgSend => exact Silent.confined (.bind (.pure _) fun _ => .pure _)
  | p2pGetCap =>
      refine .reply s (.bind stable_hasRoom (silent_readWpaS wpaS).confined fun _ _ => ?_)
      split
      · exact .pure _
      · exact .bind stable_hasRoom (confined_p2pGetCapability _ _) fun _ _ => .pure _
  | p2pSetCap =>
      refine Silent.confined ((silent_readWpaS wpaS).bind fun _ => ?_)
      split
      · exact .pure _
      · exact (silent_p2pSetCapability config _).bind fun _ => .pure _
  | miracast => exact .command s (confined_miracast config env wpaS s)
  | p2pUseMcc =>
      refine Silent.confined ((silent_readWpaS wpaS).bind fun _ => .ite (fun _ => ?_) fun _ => ?_)
      · exact Silent.bind (confined_emit _) fun _ => .pure _
      · exact (silent_configSharedFreq env _).bind fun _ => .pure _
  | wfdDataUpdate =>
      refine Silent.confined ((silent_readWpaS wpaS).bind fun _ => ?_)
      exact Silent.bind (confined_testmode env _ _) fun _ => .pure _
  | mcc => exact .command s (confined_mcc config wpaS s)
  | p2pSetOpps =>
      exact .command s (confined_behind wpaS s fun _ => confined_setOpps config env within)
  | p2pSetPowerSave =>
      refine Silent.confined ((silent_readWpaS wpaS).bind fun _ => ?_)
      exact Silent.bind (Silent.bind (confined_testmode env _ _) fun _ => .pure _) fun _ => .pure _
  | p2pSetSleepOf =>
      exact .command s (confined_behind wpaS s fun _ => confined_setSleep env within)
  | p2pSetSleep =>
      refine Silent.confined ((silent_readWpaS wpaS).bind fun _ => ?_)
      exact (silent_setSleepAll env).bind fun _ => .pure _
  | sigmaMode =>
      refine .command s (.bind stable_ends (confined_splitAtBlank (Nat.zero_le _)) fun found _ => ?_)
      split
      · exact .pure _
      · exact .pure _
  | p2pSetNoa => exact .command s (confined_behind wpaS s fun _ => confined_setNoa config env)
  | p2pSetPs => exact .command s (confined_behind wpaS s fun _ => confined_setPs config env)
  | setsuspendmode => exact Silent.confined (.bind (confined_testmode env _ _) fun _ => .pure _)
  | rxPacketFilter => exact (silent_rxPacketFilter config env s).confined
  | transparent => exact Silent.confined (.bind (confined_testmode env _ _) fun _ => .pure _)

end Body

/-! ## The dispatcher -/

section Dispatcher
variable {config : Config} {env : Env} {bss : Bss} {cmd buf : CharPtr} {bufLen : Nat}
  {state state' : DriverState} {ret : Int}

/-- `drv_errors` behind a failure. -/
def Config.countFailure (config : Config) (drvErrors : Nat) : Nat :=
  if config.sequentialErrors < drvErrors + 1 then 0 else drvErrors + 1

theorem run_privateCmd_failed (failed : env.privateIoctl state.trace < 0) :
    ∃ ret trace, privateCmd config env bss cmd buf bufLen state = .ok (ret,
      ⟨(state.mem.memset buf 0 bufLen).snprintf buf bufLen (ascii "FAIL\n"), trace,
        config.countFailure state.drvErrors⟩) := by
  simp only [privateCmd, run_bind, run_readString, run_onMemory, run_get, run_perform,
    except_bind_ok]
  rw [if_pos failed]
  exact ⟨_, _, rfl⟩

theorem run_privateCmd_answered (answered : ¬ env.privateIoctl state.trace < 0) :
    ∃ ret trace, privateCmd config env bss cmd buf bufLen state = .ok (ret,
      ⟨state.mem.memset buf 0 bufLen, trace, 0⟩) := by
  have result (name : CString) (middle : DriverState) :
      (do
        if CString.strncasecmp 12 name (ascii "WLS_BATCHING") = 0 then
          return (← readString buf).length
        return 0 : Cmd Int) middle =
        .ok (if CString.strncasecmp 12 name (ascii "WLS_BATCHING") = 0 then
          ((middle.mem.string buf).length : Int) else 0, middle) := by
    split
    · rfl
    · rfl
  simp only [privateCmd, run_bind, run_readString, run_onMemory, run_get, run_perform,
    except_bind_ok]
  rw [if_neg answered]
  exact ⟨_, _, result _ _⟩

/-- The private command writes the reply only. -/
theorem privateCmd_frame (room : HasRoom buf bufLen state.mem)
    (ran : privateCmd config env bss cmd buf bufLen state = .ok (ret, state')) :
    Frame (span buf bufLen) state.mem state'.mem := by
  have cleared : Frame (span buf bufLen) state.mem (state.mem.memset buf 0 bufLen) :=
    Memory.frame_memset room.2 0
  by_cases failed : env.privateIoctl state.trace < 0
  · obtain ⟨ret', trace, ran'⟩ :=
      @run_privateCmd_failed config env bss cmd buf bufLen state failed
    obtain ⟨-, rfl⟩ := Prod.mk.inj (Except.ok.inj (ran.symm.trans ran'))
    have room' := stable_hasRoom _ _ room cleared
    exact cleared.trans (Memory.frame_snprintf room'.2 _)
  · obtain ⟨ret', trace, ran'⟩ :=
      @run_privateCmd_answered config env bss cmd buf bufLen state failed
    obtain ⟨-, rfl⟩ := Prod.mk.inj (Except.ok.inj (ran.symm.trans ran'))
    exact cleared

/-- Whatever a command is and whatever is answered, only its own characters and the buffer of
the reply are written, and nothing behind the end of an object. -/
theorem driverCmd_writes_within (prints : env.PrintsReports)
    (terminated : 0 ∈ state.mem.bytes cmd) (room : HasRoom buf bufLen state.mem)
    (ran : driverCmd config env bss cmd buf bufLen state = .ok (ret, state')) :
    Frame (span cmd (state.mem.string cmd).length ∪ span buf bufLen) state.mem state'.mem := by
  have ends := Memory.ends_of_terminated terminated
  rcases driverCmd_cases ran with ⟨-, -, rfl⟩ | ⟨drv, wpaS, ended, middle, -, branch, done⟩
  · exact .refl _
  · obtain ⟨frame, -⟩ := confined_body config drv wpaS _ prints (offset_le_length config _) state
      ended middle ⟨ends, room⟩ branch
    rcases done with ⟨-, -, rfl⟩ | ⟨-, sent⟩
    · exact frame
    · have room' : HasRoom buf bufLen middle.mem :=
        ⟨room.1, by rw [frame.length]; exact room.2⟩
      exact frame.trans ((privateCmd_frame room' sent).mono Set.subset_union_right)

end Dispatcher

/-- An environment that prints the record without a count. -/
def Env.printing : Env := { Env.obliging with printStaStatistics := reportAnswer .zero }

theorem printing_printsReports : Env.printing.PrintsReports := fun _ => ⟨.zero, rfl⟩

theorem stateOf_placed (command : String) :
    0 ∈ (stateOf command).mem.bytes ⟨0, 0⟩ ∧ HasRoom ⟨1, 0⟩ 64 (stateOf command).mem :=
  ⟨List.mem_append_right _ (List.mem_singleton_self 0), by decide, by simp [stateOf]⟩

theorem miracast_writes_within :
    ∃ ret state', driverCmd .full .printing stationBss ⟨0, 0⟩ ⟨1, 0⟩ 64
        (stateOf "MIRACAST 2 freq=2437") = .ok (ret, state') ∧
      Frame (span ⟨0, 0⟩ ((stateOf "MIRACAST 2 freq=2437").mem.string ⟨0, 0⟩).length ∪
        span ⟨1, 0⟩ 64) (stateOf "MIRACAST 2 freq=2437").mem state'.mem := by
  obtain ⟨terminated, room⟩ := stateOf_placed "MIRACAST 2 freq=2437"
  cases ran : driverCmd .full .printing stationBss ⟨0, 0⟩ ⟨1, 0⟩ 64
      (stateOf "MIRACAST 2 freq=2437") with
  | error fault =>
      have returns : (driverCmd .full .printing stationBss ⟨0, 0⟩ ⟨1, 0⟩ 64
          (stateOf "MIRACAST 2 freq=2437")).isOk = true := by decide +kernel
      rw [ran] at returns
      cases returns
  | ok ended =>
      exact ⟨ended.1, ended.2, rfl,
        driverCmd_writes_within printing_printsReports terminated room ran⟩

/-! ## The count of errors -/

/-- The private commands that have failed since the last one that did not, in a record that
is read from its end. -/
def failuresInRow (answers : List Effect → Int) : List Effect → Nat
  | [] => 0
  | .privateIoctl _ _ _ :: earlier =>
      if answers earlier.reverse < 0 then failuresInRow answers earlier + 1 else 0
  | _ :: earlier => failuresInRow answers earlier

def Config.Counted (config : Config) (answers : List Effect → Int) (state : DriverState) : Prop :=
  state.drvErrors = failuresInRow answers state.trace.reverse % (config.sequentialErrors + 1)

theorem failuresInRow_public {answers : List Effect → Int} {late : List Effect}
    (isPublic : ∀ effect ∈ late, effect.IsPublic) (earlier : List Effect) :
    failuresInRow answers (late ++ earlier) = failuresInRow answers earlier := by
  induction late with
  | nil => rfl
  | cons effect late ih =>
      have rest := ih fun other here => isPublic other (List.mem_cons_of_mem _ here)
      have here := isPublic effect List.mem_cons_self
      cases effect with
      | privateIoctl => exact here.elim
      | _ => exact rest

section Counting
variable {config : Config} {env : Env} {bss : Bss} {cmd buf : CharPtr} {bufLen : Nat}
  {state state' : DriverState} {ret : Int}

/-- The count starts again behind its limit. -/
theorem countFailure_mod (config : Config) (failures : Nat) :
    config.countFailure (failures % (config.sequentialErrors + 1)) =
      (failures + 1) % (config.sequentialErrors + 1) := by
  have below : failures % (config.sequentialErrors + 1) < config.sequentialErrors + 1 :=
    Nat.mod_lt failures (Nat.succ_pos _)
  rw [Config.countFailure, ← Nat.mod_add_mod failures (config.sequentialErrors + 1) 1]
  split
  next full =>
    have last : failures % (config.sequentialErrors + 1) + 1 = config.sequentialErrors + 1 := by
      omega
    rw [last, Nat.mod_self]
  next more => exact (Nat.mod_eq_of_lt (by omega)).symm

theorem privateCmd_counts (counted : config.Counted env.privateIoctl state)
    (ran : privateCmd config env bss cmd buf bufLen state = .ok (ret, state')) :
    config.Counted env.privateIoctl state' := by
  obtain ⟨sent, sentState, sentRan, trace⟩ :=
    privateCmd_sends config env bss cmd buf bufLen state
  obtain ⟨-, rfl⟩ := Prod.mk.inj (Except.ok.inj (ran.symm.trans sentRan))
  rw [Config.Counted, trace, List.reverse_append, List.reverse_singleton, List.singleton_append,
    failuresInRow, List.reverse_reverse]
  by_cases failed : env.privateIoctl state.trace < 0
  · obtain ⟨ret', trace', ran'⟩ :=
      @run_privateCmd_failed config env bss cmd buf bufLen state failed
    obtain ⟨-, same⟩ := Prod.mk.inj (Except.ok.inj (ran.symm.trans ran'))
    rw [if_pos failed, same, counted, countFailure_mod]
  · obtain ⟨ret', trace', ran'⟩ :=
      @run_privateCmd_answered config env bss cmd buf bufLen state failed
    obtain ⟨-, same⟩ := Prod.mk.inj (Except.ok.inj (ran.symm.trans ran'))
    rw [if_neg failed, same, Nat.zero_mod]

theorem driverCmd_counts (prints : env.PrintsReports) (terminated : 0 ∈ state.mem.bytes cmd)
    (room : HasRoom buf bufLen state.mem) (counted : config.Counted env.privateIoctl state)
    (ran : driverCmd config env bss cmd buf bufLen state = .ok (ret, state')) :
    config.Counted env.privateIoctl state' := by
  have ends := Memory.ends_of_terminated terminated
  rcases driverCmd_cases ran with ⟨-, -, rfl⟩ | ⟨drv, wpaS, ended, middle, -, branch, done⟩
  · exact counted
  · obtain ⟨-, errors⟩ := confined_body config drv wpaS _ prints (offset_le_length config _) state
      ended middle ⟨ends, room⟩ branch
    obtain ⟨emitted, trace, isPublic⟩ := emits_body config env drv wpaS cmd buf bufLen _ _ state
      ended middle branch
    have counted' : config.Counted env.privateIoctl middle := by
      rw [Config.Counted, errors, trace, List.reverse_append, failuresInRow_public]
      · exact counted
      · exact fun effect here => isPublic effect (List.mem_reverse.mp here)
    rcases done with ⟨-, -, rfl⟩ | ⟨-, sent⟩
    · exact counted'
    · exact privateCmd_counts counted' sent

end Counting

/-- One command of a process.  Before it the callers do with the memory what they like. -/
inductive Issued (config : Config) (answers : List Effect → Int) :
    DriverState → DriverState → Prop where
  | command {env : Env} {bss : Bss} {cmd buf : CharPtr} {bufLen : Nat} (mem : Memory)
      {state state' : DriverState} {ret : Int} (answered : env.privateIoctl = answers)
      (prints : env.PrintsReports) (terminated : 0 ∈ mem.bytes cmd) (room : HasRoom buf bufLen mem)
      (ran : driverCmd config env bss cmd buf bufLen { state with mem } = .ok (ret, state')) :
      Issued config answers state state'

/-- In every run, `drv_errors` is the number of private commands that have failed since the
last success, counted up to the limit again and again. -/
theorem errors_counted {config : Config} {answers : List Effect → Int} {mem : Memory}
    {state : DriverState}
    (runs : Relation.ReflTransGen (Issued config answers) ⟨mem, [], 0⟩ state) :
    state.drvErrors =
      failuresInRow answers state.trace.reverse % (config.sequentialErrors + 1) := by
  induction runs with
  | refl => rfl
  | @tail before after _ issued ih =>
      obtain ⟨mem, answered, prints, terminated, room, ran⟩ := issued
      subst answered
      have counted : config.Counted _ { before with mem } := ih
      exact driverCmd_counts prints terminated room counted ran

/-- An environment whose driver refuses every private command. -/
def Env.refusing : Env := { Env.printing with privateIoctl := fun _ => -1 }

theorem errors_counted_refused :
    ∃ ret state', driverCmd .full .refusing stationBss ⟨0, 0⟩ ⟨1, 0⟩ 64 (stateOf "X") =
        .ok (ret, state') ∧
      state'.drvErrors = failuresInRow (fun _ => -1) state'.trace.reverse % 5 := by
  obtain ⟨terminated, room⟩ := stateOf_placed "X"
  cases ran : driverCmd .full .refusing stationBss ⟨0, 0⟩ ⟨1, 0⟩ 64 (stateOf "X") with
  | error fault =>
      have returns : (driverCmd .full .refusing stationBss ⟨0, 0⟩ ⟨1, 0⟩ 64
          (stateOf "X")).isOk = true := by decide +kernel
      rw [ran] at returns
      cases returns
  | ok ended =>
      have issued : Issued .full (fun _ => -1) ⟨fun _ => [], [], 0⟩ ended.2 :=
        .command _ rfl (fun _ => ⟨.zero, rfl⟩) terminated room ran
      exact ⟨ended.1, ended.2, rfl, errors_counted (.single issued)⟩

end Mt6757.Supplicant
