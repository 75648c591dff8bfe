import Mt6757.Supplicant.Emission

/-!
# Receive filters

`mtk_rx_packet_filter` takes three numbers of base 16 and sends their halves; `rxfilter-add`
and its siblings send a number and an operation added up in one word.
-/

set_option autoImplicit false

namespace Mt6757.Supplicant

open CString (ascii)

/-! ## The packet filter -/

/-- A command with three numbers of 16 digits. -/
structure FilterCommand (s first second third : CString) : Prop where
  text : s = ascii "mtk_rx_packet_filter " ++ (first ++ 32 :: (second ++ 32 :: third))
  length : ∀ number ∈ [first, second, third], number.length = 16
  digits : ∀ number ∈ [first, second, third], ∀ byte ∈ number, CString.isDigit 16 byte = true

def filterRequest (first second third : Nat) : TestmodeRequest :=
  .of 103 32 (.rxFilter
    (UInt32.ofNat (first / 2 ^ 32)) (UInt32.ofNat (first % 2 ^ 32))
    (UInt32.ofNat (second / 2 ^ 32)) (UInt32.ofNat (second % 2 ^ 32))
    (UInt32.ofNat (third / 2 ^ 32)) (UInt32.ofNat (third % 2 ^ 32)))

/-- Three numbers are sent, and anything else is refused. -/
structure PacketFilterRight (config : Config) (env : Env) (bss : Bss) (cmd buf : CharPtr)
    (bufLen : Nat) (state : DriverState) : Prop where
  sends : ∀ first second third, FilterCommand (state.mem.string cmd) first second third →
    ∃ ret state', driverCmd config env bss cmd buf bufLen state = .ok (ret, state') ∧
      state'.trace = state.trace ++ [.testmode .priv
        (filterRequest (CString.digitsValue 16 first) (CString.digitsValue 16 second)
          (CString.digitsValue 16 third))]
  refuses : (¬ ∃ first second third, FilterCommand (state.mem.string cmd) first second third) →
    ∃ state', driverCmd config env bss cmd buf bufLen state = .ok (-1, state') ∧
      state'.trace = state.trace

/-- Both halves of a number are at most the largest `long`. -/
def HalvesFit (bits : Nat) (number : CString) : Prop :=
  CString.digitsValue 16 number / 2 ^ 32 < 2 ^ (bits - 1) ∧
    CString.digitsValue 16 number % 2 ^ 32 < 2 ^ (bits - 1)

theorem toNat_ofInt (z : Int) : (UInt32.ofInt z).toNat = (z % 2 ^ 32).toNat := by
  rw [UInt32.ofInt, UInt32.toNat_ofNat']
  exact Nat.mod_eq_of_lt (by omega)

section Halves
variable {config : Config} {s number front back : CString}

theorem filterWord_eq_iff (config : Config) {index : Nat} {digits : CString}
    (here : ((s.drop index).take 8) = digits) (length : digits.length = 8)
    (hex : ∀ byte ∈ digits, CString.isDigit 16 byte = true) :
    filterWord config s index = UInt32.ofNat (CString.digitsValue 16 digits) ↔
      CString.digitsValue 16 digits < 2 ^ (config.longBits - 1) := by
  have nonempty : digits ≠ [] := by
    rintro rfl
    cases length
  have small := CString.digitsValue_lt hex
  rw [length] at small
  rw [filterWord, here, CString.strtol_sixteen _ nonempty hex, ← CString.clampLong_eq_iff]
  obtain ⟨nonneg, le⟩ := CString.clampLong_nonneg config.longBits (CString.digitsValue 16 digits)
  rw [← UInt32.toNat_inj, toNat_ofInt, UInt32.toNat_ofNat']
  omega

theorem halves_of_number (text : s = front ++ (number ++ back)) (length : number.length = 16) :
    (s.drop front.length).take 8 = number.take 8 ∧
      (s.drop (front.length + 8)).take 8 = number.drop 8 := by
  constructor
  · rw [text, List.drop_left, List.take_append_of_le_length (by omega)]
  · rw [text, ← List.drop_drop, List.drop_left, List.drop_append_of_le_length (by omega)]
    rw [List.take_append_of_le_length (by rw [List.length_drop]; omega)]
    exact List.take_of_length_le (by rw [List.length_drop]; omega)

theorem digitsValue_halves (length : number.length = 16)
    (hex : ∀ byte ∈ number, CString.isDigit 16 byte = true) :
    CString.digitsValue 16 number / 2 ^ 32 = CString.digitsValue 16 (number.take 8) ∧
      CString.digitsValue 16 number % 2 ^ 32 = CString.digitsValue 16 (number.drop 8) := by
  have low := @CString.digitsValue_lt 16 (number.drop 8)
    fun byte here => hex byte (List.mem_of_mem_drop here)
  have split := @CString.digitsValue_append 16 (number.take 8) (number.drop 8)
  rw [List.take_append_drop] at split
  rw [List.length_drop, length] at low split
  omega

/-- Both words that are read of a number are right exactly if its halves fit. -/
theorem filterWords_eq_iff (config : Config) (text : s = front ++ (number ++ back))
    (length : number.length = 16)
    (hex : ∀ byte ∈ number, CString.isDigit 16 byte = true) :
    filterWord config s front.length = UInt32.ofNat (CString.digitsValue 16 number / 2 ^ 32) ∧
        filterWord config s (front.length + 8) =
          UInt32.ofNat (CString.digitsValue 16 number % 2 ^ 32) ↔
      HalvesFit config.longBits number := by
  obtain ⟨high, low⟩ := halves_of_number text length
  obtain ⟨upper, lower⟩ := digitsValue_halves length hex
  rw [HalvesFit, upper, lower]
  have ofHigh := filterWord_eq_iff config high
    (by rw [List.length_take]; omega) fun byte here => hex byte (List.mem_of_mem_take here)
  have ofLow := filterWord_eq_iff config low
    (by rw [List.length_drop]; omega) fun byte here => hex byte (List.mem_of_mem_drop here)
  exact and_congr ofHigh ofLow

end Halves

section Command
variable {config : Config} {env : Env} {bss : Bss} {drv : DrvData} {wpaS : Option WpaSupplicant}
  {cmd buf : CharPtr} {bufLen : Nat} {state : DriverState} {s first second third : CString}

theorem branchOf_rxPacketFilter (begins : ascii "mtk_rx_packet_filter " <+: s) :
    branchOf config s = .rxPacketFilter := by
  obtain ⟨rest, rfl⟩ := begins
  have split : chain config =
      (optionTests config ++ [(.strncmp "P2P_SET_NOA" 11, .p2pSetNoa),
        (.strncmp "P2P_SET_PS" 10, .p2pSetPs),
        (.strncasecmp "SETSUSPENDMODE " 15, .setsuspendmode)]) ++
        (.strncasecmp "mtk_rx_packet_filter " 21, .rxPacketFilter) :: [] := by
    simp [chain, lastTests]
  refine branchOf_eq split ?_ rest rfl
  rw [List.all_append, optionTests_refuse (by decide)]
  decide

def wordsRequest (config : Config) (s : CString) : TestmodeRequest :=
  .of 103 32 (.rxFilter (filterWord config s 21) (filterWord config s 29)
    (filterWord config s 38) (filterWord config s 46) (filterWord config s 55)
    (filterWord config s 63))

theorem driverCmd_filter_refused (set : bss.Dispatches drv wpaS)
    (begins : ascii "mtk_rx_packet_filter " <+: state.mem.string cmd)
    (other : (state.mem.string cmd).length ≠ 71) :
    driverCmd config env bss cmd buf bufLen state = .ok (-1, state) := by
  have refused : body config env drv wpaS cmd buf bufLen (state.mem.string cmd) .rxPacketFilter
      state = .ok (.done (-1), state) := by
    simp only [body, rxPacketFilter]
    rw [if_pos other]
    rfl
  rw [driverCmd_dispatched set, branchOf_rxPacketFilter begins, refused]
  rfl

theorem driverCmd_filter_sent (config : Config) (env : Env) (buf : CharPtr) (bufLen : Nat)
    (set : bss.Dispatches drv wpaS)
    (begins : ascii "mtk_rx_packet_filter " <+: state.mem.string cmd)
    (long : (state.mem.string cmd).length = 71) :
    ∃ ret state', driverCmd config env bss cmd buf bufLen state = .ok (ret, state') ∧
      state'.trace = state.trace ++
        [.testmode .priv (wordsRequest config (state.mem.string cmd))] := by
  have sent : ∃ ret, body config env drv wpaS cmd buf bufLen (state.mem.string cmd)
      .rxPacketFilter state = .ok (.done ret, { state with
        trace := state.trace ++
          [.testmode .priv (wordsRequest config (state.mem.string cmd))] }) := by
    simp only [body, rxPacketFilter]
    rw [if_neg (not_not_intro long)]
    exact ⟨_, rfl⟩
  obtain ⟨ret, sent⟩ := sent
  refine ⟨ret, { state with
    trace := state.trace ++ [.testmode .priv (wordsRequest config (state.mem.string cmd))] }, ?_,
    rfl⟩
  rw [driverCmd_dispatched set, branchOf_rxPacketFilter begins, sent]
  rfl

theorem FilterCommand.begins (command : FilterCommand s first second third) :
    ascii "mtk_rx_packet_filter " <+: s :=
  ⟨_, command.text.symm⟩

theorem FilterCommand.long (command : FilterCommand s first second third) : s.length = 71 := by
  have one := command.length first (by simp)
  have two := command.length second (by simp)
  have three := command.length third (by simp)
  have name : (ascii "mtk_rx_packet_filter ").length = 21 := rfl
  rw [command.text]
  simp only [List.length_append, List.length_cons, name]
  omega

theorem FilterCommand.request_eq_iff (command : FilterCommand s first second third) :
    wordsRequest config s = filterRequest (CString.digitsValue 16 first)
        (CString.digitsValue 16 second) (CString.digitsValue 16 third) ↔
      ∀ number ∈ [first, second, third], HalvesFit config.longBits number := by
  have name : (ascii "mtk_rx_packet_filter ").length = 21 := rfl
  have one := command.length first (by simp)
  have two := command.length second (by simp)
  have ofFirst := filterWords_eq_iff config command.text one
    (command.digits first (by simp))
  have ofSecond := @filterWords_eq_iff s second
    (ascii "mtk_rx_packet_filter " ++ first ++ [32]) (32 :: third) config
    (by rw [command.text]; simp) two (command.digits second (by simp))
  have ofThird := @filterWords_eq_iff s third
    (ascii "mtk_rx_packet_filter " ++ first ++ [32] ++ second ++ [32]) [] config
    (by rw [command.text]; simp) (command.length third (by simp))
    (command.digits third (by simp))
  simp only [List.length_append, name, one, two, List.length_singleton] at ofFirst ofSecond ofThird
  rw [List.forall_mem_cons, List.forall_mem_cons, List.forall_mem_singleton, ← ofFirst, ← ofSecond,
    ← ofThird]
  simp only [wordsRequest, filterRequest, TestmodeRequest.of, TestmodeRequest.mk.injEq,
    TestmodeParams.rxFilter.injEq, true_and, and_true, and_assoc]

/-- A command that is no three numbers, but as long as one, is sent all the same. -/
theorem not_right_of_malformed (config : Config) (env : Env) (buf : CharPtr) (bufLen : Nat)
    (set : bss.Dispatches drv wpaS)
    (begins : ascii "mtk_rx_packet_filter " <+: state.mem.string cmd)
    (malformed : ¬ ∃ first second third, FilterCommand (state.mem.string cmd) first second third)
    (long : (state.mem.string cmd).length = 71) :
    ¬ PacketFilterRight config env bss cmd buf bufLen state := by
  intro right
  obtain ⟨state', ran, trace⟩ := right.refuses malformed
  obtain ⟨ret', state'', ran', trace'⟩ := driverCmd_filter_sent config env buf bufLen set begins long
  obtain ⟨-, rfl⟩ := Prod.mk.inj (Except.ok.inj (ran.symm.trans ran'))
  have grown := congrArg List.length (trace.symm.trans trace')
  rw [List.length_append, List.length_singleton] at grown
  omega

/-- A `long` of more than 32 bits has room for every half. -/
theorem FilterCommand.fits (command : FilterCommand s first second third)
    (wide : 33 ≤ config.longBits) :
    ∀ number ∈ [first, second, third], HalvesFit config.longBits number := by
  intro number here
  have small := CString.digitsValue_lt (command.digits number here)
  rw [command.length number here] at small
  have room : 2 ^ 32 ≤ 2 ^ (config.longBits - 1) := Nat.pow_le_pow_right (by decide) (by omega)
  constructor
  · omega
  · omega

/-- The command is handled as it should be exactly if the halves of its numbers fit into a
`long`, or it does not have three numbers, and not 71 characters either. -/
theorem packet_filter_iff (env : Env) (buf : CharPtr) (bufLen : Nat) (set : bss.Dispatches drv wpaS)
    (begins : ascii "mtk_rx_packet_filter " <+: state.mem.string cmd) :
    PacketFilterRight config env bss cmd buf bufLen state ↔
      (∀ first second third, FilterCommand (state.mem.string cmd) first second third →
          ∀ number ∈ [first, second, third], HalvesFit config.longBits number) ∧
        ((¬ ∃ first second third, FilterCommand (state.mem.string cmd) first second third) →
          (state.mem.string cmd).length ≠ 71) := by
  constructor
  · intro right
    constructor
    · intro first second third command
      obtain ⟨ret, state', ran, trace⟩ := right.sends first second third command
      obtain ⟨ret', state'', ran', trace'⟩ :=
        driverCmd_filter_sent config env buf bufLen set begins command.long
      obtain ⟨rfl, rfl⟩ := Prod.mk.inj (Except.ok.inj (ran.symm.trans ran'))
      have same := List.append_cancel_left (trace'.symm.trans trace)
      obtain ⟨-, request⟩ := Effect.testmode.inj (List.singleton_inj.mp same)
      exact command.request_eq_iff.mp request
    · intro malformed long
      exact not_right_of_malformed config env buf bufLen set begins malformed long right
  · intro both
    constructor
    · intro first second third command
      obtain ⟨ret, state', ran, trace⟩ :=
        driverCmd_filter_sent config env buf bufLen set begins command.long
      refine ⟨ret, state', ran, ?_⟩
      rw [trace, command.request_eq_iff.mpr (both.1 first second third command)]
    · intro malformed
      exact ⟨state, driverCmd_filter_refused set begins (both.2 malformed), rfl⟩

end Command

def exampleFilter : String :=
  "mtk_rx_packet_filter 00000000000000FE 0000000000000000 0000000000000000"

theorem exampleFilter_command :
    FilterCommand (ascii exampleFilter) (ascii "00000000000000FE") (ascii "0000000000000000")
      (ascii "0000000000000000") where
  text := by decide
  length := by decide
  digits := by
    have all : ([ascii "00000000000000FE", ascii "0000000000000000",
        ascii "0000000000000000"].all fun number => number.all (CString.isDigit 16)) = true := by
      decide
    intro number here byte inNumber
    exact List.all_eq_true.mp (List.all_eq_true.mp all number here) byte inNumber

theorem packet_filter_example :
    PacketFilterRight .plain .obliging stationBss ⟨0, 0⟩ ⟨1, 0⟩ 64 (stateOf exampleFilter) := by
  obtain ⟨drv, wpaS, set⟩ := stationBss_dispatches
  have text : (stateOf exampleFilter).mem.string ⟨0, 0⟩ = ascii exampleFilter := by decide
  refine (packet_filter_iff .obliging ⟨1, 0⟩ 64 set ?_).mpr ⟨?_, ?_⟩
  · rw [text]
    exact exampleFilter_command.begins
  · exact fun first second third command => command.fits (by decide)
  · rw [text]
    exact fun malformed => absurd ⟨_, _, _, exampleFilter_command⟩ malformed

/-- Fifty letters that are no digits are sent as a filter of zeros. -/
theorem packet_filter_malformed :
    ¬ ∀ config env bss drv wpaS cmd buf bufLen (state : DriverState), bss.Dispatches drv wpaS →
      ascii "mtk_rx_packet_filter " <+: state.mem.string cmd →
        PacketFilterRight config env bss cmd buf bufLen state := by
  intro all
  obtain ⟨drv, wpaS, set⟩ := stationBss_dispatches
  let letters : CString := ascii "mtk_rx_packet_filter " ++ List.replicate 50 122
  let state : DriverState := ⟨fun _ => letters ++ [0], [], 0⟩
  have text : state.mem.string ⟨0, 0⟩ = letters :=
    @Memory.string_of_bytes _ _ [] letters (by decide) rfl
  have begins : ascii "mtk_rx_packet_filter " <+: state.mem.string ⟨0, 0⟩ := by
    rw [text]
    exact List.prefix_append _ _
  refine not_right_of_malformed .plain .obliging ⟨1, 0⟩ 64 set begins ?_ ?_
    (all _ _ _ _ _ _ _ _ state set begins)
  · intro wellFormed
    obtain ⟨first, second, third, command⟩ := wellFormed
    have numbers := List.append_cancel_left (text.symm.trans command.text)
    have blank : (32 : UInt8) ∈ List.replicate 50 122 := by
      rw [numbers]
      exact List.mem_append_right _ List.mem_cons_self
    exact absurd (List.eq_of_mem_replicate blank) (by decide)
  · rw [text]
    decide

/-! ## The receive filters -/

inductive RxOperation where
  | add
  | remove
  | start
  | stop
  deriving DecidableEq, Repr

def rxNumber (config : Config) (arg : CString) : Option UInt32 :=
  let (idx, used) := CString.strtol config.longBits arg 0
  if used = 0 then none else some (UInt32.ofInt idx)

/-- What a command that is accepted is to do, with which filter. -/
def rxOperation (config : Config) (s : CString) : Option (RxOperation × UInt32) :=
  match branchOf config s with
  | .rxfilterAdd => (rxNumber config (s.drop 12)).map (.add, ·)
  | .rxfilterRemove => (rxNumber config (s.drop 15)).map (.remove, ·)
  | .rxfilterStart => some (.start, 0)
  | .rxfilterStop => some (.stop, 0)
  | _ => none

def RxOperation.code : RxOperation → UInt32
  | .add => 0x00900200
  | .remove => 0x00900300
  | .start => 0x00900100
  | .stop => 0x00900000

/-- Two pairs of an operation and a number whose sums are the same. -/
def RxClash : RxOperation × UInt32 → RxOperation × UInt32 → Prop
  | (.add, n), (.remove, m) => n = m + 0x100
  | (.remove, m), (.add, n) => n = m + 0x100
  | (.add, n), (.start, _) => 0 = n + 0x100
  | (.start, _), (.add, n) => 0 = n + 0x100
  | (.add, n), (.stop, _) => 0 = n + 0x200
  | (.stop, _), (.add, n) => 0 = n + 0x200
  | (.remove, n), (.start, _) => 0 = n + 0x200
  | (.start, _), (.remove, n) => 0 = n + 0x200
  | (.remove, n), (.stop, _) => 0 = n + 0x300
  | (.stop, _), (.remove, n) => 0 = n + 0x300
  | _, _ => False

/-- A call of the dispatcher. -/
structure Call where
  env : Env
  bss : Bss
  cmd : CharPtr
  buf : CharPtr
  bufLen : Nat
  state : DriverState

def Call.command (call : Call) : CString := call.state.mem.string call.cmd

/-- The call sends this data word in a software command, and nothing else. -/
def Call.Sends (config : Config) (call : Call) (word : UInt32) : Prop :=
  ∃ ret state', driverCmd config call.env call.bss call.cmd call.buf call.bufLen call.state =
      .ok (ret, state') ∧
    state'.trace = call.state.trace ++ [.testmode .priv (.of 1 20 (.swCmd 1 0x9F000000 word))]

section Filters
variable {config : Config} {call : Call} {drv : DrvData} {wpaS : Option WpaSupplicant}

theorem run_rxfilterNumber {env : Env} {arg : CString} {n offset : UInt32} (state : DriverState)
    (number : rxNumber config arg = some n) :
    rxfilterNumber config env arg offset state = .ok (.done 0, { state with
      trace := state.trace ++
        [.testmode .priv (.of 1 20 (.swCmd 1 0x9F000000 (n + offset)))] }) := by
  rw [rxNumber] at number
  rw [rxfilterNumber]
  dsimp only at number ⊢
  split at number
  · cases number
  · next accepted =>
    obtain rfl := Option.some.inj number
    rw [if_neg accepted]
    rfl

theorem body_rxfilter {env : Env} {cmd buf : CharPtr} {bufLen : Nat} {s : CString}
    {operation : RxOperation} {n : UInt32} (state : DriverState)
    (accepted : rxOperation config s = some (operation, n)) :
    body config env drv wpaS cmd buf bufLen s (branchOf config s) state = .ok (.done 0,
      { state with
        trace := state.trace ++
          [.testmode .priv (.of 1 20 (.swCmd 1 0x9F000000 (n + operation.code)))] }) := by
  rw [rxOperation] at accepted
  split at accepted
  · next taken =>
    obtain ⟨m, number, same⟩ := Option.map_eq_some_iff.mp accepted
    obtain ⟨rfl, rfl⟩ := Prod.mk.inj same
    rw [taken]
    exact run_rxfilterNumber state number
  · next taken =>
    obtain ⟨m, number, same⟩ := Option.map_eq_some_iff.mp accepted
    obtain ⟨rfl, rfl⟩ := Prod.mk.inj same
    rw [taken]
    exact run_rxfilterNumber state number
  · next taken =>
    obtain ⟨rfl, rfl⟩ := Prod.mk.inj (Option.some.inj accepted)
    rw [taken]
    rfl
  · next taken =>
    obtain ⟨rfl, rfl⟩ := Prod.mk.inj (Option.some.inj accepted)
    rw [taken]
    rfl
  · cases accepted

theorem sends_iff {operation : RxOperation} {n : UInt32} (set : call.bss.Dispatches drv wpaS)
    (accepted : rxOperation config call.command = some (operation, n)) (word : UInt32) :
    call.Sends config word ↔ word = n + operation.code := by
  have ran : driverCmd config call.env call.bss call.cmd call.buf call.bufLen call.state =
      .ok (0, { call.state with
        trace := call.state.trace ++
          [.testmode .priv (.of 1 20 (.swCmd 1 0x9F000000 (n + operation.code)))] }) := by
    rw [driverCmd_dispatched set]
    exact congrArg (Except.bind · _) (body_rxfilter call.state accepted)
  constructor
  · intro sent
    obtain ⟨ret, state', ran', trace⟩ := sent
    obtain ⟨-, rfl⟩ := Prod.mk.inj (Except.ok.inj (ran.symm.trans ran'))
    have same := List.append_cancel_left trace
    obtain ⟨-, request⟩ := Effect.testmode.inj (List.singleton_inj.mp same)
    have params := congrArg TestmodeRequest.params request
    obtain ⟨-, -, data⟩ := TestmodeParams.swCmd.inj params
    exact data.symm
  · intro same
    rw [same]
    exact ⟨_, _, ran, rfl⟩

theorem add_eq_add_iff {a b d : UInt32} (shift : b = d + a) (n m : UInt32) :
    n + a = m + b ↔ n = m + d := by
  rw [shift, ← UInt32.add_assoc]
  exact UInt32.add_left_inj a

theorem number_of_rxOperation {s : CString} {operation : RxOperation} {n : UInt32}
    (accepted : rxOperation config s = some (operation, n))
    (bare : operation = .start ∨ operation = .stop) : n = 0 := by
  rw [rxOperation] at accepted
  split at accepted
  · obtain ⟨m, -, same⟩ := Option.map_eq_some_iff.mp accepted
    obtain ⟨rfl, -⟩ := Prod.mk.inj same
    exact absurd bare (by decide)
  · obtain ⟨m, -, same⟩ := Option.map_eq_some_iff.mp accepted
    obtain ⟨rfl, -⟩ := Prod.mk.inj same
    exact absurd bare (by decide)
  · exact (Prod.mk.inj (Option.some.inj accepted)).2.symm
  · exact (Prod.mk.inj (Option.some.inj accepted)).2.symm
  · cases accepted

theorem remove_over_add : RxOperation.remove.code = 0x100 + RxOperation.add.code := by decide

theorem remove_over_start : RxOperation.remove.code = 0x200 + RxOperation.start.code := by decide

theorem remove_over_stop : RxOperation.remove.code = 0x300 + RxOperation.stop.code := by decide

theorem add_over_start : RxOperation.add.code = 0x100 + RxOperation.start.code := by decide

theorem add_over_stop : RxOperation.add.code = 0x200 + RxOperation.stop.code := by decide

/-- The sums of two operations are the same exactly if they clash. -/
theorem sum_eq_iff_clash {operation operation' : RxOperation} {n m : UInt32}
    (bare : operation = .start ∨ operation = .stop → n = 0)
    (bare' : operation' = .start ∨ operation' = .stop → m = 0) (differ : operation ≠ operation') :
    n + operation.code = m + operation'.code ↔ RxClash (operation, n) (operation', m) := by
  cases operation with
  | add =>
      cases operation' with
      | add => exact absurd rfl differ
      | remove => exact add_eq_add_iff remove_over_add n m
      | start =>
          rw [bare' (.inl rfl), eq_comm]
          exact add_eq_add_iff add_over_start 0 n
      | stop =>
          rw [bare' (.inr rfl), eq_comm]
          exact add_eq_add_iff add_over_stop 0 n
  | remove =>
      cases operation' with
      | add =>
          rw [eq_comm]
          exact add_eq_add_iff remove_over_add m n
      | remove => exact absurd rfl differ
      | start =>
          rw [bare' (.inl rfl), eq_comm]
          exact add_eq_add_iff remove_over_start 0 n
      | stop =>
          rw [bare' (.inr rfl), eq_comm]
          exact add_eq_add_iff remove_over_stop 0 n
  | start =>
      rw [bare (.inl rfl)]
      cases operation' with
      | add => exact add_eq_add_iff add_over_start 0 m
      | remove => exact add_eq_add_iff remove_over_start 0 m
      | start => exact absurd rfl differ
      | stop =>
          rw [bare' (.inr rfl)]
          exact iff_of_false (by decide) id
  | stop =>
      rw [bare (.inr rfl)]
      cases operation' with
      | add => exact add_eq_add_iff add_over_stop 0 m
      | remove => exact add_eq_add_iff remove_over_stop 0 m
      | start =>
          rw [bare' (.inl rfl)]
          exact iff_of_false (by decide) id
      | stop => exact absurd rfl differ

theorem not_clash_self {operation : RxOperation} {n m : UInt32} :
    ¬ RxClash (operation, n) (operation, m) := by
  cases operation with
  | add | remove | start | stop => exact id

/-- Two accepted commands with the same word are the same operation on the same filter, exactly
if the two do not clash. -/
theorem rxfilter_injective_iff {one two : Call} {drv drv' : DrvData}
    {wpaS wpaS' : Option WpaSupplicant} {operation operation' : RxOperation} {n m : UInt32}
    (set : one.bss.Dispatches drv wpaS) (set' : two.bss.Dispatches drv' wpaS')
    (accepted : rxOperation config one.command = some (operation, n))
    (accepted' : rxOperation config two.command = some (operation', m)) :
    (∀ word, one.Sends config word → two.Sends config word → (operation, n) = (operation', m)) ↔
      ¬ RxClash (operation, n) (operation', m) := by
  have word_eq : (∀ word, one.Sends config word → two.Sends config word →
      (operation, n) = (operation', m)) ↔
        (n + operation.code = m + operation'.code → (operation, n) = (operation', m)) := by
    simp only [sends_iff set accepted, sends_iff set' accepted', forall_eq]
  rw [word_eq]
  by_cases same : operation = operation'
  · subst same
    refine iff_of_true (fun sum => ?_) not_clash_self
    rw [(UInt32.add_left_inj operation.code).mp sum]
  · rw [← sum_eq_iff_clash (number_of_rxOperation accepted) (number_of_rxOperation accepted') same]
    refine imp_congr_right fun _ => iff_of_false (fun equal => same (Prod.mk.inj equal).1) id

end Filters

def callOf (command : String) : Call := ⟨.obliging, stationBss, ⟨0, 0⟩, ⟨1, 0⟩, 64, stateOf command⟩

theorem rxOperation_add_zero :
    rxOperation .plain (callOf "rxfilter-add 0").command = some (.add, 0) := by decide

theorem rxOperation_add_256 :
    rxOperation .plain (callOf "rxfilter-add 256").command = some (.add, 256) := by decide

theorem rxOperation_remove_zero :
    rxOperation .plain (callOf "rxfilter-remove 0").command = some (.remove, 0) := by decide

theorem rxfilter_injective_zero :
    ¬ RxClash (.add, 0) (.remove, 0) ∧
      ∀ word, (callOf "rxfilter-add 0").Sends .plain word →
        (callOf "rxfilter-remove 0").Sends .plain word →
          (RxOperation.add, (0 : UInt32)) = (.remove, 0) := by
  obtain ⟨drv, wpaS, set⟩ := stationBss_dispatches
  have apart : ¬ RxClash (.add, 0) (.remove, 0) := (by decide : ¬ (0 : UInt32) = 0 + 0x100)
  exact ⟨apart,
    (rxfilter_injective_iff set set rxOperation_add_zero rxOperation_remove_zero).mpr apart⟩

/-- Filter 256 is added with the word that removes filter 0. -/
theorem rxfilter_clash :
    ¬ ∀ config (one two : Call) drv drv' wpaS wpaS' operation operation' n m,
      one.bss.Dispatches drv wpaS → two.bss.Dispatches drv' wpaS' →
        rxOperation config one.command = some (operation, n) →
        rxOperation config two.command = some (operation', m) →
        ∀ word, one.Sends config word → two.Sends config word →
          (operation, n) = (operation', m) := by
  intro all
  obtain ⟨drv, wpaS, set⟩ := stationBss_dispatches
  have same := all .plain (callOf "rxfilter-add 256") (callOf "rxfilter-remove 0") drv drv wpaS wpaS
    .add .remove 256 0 set set rxOperation_add_256 rxOperation_remove_zero 0x00900300
    ((sends_iff set rxOperation_add_256 _).mpr (by decide))
    ((sends_iff set rxOperation_remove_zero _).mpr (by decide))
  cases same

end Mt6757.Supplicant
