import Mt6757.Supplicant.DriverCmd

/-!
# The typed P2P entry points

`wpa_driver_set_p2p_noa` and `wpa_driver_set_p2p_ps` print their arguments into a
command, and the command is split and read back in the same buffer.  What reaches the
driver is what was passed in.
-/

set_option autoImplicit false

namespace Mt6757.Supplicant

open CString (ascii)

/-! ## The branch of a printed command -/

section Branch
variable (config : Config) (rest : CString)

theorem branchOf_noa : branchOf config (ascii "P2P_SET_NOA " ++ rest) = .p2pSetNoa :=
  branchOf_eq rfl (optionTests_refuse (by decide)) rest rfl

theorem branchOf_ps : branchOf config (ascii "P2P_SET_PS " ++ rest) = .p2pSetPs := by
  have split : chain config =
      (optionTests config ++ [(.strncmp "P2P_SET_NOA" 11, .p2pSetNoa)]) ++
        (.strncmp "P2P_SET_PS" 10, .p2pSetPs) ::
          [(.strncasecmp "SETSUSPENDMODE " 15, .setsuspendmode),
            (.strncasecmp "mtk_rx_packet_filter " 21, .rxPacketFilter)] := by
    simp [chain, lastTests]
  refine branchOf_eq split ?_ rest rfl
  rw [List.all_append, optionTests_refuse (by decide)]
  decide

end Branch

/-! ## The words of a printed command -/

section Words
variable {mem : Memory} {state : DriverState}

theorem bytes_snprintf {frame size : Nat} {text : CString} (fits : text.length < size) :
    (mem.snprintf ⟨frame, 0⟩ size text).bytes ⟨frame, 0⟩ =
      text ++ 0 :: (mem frame).drop (text.length + 1) := by
  have notEmpty : size ≠ 0 := by omega
  have whole : text.take (size - 1) = text := List.take_of_length_le (by omega)
  simp [Memory.snprintf, notEmpty, whole, Memory.bytes, Memory.write]

theorem run_fourWords {cmd : CharPtr} {s name first second third : CString} {rest : List UInt8}
    (whole : 0 ∉ s) (here : state.mem.bytes cmd = s ++ 0 :: rest)
    (split : words s = [name, first, second, third]) :
    ∃ state', fourWords cmd state = .ok (some (first, second, third), state') ∧
      state'.trace = state.trace := by
  have text : state.mem.string cmd = s := Memory.string_of_bytes whole here
  have read := tokenizeSpace_words whole here
  rw [split] at read
  rcases found : tokenizeSpace state.mem cmd s.length with ⟨argv, mem⟩
  rw [found] at read
  obtain ⟨_, _, rfl, -, read⟩ := List.map_eq_cons_iff.mp read
  obtain ⟨_, _, rfl, one, read⟩ := List.map_eq_cons_iff.mp read
  obtain ⟨_, _, rfl, two, read⟩ := List.map_eq_cons_iff.mp read
  obtain ⟨_, _, rfl, three, read⟩ := List.map_eq_cons_iff.mp read
  obtain rfl := List.map_eq_nil_iff.mp read
  refine ⟨{ state with mem := mem }, ?_, rfl⟩
  simp only [fourWords, tokenize, run_bind, run_readString, run_get, run_onMemory, run_pure,
    except_bind_ok, text, found]
  rw [← one, ← two, ← three]

theorem printInt_no_separator {z : Int} {byte : UInt8} (here : byte ∈ CString.printInt z) :
    isSeparator byte = false := by
  obtain ⟨-, newline, blank⟩ := CString.printInt_plain here
  simp [isSeparator, newline, blank]

end Words

def printed (name : CString) (first second third : Int) : CString :=
  name ++ 32 :: (CString.printInt first ++ 32 ::
    (CString.printInt second ++ 32 :: CString.printInt third))

section Printed
variable {name : CString} (first second third : Int)

theorem words_printed (plain : ∀ byte ∈ name, isSeparator byte = false) :
    words (printed name first second third) =
      [name, CString.printInt first, CString.printInt second, CString.printInt third] := by
  have blank : isSeparator 32 = true := by decide
  have numeral : ∀ z, ∀ byte ∈ CString.printInt z, isSeparator byte = false :=
    fun _ _ => printInt_no_separator
  rw [printed, words_append plain blank (by simp), words_append (numeral first) blank (by simp),
    words_append (numeral second) blank (CString.printInt_ne_nil third),
    words_of_plain (numeral third)]

theorem zero_not_mem_printed (whole : 0 ∉ name) : 0 ∉ printed name first second third := by
  have numeral : ∀ z, 0 ∉ CString.printInt z :=
    fun _ here => (CString.printInt_plain here).1 rfl
  simp [printed, whole, numeral]

/-- Every number of the command is an `int`, and so the command is short. -/
theorem length_printed_lt (short : name.length ≤ 11) (first second third : Int32)
    {stack : List UInt8} (room : 64 ≤ stack.length) :
    (printed name first.toInt second.toInt third.toInt).length < stack.length := by
  have one := CString.length_printInt_le first
  have two := CString.length_printInt_le second
  have three := CString.length_printInt_le third
  simp only [printed, List.length_append, List.length_cons]
  omega

end Printed

/-- A command name of one word, short enough for three numbers beside it. -/
structure IsName (name : CString) : Prop where
  short : name.length ≤ 11
  plain : name.all (fun byte => byte != 0 && !isSeparator byte) = true

section IsName
variable {name : CString}

theorem IsName.no_separator (word : IsName name) : ∀ byte ∈ name, isSeparator byte = false := by
  intro byte here
  have both := List.all_eq_true.mp word.plain byte here
  simp only [Bool.and_eq_true, Bool.not_eq_true'] at both
  exact both.2

theorem IsName.zero_not_mem (word : IsName name) : 0 ∉ name := by
  intro here
  have both := List.all_eq_true.mp word.plain 0 here
  simp at both

end IsName

/-! ## The requests -/

/-- An interface that is set up and is not `ap0`. -/
structure Bss.Initialised (bss : Bss) (drv : DrvData) (ctx : WpaSupplicant) : Prop where
  hasDrv : bss.drv = some drv
  hasCtx : drv.ctx = some ctx
  hasConf : ctx.conf = true
  notAp : CString.strcmp bss.ifname (ascii "ap0") ≠ 0

section Requests
variable {config : Config} {env : Env} {bss : Bss} {drv : DrvData} {ctx : WpaSupplicant}

theorem run_driverCmd {cmd buf : CharPtr} {bufLen : Nat} {state state' : DriverState}
    {branch : Branch} {ret : Int} (set : bss.Initialised drv ctx)
    (taken : branchOf config (state.mem.string cmd) = branch)
    (ran : body config env drv (some ctx) cmd buf bufLen (state.mem.string cmd) branch state =
      .ok (.done ret, state')) :
    driverCmd config env bss cmd buf bufLen state = .ok (ret, state') := by
  have selected : selectContext bss ctx = some ctx := if_neg set.notAp
  simp only [driverCmd, set.hasDrv, set.hasCtx, selected, Option.any_some, set.hasConf, Bool.not_true,
    Bool.false_eq_true, if_false, run_bind, run_readString, except_bind_ok, taken, ran,
    BranchEnd.done, if_true]
  rfl

/-- The command that is printed into the buffer is the one that is sent.  Splitting it
in place gives the numbers that were printed, and the call ends as its helper does. -/
theorem run_withCommand {branch : Branch} {helper : CharPtr → Cmd Int} {stack : List UInt8}
    {name : CString} {first second third : Int32} (frame : Nat) (state : DriverState)
    (set : bss.Initialised drv ctx) (room : 64 ≤ stack.length) (word : IsName name)
    (taken : branchOf config (printed name first.toInt second.toInt third.toInt) = branch)
    (helps : ∀ cmd buf bufLen s, body config env drv (some ctx) cmd buf bufLen s branch =
      helper cmd >>= fun ret => pure (.done ret)) :
    ∃ sent split, split.trace = state.trace ∧
      fourWords ⟨frame, 0⟩ sent =
        .ok (some (CString.printInt first.toInt, CString.printInt second.toInt,
          CString.printInt third.toInt), split) ∧
      ∀ ret state', helper ⟨frame, 0⟩ sent = .ok (ret, state') →
        withCommand config env bss frame stack
          (printed name first.toInt second.toInt third.toInt) state = .ok (ret, state') := by
  let text := printed name first.toInt second.toInt third.toInt
  have whole : 0 ∉ text := zero_not_mem_printed _ _ _ word.zero_not_mem
  have fits : text.length < stack.length := length_printed_lt word.short first second third room
  let mem := Memory.snprintf (Function.update state.mem frame stack) ⟨frame, 0⟩ stack.length text
  have here : mem.bytes ⟨frame, 0⟩ = _ := bytes_snprintf fits
  have read : mem.string ⟨frame, 0⟩ = text := Memory.string_of_bytes whole here
  let sent : DriverState := { state with mem := mem }
  have sentHere : sent.mem.bytes ⟨frame, 0⟩ = _ := here
  obtain ⟨split, ran, trace⟩ :=
    run_fourWords whole sentHere (words_printed _ _ _ word.no_separator)
  refine ⟨sent, split, trace, ran, fun ret state' helped => ?_⟩
  have sends : withCommand config env bss frame stack text state =
      driverCmd config env bss ⟨frame, 0⟩ ⟨frame, 0⟩ ((mem.string ⟨frame, 0⟩).length + 1) sent :=
    rfl
  have takenHere : branchOf config (sent.mem.string ⟨frame, 0⟩) = branch := by
    rw [show sent.mem.string ⟨frame, 0⟩ = _ from read, taken]
  have bodyRan : body config env drv (some ctx) ⟨frame, 0⟩ ⟨frame, 0⟩
      ((mem.string ⟨frame, 0⟩).length + 1) (sent.mem.string ⟨frame, 0⟩) branch sent =
        .ok (.done ret, state') := by
    simp only [helps, run_bind, helped, except_bind_ok, run_pure]
  rw [sends]
  exact run_driverCmd set takenHere bodyRan

theorem toInt_count (count : UInt8) : (Int32.ofNat count.toNat).toInt = count.toNat := by
  have small := count.toNat_lt
  exact Int32.toInt_ofNat_of_lt (by omega)

theorem run_setNoa {cmd : CharPtr} {sent split : DriverState} {count interval duration : Int32}
    (ran : fourWords cmd sent = .ok (some (CString.printInt count.toInt,
      CString.printInt interval.toInt, CString.printInt duration.toInt), split)) :
    p2pCtrlIfaceSetNoa config env cmd sent =
      .ok ((env.testmode split.trace).ret,
        { split with
          trace := split.trace ++ [.testmode .drvPriv (.of 1 28 (.p2pNoa 4 0
            count.toUInt32 interval.toUInt32 duration.toUInt32))] }) := by
  simp only [p2pCtrlIfaceSetNoa, run_bind, ran, except_bind_ok, run_testmode,
    CString.atoi_printInt config.long_wide]

theorem run_setPs {cmd : CharPtr} {sent split : DriverState} {first : CString}
    {oppPs ctWindow : Int32}
    (ran : fourWords cmd sent = .ok (some (first, CString.printInt oppPs.toInt,
      CString.printInt ctWindow.toInt), split)) :
    p2pCtrlIfaceSetPs config env cmd sent =
      .ok ((env.testmode split.trace).ret,
        { split with
          trace := split.trace ++ [.testmode .drvPriv (.of 1 16 (.p2pSigma 107
            (if oppPs ≠ 0 then ctWindow.toUInt32 ||| (1 : UInt32) <<< 7
              else ctWindow.toUInt32)))] }) := by
  simp only [p2pCtrlIfaceSetPs, run_bind, ran, except_bind_ok, run_testmode,
    CString.atoi_printInt config.long_wide]

theorem run_setP2pNoa (set : bss.Initialised drv ctx) {frame : Nat} {stack : List UInt8}
    (room : 64 ≤ stack.length) (count : UInt8) (start duration : Int32) (state : DriverState) :
    ∃ ret state', setP2pNoa config env bss frame stack count start duration state =
        .ok (ret, state') ∧
      state'.trace = state.trace ++ [.testmode .drvPriv
        (.of 1 28 (.p2pNoa 4 0 count.toUInt32 start.toUInt32 duration.toUInt32))] := by
  have text : ascii "P2P_SET_NOA " ++ CString.printInt count.toNat ++ ascii " " ++
      CString.printInt start.toInt ++ ascii " " ++ CString.printInt duration.toInt =
        printed (ascii "P2P_SET_NOA") (Int32.ofNat count.toNat).toInt start.toInt
          duration.toInt := by
    rw [toInt_count]
    simp [printed, ascii]
  have taken : branchOf config (printed (ascii "P2P_SET_NOA") (Int32.ofNat count.toNat).toInt
      start.toInt duration.toInt) = .p2pSetNoa := by
    rw [← text]
    simp only [List.append_assoc]
    exact branchOf_noa config _
  have helps : ∀ cmd buf bufLen s, body config env drv (some ctx) cmd buf bufLen s .p2pSetNoa =
      p2pCtrlIfaceSetNoa config env cmd >>= fun ret => pure (.done ret) :=
    fun _ _ _ _ => rfl
  obtain ⟨sent, split, trace, ran, ends⟩ :=
    run_withCommand frame state set room ⟨by decide, by decide⟩ taken helps
  have done := ends _ _ (run_setNoa ran)
  rw [setP2pNoa, text]
  have passed : (Int32.ofNat count.toNat).toUInt32 = count.toUInt32 := by simp
  exact ⟨_, _, done, by rw [trace, passed]⟩

theorem run_setP2pPs (set : bss.Initialised drv ctx) {frame : Nat} {stack : List UInt8}
    (room : 64 ≤ stack.length) (legacyPs oppPs ctWindow : Int32) (state : DriverState) :
    ∃ ret state', setP2pPs config env bss frame stack legacyPs oppPs ctWindow state =
        .ok (ret, state') ∧
      state'.trace = state.trace ++ [.testmode .drvPriv (.of 1 16 (.p2pSigma 107
        (if oppPs ≠ 0 then ctWindow.toUInt32 ||| (1 : UInt32) <<< 7 else ctWindow.toUInt32)))] := by
  have text : ascii "P2P_SET_PS " ++ CString.printInt legacyPs.toInt ++ ascii " " ++
      CString.printInt oppPs.toInt ++ ascii " " ++ CString.printInt ctWindow.toInt =
        printed (ascii "P2P_SET_PS") legacyPs.toInt oppPs.toInt ctWindow.toInt := by
    simp [printed, ascii]
  have taken : branchOf config (printed (ascii "P2P_SET_PS") legacyPs.toInt oppPs.toInt
      ctWindow.toInt) = .p2pSetPs := by
    rw [← text]
    simp only [List.append_assoc]
    exact branchOf_ps config _
  have helps : ∀ cmd buf bufLen s, body config env drv (some ctx) cmd buf bufLen s .p2pSetPs =
      p2pCtrlIfaceSetPs config env cmd >>= fun ret => pure (.done ret) :=
    fun _ _ _ _ => rfl
  obtain ⟨sent, split, trace, ran, ends⟩ :=
    run_withCommand frame state set room ⟨by decide, by decide⟩ taken helps
  have done := ends _ _ (run_setPs ran)
  rw [setP2pPs, text]
  exact ⟨_, _, done, by rw [trace]⟩

end Requests

/-- The value of a power save request: bit 7 is the switch, and the low bits are the
window. -/
theorem psValue_bits {oppPs ctWindow : Int32} (low : 0 ≤ ctWindow) (high : ctWindow ≤ 127) :
    let value := if oppPs ≠ 0 then ctWindow.toUInt32 ||| (1 : UInt32) <<< 7 else ctWindow.toUInt32
    (value &&& 0x80 ≠ 0 ↔ oppPs ≠ 0) ∧ value &&& 0x7f = ctWindow.toUInt32 := by
  have each : ∀ n : Fin 128,
      ((Int32.ofNat n).toUInt32 ||| (1 : UInt32) <<< 7) &&& 0x80 ≠ 0 ∧
        ((Int32.ofNat n).toUInt32 ||| (1 : UInt32) <<< 7) &&& 0x7f = (Int32.ofNat n).toUInt32 ∧
        (Int32.ofNat n).toUInt32 &&& 0x80 = 0 ∧
        (Int32.ofNat n).toUInt32 &&& 0x7f = (Int32.ofNat n).toUInt32 := by
    decide
  have nonnegative : 0 ≤ ctWindow.toInt := Int32.le_iff_toInt_le.mp low
  have bounded : ctWindow.toInt ≤ 127 := Int32.le_iff_toInt_le.mp high
  have window : Int32.ofNat ctWindow.toInt.toNat = ctWindow := by
    rw [← Int32.toInt_inj, Int32.toInt_ofNat_of_lt (by omega)]
    omega
  obtain ⟨on, onLow, off, offLow⟩ := each ⟨ctWindow.toInt.toNat, by omega⟩
  simp only [window] at on onLow off offLow
  dsimp only
  by_cases enabled : oppPs ≠ 0
  · rw [if_pos enabled]
    exact ⟨iff_of_true on enabled, onLow⟩
  · rw [if_neg enabled]
    exact ⟨iff_of_false (fun set => set off) enabled, offLow⟩

/-- The typed entry points and the commands agree: one request each, whose fields are
the arguments. -/
theorem p2pEntry_requests {config : Config} {env : Env} {bss : Bss} {drv : DrvData}
    {ctx : WpaSupplicant} (set : bss.Initialised drv ctx) {frame : Nat} {stack : List UInt8}
    (room : 64 ≤ stack.length) (state : DriverState) :
    (∀ (count : UInt8) (start duration : Int32), ∃ ret state',
      setP2pNoa config env bss frame stack count start duration state = .ok (ret, state') ∧
        state'.trace = state.trace ++ [.testmode .drvPriv
          (.of 1 28 (.p2pNoa 4 0 count.toUInt32 start.toUInt32 duration.toUInt32))]) ∧
      ∀ legacyPs oppPs ctWindow : Int32, 0 ≤ ctWindow → ctWindow ≤ 127 → ∃ ret state' value,
        setP2pPs config env bss frame stack legacyPs oppPs ctWindow state = .ok (ret, state') ∧
          state'.trace = state.trace ++ [.testmode .drvPriv (.of 1 16 (.p2pSigma 107 value))] ∧
          (value &&& 0x80 ≠ 0 ↔ oppPs ≠ 0) ∧ value &&& 0x7f = ctWindow.toUInt32 := by
  constructor
  · intro count start duration
    exact run_setP2pNoa set room count start duration state
  · intro legacyPs oppPs ctWindow low high
    obtain ⟨ret, state', ran, trace⟩ := run_setP2pPs set room legacyPs oppPs ctWindow state
    exact ⟨ret, state', _, ran, trace, psValue_bits low high⟩

theorem p2pEntry_requests_wlan0 :
    (∃ ret state', setP2pNoa .plain .obliging stationBss 0 (List.replicate 64 0xaa) 255 (-1) 100
        ⟨fun _ => [], [], 0⟩ = .ok (ret, state') ∧
      state'.trace = [.testmode .drvPriv (.of 1 28 (.p2pNoa 4 0 255 0xffffffff 100))]) ∧
      ∃ ret state' value, setP2pPs .plain .obliging stationBss 0 (List.replicate 64 0xaa) 1 1 10
          ⟨fun _ => [], [], 0⟩ = .ok (ret, state') ∧
        state'.trace = [.testmode .drvPriv (.of 1 16 (.p2pSigma 107 value))] ∧
        (value &&& 0x80 ≠ 0 ↔ (1 : Int32) ≠ 0) ∧ value &&& 0x7f = 10 := by
  have set : stationBss.Initialised _ _ := ⟨rfl, rfl, rfl, by decide⟩
  have room : 64 ≤ (List.replicate 64 (0xaa : UInt8)).length := by simp
  constructor
  · exact (p2pEntry_requests set room ⟨fun _ => [], [], 0⟩).1 255 (-1) 100
  · exact (p2pEntry_requests set room ⟨fun _ => [], [], 0⟩).2 1 1 10 (by decide) (by decide)

end Mt6757.Supplicant
