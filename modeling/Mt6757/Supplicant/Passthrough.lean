import Mt6757.Supplicant.Emission

/-!
# Commands that are handed on

A command that no branch handles goes to the driver as it is, in a test-mode request and in a
private ioctl.  Both copy it into a buffer of fixed size, and differ from it for long commands
only, or where the reply buffer lies over it.
-/

set_option autoImplicit false

namespace Mt6757.Supplicant

open CString (ascii)

/-! ## Test mode -/

/-- A header with the right length, and nothing behind it but the start of the command. -/
structure CarriesOnly (s : CString) (request : TestmodeRequest) : Prop where
  buflen : request.hdr.buflen.toNat = request.dataLen
  header : 8 ≤ request.dataLen
  inBuffer : request.dataLen ≤ 100
  params : ∃ text, request.params = .strCmd text ∧ request.dataLen - 8 ≤ s.length ∧
    text.take (request.dataLen - 8) = s.take (request.dataLen - 8)

/-- So it is for all test-mode requests of a call. -/
def TransparentSafe (config : Config) (env : Env) (bss : Bss) (cmd buf : CharPtr) (bufLen : Nat)
    (state : DriverState) : Prop :=
  ∀ ret state', driverCmd config env bss cmd buf bufLen state = .ok (ret, state') →
    ∀ target request, .testmode target request ∈ state'.trace.drop state.trace.length →
      CarriesOnly (state.mem.string cmd) request

def transparentRequest (s : CString) : TestmodeRequest :=
  { TestmodeRequest.of 102 (8 + s.length) (.strCmd (CString.strncpy 92 s)) with
    dataLen := (UInt32.ofNat (8 + s.length)).toNat }

theorem carriesOnly_transparent_iff (s : CString) :
    CarriesOnly s (transparentRequest s) ↔ s.length % 2 ^ 32 ≤ 92 := by
  have sent : (transparentRequest s).dataLen = (8 + s.length) % 2 ^ 32 := UInt32.toNat_ofNat'
  constructor
  · intro carries
    have header := carries.header
    have inBuffer := carries.inBuffer
    omega
  · intro short
    have whole : (transparentRequest s).dataLen - 8 = s.length % 2 ^ 32 := by omega
    have inside := Nat.mod_le s.length (2 ^ 32)
    refine ⟨rfl, by omega, by omega, CString.strncpy 92 s, rfl, by omega, ?_⟩
    rw [whole, CString.strncpy, List.take_append_of_le_length, List.take_take]
    · rw [Nat.min_eq_left short]
    · rw [List.length_take]
      omega

section Transparent
variable {config : Config} {env : Env} {bss : Bss} {drv : DrvData} {wpaS : Option WpaSupplicant}
  {cmd buf : CharPtr} {bufLen : Nat} {state : DriverState}

theorem driverCmd_transparent (env : Env) (buf : CharPtr) (bufLen : Nat)
    (set : bss.Dispatches drv wpaS)
    (taken : branchOf config (state.mem.string cmd) = .transparent) :
    ∃ ret state' ifname text used,
      driverCmd config env bss cmd buf bufLen state = .ok (ret, state') ∧
        state'.trace = state.trace ++
          [.testmode .priv (transparentRequest (state.mem.string cmd)),
            .privateIoctl ifname text used] := by
  obtain ⟨ret, state', ran, trace⟩ := privateCmd_sends config env bss cmd buf bufLen
    { state with
      trace := state.trace ++ [.testmode .priv (transparentRequest (state.mem.string cmd))] }
  rw [List.append_assoc] at trace
  refine ⟨ret, state', _, _, _, ?_, trace⟩
  rw [driverCmd_dispatched set, taken]
  exact ran

/-- With at most 92 characters, the test-mode request of a transparent command carries the
header and the command only; with more it takes in what lies behind the buffer. -/
theorem transparent_safe_iff
    (taken : branchOf config (state.mem.string cmd) = .transparent) :
    TransparentSafe config env bss cmd buf bufLen state ↔
      (∀ drv wpaS, ¬ bss.Dispatches drv wpaS) ∨ (state.mem.string cmd).length % 2 ^ 32 ≤ 92 := by
  by_cases unset : ∀ drv wpaS, ¬ bss.Dispatches drv wpaS
  · refine iff_of_true (fun ret state' ran target request sent => ?_) (.inl unset)
    rw [driverCmd_undispatched unset] at ran
    obtain ⟨-, rfl⟩ := Prod.mk.inj (Except.ok.inj ran)
    rw [List.drop_length] at sent
    cases sent
  · rw [or_iff_right unset, ← carriesOnly_transparent_iff]
    simp only [not_forall, not_not] at unset
    obtain ⟨drv, wpaS, set⟩ := unset
    obtain ⟨ret, state', ifname, text, used, ran, trace⟩ :=
      driverCmd_transparent env buf bufLen set taken
    constructor
    · intro safe
      refine safe ret state' ran .priv _ ?_
      rw [trace, List.drop_left]
      exact List.mem_cons_self
    · intro carries ret' state'' ran' target request sent
      obtain ⟨rfl, rfl⟩ := Prod.mk.inj (Except.ok.inj (ran.symm.trans ran'))
      rw [trace, List.drop_left] at sent
      rcases List.mem_cons.mp sent with same | other
      · obtain ⟨-, rfl⟩ := Effect.testmode.inj same
        exact carries
      · cases List.mem_singleton.mp other

end Transparent

theorem transparent_safe_setband :
    TransparentSafe .plain .obliging stationBss ⟨0, 0⟩ ⟨1, 0⟩ 64 (stateOf "SETBAND 1") :=
  (transparent_safe_iff (by decide)).mpr (.inr (by decide))

/-- 93 characters make a request of 101 bytes. -/
theorem transparent_unsafe :
    ¬ ∀ config env bss cmd buf bufLen (state : DriverState),
      branchOf config (state.mem.string cmd) = .transparent →
        TransparentSafe config env bss cmd buf bufLen state := by
  intro all
  let long : CString := List.replicate 93 88
  let state : DriverState := ⟨fun _ => long ++ [0], [], 0⟩
  have text : state.mem.string ⟨0, 0⟩ = long := by decide
  have taken : branchOf .plain (state.mem.string ⟨0, 0⟩) = .transparent := by
    rw [text]
    decide
  obtain ⟨drv, wpaS, set⟩ := stationBss_dispatches
  obtain ⟨ret, state', ifname, copy, used, ran, trace⟩ :=
    driverCmd_transparent .obliging ⟨1, 0⟩ 64 set taken
  have carries := all .plain .obliging stationBss ⟨0, 0⟩ ⟨1, 0⟩ 64 state taken ret state' ran .priv
    (transparentRequest (state.mem.string ⟨0, 0⟩)) (by
      rw [trace, List.drop_left]
      exact List.mem_cons_self)
  rw [carriesOnly_transparent_iff, text] at carries
  exact absurd carries (by decide)

/-! ## The private command -/

def miracastValue (config : Config) (s : CString) : UInt8 :=
  (CString.atoi config.longBits (s.drop 9)).toUInt32.toUInt8

/-- `MIRACAST` puts another command in the place of this one. -/
def Rewrites (config : Config) (s : CString) : Prop :=
  branchOf config s = .miracast ∧ miracastValue config s = 2 ∧
    (CString.strstr s (ascii " freq=")).isSome = true

instance (config : Config) (s : CString) : Decidable (Rewrites config s) := by
  unfold Rewrites
  infer_instance

def rewritten (config : Config) (s : CString) : CString :=
  if Rewrites config s then ascii "MIRACAST 2" else s

/-- The buffer of a private command holds as much of the command as fits, and a terminator. -/
structure HoldsCommand (s : CString) (buf : List UInt8) (used : Int) : Prop where
  size : buf.length = privCmdSize
  text : ∃ rest, buf = s.take 511 ++ 0 :: rest
  used : used = (s.take 511).length + 1

/-- So it is for all private commands of a call. -/
def PrivateRight (config : Config) (env : Env) (bss : Bss) (cmd buf : CharPtr) (bufLen : Nat)
    (state : DriverState) : Prop :=
  ∀ ret state', driverCmd config env bss cmd buf bufLen state = .ok (ret, state') →
    ∀ ifname text used, .privateIoctl ifname text used ∈ state'.trace.drop state.trace.length →
      HoldsCommand (rewritten config (state.mem.string cmd)) text used

/-- Of a command of this length, clearing the reply buffer clears nothing that is copied, and
the byte behind the 511 characters of a longer one. -/
def ClearedRight (cmd buf : CharPtr) (bufLen len : Nat) : Prop :=
  (∀ i < min len 511, ¬ Memory.Covers buf bufLen cmd i) ∧
    (511 < len → Memory.Covers buf bufLen cmd 511 ∧ 511 ≤ (Int32.ofNat len).toInt)

section Copy
variable {config : Config} {mem : Memory} {cmd buf : CharPtr} {bufLen : Nat} {s : CString}
  {rest : List UInt8}

theorem privateLen_eq_iff (s : CString) :
    privateLen s + 1 = ((s.take 511).length : Int) + 1 ↔
      (511 < s.length → 511 ≤ (Int32.ofNat s.length).toInt) := by
  have size : (privCmdSize : Int) = 512 := rfl
  rw [privateLen, List.length_take, size]
  by_cases short : s.length ≤ 511
  · have int : (Int32.ofNat s.length).toInt = s.length := Int32.toInt_ofNat_of_lt (by omega)
    rw [int]
    split
    · omega
    · omega
  · split
    · omega
    · omega

theorem privateBuf_eq {source : List UInt8} {n : Nat} (small : n ≤ 512) :
    privateBuf config source ((n : Int) - 1) =
      source.take n ++ List.replicate (512 - (source.take n).length) 0 := by
  have wide : (512 : Int) < 2 ^ config.longBits := by
    have grown : (2 : Int) ^ 32 ≤ 2 ^ config.longBits :=
      pow_le_pow_right₀ (by decide) config.long_wide
    omega
  have count : (((n : Int) - 1 + 1) % 2 ^ config.longBits).toNat = n := by
    rw [Int.sub_add_cancel, Int.emod_eq_of_lt (by omega) (by omega), Int.toNat_natCast]
  rw [privateBuf, count]
  rfl

theorem cleared_get (here : mem.bytes cmd = s ++ 0 :: rest)
    (inside : buf.offset + bufLen ≤ (mem buf.object).length) (i : Nat) :
    ((mem.memset buf 0 bufLen).bytes cmd)[i]? =
      if Memory.Covers buf bufLen cmd i then some 0 else (s ++ 0 :: rest)[i]? := by
  rw [Memory.getElem?_bytes_memset inside, here]

theorem take_eq_iff {source target : List UInt8} :
    source.take target.length = target ↔ ∀ i < target.length, source[i]? = target[i]? := by
  constructor
  · intro same i small
    rw [← same, List.getElem?_take, if_pos small]
  · intro each
    apply List.ext_getElem?
    intro i
    rw [List.getElem?_take]
    split
    · next small => exact each i small
    · next large => exact (List.getElem?_eq_none (Nat.le_of_not_lt large)).symm

theorem cleared_character (whole : 0 ∉ s) (here : mem.bytes cmd = s ++ 0 :: rest)
    (inside : buf.offset + bufLen ≤ (mem buf.object).length) {i : Nat} (small : i < s.length) :
    ((mem.memset buf 0 bufLen).bytes cmd)[i]? = s[i]? ↔ ¬ Memory.Covers buf bufLen cmd i := by
  have nonzero : s[i] ≠ 0 := fun zero => whole (zero ▸ List.getElem_mem small)
  rw [cleared_get here inside, List.getElem?_append_left small, List.getElem?_eq_getElem small]
  by_cases covered : Memory.Covers buf bufLen cmd i
  · rw [if_pos covered]
    exact iff_of_false (fun same => nonzero (Option.some.inj same).symm) fun free => free covered
  · rw [if_neg covered]
    exact iff_of_true rfl covered

theorem cleared_terminator (whole : 0 ∉ s) (here : mem.bytes cmd = s ++ 0 :: rest)
    (inside : buf.offset + bufLen ≤ (mem buf.object).length) :
    ((mem.memset buf 0 bufLen).bytes cmd)[min 511 s.length]? = some 0 ↔
      (511 < s.length → Memory.Covers buf bufLen cmd 511) := by
  rw [cleared_get here inside]
  by_cases short : s.length ≤ 511
  · rw [Nat.min_eq_right short, List.getElem?_append_right (le_refl _), Nat.sub_self]
    refine iff_of_true ?_ fun long => absurd long (Nat.not_lt.mpr short)
    split
    · rfl
    · rfl
  · have long : 511 < s.length := Nat.lt_of_not_le short
    have nonzero : s[511] ≠ 0 := fun zero => whole (zero ▸ List.getElem_mem long)
    rw [Nat.min_eq_left (Nat.le_of_lt long), List.getElem?_append_left long,
      List.getElem?_eq_getElem long]
    by_cases covered : Memory.Covers buf bufLen cmd 511
    · rw [if_pos covered]
      exact iff_of_true rfl fun _ => covered
    · rw [if_neg covered]
      exact iff_of_false (fun same => nonzero (Option.some.inj same)) fun all => covered (all long)

theorem copied_eq_iff (whole : 0 ∉ s) (here : mem.bytes cmd = s ++ 0 :: rest)
    (inside : buf.offset + bufLen ≤ (mem buf.object).length) :
    ((mem.memset buf 0 bufLen).bytes cmd).take (s.take 511 ++ [0]).length = s.take 511 ++ [0] ↔
      (∀ i < min s.length 511, ¬ Memory.Covers buf bufLen cmd i) ∧
        (511 < s.length → Memory.Covers buf bufLen cmd 511) := by
  have length : (s.take 511).length = min 511 s.length := List.length_take
  rw [take_eq_iff, List.length_append, length, List.length_singleton,
    ← cleared_terminator whole here inside]
  have last : (s.take 511 ++ [0])[min 511 s.length]? = some 0 := by
    rw [List.getElem?_append_right (by omega), length, Nat.sub_self]
    rfl
  have earlier {i : Nat} (small : i < min 511 s.length) : (s.take 511 ++ [0])[i]? = s[i]? := by
    rw [List.getElem?_append_left (by omega), List.getElem?_take, if_pos (by omega)]
  constructor
  · intro each
    refine ⟨fun i small => ?_, by rw [each _ (Nat.lt_succ_self _), last]⟩
    rw [← cleared_character whole here inside (by omega), each i (by omega), earlier (by omega)]
  · intro both i small
    rcases Nat.lt_succ_iff_lt_or_eq.mp small with before | rfl
    · rw [earlier before, cleared_character whole here inside (by omega)]
      exact both.1 i (by omega)
    · rw [last]
      exact both.2

theorem cleared_long (here : mem.bytes cmd = s ++ 0 :: rest)
    (inside : buf.offset + bufLen ≤ (mem buf.object).length) :
    s.length < ((mem.memset buf 0 bufLen).bytes cmd).length := by
  by_contra short
  have none := List.getElem?_eq_none (Nat.le_of_not_lt short)
  rw [cleared_get here inside, List.getElem?_append_right (le_refl _), Nat.sub_self] at none
  split at none
  · cases none
  · cases none

/-- The buffer is right exactly if clearing the reply buffer does no harm. -/
theorem holdsCommand_iff (config : Config) (whole : 0 ∉ s) (here : mem.bytes cmd = s ++ 0 :: rest)
    (inside : buf.offset + bufLen ≤ (mem buf.object).length) :
    HoldsCommand s (privateBuf config ((mem.memset buf 0 bufLen).bytes cmd) (privateLen s))
        (privateLen s + 1) ↔
      ClearedRight cmd buf bufLen s.length := by
  let target : List UInt8 := s.take 511 ++ [0]
  have length : target.length = (s.take 511).length + 1 := List.length_append
  have small : target.length ≤ 512 := by
    rw [length, List.length_take]
    omega
  have copied := copied_eq_iff whole here inside
  -- the length is as it should be on both sides
  have exact_length (fits : 511 < s.length → 511 ≤ (Int32.ofNat s.length).toInt) :
      privateBuf config ((mem.memset buf 0 bufLen).bytes cmd) (privateLen s) =
        ((mem.memset buf 0 bufLen).bytes cmd).take target.length ++
          List.replicate
            (512 - (((mem.memset buf 0 bufLen).bytes cmd).take target.length).length) 0 := by
    have used := (privateLen_eq_iff s).mpr fits
    have same : privateLen s = (target.length : Int) - 1 := by
      rw [length]
      omega
    rw [same, privateBuf_eq small]
  constructor
  · intro holds
    have fits := (privateLen_eq_iff s).mp holds.used
    obtain ⟨more, text⟩ := holds.text
    rw [exact_length fits, List.append_cons] at text
    have long := cleared_long here inside
    have same := (List.append_inj text (by
      rw [List.length_take, Nat.min_eq_left]
      rw [length, List.length_take]
      omega)).1
    obtain ⟨kept, ended⟩ := copied.mp same
    exact ⟨kept, fun longer => ⟨ended longer, fits longer⟩⟩
  · intro right
    have fits : 511 < s.length → 511 ≤ (Int32.ofNat s.length).toInt := fun long => (right.2 long).2
    have same := copied.mpr ⟨right.1, fun long => (right.2 long).1⟩
    refine ⟨?_, ?_, (privateLen_eq_iff s).mpr fits⟩
    · rw [exact_length fits, same, List.length_append, List.length_replicate]
      exact Nat.add_sub_of_le small
    · rw [exact_length fits, same]
      exact ⟨_, List.append_assoc _ _ _⟩

end Copy

section Rewriting
variable {config : Config} {s : CString}

theorem not_miracast_of_all {tests : List (Test × Branch)}
    (none : tests.all (·.2 != .miracast) = true) {link : Test × Branch} (here : link ∈ tests) :
    link.2 ≠ .miracast := by
  simpa using List.all_eq_true.mp none link here

theorem strncmp_of_miracast (taken : branchOf config s = .miracast) :
    CString.strncmp 9 s (ascii "MIRACAST ") = 0 := by
  rw [branchOf] at taken
  cases found : (chain config).find? fun link => link.1.holds s with
  | none =>
      rw [found] at taken
      cases taken
  | some link =>
      rw [found] at taken
      have isMiracast : link.2 = .miracast := taken
      have holds : link.1.holds s = true :=
        List.find?_some (p := fun link : Test × Branch => link.1.holds s) found
      have here := List.mem_of_find?_eq_some found
      simp only [chain, optionTests, List.mem_append] at here
      obtain (((((here | here) | here) | here) | here) | here) | here := here
      · exact absurd isMiracast (not_miracast_of_all (by decide) here)
      · exact absurd isMiracast (not_miracast_of_all (by decide) (List.mem_ite_nil_right.mp here).2)
      · exact absurd isMiracast (not_miracast_of_all (by decide) (List.mem_ite_nil_right.mp here).2)
      · exact absurd isMiracast (not_miracast_of_all (by decide) (List.mem_ite_nil_right.mp here).2)
      · have sink := (List.mem_ite_nil_right.mp here).2
        simp only [wfdSinkTests, List.mem_cons, List.not_mem_nil, or_false] at sink
        obtain rfl | rfl | rfl | rfl | rfl := sink
        · cases isMiracast
        · cases isMiracast
        · exact beq_iff_eq.mp holds
        · cases isMiracast
        · cases isMiracast
      · exact absurd isMiracast (not_miracast_of_all (by decide) (List.mem_ite_nil_right.mp here).2)
      · exact absurd isMiracast (not_miracast_of_all (by decide) here)

theorem rewrites_long (rewrites : Rewrites config s) : 10 < s.length := by
  obtain ⟨taken, -, found⟩ := rewrites
  obtain ⟨pos, found⟩ := Option.isSome_iff_exists.mp found
  obtain ⟨rest, rfl⟩ := CString.isPrefix_of_strncmp (strncmp_of_miracast taken) rfl (by decide)
  obtain ⟨after, freq⟩ := CString.isPrefix_of_strstr found
  have length := congrArg List.length freq
  have name : (ascii "MIRACAST ").length = 9 := rfl
  have text : (ascii " freq=").length = 6 := rfl
  rw [List.length_append, List.length_drop, List.length_append, name, text] at length
  rw [List.length_append, name]
  by_contra short
  -- there is no blank so early in the name
  have early : pos < 5 := by omega
  have blank : (ascii "MIRACAST ")[pos]? = some 32 := by
    have head := congrArg (·[0]?) freq
    simp only [List.getElem?_drop, Nat.add_zero] at head
    rw [List.getElem?_append_left (by rw [text]; omega),
      List.getElem?_append_left (by rw [name]; omega)] at head
    exact head.symm
  have none : ∀ i < 5, (ascii "MIRACAST ")[i]? ≠ some 32 := by decide
  exact none pos early blank

def handedOn (config : Config) (mem : Memory) (cmd : CharPtr) : Memory :=
  if Rewrites config (mem.string cmd) then
    (mem.memset cmd 0 (mem.string cmd).length).write cmd (ascii "MIRACAST 2")
  else mem

variable {mem : Memory} {cmd : CharPtr}

theorem handedOn_of_not_miracast (other : branchOf config (mem.string cmd) ≠ .miracast) :
    handedOn config mem cmd = mem :=
  if_neg fun rewrites => other rewrites.1

theorem zero_not_mem_rewritten (config : Config) (whole : 0 ∉ s) : 0 ∉ rewritten config s := by
  rw [rewritten]
  split
  · decide
  · exact whole

theorem bytes_handedOn (config : Config) {rest : List UInt8} (whole : 0 ∉ s)
    (here : mem.bytes cmd = s ++ 0 :: rest) :
    (∃ rest', (handedOn config mem cmd).bytes cmd = rewritten config s ++ 0 :: rest') ∧
      ∀ object, (handedOn config mem cmd object).length = (mem object).length := by
  rw [handedOn, rewritten, Memory.string_of_bytes whole here]
  split
  · next rewrites =>
    have long := rewrites_long rewrites
    have length := congrArg List.length here
    rw [Memory.bytes, List.length_drop, List.length_append, List.length_cons] at length
    have zeros : (List.replicate s.length (0 : UInt8)).length = s.length := List.length_replicate
    have literal : (ascii "MIRACAST 2").length = 10 := rfl
    have cleared (object : Nat) : (mem.memset cmd 0 s.length object).length = (mem object).length :=
      Memory.length_write (by rw [zeros]; omega) object
    constructor
    · obtain ⟨more, fewer⟩ := Nat.exists_eq_add_of_lt long
      refine ⟨List.replicate more 0 ++ 0 :: rest, ?_⟩
      rw [Memory.bytes_write_self (by rw [cleared]; omega), Memory.memset,
        Memory.bytes_write_self (by omega), zeros, here, List.drop_left, literal, fewer]
      rw [List.drop_append_of_le_length (by rw [List.length_replicate]; omega),
        List.drop_replicate]
      rw [show 10 + more + 1 - 10 = more + 1 by omega, List.replicate_succ, List.cons_append]
    · intro object
      rw [Memory.length_write (by rw [literal, cleared]; omega), cleared]
  · exact ⟨⟨rest, here⟩, fun _ => rfl⟩

/-- The branch gets to the end: `MIRACAST` needs `wpa_s` for the values that it knows. -/
def HandsOn (config : Config) (wpaS : Option WpaSupplicant) (s : CString) : Prop :=
  (branchOf config s).HandsOn ∧
    (branchOf config s = .miracast → wpaS = none → 2 < miracastValue config s)

section Runs
variable {env : Env} {bss : Bss} {drv : DrvData} {wpaS : Option WpaSupplicant} {buf : CharPtr}
  {bufLen : Nat} {state : DriverState}

theorem run_configSharedFreq (env : Env) (state : DriverState) (positive : UInt32 → Bool) :
    ∃ trace, configSharedFreq env positive state = .ok ((), { state with trace := trace }) := by
  simp only [configSharedFreq, run_bind, run_get, except_bind_ok]
  split
  · exact ⟨_, rfl⟩
  · exact ⟨_, rfl⟩

theorem run_miracast (taken : branchOf config (state.mem.string cmd) = .miracast)
    (runs : wpaS = none → 2 < miracastValue config (state.mem.string cmd)) :
    ∃ ret trace, miracast config env wpaS cmd (state.mem.string cmd) state =
      .ok (⟨false, ret⟩, { state with mem := handedOn config state.mem cmd, trace := trace }) := by
  obtain ⟨trace, follows⟩ := run_configSharedFreq env state (0 < ·)
  have value_eq : (CString.atoi config.longBits ((state.mem.string cmd).drop 9)).toUInt32.toUInt8 =
      miracastValue config (state.mem.string cmd) := rfl
  simp only [miracast, value_eq]
  have kept (other : ¬ Rewrites config (state.mem.string cmd)) :
      handedOn config state.mem cmd = state.mem := if_neg other
  have assigned (small : miracastValue config (state.mem.string cmd) ≤ 2) :
      ∃ ctx, wpaS = some ctx := by
    rw [← Option.ne_none_iff_exists']
    exact fun none => absurd (runs none) (UInt8.not_lt.mpr small)
  by_cases low : miracastValue config (state.mem.string cmd) = 0 ∨
      miracastValue config (state.mem.string cmd) = 1
  · have small := (uint8_le_two_iff _).mpr (low.imp_right .inl)
    obtain ⟨ctx, rfl⟩ := assigned small
    rw [if_pos low, kept]
    · exact ⟨-1, trace, by simp only [readWpaS, run_bind, run_pure, except_bind_ok, follows]⟩
    · intro rewrites
      rw [rewrites.2.1] at low
      exact absurd low (by decide)
  · rw [if_neg low]
    by_cases two : miracastValue config (state.mem.string cmd) = 2
    · obtain ⟨ctx, rfl⟩ := assigned (by rw [two]; decide)
      rw [if_pos two]
      cases found : CString.strstr (state.mem.string cmd) (ascii " freq=") with
      | none =>
          rw [kept]
          · exact ⟨-1, trace, by simp only [readWpaS, run_bind, run_pure, except_bind_ok, follows]⟩
          · intro rewrites
            have some := rewrites.2.2
            rw [found] at some
            cases some
      | some pos =>
          have rewrites : Rewrites config (state.mem.string cmd) :=
            ⟨taken, two, by rw [found]; rfl⟩
          rw [handedOn, if_pos rewrites]
          exact ⟨_, _, rfl⟩
    · rw [if_neg two, kept fun rewrites => two rewrites.2.1]
      exact ⟨-1, state.trace, rfl⟩

theorem body_handsOn (env : Env) (drv : DrvData) (buf : CharPtr) (bufLen : Nat)
    (hands : HandsOn config wpaS (state.mem.string cmd)) :
    ∃ ret trace, body config env drv wpaS cmd buf bufLen (state.mem.string cmd)
        (branchOf config (state.mem.string cmd)) state =
      .ok (⟨false, ret⟩, { state with mem := handedOn config state.mem cmd, trace := trace }) := by
  obtain ⟨branch, runs⟩ := hands
  have other (different : branchOf config (state.mem.string cmd) ≠ .miracast) :
      handedOn config state.mem cmd = state.mem := handedOn_of_not_miracast different
  cases taken : branchOf config (state.mem.string cmd) with
  | miracast => exact run_miracast taken (runs taken)
  | setsuspendmode | transparent =>
      rw [other (by rw [taken]; decide)]
      exact ⟨_, _, rfl⟩
  | _ =>
      rw [taken] at branch
      cases branch

theorem handsOn_of_unhandled {ended : BranchEnd} {middle : DriverState}
    (ran : body config env drv wpaS cmd buf bufLen (state.mem.string cmd)
      (branchOf config (state.mem.string cmd)) state = .ok (ended, middle))
    (unhandled : ended.handled = false) : HandsOn config wpaS (state.mem.string cmd) := by
  constructor
  · by_contra keeps
    have handled := body_handles config env drv wpaS cmd buf bufLen (state.mem.string cmd) keeps
      state ended middle ran
    exact Bool.false_ne_true (unhandled.symm.trans handled)
  · intro taken unassigned
    by_contra known
    rw [taken, unassigned] at ran
    have faults := miracast_faults config env cmd (state.mem.string cmd) state
      (UInt8.not_lt.mp known)
    rw [show body config env drv none cmd buf bufLen (state.mem.string cmd) .miracast state =
      miracast config env none cmd (state.mem.string cmd) state from rfl, faults] at ran
    cases ran

theorem driverCmd_handsOn (env : Env) (buf : CharPtr) (bufLen : Nat)
    (set : bss.Dispatches drv wpaS)
    (hands : HandsOn config wpaS (state.mem.string cmd)) :
    ∃ ret state' emitted, driverCmd config env bss cmd buf bufLen state = .ok (ret, state') ∧
      (∀ effect ∈ emitted, effect.IsPublic) ∧
      state'.trace = state.trace ++ (emitted ++ [.privateIoctl (bss.ifname.take 15)
        (privateBuf config (((handedOn config state.mem cmd).memset buf 0 bufLen).bytes cmd)
          (privateLen ((handedOn config state.mem cmd).string cmd)))
        (privateLen ((handedOn config state.mem cmd).string cmd) + 1)]) := by
  obtain ⟨ended, trace, ran⟩ := body_handsOn env drv buf bufLen hands
  obtain ⟨emitted, grown, isPublic⟩ := emits_body config env drv wpaS cmd buf bufLen
    (state.mem.string cmd) _ state _ _ ran
  obtain ⟨ret, state', sent, last⟩ := privateCmd_sends config env bss cmd buf bufLen
    { state with mem := handedOn config state.mem cmd, trace := trace }
  refine ⟨ret, state', emitted, ?_, isPublic, ?_⟩
  · rw [driverCmd_dispatched set, ran]
    exact sent
  · rw [last, ← List.append_assoc]
    exact congrArg (· ++ _) grown

theorem driverCmd_keeps {state' : DriverState} {ret : Int}
    (keeps : ¬ ∃ drv wpaS, bss.Dispatches drv wpaS ∧ HandsOn config wpaS (state.mem.string cmd))
    (ran : driverCmd config env bss cmd buf bufLen state = .ok (ret, state')) :
    ∀ effect ∈ state'.trace.drop state.trace.length, effect.IsPublic := by
  rcases driverCmd_cases ran with ⟨-, -, rfl⟩ | ⟨drv, wpaS, ended, middle, set, body, ends⟩
  · rw [List.drop_length]
    exact List.forall_mem_nil _
  · obtain ⟨emitted, grown, isPublic⟩ := emits_body config env drv wpaS cmd buf bufLen
      (state.mem.string cmd) _ state ended middle body
    rcases ends with ⟨-, -, rfl⟩ | ⟨unhandled, -⟩
    · rw [grown, List.drop_left]
      exact isPublic
    · exact absurd ⟨drv, wpaS, set, handsOn_of_unhandled body unhandled⟩ keeps

end Runs

end Rewriting

section Sent
variable {config : Config} {env : Env} {bss : Bss} {drv : DrvData} {wpaS : Option WpaSupplicant}
  {cmd buf : CharPtr} {bufLen : Nat} {state : DriverState}

/-- A private command that is sent is right exactly if clearing the reply buffer does no harm. -/
theorem sent_right_iff (terminated : 0 ∈ state.mem.bytes cmd)
    (inside : buf.offset + bufLen ≤ (state.mem buf.object).length) (set : bss.Dispatches drv wpaS)
    (hands : HandsOn config wpaS (state.mem.string cmd)) :
    PrivateRight config env bss cmd buf bufLen state ↔
      ClearedRight cmd buf bufLen (rewritten config (state.mem.string cmd)).length := by
  obtain ⟨ret, state', emitted, ran, isPublic, trace⟩ :=
    driverCmd_handsOn env buf bufLen set hands
  have whole := state.mem.zero_not_mem_string cmd
  obtain ⟨rest, here⟩ := Memory.bytes_of_terminated terminated
  obtain ⟨⟨rest', moved⟩, lengths⟩ := bytes_handedOn config whole here
  have wholeStill := zero_not_mem_rewritten config whole
  have insideStill : buf.offset + bufLen ≤
      (handedOn config state.mem cmd buf.object).length := by
    rw [lengths]
    exact inside
  rw [Memory.string_of_bytes wholeStill moved] at trace
  rw [← holdsCommand_iff config wholeStill moved insideStill]
  constructor
  · intro right
    refine right ret state' ran (bss.ifname.take 15) _ _ ?_
    rw [trace, List.drop_left]
    exact List.mem_append_right _ List.mem_cons_self
  · intro right ret' state'' ran' ifname text used sent
    obtain ⟨rfl, rfl⟩ := Prod.mk.inj (Except.ok.inj (ran.symm.trans ran'))
    rw [trace, List.drop_left] at sent
    rcases List.mem_append.mp sent with early | last
    · exact absurd (isPublic _ early) id
    · obtain ⟨rfl, rfl, rfl⟩ := Effect.privateIoctl.inj (List.mem_singleton.mp last)
      exact right

end Sent

/-- The private command is right exactly if it is not sent, or clearing the reply buffer does
no harm to the command. -/
theorem private_right_iff (config : Config) (env : Env) {bss : Bss} {cmd buf : CharPtr}
    {bufLen : Nat} {state : DriverState} (terminated : 0 ∈ state.mem.bytes cmd)
    (inside : buf.offset + bufLen ≤ (state.mem buf.object).length) :
    PrivateRight config env bss cmd buf bufLen state ↔
      (¬ ∃ drv wpaS, bss.Dispatches drv wpaS ∧ HandsOn config wpaS (state.mem.string cmd)) ∨
        ClearedRight cmd buf bufLen (rewritten config (state.mem.string cmd)).length := by
  by_cases sends : ∃ drv wpaS, bss.Dispatches drv wpaS ∧
    HandsOn config wpaS (state.mem.string cmd)
  · rw [or_iff_right (not_not_intro sends)]
    obtain ⟨drv, wpaS, set, hands⟩ := sends
    exact sent_right_iff terminated inside set hands
  · refine iff_of_true (fun ret state' ran ifname text used sent => ?_) (.inl sends)
    exact absurd (driverCmd_keeps sends ran _ sent) id

theorem private_right_setband :
    PrivateRight .plain .obliging stationBss ⟨0, 0⟩ ⟨1, 0⟩ 64 (stateOf "SETBAND 1") := by
  have apart (i : Nat) : ¬ Memory.Covers ⟨1, 0⟩ 64 ⟨0, 0⟩ i :=
    fun covered => absurd covered.1 (by decide)
  refine (private_right_iff .plain .obliging (by decide) (by decide)).mpr (.inr ?_)
  exact ⟨fun i _ => apart i, fun long => absurd long (by decide)⟩

/-- The copy of a command of 512 characters is not terminated. -/
theorem private_wrong :
    ¬ ∀ config env bss cmd buf bufLen (state : DriverState), 0 ∈ state.mem.bytes cmd →
      buf.offset + bufLen ≤ (state.mem buf.object).length →
        PrivateRight config env bss cmd buf bufLen state := by
  intro all
  let long : CString := ascii "X" ++ List.replicate 511 88
  let state : DriverState := ⟨fun object => if object = 0 then long ++ [0] else [0], [], 0⟩
  have here : state.mem.bytes ⟨0, 0⟩ = long ++ 0 :: [] := rfl
  have whole : 0 ∉ long := by
    intro zero
    rcases List.mem_append.mp zero with first | later
    · exact absurd first (by decide)
    · exact absurd (List.eq_of_mem_replicate later) (by decide)
  have text : state.mem.string ⟨0, 0⟩ = long := Memory.string_of_bytes whole here
  have taken : branchOf .plain (state.mem.string ⟨0, 0⟩) = .transparent := by
    rw [text]
    exact branchOf_of_refused (by decide) _
  have same : rewritten .plain (state.mem.string ⟨0, 0⟩) = long := by
    rw [rewritten, if_neg, text]
    intro rewrites
    have branch := rewrites.1
    rw [taken] at branch
    cases branch
  have terminated : 0 ∈ state.mem.bytes ⟨0, 0⟩ := by
    rw [here]
    exact List.mem_append_right _ List.mem_cons_self
  obtain ⟨drv, wpaS, set⟩ := stationBss_dispatches
  have hands : HandsOn .plain wpaS (state.mem.string ⟨0, 0⟩) := by
    rw [HandsOn, taken]
    exact ⟨trivial, fun other => nomatch other⟩
  have right := all .plain .obliging stationBss ⟨0, 0⟩ ⟨1, 0⟩ 1 state terminated (le_refl _)
  rw [sent_right_iff terminated (le_refl _) set hands, same] at right
  have length : long.length = 512 := by
    rw [List.length_append, List.length_replicate]
    rfl
  exact absurd (right.2 (by rw [length]; decide)).1.1 (by decide)

end Mt6757.Supplicant
