import Mt6757.WifiHal.SetupReadBack

/-!
# Cancelling RTT for some devices

The teardown request announces its targets in one byte and lists as many addresses as a
message has room for, which are more than a byte can count.
-/

set_option autoImplicit false

namespace Mt6757.WifiHal

open NlMessage

def rttSubcmdCancelConfig : UInt32 := 0x1101

namespace RttCommand

/-- The result of the count is dropped; without devices that of `create` is returned. -/
def createTeardownRequest (env : RequestEnv) (numDevices : UInt32) (addr : Nat → MacAddr) :
    Builder Int := do
  let result ← createVendor env googleOui rttSubcmdCancelConfig
  let data ← env.lib.nestStart nl80211AttrVendorData.toNat
  let result ← (do
    let _ ← env.lib.put rttAttributeTargetCnt (leBytes 1 numDevices.toNat)
    loop (fun i _ => putAddr env.lib rttAttributeTargetMac (addr i)) numDevices.toNat 0 result)
  env.lib.nestEnd data
  pure result

/-- The request that `cancel_specific` sends, if it gets that far. -/
def cancelSpecific (env : RequestEnv) (numDevices : UInt32) (addr : Nat → MacAddr) :
    Option (List UInt8) :=
  match createTeardownRequest env numDevices addr [] with
  | .ok result msg => if result ≠ wifiSuccess then none else some msg
  | _ => none

end RttCommand

/-! ## What is written -/

def deviceAttrs (numDevices : UInt32) (addr : Nat → MacAddr) : List Attr :=
  (List.range numDevices.toNat).map fun i => (rttAttributeTargetMac, (addr i).bytes)

def teardownAttrs (numDevices : UInt32) (addr : Nat → MacAddr) : List Attr :=
  [(rttAttributeTargetCnt, leBytes 1 numDevices.toNat)] ++ deviceAttrs numDevices addr

def teardownLength (env : RequestEnv) (numDevices : UInt32) : Nat :=
  (if env.iface ≠ -1 then 56 else 48) + 12 * numDevices.toNat

section Written

variable (env : RequestEnv) (numDevices : UInt32) (addr : Nat → MacAddr)

theorem deviceAttrs_length :
    (attrsBytes (deviceAttrs numDevices addr)).length = 12 * numDevices.toNat := by
  rw [deviceAttrs]
  induction numDevices.toNat with
  | zero => rfl
  | succ n ih =>
      rw [List.range_succ, List.map_append, attrsBytes_append, List.length_append, ih]
      simp only [List.map_cons, List.map_nil, attrsBytes_cons, attrsBytes_nil, List.append_nil,
        attrBytes_length, (addr n).whole, Netlink.align, Netlink.hdrlen]
      omega

theorem teardownAttrs_length :
    (attrsBytes (teardownAttrs numDevices addr)).length = 8 + 12 * numDevices.toNat := by
  rw [teardownAttrs, attrsBytes_append, List.length_append, deviceAttrs_length]
  simp [attrsBytes_cons, attrBytes_length, Netlink.align, Netlink.hdrlen]

theorem requestAttrs_length :
    genlHdrlen + (attrsBytes (createAttrs env googleOui rttSubcmdCancelConfig ++
      [(nl80211AttrVendorData.toNat, attrsBytes (teardownAttrs numDevices addr))])).length =
      teardownLength env numDevices := by
  have created := @createAttrs_length_eq env googleOui rttSubcmdCancelConfig
  rw [attrsBytes_append, List.length_append, created, teardownLength]
  simp only [attrsBytes_cons, attrsBytes_nil, List.append_nil, nest_length, teardownAttrs_length,
    Netlink.hdrlen, genlHdrlen]
  split
  all_goals omega

theorem teardownAttrs_ne_nil : teardownAttrs numDevices addr ≠ [] := List.cons_ne_nil _ _

theorem emits_teardown :
    env.lib.Emits 0 (RttCommand.createTeardownRequest env numDevices addr)
      (createAttrs env googleOui rttSubcmdCancelConfig ++
        env.lib.nested nl80211AttrVendorData.toNat (teardownAttrs numDevices addr)) := by
  have header := @createAttrs_length env googleOui rttSubcmdCancelConfig
  have room := env.room_eq
  have count : (attrBytes rttAttributeTargetCnt (leBytes 1 numDevices.toNat)).length = 8 := by
    simp [attrBytes_length, Netlink.align, Netlink.hdrlen]
  refine (emits_createVendor _ _).bind (NlLib.emits_nest _ id rfl (.inl ?_) ?_)
  · simp only [Netlink.hdrlen]
    omega
  refine (NlLib.emits_unchecked_put _ _ ?_).bind ?_
  · simp only [Netlink.hdrlen]
    omega
  exact NlLib.emits_loop_one _ fun i _ => emits_putAddr _ _

theorem completes_teardown (got : env.allocated = true) :
    env.lib.Completes (RttCommand.createTeardownRequest env numDevices addr)
      (createAttrs env googleOui rttSubcmdCancelConfig ++
        [(nl80211AttrVendorData.toNat, attrsBytes (teardownAttrs numDevices addr))]) := by
  refine (completes_createVendor _ _ got).bind
    (NlLib.completes_nest _ id rfl (teardownAttrs_ne_nil _ _) ?_)
  refine (NlLib.completes_put _ _).bind ?_
  exact NlLib.completes_loop_one _ fun i _ => NlLib.completes_checked_put _ _

end Written

/-! ## What a driver reads -/

def readTeardown (payload : List UInt8) : Option (UInt32 × List MacAddr) :=
  match walk payload with
  | [] => none
  | first :: rest => do
      let targetCnt ← wordOf 1 [first] rttAttributeTargetCnt
      let payloads ← alike rttAttributeTargetMac rest
      let targets ← payloads.mapM readAddr
      some (targetCnt, targets)

/-- A request that is sent announces as many devices as it lists, and lists those that were
passed in. -/
def TeardownCounted (env : RequestEnv) (numDevices : UInt32) (addr : Nat → MacAddr) : Prop :=
  ∀ msg, RttCommand.cancelSpecific env numDevices addr = some msg →
    ∃ vendor targetCnt targets, vendorData msg = some vendor ∧
      readTeardown vendor = some (targetCnt, targets) ∧
      targetCnt.toNat = targets.length ∧ targets = (List.range numDevices.toNat).map addr

section Read

variable {env : RequestEnv} {numDevices : UInt32} {addr : Nat → MacAddr}

theorem readTeardown_back (short : (attrsBytes (teardownAttrs numDevices addr)).length < 65536) :
    readTeardown (attrsBytes (teardownAttrs numDevices addr)) =
      some (.ofNat (numDevices.toNat % 256), (List.range numDevices.toNat).map addr) := by
  have walked : walk (attrsBytes (teardownAttrs numDevices addr)) =
      teardownAttrs numDevices addr := by
    refine walk_attrsBytes (fun attr here => ?_) short
    rcases List.mem_append.mp here with here | here
    · exact types_small rfl attr here
    · obtain ⟨i, -, rfl⟩ := List.mem_map.mp here
      show rttAttributeTargetMac < 65536
      decide
  have targetCnt : wordOf 1 [(rttAttributeTargetCnt, leBytes 1 numDevices.toNat)]
      rttAttributeTargetCnt = some (.ofNat (numDevices.toNat % 256)) := by
    have value := leValue_leBytes 1 numDevices.toNat
    rw [pow_one] at value
    show word 1 (leBytes 1 numDevices.toNat) = _
    rw [word, if_pos (leBytes_length _ _), value]
  have listed : alike rttAttributeTargetMac (deviceAttrs numDevices addr) =
      some ((List.range numDevices.toNat).map fun i => (addr i).bytes) := by
    simp [alike, deviceAttrs, Function.comp_def]
  have read : ((List.range numDevices.toNat).map fun i => (addr i).bytes).mapM readAddr =
      some ((List.range numDevices.toNat).map addr) := mapM_map fun i _ => readAddr_back (addr i)
  rw [readTeardown, walked]
  simp only [teardownAttrs, List.singleton_append, targetCnt, listed, read, Option.bind_eq_bind,
    Option.bind_some]

theorem nested_teardown (lib : NlLib) (numDevices : UInt32) (addr : Nat → MacAddr) :
    lib.nested nl80211AttrVendorData.toNat (teardownAttrs numDevices addr) =
      [(nl80211AttrVendorData.toNat, attrsBytes (teardownAttrs numDevices addr))] :=
  lib.nested_of_ne _ (teardownAttrs_ne_nil _ _)

/-- A request is sent when there is a message and all devices have room in it. -/
theorem cancelSpecific_eq_some_iff {msg : List UInt8} :
    RttCommand.cancelSpecific env numDevices addr = some msg ↔
      (env.allocated = true ∧ teardownLength env numDevices ≤ messageCapacity) ∧
        msg = attrsBytes (createAttrs env googleOui rttSubcmdCancelConfig ++
          [(nl80211AttrVendorData.toNat, attrsBytes (teardownAttrs numDevices addr))]) := by
  have emits := emits_teardown env numDevices addr [] (le_refl _) (Nat.zero_le _)
  have length := requestAttrs_length env numDevices addr
  have room := env.room_eq
  rw [nested_teardown] at emits
  simp only [List.nil_append] at emits
  constructor
  · intro sent
    rw [RttCommand.cancelSpecific] at sent
    rcases emits with ⟨code, negative, returned⟩ | ⟨fits, ran⟩
    · rw [returned] at sent
      cases sent
    · rw [ran] at sent
      refine ⟨⟨?_, ?_⟩, (Option.some.inj sent).symm⟩
      · by_contra missing
        have refused : RttCommand.createTeardownRequest env numDevices addr [] =
            .returned wifiErrorOutOfMemory := by
          refine bind_returned ?_
          rw [createVendor, if_neg missing]
          rfl
        rw [refused] at ran
        cases ran
      · rw [← length]
        simp only [genlHdrlen, messageCapacity]
        omega
  · rintro ⟨⟨got, fits⟩, rfl⟩
    have ran := completes_teardown env numDevices addr got [] (by
      simp only [messageCapacity, genlHdrlen] at fits length
      rw [List.nil_append]
      omega)
    rw [RttCommand.cancelSpecific, ran]
    rfl

theorem announced_toNat (n : Nat) : (UInt32.ofNat (n % 256)).toNat = n % 256 := by
  rw [UInt32.toNat_ofNat']
  omega

theorem readTeardown_sent {msg : List UInt8}
    (sent : RttCommand.cancelSpecific env numDevices addr = some msg) :
    ∃ vendor, vendorData msg = some vendor ∧
      readTeardown vendor =
        some (.ofNat (numDevices.toNat % 256), (List.range numDevices.toNat).map addr) := by
  obtain ⟨⟨-, fits⟩, rfl⟩ := cancelSpecific_eq_some_iff.mp sent
  have length := requestAttrs_length env numDevices addr
  have inside := teardownAttrs_length numDevices addr
  have devices : 12 * numDevices.toNat ≤ teardownLength env numDevices := Nat.le_add_left _ _
  simp only [genlHdrlen, messageCapacity] at fits length
  refine ⟨_, ?_, readTeardown_back (by omega)⟩
  rw [← nested_teardown env.lib] at length ⊢
  exact vendorData_back (teardownAttrs_ne_nil _ _) (by omega)

/-- The announced number is the number of devices up to 255 of them; with more the request
is wrong, unless it is so large that it is not sent. -/
theorem teardown_counted_iff (env : RequestEnv) (numDevices : UInt32) (addr : Nat → MacAddr) :
    TeardownCounted env numDevices addr ↔
      numDevices.toNat ≤ 255 ∨ env.allocated = false ∨
        messageCapacity < teardownLength env numDevices := by
  constructor
  · intro counted
    by_contra wrong
    rw [not_or, not_or, Bool.not_eq_false] at wrong
    obtain ⟨many, got, fits⟩ := wrong
    obtain ⟨vendor, targetCnt, targets, found, read, same, listed⟩ :=
      counted _ (cancelSpecific_eq_some_iff.mpr ⟨⟨got, Nat.le_of_not_lt fits⟩, rfl⟩)
    obtain ⟨vendor', found', read'⟩ := @readTeardown_sent _ _ addr _
      (cancelSpecific_eq_some_iff.mpr ⟨⟨got, Nat.le_of_not_lt fits⟩, rfl⟩)
    rw [found] at found'
    obtain rfl := Option.some.inj found'
    rw [read] at read'
    obtain ⟨rfl, rfl⟩ := Prod.mk.inj (Option.some.inj read')
    rw [List.length_map, List.length_range, announced_toNat] at same
    omega
  · intro small msg sent
    obtain ⟨vendor, found, read⟩ := readTeardown_sent sent
    obtain ⟨⟨got, fits⟩, -⟩ := cancelSpecific_eq_some_iff.mp sent
    have few : numDevices.toNat ≤ 255 := by
      rcases small with few | missing | large
      · exact few
      · rw [got] at missing
        cases missing
      · omega
    refine ⟨vendor, _, _, found, read, ?_, rfl⟩
    rw [List.length_map, List.length_range, announced_toNat]
    omega

/-- 256 devices are announced as none. -/
theorem teardown_not_counted :
    ¬ ∀ env numDevices addr, TeardownCounted env numDevices addr := by
  intro all
  let addr : Nat → MacAddr := fun _ => ⟨List.replicate 6 0, rfl⟩
  have sent : RttCommand.cancelSpecific (.paged 3 true false) 256 addr = some _ :=
    cancelSpecific_eq_some_iff.mpr ⟨⟨rfl, by decide⟩, rfl⟩
  obtain ⟨vendor, targetCnt, targets, found, read, same, -⟩ := all (.paged 3 true false) 256 addr _ sent
  obtain ⟨vendor', found', read'⟩ := readTeardown_sent sent
  rw [found] at found'
  obtain rfl := Option.some.inj found'
  rw [read] at read'
  obtain ⟨rfl, rfl⟩ := Prod.mk.inj (Option.some.inj read')
  rw [List.length_map, List.length_range] at same
  contradiction

end Read

end Mt6757.WifiHal
