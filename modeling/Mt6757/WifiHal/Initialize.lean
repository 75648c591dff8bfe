import Mt6757.Lib.CString
import Mt6757.Lib.Ledger
import Mt6757.Lib.Machine
import Mt6757.WifiHal.Sequential

/-!
# What a handle acquires and gives back

`wifi_initialize` with all its exits, `wifi_init_interfaces`, and the end of
`wifi_cleanup`.  Each returns the ledger of what it acquired and released beside
its result, so that a run of both tells what every handle still owns when it ends.
-/

set_option autoImplicit false

namespace Mt6757.WifiHal.Initialize

abbrev Handle := Nat

inductive ResourceKind where
  | halInfo
  | cleanupSock (index : Fin 2)
  | cmdSock
  | eventSock
  | eventCb
  | cmd
  | cbLock
  | interfaces
  /-- allocated for this entry of the second listing -/
  | interfaceInfo (entry : Nat)
  | dir (scan : Fin 2)
  deriving DecidableEq, Repr

/-- What an allocation returns.  Memory that is freed does not come back under the
same name. -/
structure Resource where
  owner : Handle
  kind : ResourceKind
  deriving DecidableEq, Repr

abbrev Event := Ledger.Event Resource Handle

/-- How a function ends: its part of the ledger and its result. -/
structure Ended (α : Type) where
  log : List Event
  result : α

section Ended
variable {α : Type}

def Ended.after (log : List Event) (ended : Ended α) : Ended α := ⟨log ++ ended.log, ended.result⟩

@[simp] theorem Ended.after_log (log : List Event) (ended : Ended α) :
    (Ended.after log ended).log = log ++ ended.log := rfl

@[simp] theorem Ended.after_result (log : List Event) (ended : Ended α) :
    (Ended.after log ended).result = ended.result := rfl

def Ended.Records (ended : Ended α) (holds : Event → Prop) : Prop :=
  ∀ event ∈ ended.log, holds event

theorem Ended.Records.nil {result : α} {holds : Event → Prop} :
    Ended.Records ⟨[], result⟩ holds :=
  fun _ here => absurd here List.not_mem_nil

theorem Ended.Records.after {log : List Event} {ended : Ended α} {holds : Event → Prop}
    (first : ∀ event ∈ log, holds event) (later : ended.Records holds) :
    (Ended.after log ended).Records holds :=
  fun event here => (List.mem_append.mp here).elim (first event) (later event)

end Ended

def wifiErrorUnknown : WifiError := -1
def wifiErrorNotAvailable : WifiError := -4

/-! ## Interfaces -/

structure InterfaceInfo where
  handle : Handle
  name : CString
  id : UInt32

/-- The pointers stored in `interfaces`, from index zero on, with what they point
to; `alloc` entries were asked for. -/
structure Interfaces where
  array : Resource
  alloc : Nat
  stored : List (Resource × InterfaceInfo)
  numInterfaces : Nat

/-- The two listings of `/sys/class/net` (`none` where `opendir` fails), and the
answers of `malloc` and `if_nametoindex`. -/
structure InterfacesEnv where
  first : Option (List CString)
  second : Option (List CString)
  array : Bool
  entry : Nat → Bool
  ifNametoindex : CString → UInt32

def isWifiInterface (name : CString) : Bool :=
  !(CString.strncmp 4 name (CString.ascii "wlan") ≠ 0 &&
    CString.strncmp 3 name (CString.ascii "p2p") ≠ 0)

def isCounted (name : CString) : Bool :=
  !(name.head? == some 46) && isWifiInterface name

/-- The first scan counts an interface, and the second opens and gets its array. -/
def InterfacesEnv.found (env : InterfacesEnv) : Bool :=
  env.first.any (fun names => names.countP isCounted != 0) && env.second.isSome && env.array

/-- `strncpy` into nine bytes, the last of which is cleared. -/
def getInterface (env : InterfacesEnv) (this : Handle) (name : CString) :
    WifiError × InterfaceInfo :=
  (wifiSuccess, ⟨this, name.take 8, env.ifNametoindex name⟩)

/-- The second loop.  There is no test of the result of `malloc`, and the copy into
a null `ifinfo` ends the process (`none`). -/
def storeInterfaces (env : InterfacesEnv) (this : Handle) :
    List CString → (entry : Nat) → Ended (Option (List (Resource × InterfaceInfo)))
  | [], _ => ⟨[], some []⟩
  | name :: rest, entry =>
      if isCounted name then
        if env.entry entry then
          let ifinfo : Resource := ⟨this, .interfaceInfo entry⟩
          let (result, info) := getInterface env this name
          let later := storeInterfaces env this rest (entry + 1)
          if result ≠ wifiSuccess then .after [.acquired ifinfo, .released ifinfo] later
          else .after [.acquired ifinfo] ⟨later.log, later.result.map ((ifinfo, info) :: ·)⟩
        else ⟨[], none⟩
      else storeInterfaces env this rest (entry + 1)

/-- The result is `none` where the process ends. -/
def wifiInitInterfaces (env : InterfacesEnv) (this : Handle) :
    Ended (Option (Except WifiError Interfaces)) :=
  match env.first with
  | none => ⟨[], some (.error wifiErrorUnknown)⟩
  | some names =>
      .after [.acquired ⟨this, .dir 0⟩, .released ⟨this, .dir 0⟩] <|
      let n := names.countP isCounted
      if n = 0 then ⟨[], some (.error wifiErrorNotAvailable)⟩
      else
        match env.second with
        | none => ⟨[], some (.error wifiErrorUnknown)⟩
        | some names =>
            .after [.acquired ⟨this, .dir 1⟩] <|
            if !env.array then
              ⟨[.released ⟨this, .dir 1⟩], some (.error wifiErrorOutOfMemory)⟩
            else
              let stored := storeInterfaces env this names 0
              .after (.acquired ⟨this, .interfaces⟩ :: stored.log) <|
              match stored.result with
              | none => ⟨[], none⟩
              | some stored =>
                  ⟨[.released ⟨this, .dir 1⟩],
                    some (.ok ⟨⟨this, .interfaces⟩, n, stored, n⟩)⟩

/-! ## Initialisation -/

structure NlSocketEnv where
  alloc : Bool
  connect : Int

def NlSocketEnv.Opens (env : NlSocketEnv) : Prop := env.alloc = true ∧ env.connect = 0

def wifiCreateNlSocket (env : NlSocketEnv) (sock : Resource) : Ended (Option Resource) :=
  if !env.alloc then ⟨[], none⟩
  else if env.connect ≠ 0 then ⟨[.acquired sock, .released sock], none⟩
  else ⟨[.acquired sock], some sock⟩

/-- What the allocator, the kernel and the netlink library answer to one call of
`wifi_initialize`, and what fresh tables happen to hold. -/
structure InitEnv where
  halInfo : Bool
  socketpair : Int
  cmdSock : NlSocketEnv
  eventSock : NlSocketEnv
  nlCb : Bool
  eventCb : Bool
  cmd : Bool
  nl80211FamilyId : Int
  interfaces : InterfacesEnv
  multicastId : CString → Int
  addMembership : Int → Int
  eventFill : CbInfo
  cmdFill : CmdInfo

def wifiAddMembership (env : InitEnv) (group : CString) : Int :=
  let id := env.multicastId group
  if id < 0 then id else env.addMembership id

/-- The condition under which `wifi_initialize` gives up after its last calls. -/
def membershipFails (env : InitEnv) : Bool :=
  wifiAddMembership env (CString.ascii "scan") < 0 ||
    wifiAddMembership env (CString.ascii "mlme") < 0 ||
    wifiAddMembership env (CString.ascii "regulatory") < 0 ||
    wifiAddMembership env (CString.ascii "vendor") < 0

/-- What `hal_info` owns.  The two tables are in `world`, with the rest of the state
that the commands work on. -/
structure HalRecord where
  info : Resource
  cleanupSocks : Resource × Resource
  cmdSock : Option Resource
  eventSock : Option Resource
  nl80211FamilyId : Int
  eventCb : Resource
  cmd : Resource
  cbLock : Resource
  interfaces : Interfaces
  world : World

inductive InitResult where
  | failed (error : WifiError)
  | initialized (record : HalRecord)
  | crashed

def initializeTables (env : InitEnv) (this : Handle) (cleanupSocks : Resource × Resource)
    (cmdSock eventSock : Resource) : Ended InitResult :=
  let info : Resource := ⟨this, .halInfo⟩
  let eventCb : Resource := ⟨this, .eventCb⟩
  if !env.eventCb then
    ⟨[.released cmdSock, .released eventSock, .released info], .failed wifiErrorOutOfMemory⟩
  else
  .after [.acquired eventCb] <|
  let cmd : Resource := ⟨this, .cmd⟩
  if !env.cmd then
    ⟨[.released cmdSock, .released eventSock, .released eventCb, .released info],
      .failed wifiErrorOutOfMemory⟩
  else
  .after [.acquired cmd] <|
  if env.nl80211FamilyId < 0 then
    ⟨[.released cmdSock, .released eventSock, .released eventCb, .released cmd, .released info],
      .failed wifiErrorUnknown⟩
  else
  let cbLock : Resource := ⟨this, .cbLock⟩
  .after [.acquired cbLock] <|
  let found := wifiInitInterfaces env.interfaces this
  .after found.log <|
  match found.result with
  | none => ⟨[], .crashed⟩
  | some (.error _) =>
      ⟨[.released cmdSock, .released eventSock, .released eventCb, .released cmd,
          .released cbLock, .released info], .failed wifiErrorNotAvailable⟩
  | some (.ok interfaces) =>
  if membershipFails env then
    ⟨[.released cmdSock, .released eventSock, .released eventCb, .released cmd,
        .released cbLock, .released info], .failed wifiErrorNotAvailable⟩
  else
    ⟨[], .initialized
      { info := info
        cleanupSocks := cleanupSocks
        cmdSock := some cmdSock
        eventSock := some eventSock
        nl80211FamilyId := env.nl80211FamilyId
        eventCb := eventCb
        cmd := cmd
        cbLock := cbLock
        interfaces := interfaces
        world := .initial env.eventFill env.cmdFill }⟩

def initializeSockets (env : InitEnv) (this : Handle) (cleanupSocks : Resource × Resource) :
    Ended InitResult :=
  let info : Resource := ⟨this, .halInfo⟩
  let created := wifiCreateNlSocket env.cmdSock ⟨this, .cmdSock⟩
  .after created.log <|
  match created.result with
  | none => ⟨[.released info], .failed wifiErrorUnknown⟩
  | some cmdSock =>
  let created := wifiCreateNlSocket env.eventSock ⟨this, .eventSock⟩
  .after created.log <|
  match created.result with
  | none => ⟨[.released cmdSock, .released info], .failed wifiErrorUnknown⟩
  | some eventSock =>
  if !env.nlCb then
    ⟨[.released cmdSock, .released eventSock, .released info], .failed wifiErrorUnknown⟩
  else initializeTables env this cleanupSocks cmdSock eventSock

def wifiInitialize (env : InitEnv) (this : Handle) : Ended InitResult :=
  let info : Resource := ⟨this, .halInfo⟩
  if !env.halInfo then ⟨[], .failed wifiErrorOutOfMemory⟩
  else
  .after [.acquired info] <|
  let cleanupSocks : Resource × Resource := (⟨this, .cleanupSock 0⟩, ⟨this, .cleanupSock 1⟩)
  if env.socketpair < 0 then ⟨[.released info], .failed wifiErrorUnknown⟩
  else
    .after [.acquired cleanupSocks.1, .acquired cleanupSocks.2]
      (initializeSockets env this cleanupSocks)

/-! ## Cleanup -/

/-- `internal_cleaned_up_handler`; the handler it calls is the framework's. -/
def internalCleanedUpHandler (record : HalRecord) : List Event :=
  (match record.cmdSock with
    | some cmdSock =>
        [.released record.cleanupSocks.1, .released record.cleanupSocks.2, .released cmdSock] ++
          record.eventSock.toList.map .released
    | none => []) ++
    [.released record.cbLock, .released record.info]

/-- `wifi_cleanup` after the handshake with the event loop, of which every outcome
leads here.  It does not finish while the loop over the commands does not. -/
def wifiCleanup (fuel : Nat) (driver : Env) (record : HalRecord) : Option (List Event) :=
  if ((WifiHal.wifiCleanup fuel).run (exec .api driver) record.world).1 = cleanupUnfinished then none
  else some (internalCleanedUpHandler record)

/-! ## What the ledgers hold -/

section Ledgers

def Concerns (this : Handle) (kinds : ResourceKind → Prop) (event : Event) : Prop :=
  ∃ kind, kinds kind ∧ (event = .acquired ⟨this, kind⟩ ∨ event = .released ⟨this, kind⟩)

variable {this : Handle} {kinds kinds' : ResourceKind → Prop} {event : Event}

@[simp] theorem concerns_acquired {kind : ResourceKind} :
    Concerns this kinds (.acquired ⟨this, kind⟩) ↔ kinds kind := by
  simp [Concerns]

@[simp] theorem concerns_released {kind : ResourceKind} :
    Concerns this kinds (.released ⟨this, kind⟩) ↔ kinds kind := by
  simp [Concerns]

theorem Concerns.mono (concerns : Concerns this kinds event)
    (sub : ∀ kind, kinds kind → kinds' kind) : Concerns this kinds' event := by
  obtain ⟨kind, here, either⟩ := concerns
  exact ⟨kind, sub kind here, either⟩

theorem Concerns.owner (concerns : Concerns this kinds event) :
    event.owner Resource.owner = this := by
  obtain ⟨kind, -, rfl | rfl⟩ := concerns <;> rfl

theorem Concerns.running (concerns : Concerns this kinds event) : event.isClosed = false := by
  obtain ⟨kind, -, rfl | rfl⟩ := concerns <;> rfl

/-- The kinds that are not the ends of the socket pair. -/
def IsPrivate : ResourceKind → Prop
  | .cleanupSock _ => False
  | _ => True

variable (env : InitEnv) (this)

def IsListing : ResourceKind → Prop
  | .dir _ | .interfaces | .interfaceInfo _ => True
  | _ => False

theorem IsListing.isPrivate {kind : ResourceKind} (listing : IsListing kind) : IsPrivate kind := by
  cases kind <;> trivial

theorem storeInterfaces_concerns (env : InterfacesEnv) (names : List CString) (entry : Nat) :
    (storeInterfaces env this names entry).Records (Concerns this IsListing) := by
  induction names generalizing entry with
  | nil => exact .nil
  | cons name rest ih =>
      unfold storeInterfaces
      split
      · split
        · exact .after (by simp [IsListing]) (ih (entry + 1))
        · exact .nil
      · exact ih (entry + 1)

theorem wifiInitInterfaces_concerns (env : InterfacesEnv) :
    (wifiInitInterfaces env this).Records (Concerns this IsListing) := by
  unfold wifiInitInterfaces
  split
  · exact .nil
  · refine .after (by simp [IsListing]) ?_
    dsimp only
    split
    · exact .nil
    · split
      · exact .nil
      · refine .after (by simp [IsListing]) ?_
        split
        · simp [Ended.Records, IsListing]
        · refine .after ?_ ?_
          · simpa [Ended.Records, IsListing] using storeInterfaces_concerns this env _ 0
          · split
            · exact .nil
            · simp [Ended.Records, IsListing]

theorem wifiCreateNlSocket_cases (env : NlSocketEnv) (sock : Resource) :
    (env.Opens ∧ wifiCreateNlSocket env sock = ⟨[.acquired sock], some sock⟩) ∨
      (¬ env.Opens ∧ (wifiCreateNlSocket env sock).result = none ∧
        ((wifiCreateNlSocket env sock).log = [] ∨
          (wifiCreateNlSocket env sock).log = [.acquired sock, .released sock])) := by
  unfold wifiCreateNlSocket NlSocketEnv.Opens
  split
  · simp_all
  · split <;> simp_all

/-- Once the socket pair is there, no path closes it. -/
theorem initializeTables_concerns {cmdSock eventSock : Resource}
    (cleanupSocks : Resource × Resource) (ofCmd : cmdSock = ⟨this, .cmdSock⟩)
    (ofEvent : eventSock = ⟨this, .eventSock⟩) :
    (initializeTables env this cleanupSocks cmdSock eventSock).Records
      (Concerns this IsPrivate) := by
  subst ofCmd ofEvent
  have listing := wifiInitInterfaces_concerns this env.interfaces
  unfold initializeTables
  dsimp only
  split
  · simp [Ended.Records, IsPrivate]
  · refine .after (by simp [IsPrivate]) ?_
    split
    · simp [Ended.Records, IsPrivate]
    · refine .after (by simp [IsPrivate]) ?_
      split
      · simp [Ended.Records, IsPrivate]
      · refine .after (by simp [IsPrivate]) ?_
        refine .after ?_ ?_
        · exact fun event here => (listing event here).mono fun _ => IsListing.isPrivate
        · split
          · exact .nil
          · simp [Ended.Records, IsPrivate]
          · split
            · simp [Ended.Records, IsPrivate]
            · exact .nil

theorem initializeSockets_concerns (cleanupSocks : Resource × Resource) :
    (initializeSockets env this cleanupSocks).Records (Concerns this IsPrivate) := by
  unfold initializeSockets
  dsimp only
  rcases wifiCreateNlSocket_cases env.cmdSock ⟨this, .cmdSock⟩ with
    ⟨-, created⟩ | ⟨-, failed, log⟩
  · rw [created]
    refine .after (by simp [IsPrivate]) ?_
    rcases wifiCreateNlSocket_cases env.eventSock ⟨this, .eventSock⟩ with
      ⟨-, created⟩ | ⟨-, failed, log⟩
    · simp only [created]
      refine .after (by simp [IsPrivate]) ?_
      split
      · simp [Ended.Records, IsPrivate]
      · exact initializeTables_concerns this env cleanupSocks rfl rfl
    · simp only [failed]
      refine .after ?_ (by simp [Ended.Records, IsPrivate])
      rcases log with log | log <;> simp [log, IsPrivate]
  · rw [failed]
    refine .after ?_ (by simp [Ended.Records, IsPrivate])
    rcases log with log | log <;> simp [log, IsPrivate]

/-- A call that does not get as far as the socket pair. -/
def InitEnv.FailsEarly (env : InitEnv) : Prop := env.halInfo = false ∨ env.socketpair < 0

structure InitEnv.Succeeds (env : InitEnv) : Prop where
  halInfo : env.halInfo = true
  socketpair : 0 ≤ env.socketpair
  cmdSock : env.cmdSock.Opens
  eventSock : env.eventSock.Opens
  nlCb : env.nlCb = true
  eventCb : env.eventCb = true
  cmd : env.cmd = true
  nl80211FamilyId : 0 ≤ env.nl80211FamilyId
  interfaces : env.interfaces.found = true
  membership : membershipFails env = false

theorem wifiInitialize_of_failsEarly (early : env.FailsEarly) :
    (∃ error, (wifiInitialize env this).result = .failed error) ∧
      ((wifiInitialize env this).log = [] ∨
        (wifiInitialize env this).log =
          [.acquired ⟨this, .halInfo⟩, .released ⟨this, .halInfo⟩]) := by
  unfold wifiInitialize
  split
  · exact ⟨⟨_, rfl⟩, .inl rfl⟩
  · rename_i allocated
    have noSocks : env.socketpair < 0 := early.resolve_left (by simpa using allocated)
    simp [noSocks]

theorem wifiInitialize_of_not_failsEarly (late : ¬ env.FailsEarly) :
    wifiInitialize env this =
      .after [.acquired ⟨this, .halInfo⟩, .acquired ⟨this, .cleanupSock 0⟩,
          .acquired ⟨this, .cleanupSock 1⟩]
        (initializeSockets env this (⟨this, .cleanupSock 0⟩, ⟨this, .cleanupSock 1⟩)) := by
  have allocated : env.halInfo = true := by simpa using fun failed => late (.inl failed)
  have socks : ¬ env.socketpair < 0 := fun failed => late (.inr failed)
  simp [wifiInitialize, allocated, socks, Ended.after]

theorem wifiInitialize_concerns :
    (wifiInitialize env this).Records (Concerns this fun _ => True) := by
  by_cases early : env.FailsEarly
  · obtain ⟨-, log | log⟩ := wifiInitialize_of_failsEarly this env early <;>
      simp [Ended.Records, log]
  · rw [wifiInitialize_of_not_failsEarly this env early]
    refine .after (by simp) ?_
    exact fun event here => (initializeSockets_concerns this env _ event here).mono fun _ _ => trivial

/-- A failing call settles its handle exactly when it fails early. -/
theorem settled_wifiInitialize_iff :
    Ledger.Settled Resource.owner (wifiInitialize env this).log this ↔ env.FailsEarly := by
  constructor
  · intro settled
    by_contra late
    have acquired : .acquired ⟨this, .cleanupSock 0⟩ ∈ (wifiInitialize env this).log := by
      simp [wifiInitialize_of_not_failsEarly this env late]
    have kept : .released ⟨this, .cleanupSock 0⟩ ∉ (wifiInitialize env this).log := by
      intro released
      rw [wifiInitialize_of_not_failsEarly this env late] at released
      have later := (List.mem_append.mp released).resolve_left (by simp)
      obtain ⟨kind, isPrivate, same | same⟩ := initializeSockets_concerns this env _ _ later
      · cases same
      · cases same
        exact isPrivate
    exact Ledger.not_settled acquired kept settled
  · intro early
    obtain ⟨-, log | log⟩ := wifiInitialize_of_failsEarly this env early
    · rw [log]
      exact Ledger.settled_nil
    · rw [log]
      intro resource owned acquired
      simp at acquired
      simp [acquired]

/-! ## Handles that are initialised -/

theorem wifiInitInterfaces_of_not_found {env : InterfacesEnv} (missing : env.found = false) :
    ∃ error, (wifiInitInterfaces env this).result = some (.error error) := by
  unfold wifiInitInterfaces
  split
  · exact ⟨_, rfl⟩
  · rename_i names first
    dsimp only [Ended.after_result]
    split
    · exact ⟨_, rfl⟩
    · rename_i counted
      split
      · exact ⟨_, rfl⟩
      · rename_i second
        simp only [InterfacesEnv.found, first, second] at missing
        simp_all

theorem wifiInitInterfaces_of_found {env : InterfacesEnv} (found : env.found = true)
    (error : WifiError) : (wifiInitInterfaces env this).result ≠ some (.error error) := by
  simp only [InterfacesEnv.found, Bool.and_eq_true, Option.any_eq_true, bne_iff_ne,
    Option.isSome_iff_exists] at found
  obtain ⟨⟨⟨names, first, counted⟩, listing, second⟩, array⟩ := found
  simp only [wifiInitInterfaces, first, second, array, counted, Ended.after_result, if_false,
    Bool.not_true, Bool.false_eq_true]
  split <;> simp

structure Owns (this : Handle) (record : HalRecord) : Prop where
  info : record.info = ⟨this, .halInfo⟩
  cleanupSocks : record.cleanupSocks = (⟨this, .cleanupSock 0⟩, ⟨this, .cleanupSock 1⟩)
  cmdSock : record.cmdSock = some ⟨this, .cmdSock⟩
  eventSock : record.eventSock = some ⟨this, .eventSock⟩
  cbLock : record.cbLock = ⟨this, .cbLock⟩

theorem initializeTables_initialized {cleanupSocks : Resource × Resource}
    {cmdSock eventSock : Resource} {record : HalRecord}
    (initialized :
      (initializeTables env this cleanupSocks cmdSock eventSock).result = .initialized record) :
    (env.eventCb = true ∧ env.cmd = true ∧ 0 ≤ env.nl80211FamilyId ∧
      env.interfaces.found = true ∧ membershipFails env = false) ∧
      (record.info = ⟨this, .halInfo⟩ ∧ record.cleanupSocks = cleanupSocks ∧
        record.cmdSock = some cmdSock ∧ record.eventSock = some eventSock ∧
        record.cbLock = ⟨this, .cbLock⟩) ∧
      (initializeTables env this cleanupSocks cmdSock eventSock).log =
        [.acquired ⟨this, .eventCb⟩, .acquired ⟨this, .cmd⟩, .acquired ⟨this, .cbLock⟩] ++
          (wifiInitInterfaces env.interfaces this).log := by
  have found : env.interfaces.found = false →
      ∃ error, (wifiInitInterfaces env.interfaces this).result = some (.error error) :=
    wifiInitInterfaces_of_not_found this
  unfold initializeTables at initialized ⊢
  dsimp only at initialized ⊢
  split at initialized
  · cases initialized
  · rename_i eventCb
    rw [Ended.after_result] at initialized
    split at initialized
    · cases initialized
    · rename_i cmd
      rw [Ended.after_result] at initialized
      split at initialized
      · cases initialized
      · rename_i family
        rw [Ended.after_result, Ended.after_result] at initialized
        split at initialized
        · cases initialized
        · cases initialized
        · rename_i interfaces listed
          split at initialized
          · cases initialized
          · rename_i membership
            obtain rfl := InitResult.initialized.inj initialized
            have listedFound : env.interfaces.found = true := by
              by_contra missing
              obtain ⟨error, failed⟩ := found (by simpa using missing)
              rw [failed] at listed
              cases listed
            refine ⟨⟨by simpa using eventCb, by simpa using cmd, by omega, listedFound,
              by simpa using membership⟩, ⟨rfl, rfl, rfl, rfl, rfl⟩, ?_⟩
            simp [eventCb, cmd, if_neg family, membership]

theorem initializeSockets_initialized {cleanupSocks : Resource × Resource} {record : HalRecord}
    (initialized : (initializeSockets env this cleanupSocks).result = .initialized record) :
    env.cmdSock.Opens ∧ env.eventSock.Opens ∧ env.nlCb = true ∧
      (initializeTables env this cleanupSocks ⟨this, .cmdSock⟩ ⟨this, .eventSock⟩).result =
        .initialized record ∧
      (initializeSockets env this cleanupSocks).log =
        [.acquired ⟨this, .cmdSock⟩, .acquired ⟨this, .eventSock⟩] ++
          (initializeTables env this cleanupSocks ⟨this, .cmdSock⟩ ⟨this, .eventSock⟩).log := by
  unfold initializeSockets at initialized ⊢
  dsimp only [Ended.after_result] at initialized ⊢
  rcases wifiCreateNlSocket_cases env.cmdSock ⟨this, .cmdSock⟩ with
    ⟨cmdOpens, created⟩ | ⟨-, failed, -⟩
  · simp only [created] at initialized ⊢
    rcases wifiCreateNlSocket_cases env.eventSock ⟨this, .eventSock⟩ with
      ⟨eventOpens, created⟩ | ⟨-, failed, -⟩
    · simp only [created, Ended.after_result] at initialized ⊢
      split at initialized
      · cases initialized
      · rename_i cb
        exact ⟨cmdOpens, eventOpens, by simpa using cb, initialized, by simp [cb]⟩
    · simp only [failed, Ended.after_result] at initialized
      cases initialized
  · simp only [failed] at initialized
    cases initialized

theorem wifiInitialize_initialized {record : HalRecord}
    (initialized : (wifiInitialize env this).result = .initialized record) :
    env.Succeeds ∧ Owns this record ∧
      (wifiInitialize env this).log =
        [.acquired ⟨this, .halInfo⟩, .acquired ⟨this, .cleanupSock 0⟩,
            .acquired ⟨this, .cleanupSock 1⟩, .acquired ⟨this, .cmdSock⟩,
            .acquired ⟨this, .eventSock⟩, .acquired ⟨this, .eventCb⟩, .acquired ⟨this, .cmd⟩,
            .acquired ⟨this, .cbLock⟩] ++ (wifiInitInterfaces env.interfaces this).log := by
  have late : ¬ env.FailsEarly := by
    intro early
    obtain ⟨⟨error, failed⟩, -⟩ := wifiInitialize_of_failsEarly this env early
    rw [failed] at initialized
    cases initialized
  have halInfo : env.halInfo = true := by simpa using fun failed => late (.inl failed)
  have socketpair : 0 ≤ env.socketpair := by
    by_contra failed
    exact late (.inr (by omega))
  rw [wifiInitialize_of_not_failsEarly this env late] at initialized ⊢
  obtain ⟨cmdSock, eventSock, nlCb, initialized, socketsLog⟩ :=
    initializeSockets_initialized this env initialized
  obtain ⟨⟨eventCb, cmd, family, interfaces, membership⟩, ⟨info, socks, cmdPtr, eventPtr, lock⟩,
    tablesLog⟩ := initializeTables_initialized this env initialized
  refine ⟨?_, ⟨info, socks, cmdPtr, eventPtr, lock⟩, ?_⟩
  · exact ⟨halInfo, socketpair, cmdSock, eventSock, nlCb, eventCb, cmd, family, interfaces,
      membership⟩
  · rw [Ended.after_log, socketsLog, tablesLog]
    rfl

theorem not_succeeds_of_failed {error : WifiError}
    (failed : (wifiInitialize env this).result = .failed error) : ¬ env.Succeeds := by
  intro succeeds
  have found := wifiInitInterfaces_of_found this succeeds.interfaces
  have opened := fun sock => (wifiCreateNlSocket_cases env.cmdSock sock).resolve_right
    fun closed => closed.1 succeeds.cmdSock
  have opened' := fun sock => (wifiCreateNlSocket_cases env.eventSock sock).resolve_right
    fun closed => closed.1 succeeds.eventSock
  have socks : ¬ env.socketpair < 0 := by have := succeeds.socketpair; omega
  have family : ¬ env.nl80211FamilyId < 0 := by have := succeeds.nl80211FamilyId; omega
  simp only [wifiInitialize, initializeSockets, initializeTables, succeeds.halInfo, socks,
    opened, opened', succeeds.nlCb, succeeds.eventCb, succeeds.cmd, family,
    succeeds.membership, Ended.after_result, if_false, Bool.not_true,
    Bool.false_eq_true] at failed
  split at failed
  · cases failed
  · rename_i error listed
    exact found error listed
  · cases failed

theorem not_settled_of_initialized {record : HalRecord}
    (initialized : (wifiInitialize env this).result = .initialized record) :
    .acquired ⟨this, .eventCb⟩ ∈ (wifiInitialize env this).log ∧
      .released ⟨this, .eventCb⟩ ∉ (wifiInitialize env this).log := by
  obtain ⟨-, -, log⟩ := wifiInitialize_initialized this env initialized
  rw [log]
  refine ⟨by simp, fun released => ?_⟩
  have listed := (List.mem_append.mp released).resolve_left (by simp)
  obtain ⟨kind, listing, same | same⟩ := wifiInitInterfaces_concerns this env.interfaces _ listed
  · cases same
  · cases same
    exact listing

end Ledgers

theorem internalCleanedUpHandler_eq {this : Handle} {record : HalRecord}
    (owns : Owns this record) :
    internalCleanedUpHandler record =
      [.released ⟨this, .cleanupSock 0⟩, .released ⟨this, .cleanupSock 1⟩,
        .released ⟨this, .cmdSock⟩, .released ⟨this, .eventSock⟩, .released ⟨this, .cbLock⟩,
        .released ⟨this, .halInfo⟩] := by
  obtain ⟨info, socks, cmdSock, eventSock, cbLock⟩ := owns
  simp [internalCleanedUpHandler, info, socks, cmdSock, eventSock, cbLock]

/-! ## Runs -/

/-- The handles that are initialised and not yet cleaned up, and the ledger of all
calls.  An owner is closed when a failing `wifi_initialize` returns or its
`wifi_cleanup` finishes. -/
structure System where
  next : Handle
  live : List HalRecord
  log : List Event

def System.initial : System := ⟨0, [], []⟩

inductive Call where
  | wifiInitialize (env : InitEnv)
  | wifiCleanup (handle : Handle) (fuel : Nat) (driver : Env)

/-- A call that ends the process, or does not end, is no step; nor is the cleanup
of a handle that is not there. -/
def step (system : System) : Call → Option System
  | .wifiInitialize env =>
      let this := system.next
      let ended := wifiInitialize env this
      match ended.result with
      | .failed _ =>
          some ⟨this + 1, system.live, system.log ++ ended.log ++ [.closed this]⟩
      | .initialized record =>
          some ⟨this + 1, record :: system.live, system.log ++ ended.log⟩
      | .crashed => none
  | .wifiCleanup handle fuel driver =>
      match system.live.find? fun record => record.info.owner == handle with
      | none => none
      | some record =>
          (wifiCleanup fuel driver record).map fun log =>
            { system with
              live := system.live.eraseP fun record => record.info.owner == handle
              log := system.log ++ log ++ [.closed handle] }

/-- The calls that give everything back when they end a handle. -/
def Call.GivesBack : Call → Prop
  | .wifiInitialize env => env.FailsEarly ∨ env.Succeeds
  | .wifiCleanup _ _ _ => False

/-- The ledger has only numbered handles in it, and every live handle has its event
table. -/
structure Inv (system : System) : Prop where
  numbered : ∀ event ∈ system.log, event.owner Resource.owner < system.next
  owns : ∀ record ∈ system.live, Owns record.info.owner record
  held : ∀ record ∈ system.live,
    .acquired ⟨record.info.owner, .eventCb⟩ ∈ system.log ∧
      .released ⟨record.info.owner, .eventCb⟩ ∉ system.log

section Step
variable {system : System} {events : List Event}

theorem Inv.grow (inv : Inv system)
    (ofNext : ∀ event ∈ events, event.owner Resource.owner = system.next) :
    Inv ⟨system.next + 1, system.live, system.log ++ events⟩ where
  numbered := by
    intro event here
    rcases List.mem_append.mp here with old | new
    · exact Nat.lt_succ_of_lt (inv.numbered event old)
    · rw [ofNext event new]
      exact Nat.lt_succ_self _
  owns := inv.owns
  held := by
    intro record live
    obtain ⟨acquired, kept⟩ := inv.held record live
    have older : record.info.owner < system.next := inv.numbered _ acquired
    refine ⟨List.mem_append_left _ acquired, fun released => ?_⟩
    rcases List.mem_append.mp released with old | new
    · exact kept old
    · have same : record.info.owner = system.next := ofNext _ new
      exact absurd same (Nat.ne_of_lt older)

theorem Inv.addLive (inv : Inv system) {record : HalRecord}
    (owns : Owns record.info.owner record)
    (held : .acquired ⟨record.info.owner, .eventCb⟩ ∈ system.log ∧
      .released ⟨record.info.owner, .eventCb⟩ ∉ system.log) :
    Inv { system with live := record :: system.live } where
  numbered := inv.numbered
  owns := List.forall_mem_cons.mpr ⟨owns, inv.owns⟩
  held := List.forall_mem_cons.mpr ⟨held, inv.held⟩

theorem Inv.shrink (inv : Inv system) {live : List HalRecord} (sub : live ⊆ system.live)
    (known : ∀ event ∈ events, event.owner Resource.owner < system.next)
    (others : ∀ handle, .released ⟨handle, .eventCb⟩ ∉ events) :
    Inv ⟨system.next, live, system.log ++ events⟩ where
  numbered := by
    intro event here
    rcases List.mem_append.mp here with old | new
    · exact inv.numbered event old
    · exact known event new
  owns := fun record here => inv.owns record (sub here)
  held := by
    intro record here
    obtain ⟨acquired, kept⟩ := inv.held record (sub here)
    refine ⟨List.mem_append_left _ acquired, fun released => ?_⟩
    rcases List.mem_append.mp released with old | new
    · exact kept old
    · exact others _ new

theorem Inv.step_wifiInitialize {system' : System} {env : InitEnv} (inv : Inv system)
    (stepped : step system (.wifiInitialize env) = some system') :
    Inv system' ∧
      (Ledger.SettledAtClose Resource.owner system'.log ↔
        Ledger.SettledAtClose Resource.owner system.log ∧ (Call.wifiInitialize env).GivesBack) := by
  have concerns := wifiInitialize_concerns system.next env
  have fresh : ∀ event ∈ system.log, event.owner Resource.owner ≠ system.next :=
    fun event here => Nat.ne_of_lt (inv.numbered event here)
  have running : Ledger.SettledAtClose Resource.owner
      (system.log ++ (wifiInitialize env system.next).log) ↔
        Ledger.SettledAtClose Resource.owner system.log :=
    Ledger.settledAtClose_append_iff fun event here => (concerns event here).running
  simp only [step] at stepped
  split at stepped
  · rename_i error failed
    obtain rfl := Option.some.inj stepped
    constructor
    · rw [List.append_assoc]
      apply inv.grow
      intro event here
      rcases List.mem_append.mp here with inCall | atEnd
      · exact (concerns event inCall).owner
      · rw [List.mem_singleton.mp atEnd]
        rfl
    · rw [Ledger.settledAtClose_close_iff, running, Ledger.settled_append_iff fresh,
        settled_wifiInitialize_iff]
      have unsuccessful := not_succeeds_of_failed system.next env failed
      simp [Call.GivesBack, unsuccessful]
  · rename_i record initialized
    obtain rfl := Option.some.inj stepped
    obtain ⟨succeeds, owns, -⟩ := wifiInitialize_initialized system.next env initialized
    obtain ⟨acquired, kept⟩ := not_settled_of_initialized system.next env initialized
    have owner : record.info.owner = system.next := by rw [owns.info]
    constructor
    · apply Inv.addLive (inv.grow fun event here => (concerns event here).owner)
      · rw [owner]
        exact owns
      · rw [owner]
        refine ⟨List.mem_append_right _ acquired, fun released => ?_⟩
        exact (List.mem_append.mp released).elim (fun old => fresh _ old rfl) kept
    · rw [running]
      exact (and_iff_left (Or.inr succeeds)).symm
  · cases stepped

theorem Inv.step_wifiCleanup {system' : System} {handle : Handle} {fuel : Nat} {driver : Env}
    (inv : Inv system) (stepped : step system (.wifiCleanup handle fuel driver) = some system') :
    Inv system' ∧ ¬ Ledger.SettledAtClose Resource.owner system'.log := by
  simp only [step] at stepped
  split at stepped
  · cases stepped
  · rename_i record found
    have live : record ∈ system.live := List.mem_of_find?_eq_some found
    have named : record.info.owner = handle := by simpa using List.find?_some found
    obtain ⟨log, cleaned, rfl⟩ := Option.map_eq_some_iff.mp stepped
    have handlerLog := internalCleanedUpHandler_eq (inv.owns record live)
    obtain rfl : log = _ := by
      simp only [wifiCleanup] at cleaned
      split at cleaned
      · cases cleaned
      · exact (Option.some.inj cleaned).symm.trans handlerLog
    obtain ⟨acquired, kept⟩ := inv.held record live
    have older : record.info.owner < system.next := inv.numbered _ acquired
    rw [named] at acquired kept older ⊢
    constructor
    · rw [List.append_assoc]
      apply inv.shrink List.eraseP_subset
      · simpa [Ledger.Event.owner] using older
      · simp
    · intro settled
      have last := (Ledger.settledAtClose_close_iff.mp settled).2
      refine Ledger.not_settled (List.mem_append_left _ acquired) ?_ last
      simpa using kept

theorem Inv.step {system' : System} {call : Call} (inv : Inv system)
    (stepped : step system call = some system') :
    Inv system' ∧
      (Ledger.SettledAtClose Resource.owner system'.log ↔
        Ledger.SettledAtClose Resource.owner system.log ∧ call.GivesBack) := by
  cases call with
  | wifiInitialize env => exact inv.step_wifiInitialize stepped
  | wifiCleanup handle fuel driver =>
      obtain ⟨inv', unsettled⟩ := inv.step_wifiCleanup stepped
      exact ⟨inv', iff_of_false unsettled fun both => both.2⟩

theorem Inv.run {system' : System} {calls : List Call} (inv : Inv system)
    (ran : Machine.runWhen Initialize.step (fun _ _ => True) calls system = some system') :
    Ledger.SettledAtClose Resource.owner system'.log ↔
      Ledger.SettledAtClose Resource.owner system.log ∧ ∀ call ∈ calls, call.GivesBack := by
  induction calls generalizing system with
  | nil =>
      obtain rfl := Option.some.inj ran
      simp
  | cons call rest ih =>
      rw [Machine.runWhen, if_pos trivial] at ran
      obtain ⟨middle, stepped, ran⟩ := Option.bind_eq_some_iff.mp ran
      obtain ⟨inv', settled⟩ := inv.step stepped
      rw [ih inv' ran, settled, List.forall_mem_cons, and_assoc]

end Step

theorem Inv.initial : Inv .initial where
  numbered := fun _ here => absurd here List.not_mem_nil
  owns := fun _ here => absurd here List.not_mem_nil
  held := fun _ here => absurd here List.not_mem_nil

/-- In every run, each handle has everything released exactly once when it ends if
and only if no `wifi_cleanup` finishes and no failing `wifi_initialize` gets as far
as the socket pair. -/
theorem handles_settled_iff {calls : List Call} {system : System}
    (ran : Machine.runWhen step (fun _ _ => True) calls .initial = some system) :
    Ledger.SettledAtClose Resource.owner system.log ↔ ∀ call ∈ calls, call.GivesBack := by
  rw [Inv.initial.run ran]
  exact and_iff_right Ledger.settledAtClose_nil

def InitEnv.good : InitEnv where
  halInfo := true
  socketpair := 0
  cmdSock := ⟨true, 0⟩
  eventSock := ⟨true, 0⟩
  nlCb := true
  eventCb := true
  cmd := true
  nl80211FamilyId := 20
  interfaces :=
    { first := some [CString.ascii "lo", CString.ascii "wlan0"]
      second := some [CString.ascii "lo", CString.ascii "wlan0"]
      array := true
      entry := fun _ => true
      ifNametoindex := fun _ => 3 }
  multicastId := fun _ => 5
  addMembership := fun _ => 0
  eventFill := ⟨0, 0, 0, none, none⟩
  cmdFill := ⟨0, 0⟩

theorem InitEnv.good_succeeds : InitEnv.good.Succeeds where
  halInfo := rfl
  socketpair := by decide
  cmdSock := ⟨rfl, rfl⟩
  eventSock := ⟨rfl, rfl⟩
  nlCb := rfl
  eventCb := rfl
  cmd := rfl
  nl80211FamilyId := by decide
  interfaces := by decide
  membership := by decide

/-- Memory is short at first, then the handle is there. -/
theorem handles_settled_of_two_calls :
    ∃ system, system.live.length = 1 ∧ Ledger.SettledAtClose Resource.owner system.log ∧
      Machine.runWhen step (fun _ _ => True)
        [.wifiInitialize { InitEnv.good with halInfo := false }, .wifiInitialize .good] .initial =
          some system := by
  obtain ⟨system, ran, live⟩ := (Option.any_eq_true (fun system => system.live.length == 1)
    (Machine.runWhen step (fun _ _ => True)
      [.wifiInitialize { InitEnv.good with halInfo := false }, .wifiInitialize .good]
      .initial)).mp (by decide)
  refine ⟨system, by simpa using live, (handles_settled_iff ran).mpr ?_, ran⟩
  intro call here
  simp only [List.mem_cons, List.not_mem_nil, or_false] at here
  rcases here with rfl | rfl
  · exact .inl (.inl rfl)
  · exact .inr InitEnv.good_succeeds

/-- A handle is initialised and cleaned up again, and its event table is lost. -/
theorem event_table_leaked :
    ¬ ∀ (calls : List Call) (system : System),
      Machine.runWhen step (fun _ _ => True) calls .initial = some system →
        Ledger.SettledAtClose Resource.owner system.log := by
  intro all
  obtain ⟨system, ran, -⟩ := (Option.any_eq_true (fun system => system.live.isEmpty)
    (Machine.runWhen step (fun _ _ => True)
      [.wifiInitialize .good, .wifiCleanup 0 1 (.rejecting none)] .initial)).mp (by decide)
  have settled := (Inv.initial.run ran).mp (all _ system ran)
  exact settled.2 (.wifiCleanup 0 1 (.rejecting none)) (by simp)

end Mt6757.WifiHal.Initialize
