import Mt6757.WifiHal.System

/-!
# Calls that are not disturbed

What the calls of the API do to the two tables when no event is dispatched
meanwhile, as functions of the driver's answers: which events `start` tries to
register and which it rolls back, and which entries a stop call removes.
-/

set_option autoImplicit false

namespace Mt6757.WifiHal

open CommandTree KeyedList

/-! ## Runs of the building blocks -/

section Runs

variable (t : Thread) (env : Env) (world : World)

@[simp] theorem run_createRequest (this : Ptr) (request : Request) :
    (createRequest this request).run (exec t env) world = (env.create request, world) := rfl

@[simp] theorem run_requestResponse (this : Ptr) (request : Request) :
    (requestResponse this request).run (exec t env) world =
      (env.reply request,
        if env.reply request = 0 then world.note (.acknowledged this request) else world) := rfl

@[simp] theorem run_releaseRef (this : Ptr) :
    (releaseRef this).run (exec t env) world = ((), world.releaseRef t this) := rfl

@[simp] theorem run_unregisterAll (this : Ptr) (events : List VendorEvent) :
    (unregisterAll this events).run (exec t env) world =
      ((), events.foldl World.unregisterVendorHandler world) := by
  induction events generalizing world with
  | nil => rfl
  | cons event rest ih => exact ih (world.unregisterVendorHandler event)

end Runs

namespace World

theorem unregisterEach_events (events : List VendorEvent) (world : World) :
    (events.foldl unregisterVendorHandler world).info.events =
      eraseEach isEventEntry events world.info.events := by
  induction events generalizing world with
  | nil => rfl
  | cons event rest ih =>
      rw [List.foldl_cons, ih, unregisterVendorHandler_events, eraseEach_cons]

@[simp] theorem unregisterEach_cmd (events : List VendorEvent) (world : World) :
    (events.foldl unregisterVendorHandler world).info.cmd = world.info.cmd := by
  induction events generalizing world with
  | nil => rfl
  | cons event rest ih => rw [List.foldl_cons, ih, unregisterVendorHandler_cmd]

end World

/-! ## Start -/

/-- How a `start` ends when the driver answers as `env` says: its result, the
registrations it has tried, and the rollback of the check that stopped it. -/
structure Outcome where
  result : Int
  attempted : List VendorEvent
  rollback : Option (List VendorEvent)

def outcome (env : Env) : List Stmt → Int → Outcome
  | [], result => ⟨result, [], none⟩
  | .create request :: rest, _ => outcome env rest (env.create request)
  | .exchange request :: rest, _ => outcome env rest (env.reply request)
  | .register event :: rest, result =>
      { outcome env rest result with
        attempted := event :: (outcome env rest result).attempted }
  | .check test rollback :: rest, result =>
      if test.fails result then ⟨result, [], some rollback⟩ else outcome env rest result

/-- The event table after a start that ends as `ended` says. -/
def eventsAfter (ended : Outcome) (this : Ptr) (bound : Nat) (events : List CbInfo) :
    List CbInfo :=
  eraseEach isEventEntry (ended.rollback.getD [])
    (storeEach bound (ended.attempted.map fun event => vendorEntry event this) events)

theorem run_startFrom (t : Thread) (env : Env) (this : Ptr) (script : List Stmt) (result : Int)
    (world : World) :
    let done := (startFrom this script result).run (exec t env) world
    done.1 = (outcome env script result).result ∧ done.2.info.cmd = world.info.cmd ∧
      done.2.info.events =
        eventsAfter (outcome env script result) this world.info.eventCb.alloc
          world.info.events := by
  induction script generalizing result world with
  | nil => exact ⟨rfl, rfl, rfl⟩
  | cons stmt rest ih =>
      cases stmt with
      | create request => exact ih (env.create request) world
      | exchange request =>
          have later := ih (env.reply request)
            (if env.reply request = 0 then world.note (.acknowledged this request) else world)
          simp only [startFrom, Prog.run_bind, run_requestResponse, outcome]
          split at later <;> rename_i answered <;> simpa [answered] using later
      | register event =>
          have later := ih result (world.registerVendorHandler this event)
          rw [World.registerVendorHandler_events, World.registerVendorHandler_alloc,
            World.registerVendorHandler_cmd] at later
          exact later
      | check test rollback =>
          simp only [startFrom, outcome]
          split
          · simp [World.unregisterEach_events, eventsAfter]
          · exact ih result world

/-! ## Which outcomes are failures -/

/-- Every result of a request is checked before the next step uses it; `checked`
says so of the result at hand. -/
def everyResultChecked : (checked : Bool) → List Stmt → Bool
  | checked, [] => checked
  | _, .create _ :: rest => everyResultChecked false rest
  | _, .exchange _ :: rest => everyResultChecked false rest
  | checked, .register _ :: rest => everyResultChecked checked rest
  | _, .check _ _ :: rest => everyResultChecked true rest

/-- The rollback of every check that can fail covers what was registered before
it, and no event is named twice. -/
def rollbacksCover : (registered : List VendorEvent) → List Stmt → Bool
  | _, [] => true
  | registered, .create _ :: rest => rollbacksCover registered rest
  | registered, .exchange _ :: rest => rollbacksCover registered rest
  | registered, .register event :: rest =>
      decide (event ∉ registered) && rollbacksCover (registered ++ [event]) rest
  | registered, .check _ rollback :: rest =>
      decide (registered ⊆ rollback ∧ rollback.Nodup) && rollbacksCover registered rest

theorem everyResultChecked_start (type : CommandType) :
    everyResultChecked true type.startScript = true := by
  cases type <;> rfl

theorem rollbacksCover_start (type : CommandType) :
    rollbacksCover [] type.startScript = true := by
  cases type <;> rfl

/-- On the results a request can have, both checks test for success. -/
theorem Check.fails_iff (test : Check) {result : Int} (nonpos : result ≤ 0) :
    test.fails result = true ↔ result ≠ wifiSuccess := by
  cases test with
  | notSuccess => simp [Check.fails]
  | negative =>
      simp only [Check.fails, decide_eq_true_eq, wifiSuccess]
      omega

theorem outcome_success_iff (env : Env) (script : List Stmt) {result : Int} {checked : Bool}
    (everyChecked : everyResultChecked checked script = true) (nonpos : result ≤ 0)
    (atHand : checked = true → result = wifiSuccess) :
    (outcome env script result).result = wifiSuccess ↔
      (outcome env script result).rollback = none := by
  induction script generalizing result checked with
  | nil => simpa [outcome] using atHand everyChecked
  | cons stmt rest ih =>
      cases stmt with
      | create request => exact ih everyChecked (env.create_nonpos request) nofun
      | exchange request => exact ih everyChecked (env.reply_nonpos request) nofun
      | register event => exact ih everyChecked nonpos atHand
      | check test rollback =>
          have fails := test.fails_iff nonpos
          simp only [outcome]
          split
          · rename_i failed
            simpa using fails.mp failed
          · rename_i passed
            exact ih everyChecked nonpos fun _ => not_not.mp (mt fails.mpr passed)

theorem outcome_rollback_covers (env : Env) (script : List Stmt) (result : Int)
    {registered : List VendorEvent} (covers : rollbacksCover registered script = true)
    {rollback : List VendorEvent} (failed : (outcome env script result).rollback = some rollback) :
    registered ++ (outcome env script result).attempted ⊆ rollback ∧ rollback.Nodup := by
  induction script generalizing result registered with
  | nil => simp [outcome] at failed
  | cons stmt rest ih =>
      cases stmt with
      | create request => exact ih (env.create request) covers failed
      | exchange request => exact ih (env.reply request) covers failed
      | register event =>
          simp only [rollbacksCover, Bool.and_eq_true] at covers
          simpa [outcome] using ih result covers.2 failed
      | check test rollback =>
          simp only [rollbacksCover, Bool.and_eq_true, decide_eq_true_eq] at covers
          simp only [outcome] at failed ⊢
          split
          · rename_i stopped
            rw [if_pos stopped] at failed
            obtain rfl := Option.some.inj failed
            simpa using covers.1
          · rename_i passed
            rw [if_neg passed] at failed
            exact ih result covers.2 failed

theorem attempted_isPrefix (env : Env) (script : List Stmt) (result : Int) :
    (outcome env script result).attempted <+: registrations script := by
  induction script generalizing result with
  | nil => exact List.prefix_rfl
  | cons stmt rest ih =>
      cases stmt with
      | create request => exact ih (env.create request)
      | exchange request => exact ih (env.reply request)
      | register event => exact List.prefix_cons_inj event |>.mpr (ih result)
      | check test rollback =>
          simp only [outcome]
          split
          · exact List.nil_prefix
          · exact ih result

theorem outcome_attempted_of_success (env : Env) (script : List Stmt) (result : Int)
    (passed : (outcome env script result).rollback = none) :
    (outcome env script result).attempted = registrations script := by
  induction script generalizing result with
  | nil => rfl
  | cons stmt rest ih =>
      cases stmt with
      | create request => exact ih (env.create request) passed
      | exchange request => exact ih (env.reply request) passed
      | register event => exact congrArg (event :: ·) (ih result passed)
      | check test rollback =>
          simp only [outcome] at passed ⊢
          split at passed
          · contradiction
          · rename_i goesOn
            rw [if_neg goesOn]
            exact ih result passed

/-! ## Stop -/

/-- `cancel` removes the first entry of each of its events. -/
theorem run_cancel (t : Thread) (env : Env) (this : Ptr) (world : World) :
    ((cancel this).run (exec t env) world).2.info.events =
        eraseEach isEventEntry (world.heap this).mType.events world.info.events ∧
      ((cancel this).run (exec t env) world).2.info.cmd = world.info.cmd := by
  simp only [cancel, Prog.run_bind, Prog.run_perform, exec, CommandType.events]
  cases (world.heap this).mType.cancelScript with
  | teardownFirst request events =>
      simp only [cancelBody, Prog.run_bind, run_createRequest, CancelScript.events]
      by_cases created : env.create request = wifiSuccess
      · by_cases answered : env.reply request = 0 <;>
          simp [created, answered, World.unregisterEach_events]
      · simp [created, World.unregisterEach_events]
  | unregisterFirst events request =>
      simp only [cancelBody, Prog.run_bind, run_createRequest, run_unregisterAll,
        CancelScript.events]
      by_cases failed : env.create request < 0
      · simp [failed, World.unregisterEach_events]
      · by_cases answered : env.reply request = 0 <;>
          simp [failed, answered, World.unregisterEach_events]

/-- The events that a stop call unregisters: those of the command it finds under
the id, or of its temporary command. -/
def stoppedEvents (env : Env) (type : CommandType) (id : Int32) (world : World) :
    List VendorEvent :=
  if usesTemporary type id then
    if env.alloc then type.events else []
  else
    match world.info.cmds.find? (CmdInfo.id · == id) with
    | none => []
    | some entry => (world.heap entry.cmd).mType.events

theorem stoppedEvents_nodup (env : Env) (type : CommandType) (id : Int32) (world : World) :
    (stoppedEvents env type id world).Nodup := by
  have distinct : ∀ type : CommandType, type.events.Nodup := by
    intro type
    cases type <;> decide
  unfold stoppedEvents
  split
  · split
    · exact distinct type
    · exact List.nodup_nil
  · split
    · exact List.nodup_nil
    · exact distinct _

theorem run_stop (t : Thread) (env : Env) (type : CommandType) (id : Int32) (world : World) :
    let done := (ApiCall.stop type id).program.run (exec t env) world
    done.2.info.events =
        eraseEach isEventEntry (stoppedEvents env type id world) world.info.events ∧
      done.2.info.cmds =
        if usesTemporary type id then world.info.cmds
        else world.info.cmds.eraseP (CmdInfo.id · == id) := by
  rw [ApiCall.program_stop]
  simp only [ending, Prog.run_bind, Prog.run_perform, exec, World.withdraw_info, Prog.run_ret,
    stoppedEvents]
  cases temporary : usesTemporary type id with
  | true =>
      simp only [if_true, cancelTemporary, Prog.run_bind, Prog.run_perform, exec]
      cases alloc : env.alloc with
      | false => simp
      | true =>
          obtain ⟨events, cmd⟩ := run_cancel t env world.next
            (world.newCommand t type (temporaryId type id))
          have sameType : ((world.newCommand t type (temporaryId type id)).heap
              world.next).mType = type := by simp [World.newCommand]
          rw [sameType] at events
          simp only [if_true, Prog.run_bind, run_releaseRef, Prog.run_ret,
            World.releaseRef_info, events, HalInfo.cmds, cmd]
          exact ⟨rfl, rfl⟩
  | false =>
      simp only [Bool.false_eq_true, if_false, wifiCancelCmd, Prog.run_bind, Prog.run_perform,
        exec, wifiUnregisterCmd_found]
      cases found : world.info.cmds.find? (CmdInfo.id · == id) with
      | none =>
          refine ⟨by simp [HalInfo.events], ?_⟩
          simp
      | some entry =>
          obtain ⟨events, cmd⟩ := run_cancel t env entry.cmd (world.unregisterCmd t none id)
          rw [World.unregisterCmd_heap, World.unregisterCmd_info] at events
          have sameEvents : (wifiUnregisterCmd world.info id).2.events = world.info.events := rfl
          rw [sameEvents] at events
          rw [World.unregisterCmd_info] at cmd
          have cmds := wifiUnregisterCmd_cmds world.info id
          simp only [Option.map_some, Prog.run_bind, run_releaseRef, Prog.run_ret,
            World.releaseRef_info, events, true_and]
          unfold HalInfo.cmds at cmds ⊢
          rw [cmd, cmds]

end Mt6757.WifiHal
