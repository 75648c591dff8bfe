import Mt6757.WifiHal.Sequential

/-!
# A measurement over its events

Results pile up in a command from one event to the next, at an index that nothing
bounds.  The event whose last completion flag is set reports them all and removes
the command.
-/

set_option autoImplicit false

namespace Mt6757.WifiHal

open CommandTree

def maxResults : Nat := 1024

/-! ## What an event carries -/

def RttTargetAttr.payload : RttTargetAttr → Option Payload
  | .result payload _ => some payload
  | _ => none

def RttTargetAttr.isAllocated : RttTargetAttr → Bool
  | .result _ allocated => allocated
  | _ => true

def payloads : List RttAttr → List Payload
  | [] => []
  | .resultsPerTarget attrs :: rest => attrs.filterMap RttTargetAttr.payload ++ payloads rest
  | .resultsComplete _ :: rest => payloads rest
  | .other _ :: rest => payloads rest

def completeFlags : List RttAttr → List UInt32
  | [] => []
  | .resultsComplete value :: rest => value :: completeFlags rest
  | .resultsPerTarget _ :: rest => completeFlags rest
  | .other _ :: rest => completeFlags rest

def allAllocated : List RttAttr → Bool
  | [] => true
  | .resultsPerTarget attrs :: rest => attrs.all RttTargetAttr.isAllocated && allAllocated rest
  | .resultsComplete _ :: rest => allAllocated rest
  | .other _ :: rest => allAllocated rest

namespace RttState

/-- The indices that a container stores to. -/
def targetStores : List RttTargetAttr → RttState → List Nat
  | [], _ => []
  | .result payload true :: rest, state =>
      state.currentIdx :: targetStores rest (state.handleTarget [.result payload true])
  | .result _ false :: _, state => [state.currentIdx]
  | .targetMac _ :: rest, state => targetStores rest state
  | .resultCnt _ :: rest, state => targetStores rest state
  | .other _ :: rest, state => targetStores rest state

/-- The indices of `rttResults` that an event stores to. -/
def stores : List RttAttr → RttState → List Nat
  | [], _ => []
  | .resultsPerTarget attrs :: rest, state =>
      targetStores attrs state ++ stores rest (state.handleTarget attrs)
  | .resultsComplete value :: rest, state => stores rest { state with mCompleted := value.toInt32 }
  | .other _ :: rest, state => stores rest state

structure Holds (state : RttState) (results : List Payload) : Prop where
  currentIdx : state.currentIdx = results.length
  totalCnt : state.totalCnt = results.length
  rttResults : (List.range results.length).map state.rttResults = results.map some

variable {state : RttState} {results : List Payload}

theorem holds_fresh : Holds fresh [] := ⟨rfl, rfl, rfl⟩

theorem Holds.store (holds : Holds state results) (payload : Payload) :
    Holds (state.handleTarget [.result payload true]) (results ++ [payload]) := by
  obtain ⟨currentIdx, totalCnt, rttResults⟩ := holds
  refine ⟨by simp [handleTarget, currentIdx], by simp [handleTarget, totalCnt], ?_⟩
  have earlier : (List.range results.length).map
      (Function.update state.rttResults state.currentIdx (some payload)) = results.map some := by
    rw [← rttResults]
    apply List.map_congr_left
    intro i member
    apply Function.update_of_ne
    have small := List.mem_range.mp member
    omega
  simp only [handleTarget, List.length_append, List.length_singleton, List.range_succ,
    List.map_append, earlier, List.map_singleton]
  rw [currentIdx, Function.update_self]

theorem Holds.handleTarget {attrs : List RttTargetAttr} (holds : Holds state results)
    (allocated : attrs.all RttTargetAttr.isAllocated = true) :
    Holds (state.handleTarget attrs) (results ++ attrs.filterMap RttTargetAttr.payload) ∧
      (state.handleTarget attrs).mCompleted = state.mCompleted ∧
      targetStores attrs state =
        List.range' results.length (attrs.filterMap RttTargetAttr.payload).length := by
  induction attrs generalizing state results with
  | nil =>
      refine ⟨?_, rfl, rfl⟩
      simpa [RttState.handleTarget] using holds
  | cons attr rest ih =>
      rw [List.all_cons, Bool.and_eq_true] at allocated
      obtain ⟨here, others⟩ := allocated
      cases attr with
      | result payload isAllocated =>
          obtain rfl : isAllocated = true := here
          obtain ⟨stored, flag, indices⟩ := ih (holds.store payload) others
          refine ⟨?_, flag, ?_⟩
          · rw [List.append_assoc] at stored
            exact stored
          · rw [targetStores, indices, holds.currentIdx]
            simp [RttTargetAttr.payload, List.range'_succ]
      | targetMac addr => exact ih holds others
      | resultCnt value => exact ih holds others
      | other type => exact ih holds others

theorem Holds.handleAttrs {attrs : List RttAttr} (holds : Holds state results)
    (allocated : allAllocated attrs = true) :
    Holds (state.handleAttrs attrs) (results ++ payloads attrs) ∧
      (state.handleAttrs attrs).mCompleted =
        (completeFlags attrs).getLast?.elim state.mCompleted UInt32.toInt32 ∧
      stores attrs state = List.range' results.length (payloads attrs).length := by
  induction attrs generalizing state results with
  | nil =>
      refine ⟨?_, rfl, rfl⟩
      simpa [RttState.handleAttrs, payloads] using holds
  | cons attr rest ih =>
      cases attr with
      | resultsComplete value =>
          have flagged : Holds { state with mCompleted := value.toInt32 } results :=
            ⟨holds.currentIdx, holds.totalCnt, holds.rttResults⟩
          obtain ⟨stored, flag, indices⟩ := ih flagged allocated
          refine ⟨stored, ?_, indices⟩
          rw [RttState.handleAttrs, flag]
          cases isLast : (completeFlags rest).getLast? with
          | none => simp [completeFlags, List.getLast?_cons, isLast]
          | some last => simp [completeFlags, List.getLast?_cons, isLast]
      | resultsPerTarget targets =>
          rw [allAllocated, Bool.and_eq_true] at allocated
          obtain ⟨here, others⟩ := allocated
          obtain ⟨stored, flag, indices⟩ := holds.handleTarget here
          obtain ⟨stored', flag', indices'⟩ := ih stored others
          refine ⟨?_, ?_, ?_⟩
          · rw [List.append_assoc] at stored'
            exact stored'
          · rw [RttState.handleAttrs, flag', flag]
            rfl
          · rw [stores, indices, indices', payloads, List.length_append, List.length_append,
              ← List.range'_append_1]
      | other type => exact ih holds allocated

end RttState

/-! ## Deliveries -/

/-- What `on_rtt_results` is called with. -/
structure RttReport where
  id : Int32
  numResults : Nat
  results : List (Option Payload)
  deriving DecidableEq, Repr

/-- The call of `on_rtt_results` in an event, after `handleAttrs` and before the results
are freed. -/
def onRttResults (command : WifiCommand) (attrs : List RttAttr) : Option RttReport :=
  let rtt := command.rtt.handleAttrs attrs
  if rtt.mCompleted = 0 then none
  else some ⟨command.mId, rtt.totalCnt, (List.range rtt.totalCnt).map rtt.rttResults⟩

/-- The event thread handles a message while the API is idle. -/
def deliver (env : Env) (world : World) (msg : NlMsg) : World :=
  ((internalValidMessageHandler msg).run (exec .event env) world).2

/-- An RTT command that is in both tables and gets the RTT events. -/
structure RttLive (this : Ptr) (id : Int32) (world : World) : Prop where
  type : (world.heap this).mType = .rtt
  mId : (world.heap this).mId = id
  handler : world.info.events.find? (isEventEntry .rttEventComplete) =
    some (vendorEntry .rttEventComplete this)
  onlyHandler : ∀ entry ∈ world.info.events.eraseP (isEventEntry .rttEventComplete),
    entry.cbArg ≠ some this
  onlySlot : (world.info.cmds.filter fun entry => entry.cmd = this) = [⟨id, this⟩]

def NlMsg.isRttEvent (msg : NlMsg) : Prop :=
  0 ≤ msg.parsed ∧ msg.getCmd = nl80211CmdVendor ∧ msg.dispatchVendorId = googleOui ∧
    msg.dispatchSubcmd = VendorEvent.rttEventComplete.subcmd

theorem NlMsg.isFor_of_isRttEvent {msg : NlMsg} (isEvent : msg.isRttEvent) :
    msg.isFor = isEventEntry .rttEventComplete := by
  obtain ⟨-, cmd, vendorId, subcmd⟩ := isEvent
  funext entry
  rw [Bool.eq_iff_iff]
  simp only [NlMsg.isFor, isEventEntry, isVendorEntry, cmd, vendorId, subcmd, Bool.and_eq_true,
    beq_iff_eq, beq_self_eq_true, Bool.true_and, Bool.not_eq_true', Bool.or_eq_false_iff,
    bne_eq_false_iff_eq, and_assoc]
  constructor
  · intro matched
    exact ⟨matched.1.symm, matched.2.1.symm, matched.2.2.symm⟩
  · intro matched
    exact ⟨matched.1.symm, matched.2.1.symm, matched.2.2.symm⟩

section Delivery

variable {env : Env} {world : World} {this : Ptr} {id : Int32} {msg : NlMsg}

theorem releaseRef_heap_rtt (world : World) (t : Thread) (cmd other : Ptr) :
    ((world.releaseRef t cmd).heap other).rtt = (world.heap other).rtt ∧
      ((world.releaseRef t cmd).heap other).mType = (world.heap other).mType ∧
      ((world.releaseRef t cmd).heap other).mId = (world.heap other).mId := by
  rw [World.releaseRef_heap]
  by_cases same : other = cmd
  · subst same
    simp
  · simp [same]

theorem addRef_heap_rtt (world : World) (t : Thread) (cmd other : Ptr) :
    ((world.addRef t cmd).heap other).rtt = (world.heap other).rtt ∧
      ((world.addRef t cmd).heap other).mType = (world.heap other).mType ∧
      ((world.addRef t cmd).heap other).mId = (world.heap other).mId := by
  rw [World.addRef_heap]
  by_cases same : other = cmd
  · subst same
    simp
  · simp [same]

theorem RttLive.deliver_eq (live : RttLive this id world) (isEvent : msg.isRttEvent) :
    deliver env world msg =
      (((RttCommand.handleEvent this msg.vendorData).run (exec .event env)
        ((world.addRef .event this).touch this)).2).releaseRef .event this := by
  have found : world.info.events.find? msg.isFor =
      some (vendorEntry .rttEventComplete this) := by
    rw [NlMsg.isFor_of_isRttEvent isEvent, live.handler]
  have isRtt : ((world.addRef .event this).heap this).mType = .rtt := by
    rw [(addRef_heap_rtt _ _ _ _).2.1, live.type]
  rw [deliver, internalValidMessageHandler, if_neg (Int.not_lt.mpr isEvent.1)]
  simp [exec, World.findAndAddRef, found, callback, vendorEntry, handleEvent, isRtt, releaseRef]

def World.afterAttrs (world : World) (this : Ptr) (attrs : List RttAttr) : RttState :=
  (world.heap this).rtt.handleAttrs attrs

theorem run_rttHandleEvent_incomplete (attrs : List RttAttr)
    (incomplete : (world.afterAttrs this attrs).mCompleted = 0) :
    (RttCommand.handleEvent this attrs).run (exec .event env) world =
      (nlSkip, world.setCommand this
        { world.heap this with rtt := world.afterAttrs this attrs }) := by
  rw [World.afterAttrs] at incomplete
  simp [RttCommand.handleEvent, perform, exec, World.handleAttrs, incomplete, World.afterAttrs]

/-- The end of a complete event: the command gives up its request id. -/
def giveUpId (this : Ptr) : Hal Int := do
  let id ← perform (.id this)
  match ← perform (.wifiUnregisterCmd (some this) id) with
  | none => .ret nlSkip
  | some cmd => do
      releaseRef cmd
      .ret nlSkip

theorem run_giveUpId_info (this : Ptr) (world : World) :
    ((giveUpId this).run (exec .event env) world).2.info =
      (wifiUnregisterCmd world.info (world.heap this).mId).2 := by
  simp only [giveUpId, perform, Prog.perform_bind, Prog.run_call, exec, World.touch_info]
  cases (wifiUnregisterCmd world.info (world.heap this).mId).1 <;> simp [releaseRef, exec]

variable (env) in
theorem run_rttHandleEvent_complete (attrs : List RttAttr)
    (complete : (world.afterAttrs this attrs).mCompleted ≠ 0) :
    ((RttCommand.handleEvent this attrs).run (exec .event env) world).2.info.events =
        world.info.events.eraseP (isEventEntry .rttEventComplete) ∧
      ((RttCommand.handleEvent this attrs).run (exec .event env) world).2.info.cmds =
        world.info.cmds.eraseP fun entry => entry.id == (world.heap this).mId := by
  let cleared := ((world.handleAttrs this attrs).2.unregisterVendorHandler
    .rttEventComplete).clearResults this
  have reached : (RttCommand.handleEvent this attrs).run (exec .event env) world =
      (giveUpId this).run (exec .event env) cleared := by
    have flag : (world.handleAttrs this attrs).1 = true := by
      simp only [World.afterAttrs] at complete
      simp [World.handleAttrs, complete]
    simp only [RttCommand.handleEvent, perform, Prog.perform_bind, Prog.run_call, exec, flag,
      if_true]
    rfl
  have mId : (cleared.heap this).mId = (world.heap this).mId := by
    simp only [World.afterAttrs] at complete
    simp [cleared, World.clearResults, World.unregisterVendorHandler, World.setInfo,
      World.handleAttrs, complete]
  have events : cleared.info.events =
      world.info.events.eraseP (isEventEntry .rttEventComplete) := by
    simp [cleared, World.clearResults]
  have cmds : cleared.info.cmds = world.info.cmds := by
    simp [cleared, World.clearResults]
  rw [reached, run_giveUpId_info, mId]
  refine ⟨?_, ?_⟩
  · rw [HalInfo.events, wifiUnregisterCmd_eventCb]
    exact events
  · rw [wifiUnregisterCmd_cmds, cmds]

theorem RttLive.deliver_incomplete (live : RttLive this id world) (isEvent : msg.isRttEvent)
    (incomplete : (world.afterAttrs this msg.vendorData).mCompleted = 0) :
    RttLive this id (deliver env world msg) ∧ (deliver env world msg).info = world.info ∧
      ((deliver env world msg).heap this).rtt = world.afterAttrs this msg.vendorData := by
  obtain ⟨rtt, type, mId⟩ := addRef_heap_rtt world .event this this
  have same : ((world.addRef .event this).touch this).afterAttrs this msg.vendorData =
      world.afterAttrs this msg.vendorData := by
    rw [World.afterAttrs, World.touch_heap, rtt, World.afterAttrs]
  rw [live.deliver_eq isEvent, run_rttHandleEvent_incomplete _ (same ▸ incomplete), same]
  obtain ⟨rtt', type', mId'⟩ := releaseRef_heap_rtt
    (((world.addRef .event this).touch this).setCommand this
      { ((world.addRef .event this).touch this).heap this with
        rtt := world.afterAttrs this msg.vendorData }) .event this this
  refine ⟨⟨?_, ?_, ?_, ?_, ?_⟩, by simp, ?_⟩
  · rw [type']
    simpa [type] using live.type
  · rw [mId']
    simpa [mId] using live.mId
  · simpa using live.handler
  · simpa using live.onlyHandler
  · simpa using live.onlySlot
  · rw [rtt']
    simp

variable (env) in
theorem RttLive.deliver_complete (live : RttLive this id world) (isEvent : msg.isRttEvent)
    (complete : (world.afterAttrs this msg.vendorData).mCompleted ≠ 0) :
    (deliver env world msg).info.events =
        world.info.events.eraseP (isEventEntry .rttEventComplete) ∧
      (deliver env world msg).info.cmds =
        world.info.cmds.eraseP fun entry => entry.id == id := by
  obtain ⟨rtt, -, mId⟩ := addRef_heap_rtt world .event this this
  have same : ((world.addRef .event this).touch this).afterAttrs this msg.vendorData =
      world.afterAttrs this msg.vendorData := by
    rw [World.afterAttrs, World.touch_heap, rtt, World.afterAttrs]
  have complete' : (((world.addRef .event this).touch this).afterAttrs this
      msg.vendorData).mCompleted ≠ 0 := same ▸ complete
  obtain ⟨events, cmds⟩ := run_rttHandleEvent_complete env msg.vendorData complete'
  rw [live.deliver_eq isEvent, World.releaseRef_info]
  refine ⟨events.trans (by simp), cmds.trans ?_⟩
  simp [mId, live.mId]

end Delivery

/-! ## A measurement -/

section Measurement

variable {world : World} {this : Ptr} {id : Int32}

def Unlisted (this : Ptr) (world : World) : Prop :=
  (∀ entry ∈ world.info.events, entry.cbArg ≠ some this) ∧
    ∀ entry ∈ world.info.cmds, entry.cmd ≠ this

/-- No command has the id in an earlier slot. -/
def FirstSlot (this : Ptr) (id : Int32) (world : World) : Prop :=
  (world.info.cmds.find? fun entry => entry.id == id) = some ⟨id, this⟩

instance : Decidable (FirstSlot this id world) := inferInstanceAs (Decidable (_ = _))

def allPayloads (msgs : List NlMsg) : List Payload :=
  msgs.flatMap fun msg => payloads msg.vendorData

def allStores (env : Env) (this : Ptr) : List NlMsg → World → List Nat
  | [], _ => []
  | msg :: rest, world =>
      RttState.stores msg.vendorData (world.heap this).rtt ++
        allStores env this rest (deliver env world msg)

def reports (env : Env) (this : Ptr) : List NlMsg → World → List RttReport
  | [], _ => []
  | msg :: rest, world =>
      (onRttResults (world.heap this) msg.vendorData).toList ++
        reports env this rest (deliver env world msg)

/-- Every result is stored in the array, and they are reported once, in the last event,
after which the command is gone. -/
structure ReportedOnce (env : Env) (this : Ptr) (id : Int32) (world : World)
    (msgs : List NlMsg) (last : NlMsg) : Prop where
  stored : ∀ i ∈ allStores env this (msgs ++ [last]) world, i < maxResults
  silent : reports env this msgs world = []
  reported : reports env this (msgs ++ [last]) world =
    [⟨id, (allPayloads (msgs ++ [last])).length, (allPayloads (msgs ++ [last])).map some⟩]
  gone : Unlisted this ((msgs ++ [last]).foldl (deliver env) world)

/-- The command has these results and is not complete; the tables are as at the start. -/
structure Measuring (this : Ptr) (id : Int32) (info : HalInfo) (results : List Payload)
    (world : World) : Prop where
  live : RttLive this id world
  info : world.info = info
  holds : (world.heap this).rtt.Holds results
  incomplete : (world.heap this).rtt.mCompleted = 0

structure GoodEvent (msg : NlMsg) : Prop where
  isEvent : msg.isRttEvent
  allocated : allAllocated msg.vendorData = true

variable {env : Env} {info : HalInfo} {results : List Payload} {msg last : NlMsg}
  {msgs : List NlMsg}

theorem toInt32_eq_zero_iff (value : UInt32) : value.toInt32 = 0 ↔ value = 0 := by
  constructor
  · intro zero
    have unsigned : value = (0 : Int32).toUInt32 := congrArg Int32.toUInt32 zero
    rw [unsigned]
    rfl
  · intro zero
    rw [zero]
    rfl

variable (env) in
theorem Measuring.deliver (measuring : Measuring this id info results world)
    (good : GoodEvent msg) (zero : ∀ flag ∈ completeFlags msg.vendorData, flag = 0) :
    Measuring this id info (results ++ payloads msg.vendorData) (deliver env world msg) ∧
      RttState.stores msg.vendorData (world.heap this).rtt =
        List.range' results.length (payloads msg.vendorData).length ∧
      onRttResults (world.heap this) msg.vendorData = none := by
  obtain ⟨live, sameInfo, holds, incomplete⟩ := measuring
  obtain ⟨stored, flag, indices⟩ := holds.handleAttrs good.allocated
  have stays : (world.afterAttrs this msg.vendorData).mCompleted = 0 := by
    rw [World.afterAttrs, flag]
    cases isLast : (completeFlags msg.vendorData).getLast? with
    | none => exact incomplete
    | some last =>
        have isZero := zero last (List.mem_of_getLast? isLast)
        exact (toInt32_eq_zero_iff last).mpr isZero
  obtain ⟨live', info', rtt'⟩ := live.deliver_incomplete good.isEvent stays
  refine ⟨⟨live', info'.trans sameInfo, ?_, ?_⟩, indices, ?_⟩
  · rw [rtt']
    exact stored
  · rw [rtt']
    exact stays
  · rw [onRttResults]
    exact if_pos stays

variable (env) in
theorem Measuring.run (measuring : Measuring this id info results world)
    (good : ∀ msg ∈ msgs, GoodEvent msg)
    (zero : ∀ msg ∈ msgs, ∀ flag ∈ completeFlags msg.vendorData, flag = 0) :
    Measuring this id info (results ++ allPayloads msgs) (msgs.foldl (WifiHal.deliver env) world) ∧
      (∀ rest, allStores env this (msgs ++ rest) world =
        List.range' results.length (allPayloads msgs).length ++
          allStores env this rest (msgs.foldl (WifiHal.deliver env) world)) ∧
      ∀ rest, reports env this (msgs ++ rest) world =
        reports env this rest (msgs.foldl (WifiHal.deliver env) world) := by
  induction msgs generalizing results world with
  | nil => simpa [allPayloads] using measuring
  | cons msg msgs ih =>
      obtain ⟨next, indices, silent⟩ := measuring.deliver env (good msg List.mem_cons_self)
        (zero msg List.mem_cons_self)
      obtain ⟨after, stores, reported⟩ := ih next
        (fun other member => good other (List.mem_cons_of_mem _ member))
        (fun other member => zero other (List.mem_cons_of_mem _ member))
      refine ⟨?_, ?_, ?_⟩
      · rw [List.append_assoc] at after
        exact after
      · intro rest
        rw [List.cons_append, allStores, indices, stores, ← List.append_assoc, List.length_append,
          List.range'_append_1]
        simp [allPayloads]
      · intro rest
        rw [List.cons_append, reports, silent, reported]
        rfl

/-- The first slot with the id goes; it was the command's own if and only if none of
the slots that stay is. -/
theorem slots_gone_iff {cmds : List CmdInfo}
    (onlySlot : (cmds.filter fun entry => entry.cmd = this) = [⟨id, this⟩]) :
    (∀ entry ∈ cmds.eraseP fun entry => entry.id == id, entry.cmd ≠ this) ↔
      (cmds.find? fun entry => entry.id == id) = some ⟨id, this⟩ := by
  have own : (⟨id, this⟩ : CmdInfo) ∈ cmds := by
    have member : (⟨id, this⟩ : CmdInfo) ∈ cmds.filter fun entry => entry.cmd = this := by
      rw [onlySlot]
      exact List.mem_singleton_self _
    exact List.mem_of_mem_filter member
  have hasId : ((⟨id, this⟩ : CmdInfo).id == id) = true := beq_self_eq_true id
  obtain ⟨found, earlier, later, none, hit, split, erased⟩ :
      ∃ found earlier later, (∀ entry ∈ earlier, ¬ (entry.id == id) = true) ∧
        (found.id == id) = true ∧ cmds = earlier ++ found :: later ∧
        (cmds.eraseP fun entry => entry.id == id) = earlier ++ later :=
    List.exists_of_eraseP own hasId
  have first : (cmds.find? fun entry => entry.id == id) = some found := by
    rw [split, List.find?_eq_some_iff_append]
    exact ⟨hit, earlier, later, rfl, fun entry member => by simpa using none entry member⟩
  rw [erased, first, Option.some.injEq]
  constructor
  · intro gone
    by_contra other
    have stays : (⟨id, this⟩ : CmdInfo) ∈ earlier ++ later := by
      rw [split, List.mem_append, List.mem_cons] at own
      rw [List.mem_append]
      obtain before | same | after := own
      · exact .inl before
      · exact absurd same.symm other
      · exact .inr after
    exact gone _ stays rfl
  · intro same entry member isThis
    rw [split, List.filter_append, List.filter_cons_of_pos (by simp [same]), same] at onlySlot
    have counted := congrArg List.length onlySlot
    have held : entry ∈ (earlier ++ later).filter fun entry => entry.cmd = this :=
      List.mem_filter.mpr ⟨member, by simpa using isThis⟩
    have some := List.length_pos_of_mem held
    simp only [List.filter_append, List.length_append, List.length_cons,
      List.length_nil] at counted some
    omega

theorem forall_mem_range'_lt_iff {count bound : Nat} :
    (∀ i ∈ List.range' 0 count, i < bound) ↔ count ≤ bound := by
  constructor
  · intro small
    by_contra large
    have inside : bound ∈ List.range' 0 count := by
      rw [List.mem_range'_1]
      omega
    exact Nat.lt_irrefl _ (small bound inside)
  · intro fits i member
    rw [List.mem_range'_1] at member
    omega

/-- The results of a measurement are stored in the array and reported once, and the
command removed, if and only if there is room for them, the last flag of the
completing event is set and no other command has its id first. -/
theorem rtt_reported_iff (live : RttLive this id world) (fresh : (world.heap this).rtt = .fresh)
    (good : ∀ msg ∈ msgs ++ [last], GoodEvent msg)
    (zero : ∀ msg ∈ msgs, ∀ flag ∈ completeFlags msg.vendorData, flag = 0)
    (completing : ∃ flag ∈ completeFlags last.vendorData, flag ≠ 0) :
    ReportedOnce env this id world msgs last ↔
      (allPayloads (msgs ++ [last])).length ≤ maxResults ∧
        (completeFlags last.vendorData).getLast? ≠ some 0 ∧ FirstSlot this id world := by
  have start : Measuring this id world.info [] world :=
    ⟨live, rfl, fresh ▸ RttState.holds_fresh, by rw [fresh]; rfl⟩
  have goodLast : GoodEvent last := good last (by simp)
  obtain ⟨measuring, stores, reported⟩ := start.run env
    (fun msg member => good msg (List.mem_append_left _ member)) zero
  rw [List.nil_append] at measuring
  obtain ⟨live', info', holds, -⟩ := measuring
  obtain ⟨stored, flag, indices⟩ := holds.handleAttrs goodLast.allocated
  have total : allPayloads (msgs ++ [last]) = allPayloads msgs ++ payloads last.vendorData := by
    simp [allPayloads]
  obtain ⟨lastFlag, isLast⟩ : ∃ lastFlag,
      (completeFlags last.vendorData).getLast? = some lastFlag := by
    obtain ⟨flag, member, -⟩ := completing
    exact ⟨_, List.getLast?_eq_some_getLast (List.ne_nil_of_mem member)⟩
  have allIndices : allStores env this (msgs ++ [last]) world =
      List.range' 0 (allPayloads (msgs ++ [last])).length := by
    rw [stores, total, List.length_append, ← List.range'_append_1]
    simp [allStores, indices]
  have room : (∀ i ∈ allStores env this (msgs ++ [last]) world, i < maxResults) ↔
      (allPayloads (msgs ++ [last])).length ≤ maxResults := by
    rw [allIndices]
    exact forall_mem_range'_lt_iff
  have silent : reports env this msgs world = [] := by
    simpa [reports] using reported []
  rw [isLast, Option.elim_some] at flag
  by_cases isZero : lastFlag = 0
  · -- the flag was cleared again: no report
    have incomplete : ((((msgs.foldl (WifiHal.deliver env) world).heap this).rtt.handleAttrs
        last.vendorData).mCompleted = 0) := by
      rw [flag, isZero]
      rfl
    refine iff_of_false ?_ fun conditions => conditions.2.1 (isLast.trans (congrArg some isZero))
    intro once
    have nothing : reports env this (msgs ++ [last]) world = [] := by
      simp [reported, reports, onRttResults, incomplete]
    have absent := nothing.symm.trans once.reported
    contradiction
  · have complete : ((((msgs.foldl (WifiHal.deliver env) world).heap this).rtt.handleAttrs
        last.vendorData).mCompleted ≠ 0) := by
      rw [flag]
      exact fun none => isZero ((toInt32_eq_zero_iff lastFlag).mp none)
    have report : reports env this (msgs ++ [last]) world =
        [⟨id, (allPayloads (msgs ++ [last])).length,
          (allPayloads (msgs ++ [last])).map some⟩] := by
      rw [reported, reports, onRttResults, if_neg complete, stored.totalCnt, stored.rttResults,
        live'.mId, total]
      rfl
    obtain ⟨events, cmds⟩ := live'.deliver_complete env goodLast.isEvent complete
    rw [info'] at events cmds
    have gone : Unlisted this ((msgs ++ [last]).foldl (WifiHal.deliver env) world) ↔
        FirstSlot this id world := by
      rw [Unlisted, List.foldl_append, List.foldl_cons, List.foldl_nil, events, cmds, FirstSlot,
        slots_gone_iff live.onlySlot]
      exact and_iff_right live.onlyHandler
    constructor
    · intro once
      refine ⟨room.mp once.stored, ?_, gone.mp once.gone⟩
      rw [isLast]
      exact fun zero => isZero (Option.some.inj zero)
    · intro conditions
      obtain ⟨fits, -, firstSlot⟩ := conditions
      exact ⟨room.mpr fits, silent, report, gone.mpr firstSlot⟩

end Measurement

/-! ## One result too many -/

def measuringWorld : World :=
  ((wifiRttRangeRequest 7).run (exec .api (.rejecting none))
    (.initial ⟨0, 0, 0, none, none⟩ ⟨0, 0⟩)).2

def rttEvent (attrs : List RttAttr) : NlMsg := ⟨0, 103, some googleOui, some 4, attrs⟩

theorem measuringWorld_live : RttLive 0 7 measuringWorld := by
  refine ⟨by decide, by decide, by decide, by decide, by decide⟩

theorem rttEvent_isRttEvent (attrs : List RttAttr) : (rttEvent attrs).isRttEvent :=
  ⟨Int.le_refl 0, rfl, rfl, rfl⟩

theorem rtt_reported_of_two_events :
    ReportedOnce (.rejecting none) 0 7 measuringWorld
      [rttEvent [.resultsPerTarget [.resultCnt 1, .result [1, 2] true]]]
      (rttEvent [.resultsComplete 1, .resultsPerTarget [.result [3] true, .result [] true]]) := by
  have good : ∀ msg ∈ [rttEvent [.resultsPerTarget [.resultCnt 1, .result [1, 2] true]]] ++
      [rttEvent [.resultsComplete 1, .resultsPerTarget [.result [3] true, .result [] true]]],
      GoodEvent msg := by
    intro msg member
    simp only [List.cons_append, List.nil_append, List.mem_cons, List.not_mem_nil, or_false]
      at member
    obtain rfl | rfl := member
    · exact ⟨rttEvent_isRttEvent _, rfl⟩
    · exact ⟨rttEvent_isRttEvent _, rfl⟩
  exact (rtt_reported_iff measuringWorld_live rfl good (by simp [rttEvent, completeFlags])
    ⟨1, List.mem_singleton_self 1, by decide⟩).mpr ⟨by decide, by decide, by decide⟩

/-- An event of so many results, all of them complete. -/
def resultsEvent (count : Nat) : NlMsg :=
  rttEvent [.resultsPerTarget (List.replicate count (.result [] true)), .resultsComplete 1]

theorem resultsEvent_allAllocated (count : Nat) :
    allAllocated (resultsEvent count).vendorData = true := by
  simp [resultsEvent, rttEvent, allAllocated, RttTargetAttr.isAllocated]

theorem resultsEvent_length (count : Nat) :
    (payloads (resultsEvent count).vendorData).length = count := by
  simp only [resultsEvent, rttEvent, payloads, List.append_nil]
  have carried : RttTargetAttr.payload (.result [] true) = some [] := rfl
  rw [List.filterMap_replicate_of_some carried, List.length_replicate]

/-- The last of 1025 results is stored behind the array. -/
theorem result_stored_behind : GoodEvent (resultsEvent 1025) ∧ RttLive 0 7 measuringWorld ∧
    ¬ ReportedOnce (.rejecting none) 0 7 measuringWorld [] (resultsEvent 1025) := by
  have allocated := resultsEvent_allAllocated 1025
  refine ⟨⟨rttEvent_isRttEvent _, allocated⟩, measuringWorld_live, ?_⟩
  intro once
  have indices := (RttState.holds_fresh.handleAttrs allocated).2.2
  have stored : 1024 ∈ RttState.stores (resultsEvent 1025).vendorData .fresh := by
    rw [indices, resultsEvent_length, List.mem_range'_1]
    decide
  exact absurd (once.stored 1024 (List.mem_append_left _ stored)) (by decide)

end Mt6757.WifiHal
