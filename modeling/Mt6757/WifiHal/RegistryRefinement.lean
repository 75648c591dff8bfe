import Mt6757.Lib.FifoFamily
import Mt6757.WifiHal.Registry

/-!
# The event table is a family of FIFO queues

What the four registration functions and the dispatch of `event_cb` are for: one
queue of handlers for every event key.  The array of `Registry` carries every
queue as the subsequence of its key, whatever calls have been made.
-/

set_option autoImplicit false

namespace Mt6757.WifiHal

/-- The events that share handlers. -/
inductive EventKey where
  | command (nlCmd : Int32)
  | vendor (id : UInt32) (subcmd : Int32)
  deriving DecidableEq, Repr

structure Handler where
  func : Option FnPtr
  arg : Option Ptr
  deriving DecidableEq, Repr

namespace EventKey

def of (nlCmd : Int32) (id : UInt32) (subcmd : Int32) : EventKey :=
  if nlCmd = nl80211CmdVendor then .vendor id subcmd else .command nlCmd

def ofEntry (entry : CbInfo) : EventKey :=
  of entry.nlCmd entry.vendorId entry.vendorSubcmd

def ofMsg (msg : NlMsg) : EventKey :=
  of msg.getCmd msg.dispatchVendorId msg.dispatchSubcmd

end EventKey

namespace Handler

def ofEntry (entry : CbInfo) : Handler := ⟨entry.cbFunc, entry.cbArg⟩

def calls (handler : Handler) : List (FnPtr × Option Ptr) :=
  match handler.func with
  | none => []
  | some func => [(func, handler.arg)]

end Handler

/-! ## The two meanings of a call -/

inductive RegistryCall where
  | register (cmd : Int32) (func : Option FnPtr) (arg : Option Ptr)
  | registerVendor (id : UInt32) (subcmd : Int32) (func : Option FnPtr) (arg : Option Ptr)
  | unregister (cmd : Int32)
  | unregisterVendor (id : UInt32) (subcmd : Int32)

namespace RegistryCall

/-- The function of `common.cpp`; the unregistrations return nothing. -/
def onTables (info : HalInfo) : RegistryCall → Option WifiError × HalInfo
  | .register cmd func arg =>
      ((wifiRegisterHandler info cmd func arg).1, (wifiRegisterHandler info cmd func arg).2)
  | .registerVendor id subcmd func arg =>
      ((wifiRegisterVendorHandler info id subcmd func arg).1,
        (wifiRegisterVendorHandler info id subcmd func arg).2)
  | .unregister cmd => (none, wifiUnregisterHandler info cmd)
  | .unregisterVendor id subcmd => (none, wifiUnregisterVendorHandler info id subcmd)

def enqueue (bound : Nat) (family : FifoFamily EventKey Handler) (key : EventKey)
    (handler : Handler) : Option WifiError × FifoFamily EventKey Handler :=
  match family.register bound key handler with
  | some family' => (wifiSuccess, family')
  | none => (wifiErrorOutOfMemory, family)

/-- The same call on queues.  A vendor queue is never reached by `unregister`. -/
def onQueues (bound : Nat) (family : FifoFamily EventKey Handler) :
    RegistryCall → Option WifiError × FifoFamily EventKey Handler
  | .register cmd func arg => enqueue bound family (.of cmd 0 0) ⟨func, arg⟩
  | .registerVendor id subcmd func arg => enqueue bound family (.vendor id subcmd) ⟨func, arg⟩
  | .unregister cmd =>
      (none, if cmd = nl80211CmdVendor then family else family.unregister (.command cmd))
  | .unregisterVendor id subcmd => (none, family.unregister (.vendor id subcmd))

end RegistryCall

/-- The answers of a sequence of calls and the state they leave. -/
def performAll {σ : Type} (perform : σ → RegistryCall → Option WifiError × σ) :
    List RegistryCall → σ → List (Option WifiError) × σ
  | [], state => ([], state)
  | call :: rest, state =>
      let answered := perform state call
      let later := performAll perform rest answered.2
      (answered.1 :: later.1, later.2)

/-! ## Keys against the tests of the loops -/

theorem ofEntry_eq_command {cmd : Int32} (notVendor : cmd ≠ nl80211CmdVendor)
    (entry : CbInfo) : EventKey.ofEntry entry = .command cmd ↔ entry.nlCmd = cmd := by
  unfold EventKey.ofEntry EventKey.of
  split
  · rename_i vendorEntry
    simp only [reduceCtorEq, false_iff, vendorEntry]
    exact Ne.symm notVendor
  · simp

theorem isVendorEntry_iff (id : UInt32) (subcmd : Int32) (entry : CbInfo) :
    isVendorEntry id subcmd entry = true ↔ EventKey.ofEntry entry = .vendor id subcmd := by
  unfold EventKey.ofEntry EventKey.of isVendorEntry
  split <;> simp_all

/-- The dispatch match, which skips the vendor fields of other commands, is
equality of keys. -/
theorem isFor_iff (msg : NlMsg) (entry : CbInfo) :
    msg.isFor entry = true ↔ EventKey.ofEntry entry = .ofMsg msg := by
  unfold EventKey.ofEntry EventKey.ofMsg EventKey.of NlMsg.isFor
  by_cases vendorMsg : msg.getCmd = nl80211CmdVendor
  · by_cases vendorEntry : entry.nlCmd = nl80211CmdVendor
    · simp [vendorMsg, vendorEntry, @eq_comm _ entry.vendorId, @eq_comm _ entry.vendorSubcmd]
    · simp [vendorMsg, vendorEntry, Ne.symm vendorEntry]
  · by_cases vendorEntry : entry.nlCmd = nl80211CmdVendor
    · simp [vendorMsg, vendorEntry]
    · simp [vendorMsg, vendorEntry, @eq_comm _ entry.nlCmd]

/-! ## The simulation -/

/-- The entries in use carry the queues, within the allocation. -/
structure QueuesOf (bound : Nat) (info : HalInfo) (family : FifoFamily EventKey Handler) :
    Prop where
  stored : FifoFamily.Stores EventKey.ofEntry Handler.ofEntry info.events family
  alloc : info.eventCb.alloc = bound

namespace QueuesOf

variable {bound : Nat} {info : HalInfo} {family : FifoFamily EventKey Handler}

theorem total_eq (queues : QueuesOf bound info family) :
    family.total = info.events.length := queues.stored.total_eq

theorem total_le (queues : QueuesOf bound info family) : family.total ≤ bound := by
  have inUse := info.eventCb.length_toList
  have allocated := info.eventCb.bound
  have total := queues.total_eq
  have alloc := queues.alloc
  unfold HalInfo.events at total
  omega

theorem addEventCb (queues : QueuesOf bound info family) (entry : CbInfo) :
    some (addEventCb info entry).1 =
        (RegistryCall.enqueue bound family (.ofEntry entry) (.ofEntry entry)).1 ∧
      QueuesOf bound (addEventCb info entry).2
        (RegistryCall.enqueue bound family (.ofEntry entry) (.ofEntry entry)).2 := by
  have total := queues.total_eq
  unfold RegistryCall.enqueue FifoFamily.register
  by_cases room : family.total < bound
  · have room' : info.events.length < info.eventCb.alloc := by
      rw [queues.alloc]
      omega
    rw [if_pos room]
    refine ⟨congrArg some ((addEventCb_success_iff info entry).mpr room'), ?_, ?_⟩
    · rw [addEventCb_events, if_pos room']
      exact queues.stored.append entry
    · rw [addEventCb_alloc, queues.alloc]
  · have noRoom : ¬ info.events.length < info.eventCb.alloc := by
      rw [queues.alloc]
      omega
    rw [if_neg room]
    have failed := addEventCb_of_full info entry noRoom
    rw [failed]
    exact ⟨rfl, queues⟩

theorem eraseKey (queues : QueuesOf bound info family) {key : EventKey}
    {hit : CbInfo → Bool} (hit_iff : ∀ entry, hit entry = true ↔ EventKey.ofEntry entry = key) :
    QueuesOf bound { info with eventCb := info.eventCb.removeFirst hit }
      (family.unregister key) where
  stored := by
    have sameTest : hit = fun entry => decide (EventKey.ofEntry entry = key) := by
      funext entry
      rw [Bool.eq_iff_iff, hit_iff, decide_eq_true_iff]
    have erased := queues.stored.unregister key
    rw [← sameTest] at erased
    simpa [HalInfo.events] using erased
  alloc := (CompactArray.alloc_removeFirst _ _).trans queues.alloc

theorem onQueues (queues : QueuesOf bound info family) (call : RegistryCall) :
    (call.onTables info).1 = (call.onQueues bound family).1 ∧
      QueuesOf bound (call.onTables info).2 (call.onQueues bound family).2 := by
  cases call with
  | register cmd func arg => exact queues.addEventCb ⟨cmd, 0, 0, func, arg⟩
  | registerVendor id subcmd func arg =>
      exact queues.addEventCb ⟨nl80211CmdVendor, id, subcmd, func, arg⟩
  | unregister cmd =>
      refine ⟨rfl, ?_⟩
      simp only [RegistryCall.onTables, RegistryCall.onQueues, wifiUnregisterHandler]
      split
      · exact queues
      · rename_i notVendor
        apply queues.eraseKey
        intro entry
        rw [ofEntry_eq_command notVendor, beq_iff_eq]
  | unregisterVendor id subcmd =>
      exact ⟨rfl, queues.eraseKey (isVendorEntry_iff id subcmd)⟩

/-- A message goes to the oldest handler of its key. -/
theorem internalValidMessageCalls (queues : QueuesOf bound info family) (msg : NlMsg) :
    internalValidMessageCalls info msg =
      if msg.parsed < 0 then (nlSkip, [])
      else (nlOk, ((family.peek (.ofMsg msg)).map Handler.calls).getD []) := by
  have sameTest : msg.isFor = fun entry => decide (EventKey.ofEntry entry = .ofMsg msg) := by
    funext entry
    rw [Bool.eq_iff_iff, isFor_iff, decide_eq_true_iff]
  have oldest := queues.stored.peek_eq (.ofMsg msg)
  rw [← sameTest] at oldest
  unfold WifiHal.internalValidMessageCalls
  split
  · rfl
  · rw [findHandler_eq, oldest]
    cases info.events.find? msg.isFor with
    | none => rfl
    | some entry =>
        cases func : entry.cbFunc <;> simp [Handler.calls, Handler.ofEntry, func]

end QueuesOf

theorem queuesOf_performAll {bound : Nat} (calls : List RegistryCall) {info : HalInfo}
    {family : FifoFamily EventKey Handler} (queues : QueuesOf bound info family) :
    (performAll RegistryCall.onTables calls info).1 =
        (performAll (RegistryCall.onQueues bound) calls family).1 ∧
      QueuesOf bound (performAll RegistryCall.onTables calls info).2
        (performAll (RegistryCall.onQueues bound) calls family).2 := by
  induction calls generalizing info family with
  | nil => exact ⟨rfl, queues⟩
  | cons call rest ih =>
      obtain ⟨sameAnswer, queues'⟩ := queues.onQueues call
      obtain ⟨sameAnswers, final⟩ := ih queues'
      exact ⟨congrArg₂ List.cons sameAnswer sameAnswers, final⟩

theorem queuesOf_initial (eventFill : CbInfo) (cmdFill : CmdInfo)
    (allocEventCb allocCmd : Nat) :
    QueuesOf allocEventCb (.initial eventFill cmdFill allocEventCb allocCmd)
      (FifoFamily.none EventKey Handler) :=
  ⟨FifoFamily.stores_none, rfl⟩

theorem Handler.calls_length (handler : Handler) : handler.calls.length ≤ 1 := by
  unfold calls
  split <;> simp

/-- The event table refines the family of queues: whatever calls are made, both
sides answer the same, the entries in use are the queues, their total is what
fails registrations, and a message calls at most one handler, the oldest of its
key. -/
theorem eventCb_refines_queues (eventFill : CbInfo) (cmdFill : CmdInfo)
    (allocEventCb allocCmd : Nat) (calls : List RegistryCall) :
    let tables := performAll RegistryCall.onTables calls
      (.initial eventFill cmdFill allocEventCb allocCmd)
    let queues := performAll (RegistryCall.onQueues allocEventCb) calls
      (FifoFamily.none EventKey Handler)
    tables.1 = queues.1 ∧
      (∀ key, queues.2.queue key =
        (tables.2.events.filter fun entry => EventKey.ofEntry entry = key).map
          Handler.ofEntry) ∧
      queues.2.total = tables.2.events.length ∧ queues.2.total ≤ allocEventCb ∧
      ∀ msg, internalValidMessageCalls tables.2 msg =
          (if msg.parsed < 0 then (nlSkip, [])
            else (nlOk, ((queues.2.peek (.ofMsg msg)).map Handler.calls).getD [])) ∧
        (internalValidMessageCalls tables.2 msg).2.length ≤ 1 := by
  intro tables queues
  obtain ⟨sameAnswers, final⟩ := queuesOf_performAll calls
    (queuesOf_initial eventFill cmdFill allocEventCb allocCmd)
  refine ⟨sameAnswers, final.stored, final.total_eq, final.total_le, fun msg => ?_⟩
  have dispatched := final.internalValidMessageCalls msg
  refine ⟨dispatched, ?_⟩
  rw [dispatched]
  split
  · simp
  · cases queues.2.peek (.ofMsg msg) with
    | none => simp
    | some handler => exact handler.calls_length

end Mt6757.WifiHal
