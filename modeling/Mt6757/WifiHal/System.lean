import Mt6757.WifiHal.Commands

/-!
# The two threads of the HAL

The API thread makes calls in any order and the event thread handles messages;
their operations interleave freely.  `cb_lock` guards the event table and the
loop of the cleanup but not the command table, so what is shown here of runs of
whole operations is carried over to runs of single accesses in `CommandTable`.
-/

set_option autoImplicit false

namespace Mt6757.WifiHal

open CommandTree

abbrev HalPool : Type := Pool Thread HalOp Res Int World

/-- Side conditions of a run: the calls the framework makes in a state, and the
operations that are admitted in one. -/
structure Side where
  call : ApiCall → World → Prop
  op : Thread → HalOp → World → Prop

def Side.always : Side := ⟨fun _ _ => True, fun _ _ _ => True⟩

inductive Calls (side : Side) : Thread → World → Hal Int → Prop where
  | api (call : ApiCall) (world : World) (admitted : side.call call world) :
      Calls side .api world call.program
  | event (msg : NlMsg) (world : World) :
      Calls side .event world (internalValidMessageHandler msg)

def initialPool (eventFill : CbInfo) (cmdFill : CmdInfo) : HalPool :=
  ⟨.initial eventFill cmdFill, fun _ => .ret 0⟩

/-- The pool of a process whose fresh tables are zeroed. -/
def zeroedPool : HalPool := initialPool ⟨0, 0, 0, none, none⟩ ⟨0, 0⟩

/-- Reachability by calls and operations that meet the side conditions. -/
def ReachableWhen (side : Side) (pool : HalPool) : Prop :=
  ∃ eventFill cmdFill,
    Reaches (guarded side.op exec) (Calls side) (initialPool eventFill cmdFill) pool

abbrev Reachable (pool : HalPool) : Prop := ReachableWhen .always pool

theorem reachableWhen_initial {side : Side} (eventFill : CbInfo) (cmdFill : CmdInfo) :
    ReachableWhen side (initialPool eventFill cmdFill) :=
  ⟨eventFill, cmdFill, .refl⟩

/-! ## Schedules -/

/-- A thread enters a program, performs one operation, or runs to its end. -/
inductive Move where
  | call (apiCall : ApiCall)
  | message (msg : NlMsg)
  | act (t : Thread) (env : Env)
  | finish (t : Thread) (env : Env)

def isReturned {Op : Type} {Res : Op → Type} {σ : Type} (t : Thread)
    (pool : Pool Thread Op Res Int σ) : Bool :=
  match pool.thread t with
  | .ret _ => true
  | .call _ _ => false

theorem returned_of_isReturned {Op : Type} {Res : Op → Type} {σ : Type} {t : Thread}
    {pool : Pool Thread Op Res Int σ} (returned : isReturned t pool) : pool.Returned t := by
  unfold isReturned at returned
  split at returned
  · rename_i value isRet
    exact ⟨value, isRet⟩
  · contradiction

/-- A way to run the programs: the operations they become, and the world that a
state stands for. -/
structure Grain (Op : Type) (Res : Op → Type) (σ : Type) where
  ok : Thread → Op → σ → Prop
  exec : Thread → Env → (op : Op) → σ → Res op × σ
  embed : Hal Int → Prog Op Res Int
  view : σ → World

abbrev Grain.whole (side : Side) : Grain HalOp Res World := ⟨side.op, WifiHal.exec, id, id⟩

section Play

variable {Op : Type} {Res : Op → Type} {σ : Type} (grain : Grain Op Res σ) (side : Side)

def Grain.Calls (calls : Thread → World → Hal Int → Prop) (t : Thread) (state : σ)
    (program : Prog Op Res Int) : Prop :=
  ∃ plain, calls t (grain.view state) plain ∧ program = grain.embed plain

variable [∀ call world, Decidable (side.call call world)]
  [∀ t op state, Decidable (grain.ok t op state)]

def nextAdmitted (t : Thread) (pool : Pool Thread Op Res Int σ) : Bool :=
  match pool.thread t with
  | .ret _ => true
  | .call op _ => decide (grain.ok t op pool.shared)

def Move.play (pool : Pool Thread Op Res Int σ) : Move → Option (Pool Thread Op Res Int σ)
  | .call apiCall =>
      if isReturned .api pool ∧ side.call apiCall (grain.view pool.shared) then
        some (pool.enter .api (grain.embed apiCall.program))
      else none
  | .message msg =>
      if isReturned .event pool then
        some (pool.enter .event (grain.embed (internalValidMessageHandler msg)))
      else none
  | .act t env => if nextAdmitted grain t pool then some (pool.act grain.exec t env) else none
  | .finish t env =>
      if RunOk grain.ok grain.exec t env (pool.thread t) pool.shared then
        some (pool.finish grain.exec t env)
      else none

def play : List Move → Pool Thread Op Res Int σ → Option (Pool Thread Op Res Int σ)
  | [], pool => some pool
  | move :: rest, pool => (move.play grain side pool).bind (play rest)

variable {grain side} {pool pool' : Pool Thread Op Res Int σ}

theorem Move.reaches {move : Move} (played : move.play grain side pool = some pool') :
    Reaches (guarded grain.ok grain.exec) (grain.Calls (Calls side)) pool pool' := by
  cases move with
  | call apiCall =>
      simp only [Move.play, Option.ite_none_right_eq_some, Option.some.injEq] at played
      obtain ⟨⟨returned, admitted⟩, rfl⟩ := played
      have called : grain.Calls (Calls side) .api pool.shared (grain.embed apiCall.program) :=
        ⟨_, .api apiCall _ admitted, rfl⟩
      exact reaches_enter _ .api _ pool (returned_of_isReturned returned) called
  | message msg =>
      simp only [Move.play, Option.ite_none_right_eq_some, Option.some.injEq] at played
      obtain ⟨returned, rfl⟩ := played
      have called : grain.Calls (Calls side) .event pool.shared
          (grain.embed (internalValidMessageHandler msg)) := ⟨_, .event msg _, rfl⟩
      exact reaches_enter _ .event _ pool (returned_of_isReturned returned) called
  | act t env =>
      simp only [Move.play, Option.ite_none_right_eq_some, Option.some.injEq] at played
      obtain ⟨admitted, rfl⟩ := played
      refine reaches_act grain.ok grain.exec t env pool fun op next running => ?_
      simpa [nextAdmitted, running] using admitted
  | finish t env =>
      simp only [Move.play, Option.ite_none_right_eq_some, Option.some.injEq] at played
      obtain ⟨admitted, rfl⟩ := played
      exact reaches_finish grain.ok grain.exec t env pool admitted

theorem reaches_of_play {moves : List Move} (played : play grain side moves pool = some pool') :
    Reaches (guarded grain.ok grain.exec) (grain.Calls (Calls side)) pool pool' := by
  induction moves generalizing pool with
  | nil =>
      obtain rfl := Option.some.inj played
      exact .refl
  | cons move rest ih =>
      obtain ⟨middle, moved, played⟩ := Option.bind_eq_some_iff.mp played
      exact (Move.reaches moved).trans (ih played)

end Play

section PlayWhole

variable (side : Side) [∀ call world, Decidable (side.call call world)]
  [∀ t op world, Decidable (side.op t op world)]

variable {side} in
theorem reaches_of_playWhole {pool pool' : HalPool} {moves : List Move}
    (played : play (.whole side) side moves pool = some pool') :
    Reaches (guarded side.op exec) (Calls side) pool pool' := by
  refine (reaches_of_play played).mono (fun _ _ _ _ _ does => does) ?_
  rintro t world program ⟨_, called, rfl⟩
  exact called

/-- A schedule whose last pool passes a test. -/
theorem exists_reachable_of_play (moves : List Move) (goal : HalPool → Bool)
    (played : (play (.whole side) side moves zeroedPool).any goal = true) :
    ∃ pool, ReachableWhen side pool ∧ goal pool = true := by
  obtain ⟨pool, played, met⟩ := (Option.any_eq_true _ _).mp played
  exact ⟨pool, ⟨_, _, reaches_of_playWhole played⟩, met⟩

/-- Where a schedule of the API leads from the zeroed tables. -/
def played (moves : List Move) : HalPool :=
  (play (.whole side) side moves zeroedPool).getD zeroedPool

theorem reachable_played (moves : List Move) : ReachableWhen side (played side moves) := by
  unfold played
  cases ends : play (.whole side) side moves zeroedPool with
  | none => exact reachableWhen_initial _ _
  | some pool => exact ⟨_, _, reaches_of_playWhole ends⟩

end PlayWhole

instance (call : ApiCall) (world : World) : Decidable (Side.always.call call world) :=
  inferInstanceAs (Decidable True)

instance (t : Thread) (op : HalOp) (world : World) : Decidable (Side.always.op t op world) :=
  inferInstanceAs (Decidable True)

/-! ## What the programs are made of -/

namespace HalOp

def Starts (cmd : Ptr) : HalOp → Prop
  | .createRequest this _ => this = cmd
  | .requestResponse this _ => this = cmd
  | .registerVendorHandler this _ => this = cmd
  | .unregisterVendorHandler this _ => this = cmd
  | _ => False

def Cancels (cmd : Ptr) : HalOp → Prop
  | .createRequest this _ => this = cmd
  | .requestResponse this _ => this = cmd
  | .unregisterVendorHandler this _ => this = cmd
  | .cancel this => this = cmd
  | _ => False

/-- The operations of the stop calls, the end of the request apart. -/
def Stops : HalOp → Prop
  | .newCommand _ _ => True
  | .createRequest _ _ => True
  | .requestResponse _ _ => True
  | .unregisterVendorHandler _ _ => True
  | .wifiUnregisterCmd owner _ => owner = none
  | .cancel _ => True
  | .releaseRef _ => True
  | _ => False

/-- The operations of a dispatch. -/
def Dispatches : HalOp → Prop
  | .unregisterVendorHandler _ _ => True
  | .wifiUnregisterCmd _ _ => True
  | .findAndAddRef _ => True
  | .handleEvent _ => True
  | .handleAttrs _ _ => True
  | .clearResults _ => True
  | .id _ => True
  | .releaseRef _ => True
  | _ => False

end HalOp

theorem unregisterAll_allOps {allowed : HalOp → Prop} (this : Ptr) (events : List VendorEvent)
    (unregisters : ∀ event, allowed (.unregisterVendorHandler this event)) :
    (unregisterAll this events).AllOps allowed := by
  induction events with
  | nil => trivial
  | cons event rest ih => exact ⟨unregisters event, fun _ => ih⟩

theorem startFrom_allOps (this : Ptr) (script : List Stmt) (result : Int) :
    (startFrom this script result).AllOps (HalOp.Starts this) := by
  induction script generalizing result with
  | nil => trivial
  | cons stmt rest ih =>
      cases stmt with
      | create request => exact ⟨rfl, fun result => ih result⟩
      | exchange request => exact ⟨rfl, fun result => ih result⟩
      | register event => exact ⟨rfl, fun _ => ih result⟩
      | check test rollback =>
          simp only [startFrom]
          split
          · exact (unregisterAll_allOps this rollback fun _ => rfl).bind fun _ => trivial
          · exact ih result

theorem cancelBody_allOps (this : Ptr) (script : CancelScript) :
    (cancelBody this script).AllOps (HalOp.Cancels this) := by
  have unregisters : ∀ events, (unregisterAll this events).AllOps (HalOp.Cancels this) :=
    fun events => unregisterAll_allOps this events fun _ => rfl
  cases script with
  | teardownFirst request events =>
      refine Prog.AllOps.performThen rfl fun created => ?_
      split
      · exact .performThen rfl fun _ => (unregisters events).bind fun _ => trivial
      · exact (unregisters events).bind fun _ => trivial
  | unregisterFirst events request =>
      refine (unregisters events).bind fun _ => .performThen rfl fun created => ?_
      split
      · trivial
      · exact ⟨rfl, fun _ => trivial⟩

theorem cancel_allOps (this : Ptr) : (cancel this).AllOps (HalOp.Cancels this) :=
  ⟨rfl, fun type => cancelBody_allOps this type.cancelScript⟩

theorem ending_allOps {allowed : HalOp → Prop} {body : Hal Int} (ops : body.AllOps allowed)
    {type : CommandType} {id : Int32} (ended : allowed (.ended type id)) :
    (ending type id body).AllOps allowed :=
  ops.bind fun _ => .performThen ended fun _ => trivial

theorem cancel_stops (this : Ptr) : (cancel this).AllOps HalOp.Stops :=
  (cancel_allOps this).mono fun op cancels => by cases op <;> trivial

theorem wifiCancelCmd_stops (id : Int32) : (wifiCancelCmd id).AllOps HalOp.Stops := by
  refine Prog.AllOps.performThen rfl fun found => ?_
  split
  · trivial
  · exact (cancel_stops _).bind fun _ => .performThen trivial fun _ => trivial

theorem cancelTemporary_stops (type : CommandType) (id : Int32) :
    (cancelTemporary type id).AllOps HalOp.Stops := by
  refine Prog.AllOps.performThen trivial fun created => ?_
  split
  · trivial
  · exact (cancel_stops _).bind fun _ => .performThen trivial fun _ => trivial

theorem rttHandleEvent_dispatches (this : Ptr) (attrs : List RttAttr) :
    (RttCommand.handleEvent this attrs).AllOps HalOp.Dispatches := by
  refine Prog.AllOps.performThen trivial fun mCompleted => ?_
  split
  · refine .performThen trivial fun _ => .performThen trivial fun _ =>
      .performThen trivial fun id => .performThen trivial fun found => ?_
    split
    · trivial
    · exact .performThen trivial fun _ => trivial
  · trivial

theorem callback_dispatches (entry : CbInfo) (msg : NlMsg) :
    (callback entry msg).AllOps HalOp.Dispatches := by
  unfold callback
  split
  · split
    · refine Prog.AllOps.performThen trivial fun type => ?_
      split
      · exact rttHandleEvent_dispatches _ _
      · trivial
    · trivial
  · trivial

theorem internalValidMessageHandler_dispatches (msg : NlMsg) :
    (internalValidMessageHandler msg).AllOps HalOp.Dispatches := by
  unfold internalValidMessageHandler
  split
  · trivial
  · refine .performThen trivial fun found => ?_
    split
    · trivial
    · refine (callback_dispatches _ msg).bind fun _ => ?_
      split
      · trivial
      · exact .performThen trivial fun _ => trivial

/-! ## Well-formed worlds -/

/-- The tables keep their size and mention only objects that exist. -/
structure World.WellFormed (world : World) : Prop where
  events : ∀ entry ∈ world.info.events, ∀ cmd ∈ entry.cbArg, cmd < world.next
  cmds : ∀ entry ∈ world.info.cmds, entry.cmd < world.next
  allocEventCb : world.info.eventCb.alloc = defaultEventCbSize
  allocCmd : world.info.cmd.alloc = defaultCmdSize

/-- What the operation stores in a table is an object below `bound`. -/
def HalOp.Stores (bound : Ptr) : HalOp → Prop
  | .registerVendorHandler this _ => this < bound
  | .wifiRegisterCmd _ cmd => cmd < bound
  | _ => True

namespace World.WellFormed

variable {world : World}

/-- Tables that shrink stay well formed, and so they do when objects are added. -/
theorem shrink (wellFormed : WellFormed world) {world' : World}
    (events : world'.info.events ⊆ world.info.events)
    (cmds : world'.info.cmds ⊆ world.info.cmds)
    (allocEventCb : world'.info.eventCb.alloc = world.info.eventCb.alloc)
    (allocCmd : world'.info.cmd.alloc = world.info.cmd.alloc)
    (next : world.next ≤ world'.next) : WellFormed world' where
  events := fun entry member cmd arg =>
    (wellFormed.events entry (events member) cmd arg).trans_le next
  cmds := fun entry member => (wellFormed.cmds entry (cmds member)).trans_le next
  allocEventCb := allocEventCb.trans wellFormed.allocEventCb
  allocCmd := allocCmd.trans wellFormed.allocCmd

theorem sameTables (wellFormed : WellFormed world) {world' : World}
    (info : world'.info = world.info) (next : world.next ≤ world'.next) : WellFormed world' :=
  wellFormed.shrink (by rw [info]; exact List.Subset.refl _)
    (by rw [info]; exact List.Subset.refl _) (by rw [info]) (by rw [info]) next

theorem registerVendorHandler (wellFormed : WellFormed world) {this : Ptr}
    (exists_this : this < world.next) (event : VendorEvent) :
    WellFormed (world.registerVendorHandler this event) where
  events := by
    intro entry member cmd arg
    rw [registerVendorHandler_events] at member
    split at member
    · rcases List.mem_append.mp member with old | new
      · exact wellFormed.events entry old cmd arg
      · rw [List.mem_singleton] at new
        subst new
        obtain rfl : this = cmd := by simpa [vendorEntry] using arg
        exact exists_this
    · exact wellFormed.events entry member cmd arg
  cmds := by
    rw [registerVendorHandler_cmds]
    exact wellFormed.cmds
  allocEventCb := (registerVendorHandler_alloc world this event).trans wellFormed.allocEventCb
  allocCmd := by
    rw [registerVendorHandler_cmd]
    exact wellFormed.allocCmd

theorem registerCmd (wellFormed : WellFormed world) {cmd : Ptr}
    (exists_cmd : cmd < world.next) (t : Thread) (id : Int32) :
    WellFormed (world.registerCmd t id cmd) := by
  by_cases room : world.info.cmds.length < world.info.cmd.alloc
  · obtain ⟨_, cmds, eventCb, alloc, registered⟩ := registerCmd_of_room world t id cmd room
    have next : (world.registerCmd t id cmd).next = world.next := by rw [registered]; rfl
    refine ⟨?_, ?_, ?_, alloc.trans wellFormed.allocCmd⟩
    · unfold HalInfo.events
      rw [eventCb, next]
      exact wellFormed.events
    · intro entry member
      rw [cmds] at member
      rw [next]
      rcases List.mem_append.mp member with old | new
      · exact wellFormed.cmds entry old
      · rw [List.mem_singleton] at new
        subst new
        exact exists_cmd
    · rw [eventCb]
      exact wellFormed.allocEventCb
  · rw [(registerCmd_of_full world t id cmd room).2]
    exact wellFormed

theorem exec (wellFormed : WellFormed world) {bound : Ptr} (op : HalOp)
    (stores : op.Stores bound) (below : bound ≤ world.next) (t : Thread) (env : Env) :
    WellFormed (exec t env op world).2 ∧ world.next ≤ (WifiHal.exec t env op world).2.next := by
  cases op with
  | newCommand type id =>
      simp only [WifiHal.exec]
      split
      · exact ⟨wellFormed.sameTables rfl (Nat.le_succ _), Nat.le_succ _⟩
      · exact ⟨wellFormed, Nat.le_refl _⟩
  | createRequest this request => exact ⟨wellFormed, Nat.le_refl _⟩
  | requestResponse this request =>
      simp only [WifiHal.exec]
      split
      · exact ⟨wellFormed.sameTables rfl (Nat.le_refl _), Nat.le_refl _⟩
      · exact ⟨wellFormed, Nat.le_refl _⟩
  | registerVendorHandler this event =>
      exact ⟨wellFormed.registerVendorHandler (Nat.lt_of_lt_of_le stores below) event,
        Nat.le_refl _⟩
  | unregisterVendorHandler this event =>
      refine ⟨wellFormed.shrink ?_ ?_ ?_ rfl (Nat.le_refl _), Nat.le_refl _⟩
      · simp only [WifiHal.exec, unregisterVendorHandler_events]
        exact List.eraseP_subset
      · exact List.Subset.refl _
      · exact unregisterVendorHandler_alloc world event
  | wifiRegisterCmd id cmd =>
      refine ⟨wellFormed.registerCmd (Nat.lt_of_lt_of_le stores below) t id, ?_⟩
      simp only [WifiHal.exec, World.registerCmd]
      split <;> exact Nat.le_refl _
  | wifiUnregisterCmd owner id =>
      refine ⟨wellFormed.shrink ?_ ?_ ?_ ?_ ?_, ?_⟩
      · simp [WifiHal.exec, HalInfo.events]
      · simp only [WifiHal.exec, unregisterCmd_info, wifiUnregisterCmd_cmds]
        exact List.eraseP_subset
      · simp [WifiHal.exec]
      · simp [WifiHal.exec]
      · simp [WifiHal.exec]
      · simp [WifiHal.exec]
  | cancel this =>
      exact ⟨wellFormed.sameTables (by simp [WifiHal.exec]) (by simp [WifiHal.exec]),
        by simp [WifiHal.exec]⟩
  | findAndAddRef msg =>
      exact ⟨wellFormed.sameTables (by simp [WifiHal.exec]) (by simp [WifiHal.exec]),
        by simp [WifiHal.exec]⟩
  | handleEvent this =>
      exact ⟨wellFormed.sameTables (by simp [WifiHal.exec]) (by simp [WifiHal.exec]),
        by simp [WifiHal.exec]⟩
  | handleAttrs this attrs =>
      exact ⟨wellFormed.sameTables (by simp [WifiHal.exec]) (by simp [WifiHal.exec]),
        by simp [WifiHal.exec]⟩
  | clearResults this => exact ⟨wellFormed.sameTables rfl (Nat.le_refl _), Nat.le_refl _⟩
  | id this =>
      exact ⟨wellFormed.sameTables (by simp [WifiHal.exec]) (by simp [WifiHal.exec]),
        by simp [WifiHal.exec]⟩
  | releaseRef this =>
      exact ⟨wellFormed.sameTables (by simp [WifiHal.exec]) (by simp [WifiHal.exec]),
        by simp [WifiHal.exec]⟩
  | beginCleanup =>
      exact ⟨wellFormed.sameTables (by simp [WifiHal.exec]) (by simp [WifiHal.exec]),
        by simp [WifiHal.exec]⟩
  | numCmd => exact ⟨wellFormed.sameTables rfl (Nat.le_refl _), Nat.le_refl _⟩
  | cmdAt index =>
      exact ⟨wellFormed.sameTables (by simp [WifiHal.exec]) (by simp [WifiHal.exec]),
        by simp [WifiHal.exec]⟩
  | ended type id => exact ⟨wellFormed.sameTables rfl (Nat.le_refl _), Nat.le_refl _⟩

theorem initial (eventFill : CbInfo) (cmdFill : CmdInfo) :
    WellFormed (.initial eventFill cmdFill) :=
  ⟨nofun, nofun, rfl, rfl⟩

end World.WellFormed

/-- Both threads keep worlds well formed and rely on nothing but that. -/
def wellFormedDiscipline (ok : Thread → HalOp → World → Prop) :
    Discipline Thread HalOp Res Int World where
  sem := guarded ok exec
  inv := World.WellFormed
  rely := fun _ world world' => world.next ≤ world'.next
  guar := fun _ world world' => world.next ≤ world'.next
  post := fun _ _ _ => True
  rely_refl := fun _ _ => Nat.le_refl _
  rely_trans := fun _ _ _ _ => Nat.le_trans
  guar_rely := fun _ _ _ _ _ moved => moved
  post_stable := fun _ _ _ _ _ _ => trivial

section WellFormedRuns

variable (ok : Thread → HalOp → World → Prop)

theorem wellFormed_wp_of_allOps (t : Thread) {bound : Ptr} {program : Hal Int}
    (ops : program.AllOps (HalOp.Stores bound)) {world : World} (below : bound ≤ world.next) :
    (wellFormedDiscipline ok).wp t program (fun _ _ => True) world := by
  refine (wellFormedDiscipline ok).wp_mono t program
    ((wellFormedDiscipline ok).wp_of_allOps t (fun world => bound ≤ world.next)
      (fun _ _ kept moved => Nat.le_trans kept moved) ?_ program ops below) fun _ _ _ => trivial
  rintro op before result after stores kept wellFormed ⟨_, env, does⟩
  obtain ⟨wellFormed', grows⟩ := wellFormed.exec op stores kept t env
  rw [does] at wellFormed' grows
  exact ⟨wellFormed', grows, Nat.le_trans kept grows⟩

theorem stops_stores (bound : Ptr) {program : Hal Int} (ops : program.AllOps HalOp.Stops) :
    program.AllOps (HalOp.Stores bound) :=
  ops.mono fun op stops => by cases op <;> trivial

/-- Only `wifiStart` stores pointers, to the object it has just created. -/
theorem wifiStart_wellFormed (t : Thread) (type : CommandType) (id : Int32) (world : World) :
    (wellFormedDiscipline ok).wp t (wifiStart type id) (fun _ _ => True) world := by
  rintro before _ wellFormed created after ⟨_, env, does⟩
  obtain ⟨wellFormed', grows⟩ :=
    wellFormed.exec (.newCommand type id) trivial (Nat.zero_le before.next) t env
  rw [does] at wellFormed' grows
  refine ⟨wellFormed', grows, ?_⟩
  cases created with
  | none => trivial
  | some cmd =>
      have isNew : cmd + 1 ≤ after.next := by
        obtain ⟨rfl, rfl⟩ := exec_newCommand does
        exact Nat.le_refl _
      refine wellFormed_wp_of_allOps ok t ?_ isNew
      refine .performThen (Nat.lt_succ_self cmd) fun registered => ?_
      split
      · refine Prog.AllOps.bind ?_ fun result => ?_
        · refine (startFrom_allOps cmd _ _).mono fun op starts => ?_
          cases op with
          | registerVendorHandler this event => exact starts ▸ Nat.lt_succ_self cmd
          | _ => trivial
        · split
          · trivial
          · exact .performThen trivial fun _ => .performThen trivial fun _ => trivial
      · exact .performThen trivial fun _ => trivial

theorem calls_wellFormed {side : Side} (t : Thread) (program : Hal Int) (world : World)
    (called : Calls side t world program) :
    (wellFormedDiscipline ok).wp t program (fun _ _ => True) world := by
  cases called with
  | api call _ _ =>
      cases call with
      | start type id =>
          rw [ApiCall.program_start]
          exact wifiStart_wellFormed ok _ type id world
      | stop type id =>
          rw [ApiCall.program_stop]
          refine wellFormed_wp_of_allOps ok _ (ending_allOps ?_ trivial) (Nat.zero_le _)
          split
          · exact stops_stores 0 (cancelTemporary_stops type _)
          · exact stops_stores 0 (wifiCancelCmd_stops id)
  | event msg _ =>
      refine wellFormed_wp_of_allOps ok _ ?_ (Nat.zero_le _)
      exact (internalValidMessageHandler_dispatches msg).mono fun op dispatches => by
        cases op <;> trivial

end WellFormedRuns

/-- Every reachable world is well formed. -/
theorem wellFormed_of_reachable {side : Side} {pool : HalPool}
    (reached : ReachableWhen side pool) : pool.shared.WellFormed := by
  obtain ⟨eventFill, cmdFill, reaches⟩ := reached
  have start : (wellFormedDiscipline side.op).Good (initialPool eventFill cmdFill) :=
    ⟨.initial eventFill cmdFill, fun _ => trivial⟩
  exact ((wellFormedDiscipline side.op).good_of_reaches
    (fun t program _ world called _ _ => calls_wellFormed side.op t program world called)
    start reaches).1

end Mt6757.WifiHal
