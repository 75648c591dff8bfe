import Mt6757.WifiHal.Sequential

/-!
# Events between acknowledgement and cancellation

Once the driver has acknowledged the request that enables a subscription it may
emit the event at any moment.  When every event that is dispatched from then on
finds the handler of the subscribing command.
-/

set_option autoImplicit false

namespace Mt6757.WifiHal.Subscription

open CommandTree KeyedList

/-! ## Subscriptions -/

/-- The last request that `start` exchanges. -/
def lastExchange : List Stmt → Option Request
  | [] => none
  | .exchange request :: rest => (lastExchange rest).or (some request)
  | _ :: rest => lastExchange rest

/-- The request after which the driver emits the events of a command. -/
def enabling (type : CommandType) : Option Request := lastExchange type.startScript

/-- The commands that register after the acknowledgement of that request. -/
def registersLate : CommandType → Bool
  | .ePNO => true
  | .setRSSIMonitor => true
  | .rtt => true
  | _ => false

def Acknowledged (cmd : Ptr) (world : World) : Prop :=
  ∃ request ∈ enabling (world.heap cmd).mType, .acknowledged cmd request ∈ world.log

/-- The kinds whose stop call takes -1 for all requests of its kind. -/
def stopsAll : CommandType → Bool
  | .scan => true
  | .fullScanResults => true
  | .ePNO => true
  | .setRSSIMonitor => true
  | _ => false

/-- To cancel `this` is to end the subscription of `cmd`: it is the command
itself, or a later one made to cancel its id or all requests of its kind. -/
def EndsFor (world : World) (this cmd : Ptr) : Prop :=
  this = cmd ∨ cmd < this ∧ (world.heap this).mType = (world.heap cmd).mType ∧
    ((world.heap this).mId = (world.heap cmd).mId ∨
      stopsAll (world.heap this).mType = true ∧
        (world.heap this).mId = temporaryId (world.heap this).mType (-1))

/-- The range request is complete, or a stop call has begun to cancel. -/
def Ended (cmd : Ptr) (world : World) : Prop :=
  .completed cmd ∈ world.log ∨
    ∃ this, .cancelled this ∈ world.log ∧ EndsFor world this cmd

instance (cmd : Ptr) (world : World) : Decidable (Acknowledged cmd world) :=
  inferInstanceAs (Decidable (∃ request ∈ _, _))

instance (world : World) (this cmd : Ptr) : Decidable (EndsFor world this cmd) :=
  inferInstanceAs (Decidable (_ ∨ _))

/-! ## Conditions on a run -/

/-- No handler of these events is registered, and there is room for them. -/
def ClearFor (events : List VendorEvent) (world : World) : Prop :=
  (∀ event ∈ events, ∀ entry ∈ world.info.events, isEventEntry event entry = false) ∧
    world.info.events.length + events.length ≤ defaultEventCbSize

/-- The handler that goes is one of the command itself, or one whose
subscription the command was made to end. -/
def RemovesEnded (this : Ptr) (event : VendorEvent) (world : World) : Prop :=
  ∀ entry ∈ world.info.events.find? (isEventEntry event), ∀ cmd ∈ entry.cbArg,
    cmd = this ∨ .cancelled this ∈ world.log ∧ EndsFor world this cmd

/-- The command does not wait for the message between its acknowledgement and its
registration. -/
def OutsideWindow (msg : NlMsg) (world : World) (cmd : Ptr) : Prop :=
  registersLate (world.heap cmd).mType = true → Acknowledged cmd world →
    ∀ event ∈ (world.heap cmd).mType.events,
      msg.isFor (vendorEntry event cmd) = true → .registered event cmd ∈ world.log

def NotInWindow (msg : NlMsg) (world : World) : Prop :=
  ∀ cmd, cmd < world.next → OutsideWindow msg world cmd

instance (events : List VendorEvent) (world : World) : Decidable (ClearFor events world) :=
  inferInstanceAs (Decidable (_ ∧ _))

instance (this : Ptr) (event : VendorEvent) (world : World) :
    Decidable (RemovesEnded this event world) :=
  inferInstanceAs (Decidable (∀ entry ∈ _, ∀ cmd ∈ _, _))

instance (msg : NlMsg) (world : World) (cmd : Ptr) : Decidable (OutsideWindow msg world cmd) :=
  inferInstanceAs (Decidable (_ → _ → ∀ event ∈ (world.heap cmd).mType.events, _))

instance (msg : NlMsg) (world : World) : Decidable (NotInWindow msg world) :=
  Nat.decidableBallLT world.next fun cmd _ => OutsideWindow msg world cmd

def side : Side where
  call := fun call world =>
    match call with
    | .start type _ => ClearFor type.events world
    | .stop _ _ => True
  op := fun _ op world =>
    match op with
    | .unregisterVendorHandler this event => RemovesEnded this event world
    | .findAndAddRef msg => NotInWindow msg world
    | _ => True

instance (call : ApiCall) (world : World) : Decidable (side.call call world) :=
  match call with
  | .start type _ => inferInstanceAs (Decidable (ClearFor type.events world))
  | .stop _ _ => .isTrue trivial

instance (t : Thread) (op : HalOp) (world : World) : Decidable (side.op t op world) :=
  match op with
  | .unregisterVendorHandler this event =>
      inferInstanceAs (Decidable (RemovesEnded this event world))
  | .findAndAddRef msg => inferInstanceAs (Decidable (NotInWindow msg world))
  | .newCommand _ _ | .createRequest _ _ | .requestResponse _ _ | .registerVendorHandler _ _
  | .wifiRegisterCmd _ _ | .wifiUnregisterCmd _ _ | .cancel _ | .handleEvent _
  | .handleAttrs _ _ | .clearResults _ | .id _ | .releaseRef _ | .beginCleanup | .numCmd
  | .cmdAt _ | .ended _ _ => .isTrue trivial

/-! ## What operations leave alone -/

def concerns : Observation → Bool
  | .registered _ _ => true
  | .acknowledged _ _ => true
  | .cancelled _ => true
  | _ => false

def record (world : World) : List Observation := world.log.filter concerns

def static (world : World) (cmd : Ptr) : CommandType × Int32 :=
  ((world.heap cmd).mType, (world.heap cmd).mId)

theorem mem_log_iff_of_record {world world' : World} (same : record world' = record world)
    {observation : Observation} (isConcern : concerns observation = true) :
    observation ∈ world'.log ↔ observation ∈ world.log := by
  have filtered := congrArg (observation ∈ ·) same
  simpa [record, List.mem_filter, isConcern] using filtered

theorem static_update (world : World) (cmd other : Ptr) (command : WifiCommand)
    (same : (command.mType, command.mId) = static world cmd) :
    ((Function.update world.heap cmd command other).mType,
      (Function.update world.heap cmd command other).mId) = static world other := by
  by_cases here : other = cmd
  · subst here
    simpa using same
  · simp [Function.update_of_ne here, static]

theorem exec_static (t : Thread) (env : Env) (op : HalOp) (world : World) {cmd : Ptr}
    (exists_cmd : cmd < world.next) :
    static (exec t env op world).2 cmd = static world cmd := by
  cases op with
  | newCommand type id =>
      simp only [exec]
      split
      · have other : cmd ≠ world.next := Nat.ne_of_lt exists_cmd
        simp [static, World.newCommand, Function.update_of_ne other]
      · rfl
  | requestResponse this request =>
      simp only [exec]
      split <;> rfl
  | wifiRegisterCmd id this =>
      simp only [exec, World.registerCmd]
      split <;> rfl
  | wifiUnregisterCmd owner id => simp [exec, static]
  | cancel this => simp [exec, static]
  | handleEvent this => simp [exec, static]
  | id this => simp [exec, static]
  | cmdAt index => simp [exec, static, World.countRead]
  | beginCleanup =>
      simp only [exec, World.beginCleanup]
      rw [World.touchHandlers_eq]
      rfl
  | findAndAddRef msg =>
      simp only [exec, World.findAndAddRef]
      split
      · rfl
      · split
        · rfl
        · rename_i found _
          rw [static, World.addRef_heap]
          exact static_update world found cmd _ rfl
  | handleAttrs this attrs =>
      simp only [exec, World.handleAttrs]
      split <;> exact static_update world this cmd _ rfl
  | clearResults this => exact static_update world this cmd _ rfl
  | releaseRef this =>
      simp only [exec]
      rw [static, World.releaseRef_heap]
      exact static_update world this cmd _ rfl
  | _ => rfl

theorem touch_log (world : World) (cmd : Ptr) : world.log ⊆ (world.touch cmd).log := by
  unfold World.touch
  split
  · exact List.subset_cons_self _ _
  · exact List.Subset.refl _

theorem touchHandlers_log (entries : List CbInfo) (world : World) :
    world.log ⊆ (world.touchHandlers entries).log :=
  World.touchHandlers_of_touch (R := fun world world' => world.log ⊆ world'.log)
    (fun _ => List.Subset.refl _) List.Subset.trans touch_log entries world

theorem exec_log (t : Thread) (env : Env) (op : HalOp) (world : World) :
    world.log ⊆ (exec t env op world).2.log := by
  cases op with
  | newCommand type id =>
      simp only [exec]
      split <;> exact List.Subset.refl _
  | requestResponse this request =>
      simp only [exec]
      split
      · exact List.subset_cons_self _ _
      · exact List.Subset.refl _
  | registerVendorHandler this event => exact List.subset_cons_self _ _
  | wifiRegisterCmd id cmd =>
      simp only [exec, World.registerCmd]
      split <;> exact List.Subset.refl _
  | wifiUnregisterCmd owner id =>
      simp only [exec, World.unregisterCmd_log]
      exact List.Subset.refl _
  | cancel this => exact List.Subset.trans (touch_log world this) (List.subset_cons_self _ _)
  | findAndAddRef msg =>
      simp only [exec, World.findAndAddRef]
      split
      · exact List.Subset.refl _
      · split
        · exact List.Subset.refl _
        · exact touch_log world _
  | handleEvent this => exact touch_log world this
  | handleAttrs this attrs =>
      simp only [exec, World.handleAttrs]
      split
      · exact List.Subset.refl _
      · exact List.subset_cons_self _ _
  | id this => exact touch_log world this
  | releaseRef this => exact List.Subset.trans (touch_log world this) (List.subset_cons_self _ _)
  | beginCleanup => exact List.Subset.trans (touchHandlers_log _ world) (List.subset_cons_self _ _)
  | cmdAt index => exact touch_log world.countRead _
  | _ => exact List.Subset.refl _

/-- The operations that neither subscribe nor unsubscribe. -/
def Plain : HalOp → Prop
  | .requestResponse _ _ => False
  | .registerVendorHandler _ _ => False
  | .unregisterVendorHandler _ _ => False
  | .cancel _ => False
  | _ => True

theorem touch_record (world : World) (cmd : Ptr) : record (world.touch cmd) = record world := by
  unfold World.touch
  split <;> rfl

theorem touchHandlers_record (entries : List CbInfo) (world : World) :
    record (world.touchHandlers entries) = record world :=
  World.touchHandlers_of_touch (R := fun world world' => record world' = record world)
    (fun _ => rfl) (fun first second => second.trans first) touch_record entries world

theorem exec_record (t : Thread) (env : Env) {op : HalOp} (plain : Plain op) (world : World) :
    record (exec t env op world).2 = record world := by
  cases op with
  | newCommand type id =>
      simp only [exec]
      split <;> rfl
  | requestResponse this request => exact plain.elim
  | registerVendorHandler this event => exact plain.elim
  | unregisterVendorHandler this event => exact plain.elim
  | wifiRegisterCmd id cmd =>
      simp only [exec, World.registerCmd]
      split <;> rfl
  | wifiUnregisterCmd owner id =>
      simp only [exec, record, World.unregisterCmd_log]
  | cancel this => exact plain.elim
  | findAndAddRef msg =>
      simp only [exec, World.findAndAddRef]
      split
      · rfl
      · split
        · rfl
        · exact touch_record world _
  | handleEvent this => exact touch_record world this
  | handleAttrs this attrs =>
      simp only [exec, World.handleAttrs]
      split <;> rfl
  | id this => exact touch_record world this
  | releaseRef this => exact touch_record world this
  | beginCleanup => exact touchHandlers_record _ world
  | cmdAt index => exact touch_record world.countRead _
  | _ => rfl

theorem exec_events (t : Thread) (env : Env) {op : HalOp} (plain : Plain op) (world : World) :
    (exec t env op world).2.info.events = world.info.events := by
  cases op with
  | newCommand type id =>
      simp only [exec]
      split <;> rfl
  | requestResponse this request => exact plain.elim
  | registerVendorHandler this event => exact plain.elim
  | unregisterVendorHandler this event => exact plain.elim
  | wifiRegisterCmd id cmd =>
      by_cases room : world.info.cmds.length < world.info.cmd.alloc
      · obtain ⟨_, _, eventCb, _⟩ := world.registerCmd_of_room t id cmd room
        exact congrArg CompactArray.toList eventCb
      · simp only [exec]
        rw [(world.registerCmd_of_full t id cmd room).2]
  | wifiUnregisterCmd owner id =>
      simp only [exec, World.unregisterCmd_info]
      rfl
  | cancel this => exact plain.elim
  | findAndAddRef msg => simp [exec]
  | handleEvent this => simp [exec]
  | handleAttrs this attrs => simp [exec]
  | id this => simp [exec]
  | releaseRef this => simp [exec]
  | beginCleanup => simp [exec]
  | cmdAt index => simp [exec]
  | _ => rfl

/-! ## The invariant -/

/-- A handler that was stored is there, and was stored before the acknowledgement
unless the command registers late. -/
structure Served (cmd : Ptr) (event : VendorEvent) (world : World) : Prop where
  stored : .registered event cmd ∈ world.log → vendorEntry event cmd ∈ world.info.events
  early : registersLate (world.heap cmd).mType = false → .registered event cmd ∈ world.log

/-- Every handler is that of a command, no event has two, and subscriptions that
have not ended are served. -/
structure Subscribed (world : World) : Prop where
  wellFormed : world.WellFormed
  entries : ∀ entry ∈ world.info.events, ∃ event cmd, entry = vendorEntry event cmd
  single : world.info.events.Pairwise fun entry entry' =>
    ∀ event, isEventEntry event entry = true → isEventEntry event entry' = false
  served : ∀ cmd, cmd < world.next → Acknowledged cmd world →
    ∀ event ∈ (world.heap cmd).mType.events, Ended cmd world ∨ Served cmd event world
  exist : ∀ cmd request, .acknowledged cmd request ∈ world.log → cmd < world.next
  recorded : ∀ event cmd, .registered event cmd ∈ world.log → cmd < world.next
  begun : ∀ cmd, .cancelled cmd ∈ world.log → cmd < world.next

theorem Ended.mono {world world' : World} {cmd : Ptr} (ended : Ended cmd world)
    (exists_cmd : cmd < world.next) (log : world.log ⊆ world'.log)
    (begun : ∀ cmd, .cancelled cmd ∈ world.log → cmd < world.next)
    (same : ∀ other, other < world.next → static world' other = static world other) :
    Ended cmd world' := by
  rcases ended with completed | ⟨this, cancelled, endsFor⟩
  · exact Or.inl (log completed)
  · refine Or.inr ⟨this, log cancelled, endsFor.imp_right fun later => ?_⟩
    obtain ⟨order, type, id⟩ := later
    obtain ⟨typeThis, idThis⟩ := Prod.mk.inj (same this (begun this cancelled))
    obtain ⟨typeCmd, idCmd⟩ := Prod.mk.inj (same cmd exists_cmd)
    refine ⟨order, ?_, ?_⟩
    · rw [typeThis, typeCmd, type]
    · rw [typeThis, idThis, idCmd]
      exact id

namespace Subscribed

variable {world world' : World}

theorem find?_eq (inv : Subscribed world) {event : VendorEvent} {cmd : Ptr}
    (member : vendorEntry event cmd ∈ world.info.events) (search : CbInfo → Bool)
    (searches : ∀ event' cmd', search (vendorEntry event' cmd') = decide (event' = event)) :
    world.info.events.find? search = some (vendorEntry event cmd) := by
  have shapes := inv.entries
  have single := inv.single
  generalize world.info.events = events at member shapes single
  induction events with
  | nil => exact absurd member List.not_mem_nil
  | cons entry rest ih =>
      obtain ⟨alone, others⟩ := List.pairwise_cons.mp single
      rw [List.forall_mem_cons] at shapes
      rcases List.mem_cons.mp member with rfl | inRest
      · exact List.find?_cons_of_pos (by simp [searches])
      · obtain ⟨event', cmd', rfl⟩ := shapes.1
        have other : event' ≠ event := by
          rintro rfl
          have absent := alone _ inRest event' (by simp)
          simp at absent
        rw [List.find?_cons_of_neg (by simp [searches, other])]
        exact ih inRest shapes.2 others

theorem frame (inv : Subscribed world) (wellFormed : world'.WellFormed)
    (events : world'.info.events = world.info.events) (next : world.next ≤ world'.next)
    (same : ∀ cmd, cmd < world.next → static world' cmd = static world cmd)
    (log : world.log ⊆ world'.log)
    (registered : ∀ event cmd, .registered event cmd ∈ world'.log →
      .registered event cmd ∈ world.log)
    (acknowledged : ∀ cmd request, .acknowledged cmd request ∈ world'.log →
      .acknowledged cmd request ∈ world.log)
    (begun : ∀ cmd, .cancelled cmd ∈ world'.log → cmd < world'.next) : Subscribed world' where
  wellFormed := wellFormed
  entries := by
    rw [events]
    exact inv.entries
  single := by
    rw [events]
    exact inv.single
  served := by
    rintro cmd _ ⟨request, isEnabling, isAcknowledged⟩ event subscribes
    have isAcknowledged := acknowledged cmd request isAcknowledged
    have exists_cmd := inv.exist cmd request isAcknowledged
    obtain ⟨type, _⟩ := Prod.mk.inj (same cmd exists_cmd)
    rw [type] at isEnabling subscribes
    rcases inv.served cmd exists_cmd ⟨request, isEnabling, isAcknowledged⟩ event subscribes with
      ended | served
    · exact Or.inl (ended.mono exists_cmd log inv.begun same)
    · refine Or.inr ⟨fun isRegistered => ?_, fun early => ?_⟩
      · rw [events]
        exact served.stored (registered event cmd isRegistered)
      · rw [type] at early
        exact log (served.early early)
  exist := fun cmd request isAcknowledged =>
    (inv.exist cmd request (acknowledged cmd request isAcknowledged)).trans_le next
  recorded := fun event cmd isRegistered =>
    (inv.recorded event cmd (registered event cmd isRegistered)).trans_le next
  begun := begun

theorem plain (inv : Subscribed world) {op : HalOp} (isPlain : Plain op)
    (stores : op.Stores world.next) (t : Thread) (env : Env) :
    Subscribed (exec t env op world).2 := by
  obtain ⟨wellFormed, next⟩ := inv.wellFormed.exec op stores (Nat.le_refl _) t env
  have recorded := exec_record t env isPlain world
  exact inv.frame wellFormed (exec_events t env isPlain world) next
    (fun cmd exists_cmd => exec_static t env op world exists_cmd) (exec_log t env op world)
    (fun _ _ => (mem_log_iff_of_record recorded rfl).mp)
    (fun _ _ => (mem_log_iff_of_record recorded rfl).mp)
    fun cmd cancelled =>
      (inv.begun cmd ((mem_log_iff_of_record recorded rfl).mp cancelled)).trans_le next

theorem cancel (inv : Subscribed world) {this : Ptr} (exists_this : this < world.next)
    (t : Thread) (env : Env) : Subscribed (exec t env (.cancel this) world).2 := by
  obtain ⟨wellFormed, next⟩ :=
    inv.wellFormed.exec (.cancel this) trivial (Nat.zero_le world.next) t env
  have recorded : record (world.touch this) = record world := by
    unfold World.touch
    split <;> rfl
  refine inv.frame wellFormed (by simp [exec]) next
    (fun cmd exists_cmd => exec_static t env _ world exists_cmd) (exec_log t env _ world) ?_ ?_ ?_
  · intro event cmd member
    exact (mem_log_iff_of_record recorded rfl).mp (by simpa [exec] using member)
  · intro cmd request member
    exact (mem_log_iff_of_record recorded rfl).mp (by simpa [exec] using member)
  · intro cmd cancelled
    rcases List.mem_cons.mp cancelled with new | old
    · obtain rfl : cmd = this := by simpa using new
      exact exists_this.trans_le next
    · exact (inv.begun cmd ((mem_log_iff_of_record recorded rfl).mp old)).trans_le next

/-- An acknowledgement, when the handlers that the command has registered are
stored, and all are unless it registers late. -/
theorem acknowledge (inv : Subscribed world) {this : Ptr} {request : Request}
    (exists_this : this < world.next)
    (ready : request ∈ enabling (world.heap this).mType →
      ∀ event ∈ (world.heap this).mType.events, Ended this world ∨ Served this event world) :
    Subscribed (world.note (.acknowledged this request)) where
  wellFormed := inv.wellFormed.sameTables rfl (Nat.le_refl _)
  entries := inv.entries
  single := inv.single
  served := by
    rintro cmd exists_cmd ⟨request', isEnabling, isAcknowledged⟩ event subscribes
    have before : Ended cmd world ∨ Served cmd event world := by
      rcases List.mem_cons.mp isAcknowledged with new | old
      · obtain ⟨rfl, rfl⟩ : cmd = this ∧ request' = request := by simpa using new
        exact ready isEnabling event subscribes
      · exact inv.served cmd exists_cmd ⟨request', isEnabling, old⟩ event subscribes
    rcases before with ended | served
    · exact Or.inl (ended.mono exists_cmd (List.subset_cons_self _ _) inv.begun fun _ _ => rfl)
    · refine Or.inr ⟨fun isRegistered => served.stored (by simpa using isRegistered), fun early => ?_⟩
      exact List.mem_cons_of_mem _ (served.early early)
  exist := by
    intro cmd request' isAcknowledged
    rcases List.mem_cons.mp isAcknowledged with new | old
    · obtain ⟨rfl, rfl⟩ : cmd = this ∧ request' = request := by simpa using new
      exact exists_this
    · exact inv.exist cmd request' old
  recorded := fun event cmd isRegistered => inv.recorded event cmd (by simpa using isRegistered)
  begun := fun cmd cancelled => inv.begun cmd (by simpa using cancelled)

theorem register (inv : Subscribed world) {this : Ptr} {event : VendorEvent}
    (exists_this : this < world.next)
    (free : ∀ entry ∈ world.info.events, isEventEntry event entry = false)
    (room : world.info.events.length < defaultEventCbSize) :
    Subscribed (world.registerVendorHandler this event) ∧
      (world.registerVendorHandler this event).info.events =
        world.info.events ++ [vendorEntry event this] := by
  have stored : (world.registerVendorHandler this event).info.events =
      world.info.events ++ [vendorEntry event this] := by
    rw [World.registerVendorHandler_events, inv.wellFormed.allocEventCb, if_pos room]
  refine ⟨⟨inv.wellFormed.registerVendorHandler exists_this event, ?_, ?_, ?_, ?_, ?_, ?_⟩, stored⟩
  · rw [stored]
    intro entry member
    rcases List.mem_append.mp member with old | new
    · exact inv.entries entry old
    · exact ⟨event, this, List.mem_singleton.mp new⟩
  · rw [stored]
    refine List.pairwise_append.mpr ⟨inv.single, List.pairwise_singleton _ _, ?_⟩
    intro entry member entry' new event' here
    rw [List.mem_singleton] at new
    subst new
    rw [isEventEntry_vendorEntry, decide_eq_false_iff_not]
    rintro rfl
    rw [free entry member] at here
    contradiction
  · rintro cmd exists_cmd ⟨request, isEnabling, isAcknowledged⟩ event' subscribes
    have isAcknowledged : .acknowledged cmd request ∈ world.log := by
      simpa [World.registerVendorHandler] using isAcknowledged
    rcases inv.served cmd exists_cmd ⟨request, isEnabling, isAcknowledged⟩ event' subscribes with
      ended | served
    · exact Or.inl (ended.mono exists_cmd (List.subset_cons_self _ _) inv.begun fun _ _ => rfl)
    · refine Or.inr ⟨fun isRegistered => ?_, fun early => ?_⟩
      · rw [stored]
        rcases List.mem_cons.mp isRegistered with new | old
        · obtain ⟨rfl, rfl⟩ : event' = event ∧ cmd = this := by simpa using new
          exact List.mem_append_right _ List.mem_cons_self
        · exact List.mem_append_left _ (served.stored old)
      · exact List.mem_cons_of_mem _ (served.early early)
  · intro cmd request isAcknowledged
    exact inv.exist cmd request (by simpa [World.registerVendorHandler] using isAcknowledged)
  · intro event' cmd isRegistered
    rcases List.mem_cons.mp isRegistered with new | old
    · obtain ⟨rfl, rfl⟩ : event' = event ∧ cmd = this := by simpa using new
      exact exists_this
    · exact inv.recorded event' cmd old
  · intro cmd cancelled
    exact inv.begun cmd (by simpa [World.registerVendorHandler] using cancelled)

/-- A removal that ends a subscription at most. -/
theorem unregister (inv : Subscribed world) {this : Ptr} {event : VendorEvent}
    (admitted : RemovesEnded this event world)
    (ended : Acknowledged this world → Ended this world) :
    Subscribed (world.unregisterVendorHandler event) := by
  have removed := World.unregisterVendorHandler_events world event
  have sublist : (world.unregisterVendorHandler event).info.events.Sublist world.info.events := by
    rw [removed]
    exact List.eraseP_sublist
  have wellFormed : (world.unregisterVendorHandler event).WellFormed :=
    inv.wellFormed.shrink sublist.subset (List.Subset.refl _)
      (World.unregisterVendorHandler_alloc world event) rfl (Nat.le_refl _)
  refine ⟨wellFormed, fun entry member => inv.entries entry (sublist.subset member),
    inv.single.sublist sublist, ?_, inv.exist, inv.recorded, inv.begun⟩
  intro cmd exists_cmd isAcknowledged event' subscribes
  rcases inv.served cmd exists_cmd isAcknowledged event' subscribes with isEnded | served
  · exact Or.inl isEnded
  · by_cases same : event' = event
    · subst same
      by_cases registered : .registered event' cmd ∈ world.log
      · -- the handler that goes is that of the command
        have found := inv.find?_eq (served.stored registered) (isEventEntry event')
          fun event cmd => isEventEntry_vendorEntry event' event cmd
        rcases admitted _ found cmd rfl with rfl | ⟨cancelled, endsFor⟩
        · exact Or.inl (ended isAcknowledged)
        · exact Or.inl (Or.inr ⟨this, cancelled, endsFor⟩)
      · exact Or.inr ⟨fun isRegistered => absurd isRegistered registered, served.early⟩
    · refine Or.inr ⟨fun registered => ?_, served.early⟩
      rw [removed]
      exact (List.mem_eraseP_of_neg (by simp [same])).mpr (served.stored registered)

end Subscribed

end Mt6757.WifiHal.Subscription
