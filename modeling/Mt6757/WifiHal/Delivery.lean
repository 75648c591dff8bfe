import Mt6757.WifiHal.CommandTable
import Mt6757.WifiHal.Subscription

/-!
# Delivery in every interleaving

`start` leaves the subscription of its command served, whatever the event thread
dispatches meanwhile, and the other calls end subscriptions only by cancelling
them.  So an event that is not dispatched in the window between acknowledgement
and registration reaches the command that subscribed to it.
-/

set_option autoImplicit false

namespace Mt6757.WifiHal.Subscription

open CommandTree KeyedList

/-! ## The discipline -/

/-- The event thread unregisters handlers of range requests only. -/
structure EventMoves (world world' : World) : Prop where
  events : world'.info.events.Sublist world.info.events
  kept : ∀ event cmd, event ≠ .rttEventComplete → vendorEntry event cmd ∈ world.info.events →
    vendorEntry event cmd ∈ world'.info.events
  next : world'.next = world.next
  same : ∀ cmd, cmd < world.next → static world' cmd = static world cmd
  log : world.log ⊆ world'.log
  record : record world' = record world

structure ApiMoves (world world' : World) : Prop where
  next : world.next ≤ world'.next
  log : world.log ⊆ world'.log

theorem EventMoves.refl (world : World) : EventMoves world world :=
  ⟨List.Sublist.refl _, fun _ _ _ member => member, rfl, fun _ _ => rfl, List.Subset.refl _, rfl⟩

theorem EventMoves.trans {world world' world'' : World} (first : EventMoves world world')
    (second : EventMoves world' world'') : EventMoves world world'' where
  events := second.events.trans first.events
  kept := fun event cmd other member => second.kept event cmd other (first.kept event cmd other member)
  next := second.next.trans first.next
  same := fun cmd exists_cmd =>
    (second.same cmd (exists_cmd.trans_eq first.next.symm)).trans (first.same cmd exists_cmd)
  log := List.Subset.trans first.log second.log
  record := second.record.trans first.record

theorem ApiMoves.trans {world world' world'' : World} (first : ApiMoves world world')
    (second : ApiMoves world' world'') : ApiMoves world world'' :=
  ⟨first.next.trans second.next, List.Subset.trans first.log second.log⟩

def serving : Discipline Thread HalOp Res Int World where
  sem := guarded side.op exec
  inv := Subscribed
  rely := fun t => match t with
    | .api => EventMoves
    | .event => ApiMoves
  guar := fun t => match t with
    | .api => ApiMoves
    | .event => EventMoves
  post := fun _ _ _ => True
  rely_refl := fun t world => by
    cases t with
    | api => exact .refl world
    | event => exact ⟨Nat.le_refl _, List.Subset.refl _⟩
  rely_trans := fun t _ _ _ first second => by
    cases t with
    | api => exact EventMoves.trans first second
    | event => exact ApiMoves.trans first second
  guar_rely := fun t u _ _ differ moved => by
    cases t with
    | api =>
        cases u with
        | api => exact absurd rfl differ
        | event => exact moved
    | event =>
        cases u with
        | api => exact moved
        | event => exact absurd rfl differ
  post_stable := fun _ _ _ _ _ _ => trivial

/-! ## The event thread -/

section Event

variable {world : World}

/-- The operations of a dispatch, when these observations have been made. -/
def DispatchesAfter (noted : List Observation) : HalOp → Prop
  | .unregisterVendorHandler this event => event = .rttEventComplete ∧ .completed this ∈ noted
  | op => op.Dispatches

theorem DispatchesAfter.mono {noted noted' : List Observation} (isNoted : noted ⊆ noted')
    {op : HalOp} (dispatches : DispatchesAfter noted op) : DispatchesAfter noted' op := by
  cases op with
  | unregisterVendorHandler this event =>
      exact ⟨dispatches.1, isNoted dispatches.2⟩
  | _ => exact dispatches

theorem exec_dispatches (inv : Subscribed world) {op : HalOp}
    (dispatches : DispatchesAfter world.log op) (admitted : side.op .event op world)
    (env : Env) :
    Subscribed (exec .event env op world).2 ∧
      EventMoves world (exec .event env op world).2 := by
  have log := exec_log .event env op world
  have same : ∀ cmd, cmd < world.next →
      static (exec .event env op world).2 cmd = static world cmd :=
    fun cmd exists_cmd => exec_static .event env op world exists_cmd
  have next : (exec .event env op world).2.next = world.next := by
    cases op <;> first | exact dispatches.elim | rfl | simp [exec]
  have plain : (∀ this event, op ≠ .unregisterVendorHandler this event) → Plain op := by
    intro other
    cases op <;> first | exact dispatches.elim | exact absurd rfl (other _ _) | trivial
  by_cases unregisters : ∃ this event, op = .unregisterVendorHandler this event
  · obtain ⟨this, event, rfl⟩ := unregisters
    obtain ⟨rfl, isCompleted⟩ := dispatches
    refine ⟨inv.unregister admitted fun _ => Or.inl isCompleted, ?_, ?_, next, same, log, rfl⟩
    · simp only [exec, World.unregisterVendorHandler_events]
      exact List.eraseP_sublist
    · intro event cmd other member
      simp only [exec, World.unregisterVendorHandler_events]
      exact (List.mem_eraseP_of_neg (by simp [other])).mpr member
  · have isPlain := plain fun this event same => unregisters ⟨this, event, same⟩
    have events := exec_events .event env isPlain world
    refine ⟨inv.plain isPlain ?_ .event env, ?_, ?_, next, same, log,
      exec_record .event env isPlain world⟩
    · cases op <;> first | exact dispatches.elim | trivial
    · rw [events]
    · rw [events]
      exact fun _ _ _ member => member

theorem wp_dispatching {α : Type} (noted : List Observation) {program : Hal α}
    (ops : program.AllOps (DispatchesAfter noted)) (isNoted : noted ⊆ world.log) :
    serving.wp .event program (fun _ _ => True) world := by
  refine serving.wp_mono .event program (serving.wp_of_allOps .event
    (fun world => noted ⊆ world.log) (fun _ _ kept moved => List.Subset.trans kept moved.log)
    ?_ program ops isNoted) fun _ _ _ => trivial
  rintro op before result after dispatches kept inv ⟨admitted, env, does⟩
  obtain ⟨inv', moves⟩ := exec_dispatches inv (dispatches.mono kept) admitted env
  rw [does] at inv' moves
  exact ⟨inv', moves, List.Subset.trans kept moves.log⟩

theorem wp_rttHandleEvent (cmd : Ptr) (attrs : List RttAttr) :
    serving.wp .event (RttCommand.handleEvent cmd attrs) (fun _ _ => True) world := by
  rintro before _ inv completed after ⟨admitted, env, does⟩
  have dispatches : DispatchesAfter before.log (.handleAttrs cmd attrs) := trivial
  obtain ⟨inv', moves⟩ := exec_dispatches inv dispatches admitted env
  have result := congrArg Prod.fst does
  rw [does] at inv' moves
  refine ⟨inv', moves, ?_⟩
  cases completed with
  | false => trivial
  | true =>
      have isNoted : [.completed cmd] ⊆ after.log := by
        obtain rfl : (before.handleAttrs cmd attrs).2 = after := congrArg Prod.snd does
        simp only [exec, World.handleAttrs] at result ⊢
        split
        · rename_i zero
          rw [if_pos zero] at result
          contradiction
        · simp
      refine wp_dispatching [.completed cmd] ?_ isNoted
      refine .performThen ⟨rfl, List.mem_cons_self⟩ fun _ => .performThen trivial fun _ =>
        .performThen trivial fun id => .performThen trivial fun found => ?_
      split
      · trivial
      · exact .performThen trivial fun _ => trivial

theorem wp_callback (entry : CbInfo) (msg : NlMsg) :
    serving.wp .event (callback entry msg) (fun _ _ => True) world := by
  unfold callback
  split
  · rename_i cmd _ _
    split
    · rintro before _ inv type after ⟨admitted, env, does⟩
      have dispatches : DispatchesAfter before.log (.handleEvent cmd) := trivial
      obtain ⟨inv', moves⟩ := exec_dispatches inv dispatches admitted env
      rw [does] at inv' moves
      refine ⟨inv', moves, ?_⟩
      dsimp only [Prog.bind]
      split
      · exact wp_rttHandleEvent cmd msg.vendorData
      · trivial
    · trivial
  · trivial

theorem wp_internalValidMessageHandler (msg : NlMsg) :
    serving.wp .event (internalValidMessageHandler msg) (fun _ _ => True) world := by
  unfold internalValidMessageHandler
  split
  · trivial
  rintro before _ inv found after ⟨admitted, env, does⟩
  have dispatches : DispatchesAfter before.log (.findAndAddRef msg) := trivial
  obtain ⟨inv', moves⟩ := exec_dispatches inv dispatches admitted env
  rw [does] at inv' moves
  refine ⟨inv', moves, ?_⟩
  cases found with
  | none => trivial
  | some entry =>
      refine (serving.wp_bind .event (callback entry msg) _ _ _).mpr ?_
      refine serving.wp_mono .event _ (wp_callback entry msg) fun _ world _ => ?_
      refine wp_dispatching [] ?_ (List.nil_subset _)
      split
      · trivial
      · exact .performThen trivial fun _ => trivial

end Event

/-! ## Calls that end a subscription -/

section Stop

variable {world : World}

theorem exec_plain (inv : Subscribed world) {op : HalOp} (plain : Plain op)
    (stores : op.Stores world.next) (env : Env) :
    Subscribed (exec .api env op world).2 ∧ ApiMoves world (exec .api env op world).2 :=
  ⟨inv.plain plain stores .api env,
    (inv.wellFormed.exec op stores (Nat.le_refl _) .api env).2, exec_log .api env op world⟩

theorem wp_plain {α : Type} {program : Hal α}
    (ops : program.AllOps fun op => Plain op ∧ ∀ bound, op.Stores bound) :
    serving.wp .api program (fun _ _ => True) world := by
  refine serving.wp_of_allOps .api (fun _ => True) (fun _ _ _ _ => trivial) ?_ program ops trivial
  rintro op before result after ⟨plain, stores⟩ _ inv ⟨_, env, does⟩
  obtain ⟨inv', moves⟩ := exec_plain inv plain (stores before.next) env
  rw [does] at inv' moves
  exact ⟨inv', moves, trivial⟩

/-- The operations of a call that has begun to cancel a command. -/
def Withdraws (cmd : Ptr) : HalOp → Prop
  | .createRequest this _ => this = cmd
  | .requestResponse this _ => this = cmd
  | .unregisterVendorHandler this _ => this = cmd
  | .cancel this => this = cmd
  | .releaseRef this => this = cmd
  | _ => False

theorem wp_withdrawing {cmd : Ptr} {α : Type} {program : Hal α}
    (ops : program.AllOps (Withdraws cmd)) (cancelled : .cancelled cmd ∈ world.log) :
    serving.wp .api program (fun _ _ => True) world := by
  refine serving.wp_mono .api program (serving.wp_of_allOps .api
    (fun world => .cancelled cmd ∈ world.log) (fun _ _ kept moved => moved.log kept)
    ?_ program ops cancelled) fun _ _ _ => trivial
  rintro op before result after withdraws kept inv ⟨admitted, env, does⟩
  have log := exec_log .api env op before
  have ended : Ended cmd before := Or.inr ⟨cmd, kept, Or.inl rfl⟩
  have wellFormed : Subscribed (exec .api env op before).2 ∧
      before.next ≤ (exec .api env op before).2.next := by
    cases op with
    | createRequest this request => exact ⟨inv, Nat.le_refl _⟩
    | requestResponse this request =>
        obtain rfl : this = cmd := withdraws
        simp only [exec]
        split
        · exact ⟨inv.acknowledge (inv.begun this kept) fun _ _ _ => Or.inl ended, Nat.le_refl _⟩
        · exact ⟨inv, Nat.le_refl _⟩
    | unregisterVendorHandler this event =>
        obtain rfl : this = cmd := withdraws
        exact ⟨inv.unregister admitted fun _ => ended, Nat.le_refl _⟩
    | cancel this =>
        obtain rfl : this = cmd := withdraws
        exact ⟨inv.cancel (inv.begun this kept) .api env,
          (inv.wellFormed.exec (.cancel this) trivial (Nat.zero_le before.next) .api env).2⟩
    | releaseRef this =>
        have plain : Plain (.releaseRef this) := trivial
        obtain ⟨inv', moves⟩ := exec_plain inv plain trivial env
        exact ⟨inv', moves.next⟩
    | _ => exact withdraws.elim
  rw [does] at wellFormed log
  exact ⟨wellFormed.1, ⟨wellFormed.2, log⟩, log kept⟩

theorem wp_cancelAndRelease {cmd : Ptr} (exists_cmd : cmd < world.next) (result : Int) :
    serving.wp .api (WifiHal.cancel cmd >>= fun _ => releaseRef cmd >>= fun _ => .ret result)
      (fun _ _ => True) world := by
  rintro before moved inv type after ⟨_, env, does⟩
  have moved : EventMoves world before := moved
  have log := exec_log .api env (.cancel cmd) before
  have next := (inv.wellFormed.exec (.cancel cmd) trivial (Nat.zero_le before.next) .api env).2
  have inv' := inv.cancel (exists_cmd.trans_eq moved.next.symm) .api env
  rw [does] at log next inv'
  refine ⟨inv', ⟨next, log⟩, ?_⟩
  have cancelled : .cancelled cmd ∈ after.log := by
    obtain rfl : (before.touch cmd).note (.cancelled cmd) = after := congrArg Prod.snd does
    exact List.mem_cons_self
  refine wp_withdrawing ?_ cancelled
  refine Prog.AllOps.bind ?_ fun _ => .performThen rfl fun _ => trivial
  exact (cancelBody_allOps cmd type.cancelScript).mono fun op cancels => by
    cases op <;> first | exact cancels.elim | exact cancels

theorem wp_newCommand {α : Type} {type : CommandType} {id : Int32} {after : Option Ptr → Hal α}
    (failed : ∀ world, serving.wp .api (after none) (fun _ _ => True) world)
    (rest : ∀ before cmd world', EventMoves world before → Subscribed before →
      cmd = before.next → world' = before.newCommand .api type id →
        serving.wp .api (after (some cmd)) (fun _ _ => True) world') :
    serving.wp .api (perform (.newCommand type id) >>= after) (fun _ _ => True) world := by
  rintro before moved inv created later ⟨_, env, does⟩
  have plain : Plain (.newCommand type id) := trivial
  obtain ⟨inv', moves⟩ := exec_plain inv plain trivial env
  rw [does] at inv' moves
  refine ⟨inv', moves, ?_⟩
  cases created with
  | none => exact failed later
  | some cmd =>
      obtain ⟨isNew, isLater⟩ := exec_newCommand does
      exact rest before cmd later moved inv isNew isLater

theorem wp_cancelTemporary (type : CommandType) (id : Int32) :
    serving.wp .api (cancelTemporary type id) (fun _ _ => True) world := by
  refine wp_newCommand (fun _ => trivial) ?_
  rintro before _ _ _ _ rfl rfl
  exact wp_cancelAndRelease (Nat.lt_succ_self _) wifiSuccess

theorem wp_wifiCancelCmd (id : Int32) :
    serving.wp .api (wifiCancelCmd id) (fun _ _ => True) world := by
  rintro before _ inv found after ⟨_, env, does⟩
  have plain : Plain (.wifiUnregisterCmd none id) := trivial
  obtain ⟨inv', moves⟩ := exec_plain inv plain trivial env
  obtain rfl : (wifiUnregisterCmd before.info id).1 = found := congrArg Prod.fst does
  rw [does] at inv' moves
  refine ⟨inv', moves, ?_⟩
  cases found : (wifiUnregisterCmd before.info id).1 with
  | none => trivial
  | some cmd =>
      rw [wifiUnregisterCmd_found, Option.map_eq_some_iff] at found
      obtain ⟨entry, found, rfl⟩ := found
      have exists_cmd := inv.wellFormed.cmds entry (List.mem_of_find?_eq_some found)
      exact wp_cancelAndRelease (exists_cmd.trans_le moves.next) wifiSuccess

theorem wp_ending {type : CommandType} {id : Int32} {body : Hal Int}
    (ended : serving.wp .api body (fun _ _ => True) world) :
    serving.wp .api (ending type id body) (fun _ _ => True) world := by
  unfold ending
  rw [Discipline.wp_bind]
  refine serving.wp_mono .api body ended fun result world _ => ?_
  exact wp_plain (.performThen ⟨trivial, fun _ => trivial⟩ fun _ => trivial)

end Stop

/-! ## Starting -/

def noRequests : List Stmt → Bool
  | [] => true
  | .create _ :: _ => false
  | .exchange _ :: _ => false
  | _ :: rest => noRequests rest

/-- The enabling request is the last one, and unless the command registers late
everything is registered before it. -/
def enablesLast (type : CommandType) : (done : List VendorEvent) → List Stmt → Bool
  | _, [] => true
  | done, .exchange request :: rest =>
      (enabling type != some request ||
        noRequests rest && decide (.rttEventComplete ∉ done) &&
          (registersLate type || (registrations rest).isEmpty)) &&
        enablesLast type done rest
  | done, .register event :: rest => enablesLast type (done ++ [event]) rest
  | done, _ :: rest => enablesLast type done rest

theorem enablesLast_start (type : CommandType) :
    enablesLast type [] type.startScript = true := by
  cases type <;> decide

theorem registrations_nodup (type : CommandType) : (registrations type.startScript).Nodup := by
  cases type <;> decide

/-- What `start` knows before the statements of `script`, with `result` at hand. -/
structure Starting (type : CommandType) (cmd : Ptr) (done : List VendorEvent)
    (script : List Stmt) (result : Int) (world : World) : Prop where
  exists_cmd : cmd < world.next
  isType : (world.heap cmd).mType = type
  recorded : ∀ event, .registered event cmd ∈ world.log ↔ event ∈ done
  stored : ∀ event ∈ done, event ≠ .rttEventComplete →
    vendorEntry event cmd ∈ world.info.events
  clear : ClearFor (registrations script) world
  acknowledged : ∀ request ∈ enabling type, .acknowledged cmd request ∈ world.log →
    result = wifiSuccess ∧ noRequests script = true

theorem ClearFor.sublist {events events' : List VendorEvent} {world world' : World}
    (clear : ClearFor events world) (fewer : events'.Sublist events)
    (removed : world'.info.events.Sublist world.info.events) : ClearFor events' world' := by
  refine ⟨fun event member entry inTable =>
    clear.1 event (fewer.subset member) entry (removed.subset inTable), ?_⟩
  have lengths := fewer.length_le
  have lengths' := removed.length_le
  have room := clear.2
  omega

section Start

variable {type : CommandType} {cmd : Ptr} {done : List VendorEvent} {script : List Stmt}
  {result : Int} {world world' : World}

theorem Starting.rely (starting : Starting type cmd done script result world)
    (moved : EventMoves world world') : Starting type cmd done script result world' where
  exists_cmd := starting.exists_cmd.trans_eq moved.next.symm
  isType := (Prod.mk.inj (moved.same cmd starting.exists_cmd)).1.trans starting.isType
  recorded := fun event =>
    (mem_log_iff_of_record moved.record rfl).trans (starting.recorded event)
  stored := fun event member other =>
    moved.kept event cmd other (starting.stored event member other)
  clear := starting.clear.sublist (List.Sublist.refl _) moved.events
  acknowledged := fun request isEnabling isAcknowledged =>
    starting.acknowledged request isEnabling
      ((mem_log_iff_of_record moved.record rfl).mp isAcknowledged)

/-- A command that is not acknowledged takes its handlers back. -/
theorem wp_rollback {rollback : List VendorEvent} (exists_cmd : cmd < world.next)
    (unacknowledged : ¬ Acknowledged cmd world) :
    serving.wp .api (unregisterAll cmd rollback) (fun _ _ => True) world := by
  have ops : (unregisterAll cmd rollback).AllOps
      (fun op => ∃ event, op = .unregisterVendorHandler cmd event) :=
    unregisterAll_allOps cmd rollback fun event => ⟨event, rfl⟩
  refine serving.wp_mono .api _ (serving.wp_of_allOps .api
    (fun world => cmd < world.next ∧ ¬ Acknowledged cmd world) ?_ ?_ _ ops
    ⟨exists_cmd, unacknowledged⟩) fun _ _ _ => trivial
  · rintro before after ⟨exists_cmd, unacknowledged⟩ moved
    have moved : EventMoves before after := moved
    refine ⟨exists_cmd.trans_eq moved.next.symm, ?_⟩
    rintro ⟨request, isEnabling, isAcknowledged⟩
    rw [(Prod.mk.inj (moved.same cmd exists_cmd)).1] at isEnabling
    exact unacknowledged ⟨request, isEnabling,
      (mem_log_iff_of_record moved.record rfl).mp isAcknowledged⟩
  · rintro _ before _ after ⟨event, rfl⟩ ⟨exists_cmd, unacknowledged⟩ inv ⟨admitted, env, does⟩
    obtain rfl : before.unregisterVendorHandler event = after := congrArg Prod.snd does
    exact ⟨inv.unregister admitted fun isAcknowledged => absurd isAcknowledged unacknowledged,
      ⟨Nat.le_refl _, List.Subset.refl _⟩, exists_cmd, unacknowledged⟩

section Statements

variable {request : Request} {event : VendorEvent} {stmt : Stmt} {rest : List Stmt}

theorem Starting.unacknowledged (starting : Starting type cmd done script result world)
    (toCome : noRequests script = false) {other : Request} (isEnabling : other ∈ enabling type) :
    .acknowledged cmd other ∉ world.log := by
  intro isAcknowledged
  have none := (starting.acknowledged other isEnabling isAcknowledged).2
  rw [toCome] at none
  contradiction

theorem Starting.unanswered (starting : Starting type cmd done (stmt :: rest) result world)
    (toCome : noRequests (stmt :: rest) = false)
    (same : registrations (stmt :: rest) = registrations rest) (result' : Int) :
    Starting type cmd done rest result' world where
  exists_cmd := starting.exists_cmd
  isType := starting.isType
  recorded := starting.recorded
  stored := starting.stored
  clear := same ▸ starting.clear
  acknowledged _ isEnabling isAcknowledged :=
    absurd isAcknowledged (starting.unacknowledged toCome isEnabling)

/-- The enabling request finds everything registered that has to be. -/
theorem Starting.acknowledge (inv : Subscribed world)
    (starting : Starting type cmd done (.exchange request :: rest) result world)
    (split : done ++ registrations rest = registrations type.startScript)
    (enables : enabling type ≠ some request ∨
      (noRequests rest = true ∧ .rttEventComplete ∉ done) ∧
        (registersLate type = true ∨ registrations rest = [])) :
    Subscribed (world.note (.acknowledged cmd request)) ∧
      Starting type cmd done rest wifiSuccess (world.note (.acknowledged cmd request)) := by
  constructor
  · refine inv.acknowledge starting.exists_cmd fun isEnabling event subscribes => ?_
    rw [starting.isType] at isEnabling subscribes
    obtain ⟨⟨_, notRtt⟩, early⟩ := enables.resolve_left fun other => other isEnabling
    refine Or.inr ⟨fun registered => ?_, fun isEarly => ?_⟩
    · have isDone := (starting.recorded event).mp registered
      exact starting.stored event isDone fun isRtt => notRtt (isRtt ▸ isDone)
    · rw [starting.isType] at isEarly
      have noneLeft := early.resolve_left (by simp [isEarly])
      rw [noneLeft, List.append_nil] at split
      rw [starting.recorded, split]
      exact (registrations_perm_events type).symm.subset subscribes
  · refine ⟨starting.exists_cmd, starting.isType, fun event => ?_, starting.stored,
      starting.clear, fun other isEnabling isAcknowledged => ?_⟩
    · rw [← starting.recorded event]
      simp
    · rcases List.mem_cons.mp isAcknowledged with new | old
      · obtain rfl : other = request := by simpa using new
        obtain ⟨⟨noMore, _⟩, _⟩ := enables.resolve_left fun differ => differ isEnabling
        exact ⟨rfl, noMore⟩
      · exact absurd old (starting.unacknowledged rfl isEnabling)

theorem Starting.register (inv : Subscribed world)
    (starting : Starting type cmd done (.register event :: rest) result world)
    (split : done ++ event :: registrations rest = registrations type.startScript) :
    Subscribed (world.registerVendorHandler cmd event) ∧
      Starting type cmd (done ++ [event]) rest result
        (world.registerVendorHandler cmd event) := by
  have room := starting.clear.2
  rw [registrations, List.length_cons] at room
  obtain ⟨inv', stored⟩ := inv.register starting.exists_cmd
    (starting.clear.1 event List.mem_cons_self) (by omega)
  have distinct : event ∉ registrations rest := by
    have nodup := registrations_nodup type
    rw [← split, List.nodup_append] at nodup
    exact (List.nodup_cons.mp nodup.2.1).1
  refine ⟨inv', starting.exists_cmd, starting.isType, ?_, ?_, ⟨?_, ?_⟩, ?_⟩
  · intro other
    rw [List.mem_append, List.mem_singleton, ← starting.recorded other]
    simp [World.registerVendorHandler, or_comm]
  · intro other member notRtt
    rw [stored]
    rcases List.mem_append.mp member with old | new
    · exact List.mem_append_left _ (starting.stored other old notRtt)
    · rw [List.mem_singleton.mp new]
      exact List.mem_append_right _ List.mem_cons_self
  · intro other member entry inTable
    rw [stored] at inTable
    rcases List.mem_append.mp inTable with old | new
    · exact starting.clear.1 other (List.mem_cons_of_mem _ member) entry old
    · rw [List.mem_singleton.mp new, isEventEntry_vendorEntry, decide_eq_false_iff_not]
      exact fun same => distinct (same ▸ member)
  · rw [stored, List.length_append, List.length_singleton]
    omega
  · intro request isEnabling isAcknowledged
    exact starting.acknowledged request isEnabling
      (by simpa [World.registerVendorHandler] using isAcknowledged)

end Statements

theorem wp_startFrom (split : done ++ registrations script = registrations type.startScript)
    (last : enablesLast type done script = true) (nonpos : result ≤ 0)
    (starting : Starting type cmd done script result world) :
    serving.wp .api (startFrom cmd script result) (fun _ _ => True) world := by
  induction script generalizing done result world with
  | nil => trivial
  | cons stmt rest ih =>
      cases stmt with
      | create request =>
          rintro before moved inv created after ⟨_, env, does⟩
          obtain rfl : before = after := congrArg Prod.snd does
          obtain rfl : env.create request = created := congrArg Prod.fst does
          exact ⟨inv, ⟨Nat.le_refl _, List.Subset.refl _⟩, ih split last (env.create_nonpos _)
            ((starting.rely moved).unanswered rfl rfl _)⟩
      | exchange request =>
          simp only [enablesLast, Bool.and_eq_true, Bool.or_eq_true, bne_iff_ne, ne_eq,
            decide_eq_true_eq, List.isEmpty_iff] at last
          obtain ⟨enables, last⟩ := last
          rintro before moved inv answered after ⟨_, env, does⟩
          have starting := starting.rely moved
          obtain rfl : env.reply request = answered := congrArg Prod.fst does
          have does := congrArg Prod.snd does
          simp only [exec] at does
          split at does
          · rename_i success
            obtain rfl := does
            have success : env.reply request = wifiSuccess := success
            obtain ⟨inv', starting'⟩ := starting.acknowledge inv split enables
            rw [← success] at starting'
            exact ⟨inv', ⟨Nat.le_refl _, List.subset_cons_self _ _⟩,
              ih split last (env.reply_nonpos request) starting'⟩
          · obtain rfl := does
            exact ⟨inv, ⟨Nat.le_refl _, List.Subset.refl _⟩,
              ih split last (env.reply_nonpos request) (starting.unanswered rfl rfl _)⟩
      | register event =>
          rintro before moved inv _ after ⟨_, env, does⟩
          obtain rfl : before.registerVendorHandler cmd event = after := congrArg Prod.snd does
          obtain ⟨inv', starting'⟩ := (starting.rely moved).register inv split
          have split' : done ++ [event] ++ registrations rest =
              registrations type.startScript := by
            rw [← split, registrations, List.append_assoc, List.singleton_append]
          exact ⟨inv', ⟨Nat.le_refl _, List.subset_cons_self _ _⟩, ih split' last nonpos starting'⟩
      | check test rollback =>
          simp only [startFrom]
          split
          · rename_i failed
            rw [Discipline.wp_bind]
            refine serving.wp_mono .api _ (wp_rollback starting.exists_cmd ?_)
              fun _ _ _ => trivial
            rintro ⟨request, isEnabling, isAcknowledged⟩
            rw [starting.isType] at isEnabling
            have success := (starting.acknowledged request isEnabling isAcknowledged).1
            exact (test.fails_iff nonpos).mp failed success
          · exact ih split last nonpos ⟨starting.exists_cmd, starting.isType, starting.recorded,
              starting.stored, starting.clear, starting.acknowledged⟩

theorem Starting.plain (starting : Starting type cmd done script result world) {op : HalOp}
    (isPlain : Plain op) (env : Env) (next : world.next ≤ (exec .api env op world).2.next) :
    Starting type cmd done script result (exec .api env op world).2 where
  exists_cmd := starting.exists_cmd.trans_le next
  isType := (Prod.mk.inj (exec_static .api env op world starting.exists_cmd)).1.trans
    starting.isType
  recorded := fun event =>
    (mem_log_iff_of_record (exec_record .api env isPlain world) rfl).trans
      (starting.recorded event)
  stored := by
    rw [exec_events .api env isPlain world]
    exact starting.stored
  clear := starting.clear.sublist (List.Sublist.refl _)
    (by rw [exec_events .api env isPlain world])
  acknowledged := fun request isEnabling isAcknowledged =>
    starting.acknowledged request isEnabling
      ((mem_log_iff_of_record (exec_record .api env isPlain world) rfl).mp isAcknowledged)

theorem Starting.fresh (inv : Subscribed world) (clear : ClearFor type.events world)
    (id : Int32) :
    Starting type world.next [] type.startScript wifiSuccess
      (world.newCommand .api type id) where
  exists_cmd := Nat.lt_succ_self _
  isType := by simp [World.newCommand]
  recorded := fun event =>
    ⟨fun isRegistered => absurd (inv.recorded event _ isRegistered) (Nat.lt_irrefl _), nofun⟩
  stored := nofun
  clear := by
    have perm := registrations_perm_events type
    refine ⟨fun event member => clear.1 event (perm.subset member), ?_⟩
    rw [perm.length_eq]
    exact clear.2
  acknowledged := fun request _ isAcknowledged =>
    absurd (inv.exist _ request isAcknowledged) (Nat.lt_irrefl _)

theorem wp_wifiStart (id : Int32) (clear : ClearFor type.events world) :
    serving.wp .api (wifiStart type id) (fun _ _ => True) world := by
  refine wp_newCommand (fun _ => trivial) ?_
  rintro before _ _ moved inv rfl rfl
  have fresh := Starting.fresh inv (clear.sublist (List.Sublist.refl _) moved.events) id
  rintro before' moved' inv' registered after ⟨_, env, does⟩
  have starting := fresh.rely moved'
  have plain : Plain (.wifiRegisterCmd id before.next) := trivial
  obtain ⟨inv'', moves⟩ := exec_plain inv' plain starting.exists_cmd env
  have starting := starting.plain plain env moves.next
  rw [does] at inv'' moves starting
  refine ⟨inv'', moves, ?_⟩
  dsimp only [Prog.bind]
  split
  · refine (serving.wp_bind .api (start before.next type) _ _ _).mpr ?_
    have started := wp_startFrom rfl (enablesLast_start type) (Int.le_refl 0) starting
    refine serving.wp_mono .api _ started fun result world _ => ?_
    split
    · trivial
    · exact wp_plain (.performThen ⟨trivial, fun _ => trivial⟩ fun _ =>
        .performThen ⟨trivial, fun _ => trivial⟩ fun _ => trivial)
  · exact wp_plain (.performThen ⟨trivial, fun _ => trivial⟩ fun _ => trivial)

end Start

/-! ## Every run -/

theorem wp_calls {t : Thread} {program : Hal Int} {world : World}
    (called : Calls side t world program) : serving.wp t program (fun _ _ => True) world := by
  cases called with
  | api call _ admitted =>
      cases call with
      | start type id =>
          rw [ApiCall.program_start]
          exact wp_wifiStart id admitted
      | stop type id =>
          rw [ApiCall.program_stop]
          refine wp_ending ?_
          split
          · exact wp_cancelTemporary type _
          · exact wp_wifiCancelCmd id
  | event msg _ => exact wp_internalValidMessageHandler msg

theorem Subscribed.initial (eventFill : CbInfo) (cmdFill : CmdInfo) :
    Subscribed (.initial eventFill cmdFill) where
  wellFormed := .initial eventFill cmdFill
  entries := nofun
  single := .nil
  served := nofun
  exist := nofun
  recorded := nofun
  begun := nofun

theorem subscribed_of_reachable {pool : HalPool} (reached : ReachableWhen side pool) :
    Subscribed pool.shared := by
  obtain ⟨eventFill, cmdFill, reaches⟩ := reached
  have start : serving.Good (initialPool eventFill cmdFill) :=
    ⟨.initial eventFill cmdFill, fun _ => trivial⟩
  exact (serving.good_of_reaches (fun t program _ world called _ _ => wp_calls called)
    start reaches).1

/-- A message of an event is for the handlers of that event. -/
theorem isFor_vendorEntry {msg : NlMsg} {event : VendorEvent} {cmd : Ptr}
    (isFor : msg.isFor (vendorEntry event cmd) = true) (event' : VendorEvent) (cmd' : Ptr) :
    msg.isFor (vendorEntry event' cmd') = decide (event' = event) := by
  simp only [NlMsg.isFor, vendorEntry, Bool.and_eq_true, beq_iff_eq, Bool.not_eq_true',
    Bool.and_eq_false_iff, Bool.or_eq_false_iff, bne_eq_false_iff_eq] at isFor
  obtain ⟨vendor, different | ⟨oui, subcmd⟩⟩ := isFor
  · simp [vendor] at different
  · by_cases same : event' = event
    · simp [NlMsg.isFor, vendorEntry, vendor, oui, subcmd, same]
    · have other : event.subcmd ≠ event'.subcmd :=
        fun subcmds => same (VendorEvent.subcmd_injective subcmds.symm)
      simp [NlMsg.isFor, vendorEntry, vendor, oui, subcmd, same, other]

/-- The event thread is about to look for the handler of a message. -/
def Dispatching (msg : NlMsg) (fine : FinePool) : Prop :=
  0 ≤ msg.parsed ∧ fine.thread .event = commandTable.expand (internalValidMessageHandler msg)

/-- The dispatch of the message calls the `handleEvent` of the command. -/
def Delivered (msg : NlMsg) (cmd : Ptr) (world : World) : Prop :=
  ∃ entry, findHandler world.info msg = some entry ∧
    callback entry msg = handleEvent cmd msg.vendorData

/-- Every acknowledged subscription that the message is for gets it. -/
def DeliversTo (msg : NlMsg) (world : World) : Prop :=
  ∀ cmd, cmd < world.next → Acknowledged cmd world → ¬ Ended cmd world →
    ∀ event ∈ (world.heap cmd).mType.events, msg.isFor (vendorEntry event cmd) = true →
      Delivered msg cmd world

theorem delivered_of_stored {world : World} (inv : Subscribed world) {msg : NlMsg}
    {event : VendorEvent} {cmd : Ptr} (stored : vendorEntry event cmd ∈ world.info.events)
    (isFor : msg.isFor (vendorEntry event cmd) = true) : Delivered msg cmd world := by
  refine ⟨vendorEntry event cmd, ?_, rfl⟩
  rw [findHandler_eq]
  exact inv.find?_eq stored msg.isFor (isFor_vendorEntry isFor)

theorem deliversTo_of_reachable {pool : HalPool} (reached : ReachableWhen side pool) {msg : NlMsg}
    (admitted : NotInWindow msg pool.shared) : DeliversTo msg pool.shared := by
  intro cmd exists_cmd acknowledged live event subscribes isFor
  have inv := subscribed_of_reachable reached
  have served := (inv.served cmd exists_cmd acknowledged event subscribes).resolve_left live
  refine delivered_of_stored inv (served.stored ?_) isFor
  cases late : registersLate (pool.shared.heap cmd).mType with
  | false => exact served.early late
  | true => exact admitted cmd exists_cmd late acknowledged event subscribes isFor

/-- In every run under the conditions, a message whose dispatch meets them is
delivered. -/
theorem event_delivered {fine : FinePool} (reached : ApartReachable side fine) {msg : NlMsg}
    (admitted : side.op .event (.findAndAddRef msg) fine.shared.state) :
    DeliversTo msg fine.shared.state := by
  obtain ⟨pool, whole, simulates⟩ := reached.simulates
  obtain ⟨table, _, state⟩ := state_of_simulates simulates
  rw [state] at admitted ⊢
  -- a dispatch does not look at the command table
  have delivers : DeliversTo msg pool.shared := deliversTo_of_reachable whole admitted
  exact delivers

theorem exists_dispatching_of_play (conditions : Side)
    [∀ call world, Decidable (conditions.call call world)]
    [∀ t op world, Decidable (conditions.op t op world)] (moves : List Move) (msg : NlMsg)
    (parsed : 0 ≤ msg.parsed) (goal : World → Bool)
    (played : (play (.apart conditions) conditions moves (commandTable.spread zeroedPool)).any
      (fun fine => isReturned .event fine && goal fine.shared.state) = true) :
    ∃ fine, ApartReachable conditions fine ∧ Dispatching msg fine ∧
      goal fine.shared.state = true := by
  obtain ⟨fine, ⟨eventFill, cmdFill, reaches⟩, met⟩ :=
    exists_apartReachable_of_play conditions moves _ played
  simp only [Bool.and_eq_true] at met
  have called : commandTable.fineCalls (Calls conditions) .event fine.shared
      (commandTable.expand (internalValidMessageHandler msg)) := ⟨_, .event msg _, rfl⟩
  have arrives := reaches_enter (guarded (commandTable.ApartOk conditions.op)
    (commandTable.fineExec exec)) .event _ fine (returned_of_isReturned met.1) called
  exact ⟨fine.enter .event (commandTable.expand (internalValidMessageHandler msg)),
    ⟨eventFill, cmdFill, reaches.trans arrives⟩, ⟨parsed, by simp [Pool.enter]⟩, met.2⟩

def noneEnded (world : World) : Bool :=
  world.log.all fun observation =>
    match observation with
    | .cancelled _ => false
    | .completed _ => false
    | _ => true

theorem not_ended_of_noneEnded {world : World} (none : noneEnded world = true) (cmd : Ptr) :
    ¬ Ended cmd world := by
  have keeps := List.all_eq_true.mp none
  rintro (completed | ⟨this, cancelled, _⟩)
  · exact absurd (keeps _ completed) (by simp)
  · exact absurd (keeps _ cancelled) (by simp)

/-- The results of a range request that a scan precedes, dispatched while another
scan is being registered. -/
theorem rtt_results_delivered : ∃ fine, ApartReachable side fine ∧
    Dispatching ⟨0, 103, some googleOui, some 4, []⟩ fine ∧
      Delivered ⟨0, 103, some googleOui, some 4, []⟩ 1 fine.shared.state := by
  obtain ⟨fine, reached, dispatching, played⟩ := exists_dispatching_of_play side
    [.call (.start .scan 1), .finish .api (.rejecting none),
      .call (.start .rtt 7), .finish .api (.rejecting none),
      .call (.start .bssidHotlist 2), .act .api (.rejecting none), .act .api (.rejecting none)]
    ⟨0, 103, some googleOui, some 4, []⟩ (by decide)
    (fun world => decide (NotInWindow ⟨0, 103, some googleOui, some 4, []⟩ world) &&
      decide (1 < world.next) && decide (Acknowledged 1 world) && noneEnded world &&
        decide ((world.heap 1).mType = .rtt)) (by decide +kernel)
  simp only [Bool.and_eq_true, decide_eq_true_eq] at played
  obtain ⟨⟨⟨⟨admitted, exists_cmd⟩, acknowledged⟩, none⟩, isRtt⟩ := played
  refine ⟨fine, reached, dispatching, event_delivered reached admitted 1 exists_cmd acknowledged
    (not_ended_of_noneEnded none 1) .rttEventComplete ?_ (by decide)⟩
  rw [isRtt]
  decide

/-- The driver reports a signal strength right after it has acknowledged the
request, before `start` has registered the handler. -/
theorem rssi_event_not_delivered :
    ¬ ∀ fine msg, FineReachable .always fine → Dispatching msg fine →
      DeliversTo msg fine.shared.state := by
  intro delivers
  obtain ⟨fine, reached, dispatching, played⟩ := exists_dispatching_of_play .always
    (.call (.start .setRSSIMonitor 1) :: List.replicate 11 (.act .api (.rejecting none)))
    ⟨0, 103, some googleOui, some 7, []⟩ (by decide)
    (fun world => decide (0 < world.next) && decide (Acknowledged 0 world) &&
      noneEnded world && decide ((world.heap 0).mType = .setRSSIMonitor) &&
        (findHandler world.info ⟨0, 103, some googleOui, some 7, []⟩).isNone) (by decide +kernel)
  simp only [Bool.and_eq_true, decide_eq_true_eq] at played
  obtain ⟨⟨⟨⟨exists_cmd, acknowledged⟩, none⟩, isRssi⟩, discarded⟩ := played
  have subscribes : VendorEvent.rssiMonitor ∈ (fine.shared.state.heap 0).mType.events := by
    rw [isRssi]
    decide
  obtain ⟨entry, found, _⟩ := delivers fine _ reached.fineRuns dispatching 0 exists_cmd acknowledged
    (not_ended_of_noneEnded none 0) .rssiMonitor subscribes (by decide)
  rw [found] at discarded
  contradiction

end Mt6757.WifiHal.Subscription
