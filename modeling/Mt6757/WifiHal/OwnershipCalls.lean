import Mt6757.WifiHal.CommandTable
import Mt6757.WifiHal.OwnershipRuns

/-!
# Ownership through the calls of the API

What the API thread knows of its command at each step of a start or stop call,
and that every call leaves the tables with living commands only.
-/

set_option autoImplicit false

namespace Mt6757.WifiHal

open CommandTree KeyedList

/-! ## The operations of the API thread -/

theorem mem_owners_of_held {world : World} {cmd : Ptr} (holds : cmd ∈ world.held .api) :
    cmd ∈ world.owners := by
  unfold World.owners
  split <;> exact List.mem_append_right _ holds

namespace OwnedWorld

variable {cleanup : Prop} {world world' : World}

theorem ofApi (inv : OwnedWorld cleanup world) (cleaning : world'.cleaning = world.cleaning)
    (owned : Owned world'.owners world') : OwnedWorld cleanup world' :=
  ⟨owned, fun now => inv.cleaning (cleaning ▸ now)⟩

theorem ofApiRecord (inv : OwnedWorld cleanup world) (cleaning : world'.cleaning = world.cleaning)
    (cmds : world'.info.cmds = world.info.cmds) (held : world'.held .api = world.held .api)
    (reads : world'.reads = world.reads) (owned : Owned world.owners world') :
    OwnedWorld cleanup world' := by
  refine inv.ofApi cleaning ?_
  rw [owners_eq cleaning cmds held reads]
  exact owned

theorem unregisterVendorHandler (inv : OwnedWorld cleanup world) (event : VendorEvent) :
    OwnedWorld cleanup (world.unregisterVendorHandler event) ∧
      ApiMoves world (world.unregisterVendorHandler event) := by
  refine ⟨inv.ofApiRecord rfl rfl rfl rfl (inv.owned.unregisterVendorHandler event), ?_⟩
  refine .ofTables ?_ rfl rfl (fun _ => rfl) (List.Subset.refl _)
  rw [World.unregisterVendorHandler_events]
  exact List.eraseP_subset

theorem note (inv : OwnedWorld cleanup world) (observation : Observation)
    (bears : observation.bears = false) (notCleanup : observation.isCleanup = false) :
    OwnedWorld cleanup (world.note observation) ∧ ApiMoves world (world.note observation) := by
  refine ⟨inv.ofApiRecord ?_ rfl rfl rfl (inv.owned.note bears), ?_⟩
  · simp [World.cleaning, notCleanup]
  · exact .ofTables (List.Subset.refl _) rfl rfl (fun _ => rfl) (List.subset_cons_self _ _)

theorem withdraw (inv : OwnedWorld cleanup world) (type : CommandType) (id : Int32) :
    OwnedWorld cleanup (world.withdraw type id) ∧ ApiMoves world (world.withdraw type id) :=
  ⟨inv.ofApiRecord rfl rfl rfl rfl
      (inv.owned.keep (List.Sublist.refl _) rfl rfl (fun _ => rfl) rfl),
    .ofTables (List.Subset.refl _) rfl rfl (fun _ => rfl) (List.Subset.refl _)⟩

theorem registerVendorHandler (inv : OwnedWorld cleanup world) {this : Ptr} {event : VendorEvent}
    (owns : this ∈ world.owners) (subscribes : event ∈ (world.heap this).mType.events)
    (first : .registered event this ∉ world.log) :
    OwnedWorld cleanup (world.registerVendorHandler this event) ∧
      ApiMoves world (world.registerVendorHandler this event) := by
  have owned := inv.owned.registerVendorHandler owns subscribes first
  refine ⟨inv.ofApiRecord ?_ ?_ rfl rfl owned, rfl, Nat.le_refl _, fun _ _ => rfl,
    List.subset_cons_self _ _, ?_⟩
  · simp [World.cleaning, World.registerVendorHandler, Observation.isCleanup]
  · exact World.registerVendorHandler_cmds world this event
  · intro event' cmd registered member
    rw [World.registerVendorHandler_events] at member
    split at member
    · rcases List.mem_append.mp member with old | new
      · exact old
      · obtain ⟨rfl, rfl⟩ := vendorEntry_injective (List.mem_singleton.mp new)
        exact absurd registered first
    · exact member

theorem newCommand (inv : OwnedWorld cleanup world) (running : world.cleaning = false)
    (type : CommandType) (id : Int32) :
    OwnedWorld cleanup (world.newCommand .api type id) ∧
      ApiMoves world (world.newCommand .api type id) := by
  have owners : (world.next :: world.owners).Perm (world.newCommand .api type id).owners := by
    have running' : (world.newCommand .api type id).cleaning = false := running
    unfold World.owners
    rw [running, running']
    exact List.perm_middle.symm
  have owned := (inv.owned.newCommand type id).perm owners
  refine ⟨inv.ofApi rfl owned, ?_, Nat.le_succ _, ?_, List.Subset.refl _, fun _ _ _ member => member⟩
  · simp [World.newCommand]
  · intro cmd exists_cmd
    have other : cmd ≠ world.next := Nat.ne_of_lt exists_cmd
    simp [World.newCommand, Function.update_of_ne other]

/-- A registered command has handed its reference to the table. -/
theorem registerCmd (inv : OwnedWorld cleanup world) (running : world.cleaning = false)
    {cmd : Ptr} (holds : world.held .api = [cmd]) (id : Int32) :
    OwnedWorld cleanup (world.registerCmd .api id cmd) ∧
      ApiMoves world (world.registerCmd .api id cmd) ∧
      ((wifiRegisterCmd world.info id cmd).1 = wifiSuccess →
        (world.registerCmd .api id cmd).held .api = [] ∧
          ⟨id, cmd⟩ ∈ (world.registerCmd .api id cmd).info.cmds) ∧
      ((wifiRegisterCmd world.info id cmd).1 ≠ wifiSuccess →
        world.registerCmd .api id cmd = world) := by
  by_cases room : world.info.cmds.length < world.info.cmd.alloc
  · obtain ⟨success, cmds, eventCb, _, registered⟩ := world.registerCmd_of_room .api id cmd room
    have events : (world.registerCmd .api id cmd).info.events = world.info.events := by
      unfold HalInfo.events
      rw [eventCb]
    have heldApi : (world.registerCmd .api id cmd).held .api = [] := by
      rw [registered]
      simp [World.setInfo, holds]
    have heldEvent : (world.registerCmd .api id cmd).held .event = world.held .event := by
      rw [registered]
      simp [World.setInfo]
    have heap : (world.registerCmd .api id cmd).heap = world.heap := by
      rw [registered]
      rfl
    have log : (world.registerCmd .api id cmd).log = world.log := by
      rw [registered]
      rfl
    have next : (world.registerCmd .api id cmd).next = world.next := by
      rw [registered]
      rfl
    have cleaning : (world.registerCmd .api id cmd).cleaning = world.cleaning := by
      unfold World.cleaning
      rw [log]
    have owners : (world.registerCmd .api id cmd).owners = world.owners := by
      unfold World.owners
      rw [cleaning, running, cmds, heldApi, holds]
      simp
    refine ⟨inv.ofApi cleaning ?_, ?_, fun _ => ⟨heldApi, ?_⟩, fun failed => absurd success failed⟩
    · rw [owners]
      refine inv.owned.keep ?_ heldEvent next (fun other => ?_) (by rw [log])
      · rw [events]
      · rw [heap]
    · refine .ofTables ?_ heldEvent next (fun other => ?_) ?_
      · rw [events]
        exact List.Subset.refl _
      · rw [heap]
      · rw [log]
        exact List.Subset.refl _
    · rw [cmds]
      exact List.mem_append_right _ List.mem_cons_self
  · obtain ⟨failed, unchanged⟩ := world.registerCmd_of_full .api id cmd room
    rw [unchanged]
    refine ⟨inv, .refl world, fun success => ?_, fun _ => rfl⟩
    rw [failed] at success
    exact absurd success (by decide)

/-- The thread that empties a slot holds its reference. -/
theorem unregisterCmd (inv : OwnedWorld cleanup world) (running : world.cleaning = false)
    (owner : Option Ptr) (id : Int32) :
    OwnedWorld cleanup (world.unregisterCmd .api owner id) ∧
      ApiMoves world (world.unregisterCmd .api owner id) ∧
      (world.unregisterCmd .api owner id).held .api =
        (wifiUnregisterCmd world.info id).1.toList ++ world.held .api := by
  have events := world.unregisterCmd_events .api owner id
  have cmds := world.unregisterCmd_cmds .api owner id
  have next := World.unregisterCmd_next world .api owner id
  have cleaning := world.unregisterCmd_cleaning .api owner id
  have isHeld := world.unregisterCmd_held .api owner id
  have heldApi : (world.unregisterCmd .api owner id).held .api =
      (wifiUnregisterCmd world.info id).1.toList ++ world.held .api := by
    rw [isHeld]
    cases (wifiUnregisterCmd world.info id).1 <;> simp
  have heldEvent : (world.unregisterCmd .api owner id).held .event = world.held .event := by
    rw [isHeld]
    cases (wifiUnregisterCmd world.info id).1 <;> simp
  have owners : world.owners.Perm (world.unregisterCmd .api owner id).owners := by
    unfold World.owners
    rw [cleaning, running, cmds, heldApi, wifiUnregisterCmd_found]
    cases found : world.info.cmds.find? (CmdInfo.id · == id) with
    | none =>
        rw [List.eraseP_of_forall_not (List.find?_eq_none.mp found)]
        exact List.Perm.refl _
    | some entry =>
        have split := (perm_find?_eraseP found).map CmdInfo.cmd
        exact (split.append_right _).trans List.perm_middle.symm
  refine ⟨inv.ofApi cleaning ?_, ?_, heldApi⟩
  · refine (inv.owned.keep ?_ heldEvent next (fun other => ?_) ?_).perm owners
    · rw [events]
    · rw [World.unregisterCmd_heap]
    · rw [World.unregisterCmd_log]
  · refine .ofTables ?_ heldEvent next (fun other => ?_) ?_
    · rw [events]
      exact List.Subset.refl _
    · rw [World.unregisterCmd_heap]
    · rw [World.unregisterCmd_log]
      exact List.Subset.refl _

theorem releaseRef (inv : OwnedWorld cleanup world) {cmd : Ptr} (holds : cmd ∈ world.held .api)
    (noHandlers : ∀ event, vendorEntry event cmd ∉ world.info.events) :
    OwnedWorld cleanup (world.releaseRef .api cmd) ∧
      ApiMoves world (world.releaseRef .api cmd) ∧
      (world.releaseRef .api cmd).held .api = (world.held .api).erase cmd ∧
      (world.releaseRef .api cmd).apiRecord = .released .api cmd :: world.apiRecord := by
  have owns := mem_owners_of_held holds
  have released := inv.owned.releaseRef_eq .api (List.mem_append_left _ owns)
  have heldApi : (world.releaseRef .api cmd).held .api = (world.held .api).erase cmd := by
    rw [released]
    simp
  have record : (world.releaseRef .api cmd).apiRecord =
      .released .api cmd :: world.apiRecord := by
    rw [released]
    exact List.filter_cons_of_pos rfl
  have cleaning : (world.releaseRef .api cmd).cleaning = world.cleaning := by
    rw [cleaning_eq_any_record, record, cleaning_eq_any_record]
    simp [Observation.isCleanup]
  have owners : world.owners.erase cmd = (world.releaseRef .api cmd).owners := by
    have distinct := inv.owned.distinct
    unfold World.owners at distinct ⊢
    have erase : ∀ slots : List Ptr, (slots ++ world.held .api).Nodup →
        (slots ++ world.held .api).erase cmd = slots ++ (world.held .api).erase cmd := by
      intro slots distinct
      have notInTable : cmd ∉ slots :=
        fun member => (List.nodup_append.mp distinct).2.2 cmd member cmd holds rfl
      exact List.erase_append_right _ notInTable
    rw [cleaning, heldApi, World.releaseRef_info, World.releaseRef_reads]
    split <;> rename_i running
    · rw [if_pos running] at distinct
      exact erase _ distinct
    · rw [if_neg running] at distinct
      exact erase _ distinct
  refine ⟨inv.ofApi cleaning ?_, ?_, heldApi, record⟩
  · rw [← owners]
    exact inv.owned.releaseRef_api owns noHandlers
  · refine .ofTables ?_ ?_ (World.releaseRef_next world .api cmd) (fun other => ?_) ?_
    · rw [World.releaseRef_info]
      exact List.Subset.refl _
    · rw [released]
      simp
    · rw [World.releaseRef_heap]
      by_cases same : other = cmd
      · subst same
        simp
      · rw [Function.update_of_ne same]
    · rw [released]
      exact List.subset_cons_self _ _

end OwnedWorld

/-! ## Cancelling -/

/-- While the loop of a cleanup cancels a command its table stays as it is. -/
structure InTurn (slots : List CmdInfo) (reads : Nat) (world : World) : Prop where
  table : world.info.cmds = slots
  count : world.reads = reads
  phase : 2 ≤ reads % 4

theorem InTurn.rely {slots : List CmdInfo} {reads : Nat} {world world' : World}
    (inTurn : InTurn slots reads world) (moved : EventMoves world world')
    (cleaning : world.cleaning = true) : InTurn slots reads world' where
  table := by
    rw [(moved.turns cleaning).inside (by rw [inTurn.count]; exact inTurn.phase)]
    exact inTurn.table
  count := moved.reads.trans inTurn.count
  phase := inTurn.phase

/-- What the API thread knows while it cancels a command. -/
structure InCall (held : List Ptr) (record : List Observation) (slots : List CmdInfo)
    (reads : Nat) (type : CommandType) (cmd : Ptr) (world : World) : Prop where
  held : world.held .api = held
  record : world.apiRecord = record
  turn : world.cleaning = true → InTurn slots reads world
  type : (world.heap cmd).mType = type

theorem InCall.rely {held : List Ptr} {record : List Observation} {slots : List CmdInfo}
    {reads : Nat} {type : CommandType} {cmd : Ptr} {world world' : World}
    (inCall : InCall held record slots reads type cmd world) (moved : EventMoves world world') :
    InCall held record slots reads type cmd world' where
  held := moved.held.trans inCall.held
  record := moved.record.trans inCall.record
  turn := by
    rw [cleaning_eq_of_record moved.record]
    exact fun now => (inCall.turn now).rely moved now
  type := (moved.types cmd).trans inCall.type

/-- No handler of the command is left for these events. -/
def Bare (cmd : Ptr) (events : List VendorEvent) (world : World) : Prop :=
  ∀ event ∈ events, vendorEntry event cmd ∉ world.info.events

theorem Bare.rely {cmd : Ptr} {events : List VendorEvent} {world world' : World}
    (bare : Bare cmd events world) (moved : EventMoves world world') : Bare cmd events world' :=
  fun event member inEvents => bare event member (moved.events inEvents)

section Api

variable {side : Side} {cleanup : Prop} {world : World}

/-- A fact the API thread may rely on during the requests and removals of a
command. -/
structure Kept (cmd : Ptr) (keep : World → Prop) : Prop where
  rely : ∀ world world', keep world → EventMoves world world' → keep world'
  unregister : ∀ world event, keep world → keep (world.unregisterVendorHandler event)
  acknowledge : ∀ world request, keep world → keep (world.note (.acknowledged cmd request))

theorem kept_inCall (held : List Ptr) (record : List Observation) (slots : List CmdInfo)
    (reads : Nat) (type : CommandType) (cmd : Ptr) :
    Kept cmd (InCall held record slots reads type cmd) where
  rely := fun _ _ => InCall.rely
  unregister := fun _ _ inCall => by
    refine ⟨inCall.held, inCall.record, fun now => ?_, inCall.type⟩
    obtain ⟨table, count, phase⟩ := inCall.turn now
    exact ⟨table, count, phase⟩
  acknowledge := fun world request inCall => by
    have cleaning : (world.note (.acknowledged cmd request)).cleaning = world.cleaning := rfl
    refine ⟨inCall.held, inCall.record, ?_, inCall.type⟩
    rw [cleaning]
    intro now
    obtain ⟨table, count, phase⟩ := inCall.turn now
    exact ⟨table, count, phase⟩

theorem Kept.bare {cmd : Ptr} {keep : World → Prop} (kept : Kept cmd keep)
    (events : List VendorEvent) : Kept cmd fun world => keep world ∧ Bare cmd events world where
  rely := fun _ _ holds moved => ⟨kept.rely _ _ holds.1 moved, holds.2.rely moved⟩
  unregister := fun world event holds => by
    refine ⟨kept.unregister _ _ holds.1, fun event' member inEvents => ?_⟩
    rw [World.unregisterVendorHandler_events] at inEvents
    exact holds.2 event' member (List.mem_of_mem_eraseP inEvents)
  acknowledge := fun world request holds => ⟨kept.acknowledge _ _ holds.1, holds.2⟩

variable {cmd : Ptr} {keep : World → Prop} (kept : Kept cmd keep)
  {α : Type} {post : α → World → Prop}

include kept

theorem wp_createRequest {request : Request} {after : Int → Hal α} (holds : keep world)
    (rest : ∀ result world, result ≤ 0 → keep world →
      (ownership side cleanup).wp .api (after result) post world) :
    (ownership side cleanup).wp .api (createRequest cmd request >>= after) post world := by
  rintro before moved inv result later ⟨_, env, does⟩
  obtain rfl : before = later := congrArg Prod.snd does
  obtain rfl : env.create request = result := congrArg Prod.fst does
  exact ⟨inv, .refl before,
    rest _ before (env.create_nonpos request) (kept.rely _ _ holds moved)⟩

theorem wp_requestResponse {request : Request} {after : Int → Hal α} (holds : keep world)
    (rest : ∀ result world, result ≤ 0 → keep world →
      (ownership side cleanup).wp .api (after result) post world) :
    (ownership side cleanup).wp .api (requestResponse cmd request >>= after) post world := by
  rintro before moved inv result later ⟨_, env, does⟩
  have holds := kept.rely _ _ holds moved
  obtain rfl : env.reply request = result := congrArg Prod.fst does
  have does := congrArg Prod.snd does
  simp only [exec] at does
  split at does
  · obtain rfl := does
    obtain ⟨inv', moves⟩ := inv.note (.acknowledged cmd request) rfl rfl
    exact ⟨inv', moves, rest _ _ (env.reply_nonpos request) (kept.acknowledge _ _ holds)⟩
  · obtain rfl := does
    exact ⟨inv, .refl before, rest _ _ (env.reply_nonpos request) holds⟩

theorem wp_unregisterAll (removals : side.OwnRemovals cleanup) (events gone : List VendorEvent)
    (holds : keep world) (bare : Bare cmd gone world) :
    (ownership side cleanup).wp .api (unregisterAll cmd events)
      (fun _ world => keep world ∧ Bare cmd (gone ++ events) world) world := by
  induction events generalizing gone world with
  | nil =>
      rw [List.append_nil]
      exact ⟨holds, bare⟩
  | cons event rest ih =>
      rintro before moved inv _ after ⟨admitted, env, does⟩
      obtain rfl : before.unregisterVendorHandler event = after := congrArg Prod.snd does
      obtain ⟨inv', moves⟩ := inv.unregisterVendorHandler event
      have holds' := (kept.bare gone).unregister before event
        ⟨kept.rely _ _ holds moved, bare.rely moved⟩
      have bare' : Bare cmd (gone ++ [event]) (before.unregisterVendorHandler event) := by
        intro event' member
        rcases List.mem_append.mp member with old | new
        · exact holds'.2 event' old
        · rw [List.mem_singleton] at new
          subst new
          exact unregisterVendorHandler_bare inv.owned (removals.handler admitted)
      have later := ih (gone ++ [event]) holds'.1 bare'
      rw [List.append_assoc, List.singleton_append] at later
      exact ⟨inv', moves, later⟩

theorem wp_cancelBody (removals : side.OwnRemovals cleanup) (script : CancelScript)
    (holds : keep world) :
    (ownership side cleanup).wp .api (cancelBody cmd script)
      (fun _ world => keep world ∧ Bare cmd script.events world) world := by
  have unregisters : ∀ (events : List VendorEvent) (result : Int) {world : World},
      keep world → (ownership side cleanup).wp .api
        (unregisterAll cmd events >>= fun _ => .ret result)
        (fun _ world => keep world ∧ Bare cmd events world) world := by
    intro events result world holds
    rw [Discipline.wp_bind]
    exact wp_unregisterAll kept removals events [] holds (List.forall_mem_nil _)
  cases script with
  | teardownFirst request events =>
      refine wp_createRequest kept holds fun created world _ holds => ?_
      split
      · exact wp_requestResponse kept holds fun _ world _ holds => unregisters events _ holds
      · exact unregisters events _ holds
  | unregisterFirst events request =>
      refine ((ownership side cleanup).wp_bind .api _ _ _ _).mpr ?_
      refine (ownership side cleanup).wp_mono .api _
        (wp_unregisterAll kept removals events [] holds (List.forall_mem_nil _)) fun _ world holds => ?_
      have kept := kept.bare events
      refine wp_createRequest kept holds fun created world _ holds => ?_
      split
      · exact holds
      · have answered : (ownership side cleanup).wp .api (requestResponse cmd request >>= .ret)
            (fun _ world => keep world ∧ Bare cmd events world) world :=
          wp_requestResponse kept holds fun _ _ _ holds => holds
        exact answered

omit kept

/-- A command that its `cancel` leaves without handlers. -/
structure Cancelled (held : List Ptr) (record : List Observation) (slots : List CmdInfo)
    (reads : Nat) (cmd : Ptr) (world : World) : Prop where
  held : world.held .api = held
  record : world.apiRecord = record
  turn : world.cleaning = true → InTurn slots reads world
  bare : Bare cmd (world.heap cmd).mType.events world

theorem Cancelled.rely {held : List Ptr} {record : List Observation} {slots : List CmdInfo}
    {reads : Nat} {world' : World} (cancelled : Cancelled held record slots reads cmd world)
    (moved : EventMoves world world') : Cancelled held record slots reads cmd world' where
  held := moved.held.trans cancelled.held
  record := moved.record.trans cancelled.record
  turn := by
    rw [cleaning_eq_of_record moved.record]
    exact fun now => (cancelled.turn now).rely moved now
  bare := by
    rw [moved.types]
    exact cancelled.bare.rely moved

theorem Bare.ofType {world' : World} (bare : Bare cmd (world.heap cmd).mType.events world)
    (moved : EventMoves world world') : Bare cmd (world'.heap cmd).mType.events world' := by
  rw [moved.types]
  exact bare.rely moved

theorem Bare.noHandlers (bare : Bare cmd (world.heap cmd).mType.events world)
    (inv : OwnedWorld cleanup world) (event : VendorEvent) :
    vendorEntry event cmd ∉ world.info.events := by
  intro member
  obtain ⟨event', cmd', _, shape, subscribes, _⟩ := inv.owned.entries _ member
  obtain ⟨rfl, rfl⟩ := vendorEntry_injective shape
  exact bare event subscribes member

theorem wp_cancel (removals : side.OwnRemovals cleanup) {held : List Ptr}
    {record : List Observation} {slots : List CmdInfo} {reads : Nat} (owns : cmd ∈ held)
    (isHeld : world.held .api = held) (isRecord : world.apiRecord = record)
    (inTurn : world.cleaning = true → InTurn slots reads world) :
    (ownership side cleanup).wp .api (cancel cmd)
      (fun _ world => Cancelled held (.cancelled cmd :: record) slots reads cmd world) world := by
  have inCall : InCall held record slots reads (world.heap cmd).mType cmd world :=
    ⟨isHeld, isRecord, inTurn, rfl⟩
  rintro before moved inv type after ⟨_, env, does⟩
  have inCall := inCall.rely moved
  have owner : cmd ∈ before.owners := mem_owners_of_held (by rw [inCall.held]; exact owns)
  have touched := inv.owned.touch_eq (List.mem_append_left _ owner)
  obtain rfl : (before.heap cmd).mType = type := congrArg Prod.fst does
  obtain rfl : before.note (.cancelled cmd) = after := by
    rw [← touched]
    exact congrArg Prod.snd does
  obtain ⟨inv', moves⟩ := inv.note (.cancelled cmd) rfl rfl
  have noted : InCall held (.cancelled cmd :: record) slots reads (before.heap cmd).mType cmd
      (before.note (.cancelled cmd)) := by
    have cleaning : (before.note (.cancelled cmd)).cleaning = before.cleaning := rfl
    refine ⟨inCall.held, ?_, ?_, rfl⟩
    · rw [← inCall.record]
      exact List.filter_cons_of_pos rfl
    · rw [cleaning]
      intro now
      obtain ⟨table, count, phase⟩ := inCall.turn now
      exact ⟨table, count, phase⟩
  refine ⟨inv', moves, ?_⟩
  refine (ownership side cleanup).wp_mono .api _
    (wp_cancelBody (kept_inCall _ _ _ _ _ _) removals _ noted) fun _ world holds => ?_
  obtain ⟨inCall, bare⟩ := holds
  refine ⟨inCall.held, inCall.record, inCall.turn, ?_⟩
  rw [inCall.type]
  exact bare

/-- The API thread is between calls, or will be when its call returns. -/
structure Idle (world : World) : Prop where
  running : world.cleaning = false
  held : world.held .api = []

theorem Idle.rely {world' : World} (idle : Idle world) (moved : EventMoves world world') :
    Idle world' :=
  ⟨(cleaning_eq_of_record moved.record).trans idle.running, moved.held.trans idle.held⟩

theorem wp_releaseRef {α : Type} {after : Hal α} {post : α → World → Prop}
    (holds : cmd ∈ world.held .api)
    (noHandlers : ∀ before, EventMoves world before → OwnedWorld cleanup before →
      ∀ event, vendorEntry event cmd ∉ before.info.events)
    (rest : ∀ before, EventMoves world before → OwnedWorld cleanup before →
      (before.releaseRef .api cmd).held .api = (before.held .api).erase cmd →
      (before.releaseRef .api cmd).apiRecord = .released .api cmd :: before.apiRecord →
        (ownership side cleanup).wp .api after post (before.releaseRef .api cmd)) :
    (ownership side cleanup).wp .api (releaseRef cmd >>= fun _ => after) post world := by
  rintro before moved inv _ later ⟨_, env, does⟩
  obtain rfl : before.releaseRef .api cmd = later := congrArg Prod.snd does
  have moved : EventMoves world before := moved
  have holds : cmd ∈ before.held .api := by
    rw [moved.held]
    exact holds
  obtain ⟨inv', moves, heldApi, record⟩ := inv.releaseRef holds (noHandlers before moved inv)
  exact ⟨inv', moves, rest before moved inv heldApi record⟩

theorem wp_cancelAndRelease (removals : side.OwnRemovals cleanup)
    (running : world.cleaning = false) (holds : world.held .api = [cmd]) (result : Int) :
    (ownership side cleanup).wp .api
      (cancel cmd >>= fun _ => releaseRef cmd >>= fun _ => .ret result)
      (fun _ world => Idle world) world := by
  rw [Discipline.wp_bind]
  have noTurn : world.cleaning = true → InTurn [] 0 world := by
    rw [running]
    exact nofun
  refine (ownership side cleanup).wp_mono .api _
    (wp_cancel removals List.mem_cons_self holds rfl noTurn) fun _ middle cancelled => ?_
  have holds' : cmd ∈ middle.held .api := by
    rw [cancelled.held]
    exact List.mem_cons_self
  refine wp_releaseRef holds' (fun before moved inv => (cancelled.rely moved).bare.noHandlers inv) ?_
  intro before moved _ heldApi record
  have cancelled := cancelled.rely moved
  refine ⟨?_, ?_⟩
  · rw [cleaning_eq_any_record, record, cancelled.record]
    rw [cleaning_eq_any_record] at running
    simpa [Observation.isCleanup] using running
  · rw [heldApi, cancelled.held, List.erase_cons_head]

/-! ## Starting -/

/-- A command that has been created and holds its first reference. -/
structure Created (type : CommandType) (cmd : Ptr) (world : World) : Prop where
  running : world.cleaning = false
  held : world.held .api = [cmd]
  type : (world.heap cmd).mType = type
  unrecorded : ∀ event, .registered event cmd ∉ world.log

theorem Created.rely {type : CommandType} {world' : World} (created : Created type cmd world)
    (moved : EventMoves world world') : Created type cmd world' where
  running := (cleaning_eq_of_record moved.record).trans created.running
  held := moved.held.trans created.held
  type := (moved.types cmd).trans created.type
  unrecorded := fun event registered =>
    created.unrecorded event ((registered_iff_of_record moved.record _ _).mp registered)

theorem Created.noHandlers {type : CommandType} (created : Created type cmd world)
    (inv : OwnedWorld cleanup world) (event : VendorEvent) :
    vendorEntry event cmd ∉ world.info.events := by
  intro member
  obtain ⟨event', cmd', _, shape, _, registered⟩ := inv.owned.entries _ member
  obtain ⟨rfl, rfl⟩ := vendorEntry_injective shape
  exact created.unrecorded event registered

theorem wp_newCommand {α : Type} {type : CommandType} {id : Int32} {after : Option Ptr → Hal α}
    {post : α → World → Prop} (idle : Idle world)
    (failed : ∀ world, Idle world → (ownership side cleanup).wp .api (after none) post world)
    (rest : ∀ cmd world, Created type cmd world →
      (ownership side cleanup).wp .api (after (some cmd)) post world) :
    (ownership side cleanup).wp .api (perform (.newCommand type id) >>= after) post world := by
  rintro before moved inv result later ⟨_, env, does⟩
  have idle := idle.rely moved
  cases result with
  | none =>
      simp only [exec] at does
      split at does
      · simp at does
      · obtain rfl : before = later := congrArg Prod.snd does
        exact ⟨inv, .refl before, failed before idle⟩
  | some cmd =>
      obtain ⟨rfl, rfl⟩ := exec_newCommand does
      obtain ⟨inv', moves⟩ := inv.newCommand idle.running type id
      refine ⟨inv', moves, rest _ _ ⟨idle.running, ?_, ?_, fun event registered => ?_⟩⟩
      · simp [World.newCommand, idle.held]
      · simp [World.newCommand]
      · exact Nat.lt_irrefl _ (inv.owned.recorded event _ registered)

/-- `start` subscribes to events of its own type, and to completions in its last
statement. -/
def completionsLast (type : CommandType) : List Stmt → Bool
  | [] => true
  | .register event :: rest =>
      decide (event ∈ type.events) && (event != .rttEventComplete || rest.isEmpty) &&
        completionsLast type rest
  | _ :: rest => completionsLast type rest

theorem completionsLast_start (type : CommandType) :
    completionsLast type type.startScript = true := by
  cases type <;> decide

/-- A command in its slot, registered for `done` at most.  Once it has registered
for completions the event thread may free the slot. -/
structure Starting (type : CommandType) (id : Int32) (cmd : Ptr) (done : List VendorEvent)
    (world : World) : Prop where
  idle : Idle world
  type : (world.heap cmd).mType = type
  recorded : ∀ event, .registered event cmd ∈ world.log → event ∈ done
  slot : .rttEventComplete ∉ done → ⟨id, cmd⟩ ∈ world.info.cmds

theorem Starting.rely {type : CommandType} {id : Int32} {done : List VendorEvent}
    {world' : World} (starting : Starting type id cmd done world)
    (moved : EventMoves world world') : Starting type id cmd done world' where
  idle := starting.idle.rely moved
  type := (moved.types cmd).trans starting.type
  recorded := fun event registered =>
    starting.recorded event ((registered_iff_of_record moved.record _ _).mp registered)
  slot := by
    intro notDone
    rcases moved.stays _ (starting.slot notDone) with stays | registered
    · exact stays
    · exact absurd (starting.recorded _ registered) notDone

theorem kept_starting (type : CommandType) (id : Int32) (cmd : Ptr) (done : List VendorEvent) :
    Kept cmd (Starting type id cmd done) where
  rely := fun _ _ => Starting.rely
  unregister := fun _ _ starting =>
    ⟨⟨starting.idle.running, starting.idle.held⟩, starting.type, starting.recorded,
      starting.slot⟩
  acknowledge := fun world request starting => by
    refine ⟨⟨starting.idle.running, starting.idle.held⟩, starting.type, fun event registered => ?_,
      starting.slot⟩
    exact starting.recorded event (by simpa using registered)

/-- A command in its slot that has no handler left. -/
structure RolledBack (id : Int32) (cmd : Ptr) (world : World) : Prop where
  idle : Idle world
  slot : ⟨id, cmd⟩ ∈ world.info.cmds
  notRtt : .registered .rttEventComplete cmd ∉ world.log
  bare : ∀ event, .registered event cmd ∈ world.log →
    vendorEntry event cmd ∉ world.info.events

theorem RolledBack.rely {id : Int32} {world' : World} (rolledBack : RolledBack id cmd world)
    (moved : EventMoves world world') : RolledBack id cmd world' where
  idle := rolledBack.idle.rely moved
  slot := (moved.stays _ rolledBack.slot).resolve_right rolledBack.notRtt
  notRtt := mt (registered_iff_of_record moved.record _ _).mp rolledBack.notRtt
  bare := fun event registered member =>
    rolledBack.bare event ((registered_iff_of_record moved.record _ _).mp registered)
      (moved.events member)

/-- What the result of `start` says about its command. -/
def startPost (id : Int32) (cmd : Ptr) (result : Int) (world : World) : Prop :=
  result = wifiSuccess ∧ Idle world ∨ result ≠ wifiSuccess ∧ RolledBack id cmd world

theorem wp_startFrom (removals : side.OwnRemovals cleanup) (type : CommandType) (id : Int32)
    (cmd : Ptr) (script : List Stmt) {result : Int} {checked : Bool} {done : List VendorEvent}
    (covers : rollbacksCover done script = true) (last : completionsLast type script = true)
    (everyChecked : everyResultChecked checked script = true) (nonpos : result ≤ 0)
    (atHand : checked = true → result = wifiSuccess)
    (goesOn : .rttEventComplete ∉ done ∨ script = [])
    (starting : Starting type id cmd done world) :
    (ownership side cleanup).wp .api (startFrom cmd script result) (startPost id cmd) world := by
  induction script generalizing result checked done world with
  | nil => exact Or.inl ⟨atHand everyChecked, starting.idle⟩
  | cons stmt rest ih =>
      have notDone : .rttEventComplete ∉ done := goesOn.resolve_right (List.cons_ne_nil _ _)
      cases stmt with
      | create request =>
          exact wp_createRequest (kept_starting type id cmd done) starting
            fun result world nonpos starting =>
              ih covers last everyChecked nonpos Bool.false_ne_true.elim (Or.inl notDone) starting
      | exchange request =>
          exact wp_requestResponse (kept_starting type id cmd done) starting
            fun result world nonpos starting =>
              ih covers last everyChecked nonpos Bool.false_ne_true.elim (Or.inl notDone) starting
      | register event =>
          simp only [rollbacksCover, Bool.and_eq_true, decide_eq_true_eq] at covers
          simp only [completionsLast, Bool.and_eq_true, decide_eq_true_eq, Bool.or_eq_true,
            bne_iff_ne, List.isEmpty_iff] at last
          obtain ⟨notYet, covers⟩ := covers
          obtain ⟨⟨subscribes, atEnd⟩, last⟩ := last
          rintro before moved inv _ after ⟨_, env, does⟩
          obtain rfl : before.registerVendorHandler cmd event = after := congrArg Prod.snd does
          have starting := starting.rely moved
          have owns : cmd ∈ before.owners := by
            unfold World.owners
            rw [starting.idle.running]
            exact List.mem_append_left _ (List.mem_map.mpr ⟨_, starting.slot notDone, rfl⟩)
          rw [← starting.type] at subscribes
          obtain ⟨inv', moves⟩ := inv.registerVendorHandler owns subscribes
            fun registered => notYet (starting.recorded event registered)
          refine ⟨inv', moves, ih covers last everyChecked nonpos atHand ?_ ?_⟩
          · rcases atEnd with other | finished
            · refine Or.inl fun member => ?_
              rcases List.mem_append.mp member with old | new
              · exact notDone old
              · exact other (List.mem_singleton.mp new).symm
            · exact Or.inr finished
          · refine ⟨⟨?_, starting.idle.held⟩, starting.type, ?_, ?_⟩
            · have running := starting.idle.running
              unfold World.cleaning at running ⊢
              simpa [World.registerVendorHandler, Observation.isCleanup] using running
            · intro event' registered
              rcases List.mem_cons.mp registered with new | old
              · obtain ⟨rfl, _⟩ : event' = event ∧ cmd = cmd := by simpa using new
                exact List.mem_append_right _ List.mem_cons_self
              · exact List.mem_append_left _ (starting.recorded event' old)
            · intro _
              rw [World.registerVendorHandler_cmds]
              exact starting.slot notDone
      | check test rollback =>
          simp only [rollbacksCover, Bool.and_eq_true, decide_eq_true_eq] at covers
          obtain ⟨⟨covered, _⟩, covers⟩ := covers
          have fails := test.fails_iff nonpos
          simp only [startFrom]
          split
          · rename_i failed
            rw [Discipline.wp_bind]
            refine (ownership side cleanup).wp_mono .api _
              (wp_unregisterAll (kept_starting type id cmd done) removals rollback [] starting
                (List.forall_mem_nil _)) fun _ world holds => ?_
            obtain ⟨starting, bare⟩ := holds
            refine Or.inr ⟨fails.mp failed, starting.idle, starting.slot notDone, ?_, ?_⟩
            · exact fun registered => notDone (starting.recorded _ registered)
            · exact fun event registered =>
                bare event (covered (starting.recorded event registered))
          · rename_i passed
            exact ih covers last everyChecked nonpos
              (fun _ => not_not.mp (mt fails.mpr passed)) (Or.inl notDone) starting

theorem wp_wifiStart (removals : side.OwnRemovals cleanup) (type : CommandType) (id : Int32)
    (idle : Idle world) :
    (ownership side cleanup).wp .api (wifiStart type id) (fun _ world => Idle world) world := by
  refine wp_newCommand idle (fun _ idle => idle) fun cmd world created => ?_
  -- the command goes to the table
  rintro before moved inv registered after ⟨_, env, does⟩
  have created := created.rely moved
  obtain rfl : before.registerCmd .api id cmd = after := congrArg Prod.snd does
  obtain rfl : (wifiRegisterCmd before.info id cmd).1 = registered := congrArg Prod.fst does
  obtain ⟨inv', moves, inTable, refused⟩ := inv.registerCmd created.running created.held id
  refine ⟨inv', moves, ?_⟩
  dsimp only [Prog.bind]
  split
  · rename_i success
    obtain ⟨isHeld, slot⟩ := inTable success
    have starting : Starting type id cmd [] (before.registerCmd .api id cmd) := by
      have heap : (before.registerCmd .api id cmd).heap = before.heap := by
        unfold World.registerCmd
        split <;> rfl
      have log : (before.registerCmd .api id cmd).log = before.log := by
        unfold World.registerCmd
        split <;> rfl
      refine ⟨⟨?_, isHeld⟩, ?_, fun event registered => ?_, fun _ => slot⟩
      · unfold World.cleaning
        rw [log]
        exact created.running
      · rw [heap]
        exact created.type
      · rw [log] at registered
        exact absurd registered (created.unrecorded event)
    refine ((ownership side cleanup).wp_bind .api _ _ _ _).mpr ?_
    refine (ownership side cleanup).wp_mono .api _
      (wp_startFrom removals type id cmd type.startScript (rollbacksCover_start type)
        (completionsLast_start type) (everyResultChecked_start type) (Int.le_refl wifiSuccess)
        (fun _ => rfl) (Or.inl List.not_mem_nil) starting) fun result world ended => ?_
    rcases ended with ⟨success, idle⟩ | ⟨failed, rolledBack⟩
    · rw [if_pos success]
      exact idle
    · rw [if_neg failed]
      -- a command that did not start takes its slot and its reference back
      rintro before moved inv found after ⟨admitted, env, does⟩
      have rolledBack := rolledBack.rely moved
      obtain rfl : before.unregisterCmd .api (some cmd) id = after := congrArg Prod.snd does
      obtain ⟨inv', moves, isHeld⟩ :=
        inv.unregisterCmd rolledBack.idle.running (some cmd) id
      refine ⟨inv', moves, ?_⟩
      have ownSlot := removals.slot admitted
      have isFound : (wifiUnregisterCmd before.info id).1 = some cmd := by
        rw [wifiUnregisterCmd_found]
        cases found : before.info.cmds.find? (CmdInfo.id · == id) with
        | none => exact absurd (List.find?_eq_none.mp found _ rolledBack.slot) (by simp)
        | some entry => exact congrArg some (ownSlot entry found)
      rw [isFound, rolledBack.idle.held] at isHeld
      have running := (before.unregisterCmd_cleaning .api (some cmd) id).trans
        rolledBack.idle.running
      have events := before.unregisterCmd_events .api (some cmd) id
      refine wp_releaseRef (by rw [isHeld]; exact List.mem_cons_self) ?_ ?_
      · intro later moved inv event member
        obtain ⟨event', cmd', _, shape, _, registered⟩ := inv.owned.entries _ member
        obtain ⟨rfl, rfl⟩ := vendorEntry_injective shape
        have registered := (registered_iff_of_record moved.record _ _).mp registered
        rw [World.unregisterCmd_log] at registered
        have member := moved.events member
        rw [events] at member
        exact rolledBack.bare event registered member
      · intro later moved _ heldApi record
        refine ⟨?_, ?_⟩
        · rw [cleaning_eq_any_record, record, moved.record]
          rw [cleaning_eq_any_record] at running
          simpa [Observation.isCleanup] using running
        · rw [heldApi, moved.held, isHeld]
          exact List.erase_cons_head cmd []
  · rename_i failed
    rw [refused failed]
    refine wp_releaseRef (by rw [created.held]; exact List.mem_cons_self)
      (fun later moved inv => (created.rely moved).noHandlers inv) ?_
    intro later moved _ heldApi record
    have created := created.rely moved
    refine ⟨?_, ?_⟩
    · have running := created.running
      rw [cleaning_eq_any_record] at running ⊢
      simpa [record, Observation.isCleanup] using running
    · rw [heldApi, created.held, List.erase_cons_head]

theorem wp_ending {type : CommandType} {id : Int32} {body : Hal Int}
    (ended : (ownership side cleanup).wp .api body (fun _ world => Idle world) world) :
    (ownership side cleanup).wp .api (ending type id body) (fun _ world => Idle world) world := by
  unfold ending
  rw [Discipline.wp_bind]
  refine (ownership side cleanup).wp_mono .api body ended fun result world idle => ?_
  rintro before moved inv _ after ⟨_, env, does⟩
  obtain rfl : before.withdraw type id = after := congrArg Prod.snd does
  obtain ⟨inv', moves⟩ := inv.withdraw type id
  have idle := idle.rely moved
  exact ⟨inv', moves, idle.running, idle.held⟩

theorem wp_cancelTemporary (removals : side.OwnRemovals cleanup) (type : CommandType)
    (id : Int32) (idle : Idle world) :
    (ownership side cleanup).wp .api (cancelTemporary type id) (fun _ world => Idle world)
      world := by
  refine wp_newCommand idle (fun _ idle => idle) fun cmd world created => ?_
  exact wp_cancelAndRelease removals created.running created.held wifiSuccess

theorem wp_wifiCancelCmd (removals : side.OwnRemovals cleanup) (id : Int32)
    (idle : Idle world) :
    (ownership side cleanup).wp .api (wifiCancelCmd id) (fun _ world => Idle world) world := by
  rintro before moved inv found after ⟨_, env, does⟩
  have idle := idle.rely moved
  obtain rfl : before.unregisterCmd .api none id = after := congrArg Prod.snd does
  obtain rfl : (wifiUnregisterCmd before.info id).1 = found := congrArg Prod.fst does
  obtain ⟨inv', moves, isHeld⟩ := inv.unregisterCmd idle.running none id
  rw [idle.held, List.append_nil] at isHeld
  have running : (before.unregisterCmd .api none id).cleaning = false := by
    unfold World.cleaning
    rw [World.unregisterCmd_log]
    exact idle.running
  refine ⟨inv', moves, ?_⟩
  cases found : (wifiUnregisterCmd before.info id).1 with
  | none =>
      rw [found] at isHeld
      exact ⟨running, isHeld⟩
  | some cmd =>
      rw [found] at isHeld
      exact wp_cancelAndRelease removals running isHeld wifiSuccess

theorem wp_apiCall (removals : side.OwnRemovals cleanup) (call : ApiCall) (idle : Idle world) :
    (ownership side cleanup).wp .api call.program (ownershipPost .api) world := by
  have kept : (ownership side cleanup).wp .api call.program (fun _ world => Idle world) world := by
    cases call with
    | start type id =>
        rw [ApiCall.program_start]
        exact wp_wifiStart removals type id idle
    | stop type id =>
        rw [ApiCall.program_stop]
        refine wp_ending ?_
        split
        · exact wp_cancelTemporary removals type _ idle
        · exact wp_wifiCancelCmd removals id idle
  exact (ownership side cleanup).wp_mono .api _ kept
    fun _ _ idle => Or.inl ⟨idle.running, idle.held⟩

end Api

/-! ## Runs -/

theorem ownedWorld_initial (cleanup : Prop) (eventFill : CbInfo) (cmdFill : CmdInfo) :
    OwnedWorld cleanup (.initial eventFill cmdFill) := by
  refine ⟨⟨nofun, nofun, ?_, List.nodup_nil, nofun, List.nodup_nil, ?_, ?_⟩, nofun⟩
  · intro cmd member
    exact absurd member List.not_mem_nil
  · intro event cmd registered
    exact absurd registered List.not_mem_nil
  · intro cmd used
    exact absurd used List.not_mem_nil

theorem good_initial (side : Side) (cleanup : Prop) (eventFill : CbInfo) (cmdFill : CmdInfo) :
    (ownership side cleanup).Good (initialPool eventFill cmdFill) := by
  refine ⟨ownedWorld_initial cleanup eventFill cmdFill, fun t => ?_⟩
  cases t with
  | api => exact Or.inl ⟨rfl, rfl⟩
  | event => exact rfl

/-- Removals of handlers and slots take away what belongs to the command that
asks for it. -/
def Side.ownRemovals : Side where
  call := fun _ _ => True
  op := fun _ op world =>
    match op with
    | .unregisterVendorHandler this event => OwnFirst this event world
    | .wifiUnregisterCmd (some this) id => OwnSlot this id world
    | _ => True

instance (call : ApiCall) (world : World) : Decidable (Side.ownRemovals.call call world) :=
  inferInstanceAs (Decidable True)

instance (t : Thread) (op : HalOp) (world : World) :
    Decidable (Side.ownRemovals.op t op world) :=
  match op with
  | .unregisterVendorHandler this event =>
      inferInstanceAs (Decidable (OwnFirst this event world))
  | .wifiUnregisterCmd (some this) id => inferInstanceAs (Decidable (OwnSlot this id world))
  | .newCommand _ _ | .createRequest _ _ | .requestResponse _ _ | .registerVendorHandler _ _
  | .wifiRegisterCmd _ _ | .wifiUnregisterCmd none _ | .cancel _ | .findAndAddRef _
  | .handleEvent _ | .handleAttrs _ _ | .clearResults _ | .id _ | .releaseRef _
  | .beginCleanup | .numCmd | .cmdAt _ | .ended _ _ => .isTrue trivial

theorem ownRemovals_ownRemovals : Side.ownRemovals.OwnRemovals False :=
  ⟨fun admitted => admitted, fun admitted => admitted, False.elim⟩

theorem ownership_good_of_reachable {pool : HalPool} (reached : ReachableWhen .ownRemovals pool) :
    (ownership .ownRemovals False).Good pool := by
  obtain ⟨eventFill, cmdFill, reaches⟩ := reached
  refine (ownership .ownRemovals False).good_of_reaches ?_
    (good_initial .ownRemovals False eventFill cmdFill) reaches
  intro t program value world called inv idle
  cases called with
  | api call _ _ =>
      rcases idle with ⟨running, isHeld⟩ | cleaned
      · exact wp_apiCall ownRemovals_ownRemovals call ⟨running, isHeld⟩
      · exact (inv.cleaning cleaned.cleaning).elim
  | event msg _ => exact wp_internalValidMessageHandler ownRemovals_ownRemovals msg idle

theorem ownedWorld_of_reachable {pool : HalPool} (reached : ReachableWhen .ownRemovals pool) :
    OwnedWorld False pool.shared :=
  (ownership_good_of_reachable reached).1

/-- The tables mention living commands only, and no count is negative. -/
structure CommandsAlive (world : World) : Prop where
  handlers : ∀ entry ∈ world.info.events, ∀ cmd ∈ entry.cbArg,
    (world.heap cmd).deleted = false ∧ 0 < (world.heap cmd).mRefs
  slots : ∀ entry ∈ world.info.cmds,
    (world.heap entry.cmd).deleted = false ∧ 0 < (world.heap entry.cmd).mRefs
  counts : ∀ cmd, cmd < world.next → 0 ≤ (world.heap cmd).mRefs
  unused : ∀ cmd, .usedAfterDelete cmd ∉ world.log

theorem commandsAlive_of_reachable {pool : HalPool} (reached : ReachableWhen .ownRemovals pool) :
    CommandsAlive pool.shared := by
  have inv := ownedWorld_of_reachable reached
  have running : pool.shared.cleaning = false := by
    by_contra now
    exact inv.cleaning (by simpa using now)
  have alive : ∀ cmd ∈ pool.shared.owners,
      (pool.shared.heap cmd).deleted = false ∧ 0 < (pool.shared.heap cmd).mRefs :=
    fun cmd owns => ⟨inv.owned.alive (List.mem_append_left _ owns),
      inv.owned.refs_pos (List.mem_append_left _ owns)⟩
  refine ⟨?_, ?_, ?_, inv.owned.unused⟩
  · exact fun entry member cmd arg => alive cmd (inv.owned.arg_mem member arg)
  · intro entry member
    refine alive entry.cmd ?_
    unfold World.owners
    rw [running]
    exact List.mem_append_left _ (List.mem_map.mpr ⟨entry, member, rfl⟩)
  · intro cmd exists_cmd
    rw [inv.owned.refs cmd exists_cmd]
    exact Int.natCast_nonneg _

/-- What an open call has stored so far mentions no other commands. -/
theorem CommandsAlive.setTable {world : World} (alive : CommandsAlive world)
    {table : CompactArray CmdInfo} (keeps : KeepsEntries world.info.cmd table) :
    CommandsAlive (world.setTable table) where
  handlers := alive.handlers
  slots := fun entry member => alive.slots entry (keeps.mem_toList member)
  counts := alive.counts
  unused := alive.unused

/-- In every run whose removals take away what belongs to the command that asks
for it, and whose changes of the command table are kept apart, commands that a
table mentions are alive. -/
theorem commands_alive {fine : FinePool} (reached : ApartReachable .ownRemovals fine) :
    CommandsAlive fine.shared.state := by
  obtain ⟨pool, whole, simulates⟩ := reached.simulates
  obtain ⟨table, keeps, state⟩ := state_of_simulates simulates
  rw [state]
  exact (commandsAlive_of_reachable whole).setTable keeps

/-- An event of the scan is handled while the range request is being registered,
and another one completes it. -/
theorem commands_alive_after_completion : ∃ fine, ApartReachable .ownRemovals fine ∧
    fine.shared.state.info.events.length = 3 ∧ CommandsAlive fine.shared.state := by
  obtain ⟨fine, reached, played⟩ := exists_apartReachable_of_play .ownRemovals
    ([.call (.start .scan 1), .finish .api (.rejecting none), .call (.start .rtt 7)] ++
      List.replicate 7 (.act .api (.rejecting none)) ++
      [.message ⟨0, 103, some googleOui, some 5, []⟩, .finish .event (.rejecting none),
        .finish .api (.rejecting none),
        .message ⟨0, 103, some googleOui, some 4, [.resultsComplete 1]⟩,
        .finish .event (.rejecting none)])
    (fun fine => fine.shared.state.info.events.length == 3) (by decide +kernel)
  exact ⟨fine, reached, by simpa using played, commands_alive reached⟩

/-- Stopping the second of two scans deletes it and leaves its handlers. -/
theorem commands_not_alive :
    ¬ ∀ fine, FineReachable .always fine → CommandsAlive fine.shared.state := by
  intro alive
  obtain ⟨fine, reached, dangling⟩ := exists_fineReachable_of_play .always
    [.call (.start .scan 1), .finish .api (.rejecting none),
      .call (.start .scan 2), .finish .api (.rejecting none),
      .call (.stop .scan 2), .finish .api (.rejecting none)]
    (fun fine => fine.shared.state.info.events.contains (vendorEntry .completeScan 1) &&
      (fine.shared.state.heap 1).deleted) (by decide +kernel)
  simp only [Bool.and_eq_true, List.contains_iff_mem] at dangling
  have kept := ((alive fine reached).handlers _ dangling.1 1 rfl).1
  rw [dangling.2] at kept
  contradiction

/-- A range request that completes between the stores of a registration comes back
into the table after it was deleted. -/
theorem commands_not_alive_of_overlap :
    ¬ ∀ fine, FineReachable .ownRemovals fine → CommandsAlive fine.shared.state := by
  intro alive
  obtain ⟨fine, reached, dangling⟩ := exists_fineReachable_of_play .ownRemovals
    ([.call (.start .rtt 7), .finish .api (.rejecting none), .call (.start .scan 1)] ++
      List.replicate 7 (.act .api (.rejecting none)) ++
      [.message ⟨0, 103, some googleOui, some 4, [.resultsComplete 1]⟩,
        .finish .event (.rejecting none), .finish .api (.rejecting none)])
    (fun fine => fine.shared.state.info.cmds.contains ⟨7, 0⟩ &&
      (fine.shared.state.heap 0).deleted) (by decide +kernel)
  simp only [Bool.and_eq_true, List.contains_iff_mem] at dangling
  have kept := ((alive fine reached).slots _ dangling.1).1
  rw [dangling.2] at kept
  contradiction

end Mt6757.WifiHal
