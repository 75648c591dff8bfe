import Mt6757.WifiHal.Ownership
import Mt6757.WifiHal.Sequential

/-!
# Ownership in every interleaving

The two threads keep every command that a table mentions alive, as long as each
removal by key takes away what belongs to the command that asks for it.
-/

set_option autoImplicit false

namespace Mt6757.WifiHal

open CommandTree KeyedList

/-! ## Conditions on removals -/

/-- A command that has a handler for the event has the first one. -/
def OwnFirst (this : Ptr) (event : VendorEvent) (world : World) : Prop :=
  vendorEntry event this ∈ world.info.events →
    world.info.events.find? (isEventEntry event) = some (vendorEntry event this)

/-- The slot of this id, if there is one, is that of the command. -/
def OwnSlot (this : Ptr) (id : Int32) (world : World) : Prop :=
  ∀ entry ∈ world.info.cmds.find? (CmdInfo.id · == id), entry.cmd = this

instance (this : Ptr) (event : VendorEvent) (world : World) :
    Decidable (OwnFirst this event world) := inferInstanceAs (Decidable (_ → _))

instance (this : Ptr) (id : Int32) (world : World) : Decidable (OwnSlot this id world) :=
  inferInstanceAs (Decidable (∀ entry ∈ _, _))

def Observation.isCleanup : Observation → Bool
  | .cleanupBegan => true
  | _ => false

/-- The loop of `wifi_cleanup` has begun. -/
def World.cleaning (world : World) : Bool := world.log.any Observation.isCleanup

/-- The slot the loop of `wifi_cleanup` is at or comes to next.  A turn reads the
number of commands, reads it again, reads the slot and reads the number once more. -/
def World.turn (world : World) : Nat := world.reads / 4

/-- The slots of this id lie ahead of the loop, which is between two turns, or has
found a command for its turn and still finds one when this slot is gone. -/
def AheadOfLoop (id : Int32) (world : World) : Prop :=
  (∀ entry ∈ world.info.cmds.take world.turn, entry.id ≠ id) ∧
    (world.reads % 4 = 0 ∨ world.reads % 4 = 1 ∧ world.turn + 1 < world.info.cmds.length)

instance (id : Int32) (world : World) : Decidable (AheadOfLoop id world) :=
  inferInstanceAs (Decidable (_ ∧ _))

/-- Removals take away what belongs to the command that asks for it, and if there
is a cleanup, slots that are emptied during its loop lie ahead of it. -/
structure Side.OwnRemovals (side : Side) (cleanup : Prop) : Prop where
  handler : ∀ {t this event world}, side.op t (.unregisterVendorHandler this event) world →
    OwnFirst this event world
  slot : ∀ {t this id world}, side.op t (.wifiUnregisterCmd (some this) id) world →
    OwnSlot this id world
  ahead : cleanup → ∀ {t this id world}, world.cleaning = true →
    side.op t (.wifiUnregisterCmd (some this) id) world →
      (world.info.cmds.find? (CmdInfo.id · == id)).isSome = true → AheadOfLoop id world

/-! ## What each thread does to the world -/

/-- What only the API thread records. -/
def Observation.ofApi : Observation → Bool
  | .registered _ _ => true
  | .cancelled _ => true
  | .released .api _ => true
  | .cleanupBegan => true
  | _ => false

def World.apiRecord (world : World) : List Observation := world.log.filter Observation.ofApi

/-- The references outside of dispatches.  In a cleanup the table has none for the
slots that the loop has read. -/
def World.owners (world : World) : List Ptr :=
  if world.cleaning then
    (world.info.cmds.map CmdInfo.cmd).drop ((world.reads + 1) / 4) ++ world.held .api
  else world.info.cmds.map CmdInfo.cmd ++ world.held .api

theorem cleaning_eq_any_record (world : World) :
    world.cleaning = world.apiRecord.any Observation.isCleanup := by
  unfold World.cleaning World.apiRecord
  rw [List.any_filter]
  congr 1
  funext observation
  cases observation <;> simp [Observation.ofApi, Observation.isCleanup]

theorem cleaning_eq_of_record {world world' : World} (record : world'.apiRecord = world.apiRecord) :
    world'.cleaning = world.cleaning := by
  rw [cleaning_eq_any_record, record, ← cleaning_eq_any_record]

theorem registered_iff_of_record {world world' : World}
    (record : world'.apiRecord = world.apiRecord) (event : VendorEvent) (cmd : Ptr) :
    .registered event cmd ∈ world'.log ↔ .registered event cmd ∈ world.log := by
  have filtered := congrArg (Observation.registered event cmd ∈ ·) record
  simpa [World.apiRecord, List.mem_filter, Observation.ofApi] using filtered

theorem World.unregisterCmd_apiRecord (world : World) (t : Thread) (owner : Option Ptr)
    (id : Int32) : (world.unregisterCmd t owner id).apiRecord = world.apiRecord := by
  unfold World.apiRecord
  rw [World.unregisterCmd_log]

theorem World.unregisterCmd_cleaning (world : World) (t : Thread) (owner : Option Ptr)
    (id : Int32) : (world.unregisterCmd t owner id).cleaning = world.cleaning :=
  cleaning_eq_of_record (world.unregisterCmd_apiRecord t owner id)

theorem owners_eq {world world' : World} (cleaning : world'.cleaning = world.cleaning)
    (cmds : world'.info.cmds = world.info.cmds) (held : world'.held .api = world.held .api)
    (reads : world'.reads = world.reads) : world'.owners = world.owners := by
  unfold World.owners
  rw [cleaning, cmds, held, reads]

/-- What the event thread leaves of the table during the loop. -/
structure KeepsTurns (world world' : World) : Prop where
  before : world'.info.cmds.take world.turn = world.info.cmds.take world.turn
  checked : world.reads % 4 = 1 → world.turn < world.info.cmds.length →
    world.turn < world'.info.cmds.length
  inside : 2 ≤ world.reads % 4 → world'.info.cmds = world.info.cmds

/-- What the API thread relies on: the event thread removes handlers and the
slots of commands that have registered for completions. -/
structure EventMoves (world world' : World) : Prop where
  events : world'.info.events ⊆ world.info.events
  held : world'.held .api = world.held .api
  next : world'.next = world.next
  types : ∀ cmd, (world'.heap cmd).mType = (world.heap cmd).mType
  record : world'.apiRecord = world.apiRecord
  slots : world'.info.cmds.Sublist world.info.cmds
  stays : ∀ entry ∈ world.info.cmds, entry ∈ world'.info.cmds ∨
    .registered .rttEventComplete entry.cmd ∈ world.log
  reads : world'.reads = world.reads
  turns : world.cleaning = true → KeepsTurns world world'

/-- What the event thread relies on: no handler comes back. -/
structure ApiMoves (world world' : World) : Prop where
  held : world'.held .event = world.held .event
  next : world.next ≤ world'.next
  types : ∀ cmd, cmd < world.next → (world'.heap cmd).mType = (world.heap cmd).mType
  log : world.log ⊆ world'.log
  entries : ∀ event cmd, .registered event cmd ∈ world.log →
    vendorEntry event cmd ∈ world'.info.events → vendorEntry event cmd ∈ world.info.events

namespace EventMoves

variable {world world' : World}

theorem ofTables (events : world'.info.events ⊆ world.info.events)
    (held : world'.held .api = world.held .api) (next : world'.next = world.next)
    (types : ∀ cmd, (world'.heap cmd).mType = (world.heap cmd).mType)
    (record : world'.apiRecord = world.apiRecord)
    (cmds : world'.info.cmds = world.info.cmds) (reads : world'.reads = world.reads) :
    EventMoves world world' where
  events := events
  held := held
  next := next
  types := types
  record := record
  slots := by rw [cmds]
  stays := fun entry member => Or.inl (cmds ▸ member)
  reads := reads
  turns := fun _ => ⟨by rw [cmds], fun _ bound => by rwa [cmds], fun _ => cmds⟩

theorem refl (world : World) : EventMoves world world :=
  ofTables (List.Subset.refl _) rfl rfl (fun _ => rfl) rfl rfl rfl

theorem trans {world'' : World} (first : EventMoves world world')
    (second : EventMoves world' world'') : EventMoves world world'' where
  events := List.Subset.trans second.events first.events
  held := second.held.trans first.held
  next := second.next.trans first.next
  types := fun cmd => (second.types cmd).trans (first.types cmd)
  record := second.record.trans first.record
  slots := second.slots.trans first.slots
  stays := by
    intro entry member
    rcases first.stays entry member with stayed | registered
    · rcases second.stays entry stayed with stayed | registered
      · exact Or.inl stayed
      · exact Or.inr ((registered_iff_of_record first.record _ _).mp registered)
    · exact Or.inr registered
  reads := second.reads.trans first.reads
  turns := by
    intro cleaning
    have early := first.turns cleaning
    have late := second.turns ((cleaning_eq_of_record first.record).trans cleaning)
    have turn : world'.turn = world.turn := congrArg (· / 4) first.reads
    refine ⟨?_, fun phase bound => ?_, fun phase => ?_⟩
    · rw [← early.before, ← turn]
      exact late.before
    · rw [← turn]
      refine late.checked (by rw [first.reads]; exact phase) ?_
      rw [turn]
      exact early.checked phase bound
    · exact (late.inside (by rw [first.reads]; exact phase)).trans (early.inside phase)

end EventMoves

namespace ApiMoves

variable {world world' : World}

theorem refl (world : World) : ApiMoves world world :=
  ⟨rfl, Nat.le_refl _, fun _ _ => rfl, List.Subset.refl _, fun _ _ _ member => member⟩

theorem trans {world'' : World} (first : ApiMoves world world')
    (second : ApiMoves world' world'') : ApiMoves world world'' where
  held := second.held.trans first.held
  next := Nat.le_trans first.next second.next
  types := fun cmd exists_cmd =>
    (second.types cmd (Nat.lt_of_lt_of_le exists_cmd first.next)).trans
      (first.types cmd exists_cmd)
  log := List.Subset.trans first.log second.log
  entries := fun event cmd registered member =>
    first.entries event cmd registered
      (second.entries event cmd (first.log registered) member)

theorem ofTables (events : world'.info.events ⊆ world.info.events)
    (held : world'.held .event = world.held .event) (next : world'.next = world.next)
    (types : ∀ cmd, (world'.heap cmd).mType = (world.heap cmd).mType)
    (log : world.log ⊆ world'.log) : ApiMoves world world' where
  held := held
  next := Nat.le_of_eq next.symm
  types := fun cmd _ => types cmd
  log := log
  entries := fun _ _ _ member => events member

end ApiMoves

/-! ## The discipline -/

/-- Every owner holds its reference, and a cleanup begins only if there is one. -/
structure OwnedWorld (cleanup : Prop) (world : World) : Prop where
  owned : Owned world.owners world
  cleaning : world.cleaning = true → cleanup

/-- What the record says after a cleanup of the commands of `table`: each was
cancelled once and then released once, in the order of the table. -/
def eachOnce (table : List Ptr) : List Observation :=
  table.flatMap fun cmd => [.released .api cmd, .cancelled cmd]

/-- The loop has ended, every command that was still in the table had its turn, and
the record names each of them once. -/
structure Cleaned (value : Int) (world : World) : Prop where
  finished : value = wifiSuccess
  held : world.held .api = []
  reads : world.reads = 4 * world.info.cmds.length + 1
  distinct : (world.info.cmds.map CmdInfo.cmd).Nodup
  record : ∃ before, world.apiRecord =
    eachOnce (world.info.cmds.map CmdInfo.cmd).reverse ++ .cleanupBegan :: before

theorem Cleaned.cleaning {value : Int} {world : World} (cleaned : Cleaned value world) :
    world.cleaning = true := by
  obtain ⟨before, record⟩ := cleaned.record
  have member : .cleanupBegan ∈ world.apiRecord := by
    rw [record]
    exact List.mem_append_right _ List.mem_cons_self
  exact List.any_eq_true.mpr ⟨_, List.mem_of_mem_filter member, rfl⟩

theorem Cleaned.rely {value : Int} {world world' : World} (cleaned : Cleaned value world)
    (moved : EventMoves world world') : Cleaned value world' := by
  have turn : world.turn = world.info.cmds.length := by
    unfold World.turn
    rw [cleaned.reads]
    omega
  have before := (moved.turns cleaned.cleaning).before
  rw [turn, List.take_length] at before
  have short := moved.slots.length_le
  rw [List.take_of_length_le short] at before
  obtain ⟨past, record⟩ := cleaned.record
  refine ⟨cleaned.finished, moved.held.trans cleaned.held, ?_, ?_, past, ?_⟩
  · rw [moved.reads, before]
    exact cleaned.reads
  · rw [before]
    exact cleaned.distinct
  · rw [moved.record, before]
    exact record

/-- Between calls the API thread holds nothing, and so does the event thread
between dispatches. -/
def ownershipPost (t : Thread) (value : Int) (world : World) : Prop :=
  match t with
  | .api => world.cleaning = false ∧ world.held .api = [] ∨ Cleaned value world
  | .event => world.held .event = []

def ownership (side : Side) (cleanup : Prop) : Discipline Thread HalOp Res Int World where
  sem := guarded side.op exec
  inv := OwnedWorld cleanup
  rely := fun t => match t with
    | .api => EventMoves
    | .event => ApiMoves
  guar := fun t => match t with
    | .api => ApiMoves
    | .event => EventMoves
  post := ownershipPost
  rely_refl := fun t world => by
    cases t with
    | api => exact .refl world
    | event => exact .refl world
  rely_trans := fun t _ _ _ first second => by
    cases t with
    | api => exact EventMoves.trans first second
    | event => exact ApiMoves.trans first second
  guar_rely := fun t u _ _ differ moved => by
    cases t with
    | api =>
        cases u with
        | api => exact absurd rfl differ
        | event => exact moved
    | event =>
        cases u with
        | api => exact moved
        | event => exact absurd rfl differ
  post_stable := fun t value world world' holds moved => by
    cases t with
    | api =>
        have moved : EventMoves world world' := moved
        rcases holds with ⟨running, idle⟩ | cleaned
        · exact Or.inl ⟨(cleaning_eq_of_record moved.record).trans running,
            moved.held.trans idle⟩
        · exact Or.inr (cleaned.rely moved)
    | event => exact (ApiMoves.held moved).trans holds

/-! ## The event thread -/

namespace OwnedWorld

variable {cleanup : Prop} {world world' : World}

theorem ofEventMoves (inv : OwnedWorld cleanup world) (moved : EventMoves world world')
    (cmds : world'.info.cmds = world.info.cmds) (owned : Owned world.owners world') :
    OwnedWorld cleanup world' := by
  have cleaning := cleaning_eq_of_record moved.record
  refine ⟨?_, fun now => inv.cleaning (cleaning ▸ now)⟩
  rw [owners_eq cleaning cmds moved.held moved.reads]
  exact owned

end OwnedWorld

section Event

variable {side : Side} {cleanup : Prop}

structure Dispatched (event : VendorEvent) (cmd : Ptr) (world : World) : Prop where
  held : world.held .event = [cmd]
  exists_cmd : cmd < world.next
  subscribes : event ∈ (world.heap cmd).mType.events
  registered : .registered event cmd ∈ world.log

structure Handling (cmd : Ptr) (held : List Ptr) (world : World) : Prop where
  held : world.held .event = held
  exists_cmd : cmd < world.next
  type : (world.heap cmd).mType = .rtt
  registered : .registered .rttEventComplete cmd ∈ world.log

/-- And it has unregistered the handler of the command. -/
structure HandlingBare (cmd : Ptr) (held : List Ptr) (world : World) : Prop
    extends Handling cmd held world where
  bare : vendorEntry .rttEventComplete cmd ∉ world.info.events

variable {cmd : Ptr} {held : List Ptr} {world world' : World}

theorem Dispatched.rely {event : VendorEvent} (dispatched : Dispatched event cmd world)
    (moved : ApiMoves world world') : Dispatched event cmd world' where
  held := moved.held.trans dispatched.held
  exists_cmd := Nat.lt_of_lt_of_le dispatched.exists_cmd moved.next
  subscribes := by
    rw [moved.types cmd dispatched.exists_cmd]
    exact dispatched.subscribes
  registered := moved.log dispatched.registered

theorem Handling.rely (handling : Handling cmd held world) (moved : ApiMoves world world') :
    Handling cmd held world' where
  held := moved.held.trans handling.held
  exists_cmd := Nat.lt_of_lt_of_le handling.exists_cmd moved.next
  type := (moved.types cmd handling.exists_cmd).trans handling.type
  registered := moved.log handling.registered

theorem HandlingBare.rely (handling : HandlingBare cmd held world)
    (moved : ApiMoves world world') : HandlingBare cmd held world' :=
  ⟨handling.toHandling.rely moved,
    fun member => handling.bare (moved.entries _ _ handling.registered member)⟩

theorem Handling.own (handling : Handling cmd held world) (moved : EventMoves world world')
    {held' : List Ptr} (isHeld : world'.held .event = held') : Handling cmd held' world' where
  held := isHeld
  exists_cmd := by
    rw [moved.next]
    exact handling.exists_cmd
  type := (moved.types cmd).trans handling.type
  registered := (registered_iff_of_record moved.record _ _).mpr handling.registered

theorem HandlingBare.own (handling : HandlingBare cmd held world)
    (moved : EventMoves world world') {held' : List Ptr}
    (isHeld : world'.held .event = held') : HandlingBare cmd held' world' :=
  ⟨handling.toHandling.own moved isHeld, fun member => handling.bare (moved.events member)⟩

theorem handleAttrs_moves (world : World) (this : Ptr) (attrs : List RttAttr) :
    EventMoves world (world.handleAttrs this attrs).2 ∧
      (world.handleAttrs this attrs).2.held = world.held := by
  have types : ∀ rtt other,
      ((world.setCommand this { world.heap this with rtt := rtt }).heap other).mType =
        (world.heap other).mType := by
    intro rtt other
    by_cases same : other = this
    · subst same
      simp
    · simp [Function.update_of_ne same]
  unfold World.handleAttrs
  dsimp only
  split
  · exact ⟨.ofTables (List.Subset.refl _) rfl rfl (types _) rfl rfl rfl, rfl⟩
  · exact ⟨.ofTables (List.Subset.refl _) rfl rfl (types _) rfl rfl rfl, rfl⟩

theorem clearResults_moves (world : World) (this : Ptr) :
    EventMoves world (world.clearResults this) := by
  refine .ofTables (List.Subset.refl _) rfl rfl (fun other => ?_) rfl rfl rfl
  unfold World.clearResults
  by_cases same : other = this
  · subst same
    simp
  · simp [Function.update_of_ne same]

theorem unregisterVendorHandler_moves (world : World) (event : VendorEvent) :
    EventMoves world (world.unregisterVendorHandler event) := by
  refine .ofTables ?_ rfl rfl (fun _ => rfl) rfl rfl rfl
  rw [World.unregisterVendorHandler_events]
  exact List.eraseP_subset

theorem unregisterVendorHandler_bare {owners : List Ptr} (owned : Owned owners world)
    {this : Ptr} {event : VendorEvent} (ownFirst : OwnFirst this event world) :
    vendorEntry event this ∉ (world.unregisterVendorHandler event).info.events := by
  rw [World.unregisterVendorHandler_events]
  intro member
  have before := List.mem_of_mem_eraseP member
  have erased := (perm_find?_eraseP (ownFirst before)).nodup_iff.mp owned.once
  exact (List.nodup_cons.mp erased).1 member

theorem addRef_moves {owners : List Ptr} (owned : Owned owners world) (owns : cmd ∈ owners) :
    EventMoves world (world.addRef .event cmd) ∧
      (world.addRef .event cmd).held .event = cmd :: world.held .event := by
  have touched := owned.touch_eq (List.mem_append_left _ owns)
  refine ⟨.ofTables ?_ ?_ ?_ ?_ ?_ ?_ (World.addRef_reads world .event cmd), ?_⟩
  · rw [World.addRef_info]
    exact List.Subset.refl _
  · simp [World.addRef]
  · exact World.addRef_next world .event cmd
  · intro other
    rw [World.addRef_heap]
    by_cases same : other = cmd
    · subst same
      simp
    · rw [Function.update_of_ne same]
  · unfold World.addRef
    rw [touched]
    rfl
  · rw [World.addRef_info]
  · simp [World.addRef]

theorem releaseRef_event_moves {owners : List Ptr} (owned : Owned owners world)
    (holds : cmd ∈ world.held .event) :
    EventMoves world (world.releaseRef .event cmd) ∧
      (world.releaseRef .event cmd).held .event = (world.held .event).erase cmd := by
  have released := owned.releaseRef_eq .event (List.mem_append_right _ holds)
  refine ⟨.ofTables ?_ ?_ ?_ ?_ ?_ ?_ (World.releaseRef_reads world .event cmd), ?_⟩
  · rw [World.releaseRef_info]
    exact List.Subset.refl _
  · rw [released]
    simp
  · exact World.releaseRef_next world .event cmd
  · intro other
    rw [World.releaseRef_heap]
    by_cases same : other = cmd
    · subst same
      simp
    · rw [Function.update_of_ne same]
  · rw [released]
    simp [World.apiRecord, Observation.ofApi]
  · rw [World.releaseRef_info]
  · rw [released]
    simp

theorem eq_rtt_of_subscribes {event : VendorEvent} (subscribes : event ∈ CommandType.rtt.events) :
    event = .rttEventComplete := by
  simpa [CommandType.events, CommandType.cancelScript, RttCommand.cancel,
    CancelScript.events] using subscribes

theorem no_handlers_of_bare (inv : OwnedWorld cleanup world)
    (handling : HandlingBare cmd held world) (event : VendorEvent) :
    vendorEntry event cmd ∉ world.info.events := by
  intro member
  obtain ⟨event', cmd', _, shape, subscribes, _⟩ := inv.owned.entries _ member
  obtain ⟨rfl, rfl⟩ := vendorEntry_injective shape
  rw [handling.type] at subscribes
  obtain rfl := eq_rtt_of_subscribes subscribes
  exact handling.bare member

theorem unregisterCmd_event_none (inv : OwnedWorld cleanup world) (owner : Option Ptr) {id : Int32}
    (found : world.info.cmds.find? (CmdInfo.id · == id) = none) :
    OwnedWorld cleanup (world.unregisterCmd .event owner id) ∧
      EventMoves world (world.unregisterCmd .event owner id) ∧
      (world.unregisterCmd .event owner id).held .event = world.held .event := by
  have events := world.unregisterCmd_events .event owner id
  have next := world.unregisterCmd_next .event owner id
  have cmds : (world.unregisterCmd .event owner id).info.cmds = world.info.cmds := by
    rw [World.unregisterCmd_cmds, List.eraseP_of_forall_not (List.find?_eq_none.mp found)]
  have isHeld : (world.unregisterCmd .event owner id).held = world.held := by
    rw [World.unregisterCmd_held, wifiUnregisterCmd_found, found]
    rfl
  have moved : EventMoves world (world.unregisterCmd .event owner id) := by
    refine .ofTables ?_ ?_ next (fun other => ?_)
      (world.unregisterCmd_apiRecord .event owner id) cmds
      (world.unregisterCmd_reads .event owner id)
    · rw [events]
      exact List.Subset.refl _
    · rw [isHeld]
    · rw [World.unregisterCmd_heap]
  refine ⟨inv.ofEventMoves moved cmds ?_, moved, by rw [isHeld]⟩
  refine inv.owned.keep ?_ ?_ next (fun other => ?_) ?_
  · rw [events]
  · rw [isHeld]
  · rw [World.unregisterCmd_heap]
  · rw [World.unregisterCmd_log]

theorem AheadOfLoop.eraseP {id : Int32} {entry : CmdInfo} (ahead : AheadOfLoop id world)
    (found : world.info.cmds.find? (CmdInfo.id · == id) = some entry) :
    (world.info.cmds.eraseP (CmdInfo.id · == id)).take world.turn =
        world.info.cmds.take world.turn ∧
      (world.info.cmds.drop world.turn).Perm
        (entry :: (world.info.cmds.eraseP (CmdInfo.id · == id)).drop world.turn) := by
  have others : ∀ other ∈ world.info.cmds.take world.turn, ¬ (other.id == id) = true :=
    fun other member => by simpa using ahead.1 other member
  have parts := List.take_append_drop world.turn world.info.cmds
  generalize world.info.cmds.take world.turn = done at parts others ⊢
  generalize pending : world.info.cmds.drop world.turn = later at parts ⊢
  rw [← parts, List.find?_append, List.find?_eq_none.mpr others, Option.none_or] at found
  have split := perm_find?_eraseP found
  have length : done.length = world.turn := by
    have total := congrArg List.length parts
    have rest := congrArg List.length pending
    have some_later : later.length ≠ 0 := by
      intro none
      rw [List.eq_nil_of_length_eq_zero none] at found
      contradiction
    rw [List.length_append] at total
    rw [List.length_drop] at rest
    omega
  rw [← parts, List.eraseP_append_right _ others, ← length]
  exact ⟨List.take_left, by rw [List.drop_left]; exact split⟩

/-- The reference of an emptied slot goes over to the completion. -/
theorem unregisterCmd_event_some (inv : OwnedWorld cleanup world)
    (owner : Option Ptr) {id : Int32} {entry : CmdInfo}
    (ahead : world.cleaning = true → AheadOfLoop id world)
    (found : world.info.cmds.find? (CmdInfo.id · == id) = some entry)
    (registered : .registered .rttEventComplete entry.cmd ∈ world.log)
    (bare : ∀ event, vendorEntry event entry.cmd ∉ world.info.events) :
    OwnedWorld cleanup (world.unregisterCmd .event owner id) ∧
      EventMoves world (world.unregisterCmd .event owner id) ∧
      (world.unregisterCmd .event owner id).held .event = entry.cmd :: world.held .event := by
  have events := world.unregisterCmd_events .event owner id
  have cmds := world.unregisterCmd_cmds .event owner id
  have next := world.unregisterCmd_next .event owner id
  have reads := world.unregisterCmd_reads .event owner id
  have isHeld : (world.unregisterCmd .event owner id).held =
      Function.update world.held .event (entry.cmd :: world.held .event) := by
    rw [World.unregisterCmd_held, wifiUnregisterCmd_found, found]
    rfl
  have split := perm_find?_eraseP found
  have turns : world.cleaning = true →
      KeepsTurns world (world.unregisterCmd .event owner id) := by
    intro cleaning
    obtain ⟨kept, _⟩ := (ahead cleaning).eraseP found
    refine ⟨by rw [cmds, kept], fun phase bound => ?_, fun phase => ?_⟩
    · have length := split.length_eq
      rw [List.length_cons] at length
      rw [cmds]
      rcases (ahead cleaning).2 with other | ⟨_, more⟩ <;> omega
    · rcases (ahead cleaning).2 with other | ⟨other, _⟩ <;> omega
  have moved : EventMoves world (world.unregisterCmd .event owner id) := by
    refine ⟨?_, ?_, next, fun other => ?_, world.unregisterCmd_apiRecord .event owner id,
      ?_, ?_, reads, turns⟩
    · rw [events]
      exact List.Subset.refl _
    · rw [isHeld]
      simp
    · rw [World.unregisterCmd_heap]
    · rw [cmds]
      exact List.eraseP_sublist
    · intro other member
      rcases List.mem_cons.mp (split.mem_iff.mp member) with rfl | stays
      · exact Or.inr registered
      · rw [cmds]
        exact Or.inl stays
  have cleaning' := world.unregisterCmd_cleaning .event owner id
  have owners : world.owners.Perm
      (entry.cmd :: (world.unregisterCmd .event owner id).owners) := by
    unfold World.owners
    rw [cleaning', moved.held, cmds, reads]
    by_cases cleaning : world.cleaning = true
    · rw [if_pos cleaning, if_pos cleaning]
      have taken : (world.reads + 1) / 4 = world.turn := by
        unfold World.turn
        rcases (ahead cleaning).2 with phase | ⟨phase, _⟩ <;> omega
      rw [taken, ← List.map_drop, ← List.map_drop]
      exact (((ahead cleaning).eraseP found).2.map CmdInfo.cmd).append_right _
    · rw [if_neg cleaning, if_neg cleaning]
      exact (split.map CmdInfo.cmd).append_right _
  have received := inv.owned.receive (owners.mem_iff.mpr List.mem_cons_self) bare
  have kept : Owned (world.owners.erase entry.cmd) (world.unregisterCmd .event owner id) := by
    refine received.keep ?_ ?_ next (fun other => ?_) ?_
    · rw [events]
      exact List.Sublist.refl _
    · rw [isHeld]
      rfl
    · rw [World.unregisterCmd_heap]
      rfl
    · rw [World.unregisterCmd_log]
      rfl
  refine ⟨⟨kept.perm ?_, fun now => inv.cleaning (cleaning' ▸ now)⟩, moved, ?_⟩
  · have erased := owners.erase entry.cmd
    rwa [List.erase_cons_head] at erased
  · rw [isHeld]
    simp

/-- A completion takes over the reference of its own slot, or finds no slot. -/
theorem unregisterCmd_event (inv : OwnedWorld cleanup world)
    (handling : HandlingBare cmd held world) {id : Int32} (ownSlot : OwnSlot cmd id world)
    (ahead : world.cleaning = true →
      (world.info.cmds.find? (CmdInfo.id · == id)).isSome = true → AheadOfLoop id world) :
    OwnedWorld cleanup (world.unregisterCmd .event (some cmd) id) ∧
      EventMoves world (world.unregisterCmd .event (some cmd) id) ∧
      (((wifiUnregisterCmd world.info id).1 = none ∧
          (world.unregisterCmd .event (some cmd) id).held .event = held) ∨
        ((wifiUnregisterCmd world.info id).1 = some cmd ∧
          (world.unregisterCmd .event (some cmd) id).held .event = cmd :: held)) := by
  rw [wifiUnregisterCmd_found]
  cases found : world.info.cmds.find? (CmdInfo.id · == id) with
  | none =>
      obtain ⟨inv', moved, isHeld⟩ := unregisterCmd_event_none inv (some cmd) found
      exact ⟨inv', moved, Or.inl ⟨rfl, isHeld.trans handling.held⟩⟩
  | some entry =>
      obtain rfl : entry.cmd = cmd := ownSlot entry found
      obtain ⟨inv', moved, isHeld⟩ := unregisterCmd_event_some inv (some entry.cmd)
        (fun now => ahead now (by rw [found]; rfl)) found handling.registered
        (no_handlers_of_bare inv handling)
      refine ⟨inv', moved, Or.inr ⟨rfl, ?_⟩⟩
      rw [isHeld, handling.held]

theorem wp_releaseSlot (removals : side.OwnRemovals cleanup) (id : Int32)
    (handling : HandlingBare cmd [cmd] world) :
    (ownership side cleanup).wp .event
      (perform (.wifiUnregisterCmd (some cmd) id) >>= fun found =>
        match found with
        | none => .ret nlSkip
        | some other => do
            releaseRef other
            .ret nlSkip)
      (fun _ world => world.held .event = [cmd]) world := by
  rintro before moved inv found after ⟨admitted, env, does⟩
  obtain ⟨inv', moves, freed⟩ := unregisterCmd_event inv (handling.rely moved)
    (removals.slot admitted) fun now => removals.ahead (inv.cleaning now) now admitted
  obtain rfl : before.unregisterCmd .event (some cmd) id = after := congrArg Prod.snd does
  obtain rfl : (wifiUnregisterCmd before.info id).1 = found := congrArg Prod.fst does
  refine ⟨inv', moves, ?_⟩
  rcases freed with ⟨absent, isHeld⟩ | ⟨present, isHeld⟩
  · rw [absent]
    exact isHeld
  · rw [present]
    rintro before moved inv _ after ⟨_, env, does⟩
    obtain rfl : before.releaseRef .event cmd = after := congrArg Prod.snd does
    have isHeld : before.held .event = [cmd, cmd] := (ApiMoves.held moved).trans isHeld
    have holds : cmd ∈ before.held .event := by
      rw [isHeld]
      exact List.mem_cons_self
    obtain ⟨moves, released⟩ := releaseRef_event_moves inv.owned holds
    have left : (before.releaseRef .event cmd).held .event = [cmd] := by
      rw [released, isHeld, List.erase_cons_head]
    refine ⟨inv.ofEventMoves moves ?_ (inv.owned.releaseRef_event holds), moves, left⟩
    rw [World.releaseRef_info]

theorem wp_rttHandleEvent (removals : side.OwnRemovals cleanup) (attrs : List RttAttr)
    (handling : Handling cmd [cmd] world) :
    (ownership side cleanup).wp .event (RttCommand.handleEvent cmd attrs)
      (fun _ world => world.held .event = [cmd]) world := by
  -- the results are stored
  rintro before moved inv completed after ⟨_, env, does⟩
  obtain rfl : (before.handleAttrs cmd attrs).2 = after := congrArg Prod.snd does
  obtain ⟨moves, isHeld⟩ := handleAttrs_moves before cmd attrs
  have handling := (handling.rely moved).own moves
    ((congrFun isHeld .event).trans (handling.rely moved).held)
  refine ⟨inv.ofEventMoves moves ?_ (inv.owned.handleAttrs cmd attrs), moves, ?_⟩
  · rw [World.handleAttrs_info]
  cases completed with
  | false => exact handling.held
  | true =>
      -- the handler goes
      rintro before moved inv _ after ⟨admitted, env, does⟩
      obtain rfl : before.unregisterVendorHandler .rttEventComplete = after :=
        congrArg Prod.snd does
      have moves := unregisterVendorHandler_moves before .rttEventComplete
      have handling := (handling.rely moved).own moves (handling.rely moved).held
      have bare : HandlingBare cmd [cmd] _ :=
        ⟨handling, unregisterVendorHandler_bare inv.owned (removals.handler admitted)⟩
      refine ⟨inv.ofEventMoves moves rfl (inv.owned.unregisterVendorHandler _), moves, ?_⟩
      -- the results are freed
      rintro before moved inv _ after ⟨_, env, does⟩
      obtain rfl : before.clearResults cmd = after := congrArg Prod.snd does
      have moves := clearResults_moves before cmd
      have bare := (bare.rely moved).own moves (bare.rely moved).held
      refine ⟨inv.ofEventMoves moves rfl (inv.owned.clearResults cmd), moves, ?_⟩
      rintro before moved inv id after ⟨_, env, does⟩
      have bare := bare.rely moved
      have touched : before.touch cmd = before := inv.owned.touch_eq
        (List.mem_append_right _ (by rw [bare.held]; exact List.mem_cons_self))
      obtain rfl : before = after := by
        rw [← touched]
        exact congrArg Prod.snd does
      exact ⟨inv, .refl before, wp_releaseSlot removals id bare⟩

theorem wp_handleEvent (removals : side.OwnRemovals cleanup) {event : VendorEvent}
    (attrs : List RttAttr) (dispatched : Dispatched event cmd world) :
    (ownership side cleanup).wp .event (handleEvent cmd attrs)
      (fun _ world => world.held .event = [cmd]) world := by
  rintro before moved inv type after ⟨_, env, does⟩
  have dispatched := dispatched.rely moved
  have touched : before.touch cmd = before := inv.owned.touch_eq
    (List.mem_append_right _ (by rw [dispatched.held]; exact List.mem_cons_self))
  obtain rfl : before = after := by
    rw [← touched]
    exact congrArg Prod.snd does
  obtain rfl : (before.heap cmd).mType = type := congrArg Prod.fst does
  refine ⟨inv, .refl before, ?_⟩
  dsimp only [Prog.bind]
  split
  · rename_i isRtt
    have subscribes := dispatched.subscribes
    rw [isRtt] at subscribes
    obtain rfl := eq_rtt_of_subscribes subscribes
    exact wp_rttHandleEvent removals attrs
      ⟨dispatched.held, dispatched.exists_cmd, isRtt, dispatched.registered⟩
  · exact dispatched.held

theorem findAndAddRef_of_found (inv : OwnedWorld cleanup world) {msg : NlMsg} {entry : CbInfo}
    (found : findHandler world.info msg = some entry) :
    ∃ event cmd, entry = vendorEntry event cmd ∧ cmd ∈ world.owners ∧
      event ∈ (world.heap cmd).mType.events ∧ .registered event cmd ∈ world.log ∧
      world.findAndAddRef .event msg = world.addRef .event cmd := by
  have member : entry ∈ world.info.events := by
    rw [findHandler_eq] at found
    exact List.mem_of_find?_eq_some found
  obtain ⟨event, cmd, owns, rfl, subscribes, registered⟩ := inv.owned.entries entry member
  refine ⟨event, cmd, rfl, owns, subscribes, registered, ?_⟩
  unfold World.findAndAddRef
  rw [found]
  rfl

theorem wp_internalValidMessageHandler (removals : side.OwnRemovals cleanup) (msg : NlMsg)
    (idle : world.held .event = []) :
    (ownership side cleanup).wp .event (internalValidMessageHandler msg)
      (ownershipPost .event) world := by
  unfold internalValidMessageHandler
  split
  · exact idle
  rintro before moved inv found after ⟨_, env, does⟩
  have idle : before.held .event = [] := (ApiMoves.held moved).trans idle
  obtain rfl : before.findAndAddRef .event msg = after := congrArg Prod.snd does
  obtain rfl : findHandler before.info msg = found := congrArg Prod.fst does
  cases found : findHandler before.info msg with
  | none =>
      have unchanged : before.findAndAddRef .event msg = before := by
        unfold World.findAndAddRef
        rw [found]
      rw [unchanged]
      exact ⟨inv, .refl before, idle⟩
  | some entry =>
      obtain ⟨event, cmd, rfl, owns, subscribes, registered, added⟩ :=
        findAndAddRef_of_found inv found
      rw [added]
      obtain ⟨moves, isHeld⟩ := addRef_moves inv.owned owns
      have inv' := inv.ofEventMoves moves (by rw [World.addRef_info]) (inv.owned.addRef owns)
      have dispatched : Dispatched event cmd (before.addRef .event cmd) := by
        refine ⟨by rw [isHeld, idle], ?_, ?_, ?_⟩
        · rw [World.addRef_next]
          exact inv.owned.exist cmd (List.mem_append_left _ owns)
        · rw [moves.types cmd]
          exact subscribes
        · exact (registered_iff_of_record moves.record _ _).mpr registered
      refine ⟨inv', moves, ?_⟩
      have handled : callback (vendorEntry event cmd) msg = handleEvent cmd msg.vendorData := rfl
      dsimp only [Prog.bind]
      rw [handled]
      refine ((ownership side cleanup).wp_bind .event _ _ _ _).mpr ?_
      refine (ownership side cleanup).wp_mono .event _
        (wp_handleEvent removals msg.vendorData dispatched) ?_
      -- the dispatch gives its reference back
      rintro _ handledWorld isHeld before moved inv _ after ⟨_, env, does⟩
      obtain rfl : before.releaseRef .event cmd = after := congrArg Prod.snd does
      have isHeld : before.held .event = [cmd] := (ApiMoves.held moved).trans isHeld
      have holds : cmd ∈ before.held .event := by
        rw [isHeld]
        exact List.mem_cons_self
      obtain ⟨moves, released⟩ := releaseRef_event_moves inv.owned holds
      have left : (before.releaseRef .event cmd).held .event = [] := by
        rw [released, isHeld, List.erase_cons_head]
      refine ⟨inv.ofEventMoves moves ?_ (inv.owned.releaseRef_event holds), moves, left⟩
      rw [World.releaseRef_info]

end Event

end Mt6757.WifiHal
