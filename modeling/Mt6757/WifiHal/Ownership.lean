import Mt6757.WifiHal.System

/-!
# Who owns a command

A command is kept alive by the references of its owners and of the dispatches
under way.  The tables do not record the owner of an entry; this is the invariant
that ties the two tables, the manual counts and the references together, and what
every operation does to it.
-/

set_option autoImplicit false

namespace Mt6757.WifiHal

open CommandTree

/-- The observations that the invariant is about. -/
def Observation.bears : Observation → Bool
  | .registered _ _ => true
  | .usedAfterDelete _ => true
  | _ => false

/-- `owners` lists the commands with a reference outside of dispatches, each
once.  Only they have handlers, and one at most for an event. -/
structure Owned (owners : List Ptr) (world : World) : Prop where
  refs : ∀ cmd, cmd < world.next →
    (world.heap cmd).mRefs = (owners ++ world.held .event).count cmd
  deleted : ∀ cmd, cmd < world.next →
    ((world.heap cmd).deleted = true ↔ (world.heap cmd).mRefs = 0)
  exist : ∀ cmd ∈ owners ++ world.held .event, cmd < world.next
  distinct : owners.Nodup
  entries : ∀ entry ∈ world.info.events, ∃ event, ∃ cmd ∈ owners,
    entry = vendorEntry event cmd ∧ event ∈ (world.heap cmd).mType.events ∧
      .registered event cmd ∈ world.log
  once : world.info.events.Nodup
  recorded : ∀ event cmd, .registered event cmd ∈ world.log → cmd < world.next
  unused : ∀ cmd, .usedAfterDelete cmd ∉ world.log

theorem vendorEntry_injective {event event' : VendorEvent} {cmd cmd' : Ptr}
    (same : vendorEntry event cmd = vendorEntry event' cmd') : event = event' ∧ cmd = cmd' := by
  simp only [vendorEntry, CbInfo.mk.injEq, Option.some.injEq, true_and] at same
  exact ⟨VendorEvent.subcmd_injective same.1, same.2⟩

theorem mem_log_iff {log log' : List Observation}
    (same : log'.filter Observation.bears = log.filter Observation.bears)
    {observation : Observation} (bears : observation.bears = true) :
    observation ∈ log' ↔ observation ∈ log := by
  have filtered := congrArg (observation ∈ ·) same
  simpa [List.mem_filter, bears] using filtered

namespace Owned

variable {owners : List Ptr} {world : World}

/-! ## Owners are alive -/

theorem refs_pos (owned : Owned owners world) {cmd : Ptr}
    (member : cmd ∈ owners ++ world.held .event) : 0 < (world.heap cmd).mRefs := by
  rw [owned.refs cmd (owned.exist cmd member)]
  exact_mod_cast List.count_pos_iff.mpr member

theorem alive (owned : Owned owners world) {cmd : Ptr}
    (member : cmd ∈ owners ++ world.held .event) : (world.heap cmd).deleted = false := by
  have positive := owned.refs_pos member
  rw [Bool.eq_false_iff]
  intro gone
  have zero := (owned.deleted cmd (owned.exist cmd member)).mp gone
  omega

theorem touch_eq (owned : Owned owners world) {cmd : Ptr}
    (member : cmd ∈ owners ++ world.held .event) : world.touch cmd = world :=
  world.touch_of_not_deleted cmd (owned.alive member)

theorem arg_mem (owned : Owned owners world) {entry : CbInfo}
    (member : entry ∈ world.info.events) {cmd : Ptr} (arg : entry.cbArg = some cmd) :
    cmd ∈ owners := by
  obtain ⟨event, owner, inOwners, rfl, _⟩ := owned.entries entry member
  obtain rfl : owner = cmd := by simpa [vendorEntry] using arg
  exact inOwners

theorem touchHandlers_eq (owned : Owned owners world) {entries : List CbInfo}
    (among : entries ⊆ world.info.events) : world.touchHandlers entries = world := by
  induction entries with
  | nil => rfl
  | cons entry rest ih =>
      rw [List.cons_subset] at among
      unfold World.touchHandlers
      cases arg : entry.cbArg with
      | none => exact ih among.2
      | some cmd =>
          dsimp only
          rw [owned.touch_eq (List.mem_append_left _ (owned.arg_mem among.1 arg))]
          exact ih among.2

/-! ## Operations that move no reference -/

/-- The invariant does not look at the results of a range request, survives the
removal of handlers, and takes no notice of most observations. -/
theorem keep (owned : Owned owners world) {world' : World}
    (events : world'.info.events.Sublist world.info.events)
    (held : world'.held .event = world.held .event) (next : world'.next = world.next)
    (objects : ∀ cmd, world'.heap cmd = { world.heap cmd with rtt := (world'.heap cmd).rtt })
    (record : world'.log.filter Observation.bears = world.log.filter Observation.bears) :
    Owned owners world' where
  refs := by
    intro cmd exists_cmd
    rw [next] at exists_cmd
    rw [objects, held]
    exact owned.refs cmd exists_cmd
  deleted := by
    intro cmd exists_cmd
    rw [next] at exists_cmd
    rw [objects]
    exact owned.deleted cmd exists_cmd
  exist := by
    rw [held, next]
    exact owned.exist
  distinct := owned.distinct
  entries := by
    intro entry member
    obtain ⟨event, cmd, inOwners, shape, subscribes, registered⟩ :=
      owned.entries entry (events.subset member)
    refine ⟨event, cmd, inOwners, shape, ?_, (mem_log_iff record rfl).mpr registered⟩
    rw [objects]
    exact subscribes
  once := owned.once.sublist events
  recorded := by
    intro event cmd registered
    rw [next]
    exact owned.recorded event cmd ((mem_log_iff record rfl).mp registered)
  unused := fun cmd used => owned.unused cmd ((mem_log_iff record rfl).mp used)

theorem perm (owned : Owned owners world) {owners' : List Ptr} (same : owners.Perm owners') :
    Owned owners' world where
  refs := by
    intro cmd exists_cmd
    rw [owned.refs cmd exists_cmd, List.count_append, List.count_append, same.count_eq cmd]
  deleted := owned.deleted
  exist := by
    intro cmd member
    refine owned.exist cmd ?_
    rw [List.mem_append] at member ⊢
    rwa [same.mem_iff]
  distinct := same.nodup_iff.mp owned.distinct
  entries := by
    intro entry member
    obtain ⟨event, cmd, inOwners, rest⟩ := owned.entries entry member
    exact ⟨event, cmd, same.mem_iff.mp inOwners, rest⟩
  once := owned.once
  recorded := owned.recorded
  unused := owned.unused

theorem unregisterVendorHandler (owned : Owned owners world) (event : VendorEvent) :
    Owned owners (world.unregisterVendorHandler event) := by
  refine owned.keep ?_ rfl rfl (fun _ => rfl) rfl
  rw [World.unregisterVendorHandler_events]
  exact List.eraseP_sublist

theorem handleAttrs (owned : Owned owners world) (this : Ptr) (attrs : List RttAttr) :
    Owned owners (world.handleAttrs this attrs).2 := by
  have objects : ∀ rtt cmd, (world.setCommand this { world.heap this with rtt := rtt }).heap cmd =
      { world.heap cmd with
        rtt := ((world.setCommand this { world.heap this with rtt := rtt }).heap cmd).rtt } := by
    intro rtt cmd
    by_cases same : cmd = this
    · subst same
      simp
    · simp [Function.update_of_ne same]
  unfold World.handleAttrs
  dsimp only
  split
  · exact owned.keep (List.Sublist.refl _) rfl rfl (objects _) rfl
  · exact owned.keep (List.Sublist.refl _) rfl rfl (objects _) rfl

theorem clearResults (owned : Owned owners world) (this : Ptr) :
    Owned owners (world.clearResults this) := by
  refine owned.keep (List.Sublist.refl _) rfl rfl (fun cmd => ?_) rfl
  unfold World.clearResults
  by_cases same : cmd = this
  · subst same
    simp
  · simp [Function.update_of_ne same]

theorem note (owned : Owned owners world) {observation : Observation}
    (bears : observation.bears = false) : Owned owners (world.note observation) :=
  owned.keep (List.Sublist.refl _) rfl rfl (fun _ => rfl) (by simp [bears])

/-! ## Registrations -/

theorem registerVendorHandler (owned : Owned owners world) {this : Ptr} {event : VendorEvent}
    (owns : this ∈ owners) (subscribes : event ∈ (world.heap this).mType.events)
    (first : .registered event this ∉ world.log) :
    Owned owners (world.registerVendorHandler this event) where
  refs := owned.refs
  deleted := owned.deleted
  exist := owned.exist
  distinct := owned.distinct
  entries := by
    intro entry member
    rw [World.registerVendorHandler_events] at member
    have old : entry ∈ world.info.events → ∃ event', ∃ cmd ∈ owners,
        entry = vendorEntry event' cmd ∧ event' ∈ (world.heap cmd).mType.events ∧
          .registered event' cmd ∈ (world.registerVendorHandler this event).log := by
      intro member
      obtain ⟨event', cmd, inOwners, shape, subscribes, registered⟩ := owned.entries entry member
      exact ⟨event', cmd, inOwners, shape, subscribes, List.mem_cons_of_mem _ registered⟩
    split at member
    · rcases List.mem_append.mp member with member | new
      · exact old member
      · exact ⟨event, this, owns, List.mem_singleton.mp new, subscribes, List.mem_cons_self⟩
    · exact old member
  once := by
    rw [World.registerVendorHandler_events]
    have absent : vendorEntry event this ∉ world.info.events := by
      intro member
      obtain ⟨event', cmd, _, shape, _, registered⟩ := owned.entries _ member
      obtain ⟨rfl, rfl⟩ := vendorEntry_injective shape
      exact first registered
    split
    · refine List.nodup_append.mpr ⟨owned.once, List.nodup_singleton _, ?_⟩
      intro entry member entry' new same
      rw [List.mem_singleton] at new
      exact absent (new ▸ same ▸ member)
    · exact owned.once
  recorded := by
    intro event' cmd registered
    rcases List.mem_cons.mp registered with new | old
    · obtain ⟨rfl, rfl⟩ : event' = event ∧ cmd = this := by simpa using new
      exact owned.exist cmd (List.mem_append_left _ owns)
    · exact owned.recorded event' cmd old
  unused := by
    intro cmd used
    rcases List.mem_cons.mp used with new | old
    · contradiction
    · exact owned.unused cmd old

/-! ## References -/

theorem newCommand (owned : Owned owners world) (type : CommandType) (id : Int32) :
    Owned (world.next :: owners) (world.newCommand .api type id) := by
  have notOwner : world.next ∉ owners ++ world.held .event :=
    fun member => Nat.lt_irrefl _ (owned.exist _ member)
  have old : ∀ cmd, cmd ≠ world.next →
      (world.newCommand .api type id).heap cmd = world.heap cmd := by
    intro cmd other
    simp [World.newCommand, Function.update_of_ne other]
  have new : (world.newCommand .api type id).heap world.next = ⟨type, id, 1, false, .fresh⟩ := by
    simp [World.newCommand]
  have below : ∀ cmd, cmd < world.next + 1 → cmd ≠ world.next → cmd < world.next :=
    fun cmd exists_cmd other => Nat.lt_of_le_of_ne (Nat.lt_succ_iff.mp exists_cmd) other
  have held : (world.newCommand .api type id).held .event = world.held .event := by
    simp [World.newCommand]
  refine ⟨?_, ?_, ?_, ?_, ?_, owned.once, ?_, owned.unused⟩
  · intro cmd exists_cmd
    by_cases same : cmd = world.next
    · subst same
      rw [new, held, List.cons_append, List.count_cons_self, List.count_eq_zero.mpr notOwner]
      rfl
    · rw [old cmd same, owned.refs cmd (below cmd exists_cmd same), held, List.cons_append,
        List.count_cons_of_ne (Ne.symm same)]
  · intro cmd exists_cmd
    by_cases same : cmd = world.next
    · subst same
      simp [new]
    · rw [old cmd same]
      exact owned.deleted cmd (below cmd exists_cmd same)
  · intro cmd member
    rw [held, List.cons_append, List.mem_cons] at member
    rcases member with rfl | member
    · exact Nat.lt_succ_self _
    · exact Nat.lt_succ_of_lt (owned.exist cmd member)
  · exact List.nodup_cons.mpr ⟨fun member => notOwner (List.mem_append_left _ member),
      owned.distinct⟩
  · intro entry member
    obtain ⟨event, cmd, inOwners, shape, subscribes, registered⟩ := owned.entries entry member
    have other : cmd ≠ world.next := by
      rintro rfl
      exact notOwner (List.mem_append_left _ inOwners)
    refine ⟨event, cmd, List.mem_cons_of_mem _ inOwners, shape, ?_, registered⟩
    rw [old cmd other]
    exact subscribes
  · exact fun event cmd registered => Nat.lt_succ_of_lt (owned.recorded event cmd registered)

theorem addRef (owned : Owned owners world) {cmd : Ptr} (owns : cmd ∈ owners) :
    Owned owners (world.addRef .event cmd) := by
  have member : cmd ∈ owners ++ world.held .event := List.mem_append_left _ owns
  have added : world.addRef .event cmd = (world.setCommand cmd
      { world.heap cmd with mRefs := (world.heap cmd).mRefs + 1 }).give .event cmd := by
    unfold World.addRef
    rw [owned.touch_eq member]
  rw [added]
  refine ⟨?_, ?_, ?_, owned.distinct, ?_, owned.once, owned.recorded, owned.unused⟩
  · intro other exists_other
    have refs := owned.refs other exists_other
    rw [List.count_append] at refs
    simp only [World.give_held, Function.update_self, List.count_append]
    by_cases same : other = cmd
    · subst same
      simp only [World.give_heap, World.setCommand_heap, Function.update_self,
        World.setCommand_held, List.count_cons_self]
      push_cast at refs ⊢
      omega
    · simp only [World.give_heap, World.setCommand_heap, Function.update_of_ne same,
        World.setCommand_held, List.count_cons_of_ne (Ne.symm same)]
      exact refs
  · intro other exists_other
    by_cases same : other = cmd
    · subst same
      have alive := owned.alive member
      have positive := owned.refs_pos member
      simp only [World.give_heap, World.setCommand_heap, Function.update_self, alive,
        Bool.false_eq_true, false_iff]
      omega
    · simp only [World.give_heap, World.setCommand_heap, Function.update_of_ne same]
      exact owned.deleted other exists_other
  · intro other isHeld
    simp only [World.give_held, Function.update_self, List.mem_append, List.mem_cons,
      World.setCommand_held] at isHeld
    rcases isHeld with inOwners | rfl | inHeld
    · exact owned.exist other (List.mem_append_left _ inOwners)
    · exact owned.exist other member
    · exact owned.exist other (List.mem_append_right _ inHeld)
  · intro entry inEvents
    obtain ⟨event, owner, inOwners, shape, subscribes, registered⟩ :=
      owned.entries entry inEvents
    refine ⟨event, owner, inOwners, shape, ?_, registered⟩
    by_cases same : owner = cmd
    · subst same
      simpa using subscribes
    · simpa [Function.update_of_ne same] using subscribes

/-- The reference of an owner without handlers passes to a dispatch. -/
theorem receive (owned : Owned owners world) {cmd : Ptr} (owns : cmd ∈ owners)
    (noHandlers : ∀ event, vendorEntry event cmd ∉ world.info.events) :
    Owned (owners.erase cmd) (world.give .event cmd) := by
  refine ⟨?_, owned.deleted, ?_, owned.distinct.erase cmd, ?_, owned.once, owned.recorded,
    owned.unused⟩
  · intro other exists_other
    rw [World.give_heap, owned.refs other exists_other]
    simp only [World.give_held, Function.update_self, List.count_append]
    by_cases same : other = cmd
    · subst same
      have positive := List.count_pos_iff.mpr owns
      rw [List.count_erase_self, List.count_cons_self]
      omega
    · rw [List.count_erase_of_ne same, List.count_cons_of_ne (Ne.symm same)]
  · intro other member
    simp only [World.give_held, Function.update_self, List.mem_append, List.mem_cons] at member
    rcases member with inOwners | rfl | inHeld
    · exact owned.exist other (List.mem_append_left _ (List.mem_of_mem_erase inOwners))
    · exact owned.exist other (List.mem_append_left _ owns)
    · exact owned.exist other (List.mem_append_right _ inHeld)
  · intro entry member
    obtain ⟨event, owner, inOwners, shape, rest⟩ := owned.entries entry member
    have other : owner ≠ cmd := by
      rintro rfl
      exact noHandlers event (shape ▸ member)
    exact ⟨event, owner, (List.mem_erase_of_ne other).mpr inOwners, shape, rest⟩

section Release

variable {cmd : Ptr}

theorem releaseRef_eq (owned : Owned owners world) (t : Thread)
    (member : cmd ∈ owners ++ world.held .event) :
    world.releaseRef t cmd = ((world.setCommand cmd
      { world.heap cmd with
        mRefs := (world.heap cmd).mRefs - 1
        deleted := (world.heap cmd).mRefs - 1 == 0 }).take t cmd).note (.released t cmd) := by
  unfold World.releaseRef
  dsimp only
  rw [owned.touch_eq member, owned.alive member, Bool.false_or]

/-- A release takes one reference away, wherever it was counted. -/
theorem released (owned : Owned owners world) (t : Thread)
    (member : cmd ∈ owners ++ world.held .event)
    {owners' : List Ptr}
    (counts : ∀ other, (owners' ++ (world.releaseRef t cmd).held .event).count other =
      (owners ++ world.held .event).count other - if other = cmd then 1 else 0)
    (among : owners'.Sublist owners)
    (handlers : ∀ event, ∀ other ∈ owners, vendorEntry event other ∈ world.info.events →
      other ∈ owners') :
    Owned owners' (world.releaseRef t cmd) := by
  have positive := List.count_pos_iff.mpr member
  have old : ∀ other, other ≠ cmd →
      (world.releaseRef t cmd).heap other = world.heap other := by
    intro other differ
    rw [World.releaseRef_heap, Function.update_of_ne differ]
  have new : (world.releaseRef t cmd).heap cmd =
      { world.heap cmd with
        mRefs := (world.heap cmd).mRefs - 1
        deleted := (world.heap cmd).mRefs - 1 == 0 } := by
    rw [World.releaseRef_heap, Function.update_self, owned.alive member, Bool.false_or]
  have log : (world.releaseRef t cmd).log = .released t cmd :: world.log := by
    rw [owned.releaseRef_eq t member]
    rfl
  refine ⟨?_, ?_, ?_, owned.distinct.sublist among, ?_, ?_, ?_, ?_⟩
  · intro other exists_other
    rw [World.releaseRef_next] at exists_other
    have refs := owned.refs other exists_other
    rw [counts other]
    by_cases same : other = cmd
    · subst same
      rw [new, if_pos rfl]
      simp only [refs]
      omega
    · rw [old other same, if_neg same, refs, Nat.sub_zero]
  · intro other exists_other
    rw [World.releaseRef_next] at exists_other
    by_cases same : other = cmd
    · subst same
      rw [new]
      simp
    · rw [old other same]
      exact owned.deleted other exists_other
  · intro other remains
    have counted := List.count_pos_iff.mpr remains
    rw [counts other] at counted
    rw [World.releaseRef_next]
    exact owned.exist other (List.count_pos_iff.mp (by omega))
  · intro entry inEvents
    rw [World.releaseRef_info] at inEvents
    obtain ⟨event, owner, inOwners, rfl, subscribes, registered⟩ :=
      owned.entries entry inEvents
    refine ⟨event, owner, handlers event owner inOwners inEvents, rfl, ?_, ?_⟩
    · by_cases same : owner = cmd
      · subst same
        rw [new]
        exact subscribes
      · rw [old owner same]
        exact subscribes
    · rw [log]
      exact List.mem_cons_of_mem _ registered
  · rw [World.releaseRef_info]
    exact owned.once
  · intro event other registered
    rw [log] at registered
    rw [World.releaseRef_next]
    exact owned.recorded event other (by simpa using registered)
  · intro other used
    rw [log] at used
    exact owned.unused other (by simpa using used)

theorem releaseRef_event (owned : Owned owners world) (holds : cmd ∈ world.held .event) :
    Owned owners (world.releaseRef .event cmd) := by
  have member : cmd ∈ owners ++ world.held .event := List.mem_append_right _ holds
  refine owned.released .event member (fun other => ?_) (List.Sublist.refl _)
    fun _ _ inOwners _ => inOwners
  have held : (world.releaseRef .event cmd).held .event = (world.held .event).erase cmd := by
    rw [owned.releaseRef_eq .event member]
    simp
  rw [held, List.count_append, List.count_append]
  by_cases same : other = cmd
  · subst same
    have positive := List.count_pos_iff.mpr holds
    rw [List.count_erase_self, if_pos rfl]
    omega
  · rw [List.count_erase_of_ne same, if_neg same, Nat.sub_zero]

/-- The owner of the last reference outside of dispatches has no handlers. -/
theorem releaseRef_api (owned : Owned owners world) (owns : cmd ∈ owners)
    (noHandlers : ∀ event, vendorEntry event cmd ∉ world.info.events) :
    Owned (owners.erase cmd) (world.releaseRef .api cmd) := by
  have member : cmd ∈ owners ++ world.held .event := List.mem_append_left _ owns
  refine owned.released .api member (fun other => ?_) List.erase_sublist ?_
  · have held : (world.releaseRef .api cmd).held .event = world.held .event := by
      rw [owned.releaseRef_eq .api member]
      simp
    rw [held, List.count_append, List.count_append]
    by_cases same : other = cmd
    · subst same
      have positive := List.count_pos_iff.mpr owns
      rw [List.count_erase_self, if_pos rfl]
      omega
    · rw [List.count_erase_of_ne same, if_neg same, Nat.sub_zero]
  · intro event other inOwners inEvents
    refine (List.mem_erase_of_ne ?_).mpr inOwners
    rintro rfl
    exact noHandlers event inEvents

end Release

end Owned

end Mt6757.WifiHal
