import Mt6757.WifiHal.OwnershipCalls
import Mt6757.WifiHal.TableLeak

/-!
# The HAL between calls

Once both threads have returned, no reference is held for a call or a dispatch:
the command table accounts for every command that is alive.  When requests also
end in the table, the tables are back in their initial state as soon as none is
outstanding.
-/

set_option autoImplicit false

namespace Mt6757.WifiHal

open CommandTree

/-! ## Stronger side conditions -/

def Side.both (side side' : Side) : Side where
  call := fun call world => side.call call world ∧ side'.call call world
  op := fun t op world => side.op t op world ∧ side'.op t op world

instance (side side' : Side) [∀ call world, Decidable (side.call call world)]
    [∀ call world, Decidable (side'.call call world)] (call : ApiCall) (world : World) :
    Decidable ((side.both side').call call world) :=
  inferInstanceAs (Decidable (_ ∧ _))

instance (side side' : Side) [∀ t op world, Decidable (side.op t op world)]
    [∀ t op world, Decidable (side'.op t op world)] (t : Thread) (op : HalOp) (world : World) :
    Decidable ((side.both side').op t op world) :=
  inferInstanceAs (Decidable (_ ∧ _))

theorem ReachableWhen.mono {side side' : Side}
    (calls : ∀ call world, side.call call world → side'.call call world)
    (ops : ∀ t op world, side.op t op world → side'.op t op world) {pool : HalPool}
    (reached : ReachableWhen side pool) : ReachableWhen side' pool := by
  obtain ⟨eventFill, cmdFill, reaches⟩ := reached
  refine ⟨eventFill, cmdFill, reaches.mono ?_ ?_⟩
  · intro t op world result after does
    exact ⟨ops t op world does.1, does.2⟩
  · intro t world program called
    cases called with
    | api call _ admitted => exact .api call world (calls call world admitted)
    | event msg _ => exact .event msg world

theorem ReachableWhen.left {side side' : Side} {pool : HalPool}
    (reached : ReachableWhen (side.both side') pool) : ReachableWhen side pool :=
  reached.mono (fun _ _ => And.left) (fun _ _ _ => And.left)

theorem ReachableWhen.right {side side' : Side} {pool : HalPool}
    (reached : ReachableWhen (side.both side') pool) : ReachableWhen side' pool :=
  reached.mono (fun _ _ => And.right) (fun _ _ _ => And.right)

/-! ## Between calls -/

section Rest

variable {Op : Type} {Res : Op → Type} {σ : Type} {pool : Pool Thread Op Res Int σ}

def AtRest (pool : Pool Thread Op Res Int σ) : Prop := ∀ t, pool.Returned t

theorem atRest_of_isReturned (api : isReturned .api pool = true)
    (event : isReturned .event pool = true) : AtRest pool := by
  intro t
  cases t with
  | api => exact returned_of_isReturned api
  | event => exact returned_of_isReturned event

end Rest

theorem wholeAtRest {fine : FinePool} {pool : HalPool}
    (simulates : commandTable.Simulates KeepsEntries fine pool) (rest : AtRest fine) :
    AtRest pool ∧ fine.shared.state = pool.shared := by
  refine ⟨fun t => ?_, simulates.state_of_returned rest⟩
  obtain ⟨value, returned⟩ := rest t
  exact ⟨value, simulates.returned returned⟩

/-- The commands that were created and not deleted. -/
def World.living (world : World) : List Ptr :=
  (List.range world.next).filter fun cmd => !(world.heap cmd).deleted

theorem World.mem_living {world : World} {cmd : Ptr} :
    cmd ∈ world.living ↔ cmd < world.next ∧ (world.heap cmd).deleted = false := by
  unfold World.living
  rw [List.mem_filter, List.mem_range, Bool.not_eq_true']

/-- The command table holds the one reference of every living command, and only
commands in it have handlers. -/
structure Accounted (world : World) : Prop where
  living : world.living.Perm (world.info.cmds.map CmdInfo.cmd)
  single : ∀ cmd ∈ world.living, (world.heap cmd).mRefs = 1
  gone : ∀ cmd, cmd < world.next → (world.heap cmd).deleted = true → (world.heap cmd).mRefs = 0
  handlers : ∀ entry ∈ world.info.events, ∃ event, ∃ cmd ∈ world.living,
    entry = vendorEntry event cmd ∧ event ∈ (world.heap cmd).mType.events
  once : world.info.events.Nodup

section Owned

variable {world : World}

theorem owners_of_idle (idle : Idle world) : world.owners = world.info.cmds.map CmdInfo.cmd := by
  unfold World.owners
  rw [idle.running, idle.held, if_neg Bool.false_ne_true, List.append_nil]

theorem Owned.mem_living {owners : List Ptr} (owned : Owned owners world)
    (quiet : world.held .event = []) (cmd : Ptr) : cmd ∈ world.living ↔ cmd ∈ owners := by
  rw [World.mem_living]
  constructor
  · rintro ⟨exists_cmd, alive⟩
    have refs := owned.refs cmd exists_cmd
    have counted := owned.deleted cmd exists_cmd
    rw [alive, refs, quiet, List.append_nil] at counted
    apply List.count_pos_iff.mp
    by_contra none
    have zero : owners.count cmd = 0 := Nat.eq_zero_of_not_pos none
    rw [zero] at counted
    exact Bool.false_ne_true (counted.mpr rfl)
  · intro owns
    have member : cmd ∈ owners ++ world.held .event := List.mem_append_left _ owns
    exact ⟨owned.exist cmd member, owned.alive member⟩

theorem Owned.accounted (owned : Owned (world.info.cmds.map CmdInfo.cmd) world)
    (quiet : world.held .event = []) : Accounted world where
  living := by
    apply (List.perm_ext_iff_of_nodup ?_ owned.distinct).mpr (owned.mem_living quiet)
    exact List.nodup_range.filter _
  single := by
    intro cmd member
    have owns := (owned.mem_living quiet cmd).mp member
    rw [owned.refs cmd (World.mem_living.mp member).1, quiet, List.append_nil,
      List.count_eq_one_of_mem owned.distinct owns]
    rfl
  gone := fun cmd exists_cmd => (owned.deleted cmd exists_cmd).mp
  handlers := by
    intro entry inEvents
    obtain ⟨event, cmd, owns, shape, subscribes, _⟩ := owned.entries entry inEvents
    exact ⟨event, cmd, (owned.mem_living quiet cmd).mpr owns, shape, subscribes⟩
  once := owned.once

end Owned

theorem accounted_of_reachable {pool : HalPool} (reached : ReachableWhen .ownRemovals pool)
    (rest : AtRest pool) : Accounted pool.shared := by
  have good := ownership_good_of_reachable reached
  obtain ⟨_, idle | cleaned⟩ := Discipline.post_of_returned _ good (rest .api)
  · obtain ⟨_, quiet⟩ := Discipline.post_of_returned _ good (rest .event)
    have owned := good.1.owned
    rw [owners_of_idle ⟨idle.1, idle.2⟩] at owned
    exact owned.accounted quiet
  · exact (good.1.cleaning cleaned.cleaning).elim

/-- In every run whose removals take away what belongs to the command that asks
for it, and whose changes of the command table are kept apart, that table accounts
for every command whenever both threads are between calls. -/
theorem accounted_at_rest {fine : FinePool} (reached : ApartReachable .ownRemovals fine)
    (rest : AtRest fine) : Accounted fine.shared.state := by
  obtain ⟨pool, whole, simulates⟩ := reached.simulates
  obtain ⟨rest, state⟩ := wholeAtRest simulates rest
  rw [state]
  exact accounted_of_reachable whole rest

/-- A scan goes on after a range request that an event completes, while a hotlist is
set whose setup the driver rejects. -/
theorem accounted_at_rest_of_scan : ∃ fine, ApartReachable .ownRemovals fine ∧
    fine.shared.state.living = [0] ∧ fine.shared.state.next = 3 ∧
      Accounted fine.shared.state := by
  obtain ⟨fine, reached, played⟩ := exists_apartReachable_of_play .ownRemovals
    ([.call (.start .scan 1), .finish .api (.rejecting none),
      .call (.start .rtt 7), .finish .api (.rejecting none), .call (.start .bssidHotlist 3)] ++
      List.replicate 9 (.act .api (.rejecting (some .hotlistSetup))) ++
      [.message ⟨0, 103, some googleOui, some 4, [.resultsComplete 1]⟩,
        .finish .event (.rejecting none), .finish .api (.rejecting (some .hotlistSetup))])
    (fun fine => isReturned .api fine && isReturned .event fine &&
      fine.shared.state.living == [0] && fine.shared.state.next == 3) (by decide +kernel)
  simp only [Bool.and_eq_true, beq_iff_eq] at played
  obtain ⟨⟨⟨api, event⟩, living⟩, next⟩ := played
  exact ⟨fine, reached, living, next, accounted_at_rest reached (atRest_of_isReturned api event)⟩

/-- The state of the HAL in which nothing is left of past requests. -/
structure Pristine (world : World) : Prop where
  events : world.info.events = []
  cmds : world.info.cmds = []
  deleted : ∀ cmd, cmd < world.next → (world.heap cmd).deleted = true
  released : ∀ cmd, cmd < world.next → (world.heap cmd).mRefs = 0

theorem Accounted.pristine {world : World} (accounted : Accounted world)
    (empty : world.info.cmds = []) : Pristine world := by
  have living : world.living = [] := by
    have perm := accounted.living
    rw [empty] at perm
    exact List.perm_nil.mp perm
  have deleted : ∀ cmd, cmd < world.next → (world.heap cmd).deleted = true := by
    intro cmd exists_cmd
    by_contra alive
    have member : cmd ∈ world.living :=
      World.mem_living.mpr ⟨exists_cmd, by simpa using alive⟩
    rw [living] at member
    exact List.not_mem_nil member
  refine ⟨?_, empty, deleted, fun cmd exists_cmd => ?_⟩
  · apply List.eq_nil_iff_forall_not_mem.mpr
    intro entry member
    obtain ⟨_, cmd, alive, _⟩ := accounted.handlers entry member
    rw [living] at alive
    exact List.not_mem_nil alive
  · exact accounted.gone cmd exists_cmd (deleted cmd exists_cmd)

/-- When requests also end in the table, nothing is left of them once none is
outstanding and both threads are between calls. -/
theorem pristine_at_rest {fine : FinePool}
    (reached : ApartReachable (Side.ownRemovals.both .endsInTable) fine) (rest : AtRest fine)
    (ended : fine.shared.state.outstanding = []) : Pristine fine.shared.state := by
  obtain ⟨pool, whole, simulates⟩ := reached.simulates
  obtain ⟨rest, state⟩ := wholeAtRest simulates rest
  rw [state] at ended ⊢
  apply (accounted_of_reachable whole.left rest).pristine
  apply List.eq_nil_iff_forall_not_mem.mpr
  intro entry member
  have covered := (slotsOutstanding_of_reachable whole.right).covered entry member
  rw [ended] at covered
  exact List.not_mem_nil covered

/-- The scan is being stopped while the range request is completed. -/
theorem pristine_at_rest_of_scan :
    ∃ fine, ApartReachable (Side.ownRemovals.both .endsInTable) fine ∧
      fine.shared.state.next = 2 ∧ Pristine fine.shared.state := by
  obtain ⟨fine, reached, played⟩ := exists_apartReachable_of_play
    (Side.ownRemovals.both .endsInTable)
    ([.call (.start .scan 1), .finish .api (.rejecting none),
      .call (.start .rtt 7), .finish .api (.rejecting none), .call (.stop .scan 1)] ++
      List.replicate 8 (.act .api (.rejecting none)) ++
      [.message ⟨0, 103, some googleOui, some 4, [.resultsComplete 1]⟩,
        .finish .event (.rejecting none), .finish .api (.rejecting none)])
    (fun fine => isReturned .api fine && isReturned .event fine &&
      fine.shared.state.outstanding == [] && fine.shared.state.next == 2) (by decide +kernel)
  simp only [Bool.and_eq_true, beq_iff_eq] at played
  obtain ⟨⟨⟨api, event⟩, ended⟩, next⟩ := played
  exact ⟨fine, reached, next,
    pristine_at_rest reached (atRest_of_isReturned api event) ended⟩

end Mt6757.WifiHal
