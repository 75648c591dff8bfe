import Mt6757.WifiHal.Sequential

/-!
# What a stop call does to other requests

`cancel` unregisters by event, so a stop call may take the handler of a command
that has nothing to do with the request it ends.
-/

set_option autoImplicit false

namespace Mt6757.WifiHal

open CommandTree KeyedList

def OtherCommand (world : World) (id : Int32) (cmd : Ptr) : Prop :=
  ∃ entry ∈ world.info.cmds, entry.id ≠ id ∧ entry.cmd = cmd

def entriesOf (events : List CbInfo) (cmd : Ptr) : List CbInfo :=
  events.filter fun entry => entry.cbArg == some cmd

/-- The other commands keep their handlers in their order, stay registered, and
are still handed what was handed to them. -/
structure OthersUndisturbed (id : Int32) (world after : World) : Prop where
  entries : ∀ cmd, OtherCommand world id cmd →
    entriesOf after.info.events cmd = entriesOf world.info.events cmd
  dispatch : ∀ msg entry cmd, OtherCommand world id cmd →
    findHandler world.info msg = some entry → entry.cbArg = some cmd →
      findHandler after.info msg = some entry ∧ OtherCommand after id cmd

/-- The handlers a stop call removes, the oldest of each of its events, belong to
no other command. -/
def SparesOthers (env : Env) (type : CommandType) (id : Int32) (world : World) : Prop :=
  ∀ event ∈ stoppedEvents env type id world,
    ∀ entry ∈ world.info.events.find? (isEventEntry event),
      ∀ cmd, OtherCommand world id cmd → entry.cbArg ≠ some cmd

theorem otherCommand_after_stop (t : Thread) (env : Env) (type : CommandType) (id : Int32)
    (world : World) {cmd : Ptr} (other : OtherCommand world id cmd) :
    OtherCommand ((ApiCall.stop type id).program.run (exec t env) world).2 id cmd := by
  obtain ⟨entry, member, otherId, same⟩ := other
  refine ⟨entry, ?_, otherId, same⟩
  rw [(run_stop t env type id world).2]
  split
  · exact member
  · exact (List.mem_eraseP_of_neg (by simpa using otherId)).mpr member

/-- A stop call leaves every other command undisturbed exactly when it spares
their handlers. -/
theorem stop_undisturbed_iff (env : Env) (type : CommandType) (id : Int32) (world : World) :
    OthersUndisturbed id world ((ApiCall.stop type id).program.run (exec .api env) world).2 ↔
      SparesOthers env type id world := by
  obtain ⟨events, _⟩ := run_stop .api env type id world
  have distinct := stoppedEvents_nodup env type id world
  have kept : ∀ cmd, entriesOf
      ((ApiCall.stop type id).program.run (exec .api env) world).2.info.events cmd =
        entriesOf world.info.events cmd ↔
      ∀ event ∈ stoppedEvents env type id world,
        ∀ entry ∈ world.info.events.find? (isEventEntry event), entry.cbArg ≠ some cmd := by
    intro cmd
    unfold entriesOf
    rw [events, filter_eraseEach_eq_iff isEventEntry_exclusive distinct]
    simp only [beq_eq_false_iff_ne]
  constructor
  · intro undisturbed event member entry found cmd other
    exact (kept cmd).mp (undisturbed.entries cmd other) event member entry found
  · intro spares
    refine ⟨fun cmd other => (kept cmd).mpr fun event member entry found =>
      spares event member entry found cmd other, ?_⟩
    intro msg entry cmd other found arg
    refine ⟨?_, otherCommand_after_stop .api env type id world other⟩
    rw [findHandler_eq] at found ⊢
    rw [events]
    refine find?_eraseEach_of_kept isEventEntry_exclusive distinct
      (fun entry => entry.cbArg == some cmd) ?_ found (by simpa using arg)
    intro event member first isFirst
    simpa using spares event member first isFirst cmd other

/-- Stopping the second of two scans unregisters the first. -/
theorem stop_disturbs_other_scan :
    ¬ ∀ pool, Reachable pool → (pool.shared.info.cmds.map CmdInfo.id).Nodup →
      ∀ (type : CommandType) (id : Int32) (env : Env),
        OthersUndisturbed id pool.shared
          ((ApiCall.stop type id).program.run (exec .api env) pool.shared).2 := by
  intro undisturbed
  obtain ⟨pool, reached, lost⟩ := exists_reachable_of_play .always
    [.call (.start .scan 1), .finish .api (.rejecting none),
      .call (.start .scan 2), .finish .api (.rejecting none)]
    (fun pool =>
      let after := ((ApiCall.stop .scan 2).program.run (exec .api (.rejecting none)) pool.shared).2
      decide (pool.shared.info.cmds.map CmdInfo.id).Nodup &&
        pool.shared.info.cmds.contains ⟨1, 0⟩ &&
        entriesOf after.info.events 0 != entriesOf pool.shared.info.events 0)
    (by decide +kernel)
  simp only [Bool.and_eq_true, decide_eq_true_eq, List.contains_iff_mem, bne_iff_ne] at lost
  obtain ⟨⟨distinct, registered⟩, changed⟩ := lost
  exact changed ((undisturbed pool reached distinct .scan 2 _).entries 0
    ⟨_, registered, by decide, rfl⟩)

end Mt6757.WifiHal
