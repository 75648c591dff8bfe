import Mathlib.Data.List.Perm.Subperm
import Mt6757.WifiHal.Sequential

/-!
# What a start call leaves behind

When a start call fails the tables should be as they were, and when it succeeds
the command should be subscribed to its events.  Both hold under conditions on
the tables before the call: the rollback removes by event key and by request id,
and the results of the registrations are not looked at.
-/

set_option autoImplicit false

namespace Mt6757.WifiHal

open CommandTree KeyedList

/-! ## The tables after a start call -/

section Run

variable (t : Thread) (env : Env) (type : CommandType) (id : Int32) (world : World)

def World.CmdRoom (world : World) : Prop := world.info.cmds.length < world.info.cmd.alloc

instance : Decidable world.CmdRoom := inferInstanceAs (Decidable (_ < _))

/-- The call creates its command and finds a slot for it, and then it is up to
`start`. -/
def Admits : Prop := env.alloc = true ∧ world.CmdRoom

instance : Decidable (Admits env world) := inferInstanceAs (Decidable (_ ∧ _))

theorem run_wifiStart_of_not_admits (refused : ¬ Admits env world) :
    let done := (wifiStart type id).run (exec t env) world
    done.1 = wifiErrorOutOfMemory ∧ done.2.info = world.info := by
  cases alloc : env.alloc with
  | false => simp [wifiStart, exec, alloc]
  | true =>
      have full : ¬ world.CmdRoom := fun room => refused (And.intro alloc room)
      obtain ⟨failed, unchanged⟩ :=
        (world.newCommand t type id).registerCmd_of_full t id world.next full
      have notSuccess : ¬ wifiErrorOutOfMemory = wifiSuccess := by
        simp [wifiErrorOutOfMemory, wifiSuccess]
      simp only [wifiStart, Prog.run_bind, Prog.run_perform, exec, alloc, if_true, failed,
        unchanged, notSuccess, if_false, run_releaseRef, Prog.run_ret, World.releaseRef_info,
        true_and]
      rfl

theorem run_wifiStart_of_admits (admitted : Admits env world) :
    let done := (wifiStart type id).run (exec t env) world
    let ended := outcome env type.startScript wifiSuccess
    done.1 = ended.result ∧
      done.2.info.events =
        eventsAfter ended world.next world.info.eventCb.alloc world.info.events ∧
      done.2.info.cmds =
        if ended.result = wifiSuccess then world.info.cmds ++ [CmdInfo.mk id world.next]
        else (world.info.cmds ++ [CmdInfo.mk id world.next]).eraseP (CmdInfo.id · == id) := by
  obtain ⟨alloc, room⟩ := admitted
  obtain ⟨success, cmds, eventCb, _, _⟩ :=
    (world.newCommand t type id).registerCmd_of_room t id world.next room
  have started := run_startFrom t env world.next type.startScript wifiSuccess
    ((world.newCommand t type id).registerCmd t id world.next)
  obtain ⟨result, cmd, events⟩ := started
  have sameEvents : ((world.newCommand t type id).registerCmd t id world.next).info.events =
      world.info.events := by
    unfold HalInfo.events
    rw [eventCb]
    rfl
  rw [sameEvents, eventCb] at events
  have sameCmds : ((startFrom world.next type.startScript wifiSuccess).run (exec t env)
      ((world.newCommand t type id).registerCmd t id world.next)).2.info.cmds =
        world.info.cmds ++ [CmdInfo.mk id world.next] := by
    unfold HalInfo.cmds at cmds ⊢
    rw [cmd, cmds]
    rfl
  simp only [wifiStart, Prog.run_bind, Prog.run_perform, exec, alloc, if_true, success, start,
    result]
  split
  · exact ⟨rfl, events, sameCmds⟩
  · simp only [Prog.run_bind, Prog.run_perform, exec, run_releaseRef, Prog.run_ret,
      World.releaseRef_info, World.unregisterCmd_info, wifiUnregisterCmd_cmds, sameCmds, true_and]
    exact ⟨events, trivial⟩

end Run

/-! ## Failed starts -/

/-- A start that fails leaves no trace when it gets no slot, when nothing fails,
or when no other command has its id and no handler of an event that the failing
step rolls back is registered. -/
def LeavesNoTrace (env : Env) (type : CommandType) (id : Int32) (world : World) : Prop :=
  Admits env world →
    ∀ rollback ∈ (outcome env type.startScript wifiSuccess).rollback,
      (∀ entry ∈ world.info.cmds, entry.id ≠ id) ∧
        ∀ event ∈ rollback, ∀ entry ∈ world.info.events, isEventEntry event entry = false

theorem cmds_append_erase_eq_iff {entries : List CmdInfo} {id : Int32} {cmd : Ptr}
    (fresh : ∀ entry ∈ entries, entry.cmd ≠ cmd) :
    (entries ++ [CmdInfo.mk id cmd]).eraseP (CmdInfo.id · == id) = entries ↔
      ∀ entry ∈ entries, entry.id ≠ id := by
  constructor
  · intro same entry member sameId
    -- the entry that goes is an old one, so the new one is left
    have erased : (entries ++ [CmdInfo.mk id cmd]).eraseP (CmdInfo.id · == id) =
        entries.eraseP (CmdInfo.id · == id) ++ [CmdInfo.mk id cmd] :=
      List.eraseP_append_left (by simpa using sameId) _ member
    have left : CmdInfo.mk id cmd ∈ entries := by
      rw [← same, erased]
      exact List.mem_append_right _ List.mem_cons_self
    exact fresh _ left rfl
  · intro absent
    rw [List.eraseP_append_right _ fun entry member => by simpa using absent entry member]
    simp

theorem attempted_nodup (env : Env) (type : CommandType) :
    (outcome env type.startScript wifiSuccess).attempted.Nodup := by
  have distinct : (registrations type.startScript).Nodup := by cases type <;> decide
  exact distinct.sublist (attempted_isPrefix env type.startScript wifiSuccess).sublist

/-- A failed start call puts both tables back exactly under `LeavesNoTrace`. -/
theorem start_failure_undone_iff {pool : HalPool} (reached : Reachable pool)
    (type : CommandType) (id : Int32) (env : Env) :
    (((ApiCall.start type id).program.run (exec .api env) pool.shared).1 ≠ wifiSuccess →
      ((ApiCall.start type id).program.run (exec .api env) pool.shared).2.info.cmds =
          pool.shared.info.cmds ∧
        ((ApiCall.start type id).program.run (exec .api env) pool.shared).2.info.events =
          pool.shared.info.events) ↔
      LeavesNoTrace env type id pool.shared := by
  have wellFormed := wellFormed_of_reachable reached
  rw [ApiCall.program_start]
  by_cases admitted : Admits env pool.shared
  · obtain ⟨result, events, cmds⟩ :=
      run_wifiStart_of_admits .api env type id pool.shared admitted
    have success := outcome_success_iff env type.startScript (everyResultChecked_start type)
      (Int.le_refl wifiSuccess) fun _ => rfl
    simp only [LeavesNoTrace, admitted, forall_const]
    rw [result, events, cmds]
    cases failed : (outcome env type.startScript wifiSuccess).rollback with
    | none => simp [success.mpr failed]
    | some rollback =>
        have notSuccess : (outcome env type.startScript wifiSuccess).result ≠ wifiSuccess := by
          simp [success, failed]
        have freshCmd : ∀ entry ∈ pool.shared.info.cmds, entry.cmd ≠ pool.shared.next :=
          fun entry member => Nat.ne_of_lt (wellFormed.cmds entry member)
        have freshEntry : ∀ event, vendorEntry event pool.shared.next ∉
            pool.shared.info.events := fun event member =>
          Nat.lt_irrefl _ (wellFormed.events _ member _ rfl)
        obtain ⟨covered, distinct⟩ := outcome_rollback_covers env type.startScript wifiSuccess
          (rollbacksCover_start type) failed
        have undone := eraseEach_storeEach_eq_iff isEventEntry_exclusive
          (fun event => vendorEntry event pool.shared.next)
          (fun event event' => isEventEntry_vendorEntry event event' _) distinct
          (attempted_nodup env type) covered pool.shared.info.eventCb.alloc freshEntry
        simp only [ne_eq, notSuccess, not_false_eq_true, forall_const, if_false, eventsAfter,
          failed, Option.getD_some, Option.mem_def, Option.some.injEq, forall_eq']
        rw [cmds_append_erase_eq_iff freshCmd, undone]
  · obtain ⟨failed, unchanged⟩ :=
      run_wifiStart_of_not_admits .api env type id pool.shared admitted
    rw [failed]
    simp [LeavesNoTrace, admitted, HalInfo.cmds, HalInfo.events, unchanged]

def busyPool : HalPool :=
  played .always
    [.call (.start .scan 1), .finish .api (.rejecting none),
     .call (.start .rtt 2), .finish .api (.rejecting none)]

def hotlistStarted (env : Env) : Int × World :=
  (ApiCall.start .bssidHotlist 9).program.run (exec .api env) busyPool.shared

/-- A hotlist whose last request is rejected, when both its handlers are there. -/
theorem start_failure_undone_beside_others :
    let after := (hotlistStarted (.rejecting (some (.enableGscan true)))).2
    busyPool.shared.info.events.length = 4 ∧
      (after.info.cmds = busyPool.shared.info.cmds ∧
        after.info.events = busyPool.shared.info.events) := by
  refine ⟨by decide +kernel, (start_failure_undone_iff (reachable_played _ _) .bssidHotlist 9
    (.rejecting (some (.enableGscan true)))).mpr ?_ (by decide +kernel)⟩
  intro _ rollback stopped
  obtain rfl : [.hotlistResultsFound, .hotlistResultsLost] = rollback :=
    Option.some.inj stopped
  decide +kernel

theorem start_failure_not_undone :
    ¬ ∀ pool, Reachable pool → ∀ (type : CommandType) (id : Int32) (env : Env),
      ((ApiCall.start type id).program.run (exec .api env) pool.shared).1 ≠ wifiSuccess →
        ((ApiCall.start type id).program.run (exec .api env) pool.shared).2.info.cmds =
            pool.shared.info.cmds ∧
          ((ApiCall.start type id).program.run (exec .api env) pool.shared).2.info.events =
            pool.shared.info.events := by
  intro undone
  obtain ⟨pool, reached, lost⟩ := exists_reachable_of_play .always
    [.call (.start .bssidHotlist 1), .finish .api (.rejecting none)]
    (fun pool =>
      let done := (ApiCall.start .bssidHotlist 2).program.run
        (exec .api (.rejecting (some .hotlistSetup))) pool.shared
      done.1 != wifiSuccess && done.2.info.events != pool.shared.info.events)
    (by decide +kernel)
  simp only [Bool.and_eq_true, bne_iff_ne] at lost
  exact lost.2 (undone pool reached .bssidHotlist 2 _ lost.1).2

/-! ## Successful starts -/

def subscriptions (events : List CbInfo) (event : VendorEvent) (cmd : Ptr) : List CbInfo :=
  events.filter fun entry => isEventEntry event entry && entry.cbArg == some cmd

theorem subscriptions_vendorEntries (event : VendorEvent) (cmd : Ptr)
    {taken : List VendorEvent} (distinct : taken.Nodup) :
    (subscriptions (taken.map fun event => vendorEntry event cmd) event cmd).length =
      if event ∈ taken then 1 else 0 := by
  induction taken with
  | nil => rfl
  | cons first rest ih =>
      obtain ⟨absent, distinct⟩ := List.nodup_cons.mp distinct
      have ih := ih distinct
      unfold subscriptions at ih ⊢
      have own : (vendorEntry first cmd).cbArg = some cmd := rfl
      simp only [List.map_cons, List.filter_cons, isEventEntry_vendorEntry, own, beq_self_eq_true,
        Bool.and_true, decide_eq_true_eq, List.mem_cons]
      by_cases same : first = event
      · subst same
        simp [ih, absent]
      · simp [same, ih, Ne.symm same]

/-- A start call that succeeds has subscribed its command to every event that
its `cancel` unregisters exactly when the event table had room for all of them. -/
theorem start_success_subscribes_iff {pool : HalPool} (reached : Reachable pool)
    (type : CommandType) (id : Int32) (env : Env) :
    (((ApiCall.start type id).program.run (exec .api env) pool.shared).1 = wifiSuccess →
      ∀ event ∈ type.events,
        (subscriptions
          ((ApiCall.start type id).program.run (exec .api env) pool.shared).2.info.events event
          pool.shared.next).length = 1) ↔
      (Admits env pool.shared →
        (outcome env type.startScript wifiSuccess).rollback = none →
          pool.shared.info.events.length + type.events.length ≤ defaultEventCbSize) := by
  have wellFormed := wellFormed_of_reachable reached
  rw [ApiCall.program_start]
  by_cases admitted : Admits env pool.shared
  · obtain ⟨result, events, _⟩ :=
      run_wifiStart_of_admits .api env type id pool.shared admitted
    have success := outcome_success_iff env type.startScript (everyResultChecked_start type)
      (Int.le_refl wifiSuccess) fun _ => rfl
    simp only [admitted, forall_const]
    rw [result, events, success]
    refine imp_congr_right fun passed => ?_
    have permuted := registrations_perm_events type
    have distinct : (registrations type.startScript).Nodup := by cases type <;> decide
    have fresh : ∀ event, subscriptions pool.shared.info.events event pool.shared.next = [] := by
      intro event
      apply List.filter_eq_nil_iff.mpr
      intro entry member subscribed
      have arg : entry.cbArg = some pool.shared.next := by simp_all
      exact Nat.lt_irrefl _ (wellFormed.events entry member _ arg)
    have counted : ∀ event, (subscriptions (eventsAfter (outcome env type.startScript wifiSuccess)
        pool.shared.next pool.shared.info.eventCb.alloc pool.shared.info.events) event
        pool.shared.next).length =
          if event ∈ (registrations type.startScript).take
            (defaultEventCbSize - pool.shared.info.events.length) then 1 else 0 := by
      intro event
      have fresh := fresh event
      rw [eventsAfter, passed, Option.getD_none, eraseEach_nil, storeEach_eq_append,
        ← List.map_take, outcome_attempted_of_success env _ _ passed, wellFormed.allocEventCb,
        subscriptions, List.filter_append]
      unfold subscriptions at fresh
      rw [fresh, List.nil_append]
      exact subscriptions_vendorEntries event _ (distinct.sublist (List.take_sublist _ _))
    simp only [counted]
    constructor
    · intro subscribed
      have inTaken : registrations type.startScript ⊆ (registrations type.startScript).take
          (defaultEventCbSize - pool.shared.info.events.length) := by
        intro event member
        by_contra absent
        have := subscribed event (permuted.subset member)
        simp [absent] at this
      have length := (distinct.subperm inTaken).length_le
      rw [List.length_take, permuted.length_eq] at length
      have allocated := pool.shared.info.eventCb.bound
      have inUse := pool.shared.info.eventCb.length_toList
      have alloc := wellFormed.allocEventCb
      unfold HalInfo.events at length ⊢
      omega
    · intro room event member
      have all : (registrations type.startScript).take
          (defaultEventCbSize - pool.shared.info.events.length) =
            registrations type.startScript := by
        apply List.take_of_length_le
        rw [permuted.length_eq]
        omega
      rw [all, if_pos (permuted.symm.subset member)]
  · obtain ⟨failed, _⟩ := run_wifiStart_of_not_admits .api env type id pool.shared admitted
    rw [failed]
    simp [admitted, wifiErrorOutOfMemory, wifiSuccess]

theorem start_success_subscribes_beside_others :
    busyPool.shared.info.events.length = 4 ∧
      ∀ event ∈ CommandType.bssidHotlist.events,
        (subscriptions (hotlistStarted (.rejecting none)).2.info.events event
          busyPool.shared.next).length = 1 :=
  ⟨by decide +kernel,
    (start_success_subscribes_iff (reachable_played _ _) .bssidHotlist 9 (.rejecting none)).mpr
      (fun _ _ => by decide +kernel) (by decide +kernel)⟩

/-- Twenty-one scans leave one entry for the three that the next scan needs. -/
theorem start_success_not_subscribed :
    ¬ ∀ pool, Reachable pool → ∀ (type : CommandType) (id : Int32) (env : Env),
      ((ApiCall.start type id).program.run (exec .api env) pool.shared).1 = wifiSuccess →
        ∀ event ∈ type.events,
          (subscriptions
            ((ApiCall.start type id).program.run (exec .api env) pool.shared).2.info.events event
            pool.shared.next).length = 1 := by
  intro subscribed
  obtain ⟨pool, reached, missed⟩ := exists_reachable_of_play .always
    ((List.range 21).flatMap fun i =>
      [.call (.start .scan (Int32.ofNat i)), .finish .api (.rejecting none)])
    (fun pool =>
      let done := (ApiCall.start .scan 21).program.run (exec .api (.rejecting none)) pool.shared
      done.1 == wifiSuccess &&
        (subscriptions done.2.info.events .completeScan pool.shared.next).length == 0)
    (by decide +kernel)
  simp only [Bool.and_eq_true, beq_iff_eq] at missed
  have entries := subscribed pool reached .scan 21 _ missed.1 .completeScan (by decide)
  omega

end Mt6757.WifiHal
