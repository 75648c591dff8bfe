import Mt6757.WifiHal.OwnershipCalls

/-!
# The cancel loop of `wifi_cleanup`

The loop infers from the length of the command table whether a cancelled command
is still in its slot.  It cancels and releases each command once as long as the
slots that completions free while it runs lie ahead of it.
-/

set_option autoImplicit false

namespace Mt6757.WifiHal

open CommandTree KeyedList

/-! ## Runs with a cleanup -/

/-- The calls of the API, and a cleanup after them.  The fuel exceeds the number
of commands. -/
inductive CleanupCalls (side : Side) : Thread → World → Hal Int → Prop where
  | call {t : Thread} {world : World} {program : Hal Int}
      (called : Calls side t world program) : CleanupCalls side t world program
  | cleanup (fuel : Nat) (world : World) (running : world.cleaning = false)
      (enough : world.info.cmd.num < fuel) : CleanupCalls side .api world (wifiCleanup fuel)

/-- Runs in which the accesses to the command table mix freely. -/
abbrev CleanupReachable (side : Side) : FinePool → Prop := FineRuns side.op (CleanupCalls side)

/-- Runs in which the changes of the command table are kept apart, and apart from
the reads of the loop. -/
abbrev ApartCleanup (side : Side) : FinePool → Prop := ApartRuns side.op (CleanupCalls side)

/-- Removals take away what belongs to the command that asks for it, and no call
follows the cleanup. -/
def Side.beforeCleanup : Side where
  call := fun _ world => world.cleaning = false
  op := Side.ownRemovals.op

/-- And the slots that completions empty during the loop lie ahead of it. -/
def Side.orderlyCleanup : Side where
  call := fun _ world => world.cleaning = false
  op := fun t op world => Side.ownRemovals.op t op world ∧
    match op with
    | .wifiUnregisterCmd (some _) id => world.cleaning = true →
        (world.info.cmds.find? (CmdInfo.id · == id)).isSome = true → AheadOfLoop id world
    | _ => True

theorem orderlyCleanup_ownRemovals : Side.orderlyCleanup.OwnRemovals True :=
  ⟨fun admitted => admitted.1, fun admitted => admitted.1,
    fun _ _ _ _ _ now admitted => admitted.2 now⟩

/-! ## The loop -/

section Loop

variable {side : Side} {cleanup : Prop}

/-- After the turns of the commands of `done`, which are still in their slots. -/
structure Looping (done : List Ptr) (before : List Observation) (phase : Nat)
    (world : World) : Prop where
  reads : world.reads = 4 * done.length + phase
  processed : (world.info.cmds.map CmdInfo.cmd).take done.length = done
  distinct : (world.info.cmds.map CmdInfo.cmd).Nodup
  record : world.apiRecord = eachOnce done.reverse ++ .cleanupBegan :: before

variable {done : List Ptr} {before : List Observation} {phase : Nat} {world world' : World}

theorem Looping.cleaning (looping : Looping done before phase world) : world.cleaning = true := by
  rw [cleaning_eq_any_record, looping.record, List.any_append, List.any_cons]
  simp [Observation.isCleanup]

theorem Looping.turn (looping : Looping done before phase world) (small : phase < 4) :
    world.turn = done.length := by
  unfold World.turn
  rw [looping.reads]
  omega

theorem Looping.rely (looping : Looping done before phase world) (small : phase < 4)
    (moved : EventMoves world world') : Looping done before phase world' where
  reads := moved.reads.trans looping.reads
  processed := by
    have kept := (moved.turns looping.cleaning).before
    rw [looping.turn small] at kept
    rw [← List.map_take, kept, List.map_take]
    exact looping.processed
  distinct := looping.distinct.sublist (moved.slots.map CmdInfo.cmd)
  record := moved.record.trans looping.record

theorem Looping.countRead (looping : Looping done before phase world) :
    Looping done before (phase + 1) world.countRead :=
  ⟨congrArg (· + 1) looping.reads, looping.processed, looping.distinct, looping.record⟩

theorem Looping.length_le (looping : Looping done before phase world) :
    done.length ≤ world.info.cmds.length := by
  have length := congrArg List.length looping.processed
  rw [List.length_take, List.length_map] at length
  omega

theorem OwnedWorld.countRead (inv : OwnedWorld cleanup world) (phase : world.reads % 4 ≠ 2) :
    OwnedWorld cleanup world.countRead ∧ ApiMoves world world.countRead := by
  have owners : world.countRead.owners = world.owners := by
    have taken : (world.countRead.reads + 1) / 4 = (world.reads + 1) / 4 := by
      have counted : world.countRead.reads = world.reads + 1 := rfl
      omega
    unfold World.owners
    rw [taken]
    rfl
  refine ⟨inv.ofApi rfl ?_, .ofTables (List.Subset.refl _) rfl rfl (fun _ => rfl)
    (List.Subset.refl _)⟩
  rw [owners]
  exact inv.owned.keep (List.Sublist.refl _) rfl rfl (fun _ => rfl) rfl

theorem wp_numCmd {α : Type} {after : Nat → Hal α} {post : α → World → Prop}
    (phase : world.reads % 4 ≠ 2)
    (rest : ∀ middle, EventMoves world middle → OwnedWorld cleanup middle →
      (ownership side cleanup).wp .api (after middle.info.cmds.length) post middle.countRead) :
    (ownership side cleanup).wp .api (perform .numCmd >>= after) post world := by
  rintro middle moved inv left later ⟨_, env, does⟩
  have moved : EventMoves world middle := moved
  obtain rfl : middle.countRead = later := congrArg Prod.snd does
  obtain rfl : middle.info.cmds.length = left :=
    (CompactArray.length_toList _).trans (congrArg Prod.fst does)
  obtain ⟨inv', moves⟩ := inv.countRead (by rw [moved.reads]; exact phase)
  exact ⟨inv', moves, rest middle moved inv⟩

theorem drop_turn {cmds : List Ptr} {cmd : Ptr} {turn : Nat} (here : cmds[turn]? = some cmd) :
    cmds.drop turn = cmd :: cmds.drop (turn + 1) := by
  obtain ⟨bound, rfl⟩ := List.getElem?_eq_some_iff.mp here
  exact List.drop_eq_getElem_cons bound

theorem OwnedWorld.takeOver (inv : OwnedWorld cleanup world) (cleaning : world.cleaning = true)
    {turn : Nat} (reads : world.reads = 4 * turn + 2) (idle : world.held .api = []) {cmd : Ptr}
    (here : (world.info.cmds.map CmdInfo.cmd)[turn]? = some cmd) :
    (world.countRead.touch cmd).give .api cmd = world.countRead.give .api cmd ∧
      OwnedWorld cleanup (world.countRead.give .api cmd) ∧
      ApiMoves world (world.countRead.give .api cmd) := by
  have counted : world.countRead.reads = 4 * turn + 3 := by
    have one : world.countRead.reads = world.reads + 1 := rfl
    omega
  have early : (4 * turn + 2 + 1) / 4 = turn := by omega
  have late : (4 * turn + 3 + 1) / 4 = turn + 1 := by omega
  have owners : world.owners.Perm (world.countRead.give .api cmd).owners := by
    have cleaning' : (world.countRead.give .api cmd).cleaning = true := cleaning
    unfold World.owners
    rw [if_pos cleaning, if_pos cleaning', reads, World.give_info, World.countRead_info, early,
      drop_turn here, idle]
    have reads' : (world.countRead.give .api cmd).reads = 4 * turn + 3 := counted
    have isHeld : (world.countRead.give .api cmd).held .api = [cmd] := by
      have held : world.countRead.held .api = [] := idle
      simp [held]
    rw [reads', late, isHeld, List.append_nil]
    exact (List.perm_append_singleton cmd _).symm
  have owns : cmd ∈ world.owners := by
    rw [owners.mem_iff]
    unfold World.owners
    exact (apply_ite (cmd ∈ ·) _ _ _).mpr (by split <;> simp)
  have touched : world.countRead.touch cmd = world.countRead :=
    World.touch_of_not_deleted _ cmd (inv.owned.alive (List.mem_append_left _ owns))
  refine ⟨by rw [touched], inv.ofApi rfl ?_, ?_⟩
  · refine (inv.owned.perm owners).keep (List.Sublist.refl _) ?_ rfl (fun _ => rfl) rfl
    simp [World.countRead]
  · refine .ofTables (List.Subset.refl _) ?_ rfl (fun _ => rfl) (List.Subset.refl _)
    simp [World.countRead]

theorem wp_cmdAt {α : Type} {after : Ptr → Hal α} {post : α → World → Prop}
    {slots : List CmdInfo} (looping : Looping done before 2 world)
    (table : world.info.cmds = slots) (idle : world.held .api = [])
    (bound : done.length < slots.length)
    (rest : ∀ cmd world, (slots.map CmdInfo.cmd)[done.length]? = some cmd →
      Looping done before 3 world → world.info.cmds = slots → world.held .api = [cmd] →
        (ownership side cleanup).wp .api (after cmd) post world) :
    (ownership side cleanup).wp .api (perform (.cmdAt done.length) >>= after) post world := by
  rintro middle moved inv cmd later ⟨_, env, does⟩
  have moved : EventMoves world middle := moved
  have phase : 2 ≤ world.reads % 4 := by
    rw [looping.reads]
    omega
  have table' : middle.info.cmds = slots :=
    ((moved.turns looping.cleaning).inside phase).trans table
  have looping := looping.rely (by omega) moved
  have idle := moved.held.trans idle
  obtain rfl : (middle.info.cmd.slot done.length).cmd = cmd := congrArg Prod.fst does
  have inUse : done.length < middle.info.cmd.num := by
    rw [← CompactArray.length_toList]
    exact bound.trans_eq (congrArg List.length table'.symm)
  have here : (middle.info.cmds.map CmdInfo.cmd)[done.length]? =
      some (middle.info.cmd.slot done.length).cmd := by
    rw [List.getElem?_map]
    exact congrArg (Option.map CmdInfo.cmd) (middle.info.cmd.getElem?_toList_of_lt inUse)
  obtain ⟨given, inv', moves⟩ := inv.takeOver looping.cleaning looping.reads idle here
  obtain rfl : middle.countRead.give .api (middle.info.cmd.slot done.length).cmd = later := by
    rw [← given]
    exact congrArg Prod.snd does
  rw [table'] at here
  refine ⟨inv', moves, rest _ _ here ?_ table' ?_⟩
  · obtain ⟨reads, processed, distinct, record⟩ := looping.countRead
    exact ⟨reads, processed, distinct, record⟩
  · have held : middle.countRead.held .api = [] := idle
    simp [held]

structure TurnEnds (done : List Ptr) (cmd : Ptr) (before : List Observation)
    (world : World) : Prop where
  reads : world.reads = 4 * (done.length + 1)
  processed : (world.info.cmds.map CmdInfo.cmd).take (done.length + 1) = done ++ [cmd]
  distinct : (world.info.cmds.map CmdInfo.cmd).Nodup
  record : world.apiRecord = .cancelled cmd :: (eachOnce done.reverse ++ .cleanupBegan :: before)
  held : world.held .api = [cmd]
  bare : Bare cmd (world.heap cmd).mType.events world

theorem TurnEnds.cleaning {cmd : Ptr} (ends : TurnEnds done cmd before world) :
    world.cleaning = true := by
  rw [cleaning_eq_any_record, ends.record]
  simp [Observation.isCleanup]

theorem TurnEnds.rely {cmd : Ptr} (ends : TurnEnds done cmd before world)
    (moved : EventMoves world world') : TurnEnds done cmd before world' where
  reads := moved.reads.trans ends.reads
  processed := by
    have kept := (moved.turns ends.cleaning).before
    have turn : world.turn = done.length + 1 := by
      unfold World.turn
      rw [ends.reads]
      omega
    rw [turn] at kept
    rw [← List.map_take, kept, List.map_take]
    exact ends.processed
  distinct := ends.distinct.sublist (moved.slots.map CmdInfo.cmd)
  record := moved.record.trans ends.record
  held := moved.held.trans ends.held
  bare := ends.bare.ofType moved

theorem eachOnce_turn {done : List Ptr} {cmd : Ptr} :
    eachOnce (done ++ [cmd]).reverse =
      .released .api cmd :: .cancelled cmd :: eachOnce done.reverse := by
  rw [List.reverse_append, List.reverse_singleton]
  rfl

theorem TurnEnds.released {cmd : Ptr} (ends : TurnEnds done cmd before world)
    (heldApi : (world.releaseRef .api cmd).held .api = (world.held .api).erase cmd)
    (record : (world.releaseRef .api cmd).apiRecord = .released .api cmd :: world.apiRecord) :
    Looping (done ++ [cmd]) before 0 (world.releaseRef .api cmd) ∧
      (world.releaseRef .api cmd).held .api = [] := by
  have length : (done ++ [cmd]).length = done.length + 1 := List.length_append
  refine ⟨⟨?_, ?_, ?_, ?_⟩, ?_⟩
  · rw [World.releaseRef_reads, ends.reads, length]
    rfl
  · rw [World.releaseRef_info, length]
    exact ends.processed
  · rw [World.releaseRef_info]
    exact ends.distinct
  · rw [record, ends.record, eachOnce_turn]
    rfl
  · rw [heldApi, ends.held, List.erase_cons_head]

theorem Cancelled.turnEnds {cmd : Ptr} {slots : List CmdInfo}
    (cancelled : Cancelled [cmd]
      (.cancelled cmd :: (eachOnce done.reverse ++ .cleanupBegan :: before)) slots
      (4 * done.length + 3) cmd world)
    (distinct : (slots.map CmdInfo.cmd).Nodup)
    (processed : (slots.map CmdInfo.cmd).take done.length = done)
    (here : (slots.map CmdInfo.cmd)[done.length]? = some cmd) :
    world.info.cmds = slots ∧ world.reads % 4 = 3 ∧
      TurnEnds done cmd before world.countRead := by
  have cleaning : world.cleaning = true := by
    rw [cleaning_eq_any_record, cancelled.record]
    simp [Observation.isCleanup]
  obtain ⟨table, count, _⟩ := cancelled.turn cleaning
  have one : world.countRead.reads = world.reads + 1 := rfl
  refine ⟨table, by omega, by omega, ?_, ?_, cancelled.record, cancelled.held, cancelled.bare⟩
  · rw [World.countRead_info, table, List.take_add_one, here, processed]
    rfl
  · rw [World.countRead_info, table]
    exact distinct

/-- The loop finds the slots of earlier turns as it left them, and the table of a
turn does not change, so every turn is the next one. -/
theorem wp_cleanupLoop (removals : side.OwnRemovals cleanup) (fuel : Nat)
    (enough : world.info.cmds.length < fuel + done.length)
    (looping : Looping done before 0 world) (idle : world.held .api = []) :
    (ownership side cleanup).wp .api (cleanupLoop fuel done.length) (ownershipPost .api) world := by
  induction fuel generalizing done world with
  | zero =>
      have short := looping.length_le
      omega
  | succ fuel ih =>
      refine wp_numCmd (by rw [looping.reads]; omega) fun first moved _ => ?_
      have looping := looping.rely (by omega) moved
      have idle := moved.held.trans idle
      have firstLe := moved.slots.length_le
      have counted := looping.countRead
      split
      · rename_i more
        refine wp_numCmd (by rw [counted.reads]; omega) fun second moved _ => ?_
        have bound : done.length < second.info.cmds.length := by
          have kept := (moved.turns counted.cleaning).checked (by rw [counted.reads]; omega)
          rw [counted.turn (by omega)] at kept
          exact kept more
        have looping := counted.rely (by omega) moved
        have idle : second.held .api = [] := moved.held.trans idle
        have secondLe : second.info.cmds.length ≤ first.info.cmds.length :=
          moved.slots.length_le
        have counted := looping.countRead
        refine wp_cmdAt counted rfl idle bound fun cmd world here looping table isHeld => ?_
        refine ((ownership side cleanup).wp_bind .api _ _ _ _).mpr ?_
        refine (ownership side cleanup).wp_mono .api _
          (wp_cancel removals (List.mem_singleton_self cmd) isHeld looping.record
            fun _ => ⟨table, looping.reads, by omega⟩) fun _ world cancelled => ?_
        obtain ⟨_, phase, _⟩ := cancelled.turnEnds counted.distinct counted.processed here
        -- the number of commands has not changed meanwhile
        refine wp_numCmd (by omega) fun fourth moved _ => ?_
        obtain ⟨table, _, ends⟩ :=
          (cancelled.rely moved).turnEnds counted.distinct counted.processed here
        have unchanged : second.info.cmds.length = fourth.info.cmds.length := by
          rw [table]
          rfl
        refine wp_releaseRef (by rw [ends.held]; exact List.mem_cons_self)
          (fun later moved inv => (ends.bare.ofType moved).noHandlers inv) ?_
        intro later moved _ heldApi record
        obtain ⟨looping, idle⟩ := (ends.rely moved).released heldApi record
        have laterLe : later.info.cmds.length ≤ fourth.info.cmds.length := moved.slots.length_le
        have next : done.length + 1 = (done ++ [cmd]).length := by
          rw [List.length_append]
          rfl
        rw [if_pos unchanged, next]
        refine ih ?_ looping idle
        rw [World.releaseRef_info, ← next]
        omega
      · rename_i ended
        have all : done = first.info.cmds.map CmdInfo.cmd := by
          have processed := looping.processed
          rw [List.take_of_length_le (by rw [List.length_map]; omega)] at processed
          exact processed.symm
        subst all
        refine Or.inr ⟨rfl, idle, ?_, looping.distinct, before, looping.record⟩
        rw [counted.reads, List.length_map]
        rfl

theorem OwnedWorld.beginCleanup (inv : OwnedWorld cleanup world) (idle : Idle world)
    (begins : cleanup) :
    OwnedWorld cleanup world.beginCleanup ∧ ApiMoves world world.beginCleanup ∧
      Looping [] world.apiRecord 0 world.beginCleanup ∧ world.beginCleanup.held .api = [] := by
  have begun : world.beginCleanup = { world.note .cleanupBegan with reads := 0 } := by
    unfold World.beginCleanup
    rw [inv.owned.touchHandlers_eq (List.Subset.refl _)]
  have distinct : (world.info.cmds.map CmdInfo.cmd).Nodup := by
    have owners := inv.owned.distinct
    unfold World.owners at owners
    rw [idle.running] at owners
    exact (List.nodup_append.mp owners).1
  rw [begun]
  have looping : Looping [] world.apiRecord 0 { world.note .cleanupBegan with reads := 0 } :=
    ⟨rfl, rfl, distinct, List.filter_cons_of_pos rfl⟩
  have owners : World.owners { world.note .cleanupBegan with reads := 0 } = world.owners := by
    unfold World.owners
    rw [looping.cleaning, idle.running, if_pos rfl, if_neg Bool.false_ne_true]
    change List.drop ((0 + 1) / 4) (world.info.cmds.map CmdInfo.cmd) ++ world.held .api = _
    rw [Nat.div_eq_of_lt (by decide), List.drop_zero]
  refine ⟨⟨?_, fun _ => begins⟩, ?_, looping, idle.held⟩
  · rw [owners]
    exact inv.owned.keep (List.Sublist.refl _) rfl rfl (fun _ => rfl)
      (List.filter_cons_of_neg (by simp [Observation.bears]))
  · exact .ofTables (List.Subset.refl _) rfl rfl (fun _ => rfl) (List.subset_cons_self _ _)

theorem wp_wifiCleanup (removals : side.OwnRemovals cleanup) (begins : cleanup) {fuel : Nat}
    (enough : world.info.cmd.num < fuel) (idle : Idle world) :
    (ownership side cleanup).wp .api (wifiCleanup fuel) (ownershipPost .api) world := by
  rintro before moved inv _ after ⟨_, env, does⟩
  obtain rfl : before.beginCleanup = after := congrArg Prod.snd does
  have moved : EventMoves world before := moved
  obtain ⟨inv', moves, looping, isHeld⟩ := inv.beginCleanup (idle.rely moved) begins
  refine ⟨inv', moves, wp_cleanupLoop removals fuel ?_ looping isHeld⟩
  have shrunk := moved.slots.length_le
  have length : world.info.cmds.length = world.info.cmd.num := CompactArray.length_toList _
  rw [World.beginCleanup_info, List.length_nil]
  omega

end Loop

/-! ## Every turn once -/

/-- Nothing is used after it was deleted, and a cleanup that has returned went
through its loop, in which it cancelled and released each command of the table
once. -/
structure CleanupOrderly (fine : FinePool) : Prop where
  unused : ∀ cmd, .usedAfterDelete cmd ∉ fine.shared.state.log
  finished : ∀ value, fine.thread .api = .ret value → fine.shared.state.cleaning = true →
    Cleaned value fine.shared.settled

theorem good_of_cleanup {eventFill : CbInfo} {cmdFill : CmdInfo} {pool : HalPool}
    (reaches : Reaches (guarded Side.orderlyCleanup.op exec) (CleanupCalls .orderlyCleanup)
      (initialPool eventFill cmdFill) pool) :
    (ownership .orderlyCleanup True).Good pool := by
  refine (ownership .orderlyCleanup True).good_of_reaches ?_
    (good_initial .orderlyCleanup True eventFill cmdFill) reaches
  intro t program value world called inv idle
  have running_idle : ownershipPost .api value world → world.cleaning = false → Idle world := by
    rintro (⟨running, isHeld⟩ | cleaned) notCleaning
    · exact ⟨running, isHeld⟩
    · rw [cleaned.cleaning] at notCleaning
      contradiction
  cases called with
  | call called =>
      cases called with
      | api call _ running =>
          exact wp_apiCall orderlyCleanup_ownRemovals call (running_idle idle running)
      | event msg _ => exact wp_internalValidMessageHandler orderlyCleanup_ownRemovals msg idle
  | cleanup fuel _ running enough =>
      exact wp_wifiCleanup orderlyCleanup_ownRemovals trivial enough (running_idle idle running)

/-- In every run in which removals take away what belongs to the command that
asks for it, the changes of the command table are kept apart, and the slots that
completions free during the loop lie ahead of it, the cleanup is orderly. -/
theorem cleanup_orderly {fine : FinePool} (reached : ApartCleanup .orderlyCleanup fine) :
    CleanupOrderly fine := by
  obtain ⟨eventFill, cmdFill, pool, reaches, simulates⟩ := reached.simulates
  obtain ⟨inv, threads⟩ := good_of_cleanup reaches
  obtain ⟨table, _, state⟩ := state_of_simulates simulates
  refine ⟨fun cmd => ?_, fun value returned now => ?_⟩
  · rw [state]
    exact inv.owned.unused cmd
  · rw [← simulates.shared]
    rw [state] at now
    have now : pool.shared.cleaning = true := now
    have ended := threads .api
    rw [simulates.returned returned] at ended
    rcases ended with ⟨running, _⟩ | cleaned
    · rw [running] at now
      contradiction
    · exact cleaned

/-! ## Schedules with a cleanup -/

section Play

variable {Op : Type} {Res : Op → Type} {σ : Type} (grain : Grain Op Res σ) (side : Side)
  [∀ call world, Decidable (side.call call world)]
  [∀ t op state, Decidable (grain.ok t op state)]

def playCleanup (before : List Move) (fuel : Nat) (after : List Move)
    (pool : Pool Thread Op Res Int σ) : Option (Pool Thread Op Res Int σ) :=
  (play grain side before pool).bind fun pool =>
    if isReturned .api pool ∧ (grain.view pool.shared).cleaning = false ∧
        (grain.view pool.shared).info.cmd.num < fuel then
      play grain side after (pool.enter .api (grain.embed (wifiCleanup fuel)))
    else none

variable {grain side}

theorem reaches_of_playCleanup {before : List Move} {fuel : Nat} {after : List Move}
    {pool pool' : Pool Thread Op Res Int σ}
    (played : playCleanup grain side before fuel after pool = some pool') :
    Reaches (guarded grain.ok grain.exec) (grain.Calls (CleanupCalls side)) pool pool' := by
  have lift : ∀ {pool pool' : Pool Thread Op Res Int σ},
      Reaches (guarded grain.ok grain.exec) (grain.Calls (Calls side)) pool pool' →
        Reaches (guarded grain.ok grain.exec) (grain.Calls (CleanupCalls side)) pool pool' := by
    intro pool pool' reaches
    refine reaches.mono (fun _ _ _ _ _ does => does) ?_
    rintro t state program ⟨plain, called, rfl⟩
    exact ⟨plain, .call called, rfl⟩
  obtain ⟨middle, first, second⟩ := Option.bind_eq_some_iff.mp played
  rw [Option.ite_none_right_eq_some] at second
  obtain ⟨⟨returned, running, enough⟩, second⟩ := second
  have called : grain.Calls (CleanupCalls side) .api middle.shared
      (grain.embed (wifiCleanup fuel)) := ⟨_, .cleanup fuel _ running enough, rfl⟩
  exact (lift (reaches_of_play first)).trans
    ((reaches_enter _ .api _ middle (returned_of_isReturned returned) called).trans
      (lift (reaches_of_play second)))

end Play

instance (call : ApiCall) (world : World) : Decidable (Side.beforeCleanup.call call world) :=
  inferInstanceAs (Decidable (_ = _))

instance (t : Thread) (op : HalOp) (world : World) :
    Decidable (Side.beforeCleanup.op t op world) :=
  inferInstanceAs (Decidable (Side.ownRemovals.op t op world))

instance (call : ApiCall) (world : World) : Decidable (Side.orderlyCleanup.call call world) :=
  inferInstanceAs (Decidable (_ = _))

instance (t : Thread) (op : HalOp) (world : World) :
    Decidable (Side.orderlyCleanup.op t op world) :=
  @instDecidableAnd _ _ (inferInstanceAs (Decidable (Side.ownRemovals.op t op world)))
    (match op with
    | .wifiUnregisterCmd (some _) id =>
        inferInstanceAs (Decidable (world.cleaning = true →
          (world.info.cmds.find? (CmdInfo.id · == id)).isSome = true → AheadOfLoop id world))
    | .newCommand _ _ | .createRequest _ _ | .requestResponse _ _
    | .registerVendorHandler _ _ | .unregisterVendorHandler _ _ | .wifiRegisterCmd _ _
    | .wifiUnregisterCmd none _ | .cancel _ | .findAndAddRef _ | .handleEvent _
    | .handleAttrs _ _ | .clearResults _ | .id _ | .releaseRef _ | .beginCleanup | .numCmd
    | .cmdAt _ | .ended _ _ => .isTrue trivial)

/-- The first of two range requests completes between the turns of a scan and of
the second one, and the loop reads the length while its slot is being removed. -/
theorem cleanup_orderly_of_three : ∃ fine, ApartCleanup .orderlyCleanup fine ∧
    isReturned .api fine = true ∧ fine.shared.state.cleaning = true ∧
      fine.shared.state.info.cmds.map CmdInfo.id = [1, 8] ∧ CleanupOrderly fine := by
  have played : (playCleanup (.apart .orderlyCleanup) .orderlyCleanup
      [.call (.start .scan 1), .finish .api (.rejecting none),
        .call (.start .rtt 7), .finish .api (.rejecting none),
        .call (.start .rtt 8), .finish .api (.rejecting none)] 4
      (List.replicate 12 (.act .api (.rejecting none)) ++
        [.message ⟨0, 103, some googleOui, some 4, [.resultsComplete 1]⟩] ++
        List.replicate 14 (.act .event (.rejecting none)) ++
        [.act .api (.rejecting none), .finish .event (.rejecting none),
          .finish .api (.rejecting none)])
      (commandTable.spread zeroedPool)).any (fun fine => isReturned .api fine &&
        fine.shared.state.cleaning && fine.shared.state.info.cmds.map CmdInfo.id == [1, 8]) =
      true := by decide +kernel
  obtain ⟨fine, played, met⟩ := (Option.any_eq_true _ _).mp played
  simp only [Bool.and_eq_true, beq_iff_eq] at met
  have reached : ApartCleanup .orderlyCleanup fine := ⟨_, _, reaches_of_playCleanup played⟩
  exact ⟨fine, reached, met.1.1, met.1.2, met.2, cleanup_orderly reached⟩

/-- A range request that completes while a scan is being cancelled makes the loop
cancel the scan again, after its release. -/
theorem cleanup_not_orderly :
    ¬ ∀ fine, CleanupReachable .beforeCleanup fine → CleanupOrderly fine := by
  intro orderly
  have played : (playCleanup (.fine .beforeCleanup) .beforeCleanup
      [.call (.start .scan 1), .finish .api (.rejecting none),
        .call (.start .rtt 7), .finish .api (.rejecting none)] 3
      (List.replicate 5 (.act .api (.rejecting none)) ++
        [.message ⟨0, 103, some googleOui, some 4, [.resultsComplete 1]⟩,
          .finish .event (.rejecting none), .finish .api (.rejecting none)])
      (commandTable.spread zeroedPool)).any
        (fun fine => fine.shared.state.log.contains (.usedAfterDelete 0)) = true := by
    decide +kernel
  obtain ⟨fine, played, used⟩ := (Option.any_eq_true _ _).mp played
  have reached : CleanupReachable .beforeCleanup fine := ⟨_, _, reaches_of_playCleanup played⟩
  exact (orderly fine reached).unused 0 (List.contains_iff_mem.mp used)

end Mt6757.WifiHal
