import Mt6757.WifiHal.CommandTable

/-!
# Slots of the command table

Every kind of request gives its slot back on a path of its own.  A slot belongs
to a request that is outstanding, in every interleaving, as long as no stop call
works with a temporary command while the command it stands for is in the table.
-/

set_option autoImplicit false

namespace Mt6757.WifiHal

open CommandTree

/-- The framework starts a request under an id only when none is outstanding
under it. -/
def Side.distinctIds : Side where
  call := fun call world =>
    match call with
    | .start _ id => ∀ request ∈ world.outstanding, request.2 ≠ id
    | .stop _ _ => True
  op := fun _ _ _ => True

/-- And a stop call that uses a temporary command does not end a request whose
command is in the table. -/
def Side.endsInTable : Side where
  call := fun call world =>
    match call with
    | .start _ id => ∀ request ∈ world.outstanding, request.2 ≠ id
    | .stop type id =>
        usesTemporary type id = true → (type, id) ∈ world.outstanding →
          ∀ entry ∈ world.info.cmds, entry.id ≠ id
  op := fun _ _ _ => True

instance (call : ApiCall) (world : World) : Decidable (Side.distinctIds.call call world) :=
  match call with
  | .start _ id => inferInstanceAs (Decidable (∀ request ∈ world.outstanding, request.2 ≠ id))
  | .stop _ _ => .isTrue trivial

instance (call : ApiCall) (world : World) : Decidable (Side.endsInTable.call call world) :=
  match call with
  | .start _ id => inferInstanceAs (Decidable (∀ request ∈ world.outstanding, request.2 ≠ id))
  | .stop type id =>
      inferInstanceAs (Decidable (usesTemporary type id = true →
        (type, id) ∈ world.outstanding → ∀ entry ∈ world.info.cmds, entry.id ≠ id))

instance (t : Thread) (op : HalOp) (world : World) :
    Decidable (Side.distinctIds.op t op world) := inferInstanceAs (Decidable True)

instance (t : Thread) (op : HalOp) (world : World) :
    Decidable (Side.endsInTable.op t op world) := inferInstanceAs (Decidable True)

/-- Every slot is that of an outstanding request, and ids are distinct. -/
structure SlotsOutstanding (world : World) : Prop where
  covered : ∀ entry ∈ world.info.cmds, entry.id ∈ world.outstanding.map Prod.snd
  slots : (world.info.cmds.map CmdInfo.id).Nodup
  requests : (world.outstanding.map Prod.snd).Nodup

/-- Slots are given back and requests end. -/
structure Shrinks (world world' : World) : Prop where
  cmds : world'.info.cmds ⊆ world.info.cmds
  outstanding : world'.outstanding ⊆ world.outstanding

theorem Shrinks.refl (world : World) : Shrinks world world :=
  ⟨List.Subset.refl _, List.Subset.refl _⟩

theorem Shrinks.trans {world₁ world₂ world₃ : World} (first : Shrinks world₁ world₂)
    (second : Shrinks world₂ world₃) : Shrinks world₁ world₃ :=
  ⟨List.Subset.trans second.cmds first.cmds,
    List.Subset.trans second.outstanding first.outstanding⟩

/-- All operations but the registration of a command and the end of a stop call. -/
def HalOp.GivesBack : HalOp → Prop
  | .wifiRegisterCmd _ _ => False
  | .ended _ _ => False
  | _ => True

theorem notMem_ids_eraseP {entries : List CmdInfo} (distinct : (entries.map CmdInfo.id).Nodup)
    (id : Int32) : ∀ entry ∈ entries.eraseP (CmdInfo.id · == id), entry.id ≠ id := by
  induction entries with
  | nil => simp
  | cons first rest ih =>
      obtain ⟨absent, distinct⟩ := List.nodup_cons.mp distinct
      intro entry member
      by_cases here : first.id = id
      · rw [List.eraseP_cons_of_pos (by simpa using here)] at member
        intro same
        exact absent (List.mem_map.mpr ⟨entry, member, same.trans here.symm⟩)
      · rw [List.eraseP_cons_of_neg (by simpa using here)] at member
        rcases List.mem_cons.mp member with rfl | member
        · exact here
        · exact ih distinct entry member

namespace SlotsOutstanding

variable {world : World}

theorem sameTables (slots : SlotsOutstanding world) {world' : World}
    (info : world'.info.cmds = world.info.cmds)
    (outstanding : world'.outstanding = world.outstanding) :
    SlotsOutstanding world' ∧ Shrinks world world' := by
  refine ⟨⟨?_, ?_, ?_⟩, ?_, ?_⟩
  · rw [info, outstanding]
    exact slots.covered
  · rw [info]
    exact slots.slots
  · rw [outstanding]
    exact slots.requests
  · rw [info]
    exact List.Subset.refl _
  · rw [outstanding]
    exact List.Subset.refl _

theorem withdraw (slots : SlotsOutstanding world) (type : CommandType) {id : Int32}
    (gone : (type, id) ∈ world.outstanding → ∀ entry ∈ world.info.cmds, entry.id ≠ id) :
    SlotsOutstanding (world.withdraw type id) ∧ Shrinks world (world.withdraw type id) := by
  have sub : (world.withdraw type id).outstanding ⊆ world.outstanding := List.filter_subset_self _
  refine ⟨⟨?_, slots.slots, slots.requests.sublist (List.filter_sublist.map _)⟩,
    List.Subset.refl _, sub⟩
  intro entry member
  obtain ⟨request, outstanding, sameId⟩ := List.mem_map.mp (slots.covered entry member)
  refine List.mem_map.mpr ⟨request, List.mem_filter.mpr ⟨outstanding, ?_⟩, sameId⟩
  rw [bne_iff_ne]
  rintro rfl
  exact gone outstanding entry member sameId.symm

theorem unregisterCmd (slots : SlotsOutstanding world) (t : Thread) (owner : Option Ptr)
    (id : Int32) :
    SlotsOutstanding (world.unregisterCmd t owner id) ∧
      Shrinks world (world.unregisterCmd t owner id) ∧
      ∀ entry ∈ (world.unregisterCmd t owner id).info.cmds, entry.id ≠ id := by
  have cmds := world.unregisterCmd_cmds t owner id
  have gone := notMem_ids_eraseP slots.slots id
  have sublist : (world.info.cmds.eraseP (CmdInfo.id · == id)).Sublist world.info.cmds :=
    List.eraseP_sublist
  -- the state in which the entry has left and the request is still outstanding
  let removed := world.setInfo (wifiUnregisterCmd world.info id).2
  have removedCmds : removed.info.cmds = world.info.cmds.eraseP (CmdInfo.id · == id) :=
    wifiUnregisterCmd_cmds world.info id
  have removedSlots : SlotsOutstanding removed := by
    refine ⟨?_, ?_, slots.requests⟩
    · rw [removedCmds]
      exact fun entry member => slots.covered entry (sublist.subset member)
    · rw [removedCmds]
      exact slots.slots.sublist (sublist.map _)
  have removedShrinks : Shrinks world removed := by
    refine ⟨?_, List.Subset.refl _⟩
    rw [removedCmds]
    exact sublist.subset
  have both : SlotsOutstanding (world.unregisterCmd t owner id) ∧
      Shrinks removed (world.unregisterCmd t owner id) := by
    cases owner with
    | none =>
        refine removedSlots.sameTables ?_ ?_
        · rw [cmds, removedCmds]
        · unfold World.unregisterCmd
          cases (wifiUnregisterCmd world.info id).1 <;> rfl
    | some this =>
        obtain ⟨slots', shrinks⟩ := removedSlots.withdraw (world.heap this).mType
          fun _ => by rw [removedCmds]; exact gone
        have same : SlotsOutstanding (world.unregisterCmd t (some this) id) ∧
            Shrinks (removed.withdraw (world.heap this).mType id)
              (world.unregisterCmd t (some this) id) := by
          refine slots'.sameTables ?_ ?_
          · rw [cmds]
            exact removedCmds.symm
          · unfold World.unregisterCmd
            cases (wifiUnregisterCmd world.info id).1 <;> rfl
        exact ⟨same.1, shrinks.trans same.2⟩
  refine ⟨both.1, removedShrinks.trans both.2, ?_⟩
  rw [cmds]
  exact gone

theorem exec (slots : SlotsOutstanding world) {op : HalOp} (givesBack : op.GivesBack)
    (t : Thread) (env : Env) :
    SlotsOutstanding (exec t env op world).2 ∧ Shrinks world (WifiHal.exec t env op world).2 := by
  cases op with
  | newCommand type id =>
      simp only [WifiHal.exec]
      split <;> exact slots.sameTables rfl rfl
  | requestResponse this request =>
      simp only [WifiHal.exec]
      split <;> exact slots.sameTables rfl rfl
  | registerVendorHandler this event =>
      exact slots.sameTables (World.registerVendorHandler_cmds world this event) rfl
  | wifiRegisterCmd id cmd => exact givesBack.elim
  | wifiUnregisterCmd owner id =>
      obtain ⟨slots', shrinks, _⟩ := slots.unregisterCmd t owner id
      exact ⟨slots', shrinks⟩
  | cancel this => exact slots.sameTables (by simp [WifiHal.exec]) (by simp [WifiHal.exec])
  | findAndAddRef msg => exact slots.sameTables (by simp [WifiHal.exec]) (by simp [WifiHal.exec])
  | handleEvent this => exact slots.sameTables (by simp [WifiHal.exec]) (by simp [WifiHal.exec])
  | handleAttrs this attrs =>
      exact slots.sameTables (by simp [WifiHal.exec]) (by simp [WifiHal.exec])
  | id this => exact slots.sameTables (by simp [WifiHal.exec]) (by simp [WifiHal.exec])
  | releaseRef this => exact slots.sameTables (by simp [WifiHal.exec]) (by simp [WifiHal.exec])
  | beginCleanup => exact slots.sameTables (by simp [WifiHal.exec]) (by simp [WifiHal.exec])
  | cmdAt index => exact slots.sameTables (by simp [WifiHal.exec]) (by simp [WifiHal.exec])
  | ended type id => exact givesBack.elim
  | _ => exact slots.sameTables rfl rfl

theorem registerCmd (slots : SlotsOutstanding world) {id : Int32}
    (unused : ∀ request ∈ world.outstanding, request.2 ≠ id) (t : Thread) (cmd : Ptr) :
    SlotsOutstanding (world.registerCmd t id cmd) := by
  by_cases room : world.info.cmds.length < world.info.cmd.alloc
  · obtain ⟨_, cmds, _, _, registered⟩ := world.registerCmd_of_room t id cmd room
    have outstanding : (world.registerCmd t id cmd).outstanding =
        ((world.heap cmd).mType, id) :: world.outstanding := by rw [registered]
    have unusedId : id ∉ world.outstanding.map Prod.snd := by
      intro member
      obtain ⟨request, inOutstanding, same⟩ := List.mem_map.mp member
      exact unused request inOutstanding same
    refine ⟨?_, ?_, ?_⟩
    · rw [cmds, outstanding]
      intro entry member
      rcases List.mem_append.mp member with old | new
      · exact List.mem_cons_of_mem _ (slots.covered entry old)
      · rw [List.mem_singleton] at new
        subst new
        exact List.mem_cons_self
    · rw [cmds, List.map_append, List.nodup_append]
      refine ⟨slots.slots, List.nodup_singleton _, ?_⟩
      intro old oldMember new newMember
      obtain rfl : new = id := by simpa using newMember
      rintro rfl
      obtain ⟨entry, member, same⟩ := List.mem_map.mp oldMember
      exact unusedId (same ▸ slots.covered entry member)
    · rw [outstanding]
      exact List.nodup_cons.mpr ⟨unusedId, slots.requests⟩
  · rw [(world.registerCmd_of_full t id cmd room).2]
    exact slots

end SlotsOutstanding

/-! ## The two threads -/

/-- The API thread may do anything that keeps slots outstanding; the event
thread only gives slots back. -/
def slotDiscipline : Discipline Thread HalOp Res Int World where
  sem := guarded Side.endsInTable.op exec
  inv := SlotsOutstanding
  rely := fun t world world' =>
    match t with
    | .api => Shrinks world world'
    | .event => True
  guar := fun t world world' =>
    match t with
    | .api => True
    | .event => Shrinks world world'
  post := fun _ _ _ => True
  rely_refl := fun t world => by
    cases t with
    | api => exact .refl world
    | event => trivial
  rely_trans := fun t _ _ _ first second => by
    cases t with
    | api => exact Shrinks.trans first second
    | event => trivial
  guar_rely := fun t u _ _ differ moved => by
    cases t <;> cases u <;> trivial
  post_stable := fun _ _ _ _ _ _ => trivial

theorem slots_wp_of_givesBack (t : Thread) (keep : World → Prop)
    (stable : ∀ world world', keep world → Shrinks world world' → keep world')
    (relies : ∀ world world', keep world → slotDiscipline.rely t world world' → keep world')
    {α : Type} {program : Hal α} (ops : program.AllOps HalOp.GivesBack) {world : World}
    (kept : keep world) : slotDiscipline.wp t program (fun _ world => keep world) world := by
  refine slotDiscipline.wp_of_allOps t keep relies ?_ program ops kept
  rintro op before result after givesBack kept slots ⟨_, env, does⟩
  obtain ⟨slots', shrinks⟩ := slots.exec givesBack t env
  rw [does] at slots' shrinks
  refine ⟨slots', ?_, stable _ _ kept shrinks⟩
  cases t with
  | api => trivial
  | event => exact shrinks

theorem slots_wp_ended (type : CommandType) (id : Int32) (result : Int) {world : World}
    (gone : (type, id) ∈ world.outstanding → ∀ entry ∈ world.info.cmds, entry.id ≠ id) :
    slotDiscipline.wp .api (perform (.ended type id) >>= fun _ => .ret result)
      (fun _ _ => True) world := by
  rintro before moved slots _ after ⟨_, env, does⟩
  obtain rfl : before.withdraw type id = after := congrArg Prod.snd does
  refine ⟨(slots.withdraw type fun member => ?_).1, trivial, trivial⟩
  exact fun entry inTable => gone (moved.outstanding member) entry (moved.cmds inTable)

theorem gone_of_shrinks {type : CommandType} {id : Int32} {world world' : World}
    (gone : (type, id) ∈ world.outstanding → ∀ entry ∈ world.info.cmds, entry.id ≠ id)
    (moved : Shrinks world world') (member : (type, id) ∈ world'.outstanding) :
    ∀ entry ∈ world'.info.cmds, entry.id ≠ id :=
  fun entry inTable => gone (moved.outstanding member) entry (moved.cmds inTable)

theorem slots_wp_ending {type : CommandType} {id : Int32} {body : Hal Int}
    (ops : body.AllOps HalOp.Stops) {world : World}
    (gone : (type, id) ∈ world.outstanding → ∀ entry ∈ world.info.cmds, entry.id ≠ id) :
    slotDiscipline.wp .api (ending type id body) (fun _ _ => True) world := by
  unfold ending
  rw [Discipline.wp_bind]
  have givesBack : body.AllOps HalOp.GivesBack :=
    ops.mono fun op stops => by cases op <;> trivial
  have kept := slots_wp_of_givesBack .api
    (fun world => (type, id) ∈ world.outstanding → ∀ entry ∈ world.info.cmds, entry.id ≠ id)
    (fun _ _ => gone_of_shrinks) (fun _ _ => gone_of_shrinks) givesBack gone
  exact slotDiscipline.wp_mono .api body kept fun result _ => slots_wp_ended type id result

theorem slots_wp_wifiCancelCmd (type : CommandType) (id : Int32) (world : World) :
    slotDiscipline.wp .api (ending type id (wifiCancelCmd id)) (fun _ _ => True) world := by
  rintro before _ slots found after ⟨_, env, does⟩
  obtain ⟨slots', _, gone⟩ := slots.unregisterCmd .api none id
  obtain rfl : before.unregisterCmd .api none id = after := congrArg Prod.snd does
  refine ⟨slots', trivial, ?_⟩
  refine slots_wp_ending ?_ fun _ => gone
  cases found with
  | none => trivial
  | some cmd => exact (cancel_stops cmd).bind fun _ => .performThen trivial fun _ => trivial

theorem slots_wp_wifiStart (type : CommandType) (id : Int32) {world : World}
    (unused : ∀ request ∈ world.outstanding, request.2 ≠ id) :
    slotDiscipline.wp .api (wifiStart type id) (fun _ _ => True) world := by
  rintro before moved slots created after ⟨_, env, does⟩
  have givesBack : HalOp.GivesBack (.newCommand type id) := trivial
  obtain ⟨slots, shrinks⟩ := slots.exec givesBack .api env
  rw [does] at slots shrinks
  refine ⟨slots, trivial, ?_⟩
  cases created with
  | none => trivial
  | some cmd =>
      rintro before' moved' slots registered after' ⟨_, env, does⟩
      have unused : ∀ request ∈ before'.outstanding, request.2 ≠ id := fun request member =>
        unused request ((moved.trans (shrinks.trans moved')).outstanding member)
      obtain rfl : before'.registerCmd .api id cmd = after' := congrArg Prod.snd does
      refine ⟨slots.registerCmd unused .api cmd, trivial, ?_⟩
      refine slots_wp_of_givesBack .api (fun _ => True) (fun _ _ _ _ => trivial)
        (fun _ _ _ _ => trivial) ?_ trivial
      dsimp only [Prog.bind]
      split
      · refine Prog.AllOps.bind ?_ fun result => ?_
        · exact (startFrom_allOps cmd _ _).mono fun op starts => by cases op <;> trivial
        · split
          · trivial
          · exact .performThen trivial fun _ => .performThen trivial fun _ => trivial
      · exact .performThen trivial fun _ => trivial

theorem calls_keep_slots (t : Thread) (program : Hal Int) (world : World)
    (called : Calls .endsInTable t world program) :
    slotDiscipline.wp t program (fun _ _ => True) world := by
  cases called with
  | api call _ admitted =>
      cases call with
      | start type id =>
          rw [ApiCall.program_start]
          exact slots_wp_wifiStart type id admitted
      | stop type id =>
          rw [ApiCall.program_stop]
          split
          · rename_i temporary
            exact slots_wp_ending (cancelTemporary_stops type _) (admitted temporary)
          · exact slots_wp_wifiCancelCmd type id world
  | event msg _ =>
      refine slots_wp_of_givesBack .event (fun _ => True) (fun _ _ _ _ => trivial)
        (fun _ _ _ _ => trivial) ?_ trivial
      exact (internalValidMessageHandler_dispatches msg).mono fun op dispatches => by
        cases op <;> trivial

theorem slotsOutstanding_initial (eventFill : CbInfo) (cmdFill : CmdInfo) :
    SlotsOutstanding (.initial eventFill cmdFill) :=
  ⟨nofun, List.nodup_nil, List.nodup_nil⟩

theorem slotsOutstanding_of_reachable {pool : HalPool}
    (reached : ReachableWhen .endsInTable pool) : SlotsOutstanding pool.shared := by
  obtain ⟨eventFill, cmdFill, reaches⟩ := reached
  have start : slotDiscipline.Good (initialPool eventFill cmdFill) :=
    ⟨slotsOutstanding_initial eventFill cmdFill, fun _ => trivial⟩
  exact (slotDiscipline.good_of_reaches
    (fun t program _ world called _ _ => calls_keep_slots t program world called)
    start reaches).1

theorem tableEmpty_of_reachable {pool : HalPool} (reached : ReachableWhen .endsInTable pool)
    (ended : pool.shared.outstanding = []) : pool.shared.info.cmd.num = 0 := by
  have slots := slotsOutstanding_of_reachable reached
  have empty : pool.shared.info.cmds = [] := by
    refine List.eq_nil_iff_forall_not_mem.mpr fun entry member => ?_
    have covered := slots.covered entry member
    rw [ended] at covered
    exact List.not_mem_nil covered
  rw [← pool.shared.info.cmd.length_toList]
  exact congrArg List.length empty

/-- In every run under the conditions whose changes of the command table are kept
apart, when no request is outstanding no slot is taken and every registration
succeeds. -/
theorem table_empty_of_none_outstanding {fine : FinePool}
    (reached : ApartReachable .endsInTable fine) (ended : fine.shared.state.outstanding = []) :
    fine.shared.state.info.cmd.num = 0 ∧
      ∀ id cmd, (wifiRegisterCmd fine.shared.state.info id cmd).1 = wifiSuccess := by
  obtain ⟨pool, whole, simulates⟩ := reached.simulates
  obtain ⟨table, keeps, state⟩ := state_of_simulates simulates
  rw [state] at ended ⊢
  have empty : table.num = 0 := keeps.num.trans (tableEmpty_of_reachable whole ended)
  have alloc : table.alloc = defaultCmdSize :=
    keeps.alloc.trans (wellFormed_of_reachable whole).allocCmd
  refine ⟨empty, fun id cmd => ((pool.shared.setTable table).registerCmd_of_room .api id cmd ?_).1⟩
  change table.toList.length < table.alloc
  rw [CompactArray.length_toList, empty, alloc]
  decide

/-- A scan that is stopped and a range request that an event completes, while the
other thread is in the middle of the stop call. -/
theorem table_empty_after_stop_and_completion : ∃ fine, ApartReachable .endsInTable fine ∧
    fine.shared.state.next = 2 ∧ fine.shared.state.info.cmd.num = 0 := by
  obtain ⟨fine, reached, played⟩ := exists_apartReachable_of_play .endsInTable
    ([.call (.start .scan 1), .finish .api (.rejecting none),
      .call (.start .rtt 7), .finish .api (.rejecting none), .call (.stop .scan 1)] ++
      List.replicate 8 (.act .api (.rejecting none)) ++
      [.message ⟨0, 103, some googleOui, some 4, [.resultsComplete 1]⟩,
        .finish .event (.rejecting none), .finish .api (.rejecting none)])
    (fun fine => fine.shared.state.next == 2 && fine.shared.state.outstanding == [])
    (by decide +kernel)
  simp only [Bool.and_eq_true, beq_iff_eq] at played
  exact ⟨fine, reached, played.1, (table_empty_of_none_outstanding reached played.2).1⟩

/-- `wifi_rtt_range_cancel` leaves the command of the range request in its slot. -/
theorem table_not_empty_after_rtt_cancel :
    ¬ ∀ fine, FineReachable .distinctIds fine → fine.shared.state.outstanding = [] →
      fine.shared.state.info.cmd.num = 0 := by
  intro empty
  obtain ⟨fine, reached, played⟩ := exists_fineReachable_of_play .distinctIds
    [.call (.start .rtt 7), .finish .api (.rejecting none),
      .call (.stop .rtt 7), .finish .api (.rejecting none)]
    (fun fine => fine.shared.state.outstanding == [] && fine.shared.state.info.cmd.num == 1)
    (by decide +kernel)
  simp only [Bool.and_eq_true, beq_iff_eq] at played
  have := empty fine reached played.1
  omega

/-- A range request that completes between the stores of a registration keeps a
slot, also when the request that was being registered is stopped. -/
theorem table_not_empty_of_overlap :
    ¬ ∀ fine, FineReachable .endsInTable fine → fine.shared.state.outstanding = [] →
      fine.shared.state.info.cmd.num = 0 := by
  intro empty
  obtain ⟨fine, reached, played⟩ := exists_fineReachable_of_play .endsInTable
    ([.call (.start .rtt 7), .finish .api (.rejecting none), .call (.start .scan 1)] ++
      List.replicate 7 (.act .api (.rejecting none)) ++
      [.message ⟨0, 103, some googleOui, some 4, [.resultsComplete 1]⟩,
        .finish .event (.rejecting none), .finish .api (.rejecting none),
        .call (.stop .scan 1), .finish .api (.rejecting none)])
    (fun fine => fine.shared.state.outstanding == [] && fine.shared.state.info.cmd.num == 1)
    (by decide +kernel)
  simp only [Bool.and_eq_true, beq_iff_eq] at played
  have := empty fine reached played.1
  omega

end Mt6757.WifiHal
