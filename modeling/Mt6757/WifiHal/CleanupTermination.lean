import Mt6757.WifiHal.Cleanup

/-!
# The cancel loop ends

A turn of the loop either moves on to the next slot or has seen the table become
shorter, whatever the event thread removes.  No condition on the run is needed.
-/

set_option autoImplicit false

namespace Mt6757.WifiHal

open CommandTree

/-- No condition, but that no call follows the cleanup. -/
def Side.anyCleanup : Side where
  call := fun _ world => world.cleaning = false
  op := fun _ _ _ => True

theorem exec_cleaning (t : Thread) (env : Env) {op : HalOp} (other : op ≠ .beginCleanup)
    (world : World) : (exec t env op world).2.cleaning = world.cleaning := by
  have touched : ∀ world : World, ∀ cmd, (world.touch cmd).cleaning = world.cleaning := by
    intro world cmd
    unfold World.touch
    split <;> rfl
  have added : ∀ cmd, (world.addRef t cmd).cleaning = world.cleaning := touched world
  have released : ∀ cmd, (world.releaseRef t cmd).cleaning = world.cleaning := touched world
  cases op with
  | beginCleanup => exact absurd rfl other
  | newCommand type id =>
      simp only [exec]
      split <;> rfl
  | requestResponse this request =>
      simp only [exec]
      split <;> rfl
  | wifiRegisterCmd id cmd =>
      simp only [exec, World.registerCmd]
      split <;> rfl
  | wifiUnregisterCmd owner id =>
      simp only [exec]
      unfold World.cleaning
      rw [World.unregisterCmd_log]
  | cancel this => exact touched world this
  | findAndAddRef msg =>
      simp only [exec, World.findAndAddRef]
      split
      · rfl
      · split
        · rfl
        · exact added _
  | handleEvent this => exact touched world this
  | handleAttrs this attrs =>
      simp only [exec, World.handleAttrs]
      split <;> rfl
  | id this => exact touched world this
  | releaseRef this => exact released this
  | cmdAt index => exact touched world.countRead _
  | _ => rfl

theorem exec_num_le (t : Thread) (env : Env) (op : HalOp)
    (other : ∀ id cmd, op ≠ .wifiRegisterCmd id cmd) (world : World) :
    (exec t env op world).2.info.cmds.length ≤ world.info.cmds.length := by
  cases op with
  | newCommand type id =>
      simp only [exec]
      split <;> exact Nat.le_refl _
  | requestResponse this request =>
      simp only [exec]
      split <;> exact Nat.le_refl _
  | registerVendorHandler this event =>
      simp [exec]
  | wifiRegisterCmd id cmd => exact absurd rfl (other id cmd)
  | wifiUnregisterCmd owner id =>
      simp only [exec, World.unregisterCmd_info, wifiUnregisterCmd_cmds]
      exact List.length_eraseP_le
  | cancel this => simp [exec]
  | findAndAddRef msg => simp [exec]
  | handleEvent this => simp [exec]
  | handleAttrs this attrs => simp [exec]
  | id this => simp [exec]
  | releaseRef this => simp [exec]
  | beginCleanup => simp [exec]
  | cmdAt index => simp [exec]
  | _ => exact Nat.le_refl _

/-- The event thread takes no slot and begins no cleanup. -/
structure Frees (world world' : World) : Prop where
  cleaning : world'.cleaning = world.cleaning
  num : world'.info.cmds.length ≤ world.info.cmds.length

theorem Frees.refl (world : World) : Frees world world := ⟨rfl, Nat.le_refl _⟩

theorem Frees.trans {world world' world'' : World} (first : Frees world world')
    (second : Frees world' world'') : Frees world world'' :=
  ⟨second.cleaning.trans first.cleaning, second.num.trans first.num⟩

/-- A cleanup that has returned was not cut short. -/
def finishedPost (t : Thread) (value : Int) (world : World) : Prop :=
  match t with
  | .api => world.cleaning = false ∨ value = wifiSuccess
  | .event => True

def freeing : Discipline Thread HalOp Res Int World where
  sem := guarded Side.anyCleanup.op exec
  inv := fun _ => True
  rely := fun t world world' =>
    match t with
    | .api => Frees world world'
    | .event => True
  guar := fun t world world' =>
    match t with
    | .api => True
    | .event => Frees world world'
  post := finishedPost
  rely_refl := fun t world => by
    cases t with
    | api => exact .refl world
    | event => trivial
  rely_trans := fun t _ _ _ first second => by
    cases t with
    | api => exact Frees.trans first second
    | event => trivial
  guar_rely := fun t u _ _ differ moved => by
    cases t <;> cases u <;> trivial
  post_stable := fun t value world world' holds moved => by
    cases t with
    | api => exact holds.imp_left (Frees.cleaning moved).trans
    | event => trivial

theorem freeing_wp_of_allOps {α : Type} (bound : Nat) {program : Hal α}
    (ops : program.AllOps fun op => ∀ id cmd, op ≠ .wifiRegisterCmd id cmd) {world : World}
    (bounded : world.info.cmds.length ≤ bound) :
    freeing.wp .api program (fun _ world => world.info.cmds.length ≤ bound) world := by
  refine freeing.wp_of_allOps .api (fun world => world.info.cmds.length ≤ bound)
    (fun _ _ kept moved => (Frees.num moved).trans kept) ?_ program ops bounded
  rintro op before result after other kept _ ⟨_, env, does⟩
  have num := exec_num_le .api env op other before
  rw [does] at num
  exact ⟨trivial, trivial, num.trans kept⟩

theorem freeing_wp_numCmd {α : Type} {after : Nat → Hal α} {post : α → World → Prop}
    {world : World} (rest : ∀ world', world'.info.cmds.length ≤ world.info.cmds.length →
      freeing.wp .api (after world'.info.cmds.length) post world') :
    freeing.wp .api (perform .numCmd >>= after) post world := by
  rintro before moved _ left later ⟨_, env, does⟩
  obtain rfl : before.countRead = later := congrArg Prod.snd does
  obtain rfl : before.info.cmds.length = left :=
    (CompactArray.length_toList _).trans (congrArg Prod.fst does)
  have num : before.info.cmds.length ≤ world.info.cmds.length := Frees.num moved
  exact ⟨trivial, trivial, rest before.countRead num⟩

theorem cancel_registersNothing (cmd : Ptr) :
    (cancel cmd).AllOps fun op => ∀ id other, op ≠ .wifiRegisterCmd id other :=
  (cancel_allOps cmd).mono fun op cancels => by cases op <;> first | contradiction | exact nofun

theorem freeing_wp_cleanupLoop (fuel turn : Nat) {world : World}
    (enough : world.info.cmds.length - turn < fuel) :
    freeing.wp .api (cleanupLoop fuel turn) (fun value _ => value = wifiSuccess) world := by
  induction fuel generalizing turn world with
  | zero => omega
  | succ fuel ih =>
      refine freeing_wp_numCmd fun first firstLe => ?_
      split
      · rename_i more
        refine freeing_wp_numCmd fun second secondLe => ?_
        rintro before moved _ cmd after ⟨_, env, does⟩
        have readLe := exec_num_le .api env (.cmdAt turn) nofun before
        rw [does] at readLe
        refine ⟨trivial, trivial, ?_⟩
        refine (freeing.wp_bind .api (cancel cmd) _ _ _).mpr (freeing.wp_mono .api _
          (freeing_wp_of_allOps second.info.cmds.length (cancel_registersNothing cmd)
            (readLe.trans (Frees.num moved))) fun _ middle middleLe => ?_)
        refine freeing_wp_numCmd fun third thirdLe => ?_
        rintro before moved _ _ after ⟨_, env, does⟩
        have releasedLe := exec_num_le .api env (.releaseRef cmd) nofun before
        rw [does] at releasedLe
        dsimp only at releasedLe
        have movedLe := Frees.num moved
        refine ⟨trivial, trivial, ih _ ?_⟩
        split
        · omega
        · rename_i differ
          have differ : second.info.cmds.length ≠ third.info.cmds.length := differ
          omega
      · rfl

theorem wifiStart_beginsNothing (type : CommandType) (id : Int32) :
    (wifiStart type id).AllOps fun op => op ≠ .beginCleanup := by
  refine Prog.AllOps.performThen nofun fun created => ?_
  split
  · trivial
  · refine .performThen nofun fun registered => ?_
    split
    · refine Prog.AllOps.bind ?_ fun result => ?_
      · exact (startFrom_allOps _ _ _).mono fun op starts => by
          cases op <;> first | contradiction | exact nofun
      · split
        · trivial
        · exact .performThen nofun fun _ => .performThen nofun fun _ => trivial
    · exact .performThen nofun fun _ => trivial

theorem apiCall_beginsNothing (call : ApiCall) :
    call.program.AllOps fun op => op ≠ .beginCleanup := by
  cases call with
  | start type id =>
      rw [ApiCall.program_start]
      exact wifiStart_beginsNothing type id
  | stop type id =>
      rw [ApiCall.program_stop]
      refine ending_allOps ?_ nofun
      split
      · exact (cancelTemporary_stops type _).mono fun op stops => by
          cases op <;> first | contradiction | exact nofun
      · exact (wifiCancelCmd_stops id).mono fun op stops => by
          cases op <;> first | contradiction | exact nofun

theorem freeing_wp_apiCall (call : ApiCall) {world : World} (running : world.cleaning = false) :
    freeing.wp .api call.program (finishedPost .api) world := by
  refine freeing.wp_mono .api _ (freeing.wp_of_allOps .api (fun world => world.cleaning = false)
    (fun _ _ kept moved => (Frees.cleaning moved).trans kept) ?_ _ (apiCall_beginsNothing call)
    running) fun _ _ running => Or.inl running
  rintro op before result after other kept _ ⟨_, env, does⟩
  have cleaning := exec_cleaning .api env other before
  rw [does] at cleaning
  exact ⟨trivial, trivial, cleaning.trans kept⟩

theorem freeing_wp_event (msg : NlMsg) (world : World) :
    freeing.wp .event (internalValidMessageHandler msg) (finishedPost .event) world := by
  refine freeing.wp_of_allOps .event (fun _ => True) (fun _ _ _ _ => trivial) ?_ _
    (internalValidMessageHandler_dispatches msg) trivial
  rintro op before result after dispatches _ _ ⟨_, env, does⟩
  have cleaning : (exec .event env op before).2.cleaning = before.cleaning := by
    refine exec_cleaning .event env ?_ before
    rintro rfl
    exact dispatches
  have num : (exec .event env op before).2.info.cmds.length ≤ before.info.cmds.length := by
    refine exec_num_le .event env op ?_ before
    rintro id cmd rfl
    exact dispatches
  rw [does] at cleaning num
  exact ⟨trivial, ⟨cleaning, num⟩, trivial⟩

/-- Whatever completions free, a cleanup that has returned went through its loop. -/
theorem cleanup_finishes {fine : FinePool} (reached : ApartCleanup .anyCleanup fine)
    {value : Int} (returned : fine.thread .api = .ret value)
    (cleaned : fine.shared.state.cleaning = true) : value = wifiSuccess := by
  obtain ⟨eventFill, cmdFill, pool, reaches, simulates⟩ := reached.simulates
  obtain ⟨table, _, state⟩ := state_of_simulates simulates
  have start : freeing.Good (initialPool eventFill cmdFill) := by
    refine ⟨trivial, fun t => ?_⟩
    cases t with
    | api => exact Or.inl rfl
    | event => trivial
  have good := freeing.good_of_reaches (fun t program value world called _ _ => by
    cases called with
    | call called =>
        cases called with
        | api call _ running => exact freeing_wp_apiCall call running
        | event msg _ => exact freeing_wp_event msg world
    | cleanup fuel _ running enough =>
        rintro before moved _ _ after ⟨_, env, does⟩
        obtain rfl : before.beginCleanup = after := congrArg Prod.snd does
        refine ⟨trivial, trivial, freeing.wp_mono .api _
          (freeing_wp_cleanupLoop fuel 0 ?_) fun _ _ finished => Or.inr finished⟩
        have length : world.info.cmds.length = world.info.cmd.num := CompactArray.length_toList _
        have movedLe := Frees.num moved
        rw [World.beginCleanup_info]
        omega) start reaches
  have ended := good.2 .api
  rw [simulates.returned returned] at ended
  rcases ended with running | finished
  · rw [state] at cleaned
    have cleaned : pool.shared.cleaning = true := cleaned
    rw [running] at cleaned
    contradiction
  · exact finished

end Mt6757.WifiHal
