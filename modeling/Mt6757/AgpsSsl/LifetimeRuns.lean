import Mt6757.AgpsSsl.Lifetime

/-!
# Runs of `BIO_new` and `BIO_free`

Every call of a thread that owns nothing ends with the thread owning nothing,
whatever fails in it and whatever the other threads do meanwhile.
-/

set_option autoImplicit false

namespace Mt6757.AgpsSsl

open CommandTree

section Calls

variable {Bio Tid : Type} [DecidableEq Tid] (lib : BioLib Bio)

/-- The view of a thread that owns nothing. -/
abbrev LocalView.empty : LocalView Bio := ⟨none, none⟩

def keeping : Discipline Tid BioOp Res (Option Ptr) (World Bio Tid) where
  sem := guarded (fun _ _ _ => True) (exec lib)
  inv := Owned lib
  rely t world world' := world'.view t = world.view t ∧ world'.made t = world.made t
  guar t world world' := ∀ u, u ≠ t →
    world'.view u = world.view u ∧ world'.made u = world.made u
  post t result world := world.view t = .empty ∧ result = (world.made t).map Made.bio
  rely_refl _ _ := ⟨rfl, rfl⟩
  rely_trans _ _ _ _ first second :=
    ⟨second.1.trans first.1, second.2.trans first.2⟩
  guar_rely _ u _ _ different guaranteed := guaranteed u (Ne.symm different)
  post_stable _ _ _ _ post moved := ⟨moved.1.trans post.1, by rw [moved.2]; exact post.2⟩

/-- A program that ends with nothing owned and returns what it has made, begun with
`view` and `made`. -/
def Safe (t : Tid) (program : Agps (Option Ptr)) (view : LocalView Bio) (made : Option Made) :
    Prop :=
  ∀ world : World Bio Tid, world.view t = view → world.made t = made →
    (keeping lib).wp t program
      (fun result after => after.view t = .empty ∧ result = (after.made t).map Made.bio) world

/-- The operations in which no call begins and nothing is made for a caller. -/
def BioOp.KeepsMade : BioOp → Prop
  | .dlsym => False
  | .realNewPlain => False
  | .syncFlags _ _ => False
  | .lastReference _ => False
  | _ => True

variable {lib} {t : Tid} {view : LocalView Bio} {s b : Ptr} {value : BioState}
  {past : List Observation} {native : Bio} {viewBio : Option (Ptr × Option Bio)}
  {viewState : Option (Ptr × Option BioState × List Observation)} {made : Option Made}

omit [DecidableEq Tid] in
theorem modifyState_of_view {before : World Bio Tid}
    (here : before.view t = ⟨some (s, some value, past), viewBio⟩) (f : BioState → BioState) :
    before.modifyState s f =
      { before with states := Function.update before.states s (some (f value)) } := by
  simp [World.modifyState, (heldState_of_view here).2.1]

omit [DecidableEq Tid] in
@[simp] theorem made_modifyState (world : World Bio Tid) (state : Ptr) (f : BioState → BioState) :
    (world.modifyState state f).made = world.made := by
  unfold World.modifyState
  split <;> rfl

theorem exec_keepsMade (t : Tid) (env : Env Bio) {op : BioOp} (keeps : op.KeepsMade)
    (world : World Bio Tid) : (exec lib t env op world).2.made = world.made := by
  cases op with
  | dlsym => exact keeps.elim
  | realNewPlain => exact keeps.elim
  | syncFlags bio state => exact keeps.elim
  | lastReference bio => exact keeps.elim
  | prepare state method => exact made_modifyState _ _ _
  | destroy state => exact made_modifyState _ _ _
  | bwrite bio state data length => exact made_modifyState _ _ _
  | bread bio state data length => exact made_modifyState _ _ _
  | ctrl bio state cmd arg ptr => exact made_modifyState _ _ _
  | create state =>
      simp only [exec]
      split
      · exact made_modifyState _ _ _
      · rfl
  | loadFlags bio state =>
      simp only [exec]
      split
      · exact made_modifyState _ _ _
      · rfl
  | realNew =>
      simp only [exec]
      split <;> rfl
  | calloc =>
      simp only [exec]
      split <;> rfl
  | original state =>
      simp only [exec]
      split <;> rfl
  | free state => rfl
  | getData bio => rfl
  | setData bio state => rfl
  | release bio => rfl

theorem exec_made_other {u : Tid} (another : u ≠ t) (env : Env Bio) (op : BioOp)
    (world : World Bio Tid) : (exec lib t env op world).2.made u = world.made u := by
  have elsewhere : ∀ made, Function.update world.made t made u = world.made u := by
    intro made
    rw [Function.update_of_ne another]
  cases op with
  | dlsym => exact elsewhere none
  | realNewPlain => exact elsewhere _
  | syncFlags bio state =>
      simp only [exec]
      split
      · split
        · exact elsewhere _
        · rfl
      · rfl
  | lastReference bio =>
      simp only [exec]
      split <;> exact elsewhere none
  | _ => exact congrFun (exec_keepsMade t env (by trivial) world) u

theorem Safe.ret {result : Option Ptr} (returns : result = made.map Made.bio) :
    Safe lib t (.ret result) .empty made :=
  fun _ here isMade => ⟨here, isMade ▸ returns⟩

theorem Safe.callMaking {op : BioOp} {next : Res op → Agps (Option Ptr)}
    (moves : ∀ (before : World Bio Tid) (env : Env Bio), Owned lib before →
      before.view t = view → ∃ view', Moves lib t before (exec lib t env op before).2 view' ∧
        ∀ made', (exec lib t env op before).2.made t = made' →
          Safe lib t (next (exec lib t env op before).1) view' made') :
    Safe lib t (perform op >>= next) view made := by
  intro world here isMade before moved owned result after does
  obtain ⟨-, env, performed⟩ := does
  obtain ⟨view', moves', safe⟩ := moves before env owned (moved.1.trans here)
  have others : ∀ u, u ≠ t → (exec lib t env op before).2.made u = before.made u :=
    fun u another => exec_made_other another env op before
  rw [performed] at moves' safe others
  exact ⟨moves'.owned, fun u another => ⟨moves'.others u another, others u another⟩,
    safe _ rfl after moves'.mine rfl⟩

theorem Safe.call {op : BioOp} {next : Res op → Agps (Option Ptr)} (keeps : op.KeepsMade)
    (moves : ∀ (before : World Bio Tid) (env : Env Bio), Owned lib before →
      before.view t = view → ∃ view', Moves lib t before (exec lib t env op before).2 view' ∧
        Safe lib t (next (exec lib t env op before).1) view' made) :
    Safe lib t (perform op >>= next) view made := by
  intro world here isMade before moved owned result after does
  obtain ⟨-, env, performed⟩ := does
  obtain ⟨view', moves', safe⟩ := moves before env owned (moved.1.trans here)
  have kept : (exec lib t env op before).2.made = before.made :=
    exec_keepsMade t env keeps before
  rw [performed] at moves' safe kept
  have kept : after.made = before.made := kept
  exact ⟨moves'.owned, fun u another => ⟨moves'.others u another, congrFun kept u⟩,
    safe after moves'.mine ((congrFun kept t).trans (moved.2.trans isMade))⟩

theorem Safe.quiet {op : BioOp} {next : Res op → Agps (Option Ptr)} (keeps : op.KeepsMade)
    (same : ∀ (before : World Bio Tid) (env : Env Bio), Owned lib before →
      before.view t = view → (exec lib t env op before).2 = before ∧
        Safe lib t (next (exec lib t env op before).1) view made) :
    Safe lib t (perform op >>= next) view made := by
  apply Safe.call keeps
  intro before env owned here
  obtain ⟨unchanged, safe⟩ := same before env owned here
  rw [unchanged]
  exact ⟨view, .refl owned here, safe⟩

theorem Safe.free {entry : Option BioState} {next : Unit → Agps (Option Ptr)}
    (lifetime : Lifetime s (.freed s :: past)) (rest : Safe lib t (next ()) ⟨none, viewBio⟩ made) :
    Safe lib t (perform (.free s) >>= next) ⟨some (s, entry, past), viewBio⟩ made := by
  refine Safe.call (by trivial) ?_
  intro before env owned here
  exact ⟨_, Moves.free owned here lifetime, rest⟩

theorem Safe.prepare {method : BioMethod} {next : Unit → Agps (Option Ptr)}
    (unfinished : Unfinished s past)
    (rest : ∀ value', value'.original = method →
      Safe lib t (next ()) ⟨some (s, some value', past), viewBio⟩ made) :
    Safe lib t (perform (.prepare s method) >>= next) ⟨some (s, some value, past), viewBio⟩
      made := by
  refine Safe.call (by trivial) ?_
  intro before env owned here
  let prepared : BioState :=
    { value with
      original := method
      legacy := { value.legacy with method := kOreoMarker, shutdown := 1, references := 1 } }
  have moves := Moves.touchState owned here prepared [] (List.forall_mem_nil _) unfinished
  refine ⟨_, ?_, rest prepared rfl⟩
  simpa only [exec, modifyState_of_view here, List.nil_append] using moves

/-- A callback of the original method runs on a state its thread holds. -/
theorem Safe.callback {op : BioOp} {next : Res op → Agps (Option Ptr)} (keeps : op.KeepsMade)
    (does : ∀ (before : World Bio Tid) (env : Env Bio),
      before.view t = ⟨some (s, some value, past), viewBio⟩ →
      ∃ observation : Observation, observation.subject = some s ∧
        Unfinished s (observation :: past) ∧
        (exec lib t env op before).2 = (before.callback lib s env.actions).note observation ∧
        ∀ value', value'.original = value.original →
          Safe lib t (next (exec lib t env op before).1)
            ⟨some (s, some value', observation :: past), viewBio⟩ made) :
    Safe lib t (perform op >>= next) ⟨some (s, some value, past), viewBio⟩ made := by
  apply Safe.call keeps
  intro before env owned here
  obtain ⟨observation, subject, unfinished, performed, rest⟩ := does before env here
  have about : ∀ o ∈ [observation], o.subject = some s := by simpa using subject
  let called : BioState :=
    { value with legacy := env.actions.foldl (ViewAction.run lib) value.legacy }
  have moves := Moves.touchState owned here called [observation] about unfinished
  refine ⟨_, ?_, rest called rfl⟩
  rw [performed]
  simpa only [World.callback, modifyState_of_view here, World.note, List.singleton_append]
    using moves

theorem Safe.destroy {next : Unit → Agps (Option Ptr)}
    (rest : ∀ value', value'.original = value.original →
      Safe lib t (next ())
        ⟨some (s, some value', .destroyCalled s :: opening s value.original), viewBio⟩ made) :
    Safe lib t (perform (.destroy s) >>= next)
      ⟨some (s, some value, opening s value.original), viewBio⟩ made := by
  refine Safe.callback (by trivial) ?_
  intro before env here
  exact ⟨.destroyCalled s, rfl, .destroyed value.original, rfl, rest⟩

theorem Safe.create {next : Bool → Agps (Option Ptr)}
    (rest : ∀ value' success, value'.original = value.original →
      Safe lib t (next success)
        ⟨some (s, some value', [.createReturned s value.original success, .allocated s]),
          viewBio⟩ made) :
    Safe lib t (perform (.create s) >>= next) ⟨some (s, some value, [.allocated s]), viewBio⟩
      made := by
  refine Safe.callback (by trivial) ?_
  intro before env here
  have entered := (heldState_of_view here).2.1
  refine ⟨.createReturned s value.original (env.result != 0), rfl, .created _ _, ?_, ?_⟩
  · simp [exec, entered]
  · intro value' same
    simpa [exec, entered] using rest value' (env.result != 0) same

theorem Safe.touchBio {op : BioOp} {next : Res op → Agps (Option Ptr)}
    {entry : Option Bio} (keeps : op.KeepsMade) (f : Bio → Bio)
    (does : ∀ (before : World Bio Tid) (env : Env Bio),
      (exec lib t env op before).2 = before.modifyBio b f ∧
        Safe lib t (next (exec lib t env op before).1) ⟨viewState, some (b, entry.map f)⟩ made) :
    Safe lib t (perform op >>= next) ⟨viewState, some (b, entry)⟩ made := by
  apply Safe.call keeps
  intro before env owned here
  obtain ⟨performed, rest⟩ := does before env
  have moves := Moves.touchBio owned here (entry.map f)
  refine ⟨_, ?_, rest⟩
  rwa [performed, World.modifyBio, (heldBio_of_view here).2]

theorem Safe.publish {next : Unit → Agps (Option Ptr)} (carries : lib.getData native = some s)
    (rest : Safe lib t (next ()) .empty (some (.bridged b))) :
    Safe lib t (perform (.syncFlags b s) >>= next)
      ⟨some (s, some value, opening s value.original), some (b, some native)⟩ made := by
  apply Safe.callMaking
  intro before env owned here
  obtain ⟨-, entered, -⟩ := heldState_of_view here
  obtain ⟨heldBio, entry⟩ := heldBio_of_view here
  have synced := Moves.touchBio owned here (some (syncFlags lib native value.legacy))
  have published := Moves.publish synced.owned synced.mine
    ((getData_syncFlags lib native value.legacy).trans carries)
  refine ⟨.empty, ?_, ?_⟩
  · simpa [exec, entered, heldBio, World.modifyBio, entry] using synced.trans published
  · rintro made' rfl
    simpa [exec, entered, heldBio] using rest

/-! ## The calls -/

theorem opening_of_no_create {method : BioMethod} (create : method.create = false) :
    opening s method = [.allocated s] := by
  simp [opening, create]

theorem opening_of_create {method : BioMethod} (create : method.create = true) :
    opening s method = [.createReturned s method true, .allocated s] := by
  simp [opening, create]

theorem safe_bioNewNative (method : BioMethod) (same : value.original = method) :
    Safe lib t (bioNewNative method s)
      (⟨some (s, some value, opening s value.original), none⟩ : LocalView Bio) none := by
  refine Safe.call (by trivial) ?_
  intro before env owned here
  cases answer : env.newBio with
  | none =>
      have performed : exec lib t env .realNew before = (none, before) := by
        simp [exec, answer]
      rw [performed]
      refine ⟨_, .refl owned here, ?_⟩
      subst same
      cases destroy : value.original.destroy with
      | true =>
          apply Safe.destroy
          intro value' same'
          apply Safe.free (.destroyed _ destroy)
          exact Safe.ret rfl
      | false =>
          apply Safe.free (.dropped _ destroy)
          exact Safe.ret rfl
  | some fresh =>
      have moves := Moves.takeBio owned here fresh
      refine ⟨_, by simpa only [exec, answer] using moves, ?_⟩
      simp only [exec, answer]
      refine Safe.touchBio (by trivial) (fun native => lib.setData native (some s)) ?_
      intro before' env'
      refine ⟨rfl, ?_⟩
      apply Safe.publish (by simp)
      exact Safe.ret rfl

theorem safe_bioNewBridged (method : BioMethod) :
    Safe lib t (bioNewBridged method) (.empty : LocalView Bio) none := by
  unfold bioNewBridged
  split
  · exact Safe.ret rfl
  · refine Safe.call (by trivial) ?_
    intro before env owned here
    cases allocated : env.calloc with
    | false =>
        have performed : exec lib t env .calloc before = (none, before) := by
          simp [exec, allocated]
        rw [performed]
        exact ⟨_, .refl owned here, Safe.ret rfl⟩
    | true =>
        have moves := Moves.allocate owned here .zeroed
        refine ⟨_, by simpa only [exec, allocated, if_true] using moves, ?_⟩
        simp only [exec, allocated, if_true]
        apply Safe.prepare .allocated
        intro prepared same
        subst same
        cases create : prepared.original.create with
        | false =>
            have native : Safe lib t (bioNewNative prepared.original before.nextState)
                ⟨some (before.nextState, some prepared,
                  opening before.nextState prepared.original), none⟩ none :=
              safe_bioNewNative prepared.original rfl
            rwa [opening_of_no_create create] at native
        | true =>
            apply Safe.create
            intro created success same
            rw [← same]
            cases success with
            | false =>
                apply Safe.free (.rejected _)
                exact Safe.ret rfl
            | true =>
                have native : Safe lib t (bioNewNative created.original before.nextState)
                    ⟨some (before.nextState, some created,
                      opening before.nextState created.original), none⟩ none :=
                  safe_bioNewNative created.original rfl
                rwa [opening_of_create (same ▸ create)] at native

theorem safe_realNewPlain :
    Safe lib t (perform .realNewPlain) (.empty : LocalView Bio) made := by
  apply Safe.callMaking
  intro before env owned here
  refine ⟨_, Moves.make owned here fun b => ?_, ?_⟩
  · cases env.plainBio <;> simp
  · rintro made' rfl
    apply Safe.ret
    simp only [exec, Function.update_self]
    cases env.plainBio <;> rfl

theorem safe_bioNew (method : Option BioMethod) :
    Safe lib t (bioNew method) (.empty : LocalView Bio) made := by
  apply Safe.callMaking
  intro before env owned here
  refine ⟨_, Moves.make owned here nofun, ?_⟩
  rintro made' rfl
  have begun : (exec lib t env .dlsym before).2.made t = none := Function.update_self _ _ _
  rw [begun]
  change Safe lib t (if !env.loaded then _ else _) .empty none
  split
  · exact Safe.ret rfl
  · cases method with
    | none => exact safe_realNewPlain
    | some given =>
        change Safe lib t (if isMtkMethod (some given) then _ else _) .empty none
        split
        · exact safe_bioNewBridged given
        · exact safe_realNewPlain

/-- What follows the destroy callback, if there is one. -/
theorem safe_freeThenUnset {rest : Int32 → Agps (Option Ptr)} {entry : Option BioState}
    (lifetime : Lifetime s (.freed s :: past))
    (after : ∀ unset, Safe lib t (rest 1) ⟨none, some (b, unset)⟩ made) :
    Safe lib t (perform (.free s) >>= fun _ => perform (.setData b none) >>= fun _ => rest 1)
      ⟨some (s, entry, past), some (b, some native)⟩ made := by
  apply Safe.free lifetime
  refine Safe.touchBio (by trivial) (fun native => lib.setData native none) ?_
  intro before env
  exact ⟨rfl, after _⟩

theorem safe_bridgeDestroy {rest : Int32 → Agps (Option Ptr)}
    (carries : lib.getData native = some s)
    (after : ∀ unset, Safe lib t (rest 1) ⟨none, some (b, unset)⟩ made) :
    Safe lib t (bridgeDestroy b >>= rest)
      ⟨some (s, some value, opening s value.original), some (b, some native)⟩ made := by
  refine Safe.quiet (by trivial) ?_
  intro before env owned here
  obtain ⟨-, entry⟩ := heldBio_of_view here
  refine ⟨rfl, ?_⟩
  simp only [exec, entry, Option.bind_some, carries]
  refine Safe.quiet (by trivial) ?_
  intro before' env' owned' here'
  obtain ⟨-, entered, -⟩ := heldState_of_view here'
  refine ⟨by simp only [exec, entered], ?_⟩
  simp only [exec, entered]
  cases destroy : value.original.destroy with
  | true =>
      simp only [Prog.bind, destroy, if_true]
      change Safe lib t (perform (.destroy s) >>= fun _ => perform (.free s) >>= fun _ =>
        perform (.setData b none) >>= fun _ => rest 1) _ made
      apply Safe.destroy
      intro value' same
      exact safe_freeThenUnset (.destroyed _ destroy) after
  | false =>
      simp only [Prog.bind, destroy]
      exact safe_freeThenUnset (.dropped _ destroy) after

theorem safe_bioFree (bio : Ptr) : Safe lib t (bioFree bio) (.empty : LocalView Bio) made := by
  apply Safe.callMaking
  intro before env owned here
  by_cases last : env.lastReference ∧ bio ∈ before.live
  · obtain ⟨native, s, value, carries, moves⟩ := Moves.withdraw owned here last.2
    refine ⟨_, by simpa only [exec, if_pos last, World.dataOf] using moves, ?_⟩
    simp only [exec, if_pos last, Function.update_self]
    rintro made' rfl
    apply safe_bridgeDestroy carries
    intro unset
    refine Safe.call (by trivial) ?_
    intro before' env' owned' here'
    have unmade := Moves.touchBio owned' here' none
    have released := Moves.releaseBio unmade.owned unmade.mine
    exact ⟨_, unmade.trans released, Safe.ret rfl⟩
  · simp only [exec, if_neg last, Function.update_self]
    have returnsNone : ∀ bio, none ≠ some (Made.bridged bio) := fun _ =>
      (Option.some_ne_none _).symm
    refine ⟨_, Moves.make owned here fun bio made => absurd made (returnsNone bio), ?_⟩
    rintro made' rfl
    exact Safe.ret rfl

end Calls

/-! ## Runs -/

section Runs

variable {Bio Tid : Type} [DecidableEq Tid] {lib : BioLib Bio}

abbrev BioPool (Bio Tid : Type) : Type := Pool Tid BioOp Res (Option Ptr) (World Bio Tid)

/-- `BIO_new` with any method, and `BIO_free` of any BIO. -/
inductive BioCall : Tid → World Bio Tid → Agps (Option Ptr) → Prop where
  | new (t : Tid) (world : World Bio Tid) (method : Option BioMethod) :
      BioCall t world (bioNew method)
  | free (t : Tid) (world : World Bio Tid) (bio : Ptr) : BioCall t world (bioFree bio)

def emptyPool : BioPool Bio Tid := ⟨.empty, fun _ => .ret none⟩

variable (lib) in
def ReachablePool (pool : BioPool Bio Tid) : Prop :=
  Reaches (guarded (fun _ _ _ => True) (exec lib)) BioCall emptyPool pool

omit [DecidableEq Tid] in
theorem owned_empty : Owned lib (.empty : World Bio Tid) where
  fresh _ _ := ⟨rfl, rfl⟩
  freshBio _ _ := ⟨List.not_mem_nil, fun _ => Option.some_ne_none _ ∘ Eq.symm⟩
  held _ _ absent := absurd absent.symm (Option.some_ne_none _)
  heldOnce _ _ _ absent := absurd absent.symm (Option.some_ne_none _)
  heldBioOnce _ _ _ absent := absurd absent.symm (Option.some_ne_none _)
  heldBioNotLive _ _ _ := List.not_mem_nil
  nodup := List.nodup_nil
  carried := List.forall_mem_nil _
  carriedNotHeld := List.forall_mem_nil _
  carriedOnce := List.forall_mem_nil _
  past _ old := absurd old (Nat.not_lt_zero _)
  handed _ _ absent := absurd absent.symm (Option.some_ne_none _)

theorem good_of_reachable {pool : BioPool Bio Tid} (reachable : ReachablePool lib pool) :
    (keeping lib).Good pool := by
  have start : (keeping lib).Good (emptyPool : BioPool Bio Tid) :=
    ⟨owned_empty, fun _ => ⟨rfl, rfl⟩⟩
  apply (keeping lib).good_of_reaches _ start reachable
  intro t program value world called owned idle
  cases called with
  | new => exact safe_bioNew _ world idle.1 rfl
  | free => exact safe_bioFree _ world idle.1 rfl

variable (lib) in
/-- The account of every state and every bridged BIO of a pool.  What a call of
`BIO_new` has made is what it returned, and a bridged BIO that was returned is live
until its last reference goes. -/
structure Accounted (pool : BioPool Bio Tid) : Prop where
  returned : ∀ t result, pool.thread t = .ret result →
    result = (pool.shared.made t).map Made.bio
  handed : ∀ t bio, pool.shared.made t = some (.bridged bio) →
    bio ∈ pool.shared.live ∨ bio ∈ pool.shared.gone
  freed : ∀ s, .allocated s ∈ pool.shared.log → pool.shared.states s = none →
    pool.shared.log.count (.freed s) = 1
  notFreed : ∀ s, pool.shared.states s ≠ none →
    .allocated s ∈ pool.shared.log ∧ .freed s ∉ pool.shared.log
  valid : ∀ s, .usedAfterFree s ∉ pool.shared.log
  destroyed : ∀ s method, .createReturned s method true ∈ pool.shared.log →
    method.destroy = true → pool.shared.states s = none →
      pool.shared.log.count (.destroyCalled s) = 1
  destroyedOnce : ∀ s, pool.shared.log.count (.destroyCalled s) ≤ 1
  rejected : ∀ s method, .createReturned s method false ∈ pool.shared.log →
    .destroyCalled s ∉ pool.shared.log
  carried : ∀ bio ∈ pool.shared.live, ∃ s value,
    pool.shared.dataOf lib bio = some s ∧ pool.shared.states s = some value
  idle : (∀ t, pool.Returned t) → pool.shared.live = [] → ∀ s, pool.shared.states s = none

/-- In every run of `BIO_new` and `BIO_free` on any number of threads, each state is
freed once and destroyed as its `create` was, and none outlives its BIO. -/
theorem states_accounted {pool : BioPool Bio Tid} (reachable : ReachablePool lib pool) :
    Accounted lib pool := by
  obtain ⟨owned, threads⟩ := good_of_reachable reachable
  have summary := owned.summary
  constructor
  · intro t result isRet
    have idle := threads t
    rw [isRet] at idle
    exact idle.2
  · exact owned.handed
  · intro s allocated gone
    rw [← count_history rfl]
    rw [← mem_history rfl] at allocated
    obtain ⟨-, nothing⟩ | ⟨used, -⟩ | ⟨-, lifetime⟩ := summary s
    · rw [nothing] at allocated
      contradiction
    · contradiction
    · exact lifetime.count_freed
  · intro s used
    obtain ⟨gone, -⟩ | ⟨-, unfinished⟩ | ⟨gone, -⟩ := summary s
    · contradiction
    · refine ⟨(mem_history rfl).mp unfinished.orderly.allocated, ?_⟩
      intro freed
      exact unfinished.not_freed ((mem_history rfl).mpr freed)
    · contradiction
  · intro s
    rw [← mem_history rfl]
    obtain ⟨-, nothing⟩ | ⟨-, unfinished⟩ | ⟨-, lifetime⟩ := summary s
    · simp [nothing]
    · exact unfinished.orderly.valid
    · exact lifetime.orderly.valid
  · intro s method created destroy gone
    rw [← count_history rfl]
    rw [← mem_history rfl] at created
    obtain ⟨-, nothing⟩ | ⟨used, -⟩ | ⟨-, lifetime⟩ := summary s
    · rw [nothing] at created
      contradiction
    · contradiction
    · exact lifetime.count_destroyCalled created destroy
  · intro s
    rw [← count_history rfl]
    obtain ⟨-, nothing⟩ | ⟨-, unfinished⟩ | ⟨-, lifetime⟩ := summary s
    · simp [nothing]
    · exact unfinished.orderly.destroyedOnce
    · exact lifetime.orderly.destroyedOnce
  · intro s method rejected
    rw [← mem_history rfl] at rejected ⊢
    obtain ⟨-, nothing⟩ | ⟨-, unfinished⟩ | ⟨-, lifetime⟩ := summary s
    · simp [nothing]
    · exact unfinished.orderly.rejected method rejected
    · exact lifetime.orderly.rejected method rejected
  · intro bio live
    obtain ⟨s, value, carries, -, entered, -⟩ := owned.carried bio live
    exact ⟨s, value, carries, entered⟩
  · intro returned noneLive s
    by_cases old : s < pool.shared.nextState
    · -- nobody holds the state: each thread is between calls
      have notHeld : ∀ t, pool.shared.heldState t ≠ some s := by
        intro t held
        obtain ⟨result, isRet⟩ := returned t
        have idle := threads t
        rw [isRet] at idle
        rw [heldState_none_of_view idle.1] at held
        contradiction
      have notCarried : ∀ bio ∈ pool.shared.live, pool.shared.dataOf lib bio ≠ some s := by
        rw [noneLive]
        exact List.forall_mem_nil _
      exact (owned.past s old notHeld notCarried).1
    · exact (owned.fresh s (Nat.le_of_not_lt old)).1

end Runs

/-! ## Two overlapping calls -/

def overlapEnv (newBio : Option PlainBio) : Env PlainBio :=
  ⟨true, true, newBio, none, false, [], 1⟩

/-- Thread `false` is inside `BIO_new` with a state. -/
def insidePool : BioPool PlainBio Bool :=
  ((emptyPool.enter false (bioNew (some agpsdMethod))).act (exec plainLib) false
    (overlapEnv none)).act (exec plainLib) false (overlapEnv none)

/-- Thread `true` has made a BIO meanwhile; then the first got none and gave its state up. -/
def overlapPool : BioPool PlainBio Bool :=
  ((insidePool.enter true (bioNew (some agpsdMethod))).finish (exec plainLib) true
    (overlapEnv (some ⟨0, 0, none⟩))).finish (exec plainLib) false (overlapEnv none)

theorem overlapPool_reachable : ReachablePool plainLib overlapPool := by
  have entered : ReachablePool plainLib (emptyPool.enter false (bioNew (some agpsdMethod))) :=
    reaches_enter _ _ _ _ ⟨none, rfl⟩ (BioCall.new _ _ _)
  have inside : ReachablePool plainLib insidePool :=
    (entered.trans (reaches_act _ _ _ _ _ fun _ _ _ => trivial)).trans
      (reaches_act _ _ _ _ _ fun _ _ _ => trivial)
  have both := inside.trans
    (reaches_enter _ true (bioNew (some agpsdMethod)) insidePool ⟨none, rfl⟩ (BioCall.new _ _ _))
  have always : ∀ (t : Bool) (op : BioOp) (world : World PlainBio Bool), True :=
    fun _ _ _ => trivial
  exact (both.trans (reaches_finish _ _ _ _ _ (runOk_of_forall always _ _ _ _))).trans
    (reaches_finish _ _ _ _ _ (runOk_of_forall always _ _ _ _))

theorem states_accounted_of_overlap :
    overlapPool.shared.live = [0] ∧ Accounted plainLib overlapPool :=
  ⟨by decide, states_accounted overlapPool_reachable⟩

end Mt6757.AgpsSsl
