import Mt6757.AgpsSsl.Bio
import Mt6757.Lib.RelyGuarantee
import Mathlib.Data.List.Nodup

/-!
# The lifetime of a state

Any number of threads make and free BIOs.  A state belongs to the call that
allocated it until `BIO_new` hands it to the native BIO, and to the call that
drops the last reference from then on.  The history of a state that no call
holds is empty, is that of a state a live BIO carries, or is a whole lifetime.
-/

set_option autoImplicit false

namespace Mt6757.AgpsSsl

open CommandTree

/-! ## Histories -/

/-- The state an observation is about. -/
def Observation.subject : Observation → Option Ptr
  | .allocated state => some state
  | .createReturned state _ _ => some state
  | .destroyCalled state => some state
  | .freed state => some state
  | .usedAfterFree state => some state
  | .callbackBegan _ _ _ => none

def history (state : Ptr) (log : List Observation) : List Observation :=
  log.filter fun observation => observation.subject = some state

def opening (state : Ptr) (method : BioMethod) : List Observation :=
  if method.create then [.createReturned state method true, .allocated state]
  else [.allocated state]

/-- The history of a state from `calloc` to `free`. -/
inductive Lifetime (state : Ptr) : List Observation → Prop where
  | rejected (method : BioMethod) :
      Lifetime state [.freed state, .createReturned state method false, .allocated state]
  | destroyed (method : BioMethod) (destroy : method.destroy = true) :
      Lifetime state (.freed state :: .destroyCalled state :: opening state method)
  | dropped (method : BioMethod) (destroy : method.destroy = false) :
      Lifetime state (.freed state :: opening state method)

/-- The history of a state before `free`. -/
inductive Unfinished (state : Ptr) : List Observation → Prop where
  | allocated : Unfinished state [.allocated state]
  | created (method : BioMethod) (success : Bool) :
      Unfinished state [.createReturned state method success, .allocated state]
  | opened (method : BioMethod) : Unfinished state (opening state method)
  | destroyed (method : BioMethod) :
      Unfinished state (.destroyCalled state :: opening state method)

section Histories

variable {state other : Ptr} {log : List Observation}

theorem history_append_self {new : List Observation}
    (about : ∀ observation ∈ new, observation.subject = some state) :
    history state (new ++ log) = new ++ history state log := by
  rw [history, List.filter_append, List.filter_eq_self.mpr, history]
  simpa using about

theorem history_append_other {new : List Observation}
    (about : ∀ observation ∈ new, observation.subject = some state) (different : state ≠ other) :
    history other (new ++ log) = history other log := by
  have none : new.filter (fun observation => observation.subject = some other) = [] := by
    rw [List.filter_eq_nil_iff]
    intro observation member
    simp [about observation member, different]
  rw [history, List.filter_append, none, List.nil_append, history]

theorem history_cons_self {observation : Observation} (about : observation.subject = some state) :
    history state (observation :: log) = observation :: history state log := by
  simp [history, about]

theorem history_cons_other {observation : Observation} (about : observation.subject = some state)
    (different : other ≠ state) : history other (observation :: log) = history other log := by
  simp [history, about, Ne.symm different]

theorem count_history {observation : Observation}
    (about : observation.subject = some state) :
    (history state log).count observation = log.count observation := by
  rw [history, List.count_filter]
  simpa using about

theorem mem_history {observation : Observation} (about : observation.subject = some state) :
    observation ∈ history state log ↔ observation ∈ log := by
  simp [history, about]

theorem mem_opening {observation : Observation} {method : BioMethod} :
    observation ∈ opening state method ↔
      observation = .allocated state ∨
        (method.create = true ∧ observation = .createReturned state method true) := by
  unfold opening
  split <;> simp_all [or_comm]

/-- What every history of an allocated state has in common. -/
structure Orderly (state : Ptr) (past : List Observation) : Prop where
  allocated : .allocated state ∈ past
  valid : .usedAfterFree state ∉ past
  destroyedOnce : past.count (.destroyCalled state) ≤ 1
  rejected : ∀ method, .createReturned state method false ∈ past → .destroyCalled state ∉ past

theorem Unfinished.orderly {past : List Observation} (unfinished : Unfinished state past) :
    Orderly state past := by
  cases unfinished with
  | allocated => constructor <;> simp
  | created method success => constructor <;> simp
  | opened method => constructor <;> simp [mem_opening, List.count_eq_zero_of_not_mem]
  | destroyed method => constructor <;> simp [mem_opening, List.count_eq_zero_of_not_mem]

theorem Unfinished.not_freed {past : List Observation} (unfinished : Unfinished state past) :
    .freed state ∉ past := by
  cases unfinished <;> simp [mem_opening]

theorem Lifetime.orderly {past : List Observation} (lifetime : Lifetime state past) :
    Orderly state past := by
  cases lifetime with
  | rejected method => constructor <;> simp
  | destroyed method destroy =>
      constructor <;> simp [mem_opening, List.count_eq_zero_of_not_mem]
  | dropped method destroy => constructor <;> simp [mem_opening, List.count_eq_zero_of_not_mem]

theorem Lifetime.count_freed {past : List Observation} (lifetime : Lifetime state past) :
    past.count (.freed state) = 1 := by
  cases lifetime <;> simp [mem_opening, List.count_eq_zero_of_not_mem]

/-- An accepted `create` has had its destroy callback by the time of `free`. -/
theorem Lifetime.count_destroyCalled {past : List Observation} {method : BioMethod}
    (lifetime : Lifetime state past) (created : .createReturned state method true ∈ past)
    (destroy : method.destroy = true) : past.count (.destroyCalled state) = 1 := by
  cases lifetime with
  | rejected other => simp at created
  | destroyed other _ => simp [mem_opening, List.count_eq_zero_of_not_mem]
  | dropped other absent =>
      obtain ⟨-, rfl⟩ : other.create = true ∧ method = other := by
        simpa [mem_opening] using created
      rw [destroy] at absent
      contradiction

end Histories

/-! ## Holders -/

section Holders

variable {Tid α : Type} [DecidableEq Tid] {holds : Tid → Option α} {t u : Tid} {item other : α}

theorem held_of_give (heldBy : Function.update holds t (some item) u = some other) :
    (u = t ∧ other = item) ∨ (u ≠ t ∧ holds u = some other) := by
  by_cases same : u = t
  · rw [same, Function.update_self, Option.some.injEq] at heldBy
    exact .inl ⟨same, heldBy.symm⟩
  · rw [Function.update_of_ne same] at heldBy
    exact .inr ⟨same, heldBy⟩

theorem held_of_drop (heldBy : Function.update holds t none u = some other) :
    u ≠ t ∧ holds u = some other := by
  by_cases same : u = t
  · rw [same, Function.update_self] at heldBy
    contradiction
  · rw [Function.update_of_ne same] at heldBy
    exact ⟨same, heldBy⟩

/-- What nobody else has afterwards, nobody else had. -/
theorem not_held_of_update {entry : Option α} (mine : holds t ≠ some item)
    (after : ∀ u, Function.update holds t entry u ≠ some item) : ∀ u, holds u ≠ some item := by
  intro u heldBefore
  by_cases same : u = t
  · exact mine (same ▸ heldBefore)
  · exact after u ((Function.update_of_ne same _ _).trans heldBefore)

/-- Nothing is held by two. -/
abbrev HeldOnce (holds : Tid → Option α) : Prop :=
  ∀ t u item, holds t = some item → holds u = some item → t = u

theorem HeldOnce.give (once : HeldOnce holds) (free : ∀ u, holds u ≠ some item) :
    HeldOnce (Function.update holds t (some item)) := by
  intro u u' other heldBy heldBy'
  obtain ⟨rfl, rfl⟩ | ⟨-, heldBefore⟩ := held_of_give heldBy
  · obtain ⟨rfl, -⟩ | ⟨-, heldBefore'⟩ := held_of_give heldBy'
    · rfl
    · exact absurd heldBefore' (free u')
  · obtain ⟨-, rfl⟩ | ⟨-, heldBefore'⟩ := held_of_give heldBy'
    · exact absurd heldBefore (free u)
    · exact once u u' other heldBefore heldBefore'

theorem HeldOnce.drop (once : HeldOnce holds) : HeldOnce (Function.update holds t none) := by
  intro u u' other heldBy heldBy'
  exact once u u' other (held_of_drop heldBy).2 (held_of_drop heldBy').2

end Holders

/-! ## Ownership -/

section Ownership

variable {Bio Tid : Type} (lib : BioLib Bio)

/-- What a thread has of the shared state to itself. -/
structure LocalView (Bio : Type) where
  state : Option (Ptr × Option BioState × List Observation)
  bio : Option (Ptr × Option Bio)

def World.view (world : World Bio Tid) (t : Tid) : LocalView Bio where
  state := (world.heldState t).map fun s => (s, world.states s, history s world.log)
  bio := (world.heldBio t).map fun b => (b, world.bios b)

def World.dataOf (world : World Bio Tid) (bio : Ptr) : Option Ptr :=
  (world.bios bio).bind lib.getData

/-- Each state belongs to one call, to one live BIO, or to the past. -/
structure Owned (world : World Bio Tid) : Prop where
  fresh : ∀ s, world.nextState ≤ s → world.states s = none ∧ history s world.log = []
  freshBio : ∀ b, world.nextBio ≤ b → b ∉ world.live ∧ ∀ t, world.heldBio t ≠ some b
  held : ∀ t s, world.heldState t = some s →
    s < world.nextState ∧ world.states s ≠ none ∧ Unfinished s (history s world.log)
  heldOnce : ∀ t u s, world.heldState t = some s → world.heldState u = some s → t = u
  heldBioOnce : ∀ t u b, world.heldBio t = some b → world.heldBio u = some b → t = u
  heldBioNotLive : ∀ t b, world.heldBio t = some b → b ∉ world.live
  nodup : world.live.Nodup
  carried : ∀ b ∈ world.live, ∃ s value, world.dataOf lib b = some s ∧ s < world.nextState ∧
    world.states s = some value ∧ history s world.log = opening s value.original
  carriedNotHeld : ∀ b ∈ world.live, ∀ t s, world.dataOf lib b = some s →
    world.heldState t ≠ some s
  carriedOnce : ∀ b ∈ world.live, ∀ b' ∈ world.live, ∀ s, world.dataOf lib b = some s →
    world.dataOf lib b' = some s → b = b'
  past : ∀ s, s < world.nextState → (∀ t, world.heldState t ≠ some s) →
    (∀ b ∈ world.live, world.dataOf lib b ≠ some s) →
    world.states s = none ∧ Lifetime s (history s world.log)
  handed : ∀ t b, world.made t = some (.bridged b) → b ∈ world.live ∨ b ∈ world.gone

/-- One operation of a thread: ownership is kept, the others see nothing, and
the thread has `view` afterwards. -/
structure Moves (t : Tid) (before after : World Bio Tid) (view : LocalView Bio) : Prop where
  owned : Owned lib after
  others : ∀ u, u ≠ t → after.view u = before.view u
  mine : after.view t = view

variable {lib} in
/-- The state is not allocated yet, is in use, or is freed. -/
theorem Owned.summary {world : World Bio Tid} (owned : Owned lib world) (s : Ptr) :
    (world.states s = none ∧ history s world.log = []) ∨
      (world.states s ≠ none ∧ Unfinished s (history s world.log)) ∨
      (world.states s = none ∧ Lifetime s (history s world.log)) := by
  by_cases old : s < world.nextState
  · by_cases held : ∃ t, world.heldState t = some s
    · obtain ⟨t, held⟩ := held
      exact .inr (.inl (owned.held t s held).2)
    · by_cases carried : ∃ b ∈ world.live, world.dataOf lib b = some s
      · obtain ⟨b, live, carries⟩ := carried
        obtain ⟨s', value, carries', -, entered, opened⟩ := owned.carried b live
        obtain rfl : s' = s := Option.some.inj (carries'.symm.trans carries)
        rw [entered, opened]
        exact .inr (.inl ⟨by simp, .opened value.original⟩)
      · push Not at held carried
        exact .inr (.inr (owned.past s old held carried))
  · exact .inl (owned.fresh s (Nat.le_of_not_lt old))

variable {lib} {t u : Tid} {before : World Bio Tid} {s b : Ptr} {value : BioState}
  {past : List Observation} {native : Bio} {viewBio : Option (Ptr × Option Bio)}
  {viewState : Option (Ptr × Option BioState × List Observation)}

theorem state_of_view (view : before.view t = ⟨viewState, viewBio⟩) :
    (before.heldState t).map (fun s => (s, before.states s, history s before.log)) = viewState :=
  congrArg LocalView.state view

theorem bio_of_view (view : before.view t = ⟨viewState, viewBio⟩) :
    (before.heldBio t).map (fun b => (b, before.bios b)) = viewBio :=
  congrArg LocalView.bio view

theorem heldState_of_view {entry : Option BioState}
    (view : before.view t = ⟨some (s, entry, past), viewBio⟩) :
    before.heldState t = some s ∧ before.states s = entry ∧ history s before.log = past := by
  have state := state_of_view view
  simp only [Option.map_eq_some_iff, Prod.mk.injEq] at state
  obtain ⟨held, isHeld, rfl, entered, recorded⟩ := state
  exact ⟨isHeld, entered, recorded⟩

theorem heldState_none_of_view (view : before.view t = ⟨none, viewBio⟩) :
    before.heldState t = none := by
  simpa using state_of_view view

theorem heldBio_of_view {entry : Option Bio}
    (view : before.view t = ⟨viewState, some (b, entry)⟩) :
    before.heldBio t = some b ∧ before.bios b = entry := by
  have bio := bio_of_view view
  simp only [Option.map_eq_some_iff, Prod.mk.injEq] at bio
  obtain ⟨held, isHeld, rfl, entered⟩ := bio
  exact ⟨isHeld, entered⟩

theorem view_congr {after : World Bio Tid} (heldState : after.heldState u = before.heldState u)
    (heldBio : after.heldBio u = before.heldBio u)
    (states : ∀ s, before.heldState u = some s →
      after.states s = before.states s ∧ history s after.log = history s before.log)
    (bios : ∀ b, before.heldBio u = some b → after.bios b = before.bios b) :
    after.view u = before.view u := by
  unfold World.view
  rw [heldState, heldBio]
  congr 1
  · cases holds : before.heldState u with
    | none => rfl
    | some s => simp [states s holds]
  · cases holds : before.heldBio u with
    | none => rfl
    | some b => simp [bios b holds]

theorem Moves.trans {between after : World Bio Tid} {view view' : LocalView Bio}
    (first : Moves lib t before between view) (second : Moves lib t between after view') :
    Moves lib t before after view' where
  owned := second.owned
  others u another := (second.others u another).trans (first.others u another)
  mine := second.mine

theorem dataOf_update_other {b' : Ptr} {entry : Option Bio} (different : b' ≠ b) :
    World.dataOf lib { before with bios := Function.update before.bios b entry } b' =
      before.dataOf lib b' := by
  simp [World.dataOf, different]

theorem Moves.refl {view : LocalView Bio} (owned : Owned lib before) (here : before.view t = view) :
    Moves lib t before before view :=
  ⟨owned, fun _ _ => rfl, here⟩

theorem Owned.carried_elsewhere (owned : Owned lib before)
    (notCarried : ∀ b ∈ before.live, before.dataOf lib b ≠ some s)
    {states : Ptr → Option BioState} {log : List Observation} {bound : Nat}
    (elsewhere : ∀ s', s' ≠ s →
      states s' = before.states s' ∧ history s' log = history s' before.log)
    (grows : before.nextState ≤ bound) : ∀ b ∈ before.live, ∃ s' value',
      before.dataOf lib b = some s' ∧ s' < bound ∧ states s' = some value' ∧
        history s' log = opening s' value'.original := by
  intro b live
  obtain ⟨s', value', carries, old, entered, opened⟩ := owned.carried b live
  have different : s' ≠ s := by
    intro same
    exact notCarried b live (same ▸ carries)
  refine ⟨s', value', carries, Nat.lt_of_lt_of_le old grows, ?_, ?_⟩
  · rw [(elsewhere s' different).1, entered]
  · rw [(elsewhere s' different).2, opened]

theorem Owned.of_bios (owned : Owned lib before) {bios : Ptr → Option Bio}
    (same : ∀ b ∈ before.live, World.dataOf lib { before with bios := bios } b =
      before.dataOf lib b) : Owned lib { before with bios := bios } where
  fresh := owned.fresh
  freshBio := owned.freshBio
  held := owned.held
  heldOnce := owned.heldOnce
  heldBioOnce := owned.heldBioOnce
  heldBioNotLive := owned.heldBioNotLive
  nodup := owned.nodup
  carried b live := by
    rw [same b live]
    exact owned.carried b live
  carriedNotHeld b live u s carries :=
    owned.carriedNotHeld b live u s ((same b live).symm.trans carries)
  carriedOnce b live b' live' s carries carries' :=
    owned.carriedOnce b live b' live' s ((same b live).symm.trans carries)
      ((same b' live').symm.trans carries')
  past s old notHeld notLive := by
    apply owned.past s old notHeld
    intro b live carries
    exact notLive b live ((same b live).trans carries)
  handed := owned.handed

theorem Moves.touchState (owned : Owned lib before)
    (view : before.view t = ⟨some (s, some value, past), viewBio⟩) (value' : BioState)
    (new : List Observation) (about : ∀ observation ∈ new, observation.subject = some s)
    (unfinished : Unfinished s (new ++ past)) :
    Moves lib t before
      { before with
        states := Function.update before.states s (some value')
        log := new ++ before.log }
      ⟨some (s, some value', new ++ past), viewBio⟩ := by
  obtain ⟨held, entry, recorded⟩ := heldState_of_view view
  have elsewhere : ∀ s', s' ≠ s → Function.update before.states s (some value') s' =
      before.states s' ∧ history s' (new ++ before.log) = history s' before.log := by
    intro s' different
    exact ⟨Function.update_of_ne different _ _, history_append_other about (Ne.symm different)⟩
  have notCarried : ∀ b ∈ before.live, before.dataOf lib b ≠ some s := by
    intro b live carries
    exact owned.carriedNotHeld b live t s carries held
  refine ⟨{ owned with
    fresh := ?_
    held := ?_
    carried := ?_
    past := ?_ }, ?_, ?_⟩
  · intro s' unused
    have different : s' ≠ s := by
      exact Nat.ne_of_gt (Nat.lt_of_lt_of_le (owned.held t s held).1 unused)
    dsimp only
    rw [(elsewhere s' different).1, (elsewhere s' different).2]
    exact owned.fresh s' unused
  · intro u s' heldBy
    obtain ⟨old, _, unfinished'⟩ := owned.held u s' heldBy
    by_cases same : s' = s
    · subst same
      dsimp only
      rw [history_append_self about, recorded]
      exact ⟨old, by simp, unfinished⟩
    · dsimp only
      rw [(elsewhere s' same).1, (elsewhere s' same).2]
      exact owned.held u s' heldBy
  · exact owned.carried_elsewhere notCarried elsewhere (Nat.le_refl _)
  · intro s' old notHeld notLive
    have different : s' ≠ s := by
      intro same
      exact notHeld t (same ▸ held)
    dsimp only
    rw [(elsewhere s' different).1, (elsewhere s' different).2]
    exact owned.past s' old notHeld notLive
  · intro u another
    refine view_congr rfl rfl ?_ fun _ _ => rfl
    intro s' heldBy
    apply elsewhere
    intro same
    exact another (owned.heldOnce u t s (same ▸ heldBy) held)
  · simp [World.view, held, history_append_self about, recorded, bio_of_view view]

theorem Moves.touchBio {entry : Option Bio} (owned : Owned lib before)
    (view : before.view t = ⟨viewState, some (b, entry)⟩) (entry' : Option Bio) :
    Moves lib t before { before with bios := Function.update before.bios b entry' }
      ⟨viewState, some (b, entry')⟩ := by
  obtain ⟨held, -⟩ := heldBio_of_view view
  have liveData : ∀ b' ∈ before.live,
      World.dataOf lib { before with bios := Function.update before.bios b entry' } b' =
        before.dataOf lib b' := by
    intro b' live
    apply dataOf_update_other
    intro same
    exact owned.heldBioNotLive t b held (same ▸ live)
  refine ⟨owned.of_bios liveData, ?_, ?_⟩
  · intro u another
    refine view_congr rfl rfl (fun _ _ => ⟨rfl, rfl⟩) ?_
    intro b' heldBy
    apply Function.update_of_ne
    intro same
    exact another (owned.heldBioOnce u t b (same ▸ heldBy) held)
  · simp [World.view, held, state_of_view view]

variable [DecidableEq Tid]

theorem Moves.allocate (owned : Owned lib before) (view : before.view t = ⟨none, viewBio⟩)
    (fresh : BioState) :
    Moves lib t before
      { before with
        states := Function.update before.states before.nextState (some fresh)
        nextState := before.nextState + 1
        heldState := Function.update before.heldState t (some before.nextState)
        log := .allocated before.nextState :: before.log }
      ⟨some (before.nextState, some fresh, [.allocated before.nextState]), viewBio⟩ := by
  have free := heldState_none_of_view view
  have elsewhere : ∀ s', s' ≠ before.nextState →
      Function.update before.states before.nextState (some fresh) s' = before.states s' ∧
        history s' (.allocated before.nextState :: before.log) = history s' before.log := by
    intro s' different
    exact ⟨Function.update_of_ne different _ _, history_cons_other rfl different⟩
  have recorded : history before.nextState (.allocated before.nextState :: before.log) =
      [.allocated before.nextState] := by
    rw [history_cons_self rfl, (owned.fresh _ (Nat.le_refl _)).2]
  have unheld : ∀ u, before.heldState u ≠ some before.nextState := by
    intro u heldBy
    exact Nat.lt_irrefl _ (owned.held u _ heldBy).1
  have notCarried : ∀ b ∈ before.live, before.dataOf lib b ≠ some before.nextState := by
    intro b live carries
    obtain ⟨s', -, carries', old, -⟩ := owned.carried b live
    exact Nat.ne_of_lt old (Option.some.inj (carries'.symm.trans carries))
  refine ⟨{ owned with
    fresh := ?_
    held := ?_
    heldOnce := HeldOnce.give owned.heldOnce unheld
    carried := owned.carried_elsewhere notCarried elsewhere (Nat.le_succ _)
    carriedNotHeld := ?_
    past := ?_ }, ?_, ?_⟩
  · intro s' unused
    have different : s' ≠ before.nextState := Nat.ne_of_gt unused
    dsimp only
    rw [(elsewhere s' different).1, (elsewhere s' different).2]
    exact owned.fresh s' (Nat.le_of_succ_le unused)
  · intro u s' heldBy
    obtain ⟨-, rfl⟩ | ⟨-, heldBefore⟩ := held_of_give heldBy
    · dsimp only
      rw [recorded]
      exact ⟨Nat.lt_succ_self _, by simp, .allocated⟩
    · obtain ⟨old, entered, unfinished⟩ := owned.held u s' heldBefore
      have different : s' ≠ before.nextState := Nat.ne_of_lt old
      dsimp only
      rw [(elsewhere s' different).1, (elsewhere s' different).2]
      exact ⟨Nat.lt_succ_of_lt old, entered, unfinished⟩
  · intro b live u s' carries heldBy
    obtain ⟨-, rfl⟩ | ⟨-, heldBefore⟩ := held_of_give heldBy
    · exact notCarried b live carries
    · exact owned.carriedNotHeld b live u s' carries heldBefore
  · intro s' old notHeld notLive
    have different : s' ≠ before.nextState := by
      intro same
      exact notHeld t (same ▸ Function.update_self _ _ _)
    have notHeldBefore := not_held_of_update (by simp [free]) notHeld
    dsimp only
    rw [(elsewhere s' different).1, (elsewhere s' different).2]
    exact owned.past s' (Nat.lt_of_le_of_ne (Nat.le_of_lt_succ old) different) notHeldBefore
      notLive
  · intro u another
    refine view_congr (Function.update_of_ne another _ _) rfl ?_ fun _ _ => rfl
    intro s' heldBy
    exact elsewhere s' (Nat.ne_of_lt (owned.held u s' heldBy).1)
  · simp [World.view, recorded, bio_of_view view]

theorem Moves.free {entry : Option BioState} (owned : Owned lib before)
    (view : before.view t = ⟨some (s, entry, past), viewBio⟩)
    (lifetime : Lifetime s (.freed s :: past)) :
    Moves lib t before
      { before with
        states := Function.update before.states s none
        heldState := Function.update before.heldState t none
        log := .freed s :: before.log }
      ⟨none, viewBio⟩ := by
  obtain ⟨held, -, recorded⟩ := heldState_of_view view
  have elsewhere : ∀ s', s' ≠ s → Function.update before.states s none s' = before.states s' ∧
      history s' (.freed s :: before.log) = history s' before.log := by
    intro s' different
    exact ⟨Function.update_of_ne different _ _, history_cons_other rfl different⟩
  have notCarried : ∀ b ∈ before.live, before.dataOf lib b ≠ some s := by
    intro b live carries
    exact owned.carriedNotHeld b live t s carries held
  refine ⟨{ owned with
    fresh := ?_
    held := ?_
    heldOnce := HeldOnce.drop owned.heldOnce
    carried := owned.carried_elsewhere notCarried elsewhere (Nat.le_refl _)
    carriedNotHeld := ?_
    past := ?_ }, ?_, ?_⟩
  · intro s' unused
    have different : s' ≠ s :=
      Nat.ne_of_gt (Nat.lt_of_lt_of_le (owned.held t s held).1 unused)
    dsimp only
    rw [(elsewhere s' different).1, (elsewhere s' different).2]
    exact owned.fresh s' unused
  · intro u s' heldBy
    obtain ⟨another, heldBefore⟩ := held_of_drop heldBy
    have different : s' ≠ s := by
      intro same
      exact another (owned.heldOnce u t s (same ▸ heldBefore) held)
    dsimp only
    rw [(elsewhere s' different).1, (elsewhere s' different).2]
    exact owned.held u s' heldBefore
  · intro b live u s' carries heldBy
    exact owned.carriedNotHeld b live u s' carries (held_of_drop heldBy).2
  · intro s' old notHeld notLive
    by_cases same : s' = s
    · subst same
      dsimp only
      rw [history_cons_self rfl, recorded]
      exact ⟨Function.update_self _ _ _, lifetime⟩
    · have notHeldBefore := not_held_of_update (by simp [held, Ne.symm same]) notHeld
      dsimp only
      rw [(elsewhere s' same).1, (elsewhere s' same).2]
      exact owned.past s' old notHeldBefore notLive
  · intro u another
    refine view_congr (Function.update_of_ne another _ _) rfl ?_ fun _ _ => rfl
    intro s' heldBy
    apply elsewhere
    intro same
    exact another (owned.heldOnce u t s (same ▸ heldBy) held)
  · simp [World.view, bio_of_view view]

/-- The BIO that a thread has just got from BoringSSL. -/
theorem Moves.takeBio (owned : Owned lib before) (view : before.view t = ⟨viewState, none⟩)
    (fresh : Bio) :
    Moves lib t before
      { before with
        bios := Function.update before.bios before.nextBio (some fresh)
        nextBio := before.nextBio + 1
        heldBio := Function.update before.heldBio t (some before.nextBio) }
      ⟨viewState, some (before.nextBio, some fresh)⟩ := by
  have unusedBio := owned.freshBio before.nextBio (Nat.le_refl _)
  have liveData : ∀ b ∈ before.live,
      World.dataOf lib { before with
        bios := Function.update before.bios before.nextBio (some fresh) } b =
        before.dataOf lib b := by
    intro b live
    apply dataOf_update_other
    intro same
    exact unusedBio.1 (same ▸ live)
  refine ⟨{ owned.of_bios liveData with
    freshBio := ?_
    heldBioOnce := HeldOnce.give owned.heldBioOnce unusedBio.2
    heldBioNotLive := ?_ }, ?_, ?_⟩
  · intro b unused
    obtain ⟨notLive, notHeld⟩ := owned.freshBio b (Nat.le_of_succ_le unused)
    refine ⟨notLive, ?_⟩
    intro u heldBy
    obtain ⟨-, same⟩ | ⟨-, heldBefore⟩ := held_of_give heldBy
    · exact Nat.ne_of_gt unused same
    · exact notHeld u heldBefore
  · intro u b heldBy
    obtain ⟨-, rfl⟩ | ⟨-, heldBefore⟩ := held_of_give heldBy
    · exact unusedBio.1
    · exact owned.heldBioNotLive u b heldBefore
  · intro u another
    refine view_congr rfl (Function.update_of_ne another _ _) (fun _ _ => ⟨rfl, rfl⟩) ?_
    intro b heldBy
    apply Function.update_of_ne
    intro same
    exact unusedBio.2 u (same ▸ heldBy)
  · simp [World.view, state_of_view view]

theorem Moves.releaseBio (owned : Owned lib before)
    (view : before.view t = ⟨viewState, viewBio⟩) :
    Moves lib t before { before with heldBio := Function.update before.heldBio t none }
      ⟨viewState, none⟩ := by
  refine ⟨{ owned with
    freshBio := ?_
    heldBioOnce := HeldOnce.drop owned.heldBioOnce
    heldBioNotLive := ?_ }, ?_, ?_⟩
  · intro b unused
    obtain ⟨notLive, notHeld⟩ := owned.freshBio b unused
    exact ⟨notLive, fun u heldBy => notHeld u (held_of_drop heldBy).2⟩
  · intro u b heldBy
    exact owned.heldBioNotLive u b (held_of_drop heldBy).2
  · intro u another
    exact view_congr rfl (Function.update_of_ne another _ _) (fun _ _ => ⟨rfl, rfl⟩)
      fun _ _ => rfl
  · simp [World.view, state_of_view view]

/-- `BIO_new` hands the state to the BIO it returns. -/
theorem Moves.publish (owned : Owned lib before)
    (view : before.view t =
      ⟨some (s, some value, opening s value.original), some (b, some native)⟩)
    (carries : lib.getData native = some s) :
    Moves lib t before
      { before with
        live := b :: before.live
        made := Function.update before.made t (some (.bridged b))
        heldState := Function.update before.heldState t none
        heldBio := Function.update before.heldBio t none }
      ⟨none, none⟩ := by
  obtain ⟨held, entered, recorded⟩ := heldState_of_view view
  obtain ⟨heldBio, entry⟩ := heldBio_of_view view
  have data : before.dataOf lib b = some s := by rw [World.dataOf, entry]; exact carries
  have onlyHere : ∀ b' ∈ before.live, before.dataOf lib b' ≠ some s := by
    intro b' live carries'
    exact owned.carriedNotHeld b' live t s carries' held
  refine ⟨{ owned with
    freshBio := ?_
    held := ?_
    heldOnce := HeldOnce.drop owned.heldOnce
    heldBioOnce := HeldOnce.drop owned.heldBioOnce
    heldBioNotLive := ?_
    nodup := List.nodup_cons.mpr ⟨owned.heldBioNotLive t b heldBio, owned.nodup⟩
    carried := ?_
    carriedNotHeld := ?_
    carriedOnce := ?_
    past := ?_
    handed := ?_ }, ?_, ?_⟩
  · intro b' unused
    obtain ⟨notLive, notHeld⟩ := owned.freshBio b' unused
    refine ⟨?_, fun u heldBy => notHeld u (held_of_drop heldBy).2⟩
    intro member
    obtain rfl | live := List.mem_cons.mp member
    · exact notHeld t heldBio
    · exact notLive live
  · intro u s' heldBy
    exact owned.held u s' (held_of_drop heldBy).2
  · intro u b' heldBy member
    obtain ⟨another, heldBefore⟩ := held_of_drop heldBy
    obtain rfl | live := List.mem_cons.mp member
    · exact another (owned.heldBioOnce u t b' heldBefore heldBio)
    · exact owned.heldBioNotLive u b' heldBefore live
  · intro b' member
    obtain rfl | live := List.mem_cons.mp member
    · exact ⟨s, value, data, (owned.held t s held).1, entered, recorded⟩
    · exact owned.carried b' live
  · intro b' member u s' carries' heldBy
    obtain ⟨another, heldBefore⟩ := held_of_drop heldBy
    obtain rfl | live := List.mem_cons.mp member
    · obtain rfl : s = s' := Option.some.inj (data.symm.trans carries')
      exact another (owned.heldOnce u t s heldBefore held)
    · exact owned.carriedNotHeld b' live u s' carries' heldBefore
  · intro b' member b'' member' s' carries' carries''
    obtain rfl | live := List.mem_cons.mp member
    · obtain rfl | live' := List.mem_cons.mp member'
      · rfl
      · obtain rfl : s = s' := Option.some.inj (data.symm.trans carries')
        exact absurd carries'' (onlyHere b'' live')
    · obtain rfl | live' := List.mem_cons.mp member'
      · obtain rfl : s = s' := Option.some.inj (data.symm.trans carries'')
        exact absurd carries' (onlyHere b' live)
      · exact owned.carriedOnce b' live b'' live' s' carries' carries''
  · intro s' old notHeld notLive
    have notMine : before.heldState t ≠ some s' := by
      intro heldBefore
      obtain rfl : s = s' := Option.some.inj (held.symm.trans heldBefore)
      exact notLive b List.mem_cons_self data
    apply owned.past s' old (not_held_of_update notMine notHeld)
    intro b' live
    exact notLive b' (List.mem_cons_of_mem _ live)
  · intro u b' isMade
    obtain ⟨-, same⟩ | ⟨-, madeBefore⟩ := held_of_give isMade
    · obtain rfl := Made.bridged.inj same
      exact .inl List.mem_cons_self
    · exact (owned.handed u b' madeBefore).imp_left (List.mem_cons_of_mem _)
  · intro u another
    exact view_congr (Function.update_of_ne another _ _) (Function.update_of_ne another _ _)
      (fun _ _ => ⟨rfl, rfl⟩) fun _ _ => rfl
  · simp [World.view]

/-- The last reference to a live BIO goes. -/
theorem Moves.withdraw (owned : Owned lib before) (view : before.view t = ⟨none, none⟩)
    (live : b ∈ before.live) :
    ∃ native s value, lib.getData native = some s ∧
      Moves lib t before
        { before with
          live := before.live.erase b
          gone := b :: before.gone
          made := Function.update before.made t none
          heldState := Function.update before.heldState t (before.dataOf lib b)
          heldBio := Function.update before.heldBio t (some b) }
        ⟨some (s, some value, opening s value.original), some (b, some native)⟩ := by
  have noState := heldState_none_of_view view
  obtain ⟨s, value, data, old, entered, opened⟩ := owned.carried b live
  obtain ⟨native, entry, carries⟩ := Option.bind_eq_some_iff.mp data
  rw [data]
  have stillLive : ∀ b', b' ∈ before.live.erase b ↔ b' ≠ b ∧ b' ∈ before.live :=
    fun b' => owned.nodup.mem_erase_iff
  refine ⟨native, s, value, carries, { owned with
    freshBio := ?_
    held := ?_
    heldOnce := HeldOnce.give owned.heldOnce fun u => owned.carriedNotHeld b live u s data
    heldBioOnce := HeldOnce.give owned.heldBioOnce fun u heldBy =>
      owned.heldBioNotLive u b heldBy live
    heldBioNotLive := ?_
    nodup := owned.nodup.erase b
    carried := ?_
    carriedNotHeld := ?_
    carriedOnce := ?_
    past := ?_
    handed := ?_ }, ?_, ?_⟩
  · intro b' unused
    obtain ⟨notLive, notHeld⟩ := owned.freshBio b' unused
    refine ⟨fun member => notLive ((stillLive b').mp member).2, ?_⟩
    intro u heldBy
    obtain ⟨-, rfl⟩ | ⟨-, heldBefore⟩ := held_of_give heldBy
    · exact notLive live
    · exact notHeld u heldBefore
  · intro u s' heldBy
    obtain ⟨-, rfl⟩ | ⟨-, heldBefore⟩ := held_of_give heldBy
    · dsimp only
      rw [entered, opened]
      exact ⟨old, by simp, .opened value.original⟩
    · exact owned.held u s' heldBefore
  · intro u b' heldBy member
    obtain ⟨different, live'⟩ := (stillLive b').mp member
    obtain ⟨-, same⟩ | ⟨-, heldBefore⟩ := held_of_give heldBy
    · exact different same
    · exact owned.heldBioNotLive u b' heldBefore live'
  · intro b' member
    exact owned.carried b' ((stillLive b').mp member).2
  · intro b' member u s' carries' heldBy
    obtain ⟨different, live'⟩ := (stillLive b').mp member
    obtain ⟨-, rfl⟩ | ⟨-, heldBefore⟩ := held_of_give heldBy
    · exact different (owned.carriedOnce b' live' b live _ carries' data)
    · exact owned.carriedNotHeld b' live' u s' carries' heldBefore
  · intro b' member b'' member' s' carries' carries''
    exact owned.carriedOnce b' ((stillLive b').mp member).2 b'' ((stillLive b'').mp member').2
      s' carries' carries''
  · intro s' old' notHeld notLive
    have notMine : s' ≠ s := by
      intro same
      exact notHeld t (same ▸ Function.update_self _ _ _)
    apply owned.past s' old' (not_held_of_update (by simp [noState]) notHeld)
    intro b' live' carries'
    by_cases same : b' = b
    · rw [same, data, Option.some.injEq] at carries'
      exact notMine carries'.symm
    · exact notLive b' ((stillLive b').mpr ⟨same, live'⟩) carries'
  · intro u b' isMade
    obtain live' | gone := owned.handed u b' (held_of_drop isMade).2
    · by_cases same : b' = b
      · exact .inr (same ▸ List.mem_cons_self)
      · exact .inl ((stillLive b').mpr ⟨same, live'⟩)
    · exact .inr (List.mem_cons_of_mem _ gone)
  · intro u another
    exact view_congr (Function.update_of_ne another _ _) (Function.update_of_ne another _ _)
      (fun _ _ => ⟨rfl, rfl⟩) fun _ _ => rfl
  · simp [World.view, entered, opened, entry]

theorem Moves.make {view : LocalView Bio} (owned : Owned lib before) (here : before.view t = view)
    {made : Option Made} (plain : ∀ b, made ≠ some (.bridged b)) :
    Moves lib t before { before with made := Function.update before.made t made } view := by
  refine ⟨{ owned with handed := ?_ }, fun _ _ => rfl, here⟩
  intro u b isMade
  by_cases same : u = t
  · subst same
    dsimp only at isMade
    rw [Function.update_self] at isMade
    exact absurd isMade (plain b)
  · exact owned.handed u b ((Function.update_of_ne same _ _).symm.trans isMade)

end Ownership

end Mt6757.AgpsSsl
