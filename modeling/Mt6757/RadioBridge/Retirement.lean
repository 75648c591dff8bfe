import Mt6757.RadioBridge.Service

/-!
# After `onDestroy`

`onDestroy` removes what is queued, and nothing is unlinked.  No `connect` runs
after it unless a binder thread posts one that it had still to post.
-/

set_option autoImplicit false

namespace Mt6757.RadioBridge

open Machine

section Retirement

variable {Tid : Type} [DecidableEq Tid] {alive : Radio → Bool} {service service' : Service Tid}

/-- After `onDestroy`, no `connect` has run and there is no radio. -/
def Retired (service : Service Tid) : Prop :=
  service.destroyed → service.connectsAfterDestroy = 0 ∧ service.mRadio = none

/-- A step that is no `postDelayed` of a binder thread after the `removeCallbacks` of
`onDestroy`. -/
def NoLatePost (service : Service Tid) : Act Tid → Prop
  | .binderPostDelayed _ => service.retiring = false
  | _ => True

instance (service : Service Tid) : DecidablePred (NoLatePost service)
  | .binderPostDelayed _ => inferInstanceAs (Decidable (_ = _))
  | .onCreate | .onStartCommand | .run | .connect | .getService _ | .linkToDeath _ _
  | .setResponseFunctionsMtk _ _ | .setRadio | .caught | .removeCallbacks | .postDelayed
  | .onDestroy | .destroyed | .radioDies _ | .serviceDied _ _ | .incomingCallIndication _ _ _
  | .setCallIndication _ _ | .binderRemoveCallbacks _ => isTrue trivial

structure Retiring (service : Service Tid) : Prop where
  created : service.retiring = true → service.created = true
  fresh : service.destroyed = false → service.connectsAfterDestroy = 0
  emptied : service.retiring = true → service.queued = 0
  stopped : service.destroyed = true → service.main = .idle ∧ service.mRadio = none ∧
    service.connectsAfterDestroy = 0

omit [DecidableEq Tid] in
theorem retiring_initial : Retiring (.initial alive : Service Tid) := by
  constructor <;> simp [Service.initial, Service.retiring]

omit [DecidableEq Tid] in
theorem Retiring.quiet (retiring : Retiring service) (main : service'.main = service.main)
    (radio : service'.mRadio = service.mRadio) (created : service'.created = service.created)
    (destroyed : service'.destroyed = service.destroyed)
    (connects : service'.connectsAfterDestroy = service.connectsAfterDestroy)
    (queued : service'.queued = service.queued ∨ service'.queued = 0) : Retiring service' := by
  have same : service'.retiring = service.retiring := by
    rw [Service.retiring, Service.retiring, main, destroyed]
  refine ⟨?_, ?_, ?_, ?_⟩
  · rw [same, created]
    exact retiring.created
  · rw [destroyed, connects]
    exact retiring.fresh
  · intro retires
    rw [same] at retires
    obtain kept | none := queued
    · rw [kept, retiring.emptied retires]
    · exact none
  · rw [destroyed, main, radio, connects]
    exact retiring.stopped

omit [DecidableEq Tid] in
theorem Retiring.connecting (retiring : Retiring service) (busy : service.main.inConnect = true)
    (destroyed : service'.destroyed = service.destroyed)
    (connects : service'.connectsAfterDestroy = service.connectsAfterDestroy)
    (main : service'.main ≠ .destroying) : Retiring service' := by
  have alive : service.destroyed = false := by
    cases isDestroyed : service.destroyed with
    | false => rfl
    | true =>
        rw [(retiring.stopped isDestroyed).1] at busy
        contradiction
  have stays : service'.retiring = false := by
    simp [Service.retiring, destroyed, alive, main]
  refine ⟨?_, ?_, ?_, ?_⟩
  · rw [stays]
    exact fun absurd => (Bool.false_ne_true absurd).elim
  · rw [destroyed, connects]
    exact retiring.fresh
  · rw [stays]
    exact fun absurd => (Bool.false_ne_true absurd).elim
  · rw [destroyed, alive]
    exact fun absurd => (Bool.false_ne_true absurd).elim

theorem Retiring.step {act : Act Tid} (retiring : Retiring service)
    (ok : NoLatePost service act) (stepped : RadioBridge.step service act = some service') :
    Retiring service' := by
  cases transition_of_step stepped with
  | onCreate idle new =>
      have stays : service.retiring = false := by
        cases retires : service.retiring with
        | false => rfl
        | true => exact absurd (retiring.created retires) (by simp [new])
      have alive : service.destroyed = false := by
        simpa [Service.retiring, idle] using stays
      refine ⟨fun _ => rfl, retiring.fresh, ?_, retiring.stopped⟩
      simp [Service.retiring, Service.post, idle, alive]
  | onStartCommand idle _ alive =>
      refine ⟨retiring.created, retiring.fresh, ?_, retiring.stopped⟩
      simp [Service.retiring, Service.post, idle, alive]
  | stillConnected => exact retiring
  | run idle queued =>
      have alive : service.destroyed = false := by
        cases isDestroyed : service.destroyed with
        | false => rfl
        | true =>
            have none := retiring.emptied (by simp [Service.retiring, isDestroyed])
            omega
      constructor <;> simp [Service.retiring, alive, retiring.fresh alive]
  | onDestroy _ created alive =>
      constructor <;> simp [Service.removeCallbacks, created, alive, retiring.fresh alive]
  | destroyed destroying =>
      have retires : service.retiring = true := by simp [Service.retiring, destroying]
      have alive : service.destroyed = false := by
        cases isDestroyed : service.destroyed with
        | false => rfl
        | true => simp [(retiring.stopped isDestroyed).1] at destroying
      constructor <;> simp [retiring.created retires, retiring.emptied retires,
        retiring.fresh alive]
  | connect here => exact retiring.connecting (by rw [here]; rfl) rfl rfl (by simp)
  | noService here => exact retiring.connecting (by rw [here]; rfl) rfl rfl (by simp)
  | getService here => exact retiring.connecting (by rw [here]; rfl) rfl rfl (by simp)
  | linkThrows here => exact retiring.connecting (by rw [here]; rfl) rfl rfl (by simp)
  | linkToDeath here => exact retiring.connecting (by rw [here]; rfl) rfl rfl (by simp)
  | notAnswered here => exact retiring.connecting (by rw [here]; rfl) rfl rfl (by simp)
  | setResponseFunctionsMtk here =>
      exact retiring.connecting (by rw [here]; rfl) rfl rfl (by simp)
  | setRadio here => exact retiring.connecting (by rw [here]; rfl) rfl rfl (by simp)
  | caught here => exact retiring.connecting (by rw [here]; rfl) rfl rfl (by simp)
  | removeCallbacks here => exact retiring.connecting (by rw [here]; rfl) rfl rfl (by simp)
  | postDelayed here => exact retiring.connecting (by rw [here]; rfl) rfl rfl (by simp)
  | radioDies => exact retiring.quiet rfl rfl rfl rfl rfl (.inl rfl)
  | serviceDied => exact retiring.quiet rfl rfl rfl rfl rfl (.inr rfl)
  | dropped => exact retiring
  | incomingCallIndication => exact retiring.quiet rfl rfl rfl rfl rfl (.inl rfl)
  | notAcknowledged => exact retiring.quiet rfl rfl rfl rfl rfl (.inl rfl)
  | setCallIndication => exact retiring.quiet rfl rfl rfl rfl rfl (.inl rfl)
  | binderRemoveCallbacks => exact retiring.quiet rfl rfl rfl rfl rfl (.inr rfl)
  | binderPostDelayed =>
      have stays : service.retiring = false := ok
      refine ⟨retiring.created, retiring.fresh, ?_, retiring.stopped⟩
      intro retires
      exact (Bool.false_ne_true (stays.symm.trans retires)).elim

/-- Once `onDestroy` has run, `connect` does not run again and there is no radio, in
every run in which no binder thread posts a reconnect after the `removeCallbacks` of
`onDestroy`. -/
theorem retired_without_late_post
    (reaches : ReachesWhen RadioBridge.step NoLatePost (.initial alive) service) :
    Retired service := by
  have retiring : Retiring service :=
    reaches.invariant (fun _ _ _ kept ok stepped => kept.step ok stepped) retiring_initial
  intro destroyed
  obtain ⟨-, radio, connects⟩ := retiring.stopped destroyed
  exact ⟨connects, radio⟩

theorem not_retired_of_queued (idle : service.main = .idle) (queued : 0 < service.queued)
    (destroyed : service.destroyed = true) :
    ∃ service', RadioBridge.step service .run = some service' ∧ ¬ Retired service' := by
  refine ⟨_, if_pos ⟨idle, queued⟩, ?_⟩
  intro retired
  have none := (retired destroyed).1
  simp [destroyed] at none

end Retirement

/-! ## A late post -/

def connectedThenDead : List (Act Unit) :=
  [.onCreate, .run, .connect, .getService (some 0), .linkToDeath false true,
    .setResponseFunctionsMtk true false, .setRadio, .radioDies 0]

theorem retired_after_death : ∃ service : Service Unit, service.destroyed ∧ Retired service := by
  obtain ⟨service, reaches, destroyed⟩ := exists_reachesWhen_of_run step NoLatePost
    (connectedThenDead ++ [.serviceDied () 0, .binderPostDelayed (), .onDestroy, .destroyed])
    (.initial fun _ => true) Service.destroyed (by decide)
  exact ⟨service, destroyed, retired_without_late_post reaches⟩

/-- `onDestroy` runs between the two calls of the recipient; the service connects
again to another radio. -/
theorem late_post_reconnects :
    ∃ service, Reaches step (.initial fun _ => true : Service Unit) service ∧
      service.mRadio = some 1 ∧ ¬ Retired service := by
  obtain ⟨service, reaches, goal⟩ := exists_reaches_of_run step
    (connectedThenDead ++ [.serviceDied () 0, .onDestroy, .destroyed, .binderPostDelayed (),
      .run, .connect, .getService (some 1), .linkToDeath false true,
      .setResponseFunctionsMtk true false, .setRadio])
    (.initial fun _ => true)
    (fun service => service.destroyed && service.mRadio = some 1) (by decide)
  obtain ⟨destroyed, radio⟩ : service.destroyed = true ∧ service.mRadio = some 1 := by
    simpa using goal
  refine ⟨service, reaches, radio, ?_⟩
  intro retired
  have none := (retired destroyed).2
  rw [radio] at none
  contradiction

end Mt6757.RadioBridge
