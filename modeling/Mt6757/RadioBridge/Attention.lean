import Mathlib.Data.Fintype.Basic
import Mt6757.RadioBridge.Service

/-!
# Who reconnects

Between `onCreate` and `onDestroy` somebody always attends to the connection, as long
as no radio is left without a link by an answer that `connect` does not look at.  A link
to a radio stands for the post its recipient will make, so a message can be removed only
by a thread that posts another.
-/

set_option autoImplicit false

namespace Mt6757.RadioBridge

open Machine

section Attention

variable {Tid : Type} {alive : Radio → Bool} {service service' : Service Tid}

def Service.active (service : Service Tid) : Bool := service.created && !service.retiring

/-- A `connect` is queued, or a binder thread has still to post one. -/
def Posted (service : Service Tid) : Prop :=
  0 < service.queued ∨ ∃ t, service.binder t = .postDelayed

/-- The radio of the last `connect` is alive and has the callback, or its notification
is undelivered, or `connect` is queued or runs, or a thread is between
`removeCallbacks` and `postDelayed`. -/
def Attended (service : Service Tid) : Prop :=
  (∃ radio, service.mRadio = some radio ∧ service.alive radio ∧ service.installed radio) ∨
    (∃ radio, service.mRadio = some radio ∧ service.alive radio = false ∧
      0 < service.undelivered radio) ∨
    0 < service.queued ∨ service.main.inConnect ∨ ∃ t, service.binder t = .postDelayed

instance [Fintype Tid] (service : Service Tid) : Decidable (Posted service) :=
  inferInstanceAs (Decidable (_ ∨ _))

/-- A `linkToDeath` that does not throw returns true, unless an earlier link to this radio
stands or another `connect` is to come. -/
def LinksHold (service : Service Tid) : Act Tid → Prop
  | .linkToDeath threw linked =>
      ∀ radio, service.main = .linkToDeath radio → service.throws radio threw = false →
        service.active → linked = true ∨ 0 < service.undelivered radio ∨ Posted service
  | _ => True

instance [Fintype Tid] (service : Service Tid) : DecidablePred (LinksHold service)
  | .linkToDeath threw linked =>
      match here : service.main with
      | .linkToDeath radio =>
          decidable_of_iff (service.throws radio threw = false → service.active →
              linked = true ∨ 0 < service.undelivered radio ∨ Posted service)
            ⟨fun holds _ same => MainPc.linkToDeath.inj (here.symm.trans same) ▸ holds,
              fun holds => holds radio here⟩
      | .idle | .connect | .getService | .setResponseFunctionsMtk _ | .setRadio _ | .caught
      | .removeCallbacks | .postDelayed | .destroying =>
          .isTrue fun _ same => absurd (here.symm.trans same) nofun
  | .onCreate | .onStartCommand | .run | .connect | .getService _
  | .setResponseFunctionsMtk _ _ | .setRadio | .caught | .removeCallbacks | .postDelayed
  | .onDestroy | .destroyed | .radioDies _ | .serviceDied _ _ | .incomingCallIndication _ _ _
  | .setCallIndication _ _ | .binderRemoveCallbacks _ | .binderPostDelayed _ => .isTrue trivial

def MainPc.linked : MainPc → Option Radio
  | .setResponseFunctionsMtk radio => some radio
  | .setRadio radio => some radio
  | _ => none

structure Attentive (service : Service Tid) : Prop where
  callback : ∀ radio, service.mRadio = some radio → service.installed radio
  disconnected : service.active → service.mRadio = none →
    Posted service ∨ service.main.inConnect
  connected : ∀ radio, service.active → service.mRadio = some radio →
    0 < service.undelivered radio ∨ Posted service ∨ service.main.inConnect
  linked : ∀ radio, service.active → service.main.linked = some radio →
    0 < service.undelivered radio ∨ Posted service
  installed : ∀ radio, service.main = .setRadio radio → service.installed radio

theorem Attentive.attended (attentive : Attentive service) (active : service.active) :
    Attended service := by
  cases isRadio : service.mRadio with
  | none =>
      obtain (queued | between) | busy := attentive.disconnected active isRadio
      · exact .inr (.inr (.inl queued))
      · exact .inr (.inr (.inr (.inr between)))
      · exact .inr (.inr (.inr (.inl busy)))
  | some radio =>
      have installed := attentive.callback radio isRadio
      obtain undelivered | (queued | between) | busy :=
        attentive.connected radio active isRadio
      · cases isAlive : service.alive radio with
        | false => exact .inr (.inl ⟨radio, isRadio, isAlive, undelivered⟩)
        | true => exact .inl ⟨radio, isRadio, isAlive, installed⟩
      · exact .inr (.inr (.inl queued))
      · exact .inr (.inr (.inr (.inr between)))
      · exact .inr (.inr (.inr (.inl busy)))

theorem active_of_connecting {pc : MainPc} (here : service.main = pc) (connecting : pc.inConnect)
    (active : service'.active) (created : service'.created = service.created)
    (destroyed : service'.destroyed = service.destroyed) : service.active := by
  have another : service.main ≠ .destroying := by
    rintro same
    rw [here] at same
    rw [same] at connecting
    contradiction
  simp only [Service.active, Service.retiring, created, destroyed, Bool.and_eq_true,
    Bool.not_eq_true', Bool.or_eq_false_iff] at active
  simp [Service.active, Service.retiring, another, active.1, active.2.1]

theorem attentive_initial : Attentive (.initial alive : Service Tid) := by
  constructor <;> simp [Service.initial, Service.active, MainPc.linked]

theorem Attentive.of_posted (attentive : Attentive service) (posted : Posted service')
    (radio : service'.mRadio = service.mRadio)
    (installed : service'.installed = service.installed)
    (main : service'.main = service.main ∨ service'.main = .idle) : Attentive service' := by
  refine ⟨?_, fun _ _ => .inl posted, fun _ _ _ => .inr (.inl posted), fun _ _ _ => .inr posted,
    ?_⟩
  · rw [radio, installed]
    exact attentive.callback
  · intro r here
    rw [installed]
    obtain same | idle := main
    · exact attentive.installed r (same ▸ here)
    · rw [idle] at here
      contradiction

theorem Attentive.quiet (attentive : Attentive service) (queued : service'.queued = service.queued)
    (binder : ∀ t, service.binder t = .postDelayed → service'.binder t = .postDelayed)
    (radio : service'.mRadio = service.mRadio) (active : service'.active = service.active)
    (undelivered : service'.undelivered = service.undelivered)
    (installed : service'.installed = service.installed) (main : service'.main = service.main) :
    Attentive service' := by
  have posted : Posted service → Posted service' := by
    intro posted
    obtain waiting | ⟨t, between⟩ := posted
    · exact .inl (queued ▸ waiting)
    · exact .inr ⟨t, binder t between⟩
  refine ⟨?_, ?_, ?_, ?_, ?_⟩
  · rw [radio, installed]
    exact attentive.callback
  · rw [active, radio, main]
    intro isActive isRadio
    exact (attentive.disconnected isActive isRadio).imp_left posted
  · rw [active, radio, main, undelivered]
    intro r isActive isRadio
    exact (attentive.connected r isActive isRadio).imp_right (Or.imp_left posted)
  · rw [active, main, undelivered]
    intro r isActive isLinked
    exact (attentive.linked r isActive isLinked).imp_right posted
  · rw [main, installed]
    exact attentive.installed

theorem Attentive.connecting (attentive : Attentive service)
    (radio : service'.mRadio = service.mRadio ∨ service'.mRadio = none)
    (busy : service'.main.inConnect)
    (kept : ∀ r, service.installed r → service'.installed r)
    (linked : ∀ r, service'.active → service'.main.linked = some r →
      0 < service'.undelivered r ∨ Posted service')
    (installed : ∀ r, service'.main = .setRadio r → service'.installed r) :
    Attentive service' := by
  refine ⟨?_, fun _ _ => .inr busy, fun _ _ _ => .inr (.inr busy), linked, installed⟩
  intro r isRadio
  obtain same | none := radio
  · rw [same] at isRadio
    exact kept r (attentive.callback r isRadio)
  · rw [none] at isRadio
    contradiction

theorem Attentive.unlinked (attentive : Attentive service)
    (radio : service'.mRadio = service.mRadio ∨ service'.mRadio = none)
    (busy : service'.main.inConnect) (unlinked : service'.main.linked = none)
    (kept : ∀ r, service.installed r → service'.installed r) : Attentive service' := by
  apply attentive.connecting radio busy kept
  · intro r _ isLinked
    rw [unlinked] at isLinked
    contradiction
  · intro r here
    rw [here] at unlinked
    contradiction

theorem installed_update {radio : Radio} {value : Bool}
    (has : service.installed radio → value) (r : Radio) (isInstalled : service.installed r) :
    Function.update service.installed radio value r := by
  by_cases same : r = radio
  · subst same
    simpa using has isInstalled
  · rwa [Function.update_of_ne same]

variable [DecidableEq Tid]

theorem Attentive.elsewhere {serial : Int32} {t : Tid} {pc : BinderPc}
    (attentive : Attentive service) (here : service.binder t ≠ .postDelayed) :
    Attentive ({ service with mSerial := serial }.atBinder t pc) := by
  refine attentive.quiet rfl ?_ rfl rfl rfl rfl rfl
  intro u between
  have another : u ≠ t := by
    intro same
    rw [same] at between
    exact here between
  exact (Function.update_of_ne another _ _).trans between

theorem Attentive.step {act : Act Tid} (attentive : Attentive service)
    (holds : LinksHold service act) (stepped : RadioBridge.step service act = some service') :
    Attentive service' := by
  cases transition_of_step stepped with
  | onCreate => exact attentive.of_posted (.inl (Nat.succ_pos _)) rfl rfl (.inl rfl)
  | onStartCommand => exact attentive.of_posted (.inl (Nat.succ_pos _)) rfl rfl (.inl rfl)
  | stillConnected => exact attentive
  | run => exact attentive.unlinked (.inl rfl) rfl rfl fun _ has => has
  | connect => exact attentive.unlinked (.inl rfl) rfl rfl fun _ has => has
  | noService => exact attentive.unlinked (.inl rfl) rfl rfl fun _ has => has
  | getService => exact attentive.unlinked (.inl rfl) rfl rfl fun _ has => has
  | linkThrows => exact attentive.unlinked (.inl rfl) rfl rfl fun _ has => has
  | linkToDeath here returns =>
      refine attentive.connecting (.inl rfl) rfl (fun _ has => has) ?_ ?_
      · intro r isActive isLinked
        obtain rfl := Option.some.inj isLinked
        have wasActive := active_of_connecting here rfl isActive rfl rfl
        obtain linked | stands | posted := holds _ here returns wasActive
        · exact .inl (by simp [Service.link, linked])
        · exact .inl (by simpa [Service.link] using Nat.add_pos_left stands _)
        · exact .inr posted
      · intro r here
        contradiction
  | notAnswered =>
      exact attentive.unlinked (.inl rfl) rfl rfl (installed_update fun has => by simp [has])
  | setResponseFunctionsMtk here =>
      refine attentive.connecting (.inl rfl) rfl (installed_update fun _ => rfl) ?_ ?_
      · intro r isActive isLinked
        obtain rfl := Option.some.inj isLinked
        have wasActive := active_of_connecting here rfl isActive rfl rfl
        exact attentive.linked _ wasActive (by rw [here]; rfl)
      · intro r isHere
        obtain rfl := MainPc.setRadio.inj isHere
        simp
  | setRadio here =>
      refine ⟨?_, ?_, ?_, by simp [MainPc.linked], by simp⟩
      · intro r isRadio
        obtain rfl := Option.some.inj isRadio
        exact attentive.installed _ here
      · intro _ isNone
        contradiction
      · intro r isActive isRadio
        obtain rfl := Option.some.inj isRadio
        have wasActive := active_of_connecting here rfl isActive rfl rfl
        have attends := attentive.linked _ wasActive (by rw [here]; rfl)
        exact attends.imp_right .inl
  | caught => exact attentive.unlinked (.inr rfl) rfl rfl fun _ has => has
  | removeCallbacks => exact attentive.unlinked (.inl rfl) rfl rfl fun _ has => has
  | postDelayed => exact attentive.of_posted (.inl (Nat.succ_pos _)) rfl rfl (.inr rfl)
  | onDestroy =>
      constructor <;> simp [Service.active, Service.retiring, MainPc.linked]
      exact attentive.callback
  | destroyed => constructor <;> simp [Service.active, Service.retiring, MainPc.linked]
  | radioDies => exact attentive.quiet rfl (fun _ between => between) rfl rfl rfl rfl rfl
  | serviceDied =>
      exact attentive.of_posted (.inr ⟨_, Function.update_self _ _ _⟩) rfl rfl (.inl rfl)
  | dropped => exact attentive
  | incomingCallIndication idle => exact attentive.elsewhere (by simp [idle])
  | notAcknowledged here => exact attentive.elsewhere (by simp [here])
  | setCallIndication here => exact attentive.elsewhere (by simp [here])
  | binderRemoveCallbacks =>
      exact attentive.of_posted (.inr ⟨_, Function.update_self _ _ _⟩) rfl rfl (.inl rfl)
  | binderPostDelayed => exact attentive.of_posted (.inl (Nat.succ_pos _)) rfl rfl (.inl rfl)

/-- In every run whose links hold where they are needed, somebody attends to the
connection in every state between `onCreate` and `onDestroy`. -/
theorem attended_while_active
    (reaches : ReachesWhen RadioBridge.step LinksHold (.initial alive) service)
    (active : service.active) : Attended service := by
  have attentive : Attentive service :=
    reaches.invariant (fun _ _ _ kept holds stepped => kept.step holds stepped)
      attentive_initial
  exact attentive.attended active

/-- The condition leaves out nothing harmless: a step that breaks it can be followed by
steps after which nobody attends. -/
theorem unattended_of_unlinked {act : Act Tid} (unlinked : ¬ LinksHold service act)
    (stepped : RadioBridge.step service act = some service') :
    ∃ final, Reaches RadioBridge.step service' final ∧ final.active ∧ ¬ Attended final := by
  cases act with
  | linkToDeath threw linked =>
      simp only [LinksHold, not_forall, not_or] at unlinked
      obtain ⟨radio, here, returns, active, refused, unlinked, unposted⟩ := unlinked
      obtain ⟨-, isAlive⟩ : threw = false ∧ service.alive radio = true := by
        simpa [Service.throws] using returns
      obtain ⟨queued, between⟩ := not_or.mp unposted
      obtain rfl : linked = false := by simpa using refused
      simp only [RadioBridge.step, here, returns] at stepped
      obtain rfl := Option.some.inj stepped
      -- the callback is installed, the radio stored, and then it dies
      refine ⟨_, reachesWhen_of_runWhen _ _
        [.setResponseFunctionsMtk true false, .setRadio, .radioDies radio]
        (by simp [runWhen, RadioBridge.step, Service.throws, Service.link, isAlive]; rfl), ?_, ?_⟩
      · simpa [Service.active, Service.retiring, here] using active
      · have silent : service.undelivered radio = 0 := by omega
        have empty : service.queued = 0 := by omega
        have noPost : ∀ t, service.binder t ≠ .postDelayed := fun t post => between ⟨t, post⟩
        simp [Attended, silent, empty, noPost, MainPc.inConnect]
  | _ => exact absurd trivial unlinked

end Attention

/-- One radio refuses the link by an exception.  The next one holds it, fails afterwards,
answers false when it is asked again, and dies: its first link still stands. -/
theorem attended_after_death : ∃ service : Service Unit, service.active ∧ Attended service := by
  obtain ⟨service, reaches, active⟩ := exists_reachesWhen_of_run step LinksHold
    [.onCreate, .run, .connect, .getService (some 1), .linkToDeath true false, .caught,
      .removeCallbacks, .postDelayed, .run, .connect, .getService (some 0),
      .linkToDeath false true, .setResponseFunctionsMtk true true, .caught, .removeCallbacks,
      .postDelayed, .run, .connect, .getService (some 0), .linkToDeath false false,
      .setResponseFunctionsMtk true false, .setRadio, .radioDies 0, .serviceDied () 0]
    (.initial fun _ => true) Service.active (by decide)
  exact ⟨service, active, attended_while_active reaches active⟩

/-- A link that fails by its answer is taken for one that holds; when that radio dies,
nobody is told. -/
theorem unattended_after_failed_link :
    ¬ ∀ service : Service Unit, Reaches step (.initial fun _ => true) service →
      service.active → Attended service := by
  intro attended
  obtain ⟨service, reaches, goal⟩ := exists_reaches_of_run step
    [.onCreate, .run, .connect, .getService (some 0), .linkToDeath false false,
      .setResponseFunctionsMtk true false, .setRadio, .radioDies 0]
    (.initial fun _ => true)
    (fun service => service.active && service.mRadio = some 0 && !service.alive 0 &&
      service.undelivered 0 = 0 && service.queued = 0 && !service.main.inConnect &&
      service.binder () = .idle) (by decide)
  simp only [Bool.and_eq_true, decide_eq_true_eq, Bool.not_eq_true'] at goal
  obtain ⟨⟨⟨⟨⟨⟨active, radio⟩, dead⟩, untold⟩, empty⟩, notConnecting⟩, idle⟩ := goal
  obtain ⟨r, isRadio, isAlive, -⟩ | ⟨r, isRadio, -, undelivered⟩ | queued | busy | ⟨t, between⟩ :=
    attended service reaches active
  · obtain rfl : 0 = r := Option.some.inj (radio.symm.trans isRadio)
    rw [dead] at isAlive
    contradiction
  · obtain rfl : 0 = r := Option.some.inj (radio.symm.trans isRadio)
    omega
  · omega
  · rw [notConnecting] at busy
    contradiction
  · rw [idle] at between
    contradiction

end Mt6757.RadioBridge
