import Mathlib.Logic.Function.Basic
import Mt6757.Lib.Machine

/-!
# The radio bridge service

The main thread runs the service's callbacks and `connect`; binder threads deliver
death notifications and incoming-call indications.  The only thing they share
without a lock is the handler's queue, in which the only message is `mConnect`.
A message may run at any time after it is posted, whatever its delay.
-/

set_option autoImplicit false

namespace Mt6757.RadioBridge

/-- One life of the radio process; after a restart it is another one. -/
abbrev Radio := Nat

inductive MainPc where
  | idle
  | connect
  | getService
  | linkToDeath (radio : Radio)
  | setResponseFunctionsMtk (radio : Radio)
  | setRadio (radio : Radio)
  | caught
  | removeCallbacks
  | postDelayed
  | destroying
  deriving DecidableEq, Repr

def MainPc.inConnect : MainPc → Bool
  | .idle => false
  | .destroying => false
  | _ => true

/-- Where a binder thread is.  `postDelayed` is between `removeCallbacks` and
`postDelayed`. -/
inductive BinderPc where
  | idle
  | setCallIndication (radio : Radio) (serial mode callId seqNo : Int32)
  | removeCallbacks
  | postDelayed
  deriving DecidableEq, Repr

structure IncomingCallNotification where
  callId : Option Int32
  seqNo : Option Int32
  deriving DecidableEq, Repr

/-- `undelivered` counts the links to a radio whose notification no recipient has
begun to act on.  The last three members are history. -/
structure Service (Tid : Type) where
  mSerial : Int32
  mRadio : Option Radio
  queued : Nat
  main : MainPc
  binder : Tid → BinderPc
  alive : Radio → Bool
  undelivered : Radio → Nat
  installed : Radio → Bool
  created : Bool
  destroyed : Bool
  connectsAfterDestroy : Nat

def Service.initial {Tid : Type} (alive : Radio → Bool) : Service Tid where
  mSerial := 0x48490000
  mRadio := none
  queued := 0
  main := .idle
  binder := fun _ => .idle
  alive := alive
  undelivered := fun _ => 0
  installed := fun _ => false
  created := false
  destroyed := false
  connectsAfterDestroy := 0

/-- The steps, with what a remote call answers: `linked` is the value that `linkToDeath`
returns, and `took` says that the radio has the callback although the call may throw. -/
inductive Act (Tid : Type) where
  | onCreate
  | onStartCommand
  | run
  | connect
  | getService (radio : Option Radio)
  | linkToDeath (threw linked : Bool)
  | setResponseFunctionsMtk (took threw : Bool)
  | setRadio
  | caught
  | removeCallbacks
  | postDelayed
  | onDestroy
  | destroyed
  | radioDies (radio : Radio)
  | serviceDied (t : Tid) (radio : Radio)
  | incomingCallIndication (t : Tid) (radio : Radio)
      (notification : Option IncomingCallNotification)
  | setCallIndication (t : Tid) (threw : Bool)
  | binderRemoveCallbacks (t : Tid)
  | binderPostDelayed (t : Tid)
  deriving DecidableEq

section Steps

variable {Tid : Type} [DecidableEq Tid]

namespace Service

def atBinder (service : Service Tid) (t : Tid) (pc : BinderPc) : Service Tid :=
  { service with binder := Function.update service.binder t pc }

def removeCallbacks (service : Service Tid) : Service Tid := { service with queued := 0 }

def post (service : Service Tid) : Service Tid := { service with queued := service.queued + 1 }

def throws (service : Service Tid) (radio : Radio) (threw : Bool) : Bool :=
  threw || !service.alive radio

def link (service : Service Tid) (radio : Radio) (linked : Bool) : Service Tid :=
  { service with
    undelivered := Function.update service.undelivered radio
      (service.undelivered radio + linked.toNat) }

def incomingCallIndication (service : Service Tid) (t : Tid) (radio : Radio)
    (notification : Option IncomingCallNotification) : Service Tid :=
  match notification with
  | none => service
  | some notification =>
      match notification.callId, notification.seqNo with
      | some callId, some seqNo =>
          let serial := service.mSerial + 1
          { service with mSerial := serial }.atBinder t
            (.setCallIndication radio serial 0 callId seqNo)
      | _, _ => service

end Service

def step (service : Service Tid) : Act Tid → Option (Service Tid)
  | .onCreate =>
      if service.main = .idle ∧ service.created = false then
        some { service with created := true }.post
      else none
  | .onStartCommand =>
      if service.main = .idle ∧ service.created ∧ service.destroyed = false then
        some (if service.mRadio = none then service.post else service)
      else none
  -- the looper takes a message
  | .run =>
      if service.main = .idle ∧ 0 < service.queued then
        some { service with
          queued := service.queued - 1
          main := .connect
          connectsAfterDestroy :=
            service.connectsAfterDestroy + if service.destroyed then 1 else 0 }
      else none
  | .connect =>
      if service.main = .connect then
        some { service.removeCallbacks with main := .getService }
      else none
  -- none: it threw, or the radio is null
  | .getService radio =>
      if service.main = .getService then
        some { service with main := radio.elim .caught .linkToDeath }
      else none
  -- the value returned is not looked at
  | .linkToDeath threw linked =>
      match service.main with
      | .linkToDeath radio =>
          some (if service.throws radio threw then { service with main := .caught }
            else { service.link radio linked with main := .setResponseFunctionsMtk radio })
      | _ => none
  | .setResponseFunctionsMtk took threw =>
      match service.main with
      | .setResponseFunctionsMtk radio =>
          some (if service.throws radio threw then
              { service with
                installed := Function.update service.installed radio
                  (service.installed radio || (took && service.alive radio))
                main := .caught }
            else
              { service with
                installed := Function.update service.installed radio true
                main := .setRadio radio })
      | _ => none
  | .setRadio =>
      match service.main with
      | .setRadio radio => some { service with mRadio := some radio, main := .idle }
      | _ => none
  | .caught =>
      if service.main = .caught then
        some { service with mRadio := none, main := .removeCallbacks }
      else none
  | .removeCallbacks =>
      if service.main = .removeCallbacks then
        some { service.removeCallbacks with main := .postDelayed }
      else none
  | .postDelayed =>
      if service.main = .postDelayed then some { service.post with main := .idle } else none
  | .onDestroy =>
      if service.main = .idle ∧ service.created ∧ service.destroyed = false then
        some { service.removeCallbacks with main := .destroying }
      else none
  | .destroyed =>
      if service.main = .destroying then
        some { service with mRadio := none, main := .idle, destroyed := true }
      else none
  | .radioDies radio =>
      some { service with alive := Function.update service.alive radio false }
  -- the recipient begins with the `removeCallbacks` of `scheduleReconnect`
  | .serviceDied t radio =>
      if service.binder t = .idle ∧ service.alive radio = false ∧
          0 < service.undelivered radio then
        some ({ service.removeCallbacks with
          undelivered := Function.update service.undelivered radio
            (service.undelivered radio - 1) }.atBinder t .postDelayed)
      else none
  | .incomingCallIndication t radio notification =>
      if service.binder t = .idle ∧ service.installed radio then
        some (service.incomingCallIndication t radio notification)
      else none
  | .setCallIndication t threw =>
      match service.binder t with
      | .setCallIndication radio _ _ _ _ =>
          some (service.atBinder t
            (if service.throws radio threw then .removeCallbacks else .idle))
      | _ => none
  | .binderRemoveCallbacks t =>
      if service.binder t = .removeCallbacks then
        some (service.removeCallbacks.atBinder t .postDelayed)
      else none
  | .binderPostDelayed t =>
      if service.binder t = .postDelayed then some (service.post.atBinder t .idle) else none

def Service.retiring (service : Service Tid) : Bool :=
  service.destroyed || service.main = .destroying

/-! ## The steps as rules -/

/-- What each step needs and where it leads, with a rule for each way it can go. -/
inductive Transition (service : Service Tid) : Act Tid → Service Tid → Prop where
  | onCreate (idle : service.main = .idle) (new : service.created = false) :
      Transition service .onCreate { service with created := true }.post
  | onStartCommand (idle : service.main = .idle) (created : service.created = true)
      (alive : service.destroyed = false) (disconnected : service.mRadio = none) :
      Transition service .onStartCommand service.post
  | stillConnected (idle : service.main = .idle) (created : service.created = true)
      (alive : service.destroyed = false) (connected : service.mRadio ≠ none) :
      Transition service .onStartCommand service
  | run (idle : service.main = .idle) (queued : 0 < service.queued) :
      Transition service .run
        { service with
          queued := service.queued - 1
          main := .connect
          connectsAfterDestroy :=
            service.connectsAfterDestroy + if service.destroyed then 1 else 0 }
  | connect (here : service.main = .connect) :
      Transition service .connect { service.removeCallbacks with main := .getService }
  | noService (here : service.main = .getService) :
      Transition service (.getService none) { service with main := .caught }
  | getService {radio : Radio} (here : service.main = .getService) :
      Transition service (.getService (some radio)) { service with main := .linkToDeath radio }
  | linkThrows {threw linked : Bool} {radio : Radio} (here : service.main = .linkToDeath radio)
      (throws : service.throws radio threw = true) :
      Transition service (.linkToDeath threw linked) { service with main := .caught }
  | linkToDeath {threw linked : Bool} {radio : Radio} (here : service.main = .linkToDeath radio)
      (returns : service.throws radio threw = false) :
      Transition service (.linkToDeath threw linked)
        { service.link radio linked with main := .setResponseFunctionsMtk radio }
  | notAnswered {took threw : Bool} {radio : Radio}
      (here : service.main = .setResponseFunctionsMtk radio)
      (throws : service.throws radio threw = true) :
      Transition service (.setResponseFunctionsMtk took threw)
        { service with
          installed := Function.update service.installed radio
            (service.installed radio || (took && service.alive radio))
          main := .caught }
  | setResponseFunctionsMtk {took threw : Bool} {radio : Radio}
      (here : service.main = .setResponseFunctionsMtk radio)
      (returns : service.throws radio threw = false) :
      Transition service (.setResponseFunctionsMtk took threw)
        { service with
          installed := Function.update service.installed radio true
          main := .setRadio radio }
  | setRadio {radio : Radio} (here : service.main = .setRadio radio) :
      Transition service .setRadio { service with mRadio := some radio, main := .idle }
  | caught (here : service.main = .caught) :
      Transition service .caught { service with mRadio := none, main := .removeCallbacks }
  | removeCallbacks (here : service.main = .removeCallbacks) :
      Transition service .removeCallbacks { service.removeCallbacks with main := .postDelayed }
  | postDelayed (here : service.main = .postDelayed) :
      Transition service .postDelayed { service.post with main := .idle }
  | onDestroy (idle : service.main = .idle) (created : service.created = true)
      (alive : service.destroyed = false) :
      Transition service .onDestroy { service.removeCallbacks with main := .destroying }
  | destroyed (here : service.main = .destroying) :
      Transition service .destroyed
        { service with mRadio := none, main := .idle, destroyed := true }
  | radioDies {radio : Radio} :
      Transition service (.radioDies radio)
        { service with alive := Function.update service.alive radio false }
  | serviceDied {t : Tid} {radio : Radio} (idle : service.binder t = .idle)
      (dead : service.alive radio = false) (linked : 0 < service.undelivered radio) :
      Transition service (.serviceDied t radio)
        ({ service.removeCallbacks with
          undelivered := Function.update service.undelivered radio
            (service.undelivered radio - 1) }.atBinder t .postDelayed)
  | dropped {t : Tid} {radio : Radio} {notification : Option IncomingCallNotification}
      (idle : service.binder t = .idle) (installed : service.installed radio = true)
      (unread : ∀ callId seqNo, notification ≠ some ⟨some callId, some seqNo⟩) :
      Transition service (.incomingCallIndication t radio notification) service
  | incomingCallIndication {t : Tid} {radio : Radio} {callId seqNo : Int32}
      (idle : service.binder t = .idle) (installed : service.installed radio = true) :
      Transition service (.incomingCallIndication t radio (some ⟨some callId, some seqNo⟩))
        ({ service with mSerial := service.mSerial + 1 }.atBinder t
          (.setCallIndication radio (service.mSerial + 1) 0 callId seqNo))
  | notAcknowledged {t : Tid} {threw : Bool} {radio : Radio} {serial mode callId seqNo : Int32}
      (here : service.binder t = .setCallIndication radio serial mode callId seqNo)
      (throws : service.throws radio threw = true) :
      Transition service (.setCallIndication t threw) (service.atBinder t .removeCallbacks)
  | setCallIndication {t : Tid} {threw : Bool} {radio : Radio}
      {serial mode callId seqNo : Int32}
      (here : service.binder t = .setCallIndication radio serial mode callId seqNo)
      (returns : service.throws radio threw = false) :
      Transition service (.setCallIndication t threw) (service.atBinder t .idle)
  | binderRemoveCallbacks {t : Tid} (here : service.binder t = .removeCallbacks) :
      Transition service (.binderRemoveCallbacks t)
        (service.removeCallbacks.atBinder t .postDelayed)
  | binderPostDelayed {t : Tid} (here : service.binder t = .postDelayed) :
      Transition service (.binderPostDelayed t) (service.post.atBinder t .idle)

theorem transition_of_step {service service' : Service Tid} {act : Act Tid}
    (stepped : step service act = some service') : Transition service act service' := by
  cases act with
  | onCreate =>
      simp only [step, Option.ite_none_right_eq_some, Option.some.injEq] at stepped
      obtain ⟨⟨idle, new⟩, rfl⟩ := stepped
      exact .onCreate idle new
  | onStartCommand =>
      simp only [step, Option.ite_none_right_eq_some, Option.some.injEq] at stepped
      obtain ⟨⟨idle, created, alive⟩, rfl⟩ := stepped
      split
      · exact .onStartCommand idle created alive ‹_›
      · exact .stillConnected idle created alive ‹_›
  | run =>
      simp only [step, Option.ite_none_right_eq_some, Option.some.injEq] at stepped
      obtain ⟨⟨idle, queued⟩, rfl⟩ := stepped
      exact .run idle queued
  | connect =>
      simp only [step, Option.ite_none_right_eq_some, Option.some.injEq] at stepped
      obtain ⟨here, rfl⟩ := stepped
      exact .connect here
  | getService radio =>
      simp only [step, Option.ite_none_right_eq_some, Option.some.injEq] at stepped
      obtain ⟨here, rfl⟩ := stepped
      cases radio with
      | none => exact .noService here
      | some radio => exact .getService here
  | linkToDeath threw linked =>
      simp only [step] at stepped
      split at stepped
      · rename_i radio here
        obtain rfl := Option.some.inj stepped
        cases throws : service.throws radio threw with
        | true => exact .linkThrows here throws
        | false => exact .linkToDeath here throws
      · contradiction
  | setResponseFunctionsMtk took threw =>
      simp only [step] at stepped
      split at stepped
      · rename_i radio here
        obtain rfl := Option.some.inj stepped
        cases throws : service.throws radio threw with
        | true => exact .notAnswered here throws
        | false => exact .setResponseFunctionsMtk here throws
      · contradiction
  | setRadio =>
      simp only [step] at stepped
      split at stepped
      · rename_i radio here
        obtain rfl := Option.some.inj stepped
        exact .setRadio here
      · contradiction
  | caught =>
      simp only [step, Option.ite_none_right_eq_some, Option.some.injEq] at stepped
      obtain ⟨here, rfl⟩ := stepped
      exact .caught here
  | removeCallbacks =>
      simp only [step, Option.ite_none_right_eq_some, Option.some.injEq] at stepped
      obtain ⟨here, rfl⟩ := stepped
      exact .removeCallbacks here
  | postDelayed =>
      simp only [step, Option.ite_none_right_eq_some, Option.some.injEq] at stepped
      obtain ⟨here, rfl⟩ := stepped
      exact .postDelayed here
  | onDestroy =>
      simp only [step, Option.ite_none_right_eq_some, Option.some.injEq] at stepped
      obtain ⟨⟨idle, created, alive⟩, rfl⟩ := stepped
      exact .onDestroy idle created alive
  | destroyed =>
      simp only [step, Option.ite_none_right_eq_some, Option.some.injEq] at stepped
      obtain ⟨here, rfl⟩ := stepped
      exact .destroyed here
  | radioDies radio =>
      obtain rfl := Option.some.inj stepped
      exact .radioDies
  | serviceDied t radio =>
      simp only [step, Option.ite_none_right_eq_some, Option.some.injEq] at stepped
      obtain ⟨⟨idle, dead, linked⟩, rfl⟩ := stepped
      exact .serviceDied idle dead linked
  | incomingCallIndication t radio notification =>
      simp only [step, Option.ite_none_right_eq_some, Option.some.injEq] at stepped
      obtain ⟨⟨idle, installed⟩, rfl⟩ := stepped
      match notification with
      | some ⟨some callId, some seqNo⟩ => exact .incomingCallIndication idle installed
      | none => exact .dropped idle installed (by simp)
      | some ⟨none, _⟩ => exact .dropped idle installed (by simp)
      | some ⟨some _, none⟩ => exact .dropped idle installed (by simp)
  | setCallIndication t threw =>
      simp only [step] at stepped
      split at stepped
      · rename_i radio _ _ _ _ here
        obtain rfl := Option.some.inj stepped
        cases throws : service.throws radio threw with
        | true => exact .notAcknowledged here throws
        | false => exact .setCallIndication here throws
      · contradiction
  | binderRemoveCallbacks t =>
      simp only [step, Option.ite_none_right_eq_some, Option.some.injEq] at stepped
      obtain ⟨here, rfl⟩ := stepped
      exact .binderRemoveCallbacks here
  | binderPostDelayed t =>
      simp only [step, Option.ite_none_right_eq_some, Option.some.injEq] at stepped
      obtain ⟨here, rfl⟩ := stepped
      exact .binderPostDelayed here

end Steps

end Mt6757.RadioBridge
