import Mt6757.Lib.Machine

/-!
# The shutdown handshake

`wifi_event_loop` and one call of `wifi_cleanup`, joined by the cleanup socket
pair.  The cleanup thread writes "Exit" and waits for "Done" before it goes on;
the loop leaves on "Exit", on a hang-up of the netlink socket, or when it finds
`clean_up` set.
-/

set_option autoImplicit false

namespace Mt6757.WifiHal.Handshake

inductive SockMsg where
  | exit
  | done
  deriving DecidableEq, Repr

/-- One return of `poll`: its result and what it reports of the netlink socket. -/
structure PollAnswer where
  result : Int
  pollErr : Bool
  pollHup : Bool
  pollIn : Bool
  deriving DecidableEq, Repr

/-- Where `wifi_event_loop` is.  After `poll` it also knows whether the cleanup
descriptor was readable; while it leaves, it has ended its `do` and not yet returned. -/
inductive LoopPc where
  | notStarted
  | polling
  | polled (answer : PollAnswer) (cleanupIn : Bool)
  | gotExit
  | testing
  | leaving
  | returned
  deriving DecidableEq, Repr

/-- Where `wifi_cleanup` is.  After the handshake it does not come back to the
sockets before it closes them. -/
inductive CleanupPc where
  | notCalled
  | writing
  | reading
  | setting
  | cancelling
  deriving DecidableEq, Repr

structure State where
  inEventLoop : Bool
  cleanUp : Bool
  /-- unread at `cleanup_socks[1]` -/
  toLoop : List SockMsg
  /-- unread at `cleanup_socks[0]` -/
  toCleanup : List SockMsg
  loop : LoopPc
  cleanup : CleanupPc
  exitWritten : Bool
  doneWritten : Bool
  deriving DecidableEq, Repr

def initial : State := ⟨false, false, [], [], .notStarted, .notCalled, false, false⟩

/-- The steps of both threads with what the system calls in them answer.  A
`written` says that the write succeeded, a `readFails` that `read` returned an
error. -/
inductive Act where
  | startLoop
  | poll (answer : PollAnswer)
  | branch
  | writeDone (written : Bool)
  | testCleanUp
  | leave
  | callCleanup
  | writeExit (written : Bool)
  | readReply (readFails : Bool)
  | setCleanUp
  deriving DecidableEq, Repr

def branch (state : State) (answer : PollAnswer) (cleanupIn : Bool) : State :=
  if answer.result < 0 then { state with loop := .testing }
  else if answer.pollErr then { state with loop := .testing }
  else if answer.pollHup then { state with loop := .leaving }
  else if answer.pollIn then { state with loop := .testing }
  else if cleanupIn then
    if state.toLoop.head? = some .exit then { state with loop := .gotExit, toLoop := [] }
    else { state with loop := .testing, toLoop := [] }
  else { state with loop := .testing }

def step (state : State) : Act → Option State
  | .startLoop =>
      if state.loop = .notStarted then
        if state.inEventLoop then some { state with loop := .returned }
        else some { state with inEventLoop := true, loop := .polling }
      else none
  | .poll answer =>
      if state.loop = .polling then
        some { state with loop := .polled answer (state.toLoop ≠ []) }
      else none
  | .branch =>
      match state.loop with
      | .polled answer cleanupIn => some (branch state answer cleanupIn)
      | _ => none
  | .writeDone written =>
      if state.loop = .gotExit then
        if written then
          some { state with
            loop := .leaving, toCleanup := state.toCleanup ++ [.done], doneWritten := true }
        else some { state with loop := .leaving }
      else none
  | .testCleanUp =>
      if state.loop = .testing then
        some { state with loop := if state.cleanUp then .leaving else .polling }
      else none
  | .leave =>
      if state.loop = .leaving then some { state with loop := .returned } else none
  -- the loop is started before the HAL is cleaned up
  | .callCleanup =>
      if state.cleanup = .notCalled ∧ state.loop ≠ .notStarted then
        some { state with cleanup := .writing }
      else none
  | .writeExit written =>
      if state.cleanup = .writing then
        if written then
          some { state with
            cleanup := .reading, toLoop := state.toLoop ++ [.exit], exitWritten := true }
        else some { state with cleanup := .setting }
      else none
  -- blocks while nothing has arrived
  | .readReply readFails =>
      if state.cleanup = .reading ∧ (readFails ∨ state.toCleanup ≠ []) then
        some { state with
          cleanup := .setting, toCleanup := if readFails then state.toCleanup else [] }
      else none
  | .setCleanUp =>
      if state.cleanup = .setting then
        some { state with cleanUp := true, cleanup := .cancelling }
      else none

/-- `wifi_cleanup` has told the loop to exit and waits for an answer that the
loop, which has returned, did not give. -/
def Stuck (state : State) : Prop :=
  state.exitWritten = true ∧ state.cleanup = .reading ∧ state.toCleanup = [] ∧
    state.loop = .returned ∧ state.doneWritten = false

instance (state : State) : Decidable (Stuck state) := by
  unfold Stuck
  infer_instance

def HungUp (state : State) : Prop :=
  match state.loop with
  | .polled answer _ =>
      0 ≤ answer.result ∧ answer.pollErr = false ∧ answer.pollHup = true
  | _ => False

instance (state : State) : Decidable (HungUp state) := by
  unfold HungUp
  split <;> infer_instance

def PastReading (state : State) : Prop :=
  state.cleanup = .setting ∨ state.cleanup = .cancelling

instance (state : State) : Decidable (PastReading state) := by
  unfold PastReading
  infer_instance

/-- The loop does not leave without an answer: no hang-up while `wifi_cleanup`
may still wait for it, and no failed write of "Done". -/
def Answers (state : State) : Act → Prop
  | .branch => HungUp state → PastReading state
  | .writeDone written => written = true ∨ PastReading state
  | _ => True

instance (state : State) (act : Act) : Decidable (Answers state act) := by
  cases act <;> unfold Answers <;> infer_instance

/-! ## What holds while the loop answers -/

def LoopPc.Running : LoopPc → Prop
  | .polling => True
  | .polled _ _ => True
  | .testing => True
  | _ => False

def LoopPc.Left : LoopPc → Prop
  | .leaving => True
  | .returned => True
  | _ => False

instance : DecidablePred LoopPc.Left := by
  intro loop
  cases loop <;> unfold LoopPc.Left <;> infer_instance

theorem LoopPc.Running.not_left {loop : LoopPc} (running : loop.Running) : ¬ loop.Left := by
  cases loop <;> simp_all [LoopPc.Running, LoopPc.Left]

structure Inv (state : State) : Prop where
  unstarted : state.loop = .notStarted →
    state.inEventLoop = false ∧ state.cleanup = .notCalled
  silent : ¬ state.loop.Left → state.doneWritten = false ∧ state.toCleanup = []
  before : state.cleanup = .notCalled ∨ state.cleanup = .writing →
    state.toLoop = [] ∧ (state.loop = .notStarted ∨ state.loop.Running)
  written : state.cleanup = .reading → state.exitWritten = true
  waiting : state.cleanup = .reading →
    (state.toLoop = [.exit] ∧ state.loop.Running) ∨ state.loop = .gotExit ∨
      (state.loop.Left ∧ state.doneWritten = true)
  flag : state.cleanUp = true → PastReading state

theorem inv_initial : Inv initial where
  unstarted := fun _ => ⟨rfl, rfl⟩
  silent := fun _ => ⟨rfl, rfl⟩
  before := fun _ => ⟨rfl, Or.inl rfl⟩
  written := nofun
  waiting := nofun
  flag := nofun

theorem Inv.not_stuck {state : State} (inv : Inv state) : ¬ Stuck state := by
  rintro ⟨_, reading, _, returned, unanswered⟩
  rcases inv.waiting reading with ⟨_, running⟩ | gotExit | ⟨_, answered⟩
  · rw [returned] at running
    exact running
  · rw [returned] at gotExit
    contradiction
  · rw [unanswered] at answered
    contradiction

theorem Inv.started {state : State} (inv : Inv state) (called : state.cleanup ≠ .notCalled) :
    state.loop ≠ .notStarted :=
  fun notStarted => called (inv.unstarted notStarted).2

theorem branch_cases (state : State) (answer : PollAnswer) (cleanupIn : Bool)
    (polled : state.loop = .polled answer cleanupIn) :
    (branch state answer cleanupIn = { state with loop := .testing }) ∨
      (HungUp state ∧ branch state answer cleanupIn = { state with loop := .leaving }) ∨
      (state.toLoop.head? = some .exit ∧
        branch state answer cleanupIn = { state with loop := .gotExit, toLoop := [] }) ∨
      (state.toLoop.head? ≠ some .exit ∧
        branch state answer cleanupIn = { state with loop := .testing, toLoop := [] }) := by
  unfold branch HungUp
  simp only [polled]
  split
  · exact Or.inl rfl
  · split
    · exact Or.inl rfl
    · split
      · refine Or.inr (Or.inl ⟨⟨?_, ?_, ?_⟩, rfl⟩)
        · omega
        · simp_all
        · assumption
      · split
        · exact Or.inl rfl
        · split
          · split
            · exact Or.inr (Or.inr (Or.inl ⟨by assumption, rfl⟩))
            · exact Or.inr (Or.inr (Or.inr ⟨by assumption, rfl⟩))
          · exact Or.inl rfl

theorem Inv.keepRunning {state : State} (inv : Inv state) (running : state.loop.Running)
    {loop : LoopPc} (running' : loop.Running) : Inv { state with loop := loop } where
  unstarted := by
    rintro rfl
    exact running'.elim
  silent := fun _ => inv.silent running.not_left
  before := fun early => ⟨(inv.before early).1, Or.inr running'⟩
  written := inv.written
  waiting := by
    intro reading
    rcases inv.waiting reading with ⟨pending, _⟩ | gotExit | ⟨left, _⟩
    · exact Or.inl ⟨pending, running'⟩
    · simp [gotExit, LoopPc.Running] at running
    · exact absurd left running.not_left
  flag := inv.flag

theorem Inv.leaveLate {state : State} (inv : Inv state) (late : PastReading state) :
    Inv { state with loop := .leaving } where
  unstarted := nofun
  silent := fun stays => absurd trivial stays
  before := by
    rintro (early | early) <;> rcases late with late | late <;> simp [late] at early
  written := inv.written
  waiting := by
    intro reading
    rcases late with late | late <;> simp [late] at reading
  flag := inv.flag

theorem Inv.leave {state : State} (inv : Inv state) (leaving : state.loop = .leaving) :
    Inv { state with loop := .returned } where
  unstarted := nofun
  silent := fun stays => absurd trivial stays
  before := by
    intro early
    rcases (inv.before early).2 with notStarted | running
    · simp [leaving] at notStarted
    · simp [leaving, LoopPc.Running] at running
  written := inv.written
  waiting := by
    intro reading
    rcases inv.waiting reading with ⟨_, running⟩ | gotExit | ⟨_, answered⟩
    · simp [leaving, LoopPc.Running] at running
    · simp [leaving] at gotExit
    · exact Or.inr (Or.inr ⟨trivial, answered⟩)
  flag := inv.flag

theorem Inv.branch {state : State} (inv : Inv state) {answer : PollAnswer}
    {cleanupIn : Bool} (polled : state.loop = .polled answer cleanupIn)
    (answers : Answers state .branch) : Inv (branch state answer cleanupIn) := by
  have running : state.loop.Running := by simp [polled, LoopPc.Running]
  have stays : ¬ state.loop.Left := running.not_left
  rcases branch_cases state answer cleanupIn polled with
    same | ⟨hungUp, same⟩ | ⟨exit, same⟩ | ⟨noExit, same⟩ <;> rw [same]
  · exact inv.keepRunning running trivial
  · exact inv.leaveLate (answers hungUp)
  · refine ⟨nofun, fun _ => inv.silent stays, fun early => ?_, inv.written,
      fun _ => Or.inr (Or.inl rfl), inv.flag⟩
    -- nothing has been written to the loop yet
    rw [(inv.before early).1] at exit
    contradiction
  · refine ⟨nofun, fun _ => inv.silent stays, fun _ => ⟨rfl, Or.inr trivial⟩,
      inv.written, fun reading => ?_, inv.flag⟩
    rcases inv.waiting reading with ⟨pending, _⟩ | gotExit | ⟨left, _⟩
    · rw [pending] at noExit
      exact absurd rfl noExit
    · simp [polled] at gotExit
    · exact absurd left stays

theorem Inv.step {state state' : State} {act : Act} (inv : Inv state)
    (answers : Answers state act) (stepped : step state act = some state') : Inv state' := by
  cases act with
  | startLoop =>
      simp only [Handshake.step] at stepped
      split at stepped
      · rename_i notStarted
        obtain ⟨notIn, notCalled⟩ := inv.unstarted notStarted
        simp only [notIn, Bool.false_eq_true, if_false, Option.some.injEq] at stepped
        subst stepped
        refine ⟨nofun, fun _ => inv.silent (by simp [notStarted, LoopPc.Left]),
          fun early => ⟨(inv.before early).1, Or.inr trivial⟩, inv.written, ?_, inv.flag⟩
        intro reading
        simp [notCalled] at reading
      · contradiction
  | poll answer =>
      simp only [Handshake.step] at stepped
      split at stepped
      · rename_i polling
        obtain rfl := Option.some.inj stepped
        exact inv.keepRunning (by simp [polling, LoopPc.Running]) trivial
      · contradiction
  | branch =>
      simp only [Handshake.step] at stepped
      split at stepped
      · rename_i answer cleanupIn polled
        obtain rfl := Option.some.inj stepped
        exact inv.branch polled answers
      · contradiction
  | writeDone written =>
      simp only [Handshake.step] at stepped
      split at stepped
      · rename_i gotExit
        cases written with
        | true =>
            obtain rfl := Option.some.inj stepped
            refine ⟨nofun, fun stays => absurd trivial stays, fun early => ?_, inv.written,
              fun _ => Or.inr (Or.inr ⟨trivial, rfl⟩), inv.flag⟩
            rcases (inv.before early).2 with notStarted | running
            · simp [gotExit] at notStarted
            · simp [gotExit, LoopPc.Running] at running
        | false =>
            obtain rfl := Option.some.inj stepped
            exact inv.leaveLate (answers.resolve_left Bool.false_ne_true)
      · contradiction
  | testCleanUp =>
      simp only [Handshake.step] at stepped
      split at stepped
      · rename_i testing
        obtain rfl := Option.some.inj stepped
        split
        · rename_i cleanUp
          exact inv.leaveLate (inv.flag cleanUp)
        · exact inv.keepRunning (by simp [testing, LoopPc.Running]) trivial
      · contradiction
  | leave =>
      simp only [Handshake.step] at stepped
      split at stepped
      · rename_i leaving
        obtain rfl := Option.some.inj stepped
        exact inv.leave leaving
      · contradiction
  | callCleanup =>
      simp only [Handshake.step] at stepped
      split at stepped
      · rename_i called
        obtain rfl := Option.some.inj stepped
        obtain ⟨notCalled, started⟩ := called
        refine ⟨fun unstarted => absurd unstarted started, inv.silent,
          fun _ => inv.before (Or.inl notCalled), nofun, nofun, fun cleanUp => ?_⟩
        rcases inv.flag cleanUp with late | late <;> simp [notCalled] at late
      · contradiction
  | writeExit written =>
      simp only [Handshake.step] at stepped
      split at stepped
      · rename_i writing
        obtain ⟨empty, place⟩ := inv.before (Or.inr writing)
        have started := inv.started (by simp [writing])
        have running := place.resolve_left started
        have notSet : state.cleanUp ≠ true := by
          intro cleanUp
          rcases inv.flag cleanUp with late | late <;> simp [writing] at late
        cases written with
        | true =>
            obtain rfl := Option.some.inj stepped
            exact ⟨fun unstarted => absurd unstarted started, inv.silent, nofun, fun _ => rfl,
              fun _ => Or.inl ⟨by simp [empty], running⟩, fun cleanUp => absurd cleanUp notSet⟩
        | false =>
            obtain rfl := Option.some.inj stepped
            exact ⟨fun unstarted => absurd unstarted started, inv.silent, nofun, nofun, nofun,
              fun _ => Or.inl rfl⟩
      · contradiction
  | readReply readFails =>
      simp only [Handshake.step] at stepped
      split at stepped
      · rename_i enabled
        obtain rfl := Option.some.inj stepped
        have started := inv.started (by simp [enabled.1])
        refine ⟨fun unstarted => absurd unstarted started, fun stays => ?_, nofun, nofun,
          nofun, fun _ => Or.inl rfl⟩
        obtain ⟨unanswered, empty⟩ := inv.silent stays
        exact ⟨unanswered, by split <;> simp [empty]⟩
      · contradiction
  | setCleanUp =>
      simp only [Handshake.step] at stepped
      split at stepped
      · rename_i setting
        obtain rfl := Option.some.inj stepped
        have started := inv.started (by simp [setting])
        exact ⟨fun unstarted => absurd unstarted started, inv.silent, nofun, nofun, nofun,
          fun _ => Or.inr rfl⟩
      · contradiction

theorem inv_of_reachesWhen {state : State}
    (reaches : Machine.ReachesWhen step Answers initial state) : Inv state :=
  reaches.invariant (fun _ _ _ inv answers stepped => inv.step answers stepped) inv_initial

/-- While every exit of the loop that `wifi_cleanup` may wait for answers it, the
two calls never wait for each other in vain. -/
theorem not_stuck_of_answers {state : State}
    (reaches : Machine.ReachesWhen step Answers initial state) : ¬ Stuck state :=
  (inv_of_reachesWhen reaches).not_stuck

/-- A complete handshake. -/
theorem not_stuck_after_done :
    ¬ Stuck ⟨true, true, [], [], .returned, .cancelling, true, true⟩ :=
  not_stuck_of_answers (Machine.reachesWhen_of_runWhen step Answers
    [.startLoop, .callCleanup, .poll ⟨1, false, false, true⟩, .writeExit true, .branch,
      .testCleanUp, .poll ⟨1, false, false, false⟩, .branch, .writeDone true, .readReply false,
      .leave, .setCleanUp] (by decide))

/-- The condition leaves out nothing harmless: a step that breaks it can be
followed by steps that leave `wifi_cleanup` waiting for ever. -/
theorem stuck_of_unanswered {state state' : State} {act : Act}
    (reaches : Machine.ReachesWhen step Answers initial state)
    (unanswered : ¬ Answers state act) (stepped : step state act = some state') :
    ∃ final, Machine.Reaches step state' final ∧ Stuck final := by
  have inv := inv_of_reachesWhen reaches
  cases act with
  | branch =>
      obtain ⟨hungUp, waits⟩ := Classical.not_imp.mp unanswered
      simp only [Handshake.step] at stepped
      split at stepped
      · rename_i answer cleanupIn polled
        obtain rfl := Option.some.inj stepped
        have left : Handshake.branch state answer cleanupIn = { state with loop := .leaving } := by
          unfold HungUp at hungUp
          rw [polled] at hungUp
          obtain ⟨polledOk, noErr, hup⟩ := hungUp
          have notFailed : ¬ answer.result < 0 := by omega
          simp [Handshake.branch, notFailed, noErr, hup]
        obtain ⟨silent, empty⟩ := inv.silent (by simp [polled, LoopPc.Left])
        rw [left]
        cases place : state.cleanup with
        | notCalled =>
            refine ⟨{ state with
              loop := .returned, cleanup := .reading, toLoop := state.toLoop ++ [.exit],
              exitWritten := true }, ?_, rfl, rfl, empty, rfl, silent⟩
            exact Machine.reachesWhen_of_runWhen _ _ [.leave, .callCleanup, .writeExit true]
              (by simp [Machine.runWhen, Handshake.step])
        | writing =>
            refine ⟨{ state with
              loop := .returned, cleanup := .reading, toLoop := state.toLoop ++ [.exit],
              exitWritten := true }, ?_, rfl, rfl, empty, rfl, silent⟩
            exact Machine.reachesWhen_of_runWhen _ _ [.leave, .writeExit true]
              (by simp [Machine.runWhen, Handshake.step])
        | reading =>
            refine ⟨{ state with loop := .returned, cleanup := .reading }, ?_, inv.written place, rfl,
              empty, rfl, silent⟩
            exact Machine.reachesWhen_of_runWhen _ _ [.leave]
              (by simp [Machine.runWhen, Handshake.step])
        | setting => exact absurd (Or.inl place) waits
        | cancelling => exact absurd (Or.inr place) waits
      · contradiction
  | writeDone written =>
      obtain ⟨failed, waits⟩ := not_or.mp unanswered
      have notWritten : written = false := by simpa using failed
      subst notWritten
      simp only [Handshake.step] at stepped
      split at stepped
      · rename_i gotExit
        obtain rfl := Option.some.inj stepped
        obtain ⟨silent, empty⟩ := inv.silent (by simp [gotExit, LoopPc.Left])
        have reading : state.cleanup = .reading := by
          cases place : state.cleanup with
          | notCalled =>
              rcases (inv.before (Or.inl place)).2 with other | other <;>
                simp [gotExit, LoopPc.Running] at other
          | writing =>
              rcases (inv.before (Or.inr place)).2 with other | other <;>
                simp [gotExit, LoopPc.Running] at other
          | reading => rfl
          | setting => exact absurd (Or.inl place) waits
          | cancelling => exact absurd (Or.inr place) waits
        refine ⟨{ state with loop := .returned }, ?_, inv.written reading, reading, empty, rfl,
          silent⟩
        exact Machine.reachesWhen_of_runWhen _ _ [.leave] (by simp [Machine.runWhen, Handshake.step])
      · contradiction
  | _ => exact absurd trivial unanswered

/-- The netlink socket hangs up before `wifi_cleanup` is called. -/
theorem stuck_after_hangUp :
    ¬ ∀ state, Machine.Reaches step initial state → ¬ Stuck state := by
  intro never
  obtain ⟨state, reaches, stuck⟩ := Machine.exists_reaches_of_run step
    [.startLoop, .poll ⟨1, false, true, false⟩, .branch, .leave, .callCleanup, .writeExit true]
    initial (fun state => Stuck state) (by decide)
  exact never state reaches (by simpa using stuck)

/-! ## What `wifi_cleanup` finds -/

def Exchanged (_state : State) : Act → Prop
  | .writeExit written => written = true
  | .readReply readFails => readFails = false
  | _ => True

instance (state : State) (act : Act) : Decidable (Exchanged state act) := by
  cases act <;> unfold Exchanged <;> infer_instance

/-- An answer, and what `wifi_cleanup` does upon it, come after the end of the loop. -/
structure AfterLoop (state : State) : Prop where
  answered : state.toCleanup ≠ [] → state.loop.Left
  late : PastReading state → state.loop.Left

theorem AfterLoop.move {state : State} (after : AfterLoop state) (stays : ¬ state.loop.Left)
    (loop : LoopPc) (toLoop : List SockMsg) (inEventLoop : Bool) :
    AfterLoop { state with loop := loop, toLoop := toLoop, inEventLoop := inEventLoop } where
  answered := fun some_there => absurd (after.answered some_there) stays
  late := fun past => absurd (after.late past) stays

theorem AfterLoop.branch {state : State} (after : AfterLoop state) {answer : PollAnswer}
    {cleanupIn : Bool} (polled : state.loop = .polled answer cleanupIn) :
    AfterLoop (branch state answer cleanupIn) := by
  have stays : ¬ state.loop.Left := by simp [polled, LoopPc.Left]
  rcases branch_cases state answer cleanupIn polled with
    same | ⟨_, same⟩ | ⟨_, same⟩ | ⟨_, same⟩ <;> rw [same]
  · exact after.move stays _ state.toLoop state.inEventLoop
  · exact after.move stays _ state.toLoop state.inEventLoop
  · exact after.move stays _ [] state.inEventLoop
  · exact after.move stays _ [] state.inEventLoop

theorem AfterLoop.step {state state' : State} {act : Act} (after : AfterLoop state)
    (exchanged : Exchanged state act) (stepped : step state act = some state') :
    AfterLoop state' := by
  cases act with
  | startLoop =>
      simp only [Handshake.step] at stepped
      split at stepped
      next notStarted =>
        have stays : ¬ state.loop.Left := by simp [notStarted, LoopPc.Left]
        split at stepped <;> obtain rfl := Option.some.inj stepped
        · exact after.move stays _ state.toLoop state.inEventLoop
        · exact after.move stays _ state.toLoop true
      next => contradiction
  | poll answer =>
      simp only [Handshake.step] at stepped
      split at stepped
      next polling =>
        obtain rfl := Option.some.inj stepped
        exact after.move (by simp [polling, LoopPc.Left]) _ state.toLoop state.inEventLoop
      next => contradiction
  | branch =>
      simp only [Handshake.step] at stepped
      split at stepped
      next answer cleanupIn polled =>
        obtain rfl := Option.some.inj stepped
        exact after.branch polled
      next => contradiction
  | writeDone written =>
      simp only [Handshake.step] at stepped
      split at stepped
      next =>
        split at stepped <;> obtain rfl := Option.some.inj stepped
        · exact ⟨fun _ => trivial, fun _ => trivial⟩
        · exact ⟨fun _ => trivial, fun _ => trivial⟩
      next => contradiction
  | testCleanUp =>
      simp only [Handshake.step] at stepped
      split at stepped
      next testing =>
        obtain rfl := Option.some.inj stepped
        exact after.move (by simp [testing, LoopPc.Left]) _ state.toLoop state.inEventLoop
      next => contradiction
  | leave =>
      simp only [Handshake.step] at stepped
      split at stepped
      next =>
        obtain rfl := Option.some.inj stepped
        exact ⟨fun _ => trivial, fun _ => trivial⟩
      next => contradiction
  | callCleanup =>
      simp only [Handshake.step] at stepped
      split at stepped
      next =>
        obtain rfl := Option.some.inj stepped
        refine ⟨after.answered, ?_⟩
        rintro (early | early) <;> cases early
      next => contradiction
  | writeExit written =>
      obtain rfl := exchanged
      simp only [Handshake.step] at stepped
      split at stepped
      next =>
        obtain rfl := Option.some.inj stepped
        refine ⟨after.answered, ?_⟩
        rintro (early | early) <;> cases early
      next => contradiction
  | readReply readFails =>
      obtain rfl := exchanged
      simp only [Handshake.step] at stepped
      split at stepped
      next enabled =>
        obtain rfl := Option.some.inj stepped
        -- without an error there was something to read
        have left := after.answered (enabled.2.resolve_left Bool.false_ne_true)
        exact ⟨fun _ => left, fun _ => left⟩
      next => contradiction
  | setCleanUp =>
      simp only [Handshake.step] at stepped
      split at stepped
      next setting =>
        obtain rfl := Option.some.inj stepped
        have left := after.late (.inl setting)
        exact ⟨fun _ => left, fun _ => left⟩
      next => contradiction

/-- The steps in which the event loop works with its sockets, with the handle or on an event. -/
def Act.OfLoop : Act → Prop
  | .startLoop | .poll _ | .branch | .writeDone _ | .testCleanUp => True
  | _ => False

theorem left_step {state state' : State} {act : Act} (left : state.loop.Left)
    (stepped : step state act = some state') : ¬ act.OfLoop ∧ state'.loop.Left := by
  cases act with
  | startLoop | poll answer | branch | writeDone written | testCleanUp =>
      cases place : state.loop <;> simp [Handshake.step, place, LoopPc.Left] at stepped left
  | leave =>
      simp only [Handshake.step] at stepped
      split at stepped
      next =>
        obtain rfl := Option.some.inj stepped
        exact ⟨not_false, trivial⟩
      next => contradiction
  | writeExit written =>
      simp only [Handshake.step] at stepped
      split at stepped
      next => split at stepped <;> obtain rfl := Option.some.inj stepped <;> exact ⟨not_false, left⟩
      next => contradiction
  | callCleanup | readReply readFails | setCleanUp =>
      simp only [Handshake.step] at stepped
      split at stepped
      next =>
        obtain rfl := Option.some.inj stepped
        exact ⟨not_false, left⟩
      next => contradiction

/-- In every run in which both words cross, the commands are cancelled and the handle is
freed only after the event loop has ended, which then does nothing more than return. -/
theorem loop_left_of_exchanged {state : State}
    (reaches : Machine.ReachesWhen step Exchanged initial state) (past : PastReading state) :
    state.loop.Left ∧ ∀ act state', step state act = some state' →
      ¬ act.OfLoop ∧ state'.loop.Left := by
  have start : AfterLoop initial := ⟨fun some_there => absurd rfl some_there, by decide⟩
  have after : AfterLoop state :=
    reaches.invariant (fun _ _ _ after exchanged stepped => after.step exchanged stepped) start
  have left := after.late past
  exact ⟨left, fun act state' stepped => left_step left stepped⟩

/-- The loop has answered and not yet returned. -/
theorem loop_left_of_handshake :
    (⟨true, true, [], [], .leaving, .cancelling, true, true⟩ : State).loop.Left :=
  (loop_left_of_exchanged (Machine.reachesWhen_of_runWhen step Exchanged
    [.startLoop, .callCleanup, .writeExit true, .poll ⟨1, false, false, false⟩, .branch,
      .writeDone true, .readReply false, .setCleanUp] (by decide)) (by decide)).1

end Mt6757.WifiHal.Handshake
