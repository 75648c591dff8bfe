import Mt6757.WifiHal.Registry

/-!
# Requests and answers on the command socket

`WifiCommand::requestResponse`, `requestEvent` and `requestVendorEvent` share
`cmd_sock`, and sequence checking is off: a request reads whatever answer is
oldest.  The socket is a flat list of unread messages; a queue of whole answers,
one for every message that nobody has read the answer of, says what it holds.
-/

set_option autoImplicit false

namespace Mt6757.WifiHal.CommandSocket

/-- A valid message of an answer and what `WifiEvent::parse` makes of it. -/
structure Reply where
  parsed : Int
  body : Payload
  deriving DecidableEq, Repr

inductive Verdict where
  | ack
  | error (code : Int) (negative : code < 0)
  deriving DecidableEq

structure Answer where
  replies : List Reply
  verdict : Verdict
  deriving DecidableEq

inductive SockItem where
  | reply (reply : Reply)
  | ack
  | error (code : Int)
  deriving DecidableEq, Repr

def Verdict.item : Verdict → SockItem
  | .ack => .ack
  | .error code _ => .error code

def Verdict.code : Verdict → Int
  | .ack => 0
  | .error code _ => code

namespace Answer

def items (answer : Answer) : List SockItem :=
  answer.replies.map .reply ++ [answer.verdict.item]

def valid (answer : Answer) : List Reply :=
  answer.replies.filter fun reply => decide (0 ≤ reply.parsed)

end Answer

structure Outcome where
  result : Int
  handled : List Reply
  deriving DecidableEq, Repr

structure State where
  info : HalInfo
  unread : List SockItem

/-! ## The three requests -/

/-- `error_handler`, `ack_handler` and `response_handler` on `*err`. -/
def SockItem.setErr (err : Int) : SockItem → Int
  | .reply _ => err
  | .ack => 0
  | .error code => code

def SockItem.handled : SockItem → List Reply
  | .reply message => if message.parsed < 0 then [] else [message]
  | .ack => []
  | .error _ => []

/-- `while (err > 0) nl_recvmsgs(cmd_sock, cb)`, one message at a time; `none`
when it waits for a message that never comes. -/
def recvmsgs (err : Int) : List SockItem → Option (Outcome × List SockItem)
  | [] => if 0 < err then none else some (⟨err, []⟩, [])
  | item :: rest =>
      if 0 < err then
        (recvmsgs (item.setErr err) rest).map fun received =>
          (⟨received.1.result, item.handled ++ received.1.handled⟩, received.2)
      else some (⟨err, []⟩, item :: rest)

/-- The overload that takes a request; `sent` is the result of
`nl_send_auto_complete` and `answer` what the kernel then sends. -/
def requestResponseOf (state : State) (sent : Int) (answer : Answer) :
    Option (Outcome × State) :=
  if sent < 0 then some (⟨sent, []⟩, state)
  else
    (recvmsgs 1 (state.unread ++ answer.items)).map fun received =>
      (received.1, { state with unread := received.2 })

def requestResponse (state : State) (created sent : Int) (answer : Answer) :
    Option (Outcome × State) :=
  if created < 0 then some (⟨created, []⟩, state)
  else requestResponseOf state sent answer

/-- From the registration on, `requestEvent` and `requestVendorEvent` differ only
in what they unregister.  `waited` is the result of `mCondition.wait`. -/
def sendAndWait (state : State) (registered : WifiError × HalInfo)
    (unregister : HalInfo → HalInfo) (created sent waited : Int) (answer : Answer) :
    Outcome × State :=
  if registered.1 < 0 then (⟨registered.1, []⟩, { state with info := registered.2 })
  else if created < 0 then (⟨created, []⟩, { state with info := unregister registered.2 })
  else if sent < 0 then (⟨sent, []⟩, { state with info := unregister registered.2 })
  else (⟨waited, []⟩, ⟨unregister registered.2, state.unread ++ answer.items⟩)

def requestEvent (state : State) (this : Ptr) (cmd : Int32) (created sent waited : Int)
    (answer : Answer) : Outcome × State :=
  sendAndWait state (wifiRegisterHandler state.info cmd (some eventHandler) (some this))
    (fun info => wifiUnregisterHandler info cmd) created sent waited answer

def requestVendorEvent (state : State) (this : Ptr) (id : UInt32) (subcmd : Int32)
    (created sent waited : Int) (answer : Answer) : Outcome × State :=
  sendAndWait state
    (wifiRegisterVendorHandler state.info id subcmd (some eventHandler) (some this))
    (fun info => wifiUnregisterVendorHandler info id subcmd) created sent waited answer

inductive Operation where
  | response (created sent : Int) (answer : Answer)
  | event (this : Ptr) (cmd : Int32) (created sent waited : Int) (answer : Answer)
  | vendorEvent (this : Ptr) (id : UInt32) (subcmd : Int32) (created sent waited : Int)
      (answer : Answer)

def perform (state : State) : Operation → Option (Outcome × State)
  | .response created sent answer => requestResponse state created sent answer
  | .event this cmd created sent waited answer =>
      some (requestEvent state this cmd created sent waited answer)
  | .vendorEvent this id subcmd created sent waited answer =>
      some (requestVendorEvent state this id subcmd created sent waited answer)

def performAll : List Operation → State → Option State
  | [], state => some state
  | operation :: rest, state => (perform state operation).bind fun done => performAll rest done.2

theorem requestResponse_not_created (state : State) {created : Int} (sent : Int)
    (answer : Answer) (failed : created < 0) :
    requestResponse state created sent answer = some (⟨created, []⟩, state) := by
  rw [requestResponse, if_pos failed]

theorem requestResponse_not_sent (state : State) {created sent : Int} (answer : Answer)
    (isCreated : ¬ created < 0) (failed : sent < 0) :
    requestResponse state created sent answer = some (⟨sent, []⟩, state) := by
  rw [requestResponse, if_neg isCreated, requestResponseOf, if_pos failed]

/-! ## The queue of unread answers -/

/-- The same state with the unread messages grouped into whole answers. -/
structure Queue where
  info : HalInfo
  pending : List Answer

def Queue.flatten (queue : Queue) : State := ⟨queue.info, queue.pending.flatMap Answer.items⟩

namespace Queue

def sendAndWait (queue : Queue) (registered : WifiError × HalInfo)
    (unregister : HalInfo → HalInfo) (created sent : Int) (answer : Answer) : Queue :=
  if registered.1 < 0 then { queue with info := registered.2 }
  else if created < 0 ∨ sent < 0 then { queue with info := unregister registered.2 }
  else ⟨unregister registered.2, queue.pending ++ [answer]⟩

/-- An event request leaves its answer behind; a response request reads the
oldest one. -/
def perform (queue : Queue) : Operation → Queue
  | .response created sent answer =>
      if created < 0 ∨ sent < 0 then queue
      else { queue with pending := (queue.pending ++ [answer]).tail }
  | .event this cmd created sent _ answer =>
      queue.sendAndWait
        (wifiRegisterHandler queue.info cmd (some eventHandler) (some this))
        (fun info => wifiUnregisterHandler info cmd) created sent answer
  | .vendorEvent this id subcmd created sent _ answer =>
      queue.sendAndWait
        (wifiRegisterVendorHandler queue.info id subcmd (some eventHandler) (some this))
        (fun info => wifiUnregisterVendorHandler info id subcmd) created sent answer

end Queue

def queueAfter (info : HalInfo) (operations : List Operation) : Queue :=
  operations.foldl Queue.perform ⟨info, []⟩

/-! ## The socket refines the queue -/

theorem recvmsgs_items (replies : List Reply) (verdict : Verdict) (rest : List SockItem) :
    recvmsgs 1 ((⟨replies, verdict⟩ : Answer).items ++ rest) =
      some (⟨verdict.code, (⟨replies, verdict⟩ : Answer).valid⟩, rest) := by
  induction replies with
  | nil =>
      -- the verdict stops the loop
      have stops : ¬ 0 < verdict.item.setErr 1 := by
        cases verdict with
        | ack => simp [Verdict.item, SockItem.setErr]
        | error code negative =>
            simp only [Verdict.item, SockItem.setErr]
            omega
      have stopped : recvmsgs (verdict.item.setErr 1) rest =
          some (⟨verdict.item.setErr 1, []⟩, rest) := by
        cases rest <;> simp [recvmsgs, stops]
      cases verdict <;>
        simpa [Answer.items, Answer.valid, recvmsgs, Verdict.item, Verdict.code,
          SockItem.setErr, SockItem.handled] using stopped
  | cons reply replies ih =>
      simp only [Answer.items, Answer.valid, List.map_cons, List.cons_append] at ih ⊢
      simp only [recvmsgs, SockItem.setErr, Int.one_pos, if_true, ih, Option.map_some,
        SockItem.handled, List.filter_cons]
      by_cases parsed : reply.parsed < 0
      · have notValid : ¬ 0 ≤ reply.parsed := by omega
        simp [parsed, notValid]
      · have isValid : 0 ≤ reply.parsed := by omega
        simp [parsed, isValid]

/-- A request that is sent reads exactly the oldest unread answer, its own when
there is none. -/
theorem requestResponse_flatten (queue : Queue) {created sent : Int} (answer : Answer)
    (isCreated : ¬ created < 0) (isSent : ¬ sent < 0) :
    requestResponse queue.flatten created sent answer =
      some (⟨(queue.pending.headD answer).verdict.code, (queue.pending.headD answer).valid⟩,
        (queue.perform (.response created sent answer)).flatten) := by
  obtain ⟨info, pending⟩ := queue
  simp only [requestResponse, requestResponseOf, isCreated, isSent, if_false, Queue.perform,
    or_self, Queue.flatten]
  cases pending with
  | nil =>
      have own := recvmsgs_items answer.replies answer.verdict []
      rw [List.append_nil] at own
      simp [own]
  | cons oldest rest =>
      have first := recvmsgs_items oldest.replies oldest.verdict
        (rest.flatMap Answer.items ++ answer.items)
      simp [List.append_assoc, first]

theorem sendAndWait_flatten (queue : Queue) (registered : WifiError × HalInfo)
    (unregister : HalInfo → HalInfo) (created sent waited : Int) (answer : Answer) :
    (sendAndWait queue.flatten registered unregister created sent waited answer).2 =
      (queue.sendAndWait registered unregister created sent answer).flatten := by
  unfold sendAndWait Queue.sendAndWait
  by_cases noSlot : registered.1 < 0
  · simp [noSlot, Queue.flatten]
  · by_cases noMessage : created < 0
    · simp [noSlot, noMessage, Queue.flatten]
    · by_cases notSent : sent < 0 <;> simp [noSlot, noMessage, notSent, Queue.flatten]

theorem perform_flatten (queue : Queue) (operation : Operation) :
    ∃ outcome, perform queue.flatten operation =
      some (outcome, (queue.perform operation).flatten) := by
  cases operation with
  | response created sent answer =>
      by_cases isCreated : created < 0
      · exact ⟨_, by
          simpa [perform, Queue.perform, isCreated] using
            requestResponse_not_created queue.flatten sent answer isCreated⟩
      · by_cases isSent : sent < 0
        · exact ⟨_, by
            simpa [perform, Queue.perform, isSent] using
              requestResponse_not_sent queue.flatten answer isCreated isSent⟩
        · exact ⟨_, requestResponse_flatten queue answer isCreated isSent⟩
  | event this cmd created sent waited answer =>
      exact ⟨_, congrArg some (Prod.ext rfl (sendAndWait_flatten queue _ _ _ _ _ _))⟩
  | vendorEvent this id subcmd created sent waited answer =>
      exact ⟨_, congrArg some (Prod.ext rfl (sendAndWait_flatten queue _ _ _ _ _ _))⟩

theorem performAll_flatten (queue : Queue) (operations : List Operation) :
    performAll operations queue.flatten = some (operations.foldl Queue.perform queue).flatten := by
  induction operations generalizing queue with
  | nil => rfl
  | cons operation rest ih =>
      obtain ⟨outcome, performed⟩ := perform_flatten queue operation
      simp only [performAll, performed, Option.bind_some, List.foldl_cons]
      exact ih (queue.perform operation)

/-! ## Pairing -/

/-- A request that is sent returns the verdict on its own message and handles
the valid replies to it; one that is not sent returns why. -/
def Paired (created sent : Int) (answer : Answer) (outcome : Outcome) : Prop :=
  outcome =
    if created < 0 then ⟨created, []⟩
    else if sent < 0 then ⟨sent, []⟩
    else ⟨answer.verdict.code, answer.valid⟩

instance (created sent : Int) (answer : Answer) (outcome : Outcome) :
    Decidable (Paired created sent answer outcome) :=
  inferInstanceAs (Decidable (outcome = _))

/-- Nobody can tell the two answers apart. -/
def SameAnswer (answer answer' : Answer) : Prop :=
  answer.verdict.code = answer'.verdict.code ∧ answer.valid = answer'.valid

/-- After any operations, no request blocks, and one that is sent is paired with
its own answer exactly when nothing older is unread or the oldest unread answer
happens to be the same. -/
theorem requestResponse_paired_iff (info : HalInfo) (operations : List Operation)
    (created sent : Int) (answer : Answer) :
    ∃ state outcome after, performAll operations ⟨info, []⟩ = some state ∧
      requestResponse state created sent answer = some (outcome, after) ∧
      (Paired created sent answer outcome ↔
        created < 0 ∨ sent < 0 ∨
          ∀ oldest ∈ (queueAfter info operations).pending.head?, SameAnswer oldest answer) := by
  have ran := performAll_flatten ⟨info, []⟩ operations
  by_cases isCreated : created < 0
  · refine ⟨_, _, _, ran, requestResponse_not_created _ sent answer isCreated, ?_⟩
    simp [Paired, isCreated]
  · by_cases isSent : sent < 0
    · refine ⟨_, _, _, ran, requestResponse_not_sent _ answer isCreated isSent, ?_⟩
      simp [Paired, isCreated, isSent]
    · refine ⟨_, _, _, ran, requestResponse_flatten _ answer isCreated isSent, ?_⟩
      simp only [Paired, isCreated, isSent, if_false, false_or, Outcome.mk.injEq, queueAfter,
        SameAnswer]
      cases (operations.foldl Queue.perform ⟨info, []⟩).pending <;> simp

/-- An acknowledged event request answers a rejected request. -/
theorem requestResponse_not_paired :
    ¬ ∀ (info : HalInfo) (operations : List Operation) (created sent : Int) (answer : Answer)
        (state after : State) (outcome : Outcome),
      performAll operations ⟨info, []⟩ = some state →
      requestResponse state created sent answer = some (outcome, after) →
      Paired created sent answer outcome := by
  intro paired
  have wrong := paired (.initial ⟨0, 0, 0, none, none⟩ ⟨0, 0⟩ 64 64)
    [.event 1 33 0 20 0 ⟨[], .ack⟩] 0 20 ⟨[], .error (-22) (by decide)⟩ _ _ ⟨0, []⟩ rfl rfl
  exact absurd wrong (by decide)

theorem requestResponse_nonpos (queue : Queue) (created sent : Int) (answer : Answer) :
    ∃ outcome state, requestResponse queue.flatten created sent answer = some (outcome, state) ∧
      outcome.result ≤ 0 := by
  by_cases isCreated : created < 0
  · exact ⟨_, _, requestResponse_not_created _ sent answer isCreated, Int.le_of_lt isCreated⟩
  · by_cases isSent : sent < 0
    · exact ⟨_, _, requestResponse_not_sent _ answer isCreated isSent, Int.le_of_lt isSent⟩
    · refine ⟨_, _, requestResponse_flatten queue answer isCreated isSent, ?_⟩
      cases (queue.pending.headD answer).verdict with
      | ack => exact Int.le_refl 0
      | error code negative => exact Int.le_of_lt negative

end Mt6757.WifiHal.CommandSocket
