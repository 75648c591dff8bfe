import Mathlib.Data.List.Infix
import Mathlib.Data.List.TakeWhile
import Mt6757.Lib.CString
import Mt6757.Lib.Pieces
import Mt6757.Lib.Splice

/-!
# The modem query tool

`atci_query` sends one of three commands to the service behind a socket and collects the
response until it knows enough.  Its exit status is the verdict on what it has collected.
-/

set_option autoImplicit false

namespace Mt6757.Tools.Atci

open CString (ascii)

inductive ExitStatus where
  | success
  | failure
  deriving DecidableEq, Repr

inductive Complaint where
  | usage (program : CString)
  | perror (call : CString)
  | timedOut
  deriving DecidableEq, Repr

structure Exit where
  status : ExitStatus
  stdout : CString
  complaints : List Complaint

inductive PollResult where
  | interrupted
  | failed
  | timedOut
  | ready

/-- The service as the tool meets it, attempt by attempt.  A `read` into some room gives
`none` at the end of the stream and when it fails. -/
structure Peer where
  opened : Bool
  connected : Bool
  send : CString → Int
  poll : Nat → PollResult
  read : Nat → Nat → Option (List UInt8)
  read_fits : ∀ attempt room bytes, read attempt room = some bytes →
    bytes ≠ [] ∧ bytes.length ≤ room

def responseSize : Nat := 4096

structure Response where
  buffer : List UInt8
  used : Nat

namespace Response

def initial : Response := ⟨List.replicate responseSize 0, 0⟩

/-- What `strstr` sees of the buffer. -/
def text (response : Response) : CString := response.buffer.takeWhile (· ≠ 0)

/-- A `read` behind what is there, and the terminator behind that. -/
def receive (response : Response) (bytes : List UInt8) : Response :=
  let used := response.used + bytes.length
  ⟨splice (splice response.buffer response.used bytes.length bytes) used 1 [0], used⟩

def complete (response : Response) : Bool :=
  (CString.strstr response.text (ascii "OK")).isSome ||
    (CString.strstr response.text (ascii "ERROR")).isSome ||
      response.used == responseSize - 1

end Response

def responseLoop (peer : Peer) : (attempts attempt : Nat) → Response → Response × List Complaint
  | 0, _, response => (response, [])
  | attempts + 1, attempt, response =>
      match peer.poll attempt with
      | .interrupted => responseLoop peer attempts (attempt + 1) response
      | .failed => (response, [.perror (ascii "poll")])
      | .timedOut => responseLoop peer attempts (attempt + 1) response
      | .ready =>
          match peer.read attempt (responseSize - response.used - 1) with
          | none => (response, [])
          | some bytes =>
              let response := response.receive bytes
              if response.complete then (response, [])
              else responseLoop peer attempts (attempt + 1) response

/-- How a byte of the response is printed. -/
def shown (byte : UInt8) : CString :=
  if byte = 13 then []
  else if byte = 10 ∨ (32 ≤ byte ∧ byte < 127) then [byte]
  else ascii "\\x" ++ CString.hexByte byte

def isQuery (arg : CString) : Bool :=
  CString.strcmp arg (ascii "AT+CPIN?") == 0 || CString.strcmp arg (ascii "AT+ESIMS?") == 0 ||
    CString.strcmp arg (ascii "AT+CFUN?") == 0

/-- `main` behind the check of its arguments. -/
def converse (peer : Peer) (arg : CString) : Exit :=
  if !peer.opened then ⟨.failure, [], [.perror (ascii "socket")]⟩
  else if !peer.connected then ⟨.failure, [], [.perror (ascii "connect")]⟩
  else
    -- no query is so long that `snprintf` would cut it
    let command := arg ++ ascii "\r\n"
    if peer.send command ≠ command.length then ⟨.failure, [], [.perror (ascii "send")]⟩
    else
      let (response, complaints) := responseLoop peer 20 0 .initial
      if response.used = 0 then ⟨.failure, [], complaints ++ [.timedOut]⟩
      else
        ⟨if (CString.strstr response.text (ascii "OK")).isSome then .success else .failure,
          (response.buffer.take response.used).flatMap shown ++ ascii "\n", complaints⟩

def main (peer : Peer) (argv : List CString) : Exit :=
  match argv with
  | [_, arg] =>
      if isQuery arg then converse peer arg
      else ⟨.failure, [], [.usage (argv.headD [])]⟩
  | _ => ⟨.failure, [], [.usage (argv.headD [])]⟩

/-! ## The buffer -/

structure Response.Holds (response : Response) (received : List UInt8) : Prop where
  buffer : response.buffer =
    received ++ List.replicate (responseSize - received.length) 0
  used : response.used = received.length
  room : received.length < responseSize

def textOf (received : List UInt8) : CString := received.takeWhile (· ≠ 0)

def enough (received : List UInt8) : Bool :=
  (CString.strstr (textOf received) (ascii "OK")).isSome ||
    (CString.strstr (textOf received) (ascii "ERROR")).isSome ||
      received.length == responseSize - 1

namespace Response.Holds

variable {response : Response} {received bytes : List UInt8}

theorem initial : Response.initial.Holds [] where
  buffer := rfl
  used := rfl
  room := by decide

theorem text (holds : response.Holds received) : response.text = textOf received := by
  obtain ⟨zeros, more⟩ : ∃ zeros, responseSize - received.length = zeros + 1 :=
    ⟨responseSize - received.length - 1, by have := holds.room; omega⟩
  rw [Response.text, textOf, holds.buffer, more, List.replicate_succ, List.takeWhile_append]
  split
  · next whole =>
    rw [List.takeWhile_cons_of_neg (by simp), List.append_nil]
    exact ((List.takeWhile_prefix _).eq_of_length whole).symm
  · rfl

theorem complete (holds : response.Holds received) : response.complete = enough received := by
  rw [Response.complete, enough, holds.text, holds.used]

theorem receive (holds : response.Holds received)
    (fits : bytes.length ≤ responseSize - response.used - 1) :
    (response.receive bytes).Holds (received ++ bytes) := by
  have room := holds.room
  rw [holds.used] at fits
  obtain ⟨zeros, more⟩ : ∃ zeros, responseSize - received.length = bytes.length + (zeros + 1) :=
    ⟨responseSize - received.length - bytes.length - 1, by omega⟩
  have stored : splice response.buffer response.used bytes.length bytes =
      received ++ bytes ++ List.replicate (zeros + 1) 0 := by
    rw [splice, holds.buffer, holds.used, List.take_left, ← List.drop_drop, List.drop_left, more,
      List.drop_replicate, Nat.add_sub_cancel_left]
  constructor
  · have used : response.used + bytes.length = (received ++ bytes).length := by
      rw [holds.used, List.length_append]
    rw [Response.receive, stored, used, splice, List.take_left, ← List.drop_drop, List.drop_left,
      List.drop_replicate, List.append_assoc, List.singleton_append]
    rw [List.length_append, show responseSize - (received.length + bytes.length) = zeros + 1 by omega]
    rfl
  · rw [Response.receive, holds.used, List.length_append]
  · rw [List.length_append]
    omega

end Response.Holds

/-- Whatever the service does, the response stays inside its buffer. -/
theorem responseLoop_holds (peer : Peer) (attempts attempt : Nat) {response : Response}
    {received : List UInt8} (holds : response.Holds received) :
    ∃ received', received <+: received' ∧
      (responseLoop peer attempts attempt response).1.Holds received' := by
  induction attempts generalizing attempt response received with
  | zero => exact ⟨received, List.prefix_rfl, holds⟩
  | succ attempts ih =>
      rw [responseLoop]
      cases peer.poll attempt with
      | interrupted => exact ih (attempt + 1) holds
      | failed => exact ⟨received, List.prefix_rfl, holds⟩
      | timedOut => exact ih (attempt + 1) holds
      | ready =>
          dsimp only
          split
          · exact ⟨received, List.prefix_rfl, holds⟩
          · next bytes arrived =>
            have later := holds.receive (peer.read_fits _ _ _ arrived).2
            have grown : received <+: received ++ bytes := List.prefix_append _ _
            split
            · exact ⟨received ++ bytes, grown, later⟩
            · obtain ⟨received', more, holds'⟩ := ih (attempt + 1) later
              exact ⟨received', grown.trans more, holds'⟩

/-! ## A response in pieces -/

/-- A service that lets everything succeed and gives one piece of its response at each attempt,
then the end of the file. -/
def Peer.delivering (pieces : List (List UInt8)) : Peer where
  opened := true
  connected := true
  send command := command.length
  poll _ := .ready
  read attempt room := (pieces[attempt]?.map (List.take room)).filter (· ≠ [])
  read_fits attempt room bytes arrived := by
    obtain ⟨taken, nonempty⟩ := Option.filter_eq_some_iff.mp arrived
    obtain ⟨piece, -, rfl⟩ := Option.map_eq_some_iff.mp taken
    exact ⟨of_decide_eq_true nonempty, List.length_take_le _ _⟩

section Pieces

variable {pieces rest : List (List UInt8)} {stream : List UInt8}

theorem read_delivering {attempt room : Nat} {piece : List UInt8}
    (here : pieces[attempt]? = some piece) (nonempty : piece ≠ []) (fits : piece.length ≤ room) :
    (Peer.delivering pieces).read attempt room = some piece := by
  rw [Peer.delivering]
  simp only [here, Option.map_some, List.take_of_length_le fits]
  exact Option.filter_some_pos (decide_eq_true nonempty)

theorem read_delivering_end {attempt room : Nat} (behind : pieces[attempt]? = none) :
    (Peer.delivering pieces).read attempt room = none := by
  rw [Peer.delivering]
  simp only [behind, Option.map_none, Option.filter_none]

theorem responseLoop_delivering {attempts attempt : Nat} {response : Response}
    {received : List UInt8} (holds : response.Holds received)
    (left : pieces.drop attempt = rest) (nonempty : [] ∉ rest) (few : rest.length ≤ attempts)
    (short : received.length + rest.flatten.length < responseSize) :
    ∃ response', responseLoop (.delivering pieces) attempts attempt response = (response', []) ∧
      response'.Holds (Pieces.collect enough received rest) := by
  induction rest generalizing attempts attempt response received with
  | nil =>
      refine ⟨response, ?_, holds⟩
      cases attempts with
      | zero => rfl
      | succ attempts =>
          have behind : pieces[attempt]? = none := by
            rw [← List.head?_drop, left]
            rfl
          rw [responseLoop]
          simp only [read_delivering_end behind]
          rfl
  | cons piece rest ih =>
      obtain ⟨attempts, rfl⟩ := Nat.exists_eq_succ_of_ne_zero (Nat.ne_of_gt (Nat.zero_lt_of_lt few))
      rw [List.flatten_cons, List.length_append] at short
      have here : pieces[attempt]? = some piece := by
        rw [← List.head?_drop, left]
        rfl
      have left' : pieces.drop (attempt + 1) = rest := by
        rw [← List.drop_drop, left]
        rfl
      have some_piece : piece ≠ [] := fun empty => nonempty (empty ▸ List.mem_cons_self)
      have fits : piece.length ≤ responseSize - response.used - 1 := by
        rw [holds.used]
        omega
      have later := holds.receive fits
      rw [responseLoop, Pieces.collect, ← later.complete]
      simp only [read_delivering here some_piece fits]
      by_cases stopped : (response.receive piece).complete = true
      · exact ⟨response.receive piece, if_pos stopped, (if_pos stopped).symm ▸ later⟩
      · obtain ⟨response', ran, holds'⟩ := @ih attempts (attempt + 1) _ _ later left'
          (fun here => nonempty (List.mem_cons_of_mem _ here)) (Nat.le_of_succ_le_succ few)
          (by rw [List.length_append]; omega)
        rw [if_neg stopped, if_neg stopped]
        exact ⟨response', ran, holds'⟩

end Pieces

/-! ## The verdict -/

/-- The commands that are let through. -/
inductive Query where
  | cpin
  | esims
  | cfun

def Query.text : Query → CString
  | .cpin => ascii "AT+CPIN?"
  | .esims => ascii "AT+ESIMS?"
  | .cfun => ascii "AT+CFUN?"

/-- How the tool ends when it gets its response in these pieces. -/
def exitStatus (program : CString) (query : Query) (pieces : List (List UInt8)) : ExitStatus :=
  (main (.delivering pieces) [program, query.text]).status

/-- The tool succeeds if the response has an `OK`, however the response is cut into reads, and
what it has collected fits its buffer after any of its attempts. -/
structure VerdictSound (program : CString) (query : Query) (stream : List UInt8) : Prop where
  same : ∀ cut cut' : Pieces.Cut stream 20,
    exitStatus program query cut.pieces = exitStatus program query cut'.pieces
  success : ∀ cut : Pieces.Cut stream 20,
    exitStatus program query cut.pieces = .success ↔ ascii "OK" <:+: stream
  bounded : ∀ (cut : Pieces.Cut stream 20) (attempts : Nat), attempts ≤ 20 →
    (responseLoop (.delivering cut.pieces) attempts 0 .initial).1.used ≤ 4095

/-- There is no `OK`, or there is one behind which nothing matters: neither a zero byte nor an
`ERROR` comes before it is complete. -/
def AnswerFirst (stream : List UInt8) : Prop :=
  ¬ ascii "OK" <:+: stream ∨
    ∃ answer, answer <+: stream ∧ 0 ∉ answer ∧ ascii "OK" <:+: answer ∧
      ¬ ascii "ERROR" <:+: answer

section Verdict

variable {program : CString} {query : Query} {stream received : List UInt8}

theorem converse_delivering {pieces : List (List UInt8)} {response : Response} (arg : CString)
    (ran : responseLoop (.delivering pieces) 20 0 .initial = (response, [])) :
    (converse (.delivering pieces) arg).status =
      if response.used = 0 then .failure
      else if (CString.strstr response.text (ascii "OK")).isSome then .success
      else .failure := by
  have opened : (Peer.delivering pieces).opened = true := rfl
  have connected : (Peer.delivering pieces).connected = true := rfl
  have sent : ∀ command, (Peer.delivering pieces).send command = command.length := fun _ => rfl
  simp only [converse, opened, connected, sent, ran, Bool.not_true, Bool.false_eq_true, if_false,
    ne_eq, not_true_eq_false]
  split <;> rfl

theorem isQuery_text (query : Query) : isQuery query.text = true := by
  cases query <;> decide

theorem exitStatus_success_iff (some_stream : stream ≠ []) (short : stream.length ≤ 4095)
    (cut : Pieces.Cut stream 20) :
    exitStatus program query cut.pieces = .success ↔
      ascii "OK" <:+: textOf (Pieces.collect enough [] cut.pieces) := by
  have room : ([] : List UInt8).length + cut.pieces.flatten.length < responseSize := by
    rw [cut.whole]
    exact Nat.lt_of_le_of_lt (Nat.le_of_eq (Nat.zero_add _)) (Nat.lt_succ_of_le short)
  have left : cut.pieces.drop 0 = cut.pieces := rfl
  obtain ⟨response, ran, holds⟩ :=
    responseLoop_delivering .initial left cut.nonempty cut.few room
  have some_piece : cut.pieces ≠ [] := by
    intro none
    have whole := cut.whole
    rw [none, List.flatten_nil] at whole
    exact some_stream whole.symm
  have used : response.used ≠ 0 := by
    rw [holds.used]
    exact fun zero => Pieces.collect_ne_nil some_piece cut.nonempty
      (List.eq_nil_of_length_eq_zero zero)
  rw [← CString.strstr_isSome_iff, ← holds.text]
  have status : exitStatus program query cut.pieces =
      if (CString.strstr response.text (ascii "OK")).isSome then .success else .failure := by
    rw [exitStatus, main, if_pos (isQuery_text query), converse_delivering _ ran, if_neg used]
  rw [status]
  split <;> simp [*]

theorem textOf_isPrefix (received : List UInt8) : textOf received <+: received :=
  List.takeWhile_prefix _

theorem textOf_of_whole (whole : 0 ∉ received) : textOf received = received := by
  rw [textOf, List.takeWhile_eq_self_iff]
  intro byte here
  exact decide_eq_true fun zero => whole (zero ▸ here)

theorem zero_not_mem_textOf (received : List UInt8) : 0 ∉ textOf received := by
  intro here
  have nonzero := List.mem_takeWhile_imp here
  exact of_decide_eq_true nonzero rfl

theorem prefix_textOf {answer : List UInt8} (inside : answer <+: received) (whole : 0 ∉ answer) :
    answer <+: textOf received := by
  obtain ⟨rest, rfl⟩ := inside
  rw [textOf, List.takeWhile_append_of_pos]
  · exact List.prefix_append _ _
  · exact fun byte here => decide_eq_true fun zero => whole (zero ▸ here)

theorem enough_iff : enough received = true ↔
    ascii "OK" <:+: textOf received ∨ ascii "ERROR" <:+: textOf received ∨
      received.length = 4095 := by
  rw [enough, Bool.or_eq_true, Bool.or_eq_true, CString.strstr_isSome_iff,
    CString.strstr_isSome_iff, beq_iff_eq, or_assoc]
  rfl

theorem error_before {before : List UInt8} {last : UInt8} (missing : ¬ ascii "OK" <:+: before)
    (found : ascii "OK" <:+: before ++ [last]) (error : ascii "ERROR" <:+: before ++ [last]) :
    ascii "ERROR" <:+: before := by
  rcases List.infix_concat_iff.mp error with endsHere | earlier
  · have lastIs {text : CString} (ends : text <:+ before ++ [last]) (some_text : text ≠ []) :
        text.getLast some_text = last := by
      rw [ends.getLast some_text, List.getLast_concat]
    have okEnds := (List.infix_concat_iff.mp found).resolve_right missing
    have k : (75 : UInt8) = last := lastIs okEnds (by decide)
    have r : (82 : UInt8) = last := lastIs endsHere (by decide)
    exact absurd (k.trans r.symm) (by decide)
  · exact earlier

/-- The verdict is right wherever the loop may end. -/
def RightAtEnds (stream : List UInt8) : Prop :=
  ∀ front, front <+: stream → front ≠ [] → (front = stream ∨ enough front = true) →
    (ascii "OK" <:+: textOf front ↔ ascii "OK" <:+: stream)

theorem RightAtEnds.answerFirst (right : RightAtEnds stream) (some_stream : stream ≠ []) :
    AnswerFirst stream := by
  by_cases answered : ascii "OK" <:+: stream
  · have whole := (right stream List.prefix_rfl some_stream (.inl rfl)).mpr answered
    obtain ⟨before, last, inside, missing, found⟩ :=
      Pieces.exists_first (P := fun text => ascii "OK" <:+: text) (by decide) whole
    have clean : 0 ∉ before ++ [last] := fun here =>
      zero_not_mem_textOf stream (inside.subset here)
    refine .inr
      ⟨before ++ [last], inside.trans (textOf_isPrefix stream), clean, found, fun error => ?_⟩
    have error := error_before missing found error
    have clean : 0 ∉ before := fun here => clean (List.mem_append_left _ here)
    -- the loop may end right here, where only the `ERROR` is seen
    have seen := right before
      ((List.prefix_append before [last]).trans (inside.trans (textOf_isPrefix stream)))
      (fun nothing => by rw [nothing] at error; exact absurd error (by decide))
      (.inr (enough_iff.mpr (.inr (.inl (by rw [textOf_of_whole clean]; exact error)))))
    rw [textOf_of_whole clean] at seen
    exact missing (seen.mpr answered)
  · exact .inl answered

theorem AnswerFirst.rightAtEnds (first : AnswerFirst stream) (short : stream.length ≤ 4095) :
    RightAtEnds stream := by
  intro front inside some_front ended
  have no_more : ascii "OK" <:+: textOf front → ascii "OK" <:+: stream := fun seen =>
    seen.trans ((textOf_isPrefix front).isInfix.trans inside.isInfix)
  refine ⟨no_more, fun answered => ?_⟩
  obtain ⟨answer, start, clean, ok, noError⟩ := first.resolve_left (not_not_intro answered)
  rcases List.prefix_or_prefix_of_prefix start inside with seen | cut
  · exact ok.trans (prefix_textOf seen clean).isInfix
  · have text : textOf front = front := textOf_of_whole fun here => clean (cut.subset here)
    have all : front.length = stream.length → ascii "OK" <:+: textOf front := by
      intro same
      have last : front = answer := cut.eq_of_length_le (by rw [same]; exact start.length_le)
      rw [text, last]
      exact ok
    rcases ended with rfl | held
    · exact all rfl
    · rcases enough_iff.mp held with seen | error | full
      · exact seen
      · rw [text] at error
        exact absurd (error.trans cut.isInfix) noError
      · exact all (Nat.le_antisymm inside.length_le (by omega))

theorem rightAtEnds_iff (short : stream.length ≤ 4095) (some_stream : stream ≠ []) :
    RightAtEnds stream ↔ AnswerFirst stream :=
  ⟨fun right => right.answerFirst some_stream, fun first => first.rightAtEnds short⟩

/-- Over all cuts, the verdict is on whether there is an `OK`, exactly if the answer comes
first. -/
theorem verdicts_iff (short : stream.length ≤ 4095) (some_stream : stream ≠ []) :
    (∀ cut : Pieces.Cut stream 20,
        exitStatus program query cut.pieces = .success ↔ ascii "OK" <:+: stream) ↔
      AnswerFirst stream := by
  rw [← rightAtEnds_iff short some_stream, RightAtEnds]
  rw [← Pieces.forall_cut_iff (P := fun front =>
    ascii "OK" <:+: textOf front ↔ ascii "OK" <:+: stream) some_stream (Nat.le_add_left 2 18)]
  exact forall_congr' fun cut =>
    iff_congr (exitStatus_success_iff some_stream short cut) Iff.rfl

/-- However the response is cut, the tool's verdict is whether it has an `OK`, exactly if the
answer comes first. -/
theorem verdict_sound_iff (program : CString) (query : Query) (stream : List UInt8)
    (some_bytes : 1 ≤ stream.length) (short : stream.length ≤ 4095) :
    VerdictSound program query stream ↔ AnswerFirst stream := by
  have some_stream : stream ≠ [] := List.ne_nil_of_length_pos some_bytes
  refine ⟨fun sound => (verdicts_iff short some_stream).mp sound.success, fun first => ?_⟩
  have success : ∀ cut : Pieces.Cut stream 20,
      exitStatus program query cut.pieces = .success ↔ ascii "OK" <:+: stream :=
    (verdicts_iff short some_stream).mpr first
  refine ⟨fun cut cut' => ?_, success, fun cut attempts _ => ?_⟩
  · have same := (success cut).trans (success cut').symm
    cases status : exitStatus program query cut.pieces with
    | success => exact (same.mp status).symm
    | failure =>
        cases status' : exitStatus program query cut'.pieces with
        | success => exact absurd (same.mpr status') (by rw [status]; decide)
        | failure => rfl
  · obtain ⟨received, -, holds⟩ :=
      responseLoop_holds (.delivering cut.pieces) attempts 0 Response.Holds.initial
    rw [holds.used]
    exact Nat.le_of_lt_succ holds.room

theorem verdict_sound_ok :
    VerdictSound (ascii "atci_query") .cfun (ascii "+CFUN: 1\r\nOK\r\n") :=
  (verdict_sound_iff _ _ _ (by decide) (by decide)).mpr
    (.inr ⟨ascii "+CFUN: 1\r\nOK", by decide, by decide, by decide, by decide⟩)

/-- An `ERROR` that is read for itself, before the answer. -/
def errorFirst : Pieces.Cut (ascii "ERROR\r\nOK\r\n") 20 where
  pieces := [ascii "ERROR\r\n", ascii "OK\r\n"]
  whole := by decide
  nonempty := by decide
  few := by decide

/-- The answer is not waited for then. -/
theorem verdict_not_sound :
    ¬ ∀ program query stream, 1 ≤ stream.length → stream.length ≤ 4095 →
      VerdictSound program query stream := by
  intro all
  have sound := all [] .cpin (ascii "ERROR\r\nOK\r\n") (by decide) (by decide)
  have success := (sound.success errorFirst).mpr (by decide)
  rw [exitStatus_success_iff (by decide) (by decide)] at success
  exact absurd success (by decide)

end Verdict

end Mt6757.Tools.Atci
