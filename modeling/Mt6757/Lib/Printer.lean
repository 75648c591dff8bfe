import Mt6757.Lib.CharMemory

/-!
# Texts printed in pieces

A function that prints a text piece by piece into a buffer: each piece goes behind the ones
before it, and the first that does not fit ends the function.  It leaves in memory what one
`snprintf` of the whole text would leave there.
-/

set_option autoImplicit false

structure CharStore where
  place : CharPtr
  bytes : List UInt8

/-- No byte of the store is outside the `n` places from a pointer on. -/
def CharStore.Within (store : CharStore) (p : CharPtr) (n : Nat) : Prop :=
  store.place.object = p.object ∧ p.offset ≤ store.place.offset ∧
    store.place.offset + store.bytes.length ≤ p.offset + n

def Memory.store (mem : Memory) (store : CharStore) : Memory := mem.write store.place store.bytes

structure Buffer (mem : Memory) where
  start : CharPtr
  size : Nat
  inside : start.offset + size ≤ (mem start.object).length

namespace Memory

variable {mem : Memory} {p : CharPtr} {size : Nat} {text rest : CString}

theorem write_nil : mem.write p [] = mem := by
  rw [write, List.append_nil, List.length_nil, Nat.add_zero, List.take_append_drop,
    Function.update_eq_self]

theorem write_write (inside : p.offset + text.length ≤ (mem p.object).length) {last : UInt8}
    (nonempty : rest ≠ []) :
    (mem.write p (text ++ [last])).write (p.add text.length) rest = mem.write p (text ++ rest) := by
  obtain ⟨byte, later, rfl⟩ := List.exists_cons_of_ne_nil nonempty
  funext object
  by_cases same : object = p.object
  · subst same
    have start : ((mem p.object).take p.offset).length = p.offset := by
      rw [List.length_take]
      omega
    have front : ((mem p.object).take p.offset ++ text).length = p.offset + text.length := by
      rw [List.length_append, start]
    have layout : (mem p.object).take p.offset ++ (text ++ [last]) ++
        (mem p.object).drop (p.offset + (text ++ [last]).length) =
          (mem p.object).take p.offset ++ text ++
            last :: (mem p.object).drop (p.offset + text.length + 1) := by
      simp [Nat.add_assoc]
    have behind : p.offset + (text ++ byte :: later).length =
        p.offset + text.length + 1 + later.length := by
      rw [List.length_append, List.length_cons]
      omega
    simp only [write, CharPtr.add, Function.update_self]
    rw [layout, ← front, List.take_left, List.length_cons, ← List.drop_drop, List.drop_left,
      List.drop_succ_cons, List.drop_drop, front, behind]
    simp only [List.append_assoc]
  · simp only [write, CharPtr.add, Function.update_of_ne same]

theorem snprintf_snprintf (inside : p.offset + size ≤ (mem p.object).length)
    (fits : text.length < size) :
    (mem.snprintf p size text).snprintf (p.add text.length) (size - text.length) rest =
      mem.snprintf p size (text ++ rest) := by
  have whole : text.take (size - 1) = text := List.take_of_length_le (by omega)
  rw [snprintf, snprintf, snprintf, if_neg (by omega), if_neg (by omega), if_neg (by omega), whole,
    write_write (by omega) (List.append_ne_nil_of_right_ne_nil _ (List.cons_ne_nil _ _)),
    List.take_append, whole, List.append_assoc]
  congr 4
  omega

theorem snprintf_cut (long : size ≤ text.length) :
    mem.snprintf p size (text ++ rest) = mem.snprintf p size text := by
  rw [snprintf, snprintf, List.take_append_of_le_length (by omega)]

theorem length_snprintf (inside : p.offset + size ≤ (mem p.object).length) (object : Nat) :
    (mem.snprintf p size text object).length = (mem object).length := by
  rw [snprintf]
  split
  · rfl
  · refine length_write ?_ object
    rw [List.length_append, List.length_take, List.length_singleton]
    omega

theorem bytes_snprintf (inside : p.offset + size ≤ (mem p.object).length)
    (fits : text.length < size) :
    (mem.snprintf p size text).bytes p = text ++ 0 :: (mem.bytes p).drop (text.length + 1) := by
  have whole : text.take (size - 1) = text := List.take_of_length_le (by omega)
  rw [snprintf, if_neg (by omega), whole, bytes_write_self (by omega), List.append_assoc,
    List.length_append, List.length_singleton, List.singleton_append]

end Memory

/-! ## Programs that print -/

/-- `pos`, memory, and what was stored so far. -/
structure PrintState where
  mem : Memory
  pos : CharPtr
  stores : List CharStore

/-- A computation that a piece without room ends. -/
abbrev Printer := OptionT (StateM PrintState)

namespace Printer

/-- The result of `snprintf` is an `int`, and negative where the text is too long for one. -/
def result (text : CString) : Int := if text.length < 2 ^ 31 then text.length else -1

def stored (p : CharPtr) (size : Nat) (text : CString) : List CharStore :=
  if size = 0 then [] else [⟨p, text.take (size - 1) ++ [0]⟩]

/-- `ret = snprintf(pos, end - pos, …)`; the function goes on behind the text if
`0 <= ret && ret < end - pos`. -/
def print (stop : CharPtr) (text : CString) : Printer Unit := fun state =>
  let room : Int := stop.offset - state.pos.offset
  let ret := result text
  let printed : PrintState :=
    { state with
      mem := state.mem.snprintf state.pos room.toNat text
      stores := state.stores ++ stored state.pos room.toNat text }
  if ret < 0 ∨ ret ≥ room then (none, printed)
  else (some (), { printed with pos := state.pos.add ret.toNat })

def printAll (stop : CharPtr) : List CString → Printer Unit
  | [] => pure ()
  | text :: rest => do
      print stop text
      printAll stop rest

theorem run_bind (program next : Printer Unit) (state : PrintState) :
    (do program; next : Printer Unit) state =
      match program state with
      | (some (), state') => next state'
      | (none, state') => (none, state') := by
  simp only [bind, OptionT.bind, OptionT.mk, StateT.bind]
  cases program state with
  | mk outcome state' => cases outcome <;> rfl

section Rules
variable {stop : CharPtr} {program program' : Printer Unit} {text text' : CString}

/-- The program prints the text in some pieces and does nothing else. -/
def Writes (stop : CharPtr) (program : Printer Unit) (text : CString) : Prop :=
  ∃ pieces, program = printAll stop pieces ∧ pieces.flatten = text

theorem printAll_append (pieces pieces' : List CString) :
    printAll stop (pieces ++ pieces') = (do printAll stop pieces; printAll stop pieces') := by
  induction pieces with
  | nil => exact (pure_bind () fun _ => printAll stop pieces').symm
  | cons piece rest ih => rw [List.cons_append, printAll, printAll, ih, bind_assoc]

theorem printAll_singleton (piece : CString) : printAll stop [piece] = print stop piece :=
  bind_pure (print stop piece)

theorem writes_nothing : Writes stop (pure ()) [] := ⟨[], rfl, rfl⟩

theorem writes_print (piece : CString) : Writes stop (print stop piece) piece :=
  ⟨[piece], (printAll_singleton piece).symm, List.flatten_singleton⟩

theorem Writes.bind (first : Writes stop program text) (second : Writes stop program' text') :
    Writes stop (do program; program') (text ++ text') := by
  obtain ⟨pieces, rfl, rfl⟩ := first
  obtain ⟨pieces', rfl, rfl⟩ := second
  exact ⟨pieces ++ pieces', (printAll_append pieces pieces').symm, List.flatten_append⟩

theorem Writes.ite {condition : Prop} [Decidable condition] (first : Writes stop program text)
    (second : Writes stop program' text') :
    Writes stop (if condition then program else program') (if condition then text else text') := by
  split
  · exact first
  · exact second

theorem writes_forM {α : Type} {body : α → Printer Unit} {textOf : α → CString}
    (turn : ∀ item, Writes stop (body item) (textOf item)) (items : List α) :
    Writes stop (items.forM body) (items.flatMap textOf) := by
  induction items with
  | nil => exact writes_nothing
  | cons item items ih => exact (turn item).bind ih

end Rules

/-! ## What a run leaves -/

/-- What is left to print into, lies in the object that is printed into. -/
structure Ready (stop : CharPtr) (state : PrintState) : Prop where
  before : state.pos.offset ≤ stop.offset
  inside : stop.offset ≤ (state.mem state.pos.object).length

def room (stop : CharPtr) (state : PrintState) : Nat := stop.offset - state.pos.offset

/-- A run ended as if the text had been printed at once. -/
structure Printed (stop : CharPtr) (text : CString) (before : PrintState)
    (ended : Option Unit × PrintState) : Prop where
  mem : ended.2.mem = before.mem.snprintf before.pos (room stop before) text
  fits : ended.1 = some () ↔ text.length < room stop before
  pos : ended.1 = some () → ended.2.pos = before.pos.add text.length
  stores : ∃ new, ended.2.stores = before.stores ++ new ∧
    (∀ store ∈ new, store.Within before.pos (room stop before)) ∧
    ended.2.mem = new.foldl Memory.store before.mem

section Runs
variable {stop : CharPtr} {before : PrintState} {ended ended' : Option Unit × PrintState}
  {text rest : CString}

theorem printed_print (ready : Ready stop before) (short : text.length < 2 ^ 31) :
    Printed stop text before (print stop text before) := by
  have below := ready.before
  have size : ((stop.offset : Int) - before.pos.offset).toNat = room stop before := by
    rw [room]
    omega
  have ret : result text = text.length := if_pos short
  have test : (result text < 0 ∨ result text ≥ (stop.offset : Int) - before.pos.offset) ↔
      ¬ text.length < room stop before := by
    rw [ret, room]
    omega
  have stored : ∀ store ∈ stored before.pos (room stop before) text,
      store.Within before.pos (room stop before) := by
    intro store here
    rw [Printer.stored] at here
    split at here
    · cases here
    · obtain rfl := List.mem_singleton.mp here
      refine ⟨rfl, Nat.le_refl _, Nat.add_le_add_left ?_ _⟩
      rw [List.length_append, List.length_take, List.length_singleton]
      omega
  have replayed : before.mem.snprintf before.pos (room stop before) text =
      (Printer.stored before.pos (room stop before) text).foldl Memory.store before.mem := by
    rw [Memory.snprintf, Printer.stored]
    split
    · rfl
    · rfl
  by_cases fits : text.length < room stop before
  · have ran : print stop text before = (some (),
        { mem := before.mem.snprintf before.pos (room stop before) text
          pos := before.pos.add text.length
          stores := before.stores ++ Printer.stored before.pos (room stop before) text }) := by
      simp only [print, size]
      rw [if_neg fun failed => test.mp failed fits, ret, Int.toNat_natCast]
    rw [ran]
    exact ⟨rfl, ⟨fun _ => fits, fun _ => rfl⟩, fun _ => rfl, _, rfl, stored, replayed⟩
  · have ran : print stop text before = (none,
        { mem := before.mem.snprintf before.pos (room stop before) text
          pos := before.pos
          stores := before.stores ++ Printer.stored before.pos (room stop before) text }) := by
      simp only [print, size]
      rw [if_pos (test.mpr fits)]
    rw [ran]
    exact ⟨rfl, ⟨fun impossible => (nomatch impossible), fun here => absurd here fits⟩,
      fun impossible => (nomatch impossible), _, rfl, stored, replayed⟩

theorem Printed.cut (printed : Printed stop text before ended) (failed : ended.1 ≠ some ())
    (rest : CString) : Printed stop (text ++ rest) before ended := by
  have long : room stop before ≤ text.length := Nat.le_of_not_lt (failed ∘ printed.fits.mpr)
  refine ⟨?_, ⟨fun here => absurd here failed, fun fits => ?_⟩, fun here => absurd here failed,
    printed.stores⟩
  · rw [printed.mem, Memory.snprintf_cut long]
  · rw [List.length_append] at fits
    omega

theorem Printed.next (printed : Printed stop text before ended) (ready : Ready stop before)
    (ok : ended.1 = some ()) (later : Printed stop rest ended.2 ended') :
    Printed stop (text ++ rest) before ended' := by
  have below := ready.before
  have inside := ready.inside
  have fits := printed.fits.mp ok
  have pos := printed.pos ok
  have offset : ended.2.pos.offset = before.pos.offset + text.length := by rw [pos]; rfl
  have left : room stop ended.2 = room stop before - text.length := by
    rw [room, room, offset]
    omega
  have room_le : before.pos.offset + room stop before ≤ (before.mem before.pos.object).length := by
    rw [room]
    omega
  constructor
  · rw [later.mem, printed.mem, pos, left]
    exact Memory.snprintf_snprintf room_le fits
  · rw [later.fits, left, List.length_append]
    omega
  · intro ok'
    rw [later.pos ok', pos, CharPtr.add, CharPtr.add, CharPtr.add, List.length_append,
      Nat.add_assoc]
  · obtain ⟨first, grown, within, replayed⟩ := printed.stores
    obtain ⟨second, grown', within', replayed'⟩ := later.stores
    refine ⟨first ++ second, ?_, ?_, ?_⟩
    · rw [grown', grown, List.append_assoc]
    · intro store here
      rcases List.mem_append.mp here with early | late
      · exact within store early
      · obtain ⟨object, start, end'⟩ := within' store late
        rw [offset] at start
        rw [offset, left] at end'
        refine ⟨?_, by omega, by omega⟩
        rw [object, pos, CharPtr.add]
    · rw [List.foldl_append, ← replayed, replayed']

theorem Printed.ready (printed : Printed stop text before ended) (ready : Ready stop before)
    (ok : ended.1 = some ()) : Ready stop ended.2 := by
  have below := ready.before
  have inside := ready.inside
  have fits := printed.fits.mp ok
  have pos := printed.pos ok
  have room_le : before.pos.offset + room stop before ≤ (before.mem before.pos.object).length := by
    rw [room]
    omega
  have offset : ended.2.pos.offset = before.pos.offset + text.length := by rw [pos]; rfl
  rw [room] at fits
  constructor
  · rw [offset]
    omega
  · rw [pos, printed.mem, CharPtr.add, Memory.length_snprintf room_le]
    exact inside

theorem printed_printAll (texts : List CString) (text : CString) (ready : Ready stop before)
    (short : ∀ piece ∈ text :: texts, piece.length < 2 ^ 31) :
    Printed stop (text :: texts).flatten before (printAll stop (text :: texts) before) := by
  induction texts generalizing text before with
  | nil =>
      rw [printAll_singleton, List.flatten_singleton]
      exact printed_print ready (short text List.mem_cons_self)
  | cons next texts ih =>
      have first := printed_print ready (short text List.mem_cons_self)
      rw [List.flatten_cons]
      cases ran : print stop text before with
      | mk outcome state =>
          rw [ran] at first
          cases outcome with
          | none =>
              have all : printAll stop (text :: next :: texts) before = (none, state) := by
                rw [printAll, run_bind, ran]
              rw [all]
              exact first.cut (fun impossible => nomatch impossible) _
          | some done =>
              have all : printAll stop (text :: next :: texts) before =
                  printAll stop (next :: texts) state := by
                rw [printAll, run_bind, ran]
              rw [all]
              have ready' := first.ready ready rfl
              exact first.next ready rfl
                (ih next ready' fun piece here => short piece (List.mem_cons_of_mem _ here))

/-- A program that prints a text in pieces leaves what one call for the whole text leaves. -/
theorem Writes.printed {program : Printer Unit} (writes : Writes stop program text)
    (nonempty : text ≠ []) (short : text.length < 2 ^ 31) (ready : Ready stop before) :
    Printed stop text before (program before) := by
  obtain ⟨pieces, rfl, rfl⟩ := writes
  cases pieces with
  | nil => exact absurd List.flatten_nil nonempty
  | cons piece pieces =>
      refine printed_printAll pieces piece ready fun each here => ?_
      exact lt_of_le_of_lt (List.sublist_flatten_of_mem here).length_le short

end Runs

end Printer
