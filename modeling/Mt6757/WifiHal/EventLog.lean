import Mt6757.Lib.CharMemory
import Mt6757.Lib.MemAccess
import Mt6757.Lib.Numeral
import Mt6757.Lib.Splice

/-!
# The log of an event

`WifiEvent::log` prints the attributes of a message, sixteen bytes to a line: in hexadecimal,
with a dash in the middle, and as characters.  A line is put together in a buffer of 81 bytes,
by calls of `vsprintf` that know no bound.
-/

set_option autoImplicit false

namespace Mt6757.WifiHal.EventLog

open CString (ascii hexByte)
open MemAccess (Safe)

/-! ## The log -/

def lineSize : Nat := 81

/-- `appendFmt` on a buffer and an offset in it. -/
def appendFmt (state : List UInt8 × Nat) (text : CString) :
    Traced MemAccess (List UInt8 × Nat) := do
  Traced.emit (.write state.2 (text.length + 1) lineSize)
  pure (Patch.put state.1 ⟨state.2, text ++ [0]⟩, state.2 + text.length)

def isprint (byte : UInt8) : Bool := 32 ≤ byte && byte < 127

/-- The texts that the first two loops append. -/
def hexTexts (data : List UInt8) : List CString :=
  match data with
  | [] => []
  | byte :: rest =>
      (hexByte byte :: rest.map fun byte => 32 :: hexByte byte) ++
        List.replicate (16 - data.length) (ascii "   ")

def charText (byte : UInt8) : CString := if isprint byte then [byte] else ascii "-"

/-- One turn of the loop over the message, with what its buffer holds before. -/
def logLine (line data : List UInt8) : Traced MemAccess CString := do
  let hex ← Traced.foldl appendFmt (line, 0) (hexTexts data)
  Traced.emit (.write 23 1 lineSize)
  let whole ← Traced.foldl appendFmt (hex.1.set 23 45, hex.2) (ascii "  " :: data.map charText)
  pure (whole.1.takeWhile (· ≠ 0))

def chunk (data : List UInt8) (i : Nat) : List UInt8 := (data.drop (16 * i)).take 16

/-- The lines of a message; `stack i` is what lies in the buffer in turn `i`. -/
def log (stack : Nat → List UInt8) (data : List UInt8) : Traced MemAccess (List CString) :=
  Traced.each (fun i => logLine (stack i) (chunk data i)) (List.range ((data.length + 15) / 16))

/-! ## Reading a line -/

def hexValue (high low : UInt8) : Option UInt8 :=
  match CString.digitValue high, CString.digitValue low with
  | some high, some low => some (UInt8.ofNat (16 * high + low))
  | _, _ => none

/-- Two digits, or two blanks, and whatever separates them from the next. -/
def readCells : CString → List UInt8
  | high :: low :: _ :: rest => (hexValue high low).toList ++ readCells rest
  | _ => []

/-- The bytes of a line are in its first 48 characters. -/
def readLine (line : CString) : List UInt8 := readCells (line.take 48)

/-! ## The buffer -/

section Buffer
variable {mem : Octets}

theorem put_append {text rest new : List UInt8} :
    Patch.put (text ++ rest) ⟨text.length, new⟩ = text ++ new ++ rest.drop new.length := by
  simp [Patch.put, splice, List.drop_append]

/-- The texts one after the other, and a terminator behind the last one. -/
theorem foldl_appendFmt (texts : List CString) {text rest : List UInt8}
    (size : (text ++ rest).length = lineSize) (fits : texts.flatten.length < rest.length) :
    Safe mem (Traced.foldl appendFmt (text ++ rest, text.length) texts) ∧
      ∃ behind, (Traced.foldl appendFmt (text ++ rest, text.length) texts).value =
          (text ++ texts.flatten ++ behind, text.length + texts.flatten.length) ∧
        (text ++ texts.flatten ++ behind).length = lineSize ∧
        (texts ≠ [] ∨ rest.head? = some 0 → behind.head? = some 0) := by
  induction texts generalizing text rest with
  | nil =>
      refine ⟨Traced.every_pure _, rest, ?_, ?_, ?_⟩
      · simp
      · simpa using size
      · simp
  | cons first texts ih =>
      rw [List.flatten_cons, List.length_append] at fits
      rw [List.length_append] at size
      have step : (appendFmt (text ++ rest, text.length) first).value =
          ((text ++ first) ++ 0 :: rest.drop (first.length + 1), (text ++ first).length) := by
        simp [appendFmt, put_append]
      obtain ⟨safe, behind, value, size', ended⟩ :=
        @ih (text ++ first) (0 :: rest.drop (first.length + 1)) (by
          simp only [List.length_append, List.length_cons, List.length_drop]
          omega) (by
          simp only [List.length_cons, List.length_drop]
          omega)
      rw [Traced.foldl_cons]
      refine ⟨?_, behind, ?_, ?_, fun _ => ended (.inr rfl)⟩
      · rw [Safe, Traced.every_bind, step]
        refine ⟨?_, safe⟩
        simp [appendFmt]
        omega
      · rw [Traced.value_bind, step, value]
        simp [Nat.add_assoc]
      · simpa using size'

end Buffer

/-! ## The text of a line -/

section Text
variable {data : List UInt8}

def cells (data : List UInt8) : CString := data.flatMap fun byte => hexByte byte ++ [32]

def blanks (cells : Nat) : CString := List.replicate (3 * cells) 32

theorem length_cells (data : List UInt8) : (cells data).length = 3 * data.length := by
  induction data with
  | nil => rfl
  | cons byte rest ih =>
      rw [cells, List.flatMap_cons, List.length_append, ← cells, ih]
      simp [hexByte]
      omega

/-- A blank moves from the front of each cell to its end. -/
theorem shift_blanks (data : List UInt8) :
    data.flatMap (fun byte => 32 :: hexByte byte) ++ [32] = 32 :: cells data := by
  induction data with
  | nil => rfl
  | cons byte rest ih =>
      rw [List.flatMap_cons, List.append_assoc, ih]
      simp [cells]

theorem flatten_padding (n : Nat) :
    (List.replicate n (ascii "   ")).flatten ++ [32] = 32 :: blanks n := by
  induction n with
  | zero => rfl
  | succ n ih =>
      have three : ascii "   " = [32, 32, 32] := rfl
      rw [List.replicate_succ, List.flatten_cons, List.append_assoc, ih, three, blanks, blanks,
        Nat.mul_succ, Nat.add_comm, List.replicate_add]
      rfl

theorem hexTexts_flatten (nonempty : data ≠ []) :
    (hexTexts data).flatten ++ [32] = cells data ++ blanks (16 - data.length) := by
  cases data with
  | nil => exact absurd rfl nonempty
  | cons byte rest =>
      have front : rest.flatMap (fun byte => 32 :: hexByte byte) ++
          ((List.replicate (16 - (byte :: rest).length) (ascii "   ")).flatten ++ [32]) =
            32 :: cells rest ++ blanks (16 - (byte :: rest).length) := by
        rw [flatten_padding, ← shift_blanks, List.append_assoc]
        rfl
      simp only [hexTexts, List.cons_append, List.flatten_cons, List.flatten_append,
        ← List.flatMap_def, List.append_assoc, front]
      simp [cells]

theorem length_hexTexts (nonempty : data ≠ []) (short : data.length ≤ 16) :
    (hexTexts data).flatten.length = 47 := by
  have length := congrArg List.length (hexTexts_flatten nonempty)
  rw [List.length_append, List.length_append, length_cells, blanks, List.length_replicate,
    List.length_singleton] at length
  omega

theorem readCells_set (line : CString) (k : Nat) (byte : UInt8) :
    readCells (line.set (3 * k + 2) byte) = readCells line := by
  induction k generalizing line with
  | zero =>
      match line with
      | [] | [_] | [_, _] => rfl
      | _ :: _ :: _ :: _ => rfl
  | succ k ih =>
      match line with
      | [] | [_] | [_, _] => rfl
      | high :: low :: separator :: rest =>
          have here : (high :: low :: separator :: rest).set (3 * (k + 1) + 2) byte =
              high :: low :: separator :: rest.set (3 * k + 2) byte := rfl
          rw [here, readCells, readCells, ih]

theorem digitValue_hexDigit {digit : Nat} (small : digit < 16) :
    CString.digitValue (CString.hexDigit digit) = some digit := by
  have each : ∀ digit : Fin 16, CString.digitValue (CString.hexDigit digit) = some digit.val := by
    decide
  exact each ⟨digit, small⟩

theorem hexValue_hexByte (byte : UInt8) :
    hexValue (CString.hexDigit (byte.toNat / 16)) (CString.hexDigit (byte.toNat % 16)) =
      some byte := by
  have small := byte.toNat_lt
  rw [hexValue, digitValue_hexDigit (by omega), digitValue_hexDigit (by omega)]
  dsimp only
  rw [Nat.div_add_mod, UInt8.ofNat_toNat]

theorem readCells_blanks (n : Nat) : readCells (blanks n) = [] := by
  induction n with
  | zero => rfl
  | succ n ih =>
      have here : blanks (n + 1) = 32 :: 32 :: 32 :: blanks n := by
        rw [blanks, blanks, Nat.mul_succ, Nat.add_comm, List.replicate_add]
        rfl
      rw [here, readCells, ih]
      rfl

theorem readCells_cells (data : List UInt8) (n : Nat) :
    readCells (cells data ++ blanks n) = data := by
  induction data with
  | nil => exact readCells_blanks n
  | cons byte rest ih =>
      have here : cells (byte :: rest) ++ blanks n =
          CString.hexDigit (byte.toNat / 16) :: CString.hexDigit (byte.toNat % 16) :: 32 ::
            (cells rest ++ blanks n) := by
        simp [cells, hexByte]
      rw [here, readCells, hexValue_hexByte, ih]
      rfl

end Text

/-! ## The lines -/

section Line
variable {mem : Octets} {data : List UInt8}

theorem zero_not_mem_hexByte (byte : UInt8) : 0 ∉ hexByte byte := by
  have each : ∀ digit : Fin 16, CString.hexDigit digit ≠ 0 := by decide
  have small := byte.toNat_lt
  simp only [hexByte, List.mem_cons, List.not_mem_nil, or_false, not_or]
  exact ⟨(each ⟨byte.toNat / 16, by omega⟩).symm, (each ⟨byte.toNat % 16, by omega⟩).symm⟩

theorem zero_not_mem_hexTexts (nonempty : data ≠ []) : 0 ∉ (hexTexts data).flatten := by
  intro here
  have there := List.mem_append_left [32] here
  rw [hexTexts_flatten nonempty, List.mem_append] at there
  rcases there with inCells | inBlanks
  · obtain ⟨byte, -, inCell⟩ := List.mem_flatMap.mp inCells
    rcases List.mem_append.mp inCell with digit | blank
    · exact zero_not_mem_hexByte byte digit
    · exact absurd (List.mem_singleton.mp blank) (by decide)
  · exact absurd (List.eq_of_mem_replicate inBlanks) (by decide)

theorem charText_spec (byte : UInt8) : (charText byte).length = 1 ∧ 0 ∉ charText byte := by
  rw [charText]
  split
  next printable =>
    refine ⟨rfl, fun here => ?_⟩
    rw [← List.mem_singleton.mp here] at printable
    exact absurd printable (by decide)
  next => exact ⟨rfl, by decide⟩

theorem charTexts_spec (data : List UInt8) :
    (data.map charText).flatten.length = data.length ∧ 0 ∉ (data.map charText).flatten := by
  induction data with
  | nil => exact ⟨rfl, List.not_mem_nil⟩
  | cons byte rest ih =>
      obtain ⟨length, whole⟩ := charText_spec byte
      rw [List.map_cons, List.flatten_cons, List.length_append, length, ih.1, List.length_cons]
      refine ⟨Nat.add_comm _ _, fun here => ?_⟩
      exact (List.mem_append.mp here).elim whole ih.2

/-- The text of a line: the cells, one of whose separators is a dash, and the characters. -/
def lineText (data : List UInt8) : CString :=
  (hexTexts data).flatten.set 23 45 ++ (ascii "  " ++ (data.map charText).flatten)

theorem zero_not_mem_lineText (nonempty : data ≠ []) : 0 ∉ lineText data := by
  intro here
  rcases List.mem_append.mp here with hex | chars
  · rcases List.mem_or_eq_of_mem_set hex with inHex | dash
    · exact zero_not_mem_hexTexts nonempty inHex
    · exact absurd dash (by decide)
  · rcases List.mem_append.mp chars with blank | char
    · exact absurd blank (by decide)
    · exact (charTexts_spec data).2 char

theorem logLine_spec {line : List UInt8} (size : line.length = lineSize) (nonempty : data ≠ [])
    (short : data.length ≤ 16) :
    Safe mem (logLine line data) ∧ (logLine line data).value = lineText data := by
  have hexLength := length_hexTexts nonempty short
  have whole : lineSize = 81 := rfl
  obtain ⟨safe, behind, value, size', ended⟩ :=
    @foldl_appendFmt mem (hexTexts data) [] line size (by omega)
  rw [List.nil_append, List.nil_append, List.length_nil, Nat.zero_add] at value
  rw [List.nil_append] at size' safe
  have some_text : hexTexts data ≠ [] := by
    intro none
    rw [none] at hexLength
    cases hexLength
  have terminated := ended (.inl some_text)
  have dashed : ((hexTexts data).flatten ++ behind).set 23 45 =
      (hexTexts data).flatten.set 23 45 ++ behind := List.set_append_left _ _ (by omega)
  have dashedLength : ((hexTexts data).flatten.set 23 45).length = 47 := by
    rw [List.length_set, hexLength]
  obtain ⟨charLength, -⟩ := charTexts_spec data
  have two : (ascii "  ").length = 2 := rfl
  rw [List.length_append] at size'
  obtain ⟨safe', behind', value', size'', ended'⟩ :=
    @foldl_appendFmt mem (ascii "  " :: data.map charText) ((hexTexts data).flatten.set 23 45)
      behind (by rw [List.length_append, List.length_set, size']) (by
        rw [List.flatten_cons, List.length_append, charLength, two]
        omega)
  have terminated' := ended' (.inl (List.cons_ne_nil _ _))
  rw [dashedLength] at safe' value'
  constructor
  · rw [logLine, Safe, Traced.every_bind, value, dashed, hexLength]
    refine ⟨safe, ?_⟩
    rw [Traced.every_bind, Traced.every_bind]
    exact ⟨by simp [lineSize], safe', Traced.every_pure _⟩
  · obtain ⟨rest, rfl⟩ : ∃ rest, behind' = 0 :: rest := by
      cases behind' with
      | nil => cases terminated'
      | cons byte rest => exact ⟨rest, by rw [Option.some.inj terminated']⟩
    have text : (hexTexts data).flatten.set 23 45 ++ (ascii "  " :: data.map charText).flatten ++
        0 :: rest = lineText data ++ 0 :: rest := by
      rw [List.flatten_cons, lineText]
    simp only [logLine, Traced.value_bind, Traced.value_pure]
    rw [value, dashed, hexLength, value', text]
    exact CString.takeWhile_append_zero (zero_not_mem_lineText nonempty)

/-- The dash stands where a blank between two bytes would, and hides none of them. -/
theorem readLine_lineText (nonempty : data ≠ []) (short : data.length ≤ 16) :
    readLine (lineText data) = data := by
  have hexLength := length_hexTexts nonempty short
  have front : (lineText data).take 48 = ((hexTexts data).flatten ++ [32]).set (3 * 7 + 2) 45 := by
    have blank : (ascii "  " ++ (data.map charText).flatten).take 1 = [32] := rfl
    rw [lineText, List.take_append, List.length_set, hexLength, blank,
      List.take_of_length_le (by rw [List.length_set, hexLength]; decide),
      List.set_append_left _ _ (by rw [hexLength]; decide)]
  rw [readLine, front, readCells_set, hexTexts_flatten nonempty, readCells_cells]

end Line

/-! ## The whole log -/

section Log
variable {mem : Octets} {data : List UInt8}

theorem chunk_nonempty {i : Nat} (turn : i < (data.length + 15) / 16) : chunk data i ≠ [] := by
  intro empty
  have length := congrArg List.length empty
  rw [chunk, List.length_take, List.length_drop, List.length_nil] at length
  omega

theorem length_chunk_le (data : List UInt8) (i : Nat) : (chunk data i).length ≤ 16 := by
  rw [chunk, List.length_take]
  exact Nat.min_le_left _ _

/-- The turns go through the message from its front. -/
theorem chunks_upTo (data : List UInt8) (turns : Nat) :
    (List.range turns).flatMap (chunk data) = data.take (16 * turns) := by
  induction turns with
  | zero => rfl
  | succ turns ih =>
      rw [List.range_succ, List.flatMap_append, ih, List.flatMap_singleton, chunk,
        Nat.mul_succ, List.take_add]

/-- No line overruns its buffer, and the lines, read back, are the whole message. -/
theorem log_reads_back {stack : Nat → List UInt8} (room : ∀ i, (stack i).length = lineSize)
    (data : List UInt8) :
    Safe mem (log stack data) ∧ (log stack data).value.flatMap readLine = data := by
  constructor
  · rw [Safe, log, Traced.every_each]
    intro i turn
    exact (logLine_spec (room i) (chunk_nonempty (List.mem_range.mp turn))
      (length_chunk_le data i)).1
  · have back : ∀ i ∈ List.range ((data.length + 15) / 16),
        readLine (logLine (stack i) (chunk data i)).value = chunk data i := by
      intro i turn
      have nonempty := chunk_nonempty (List.mem_range.mp turn)
      have short := length_chunk_le data i
      rw [(@logLine_spec mem _ _ (room i) nonempty short).2, readLine_lineText nonempty short]
    rw [log, Traced.value_each, List.flatMap_map, List.flatMap_congr back, chunks_upTo]
    exact List.take_of_length_le (by omega)

def countingData : List UInt8 := (List.range 18).map fun i => UInt8.ofNat (60 + i)

theorem log_reads_back_lines :
    Safe (fun _ => 0) (log (fun _ => List.replicate 81 7) countingData) ∧
      (log (fun _ => List.replicate 81 7) countingData).value.flatMap readLine = countingData ∧
      (log (fun _ => List.replicate 81 7) countingData).value =
        [ascii "3c 3d 3e 3f 40 41 42 43-44 45 46 47 48 49 4a 4b  <=>?@ABCDEFGHIJK",
          ascii "4c 4d                  -                         LM"] :=
  ⟨(log_reads_back (fun _ => List.length_replicate) _).1,
    (@log_reads_back (fun _ => 0) _ (fun _ => List.length_replicate) _).2, by decide +kernel⟩

end Log

end Mt6757.WifiHal.EventLog
