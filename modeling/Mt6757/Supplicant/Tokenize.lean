import Mt6757.Lib.CharMemory

/-!
# Splitting a command in place

`tokenize_space` walks over a string, overwrites each separator with a terminator
and collects where the words start.
-/

set_option autoImplicit false

namespace Mt6757.Supplicant

def isSeparator (byte : UInt8) : Bool := byte == 10 || byte == 32

/-- Where the loops of `tokenize_space` are when they look at a character: at the
start of the outer loop, inside the inner one, or behind an inner loop that the
length ended. -/
inductive ScanState where
  | entering
  | inside
  | broken
  deriving DecidableEq, Repr

def ScanState.enters (state : ScanState) (byte : UInt8) : Bool :=
  match state with
  | .entering => true
  | .inside => false
  | .broken => !(byte == 0 || isSeparator byte)

/-- The entries of `argv` as offsets, and the bytes that are left behind. -/
structure Scanned where
  argv : List Nat
  bytes : List UInt8

/-- Both loops of `tokenize_space`, from one character of the string on. -/
def scan (len : Nat) : List UInt8 → (pos : Nat) → ScanState → Scanned
  | [], _, _ => ⟨[], []⟩
  | byte :: rest, pos, state =>
      let entered := if state.enters byte then [pos] else []
      if byte = 0 then ⟨entered, byte :: rest⟩
      else if isSeparator byte then
        if pos + 1 ≥ len then ⟨entered, 0 :: rest⟩
        else
          let later := scan len rest (pos + 1) .entering
          ⟨entered ++ later.argv, 0 :: later.bytes⟩
      else
        let later := scan len rest (pos + 1) (if pos + 1 ≥ len then .broken else .inside)
        ⟨entered ++ later.argv, byte :: later.bytes⟩

def tokenizeSpace (mem : Memory) (cmd : CharPtr) (len : Nat) : List CharPtr × Memory :=
  let scanned := scan len (mem.bytes cmd) 0 .entering
  (scanned.argv.map cmd.add, mem.write cmd scanned.bytes)

/-! ## The words of a string -/

/-- The pieces between separators.  There is none after a final separator. -/
def words : CString → List CString
  | [] => [[]]
  | byte :: rest =>
      if isSeparator byte then [] :: (if rest = [] then [] else words rest)
      else (byte :: (words rest).headD []) :: (words rest).tail

def starts : CString → List Nat
  | [] => []
  | byte :: rest =>
      if isSeparator byte ∧ rest ≠ [] then 1 :: (starts rest).map (· + 1)
      else (starts rest).map (· + 1)

def cut (s : CString) : List UInt8 := s.map fun byte => if isSeparator byte then 0 else byte

theorem scan_spec {s : CString} {rest : List UInt8} {len pos : Nat} {state : ScanState}
    (whole : 0 ∉ s) (ends : pos + s.length = len) (atEnd : state = .broken → s = []) :
    scan len (s ++ 0 :: rest) pos state =
      ⟨(if state = .entering then [pos] else []) ++ (starts s).map (pos + ·),
        cut s ++ 0 :: rest⟩ := by
  induction s generalizing pos state with
  | nil => cases state <;> simp [scan, ScanState.enters, starts, cut, isSeparator]
  | cons byte s ih =>
      have nonzero : byte ≠ 0 := fun zero => whole (zero ▸ List.mem_cons_self)
      have wholeRest : 0 ∉ s := fun here => whole (List.mem_cons_of_mem _ here)
      have notBroken : state ≠ .broken := fun broken => List.cons_ne_nil _ _ (atEnd broken)
      have entered : (if state.enters byte then [pos] else []) =
          if state = .entering then [pos] else [] := by
        cases state <;> simp_all [ScanState.enters]
      have restEnds : pos + 1 + s.length = len := by rw [List.length_cons] at ends; omega
      have shift : (starts s).map (pos + 1 + ·) = ((starts s).map (· + 1)).map (pos + ·) := by
        rw [List.map_map]
        exact List.map_congr_left fun n _ => by simp only [Function.comp_apply]; omega
      simp only [List.cons_append, scan, entered, nonzero, if_false]
      split
      · rename_i separator
        split
        · rename_i atLast
          have nothing : s = [] := List.eq_nil_of_length_eq_zero (by omega)
          simp [nothing, starts, cut, separator]
        · rename_i more
          have something : s ≠ [] := by
            rintro rfl
            exact more (by simp at restEnds; omega)
          rw [ih wholeRest restEnds (by simp)]
          simp [starts, cut, separator, something, shift]
      · rename_i plain
        have nextBroken : (if pos + 1 ≥ len then ScanState.broken else .inside) = .broken →
            s = [] := by
          split
          · exact fun _ => List.eq_nil_of_length_eq_zero (by omega)
          · exact fun inside => absurd inside (by decide)
        have notEntering :
            (if pos + 1 ≥ len then ScanState.broken else .inside) ≠ .entering := by
          split <;> simp
        rw [ih wholeRest restEnds nextBroken, if_neg notEntering]
        simp [starts, cut, plain, shift]

theorem words_eq_map_starts {s : CString} (whole : 0 ∉ s) (rest : List UInt8) :
    (0 :: starts s).map (fun n => ((cut s ++ 0 :: rest).drop n).takeWhile (· ≠ 0)) = words s := by
  induction s with
  | nil => simp [starts, cut, words]
  | cons byte s ih =>
      have nonzero : byte ≠ 0 := fun zero => whole (zero ▸ List.mem_cons_self)
      have ih := ih fun here => whole (List.mem_cons_of_mem _ here)
      by_cases separator : isSeparator byte
      · by_cases last : s = []
        · simp [last, starts, cut, words, separator]
        · have zero : cut (byte :: s) = 0 :: cut s := by simp [cut, separator]
          have later : starts (byte :: s) = (0 :: starts s).map (· + 1) := by
            simp [starts, separator, last]
          rw [words, if_pos separator, if_neg last, ← ih, later, zero]
          simp [Function.comp_def]
      · have kept : cut (byte :: s) = byte :: cut s := by simp [cut, separator]
        have later : starts (byte :: s) = (starts s).map (· + 1) := by simp [starts, separator]
        rw [words, if_neg separator, ← ih, later, kept]
        simp [nonzero, Function.comp_def]

theorem tokenizeSpace_eq {mem : Memory} {cmd : CharPtr} {s : CString} {rest : List UInt8}
    (whole : 0 ∉ s) (here : mem.bytes cmd = s ++ 0 :: rest) :
    tokenizeSpace mem cmd s.length =
      ((0 :: starts s).map cmd.add, mem.write cmd (cut s ++ 0 :: rest)) := by
  have scanned : scan s.length (s ++ 0 :: rest) 0 .entering =
      ⟨[0] ++ (starts s).map (0 + ·), cut s ++ 0 :: rest⟩ :=
    scan_spec whole (by omega) (by simp)
  simp only [tokenizeSpace, here, scanned, Nat.zero_add, List.map_id', List.singleton_append]

theorem bytes_tokenized {mem : Memory} {cmd : CharPtr} {s : CString} {rest : List UInt8}
    (here : mem.bytes cmd = s ++ 0 :: rest) (n : Nat) :
    (mem.write cmd (cut s ++ 0 :: rest)).bytes (cmd.add n) = (cut s ++ 0 :: rest).drop n := by
  have inside : cmd.offset ≤ (mem cmd.object).length := by
    by_contra outside
    rw [Memory.bytes, List.drop_eq_nil_of_le (by omega)] at here
    simp at here
  have length : (cut s ++ 0 :: rest).length = (mem.bytes cmd).length := by simp [here, cut]
  exact Memory.bytes_write_add inside length n

theorem tokenizeSpace_words {mem : Memory} {cmd : CharPtr} {s : CString} {rest : List UInt8}
    (whole : 0 ∉ s) (here : mem.bytes cmd = s ++ 0 :: rest) :
    (tokenizeSpace mem cmd s.length).1.map (tokenizeSpace mem cmd s.length).2.string =
      words s := by
  rw [tokenizeSpace_eq whole here, List.map_map, ← words_eq_map_starts whole rest]
  apply List.map_congr_left
  intro n _
  simp only [Function.comp_apply, Memory.string, bytes_tokenized here]

theorem words_of_plain {s : CString} (plain : ∀ byte ∈ s, isSeparator byte = false) :
    words s = [s] := by
  induction s with
  | nil => rfl
  | cons byte s ih =>
      have ih := ih fun byte here => plain byte (List.mem_cons_of_mem _ here)
      simp [words, plain byte List.mem_cons_self, ih]

theorem words_append {s rest : CString} {byte : UInt8}
    (plain : ∀ byte ∈ s, isSeparator byte = false) (separator : isSeparator byte = true)
    (more : rest ≠ []) : words (s ++ byte :: rest) = s :: words rest := by
  induction s with
  | nil => simp [words, separator, more]
  | cons first s ih =>
      have ih := ih fun byte here => plain byte (List.mem_cons_of_mem _ here)
      simp [words, plain first List.mem_cons_self, ih]

/-! ## The array of words -/

/-- The pieces of a string between its separators, empty ones as well, but for the one behind
a final separator. -/
noncomputable def pieces (s : CString) : List CString :=
  if s.getLast?.any isSeparator then (s.splitOnP isSeparator).dropLast
  else s.splitOnP isSeparator

theorem splitOnP_of_last {s : CString} (last : s.getLast?.any isSeparator = true) :
    ∃ first second more, s.splitOnP isSeparator = first :: second :: more := by
  induction s with
  | nil => cases last
  | cons byte s ih =>
      rw [List.splitOnP_cons_eq_if_modifyHead]
      split
      · obtain ⟨first, more, split⟩ :=
          List.exists_cons_of_ne_nil (List.splitOnP_ne_nil isSeparator s)
        exact ⟨[], first, more, by rw [split]⟩
      · next plain =>
        cases s with
        | nil => exact absurd last plain
        | cons next s =>
            obtain ⟨first, second, more, split⟩ := ih last
            exact ⟨byte :: first, second, more, by rw [split]; rfl⟩

theorem words_eq_pieces (s : CString) : words s = pieces s := by
  induction s with
  | nil => rfl
  | cons byte s ih =>
      have nonempty := List.splitOnP_ne_nil isSeparator s
      rw [words, pieces, List.splitOnP_cons_eq_if_modifyHead]
      cases s with
      | nil =>
          by_cases separator : isSeparator byte = true
          · simp [separator]
          · simp [separator, words]
      | cons next s =>
          rw [ih, pieces, List.getLast?_cons_cons, if_neg (List.cons_ne_nil next s)]
          by_cases last : (next :: s).getLast?.any isSeparator = true
          · obtain ⟨first, second, more, split⟩ := splitOnP_of_last last
            rw [if_pos last, if_pos last, split]
            split
            · rfl
            · rfl
          · rw [if_neg last, if_neg last]
            split
            · rfl
            · obtain ⟨first, more, split⟩ := List.exists_cons_of_ne_nil nonempty
              rw [split]
              rfl

theorem length_starts (s : CString) : (starts s).length = s.dropLast.countP isSeparator := by
  induction s with
  | nil => rfl
  | cons byte s ih =>
      cases s with
      | nil => simp [starts]
      | cons next s =>
          rw [starts, List.dropLast_cons_cons, List.countP_cons, ← ih]
          by_cases separator : isSeparator byte = true
          · rw [if_pos ⟨separator, List.cons_ne_nil _ _⟩, if_pos separator, List.length_cons,
              List.length_map]
          · rw [if_neg fun both => separator both.1, if_neg separator, List.length_map, Nat.add_zero]

theorem starts_le (s : CString) : ∀ n ∈ starts s, n ≤ s.length := by
  induction s with
  | nil => exact List.forall_mem_nil _
  | cons byte s ih =>
      have later : ∀ n ∈ (starts s).map (· + 1), n ≤ s.length + 1 := by
        intro n here
        obtain ⟨k, inside, rfl⟩ := List.mem_map.mp here
        exact Nat.succ_le_succ (ih k inside)
      rw [starts, List.length_cons]
      split
      · exact List.forall_mem_cons.mpr ⟨Nat.le_add_left _ _, later⟩
      · exact later

/-- What the callers need of the words: the right ones, each ended by a terminator that is not
behind that of the command, and no more than `argv` has room for. -/
structure Tokenized (mem : Memory) (cmd : CharPtr) (room : Nat) : Prop where
  words : (tokenizeSpace mem cmd (mem.string cmd).length).1.map
      (tokenizeSpace mem cmd (mem.string cmd).length).2.string = pieces (mem.string cmd)
  inside : ∀ p ∈ (tokenizeSpace mem cmd (mem.string cmd).length).1,
    p.object = cmd.object ∧ cmd.offset ≤ p.offset ∧
      0 ∈ ((tokenizeSpace mem cmd (mem.string cmd).length).2.bytes p).take
        (cmd.offset + (mem.string cmd).length + 1 - p.offset)
  stored : (tokenizeSpace mem cmd (mem.string cmd).length).1.length ≤ room

section Tokenized
variable {mem : Memory} {cmd : CharPtr}

theorem length_argv {s : CString} {rest : List UInt8} (whole : 0 ∉ s)
    (here : mem.bytes cmd = s ++ 0 :: rest) :
    (tokenizeSpace mem cmd s.length).1.length = s.dropLast.countP isSeparator + 1 := by
  rw [tokenizeSpace_eq whole here, List.length_map, List.length_cons, length_starts]

/-- The words are always right, and fit into the array of the callers exactly if there are at
most 63 separators before the last character. -/
theorem tokenized_iff (terminated : 0 ∈ mem.bytes cmd) :
    Tokenized mem cmd 64 ↔ (mem.string cmd).dropLast.countP isSeparator < 64 := by
  have whole := mem.zero_not_mem_string cmd
  obtain ⟨rest, here⟩ := Memory.bytes_of_terminated terminated
  have stored := length_argv whole here
  constructor
  · intro tokenized
    have fits := tokenized.stored
    omega
  · intro few
    refine ⟨?_, fun p entry => ?_, by omega⟩
    · rw [tokenizeSpace_words whole here, words_eq_pieces]
    · rw [tokenizeSpace_eq whole here] at entry ⊢
      obtain ⟨n, isStart, rfl⟩ := List.mem_map.mp entry
      have inString : n ≤ (mem.string cmd).length := by
        rcases List.mem_cons.mp isStart with rfl | later
        · exact Nat.zero_le _
        · exact starts_le _ n later
      refine ⟨rfl, Nat.le_add_right _ _, ?_⟩
      have cut_length : (cut (mem.string cmd)).length = (mem.string cmd).length := List.length_map _
      -- the terminator of the command itself ends the last word
      rw [bytes_tokenized here]
      apply List.mem_of_getElem? (i := (mem.string cmd).length - n)
      rw [List.getElem?_take, if_pos (by simp only [CharPtr.add]; omega), List.getElem?_drop,
        List.getElem?_append_right (by omega), cut_length]
      rw [show n + ((mem.string cmd).length - n) - (mem.string cmd).length = 0 by omega]
      rfl

end Tokenized

def commandMemory (s : CString) : Memory := fun _ => s ++ [0]

theorem tokenized_noa :
    Tokenized (commandMemory (CString.ascii "P2P_SET_NOA 255 100 3")) ⟨0, 0⟩ 64 :=
  (tokenized_iff (by decide)).mpr (by decide)

/-- After 64 blanks comes the 65th word. -/
theorem not_tokenized :
    ¬ ∀ (mem : Memory) (cmd : CharPtr), 0 ∈ mem.bytes cmd → Tokenized mem cmd 64 := by
  intro all
  let s : CString := CString.ascii "P2P_SET_NOA" ++ List.replicate 64 32 ++ [49]
  have here : (commandMemory s).bytes ⟨0, 0⟩ = s ++ 0 :: [] := rfl
  have whole : 0 ∉ s := by decide
  have text : (commandMemory s).string ⟨0, 0⟩ = s := Memory.string_of_bytes whole here
  have stored := (all (commandMemory s) ⟨0, 0⟩ (by decide)).stored
  rw [text, length_argv whole here] at stored
  exact absurd stored (by decide)

end Mt6757.Supplicant
