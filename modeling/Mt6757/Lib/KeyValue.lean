import Mathlib.Data.List.Nodup
import Mathlib.Data.List.TakeWhile
import Mt6757.Lib.CString

/-!
# Reports of keys and values

Lines `key=value`, and a reader that finds the value of a key.  Two stages: the lines are
what the text splits into, and a line splits into what it was made of.
-/

set_option autoImplicit false

namespace KeyValue

/-! ## Texts within a line -/

/-- At most so many characters, none of which ends a string or a line. -/
structure OneLine (bound : Nat) (s : CString) : Prop where
  short : s.length ≤ bound
  plain : ∀ byte ∈ s, byte ≠ 0 ∧ byte ≠ 10

theorem oneLine_iff {bound : Nat} {s : CString} :
    OneLine bound s ↔ (s.length ≤ bound ∧ (s.all fun byte => byte != 0 && byte != 10) = true) := by
  have plain : (∀ byte ∈ s, (byte != 0 && byte != 10) = true) ↔
      ∀ byte ∈ s, byte ≠ 0 ∧ byte ≠ 10 :=
    forall₂_congr fun byte _ => by rw [Bool.and_eq_true, bne_iff_ne, bne_iff_ne]
  rw [List.all_eq_true, plain]
  exact ⟨fun line => ⟨line.short, line.plain⟩, fun both => ⟨both.1, both.2⟩⟩

-- `List.all` does not run through every byte there is.
instance (bound : Nat) (s : CString) : Decidable (OneLine bound s) :=
  decidable_of_iff _ oneLine_iff.symm

namespace OneLine

variable {bound bound' : Nat} {s t : CString}

theorem nil : OneLine 0 [] := ⟨Nat.le_refl 0, fun _ here => nomatch here⟩

theorem mono (line : OneLine bound s) (le : bound ≤ bound') : OneLine bound' s :=
  ⟨le_trans line.short le, line.plain⟩

theorem append (line : OneLine bound s) (line' : OneLine bound' t) :
    OneLine (bound + bound') (s ++ t) := by
  constructor
  · rw [List.length_append]
    exact Nat.add_le_add line.short line'.short
  · intro byte here
    rcases List.mem_append.mp here with first | second
    · exact line.plain byte first
    · exact line'.plain byte second

theorem flatMap {α : Type} {textOf : α → CString} (each : ∀ item, OneLine bound (textOf item))
    (items : List α) : OneLine (items.length * bound) (items.flatMap textOf) := by
  induction items with
  | nil => exact nil.mono (Nat.zero_le _)
  | cons item items ih =>
      rw [List.length_cons, Nat.succ_mul, Nat.add_comm, List.flatMap_cons]
      exact (each item).append ih

theorem one {byte : UInt8} (plain : byte ≠ 0 ∧ byte ≠ 10) : OneLine 1 [byte] :=
  ⟨Nat.le_refl 1, fun _ here => List.mem_singleton.mp here ▸ plain⟩

theorem intercalate {texts : List CString} (each : ∀ text ∈ texts, OneLine bound text)
    {separator : UInt8} (plain : separator ≠ 0 ∧ separator ≠ 10) :
    OneLine (texts.length * (bound + 1)) ([separator].intercalate texts) := by
  induction texts with
  | nil => exact nil.mono (Nat.zero_le _)
  | cons text texts ih =>
      have first := each text List.mem_cons_self
      have later := ih fun text here => each text (List.mem_cons_of_mem _ here)
      cases texts with
      | nil =>
          rw [List.intercalate_singleton]
          exact first.mono (by rw [List.length_singleton]; omega)
      | cons next texts =>
          rw [List.intercalate_cons_cons, List.length_cons, Nat.succ_mul, Nat.add_comm]
          exact (first.append (one plain)).append later

end OneLine

/-! ## Lines -/

structure Entry where
  key : CString
  value : CString

namespace Entry

def text (entry : Entry) : CString := entry.key ++ 61 :: entry.value

def line (entry : Entry) : CString := entry.text ++ [10]

/-- Neither part has a character in it that ends it. -/
structure Plain (entry : Entry) : Prop where
  key_equals : 61 ∉ entry.key
  key_newline : 10 ∉ entry.key
  value_newline : 10 ∉ entry.value

end Entry

/-- The key of a line is what stands before the first `=`. -/
def keyOf (line : CString) : CString := line.takeWhile (· ≠ 61)

def valueOf (line : CString) : CString := (line.dropWhile (· ≠ 61)).tail

/-- The value of the first line with a key. -/
def lookup (report : CString) (key : CString) : Option CString :=
  ((report.splitOn 10).find? fun line => keyOf line == key).map valueOf

variable {entry : Entry} {entries : List Entry} {rest : CString}

namespace Entry

theorem Plain.of_oneLine {bound bound' : Nat} (key : OneLine bound entry.key)
    (equals : 61 ∉ entry.key) (value : OneLine bound' entry.value) : entry.Plain :=
  ⟨equals, fun here => (key.plain 10 here).2 rfl, fun here => (value.plain 10 here).2 rfl⟩

theorem Plain.text_newline (plain : entry.Plain) : 10 ∉ entry.text := by
  rw [text, List.mem_append, List.mem_cons]
  rintro (key | equals | value)
  · exact plain.key_newline key
  · exact absurd equals (by decide)
  · exact plain.value_newline value

theorem Plain.keyOf_text (plain : entry.Plain) : keyOf entry.text = entry.key := by
  rw [keyOf, text, List.takeWhile_append_of_pos]
  · simp
  · intro byte here
    exact decide_eq_true fun equals => plain.key_equals (equals ▸ here)

theorem Plain.valueOf_text (plain : entry.Plain) : valueOf entry.text = entry.value := by
  rw [valueOf, text, List.dropWhile_append_of_pos]
  · simp
  · intro byte here
    exact decide_eq_true fun equals => plain.key_equals (equals ▸ here)

end Entry

/-- Lines of bounded keys and values have a bounded length, and no terminator among them. -/
theorem lines_bounded {bound bound' : Nat}
    (each : ∀ entry ∈ entries, OneLine bound entry.key ∧ OneLine bound' entry.value) :
    (entries.flatMap Entry.line).length ≤ entries.length * (bound + (1 + bound') + 1) ∧
      0 ∉ entries.flatMap Entry.line := by
  induction entries with
  | nil => exact ⟨Nat.zero_le _, List.not_mem_nil⟩
  | cons entry entries ih =>
      obtain ⟨short, whole⟩ := ih fun entry here => each entry (List.mem_cons_of_mem _ here)
      obtain ⟨key, value⟩ := each entry List.mem_cons_self
      have text : OneLine (bound + (1 + bound')) entry.text :=
        key.append ((OneLine.one ⟨by decide, by decide⟩).append value)
      have textShort := text.short
      rw [List.flatMap_cons, List.length_append, List.length_cons, Nat.succ_mul, List.mem_append,
        Entry.line, List.length_append, List.length_singleton, List.mem_append]
      refine ⟨by omega, ?_⟩
      rintro ((inText | newline) | later)
      · exact (text.plain 0 inText).1 rfl
      · exact absurd (List.mem_singleton.mp newline) (by decide)
      · exact whole later

/-- A report splits into its lines. -/
theorem splitOn_lines (plain : ∀ entry ∈ entries, entry.Plain) (rest : CString) :
    (entries.flatMap Entry.line ++ rest).splitOn 10 =
      entries.map Entry.text ++ rest.splitOn 10 := by
  induction entries with
  | nil => rfl
  | cons entry entries ih =>
      have none : ∀ byte ∈ entry.text, (byte == (10 : UInt8)) = false := by
        intro byte here
        refine beq_false_of_ne fun newline => ?_
        exact (plain entry List.mem_cons_self).text_newline (newline ▸ here)
      have later := ih fun entry here => plain entry (List.mem_cons_of_mem _ here)
      rw [List.flatMap_cons, Entry.line, List.append_assoc, List.append_assoc,
        List.singleton_append, List.splitOn, List.splitOnP_append_cons_of_forall_mem none 10 rfl]
      rw [List.splitOn] at later
      rw [later, List.map_cons, List.cons_append]

/-- Where no two entries have the same key, each is found by its own. -/
theorem lookup_of_mem (plain : ∀ entry ∈ entries, entry.Plain)
    (distinct : (entries.map Entry.key).Nodup) (here : entry ∈ entries) (rest : CString) :
    lookup (entries.flatMap Entry.line ++ rest) entry.key = some entry.value := by
  have found : (entries.map Entry.text ++ rest.splitOn 10).find?
      (fun line => keyOf line == entry.key) = some entry.text := by
    rw [List.find?_append]
    induction entries with
    | nil => cases here
    | cons first entries ih =>
        rw [List.map_cons, List.nodup_cons] at distinct
        rw [List.map_cons]
        rcases List.mem_cons.mp here with rfl | later
        · rw [List.find?_cons_of_pos]
          · rfl
          · rw [(plain entry here).keyOf_text]
            exact beq_self_eq_true _
        · have other : first.key ≠ entry.key := by
            intro same
            exact distinct.1 (same ▸ List.mem_map_of_mem later)
          rw [List.find?_cons_of_neg]
          · exact ih (fun entry here => plain entry (List.mem_cons_of_mem _ here)) distinct.2 later
          · rw [(plain first List.mem_cons_self).keyOf_text]
            exact fun same => other (eq_of_beq same)
  rw [lookup, splitOn_lines plain, found, Option.map_some, (plain entry here).valueOf_text]

end KeyValue
