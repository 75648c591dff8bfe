import Mathlib.Data.List.Forall2
import Mathlib.Data.List.Nodup
import Mathlib.Logic.Function.Basic
import Mt6757.Lib.TextSearch

/-!
# The radio jar

`patch_mtk_radio_java_bridge.py` makes one constructor of a jar public: it takes the code of
the jar apart, edits a line, puts the code together again and writes the jar anew, entry by
entry and under the names it finds.  The tools for the code are not part of it, and may do
anything.
-/

set_option autoImplicit false

namespace Mt6757.Tools.RadioJarPatch

open TextSearch

def target : String := "com/mediatek/internal/telephony/MtkRadioIndicationBase.smali"

def old : List Char :=
  ".method constructor <init>(Lcom/android/internal/telephony/RIL;)V".toList

def new : List Char :=
  ".method public constructor <init>(Lcom/android/internal/telephony/RIL;)V".toList

def classesDex : String := "classes.dex"

/-! ## Archives -/

variable {Rest : Type}

/-- What is written down about an entry; `rest` is what `writestr` takes over. -/
structure ZipAttributes (Rest : Type) where
  externalAttr : Nat
  flagBits : Nat
  compressType : Nat
  rest : Rest
  deriving DecidableEq

structure ZipEntry (Rest : Type) where
  filename : String
  attributes : ZipAttributes Rest
  data : List UInt8
  deriving DecidableEq

abbrev Jar (Rest : Type) : Type := List (ZipEntry Rest)

def zipLzma : Nat := 14

def maskCompressOption1 : Nat := 0x02
def maskUtfFilename : Nat := 0x800

/-- What `writestr` writes down: flags as they follow from the entry, and permissions for its
owner where there are none at all. -/
def ZipAttributes.written (attributes : ZipAttributes Rest) (filename : String) :
    ZipAttributes Rest :=
  { attributes with
    externalAttr :=
      if attributes.externalAttr = 0 then 0o600 <<< 16 else attributes.externalAttr
    flagBits :=
      (if attributes.compressType = zipLzma then maskCompressOption1 else 0) |||
        if filename.toList.all fun char => char.toNat < 128 then 0 else maskUtfFilename }

/-- `ZipFile.read`: of entries with one name, the last. -/
def read (jar : Jar Rest) (name : String) : Option (List UInt8) :=
  (jar.reverse.find? (·.filename == name)).map ZipEntry.data

abbrev Directory : Type := String → Option (List Char)

/-- What the script does not do itself: `baksmali`, `smali`, and putting the new file in the
place of the jar. -/
structure Toolbox where
  disassemble : List UInt8 → Option Directory
  assemble : Directory → Option (List UInt8)
  replaces : Bool

/-! ## The script -/

inductive Outcome (Rest : Type) where
  | alreadyPublic
  | raised
  | patched (jar : Jar Rest)
  deriving DecidableEq

/-- One turn of the loop over `infolist()`; `read` looks an entry up by its name. -/
def rewrite (rebuiltDex : List UInt8) (jar : Jar Rest) (entry : ZipEntry Rest) : ZipEntry Rest :=
  { entry with
    attributes := entry.attributes.written entry.filename
    data := if entry.filename = classesDex then rebuiltDex
      else (read jar entry.filename).getD [] }

def rebuild (rebuiltDex : List UInt8) (jar : Jar Rest) : Jar Rest :=
  jar.map (rewrite rebuiltDex jar)

def editTarget (tools : Toolbox) (jar : Jar Rest) (directory : Directory) (text : List Char) :
    Outcome Rest :=
  if new <:+: text then .alreadyPublic
  else if count old 0 text ≠ 1 then .raised
  else
    match tools.assemble (Function.update directory target (some (replace old new 0 text))) with
    | none => .raised
    | some rebuiltDex => if tools.replaces then .patched (rebuild rebuiltDex jar) else .raised

def main (tools : Toolbox) (jar : Jar Rest) : Outcome Rest :=
  match read jar classesDex with
  | none => .raised
  | some dex =>
      match tools.disassemble dex with
      | none => .raised
      | some directory =>
          match directory target with
          | none => .raised
          | some text => editTarget tools jar directory text

/-! ## What is written -/

section Rebuild

variable (rebuiltDex : List UInt8) (jar : Jar Rest) (name : String)

theorem read_rebuild :
    read (rebuild rebuiltDex jar) name =
      (read jar name).map fun data => if name = classesDex then rebuiltDex else data := by
  rw [read, rebuild, ← List.map_reverse, List.find?_map, Option.map_map]
  cases found : jar.reverse.find? (·.filename == name) with
  | none =>
      have missing : read jar name = none := by rw [read, found, Option.map_none]
      rw [missing]
      simpa [Function.comp_def, rewrite] using found
  | some entry =>
      have here : read jar name = some entry.data := by rw [read, found, Option.map_some]
      have called : entry.filename = name :=
        beq_iff_eq.mp (@List.find?_some _ (·.filename == name) entry _ found)
      have found' : jar.reverse.find? ((fun entry : ZipEntry Rest => entry.filename == name) ∘
          rewrite rebuiltDex jar) = some entry := found
      rw [found', here, Option.map_some, Option.map_some, Function.comp_apply, rewrite, called,
        here, Option.getD_some]

/-- An entry and what the script writes in its place. -/
structure Rewritten (jar : Jar Rest) (dex' : List UInt8) (entry entry' : ZipEntry Rest) :
    Prop where
  filename : entry'.filename = entry.filename
  attributes : entry'.attributes = entry.attributes.written entry.filename
  code : entry.filename = classesDex → entry'.data = dex'
  data : entry.filename ≠ classesDex → read jar entry.filename = some entry'.data

theorem read_of_mem {entry : ZipEntry Rest} (here : entry ∈ jar) :
    ∃ last ∈ jar, last.filename = entry.filename ∧ read jar entry.filename = some last.data := by
  have found : (jar.reverse.find? (·.filename == entry.filename)).isSome := by
    rw [List.find?_isSome]
    exact ⟨entry, List.mem_reverse.mpr here, beq_self_eq_true _⟩
  obtain ⟨last, found⟩ := Option.isSome_iff_exists.mp found
  refine ⟨last, List.mem_reverse.mp (List.mem_of_find?_eq_some found), ?_, ?_⟩
  · exact beq_iff_eq.mp (@List.find?_some _ (·.filename == entry.filename) last _ found)
  · rw [read, found, Option.map_some]

theorem rewritten_rewrite {entry : ZipEntry Rest} (here : entry ∈ jar) :
    Rewritten jar rebuiltDex entry (rewrite rebuiltDex jar entry) := by
  refine ⟨rfl, rfl, fun code => if_pos code, fun other => ?_⟩
  obtain ⟨last, -, -, found⟩ := read_of_mem jar here
  rw [rewrite, if_neg other, found, Option.getD_some]

theorem rebuild_entries :
    List.Forall₂ (Rewritten jar rebuiltDex) jar (rebuild rebuiltDex jar) := by
  rw [rebuild, List.forall₂_map_right_iff, List.forall₂_same]
  exact fun entry here => rewritten_rewrite rebuiltDex jar here

theorem read_of_nodup (distinct : (jar.map ZipEntry.filename).Nodup) {entry : ZipEntry Rest}
    (here : entry ∈ jar) : read jar entry.filename = some entry.data := by
  obtain ⟨last, there, called, found⟩ := read_of_mem jar here
  rw [found, List.inj_on_of_nodup_map distinct there here called]

end Rebuild

/-- The tools keep a public constructor public: it is there again when code that has it is
put together and taken apart. -/
def Toolbox.KeepsConstructor (tools : Toolbox) : Prop :=
  ∀ directory dex text, tools.assemble directory = some dex → directory target = some text →
    new <:+: text → ∃ directory' text', tools.disassemble dex = some directory' ∧
      directory' target = some text' ∧ new <:+: text'

/-- The jar before and behind a change: entry by entry what `writestr` makes of it, with the
data that is found under its name, and the code alone another, by one constructor. -/
def OneConstructorPublic (tools : Toolbox) (jar jar' : Jar Rest) : Prop :=
  ∃ dex dex' directory before after, read jar classesDex = some dex ∧
    tools.disassemble dex = some directory ∧
    directory target = some (before ++ old ++ after) ∧
    tools.assemble (Function.update directory target (some (before ++ new ++ after))) =
      some dex' ∧
    List.Forall₂ (Rewritten jar dex') jar jar' ∧ read jar' classesDex = some dex'

theorem editTarget_patched {tools : Toolbox} {jar jar' : Jar Rest} {directory : Directory}
    {text : List Char} (ran : editTarget tools jar directory text = .patched jar') :
    ∃ before after dex', text = before ++ old ++ after ∧
      tools.assemble (Function.update directory target (some (before ++ new ++ after))) =
        some dex' ∧ jar' = rebuild dex' jar := by
  rw [editTarget] at ran
  split at ran
  next => cases ran
  next =>
    split at ran
    next => cases ran
    next once =>
      obtain ⟨before, after, split, replaced⟩ :=
        replace_of_count_one new (by decide) (not_not.mp once)
      rw [replaced] at ran
      split at ran
      next => cases ran
      next dex' assembled =>
        split at ran
        next =>
          cases ran
          exact ⟨before, after, dex', split, assembled, rfl⟩
        next => cases ran

theorem main_patched {tools : Toolbox} {jar jar' : Jar Rest} (ran : main tools jar = .patched jar') :
    ∃ dex directory text, read jar classesDex = some dex ∧
      tools.disassemble dex = some directory ∧ directory target = some text ∧
      editTarget tools jar directory text = .patched jar' := by
  rw [main] at ran
  split at ran
  next => cases ran
  next dex found =>
    split at ran
    next => cases ran
    next directory taken =>
      split at ran
      next => cases ran
      next text held => exact ⟨dex, directory, text, found, taken, held, ran⟩

theorem OneConstructorPublic.same_data {tools : Toolbox} {jar jar' : Jar Rest}
    (changed : OneConstructorPublic tools jar jar')
    (distinct : (jar.map ZipEntry.filename).Nodup) :
    List.Forall₂ (fun entry entry' => entry.filename ≠ classesDex → entry'.data = entry.data)
      jar jar' := by
  obtain ⟨_, dex', _, _, _, -, -, -, -, entries, -⟩ := changed
  refine List.forall₂_iff_get.mpr ⟨entries.length_eq, fun i here here' other => ?_⟩
  have pair := entries.get here here'
  have own := read_of_nodup jar distinct (List.get_mem jar ⟨i, here⟩)
  exact Option.some.inj ((pair.data other).symm.trans own)

/-- A jar that was written anew has the entries it had, under their names and with the data
found there, and its code with one constructor public; a second run finds it so, and leaves
the jar as it is. -/
theorem patched_once {tools : Toolbox} {jar jar' : Jar Rest}
    (ran : main tools jar = .patched jar') :
    OneConstructorPublic tools jar jar' ∧
      ((jar.map ZipEntry.filename).Nodup →
        List.Forall₂ (fun entry entry' => entry.filename ≠ classesDex → entry'.data = entry.data)
          jar jar') ∧
      (tools.KeepsConstructor → main tools jar' = .alreadyPublic) := by
  obtain ⟨dex, directory, text, found, taken, held, edited⟩ := main_patched ran
  obtain ⟨before, after, dex', rfl, assembled, rfl⟩ := editTarget_patched edited
  have code : read (rebuild dex' jar) classesDex = some dex' := by
    rw [read_rebuild, found, Option.map_some, if_pos rfl]
  have changed : OneConstructorPublic tools jar (rebuild dex' jar) :=
    ⟨dex, dex', directory, before, after, found, taken, held, assembled,
      rebuild_entries dex' jar, code⟩
  refine ⟨changed, changed.same_data, fun keeps => ?_⟩
  have edited : Function.update directory target (some (before ++ new ++ after)) target =
      some (before ++ new ++ after) := Function.update_self _ _ _
  obtain ⟨directory', text', taken', held', here⟩ :=
    keeps _ _ _ assembled edited ⟨before, after, rfl⟩
  simp only [main, code, taken', held', editTarget, if_pos here]

/-- Tools that know two programs, one with the constructor public and one without. -/
def sampleTools : Toolbox where
  disassemble dex :=
    if dex = [1] then some fun _ => some old else if dex = [2] then some fun _ => some new else none
  assemble directory := if directory target = some new then some [2] else none
  replaces := true

theorem sampleTools_keeps : sampleTools.KeepsConstructor := by
  intro directory dex text assembled held _
  simp only [sampleTools] at assembled
  split at assembled
  next whole =>
    cases assembled
    obtain rfl : text = new := Option.some.inj (held.symm.trans whole)
    exact ⟨fun _ => some new, new, rfl, rfl, List.infix_rfl⟩
  next => cases assembled

/-- A manifest without permissions, and a name twice. -/
def sampleJar : Jar Unit :=
  [⟨"META-INF", ⟨0, 0, 0, ()⟩, [7]⟩, ⟨"a", ⟨0o644 <<< 16, 8, 8, ()⟩, [1]⟩,
    ⟨"a", ⟨0o644 <<< 16, 8, 8, ()⟩, [2]⟩, ⟨classesDex, ⟨0o644 <<< 16, 0, 0, ()⟩, [1]⟩]

def samplePatched : Jar Unit :=
  [⟨"META-INF", ⟨0o600 <<< 16, 0, 0, ()⟩, [7]⟩, ⟨"a", ⟨0o644 <<< 16, 0, 8, ()⟩, [2]⟩,
    ⟨"a", ⟨0o644 <<< 16, 0, 8, ()⟩, [2]⟩, ⟨classesDex, ⟨0o644 <<< 16, 0, 0, ()⟩, [2]⟩]

theorem patched_once_sample :
    OneConstructorPublic sampleTools sampleJar samplePatched ∧
      main sampleTools samplePatched = .alreadyPublic ∧
      List.Forall₂ (fun entry entry' => entry.filename ≠ classesDex → entry'.data = entry.data)
        (sampleJar.eraseIdx 1) (samplePatched.eraseIdx 1) := by
  have patched : main sampleTools sampleJar = .patched samplePatched := by decide +kernel
  have patched' : main sampleTools (sampleJar.eraseIdx 1) = .patched (samplePatched.eraseIdx 1) := by
    decide +kernel
  obtain ⟨changed, -, again⟩ := patched_once patched
  obtain ⟨-, same, -⟩ := patched_once patched'
  exact ⟨changed, again sampleTools_keeps, same (by decide)⟩

end Mt6757.Tools.RadioJarPatch
