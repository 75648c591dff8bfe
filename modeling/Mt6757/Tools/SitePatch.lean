import Mathlib.Logic.Function.Basic
import Mt6757.Lib.Splice

/-!
# Patching listed sites of a blob

Two scripts that replace single instructions of vendor blobs at fixed file offsets.
Both take a file in which any of the sites may be patched already; what is printed is
left out.
-/

set_option autoImplicit false

namespace Mt6757.Tools

/-- Sites of a file with the bytes each has in the stock file, and the bytes that are to
stand at every one of them. -/
structure SiteTable where
  replacement : List UInt8
  sites : List (Nat × List UInt8)
  pos : 0 < replacement.length
  wide : ∀ site ∈ sites, site.2.length = replacement.length
  apart : sites.Pairwise fun site other =>
    site.1 + replacement.length ≤ other.1 ∨ other.1 + replacement.length ≤ site.1

namespace SiteTable

variable (table : SiteTable)

def stock (site : Nat × List UInt8) : Patch := ⟨site.1, site.2⟩

def patched (site : Nat × List UInt8) : Patch := ⟨site.1, table.replacement⟩

/-- Every site holds its stock bytes or the replacement. -/
def Recognised (blob : List UInt8) : Prop :=
  ∀ site ∈ table.sites, (stock site).HeldBy blob ∨ (table.patched site).HeldBy blob

instance (blob : List UInt8) : Decidable (table.Recognised blob) := by
  unfold Recognised
  infer_instance

def patch (blob : List UInt8) : List UInt8 := Patch.putAll blob (table.sites.map table.patched)

def restore (blob : List UInt8) : List UInt8 := Patch.putAll blob (table.sites.map stock)

def OffSites (i : Nat) : Prop := ∀ site ∈ table.sites, ¬ (table.patched site).Covers i

/-- The same file with another subset of the sites patched. -/
structure Variant (blob other : List UInt8) : Prop where
  length : other.length = blob.length
  agree : ∀ i, table.OffSites i → other[i]? = blob[i]?
  recognised : table.Recognised other

variable {table} {blob other : List UInt8}

theorem stock_covers_iff {site : Nat × List UInt8} (here : site ∈ table.sites) (i : Nat) :
    (stock site).Covers i ↔ (table.patched site).Covers i := by
  simp only [Patch.Covers, Patch.stop, stock, patched, table.wide site here]

theorem Recognised.inside (recognised : table.Recognised blob) :
    ∀ site ∈ table.sites, (table.patched site).Inside blob ∧ (stock site).Inside blob := by
  intro site here
  have wide := table.wide site here
  have pos := table.pos
  have same : (stock site).Inside blob ↔ (table.patched site).Inside blob := by
    simp only [Patch.Inside, Patch.stop, stock, patched, wide]
  rcases recognised site here with held | held
  · have inside := held.inside (by simp only [stock]; omega)
    exact ⟨same.mp inside, inside⟩
  · have inside := held.inside pos
    exact ⟨inside, same.mpr inside⟩

theorem Recognised.patches_inside (recognised : table.Recognised blob) :
    ∀ patch ∈ table.sites.map table.patched, patch.Inside blob := by
  intro patch here
  obtain ⟨site, there, rfl⟩ := List.mem_map.mp here
  exact (recognised.inside site there).1

theorem Recognised.stocks_inside (recognised : table.Recognised blob) :
    ∀ patch ∈ table.sites.map stock, patch.Inside blob := by
  intro patch here
  obtain ⟨site, there, rfl⟩ := List.mem_map.mp here
  exact (recognised.inside site there).2

theorem patches_apart : (table.sites.map table.patched).Pairwise Patch.Apart :=
  List.pairwise_map.mpr table.apart

theorem patch_length (recognised : table.Recognised blob) :
    (table.patch blob).length = blob.length :=
  Patch.putAll_length recognised.patches_inside

theorem patch_off (recognised : table.Recognised blob) {i : Nat} (off : table.OffSites i) :
    (table.patch blob)[i]? = blob[i]? := by
  apply Patch.putAll_outside recognised.patches_inside
  intro patch here
  obtain ⟨site, there, rfl⟩ := List.mem_map.mp here
  exact off site there

theorem patch_heldBy (recognised : table.Recognised blob) :
    ∀ site ∈ table.sites, (table.patched site).HeldBy (table.patch blob) := fun _ here =>
  Patch.putAll_heldBy recognised.patches_inside patches_apart _ (List.mem_map_of_mem here)

theorem patch_variant (recognised : table.Recognised blob) :
    table.Variant blob (table.patch blob) where
  length := patch_length recognised
  agree := fun _ off => patch_off recognised off
  recognised := fun site here => .inr (patch_heldBy recognised site here)

theorem Variant.patch_eq (variant : table.Variant blob other)
    (recognised : table.Recognised blob) : table.patch other = table.patch blob := by
  apply Patch.putAll_congr recognised.patches_inside variant.length
  intro i off
  exact variant.agree i fun site here => off _ (List.mem_map_of_mem here)

theorem Variant.restore_eq (variant : table.Variant blob other)
    (recognised : table.Recognised blob) : table.restore other = table.restore blob := by
  apply Patch.putAll_congr recognised.stocks_inside variant.length
  intro i off
  refine variant.agree i fun site here covers => ?_
  exact off _ (List.mem_map_of_mem here) ((stock_covers_iff here i).mpr covers)

end SiteTable

/-! ## Runs of a script -/

abbrev Files := String → Option (List UInt8)

structure Exit where
  code : Nat
  files : Files

/-- `Path.write_bytes`: whether it returns, and the files it leaves.  One that raises ends
the script, and may have cut the file short before. -/
abbrev Disk := Files → String → List UInt8 → Bool × Files

/-- There is room, and the files may be written. -/
def Disk.Writes (disk : Disk) : Prop :=
  ∀ files path content, disk files path content = (true, Function.update files path (some content))

def Disk.save (disk : Disk) (files : Files) (path : String) (content : List UInt8) : Exit :=
  let (returned, files) := disk files path content
  ⟨if returned then 0 else 1, files⟩

theorem Disk.Writes.save {disk : Disk} (writes : disk.Writes) (files : Files) (path : String)
    (content : List UInt8) :
    disk.save files path content = ⟨0, Function.update files path (some content)⟩ := by
  rw [Disk.save, writes]
  rfl

/-- What is promised of a script: it succeeds on the files it accepts, it changes a file as a
whole or not at all, the result is the same for every subset of sites patched before, and it
is its own fixed point. -/
structure SiteTable.Canonicalises (table : SiteTable) (Accepts : List UInt8 → Prop)
    (main : List String → Files → Exit) : Prop where
  succeeds : ∀ argv files, (main argv files).code = 0 ↔
    ∃ program path old, argv = [program, path] ∧ files path = some old ∧ Accepts old
  unchanged : ∀ argv files, (main argv files).code ≠ 0 → (main argv files).files = files
  changed : ∀ argv files, (main argv files).code = 0 →
    ∃ program path old new, argv = [program, path] ∧ files path = some old ∧
      (main argv files).files = Function.update files path (some new) ∧
      new.length = old.length ∧
      (∀ i, table.OffSites i → new[i]? = old[i]?) ∧
      (∀ site ∈ table.sites, (table.patched site).HeldBy new) ∧
      ∀ other, table.Variant old other →
        main argv (Function.update files path (some other)) = main argv files
  again : ∀ argv files, (main argv files).code = 0 →
    main argv (main argv files).files = main argv files

/-- A patcher of a table: a file that is accepted is replaced by its patched form. -/
def SiteTable.run (table : SiteTable) (Accepts : List UInt8 → Prop) [DecidablePred Accepts]
    (argv : List String) (files : Files) : Exit :=
  match argv with
  | [_, path] =>
    match files path with
    | none => ⟨1, files⟩
    | some blob =>
      if Accepts blob then ⟨0, Function.update files path (some (table.patch blob))⟩
      else ⟨1, files⟩
  | _ => ⟨2, files⟩

section Run

variable {table : SiteTable} {Accepts : List UInt8 → Prop} [DecidablePred Accepts]

variable (table Accepts) in
theorem SiteTable.run_cases (argv : List String) (files : Files) :
    ((table.run Accepts argv files).code ≠ 0 ∧ (table.run Accepts argv files).files = files) ∨
      ∃ program path blob, argv = [program, path] ∧ files path = some blob ∧ Accepts blob ∧
        table.run Accepts argv files =
          ⟨0, Function.update files path (some (table.patch blob))⟩ := by
  unfold SiteTable.run
  split
  next program path =>
    split
    next => exact .inl ⟨by simp, rfl⟩
    next blob here =>
      split
      next accepted => exact .inr ⟨program, path, blob, rfl, here, accepted, rfl⟩
      next => exact .inl ⟨by simp, rfl⟩
  next => exact .inl ⟨by simp, rfl⟩

theorem SiteTable.run_accepted {program path : String} {files : Files} {blob : List UInt8}
    (here : files path = some blob) (accepted : Accepts blob) :
    table.run Accepts [program, path] files =
      ⟨0, Function.update files path (some (table.patch blob))⟩ := by
  simp only [SiteTable.run, here, if_pos accepted]

/-- A patcher canonicalises if it recognises what it accepts, and if it accepts with a file
every variant of it. -/
theorem SiteTable.run_canonicalises
    (recognises : ∀ blob, Accepts blob → table.Recognised blob)
    (invariant : ∀ blob other, Accepts blob → table.Variant blob other → Accepts other) :
    table.Canonicalises Accepts (table.run Accepts) := by
  have same : ∀ (program path : String) (files : Files) (blob other : List UInt8),
      files path = some blob → Accepts blob → table.Variant blob other →
      table.run Accepts [program, path] (Function.update files path (some other)) =
        table.run Accepts [program, path] files := by
    intro program path files blob other here accepted variant
    have there : Function.update files path (some other) path = some other :=
      Function.update_self path (some other) files
    rw [SiteTable.run_accepted here accepted,
      SiteTable.run_accepted there (invariant blob other accepted variant),
      Function.update_idem, variant.patch_eq (recognises blob accepted)]
  constructor
  · intro argv files
    constructor
    · intro succeeded
      rcases SiteTable.run_cases table Accepts argv files with ⟨failed, -⟩ |
        ⟨program, path, blob, given, here, accepted, -⟩
      · exact absurd succeeded failed
      · exact ⟨program, path, blob, given, here, accepted⟩
    · rintro ⟨program, path, blob, rfl, here, accepted⟩
      rw [SiteTable.run_accepted here accepted]
  · intro argv files failed
    rcases SiteTable.run_cases table Accepts argv files with ⟨-, kept⟩ | ⟨_, _, _, -, -, -, success⟩
    · exact kept
    · rw [success] at failed
      exact absurd rfl failed
  · intro argv files succeeded
    rcases SiteTable.run_cases table Accepts argv files with ⟨failed, -⟩ |
      ⟨program, path, blob, rfl, here, accepted, success⟩
    · exact absurd succeeded failed
    · have recognised := recognises blob accepted
      refine ⟨program, path, blob, table.patch blob, rfl, here, by rw [success],
        SiteTable.patch_length recognised, fun i off => SiteTable.patch_off recognised off,
        SiteTable.patch_heldBy recognised, fun other variant => ?_⟩
      exact same program path files blob other here accepted variant
  · intro argv files succeeded
    rcases SiteTable.run_cases table Accepts argv files with ⟨failed, -⟩ |
      ⟨program, path, blob, rfl, here, accepted, success⟩
    · exact absurd succeeded failed
    · have again := same program path files blob _ here accepted
        (SiteTable.patch_variant (recognises blob accepted))
      rw [success] at again ⊢
      exact again

end Run

/-! ## Stale fences in the HWC blob -/

namespace RetireFence

def originalSha256 : String :=
  "257ca2f9ec1e952bae2c6caa72efe4d8fff526d70aba80d703d6bb58adcafbd4"

def nop : List UInt8 := [0x1f, 0x20, 0x03, 0xd5]

/-- The `cbnz fatal, abort_path` checks. -/
def patches : SiteTable where
  replacement := nop
  sites := [
    (0x23D60, [0x29, 0x08, 0x00, 0x35]),
    (0x23F00, [0x29, 0x08, 0x00, 0x35]),
    (0x240A0, [0x29, 0x08, 0x00, 0x35]),
    (0x24234, [0x68, 0x06, 0x00, 0x35]),
    (0x252A0, [0xc8, 0x0f, 0x00, 0x35]),
    (0x26D54, [0x08, 0x05, 0x00, 0x35])]
  pos := by decide
  wide := by decide
  apart := by decide

def normalize (blob : List UInt8) : List (Nat × List UInt8) → List UInt8 → Option (List UInt8)
  | [], normalized => some normalized
  | (offset, original) :: rest, normalized =>
      let current := slice blob offset original.length
      if current ∉ [original, nop] then none
      else normalize blob rest (splice normalized offset original.length original)

def edit : List (Nat × List UInt8) → List UInt8 → Nat → List UInt8 × Nat
  | [], blob, changed => (blob, changed)
  | (offset, original) :: rest, blob, changed =>
      if slice blob offset original.length ≠ nop then
        edit rest (splice blob offset original.length nop) (changed + 1)
      else edit rest blob changed

/-- `main`, for any digest.  A file that cannot be read ends in an exception. -/
def main (disk : Disk) (sha256 : List UInt8 → String) (argv : List String) (files : Files) :
    Exit :=
  match argv with
  | [_, path] =>
    match files path with
    | none => ⟨1, files⟩
    | some content =>
      match normalize content patches.sites content with
      | none => ⟨1, files⟩
      | some normalized =>
        if sha256 normalized ≠ originalSha256 then ⟨1, files⟩
        else
          let (blob, changed) := edit patches.sites content 0
          if changed = 0 then ⟨0, files⟩
          else disk.save files path blob
  | _ => ⟨2, files⟩

/-- The blobs the script accepts: once every site is put back, the digest is that of the
stock file. -/
def Accepted (sha256 : List UInt8 → String) (blob : List UInt8) : Prop :=
  patches.Recognised blob ∧ sha256 (patches.restore blob) = originalSha256

instance (sha256 : List UInt8 → String) : DecidablePred (Accepted sha256) := by
  unfold Accepted
  infer_instance

theorem normalize_eq (blob : List UInt8) (sites : List (Nat × List UInt8))
    (normalized : List UInt8) :
    normalize blob sites normalized =
      if ∀ site ∈ sites, slice blob site.1 site.2.length ∈ [site.2, nop] then
        some (Patch.putAll normalized (sites.map SiteTable.stock))
      else none := by
  induction sites generalizing normalized with
  | nil => simp [normalize, Patch.putAll]
  | cons site rest ih =>
      obtain ⟨offset, original⟩ := site
      rw [normalize]
      by_cases known : slice blob offset original.length ∈ [original, nop]
      · rw [if_neg (not_not_intro known), ih]
        simp only [List.forall_mem_cons, known, true_and]
        rfl
      · rw [if_pos known, if_neg fun all => known (all _ List.mem_cons_self)]

theorem recognised_iff (blob : List UInt8) :
    patches.Recognised blob ↔
      ∀ site ∈ patches.sites, slice blob site.1 site.2.length ∈ [site.2, nop] := by
  refine forall₂_congr fun site here => ?_
  have wide : site.2.length = nop.length := patches.wide site here
  have patched : (patches.patched site).HeldBy blob ↔ slice blob site.1 site.2.length = nop := by
    rw [wide]
    rfl
  rw [patched]
  simp [Patch.HeldBy, SiteTable.stock]

theorem edit_blob (sites : List (Nat × List UInt8))
    (wide : ∀ site ∈ sites, site.2.length = nop.length) (blob : List UInt8) (changed : Nat) :
    (edit sites blob changed).1 = Patch.putAll blob (sites.map patches.patched) := by
  induction sites generalizing blob changed with
  | nil => rfl
  | cons site rest ih =>
      obtain ⟨offset, original⟩ := site
      have length : original.length = nop.length := wide _ List.mem_cons_self
      have later := ih fun site here => wide site (List.mem_cons_of_mem _ here)
      rw [edit, length]
      by_cases already : slice blob offset nop.length = nop
      · have held : (patches.patched (offset, original)).HeldBy blob := already
        rw [if_neg (not_not_intro already), later, List.map_cons, Patch.putAll, Patch.putAll,
          List.foldl_cons, Patch.put_of_heldBy (held.inside patches.pos) held]
      · rw [if_pos already, later]
        rfl

theorem edit_changed (sites : List (Nat × List UInt8)) (blob : List UInt8) (changed : Nat) :
    changed ≤ (edit sites blob changed).2 ∧
      ((edit sites blob changed).2 = changed → (edit sites blob changed).1 = blob) := by
  induction sites generalizing blob changed with
  | nil => exact ⟨le_refl _, fun _ => rfl⟩
  | cons site rest ih =>
      obtain ⟨offset, original⟩ := site
      rw [edit]
      split
      · obtain ⟨more, -⟩ := ih (splice blob offset original.length nop) (changed + 1)
        constructor
        · omega
        · intro none_changed
          omega
      · exact ih blob changed

/-- The script is the patcher of its table. -/
theorem main_eq_run {disk : Disk} (writes : disk.Writes) (sha256 : List UInt8 → String) :
    main disk sha256 = patches.run (Accepted sha256) := by
  funext argv files
  unfold main SiteTable.run
  split
  next program path =>
    split
    next => rfl
    next content here =>
      have blob := edit_blob patches.sites patches.wide content 0
      have kept := (edit_changed patches.sites content 0).2
      rw [normalize_eq]
      by_cases recognised : patches.Recognised content
      · rw [if_pos ((recognised_iff content).mp recognised)]
        by_cases digest : sha256 (patches.restore content) = originalSha256
        · have accepted : Accepted sha256 content := ⟨recognised, digest⟩
          have normalized : sha256
              (Patch.putAll content (patches.sites.map SiteTable.stock)) = originalSha256 := digest
          simp only [normalized, ne_eq, not_true, if_false, accepted, if_true]
          split
          next none_changed =>
            have same : patches.patch content = content := blob.symm.trans (kept none_changed)
            rw [same, ← here, Function.update_eq_self]
          next => rw [writes.save, blob]; rfl
        · have rejected : ¬ Accepted sha256 content := fun accepted => digest accepted.2
          have normalized : sha256
              (Patch.putAll content (patches.sites.map SiteTable.stock)) ≠ originalSha256 := digest
          simp only [normalized, ne_eq, not_false_iff, if_true, rejected, if_false]
      · have rejected : ¬ Accepted sha256 content := fun accepted => recognised accepted.1
        rw [if_neg fun all => recognised ((recognised_iff content).mpr all), if_neg rejected]
  next => rfl

theorem canonicalises {disk : Disk} (writes : disk.Writes) (sha256 : List UInt8 → String) :
    patches.Canonicalises (Accepted sha256) (main disk sha256) := by
  rw [main_eq_run writes]
  apply SiteTable.run_canonicalises
  · intro blob accepted
    exact accepted.1
  · intro blob other accepted variant
    refine ⟨variant.recognised, ?_⟩
    rw [variant.restore_eq accepted.1]
    exact accepted.2

end RetireFence

/-! ## AGPS data callbacks in the GPS HAL -/

namespace GpsCallbacks

def ret : List UInt8 := [0xc0, 0x03, 0x5f, 0xd6]

/-- The prologues of `request_data_conn` and `release_data_conn`. -/
def patches : SiteTable where
  replacement := ret
  sites := [
    (0x87CC, [0xff, 0x03, 0x03, 0xd1]),
    (0x8B20, [0xff, 0x03, 0x03, 0xd1])]
  pos := by decide
  wide := by decide
  apart := by decide

def edit : List (Nat × List UInt8) → List UInt8 → Option (List UInt8)
  | [], image => some image
  | (offset, expected) :: rest, image =>
      let current := slice image offset 4
      if current = ret then edit rest image
      else if current ≠ expected then none
      else edit rest (splice image offset 4 ret)

def main (disk : Disk) (argv : List String) (files : Files) : Exit :=
  match argv with
  | [_, path] =>
    match files path with
    | none => ⟨1, files⟩
    | some content =>
      match edit patches.sites content with
      | none => ⟨1, files⟩
      | some image => disk.save files path image
  | _ => ⟨2, files⟩

/-- The sites are apart, so an edit does not show in the checks after it. -/
theorem edit_eq (sites : List (Nat × List UInt8))
    (wide : ∀ site ∈ sites, site.2.length = 4)
    (apart : sites.Pairwise fun site other => site.1 + 4 ≤ other.1 ∨ other.1 + 4 ≤ site.1)
    (image : List UInt8) :
    edit sites image =
      if ∀ site ∈ sites, slice image site.1 4 = site.2 ∨ slice image site.1 4 = ret then
        some (Patch.putAll image (sites.map patches.patched))
      else none := by
  induction sites generalizing image with
  | nil => simp [edit, Patch.putAll]
  | cons site rest ih =>
      obtain ⟨offset, expected⟩ := site
      obtain ⟨first, later⟩ := List.pairwise_cons.mp apart
      have length : expected.length = 4 := wide _ List.mem_cons_self
      have rest_eq := ih (fun site here => wide site (List.mem_cons_of_mem _ here)) later
      rw [edit]
      by_cases already : slice image offset 4 = ret
      · have held : (patches.patched (offset, expected)).HeldBy image := already
        have same := Patch.put_of_heldBy (held.inside patches.pos) held
        rw [if_pos already, rest_eq]
        simp only [List.forall_mem_cons, already, or_true, true_and, List.map_cons, Patch.putAll,
          List.foldl_cons, same]
      rw [if_neg already]
      by_cases stock : slice image offset 4 = expected
      · have whole : offset + 4 ≤ image.length := slice_inside (by decide) (by rw [stock, length])
        have inside : (patches.patched (offset, expected)).Inside image := whole
        have edited : splice image offset 4 ret =
            Patch.put image (patches.patched (offset, expected)) := rfl
        have unseen : ∀ site ∈ rest,
            slice (splice image offset 4 ret) site.1 4 = slice image site.1 4 := by
          intro site here
          rw [edited]
          exact Patch.slice_put_of_apart inside (first site here)
        have checks : (∀ site ∈ rest, slice (splice image offset 4 ret) site.1 4 = site.2 ∨
              slice (splice image offset 4 ret) site.1 4 = ret) ↔
            ∀ site ∈ rest, slice image site.1 4 = site.2 ∨ slice image site.1 4 = ret :=
          forall₂_congr fun site here => by rw [unseen site here]
        rw [if_neg (not_not_intro stock), rest_eq]
        simp only [checks, List.forall_mem_cons, stock, true_or, true_and]
        rfl
      · rw [if_pos stock, if_neg]
        intro all
        rcases all _ List.mem_cons_self with held | held
        · exact stock held
        · exact already held

theorem main_eq_run {disk : Disk} (writes : disk.Writes) :
    main disk = patches.run patches.Recognised := by
  have recognised_iff : ∀ image, (∀ site ∈ patches.sites,
      slice image site.1 4 = site.2 ∨ slice image site.1 4 = ret) ↔ patches.Recognised image := by
    intro image
    refine forall₂_congr fun site here => ?_
    have wide : site.2.length = 4 := patches.wide site here
    simp only [Patch.HeldBy, SiteTable.stock, SiteTable.patched, wide]
    rfl
  funext argv files
  unfold main SiteTable.run
  split
  next program path =>
    split
    next => rfl
    next content here =>
      rw [edit_eq patches.sites patches.wide patches.apart]
      simp only [recognised_iff]
      by_cases recognised : patches.Recognised content
      · rw [if_pos recognised, if_pos recognised]
        exact writes.save _ _ _
      · rw [if_neg recognised, if_neg recognised]
  next => rfl

theorem canonicalises {disk : Disk} (writes : disk.Writes) :
    patches.Canonicalises patches.Recognised (main disk) := by
  rw [main_eq_run writes]
  exact SiteTable.run_canonicalises (fun _ recognised => recognised)
    fun _ _ _ variant => variant.recognised

end GpsCallbacks

/-- Both scripts, the first for any digest, as long as the write of a result succeeds. -/
theorem sitePatchers_canonicalise {disk : Disk} (writes : disk.Writes) :
    (∀ sha256, RetireFence.patches.Canonicalises (RetireFence.Accepted sha256)
        (RetireFence.main disk sha256)) ∧
      GpsCallbacks.patches.Canonicalises GpsCallbacks.patches.Recognised
        (GpsCallbacks.main disk) :=
  ⟨RetireFence.canonicalises writes, GpsCallbacks.canonicalises writes⟩

def replacing : Disk := fun files path content => (true, Function.update files path (some content))

/-- A HAL of which the second callback has been patched before. -/
def halfPatchedHal : List UInt8 :=
  List.replicate 0x87CC 0 ++ [0xff, 0x03, 0x03, 0xd1] ++
    (List.replicate (0x8B20 - 0x87D0) 0 ++ GpsCallbacks.ret)

theorem halfPatchedHal_recognised : GpsCallbacks.patches.Recognised halfPatchedHal := by
  decide +kernel

theorem sitePatchers_canonicalise_hal :
    (GpsCallbacks.main replacing ["patch", "gps.so"] fun _ => some halfPatchedHal).code = 0 :=
  ((sitePatchers_canonicalise fun _ _ _ => rfl).2.succeeds _ _).mpr
    ⟨"patch", "gps.so", halfPatchedHal, rfl, rfl, halfPatchedHal_recognised⟩

end Mt6757.Tools
