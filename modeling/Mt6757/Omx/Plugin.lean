import Mt6757.Lib.CString

/-!
# The OMX plugin

`MtkOMXPlugin` hides the components of the MTK core that cannot work.  It
exposes the list of the core without them, by an index of its own, and refuses
to make an instance of a hidden one.
-/

set_option autoImplicit false

namespace Mt6757.Omx

open CString

abbrev Ptr := Nat

inductive OmxError where
  | none
  | undefined
  | componentNotFound
  | other (code : UInt32)
  deriving DecidableEq, Repr

/-- The entry points loaded from `libMtkOmxCore.so`.  A call of
`componentNameEnum` leaves a string in the caller's buffer also when it fails. -/
structure MtkOmxCore where
  componentNameEnum : (size index : UInt32) → OmxError × CString
  getHandle : (name : Option CString) → (appData callbacks : Ptr) → OmxError × Option Ptr

/-- `mHandle` is null when the core could not be loaded or set up. -/
structure MtkOmxPlugin where
  loaded : Bool
  core : MtkOmxCore

def isBrokenComponent : Option CString → Bool
  | none => false
  | some name =>
      strcmp name (ascii "OMX.MTK.VIDEO.ENCODER.AVC") == 0 ||
        strncmp (ascii "OMX.MTK.VIDEO.DECODER.").length name
          (ascii "OMX.MTK.VIDEO.DECODER.") == 0

/-- What the caller gets, and whether the core was asked for an instance. -/
def makeComponentInstance (plugin : MtkOmxPlugin) (name : Option CString)
    (callbacks appData : Ptr) : (OmxError × Option Ptr) × Bool :=
  if !plugin.loaded then ((.undefined, none), false)
  else if isBrokenComponent name then ((.componentNotFound, none), false)
  else (plugin.core.getHandle name appData callbacks, true)

/-- The loop of `enumerateComponents`; it has no bound of its own. -/
def enumerateFrom (core : MtkOmxCore) (size index : UInt32) :
    (fuel : Nat) → (raw visible : UInt32) → Option (OmxError × CString)
  | 0, _, _ => none
  | fuel + 1, raw, visible =>
      let (err, name) := core.componentNameEnum size raw
      if err ≠ .none then some (err, name)
      else if isBrokenComponent (some name) then
        enumerateFrom core size index fuel (raw + 1) visible
      else if visible = index then some (.none, name)
      else enumerateFrom core size index fuel (raw + 1) (visible + 1)

def enumerateComponents (plugin : MtkOmxPlugin) (size index : UInt32) (fuel : Nat) :
    Option (OmxError × CString) :=
  if !plugin.loaded then some (.undefined, [])
  else enumerateFrom plugin.core size index fuel 0 0

/-- A caller that asks for indices from `index` on until the first error. -/
def namesFrom (plugin : MtkOmxPlugin) (size : UInt32) (fuel : Nat) :
    (calls : Nat) → (index : UInt32) → Option (List CString)
  | 0, _ => none
  | calls + 1, index => do
      let (err, name) ← enumerateComponents plugin size index fuel
      if err = .none then
        let rest ← namesFrom plugin size fuel calls (index + 1)
        some (name :: rest)
      else some []

/-- The core gives these names below their number and an error from there on. -/
structure Enumerates (core : MtkOmxCore) (size : UInt32) (names : List CString) : Prop where
  success : ∀ raw : UInt32, ∀ name, names[raw.toNat]? = some name →
    core.componentNameEnum size raw = (.none, name)
  failure : ∀ raw : UInt32, names.length ≤ raw.toNat →
    (core.componentNameEnum size raw).1 ≠ .none
  ends : names.length < UInt32.size

def visibleNames (names : List CString) : List CString :=
  names.filter fun name => !isBrokenComponent (some name)

section Enumeration

variable {core : MtkOmxCore} {size : UInt32} {names : List CString}

theorem toNat_succ {raw : UInt32} (below : raw.toNat + 1 < UInt32.size) :
    (raw + 1).toNat = raw.toNat + 1 := by
  rw [UInt32.toNat_add]
  simp only [UInt32.size] at below
  have one : (1 : UInt32).toNat = 1 := rfl
  omega

theorem enumerateFrom_spec (enumerates : Enumerates core size names) (index : UInt32)
    (rest : List CString) {raw visible : UInt32} {fuel : Nat}
    (here : names.drop raw.toNat = rest) (inList : raw.toNat + rest.length = names.length)
    (seen : visible.toNat ≤ raw.toNat) (notYet : visible.toNat ≤ index.toNat)
    (enough : rest.length < fuel) :
    ∃ err name, enumerateFrom core size index fuel raw visible = some (err, name) ∧
      match (visibleNames rest)[index.toNat - visible.toNat]? with
      | some found => err = .none ∧ name = found
      | none => err ≠ .none := by
  have ends := enumerates.ends
  induction rest generalizing raw visible fuel with
  | nil =>
      obtain ⟨fuel, rfl⟩ := Nat.exists_eq_succ_of_ne_zero (Nat.ne_of_gt enough)
      have atEnd : names.length ≤ raw.toNat := by
        simp only [List.length_nil] at inList
        omega
      have failed := enumerates.failure raw atEnd
      refine ⟨_, (core.componentNameEnum size raw).2, ?_, failed⟩
      simp only [enumerateFrom]
      rw [if_pos failed]
  | cons first rest ih =>
      obtain ⟨fuel, rfl⟩ := Nat.exists_eq_succ_of_ne_zero (Nat.ne_of_gt (Nat.zero_lt_of_lt enough))
      simp only [List.length_cons] at inList enough
      have found : names[raw.toNat]? = some first := by
        rw [← List.head?_drop, here]
        rfl
      have step : (raw + 1).toNat = raw.toNat + 1 := toNat_succ (by omega)
      have here' : names.drop (raw + 1).toNat = rest := by
        rw [step, ← List.drop_drop, here]
        rfl
      simp only [enumerateFrom, enumerates.success raw first found, ne_eq, not_true_eq_false,
        if_false]
      by_cases broken : isBrokenComponent (some first) = true
      · rw [if_pos broken]
        have skipped : visibleNames (first :: rest) = visibleNames rest := by
          simp [visibleNames, broken]
        rw [skipped]
        exact ih here' (by omega) (by omega) notYet (by omega)
      · rw [if_neg broken]
        have kept : visibleNames (first :: rest) = first :: visibleNames rest := by
          simp [visibleNames, broken]
        rw [kept]
        by_cases asked : visible = index
        · refine ⟨.none, first, if_pos asked, ?_⟩
          simp [asked]
        · rw [if_neg asked]
          have differ : visible.toNat ≠ index.toNat := fun same => asked (UInt32.toNat_inj.mp same)
          have next : (visible + 1).toNat = visible.toNat + 1 := toNat_succ (by omega)
          have shift : index.toNat - visible.toNat = index.toNat - (visible + 1).toNat + 1 := by
            omega
          rw [shift, List.getElem?_cons_succ]
          exact ih here' (by omega) (by omega) (by omega) (by omega)

theorem enumerateComponents_spec {plugin : MtkOmxPlugin} (loaded : plugin.loaded = true)
    (enumerates : Enumerates plugin.core size names) (index : UInt32) {fuel : Nat}
    (enough : names.length < fuel) :
    ∃ err name, enumerateComponents plugin size index fuel = some (err, name) ∧
      match (visibleNames names)[index.toNat]? with
      | some found => err = .none ∧ name = found
      | none => err ≠ .none := by
  unfold enumerateComponents
  rw [loaded]
  exact enumerateFrom_spec enumerates index names rfl (Nat.zero_add _) (Nat.le_refl 0)
    (Nat.zero_le _) enough

theorem namesFrom_spec {plugin : MtkOmxPlugin} (loaded : plugin.loaded = true)
    (enumerates : Enumerates plugin.core size names) {fuel : Nat} (enough : names.length < fuel)
    (rest : List CString) {index : UInt32} {calls : Nat}
    (here : (visibleNames names).drop index.toNat = rest)
    (inList : index.toNat + rest.length = (visibleNames names).length)
    (enoughCalls : rest.length < calls) :
    namesFrom plugin size fuel calls index = some rest := by
  have shorter : (visibleNames names).length ≤ names.length := List.length_filter_le _ _
  have ends := enumerates.ends
  induction rest generalizing index calls with
  | nil =>
      obtain ⟨calls, rfl⟩ := Nat.exists_eq_succ_of_ne_zero (Nat.ne_of_gt enoughCalls)
      obtain ⟨err, name, returned, isError⟩ :=
        enumerateComponents_spec loaded enumerates index enough
      have atEnd : (visibleNames names)[index.toNat]? = none := by
        rw [← List.head?_drop, here]
        rfl
      rw [atEnd] at isError
      simp [namesFrom, returned, isError]
  | cons first rest ih =>
      obtain ⟨calls, rfl⟩ :=
        Nat.exists_eq_succ_of_ne_zero (Nat.ne_of_gt (Nat.zero_lt_of_lt enoughCalls))
      simp only [List.length_cons] at inList enoughCalls
      obtain ⟨err, name, returned, isFirst⟩ :=
        enumerateComponents_spec loaded enumerates index enough
      have found : (visibleNames names)[index.toNat]? = some first := by
        rw [← List.head?_drop, here]
        rfl
      rw [found] at isFirst
      obtain ⟨rfl, rfl⟩ := isFirst
      have step : (index + 1).toNat = index.toNat + 1 := toNat_succ (by omega)
      have here' : (visibleNames names).drop (index + 1).toNat = rest := by
        rw [step, ← List.drop_drop, here]
        rfl
      have listed := ih here' (by omega) (show rest.length < calls by omega)
      simp [namesFrom, returned, listed]

end Enumeration

def RejectedAsBroken (plugin : MtkOmxPlugin) (name : CString) (callbacks appData : Ptr) : Prop :=
  makeComponentInstance plugin (some name) callbacks appData =
    ((.componentNotFound, none), false)

theorem rejectedAsBroken_iff {plugin : MtkOmxPlugin} (loaded : plugin.loaded = true)
    (name : CString) (callbacks appData : Ptr) :
    RejectedAsBroken plugin name callbacks appData ↔ isBrokenComponent (some name) = true := by
  unfold RejectedAsBroken makeComponentInstance
  rw [loaded]
  by_cases broken : isBrokenComponent (some name) = true
  · simp [broken]
  · simp [broken]

/-- The plugin lists exactly the names of the core that are not broken, in their
order, every call of it returns, and an instance is refused exactly for the names
that are left out. -/
theorem enumerateComponents_visible {plugin : MtkOmxPlugin} (loaded : plugin.loaded = true)
    {size : UInt32} {names : List CString} (enumerates : Enumerates plugin.core size names)
    (callbacks appData : Ptr) {fuel : Nat} (enough : names.length < fuel) :
    (∀ index, (enumerateComponents plugin size index fuel).isSome) ∧
      namesFrom plugin size fuel fuel 0 = some (visibleNames names) ∧
      (∀ name ∈ visibleNames names, ¬ RejectedAsBroken plugin name callbacks appData) ∧
      ∀ name ∈ names, name ∉ visibleNames names →
        RejectedAsBroken plugin name callbacks appData := by
  refine ⟨fun index => ?_, ?_, fun name listed => ?_, fun name member hidden => ?_⟩
  · obtain ⟨err, name, returned, _⟩ := enumerateComponents_spec loaded enumerates index enough
    rw [returned]
    rfl
  · apply namesFrom_spec loaded enumerates enough
    · rfl
    · exact Nat.zero_add _
    · exact Nat.lt_of_le_of_lt (List.length_filter_le _ _) enough
  · rw [rejectedAsBroken_iff loaded]
    have isVisible := (List.mem_filter.mp listed).2
    simpa using isVisible
  · rw [rejectedAsBroken_iff loaded]
    by_contra usable
    exact hidden (List.mem_filter.mpr ⟨member, by simpa using usable⟩)


def coreOf (names : List CString) : MtkOmxCore where
  componentNameEnum := fun _ raw =>
    match names[raw.toNat]? with
    | some name => (.none, name)
    | none => (.other 0x8000100E, [])
  getHandle := fun _ _ _ => (.none, some 1)

theorem coreOf_enumerates (size : UInt32) {names : List CString}
    (ends : names.length < UInt32.size) : Enumerates (coreOf names) size names where
  success := fun raw name found => by simp [coreOf, found]
  failure := fun raw atEnd => by simp [coreOf, List.getElem?_eq_none atEnd]
  ends := ends

def fourNames : List CString :=
  [ascii "OMX.MTK.VIDEO.DECODER.AVC", ascii "OMX.MTK.AUDIO", ascii "OMX.MTK.AUDIO",
    ascii "OMX.MTK.VIDEO.DECODER.VPX"]

theorem enumerateComponents_visible_of_four :
    namesFrom ⟨true, coreOf fourNames⟩ 128 5 5 0 =
      some [ascii "OMX.MTK.AUDIO", ascii "OMX.MTK.AUDIO"] := by
  have enumerates : Enumerates (coreOf fourNames) 128 fourNames :=
    coreOf_enumerates 128 (by decide)
  have loaded : (⟨true, coreOf fourNames⟩ : MtkOmxPlugin).loaded = true := rfl
  have enough : fourNames.length < 5 := by decide
  exact (enumerateComponents_visible loaded enumerates 0 0 enough).2.1

end Mt6757.Omx
