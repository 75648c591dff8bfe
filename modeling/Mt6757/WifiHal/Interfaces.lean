import Mathlib.Data.List.TakeDrop
import Mt6757.WifiHal.Initialize

/-!
# Two listings of the interfaces

`wifi_init_interfaces` counts the interfaces in one listing of a directory and fills the
array that it allocated for them from another.
-/

set_option autoImplicit false

namespace Mt6757.WifiHal.Initialize

def wifiNames (listing : List CString) : List CString := listing.filter isCounted

def InterfacesEnv.infoOf (env : InterfacesEnv) (this : Handle) (name : CString) : InterfaceInfo :=
  ⟨this, name, env.ifNametoindex name⟩

/-- What the array has at an index; `none` is memory that was not written. -/
def Interfaces.entry (interfaces : Interfaces) (i : Nat) : Option InterfaceInfo :=
  interfaces.stored[i]?.map Prod.snd

/-- All stores are inside the array, and the entries that are counted are those of the second
listing, in its order. -/
def InterfacesComplete (env : InterfacesEnv) (this : Handle) : Prop :=
  ∀ interfaces, (wifiInitInterfaces env this).result = some (.ok interfaces) →
    (∀ i < interfaces.stored.length, i < interfaces.alloc) ∧
      ∃ second, env.second = some second ∧
        (List.range interfaces.numInterfaces).map interfaces.entry =
          (wifiNames second).map fun name => some (env.infoOf this name)

/-- The interfaces of the second listing are as many as those of the first, and all their
names fit the field. -/
def ListingsAgree (first second : List CString) : Prop :=
  (wifiNames first).length = (wifiNames second).length ∧
    ∀ name ∈ wifiNames second, name.length ≤ 8

def InterfacesEnv.Allocates (env : InterfacesEnv) (names : List CString) (entry : Nat) : Prop :=
  ∀ i name, names[i]? = some name → isCounted name = true → env.entry (entry + i) = true

/-- Both directories are opened, the first has an interface, and no allocation fails. -/
structure InterfacesEnv.Scans (env : InterfacesEnv) (first second : List CString) : Prop where
  opened_first : env.first = some first
  some_counted : wifiNames first ≠ []
  opened_second : env.second = some second
  array : env.array = true
  entries : env.Allocates second 0

section Scans

variable {env : InterfacesEnv} {this : Handle} {first second : List CString}

theorem countP_isCounted (listing : List CString) :
    listing.countP isCounted = (wifiNames listing).length := List.countP_eq_length_filter

theorem wifiNames_cons (name : CString) (rest : List CString) :
    wifiNames (name :: rest) =
      if isCounted name then name :: wifiNames rest else wifiNames rest := List.filter_cons

theorem allocates_cons (name : CString) (rest : List CString) (entry : Nat) :
    env.Allocates (name :: rest) entry ↔
      (isCounted name = true → env.entry entry = true) ∧ env.Allocates rest (entry + 1) := by
  constructor
  · intro all
    refine ⟨all 0 name rfl, fun i later listed counted => ?_⟩
    rw [Nat.add_right_comm entry 1 i]
    exact all (i + 1) later listed counted
  · intro both i later listed counted
    cases i with
    | zero =>
        obtain rfl := Option.some.inj listed
        exact both.1 counted
    | succ i =>
        rw [← Nat.add_assoc, Nat.add_right_comm entry i 1]
        exact both.2 i later listed counted

theorem storeInterfaces_allocated (names : List CString) (entry : Nat)
    (allocated : env.Allocates names entry) :
    ∃ stored, (storeInterfaces env this names entry).result = some stored ∧
      stored.map Prod.snd = (wifiNames names).map fun name => (getInterface env this name).2 := by
  induction names generalizing entry with
  | nil => exact ⟨[], rfl, rfl⟩
  | cons name rest ih =>
      obtain ⟨here, after⟩ := (allocates_cons name rest entry).mp allocated
      obtain ⟨stored, later, infos⟩ := ih (entry + 1) after
      rw [storeInterfaces, wifiNames_cons]
      by_cases counted : isCounted name = true
      · rw [if_pos counted, if_pos counted, if_pos (here counted)]
        refine ⟨(⟨this, .interfaceInfo entry⟩, (getInterface env this name).2) :: stored, ?_, ?_⟩
        · exact congrArg (Option.map _) later
        · rw [List.map_cons, List.map_cons, infos]
      · rw [if_neg counted, if_neg counted]
        exact ⟨stored, later, infos⟩

theorem storeInterfaces_ended (names : List CString) (entry : Nat)
    {stored : List (Resource × InterfaceInfo)}
    (ended : (storeInterfaces env this names entry).result = some stored) :
    env.Allocates names entry := by
  induction names generalizing entry stored with
  | nil => exact fun i name listed => nomatch listed
  | cons name rest ih =>
      rw [allocates_cons]
      rw [storeInterfaces] at ended
      by_cases counted : isCounted name = true
      · rw [if_pos counted] at ended
        by_cases got : env.entry entry = true
        · rw [if_pos got] at ended
          obtain ⟨later, succeeded, -⟩ := Option.map_eq_some_iff.mp ended
          exact ⟨fun _ => got, ih (entry + 1) succeeded⟩
        · rw [if_neg got] at ended
          cases ended
      · rw [if_neg counted] at ended
        exact ⟨fun counted' => absurd counted' counted, ih (entry + 1) ended⟩

theorem wifiInitInterfaces_of_scans (scans : env.Scans first second) :
    ∃ stored, (wifiInitInterfaces env this).result =
        some (.ok ⟨⟨this, .interfaces⟩, (wifiNames first).length, stored,
          (wifiNames first).length⟩) ∧
      stored.map Prod.snd = (wifiNames second).map fun name => (getInterface env this name).2 := by
  obtain ⟨stored, filled, infos⟩ :=
    @storeInterfaces_allocated env this second 0 scans.entries
  refine ⟨stored, ?_, infos⟩
  have some_counted : ¬ (wifiNames first).length = 0 :=
    fun none => scans.some_counted (List.eq_nil_of_length_eq_zero none)
  simp only [wifiInitInterfaces, scans.opened_first, scans.opened_second, scans.array,
    countP_isCounted, if_neg some_counted, filled, Ended.after_result, Bool.not_true,
    Bool.false_eq_true, if_false]

theorem scans_of_success {interfaces : Interfaces}
    (success : (wifiInitInterfaces env this).result = some (.ok interfaces)) :
    ∃ first second, env.Scans first second := by
  unfold wifiInitInterfaces at success
  split at success
  · cases success
  · next first opened_first =>
    rw [countP_isCounted] at success
    dsimp only [Ended.after_result] at success
    split at success
    · cases success
    · next some_counted =>
      split at success
      · cases success
      · next second opened_second =>
        rw [Ended.after_result] at success
        split at success
        · cases success
        · next array =>
          rw [Ended.after_result] at success
          split at success
          · cases success
          · next stored filled =>
            refine ⟨first, second, opened_first, ?_, opened_second, by simpa using array,
              storeInterfaces_ended second 0 filled⟩
            intro none
            exact some_counted (by rw [none]; rfl)

end Scans

theorem getInterface_eq_iff (env : InterfacesEnv) (this : Handle) (name : CString) :
    (getInterface env this name).2 = env.infoOf this name ↔ name.length ≤ 8 := by
  rw [getInterface, InterfacesEnv.infoOf, InterfaceInfo.mk.injEq]
  simp only [true_and, and_true]
  exact List.take_eq_self_iff name

section Complete

variable {env : InterfacesEnv} {this : Handle} {first second : List CString}

theorem map_entry_range {interfaces : Interfaces}
    (filled : interfaces.stored.length = interfaces.numInterfaces) :
    (List.range interfaces.numInterfaces).map interfaces.entry =
      (interfaces.stored.map Prod.snd).map some := by
  apply List.ext_getElem (by simp [filled])
  intro i inRange inStored
  simp only [List.length_map, List.length_range] at inRange
  simp only [List.getElem_map, List.getElem_range, Interfaces.entry]
  rw [List.getElem?_eq_getElem (by omega), Option.map_some]

theorem entries_eq_iff {interfaces : Interfaces}
    (infos : interfaces.stored.map Prod.snd =
      (wifiNames second).map fun name => (getInterface env this name).2) :
    (List.range interfaces.numInterfaces).map interfaces.entry =
        ((wifiNames second).map fun name => some (env.infoOf this name)) ↔
      interfaces.numInterfaces = (wifiNames second).length ∧
        ∀ name ∈ wifiNames second, name.length ≤ 8 := by
  have stored_length := congrArg List.length infos
  rw [List.length_map, List.length_map] at stored_length
  -- with the right number of them, entry by entry
  have each (same : interfaces.numInterfaces = (wifiNames second).length) :
      (List.range interfaces.numInterfaces).map interfaces.entry =
          ((wifiNames second).map fun name => some (env.infoOf this name)) ↔
        ∀ name ∈ wifiNames second, name.length ≤ 8 := by
    rw [map_entry_range (by omega), infos, List.map_map, List.map_inj_left]
    refine forall₂_congr fun name _ => ?_
    rw [← getInterface_eq_iff env this name]
    exact Option.some_inj
  constructor
  · intro equal
    have same := congrArg List.length equal
    rw [List.length_map, List.length_map, List.length_range] at same
    exact ⟨same, (each same).mp equal⟩
  · intro both
    exact (each both.1).mpr both.2

/-- Whenever both scans and all allocations succeed, the interfaces are complete exactly if the
listings agree. -/
theorem interfaces_complete_iff (env : InterfacesEnv) (this : Handle) :
    InterfacesComplete env this ↔
      ∀ first second, env.Scans first second → ListingsAgree first second := by
  constructor
  · intro complete first second scans
    obtain ⟨stored, success, infos⟩ := @wifiInitInterfaces_of_scans _ this _ _ scans
    obtain ⟨-, listed, opened, entries⟩ := complete _ success
    obtain rfl := Option.some.inj (scans.opened_second.symm.trans opened)
    exact (entries_eq_iff infos).mp entries
  · intro agree interfaces success
    obtain ⟨first, second, scans⟩ := scans_of_success success
    obtain ⟨stored, result, infos⟩ := @wifiInitInterfaces_of_scans _ this _ _ scans
    rw [success] at result
    obtain rfl := Except.ok.inj (Option.some.inj result)
    obtain ⟨same, short⟩ := agree first second scans
    have stored_length := congrArg List.length infos
    rw [List.length_map, List.length_map] at stored_length
    refine ⟨fun i inStored => ?_, second, scans.opened_second,
      (entries_eq_iff infos).mpr ⟨same, short⟩⟩
    dsimp only at inStored ⊢
    omega

def vanishing : InterfacesEnv where
  first := some [CString.ascii "wlan0", CString.ascii "p2p0"]
  second := some [CString.ascii "wlan0"]
  array := true
  entry _ := true
  ifNametoindex _ := 3

theorem vanishing_scans :
    vanishing.Scans [CString.ascii "wlan0", CString.ascii "p2p0"] [CString.ascii "wlan0"] where
  opened_first := rfl
  some_counted := by decide
  opened_second := rfl
  array := rfl
  entries _ _ _ _ := rfl

/-- The second of two entries is never written when its interface goes away. -/
theorem interfaces_incomplete : ¬ ∀ env this, InterfacesComplete env this := by
  intro all
  obtain ⟨stored, success, infos⟩ := @wifiInitInterfaces_of_scans _ 0 _ _ vanishing_scans
  obtain ⟨-, listed, opened, entries⟩ := all vanishing 0 _ success
  obtain rfl := Option.some.inj (vanishing_scans.opened_second.symm.trans opened)
  have both := (entries_eq_iff infos).mp entries
  have fewer : (wifiNames [CString.ascii "wlan0", CString.ascii "p2p0"]).length ≠
      (wifiNames [CString.ascii "wlan0"]).length := by decide
  exact fewer both.1

end Complete

end Mt6757.WifiHal.Initialize
