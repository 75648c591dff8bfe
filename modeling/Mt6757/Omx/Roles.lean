import Mathlib.Data.List.Nodup
import Mathlib.Data.List.TakeWhile
import Mt6757.Lib.Ledger
import Mt6757.Omx.Plugin

/-!
# The roles of a component

`getRolesOfComponent` asks the core twice: for the number of roles, and then for their names
in buffers that it has allocated in between.
-/

set_option autoImplicit false

namespace Mt6757.Omx

abbrev RoleBuffer := Vector UInt8 128

/-- `Mtk_OMX_GetRolesOfComponent`, without buffers and with so many of them.  The second call
leaves a number and something in each buffer. -/
structure GetRoles where
  ask : CString → OmxError × UInt32
  fill : CString → UInt32 → OmxError × UInt32 × (Nat → RoleBuffer)

/-- What a call allocates: the array of pointers, and what each of them points to. -/
inductive Allocation where
  | values
  | role (i : Nat)
  deriving DecidableEq, Repr

abbrev AllocationEvent := Ledger.Event Allocation Unit

/-- What a call must not do: read a pointer behind the array, or a name on behind its
buffer. -/
inductive RoleFault where
  | slot
  | name
  deriving DecidableEq, Repr

structure RolesEnd where
  err : OmxError
  roles : List CString
  log : List AllocationEvent

def allocations (count : Nat) : List AllocationEvent :=
  .acquired .values :: (List.range count).map fun i => .acquired (.role i)

def releases (count : Nat) : List AllocationEvent :=
  (List.range count).map (fun i => .released (.role i)) ++ [.released .values]

def roleName (buffer : RoleBuffer) : CString := buffer.toList.takeWhile (· ≠ 0)

/-- The loop over the names that are left, with the pointers from the next one on. -/
def pushRoles : (left : Nat) → (values : List RoleBuffer) → Except RoleFault (List CString)
  | 0, _ => .ok []
  | _ + 1, [] => .error .slot
  | left + 1, buffer :: values =>
      if 0 ∈ buffer.toList then (pushRoles left values).map (roleName buffer :: ·)
      else .error .name

/-- A `new` that fails does not return. -/
def getRolesOfComponent (plugin : MtkOmxPlugin) (core : GetRoles) (name : CString) :
    Except RoleFault RolesEnd :=
  if !plugin.loaded then .ok ⟨.undefined, [], []⟩
  else
    let (err, count) := core.ask name
    if err ≠ .none ∨ count = 0 then .ok ⟨err, [], []⟩
    else
      let (err, returned, contents) := core.fill name count
      let log := allocations count.toNat ++ releases count.toNat
      if err = .none then
        (pushRoles returned.toNat ((List.range count.toNat).map contents)).map fun roles =>
          ⟨err, roles, log⟩
      else .ok ⟨err, [], log⟩

namespace GetRoles

variable (core : GetRoles) (name : CString)

def count : UInt32 := (core.ask name).2

def returned : Nat := (core.fill name (core.count name)).2.1.toNat

def buffer (i : Nat) : RoleBuffer := (core.fill name (core.count name)).2.2 i

structure Succeeds : Prop where
  asked : (core.ask name).1 = .none
  some_role : core.count name ≠ 0
  filled : (core.fill name (core.count name)).1 = .none

def returnedNames : List CString :=
  (List.range (core.returned name)).map fun i => roleName (core.buffer name i)

/-- The second call gives no more names than there are buffers, and each of them ends in its
buffer. -/
def FillsWithin : Prop :=
  core.returned name ≤ (core.count name).toNat ∧
    ∀ i < core.returned name, 0 ∈ (core.buffer name i).toList

end GetRoles

/-- The call comes to an end without reading outside its buffers, each of them is freed once,
and there are no roles, or those that the core has returned. -/
def RolesRight (plugin : MtkOmxPlugin) (core : GetRoles) (name : CString) : Prop :=
  ∃ ended, getRolesOfComponent plugin core name = .ok ended ∧
    Ledger.Settled (fun _ => ()) ended.log () ∧
      (ended.roles = [] ∨ core.Succeeds name ∧ ended.roles = core.returnedNames name)

section Roles

variable {plugin : MtkOmxPlugin} {core : GetRoles} {name : CString}

theorem allocations_settled (count : Nat) :
    Ledger.Settled (fun _ => ()) (allocations count ++ releases count) () := by
  intro buffer _ acquired
  have none : (allocations count).count (.released buffer) = 0 := by
    refine List.count_eq_zero_of_not_mem fun here => ?_
    simp [allocations] at here
  have distinct : (releases count).Nodup := by
    have roles : ((List.range count).map fun i =>
        (.released (.role i) : AllocationEvent)).Nodup := by
      refine List.Nodup.map (fun i i' same => ?_) List.nodup_range
      simpa using same
    refine List.nodup_append.mpr ⟨roles, List.nodup_singleton _, ?_⟩
    intro event here event' here'
    obtain ⟨i, -, rfl⟩ := List.mem_map.mp here
    rw [List.mem_singleton.mp here']
    simp
  have released : .released buffer ∈ releases count := by
    rcases List.mem_append.mp acquired with inFirst | inSecond
    · simp only [allocations, List.mem_cons, List.mem_map, List.mem_range] at inFirst
      rcases inFirst with same | ⟨i, below, same⟩
      · obtain rfl := Ledger.Event.acquired.inj same
        exact List.mem_append_right _ (List.mem_singleton_self _)
      · obtain rfl := Ledger.Event.acquired.inj same
        exact List.mem_append_left _ (List.mem_map.mpr ⟨i, List.mem_range.mpr below, rfl⟩)
    · simp [releases] at inSecond
  rw [List.count_append, none, Nat.zero_add]
  exact List.count_eq_one_of_mem distinct released

theorem pushRoles_of_within {left : Nat} {values : List RoleBuffer} (enough : left ≤ values.length)
    (ends : ∀ buffer ∈ values.take left, 0 ∈ buffer.toList) :
    pushRoles left values = .ok ((values.take left).map roleName) := by
  induction left generalizing values with
  | zero => rfl
  | succ left ih =>
      cases values with
      | nil => cases enough
      | cons buffer values =>
          rw [List.take_succ_cons, List.forall_mem_cons] at ends
          rw [pushRoles, if_pos ends.1, ih (Nat.le_of_succ_le_succ enough) ends.2]
          rfl

theorem within_of_pushRoles {left : Nat} {values : List RoleBuffer} {roles : List CString}
    (read : pushRoles left values = .ok roles) :
    left ≤ values.length ∧ ∀ buffer ∈ values.take left, 0 ∈ buffer.toList := by
  induction left generalizing values roles with
  | zero => exact ⟨Nat.zero_le _, fun buffer here => nomatch here⟩
  | succ left ih =>
      cases values with
      | nil => cases read
      | cons buffer values =>
          rw [pushRoles] at read
          split at read
          · next here =>
            cases later : pushRoles left values with
            | error fault =>
                rw [later] at read
                cases read
            | ok roles' =>
                obtain ⟨enough, ends⟩ := ih later
                refine ⟨Nat.succ_le_succ enough, ?_⟩
                rw [List.take_succ_cons, List.forall_mem_cons]
                exact ⟨here, ends⟩
          · cases read

def GetRoles.values (core : GetRoles) (name : CString) : List RoleBuffer :=
  (List.range (core.count name).toNat).map (core.buffer name)

theorem values_take_of_le (enough : core.returned name ≤ (core.count name).toNat) :
    (core.values name).take (core.returned name) =
      (List.range (core.returned name)).map (core.buffer name) := by
  rw [GetRoles.values, ← List.map_take, List.take_range, Nat.min_eq_left enough]

theorem fillsWithin_iff :
    core.FillsWithin name ↔ core.returned name ≤ (core.values name).length ∧
      ∀ buffer ∈ (core.values name).take (core.returned name), 0 ∈ buffer.toList := by
  have length : (core.values name).length = (core.count name).toNat := by
    rw [GetRoles.values, List.length_map, List.length_range]
  rw [length, GetRoles.FillsWithin]
  refine and_congr_right fun enough => ?_
  rw [values_take_of_le enough, List.forall_mem_map]
  simp only [List.mem_range]

theorem getRolesOfComponent_of_succeeds (loaded : plugin.loaded = true)
    (succeeds : core.Succeeds name) :
    getRolesOfComponent plugin core name =
      (pushRoles (core.returned name) (core.values name)).map fun roles =>
        ⟨.none, roles, allocations (core.count name).toNat ++
          releases (core.count name).toNat⟩ := by
  have filled := succeeds.filled
  have some_role := succeeds.some_role
  rw [GetRoles.count] at filled some_role
  simp only [getRolesOfComponent, loaded, succeeds.asked, some_role, filled, Bool.not_true,
    Bool.false_eq_true, if_false, ne_eq, not_true_eq_false, or_self, if_true]
  rfl

theorem fillsWithin_of_ended (loaded : plugin.loaded = true) (succeeds : core.Succeeds name)
    (ends : ∃ ended, getRolesOfComponent plugin core name = .ok ended) : core.FillsWithin name := by
  obtain ⟨ended, ran⟩ := ends
  rw [getRolesOfComponent_of_succeeds loaded succeeds] at ran
  cases read : pushRoles (core.returned name) (core.values name) with
  | error fault =>
      rw [read] at ran
      cases ran
  | ok roles => exact fillsWithin_iff.mpr (within_of_pushRoles read)

theorem getRolesOfComponent_of_fails (fails : ¬ (plugin.loaded = true ∧ core.Succeeds name)) :
    ∃ ended, getRolesOfComponent plugin core name = .ok ended ∧ ended.roles = [] ∧
      Ledger.Settled (fun _ => ()) ended.log () := by
  unfold getRolesOfComponent
  split
  · exact ⟨_, rfl, rfl, Ledger.settled_nil⟩
  · next loaded =>
    dsimp only
    split
    · exact ⟨_, rfl, rfl, Ledger.settled_nil⟩
    · next reached =>
      obtain ⟨asked, some_role⟩ := not_or.mp reached
      split
      · next filled =>
        refine absurd ⟨by simpa using loaded, ?_⟩ fails
        exact ⟨not_not.mp asked, some_role, filled⟩
      · exact ⟨_, rfl, rfl, allocations_settled _⟩

/-- The call is right exactly if, where both calls of the core succeed, the second one stays
within what the first one announced. -/
theorem roles_right_iff (plugin : MtkOmxPlugin) (core : GetRoles) (name : CString) :
    RolesRight plugin core name ↔
      (plugin.loaded = true ∧ core.Succeeds name → core.FillsWithin name) := by
  by_cases reads : plugin.loaded = true ∧ core.Succeeds name
  · obtain ⟨loaded, succeeds⟩ := reads
    constructor
    · rintro ⟨ended, ran, -, -⟩ -
      exact fillsWithin_of_ended loaded succeeds ⟨ended, ran⟩
    · intro within
      have fills := fillsWithin_iff.mp (within ⟨loaded, succeeds⟩)
      rw [RolesRight, getRolesOfComponent_of_succeeds loaded succeeds,
        pushRoles_of_within fills.1 fills.2]
      refine ⟨_, rfl, allocations_settled _, .inr ⟨succeeds, ?_⟩⟩
      dsimp only
      rw [values_take_of_le (fillsWithin_iff.mpr fills).1, List.map_map]
      rfl
  · obtain ⟨ended, ran, none, settled⟩ := getRolesOfComponent_of_fails reads
    exact ⟨fun _ here => absurd here reads, fun _ => ⟨ended, ran, settled, .inl none⟩⟩

def growing : GetRoles where
  ask _ := (.none, 1)
  fill _ _ := (.none, 2, fun _ => Vector.replicate 128 0)

/-- The second pointer is read behind the array. -/
theorem roles_not_right : ¬ ∀ plugin core name, RolesRight plugin core name := by
  intro all
  obtain ⟨ended, ran, -⟩ := all ⟨true, coreOf []⟩ growing []
  have succeeds : growing.Succeeds [] := ⟨rfl, by decide, rfl⟩
  have within := fillsWithin_of_ended rfl succeeds ⟨ended, ran⟩
  exact absurd within.1 (by decide)

end Roles

end Mt6757.Omx
