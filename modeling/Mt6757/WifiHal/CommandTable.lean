import Mt6757.Lib.Sections
import Mt6757.WifiHal.System

/-!
# The command table without a lock

`wifi_register_cmd` and `wifi_unregister_cmd` read and write `num_cmd` and the slots
under no lock, so other threads run between their accesses.  A run in which neither
stores while the other thread is inside one of them is a run of whole calls.
-/

set_option autoImplicit false

namespace Mt6757.WifiHal

open CommandTree

/-! ## Single accesses -/

/-- `behind` is the number of entries that `memmove` is given, and `moveDown` its
work on one of them. -/
inductive TableAccess where
  | numCmd
  | allocCmd
  | slotId (index : Nat)
  | slotCmd (index : Nat)
  | behind (index : Nat)
  | storeId (index : Nat) (id : Int32)
  | storeCmd (index : Nat) (cmd : Ptr)
  | moveDown (index : Nat)
  | storeNumCmd (num : Int)
  deriving DecidableEq, Repr

namespace TableAccess

abbrev Answer : TableAccess → Type
  | .numCmd => Nat
  | .allocCmd => Nat
  | .slotId _ => Int32
  | .slotCmd _ => Ptr
  | .behind _ => Nat
  | .storeId _ _ => Unit
  | .storeCmd _ _ => Unit
  | .moveDown _ => Unit
  | .storeNumCmd _ => Unit

def setSlot (table : CompactArray CmdInfo) (index : Nat) (entry : CmdInfo) :
    CompactArray CmdInfo :=
  { table with slot := Function.update table.slot index entry }

def setNum (table : CompactArray CmdInfo) (num : Int) : CompactArray CmdInfo :=
  if fits : num.toNat ≤ table.alloc then { table with num := num.toNat, bound := fits } else table

def exec : (m : TableAccess) → CompactArray CmdInfo → m.Answer × CompactArray CmdInfo
  | .numCmd, table => (table.num, table)
  | .allocCmd, table => (table.alloc, table)
  | .slotId index, table => ((table.slot index).id, table)
  | .slotCmd index, table => ((table.slot index).cmd, table)
  | .behind index, table => (table.num - index - 1, table)
  | .storeId index id, table => ((), setSlot table index { table.slot index with id := id })
  | .storeCmd index cmd, table => ((), setSlot table index { table.slot index with cmd := cmd })
  | .moveDown index, table => ((), setSlot table index (table.slot (index + 1)))
  | .storeNumCmd num, table => ((), setNum table num)

def stores : TableAccess → Bool
  | .storeId _ _ => true
  | .storeCmd _ _ => true
  | .moveDown _ => true
  | .storeNumCmd _ => true
  | _ => false

/-- Inside the array, with a length that is not negative. -/
def Defined : TableAccess → CompactArray CmdInfo → Prop
  | .numCmd, _ => True
  | .allocCmd, _ => True
  | .slotId index, table => index < table.alloc
  | .slotCmd index, table => index < table.alloc
  | .behind index, table => index < table.num
  | .storeId index _, table => index < table.alloc
  | .storeCmd index _, table => index < table.alloc
  | .moveDown index, table => index + 1 < table.alloc
  | .storeNumCmd num, table => 0 ≤ num ∧ num.toNat ≤ table.alloc

end TableAccess

/-! ## The two functions -/

abbrev TableProg (α : Type) : Type := Prog TableAccess TableAccess.Answer α

abbrev accessTable (m : TableAccess) : TableProg m.Answer := Prog.perform m

/-- `wifi_register_cmd`; every mention of `info->num_cmd` is a read of its own. -/
def registerCmdBody (id : Int32) (cmd : Ptr) : TableProg (WifiError × Option TableAccess) := do
  let num ← accessTable .numCmd
  let alloc ← accessTable .allocCmd
  if num < alloc then do
    let index ← accessTable .numCmd
    accessTable (.storeId index id)
    let index ← accessTable .numCmd
    accessTable (.storeCmd index cmd)
    let num ← accessTable .numCmd
    .ret (wifiSuccess, some (.storeNumCmd (num + 1)))
  else .ret (wifiErrorOutOfMemory, none)

def moveDown : (count index : Nat) → TableProg Unit
  | 0, _ => .ret ()
  | count + 1, index => do
      accessTable (.moveDown index)
      moveDown count (index + 1)

/-- The loop of `wifi_unregister_cmd` from a test on that has read `num`. -/
def unregisterCmdFrom (id : Int32) : (rounds index num : Nat) →
    TableProg (Option Ptr × Option TableAccess)
  | 0, _, _ => .ret (none, none)
  | rounds + 1, index, num =>
      if index < num then do
        let slotId ← accessTable (.slotId index)
        if slotId = id then do
          let cmd ← accessTable (.slotCmd index)
          let count ← accessTable (.behind index)
          moveDown count index
          let num ← accessTable .numCmd
          .ret (some cmd, some (.storeNumCmd (num - 1)))
        else do
          let num ← accessTable .numCmd
          unregisterCmdFrom id rounds (index + 1) num
      else .ret (none, none)

/-- `num_cmd` never exceeds `alloc_cmd`, so the loop ends before its rounds do. -/
def unregisterCmdBody (id : Int32) : TableProg (Option Ptr × Option TableAccess) := do
  let num ← accessTable .numCmd
  let alloc ← accessTable .allocCmd
  unregisterCmdFrom id (alloc + 1) 0 num

namespace World

def setTable (table : CompactArray CmdInfo) (world : World) : World :=
  world.setInfo { world.info with cmd := table }

/-- Who holds the reference, and what is requested, after a registration. -/
def registered (world : World) (t : Thread) (id : Int32) (cmd : Ptr) (result : WifiError) :
    World :=
  if result = wifiSuccess then
    { world.take t cmd with outstanding := ((world.heap cmd).mType, id) :: world.outstanding }
  else world

def unregistered (world : World) (t : Thread) (owner : Option Ptr) (id : Int32)
    (found : Option Ptr) : World :=
  let received := match found with
    | none => world
    | some cmd => world.give t cmd
  match owner with
  | none => received
  | some this => received.withdraw (world.heap this).mType id

end World

/-- The two functions are sections on the command table; of the other operations
only the loop of `wifi_cleanup` reads a slot. -/
abbrev commandTable : Sections Thread HalOp Res World where
  Part := CompactArray CmdInfo
  get := fun world => world.info.cmd
  set := World.setTable
  Access := TableAccess
  Answer := TableAccess.Answer
  access := TableAccess.exec
  stores := TableAccess.stores
  defined := TableAccess.Defined
  body := fun op =>
    match op with
    | .wifiRegisterCmd id cmd => some (registerCmdBody id cmd)
    | .wifiUnregisterCmd _ id => some (unregisterCmdBody id)
    | _ => none
  exposed := fun op =>
    match op with
    | .cmdAt _ => true
    | _ => false
  history := fun t op =>
    match op with
    | .wifiRegisterCmd id cmd => fun result world => world.registered t id cmd result
    | .wifiUnregisterCmd owner id => fun found world => world.unregistered t owner id found
    | _ => fun _ world => world

/-! ## What the functions do when nothing disturbs them -/

section Bodies

variable (table : CompactArray CmdInfo)

theorem setNum_of_le {slot : Nat → CmdInfo} {num num' alloc : Nat} {bound : num ≤ alloc}
    (fits : num' ≤ alloc) :
    TableAccess.setNum ⟨slot, num, alloc, bound⟩ num' = ⟨slot, num', alloc, fits⟩ :=
  dif_pos fits

theorem finish_registerCmdBody (id : Int32) (cmd : Ptr) :
    commandTable.finish (registerCmdBody id cmd) table =
      match table.push ⟨id, cmd⟩ with
      | some pushed => (wifiSuccess, pushed)
      | none => (wifiErrorOutOfMemory, table) := by
  by_cases room : table.num < table.alloc
  · have pushed : table.push ⟨id, cmd⟩ = some
        ⟨Function.update table.slot table.num ⟨id, cmd⟩, table.num + 1, table.alloc, room⟩ :=
      dif_pos room
    rw [pushed]
    have more : ((table.num : Int) + 1) = ((table.num + 1 : Nat) : Int) := by omega
    simp only [Sections.finish, registerCmdBody, commandTable, TableAccess.exec, room,
      Sections.applyLast, TableAccess.setSlot, Prog.perform_bind, Prog.run_call, if_pos,
      Prog.run_ret, Function.update_self, Function.update_idem, more]
    exact Prod.ext rfl (setNum_of_le room)
  · have full : table.push ⟨id, cmd⟩ = none := dif_neg room
    rw [full]
    simp [Sections.finish, registerCmdBody, commandTable, TableAccess.exec, room,
      Sections.applyLast]

/-- The entries behind a slot come down in the order in which memmove reads them. -/
theorem run_moveDown (count index : Nat) :
    (moveDown count index).run TableAccess.exec table =
      ((), { table with slot := CompactArray.memmove table.slot index (index + 1) count }) := by
  induction count generalizing index table with
  | zero =>
      have unmoved : CompactArray.memmove table.slot index (index + 1) 0 = table.slot := by
        funext i
        exact if_neg (by omega)
      rw [unmoved]
      rfl
  | succ count ih =>
      have moved : CompactArray.memmove (Function.update table.slot index (table.slot (index + 1)))
          (index + 1) (index + 1 + 1) count =
          CompactArray.memmove table.slot index (index + 1) (count + 1) := by
        funext i
        unfold CompactArray.memmove
        by_cases here : i = index
        · subst here
          rw [if_neg (by omega), if_pos (by omega), Function.update_self]
          congr 1
          omega
        · by_cases within : index + 1 ≤ i ∧ i < index + 1 + count
          · rw [if_pos within, if_pos (by omega), Function.update_of_ne (by omega)]
            congr 1
            omega
          · rw [if_neg within, if_neg (by omega), Function.update_of_ne here]
      simp only [moveDown, Prog.perform_bind, Prog.run_call, TableAccess.exec]
      rw [ih, TableAccess.setSlot, moved]

theorem finish_unregisterCmdFrom (id : Int32) (rounds index : Nat)
    (enough : table.num < index + rounds) :
    commandTable.finish (unregisterCmdFrom id rounds index table.num) table =
      match CompactArray.firstIndex (fun entry => entry.id == id) table.slot index
          (table.num - index) with
      | none => (none, table)
      | some i => (some (table.slot i).cmd,
          ⟨CompactArray.memmove table.slot i (i + 1) (table.num - i - 1), table.num - 1,
            table.alloc, (Nat.sub_le _ _).trans table.bound⟩) := by
  induction rounds generalizing index with
  | zero =>
      rw [Nat.sub_eq_zero_of_le (by omega)]
      rfl
  | succ rounds ih =>
      by_cases inUse : index < table.num
      · obtain ⟨left, isLeft⟩ : ∃ left, table.num - index = left + 1 :=
          ⟨table.num - index - 1, by omega⟩
        rw [isLeft]
        by_cases hit : (table.slot index).id = id
        · have first : CompactArray.firstIndex (fun entry => entry.id == id) table.slot index
              (left + 1) = some index := by
            simp [CompactArray.firstIndex, hit]
          rw [first]
          have fits : table.num - 1 ≤ table.alloc := (Nat.sub_le _ _).trans table.bound
          have less : ((table.num : Int) - 1) = ((table.num - 1 : Nat) : Int) := by omega
          simp only [Sections.finish, unregisterCmdFrom, commandTable, TableAccess.exec, inUse, hit,
            Sections.applyLast, Prog.perform_bind, Prog.run_call, if_pos, Prog.run_bind,
            run_moveDown, Prog.run_ret, less]
          exact Prod.ext rfl (setNum_of_le fits)
        · have later : CompactArray.firstIndex (fun entry => entry.id == id) table.slot index
              (left + 1) = CompactArray.firstIndex (fun entry => entry.id == id) table.slot
                (index + 1) (table.num - (index + 1)) := by
            have rest : left = table.num - (index + 1) := by omega
            simp [CompactArray.firstIndex, hit, rest]
          rw [later, ← ih (index + 1) (by omega)]
          simp [Sections.finish, unregisterCmdFrom, commandTable, TableAccess.exec, inUse, hit]
      · rw [Nat.sub_eq_zero_of_le (by omega)]
        simp [Sections.finish, unregisterCmdFrom, commandTable, inUse, Sections.applyLast,
          CompactArray.firstIndex]

theorem finish_unregisterCmdBody (id : Int32) :
    commandTable.finish (unregisterCmdBody id) table =
      ((table.findFirst fun entry => entry.id == id).map CmdInfo.cmd,
        table.removeFirst fun entry => entry.id == id) := by
  have bound := table.bound
  have whole : commandTable.finish (unregisterCmdBody id) table =
      commandTable.finish (unregisterCmdFrom id (table.alloc + 1) 0 table.num) table := rfl
  rw [whole, finish_unregisterCmdFrom table id _ 0 (by omega), Nat.sub_zero]
  unfold CompactArray.findFirst CompactArray.removeFirst
  cases CompactArray.firstIndex (fun entry => entry.id == id) table.slot 0 table.num <;> rfl

end Bodies

/-! ## What a section does to the entries on its way -/

/-- Every entry in use is one of those the section found. -/
structure KeepsEntries (found table : CompactArray CmdInfo) : Prop where
  num : table.num = found.num
  alloc : table.alloc = found.alloc
  entries : ∀ index < found.num, ∃ index' < found.num, table.slot index = found.slot index'

namespace KeepsEntries

variable {found table : CompactArray CmdInfo}

theorem refl (table : CompactArray CmdInfo) : KeepsEntries table table :=
  ⟨rfl, rfl, fun index inUse => ⟨index, inUse, rfl⟩⟩

/-- A store behind the entries in use. -/
theorem setSlot_end (keeps : KeepsEntries found table) (entry : CmdInfo) :
    KeepsEntries found (TableAccess.setSlot table table.num entry) where
  num := keeps.num
  alloc := keeps.alloc
  entries := by
    intro index inUse
    have other : index ≠ table.num := by
      rw [keeps.num]
      exact Nat.ne_of_lt inUse
    simp only [TableAccess.setSlot, Function.update_of_ne other]
    exact keeps.entries index inUse

theorem moveDown (keeps : KeepsEntries found table) {index : Nat} (inUse : index + 1 < found.num) :
    KeepsEntries found (TableAccess.setSlot table index (table.slot (index + 1))) where
  num := keeps.num
  alloc := keeps.alloc
  entries := by
    intro other otherInUse
    by_cases same : other = index
    · subst same
      simp only [TableAccess.setSlot, Function.update_self]
      exact keeps.entries (other + 1) inUse
    · simp only [TableAccess.setSlot, Function.update_of_ne same]
      exact keeps.entries other otherInUse

theorem mem_toList (keeps : KeepsEntries found table) {entry : CmdInfo}
    (member : entry ∈ table.toList) : entry ∈ found.toList := by
  simp only [CompactArray.toList, List.mem_map, List.mem_range'_1] at member ⊢
  obtain ⟨index, ⟨_, inUse⟩, rfl⟩ := member
  rw [keeps.num] at inUse
  obtain ⟨index', inUse', same⟩ := keeps.entries index (by omega)
  exact ⟨index', by omega, same.symm⟩

end KeepsEntries

section Along

variable {found table : CompactArray CmdInfo}

theorem along_registerCmdBody (id : Int32) (cmd : Ptr) :
    commandTable.Along (KeepsEntries table) (registerCmdBody id cmd) table := by
  have kept := KeepsEntries.refl table
  refine ⟨kept, trivial, kept, trivial, ?_⟩
  change commandTable.Along _ (if table.num < table.alloc then _ else _) table
  by_cases room : table.num < table.alloc
  · rw [if_pos room]
    have first := kept.setSlot_end { table.slot table.num with id := id }
    have second := first.setSlot_end
      { (TableAccess.setSlot table table.num { table.slot table.num with id := id }).slot
          table.num with cmd := cmd }
    refine ⟨kept, trivial, kept, room, first, trivial, first, room, second, trivial, second, ?_⟩
    intro m last
    obtain rfl := Option.mem_some.mp last
    change 0 ≤ (table.num : Int) + 1 ∧ ((table.num : Int) + 1).toNat ≤ table.alloc
    omega
  · rw [if_neg room]
    exact ⟨kept, nofun⟩

theorem along_moveDown {after : Unit → TableProg (Option Ptr × Option TableAccess)}
    (rest : ∀ table', KeepsEntries found table' →
      commandTable.Along (KeepsEntries found) (after ()) table') (count index : Nat)
    (within : index + count < found.num) (kept : KeepsEntries found table) :
    commandTable.Along (KeepsEntries found) (moveDown count index >>= after) table := by
  induction count generalizing index table with
  | zero => exact rest table kept
  | succ count ih =>
      have bound := table.bound
      have num := kept.num
      have fits : index + 1 < table.alloc := by omega
      exact ⟨kept, fits, ih (index + 1) (by omega) (kept.moveDown (by omega))⟩

theorem along_unregisterCmdFrom (id : Int32) (rounds index : Nat) :
    commandTable.Along (KeepsEntries table) (unregisterCmdFrom id rounds index table.num) table := by
  have kept := KeepsEntries.refl table
  have bound := table.bound
  induction rounds generalizing index with
  | zero => exact ⟨kept, nofun⟩
  | succ rounds ih =>
      unfold unregisterCmdFrom
      by_cases inUse : index < table.num
      · have fits : index < table.alloc := by omega
        rw [if_pos inUse]
        refine ⟨kept, fits, ?_⟩
        change commandTable.Along _ (if (table.slot index).id = id then _ else _) table
        by_cases hit : (table.slot index).id = id
        · rw [if_pos hit]
          refine ⟨kept, fits, kept, inUse, ?_⟩
          refine along_moveDown (fun table' kept' => ?_) (table.num - index - 1) index (by omega) kept
          refine ⟨kept', trivial, kept', ?_⟩
          intro m last
          obtain rfl := Option.mem_some.mp last
          have num := kept'.num
          have bound' := table'.bound
          change 0 ≤ (table'.num : Int) - 1 ∧ ((table'.num : Int) - 1).toNat ≤ table'.alloc
          omega
        · rw [if_neg hit]
          exact ⟨kept, trivial, ih (index + 1)⟩
      · rw [if_neg inUse]
        exact ⟨kept, nofun⟩

theorem along_unregisterCmdBody (id : Int32) :
    commandTable.Along (KeepsEntries table) (unregisterCmdBody id) table :=
  ⟨.refl table, trivial, .refl table, trivial, along_unregisterCmdFrom id (table.alloc + 1) 0⟩

end Along

/-! ## Every other operation leaves the table alone -/

namespace World

variable (world : World) (table : CompactArray CmdInfo)

theorem touch_setTable (cmd : Ptr) :
    (world.setTable table).touch cmd = (world.touch cmd).setTable table := by
  unfold touch
  change (if (world.heap cmd).deleted then _ else _) = _
  by_cases deleted : (world.heap cmd).deleted
  · rw [if_pos deleted, if_pos deleted]
    rfl
  · rw [if_neg deleted, if_neg deleted]

theorem touchHandlers_setTable (entries : List CbInfo) :
    (world.setTable table).touchHandlers entries =
      (world.touchHandlers entries).setTable table := by
  induction entries generalizing world with
  | nil => rfl
  | cons entry rest ih =>
      unfold touchHandlers
      cases entry.cbArg with
      | none => exact ih world
      | some cmd =>
          dsimp only
          rw [touch_setTable]
          exact ih (world.touch cmd)

theorem findAndAddRef_setTable (t : Thread) (msg : NlMsg) :
    (world.setTable table).findAndAddRef t msg = (world.findAndAddRef t msg).setTable table := by
  have same : findHandler (world.setTable table).info msg = findHandler world.info msg := rfl
  unfold findAndAddRef
  rw [same]
  cases findHandler world.info msg with
  | none => rfl
  | some entry =>
      dsimp only
      cases entry.cbArg with
      | none => rfl
      | some cmd =>
          simp only [addRef, touch_setTable]
          rfl

theorem handleAttrs_setTable (cmd : Ptr) (attrs : List RttAttr) :
    (world.setTable table).handleAttrs cmd attrs =
      ((world.handleAttrs cmd attrs).1, (world.handleAttrs cmd attrs).2.setTable table) := by
  unfold handleAttrs
  change (if ((world.heap cmd).rtt.handleAttrs attrs).mCompleted = 0 then _ else _) = _
  dsimp only
  split <;> rfl

theorem beginCleanup_setTable :
    (world.setTable table).beginCleanup = world.beginCleanup.setTable table := by
  unfold beginCleanup
  change { ((world.setTable table).touchHandlers world.info.events).note .cleanupBegan with
    reads := 0 } = _
  rw [touchHandlers_setTable]
  rfl

end World

theorem exec_setTable (t : Thread) (env : Env) (op : HalOp) (world : World)
    {found part : CompactArray CmdInfo} (whole : commandTable.body op = none)
    (unexposed : commandTable.exposed op = false) (keeps : KeepsEntries found part) :
    exec t env op (world.setTable found) =
      ((exec t env op (world.setTable part)).1,
        (exec t env op (world.setTable part)).2.setTable found) := by
  cases op with
  | wifiRegisterCmd id cmd => contradiction
  | wifiUnregisterCmd owner id => contradiction
  | cmdAt index => contradiction
  | numCmd => exact Prod.ext keeps.num.symm rfl
  | newCommand type id =>
      simp only [exec]
      split <;> rfl
  | requestResponse this request =>
      simp only [exec]
      split <;> rfl
  | findAndAddRef msg =>
      simp only [exec, World.findAndAddRef_setTable]
      rfl
  | handleAttrs this attrs =>
      simp only [exec, World.handleAttrs_setTable]
      rfl
  | beginCleanup =>
      simp only [exec, World.beginCleanup_setTable]
      rfl
  | cancel this =>
      simp only [exec, World.touch_setTable]
      rfl
  | handleEvent this =>
      simp only [exec, World.touch_setTable]
      rfl
  | id this =>
      simp only [exec, World.touch_setTable]
      rfl
  | releaseRef this =>
      simp only [exec, World.releaseRef, World.touch_setTable]
      rfl
  | createRequest this request => rfl
  | registerVendorHandler this event =>
      simp only [exec, World.registerVendorHandler, wifiRegisterVendorHandler, addEventCb,
        World.setTable, World.setInfo]
      cases world.info.eventCb.push ⟨nl80211CmdVendor, googleOui, event.subcmd, some eventHandler,
        some this⟩ with
      | none => rfl
      | some eventCb => rfl
  | unregisterVendorHandler this event => rfl
  | clearResults this => rfl
  | ended type id => rfl

theorem exec_keepsTable (t : Thread) (env : Env) (op : HalOp) (world : World)
    (whole : commandTable.body op = none) : (exec t env op world).2.info.cmd = world.info.cmd := by
  cases exposed : commandTable.exposed op with
  | true =>
      cases op with
      | cmdAt index =>
          change ((world.countRead.touch _).info).cmd = _
          rw [World.touch_info]
          rfl
      | _ => contradiction
  | false =>
      have same := exec_setTable t env op world whole exposed (KeepsEntries.refl world.info.cmd)
      exact congrArg (fun ran => ran.2.info.cmd) same

/-! ## The sections are lawful -/

theorem exec_registerCmd (t : Thread) (env : Env) (id : Int32) (cmd : Ptr) (world : World) :
    exec t env (.wifiRegisterCmd id cmd) world =
      ((commandTable.finish (registerCmdBody id cmd) world.info.cmd).1,
        (world.setTable (commandTable.finish (registerCmdBody id cmd) world.info.cmd).2).registered
          t id cmd (commandTable.finish (registerCmdBody id cmd) world.info.cmd).1) := by
  have finished := finish_registerCmdBody world.info.cmd id cmd
  cases push : world.info.cmd.push ⟨id, cmd⟩ with
  | none =>
      rw [push] at finished
      have ran : wifiRegisterCmd world.info id cmd = (wifiErrorOutOfMemory, world.info) := by
        rw [wifiRegisterCmd, push]
      simp only [exec, World.registerCmd, ran, finished]
      rfl
  | some pushed =>
      rw [push] at finished
      have ran : wifiRegisterCmd world.info id cmd =
          (wifiSuccess, { world.info with cmd := pushed }) := by
        rw [wifiRegisterCmd, push]
      simp only [exec, World.registerCmd, ran, finished]
      rfl

theorem exec_unregisterCmd (t : Thread) (env : Env) (owner : Option Ptr) (id : Int32)
    (world : World) :
    exec t env (.wifiUnregisterCmd owner id) world =
      ((commandTable.finish (unregisterCmdBody id) world.info.cmd).1,
        (world.setTable (commandTable.finish (unregisterCmdBody id) world.info.cmd).2).unregistered
          t owner id (commandTable.finish (unregisterCmdBody id) world.info.cmd).1) := by
  rw [finish_unregisterCmdBody]
  rfl

theorem commandTable_lawful : commandTable.Lawful exec KeepsEntries where
  get_set := fun _ _ => rfl
  set_set := fun _ _ _ => rfl
  set_get := fun _ => rfl
  reads := by
    intro m part reads
    cases m <;> first | rfl | contradiction
  mid_refl := KeepsEntries.refl
  runs := by
    intro t env op program world isBody
    cases op with
    | wifiRegisterCmd id cmd =>
        obtain rfl := Option.some.inj isBody
        exact exec_registerCmd t env id cmd world
    | wifiUnregisterCmd owner id =>
        obtain rfl := Option.some.inj isBody
        exact exec_unregisterCmd t env owner id world
    | _ => contradiction
  along := by
    intro op program part isBody
    cases op with
    | wifiRegisterCmd id cmd =>
        obtain rfl := Option.some.inj isBody
        exact along_registerCmdBody id cmd
    | wifiUnregisterCmd owner id =>
        obtain rfl := Option.some.inj isBody
        exact along_unregisterCmdBody id
    | _ => contradiction
  get_history := by
    intro t op result world
    cases op with
    | wifiRegisterCmd id cmd =>
        change (world.registered t id cmd result).info.cmd = _
        unfold World.registered
        split <;> rfl
    | wifiUnregisterCmd owner id =>
        change (world.unregistered t owner id result).info.cmd = _
        unfold World.unregistered
        cases result <;> cases owner <;> rfl
    | _ => rfl
  keeps := exec_keepsTable
  independent := fun t env op world _ _ whole unexposed keeps =>
    exec_setTable t env op world whole unexposed keeps

/-! ## Runs of single accesses -/

abbrev FinePool : Type :=
  Pool Thread commandTable.FineOp commandTable.FineRes Int commandTable.Fine

section FineRuns

variable (ok : Thread → HalOp → World → Prop) (calls : Thread → World → Hal Int → Prop)

/-- The accesses of the two functions mix freely. -/
def FineRuns (fine : FinePool) : Prop :=
  ∃ eventFill cmdFill,
    Reaches (guarded (commandTable.AnyOk ok) (commandTable.fineExec exec))
      (commandTable.fineCalls calls) (commandTable.spread (initialPool eventFill cmdFill)) fine

/-- Neither function stores while the other thread is inside one of them, and
while a call that has stored is open, none is entered and no slot is read. -/
def ApartRuns (fine : FinePool) : Prop :=
  ∃ eventFill cmdFill,
    Reaches (guarded (commandTable.ApartOk ok) (commandTable.fineExec exec))
      (commandTable.fineCalls calls) (commandTable.spread (initialPool eventFill cmdFill)) fine

variable {ok calls} {fine : FinePool}

/-- Runs that keep the calls apart are runs of single accesses. -/
theorem ApartRuns.fineRuns (runs : ApartRuns ok calls fine) : FineRuns ok calls fine := by
  obtain ⟨eventFill, cmdFill, reaches⟩ := runs
  refine ⟨eventFill, cmdFill, reaches.mono ?_ fun _ _ _ called => called⟩
  rintro t op shared result after ⟨⟨defined, _, admits⟩, does⟩
  exact ⟨⟨defined, admits⟩, does⟩

theorem ApartRuns.simulates (runs : ApartRuns ok calls fine) :
    ∃ eventFill cmdFill pool,
      Reaches (guarded ok exec) calls (initialPool eventFill cmdFill) pool ∧
        commandTable.Simulates KeepsEntries fine pool := by
  obtain ⟨eventFill, cmdFill, reaches⟩ := runs
  obtain ⟨pool, reaches, simulates⟩ :=
    (Sections.simulates_spread (initialPool eventFill cmdFill)).run commandTable_lawful reaches
  exact ⟨eventFill, cmdFill, pool, reaches, simulates⟩

theorem apartRuns_spread {eventFill : CbInfo} {cmdFill : CmdInfo} {pool : HalPool}
    (reaches : Reaches (guarded ok exec) calls (initialPool eventFill cmdFill) pool) :
    ApartRuns ok calls (commandTable.spread pool) :=
  ⟨eventFill, cmdFill, Sections.reaches_spread commandTable_lawful reaches⟩

end FineRuns

abbrev FineReachable (side : Side) : FinePool → Prop := FineRuns side.op (Calls side)

abbrev ApartReachable (side : Side) : FinePool → Prop := ApartRuns side.op (Calls side)

section Simulated

variable {side : Side} {fine : FinePool} {pool : HalPool}

theorem ApartReachable.simulates (reached : ApartReachable side fine) :
    ∃ pool, ReachableWhen side pool ∧ commandTable.Simulates KeepsEntries fine pool := by
  obtain ⟨eventFill, cmdFill, pool, reaches, simulates⟩ := ApartRuns.simulates reached
  exact ⟨pool, ⟨eventFill, cmdFill, reaches⟩, simulates⟩

/-- What whole calls reach is reached by single accesses that keep them apart. -/
theorem apartReachable_spread (reached : ReachableWhen side pool) :
    ApartReachable side (commandTable.spread pool) := by
  obtain ⟨eventFill, cmdFill, reaches⟩ := reached
  exact apartRuns_spread reaches

/-- The state is that of whole calls, up to the stores of the open call. -/
theorem state_of_simulates (simulates : commandTable.Simulates KeepsEntries fine pool) :
    ∃ table, KeepsEntries pool.shared.info.cmd table ∧
      fine.shared.state = pool.shared.setTable table := by
  refine ⟨fine.shared.state.info.cmd, ?_, ?_⟩
  · rw [simulates.shared]
    exact simulates.mid_settled commandTable_lawful
  · rw [simulates.shared]
    unfold Sections.Fine.settled
    cases fine.shared.storing <;> rfl

end Simulated

/-! ## Schedules of single accesses -/

namespace Grain

abbrev fine (side : Side) :
    Grain commandTable.FineOp commandTable.FineRes commandTable.Fine where
  ok := commandTable.AnyOk side.op
  exec := commandTable.fineExec WifiHal.exec
  embed := commandTable.expand
  view := Sections.Fine.settled

abbrev apart (side : Side) :
    Grain commandTable.FineOp commandTable.FineRes commandTable.Fine where
  ok := commandTable.ApartOk side.op
  exec := commandTable.fineExec WifiHal.exec
  embed := commandTable.expand
  view := Sections.Fine.settled

end Grain

section PlayFine

variable (side : Side) [∀ call world, Decidable (side.call call world)]
  [∀ t op world, Decidable (side.op t op world)]

instance (m : TableAccess) (table : CompactArray CmdInfo) : Decidable (m.Defined table) := by
  cases m <;> unfold TableAccess.Defined <;> infer_instance

def Thread.other : Thread → Thread
  | .api => .event
  | .event => .api

instance (t : Thread) (shared : commandTable.Fine) : Decidable (commandTable.Alone t shared) :=
  decidable_of_iff (shared.inside t.other = false) (by
    unfold Sections.Alone
    constructor
    · intro shut u isOther
      cases t <;> cases u <;> first | exact shut | exact absurd rfl isOther
    · intro alone
      exact alone t.other (by cases t <;> exact nofun))

instance (op : commandTable.FineOp) (shared : commandTable.Fine) :
    Decidable (commandTable.Defined op shared) :=
  match op with
  | .whole _ => .isTrue trivial
  | .access _ m => inferInstanceAs (Decidable (m.Defined shared.state.info.cmd))
  | .leave _ _ last => inferInstanceAs (Decidable (∀ m ∈ last, m.Defined shared.state.info.cmd))

instance (t : Thread) (op : commandTable.FineOp) (shared : commandTable.Fine) :
    Decidable (commandTable.Apart t op shared) :=
  match op with
  | .whole op =>
      inferInstanceAs (Decidable (commandTable.exposed op = true → shared.storing = none))
  | .access _ m =>
      inferInstanceAs (Decidable ((shared.inside t = false → shared.storing = none) ∧
        (m.stores = true → commandTable.Alone t shared)))
  | .leave _ _ last =>
      inferInstanceAs (Decidable ((shared.inside t = false → shared.storing = none) ∧
        (last.isSome = true → commandTable.Alone t shared)))

instance (t : Thread) (op : commandTable.FineOp) (shared : commandTable.Fine) :
    Decidable (commandTable.Admits side.op t op shared) :=
  match op with
  | .whole op => inferInstanceAs (Decidable (side.op t op shared.settled))
  | .access op m => inferInstanceAs (Decidable (m.stores = true → side.op t op shared.settled))
  | .leave op _ _ => inferInstanceAs (Decidable (side.op t op shared.settled))

instance (t : Thread) (op : commandTable.FineOp) (shared : commandTable.Fine) :
    Decidable (commandTable.AnyOk side.op t op shared) := inferInstanceAs (Decidable (_ ∧ _))

instance (t : Thread) (op : commandTable.FineOp) (shared : commandTable.Fine) :
    Decidable (commandTable.ApartOk side.op t op shared) := inferInstanceAs (Decidable (_ ∧ _ ∧ _))

theorem exists_fineReachable_of_play (moves : List Move) (goal : FinePool → Bool)
    (played : (play (.fine side) side moves (commandTable.spread zeroedPool)).any goal = true) :
    ∃ fine, FineReachable side fine ∧ goal fine = true := by
  obtain ⟨fine, played, met⟩ := (Option.any_eq_true _ _).mp played
  exact ⟨fine, ⟨_, _, reaches_of_play played⟩, met⟩

theorem exists_apartReachable_of_play (moves : List Move) (goal : FinePool → Bool)
    (played : (play (.apart side) side moves (commandTable.spread zeroedPool)).any goal = true) :
    ∃ fine, ApartReachable side fine ∧ goal fine = true := by
  obtain ⟨fine, played, met⟩ := (Option.any_eq_true _ _).mp played
  exact ⟨fine, ⟨_, _, reaches_of_play played⟩, met⟩

end PlayFine

end Mt6757.WifiHal
