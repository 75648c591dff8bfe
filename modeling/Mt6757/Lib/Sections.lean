import Mt6757.Lib.RelyGuarantee

/-!
# Operations that run in sections

Some operations of a command tree may be programs of their own, made of accesses
to one part of the shared state, and other threads run between these accesses.
As long as no section stores while another one is open, every run of the finer
system is one of the system in which each section is a single operation.
-/

set_option autoImplicit false

namespace CommandTree

/-- The operations with a `body` are sections: a body answers with the result of
the operation and with its last access, after which it does not touch the shared
state; that access is one step with the return.  `exposed` are the other operations
that look into the part, and `history` is what a section does to the rest of the
state, which is bookkeeping. -/
structure Sections (Tid Op : Type) (Res : Op → Type) (σ : Type) where
  Part : Type
  get : σ → Part
  set : Part → σ → σ
  Access : Type
  Answer : Access → Type
  access : (m : Access) → Part → Answer m × Part
  stores : Access → Bool
  defined : Access → Part → Prop
  body : (op : Op) → Option (Prog Access Answer (Res op × Option Access))
  exposed : Op → Bool
  history : Tid → (op : Op) → Res op → σ → σ

namespace Sections

variable {Tid Op : Type} {Res : Op → Type} {Env α β σ : Type} (S : Sections Tid Op Res σ)

/-! ## The finer system -/

inductive FineOp where
  | whole (op : Op)
  | access (op : Op) (m : S.Access)
  | leave (op : Op) (result : Res op) (last : Option S.Access)

abbrev FineRes : S.FineOp → Type
  | .whole op => Res op
  | .access _ m => S.Answer m
  | .leave _ _ _ => Unit

/-- `inside` and `storing` are history: the threads with an open section, which is
open from its first access on, and the one whose section has stored, with the part
as that section found it. -/
structure Fine where
  state : σ
  inside : Tid → Bool
  storing : Option (Tid × S.Part)

variable {S}

/-- The state without what an open section has stored so far. -/
def Fine.settled (fine : S.Fine) : σ :=
  match fine.storing with
  | none => fine.state
  | some (_, found) => S.set found fine.state

variable (S)

def applyLast (last : Option S.Access) (part : S.Part) : S.Part :=
  match last with
  | none => part
  | some m => (S.access m part).2

def finish (program : Prog S.Access S.Answer (β × Option S.Access)) (part : S.Part) :
    β × S.Part :=
  let ended := program.run S.access part
  (ended.1.1, S.applyLast ended.1.2 ended.2)

def sectionThen (op : Op) (after : Res op → Prog S.FineOp S.FineRes α) :
    Prog S.Access S.Answer (Res op × Option S.Access) → Prog S.FineOp S.FineRes α
  | .ret (result, last) => .call (.leave op result last) fun _ => after result
  | .call m next => .call (.access op m) fun answer => sectionThen op after (next answer)

def expand : Prog Op Res α → Prog S.FineOp S.FineRes α
  | .ret value => .ret value
  | .call op next =>
      match S.body op with
      | none => .call (.whole op) fun result => expand (next result)
      | some program => S.sectionThen op (fun result => expand (next result)) program

section Exec
variable [DecidableEq Tid]

def noteStore (t : Tid) (m : S.Access) (fine : S.Fine) : Option (Tid × S.Part) :=
  if S.stores m then fine.storing.or (some (t, S.get fine.state)) else fine.storing

def fineExec (exec : Tid → Env → (op : Op) → σ → Res op × σ) (t : Tid) (env : Env) :
    (op : S.FineOp) → S.Fine → S.FineRes op × S.Fine
  | .whole op, fine =>
      ((exec t env op fine.state).1, { fine with state := (exec t env op fine.state).2 })
  | .access _ m, fine =>
      ((S.access m (S.get fine.state)).1, {
        state := S.set (S.access m (S.get fine.state)).2 fine.state
        inside := Function.update fine.inside t true
        storing := S.noteStore t m fine })
  | .leave op result last, fine =>
      ((), {
        state := S.history t op result
          (S.set (S.applyLast last (S.get fine.state)) fine.state)
        inside := Function.update fine.inside t false
        storing := fine.storing.filter fun noted => noted.1 != t })

end Exec

/-- An access outside of the part has no step. -/
def Defined : S.FineOp → S.Fine → Prop
  | .whole _, _ => True
  | .access _ m, fine => S.defined m (S.get fine.state)
  | .leave _ _ last, fine => ∀ m ∈ last, S.defined m (S.get fine.state)

/-- No thread but this one has a section open. -/
def Alone (t : Tid) (fine : S.Fine) : Prop := ∀ u, u ≠ t → fine.inside u = false

/-- No section stores while another one is open, and from its first store to its
end none is opened and nobody else looks into the part. -/
def Apart (t : Tid) : S.FineOp → S.Fine → Prop
  | .whole op, fine => S.exposed op = true → fine.storing = none
  | .access _ m, fine =>
      (fine.inside t = false → fine.storing = none) ∧ (S.stores m = true → S.Alone t fine)
  | .leave _ _ last, fine =>
      (fine.inside t = false → fine.storing = none) ∧ (last.isSome = true → S.Alone t fine)

/-- A condition on operations, which a section meets when it stores and when it
ends, in the state without its stores. -/
def Admits (ok : Tid → Op → σ → Prop) (t : Tid) : S.FineOp → S.Fine → Prop
  | .whole op, fine => ok t op fine.settled
  | .access op m, fine => S.stores m = true → ok t op fine.settled
  | .leave op _ _, fine => ok t op fine.settled

def fineCalls (calls : Tid → σ → Prog Op Res α → Prop) (t : Tid) (fine : S.Fine)
    (program : Prog S.FineOp S.FineRes α) : Prop :=
  ∃ plain, calls t fine.settled plain ∧ program = S.expand plain

/-- The operations of runs whose sections are kept apart. -/
def ApartOk (ok : Tid → Op → σ → Prop) (t : Tid) (op : S.FineOp) (fine : S.Fine) : Prop :=
  S.Defined op fine ∧ S.Apart t op fine ∧ S.Admits ok t op fine

def AnyOk (ok : Tid → Op → σ → Prop) (t : Tid) (op : S.FineOp) (fine : S.Fine) : Prop :=
  S.Defined op fine ∧ S.Admits ok t op fine

def spread (pool : Pool Tid Op Res α σ) : Pool Tid S.FineOp S.FineRes α S.Fine :=
  ⟨⟨pool.shared, fun _ => false, none⟩, fun t => S.expand (pool.thread t)⟩

/-! ## Laws -/

/-- The parts an open section goes through satisfy `I` and its accesses are defined. -/
def Along (I : S.Part → Prop) :
    Prog S.Access S.Answer (β × Option S.Access) → S.Part → Prop
  | .ret (_, last), part => I part ∧ ∀ m ∈ last, S.defined m part
  | .call m next, part =>
      I part ∧ S.defined m part ∧ Along I (next (S.access m part).1) (S.access m part).2

/-- A body run alone does what `exec` says at once.  `mid found part` holds of
what a body that found `found` may have made of it before its last access. -/
structure Lawful (exec : Tid → Env → (op : Op) → σ → Res op × σ)
    (mid : S.Part → S.Part → Prop) : Prop where
  get_set : ∀ part state, S.get (S.set part state) = part
  set_set : ∀ part part' state, S.set part (S.set part' state) = S.set part state
  set_get : ∀ state, S.set (S.get state) state = state
  reads : ∀ m part, S.stores m = false → (S.access m part).2 = part
  mid_refl : ∀ part, mid part part
  runs : ∀ t env op program state, S.body op = some program →
    exec t env op state = ((S.finish program (S.get state)).1,
      S.history t op (S.finish program (S.get state)).1
        (S.set (S.finish program (S.get state)).2 state))
  along : ∀ op program part, S.body op = some program → S.Along (mid part) program part
  get_history : ∀ t op result state, S.get (S.history t op result state) = S.get state
  keeps : ∀ t env op state, S.body op = none → S.get (exec t env op state).2 = S.get state
  independent : ∀ t env op state found part, S.body op = none → S.exposed op = false →
    mid found part →
      exec t env op (S.set found state) =
        ((exec t env op (S.set part state)).1, S.set found (exec t env op (S.set part state)).2)

/-! ## Sections that are kept apart are whole operations -/

section Simulation

variable (mid : S.Part → S.Part → Prop)

/-- A thread is at the same place of the same program, or inside the section with
which its program goes on, and that section will end as if it ran at once. -/
inductive Linked (fine : S.Fine) (t : Tid) :
    Prog S.FineOp S.FineRes α → Prog Op Res α → Prop where
  | outside (program : Prog Op Res α) (out : fine.inside t = false) :
      Linked fine t (S.expand program) program
  | inside (op : Op) (next : Res op → Prog Op Res α)
      (whole rest : Prog S.Access S.Answer (Res op × Option S.Access))
      (isIn : fine.inside t = true) (isBody : S.body op = some whole)
      (ends : S.finish rest (S.get fine.state) = S.finish whole (S.get fine.settled))
      (along : S.Along (mid (S.get fine.settled)) rest (S.get fine.state)) :
      Linked fine t (S.sectionThen op (fun result => S.expand (next result)) rest)
        (.call op next)

structure Simulates (fine : Pool Tid S.FineOp S.FineRes α S.Fine)
    (pool : Pool Tid Op Res α σ) : Prop where
  shared : pool.shared = fine.shared.settled
  threads : ∀ t, S.Linked mid fine.shared t (fine.thread t) (pool.thread t)
  storing : ∀ u found, fine.shared.storing = some (u, found) →
    fine.shared.inside u = true ∧ S.Alone u fine.shared

variable {S mid}

theorem Linked.frame {fine fine' : S.Fine} {t : Tid} {program : Prog S.FineOp S.FineRes α}
    {plain : Prog Op Res α} (linked : S.Linked mid fine t program plain)
    (inside : fine'.inside t = fine.inside t)
    (parts : fine.inside t = true →
      S.get fine'.state = S.get fine.state ∧ S.get fine'.settled = S.get fine.settled) :
    S.Linked mid fine' t program plain := by
  cases linked with
  | outside _ out => exact .outside _ (inside.trans out)
  | inside op next whole rest isIn isBody ends along =>
      obtain ⟨state, settled⟩ := parts isIn
      refine .inside op next whole rest (inside.trans isIn) isBody ?_ ?_
      · rw [state, settled]
        exact ends
      · rw [state, settled]
        exact along

theorem Linked.eq_ret {fine : S.Fine} {t : Tid} {value : α} {plain : Prog Op Res α}
    (linked : S.Linked mid fine t (.ret value) plain) :
    plain = .ret value ∧ fine.inside t = false := by
  generalize returned : (Prog.ret value : Prog S.FineOp S.FineRes α) = program at linked
  cases linked with
  | outside _ out =>
      cases plain with
      | ret value' =>
          obtain rfl : value = value' := by simpa [expand] using returned
          exact ⟨rfl, out⟩
      | call op next =>
          simp only [expand] at returned
          split at returned
          · contradiction
          · rename_i whole isBody
            cases whole <;> contradiction
  | inside op next whole rest isIn isBody ends along =>
      cases rest with
      | ret ended => contradiction
      | call m next => contradiction

theorem Simulates.mid_settled {exec : Tid → Env → (op : Op) → σ → Res op × σ}
    (lawful : S.Lawful exec mid) {fine : Pool Tid S.FineOp S.FineRes α S.Fine}
    {pool : Pool Tid Op Res α σ} (simulates : S.Simulates mid fine pool) :
    mid (S.get fine.shared.settled) (S.get fine.shared.state) := by
  cases storing : fine.shared.storing with
  | none =>
      unfold Fine.settled
      rw [storing]
      exact lawful.mid_refl _
  | some noted =>
      obtain ⟨isIn, _⟩ := simulates.storing noted.1 noted.2 storing
      have linked := simulates.threads noted.1
      generalize fine.thread noted.1 = program at linked
      generalize pool.thread noted.1 = plain at linked
      cases linked with
      | outside _ out =>
          rw [isIn] at out
          contradiction
      | inside op next whole rest _ isBody ends along =>
          cases rest with
          | ret ended => exact along.1
          | call m next => exact along.1

variable [DecidableEq Tid] {exec : Tid → Env → (op : Op) → σ → Res op × σ}
  {ok : Tid → Op → σ → Prop} {calls : Tid → σ → Prog Op Res α → Prop}
  {fine fine' : Pool Tid S.FineOp S.FineRes α S.Fine} {pool : Pool Tid Op Res α σ}

theorem Simulates.whole (lawful : S.Lawful exec mid) (simulates : S.Simulates mid fine pool)
    {t : Tid} {op : Op} {next : Res op → Prog Op Res α} (running : pool.thread t = .call op next)
    (out : fine.shared.inside t = false) (isWhole : S.body op = none)
    (apart : S.exposed op = true → fine.shared.storing = none) (env : Env) :
    exec t env op pool.shared = ((exec t env op fine.shared.state).1,
        { fine.shared with state := (exec t env op fine.shared.state).2 }.settled) ∧
      S.Simulates mid
        ⟨{ fine.shared with state := (exec t env op fine.shared.state).2 },
          Function.update fine.thread t
            (S.expand (next (exec t env op fine.shared.state).1))⟩
        ⟨{ fine.shared with state := (exec t env op fine.shared.state).2 }.settled,
          Function.update pool.thread t (next (exec t env op fine.shared.state).1)⟩ := by
  have part := lawful.keeps t env op fine.shared.state isWhole
  have settledPart : S.get { fine.shared with
      state := (exec t env op fine.shared.state).2 }.settled = S.get fine.shared.settled := by
    unfold Fine.settled
    dsimp only
    split
    · exact part
    · rw [lawful.get_set, lawful.get_set]
  have does : exec t env op pool.shared = ((exec t env op fine.shared.state).1,
      { fine.shared with state := (exec t env op fine.shared.state).2 }.settled) := by
    rw [simulates.shared]
    have within := simulates.mid_settled lawful
    unfold Fine.settled at within ⊢
    cases storing : fine.shared.storing with
    | none => rfl
    | some noted =>
        simp only [storing, lawful.get_set] at within ⊢
        have hidden : S.exposed op = false := by
          by_contra seen
          rw [apart (Bool.not_eq_false _ ▸ seen)] at storing
          contradiction
        have moved := lawful.independent t env op fine.shared.state noted.2
          (S.get fine.shared.state) isWhole hidden within
        rwa [lawful.set_get] at moved
  refine ⟨does, rfl, fun u => ?_, simulates.storing⟩
  by_cases same : u = t
  · subst same
    simp only [Function.update_self]
    exact .outside _ out
  · simp only [Function.update_of_ne same]
    exact (simulates.threads u).frame rfl fun _ => ⟨part, settledPart⟩

theorem Simulates.settled_of_alone (lawful : S.Lawful exec mid)
    (simulates : S.Simulates mid fine pool) {t : Tid} (isIn : fine.shared.inside t = true)
    (alone : S.Alone t fine.shared) (m : S.Access) (stores : S.stores m = true) :
    Fine.settled { fine.shared with
        state := S.set (S.access m (S.get fine.shared.state)).2 fine.shared.state
        storing := S.noteStore t m fine.shared } = fine.shared.settled ∧
      ∃ found, S.noteStore t m fine.shared = some (t, found) := by
  unfold Fine.settled noteStore
  rw [if_pos stores]
  cases storing : fine.shared.storing with
  | none =>
      refine ⟨?_, _, rfl⟩
      dsimp only [Option.none_or]
      rw [lawful.set_set, lawful.set_get]
  | some noted =>
      obtain ⟨u, found⟩ := noted
      have same : u = t := by
        by_contra other
        have open_u := (simulates.storing u found storing).1
        rw [alone u other] at open_u
        contradiction
      subst same
      refine ⟨?_, found, rfl⟩
      dsimp only [Option.some_or]
      rw [lawful.set_set]

omit [DecidableEq Tid] in
theorem Alone.update [DecidableEq Tid] {t : Tid} {shared : S.Fine} (alone : S.Alone t shared)
    (open_t : Bool) :
    S.Alone t { shared with inside := Function.update shared.inside t open_t } := by
  intro u other
  dsimp only
  rw [Function.update_of_ne other]
  exact alone u other

theorem Simulates.entered (lawful : S.Lawful exec mid) (simulates : S.Simulates mid fine pool)
    {t : Tid} {op : Op} {next : Res op → Prog Op Res α} (running : pool.thread t = .call op next)
    {whole : Prog S.Access S.Answer (Res op × Option S.Access)} (isBody : S.body op = some whole)
    (atBody : fine.thread t = S.sectionThen op (fun result => S.expand (next result)) whole)
    (unstored : fine.shared.storing = none) :
    S.Simulates mid
      ⟨{ fine.shared with inside := Function.update fine.shared.inside t true }, fine.thread⟩
      pool := by
  refine ⟨simulates.shared, fun u => ?_, ?_⟩
  · by_cases same : u = t
    · subst same
      rw [running]
      dsimp only
      rw [atBody]
      refine .inside op next whole whole (by simp) isBody ?_ ?_
      · simp only [Fine.settled, unstored]
      · simp only [Fine.settled, unstored]
        exact lawful.along op whole _ isBody
    · exact (simulates.threads u).frame (by simp [Function.update_of_ne same]) fun _ => ⟨rfl, rfl⟩
  · intro u found storing
    simp only [unstored] at storing
    contradiction

theorem Simulates.access (lawful : S.Lawful exec mid) (simulates : S.Simulates mid fine pool)
    {t : Tid} {op : Op} {next : Res op → Prog Op Res α} (running : pool.thread t = .call op next)
    {whole : Prog S.Access S.Answer (Res op × Option S.Access)} (isBody : S.body op = some whole)
    (isIn : fine.shared.inside t = true) {m : S.Access}
    {rest : S.Answer m → Prog S.Access S.Answer (Res op × Option S.Access)}
    (ends : S.finish (.call m rest) (S.get fine.shared.state) =
      S.finish whole (S.get fine.shared.settled))
    (along : S.Along (mid (S.get fine.shared.settled)) (.call m rest) (S.get fine.shared.state))
    (apart : S.stores m = true → S.Alone t fine.shared) :
    S.Simulates mid
      ⟨{ fine.shared with
          state := S.set (S.access m (S.get fine.shared.state)).2 fine.shared.state
          storing := S.noteStore t m fine.shared },
        Function.update fine.thread t (S.sectionThen op (fun result => S.expand (next result))
          (rest (S.access m (S.get fine.shared.state)).1))⟩ pool := by
  have threads : ∀ {shared : S.Fine}, shared.inside = fine.shared.inside →
      shared.settled = fine.shared.settled →
      S.get shared.state = (S.access m (S.get fine.shared.state)).2 →
      (∀ u, u ≠ t → fine.shared.inside u = true → S.get shared.state = S.get fine.shared.state) →
      ∀ u, S.Linked mid shared u
        (Function.update fine.thread t (S.sectionThen op (fun result => S.expand (next result))
          (rest (S.access m (S.get fine.shared.state)).1)) u) (pool.thread u) := by
    intro shared inside settled part others u
    by_cases same : u = t
    · subst same
      rw [Function.update_self, running]
      refine .inside op next whole _ ((congrFun inside u).trans isIn) isBody ?_ ?_
      · rw [settled, part]
        exact ends
      · rw [settled, part]
        exact along.2.2
    · rw [Function.update_of_ne same]
      exact (simulates.threads u).frame (congrFun inside u) fun openU =>
        ⟨others u same openU, by rw [settled]⟩
  cases stores : S.stores m with
  | false =>
      have part := lawful.reads m (S.get fine.shared.state) stores
      have noted : S.noteStore t m fine.shared = fine.shared.storing :=
        if_neg (by rw [stores]; exact Bool.false_ne_true)
      have unchanged : { fine.shared with
          state := S.set (S.access m (S.get fine.shared.state)).2 fine.shared.state
          storing := S.noteStore t m fine.shared } = fine.shared := by
        rw [noted, part, lawful.set_get]
      rw [unchanged]
      exact ⟨simulates.shared, threads rfl rfl part.symm fun _ _ _ => rfl, simulates.storing⟩
  | true =>
      have alone := apart stores
      obtain ⟨settled, found, noted⟩ := simulates.settled_of_alone lawful isIn alone m stores
      refine ⟨by rw [simulates.shared, settled], ?_, ?_⟩
      · refine threads rfl settled (lawful.get_set _ _) fun u other openU => ?_
        rw [alone u other] at openU
        contradiction
      · intro u found' storing
        dsimp only at storing
        rw [noted, Option.some.injEq, Prod.mk.injEq] at storing
        obtain ⟨rfl, _⟩ := storing
        exact ⟨isIn, alone⟩

theorem Simulates.leave (lawful : S.Lawful exec mid) (simulates : S.Simulates mid fine pool)
    {t : Tid} {op : Op} {next : Res op → Prog Op Res α} (running : pool.thread t = .call op next)
    {whole : Prog S.Access S.Answer (Res op × Option S.Access)} (isBody : S.body op = some whole)
    (isIn : fine.shared.inside t = true) {result : Res op} {last : Option S.Access}
    (ends : S.finish (.ret (result, last)) (S.get fine.shared.state) =
      S.finish whole (S.get fine.shared.settled))
    (apart : last.isSome = true → S.Alone t fine.shared) (env : Env) :
    ∃ after, exec t env op pool.shared = (result, after) ∧
      S.Simulates mid
        ⟨(S.fineExec exec t env (.leave op result last) fine.shared).2,
          Function.update fine.thread t (S.expand (next result))⟩
        ⟨after, Function.update pool.thread t (next result)⟩ := by
  let after := S.history t op result
    (S.set (S.applyLast last (S.get fine.shared.state)) fine.shared.state)
  have does : exec t env op pool.shared = (result, after) := by
    rw [simulates.shared, lawful.runs t env op whole _ isBody, ← ends]
    have stripped : ∀ part, S.set part fine.shared.settled = S.set part fine.shared.state := by
      intro part
      unfold Fine.settled
      split
      · rfl
      · rw [lawful.set_set]
    simp only [finish, Prog.run_ret, stripped, after]
  have notOthers : ∀ u found, fine.shared.storing = some (u, found) → u = t := by
    intro u found storing
    by_contra other
    have closed := (simulates.storing u found storing).2 t (Ne.symm other)
    rw [isIn] at closed
    contradiction
  have closed : fine.shared.storing.filter (fun noted => noted.1 != t) = none := by
    cases storing : fine.shared.storing with
    | none => rfl
    | some noted => simp [notOthers noted.1 noted.2 storing]
  refine ⟨after, does, ?_, fun u => ?_, ?_⟩
  · simp only [fineExec, Fine.settled, closed]
    rfl
  · by_cases same : u = t
    · subst same
      simp only [Function.update_self]
      exact .outside _ (by simp [fineExec])
    · simp only [Function.update_of_ne same]
      refine (simulates.threads u).frame (by simp [fineExec, Function.update_of_ne same])
        fun openU => ?_
      -- nothing was stored, as another section is open
      have unstored : fine.shared.storing = none := by
        cases storing : fine.shared.storing with
        | none => rfl
        | some noted =>
            have lone := (simulates.storing noted.1 noted.2 storing).2 u
            rw [notOthers noted.1 noted.2 storing] at lone
            rw [lone same] at openU
            contradiction
      have noLast : last = none := by
        by_contra some_last
        have shut := apart (Option.isSome_iff_ne_none.mpr some_last) u same
        rw [shut] at openU
        contradiction
      subst noLast
      have kept : S.get after = S.get fine.shared.state := by
        rw [lawful.get_history, lawful.get_set]
        rfl
      simp only [fineExec, Fine.settled, unstored]
      exact ⟨kept, kept⟩
  · intro u found storing
    simp only [fineExec, closed] at storing
    contradiction

theorem Simulates.sectionStep (lawful : S.Lawful exec mid) (simulates : S.Simulates mid fine pool)
    {t : Tid} {op : Op} {next : Res op → Prog Op Res α} (running : pool.thread t = .call op next)
    {whole rest : Prog S.Access S.Answer (Res op × Option S.Access)}
    (isBody : S.body op = some whole) (isIn : fine.shared.inside t = true)
    (ends : S.finish rest (S.get fine.shared.state) = S.finish whole (S.get fine.shared.settled))
    (along : S.Along (mid (S.get fine.shared.settled)) rest (S.get fine.shared.state))
    {fineOp : S.FineOp} {after : S.FineRes fineOp → Prog S.FineOp S.FineRes α}
    (atRest : .call fineOp after = S.sectionThen op (fun result => S.expand (next result)) rest)
    (apart : S.Apart t fineOp fine.shared) (admits : S.Admits ok t fineOp fine.shared)
    (env : Env) :
    ∃ pool', Reaches (guarded ok exec) calls pool pool' ∧
      S.Simulates mid
        ⟨(S.fineExec exec t env fineOp fine.shared).2,
          Function.update fine.thread t (after (S.fineExec exec t env fineOp fine.shared).1)⟩
        pool' := by
  cases rest with
  | ret ended =>
      obtain ⟨answer, last⟩ := ended
      obtain ⟨rfl, sameNext⟩ := Prog.call.inj atRest
      obtain rfl := eq_of_heq sameNext
      obtain ⟨world, ran, simulates'⟩ := simulates.leave lawful running isBody isIn ends apart.2 env
      refine ⟨_, .single (.act t op next answer world running ⟨?_, env, ran⟩), simulates'⟩
      rw [simulates.shared]
      exact admits
  | call m rest =>
      obtain ⟨rfl, sameNext⟩ := Prog.call.inj atRest
      obtain rfl := eq_of_heq sameNext
      have stays : Function.update fine.shared.inside t true = fine.shared.inside :=
        Function.update_eq_self_iff.mpr isIn.symm
      have simulates' := simulates.access lawful running isBody isIn ends along apart.2
      refine ⟨pool, .refl, ?_⟩
      simp only [fineExec, stays]
      exact simulates'

/-- The steps of a section, as opposed to whole operations. -/
def FineOp.Inner : S.FineOp → Prop
  | .whole _ => False
  | .access _ _ => True
  | .leave _ _ _ => True

omit [DecidableEq Tid] in
theorem inner_of_sectionThen {op : Op} {next : Res op → Prog S.FineOp S.FineRes α}
    {rest : Prog S.Access S.Answer (Res op × Option S.Access)} {fineOp : S.FineOp}
    {after : S.FineRes fineOp → Prog S.FineOp S.FineRes α}
    (atRest : .call fineOp after = S.sectionThen op next rest) : fineOp.Inner := by
  cases rest with
  | ret ended =>
      obtain ⟨rfl, _⟩ := Prog.call.inj atRest
      trivial
  | call m rest =>
      obtain ⟨rfl, _⟩ := Prog.call.inj atRest
      trivial

section Inner

variable {t : Tid} {fineOp : S.FineOp} (inner : fineOp.Inner) {shared : S.Fine}
include inner

omit [DecidableEq Tid] in
theorem Apart.unstored (apart : S.Apart t fineOp shared) (out : shared.inside t = false) :
    shared.storing = none := by
  cases fineOp with
  | whole op => exact inner.elim
  | access op m => exact apart.1 out
  | leave op result last => exact apart.1 out

theorem Apart.entered (apart : S.Apart t fineOp shared) :
    S.Apart t fineOp { shared with inside := Function.update shared.inside t true } := by
  cases fineOp with
  | whole op => exact inner.elim
  | access op m => exact ⟨fun out => by simp at out, fun stores => (apart.2 stores).update true⟩
  | leave op result last => exact ⟨fun out => by simp at out, fun ends => (apart.2 ends).update true⟩

theorem fineExec_entered (env : Env) :
    S.fineExec exec t env fineOp { shared with inside := Function.update shared.inside t true } =
      S.fineExec exec t env fineOp shared := by
  cases fineOp with
  | whole op => exact inner.elim
  | access op m =>
      simp only [fineExec, Function.update_idem]
      rfl
  | leave op result last => simp only [fineExec, Function.update_idem]

end Inner

theorem Simulates.step (lawful : S.Lawful exec mid) (simulates : S.Simulates mid fine pool)
    (step : Step (guarded (S.ApartOk ok) (S.fineExec exec)) (S.fineCalls calls) fine fine') :
    ∃ pool', Reaches (guarded ok exec) calls pool pool' ∧ S.Simulates mid fine' pool' := by
  cases step with
  | start t value program returned called =>
      obtain ⟨plain, called, rfl⟩ := called
      have linked := simulates.threads t
      rw [returned] at linked
      obtain ⟨isRet, out⟩ := linked.eq_ret
      rw [← simulates.shared] at called
      refine ⟨_, .single (.start t value plain isRet called), simulates.shared, fun u => ?_,
        simulates.storing⟩
      by_cases same : u = t
      · subst same
        simp only [Function.update_self]
        exact .outside plain out
      · simp only [Function.update_of_ne same]
        exact simulates.threads u
  | act t fineOp after result shared running does =>
      obtain ⟨⟨defined, apart, admits⟩, env, does⟩ := does
      obtain ⟨rfl, rfl⟩ := Prod.mk.inj does
      have linked := simulates.threads t
      generalize plainEq : pool.thread t = plain at linked
      generalize programEq : fine.thread t = program at linked
      cases linked with
      | outside _ out =>
          cases plain with
          | ret value =>
              rw [running] at programEq
              contradiction
          | call op next =>
              simp only [expand] at programEq
              split at programEq
              · rename_i isWhole
                rw [running] at programEq
                obtain ⟨rfl, sameNext⟩ := Prog.call.inj programEq
                obtain rfl := eq_of_heq sameNext
                obtain ⟨ran, simulates'⟩ :=
                  simulates.whole lawful plainEq out isWhole apart env
                refine ⟨_, .single (.act t op next _ _ plainEq ⟨?_, env, ran⟩), simulates'⟩
                rw [simulates.shared]
                exact admits
              · rename_i whole isBody
                have inner := inner_of_sectionThen (running.symm.trans programEq)
                have unstored := apart.unstored inner out
                have admits' : S.Admits ok t fineOp { fine.shared with
                    inside := Function.update fine.shared.inside t true } := by
                  cases fineOp <;> exact admits
                have stepped : ∃ pool', Reaches (guarded ok exec) calls pool pool' ∧ _ :=
                  (simulates.entered lawful plainEq isBody programEq
                    unstored).sectionStep lawful plainEq isBody
                    (by simp) (by simp only [Fine.settled, unstored])
                    (by
                      simp only [Fine.settled, unstored]
                      exact lawful.along op whole _ isBody)
                    (running.symm.trans programEq) (apart.entered inner) admits' env
                rwa [fineExec_entered inner] at stepped
      | inside op next whole rest isIn isBody ends along =>
          rw [running] at programEq
          exact simulates.sectionStep lawful plainEq isBody isIn ends along programEq apart admits env

/-- Every run that keeps sections apart is a run of whole operations. -/
theorem Simulates.run (lawful : S.Lawful exec mid) (simulates : S.Simulates mid fine pool)
    (reaches : Reaches (guarded (S.ApartOk ok) (S.fineExec exec)) (S.fineCalls calls) fine fine') :
    ∃ pool', Reaches (guarded ok exec) calls pool pool' ∧ S.Simulates mid fine' pool' := by
  induction reaches with
  | refl => exact ⟨pool, .refl, simulates⟩
  | tail _ step ih =>
      obtain ⟨middle, first, simulates'⟩ := ih
      obtain ⟨pool', second, simulates''⟩ := simulates'.step lawful step
      exact ⟨pool', first.trans second, simulates''⟩

omit [DecidableEq Tid] in
theorem simulates_spread (pool : Pool Tid Op Res α σ) : S.Simulates mid (S.spread pool) pool :=
  ⟨rfl, fun t => .outside (pool.thread t) rfl, nofun⟩

omit [DecidableEq Tid] in
theorem Simulates.returned (simulates : S.Simulates mid fine pool) {t : Tid} {value : α}
    (returned : fine.thread t = .ret value) : pool.thread t = .ret value := by
  have linked := simulates.threads t
  rw [returned] at linked
  exact linked.eq_ret.1

omit [DecidableEq Tid] in
/-- Between calls the two systems are in the same state. -/
theorem Simulates.state_of_returned (simulates : S.Simulates mid fine pool)
    (rest : ∀ t, ∃ value, fine.thread t = .ret value) : fine.shared.state = pool.shared := by
  rw [simulates.shared]
  unfold Fine.settled
  cases storing : fine.shared.storing with
  | none => rfl
  | some noted =>
      obtain ⟨value, returned⟩ := rest noted.1
      have linked := simulates.threads noted.1
      rw [returned] at linked
      have isIn := (simulates.storing noted.1 noted.2 storing).1
      rw [linked.eq_ret.2] at isIn
      contradiction

end Simulation

/-! ## Whole operations are sections that are kept apart -/

section Lifting

variable {S} {mid : S.Part → S.Part → Prop} [DecidableEq Tid]
  {exec : Tid → Env → (op : Op) → σ → Res op × σ}
  {ok : Tid → Op → σ → Prop} {calls : Tid → σ → Prog Op Res α → Prop}

theorem reaches_leave (lawful : S.Lawful exec mid) (t : Tid) (env : Env) (op : Op)
    (after : Res op → Prog S.FineOp S.FineRes α) (base : σ) (admitted : ok t op base)
    {I : S.Part → Prop} (rest : Prog S.Access S.Answer (Res op × Option S.Access))
    (thread : Tid → Prog S.FineOp S.FineRes α)
    (running : thread t = S.sectionThen op after rest) (part : S.Part) (isIn : Bool)
    (storing : Option (Tid × S.Part))
    (stored : storing = none ∧ part = S.get base ∨ isIn = true ∧ storing = some (t, S.get base))
    (along : S.Along I rest part) :
    Reaches (guarded (S.ApartOk ok) (S.fineExec exec)) (S.fineCalls calls)
      ⟨⟨S.set part base, Function.update (fun _ => false) t isIn, storing⟩, thread⟩
      ⟨⟨S.history t op (S.finish rest part).1 (S.set (S.finish rest part).2 base),
          fun _ => false, none⟩,
        Function.update thread t (after (S.finish rest part).1)⟩ := by
  have alone : ∀ part isIn storing, S.Alone t
      ⟨S.set part base, Function.update (fun _ => false) t isIn, storing⟩ :=
    fun _ _ _ u other => by simp [Function.update_of_ne other]
  have settled : ∀ {part : S.Part} {isIn : Bool} {storing : Option (Tid × S.Part)},
      storing = none ∧ part = S.get base ∨ isIn = true ∧ storing = some (t, S.get base) →
        Fine.settled (⟨S.set part base, Function.update (fun _ => false) t isIn, storing⟩ :
          S.Fine) = base := by
    rintro part isIn storing (⟨rfl, rfl⟩ | ⟨_, rfl⟩)
    · exact lawful.set_get base
    · simp only [Fine.settled]
      rw [lawful.set_set, lawful.set_get]
  have outside : (Function.update (fun _ => false) t isIn t = false → storing = none) := by
    intro out
    rw [Function.update_self] at out
    rcases stored with ⟨rfl, _⟩ | ⟨open_t, _⟩
    · rfl
    · rw [out] at open_t
      contradiction
  induction rest generalizing thread part isIn storing with
  | ret ended =>
      obtain ⟨result, last⟩ := ended
      have atEnd : thread t = .call (.leave op result last) fun _ => after result := running
      have admits : S.ApartOk ok t (.leave op result last)
          ⟨S.set part base, Function.update (fun _ => false) t isIn, storing⟩ := by
        refine ⟨fun m member => ?_, ⟨outside, fun _ => alone part isIn storing⟩, ?_⟩
        · rw [lawful.get_set]
          exact along.2 m member
        · simp only [Admits]
          rw [settled stored]
          exact admitted
      refine .single (.act t (.leave op result last) (fun _ => after result) () _ atEnd
        ⟨admits, env, ?_⟩)
      have closed : storing.filter (fun noted => noted.1 != t) = none := by
        rcases stored with ⟨rfl, _⟩ | ⟨_, rfl⟩
        · rfl
        · simp
      have shut : Function.update (Function.update (fun _ : Tid => false) t isIn) t false =
          fun _ => false := by
        rw [Function.update_idem]
        exact Function.update_eq_self t _
      simp only [fineExec, lawful.get_set, lawful.set_set, closed, shut, finish, Prog.run_ret]
  | call m next ih =>
      have moved : S.fineExec exec t env (.access op m)
          ⟨S.set part base, Function.update (fun _ => false) t isIn, storing⟩ =
          ((S.access m part).1,
            ⟨S.set (S.access m part).2 base, Function.update (fun _ => false) t true,
              S.noteStore t m
                ⟨S.set part base, Function.update (fun _ => false) t isIn, storing⟩⟩) := by
        simp only [fineExec, lawful.get_set, lawful.set_set, Function.update_idem]
      have stored' : S.noteStore t m
            ⟨S.set part base, Function.update (fun _ => false) t isIn, storing⟩ = none ∧
              (S.access m part).2 = S.get base ∨
          true = true ∧ S.noteStore t m
            ⟨S.set part base, Function.update (fun _ => false) t isIn, storing⟩ =
              some (t, S.get base) := by
        unfold noteStore
        cases stores : S.stores m with
        | false =>
            rw [lawful.reads m part stores, if_neg Bool.false_ne_true]
            exact stored.imp_right fun noted => ⟨rfl, noted.2⟩
        | true =>
            rw [if_pos rfl, lawful.get_set]
            rcases stored with ⟨rfl, rfl⟩ | ⟨_, rfl⟩
            · exact Or.inr ⟨rfl, rfl⟩
            · exact Or.inr ⟨rfl, rfl⟩
      have admits : S.ApartOk ok t (.access op m)
          ⟨S.set part base, Function.update (fun _ => false) t isIn, storing⟩ := by
        refine ⟨?_, ⟨outside, fun _ => alone part isIn storing⟩, fun _ => ?_⟩
        · simp only [Defined]
          rw [lawful.get_set]
          exact along.2.1
        · rw [settled stored]
          exact admitted
      have atAccess : thread t =
          .call (.access op m) fun answer => S.sectionThen op after (next answer) := running
      have first : Step (guarded (S.ApartOk ok) (S.fineExec exec)) (S.fineCalls calls)
          ⟨⟨S.set part base, Function.update (fun _ => false) t isIn, storing⟩, thread⟩ _ :=
        .act t (.access op m) (fun answer => S.sectionThen op after (next answer)) _ _ atAccess
          ⟨admits, env, moved⟩
      have later := ih (S.access m part).1
        (Function.update thread t (S.sectionThen op after (next (S.access m part).1)))
        (Function.update_self t _ _) (S.access m part).2 true _ stored' along.2.2
        (fun out => by simp at out)
      rw [Function.update_idem] at later
      exact .head first later

theorem spread_update (pool : Pool Tid Op Res α σ) (t : Tid) (program : Prog Op Res α) :
    (fun u => S.expand (Function.update pool.thread t program u)) =
      Function.update (fun u => S.expand (pool.thread u)) t (S.expand program) := by
  funext u
  by_cases same : u = t
  · subst same
    simp
  · simp [Function.update_of_ne same]

theorem reaches_spread_step (lawful : S.Lawful exec mid) {pool pool' : Pool Tid Op Res α σ}
    (step : Step (guarded ok exec) calls pool pool') :
    Reaches (guarded (S.ApartOk ok) (S.fineExec exec)) (S.fineCalls calls)
      (S.spread pool) (S.spread pool') := by
  cases step with
  | start t value program returned called =>
      have entered : Step (guarded (S.ApartOk ok) (S.fineExec exec)) (S.fineCalls calls)
          (S.spread pool) ⟨(S.spread pool).shared,
            Function.update (S.spread pool).thread t (S.expand program)⟩ :=
        .start t value _ (by simp only [spread, returned]; rfl) ⟨program, called, rfl⟩
      simp only [spread, spread_update] at entered ⊢
      exact .single entered
  | act t op next result after running does =>
      obtain ⟨admitted, env, does⟩ := does
      simp only [spread, spread_update]
      cases isBody : S.body op with
      | none =>
          have expanded : (S.spread pool).thread t =
              .call (.whole op) fun result => S.expand (next result) := by
            simp only [spread, running, expand]
            split
            · rfl
            · rename_i whole found
              rw [isBody] at found
              contradiction
          refine .single (.act t (.whole op) (fun result => S.expand (next result)) result
            ⟨after, fun _ => false, none⟩ expanded ⟨⟨trivial, fun _ => rfl, admitted⟩, env, ?_⟩)
          have ran : exec t env op (S.spread pool).shared.state = (result, after) := does
          simp only [fineExec, ran]
          rfl
      | some whole =>
          have expanded : (S.spread pool).thread t =
              S.sectionThen op (fun result => S.expand (next result)) whole := by
            simp only [spread, running, expand]
            split
            · rename_i found
              rw [isBody] at found
              contradiction
            · rename_i whole' found
              rw [isBody] at found
              obtain rfl := Option.some.inj found
              rfl
          have ran : Reaches _ (S.fineCalls calls) _ _ := reaches_leave lawful t env op
            (fun result => S.expand (next result)) pool.shared admitted whole
            (S.spread pool).thread expanded (S.get pool.shared) false none (Or.inl ⟨rfl, rfl⟩)
            (lawful.along op whole _ isBody)
          rw [lawful.set_get, Function.update_eq_self] at ran
          rw [lawful.runs t env op whole _ isBody] at does
          obtain ⟨rfl, rfl⟩ := Prod.mk.inj does
          exact ran

/-- Every run of whole operations is one of the finer system. -/
theorem reaches_spread (lawful : S.Lawful exec mid) {pool pool' : Pool Tid Op Res α σ}
    (reaches : Reaches (guarded ok exec) calls pool pool') :
    Reaches (guarded (S.ApartOk ok) (S.fineExec exec)) (S.fineCalls calls)
      (S.spread pool) (S.spread pool') := by
  induction reaches with
  | refl => exact .refl
  | tail _ step ih => exact ih.trans (reaches_spread_step lawful step)

end Lifting

end Sections

end CommandTree
