import Mathlib.Data.List.Basic
import Mathlib.Data.List.Nodup

/-!
# Lists searched by key

Entries of a list answer to at most one key each, and the first entry of a key
is the one that counts.  This is about removing the first entries of several
keys and about storing several entries within a bound: what stays, in which
order, and when the two undo each other.
-/

set_option autoImplicit false

namespace KeyedList

variable {E K : Type} {hit : K → E → Bool}

/-- No entry answers to two keys. -/
def Exclusive (hit : K → E → Bool) : Prop :=
  ∀ key key' entry, hit key entry = true → hit key' entry = true → key = key'

theorem Exclusive.disjoint (exclusive : Exclusive hit) {key key' : K} (other : key ≠ key')
    (entry : E) (here : hit key entry = true) : hit key' entry = false := by
  cases here' : hit key' entry with
  | true => exact absurd (exclusive key key' entry here here') other
  | false => rfl

/-- Remove the first entry of each key in turn. -/
def eraseEach (hit : K → E → Bool) (keys : List K) (entries : List E) : List E :=
  keys.foldl (fun rest key => rest.eraseP (hit key)) entries

/-- Store each entry at the end while there is room. -/
def storeEach (bound : Nat) (new entries : List E) : List E :=
  new.foldl (fun stored entry => if stored.length < bound then stored ++ [entry] else stored)
    entries

@[simp] theorem eraseEach_nil (entries : List E) : eraseEach hit [] entries = entries := rfl

@[simp] theorem eraseEach_cons (key : K) (keys : List K) (entries : List E) :
    eraseEach hit (key :: keys) entries = eraseEach hit keys (entries.eraseP (hit key)) := rfl

@[simp] theorem storeEach_nil (bound : Nat) (entries : List E) :
    storeEach bound [] entries = entries := rfl

@[simp] theorem storeEach_cons (bound : Nat) (entry : E) (new entries : List E) :
    storeEach bound (entry :: new) entries =
      storeEach bound new
        (if entries.length < bound then entries ++ [entry] else entries) := rfl

theorem eraseEach_sublist (keys : List K) (entries : List E) :
    (eraseEach hit keys entries).Sublist entries := by
  induction keys generalizing entries with
  | nil => exact List.Sublist.refl _
  | cons key keys ih => exact (ih _).trans List.eraseP_sublist

theorem storeEach_eq_append (bound : Nat) (new entries : List E) :
    storeEach bound new entries = entries ++ new.take (bound - entries.length) := by
  induction new generalizing entries with
  | nil => simp [storeEach]
  | cons entry rest ih =>
      rw [storeEach_cons, ih]
      split
      · rename_i room
        obtain ⟨left, left_eq⟩ : ∃ left, bound - entries.length = left + 1 :=
          ⟨bound - entries.length - 1, by omega⟩
        have left_eq' : bound - (entries ++ [entry]).length = left := by
          simp only [List.length_append, List.length_singleton]
          omega
        rw [left_eq, left_eq', List.take_succ_cons, List.append_assoc, List.singleton_append]
      · rename_i full
        have noRoom : bound - entries.length = 0 := by omega
        simp [noRoom]

/-! ## The first entry of a key -/

theorem find?_eraseP_of_ne (exclusive : Exclusive hit) {key key' : K} (other : key ≠ key')
    (entries : List E) :
    (entries.eraseP (hit key)).find? (hit key') = entries.find? (hit key') := by
  induction entries with
  | nil => rfl
  | cons entry rest ih =>
      cases here : hit key entry with
      | true => simp [here, exclusive.disjoint other entry here]
      | false =>
          rw [List.eraseP_cons_of_neg (by simp [here]), List.find?_cons, List.find?_cons, ih]

theorem filter_eraseP_self (test : E → Bool) (entries : List E) :
    (entries.eraseP test).filter test = (entries.filter test).tail := by
  induction entries with
  | nil => rfl
  | cons entry rest ih =>
      cases here : test entry with
      | true => simp [here]
      | false => simp [here, ih]

theorem filter_eraseP_of_disjoint {test keep : E → Bool}
    (disjoint : ∀ entry, test entry = true → keep entry = false) (entries : List E) :
    (entries.eraseP test).filter keep = entries.filter keep := by
  induction entries with
  | nil => rfl
  | cons entry rest ih =>
      cases here : test entry with
      | true => simp [here, disjoint entry here]
      | false =>
          rw [List.eraseP_cons_of_neg (by simp [here]), List.filter_cons, List.filter_cons, ih]

theorem filter_eraseP_of_ne (exclusive : Exclusive hit) {key key' : K} (other : key ≠ key')
    (entries : List E) :
    (entries.eraseP (hit key)).filter (hit key') = entries.filter (hit key') :=
  filter_eraseP_of_disjoint (exclusive.disjoint other) entries

theorem filter_eraseEach_of_notMem (exclusive : Exclusive hit) {keys : List K} {key : K}
    (absent : key ∉ keys) (entries : List E) :
    (eraseEach hit keys entries).filter (hit key) = entries.filter (hit key) := by
  induction keys generalizing entries with
  | nil => rfl
  | cons other keys ih =>
      rw [List.mem_cons, not_or] at absent
      rw [eraseEach_cons, ih absent.2, filter_eraseP_of_ne exclusive (Ne.symm absent.1)]

theorem filter_eraseEach_of_mem (exclusive : Exclusive hit) {keys : List K}
    (distinct : keys.Nodup) {key : K} (member : key ∈ keys) (entries : List E) :
    (eraseEach hit keys entries).filter (hit key) = (entries.filter (hit key)).tail := by
  induction keys generalizing entries with
  | nil => exact absurd member List.not_mem_nil
  | cons other keys ih =>
      obtain ⟨absent, distinct⟩ := List.nodup_cons.mp distinct
      rw [eraseEach_cons]
      rcases List.mem_cons.mp member with rfl | member
      · rw [filter_eraseEach_of_notMem exclusive absent, filter_eraseP_self]
      · have differ : other ≠ key := fun same => absent (same ▸ member)
        rw [ih distinct member, filter_eraseP_of_ne exclusive differ]

theorem perm_find?_eraseP {test : E → Bool} {entries : List E} {entry : E}
    (found : entries.find? test = some entry) :
    entries.Perm (entry :: entries.eraseP test) := by
  induction entries with
  | nil => contradiction
  | cons first rest ih =>
      cases here : test first with
      | true =>
          rw [List.find?_cons_of_pos here] at found
          obtain rfl := Option.some.inj found
          rw [List.eraseP_cons_of_pos here]
      | false =>
          rw [List.find?_cons_of_neg (by simp [here])] at found
          rw [List.eraseP_cons_of_neg (by simp [here])]
          exact ((ih found).cons first).trans (.swap entry first _)

/-! ## What a removal leaves alone -/

theorem filter_eraseP_eq_iff (keep test : E → Bool) (entries : List E) :
    (entries.eraseP test).filter keep = entries.filter keep ↔
      ∀ entry ∈ entries.find? test, keep entry = false := by
  induction entries with
  | nil => simp
  | cons entry rest ih =>
      cases here : test entry with
      | true =>
          simp only [List.eraseP_cons_of_pos, here, List.find?_cons, Option.mem_def,
            Option.some.injEq, forall_eq']
          cases kept : keep entry with
          | true =>
              simp only [List.filter_cons, kept, if_true, Bool.true_eq_false, iff_false]
              intro same
              have lengths := congrArg List.length same
              simp at lengths
          | false => simp [kept]
      | false =>
          rw [List.eraseP_cons_of_neg (by simp [here]), List.find?_cons_of_neg (by simp [here]),
            ← ih]
          cases kept : keep entry <;> simp [kept]

/-- The entries that `keep` selects survive, in their order, exactly when none
of them is the first entry of a key that is removed. -/
theorem filter_eraseEach_eq_iff (exclusive : Exclusive hit) {keys : List K}
    (distinct : keys.Nodup) (keep : E → Bool) (entries : List E) :
    (eraseEach hit keys entries).filter keep = entries.filter keep ↔
      ∀ key ∈ keys, ∀ entry ∈ entries.find? (hit key), keep entry = false := by
  induction keys generalizing entries with
  | nil => simp
  | cons key keys ih =>
      obtain ⟨absent, distinct⟩ := List.nodup_cons.mp distinct
      have later : ∀ other ∈ keys,
          (entries.eraseP (hit key)).find? (hit other) = entries.find? (hit other) := by
        intro other member
        exact find?_eraseP_of_ne exclusive (fun same => absent (by rwa [same])) entries
      have ih := ih distinct (entries.eraseP (hit key))
      simp only [eraseEach_cons, List.forall_mem_cons]
      constructor
      · intro same
        -- nothing kept may go, neither at this key nor at the later ones
        have first : (entries.eraseP (hit key)).filter keep = entries.filter keep := by
          apply List.Sublist.eq_of_length_le
          · exact List.eraseP_sublist.filter keep
          · rw [← same]
            exact ((eraseEach_sublist keys _).filter keep).length_le
        refine ⟨(filter_eraseP_eq_iff keep (hit key) entries).mp first, ?_⟩
        intro other member
        rw [← later other member]
        exact ih.mp (same.trans first.symm) other member
      · rintro ⟨first, rest⟩
        have first := (filter_eraseP_eq_iff keep (hit key) entries).mpr first
        rw [← first]
        apply ih.mpr
        intro other member
        rw [later other member]
        exact rest other member

theorem find?_eraseP_of_kept {keep test search : E → Bool} {entries : List E} {entry : E}
    (spared : ∀ first ∈ entries.find? test, keep first = false)
    (found : entries.find? search = some entry) (kept : keep entry = true) :
    (entries.eraseP test).find? search = some entry := by
  induction entries with
  | nil => contradiction
  | cons first rest ih =>
      cases here : test first with
      | true =>
          have notKept : keep first = false := spared first (by simp [here])
          cases searched : search first with
          | true =>
              simp only [List.find?_cons, searched, Option.some.injEq] at found
              rw [found, kept] at notKept
              contradiction
          | false => simpa [here, searched] using found
      | false =>
          rw [List.eraseP_cons_of_neg (by simp [here])]
          rw [List.find?_cons_of_neg (by simp [here])] at spared
          cases searched : search first with
          | true => simpa [searched] using found
          | false =>
              rw [List.find?_cons_of_neg (by simp [searched])] at found ⊢
              exact ih spared found

/-- A search that ends at an entry that survives ends there after the removal. -/
theorem find?_eraseEach_of_kept (exclusive : Exclusive hit) {keys : List K}
    (distinct : keys.Nodup) (keep : E → Bool) {search : E → Bool} {entries : List E} {entry : E}
    (spared : ∀ key ∈ keys, ∀ first ∈ entries.find? (hit key), keep first = false)
    (found : entries.find? search = some entry) (kept : keep entry = true) :
    (eraseEach hit keys entries).find? search = some entry := by
  induction keys generalizing entries with
  | nil => exact found
  | cons key keys ih =>
      obtain ⟨absent, distinct⟩ := List.nodup_cons.mp distinct
      rw [List.forall_mem_cons] at spared
      refine ih distinct ?_ (find?_eraseP_of_kept spared.1 found kept)
      intro other member
      rw [find?_eraseP_of_ne exclusive (fun same => absent (by rwa [same]))]
      exact spared.2 other member

/-! ## Undoing what was stored -/

theorem eraseEach_append_of_none {keys : List K} {entries : List E}
    (none_hit : ∀ key ∈ keys, ∀ entry ∈ entries, hit key entry = false) (new : List E) :
    eraseEach hit keys (entries ++ new) = entries ++ eraseEach hit keys new := by
  induction keys generalizing new with
  | nil => rfl
  | cons key keys ih =>
      rw [List.forall_mem_cons] at none_hit
      have here : (entries ++ new).eraseP (hit key) = entries ++ new.eraseP (hit key) :=
        List.eraseP_append_right _ fun entry member => by simp [none_hit.1 entry member]
      rw [eraseEach_cons, eraseEach_cons, here, ih none_hit.2]

/-- Entries stored under distinct keys all go when those keys are removed. -/
theorem eraseEach_map_eq_nil [DecidableEq K] {entryOf : K → E}
    (answers : ∀ key key', hit key (entryOf key') = decide (key' = key)) {keys stored : List K}
    (distinct : stored.Nodup) (covered : stored ⊆ keys) :
    eraseEach hit keys (stored.map entryOf) = [] := by
  induction keys generalizing stored with
  | nil => simpa using covered
  | cons key keys ih =>
      have erased : (stored.map entryOf).eraseP (hit key) =
          (stored.erase key).map entryOf := by
        have sameTest : hit key ∘ entryOf = fun other => other == key := by
          funext other
          exact answers key other
        rw [List.eraseP_map, List.erase_eq_eraseP', sameTest]
      rw [eraseEach_cons, erased]
      apply ih (distinct.erase key)
      intro other member
      rcases List.mem_cons.mp (covered (List.mem_of_mem_erase member)) with rfl | member'
      · exact absurd member distinct.not_mem_erase
      · exact member'

/-- Storing within the bound and then removing the same keys leaves the list as
it was exactly when it had no entry of those keys before, provided the new
entries are recognisable. -/
theorem eraseEach_storeEach_eq_iff [DecidableEq K] (exclusive : Exclusive hit)
    (entryOf : K → E) (answers : ∀ key key', hit key (entryOf key') = decide (key' = key))
    {keys stored : List K} (distinctKeys : keys.Nodup) (distinct : stored.Nodup)
    (covered : stored ⊆ keys) (bound : Nat) {entries : List E}
    (fresh : ∀ key, entryOf key ∉ entries) :
    eraseEach hit keys (storeEach bound (stored.map entryOf) entries) = entries ↔
      ∀ key ∈ keys, ∀ entry ∈ entries, hit key entry = false := by
  rw [storeEach_eq_append, ← List.map_take]
  have distinctTaken := distinct.sublist (List.take_sublist (bound - entries.length) stored)
  have coveredTaken : stored.take (bound - entries.length) ⊆ keys :=
    fun key member => covered (List.mem_of_mem_take member)
  generalize stored.take (bound - entries.length) = taken at distinctTaken coveredTaken
  constructor
  · intro same key member entry inEntries
    by_contra hitEntry
    have hitEntry : hit key entry = true := by simpa using hitEntry
    -- the removal takes the old first entry of this key
    have filtered := congrArg (List.filter (hit key)) same
    rw [filter_eraseEach_of_mem exclusive distinctKeys member, List.filter_append] at filtered
    have inFilter : entry ∈ entries.filter (hit key) := List.mem_filter.mpr ⟨inEntries, hitEntry⟩
    cases old : entries.filter (hit key) with
    | nil =>
        rw [old] at inFilter
        exact List.not_mem_nil inFilter
    | cons first rest =>
        rw [old, List.cons_append, List.tail_cons] at filtered
        cases new : (taken.map entryOf).filter (hit key) with
        | nil =>
            rw [new] at filtered
            have lengths := congrArg List.length filtered
            simp at lengths
        | cons added others =>
            -- so a new entry would have to be an old one
            have inNew : added ∈ (taken.map entryOf).filter (hit key) := by
              rw [new]
              exact List.mem_cons_self
            obtain ⟨inMap, _⟩ := List.mem_filter.mp inNew
            obtain ⟨addedKey, _, rfl⟩ := List.mem_map.mp inMap
            have inOld : entryOf addedKey ∈ entries.filter (hit key) := by
              rw [old, ← filtered, new]
              exact List.mem_append_right _ List.mem_cons_self
            exact fresh addedKey (List.mem_filter.mp inOld).1
  · intro none_hit
    rw [eraseEach_append_of_none none_hit,
      eraseEach_map_eq_nil answers distinctTaken coveredTaken, List.append_nil]

/-! ## Folds that one entry decides -/

section Folds
variable {σ α β : Type} {view : σ → β} {step : σ → α → σ} {target : α} {entries : List α}

theorem view_foldl_of_not_mem
    (frame : ∀ state entry, entry ≠ target → view (step state entry) = view state)
    (away : target ∉ entries) (state : σ) : view (entries.foldl step state) = view state := by
  induction entries generalizing state with
  | nil => rfl
  | cons entry entries ih =>
      have other : entry ≠ target := fun same => away (same ▸ List.mem_cons_self)
      have later : target ∉ entries := fun there => away (List.mem_cons_of_mem _ there)
      rw [List.foldl_cons, ih later, frame _ _ other]

/-- What one entry of a list touches alone, changes as this entry changes it. -/
theorem view_foldl {update : β → β}
    (frame : ∀ state entry, entry ≠ target → view (step state entry) = view state)
    (decides : ∀ state, view (step state target) = update (view state)) (here : target ∈ entries)
    (nodup : entries.Nodup) (state : σ) :
    view (entries.foldl step state) = update (view state) := by
  induction entries generalizing state with
  | nil => cases here
  | cons entry entries ih =>
      obtain ⟨once, nodup'⟩ := List.nodup_cons.mp nodup
      rw [List.foldl_cons]
      rcases List.mem_cons.mp here with rfl | later
      · rw [view_foldl_of_not_mem frame once, decides]
      · have other : entry ≠ target := fun same => once (same ▸ later)
        rw [ih later nodup', frame _ _ other]

end Folds

end KeyedList
