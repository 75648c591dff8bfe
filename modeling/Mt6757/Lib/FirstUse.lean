import Mathlib.Data.List.Induction
import Mathlib.Data.List.Nodup
import Mathlib.Data.List.Perm.Subperm

/-!
# Tables of keys in the order of their first use

A list of uses, each of which names a key and may set its value.  The table of the uses has
each key once, where it was used first, with the value that was set last.  A reader with room
for so many keys stops as soon as it has them.
-/

set_option autoImplicit false

namespace FirstUse

variable {K V : Type} [DecidableEq K]

structure Use (K V : Type) where
  key : K
  value : Option V
  deriving DecidableEq

/-- The keys, each where it is used first. -/
def keys (uses : List (Use K V)) : List K := (uses.map Use.key).eraseDups

/-- The value that was set last. -/
def latest (uses : List (Use K V)) (key : K) : Option V :=
  ((uses.filter fun use => use.key = key).filterMap Use.value).getLast?

variable {uses uses' seen seen' : List (Use K V)} {use : Use K V} {key : K} {value : V}

theorem mem_keys : key ∈ keys uses ↔ ∃ use ∈ uses, use.key = key := by
  rw [keys, List.mem_eraseDups, List.mem_map]

theorem keys_append (uses uses' : List (Use K V)) :
    keys (uses ++ uses') =
      keys uses ++ ((uses'.map Use.key).removeAll (uses.map Use.key)).eraseDups := by
  rw [keys, keys, List.map_append, List.eraseDups_append]

theorem keys_concat (uses : List (Use K V)) (use : Use K V) :
    keys (uses ++ [use]) = if use.key ∈ keys uses then keys uses else keys uses ++ [use.key] := by
  rw [keys_append, List.map_singleton, List.removeAll]
  by_cases here : use.key ∈ keys uses
  · have listed : (uses.map Use.key).elem use.key = true :=
      List.elem_eq_true_of_mem (List.mem_eraseDups.mp here)
    rw [if_pos here, List.filter_cons_of_neg (by rw [listed]; decide), List.filter_nil,
      List.eraseDups_nil, List.append_nil]
  · have listed : (uses.map Use.key).elem use.key = false :=
      Bool.eq_false_iff.mpr fun there => here (List.mem_eraseDups.mpr (List.mem_of_elem_eq_true there))
    rw [if_neg here, List.filter_cons_of_pos (by rw [listed]; rfl), List.filter_nil]
    rfl

theorem nodup_keys (uses : List (Use K V)) : (keys uses).Nodup := by
  induction uses using List.reverseRecOn with
  | nil => exact List.nodup_nil
  | append_singleton uses use ih =>
      rw [keys_concat]
      split
      · exact ih
      · next fresh => exact List.nodup_append_comm.mp (List.nodup_cons.mpr ⟨fresh, ih⟩)

theorem keys_isPrefix (part : seen <+: uses) : keys seen <+: keys uses := by
  obtain ⟨rest, rfl⟩ := part
  rw [keys_append]
  exact List.prefix_append _ _

theorem keys_perm (perm : uses.Perm uses') : (keys uses).Perm (keys uses') := by
  rw [List.perm_ext_iff_of_nodup (nodup_keys uses) (nodup_keys uses')]
  intro key
  rw [mem_keys, mem_keys]
  simp only [perm.mem_iff]

/-- Uses of keys that are there already add none. -/
theorem keys_append_of_known (known : ∀ use ∈ uses', use.key ∈ keys uses) :
    keys (uses ++ uses') = keys uses := by
  induction uses' generalizing uses with
  | nil => rw [List.append_nil]
  | cons use rest ih =>
      have same : keys (uses ++ [use]) = keys uses := by
        rw [keys_concat, if_pos (known use List.mem_cons_self)]
      have later : ∀ other ∈ rest, other.key ∈ keys (uses ++ [use]) := by
        rw [same]
        exact fun other here => known other (List.mem_cons_of_mem _ here)
      rw [← List.singleton_append, ← List.append_assoc, ih later, same]

theorem latest_concat (uses : List (Use K V)) (use : Use K V) (key : K) :
    latest (uses ++ [use]) key =
      if use.key = key then use.value.or (latest uses key) else latest uses key := by
  rw [latest, List.filter_append]
  by_cases same : use.key = key
  · have only : [use].filter (fun use => use.key = key) = [use] := by simp [same]
    rw [if_pos same, only, List.filterMap_append, List.getLast?_append, latest]
    cases value : use.value <;> simp [value]
  · have none : [use].filter (fun use => use.key = key) = [] := by simp [same]
    rw [if_neg same, none, List.append_nil, latest]

theorem latest_concat_none (uses : List (Use K V)) (other key : K) :
    latest (uses ++ [⟨other, none⟩]) key = latest uses key := by
  rw [latest_concat, Option.none_or, ite_self]

/-- A value that is there was set by a use of its key. -/
theorem mem_of_latest (found : latest uses key = some value) :
    (⟨key, some value⟩ : Use K V) ∈ uses := by
  have listed := List.mem_of_getLast? found
  obtain ⟨use, here, set⟩ := List.mem_filterMap.mp listed
  obtain ⟨here, same⟩ := List.mem_filter.mp here
  rw [← of_decide_eq_true same, ← set]
  exact here

theorem latest_eq_none_iff :
    latest uses key = none ↔ ∀ use ∈ uses, use.key = key → use.value = none := by
  rw [latest, List.getLast?_eq_none_iff, List.filterMap_eq_nil_iff]
  constructor
  · exact fun all use here same => all use (List.mem_filter.mpr ⟨here, decide_eq_true same⟩)
  · intro all use here
    obtain ⟨here, same⟩ := List.mem_filter.mp here
    exact all use here (of_decide_eq_true same)

/-! ## Tables in arrays -/

section Arrays

variable {α : Type} {listed : List K} {entry entry' : K → α} {change : α → α}

/-- A change of the entry of a key in an array that starts with the table. -/
theorem modify_map_idxOf (distinct : listed.Nodup) (here : key ∈ listed)
    (changed : entry' key = change (entry key)) (same : ∀ other ≠ key, entry' other = entry other)
    (rest : List α) :
    (listed.map entry ++ rest).modify (listed.idxOf key) change = listed.map entry' ++ rest := by
  induction listed with
  | nil => cases here
  | cons first listed ih =>
      obtain ⟨fresh, distinct⟩ := List.nodup_cons.mp distinct
      by_cases found : first = key
      · subst found
        have others : listed.map entry' = listed.map entry :=
          List.map_congr_left fun other there => same other fun equal => fresh (equal ▸ there)
        rw [List.idxOf_cons_self, List.map_cons, List.map_cons, List.cons_append,
          List.modify_zero_cons, changed, others]
        rfl
      · have there : key ∈ listed := (List.mem_cons.mp here).resolve_left (Ne.symm found)
        rw [List.idxOf_cons_ne _ found, List.map_cons, List.map_cons, List.cons_append,
          List.modify_succ_cons, ih distinct there, same first found]
        rfl

theorem modify_length (front : List α) (behind : α) (rest : List α) :
    (front ++ behind :: rest).modify front.length change = front ++ change behind :: rest := by
  induction front with
  | nil => rfl
  | cons first front ih =>
      rw [List.cons_append, List.length_cons, List.modify_succ_cons, ih]
      rfl

end Arrays

/-! ## Room for so many keys -/

/-- What a reader looks at that stops when it has so many keys. -/
structure Looked (bound : Nat) (uses seen : List (Use K V)) : Prop where
  part : seen <+: uses
  early : ∀ before, before <+: seen → before ≠ seen → (keys before).length < bound
  ended : seen = uses ∨ (keys seen).length = bound

namespace Looked

variable {bound : Nat}

theorem length_le (looked : Looked bound uses seen) : (keys seen).length ≤ bound := by
  rcases List.eq_nil_or_concat seen with rfl | ⟨before, use, rfl⟩
  · exact Nat.zero_le _
  · rw [List.concat_eq_append] at looked ⊢
    have below := looked.early before (List.prefix_append _ _) (by simp)
    rw [keys_concat]
    split
    · exact Nat.le_of_lt below
    · rw [List.length_append]
      exact below

theorem keys_eq (looked : Looked bound uses seen) : keys seen = (keys uses).take bound := by
  have inside := keys_isPrefix looked.part
  rcases looked.ended with rfl | full
  · exact (List.take_of_length_le looked.length_le).symm
  · rw [← full]
    exact List.prefix_iff_eq_take.mp inside

theorem eq_of_lt (looked : Looked bound uses seen) (room : (keys uses).length < bound) :
    seen = uses := by
  rcases looked.ended with same | full
  · exact same
  · have inside := (keys_isPrefix looked.part).length_le
    omega

theorem not_shorter (looked : Looked bound uses seen) (looked' : Looked bound uses seen')
    (shorter : seen <+: seen') : seen = seen' := by
  by_contra differ
  have below := looked'.early seen shorter differ
  rcases looked.ended with rfl | full
  · exact differ (shorter.eq_of_length_le looked'.part.length_le)
  · omega

theorem unique (looked : Looked bound uses seen) (looked' : Looked bound uses seen') :
    seen = seen' := by
  rcases List.prefix_or_prefix_of_prefix looked.part looked'.part with shorter | shorter
  · exact looked.not_shorter looked' shorter
  · exact (looked'.not_shorter looked shorter).symm

/-- With room for all keys and no more, the reader stops at the first use of the last key. -/
theorem of_last {others rest : List (Use K V)} (fresh : use.key ∉ keys others)
    (only : ∀ other ∈ rest, other.key = use.key) :
    Looked (keys (others ++ use :: rest)).length (others ++ use :: rest) (others ++ [use]) := by
  have listed : keys (others ++ [use]) = keys others ++ [use.key] := by
    rw [keys_concat, if_neg fresh]
  have split : others ++ use :: rest = others ++ [use] ++ rest := by
    rw [List.append_assoc, List.singleton_append]
  have same : keys (others ++ use :: rest) = keys (others ++ [use]) := by
    rw [split]
    refine keys_append_of_known fun other here => ?_
    rw [only other here, listed]
    exact List.mem_append_right _ (List.mem_singleton_self _)
  refine ⟨?_, fun before shorter differ => ?_, .inr (congrArg List.length same).symm⟩
  · rw [split]
    exact List.prefix_append _ _
  · rw [same, listed, List.length_append, List.length_singleton]
    have inside := (List.prefix_concat_iff.mp shorter).resolve_left differ
    exact Nat.lt_succ_of_le (keys_isPrefix inside).length_le

end Looked

end FirstUse
