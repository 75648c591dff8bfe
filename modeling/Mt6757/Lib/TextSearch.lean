import Mathlib.Data.List.Infix

/-!
# Occurrences of a pattern

How often a pattern occurs in a text, counted from the left and without overlaps, and the
text with something else in the place of each occurrence.
-/

set_option autoImplicit false

namespace TextSearch

variable {α : Type} [DecidableEq α]

/-- The occurrences behind the next `skip` characters. -/
def count (pattern : List α) : (skip : Nat) → List α → Nat
  | _, [] => 0
  | skip + 1, _ :: rest => count pattern skip rest
  | 0, char :: rest =>
      if pattern <+: char :: rest then count pattern (pattern.length - 1) rest + 1
      else count pattern 0 rest

/-- The next `skip` characters are those of an occurrence, and are gone. -/
def replace (pattern new : List α) : (skip : Nat) → List α → List α
  | _, [] => []
  | skip + 1, _ :: rest => replace pattern new skip rest
  | 0, char :: rest =>
      if pattern <+: char :: rest then new ++ replace pattern new (pattern.length - 1) rest
      else char :: replace pattern new 0 rest

variable {pattern : List α} (new : List α)

theorem count_skip (skip : Nat) (text : List α) :
    count pattern skip text = count pattern 0 (text.drop skip) := by
  induction text generalizing skip with
  | nil => simp [count]
  | cons char rest ih =>
      cases skip with
      | zero => rfl
      | succ skip => exact ih skip

theorem replace_skip (skip : Nat) (text : List α) :
    replace pattern new skip text = replace pattern new 0 (text.drop skip) := by
  induction text generalizing skip with
  | nil => simp [replace]
  | cons char rest ih =>
      cases skip with
      | zero => rfl
      | succ skip => exact ih skip

theorem replace_of_count_zero {text : List α} (none_there : count pattern 0 text = 0) :
    replace pattern new 0 text = text := by
  induction text with
  | nil => rfl
  | cons char rest ih =>
      rw [count] at none_there
      split at none_there
      next => cases none_there
      next absent => rw [replace, if_neg absent, ih none_there]

omit [DecidableEq α] in
theorem drop_pattern {char : α} {rest after : List α} (nonempty : pattern ≠ [])
    (split : pattern ++ after = char :: rest) : rest.drop (pattern.length - 1) = after := by
  cases pattern with
  | nil => exact absurd rfl nonempty
  | cons first others =>
      obtain ⟨-, rfl⟩ := List.cons_eq_cons.mp split
      exact List.drop_left

theorem replace_of_count_one {text : List α} (nonempty : pattern ≠ [])
    (once : count pattern 0 text = 1) :
    ∃ before after, text = before ++ pattern ++ after ∧
      replace pattern new 0 text = before ++ new ++ after := by
  induction text with
  | nil => cases once
  | cons char rest ih =>
      rw [count] at once
      split at once
      next here =>
        obtain ⟨after, split⟩ := id here
        have left := drop_pattern nonempty split
        rw [count_skip, left] at once
        refine ⟨[], after, split.symm, ?_⟩
        rw [replace, if_pos here, replace_skip, left,
          replace_of_count_zero new (Nat.succ.inj once), List.nil_append]
      next absent =>
        obtain ⟨before, after, split, replaced⟩ := ih once
        refine ⟨char :: before, after, ?_, ?_⟩
        · rw [split]
          rfl
        · rw [replace, if_neg absent, replaced]
          rfl

end TextSearch
