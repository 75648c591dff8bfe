import Mathlib.Data.List.Induction

/-!
# Streams that arrive in pieces

A reader appends each piece to what it has, and stops when a test of all that has arrived
holds.  It ends with a prefix of the stream, and which prefixes these are, over all ways of
cutting the stream, does not depend on the cut.
-/

set_option autoImplicit false

namespace Pieces

variable {α : Type} {stop : List α → Bool} {seen stream front : List α} {most : Nat}

def collect (stop : List α → Bool) : List α → List (List α) → List α
  | seen, [] => seen
  | seen, piece :: rest =>
      if stop (seen ++ piece) then seen ++ piece else collect stop (seen ++ piece) rest

/-- A way of cutting a stream into so many pieces at most, none of them empty. -/
structure Cut (stream : List α) (most : Nat) where
  pieces : List (List α)
  whole : pieces.flatten = stream
  nonempty : [] ∉ pieces
  few : pieces.length ≤ most

theorem collect_prefix (pieces : List (List α)) :
    collect stop seen pieces <+: seen ++ pieces.flatten := by
  induction pieces generalizing seen with
  | nil =>
      rw [List.flatten_nil, List.append_nil]
      exact List.prefix_rfl
  | cons piece rest ih =>
      rw [List.flatten_cons, ← List.append_assoc, collect]
      split
      · exact List.prefix_append _ _
      · exact ih

theorem prefix_collect (pieces : List (List α)) : seen <+: collect stop seen pieces := by
  induction pieces generalizing seen with
  | nil => exact List.prefix_rfl
  | cons piece rest ih =>
      rw [collect]
      split
      · exact List.prefix_append _ _
      · exact (List.prefix_append seen piece).trans ih

theorem collect_ended (pieces : List (List α)) :
    collect stop seen pieces = seen ++ pieces.flatten ∨
      stop (collect stop seen pieces) = true := by
  induction pieces generalizing seen with
  | nil => exact .inl (List.append_nil seen).symm
  | cons piece rest ih =>
      rw [List.flatten_cons, ← List.append_assoc, collect]
      split
      · next held => exact .inr held
      · exact ih

theorem collect_ne_nil {pieces : List (List α)} (some_piece : pieces ≠ [])
    (nonempty : [] ∉ pieces) : collect stop [] pieces ≠ [] := by
  obtain ⟨piece, rest, rfl⟩ := List.exists_cons_of_ne_nil some_piece
  have first : piece ≠ [] := fun empty => nonempty (empty ▸ List.mem_cons_self)
  rw [collect, List.nil_append]
  split
  · exact first
  · intro nothing
    have kept : piece <+: collect stop piece rest := prefix_collect rest
    rw [nothing] at kept
    exact first (List.prefix_nil.mp kept)

/-- Over all cuts, the reader ends with the whole stream and with those nonempty prefixes of
it for which the test holds. -/
theorem collect_eq_iff (stop : List α → Bool) (some_stream : stream ≠ []) (two : 2 ≤ most) :
    (∃ cut : Cut stream most, collect stop [] cut.pieces = front) ↔
      front <+: stream ∧ front ≠ [] ∧ (front = stream ∨ stop front = true) := by
  constructor
  · rintro ⟨cut, rfl⟩
    have inside : collect stop [] cut.pieces <+: [] ++ cut.pieces.flatten :=
      collect_prefix cut.pieces
    have ended : collect stop [] cut.pieces = [] ++ cut.pieces.flatten ∨ _ :=
      collect_ended cut.pieces
    rw [List.nil_append, cut.whole] at inside ended
    refine ⟨inside, collect_ne_nil (fun none => ?_) cut.nonempty, ended⟩
    have whole := cut.whole
    rw [none, List.flatten_nil] at whole
    exact some_stream whole.symm
  · rintro ⟨⟨back, rfl⟩, some_front, ended⟩
    by_cases last : back = []
    · subst last
      refine ⟨⟨[front], by simp, by simpa using some_front.symm, ?_⟩, ?_⟩
      · rw [List.length_singleton]
        omega
      · rw [collect, collect, List.nil_append, ite_self]
    · have held : stop front = true :=
        ended.resolve_left fun whole => last (List.self_eq_append_right.mp whole)
      refine ⟨⟨[front, back], by simp, ?_, two⟩, ?_⟩
      · simpa using And.intro some_front.symm (Ne.symm last)
      · rw [collect, List.nil_append, if_pos held]

theorem forall_cut_iff (some_stream : stream ≠ []) (two : 2 ≤ most) {P : List α → Prop} :
    (∀ cut : Cut stream most, P (collect stop [] cut.pieces)) ↔
      ∀ front, front <+: stream → front ≠ [] → (front = stream ∨ stop front = true) →
        P front := by
  constructor
  · intro all front inside some_front ended
    obtain ⟨cut, rfl⟩ := (collect_eq_iff stop some_stream two).mpr ⟨inside, some_front, ended⟩
    exact all cut
  · intro all cut
    have here := (collect_eq_iff stop some_stream two).mp ⟨cut, rfl⟩
    exact all _ here.1 here.2.1 here.2.2

theorem exists_first {P : List α → Prop} (nothing : ¬ P []) (whole : P stream) :
    ∃ before last, before ++ [last] <+: stream ∧ ¬ P before ∧ P (before ++ [last]) := by
  induction stream using List.reverseRecOn with
  | nil => exact absurd whole nothing
  | append_singleton before last ih =>
      by_cases earlier : P before
      · obtain ⟨before', last', inside, missing, found⟩ := ih earlier
        exact ⟨before', last', inside.trans (List.prefix_append _ _), missing, found⟩
      · exact ⟨before, last, List.prefix_rfl, earlier, whole⟩

end Pieces
