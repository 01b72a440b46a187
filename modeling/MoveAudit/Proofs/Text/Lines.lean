/-
This file says where the lines of a text stand. A character that ends no line belongs to the line
that follows it, so the first line begins the text, and every line is a part of it.
-/

import Mathlib.Data.List.Basic
import MoveAudit.Text.Basic

namespace MoveAudit.Text

/-- A character that does not end a line belongs to the first line. -/
theorem lines_cons {c : Char} (inner : isLineEnd c = false) (rest : List Char) :
    lines (c :: rest) = (c :: (lines rest).headD []) :: (lines rest).tail := by
  have notReturn : c ≠ '\r' := by
    rintro rfl
    cases inner
  cases rest with
  | nil => simp [lines, inner]
  | cons next rest =>
    rw [lines, if_neg (by simp [inner])]
    · cases lines (next :: rest) <;> rfl
    · exact fun _ isReturn => absurd isReturn notReturn

/-- The first line begins its text, and every line stands in it. -/
theorem lines_stand (text : List Char) :
    (lines text).headD [] <+: text ∧ ∀ line ∈ lines text, line <:+: text := by
  have ended (first : Char) {rest : List Char} (others : ∀ line ∈ lines rest, line <:+: rest) :
      [] <+: first :: rest ∧ ∀ line ∈ [] :: lines rest, line <:+: first :: rest := by
    refine ⟨List.nil_prefix, List.forall_mem_cons.mpr ⟨List.nil_infix, fun line member => ?_⟩⟩
    exact (others line member).trans (List.suffix_cons first rest).isInfix
  have within {c : Char} {rest : List Char} (notEnd : ¬ isLineEnd c = true)
      (others : (lines rest).headD [] <+: rest ∧ ∀ line ∈ lines rest, line <:+: rest) :
      (lines (c :: rest)).headD [] <+: c :: rest ∧
        ∀ line ∈ lines (c :: rest), line <:+: c :: rest := by
    have starts : c :: (lines rest).headD [] <+: c :: rest :=
      List.cons_prefix_cons.mpr ⟨rfl, others.1⟩
    rw [lines_cons (eq_false_of_ne_true notEnd)]
    refine ⟨starts, List.forall_mem_cons.mpr ⟨starts.isInfix, fun line member => ?_⟩⟩
    exact (others.2 line (List.mem_of_mem_tail member)).trans (List.suffix_cons c rest).isInfix
  induction text using lines.induct with
  | case1 => exact ⟨List.prefix_rfl, nofun⟩
  | case2 rest inductionHypothesis =>
    rw [lines]
    refine ⟨List.nil_prefix, fun line member => ?_⟩
    exact ((ended '\n' inductionHypothesis.2).2 line member).trans
      (List.suffix_cons '\r' _).isInfix
  | case3 c rest notPair isEnd inductionHypothesis =>
    have whole : lines (c :: rest) = [] :: lines rest := by
      cases rest with
      | nil => simp [lines, isEnd]
      | cons next rest =>
        rw [lines, if_pos isEnd]
        exact notPair
    rw [whole]
    exact ended c inductionHypothesis.2
  | case4 c notEnd => exact within notEnd ⟨List.prefix_rfl, nofun⟩
  | case5 c notEnd next rest _ _ inductionHypothesis => exact within notEnd inductionHypothesis
  | case6 c notEnd next rest _ _ _ _ inductionHypothesis => exact within notEnd inductionHypothesis

end MoveAudit.Text
