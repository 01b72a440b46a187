/-
This file says where a mark is found in a text that is put together. A mark whose first character
does not stand in what comes before it is found at that place and not sooner, and one that starts
with a character that the text does not have is not found at all.
-/

import MoveAudit.Text.Search

namespace MoveAudit.Text

theorem after?_append (head rest : List Char) : after? head (head ++ rest) = some rest :=
  after?_eq_some_iff.mpr rfl

theorem after?_cons_of_ne {first other : Char} (head rest : List Char) (different : first ≠ other) :
    after? (first :: head) (other :: rest) = none :=
  if_neg different

theorem cut?_of_notMem {first : Char} {before : List Char} (mark rest : List Char)
    (absent : first ∉ before) :
    cut? (first :: mark) (before ++ (first :: mark ++ rest)) = some (before, rest) := by
  induction before with
  | nil =>
    rw [List.nil_append, List.cons_append, cut?, ← List.cons_append, after?_append]
  | cons other before inductionHypothesis =>
    have different : first ≠ other := fun same => absent (same ▸ List.mem_cons_self)
    have stillAbsent : first ∉ before := fun member => absent (List.mem_cons_of_mem _ member)
    rw [List.cons_append, cut?, after?_cons_of_ne _ _ different]
    dsimp only
    rw [inductionHypothesis stillAbsent]
    rfl

/-- The first piece of a text begins as the text does, up to the first character of the mark. -/
theorem prefix_firstPiece {first : Char} {before : List Char} (mark rest : List Char)
    (absent : first ∉ before) : before <+: firstPiece (first :: mark) (before ++ rest) := by
  unfold firstPiece
  split
  · exact List.prefix_append before rest
  · next piece tail found =>
    have whole := eq_of_cut? found
    rw [List.append_assoc] at whole
    rcases List.append_eq_append_iff.mp whole with ⟨more, rfl, -⟩ | ⟨missing, isBefore, behind⟩
    · exact List.prefix_append before more
    · cases missing with
      | nil => exact ((List.append_nil piece).symm.trans isBefore.symm) ▸ List.prefix_rfl
      | cons other missing =>
        obtain ⟨rfl, -⟩ := List.cons.inj behind
        exact absurd (isBefore ▸ List.mem_append_right _ List.mem_cons_self) absent

/-- A mark that is found stands in the text. -/
theorem infix_of_cut? {mark text before rest : List Char}
    (found : cut? mark text = some (before, rest)) : mark <:+: text :=
  ⟨before, rest, (eq_of_cut? found).symm⟩

/-- A part stands in a text exactly if it is found there. -/
theorem contains_iff_infix {part text : List Char} : contains part text = true ↔ part <:+: text := by
  unfold contains
  constructor
  · intro isFound
    obtain ⟨⟨before, rest⟩, found⟩ := Option.isSome_iff_exists.mp isFound
    exact infix_of_cut? found
  · intro stands
    induction text with
    | nil =>
      obtain rfl := List.infix_nil.mp stands
      rfl
    | cons first text inductionHypothesis =>
      unfold cut?
      split
      · rfl
      · next notHere =>
        rw [Option.isSome_map]
        refine inductionHypothesis ((List.infix_cons_iff.mp stands).resolve_left ?_)
        rintro ⟨rest, here⟩
        rw [after?_eq_some_iff.mpr here.symm] at notHere
        cases notHere

theorem indexOf?_of_notMem {first : Char} {before : List Char} (mark rest : List Char)
    (absent : first ∉ before) :
    indexOf? (first :: mark) (before ++ (first :: mark ++ rest)) = some before.length := by
  rw [indexOf?, cut?_of_notMem mark rest absent]
  rfl

theorem lastIndexOf?_of_notMem {last : Char} {rest : List Char} (before mark : List Char)
    (absent : last ∉ rest) :
    lastIndexOf? (mark ++ [last]) (before ++ (mark ++ [last] ++ rest)) = some before.length := by
  have found := @cut?_of_notMem last rest.reverse mark.reverse before.reverse
    fun member => absent (List.mem_reverse.mp member)
  rw [← List.reverse_concat, ← List.reverse_append, ← List.reverse_append, List.append_assoc] at found
  rw [lastIndexOf?, found]
  exact congrArg some List.length_reverse

end MoveAudit.Text
