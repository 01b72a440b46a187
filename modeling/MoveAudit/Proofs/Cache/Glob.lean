/-
This file says which names a pattern covers on a server that takes patterns for globs: a star stands
for any text and a question mark for any one character, brackets hold the characters of which one is
to stand there, or with a caret those of which none is, and a backslash takes the next character for
itself. A text without brackets and backslashes covers what begins with it when a star is put after
it, since its own stars and question marks cover themselves. One with brackets need not.
-/

import Mathlib.Data.List.Infix

namespace MoveAudit.Cache.Glob

/-- A part of a pattern. -/
inductive Part where
  | anyText
  | anyOne
  | just (character : Char)
  /-- One of the characters between two that stand in the brackets; or one of the others. -/
  | oneOf (isOther : Bool) (ranges : List (Char × Char))

/-- Whether a character lies between two, in whichever order these are given. -/
def isBetween (character : Char) (range : Char × Char) : Bool :=
  range.1 ≤ character && character ≤ range.2 || range.2 ≤ character && character ≤ range.1

mutual

/-- The parts that a pattern is made of. -/
def parts : List Char → List Part
  | [] => []
  | '*' :: rest => .anyText :: parts rest
  | '?' :: rest => .anyOne :: parts rest
  | '[' :: '^' :: rest => partsWithin true [] rest
  | '[' :: rest => partsWithin false [] rest
  | '\\' :: character :: rest => .just character :: parts rest
  | character :: rest => .just character :: parts rest

/-- The parts from inside brackets on, after some ranges. Brackets that are not closed go on to the
end. -/
def partsWithin (isOther : Bool) (ranges : List (Char × Char)) : List Char → List Part
  | [] => [.oneOf isOther ranges]
  | '\\' :: character :: rest => partsWithin isOther ((character, character) :: ranges) rest
  | ']' :: rest => .oneOf isOther ranges :: parts rest
  | first :: '-' :: last :: rest => partsWithin isOther ((first, last) :: ranges) rest
  | character :: rest => partsWithin isOther ((character, character) :: ranges) rest

end

/-- Whether a text is made as the parts say. -/
def isMade : List Part → List Char → Bool
  | [], text => text.isEmpty
  | .anyText :: others, text => text.tails.any (isMade others)
  | _ :: _, [] => false
  | .anyOne :: others, _ :: rest => isMade others rest
  | .just character :: others, first :: rest => first == character && isMade others rest
  | .oneOf isOther ranges :: others, first :: rest =>
    ranges.any (isBetween first) != isOther && isMade others rest

/-- Whether a pattern covers a name. -/
def covers (pattern name : String) : Bool :=
  isMade (parts pattern.toList) name.toList

/-! ### Texts that cover themselves -/

/-- A text without characters that take others with them. -/
def IsPlain (text : List Char) : Prop :=
  '[' ∉ text ∧ '\\' ∉ text

theorem IsPlain.append {first second : List Char} (isPlain : IsPlain first)
    (isPlainToo : IsPlain second) : IsPlain (first ++ second) :=
  ⟨fun member => (List.mem_append.mp member).elim isPlain.1 isPlainToo.1,
    fun member => (List.mem_append.mp member).elim isPlain.2 isPlainToo.2⟩

theorem isMade_anyText {others : List Part} {part text : List Char}
    (made : isMade others part = true) (isEnd : part <:+ text) :
    isMade (.anyText :: others) text = true :=
  List.any_eq_true.mpr ⟨part, (List.mem_tails part text).mpr isEnd, made⟩

theorem parts_just {character : Char} (noStar : character ≠ '*') (noMark : character ≠ '?')
    (noBracket : character ≠ '[') (noEscape : character ≠ '\\') (rest : List Char) :
    parts (character :: rest) = .just character :: parts rest := by
  rw [parts.eq_def]
  split <;> simp_all

/-- A plain text with a star after it covers what begins with the text. -/
theorem isMade_plain {start : List Char} (isPlain : IsPlain start) (rest : List Char) :
    isMade (parts (start ++ ['*'])) (start ++ rest) = true := by
  induction start with
  | nil => exact isMade_anyText rfl (List.nil_suffix)
  | cons first others inductionHypothesis =>
    have made := inductionHypothesis ⟨fun member => isPlain.1 (List.mem_cons_of_mem _ member),
      fun member => isPlain.2 (List.mem_cons_of_mem _ member)⟩
    by_cases isStar : first = '*'
    · subst isStar
      exact isMade_anyText made (List.suffix_cons _ _)
    by_cases isMark : first = '?'
    · subst isMark
      exact made
    have noBracket : first ≠ '[' := fun same => isPlain.1 (same ▸ List.mem_cons_self)
    have noEscape : first ≠ '\\' := fun same => isPlain.2 (same ▸ List.mem_cons_self)
    rw [List.cons_append, parts_just isStar isMark noBracket noEscape, List.cons_append, isMade,
      beq_self_eq_true, Bool.true_and, made]

theorem covers_plain {start name : String} (isPlain : IsPlain start.toList)
    (begins : start.toList <+: name.toList) : covers (start ++ "*") name = true := by
  obtain ⟨rest, whole⟩ := begins
  unfold covers
  rw [← whole, String.toList_append]
  exact isMade_plain isPlain rest

end MoveAudit.Cache.Glob
