/-
This file finds a text inside another: at its start, at its first place, at its last place. What
is cut at a mark is put together again by writing the mark in between.
-/

namespace MoveAudit.Text

/-- What follows `head` when the text begins with it. -/
def after? : List Char → List Char → Option (List Char)
  | [], text => some text
  | _ :: _, [] => none
  | h :: hs, c :: cs => if h = c then after? hs cs else none

/-- The texts before and after the first place of `mark`. -/
def cut? (mark : List Char) : List Char → Option (List Char × List Char)
  | [] => (after? mark []).map ([], ·)
  | c :: cs =>
    match after? mark (c :: cs) with
    | some rest => some ([], rest)
    | none => (cut? mark cs).map fun (before, rest) => (c :: before, rest)

/-- Whether `part` stands somewhere in the text. -/
def contains (part text : List Char) : Bool :=
  (cut? part text).isSome

theorem after?_eq_some_iff {head text rest : List Char} :
    after? head text = some rest ↔ text = head ++ rest := by
  induction head generalizing text with
  | nil => simp [after?, eq_comm]
  | cons h hs inductionHypothesis =>
    cases text with
    | nil => simp [after?]
    | cons c cs =>
      by_cases same : h = c
      · simp [after?, same, inductionHypothesis]
      · simp [after?, same, Ne.symm same]

/-- Cutting loses nothing. -/
theorem eq_of_cut? {mark text before rest : List Char} (found : cut? mark text = some (before, rest)) :
    text = before ++ mark ++ rest := by
  induction text generalizing before with
  | nil =>
    obtain ⟨tail, isAfter, pair⟩ := Option.map_eq_some_iff.1 found
    cases pair
    simpa using after?_eq_some_iff.1 isAfter
  | cons c cs inductionHypothesis =>
    rw [cut?] at found
    split at found
    · next tail isAfter =>
      cases found
      simpa using after?_eq_some_iff.1 isAfter
    · obtain ⟨⟨before', rest'⟩, inner, pair⟩ := Option.map_eq_some_iff.1 found
      cases pair
      simpa using inductionHypothesis inner

/-- What follows a mark that is not empty is shorter than the text it was found in. -/
theorem length_lt_of_cut? {mark text before rest : List Char} (nonempty : mark ≠ [])
    (found : cut? mark text = some (before, rest)) : rest.length < text.length := by
  have whole := congrArg List.length (eq_of_cut? found)
  have positive := List.length_pos_iff.2 nonempty
  simp only [List.length_append] at whole
  omega

/-- The texts between the places of a mark, taken from the left without overlap. A mark that is
empty cuts nothing. -/
def pieces (mark text : List Char) : List (List Char) :=
  if _nonempty : mark = [] then [text] else
  match _found : cut? mark text with
  | none => [text]
  | some (before, rest) => before :: pieces mark rest
termination_by text.length
decreasing_by exact length_lt_of_cut? _nonempty _found

/-- How often a mark stands in the text, counted from the left without overlap. -/
def count (mark text : List Char) : Nat :=
  (pieces mark text).length - 1

/-- The text after the last place of the mark, or all of it. -/
def lastPiece (mark text : List Char) : List Char :=
  match cut? mark.reverse text.reverse with
  | none => text
  | some (before, _) => before.reverse

/-- The text before the first place of the mark, or all of it. -/
def firstPiece (mark text : List Char) : List Char :=
  match cut? mark text with
  | none => text
  | some (before, _) => before

/-- How many characters stand before the first place of the mark. -/
def indexOf? (mark text : List Char) : Option Nat :=
  (cut? mark text).map (·.1.length)

/-- How many characters stand before the last place of the mark. -/
def lastIndexOf? (mark text : List Char) : Option Nat :=
  (cut? mark.reverse text.reverse).map (·.2.length)

/-- Every place of the mark, from the left without overlap, replaced. -/
def replace (mark replacement text : List Char) : List Char :=
  replacement.intercalate (pieces mark text)

/-- Whether `part` stands somewhere in the string. -/
def includes (part text : String) : Bool :=
  contains part.toList text.toList

/-- The strings between the places of a mark. -/
def split (mark text : String) : List String :=
  (pieces mark.toList text.toList).map String.ofList

/-- The string with every place of the mark replaced. -/
def substitute (mark replacement text : String) : String :=
  String.ofList (replace mark.toList replacement.toList text.toList)

end MoveAudit.Text
