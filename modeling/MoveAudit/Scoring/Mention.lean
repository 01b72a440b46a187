/-
This file says when a note affirms a keyword. Every place of the keyword counts on its own: it is
denied when a negating word stands among the last few words before it, when a trailing negation
stands among the first few words after it, or when a negating prefix is attached to it; all of
these are looked for inside the same clause only. A note affirms a keyword that some place of it is
not denied at.
-/

import MoveAudit.Text.Basic
import MoveAudit.Text.Case
import MoveAudit.Text.Search

namespace MoveAudit.Scoring

/-- What denies a keyword: words before it and after it, within a window counted in words, and
prefixes attached to it. -/
structure Denial where
  before : List String
  after : List String
  window : Int
  prefixes : List String

/-- The characters that end a clause. -/
def endsClause (c : Char) : Bool :=
  c == '.' || c == ';' || c == ',' || c == '!' || c == '?'

/-- The part of a clause that stands before a place; `before` is the text before it. -/
def clauseBefore (before : List Char) : List Char :=
  (before.reverse.takeWhile (!endsClause ·)).reverse

/-- The part of a clause that stands after a place. -/
def clauseAfter (after : List Char) : List Char :=
  after.takeWhile (!endsClause ·)

/-- A small ASCII letter. -/
def isSmallLetter (c : Char) : Bool :=
  'a'.toNat ≤ c.toNat && c.toNat ≤ 'z'.toNat

/-- The longest runs of small ASCII letters, in order. -/
def letterRuns (text : List Char) : List (List Char) :=
  (text.splitOnP fun c => !isSmallLetter c).filter (!·.isEmpty)

/-- Whether some word of a list is one of the words given. -/
def anyOf (words : List String) (found : List (List Char)) : Bool :=
  found.any fun word => words.contains (String.ofList word)

/-- Whether a text ends in a word of the list that begins at the edge of a word. -/
def endsInPrefix (prefixes : List String) (text : List Char) : Bool :=
  prefixes.any fun word =>
    let small := (Text.lower word.toList)
    small.isSuffixOf text &&
      let kept := text.take (text.length - small.length)
      Text.isWordEdge kept.getLast? (small.head?)

/-- A text without a hyphen or a blank at its end. -/
def withoutJoint (text : List Char) : List (List Char) :=
  match text.reverse with
  | c :: rest => if c == '-' || Text.isBlank c then [text, rest.reverse] else [text]
  | [] => [text]

/-- A text, and the text without a line feed at its end. -/
def withoutLineFeed (text : List Char) : List (List Char) :=
  match text.reverse with
  | '\n' :: rest => [text, rest.reverse]
  | _ => [text]

/-- Whether a negating prefix, perhaps with a hyphen or a blank after it, ends the clause so far. -/
def hasPrefix (prefixes : List String) (clause : List Char) : Bool :=
  ((withoutLineFeed clause).flatMap withoutJoint).any (endsInPrefix prefixes)

/-- Whether a keyword between these parts of a clause is denied. -/
def isDenied (denial : Denial) (before after : List Char) : Bool :=
  let clause := clauseBefore before
  let window := denial.window.toNat
  let preceding := letterRuns clause
  anyOf denial.before (preceding.drop (preceding.length - window)) ||
    anyOf denial.after ((letterRuns (clauseAfter after)).take window) ||
    hasPrefix denial.prefixes clause

/-- Whether some place of the keyword from here on is not denied; `before` is what has been read,
last character first. -/
def affirmsFrom (denial : Denial) (keyword : List Char) (before : List Char) :
    List Char → Bool
  | [] => match Text.after? keyword [] with
    | some rest => !isDenied denial before.reverse rest
    | none => false
  | c :: text =>
    (match Text.after? keyword (c :: text) with
      | some rest => !isDenied denial before.reverse rest
      | none => false) || affirmsFrom denial keyword (c :: before) text

/-- Whether a note affirms a keyword. Case does not matter. -/
def affirms (denial : Denial) (note keyword : String) : Bool :=
  affirmsFrom denial (Text.lower keyword.toList) [] (Text.lower note.toList)

end MoveAudit.Scoring
