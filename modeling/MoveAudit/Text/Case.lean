/-
This file puts letters into small or capital form. A letter may become several, and a capital
sigma becomes a final sigma where it ends a word, so small forms are taken over whole texts.
It also says when a character is some case of a small ASCII letter, which is how names are
compared when case does not matter.
-/

import MoveAudit.Text.Basic
import MoveAudit.Text.CaseTable

namespace MoveAudit.Text

/-- The code point that a table of case rows gives, if a row covers the one asked for. -/
def shifted? (rows : List (Nat × Nat × Nat × Int)) (point : Nat) : Option Nat :=
  (rows.find? fun (first, last, step, _) =>
    first ≤ point && point ≤ last && (point - first) % step == 0).map
    fun (_, _, _, shift) => ((point : Int) + shift).toNat

/-- The small form of one letter, standing alone. -/
def lowerChar (c : Char) : List Char :=
  if c.toNat < 128 then [c.toLower]
  else if c.toNat = 0x130 then ['i', Char.ofNat 0x307]
  else [((shifted? lowerRows c.toNat).map Char.ofNat).getD c]

/-- The capital form of one letter. -/
def upperChar (c : Char) : List Char :=
  if c.toNat < 128 then [c.toUpper]
  else match upperMany.lookup c.toNat with
    | some points => points.map Char.ofNat
    | none => [((shifted? upperRows c.toNat).map Char.ofNat).getD c]

/-- The form of a letter at the start of a word. -/
def titleChar (c : Char) : List Char :=
  if c.toNat < 128 then [c.toUpper]
  else match titleExceptions.lookup c.toNat with
    | some points => points.map Char.ofNat
    | none => upperChar c

/-- Marks that are passed over when the neighbours of a sigma are looked for. -/
def isCaseIgnorable (c : Char) : Bool :=
  inRanges caseIgnorableRanges c.toNat

/-- Letters that have a case. -/
def isCased (c : Char) : Bool :=
  inRanges casedRanges c.toNat

/-- Whether the next character that is not passed over is a letter with case. -/
def casedAhead (text : List Char) : Bool :=
  match text.dropWhile isCaseIgnorable with
  | [] => false
  | c :: _ => isCased c

/-- The small form of a text that follows a letter with case (`afterCased`) or does not. -/
def lowerFrom (afterCased : Bool) : List Char → List Char
  | [] => []
  | c :: rest =>
    (if c.toNat = 0x3A3 then
        [Char.ofNat (if afterCased && !casedAhead rest then 0x3C2 else 0x3C3)]
      else lowerChar c) ++
      lowerFrom (if c.toNat < 128 then (if c.isAlpha then true else
          if isCaseIgnorable c then afterCased else false)
        else if isCaseIgnorable c then afterCased else isCased c) rest

/-- The small form of a text. -/
def lower (text : List Char) : List Char :=
  lowerFrom false text

/-- The capital form of a text. -/
def upper (text : List Char) : List Char :=
  text.flatMap upperChar

/-- The text with its first letter large and all others small. -/
def capitalize : List Char → List Char
  | [] => []
  | c :: rest =>
    titleChar c ++ lowerFrom (if isCaseIgnorable c then false else isCased c) rest

/-- A string in small letters. -/
def lowered (text : String) : String :=
  String.ofList (lower text.toList)

/-- A string in capital letters. -/
def raised (text : String) : String :=
  String.ofList (upper text.toList)

/-- A string with its first letter large and all others small. -/
def capitalized (text : String) : String :=
  String.ofList (capitalize text.toList)

/-- Whether `c` is some case of the character `small`, which is an ASCII character that is no
capital letter. The Kelvin sign counts as a k, the long s as an s, and the dotted capital and
dotless small i as an i. -/
def isCaseOf (small c : Char) : Bool :=
  c.toLower == small || (c.toNat == 0x212A && small == 'k') || (c.toNat == 0x17F && small == 's') ||
    ((c.toNat == 0x130 || c.toNat == 0x131) && small == 'i')

end MoveAudit.Text
