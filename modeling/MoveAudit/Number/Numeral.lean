/-
This file reads numbers that people have typed: digits of any script, single underscores between
digits, a sign and blanks around it all. Whole numbers and numbers with a fraction or an exponent
are read by the same rows of digits. A whole number may have only so many digits, both where it is
read and where it is spelled.
-/

import MoveAudit.Number.Double
import MoveAudit.Text.Basic

namespace MoveAudit.Numeral

/-- The digits at the start of a text, in order, with single underscores between digits passed
over, and what follows them. -/
def digitRow : List Char → List Nat × List Char
  | [] => ([], [])
  | '_' :: rest => ([], '_' :: rest)
  | c :: '_' :: rest =>
    match Text.digitValue? c with
    | none => ([], c :: '_' :: rest)
    | some value =>
      match digitRow rest with
      | ([], _) => ([value], '_' :: rest)
      | (values, tail) => (value :: values, tail)
  | c :: rest =>
    match Text.digitValue? c with
    | none => ([], c :: rest)
    | some value =>
      let (values, tail) := digitRow rest
      (value :: values, tail)

/-- The whole number that a row of decimal digits stands for. -/
def valueOf (digits : List Nat) : Nat :=
  digits.foldl (fun total digit => 10 * total + digit) 0

/-- A sign in front of a text, and the text after it. -/
def signed : List Char → Bool × List Char
  | '-' :: rest => (true, rest)
  | '+' :: rest => (false, rest)
  | text => (false, text)

/-- The blanks that may stand around a number: all but the four separators of ASCII. -/
def isPadding (c : Char) : Bool :=
  Text.isBlank c && !(28 ≤ c.toNat && c.toNat ≤ 31)

/-- A text without the blanks around a number. -/
def unpadded (text : List Char) : List Char :=
  ((text.dropWhile isPadding).reverse.dropWhile isPadding).reverse

/-- The digits and sign of a whole number with blanks around it. -/
def wholeDigits? (text : List Char) : Option (Bool × List Nat) :=
  let (negative, rest) := signed (unpadded text)
  match digitRow rest with
  | ([], _) => none
  | (digits, []) => some (negative, digits)
  | _ => none

/-- A row of digits as a signed whole number. -/
def toInt (negative : Bool) (digits : List Nat) : Int :=
  if negative then -(valueOf digits : Int) else valueOf digits

/-- The exponent part of a number, zero when there is none, and what follows it. -/
def exponentPart (text : List Char) : Int × List Char :=
  match text with
  | c :: rest =>
    if c = 'e' || c = 'E' then
      let (negative, tail) := signed rest
      match digitRow tail with
      | ([], _) => (0, text)
      | (digits, tail) => (toInt negative digits, tail)
    else (0, text)
  | [] => (0, [])

/-- The words for numbers that are not finite, in small letters. -/
def wordNumber? (negative : Bool) (word : String) : Option Double :=
  if word = "inf" || word = "infinity" then some (.infinite negative)
  else if word = "nan" then some .nan
  else none

/-- The number that a text stands for: digits with an optional fraction and exponent, or a word
for infinity or for an undefined number. -/
def double? (text : List Char) : Option Double :=
  let (negative, rest) := signed (unpadded text)
  match wordNumber? negative (String.ofList (rest.map Char.toLower)) with
  | some number => some number
  | none =>
    let (whole, rest) := digitRow rest
    let (fraction, rest) := match rest with
      | '.' :: tail => digitRow tail
      | other => ([], other)
    if whole.isEmpty && fraction.isEmpty then none
    else
      let (exponent, rest) := exponentPart rest
      if rest.isEmpty then
        some (Double.ofDecimal negative (valueOf (whole ++ fraction)) (exponent - fraction.length))
      else none

/-! ### Spelling -/

/-- Whole numbers with more digits are neither read nor spelled. -/
def digitLimit : Nat := 4300

/-- Whether a whole number is short enough to be spelled. -/
def isSpellable (whole : Int) : Bool :=
  whole.natAbs < Nat.pow 10 digitLimit

/-- Whether all of some whole numbers are short enough to be spelled. -/
def areSpellable (numbers : List Int) : Bool :=
  numbers.all isSpellable

/-- What is said when a whole number is too long to be spelled. -/
def unspellable : String :=
  "Exceeds the limit (4300 digits) for integer string conversion; use " ++
    "sys.set_int_max_str_digits() to increase the limit"

/-- The text of a whole number. -/
def intText (whole : Int) : String :=
  String.ofList ((if whole < 0 then ['-'] else []) ++ Nat.toDigits 10 whole.natAbs)

end MoveAudit.Numeral
