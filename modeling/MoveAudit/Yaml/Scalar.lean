/-
This file says what plain words in a YAML 1.1 document stand for: nothing, truth values, whole
numbers in four bases, numbers with a fraction, or else themselves. A zero in front makes a whole
number octal, and colons make it sexagesimal. Some words stand for what is no value of a document,
such as a date; they are told apart from all others and not read.
-/

import MoveAudit.Json.Value
import MoveAudit.Number.Numeral
import MoveAudit.Text.Search

namespace MoveAudit.Yaml

open Json

/-- Why a text is not read. -/
inductive Fault where
  /-- It is no document. -/
  | unexpected
  /-- There is something in it that is not known here. -/
  | unknown
  deriving DecidableEq, Repr

/-- The words for nothing. -/
def nullWords : List String :=
  ["", "~", "null", "Null", "NULL"]

/-- The words for truth values. -/
def truthWords : List (List String × Bool) :=
  [(["yes", "Yes", "YES", "true", "True", "TRUE", "on", "On", "ON"], true),
    (["no", "No", "NO", "false", "False", "FALSE", "off", "Off", "OFF"], false)]

/-- Whether a text is not empty and made of characters of a kind. -/
def isRowOf (accepts : Char → Bool) (text : List Char) : Bool :=
  !text.isEmpty && text.all accepts

/-- The value of a hexadecimal digit. -/
def digitOf (c : Char) : Nat :=
  if c.isDigit then c.toNat - 48 else if c.isLower then c.toNat - 87 else c.toNat - 55

/-- A row of digits in a base; underscores between them do not count. -/
def inBase (base : Nat) (digits : List Char) : Int :=
  (digits.filter (· != '_')).foldl (fun (total : Int) c => total * base + digitOf c) 0

/-- Whether a character is a digit of a base, or an underscore. -/
def isDigitIn (base : Nat) (c : Char) : Bool :=
  c == '_' || ((c.isDigit || ('a' ≤ c && c ≤ 'f') || ('A' ≤ c && c ≤ 'F')) && digitOf c < base)

/-- Whether a text is a whole number of seconds or minutes below sixty. -/
def isSixtieth (part : List Char) : Bool :=
  match part with
  | [a] => a.isDigit
  | [a, b] => '0' ≤ a && a ≤ '5' && b.isDigit
  | _ => false

/-- The parts of a text between colons. -/
def colonParts (text : List Char) : List (List Char) :=
  (Text.split ":" (String.ofList text)).map String.toList

/-- Whether a text is a decimal number that does not begin with a zero. -/
def isPlainDecimal : List Char → Bool
  | c :: rest => '1' ≤ c && c ≤ '9' && rest.all (isDigitIn 10)
  | [] => false

/-- The whole number that an unsigned text stands for. -/
def natural? (text : List Char) : Option Int :=
  match text with
  | ['0'] => some 0
  | '0' :: 'b' :: bits =>
    if isRowOf (isDigitIn 2) bits then some (inBase 2 bits) else none
  | '0' :: 'x' :: digits =>
    if isRowOf (isDigitIn 16) digits then some (inBase 16 digits) else none
  | '0' :: digits =>
    if isRowOf (isDigitIn 8) digits then some (inBase 8 digits) else none
  | _ =>
    match colonParts text with
    | first :: rest =>
      if isPlainDecimal first && rest.all isSixtieth then
        some (rest.foldl (fun total part => total * 60 + inBase 10 part) (inBase 10 first))
      else none
    | [] => none

/-- The whole number that a text stands for. -/
def whole? (text : List Char) : Option Int :=
  let (isNegative, digits) := Numeral.signed text
  (natural? digits).map fun value => if isNegative then -value else value

/-- Whether a text is the exponent of a number: nothing, or a letter, a sign and digits. -/
def isExponent : List Char → Bool
  | [] => true
  | e :: sign :: digits =>
    (e == 'e' || e == 'E') && (sign == '+' || sign == '-') && isRowOf Char.isDigit digits
  | _ => false

/-- Whether an unsigned text is a number with a point. -/
def isPointed (isSigned : Bool) (text : List Char) : Bool :=
  let whole := text.takeWhile (isDigitIn 10)
  match text.drop whole.length with
  | '.' :: rest =>
    let fraction := rest.takeWhile (isDigitIn 10)
    let tail := rest.drop fraction.length
    isExponent tail &&
      if whole.isEmpty then !isSigned && (fraction.head?.any Char.isDigit)
      else whole.head?.any Char.isDigit
  | _ => false

/-- The number with a fraction that a text stands for. -/
def fraction? (text : List Char) : Option Double :=
  let (isNegative, unsigned) := Numeral.signed text
  let word := String.ofList unsigned
  if [".inf", ".Inf", ".INF"].contains word then some (.infinite isNegative)
  else if [".nan", ".NaN", ".NAN"].contains (String.ofList text) then some .nan
  else if isPointed (unsigned.length < text.length) unsigned then
    Numeral.double? (text.filter (· != '_'))
  else none

/-! ### Words that are not known -/

/-- Whether a text has no fewer digits than one number, no more than another, and nothing else. -/
def isNumeral (least most : Nat) (text : String) : Bool :=
  least ≤ text.length && text.length ≤ most && text.all Char.isDigit

/-- Whether a text is a year, a month and a day with dashes between them; a month and a day have two
digits, or at least as many as said. -/
def isDay (least : Nat) (text : List Char) : Bool :=
  match Text.split "-" (String.ofList text) with
  | [year, month, day] => isNumeral 4 4 year && isNumeral least 2 month && isNumeral least 2 day
  | _ => false

/-- Whether a text is hours, minutes and seconds with colons between them. -/
def isClock (text : List Char) : Bool :=
  match Text.split ":" (String.ofList text) with
  | [hours, minutes, seconds] =>
    isNumeral 1 2 hours && isNumeral 2 2 minutes &&
      match Text.split "." seconds with
      | [whole] => isNumeral 2 2 whole
      | [whole, fraction] => isNumeral 2 2 whole && fraction.all Char.isDigit
      | _ => false
  | _ => false

/-- Whether a text is nothing or says how far a clock is from the usual one. -/
def isZone : List Char → Bool
  | [] | ['Z'] => true
  | sign :: offset =>
    (sign == '+' || sign == '-') &&
      match Text.split ":" (String.ofList offset) with
      | [hours] => isNumeral 1 2 hours
      | [hours, minutes] => isNumeral 1 2 hours && isNumeral 2 2 minutes
      | _ => false

/-- Whether a text is a date, or a date and the time of the day. -/
def isMoment (text : List Char) : Bool :=
  let day := text.takeWhile fun c => c.isDigit || c == '-'
  let left := text.drop day.length
  let isParting := fun c => c == ' ' || c == 't' || c == 'T'
  let rest := if left.head? == some ' ' then left.dropWhile (· == ' ') else left.drop 1
  let clock := rest.takeWhile fun c => c.isDigit || c == ':' || c == '.'
  isDay 2 text ||
    left.head?.any isParting && isDay 1 day && isClock clock &&
      isZone ((rest.drop clock.length).dropWhile (· == ' '))

/-- Whether a text is a number with a fraction in base sixty. -/
def isSexagesimal (text : List Char) : Bool :=
  match (colonParts (Numeral.signed text).2).reverse with
  | last :: middle =>
    match middle.reverse with
    | first :: between =>
      let whole := last.takeWhile (· != '.')
      first.head?.any Char.isDigit && first.all (isDigitIn 10) && between.all isSixtieth &&
        isSixtieth whole && last.contains '.' && (last.drop (whole.length + 1)).all (isDigitIn 10)
    | [] => false
  | [] => false

/-- Whether a text is a whole number that has too many decimal digits, or no digits at all. -/
def isUnreadable (text : List Char) : Bool :=
  let unsigned := (Numeral.signed text).2
  match unsigned with
  | '0' :: base :: digits => (base == 'b' || base == 'x') && isRowOf (· == '_') digits
  | _ =>
    match colonParts unsigned with
    | first :: _ => isPlainDecimal first && Numeral.digitLimit < (first.filter (· != '_')).length
    | [] => false

/-- Whether a plain word stands for what is no value of a document: a moment, a merge of maps or a
default, or a number that is not known here. -/
def isForeign (text : List Char) : Bool :=
  isMoment text || isSexagesimal text || isUnreadable text ||
    ["=", "<<"].contains (String.ofList text)

/-- What a plain word stands for. -/
def scalar (text : String) : Except Fault Value :=
  if isForeign text.toList then .error .unknown
  else if nullWords.contains text then .ok .null
  else match truthWords.find? (·.1.contains text) with
    | some (_, truth) => .ok (.bool truth)
    | none =>
      match whole? text.toList with
      | some value => .ok (.int value)
      | none =>
        match fraction? text.toList with
        | some value => .ok (.float value)
        | none => .ok (.string text)

end MoveAudit.Yaml
