/-
This file reads JSON text. Besides the grammar of JSON it takes `NaN`, `Infinity` and
`-Infinity`; whole numbers are read exactly, up to a limit on their digits. A text that is
refused is refused at a position: how many characters stood before the first one that could not
be taken. Each function hands on what it left. A reader has room for a number of open brackets, and
at the next one it stops, whatever follows. Fuel bounds the depth of the recursion: a bracket costs
two units and every other token at most one, so twice the length of the text is enough.
-/

import MoveAudit.Json.Value
import MoveAudit.Number.Numeral

namespace MoveAudit.Json

/-- Why a text is no JSON. -/
inductive SyntaxFault where
  | value
  | name
  | colon
  | comma
  | extra
  | unterminated
  | control
  | escape
  | unicodeEscape
  | byteOrderMark
  deriving DecidableEq, Repr

/-- The fault in words. -/
def SyntaxFault.message : SyntaxFault → String
  | value => "Expecting value"
  | name => "Expecting property name enclosed in double quotes"
  | colon => "Expecting ':' delimiter"
  | comma => "Expecting ',' delimiter"
  | extra => "Extra data"
  | unterminated => "Unterminated string starting at"
  | control => "Invalid control character at"
  | escape => "Invalid \\escape"
  | unicodeEscape => "Invalid \\uXXXX escape"
  | byteOrderMark => "Unexpected UTF-8 BOM (decode using utf-8-sig)"

/-- What a bracket opens. -/
inductive Bracket where
  | array
  | object
  deriving DecidableEq, Repr

/-- What a bracket opens, in words. -/
def Bracket.word : Bracket → String
  | array => "array"
  | object => "object"

/-- Why reading stopped inside a text: a fault where `rest` begins, a whole number with more digits
than the limit, or a bracket that there was no room for. -/
inductive Stop where
  | fault (fault : SyntaxFault) (rest : List Char)
  | tooManyDigits (digits : Nat)
  | tooDeep (bracket : Bracket)

/-- Why a text could not be read: a fault at a position, a whole number that is too long, or a
bracket inside too many others. -/
inductive ReadError where
  | fault (fault : SyntaxFault) (position : Nat)
  | tooManyDigits (digits : Nat)
  | tooDeep (bracket : Bracket)
  deriving DecidableEq, Repr

/-- The white space between tokens. -/
def isSpace (c : Char) : Bool :=
  c == ' ' || c == '\t' || c == '\n' || c == '\r'

/-- The text from its next token on. -/
def skipSpace (text : List Char) : List Char :=
  text.dropWhile isSpace

/-- The value of a hexadecimal digit of either case. -/
def hexValue? (c : Char) : Option Nat :=
  let n := c.toNat
  if 48 ≤ n && n ≤ 57 then some (n - 48)
  else if 97 ≤ n && n ≤ 102 then some (n - 87)
  else if 65 ≤ n && n ≤ 70 then some (n - 55)
  else none

/-- Four hexadecimal digits as a number, and what follows. -/
def fourHex? : List Char → Option (Nat × List Char)
  | a :: b :: c :: d :: rest => do
    let number := ((← hexValue? a) * 16 + (← hexValue? b)) * 256 +
      (← hexValue? c) * 16 + (← hexValue? d)
    return (number, rest)
  | _ => none

/-- The character of an escape by one letter. -/
def shortEscape? (c : Char) : Option Char :=
  if c = '"' || c = '\\' || c = '/' then some c
  else if c = 'b' then some (Char.ofNat 8)
  else if c = 'f' then some (Char.ofNat 12)
  else if c = 'n' then some '\n'
  else if c = 'r' then some '\r'
  else if c = 't' then some '\t'
  else none

/-- The character after `\u`, where `atLetter` is the text from the `u` on. A leading surrogate
takes a trailing one in a second escape with it; a surrogate without a partner becomes the
replacement character. At least one character has to follow the digits. -/
def unicodeChar (atLetter digits : List Char) : Except Stop (Char × List Char) :=
  match fourHex? digits with
  | some (codeUnit, rest) =>
    if rest.isEmpty then .error (.fault .unicodeEscape atLetter)
    else if 0xD800 ≤ codeUnit && codeUnit < 0xDC00 then
      match rest with
      | '\\' :: 'u' :: more =>
        if 4 < more.length then
          match fourHex? more with
          | none => .error (.fault .unicodeEscape ('u' :: more))
          | some (second, after) =>
            if 0xDC00 ≤ second && second < 0xE000 then
              .ok (Char.ofNat (0x10000 + (codeUnit - 0xD800) * 0x400 + (second - 0xDC00)), after)
            else .ok (Char.ofNat 0xFFFD, rest)
        else .ok (Char.ofNat 0xFFFD, rest)
      | _ => .ok (Char.ofNat 0xFFFD, rest)
    else if 0xDC00 ≤ codeUnit && codeUnit < 0xE000 then .ok (Char.ofNat 0xFFFD, rest)
    else .ok (Char.ofNat codeUnit, rest)
  | none => .error (.fault .unicodeEscape atLetter)

/-- The characters of a string up to its closing quote, where `opening` is the text from the
opening quote on. -/
def readString (opening : List Char) : (fuel : Nat) → List Char → Except Stop (List Char × List Char)
  | 0, _ => .error (.fault .unterminated opening)
  | _ + 1, [] => .error (.fault .unterminated opening)
  | fuel + 1, c :: rest =>
    if c = '"' then .ok ([], rest)
    else if c = '\\' then
      match rest with
      | [] => .error (.fault .unterminated opening)
      | letter :: tail =>
        if letter = 'u' then do
          let (read, after) ← unicodeChar rest tail
          let (others, left) ← readString opening fuel after
          return (read :: others, left)
        else match shortEscape? letter with
          | none => .error (.fault .escape (c :: rest))
          | some read => do
            let (others, left) ← readString opening fuel tail
            return (read :: others, left)
    else if c.toNat < 32 then .error (.fault .control (c :: rest))
    else do
      let (others, left) ← readString opening fuel rest
      return (c :: others, left)

/-- The digits at the start of a text, and what follows them. -/
def digits (text : List Char) : List Char × List Char :=
  (text.takeWhile Char.isDigit, text.dropWhile Char.isDigit)

/-- The whole number that ASCII digits stand for. -/
def digitsValue (row : List Char) : Nat :=
  row.foldl (fun total c => 10 * total + (c.toNat - 48)) 0

/-- The digits before the point: a zero alone, or digits that do not begin with one. -/
def wholePart? : List Char → Option (List Char × List Char)
  | [] => none
  | c :: rest =>
    if c = '0' then some (['0'], rest)
    else if c.isDigit then some (digits (c :: rest))
    else none

/-- The digits after a point, if a point with a digit comes next. -/
def fractionPart (text : List Char) : List Char × List Char :=
  match text with
  | '.' :: rest => match digits rest with
    | ([], _) => ([], text)
    | read => read
  | _ => ([], text)

/-- The exponent, if a letter, an optional sign and a digit come next. -/
def exponentPart (text : List Char) : Option Int × List Char :=
  match text with
  | c :: rest =>
    if c = 'e' || c = 'E' then
      let (negative, tail) := Numeral.signed rest
      match digits tail with
      | ([], _) => (none, text)
      | (row, left) =>
        (some (if negative then -(digitsValue row : Int) else digitsValue row), left)
    else (none, text)
  | [] => (none, text)

/-- A minus sign in front of a text, and the text after it. -/
def minus : List Char → Bool × List Char
  | '-' :: rest => (true, rest)
  | text => (false, text)

/-- A number, with the text it begins at for the fault when there is none. -/
def readNumber (start : List Char) : Except Stop (Value × List Char) :=
  let (negative, unsigned) := minus start
  match wholePart? unsigned with
  | none => .error (.fault .value start)
  | some (whole, rest) =>
    let (fraction, rest) := fractionPart rest
    let (exponent, rest) := exponentPart rest
    if fraction.isEmpty && exponent.isNone then
      if Numeral.digitLimit < whole.length then .error (.tooManyDigits whole.length)
      else
        let number : Int := digitsValue whole
        .ok (.int (if negative then -number else number), rest)
    else
      .ok (.float (Double.ofDecimal negative (digitsValue (whole ++ fraction))
        (exponent.getD 0 - fraction.length)), rest)

/-- The words that stand for values. -/
def wordValues : List (String × Value) :=
  [("null", .null), ("true", .bool true), ("false", .bool false), ("NaN", .float .nan),
    ("Infinity", .float (.infinite false)), ("-Infinity", .float (.infinite true))]

/-- What follows a word at the start of a text. -/
def afterWord? : List Char → List Char → Option (List Char)
  | [], text => some text
  | w :: word, c :: text => if w = c then afterWord? word text else none
  | _ :: _, [] => none

/-- A value that is written as a word, and what follows. -/
def readWord? (text : List Char) : Option (Value × List Char) :=
  wordValues.findSome? fun (word, value) => (afterWord? word.toList text).map (value, ·)

mutual

/-- A value, and what follows it. -/
def readValue : (fuel room : Nat) → List Char → Except Stop (Value × List Char)
  | 0, _, text => .error (.fault .value text)
  | fuel + 1, room, text =>
    match text with
    | [] => .error (.fault .value [])
    | '"' :: rest => do
      let (read, left) ← readString text (rest.length + 1) rest
      return (.string (String.ofList read), left)
    | '[' :: rest =>
      match room with
      | 0 => .error (.tooDeep .array)
      | room + 1 =>
        match skipSpace rest with
        | ']' :: left => .ok (.array [], left)
        | items => do
          let (read, left) ← readItems fuel room items
          return (.array read, left)
    | '\x7b' :: rest =>
      match room with
      | 0 => .error (.tooDeep .object)
      | room + 1 =>
        match skipSpace rest with
        | '\x7d' :: left => .ok (.object [], left)
        | members => do
          let (read, left) ← readMembers fuel room members
          return (.object (Entries.ofList read), left)
    | _ => match readWord? text with
      | some read => .ok read
      | none => readNumber text

/-- The items of an array from its first one to its bracket. -/
def readItems : (fuel room : Nat) → List Char → Except Stop (List Value × List Char)
  | 0, _, text => .error (.fault .value text)
  | fuel + 1, room, text => do
    let (item, left) ← readValue fuel room text
    match skipSpace left with
    | ']' :: rest => return ([item], rest)
    | ',' :: rest =>
      let (others, left) ← readItems fuel room (skipSpace rest)
      return (item :: others, left)
    | other => .error (.fault .comma other)

/-- The members of an object from its first one to its brace. -/
def readMembers : (fuel room : Nat) → List Char →
    Except Stop (List (String × Value) × List Char)
  | 0, _, text => .error (.fault .name text)
  | fuel + 1, room, text =>
    match text with
    | '"' :: rest => do
      let (name, left) ← readString text (rest.length + 1) rest
      match skipSpace left with
      | ':' :: rest =>
        let (value, left) ← readValue fuel room (skipSpace rest)
        match skipSpace left with
        | '\x7d' :: rest => return ([(String.ofList name, value)], rest)
        | ',' :: rest =>
          let (others, left) ← readMembers fuel room (skipSpace rest)
          return ((String.ofList name, value) :: others, left)
        | other => .error (.fault .comma other)
      | other => .error (.fault .colon other)
    | other => .error (.fault .name other)

end

/-- The value that a whole text stands for. -/
def readAll (room : Nat) (text : List Char) : Except Stop Value :=
  match text with
  | c :: rest =>
    if c.toNat = 0xFEFF then .error (.fault .byteOrderMark (c :: rest))
    else do
      let (value, left) ← readValue (2 * text.length + 2) room (skipSpace text)
      match skipSpace left with
      | [] => return value
      | other => .error (.fault .extra other)
  | [] => .error (.fault .value [])

/-- The value that a text stands for, or why it stands for none, where there is room for a number of
open brackets. -/
def readWithin (room : Nat) (text : String) : Except ReadError Value :=
  match readAll room text.toList with
  | .ok value => .ok value
  | .error (.fault cause rest) => .error (.fault cause (text.length - rest.length))
  | .error (.tooManyDigits count) => .error (.tooManyDigits count)
  | .error (.tooDeep bracket) => .error (.tooDeep bracket)

/-- The value that a text stands for, or why it stands for none. There is room for as many brackets
as the text has characters. -/
def read (text : String) : Except ReadError Value :=
  readWithin text.length text

/-- How many brackets a reader usually has room for: about as many as calls may be open at once. -/
def usualRoom : Nat := 1000

/-- A position as a line and a column, both counted from one. -/
def lineAndColumn (text : String) (position : Nat) : Nat × Nat :=
  let before := text.toList.take position
  (before.count '\n' + 1, (before.reverse.takeWhile (· != '\n')).length + 1)

/-- Why a text could not be read, with the place. -/
def ReadError.message (text : String) : ReadError → String
  | .fault cause position =>
    let (line, column) := lineAndColumn text position
    cause.message ++ ": line " ++ toString line ++ " column " ++ toString column ++
      " (char " ++ toString position ++ ")"
  | .tooManyDigits count =>
    "Exceeds the limit (4300 digits) for integer string conversion: value has " ++
      toString count ++ " digits; use sys.set_int_max_str_digits() to increase the limit"
  | .tooDeep bracket =>
    "maximum recursion depth exceeded while decoding a JSON " ++ bracket.word ++
      " from a unicode string"

end MoveAudit.Json
