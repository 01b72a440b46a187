/-
This file writes values as JSON text. A style says what stands between the parts, whether
characters beyond ASCII are escaped, whether members are sorted by name, and whether every part
goes on a line of its own. It also says which values are not written: those with a whole number that
is too long, and those with more brackets in each other than there is room for.
-/

import MoveAudit.Json.Value
import MoveAudit.Number.Decimal
import MoveAudit.Number.Numeral
import MoveAudit.Text.Basic

namespace MoveAudit.Json

/-- What JSON text looks like where the format leaves a choice. -/
structure Style where
  /-- Between two items or members on one line. -/
  separator : String
  /-- Between a name and its value. -/
  colon : String
  /-- Characters that are not printable in ASCII are written as escapes. -/
  asciiOnly : Bool
  /-- Members are sorted by name. -/
  sorted : Bool
  /-- The indentation of one level, when every part goes on its own line. -/
  indent : Option Nat

/-- Nothing between parts, members sorted, ASCII only. -/
def Style.compact : Style := ⟨",", ":", true, true, none⟩

/-- Nothing between parts, members in order, ASCII only. -/
def Style.dense : Style := ⟨",", ":", true, false, none⟩

/-- A space after commas and colons, characters kept as they are. -/
def Style.spaced : Style := ⟨", ", ": ", false, false, none⟩

/-- A space after commas and colons, ASCII only. -/
def Style.spacedAscii : Style := ⟨", ", ": ", true, false, none⟩

/-- Every part on a line of its own, two spaces a level, characters kept as they are. -/
def Style.laidOut : Style := ⟨",", ": ", false, false, some 2⟩

/-- A code unit as a four-digit escape. -/
def unitEscape (codeUnit : Nat) : List Char :=
  '\\' :: 'u' :: Text.hexDigits 4 codeUnit

/-- One character inside a string: a short escape, a code unit escape, or itself. -/
def escapeChar (asciiOnly : Bool) (c : Char) : List Char :=
  if c = '"' then ['\\', '"']
  else if c = '\\' then ['\\', '\\']
  else if c = '\n' then ['\\', 'n']
  else if c = '\r' then ['\\', 'r']
  else if c = '\t' then ['\\', 't']
  else if c.toNat = 8 then ['\\', 'b']
  else if c.toNat = 12 then ['\\', 'f']
  else if c.toNat < 32 then unitEscape c.toNat
  else if c.toNat < 127 || !asciiOnly then [c]
  else if c.toNat < 0x10000 then unitEscape c.toNat
  else
    let offset := c.toNat - 0x10000
    unitEscape (0xD800 + offset / 0x400) ++ unitEscape (0xDC00 + offset % 0x400)

/-- A string in double quotes. -/
def writeString (asciiOnly : Bool) (text : String) : String :=
  String.ofList ('"' :: text.toList.flatMap (escapeChar asciiOnly) ++ ['"'])

/-- A number with a fraction; the three that are not finite have names. -/
def writeFloat : Double → String
  | .nan => "NaN"
  | .infinite negative => if negative then "-Infinity" else "Infinity"
  | number => number.text

/-- Members in ascending order of their names, equal names in the order given. -/
def sortMembers (members : List (String × String)) : List (String × String) :=
  members.mergeSort fun a b => !(b.1 < a.1)

/-- Parts between brackets, on one line or each on its own. -/
def bracket (style : Style) (depth : Nat) (opening closing : String) (parts : List String) :
    String :=
  match style.indent, parts with
  | some width, _ :: _ =>
    let inner := "\n" ++ String.ofList (List.replicate (width * (depth + 1)) ' ')
    let outer := "\n" ++ String.ofList (List.replicate (width * depth) ' ')
    opening ++ inner ++ (style.separator ++ inner).intercalate parts ++ outer ++ closing
  | _, _ => opening ++ style.separator.intercalate parts ++ closing

namespace Value

mutual

/-- The value as JSON text, at a depth of nesting. -/
def writeAt (style : Style) (depth : Nat) : Value → String
  | null => "null"
  | bool truth => if truth then "true" else "false"
  | int whole => Numeral.intText whole
  | float number => writeFloat number
  | string text => writeString style.asciiOnly text
  | array items => bracket style depth "[" "]" (writeItems style (depth + 1) items)
  | object members =>
    let written := writeMembers style (depth + 1) members
    let ordered := if style.sorted then sortMembers written else written
    bracket style depth "\x7b" "\x7d" (ordered.map fun (name, text) =>
      writeString style.asciiOnly name ++ style.colon ++ text)

/-- The items of an array as JSON texts. -/
def writeItems (style : Style) (depth : Nat) : List Value → List String
  | [] => []
  | item :: rest => writeAt style depth item :: writeItems style depth rest

/-- The members of an object with their values as JSON texts. -/
def writeMembers (style : Style) (depth : Nat) : List (String × Value) → List (String × String)
  | [] => []
  | (name, value) :: rest => (name, writeAt style depth value) :: writeMembers style depth rest

end

/-- The value as JSON text. -/
def write (style : Style) (value : Value) : String :=
  writeAt style 0 value

end Value

/-- Why a value is not written. -/
inductive WriteError where
  /-- A whole number is too long to be spelled. -/
  | unspellable
  /-- A bracket stands inside too many others. -/
  | tooDeep
  deriving DecidableEq, Repr

/-- What is said of a value that is not written. -/
def WriteError.message : WriteError → String
  | unspellable => Numeral.unspellable
  | tooDeep => "maximum recursion depth exceeded while encoding a JSON object"

namespace Value

mutual

/-- Why a value is not written where there is room for a number of open brackets: what is wrong with
the first part of it that cannot be. -/
def writeError? (room : Nat) : Value → Option WriteError
  | int whole => if Numeral.isSpellable whole then none else some .unspellable
  | array items =>
    match room with
    | 0 => some .tooDeep
    | room + 1 => itemsWriteError? room items
  | object members =>
    match room with
    | 0 => some .tooDeep
    | room + 1 => membersWriteError? room members
  | _ => none

@[inherit_doc writeError?]
def itemsWriteError? (room : Nat) : List Value → Option WriteError
  | [] => none
  | item :: rest => (writeError? room item).or (itemsWriteError? room rest)

@[inherit_doc writeError?]
def membersWriteError? (room : Nat) : List (String × Value) → Option WriteError
  | [] => none
  | (_, value) :: rest => (writeError? room value).or (membersWriteError? room rest)

end

end Value

end MoveAudit.Json
