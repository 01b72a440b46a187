/-
This file reads disassemblies. An import line begins with the word `use`, then an address in
hexadecimal with or without `0x`, then two colons; blank lines in front of it are passed over.

A function begins with a header at the start of a line: modifiers, a name, perhaps type parameters
in angle brackets, a parenthesis, and on the line of that parenthesis a closing one followed,
without another brace, by the brace that ends the line. Blanks between these parts may run over line
ends. The text of a function goes from its header to the next one, and the first function of a name
is the one that counts.

A declaration of a struct begins at the start of a line and goes to its brace; between the name and
the brace there may be type parameters and a list of abilities.
-/

import MoveAudit.Entries
import MoveAudit.Text.Basic
import MoveAudit.Text.Search

namespace MoveAudit.Listing

/-! ### Imports -/

/-- A hexadecimal digit of either case. -/
def isHexDigit (c : Char) : Bool :=
  c.isDigit || ('a'.toNat ≤ c.toNat && c.toNat ≤ 'f'.toNat) ||
    ('A'.toNat ≤ c.toNat && c.toNat ≤ 'F'.toNat)

/-- A text without the blanks in front, which have to be there. -/
def afterBlanks? (text : List Char) : Option (List Char) :=
  match text with
  | c :: rest => if Text.isBlank c then some (Text.trimStart rest) else none
  | [] => none

/-- The digits of an address that ends in two colons, and what follows those. -/
def addressDigits? (text : List Char) : Option (List Char × List Char) :=
  let digits := text.takeWhile isHexDigit
  if digits.isEmpty then none
  else (Text.after? [':', ':'] (text.dropWhile isHexDigit)).map (digits, ·)

/-- The address that an import at the start of the text names, and what follows its colons. -/
def importAt? (text : List Char) : Option (List Char × List Char) := do
  let afterWord ← Text.after? "use".toList (Text.trimStart text)
  let target ← afterBlanks? afterWord
  match (Text.after? ['0', 'x'] target).bind addressDigits? with
  | some found => some found
  | none => addressDigits? target

/-- The matches of a recogniser that is tried at the start of every line: it says what it found
and what it left. Text that a match has taken is not looked at again. `atStart` tells whether a
line begins here. -/
def scanLines {Found : Type} (recognise : List Char → Option (Found × List Char)) :
    (fuel : Nat) → (atStart : Bool) → List Char → List Found
  | 0, _, _ => []
  | fuel + 1, atStart, text =>
    let found := if atStart then recognise text else none
    match found with
    | some (match_, rest) => match_ :: scanLines recognise fuel false rest
    | none =>
      match text with
      | [] => []
      | c :: rest => scanLines recognise fuel (c == '\n') rest

/-- The matches of a recogniser at the starts of the lines of a whole text. -/
def scan {Found : Type} (recognise : List Char → Option (Found × List Char)) (text : List Char) :
    List Found :=
  scanLines recognise (2 * text.length + 2) true text

/-- The addresses that the import lines of a disassembly name, in order. -/
def imports (code : String) : List String :=
  (scan importAt? code.toList).map fun digits => String.ofList ('0' :: 'x' :: digits)


/-! ### Functions -/

/-- A space or a tab. -/
def isIndent (c : Char) : Bool :=
  c == ' ' || c == '\t'

/-- What follows small letters in parentheses. -/
def afterScope? (text : List Char) : Option (List Char) :=
  match text with
  | '(' :: rest =>
    let isSmall := fun c : Char => 'a'.toNat ≤ c.toNat && c.toNat ≤ 'z'.toNat
    if (rest.takeWhile isSmall).isEmpty then none
    else Text.after? [')'] (rest.dropWhile isSmall)
  | _ => none

/-- What follows one modifier and the blanks after it. A `public` may name its scope. -/
def afterModifier? (text : List Char) : Option (List Char) :=
  match Text.after? "public".toList text with
  | some rest => afterBlanks? ((afterScope? rest).getD rest)
  | none =>
    (["entry", "native", "fun"].findSome? fun word => Text.after? word.toList text).bind afterBlanks?

/-- What follows type parameters in angle brackets on one line, or the text itself when it does
not begin with a bracket. -/
def afterGenerics? (text : List Char) : Option (List Char) :=
  match text with
  | '<' :: rest => Text.after? ['>'] (rest.dropWhile fun c => c != '>' && c != '\n')
  | _ => some text

/-- Whether the rest of a line, after an opening parenthesis, closes a header: it ends in a brace
up to indentation, and going back from that brace a closing parenthesis comes before any other
brace. -/
def closesHeader (line : List Char) : Bool :=
  match line.reverse.dropWhile isIndent with
  | '\x7b' :: before =>
    (before.find? fun c => c == ')' || c == '\x7b') == some ')'
  | _ => false

/-- A name with its parameters, and the text from the end of the header's line on. -/
def namedHeader? (text : List Char) : Option (List Char × List Char) := do
  let name := text.takeWhile Text.isWordChar
  if name.isEmpty then none
  let afterName := Text.trimStart (text.dropWhile Text.isWordChar)
  let parenthesis := Text.trimStart (← afterGenerics? afterName)
  let arguments ← Text.after? ['('] parenthesis
  if closesHeader (arguments.takeWhile (· != '\n')) then
    some (name, arguments.dropWhile (· != '\n'))
  else none

/-- A header without its indentation: as many modifiers as leave a name with parameters. -/
def unindentedHeader? : (fuel : Nat) → List Char → Option (List Char × List Char)
  | 0, text => namedHeader? text
  | fuel + 1, text =>
    match (afterModifier? text).bind (unindentedHeader? fuel) with
    | some found => some found
    | none => namedHeader? text

/-- The header at the start of a line: its name with the text from the line's start on, and the
text from the end of its last line on. -/
def headerAt? (text : List Char) : Option ((List Char × List Char) × List Char) :=
  (unindentedHeader? text.length (text.dropWhile isIndent)).map fun (name, rest) =>
    ((name, text), rest)

/-- Names that look like functions in a disassembly and are none. -/
def notFunctions : List String :=
  ["module", "struct", "use", "if", "while", "loop"]

/-- The headers of a disassembly with the text from each on. -/
def headers (code : List Char) : List (String × List Char) :=
  ((scan headerAt? code).map fun (name, text) => (String.ofList name, text)).filter
    fun (name, _) => !notFunctions.contains name

/-- Texts that each begin where the next one is to stop, cut there. -/
def cutAtNext : List (String × List Char) → List (String × List Char)
  | [] => []
  | [last] => [last]
  | (name, text) :: (nextName, next) :: rest =>
    (name, text.take (text.length - next.length)) :: cutAtNext ((nextName, next) :: rest)

/-- The functions of a disassembly: each name with the text from its header to the next one. -/
def bodies (code : List Char) : List (String × List Char) :=
  (cutAtNext (headers code)).foldl (fun known (name, text) => Entries.putNew known name text) []

/-- The text of one function, empty when the disassembly has none of that name. -/
def bodyOf (functions : List (String × List Char)) (name : String) : List Char :=
  (Entries.get? functions name).getD []


/-! ### Structs -/

/-- A declared struct: its name and its abilities. -/
structure Struct where
  name : String
  abilities : List String
  deriving DecidableEq, Repr

/-- The abilities that a list between commas names. -/
def abilityNames (text : List Char) : List String :=
  ((text.splitOn ',').map Text.trim).filterMap fun ability =>
    if ability.isEmpty then none else some (String.ofList ability)

/-- The abilities after the word for them, and what follows the brace. At least one character has
to stand between the blank after that word and the brace. -/
def abilities? (text : List Char) : Option (List String × List Char) := do
  let afterWord ← Text.after? "has".toList (← afterBlanks? text)
  let isListed := fun c => Text.isWordChar c || Text.isBlank c || c == ','
  let listed := afterWord.takeWhile isListed
  let rest ← Text.after? ['\x7b'] (afterWord.dropWhile isListed)
  match listed with
  | first :: _ :: _ => if Text.isBlank first then some (abilityNames listed, rest) else none
  | _ => none

/-- The struct declared at the start of a text, and what follows its brace. -/
def structAt? (text : List Char) : Option (Struct × List Char) := do
  let start := Text.trimStart text
  let declared := ((Text.after? "public".toList start).bind afterBlanks?).getD start
  let afterWord ← afterBlanks? (← Text.after? "struct".toList declared)
  let name := afterWord.takeWhile Text.isWordChar
  if name.isEmpty then none
  let rest ← afterGenerics? (afterWord.dropWhile Text.isWordChar)
  match abilities? rest with
  | some (abilities, left) => some (⟨String.ofList name, abilities⟩, left)
  | none =>
    let left ← Text.after? ['\x7b'] (Text.trimStart rest)
    some (⟨String.ofList name, []⟩, left)

/-- The structs that a disassembly declares, in order. -/
def structs (code : List Char) : List Struct :=
  scan structAt? code

end MoveAudit.Listing
