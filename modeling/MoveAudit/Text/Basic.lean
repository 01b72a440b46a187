/-
This file says which characters are blank, which make up a word, which are decimal digits and which
end a line, each for the characters of every script, and what is done with them. Blanks are trimmed
from both ends of a text, cut it into its words, or are squeezed to one space. Texts are cut into
lines, and quoted for use in a message: in single quotes, or in double quotes when the text holds a
single quote and no double one, with escapes for what cannot be printed.
-/

import MoveAudit.Text.PrintableTable
import MoveAudit.Text.WordTable

namespace MoveAudit.Text

/-! ### Blanks -/

/-- The blank characters: tab to carriage return, the four separators of ASCII, space, next line,
and the space separators of Unicode. -/
def isBlank (c : Char) : Bool :=
  let n := c.toNat
  (9 ≤ n && n ≤ 13) || (28 ≤ n && n ≤ 32) || n == 0x85 || n == 0xA0 || n == 0x1680 ||
    (0x2000 ≤ n && n ≤ 0x200A) || n == 0x2028 || n == 0x2029 || n == 0x202F || n == 0x205F ||
    n == 0x3000

/-- The text from its first character that is not blank. -/
def trimStart (text : List Char) : List Char :=
  text.dropWhile isBlank

/-- The text up to its last character that is not blank. -/
def trimEnd (text : List Char) : List Char :=
  (text.reverse.dropWhile isBlank).reverse

/-- The text without the blanks at both ends. -/
def trim (text : List Char) : List Char :=
  trimEnd (trimStart text)

/-- The longest runs of characters that are not blank, in order. -/
def words (text : List Char) : List (List Char) :=
  (text.splitOnP isBlank).filter (!·.isEmpty)

/-- The words of the text with one space between neighbours. -/
def squeeze (text : List Char) : List Char :=
  [' '].intercalate (words text)

/-- A string without the blanks at both ends. -/
def trimmed (text : String) : String :=
  String.ofList (trim text.toList)

/-- A string without the blanks at its end. -/
def trimmedEnd (text : String) : String :=
  String.ofList (trimEnd text.toList)

/-- A string with every run of blanks squeezed to one space and none at the ends. -/
def squeezed (text : String) : String :=
  String.ofList (squeeze text.toList)


/-! ### Words and digits -/

/-- Whether some closed range of the table holds the code point. -/
def inRanges (table : List (Nat × Nat)) (point : Nat) : Bool :=
  table.any fun (first, last) => first ≤ point && point ≤ last

/-- Letters and numbers of every script, and the underscore. -/
def isWordChar (c : Char) : Bool :=
  if c.toNat < 128 then c.isAlphanum || c == '_' else inRanges wordRanges c.toNat

/-- The value of a decimal digit of any script. -/
def digitValue? (c : Char) : Option Nat :=
  if c.toNat < 128 then if c.isDigit then some (c.toNat - 48) else none
  else (digitZeros.find? fun first => first ≤ c.toNat && c.toNat ≤ first + 9).map (c.toNat - ·)

/-- Whether the character is a decimal digit of any script. -/
def isDigit (c : Char) : Bool :=
  (digitValue? c).isSome

/-- Whether one neighbour belongs to a word and the other does not; the ends of a text count as
outside every word. -/
def isWordEdge (before after : Option Char) : Bool :=
  before.any isWordChar != after.any isWordChar


/-! ### Lines -/

/-- The characters that end a line; a carriage return and a line feed in a row end one line. -/
def isLineEnd (c : Char) : Bool :=
  let n := c.toNat
  (10 ≤ n && n ≤ 13) || (28 ≤ n && n ≤ 30) || n == 0x85 || n == 0x2028 || n == 0x2029

/-- The lines of a text, without their ends; a text that ends with a line end has no empty line
after it. -/
def lines : List Char → List (List Char)
  | [] => []
  | '\r' :: '\n' :: rest => [] :: lines rest
  | c :: rest =>
    if isLineEnd c then [] :: lines rest
    else match rest with
      | [] => [[c]]
      | _ :: _ => match lines rest with
        | [] => [[c]]
        | line :: others => (c :: line) :: others

/-- The text up to the first line feed. -/
def firstLine (text : List Char) : List Char :=
  text.takeWhile (· != '\n')

/-- Strings written below each other. -/
def unlines (lines : List String) : String :=
  "\n".intercalate lines


/-! ### Quotes -/

/-- Whether a quoted text shows the character as itself. -/
def isPrintable (c : Char) : Bool :=
  if c.toNat < 128 then 32 ≤ c.toNat && c.toNat < 127 else inRanges printableRanges c.toNat

/-- A number in small hexadecimal digits, with zeros in front up to the width. -/
def hexDigits (width number : Nat) : List Char :=
  let digits := Nat.toDigits 16 number
  List.replicate (width - digits.length) '0' ++ digits

/-- How one character is written between the given quotes. -/
def quoteChar (mark c : Char) : List Char :=
  if c = mark || c = '\\' then ['\\', c]
  else if c = '\n' then ['\\', 'n']
  else if c = '\r' then ['\\', 'r']
  else if c = '\t' then ['\\', 't']
  else if isPrintable c then [c]
  else if c.toNat < 0x100 then '\\' :: 'x' :: hexDigits 2 c.toNat
  else if c.toNat < 0x10000 then '\\' :: 'u' :: hexDigits 4 c.toNat
  else '\\' :: 'U' :: hexDigits 8 c.toNat

/-- The quotes a text is put in. -/
def quoteMark (text : List Char) : Char :=
  if text.contains '\'' && !text.contains '"' then '"' else '\''

/-- The text in quotes. -/
def quote (text : List Char) : List Char :=
  let mark := quoteMark text
  mark :: text.flatMap (quoteChar mark) ++ [mark]

/-- The string in quotes. -/
def quoted (text : String) : String :=
  String.ofList (quote text.toList)

end MoveAudit.Text
