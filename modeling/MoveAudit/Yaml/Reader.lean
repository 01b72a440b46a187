/-
This file reads a part of YAML 1.1: maps and lists by indentation or in brackets, plain and quoted
words over one or more lines, and blocks of text. Where a line is indented no more than what
surrounds it, the inner part ends. What the part leaves out (anchors, tags, directives, names that
are no text, words for what is no value of a document) is not read, and the fault says so. The
reader is given as many steps as the text can take up.
-/

import MoveAudit.Number.Decimal
import MoveAudit.Yaml.Scalar

namespace MoveAudit.Yaml

open Json

/-- A place in a text: how far it is from the beginning of its line, and what follows. -/
structure Place where
  column : Nat
  text : List Char

/-- A reader from a place on. -/
abbrev Reader (Result : Type) := Place → Except Fault (Result × Place)

/-! ### Moving on -/

/-- Whether a character parts words on one line. -/
def isGap (c : Char) : Bool :=
  c == ' ' || c == '\t'

/-- Whether a text goes on with a gap or a new line, or ends. -/
def isBreak : List Char → Bool
  | [] => true
  | c :: _ => isGap c || c == '\n'

namespace Place

/-- The place some characters further on the same line. -/
def ahead (place : Place) (count : Nat) : Place :=
  ⟨place.column + count, place.text.drop count⟩

/-- The place after the spaces on the same line. -/
def afterSpaces (place : Place) : Place :=
  place.ahead (place.text.takeWhile (· == ' ')).length

/-- The place of the next token, from the rest of a text; comments and empty lines do not count. -/
def nextFrom (isComment : Bool) (column : Nat) : List Char → Place
  | [] => ⟨0, []⟩
  | '\n' :: rest => nextFrom false 0 rest
  | c :: rest =>
    if isComment || c == ' ' then nextFrom isComment (column + 1) rest
    else if c == '#' then nextFrom true (column + 1) rest
    else ⟨column, c :: rest⟩

/-- The place of the next token. -/
def next (place : Place) : Place :=
  nextFrom false place.column place.text

/-- Whether nothing but a comment is left on the line. -/
def isLineDone (place : Place) : Bool :=
  match place.afterSpaces.text with
  | [] | '\n' :: _ | '#' :: _ => true
  | _ => false

/-- Whether a mark of a document stands here. -/
def isMark (place : Place) : Bool :=
  place.column == 0 && (["---", "..."].any fun mark =>
    mark.toList.isPrefixOf place.text && isBreak (place.text.drop 3))

/-- Whether the text ends here, or the document does. -/
def isEnd (place : Place) : Bool :=
  place.text.isEmpty || place.isMark

/-- What is wrong with a place where something should begin: a mark that is not known, or none. -/
def fault (place : Place) : Fault :=
  match place.text with
  | '&' :: _ | '*' :: _ | '!' :: _ | '?' :: _ | '%' :: _ => .unknown
  | _ => .unexpected

/-- Whether an item of a list begins here. -/
def isItem (place : Place) : Bool :=
  match place.text with
  | '-' :: rest => isBreak rest
  | _ => false

/-- Whether the colon after a name stands here. -/
def isColon (place : Place) : Bool :=
  match place.text with
  | ':' :: rest => isBreak rest
  | _ => false

end Place

/-! ### Words -/

/-- The line breaks that a run of gaps and new lines stands for inside a word: one new line is a
space, and each further one a new line. -/
def folded (run : List Char) : List Char :=
  match run.count '\n' with
  | 0 => run
  | 1 => [' ']
  | breaks + 2 => List.replicate (breaks + 1) '\n'

/-- The run of gaps and new lines that a text begins with. -/
def gapRun (text : List Char) : List Char :=
  text.takeWhile fun c => isGap c || c == '\n'

/-- A word in single quotes, after the first quote. -/
def singleQuoted : Nat → List Char → Option (List Char × List Char)
  | 0, _ | _, [] => none
  | steps + 1, c :: rest =>
    match c, rest with
    | '\'', '\'' :: rest => (singleQuoted steps rest).map fun (word, left) => ('\'' :: word, left)
    | '\'', _ => some ([], rest)
    | _, _ =>
      let run := gapRun (c :: rest)
      if run.isEmpty then (singleQuoted steps rest).map fun (word, left) => (c :: word, left)
      else (singleQuoted steps ((c :: rest).drop run.length)).map fun (word, left) =>
        (folded run ++ word, left)

/-- The characters that an escape of one letter stands for. -/
def escapes : List (Char × Char) :=
  [('0', '\x00'), ('a', '\x07'), ('b', '\x08'), ('t', '\t'), ('\t', '\t'), ('n', '\n'),
    ('v', '\x0b'), ('f', '\x0c'), ('r', '\r'), ('e', '\x1b'), (' ', ' '), ('"', '"'), ('/', '/'),
    ('\\', '\\'), ('N', '\u0085'), ('_', '\u00a0'), ('L', '\u2028'), ('P', '\u2029')]

/-- How many hexadecimal digits follow the letter of an escape. -/
def escapeWidths : List (Char × Nat) :=
  [('x', 2), ('u', 4), ('U', 8)]

/-- What an escape stands for, after its backslash, and what follows it. -/
def escape? : List Char → Option (List Char × List Char)
  | [] => none
  | '\n' :: rest =>
    let run := gapRun rest
    some (List.replicate (run.count '\n') '\n', rest.drop run.length)
  | c :: rest =>
    match escapes.lookup c, escapeWidths.lookup c with
    | some char, _ => some ([char], rest)
    | none, some width =>
      let digits := rest.take width
      let code := (inBase 16 digits).toNat
      if digits.length = width && isRowOf (fun d => d != '_' && isDigitIn 16 d) digits &&
          code.isValidChar then
        some ([Char.ofNat code], rest.drop width)
      else none
    | none, none => none

/-- A word in double quotes, after the first quote. -/
def doubleQuoted : Nat → List Char → Option (List Char × List Char)
  | 0, _ | _, [] => none
  | _ + 1, '"' :: rest => some ([], rest)
  | steps + 1, '\\' :: rest =>
    match escape? rest with
    | none => none
    | some (chars, rest) => (doubleQuoted steps rest).map fun (word, left) => (chars ++ word, left)
  | steps + 1, c :: rest =>
    let run := gapRun (c :: rest)
    if run.isEmpty then (doubleQuoted steps rest).map fun (word, left) => (c :: word, left)
    else (doubleQuoted steps ((c :: rest).drop run.length)).map fun (word, left) =>
      (folded run ++ word, left)

/-- How far a place lies from the beginning of its line when a text lies before it. -/
def columnAfter (column : Nat) (passed : List Char) : Nat :=
  if passed.contains '\n' then (passed.reverse.takeWhile (· != '\n')).length
  else column + passed.length

/-- The place where only the given text is left. -/
def Place.reached (place : Place) (left : List Char) : Place :=
  ⟨columnAfter place.column (place.text.take (place.text.length - left.length)), left⟩

/-- A quoted word, if one begins here. -/
def quoted? (place : Place) : Option (Except Fault (String × Place)) :=
  let ended := fun (found : Option (List Char × List Char)) => match found with
    | some (word, left) => .ok (String.ofList word, place.reached left)
    | none => .error Fault.unexpected
  match place.text with
  | '\'' :: rest => some (ended (singleQuoted place.text.length rest))
  | '"' :: rest => some (ended (doubleQuoted place.text.length rest))
  | _ => none

/-- The marks that part things in brackets. -/
def isFlowMark (c : Char) : Bool :=
  [',', '[', ']', '\x7b', '\x7d'].contains c

/-- The plain word on a line up to a comment, a tab, the colon after a name, or, in brackets, a
mark. -/
def plainLine (isFlow : Bool) (isAfterSpace : Bool) : List Char → List Char × List Char
  | [] => ([], [])
  | c :: rest =>
    let isStop := c == '\n' || c == '\t' || (c == '#' && isAfterSpace) ||
      (isFlow && (isFlowMark c || c == '?')) ||
      (c == ':' && (isBreak rest || (isFlow && rest.head?.any isFlowMark)))
    if isStop then ([], c :: rest)
    else
      let (word, left) := plainLine isFlow (c == ' ') rest
      (c :: word, left)

/-- A word without the spaces at its end. -/
def withoutSpaces (word : List Char) : List Char :=
  (word.reverse.dropWhile (· == ' ')).reverse

/-- A plain word from a place on, over all lines that begin at a column or behind it. -/
def plainFrom (isFlow : Bool) (least : Nat) : Nat → Place → List Char × Place
  | 0, place => ([], place)
  | steps + 1, place =>
    let (line, left) := plainLine isFlow false place.text
    let word := withoutSpaces line
    let run := left.takeWhile fun c => c == ' ' || c == '\n'
    let after : Place := place.reached (left.drop run.length)
    let goesOn := left.head? == some '\n' && !after.isEnd && (isFlow || least ≤ after.column) &&
      after.text.head? != some '#' && !(isFlow && after.text.head?.any isFlowMark) &&
      !(isFlow && after.isColon)
    if goesOn then
      let (more, last) := plainFrom isFlow least steps after
      (word ++ folded run ++ more, last)
    else (word, place.reached left)

/-- Whether a plain word can begin here. -/
def isPlainStart (isFlow : Bool) (place : Place) : Bool :=
  match place.text with
  | [] => false
  | c :: rest =>
    if c == '-' then !isBreak rest
    else if c == '?' || c == ':' then !isFlow && !isBreak rest
    else !(isFlowMark c || ['\t', '#', '&', '*', '!', '|', '>', '%', '@', '`'].contains c)

/-! ### Blocks of text -/

/-- How a block of text is written: whether its lines are folded, what becomes of the line breaks at
its end, and its indentation if that is given. -/
structure BlockStyle where
  isFolded : Bool
  /-- Keep all line breaks at the end, or none; otherwise one is kept. -/
  keeps? : Option Bool := none
  indent? : Option Nat := none

/-- The style in the head of a block, after its first mark. -/
def blockStyle? (isFolded : Bool) (head : List Char) : Option BlockStyle :=
  head.foldl (fun style? c => style?.bind fun style =>
    if c == '+' then some { style with keeps? := some true }
    else if c == '-' then some { style with keeps? := some false }
    else if '1' ≤ c && c ≤ '9' then some { style with indent? := some (digitOf c) }
    else none) (some { isFolded })

/-- How far a line is indented. -/
def indentOf (line : List Char) : Nat :=
  (line.takeWhile (· == ' ')).length

/-- Whether a line holds nothing but spaces, and no more than an indentation. -/
def isBlankIn (indent : Nat) (line : List Char) : Bool :=
  indentOf line == line.length && line.length ≤ indent

/-- The lines of a block: those that are indented enough, and empty ones. -/
def blockLines (indent : Nat) (lines : List (List Char)) : List (List Char) :=
  lines.takeWhile fun line => isBlankIn indent line || indent ≤ indentOf line

/-- The indentation of a block, told from its first line that is not empty. -/
def blockIndent (least : Nat) (lines : List (List Char)) : Nat :=
  let blank := lines.takeWhile fun line => indentOf line == line.length
  let first := ((lines.drop blank.length).head?.map indentOf).getD 0
  max least (max first ((blank.map List.length).foldl max 0))

/-- Whether a line is indented beyond its block. -/
def isDeep (line : List Char) : Bool :=
  line.head?.any isGap

/-- The lines of a block put together; `before` is the last line that was not empty, and `breaks`
how many empty lines came after it. -/
def joined (isFolded : Bool) (before : Option (List Char)) (breaks : Nat) :
    List (List Char) → List Char
  | [] => []
  | [] :: rest => joined isFolded before (breaks + 1) rest
  | line :: rest =>
    let between := match before with
      | none => List.replicate breaks '\n'
      | some last =>
        if isFolded && !isDeep last && !isDeep line then
          if breaks = 0 then [' '] else List.replicate breaks '\n'
        else List.replicate (breaks + 1) '\n'
    between ++ line ++ joined isFolded (some line) 0 rest

/-- The text of a block from its lines, without their indentation; `isCut` says that the last line
has no end. -/
def blockText (style : BlockStyle) (isCut : Bool) (lines : List (List Char)) : String :=
  let trailing := (lines.reverse.takeWhile List.isEmpty).length
  let body := lines.take (lines.length - trailing)
  let last := if body.isEmpty || isCut then 0 else 1
  let ending := match style.keeps? with
    | some false => []
    | some true => List.replicate (trailing + last) '\n'
    | none => List.replicate last '\n'
  String.ofList (joined style.isFolded none 0 body ++ ending)

/-- The lines of a text, whose last one may be empty. -/
def linesOf (text : List Char) : List (List Char) :=
  (Text.split "\n" (String.ofList text)).map String.toList

/-- A block of text, from the mark at its head on. -/
def block (least : Nat) (place : Place) : Except Fault (String × Place) :=
  match place.text with
  | [] => .error .unexpected
  | mark :: rest =>
    let head := rest.takeWhile fun c => !isGap c && c != '\n'
    match blockStyle? (mark == '>') head, (place.ahead (head.length + 1)).isLineDone with
    | none, _ | _, false => .error .unexpected
    | some style, true =>
      let lines := linesOf ((rest.dropWhile (· != '\n')).drop 1)
      let indent := match style.indent? with
        | some more => max least 1 + more - 1
        | none => blockIndent (max least 1) lines
      let own := blockLines indent lines
      let left := "\n".toList.intercalate (lines.drop own.length)
      let isAtEnd := own.length = lines.length
      let hasEnd := own.getLast? == some []
      let body := (if isAtEnd && hasEnd then own.dropLast else own).map (·.drop indent)
      .ok (blockText style (isAtEnd && !hasEnd) body, ⟨0, left⟩)

/-! ### Nodes -/

/-- The name in a map that a value stands for, which is a text. -/
def nameOf (key : Value) : Except Fault String :=
  match key with
  | .string text => .ok text
  | .array _ | .object _ => .error .unexpected
  | _ => .error .unknown

/-- A word that may go on over lines that begin at a column or behind it. -/
def longWord (isFlow : Bool) (least : Nat) (place : Place) : Except Fault (Value × Place) :=
  match quoted? place with
  | some (.ok (text, after)) => .ok (.string text, after)
  | some (.error fault) => .error fault
  | none =>
    if isPlainStart isFlow place then
      let (text, after) := plainFrom isFlow least place.text.length place
      (scalar (String.ofList text)).map fun value => (value, after)
    else .error place.fault

mutual

/-- A value in brackets, or a word between them. -/
def flow : Nat → Reader Value
  | 0, _ => .error .unexpected
  | steps + 1, place =>
    match place.text with
    | '[' :: _ => do
      let (items, after) ← flowItems steps [] (place.ahead 1).next
      return (.array items, after)
    | '\x7b' :: _ => do
      let (members, after) ← flowMembers steps [] (place.ahead 1).next
      return (.object members, after)
    | _ => longWord true 0 place

/-- The items of a list in brackets, up to its end. -/
def flowItems : Nat → List Value → Reader (List Value)
  | 0, _, _ => .error .unexpected
  | steps + 1, found, place =>
    match place.text with
    | ']' :: _ => .ok (found, place.ahead 1)
    | _ => do
      let (item, after) ← flow steps place
      let after := after.next
      let (item, after) ← match after.text with
        | ':' :: _ => do
          let (value, after) ← flowValue steps (after.ahead 1).next
          pure (Value.object [(← nameOf item, value)], after.next)
        | _ => pure (item, after)
      match after.text with
      | ',' :: _ => flowItems steps (found ++ [item]) (after.ahead 1).next
      | ']' :: _ => return (found ++ [item], after.ahead 1)
      | _ => .error .unexpected

/-- A value in brackets, which may be left out. -/
def flowValue : Nat → Reader Value
  | 0, _ => .error .unexpected
  | steps + 1, place =>
    match place.text with
    | ',' :: _ | ']' :: _ | '\x7d' :: _ => .ok (.null, place)
    | _ => flow steps place

/-- The members of a map in brackets, up to its end. -/
def flowMembers : Nat → Members → Reader Members
  | 0, _, _ => .error .unexpected
  | steps + 1, found, place =>
    match place.text with
    | '\x7d' :: _ => .ok (found, place.ahead 1)
    | _ => do
      let (key, after) ← flow steps place
      let after := after.next
      let (value, after) ← match after.text with
        | ':' :: _ => do
          let (value, after) ← flowValue steps (after.ahead 1).next
          pure (value, after.next)
        | _ => pure (Value.null, after)
      let found := Entries.put found (← nameOf key) value
      match after.text with
      | ',' :: _ => flowMembers steps found (after.ahead 1).next
      | '\x7d' :: _ => return (found, after.ahead 1)
      | _ => .error .unexpected

end

/-- A value that is no map or list by indentation: in brackets, a block of text, or a word. -/
def leaf (least : Nat) (place : Place) : Except Fault (Value × Place) := do
  match place.text with
  | '[' :: _ | '\x7b' :: _ =>
    let (value, after) ← flow (4 * place.text.length + 4) place
    if after.isLineDone then return (value, after) else .error .unexpected
  | '|' :: _ | '>' :: _ =>
    let (text, after) ← block least place
    return (.string text, after)
  | _ =>
    let (value, after) ← longWord false least place
    if after.isLineDone then return (value, after) else .error .unexpected

/-- A name on one line and the place behind it, if one can begin here. -/
def name? (place : Place) : Option (Except Fault String × Place) :=
  match quoted? place with
  | some (.ok (text, after)) => some (.ok text, after)
  | some (.error _) => none
  | none =>
    if isPlainStart false place then
      let (line, left) := plainLine false false place.text
      some ((scalar (String.ofList (withoutSpaces line))).bind nameOf, place.reached left)
    else none

/-- The name that a map begins with here and the place behind its colon, if one does. -/
def key? (place : Place) : Option (Except Fault (String × Place)) :=
  (name? place).bind fun (name, after) =>
    let colon := after.afterSpaces
    if colon.isColon then some (name.map fun text => (text, colon.ahead 1)) else none

mutual

/-- What stands at a place: a list, a map, or something without parts by indentation, whose lines
begin at a column or behind it. -/
def node : Nat → (least : Nat) → Reader Value
  | 0, _, _ => .error .unexpected
  | steps + 1, least, place =>
    if place.isItem then do
      let (items, after) ← items steps place.column [] place
      return (.array items, after)
    else if (key? place).isSome then do
      let (members, after) ← members steps place.column [] place
      return (.object members, after)
    else leaf least place

/-- What stands after a name or a dash: on the same line, on later lines that are indented further
than the column, or nothing. -/
def content : Nat → (column : Nat) → (isMember : Bool) → Reader Value
  | 0, _, _, _ => .error .unexpected
  | steps + 1, column, isMember, place =>
    if place.isLineDone then
      let next := place.next
      if next.isEnd then .ok (.null, next)
      else if column < next.column then node steps (column + 1) next
      else if isMember && next.column = column && next.isItem then node steps column next
      else .ok (.null, next)
    else
      let here := place.afterSpaces
      if isMember then leaf (column + 1) here else node steps (column + 1) here

/-- The items of a list whose dashes stand in a column. -/
def items : Nat → (column : Nat) → List Value → Reader (List Value)
  | 0, _, _, _ => .error .unexpected
  | steps + 1, column, found, place => do
    let (item, after) ← content steps column false (place.ahead 1)
    let next := after.next
    let found := found ++ [item]
    if next.isEnd || next.column < column then return (found, next)
    else if next.column = column then
      if next.isItem then items steps column found next else return (found, next)
    else .error .unexpected

/-- The members of a map whose names stand in a column. -/
def members : Nat → (column : Nat) → Members → Reader Members
  | 0, _, _, _ => .error .unexpected
  | steps + 1, column, found, place =>
    match key? place with
    | none => .error place.fault
    | some (.error fault) => .error fault
    | some (.ok (name, after)) => do
      let (value, after) ← content steps column true after
      let next := after.next
      let found := Entries.put found name value
      if next.isEnd || next.column < column then return (found, next)
      else if next.column = column then members steps column found next
      else .error .unexpected

end

/-! ### Documents -/

/-- A text with one kind of line end. -/
def oneLineEnd (text : String) : String :=
  Text.substitute "\r" "\n" (Text.substitute "\r\n" "\n" text)

/-- Whether a character may stand in a document. -/
def isPrintable (c : Char) : Bool :=
  c == '\t' || c == '\n' || (' ' ≤ c && c ≤ '~') || ('\u00a0' ≤ c && c ≤ '\ufffd') ||
    '\uffff' < c

/-- Whether a character is a line end or a mark of a byte order, which are not known here. -/
def isForeignMark (c : Char) : Bool :=
  ['\u0085', '\u2028', '\u2029', '\ufeff'].contains c

/-- What is wrong with the characters of a text. -/
def characterFault? (text : List Char) : Option Fault :=
  if text.any isForeignMark then some .unknown
  else if text.all isPrintable then none
  else some .unexpected

/-- The place after the mark at the head of a document, with nothing else on its line. -/
def afterMark (place : Place) : Except Fault Place :=
  if "---".toList.isPrefixOf place.text && place.isMark then
    if (place.ahead 3).isLineDone then .ok (place.ahead 3).next else .error .unknown
  else .ok place

/-- Whether nothing but the mark at the end of a document is left. -/
def isDone (place : Place) : Bool :=
  place.text.isEmpty ||
    ("...".toList.isPrefixOf place.text && place.isMark && (place.ahead 3).next.text.isEmpty)

/-- The value in a document; an empty document holds nothing. -/
def read (text : String) : Except Fault Value := do
  let chars := (oneLineEnd text).toList
  if let some fault := characterFault? chars then .error fault
  let start ← afterMark (Place.next ⟨0, chars⟩)
  if start.isEnd then
    if isDone start then return .null else .error .unexpected
  let (value, after) ← node (4 * text.length + 4) 0 start
  if isDone after.next then return value else .error .unexpected

/-- The value in a document, if it can be read. -/
def read? (text : String) : Option Value :=
  (read text).toOption

end MoveAudit.Yaml
