/-
This file reads the arguments of commands. What a command accepts is its form: options, some of
which take a value, and possibly further arguments, of which there has to be one at least. Arguments
are told apart first, each by itself, and then taken in order. An option may be shortened as long as
no other one begins the same way, its value may follow after `=`, and options of one letter may be
written together. Further arguments have to stand together: once an option has followed them, more
of them are not expected.
-/

import MoveAudit.Config.Environment

namespace MoveAudit.CommandLine

open Json

/-! ### Forms -/

/-- What the value of an option has to be. -/
inductive Kind where
  | text
  | whole
  | number
  | choice (words : List String)

/-- An option: how it is written, what its value is called, and what the value has to be. An option
without a kind takes no value. -/
structure Item where
  spellings : List String
  name : String
  kind? : Option Kind := none

/-- The option that asks for help. -/
def help : Item :=
  ⟨["-h", "--help"], "help", none⟩

/-- What a command accepts. -/
structure Form where
  program : String
  items : List Item
  /-- What further arguments are called, if there are any. -/
  rest? : Option String := none

/-- The spellings of all options, with the options. -/
def Form.spellings (form : Form) : List (String × Item) :=
  (help :: form.items).flatMap fun item => item.spellings.map fun spelling => (spelling, item)

/-- The option that is written exactly so. -/
def Form.find? (form : Form) (spelling : String) : Option Item :=
  Entries.get? form.spellings spelling

/-! ### Faults -/

/-- What is wrong with arguments. -/
inductive Fault where
  /-- Several options begin as is written. -/
  | ambiguous (argument : String) (spellings : List String)
  /-- An option has no value. -/
  | noValue (item : Item)
  /-- An option has a value that it does not take. -/
  | needless (item : Item) (text : String)
  /-- The value of an option is not of its kind. -/
  | badValue (item : Item) (kind : Kind) (text : String)
  /-- There are no further arguments where there have to be some. -/
  | missing (name : String)
  /-- Nothing could be made of some arguments. -/
  | unknown (arguments : List String)

/-- A text is not of a kind, in words. -/
def Kind.complaint (text : String) : Kind → String
  | .text => "invalid value: " ++ Text.quoted text
  | whole => "invalid int value: " ++ Text.quoted text
  | number => "invalid float value: " ++ Text.quoted text
  | choice words => "invalid choice: " ++ Text.quoted text ++ " (choose from " ++
      ", ".intercalate (words.map Text.quoted) ++ ")"

/-- A fault in words. -/
def Fault.message : Fault → String
  | ambiguous argument spellings => "ambiguous option: " ++ argument ++ " could match " ++
      ", ".intercalate spellings
  | noValue item => "argument " ++ "/".intercalate item.spellings ++ ": expected one argument"
  | needless item text => "argument " ++ "/".intercalate item.spellings ++
      ": ignored explicit argument " ++ Text.quoted text
  | badValue item kind text => "argument " ++ "/".intercalate item.spellings ++ ": " ++
      kind.complaint text
  | missing name => "the following arguments are required: " ++ name
  | unknown arguments => "unrecognized arguments: " ++ " ".intercalate arguments

/-- Why the arguments are not taken to their end. -/
inductive Stop where
  | help
  | fault (fault : Fault)

/-! ### Telling arguments apart -/

/-- What an argument is by itself. -/
inductive Token where
  | plain (text : String)
  /-- Two dashes, after which no argument is an option. -/
  | dashes
  /-- An option, with what follows it in the same argument if there is anything: its value after
  `=`, or else letters. -/
  | option (item : Item) (isShort isJoined : Bool) (tail? : Option String)
  /-- What looks like an option and is none. -/
  | stray (text : String)

/-- The text before the first `=`, and the text after it if there is one. -/
def atEquals (text : String) : String × Option String :=
  let before := text.toList.takeWhile (· ≠ '=')
  (String.ofList before, match text.toList.drop before.length with
    | _ :: after => some (String.ofList after)
    | [] => none)

/-- Whether an argument is a negative number: digits after a dash, perhaps with a point among or
before them. -/
def isNegative (text : List Char) : Bool :=
  let isDigit := fun c => (Text.digitValue? c).isSome
  match text with
  | '-' :: rest =>
    match rest.dropWhile isDigit with
    | [] => !rest.isEmpty
    | '.' :: fraction => !fraction.isEmpty && fraction.all isDigit
    | _ => false
  | _ => false

/-- The options that an argument may be short for: with two dashes those that begin as it does, with
one dash the option of its first letter, the other letters being its tail. -/
def Form.candidates (form : Form) (argument : String) : List (String × Token) :=
  match argument.toList with
  | '-' :: '-' :: _ =>
    let (start, tail?) := atEquals argument
    (form.spellings.filter fun (spelling, _) => start.isPrefixOf spelling).map
      fun (spelling, item) => (spelling, .option item false true tail?)
  | dash :: letter :: tail =>
    let short := String.ofList [dash, letter]
    form.spellings.filterMap fun (spelling, item) =>
      if spelling == short then
        some (spelling, .option item true false (some (String.ofList tail)))
      else if argument.isPrefixOf spelling then some (spelling, .option item true false none)
      else none
  | _ => []

/-- Whether an option is written with one dash. -/
def isShort (spelling : String) : Bool :=
  !"--".isPrefixOf spelling

/-- What an argument is, if an option is written in it exactly. -/
def Form.exact? (form : Form) (argument : String) : Option Token :=
  match form.find? argument with
  | some item => some (.option item (isShort argument) false none)
  | none =>
    match atEquals argument with
    | (spelling, some value) =>
      (form.find? spelling).map fun item => .option item (isShort spelling) true (some value)
    | _ => none

/-- What an argument is that begins with a dash and is more than a dash. -/
def Form.dashed (form : Form) (argument : String) : Except Fault Token :=
  match form.exact? argument with
  | some token => .ok token
  | none =>
    match form.candidates argument with
    | [(_, token)] => .ok token
    | [] =>
      .ok (if isNegative argument.toList || argument.toList.contains ' ' then .plain argument
        else .stray argument)
    | several => .error (.ambiguous argument (several.map (·.1)))

/-- What arguments are, each by itself. -/
def Form.tokens (form : Form) : List String → Except Fault (List Token)
  | [] => .ok []
  | "--" :: rest => .ok (.dashes :: rest.map .plain)
  | argument :: rest => do
    let token ← if "-".isPrefixOf argument && argument.length > 1 then form.dashed argument
      else .ok (.plain argument)
    return token :: (← form.tokens rest)

/-! ### Taking arguments -/

/-- What arguments say. -/
structure Given where
  values : Members := []
  /-- The further arguments, once there were any. -/
  rest? : Option (List String) := none
  /-- The arguments that stand together where the reading has come to. -/
  row : List String := []
  /-- The options that wait for the next argument: those without a value, and the one it is the
  value of. -/
  waiting? : Option (List Item × Item) := none
  /-- The arguments that nothing could be made of. -/
  left : List String := []

namespace Given

/-- Give a value its name. -/
def put (name : String) (value : Value) (given : Given) : Given :=
  { given with values := Entries.put given.values name value }

/-- A row of arguments has come to its end. -/
def closeRow (isExpected : Bool) (given : Given) : Given :=
  if given.row.isEmpty then given
  else if isExpected && given.rest?.isNone && given.row != ["--"] then
    { given with row := [], rest? := some (given.row.erase "--") }
  else { given with row := [], left := given.left ++ given.row }

/-- An option without a value. -/
def switch (given : Given) (item : Item) : Except Stop Given :=
  if item.name == help.name then .error .help else .ok (given.put item.name (.bool true))

/-- An option with a text as its value. -/
def assign (item : Item) (kind : Kind) (text : String) (given : Given) : Except Stop Given :=
  let value? : Option Value := match kind with
    | .text => some (.string text)
    | .whole => (Config.whole? text).map .int
    | .number => (Config.number? text).map .float
    | .choice words => if words.contains text then some (.string text) else none
  match value? with
  | some value => .ok (given.put item.name value)
  | none => .error (.fault (.badValue item kind text))

end Given

/-- What is written in one argument: options that take no value, then perhaps one more option with
its value if that is written there as well, or letters that nothing can be made of. -/
structure Cluster where
  switches : List Item := []
  last? : Option (Item × Option String) := none
  stray? : Option String := none

/-- What is written in one argument, from an option on that is followed by the text. Letters that
follow an option without a value are options of one letter each. -/
def Form.cluster (form : Form) (item : Item) (isShort isJoined : Bool) :
    List Char → Except Fault Cluster
  | [] =>
    if item.kind?.isSome then .ok { last? := some (item, some "") } else .error (.needless item "")
  | letter :: rest =>
    let text := String.ofList (letter :: rest)
    if item.kind?.isSome then .ok { last? := some (item, some text) }
    else if !isShort || isJoined || letter == '-' then .error (.needless item text)
    else match form.find? (String.ofList ['-', letter]) with
      | none => .ok { switches := [item], stray? := some ("-" ++ text) }
      | some next => do
        let cluster ← match rest with
          | [] => .ok { last? := some (next, none) }
          | first :: value =>
            if first == '=' then form.cluster next true true value
            else form.cluster next true false (first :: value)
        return { cluster with switches := item :: cluster.switches }

/-- Take an option. -/
def Form.takeOption (form : Form) (item : Item) (isShort isJoined : Bool) (tail? : Option String)
    (given : Given) : Except Stop Given := do
  let cluster ← match tail? with
    | none => .ok { last? := some (item, none) }
    | some tail => (form.cluster item isShort isJoined tail.toList).mapError .fault
  let switched := fun items => (cluster.switches ++ items).foldlM Given.switch given
  match cluster.last? with
  | none => return { (← switched []) with left := given.left ++ cluster.stray?.toList }
  | some (last, value?) =>
    match last.kind?, value? with
    | none, _ => switched [last]
    | some _, none => return { given with waiting? := some (cluster.switches, last) }
    | some kind, some text => (← switched []).assign last kind text

/-- Take one argument. -/
def Form.take (form : Form) (given : Given) (token : Token) : Except Stop Given := do
  match given.waiting?, token with
  | some (switches, item), .plain text =>
    (← switches.foldlM Given.switch { given with waiting? := none }).assign item
      (item.kind?.getD .text) text
  | some (_, item), _ => throw (.fault (.noValue item))
  | none, .plain text => return { given with row := given.row ++ [text] }
  | none, .dashes => return { given with row := given.row ++ ["--"] }
  | none, .stray text =>
    let given := given.closeRow form.rest?.isSome
    return { given with left := given.left ++ [text] }
  | none, .option item isShort isJoined tail? =>
    form.takeOption item isShort isJoined tail? (given.closeRow form.rest?.isSome)

/-- What is said when all arguments are taken. -/
def Form.close (form : Form) (given : Given) : Except Stop Given := do
  if let some (_, item) := given.waiting? then throw (.fault (.noValue item))
  let given := given.closeRow form.rest?.isSome
  match form.rest?, given.rest? with
  | some name, none => throw (.fault (.missing name))
  | _, _ => if given.left.isEmpty then return given else throw (.fault (.unknown given.left))

/-- Read arguments, where some values are given beforehand. -/
def Form.read (form : Form) (usual : Members) (arguments : List String) : Except Stop Given := do
  let tokens ← (form.tokens arguments).mapError .fault
  form.close (← tokens.foldlM form.take { values := usual })

/-- A fault as the command tells it. -/
def Form.complaint (form : Form) (message : String) : String :=
  form.program ++ ": error: " ++ message

end MoveAudit.CommandLine
