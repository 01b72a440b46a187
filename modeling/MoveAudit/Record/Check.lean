/-
This file checks values from outside against what a record needs. A check gives the typed value or
every fault with the path to it, in the order of the fields; it does not stop at the first one. A
rule of a field may also meet a value that it cannot be applied to at all, and then the whole check
stops. Checks are lenient in fixed ways: a whole number may be written as a truth value, as a
number without fraction or as digits, and a truth value as a number or as a word.
-/

import MoveAudit.Json.Reader
import MoveAudit.Json.Shape
import MoveAudit.Json.Shown
import MoveAudit.Number.Numeral
import MoveAudit.Text.Case

namespace MoveAudit.Record

open Json

/-- One step on the way to a fault. -/
inductive Step where
  | name (name : String)
  | index (index : Nat)
  deriving DecidableEq, Repr

/-- What is wrong at a place. -/
inductive Cause where
  | missing
  | text
  | list
  | pair
  | tooLong (limit actual : Nat)
  | map
  | record (title : String)
  | attributes
  | whole
  | wholeDigits
  | wholeSize
  | fraction
  | notFinite
  | truth
  | truthWord
  | choice (words : List String)
  | tooSmall (low : Int)
  | tooLarge (high : Int)
  /-- A rule of the record, in words. -/
  | rule (text : String)
  deriving DecidableEq, Repr

/-- The short name of a cause in reports. -/
def Cause.code : Cause → String
  | missing => "missing"
  | text => "string_type"
  | list => "list_type"
  | pair => "tuple_type"
  | tooLong .. => "too_long"
  | map => "dict_type"
  | record _ => "model_type"
  | attributes => "model_attributes_type"
  | whole => "int_type"
  | wholeDigits => "int_parsing"
  | wholeSize => "int_parsing_size"
  | fraction => "int_from_float"
  | notFinite => "finite_number"
  | truth => "bool_type"
  | truthWord => "bool_parsing"
  | choice _ => "enum"
  | tooSmall _ => "greater_than_equal"
  | tooLarge _ => "less_than_equal"
  | rule _ => "value_error"

/-- Words to choose from: quoted, with commas and an `or` before the last. -/
def alternatives (words : List String) : String :=
  let quotedWords := words.map Text.quoted
  match quotedWords.reverse with
  | last :: others@(_ :: _) => ", ".intercalate others.reverse ++ " or " ++ last
  | _ => ", ".intercalate quotedWords

/-- A cause in words. -/
def Cause.message : Cause → String
  | missing => "Field required"
  | text => "Input should be a valid string"
  | list => "Input should be a valid list"
  | pair => "Input should be a valid tuple"
  | tooLong limit actual => "Tuple should have at most " ++ toString limit ++
      " items after validation, not " ++ toString actual
  | map => "Input should be a valid dictionary"
  | record title => "Input should be a valid dictionary or instance of " ++ title
  | attributes => "Input should be a valid dictionary or object to extract fields from"
  | whole => "Input should be a valid integer"
  | wholeDigits => "Input should be a valid integer, unable to parse string as an integer"
  | wholeSize => "Unable to parse input string as an integer, exceeded maximum size"
  | fraction => "Input should be a valid integer, got a number with a fractional part"
  | notFinite => "Input should be a finite number"
  | truth => "Input should be a valid boolean"
  | truthWord => "Input should be a valid boolean, unable to interpret input"
  | choice words => "Input should be " ++ alternatives words
  | tooSmall low => "Input should be greater than or equal to " ++ Numeral.intText low
  | tooLarge high => "Input should be less than or equal to " ++ Numeral.intText high
  | .rule words => "Value error, " ++ words

/-- A fault at a place, with the value found there. -/
structure Fault where
  path : List Step
  cause : Cause
  input : Value

/-- Why a rule could not be applied to a value at all. -/
inductive Halt where
  | wrongKind
  | overflow
  /-- A whole number is too long to be spelled. -/
  | unspellable
  /-- A bracket stands inside too many others. -/
  | tooDeep (bracket : Bracket)
  deriving DecidableEq, Repr

/-- The word for the kind of a halt. -/
def Halt.kind : Halt → String
  | wrongKind => "TypeError"
  | overflow => "OverflowError"
  | unspellable => "ValueError"
  | tooDeep _ => "RecursionError"

/-- What a check comes to. -/
inductive Checked (Result : Type) where
  | ok (result : Result)
  | faults (faults : List Fault)
  | halt (halt : Halt)

namespace Checked

variable {First Second Result : Type}

/-- One fault at the place of the value itself. -/
def fault (cause : Cause) (input : Value) : Checked Result :=
  .faults [⟨[], cause, input⟩]

/-- Go on with a value that is in order. -/
def andThen (checked : Checked First) (next : First → Checked Second) : Checked Second :=
  match checked with
  | ok result => next result
  | .faults found => .faults found
  | halt reason => halt reason

/-- Both results, or the faults of both. -/
def both (first : Checked First) (second : Unit → Checked Second) : Checked (First × Second) :=
  match first with
  | halt reason => halt reason
  | ok a =>
    match second () with
    | ok b => ok (a, b)
    | .faults found => .faults found
    | halt reason => halt reason
  | .faults found =>
    match second () with
    | ok _ => .faults found
    | .faults more => .faults (found ++ more)
    | halt reason => halt reason

/-- The result under a function. -/
def map (f : First → Second) (checked : Checked First) : Checked Second :=
  checked.andThen fun result => ok (f result)

/-- The faults seen from one step further out. -/
def under (step : Step) : Checked Result → Checked Result
  | ok result => ok result
  | .faults found => .faults (found.map fun fault => { fault with path := step :: fault.path })
  | halt reason => halt reason

/-- The result of a check without faults. -/
def toOption : Checked Result → Option Result
  | ok result => some result
  | _ => none

end Checked

/-- A check of one value. -/
abbrev Check (Result : Type) := Value → Checked Result

/-- A check of the members of a record. -/
def Fields (Result : Type) := Members → Checked Result

instance : Functor Fields where
  map f fields members := (fields members).map f

instance : Applicative Fields where
  pure result _ := .ok result
  seq fields others members :=
    ((fields members).both fun _ => others () members).map fun (f, x) => f x

/-! ### Single values -/

/-- A text. -/
def text : Check String
  | .string text => .ok text
  | value => .fault .text value

/-- A row of ASCII digits with single underscores between them, as its value, and what follows. -/
def digitRow? (text : List Char) : Option (Nat × List Char) :=
  let isPart := fun c : Char => c.isDigit || c == '_'
  let row := text.takeWhile isPart
  match Numeral.digitRow row with
  | ([], _) => none
  | (digits, []) => some (Numeral.valueOf digits, text.dropWhile isPart)
  | _ => none

/-- The whole number that a text of digits stands for; a point followed by zeros alone may come
after them. -/
def wholeOfText? (text : String) : Option Int :=
  let (negative, unsigned) := Numeral.signed (Numeral.unpadded text.toList)
  match digitRow? unsigned with
  | none => none
  | some (value, rest) =>
    let isTail := match rest with
      | [] => true
      | '.' :: zeros => zeros.all (· == '0')
      | _ => false
    if isTail then some (if negative then -(value : Int) else value) else none

/-- Whether a whole number fits into a signed machine word of 64 bits. -/
def isWord (whole : Int) : Bool :=
  let bound := Int.ofNat (Nat.pow 2 63)
  whole < bound && -bound ≤ whole

/-- A whole number. -/
def whole : Check Int
  | .int whole => .ok whole
  | .bool truth => .ok (if truth then 1 else 0)
  | .float number =>
    if !number.isFinite then .fault .notFinite (.float number)
    else match number.whole? with
      | none => .fault .fraction (.float number)
      | some value => if isWord value then .ok value else .fault .wholeSize (.float number)
  | .string text =>
    if Numeral.digitLimit < text.length then .fault .wholeSize (.string text)
    else match wholeOfText? text with
      | some value => .ok value
      | none => .fault .wholeDigits (.string text)
  | value => .fault .whole value

/-- A whole number that is not too small. -/
def wholeFrom (low : Int) : Check Int := fun value =>
  (whole value).andThen fun number =>
    if number < low then .fault (.tooSmall low) value else .ok number

/-- A whole number within bounds. -/
def wholeBetween (low high : Int) : Check Int := fun value =>
  (wholeFrom low value).andThen fun number =>
    if high < number then .fault (.tooLarge high) value else .ok number

/-- The words for a truth value. -/
def truthOfWord? (word : String) : Option Bool :=
  let small := String.ofList (word.toList.map Char.toLower)
  if ["0", "off", "f", "false", "n", "no"].contains small then some false
  else if ["1", "on", "t", "true", "y", "yes"].contains small then some true
  else none

/-- A truth value written as a whole number that fits into a machine word. -/
def truthOfWhole (whole : Int) (input : Value) : Checked Bool :=
  if whole = 0 then .ok false
  else if whole = 1 then .ok true
  else .fault (if isWord whole then .truthWord else .truth) input

/-- A truth value. -/
def truth : Check Bool
  | .bool truth => .ok truth
  | .int whole => truthOfWhole whole (.int whole)
  | .float number =>
    match number.whole? with
    | some whole => truthOfWhole whole (.float number)
    | none => .fault .truth (.float number)
  | .string word => match truthOfWord? word with
    | some truth => .ok truth
    | none => .fault .truthWord (.string word)
  | value => .fault .truth value

/-- One of several things that a word each stands for. -/
def choice {Result : Type} (results : List Result) (word : Result → String) : Check Result :=
  fun value =>
    match value.text?.bind fun text => results.find? (word · == text) with
    | some result => .ok result
    | none => .fault (.choice (results.map word)) value

/-- Nothing, or a value in order. -/
def nullable {Result : Type} (check : Check Result) : Check (Option Result)
  | .null => .ok none
  | value => (check value).map some

/-! ### Collections -/

/-- The items of a list from an index on. -/
def itemsFrom {Result : Type} (check : Check Result) (index : Nat) :
    List Value → Checked (List Result)
  | [] => .ok []
  | item :: rest =>
    ((check item).under (.index index)).both (fun _ => itemsFrom check (index + 1) rest) |>.map
      fun (first, others) => first :: others

/-- A list. -/
def list {Result : Type} (check : Check Result) : Check (List Result)
  | .array items => itemsFrom check 0 items
  | value => .fault .list value

/-- A list of exactly two. -/
def pair {Result : Type} (check : Check Result) : Check (Result × Result)
  | .array items =>
    if 2 < items.length then .fault (.tooLong 2 items.length) (.array items)
    else
      let at_ := fun index : Nat => Checked.under (.index index) <|
        match items[index]? with
        | some item => check item
        | none => .fault .missing (.array items)
      (at_ 0).both fun _ => at_ 1
  | value => .fault .pair value

/-! ### Records -/

/-- A member that has to be there. -/
def required {Result : Type} (name : String) (check : Check Result) : Fields Result := fun members =>
  Checked.under (.name name) <|
    match Entries.get? members name with
    | some value => check value
    | none => .fault .missing (.object members)

/-- A member that has a default. -/
def optional {Result : Type} (name : String) (default_ : Result) (check : Check Result) :
    Fields Result := fun members =>
  match Entries.get? members name with
  | some value => (check value).under (.name name)
  | none => .ok default_

/-- A record with these fields; members that it does not know are passed over. -/
def record {Result : Type} (title : String) (fields : Fields Result) : Check Result
  | .object members => fields members
  | value => .fault (.record title) value

/-- What a rule makes of a value, or the rule in words. -/
def rule {Result : Type} (outcome : Except String Result) (input : Value) : Checked Result :=
  match outcome with
  | .ok result => .ok result
  | .error text => .fault (.rule text) input

/-! ### Reports -/

/-- A step in a path. -/
def Step.display : Step → String
  | .name word => word
  | .index number => toString number

/-- The path of a fault on a line of its own; the value as a whole has none. -/
def Fault.pathLine (fault : Fault) : List String :=
  if fault.path.isEmpty then [] else [".".intercalate (fault.path.map Step.display)]

/-- The lines on a fault in brief: its path, and its cause. -/
def Fault.brief (fault : Fault) : List String :=
  fault.pathLine ++ match fault.cause with
    | .rule words => ["  Value error, " ++ words ++ " [value_error]"]
    | other => ["  [" ++ other.code ++ "]"]

/-- The word for the kind of a value. -/
def kindWord : Value → String
  | .null => "NoneType"
  | .bool _ => "bool"
  | .int _ => "int"
  | .float _ => "float"
  | .string _ => "str"
  | .array _ => "list"
  | .object _ => "dict"

/-- A text cut in the middle when it is longer than fifty characters. -/
def shortened (text : String) : String :=
  if text.length ≤ 50 then text
  else String.ofList (text.toList.take 25) ++ "..." ++
    String.ofList (text.toList.drop (text.length - 24))

/-- The lines on a fault in full; `manual` is where the causes are explained. -/
def Fault.full (manual : String) (fault : Fault) : List String :=
  fault.pathLine ++
    ["  " ++ fault.cause.message ++ " [type=" ++ fault.cause.code ++ ", input_value=" ++
        shortened fault.input.quoted ++ ", input_type=" ++ kindWord fault.input ++ "]",
      "    For further information visit " ++ manual ++ fault.cause.code]

/-- The line above the faults in a record of the given title. -/
def faultCount (title : String) (faults : List Fault) : String :=
  toString faults.length ++ " validation error" ++ (if faults.length = 1 then "" else "s") ++
    " for " ++ title

/-- The faults in a record of the given title, in brief. -/
def briefly (title : String) (faults : List Fault) : String :=
  "\n".intercalate (faultCount title faults :: faults.flatMap Fault.brief)

/-- The faults in a record of the given title, in full. -/
def inFull (manual title : String) (faults : List Fault) : String :=
  "\n".intercalate (faultCount title faults :: faults.flatMap (Fault.full manual))

end MoveAudit.Record
