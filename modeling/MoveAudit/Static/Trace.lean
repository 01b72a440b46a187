/-
This file says what traces in a function's disassembly look like, and finds them. Names in a trace
are found in any case. A trace is found as far left as possible and then taken as far right as it
goes, and what it covers is quoted as evidence.
-/

import MoveAudit.Text.Basic
import MoveAudit.Text.Case

namespace MoveAudit.Static

/-- Something to look for in a disassembly; all names are in small letters. -/
inductive Trace where
  /-- A name, anywhere. -/
  | mention (name : String)
  /-- A name with another one after it, anywhere or on the same line. -/
  | followed (first second : String) (sameLine : Bool)
  /-- A name with an angle bracket after it. -/
  | typedCall (name : String)
  /-- A word that holds one of the parts. -/
  | wordWith (parts : List String)

/-- What follows a name at the start of a text, whatever the case. -/
def afterName? : List Char → List Char → Option (List Char)
  | [], text => some text
  | _ :: _, [] => none
  | n :: name, c :: text => if Text.isCaseOf n c then afterName? name text else none

/-- The text from the first place on at which `attempt` succeeds, with what it left. -/
def firstPlace? (attempt : List Char → Option (List Char)) :
    List Char → Option (List Char × List Char)
  | [] => (attempt []).map ([], ·)
  | c :: text =>
    match attempt (c :: text) with
    | some rest => some (c :: text, rest)
    | none => firstPlace? attempt text

/-- What follows the last place of a name. -/
def afterLast? (name : List Char) : List Char → Option (List Char)
  | [] => afterName? name []
  | c :: text =>
    match afterLast? name text with
    | some rest => some rest
    | none => afterName? name (c :: text)

/-- What follows the last place of a name on the first line of a text. -/
def afterLastOnLine? (name text : List Char) : Option (List Char) :=
  let line := text.takeWhile (· != '\n')
  (afterLast? name line).map (· ++ text.dropWhile (· != '\n'))

/-- What a trace leaves of a text that begins with it. -/
def Trace.after? (trace : Trace) (text : List Char) : Option (List Char) :=
  match trace with
  | .mention name => afterName? name.toList text
  | .followed first second sameLine => do
    let rest ← afterName? first.toList text
    if sameLine then afterLastOnLine? second.toList rest else afterLast? second.toList rest
  | .typedCall name => do
    let rest ← afterName? name.toList text
    match Text.trimStart rest with
    | '<' :: left => some left
    | _ => none
  | .wordWith parts =>
    let word := text.takeWhile Text.isWordChar
    if parts.any fun part => (firstPlace? (afterName? part.toList) word).isSome then
      some (text.dropWhile Text.isWordChar)
    else none

/-- The text that a trace covers, as far left as there is one. -/
def Trace.match? (trace : Trace) (text : List Char) : Option (List Char) :=
  (firstPlace? trace.after? text).map fun (from_, rest) => from_.take (from_.length - rest.length)

/-- Whether a trace is in a text. -/
def Trace.isIn (trace : Trace) (text : List Char) : Bool :=
  (trace.match? text).isSome

end MoveAudit.Static
