/-
This file reads what a model answers. The text of an answer may come in one piece or in blocks; the
JSON object in it may stand alone, in a fence, or between other words. The places where it may stand
are tried in a fixed order, and the first one that holds an object counts.
-/

import MoveAudit.Json.Reader
import MoveAudit.Json.Shown
import MoveAudit.Record.Check
import MoveAudit.Text.Basic
import MoveAudit.Text.Search

namespace MoveAudit.Reply

open Json

/-! ### The text of an answer -/

/-- The text of one block: a text itself, or that of a block of text; other blocks have none. -/
def blockText : Value → Except ShapeFault String
  | .string text => .ok text
  | .object members =>
    if (Entries.get? members "type").bind Value.text? == some "text" then
      match Entries.get? members "text" with
      | none => .ok ""
      | some (.string text) => .ok text
      | some _ => .error .wrongKind
    else .ok ""
  | _ => .ok ""

/-- The text of an answer. -/
def text : Value → Except ShapeFault String
  | .array blocks => do return String.join (← blocks.mapM blockText)
  | content => .ok content.shown

/-- Whether the text of an answer would take a whole number that is too long to be spelled. Blocks
are not spelled. -/
def isTooLong : Value → Bool
  | .array _ => false
  | content => !content.isSpellable

/-! ### The object in a text -/

/-- Why a text holds no object that can be used. -/
inductive Fault where
  | empty
  | noObject
  /-- The last place tried does not hold JSON. -/
  | notJson (candidate : String) (error : ReadError)
  /-- The last place tried holds a value that is no object. -/
  | notAnObject (value : Value)
  | tooManyDigits (digits : Nat)
  /-- A place that was tried holds a bracket inside too many others. -/
  | tooDeep (bracket : Bracket)

/-- The fault in words. -/
def Fault.message : Fault → String
  | empty => "Empty response"
  | noObject => "No JSON object found in response"
  | notJson candidate error => "Invalid JSON in response: " ++ error.message candidate
  | notAnObject value =>
    "Invalid JSON in response: Expected a JSON object, got " ++ Record.kindWord value
  | tooManyDigits digits => ReadError.message "" (.tooManyDigits digits)
  | tooDeep bracket => ReadError.message "" (.tooDeep bracket)

/-- The mark of a fence. -/
def fence : List Char := "```".toList

/-- The mark of a fence around JSON. -/
def jsonFence : List Char := "```json".toList

/-- What stands in the first fence around JSON, if it holds anything. -/
def inJsonFence? (content : List Char) : Option (List Char) :=
  match Text.cut? jsonFence content with
  | none => none
  | some (_, inside) =>
    match Text.cut? fence inside with
    | some (c :: held, _) => some (Text.trim (c :: held))
    | _ => none

/-- What stands between the first line and the last fence of a text that begins with a fence. -/
def inPlainFence? (content : List Char) : Option (List Char) :=
  if !fence.isPrefixOf content then none
  else
    let start := match Text.indexOf? ['\n'] content with
      | some before => before + 1
      | none => 0
    match Text.lastIndexOf? fence content with
    | some last => if start < last then some (Text.trim ((content.take last).drop start)) else none
    | none => none

/-- What stands from the first opening brace to the last closing one. -/
def inBraces? (content : List Char) : Option (List Char) :=
  match Text.indexOf? ['\x7b'] content, Text.lastIndexOf? ['\x7d'] content with
  | some first, some last =>
    if first < last then some ((content.take (last + 1)).drop first) else none
  | _, _ => none

/-- The places where an object may stand, in the order in which they are tried. -/
def candidates (content : List Char) : List String :=
  ([inJsonFence? content, inPlainFence? content, inBraces? content].filterMap id).map String.ofList

/-- The first object that a place holds; `fault` is what is known against the places before. A
whole number that is too long ends the search, and so does a bracket that there is no room for. -/
def firstObject (room : Nat) (fault : Fault) : List String → Except Fault Members
  | [] => .error fault
  | candidate :: rest =>
    match readWithin room candidate with
    | .ok (.object members) => .ok members
    | .ok value => firstObject room (.notAnObject value) rest
    | .error (.tooManyDigits digits) => .error (.tooManyDigits digits)
    | .error (.tooDeep bracket) => .error (.tooDeep bracket)
    | .error error => firstObject room (.notJson candidate error) rest

/-- The object in a text, where there is room for a number of open brackets. -/
def object (room : Nat) (given : String) : Except Fault Members :=
  match Text.trim given.toList with
  | [] => .error .empty
  | content => firstObject room .noObject (candidates content)

end MoveAudit.Reply
