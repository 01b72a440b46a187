/-
This file spells values the way messages quote them: `None`, `True` and `False` for the constants,
the shortest decimal for numbers with a fraction, quotes around texts, and brackets around
collections. A text shown on its own stands without quotes.
-/

import MoveAudit.Json.Value
import MoveAudit.Number.Decimal
import MoveAudit.Number.Numeral
import MoveAudit.Text.Basic

namespace MoveAudit.Json.Value

mutual

/-- A value with texts in quotes. -/
def quoted : Value → String
  | null => "None"
  | bool truth => if truth then "True" else "False"
  | int whole => Numeral.intText whole
  | float number => number.text
  | string text => Text.quoted text
  | array items => "[" ++ ", ".intercalate (quotedItems items) ++ "]"
  | object members => "\x7b" ++ ", ".intercalate (quotedMembers members) ++ "\x7d"

/-- The values of a collection, each quoted. -/
def quotedItems : List Value → List String
  | [] => []
  | item :: rest => quoted item :: quotedItems rest

/-- The members of an object, each as a quoted name, a colon and a quoted value. -/
def quotedMembers : List (String × Value) → List String
  | [] => []
  | (name, value) :: rest => (Text.quoted name ++ ": " ++ quoted value) :: quotedMembers rest

end

/-- A value as it reads inside a sentence: a text as itself, anything else as when quoted. -/
def shown : Value → String
  | string text => text
  | other => other.quoted

mutual

/-- Whether the whole numbers in a value are short enough to be spelled. -/
def isSpellable : Value → Bool
  | int whole => Numeral.isSpellable whole
  | array items => areSpellable items
  | object members => areMembersSpellable members
  | _ => true

@[inherit_doc isSpellable]
def areSpellable : List Value → Bool
  | [] => true
  | item :: rest => isSpellable item && areSpellable rest

@[inherit_doc isSpellable]
def areMembersSpellable : List (String × Value) → Bool
  | [] => true
  | (_, value) :: rest => isSpellable value && areMembersSpellable rest

end

end MoveAudit.Json.Value
