/-
This file holds the values that documents, node answers and model replies are made of. Whole
numbers are exact and differ from numbers with a fraction or an exponent; the members of an
object keep their order. A value that counts as empty (nothing, false, zero, an empty text or an
empty collection) is told apart from all others, since many rules replace it by a default.
-/

import MoveAudit.Entries
import MoveAudit.Number.Double

namespace MoveAudit.Json

/-- A document: members of objects stand in document order. -/
inductive Value where
  | null
  | bool (truth : Bool)
  | int (whole : Int)
  | float (number : Double)
  | string (text : String)
  | array (items : List Value)
  | object (members : List (String × Value))
  deriving Inhabited

/-- The members of an object. -/
abbrev Members := List (String × Value)

namespace Value

/-- Whether the value is neither nothing, false, zero nor empty. -/
def isFull : Value → Bool
  | null => false
  | bool truth => truth
  | int whole => whole != 0
  | float number => !number.isZero
  | string text => !text.isEmpty
  | array items => !items.isEmpty
  | object members => !members.isEmpty

/-- The value itself, or nothing when it counts as empty. -/
def full? (value : Value) : Option Value :=
  if value.isFull then some value else none

/-- The text of a string value. -/
def text? : Value → Option String
  | string text => some text
  | _ => none

/-- The members of an object value. -/
def members? : Value → Option Members
  | object members => some members
  | _ => none

/-- A member of an object value. -/
def member? (value : Value) (name : String) : Option Value :=
  value.members?.bind (Entries.get? · name)

/-- The member of a name, or nothing. -/
def part (value : Value) (name : String) : Value :=
  (value.member? name).getD null

theorem part_of_not_full {value : Value} (isEmpty : value.isFull = false) (name : String) :
    value.part name = .null := by
  cases value with
  | object members =>
    cases members with
    | nil => rfl
    | cons first rest => cases isEmpty
  | _ => rfl

/-- The members of an object value; any other value has none. -/
def members (value : Value) : Members :=
  value.members?.getD []

/-- The items of an array value; any other value has none. -/
def items : Value → List Value
  | array items => items
  | _ => []

/-- The texts among the items of an array value. -/
def texts (value : Value) : List String :=
  value.items.filterMap text?

/-- Whether the value is nothing. -/
def isNull : Value → Bool
  | null => true
  | _ => false

/-- Nothing for an absent value. -/
def ofOption (value : Option Value) : Value :=
  value.getD null

/-- A text value, or nothing. -/
def ofText (text : Option String) : Value :=
  match text with
  | some text => string text
  | none => null

/-- A list of texts. -/
def ofTexts (texts : List String) : Value :=
  array (texts.map string)

mutual

/-- How many brackets stand around the innermost part of a value. -/
def depth : Value → Nat
  | array items => depthOfItems items + 1
  | object members => depthOfMembers members + 1
  | _ => 0

@[inherit_doc depth]
def depthOfItems : List Value → Nat
  | [] => 0
  | item :: rest => max (depth item) (depthOfItems rest)

@[inherit_doc depth]
def depthOfMembers : List (String × Value) → Nat
  | [] => 0
  | (_, value) :: rest => max (depth value) (depthOfMembers rest)

end

/-! ### Values that count as one -/

/-- The value as it counts beside others: truth values are 0 and 1, and a number without a fraction
is whole. -/
def counted : Value → Value
  | bool truth => int (if truth then 1 else 0)
  | float number => (number.whole?.map int).getD (float number)
  | other => other

/-- Whether two values that are no collections count as one. -/
def countsAs (one other : Value) : Bool :=
  match one.counted, other.counted with
  | null, null => true
  | int one, int other => one == other
  | float one, float other => one = other
  | string one, string other => one == other
  | _, _ => false

mutual

/-- Whether two values count as one: numbers by their worth, and objects whatever the order of their
members. -/
def isSame : Value → Value → Bool
  | array items, array others => areSame items others
  | object members, object others => members.length == others.length && areAmong members others
  | array _, _ | object _, _ => false
  | one, other => one.countsAs other

/-- Whether items count as one, each with the one at its place. -/
def areSame : List Value → List Value → Bool
  | [], [] => true
  | item :: items, other :: others => item.isSame other && areSame items others
  | _, _ => false

/-- Whether each member counts as one with that of its name. -/
def areAmong : Members → Members → Bool
  | [], _ => true
  | (name, value) :: members, others =>
    (match Entries.get? others name with
      | some other => value.isSame other
      | none => false) && areAmong members others

end

instance : BEq Value := ⟨isSame⟩

end Value

end MoveAudit.Json
