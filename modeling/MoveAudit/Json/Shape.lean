/-
This file takes apart values that came from outside and may have any shape. Each way of looking
inside a value says what it needs, and a value that is not so is refused with the reason; no
reader has to guess which default was meant. The rank of a value bounds how deep anything inside it
can lie, which is why recursion over descriptions of any shape comes to an end.
-/

import MoveAudit.Json.Value

namespace MoveAudit.Json

/-- Why a value from outside cannot be used. -/
inductive ShapeFault where
  /-- Members were asked of something that is no object. -/
  | notObject
  /-- An object lacks a member that has to be there. -/
  | noMember
  /-- A value is of a kind that the step cannot be taken on. -/
  | wrongKind
  deriving DecidableEq, Repr

namespace ShapeFault

/-- The word for the kind of a fault. -/
def kind : ShapeFault → String
  | notObject => "AttributeError"
  | noMember => "KeyError"
  | wrongKind => "TypeError"

/-- The fault in words. -/
def message : ShapeFault → String
  | notObject => "object has no attribute 'get'"
  | noMember => "missing member"
  | wrongKind => "unexpected type"

end ShapeFault

namespace Value

mutual

/-- A count that is greater than that of everything inside the value. -/
def rank : Value → Nat
  | array items => 1 + rankItems items
  | object members => 1 + rankMembers members
  | _ => 1

/-- The ranks of the items of an array taken together. -/
def rankItems : List Value → Nat
  | [] => 0
  | item :: rest => rank item + rankItems rest

/-- The ranks of the members of an object taken together. -/
def rankMembers : List (String × Value) → Nat
  | [] => 0
  | (_, value) :: rest => rank value + rankMembers rest

end

theorem rank_le_rankItems {items : List Value} {item : Value} (member : item ∈ items) :
    item.rank ≤ rankItems items := by
  induction items with
  | nil => cases member
  | cons first rest inductionHypothesis =>
    rw [rankItems]
    rcases List.mem_cons.1 member with rfl | inRest
    · omega
    · have := inductionHypothesis inRest
      omega

theorem rank_le_rankMembers {members : Members} {name : String} {value : Value}
    (member : (name, value) ∈ members) : value.rank ≤ rankMembers members := by
  induction members with
  | nil => cases member
  | cons first rest inductionHypothesis =>
    obtain ⟨firstName, firstValue⟩ := first
    rw [rankMembers]
    rcases List.mem_cons.1 member with same | inRest
    · cases same
      omega
    · have := inductionHypothesis inRest
      omega

theorem rank_lt_of_mem_items {items : List Value} {item : Value} (member : item ∈ items) :
    item.rank < (array items).rank := by
  have := rank_le_rankItems member
  rw [rank]
  omega

theorem rank_lt_of_get? {members : Members} {name : String} {value : Value}
    (found : Entries.get? members name = some value) : value.rank < (object members).rank := by
  obtain ⟨⟨foundName, foundValue⟩, isFound, same⟩ := Option.map_eq_some_iff.1 found
  cases same
  have below : foundValue.rank ≤ rankMembers members :=
    rank_le_rankMembers (List.mem_of_find?_eq_some isFound)
  show foundValue.rank < (object members).rank
  rw [rank]
  omega

/-- A member of an object, which is nothing when it is absent. -/
def member (value : Value) (name : String) : Except ShapeFault Value :=
  match value with
  | object members => .ok (ofOption (Entries.get? members name))
  | _ => .error .notObject

/-- A member that has to be there. -/
def required (value : Value) (name : String) : Except ShapeFault Value :=
  match value with
  | object members =>
    match Entries.get? members name with
    | some found => .ok found
    | none => .error .noMember
  | _ => .error .wrongKind

/-- All members of an object, in order. -/
def allMembers : Value → Except ShapeFault Members
  | object members => .ok members
  | _ => .error .notObject

/-- What a value is made of, in order: the items of an array, the names of an object's members,
the characters of a text. -/
def parts : Value → Except ShapeFault (List Value)
  | array items => .ok items
  | object members => .ok (members.map fun (name, _) => string name)
  | string text => .ok (text.toList.map fun c => string (String.singleton c))
  | _ => .error .wrongKind

/-- What a value is made of; a value that counts as empty is made of nothing. -/
def partsOrNone (value : Value) : Except ShapeFault (List Value) :=
  if value.isFull then value.parts else .ok []

/-- Every part of a value lies below anything that holds the value. -/
theorem rank_lt_of_mem_parts {value part : Value} {all : List Value}
    (parted : value.parts = .ok all) (member : part ∈ all) : part.rank < value.rank + 1 := by
  cases value with
  | array items =>
    cases parted
    have := rank_lt_of_mem_items member
    omega
  | object members =>
    cases parted
    obtain ⟨pair, _, rfl⟩ := List.mem_map.1 member
    simp only [rank]
    omega
  | string text =>
    cases parted
    obtain ⟨c, _, rfl⟩ := List.mem_map.1 member
    simp [rank]
  | _ => cases parted

end Value

end MoveAudit.Json
