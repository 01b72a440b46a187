/-
This file orders how bad a finding can be. The four grades have one word each, which is read in
any case with blanks around it.
-/

import MoveAudit.Json.Shown
import MoveAudit.Text.Basic
import MoveAudit.Text.Case

namespace MoveAudit

/-- How bad a finding is. -/
inductive Severity where
  | critical
  | high
  | medium
  | low
  deriving DecidableEq, Repr

namespace Severity

/-- The grades, worst first. -/
def all : List Severity :=
  [.critical, .high, .medium, .low]

/-- The word for a grade. -/
def word : Severity → String
  | critical => "Critical"
  | high => "High"
  | medium => "Medium"
  | low => "Low"

/-- The place of a grade in the order, worst first. -/
def rank : Severity → Nat
  | critical => 0
  | high => 1
  | medium => 2
  | low => 3

/-- Whether a grade is one of the two worst. -/
def isSevere : Severity → Bool
  | critical | high => true
  | medium | low => false

/-- The grade that a value names. -/
def ofValue? (value : Json.Value) : Option Severity :=
  let asked := Text.lowered (Text.trimmed (if value.isFull then value.shown else ""))
  all.find? fun severity => Text.lowered severity.word == asked

end Severity

end MoveAudit
