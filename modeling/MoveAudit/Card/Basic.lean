/-
This file holds safety cards. A draft is what the reporting stage writes, without a score; a card
is the draft with a score and the level that belongs to the score. Two cards are fixed: the one for
a package without public functions and the one for a package in which triage found nothing.
-/

import MoveAudit.Risk.Finding

namespace MoveAudit

open Json Record

/-! ### Levels -/

/-- How risky a package is as a whole. -/
inductive RiskLevel where
  | critical
  | high
  | moderate
  | low
  deriving DecidableEq, Repr

namespace RiskLevel

/-- The levels, worst first. -/
def all : List RiskLevel :=
  [.critical, .high, .moderate, .low]

/-- The word for a level. -/
def word : RiskLevel → String
  | critical => "critical"
  | high => "high"
  | moderate => "moderate"
  | low => "low"

/-- The level of a score: critical from 70, high from 50, moderate from 30. -/
def ofScore (score : Int) : RiskLevel :=
  if 70 ≤ score then critical
  else if 50 ≤ score then high
  else if 30 ≤ score then moderate
  else low

/-- The level of a score given as a value; only numbers and truth values can be compared. A number
lies at or above a bound exactly if the whole number below it does. -/
def ofValue? : Value → Option RiskLevel
  | .int score => some (ofScore score)
  | .bool truth => some (ofScore (if truth then 1 else 0))
  | .float .nan => some low
  | .float (.infinite negative) => some (if negative then low else critical)
  | .float number => number.floor?.map ofScore
  | _ => none

end RiskLevel

/-! ### Parts of a card -/

/-- A function that a card warns of. -/
structure RiskyFunction where
  name : String
  reason : String
  deriving DecidableEq, Repr

/-- The check of a risky function. -/
def RiskyFunction.check : Check RiskyFunction :=
  record "RiskyFunction" <|
    RiskyFunction.mk <$> required "function_name" text <*> optional "reason" "" text

/-- The risky function as a document. -/
def RiskyFunction.toJson (function : RiskyFunction) : Value :=
  .object [("function_name", .string function.name), ("reason", .string function.reason)]

/-- A sign that funds may be taken away. -/
structure Indicator where
  pattern : String
  evidence : String
  deriving DecidableEq, Repr

/-- The check of an indicator. -/
def Indicator.check : Check Indicator :=
  record "RugPullIndicator" <|
    Indicator.mk <$> required "pattern_name" text <*> optional "evidence" "" text

/-- The indicator as a document. -/
def Indicator.toJson (indicator : Indicator) : Value :=
  .object [("pattern_name", .string indicator.pattern), ("evidence", .string indicator.evidence)]

/-! ### Drafts -/

/-- A card without its score. -/
structure Draft where
  summary : String
  riskyFunctions : List RiskyFunction := []
  indicators : List Indicator := []
  impact : String := ""
  oneLiner : String := ""
  deriving DecidableEq, Repr

namespace Draft

/-- A list of records in which a text alone stands for a record; nothing stands for no list. -/
def lenientList {Result : Type} (ofText : String → Result) (check : Check Result) :
    Check (List Result) := fun value =>
  if value.isNull then .ok []
  else list (fun item => match item with
    | .string text => .ok (ofText text)
    | other => check other) value

/-- The check of a draft. -/
def check : Check Draft :=
  record "SafetyCardDraft" <|
    Draft.mk <$> required "summary" text
      <*> optional "risky_functions" [] (lenientList (⟨·, ""⟩) RiskyFunction.check)
      <*> optional "rug_pull_indicators" [] (lenientList (⟨·, ""⟩) Indicator.check)
      <*> optional "impact_on_user" "" text <*> optional "why_risky_one_liner" "" text

/-- The members of a draft as a document. -/
def members (draft : Draft) : Members :=
  [("summary", .string draft.summary),
    ("risky_functions", .array (draft.riskyFunctions.map RiskyFunction.toJson)),
    ("rug_pull_indicators", .array (draft.indicators.map Indicator.toJson)),
    ("impact_on_user", .string draft.impact), ("why_risky_one_liner", .string draft.oneLiner)]

/-- The draft as a document. -/
def toJson (draft : Draft) : Value :=
  .object draft.members

end Draft

/-! ### Cards -/

/-- A safety card: a draft with a score and a level. -/
structure Card extends Draft where
  score : Int
  level : RiskLevel
  deriving DecidableEq, Repr

namespace Card

/-- What notices say of a card. -/
def verdict (card : Card) : Members :=
  [("risk_score", .int card.score), ("risk_level", .string card.level.word)]

/-- Scores lie between these. -/
def scoreBounds : Int × Int := (0, 100)

/-- The check of a score on a card. -/
def scoreCheck : Check Int :=
  wholeBetween scoreBounds.1 scoreBounds.2

/-- The check of a card. -/
def check : Check Card :=
  record "SafetyCard" <|
    (fun summary functions indicators impact oneLiner score level =>
        Card.mk ⟨summary, functions, indicators, impact, oneLiner⟩ score level)
      <$> required "summary" text <*> optional "risky_functions" [] (list RiskyFunction.check)
      <*> optional "rug_pull_indicators" [] (list Indicator.check)
      <*> optional "impact_on_user" "" text <*> optional "why_risky_one_liner" "" text
      <*> required "risk_score" scoreCheck
      <*> required "risk_level" (choice RiskLevel.all RiskLevel.word)

/-- The card as a document. -/
def toJson (card : Card) : Value :=
  .object (card.toDraft.members ++
    [("risk_score", .int card.score), ("risk_level", .string card.level.word)])

/-- The card of a draft at a score that is given as a value. -/
def ofDraftAt (draft : Draft) (score : Value) : Checked Card :=
  match RiskLevel.ofValue? score with
  | none => .halt .wrongKind
  | some level =>
    ((scoreCheck score).under (.name "risk_score")).map fun number => ⟨draft, number, level⟩

/-- The card of a draft at a score. -/
def ofDraft (draft : Draft) (score : Int) : Card :=
  ⟨draft, score, .ofScore score⟩

/-- The card of a package without public functions. -/
def noFunctions : Card :=
  { summary := "This package contains no public entry functions. It is likely a library " ++
      "or utility package with no direct user interaction."
    impact := "No direct impact as there are no callable functions."
    oneLiner := "No risk detected - library package"
    score := 0
    level := .low }

/-- The card of a package in which triage found nothing. -/
def cleanTriage : Card :=
  { summary := "This contract passed initial triage with no suspicious functions detected."
    impact := "No significant risks identified in the initial analysis."
    oneLiner := "Low risk - no suspicious patterns detected"
    score := 5
    level := .low }

end Card

/-- What the cache says of a package that another one depends on. The package stands as the
dependency on it was written. -/
structure DependencyRisk where
  id : Value
  score : Int
  level : RiskLevel

/-- The dependency risk as a document. -/
def DependencyRisk.toJson (risk : DependencyRisk) : Value :=
  .object [("id", risk.id), ("risk_score", .int risk.score),
    ("level", .string risk.level.word)]

end MoveAudit
