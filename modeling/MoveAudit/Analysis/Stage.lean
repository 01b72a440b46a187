/-
This file names the stages that an analysis goes through. Two of them end it early: a package
without public functions needs no reasoning, and one in which triage found nothing needs no more.
-/

import MoveAudit.Card.Basic

namespace MoveAudit.Analysis

/-- A stage that an analysis has reached. -/
inductive Stage where
  | extracted
  | triaged
  | technicallyAnalysed
  | scored
  | reported
  | critiqued
  | corrected
  | finalized
  | noFunctions
  | cleanTriage
  deriving DecidableEq, Repr

/-- The word for a stage. -/
def Stage.word : Stage → String
  | extracted => "Extracted"
  | triaged => "Triaged"
  | technicallyAnalysed => "TechnicallyAnalyzed"
  | scored => "Scored"
  | reported => "Reported"
  | critiqued => "Critiqued"
  | corrected => "Corrected"
  | finalized => "Finalized"
  | noFunctions => "NoFunctions"
  | cleanTriage => "CleanTriage"

/-- Whether an analysis ends at a stage. -/
def Stage.isLast : Stage → Bool
  | finalized | noFunctions | cleanTriage => true
  | _ => false

/-- What an analysis comes to. -/
structure Result where
  card : Card
  /-- The stages, in the order in which they were reached. -/
  history : List Stage
  session : String
  findings : List Finding := []
  score? : Option ScoreReport := none
  critique? : Option Critique := none

namespace Result

/-- The stage at which the analysis ended. -/
def stage (result : Result) : Stage :=
  result.history.getLast?.getD .extracted

/-- Whether the report was mended. -/
def isCorrected (result : Result) : Bool :=
  result.history.contains .corrected

open Json in
/-- The result as a document. -/
def toJson (result : Result) : Value :=
  .object [("card", result.card.toJson), ("stage", .string result.stage.word),
    ("history", .ofTexts (result.history.map Stage.word)), ("session_id", .string result.session),
    ("findings", .array (result.findings.map Finding.toJson)),
    ("score_report", .ofOption (result.score?.map ScoreReport.toJson)),
    ("critique", .ofOption (result.critique?.map Critique.toJson)),
    ("corrected", .bool result.isCorrected)]

end Result

end MoveAudit.Analysis
