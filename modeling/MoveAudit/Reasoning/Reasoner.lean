/-
This file holds reasoners: what answers the questions of an analysis that rules alone cannot. A
reasoner has one course of action per stage. The one that asks a model puts each question with the
same words at the head, and tells the journal how much each stage had before it. Records are listed
by their titles as well, so that one can be checked whose title is only known when it comes.
-/

import MoveAudit.Card.Basic
import MoveAudit.Knowledge.Base
import MoveAudit.Knowledge.Display
import MoveAudit.Reasoning.Call
import MoveAudit.Reasoning.Prompt

namespace MoveAudit

open Json

/-- What answers the questions of each stage in a session. -/
structure Reasoner (World Failure : Type) where
  /-- Which functions are worth a closer look. -/
  triage : (session : String) → Prompt.Context → Act World Failure Triage
  /-- What is wrong with the functions that triage flagged. -/
  analyse : (session : String) → Prompt.Context → List String → Act World Failure TechnicalAnalysis
  /-- What score the findings come to. -/
  score : (session : String) → List Finding → Act World Failure ScoreReport
  /-- What to tell of the findings and their score. -/
  report : (session : String) → List Finding → ScoreReport → List DependencyRisk →
    Act World Failure Draft
  /-- Whether a report agrees with the findings. -/
  critique : (session : String) → List Finding → Draft → Int → Act World Failure Critique
  /-- What a report reads like after it was mended. -/
  correct : (session : String) → Draft → (feedback : String) → Act World Failure Draft

namespace Reasoner

open Reasoning

/-- The records that the stages answer with. -/
def triageSchema : Schema Triage := ⟨"TriageResult", Triage.check, Triage.toJson⟩

@[inherit_doc triageSchema]
def technicalSchema : Schema TechnicalAnalysis :=
  ⟨"TechnicalAnalysisResult", TechnicalAnalysis.check, TechnicalAnalysis.toJson⟩

@[inherit_doc triageSchema]
def scoreSchema : Schema ScoreReport := ⟨"RiskScoreReport", ScoreReport.check, ScoreReport.toJson⟩

@[inherit_doc triageSchema]
def draftSchema : Schema Draft := ⟨"SafetyCardDraft", Draft.check, Draft.toJson⟩

@[inherit_doc triageSchema]
def critiqueSchema : Schema Critique := ⟨"CritiqueResult", Critique.check, Critique.toJson⟩

/-- A question of a stage. -/
def question (session stage prompt : String) (metadata : Members := []) : Request :=
  { stage, prompt, system := Prompt.systemText, session, metadata }

/-- How many of something a stage had before it. -/
def counted {Item : Type} (name : String) (items : List Item) : Members :=
  [(name, .int items.length)]

/-- The question for findings, with the text of the patterns. -/
def technicalQuestion (base : KnowledgeBase) (session : String) (context : Prompt.Context)
    (flagged : List String) (patterns : String) : Request :=
  question session "technical_analysis"
    (Prompt.technicalAnalysis context flagged patterns (base.patterns.map (·.id)))
    (counted "flagged" flagged)

/-- The question for a score, with the texts of the patterns and of the algorithm. -/
def scoringQuestion (session : String) (findings : List Finding) (patterns algorithm : String) :
    Request :=
  question session "scoring" (Prompt.scoring findings patterns algorithm)
    (counted "findings" findings)

/-- A text that a question needs, if it can be had. -/
def needed (text? : Option String) : Act Desk CallFailure String :=
  match text? with
  | some text => pure text
  | none => throw (.halt .unspellable)

/-- The reasoner that asks a model, and shows it a knowledge base. -/
def ofModel (settings : Settings) (base : KnowledgeBase) : Reasoner Desk CallFailure where
  triage session context := call settings triageSchema <|
    question session "triage" (Prompt.triage context) (counted "functions" context.functions)
  analyse session context flagged := do
    let patterns ← needed base.patternText?
    call settings technicalSchema (technicalQuestion base session context flagged patterns)
  score session findings := do
    let patterns ← needed base.patternText?
    let algorithm ← needed (KnowledgeBase.algorithmText? base.scoring)
    call settings scoreSchema (scoringQuestion session findings patterns algorithm)
  report session findings score risks := call settings draftSchema <|
    question session "report" (Prompt.report findings score risks)
  critique session findings draft score := call settings critiqueSchema <|
    question session "critique" (Prompt.critique findings draft (some score))
  correct session draft feedback := call settings draftSchema <|
    question session "correction" (Prompt.correction draft feedback)

/-- A reasoner in a part of a wider world. -/
def within {World Part Failure : Type} (part : World → Part) (put : Part → World → World)
    (reasoner : Reasoner Part Failure) : Reasoner World Failure where
  triage session context := (reasoner.triage session context).within part put
  analyse session context flagged := (reasoner.analyse session context flagged).within part put
  score session findings := (reasoner.score session findings).within part put
  report session findings score risks :=
    (reasoner.report session findings score risks).within part put
  critique session findings draft score :=
    (reasoner.critique session findings draft score).within part put
  correct session draft feedback := (reasoner.correct session draft feedback).within part put

end Reasoner

end MoveAudit

/-! ### Records by their titles -/

namespace MoveAudit.Record

open Json

/-- A check whose result is a document again. -/
def inDocument {Result : Type} (check : Check Result) (toJson : Result → Value) : Check Value :=
  fun value => (check value).map toJson

/-- The checks of records, by the titles of the records. -/
def titles : List (String × Check Value) :=
  [("TriageResult", inDocument Triage.check Triage.toJson),
    ("TechnicalFinding", inDocument Finding.check Finding.toJson),
    ("TechnicalAnalysisResult", inDocument TechnicalAnalysis.check TechnicalAnalysis.toJson),
    ("RiskScoreReport", inDocument ScoreReport.check ScoreReport.toJson),
    ("CritiqueResult", inDocument Critique.check Critique.toJson),
    ("RiskyFunction", inDocument RiskyFunction.check RiskyFunction.toJson),
    ("RugPullIndicator", inDocument Indicator.check Indicator.toJson),
    ("SafetyCardDraft", inDocument Draft.check Draft.toJson),
    ("SafetyCard", inDocument Card.check Card.toJson),
    ("RiskPattern", inDocument RiskPattern.check RiskPattern.toJson),
    ("KeywordRule", inDocument KeywordRule.check KeywordRule.toJson),
    ("ScoringRules", inDocument ScoringRules.check ScoringRules.toJson),
    ("PatternModifier", inDocument Modifier.check Modifier.toJson)]

/-- The check of the record of a title; a title that is none has no record in order. -/
def checkOf (title : String) : Check Value :=
  (Entries.get? titles title).getD fun value => .fault (.record title) value

end MoveAudit.Record
