/-
This file holds what the reasoning stages report: the functions to look at, the technical findings
on them, a score with its justification, and a critique. All of it arrives as documents and is
checked here; a few habits of writers are let pass, such as one note where a list belongs.
-/

import MoveAudit.Record.Check
import MoveAudit.Risk.Severity

namespace MoveAudit

open Json Record

/-- The check of a severity: the word for one in any case. -/
def Severity.check : Check Severity := fun value =>
  rule (match Severity.ofValue? value with
    | some severity => .ok severity
    | none => .error ("Unknown severity: " ++ value.quoted)) value

/-- The text that stands for a value; a value that counts as empty has none. -/
def spelled (value : Value) : String :=
  if value.isFull then value.shown else ""

/-! ### Findings -/

/-- What stands where a finding has no evidence. -/
def noEvidence : String := "Evidence not found in disassembled code"

/-- A technical finding: the only thing that scores are made of. -/
structure Finding where
  functionName : String
  reason : String
  patternId : String
  severity : Severity
  notes : List String
  snippet : String
  isVerified : Bool
  deriving DecidableEq, Repr

namespace Finding

/-- Whether the finding quotes evidence. -/
def hasEvidence (finding : Finding) : Bool :=
  finding.snippet != noEvidence

/-- The identifier of a pattern, whatever it was written as, in capital letters. -/
def patternIdCheck : Check String := fun value =>
  .ok (Text.raised (Text.trimmed (spelled value)))

/-- The notes of a finding: nothing, one note, or a list. -/
def notesCheck : Check (List String)
  | .null => .ok []
  | .string note => .ok [note]
  | value => list text value

/-- The evidence of a finding, whatever it was written as. -/
def snippetCheck : Check String := fun value =>
  let kept := Text.trimmed (spelled value)
  .ok (if kept.isEmpty then noEvidence else kept)

/-- The check of a finding. -/
def check : Check Finding :=
  record "TechnicalFinding" <|
    Finding.mk <$> required "function_name" text <*> required "technical_reason" text
      <*> required "matched_pattern_id" patternIdCheck <*> required "severity" Severity.check
      <*> optional "contextual_notes" [] notesCheck
      <*> optional "evidence_code_snippet" noEvidence snippetCheck
      <*> optional "evidence_verified" false truth

/-- The finding as a document. -/
def toJson (finding : Finding) : Value :=
  .object [("function_name", .string finding.functionName),
    ("technical_reason", .string finding.reason),
    ("matched_pattern_id", .string finding.patternId),
    ("severity", .string finding.severity.word), ("contextual_notes", .ofTexts finding.notes),
    ("evidence_code_snippet", .string finding.snippet),
    ("evidence_verified", .bool finding.isVerified)]

end Finding

/-- The findings of the technical analysis. -/
structure TechnicalAnalysis where
  findings : List Finding
  deriving DecidableEq, Repr

namespace TechnicalAnalysis

/-- The check of a technical analysis; nothing stands for no findings. -/
def check : Check TechnicalAnalysis :=
  record "TechnicalAnalysisResult" <|
    TechnicalAnalysis.mk <$> optional "technical_findings" [] fun value =>
      if value.isNull then .ok [] else list Finding.check value

/-- The analysis as a document. -/
def toJson (analysis : TechnicalAnalysis) : Value :=
  .object [("technical_findings", .array (analysis.findings.map Finding.toJson))]

end TechnicalAnalysis

/-! ### Triage -/

/-- The functions that triage found worth a closer look. -/
structure Triage where
  flagged : List String
  deriving DecidableEq, Repr

namespace Triage

/-- Names of functions, whatever they were written as; blank ones are dropped. -/
def flaggedCheck : Check (List String)
  | .null => .ok []
  | .array items => .ok ((items.map fun item => Text.trimmed item.shown).filter (!·.isEmpty))
  | value => .fault .list value

/-- The check of a triage. -/
def check : Check Triage :=
  record "TriageResult" (Triage.mk <$> optional "potentially_risky_functions" [] flaggedCheck)

/-- The triage as a document. -/
def toJson (triage : Triage) : Value :=
  .object [("potentially_risky_functions", .ofTexts triage.flagged)]

end Triage

/-! ### Scores -/

/-- How certain a score is. -/
inductive Certainty where
  | high
  | medium
  | low
  deriving DecidableEq, Repr

namespace Certainty

/-- The degrees of certainty. -/
def all : List Certainty :=
  [.high, .medium, .low]

/-- The word for a degree. -/
def word : Certainty → String
  | high => "High"
  | medium => "Medium"
  | low => "Low"

/-- The check of a degree: its word in any case. -/
def check : Check Certainty := fun value =>
  choice all word <| match value with
    | .string text => .string (Text.capitalized (Text.trimmed text))
    | other => other

end Certainty

/-- A score from 0 to 100 with its justification. -/
structure ScoreReport where
  score : Int
  justification : String
  certainty : Certainty
  deriving DecidableEq, Repr

/-- A half. -/
def Double.half : Double :=
  .ofRatio false 1 2

/-- The whole number nearest to a number that is finite; a half goes up. The half is added in
binary64 arithmetic, so the sum itself may already have been rounded. -/
def Double.roundHalfUp? (number : Double) : Option Int :=
  (number.add .half).floor?

/-- A number no lower than 0 and no higher than 100. -/
def clampScore (number : Int) : Int :=
  max 0 (min 100 number)

namespace ScoreReport

/-- The number that a value stands for, if it stands for one. A whole number beyond binary64 cannot
be taken at all. -/
def number (value : Value) : Checked (Option Double) :=
  match value with
  | .bool truth => .ok (some (.ofInt (if truth then 1 else 0)))
  | .int whole =>
    let nearest := Double.ofInt whole
    if nearest.isFinite then .ok (some nearest) else .halt .overflow
  | .float number => .ok (some number)
  | .string text => .ok (Numeral.double? text.toList)
  | _ => .ok none

/-- A score, rounded and brought into range. -/
def scoreCheck : Check Int := fun value =>
  (number value).andThen fun number? =>
    match number? with
    | none => rule (.error ("risk_score is not a number: " ++ value.quoted)) value
    | some number =>
      match number.roundHalfUp? with
      | none => rule (.error ("risk_score must be a finite number, got " ++ value.quoted)) value
      | some rounded => .ok (clampScore rounded)

/-- The check of a score report. -/
def check : Check ScoreReport :=
  record "RiskScoreReport" <|
    ScoreReport.mk <$> required "risk_score" scoreCheck <*> optional "justification" "" text
      <*> optional "confidence" .medium Certainty.check

/-- The report as a document. -/
def toJson (report : ScoreReport) : Value :=
  .object [("risk_score", .int report.score), ("justification", .string report.justification),
    ("confidence", .string report.certainty.word)]

end ScoreReport

/-! ### Critiques -/

/-- Whether a report agrees with its findings, and what is to be mended. -/
structure Critique where
  isConsistent : Bool
  feedback : String
  deriving DecidableEq, Repr

namespace Critique

/-- The check of a critique. -/
def check : Check Critique :=
  record "CritiqueResult" <|
    Critique.mk <$> required "is_consistent" truth <*> optional "feedback" "" text

/-- The critique as a document. -/
def toJson (critique : Critique) : Value :=
  .object [("is_consistent", .bool critique.isConsistent), ("feedback", .string critique.feedback)]

end Critique

end MoveAudit
