/-
This file scores a list of findings. Each finding contributes the points of its pattern and the
deltas of the keyword rules that one of its notes sets off; findings that come together add a
bonus; the total is brought between 0 and 100. A score is certain when it is high on the strength
of severe findings with nothing that weakens them, or low with nothing severe left. There is no
score where the total is beyond what it is rounded in, and none where a number is too long to be
spelled: the bonus for the critical mass spells what it compares, and a report all numbers.
-/

import MoveAudit.Knowledge.Base
import MoveAudit.Scoring.Mention
import MoveAudit.Text.Basic

namespace MoveAudit.Scoring

/-! ### Contributions -/

/-- A keyword rule applied to a finding, with the note that set it off. -/
structure Applied where
  rule : String
  delta : Int
  note : String
  deriving DecidableEq, Repr

/-- What a finding adds to the score. -/
structure Contribution where
  finding : Finding
  base : Int
  isKnown : Bool
  applied : List Applied
  deriving DecidableEq, Repr

/-- The sum of points. -/
def sumOf (points : List Int) : Int :=
  points.foldr (· + ·) 0

namespace Contribution

/-- The points of a contribution with its deltas. -/
def total (contribution : Contribution) : Int :=
  contribution.base + sumOf (contribution.applied.map (·.delta))

/-- Whether a rule of this name was applied. -/
def hasRule (contribution : Contribution) (name : String) : Bool :=
  contribution.applied.any (·.rule == name)

/-- Whether something keeps the finding in check. -/
def isMitigated (contribution : Contribution) : Bool :=
  contribution.hasRule "mitigation"

/-- Whether the finding rests on complex conditions. -/
def isComplex (contribution : Contribution) : Bool :=
  contribution.hasRule "complex_logic"

/-- The contribution as a document. -/
def toJson (contribution : Contribution) : Json.Value :=
  .object [("function", .string contribution.finding.functionName), ("base", .int contribution.base),
    ("from_pattern", .bool contribution.isKnown),
    ("modifiers", .array (contribution.applied.map fun applied =>
      .array [.string applied.rule, .int applied.delta, .string applied.note])),
    ("total", .int contribution.total), ("mitigated", .bool contribution.isMitigated),
    ("complex", .bool contribution.isComplex)]

end Contribution

/-- The words that deny a keyword under scoring rules. -/
def denialOf (scoring : ScoringRules) : Denial :=
  ⟨scoring.negations, scoring.trailingNegations, scoring.window, scoring.negatingPrefixes⟩

/-- The first note of a finding that affirms one of a rule's keywords. -/
def noteFor? (scoring : ScoringRules) (rule : KeywordRule) (finding : Finding) : Option String :=
  if rule.severities.contains finding.severity then
    finding.notes.find? fun note => rule.keywords.any (affirms (denialOf scoring) note)
  else none

/-- The rules that a finding's notes set off. -/
def appliedTo (scoring : ScoringRules) (finding : Finding) : List Applied :=
  scoring.rules.filterMap fun rule =>
    (noteFor? scoring rule finding).map fun note => ⟨rule.name, rule.delta, note⟩

/-- What a finding adds to the score. -/
def contributionOf (base : KnowledgeBase) (finding : Finding) : Contribution :=
  let (points, isKnown) := base.pointsFor finding.patternId finding.severity
  ⟨finding, points, isKnown, appliedTo base.scoring finding⟩

/-! ### Combinations -/

/-- A bonus for findings that come together. -/
structure Effect where
  name : String
  bonus : Int
  reason : String
  deriving DecidableEq, Repr

/-- How many contributions have a severity. -/
def countOf (severity : Severity) (contributions : List Contribution) : Nat :=
  (contributions.filter (·.finding.severity == severity)).length

/-- Whether a pausing finding and a severe one stand at two different places. -/
def pausesBesideSevere (isPausing : Finding → Bool) : List Finding → Bool
  | [] => false
  | finding :: rest =>
    (isPausing finding && rest.any (·.severity.isSevere)) ||
      (finding.severity.isSevere && rest.any isPausing) || pausesBesideSevere isPausing rest

/-- The bonus for a sum that has reached the critical mass. -/
def massEffect? (rules : CombinationRules) (sum : Int) : Option Effect :=
  if rules.massThreshold ≤ sum then
    some ⟨"critical_mass", rules.massBonus,
      "score " ++ Numeral.intText sum ++ " >= " ++ Numeral.intText rules.massThreshold⟩
  else none

/-- The bonus for a cluster of findings of high severity without a critical one. -/
def clusterEffect? (rules : CombinationRules) (contributions : List Contribution) :
    Option Effect :=
  let high := countOf .high contributions
  if rules.clusterMinimum ≤ high && countOf .critical contributions == 0 then
    some ⟨"high_risk_cluster", rules.clusterBonus,
      toString high ++ " High findings and no Critical findings"⟩
  else none

/-- The bonus for a pausing finding beside a severe one. -/
def pauseEffect? (base : KnowledgeBase) (findings : List Finding) : Option Effect :=
  if pausesBesideSevere (fun finding => base.isPausing finding.patternId) findings then
    some ⟨"pausable_plus_x", base.scoring.combinations.pauseBonus,
      "pausing finding co-occurs with another High/Critical finding"⟩
  else none

/-! ### The score -/

/-- How a score came about. -/
structure Breakdown where
  contributions : List Contribution
  sum : Int
  effects : List Effect
  total : Int
  score : Int
  certainty : Certainty
  reason : String
  deriving DecidableEq, Repr

/-- How certain a score is, and why. -/
def certaintyOf (rules : CertaintyRules) (contributions : List Contribution) (score : Int) :
    Certainty × String :=
  let hasSevere := contributions.any (·.finding.severity.isSevere)
  let isWeakened := contributions.any fun c => c.isComplex || c.isMitigated
  if rules.highFrom ≤ score && hasSevere && !isWeakened then
    (.high, "high score backed by Critical/High findings without mitigations or complex logic")
  else if score < rules.lowBelow &&
      contributions.all fun c => c.finding.severity == .low || c.isMitigated then
    (.high, "low score and only Low-severity or mitigated findings")
  else (.medium, "mixed evidence")

/-- The whole number that a total is rounded to, a half going up. The rounding is done in binary64;
a total beyond its range stays as it is. -/
def roundTotal (total : Int) : Int :=
  (Double.ofInt total).roundHalfUp?.getD total

/-- The score of findings, with how it came about. -/
def breakdown (base : KnowledgeBase) (findings : List Finding) : Breakdown :=
  let contributions := findings.map (contributionOf base)
  let sum := sumOf (contributions.map (·.total))
  let rules := base.scoring.combinations
  let effects := (massEffect? rules sum).toList ++ (clusterEffect? rules contributions).toList ++
    (pauseEffect? base findings).toList
  let total := sum + sumOf (effects.map (·.bonus))
  let score := clampScore (roundTotal total)
  let judged := certaintyOf base.scoring.certainty contributions score
  ⟨contributions, sum, effects, total, score, judged.1, judged.2⟩

namespace Breakdown

/-- The line on a contribution's base points. -/
def baseLine (contribution : Contribution) : String :=
  let finding := contribution.finding
  let source := if contribution.isKnown then "knowledge base"
    else "methodology points for " ++ finding.severity.word
  "  - " ++ finding.functionName ++ " [" ++
    (if finding.patternId.isEmpty then "UNKNOWN" else finding.patternId) ++ ", " ++
    finding.severity.word ++ "]: base " ++ Numeral.intText contribution.base ++ " (" ++ source ++ ")"

/-- The lines on a contribution's deltas. -/
def deltaLines (contribution : Contribution) : List String :=
  contribution.applied.map fun applied =>
    "  - " ++ contribution.finding.functionName ++ ": " ++ (if 0 ≤ applied.delta then "+" else "") ++
      Numeral.intText applied.delta ++ " " ++ applied.rule ++ " (note: \"" ++ applied.note ++ "\")"

/-- Lines, or one line instead when there are none. -/
def orElse (lines : List String) (instead : String) : List String :=
  if lines.isEmpty then [instead] else lines

/-- The account of the score, step by step. -/
def justification (breakdown : Breakdown) : String :=
  let contributions := breakdown.contributions
  Text.unlines <|
    ["Step 1 - Base scores:"] ++
      orElse (contributions.map baseLine) "  - No technical findings; score starts at 0." ++
    ["Step 2 - Contextual modifiers:"] ++
      orElse (contributions.flatMap deltaLines) "  - None applied." ++
    ["Step 3 - Sum of contributions: " ++
        (if contributions.isEmpty then "0"
          else " + ".intercalate (contributions.map fun c => Numeral.intText c.total)) ++
        " = " ++ Numeral.intText breakdown.sum,
      "Step 4 - Combination effects:"] ++
      orElse (breakdown.effects.map fun effect =>
        "  - " ++ effect.name ++ ": +" ++ Numeral.intText effect.bonus ++
          " (" ++ effect.reason ++ ")") "  - None applied." ++
    ["Step 5 - Total before clamping: " ++ Numeral.intText breakdown.total ++ "; final score: " ++
        Numeral.intText breakdown.score,
      "Step 6 - Confidence: " ++ breakdown.certainty.word ++ " (" ++ breakdown.reason ++ ")"]

/-- The score as a report. -/
def toReport (breakdown : Breakdown) : ScoreReport :=
  ⟨breakdown.score, breakdown.justification, breakdown.certainty⟩

/-- The whole numbers that stand in the account of the score. -/
def numbers (breakdown : Breakdown) : List Int :=
  (breakdown.contributions.flatMap fun contribution =>
    contribution.base :: contribution.total :: contribution.applied.map (·.delta)) ++
  [breakdown.sum, breakdown.total, breakdown.score] ++ breakdown.effects.map (·.bonus)

/-- Whether the total is within the range of binary64, in which it is rounded. -/
def isInRange (breakdown : Breakdown) : Bool :=
  (Double.ofInt breakdown.total).isFinite

end Breakdown

/-- Why findings have no score. -/
inductive Fault where
  /-- The total is beyond the range of binary64. -/
  | overflow
  /-- A number is too long to be spelled. -/
  | unspellable
  deriving DecidableEq, Repr

/-- The fault in words. -/
def Fault.message : Fault → String
  | overflow => "int too large to convert to float"
  | unspellable => Numeral.unspellable

/-- The word for the kind of a fault. -/
def Fault.kind : Fault → String
  | overflow => "OverflowError"
  | unspellable => "ValueError"

/-- Whether a sum falls short of the critical mass, or can be spelled beside it. -/
def isMassTold (rules : CombinationRules) (sum : Int) : Bool :=
  sum < rules.massThreshold || Numeral.areSpellable [sum, rules.massThreshold]

/-- How the score of findings comes about, if they have one. -/
def account (base : KnowledgeBase) (findings : List Finding) : Except Fault Breakdown :=
  let result := breakdown base findings
  if !isMassTold base.scoring.combinations result.sum then .error .unspellable
  else if !result.isInRange then .error .overflow
  else .ok result

/-- The score as a report, if all of its account can be spelled. -/
def Breakdown.report (breakdown : Breakdown) : Except Fault ScoreReport :=
  if Numeral.areSpellable breakdown.numbers then .ok breakdown.toReport else .error .unspellable

/-- The score report on findings. -/
def report (base : KnowledgeBase) (findings : List Finding) : Except Fault ScoreReport := do
  (← account base findings).report

end MoveAudit.Scoring
