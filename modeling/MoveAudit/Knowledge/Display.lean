/-
This file writes a knowledge base as text for the reasoning stages: the patterns with all that is
known of them, and the scoring algorithm in words with every number and word taken from the rules.
A text is only had when each of its numbers is short enough to be spelled.
-/

import MoveAudit.Knowledge.Base
import MoveAudit.Text.Basic

namespace MoveAudit.KnowledgeBase

/-- A number with its sign. -/
def signedText (number : Int) : String :=
  (if 0 ≤ number then "+" else "") ++ Numeral.intText number

/-- The lines on one pattern. -/
def patternLines (pattern : RiskPattern) : List String :=
  ["ID: " ++ pattern.id, "Name: " ++ pattern.name, "Severity: " ++ pattern.severity.word] ++
    (if pattern.description.isEmpty then [] else ["Description: " ++ pattern.description]) ++
    (if pattern.indicators.isEmpty then []
      else "Indicators:" :: pattern.indicators.map ("  - " ++ ·)) ++
    ["Base Score Hint: " ++ Numeral.intText pattern.range.1 ++ "-" ++
      Numeral.intText pattern.range.2 ++ " (Base_Score used for scoring: " ++
      Numeral.intText pattern.points ++ ")"] ++
    (if pattern.modifiers.isEmpty then []
      else "Score Modifiers:" :: pattern.modifiers.map fun modifier =>
        "  (" ++ modifier.direction ++ ") " ++ modifier.description) ++
    [""]

/-- The lines on the patterns of one severity. -/
def severityLines (base : KnowledgeBase) (severity : Severity) : List String :=
  let group := base.patterns.filter (·.severity == severity)
  if group.isEmpty then []
  else ["== " ++ Text.raised severity.word ++ " SEVERITY ==", ""] ++ group.flatMap patternLines

/-- The line that helps to match a pattern. -/
def guideLine (pattern : RiskPattern) : String :=
  "  - " ++ pattern.id ++ ": " ++
    (if pattern.aliases.isEmpty then pattern.name else ", ".intercalate pattern.aliases)

/-- The line on the points of a severity, if it has any. -/
def pointsLine? (scoring : ScoringRules) (severity : Severity) : Option String :=
  (Entries.get? scoring.points severity).map fun points =>
    "  - " ++ severity.word ++ " Findings: +" ++ Numeral.intText points ++ " points each"

/-- The patterns as a text. -/
def displayPatterns (base : KnowledgeBase) : String :=
  Text.unlines <|
    ["# SUI/MOVE SECURITY PATTERNS KNOWLEDGE BASE (v" ++ base.version.display ++ ")", ""] ++
      Severity.all.flatMap base.severityLines ++
      ["== PATTERN MATCHING GUIDE =="] ++ base.patterns.map guideLine ++
      ["", "== SCORING METHODOLOGY (fallback for findings without a known pattern id) =="] ++
      Severity.all.filterMap (pointsLine? base.scoring) ++
      ["  - Maximum Score: 100 (cap)"]

/-- The whole numbers that stand in the text of the patterns. -/
def patternNumbers (base : KnowledgeBase) : List Int :=
  base.version.numbers ++
    (base.patterns.flatMap fun pattern => [pattern.range.1, pattern.range.2, pattern.points]) ++
    Severity.all.filterMap (Entries.get? base.scoring.points)

/-- The text of the patterns, unless one of its numbers is too long to be spelled. -/
def patternText? (base : KnowledgeBase) : Option String :=
  if Numeral.areSpellable base.patternNumbers then some base.displayPatterns else none

/-- Words in double quotes with commas between them. -/
def quotedList (words : List String) : String :=
  ", ".intercalate (words.map fun word => "\"" ++ word ++ "\"")

/-- The line on a keyword rule. -/
def ruleLine (rule : KeywordRule) : String :=
  "      * " ++ rule.name ++ ": if a note mentions any of [" ++ quotedList rule.keywords ++
    "] and the finding severity is " ++ "/".intercalate (rule.severities.map (·.word)) ++
    ", finding_contribution " ++ signedText rule.delta ++ " (at most once per finding)."

/-- The scoring algorithm in words. -/
def displayAlgorithm (scoring : ScoringRules) : String :=
  let window := Numeral.intText scoring.window
  let combinations := scoring.combinations
  Text.unlines <|
    ["1. Initialize Score: current_score = 0.",
      "",
      "2. Iterate Through Findings: for each finding:",
      "   a. Base_Score: look up matched_pattern_id in the Knowledge Base and use its Base_Score.",
      "      Unknown pattern ids use the methodology points for the finding severity.",
      "   b. finding_contribution = Base_Score.",
      "   c. Apply Contextual Modifiers from contextual_notes (case-insensitive):"] ++
    scoring.rules.map ruleLine ++
    ["      * A keyword preceded within " ++ window ++ " words by a negation (" ++
        quotedList scoring.negations ++ ") does not count,",
      "        e.g. \"No obvious mitigations detected\" or \"No timelock detected\" are NOT " ++
        "mitigations.",
      "      * A keyword followed within " ++ window ++ " words by (" ++
        quotedList scoring.trailingNegations ++ ") does not count,",
      "        e.g. \"Timelock is not enforced\" or \"Multi-sig check is absent\" are NOT " ++
        "mitigations.",
      "      * A keyword carrying a negating prefix (" ++
        quotedList (scoring.negatingPrefixes.map (· ++ "-")) ++
        ") does not count, e.g. \"non-generic\".",
      "      * Negations only apply within the same clause (up to the nearest . , ; ! ?).",
      "   d. current_score += finding_contribution.",
      "",
      "3. Combination Effects (after all findings, in this order):",
      "   * Critical Mass: if current_score >= " ++ Numeral.intText combinations.massThreshold ++
        ": current_score += " ++ Numeral.intText combinations.massBonus ++ ".",
      "   * High Risk Cluster: if the number of High findings >= " ++
        Numeral.intText combinations.clusterMinimum ++
        " AND there are no Critical findings: current_score += " ++
        Numeral.intText combinations.clusterBonus ++ ".",
      "   * Pausable + X: if a pausing pattern finding exists AND any other High/Critical " ++
        "finding exists: current_score += " ++ Numeral.intText combinations.pauseBonus ++ ".",
      "",
      "4. Final Score: final_score = max(0, min(100, round_half_up(current_score))).",
      "",
      "5. Confidence:",
      "   * High if final_score >= " ++ Numeral.intText scoring.certainty.highFrom ++
        " with at least one Critical/High finding and no finding that is complex/conditional or " ++
        "mitigated.",
      "   * High if final_score < " ++ Numeral.intText scoring.certainty.lowBelow ++
        " and every finding is Low severity or mitigated.",
      "   * Otherwise Medium.",
      "",
      "6. Justification: list every base score, every modifier applied, every combination " ++
        "effect, the total before clamping and the final score."]

/-- The whole numbers that stand in the text of the algorithm. -/
def algorithmNumbers (scoring : ScoringRules) : List Int :=
  let combinations := scoring.combinations
  scoring.rules.map (·.delta) ++
    [scoring.window, combinations.massThreshold, combinations.massBonus,
      combinations.clusterMinimum, combinations.clusterBonus, combinations.pauseBonus,
      scoring.certainty.highFrom, scoring.certainty.lowBelow]

/-- The text of the algorithm, unless one of its numbers is too long to be spelled. -/
def algorithmText? (scoring : ScoringRules) : Option String :=
  if Numeral.areSpellable (algorithmNumbers scoring) then some (displayAlgorithm scoring) else none

end MoveAudit.KnowledgeBase
