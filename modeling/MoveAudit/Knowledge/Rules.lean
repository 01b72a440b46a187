/-
This file holds the rules that scores are made by: the points of each severity, the words that
raise or lower a score when a note mentions them, the words that negate such a mention, the bonuses
for findings that come together, and the bounds for a certain score. Every rule has a default, and
a document may replace any of them.
-/

import MoveAudit.Risk.Finding

namespace MoveAudit

open Json Record

/-! ### Keyword rules -/

/-- Words in small letters without blanks around them; blank ones are dropped. -/
def keywordList (words : List String) : List String :=
  (words.filter fun word => !(Text.trimmed word).isEmpty).map fun word =>
    Text.lowered (Text.trimmed word)

/-- A list of words. -/
def keywordCheck : Check (List String) := fun value =>
  (list text value).map keywordList

/-- A rule that changes a finding's points when a note mentions one of its keywords. -/
structure KeywordRule where
  name : String
  delta : Int
  keywords : List String
  severities : List Severity := Severity.all
  deriving DecidableEq, Repr

namespace KeywordRule

/-- The severities of a rule: nothing for all, or whatever the parts of the value name. The first
part that names none is a fault of the whole. -/
def severitiesCheck : Check (List Severity) := fun value =>
  if value.isNull then .ok Severity.all
  else match value.parts with
    | .error _ => .halt .wrongKind
    | .ok parts => rule (parts.mapM fun part =>
        match Severity.ofValue? part with
        | some severity => .ok severity
        | none => .error ("Unknown severity: " ++ part.quoted)) value

/-- The check of a keyword rule. -/
def check : Check KeywordRule :=
  record "KeywordRule" <|
    KeywordRule.mk <$> required "name" text <*> required "delta" whole
      <*> required "keywords" keywordCheck <*> optional "severities" Severity.all severitiesCheck

/-- The rule as a document. -/
def toJson (rule : KeywordRule) : Value :=
  .object [("name", .string rule.name), ("delta", .int rule.delta),
    ("keywords", .ofTexts rule.keywords), ("severities", .ofTexts (rule.severities.map (·.word)))]

end KeywordRule

/-! ### Combinations and certainty -/

/-- The bonuses for findings that come together. -/
structure CombinationRules where
  massThreshold : Int := 90
  massBonus : Int := 5
  clusterMinimum : Int := 3
  clusterBonus : Int := 10
  pauseBonus : Int := 5
  deriving DecidableEq, Repr

namespace CombinationRules

/-- The check of the bonuses. -/
def check : Check CombinationRules :=
  record "CombinationRules" <|
    CombinationRules.mk <$> optional "critical_mass_threshold" 90 whole
      <*> optional "critical_mass_bonus" 5 whole <*> optional "high_cluster_min" 3 whole
      <*> optional "high_cluster_bonus" 10 whole <*> optional "pause_combo_bonus" 5 whole

/-- The bonuses as a document. -/
def toJson (rules : CombinationRules) : Value :=
  .object [("critical_mass_threshold", .int rules.massThreshold),
    ("critical_mass_bonus", .int rules.massBonus), ("high_cluster_min", .int rules.clusterMinimum),
    ("high_cluster_bonus", .int rules.clusterBonus), ("pause_combo_bonus", .int rules.pauseBonus)]

end CombinationRules

/-- The bounds between which a score is less than certain. -/
structure CertaintyRules where
  highFrom : Int := 75
  lowBelow : Int := 25
  deriving DecidableEq, Repr

namespace CertaintyRules

/-- The check of the bounds. -/
def check : Check CertaintyRules :=
  record "ConfidenceRules" <|
    CertaintyRules.mk <$> optional "high_score_min" 75 whole <*> optional "low_score_max" 25 whole

/-- The bounds as a document. -/
def toJson (rules : CertaintyRules) : Value :=
  .object [("high_score_min", .int rules.highFrom), ("low_score_max", .int rules.lowBelow)]

end CertaintyRules

/-! ### All rules -/

/-- The rules that scores are made by. -/
structure ScoringRules where
  points : List (Severity × Int) := [(.critical, 50), (.high, 20), (.medium, 5), (.low, 1)]
  negations : List String := ["no", "not", "without", "lack", "missing"]
  window : Int := 3
  trailingNegations : List String :=
    ["not", "none", "absent", "missing", "lacking", "bypassable"]
  negatingPrefixes : List String := ["non"]
  rules : List KeywordRule := []
  combinations : CombinationRules := {}
  certainty : CertaintyRules := {}
  deriving DecidableEq, Repr

namespace ScoringRules

/-- A whole number out of a value: numbers lose their fraction, texts are read as digits of any
script. -/
def wholeOf (value : Value) : Checked (Except String Int) :=
  match value with
  | .int whole => .ok (.ok whole)
  | .bool truth => .ok (.ok (if truth then 1 else 0))
  | .float number =>
    match number with
    | .nan => .ok (.error "cannot convert float NaN to integer")
    | .infinite _ => .halt .overflow
    | finite => .ok (.ok (finite.truncate?.getD 0))
  | .string text =>
    match Numeral.wholeDigits? text.toList with
    | none => .ok (.error ("invalid literal for int() with base 10: " ++ Text.quoted text))
    | some (negative, digits) =>
      if Numeral.digitLimit < digits.length then
        .ok (.error (ReadError.message text (.tooManyDigits digits.length)))
      else .ok (.ok (Numeral.toInt negative digits))
  | _ => .halt .wrongKind

/-- The points that the members of an object give to severities. A severity that is named twice
keeps its place and takes the later points. -/
def pointsOf (known : List (Severity × Int)) (input : Value) :
    Members → Checked (List (Severity × Int))
  | [] => .ok known
  | (name, points) :: rest =>
    match Severity.ofValue? (.string name) with
    | none => rule (.error ("Unknown severity: " ++ Text.quoted name)) input
    | some severity => (wholeOf points).andThen fun number =>
      match number with
      | .error words => rule (.error words) input
      | .ok number => pointsOf (Entries.put known severity number) input rest

/-- The points of severities. -/
def pointsCheck : Check (List (Severity × Int))
  | .object members => pointsOf [] (.object members) members
  | value => .fault .map value

/-- The check of the rules; what a document leaves out has its default. -/
def check : Check ScoringRules :=
  record "ScoringRules" <|
    ScoringRules.mk <$> optional "severity_points" ({} : ScoringRules).points pointsCheck
      <*> optional "negation_words" ({} : ScoringRules).negations keywordCheck
      <*> optional "negation_window" 3 whole
      <*> optional "trailing_negation_words" ({} : ScoringRules).trailingNegations keywordCheck
      <*> optional "negation_prefixes" ["non"] keywordCheck
      <*> optional "rules" [] (list KeywordRule.check)
      <*> optional "combinations" {} CombinationRules.check
      <*> optional "confidence" {} CertaintyRules.check

/-- The first rule of a name. -/
def rule? (scoring : ScoringRules) (name : String) : Option KeywordRule :=
  scoring.rules.find? (·.name == name)

/-- The rules as a document. -/
def toJson (scoring : ScoringRules) : Value :=
  .object [("severity_points", .object (scoring.points.map fun (severity, points) =>
      (severity.word, .int points))),
    ("negation_words", .ofTexts scoring.negations), ("negation_window", .int scoring.window),
    ("trailing_negation_words", .ofTexts scoring.trailingNegations),
    ("negation_prefixes", .ofTexts scoring.negatingPrefixes),
    ("rules", .array (scoring.rules.map KeywordRule.toJson)),
    ("combinations", scoring.combinations.toJson), ("confidence", scoring.certainty.toJson)]

end ScoringRules

end MoveAudit
