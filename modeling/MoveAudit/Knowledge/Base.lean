/-
This file holds the knowledge base: the known risk patterns with their points, and the scoring
rules. A pattern is found under its identifier in any case, or else under one of its aliases in
any case; identifiers go before aliases. A document for a knowledge base is refused as a whole
when any part of it is not in order or when two patterns have one identifier.
-/

import MoveAudit.Knowledge.Rules

namespace MoveAudit

open Json Record

/-! ### Patterns -/

/-- What raises or lowers the points of a pattern, for the reader. -/
structure Modifier where
  direction : String
  description : String
  deriving DecidableEq, Repr

namespace Modifier

/-- The direction of a modifier: a sign, with blanks around it. -/
def directionCheck : Check String := fun value =>
  (text value).andThen fun written =>
    let kept := Text.trimmed written
    rule (if kept == "+" || kept == "-" then .ok kept
      else .error ("modifier direction must be '+' or '-', got " ++ Text.quoted kept)) value

/-- The check of a modifier. -/
def check : Check Modifier :=
  record "PatternModifier" <|
    Modifier.mk <$> required "direction" directionCheck <*> required "description" text

/-- The modifier as a document. -/
def toJson (modifier : Modifier) : Value :=
  .object [("direction", .string modifier.direction),
    ("description", .string modifier.description)]

end Modifier

/-- A known risk pattern. -/
structure RiskPattern where
  id : String
  name : String
  severity : Severity
  /-- The points that the pattern may stand for, from the first to the second. -/
  range : Int × Int
  /-- The points that the pattern stands for. -/
  points : Int
  description : String := ""
  indicators : List String := []
  aliases : List String := []
  modifiers : List Modifier := []
  /-- Whether the pattern lets someone halt the package. -/
  isPausing : Bool := false
  deriving DecidableEq, Repr

namespace RiskPattern

/-- The spelling of a range in messages. -/
def displayRange (range : Int × Int) : String :=
  "(" ++ Numeral.intText range.1 ++ ", " ++ Numeral.intText range.2 ++ ")"

/-- What is said of whole numbers, or that one of them is too long for anything to be said. -/
def saidOf (numbers : List Int) (message : String) : String :=
  if Numeral.areSpellable numbers then message else Numeral.unspellable

/-- The points of a pattern: those given, if they lie in the range, or the middle of the range. The
range itself has to lie between 0 and 100. -/
def pointsIn (id : String) (range : Int × Int) (given : Option Int) : Except String Int :=
  let (low, high) := range
  if !(0 ≤ low && low ≤ high && high ≤ 100) then
    .error (saidOf [low, high] (id ++ ": invalid base_score_range " ++ displayRange range))
  else match given with
    | none => .ok ((low + high).fdiv 2)
    | some points =>
      if low ≤ points && points ≤ high then .ok points
      else .error (saidOf [points] (id ++ ": base_score " ++ Numeral.intText points ++
        " outside " ++ displayRange range))

/-- A pattern whose points are still to be settled. -/
abbrev Unsettled := Option Int × RiskPattern

/-- The check of the fields of a pattern. -/
def fieldsCheck : Check Unsettled :=
  record "RiskPattern" <|
    (fun id name severity range points description indicators aliases modifiers isPausing =>
        (points, ⟨id, name, severity, range, 0, description, indicators, aliases, modifiers,
          isPausing⟩))
      <$> required "pattern_id" (fun value => .ok (Text.raised (Text.trimmed value.shown)))
      <*> required "name" text <*> required "severity" Severity.check
      <*> required "base_score_range" (pair whole) <*> optional "base_score" none (nullable whole)
      <*> optional "description" "" text <*> optional "indicators" [] (list text)
      <*> optional "aliases" [] (list text) <*> optional "modifiers" [] (list Modifier.check)
      <*> optional "pausing" false truth

/-- The check of a pattern. -/
def check : Check RiskPattern := fun value =>
  (fieldsCheck value).andThen fun (given, pattern) =>
    (rule (pointsIn pattern.id pattern.range given) value).map fun points =>
      { pattern with points }

/-- The pattern as a document. -/
def toJson (pattern : RiskPattern) : Value :=
  .object [("pattern_id", .string pattern.id), ("name", .string pattern.name),
    ("severity", .string pattern.severity.word),
    ("base_score_range", .array [.int pattern.range.1, .int pattern.range.2]),
    ("base_score", .int pattern.points), ("description", .string pattern.description),
    ("indicators", .ofTexts pattern.indicators), ("aliases", .ofTexts pattern.aliases),
    ("modifiers", .array (pattern.modifiers.map Modifier.toJson)),
    ("pausing", .bool pattern.isPausing)]

end RiskPattern

/-! ### The knowledge base -/

/-- The version of a knowledge base. -/
inductive Version where
  | number (number : Int)
  | name (name : String)
  deriving DecidableEq, Repr

namespace Version

/-- The check of a version: a text as it is, or else a whole number. -/
def check : Check Version := fun value =>
  match value with
  | .string text => .ok (.name text)
  | other =>
    match whole other with
    | .ok value => .ok (.number value)
    | .halt reason => .halt reason
    | .faults found =>
      (Checked.faults found).under (.name "int") |>.both (fun _ =>
        (Checked.fault .text other : Checked Unit).under (.name "str")) |>.map fun (version, _) =>
          version

/-- The whole numbers in a version. -/
def numbers : Version → List Int
  | .number value => [value]
  | .name _ => []

/-- The version as it reads in a text. -/
def display : Version → String
  | .number value => Numeral.intText value
  | .name text => text

/-- The version as a document. -/
def toJson : Version → Value
  | .number value => .int value
  | .name text => .string text

end Version

/-- The known patterns and the scoring rules. -/
structure KnowledgeBase where
  version : Version
  patterns : List RiskPattern
  scoring : ScoringRules
  deriving DecidableEq, Repr

/-- Why a document makes no knowledge base. -/
inductive KnowledgeFault where
  | invalid (faults : List Fault)
  | duplicate (id : String)
  | halt (halt : Halt)
  /-- The text of the document cannot be read. -/
  | unreadable

namespace KnowledgeBase

/-- The check of a knowledge base's document. -/
def check : Check KnowledgeBase :=
  record "KnowledgeBaseDocument" <|
    KnowledgeBase.mk <$> optional "version" (.number 1) Version.check
      <*> required "patterns" (list RiskPattern.check) <*> optional "scoring" {} ScoringRules.check

/-- The first identifier that stands for two patterns. -/
def duplicate? : List RiskPattern → List String → Option String
  | [], _ => none
  | pattern :: rest, seen =>
    if seen.contains pattern.id then some pattern.id else duplicate? rest (pattern.id :: seen)

/-- The knowledge base that a document describes. -/
def ofDocument (document : Value) : Except KnowledgeFault KnowledgeBase :=
  match check document with
  | .halt reason => .error (.halt reason)
  | .faults found => .error (.invalid found)
  | .ok base =>
    match duplicate? base.patterns [] with
    | some id => .error (.duplicate id)
    | none => .ok base

/-- The knowledge base that a text describes, by a reader of documents; a text that holds nothing
stands for a document without members. -/
def ofText (read : String → Option Value) (text : String) :
    Except KnowledgeFault KnowledgeBase :=
  match read text with
  | some document => ofDocument (document.full?.getD (.object []))
  | none => .error .unreadable

/-- The aliases in small letters, each with the identifier of the pattern that declared it last. -/
def aliases (base : KnowledgeBase) : List (String × String) :=
  Entries.ofList <| base.patterns.flatMap fun pattern =>
    pattern.aliases.map fun name => (Text.lowered name, pattern.id)

/-- The pattern of an identifier, exactly as it is kept. -/
def byId? (base : KnowledgeBase) (id : String) : Option RiskPattern :=
  base.patterns.find? (·.id == id)

/-- The pattern that a name stands for: an identifier or an alias, in any case and with blanks
around it. -/
def get? (base : KnowledgeBase) (name : String) : Option RiskPattern :=
  let key := Text.trimmed name
  match base.byId? (Text.raised key) with
  | some pattern => some pattern
  | none =>
    ((Entries.get? base.aliases (Text.lowered key)).filter (!·.isEmpty)).bind base.byId?

/-- The points of a finding before any modifier, and whether they come from a known pattern. -/
def pointsFor (base : KnowledgeBase) (name : String) (severity : Severity) : Int × Bool :=
  match base.get? name with
  | some pattern => (pattern.points, true)
  | none => ((Entries.get? base.scoring.points severity).getD 0, false)

/-- Whether a name stands for a pattern that lets someone halt the package. -/
def isPausing (base : KnowledgeBase) (name : String) : Bool :=
  (base.get? name).any (·.isPausing)

end KnowledgeBase

end MoveAudit
