/-
This file applies the patterns to every public function of a package. A pattern counts once for
each function name of a module, and the report lists the hits worst first, hits of one severity
in the order in which they were found.
-/

import MoveAudit.Listing.Basic
import MoveAudit.Static.Catalogue
import MoveAudit.Text.Basic

namespace MoveAudit.Static

open Json Move

/-- A pattern found in a function. -/
structure Hit where
  pattern : String
  severity : Severity
  module : String
  function : String
  evidence : String
  description : String
  confidence : Confidence
  deriving DecidableEq, Repr

/-- The function with its module. -/
def Hit.qualifiedName (hit : Hit) : String :=
  hit.module ++ "::" ++ hit.function

/-- The hit as a document. -/
def Hit.toJson (hit : Hit) : Value :=
  .object [("pattern_id", .string hit.pattern), ("severity", .string hit.severity.word),
    ("function", .string hit.qualifiedName), ("evidence", .string hit.evidence),
    ("description", .string hit.description), ("confidence", .string hit.confidence.word)]

/-- What the patterns found in a package. -/
structure Report where
  hits : List Hit
  /-- The modules of the functions looked at, in order of first appearance. -/
  modules : List String
  deriving DecidableEq, Repr

/-- The code of a module's disassembly. What counts as empty is no code; what is neither that nor
a text cannot be read. -/
def code (written : Value) : Except ShapeFault (List Char) :=
  match written with
  | .string text => .ok text.toList
  | other => if other.isFull then .error .wrongKind else .ok []

/-- The functions of a module's disassembly. -/
def moduleBodies (disassembly : Members) (module : String) :
    Except ShapeFault (List (String × List Char)) := do
  let text ← code ((Entries.get? disassembly module).getD (.string ""))
  return Listing.bodies text

/-- The hit of a pattern in a function, if there is one. -/
def hit? (body : List Char) (function : Function) (pattern : Pattern) : Option Hit :=
  (pattern.check body function).map fun (evidence, confidence) =>
    ⟨pattern.id, pattern.severity, function.module, function.name, evidence,
      pattern.description, confidence⟩

/-- Whether two hits are of one pattern in functions of one name in one module. -/
def Hit.sameAs (a b : Hit) : Bool :=
  a.pattern == b.pattern && a.module == b.module && a.function == b.function

/-- The hits in a function added to those known, save those that are known already. -/
def addHits (patterns : List Pattern) (known : List Hit) (body : List Char)
    (function : Function) : List Hit :=
  patterns.foldl (fun known pattern =>
    match hit? body function pattern with
    | some hit => if known.any (hit.sameAs ·) then known else known ++ [hit]
    | none => known) known

/-- The hits in functions, in the order in which they are found. -/
def findHits (patterns : List Pattern) (disassembly : Members) (known : List Hit) :
    List Function → Except ShapeFault (List Hit)
  | [] => .ok known
  | function :: rest => do
    let bodies ← moduleBodies disassembly function.module
    findHits patterns disassembly
      (addHits patterns known (Listing.bodyOf bodies function.name) function) rest

/-- Hits in order of severity, worst first; equal ones keep their order. -/
def worstFirst (hits : List Hit) : List Hit :=
  hits.mergeSort fun a b => a.severity.rank ≤ b.severity.rank

/-- Apply patterns to a package. -/
def analyseWith (patterns : List Pattern) (package : Package) : Except ShapeFault Report := do
  let hits ← findHits patterns package.disassembly [] package.functions
  return ⟨worstFirst hits, Entries.distinct (package.functions.map (·.module))⟩

/-- Apply all patterns to a package. -/
def analyse (package : Package) : Except ShapeFault Report :=
  analyseWith catalogue package

namespace Report

/-- How many hits have a severity. -/
def countOf (report : Report) (severity : Severity) : Nat :=
  (report.hits.filter (·.severity == severity)).length

/-- How many hits there are of each severity, worst first. -/
def counts (report : Report) : List (Severity × Nat) :=
  Severity.all.map fun severity =>
    (severity, report.countOf severity)

/-- The names of the functions with a hit, each once. -/
def flagged (report : Report) : List String :=
  Entries.distinct (report.hits.map (·.function))

/-- The report as a document. -/
def members (report : Report) : Members :=
  [("findings", .array (report.hits.map Hit.toJson)),
    ("counts", .object (report.counts.map fun (severity, count) =>
      (severity.word, .int count))),
    ("flagged", .ofTexts report.flagged), ("modules", .ofTexts report.modules),
    ("checked", .int catalogue.length)]

/-- The lines on one hit. -/
def hitLines (hit : Hit) : List String :=
  ["- [" ++ hit.severity.word ++ "] " ++ hit.pattern, "  Function: " ++ hit.qualifiedName,
    "  Evidence: " ++ hit.evidence, "  Confidence: " ++ hit.confidence.word, ""]

/-- The report as a block of text. -/
def display (report : Report) : String :=
  if report.hits.isEmpty then "No static patterns detected."
  else Text.trimmedEnd <| Text.unlines <|
    ["Static Analysis detected " ++ toString report.hits.length ++ " pattern(s):", ""] ++
      report.hits.flatMap hitLines

end Report

/-- The block of text on an analysis that may not have been made. -/
def displayOption (report : Option Report) : String :=
  match report with
  | some report => report.display
  | none => "No static analysis performed."

end MoveAudit.Static
