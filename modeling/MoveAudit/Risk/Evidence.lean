/-
This file reviews findings before they are scored. A finding of a known pattern takes the pattern's
identifier and severity, whatever it said itself; its evidence counts as verified when the quoted
snippet, or one of its longer lines, stands in the disassembly, however the blanks in between are
laid out. No finding is dropped; what is odd about one is remarked. A function that a draft warns of
stays only when some finding is about a function of the same short name; all others are dropped and
named.
-/

import MoveAudit.Card.Basic
import MoveAudit.Knowledge.Base
import MoveAudit.Move.Package
import MoveAudit.Text.Basic

namespace MoveAudit.Evidence

open Json Move

/-- Lines shorter than this prove nothing on their own. -/
def lineMinimum : Nat := 8

/-- Whether a snippet, or one of its longer lines, stands in the code. Runs of blanks on either
side count as one space. -/
def isInCode (snippet code : String) : Bool :=
  let text := Text.squeeze code.toList
  let whole := Text.squeeze snippet.toList
  if whole.isEmpty || text.isEmpty then false
  else Text.contains whole text || (Text.lines snippet.toList).any fun line =>
    let flat := Text.squeeze line
    lineMinimum ≤ flat.length && Text.contains flat text

/-- The name of a function without its module, in small letters. -/
def shortName (name : String) : String :=
  String.ofList (Text.lower (Text.trim (Text.lastPiece "::".toList name.toList)))

/-- The code of all modules, each on lines of its own; what is no text is left out. -/
def allCode (disassembly : Members) : String :=
  Text.unlines (disassembly.filterMap fun (_, code) => code.text?)

/-- What is odd about a finding on a function. -/
inductive Remark where
  /-- No pattern goes by the name that the finding gives. -/
  | unknownPattern (function given : String)
  | severityMismatch (function pattern : String) (reported expected : Severity)
  | unknownFunction (function : String)
  deriving DecidableEq, Repr

/-- A finding after review, with what was odd about it. -/
structure Reviewed where
  finding : Finding
  remarks : List Remark
  deriving DecidableEq, Repr

/-- Review one finding against a knowledge base, the names of functions in small letters, and the
code of all modules. -/
def reviewOne (base : KnowledgeBase) (functions : List String) (code : String)
    (finding : Finding) : Reviewed :=
  let pattern? := base.get? finding.patternId
  let patternRemarks := match pattern? with
    | none => [.unknownPattern finding.functionName finding.patternId]
    | some pattern =>
      if pattern.severity = finding.severity then []
      else [.severityMismatch finding.functionName pattern.id finding.severity pattern.severity]
  let functionRemarks :=
    if functions.contains (shortName finding.functionName) then []
    else [.unknownFunction finding.functionName]
  let isVerified := finding.hasEvidence && isInCode finding.snippet code
  let settled := match pattern? with
    | none => finding
    | some pattern => { finding with patternId := pattern.id, severity := pattern.severity }
  ⟨{ settled with isVerified }, patternRemarks ++ functionRemarks⟩

/-- Review findings against a knowledge base and a package. -/
def review (base : KnowledgeBase) (package : Package) (findings : List Finding) :
    List Reviewed :=
  let functions := package.functions.map fun function => Text.lowered function.name
  findings.map (reviewOne base functions (allCode package.disassembly))

/-- The findings after review. -/
def reviewed (base : KnowledgeBase) (package : Package) (findings : List Finding) : List Finding :=
  (review base package findings).map (·.finding)

/-- What was odd, finding by finding. -/
def remarks (base : KnowledgeBase) (package : Package) (findings : List Finding) : List Remark :=
  (review base package findings).flatMap (·.remarks)

end MoveAudit.Evidence

/-! ### What findings back -/

namespace MoveAudit.Draft

/-- Whether some finding is about the function. -/
def isBacked (findings : List Finding) (function : RiskyFunction) : Bool :=
  (findings.map fun finding => Evidence.shortName finding.functionName).contains
    (Evidence.shortName function.name)

/-- The draft with the functions that findings back, in order. -/
def backedBy (findings : List Finding) (draft : Draft) : Draft :=
  { draft with riskyFunctions := draft.riskyFunctions.filter (isBacked findings) }

/-- The names of the functions that no finding backs, in order. -/
def unbacked (findings : List Finding) (draft : Draft) : List String :=
  (draft.riskyFunctions.filter (!isBacked findings ·)).map (·.name)

end MoveAudit.Draft
