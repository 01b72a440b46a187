/-
This file holds the patterns that are looked for before any reasoning. A pattern looks at three
things in turn: the types of a function's parameters, which settle the matter; the traces in the
function's disassembly; and a test of name, parameters and disassembly together. The first that
hits gives the evidence.
-/

import MoveAudit.Move.Package
import MoveAudit.Risk.Severity
import MoveAudit.Static.Trace

namespace MoveAudit.Static

open Move

/-- How sure a hit is. -/
inductive Confidence where
  | definite
  | likely
  | possible
  deriving DecidableEq, Repr

/-- The word for a confidence in reports. -/
def Confidence.word : Confidence → String
  | definite => "definite"
  | likely => "likely"
  | possible => "possible"

/-- Parameters that a pattern takes for proof: any whose type mentions one of the words. -/
structure TakenType where
  label : String
  words : List String

/-- Tests of a function's name and parameters together with its disassembly. -/
inductive Combined where
  /-- A withdrawal that is generic in the type of coin. -/
  | genericDrain
  /-- A transfer of coins to an address that the caller gives. -/
  | coinToAddress
  /-- A shared object that is changed without a capability. -/
  | mutationWithoutCapability
  /-- A function named for setting fees. -/
  | feeSetter
  /-- A critical operation that emits no event. -/
  | missingEvents

/-- A pattern: an identifier, a severity, what it means, and what it looks for. -/
structure Pattern where
  id : String
  severity : Severity
  description : String
  traces : List Trace := []
  takes? : Option TakenType := none
  combined? : Option Combined := none

/-- Names of functions that take funds out. -/
def withdrawWords : List String :=
  ["withdraw", "drain", "sweep", "collect", "extract", "remove"]

/-- Names of functions that set fees. -/
def feeWords : List String :=
  ["set_fee", "update_fee", "change_fee", "set_rate", "update_rate",
    "setfee", "updatefee", "changefee", "setrate", "updaterate"]

/-- Names of critical operations. -/
def criticalWords : List String :=
  ["withdraw", "transfer", "mint", "burn", "upgrade", "pause"]

/-- The full name of the transaction context, which is no shared object. -/
def transactionContext : String :=
  "0x2::tx_context::TxContext"

/-- Whether a function's name holds one of the words, in any case. -/
def nameHas (function : Function) (words : List String) : Bool :=
  words.any (Text.includes · (Text.lowered function.name))

/-- The first parameter whose type mentions one of the words, in any case. -/
def firstTaking? (function : Function) (words : List String) : Option Param :=
  function.params.find? fun param => words.any (Text.includes · (Text.lowered param.display))

/-- Whether a text is a type parameter alone; one line feed may follow it. -/
def isTypeParameter (text : String) : Bool :=
  match text.toList with
  | 'T' :: rest =>
    !(rest.takeWhile Text.isDigit).isEmpty &&
      (rest.dropWhile Text.isDigit == [] || rest.dropWhile Text.isDigit == ['\n'])
  | _ => false

/-- What follows coins or a balance of a generic type at the start of a text. -/
def afterGenericFunds? (text : List Char) : Option (List Char) := do
  let rest ← ["Coin<T", "Balance<T"].findSome? fun word => Text.after? word.toList text
  if (rest.takeWhile Text.isDigit).isEmpty then none
  else Text.after? ['>'] (rest.dropWhile Text.isDigit)

/-- The sentence of a combined test on a function, when it hits. -/
def Combined.evidence? (body : List Char) (function : Function) : Combined → Option String
  | genericDrain =>
    if !nameHas function withdrawWords || function.typeParameterCount == 0 then none
    else
      match function.params.find? fun param =>
          ["Coin", "Balance"].contains param.structName && param.typeArguments.any isTypeParameter with
      | some param => some ("Generic withdraw function " ++ function.name ++ " accepts " ++
          param.display ++ " for any coin type")
      | none =>
        if (firstPlace? afterGenericFunds? body).isSome then
          some ("Generic withdraw function " ++ function.name ++
            " moves Coin<T>/Balance<T> for any coin type")
        else none
  | coinToAddress =>
    if (function.params.any fun param =>
          param.kind == .primitive && Text.lowered (param.text?.getD "") == "address") &&
        Text.contains "coin::".toList body && Text.contains "transfer::".toList body then
      some ("Function " ++ function.name ++ " transfers coins to an address parameter")
    else none
  | mutationWithoutCapability =>
    match function.params.find? fun param =>
        param.kind == .reference && param.isMutable? == some true &&
          param.structId?.any fun id => !id.isEmpty && id != transactionContext with
    | some param =>
      if (firstTaking? function ["cap", "admin", "owner"]).isSome then none
      else some ("Function " ++ function.name ++ " mutates " ++ param.display ++
        " without a capability parameter")
    | none => none
  | feeSetter =>
    if nameHas function feeWords then
      some ("Function " ++ function.name ++ " can modify fee parameters")
    else none
  | missingEvents =>
    if !body.isEmpty && nameHas function criticalWords &&
        !Text.contains "event::emit".toList body then
      some ("Critical function " ++ function.name ++ " does not emit events")
    else none

/-- Evidence longer than this is cut. -/
def excerptLimit : Nat := 160

/-- A text on one line, cut at the limit. -/
def excerpt (text : List Char) : String :=
  let flat := Text.squeeze text
  if flat.length ≤ excerptLimit then String.ofList flat
  else String.ofList (flat.take excerptLimit) ++ "..."

/-- The evidence for a pattern in a function, and how sure it is. -/
def Pattern.check (pattern : Pattern) (body : List Char) (function : Function) :
    Option (String × Confidence) :=
  let taken := pattern.takes?.bind fun taken =>
    (firstTaking? function taken.words).map fun param =>
      "Function " ++ function.name ++ " takes " ++ param.display ++ " (" ++ taken.label ++ ")"
  match taken with
  | some evidence => some (evidence, .definite)
  | none =>
    match if body.isEmpty then none else pattern.traces.findSome? (·.match? body) with
    | some found => some ("Bytecode pattern matched: \"" ++ excerpt found ++ "\"", .likely)
    | none => (pattern.combined?.bind (·.evidence? body function)).map (·, .likely)

end MoveAudit.Static
