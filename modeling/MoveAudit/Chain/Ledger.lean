/-
This file holds ledgers: what a node knows, and how it answers each question about it. A ledger
knows packages, the definitions of structs, and pages of transactions that it gives out one by one.
-/

import MoveAudit.Json.Value

namespace MoveAudit.Chain

open Json

/-- The body of a response. -/
inductive Body where
  | value (value : Value)
  /-- The body is no JSON. -/
  | undecodable (words : String)

/-- What comes back when a node is asked. -/
inductive Delivery where
  | response (status : Int) (body : Body)
  /-- The connection failed. -/
  | failed (words : String)
  | late
  /-- Nothing comes back any more. -/
  | exhausted

/-- What a ledger knows of a package. -/
inductive Listing where
  | content (modules disassembled owner kind : Value)
  /-- Asking for it breaks the connection. -/
  | unreachable (words : String)

/-- What a node knows. -/
structure Ledger where
  packages : List (String × Listing) := []
  structs : Members := []
  pages : List Value := []

namespace Ledger

/-- A response that gives a result. -/
def result (value : Value) : Delivery :=
  .response 200 (.value (.object [("jsonrpc", .string "2.0"), ("result", value)]))

/-- A response that refuses the question. -/
def refusal : Delivery :=
  .response 200 (.value (.object [("jsonrpc", .string "2.0"),
    ("error", .object [("code", .int (-32602)), ("message", .string "Invalid params")])]))

/-- The answer on an object. -/
def object : Listing → Delivery
  | .unreachable words => .failed words
  | .content _ disassembled owner kind =>
    result (.object [("data", .object [("owner", owner), ("content",
      .object [("dataType", kind), ("disassembled", disassembled)])])])

/-- The answer on an object that is not known. -/
def noObject : Delivery :=
  result (.object [("error", .object [("code", .string "notExists")])])

/-- The answer on the modules of a package. -/
def modules : Listing → Delivery
  | .unreachable words => .failed words
  | .content modules _ _ _ => result modules

/-- The answer to a question with parameters. -/
def answer (method : String) (params : List Value) (ledger : Ledger) : Delivery × Ledger :=
  let words := params.map fun param => param.text?.getD ""
  let listing? := Entries.get? ledger.packages (words.head?.getD "")
  match method with
  | "sui_getObject" => ((listing?.map object).getD noObject, ledger)
  | "sui_getNormalizedMoveModulesByPackage" => ((listing?.map modules).getD refusal, ledger)
  | "sui_getNormalizedMoveStruct" =>
    match Entries.get? ledger.structs ("::".intercalate words) with
    | some definition => (result definition, ledger)
    | none => (refusal, ledger)
  | "suix_queryTransactionBlocks" =>
    match ledger.pages with
    | page :: rest => (result page, { ledger with pages := rest })
    | [] => (.exhausted, ledger)
  | _ => (refusal, ledger)

end Ledger

end MoveAudit.Chain
