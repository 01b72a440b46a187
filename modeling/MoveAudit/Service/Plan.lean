/-
This file holds the plan that a service works by: what its configuration comes to. Two things are
settled as soon as there is a plan, the knowledge base and the store of results; how dependencies
are looked up is settled only when an analysis is made, so a plan may be bad and still answer what
needs no analysis. What a service finds outside can be read from a document: the answers that the
model will give, in their order, and what the node of each network knows.
-/

import MoveAudit.Analysis.Office
import MoveAudit.Config.Environment

namespace MoveAudit.Service

open Json

/-! ### Lines to the networks -/

/-- A line to each network. -/
structure Lines where
  mainnet : Chain.Line
  testnet : Chain.Line

namespace Lines

/-- The line to a network. -/
def of (lines : Lines) : Network → Chain.Line
  | .mainnet => lines.mainnet
  | .testnet => lines.testnet

/-- Put a line in the place of the one to a network. -/
def put (lines : Lines) (line : Chain.Line) : Network → Lines
  | .mainnet => { lines with mainnet := line }
  | .testnet => { lines with testnet := line }

/-- The lines when all are closed. -/
def close (lines : Lines) : Lines :=
  ⟨lines.mainnet.close, lines.testnet.close⟩

/-- A course of action on the line to a network. -/
def on {Fault Outcome : Type} (network : Network) (action : Act Chain.Line Fault Outcome) :
    Act Lines Fault Outcome :=
  action.within (·.of network) fun line lines => lines.put line network

end Lines

/-- What a service works with: a desk, a store, and lines to the networks. -/
abbrev World := Analysis.Office Lines

/-- What a service finds outside: files and a reader of the documents in them, a model with the
answers it will give, and nodes. -/
structure Outside where
  readFile : String → Option String := fun _ => none
  readDocument : String → Option Value := fun _ => none
  answers : List Reasoning.Answer
  lines : Lines

/-! ### Plans -/

/-- Why there is no plan. -/
inductive Refusal where
  /-- The knowledge base cannot be found. -/
  | noKnowledgeBase
  | knowledge (fault : KnowledgeFault)
  | unknownBackend (written : Value)

/-- What a service does its work by. -/
structure Plan where
  config : Config
  base : KnowledgeBase

namespace Plan

/-- The knowledge base of a configuration, where files are read from outside. -/
def baseOf (outside : Outside) (config : Config) : Except Refusal KnowledgeBase :=
  match (config.value .knowledgeBase).full? with
  | none => .ok .bundled
  | some place =>
    match place.text?.bind outside.readFile with
    | none => .error .noKnowledgeBase
    | some text => (KnowledgeBase.ofText outside.readDocument text).mapError .knowledge

/-- The number of a value that should be one. -/
def numberOf? : Value → Option Int
  | .int number => some number
  | .bool truth => some (if truth then 1 else 0)
  | _ => none

/-- The store of a kind, and where a shared one is. -/
def storeOf (kind : Value) (place : Cache.Place) : Except Refusal Cache.Store :=
  match kind with
  | .string "memory" => .ok .empty
  | .string "redis" => .ok (.shared place {} none)
  | other => .error (.unknownBackend other)

/-- Where the shared store of a configuration is. -/
def placeOf (config : Config) : Cache.Place :=
  { host := config.text .storeHost, port := (numberOf? (config.value .storePort)).getD 0
    number := config.value .storeNumber, password := config.value .storePassword }

/-- The journal of a configuration, with nothing in it. -/
def journalOf (config : Config) : Journal :=
  { shelf := if config.isOn .journal then .table else .memory Journal.usualLimit }

/-- The plan of a configuration, and the world that its service begins in. -/
def ofConfig (outside : Outside) (config : Config) : Except Refusal (Plan × World) := do
  let base ← baseOf outside config
  let store ← storeOf (config.value .backend) (placeOf config)
  return (⟨config, base⟩,
    ⟨{ answers := outside.answers, journal := journalOf config }, store, outside.lines⟩)

/-- How questions are put to the node of a network. -/
def policy (_plan : Plan) (network : Network) : Chain.Policy :=
  { network := network.word }

/-- How many structs are asked for at a time, which is one at least. -/
def concurrency? (plan : Plan) : Option Value :=
  match plan.config.value .concurrency with
  | .float number => some (if (Double.ofInt 1).lt number then .float number else .int 1)
  | value => (numberOf? value).map fun number => .int (max 1 number)

end Plan

/-! ### Failures -/

/-- Why a service gives no answer. -/
inductive Failure where
  /-- No package is named. -/
  | noPackage
  /-- Something has the wrong shape. -/
  | shape (fault : ShapeFault)
  | chain (failure : Chain.Failure)
  /-- There is no such way to look up dependencies. -/
  | unknownLookup (written : Value)
  | analysis (failure : Analysis.Failure Reasoning.CallFailure)
  | cache (fault : Cache.Fault)

/-- What an analysis fails with, in words. -/
def analysisMessage (inWords : String → List Record.Fault → String) :
    Analysis.Failure Reasoning.CallFailure → String
  | .reasoning reason => reason.message inWords
  | .shape fault => fault.message
  | .unscored fault => fault.message
  | .unfinished => "Pipeline stopped in non-terminal stage"

/-- The failure in words. -/
def Failure.message (inWords : String → List Record.Fault → String) : Failure → String
  | noPackage => "package_id is required"
  | shape fault => fault.message
  | chain failure => failure.message
  | unknownLookup written => Dependency.Mode.unknownText written
  | analysis failure => analysisMessage inWords failure
  | cache fault => fault.message inWords

instance : ToString Failure :=
  ⟨Failure.message Record.briefly⟩

/-- The word for the kind of what an analysis fails with. -/
def analysisKind : Analysis.Failure Reasoning.CallFailure → String
  | .reasoning reason => reason.kind
  | .shape fault => fault.kind
  | .unscored fault => fault.kind
  | .unfinished => "RuntimeError"

/-- The word for the kind of a failure. -/
def Failure.kind : Failure → String
  | noPackage | unknownLookup _ => "ValueError"
  | shape fault => fault.kind
  | chain failure => failure.kind
  | analysis failure => analysisKind failure
  | cache fault => fault.kind

/-- How a plan has analyses made. -/
def Plan.manner (plan : Plan) : Except Failure Analysis.Manner :=
  match plan.concurrency? with
  | none => .error (.shape .wrongKind)
  | some _ =>
    let written := plan.config.value .lookup
    match Dependency.Mode.ofValue? written with
    | none => .error (.unknownLookup written)
    | some mode => .ok { settings := { timeout := plan.config.value .modelTimeout }
                         base := plan.base
                         mode
                         asksForScore := plan.config.isOn .asksForScore }

end MoveAudit.Service

/-! ### What is outside -/

namespace MoveAudit

open Json

/-- The answer of a model that a document describes: a content, a failure in words, or one that does
not come in time. -/
def Reasoning.Answer.ofJson (document : Value) : Reasoning.Answer :=
  match document.members?.bind List.head? with
  | some ("raise", words) => .failed (words.text?.getD "")
  | some ("timeout", _) | some ("hang", _) | none => .late
  | some (_, value) => .content value

namespace Chain

/-- What a document says of a package. -/
def Listing.ofJson (document : Value) : Listing :=
  match (document.part "client_error").text? with
  | some words => .unreachable words
  | none =>
    .content (document.part "modules") (document.part "disassembled") (document.part "owner")
      ((document.member? "data_type").getD (.string "package"))

/-- What a document says that a node knows. -/
def Ledger.ofJson (document : Value) : Ledger where
  packages := (document.part "packages").members.map fun (id, package) => (id, .ofJson package)
  structs := (document.part "structs").members
  pages := (document.part "pages").items

end Chain

/-- What is outside, by a document with the answers of the model and what nodes know. -/
def Service.Outside.ofJson (document : Value) : Service.Outside :=
  let line := fun network : Network =>
    ({ node := .ledger (.ofJson ((document.part "worlds").part network.word)) } : Chain.Line)
  { answers := (document.part "replies").items.map .ofJson
    lines := ⟨line .mainnet, line .testnet⟩ }

end MoveAudit
