/-
This file follows capabilities through a package and names the risks. A capability flows when a
function hands it over, shares it, or when a module other than its own uses it. Three things are
risks: a capability that several modules use can be handed to an address that a caller gives; a
capability is shared with everyone; and a capability that can be handed over reaches three or more
other modules.
-/

import MoveAudit.Capability.Usage

namespace MoveAudit.Capability

open Json Move

/-- How a capability moves. -/
inductive Route where
  | externalTransfer
  | initialGrant
  | publicShare
  | crossModule
  deriving DecidableEq, Repr

/-- The word for a route in reports. -/
def Route.word : Route → String
  | externalTransfer => "external_transfer"
  | initialGrant => "initial_grant"
  | publicShare => "public_share"
  | crossModule => "cross_module"

/-- A movement of a capability out of a module through a function. -/
structure Flow where
  capability : String
  source : String
  target : String
  via : String
  route : Route
  deriving DecidableEq, Repr

/-- Whether a movement gives the capability away. -/
def Flow.isRisky (flow : Flow) : Bool :=
  flow.route == .externalTransfer || flow.route == .publicShare

/-- A risk: a pattern, and the modules that it reaches. -/
structure Risk where
  pattern : String
  severity : Severity
  affected : List String
  module : String
  function : String
  description : String
  evidence : String
  deriving DecidableEq, Repr

/-- The risk as a hit among others. -/
def Risk.toHit (risk : Risk) : Static.Hit :=
  ⟨risk.pattern, risk.severity, risk.module, risk.function, risk.evidence, risk.description,
    .likely⟩

/-- The risk as a document. -/
def Risk.toJson (risk : Risk) : Value :=
  .object (risk.toHit.toJson.members ++ [("affected", .ofTexts risk.affected)])

/-- The parts of a capability in a row. -/
def Definition.toJson (definition : Definition) : Value :=
  .array [.string definition.name, .string definition.module, .string definition.fullType,
    .ofTexts definition.abilities, .bool definition.hasStore]

/-- The parts of a usage in a row. -/
def Usage.toJson (usage : Usage) : Value :=
  .array [.string usage.capability, .string usage.module, .string usage.function,
    .string usage.use.word]

/-- The parts of a movement in a row. -/
def Flow.toJson (flow : Flow) : Value :=
  .array [.string flow.capability, .string flow.source, .string flow.target, .string flow.via,
    .string flow.route.word, .bool flow.isRisky]

/-- What was found out about the capabilities of a package. -/
structure Report where
  capabilities : List Definition
  usages : List Usage
  flows : List Flow
  risks : List Risk
  deriving DecidableEq, Repr

/-- The report as a document. -/
def Report.members (report : Report) : Members :=
  [("capabilities", .array (report.capabilities.map Definition.toJson)),
    ("usages", .array (report.usages.map Usage.toJson)),
    ("flows", .array (report.flows.map Flow.toJson)),
    ("risks", .array (report.risks.map Risk.toJson))]

/-! ### Flows -/

/-- Whether anyone may call a function of this module and name. -/
def isPublic (package : Package) (module function : String) : Bool :=
  package.functions.any fun candidate =>
    candidate.module == module && candidate.name == function

/-- Functions that run once, when a package is published. -/
def isInitializer (function : String) : Bool :=
  function == "init"

/-- The movement that a use amounts to. What a public function hands over goes to an address that
its caller gives; what any other function hands over stays with the deployer. -/
def flowOf? (package : Package) (usage : Usage) : Option Flow :=
  match usage.use with
  | .transferred =>
    if isPublic package usage.module usage.function && !isInitializer usage.function then
      some ⟨usage.capability, usage.module, "external_address", usage.function, .externalTransfer⟩
    else some ⟨usage.capability, usage.module, "deployer", usage.function, .initialGrant⟩
  | .shared => some ⟨usage.capability, usage.module, "shared_object", usage.function, .publicShare⟩
  | _ => none

/-- The movements of one capability: those that uses amount to, then those into other modules. -/
def flowsOf (package : Package) (usages : List Usage) (definition : Definition) : List Flow :=
  (usages.filter (·.capability == definition.name)).filterMap (flowOf? package) ++
    ((modulesUsing usages definition.name).filter (· != definition.module)).map fun module =>
      ⟨definition.name, definition.module, module, "cross_module_import", .crossModule⟩

/-! ### Risks -/

/-- Capabilities whose sharing is critical; a name that holds one of these counts. -/
def criticalNames : List String :=
  ["AdminCap", "TreasuryCap", "UpgradeCap", "MintCap"]

/-- A capability that reaches this many other modules has a wide impact. -/
def wideImpactModules : Nat := 3

/-- The capabilities that some movement hands to an address that a caller gives. -/
def handedOut (flows : List Flow) : List String :=
  Entries.distinct ((flows.filter (·.route == .externalTransfer)).map (·.capability))

/-- The place of a movement. -/
def Flow.place (flow : Flow) : String :=
  flow.source ++ "::" ++ flow.via

/-- The risk that a movement hands out a capability on which several modules depend. -/
def transferRisk (affected : List String) (flow : Flow) : Risk :=
  { pattern := "CROSS-MODULE-CAP-TRANSFER"
    severity := .critical
    affected
    module := flow.source
    function := flow.via
    description := flow.capability ++ " can be transferred to an external address in " ++
      flow.place ++ ", but is also used in " ++ toString affected.length ++
      " modules. If it reaches a malicious address, ALL functionality depending on this " ++
      "capability is compromised."
    evidence := "External transfer in " ++ flow.place ++ ", affects modules: " ++
      ", ".intercalate affected }

/-- The risks of handing out one capability: none unless at least two modules use it. -/
def transferRisks (usages : List Usage) (flows : List Flow) (capability : String) : List Risk :=
  let affected := modulesUsing usages capability
  if affected.length < 2 then []
  else (flows.filter fun flow =>
    flow.route == .externalTransfer && flow.capability == capability).map (transferRisk affected)

/-- The risk that a movement shares a capability with everyone. -/
def shareRisk (usages : List Usage) (flow : Flow) : Risk :=
  let affected := modulesUsing usages flow.capability
  { pattern := "CROSS-MODULE-CAP-SHARED"
    severity := if criticalNames.any (Text.includes · flow.capability) then .critical else .high
    affected
    module := flow.source
    function := flow.via
    description := "Capability " ++ flow.capability ++ " is shared as a public object in " ++
      flow.place ++ ". Anyone can use it, compromising all " ++ toString affected.length ++
      " module(s) that depend on it."
    evidence := "Shared object in " ++ flow.place }

/-- The modules other than its own that a capability reaches. -/
def importers (flows : List Flow) (capability : String) : List String :=
  (flows.filter fun flow => flow.capability == capability && flow.route == .crossModule).map
    (·.target)

/-- The risk that a capability which can be handed out reaches many modules. -/
def wideRisk? (flows : List Flow) (capability : String) : Option Risk :=
  let reached := importers flows capability
  if reached.length < wideImpactModules then none
  else some
    { pattern := "CROSS-MODULE-WIDE-IMPACT"
      severity := .high
      affected := reached
      module := "multiple"
      function := "multiple"
      description := "Capability " ++ capability ++ " is used across " ++ toString reached.length ++
        " modules and can be transferred externally. A single transfer compromises " ++
        "functionality across the entire package."
      evidence := capability ++ " used in: " ++ ", ".intercalate reached }

/-- All risks: of handing out, of sharing, of wide impact. -/
def risks (usages : List Usage) (flows : List Flow) : List Risk :=
  (handedOut flows).flatMap (transferRisks usages flows) ++
    (flows.filter (·.route == .publicShare)).map (shareRisk usages) ++
    (handedOut flows).filterMap (wideRisk? flows)

/-- Follow the capabilities of a package. -/
def analyse (package : Package) : Except ShapeFault Report := do
  let codes ← package.disassembly.mapM fun (module, written) => do
    return (module, ← Static.code written)
  let bodies := codes.map fun (module, code) => (module, Listing.bodies code)
  let capabilities := definitions package codes
  let used := usages package bodies (capabilities.map (·.name))
  let flows := capabilities.flatMap (flowsOf package used)
  return ⟨capabilities, used, flows, risks used flows⟩

/-! ### The block of text -/

/-- The lines on one risk. -/
def riskLines (risk : Risk) : List String :=
  ["[" ++ risk.severity.word ++ "] " ++ risk.pattern,
    "  Source: " ++ risk.module ++ "::" ++ risk.function,
    "  Affected: " ++ ", ".intercalate risk.affected, "  " ++ risk.description, ""]

/-- The first items of a list; a negative count leaves that many out at the end. -/
def takeSigned {Item : Type} (count : Int) (items : List Item) : List Item :=
  if 0 ≤ count then items.take count.toNat else items.take (items.length - (-count).toNat)

/-- The lines on capabilities, up to a limit. -/
def capabilityLines (limit : Int) (capabilities : List Definition) : List String :=
  if capabilities.isEmpty then []
  else ["Capabilities tracked:"] ++
    (takeSigned limit capabilities).map (fun definition => "  - " ++ definition.fullType) ++
    if limit < capabilities.length then
      ["  ... and " ++ Numeral.intText (capabilities.length - limit) ++ " more"]
    else []

/-- The report as a block of text that names at most `limit` capabilities. -/
def Report.display (report : Report) (limit : Int) : String :=
  let found :=
    if report.risks.isEmpty then ["No cross-module capability risks detected."]
    else ["Cross-Module Analysis: " ++ toString report.risks.length ++ " risk(s) found", ""] ++
      report.risks.flatMap riskLines
  Text.trimmedEnd (Text.unlines (found ++ capabilityLines limit report.capabilities))

/-- Blocks of text name this many capabilities unless asked otherwise. -/
def capabilityLimit : Int := 5

/-- The block of text on an analysis that may not have been made. -/
def displayOption (report : Option Report) : String :=
  match report with
  | some report => report.display capabilityLimit
  | none => "No cross-module capability risks detected."

end MoveAudit.Capability
