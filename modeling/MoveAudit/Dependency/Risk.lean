/-
This file looks up what the cache says of the packages that another one depends on. Only cards of
the levels high and moderate are passed on. A dependency is looked up as it was written, either on
the network of the package that depends on it or on any network, where the highest score counts; a
look-up that fails is noticed and counts as nothing found.
-/

import MoveAudit.Cache.Results
import MoveAudit.Chain.Publication

namespace MoveAudit.Dependency

open Json

/-- Where dependencies are looked up. -/
inductive Mode where
  | network
  | anyNetwork
  deriving DecidableEq, Repr

namespace Mode

/-- The modes. -/
def all : List Mode :=
  [.network, .anyNetwork]

/-- The word for a mode. -/
def word : Mode → String
  | network => "network"
  | anyNetwork => "cross_network"

/-- The mode that is written: a word in any case, with blanks around it, and with either kind of
dash in it. -/
def ofValue? (written : Value) : Option Mode :=
  let text := Text.lowered (Text.trimmed (if written.isFull then written.shown else ""))
  all.find? (·.word == Text.substitute "-" "_" text)

/-- What is said of a mode that is none. -/
def unknownText (written : Value) : String :=
  "Unknown dependency lookup mode: " ++ written.quoted ++ ". Use 'network' or 'cross_network'."

end Mode

/-! ### Looking up -/

/-- The first card with the highest score. -/
def worst? (cards : List Card) : Option Card :=
  cards.foldl (fun best? card => match best? with
    | none => some card
    | some best => if best.score < card.score then some card else best) none

/-- The card that counts for a dependency. -/
def cardOf (mode : Mode) (network : String) (dependency : Value) :
    Act Cache.Store Cache.Fault (Option Card) := do
  match mode with
  | .network => Cache.get (Cache.key dependency.shown network)
  | .anyNetwork => return worst? ((← Cache.findAnyNetwork dependency).map (·.2))

/-- Whether a level is passed on to the packages that depend on it. -/
def isPassedOn : RiskLevel → Bool
  | .high | .moderate => true
  | .critical | .low => false

/-- A notice on dependencies. -/
def notice (level : Console.Level) (event message : String) (fields : Members) : Notice :=
  { level, component := "DependencyResolver", event := "dependency." ++ event, message, fields }

/-- The notice of the risks that were found. -/
def risksNotice (mode : Mode) (risks : List DependencyRisk) : Notice :=
  if risks.isEmpty then
    notice .debug "clean" "缓存中没有高风险依赖" [("mode", .string mode.word)]
  else
    notice .warning "risky" "发现高风险依赖"
      [("count", .int risks.length), ("mode", .string mode.word)]

/-- The risk that a dependency passes on, if any. -/
def riskOf? (mode : Mode) (network : String) (dependency : Value) :
    Act Cache.Store ShapeFault (Option DependencyRisk) := do
  match ← (cardOf mode network dependency).settle with
  | .error fault =>
    Act.note (notice .warning "lookup_failed" "依赖结论查询失败"
      [("dependency", dependency), ("error", .string (toString fault))])
    return none
  | .ok none => return none
  | .ok (some card) =>
    return if isPassedOn card.level then some ⟨dependency, card.score, card.level⟩ else none

/-- The risks that dependencies pass on, each dependency once, in order of first mention. A
collection is no dependency that could be looked up. -/
def risks (mode : Mode) (network : String) (dependencies : List Value) :
    Act Cache.Store ShapeFault (List DependencyRisk) := do
  if !dependencies.all Chain.isPlain then throw .wrongKind
  let found ← (Entries.distinct dependencies).mapM (riskOf? mode network)
  let risks := found.filterMap id
  Act.note (risksNotice mode risks)
  return risks

end MoveAudit.Dependency
