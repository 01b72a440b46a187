/-
This file answers requests one at a time. The answer to a request is a card, out of the store if
there is one, and otherwise made and kept; only a card that was made is kept, so a request that
fails leaves the store as it was. A package is asked for by its name without the blanks around it,
on the network that is meant by what is written. Several packages are scanned one after another: one
that fails has no card and does not keep the others from being analysed, and one that is named again
replaces what was found at first.
-/

import MoveAudit.Service.Plan

namespace MoveAudit.Service

open Json

/-- A course of action of a service. -/
abbrev Course (Outcome : Type) := Act World Failure Outcome

/-! ### Analyses -/

/-- The way to the structs of a network. -/
def structSource (policy : Chain.Policy) (network : Network) :
    Structs.Source Lines Chain.Failure := fun package module name =>
  Lines.on network (Chain.structOf policy (.string package) (.string module) (.string name))

/-- Take a snapshot of a package on a network. -/
def snapshot (plan : Plan) (network : Network) (package : String) : Course Chain.Snapshot :=
  (Analysis.Office.onChain
    (Lines.on network (Chain.snapshot (plan.policy network) package))).relabel .chain

/-- The setting of analyses for a network. -/
def setting (plan : Plan) (manner : Analysis.Manner) (network : Network) :
    Analysis.Setting World Reasoning.CallFailure :=
  manner.setting network.word (structSource (plan.policy network) network)

/-- Analyse a package on a network, from its snapshot to the end. -/
def audit (plan : Plan) (network : Network) (package : String) : Course Analysis.Result := do
  let snapshot ← snapshot plan network package
  let manner ← Act.ofExcept plan.manner
  (Analysis.analyse manner (structSource (plan.policy network) network) "" snapshot).relabel
    .analysis

/-! ### Results -/

/-- A course of action on the results that are kept. -/
def onResults {Outcome : Type} (action : Act Cache.Store Cache.Fault Outcome) : Course Outcome :=
  (Analysis.Office.inStore action).relabel .cache

/-- A card that is made, and kept when it is. -/
def made (key : String) (card : Course Card) : Course Card := do
  let outcome ← (do
    let card ← card
    onResults (Cache.set key card)
    return card : Course Card).settle
  match outcome with
  | .ok card => return card
  | .error failure =>
    Act.note (Cache.failureNotice key (toString failure))
    throw failure

/-- The card under a key, and whether it was there already; one that is not there is made. -/
def obtain (key : String) (card : Course Card) : Course (Card × Bool) := do
  match ← onResults (Cache.get key) with
  | some card =>
    Act.note (Cache.hitNotice key)
    return (card, true)
  | none => return (← made key card, false)

/-! ### Requests -/

/-- The package that is asked for. -/
def namedPackage (written : Value) : Except Failure String :=
  match written.full?.getD (.string "") with
  | .string text =>
    let package := Text.trimmed text
    if package.isEmpty then .error .noPackage else .ok package
  | _ => .error (.shape .notObject)

/-- The notice of a request for a package on a network. -/
def requestNotice (package : String) (network : Network) : Notice :=
  { level := .info, component := "SafetyAnalyzer", event := "analyze.request"
    message := "收到分析请求"
    fields := [("package_id", .string package), ("network", .string network.word)] }

/-- Answer a request: the card of a package, and whether it was there already. -/
def analyse (plan : Plan) (package network : Value) : Course (Card × Bool) := do
  let package ← Act.ofExcept (namedPackage package)
  let network := Network.ofValue network
  Act.note (requestNotice package network)
  obtain (Cache.key package network.word) do return (← audit plan network package).card

/-- Whether there is a card of a package, the package being taken as it is written. -/
def isKept (package network : Value) : Course Bool :=
  onResults (Cache.contains (Cache.key package.shown (Network.ofValue network).word))

/-- Close the lines to the networks. -/
def close (world : World) : World :=
  { world with chain := world.chain.close }

/-! ### Scans -/

/-- What a scan found: packages with their cards, or without one. -/
abbrev Findings := List (String × Option Card)

namespace Scan

/-- A notice of a scan, under the name that the scan goes by. -/
def notice (component : String) (level : Console.Level) (event message : String)
    (fields : Members) : Notice :=
  { level, component, event := "scan." ++ event, message, fields }

/-- The card of one package, if it can be had; `place` is where it stands among all. -/
def one {Fault : Type} (plan : Plan) (component : String) (network package : Value)
    (place : String) : Act World Fault (Option Card) := do
  let tell := fun found : Notice =>
    (Act.note (found.under [("package_id", package)]) : Act World Fault Unit)
  tell (notice component .info "item_start" "开始分析" [("index", .string place)])
  match ← (analyse plan package network).settle with
  | .ok (card, isKept) =>
    tell (notice component .success "item_done" "分析完成"
      (card.verdict ++ [("from_cache", .bool isKept)]))
    return some card
  | .error failure =>
    tell (.ofFailure component "scan.item_failed" failure.kind (toString failure))
    return none

/-- The cards of packages. -/
def all {Fault : Type} (plan : Plan) (component : String) (network : Value)
    (packages : List Value) : Act World Fault Findings := do
  return Entries.ofList (← packages.zipIdx.mapM fun (package, index) => do
    let place := toString (index + 1) ++ "/" ++ toString packages.length
    return (Chain.nameOf package, ← one plan component network package place))

/-- What a scan found as a document. -/
def toJson (findings : Findings) : Value :=
  .object (findings.map fun (package, card?) => (package, (card?.map Card.toJson).getD .null))

/-- How many packages have no card. -/
def failures (findings : Findings) : Nat :=
  findings.countP (·.2.isNone)

end Scan

end MoveAudit.Service
