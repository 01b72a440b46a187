/-
This file brings together what an analysis works with: the desk at which the model is asked, the
store of results, and a way to the chain. A session that is not named gets a name of its own before
anything else is done.
-/

import MoveAudit.Analysis.Progress
import MoveAudit.Dependency.Risk

namespace MoveAudit.Analysis

open Json Reasoning

/-- A desk, a store, and what lies behind them: the chain, or whatever stands for it. -/
structure Office (Beyond : Type) where
  desk : Desk
  store : Cache.Store
  chain : Beyond

namespace Office

variable {Beyond Fault Outcome : Type}

/-- A course of action at the desk. -/
def atDesk (action : Act Desk Fault Outcome) : Act (Office Beyond) Fault Outcome :=
  action.within (·.desk) fun desk office => { office with desk }

/-- A course of action on the store. -/
def inStore (action : Act Cache.Store Fault Outcome) : Act (Office Beyond) Fault Outcome :=
  action.within (·.store) fun store office => { office with store }

/-- A course of action on the chain. -/
def onChain (action : Act Beyond Fault Outcome) : Act (Office Beyond) Fault Outcome :=
  action.within (·.chain) fun chain office => { office with chain }

end Office

/-- How analyses are made. -/
structure Manner where
  settings : Settings := {}
  base : KnowledgeBase := .bundled
  mode : Dependency.Mode := .anyNetwork
  asksForScore : Bool := false

variable {Beyond Refusal : Type} [ToString Refusal]

/-- The setting of analyses for a network. The model is shown the knowledge base as it is; findings
are scored by the bundled one when it has no patterns. -/
def Manner.setting (manner : Manner) (network : String) (source : Structs.Source Beyond Refusal) :
    Setting (Office Beyond) CallFailure where
  reasoner := (Reasoner.ofModel manner.settings manner.base).within (·.desk) fun desk office =>
    { office with desk }
  base := manner.base.orBundled
  structs ids := Office.onChain (Structs.resolve source ids)
  risks dependencies := Office.inStore (Dependency.risks manner.mode network dependencies)
  asksForScore := manner.asksForScore

/-- The name of a session: the one given, or a new one. -/
def sessionName {Fault : Type} (given : String) : Act (Office Beyond) Fault String :=
  if given.isEmpty then Office.atDesk (Act.take Desk.issue) else pure given

/-- Analyse a snapshot in a session. -/
def analyse (manner : Manner) (source : Structs.Source Beyond Refusal) (session : String)
    (snapshot : Chain.Snapshot) : Course (Office Beyond) CallFailure Result := do
  run (manner.setting snapshot.network source) (← sessionName session) snapshot

end MoveAudit.Analysis
