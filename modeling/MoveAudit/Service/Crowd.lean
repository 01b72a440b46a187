/-
This file answers requests that come at the same time. Those for one result share its making. Each
request is taken up in turn; the analyses that are needed then go on side by side, each by one step
before any goes on by the next. What goes wrong before the first step of an analysis does so at
once, while nobody else has had a turn, and so is shared with nobody.
-/

import MoveAudit.Cache.Pool
import MoveAudit.Service.Audit

namespace MoveAudit.Service

open Json

/-- An analysis under way, for the request of an identifier. -/
structure Underway where
  id : String
  network : Network
  manner : Analysis.Manner
  run : Analysis.Run

/-- Requests at the same time: the world they share, who makes and who waits, and the analyses under
way. The results that are kept are those of the world. -/
structure Crowd where
  world : World
  pool : Cache.Pool Failure := {}
  underway : List Underway := []

namespace Crowd

/-- A course of action on who makes and who waits. -/
def inPool {Fault Outcome : Type} (action : Act (Cache.Pool Failure) Fault Outcome) :
    Act Crowd Fault Outcome :=
  action.within (fun crowd => { crowd.pool with store := crowd.world.store }) fun pool crowd =>
    { crowd with pool, world := { crowd.world with store := pool.store } }

/-- A course of action in the world that requests share. -/
def inWorld {Fault Outcome : Type} (action : Act World Fault Outcome) : Act Crowd Fault Outcome :=
  action.within (·.world) fun world crowd => { crowd with world }

/-- A turn of a request. -/
def turn (id : String) : Act Crowd Empty Unit :=
  inPool (Cache.Pool.turn id)

/-- A request's analysis is at its end. -/
def settle (id : String) (ending : Cache.Ending Failure) : Act Crowd Empty Unit := do
  Act.change fun crowd =>
    { crowd with underway := crowd.underway.filter (·.id != id)
                 pool := crowd.pool.settle id ending }
  turn id

/-! ### Taking requests up -/

/-- What an analysis begins with. -/
def begun (plan : Plan) (id : String) (network : Network) (package : String) :
    Course Underway := do
  let snapshot ← snapshot plan network package
  let manner ← Act.ofExcept plan.manner
  let session ← Analysis.sessionName ""
  return ⟨id, network, manner, .begin_ session snapshot⟩

/-- Begin an analysis. -/
def start (plan : Plan) (id : String) (network : Network) (package : String) :
    Act Crowd Empty Unit := do
  match ← (inWorld (begun plan id network package)).settle with
  | .error failure => settle id (.failed failure)
  | .ok one => Act.change fun crowd => { crowd with underway := crowd.underway ++ [one] }

/-- Take up a request for a package on a network. -/
def take (plan : Plan) (id : String) (package network : Value) : Act Crowd Empty Unit := do
  match namedPackage package with
  | .error failure => Act.change fun crowd =>
      { crowd with pool := crowd.pool.put id { key := "" } (.ended (.failed failure)) }
  | .ok package =>
    let network := Network.ofValue network
    Act.note (requestNotice package network)
    Act.change fun crowd =>
      { crowd with pool := crowd.pool.join id (Cache.key package network.word) }
    turn id
    match (← Act.look).pool.phaseOf? id with
    | some .computing => start plan id network package
    | _ => return

/-! ### Going on -/

/-- One step of an analysis. -/
def step (plan : Plan) (one : Underway) : Act Crowd Empty Unit := do
  let setting := setting plan one.manner one.network
  let course : Course (Analysis.Run × Option Analysis.Result) := Act.relabel .analysis do
    let run ← Analysis.step setting one.run
    match run.progress with
    | .done _ => return (run, some (← Analysis.resultOf run))
    | _ => return (run, none)
  match ← (inWorld course).settle with
  | .error failure => settle one.id (.failed failure)
  | .ok (_, some result) => settle one.id (.card result.card)
  | .ok (run, none) => Act.change fun crowd =>
      { crowd with underway := crowd.underway.map fun other =>
          if other.id == one.id then { other with run } else other }

/-- One step of every analysis. -/
def round (plan : Plan) : Act Crowd Empty Unit := do
  for one in (← Act.look).underway do
    step plan one

/-- Rounds up to a number. -/
def rounds (plan : Plan) : Nat → Act Crowd Empty Unit
  | 0 => return
  | left + 1 => do
    round plan
    rounds plan left

/-- The most steps that an analysis under way may still need. -/
def longest (crowd : Crowd) : Nat :=
  (crowd.underway.map (·.run.progress.left)).foldl max 0

/-- Take up requests, and go on until all are answered. -/
def answer (plan : Plan) (requests : List (Value × Value)) : Act Crowd Empty Unit := do
  for ((package, network), index) in requests.zipIdx do
    take plan (toString index) package network
  rounds plan (← Act.look).longest
  inPool Cache.Pool.calm

/-- What a request came to, once it is answered. -/
def outcomes (crowd : Crowd) : List (Option (Cache.Outcome Failure)) :=
  crowd.pool.callers.map fun (_, caller) => match caller.phase with
    | .ended outcome => some outcome
    | _ => none

end Crowd

/-- Answer requests that come at the same time. -/
def analyseAll {Fault : Type} (plan : Plan) (requests : List (Value × Value)) :
    Act World Fault (List (Option (Cache.Outcome Failure))) :=
  ExceptT.mk fun scene =>
    let (_, left) := (Crowd.answer plan requests).run ⟨{ world := scene.world }, scene.notices⟩
    (.ok left.world.outcomes, ⟨left.world.world, left.notices⟩)

end MoveAudit.Service
