/-
This file keeps safety cards as results. A result goes under the name of a package and a network
with a mark between them; the last mark divides a name, so that a package may have marks of its own,
and a network none. What is read back is checked as a card, since a shared store may hold anything.
A result that is not kept yet is computed and kept; a computation that fails leaves the store as it
was.
-/

import MoveAudit.Cache.Store
import MoveAudit.Card.Basic
import MoveAudit.Text.Search

namespace MoveAudit.Cache

open Json Record

/-! ### Names -/

/-- Between a package and its network. -/
def mark : String :=
  "@"

/-- The name of the result for a package on a network. -/
def key (package network : String) : String :=
  package ++ mark ++ network

/-- The package and the network in a name; without a mark, all of it is the network. -/
def splitKey (name : String) : String × String :=
  match Text.lastIndexOf? mark.toList name.toList with
  | none => ("", name)
  | some index =>
    (String.ofList (name.toList.take index),
      String.ofList (name.toList.drop (index + mark.length)))


/-! ### Cards -/

/-- Why a result cannot be read. -/
inductive Fault where
  | unreachable (message : String)
  /-- What is kept is no card. -/
  | invalid (faults : List Record.Fault)
  | halt (reason : Halt)

/-- The fault in words. -/
def Fault.message (inWords : String → List Record.Fault → String) : Fault → String
  | unreachable message => message
  | invalid faults => inWords "SafetyCard" faults
  | halt _ => "unexpected type"

instance : ToString Fault :=
  ⟨Fault.message briefly⟩

/-- The word for the kind of a fault. -/
def Fault.kind : Fault → String
  | unreachable _ => "RuntimeError"
  | invalid _ => "ValidationError"
  | halt reason => reason.kind

/-- A notice of the cache on the result under a key. -/
def notice (level : Console.Level) (event message key : String) (fields : Members := []) :
    Notice :=
  { level, component := "ResultCache", event := "cache." ++ event, message
    fields := ("key", .string key) :: fields }

/-- The notice that a card is kept. -/
def setNotice (key : String) (card : Card) : Notice :=
  notice .debug "set" "写入缓存" key [("risk_score", .int card.score)]

/-- The notice that there is a result already. -/
def hitNotice (key : String) : Notice :=
  notice .info "hit" "命中缓存" key

/-- The notice that a result could not be computed. -/
def failureNotice (key error : String) : Notice :=
  notice .warning "compute_failed" "分析失败，不写入缓存" key [("error", .string error)]

/-- A course of action on a store, whose failure is a fault. -/
def ofStore {Result : Type} (action : Act Store Unreachable Result) : Act Store Fault Result :=
  action.relabel fun reason => .unreachable reason.message

/-- The card that a kept value stands for. -/
def cardOf (value : Value) : Except Fault (Option Card) :=
  if value.isNull then .ok none
  else match Card.check value with
    | .ok card => .ok (some card)
    | .faults faults => .error (.invalid faults)
    | .halt reason => .error (.halt reason)

/-- The card under a key. -/
def get (key : String) : Act Store Fault (Option Card) := do
  Act.ofExcept (cardOf (← ofStore (Store.get key)))

/-- Keep a card under a key. -/
def set (key : String) (card : Card) : Act Store Fault Unit := do
  let _ ← ofStore (Store.set key card.toJson)
  Act.note (setNotice key card)

/-- Whether there is a result under a key. -/
def contains (key : String) : Act Store Fault Bool :=
  ofStore (Store.has key)

/-- The cards of a package with the networks that they are for. -/
def findAnyNetwork (package : Value) : Act Store Fault (List (String × Card)) := do
  let keys ← ofStore (Store.keysFrom (package.shown ++ mark))
  let own := (keys.map fun name => (name, splitKey name)).filter fun (_, found, _) =>
    package.text? == some found
  let cards ← own.mapM fun (name, _, network) => do
    return (← get name).map fun card => (network, card)
  return Entries.ofList (cards.filterMap id)

end MoveAudit.Cache
