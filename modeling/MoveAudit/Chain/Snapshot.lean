/-
This file takes snapshots: the modules of a package and its disassembly, as a node gives them. A
package without disassembly cannot be looked into, so it counts as not found.
-/

import MoveAudit.Chain.Call
import MoveAudit.Chain.Publication
import MoveAudit.Json.Writer

namespace MoveAudit.Chain

open Json

/-- What a node gives of a package. -/
structure Snapshot where
  package : String
  network : String := "mainnet"
  modules : Value
  disassembly : Members
  publisher : Value := .null

/-- A snapshot as a document. -/
def Snapshot.toJson (snapshot : Snapshot) : Value :=
  .object [("package_id", .string snapshot.package), ("network", .string snapshot.network),
    ("modules", snapshot.modules), ("disassembled", .object snapshot.disassembly),
    ("publisher", snapshot.publisher)]

/-! ### Reading objects -/

/-- The name that a value stands for where names are texts. -/
def nameOf (value : Value) : String :=
  match value with
  | .string text => text
  | other => other.write .compact

/-- A name and a value out of something that has exactly two parts. -/
def pairOf (index : Nat) (item : Value) : Except Failure (String × Value) := do
  match ← item.parts.mapError .shape with
  | [name, value] => if isPlain name then return (nameOf name, value) else .error (.shape .wrongKind)
  | parts => .error (.notPair index parts.length)

/-- Pairs from an index on; a name that comes again replaces the value of the first one. -/
def pairsFrom (index : Nat) : List Value → Except Failure Members
  | [] => .ok []
  | item :: rest => do return (← pairOf index item) :: (← pairsFrom (index + 1) rest)

/-- The disassembly of modules: an object, or a list of pairs. -/
def membersOf (disassembled : Value) : Except Failure Members := do
  match disassembled with
  | .object members => return members
  | other => return Entries.ofList (← pairsFrom 0 (← other.parts.mapError .shape))

/-- What an object's answer says of a package: its disassembly, if there is one, and its owner. -/
def contentOf (answer : Value) : Except ShapeFault (Option Value × Value) := do
  let data ← inner answer "data"
  let content ← inner data "content"
  let kind ← content.member "dataType"
  let disassembled ← if kind.text? == some "package" then content.member "disassembled"
    else pure .null
  return (disassembled.full?, ← data.member "owner")

/-- The publisher of a package, if its owner is an address. -/
def publisherOf (owner : Value) : Value :=
  .ofOption (owner.member? "AddressOwner")

/-- An answer, or an object without members for one that counts as empty. -/
def orEmpty (answer : Value) : Value :=
  answer.full?.getD (.object [])

/-- Take a snapshot of a package. -/
def snapshot (policy : Policy) (package : String) : Act Line Failure Snapshot := do
  let shaped := fun {Result : Type} (outcome : Except ShapeFault Result) =>
    (Act.ofExcept (outcome.mapError Failure.shape) : Act Line Failure Result)
  let answer ← objectOf policy (.string package)
  let (disassembled?, owner) ← shaped (contentOf (orEmpty answer))
  match disassembled? with
  | none => throw .notFound
  | some disassembled =>
    let modules ← shaped disassembled.parts
    Act.note (policy.notice .debug "chain.package" "已获取 package 内容"
      [("package_id", .string package), ("modules", .int modules.length),
        ("publisher", (publisherOf owner).full?.getD (.string "Unknown"))])
    let modules ← modulesOf policy (.string package)
    return ⟨package, policy.network, orEmpty modules, ← Act.ofExcept (membersOf disassembled),
      publisherOf owner⟩

end MoveAudit.Chain
