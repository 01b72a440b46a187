/-
This file finds newly published packages in what a node tells of transactions. A transaction that
did not succeed publishes nothing; of the others, each object change of the right type names one
package, and a package counts once per transaction. Other records that name a package are read as
well: the entry of one change, and the event that some package emitted, whose own package is not
the one that is meant.
-/

import MoveAudit.Json.Shape
import MoveAudit.Text.Basic
import MoveAudit.Text.Case
import MoveAudit.Text.Search

namespace MoveAudit.Chain

open Json

/-! ### Transactions -/

/-- The kind of transaction that publishes packages. -/
def publishingKind : String :=
  "ProgrammableTransaction"

/-- The condition on transactions of a kind; no kind, or the word `all`, is no condition. -/
def transactionFilter (kind : Value) : Except ShapeFault Value :=
  if !kind.isFull then .ok .null
  else match kind with
    | .string text =>
      let trimmed := Text.trimmed text
      .ok (if Text.lowered trimmed == "all" then .null
        else .object [("TransactionKind", .string trimmed)])
    | _ => .error .notObject

/-- A member that is an object, or an object without members when it is absent or counts as
empty. -/
def inner (value : Value) (name : String) : Except ShapeFault Value := do
  let found ← value.member name
  return if found.isFull then found else .object []

/-- A package published by a transaction. -/
structure Publication where
  package : Value
  sender : Value
  digest : Value
  time : Value
  checkpoint : Value

/-- The publication as a document. -/
def Publication.toJson (publication : Publication) : Value :=
  .object [("packageId", publication.package), ("sender", publication.sender),
    ("digest", publication.digest), ("timestampMs", publication.time),
    ("checkpoint", publication.checkpoint)]

/-- Whether a value can be told apart from others by itself; collections cannot. -/
def isPlain : Value → Bool
  | .array _ | .object _ => false
  | _ => true

/-- The package that a change publishes, if it publishes one. -/
def publishedBy? (change : Value) : Except ShapeFault (Option Value) :=
  match change with
  | .object _ => do
    if (← change.member "type").text? != some "published" then return none
    let package := (← change.member "packageId").full?
    if package.all isPlain then return package else .error .wrongKind
  | _ => .ok none

/-- The packages that a transaction publishes, in order. -/
def publications (transaction : Value) : Except ShapeFault (List Publication) := do
  let status ← (← inner (← inner transaction "effects") "status").member "status"
  if status.isFull && status.text? != some "success" then return []
  let sender ← (← inner (← inner transaction "transaction") "data").member "sender"
  let changes ← (← transaction.member "objectChanges").partsOrNone
  let packages := (← changes.mapM publishedBy?).filterMap id
  let digest ← transaction.member "digest"
  let time ← transaction.member "timestampMs"
  let checkpoint ← transaction.member "checkpoint"
  return (Entries.distinct packages).map fun package =>
    ⟨package, sender, digest, time, checkpoint⟩

/-! ### Records that name a package -/

/-- Whether something has a name among its members, its items or its parts. -/
def hasPart (value : Value) (name : String) : Except ShapeFault Bool :=
  match value with
  | .object members => .ok (Entries.has members name)
  | .array items => .ok (items.any (·.text? == some name))
  | .string text => .ok (Text.includes name text)
  | _ => .error .wrongKind

/-- The package that a record names as newly published. -/
def packageOf (record : Value) : Except ShapeFault (Option Value) := do
  if ← hasPart record "parsedJson" then
    match ← record.member "parsedJson" with
    | .object members =>
      let named := fun name => (Entries.get? members name).bind Value.full?
      return named "package_id" <|> named "packageId"
    | _ => return none
  else if ← hasPart record "objectChanges" then
    return (← publications record).head?.map (·.package)
  else return (← record.member "packageId").full?

end MoveAudit.Chain
