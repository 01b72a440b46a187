/-
This file reads a package off the node's description of its modules. A module whose description
has the wrong shape is skipped and named; the others are read as if it were not there, save that
dependencies it gave before the fault are kept. Dependencies come from three places, in this
order: what the modules declare, the structs that public functions take, and the imports in the
disassembly. Each address counts once, whatever its spelling, and neither the framework nor the
package itself counts.
-/

import MoveAudit.Listing.Basic
import MoveAudit.Move.Package

namespace MoveAudit.Move

open Json

/-- Dependencies found so far: the normal form of each address and how it was first written. -/
abbrev Dependencies := List (String × Value)

namespace Dependencies

/-- Count an address unless it is excluded or known. -/
def add (excluded : List String) (known : Dependencies) (written : Value) : Dependencies :=
  let key := Address.normalOf written
  if excluded.contains key then known else Entries.putNew known key written

/-- Count addresses in order. -/
def addAll (excluded : List String) (known : Dependencies) (written : List Value) : Dependencies :=
  written.foldl (add excluded) known

end Dependencies

/-- What was read of a package, and the modules that were skipped with what is wrong with each. -/
structure Extraction where
  package : Package
  faults : List (String × ShapeFault)

namespace Extraction

/-- The names of the modules that were skipped. -/
def skipped (extraction : Extraction) : List String :=
  extraction.faults.map (·.1)

/-- A member under the first of two names whose value does not count as empty. -/
def eitherMember (value : Value) (first second : String) : Except ShapeFault Value := do
  let found ← value.member first
  if found.isFull then return found else value.member second

/-- The number of parts of a value. -/
def sizeOrNone (value : Value) : Except ShapeFault Nat := do
  return (← value.partsOrNone).length

/-- A described function, if it is public. -/
def readFunction (module name : String) (description : Value) :
    Except ShapeFault (Option Function) := do
  let visibility ← description.member "visibility"
  if visibility.text? != some "Public" then return none
  let params ← (← (← description.member "parameters").partsOrNone).mapM Param.ofDescriptor
  let entry ← eitherMember description "isEntry" "is_entry"
  let typeParameters ← eitherMember description "typeParameters" "type_parameters"
  return some ⟨module, name, params, entry.isFull, ← sizeOrNone typeParameters⟩

/-- The public functions of a described module, in order. -/
def readFunctions (module : String) (description : Value) : Except ShapeFault (List Function) := do
  let exposed ← eitherMember description "exposedFunctions" "exposed_functions"
  let members ← if exposed.isFull then exposed.allMembers else pure []
  return (← members.mapM fun (name, function) => readFunction module name function).filterMap id

/-- The address that an entry of a module's dependency list gives. -/
def declaredAddress (entry : Value) : Except ShapeFault Value :=
  match entry with
  | .object _ => entry.required "address"
  | other => .ok other

/-- Count declared dependencies up to the first one of the wrong shape. -/
def addDeclared (excluded : List String) (known : Dependencies) :
    List Value → Dependencies × Option ShapeFault
  | [] => (known, none)
  | entry :: rest =>
    match declaredAddress entry with
    | .ok written => addDeclared excluded (known.add excluded written) rest
    | .error fault => (known, some fault)

/-- The declared dependencies of a module. -/
def declarations (description : Value) : Except ShapeFault (List Value) := do
  (← description.member "dependencies").partsOrNone

/-- One module: its functions unless it is skipped, and the dependencies known after it. -/
def readModule (excluded : List String) (known : Dependencies) (name : String)
    (description : Value) : Except ShapeFault (List Function) × Dependencies :=
  match readFunctions name description, declarations description with
  | .error fault, _ | .ok _, .error fault => (.error fault, known)
  | .ok functions, .ok declared =>
    match addDeclared excluded known declared with
    | (known, none) => (.ok functions, known)
    | (known, some fault) => (.error fault, known)

/-- All modules in order: functions, dependencies and the modules skipped. -/
def readModules (excluded : List String) (known : Dependencies) :
    Members → List Function × Dependencies × List (String × ShapeFault)
  | [] => ([], known, [])
  | (name, description) :: rest =>
    let (outcome, known) := readModule excluded known name description
    let (functions, dependencies, faults) := readModules excluded known rest
    match outcome with
    | .ok own => (own ++ functions, dependencies, faults)
    | .error fault => (functions, dependencies, (name, fault) :: faults)

/-- The address in front of a struct's full name. -/
def addressOf (structId : String) : Value :=
  .string (String.ofList (Text.firstPiece "::".toList structId.toList))

/-- The addresses of the structs that a function's parameters take or have as type arguments. -/
def paramAddresses (function : Function) : List Value :=
  function.params.flatMap fun param =>
    ((param.structId?.filter (!·.isEmpty)).toList ++ param.structArguments).map addressOf

/-- The addresses that the imports of a disassembly name; what is no text has none. -/
def importAddresses (disassembly : Members) : List Value :=
  disassembly.flatMap fun (_, code) =>
    (code.text?.map Listing.imports).getD [] |>.map Value.string

/-- The addresses that are no dependencies. -/
def excludedAddresses (packageId : Option String) : List String :=
  Address.framework ++ match packageId with
    | some id => if id.isEmpty then [] else [Address.normal id]
    | none => []

end Extraction

/-- Read a package off the description of its modules. Without modules nothing is read, the
imports included. -/
def extract (modules disassembly : Members) (packageId : Option String) : Extraction :=
  if modules.isEmpty then ⟨⟨[], [], disassembly⟩, []⟩
  else
    let excluded := Extraction.excludedAddresses packageId
    let (functions, declared, faults) := Extraction.readModules excluded [] modules
    let taken := declared.addAll excluded (functions.flatMap Extraction.paramAddresses)
    let all := taken.addAll excluded (Extraction.importAddresses disassembly)
    ⟨⟨functions, all.map (·.2), disassembly⟩, faults⟩

end MoveAudit.Move
