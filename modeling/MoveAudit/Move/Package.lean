/-
This file holds what an analysis knows of a package: the functions that anyone may call, the
addresses of the packages it depends on, and the disassembly of its modules. One address has many
spellings, since leading zeros, the case of its digits and the `0x` in front do not matter; its
normal form is the spelling without leading zeros, in small letters, with `0x`. The packages of the
framework have fixed addresses.
-/

import MoveAudit.Json.Shown
import MoveAudit.Move.Param
import MoveAudit.Text.Basic
import MoveAudit.Text.Case
import MoveAudit.Text.Search

/-! ### Addresses -/

namespace MoveAudit.Move.Address

/-- The normal form of the characters of an address. -/
def normalChars (spelling : List Char) : List Char :=
  let small := Text.lower (Text.trim spelling)
  let digits := (Text.after? ['0', 'x'] small).getD small
  match digits.dropWhile (· == '0') with
  | [] => ['0', 'x', '0']
  | kept => '0' :: 'x' :: kept

/-- The normal form of an address. -/
def normal (spelling : String) : String :=
  String.ofList (normalChars spelling.toList)

/-- The normal form of whatever was written where an address belongs; a value that counts as
empty stands for the address zero. -/
def normalOf (written : Json.Value) : String :=
  normal (if written.isFull then written.shown else "")

/-- The normal forms of the framework packages' addresses. -/
def framework : List String :=
  ["0x1", "0x2", "0x3", "0x5", "0x6", "0xdee9"]

/-- Whether an address is that of a framework package. -/
def isFramework (written : Json.Value) : Bool :=
  framework.contains (normalOf written)

end MoveAudit.Move.Address

/-! ### Packages -/

namespace MoveAudit.Move

open Json

/-- A function that anyone may call. -/
structure Function where
  module : String
  name : String
  params : List Param := []
  isEntry : Bool := false
  typeParameterCount : Nat := 0
  deriving DecidableEq, Repr

namespace Function

/-- The name with its module. -/
def qualifiedName (function : Function) : String :=
  function.module ++ "::" ++ function.name

/-- The function as a document. -/
def toJson (function : Function) : Value :=
  .object [("module", .string function.module), ("name", .string function.name),
    ("params", .array (function.params.map Param.toJson))]

/-- All that is known of the function, as a document. -/
def toFullJson (function : Function) : Value :=
  .object (function.toJson.members ++ [("is_entry", .bool function.isEntry),
    ("type_parameter_count", .int function.typeParameterCount),
    ("qualified_name", .string function.qualifiedName)])

/-- The function that a document describes. -/
def ofJson (document : Value) : Function where
  module := (document.part "module").text?.getD ""
  name := (document.part "name").text?.getD ""
  params := (document.part "params").items.map Param.ofJson
  isEntry := (document.part "is_entry").isFull
  typeParameterCount := match document.part "type_parameter_count" with
    | .int count => count.toNat
    | _ => 0

end Function

/-- What is known of a package. Dependencies stand as they were first written, and the disassembly
holds whatever the node gave for each module. -/
structure Package where
  functions : List Function := []
  dependencies : List Value := []
  disassembly : Members := []

namespace Package

/-- A package without public functions is a library. -/
def isLibrary (package : Package) : Bool :=
  package.functions.isEmpty

/-- The full names of the structs that parameters take or have as type arguments, each once, in
order of first mention. -/
def referencedStructs (package : Package) : List String :=
  Entries.distinct <| package.functions.flatMap fun function =>
    function.params.flatMap fun param =>
      (param.structId?.filter (!·.isEmpty)).toList ++ param.structArguments

/-- The names of the functions, without modules. -/
def functionNames (package : Package) : List String :=
  package.functions.map (·.name)

end Package

/-- A field of a struct: its name and the text of its type. -/
structure Field where
  name : String
  type : String
  deriving DecidableEq, Repr

/-- The field that stands for the fields of a struct whose definition cannot be had. -/
def Field.unknown : Field := ⟨"unknown", "unknown"⟩

end MoveAudit.Move
