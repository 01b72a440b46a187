/-
This file finds the capabilities of a package and what its functions do with them. A capability is
a struct whose name ends like one; it is either declared in some module's disassembly or taken
from another package as a parameter. Uses are read off parameters and off the instructions that
make, hand over, share or take apart a value of that name.
-/

import MoveAudit.Listing.Basic
import MoveAudit.Static.Report

namespace MoveAudit.Capability

open Json Move

/-- Whether a struct of this name is a capability. -/
def isCapabilityName (name : String) : Bool :=
  ["Cap", "Authority"].any fun ending => ending.toList.isSuffixOf name.toList

/-- A capability: its name, the module it belongs to, its name in full and its abilities. -/
structure Definition where
  name : String
  module : String
  fullType : String
  abilities : List String
  deriving DecidableEq, Repr

/-- A capability that can be stored can be handed to any address. -/
def Definition.hasStore (definition : Definition) : Bool :=
  definition.abilities.contains "store"

/-- What a function does with a capability. -/
inductive Use where
  | parameter
  | borrowedMutably
  | borrowed
  | created
  | transferred
  | shared
  | destroyed
  deriving DecidableEq, Repr

/-- The word for a use in reports. -/
def Use.word : Use → String
  | parameter => "parameter"
  | borrowedMutably => "borrowed_mut"
  | borrowed => "borrowed_imm"
  | created => "created"
  | transferred => "transferred"
  | shared => "shared"
  | destroyed => "destroyed"

/-- A use of a capability in a function. -/
structure Usage where
  capability : String
  module : String
  function : String
  use : Use
  deriving DecidableEq, Repr

/-! ### Instructions -/

/-- Whether a test holds at some place of a text, given the character before that place. -/
def somewhere (test : Option Char → List Char → Bool) : Option Char → List Char → Bool
  | before, [] => test before []
  | before, c :: text => test before (c :: text) || somewhere test (some c) text

/-- Whether a text begins with a name that no further word character follows. -/
def beginsWithName (name text : List Char) : Bool :=
  match Text.after? name text with
  | some rest => Text.isWordEdge name.getLast? rest.head?
  | none => false

/-- Whether a text begins with blanks, perhaps none, and then a name. -/
def beginsWithNameAfterBlanks (name : List Char) : List Char → Bool
  | [] => beginsWithName name []
  | c :: text =>
    beginsWithName name (c :: text) || (Text.isBlank c && beginsWithNameAfterBlanks name text)

/-- Whether an instruction that makes (`Pack`) or takes apart (`Unpack`) a struct of this name
stands here: the verb, perhaps for a generic struct, a number in brackets, and the name. -/
def handlesStruct (verb : String) (name : List Char) (before : Option Char) (text : List Char) :
    Bool :=
  Text.isWordEdge before text.head? &&
    match Text.after? verb.toList text with
    | none => false
    | some rest =>
      match Text.after? ['['] ((Text.after? "Generic".toList rest).getD rest) with
      | none => false
      | some numbered =>
        !(numbered.takeWhile Text.isDigit).isEmpty &&
          match Text.after? [']', '('] (numbered.dropWhile Text.isDigit) with
          | none => false
          | some operand => beginsWithNameAfterBlanks name operand

/-- Whether a name stands as a whole word before the bracket or line ends. -/
def namedInBrackets (name : List Char) : Option Char → List Char → Bool
  | before, [] => Text.isWordEdge before none && beginsWithName name []
  | before, c :: text =>
    (Text.isWordEdge before (some c) && beginsWithName name (c :: text)) ||
      (c != '>' && c != '\n' && namedInBrackets name (some c) text)

/-- Whether a call of a transfer function on a type that names the struct stands here; the
function may be the public form. -/
def callsTransfer (function : String) (name : List Char) (text : List Char) : Bool :=
  match Text.after? "transfer::".toList text with
  | none => false
  | some rest =>
    match Text.after? (function.toList ++ ['<']) ((Text.after? "public_".toList rest).getD rest) with
    | none => false
    | some types => namedInBrackets name (some '<') types

/-- Whether the disassembly of a function makes a use of the struct of this name. Only the four
uses that instructions show are found. -/
def Use.isIn (use : Use) (name body : List Char) : Bool :=
  match use with
  | created => somewhere (handlesStruct "Pack" name) none body
  | destroyed => somewhere (handlesStruct "Unpack" name) none body
  | transferred => somewhere (fun _ text => callsTransfer "transfer" name text) none body
  | shared => somewhere (fun _ text => callsTransfer "share_object" name text) none body
  | _ => false

/-- The uses that instructions show, in the order in which they are looked for. -/
def Use.shown : List Use :=
  [.created, .transferred, .shared, .destroyed]

/-! ### Definitions and usages -/

/-- The capabilities that a module's disassembly declares. -/
def declaredIn (module : String) (code : List Char) : List Definition :=
  (Listing.structs code).filterMap fun struct =>
    if isCapabilityName struct.name then
      some ⟨struct.name, module, module ++ "::" ++ struct.name, struct.abilities⟩
    else none

/-- The capability that a parameter takes, if it takes one. Its module is that of its full name
when this has three parts. -/
def takenBy? (function : Function) (param : Param) : Option Definition :=
  let name := param.structName
  if !name.isEmpty && isCapabilityName name then
    let id := param.structId?.getD name
    let module := match Text.split "::" id with
      | [_, module, _] => module
      | _ => function.module
    some ⟨name, module, id, []⟩
  else none

/-- The definitions with the first of each name kept. -/
def firstOfEachName (definitions : List Definition) : List Definition :=
  (definitions.foldl (fun known definition =>
    Entries.putNew known definition.name definition) []).map (·.2)

/-- The capabilities of a package: those declared, then those only taken as parameters. -/
def definitions (package : Package) (codes : List (String × List Char)) : List Definition :=
  firstOfEachName <|
    (codes.flatMap fun (module, code) => declaredIn module code) ++
      package.functions.flatMap fun function => function.params.filterMap (takenBy? function)

/-- How a function takes a capability as a parameter; the first such parameter tells. -/
def takenAs? (function : Function) (capability : String) : Option Use :=
  (function.params.find? (·.structName == capability)).map fun param =>
    match param.kind with
    | .reference => if param.isMutable? == some true then .borrowedMutably else .borrowed
    | _ => .parameter

/-- The uses as parameters, function by function. -/
def paramUsages (package : Package) (capabilities : List String) : List Usage :=
  package.functions.flatMap fun function =>
    capabilities.filterMap fun capability =>
      (takenAs? function capability).map (⟨capability, function.module, function.name, ·⟩)

/-- The functions of each module's disassembly. -/
abbrev Bodies := List (String × List (String × List Char))

/-- The uses that instructions show, capability by capability. -/
def bodyUsages (bodies : Bodies) (capabilities : List String) : List Usage :=
  capabilities.flatMap fun capability =>
    bodies.flatMap fun (module, functions) =>
      functions.flatMap fun (function, body) =>
        (Use.shown.filter (·.isIn capability.toList body)).map
          (⟨capability, module, function, ·⟩)

/-- The uses of capabilities in a package. -/
def usages (package : Package) (bodies : Bodies) (capabilities : List String) : List Usage :=
  paramUsages package capabilities ++ bodyUsages bodies capabilities

/-- The modules that use a capability, each once, in order of first use. -/
def modulesUsing (usages : List Usage) (capability : String) : List String :=
  Entries.distinct ((usages.filter (·.capability == capability)).map (·.module))

end MoveAudit.Capability
