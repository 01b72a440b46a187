/-
This file holds the shape of one parameter of a public function: what kind of type it has, the
text of the type, and for a reference whether it may change what it points to and of what kind
that is. Shapes are read off the node's descriptions; one that fits no known form is kept as
unknown with its text.
-/

import MoveAudit.Move.Descriptor
import MoveAudit.Text.Search

namespace MoveAudit.Move

open Json

/-- The kinds of parameter types. -/
inductive Kind where
  | primitive
  | struct
  | vector
  | reference
  | typeParameter
  | unknown
  deriving DecidableEq, Repr

/-- The word for a kind in reports. -/
def Kind.word : Kind → String
  | primitive => "primitive"
  | struct => "struct"
  | vector => "vector"
  | reference => "reference"
  | typeParameter => "type_parameter"
  | unknown => "unknown"

/-- All kinds. -/
def Kind.all : List Kind :=
  [.primitive, .struct, .vector, .reference, .typeParameter, .unknown]

/-- The kind that a word stands for. -/
def Kind.ofWord? (word : String) : Option Kind :=
  Kind.all.find? (·.word == word)

/-- The shape of a parameter's type. -/
structure Param where
  kind : Kind
  /-- The name of a primitive type, the full name of a struct, the element type of a vector, the
  same of what a reference points to. -/
  text? : Option String := none
  typeArguments : List String := []
  /-- For a reference, whether it may change what it points to. -/
  isMutable? : Option Bool := none
  /-- For a reference, the kind of what it points to. -/
  referent? : Option Kind := none
  deriving DecidableEq, Repr

namespace Param

/-- The full name of the struct that the parameter is or points to. -/
def structId? (param : Param) : Option String :=
  match param.kind with
  | .struct => param.text?
  | .reference => if param.referent? = some .struct then param.text? else none
  | _ => none

/-- The name of that struct without address and module, empty when there is none. -/
def structName (param : Param) : String :=
  match param.structId? with
  | some id => String.ofList (Text.lastPiece "::".toList id.toList)
  | none => ""

/-- The text of the parameter's type. -/
def display (param : Param) : String :=
  let base := param.text?.getD "" ++
    (if param.typeArguments.isEmpty then ""
      else "<" ++ ", ".intercalate param.typeArguments ++ ">")
  match param.kind with
  | .reference => (if param.isMutable? = some true then "&mut " else "&") ++ base
  | _ => base

/-- The type arguments that are full names of structs: two separators, three parts. -/
def structArguments (param : Param) : List String :=
  param.typeArguments.filter fun argument => Text.count "::".toList argument.toList == 2

/-- The shape as a document; parts that are absent are left out. -/
def toJson (param : Param) : Value :=
  .object <|
    [("kind", .string param.kind.word)] ++
    (param.text?.map fun text => ("value", Value.string text)).toList ++
    (if param.typeArguments.isEmpty then [] else [("typeArgs", .ofTexts param.typeArguments)]) ++
    (param.isMutable?.map fun isMutable => ("mutable", Value.bool isMutable)).toList ++
    (param.referent?.map fun kind => ("referent", Value.string kind.word)).toList

/-- The shape that a document describes. -/
def ofJson (document : Value) : Param where
  kind := ((document.part "kind").text?.bind Kind.ofWord?).getD .unknown
  text? := (document.part "value").text?
  typeArguments := (document.part "type_args").texts
  isMutable? := match document.part "mutable" with
    | .bool isMutable => some isMutable
    | _ => none
  referent? := (document.part "referent").text?.bind Kind.ofWord?

/-- What a description points to when it describes a reference, and whether it may be changed. A
reference to a mutable reference counts as one mutable reference. -/
def target? (descriptor : Value) : Option (Value × Bool) :=
  match descriptor.member? "MutableReference" with
  | some inner => some (inner, true)
  | none =>
    match descriptor.member? "Reference" with
    | none => none
    | some inner =>
      match inner.member? "MutableReference" with
      | some innermost => some (innermost, true)
      | none => some (inner, false)

/-- A struct's full name and the texts of its type arguments. -/
def readStruct (struct : Value) : Except ShapeFault (String × List String) := do
  let id ← Descriptor.structId struct
  let arguments ← Descriptor.typeArguments struct
  return (id, ← arguments.mapM Descriptor.renderArgument)

/-- The kind of a described type that is no reference, its text and its type arguments. -/
def readTarget (descriptor : Value) : Except ShapeFault (Kind × String × List String) :=
  match descriptor with
  | .string name => .ok (.primitive, name, [])
  | _ =>
    match descriptor.member? "Struct", descriptor.member? "Vector",
        descriptor.member? "TypeParameter" with
    | some struct, _, _ => do return (.struct, ← readStruct struct)
    | _, some element, _ => do return (.vector, ← Descriptor.render element, [])
    | _, _, some index => .ok (.typeParameter, "T" ++ index.shown, [])
    | none, none, none => do return (.unknown, ← Descriptor.render descriptor, [])

/-- The shape of a described parameter. -/
def ofDescriptor (descriptor : Value) : Except ShapeFault Param :=
  match target? descriptor with
  | some (inner, isMutable) => do
    let (kind, text, arguments) ← readTarget inner
    return ⟨.reference, some text, arguments, some isMutable, some kind⟩
  | none => do
    let (kind, text, arguments) ← readTarget descriptor
    return ⟨kind, some text, arguments, none, none⟩

end Param

end MoveAudit.Move
