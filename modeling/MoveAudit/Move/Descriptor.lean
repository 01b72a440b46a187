/-
This file reads the node's descriptions of Move types and writes them as text. A type is a name
for a primitive type, or an object with one member that tells its form: a struct with its type
arguments, a vector, a reference, or a type parameter. A description of no known form is shown as
the document it is.
-/

import MoveAudit.Json.Shape
import MoveAudit.Json.Shown
import MoveAudit.Json.Writer

namespace MoveAudit.Move.Descriptor

open Json

/-- The name of a struct in full: address, module and name. -/
def structId (struct : Value) : Except ShapeFault String := do
  let address ← struct.required "address"
  let module ← struct.required "module"
  let name ← struct.required "name"
  return address.shown ++ "::" ++ module.shown ++ "::" ++ name.shown

/-- The type arguments of a struct, under either spelling of their name. -/
def typeArguments (struct : Value) : Except ShapeFault (List Value) := do
  let camel ← struct.member "typeArguments"
  let arguments ← if camel.isNull then struct.member "type_arguments" else .ok camel
  arguments.partsOrNone

theorem rank_lt_of_mem_partsOrNone {struct value part : Value} {name : String} {all : List Value}
    (named : struct.member name = .ok value) (parted : value.partsOrNone = .ok all)
    (member : part ∈ all) : part.rank < struct.rank := by
  unfold Value.partsOrNone at parted
  split at parted
  · next full =>
    have below := Value.rank_lt_of_mem_parts parted member
    cases struct with
    | object members =>
      simp only [Value.member, Except.ok.injEq] at named
      cases found : Entries.get? members name with
      | none =>
        rw [found] at named
        cases named
        simp [Value.ofOption, Value.isFull] at full
      | some inner =>
        rw [found] at named
        cases named
        have := Value.rank_lt_of_get? found
        simp only [Value.ofOption, Option.getD_some] at below
        omega
    | _ => simp [Value.member] at named
  · cases parted
    cases member

theorem rank_lt_of_mem_typeArguments {struct argument : Value} {all : List Value}
    (found : typeArguments struct = .ok all) (member : argument ∈ all) :
    argument.rank < struct.rank := by
  unfold typeArguments at found
  cases camel : struct.member "typeArguments" with
  | error fault => rw [camel] at found; cases found
  | ok value =>
    rw [camel] at found
    cases snake : struct.member "type_arguments" with
    | error fault =>
      cases struct with
      | object members => cases snake
      | _ => cases camel
    | ok other =>
      simp only [bind, Except.bind, snake] at found
      split at found
      · exact rank_lt_of_mem_partsOrNone snake found member
      · exact rank_lt_of_mem_partsOrNone camel found member

/-- The text of a described type. -/
def render (descriptor : Value) : Except ShapeFault String :=
  match descriptor with
  | .string name => .ok name
  | .object members =>
    match _structFound : Entries.get? members "Struct" with
    | some struct => do
      let id ← structId struct
      match _argumentsFound : typeArguments struct with
      | .error fault => .error fault
      | .ok arguments =>
        let texts ← arguments.attach.mapM fun ⟨argument, _⟩ => render argument
        return if texts.isEmpty then id else id ++ "<" ++ ", ".intercalate texts ++ ">"
    | none =>
    match _vectorFound : Entries.get? members "Vector" with
    | some element => do return "vector<" ++ (← render element) ++ ">"
    | none =>
    match _referenceFound : Entries.get? members "Reference" with
    | some target => do return "&" ++ (← render target)
    | none =>
    match _mutableFound : Entries.get? members "MutableReference" with
    | some target => do return "&mut " ++ (← render target)
    | none =>
    match Entries.get? members "TypeParameter" with
    | some index => .ok ("T" ++ index.shown)
    | none => .ok (descriptor.write .compact)
  | other => .ok (other.write .compact)
termination_by descriptor.rank
decreasing_by
  · next member =>
    exact Nat.lt_trans (rank_lt_of_mem_typeArguments _argumentsFound member)
      (Value.rank_lt_of_get? _structFound)
  · exact Value.rank_lt_of_get? _vectorFound
  · exact Value.rank_lt_of_get? _referenceFound
  · exact Value.rank_lt_of_get? _mutableFound

/-- The text of a type argument: a struct is named in full without its own arguments. -/
def renderArgument (argument : Value) : Except ShapeFault String :=
  match argument.member? "Struct" with
  | some struct => structId struct
  | none =>
    match argument.member? "TypeParameter" with
    | some index => .ok ("T" ++ index.shown)
    | none => render argument

end MoveAudit.Move.Descriptor
