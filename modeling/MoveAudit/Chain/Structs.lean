/-
This file gathers the fields of the structs that a package refers to. Each struct is asked for once;
one whose name is malformed, or whose definition cannot be had, is given a field that says so, and
does not keep the others from being read.
-/

import MoveAudit.Act
import MoveAudit.Json.Shape
import MoveAudit.Json.Shown
import MoveAudit.Json.Writer
import MoveAudit.Move.Package

namespace MoveAudit.Structs

open Json Move

/-- The fields of structs, under the structs' full names. -/
abbrev Definitions := List (String × List Field)

/-- A way to the definition of a struct, from its package, its module and its name. -/
abbrev Source (World Refusal : Type) :=
  (package module name : String) → Act World Refusal Value

/-- The package, the module and the name in the full name of a struct. -/
def splitId? (id : String) : Option (String × String × String) :=
  match Text.split "::" id with
  | [package, module, name] =>
    if package.isEmpty || module.isEmpty || name.isEmpty then none else some (package, module, name)
  | _ => none

/-! ### Reading definitions -/

/-- The type of a field: a name, or else its description as it stands. -/
def typeText : Value → String
  | .string name => name
  | other => other.write .dense

/-- A described field; what is no object is none. -/
def fieldOf? : Value → Option Field
  | .object members =>
    let part := fun name => (Entries.get? members name).getD (.string "unknown")
    some ⟨(part "name").shown, typeText (part "type")⟩
  | _ => none

/-- The fields in a definition, if it has a list of them. -/
def fieldsIn (definition : Value) : Except ShapeFault (Option (List Field)) := do
  match ← (definition.full?.getD (.object [])).member "fields" with
  | .array items => return some (items.filterMap fieldOf?)
  | _ => return none

/-! ### Asking -/

variable {World Refusal : Type} [ToString Refusal]

/-- A notice on structs. -/
def notice (level : Console.Level) (event message : String) (fields : Members) : Notice :=
  { level, component := "StructResolver", event := "struct." ++ event, message, fields }

/-- The notice that a struct has no definition that could be used. -/
def failureNotice (id message : String) (fields : Members := []) : Notice :=
  notice .warning "fetch_failed" message (("struct_id", .string id) :: fields)

/-- The notice of the structs that were gathered. -/
def gatheredNotice (definitions : Definitions) : Notice :=
  notice .info "resolved" "结构体定义解析完成" [("total", .int definitions.length),
    ("unresolved", .int (definitions.countP fun (_, fields) => fields == [.unknown]))]

/-- The fields of one struct. -/
def fieldsOf (source : Source World Refusal) (id : String) : Act World ShapeFault (List Field) := do
  match splitId? id with
  | none =>
    Act.note (notice .warning "malformed_id" "结构体 ID 格式不正确" [("struct_id", .string id)])
    return [.unknown]
  | some (package, module, name) =>
    match ← (source package module name).settle with
    | .error refusal =>
      Act.note (failureNotice id "无法获取结构体定义" [("error", .string (toString refusal))])
      return [.unknown]
    | .ok definition =>
      match ← Act.ofExcept (fieldsIn definition) with
      | some fields => return fields
      | none =>
        Act.note (failureNotice id "结构体定义缺少字段")
        return [.unknown]

/-- The fields of structs, each asked for once, in order of first mention. All are asked for before
a definition of the wrong shape ends the matter. -/
def resolve (source : Source World Refusal) (ids : List String) :
    Act World ShapeFault Definitions := do
  let distinct := Entries.distinct ids
  if distinct.isEmpty then return []
  let outcomes ← distinct.mapM fun id => do return (id, ← (fieldsOf source id).settle)
  let definitions ← outcomes.mapM fun (id, outcome) => do return (id, ← Act.ofExcept outcome)
  Act.note (gatheredNotice definitions)
  return definitions

/-! ### Known definitions -/

/-- Definitions that are known beforehand, and the names that were asked for. -/
structure Shelf where
  known : Members
  asked : List String := []

/-- The definitions on a shelf as a source. -/
def Shelf.source : Source Shelf Unit := fun package module name => do
  let id := "::".intercalate [package, module, name]
  Act.change fun shelf => { shelf with asked := shelf.asked ++ [id] }
  match Entries.get? (← Act.look).known id with
  | some definition => return definition
  | none => throw ()

end MoveAudit.Structs
