/-
This file gives the types that a node describes as syntax trees. A description is the document of a
tree, and what is written for it is the text of the tree. In such a text double colons stand between
the parts of names alone, two for each struct, so they count the structs that occur in a type.
-/

import MoveAudit.Move.Param
import MoveAudit.Proofs.Text.Count

namespace MoveAudit.Move

open Json

/-! ### Types -/

/-- A character of an identifier or of an address. -/
def isNameChar (c : Char) : Bool :=
  c.isAlphanum || c == '_'

/-- An identifier or an address. -/
structure Name where
  text : String
  nonempty : text ≠ ""
  characters : text.toList.all isNameChar = true

/-- The name of a struct with its module and the address of the package. -/
structure StructName where
  address : Name
  module : Name
  name : Name

/-- The name in full. -/
def StructName.full (name : StructName) : String :=
  name.address.text ++ "::" ++ name.module.text ++ "::" ++ name.name.text

/-- A type of a value. References are no such types; they stand around the type of a parameter. -/
inductive MoveType where
  | primitive (name : Name)
  | parameter (index : Nat)
  | vector (element : MoveType)
  | struct (name : StructName) (arguments : List MoveType)

namespace MoveType

mutual

/-- The names of the structs that occur in a type, at any depth. -/
def nodes : MoveType → List StructName
  | primitive _ => []
  | parameter _ => []
  | vector element => element.nodes
  | struct name arguments => name :: nodesOfAll arguments

@[inherit_doc nodes]
def nodesOfAll : List MoveType → List StructName
  | [] => []
  | first :: rest => first.nodes ++ nodesOfAll rest

end

theorem nodesOfAll_eq_flatMap (types : List MoveType) : nodesOfAll types = types.flatMap nodes := by
  induction types with
  | nil => rfl
  | cons first rest inductionHypothesis =>
    rw [nodesOfAll, inductionHypothesis, List.flatMap_cons]

mutual

/-- The text of a type. -/
def text : MoveType → String
  | primitive name => name.text
  | parameter index => "T" ++ (Value.int index).shown
  | vector element => "vector<" ++ element.text ++ ">"
  | struct name arguments =>
    if (textsOfAll arguments).isEmpty then name.full
    else name.full ++ "<" ++ ", ".intercalate (textsOfAll arguments) ++ ">"

@[inherit_doc text]
def textsOfAll : List MoveType → List String
  | [] => []
  | first :: rest => first.text :: textsOfAll rest

end

/-- The text of a type where it is a type argument of a parameter: a struct goes without its own. -/
def argumentText : MoveType → String
  | struct name _ => name.full
  | type => type.text

end MoveType

/-! ### Descriptions -/

/-- A struct lists its type arguments under either spelling of their name, or it has none. -/
inductive ListsArguments (members : Members) : List Value → Prop
  | camel {arguments : List Value}
    (found : Entries.get? members "typeArguments" = some (.array arguments)) :
    ListsArguments members arguments
  | snake {arguments : List Value} (absent : Entries.get? members "typeArguments" = none)
    (found : Entries.get? members "type_arguments" = some (.array arguments)) :
    ListsArguments members arguments
  | none (absent : Entries.get? members "typeArguments" = none)
    (absentToo : Entries.get? members "type_arguments" = none) : ListsArguments members []

/-- A document names a struct and lists its type arguments. -/
structure DescribesStruct (members : Members) (name : StructName) (arguments : List Value) :
    Prop where
  isAddress : Entries.get? members "address" = some (.string name.address.text)
  isModule : Entries.get? members "module" = some (.string name.module.text)
  isName : Entries.get? members "name" = some (.string name.name.text)
  lists : ListsArguments members arguments

mutual

/-- A document describes a type. -/
inductive Describes : MoveType → Value → Prop
  | primitive (name : Name) : Describes (.primitive name) (.string name.text)
  | parameter (index : Nat) :
    Describes (.parameter index) (.object [("TypeParameter", .int index)])
  | vector {element : MoveType} {inner : Value} (describes : Describes element inner) :
    Describes (.vector element) (.object [("Vector", inner)])
  | struct {name : StructName} {arguments : List MoveType} {members : Members} {values : List Value}
    (describes : DescribesStruct members name values) (all : DescribeAll arguments values) :
    Describes (.struct name arguments) (.object [("Struct", .object members)])

/-- Documents describe types, one by one. -/
inductive DescribeAll : List MoveType → List Value → Prop
  | nil : DescribeAll [] []
  | cons {first : MoveType} {rest : List MoveType} {value : Value} {others : List Value}
    (describes : Describes first value) (all : DescribeAll rest others) :
    DescribeAll (first :: rest) (value :: others)

end

namespace MoveType

mutual

/-- A description of a type. -/
def document : MoveType → Value
  | primitive name => .string name.text
  | parameter index => .object [("TypeParameter", .int index)]
  | vector element => .object [("Vector", element.document)]
  | struct name arguments => .object [("Struct", .object [
      ("address", .string name.address.text), ("module", .string name.module.text),
      ("name", .string name.name.text), ("typeArguments", .array (documents arguments))])]

@[inherit_doc document]
def documents : List MoveType → List Value
  | [] => []
  | first :: rest => first.document :: documents rest

end

mutual

theorem describes_document : ∀ type : MoveType, Describes type type.document
  | primitive name => by
    rw [document]
    exact .primitive name
  | parameter index => by
    rw [document]
    exact .parameter index
  | vector element => by
    rw [document]
    exact .vector (describes_document element)
  | struct name arguments => by
    rw [document]
    exact .struct ⟨rfl, rfl, rfl, .camel rfl⟩ (describeAll_documents arguments)

theorem describeAll_documents : ∀ types : List MoveType, DescribeAll types (documents types)
  | [] => by
    rw [documents]
    exact .nil
  | first :: rest => by
    rw [documents]
    exact .cons (describes_document first) (describeAll_documents rest)

end

end MoveType

theorem ListsArguments.unique {members : Members} {arguments others : List Value}
    (lists : ListsArguments members arguments) (listsToo : ListsArguments members others) :
    arguments = others := by
  cases lists <;> cases listsToo <;> simp_all

theorem Name.eq_of_text {name other : Name} (same : name.text = other.text) : name = other := by
  cases name
  cases other
  cases same
  rfl

theorem DescribesStruct.unique {members : Members} {name other : StructName}
    {arguments others : List Value} (describes : DescribesStruct members name arguments)
    (describesToo : DescribesStruct members other others) : name = other ∧ arguments = others := by
  have sameText {part partToo : String} {found : Option Value}
      (isPart : found = some (.string part)) (isPartToo : found = some (.string partToo)) :
      part = partToo := by
    rw [isPart] at isPartToo
    cases isPartToo
    rfl
  refine ⟨?_, describes.lists.unique describesToo.lists⟩
  have sameAddress := Name.eq_of_text (sameText describes.isAddress describesToo.isAddress)
  have sameModule := Name.eq_of_text (sameText describes.isModule describesToo.isModule)
  have sameName := Name.eq_of_text (sameText describes.isName describesToo.isName)
  cases name
  cases other
  cases sameAddress
  cases sameModule
  cases sameName
  rfl

mutual

/-- A document describes one type at most. -/
theorem Describes.unique {type other : MoveType} {value : Value} (describes : Describes type value)
    (describesToo : Describes other value) : type = other := by
  -- Documents of different forms differ in the name of their one member.
  generalize isValue : value = valueToo at describesToo
  cases describes with
  | primitive name =>
    cases describesToo with
    | primitive other => rw [Name.eq_of_text (Value.string.inj isValue)]
    | _ => cases isValue
  | parameter index =>
    cases describesToo with
    | parameter other =>
      have same : (index : Int) = other := by simpa using isValue
      rw [Int.ofNat_inj.mp same]
    | _ => simp at isValue
  | vector describes =>
    cases describesToo with
    | vector describesToo =>
      cases isValue
      rw [describes.unique describesToo]
    | _ => simp at isValue
  | struct describes all =>
    cases describesToo with
    | struct describesToo allToo =>
      cases isValue
      obtain ⟨rfl, rfl⟩ := describes.unique describesToo
      rw [all.unique allToo]
    | _ => simp at isValue

@[inherit_doc Describes.unique]
theorem DescribeAll.unique {types others : List MoveType} {values : List Value} :
    DescribeAll types values → DescribeAll others values → types = others
  | .nil, .nil => rfl
  | .cons describes all, .cons describesToo allToo => by
    rw [describes.unique describesToo, all.unique allToo]

end

/-! ### What is written for a description -/

section Members

variable {members : Members} {name : StructName} {arguments : List Value}

theorem DescribesStruct.structId_eq (describes : DescribesStruct members name arguments) :
    Descriptor.structId (.object members) = .ok name.full := by
  simp only [Descriptor.structId, Value.required, describes.isAddress, describes.isModule,
    describes.isName]
  rfl

theorem ListsArguments.typeArguments_eq (lists : ListsArguments members arguments) :
    Descriptor.typeArguments (.object members) = .ok arguments := by
  have parted (values : List Value) : (Value.array values).partsOrNone = .ok values := by
    cases values <;> rfl
  cases lists with
  | camel found =>
    simp only [Descriptor.typeArguments, Value.member, found]
    exact parted _
  | snake absent found =>
    simp only [Descriptor.typeArguments, Value.member, absent, found]
    exact parted _
  | none absent absentToo =>
    simp only [Descriptor.typeArguments, Value.member, absent, absentToo]
    rfl

end Members

theorem render_vector (inner : Value) : Descriptor.render (.object [("Vector", inner)]) =
    do return "vector<" ++ (← Descriptor.render inner) ++ ">" := by
  rw [Descriptor.render]
  split
  · next found => cases found
  · split
    · next found =>
      cases found
      rfl
    · next none => cases none

theorem render_parameter (index : Value) :
    Descriptor.render (.object [("TypeParameter", index)]) = .ok ("T" ++ index.shown) := by
  rw [Descriptor.render]
  split
  · next found => cases found
  split
  · next found => cases found
  split
  · next found => cases found
  split
  · next found => cases found
  rfl

theorem render_struct {members : Members} {id : String} {arguments : List Value}
    (isId : Descriptor.structId (.object members) = .ok id)
    (areArguments : Descriptor.typeArguments (.object members) = .ok arguments) :
    Descriptor.render (.object [("Struct", .object members)]) = do
      let texts ← arguments.mapM Descriptor.render
      return if texts.isEmpty then id else id ++ "<" ++ ", ".intercalate texts ++ ">" := by
  rw [Descriptor.render]
  split
  · next struct found =>
    cases found
    rw [isId]
    dsimp only [bind, Except.bind]
    split
    · next isFault =>
      rw [areArguments] at isFault
      cases isFault
    · next same =>
      rw [areArguments] at same
      cases same
      -- The arguments come with the proof that they lie below, which is not needed any more.
      rw [List.mapM_subtype fun _ _ => rfl, List.unattach_attach]
  · next none => cases none

mutual

/-- The text of a described type is what is written for the description. -/
theorem Describes.render_eq {type : MoveType} {value : Value} :
    Describes type value → Descriptor.render value = .ok type.text
  | .primitive name => by rw [Descriptor.render, MoveType.text]
  | .parameter index => by rw [render_parameter, MoveType.text]
  | .vector describes => by
    rw [render_vector, describes.render_eq, MoveType.text]
    rfl
  | .struct describes all => by
    rw [render_struct describes.structId_eq describes.lists.typeArguments_eq, all.render_eq,
      MoveType.text]
    rfl

@[inherit_doc Describes.render_eq]
theorem DescribeAll.render_eq {types : List MoveType} {values : List Value} :
    DescribeAll types values → values.mapM Descriptor.render = .ok (MoveType.textsOfAll types)
  | .nil => rfl
  | .cons describes all => by
    rw [List.mapM_cons, describes.render_eq, all.render_eq]
    rfl

end

theorem Describes.renderArgument_eq {type : MoveType} {value : Value}
    (describes : Describes type value) :
    Descriptor.renderArgument value = .ok type.argumentText := by
  have isText := describes.render_eq
  cases describes with
  | struct describes _ => exact describes.structId_eq
  | parameter index =>
    show _ = Except.ok (MoveType.parameter index).text
    rw [MoveType.text]
    rfl
  | _ => exact isText

/-! ### Colons -/

/-- A text has so many double colons, and no other colons. -/
def HasColons (text : String) (pairs : Nat) : Prop :=
  Text.HasMarks ':' [':'] text.toList pairs

theorem HasColons.none {text : String} (absent : ':' ∉ text.toList) : HasColons text 0 :=
  Text.HasMarks.none absent

theorem HasColons.append {before after : String} {pairs pairsToo : Nat}
    (colons : HasColons before pairs) (colonsToo : HasColons after pairsToo) :
    HasColons (before ++ after) (pairs + pairsToo) := by
  unfold HasColons
  rw [String.toList_append]
  exact Text.HasMarks.append colons colonsToo

theorem Name.notMem (name : Name) {c : Char} (other : isNameChar c = false) :
    c ∉ name.text.toList :=
  fun member => ne_true_of_eq_false other (List.all_eq_true.mp name.characters c member)

theorem Name.hasColons (name : Name) : HasColons name.text 0 :=
  .none (name.notMem (by decide))

theorem StructName.hasColons (name : StructName) : HasColons name.full 2 := by
  have mark : HasColons "::" 1 := Text.HasMarks.one
  exact (((name.address.hasColons.append mark).append name.module.hasColons).append mark).append
    name.name.hasColons

theorem toList_shown (index : Nat) : (Value.int index).shown.toList = Nat.toDigits 10 index := by
  show (Numeral.intText index).toList = _
  rw [Numeral.intText, String.toList_ofList, if_neg (by omega), Int.natAbs_natCast, List.nil_append]

theorem hasColons_index (index : Nat) : HasColons (Value.int index).shown 0 := by
  refine .none fun member => ?_
  rw [toList_shown] at member
  exact absurd (Nat.isDigit_of_mem_toDigits (by decide) (by decide) member) (by decide)

namespace MoveType

mutual

/-- The text of a type has two double colons for each struct that occurs in the type. -/
theorem hasColons_text : ∀ type : MoveType, HasColons type.text (2 * type.nodes.length)
  | primitive name => by
    rw [text, nodes]
    exact name.hasColons
  | parameter index => by
    rw [text, nodes]
    exact (HasColons.none (by decide)).append (hasColons_index index)
  | vector element => by
    rw [text, nodes, ← Nat.zero_add (2 * _)]
    exact ((HasColons.none (by decide)).append (hasColons_text element)).append
      (HasColons.none (by decide))
  | struct name [] => by
    rw [text, nodes]
    exact name.hasColons
  | struct name (first :: rest) => by
    have inside := hasColons_texts (first :: rest)
    have closing : HasColons ">" 0 := .none (by decide)
    have sum : 2 + 0 + 2 * (nodesOfAll (first :: rest)).length + 0 =
        2 * (name :: nodesOfAll (first :: rest)).length := by
      rw [List.length_cons]
      omega
    rw [text, nodes, ← sum]
    exact ((name.hasColons.append (.none (by decide))).append inside).append closing

@[inherit_doc hasColons_text]
theorem hasColons_texts : ∀ types : List MoveType,
    HasColons (", ".intercalate (textsOfAll types)) (2 * (nodesOfAll types).length)
  | [] => .none (by decide)
  | [only] => by
    rw [textsOfAll, textsOfAll, String.intercalate_singleton, nodesOfAll, nodesOfAll,
      List.append_nil]
    exact hasColons_text only
  | first :: next :: rest => by
    have here := hasColons_text first
    have inside := hasColons_texts (next :: rest)
    have comma : HasColons ", " 0 := .none (by decide)
    rw [textsOfAll, textsOfAll, String.intercalate_cons_cons, ← textsOfAll, nodesOfAll,
      List.length_append, Nat.mul_add, ← Nat.add_zero (2 * first.nodes.length)]
    exact (here.append comma).append inside

end

end MoveType

end MoveAudit.Move
