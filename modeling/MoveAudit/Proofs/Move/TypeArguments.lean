/-
This file says what the type arguments of parameters add to what is read of a package. Those that are
structs are told from the others by counting the double colons in their text. A struct passes that
count, and a vector in which just one struct occurs passes it too, although its text is no name. So
all names that are found are names of structs exactly if no parameter is a struct with such a vector
among its type arguments, or a reference to one.
-/

import MoveAudit.Proofs.Entries
import MoveAudit.Proofs.Move.Dependencies
import MoveAudit.Proofs.Move.Types

namespace MoveAudit.Move

open Json

/-! ### Parameters -/

/-- The full names that a parameter is found to mention: that of its struct, and its type arguments
that pass for full names. -/
def Param.mentioned (param : Param) : List String :=
  (param.structId?.filter (!·.isEmpty)).toList ++ param.structArguments

/-- A document describes a parameter of a type: the type itself, or a reference to it. -/
inductive DescribesParam (type : MoveType) : Value → Prop
  | own {value : Value} (describes : Describes type value) : DescribesParam type value
  | reference {value : Value} (describes : Describes type value) :
    DescribesParam type (.object [("Reference", value)])
  | mutableReference {value : Value} (describes : Describes type value) :
    DescribesParam type (.object [("MutableReference", value)])
  | both {value : Value} (describes : Describes type value) :
    DescribesParam type (.object [("Reference", .object [("MutableReference", value)])])

namespace MoveType

/-- The kind of a type, its text and its type arguments, as parameters keep them. -/
def shape : MoveType → Kind × String × List String
  | primitive name => (.primitive, name.text, [])
  | parameter index => (.typeParameter, (parameter index).text, [])
  | vector element => (.vector, element.text, [])
  | struct name arguments => (.struct, name.full, arguments.map argumentText)

/-- The full names that a parameter of a type is found to mention. -/
def mentioned : MoveType → List String
  | struct name arguments => name.full ::
    (arguments.map argumentText).filter fun argument =>
      Text.count "::".toList argument.toList == 2
  | _ => []

/-- A struct has a vector among its type arguments in which just one struct occurs, at any depth. -/
def HidesStruct : MoveType → Prop
  | struct _ arguments => ∃ element, vector element ∈ arguments ∧ element.nodes.length = 1
  | _ => False

end MoveType

theorem StructName.full_ne_empty (name : StructName) : name.full ≠ "" := by
  intro empty
  have marked : ':' ∈ name.full.toList := by
    simp [StructName.full, String.toList_append]
  rw [empty] at marked
  cases marked

theorem mapM_renderArgument {types : List MoveType} {values : List Value}
    (all : DescribeAll types values) :
    values.mapM Descriptor.renderArgument = .ok (types.map MoveType.argumentText) := by
  induction values generalizing types with
  | nil =>
    cases all
    rfl
  | cons value others inductionHypothesis =>
    cases all with
    | cons describes all =>
      rw [List.mapM_cons, describes.renderArgument_eq, inductionHypothesis all]
      rfl

theorem DescribesStruct.readStruct_eq {members : Members} {name : StructName}
    {arguments : List MoveType} {values : List Value}
    (describes : DescribesStruct members name values) (all : DescribeAll arguments values) :
    Param.readStruct (.object members) =
      .ok (name.full, arguments.map MoveType.argumentText) := by
  rw [Param.readStruct, describes.structId_eq, describes.lists.typeArguments_eq]
  dsimp only [bind, Except.bind]
  rw [mapM_renderArgument all]
  rfl

/-- A described type is read with its shape. -/
theorem Describes.readTarget_eq {type : MoveType} {value : Value} (describes : Describes type value) :
    Param.readTarget value = .ok type.shape := by
  cases describes with
  | primitive name => rfl
  | parameter index =>
    rw [MoveType.shape, MoveType.text]
    rfl
  | @vector element inner describes =>
    show (do return (Kind.vector, ← Descriptor.render inner, [])) = _
    rw [describes.render_eq]
    rfl
  | @struct name arguments members values describes all =>
    show (do return (Kind.struct, ← Param.readStruct (.object members))) = _
    rw [describes.readStruct_eq all]
    rfl

/-- A parameter of a type mentions what its type mentions, be it a reference or not. -/
theorem mentioned_own (type : MoveType) : let shape := type.shape
    (⟨shape.1, some shape.2.1, shape.2.2, none, none⟩ : Param).mentioned = type.mentioned := by
  cases type with
  | struct name arguments =>
    have kept : (some name.full).filter (!·.isEmpty) = some name.full := by
      simp [name.full_ne_empty]
    show ((some name.full).filter (!·.isEmpty)).toList ++ _ = _
    rw [kept]
    rfl
  | _ => rfl

theorem mentioned_reference (type : MoveType) (isMutable : Bool) : let shape := type.shape
    (⟨.reference, some shape.2.1, shape.2.2, some isMutable, some shape.1⟩ : Param).mentioned =
      type.mentioned := by
  refine Eq.trans ?_ (mentioned_own type)
  cases type <;> rfl

theorem Describes.target?_eq {type : MoveType} {value : Value} (describes : Describes type value) :
    Param.target? value = none ∧ value.member? "MutableReference" = none := by
  cases describes <;> exact ⟨rfl, rfl⟩

theorem Describes.target?_reference {type : MoveType} {value : Value}
    (describes : Describes type value) :
    Param.target? (.object [("Reference", value)]) = some (value, false) := by
  have isOuter : (Value.object [("Reference", value)]).member? "MutableReference" = none := rfl
  have isInner : (Value.object [("Reference", value)]).member? "Reference" = some value := rfl
  rw [Param.target?, isOuter, isInner]
  dsimp only
  rw [describes.target?_eq.2]

/-- A described parameter is read, and it mentions what its type mentions. -/
theorem DescribesParam.exists_param {type : MoveType} {descriptor : Value}
    (describes : DescribesParam type descriptor) :
    ∃ param, Param.ofDescriptor descriptor = .ok param ∧ param.mentioned = type.mentioned := by
  have behind {value : Value} {isMutable : Bool} (describes : Describes type value)
      (points : Param.target? descriptor = some (value, isMutable)) :
      ∃ param, Param.ofDescriptor descriptor = .ok param ∧ param.mentioned = type.mentioned := by
    refine ⟨_, ?_, mentioned_reference type isMutable⟩
    rw [Param.ofDescriptor, points]
    dsimp only
    rw [describes.readTarget_eq]
    rfl
  cases describes with
  | own describes =>
    refine ⟨_, ?_, mentioned_own type⟩
    rw [Param.ofDescriptor, describes.target?_eq.1]
    dsimp only
    rw [describes.readTarget_eq]
    rfl
  | reference describes => exact behind describes describes.target?_reference
  | mutableReference describes => exact behind describes rfl
  | both describes => exact behind describes rfl

/-! ### What passes for a full name -/

namespace MoveType

/-- A type argument passes for a full name if it is a struct, or a vector in which just one occurs. -/
theorem passes_iff {type : MoveType} :
    (Text.count "::".toList type.argumentText.toList == 2) = true ↔
      (∃ name arguments, type = struct name arguments) ∨
        ∃ element, type = vector element ∧ element.nodes.length = 1 := by
  have counted {text : String} {pairs : Nat} (colons : HasColons text pairs) :
      Text.count "::".toList text.toList = pairs := Text.HasMarks.count_eq colons
  rw [beq_iff_eq]
  cases type with
  | struct name arguments => exact iff_of_true (counted name.hasColons) (.inl ⟨_, _, rfl⟩)
  | vector element =>
    have twice := counted (hasColons_text (vector element))
    rw [nodes] at twice
    show Text.count "::".toList (vector element).text.toList = 2 ↔ _
    rw [twice]
    simp only [reduceCtorEq, exists_false, false_or, vector.injEq, exists_eq_left']
    omega
  | primitive name =>
    have none := counted (hasColons_text (primitive name))
    show Text.count "::".toList (primitive name).text.toList = 2 ↔ _
    rw [none]
    simp [nodes]
  | parameter index =>
    have none := counted (hasColons_text (parameter index))
    show Text.count "::".toList (parameter index).text.toList = 2 ↔ _
    rw [none]
    simp [nodes]

theorem mem_mentioned_struct_iff {name : StructName} {arguments : List MoveType} {id : String} :
    id ∈ (struct name arguments).mentioned ↔ id = name.full ∨ ∃ argument ∈ arguments,
      argument.argumentText = id ∧
        (Text.count "::".toList argument.argumentText.toList == 2) = true := by
  rw [mentioned, List.mem_cons, List.mem_filter, List.mem_map]
  refine or_congr_right ⟨?_, ?_⟩
  · rintro ⟨⟨argument, isAmong, rfl⟩, passes⟩
    exact ⟨argument, isAmong, rfl, passes⟩
  · rintro ⟨argument, isAmong, rfl, passes⟩
    exact ⟨⟨argument, isAmong, rfl⟩, passes⟩

/-- A type that hides no struct mentions only structs that occur in it. -/
theorem exists_node_of_mentioned {type : MoveType} (shows : ¬ type.HidesStruct) {id : String}
    (isMentioned : id ∈ type.mentioned) : ∃ name ∈ type.nodes, id = name.full := by
  cases type with
  | struct name arguments =>
    rw [nodes, nodesOfAll_eq_flatMap]
    rcases mem_mentioned_struct_iff.mp isMentioned with rfl | ⟨argument, isAmong, rfl, passes⟩
    · exact ⟨name, List.mem_cons_self, rfl⟩
    · rcases passes_iff.mp passes with ⟨inner, innerArguments, rfl⟩ | ⟨element, rfl, single⟩
      · have occurs : inner ∈ (struct inner innerArguments).nodes := by
          rw [nodes]
          exact List.mem_cons_self
        exact ⟨inner, List.mem_cons_of_mem _ (List.mem_flatMap.mpr ⟨_, isAmong, occurs⟩), rfl⟩
      · exact absurd ⟨element, isAmong, single⟩ shows
  | _ => cases isMentioned

theorem vector_text_ne_full (element : MoveType) (name : StructName) :
    (vector element).text ≠ name.full := by
  intro same
  have marked : '<' ∈ (vector element).text.toList := by
    rw [text]
    simp [String.toList_append]
  have unmarked : '<' ∉ name.full.toList := by
    have notMem (part : Name) : '<' ∉ part.text.toList := part.notMem (by decide)
    simp [StructName.full, String.toList_append, notMem]
  exact unmarked (same ▸ marked)

/-- A type that hides a struct mentions what is no full name. -/
theorem exists_mentioned_of_hides {type : MoveType} (hides : type.HidesStruct) :
    ∃ id ∈ type.mentioned, ∀ name : StructName, id ≠ name.full := by
  cases type with
  | struct name arguments =>
    obtain ⟨element, isAmong, single⟩ := hides
    have passes := passes_iff.mpr (.inr ⟨element, rfl, single⟩)
    exact ⟨(vector element).text, mem_mentioned_struct_iff.mpr (.inr ⟨_, isAmong, rfl, passes⟩),
      vector_text_ne_full element⟩
  | _ => cases hides

end MoveType

theorem addressOf_full (name : StructName) :
    Extraction.addressOf name.full = .string name.address.text := by
  have isId : Descriptor.structId (.object [("address", .string name.address.text),
      ("module", .string name.module.text), ("name", .string name.name.text)]) = .ok name.full := rfl
  exact (Extraction.addressOf_structId rfl (name.address.notMem (by decide)) isId).2

/-! ### Parameters of a package -/

open Extraction

/-- A public function of a module that can be read has a parameter of this description. -/
inductive HasParam (modules : Members) (descriptor : Value) : Prop
  | intro {described function : String × Value} {params : List Value}
    (isModule : described ∈ modules) (readable : IsReadable described.1 described.2)
    (isExposed : function ∈ exposedOf described.2)
    (isPublic : function.2.part "visibility" = .string "Public")
    (areParams : (function.2.part "parameters").partsOrNone = .ok params)
    (isParam : descriptor ∈ params) : HasParam modules descriptor

/-- The documents of all parameters describe types. -/
def AreWellFormed (modules : Members) : Prop :=
  ∀ descriptor, HasParam modules descriptor → ∃ type, DescribesParam type descriptor

/-- A public function has a parameter of a type, or of a reference to it. -/
def Takes (modules : Members) (type : MoveType) : Prop :=
  ∃ descriptor, HasParam modules descriptor ∧ DescribesParam type descriptor

/-- The dependencies that are counted because of parameters: those that were not known from what
the modules declare. -/
def addedByParams (modules disassembly : Members) (packageId : Option String) : List Value :=
  let declared := (readModules (excludedAddresses packageId) [] modules).2.1
  let functions := (extract modules disassembly packageId).package.functions
  let taken := declared.addAll (excludedAddresses packageId) (functions.flatMap paramAddresses)
  (taken.drop declared.length).map Prod.snd

/-- Each full name that is reported is one of a struct that occurs in the type of a parameter, and
each dependency that is added because of parameters is the address of such a struct. -/
structure NothingInvented (modules disassembly : Members) (packageId : Option String) : Prop where
  structs : ∀ id ∈ (extract modules disassembly packageId).package.referencedStructs,
    ∃ type, Takes modules type ∧ ∃ name ∈ type.nodes, id = name.full
  dependencies : ∀ address ∈ addedByParams modules disassembly packageId,
    ∃ type, Takes modules type ∧ ∃ name ∈ type.nodes, address = .string name.address.text

/-! ### A module with one parameter -/

/-- A module with one public function, which takes a value of a type. -/
def marketOf (type : MoveType) : Members :=
  [("market", .object [("exposedFunctions", .object [("list", .object [
    ("visibility", .string "Public"), ("parameters", .array [type.document])])])])]

theorem isReadable_marketOf {type : MoveType} {described : String × Value}
    (isModule : described ∈ marketOf type) : IsReadable described.1 described.2 := by
  obtain rfl := List.mem_singleton.mp isModule
  obtain ⟨param, isShape, -⟩ := (DescribesParam.own (MoveType.describes_document type)).exists_param
  have areShapes : [type.document].mapM Param.ofDescriptor = .ok [param] := by
    rw [List.mapM_cons, isShape]
    rfl
  refine ⟨[⟨"market", "list", [param], false, 0⟩], [], ?_, rfl, List.forall_mem_nil _⟩
  have isRead : readFunction "market" "list" (.object [("visibility", .string "Public"),
      ("parameters", .array [type.document])]) =
        .ok (some ⟨"market", "list", [param], false, 0⟩) := by
    show (do
      let params ← [type.document].mapM Param.ofDescriptor
      return some (Function.mk "market" "list" params false 0)) = _
    rw [areShapes]
    rfl
  show (do
    let kept ← [("list", _)].mapM fun (member : String × Value) =>
      readFunction "market" member.1 member.2
    return kept.filterMap id) = _
  rw [List.mapM_cons, isRead]
  rfl

theorem hasParam_marketOf_iff {type : MoveType} {descriptor : Value} :
    HasParam (marketOf type) descriptor ↔ descriptor = type.document := by
  constructor
  · rintro ⟨isModule, -, isExposed, -, areParams, isParam⟩
    obtain rfl := List.mem_singleton.mp isModule
    obtain rfl := List.mem_singleton.mp isExposed
    cases areParams
    exact List.mem_singleton.mp isParam
  · rintro rfl
    exact ⟨List.mem_cons_self, isReadable_marketOf List.mem_cons_self, List.mem_cons_self, rfl, rfl,
      List.mem_cons_self⟩

theorem areWellFormed_marketOf (type : MoveType) : AreWellFormed (marketOf type) := by
  intro descriptor hasParam
  obtain rfl := hasParam_marketOf_iff.mp hasParam
  exact ⟨type, .own (MoveType.describes_document type)⟩

theorem takes_marketOf_iff {type other : MoveType} :
    Takes (marketOf type) other ↔ other = type := by
  have isOwn := MoveType.describes_document type
  constructor
  · rintro ⟨descriptor, hasParam, describes⟩
    obtain rfl := hasParam_marketOf_iff.mp hasParam
    have notBehind := isOwn.target?_eq.1
    generalize type.document = descriptor at isOwn describes notBehind
    cases describes with
    | own describes => exact describes.unique isOwn
    | reference describes =>
      rw [describes.target?_reference] at notBehind
      cases notBehind
    | _ => cases notBehind
  · rintro rfl
    exact ⟨other.document, hasParam_marketOf_iff.mpr rfl, .own isOwn⟩

/-- A coin. -/
def coin : MoveType :=
  .struct ⟨⟨"0xbbb", by decide, by decide⟩, ⟨"coin", by decide, by decide⟩,
    ⟨"Coin", by decide, by decide⟩⟩ []

/-- A table of keys and values. -/
def tableOf (key value : MoveType) : MoveType :=
  .struct ⟨⟨"0xaaa", by decide, by decide⟩, ⟨"table", by decide, by decide⟩,
    ⟨"Table", by decide, by decide⟩⟩ [key, value]

/-! ### What is read of parameters -/

section Packages

variable {modules disassembly : Members} {packageId : Option String}

theorem exists_addedByParams : ∃ added,
    Dependencies.addAll (excludedAddresses packageId)
        (readModules (excludedAddresses packageId) [] modules).2.1
        ((extract modules disassembly packageId).package.functions.flatMap paramAddresses) =
      (readModules (excludedAddresses packageId) [] modules).2.1 ++ added ∧
    addedByParams modules disassembly packageId = added.map Prod.snd ∧
    ∀ address ∈ addedByParams modules disassembly packageId,
      ∃ function ∈ (extract modules disassembly packageId).package.functions,
        address ∈ paramAddresses function := by
  obtain ⟨added, isAdded, all⟩ := Dependencies.exists_added (excludedAddresses packageId)
    (readModules (excludedAddresses packageId) [] modules).2.1
    ((extract modules disassembly packageId).package.functions.flatMap paramAddresses)
  have same : addedByParams modules disassembly packageId = added.map Prod.snd := by
    unfold addedByParams
    dsimp only
    rw [isAdded, List.drop_left]
  refine ⟨added, isAdded, same, fun address member => ?_⟩
  rw [same] at member
  obtain ⟨entry, isEntry, rfl⟩ := List.mem_map.mp member
  exact List.mem_flatMap.mp (all entry isEntry)

/-- A package depends on what its modules declare, then on what is added because of parameters, then
on what it imports. -/
theorem dependencies_eq_append (some : modules ≠ []) :
    ∃ imported, (extract modules disassembly packageId).package.dependencies =
        declaredBy packageId modules ++ addedByParams modules disassembly packageId ++ imported ∧
      ∀ address ∈ imported, address ∈ importAddresses disassembly := by
  obtain ⟨added, isAdded, same, -⟩ := @exists_addedByParams modules disassembly packageId
  obtain ⟨imported, isImported, all⟩ := Dependencies.exists_added (excludedAddresses packageId)
    ((readModules (excludedAddresses packageId) [] modules).2.1 ++ added)
    (importAddresses disassembly)
  refine ⟨imported.map Prod.snd, ?_, List.forall_mem_map.mpr all⟩
  rw [dependencies_extract some, Dependencies.addAll_append, Dependencies.addAll_append,
    ← readModules_snd, isAdded, isImported, same, declaredBy, List.map_append, List.map_append]

/-- The parameters that are read are those that public functions have. -/
theorem exists_param_iff {param : Param} :
    (∃ function ∈ (extract modules disassembly packageId).package.functions,
        param ∈ function.params) ↔
      ∃ descriptor, HasParam modules descriptor ∧ Param.ofDescriptor descriptor = .ok param := by
  constructor
  · rintro ⟨function, isRead, isParam⟩
    obtain ⟨described, isModule, readable, member, isExposed, isOwn⟩ :=
      mem_functions_extract_iff.mp isRead
    obtain ⟨isPublic, params, areParams, each⟩ := exists_params_of_readFunction isOwn
    obtain ⟨descriptor, isDescriptor, isShape⟩ := (mem_outcomes_iff each).mp isParam
    exact ⟨descriptor, ⟨isModule, readable, isExposed, isPublic, areParams, isDescriptor⟩, isShape⟩
  · rintro ⟨descriptor, ⟨isModule, readable, isExposed, isPublic, areParams, isDescriptor⟩, isShape⟩
    obtain ⟨functions, _, areRead, _⟩ := id readable
    obtain ⟨function, _, isOwn⟩ := exists_function_of_public areRead isExposed isPublic
    obtain ⟨_, others, areOthers, each⟩ := exists_params_of_readFunction isOwn
    rw [areParams] at areOthers
    cases areOthers
    exact ⟨function, mem_functions_extract_iff.mpr ⟨_, isModule, readable, _, isExposed, isOwn⟩,
      (mem_outcomes_iff each).mpr ⟨descriptor, isDescriptor, isShape⟩⟩

/-- The full names that are found in parameters are those that their types mention. -/
theorem exists_mentioned_iff (wellFormed : AreWellFormed modules) {id : String} :
    (∃ function ∈ (extract modules disassembly packageId).package.functions,
        ∃ param ∈ function.params, id ∈ param.mentioned) ↔
      ∃ type, Takes modules type ∧ id ∈ type.mentioned := by
  constructor
  · rintro ⟨function, isRead, param, isParam, isMentioned⟩
    obtain ⟨descriptor, hasParam, isShape⟩ := exists_param_iff.mp ⟨function, isRead, isParam⟩
    obtain ⟨type, describes⟩ := wellFormed descriptor hasParam
    -- What is read of the document is what its type says, since it is read in one way only.
    obtain ⟨other, isOther, same⟩ := describes.exists_param
    rw [isShape] at isOther
    cases isOther
    exact ⟨type, ⟨descriptor, hasParam, describes⟩, same ▸ isMentioned⟩
  · rintro ⟨type, ⟨descriptor, hasParam, describes⟩, isMentioned⟩
    obtain ⟨param, isShape, same⟩ := describes.exists_param
    obtain ⟨function, isRead, isParam⟩ := exists_param_iff.mpr ⟨descriptor, hasParam, isShape⟩
    exact ⟨function, isRead, param, isParam, same ▸ isMentioned⟩

theorem mem_referencedStructs_iff (wellFormed : AreWellFormed modules) {id : String} :
    id ∈ (extract modules disassembly packageId).package.referencedStructs ↔
      ∃ type, Takes modules type ∧ id ∈ type.mentioned := by
  rw [← @exists_mentioned_iff modules disassembly packageId wellFormed, Package.referencedStructs,
    Entries.mem_distinct, List.mem_flatMap]
  exact exists_congr fun function => and_congr_right fun _ => List.mem_flatMap

theorem exists_mentioned_of_added (wellFormed : AreWellFormed modules) {address : Value}
    (isAdded : address ∈ addedByParams modules disassembly packageId) :
    ∃ type, Takes modules type ∧ ∃ id ∈ type.mentioned, addressOf id = address := by
  obtain ⟨added, -, -, all⟩ := @exists_addedByParams modules disassembly packageId
  obtain ⟨function, isRead, isAddress⟩ := all address isAdded
  obtain ⟨param, isParam, isAddress⟩ := List.mem_flatMap.mp isAddress
  obtain ⟨id, isMentioned, same⟩ := List.mem_map.mp isAddress
  obtain ⟨type, takes, isMentioned⟩ :=
    (exists_mentioned_iff wellFormed).mp ⟨function, isRead, param, isParam, isMentioned⟩
  exact ⟨type, takes, id, isMentioned, same⟩

/-- What a type mentions is reported as a struct, and its address as a dependency, unless that is
excluded. -/
theorem reported_of_mentioned (wellFormed : AreWellFormed modules) {type : MoveType}
    (takes : Takes modules type) {id : String} (isMentioned : id ∈ type.mentioned)
    (counts : Address.normalOf (addressOf id) ∉ excludedAddresses packageId) :
    id ∈ (extract modules disassembly packageId).package.referencedStructs ∧
      Address.normalOf (addressOf id) ∈
        (extract modules disassembly packageId).package.dependencies.map Address.normalOf := by
  refine ⟨(mem_referencedStructs_iff wellFormed).mpr ⟨type, takes, isMentioned⟩, ?_⟩
  obtain ⟨function, isRead, param, isParam, isFound⟩ :=
    (@exists_mentioned_iff modules disassembly packageId wellFormed id).mpr ⟨type, takes, isMentioned⟩
  have notEmpty : modules ≠ [] := by
    rintro rfl
    cases isRead
  have isTaken : addressOf id ∈ paramAddresses function :=
    List.mem_flatMap.mpr ⟨param, isParam, List.mem_map_of_mem isFound⟩
  rw [map_normalOf_dependencies notEmpty, Dependencies.mem_addAll_iff]
  refine .inr ⟨⟨addressOf id, ?_, rfl⟩, counts⟩
  exact List.mem_append_right _ (List.mem_append_left _ (List.mem_flatMap.mpr ⟨_, isRead, isTaken⟩))

/-- A parameter that hides a struct leads to a report of what is none. -/
theorem invented_of_hides (wellFormed : AreWellFormed modules) {type : MoveType}
    (takes : Takes modules type) (hides : type.HidesStruct) :
    ¬ NothingInvented modules disassembly packageId := by
  intro nothing
  obtain ⟨id, isMentioned, isNoName⟩ := MoveType.exists_mentioned_of_hides hides
  obtain ⟨_, _, name, _, same⟩ :=
    nothing.structs id ((mem_referencedStructs_iff wellFormed).mpr ⟨type, takes, isMentioned⟩)
  exact isNoName name same

/-- Nothing is invented exactly if no parameter is a struct, or a reference to one, with a vector
among its type arguments in which just one struct occurs. -/
theorem nothing_invented_iff (wellFormed : AreWellFormed modules) :
    NothingInvented modules disassembly packageId ↔
      ∀ type, Takes modules type → ¬ type.HidesStruct := by
  constructor
  · exact fun nothing type takes hides => invented_of_hides wellFormed takes hides nothing
  · intro shows
    refine ⟨fun id isReported => ?_, fun address isAdded => ?_⟩
    · obtain ⟨type, takes, isMentioned⟩ := (mem_referencedStructs_iff wellFormed).mp isReported
      exact ⟨type, takes, MoveType.exists_node_of_mentioned (shows type takes) isMentioned⟩
    · obtain ⟨type, takes, id, isMentioned, same⟩ := exists_mentioned_of_added wellFormed isAdded
      obtain ⟨name, occurs, rfl⟩ :=
        MoveType.exists_node_of_mentioned (shows type takes) isMentioned
      exact ⟨type, takes, name, occurs, same.symm.trans (addressOf_full name)⟩

end Packages

/-- A table with bytes as values leads to nothing that is invented. -/
theorem nothing_invented_of_bytes :
    let modules := marketOf (tableOf coin (.vector (.primitive ⟨"u8", by decide, by decide⟩)))
    AreWellFormed modules ∧ NothingInvented modules [] (some "0xabc") := by
  intro modules
  have wellFormed : AreWellFormed modules := areWellFormed_marketOf _
  refine ⟨wellFormed, (nothing_invented_iff wellFormed).mpr fun type takes => ?_⟩
  obtain rfl := takes_marketOf_iff.mp takes
  rintro ⟨element, isAmong, single⟩
  obtain rfl : element = .primitive ⟨"u8", by decide, by decide⟩ := by simpa [coin] using isAmong
  simp [MoveType.nodes] at single

/-- A table with lists of coins as values leads to the report of a struct and of a package that do not
exist. -/
theorem list_of_coins_is_invented :
    let modules := marketOf (tableOf coin (.vector coin))
    let package := (extract modules [] (some "0xabc")).package
    AreWellFormed modules ∧ "vector<0xbbb::coin::Coin>" ∈ package.referencedStructs ∧
      "0xvector<0xbbb" ∈ package.dependencies.map Address.normalOf ∧
      ¬ NothingInvented modules [] (some "0xabc") := by
  intro modules package
  have wellFormed : AreWellFormed modules := areWellFormed_marketOf _
  have takes : Takes modules (tableOf coin (.vector coin)) := takes_marketOf_iff.mpr rfl
  have isAmong : MoveType.vector coin ∈ [coin, .vector coin] := by simp
  have single : coin.nodes.length = 1 := by simp [coin, MoveType.nodes, MoveType.nodesOfAll]
  have isText : (MoveType.vector coin).argumentText = "vector<0xbbb::coin::Coin>" := by
    decide +kernel
  have isAddress : Address.normalOf (addressOf "vector<0xbbb::coin::Coin>") = "0xvector<0xbbb" := by
    decide +kernel
  have isMentioned : "vector<0xbbb::coin::Coin>" ∈ (tableOf coin (.vector coin)).mentioned :=
    MoveType.mem_mentioned_struct_iff.mpr (.inr ⟨.vector coin, isAmong, isText,
      MoveType.passes_iff.mpr (.inr ⟨coin, rfl, single⟩)⟩)
  obtain ⟨isReported, isDependency⟩ := @reported_of_mentioned modules [] (some "0xabc") wellFormed _
    takes _ isMentioned (by rw [isAddress]; decide +kernel)
  exact ⟨wellFormed, isReported, isAddress ▸ isDependency,
    invented_of_hides wellFormed takes ⟨coin, isAmong, single⟩⟩

end MoveAudit.Move
