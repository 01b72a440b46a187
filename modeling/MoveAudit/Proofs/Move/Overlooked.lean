/-
This file says which structs are overlooked when the types of parameters are searched for packages.
Of a parameter only its own struct and its type arguments are looked at, so a struct that stands
deeper, in a vector or among the type arguments of a type argument, is passed over. Its package is a
dependency all the same if it is named in another place. So no package is overlooked exactly if each
struct that stands deeper belongs to a package that is named openly somewhere.
-/

import MoveAudit.Proofs.Move.TypeArguments

namespace MoveAudit.Move

open Json

/-! ### Addresses -/

theorem mem_normalOf_iff {spelling : String} :
    '<' ∈ (Address.normalOf (.string spelling)).toList ↔ '<' ∈ spelling.toList := by
  rw [Address.normalOf_string, Address.normal, String.toList_ofList]
  exact Address.mem_normalChars_iff (by decide) ⟨by decide, by decide⟩ (by decide) (by decide)

/-! ### Places in a type -/

/-- The normal form of the address of a struct's package. -/
def StructName.package (name : StructName) : String :=
  Address.normalOf (.string name.address.text)

namespace MoveType

/-- The struct that a type is. -/
def head? : MoveType → Option StructName
  | struct name _ => some name
  | _ => none

/-- The structs that occur inside a type. -/
def inside : MoveType → List StructName
  | struct _ arguments => nodesOfAll arguments
  | type => type.nodes

/-- The structs of a parameter's type that are looked at: the one that it is, and those that its
type arguments are. -/
def shown : MoveType → List StructName
  | struct name arguments => name :: arguments.filterMap head?
  | _ => []

/-- The structs of a parameter's type that stand deeper. -/
def buried : MoveType → List StructName
  | struct _ arguments => arguments.flatMap inside
  | type => type.nodes

theorem mem_nodes_iff_head {type : MoveType} {name : StructName} :
    name ∈ type.nodes ↔ name ∈ type.head? ∨ name ∈ type.inside := by
  cases type with
  | struct own arguments =>
    rw [nodes, List.mem_cons, head?, inside, Option.mem_some_iff, eq_comm]
  | _ => exact ⟨.inr, fun place => place.resolve_left nofun⟩

/-- A struct that occurs in the type of a parameter is looked at, or it stands deeper. -/
theorem mem_nodes_iff {type : MoveType} {name : StructName} :
    name ∈ type.nodes ↔ name ∈ type.shown ∨ name ∈ type.buried := by
  cases type with
  | struct own arguments =>
    simp only [nodes, shown, buried, nodesOfAll_eq_flatMap, List.mem_cons, List.mem_flatMap,
      List.mem_filterMap, mem_nodes_iff_head, and_or_left, exists_or, or_assoc]
    rfl
  | _ => exact ⟨.inr, fun place => place.resolve_left nofun⟩

/-- What stands in front of the colons of a vector's text is the address of no package. -/
theorem normalOf_addressOf_vector_ne (element : MoveType) (name : StructName) :
    Address.normalOf (Extraction.addressOf (vector element).argumentText) ≠ name.package := by
  intro same
  have begins : "vector<".toList <+: Text.firstPiece "::".toList (vector element).text.toList := by
    rw [text, String.toList_append, String.toList_append, List.append_assoc]
    exact Text.prefix_firstPiece [':'] _ (by decide)
  have marked : '<' ∈ (Address.normalOf
      (Extraction.addressOf (vector element).argumentText)).toList := by
    refine mem_normalOf_iff.mpr ?_
    rw [String.toList_ofList]
    exact begins.subset (by decide)
  rw [same] at marked
  exact name.address.notMem (by decide) (mem_normalOf_iff.mp marked)

/-- The packages of structs that a type mentions are those of the structs that are looked at. A
vector among the type arguments may pass for a struct, but what is taken for its address is none. -/
theorem exists_mentioned_iff_shown {type : MoveType} {name : StructName} :
    (∃ id ∈ type.mentioned, Address.normalOf (Extraction.addressOf id) = name.package) ↔
      ∃ other ∈ type.shown, other.package = name.package := by
  cases type with
  | struct own arguments =>
    have isOwn : Address.normalOf (Extraction.addressOf own.full) = own.package := by
      rw [addressOf_full]
      rfl
    rw [shown, List.exists_mem_cons_iff]
    constructor
    · rintro ⟨id, isMentioned, same⟩
      rcases mem_mentioned_struct_iff.mp isMentioned with rfl | ⟨argument, isAmong, rfl, passes⟩
      · exact .inl (isOwn.symm.trans same)
      · rcases passes_iff.mp passes with ⟨inner, innerArguments, rfl⟩ | ⟨element, rfl, -⟩
        · rw [argumentText, addressOf_full] at same
          exact .inr ⟨inner, List.mem_filterMap.mpr ⟨_, isAmong, rfl⟩, same⟩
        · exact absurd same (normalOf_addressOf_vector_ne element name)
    · rintro (same | ⟨other, isShown, same⟩)
      · exact ⟨own.full, mem_mentioned_struct_iff.mpr (.inl rfl), isOwn.trans same⟩
      · obtain ⟨argument, isAmong, isHead⟩ := List.mem_filterMap.mp isShown
        cases argument with
        | struct inner innerArguments =>
          cases isHead
          refine ⟨other.full, mem_mentioned_struct_iff.mpr (.inr ⟨_, isAmong, rfl,
            passes_iff.mpr (.inl ⟨_, _, rfl⟩)⟩), ?_⟩
          rw [addressOf_full]
          exact same
        | _ => cases isHead
  | _ => exact iff_of_false (by rintro ⟨_, ⟨⟩, _⟩) (by rintro ⟨_, ⟨⟩, _⟩)

end MoveType

/-! ### Packages that are named -/

open Extraction

variable {modules disassembly : Members} {packageId : Option String}

/-- An address is named in a place that is looked at: by a struct that a public function takes, or
that is a type argument of one, by the dependency list of a module, or by an import line. -/
inductive NamedOpenly (modules disassembly : Members) (package : String) : Prop
  | taken {type : MoveType} {name : StructName} (takes : Takes modules type)
    (isShown : name ∈ type.shown) (same : name.package = package) :
    NamedOpenly modules disassembly package
  | declared {described : String × Value} {written : Value} (isModule : described ∈ modules)
    (isWritten : written ∈ writtenBy described) (same : Address.normalOf written = package) :
    NamedOpenly modules disassembly package
  | imported {written : Value} (isImported : written ∈ importAddresses disassembly)
    (same : Address.normalOf written = package) : NamedOpenly modules disassembly package

/-- An address is that of a framework package, or of the package that is read. -/
def IsExempt (packageId : Option String) (package : String) : Prop :=
  package ∈ Address.framework ∨ ∃ id ∈ packageId, id ≠ "" ∧ package = Address.normal id

/-- The package of each struct that occurs in the type of a parameter is a dependency, in some
spelling, unless it is exempt. -/
def NoneOverlooked (modules disassembly : Members) (packageId : Option String) : Prop :=
  ∀ type, Takes modules type → ∀ name ∈ type.nodes,
    name.package ∈
        (extract modules disassembly packageId).package.dependencies.map Address.normalOf ∨
      IsExempt packageId name.package

theorem isExempt_iff {package : String} :
    IsExempt packageId package ↔ package ∈ excludedAddresses packageId := by
  unfold IsExempt
  cases packageId with
  | none => simp [excludedAddresses]
  | some id =>
    by_cases empty : id = ""
    · simp [excludedAddresses, empty]
    · rw [mem_excludedAddresses_iff empty]
      simp [empty]

/-- The package of a struct is among the addresses that are looked at exactly if it is named openly.
-/
theorem exists_lookedAt_iff (wellFormed : AreWellFormed modules) {name : StructName} :
    (∃ written ∈ lookedAt modules disassembly packageId,
        name.package = Address.normalOf written) ↔
      NamedOpenly modules disassembly name.package := by
  unfold lookedAt
  constructor
  · rintro ⟨written, isLookedAt, same⟩
    rcases List.mem_append.mp isLookedAt with isDeclared | isOther
    · obtain ⟨described, isModule, isWritten⟩ := List.mem_flatMap.mp isDeclared
      exact .declared isModule isWritten same.symm
    rcases List.mem_append.mp isOther with isTaken | isImported
    · obtain ⟨function, isRead, isAddress⟩ := List.mem_flatMap.mp isTaken
      obtain ⟨param, isParam, isAddress⟩ := List.mem_flatMap.mp isAddress
      obtain ⟨id, isFound, rfl⟩ := List.mem_map.mp isAddress
      obtain ⟨type, takes, isMentioned⟩ :=
        (exists_mentioned_iff wellFormed).mp ⟨function, isRead, param, isParam, isFound⟩
      obtain ⟨other, isShown, same⟩ :=
        MoveType.exists_mentioned_iff_shown.mp ⟨id, isMentioned, same.symm⟩
      exact .taken takes isShown same
    · exact .imported isImported same.symm
  · intro named
    cases named with
    | taken takes isShown same =>
      obtain ⟨id, isMentioned, same⟩ := MoveType.exists_mentioned_iff_shown.mpr ⟨_, isShown, same⟩
      obtain ⟨function, isRead, param, isParam, isFound⟩ :=
        (@exists_mentioned_iff modules disassembly packageId wellFormed id).mpr
          ⟨_, takes, isMentioned⟩
      have isAddress : addressOf id ∈ paramAddresses function :=
        List.mem_flatMap.mpr ⟨param, isParam, List.mem_map_of_mem isFound⟩
      exact ⟨addressOf id, List.mem_append_right _ (List.mem_append_left _
        (List.mem_flatMap.mpr ⟨function, isRead, isAddress⟩)), same.symm⟩
    | declared isModule isWritten same =>
      exact ⟨_, List.mem_append_left _ (List.mem_flatMap.mpr ⟨_, isModule, isWritten⟩), same.symm⟩
    | imported isImported same =>
      exact ⟨_, List.mem_append_right _ (List.mem_append_right _ isImported), same.symm⟩

/-- The package of a struct that a parameter has is a dependency exactly if it is named openly and
is not exempt. -/
theorem package_mem_dependencies_iff (wellFormed : AreWellFormed modules) {type : MoveType}
    (takes : Takes modules type) {name : StructName} :
    name.package ∈
        (extract modules disassembly packageId).package.dependencies.map Address.normalOf ↔
      NamedOpenly modules disassembly name.package ∧ ¬ IsExempt packageId name.package := by
  have notEmpty : modules ≠ [] := by
    obtain ⟨_, ⟨isModule, _⟩, _⟩ := takes
    exact List.ne_nil_of_mem isModule
  rw [map_normalOf_dependencies notEmpty, Dependencies.mem_addAll_iff, isExempt_iff,
    exists_lookedAt_iff wellFormed]
  exact or_iff_right nofun

/-- No package is overlooked exactly if each struct that stands deeper in the type of a parameter
belongs to one that is named openly in some place, or that is exempt. -/
theorem none_overlooked_iff (wellFormed : AreWellFormed modules) :
    NoneOverlooked modules disassembly packageId ↔
      ∀ type, Takes modules type → ∀ name ∈ type.buried,
        NamedOpenly modules disassembly name.package ∨ IsExempt packageId name.package := by
  constructor
  · intro none type takes name isBuried
    refine (none type takes name (MoveType.mem_nodes_iff.mpr (.inr isBuried))).imp_left ?_
    exact fun counted => ((package_mem_dependencies_iff wellFormed takes).mp counted).1
  · intro named type takes name occurs
    by_cases isExempt : IsExempt packageId name.package
    · exact .inr isExempt
    · refine .inl ((package_mem_dependencies_iff wellFormed takes).mpr ⟨?_, isExempt⟩)
      rcases MoveType.mem_nodes_iff.mp occurs with isShown | isBuried
      · exact .taken takes isShown rfl
      · exact (named type takes name isBuried).resolve_right isExempt

/-! ### A module with one parameter -/

theorem namedOpenly_marketOf_iff {type : MoveType} {package : String} :
    NamedOpenly (marketOf type) [] package ↔ ∃ name ∈ type.shown, name.package = package := by
  constructor
  · intro named
    cases named with
    | taken takes isShown same =>
      obtain rfl := takes_marketOf_iff.mp takes
      exact ⟨_, isShown, same⟩
    | declared isModule isWritten =>
      obtain rfl := List.mem_singleton.mp isModule
      have isDeclared : declarations (.object [("exposedFunctions", .object [("list", .object [
          ("visibility", .string "Public"), ("parameters", .array [type.document])])])]) =
            .ok [] := rfl
      unfold writtenBy at isWritten
      rw [isDeclared] at isWritten
      split at isWritten
      · next nothing =>
        cases nothing
        cases isWritten
      · cases isWritten
    | imported isImported => cases isImported
  · rintro ⟨name, isShown, same⟩
    exact .taken (takes_marketOf_iff.mpr rfl) isShown same

/-- Coins that stand in a list are not overlooked beside a coin that is a type argument itself. -/
theorem none_overlooked_beside_coin :
    let modules := marketOf (tableOf coin (.vector coin))
    AreWellFormed modules ∧ NoneOverlooked modules [] (some "0xabc") := by
  intro modules
  have wellFormed : AreWellFormed modules := areWellFormed_marketOf _
  refine ⟨wellFormed, (none_overlooked_iff wellFormed).mpr fun type takes name isBuried => .inl ?_⟩
  obtain rfl := takes_marketOf_iff.mp takes
  refine namedOpenly_marketOf_iff.mpr ⟨name, List.mem_cons_of_mem _ ?_, rfl⟩
  simpa [tableOf, coin, MoveType.buried, MoveType.inside, MoveType.nodes, MoveType.nodesOfAll,
    MoveType.head?] using isBuried

/-- Coins that stand in a list and nowhere else are overlooked. -/
theorem coins_of_list_overlooked :
    let modules := marketOf (tableOf (.primitive ⟨"U64", by decide, by decide⟩) (.vector coin))
    let found := (extract modules [] (some "0xabc")).package.dependencies.map Address.normalOf
    AreWellFormed modules ∧ (∃ type, Takes modules type ∧ ∃ name ∈ type.nodes,
      name.package = "0xbbb") ∧ "0xbbb" ∉ found ∧ ¬ IsExempt (some "0xabc") "0xbbb" ∧
        ¬ NoneOverlooked modules [] (some "0xabc") := by
  intro modules found
  have wellFormed : AreWellFormed modules := areWellFormed_marketOf _
  have takes : Takes modules (tableOf (.primitive ⟨"U64", by decide, by decide⟩) (.vector coin)) :=
    takes_marketOf_iff.mpr rfl
  obtain ⟨name, occurs, isCoin⟩ : ∃ name ∈ (tableOf (.primitive ⟨"U64", by decide, by decide⟩)
      (.vector coin)).nodes, name.package = "0xbbb" := by
    refine ⟨⟨⟨"0xbbb", by decide, by decide⟩, ⟨"coin", by decide, by decide⟩,
      ⟨"Coin", by decide, by decide⟩⟩, ?_, by decide +kernel⟩
    simp [tableOf, coin, MoveType.nodes, MoveType.nodesOfAll]
  have notExempt : ¬ IsExempt (some "0xabc") "0xbbb" := by
    rw [isExempt_iff]
    decide +kernel
  have notNamed : ¬ NamedOpenly modules [] "0xbbb" := by
    rw [namedOpenly_marketOf_iff]
    rintro ⟨other, isShown, same⟩
    obtain rfl : other = ⟨⟨"0xaaa", by decide, by decide⟩, ⟨"table", by decide, by decide⟩,
        ⟨"Table", by decide, by decide⟩⟩ := by
      simpa [tableOf, MoveType.shown, MoveType.head?] using isShown
    exact absurd same (by decide +kernel)
  have notFound : "0xbbb" ∉ found := fun member =>
    notNamed (isCoin ▸ ((package_mem_dependencies_iff wellFormed takes).mp (isCoin ▸ member)).1)
  refine ⟨wellFormed, ⟨_, takes, name, occurs, isCoin⟩, notFound, notExempt, fun none => ?_⟩
  rcases none _ takes name occurs with isFound | isExempt
  · exact notFound (isCoin ▸ isFound)
  · exact notExempt (isCoin ▸ isExempt)

end MoveAudit.Move
