/-
This file says what a package is found to depend on. Addresses are named in three kinds of places: in
the dependency lists of modules, in the structs that public functions take, and in the import lines of
the disassembly. They are all counted in one table under their normal forms, so each address that is
named anywhere is there once, however it is spelled, and nothing that is excluded is.
-/

import MoveAudit.Proofs.Move.Address
import MoveAudit.Proofs.Move.Skipping
import MoveAudit.Proofs.Text.Search

namespace MoveAudit.Move

open Json

/-! ### Where addresses are named -/

/-- A described parameter is a struct, or a reference to one. -/
inductive TakesStruct (descriptor struct : Value) : Prop
  | directly (isOwn : Param.target? descriptor = none)
    (isStruct : descriptor.member? "Struct" = some struct) : TakesStruct descriptor struct
  | behind {target : Value} {isMutable : Bool}
    (points : Param.target? descriptor = some (target, isMutable))
    (isStruct : target.member? "Struct" = some struct) : TakesStruct descriptor struct

/-- An address is named by a module that is not skipped, in its dependency list or by a struct that a
public function takes, or by an import line. -/
inductive Names (modules disassembly : Members) (skipped : List String) : Value → Prop
  | declared {name : String} {description entry address : Value} {entries : List Value}
    (isModule : (name, description) ∈ modules) (isRead : name ∉ skipped)
    (areEntries : (description.part "dependencies").parts = .ok entries) (isEntry : entry ∈ entries)
    (gives : Extraction.declaredAddress entry = .ok address) :
    Names modules disassembly skipped address
  | taken {name : String} {description descriptor struct : Value} {function : String × Value}
    {params : List Value} {address : String}
    (isModule : (name, description) ∈ modules) (isRead : name ∉ skipped)
    (isExposed : function ∈ Extraction.exposedOf description)
    (isPublic : function.2.part "visibility" = .string "Public")
    (areParams : (function.2.part "parameters").parts = .ok params) (isParam : descriptor ∈ params)
    (takes : TakesStruct descriptor struct) (isAddress : struct.part "address" = .string address)
    (unmarked : ':' ∉ address.toList) : Names modules disassembly skipped (.string address)
  | imported {name text : String} {before rest : List Char} {line : Listing.Import}
    (isText : (name, .string text) ∈ disassembly) (begins : Listing.BeginsLine before)
    (proper : line.IsProper) (stands : text.toList = before ++ (line.text ++ rest)) :
    Names modules disassembly skipped (.string (String.ofList (line.mark ++ line.digits)))

/-! ### What is counted of each place -/

namespace Extraction

theorem partsOrNone_of_mem_parts {value part : Value} {parts : List Value}
    (areParts : value.parts = .ok parts) (member : part ∈ parts) :
    value.partsOrNone = .ok parts := by
  refine (if_pos ?_).trans areParts
  cases value with
  | array items =>
    cases areParts
    cases parts with
    | nil => cases member
    | cons first rest => rfl
  | object members =>
    cases areParts
    cases members with
    | nil => cases member
    | cons first rest => rfl
  | string text =>
    cases areParts
    cases empty : text.isEmpty with
    | true =>
      rw [String.isEmpty_iff.mp empty] at member
      cases member
    | false => simp [Value.isFull, empty]
  | _ => cases areParts

theorem mem_declaredUntilFault {declared : List Value} {entry address : Value}
    (readable : ∀ entry ∈ declared, ∃ written, declaredAddress entry = .ok written)
    (member : entry ∈ declared) (gives : declaredAddress entry = .ok address) :
    address ∈ declaredUntilFault declared := by
  induction declared with
  | nil => cases member
  | cons first rest inductionHypothesis =>
    obtain ⟨⟨written, isFirst⟩, others⟩ := List.forall_mem_cons.mp readable
    unfold declaredUntilFault
    rw [isFirst]
    rcases List.mem_cons.mp member with rfl | isLater
    · rw [gives] at isFirst
      cases isFirst
      exact List.mem_cons_self
    · exact List.mem_cons_of_mem _ (inductionHypothesis others isLater)

/-- The dependency list of a readable module is counted as a whole. -/
theorem mem_writtenBy {name : String} {description entry address : Value} {entries : List Value}
    (readable : IsReadable name description)
    (areEntries : (description.part "dependencies").parts = .ok entries) (isEntry : entry ∈ entries)
    (gives : declaredAddress entry = .ok address) : address ∈ writtenBy (name, description) := by
  obtain ⟨functions, declared, isRead, isDeclared, all⟩ := readable
  unfold writtenBy
  dsimp only
  rw [isRead, isDeclared]
  obtain ⟨found, isFound, areParts⟩ := ok_of_bind isDeclared
  rw [eq_part_of_member isFound, partsOrNone_of_mem_parts areEntries isEntry] at areParts
  cases areParts
  exact mem_declaredUntilFault all isEntry gives

theorem mem_paramAddresses_iff {function : Function} {address : Value} :
    address ∈ paramAddresses function ↔ ∃ param ∈ function.params, ∃ id,
      (param.structId? = some id ∧ id ≠ "" ∨ id ∈ param.structArguments) ∧
        addressOf id = address := by
  simp only [paramAddresses, List.mem_flatMap, List.mem_map, List.mem_append, Option.mem_toList,
    Option.filter_eq_some_iff, Bool.not_eq_true', ← Bool.not_eq_true, String.isEmpty_iff]

/-- A described struct is read as a struct under its full name. -/
theorem structId_of_readTarget {target struct : Value} {kind : Kind} {text : String}
    {arguments : List String} (isStruct : target.member? "Struct" = some struct)
    (isRead : Param.readTarget target = .ok (kind, text, arguments)) :
    kind = .struct ∧ Descriptor.structId struct = .ok text := by
  unfold Param.readTarget at isRead
  split at isRead
  · cases isStruct
  · rw [isStruct] at isRead
    obtain ⟨⟨id, texts⟩, isStruct, same⟩ := ok_of_bind isRead
    cases same
    obtain ⟨other, isId, rest⟩ := ok_of_bind isStruct
    obtain ⟨_, _, rest⟩ := ok_of_bind rest
    obtain ⟨_, _, same⟩ := ok_of_bind rest
    cases same
    exact ⟨rfl, isId⟩

theorem exists_structId_of_takes {descriptor struct : Value} {param : Param}
    (takes : TakesStruct descriptor struct) (isRead : Param.ofDescriptor descriptor = .ok param) :
    ∃ id, Descriptor.structId struct = .ok id ∧ param.structId? = some id := by
  unfold Param.ofDescriptor at isRead
  rcases takes with ⟨isOwn, isStruct⟩ | ⟨points, isStruct⟩
  · rw [isOwn] at isRead
    obtain ⟨⟨kind, text, arguments⟩, isTarget, same⟩ := ok_of_bind isRead
    cases same
    obtain ⟨rfl, isId⟩ := structId_of_readTarget isStruct isTarget
    exact ⟨text, isId, rfl⟩
  · rw [points] at isRead
    obtain ⟨⟨kind, text, arguments⟩, isTarget, same⟩ := ok_of_bind isRead
    cases same
    obtain ⟨rfl, isId⟩ := structId_of_readTarget isStruct isTarget
    exact ⟨text, isId, rfl⟩

theorem eq_part_of_required {struct found : Value} {name : String}
    (isMember : struct.required name = .ok found) : found = struct.part name := by
  cases struct with
  | object members =>
    unfold Value.required at isMember
    dsimp only at isMember
    split at isMember
    · next isFound =>
      cases isMember
      show _ = (Entries.get? members name).getD .null
      rw [isFound]
      rfl
    · cases isMember
  | _ => cases isMember

/-- The address in front of a full name is the struct's, unless it has a colon itself. -/
theorem addressOf_structId {struct : Value} {address id : String}
    (isAddress : struct.part "address" = .string address) (unmarked : ':' ∉ address.toList)
    (isId : Descriptor.structId struct = .ok id) : id ≠ "" ∧ addressOf id = .string address := by
  obtain ⟨found, isFound, rest⟩ := ok_of_bind isId
  obtain ⟨module, _, rest⟩ := ok_of_bind rest
  obtain ⟨name, _, same⟩ := ok_of_bind rest
  cases same
  rw [eq_part_of_required isFound, isAddress]
  have whole : ((Value.string address).shown ++ "::" ++ module.shown ++ "::" ++ name.shown).toList =
      address.toList ++ ([':', ':'] ++ (module.shown ++ "::" ++ name.shown).toList) := by
    simp [String.toList_append, Value.shown]
  constructor
  · intro empty
    rw [empty] at whole
    exact List.append_ne_nil_of_right_ne_nil _ (List.cons_ne_nil _ _) whole.symm
  · have found := Text.cut?_of_notMem [':'] (module.shown ++ "::" ++ name.shown).toList unmarked
    unfold addressOf Text.firstPiece
    rw [whole, show "::".toList = [':', ':'] from rfl, found]
    exact congrArg Value.string String.ofList_toList

end Extraction

/-! ### All addresses -/

section Packages

open Extraction

variable {modules disassembly : Members} {packageId : Option String}

/-- All addresses that are looked at, in order. -/
def lookedAt (modules disassembly : Members) (packageId : Option String) : List Value :=
  modules.flatMap writtenBy ++
    ((extract modules disassembly packageId).package.functions.flatMap paramAddresses ++
      importAddresses disassembly)

theorem isReadable_of_not_skipped {name : String} {description : Value}
    (isModule : (name, description) ∈ modules)
    (isRead : name ∉ (extract modules disassembly packageId).skipped) :
    IsReadable name description := by
  by_contra unreadable
  exact isRead (mem_skipped_extract_iff.mpr ⟨description, isModule, unreadable⟩)

/-- An address that is named is looked at, in some spelling. -/
theorem Names.exists_lookedAt {address : Value}
    (names : Names modules disassembly (extract modules disassembly packageId).skipped address) :
    ∃ written ∈ lookedAt modules disassembly packageId,
      Address.normalOf written = Address.normalOf address := by
  unfold lookedAt
  cases names with
  | declared isModule isRead areEntries isEntry gives =>
    refine ⟨address, List.mem_append_left _ (List.mem_flatMap.mpr ⟨_, isModule, ?_⟩), rfl⟩
    exact mem_writtenBy (isReadable_of_not_skipped isModule isRead) areEntries isEntry gives
  | @taken name description descriptor struct function params address isModule isRead isExposed
      isPublic areParams isParam takes isAddress unmarked =>
    have readable := isReadable_of_not_skipped isModule isRead
    obtain ⟨functions, _, areRead, _⟩ := id readable
    obtain ⟨own, _, isOwn⟩ := exists_function_of_public areRead isExposed isPublic
    obtain ⟨_, parts, areParts, each⟩ := exists_params_of_readFunction isOwn
    rw [partsOrNone_of_mem_parts areParams isParam] at areParts
    cases areParts
    obtain ⟨param, isShape⟩ := exists_outcome each isParam
    have isAmong : param ∈ own.params :=
      (mem_outcomes_iff each).mpr ⟨descriptor, isParam, isShape⟩
    obtain ⟨id, isId, isTaken⟩ := exists_structId_of_takes takes isShape
    obtain ⟨some, isAddress⟩ := addressOf_structId isAddress unmarked isId
    have isCounted : .string address ∈ paramAddresses own :=
      mem_paramAddresses_iff.mpr ⟨param, isAmong, id, .inl ⟨isTaken, some⟩, isAddress⟩
    refine ⟨.string address, List.mem_append_right _ (List.mem_append_left _
      (List.mem_flatMap.mpr ⟨own, ?_, isCounted⟩)), rfl⟩
    exact mem_functions_extract_iff.mpr ⟨_, isModule, readable, function, isExposed, isOwn⟩
  | @imported name text before rest line isText begins proper stands =>
    refine ⟨.string (String.ofList ('0' :: 'x' :: line.digits)), List.mem_append_right _
      (List.mem_append_right _ (List.mem_flatMap.mpr ⟨_, isText, ?_⟩)), ?_⟩
    · exact List.mem_map_of_mem (proper.mem_imports begins stands)
    · exact (Address.normalOf_marked proper.digits proper.mark proper.hasDigits).symm

theorem map_normalOf_dependencies (notEmpty : modules ≠ []) :
    (extract modules disassembly packageId).package.dependencies.map Address.normalOf =
      (Dependencies.addAll (excludedAddresses packageId) []
        (lookedAt modules disassembly packageId)).map Prod.fst := by
  rw [dependencies_extract notEmpty, List.map_map]
  exact List.map_congr_left fun entry member =>
    ((Dependencies.areNormal_addAll _ _).1 entry member).symm

theorem mem_excludedAddresses_iff {id key : String} (named : id ≠ "") :
    key ∈ excludedAddresses (some id) ↔ key ∈ Address.framework ∨ key = Address.normal id := by
  have notEmpty : id.isEmpty = false := by simpa using named
  simp [excludedAddresses, notEmpty]

/-- Each address that a package depends on is counted once under its normal form, and is neither one
of the framework nor that of the package itself. All addresses that are named are among them, save
these. Normal forms are their own normal forms, so nothing depends on how an address is spelled. -/
theorem dependencies_are_complete (notEmpty : modules ≠ []) {id : String} (named : id ≠ "") :
    let extraction := extract modules disassembly (some id)
    let found := extraction.package.dependencies.map Address.normalOf
    found.Nodup ∧
      (∀ key ∈ found, key ∉ Address.framework ∧ key ≠ Address.normal id) ∧
      (∀ address, Names modules disassembly extraction.skipped address →
        Address.normalOf address ∈ found ∨ Address.normalOf address ∈ Address.framework ∨
          Address.normalOf address = Address.normal id) ∧
      ∀ written, Address.normalOf (.string (Address.normalOf written)) =
        Address.normalOf written := by
  intro extraction found
  have areNormal := Dependencies.areNormal_addAll (excludedAddresses (some id))
    (lookedAt modules disassembly (some id))
  have isFound (key : String) : key ∈ found ↔
      (∃ written ∈ lookedAt modules disassembly (some id), key = Address.normalOf written) ∧
        key ∉ excludedAddresses (some id) := by
    show key ∈ (extract modules disassembly (some id)).package.dependencies.map _ ↔ _
    rw [map_normalOf_dependencies notEmpty, Dependencies.mem_addAll_iff]
    exact or_iff_right nofun
  refine ⟨?_, fun key member => ?_, fun address names => ?_, Address.normalOf_normalOf⟩
  · show ((extract modules disassembly (some id)).package.dependencies.map _).Nodup
    rw [map_normalOf_dependencies notEmpty]
    exact areNormal.2
  · exact not_or.mp (mt (mem_excludedAddresses_iff named).mpr ((isFound key).mp member).2)
  · obtain ⟨written, isLookedAt, same⟩ := names.exists_lookedAt
    rw [← mem_excludedAddresses_iff named, isFound]
    by_cases isExcluded : Address.normalOf address ∈ excludedAddresses (some id)
    · exact .inr isExcluded
    · exact .inl ⟨⟨written, isLookedAt, same.symm⟩, isExcluded⟩

/-- A module that names an address in its dependency list, and code that imports another one. -/
theorem vault_depends_on_both :
    let modules : Members := [("vault", .object [("dependencies", .array [.string "0x00BBB"])])]
    let disassembly : Members := [("vault", .string "module vault \x7b\n  use DDD::coin;\n\x7d")]
    modules ≠ [] ∧ "0xabc" ≠ "" ∧
      let found := (extract modules disassembly (some "0xabc")).package.dependencies.map
        Address.normalOf
      "0xbbb" ∈ found ∧ "0xddd" ∈ found := by
  intro modules disassembly
  have notEmpty : modules ≠ [] := List.cons_ne_nil _ _
  have named : "0xabc" ≠ "" := by decide
  obtain ⟨-, -, complete, -⟩ := @dependencies_are_complete modules disassembly notEmpty _ named
  have isNew (key : String) (differs : key ∉ Address.framework ∧ key ≠ Address.normal "0xabc") :
      ¬(key ∈ Address.framework ∨ key = Address.normal "0xabc") := not_or.mpr differs
  refine ⟨notEmpty, named, ?_, ?_⟩
  · have isNamed := complete (.string "0x00BBB")
      (.declared List.mem_cons_self (by decide) rfl List.mem_cons_self rfl)
    exact isNamed.resolve_right (isNew _ (by decide +kernel))
  · let line : Listing.Import := ⟨[' ', ' '], [' '], [], ['D', 'D', 'D']⟩
    have proper : line.IsProper :=
      ⟨List.all_eq_true.mp rfl, List.all_eq_true.mp rfl, by decide, by decide,
        List.all_eq_true.mp rfl, by decide⟩
    have isNamed := complete (.string "DDD") (@Names.imported modules disassembly _ "vault" _ _ _ line
      List.mem_cons_self (.inr ⟨"module vault \x7b".toList, rfl⟩) proper rfl)
    exact isNamed.resolve_right (isNew _ (by decide +kernel))

end Packages

end MoveAudit.Move
