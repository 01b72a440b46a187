/-
This file says which capabilities of a package are followed. Every module's code is read before any
parameter is, and a name that is known is not entered again, so the entry of a name is the first
capability that is declared or taken under it. Two modules that declare a capability of one name
have a single entry therefore, that of the module that comes first.
-/

import MoveAudit.Capability.Report
import MoveAudit.Proofs.Entries.First
import MoveAudit.Proofs.Move.Part

namespace MoveAudit.Capability

open Entries Move

variable {package : Package}

/-! ### What the analysis of a package with text gives -/

/-- Every capability that modules declare, as often as they do. -/
def declared (codes : List (String × List Char)) : List Definition :=
  codes.flatMap fun (module, code) => declaredIn module code

/-- Every capability that functions take as a parameter, as often as they do. -/
def taken (functions : List Function) : List Definition :=
  functions.flatMap fun function => function.params.filterMap (takenBy? function)

/-- What is entered as a capability of a package unless its name is known. -/
def candidates (package : Package) : List Definition :=
  declared package.codes ++ taken package.functions

/-- The capabilities of a package: the first candidate of each name. -/
def capabilitiesOf (package : Package) : List Definition :=
  keepFirst Definition.name (candidates package)

/-- The functions of each module's disassembly. -/
def bodiesOf (package : Package) : Bodies :=
  package.codes.map fun (module, code) => (module, Listing.bodies code)

/-- The uses of those capabilities. -/
def usagesOf (package : Package) : List Usage :=
  usages package (bodiesOf package) ((capabilitiesOf package).map (·.name))

/-- The movements of those capabilities. -/
def flowsIn (package : Package) : List Flow :=
  (capabilitiesOf package).flatMap (flowsOf package (usagesOf package))

/-- All that is found out about the capabilities of a package. -/
def reportOf (package : Package) : Report :=
  ⟨capabilitiesOf package, usagesOf package, flowsIn package,
    risks (usagesOf package) (flowsIn package)⟩

theorem definitions_eq (package : Package) :
    definitions package package.codes = capabilitiesOf package := by
  have entered := foldl_putNew Definition.name (fun definition => definition) (candidates package)
  refine (congrArg (List.map Prod.snd) entered).trans ?_
  rw [List.map_map]
  exact List.map_id _

theorem codes_of_text (text : package.HasText) :
    (package.disassembly.mapM fun (described : String × Json.Value) => do
      return (described.1, ← Static.code described.2) : Except Json.ShapeFault _) =
        .ok package.codes := by
  have readable := fun described (member : described ∈ package.disassembly) => text.code_eq member
  unfold Package.codes
  generalize package.disassembly = disassembly at readable ⊢
  induction disassembly with
  | nil => rfl
  | cons described rest inductionHypothesis =>
    have others := inductionHypothesis fun other member =>
      readable other (List.mem_cons_of_mem _ member)
    rw [List.mapM_cons, others, readable described List.mem_cons_self]
    rfl

theorem analyse_of_text (text : package.HasText) :
    analyse package = .ok (reportOf package) := by
  have codes := codes_of_text text
  unfold analyse
  rw [show (package.disassembly.mapM fun (described : String × Json.Value) => do
    return (described.1, ← Static.code described.2) : Except Json.ShapeFault _) =
      .ok package.codes from codes]
  show Except.ok (Report.mk (definitions package package.codes) _ _ _) = _
  rw [definitions_eq]
  rfl

theorem nodup_codes (differ : (package.disassembly.map Prod.fst).Nodup) :
    (package.codes.map Prod.fst).Nodup := by
  unfold Package.codes
  rwa [List.map_map]

/-! ### Which capability is entered under a name -/

theorem mem_declaredIn_iff {module : String} {code : List Char} {definition : Definition} :
    definition ∈ declaredIn module code ↔ ∃ struct ∈ Listing.structs code,
      isCapabilityName struct.name = true ∧
        definition = ⟨struct.name, module, module ++ "::" ++ struct.name, struct.abilities⟩ := by
  unfold declaredIn
  rw [List.mem_filterMap]
  refine exists_congr fun struct => and_congr_right fun _ => ?_
  split
  · next isCapability => simp [isCapability, eq_comm]
  · next isNone => simp [isNone]

theorem mem_declared_iff {codes : List (String × List Char)} {definition : Definition} :
    definition ∈ declared codes ↔ ∃ described ∈ codes, ∃ struct ∈ Listing.structs described.2,
      isCapabilityName struct.name = true ∧ definition =
        ⟨struct.name, described.1, described.1 ++ "::" ++ struct.name, struct.abilities⟩ :=
  List.mem_flatMap.trans
    (exists_congr fun _ => and_congr_right fun _ => mem_declaredIn_iff)

theorem find?_declared_eq_none_iff {codes : List (String × List Char)} {name : String}
    (isCapability : isCapabilityName name = true) :
    (declared codes).find? (·.name == name) = none ↔
      ∀ described ∈ codes, ∀ struct ∈ Listing.structs described.2, struct.name ≠ name := by
  rw [List.find?_eq_none]
  constructor
  · rintro none described member struct isDeclared rfl
    exact none _ (mem_declared_iff.mpr ⟨described, member, struct, isDeclared, isCapability, rfl⟩)
      (beq_self_eq_true _)
  · intro none definition isDefined
    obtain ⟨described, member, struct, isDeclared, _, rfl⟩ := mem_declared_iff.mp isDefined
    simpa using none described member struct isDeclared

theorem mem_capabilitiesOf_iff {definition : Definition} :
    definition ∈ capabilitiesOf package ↔
      (candidates package).find? (·.name == definition.name) = some definition :=
  mem_keepFirst_iff

/-- A capability of a package is the first one that is declared under its name or, where none is,
the first one that is taken under it. -/
theorem mem_capabilitiesOf_iff_cases {definition : Definition} :
    definition ∈ capabilitiesOf package ↔
      (declared package.codes).find? (·.name == definition.name) = some definition ∨
        (declared package.codes).find? (·.name == definition.name) = none ∧
          (taken package.functions).find? (·.name == definition.name) = some definition := by
  rw [mem_capabilitiesOf_iff, candidates, List.find?_append, Option.or_eq_some_iff]

theorem mem_names_iff {name : String} : name ∈ (capabilitiesOf package).map (·.name) ↔
    ∃ candidate ∈ candidates package, candidate.name = name := by
  have known : (capabilitiesOf package).any (·.name == name) =
      (candidates package).any (·.name == name) :=
    any_keepFirst name
  rw [Bool.eq_iff_iff] at known
  simpa only [List.any_eq_true, beq_iff_eq, List.mem_map] using known

section Placed

variable {before after : List (String × List Char)} {module : String} {code : List Char}

theorem candidates_of_placed (placed : package.codes = before ++ (module, code) :: after) :
    candidates package = declared before ++ (declared [(module, code)] ++
      (declared after ++ taken package.functions)) := by
  unfold candidates declared
  rw [placed, List.flatMap_append, List.flatMap_cons, List.flatMap_singleton, List.append_assoc,
    List.append_assoc]

/-- A name that some module before a place declares has its entry from one of those modules. -/
theorem module_of_entry (placed : package.codes = before ++ (module, code) :: after)
    {entry sooner : Definition} (isEntry : entry ∈ capabilitiesOf package)
    (found : (declared before).find? (·.name == entry.name) = some sooner) :
    entry.module ∈ before.map Prod.fst := by
  have isFirst := mem_capabilitiesOf_iff.mp isEntry
  rw [candidates_of_placed placed, List.find?_append, found, Option.some_or] at isFirst
  obtain rfl := Option.some.inj isFirst
  obtain ⟨earlier, isBefore, _, _, _, same⟩ :=
    mem_declared_iff.mp (List.mem_of_find?_eq_some found)
  rw [same]
  exact List.mem_map_of_mem isBefore

/-- A name that no module before a place declares has its entry from the module at that place, when
that declares it. -/
theorem exists_own_entry (placed : package.codes = before ++ (module, code) :: after)
    {struct : Listing.Struct} (isDeclared : struct ∈ Listing.structs code)
    (isCapability : isCapabilityName struct.name = true)
    (notBefore : (declared before).find? (·.name == struct.name) = none) :
    ∃ entry ∈ capabilitiesOf package, entry.name = struct.name ∧ entry.module = module ∧
      entry.fullType = module ++ "::" ++ struct.name := by
  cases found : (declared [(module, code)]).find? (·.name == struct.name) with
  | none =>
    exact absurd rfl
      ((find?_declared_eq_none_iff isCapability).mp found _ List.mem_cons_self struct isDeclared)
  | some entry =>
    have named : entry.name = struct.name := by simpa using List.find?_some found
    refine ⟨entry, mem_capabilitiesOf_iff.mpr ?_, named, ?_⟩
    · rw [named, candidates_of_placed placed, List.find?_append, notBefore, Option.none_or,
        List.find?_append, found, Option.some_or]
    · obtain ⟨described, isOwn, own, _, _, rfl⟩ :=
        mem_declared_iff.mp (List.mem_of_find?_eq_some found)
      obtain rfl := List.mem_singleton.mp isOwn
      exact ⟨rfl, congrArg (module ++ "::" ++ ·) named⟩

end Placed

/-- The report on a package whose modules have different names enters each name once, and it has the
entry of a capability that a module declares, with that module and the capability's full name,
exactly if no module before it declares a capability of that name. -/
theorem entered_iff_declared_first (text : package.HasText)
    (differ : (package.disassembly.map Prod.fst).Nodup) :
    ∃ report, analyse package = .ok report ∧ (report.capabilities.map (·.name)).Nodup ∧
      ∀ before module code after, package.codes = before ++ (module, code) :: after →
        ∀ struct ∈ Listing.structs code, isCapabilityName struct.name = true →
          ((∃ entry ∈ report.capabilities, entry.name = struct.name ∧ entry.module = module ∧
              entry.fullType = module ++ "::" ++ struct.name) ↔
            ∀ earlier ∈ before, ∀ sooner ∈ Listing.structs earlier.2,
              sooner.name ≠ struct.name) := by
  refine ⟨reportOf package, analyse_of_text text, nodup_keepFirst _ _, ?_⟩
  intro before module code after placed struct isDeclared isCapability
  rw [← find?_declared_eq_none_iff isCapability]
  refine ⟨?_, exists_own_entry placed isDeclared isCapability⟩
  rintro ⟨entry, isEntry, named, inModule, _⟩
  refine Option.eq_none_iff_forall_ne_some.mpr fun sooner found => ?_
  have codesDiffer := nodup_codes differ
  rw [placed, List.map_append, List.nodup_append] at codesDiffer
  exact codesDiffer.2.2 _ (module_of_entry placed isEntry (named ▸ found)) _ List.mem_cons_self
    inModule

/-- A vault and a bank that each declare a capability. -/
def vaultCapAndBankCap : Package where
  disassembly := [("vault", .string "struct VaultCap has key \x7b\n\x7d"),
    ("bank", .string "struct BankCap has key, store \x7b\n\x7d")]

/-- The bank's capability has its entry since the vault declares none of that name. -/
theorem bank_cap_entered :
    vaultCapAndBankCap.HasText ∧ (vaultCapAndBankCap.disassembly.map Prod.fst).Nodup ∧
      ∃ report, analyse vaultCapAndBankCap = .ok report ∧ ∃ entry ∈ report.capabilities,
        entry.name = "BankCap" ∧ entry.module = "bank" ∧ entry.fullType = "bank::BankCap" := by
  have text : vaultCapAndBankCap.HasText := by simp [Package.HasText, vaultCapAndBankCap]
  have differ : (vaultCapAndBankCap.disassembly.map Prod.fst).Nodup := by decide
  obtain ⟨report, analysed, _, entered_iff⟩ := entered_iff_declared_first text differ
  refine ⟨text, differ, report, analysed, (entered_iff [_] _ _ [] rfl ⟨"BankCap", ["key", "store"]⟩
    (by decide +kernel) (by decide)).mpr ?_⟩
  decide +kernel

/-- Two modules that each declare a capability of the same name. -/
def twoAdmins : Package where
  disassembly := [("alpha", .string "struct AdminCap has key \x7b\n\x7d"),
    ("beta", .string "struct AdminCap has key \x7b\n\x7d")]

/-- The second module's capability has no entry of its own. -/
theorem second_admin_lost :
    ¬ ∀ package : Package, package.HasText → (package.disassembly.map Prod.fst).Nodup →
      ∃ report, analyse package = .ok report ∧ ∀ described ∈ package.codes,
        ∀ struct ∈ Listing.structs described.2, isCapabilityName struct.name = true →
          ∃ entry ∈ report.capabilities, entry.name = struct.name ∧
            entry.module = described.1 ∧ entry.fullType = described.1 ++ "::" ++ struct.name := by
  intro everyEntered
  obtain ⟨report, analysed, entered⟩ := everyEntered twoAdmins
    (by simp [Package.HasText, twoAdmins]) (by decide)
  have evaluated : analyse twoAdmins =
      .ok ⟨[⟨"AdminCap", "alpha", "alpha::AdminCap", ["key"]⟩], [], [], []⟩ := by
    decide +kernel
  obtain rfl := Except.ok.inj (evaluated.symm.trans analysed)
  obtain ⟨entry, isEntry, _, inBeta, _⟩ := entered ("beta", _) (List.mem_of_getLast? rfl)
    ⟨"AdminCap", ["key"]⟩ (by decide +kernel) (by decide)
  obtain rfl := List.mem_singleton.mp isEntry
  exact absurd inBeta (by decide)

end MoveAudit.Capability
