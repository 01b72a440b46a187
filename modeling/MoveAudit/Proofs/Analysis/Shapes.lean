/-
This file says which values from outside stop the passes over a package that has been read. Reading
takes whatever the node gave, skips a module of the wrong shape and leaves everything else as it was
written, so a later pass may still meet a value that it cannot take. There are three such places: a
collection that counts as a dependency, code that is no text in a module with a public function, and
code that is no text in any module. Each stops one pass, whatever the cache holds, and nothing else
does.
-/

import MoveAudit.Capability.Report
import MoveAudit.Proofs.Dependency.Risk
import MoveAudit.Proofs.Entries
import MoveAudit.Proofs.Move.Skipping

namespace MoveAudit

open Json

/-! ### Dependencies that count -/

namespace Move

/-- The first of the addresses that are written under a name, unless the name is excluded. -/
def firstUnder? (excluded : List String) (written : List Value) (key : String) : Option Value :=
  if key ∈ excluded then none else written.find? (Address.normalOf · == key)

theorem firstUnder?_append (excluded : List String) (first second : List Value) (key : String) :
    firstUnder? excluded (first ++ second) key =
      (firstUnder? excluded first key).or (firstUnder? excluded second key) := by
  unfold firstUnder?
  split
  · rfl
  · exact List.find?_append

theorem firstUnder?_eq_some {excluded : List String} {written : List Value} {key : String}
    {address : Value} (isFirst : firstUnder? excluded written key = some address) :
    address ∈ written ∧ Address.normalOf address = key := by
  unfold firstUnder? at isFirst
  split at isFirst
  · cases isFirst
  · have named : (Address.normalOf address == key) = true :=
      List.find?_some (p := (Address.normalOf · == key)) isFirst
    exact ⟨List.mem_of_find?_eq_some isFirst, eq_of_beq named⟩

namespace Dependencies

theorem get?_add (excluded : List String) (known : Dependencies) (address : Value) (key : String) :
    Entries.get? (known.add excluded address) key =
      (Entries.get? known key).or (firstUnder? excluded [address] key) := by
  rcases add_cases excluded known address with ⟨same, counts⟩ | ⟨more, isCounted, _⟩
  · rw [same]
    cases isFirst : firstUnder? excluded [address] key with
    | none => exact (Option.or_none).symm
    | some first =>
      obtain ⟨member, rfl⟩ := firstUnder?_eq_some isFirst
      obtain rfl := List.mem_singleton.mp member
      have notExcluded : Address.normalOf first ∉ excluded := fun isExcluded => by
        rw [firstUnder?, if_pos isExcluded] at isFirst
        cases isFirst
      obtain ⟨⟨_, old⟩, isOld, rfl⟩ := List.mem_map.mp (counts.resolve_left notExcluded)
      obtain ⟨found, isFound⟩ := Entries.exists_get?_of_mem isOld
      rw [isFound]
      rfl
  · rw [more, Entries.get?_append, Entries.get?_cons]
    refine congrArg (Entries.get? known key).or ?_
    unfold firstUnder?
    by_cases named : Address.normalOf address = key
    · subst named
      simp [isCounted]
    · simp [named, Entries.get?_nil]

/-- Under each name that is not excluded, the first address is kept. -/
theorem get?_addAll (excluded : List String) (known : Dependencies) (written : List Value)
    (key : String) : Entries.get? (known.addAll excluded written) key =
      (Entries.get? known key).or (firstUnder? excluded written key) := by
  induction written generalizing known with
  | nil =>
    have none : firstUnder? excluded [] key = none := by simp [firstUnder?]
    rw [none, Option.or_none]
    rfl
  | cons address rest inductionHypothesis =>
    rw [← List.singleton_append, firstUnder?_append, ← Option.or_assoc, ← get?_add]
    exact inductionHypothesis (known.add excluded address)

theorem mem_addAll_values_iff {excluded : List String} {written : List Value} {address : Value} :
    address ∈ (addAll excluded [] written).map Prod.snd ↔
      firstUnder? excluded written (Address.normalOf address) = some address := by
  have normal := areNormal_addAll excluded written
  have kept := get?_addAll excluded [] written (Address.normalOf address)
  rw [Entries.get?_nil, Option.none_or] at kept
  rw [← kept]
  constructor
  · intro member
    obtain ⟨⟨key, own⟩, isEntry, rfl⟩ := List.mem_map.mp member
    have named : key = Address.normalOf own := normal.1 _ isEntry
    rw [named] at isEntry
    obtain ⟨first, isFirst⟩ := Entries.exists_get?_of_mem isEntry
    have same := List.inj_on_of_nodup_map normal.2 (Entries.mem_of_get? isFirst) isEntry rfl
    rw [isFirst, (Prod.mk.inj same).2]
  · intro isKept
    exact List.mem_map.mpr ⟨_, Entries.mem_of_get? isKept, rfl⟩

end Dependencies

namespace Extraction

theorem isPlain_of_mem_paramAddresses {function : Function} {address : Value}
    (member : address ∈ paramAddresses function) : Chain.isPlain address = true := by
  obtain ⟨param, _, isTaken⟩ := List.mem_flatMap.mp member
  obtain ⟨id, _, rfl⟩ := List.mem_map.mp isTaken
  rfl

theorem isPlain_of_mem_importAddresses {disassembly : Members} {address : Value}
    (member : address ∈ importAddresses disassembly) : Chain.isPlain address = true := by
  obtain ⟨described, _, isImported⟩ := List.mem_flatMap.mp member
  obtain ⟨spelling, _, rfl⟩ := List.mem_map.mp isImported
  rfl

theorem module_of_readFunctions {module : String} {description : Value}
    {functions : List Function} (isRead : readFunctions module description = .ok functions) :
    ∀ function ∈ functions, function.module = module := by
  obtain ⟨kept, rfl, each⟩ := exists_kept_of_readFunctions isRead
  intro function member
  obtain ⟨read, isKept, rfl⟩ := List.mem_filterMap.mp member
  clear isRead member
  generalize exposedOf description = members at each
  induction each with
  | nil => cases isKept
  | cons isOne _ inductionHypothesis =>
    rcases List.mem_cons.mp isKept with rfl | isLater
    · exact module_of_readFunction isOne
    · exact inductionHypothesis isLater

/-- Functions are read of a module exactly if it can be read and has a public one. -/
theorem exists_of_module_iff {excluded : List String} {known : Dependencies} {modules : Members}
    {name : String} :
    (∃ function ∈ (readModules excluded known modules).1, function.module = name) ↔
      ∃ description, (name, description) ∈ modules ∧ HasPublic description ∧
        IsReadable name description := by
  induction modules generalizing known with
  | nil => simp [readModules]
  | cons first rest inductionHypothesis =>
    obtain ⟨firstName, first⟩ := first
    unfold readModules
    rcases readModule_cases excluded known firstName first with
      ⟨own, after, found, readable, isNone⟩ | ⟨fault, after, found, unreadable⟩
    · have ownModule := module_of_readFunctions
        (readModule_eq_ok_iff.mp (congrArg Prod.fst found)).1
      have own_iff : (∃ function ∈ own, function.module = name) ↔
          name = firstName ∧ HasPublic first := by
        constructor
        · rintro ⟨function, member, rfl⟩
          exact ⟨ownModule function member,
            not_not.mp fun none => List.ne_nil_of_mem member (isNone.mpr none)⟩
        · rintro ⟨rfl, isPublic⟩
          obtain ⟨function, member⟩ :=
            List.exists_mem_of_ne_nil own fun nil => isNone.mp nil isPublic
          exact ⟨function, member, ownModule function member⟩
      rw [found]
      simp only [List.mem_append, or_and_right, exists_or, own_iff, inductionHypothesis,
        List.mem_cons, Prod.mk.injEq, and_assoc]
      refine or_congr_left ⟨?_, ?_⟩
      · rintro ⟨rfl, isPublic⟩
        exact ⟨first, rfl, rfl, isPublic, readable⟩
      · rintro ⟨_, rfl, rfl, isPublic, _⟩
        exact ⟨rfl, isPublic⟩
    · rw [found]
      simp only [inductionHypothesis, List.mem_cons, Prod.mk.injEq, or_and_right, exists_or]
      refine (or_iff_right ?_).symm
      rintro ⟨_, ⟨rfl, rfl⟩, _, readable⟩
      exact unreadable readable

end Extraction

section Packages

variable {modules disassembly : Members} {packageId : Option String}

theorem disassembly_extract :
    (extract modules disassembly packageId).package.disassembly = disassembly := by
  unfold extract
  split <;> rfl

theorem exists_of_module_extract_iff {name : String} :
    (∃ function ∈ (extract modules disassembly packageId).package.functions,
        function.module = name) ↔
      ∃ description, (name, description) ∈ modules ∧ Extraction.HasPublic description ∧
        Extraction.IsReadable name description := by
  by_cases none : modules = []
  · subst none
    simp [extract]
  · rw [(extract_of_modules none).1]
    exact Extraction.exists_of_module_iff

/-- A collection is a dependency exactly if a module has written it first under its name. All other
addresses are read off texts. -/
theorem collection_mem_dependencies_iff {address : Value}
    (isCollection : Chain.isPlain address = false) :
    address ∈ (extract modules disassembly packageId).package.dependencies ↔
      firstUnder? (Extraction.excludedAddresses packageId) (modules.flatMap Extraction.writtenBy)
        (Address.normalOf address) = some address := by
  by_cases none : modules = []
  · subst none
    simp [extract, firstUnder?]
  · rw [dependencies_extract none, Dependencies.mem_addAll_values_iff, firstUnder?_append,
      Option.or_eq_some_iff]
    refine or_iff_left ?_
    rintro ⟨_, isLater⟩
    have isPlain : Chain.isPlain address = true := by
      rcases List.mem_append.mp (firstUnder?_eq_some isLater).1 with isTaken | isImported
      · obtain ⟨function, _, isTaken⟩ := List.mem_flatMap.mp isTaken
        exact Extraction.isPlain_of_mem_paramAddresses isTaken
      · exact Extraction.isPlain_of_mem_importAddresses isImported
    rw [isPlain] at isCollection
    cases isCollection

end Packages

end Move

/-! ### The passes -/

namespace Dependency

theorem exists_run_riskOf?_on (mode : Mode) (network : String) (dependency : Value)
    (scene : Scene Cache.Store) : ∃ risk? left,
      (riskOf? mode network dependency).run scene = (.ok risk?, left) := by
  unfold riskOf?
  cases ran : (cardOf mode network dependency).run scene with
  | mk outcome left =>
    rw [Act.run_bind_ok _ (Act.run_settle ran)]
    rcases outcome with fault | _ | card
    · exact ⟨_, _, rfl⟩
    · exact ⟨_, _, rfl⟩
    · exact ⟨_, _, rfl⟩

/-- Looking up dependencies fails exactly if a collection is among them, whatever the cache holds
and does. -/
theorem risks_fails_iff (mode : Mode) (network : String) (dependencies : List Value)
    (scene : Scene Cache.Store) :
    (∃ fault left, (risks mode network dependencies).run scene = (.error fault, left)) ↔
      ∃ dependency ∈ dependencies, Chain.isPlain dependency = false := by
  unfold risks
  cases plain : dependencies.all Chain.isPlain with
  | false =>
    refine iff_of_true ⟨.wrongKind, scene, rfl⟩ ?_
    simpa using plain
  | true =>
    refine iff_of_false ?_ ?_
    · rintro ⟨fault, last, fails⟩
      obtain ⟨found, left, ran⟩ := Act.exists_run_mapM (exists_run_riskOf?_on mode network)
        (Entries.distinct dependencies) scene
      cases (Act.run_bind_ok _ ran).symm.trans fails
    · rintro ⟨dependency, member, isCollection⟩
      rw [List.all_eq_true.mp plain dependency member] at isCollection
      cases isCollection

end Dependency

namespace Static

/-- Code that a pass cannot read: it is no text, and does not count as empty either. -/
def IsNoCode (written : Value) : Prop :=
  written.text? = none ∧ written.isFull = true

theorem code_fails_iff {written : Value} :
    (∃ fault, code written = .error fault) ↔ IsNoCode written := by
  cases written with
  | string text => simp [code, IsNoCode, Value.text?]
  | _ =>
    simp only [code, IsNoCode, Value.text?, true_and]
    split
    · next isFull => simp [isFull]
    · next isEmpty => simp [isEmpty]

theorem moduleBodies_fails_iff {disassembly : Members} {module : String} :
    (∃ fault, moduleBodies disassembly module = .error fault) ↔
      ∃ written, Entries.get? disassembly module = some written ∧ IsNoCode written := by
  unfold moduleBodies
  cases found : Entries.get? disassembly module with
  | none => simp [code, bind, Except.bind, pure, Except.pure]
  | some written =>
    simp only [Option.getD_some, Option.some.injEq, exists_eq_left', ← code_fails_iff]
    cases code written <;> simp [bind, Except.bind, pure, Except.pure]

theorem findHits_fails_iff (patterns : List Pattern) (disassembly : Members) (known : List Hit)
    (functions : List Move.Function) :
    (∃ fault, findHits patterns disassembly known functions = .error fault) ↔
      ∃ function ∈ functions, ∃ fault,
        moduleBodies disassembly function.module = .error fault := by
  induction functions generalizing known with
  | nil => simp [findHits]
  | cons function rest inductionHypothesis =>
    unfold findHits
    simp only [List.mem_cons, exists_eq_or_imp]
    cases moduleBodies disassembly function.module with
    | error fault => simp [bind, Except.bind]
    | ok bodies => simp [bind, Except.bind, inductionHypothesis]

/-- Looking for patterns fails exactly if a function is in a module without readable code. -/
theorem analyse_fails_iff (package : Move.Package) :
    (∃ fault, analyse package = .error fault) ↔ ∃ function ∈ package.functions, ∃ written,
      Entries.get? package.disassembly function.module = some written ∧ IsNoCode written := by
  simp only [← moduleBodies_fails_iff, ← findHits_fails_iff catalogue package.disassembly []]
  unfold analyse analyseWith
  cases findHits catalogue package.disassembly [] package.functions <;>
    simp [bind, Except.bind, pure, Except.pure]

end Static

namespace Capability

/-- Following capabilities fails exactly if some module has no readable code. -/
theorem analyse_fails_iff (package : Move.Package) :
    (∃ fault, analyse package = .error fault) ↔
      ∃ described ∈ package.disassembly, Static.IsNoCode described.2 := by
  simp only [← Static.code_fails_iff]
  have codes_fail_iff : (∃ fault, (package.disassembly.mapM fun (described : String × Value) => do
        return (described.1, ← Static.code described.2)) = Except.error fault) ↔
      ∃ described ∈ package.disassembly, ∃ fault, Static.code described.2 = .error fault := by
    rw [mapM_fails_iff]
    refine exists_congr fun described => and_congr_right fun _ => ?_
    cases Static.code described.2 <;> simp [bind, Except.bind, pure, Except.pure]
  rw [← codes_fail_iff]
  unfold analyse
  cases package.disassembly.mapM fun (described : String × Value) => do
      return (described.1, ← Static.code described.2) <;>
    simp [bind, Except.bind, pure, Except.pure]

end Capability

namespace Analysis

open Move Extraction

/-- The passes over a package that has been read fail exactly as follows, whatever the cache holds
and does. The dependencies cannot be looked up if a module has written a collection first under its
name; patterns cannot be looked for if a module that can be read has a public function and no
readable code; and capabilities cannot be followed if any module has no readable code. -/
theorem passes_fail_iff (modules disassembly : Members) (packageId : Option String)
    (mode : Dependency.Mode) (network : String) (scene : Scene Cache.Store) :
    let package := (extract modules disassembly packageId).package
    ((∃ fault left, (Dependency.risks mode network package.dependencies).run scene =
        (.error fault, left)) ↔
      ∃ address, Chain.isPlain address = false ∧
        firstUnder? (excludedAddresses packageId) (modules.flatMap writtenBy)
          (Address.normalOf address) = some address) ∧
    ((∃ fault, Static.analyse package = .error fault) ↔
      ∃ name description written, (name, description) ∈ modules ∧ HasPublic description ∧
        IsReadable name description ∧ Entries.get? disassembly name = some written ∧
        Static.IsNoCode written) ∧
    ((∃ fault, Capability.analyse package = .error fault) ↔
      ∃ described ∈ disassembly, Static.IsNoCode described.2) := by
  intro package
  refine ⟨?_, ?_, ?_⟩
  · rw [Dependency.risks_fails_iff]
    constructor
    · rintro ⟨address, member, isCollection⟩
      exact ⟨address, isCollection, (collection_mem_dependencies_iff isCollection).mp member⟩
    · rintro ⟨address, isCollection, isFirst⟩
      exact ⟨address, (collection_mem_dependencies_iff isCollection).mpr isFirst, isCollection⟩
  · rw [Static.analyse_fails_iff, disassembly_extract]
    constructor
    · rintro ⟨function, member, written, found, isNoCode⟩
      obtain ⟨description, isModule, isPublic, readable⟩ :=
        exists_of_module_extract_iff.mp ⟨function, member, rfl⟩
      exact ⟨function.module, description, written, isModule, isPublic, readable, found, isNoCode⟩
    · rintro ⟨name, description, written, isModule, isPublic, readable, found, isNoCode⟩
      obtain ⟨function, member, rfl⟩ :=
        exists_of_module_extract_iff.mpr ⟨description, isModule, isPublic, readable⟩
      exact ⟨function, member, written, found, isNoCode⟩
  · rw [Capability.analyse_fails_iff, disassembly_extract]

/-- A number where the code of a module belongs stops the capabilities from being followed. -/
theorem capabilities_fail_on_number :
    Capability.analyse (extract [] [("vault", .int 5)] none).package = .error .wrongKind := by
  rfl

end Analysis

end MoveAudit
