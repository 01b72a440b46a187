/-
This file says which functions are read off a package. A module that can be read gives all functions
that it exposes as public; one that meets a wrong shape anywhere, in a parameter of one function or
in a dependency, gives none and is named among those that were skipped. So nothing is read exactly
when every module with a public function was skipped.
-/

import Mathlib.Data.List.Forall2
import MoveAudit.Move.Extraction
import MoveAudit.Proofs.Act

namespace MoveAudit.Move

open Json

namespace Extraction

/-! ### What a module exposes -/

/-- The functions that a described module exposes, under the second name when there is nothing under
the first. -/
def exposedOf (description : Value) : Members :=
  if (description.part "exposedFunctions").isFull then
    (description.part "exposedFunctions").members
  else (description.part "exposed_functions").members

/-- A described module exposes a public function. -/
def HasPublic (description : Value) : Prop :=
  ∃ member ∈ exposedOf description, member.2.part "visibility" = .string "Public"

/-- A described module has the right shape wherever it is looked into: in its public functions, in
its list of dependencies, and in each of these. -/
def IsReadable (name : String) (description : Value) : Prop :=
  ∃ functions declared, readFunctions name description = .ok functions ∧
    declarations description = .ok declared ∧
    ∀ entry ∈ declared, ∃ written, declaredAddress entry = .ok written

/-! ### One module -/

theorem eq_part_of_member {description found : Value} {name : String}
    (isMember : description.member name = .ok found) : found = description.part name := by
  cases description with
  | object members =>
    cases isMember
    rfl
  | _ => cases isMember

theorem eq_part_of_eitherMember {description found : Value} {first second : String}
    (isMember : eitherMember description first second = .ok found) :
    found = if (description.part first).isFull then description.part first
      else description.part second := by
  obtain ⟨under, isUnder, isMember⟩ := ok_of_bind isMember
  rw [eq_part_of_member isUnder] at isMember
  split at isMember
  · next full =>
    cases isMember
    rw [if_pos full]
  · next empty =>
    rw [if_neg empty]
    exact eq_part_of_member isMember

theorem members_of_not_full {value : Value} (empty : ¬ value.isFull = true) :
    value.members = [] := by
  cases value with
  | object members =>
    cases members with
    | nil => rfl
    | cons first rest => exact absurd rfl empty
  | _ => rfl

theorem members_of_allMembers {value : Value} {members : Members}
    (all : value.allMembers = .ok members) : value.members = members := by
  cases value with
  | object own =>
    cases all
    rfl
  | _ => cases all

/-- The members that are gone through are those that the module exposes. -/
theorem eq_exposedOf {description exposed : Value} {members : Members}
    (isMember : eitherMember description "exposedFunctions" "exposed_functions" = .ok exposed)
    (all : (if exposed.isFull then exposed.allMembers else pure []) = .ok members) :
    members = exposedOf description := by
  have members_eq : exposed.members = members := by
    split at all
    · exact members_of_allMembers all
    · next empty =>
      cases all
      exact members_of_not_full empty
  unfold exposedOf
  rw [← members_eq, eq_part_of_eitherMember isMember]
  split <;> rfl

/-- What reading a function comes to: nothing is kept of one that is not public, and one that is
public is kept with its parameters, read one by one. -/
theorem readFunction_cases {module name : String} {description : Value} {read : Option Function}
    (isRead : readFunction module name description = .ok read) :
    (read = none ∧ description.part "visibility" ≠ .string "Public") ∨
      ∃ function, read = some function ∧ function.module = module ∧
        description.part "visibility" = .string "Public" ∧
        ∃ params, (description.part "parameters").partsOrNone = .ok params ∧
          List.Forall₂ (fun descriptor param => Param.ofDescriptor descriptor = .ok param) params
            function.params := by
  obtain ⟨visibility, isVisibility, isRead⟩ := ok_of_bind isRead
  rw [← eq_part_of_member isVisibility]
  have isPublic : (visibility.text? != some "Public") = false ↔ visibility = .string "Public" := by
    cases visibility <;> simp [Value.text?]
  split at isRead
  · next isOther =>
    cases isRead
    refine Or.inl ⟨rfl, fun same => ?_⟩
    rw [isPublic.mpr same] at isOther
    cases isOther
  · next isNotOther =>
    obtain ⟨parameters, isParameters, isRead⟩ := ok_of_bind isRead
    obtain ⟨params, areParts, isRead⟩ := ok_of_bind isRead
    obtain ⟨shapes, areShapes, isRead⟩ := ok_of_bind isRead
    obtain ⟨entry, -, isRead⟩ := ok_of_bind isRead
    obtain ⟨typeParameters, -, isRead⟩ := ok_of_bind isRead
    obtain ⟨count, -, isRead⟩ := ok_of_bind isRead
    cases isRead
    rw [eq_part_of_member isParameters] at areParts
    exact Or.inr ⟨_, rfl, rfl, isPublic.mp (Bool.eq_false_iff.mpr isNotOther), params, areParts,
      forall₂_of_mapM areShapes⟩

/-- A function that is read is kept exactly if it is public. -/
theorem readFunction_eq_none_iff {module name : String} {description : Value}
    {read : Option Function} (isRead : readFunction module name description = .ok read) :
    read = none ↔ description.part "visibility" ≠ .string "Public" := by
  rcases readFunction_cases isRead with ⟨rfl, isOther⟩ | ⟨function, rfl, -, isPublic, -⟩
  · exact iff_of_true rfl isOther
  · exact iff_of_false nofun (not_not_intro isPublic)

/-- A function that is kept belongs to the module it was read in. -/
theorem module_of_readFunction {module name : String} {description : Value} {function : Function}
    (isRead : readFunction module name description = .ok (some function)) :
    function.module = module := by
  rcases readFunction_cases isRead with ⟨none, -⟩ | ⟨read, same, isOf, -⟩
  · cases none
  · cases same
    exact isOf

/-- The functions of a module are read one by one. -/
theorem exists_kept_of_readFunctions {module : String} {description : Value}
    {functions : List Function} (isRead : readFunctions module description = .ok functions) :
    ∃ kept, functions = kept.filterMap id ∧
      List.Forall₂ (fun (member : String × Value) read =>
        readFunction module member.1 member.2 = .ok read) (exposedOf description) kept := by
  have goesOn {members : Members} (isRead : ((members.mapM fun (member : String × Value) =>
      readFunction module member.1 member.2) >>= fun kept => pure (kept.filterMap id)) =
        .ok functions) :
      ∃ kept, functions = kept.filterMap id ∧ List.Forall₂ (fun (member : String × Value) read =>
        readFunction module member.1 member.2 = .ok read) members kept := by
    obtain ⟨kept, areKept, same⟩ := ok_of_bind isRead
    exact ⟨kept, (Except.ok.inj same).symm, forall₂_of_mapM areKept⟩
  obtain ⟨exposed, isExposed, isRead⟩ := ok_of_bind isRead
  dsimp only at isRead
  split at isRead
  · next full =>
    obtain ⟨members, all, isRead⟩ := ok_of_bind isRead
    rw [← eq_exposedOf isExposed ((if_pos full).trans all)]
    exact goesOn isRead
  · next empty =>
    rw [← eq_exposedOf isExposed (if_neg empty)]
    exact goesOn isRead

/-- A module that is read has no functions exactly if it exposes no public one. -/
theorem readFunctions_eq_nil_iff {module : String} {description : Value} {functions : List Function}
    (isRead : readFunctions module description = .ok functions) :
    functions = [] ↔ ¬ HasPublic description := by
  obtain ⟨kept, rfl, each⟩ := exists_kept_of_readFunctions isRead
  clear isRead
  unfold HasPublic
  generalize exposedOf description = members at each ⊢
  induction each with
  | nil => simp
  | @cons member read rest others isOne _ inductionHypothesis =>
    have isNone := readFunction_eq_none_iff isOne
    cases read with
    | none =>
      have notPublic := isNone.mp rfl
      rw [List.filterMap_cons_none rfl, inductionHypothesis]
      simp [notPublic]
    | some own =>
      have isPublic : member.2.part "visibility" = .string "Public" :=
        not_not.mp fun differs => nomatch isNone.mpr differs
      refine iff_of_false (List.cons_ne_nil own _) (not_not_intro ?_)
      exact ⟨member, List.mem_cons_self .., isPublic⟩

/-- What a list is read to is what its items are read to. -/
theorem mem_outcomes_iff {Fault Item Outcome : Type} {read : Item → Except Fault Outcome}
    {items : List Item} {outcomes : List Outcome}
    (each : List.Forall₂ (fun item outcome => read item = .ok outcome) items outcomes)
    {outcome : Outcome} : outcome ∈ outcomes ↔ ∃ item ∈ items, read item = .ok outcome := by
  induction each with
  | nil => simp
  | cons isRead _ inductionHypothesis =>
    rw [List.mem_cons, inductionHypothesis, List.exists_mem_cons_iff, isRead, Except.ok.injEq,
      eq_comm]

theorem exists_outcome {Fault Item Outcome : Type} {read : Item → Except Fault Outcome}
    {items : List Item} {outcomes : List Outcome}
    (each : List.Forall₂ (fun item outcome => read item = .ok outcome) items outcomes)
    {item : Item} (member : item ∈ items) : ∃ outcome, read item = .ok outcome := by
  induction each with
  | nil => cases member
  | cons isRead _ inductionHypothesis =>
    rcases List.mem_cons.mp member with rfl | isLater
    · exact ⟨_, isRead⟩
    · exact inductionHypothesis isLater

/-- The functions of a module are those that are read of what it exposes. -/
theorem mem_readFunctions_iff {module : String} {description : Value} {functions : List Function}
    (isRead : readFunctions module description = .ok functions) {function : Function} :
    function ∈ functions ↔ ∃ member ∈ exposedOf description,
      readFunction module member.1 member.2 = .ok (some function) := by
  obtain ⟨kept, rfl, each⟩ := exists_kept_of_readFunctions isRead
  rw [← @mem_outcomes_iff _ _ _ (fun member : String × Value =>
    readFunction module member.1 member.2) _ _ each]
  simp

/-- A public function that a readable module exposes is read. -/
theorem exists_function_of_public {module : String} {description : Value}
    {functions : List Function} (isRead : readFunctions module description = .ok functions)
    {member : String × Value} (isExposed : member ∈ exposedOf description)
    (isPublic : member.2.part "visibility" = .string "Public") :
    ∃ function ∈ functions, readFunction module member.1 member.2 = .ok (some function) := by
  obtain ⟨kept, -, each⟩ := exists_kept_of_readFunctions isRead
  obtain ⟨read, isOne⟩ := @exists_outcome _ _ _ (fun member : String × Value =>
    readFunction module member.1 member.2) _ _ each member isExposed
  cases read with
  | none => exact absurd isPublic ((readFunction_eq_none_iff isOne).mp rfl)
  | some function =>
    exact ⟨function, (mem_readFunctions_iff isRead).mpr ⟨member, isExposed, isOne⟩, isOne⟩

/-- A function that is kept is public, and its parameters are read one by one. -/
theorem exists_params_of_readFunction {module name : String} {description : Value}
    {function : Function} (isRead : readFunction module name description = .ok (some function)) :
    description.part "visibility" = .string "Public" ∧
      ∃ params, (description.part "parameters").partsOrNone = .ok params ∧
        List.Forall₂ (fun descriptor param => Param.ofDescriptor descriptor = .ok param) params
          function.params := by
  rcases readFunction_cases isRead with ⟨none, -⟩ | ⟨read, same, -, isPublic, areParams⟩
  · cases none
  · cases same
    exact ⟨isPublic, areParams⟩

/-! ### All modules -/

theorem addDeclared_eq_none_iff {excluded : List String} {known : Dependencies}
    {declared : List Value} : (addDeclared excluded known declared).2 = none ↔
      ∀ entry ∈ declared, ∃ written, declaredAddress entry = .ok written := by
  induction declared generalizing known with
  | nil => simp [addDeclared]
  | cons entry rest inductionHypothesis =>
    unfold addDeclared
    rw [List.forall_mem_cons]
    cases declaredAddress entry with
    | ok written => simp [inductionHypothesis]
    | error fault => simp

/-- A module is read exactly if it can be, whatever is known of others. -/
theorem readModule_eq_ok_iff {excluded : List String} {known : Dependencies} {name : String}
    {description : Value} {functions : List Function} :
    (readModule excluded known name description).1 = .ok functions ↔
      readFunctions name description = .ok functions ∧ IsReadable name description := by
  unfold readModule IsReadable
  cases readFunctions name description with
  | error fault => simp
  | ok own =>
    cases declarations description with
    | error fault => simp
    | ok declared =>
      have complete := @addDeclared_eq_none_iff excluded known declared
      dsimp only
      split
      · next added =>
        rw [added] at complete
        exact ⟨fun same => ⟨same, own, declared, rfl, rfl, complete.mp rfl⟩, fun both => both.1⟩
      · next added =>
        rw [added] at complete
        refine iff_of_false nofun ?_
        rintro ⟨_, _, _, _, same, all⟩
        cases same
        cases complete.mpr all

/-- A module gives its functions, or it cannot be read and gives a fault. -/
theorem readModule_cases (excluded : List String) (known : Dependencies) (name : String)
    (description : Value) :
    (∃ own after, readModule excluded known name description = (.ok own, after) ∧
        IsReadable name description ∧ (own = [] ↔ ¬ HasPublic description)) ∨
      ∃ fault after, readModule excluded known name description = (.error fault, after) ∧
        ¬ IsReadable name description := by
  have isRead {functions : List Function} :=
    @readModule_eq_ok_iff excluded known name description functions
  cases found : readModule excluded known name description with
  | mk outcome after =>
    rw [found] at isRead
    cases outcome with
    | ok own =>
      obtain ⟨isOk, readable⟩ := isRead.mp rfl
      exact Or.inl ⟨own, after, rfl, readable, readFunctions_eq_nil_iff isOk⟩
    | error fault =>
      refine Or.inr ⟨fault, after, rfl, ?_⟩
      rintro ⟨functions, declared, isOk, all⟩
      cases isRead.mpr ⟨isOk, functions, declared, isOk, all⟩

/-- Nothing is read of modules exactly if none can be read that has a public function. -/
theorem readModules_eq_nil_iff {excluded : List String} {known : Dependencies}
    {modules : Members} : (readModules excluded known modules).1 = [] ↔
      ∀ described ∈ modules, HasPublic described.2 → ¬ IsReadable described.1 described.2 := by
  induction modules generalizing known with
  | nil => simp [readModules]
  | cons first rest inductionHypothesis =>
    obtain ⟨name, description⟩ := first
    unfold readModules
    rw [List.forall_mem_cons]
    rcases readModule_cases excluded known name description with
      ⟨own, after, found, readable, none⟩ | ⟨fault, after, found, unreadable⟩
    · rw [found, ← @inductionHypothesis after]
      refine List.append_eq_nil_iff.trans (and_congr_left fun _ => none.trans ?_)
      exact ⟨fun notPublic isPublic => absurd isPublic notPublic,
        fun excused isPublic => excused isPublic readable⟩
    · rw [found]
      exact inductionHypothesis.trans (and_iff_right fun _ => unreadable).symm

/-- The functions read of modules are those read of any that can be read. -/
theorem mem_readModules_fst_iff {excluded : List String} {known : Dependencies} {modules : Members}
    {function : Function} : function ∈ (readModules excluded known modules).1 ↔
      ∃ described ∈ modules, IsReadable described.1 described.2 ∧
        ∃ member ∈ exposedOf described.2,
          readFunction described.1 member.1 member.2 = .ok (some function) := by
  induction modules generalizing known with
  | nil => simp [readModules]
  | cons first rest inductionHypothesis =>
    obtain ⟨name, description⟩ := first
    unfold readModules
    rw [List.exists_mem_cons_iff]
    rcases readModule_cases excluded known name description with
      ⟨own, after, found, readable, -⟩ | ⟨fault, after, found, unreadable⟩
    · have isOwn := @mem_readFunctions_iff _ _ _
        (readModule_eq_ok_iff.mp (congrArg Prod.fst found)).1 function
      rw [found, ← @inductionHypothesis after, ← isOwn, and_iff_right readable]
      exact List.mem_append
    · rw [found, ← @inductionHypothesis after]
      exact (or_iff_right fun both => unreadable both.1).symm

/-- The modules that are skipped are those that cannot be read. -/
theorem mem_skipped_iff {excluded : List String} {known : Dependencies} {modules : Members}
    {name : String} : name ∈ (readModules excluded known modules).2.2.map Prod.fst ↔
      ∃ description, (name, description) ∈ modules ∧ ¬ IsReadable name description := by
  induction modules generalizing known with
  | nil => simp [readModules]
  | cons first rest inductionHypothesis =>
    obtain ⟨firstName, firstDescription⟩ := first
    unfold readModules
    rcases readModule_cases excluded known firstName firstDescription with
      ⟨own, after, found, readable, _⟩ | ⟨fault, after, found, unreadable⟩
    · rw [found]
      refine inductionHypothesis.trans (exists_congr fun description => ?_)
      refine and_congr_left fun unreadable => ?_
      rw [List.mem_cons]
      refine (or_iff_right ?_).symm
      rintro ⟨⟩
      exact unreadable readable
    · rw [found]
      refine List.mem_cons.trans ?_
      rw [inductionHypothesis]
      constructor
      · rintro (rfl | ⟨description, member, isUnreadable⟩)
        · exact ⟨firstDescription, List.mem_cons_self .., unreadable⟩
        · exact ⟨description, List.mem_cons_of_mem _ member, isUnreadable⟩
      · rintro ⟨description, member, isUnreadable⟩
        rcases List.mem_cons.mp member with same | inRest
        · cases same
          exact Or.inl rfl
        · exact Or.inr ⟨description, inRest, isUnreadable⟩

end Extraction

/-! ### Packages -/

section Packages

variable {modules disassembly : Members} {packageId : Option String}

/-- What is read off a package with modules is what is read off these. -/
theorem extract_of_modules (some : modules ≠ []) :
    (extract modules disassembly packageId).package.functions =
        (Extraction.readModules (Extraction.excludedAddresses packageId) [] modules).1 ∧
      (extract modules disassembly packageId).skipped =
        (Extraction.readModules (Extraction.excludedAddresses packageId) [] modules).2.2.map
          Prod.fst := by
  unfold extract
  rw [if_neg fun none => some (List.isEmpty_iff.mp none)]
  exact ⟨rfl, rfl⟩

/-- The functions of a package are those of the modules that can be read. -/
theorem mem_functions_extract_iff {function : Function} :
    function ∈ (extract modules disassembly packageId).package.functions ↔
      ∃ described ∈ modules, Extraction.IsReadable described.1 described.2 ∧
        ∃ member ∈ Extraction.exposedOf described.2,
          Extraction.readFunction described.1 member.1 member.2 = .ok (some function) := by
  by_cases none : modules = []
  · subst none
    simp [extract]
  · rw [(extract_of_modules none).1]
    exact Extraction.mem_readModules_fst_iff

/-- Nothing is read off a package exactly if none of its modules can be read that has a public
function. -/
theorem functions_extract_eq_nil_iff :
    (extract modules disassembly packageId).package.functions = [] ↔
      ∀ described ∈ modules, Extraction.HasPublic described.2 →
        ¬ Extraction.IsReadable described.1 described.2 := by
  by_cases none : modules = []
  · subst none
    simp [extract]
  · rw [(extract_of_modules none).1]
    exact Extraction.readModules_eq_nil_iff

/-- The modules that are skipped are those that cannot be read. -/
theorem mem_skipped_extract_iff {name : String} :
    name ∈ (extract modules disassembly packageId).skipped ↔
      ∃ description, (name, description) ∈ modules ∧
        ¬ Extraction.IsReadable name description := by
  by_cases none : modules = []
  · subst none
    simp [extract, Extraction.skipped]
  · rw [(extract_of_modules none).2]
    exact Extraction.mem_skipped_iff

end Packages

end MoveAudit.Move
