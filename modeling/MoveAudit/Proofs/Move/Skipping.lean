/-
This file says what a module that cannot be read leaves behind. Its functions are dropped, but the
addresses that it declares before its fault have been counted by then and stay. So a package depends
on the same packages as without its skipped modules exactly if nothing was counted too early: what
is known when a module is skipped is what the package without the skipped modules depends on first.
All is read off one fact, that counting only ever adds at the end, so that the dependencies known at
any time are the first ones of those known later.
-/

import Mathlib.Data.List.Nodup
import MoveAudit.Proofs.Move.Extraction

namespace MoveAudit.Move

open Json

/-! ### Counting addresses -/

namespace Dependencies

variable {excluded : List String} {known other : Dependencies} {address : Value}

theorem add_cases (excluded : List String) (known : Dependencies) (address : Value) :
    (known.add excluded address = known ∧ (Address.normalOf address ∈ excluded ∨
        Address.normalOf address ∈ known.map Prod.fst)) ∨
      known.add excluded address = known ++ [(Address.normalOf address, address)] ∧
        Address.normalOf address ∉ excluded ∧ Address.normalOf address ∉ known.map Prod.fst := by
  unfold add Entries.putNew
  dsimp only
  by_cases isExcluded : Address.normalOf address ∈ excluded
  · exact .inl ⟨if_pos (List.contains_iff_mem.mpr isExcluded), .inl isExcluded⟩
  · rw [if_neg (mt List.contains_iff_mem.mp isExcluded)]
    have isKnown_iff : (known.any fun entry => entry.1 == Address.normalOf address) = true ↔
        Address.normalOf address ∈ known.map Prod.fst := by
      simp
    by_cases isKnown : Address.normalOf address ∈ known.map Prod.fst
    · exact .inl ⟨if_pos (isKnown_iff.mpr isKnown), .inr isKnown⟩
    · exact .inr ⟨if_neg (mt isKnown_iff.mp isKnown), isExcluded, isKnown⟩

theorem add_eq_self (counts : Address.normalOf address ∈ excluded ∨
    Address.normalOf address ∈ known.map Prod.fst) : known.add excluded address = known := by
  rcases add_cases excluded known address with ⟨same, _⟩ | ⟨_, isCounted, isNew⟩
  · exact same
  · exact absurd counts (not_or.mpr ⟨isCounted, isNew⟩)

theorem addAll_append (excluded : List String) (known : Dependencies)
    (first second : List Value) : known.addAll excluded (first ++ second) =
      (known.addAll excluded first).addAll excluded second :=
  List.foldl_append

/-- What is known after counting is what was known, and then addresses that were counted. -/
theorem exists_added (excluded : List String) (known : Dependencies) (written : List Value) :
    ∃ added, known.addAll excluded written = known ++ added ∧
      ∀ entry ∈ added, entry.2 ∈ written := by
  induction written generalizing known with
  | nil => exact ⟨[], (List.append_nil known).symm, List.forall_mem_nil _⟩
  | cons address rest inductionHypothesis =>
    obtain ⟨added, isAdded, all⟩ := inductionHypothesis (known.add excluded address)
    have isLater : ∀ entry ∈ added, entry.2 ∈ address :: rest := fun entry member =>
      List.mem_cons_of_mem _ (all entry member)
    have whole : known.addAll excluded (address :: rest) = known.add excluded address ++ added :=
      isAdded
    rcases add_cases excluded known address with ⟨same, _⟩ | ⟨more, _⟩
    · exact ⟨added, by rw [whole, same], isLater⟩
    · refine ⟨(Address.normalOf address, address) :: added, ?_, ?_⟩
      · rw [whole, more, List.append_assoc, List.singleton_append]
      · exact List.forall_mem_cons.mpr ⟨List.mem_cons_self, isLater⟩

theorem prefix_addAll (excluded : List String) (known : Dependencies) (written : List Value) :
    known <+: known.addAll excluded written := by
  obtain ⟨added, isAdded, -⟩ := exists_added excluded known written
  exact ⟨added, isAdded.symm⟩

/-- Each address is counted under its normal form, and under no other one. -/
def AreNormal (known : Dependencies) : Prop :=
  (∀ entry ∈ known, entry.1 = Address.normalOf entry.2) ∧ (known.map Prod.fst).Nodup

theorem AreNormal.add (normal : known.AreNormal) (excluded : List String) (address : Value) :
    (known.add excluded address).AreNormal := by
  rcases add_cases excluded known address with ⟨same, _⟩ | ⟨more, _, isNew⟩
  · rw [same]
    exact normal
  · rw [more]
    refine ⟨List.forall_mem_append.mpr ⟨normal.1, List.forall_mem_singleton.mpr rfl⟩, ?_⟩
    rw [List.map_append, List.nodup_append]
    refine ⟨normal.2, List.pairwise_singleton _ _, fun key isOld last isLast same => isNew ?_⟩
    obtain rfl : last = Address.normalOf address := List.mem_singleton.mp isLast
    exact same ▸ isOld

theorem AreNormal.addAll (normal : known.AreNormal) (excluded : List String)
    (written : List Value) : (known.addAll excluded written).AreNormal := by
  induction written generalizing known with
  | nil => exact normal
  | cons address rest inductionHypothesis => exact inductionHypothesis (normal.add excluded address)

/-- The addresses alone tell under which names they are counted. -/
theorem AreNormal.eq_map (normal : known.AreNormal) :
    known = (known.map Prod.snd).map fun address => (Address.normalOf address, address) := by
  rw [List.map_map]
  refine (List.map_id known).symm.trans (List.map_congr_left fun entry member => ?_)
  exact Prod.ext (normal.1 entry member) rfl

theorem AreNormal.prefix_iff (normal : known.AreNormal) (otherNormal : other.AreNormal) :
    known.map Prod.snd <+: other.map Prod.snd ↔ known <+: other := by
  refine ⟨fun isPrefix => ?_, fun isPrefix => isPrefix.map Prod.snd⟩
  rw [normal.eq_map, otherNormal.eq_map]
  exact isPrefix.map _

theorem AreNormal.eq_iff (normal : known.AreNormal) (otherNormal : other.AreNormal) :
    known.map Prod.snd = other.map Prod.snd ↔ known = other := by
  refine ⟨fun same => ?_, congrArg (List.map Prod.snd)⟩
  rw [normal.eq_map, otherNormal.eq_map, same]

/-- What is counted from the start is counted under normal forms. -/
theorem areNormal_addAll (excluded : List String) (written : List Value) :
    (addAll excluded [] written).AreNormal :=
  AreNormal.addAll ⟨List.forall_mem_nil _, List.nodup_nil⟩ excluded written

theorem mem_add_iff {key : String} : key ∈ (known.add excluded address).map Prod.fst ↔
    key ∈ known.map Prod.fst ∨ key = Address.normalOf address ∧ key ∉ excluded := by
  rcases add_cases excluded known address with ⟨same, counts⟩ | ⟨more, isCounted, _⟩
  · rw [same]
    refine (or_iff_left_of_imp ?_).symm
    rintro ⟨rfl, isCounted⟩
    exact counts.resolve_left isCounted
  · rw [more, List.map_append, List.mem_append]
    refine or_congr_right (List.mem_singleton.trans (and_iff_left_of_imp ?_).symm)
    rintro rfl
    exact isCounted

/-- The names under which addresses are counted, without regard to order. -/
theorem mem_addAll_iff {key : String} {written : List Value} :
    key ∈ (known.addAll excluded written).map Prod.fst ↔
      key ∈ known.map Prod.fst ∨ (∃ address ∈ written, key = Address.normalOf address) ∧
        key ∉ excluded := by
  induction written generalizing known with
  | nil => simp [addAll]
  | cons address rest inductionHypothesis =>
    refine inductionHypothesis.trans ?_
    rw [mem_add_iff, or_assoc, List.exists_mem_cons_iff, or_and_right]

/-- What is known of fewer addresses, and begins as what is known of more, is known of these. -/
theorem AreNormal.prefix_of_subset (normal : known.AreNormal)
    (fewer : known.map Prod.fst ⊆ other.map Prod.fst) {all : Dependencies}
    (isPrefix : known <+: all) (otherPrefix : other <+: all) : known <+: other := by
  rcases List.prefix_or_prefix_of_prefix isPrefix otherPrefix with sooner | later
  · exact sooner
  · obtain ⟨rest, rfl⟩ := later
    have differ := normal.2
    rw [List.map_append, List.nodup_append] at differ
    cases rest with
    | nil => simp
    | cons entry rest =>
      have isOld : entry.1 ∈ other.map Prod.fst := fewer (by simp)
      exact absurd rfl (differ.2.2 _ isOld _ (by simp))

/-- Addresses that were counted too early make no difference when they are the next ones to be
counted anyway. -/
theorem addAll_eq_of_prefix {written : List Value} (sooner : known <+: other)
    (isPrefix : other <+: known.addAll excluded written) :
    other.addAll excluded written = known.addAll excluded written := by
  induction written generalizing known with
  | nil => exact (isPrefix.eq_of_length_le sooner.length_le)
  | cons address rest inductionHypothesis =>
    have goesOn {next : Dependencies} (nextSooner : next <+: other)
        (isNext : known.add excluded address = next)
        (counts : Address.normalOf address ∈ excluded ∨
          Address.normalOf address ∈ next.map Prod.fst) :
        other.addAll excluded (address :: rest) = known.addAll excluded (address :: rest) := by
      have stays : other.add excluded address = other :=
        add_eq_self (counts.imp_right fun isKnown => (nextSooner.map Prod.fst).subset isKnown)
      subst isNext
      show (other.add excluded address).addAll excluded rest = _
      rw [stays]
      exact inductionHypothesis nextSooner isPrefix
    rcases add_cases excluded known address with ⟨same, counts⟩ | ⟨more, _, _⟩
    · exact goesOn sooner same counts
    · by_cases isSame : known = other
      · rw [isSame]
      · -- The address is counted now, so the next one that was counted too early is this one.
        refine goesOn ?_ more (.inr (by simp))
        refine List.prefix_of_prefix_length_le ?_ isPrefix ?_
        · rw [← more]
          exact prefix_addAll excluded _ rest
        · have shorter : known.length < other.length :=
            Nat.lt_of_le_of_ne sooner.length_le fun same => isSame (sooner.eq_of_length same)
          rw [List.length_append]
          exact shorter

/-- Counting more addresses first makes no difference exactly if what is known of them is known
first anyway. -/
theorem addAll_eq_addAll_iff {early late written : List Value} (fewer : late ⊆ early) :
    addAll excluded [] (early ++ written) = addAll excluded [] (late ++ written) ↔
      addAll excluded [] early <+: addAll excluded [] (late ++ written) := by
  rw [addAll_append, addAll_append]
  constructor
  · intro same
    rw [← same]
    exact prefix_addAll excluded _ written
  · intro isPrefix
    have names : (addAll excluded [] late).map Prod.fst ⊆
        (addAll excluded [] early).map Prod.fst := by
      intro key member
      obtain isOld | ⟨⟨address, isLate, rfl⟩, isCounted⟩ := mem_addAll_iff.mp member
      · exact mem_addAll_iff.mpr (.inl isOld)
      · exact mem_addAll_iff.mpr (.inr ⟨⟨address, fewer isLate, rfl⟩, isCounted⟩)
    have sooner := (areNormal_addAll excluded late).prefix_of_subset names
      (prefix_addAll excluded _ written) isPrefix
    exact addAll_eq_of_prefix sooner isPrefix

end Dependencies

/-! ### What modules leave behind -/

namespace Extraction

/-- The addresses of a dependency list up to its first entry of the wrong shape. -/
def declaredUntilFault : List Value → List Value
  | [] => []
  | entry :: rest =>
    match declaredAddress entry with
    | .ok written => written :: declaredUntilFault rest
    | .error _ => []

/-- The addresses that a described module has counted, be it skipped or not. -/
def writtenBy (described : String × Value) : List Value :=
  match readFunctions described.1 described.2, declarations described.2 with
  | .ok _, .ok declared => declaredUntilFault declared
  | _, _ => []

/-- The addresses of packages that the declarations of modules give, in order. -/
def declaredBy (packageId : Option String) (modules : Members) : List Value :=
  (readModules (excludedAddresses packageId) [] modules).2.1.map Prod.snd

variable {excluded : List String} {known : Dependencies}

theorem addDeclared_fst (excluded : List String) (known : Dependencies) (declared : List Value) :
    (addDeclared excluded known declared).1 =
      known.addAll excluded (declaredUntilFault declared) := by
  induction declared generalizing known with
  | nil => rfl
  | cons entry rest inductionHypothesis =>
    unfold addDeclared declaredUntilFault
    cases declaredAddress entry with
    | ok written => exact inductionHypothesis _
    | error fault => rfl

theorem readModule_snd (excluded : List String) (known : Dependencies) (name : String)
    (description : Value) : (readModule excluded known name description).2 =
      known.addAll excluded (writtenBy (name, description)) := by
  unfold readModule writtenBy
  cases readFunctions name description with
  | error fault => rfl
  | ok own =>
    cases declarations description with
    | error fault => rfl
    | ok declared =>
      have counted := addDeclared_fst excluded known declared
      dsimp only
      split
      · next added => rw [← counted, added]
      · next added => rw [← counted, added]

/-- The dependencies known after modules are those that any of them has counted, in order. -/
theorem readModules_snd (excluded : List String) (known : Dependencies) (modules : Members) :
    (readModules excluded known modules).2.1 =
      known.addAll excluded (modules.flatMap writtenBy) := by
  induction modules generalizing known with
  | nil => rfl
  | cons first rest inductionHypothesis =>
    obtain ⟨name, description⟩ := first
    rw [List.flatMap_cons, Dependencies.addAll_append, ← readModule_snd, ← inductionHypothesis]
    conv_lhs => unfold readModules
    rcases readModule excluded known name description with ⟨_ | _, after⟩ <;> rfl

/-- The functions read of modules are those read of the ones that can be read. -/
theorem readModules_filter_fst {keeps : String × Value → Bool} {modules : Members}
    (keeps_iff : ∀ described ∈ modules,
      keeps described = true ↔ IsReadable described.1 described.2) (other : Dependencies) :
    (readModules excluded known (modules.filter keeps)).1 =
      (readModules excluded other modules).1 := by
  induction modules generalizing known other with
  | nil => rfl
  | cons first rest inductionHypothesis =>
    obtain ⟨isKept, restKept⟩ := List.forall_mem_cons.mp keeps_iff
    obtain ⟨name, description⟩ := first
    rcases readModule_cases excluded other name description with
      ⟨own, after, found, readable, _⟩ | ⟨fault, after, found, unreadable⟩
    · have isOk : (readModule excluded known name description).1 = .ok own :=
        readModule_eq_ok_iff.mpr (readModule_eq_ok_iff.mp (congrArg Prod.fst found))
      rw [List.filter_cons_of_pos (isKept.mpr readable)]
      unfold readModules
      rw [found]
      rcases again : readModule excluded known name description with ⟨outcome, before⟩
      rw [again] at isOk
      cases isOk
      exact congrArg (own ++ ·) (inductionHypothesis restKept after)
    · rw [List.filter_cons_of_neg fun keeps => unreadable (isKept.mp keeps)]
      conv_rhs => unfold readModules
      rw [found]
      exact inductionHypothesis restKept after

end Extraction

/-! ### Packages without the modules that are skipped -/

section WithoutSkipped

open Extraction

/-- The modules of a package without those that are skipped when it is read. -/
def withoutSkipped (modules disassembly : Members) (packageId : Option String) : Members :=
  modules.filter fun described =>
    !(extract modules disassembly packageId).skipped.contains described.1

variable {modules disassembly : Members} {packageId : Option String}

/-- All addresses are counted in one go: those declared, those of parameters and those imported. -/
theorem dependencies_extract (some : modules ≠ []) :
    (extract modules disassembly packageId).package.dependencies =
      (Dependencies.addAll (excludedAddresses packageId) [] (modules.flatMap writtenBy ++
        ((extract modules disassembly packageId).package.functions.flatMap paramAddresses ++
          importAddresses disassembly))).map Prod.snd := by
  rw [(extract_of_modules some).1, Dependencies.addAll_append, Dependencies.addAll_append,
    ← readModules_snd]
  unfold extract
  rw [if_neg fun none => some (List.isEmpty_iff.mp none)]

/-- Names being distinct, a module is skipped exactly if it cannot be read itself. -/
theorem keeps_iff (distinct : (modules.map Prod.fst).Nodup) {described : String × Value}
    (member : described ∈ modules) :
    (!(extract modules disassembly packageId).skipped.contains described.1) = true ↔
      IsReadable described.1 described.2 := by
  rw [Bool.not_eq_true', ← Bool.not_eq_true, List.contains_iff_mem, mem_skipped_extract_iff,
    not_exists]
  constructor
  · intro none
    exact not_not.mp fun unreadable => none described.2 ⟨member, unreadable⟩
  · rintro readable description ⟨other, unreadable⟩
    exact unreadable (List.inj_on_of_nodup_map distinct other member rfl ▸ readable)

/-- What modules declare that are gone through first is known from then on. -/
theorem isPrefix_declaredBy (before after : Members) (some : before ++ after ≠ []) :
    declaredBy packageId before <+:
      (extract (before ++ after) disassembly packageId).package.dependencies := by
  rw [dependencies_extract some, List.flatMap_append, List.append_assoc,
    Dependencies.addAll_append, ← readModules_snd]
  exact (Dependencies.prefix_addAll _ _ _).map Prod.snd

/-- Further modules at the front that add no functions add no dependencies either exactly if what
they declare is what the package depends on first anyway. -/
theorem dependencies_extract_eq_iff {whole reduced early late after : Members}
    (isWhole : whole = early ++ after) (isReduced : reduced = late ++ after)
    (fewer : late ⊆ early) (some : reduced ≠ [])
    (sameFunctions : (extract whole disassembly packageId).package.functions =
      (extract reduced disassembly packageId).package.functions) :
    (extract whole disassembly packageId).package.dependencies =
        (extract reduced disassembly packageId).package.dependencies ↔
      declaredBy packageId early <+:
        (extract reduced disassembly packageId).package.dependencies := by
  have someWhole : whole ≠ [] := by
    obtain ⟨described, member⟩ := List.exists_mem_of_ne_nil _ some
    rw [isReduced, List.mem_append] at member
    exact List.ne_nil_of_mem (isWhole ▸ List.mem_append.mpr (member.imp_left fun own => fewer own))
  have fewerWritten : late.flatMap writtenBy ⊆ early.flatMap writtenBy := by
    intro address isWritten
    obtain ⟨described, isLate, isWritten⟩ := List.mem_flatMap.mp isWritten
    exact List.mem_flatMap.mpr ⟨described, fewer isLate, isWritten⟩
  rw [dependencies_extract some, dependencies_extract someWhole, sameFunctions, declaredBy,
    readModules_snd, isWhole, isReduced, List.flatMap_append, List.flatMap_append,
    List.append_assoc, List.append_assoc,
    (Dependencies.areNormal_addAll _ _).eq_iff (Dependencies.areNormal_addAll _ _),
    (Dependencies.areNormal_addAll _ _).prefix_iff (Dependencies.areNormal_addAll _ _)]
  exact Dependencies.addAll_eq_addAll_iff fewerWritten

theorem mem_withoutSkipped_iff {described : String × Value} :
    described ∈ withoutSkipped modules disassembly packageId ↔ described ∈ modules ∧
      described.1 ∉ (extract modules disassembly packageId).skipped := by
  simp [withoutSkipped]

/-- A package has the same functions without its skipped modules. -/
theorem functions_without_skipped (distinct : (modules.map Prod.fst).Nodup)
    (some : withoutSkipped modules disassembly packageId ≠ []) :
    (extract modules disassembly packageId).package.functions =
      (extract (withoutSkipped modules disassembly packageId) disassembly
        packageId).package.functions := by
  have someWhole : modules ≠ [] := by
    obtain ⟨described, member⟩ := List.exists_mem_of_ne_nil _ some
    exact List.ne_nil_of_mem (mem_withoutSkipped_iff.mp member).1
  rw [(extract_of_modules someWhole).1, (extract_of_modules some).1]
  exact (readModules_filter_fst (fun _ member => keeps_iff distinct member) []).symm

/-- Either no module is skipped, or there is a last one that is and those after it are kept. -/
theorem exists_last_skipped (skipped : List String) (modules : Members) :
    (∀ described ∈ modules, described.1 ∉ skipped) ∨
      ∃ before described after, modules = before ++ described :: after ∧ described.1 ∈ skipped ∧
        ∀ later ∈ after, later.1 ∉ skipped := by
  induction modules with
  | nil => exact .inl nofun
  | cons first rest inductionHypothesis =>
    rcases inductionHypothesis with none | ⟨before, described, after, rfl, isSkipped, last⟩
    · by_cases isSkipped : first.1 ∈ skipped
      · exact .inr ⟨[], first, rest, rfl, isSkipped, none⟩
      · exact .inl (List.forall_mem_cons.mpr ⟨isSkipped, none⟩)
    · exact .inr ⟨first :: before, described, after, rfl, isSkipped, last⟩

/-- A package has the same functions without its skipped modules. It depends on the same packages
exactly if, each time that a module is skipped, what is known by then is what the package without
the skipped modules depends on first. -/
theorem extract_without_skipped_iff (distinct : (modules.map Prod.fst).Nodup)
    (someRead : ∃ described ∈ modules,
      described.1 ∉ (extract modules disassembly packageId).skipped) :
    let whole := extract modules disassembly packageId
    let reduced := extract (withoutSkipped modules disassembly packageId) disassembly packageId
    whole.package.functions = reduced.package.functions ∧
      (whole.package.dependencies = reduced.package.dependencies ↔
        ∀ before described after, modules = before ++ described :: after →
          described.1 ∈ whole.skipped →
            declaredBy packageId (before ++ [described]) <+: reduced.package.dependencies) := by
  intro whole reduced
  have some : withoutSkipped modules disassembly packageId ≠ [] := by
    obtain ⟨read, isModule, isRead⟩ := someRead
    exact List.ne_nil_of_mem (mem_withoutSkipped_iff.mpr ⟨isModule, isRead⟩)
  have sameFunctions := functions_without_skipped distinct some
  refine ⟨sameFunctions, ?_, ?_⟩
  · rintro same before described after rfl _
    rw [← same]
    have isPrefix : declaredBy packageId (before ++ [described]) <+:
        (extract ((before ++ [described]) ++ after) disassembly packageId).package.dependencies :=
      isPrefix_declaredBy (before ++ [described]) after (by simp)
    rwa [List.append_assoc] at isPrefix
  · intro sooner
    rcases exists_last_skipped whole.skipped modules with
      none | ⟨before, described, after, split, isSkipped, last⟩
    · have same : withoutSkipped modules disassembly packageId = modules :=
        List.filter_eq_self.mpr fun described member => by simpa using none described member
      simp only [reduced, same, whole]
    · -- Only what is declared up to the last skipped module differs.
      let keeps (described : String × Value) : Bool := !whole.skipped.contains described.1
      have kept : withoutSkipped modules disassembly packageId = before.filter keeps ++ after := by
        have dropped : keeps described = false := by simpa [keeps] using isSkipped
        have allKept : after.filter keeps = after :=
          List.filter_eq_self.mpr fun later member => by simpa [keeps] using last later member
        show modules.filter keeps = _
        rw [split, List.filter_append, List.filter_cons_of_neg (by simp [dropped]), allKept]
      have isWhole : modules = (before ++ [described]) ++ after := by
        rw [split, List.append_cons]
      have fewer : before.filter keeps ⊆ before ++ [described] :=
        fun _ member => List.mem_append_left _ (List.mem_of_mem_filter member)
      exact (dependencies_extract_eq_iff isWhole kept fewer some sameFunctions).mpr
        (sooner before described after split isSkipped)

/-- A module whose only dependency is broken is skipped without a trace. -/
theorem extract_without_broken :
    let modules : Members := [("broken", .object [("dependencies", .array [.object []])]),
      ("fine", .object [("dependencies", .array [.string "0xbbb"])])]
    (modules.map Prod.fst).Nodup ∧
      (∃ described ∈ modules, described.1 ∉ (extract modules [] (some "0xabc")).skipped) ∧
      (extract modules [] (some "0xabc")).package.dependencies =
        (extract (withoutSkipped modules [] (some "0xabc")) []
          (some "0xabc")).package.dependencies := by
  intro modules
  have distinct : (modules.map Prod.fst).Nodup := by decide
  have someRead : ∃ described ∈ modules,
      described.1 ∉ (extract modules [] (some "0xabc")).skipped :=
    ⟨modules[1], by simp, by decide⟩
  refine ⟨distinct, someRead, (extract_without_skipped_iff distinct someRead).2.mpr ?_⟩
  intro before described after split isSkipped
  rcases before with _ | ⟨first, _ | ⟨second, rest⟩⟩
  · obtain ⟨rfl, rfl⟩ := List.cons.inj split
    exact List.nil_prefix
  · obtain ⟨rfl, isLast⟩ := List.cons.inj split
    obtain ⟨rfl, rfl⟩ := List.cons.inj isLast
    exact absurd isSkipped (by decide)
  · simp [modules] at split

/-- A module with an address in front of the fault is skipped, and the address stays. -/
theorem dependency_of_skipped_stays :
    let modules : Members :=
      [("broken", .object [("dependencies", .array [.string "0xaaa", .object []])]),
        ("fine", .object [("dependencies", .array [.string "0xbbb"])])]
    (modules.map Prod.fst).Nodup ∧
      (∃ described ∈ modules, described.1 ∉ (extract modules [] (some "0xabc")).skipped) ∧
      (extract modules [] (some "0xabc")).package.dependencies =
        [.string "0xaaa", .string "0xbbb"] ∧
      (extract (withoutSkipped modules [] (some "0xabc")) [] (some "0xabc")).package.dependencies =
        [.string "0xbbb"] := by
  intro modules
  exact ⟨by decide, ⟨modules[1], by simp, by decide⟩, by rfl, by rfl⟩

end WithoutSkipped

end MoveAudit.Move
