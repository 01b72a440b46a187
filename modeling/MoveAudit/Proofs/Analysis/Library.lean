/-
This file says which packages an analysis takes for libraries. It goes by the functions that are
read off the modules, so a package ends as a library exactly when each of its modules exposes no
public function or cannot be read; the modules that cannot be read are told of one by one, but
nothing about them is held against the package. Such an analysis asks nobody anything, and always
comes to its card.
-/

import MoveAudit.Proofs.Analysis.Standing
import MoveAudit.Proofs.Move.Extraction

namespace MoveAudit.Analysis

open Json Chain Move

variable {World Reason : Type}

/-! ### What a library comes to -/

/-- What is read off modules, for a package of a snapshot. -/
def extractionOf (snapshot : Snapshot) (modules : Members) : Extraction :=
  extract modules snapshot.disassembly (some snapshot.package)

theorem allMembers_orEmpty (modules : Members) :
    (orEmpty (.object modules)).allMembers = .ok modules := by
  cases modules <;> rfl

theorem packageOf_eq {snapshot : Snapshot} {modules : Members}
    (isObject : snapshot.modules = .object modules) :
    packageOf snapshot = .ok (extractionOf snapshot modules).package := by
  unfold packageOf
  rw [isObject, allMembers_orEmpty]
  rfl

/-- What the log says of what was read: a warning for each module that was skipped, and the whole. -/
def extractionNotices (extraction : Extraction) : List Notice :=
  extraction.faults.map skippedNotice ++
    [readNotice extraction.package, extractedNotice extraction.package]

/-- What the log of an analysis of a library says. -/
def libraryNotices (begun : Run) (extraction : Extraction) : List Notice :=
  let read := begun.reach .extracted (.extracted extraction.package)
  let ended := read.close .noFunctions .noFunctions
  [begun.startNotice] ++ extractionNotices extraction ++
    [begun.endNotice read, read.startNotice, libraryNotice, read.endNotice ended,
      ended.resultNotice ⟨.noFunctions, ended.history, begun.session, [], none, none⟩]

section Run

variable {snapshot : Snapshot} {modules : Members}
  (isObject : snapshot.modules = .object modules)

include isObject in
/-- Every module that is skipped is told of. -/
theorem run_extractPackage (world : World) (notices : List Notice) :
    (extractPackage snapshot : Course World Reason Package).run ⟨world, notices⟩ =
      (.ok (extractionOf snapshot modules).package, ⟨world, notices ++
        extractionNotices (extractionOf snapshot modules)⟩) := by
  unfold extractPackage
  rw [isObject, allMembers_orEmpty]
  have read : (shaped (Act.ofExcept (.ok modules)) : Course World Reason Members).run
    ⟨world, notices⟩ = (.ok modules, ⟨world, notices⟩) := rfl
  rw [Act.run_bind_ok _ read,
    Act.run_bind_ok _ (Act.run_notes _ skippedNotice ⟨world, notices⟩)]
  have inTurn : notices ++ extractionNotices (extractionOf snapshot modules) =
      notices ++ (extractionOf snapshot modules).faults.map skippedNotice ++
        [readNotice (extractionOf snapshot modules).package] ++
        [extractedNotice (extractionOf snapshot modules).package] := by
    simp only [extractionNotices, List.append_assoc, List.singleton_append]
  rw [inTurn]
  rfl

theorem run_timed {run later : Run} {node : Course World Reason Run} {world left : World}
    {notices more : List Notice}
    (ran : node.run ⟨world, notices ++ [run.startNotice]⟩ = (.ok later, ⟨left, more⟩)) :
    (timed run node).run ⟨world, notices⟩ =
      (.ok later, ⟨left, more ++ [run.endNotice later]⟩) :=
  Act.run_bind_ok _ ran

include isObject in
/-- The first step reads the package, and tells of every module that is skipped. -/
theorem run_step_begun (setting : Setting World Reason) (session : String) (world : World)
    (notices : List Notice) :
    (step setting (.begin_ session snapshot)).run ⟨world, notices⟩ =
      (.ok (Run.reach (.begin_ session snapshot) .extracted
          (.extracted (extractionOf snapshot modules).package)),
        ⟨world, notices ++ [(Run.begin_ session snapshot).startNotice] ++
          extractionNotices (extractionOf snapshot modules) ++
          [(Run.begin_ session snapshot).endNotice (Run.reach (.begin_ session snapshot) .extracted
            (.extracted (extractionOf snapshot modules).package))]⟩) := by
  refine run_timed ?_
  show (extractPackage snapshot >>= fun package =>
    pure (Run.reach (.begin_ session snapshot) .extracted (.extracted package))).run _ = _
  rw [Act.run_bind_ok _ (run_extractPackage isObject _ _)]
  rfl

/-- The second step ends the analysis of a library. -/
theorem run_step_library (setting : Setting World Reason) {run : Run} {package : Package}
    (stands : run.progress = .extracted package) (isLibrary : package.isLibrary = true)
    (world : World) (notices : List Notice) :
    (step setting run).run ⟨world, notices⟩ = (.ok (run.close .noFunctions .noFunctions),
      ⟨world, notices ++ [run.startNotice] ++ [libraryNotice] ++
        [run.endNotice (run.close .noFunctions .noFunctions)]⟩) := by
  have isTimed : step setting run = timed run (node setting run) := by
    unfold step
    rw [stands]
  rw [isTimed]
  refine run_timed ?_
  unfold node
  rw [stands]
  dsimp only
  rw [if_pos isLibrary]
  rfl

theorem stepsFrom_of_done (setting : Setting World Reason) {run : Run} {result : Result}
    (stands : run.progress = .done result) (left : Nat) :
    stepsFrom setting left run = pure run := by
  induction left with
  | zero => rfl
  | succ left inductionHypothesis =>
    unfold stepsFrom
    rw [step_of_done setting stands, pure_bind, inductionHypothesis]

theorem run_resultOf {last : Run} {result : Result} (stands : last.progress = .done result)
    (world : World) (notices : List Notice) :
    (resultOf last : Course World Reason Result).run ⟨world, notices⟩ =
      (.ok result, ⟨world, notices ++ [last.resultNotice result]⟩) := by
  unfold resultOf
  rw [stands]
  rfl

theorem countP_libraryNotices (begun : Run) (extraction : Extraction) :
    (libraryNotices begun extraction).countP (·.event == "extract.module_failed") =
      extraction.skipped.length := by
  have each : (extraction.faults.map skippedNotice).countP (·.event == "extract.module_failed") =
      extraction.skipped.length := by
    rw [List.countP_map, Extraction.skipped, List.length_map]
    exact List.countP_eq_length.mpr fun _ _ => rfl
  unfold libraryNotices extractionNotices
  rw [List.countP_append, List.countP_append, List.countP_append, each]
  simp [Run.startNotice, Run.endNotice, Run.resultNotice, libraryNotice, earlyNotice, readNotice,
    extractedNotice, counted, notice]

include isObject in
/-- An analysis of a package without functions comes to the card of a library, whatever it is set up
with. -/
theorem outcome_of_library (none : (extractionOf snapshot modules).package.functions = [])
    (setting : Setting World Reason) (session : String) (world : World) :
    (Analysis.run setting session snapshot).outcome world =
      (.ok ⟨.noFunctions, [.extracted, .noFunctions], session, [], Option.none, Option.none⟩,
        ⟨world, libraryNotices (.begin_ session snapshot) (extractionOf snapshot modules)⟩) := by
  have isLibrary : (extractionOf snapshot modules).package.isLibrary = true :=
    List.isEmpty_iff.mpr none
  show ((stepsFrom setting 9 (.begin_ session snapshot) >>= resultOf).run ⟨world, []⟩) = _
  unfold stepsFrom
  rw [bind_assoc, Act.run_bind_ok _ (run_step_begun isObject setting session _ _)]
  unfold stepsFrom
  rw [bind_assoc, Act.run_bind_ok _ (run_step_library setting rfl isLibrary _ _),
    stepsFrom_of_done setting rfl, pure_bind, run_resultOf rfl]
  simp only [libraryNotices, List.append_assoc, List.nil_append, List.cons_append]
  rfl

end Run

/-! ### Which packages are libraries -/

/-- A described module exposes a public function and has the right shape. -/
def IsCallable (described : String × Value) : Prop :=
  Extraction.HasPublic described.2 ∧ Extraction.IsReadable described.1 described.2

theorem functions_extractionOf_eq_nil_iff (snapshot : Snapshot) (modules : Members) :
    (extractionOf snapshot modules).package.functions = [] ↔
      ∀ described ∈ modules, ¬ IsCallable described := by
  unfold extractionOf IsCallable
  rw [functions_extract_eq_nil_iff]
  simp only [not_and]

/-- Only an analysis of a package in which no function was found ends without functions. -/
theorem functions_eq_nil_of_ended {setting : Setting World Reason} {session : String}
    {snapshot : Snapshot} {modules : Members} (isObject : snapshot.modules = .object modules)
    {world : World} {result : Result}
    (came : ((run setting session snapshot).outcome world).1 = .ok result)
    (ended : result.stage = .noFunctions) :
    (extractionOf snapshot modules).package.functions = [] := by
  obtain ⟨lane, history, yields⟩ := exists_lane came
  unfold Result.stage at ended
  rw [history] at ended
  cases lane with
  | noFunctions =>
    obtain ⟨⟨package, read, none⟩, _⟩ := yields
    rw [packageOf_eq isObject] at read
    cases read
    exact none
  | cleanTriage => cases ended
  | full isMended => cases isMended <;> cases ended

/-- An analysis of an object of modules ends without functions, with a score of nothing, exactly if
each module that exposes a public function has a wrong shape somewhere; every such module is then
among those that were skipped, and each of these has left a warning. -/
theorem ends_as_library_iff {setting : Setting World Reason} {session : String}
    {snapshot : Snapshot} {modules : Members} (isObject : snapshot.modules = .object modules)
    (world : World) :
    ((∃ result, ((run setting session snapshot).outcome world).1 = .ok result ∧
        result.stage = .noFunctions) ↔ ∀ described ∈ modules, ¬ IsCallable described) ∧
      ∀ result, ((run setting session snapshot).outcome world).1 = .ok result →
        result.stage = .noFunctions → result.card = .noFunctions ∧ result.card.score = 0 ∧
        (∀ described ∈ modules, Extraction.HasPublic described.2 →
          described.1 ∈ (extractionOf snapshot modules).skipped) ∧
        ((run setting session snapshot).outcome world).2.notices.countP
            (·.event == "extract.module_failed") =
          (extractionOf snapshot modules).skipped.length := by
  have isEmpty_iff := functions_extractionOf_eq_nil_iff snapshot modules
  refine ⟨⟨?_, ?_⟩, ?_⟩
  · rintro ⟨result, came, ended⟩
    exact isEmpty_iff.mp (functions_eq_nil_of_ended isObject came ended)
  · intro none
    rw [outcome_of_library isObject (isEmpty_iff.mpr none)]
    exact ⟨_, rfl, rfl⟩
  · intro result came ended
    have none := functions_eq_nil_of_ended isObject came ended
    rw [outcome_of_library isObject none] at came ⊢
    cases came
    refine ⟨rfl, rfl, ?_, ?_⟩
    · intro described member isPublic
      refine mem_skipped_extract_iff.mpr ⟨described.2, member, fun readable => ?_⟩
      exact isEmpty_iff.mp none described member ⟨isPublic, readable⟩
    · exact countP_libraryNotices _ _

/-- A module that exposes a public function with parameters of a wrong shape. -/
def misshapenModules : Members :=
  [("vault", .object [("exposedFunctions", .object [("drain", .object
    [("visibility", .string "Public"), ("parameters", .int 5)])])])]

/-- A snapshot of a package with that module alone. -/
def misshapenSnapshot : Snapshot :=
  { package := "0xabc", modules := .object misshapenModules, disassembly := [] }

theorem hasPublic_misshapen : ∀ described ∈ misshapenModules, Extraction.HasPublic described.2 := by
  intro described member
  rw [List.mem_singleton.mp member]
  exact ⟨_, List.mem_cons_self .., rfl⟩

/-- The package is taken for a library, and its module is told of. -/
theorem misshapen_ends_as_library : ∃ result,
    ((run (vaultSetting 1 false true) "" misshapenSnapshot).outcome ()).1 = .ok result ∧
      result.stage = .noFunctions ∧ result.card.score = 0 ∧
      ((run (vaultSetting 1 false true) "" misshapenSnapshot).outcome ()).2.notices.countP
        (·.event == "extract.module_failed") = 1 := by
  have isObject : misshapenSnapshot.modules = .object misshapenModules := rfl
  obtain ⟨ends, comesTo⟩ :=
    @ends_as_library_iff _ _ (vaultSetting 1 false true) "" _ _ isObject ()
  have notCallable : ∀ described ∈ misshapenModules, ¬ IsCallable described := by
    intro described member
    rw [List.mem_singleton.mp member]
    rintro ⟨_, functions, declared, isRead, _⟩
    cases isRead
  obtain ⟨result, came, ended⟩ := ends.mpr notCallable
  obtain ⟨_, score, _, warnings⟩ := comesTo result came ended
  exact ⟨result, came, ended, score, warnings⟩

/-- So a package that ends without functions may well expose a public one. -/
theorem library_with_public_function : ¬ ∀ (snapshot : Snapshot) (modules : Members)
    (result : Result), snapshot.modules = .object modules →
      ((run (vaultSetting 1 false true) "" snapshot).outcome ()).1 = .ok result →
        result.stage = .noFunctions → ∀ described ∈ modules,
          ¬ Extraction.HasPublic described.2 := by
  intro noneIsPublic
  have isObject : misshapenSnapshot.modules = .object misshapenModules := rfl
  have came := congrArg Prod.fst
    (outcome_of_library isObject rfl (vaultSetting 1 false true) "" ())
  exact noneIsPublic _ _ _ isObject came rfl _ (List.mem_cons_self ..)
    (hasPublic_misshapen _ (List.mem_cons_self ..))

end MoveAudit.Analysis
