/-
This file says what one step of an analysis can do, and so what a whole analysis can do. A step that
succeeds advances the analysis in one of a few ways, each with the exchanges that it takes; a step
that fails stops the analysis for one of a few reasons. An analysis is a run of steps that advance
it, until it is done or a step stops it. Whatever is true of an analysis is shown by what each
advance keeps.
-/

import MoveAudit.Proofs.Analysis.Telling

namespace MoveAudit.Analysis

open Json Chain

variable {World Reason : Type}

/-! ### What one step can do -/

/-- One step takes an analysis on to the next, with these exchanges. -/
inductive Advances (setting : Setting World Reason) (run : Run) :
    List (Exchange Reason) → Run → Prop where
  | extracts {snapshot : Snapshot} {package : Move.Package}
    (stands : run.progress = .begun snapshot) (read : packageOf snapshot = .ok package) :
    Advances setting run [] (run.reach .extracted (.extracted package))
  | endsAsLibrary {package : Move.Package} (stands : run.progress = .extracted package)
    (none : package.functions = []) :
    Advances setting run [] (run.close .noFunctions .noFunctions)
  | resolves {package : Move.Package} {context : Prompt.Context}
    {answer : Except ShapeFault Structs.Definitions} (stands : run.progress = .extracted package)
    (some : package.functions ≠ []) (isOf : IsContextOf context package) :
    Advances setting run [.structs answer] { run with progress := .resolved context }
  | triages {context : Prompt.Context} (stands : run.progress = .resolved context)
    (triage : Triage) :
    Advances setting run [.triage (.ok triage)]
      (run.reach .triaged (.triaged context (Entries.distinct triage.flagged)))
  | endsAsClean {context : Prompt.Context} (stands : run.progress = .triaged context []) :
    Advances setting run [] (run.close .cleanTriage .cleanTriage)
  | analyses {context : Prompt.Context} {flagged : List String}
    (stands : run.progress = .triaged context flagged) (some : flagged ≠ [])
    (analysis : TechnicalAnalysis) :
    Advances setting run [.analysis (.ok analysis)]
      (run.reach .technicallyAnalysed (.analysed ⟨context.risks, Evidence.reviewed setting.base
        ⟨context.functions, [], context.disassembly⟩ analysis.findings⟩))
  /-- The rules alone come to a score. -/
  | scores {known : Findings} {own : ScoreReport} (stands : run.progress = .analysed known)
    (found : Scoring.report setting.base known.findings = .ok own)
    (alone : setting.asksForScore = false) :
    Advances setting run [] (run.reach .scored (.scored { known with score := own }))
  /-- The rules come to a score, and the reasoner is asked for one as well. -/
  | compares {known : Findings} {own : ScoreReport} (stands : run.progress = .analysed known)
    (found : Scoring.report setting.base known.findings = .ok own)
    (asks : setting.asksForScore = true) (given : ScoreReport) :
    Advances setting run [.score (.ok given)] (run.reach .scored (.scored
      { known with score := if given.score = own.score then given else own }))
  | reports {known : Scored} (stands : run.progress = .scored known) (draft : Draft) :
    Advances setting run [.report (.ok draft)]
      (run.reach .reported (.reported known (draft.backedBy known.findings)))
  | critiques {known : Scored} {draft : Draft} (stands : run.progress = .reported known draft)
    (critique : Critique) :
    Advances setting run [.critique (.ok critique)]
      (run.reach .critiqued (.critiqued known draft critique))
  | keeps {known : Scored} {draft : Draft} {critique : Critique}
    (stands : run.progress = .critiqued known draft critique)
    (consistent : critique.isConsistent = true) :
    Advances setting run [] (finalize run known draft critique)
  | corrects {known : Scored} {draft : Draft} {critique : Critique}
    (stands : run.progress = .critiqued known draft critique)
    (inconsistent : critique.isConsistent = false) (mended : Draft) :
    Advances setting run [.correction (.ok mended)]
      (run.reach .corrected (.corrected known (mended.backedBy known.findings) critique))
  | finalizes {known : Scored} {draft : Draft} {critique : Critique}
    (stands : run.progress = .corrected known draft critique) :
    Advances setting run [] (finalize run known draft critique)

/-- The stage of the reasoner that comes next, the one on the score apart. -/
inductive Progress.Awaits : Progress → Topic → Prop where
  | triage (context : Prompt.Context) : Awaits (.resolved context) .triage
  | analysis (context : Prompt.Context) {flagged : List String} (some : flagged ≠ []) :
    Awaits (.triaged context flagged) .analysis
  | report (known : Scored) : Awaits (.scored known) .report
  | critique (known : Scored) (draft : Draft) : Awaits (.reported known draft) .critique
  | correction (known : Scored) (draft : Draft) {critique : Critique}
    (inconsistent : critique.isConsistent = false) :
    Awaits (.critiqued known draft critique) .correction

/-- One step stops an analysis, with these exchanges. -/
inductive Stops (setting : Setting World Reason) (run : Run) :
    List (Exchange Reason) → Failure Reason → Prop where
  | unread {snapshot : Snapshot} {fault : ShapeFault} (stands : run.progress = .begun snapshot)
    (fails : packageOf snapshot = .error fault) : Stops setting run [] (.shape fault)
  /-- What is needed of the package besides its functions cannot be gathered. -/
  | unresolved {package : Move.Package} {answer : Except ShapeFault Structs.Definitions}
    {failure : Failure Reason} (stands : run.progress = .extracted package)
    (some : package.functions ≠ [])
    (fails : ∃ scene, ((gatherContext setting package).run scene).1 = .error failure) :
    Stops setting run [.structs answer] failure
  | unanswered {last : Exchange Reason} {reason : Reason}
    (awaits : run.progress.Awaits last.topic) (fails : last.reason? = .some reason) :
    Stops setting run [last] (.reasoning reason)
  | unscored {known : Findings} {own : ScoreReport} {reason : Reason}
    (stands : run.progress = .analysed known)
    (found : Scoring.report setting.base known.findings = .ok own)
    (asks : setting.asksForScore = true) :
    Stops setting run [.score (.error reason)] (.reasoning reason)
  | scoreless {known : Findings} {fault : Scoring.Fault} (stands : run.progress = .analysed known)
    (fails : Scoring.report setting.base known.findings = .error fault) :
    Stops setting run [] (.unscored fault)

/-- What a step comes to: it advances the analysis, or stops it. -/
def Moves (setting : Setting World Reason) (run : Run) (outcome : Except (Failure Reason) Run)
    (more : List (Exchange Reason)) : Prop :=
  match outcome with
  | .ok next => Advances setting run more next
  | .error failure => Stops setting run more failure

section Steps

variable (setting : Setting World Reason) {run : Run}

/-- A stage of the reasoner advances the analysis when it is answered, and stops it when not. -/
theorem tells_stage {Answer Outcome : Type} {exchange : Except Reason Answer → Exchange Reason}
    {use : Answer → Outcome} {action : Course (Recorded World Reason) Reason Outcome}
    {reached : Outcome → Run} {topic : Topic} (tells : Tells action (Uses exchange use))
    (awaits : run.progress.Awaits topic)
    (isOn : ∀ answer, (exchange answer).topic = topic)
    (reasons : ∀ reason, (exchange (.error reason)).reason? = some reason)
    (advances : ∀ answer, Advances setting run [exchange (.ok answer)] (reached (use answer))) :
    Tells (action >>= fun outcome => pure (reached outcome)) (Moves setting run) := by
  refine tells.returns ?_ ?_
  · intro failure more uses
    obtain ⟨reason, rfl, rfl⟩ := uses.error
    exact .unanswered ((isOn (.error reason)).symm ▸ awaits) (reasons reason)
  · intro outcome more uses
    obtain ⟨answer, rfl, rfl⟩ := uses.ok
    exact advances answer

/-- What is read off a package advances the analysis, and what cannot be read stops it. -/
theorem tells_extraction {snapshot : Snapshot} (stands : run.progress = .begun snapshot) :
    Tells (extractPackage snapshot >>= fun package =>
        pure (run.reach .extracted (.extracted package)) :
      Course (Recorded World Reason) Reason Run) (Moves setting run) := by
  refine (tells_extractPackage snapshot).returns ?_ ?_
  · rintro failure more ⟨rfl, same⟩
    cases read : packageOf snapshot with
    | error fault =>
      rw [read] at same
      cases same
      exact .unread stands read
    | ok package =>
      rw [read] at same
      cases same
  · rintro package more ⟨rfl, same⟩
    cases read : packageOf snapshot with
    | error fault =>
      rw [read] at same
      cases same
    | ok found =>
      rw [read] at same
      cases same
      exact .extracts stands read

/-- A package with functions advances once what is known around it is gathered. -/
theorem tells_gathering {package : Move.Package} (stands : run.progress = .extracted package)
    (hasFunctions : package.functions ≠ []) :
    Tells (gatherContext setting.recorded package >>= fun context =>
      pure { run with progress := .resolved context }) (Moves setting run) := by
  refine ((tells_gatherContext setting package).mirrored
    (mirrors_gatherContext setting package)).returns ?_ ?_
  · rintro failure more ⟨⟨⟨answer, rfl⟩, _⟩, fails⟩
    exact .unresolved stands hasFunctions fails
  · rintro context more ⟨⟨⟨answer, rfl⟩, isOf⟩, _⟩
    exact .resolves stands hasFunctions (isOf context rfl)

/-- A score advances the analysis, alone or compared with the one the reasoner gives. -/
theorem tells_scoring {known : Findings} (stands : run.progress = .analysed known) :
    Tells (scoreFindings setting.recorded run.session known >>= fun scored =>
      pure (run.reach .scored (.scored scored))) (Moves setting run) := by
  refine (tells_scoreFindings setting _ known).returns ?_ ?_
  · rintro failure more (⟨fault, fails, rfl, same⟩ | ⟨own, found, ⟨_, _, same⟩ | ⟨asks, uses⟩⟩)
    · cases same
      exact .scoreless stands fails
    · cases same
    · obtain ⟨reason, rfl, rfl⟩ := uses.error
      exact .unscored stands found asks
  · rintro scored more (⟨_, _, _, same⟩ | ⟨own, found, ⟨alone, rfl, same⟩ | ⟨asks, uses⟩⟩)
    · cases same
    · cases same
      exact .scores stands found alone
    · obtain ⟨given, rfl, rfl⟩ := uses.ok
      exact .compares stands found asks given

theorem tells_node (goesOn : ∀ result, run.progress ≠ .done result) :
    Tells (node setting.recorded run) (Moves setting run) := by
  unfold node
  cases stands : run.progress with
  | begun snapshot => exact tells_extraction setting stands
  | extracted package =>
    dsimp only
    split
    · next none =>
      exact .noted (.pure (.endsAsLibrary stands (List.isEmpty_iff.mp none)))
    · next some =>
      have hasFunctions : package.functions ≠ [] := fun none => some (List.isEmpty_iff.mpr none)
      exact tells_gathering setting stands hasFunctions
  | resolved context =>
    exact tells_stage setting (tells_flag setting _ context) (stands ▸ .triage context)
      (fun _ => rfl) (fun _ => rfl) fun triage => .triages stands triage
  | triaged context flagged =>
    cases flagged with
    | nil => exact .noted (.pure (.endsAsClean stands))
    | cons name rest =>
      have some : name :: rest ≠ [] := List.cons_ne_nil name rest
      exact tells_stage setting (tells_findings setting _ context _)
        (stands ▸ .analysis context some) (fun _ => rfl) (fun _ => rfl)
        fun analysis => .analyses stands some analysis
  | analysed known => exact tells_scoring setting stands
  | scored known =>
    exact tells_stage setting (tells_writeReport setting _ known) (stands ▸ .report known)
      (fun _ => rfl) (fun _ => rfl) fun draft => .reports stands draft
  | reported known draft =>
    exact tells_stage setting (tells_critiqueReport setting _ known draft)
      (stands ▸ .critique known draft) (fun _ => rfl) (fun _ => rfl)
      fun critique => .critiques stands critique
  | critiqued known draft critique =>
    dsimp only
    split
    · next consistent => exact .pure (.keeps stands consistent)
    · next inconsistent =>
      have mends : critique.isConsistent = false := eq_false_of_ne_true inconsistent
      exact tells_stage setting (tells_correctReport setting _ known draft _)
        (stands ▸ .correction known draft mends) (fun _ => rfl) (fun _ => rfl)
        fun mended => .corrects stands mends mended
  | corrected known draft critique => exact .pure (.finalizes stands)
  | done result => exact absurd stands (goesOn result)

theorem tells_step (goesOn : ∀ result, run.progress ≠ .done result) :
    Tells (step setting.recorded run) (Moves setting run) := by
  have timed : Tells (timed run (node setting.recorded run)) (Moves setting run) := by
    refine .noted ((tells_node setting goesOn).bind (fun _ _ stops => stops) ?_)
    intro next before advances
    refine .noted (.pure ?_)
    rw [List.append_nil]
    exact advances
  unfold step
  cases stands : run.progress with
  | done result => exact absurd stands (goesOn result)
  | _ => exact timed

/-- An analysis that is done stays as it is. -/
theorem step_of_done {result : Result} (stands : run.progress = .done result) :
    step setting run = pure run := by
  unfold step
  rw [stands]

end Steps

/-! ### Whole analyses -/

/-- Steps in any number take an analysis from where it begins to where it is, with all their
exchanges in order. -/
inductive Goes (setting : Setting World Reason) (first : Run) : List (Exchange Reason) → Run → Prop
  where
  | rests : Goes setting first [] first
  | advances {before more : List (Exchange Reason)} {run next : Run}
    (goes : Goes setting first before run) (advances : Advances setting run more next) :
    Goes setting first (before ++ more) next

/-- What an analysis comes to: it goes on until it is done, or until a step stops it. -/
def Ends (setting : Setting World Reason) (first : Run) (exchanges : List (Exchange Reason)) :
    Except (Failure Reason) Result → Prop
  | .ok result => ∃ last, Goes setting first exchanges last ∧ last.progress = .done result
  | .error failure => ∃ before more last, exchanges = before ++ more ∧
      Goes setting first before last ∧ Stops setting last more failure

variable {setting : Setting World Reason} {first run next : Run}
  {more rest : List (Exchange Reason)}

theorem Advances.goes (advances : Advances setting run more next) {last : Run}
    (goes : Goes setting next rest last) : Goes setting run (more ++ rest) last := by
  induction goes with
  | rests =>
    rw [List.append_nil]
    exact .advances .rests advances
  | advances goes furtherOn inductionHypothesis =>
    rw [← List.append_assoc]
    exact .advances inductionHypothesis furtherOn

/-- Every advance leaves fewer steps. -/
theorem Advances.left_lt (advances : Advances setting run more next) :
    next.progress.left < run.progress.left := by
  cases advances with
  | extracts stands | endsAsLibrary stands | resolves stands | triages stands | endsAsClean stands
  | analyses stands | scores stands | compares stands | reports stands | critiques stands
  | keeps stands | corrects stands | finalizes stands =>
    simp only [stands, Run.reach, Run.close, finalize, Progress.left]
    decide

/-- An analysis that has no steps left is done. -/
theorem exists_done_of_left_eq_zero (none : run.progress.left = 0) :
    ∃ result, run.progress = .done result := by
  cases stands : run.progress with
  | done result => exact ⟨result, rfl⟩
  | _ =>
    rw [stands] at none
    cases none

theorem tells_stepsFrom (left : Nat) (enough : run.progress.left ≤ left) :
    Tells (stepsFrom setting.recorded left run) fun outcome more =>
      match outcome with
      | .ok last => Goes setting run more last ∧ ∃ result, last.progress = .done result
      | .error failure => Ends setting run more (.error failure) := by
  induction left generalizing run with
  | zero => exact .pure ⟨.rests, exists_done_of_left_eq_zero (Nat.le_zero.mp enough)⟩
  | succ left inductionHypothesis =>
    by_cases isDone : ∃ result, run.progress = .done result
    · obtain ⟨result, stands⟩ := isDone
      have isLast : run.progress.left ≤ left := by
        rw [stands]
        exact Nat.zero_le left
      unfold stepsFrom
      rw [step_of_done _ stands, pure_bind]
      exact inductionHypothesis isLast
    · have goesOn : ∀ result, run.progress ≠ .done result := fun result stands =>
        isDone ⟨result, stands⟩
      refine (tells_step setting goesOn).bind ?_ ?_
      · intro failure more stops
        exact ⟨[], more, run, rfl, .rests, stops⟩
      · intro next before advances
        have fewer : next.progress.left ≤ left :=
          Nat.le_of_lt_succ (Nat.lt_of_lt_of_le advances.left_lt enough)
        refine (inductionHypothesis fewer).mono ?_
        rintro (failure | last) more holds
        · obtain ⟨between, stop, last, rfl, goes, stops⟩ := holds
          exact ⟨before ++ between, stop, last, (List.append_assoc ..).symm, advances.goes goes,
            stops⟩
        · exact ⟨advances.goes holds.1, holds.2⟩

/-- A whole analysis goes on until it is done or a step stops it. -/
theorem tells_run (session : String) (snapshot : Snapshot) :
    Tells (Analysis.run setting.recorded session snapshot) fun outcome more =>
      Ends setting (.begin_ session snapshot) more outcome := by
  refine (tells_stepsFrom _ (Nat.le_refl _)).bind (fun _ _ ends => ends) ?_
  rintro last before ⟨goes, result, stands⟩
  unfold resultOf
  rw [stands]
  refine .noted (.pure ⟨last, ?_, stands⟩)
  rw [List.append_nil]
  exact goes

/-- What an analysis comes to goes with its exchanges. -/
theorem run_ends (setting : Setting World Reason) (session : String) (snapshot : Snapshot)
    (world : World) :
    Ends setting (.begin_ session snapshot) (exchangesOf setting session snapshot world)
      ((Analysis.run setting session snapshot).outcome world).1 := by
  have tells : Tells (Analysis.run setting.recorded session snapshot) fun outcome more =>
      Ends setting (.begin_ session snapshot) more outcome := tells_run session snapshot
  obtain ⟨more, recorded, ends⟩ := tells ⟨⟨world, []⟩, []⟩
  have outcome : ((Analysis.run setting session snapshot).outcome world).1 =
      ((Analysis.run setting.recorded session snapshot).outcome ⟨world, []⟩).1 :=
    congrArg Prod.fst (mirrors_run setting session snapshot ⟨⟨world, []⟩, []⟩)
  have exchanges : exchangesOf setting session snapshot world = more := recorded
  rw [outcome, exchanges]
  exact ends

end MoveAudit.Analysis
