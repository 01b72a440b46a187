/-
This file keeps a record of what an analysis asks and what it is answered. The same analysis is run
in a world that has a list beside it, and every stage of the reasoner and every look at structs puts
its answer on that list before it hands it on. Nothing else changes: an analysis that is recorded
does what it does without a record, so whatever is read off the record is true of the analysis.
-/

import MoveAudit.Analysis.Progress
import MoveAudit.Proofs.Act

namespace MoveAudit.Analysis

open Json Chain

/-! ### Exchanges -/

/-- Something that an analysis asks of its surroundings, with the answer. -/
inductive Exchange (Reason : Type) where
  | structs (answer : Except ShapeFault Structs.Definitions)
  | triage (answer : Except Reason Triage)
  | analysis (answer : Except Reason TechnicalAnalysis)
  | score (answer : Except Reason ScoreReport)
  | report (answer : Except Reason Draft)
  | critique (answer : Except Reason Critique)
  | correction (answer : Except Reason Draft)

/-- What an exchange is about. -/
inductive Topic where
  | structs
  | triage
  | analysis
  | score
  | report
  | critique
  | correction
  deriving DecidableEq, Repr

namespace Exchange

variable {Reason : Type}

def topic : Exchange Reason → Topic
  | structs _ => .structs
  | triage _ => .triage
  | analysis _ => .analysis
  | score _ => .score
  | report _ => .report
  | critique _ => .critique
  | correction _ => .correction

/-- The reason of an answer, for an answer that is none. -/
def reasonOf? {Answer : Type} : Except Reason Answer → Option Reason
  | .ok _ => none
  | .error reason => some reason

/-- Why a stage of the reasoner was not answered. -/
def reason? : Exchange Reason → Option Reason
  | structs _ => none
  | triage answer => reasonOf? answer
  | analysis answer => reasonOf? answer
  | score answer => reasonOf? answer
  | report answer => reasonOf? answer
  | critique answer => reasonOf? answer
  | correction answer => reasonOf? answer

/-- What triage came to. -/
def triage? : Exchange Reason → Option Triage
  | triage answer => answer.toOption
  | _ => none

/-- What the technical analysis came to. -/
def analysis? : Exchange Reason → Option TechnicalAnalysis
  | analysis answer => answer.toOption
  | _ => none

/-- What was written as the report at first, or once it was mended. -/
def draft? : (isMended : Bool) → Exchange Reason → Option Draft
  | false, report answer | true, correction answer => answer.toOption
  | _, _ => none

/-- What the comparison of report and findings came to. -/
def critique? : Exchange Reason → Option Critique
  | critique answer => answer.toOption
  | _ => none

end Exchange

/-! ### Recording -/

/-- A world with a record of exchanges beside it. -/
structure Recorded (World Reason : Type) where
  world : World
  exchanges : List (Exchange Reason) := []

variable {World Reason Fault Other Outcome Next : Type}

/-- A course of action that nothing is recorded of. -/
def unrecorded (action : Act World Fault Outcome) : Act (Recorded World Reason) Fault Outcome :=
  action.within (·.world) fun world recorded => { recorded with world }

/-- A course of action with its answer on record. -/
def onRecord (exchange : Except Fault Outcome → Exchange Reason)
    (action : Act World Fault Outcome) : Act (Recorded World Reason) Fault Outcome :=
  ExceptT.mk fun scene =>
    let (answer, left) := action.run ⟨scene.world.world, scene.notices⟩
    (answer, ⟨⟨left.world, scene.world.exchanges ++ [exchange answer]⟩, left.notices⟩)

/-- A reasoner whose answers are recorded. -/
def recordedReasoner (reasoner : Reasoner World Reason) :
    Reasoner (Recorded World Reason) Reason where
  triage session context := onRecord .triage (reasoner.triage session context)
  analyse session context flagged := onRecord .analysis (reasoner.analyse session context flagged)
  score session findings := onRecord .score (reasoner.score session findings)
  report session findings score risks :=
    onRecord .report (reasoner.report session findings score risks)
  critique session findings draft score :=
    onRecord .critique (reasoner.critique session findings draft score)
  correct session draft feedback := onRecord .correction (reasoner.correct session draft feedback)

/-- A setting with a record. -/
def Setting.recorded (setting : Setting World Reason) :
    Setting (Recorded World Reason) Reason where
  reasoner := recordedReasoner setting.reasoner
  base := setting.base
  structs names := onRecord .structs (setting.structs names)
  risks dependencies := unrecorded (setting.risks dependencies)
  asksForScore := setting.asksForScore

theorem recorded_base (setting : Setting World Reason) : setting.recorded.base = setting.base := rfl

theorem recorded_asksForScore (setting : Setting World Reason) :
    setting.recorded.asksForScore = setting.asksForScore := rfl

/-- What the analysis of a snapshot asks and is answered, in order. -/
def exchangesOf (setting : Setting World Reason) (session : String) (snapshot : Snapshot)
    (world : World) : List (Exchange Reason) :=
  ((run setting.recorded session snapshot).outcome ⟨world, []⟩).2.world.exchanges

/-! ### A record changes nothing -/

/-- The scene without its record. -/
def bare (scene : Scene (Recorded World Reason)) : Scene World :=
  ⟨scene.world.world, scene.notices⟩

/-- A course in a world with a record does what another one does in the world alone. -/
def Mirrors (recorded : Act (Recorded World Reason) Fault Outcome)
    (plain : Act World Fault Outcome) : Prop :=
  ∀ scene, plain.run (bare scene) = ((recorded.run scene).1, bare (recorded.run scene).2)

namespace Mirrors

theorem pure (outcome : Outcome) :
    Mirrors (Pure.pure outcome : Act (Recorded World Reason) Fault Outcome) (Pure.pure outcome) :=
  fun _ => rfl

theorem throw (fault : Fault) :
    Mirrors (throw fault : Act (Recorded World Reason) Fault Outcome)
      (MonadExcept.throw fault) :=
  fun _ => rfl

theorem note (notice : Notice) :
    Mirrors (Act.note notice : Act (Recorded World Reason) Fault Unit) (Act.note notice) :=
  fun _ => rfl

theorem ofExcept (outcome : Except Fault Outcome) :
    Mirrors (Act.ofExcept outcome : Act (Recorded World Reason) Fault Outcome)
      (Act.ofExcept outcome) :=
  fun _ => rfl

theorem unrecorded (action : Act World Fault Outcome) :
    Mirrors (Analysis.unrecorded action : Act (Recorded World Reason) Fault Outcome) action :=
  fun _ => rfl

theorem onRecord (exchange : Except Fault Outcome → Exchange Reason)
    (action : Act World Fault Outcome) : Mirrors (Analysis.onRecord exchange action) action :=
  fun _ => rfl

theorem notes {Item : Type} (items : List Item) (notice : Item → Notice) :
    Mirrors
      (forIn items PUnit.unit fun item _ => do
        Act.note (notice item)
        Pure.pure (.yield PUnit.unit) : Act (Recorded World Reason) Fault PUnit)
      (forIn items PUnit.unit fun item _ => do
        Act.note (notice item)
        Pure.pure (.yield PUnit.unit)) := by
  intro scene
  rw [Act.run_notes, Act.run_notes]
  rfl

variable {recorded : Act (Recorded World Reason) Fault Outcome} {plain : Act World Fault Outcome}

theorem relabel (rename : Fault → Other) (mirrors : Mirrors recorded plain) :
    Mirrors (recorded.relabel rename) (plain.relabel rename) := by
  intro scene
  show ((plain.run (bare scene)).1.mapError rename, (plain.run (bare scene)).2) = _
  rw [mirrors scene]
  rfl

theorem settle (mirrors : Mirrors recorded plain) :
    Mirrors (recorded.settle : Act (Recorded World Reason) Other (Except Fault Outcome))
      plain.settle := by
  intro scene
  show (Except.ok (plain.run (bare scene)).1, (plain.run (bare scene)).2) = _
  rw [mirrors scene]
  rfl

theorem bind {next : Outcome → Act (Recorded World Reason) Fault Next}
    {plainNext : Outcome → Act World Fault Next} (mirrors : Mirrors recorded plain)
    (goesOn : ∀ outcome, Mirrors (next outcome) (plainNext outcome)) :
    Mirrors (recorded >>= next) (plain >>= plainNext) := by
  intro scene
  have ran := mirrors scene
  cases found : recorded.run scene with
  | mk answer left =>
    rw [found] at ran
    cases answer with
    | ok outcome =>
      rw [Act.run_bind_ok _ found, Act.run_bind_ok _ ran]
      exact goesOn outcome left
    | error fault =>
      rw [Act.run_bind_error _ found, Act.run_bind_error _ ran]

end Mirrors

/-! ### Every node is mirrored -/

section Nodes

variable (setting : Setting World Reason)

theorem mirrors_extractPackage (snapshot : Snapshot) :
    Mirrors (extractPackage snapshot : Course (Recorded World Reason) Reason Move.Package)
      (extractPackage snapshot) := by
  refine .bind (.relabel _ (.ofExcept _)) fun modules => ?_
  refine .bind (.notes _ _) fun _ => ?_
  exact .bind (.note _) fun _ => .bind (.note _) fun _ => .pure _

theorem mirrors_gatherContext (package : Move.Package) :
    Mirrors (gatherContext setting.recorded package) (gatherContext setting package) := by
  refine .bind (.settle (.unrecorded _)) fun risks => ?_
  refine .bind (.settle (.onRecord _ _)) fun structs => ?_
  refine .bind (.relabel _ (.ofExcept _)) fun risks => ?_
  refine .bind (.relabel _ (.ofExcept _)) fun structs => ?_
  refine .bind (.relabel _ (.ofExcept _)) fun hits => .bind (.note _) fun _ => ?_
  refine .bind (.relabel _ (.ofExcept _)) fun capabilities => ?_
  exact .bind (.note _) fun _ => .bind (.note _) fun _ => .pure _

theorem mirrors_flag (session : String) (context : Prompt.Context) :
    Mirrors (flag setting.recorded session context) (flag setting session context) := by
  refine .bind (.relabel _ (.onRecord _ _)) fun triage => ?_
  exact .bind (.note _) fun _ => .pure _

theorem mirrors_findings (session : String) (context : Prompt.Context) (flagged : List String) :
    Mirrors (findings setting.recorded session context flagged)
      (findings setting session context flagged) := by
  refine .bind (.relabel _ (.onRecord _ _)) fun analysis => ?_
  refine .bind (.notes _ _) fun _ => ?_
  exact .bind (.note _) fun _ => .bind (.note _) fun _ => .pure _

theorem mirrors_agreeOnReport (session : String) (known : Findings) (own : ScoreReport) :
    Mirrors (agreeOnReport setting.recorded session known own)
      (agreeOnReport setting session known own) := by
  unfold agreeOnReport
  rw [recorded_asksForScore]
  split
  · refine .bind (.relabel _ (.onRecord _ _)) fun given => ?_
    split
    · exact .pure _
    · exact .bind (.note _) fun _ => .pure _
  · exact .pure _

theorem mirrors_ownReport (known : Findings) :
    Mirrors (ownReport setting.recorded known) (ownReport setting known) := by
  unfold ownReport
  rw [recorded_base]
  exact .bind (.ofExcept _) fun _ => .bind (.note _) fun _ => .ofExcept _

theorem mirrors_scoreFindings (session : String) (known : Findings) :
    Mirrors (scoreFindings setting.recorded session known)
      (scoreFindings setting session known) := by
  unfold scoreFindings
  refine .bind (mirrors_ownReport setting known) fun own => ?_
  refine .bind (mirrors_agreeOnReport setting session known own) fun _ => ?_
  exact .bind (.note _) fun _ => .pure _

theorem mirrors_keepBacked (findings : List Finding) (draft : Draft) :
    Mirrors (keepBacked findings draft : Course (Recorded World Reason) Reason Draft)
      (keepBacked findings draft) := by
  unfold keepBacked
  split
  · exact .bind (.note _) fun _ => .pure _
  · exact .pure _

theorem mirrors_writeReport (session : String) (known : Scored) :
    Mirrors (writeReport setting.recorded session known) (writeReport setting session known) :=
  .bind (.relabel _ (.onRecord _ _)) fun _ => mirrors_keepBacked _ _

theorem mirrors_critiqueReport (session : String) (known : Scored) (draft : Draft) :
    Mirrors (critiqueReport setting.recorded session known draft)
      (critiqueReport setting session known draft) :=
  .bind (.relabel _ (.onRecord _ _)) fun _ => .bind (.note _) fun _ => .pure _

theorem mirrors_correctReport (session : String) (known : Scored) (draft : Draft)
    (feedback : String) :
    Mirrors (correctReport setting.recorded session known draft feedback)
      (correctReport setting session known draft feedback) :=
  .bind (.relabel _ (.onRecord _ _)) fun _ => mirrors_keepBacked _ _

theorem mirrors_node (begun : Run) :
    Mirrors (node setting.recorded begun) (node setting begun) := by
  unfold node
  cases begun.progress with
  | begun snapshot => exact .bind (mirrors_extractPackage snapshot) fun _ => .pure _
  | extracted package =>
    dsimp only
    split
    · exact .bind (.note _) fun _ => .pure _
    · exact .bind (mirrors_gatherContext setting package) fun _ => .pure _
  | resolved context => exact .bind (mirrors_flag setting _ context) fun _ => .pure _
  | triaged context flagged =>
    dsimp only
    split
    · exact .bind (.note _) fun _ => .pure _
    · exact .bind (mirrors_findings setting _ context flagged) fun _ => .pure _
  | analysed known => exact .bind (mirrors_scoreFindings setting _ known) fun _ => .pure _
  | scored known => exact .bind (mirrors_writeReport setting _ known) fun _ => .pure _
  | reported known draft =>
    exact .bind (mirrors_critiqueReport setting _ known draft) fun _ => .pure _
  | critiqued known draft critique =>
    dsimp only
    split
    · exact .pure _
    · exact .bind (mirrors_correctReport setting _ known draft _) fun _ => .pure _
  | corrected known draft critique => exact .pure _
  | done result => exact .pure _

theorem mirrors_step (begun : Run) :
    Mirrors (step setting.recorded begun) (step setting begun) := by
  unfold step
  have timed : Mirrors (timed begun (node setting.recorded begun))
      (timed begun (node setting begun)) :=
    .bind (.note _) fun _ => .bind (mirrors_node setting begun) fun _ =>
      .bind (.note _) fun _ => .pure _
  cases begun.progress with
  | done result => exact .pure _
  | _ => exact timed

theorem mirrors_stepsFrom (left : Nat) (begun : Run) :
    Mirrors (stepsFrom setting.recorded left begun) (stepsFrom setting left begun) := by
  induction left generalizing begun with
  | zero => exact .pure _
  | succ left inductionHypothesis => exact .bind (mirrors_step setting begun) inductionHypothesis

theorem mirrors_resultOf (last : Run) :
    Mirrors (resultOf last : Course (Recorded World Reason) Reason Result) (resultOf last) := by
  unfold resultOf
  cases last.progress with
  | done result => exact .bind (.note _) fun _ => .pure _
  | _ => exact .throw _

/-- A recorded analysis comes to what the analysis comes to. -/
theorem mirrors_run (session : String) (snapshot : Snapshot) :
    Mirrors (run setting.recorded session snapshot) (run setting session snapshot) :=
  .bind (mirrors_stepsFrom setting _ _) mirrors_resultOf

end Nodes

end MoveAudit.Analysis
