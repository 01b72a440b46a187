/-
This file shows that an analysis changes a world only through what it makes use of. What the stages
of the reasoner, the look at structs and the look at dependencies keep true of a world, every node
keeps, and so does every step and the whole analysis, whether it succeeds or fails.
-/

import MoveAudit.Analysis.Progress
import MoveAudit.Proofs.Act

namespace MoveAudit.Analysis

open Chain

variable {World Part Reason : Type}

/-! ### Settings that keep something true -/

/-- Every stage of a reasoner keeps what is true of the world. -/
structure ReasonerKeeps (invariant : World → Prop) (reasoner : Reasoner World Reason) : Prop where
  triage : ∀ session context, (reasoner.triage session context).Keeps invariant
  analyse : ∀ session context flagged, (reasoner.analyse session context flagged).Keeps invariant
  score : ∀ session findings, (reasoner.score session findings).Keeps invariant
  report : ∀ session findings score risks,
    (reasoner.report session findings score risks).Keeps invariant
  critique : ∀ session findings draft score,
    (reasoner.critique session findings draft score).Keeps invariant
  correct : ∀ session draft feedback, (reasoner.correct session draft feedback).Keeps invariant

/-- A reasoner in a part of the world keeps what is true of the rest. -/
theorem ReasonerKeeps.within {invariant : World → Prop} {part : World → Part}
    {put : Part → World → World} (reasoner : Reasoner Part Reason)
    (isRest : ∀ world left, invariant world → invariant (put left world)) :
    ReasonerKeeps invariant (reasoner.within part put) := by
  have keeps {Outcome : Type} (action : Act Part Reason Outcome) :
      (action.within part put).Keeps invariant :=
    fun scene holds => isRest scene.world _ holds
  exact ⟨fun _ _ => keeps _, fun _ _ _ => keeps _, fun _ _ => keeps _, fun _ _ _ _ => keeps _,
    fun _ _ _ _ => keeps _, fun _ _ _ => keeps _⟩

/-- All that a setting makes use of keeps what is true of the world. -/
structure SettingKeeps (invariant : World → Prop) (setting : Setting World Reason) : Prop where
  reasoner : ReasonerKeeps invariant setting.reasoner
  structs : ∀ names, (setting.structs names).Keeps invariant
  risks : ∀ dependencies, (setting.risks dependencies).Keeps invariant

/-! ### Every node keeps it -/

section Nodes

variable {invariant : World → Prop} {setting : Setting World Reason}

theorem keeps_extractPackage (snapshot : Snapshot) :
    (extractPackage snapshot : Course World Reason Move.Package).Keeps invariant :=
  .bind (.relabel _ (.ofExcept _)) fun _ => .bind (.notes _ _) fun _ =>
    .bind (.note _) fun _ => .bind (.note _) fun _ => .pure _

theorem keeps_keepBacked (findings : List Finding) (draft : Draft) :
    (keepBacked findings draft : Course World Reason Draft).Keeps invariant := by
  unfold keepBacked
  split
  · exact .bind (.note _) fun _ => .pure _
  · exact .pure _

theorem keeps_resultOf (last : Run) :
    (resultOf last : Course World Reason Result).Keeps invariant := by
  unfold resultOf
  cases last.progress with
  | done result => exact .bind (.note _) fun _ => .pure _
  | _ => exact .throw _

variable (keeps : SettingKeeps invariant setting)
include keeps

theorem keeps_gatherContext (package : Move.Package) :
    (gatherContext setting package).Keeps invariant := by
  refine .bind (.settle (keeps.risks _)) fun risks => ?_
  refine .bind (.settle (keeps.structs _)) fun structs => ?_
  refine .bind (.relabel _ (.ofExcept _)) fun risks => ?_
  refine .bind (.relabel _ (.ofExcept _)) fun structs => ?_
  refine .bind (.relabel _ (.ofExcept _)) fun hits => .bind (.note _) fun _ => ?_
  refine .bind (.relabel _ (.ofExcept _)) fun capabilities => ?_
  exact .bind (.note _) fun _ => .bind (.note _) fun _ => .pure _

theorem keeps_findings (session : String) (context : Prompt.Context) (flagged : List String) :
    (findings setting session context flagged).Keeps invariant :=
  .bind (.relabel _ (keeps.reasoner.analyse session context flagged)) fun _ =>
    .bind (.notes _ _) fun _ => .bind (.note _) fun _ => .bind (.note _) fun _ => .pure _

theorem keeps_agreeOnReport (session : String) (known : Findings) (own : ScoreReport) :
    (agreeOnReport setting session known own).Keeps invariant := by
  unfold agreeOnReport
  split
  · refine .bind (.relabel _ (keeps.reasoner.score session known.findings)) fun given => ?_
    split
    · exact .pure _
    · exact .bind (.note _) fun _ => .pure _
  · exact .pure _

omit keeps in
theorem keeps_ownReport (known : Findings) : (ownReport setting known).Keeps invariant :=
  .bind (.ofExcept _) fun _ => .bind (.note _) fun _ => .ofExcept _

theorem keeps_scoreFindings (session : String) (known : Findings) :
    (scoreFindings setting session known).Keeps invariant := by
  unfold scoreFindings
  exact .bind (keeps_ownReport known) fun own =>
    .bind (keeps_agreeOnReport keeps session known own) fun _ => .bind (.note _) fun _ => .pure _

theorem keeps_node (begun : Run) : (node setting begun).Keeps invariant := by
  unfold node
  cases begun.progress with
  | begun snapshot => exact .bind (keeps_extractPackage snapshot) fun _ => .pure _
  | extracted package =>
    dsimp only
    split
    · exact .bind (.note _) fun _ => .pure _
    · exact .bind (keeps_gatherContext keeps package) fun _ => .pure _
  | resolved context =>
    refine .bind (.bind (.relabel _ (keeps.reasoner.triage _ context)) fun _ => ?_) fun _ => .pure _
    exact .bind (.note _) fun _ => .pure _
  | triaged context flagged =>
    dsimp only
    split
    · exact .bind (.note _) fun _ => .pure _
    · exact .bind (keeps_findings keeps _ context flagged) fun _ => .pure _
  | analysed known => exact .bind (keeps_scoreFindings keeps _ known) fun _ => .pure _
  | scored known =>
    refine .bind (.bind (.relabel _ (keeps.reasoner.report _ _ _ _)) fun _ => ?_) fun _ => .pure _
    exact keeps_keepBacked _ _
  | reported known draft =>
    refine .bind (.bind (.relabel _ (keeps.reasoner.critique _ _ _ _)) fun _ => ?_) fun _ => .pure _
    exact .bind (.note _) fun _ => .pure _
  | critiqued known draft critique =>
    dsimp only
    split
    · exact .pure _
    · refine .bind (.bind (.relabel _ (keeps.reasoner.correct _ _ _)) fun _ => ?_) fun _ => .pure _
      exact keeps_keepBacked _ _
  | corrected known draft critique => exact .pure _
  | done result => exact .pure _

theorem keeps_step (begun : Run) : (step setting begun).Keeps invariant := by
  unfold step
  have timed : (timed begun (node setting begun)).Keeps invariant :=
    .bind (.note _) fun _ => .bind (keeps_node keeps begun) fun _ => .bind (.note _) fun _ => .pure _
  cases begun.progress with
  | done result => exact .pure _
  | _ => exact timed

theorem keeps_stepsFrom (left : Nat) (begun : Run) :
    (stepsFrom setting left begun).Keeps invariant := by
  induction left generalizing begun with
  | zero => exact .pure _
  | succ left inductionHypothesis => exact .bind (keeps_step keeps begun) inductionHypothesis

/-- An analysis keeps whatever all that it makes use of keeps. -/
theorem keeps_run (session : String) (snapshot : Snapshot) :
    (run setting session snapshot).Keeps invariant :=
  .bind (keeps_stepsFrom keeps _ _) keeps_resultOf

end Nodes

end MoveAudit.Analysis
