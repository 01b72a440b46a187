/-
This file shows that every card an analysis comes to is sound: its score lies within the bounds, and
its level is the one that belongs to the score. The two fixed cards are sound by themselves, and any
other card is a draft at a score that the rules have brought into range. What an analysis has come
to so far is sound at every step, whatever the reasoner comes up with and whatever else has happened
to the world between two steps.
-/

import MoveAudit.Analysis.Progress
import MoveAudit.Proofs.Act
import MoveAudit.Proofs.Card.Document
import MoveAudit.Proofs.Scoring.Rules

namespace MoveAudit.Analysis

open Json Chain

variable {World Reason : Type}

theorem isSound_noFunctions : Card.noFunctions.IsSound :=
  ⟨⟨by decide, by decide⟩, rfl⟩

theorem isSound_cleanTriage : Card.cleanTriage.IsSound :=
  ⟨⟨by decide, by decide⟩, rfl⟩

theorem inRange_clampScore (number : Int) :
    Card.scoreBounds.1 ≤ clampScore number ∧ clampScore number ≤ Card.scoreBounds.2 :=
  ⟨Int.le_max_left 0 _, Int.max_le.mpr ⟨by decide, Int.min_le_left 100 _⟩⟩

/-! ### Step by step -/

/-- A score is in range. -/
def Scored.IsInRange (known : Scored) : Prop :=
  Card.scoreBounds.1 ≤ known.score.score ∧ known.score.score ≤ Card.scoreBounds.2

/-- Whatever an analysis has come to so far is sound: its score, and its card when it is done. -/
def Progress.IsSound : Progress → Prop
  | .begun _ | .extracted _ | .resolved _ | .triaged _ _ | .analysed _ => True
  | .scored known | .reported known _ | .critiqued known _ _ | .corrected known _ _ =>
    known.IsInRange
  | .done result => result.card.IsSound

theorem isSound_finalize (run : Run) {known : Scored} (inRange : known.IsInRange) (draft : Draft)
    (critique : Critique) : (finalize run known draft critique).progress.IsSound :=
  ⟨inRange, rfl⟩

section Steps

variable {setting : Setting World Reason}

/-- What the rules come to is in range. -/
theorem comesTo_ownReport (known : Findings) : (ownReport setting known).ComesTo
    fun own => Card.scoreBounds.1 ≤ own.score ∧ own.score ≤ Card.scoreBounds.2 := by
  unfold ownReport
  refine .bind_of (.ofExcept fun _ => id) fun account isAccount => .bind fun _ =>
    .ofExcept fun own isOwn => ?_
  rw [Scoring.Breakdown.eq_toReport_of_report (ok_of_mapError isOwn),
    Scoring.eq_breakdown_of_account (ok_of_mapError isAccount)]
  exact inRange_clampScore _

theorem comesTo_scoreFindings (session : String) (known : Findings) :
    (scoreFindings setting session known).ComesTo Scored.IsInRange := by
  unfold scoreFindings
  refine .bind_of (comesTo_ownReport known) fun own inRange => ?_
  refine .bind_of (?_ : Act.ComesTo (fun report : ScoreReport =>
    report.score = own.score) _) fun report same => ?_
  · unfold agreeOnReport
    split
    · refine .bind fun given => ?_
      split
      · next same => exact .pure same
      · exact .bind fun _ => .pure rfl
    · exact .pure rfl
  · refine .bind fun _ => .pure ?_
    show Card.scoreBounds.1 ≤ report.score ∧ report.score ≤ Card.scoreBounds.2
    rw [same]
    exact inRange

theorem comesTo_node {begun : Run} (sound : begun.progress.IsSound) :
    (node setting begun).ComesTo fun next => next.progress.IsSound := by
  unfold node
  cases stands : begun.progress with
  | begun snapshot => exact .bind fun _ => .pure trivial
  | extracted package =>
    dsimp only
    split
    · exact .bind fun _ => .pure isSound_noFunctions
    · exact .bind fun _ => .pure trivial
  | resolved context => exact .bind fun _ => .pure trivial
  | triaged context flagged =>
    dsimp only
    split
    · exact .bind fun _ => .pure isSound_cleanTriage
    · exact .bind fun _ => .pure trivial
  | analysed known => exact .bind_of (comesTo_scoreFindings _ known) fun _ inRange => .pure inRange
  | scored known =>
    rw [stands] at sound
    exact .bind fun _ => .pure sound
  | reported known draft =>
    rw [stands] at sound
    exact .bind fun _ => .pure sound
  | critiqued known draft critique =>
    rw [stands] at sound
    dsimp only
    split
    · exact .pure (isSound_finalize begun sound draft critique)
    · exact .bind fun _ => .pure sound
  | corrected known draft critique =>
    rw [stands] at sound
    exact .pure (isSound_finalize begun sound draft critique)
  | done result => exact .pure sound

/-- What is sound is so after a step. -/
theorem comesTo_step {begun : Run} (sound : begun.progress.IsSound) :
    (step setting begun).ComesTo fun next => next.progress.IsSound := by
  have timed : (timed begun (node setting begun)).ComesTo fun next => next.progress.IsSound :=
    .bind fun _ => .bind_of (comesTo_node sound) fun _ soundToo => .bind fun _ => .pure soundToo
  unfold step
  cases stands : begun.progress with
  | done result => exact .pure sound
  | _ => exact timed

/-- The card of an analysis that is sound is so. -/
theorem comesTo_resultOf {last : Run} (sound : last.progress.IsSound) :
    (resultOf last : Course World Reason Result).ComesTo fun result => result.card.IsSound := by
  unfold resultOf
  cases stands : last.progress with
  | done result =>
    rw [stands] at sound
    exact .bind fun _ => .pure sound
  | _ => exact fun _ _ _ ran => nomatch ran

theorem comesTo_stepsFrom (left : Nat) {begun : Run} (sound : begun.progress.IsSound) :
    (stepsFrom setting left begun).ComesTo fun last => last.progress.IsSound := by
  induction left generalizing begun with
  | zero => exact .pure sound
  | succ left inductionHypothesis =>
    exact .bind_of (comesTo_step sound) fun _ soundToo => inductionHypothesis soundToo

/-- Every card that an analysis comes to is sound. -/
theorem comesTo_run (session : String) (snapshot : Snapshot) :
    (run setting session snapshot).ComesTo fun result => result.card.IsSound :=
  .bind_of (comesTo_stepsFrom _ trivial) fun _ sound => comesTo_resultOf sound

end Steps

end MoveAudit.Analysis
