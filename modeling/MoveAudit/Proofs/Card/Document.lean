/-
This file shows that a card is read back from its document as it was. A card is kept as a document
and checked again whenever it is taken out, so a card whose document failed its own check would be
lost; the only part of a card that can fail is the score, and a card whose score lies within the
bounds never does.
-/

import MoveAudit.Card.Basic

namespace MoveAudit

open Json Record

/-! ### Fields that are in order -/

namespace Record

theorem map_ok {First Second : Type} {fields : Fields First} {members : Members} {first : First}
    (next : First → Second) (passes : fields members = .ok first) :
    (next <$> fields) members = .ok (next first) := by
  show (fields members).map next = _
  rw [passes]
  rfl

theorem seq_ok {First Second : Type} {fields : Fields (First → Second)} {others : Fields First}
    {members : Members} {next : First → Second} {first : First}
    (passes : fields members = .ok next) (othersPass : others members = .ok first) :
    (fields <*> others) members = .ok (next first) := by
  show ((fields members).both fun _ => others members).map _ = _
  rw [passes, othersPass]
  rfl

theorem required_ok {Field : Type} {name : String} {check : Check Field} {members : Members}
    {value : Value} {field : Field} (found : Entries.get? members name = some value)
    (passes : check value = .ok field) : required name check members = .ok field := by
  unfold required
  rw [found]
  show Checked.under _ (check value) = _
  rw [passes]
  rfl

theorem optional_ok {Field : Type} {name : String} {default_ : Field} {check : Check Field}
    {members : Members} {value : Value} {field : Field}
    (found : Entries.get? members name = some value) (passes : check value = .ok field) :
    optional name default_ check members = .ok field := by
  unfold optional
  rw [found]
  show Checked.under _ (check value) = _
  rw [passes]
  rfl

theorem itemsFrom_map {Item : Type} {check : Check Item} {document : Item → Value}
    (passes : ∀ item, check (document item) = .ok item) (items : List Item) (index : Nat) :
    itemsFrom check index (items.map document) = .ok items := by
  induction items generalizing index with
  | nil => rfl
  | cons item rest inductionHypothesis =>
    rw [List.map_cons, itemsFrom, passes, inductionHypothesis]
    rfl

end Record

/-! ### Parts of a card -/

theorem RiskyFunction.check_toJson (function : RiskyFunction) :
    RiskyFunction.check function.toJson = .ok function := rfl

theorem Indicator.check_toJson (indicator : Indicator) :
    Indicator.check indicator.toJson = .ok indicator := rfl

theorem RiskLevel.choice_word (level : RiskLevel) :
    choice RiskLevel.all RiskLevel.word (.string level.word) = .ok level := by
  cases level <;> rfl

/-! ### Cards -/

namespace Card

/-- A card has a score that the check of cards lets pass. -/
def IsInRange (card : Card) : Prop :=
  scoreBounds.1 ≤ card.score ∧ card.score ≤ scoreBounds.2

/-- A card has a score in range and the level that belongs to its score. -/
def IsSound (card : Card) : Prop :=
  card.IsInRange ∧ card.level = .ofScore card.score

theorem scoreCheck_int {score : Int} (low : scoreBounds.1 ≤ score)
    (high : score ≤ scoreBounds.2) : scoreCheck (.int score) = .ok score := by
  have notSmall : ¬ score < scoreBounds.1 := Int.not_lt.mpr low
  have notLarge : ¬ scoreBounds.2 < score := Int.not_lt.mpr high
  show Checked.andThen (if score < scoreBounds.1 then _ else .ok score) _ = _
  rw [if_neg notSmall]
  show (if scoreBounds.2 < score then _ else Checked.ok score) = _
  rw [if_neg notLarge]

/-- A card is read back from its document as it was. -/
theorem check_toJson (card : Card) (inRange : card.IsInRange) : check card.toJson = .ok card := by
  obtain ⟨⟨summary, functions, indicators, impact, oneLiner⟩, score, level⟩ := card
  have text (words : String) : text (.string words) = .ok words := rfl
  have functionsPass : list RiskyFunction.check (.array (functions.map RiskyFunction.toJson)) =
      .ok functions := itemsFrom_map RiskyFunction.check_toJson functions 0
  have indicatorsPass : list Indicator.check (.array (indicators.map Indicator.toJson)) =
      .ok indicators := itemsFrom_map Indicator.check_toJson indicators 0
  refine seq_ok (seq_ok (seq_ok (seq_ok (seq_ok (seq_ok (map_ok _ ?_) ?_) ?_) ?_) ?_) ?_) ?_
  · exact required_ok rfl (text summary)
  · exact optional_ok rfl functionsPass
  · exact optional_ok rfl indicatorsPass
  · exact optional_ok rfl (text impact)
  · exact optional_ok rfl (text oneLiner)
  · exact required_ok rfl (scoreCheck_int inRange.1 inRange.2)
  · exact required_ok rfl (RiskLevel.choice_word level)

end Card

end MoveAudit
