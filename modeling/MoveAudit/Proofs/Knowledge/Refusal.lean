/-
This file says which documents are either accepted as a knowledge base or refused with what is wrong
with them. Nearly all rules for a document can be applied to a value of any kind, so that a wrong
value is a fault like any other. Two rules cannot: the severities of a keyword rule are gone through
one by one before it is known that there are several, and the points of a severity are made a whole
number before it is known that they are a number. A document that comes upon one of them with a
value of the wrong kind is neither accepted nor refused.
-/

import Mathlib
import MoveAudit.Knowledge.Base
import MoveAudit.Proofs.Record.Halting
import MoveAudit.Yaml.Reader

namespace MoveAudit

open Json Record Checked

/-! ### Rules for any value -/

theorem finishes_keywordCheck : Finishes keywordCheck :=
  fun value => .map _ (finishes_list finishes_text value)

theorem CombinationRules.finishes_check : Finishes CombinationRules.check := by
  have whole (name : String) (default_ : Int) : Finishes (optional name default_ whole) :=
    finishes_optional name default_ finishes_whole
  exact finishes_record _ (.seq (.seq (.seq (.seq (.map _ (whole _ _)) (whole _ _)) (whole _ _))
    (whole _ _)) (whole _ _))

theorem CertaintyRules.finishes_check : Finishes CertaintyRules.check :=
  finishes_record _ (.seq (.map _ (finishes_optional _ _ finishes_whole))
    (finishes_optional _ _ finishes_whole))

theorem Modifier.finishes_check : Finishes Modifier.check := by
  refine finishes_record _ (.seq (.map _ (finishes_required _ fun value => ?_))
    (finishes_required _ finishes_text))
  exact andThen_isDone_iff.mpr ⟨finishes_text value, fun _ _ => rule_isDone _ _⟩

theorem RiskPattern.finishes_fieldsCheck : Finishes RiskPattern.fieldsCheck := by
  have texts : Finishes (list text) := finishes_list finishes_text
  refine finishes_record _ (.seq (.seq (.seq (.seq (.seq (.seq (.seq (.seq (.seq (.map _ ?_) ?_) ?_)
    ?_) ?_) ?_) ?_) ?_) ?_) ?_)
  · exact finishes_required _ fun _ => .ok _
  · exact finishes_required _ finishes_text
  · exact finishes_required _ Severity.finishes_check
  · exact finishes_required _ (finishes_pair finishes_whole)
  · exact finishes_optional _ _ (finishes_nullable finishes_whole)
  · exact finishes_optional _ _ finishes_text
  · exact finishes_optional _ _ texts
  · exact finishes_optional _ _ texts
  · exact finishes_optional _ _ (finishes_list Modifier.finishes_check)
  · exact finishes_optional _ _ finishes_truth

theorem RiskPattern.finishes_check : Finishes RiskPattern.check := by
  intro value
  refine andThen_isDone_iff.mpr ⟨finishes_fieldsCheck value, fun unsettled _ => ?_⟩
  exact .map _ (rule_isDone _ value)

theorem Version.finishes_check : Finishes Version.check := by
  intro value
  unfold Version.check
  split
  · exact .ok _
  · split
    · exact .ok _
    · next stops => exact absurd stops (finishes_whole _ _)
    · exact .map _ (.both nofun (.under _ (.fault _ _)))

/-! ### The two rules -/

namespace KeywordRule

/-- A value that severities can be taken from one by one; nothing stands for all of them. -/
def canBeListed : Value → Bool
  | .null | .string _ | .array _ | .object _ => true
  | .bool _ | .int _ | .float _ => false

theorem severitiesCheck_isDone_iff {value : Value} :
    (severitiesCheck value).IsDone ↔ canBeListed value = true := by
  cases value with
  | null => exact iff_of_true (.ok _) rfl
  | string text => exact iff_of_true (rule_isDone _ _) rfl
  | array items => exact iff_of_true (rule_isDone _ _) rfl
  | object members => exact iff_of_true (rule_isDone _ _) rfl
  | _ => exact iff_of_false (fun done => done .wrongKind rfl) Bool.false_ne_true

theorem check_isDone_iff {value : Value} :
    (check value).IsDone ↔ canBeListed (value.part "severities") = true := by
  cases value with
  | object members =>
    show Checked.IsDone ((_ <*> _ : Fields KeywordRule) members) ↔ _
    rw [seq_isDone_iff, optional_isDone_iff (severitiesCheck_isDone_iff.mpr rfl),
      severitiesCheck_isDone_iff]
    refine and_iff_right (Finishes.seq (.seq (.map _ ?_) ?_) ?_ members)
    · exact finishes_required _ finishes_text
    · exact finishes_required _ finishes_whole
    · exact finishes_required _ finishes_keywordCheck
  | _ => exact iff_of_true (.fault _ _) rfl

end KeywordRule

namespace ScoringRules

/-- A value that a whole number can be asked of, whether it stands for one or not. -/
def canBeCounted : Value → Bool
  | .bool _ | .int _ | .string _ | .float .nan | .float (.finite ..) => true
  | .null | .float (.infinite _) | .array _ | .object _ => false

theorem wholeOf_isDone_iff {value : Value} :
    (wholeOf value).IsDone ↔ canBeCounted value = true := by
  cases value with
  | bool truth => exact iff_of_true (.ok _) rfl
  | int whole => exact iff_of_true (.ok _) rfl
  | float number =>
    cases number with
    | nan => exact iff_of_true (.ok _) rfl
    | finite => exact iff_of_true (.ok _) rfl
    | infinite => exact iff_of_false (fun done => done .overflow rfl) Bool.false_ne_true
  | string text =>
    refine iff_of_true ?_ rfl
    unfold wholeOf
    dsimp only
    split
    · exact .ok _
    split
    · exact .ok _
    · exact .ok _
  | _ => exact iff_of_false (fun done => done .wrongKind rfl) Bool.false_ne_true

/-- An entry gives some severity its points. -/
def GivesPoints (entry : String × Value) : Prop :=
  (Severity.ofValue? (.string entry.1)).isSome = true ∧
    ∃ number, wholeOf entry.2 = .ok (.ok number)

/-- As long as all entries before it give a severity its points, an entry under the name of a
severity has a value that a whole number can be asked of. -/
def CanBeGoneThrough (entries : Members) : Prop :=
  ∀ before name points after, entries = before ++ (name, points) :: after →
    (∀ entry ∈ before, GivesPoints entry) →
    (Severity.ofValue? (.string name)).isSome = true → canBeCounted points = true

theorem canBeGoneThrough_nil : CanBeGoneThrough [] := by
  intro before name points after split
  simp at split

theorem canBeGoneThrough_cons_iff {name : String} {points : Value} {rest : Members} :
    CanBeGoneThrough ((name, points) :: rest) ↔
      ((Severity.ofValue? (.string name)).isSome = true → canBeCounted points = true) ∧
        (GivesPoints (name, points) → CanBeGoneThrough rest) := by
  constructor
  · intro all
    refine ⟨all [] name points rest rfl nofun, ?_⟩
    rintro gives before other otherPoints after rfl others
    exact all ((name, points) :: before) other otherPoints after rfl
      (List.forall_mem_cons.mpr ⟨gives, others⟩)
  · rintro ⟨first, others⟩ before other otherPoints after split gives
    cases before with
    | nil =>
      cases split
      exact first
    | cons entry before =>
      cases split
      obtain ⟨givesFirst, givesRest⟩ := List.forall_mem_cons.mp gives
      exact others givesFirst before other otherPoints after rfl givesRest

theorem pointsOf_isDone_iff {known : List (Severity × Int)} {input : Value} {entries : Members} :
    (pointsOf known input entries).IsDone ↔ CanBeGoneThrough entries := by
  induction entries generalizing known with
  | nil => exact iff_of_true (.ok known) canBeGoneThrough_nil
  | cons entry rest inductionHypothesis =>
    obtain ⟨name, points⟩ := entry
    rw [canBeGoneThrough_cons_iff, pointsOf]
    cases named : Severity.ofValue? (.string name) with
    | none =>
      refine iff_of_true (rule_isDone _ _) ⟨nofun, ?_⟩
      rintro ⟨isSeverity, -⟩
      rw [named] at isSeverity
      cases isSeverity
    | some severity =>
      simp only [andThen_isDone_iff, wholeOf_isDone_iff, Option.isSome_some, true_implies]
      refine and_congr_right fun _ => ⟨?_, ?_⟩
      · rintro goesOn ⟨-, number, isNumber⟩
        exact inductionHypothesis.mp (goesOn _ isNumber)
      · intro others number? came
        cases number? with
        | error words => exact rule_isDone _ _
        | ok number =>
          have gives : GivesPoints (name, points) := ⟨named ▸ rfl, number, came⟩
          exact inductionHypothesis.mpr (others gives)

theorem pointsCheck_isDone_iff {value : Value} :
    (pointsCheck value).IsDone ↔ CanBeGoneThrough value.members := by
  cases value with
  | object members => exact pointsOf_isDone_iff
  | _ => exact iff_of_true (.fault _ _) canBeGoneThrough_nil

theorem check_isDone_iff {value : Value} :
    (check value).IsDone ↔ CanBeGoneThrough (value.part "severity_points").members ∧
      ∀ rule ∈ (value.part "rules").items,
        KeywordRule.canBeListed (rule.part "severities") = true := by
  cases value with
  | object members =>
    show Checked.IsDone ((_ <*> _ : Fields ScoringRules) members) ↔ _
    have words (name : String) (default_ : List String) :
        (optional name default_ keywordCheck members).IsDone :=
      finishes_optional name default_ finishes_keywordCheck members
    have rules : (list KeywordRule.check .null).IsDone := list_isDone_iff.mpr nofun
    have points : (pointsCheck .null).IsDone := pointsCheck_isDone_iff.mpr canBeGoneThrough_nil
    rw [seq_isDone_iff, and_iff_left (finishes_optional _ _ CertaintyRules.finishes_check members),
      seq_isDone_iff, and_iff_left (finishes_optional _ _ CombinationRules.finishes_check members),
      seq_isDone_iff, optional_isDone_iff rules, list_isDone_iff]
    simp only [KeywordRule.check_isDone_iff]
    refine and_congr_left fun _ => ?_
    rw [seq_isDone_iff, and_iff_left (words _ _), seq_isDone_iff, and_iff_left (words _ _),
      seq_isDone_iff, and_iff_left (finishes_optional _ _ finishes_whole members),
      seq_isDone_iff, and_iff_left (words _ _), map_fields_isDone_iff, optional_isDone_iff points,
      pointsCheck_isDone_iff]
  | _ => exact iff_of_true (.fault _ _) ⟨canBeGoneThrough_nil, nofun⟩

end ScoringRules

/-! ### Documents -/

/-- The document was looked through, and something in it is not in order. -/
def KnowledgeFault.isRefusal : KnowledgeFault → Bool
  | .invalid _ | .duplicate _ => true
  | .halt _ | .unreadable => false

namespace KnowledgeBase

/-- A document is accepted, or it is refused with what is wrong with it. -/
def IsDecided (outcome : Except KnowledgeFault KnowledgeBase) : Prop :=
  ∀ fault, outcome = .error fault → fault.isRefusal = true

/-- The two rules that cannot be applied to a value of any kind can be applied to the document. -/
structure CanBeJudged (document : Value) : Prop where
  points : ScoringRules.CanBeGoneThrough
    ((document.part "scoring").part "severity_points").members
  severities : ∀ rule ∈ ((document.part "scoring").part "rules").items,
    KeywordRule.canBeListed (rule.part "severities") = true

theorem canBeJudged_iff {document : Value} :
    CanBeJudged document ↔ (ScoringRules.check (document.part "scoring")).IsDone := by
  rw [ScoringRules.check_isDone_iff]
  exact ⟨fun judged => ⟨judged.points, judged.severities⟩,
    fun ⟨points, severities⟩ => ⟨points, severities⟩⟩

theorem check_isDone_iff {document : Value} : (check document).IsDone ↔ CanBeJudged document := by
  rw [canBeJudged_iff]
  have nothing : (ScoringRules.check .null).IsDone := .fault _ _
  cases document with
  | object members =>
    show Checked.IsDone ((_ <*> _ : Fields KnowledgeBase) members) ↔ _
    rw [seq_isDone_iff, optional_isDone_iff nothing]
    refine and_iff_right (Finishes.seq (.map _ ?_) ?_ members)
    · exact finishes_optional _ _ Version.finishes_check
    · exact finishes_required _ (finishes_list RiskPattern.finishes_check)
  | _ => exact iff_of_true (.fault _ _) nothing

theorem isDecided_iff {document : Value} :
    IsDecided (ofDocument document) ↔ (check document).IsDone := by
  unfold ofDocument IsDecided
  cases check document with
  | halt reason =>
    exact iff_of_false (fun refused => nomatch refused _ rfl) fun done => done reason rfl
  | faults found => exact iff_of_true (fun fault => by rintro ⟨⟩; rfl) nofun
  | ok base =>
    refine iff_of_true ?_ nofun
    dsimp only
    split
    · rintro fault ⟨⟩
      rfl
    · nofun

/-- A document that counts as empty stands for one without members, which has nothing in it that
cannot be judged. -/
theorem canBeJudged_full? (document : Value) :
    CanBeJudged (document.full?.getD (.object [])) ↔ CanBeJudged document := by
  unfold Value.full?
  split
  · rfl
  · next empty =>
    have nothing (name : String) : document.part name = .null :=
      Value.part_of_not_full (eq_false_of_ne_true empty) name
    simp [canBeJudged_iff, nothing]
    rfl

theorem isDecided_ofDocument_iff {document : Value} :
    IsDecided (ofDocument document) ↔ CanBeJudged document :=
  isDecided_iff.trans check_isDone_iff

/-- A document is accepted or refused exactly if the two rules that are for values of some kinds
alone can be applied to it, and so is a text with what a reader of documents reads in it. -/
theorem accepted_or_refused_iff {read : String → Option Value} {text : String} {written : Value}
    (isRead : read text = some written) (document : Value) :
    (IsDecided (ofDocument document) ↔ CanBeJudged document) ∧
      (IsDecided (ofText read text) ↔ CanBeJudged written) := by
  refine ⟨isDecided_ofDocument_iff, ?_⟩
  rw [ofText, isRead]
  exact isDecided_ofDocument_iff.trans (canBeJudged_full? written)

/-- A text with a keyword rule for findings of one severity. -/
def listedText : String :=
  "patterns: []\nscoring: \x7brules: [\x7bseverities: [Low]\x7d]\x7d"

/-- The document that is written in the text. -/
def listedDocument : Value :=
  .object [("patterns", .array []), ("scoring", .object [("rules", .array [.object
    [("severities", .array [.string "Low"])]])])]

theorem read_listedText : Yaml.read? listedText = some listedDocument := by
  cbv

/-- The text is read, and as its severities are a list, it is accepted or refused: the rule has no
name. -/
theorem listed_text_is_decided : Yaml.read? listedText = some listedDocument ∧
    IsDecided (ofText Yaml.read? listedText) ∧
    (ofText Yaml.read? listedText).toOption = none := by
  have judged : CanBeJudged listedDocument := by
    refine ⟨ScoringRules.canBeGoneThrough_nil, fun rule member => ?_⟩
    cases List.mem_singleton.mp member
    rfl
  refine ⟨read_listedText, ((accepted_or_refused_iff read_listedText .null).2).mpr judged, ?_⟩
  rw [ofText, read_listedText]
  rfl

/-- A keyword rule whose severities are given as a number. -/
def numberedDocument : Value :=
  .object [("patterns", .array []), ("scoring", .object [("rules", .array [.object
    [("name", .string "mitigation"), ("delta", .int (-30)), ("keywords", .array []),
      ("severities", .int 5)]])])]

/-- The number is not gone through, and it is no fault either. -/
theorem numbered_is_undecided : ¬ IsDecided (ofDocument numberedDocument) := by
  have halts : ofDocument numberedDocument = .error (.halt .wrongKind) := rfl
  exact fun decided => Bool.false_ne_true (decided _ halts)

end KnowledgeBase

end MoveAudit
