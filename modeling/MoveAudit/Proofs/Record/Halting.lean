/-
This file says which checks can stop. A check that meets a value of another kind than it wants finds
a fault and goes on to the next field; only a rule that cannot be applied to a value at all stops a
check. A check that is put together from checks that always finish always finishes, so of all records
that a model answers with the score report alone can stop, and only at a score that is a whole number
beyond binary64.
-/

import MoveAudit.Card.Basic

namespace MoveAudit

open Json

namespace Record

variable {Input First Second Result : Type}

/-! ### What stops a composite -/

namespace Checked

/-- A check has come to a result or to faults. -/
def IsDone (checked : Checked Result) : Prop :=
  ∀ reason, checked ≠ .halt reason

/-- Whether a check has come to a result. -/
def isFit : Checked Result → Bool
  | ok _ => true
  | _ => false

theorem exists_of_isFit {checked : Checked Result} (fits : checked.isFit = true) :
    ∃ result, checked = .ok result := by
  cases checked with
  | ok result => exact ⟨result, rfl⟩
  | _ => cases fits

theorem IsDone.ok (result : Result) : IsDone (.ok result) := nofun

theorem IsDone.fault (cause : Cause) (input : Value) : IsDone (.fault cause input : Checked Result) :=
  nofun

/-- A check that goes on with something that finishes stops exactly where it stopped before. -/
theorem andThen_eq_halt_iff {checked : Checked First} {next : First → Checked Second}
    {reason : Halt} (nextDone : ∀ result, (next result).IsDone) :
    checked.andThen next = .halt reason ↔ checked = .halt reason := by
  cases checked with
  | ok result => exact iff_of_false (nextDone result reason) nofun
  | faults found => simp [andThen]
  | halt other => simp [andThen]

theorem map_eq_halt_iff {f : First → Second} {checked : Checked First} {reason : Halt} :
    checked.map f = .halt reason ↔ checked = .halt reason :=
  andThen_eq_halt_iff fun result => .ok (f result)

theorem under_eq_halt_iff {step : Step} {checked : Checked Result} {reason : Halt} :
    checked.under step = .halt reason ↔ checked = .halt reason := by
  cases checked <;> simp [under]

/-- Two checks of which the second finishes stop exactly where the first does. -/
theorem both_eq_halt_iff {first : Checked First} {second : Unit → Checked Second} {reason : Halt}
    (done : (second ()).IsDone) :
    first.both second = .halt reason ↔ first = .halt reason := by
  cases came : second () with
  | halt other => exact absurd came (done other)
  | ok result => cases first <;> simp [both, came]
  | faults found => cases first <;> simp [both, came]

theorem IsDone.map (f : First → Second) {checked : Checked First} (done : checked.IsDone) :
    (checked.map f).IsDone :=
  fun reason stops => done reason (map_eq_halt_iff.mp stops)

theorem IsDone.under (step : Step) {checked : Checked Result} (done : checked.IsDone) :
    (checked.under step).IsDone :=
  fun reason stops => done reason (under_eq_halt_iff.mp stops)

theorem IsDone.both {first : Checked First} {second : Unit → Checked Second}
    (done : first.IsDone) (secondDone : (second ()).IsDone) : (first.both second).IsDone :=
  fun reason stops => done reason ((both_eq_halt_iff secondDone).mp stops)

theorem map_isDone_iff {f : First → Second} {checked : Checked First} :
    (checked.map f).IsDone ↔ checked.IsDone :=
  forall_congr' fun _ => not_congr map_eq_halt_iff

theorem under_isDone_iff {step : Step} {checked : Checked Result} :
    (checked.under step).IsDone ↔ checked.IsDone :=
  forall_congr' fun _ => not_congr under_eq_halt_iff

theorem andThen_isDone_iff {checked : Checked First} {next : First → Checked Second} :
    (checked.andThen next).IsDone ↔
      checked.IsDone ∧ ∀ result, checked = .ok result → (next result).IsDone := by
  cases checked <;> simp [andThen, IsDone]

/-- Two checks are both made, whatever the first one comes to. -/
theorem both_isDone_iff {first : Checked First} {second : Unit → Checked Second} :
    (first.both second).IsDone ↔ first.IsDone ∧ (second ()).IsDone := by
  cases came : second () <;> cases first <;> simp [both, came, IsDone]

end Checked

open Checked

/-! ### Checks that always finish -/

/-- A check comes to a result or to faults, whatever it is applied to. -/
def Finishes (check : Input → Checked Result) : Prop :=
  ∀ input, (check input).IsDone

theorem finishes_text : Finishes text := by
  intro value
  cases value with
  | string text => exact .ok text
  | _ => exact .fault _ _

theorem truthOfWhole_isDone (whole : Int) (input : Value) : (truthOfWhole whole input).IsDone := by
  unfold truthOfWhole
  split
  · exact .ok false
  split
  · exact .ok true
  · exact .fault _ _

theorem finishes_truth : Finishes truth := by
  intro value
  unfold truth
  split
  · exact .ok _
  · exact truthOfWhole_isDone _ _
  · split
    · exact truthOfWhole_isDone _ _
    · exact .fault _ _
  · split
    · exact .ok _
    · exact .fault _ _
  · exact .fault _ _

theorem finishes_choice (results : List Result) (word : Result → String) :
    Finishes (choice results word) := by
  intro value
  unfold choice
  split
  · exact .ok _
  · exact .fault _ _

theorem rule_isDone (outcome : Except String Result) (input : Value) :
    (rule outcome input).IsDone := by
  cases outcome with
  | ok result => exact .ok result
  | error text => exact .fault _ _

theorem finishes_whole : Finishes whole := by
  intro value
  unfold whole
  split
  · exact .ok _
  · exact .ok _
  · split
    · exact .fault _ _
    split
    · exact .fault _ _
    · split
      · exact .ok _
      · exact .fault _ _
  · split
    · exact .fault _ _
    split
    · exact .ok _
    · exact .fault _ _
  · exact .fault _ _

theorem finishes_nullable {check : Check Result} (finishes : Finishes check) :
    Finishes (nullable check) := by
  intro value
  cases value with
  | null => exact .ok none
  | _ => exact .map _ (finishes _)

theorem finishes_pair {check : Check Result} (finishes : Finishes check) :
    Finishes (pair check) := by
  intro value
  cases value with
  | array items =>
    by_cases many : 2 < items.length
    · rw [pair, if_pos many]
      exact .fault _ _
    · rw [pair, if_neg many]
      refine .both (.under _ ?_) (.under _ ?_) <;> split
      · exact finishes _
      · exact .fault _ _
      · exact finishes _
      · exact .fault _ _
  | _ => exact .fault _ _

theorem itemsFrom_isDone_iff {check : Check Result} {items : List Value} {index : Nat} :
    (itemsFrom check index items).IsDone ↔ ∀ item ∈ items, (check item).IsDone := by
  induction items generalizing index with
  | nil => simp [itemsFrom, IsDone]
  | cons item rest inductionHypothesis =>
    rw [itemsFrom, map_isDone_iff, both_isDone_iff, under_isDone_iff, inductionHypothesis,
      List.forall_mem_cons]

/-- The check of a list goes on from item to item, and what is no list has no items. -/
theorem list_isDone_iff {check : Check Result} {value : Value} :
    (list check value).IsDone ↔ ∀ item ∈ value.items, (check item).IsDone := by
  cases value with
  | array items => exact itemsFrom_isDone_iff
  | _ => exact iff_of_true (.fault _ _) nofun

theorem finishes_list {check : Check Result} (finishes : Finishes check) :
    Finishes (list check) :=
  fun _ => list_isDone_iff.mpr fun item _ => finishes item

/-! ### Fields -/

theorem finishes_required (name : String) {check : Check Result} (finishes : Finishes check) :
    Finishes (required name check) := by
  intro members
  unfold required
  split
  · exact .under _ (finishes _)
  · exact .under _ (.fault _ _)

theorem finishes_optional (name : String) (default_ : Result) {check : Check Result}
    (finishes : Finishes check) : Finishes (optional name default_ check) := by
  intro members
  unfold optional
  split
  · exact .under _ (finishes _)
  · exact .ok default_

theorem Finishes.map (f : First → Second) {fields : Fields First} (finishes : Finishes fields) :
    Finishes (f <$> fields) :=
  fun members => .map f (finishes members)

theorem Finishes.seq {fields : Fields (First → Second)} {others : Fields First}
    (finishes : Finishes fields) (othersFinish : Finishes others) : Finishes (fields <*> others) :=
  fun members => .map _ (.both (finishes members) (othersFinish members))

/-- A field that always finishes changes nothing about where the fields before it stop. -/
theorem seq_eq_halt_iff {fields : Fields (First → Second)} {others : Fields First}
    (othersFinish : Finishes others) {members : Members} {reason : Halt} :
    (fields <*> others) members = .halt reason ↔ fields members = .halt reason :=
  map_eq_halt_iff.trans (both_eq_halt_iff (othersFinish members))

theorem seq_isDone_iff {fields : Fields (First → Second)} {others : Fields First}
    {members : Members} :
    ((fields <*> others) members).IsDone ↔ (fields members).IsDone ∧ (others members).IsDone :=
  map_isDone_iff.trans both_isDone_iff

theorem map_fields_isDone_iff {f : First → Second} {fields : Fields First} {members : Members} :
    ((f <$> fields) members).IsDone ↔ (fields members).IsDone :=
  map_isDone_iff

/-- A field that has a default is checked as it stands in the record; an absent one counts as
nothing where that is no reason to stop. -/
theorem optional_isDone_iff {name : String} {default_ : Result} {check : Check Result}
    {members : Members} (nothing : (check .null).IsDone) :
    (optional name default_ check members).IsDone ↔
      (check ((Value.object members).part name)).IsDone := by
  have place : (Value.object members).part name = (Entries.get? members name).getD .null := rfl
  rw [place]
  unfold optional
  cases Entries.get? members name with
  | some value => exact under_isDone_iff
  | none => exact iff_of_true (.ok default_) nothing

theorem required_eq_halt_iff {name : String} {check : Check Result} {members : Members}
    {reason : Halt} :
    required name check members = .halt reason ↔
      ∃ value, Entries.get? members name = some value ∧ check value = .halt reason := by
  unfold required
  rw [under_eq_halt_iff]
  split
  · rename_i value found
    simp [found]
  · rename_i absent
    simp [absent, fault]

theorem finishes_record (title : String) {fields : Fields Result} (finishes : Finishes fields) :
    Finishes (record title fields) := by
  intro value
  cases value with
  | object members => exact finishes members
  | _ => exact .fault _ _

end Record

/-! ### What a model answers with -/

open Record Checked

theorem Triage.finishes_check : Finishes Triage.check := by
  refine finishes_record _ (.map _ (finishes_optional _ _ fun value => ?_))
  unfold flaggedCheck
  split
  · exact .ok _
  · exact .ok _
  · exact .fault _ _

theorem Severity.finishes_check : Finishes Severity.check :=
  fun value => rule_isDone _ value

theorem Finding.finishes_notesCheck : Finishes notesCheck := by
  intro value
  unfold notesCheck
  split
  · exact .ok _
  · exact .ok _
  · exact finishes_list finishes_text _

theorem Finding.finishes_check : Finishes Finding.check := by
  refine finishes_record _ (.seq (.seq (.seq (.seq (.seq (.seq (.map _ ?_) ?_) ?_) ?_) ?_) ?_) ?_)
  · exact finishes_required _ finishes_text
  · exact finishes_required _ finishes_text
  · exact finishes_required _ fun _ => .ok _
  · exact finishes_required _ Severity.finishes_check
  · exact finishes_optional _ _ finishes_notesCheck
  · exact finishes_optional _ _ fun _ => .ok _
  · exact finishes_optional _ _ finishes_truth

theorem TechnicalAnalysis.finishes_check : Finishes TechnicalAnalysis.check := by
  refine finishes_record _ (.map _ (finishes_optional _ _ fun value => ?_))
  split
  · exact .ok _
  · exact finishes_list Finding.finishes_check value

theorem RiskyFunction.finishes_check : Finishes RiskyFunction.check :=
  finishes_record _ (.seq (.map _ (finishes_required _ finishes_text))
    (finishes_optional _ _ finishes_text))

theorem Indicator.finishes_check : Finishes Indicator.check :=
  finishes_record _ (.seq (.map _ (finishes_required _ finishes_text))
    (finishes_optional _ _ finishes_text))

namespace Draft

theorem finishes_lenientList {Result : Type} (ofText : String → Result) {check : Check Result}
    (finishes : Finishes check) : Finishes (lenientList ofText check) := by
  intro value
  unfold lenientList
  split
  · exact .ok _
  refine finishes_list (fun item => ?_) value
  split
  · exact .ok _
  · exact finishes _

theorem finishes_check : Finishes Draft.check := by
  refine finishes_record _ (.seq (.seq (.seq (.seq (.map _ ?_) ?_) ?_) ?_) ?_)
  · exact finishes_required _ finishes_text
  · exact finishes_optional _ _ (finishes_lenientList _ RiskyFunction.finishes_check)
  · exact finishes_optional _ _ (finishes_lenientList _ Indicator.finishes_check)
  · exact finishes_optional _ _ finishes_text
  · exact finishes_optional _ _ finishes_text

end Draft

theorem Critique.finishes_check : Finishes Critique.check :=
  finishes_record _ (.seq (.map _ (finishes_required _ finishes_truth))
    (finishes_optional _ _ finishes_text))

namespace ScoreReport

theorem number_eq_halt_iff {value : Value} {reason : Halt} :
    number value = .halt reason ↔
      reason = .overflow ∧ ∃ whole, value = .int whole ∧ (Double.ofInt whole).isFinite = false := by
  cases value with
  | int whole =>
    show (if (Double.ofInt whole).isFinite then Checked.ok (some (Double.ofInt whole))
      else .halt .overflow) = _ ↔ _
    split
    · rename_i finite
      simp [finite]
    · rename_i infinite
      rw [halt.injEq]
      constructor
      · rintro rfl
        exact ⟨rfl, whole, rfl, eq_false_of_ne_true infinite⟩
      · rintro ⟨rfl, _⟩
        rfl
  | _ => simp [number]

theorem scoreCheck_eq_halt_iff {value : Value} {reason : Halt} :
    scoreCheck value = .halt reason ↔ number value = .halt reason := by
  refine andThen_eq_halt_iff fun number? => ?_
  split
  · exact rule_isDone _ _
  split
  · exact rule_isDone _ _
  · exact .ok _

/-- The check of a score report stops exactly at a score that is a whole number beyond binary64. -/
theorem check_eq_halt_iff {members : Members} {reason : Halt} :
    check (.object members) = .halt reason ↔
      reason = .overflow ∧ ∃ whole, Entries.get? members "risk_score" = some (.int whole) ∧
        (Double.ofInt whole).isFinite = false := by
  have certainty : Finishes Certainty.check := fun _ => finishes_choice _ _ _
  refine (seq_eq_halt_iff (finishes_optional _ _ certainty)).trans ?_
  refine (seq_eq_halt_iff (finishes_optional _ _ finishes_text)).trans ?_
  refine map_eq_halt_iff.trans (required_eq_halt_iff.trans ?_)
  constructor
  · rintro ⟨value, found, stops⟩
    obtain ⟨overflows, whole, rfl, infinite⟩ :=
      number_eq_halt_iff.mp (scoreCheck_eq_halt_iff.mp stops)
    exact ⟨overflows, whole, found, infinite⟩
  · rintro ⟨overflows, whole, found, infinite⟩
    exact ⟨.int whole, found,
      scoreCheck_eq_halt_iff.mpr (number_eq_halt_iff.mpr ⟨overflows, whole, rfl, infinite⟩)⟩

end ScoreReport

end MoveAudit
