/-
This file says which of its aliases a pattern is found under. A name is looked up without the blanks
around it, but an alias is kept with its own, so an alias that begins or ends with a blank is never
found as such. Any other alias of one pattern alone is found, unless the identifier of the pattern is
blank or, beyond ASCII, another pattern has the alias in capital or in small letters.
-/

import MoveAudit.Knowledge.Bundled
import MoveAudit.Proofs.Knowledge.Accepted
import MoveAudit.Proofs.Text.Alike
import MoveAudit.Scoring.Score

namespace MoveAudit

open Json Record

/-! ### Findings -/

/-- A finding names its pattern in capital letters and without blanks, whatever it was given. -/
theorem Finding.patternId_of_check {document : Value} {finding : Finding}
    (fits : Finding.check document = .ok finding) :
    finding.patternId =
      Text.raised (Text.trimmed (spelled (document.part "matched_pattern_id"))) := by
  obtain ⟨members, rfl, all⟩ := record_eq_ok_iff.mp fits
  obtain ⟨_, isVerified, untilSnippet, -, rfl⟩ := seq_eq_ok_iff.mp all
  obtain ⟨_, snippet, untilNotes, -, rfl⟩ := seq_eq_ok_iff.mp untilSnippet
  obtain ⟨_, notes, untilSeverity, -, rfl⟩ := seq_eq_ok_iff.mp untilNotes
  obtain ⟨_, severity, untilPattern, -, rfl⟩ := seq_eq_ok_iff.mp untilSeverity
  obtain ⟨_, patternId, untilReason, named, rfl⟩ := seq_eq_ok_iff.mp untilPattern
  obtain ⟨_, reason, first, -, rfl⟩ := seq_eq_ok_iff.mp untilReason
  obtain ⟨functionName, -, rfl⟩ := map_fields_eq_ok_iff.mp first
  have isNamed := check_part_of_required named
  exact (Checked.ok.inj isNamed).symm

theorem spelled_string (name : String) : spelled (.string name) = name := by
  unfold spelled
  split
  · rfl
  · next isEmpty =>
    have noName : name.isEmpty = true := by simpa [Value.isFull] using isEmpty
    exact (String.isEmpty_iff.mp noName).symm

namespace KnowledgeBase

/-! ### Aliases of one pattern alone -/

/-- A pattern declares an alias that is not blank, and no other pattern has it as an alias or as its
identifier. -/
structure IsOwnAlias (base : KnowledgeBase) (pattern : RiskPattern) (name : String) : Prop where
  member : pattern ∈ base.patterns
  declared : name ∈ pattern.aliases
  notBlank : Text.trimmed name ≠ ""
  noId : ∀ other ∈ base.patterns, other ≠ pattern → ¬ Text.IsAlike name other.id
  noAlias : ∀ other ∈ base.patterns, other ≠ pattern → ∀ declared ∈ other.aliases,
    ¬ Text.IsAlike name declared

/-- A pattern is found under a name, and findings that are given the name have its points. -/
structure Works (base : KnowledgeBase) (pattern : RiskPattern) (name : String) : Prop where
  found : base.get? name = some pattern
  scored : Text.IsAscii name.toList → ∀ (document : Value) (finding : Finding),
    Finding.check document = .ok finding →
      document.part "matched_pattern_id" = .string name →
      ∀ (findings : List Finding) (index : Nat), findings[index]? = some finding →
        ∃ contribution,
          (Scoring.breakdown base.orBundled findings).contributions[index]? = some contribution ∧
            contribution.finding = finding ∧ contribution.base = pattern.points

/-- A name without the blanks around it is one that a pattern is kept under. -/
def IsKept (pattern : RiskPattern) (name : String) : Prop :=
  pattern.id = Text.raised (Text.trimmed name) ∨
    pattern.id ≠ "" ∧ pattern.declares (Text.trimmed name) = true

/-- No other pattern is found first under a name. -/
structure IsFree (base : KnowledgeBase) (pattern : RiskPattern) (name : String) : Prop where
  noId : ∀ other ∈ base.patterns, other ≠ pattern → other.id ≠ Text.raised (Text.trimmed name)
  isLast : pattern.id = Text.raised (Text.trimmed name) ∨
    ∃ before after, base.patterns = before ++ pattern :: after ∧
      ∀ other ∈ after, other.declares (Text.trimmed name) = false

/-! ### Which of them work -/

section Distinct

variable {base : KnowledgeBase} (distinct : base.HasDistinctIds) {pattern : RiskPattern}
  {name : String}
include distinct

theorem names_iff (member : pattern ∈ base.patterns) :
    base.Names name pattern ↔ IsKept pattern name ∧ base.IsFree pattern name := by
  constructor
  · intro names
    cases names with
    | byId _ isId =>
      refine ⟨.inl isId, fun other isOther differs same => ?_, .inl isId⟩
      exact differs (eq_of_same_id distinct member isOther (same.trans isId.symm))
    | byAlias noId split declares last named =>
      exact ⟨.inr ⟨named, declares⟩, fun other isOther _ => noId other isOther,
        .inr ⟨_, _, split, last⟩⟩
  · rintro ⟨kept, free⟩
    by_cases isId : pattern.id = Text.raised (Text.trimmed name)
    · exact .byId member isId
    · obtain ⟨named, declares⟩ := kept.resolve_left isId
      obtain ⟨before, after, split, last⟩ := free.isLast.resolve_left isId
      refine .byAlias (fun other isOther => ?_) split declares last named
      by_cases same : other = pattern
      · exact same ▸ isId
      · exact free.noId other isOther same

/-- In ASCII nothing but the case of a name can change, so that no other pattern is found under an
alias of one pattern alone. -/
theorem isFree_of_ascii (own : base.IsOwnAlias pattern name) (isAscii : Text.IsAscii name.toList)
    (othersAscii : ∀ other ∈ base.patterns, other ≠ pattern → ∀ declared ∈ other.aliases,
      Text.IsAscii declared.toList) : base.IsFree pattern name := by
  constructor
  · intro other isOther differs same
    exact own.noId other isOther differs (Text.isAlike_of_raised_eq isAscii same)
  · obtain ⟨before, after, split⟩ := List.append_of_mem own.member
    refine .inr ⟨before, after, split, fun other isAfter => ?_⟩
    have noTwice : base.patterns.Nodup := List.Nodup.of_map _ distinct
    rw [split, List.nodup_middle, List.nodup_cons] at noTwice
    have differs : other ≠ pattern := by
      rintro rfl
      exact noTwice.1 (List.mem_append_right _ isAfter)
    have isOther : other ∈ base.patterns := by simp [split, isAfter]
    refine eq_false_of_ne_true fun declares => ?_
    obtain ⟨declared, isDeclared, same⟩ := List.any_eq_true.mp declares
    exact own.noAlias other isOther differs declared isDeclared
      (Text.isAlike_of_lowered_eq isAscii (othersAscii other isOther differs declared isDeclared)
        (beq_iff_eq.mp same))

end Distinct

/-- A name in ASCII is looked up no differently for having been in capital letters. -/
theorem get?_raised_of_ascii (base : KnowledgeBase) {name : String}
    (isAscii : Text.IsAscii name.toList) :
    base.get? (Text.raised (Text.trimmed name)) = base.get? name := by
  unfold get?
  dsimp only
  rw [Text.raised_trimmed_again, Text.lowered_raised_of_ascii isAscii]

theorem works_iff {base : KnowledgeBase} {pattern : RiskPattern} {name : String} :
    base.Works pattern name ↔ base.get? name = some pattern := by
  refine ⟨Works.found, fun found => ⟨found, ?_⟩⟩
  intro isAscii document finding fits given findings index stands
  have isNamed : finding.patternId = Text.raised (Text.trimmed name) := by
    rw [Finding.patternId_of_check fits, given, spelled_string]
  have hasPatterns : base.patterns ≠ [] := List.ne_nil_of_mem (mem_of_get?_eq_some found)
  refine ⟨Scoring.contributionOf base finding, ?_, rfl, ?_⟩
  · rw [orBundled_of_patterns hasPatterns, Scoring.breakdown]
    dsimp only
    rw [List.getElem?_map, stands, Option.map_some]
  · show (base.pointsFor finding.patternId finding.severity).1 = pattern.points
    rw [isNamed, pointsFor, get?_raised_of_ascii base isAscii, found]

/-- An alias of one pattern alone works exactly if the pattern is kept under it without the blanks
around it and no other pattern is found first. The pattern is kept so if there are no blanks around
the alias and its identifier is not blank, and no other pattern is found first in ASCII. -/
theorem own_works_iff {document : Value} {base : KnowledgeBase} {pattern : RiskPattern}
    {name : String} (accepted : ofDocument document = .ok base)
    (own : base.IsOwnAlias pattern name) :
    (base.Works pattern name ↔ IsKept pattern name ∧ base.IsFree pattern name) ∧
      (Text.trimmed name = name → pattern.id ≠ "" → IsKept pattern name) ∧
      (Text.IsAscii name.toList → (∀ other ∈ base.patterns, other ≠ pattern →
        ∀ declared ∈ other.aliases, Text.IsAscii declared.toList) → base.IsFree pattern name) := by
  have distinct := hasDistinctIds_of_ofDocument accepted
  refine ⟨?_, fun noBlanks named => .inr ⟨named, ?_⟩, isFree_of_ascii distinct own⟩
  · rw [works_iff, get?_eq_some_iff distinct]
    exact names_iff distinct own.member
  · rw [noBlanks]
    exact List.any_eq_true.mpr ⟨name, own.declared, beq_self_eq_true _⟩

/-! ### Blanks around an alias -/

/-- A pattern with one alias that has blanks around it and one that has none. -/
def paddedPattern : RiskPattern :=
  { id := "C-1", name := "n", severity := .high, range := (1, 3), points := 2,
    aliases := [" drain ", "sweep"] }

/-- The document of that pattern alone. -/
def paddedDocument : Value :=
  .object [("patterns", .array [.object [("pattern_id", .string "C-1"), ("name", .string "n"),
    ("severity", .string "High"), ("base_score_range", .array [.int 1, .int 3]),
    ("aliases", .array [.string " drain ", .string "sweep"])]])]

/-- The knowledge base of the document. -/
def paddedBase : KnowledgeBase :=
  { version := .number 1, patterns := [paddedPattern], scoring := {} }

theorem isOwnAlias_padded {name : String} (declared : name ∈ paddedPattern.aliases)
    (notBlank : Text.trimmed name ≠ "") : paddedBase.IsOwnAlias paddedPattern name where
  member := List.mem_singleton_self _
  declared := declared
  notBlank := notBlank
  noId _ member differs := absurd (List.mem_singleton.mp member) differs
  noAlias _ member differs := absurd (List.mem_singleton.mp member) differs

/-- The alias without blanks works. -/
theorem sweep_works : ofDocument paddedDocument = .ok paddedBase ∧
    paddedBase.IsOwnAlias paddedPattern "sweep" ∧ paddedBase.Works paddedPattern "sweep" := by
  have own : paddedBase.IsOwnAlias paddedPattern "sweep" :=
    isOwnAlias_padded (by decide) (by decide)
  refine ⟨rfl, own, ?_⟩
  obtain ⟨works, kept, free⟩ := @own_works_iff paddedDocument _ _ _ rfl own
  refine works.mpr ⟨kept (by decide) (by decide), free (by decide) ?_⟩
  exact fun _ member differs => absurd (List.mem_singleton.mp member) differs

/-- The alias with blanks does not. -/
theorem padded_does_not_work : ofDocument paddedDocument = .ok paddedBase ∧
    paddedBase.IsOwnAlias paddedPattern " drain " ∧
      ¬ paddedBase.Works paddedPattern " drain " := by
  refine ⟨rfl, isOwnAlias_padded (by decide) (by decide), fun works => ?_⟩
  have notFound : paddedBase.get? " drain " = none := by decide
  exact Option.some_ne_none _ (works.found.symm.trans notFound)

end KnowledgeBase

end MoveAudit
