/-
This file says when the evidence of a finding counts as verified. An excerpt of the code of a module
is always recognised, also when the blanks in it are laid out anew. The code of all modules is put
below each other before it is searched, and blanks do not count, line ends among them. So what is
found stands in one module, or it begins at the end of one and goes on at the beginning of a later
one, where no module has it.
-/

import MoveAudit.Proofs.Record.Fitting
import MoveAudit.Proofs.Risk.Review
import MoveAudit.Proofs.Text.Lines
import MoveAudit.Proofs.Text.Search
import MoveAudit.Proofs.Text.Squeeze

namespace MoveAudit.Evidence

open Json Move Record
open Text (squeeze IsRespaced)

/-! ### Snippets and code -/

/-- What may be found of a snippet, with its blanks squeezed: all of it, or one of its longer
lines. -/
inductive IsQuote (snippet : String) : List Char → Prop where
  | whole (nonempty : squeeze snippet.toList ≠ []) : IsQuote snippet (squeeze snippet.toList)
  | line {line : List Char} (isLine : line ∈ Text.lines snippet.toList)
    (isLong : lineMinimum ≤ (squeeze line).length) : IsQuote snippet (squeeze line)

theorem IsQuote.ne_nil {snippet : String} {quote : List Char} (isQuote : IsQuote snippet quote) :
    quote ≠ [] := by
  cases isQuote with
  | whole nonempty => exact nonempty
  | line isLine isLong =>
    intro none
    rw [none] at isLong
    cases isLong

theorem isInCode_iff {snippet code : String} :
    isInCode snippet code = true ↔
      ∃ quote, IsQuote snippet quote ∧ quote <:+: squeeze code.toList := by
  unfold isInCode
  dsimp only
  constructor
  · intro found
    split at found
    · cases found
    · next someText =>
      have nonempty : squeeze snippet.toList ≠ [] := fun none => someText (by simp [none])
      rcases Bool.or_eq_true_iff.mp found with whole | aLine
      · exact ⟨_, .whole nonempty, Text.contains_iff_infix.mp whole⟩
      · obtain ⟨line, isLine, isLong, stands⟩ := by simpa using aLine
        exact ⟨_, .line isLine isLong, Text.contains_iff_infix.mp stands⟩
  · rintro ⟨quote, isQuote, stands⟩
    have someText : squeeze code.toList ≠ [] := fun none =>
      isQuote.ne_nil (List.infix_nil.mp (none ▸ stands))
    cases isQuote with
    | whole nonempty =>
      rw [if_neg (by simp [nonempty, someText]), Text.contains_iff_infix.mpr stands, Bool.true_or]
    | @line line isLine isLong =>
      -- The whole snippet has a line that is not blank, so it is not blank either.
      have nonempty : squeeze snippet.toList ≠ [] := by
        have within := Text.squeeze_infix ((Text.lines_stand snippet.toList).2 line isLine)
        exact fun none => IsQuote.ne_nil (.line isLine isLong) (List.infix_nil.mp (none ▸ within))
      have isFound := Text.contains_iff_infix.mpr stands
      rw [if_neg (by simp [nonempty, someText]), Bool.or_eq_true_iff]
      exact .inr (List.any_eq_true.mpr ⟨line, isLine, by simp [isLong, isFound]⟩)

/-! ### The code of all modules -/

/-- The texts of the modules; what is no text is left out. -/
def moduleTexts (disassembly : Members) : List (List Char) :=
  disassembly.filterMap fun (_, code) => code.text?.map String.toList

theorem toList_allCode (disassembly : Members) :
    (allCode disassembly).toList = ['\n'].intercalate (moduleTexts disassembly) := by
  unfold allCode moduleTexts Text.unlines
  rw [String.toList_intercalate, List.map_filterMap]
  rfl

theorem mem_moduleTexts {disassembly : Members} {name code : String}
    (isModule : (name, .string code) ∈ disassembly) : code.toList ∈ moduleTexts disassembly :=
  List.mem_filterMap.mpr ⟨(name, .string code), isModule, rfl⟩

/-- A quote stands in the code of a module. -/
def StandsInModule (disassembly : Members) (quote : List Char) : Prop :=
  ∃ text ∈ moduleTexts disassembly, quote <:+: squeeze text

/-- A quote begins at the end of a module and goes on, after a space, at the beginning of a later
one; modules without code do not count. -/
def StandsAcrossModules (disassembly : Members) (quote : List Char) : Prop :=
  Text.Straddles ' ' quote (Text.squeezedTexts (moduleTexts disassembly))

theorem isInCode_allCode_iff {snippet : String} {disassembly : Members} :
    isInCode snippet (allCode disassembly) = true ↔
      ∃ quote, IsQuote snippet quote ∧
        (StandsInModule disassembly quote ∨ StandsAcrossModules disassembly quote) := by
  rw [isInCode_iff, toList_allCode]
  refine exists_congr fun quote => and_congr_right fun isQuote => ?_
  exact Text.infix_squeeze_intercalate_iff isQuote.ne_nil _

/-! ### Literal quotes -/

theorem snippetCheck_string {quote : String} (nonempty : Text.trimmed quote ≠ "") :
    Finding.snippetCheck (.string quote) = .ok (Text.trimmed quote) := by
  have isOwn : spelled (.string quote) = quote := by
    unfold spelled
    split
    · rfl
    · next notFull =>
      have empty : quote = "" := by simpa [Value.isFull] using notFull
      exact empty.symm
  unfold Finding.snippetCheck
  rw [isOwn]
  simp [nonempty]

/-- The fields of a finding that stand before its evidence. -/
def fieldsBeforeSnippet : Fields (String → Bool → Finding) :=
  Finding.mk <$> required "function_name" text <*> required "technical_reason" text
    <*> required "matched_pattern_id" Finding.patternIdCheck <*> required "severity" Severity.check
    <*> optional "contextual_notes" [] Finding.notesCheck

theorem check_eq_record : Finding.check = record "TechnicalFinding"
    (fieldsBeforeSnippet <*> optional "evidence_code_snippet" noEvidence Finding.snippetCheck
      <*> optional "evidence_verified" false truth) := rfl

/-- What a finding quotes may be replaced by anything else that is not blank; nothing else of it
changes. -/
theorem check_put_snippet {members : Members} {finding : Finding}
    (fits : Finding.check (.object members) = .ok finding) {quote : String}
    (nonempty : Text.trimmed quote ≠ "") :
    Finding.check (.object (Entries.put members "evidence_code_snippet" (.string quote))) =
      .ok { finding with snippet := Text.trimmed quote } := by
  have passes : fieldsBeforeSnippet.PassesOver "evidence_code_snippet" :=
    .seq (.seq (.seq (.seq (.map _ (.required (by decide) _)) (.required (by decide) _))
      (.required (by decide) _)) (.required (by decide) _)) (.optional (by decide) _ _)
  have gives : fieldsBeforeSnippet.Gives fun others => ∀ old new isVerified,
      others new isVerified = { others old isVerified with snippet := new } :=
    .seq <| .seq <| .seq <| .seq <| .map fun _ _ _ _ _ _ _ _ _ _ => rfl
  rw [check_eq_record] at fits ⊢
  obtain ⟨_, same, found⟩ := record_eq_ok_iff.mp fits
  cases same
  obtain ⟨withSnippet, isVerified, before, verdict, rfl⟩ := seq_eq_ok_iff.mp found
  obtain ⟨others, snippet, first, -, rfl⟩ := seq_eq_ok_iff.mp before
  rw [← gives members others first]
  refine record_eq_ok_iff.mpr ⟨_, rfl, seq_eq_ok_iff.mpr ⟨_, isVerified, ?_, ?_, rfl⟩⟩
  · refine seq_eq_ok_iff.mpr ⟨others, Text.trimmed quote, passes _ _ _ first, ?_, rfl⟩
    rw [optional_eq_ok_iff, Entries.get?_put_self]
    exact snippetCheck_string nonempty
  · exact Fields.PassesOver.optional (by decide) _ _ _ _ _ verdict

section Excerpt

variable {disassembly : Members} {name code : String} {excerpt : List Char} {quote : String}
  (isModule : (name, .string code) ∈ disassembly) (isExcerpt : excerpt <:+: code.toList)
  (notBlank : ∃ c ∈ excerpt, Text.isBlank c = false) (isRespaced : IsRespaced excerpt quote.toList)
include notBlank isRespaced

theorem squeeze_trimmed_of_respaced :
    squeeze (Text.trimmed quote).toList = squeeze excerpt ∧
      squeeze (Text.trimmed quote).toList ≠ [] := by
  obtain ⟨c, member, notBlank⟩ := notBlank
  unfold Text.trimmed
  rw [String.toList_ofList, Text.squeeze_trim, isRespaced.squeeze_eq]
  exact ⟨rfl, Text.squeeze_ne_nil_of_mem notBlank member⟩

include isModule isExcerpt

theorem isInCode_of_respaced : isInCode (Text.trimmed quote) (allCode disassembly) = true := by
  obtain ⟨same, nonempty⟩ := squeeze_trimmed_of_respaced notBlank isRespaced
  have stands : StandsInModule disassembly (squeeze (Text.trimmed quote).toList) := by
    rw [same]
    exact ⟨code.toList, mem_moduleTexts isModule, Text.squeeze_infix isExcerpt⟩
  exact isInCode_allCode_iff.mpr ⟨_, .whole nonempty, .inl stands⟩

end Excerpt

/-- A finding that quotes an excerpt of the code of a module, however the blanks in it are laid out,
is accepted with that quote, and its evidence is verified wherever it is reported. -/
theorem excerpt_verified {package : Package} {name code : String}
    (isModule : (name, .string code) ∈ package.disassembly) {excerpt : List Char}
    (isExcerpt : excerpt <:+: code.toList) (notBlank : ∃ c ∈ excerpt, Text.isBlank c = false)
    {quote : String} (isRespaced : IsRespaced excerpt quote.toList)
    (saysSomething : Text.trimmed quote ≠ noEvidence) {members : Members} {finding : Finding}
    (fits : Finding.check (.object members) = .ok finding) :
    Finding.check (.object (Entries.put members "evidence_code_snippet" (.string quote))) =
        .ok { finding with snippet := Text.trimmed quote } ∧
      ∀ base before after,
        ((reviewed base package
          (before ++ { finding with snippet := Text.trimmed quote } :: after))[before.length]?).map
            (·.isVerified) = some true := by
  have nonempty : Text.trimmed quote ≠ "" := by
    intro empty
    obtain ⟨-, nonempty⟩ := squeeze_trimmed_of_respaced notBlank isRespaced
    rw [empty] at nonempty
    exact nonempty rfl
  refine ⟨check_put_snippet fits nonempty, fun base before after => ?_⟩
  obtain ⟨functions, each⟩ := exists_reviewed_eq_map base package
  rw [each, List.getElem?_map, List.getElem?_append_right (Nat.le_refl _), Nat.sub_self,
    List.getElem?_cons_zero, Option.map_some, Option.map_some, isVerified_reviewOne]
  have isFound := isInCode_of_respaced isModule isExcerpt notBlank isRespaced
  simp [isProven, Finding.hasEvidence, saysSomething, isFound]

/-- A package whose only module lays out its code with a tab and over two lines. -/
def laidOut : Package :=
  ⟨[], [], [("vault", .string "call\tdrain\n  ret;")]⟩

/-- A finding on it, without evidence. -/
def drainReported : Members :=
  [("function_name", .string "drain"), ("technical_reason", .string "r"),
    ("matched_pattern_id", .string "halt"), ("severity", .string "High")]

def drainFinding : Finding :=
  ⟨"drain", "r", "HALT", .high, [], noEvidence, false⟩

/-- An excerpt of the code, with one space for the tab and one for the line end. -/
theorem drain_excerpt_verified :
    Finding.check (.object
        (Entries.put drainReported "evidence_code_snippet" (.string " drain ret"))) =
        .ok { drainFinding with snippet := Text.trimmed " drain ret" } ∧
      ∀ base before after,
        ((reviewed base laidOut
          (before ++ { drainFinding with snippet := Text.trimmed " drain ret" } :: after))[
            before.length]?).map (·.isVerified) = some true := by
  have isModule : ("vault", .string "call\tdrain\n  ret;") ∈ laidOut.disassembly :=
    List.mem_singleton.mpr rfl
  have isExcerpt : "\tdrain\n  ret".toList <:+: "call\tdrain\n  ret;".toList :=
    ⟨"call".toList, ";".toList, rfl⟩
  have blank {gap : List Char} (all : gap.all Text.isBlank = true) :
      ∀ c ∈ gap, Text.isBlank c = true :=
    List.all_eq_true.mp all
  have isRespaced : IsRespaced "\tdrain\n  ret".toList " drain ret".toList :=
    @IsRespaced.gap ['\t'] [' '] _ _ nofun nofun (blank rfl) (blank rfl) <|
      .kept rfl <| .kept rfl <| .kept rfl <| .kept rfl <| .kept rfl <|
      @IsRespaced.gap ['\n', ' ', ' '] [' '] _ _ nofun nofun (blank rfl) (blank rfl) <|
      .refl "ret".toList
  have fits : Finding.check (.object drainReported) = .ok drainFinding := rfl
  exact excerpt_verified isModule isExcerpt ⟨'d', by decide, rfl⟩ isRespaced (by decide) fits

/-! ### Verified evidence -/

/-- The evidence of a finding is verified exactly if a quote of it stands in a module or goes from
one module to another. So it is real if no two modules have code. -/
theorem verified_iff_stands (base : KnowledgeBase) (package : Package) (findings : List Finding) :
    List.Forall₂ (fun before after => after.isVerified = true ↔
        before.hasEvidence = true ∧ ∃ quote, IsQuote before.snippet quote ∧
          (StandsInModule package.disassembly quote ∨
            StandsAcrossModules package.disassembly quote))
        findings (reviewed base package findings) ∧
      ((Text.squeezedTexts (moduleTexts package.disassembly)).length ≤ 1 →
        List.Forall₂ (fun before after => after.isVerified = true →
          ∃ quote, IsQuote before.snippet quote ∧ StandsInModule package.disassembly quote)
          findings (reviewed base package findings)) := by
  obtain ⟨functions, each⟩ := exists_reviewed_eq_map base package
  have verified (finding : Finding) :
      (reviewOne base functions (allCode package.disassembly) finding).finding.isVerified = true ↔
        finding.hasEvidence = true ∧ ∃ quote, IsQuote finding.snippet quote ∧
          (StandsInModule package.disassembly quote ∨
            StandsAcrossModules package.disassembly quote) := by
    rw [isVerified_reviewOne, isProven, Bool.and_eq_true, isInCode_allCode_iff]
  rw [each, List.forall₂_map_right_iff, List.forall₂_same, List.forall₂_map_right_iff,
    List.forall₂_same]
  refine ⟨fun finding _ => verified finding, fun single finding _ isVerified => ?_⟩
  obtain ⟨-, quote, isQuote, within | across⟩ := (verified finding).mp isVerified
  · exact ⟨quote, isQuote, within⟩
  · exact absurd across.one_lt_length (Nat.not_lt_of_le single)

/-- A package of which no module has the words `drain without` next to each other. -/
def drainPackage : Package :=
  ⟨[⟨"vault", "drain", [], false, 0⟩], [],
    [("vault", .string "call drain"), ("vesting", .string "without cap")]⟩

/-- A finding that quotes them all the same. -/
def fabricated : Finding :=
  ⟨"drain", "r", "CRITICAL-01", .critical, [], "drain without", false⟩

/-- Its evidence is verified, although it stands in no module. -/
theorem fabricated_is_verified :
    reviewed .bundled drainPackage [fabricated] = [{ fabricated with isVerified := true }] ∧
      ¬ ∃ quote, IsQuote fabricated.snippet quote ∧
        StandsInModule drainPackage.disassembly quote := by
  refine ⟨by decide +kernel, ?_⟩
  rintro ⟨quote, isQuote, text, isText, stands⟩
  have isSnippet : quote = "drain without".toList := by
    cases isQuote with
    | whole nonempty => rfl
    | line isLine isLong =>
      have isOnly : Text.lines "drain without".toList = ["drain without".toList] := rfl
      rw [show fabricated.snippet = "drain without" from rfl, isOnly] at isLine
      rw [List.mem_singleton.mp isLine]
      rfl
  have isCode : text ∈ ["call drain".toList, "without cap".toList] := isText
  have notThere : ∀ text ∈ ["call drain".toList, "without cap".toList],
      Text.contains "drain without".toList (squeeze text) = false := by
    decide
  rw [isSnippet, ← Text.contains_iff_infix, notThere text isCode] at stands
  cases stands

end MoveAudit.Evidence
