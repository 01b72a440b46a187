/-
This file says what holds of every knowledge base that is read from a document. Its identifiers are
kept in capital letters and without blanks around them, which is how names are looked up, so the
identifier of a pattern always stands for that pattern.
-/

import MoveAudit.Proofs.Knowledge.Lookup
import MoveAudit.Proofs.Record.Fitting
import MoveAudit.Proofs.Text.Capital

namespace MoveAudit

open Json Record

/-- A pattern is looked up under its identifier as it is. -/
def RiskPattern.HasPlainId (pattern : RiskPattern) : Prop :=
  Text.raised (Text.trimmed pattern.id) = pattern.id

/-- The identifier of a pattern is plain whatever stands in the other fields. -/
theorem RiskPattern.hasPlainId_of_fieldsCheck {value : Value} {unsettled : Unsettled}
    (fits : fieldsCheck value = .ok unsettled) : unsettled.2.HasPlainId := by
  refine Fields.Gives.of_record fits (fun unsettled => unsettled.2.HasPlainId) ?_
  refine .seq <| .seq <| .seq <| .seq <| .seq <| .seq <| .seq <| .seq <| .seq <| .map <| .required ?_
  intro value id isId name severity range points description indicators aliases modifiers isPausing
  rw [← Checked.ok.inj isId]
  exact Text.raised_trimmed_again value.shown

theorem RiskPattern.hasPlainId_of_check {value : Value} {pattern : RiskPattern}
    (fits : check value = .ok pattern) : pattern.HasPlainId := by
  unfold check at fits
  obtain ⟨⟨given, read⟩, fields, settled⟩ := Checked.andThen_eq_ok_iff.mp fits
  obtain ⟨points, -, rfl⟩ := Checked.map_eq_ok_iff.mp settled
  have plain := hasPlainId_of_fieldsCheck fields
  exact plain

namespace KnowledgeBase

/-- The patterns of a knowledge base are those of its document. -/
theorem list_check_of_ofDocument {document : Value} {base : KnowledgeBase}
    (accepted : ofDocument document = .ok base) :
    list RiskPattern.check (document.part "patterns") = .ok base.patterns := by
  obtain ⟨checked, -⟩ := ofDocument_eq_ok_iff.mp accepted
  obtain ⟨members, rfl, found⟩ := record_eq_ok_iff.mp checked
  obtain ⟨_, scoring, rest, -, rfl⟩ := seq_eq_ok_iff.mp found
  obtain ⟨_, patterns, first, listed, rfl⟩ := seq_eq_ok_iff.mp rest
  obtain ⟨version, -, rfl⟩ := map_fields_eq_ok_iff.mp first
  exact check_part_of_required listed

theorem hasPlainId_of_ofDocument {document : Value} {base : KnowledgeBase}
    (accepted : ofDocument document = .ok base) {pattern : RiskPattern}
    (member : pattern ∈ base.patterns) : pattern.HasPlainId := by
  obtain ⟨item, -, fits⟩ := exists_of_mem_list (list_check_of_ofDocument accepted) member
  exact RiskPattern.hasPlainId_of_check fits

/-- A pattern that is found under any name is found under its identifier. -/
theorem get?_id_of_found {base : KnowledgeBase} (distinct : base.HasDistinctIds)
    (plain : ∀ pattern ∈ base.patterns, pattern.HasPlainId) {name : String} {pattern : RiskPattern}
    (found : base.get? name = some pattern) : base.get? pattern.id = some pattern := by
  have member := mem_of_get?_eq_some found
  exact (get?_eq_some_iff distinct).mpr (.byId member (plain pattern member).symm)

end KnowledgeBase

end MoveAudit
