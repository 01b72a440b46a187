/-
This file takes texts apart at a mark. What lies between the marks makes up the text again with the
marks written in between. It counts how often a mark stands in a text whose first character of the
mark stands nowhere else: such texts are put together of parts without that character, and the
counts of two of them add up when one is written behind the other.
-/

import MoveAudit.Proofs.Text.Search
import MoveAudit.Proofs.Text.Squeeze

namespace MoveAudit.Text

theorem pieces_ne_nil (mark text : List Char) : pieces mark text ≠ [] := by
  unfold pieces
  split
  · exact List.cons_ne_nil _ _
  · split <;> exact List.cons_ne_nil _ _

/-- A text is put together again from its pieces. -/
theorem intercalate_pieces (mark text : List Char) :
    mark.intercalate (pieces mark text) = text := by
  induction text using pieces.induct mark with
  | case1 text isEmpty =>
    rw [pieces, dif_pos isEmpty, List.intercalate_singleton]
  | case2 text nonempty absent =>
    rw [pieces, dif_neg nonempty]
    split
    · exact List.intercalate_singleton
    · next found => cases absent.symm.trans found
  | case3 text nonempty before rest found inductionHypothesis =>
    rw [pieces, dif_neg nonempty]
    split
    · next absent => cases absent.symm.trans found
    · next foundBefore foundRest foundToo =>
      cases found.symm.trans foundToo
      obtain ⟨piece, more, isPieces⟩ := List.exists_cons_of_ne_nil (pieces_ne_nil mark rest)
      rw [isPieces] at inductionHypothesis ⊢
      rw [List.intercalate_cons_cons, inductionHypothesis, eq_of_cut? found]

/-- A string is put together again from its pieces. -/
theorem intercalate_split (mark text : String) : mark.intercalate (split mark text) = text := by
  rw [String.ext_iff, String.toList_intercalate, split, List.map_map]
  have same : String.toList ∘ String.ofList = id := funext fun _ => String.toList_ofList
  rw [same, List.map_id, intercalate_pieces]

section Marks

variable {first : Char} {mark : List Char}

theorem cut?_eq_none_of_notMem {text : List Char} (absent : first ∉ text) :
    cut? (first :: mark) text = none := by
  cases found : cut? (first :: mark) text with
  | none => rfl
  | some parts => exact absurd ((infix_of_cut? found).subset List.mem_cons_self) absent

/-- Texts without a mark's first character that are put together with the mark are its pieces. -/
theorem pieces_intercalate {parts : List (List Char)} (nonempty : parts ≠ [])
    (absent : ∀ part ∈ parts, first ∉ part) :
    pieces (first :: mark) ((first :: mark).intercalate parts) = parts := by
  induction parts with
  | nil => exact absurd rfl nonempty
  | cons part rest inductionHypothesis =>
    obtain ⟨here, others⟩ := List.forall_mem_cons.mp absent
    unfold pieces
    rw [dif_neg (List.cons_ne_nil _ _)]
    cases rest with
    | nil =>
      rw [List.intercalate_singleton]
      split
      · rfl
      · next found =>
        rw [cut?_eq_none_of_notMem here] at found
        cases found
    | cons next rest =>
      rw [List.intercalate_cons_cons, List.append_assoc]
      split
      · next found =>
        rw [cut?_of_notMem mark _ here] at found
        cases found
      · next before after found =>
        rw [cut?_of_notMem mark _ here] at found
        cases found
        rw [inductionHypothesis (List.cons_ne_nil _ _) others]

/-- A text has a mark so many times, and the first character of the mark nowhere else. -/
def HasMarks (first : Char) (mark text : List Char) (times : Nat) : Prop :=
  ∃ parts : List (List Char), parts.length = times + 1 ∧ (∀ part ∈ parts, first ∉ part) ∧
    text = (first :: mark).intercalate parts

namespace HasMarks

theorem none {text : List Char} (absent : first ∉ text) : HasMarks first mark text 0 :=
  ⟨[text], rfl, List.forall_mem_singleton.mpr absent, List.intercalate_singleton.symm⟩

theorem one : HasMarks first mark (first :: mark) 1 := by
  refine ⟨[[], []], rfl, by simp, ?_⟩
  rw [List.intercalate_cons_cons, List.intercalate_singleton, List.nil_append, List.append_nil]

theorem append {before after : List Char} {times timesToo : Nat}
    (marked : HasMarks first mark before times) (markedToo : HasMarks first mark after timesToo) :
    HasMarks first mark (before ++ after) (times + timesToo) := by
  obtain ⟨parts, length, absent, rfl⟩ := marked
  obtain ⟨others, lengthToo, absentToo, rfl⟩ := markedToo
  obtain ⟨earlier, start, rfl⟩ := (List.eq_nil_or_concat' parts).resolve_left
    (List.ne_nil_of_length_eq_add_one length)
  obtain ⟨stop, later, rfl⟩ := List.exists_cons_of_length_eq_add_one lengthToo
  rw [List.forall_mem_append, List.forall_mem_singleton] at absent
  rw [List.forall_mem_cons] at absentToo
  refine ⟨earlier ++ (start ++ stop) :: later, ?_, ?_, (intercalate_merge ..).symm⟩
  · simp only [List.length_append, List.length_cons, List.length_nil] at length lengthToo ⊢
    omega
  · refine List.forall_mem_append.mpr ⟨absent.1, List.forall_mem_cons.mpr ⟨?_, absentToo.2⟩⟩
    exact List.mem_append.not.mpr (not_or.mpr ⟨absent.2, absentToo.1⟩)

/-- It is counted so many times. -/
theorem count_eq {text : List Char} {times : Nat} (marked : HasMarks first mark text times) :
    count (first :: mark) text = times := by
  obtain ⟨parts, length, absent, rfl⟩ := marked
  rw [count, pieces_intercalate (List.ne_nil_of_length_eq_add_one length) absent, length,
    Nat.add_sub_cancel]

end HasMarks

end Marks

end MoveAudit.Text
