/-
This file follows one entry through a journal: from the moment it is saved, over the end that is
written into it. The identifier of an entry never changes, so whatever is written under an
identifier reaches every entry of it, on either shelf. A shelf in memory may drop entries, but as
long as it holds no more than it may, the entry just saved is not among them.
-/

import MoveAudit.Journal.Book

namespace MoveAudit.Journal

open Json

/-- Whatever the journal holds under an identifier has a status. -/
def Says (journal : Journal) (id status : String) : Prop :=
  ∀ entry ∈ journal.entries, entry.id = id → entry.status = .string status

/-- The journal holds something under an identifier. -/
def Knows (journal : Journal) (id : String) : Prop :=
  ∃ entry ∈ journal.entries, entry.id = id

/-- The journal holds no more than it may, and there is a place for an entry at all. -/
def HasRoom (journal : Journal) : Prop :=
  match journal.shelf with
  | .memory limit => 0 < limit ∧ journal.entries.length ≤ limit
  | .table => True

/-! ### Writing into entries -/

theorem Entry.foldl_after_id (changes : List Change) (entry : Entry) :
    (changes.foldl Entry.after entry).id = entry.id := by
  induction changes generalizing entry with
  | nil => rfl
  | cons change rest inductionHypothesis =>
    rw [List.foldl_cons, inductionHypothesis]
    cases change <;> rfl

/-- What a table makes of a change that is none of the status is none of the status either. -/
theorem Entry.status_after_inTable (entry : Entry) {change : Change}
    (isOther : ∀ value, change ≠ .status value) :
    (entry.after change.inTable).status = entry.status := by
  cases change with
  | status value => exact absurd rfl (isOther value)
  | latency value => cases value <;> rfl
  | retries value => cases value <;> rfl
  | _ => rfl

theorem Entry.inTable_status (entry : Entry) : entry.inTable.status = entry.status := by
  unfold Entry.inTable
  simp only [List.map_cons, List.map_nil, List.foldl_cons, List.foldl_nil]
  rw [status_after_inTable, status_after_inTable, status_after_inTable, status_after_inTable]
  all_goals exact nofun

theorem Entry.inTable_id (entry : Entry) : entry.inTable.id = entry.id :=
  Entry.foldl_after_id _ _

/-- What is put in the place of every entry of an identifier is all that is found under it. -/
theorem status_of_replaced {entries : List Entry} {id status : String} {next : Entry → Entry}
    (written : ∀ entry, (next entry).status = .string status) :
    ∀ entry ∈ entries.map fun old => if old.id == id then next old else old,
      entry.id = id → entry.status = .string status := by
  intro entry member named
  obtain ⟨old, _, rfl⟩ := List.mem_map.mp member
  split
  · exact written old
  · rename_i differs
    rw [if_neg differs] at named
    exact absurd (beq_iff_eq.mpr named) differs

theorem exists_mem_changed {entries : List Entry} {id other : String} {changes : List Change}
    (known : ∃ entry ∈ entries, entry.id = other) :
    ∃ entry ∈ changed entries id changes, entry.id = other := by
  obtain ⟨entry, member, named⟩ := known
  refine ⟨_, List.mem_map_of_mem member, ?_⟩
  split
  · exact (Entry.foldl_after_id changes entry).trans named
  · exact named

/-- The end of a call is found in whatever is kept under its identifier. -/
theorem says_update_ending (journal : Journal) (id : String) (response : Value) (error : Complaint)
    (latency retries success : Value) :
    (journal.update id (ending response error latency retries success)).2.Says id
      (if success.isFull then "completed" else "failed") := by
  unfold update
  split
  · exact status_of_replaced fun _ => rfl
  · refine status_of_replaced fun entry => ?_
    cases retries <;> rfl

theorem Knows.update {journal : Journal} {id : String} (known : journal.Knows id) (other : String)
    (changes : List Change) : (journal.update other changes).2.Knows id := by
  unfold Journal.update
  split
  · exact exists_mem_changed known
  · exact exists_mem_changed known

theorem HasRoom.update {journal : Journal} (room : journal.HasRoom) (id : String)
    (changes : List Change) : (journal.update id changes).2.HasRoom := by
  unfold HasRoom at room ⊢
  unfold Journal.update
  cases shelf : journal.shelf with
  | memory limit =>
    rw [shelf] at room
    simp only [changed, List.length_map]
    exact room
  | table => trivial

/-! ### Saving an entry -/

theorem says_save {entry : Entry} {status : String} (isSo : entry.status = .string status)
    (journal : Journal) : (journal.save entry).Says entry.id status := by
  intro kept member named
  unfold save at member
  split at member
  · have isAmong := List.mem_of_mem_drop member
    split at isAmong
    · exact status_of_replaced (fun _ => isSo) kept isAmong named
    · rename_i isNew
      rcases List.mem_append.mp isAmong with old | isLast
      · refine absurd (List.any_eq_true.mpr ⟨kept, old, ?_⟩) isNew
        exact beq_iff_eq.mpr named
      · rw [List.mem_singleton.mp isLast]
        exact isSo
  · rcases List.mem_append.mp member with old | isLast
    · exact absurd named (bne_iff_ne.mp (List.mem_filter.mp old).2)
    · rw [List.mem_singleton.mp isLast, Entry.inTable_status, isSo]

/-- What a full shelf drops does not reach the entry that was saved last. -/
theorem HasRoom.knows_save {journal : Journal} (room : journal.HasRoom) (entry : Entry) :
    (journal.save entry).Knows entry.id := by
  unfold HasRoom at room
  unfold Knows save
  split at room
  · rename_i limit shelf
    obtain ⟨positive, within⟩ := room
    rw [shelf]
    dsimp only
    split
    · rename_i isOld
      obtain ⟨old, member, named⟩ := List.any_eq_true.mp isOld
      refine ⟨entry, ?_, rfl⟩
      rw [List.length_map, Nat.sub_eq_zero_of_le within]
      refine List.mem_map.mpr ⟨old, member, ?_⟩
      rw [if_pos named]
    · refine ⟨entry, ?_, rfl⟩
      have few : (journal.entries ++ [entry]).length - limit ≤ journal.entries.length := by
        rw [List.length_append, List.length_singleton]
        omega
      rw [List.drop_append_of_le_length few]
      exact List.mem_append_right _ (List.mem_singleton_self entry)
  · rename_i shelf
    rw [shelf]
    exact ⟨entry.inTable, List.mem_append_right _ (List.mem_singleton_self _),
      entry.inTable_id⟩

theorem HasRoom.save {journal : Journal} (room : journal.HasRoom) (entry : Entry) :
    (journal.save entry).HasRoom := by
  unfold HasRoom at room ⊢
  unfold Journal.save
  cases shelf : journal.shelf with
  | memory limit =>
    rw [shelf] at room
    simp only [List.length_drop]
    exact ⟨room.1, by omega⟩
  | table => trivial

section Ended

variable {entry : Entry} {id : String} {changes : List Change} {entries : List Entry}

theorem changed_of_unknown (isUnknown : ∀ old ∈ entries, old.id ≠ id) (changes : List Change) :
    changed entries id changes = entries := by
  unfold changed
  refine (List.map_congr_left fun old among => ?_).trans (List.map_id entries)
  exact if_neg fun same => isUnknown old among (beq_iff_eq.mp same)

variable {response : Value} {error : Complaint} {latency : Double} {retries : Int} {success : Bool}

end Ended

end MoveAudit.Journal
