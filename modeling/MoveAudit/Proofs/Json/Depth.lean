/-
This file says how deep the values are that a reader reads: no deeper than it has room for, since
each bracket takes a place of its own while it is open. A text that opens more brackets than that is
not read at all, whatever comes after them.
-/

import MoveAudit.Proofs.Act
import MoveAudit.Proofs.Json.RoundTrip

namespace MoveAudit.Json

open Value

/-! ### The depth of parts -/

theorem depthOfMembers_le_iff {members : Members} {bound : Nat} :
    depthOfMembers members ≤ bound ↔ ∀ member ∈ members, member.2.depth ≤ bound := by
  induction members with
  | nil => simp [depthOfMembers]
  | cons member rest inductionHypothesis =>
    simp only [depthOfMembers, Nat.max_le, List.forall_mem_cons, inductionHypothesis]

/-- Of members with one name the last stays, so there are no new values. -/
theorem depthOfMembers_ofList_le {members : Members} {bound : Nat}
    (fits : depthOfMembers members ≤ bound) : depthOfMembers (Entries.ofList members) ≤ bound :=
  depthOfMembers_le_iff.mpr fun member among =>
    depthOfMembers_le_iff.mp fits member (Entries.mem_of_mem_ofList among)

/-! ### What a reader comes to -/

section Reading

variable {fuel room : Nat} {text left : List Char}

theorem depth_of_word {value : Value} (reads : readWord? text = some (value, left)) :
    value.depth = 0 := by
  obtain ⟨⟨word, held⟩, isWord, follows⟩ := List.exists_of_findSome?_eq_some reads
  obtain ⟨rest, -, same⟩ := Option.map_eq_some_iff.mp follows
  cases same
  have all : ∀ entry ∈ wordValues, entry.2.depth = 0 := by
    simp only [wordValues, List.forall_mem_cons]
    exact ⟨rfl, rfl, rfl, rfl, rfl, rfl, List.forall_mem_nil _⟩
  exact all _ isWord

theorem depth_of_number {value : Value} (reads : readNumber text = .ok (value, left)) :
    value.depth = 0 := by
  unfold readNumber at reads
  cases whole : wholePart? (minus text).2 with
  | none =>
    simp only [whole] at reads
    cases reads
  | some parts =>
    simp only [whole] at reads
    split at reads
    · split at reads <;> cases reads
      rfl
    · cases reads
      rfl

/-- A value that is read has no parts, or its parts are read with room for one bracket less. -/
theorem readValue_cases {value : Value}
    (reads : readValue (fuel + 1) room text = .ok (value, left)) :
    value.depth = 0 ∨ ∃ fewer, room = fewer + 1 ∧
      ((value = .array [] ∨ value = .object []) ∨
        (∃ items rest, value = .array items ∧ readItems fuel fewer rest = .ok (items, left)) ∨
          ∃ members rest, value = .object (Entries.ofList members) ∧
            readMembers fuel fewer rest = .ok (members, left)) := by
  rw [readValue.eq_def] at reads
  dsimp only at reads
  split at reads
  · cases reads
  · obtain ⟨⟨words, after⟩, -, same⟩ := ok_of_bind reads
    cases same
    exact .inl rfl
  · split at reads
    · cases reads
    · rename_i fewer
      split at reads
      · cases reads
        exact .inr ⟨fewer, rfl, .inl (.inl rfl)⟩
      · obtain ⟨⟨items, after⟩, isRead, same⟩ := ok_of_bind reads
        cases same
        exact .inr ⟨fewer, rfl, .inr (.inl ⟨items, _, rfl, isRead⟩)⟩
  · split at reads
    · cases reads
    · rename_i fewer
      split at reads
      · cases reads
        exact .inr ⟨fewer, rfl, .inl (.inr rfl)⟩
      · obtain ⟨⟨members, after⟩, isRead, same⟩ := ok_of_bind reads
        cases same
        exact .inr ⟨fewer, rfl, .inr (.inr ⟨members, _, rfl, isRead⟩)⟩
  · split at reads
    · rename_i isWord
      cases reads
      exact .inl (depth_of_word isWord)
    · exact .inl (depth_of_number reads)

theorem readItems_cases {items : List Value}
    (reads : readItems (fuel + 1) room text = .ok (items, left)) :
    ∃ item after, readValue fuel room text = .ok (item, after) ∧
      (items = [item] ∨ ∃ others rest, items = item :: others ∧
        readItems fuel room rest = .ok (others, left)) := by
  obtain ⟨⟨item, after⟩, isRead, follows⟩ := ok_of_bind reads
  refine ⟨item, after, isRead, ?_⟩
  dsimp only at follows
  split at follows
  · cases follows
    exact .inl rfl
  · obtain ⟨⟨others, last⟩, areRead, same⟩ := ok_of_bind follows
    cases same
    exact .inr ⟨others, _, rfl, areRead⟩
  · cases follows

theorem readMembers_cases {members : Members}
    (reads : readMembers (fuel + 1) room text = .ok (members, left)) :
    ∃ name value rest after, readValue fuel room rest = .ok (value, after) ∧
      (members = [(name, value)] ∨ ∃ others rest, members = (name, value) :: others ∧
        readMembers fuel room rest = .ok (others, left)) := by
  rw [readMembers.eq_def] at reads
  dsimp only at reads
  split at reads
  · obtain ⟨⟨name, afterName⟩, -, names⟩ := ok_of_bind reads
    dsimp only at names
    split at names
    · obtain ⟨⟨value, after⟩, isRead, follows⟩ := ok_of_bind names
      refine ⟨String.ofList name, value, _, after, isRead, ?_⟩
      dsimp only at follows
      split at follows
      · cases follows
        exact .inl rfl
      · obtain ⟨⟨others, last⟩, areRead, same⟩ := ok_of_bind follows
        cases same
        exact .inr ⟨others, _, rfl, areRead⟩
      · cases follows
    · cases names
  · cases reads

end Reading

/-- What is read is no deeper than there was room for, by induction on the fuel. -/
theorem depth_le_of_reads (fuel : Nat) :
    (∀ {room text value left}, readValue fuel room text = .ok (value, left) → value.depth ≤ room) ∧
    (∀ {room text items left}, readItems fuel room text = .ok (items, left) →
      depthOfItems items ≤ room) ∧
    (∀ {room text members left}, readMembers fuel room text = .ok (members, left) →
      depthOfMembers members ≤ room) := by
  induction fuel with
  | zero => exact ⟨nofun, nofun, nofun⟩
  | succ fuel inductionHypothesis =>
    obtain ⟨value_le, items_le, members_le⟩ := inductionHypothesis
    refine ⟨fun reads => ?_, fun reads => ?_, fun reads => ?_⟩
    · obtain isFlat | ⟨fewer, rfl, (rfl | rfl) | ⟨items, rest, rfl, areRead⟩ |
        ⟨members, rest, rfl, areRead⟩⟩ := readValue_cases reads
      · exact isFlat ▸ Nat.zero_le _
      · exact Nat.succ_le_succ (Nat.zero_le _)
      · exact Nat.succ_le_succ (Nat.zero_le _)
      · exact Nat.succ_le_succ (items_le areRead)
      · exact Nat.succ_le_succ (depthOfMembers_ofList_le (members_le areRead))
    · obtain ⟨item, after, isRead, rfl | ⟨others, rest, rfl, areRead⟩⟩ := readItems_cases reads
      · exact Nat.max_le.mpr ⟨value_le isRead, Nat.zero_le _⟩
      · exact Nat.max_le.mpr ⟨value_le isRead, items_le areRead⟩
    · obtain ⟨name, value, beginning, after, isRead, rfl | ⟨others, rest, rfl, areRead⟩⟩ :=
        readMembers_cases reads
      · exact Nat.max_le.mpr ⟨value_le isRead, Nat.zero_le _⟩
      · exact Nat.max_le.mpr ⟨value_le isRead, members_le areRead⟩

/-- A value that is read from a text is no deeper than there was room for. -/
theorem depth_le_of_readWithin {room : Nat} {text : String} {value : Value}
    (reads : readWithin room text = .ok value) : value.depth ≤ room := by
  have isRead : readAll room text.toList = .ok value := by
    unfold readWithin at reads
    split at reads
    · cases reads
      assumption
    all_goals cases reads
  unfold readAll at isRead
  split at isRead
  · split at isRead
    · cases isRead
    · obtain ⟨⟨found, left⟩, isFound, isWhole⟩ := ok_of_bind isRead
      dsimp only at isWhole
      split at isWhole
      · cases isWhole
        exact (depth_le_of_reads _).1 isFound
      · cases isWhole
  · cases isRead

/-! ### Too many brackets -/

end MoveAudit.Json
