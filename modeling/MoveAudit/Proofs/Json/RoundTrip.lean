/-
This file shows that the reader gives back every value from its text. It goes by the parts of a
value: the reader takes each part whole, since what comes after it is a comma or a closing
character. Twice the length of a text is fuel enough for it, because a bracket costs two units and
has a closing character besides.
-/

import MoveAudit.Proofs.Entries
import MoveAudit.Proofs.Json.Plain
import MoveAudit.Proofs.Json.Strings

namespace MoveAudit.Json

open Value

/-! ### Strings -/

theorem length_le_escapes (asciiOnly : Bool) (text : List Char) :
    text.length ≤ (text.flatMap (escapeChar asciiOnly)).length := by
  have filled (c : Char) : 0 < (escapeChar asciiOnly c).length := by
    have form := escapes_escapeChar asciiOnly c
    generalize escapeChar asciiOnly c = written at form
    cases form <;> exact Nat.succ_pos _
  induction text with
  | nil => exact Nat.le_refl 0
  | cons c rest inductionHypothesis =>
    rw [List.flatMap_cons, List.length_append, List.length_cons]
    have := filled c
    omega

variable {asciiOnly : Bool}

theorem inQuotes_append (text : String) (rest : List Char) :
    inQuotes text asciiOnly ++ rest =
      '"' :: (text.toList.flatMap (escapeChar asciiOnly) ++ '"' :: rest) := by
  rw [inQuotes, List.cons_append, List.append_assoc]
  rfl

/-- What stands between quotes is read as it was. -/
theorem readString_inQuotes (text : String) (rest : List Char) :
    readString ('"' :: (text.toList.flatMap (escapeChar asciiOnly) ++ '"' :: rest))
      ((text.toList.flatMap (escapeChar asciiOnly) ++ '"' :: rest).length + 1)
      (text.toList.flatMap (escapeChar asciiOnly) ++ '"' :: rest) = .ok (text.toList, rest) := by
  refine readString_escapes _ _ ?_ rest
  have := length_le_escapes asciiOnly text.toList
  rw [List.length_append]
  omega

/-! ### Values -/

theorem Value.spelling_opens {value : Value} (isProper : value.IsProper) :
    ∃ c rest, value.spelling asciiOnly = c :: rest ∧ IsOpening c := by
  cases value with
  | null => exact isPlain_null.opens
  | bool truth => exact (isPlain_bool truth).opens
  | int whole => exact (isPlain_int isProper).opens
  | float number => exact (isPlain_float isProper).opens
  | string text => exact ⟨_, _, rfl, ⟨by decide, by decide, by decide, by decide⟩⟩
  | array items => exact ⟨_, _, rfl, ⟨by decide, by decide, by decide, by decide⟩⟩
  | object members => exact ⟨_, _, rfl, ⟨by decide, by decide, by decide, by decide⟩⟩

theorem length_spelling_pos {value : Value} (isProper : value.IsProper) :
    0 < (value.spelling asciiOnly).length := by
  obtain ⟨c, rest, starts, _⟩ := spelling_opens isProper
  rw [starts]
  exact Nat.succ_pos _

theorem isClose_spelling {value : Value} (isProper : value.IsProper) (rest : List Char) :
    IsClose (value.spelling asciiOnly ++ rest) := by
  obtain ⟨c, others, starts, opens⟩ := spelling_opens isProper
  rw [starts]
  exact isClose_cons opens.notSpace _

theorem spellingOfItems_opens {item : Value} {others : List Value}
    (isProper : AreProper (item :: others)) :
    ∃ c rest, spellingOfItems (item :: others) asciiOnly = c :: rest ∧ IsOpening c := by
  obtain ⟨c, rest, starts, opens⟩ := spelling_opens isProper.1
  exact ⟨c, _, by rw [spellingOfItems_cons, starts]; rfl, opens⟩

theorem spellingOfMembers_opens (member : String × Value) (others : Members) :
    ∃ rest, spellingOfMembers (member :: others) asciiOnly = '"' :: rest :=
  ⟨_, spellingOfMembers_cons member.1 member.2 others⟩

theorem endsNumber_afterItem (others : List Value) (rest : List Char) :
    EndsNumber (afterItem others asciiOnly ++ rest) := by
  cases others with
  | nil => exact endsNumber_delimiter (.inr (.inl rfl)) rest
  | cons next more => exact endsNumber_delimiter (.inl rfl) _

theorem endsNumber_afterMember (others : Members) (rest : List Char) :
    EndsNumber (afterMember others asciiOnly ++ rest) := by
  cases others with
  | nil => exact endsNumber_delimiter (.inr (.inr rfl)) rest
  | cons next more => exact endsNumber_delimiter (.inl rfl) _

section Members

variable {fuel room : Nat} (name : String) {text : List Char} (close : IsClose text)

include close

theorem readMembers_inQuotes {value : Value} {left : List Char}
    (reads : readValue fuel room text = .ok (value, left)) :
    readMembers (fuel + 1) room (inQuotes name asciiOnly ++ ':' :: ' ' :: text) =
      moreMembers fuel room (name, value) (skipSpace left) := by
  rw [← skipSpace_of_isClose close] at reads
  rw [inQuotes_append, readMembers_eq (readString_inQuotes name (':' :: ' ' :: text)) rfl reads,
    String.ofList_toList]

theorem readMembers_inQuotes_fails {stop : Stop} (fails : readValue fuel room text = .error stop) :
    readMembers (fuel + 1) room (inQuotes name asciiOnly ++ ':' :: ' ' :: text) = .error stop := by
  rw [← skipSpace_of_isClose close] at fails
  rw [inQuotes_append]
  exact readMembers_value_fails (readString_inQuotes name (':' :: ' ' :: text)) rfl fails

end Members

mutual

/-- A value is read back from its text where there is room for its brackets. -/
theorem readValue_spelling {value : Value} (isProper : value.IsProper) {rest : List Char}
    (ends : EndsNumber rest) {fuel room : Nat}
    (enough : 2 * (value.spelling asciiOnly).length ≤ fuel) (fits : value.depth ≤ room) :
    readValue fuel room (value.spelling asciiOnly ++ rest) = .ok (value, rest) := by
  have filled : 0 < (value.spelling asciiOnly).length := length_spelling_pos isProper
  obtain ⟨fuel, rfl⟩ := Nat.exists_eq_succ_of_ne_zero (show fuel ≠ 0 by omega)
  match value with
  | null => exact isPlain_null.reads ends fuel room
  | .bool truth => exact (isPlain_bool truth).reads ends fuel room
  | int whole => exact (isPlain_int isProper).reads ends fuel room
  | float number => exact (isPlain_float isProper).reads ends fuel room
  | string text =>
    rw [spelling, inQuotes_append, readValue_string (readString_inQuotes text rest),
      String.ofList_toList]
  | array [] =>
    obtain ⟨room, rfl⟩ := Nat.exists_eq_succ_of_ne_zero (Nat.ne_zero_of_lt fits)
    exact readValue_array_nil
  | array (item :: others) =>
    rw [spelling, List.length_cons] at enough
    obtain ⟨room, rfl⟩ := Nat.exists_eq_succ_of_ne_zero (Nat.ne_zero_of_lt fits)
    have reads := readItems_spelling isProper (List.cons_ne_nil _ _) rest (show _ < fuel by omega)
      (Nat.le_of_succ_le_succ fits)
    obtain ⟨c, more, starts, opens⟩ := spellingOfItems_opens isProper
    rw [spelling]
    rw [starts] at reads ⊢
    show readValue _ _ ('[' :: c :: (more ++ rest)) = _
    rw [readValue_array (isClose_cons opens.notSpace _)
      fun _ same => opens.notBracket (List.cons.inj same).1]
    rw [← List.cons_append, reads]
    rfl
  | object [] =>
    obtain ⟨room, rfl⟩ := Nat.exists_eq_succ_of_ne_zero (Nat.ne_zero_of_lt fits)
    exact readValue_object_nil
  | object (member :: others) =>
    obtain ⟨differ, areProper⟩ := isProper
    rw [spelling, List.length_cons] at enough
    obtain ⟨room, rfl⟩ := Nat.exists_eq_succ_of_ne_zero (Nat.ne_zero_of_lt fits)
    have reads := readMembers_spelling areProper (List.cons_ne_nil _ _) rest
      (show _ < fuel by omega) (Nat.le_of_succ_le_succ fits)
    obtain ⟨more, starts⟩ := spellingOfMembers_opens member others
    rw [spelling]
    rw [starts] at reads ⊢
    show readValue _ _ ('\x7b' :: '"' :: (more ++ rest)) = _
    rw [readValue_object (isClose_cons rfl _) fun _ same => by cases same]
    rw [← List.cons_append, reads]
    show Except.ok (object (Entries.ofList (member :: others)), rest) = _
    rw [Entries.ofList_of_nodup differ]

/-- The items of an array are read back from their text. -/
theorem readItems_spelling {items : List Value} (isProper : AreProper items) (filled : items ≠ [])
    (rest : List Char) {fuel room : Nat}
    (enough : 2 * (spellingOfItems items asciiOnly).length < fuel)
    (fits : depthOfItems items ≤ room) :
    readItems fuel room (spellingOfItems items asciiOnly ++ rest) = .ok (items, rest) := by
  match items with
  | [] => exact absurd rfl filled
  | item :: others =>
    rw [spellingOfItems_cons, List.length_append] at enough
    obtain ⟨fuel, rfl⟩ := Nat.exists_eq_succ_of_ne_zero (show fuel ≠ 0 by omega)
    have ends : EndsNumber (afterItem others asciiOnly ++ rest) := endsNumber_afterItem others rest
    obtain ⟨fitsItem, fitOthers⟩ := Nat.max_le.mp fits
    have reads := readValue_spelling isProper.1 ends
      (show 2 * (item.spelling asciiOnly).length ≤ fuel by omega) fitsItem
    rw [spellingOfItems_cons, List.append_assoc, readItems_eq reads]
    cases others with
    | nil => rfl
    | cons next others =>
      rw [afterItem.eq_def, List.length_cons, List.length_cons] at enough
      have readsOthers := readItems_spelling isProper.2 (List.cons_ne_nil _ _) rest
        (show _ < fuel by omega) fitOthers
      obtain ⟨c, more, starts, opens⟩ := spellingOfItems_opens isProper.2
      have close : IsClose (spellingOfItems (next :: others) asciiOnly ++ rest) := by
        rw [starts]
        exact isClose_cons opens.notSpace _
      show (readItems _ _ (skipSpace (spellingOfItems (next :: others) asciiOnly ++ rest))).map _ = _
      rw [skipSpace_of_isClose close, readsOthers]
      rfl

/-- The members of an object are read back from their text. -/
theorem readMembers_spelling {members : Members} (isProper : AreMembersProper members)
    (filled : members ≠ []) (rest : List Char) {fuel room : Nat}
    (enough : 2 * (spellingOfMembers members asciiOnly).length < fuel)
    (fits : depthOfMembers members ≤ room) :
    readMembers fuel room (spellingOfMembers members asciiOnly ++ rest) = .ok (members, rest) := by
  match members with
  | [] => exact absurd rfl filled
  | (name, value) :: others =>
    rw [spellingOfMembers_cons, List.length_append, List.length_cons, List.length_cons,
      List.length_append] at enough
    obtain ⟨fuel, rfl⟩ := Nat.exists_eq_succ_of_ne_zero (show fuel ≠ 0 by omega)
    have ends : EndsNumber (afterMember others asciiOnly ++ rest) :=
      endsNumber_afterMember others rest
    obtain ⟨fitsValue, fitOthers⟩ := Nat.max_le.mp fits
    have reads := readValue_spelling isProper.1 ends
      (show 2 * (value.spelling asciiOnly).length ≤ fuel by omega) fitsValue
    rw [spellingOfMembers_cons, List.append_assoc, List.cons_append, List.cons_append,
      List.append_assoc, readMembers_inQuotes name (isClose_spelling isProper.1 _) reads]
    cases others with
    | nil => rfl
    | cons next others =>
      rw [afterMember.eq_def, List.length_cons, List.length_cons] at enough
      have readsOthers := readMembers_spelling isProper.2 (List.cons_ne_nil _ _) rest
        (show _ < fuel by omega) fitOthers
      obtain ⟨after, starts⟩ := spellingOfMembers_opens next others
      have close : IsClose (spellingOfMembers (next :: others) asciiOnly ++ rest) := by
        rw [starts]
        exact isClose_cons rfl _
      show (readMembers _ _
        (skipSpace (spellingOfMembers (next :: others) asciiOnly ++ rest))).map _ = _
      rw [skipSpace_of_isClose close, readsOthers]
      rfl

end

/-! ### Whole texts -/

mutual

/-- Each bracket that stands around a part of a value is a character of its text. -/
theorem depth_le_length (value : Value) : value.depth ≤ (value.spelling asciiOnly).length := by
  match value with
  | array items =>
    rw [spelling, List.length_cons]
    exact Nat.succ_le_succ (depthOfItems_le_length items)
  | object members =>
    rw [spelling, List.length_cons]
    exact Nat.succ_le_succ (depthOfMembers_le_length members)
  | null | .bool _ | int _ | float _ | string _ => exact Nat.zero_le _

@[inherit_doc depth_le_length]
theorem depthOfItems_le_length (items : List Value) :
    depthOfItems items ≤ (spellingOfItems items asciiOnly).length := by
  match items with
  | [] => exact Nat.zero_le _
  | item :: others =>
    have isLess : depthOfItems others ≤ (afterItem others asciiOnly).length := by
      cases others with
      | nil => exact Nat.zero_le _
      | cons next others =>
        exact (depthOfItems_le_length (next :: others)).trans (Nat.le_add_right _ 2)
    rw [spellingOfItems_cons, List.length_append]
    exact Nat.max_le.mpr ⟨(depth_le_length item).trans (Nat.le_add_right _ _),
      isLess.trans (Nat.le_add_left _ _)⟩

@[inherit_doc depth_le_length]
theorem depthOfMembers_le_length (members : Members) :
    depthOfMembers members ≤ (spellingOfMembers members asciiOnly).length := by
  match members with
  | [] => exact Nat.zero_le _
  | (name, value) :: others =>
    have isLess : depthOfMembers others ≤ (afterMember others asciiOnly).length := by
      cases others with
      | nil => exact Nat.zero_le _
      | cons next others =>
        exact (depthOfMembers_le_length (next :: others)).trans (Nat.le_add_right _ 2)
    have isLessToo : value.depth ≤ (value.spelling asciiOnly).length := depth_le_length value
    rw [spellingOfMembers_cons, List.length_append, List.length_cons, List.length_cons,
      List.length_append]
    exact Nat.max_le.mpr ⟨by omega, by omega⟩

end

theorem readAll_spelling {value : Value} (isProper : value.IsProper) {room : Nat}
    (fits : value.depth ≤ room) : readAll room (value.spelling asciiOnly) = .ok value := by
  obtain ⟨c, rest, starts, opens⟩ :
      ∃ c rest, value.spelling asciiOnly = c :: rest ∧ IsOpening c := spelling_opens isProper
  have reads := readValue_spelling isProper endsNumber_nil
    (Nat.le_add_right (2 * (value.spelling asciiOnly).length) 2) fits
  have close : IsClose (value.spelling asciiOnly ++ []) := isClose_spelling isProper []
  rw [List.append_nil] at reads close
  have noMark : ¬ c.toNat = 0xFEFF := by
    have := opens.isAscii
    omega
  unfold readAll
  rw [starts] at reads close ⊢
  dsimp only
  rw [if_neg noMark, skipSpace_of_isClose close, reads]
  rfl

/-- Reading gives back what was written, where there is room for it. -/
theorem readWithin_write {value : Value} (isProper : value.IsProper) {room : Nat}
    (fits : value.depth ≤ room) : readWithin room (value.write .spacedAscii) = .ok value := by
  unfold readWithin
  rw [toList_write, readAll_spelling isProper fits]

/-- Reading gives back what was written. -/
theorem read_write_spaced {value : Value} (isProper : value.IsProper) :
    read (value.write (spacedStyle asciiOnly)) = .ok value := by
  have fits : value.depth ≤ (value.write (spacedStyle asciiOnly)).length := by
    rw [← String.length_toList, toList_write_spaced]
    exact depth_le_length value
  unfold read readWithin
  rw [toList_write_spaced, readAll_spelling isProper fits]

end MoveAudit.Json
