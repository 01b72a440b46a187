/-
This file shows that an object whose text is cut short is no value. Where a text ends inside a part,
no reader that is still open comes to its closing character: a string has no quote left, and after
a number that was cut there is either nothing or more of the number. Nor is a number that is cut
short ever too long.
-/

import MoveAudit.Proofs.Json.RoundTrip

namespace MoveAudit.Json

open Value

/-- A part of two texts ends in the first one or takes it whole. -/
theorem prefix_append_cases {part first second : List Char} (isPart : part <+: first ++ second) :
    part <+: first ∧ part ≠ first ∨ ∃ rest, part = first ++ rest ∧ rest <+: second := by
  have isFirst := List.prefix_append first second
  rcases List.prefix_or_prefix_of_prefix isPart isFirst with within | beyond
  · by_cases same : part = first
    · exact .inr ⟨[], by rw [same, List.append_nil], List.nil_prefix⟩
    · exact .inl ⟨within, same⟩
  · obtain ⟨rest, rfl⟩ := beyond
    exact .inr ⟨rest, rfl, (List.prefix_append_right_inj first).mp isPart⟩

theorem head?_of_isPart {part text : List Char} (isPart : part <+: text) :
    ∀ c ∈ part.head?, c ∈ text.head? := by
  cases part with
  | nil => nofun
  | cons first rest =>
    rintro _ ⟨⟩
    obtain ⟨more, rfl⟩ := isPart
    rfl

theorem eq_nil_of_prefix_singleton {part : List Char} {c : Char} (isPart : part <+: [c])
    (isShort : part ≠ [c]) : part = [] := by
  rcases List.prefix_cons_iff.mp isPart with isNil | ⟨rest, rfl, isRest⟩
  · exact isNil
  · exact absurd (by rw [List.prefix_nil.mp isRest]) isShort

/-! ### Where no value is left -/

theorem readItems_nil_faults (fuel room : Nat) : Faults (readItems fuel room []) := by
  cases fuel with
  | zero => exact ⟨_, _, rfl⟩
  | succ fuel => exact ⟨_, _, readItems_fails readValue_nil⟩

/-- What is left of a number neither closes anything nor goes on with anything. -/
theorem skipSpace_of_isNumberChar {left : List Char} (areNumberChars : ∀ c ∈ left, IsNumberChar c) :
    skipSpace left = left ∧ ∀ c ∈ left.head?, ¬ IsDelimiter c := by
  have plain {c : Char} (isNumberChar : IsNumberChar c) : isSpace c = false ∧ ¬ IsDelimiter c := by
    rcases isNumberChar with isDigit | isOther
    · refine ⟨(isOpening_of_isDigit isDigit).notSpace, ?_⟩
      rintro (rfl | rfl | rfl) <;> cases isDigit
    · simp only [List.mem_cons, List.not_mem_nil, or_false] at isOther
      rcases isOther with rfl | rfl | rfl | rfl | rfl <;> exact ⟨rfl, by unfold IsDelimiter; decide⟩
  cases left with
  | nil => exact ⟨rfl, nofun⟩
  | cons c rest =>
    obtain ⟨notSpace, noDelimiter⟩ := plain (areNumberChars c List.mem_cons_self)
    refine ⟨skipSpace_of_isClose (isClose_cons notSpace rest), ?_⟩
    rintro _ ⟨⟩
    exact noDelimiter

theorem readItems_of_isCutShort {fuel room : Nat} {part : List Char}
    (isCut : IsCutShort (readValue fuel room part)) :
    Faults (readItems (fuel + 1) room part) := by
  rcases isCut with ⟨fault, rest, fails⟩ | ⟨value, left, reads, areNumberChars⟩
  · exact ⟨fault, rest, readItems_fails fails⟩
  · obtain ⟨stays, noDelimiter⟩ := skipSpace_of_isNumberChar areNumberChars
    rw [readItems_eq reads, stays]
    unfold moreItems
    split
    · exact absurd (.inr (.inl rfl)) (noDelimiter _ rfl)
    · exact absurd (.inl rfl) (noDelimiter _ rfl)
    · exact ⟨_, _, rfl⟩

theorem readMembers_of_isCutShort (name : String) {fuel room : Nat} {part : List Char}
    (close : IsClose part) (isCut : IsCutShort (readValue fuel room part)) :
    Faults (readMembers (fuel + 1) room (inQuotes name ++ ':' :: ' ' :: part)) := by
  rcases isCut with ⟨fault, rest, fails⟩ | ⟨value, left, reads, areNumberChars⟩
  · exact ⟨fault, rest, readMembers_inQuotes_fails name close fails⟩
  · obtain ⟨stays, noDelimiter⟩ := skipSpace_of_isNumberChar areNumberChars
    rw [readMembers_inQuotes name close reads, stays]
    unfold moreMembers
    split
    · exact absurd (.inr (.inr rfl)) (noDelimiter _ rfl)
    · exact absurd (.inl rfl) (noDelimiter _ rfl)
    · exact ⟨_, _, rfl⟩

/-! ### Strings -/

/-- A string that is cut short has no quote left. -/
theorem readString_cut {text : String} {part : List Char} (isPart : part <+: inQuotes text)
    (isShort : part ≠ inQuotes text) : part = [] ∨ ∃ body, part = '"' :: body ∧
      ∀ opening fuel, Faults (readString opening fuel body) := by
  rcases List.prefix_cons_iff.mp isPart with rfl | ⟨body, rfl, isBody⟩
  · exact .inl rfl
  rcases List.prefix_concat_iff.mp isBody with rfl | isInside
  · exact absurd rfl isShort
  · exact .inr ⟨body, rfl, ((IsInside.escapes _).of_isPart isInside).readString_fails⟩

/-! ### Members -/

/-- A member that is cut short is refused, or its name is whole. -/
theorem readMembers_name_cut (name : String) {tail part : List Char}
    (isPart : part <+: inQuotes name ++ ':' :: ' ' :: tail) (fuel room : Nat) :
    Faults (readMembers (fuel + 1) room part) ∨
      ∃ body, part = inQuotes name ++ ':' :: ' ' :: body ∧ body <+: tail := by
  rcases prefix_append_cases isPart with ⟨within, isShort⟩ | ⟨rest, rfl, isRest⟩
  · rcases readString_cut within isShort with rfl | ⟨body, rfl, faults⟩
    · exact .inl ⟨_, _, readMembers_nil⟩
    · obtain ⟨fault, left, fails⟩ := faults ('"' :: body) (body.length + 1)
      exact .inl ⟨fault, left, readMembers_name_fails fails⟩
  rcases List.prefix_cons_iff.mp isRest with rfl | ⟨more, rfl, isMore⟩
  · rw [inQuotes_append]
    exact .inl ⟨_, _, readMembers_name_stops (readString_inQuotes name []) nofun⟩
  rcases List.prefix_cons_iff.mp isMore with rfl | ⟨body, rfl, isBody⟩
  · rw [inQuotes_append]
    exact .inl ⟨_, _, readMembers_value_fails (readString_inQuotes name [':']) rfl readValue_nil⟩
  · exact .inr ⟨body, rfl, isBody⟩

/-! ### Values -/

/-- What is left of a text begins like it, so it neither begins with white space nor is closed. -/
theorem isClose_cut {first closing : Char} {rest part : List Char} (notSpace : isSpace first = false)
    (notClosing : first ≠ closing) (isPart : part <+: first :: rest) :
    IsClose part ∧ ∀ left, part ≠ closing :: left := by
  rcases List.prefix_cons_iff.mp isPart with rfl | ⟨more, rfl, _⟩
  · exact ⟨nofun, nofun⟩
  · exact ⟨isClose_cons notSpace more, fun _ same => notClosing (List.cons.inj same).1⟩

theorem isClose_items_cut {items : List Value} (isProper : AreProper items) {part : List Char}
    (isPart : part <+: spellingOfItems items) (isShort : part ≠ spellingOfItems items) :
    IsClose part ∧ ∀ left, part ≠ ']' :: left := by
  cases items with
  | nil =>
    rw [eq_nil_of_prefix_singleton isPart isShort]
    exact ⟨nofun, nofun⟩
  | cons item others =>
    obtain ⟨first, rest, starts, opens⟩ := spellingOfItems_opens isProper
    exact isClose_cut opens.notSpace opens.notBracket (starts ▸ isPart)

theorem isClose_members_cut {members : Members} {part : List Char}
    (isPart : part <+: spellingOfMembers members) (isShort : part ≠ spellingOfMembers members) :
    IsClose part ∧ ∀ left, part ≠ '\x7d' :: left := by
  cases members with
  | nil =>
    rw [eq_nil_of_prefix_singleton isPart isShort]
    exact ⟨nofun, nofun⟩
  | cons member others =>
    obtain ⟨rest, starts⟩ := spellingOfMembers_opens member others
    exact isClose_cut (by decide) (by decide) (starts ▸ isPart)

theorem endsNumber_cut {text part : List Char} (ends : EndsNumber (text ++ []))
    (isPart : part <+: text) : EndsNumber part := by
  rw [List.append_nil] at ends
  exact fun c isHead => ends c (head?_of_isPart isPart c isHead)

mutual

/-- A value that is cut short is not read to an end, where there is room for its brackets. -/
theorem readValue_cut {value : Value} (isProper : value.IsProper) {part : List Char}
    (isPart : part <+: value.spelling) (isShort : part ≠ value.spelling) {fuel room : Nat}
    (enough : 2 * part.length ≤ fuel) (fits : value.depth ≤ room) :
    IsCutShort (readValue fuel room part) := by
  match value with
  | null => exact isPlain_null.cut isPart isShort fuel room
  | .bool truth => exact (isPlain_bool truth).cut isPart isShort fuel room
  | int whole => exact (isPlain_int isProper).cut isPart isShort fuel room
  | float number => exact (isPlain_float isProper).cut isPart isShort fuel room
  | string text =>
    rcases readString_cut isPart isShort with rfl | ⟨body, rfl, faults⟩
    · exact .inl ⟨_, _, readValue_nil⟩
    rw [List.length_cons] at enough
    obtain ⟨fuel, rfl⟩ := Nat.exists_eq_succ_of_ne_zero (show fuel ≠ 0 by omega)
    obtain ⟨fault, left, fails⟩ := faults ('"' :: body) (body.length + 1)
    exact .inl ⟨fault, left, readValue_string_fails fails⟩
  | array items =>
    rcases List.prefix_cons_iff.mp isPart with rfl | ⟨body, rfl, isBody⟩
    · exact .inl ⟨_, _, readValue_nil⟩
    rw [List.length_cons] at enough
    obtain ⟨fuel, rfl⟩ := Nat.exists_eq_succ_of_ne_zero (show fuel ≠ 0 by omega)
    have isShort : body ≠ spellingOfItems items := fun same => isShort (same ▸ rfl)
    obtain ⟨close, filled⟩ := isClose_items_cut isProper isBody isShort
    obtain ⟨room, rfl⟩ := Nat.exists_eq_succ_of_ne_zero (Nat.ne_zero_of_lt fits)
    rw [readValue_array close filled]
    exact .inl ((readItems_cut isProper isBody isShort (by omega)
      (Nat.le_of_succ_le_succ fits)).map _)
  | object members =>
    rcases List.prefix_cons_iff.mp isPart with rfl | ⟨body, rfl, isBody⟩
    · exact .inl ⟨_, _, readValue_nil⟩
    rw [List.length_cons] at enough
    obtain ⟨fuel, rfl⟩ := Nat.exists_eq_succ_of_ne_zero (show fuel ≠ 0 by omega)
    have isShort : body ≠ spellingOfMembers members := fun same => isShort (same ▸ rfl)
    obtain ⟨close, filled⟩ := isClose_members_cut isBody isShort
    obtain ⟨room, rfl⟩ := Nat.exists_eq_succ_of_ne_zero (Nat.ne_zero_of_lt fits)
    rw [readValue_object close filled]
    exact .inl ((readMembers_cut isProper.2 isBody isShort (by omega)
      (Nat.le_of_succ_le_succ fits)).map _)

/-- Items that are cut short are not read to an end. -/
theorem readItems_cut {items : List Value} (isProper : AreProper items) {part : List Char}
    (isPart : part <+: spellingOfItems items) (isShort : part ≠ spellingOfItems items)
    {fuel room : Nat} (enough : 2 * part.length < fuel) (fits : depthOfItems items ≤ room) :
    Faults (readItems fuel room part) := by
  obtain ⟨fuel, rfl⟩ := Nat.exists_eq_succ_of_ne_zero (show fuel ≠ 0 by omega)
  match items with
  | [] =>
    rw [eq_nil_of_prefix_singleton isPart isShort]
    exact readItems_nil_faults _ _
  | item :: others =>
    rw [spellingOfItems_cons] at isPart isShort
    obtain ⟨fitsItem, fitOthers⟩ := Nat.max_le.mp fits
    rcases prefix_append_cases isPart with ⟨within, isShort⟩ | ⟨rest, rfl, isRest⟩
    · exact readItems_of_isCutShort (readValue_cut isProper.1 within isShort (by omega) fitsItem)
    have ends := endsNumber_cut (endsNumber_afterItem others []) isRest
    rw [List.length_append] at enough
    rw [readItems_eq (readValue_spelling isProper.1 ends (show _ ≤ fuel by omega) fitsItem)]
    have isShort : rest ≠ afterItem others := fun same => isShort (same ▸ rfl)
    cases others with
    | nil =>
      rw [eq_nil_of_prefix_singleton isRest isShort]
      exact ⟨_, _, rfl⟩
    | cons next others =>
      rcases List.prefix_cons_iff.mp isRest with rfl | ⟨more, rfl, isMore⟩
      · exact ⟨_, _, rfl⟩
      rcases List.prefix_cons_iff.mp isMore with rfl | ⟨body, rfl, isBody⟩
      · exact (readItems_nil_faults fuel room).map _
      rw [List.length_cons, List.length_cons] at enough
      have isShort : body ≠ spellingOfItems (next :: others) := fun same => isShort (same ▸ rfl)
      have close := (isClose_items_cut isProper.2 isBody isShort).1
      show Faults ((readItems fuel room (skipSpace body)).map _)
      rw [skipSpace_of_isClose close]
      exact (readItems_cut isProper.2 isBody isShort (by omega) fitOthers).map _

/-- Members that are cut short are not read to an end. -/
theorem readMembers_cut {members : Members} (isProper : AreMembersProper members)
    {part : List Char} (isPart : part <+: spellingOfMembers members)
    (isShort : part ≠ spellingOfMembers members) {fuel room : Nat}
    (enough : 2 * part.length < fuel) (fits : depthOfMembers members ≤ room) :
    Faults (readMembers fuel room part) := by
  obtain ⟨fuel, rfl⟩ := Nat.exists_eq_succ_of_ne_zero (show fuel ≠ 0 by omega)
  match members with
  | [] =>
    rw [eq_nil_of_prefix_singleton isPart isShort]
    exact ⟨_, _, readMembers_nil⟩
  | (name, value) :: others =>
    rw [spellingOfMembers_cons] at isPart isShort
    obtain ⟨fitsValue, fitOthers⟩ := Nat.max_le.mp fits
    rcases readMembers_name_cut name isPart fuel room with faults | ⟨body, rfl, isBody⟩
    · exact faults
    rw [List.length_append, List.length_cons, List.length_cons] at enough
    have close : IsClose body := fun c isHead =>
      isClose_spelling isProper.1 (afterMember others) c (head?_of_isPart isBody c isHead)
    rcases prefix_append_cases isBody with ⟨within, isShort⟩ | ⟨rest, rfl, isRest⟩
    · exact readMembers_of_isCutShort name close
        (readValue_cut isProper.1 within isShort (by omega) fitsValue)
    have ends := endsNumber_cut (endsNumber_afterMember others []) isRest
    rw [List.length_append] at enough
    have reads := readValue_spelling isProper.1 ends
      (show 2 * value.spelling.length ≤ fuel by omega) fitsValue
    rw [readMembers_inQuotes name close reads]
    have isShort : rest ≠ afterMember others := fun same => isShort (same ▸ rfl)
    cases others with
    | nil =>
      rw [eq_nil_of_prefix_singleton isRest isShort]
      exact ⟨_, _, rfl⟩
    | cons next others =>
      rcases List.prefix_cons_iff.mp isRest with rfl | ⟨more, rfl, isMore⟩
      · exact ⟨_, _, rfl⟩
      rcases List.prefix_cons_iff.mp isMore with rfl | ⟨later, rfl, isLater⟩
      · exact Faults.map ⟨_, _, readMembers_nil⟩ _
      rw [List.length_cons, List.length_cons] at enough
      have isShort : later ≠ spellingOfMembers (next :: others) := fun same => isShort (same ▸ rfl)
      have close := (isClose_members_cut isLater isShort).1
      show Faults ((readMembers fuel room (skipSpace later)).map _)
      rw [skipSpace_of_isClose close]
      exact (readMembers_cut isProper.2 isLater isShort (by omega) fitOthers).map _

end

/-- An object whose text is cut short cannot be read, and not because of a number or its depth. -/
theorem readWithin_cut {members : Members} (isProper : (object members).IsProper) {part : List Char}
    (isPart : part <+: (object members).spelling) (isShort : part ≠ (object members).spelling)
    {room : Nat} (fits : (object members).depth ≤ room) :
    ∃ fault position, readWithin room (String.ofList part) = .error (.fault fault position) := by
  have faults : Faults (readAll room part) := by
    rcases List.prefix_cons_iff.mp isPart with rfl | ⟨body, rfl, isBody⟩
    · exact ⟨_, _, rfl⟩
    obtain ⟨room, rfl⟩ := Nat.exists_eq_succ_of_ne_zero (Nat.ne_zero_of_lt fits)
    have isShort : body ≠ spellingOfMembers members := fun same => isShort (same ▸ rfl)
    obtain ⟨close, filled⟩ := isClose_members_cut isBody isShort
    have isCut :
        Faults (readValue (2 * (body.length + 1) + 1 + 1) (room + 1) ('\x7b' :: body)) := by
      rw [readValue_object close filled]
      exact (readMembers_cut isProper.2 isBody isShort (by omega)
        (Nat.le_of_succ_le_succ fits)).map _
    obtain ⟨fault, rest, fails⟩ := isCut
    refine ⟨fault, rest, ?_⟩
    show (readValue (2 * (body.length + 1) + 1 + 1) (room + 1) ('\x7b' :: body) >>= _) = _
    rw [fails]
    rfl
  obtain ⟨fault, rest, fails⟩ := faults
  unfold readWithin
  rw [String.toList_ofList, fails]
  exact ⟨_, _, rfl⟩

end MoveAudit.Json
