/-
This file says what one step of the reader of values does: which reader a value is handed to by its
first character, and how the readers of items and members go on by what stands after a value. All
that is shown about whole texts is shown by these equations.
-/

import MoveAudit.Proofs.Json.Number

namespace MoveAudit.Json

/-! ### White space -/

/-- The text does not begin with white space. -/
def IsClose (text : List Char) : Prop :=
  ∀ c ∈ text.head?, isSpace c = false

theorem isClose_cons {c : Char} (notSpace : isSpace c = false) (rest : List Char) :
    IsClose (c :: rest) := by
  rintro _ ⟨⟩
  exact notSpace

theorem skipSpace_of_isClose {text : List Char} (close : IsClose text) : skipSpace text = text := by
  cases text with
  | nil => rfl
  | cons c rest => exact List.dropWhile_cons_of_neg (ne_true_of_eq_false (close c rfl))

/-! ### Values -/

section Values

variable {fuel room : Nat} {rest : List Char}

theorem readValue_string {read left : List Char}
    (reads : readString ('"' :: rest) (rest.length + 1) rest = .ok (read, left)) :
    readValue (fuel + 1) room ('"' :: rest) = .ok (.string (String.ofList read), left) := by
  show (readString ('"' :: rest) (rest.length + 1) rest >>= _) = _
  rw [reads]
  rfl

theorem readValue_string_fails {stop : Stop}
    (fails : readString ('"' :: rest) (rest.length + 1) rest = .error stop) :
    readValue (fuel + 1) room ('"' :: rest) = .error stop := by
  show (readString ('"' :: rest) (rest.length + 1) rest >>= _) = _
  rw [fails]
  rfl

theorem readValue_array_nil :
    readValue (fuel + 1) (room + 1) ('[' :: ']' :: rest) = .ok (.array [], rest) := rfl

theorem readValue_object_nil :
    readValue (fuel + 1) (room + 1) ('\x7b' :: '\x7d' :: rest) = .ok (.object [], rest) := rfl

/-- After the bracket that opens an array comes the one that closes it, or its first item. -/
def arrayAfter (fuel room : Nat) : List Char → Except Stop (Value × List Char)
  | ']' :: left => .ok (.array [], left)
  | items => do
    let (read, left) ← readItems fuel room items
    return (.array read, left)

/-- After the brace that opens an object comes the one that closes it, or its first member. -/
def objectAfter (fuel room : Nat) : List Char → Except Stop (Value × List Char)
  | '\x7d' :: left => .ok (.object [], left)
  | members => do
    let (read, left) ← readMembers fuel room members
    return (.object (Entries.ofList read), left)

theorem readValue_array (close : IsClose rest) (filled : ∀ left, rest ≠ ']' :: left) :
    readValue (fuel + 1) (room + 1) ('[' :: rest) =
      (readItems fuel room rest).map fun (read, left) => (.array read, left) := by
  show arrayAfter fuel room (skipSpace rest) = _
  rw [skipSpace_of_isClose close]
  unfold arrayAfter
  split
  · rename_i left
    exact absurd rfl (filled left)
  · cases readItems fuel room rest <;> rfl

theorem readValue_object (close : IsClose rest) (filled : ∀ left, rest ≠ '\x7d' :: left) :
    readValue (fuel + 1) (room + 1) ('\x7b' :: rest) =
      (readMembers fuel room rest).map fun (read, left) => (.object (Entries.ofList read), left) := by
  show objectAfter fuel room (skipSpace rest) = _
  rw [skipSpace_of_isClose close]
  unfold objectAfter
  split
  · rename_i left
    exact absurd rfl (filled left)
  · cases readMembers fuel room rest <;> rfl

/-- A first character that opens nothing begins a word or a number. -/
theorem readValue_plain {c : Char} (noString : c ≠ '"') (noArray : c ≠ '[')
    (noObject : c ≠ '\x7b') :
    readValue (fuel + 1) room (c :: rest) =
      (readWord? (c :: rest)).elim (readNumber (c :: rest)) .ok := by
  rw [readValue.eq_def]
  dsimp only
  split
  · rename_i same
    cases same
  · rename_i same
    cases same
    exact absurd rfl noString
  · rename_i same
    cases same
    exact absurd rfl noArray
  · rename_i same
    cases same
    exact absurd rfl noObject
  · cases readWord? (c :: rest) <;> rfl

theorem readValue_nil : readValue fuel room [] = .error (.fault .value []) := by
  cases fuel <;> rfl

end Values

/-! ### Items -/

section Items

variable {fuel room : Nat} {text left : List Char} {item : Value}

/-- After an item comes the bracket or a comma. -/
def moreItems (fuel room : Nat) (item : Value) : List Char → Except Stop (List Value × List Char)
  | ']' :: rest => .ok ([item], rest)
  | ',' :: rest =>
    (readItems fuel room (skipSpace rest)).map fun (others, left) => (item :: others, left)
  | other => .error (.fault .comma other)

theorem readItems_eq (reads : readValue fuel room text = .ok (item, left)) :
    readItems (fuel + 1) room text = moreItems fuel room item (skipSpace left) := by
  show (readValue fuel room text >>= _) = _
  rw [reads]
  show (match skipSpace left with
    | ']' :: rest => _
    | ',' :: rest => _
    | other => _) = _
  generalize skipSpace left = after
  unfold moreItems
  split
  · rfl
  · rename_i rest
    cases readItems fuel room (skipSpace rest) <;> rfl
  · rfl

theorem readItems_fails {stop : Stop} (fails : readValue fuel room text = .error stop) :
    readItems (fuel + 1) room text = .error stop := by
  show (readValue fuel room text >>= _) = _
  rw [fails]
  rfl

end Items

/-! ### Members -/

/-- After a member comes the brace or a comma. -/
def moreMembers (fuel room : Nat) (member : String × Value) :
    List Char → Except Stop (Members × List Char)
  | '\x7d' :: rest => .ok ([member], rest)
  | ',' :: rest =>
    (readMembers fuel room (skipSpace rest)).map fun (others, left) => (member :: others, left)
  | other => .error (.fault .comma other)

/-- After a name comes a colon with a value, and then the brace or a comma. -/
def valueAfter (fuel room : Nat) (name : List Char) :
    List Char → Except Stop (Members × List Char)
  | ':' :: rest => do
    let (value, left) ← readValue fuel room (skipSpace rest)
    match skipSpace left with
    | '\x7d' :: rest => return ([(String.ofList name, value)], rest)
    | ',' :: rest =>
      let (others, left) ← readMembers fuel room (skipSpace rest)
      return ((String.ofList name, value) :: others, left)
    | other => .error (.fault .comma other)
  | other => .error (.fault .colon other)

section Members

variable {fuel room : Nat} {text name left afterName afterValue : List Char} {value : Value}

theorem readMembers_nil : readMembers fuel room [] = .error (.fault .name []) := by
  cases fuel <;> rfl

theorem readMembers_name_fails {stop : Stop}
    (fails : readString ('"' :: text) (text.length + 1) text = .error stop) :
    readMembers (fuel + 1) room ('"' :: text) = .error stop := by
  show (readString ('"' :: text) (text.length + 1) text >>= _) = _
  rw [fails]
  rfl

theorem readMembers_named
    (names : readString ('"' :: text) (text.length + 1) text = .ok (name, left)) :
    readMembers (fuel + 1) room ('"' :: text) = valueAfter fuel room name (skipSpace left) := by
  show (readString ('"' :: text) (text.length + 1) text >>= _) = _
  rw [names]
  rfl

theorem readMembers_name_stops
    (names : readString ('"' :: text) (text.length + 1) text = .ok (name, left))
    (noColon : ∀ rest, skipSpace left ≠ ':' :: rest) :
    readMembers (fuel + 1) room ('"' :: text) = .error (.fault .colon (skipSpace left)) := by
  rw [readMembers_named names]
  unfold valueAfter
  split
  · rename_i rest colon
    exact absurd colon (noColon rest)
  · rfl

variable (names : readString ('"' :: text) (text.length + 1) text = .ok (name, left))
  (colon : skipSpace left = ':' :: afterName)

include names colon

theorem readMembers_value_fails {stop : Stop}
    (fails : readValue fuel room (skipSpace afterName) = .error stop) :
    readMembers (fuel + 1) room ('"' :: text) = .error stop := by
  rw [readMembers_named names, colon]
  show (readValue fuel room (skipSpace afterName) >>= _) = _
  rw [fails]
  rfl

variable (reads : readValue fuel room (skipSpace afterName) = .ok (value, afterValue))

include reads

theorem readMembers_eq : readMembers (fuel + 1) room ('"' :: text) =
    moreMembers fuel room (String.ofList name, value) (skipSpace afterValue) := by
  rw [readMembers_named names, colon]
  show (readValue fuel room (skipSpace afterName) >>= _) = _
  rw [reads]
  dsimp only [bind, Except.bind]
  generalize skipSpace afterValue = after
  unfold moreMembers
  split
  · rfl
  · rename_i rest
    cases readMembers fuel room (skipSpace rest) <;> rfl
  · rfl

end Members

end MoveAudit.Json
