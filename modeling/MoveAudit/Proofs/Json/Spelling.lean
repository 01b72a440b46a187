/-
This file says what a value looks like in the styles with a space after commas and colons, as one
list of characters, with ASCII characters only unless it is said otherwise. It also says which
values there are: the names of an object are all different, a number with a fraction is one that
binary64 has, and a whole number is short enough to be written. A value that is written has that, and
no more brackets in each other than there is room for.
-/

import MoveAudit.Json.Writer
import MoveAudit.Proofs.Number.Layout

namespace MoveAudit.Json

/-- A text between quotes. -/
def inQuotes (text : String) (asciiOnly : Bool := true) : List Char :=
  '"' :: (text.toList.flatMap (escapeChar asciiOnly) ++ ['"'])

namespace Value

mutual

/-- Every name of an object stands once in it, and all numbers can be written and exist. -/
def IsProper : Value → Prop
  | int whole => whole.natAbs < 10 ^ Numeral.digitLimit
  | float number => number.IsBinary64
  | array items => AreProper items
  | object members => (members.map Prod.fst).Nodup ∧ AreMembersProper members
  | _ => True

@[inherit_doc IsProper]
def AreProper : List Value → Prop
  | [] => True
  | item :: rest => IsProper item ∧ AreProper rest

@[inherit_doc IsProper]
def AreMembersProper : Members → Prop
  | [] => True
  | (_, value) :: rest => IsProper value ∧ AreMembersProper rest

end

mutual

/-- Every name of an object stands once in a value, and all numbers with a fraction exist. -/
def IsSound : Value → Prop
  | float number => number.IsBinary64
  | array items => AreSound items
  | object members => (members.map Prod.fst).Nodup ∧ AreMembersSound members
  | _ => True

@[inherit_doc IsSound]
def AreSound : List Value → Prop
  | [] => True
  | item :: rest => IsSound item ∧ AreSound rest

@[inherit_doc IsSound]
def AreMembersSound : Members → Prop
  | [] => True
  | (_, value) :: rest => IsSound value ∧ AreMembersSound rest

end

theorem isProper_int {whole : Int} (isSpellable : Numeral.isSpellable whole = true) :
    (int whole).IsProper := by
  unfold Numeral.isSpellable at isSpellable
  unfold IsProper
  generalize Numeral.digitLimit = limit at isSpellable ⊢
  exact of_decide_eq_true isSpellable

mutual

/-- A value whose whole numbers can be spelled is one that can be written. -/
theorem IsSound.isProper {value : Value} :
    value.IsSound → value.isSpellable = true → value.IsProper := by
  match value with
  | null | .bool _ | string _ => exact fun _ _ => trivial
  | float _ => exact fun isSound _ => isSound
  | int _ => exact fun _ => isProper_int
  | array items => exact AreSound.areProper
  | object members =>
    exact fun isSound isSpellable =>
      ⟨isSound.1, AreMembersSound.areProper isSound.2 isSpellable⟩

@[inherit_doc IsSound.isProper]
theorem AreSound.areProper {items : List Value} :
    AreSound items → areSpellable items = true → AreProper items := by
  match items with
  | [] => exact fun _ _ => trivial
  | item :: rest =>
    intro areSound areSpellable
    obtain ⟨isSpellable, restSpellable⟩ := Bool.and_eq_true_iff.mp areSpellable
    exact ⟨areSound.1.isProper isSpellable, AreSound.areProper areSound.2 restSpellable⟩

@[inherit_doc IsSound.isProper]
theorem AreMembersSound.areProper {members : Members} :
    AreMembersSound members → areMembersSpellable members = true → AreMembersProper members := by
  match members with
  | [] => exact fun _ _ => trivial
  | (name, value) :: rest =>
    intro areSound areSpellable
    obtain ⟨isSpellable, restSpellable⟩ := Bool.and_eq_true_iff.mp areSpellable
    exact ⟨areSound.1.isProper isSpellable, AreMembersSound.areProper areSound.2 restSpellable⟩

end

/-- The whole numbers of a value can be spelled, and there is room for its brackets. -/
def IsWritable (room : Nat) (value : Value) : Prop :=
  value.isSpellable = true ∧ value.depth ≤ room

mutual

/-- Those values are written that can be. -/
theorem writeError?_eq_none_iff {value : Value} {room : Nat} :
    value.writeError? room = none ↔ value.IsWritable room := by
  unfold IsWritable
  match value with
  | null | .bool _ | float _ | string _ => exact ⟨fun _ => ⟨rfl, Nat.zero_le _⟩, fun _ => rfl⟩
  | int whole =>
    simp only [writeError?, isSpellable, depth, Nat.zero_le, and_true]
    cases Numeral.isSpellable whole <;> simp
  | array items =>
    cases room with
    | zero => simp [writeError?, depth]
    | succ room => simp [writeError?, isSpellable, depth, itemsWriteError?_eq_none_iff]
  | object members =>
    cases room with
    | zero => simp [writeError?, depth]
    | succ room => simp [writeError?, isSpellable, depth, membersWriteError?_eq_none_iff]

@[inherit_doc writeError?_eq_none_iff]
theorem itemsWriteError?_eq_none_iff {items : List Value} {room : Nat} :
    itemsWriteError? room items = none ↔ areSpellable items = true ∧ depthOfItems items ≤ room := by
  match items with
  | [] => exact ⟨fun _ => ⟨rfl, Nat.zero_le _⟩, fun _ => rfl⟩
  | item :: rest =>
    simp only [itemsWriteError?, Option.or_eq_none_iff, areSpellable, depthOfItems,
      Bool.and_eq_true, Nat.max_le, writeError?_eq_none_iff, itemsWriteError?_eq_none_iff,
      IsWritable]
    tauto

@[inherit_doc writeError?_eq_none_iff]
theorem membersWriteError?_eq_none_iff {members : Members} {room : Nat} :
    membersWriteError? room members = none ↔
      areMembersSpellable members = true ∧ depthOfMembers members ≤ room := by
  match members with
  | [] => exact ⟨fun _ => ⟨rfl, Nat.zero_le _⟩, fun _ => rfl⟩
  | (name, value) :: rest =>
    simp only [membersWriteError?, Option.or_eq_none_iff, areMembersSpellable, depthOfMembers,
      Bool.and_eq_true, Nat.max_le, writeError?_eq_none_iff, membersWriteError?_eq_none_iff,
      IsWritable]
    tauto

end

mutual

/-- The characters of a value. -/
def spelling (value : Value) (asciiOnly : Bool := true) : List Char :=
  match value with
  | null => "null".toList
  | bool truth => (if truth then "true" else "false").toList
  | int whole => (Numeral.intText whole).toList
  | float number => (writeFloat number).toList
  | string text => inQuotes text asciiOnly
  | array items => '[' :: spellingOfItems items asciiOnly
  | object members => '\x7b' :: spellingOfMembers members asciiOnly

/-- The characters of the items of an array, from its first one to its bracket. -/
def spellingOfItems (items : List Value) (asciiOnly : Bool := true) : List Char :=
  match items with
  | [] => [']']
  | [item] => spelling item asciiOnly ++ [']']
  | item :: next :: rest =>
    spelling item asciiOnly ++ (',' :: ' ' :: spellingOfItems (next :: rest) asciiOnly)

/-- The characters of the members of an object, from its first one to its brace. -/
def spellingOfMembers (members : Members) (asciiOnly : Bool := true) : List Char :=
  match members with
  | [] => ['\x7d']
  | [(name, value)] =>
    inQuotes name asciiOnly ++ (':' :: ' ' :: (spelling value asciiOnly ++ ['\x7d']))
  | (name, value) :: next :: rest =>
    inQuotes name asciiOnly ++ (':' :: ' ' ::
      (spelling value asciiOnly ++ (',' :: ' ' :: spellingOfMembers (next :: rest) asciiOnly)))

end

/-- What stands after an item. -/
def afterItem (others : List Value) (asciiOnly : Bool := true) : List Char :=
  match others with
  | [] => [']']
  | others => ',' :: ' ' :: spellingOfItems others asciiOnly

/-- What stands after a member. -/
def afterMember (others : Members) (asciiOnly : Bool := true) : List Char :=
  match others with
  | [] => ['\x7d']
  | others => ',' :: ' ' :: spellingOfMembers others asciiOnly

section Text

variable {asciiOnly : Bool}

theorem spellingOfItems_cons (item : Value) (others : List Value) :
    spellingOfItems (item :: others) asciiOnly =
      item.spelling asciiOnly ++ afterItem others asciiOnly := by
  cases others <;> rfl

theorem spellingOfMembers_cons (name : String) (value : Value) (others : Members) :
    spellingOfMembers ((name, value) :: others) asciiOnly = inQuotes name asciiOnly ++
      (':' :: ' ' :: (value.spelling asciiOnly ++ afterMember others asciiOnly)) := by
  cases others <;> rfl

/-! ### The text that is written -/

/-- A space after commas and colons. -/
def spacedStyle (asciiOnly : Bool) : Style :=
  ⟨", ", ": ", asciiOnly, false, none⟩

theorem toList_writeString (text : String) :
    (writeString asciiOnly text).toList = inQuotes text asciiOnly := by
  rw [writeString, String.toList_ofList]
  rfl

/-- Parts with a comma and a space between them, from the first one to the bracket. -/
theorem toList_parts_cons (first next : String) (rest : List String) (closing : List Char) :
    (", ".intercalate (first :: next :: rest)).toList ++ closing =
      first.toList ++ (',' :: ' ' :: ((", ".intercalate (next :: rest)).toList ++ closing)) := by
  rw [String.toList_intercalate, String.toList_intercalate, List.map_cons, List.map_cons,
    List.intercalate_cons_cons, List.append_assoc, List.append_assoc]
  rfl

theorem toList_parts_singleton (only : String) (closing : List Char) :
    (", ".intercalate [only]).toList ++ closing = only.toList ++ closing := by
  rw [String.toList_intercalate, List.map_singleton, List.intercalate_singleton]

/-- A member with its name. -/
theorem toList_member (name text : String) :
    (writeString asciiOnly name ++ ": " ++ text).toList =
      inQuotes name asciiOnly ++ (':' :: ' ' :: text.toList) := by
  rw [String.toList_append, String.toList_append, toList_writeString, List.append_assoc]
  rfl

mutual

theorem toList_writeAt (depth : Nat) (value : Value) :
    (writeAt (spacedStyle asciiOnly) depth value).toList = value.spelling asciiOnly := by
  match value with
  | null => rfl
  | bool truth => rfl
  | int whole => rfl
  | float number => rfl
  | string text => exact toList_writeString text
  | array items =>
    rw [writeAt, spelling, ← toList_writeItems (depth + 1) items]
    show ("[" ++ ", ".intercalate (writeItems (spacedStyle asciiOnly) (depth + 1) items) ++
      "]").toList = _
    rw [String.toList_append, String.toList_append]
    rfl
  | object members =>
    rw [writeAt, spelling, ← toList_writeMembers (depth + 1) members]
    show ("\x7b" ++ ", ".intercalate ((writeMembers (spacedStyle asciiOnly) (depth + 1) members).map
      fun (name, text) => writeString asciiOnly name ++ ": " ++ text) ++ "\x7d").toList = _
    rw [String.toList_append, String.toList_append]
    rfl

theorem toList_writeItems (depth : Nat) (items : List Value) :
    (", ".intercalate (writeItems (spacedStyle asciiOnly) depth items)).toList ++ [']'] =
      spellingOfItems items asciiOnly := by
  match items with
  | [] => rfl
  | [item] =>
    rw [writeItems, writeItems, toList_parts_singleton, toList_writeAt depth item, spellingOfItems]
  | item :: next :: rest =>
    have others := toList_writeItems depth (next :: rest)
    rw [writeItems] at others
    rw [writeItems, writeItems, toList_parts_cons, others, toList_writeAt depth item,
      spellingOfItems]

theorem toList_writeMembers (depth : Nat) (members : Members) :
    (", ".intercalate ((writeMembers (spacedStyle asciiOnly) depth members).map fun (name, text) =>
      writeString asciiOnly name ++ ": " ++ text)).toList ++ ['\x7d'] =
        spellingOfMembers members asciiOnly := by
  match members with
  | [] => rfl
  | [(name, value)] =>
    rw [writeMembers, writeMembers, List.map_singleton, toList_parts_singleton, toList_member,
      toList_writeAt depth value, spellingOfMembers, List.append_assoc]
    rfl
  | (name, value) :: next :: rest =>
    obtain ⟨nextName, nextValue⟩ := next
    have others := toList_writeMembers depth ((nextName, nextValue) :: rest)
    rw [writeMembers, List.map_cons] at others
    rw [writeMembers, writeMembers, List.map_cons, List.map_cons, toList_parts_cons, others,
      toList_member, toList_writeAt depth value, spellingOfMembers, List.append_assoc]
    rfl

end

/-- The text of a value is its characters. -/
theorem toList_write_spaced (value : Value) :
    (value.write (spacedStyle asciiOnly)).toList = value.spelling asciiOnly :=
  toList_writeAt 0 value

end Text

@[inherit_doc toList_write_spaced]
theorem toList_write (value : Value) : (value.write .spacedAscii).toList = value.spelling :=
  toList_write_spaced value

end Value

end MoveAudit.Json
