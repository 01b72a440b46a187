/-
This file shows that what is written for a type tells which type it is, be it built from primitive
types, structs, vectors, references and type parameters to any depth. The text is read from the
left: how it begins tells the form of the type, since only a struct goes on with a colon after its
first name and only a vector with an angle bracket, and a blank follows no name. What stands inside
a type always ends before a comma or a closing bracket, neither of which can go on with a type, so
the parts of two types that are written alike are cut at the same places.
-/

import MoveAudit.Proofs.Move.Types

namespace MoveAudit.Move

open Json

/-! ### Types of every form -/

/-- A type that needs no declaration. -/
inductive Primitive where
  | bool
  | u8
  | u16
  | u32
  | u64
  | u128
  | u256
  | address
  | signer
  deriving DecidableEq, Repr

/-- The name that a node has for a primitive type. -/
def Primitive.word : Primitive → String
  | bool => "Bool"
  | u8 => "U8"
  | u16 => "U16"
  | u32 => "U32"
  | u64 => "U64"
  | u128 => "U128"
  | u256 => "U256"
  | address => "Address"
  | signer => "Signer"

/-- A type of any form, with types of any form inside. -/
inductive TypeTree where
  | primitive (kind : Primitive)
  | struct (name : StructName) (arguments : List TypeTree)
  | vector (element : TypeTree)
  | reference (target : TypeTree)
  | mutableReference (target : TypeTree)
  | parameter (index : Nat)

namespace TypeTree

mutual

/-- The description of a type. -/
def document : TypeTree → Value
  | primitive kind => .string kind.word
  | struct name arguments => .object [("Struct", .object [
      ("address", .string name.address.text), ("module", .string name.module.text),
      ("name", .string name.name.text), ("typeArguments", .array (documents arguments))])]
  | vector element => .object [("Vector", element.document)]
  | reference target => .object [("Reference", target.document)]
  | mutableReference target => .object [("MutableReference", target.document)]
  | parameter index => .object [("TypeParameter", .int index)]

@[inherit_doc document]
def documents : List TypeTree → List Value
  | [] => []
  | first :: rest => first.document :: documents rest

end

mutual

/-- The text of a type. -/
def text : TypeTree → String
  | primitive kind => kind.word
  | struct name arguments => name.full ++ textOfArguments arguments
  | vector element => "vector<" ++ element.text ++ ">"
  | reference target => "&" ++ target.text
  | mutableReference target => "&mut " ++ target.text
  | parameter index => "T" ++ (Value.int index).shown

/-- The text of the type arguments of a struct, in their brackets. -/
def textOfArguments : List TypeTree → String
  | [] => ""
  | first :: rest => "<" ++ first.text ++ textOfOthers rest

/-- The text of the type arguments after the first one, up to the closing bracket. -/
def textOfOthers : List TypeTree → String
  | [] => ">"
  | next :: rest => ", " ++ next.text ++ textOfOthers rest

end

end TypeTree

/-! ### What is written for a description -/

theorem render_reference (target : Value) :
    Descriptor.render (.object [("Reference", target)]) =
      do return "&" ++ (← Descriptor.render target) := by
  rw [Descriptor.render]
  split
  · next found => cases found
  split
  · next found => cases found
  split
  · next found =>
    cases found
    rfl
  · next none => cases none

theorem render_mutableReference (target : Value) :
    Descriptor.render (.object [("MutableReference", target)]) =
      do return "&mut " ++ (← Descriptor.render target) := by
  rw [Descriptor.render]
  split
  · next found => cases found
  split
  · next found => cases found
  split
  · next found => cases found
  split
  · next found =>
    cases found
    rfl
  · next none => cases none

namespace TypeTree

/-- The texts of type arguments with commas between them are those of the first one and of the
others. -/
theorem intercalate_texts (first : TypeTree) (rest : List TypeTree) :
    ", ".intercalate ((first :: rest).map text) ++ ">" = first.text ++ textOfOthers rest := by
  induction rest generalizing first with
  | nil => rw [List.map_singleton, String.intercalate_singleton, textOfOthers]
  | cons next rest inductionHypothesis =>
    have others := inductionHypothesis next
    rw [List.map_cons] at others
    rw [List.map_cons, List.map_cons, String.intercalate_cons_cons, String.append_assoc, others,
      textOfOthers, String.append_assoc, String.append_assoc]

mutual

/-- The text of a type is what is written for its description. -/
theorem render_document : ∀ type : TypeTree, Descriptor.render type.document = .ok type.text
  | primitive kind => by rw [document, Descriptor.render, text]
  | struct name arguments => by
    have describes : DescribesStruct [("address", .string name.address.text),
        ("module", .string name.module.text), ("name", .string name.name.text),
        ("typeArguments", .array (documents arguments))] name (documents arguments) :=
      ⟨rfl, rfl, rfl, .camel rfl⟩
    rw [document, render_struct describes.structId_eq describes.lists.typeArguments_eq,
      render_documents arguments, text]
    refine congrArg Except.ok ?_
    cases arguments with
    | nil =>
      rw [textOfArguments, String.append_empty]
      rfl
    | cons first rest =>
      show name.full ++ "<" ++ ", ".intercalate ((first :: rest).map text) ++ ">" = _
      simp only [textOfArguments, String.append_assoc, intercalate_texts]
  | vector element => by
    rw [document, render_vector, render_document element, text]
    rfl
  | reference target => by
    rw [document, render_reference, render_document target, text]
    rfl
  | mutableReference target => by
    rw [document, render_mutableReference, render_document target, text]
    rfl
  | parameter index => by rw [document, render_parameter, text]

@[inherit_doc render_document]
theorem render_documents : ∀ types : List TypeTree,
    (documents types).mapM Descriptor.render = .ok (types.map text)
  | [] => rfl
  | first :: rest => by
    rw [documents, List.mapM_cons, render_document first, render_documents rest]
    rfl

end

end TypeTree

/-! ### How a text begins -/

/-- A text goes on without a character of a name. -/
def Stops (after : List Char) : Prop :=
  ∀ c ∈ after.head?, isNameChar c = false

/-- Nothing, or what may follow a type that stands inside another one. -/
def Ends (after : List Char) : Prop :=
  ∀ c ∈ after.head?, c = ',' ∨ c = '>'

theorem Ends.stops {after : List Char} (ends : Ends after) : Stops after := by
  intro c isFirst
  rcases ends c isFirst with rfl | rfl <;> rfl

theorem stops_cons {c : Char} (other : isNameChar c = false) (after : List Char) :
    Stops (c :: after) := by
  rintro d isFirst
  rwa [← Option.some.inj isFirst]

theorem ends_close (after : List Char) : Ends ('>' :: after) :=
  fun _ isFirst => .inr (Option.some.inj isFirst).symm

section Word

variable {word after : List Char} (isWord : word.all isNameChar = true) (stops : Stops after)
include isWord stops

theorem takeWhile_word : (word ++ after).takeWhile isNameChar = word := by
  rw [List.takeWhile_append_of_pos (List.all_eq_true.mp isWord)]
  cases after with
  | nil => exact List.append_nil word
  | cons c rest =>
    rw [List.takeWhile_cons_of_neg (ne_true_of_eq_false (stops c rfl)), List.append_nil]

theorem dropWhile_word : (word ++ after).dropWhile isNameChar = after := by
  rw [List.dropWhile_append_of_pos (List.all_eq_true.mp isWord)]
  cases after with
  | nil => rfl
  | cons c rest => rw [List.dropWhile_cons_of_neg (ne_true_of_eq_false (stops c rfl))]

end Word

/-- Two names that stand at the front of one text, where neither goes on, are the same. -/
theorem Name.cancel {name other : Name} {after afterToo : List Char} (stops : Stops after)
    (stopsToo : Stops afterToo)
    (same : name.text.toList ++ after = other.text.toList ++ afterToo) :
    name = other ∧ after = afterToo := by
  have words := congrArg (List.takeWhile isNameChar) same
  have rests := congrArg (List.dropWhile isNameChar) same
  rw [takeWhile_word name.characters stops, takeWhile_word other.characters stopsToo] at words
  rw [dropWhile_word name.characters stops, dropWhile_word other.characters stopsToo] at rests
  exact ⟨Name.eq_of_text (String.toList_injective words), rests⟩

/-- How the text of a type begins, with what comes after that. -/
inductive Lead where
  | word (word after : List Char)
  | struct (address after : List Char)
  | vector (after : List Char)
  | reference (after : List Char)
  | mutableReference (after : List Char)

/-- How a text begins with a name, where it is known what follows the name. -/
def Lead.ofWord (word : List Char) : (after : List Char) → Lead
  | ':' :: ':' :: after => .struct word after
  | '<' :: after => .vector after
  | after => .word word after

/-- How a text begins, if it is the text of a type. -/
def lead : List Char → Lead
  | '&' :: 'm' :: 'u' :: 't' :: ' ' :: after => .mutableReference after
  | '&' :: after => .reference after
  | text => .ofWord (text.takeWhile isNameChar) (text.dropWhile isNameChar)

theorem lead_word {word after : List Char} (isWord : word.all isNameChar = true)
    (nonempty : word ≠ []) (stops : Stops after) :
    lead (word ++ after) = .ofWord word after := by
  have isFirst : ∀ rest, word ++ after ≠ '&' :: rest := by
    intro rest same
    cases word with
    | nil => exact nonempty rfl
    | cons c others =>
      obtain ⟨rfl, _⟩ := List.cons.inj same
      exact absurd (List.all_eq_true.mp isWord '&' List.mem_cons_self) (by decide)
  unfold lead
  split
  · next same => exact absurd same (isFirst _)
  · next same => exact absurd same (isFirst _)
  · rw [takeWhile_word isWord stops, dropWhile_word isWord stops]

/-- What ends is not a part of a name in full, and opens no bracket. -/
theorem Ends.ofWord_eq {after : List Char} (ends : Ends after) (word : List Char) :
    Lead.ofWord word after = .word word after := by
  unfold Lead.ofWord
  split
  · next rest =>
    rcases ends ':' rfl with isComma | isClose
    · exact absurd isComma (by decide)
    · exact absurd isClose (by decide)
  · next rest =>
    rcases ends '<' rfl with isComma | isClose
    · exact absurd isComma (by decide)
    · exact absurd isClose (by decide)
  · rfl

/-- A text with a blank behind its first name is no text of a type. -/
theorem lead_reference {after : List Char}
    (noBlank : (after.dropWhile isNameChar).head? ≠ some ' ') :
    lead ('&' :: after) = .reference after := by
  unfold lead
  split
  · next rest same =>
    obtain ⟨_, rfl⟩ := List.cons.inj same
    exact absurd rfl noBlank
  · next same =>
    obtain ⟨_, rfl⟩ := List.cons.inj same
    rfl
  · next other =>
    exact absurd rfl (other after)

namespace TypeTree

/-- How the text of a type begins, with what comes after that. -/
def lead (after : List Char) : TypeTree → Lead
  | primitive kind => .word kind.word.toList after
  | struct name arguments => .struct name.address.text.toList (name.module.text.toList ++
      ':' :: ':' :: (name.name.text.toList ++ ((textOfArguments arguments).toList ++ after)))
  | vector element => .vector (element.text.toList ++ '>' :: after)
  | reference target => .reference (target.text.toList ++ after)
  | mutableReference target => .mutableReference (target.text.toList ++ after)
  | parameter index => .word ('T' :: Nat.toDigits 10 index) after

/-- The text of a type begins with a name, and what is behind the name tells the form of the
type. -/
structure BeginsWith (type : TypeTree) (after word behind : List Char) : Prop where
  whole : type.text.toList ++ after = word ++ behind
  isWord : word.all isNameChar = true
  nonempty : word ≠ []
  stops : Stops behind
  noBlank : behind.head? ≠ some ' '
  lead_eq : Lead.ofWord word behind = type.lead after

/-- The text of a type that is no reference begins with a name. -/
theorem begins (type : TypeTree) {after : List Char} (ends : Ends after) :
    (∃ target, type = reference target) ∨ (∃ target, type = mutableReference target) ∨
      ∃ word behind, type.BeginsWith after word behind := by
  have endsBlank : after.head? ≠ some ' ' := by
    intro isFirst
    rcases ends ' ' isFirst with isComma | isClose
    · exact absurd isComma (by decide)
    · exact absurd isClose (by decide)
  cases type with
  | reference target => exact .inl ⟨target, rfl⟩
  | mutableReference target => exact .inr (.inl ⟨target, rfl⟩)
  | primitive kind =>
    refine .inr (.inr ⟨kind.word.toList, after, ?_, ?_, ?_, ends.stops, endsBlank,
      ends.ofWord_eq _⟩)
    · rw [text]
    · cases kind <;> decide
    · cases kind <;> decide
  | parameter index =>
    refine .inr (.inr ⟨'T' :: Nat.toDigits 10 index, after, ?_, ?_, nofun, ends.stops, endsBlank,
      ends.ofWord_eq _⟩)
    · rw [text, String.toList_append, toList_shown]
      rfl
    · refine List.all_eq_true.mpr (List.forall_mem_cons.mpr ⟨by decide, fun c member => ?_⟩)
      have isDigit := Nat.isDigit_of_mem_toDigits (by decide) (by decide) member
      simp [isNameChar, Char.isAlphanum, isDigit]
  | struct name arguments =>
    refine .inr (.inr ⟨name.address.text.toList, ':' :: ':' :: _, ?_, name.address.characters, ?_,
      stops_cons (by decide) _, by simp, rfl⟩)
    · simp [text, StructName.full, String.toList_append]
    · exact fun empty => name.address.nonempty (String.toList_injective empty)
  | vector element =>
    refine .inr (.inr ⟨"vector".toList, '<' :: _, ?_, by decide, by decide,
      stops_cons (by decide) _, by simp, rfl⟩)
    simp [text, String.toList_append]

/-- No blank follows the first name in the text of a type. -/
theorem noBlank (type : TypeTree) {after : List Char} (ends : Ends after) :
    ((type.text.toList ++ after).dropWhile isNameChar).head? ≠ some ' ' := by
  rcases type.begins ends with ⟨target, rfl⟩ | ⟨target, rfl⟩ | ⟨word, behind, begins⟩
  · rw [text, String.toList_append]
    exact nofun
  · rw [text, String.toList_append]
    exact nofun
  · rw [begins.whole, dropWhile_word begins.isWord begins.stops]
    exact begins.noBlank

/-- The text of a type tells how the type begins. -/
theorem lead_text (type : TypeTree) {after : List Char} (ends : Ends after) :
    Move.lead (type.text.toList ++ after) = type.lead after := by
  rcases type.begins ends with ⟨target, rfl⟩ | ⟨target, rfl⟩ | ⟨word, behind, begins⟩
  · rw [text, lead, String.toList_append]
    exact lead_reference (target.noBlank ends)
  · rw [text, lead, String.toList_append]
    rfl
  · rw [begins.whole, lead_word begins.isWord begins.nonempty begins.stops, begins.lead_eq]

/-! ### Types that are written alike -/

theorem ends_textOfOthers (types : List TypeTree) (after : List Char) :
    Ends ((textOfOthers types).toList ++ after) := by
  cases types with
  | nil =>
    rw [textOfOthers]
    exact ends_close after
  | cons next rest =>
    rw [textOfOthers, String.toList_append, String.toList_append]
    exact fun _ isFirst => .inl (Option.some.inj isFirst).symm

theorem stops_textOfArguments (types : List TypeTree) {after : List Char} (ends : Ends after) :
    Stops ((textOfArguments types).toList ++ after) := by
  cases types with
  | nil =>
    rw [textOfArguments]
    exact ends.stops
  | cons first rest =>
    rw [textOfArguments, String.toList_append, String.toList_append]
    exact stops_cons (by decide) _

theorem not_ends {c : Char} (isComma : c ≠ ',') (isClose : c ≠ '>') (after : List Char) :
    ¬ Ends (c :: after) :=
  fun ends => (ends c rfl).elim isComma isClose

theorem toDigits_inj {index other : Nat} (same : Nat.toDigits 10 index = Nat.toDigits 10 other) :
    index = other := by
  rw [← @Nat.ofDigitChars_ten_toDigits index, same, Nat.ofDigitChars_ten_toDigits]

theorem word_inj {kind other : Primitive} (same : kind.word.toList = other.word.toList) :
    kind = other := by
  cases kind <;> cases other <;> first | rfl | exact absurd same (by decide)

/-- No primitive type has the name of a type parameter. -/
theorem word_ne_parameter (kind : Primitive) (digits : List Char) :
    kind.word.toList ≠ 'T' :: digits := by
  have differs : kind.word.toList.head? ≠ some 'T' := by cases kind <;> decide
  exact fun same => differs (congrArg List.head? same)

mutual

/-- Of two types that stand at the front of one text, each up to where something inside another
type may end, one is the other. -/
theorem cancel : ∀ (type other : TypeTree) {after afterToo : List Char}, Ends after → Ends afterToo →
    type.text.toList ++ after = other.text.toList ++ afterToo → type = other ∧ after = afterToo
  | type, other, after, afterToo, ends, endsToo, same => by
    have led := congrArg Move.lead same
    rw [type.lead_text ends, other.lead_text endsToo] at led
    cases type with
    | primitive kind =>
      cases other with
      | primitive kindToo =>
        obtain ⟨sameWord, rests⟩ := Lead.word.inj led
        exact ⟨congrArg primitive (word_inj sameWord), rests⟩
      | parameter index => exact absurd (Lead.word.inj led).1 (word_ne_parameter kind _)
      | _ => cases led
    | parameter index =>
      cases other with
      | parameter indexToo =>
        obtain ⟨sameWord, rests⟩ := Lead.word.inj led
        exact ⟨congrArg parameter (toDigits_inj (List.cons.inj sameWord).2), rests⟩
      | primitive kind => exact absurd (Lead.word.inj led).1.symm (word_ne_parameter kind _)
      | _ => cases led
    | struct name arguments =>
      cases other with
      | struct nameToo argumentsToo =>
        obtain ⟨address, module, only⟩ := name
        obtain ⟨addressToo, moduleToo, onlyToo⟩ := nameToo
        obtain ⟨sameAddress, behind⟩ := Lead.struct.inj led
        obtain rfl := Name.eq_of_text (String.toList_injective sameAddress)
        obtain ⟨rfl, behind⟩ := Name.cancel (stops_cons (by decide) _) (stops_cons (by decide) _)
          behind
        obtain ⟨rfl, bracket⟩ := Name.cancel (stops_textOfArguments arguments ends)
          (stops_textOfArguments argumentsToo endsToo) (List.cons.inj (List.cons.inj behind).2).2
        obtain ⟨rfl, rests⟩ := cancel_arguments arguments argumentsToo ends endsToo bracket
        exact ⟨rfl, rests⟩
      | _ => cases led
    | vector element =>
      cases other with
      | vector elementToo =>
        obtain ⟨rfl, rests⟩ := cancel element elementToo (ends_close after) (ends_close afterToo)
          (Lead.vector.inj led)
        exact ⟨rfl, (List.cons.inj rests).2⟩
      | _ => cases led
    | reference target =>
      cases other with
      | reference targetToo =>
        obtain ⟨rfl, rests⟩ := cancel target targetToo ends endsToo (Lead.reference.inj led)
        exact ⟨rfl, rests⟩
      | _ => cases led
    | mutableReference target =>
      cases other with
      | mutableReference targetToo =>
        obtain ⟨rfl, rests⟩ := cancel target targetToo ends endsToo (Lead.mutableReference.inj led)
        exact ⟨rfl, rests⟩
      | _ => cases led

@[inherit_doc cancel]
theorem cancel_arguments : ∀ (types others : List TypeTree) {after afterToo : List Char},
    Ends after → Ends afterToo →
      (textOfArguments types).toList ++ after = (textOfArguments others).toList ++ afterToo →
        types = others ∧ after = afterToo
  | [], [], _, _, _, _, same => ⟨rfl, by simpa [textOfArguments] using same⟩
  | [], first :: rest, after, _, ends, _, same => by
    rw [textOfArguments, textOfArguments, String.toList_append, String.toList_append] at same
    have opens : after = '<' :: _ := same
    rw [opens] at ends
    exact absurd ends (not_ends (by decide) (by decide) _)
  | first :: rest, [], _, afterToo, _, endsToo, same => by
    rw [textOfArguments, textOfArguments, String.toList_append, String.toList_append] at same
    have opens : afterToo = '<' :: _ := same.symm
    rw [opens] at endsToo
    exact absurd endsToo (not_ends (by decide) (by decide) _)
  | first :: rest, firstToo :: restToo, after, afterToo, _, _, same => by
    rw [textOfArguments, textOfArguments] at same
    simp only [String.toList_append, List.append_assoc, List.append_cancel_left_eq] at same
    obtain ⟨rfl, others⟩ := cancel first firstToo (ends_textOfOthers rest after)
      (ends_textOfOthers restToo afterToo) same
    obtain ⟨rfl, rests⟩ := cancel_others rest restToo others
    exact ⟨rfl, rests⟩

@[inherit_doc cancel]
theorem cancel_others : ∀ (types others : List TypeTree) {after afterToo : List Char},
    (textOfOthers types).toList ++ after = (textOfOthers others).toList ++ afterToo →
      types = others ∧ after = afterToo
  | [], [], _, _, same => ⟨rfl, by simpa [textOfOthers] using same⟩
  | [], _ :: _, _, _, same => by
    rw [textOfOthers, textOfOthers, String.toList_append, String.toList_append] at same
    exact absurd (List.cons.inj same).1 (by decide)
  | _ :: _, [], _, _, same => by
    rw [textOfOthers, textOfOthers, String.toList_append, String.toList_append] at same
    exact absurd (List.cons.inj same).1 (by decide)
  | first :: rest, firstToo :: restToo, after, afterToo, same => by
    rw [textOfOthers, textOfOthers] at same
    simp only [String.toList_append, List.append_assoc, List.append_cancel_left_eq] at same
    obtain ⟨rfl, others⟩ := cancel first firstToo (ends_textOfOthers rest after)
      (ends_textOfOthers restToo afterToo) same
    obtain ⟨rfl, rests⟩ := cancel_others rest restToo others
    exact ⟨rfl, rests⟩

end

/-- What is written for the description of a type tells which type it is, so two different types are
never shown as one, to whatever depth they are built. -/
theorem render_document_injective :
    Function.Injective fun type : TypeTree => Descriptor.render type.document := by
  intro type other same
  dsimp only at same
  rw [render_document, render_document] at same
  have written := congrArg String.toList (Except.ok.inj same)
  exact (@cancel type other [] [] nofun nofun (congrArg (· ++ []) written)).1

end TypeTree

end MoveAudit.Move
