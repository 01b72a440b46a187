/-
This file shows when the object that a model was asked for is found in its answer. The object may
stand alone, in a fence or between words. The place it stands in is among those that are tried, and
the places before it are either parts of its text, which are no values, or what stands in a fence
around JSON. Such a fence may be part of a name or a string of the object. The object is then lost
if what stands in that fence is an object too. It is also lost if it is deeper than there is room
for.
-/

import MoveAudit.Proofs.Json.Depth
import MoveAudit.Proofs.Json.Marks
import MoveAudit.Proofs.Text.Blank
import MoveAudit.Proofs.Text.Search
import MoveAudit.Reasoning.Reply

namespace MoveAudit.Reply

open Json

/-! ### Places for an object -/

/-- A text from an opening brace to a closing one. -/
def IsEnclosed (text : List Char) : Prop :=
  ∃ middle, text = '\x7b' :: (middle ++ ['\x7d'])

/-- A text in a fence on lines of its own. -/
def fenced (language text : List Char) : List Char :=
  fence ++ (language ++ '\n' :: (text ++ '\n' :: fence))

theorem isEnclosed_spelling (members : Members) : IsEnclosed (Value.object members).spelling := by
  have ends : ∃ middle, Value.spellingOfMembers members = middle ++ ['\x7d'] := by
    induction members with
    | nil => exact ⟨[], rfl⟩
    | cons member others inductionHypothesis =>
      have closes : ∃ middle, Value.afterMember others = middle ++ ['\x7d'] := by
        cases others with
        | nil => exact ⟨[], rfl⟩
        | cons next others =>
          obtain ⟨middle, text⟩ := inductionHypothesis
          exact ⟨',' :: ' ' :: middle, congrArg (',' :: ' ' :: ·) text⟩
      obtain ⟨middle, text⟩ := closes
      refine ⟨inQuotes member.1 ++ (':' :: ' ' :: (member.2.spelling ++ middle)), ?_⟩
      rw [Value.spellingOfMembers_cons member.1 member.2 others, text, List.append_assoc,
        List.cons_append, List.cons_append, List.append_assoc]
  obtain ⟨middle, text⟩ := ends
  exact ⟨middle, congrArg _ text⟩

theorem slice_append (before text after : List Char) :
    ((before ++ (text ++ after)).take (before.length + text.length)).drop before.length = text := by
  rw [← List.append_assoc, ← List.length_append, List.take_left, List.drop_left]

theorem trim_fenced (language text : List Char) :
    Text.trim (fenced language text) = fenced language text := by
  have starts : Text.trimStart (fenced language text) = fenced language text :=
    Text.trimStart_cons rfl _
  have ends : fenced language text =
      fence ++ (language ++ '\n' :: (text ++ ['\n', '`', '`'])) ++ ['`'] := by
    unfold fenced
    rw [List.append_assoc, List.append_assoc, List.cons_append, List.append_assoc]
    rfl
  rw [Text.trim, starts, ends]
  exact Text.trimEnd_concat rfl _

section Places

variable {text : List Char} (isEnclosed : IsEnclosed text)

include isEnclosed

theorem trim_around (before after : List Char) :
    Text.trim (before ++ (text ++ after)) =
      Text.trimStart before ++ (text ++ Text.trimEnd after) := by
  obtain ⟨middle, rfl⟩ := isEnclosed
  have starts := @Text.trimStart_append '\x7b' rfl before (middle ++ ['\x7d'] ++ after)
  have ends := @Text.trimEnd_append '\x7d' rfl (Text.trimStart before ++ '\x7b' :: middle) after
  rw [List.append_assoc (Text.trimStart before), List.append_assoc (Text.trimStart before),
    List.append_assoc (Text.trimStart before)] at ends
  unfold Text.trim
  rw [List.cons_append, starts]
  exact ends

theorem trim_enclosed : Text.trim text = text := by
  have trimmed := trim_around isEnclosed [] []
  rw [List.nil_append, List.append_nil] at trimmed
  exact trimmed.trans (List.append_nil text)

theorem inBraces?_between {before after : List Char} (plainBefore : '\x7b' ∉ before)
    (plainAfter : '\x7d' ∉ after) : inBraces? (before ++ (text ++ after)) = some text := by
  obtain ⟨middle, rfl⟩ := isEnclosed
  have isFirst : Text.indexOf? ['\x7b'] (before ++ ('\x7b' :: (middle ++ ['\x7d']) ++ after)) =
      some before.length :=
    Text.indexOf?_of_notMem [] (middle ++ ['\x7d'] ++ after) plainBefore
  have isLast : Text.lastIndexOf? ['\x7d'] (before ++ ('\x7b' :: (middle ++ ['\x7d']) ++ after)) =
      some (before.length + (middle.length + 1)) := by
    have last := Text.lastIndexOf?_of_notMem (before ++ '\x7b' :: middle) [] plainAfter
    rw [List.length_append, List.length_cons] at last
    rw [← last]
    simp
  have slice := slice_append before ('\x7b' :: (middle ++ ['\x7d'])) after
  rw [List.length_cons, List.length_append, List.length_singleton] at slice
  unfold inBraces?
  rw [isFirst, isLast]
  dsimp only
  rw [if_pos (by omega)]
  exact congrArg some slice

theorem inPlainFence?_fenced {language : List Char} (oneLine : '\n' ∉ language) :
    inPlainFence? (fenced language text) = some text := by
  have isFenced : fence.isPrefixOf (fenced language text) = true :=
    List.isPrefixOf_iff_prefix.mpr (List.prefix_append _ _)
  have firstLine : '\n' ∉ fence ++ language := by
    rw [List.mem_append, not_or]
    exact ⟨by decide, oneLine⟩
  have isFirst : Text.indexOf? ['\n'] (fenced language text) = some (fence ++ language).length := by
    have first := Text.indexOf?_of_notMem [] (text ++ '\n' :: fence) firstLine
    rw [List.append_assoc] at first
    exact first
  have whole : fence ++ language ++ ['\n'] ++ (text ++ ['\n']) ++ fence = fenced language text := by
    simp [fenced]
  have isLast : Text.lastIndexOf? fence (fenced language text) =
      some ((fence ++ language ++ ['\n']).length + (text ++ ['\n']).length) := by
    rw [← whole, ← List.length_append]
    exact @Text.lastIndexOf?_of_notMem '`' [] _ ['`', '`'] List.not_mem_nil
  have slice := slice_append (fence ++ language ++ ['\n']) (text ++ ['\n']) fence
  rw [← List.append_assoc, whole] at slice
  have trimmed : Text.trim (text ++ ['\n']) = text :=
    (trim_around isEnclosed [] ['\n']).trans (List.append_nil text)
  have opens : (fence ++ language ++ ['\n']).length = (fence ++ language).length + 1 :=
    List.length_append
  have closes : (text ++ ['\n']).length = text.length + 1 := List.length_append
  unfold inPlainFence?
  rw [isFenced, isFirst, isLast]
  dsimp only
  rw [if_neg (by decide), ← opens, if_pos (by omega), slice, trimmed]

/-- What a line begins with, without the blanks around it, is what the text in it begins with. -/
theorem trim_line_cut {part : List Char} (isPart : part <+: text ++ ['\n']) :
    Text.trim ('\n' :: part) <+: text := by
  rcases List.prefix_concat_iff.mp isPart with rfl | within
  · have trimmed : Text.trim ('\n' :: (text ++ ['\n'])) = text :=
      (trim_around isEnclosed ['\n'] ['\n']).trans (List.append_nil text)
    rw [trimmed]
  · have starts : Text.trimStart text = text := by
      obtain ⟨middle, rfl⟩ := isEnclosed
      exact Text.trimStart_cons rfl _
    have stays := Text.trimStart_eq_of_starts (starts.symm ▸ within)
    show Text.trimEnd (Text.trimStart part) <+: text
    rw [stays]
    exact (List.rdropWhile_prefix _ _).trans within

/-- What is found in the fence is part of the text, since the text may hold the end of a fence. -/
theorem prefix_of_inJsonFence?_fenced {held : List Char}
    (found : inJsonFence? (fenced "json".toList text) = some held) : held <+: text := by
  have cut : Text.cut? jsonFence (fenced "json".toList text) =
      some ([], '\n' :: (text ++ '\n' :: fence)) :=
    @Text.cut?_of_notMem '`' [] _ _ List.not_mem_nil
  unfold inJsonFence? at found
  rw [cut] at found
  dsimp only at found
  split at found
  · rename_i first inside after isInside
    obtain rfl := Option.some.inj found
    have whole := Text.eq_of_cut? isInside
    have isPart : first :: inside <+: '\n' :: (text ++ ['\n']) := by
      have fits : '\n' :: (text ++ ['\n']) ++ fence = first :: inside ++ (fence ++ after) := by
        rw [← List.append_assoc, ← whole, List.cons_append, List.append_assoc]
        rfl
      refine List.prefix_of_prefix_length_le (fits ▸ List.prefix_append _ _)
        (List.prefix_append _ fence) ?_
      have lengths := congrArg List.length fits
      rw [List.length_append, List.length_append, List.length_append] at lengths
      omega
    obtain ⟨rfl, isRest⟩ := List.cons_prefix_cons.mp isPart
    exact trim_line_cut isEnclosed isRest
  · cases found

end Places

/-! ### Objects that are tried -/

/-- A text that is tried first holds another object, or something that ends the search: a whole
number that is too long, or a bracket that there is no room for. -/
def Misleads (room : Nat) (held : List Char) (members : Members) : Prop :=
  (∃ others, readWithin room (String.ofList held) = .ok (.object others) ∧ others ≠ members) ∨
    (∃ digits, readWithin room (String.ofList held) = .error (.tooManyDigits digits)) ∨
      ∃ bracket, readWithin room (String.ofList held) = .error (.tooDeep bracket)

section Misleading

variable {room : Nat} {held : List Char} {members : Members}

theorem not_misleads_of_found
    (reads : readWithin room (String.ofList held) = .ok (.object members)) :
    ¬ Misleads room held members := by
  unfold Misleads
  rw [reads]
  rintro (⟨_, ⟨⟩, differs⟩ | ⟨_, ⟨⟩⟩ | ⟨_, ⟨⟩⟩)
  exact differs rfl

theorem not_misleads_of_fault {fault : SyntaxFault} {position : Nat}
    (fails : readWithin room (String.ofList held) = .error (.fault fault position)) :
    ¬ Misleads room held members := by
  unfold Misleads
  rw [fails]
  rintro (⟨_, ⟨⟩, _⟩ | ⟨_, ⟨⟩⟩ | ⟨_, ⟨⟩⟩)

end Misleading

theorem candidates_eq (content : List Char) : candidates content =
    (inJsonFence? content).toList.map String.ofList ++
      ((inPlainFence? content).toList.map String.ofList ++
        (inBraces? content).toList.map String.ofList) := by
  unfold candidates
  cases inJsonFence? content <;> cases inPlainFence? content <;> cases inBraces? content <;> rfl

theorem firstObject_eq_ok_iff {room : Nat} {members : Members} {text : String}
    (reads : readWithin room text = .ok (.object members)) (tried : Option (List Char))
    (fault : Fault) (rest : List String) :
    firstObject room fault (tried.toList.map String.ofList ++ text :: rest) = .ok members ↔
      ¬ ∃ held, tried = some held ∧ Misleads room held members := by
  have next (fault : Fault) : firstObject room fault (text :: rest) = .ok members := by
    rw [firstObject, reads]
  cases tried with
  | none => exact iff_of_true (next fault) nofun
  | some held =>
    have same :
        (∃ other, some held = some other ∧ Misleads room other members) ↔
          Misleads room held members :=
      ⟨by rintro ⟨_, ⟨⟩, misleads⟩; exact misleads, fun misleads => ⟨held, rfl, misleads⟩⟩
    rw [same]
    show firstObject room fault (String.ofList held :: text :: rest) = _ ↔ _
    rw [firstObject]
    cases outcome : readWithin room (String.ofList held) with
    | ok value =>
      cases value with
      | object others =>
        by_cases isSame : others = members
        · rw [isSame] at outcome ⊢
          exact iff_of_true rfl (not_misleads_of_found outcome)
        · refine iff_of_false ?_ fun none => none (.inl ⟨others, outcome, isSame⟩)
          rintro ⟨⟩
          exact isSame rfl
      | _ =>
        refine iff_of_true (next _) ?_
        unfold Misleads
        rw [outcome]
        rintro (⟨_, ⟨⟩, _⟩ | ⟨_, ⟨⟩⟩ | ⟨_, ⟨⟩⟩)
    | error error =>
      cases error with
      | fault cause position => exact iff_of_true (next _) (not_misleads_of_fault outcome)
      | tooManyDigits digits =>
        exact iff_of_false nofun fun none => none (.inr (.inl ⟨digits, outcome⟩))
      | tooDeep bracket =>
        exact iff_of_false nofun fun none => none (.inr (.inr ⟨bracket, outcome⟩))

/-- An object that is found is no deeper than there was room for. -/
theorem depth_le_of_firstObject {room : Nat} {members : Members} {places : List String}
    {fault : Fault} (found : firstObject room fault places = .ok members) :
    (Value.object members).depth ≤ room := by
  induction places generalizing fault with
  | nil => cases found
  | cons place rest inductionHypothesis =>
    rw [firstObject] at found
    split at found
    · rename_i reads
      cases found
      exact depth_le_of_readWithin reads
    · exact inductionHypothesis found
    · cases found
    · cases found
    · exact inductionHypothesis found

@[inherit_doc depth_le_of_firstObject]
theorem depth_le_of_object {room : Nat} {members : Members} {reply : String}
    (found : object room reply = .ok members) : (Value.object members).depth ≤ room := by
  unfold object at found
  split at found
  · cases found
  · exact depth_le_of_firstObject found

/-! ### Answers -/

/-- Words that could be taken neither for an object nor for a fence. -/
def IsProse (text : String) : Prop :=
  '\x7b' ∉ text.toList ∧ '\x7d' ∉ text.toList ∧ '`' ∉ text.toList

/-- The answers in which a text stands: alone, in a fence on lines of its own or between words. -/
inductive IsWrapped (text : String) : String → Prop
  | alone : IsWrapped text text
  | inJsonFence : IsWrapped text ("```json\n" ++ text ++ "\n```")
  | inPlainFence : IsWrapped text ("```\n" ++ text ++ "\n```")
  | between {before after : String} (isProse : IsProse before) (isProseToo : IsProse after) :
    IsWrapped text (before ++ text ++ after)

/-- What first looks like a fence around JSON in an answer holds another object, or something that
ends the search. -/
def IsMisled (room : Nat) (reply : String) (members : Members) : Prop :=
  ∃ held, inJsonFence? (Text.trim reply.toList) = some held ∧ Misleads room held members

/-- An answer without the blanks around it. -/
inductive IsContent (text : List Char) : List Char → Prop
  | inFence {language : List Char} (isLanguage : language = [] ∨ language = "json".toList) :
    IsContent text (fenced language text)
  | between {before after : List Char} (noBrace : '\x7b' ∉ before) (noFence : '`' ∉ before)
    (noBraceAfter : '\x7d' ∉ after) (noFenceAfter : '`' ∉ after) :
    IsContent text (before ++ (text ++ after))

theorem toList_inJsonFence (text : String) :
    ("```json\n" ++ text ++ "\n```").toList = fenced "json".toList text.toList := by
  rw [String.toList_append, String.toList_append, List.append_assoc]
  rfl

section Answers

variable {text : String} (isEnclosed : IsEnclosed text.toList)

include isEnclosed

theorem IsWrapped.isContent {reply : String} (isWrapped : IsWrapped text reply) :
    IsContent text.toList (Text.trim reply.toList) := by
  cases isWrapped with
  | alone =>
    rw [trim_enclosed isEnclosed]
    have isContent := @IsContent.between text.toList [] [] nofun nofun nofun nofun
    rw [List.nil_append, List.append_nil] at isContent
    exact isContent
  | inJsonFence =>
    rw [toList_inJsonFence, trim_fenced]
    exact .inFence (.inr rfl)
  | inPlainFence =>
    have whole : ("```\n" ++ text ++ "\n```").toList = fenced [] text.toList := by
      rw [String.toList_append, String.toList_append, List.append_assoc]
      rfl
    rw [whole, trim_fenced]
    exact .inFence (.inl rfl)
  | @between before after isProse isProseToo =>
    have isPart : Text.trimStart before.toList ⊆ before.toList := (List.dropWhile_suffix _).subset
    have isPartToo : Text.trimEnd after.toList ⊆ after.toList := (List.rdropWhile_prefix _ _).subset
    rw [String.toList_append, String.toList_append, List.append_assoc, trim_around isEnclosed]
    exact .between (fun member => isProse.1 (isPart member))
      (fun member => isProse.2.2 (isPart member)) (fun member => isProseToo.2.1 (isPartToo member))
      fun member => isProseToo.2.2 (isPartToo member)

end Answers

section Contents

variable {text content : List Char} (isEnclosed : IsEnclosed text)
  (isContent : IsContent text content)

include isEnclosed isContent

theorem IsContent.ne_nil : content ≠ [] := by
  obtain ⟨middle, rfl⟩ := isEnclosed
  cases isContent with
  | inFence _ => exact List.cons_ne_nil _ _
  | between _ _ _ _ => simp

/-- The text is tried, at the latest after what stands in a fence around JSON. -/
theorem IsContent.isTried : ∃ rest, candidates content =
    (inJsonFence? content).toList.map String.ofList ++ String.ofList text :: rest := by
  rw [candidates_eq]
  cases isContent with
  | @inFence language isLanguage =>
    have oneLine : '\n' ∉ language := by
      rcases isLanguage with rfl | rfl <;> decide
    rw [inPlainFence?_fenced isEnclosed oneLine]
    exact ⟨_, rfl⟩
  | @between before after noBrace noFence noBraceAfter _ =>
    have noPlainFence : inPlainFence? (before ++ (text ++ after)) = none := by
      have notFenced : fence.isPrefixOf (before ++ (text ++ after)) = false := by
        refine eq_false_of_ne_true fun isFenced => ?_
        have isHead := head?_of_isPart (List.isPrefixOf_iff_prefix.mp isFenced) '`' rfl
        obtain ⟨middle, rfl⟩ := isEnclosed
        cases before with
        | nil => cases isHead
        | cons first before =>
          cases isHead
          exact noFence List.mem_cons_self
      unfold inPlainFence?
      rw [notFenced]
      rfl
    rw [noPlainFence, inBraces?_between isEnclosed noBrace noBraceAfter]
    exact ⟨_, rfl⟩

end Contents

theorem isMark_jsonFence : IsMark jsonFence where
  starts := rfl
  noBackslash := by decide
  noQuote := by decide
  noComma := by decide
  noBracket := by decide
  noBrace := by decide

/-- Where the text holds no mark of a fence around JSON, only the fence that it stands in is one. -/
theorem IsContent.eq_fenced_of_inJsonFence? {text content held : List Char}
    (isEnclosed : IsEnclosed text) (isContent : IsContent text content)
    (unmarked : ¬ jsonFence <:+: text) (found : inJsonFence? content = some held) :
    content = fenced "json".toList text := by
  have isInfix : jsonFence <:+: content := by
    unfold inJsonFence? at found
    cases cut : Text.cut? jsonFence content with
    | none =>
      rw [cut] at found
      cases found
    | some pair => exact Text.infix_of_cut? cut
  cases isContent with
  | inFence isLanguage =>
    rcases isLanguage with rfl | rfl
    · have short : ¬ jsonFence <:+: fence := fun isInfix => absurd isInfix.length_le (by decide)
      rcases @infix_cases jsonFence fence _ '\n' (by decide) isInfix with before | beyond
      · exact absurd before short
      rcases @infix_cases jsonFence text fence '\n' (by decide) beyond with inside | after
      · exact absurd inside unmarked
      · exact absurd after short
    · rfl
  | @between before after _ noFence _ noFenceAfter =>
    obtain ⟨middle, rfl⟩ := isEnclosed
    have beyondBefore := infix_of_notMem noFence isInfix
    have split : '\x7b' :: (middle ++ ['\x7d']) ++ after = '\x7b' :: middle ++ '\x7d' :: after := by
      simp
    rw [split] at beyondBefore
    rcases infix_cases isMark_jsonFence.noBrace beyondBefore with inside | beyond
    · exact absurd (inside.trans (List.prefix_append _ ['\x7d']).isInfix) unmarked
    · exact absurd beyond (isMark_jsonFence.not_infix noFenceAfter)

/-! ### The object in an answer -/

theorem isContent_of_isWrapped {members : Members} {reply : String}
    (isWrapped : IsWrapped ((Value.object members).write .spacedAscii) reply) :
    IsContent (Value.object members).spelling (Text.trim reply.toList) := by
  have text : ((Value.object members).write .spacedAscii).toList = (Value.object members).spelling :=
    Value.toList_write _
  have isContent := isWrapped.isContent (text ▸ isEnclosed_spelling members)
  rw [text] at isContent
  exact isContent

section Objects

variable {members : Members} (isProper : (Value.object members).IsProper) {room : Nat}
  (fits : (Value.object members).depth ≤ room)

include isProper fits

/-- In a fence around JSON, what is tried first is the object or a part of its text. -/
theorem not_misleads_of_fenced {held : List Char}
    (found : inJsonFence? (fenced "json".toList (Value.object members).spelling) = some held) :
    ¬ Misleads room held members := by
  have isPart := prefix_of_inJsonFence?_fenced (isEnclosed_spelling members) found
  by_cases isWhole : held = (Value.object members).spelling
  · refine not_misleads_of_found ?_
    rw [isWhole, ← Value.toList_write, String.ofList_toList, readWithin_write isProper fits]
  · obtain ⟨fault, position, fails⟩ := readWithin_cut isProper isPart isWhole fits
    exact not_misleads_of_fault fails

variable {reply : String}
  (isWrapped : IsWrapped ((Value.object members).write .spacedAscii) reply)

include isWrapped

/-- The object is found unless something else is found before it. -/
theorem object_of_isWrapped : object room reply = .ok members ↔ ¬ IsMisled room reply members := by
  have isEnclosed := isEnclosed_spelling members
  have isContent := isContent_of_isWrapped isWrapped
  obtain ⟨rest, tried⟩ := isContent.isTried isEnclosed
  have searched :
      object room reply = firstObject room .noObject (candidates (Text.trim reply.toList)) := by
    unfold object
    split
    · rename_i isNil
      exact absurd isNil (isContent.ne_nil isEnclosed)
    · rfl
  rw [searched, tried, ← Value.toList_write, String.ofList_toList]
  exact firstObject_eq_ok_iff (readWithin_write isProper fits) _ _ _

/-- Where no text in the object holds the mark of a fence around JSON, nothing else is found. -/
theorem not_isMisled_of_unmarked
    (unmarked : ∀ text ∈ (Value.object members).allTexts, ¬ jsonFence <:+: text.toList) :
    ¬ IsMisled room reply members := by
  rintro ⟨held, found, misleads⟩
  have isContent := isContent_of_isWrapped isWrapped
  have unmarkedText : ¬ jsonFence <:+: (Value.object members).spelling := by
    intro isInfix
    obtain ⟨text, isText, isMarked⟩ := isMark_jsonFence.of_spelling isProper isInfix
    exact unmarked text isText isMarked
  rw [isContent.eq_fenced_of_inJsonFence? (isEnclosed_spelling members) unmarkedText found] at found
  exact not_misleads_of_fenced isProper fits found misleads

end Objects

/-- An object that stands in an answer, alone, in a fence or between words, is found in it exactly if
there is room for its brackets and the answer does not mislead: unless what stands between the first
mark of a fence around JSON and the next mark of a fence is another object, or ends the search. Where
there is room it never misleads if the object itself is in a fence around JSON, or if no name or
string in the object holds the mark of one. -/
theorem object_eq_ok_iff {members : Members} (isProper : (Value.object members).IsProper)
    {reply : String} (isWrapped : IsWrapped ((Value.object members).write .spacedAscii) reply)
    (room : Nat) :
    (object room reply = .ok members ↔
      (Value.object members).depth ≤ room ∧ ¬ IsMisled room reply members) ∧
    ((Value.object members).depth ≤ room →
      reply = "```json\n" ++ (Value.object members).write .spacedAscii ++ "\n```" ∨
        (∀ text ∈ (Value.object members).allTexts, ¬ jsonFence <:+: text.toList) →
          ¬ IsMisled room reply members) := by
  constructor
  · constructor
    · intro found
      have fits := depth_le_of_object found
      exact ⟨fits, (object_of_isWrapped isProper fits isWrapped).mp found⟩
    · rintro ⟨fits, notMisled⟩
      exact (object_of_isWrapped isProper fits isWrapped).mpr notMisled
  · rintro fits (rfl | unmarked)
    · rintro ⟨held, found, misleads⟩
      rw [toList_inJsonFence, trim_fenced, Value.toList_write] at found
      exact not_misleads_of_fenced isProper fits found misleads
    · exact not_isMisled_of_unmarked isProper fits isWrapped unmarked

/-- Words around an object whose string holds a plain fence. -/
theorem object_between_words :
    object usualRoom ("Here it is: " ++
      (Value.object [("a", .string "```\x7b\x7d```")]).write .spacedAscii ++ " as asked.") =
        .ok [("a", .string "```\x7b\x7d```")] := by
  have isProper : (Value.object [("a", .string "```\x7b\x7d```")]).IsProper :=
    ⟨List.pairwise_singleton _ _, trivial, trivial⟩
  have isProse : IsProse "Here it is: " := ⟨by decide, by decide, by decide⟩
  have isProseToo : IsProse " as asked." := ⟨by decide, by decide, by decide⟩
  obtain ⟨isFound, notMisled⟩ :=
    object_eq_ok_iff isProper (.between isProse isProseToo) usualRoom
  exact isFound.mpr ⟨by decide, notMisled (by decide) (.inr (by decide))⟩

/-- An object alone in an answer is lost to a fence around JSON in its own string. -/
theorem object_lost_to_string : ¬ ∀ (members : Members) (reply : String),
    (Value.object members).IsProper → IsWrapped ((Value.object members).write .spacedAscii) reply →
      object usualRoom reply = .ok members := by
  intro isFound
  have isProper : (Value.object [("a", .string "```json\x7b\x7d```")]).IsProper :=
    ⟨List.pairwise_singleton _ _, trivial, trivial⟩
  have found := isFound _ _ isProper .alone
  have lost : ((object usualRoom
      ((Value.object [("a", .string "```json\x7b\x7d```")]).write .spacedAscii)).toOption.map
        List.length) = some 0 := by
    decide +kernel
  rw [found] at lost
  cases lost

end MoveAudit.Reply
