/-
This file says that the functions of a listing are found again. A listing is text in front, and then
functions, each with its header on a line, lines that do not end in an opening brace, and a closing
brace. The header of each function is recognised at its place, and no header is recognised
elsewhere: where another line has a parenthesis it does not end in a brace, and what could begin in
front of a header is kept from it by the brace or the semicolon behind which only blanks stand. So
the texts that are cut out are the functions, in order.
-/

import MoveAudit.Proofs.Entries.First
import MoveAudit.Proofs.Listing.Header

namespace MoveAudit.Listing

/-! ### Scanning -/

section Scanning

variable {Found : Type} {recognise : List Char → Option (Found × List Char)}

theorem scanLines_nil (none : recognise [] = none) (fuel : Nat) (atStart : Bool) :
    scanLines recognise fuel atStart [] = [] := by
  cases fuel with
  | zero => rfl
  | succ fuel =>
    unfold scanLines
    rw [none, ite_self]

theorem scanLines_cons_of_none {c : Char} {rest : List Char} (none : recognise (c :: rest) = none)
    (fuel : Nat) (atStart : Bool) :
    scanLines recognise (fuel + 1) atStart (c :: rest) =
      scanLines recognise fuel (c == '\n') rest := by
  conv =>
    lhs
    unfold scanLines
    rw [none, ite_self]

theorem scanLines_of_some {text rest : List Char} {found : Found}
    (isFound : recognise text = some (found, rest)) (fuel : Nat) :
    scanLines recognise (fuel + 1) true text = found :: scanLines recognise fuel false rest := by
  conv =>
    lhs
    unfold scanLines
    rw [if_pos rfl, isFound]

/-- A text in which nothing is recognised is passed over. -/
theorem scanLines_of_none {before rest : List Char}
    (none : ∀ part, part ≠ [] → part <:+ before → recognise (part ++ rest) = none) (fuel : Nat)
    (atStart : Bool) :
    scanLines recognise (before.length + fuel) atStart (before ++ rest) =
      scanLines recognise fuel ((before.getLast?.map (· == '\n')).getD atStart) rest := by
  induction before generalizing atStart with
  | nil => rw [List.length_nil, Nat.zero_add]; rfl
  | cons c before inductionHypothesis =>
    have notHere : recognise (c :: (before ++ rest)) = .none :=
      none _ (List.cons_ne_nil _ _) List.suffix_rfl
    rw [List.length_cons, Nat.add_right_comm, List.cons_append, scanLines_cons_of_none notHere,
      inductionHypothesis fun part nonempty isSuffix =>
        none part nonempty (isSuffix.trans (List.suffix_cons c before)), List.getLast?_cons]
    cases before.getLast? <;> rfl

end Scanning

/-! ### Text without headers -/

/-- In a text no line with a parenthesis ends in a brace, and behind what is not blank there stands
a brace or a semicolon. -/
structure IsQuiet (text : List Char) : Prop where
  plain : ∀ before after, text = before ++ '(' :: after →
    closesHeader (after.takeWhile (· != '\n')) = false
  barred : ∀ c ∈ (Text.trimEnd text).getLast?, isBar c = true

theorem takeWhile_append_of_mem {c : Char} {text : List Char} (member : c ∈ text)
    (rest : List Char) : (text ++ rest).takeWhile (· != c) = text.takeWhile (· != c) := by
  rw [List.takeWhile_append, if_neg]
  intro whole
  have isTaken : c ∈ text.takeWhile (· != c) := by
    rwa [(List.takeWhile_prefix (· != c)).eq_of_length whole]
  have differs : (c != c) = true := @List.mem_takeWhile_imp _ (· != c) _ _ isTaken
  exact bne_iff_ne.mp differs rfl

theorem getLast?_of_suffix {part text : List Char} {last : Char} (nonempty : part ≠ [])
    (isSuffix : part <:+ text) (ends : text.getLast? = some last) : part.getLast? = some last := by
  obtain ⟨earlier, rfl⟩ := isSuffix
  rwa [List.getLast?_append_of_ne_nil earlier nonempty] at ends

section Leads

variable {indentation lead more : List Char}

/-- Blanks that go over a line end do not begin a header. -/
theorem IsLead.not_blank (isLead : IsLead lead) (areIndents : ∀ c ∈ indentation, isIndent c = true)
    {gap : List Char} (areBlank : ∀ c ∈ gap, Text.isBlank c = true) (hasBreak : '\n' ∈ gap) :
    indentation ++ lead ≠ gap ++ more := by
  intro whole
  have noBreak : '\n' ∉ indentation := fun member => absurd (areIndents _ member) (by decide)
  obtain ⟨first, others, rfl, isWord⟩ := isLead.begins
  rcases List.append_eq_append_iff.mp whole with ⟨middle, isGap, behind⟩ | ⟨middle, longer, -⟩
  · cases middle with
    | nil =>
      rw [isGap, List.append_nil] at hasBreak
      exact noBreak hasBreak
    | cons other middle =>
      obtain ⟨rfl, -⟩ := List.cons.inj behind
      have blank := areBlank first (isGap ▸ List.mem_append_right _ List.mem_cons_self)
      rw [Text.isWordChar_of_isBlank blank] at isWord
      cases isWord
  · exact noBreak (longer ▸ List.mem_append_left _ hasBreak)

/-- Neither does a text with a brace or a semicolon at the end of a line. -/
theorem IsLead.not_barred (isLead : IsLead lead)
    (areIndents : ∀ c ∈ indentation, isIndent c = true) {before gap : List Char} {c : Char}
    (bar : isBar c = true) (areBlank : ∀ c ∈ gap, Text.isBlank c = true) (hasBreak : '\n' ∈ gap) :
    indentation ++ lead ≠ before ++ c :: (gap ++ more) := by
  intro whole
  have unbarred : Unbarred (indentation ++ lead) := isLead.unbarred.append fun other member =>
    isBar_of_isBlank (isBlank_of_isIndent (areIndents other member))
  have closes := unbarred before c (gap ++ more) whole bar
  rw [takeWhile_append_of_mem hasBreak] at closes
  exact absurd (areBlank _ (List.takeWhile_subset _ closes)) (by decide)

/-- So a part of a quiet text that ends with a line does not begin a header. -/
theorem IsQuiet.not_lead {text part : List Char} (quiet : IsQuiet text) (isSuffix : part <:+ text)
    (ends : part.getLast? = some '\n') (areIndents : ∀ c ∈ indentation, isIndent c = true)
    (isLead : IsLead lead) : indentation ++ lead ≠ part ++ more := by
  rcases Text.blank_or_exists_last part with allBlank | ⟨before, c, gap, rfl, notBlank, areBlank⟩
  · exact isLead.not_blank areIndents allBlank (List.mem_of_getLast? ends)
  · obtain ⟨earlier, rfl⟩ := isSuffix
    have bar : isBar c = true := by
      refine quiet.barred c ?_
      rw [← List.append_assoc, ← List.append_assoc, Text.trimEnd_append notBlank,
        Text.trimEnd_of_blank areBlank, List.append_nil, List.getLast?_concat]
      rfl
    have hasBreak : '\n' ∈ gap := by
      rw [List.append_assoc, List.singleton_append,
        List.getLast?_append_of_ne_nil before (List.cons_ne_nil c gap)] at ends
      refine (List.mem_cons.mp (List.mem_of_getLast? ends)).resolve_left ?_
      rintro rfl
      exact absurd notBlank (by decide)
    rw [List.append_assoc, List.append_assoc, List.singleton_append]
    exact isLead.not_barred areIndents bar areBlank hasBreak

end Leads

/-- No header begins in a quiet text in front of another line. -/
theorem IsQuiet.headerAt?_eq_none {text part rest : List Char} (quiet : IsQuiet text)
    (ends : rest ≠ [] → text.getLast? = some '\n') (nonempty : part ≠ [])
    (isSuffix : part <:+ text) : headerAt? (part ++ rest) = none := by
  refine Option.not_isSome_iff_eq_none.mp fun isFound => ?_
  obtain ⟨indentation, lead, tail, whole, areIndents, isLead, closes⟩ :=
    exists_lead_of_headerAt? isFound
  rw [← List.append_assoc] at whole
  have notLead (more : List Char) (hasRest : rest ≠ []) : indentation ++ lead ≠ part ++ more :=
    quiet.not_lead isSuffix (getLast?_of_suffix nonempty isSuffix (ends hasRest)) areIndents isLead
  rcases List.append_eq_append_iff.mp whole with
    ⟨middle, isLonger, isRest⟩ | ⟨middle, isPart, isTail⟩
  · exact notLead middle (by simp [isRest]) isLonger
  · cases middle with
    | nil =>
      rw [List.append_nil] at isPart
      rw [List.nil_append] at isTail
      exact notLead [] (isTail ▸ List.cons_ne_nil _ _) (by rw [List.append_nil, isPart])
    | cons c middle =>
      rw [List.cons_append] at isTail
      obtain ⟨rfl, rfl⟩ := List.cons.inj isTail
      obtain ⟨earlier, rfl⟩ := isSuffix
      have notClosed := quiet.plain (earlier ++ (indentation ++ lead)) middle (by simp [isPart])
      have sameLine : (middle ++ rest).takeWhile (· != '\n') = middle.takeWhile (· != '\n') := by
        cases rest with
        | nil => rw [List.append_nil]
        | cons first rest =>
          have isSuffix : '(' :: middle <:+ earlier ++ part :=
            ⟨earlier ++ (indentation ++ lead), by simp [isPart]⟩
          have isLast := getLast?_of_suffix (List.cons_ne_nil _ _) isSuffix
            (ends (List.cons_ne_nil _ _))
          refine takeWhile_append_of_mem ?_ _
          exact (List.mem_cons.mp (List.mem_of_getLast? isLast)).resolve_left (by decide)
      rw [sameLine, notClosed] at closes
      cases closes

/-! ### Listings -/

/-- A function of a listing: its header, the lines up to its closing brace, and what stands behind
that. -/
structure Listed where
  header : Header
  lines : List (List Char)
  behind : List Char

/-- A line ends in an opening brace, up to spaces and tabs. -/
def EndsInBrace (line : List Char) : Prop :=
  (line.rdropWhile isIndent).getLast? = some '\x7b'

instance (line : List Char) : Decidable (EndsInBrace line) :=
  inferInstanceAs (Decidable (_ = _))

theorem endsInBrace_iff {line : List Char} : EndsInBrace line ↔
    ∃ before gap, line = before ++ '\x7b' :: gap ∧ ∀ c ∈ gap, isIndent c = true := by
  constructor
  · intro ends
    obtain ⟨before, isFront⟩ := List.getLast?_eq_some_iff.mp ends
    refine ⟨before, line.rtakeWhile isIndent, ?_, fun c => List.mem_rtakeWhile_imp⟩
    have whole : line = line.rdropWhile isIndent ++ line.rtakeWhile isIndent :=
      List.rdropWhile_append_rtakeWhile.symm
    rwa [isFront, List.append_assoc] at whole
  · rintro ⟨before, gap, rfl, areIndents⟩
    have areIndentsToo : ∀ c ∈ gap.reverse, isIndent c = true := fun c member =>
      areIndents c (List.mem_reverse.mp member)
    unfold EndsInBrace
    rw [List.rdropWhile, List.reverse_append, List.reverse_cons, List.append_assoc,
      List.dropWhile_append_of_pos areIndentsToo, List.singleton_append,
      List.dropWhile_cons_of_neg (by decide), List.reverse_cons, List.getLast?_concat]

/-- The text in front of a listing: lines without parentheses, the last of which that is not blank
ends in a brace or a semicolon. -/
structure IsPreamble (text : List Char) : Prop where
  areLines : text ≠ [] → text.getLast? = some '\n'
  noParenthesis : '(' ∉ text
  barred : ∀ c ∈ (Text.trimEnd text).getLast?, isBar c = true

namespace Listed

/-- The name of a function. -/
def name (function : Listed) : String :=
  String.ofList function.header.name

/-- A function behind the line of its header. -/
def body (function : Listed) : List Char :=
  ([] :: function.lines).flatMap (· ++ ['\n']) ++ '\x7d' :: function.behind

/-- The text of a function. -/
def text (function : Listed) : List Char :=
  function.header.text ++ function.body

/-- No line of a function ends in an opening brace, and behind its closing brace there are only
blanks. -/
structure IsProper (function : Listed) : Prop where
  header : function.header.IsProper
  lines : ∀ line ∈ function.lines, '\n' ∉ line ∧ ¬ EndsInBrace line
  behind : ∀ c ∈ function.behind, Text.isBlank c = true

end Listed

theorem IsPreamble.isQuiet {preamble : List Char} (isPreamble : IsPreamble preamble) :
    IsQuiet preamble where
  plain _ _ split :=
    absurd (split ▸ List.mem_append_right _ List.mem_cons_self) isPreamble.noParenthesis
  barred := isPreamble.barred

theorem endsInBrace_of_closesHeader {line : List Char} (closes : closesHeader line = true) :
    EndsInBrace line := by
  unfold closesHeader at closes
  split at closes
  · next before isBrace =>
    unfold EndsInBrace
    rw [List.rdropWhile, isBrace, List.reverse_cons, List.getLast?_concat]
  · cases closes

/-- A character that stands in lines, but not behind them, stands in one of them. -/
theorem exists_line_of_split {c : Char} (notBreak : c ≠ '\n') {lines : List (List Char)}
    (oneLine : ∀ line ∈ lines, '\n' ∉ line) {behind before after : List Char} (absent : c ∉ behind)
    (split : lines.flatMap (· ++ ['\n']) ++ behind = before ++ c :: after) :
    ∃ line ∈ lines, ∃ earlier, line = earlier ++ c :: after.takeWhile (· != '\n') := by
  induction lines generalizing before with
  | nil =>
    rw [List.flatMap_nil, List.nil_append] at split
    exact absurd (split ▸ List.mem_append_right _ List.mem_cons_self) absent
  | cons line rest inductionHypothesis =>
    obtain ⟨here, others⟩ := List.forall_mem_cons.mp oneLine
    rw [List.flatMap_cons, List.append_assoc, List.append_assoc, List.singleton_append] at split
    rcases List.append_eq_append_iff.mp split with ⟨middle, -, later⟩ | ⟨middle, isLine, isAfter⟩
    · cases middle with
      | nil => exact absurd (List.cons.inj later).1.symm notBreak
      | cons first middle =>
        obtain ⟨found, isLater, ends⟩ := inductionHypothesis others (List.cons.inj later).2
        exact ⟨found, List.mem_cons_of_mem _ isLater, ends⟩
    · cases middle with
      | nil => exact absurd (List.cons.inj isAfter).1 notBreak
      | cons first middle =>
        rw [List.cons_append] at isAfter
        obtain ⟨rfl, rfl⟩ := List.cons.inj isAfter
        have inLine : ∀ other ∈ middle, (other != '\n') = true := fun other member =>
          bne_iff_ne.mpr fun isBreak => here <| isLine ▸
            List.mem_append_right _ (List.mem_cons_of_mem _ (isBreak ▸ member))
        refine ⟨line, List.mem_cons_self, before, ?_⟩
        rw [List.takeWhile_append_of_pos inLine, List.takeWhile_cons_of_neg (by decide),
          List.append_nil, isLine]

theorem Listed.IsProper.isQuiet {function : Listed} (proper : function.IsProper) :
    IsQuiet function.body where
  plain before after split := by
    refine eq_false_of_ne_true fun closes => ?_
    have absent : '(' ∉ '\x7d' :: function.behind := by
      refine List.mem_cons.not.mpr (not_or.mpr ⟨by decide, fun member => ?_⟩)
      exact absurd (proper.behind _ member) (by decide)
    have oneLine : ∀ line ∈ [] :: function.lines, '\n' ∉ line :=
      List.forall_mem_cons.mpr ⟨List.not_mem_nil, fun line isLine => (proper.lines line isLine).1⟩
    obtain ⟨line, isLine, earlier, ends⟩ := exists_line_of_split (by decide) oneLine absent split
    obtain ⟨front, gap, isBrace, areIndents⟩ :=
      endsInBrace_iff.mp (endsInBrace_of_closesHeader closes)
    rcases List.mem_cons.mp isLine with rfl | isLine
    · exact absurd ends.symm (List.append_ne_nil_of_right_ne_nil _ (List.cons_ne_nil _ _))
    · exact (proper.lines line isLine).2 (endsInBrace_iff.mpr
        ⟨earlier ++ '(' :: front, gap, by simp [ends, isBrace], areIndents⟩)
  barred := by
    have bounded : Text.trimEnd function.body =
        ([] :: function.lines).flatMap (· ++ ['\n']) ++ ['\x7d'] := by
      have trimmed := @Text.trimEnd_append '\x7d' (by decide)
        (([] :: function.lines).flatMap (· ++ ['\n'])) function.behind
      rw [Text.trimEnd_of_blank proper.behind, List.append_nil, List.append_assoc] at trimmed
      exact trimmed
    rw [bounded, List.getLast?_concat]
    rintro c ⟨⟩
    decide

/-! ### Functions of a listing -/

/-- The names of functions, each with the text from it on. -/
def fromEach : List Listed → List (String × List Char)
  | [] => []
  | function :: rest =>
    (function.name, (function :: rest).flatMap Listed.text) :: fromEach rest

/-- Cutting each text where the next one begins leaves the texts of the functions. -/
theorem cutAtNext_fromEach (functions : List Listed) :
    cutAtNext (fromEach functions) =
      functions.map fun function => (function.name, function.text) := by
  induction functions with
  | nil => rfl
  | cons function rest inductionHypothesis =>
    cases rest with
    | nil =>
      simp [fromEach, cutAtNext]
    | cons next rest =>
      have first : (function :: next :: rest).flatMap Listed.text =
          function.text ++ (next :: rest).flatMap Listed.text := rfl
      rw [List.map_cons, ← inductionHypothesis, fromEach, fromEach, cutAtNext, first,
        List.length_append, Nat.add_sub_cancel, List.take_left]

theorem Listed.getLast?_body {function : Listed} (apart : function.behind.getLast? = some '\n') :
    function.body.getLast? = some '\n' := by
  rw [body, List.getLast?_append_of_ne_nil _ (List.cons_ne_nil _ _), List.getLast?_cons, apart]
  rfl

theorem Listed.IsProper.headerAt?_text {function : Listed} (proper : function.IsProper)
    (rest : List Char) : headerAt? (function.text ++ rest) =
      some ((function.header.name, function.text ++ rest), function.body ++ rest) := by
  rw [Listed.text, List.append_assoc]
  exact proper.header.headerAt?_text _

theorem Listed.IsProper.length_body_lt {function : Listed} (proper : function.IsProper) :
    function.body.length < function.text.length := by
  have hasName := List.length_pos_iff.mpr proper.header.hasName
  simp only [Listed.text, Header.text, Header.named, List.length_append]
  omega

/-- A scan finds the functions one after the other. -/
theorem scanLines_functions {functions : List Listed}
    (proper : ∀ function ∈ functions, function.IsProper)
    (apart : ∀ function ∈ functions.dropLast, function.behind.getLast? = some '\n') {fuel : Nat}
    {atStart : Bool} (starts : functions ≠ [] → atStart = true)
    (enough : (functions.flatMap Listed.text).length < fuel) :
    (scanLines headerAt? fuel atStart (functions.flatMap Listed.text)).map
      (fun (name, text) => (String.ofList name, text)) = fromEach functions := by
  induction functions generalizing fuel atStart with
  | nil => rw [List.flatMap_nil, scanLines_nil rfl]; rfl
  | cons function rest inductionHypothesis =>
    obtain ⟨here, others⟩ := List.forall_mem_cons.mp proper
    have apartLater (hasRest : rest ≠ []) :
        function.behind.getLast? = some '\n' ∧
          ∀ other ∈ rest.dropLast, other.behind.getLast? = some '\n' := by
      rwa [List.dropLast_cons_of_ne_nil hasRest, List.forall_mem_cons] at apart
    have endsLine (hasRest : rest ≠ []) : function.body.getLast? = some '\n' :=
      Listed.getLast?_body (apartLater hasRest).1
    have quiet : ∀ part, part ≠ [] → part <:+ function.body →
        headerAt? (part ++ rest.flatMap Listed.text) = none := fun part =>
      here.isQuiet.headerAt?_eq_none fun hasRest => endsLine fun none => hasRest (by rw [none]; rfl)
    -- A match takes one step, and as many characters as the header has, of which there is one at
    -- least.
    obtain ⟨left, rfl, enoughLeft⟩ : ∃ left, fuel = function.body.length + left + 1 ∧
        (rest.flatMap Listed.text).length < left := by
      have shorter := here.length_body_lt
      rw [List.flatMap_cons, List.length_append] at enough
      exact ⟨fuel - (function.body.length + 1), by omega, by omega⟩
    rw [starts (List.cons_ne_nil _ _), List.flatMap_cons,
      scanLines_of_some (here.headerAt?_text _), scanLines_of_none quiet, List.map_cons,
      inductionHypothesis others ?_ ?_ enoughLeft, fromEach, Listed.name, List.flatMap_cons]
    · exact fun other isLater =>
        (apartLater (List.ne_nil_of_mem (List.dropLast_subset _ isLater))).2 other isLater
    · intro hasRest
      rw [endsLine hasRest]
      rfl

theorem mem_fromEach {functions : List Listed} {pair : String × List Char}
    (member : pair ∈ fromEach functions) : ∃ function ∈ functions, pair.1 = function.name := by
  induction functions with
  | nil => cases member
  | cons function rest inductionHypothesis =>
    rcases List.mem_cons.mp member with rfl | isLater
    · exact ⟨function, List.mem_cons_self, rfl⟩
    · obtain ⟨other, isOther, same⟩ := inductionHypothesis isLater
      exact ⟨other, List.mem_cons_of_mem _ isOther, same⟩

theorem headers_listing {preamble : List Char} {functions : List Listed}
    (isPreamble : IsPreamble preamble) (proper : ∀ function ∈ functions, function.IsProper)
    (apart : ∀ function ∈ functions.dropLast, function.behind.getLast? = some '\n') :
    headers (preamble ++ functions.flatMap Listed.text) = fromEach functions := by
  have endsLine (hasPreamble : preamble ≠ []) : preamble.getLast? = some '\n' :=
    isPreamble.areLines hasPreamble
  have quiet : ∀ part, part ≠ [] → part <:+ preamble →
      headerAt? (part ++ functions.flatMap Listed.text) = none := fun part nonempty isSuffix =>
    isPreamble.isQuiet.headerAt?_eq_none (fun _ => endsLine fun none =>
      nonempty (List.suffix_nil.mp (none ▸ isSuffix))) nonempty isSuffix
  have starts : (preamble.getLast?.map (· == '\n')).getD true = true := by
    cases preamble with
    | nil => rfl
    | cons first rest =>
      rw [endsLine (List.cons_ne_nil _ _)]
      rfl
  have enough : 2 * (preamble ++ functions.flatMap Listed.text).length + 2 = preamble.length +
      (preamble.length + 2 * (functions.flatMap Listed.text).length + 2) := by
    rw [List.length_append]
    omega
  rw [headers, scan, enough, scanLines_of_none quiet, starts,
    scanLines_functions proper apart (fun _ => rfl) (by omega), List.filter_eq_self]
  intro pair member
  obtain ⟨function, isFunction, same⟩ := mem_fromEach member
  have known := (proper function isFunction).header.isFunction
  show (!notFunctions.contains pair.1) = true
  rw [same, Bool.not_eq_true', List.contains_eq_mem, decide_eq_false_iff_not]
  exact known

/-- The functions of a listing are found again, each once and in order, with its text from the start
of its header's line up to where the next function begins or the listing ends. -/
theorem bodies_listing {preamble : List Char} {functions : List Listed}
    (isPreamble : IsPreamble preamble) (proper : ∀ function ∈ functions, function.IsProper)
    (apart : ∀ function ∈ functions.dropLast, function.behind.getLast? = some '\n')
    (differ : (functions.map Listed.name).Nodup) :
    bodies (preamble ++ functions.flatMap Listed.text) =
      functions.map fun function => (function.name, function.text) := by
  have entered := Entries.foldl_putNew Prod.fst Prod.snd (cutAtNext (fromEach functions))
  unfold bodies
  rw [headers_listing isPreamble proper apart]
  refine entered.trans ?_
  rw [cutAtNext_fromEach, Entries.keepFirst_of_nodup, List.map_map]
  · rfl
  · rw [List.map_map]
    exact differ

/-- A function with modifiers and type parameters, behind which a line is left free. -/
def takeAll : Listed where
  header := {
    indentation := "  ".toList
    modifiers := ["public(friend)".toList, "entry".toList]
    name := "take_all".toList
    generics := some "T0".toList
    arguments := "Arg0: u64".toList
    result := none }
  lines := ["B0: while (x) \x7b y".toList, "  \x7d".toList]
  behind := "\n\n".toList

/-- A function whose name and arguments read like a modifier. -/
def publicOfFriend : Listed where
  header := {
    indentation := []
    modifiers := ["fun".toList]
    name := "public".toList
    generics := none
    arguments := "friend".toList
    result := some " u64".toList }
  lines := []
  behind := []

theorem isProper_takeAll : takeAll.IsProper where
  header := {
    indentation := List.all_eq_true.mp (by decide)
    modifiers := List.forall_mem_cons.mpr
      ⟨@IsModifier.withScope "friend".toList (by decide) (List.all_eq_true.mp (by decide)),
        List.forall_mem_singleton.mpr (@IsModifier.word "entry" (by decide))⟩
    name := List.all_eq_true.mp (by decide)
    hasName := by decide
    isFunction := by decide
    generics := by decide
    arguments := by decide
    isClosed := fun isPublic => absurd isPublic (by decide)
    result := nofun }
  lines := by decide
  behind := List.all_eq_true.mp (by decide)

theorem isProper_publicOfFriend : publicOfFriend.IsProper where
  header := {
    indentation := nofun
    modifiers := List.forall_mem_singleton.mpr (@IsModifier.word "fun" (by decide))
    name := List.all_eq_true.mp (by decide)
    hasName := by decide
    isFunction := by decide
    generics := nofun
    arguments := by decide
    isClosed := fun _ before isPrefix => by
      have none : ')' ∉ before := fun member =>
        absurd (isPrefix.subset member) (by decide)
      rw [List.count_eq_zero.mpr none]
      exact Nat.zero_le _
    result := by decide }
  lines := nofun
  behind := nofun

/-- Both functions are found below the line that opens their module. -/
theorem bodies_takeAll_publicOfFriend :
    let preamble := "module 0x1::vault \x7b\n".toList
    let functions := [takeAll, publicOfFriend]
    IsPreamble preamble ∧ (∀ function ∈ functions, function.IsProper) ∧
      (∀ function ∈ functions.dropLast, function.behind.getLast? = some '\n') ∧
      (functions.map Listed.name).Nodup ∧
      bodies (preamble ++ functions.flatMap Listed.text) =
        [("take_all", takeAll.text), ("public", publicOfFriend.text)] := by
  intro preamble functions
  have ends : (Text.trimEnd preamble).getLast? = some '\x7b' := by decide
  have isPreamble : IsPreamble preamble :=
    ⟨by decide, by decide, fun c isLast => Option.some.inj (ends.symm.trans isLast) ▸ rfl⟩
  have proper : ∀ function ∈ functions, function.IsProper :=
    List.forall_mem_cons.mpr
      ⟨isProper_takeAll, List.forall_mem_singleton.mpr isProper_publicOfFriend⟩
  have apart : ∀ function ∈ functions.dropLast, function.behind.getLast? = some '\n' := by decide
  have names : functions.map Listed.name = ["take_all", "public"] := by decide
  have differ : (functions.map Listed.name).Nodup := names ▸ by decide
  refine ⟨isPreamble, proper, apart, differ, ?_⟩
  rw [bodies_listing isPreamble proper apart differ]
  rfl

end MoveAudit.Listing
