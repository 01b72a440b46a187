/-
This file says which pattern a name stands for. It is the pattern with that identifier, in any case
and with blanks around it, and when there is none, the last pattern that declares the name as an
alias. A knowledge base that is read from a document has no two patterns with one identifier, so a
name stands for one pattern at most, and looking it up finds that pattern.
-/

import Mathlib.Data.List.Nodup
import MoveAudit.Knowledge.Base
import MoveAudit.Proofs.Entries

namespace MoveAudit

/-! ### What a name stands for -/

/-- A pattern declares a name as one of its aliases, in any case. -/
def RiskPattern.declares (pattern : RiskPattern) (name : String) : Bool :=
  pattern.aliases.any fun declared => Text.lowered declared == Text.lowered name

/-- What the aliases of a pattern are kept as. -/
def RiskPattern.aliasEntries (pattern : RiskPattern) : List (String × String) :=
  pattern.aliases.map fun declared => (Text.lowered declared, pattern.id)

namespace KnowledgeBase

/-- A name stands for a pattern. Blanks around a name do not count. -/
inductive Names (base : KnowledgeBase) (name : String) : RiskPattern → Prop where
  | byId {pattern : RiskPattern} (member : pattern ∈ base.patterns)
    (isId : pattern.id = Text.raised (Text.trimmed name)) : Names base name pattern
  /-- An alias counts when it is no identifier, and for the last pattern that declares it. -/
  | byAlias {pattern : RiskPattern} {before after : List RiskPattern}
    (noId : ∀ other ∈ base.patterns, other.id ≠ Text.raised (Text.trimmed name))
    (split : base.patterns = before ++ pattern :: after)
    (declares : pattern.declares (Text.trimmed name) = true)
    (last : ∀ other ∈ after, other.declares (Text.trimmed name) = false)
    (named : pattern.id ≠ "") : Names base name pattern

theorem Names.member {base : KnowledgeBase} {name : String} {pattern : RiskPattern}
    (names : base.Names name pattern) : pattern ∈ base.patterns := by
  cases names with
  | byId member isId => exact member
  | byAlias noId split declares last named =>
    rw [split]
    exact List.mem_append_right _ (List.mem_cons_self ..)

/-! ### Identifiers -/

/-- No two patterns have one identifier. -/
def HasDistinctIds (base : KnowledgeBase) : Prop :=
  (base.patterns.map (·.id)).Nodup

theorem nodup_of_duplicate?_eq_none {patterns : List RiskPattern} {seen : List String}
    (none : duplicate? patterns seen = none) :
    (patterns.map (·.id)).Nodup ∧ ∀ pattern ∈ patterns, pattern.id ∉ seen := by
  induction patterns generalizing seen with
  | nil => exact ⟨List.nodup_nil, fun _ member => nomatch member⟩
  | cons first rest inductionHypothesis =>
    unfold duplicate? at none
    split at none
    · cases none
    · next new =>
      obtain ⟨distinct, others⟩ := inductionHypothesis none
      have notSeen : first.id ∉ seen := fun member => new (List.contains_iff_mem.mpr member)
      constructor
      · rw [List.map_cons, List.nodup_cons, List.mem_map]
        refine ⟨?_, distinct⟩
        rintro ⟨other, member, same⟩
        exact others other member (same ▸ List.mem_cons_self ..)
      · intro pattern member
        rcases List.mem_cons.mp member with rfl | inRest
        · exact notSeen
        · exact fun isSeen => others pattern inRest (List.mem_cons_of_mem _ isSeen)

/-- A document is accepted exactly if it is in order and no identifier stands for two patterns. -/
theorem ofDocument_eq_ok_iff {document : Json.Value} {base : KnowledgeBase} :
    ofDocument document = .ok base ↔
      check document = .ok base ∧ duplicate? base.patterns [] = none := by
  unfold ofDocument
  cases check document with
  | halt reason => simp
  | faults found => simp
  | ok read =>
    cases repeated : duplicate? read.patterns [] with
    | some id =>
      refine iff_of_false (by simp [repeated]) ?_
      rintro ⟨⟨⟩, none⟩
      rw [repeated] at none
      cases none
    | none =>
      simp only [repeated, Except.ok.injEq, Record.Checked.ok.injEq]
      exact ⟨fun same => ⟨same, same ▸ repeated⟩, And.left⟩

theorem hasDistinctIds_of_ofDocument {document : Json.Value} {base : KnowledgeBase}
    (accepted : ofDocument document = .ok base) : base.HasDistinctIds :=
  (nodup_of_duplicate?_eq_none (ofDocument_eq_ok_iff.mp accepted).2).1

section Distinct

variable {base : KnowledgeBase} (distinct : base.HasDistinctIds)
include distinct

theorem eq_of_same_id {pattern other : RiskPattern} (member : pattern ∈ base.patterns)
    (memberToo : other ∈ base.patterns) (same : other.id = pattern.id) : other = pattern :=
  List.inj_on_of_nodup_map distinct memberToo member same

theorem byId?_eq_some_iff {id : String} {pattern : RiskPattern} :
    base.byId? id = some pattern ↔ pattern ∈ base.patterns ∧ pattern.id = id := by
  unfold byId?
  constructor
  · intro found
    exact ⟨List.mem_of_find?_eq_some found, by simpa using List.find?_some found⟩
  · rintro ⟨member, isId⟩
    cases found : base.patterns.find? (·.id == id) with
    | none => exact absurd isId (by simpa using List.find?_eq_none.mp found pattern member)
    | some other =>
      have isOtherId : other.id = id := by simpa using List.find?_some found
      rw [eq_of_same_id distinct member (List.mem_of_find?_eq_some found)
        (isOtherId.trans isId.symm)]

end Distinct

theorem byId?_eq_none_iff {base : KnowledgeBase} {id : String} :
    base.byId? id = none ↔ ∀ pattern ∈ base.patterns, pattern.id ≠ id := by
  unfold byId?
  simp [List.find?_eq_none]

/-! ### Aliases -/

theorem get?_aliasEntries (pattern : RiskPattern) (name : String) :
    Entries.get? pattern.aliasEntries.reverse (Text.lowered name) =
      if pattern.declares name then some pattern.id else none := by
  have isSome : (Entries.get? pattern.aliasEntries.reverse (Text.lowered name)).isSome =
      pattern.declares name := by
    rw [← Entries.has_eq_isSome]
    unfold Entries.has RiskPattern.aliasEntries RiskPattern.declares
    rw [List.any_reverse, List.any_map]
    rfl
  cases found : Entries.get? pattern.aliasEntries.reverse (Text.lowered name) with
  | none =>
    rw [found] at isSome
    rw [← isSome]
    rfl
  | some id =>
    rw [found] at isSome
    obtain ⟨entry, isFound, rfl⟩ := Option.map_eq_some_iff.mp found
    have member : entry ∈ pattern.aliasEntries :=
      List.mem_reverse.mp (List.mem_of_find?_eq_some isFound)
    obtain ⟨declared, _, rfl⟩ := List.mem_map.mp member
    rw [← isSome]
    rfl

/-- Under a name stands the identifier of the last pattern that declares it. -/
theorem get?_aliases (base : KnowledgeBase) (name : String) :
    Entries.get? base.aliases (Text.lowered name) =
      (base.patterns.reverse.find? (·.declares name)).map (·.id) := by
  have inOrder (patterns : List RiskPattern) :
      Entries.get? (patterns.flatMap (List.reverse ∘ RiskPattern.aliasEntries))
        (Text.lowered name) = (patterns.find? (·.declares name)).map (·.id) := by
    induction patterns with
    | nil => rfl
    | cons first rest inductionHypothesis =>
      rw [List.flatMap_cons, Entries.get?_append, inductionHypothesis, Function.comp_apply,
        get?_aliasEntries, List.find?_cons]
      cases first.declares name <;> rfl
  show Entries.get? (Entries.ofList (base.patterns.flatMap RiskPattern.aliasEntries)) _ = _
  rw [Entries.get?_ofList, List.reverse_flatMap]
  exact inOrder base.patterns.reverse

theorem find?_declares_iff {patterns : List RiskPattern} {name : String} {pattern : RiskPattern} :
    patterns.reverse.find? (·.declares name) = some pattern ↔
      pattern.declares name = true ∧ ∃ before after, patterns = before ++ pattern :: after ∧
        ∀ other ∈ after, other.declares name = false := by
  rw [List.find?_eq_some_iff_append]
  refine and_congr_right fun _ => ⟨?_, ?_⟩
  · rintro ⟨after, before, split, others⟩
    refine ⟨before.reverse, after.reverse, ?_, fun other member => ?_⟩
    · rw [← List.reverse_reverse patterns, split]
      simp
    · simpa using others other (List.mem_reverse.mp member)
  · rintro ⟨before, after, rfl, others⟩
    refine ⟨after.reverse, before.reverse, by simp, fun other member => ?_⟩
    simp [others other (List.mem_reverse.mp member)]

/-! ### Looking names up -/

/-- Looking a name up finds the pattern that it stands for. -/
theorem get?_eq_some_iff {base : KnowledgeBase} (distinct : base.HasDistinctIds) {name : String}
    {pattern : RiskPattern} : base.get? name = some pattern ↔ base.Names name pattern := by
  unfold get?
  dsimp only
  cases found : base.byId? (Text.raised (Text.trimmed name)) with
  | some known =>
    obtain ⟨member, isId⟩ := (byId?_eq_some_iff distinct).mp found
    constructor
    · intro same
      cases same
      exact .byId member isId
    · intro names
      cases names with
      | byId memberToo isIdToo =>
        rw [eq_of_same_id distinct memberToo member (isId.trans isIdToo.symm)]
      | byAlias noId split declares last named => exact absurd isId (noId known member)
  | none =>
    have noId := byId?_eq_none_iff.mp found
    dsimp only
    rw [get?_aliases]
    constructor
    · intro bound
      obtain ⟨id, isKept, isThere⟩ := Option.bind_eq_some_iff.mp bound
      obtain ⟨isFound, named⟩ := Option.filter_eq_some_iff.mp isKept
      obtain ⟨declaring, isLast, rfl⟩ := Option.map_eq_some_iff.mp isFound
      obtain ⟨declares, before, after, split, last⟩ := find?_declares_iff.mp isLast
      have member : declaring ∈ base.patterns := by simp [split]
      obtain rfl := (byId?_eq_some_iff distinct).mp isThere |> fun ⟨memberToo, same⟩ =>
        eq_of_same_id distinct member memberToo same
      exact .byAlias noId split declares last (by simpa using named)
    · intro names
      cases names with
      | byId member isId => exact absurd isId (noId pattern member)
      | byAlias _ split declares last named =>
        have member : pattern ∈ base.patterns := by simp [split]
        rw [find?_declares_iff.mpr ⟨declares, _, _, split, last⟩, Option.map_some,
          Option.filter_some, if_pos (by simpa using named), Option.bind_some]
        exact (byId?_eq_some_iff distinct).mpr ⟨member, rfl⟩

/-- A name stands for one pattern at most. -/
theorem Names.unique {base : KnowledgeBase} (distinct : base.HasDistinctIds) {name : String}
    {pattern other : RiskPattern} (names : base.Names name pattern)
    (namesToo : base.Names name other) : other = pattern := by
  rw [← get?_eq_some_iff distinct] at names namesToo
  exact Option.some.inj (namesToo.symm.trans names)

/-- Every pattern that is found is one of the knowledge base. -/
theorem mem_of_get?_eq_some {base : KnowledgeBase} {name : String} {pattern : RiskPattern}
    (found : base.get? name = some pattern) : pattern ∈ base.patterns := by
  have known {id : String} (found : base.byId? id = some pattern) : pattern ∈ base.patterns :=
    List.mem_of_find?_eq_some found
  unfold get? at found
  dsimp only at found
  split at found
  · next isFound =>
    cases found
    exact known isFound
  · obtain ⟨id, _, isFound⟩ := Option.bind_eq_some_iff.mp found
    exact known isFound

end KnowledgeBase

end MoveAudit
