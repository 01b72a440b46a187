/-
This file says what is left of items when only the first one of each name is kept. That is done by
going through the items and keeping one unless a kept one has its name, so what is kept grows at its
end alone, and every fact here goes by induction on the last item. A name finds the same item as
before, no name is left twice, and what is kept stands in the order of the first places.
-/

import Mathlib.Data.List.Basic
import Mathlib.Data.List.Induction
import Mathlib.Data.List.Nodup
import MoveAudit.Entries

namespace MoveAudit.Entries

variable {Item Key : Type} [BEq Key] {name : Item → Key} {items : List Item}

/-- The items without those whose name an item before them has. -/
def keepFirst (name : Item → Key) (items : List Item) : List Item :=
  items.foldl (fun kept item =>
    if kept.any (name · == name item) then kept else kept ++ [item]) []

theorem keepFirst_concat (name : Item → Key) (items : List Item) (item : Item) :
    keepFirst name (items ++ [item]) =
      if (keepFirst name items).any (name · == name item) then keepFirst name items
      else keepFirst name items ++ [item] := by
  unfold keepFirst
  rw [List.foldl_append, List.foldl_cons, List.foldl_nil]

/-- Values put under new names alone are those of the first items of each name. -/
theorem foldl_putNew {Entry : Type} (name : Item → Key) (entry : Item → Entry)
    (items : List Item) :
    items.foldl (fun known item => putNew known (name item) (entry item)) [] =
      (keepFirst name items).map fun item => (name item, entry item) := by
  induction items using List.reverseRecOn with
  | nil => rfl
  | append_singleton items item inductionHypothesis =>
    rw [List.foldl_append, List.foldl_cons, List.foldl_nil, inductionHypothesis, keepFirst_concat]
    unfold putNew
    rw [List.any_map, apply_ite (List.map _), List.map_append, List.map_singleton]
    rfl

theorem keepFirst_sublist : (keepFirst name items).Sublist items := by
  induction items using List.reverseRecOn with
  | nil => exact List.Sublist.slnil
  | append_singleton items item inductionHypothesis =>
    rw [keepFirst_concat]
    split
    · exact inductionHypothesis.trans (List.sublist_append_left items [item])
    · exact inductionHypothesis.append (List.Sublist.refl [item])

variable [LawfulBEq Key]

/-- A name finds what it found before. -/
theorem find?_keepFirst (key : Key) :
    (keepFirst name items).find? (name · == key) = items.find? (name · == key) := by
  induction items using List.reverseRecOn with
  | nil => rfl
  | append_singleton items item inductionHypothesis =>
    rw [keepFirst_concat, List.find?_append, ← inductionHypothesis]
    split
    · next known =>
      by_cases named : name item = key
      · rw [named, ← List.isSome_find?] at known
        exact (Option.or_of_isSome known).symm
      · have notFound : [item].find? (name · == key) = none := by simp [named]
        rw [notFound, Option.or_none]
    · exact List.find?_append

theorem any_keepFirst (key : Key) :
    (keepFirst name items).any (name · == key) = items.any (name · == key) := by
  rw [← List.isSome_find?, ← List.isSome_find?, find?_keepFirst]

theorem nodup_keepFirst (name : Item → Key) (items : List Item) :
    ((keepFirst name items).map name).Nodup := by
  induction items using List.reverseRecOn with
  | nil => exact List.nodup_nil
  | append_singleton items item inductionHypothesis =>
    rw [keepFirst_concat]
    split
    · exact inductionHypothesis
    · next isNew =>
      rw [List.map_append, List.nodup_append]
      refine ⟨inductionHypothesis, List.pairwise_singleton _ _, fun key isOld last isLast same => ?_⟩
      obtain ⟨kept, member, rfl⟩ := List.mem_map.mp isOld
      obtain rfl : last = name item := List.mem_singleton.mp isLast
      exact isNew (List.any_eq_true.mpr ⟨kept, member, beq_iff_eq.mpr same⟩)

/-- Items whose names all differ are all kept. -/
theorem keepFirst_of_nodup (differ : (items.map name).Nodup) : keepFirst name items = items := by
  induction items using List.reverseRecOn with
  | nil => rfl
  | append_singleton items item inductionHypothesis =>
    rw [List.map_append, List.map_singleton] at differ
    obtain ⟨before, -, apart⟩ := List.nodup_append.mp differ
    rw [keepFirst_concat, inductionHypothesis before, if_neg]
    rw [List.any_eq_true]
    rintro ⟨other, isBefore, same⟩
    exact apart _ (List.mem_map_of_mem isBefore) _ List.mem_cons_self (eq_of_beq same)

/-- Under names that all differ there is one item at most. -/
theorem filter_of_nodup (differ : (items.map name).Nodup) (key : Key) :
    items.filter (name · == key) = (items.find? (name · == key)).toList := by
  induction items with
  | nil => rfl
  | cons first rest inductionHypothesis =>
    rw [List.map_cons, List.nodup_cons] at differ
    by_cases named : name first = key
    · have absent : rest.filter (name · == key) = [] := by
        refine List.filter_eq_nil_iff.mpr fun item member sameName => differ.1 ?_
        rw [named, ← eq_of_beq sameName]
        exact List.mem_map_of_mem member
      simp [named, absent]
    · simpa [named] using inductionHypothesis differ.2

theorem find?_of_nodup (differ : (items.map name).Nodup) {item : Item} (member : item ∈ items) :
    items.find? (name · == name item) = some item := by
  rw [← Option.mem_toList, ← filter_of_nodup differ]
  exact List.mem_filter.mpr ⟨member, beq_self_eq_true _⟩

theorem filter_keepFirst_name (key : Key) :
    (keepFirst name items).filter (name · == key) = (items.find? (name · == key)).toList := by
  rw [filter_of_nodup (nodup_keepFirst name items), find?_keepFirst]

/-- What is kept is what its own name finds. -/
theorem mem_keepFirst_iff {item : Item} :
    item ∈ keepFirst name items ↔ items.find? (name · == name item) = some item := by
  rw [← Option.mem_toList, ← filter_keepFirst_name, List.mem_filter]
  exact (and_iff_left (beq_self_eq_true _)).symm

/-- Items may be picked by their names before or after the first ones are kept. -/
theorem filter_keepFirst (keep : Item → Bool)
    (byName : ∀ one other, name one = name other → keep one = keep other) :
    (keepFirst name items).filter keep = keepFirst name (items.filter keep) := by
  induction items using List.reverseRecOn with
  | nil => rfl
  | append_singleton items item inductionHypothesis =>
    rw [keepFirst_concat, List.filter_append]
    cases isKept : keep item with
    | false =>
      have dropped : [item].filter keep = [] := by simp [isKept]
      rw [dropped, List.append_nil, ← inductionHypothesis]
      split
      · rfl
      · rw [List.filter_append, dropped, List.append_nil]
    | true =>
      have stays : [item].filter keep = [item] := by simp [isKept]
      have sameKnown : (keepFirst name (items.filter keep)).any (name · == name item) =
          (keepFirst name items).any (name · == name item) := by
        rw [← inductionHypothesis, List.any_filter]
        refine congrArg (keepFirst name items).any (funext fun other => ?_)
        by_cases sameName : name other = name item
        · rw [byName other item sameName, isKept, Bool.true_and]
        · rw [beq_false_of_ne sameName, Bool.and_false]
      rw [stays, keepFirst_concat, sameKnown, ← inductionHypothesis]
      split
      · rfl
      · rw [List.filter_append, stays]

/-- What is kept stands in the order of the places at which it is first found. -/
theorem pairwise_keepFirst [BEq Item] [LawfulBEq Item] :
    (keepFirst name items).Pairwise fun one other => items.idxOf one < items.idxOf other := by
  induction items using List.reverseRecOn with
  | nil => exact List.Pairwise.nil
  | append_singleton items item inductionHypothesis =>
    have samePlace {kept : Item} (member : kept ∈ keepFirst name items) :
        (items ++ [item]).idxOf kept = items.idxOf kept :=
      List.idxOf_append_of_mem (keepFirst_sublist.subset member)
    have before : (keepFirst name items).Pairwise fun one other =>
        (items ++ [item]).idxOf one < (items ++ [item]).idxOf other := by
      refine inductionHypothesis.imp_of_mem fun memberOne memberOther less => ?_
      rw [samePlace memberOne, samePlace memberOther]
      exact less
    rw [keepFirst_concat]
    split
    · exact before
    · next isNew =>
      have absent : item ∉ items := fun member => isNew (by
        rw [any_keepFirst]
        exact List.any_eq_true.mpr ⟨item, member, beq_self_eq_true _⟩)
      refine List.pairwise_append.mpr
        ⟨before, List.pairwise_singleton _ _, fun kept member last isLast => ?_⟩
      obtain rfl : last = item := List.mem_singleton.mp isLast
      rw [samePlace member, List.idxOf_append_of_notMem absent]
      exact Nat.lt_add_right _ (List.idxOf_lt_length_of_mem (keepFirst_sublist.subset member))

/-! ### Parts of items -/

section Parts

variable {Part : Type} {parts : Item → List Part}

omit [BEq Key] [LawfulBEq Key] in
/-- Items whose names differ give no part twice when each part tells the name of its item. -/
theorem nodup_flatMap_of_label (differ : (items.map name).Nodup) (label : Part → Key)
    (each : ∀ item ∈ items, (parts item).Nodup)
    (labelled : ∀ item ∈ items, ∀ part ∈ parts item, label part = name item) :
    (items.flatMap parts).Nodup := by
  refine List.nodup_flatMap.mpr ⟨each, (List.pairwise_map.mp differ).imp_of_mem ?_⟩
  intro one other memberOne memberOther different part isOfOne isOfOther
  exact different ((labelled one memberOne part isOfOne).symm.trans
    (labelled other memberOther part isOfOther))

omit [BEq Key] [LawfulBEq Key] in
/-- When one item alone has parts, all parts are its own. -/
theorem flatMap_of_nodup (differ : (items.map name).Nodup) {item : Item} (member : item ∈ items)
    (others : ∀ other ∈ items, name other ≠ name item → parts other = []) :
    items.flatMap parts = parts item := by
  induction items with
  | nil => cases member
  | cons first rest inductionHypothesis =>
    rw [List.map_cons, List.nodup_cons] at differ
    have restOthers : ∀ other ∈ rest, name other ≠ name item → parts other = [] :=
      fun other isRest => others other (List.mem_cons_of_mem _ isRest)
    rw [List.flatMap_cons]
    rcases List.mem_cons.mp member with rfl | isRest
    · have none : rest.flatMap parts = [] := List.flatMap_eq_nil_iff.mpr fun other isOther =>
        restOthers other isOther fun same => differ.1 (same ▸ List.mem_map_of_mem isOther)
      rw [none, List.append_nil]
    · have different : name first ≠ name item :=
        fun same => differ.1 (same ▸ List.mem_map_of_mem isRest)
      rw [others first List.mem_cons_self different, List.nil_append]
      exact inductionHypothesis differ.2 isRest restOthers

end Parts

/-- The members of a list in order of first appearance are its first members of each kind. -/
theorem distinct_eq_keepFirst (keys : List Key) : distinct keys = keepFirst id keys := by
  induction keys using List.reverseRecOn with
  | nil => rfl
  | append_singleton keys key inductionHypothesis =>
    rw [keepFirst_concat, ← inductionHypothesis]
    unfold distinct
    rw [List.foldl_append, List.foldl_cons, List.foldl_nil, apply_ite List.reverse,
      List.reverse_cons, ← List.contains_reverse, List.contains_eq_any_beq]
    simp only [id, BEq.comm]

theorem nodup_distinct (keys : List Key) : (distinct keys).Nodup := by
  have differ := nodup_keepFirst id keys
  rwa [List.map_id, ← distinct_eq_keepFirst] at differ

end MoveAudit.Entries
