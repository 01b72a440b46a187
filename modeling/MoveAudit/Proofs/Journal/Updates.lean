/-
This file says what becomes of a journal when an entry of it is written to. Whatever was saved,
written and looked up before, no identifier stands twice in a journal, so there is one entry that is
meant or none. If there is one, exactly those of its parts that are given and may change take the
given values; all else stays, and if there is none nothing changes at all. The answer does not
follow from this: a journal in memory says whether the entry is there, and a journal in a table says
whether there is something to write.
-/

import MoveAudit.Proofs.Entries
import MoveAudit.Proofs.Journal.Reference

namespace MoveAudit.Journal

open Json

/-! ### What is done to a journal -/

/-- Write given members into the entry of an identifier, and say whether that was done. -/
def overwrite (journal : Journal) (id : String) (given : Members) : Bool × Journal :=
  journal.update id (given.filterMap Change.ofMember?)

/-- What is done to a journal. -/
inductive Use where
  | save (entry : Entry)
  | overwrite (id : String) (given : Members)
  | get (id : String)
  | find (query : Query)

/-- How a journal is left. To look something up leaves it as it is. -/
def Use.leave (journal : Journal) : Use → Journal
  | save entry => journal.save entry
  | overwrite id given => (journal.overwrite id given).2
  | get _ | find _ => journal

/-- The journal on a shelf that was empty, after all that was done to it. -/
def Use.reached (shelf : Shelf) (uses : List Use) : Journal :=
  uses.foldl leave { shelf }

/-! ### What an entry takes on -/

/-- The parts of an entry that may change. -/
def Change.names : List String :=
  ["response", "error", "latency_ms", "retry_count", "status", "success"]

/-- A value of the kind that its part of an entry is declared to hold: nothing or a proper object,
nothing or a text, a number, a whole number that fits, a text, a truth value. A time may also be
whole if it is a number that binary64 has, and a truth value is also a whole number. -/
def Change.IsDeclared : Change → Prop
  | .response value => value = .null ∨ value.IsProper ∧ ∃ members, value = .object members
  | .error complaint => ∃ text?, complaint = .given (.ofText text?)
  | .latency value => (∃ number, number ≠ .nan ∧ value = .float number) ∨
      ∃ whole, Record.isWord whole = true ∧ (Double.ofInt whole).whole? = some whole ∧
        value = .int whole
  | .retries value => (∃ whole, Record.isWord whole = true ∧ value = .int whole) ∨
      ∃ truth, value = .bool truth
  | .status value => ∃ text, value = .string text
  | .success value => ∃ truth, value = .bool truth

/-- All the members of an entry. -/
def Entry.document (inWords : String → List Record.Fault → String) (entry : Entry) : Members :=
  ("timestamp", .string entry.time) :: ("prompt", .string entry.prompt) ::
    ("latency_ms", entry.latency) :: entry.members inWords

/-- A document has taken on exactly what is given and may change. A number that is written in
another way is the same value. -/
structure HasTaken (given old new : Members) : Prop where
  taken : ∀ {name value}, name ∈ Change.names → Entries.get? given name = some value →
    ∃ held, Entries.get? new name = some held ∧ (held = value ∨ (held == value) = true)
  stays : ∀ {name}, (name ∈ Change.names → Entries.get? given name = none) →
    Entries.get? new name = Entries.get? old name

/-- The entry of an identifier has taken on what is given, and all other entries are as before. -/
def IsWritten (journal : Journal) (id : String) (given : Members) (later : Journal) : Prop :=
  ∃ before old new after, journal.entries = before ++ old :: after ∧
    later = { journal with entries := before ++ new :: after } ∧
    old.id = id ∧ (∀ other ∈ before ++ after, other.id ≠ id) ∧
    ∀ inWords, HasTaken given (old.document inWords) (new.document inWords)

/-- Something that is given may change. -/
def IsOfUse (given : Members) : Prop :=
  ∃ member ∈ given, member.1 ∈ Change.names

/-- A journal says that it has written exactly when the entry is there and something that is given
may change; it has changed nothing if it says no, and what is given and nothing else if it says
yes. -/
structure IsFrank (journal : Journal) (id : String) (given : Members) : Prop where
  answer : (journal.overwrite id given).1 = true ↔ journal.Knows id ∧ IsOfUse given
  no : (journal.overwrite id given).1 = false → (journal.overwrite id given).2 = journal
  yes : (journal.overwrite id given).1 = true →
    IsWritten journal id given (journal.overwrite id given).2

/-- A journal in memory looks for the entry alone, so something of use has to be given for an entry
that is there; a journal in a table looks for something of use alone, so the entry has to be there
for it. -/
def LooksAtEnough (journal : Journal) (id : String) (given : Members) : Prop :=
  match journal.shelf with
  | .memory _ => journal.Knows id → IsOfUse given
  | .table => IsOfUse given → journal.Knows id

/-! ### One entry -/

/-- A change as a shelf keeps it. -/
def Shelf.keep : Shelf → Change → Change
  | .memory _ => id
  | .table => Change.inTable

section Member

variable {name : String} {value : Value} {change : Change}

/-- What stands for a change: its part by name, with the value that it brings. -/
theorem Change.cases_of_ofMember? (stands : Change.ofMember? (name, value) = some change) :
    (name = "response" ∧ change = .response value) ∨
      (name = "error" ∧ change = .error (.given value)) ∨
      (name = "latency_ms" ∧ change = .latency value) ∨
      (name = "retry_count" ∧ change = .retries value) ∨
      (name = "status" ∧ change = .status value) ∨ (name = "success" ∧ change = .success value) := by
  unfold ofMember? at stands
  split at stands
  case h_7 => cases stands
  all_goals
    rename_i same
    obtain ⟨rfl, rfl⟩ := Prod.mk.inj same
    cases stands
    simp

theorem mem_names_of_ofMember? (stands : Change.ofMember? (name, value) = some change) :
    name ∈ Change.names := by
  rcases Change.cases_of_ofMember? stands with
    ⟨rfl, _⟩ | ⟨rfl, _⟩ | ⟨rfl, _⟩ | ⟨rfl, _⟩ | ⟨rfl, _⟩ | ⟨rfl, _⟩ <;> decide

theorem notMem_names_of_ofMember? (isNone : Change.ofMember? (name, value) = none) :
    name ∉ Change.names := by
  intro isOne
  simp only [Change.names, List.mem_cons, List.not_mem_nil, or_false] at isOne
  rcases isOne with rfl | rfl | rfl | rfl | rfl | rfl <;> cases isNone

/-- A change puts its value in the place of its part. -/
theorem Entry.document_after (inWords : String → List Record.Fault → String) (entry : Entry)
    (stands : Change.ofMember? (name, value) = some change) :
    (entry.after change).document inWords =
      Entries.put (entry.document inWords) name value := by
  rcases Change.cases_of_ofMember? stands with
    ⟨rfl, rfl⟩ | ⟨rfl, rfl⟩ | ⟨rfl, rfl⟩ | ⟨rfl, rfl⟩ | ⟨rfl, rfl⟩ | ⟨rfl, rfl⟩ <;> rfl

theorem float_beq_int {number : Double} {whole : Int} (isExact : number.whole? = some whole) :
    (Value.float number == .int whole) = true := by
  show Value.countsAs _ _ = true
  simp only [Value.countsAs, Value.counted, isExact, Option.map_some, Option.getD_some, BEq.rfl]

theorem float_plain_beq (number : Double) : (Value.float number.plain == .float number) = true := by
  show Value.countsAs _ _ = true
  unfold Value.countsAs
  rw [counted_plain, Value.counted]
  cases number.whole? <;> simp

/-- A table keeps a declared value as it is, but for the way in which numbers are written. -/
theorem Change.exists_inTable (stands : Change.ofMember? (name, value) = some change)
    (isDeclared : change.IsDeclared) :
    ∃ held, Change.ofMember? (name, held) = some change.inTable ∧
      (held = value ∨ (held == value) = true) := by
  rcases cases_of_ofMember? stands with
    ⟨rfl, rfl⟩ | ⟨rfl, rfl⟩ | ⟨rfl, rfl⟩ | ⟨rfl, rfl⟩ | ⟨rfl, rfl⟩ | ⟨rfl, rfl⟩
  · have isProper : value.IsProper := by
      rcases isDeclared with rfl | ⟨isProper, _⟩
      · trivial
      · exact isProper
    refine ⟨value, ?_, .inl rfl⟩
    rw [inTable, rewritten_of_isProper isProper]
    rfl
  · exact ⟨value, rfl, .inl rfl⟩
  · rcases isDeclared with ⟨number, _, rfl⟩ | ⟨whole, _, isExact, rfl⟩
    · exact ⟨.float number.plain, rfl, .inr (float_plain_beq number)⟩
    · exact ⟨.float (.ofInt whole), rfl, .inr (float_beq_int isExact)⟩
  · rcases isDeclared with ⟨whole, _, rfl⟩ | ⟨truth, rfl⟩
    · exact ⟨.int whole, rfl, .inl rfl⟩
    · refine ⟨.int (if truth then 1 else 0), rfl, .inr ?_⟩
      cases truth <;> rfl
  · exact ⟨value, rfl, .inl rfl⟩
  · obtain ⟨truth, rfl⟩ := isDeclared
    exact ⟨.bool truth, by cases truth <;> rfl, .inl rfl⟩

theorem Shelf.exists_held (shelf : Shelf) (stands : Change.ofMember? (name, value) = some change)
    (isDeclared : shelf = .table → change.IsDeclared) :
    ∃ held, Change.ofMember? (name, held) = some (shelf.keep change) ∧
      (held = value ∨ (held == value) = true) := by
  cases shelf with
  | memory limit => exact ⟨value, stands, .inl rfl⟩
  | table => exact Change.exists_inTable stands (isDeclared rfl)

/-- What is given under a name that may not change makes no difference. -/
theorem HasTaken.cons_of_fixed {given old new : Members} (hasTaken : HasTaken given old new)
    (isFixed : name ∉ Change.names) : HasTaken ((name, value) :: given) old new := by
  have differs {other : String} (mayChange : other ∈ Change.names) : ¬ (name == other) = true :=
    fun same => isFixed (eq_of_beq same ▸ mayChange)
  constructor
  case taken =>
    intro other found mayChange isGiven
    rw [Entries.get?_cons, if_neg (differs mayChange)] at isGiven
    exact hasTaken.taken mayChange isGiven
  case stays =>
    intro other isAbsent
    refine hasTaken.stays fun mayChange => ?_
    have isNone := isAbsent mayChange
    rwa [Entries.get?_cons, if_neg (differs mayChange)] at isNone

/-- What is given under a name that may change is taken on before all that is given later, as long
as nothing later is given under that name. -/
theorem HasTaken.cons_of_put {given old new : Members} {held : Value}
    (hasTaken : HasTaken given (Entries.put old name held) new) (mayChange : name ∈ Change.names)
    (absent : Entries.get? given name = none) (isValue : held = value ∨ (held == value) = true) :
    HasTaken ((name, value) :: given) old new := by
  constructor
  case taken =>
    intro other found otherMayChange isGiven
    rw [Entries.get?_cons] at isGiven
    split at isGiven
    · next same =>
      obtain rfl := eq_of_beq same
      cases isGiven
      refine ⟨held, ?_, isValue⟩
      rw [hasTaken.stays fun _ => absent]
      exact Entries.get?_put_self _ _ _
    · exact hasTaken.taken otherMayChange isGiven
  case stays =>
    intro other isAbsent
    rw [Entries.get?_cons] at isAbsent
    split at isAbsent
    · next same =>
      obtain rfl := eq_of_beq same
      cases isAbsent mayChange
    · next differs =>
      rw [hasTaken.stays isAbsent]
      exact Entries.get?_put_of_ne _ _ fun same => differs (beq_iff_eq.mpr same.symm)

end Member

/-- An entry takes on what is given, member by member. -/
theorem hasTaken_foldl (inWords : String → List Record.Fault → String) (shelf : Shelf)
    {given : Members} (differ : (given.map Prod.fst).Nodup)
    (areDeclared : shelf = .table →
      ∀ change ∈ given.filterMap Change.ofMember?, change.IsDeclared) (entry : Entry) :
    HasTaken given (entry.document inWords)
      ((((given.filterMap Change.ofMember?).map shelf.keep).foldl Entry.after entry).document
        inWords) := by
  induction given generalizing entry with
  | nil => exact ⟨nofun, fun _ => rfl⟩
  | cons member rest inductionHypothesis =>
    obtain ⟨name, value⟩ := member
    obtain ⟨isNew, restDiffers⟩ := List.nodup_cons.mp differ
    cases stands : Change.ofMember? (name, value) with
    | none =>
      rw [List.filterMap_cons_none stands] at areDeclared ⊢
      exact (inductionHypothesis restDiffers areDeclared entry).cons_of_fixed
        (notMem_names_of_ofMember? stands)
    | some change =>
      rw [List.filterMap_cons_some stands] at areDeclared ⊢
      obtain ⟨held, heldStands, isValue⟩ := shelf.exists_held stands
        fun isTable => areDeclared isTable change List.mem_cons_self
      have later := inductionHypothesis restDiffers
        (fun isTable other among => areDeclared isTable other (List.mem_cons_of_mem _ among))
        (entry.after (shelf.keep change))
      rw [entry.document_after inWords heldStands] at later
      exact later.cons_of_put (mem_names_of_ofMember? stands)
        (Entries.get?_eq_none_iff.mpr isNew) isValue

/-! ### The entries of a journal -/

theorem ids_changed (entries : List Entry) (id : String) (changes : List Change) :
    (changed entries id changes).map (·.id) = entries.map (·.id) := by
  unfold changed
  rw [List.map_map]
  refine List.map_congr_left fun entry _ => ?_
  rw [Function.comp_apply]
  split
  · exact Entry.foldl_after_id changes entry
  · rfl

theorem update_eq (journal : Journal) (id : String) (changes : List Change) :
    (journal.update id changes).2 =
      { journal with entries := changed journal.entries id (changes.map journal.shelf.keep) } := by
  unfold update Shelf.keep
  cases journal.shelf with
  | memory limit => simp only [List.map_id]
  | table => rfl

theorem nodup_ids_save {journal : Journal} (differ : (journal.entries.map (·.id)).Nodup)
    (entry : Entry) : ((journal.save entry).entries.map (·.id)).Nodup := by
  unfold save
  split
  · dsimp only
    rw [List.map_drop]
    refine List.Nodup.sublist (List.drop_sublist _ _) ?_
    split
    · have sameIds : (journal.entries.map fun old => if old.id == entry.id then entry else old).map
          (·.id) = journal.entries.map (·.id) := by
        rw [List.map_map]
        refine List.map_congr_left fun old _ => ?_
        rw [Function.comp_apply]
        split
        · next same => exact (beq_iff_eq.mp same).symm
        · rfl
      rw [sameIds]
      exact differ
    · next isNew =>
      rw [List.map_append, List.nodup_append]
      refine ⟨differ, List.nodup_singleton _, fun one among other isLast same => isNew ?_⟩
      obtain ⟨old, member, rfl⟩ := List.mem_map.mp among
      rw [List.map_singleton, List.mem_singleton] at isLast
      exact List.any_eq_true.mpr ⟨old, member, beq_iff_eq.mpr (same.trans isLast)⟩
  · dsimp only
    rw [List.map_append, List.nodup_append]
    refine ⟨differ.sublist (List.filter_sublist.map _), List.nodup_singleton _, ?_⟩
    intro one among other isLast same
    obtain ⟨old, member, rfl⟩ := List.mem_map.mp among
    rw [List.map_singleton, List.mem_singleton, entry.inTable_id] at isLast
    exact bne_iff_ne.mp (List.mem_filter.mp member).2 (same.trans isLast)

namespace Use

/-- No use of a journal makes an identifier stand twice in it. -/
theorem nodup_ids_leave {journal : Journal} (differ : (journal.entries.map (·.id)).Nodup)
    (use : Use) : ((use.leave journal).entries.map (·.id)).Nodup := by
  cases use with
  | save entry => exact nodup_ids_save differ entry
  | overwrite id given =>
    show ((journal.overwrite id given).2.entries.map (·.id)).Nodup
    rw [Journal.overwrite, update_eq, ids_changed]
    exact differ
  | get id => exact differ
  | find query => exact differ

theorem shelf_leave (journal : Journal) (use : Use) :
    (use.leave journal).shelf = journal.shelf := by
  cases use with
  | save entry =>
    show (journal.save entry).shelf = journal.shelf
    unfold Journal.save
    split <;> rfl
  | overwrite id given =>
    show (journal.overwrite id given).2.shelf = journal.shelf
    rw [Journal.overwrite, update_eq]
  | get id => rfl
  | find query => rfl

/-- Whatever was done to a journal, it is on its shelf and no identifier stands twice in it. -/
theorem reached_keeps (shelf : Shelf) (uses : List Use) :
    (reached shelf uses).shelf = shelf ∧ ((reached shelf uses).entries.map (·.id)).Nodup := by
  unfold reached
  have begins : ({ shelf } : Journal).shelf = shelf ∧
      (({ shelf } : Journal).entries.map (·.id)).Nodup := ⟨rfl, List.nodup_nil⟩
  generalize ({ shelf } : Journal) = journal at begins ⊢
  induction uses generalizing journal with
  | nil => exact begins
  | cons use later inductionHypothesis =>
    exact inductionHypothesis (use.leave journal)
      ⟨(shelf_leave journal use).trans begins.1, nodup_ids_leave begins.2 use⟩

end Use

/-! ### What is written, and what is said -/

section Written

variable {journal : Journal} {id : String} {given : Members}

theorem overwrite_of_unknown (isUnknown : ¬ journal.Knows id) :
    (journal.overwrite id given).2 = journal := by
  rw [overwrite, update_eq, changed_of_unknown fun entry among same =>
    isUnknown ⟨entry, among, same⟩]

theorem isOfUse_iff : IsOfUse given ↔ given.filterMap Change.ofMember? ≠ [] := by
  constructor
  · rintro ⟨⟨name, value⟩, among, mayChange⟩ isEmpty
    exact notMem_names_of_ofMember? (List.filterMap_eq_nil_iff.mp isEmpty _ among) mayChange
  · intro isThere
    obtain ⟨change, found⟩ := List.exists_mem_of_ne_nil _ isThere
    obtain ⟨⟨name, value⟩, among, stands⟩ := List.mem_filterMap.mp found
    exact ⟨_, among, mem_names_of_ofMember? stands⟩

theorem overwrite_of_useless (isUseless : ¬ IsOfUse given) :
    (journal.overwrite id given).2 = journal := by
  have nothing : given.filterMap Change.ofMember? = [] :=
    not_not.mp fun isThere => isUseless (isOfUse_iff.mpr isThere)
  have same : changed journal.entries id [] = journal.entries := by
    simp only [changed, List.foldl_nil, ite_self, List.map_id']
  rw [overwrite, update_eq, nothing, List.map_nil, same]

/-- A journal in memory says whether the entry is there. -/
theorem overwrite_memory {limit : Nat} (shelf : journal.shelf = .memory limit) :
    (journal.overwrite id given).1 = true ↔ journal.Knows id := by
  unfold overwrite update
  rw [shelf]
  simp only [List.any_eq_true, beq_iff_eq, Knows]

/-- A journal in a table says whether there is something to write. -/
theorem overwrite_table (shelf : journal.shelf = .table) :
    (journal.overwrite id given).1 = true ↔ IsOfUse given := by
  unfold overwrite update
  rw [shelf, isOfUse_iff]
  simp only [Bool.not_eq_true', List.isEmpty_eq_false_iff]

theorem isWritten_overwrite (differ : (journal.entries.map (·.id)).Nodup)
    (namesDiffer : (given.map Prod.fst).Nodup)
    (areDeclared : journal.shelf = .table →
      ∀ change ∈ given.filterMap Change.ofMember?, change.IsDeclared)
    (known : journal.Knows id) :
    IsWritten journal id given (journal.overwrite id given).2 := by
  obtain ⟨entry, among, named⟩ := known
  obtain ⟨before, after, splits⟩ := List.append_of_mem among
  have others : ∀ other ∈ before ++ after, other.id ≠ id := by
    rw [splits, List.map_append, List.map_cons, List.nodup_middle, List.nodup_cons,
      ← List.map_append, named] at differ
    exact fun other member same => differ.1 (List.mem_map.mpr ⟨other, member, same⟩)
  have rest {part : List Entry} (isPart : part ⊆ before ++ after) (changes : List Change) :
      changed part id changes = part :=
    changed_of_unknown (fun other member => others other (isPart member)) changes
  refine ⟨before, entry, _, after, splits, ?_, named, others,
    fun inWords => hasTaken_foldl inWords journal.shelf namesDiffer areDeclared entry⟩
  have written (changes : List Change) : changed journal.entries id changes =
      before ++ changes.foldl Entry.after entry :: after := by
    rw [splits, changed, List.map_append, List.map_cons, ← changed, ← changed,
      rest (List.subset_append_left before after), rest (List.subset_append_right before after),
      if_pos (beq_iff_eq.mpr named)]
  rw [overwrite, update_eq, written]

end Written

/-- Whatever was done to a journal on either shelf, writing to it gives the entry that is meant
exactly what is given and may change, and changes nothing if there is no such entry. That the answer
also says so holds exactly when the one condition that the shelf looks at implies the other. -/
theorem isFrank_iff (shelf : Shelf) (uses : List Use) (id : String) {given : Members}
    (namesDiffer : (given.map Prod.fst).Nodup)
    (areDeclared : shelf = .table →
      ∀ change ∈ given.filterMap Change.ofMember?, change.IsDeclared) :
    ((Use.reached shelf uses).IsFrank id given ↔
        (Use.reached shelf uses).LooksAtEnough id given) ∧
      ((Use.reached shelf uses).Knows id →
        IsWritten (Use.reached shelf uses) id given
          ((Use.reached shelf uses).overwrite id given).2) ∧
      (¬ (Use.reached shelf uses).Knows id →
        ((Use.reached shelf uses).overwrite id given).2 = Use.reached shelf uses) := by
  obtain ⟨isShelf, differ⟩ := Use.reached_keeps shelf uses
  generalize Use.reached shelf uses = journal at isShelf differ ⊢
  subst isShelf
  have writes (known : journal.Knows id) :=
    isWritten_overwrite differ namesDiffer areDeclared known
  refine ⟨⟨fun isFrank => ?_, fun looks => ?_⟩, writes, overwrite_of_unknown⟩
  · unfold LooksAtEnough
    split
    · next shelf =>
      exact fun known => (isFrank.answer.mp ((overwrite_memory shelf).mpr known)).2
    · next shelf =>
      exact fun isOfUse => (isFrank.answer.mp ((overwrite_table shelf).mpr isOfUse)).1
  · have answer : (journal.overwrite id given).1 = true ↔ journal.Knows id ∧ IsOfUse given := by
      unfold LooksAtEnough at looks
      split at looks
      · next shelf =>
        rw [overwrite_memory shelf]
        exact ⟨fun known => ⟨known, looks known⟩, And.left⟩
      · next shelf =>
        rw [overwrite_table shelf]
        exact ⟨fun isOfUse => ⟨looks isOfUse, isOfUse⟩, And.right⟩
    refine ⟨answer, fun isNo => ?_, fun isYes => writes (answer.mp isYes).1⟩
    by_cases known : journal.Knows id
    · refine overwrite_of_useless fun isOfUse => ?_
      rw [answer.mpr ⟨known, isOfUse⟩] at isNo
      cases isNo
    · exact overwrite_of_unknown known

/-- An entry in a table is written to, with something beside it that is no part of an entry. -/
theorem isFrank_of_known : let entry : Entry :=
      ⟨"call", "2024-01-02", "own", "triage", "scripted", "look", .object [], .null, .given .null,
        .float (.ofInt 0), .int 0, .string "running", .bool false⟩
    (Use.reached .table [.save entry]).IsFrank "call"
      [("status", .string "completed"), ("colour", .int 1)] := by
  intro entry
  refine (isFrank_iff .table [.save entry] "call" (by decide) fun _ change among => ?_).1.mpr
    fun _ => ⟨_, List.mem_singleton_self _, rfl⟩
  rw [List.mem_singleton.mp among]
  exact ⟨"completed", rfl⟩

/-- A table says that it has written to an entry that is not there. -/
theorem not_frank_of_unknown :
    ¬ ∀ (shelf : Shelf) (uses : List Use) (id : String) (given : Members),
      (given.map Prod.fst).Nodup →
      (shelf = .table → ∀ change ∈ given.filterMap Change.ofMember?, change.IsDeclared) →
      (Use.reached shelf uses).IsFrank id given := by
  intro always
  have isFrank := always .table [] "call" [("status", .string "completed")] (by decide)
    fun _ change among => List.mem_singleton.mp among ▸ ⟨"completed", rfl⟩
  obtain ⟨⟨entry, among, _⟩, _⟩ := isFrank.answer.mp rfl
  cases among

end MoveAudit.Journal
