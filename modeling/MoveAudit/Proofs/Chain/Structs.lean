/-
This file says when the fields of structs are gathered as promised. A struct is asked for once at
most, and only by a full name. What is heard of it is read, or else replaced by the field that says
that nothing is known, with one exception: a definition that is neither an object nor empty is a
fault, and one fault ends the whole gathering. So everything is gathered as promised exactly if no
struct has such a definition, whether the structs are asked for one after the other or, as many as a
limit allows, at the same time.
-/

import MoveAudit.Chain.Structs
import MoveAudit.Proofs.Act
import MoveAudit.Proofs.Entries
import MoveAudit.Proofs.Entries.First
import MoveAudit.Proofs.Text.Count

namespace MoveAudit.Structs

open Json Move

variable {Refusal : Type} {replies : String → Except Refusal Value} {id : String}

/-! ### Names and replies -/

/-- A full name has three parts, and none of them is empty. -/
def IsThreefold (id : String) : Prop :=
  ∃ package module name, Text.split "::" id = [package, module, name] ∧
    package ≠ "" ∧ module ≠ "" ∧ name ≠ ""

theorem splitId?_eq_some_iff {package module name : String} :
    splitId? id = some (package, module, name) ↔
      Text.split "::" id = [package, module, name] ∧
        package ≠ "" ∧ module ≠ "" ∧ name ≠ "" := by
  unfold splitId?
  split
  · next first second third isSplit =>
    rw [isSplit]
    split
    · next oneEmpty =>
      refine iff_of_false nofun ?_
      rintro ⟨same, full⟩
      cases same
      simp [full] at oneEmpty
    · next full =>
      simp only [Bool.or_eq_true, String.isEmpty_iff, not_or] at full
      simp only [Option.some.injEq, Prod.mk.injEq, List.cons.injEq, and_true]
      constructor
      · rintro ⟨rfl, rfl, rfl⟩
        exact ⟨⟨rfl, rfl, rfl⟩, full.1.1, full.1.2, full.2⟩
      · exact And.left
  · next other =>
    exact iff_of_false nofun fun isSplit => other _ _ _ isSplit.1

theorem isThreefold_iff : IsThreefold id ↔ (splitId? id).isSome = true := by
  rw [Option.isSome_iff_exists]
  constructor
  · rintro ⟨package, module, name, isSplit⟩
    exact ⟨(package, module, name), splitId?_eq_some_iff.mpr isSplit⟩
  · rintro ⟨⟨package, module, name⟩, found⟩
    exact ⟨package, module, name, splitId?_eq_some_iff.mp found⟩

instance : Decidable (IsThreefold id) := decidable_of_iff _ isThreefold_iff.symm

/-- A source that has one reply on each struct, and writes down what it is asked for. -/
def told (replies : String → Except Refusal Value) : Source (List String) Refusal :=
  fun package module name => do
    let id := "::".intercalate [package, module, name]
    Act.change (· ++ [id])
    Act.ofExcept (replies id)

theorem run_told {package module name : String}
    (found : splitId? id = some (package, module, name)) (scene : Scene (List String)) :
    (told replies package module name).run scene =
      (replies id, { scene with world := scene.world ++ [id] }) := by
  obtain ⟨isSplit, -⟩ := splitId?_eq_some_iff.mp found
  have whole : "::".intercalate [package, module, name] = id :=
    isSplit ▸ Text.intercalate_split "::" id
  unfold told
  rw [whole]
  rfl

/-! ### What is promised -/

/-- The fields that are promised for a struct: those that are described in the list of its
definition, in order, or the one that says that nothing is known. -/
inductive IsPromised (replies : String → Except Refusal Value) (id : String) : List Field → Prop
  | malformed (malformed : ¬ IsThreefold id) : IsPromised replies id [.unknown]
  | refused {refusal : Refusal} (refuses : replies id = .error refusal) :
    IsPromised replies id [.unknown]
  | listless {definition : Value} (answers : replies id = .ok definition)
    (noList : ∀ items, definition.member? "fields" ≠ some (.array items)) :
    IsPromised replies id [.unknown]
  | listed {definition : Value} {items : List Value} (isThreefold : IsThreefold id)
    (answers : replies id = .ok definition)
    (list : definition.member? "fields" = some (.array items)) :
    IsPromised replies id (items.filterMap fieldOf?)

/-- The definitions that are promised for structs: one for each, in order of first mention. -/
structure ArePromised (replies : String → Except Refusal Value) (ids : List String)
    (definitions : Definitions) : Prop where
  names : definitions.map Prod.fst = ids.eraseDups
  fields : ∀ id fields, (id, fields) ∈ definitions → IsPromised replies id fields

/-- Nothing is asked for twice, and nothing but structs that are wanted and have full names. -/
structure AreProper (ids asked : List String) : Prop where
  once : asked.Nodup
  wanted : ∀ id ∈ asked, id ∈ ids ∧ IsThreefold id

/-- A struct has no definition, or else one that is an object or counts as empty. -/
def IsLegible (replies : String → Except Refusal Value) (id : String) : Prop :=
  IsThreefold id → ∀ definition, replies id = .ok definition → definition.isFull = true →
    ∃ members, definition = .object members

/-! ### One struct -/

variable [ToString Refusal]

/-- What is heard of a struct. -/
def heard (replies : String → Except Refusal Value) (id : String) :
    Except ShapeFault (List Field) :=
  ((fieldsOf (told replies) id).outcome []).1

/-- What is asked for to hear of a struct. -/
def calls (replies : String → Except Refusal Value) (id : String) : List String :=
  ((fieldsOf (told replies) id).outcome []).2.world

/-- The fields in a reply on a struct. -/
def fieldsInReply : Except Refusal Value → Except ShapeFault (List Field)
  | .error _ => .ok [.unknown]
  | .ok definition => (fieldsIn definition).map (·.getD [.unknown])

theorem exists_run_of_malformed (replies : String → Except Refusal Value)
    (malformed : ¬ IsThreefold id) (scene : Scene (List String)) :
    ∃ notices, (fieldsOf (told replies) id).run scene =
      (.ok [.unknown], ⟨scene.world, notices⟩) := by
  rw [isThreefold_iff, Option.not_isSome_iff_eq_none] at malformed
  unfold fieldsOf
  rw [malformed]
  exact ⟨_, rfl⟩

theorem exists_run_of_threefold (replies : String → Except Refusal Value)
    (isThreefold : IsThreefold id) (scene : Scene (List String)) :
    ∃ notices, (fieldsOf (told replies) id).run scene =
      (fieldsInReply (replies id), ⟨scene.world ++ [id], notices⟩) := by
  obtain ⟨⟨package, module, name⟩, found⟩ :=
    Option.isSome_iff_exists.mp (isThreefold_iff.mp isThreefold)
  unfold fieldsOf
  rw [found]
  dsimp only
  rw [Act.run_bind_ok _ (Act.run_settle (run_told found scene))]
  cases replies id with
  | error refusal => exact ⟨_, rfl⟩
  | ok definition =>
    unfold fieldsInReply
    dsimp only
    rcases fieldsIn definition with fault | fields | fields
    · exact ⟨_, rfl⟩
    · exact ⟨_, rfl⟩
    · exact ⟨_, rfl⟩

theorem heard_of_malformed (malformed : ¬ IsThreefold id) :
    heard replies id = .ok [.unknown] := by
  obtain ⟨_, ran⟩ := exists_run_of_malformed replies malformed ⟨[], []⟩
  exact congrArg Prod.fst ran

theorem heard_of_threefold (isThreefold : IsThreefold id) :
    heard replies id = fieldsInReply (replies id) := by
  obtain ⟨_, ran⟩ := exists_run_of_threefold replies isThreefold ⟨[], []⟩
  exact congrArg Prod.fst ran

/-- A struct is asked for by its full name, and only if that has three parts. -/
theorem calls_eq (replies : String → Except Refusal Value) (id : String) :
    calls replies id = if IsThreefold id then [id] else [] := by
  unfold calls Act.outcome
  by_cases isThreefold : IsThreefold id
  · obtain ⟨_, ran⟩ := exists_run_of_threefold replies isThreefold ⟨[], []⟩
    rw [ran, if_pos isThreefold]
    rfl
  · obtain ⟨_, ran⟩ := exists_run_of_malformed replies isThreefold ⟨[], []⟩
    rw [ran, if_neg isThreefold]

/-- Neither what is heard of a struct nor what is asked for depends on what was asked for before. -/
theorem exists_run_fieldsOf (replies : String → Except Refusal Value) (id : String)
    (scene : Scene (List String)) :
    ∃ notices, (fieldsOf (told replies) id).run scene =
      (heard replies id, ⟨scene.world ++ calls replies id, notices⟩) := by
  rw [calls_eq]
  by_cases isThreefold : IsThreefold id
  · rw [heard_of_threefold isThreefold, if_pos isThreefold]
    exact exists_run_of_threefold replies isThreefold scene
  · rw [heard_of_malformed isThreefold, if_neg isThreefold, List.append_nil]
    exact exists_run_of_malformed replies isThreefold scene

theorem member?_of_not_isFull {definition : Value} (isEmpty : definition.isFull = false)
    (name : String) : definition.member? name = none := by
  cases definition with
  | object members =>
    cases members with
    | nil => rfl
    | cons member rest => cases isEmpty
  | _ => rfl

theorem fieldsIn_of_not_isFull {definition : Value} (isEmpty : definition.isFull = false) :
    fieldsIn definition = .ok none := by
  unfold fieldsIn Value.full?
  rw [isEmpty]
  rfl

theorem fieldsIn_of_list {members : Members} {items : List Value}
    (isFull : (Value.object members).isFull = true)
    (list : (Value.object members).member? "fields" = some (.array items)) :
    fieldsIn (.object members) = .ok (some (items.filterMap fieldOf?)) := by
  have found : (Value.object members).member "fields" = .ok (.array items) :=
    congrArg (fun found => Except.ok (Value.ofOption found)) list
  unfold fieldsIn Value.full?
  rw [isFull, if_pos rfl, Option.getD_some, found]
  rfl

theorem fieldsIn_of_no_list {members : Members} (isFull : (Value.object members).isFull = true)
    (noList : ∀ items, (Value.object members).member? "fields" ≠ some (.array items)) :
    fieldsIn (.object members) = .ok none := by
  have found : (Value.object members).member "fields" =
      .ok (Value.ofOption ((Value.object members).member? "fields")) := rfl
  unfold fieldsIn Value.full?
  rw [isFull, if_pos rfl, Option.getD_some, found]
  cases isMember : (Value.object members).member? "fields" with
  | none => rfl
  | some value =>
    cases value with
    | array items => exact absurd isMember (noList items)
    | _ => rfl

theorem fieldsIn_of_not_object {definition : Value} (isFull : definition.isFull = true)
    (noObject : ∀ members, definition ≠ .object members) :
    fieldsIn definition = .error .notObject := by
  unfold fieldsIn Value.full?
  rw [isFull]
  cases definition with
  | object members => exact absurd rfl (noObject members)
  | _ => rfl

/-- The fields of a struct are heard as promised unless its definition is neither an object nor
empty. -/
theorem exists_heard_of_legible (legible : IsLegible replies id) :
    ∃ fields, heard replies id = .ok fields ∧ IsPromised replies id fields := by
  by_cases isThreefold : IsThreefold id
  · rw [heard_of_threefold isThreefold]
    cases told : replies id with
    | error refusal => exact ⟨_, rfl, .refused told⟩
    | ok definition =>
      rw [fieldsInReply]
      cases isFull : definition.isFull with
      | false =>
        rw [fieldsIn_of_not_isFull isFull]
        refine ⟨_, rfl, .listless told fun items => ?_⟩
        rw [member?_of_not_isFull isFull]
        exact nofun
      | true =>
        obtain ⟨members, rfl⟩ := legible isThreefold definition told isFull
        by_cases listed : ∃ items, (Value.object members).member? "fields" = some (.array items)
        · obtain ⟨items, list⟩ := listed
          rw [fieldsIn_of_list isFull list]
          exact ⟨_, rfl, .listed isThreefold told list⟩
        · have noList := not_exists.mp listed
          rw [fieldsIn_of_no_list isFull noList]
          exact ⟨_, rfl, .listless told noList⟩
  · exact ⟨_, heard_of_malformed isThreefold, .malformed isThreefold⟩

theorem heard_of_not_legible (illegible : ¬ IsLegible replies id) :
    heard replies id = .error .notObject := by
  simp only [IsLegible, not_forall, not_exists, exists_prop] at illegible
  obtain ⟨isThreefold, definition, answers, isFull, noObject⟩ := illegible
  rw [heard_of_threefold isThreefold, answers, fieldsInReply,
    fieldsIn_of_not_object isFull noObject]
  rfl

/-- What a struct is heard of, where that is no fault. -/
def fieldsHeard (replies : String → Except Refusal Value) (id : String) : List Field :=
  (heard replies id).toOption.getD []

theorem heard_of_legible (legible : IsLegible replies id) :
    heard replies id = .ok (fieldsHeard replies id) := by
  obtain ⟨fields, isHeard, -⟩ := exists_heard_of_legible legible
  rw [fieldsHeard, isHeard]
  rfl

theorem isPromised_of_heard (legible : IsLegible replies id) {fields : List Field}
    (isHeard : heard replies id = .ok fields) : IsPromised replies id fields := by
  obtain ⟨others, isHeardToo, promised⟩ := exists_heard_of_legible legible
  cases isHeard.symm.trans isHeardToo
  exact promised

/-! ### One struct after the other -/

/-- What is asked for to hear of several structs is the full names among theirs. -/
theorem flatMap_calls (replies : String → Except Refusal Value) (ids : List String) :
    ids.flatMap (calls replies) = ids.filter IsThreefold := by
  induction ids with
  | nil => rfl
  | cons id rest inductionHypothesis =>
    rw [List.flatMap_cons, inductionHypothesis, calls_eq, List.filter_cons]
    by_cases isThreefold : IsThreefold id
    · simp only [isThreefold, if_true, decide_true, List.singleton_append]
    · simp only [isThreefold, if_false, decide_false, List.nil_append, Bool.false_eq_true]

theorem exists_run_outcomes (replies : String → Except Refusal Value) (ids : List String)
    (scene : Scene (List String)) :
    ∃ notices, (ids.mapM fun id => do
        return (id, ← (fieldsOf (told replies) id).settle) :
          Act (List String) ShapeFault _).run scene =
      (.ok (ids.map fun id => (id, heard replies id)),
        ⟨scene.world ++ ids.flatMap (calls replies), notices⟩) := by
  induction ids generalizing scene with
  | nil => exact ⟨scene.notices, by rw [List.flatMap_nil, List.append_nil]; rfl⟩
  | cons id rest inductionHypothesis =>
    obtain ⟨between, ran⟩ := exists_run_fieldsOf replies id scene
    obtain ⟨notices, others⟩ := inductionHypothesis ⟨scene.world ++ calls replies id, between⟩
    refine ⟨notices, ?_⟩
    have first : (do return (id, ← (fieldsOf (told replies) id).settle) :
        Act (List String) ShapeFault _).run scene =
          (.ok (id, heard replies id), ⟨scene.world ++ calls replies id, between⟩) := by
      rw [Act.run_bind_ok _ (Act.run_settle ran)]
      rfl
    rw [List.mapM_cons, Act.run_bind_ok _ first, Act.run_bind_ok _ others, List.flatMap_cons,
      ← List.append_assoc]
    rfl

theorem arePromised_of_heard {ids : List String} {definitions : Definitions}
    (legible : ∀ id ∈ ids, IsLegible replies id)
    (names : definitions.map Prod.fst = Entries.distinct ids)
    (areHeard : ∀ id fields, (id, fields) ∈ definitions → heard replies id = .ok fields) :
    ArePromised replies ids definitions where
  names := names.trans (Entries.distinct_eq_eraseDups ids)
  fields id fields isDefined := by
    have isWanted : id ∈ ids :=
      Entries.mem_distinct.mp (names ▸ List.mem_map_of_mem (f := Prod.fst) isDefined)
    exact isPromised_of_heard (legible id isWanted) (areHeard id fields isDefined)

theorem areProper_of_perm {ids some asked : List String} (differ : some.Nodup)
    (wanted : ∀ id ∈ some, id ∈ ids) (same : asked.Perm (some.flatMap (calls replies))) :
    AreProper ids asked where
  once := same.nodup_iff.mpr (flatMap_calls replies some ▸ differ.filter _)
  wanted id isAsked := by
    rw [same.mem_iff, flatMap_calls, List.mem_filter, decide_eq_true_iff] at isAsked
    exact ⟨wanted id isAsked.1, isAsked.2⟩

/-- The definitions of structs, as they are heard. -/
def definitionsHeard (replies : String → Except Refusal Value) (ids : List String) : Definitions :=
  (Entries.distinct ids).map fun id => (id, fieldsHeard replies id)

theorem arePromised_definitionsHeard {ids : List String}
    (legible : ∀ id ∈ ids, IsLegible replies id) :
    ArePromised replies ids (definitionsHeard replies ids) := by
  refine arePromised_of_heard legible ?_ fun id fields isDefined => ?_
  · rw [definitionsHeard, List.map_map]
    exact List.map_id _
  · obtain ⟨other, isDistinct, same⟩ := List.mem_map.mp isDefined
    cases same
    exact heard_of_legible (legible id (Entries.mem_distinct.mp isDistinct))

theorem exists_outcome_resolve {ids : List String} (legible : ∀ id ∈ ids, IsLegible replies id) :
    ∃ notices, (resolve (told replies) ids).outcome [] =
      (.ok (definitionsHeard replies ids),
        ⟨(Entries.distinct ids).flatMap (calls replies), notices⟩) := by
  unfold resolve Act.outcome definitionsHeard
  dsimp only
  split
  · next none =>
    rw [List.isEmpty_iff.mp none]
    exact ⟨_, rfl⟩
  · obtain ⟨notices, asked⟩ := exists_run_outcomes replies (Entries.distinct ids) ⟨[], []⟩
    have taken : ∀ item ∈ (Entries.distinct ids).map fun id => (id, heard replies id),
        ∀ scene : Scene (List String),
          (do return (item.1, ← Act.ofExcept item.2) : Act _ ShapeFault _).run scene =
            (.ok (item.1, fieldsHeard replies item.1), scene) := by
      intro item isOutcome scene
      obtain ⟨id, isDistinct, rfl⟩ := List.mem_map.mp isOutcome
      dsimp only
      rw [heard_of_legible (legible id (Entries.mem_distinct.mp isDistinct))]
      rfl
    rw [Act.run_bind_ok _ asked, Act.run_bind_ok _ (Act.run_mapM _ fun item isOutcome =>
      taken item isOutcome _), List.map_map]
    exact ⟨_, rfl⟩

/-- A definition that is a fault is a fault of the whole gathering. -/
theorem legible_of_outcome_resolve {ids : List String} {definitions : Definitions}
    {left : Scene (List String)}
    (ran : (resolve (told replies) ids).outcome [] = (.ok definitions, left)) :
    ∀ id ∈ ids, IsLegible replies id := by
  intro id isWanted
  have isDistinct : id ∈ Entries.distinct ids := Entries.mem_distinct.mpr isWanted
  unfold resolve Act.outcome at ran
  dsimp only at ran
  rw [if_neg (by rw [List.isEmpty_iff]; exact List.ne_nil_of_mem isDistinct)] at ran
  obtain ⟨notices, asked⟩ := exists_run_outcomes replies (Entries.distinct ids) ⟨[], []⟩
  rw [Act.run_bind_ok _ asked] at ran
  obtain ⟨_, _, taken, -⟩ := Act.exists_of_run_bind ran
  obtain ⟨_, before, after, isTaken⟩ :=
    Act.exists_of_run_mapM taken _ (List.mem_map_of_mem isDistinct)
  refine Classical.byContradiction fun illegible => ?_
  dsimp only at isTaken
  rw [heard_of_not_legible illegible] at isTaken
  cases isTaken

/-! ### Several structs at the same time -/

/-- The structs of a gathering: those that wait for their turn, those that are being fetched, and
what was heard of those that have been; and what the source was asked for so far. -/
structure Crew where
  waiting : List String
  fetching : List String := []
  asked : List String := []
  fetched : List (String × Except ShapeFault (List Field)) := []

namespace Crew

variable {limit : Int}

/-- One thing that happens in a gathering, where no more structs than a limit are fetched at a time,
and one at least. -/
inductive Step (limit : Int) (replies : String → Except Refusal Value) (crew : Crew) : Crew → Prop
  | start {id : String} (waits : id ∈ crew.waiting)
    (room : (crew.fetching.length : Int) < max 1 limit) :
    Step limit replies crew { crew with
      waiting := crew.waiting.erase id
      fetching := id :: crew.fetching
      asked := crew.asked ++ calls replies id }
  | stop {id : String} (isFetched : id ∈ crew.fetching) :
    Step limit replies crew { crew with
      fetching := crew.fetching.erase id
      fetched := crew.fetched ++ [(id, heard replies id)] }

/-- So many things happen and lead from one crew to another. -/
inductive Leads (limit : Int) (replies : String → Except Refusal Value) (start : Crew) :
    Nat → Crew → Prop
  | none : Leads limit replies start 0 start
  | next {steps : Nat} {crew next : Crew} (leads : Leads limit replies start steps crew)
    (step : Step limit replies crew next) : Leads limit replies start (steps + 1) next

/-- What a gathering comes to: the first fault, or else what was heard of each struct once that is
all. -/
inductive Comes (names : List String) (crew : Crew) : Except ShapeFault Definitions → Prop
  | fails {id : String} {fault : ShapeFault} (isHeard : (id, .error fault) ∈ crew.fetched) :
    Comes names crew (.error fault)
  | succeeds {definitions : Definitions} (areNames : definitions.map Prod.fst = names)
    (areHeard : ∀ id fields, (id, fields) ∈ definitions → (id, .ok fields) ∈ crew.fetched) :
    Comes names crew (.ok definitions)

/-- The structs of a crew that have had their turn. -/
def begun (crew : Crew) : List String :=
  crew.fetching ++ crew.fetched.map Prod.fst

/-- A crew on its way: no struct is lost or comes twice, all that had their turn have been asked
for, and what was fetched is what is heard. -/
structure IsOnItsWay (replies : String → Except Refusal Value) (names : List String) (crew : Crew) :
    Prop where
  names : (crew.waiting ++ crew.begun).Perm names
  asked : crew.asked.Perm (crew.begun.flatMap (calls replies))
  areHeard : ∀ id outcome, (id, outcome) ∈ crew.fetched → outcome = heard replies id

theorem IsOnItsWay.step {names : List String} {crew next : Crew}
    (isOnItsWay : crew.IsOnItsWay replies names) (step : Step limit replies crew next) :
    next.IsOnItsWay replies names := by
  cases step with
  | @start id waits room =>
    refine ⟨?_, ?_, isOnItsWay.areHeard⟩
    · refine List.Perm.trans ?_ isOnItsWay.names
      exact List.perm_middle.trans ((List.perm_cons_erase waits).symm.append_right _)
    · exact (isOnItsWay.asked.append_right _).trans List.perm_append_comm
  | @stop id isFetched =>
    have same : ((crew.fetching.erase id) ++ (crew.fetched ++ [(id, heard replies id)]).map
        Prod.fst).Perm crew.begun := by
      rw [List.map_append, ← List.append_assoc]
      refine List.perm_append_comm.trans ?_
      exact (List.perm_cons_erase isFetched).symm.append_right _
    refine ⟨(same.append_left _).trans isOnItsWay.names,
      isOnItsWay.asked.trans (same.symm.flatMap_right _), fun other outcome isHeard => ?_⟩
    rcases List.mem_append.mp isHeard with before | isNew
    · exact isOnItsWay.areHeard other outcome before
    · cases List.mem_singleton.mp isNew
      rfl

theorem isOnItsWay_of_leads {names : List String} {steps : Nat} {crew : Crew}
    (leads : Leads limit replies ⟨names, [], [], []⟩ steps crew) :
    crew.IsOnItsWay replies names := by
  induction leads with
  | none => exact ⟨.of_eq (List.append_nil names), .refl [], nofun⟩
  | next _ step inductionHypothesis => exact inductionHypothesis.step step

/-- What is left to happen. -/
def left (crew : Crew) : Nat :=
  2 * crew.waiting.length + crew.fetching.length

theorem left_of_step {crew next : Crew} (step : Step limit replies crew next) :
    next.left + 1 = crew.left := by
  unfold left
  cases step with
  | @start id waits room =>
    have fewer := List.length_erase_add_one waits
    simp only [List.length_cons]
    omega
  | @stop id isFetched =>
    have fewer := List.length_erase_add_one isFetched
    simp only
    omega

theorem left_add_of_leads {start crew : Crew} {steps : Nat}
    (leads : Leads limit replies start steps crew) : crew.left + steps = start.left := by
  induction leads with
  | none => rfl
  | next _ step inductionHypothesis =>
    have fewer := left_of_step step
    omega

/-- A gathering goes on as long as a struct waits or is being fetched. -/
theorem exists_step (limit : Int) (replies : String → Except Refusal Value) {crew : Crew}
    (unfinished : crew.waiting ≠ [] ∨ crew.fetching ≠ []) :
    ∃ next, Step limit replies crew next := by
  cases fetching : crew.fetching with
  | cons id rest => exact ⟨_, .stop (fetching ▸ List.mem_cons_self)⟩
  | nil =>
    obtain ⟨id, waits⟩ := List.exists_mem_of_ne_nil _ (unfinished.resolve_right (absurd fetching))
    refine ⟨_, .start waits ?_⟩
    rw [fetching]
    exact Int.lt_of_lt_of_le Int.zero_lt_one (Int.le_max_left 1 limit)

end Crew

/-- Structs are gathered as promised: asked for one after the other, they have the definitions that
are promised. The same is true when they are asked for at the same time, in whatever order that
goes; it ends, and comes to nothing else. -/
structure AreGathered (limit : Int) (replies : String → Except Refusal Value) (ids : List String) :
    Prop where
  inTurn : ∃ definitions left, (resolve (told replies) ids).outcome [] = (.ok definitions, left) ∧
    ArePromised replies ids definitions ∧ AreProper ids left.world
  together : ∀ steps crew, Crew.Leads limit replies ⟨ids.eraseDups, [], [], []⟩ steps crew →
    steps ≤ 2 * ids.eraseDups.length ∧ AreProper ids crew.asked ∧
      (∀ outcome, crew.Comes ids.eraseDups outcome →
        ∃ definitions, outcome = .ok definitions ∧ ArePromised replies ids definitions) ∧
      ((∃ next, Crew.Step limit replies crew next) ∨
        ∃ definitions, crew.Comes ids.eraseDups (.ok definitions))

namespace Crew

variable {limit : Int} {ids : List String} {crew : Crew}

theorem IsOnItsWay.areProper (isOnItsWay : crew.IsOnItsWay replies ids.eraseDups) :
    AreProper ids crew.asked := by
  rw [← Entries.distinct_eq_eraseDups] at isOnItsWay
  have differ : (crew.waiting ++ crew.begun).Nodup :=
    isOnItsWay.names.nodup_iff.mpr (Entries.nodup_distinct ids)
  refine areProper_of_perm (List.nodup_append.mp differ).2.1 (fun id isBegun => ?_)
    isOnItsWay.asked
  exact Entries.mem_distinct.mp (isOnItsWay.names.mem_iff.mp (List.mem_append_right _ isBegun))

theorem IsOnItsWay.arePromised (legible : ∀ id ∈ ids, IsLegible replies id)
    (isOnItsWay : crew.IsOnItsWay replies ids.eraseDups)
    {outcome : Except ShapeFault Definitions} (comes : crew.Comes ids.eraseDups outcome) :
    ∃ definitions, outcome = .ok definitions ∧ ArePromised replies ids definitions := by
  rw [← Entries.distinct_eq_eraseDups] at isOnItsWay comes
  cases comes with
  | @fails id fault isHeard =>
    have isWanted : id ∈ ids := by
      refine Entries.mem_distinct.mp (isOnItsWay.names.mem_iff.mp ?_)
      exact List.mem_append_right _ (List.mem_append_right _
        (List.mem_map_of_mem (f := Prod.fst) isHeard))
    have fails := isOnItsWay.areHeard id _ isHeard
    rw [heard_of_legible (legible id isWanted)] at fails
    cases fails
  | @succeeds definitions areNames areHeard =>
    exact ⟨definitions, rfl, arePromised_of_heard legible areNames fun id fields isDefined =>
      (isOnItsWay.areHeard id _ (areHeard id fields isDefined)).symm⟩

/-- A gathering in which nothing more happens has come to something. -/
theorem IsOnItsWay.comes (legible : ∀ id ∈ ids, IsLegible replies id)
    (isOnItsWay : crew.IsOnItsWay replies ids.eraseDups) (noneWait : crew.waiting = [])
    (noneFetching : crew.fetching = []) :
    ∃ definitions, crew.Comes ids.eraseDups (.ok definitions) := by
  refine ⟨definitionsHeard replies ids, .succeeds (arePromised_definitionsHeard legible).names
    fun id fields isDefined => ?_⟩
  obtain ⟨_, isDistinct, same⟩ := List.mem_map.mp isDefined
  cases same
  have isFetched : id ∈ crew.fetched.map Prod.fst := by
    have among := isOnItsWay.names.mem_iff.mpr (Entries.distinct_eq_eraseDups ids ▸ isDistinct)
    rwa [begun, noneWait, noneFetching] at among
  obtain ⟨⟨name, outcome⟩, isHeard, same⟩ := List.mem_map.mp isFetched
  subst same
  dsimp only at isDistinct ⊢
  rw [← heard_of_legible (legible name (Entries.mem_distinct.mp isDistinct)),
    ← isOnItsWay.areHeard name outcome isHeard]
  exact isHeard

end Crew

/-- Structs are gathered as promised exactly if none has a definition that is neither an object nor
empty. -/
theorem are_gathered_iff {limit : Int} {ids : List String} :
    AreGathered limit replies ids ↔ ∀ id ∈ ids, IsLegible replies id := by
  constructor
  · rintro ⟨⟨definitions, left, ran, -⟩, -⟩
    exact legible_of_outcome_resolve ran
  · intro legible
    refine ⟨?_, fun steps crew leads => ?_⟩
    · obtain ⟨notices, ran⟩ := exists_outcome_resolve legible
      exact ⟨_, _, ran, arePromised_definitionsHeard legible, areProper_of_perm
        (Entries.nodup_distinct ids) (fun id => Entries.mem_distinct.mp) (.refl _)⟩
    · have isOnItsWay := Crew.isOnItsWay_of_leads leads
      have most : steps ≤ 2 * ids.eraseDups.length :=
        Nat.le.intro ((Nat.add_comm ..).trans (Crew.left_add_of_leads leads))
      refine ⟨most, isOnItsWay.areProper, fun outcome => isOnItsWay.arePromised legible, ?_⟩
      by_cases finished : crew.waiting = [] ∧ crew.fetching = []
      · exact .inr (isOnItsWay.comes legible finished.1 finished.2)
      · exact .inl (Crew.exists_step limit replies (Decidable.not_and_iff_or_not.mp finished))

/-- A source on which one struct has a definition of the wrong shape. -/
def shelved : String → Except Unit Value
  | "0x1::a::A" => .ok (.object [("fields", .array [.object [("name", .string "id"),
      ("type", .string "UID")]])])
  | "0x1::b::B" => .ok (.array [.string "fields"])
  | _ => .error ()

/-- One definition that is a list ends the gathering of all. -/
theorem gathering_ends_at_list :
    (∃ fault, ((resolve (told shelved) ["0x1::a::A", "0x1::b::B"]).outcome []).1 = .error fault) ∧
      ¬ AreGathered 10 shelved ["0x1::a::A", "0x1::b::B"] := by
  have isThreefold : IsThreefold "0x1::b::B" := by
    rw [isThreefold_iff]
    decide +kernel
  have illegible : ¬ IsLegible shelved "0x1::b::B" := fun legible => by
    obtain ⟨members, same⟩ := legible isThreefold (.array [.string "fields"]) rfl rfl
    cases same
  have isWanted : "0x1::b::B" ∈ ["0x1::a::A", "0x1::b::B"] := by decide
  refine ⟨?_, fun gathered => ?_⟩
  · cases ran : (resolve (told shelved) ["0x1::a::A", "0x1::b::B"]).outcome [] with
    | mk outcome left =>
      cases outcome with
      | error fault => exact ⟨fault, rfl⟩
      | ok definitions => exact absurd (legible_of_outcome_resolve ran _ isWanted) illegible
  · obtain ⟨definitions, left, ran, -⟩ := gathered.inTurn
    exact illegible (legible_of_outcome_resolve ran _ isWanted)

end MoveAudit.Structs
