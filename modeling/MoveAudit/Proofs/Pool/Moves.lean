/-
This file says what happens to a pool of callers move by move. Callers come, computations are laid
down to end in some way, a caller takes a turn, or a caller is cancelled; any order of these is an
order in which they can happen, and a run is whatever such an order leads to. A turn asks the store
of the pool at most one thing, and is otherwise one of a few: a caller that has come comes away, or
begins to wait or to compute, a computation ends or goes on, and a caller that waited comes away
with what the owner of its computation did, or waits on. A caller that is cancelled comes away, and
if it computes, its computation ends with it. A store in memory holds what was kept, and so says
what is found there.
-/

import Mathlib.Logic.Relation
import MoveAudit.Cache.Pool
import MoveAudit.Proofs.Act
import MoveAudit.Proofs.Card.Document
import MoveAudit.Proofs.Entries

namespace MoveAudit.Cache

open Json

variable {Failure : Type}

/-! ### Endings -/

namespace Ending

/-- A computation comes to an end of its own: with a card in range, with a failure, or by taking too
long. -/
def IsOwn : Ending Failure → Prop
  | .card result => result.IsInRange
  | .failed _ | .late => True
  | .cancelled => False

/-- What the caller that computes comes away with. -/
def outcome : Ending Failure → Outcome Failure
  | .card result => .card result false
  | .failed failure => .failed failure
  | .late => .late
  | .cancelled => .cancelled

/-- The values that are kept once a computation for a key has ended. -/
def keptAfter (key : String) (values : Members) : Ending Failure → Members
  | .card result => Entries.put values key result.toJson
  | _ => values

theorem get?_keptAfter_of_ne (ending : Ending Failure) {key asked : String} (values : Members)
    (different : asked ≠ key) :
    Entries.get? (ending.keptAfter key values) asked = Entries.get? values asked := by
  cases ending with
  | card result => exact Entries.get?_put_of_ne values _ different
  | failed failure => rfl
  | late => rfl
  | cancelled => rfl

/-- What is kept once a computation has ended was kept before, or is its card under its key. -/
theorem get?_keptAfter_cases {ending : Ending Failure} {key asked : String} {values : Members}
    {value : Value} (found : Entries.get? (ending.keptAfter key values) asked = some value) :
    Entries.get? values asked = some value ∨
      ∃ card, ending = .card card ∧ asked = key ∧ value = card.toJson := by
  cases ending with
  | card result =>
    by_cases same : asked = key
    · subst same
      have value : some result.toJson = some value :=
        (Entries.get?_put_self values asked result.toJson).symm.trans found
      exact Or.inr ⟨result, rfl, rfl, (Option.some.inj value).symm⟩
    · exact Or.inl ((Entries.get?_put_of_ne values _ same).symm.trans found)
  | failed failure => exact Or.inl found
  | late => exact Or.inl found
  | cancelled => exact Or.inl found

/-- Only a computation that ends with a card leaves its caller with one, which is then its own. -/
theorem eq_card_of_outcome {ending : Ending Failure} {card : Card} {isShared : Bool}
    (same : ending.outcome = .card card isShared) : ending = .card card ∧ isShared = false := by
  cases ending with
  | card result =>
    cases same
    exact ⟨rfl, rfl⟩
  | failed failure => cases same
  | late => cases same
  | cancelled => cases same

end Ending

/-- A card that is kept is found again. -/
theorem cardOf_toJson (card : Card) (inRange : card.IsInRange) :
    cardOf card.toJson = .ok (some card) := by
  have notNull : card.toJson.isNull = false := rfl
  unfold cardOf
  rw [notNull, card.check_toJson inRange]
  rfl

theorem Outcome.eq_card_of_shared {outcome : Outcome Failure} {card : Card} {isShared : Bool}
    (same : outcome.shared = .card card isShared) :
    isShared = true ∧ ∃ wasShared, outcome = .card card wasShared := by
  cases outcome with
  | card result wasShared =>
    cases same
    exact ⟨rfl, wasShared, rfl⟩
  | failed failure => cases same
  | late => cases same
  | cancelled => cases same
  | unreadable fault => cases same

/-- A phase of a caller that neither computes nor has come to an end. -/
def Phase.IsIdle : Phase Failure → Prop
  | .arriving | .waiting _ => True
  | .computing | .ended _ => False

/-! ### Moves and runs -/

/-- One thing that happens to a pool. -/
inductive Move (Failure : Type) where
  /-- A caller comes and asks for a key. -/
  | join (id key : String)
  /-- It is laid down how the computation of a caller ends. -/
  | settle (id : String) (ending : Ending Failure)
  /-- A caller does what it does between two waits. -/
  | turn (id : String)
  | cancel (id : String)

/-- A move that cancels nobody. -/
def Move.IsPeaceful : Move Failure → Prop
  | cancel _ => False
  | _ => True

namespace Pool

variable [ToString Failure]

/-- The pool after a move. -/
def after (pool : Pool Failure) : Move Failure → Pool Failure
  | .join id key => pool.join id key
  | .settle id ending => pool.settle id ending
  | .turn id => ((turn id).outcome pool).2.world
  | .cancel id => ((cancel id).outcome pool).2.world

/-- A move can happen to a pool: whoever comes is new, and computations come to ends of their
own. -/
def Allows (pool : Pool Failure) : Move Failure → Prop
  | .join id _ => Entries.get? pool.callers id = none
  | .settle _ ending => ending.IsOwn
  | .turn _ | .cancel _ => True

/-- One move of a kind leads from a pool to the next. -/
def Step (kind : Move Failure → Prop) (pool next : Pool Failure) : Prop :=
  ∃ move, kind move ∧ pool.Allows move ∧ next = pool.after move

/-- Moves of a kind, in any number and any order, lead from a pool to a later one. -/
def Leads (kind : Move Failure → Prop) : Pool Failure → Pool Failure → Prop :=
  Relation.ReflTransGen (Step kind)

/-- A run goes on by a move that can happen. -/
theorem Leads.move {kind : Move Failure → Prop} {pool later : Pool Failure}
    (leads : pool.Leads kind later) (move : Move Failure) (isKind : kind move)
    (allowed : later.Allows move) : pool.Leads kind (later.after move) :=
  leads.tail ⟨move, isKind, allowed, rfl⟩

/-! ### Looking at a pool -/

/-- A caller that asks for a key stands at a phase. -/
def StandsAt (pool : Pool Failure) (id key : String) (phase : Phase Failure) : Prop :=
  Entries.get? pool.callers id = some ⟨key, phase⟩

/-- The values in the memory of a pool. -/
def kept (pool : Pool Failure) : Members :=
  match pool.store with
  | .memory values => values
  | .shared .. => []

theorem StandsAt.unique {pool : Pool Failure} {id key otherKey : String}
    {phase otherPhase : Phase Failure} (stands : pool.StandsAt id key phase)
    (standsToo : pool.StandsAt id otherKey otherPhase) : otherKey = key ∧ otherPhase = phase := by
  have same : some (⟨otherKey, otherPhase⟩ : Caller Failure) = some ⟨key, phase⟩ :=
    Eq.trans (Eq.symm standsToo) stands
  cases same
  exact ⟨rfl, rfl⟩

/-- Whoever is there already is not someone who may still come. -/
theorem StandsAt.ne_of_new {pool : Pool Failure} {id other key : String} {phase : Phase Failure}
    (stands : pool.StandsAt id key phase) (new : Entries.get? pool.callers other = none) :
    id ≠ other := by
  rintro rfl
  rw [StandsAt, new] at stands
  cases stands

theorem not_standsAt_of_new {pool : Pool Failure} {id : String}
    (new : Entries.get? pool.callers id = none) (key : String) (phase : Phase Failure) :
    ¬ pool.StandsAt id key phase :=
  fun stands => stands.ne_of_new new rfl

theorem phaseOf?_of_standsAt {pool : Pool Failure} {id key : String} {phase : Phase Failure}
    (stands : pool.StandsAt id key phase) : pool.phaseOf? id = some phase := by
  unfold phaseOf?
  rw [stands]
  rfl

theorem exists_standsAt_of_phaseOf? {pool : Pool Failure} {id : String} {phase : Phase Failure}
    (found : pool.phaseOf? id = some phase) : ∃ key, pool.StandsAt id key phase := by
  obtain ⟨⟨key, stood⟩, isFound, rfl⟩ := Option.map_eq_some_iff.mp found
  exact ⟨key, isFound⟩

/-- A caller that comes is put where callers begin. -/
theorem join_eq_put (pool : Pool Failure) (id key : String) :
    pool.join id key = put id ⟨key, .arriving⟩ .arriving pool := rfl

theorem standsAt_put_of_ne {pool : Pool Failure} {id other : String} (different : other ≠ id)
    (caller : Caller Failure) (moved : Phase Failure) (key : String) (phase : Phase Failure) :
    (put id caller moved pool).StandsAt other key phase ↔ pool.StandsAt other key phase := by
  unfold StandsAt put
  rw [Entries.get?_put_of_ne _ _ different]

/-- Nobody is moved when someone comes. -/
theorem StandsAt.join {pool : Pool Failure} {id other key : String} {phase : Phase Failure}
    (stands : pool.StandsAt id key phase) (new : Entries.get? pool.callers other = none)
    (otherKey : String) : (pool.join other otherKey).StandsAt id key phase := by
  rw [join_eq_put]
  exact (standsAt_put_of_ne (stands.ne_of_new new) _ _ _ _).mpr stands

theorem standsAt_put_self (pool : Pool Failure) (id : String) (caller : Caller Failure)
    (moved : Phase Failure) : (put id caller moved pool).StandsAt id caller.key moved :=
  Entries.get?_put_self _ _ _

theorem phaseOf?_put_self (pool : Pool Failure) (id : String) (caller : Caller Failure)
    (moved : Phase Failure) : (put id caller moved pool).phaseOf? id = some moved :=
  phaseOf?_of_standsAt (standsAt_put_self pool id caller moved)

theorem standsAt_put_cases {pool : Pool Failure} {id other key : String} {caller : Caller Failure}
    {moved phase : Phase Failure} (stands : (put id caller moved pool).StandsAt other key phase) :
    other = id ∧ key = caller.key ∧ phase = moved ∨
      other ≠ id ∧ pool.StandsAt other key phase := by
  by_cases same : other = id
  · subst same
    exact Or.inl ⟨rfl, StandsAt.unique (standsAt_put_self pool other caller moved) stands⟩
  · exact Or.inr ⟨same, (standsAt_put_of_ne same caller moved key phase).mp stands⟩

/-- Whoever stands at another phase than the one a caller was put into stood there before. -/
theorem StandsAt.of_put {pool : Pool Failure} {id other key : String} {caller : Caller Failure}
    {moved phase : Phase Failure} (stands : (put id caller moved pool).StandsAt other key phase)
    (differs : phase ≠ moved) : pool.StandsAt other key phase := by
  rcases standsAt_put_cases stands with ⟨_, _, same⟩ | ⟨_, before⟩
  · exact absurd same differs
  · exact before

/-- Callers of other keys stay where they are. -/
theorem standsAt_put_of_key_ne {pool : Pool Failure} {id key other otherKey : String}
    {old moved phase : Phase Failure} (stands : pool.StandsAt id key old)
    (different : otherKey ≠ key) :
    (put id ⟨key, old⟩ moved pool).StandsAt other otherKey phase ↔
      pool.StandsAt other otherKey phase := by
  by_cases same : other = id
  · subst same
    have self : (put other ⟨key, old⟩ moved pool).StandsAt other key moved :=
      standsAt_put_self pool other ⟨key, old⟩ moved
    exact iff_of_false (fun after => different (StandsAt.unique self after).1)
      (fun before => different (StandsAt.unique stands before).1)
  · exact standsAt_put_of_ne same _ _ _ _

/-- A caller asks for the same key at whatever phase it stands. -/
theorem exists_standsAt_put {pool : Pool Failure} {id key other otherKey : String}
    {old phase : Phase Failure} (moved : Phase Failure) (stands : pool.StandsAt id key old)
    (standsToo : pool.StandsAt other otherKey phase) :
    ∃ phase, (put id ⟨key, old⟩ moved pool).StandsAt other otherKey phase := by
  by_cases same : other = id
  · subst same
    obtain ⟨rfl, _⟩ := StandsAt.unique stands standsToo
    exact ⟨moved, standsAt_put_self pool other ⟨otherKey, old⟩ moved⟩
  · exact ⟨phase, (standsAt_put_of_ne same _ _ _ _).mpr standsToo⟩

/-- Whoever is there once a caller has been put into a phase was there before. -/
theorem exists_standsAt_of_put {pool : Pool Failure} {id key other otherKey : String}
    {old moved phase : Phase Failure} (stood : pool.StandsAt id key old)
    (stands : (put id ⟨key, old⟩ moved pool).StandsAt other otherKey phase) :
    ∃ old, pool.StandsAt other otherKey old := by
  rcases standsAt_put_cases stands with ⟨rfl, rfl, _⟩ | ⟨_, before⟩
  · exact ⟨old, stood⟩
  · exact ⟨phase, before⟩

/-- When a caller is put into a phase, whoever stands somewhere stays there or is the one that is
moved. -/
theorem StandsAt.stays_or_moves {pool : Pool Failure} {id key other otherKey : String}
    {phase old : Phase Failure} (stands : pool.StandsAt id key phase)
    (standsToo : pool.StandsAt other otherKey old) (moved : Phase Failure) :
    (put other ⟨otherKey, old⟩ moved pool).StandsAt id key phase ∨
      otherKey = key ∧ old = phase ∧
        (put other ⟨otherKey, old⟩ moved pool).StandsAt id key moved := by
  by_cases same : id = other
  · subst same
    obtain ⟨rfl, rfl⟩ := StandsAt.unique stands standsToo
    exact Or.inr ⟨rfl, rfl, standsAt_put_self pool id ⟨otherKey, old⟩ moved⟩
  · exact Or.inl ((standsAt_put_of_ne same _ _ _ _).mpr stands)

/-! ### What a turn does -/

/-- The pool once a caller has begun to compute. -/
def begin_ (id key : String) (pool : Pool Failure) : Pool Failure :=
  { put id ⟨key, .arriving⟩ .computing pool with
    underway := Entries.put pool.underway key id
    begun := pool.begun ++ [id] }

/-- The pool with another store. -/
def storing (store : Store) (pool : Pool Failure) : Pool Failure :=
  { pool with store }

/-- The pool once a caller that has come knows what the store has for it. -/
def arrived (id key : String) (pool : Pool Failure) : Except Fault (Option Card) → Pool Failure
  | .error fault => put id ⟨key, .arriving⟩ (.ended (.unreadable fault)) pool
  | .ok (some card) => put id ⟨key, .arriving⟩ (.ended (.card card true)) pool
  | .ok none => match Entries.get? pool.underway key with
    | some owner => put id ⟨key, .arriving⟩ (.waiting owner) pool
    | none => begin_ id key pool

/-- What an ending comes to for the caller that computes, with the store after that. -/
def closing (key : String) (store : Store) : Ending Failure → Outcome Failure × Store
  | .card card =>
    let (isKept, left) := (set key card).outcome store
    (match isKept with
      | .ok () => .card card false
      | .error fault => .unreadable fault, left.world)
  | .failed failure => (.failed failure, store)
  | .late => (.late, store)
  | .cancelled => (.cancelled, store)

/-- The pool once a caller that computes has come away: its key is free, and for its computation an
ending is laid down. -/
def release (id key : String) (outcome : Outcome Failure) (laidDown : Ending Failure)
    (pool : Pool Failure) : Pool Failure :=
  { put id ⟨key, .computing⟩ (.ended outcome) pool with
    underway := Entries.erase pool.underway key
    endings := Entries.put pool.endings id laidDown }

/-- The pool once the computation of a caller has come to an end, with a store in memory: its
outcome is with the caller, its card is kept, and its key is free. -/
def conclude (id key : String) (ending : Ending Failure) (pool : Pool Failure) : Pool Failure :=
  release id key ending.outcome ending.left
    (storing (.memory (ending.keptAfter key pool.kept)) pool)

/-- A caller that is not there has no turn. -/
theorem after_turn_of_absent {pool : Pool Failure} {id : String}
    (absent : Entries.get? pool.callers id = none) : pool.after (.turn id) = pool := by
  show ((turn id).run ⟨pool, []⟩).2.world = pool
  unfold turn
  rw [Act.run_look_bind]
  simp only [absent]
  rfl

/-- The turn of a caller is that of its phase. -/
theorem after_turn_eq {pool : Pool Failure} {id key : String} {phase : Phase Failure}
    (stands : pool.StandsAt id key phase) :
    pool.after (.turn id) = ((match phase with
      | .arriving => arrive id ⟨key, phase⟩
      | .computing => match Entries.get? pool.endings id with
        | some ending => finish id ⟨key, phase⟩ ending
        | none => pure ()
      | .waiting owner => match pool.phaseOf? owner with
        | some (.ended outcome) => Act.change (put id ⟨key, phase⟩ (.ended outcome.shared))
        | _ => pure ()
      | .ended _ => pure () : Course Failure Unit).run ⟨pool, []⟩).2.world := by
  show ((turn id).run ⟨pool, []⟩).2.world = _
  unfold turn
  rw [Act.run_look_bind]
  unfold StandsAt at stands
  simp only [stands]
  cases phase <;> rfl

/-- What a caller asks the store changes nothing but the store. -/
theorem run_onStore {Result : Type} (pool : Pool Failure) (action : Act Store Fault Result) :
    ((onStore action).settle : Course Failure (Except Fault Result)).run ⟨pool, []⟩ =
      (.ok (action.outcome pool.store).1,
        ⟨storing (action.outcome pool.store).2.world pool,
          (action.outcome pool.store).2.notices⟩) := rfl

/-- A caller that has come looks for its result, and whether someone computes it already. -/
theorem after_turn_of_arriving {pool : Pool Failure} {id key : String}
    (stands : pool.StandsAt id key .arriving) :
    pool.after (.turn id) =
      arrived id key (storing ((get key).outcome pool.store).2.world pool)
        ((get key).outcome pool.store).1 := by
  rw [after_turn_eq stands]
  unfold arrive
  rw [Act.run_bind_ok _ (run_onStore pool (get key))]
  unfold arrived
  cases ((get key).outcome pool.store).1 with
  | error fault => rfl
  | ok found =>
    cases found with
    | some card => rfl
    | none =>
      show ((Act.look >>= _).run _).2.world = _
      rw [Act.run_look_bind]
      dsimp only
      cases Entries.get? (storing _ pool).underway key <;> rfl

/-- A caller comes away when its computation has come to an end. -/
theorem after_turn_of_settled {pool : Pool Failure} {id key : String} {ending : Ending Failure}
    (stands : pool.StandsAt id key .computing)
    (settled : Entries.get? pool.endings id = some ending) :
    pool.after (.turn id) =
      release id key (closing key pool.store ending).1 ending.left
        (storing (closing key pool.store ending).2 pool) := by
  rw [after_turn_eq stands]
  simp only [settled]
  unfold finish close closing
  cases ending with
  | failed failure => rfl
  | late => rfl
  | cancelled => rfl
  | card card =>
    dsimp only
    rw [bind_assoc, Act.run_bind_ok _ (run_onStore pool (set key card))]
    cases ((set key card).outcome pool.store).1 <;> rfl

section Memory

variable {pool : Pool Failure} {id key : String} (memory : pool.store = .memory pool.kept)
include memory

theorem storing_of_memory : storing (.memory pool.kept) pool = pool := by
  unfold storing
  rw [← memory]

theorem outcome_get_of_memory (asked : String) :
    (get asked).outcome pool.store =
      (cardOf (.ofOption (Entries.get? pool.kept asked)), ⟨.memory pool.kept, []⟩) := by
  rw [memory]
  rfl

theorem closing_of_memory (ending : Ending Failure) :
    closing key pool.store ending = (ending.outcome, .memory (ending.keptAfter key pool.kept)) := by
  rw [memory]
  cases ending <;> rfl

/-- A caller that finds a card comes away with it. -/
theorem after_turn_of_kept {card : Card} (stands : pool.StandsAt id key .arriving)
    (inRange : card.IsInRange) (found : Entries.get? pool.kept key = some card.toJson) :
    pool.after (.turn id) = put id ⟨key, .arriving⟩ (.ended (.card card true)) pool := by
  have read : cardOf (.ofOption (Entries.get? pool.kept key)) = .ok (some card) := by
    rw [found]
    exact cardOf_toJson card inRange
  rw [after_turn_of_arriving stands, outcome_get_of_memory memory, read, storing_of_memory memory]
  rfl

/-- A caller that finds nothing looks whether someone computes its card already. -/
theorem after_turn_of_unkept (stands : pool.StandsAt id key .arriving)
    (missing : Entries.get? pool.kept key = none) :
    pool.after (.turn id) = match Entries.get? pool.underway key with
      | some owner => put id ⟨key, .arriving⟩ (.waiting owner) pool
      | none => begin_ id key pool := by
  have read : cardOf (.ofOption (Entries.get? pool.kept key)) = .ok none := by
    rw [missing]
    rfl
  rw [after_turn_of_arriving stands, outcome_get_of_memory memory, read, storing_of_memory memory]
  rfl

theorem after_turn_of_ending {ending : Ending Failure} (stands : pool.StandsAt id key .computing)
    (settled : Entries.get? pool.endings id = some ending) :
    pool.after (.turn id) = conclude id key ending pool := by
  rw [after_turn_of_settled stands settled, closing_of_memory memory]
  rfl

end Memory

theorem after_turn_of_computing {pool : Pool Failure} {id key : String}
    (stands : pool.StandsAt id key .computing) (unsettled : Entries.get? pool.endings id = none) :
    pool.after (.turn id) = pool := by
  rw [after_turn_eq stands]
  simp only [unsettled]
  rfl

/-- A caller that waited comes away with what the owner of its computation did. -/
theorem after_turn_of_waiting {pool : Pool Failure} {id key owner ownerKey : String}
    {outcome : Outcome Failure} (stands : pool.StandsAt id key (.waiting owner))
    (ended : pool.StandsAt owner ownerKey (.ended outcome)) :
    pool.after (.turn id) = put id ⟨key, .waiting owner⟩ (.ended outcome.shared) pool := by
  rw [after_turn_eq stands]
  simp only [phaseOf?_of_standsAt ended]
  rfl

theorem after_turn_of_waiting_on {pool : Pool Failure} {id key owner : String}
    (stands : pool.StandsAt id key (.waiting owner))
    (goesOn : ∀ ownerKey outcome, ¬ pool.StandsAt owner ownerKey (.ended outcome)) :
    pool.after (.turn id) = pool := by
  rw [after_turn_eq stands]
  dsimp only
  split
  · next outcome found =>
    obtain ⟨ownerKey, ended⟩ := exists_standsAt_of_phaseOf? found
    exact absurd ended (goesOn ownerKey outcome)
  · rfl

/-- A turn of a caller that waits for another's computation either ends its waiting, with what the
other ended with, or leaves everything as it is. -/
theorem after_turn_cases_of_waiting {pool : Pool Failure} {id key owner : String}
    (stands : pool.StandsAt id key (.waiting owner)) :
    (∃ ownerKey outcome, pool.StandsAt owner ownerKey (.ended outcome) ∧
        pool.after (.turn id) = put id ⟨key, .waiting owner⟩ (.ended outcome.shared) pool) ∨
      pool.after (.turn id) = pool := by
  by_cases isOver : ∃ ownerKey outcome, pool.StandsAt owner ownerKey (.ended outcome)
  · obtain ⟨ownerKey, outcome, ended⟩ := isOver
    exact Or.inl ⟨ownerKey, outcome, ended, after_turn_of_waiting stands ended⟩
  · exact Or.inr (after_turn_of_waiting_on stands fun ownerKey outcome ended =>
      isOver ⟨ownerKey, outcome, ended⟩)

theorem after_turn_of_ended {pool : Pool Failure} {id key : String} {outcome : Outcome Failure}
    (stands : pool.StandsAt id key (.ended outcome)) : pool.after (.turn id) = pool := by
  rw [after_turn_eq stands]
  rfl

/-- Whoever is there after a turn was there before, and asked for the same key. -/
theorem exists_standsAt_of_turn {pool : Pool Failure} {id other key : String}
    {phase : Phase Failure} (stands : (pool.after (.turn id)).StandsAt other key phase) :
    ∃ old, pool.StandsAt other key old := by
  cases there : Entries.get? pool.callers id with
  | none =>
    rw [after_turn_of_absent there] at stands
    exact ⟨phase, stands⟩
  | some caller =>
    obtain ⟨asked, old⟩ := caller
    have stood : pool.StandsAt id asked old := there
    cases old with
    | arriving =>
      rw [after_turn_of_arriving stood] at stands
      unfold arrived at stands
      split at stands
      · exact exists_standsAt_of_put stood stands
      · exact exists_standsAt_of_put stood stands
      · split at stands <;> exact exists_standsAt_of_put stood stands
    | computing =>
      cases settled : Entries.get? pool.endings id with
      | none =>
        rw [after_turn_of_computing stood settled] at stands
        exact ⟨phase, stands⟩
      | some ending =>
        rw [after_turn_of_settled stood settled] at stands
        exact exists_standsAt_of_put stood stands
    | waiting owner =>
      rcases after_turn_cases_of_waiting stood with ⟨ownerKey, outcome, -, after⟩ | after
      · rw [after] at stands
        exact exists_standsAt_of_put stood stands
      · rw [after] at stands
        exact ⟨phase, stands⟩
    | ended outcome =>
      rw [after_turn_of_ended stood] at stands
      exact ⟨phase, stands⟩

/-- A turn of a caller comes to nothing but the pool after it, whatever was noticed before. -/
theorem exists_run_turn {pool : Pool Failure} (memory : pool.store = .memory pool.kept) (id : String)
    (notices : List Notice) :
    ∃ more, (turn id).run ⟨pool, notices⟩ = (.ok (), ⟨pool.after (.turn id), more⟩) := by
  obtain ⟨store, underway, callers, endings, begun⟩ := pool
  obtain ⟨values, rfl⟩ : ∃ values, store = .memory values := ⟨_, memory⟩
  show ∃ more, _ = (Except.ok (), (⟨((turn id).run ⟨_, []⟩).2.world, more⟩ : Scene _))
  unfold turn
  rw [Act.run_look_bind, Act.run_look_bind]
  dsimp only
  cases Entries.get? callers id with
  | none => exact ⟨_, rfl⟩
  | some caller =>
    obtain ⟨key, phase⟩ := caller
    cases phase with
    | arriving =>
      have asked (notices : List Notice) :
          ((onStore (get key)).settle : Course Failure _).run
            ⟨⟨.memory values, underway, callers, endings, begun⟩, notices⟩ =
          (.ok (cardOf (.ofOption (Entries.get? values key))),
            ⟨⟨.memory values, underway, callers, endings, begun⟩, notices⟩) := rfl
      dsimp only
      unfold arrive
      rw [Act.run_bind_ok _ (asked notices), Act.run_bind_ok _ (asked [])]
      match cardOf (.ofOption (Entries.get? values key)) with
      | .error fault => exact ⟨_, rfl⟩
      | .ok (some card) => exact ⟨_, rfl⟩
      | .ok none =>
        dsimp only
        rw [Act.run_look_bind, Act.run_look_bind]
        dsimp only
        cases Entries.get? underway key <;> exact ⟨_, rfl⟩
    | computing =>
      dsimp only
      match Entries.get? endings id with
      | none => exact ⟨_, rfl⟩
      | some ending => cases ending <;> exact ⟨_, rfl⟩
    | waiting owner =>
      dsimp only
      split <;> exact ⟨_, rfl⟩
    | ended outcome => exact ⟨_, rfl⟩

/-! ### What a cancellation does -/

theorem after_cancel_of_absent {pool : Pool Failure} {id : String}
    (absent : Entries.get? pool.callers id = none) : pool.after (.cancel id) = pool := by
  show ((cancel id).run ⟨pool, []⟩).2.world = pool
  unfold cancel
  rw [Act.run_look_bind]
  simp only [absent]
  rfl

theorem after_cancel_of_ended {pool : Pool Failure} {id key : String} {outcome : Outcome Failure}
    (stands : pool.StandsAt id key (.ended outcome)) : pool.after (.cancel id) = pool := by
  show ((cancel id).run ⟨pool, []⟩).2.world = pool
  unfold cancel StandsAt at *
  rw [Act.run_look_bind]
  simp only [stands]
  rfl

/-- A caller that is cancelled while it does not compute comes away, and that is all. -/
theorem after_cancel_of_idle {pool : Pool Failure} {id key : String} {phase : Phase Failure}
    (stands : pool.StandsAt id key phase) (idle : phase.IsIdle) :
    pool.after (.cancel id) = put id ⟨key, phase⟩ (.ended .cancelled) pool := by
  show ((cancel id).run ⟨pool, []⟩).2.world = _
  unfold cancel StandsAt at *
  rw [Act.run_look_bind]
  simp only [stands]
  cases phase with
  | arriving => rfl
  | waiting owner => rfl
  | computing => exact absurd idle not_false
  | ended outcome => exact absurd idle not_false

/-- A caller that is cancelled while it computes takes its computation with it. -/
theorem after_cancel_of_computing {pool : Pool Failure} {id key : String}
    (stands : pool.StandsAt id key .computing) :
    pool.after (.cancel id) = release id key .cancelled .cancelled pool := by
  have settled : pool.after (.cancel id) =
      { release id key .cancelled .cancelled pool with
        endings := Entries.put (Entries.putNew pool.endings id .cancelled) id .cancelled } := by
    show ((cancel id).run ⟨pool, []⟩).2.world = _
    unfold cancel StandsAt at *
    rw [Act.run_look_bind]
    simp only [stands]
    rfl
  rw [settled, Entries.put_putNew]
  rfl

end Pool

end MoveAudit.Cache
