/-
This file holds what is in order about a pool at every moment, whatever its store is, whatever
others do to that store and whoever is cancelled. A key is under way exactly while some caller
computes it, whoever waits does so for a caller that began to compute the same key, and nobody comes
away with a card of its own that did not. All that can happen to a pool is said once, and each of
these things keeps the order.
-/

import MoveAudit.Proofs.Pool.Moves

namespace MoveAudit.Cache

variable {Failure : Type}

/-! ### How callers come away -/

/-- What a caller comes away with that has asked the store: a card that others made, or what is
wrong with the store. -/
def Outcome.IsFound : Outcome Failure → Prop
  | .card _ isShared => isShared = true
  | .unreadable _ => True
  | .failed _ | .late | .cancelled => False

/-- What a caller comes away with that has computed, when it is not cancelled. -/
def Outcome.IsOwn : Outcome Failure → Prop
  | .card _ isShared => isShared = false
  | .failed _ | .late | .unreadable _ => True
  | .cancelled => False

theorem Ending.IsOwn.outcome {ending : Ending Failure} (isOwn : ending.IsOwn) :
    ending.outcome.IsOwn := by
  cases ending with
  | card card => rfl
  | failed failure => trivial
  | late => trivial
  | cancelled => exact isOwn

theorem Ending.IsOwn.closing {ending : Ending Failure} (isOwn : ending.IsOwn) (key : String)
    (store : Store) : (Pool.closing key store ending).1.IsOwn := by
  cases ending with
  | card card =>
    unfold Pool.closing
    dsimp only
    split <;> trivial
  | failed failure => trivial
  | late => trivial
  | cancelled => exact isOwn

/-- A phase that a caller can be in that has begun to compute, or else has not. -/
def Phase.Suits (hasBegun : Prop) : Phase Failure → Prop
  | .arriving | .waiting _ => ¬ hasBegun
  | .computing => hasBegun
  | .ended (.card _ isShared) => isShared = false ↔ hasBegun
  | .ended (.failed _) | .ended .late | .ended .cancelled | .ended (.unreadable _) => True

/-- What someone shares who has not begun to compute suits it. -/
theorem suits_shared {hasBegun : Prop} (notBegun : ¬ hasBegun) (outcome : Outcome Failure) :
    (Phase.ended outcome.shared).Suits hasBegun := by
  cases outcome with
  | card card isShared => exact iff_of_false (by simp) notBegun
  | failed failure => trivial
  | late => trivial
  | cancelled => trivial
  | unreadable fault => trivial

/-! ### What is in order -/

variable [ToString Failure]

/-- A caller of the pool has come to an end. -/
def Pool.HasEnded (pool : Pool Failure) (id : String) : Prop :=
  ∃ key outcome, pool.StandsAt id key (.ended outcome)

/-- What is in order about a pool at every moment, whatever is kept. -/
structure Pool.Orderly (pool : Pool Failure) : Prop where
  underway {id key : String} :
    Entries.get? pool.underway key = some id ↔ pool.StandsAt id key .computing
  /-- Whoever waits does so for a caller that began to compute the same key. -/
  owned {id key owner : String} : pool.StandsAt id key (.waiting owner) →
    owner ∈ pool.begun ∧ ∃ phase, pool.StandsAt owner key phase
  suits {id key : String} {phase : Phase Failure} :
    pool.StandsAt id key phase → phase.Suits (id ∈ pool.begun)
  known {id : String} : id ∈ pool.begun → ∃ key phase, pool.StandsAt id key phase
  own {id : String} {ending : Ending Failure} : Entries.get? pool.endings id = some ending →
    pool.HasEnded id ∨ ending.IsOwn

namespace Pool

theorem orderly_empty (store : Store) : ({ store } : Pool Failure).Orderly where
  underway := ⟨(nomatch ·), (nomatch ·)⟩
  owned stands := nomatch stands
  suits stands := nomatch stands
  known member := nomatch member
  own found := nomatch found

/-! ### One caller moves -/

/-- Whoever has come to an end stays there when a caller moves that has not. -/
theorem StandsAt.put_of_ended {pool : Pool Failure} {id other key : String}
    {outcome : Outcome Failure} (goesOn : ¬ pool.HasEnded id)
    (ended : pool.StandsAt other key (.ended outcome)) (caller : Caller Failure)
    (moved : Phase Failure) : (put id caller moved pool).StandsAt other key (.ended outcome) := by
  refine (standsAt_put_of_ne ?_ caller moved key _).mpr ended
  rintro rfl
  exact goesOn ⟨key, outcome, ended⟩

theorem HasEnded.put {pool : Pool Failure} {id other : String} (ended : pool.HasEnded other)
    (goesOn : ¬ pool.HasEnded id) (caller : Caller Failure) (moved : Phase Failure) :
    (put id caller moved pool).HasEnded other := by
  obtain ⟨key, outcome, stands⟩ := ended
  exact ⟨key, outcome, stands.put_of_ended goesOn caller moved⟩

theorem StandsAt.not_hasEnded {pool : Pool Failure} {id key : String} {phase : Phase Failure}
    (stands : pool.StandsAt id key phase) (goesOn : ∀ outcome, phase ≠ .ended outcome) :
    ¬ pool.HasEnded id := by
  rintro ⟨otherKey, outcome, ended⟩
  exact goesOn outcome (StandsAt.unique ended stands).2

theorem isIdle_of_standsAt {pool : Pool Failure} {id key otherKey : String}
    {phase otherPhase : Phase Failure} (stands : pool.StandsAt id key phase)
    (idle : phase.IsIdle) (standsToo : pool.StandsAt id otherKey otherPhase) :
    otherPhase.IsIdle := by
  rw [(StandsAt.unique stands standsToo).2]
  exact idle

section Orderly

variable {pool : Pool Failure} (orderly : pool.Orderly)
include orderly

/-- Whoever has begun to compute computes or has come to an end. -/
theorem Orderly.not_isIdle {id key : String} {phase : Phase Failure} (begun : id ∈ pool.begun)
    (stands : pool.StandsAt id key phase) : ¬ phase.IsIdle := by
  have suits := orderly.suits stands
  cases phase with
  | arriving => exact absurd begun suits
  | waiting owner => exact absurd begun suits
  | computing => exact fun idle => idle
  | ended outcome => exact fun idle => idle

/-- A caller that is idle, or not there yet, has not begun to compute. -/
theorem Orderly.not_begun {id : String}
    (idle : ∀ {key phase}, pool.StandsAt id key phase → phase.IsIdle) : id ∉ pool.begun := by
  intro begun
  obtain ⟨key, phase, stands⟩ := orderly.known begun
  exact orderly.not_isIdle begun stands (idle stands)

/-- A caller that is idle, or not there yet, can move to any phase that suits it, as long as it does
not begin to compute by that. -/
theorem Orderly.moved {id key : String} {old moved : Phase Failure}
    (idle : ∀ {key phase}, pool.StandsAt id key phase → phase.IsIdle)
    (rests : moved ≠ .computing) (suits : moved.Suits (id ∈ pool.begun))
    (owned : ∀ {owner}, moved = .waiting owner →
      owner ∈ pool.begun ∧ ∃ phase, pool.StandsAt owner key phase) :
    (put id ⟨key, old⟩ moved pool).Orderly := by
  have goesOn : ¬ pool.HasEnded id := fun ⟨_, _, ended⟩ => idle ended
  have begunStays {other otherKey : String} {phase : Phase Failure} (begun : other ∈ pool.begun)
      (stands : pool.StandsAt other otherKey phase) :
      (Pool.put id ⟨key, old⟩ moved pool).StandsAt other otherKey phase := by
    refine (standsAt_put_of_ne ?_ _ _ _ _).mpr stands
    rintro rfl
    exact orderly.not_begun idle begun
  constructor
  case underway =>
    intro other otherKey
    refine Iff.trans orderly.underway ⟨fun stands => ?_, fun stands => ?_⟩
    · exact begunStays (orderly.suits stands) stands
    · exact stands.of_put rests.symm
  case owned =>
    intro other otherKey owner stands
    have ownedBefore : owner ∈ pool.begun ∧ ∃ phase, pool.StandsAt owner otherKey phase := by
      rcases standsAt_put_cases stands with ⟨_, rfl, same⟩ | ⟨_, before⟩
      · exact owned same.symm
      · exact orderly.owned before
    obtain ⟨begun, phase, before⟩ := ownedBefore
    exact ⟨begun, phase, begunStays begun before⟩
  case suits =>
    intro other otherKey phase stands
    rcases standsAt_put_cases stands with ⟨rfl, _, rfl⟩ | ⟨_, before⟩
    · exact suits
    · exact orderly.suits before
  case known =>
    intro other begun
    obtain ⟨otherKey, phase, stands⟩ := orderly.known begun
    exact ⟨otherKey, phase, begunStays begun stands⟩
  case own =>
    intro other ending found
    exact (orderly.own found).imp_left fun ended => ended.put goesOn _ _

/-- A new caller may come. -/
theorem Orderly.join {id : String} (key : String) (new : Entries.get? pool.callers id = none) :
    (pool.join id key).Orderly := by
  rw [join_eq_put]
  refine orderly.moved (fun stands => absurd stands (not_standsAt_of_new new _ _)) (by simp) ?_
    (nomatch ·)
  exact orderly.not_begun fun stands => absurd stands (not_standsAt_of_new new _ _)

/-- It may be laid down that a computation comes to an end of its own. -/
theorem Orderly.settle (id : String) {ending : Ending Failure} (isOwn : ending.IsOwn) :
    (pool.settle id ending).Orderly where
  underway := orderly.underway
  owned := orderly.owned
  suits := orderly.suits
  known := orderly.known
  own found := by
    rcases Entries.get?_putNew_cases found with before | ⟨_, rfl⟩
    · exact orderly.own before
    · exact Or.inr isOwn

/-- The store may become any other one. -/
theorem Orderly.storing (store : Store) : (storing store pool).Orderly where
  underway := orderly.underway
  owned := orderly.owned
  suits := orderly.suits
  known := orderly.known
  own := orderly.own

/-- A caller that finds nobody who computes its key may begin to. -/
theorem Orderly.begin {id key : String} (stands : pool.StandsAt id key .arriving)
    (free : Entries.get? pool.underway key = none) : (begin_ id key pool).Orderly := by
  have goesOn : ¬ pool.HasEnded id := stands.not_hasEnded (by simp)
  have self : (begin_ id key pool).StandsAt id key .computing :=
    standsAt_put_self pool id ⟨key, .arriving⟩ .computing
  constructor
  case underway =>
    intro other otherKey
    show Entries.get? (Entries.put pool.underway key id) otherKey = some other ↔
      (Pool.put id ⟨key, .arriving⟩ .computing pool).StandsAt other otherKey .computing
    by_cases sameKey : otherKey = key
    · subst sameKey
      rw [Entries.get?_put_self]
      constructor
      · intro same
        cases same
        exact self
      · intro after
        rcases standsAt_put_cases after with ⟨same, _, _⟩ | ⟨_, computes⟩
        · rw [same]
        · rw [orderly.underway.mpr computes] at free
          cases free
    · rw [Entries.get?_put_of_ne _ _ sameKey, standsAt_put_of_key_ne stands sameKey]
      exact orderly.underway
  case owned =>
    intro other otherKey owner after
    change (Pool.put id ⟨key, .arriving⟩ .computing pool).StandsAt _ _ _ at after
    obtain ⟨begun, phase, owns⟩ := orderly.owned (after.of_put (by simp))
    exact ⟨List.mem_append_left _ begun, exists_standsAt_put _ stands owns⟩
  case suits =>
    intro other otherKey phase after
    rcases standsAt_put_cases after with ⟨rfl, _, rfl⟩ | ⟨different, stood⟩
    · exact List.mem_append_right _ (List.mem_singleton_self other)
    · have sameBegun : other ∈ pool.begun ++ [id] ↔ other ∈ pool.begun := by
        simp [different]
      show phase.Suits (other ∈ pool.begun ++ [id])
      rw [sameBegun]
      exact orderly.suits stood
  case known =>
    intro other begun
    rcases List.mem_append.mp begun with already | now
    · obtain ⟨otherKey, phase, stood⟩ := orderly.known already
      exact ⟨otherKey, exists_standsAt_put _ stands stood⟩
    · rw [List.mem_singleton.mp now]
      exact ⟨key, _, self⟩
  case own =>
    intro other ending found
    exact (orderly.own found).imp_left fun ended => ended.put goesOn _ _

/-- Nobody else computes the same key. -/
theorem Orderly.key_ne_of_computing {id key other otherKey : String}
    (computes : pool.StandsAt id key .computing)
    (computesToo : pool.StandsAt other otherKey .computing) (different : other ≠ id) :
    otherKey ≠ key := by
  rintro rfl
  have same := (orderly.underway.mpr computesToo).symm.trans (orderly.underway.mpr computes)
  exact different (Option.some.inj same)

/-- A caller that computes may come away with anything but a card that others made. -/
theorem Orderly.release {id key : String} {outcome : Outcome Failure}
    (stands : pool.StandsAt id key .computing)
    (suits : (Phase.ended outcome).Suits (id ∈ pool.begun)) (laidDown : Ending Failure) :
    (release id key outcome laidDown pool).Orderly := by
  have goesOn : ¬ pool.HasEnded id := stands.not_hasEnded (by simp)
  have self : (Pool.release id key outcome laidDown pool).StandsAt id key (.ended outcome) :=
    standsAt_put_self pool id ⟨key, .computing⟩ _
  constructor
  case underway =>
    intro other otherKey
    show Entries.get? (Entries.erase pool.underway key) otherKey = some other ↔
      (Pool.put id ⟨key, .computing⟩ (.ended outcome) pool).StandsAt other otherKey .computing
    by_cases sameKey : otherKey = key
    · subst sameKey
      rw [Entries.get?_erase_self]
      refine iff_of_false (by simp) fun after => ?_
      rcases standsAt_put_cases after with ⟨_, _, same⟩ | ⟨different, computes⟩
      · cases same
      · exact orderly.key_ne_of_computing stands computes different rfl
    · rw [Entries.get?_erase_of_ne _ sameKey, standsAt_put_of_key_ne stands sameKey]
      exact orderly.underway
  case owned =>
    intro other otherKey owner after
    change (Pool.put id ⟨key, .computing⟩ (.ended outcome) pool).StandsAt _ _ _ at after
    obtain ⟨begun, phase, owns⟩ := orderly.owned (after.of_put (by simp))
    exact ⟨begun, exists_standsAt_put _ stands owns⟩
  case suits =>
    intro other otherKey phase after
    rcases standsAt_put_cases after with ⟨rfl, _, rfl⟩ | ⟨_, stood⟩
    · exact suits
    · exact orderly.suits stood
  case known =>
    intro other begun
    obtain ⟨otherKey, phase, stood⟩ := orderly.known begun
    exact ⟨otherKey, exists_standsAt_put _ stands stood⟩
  case own =>
    intro other ending found
    by_cases same : other = id
    · subst same
      exact Or.inl ⟨key, outcome, self⟩
    · have laidDownBefore : Entries.get? pool.endings other = some ending :=
        (Entries.get?_put_of_ne pool.endings laidDown same).symm.trans found
      exact (orderly.own laidDownBefore).imp_left fun ended => ended.put goesOn _ _

end Orderly

/-! ### When nobody is cancelled -/

/-- What can become of a pool, when nobody is cancelled. -/
inductive Passes (pool : Pool Failure) : Pool Failure → Prop where
  | rests : Passes pool pool
  | joins {id : String} (key : String) (new : Entries.get? pool.callers id = none) :
    Passes pool (pool.join id key)
  | settles (id : String) {ending : Ending Failure} (isOwn : ending.IsOwn) :
    Passes pool (pool.settle id ending)
  | changes (store : Store) : Passes pool (storing store pool)
  /-- A caller comes away with what the store has for it. -/
  | finds {id key : String} {outcome : Outcome Failure} (stands : pool.StandsAt id key .arriving)
    (isFound : outcome.IsFound) (store : Store) :
    Passes pool (put id ⟨key, .arriving⟩ (.ended outcome) (storing store pool))
  /-- A caller begins to wait for another one. -/
  | waits {id key owner : String} (stands : pool.StandsAt id key .arriving)
    (owns : pool.StandsAt owner key .computing) (store : Store) :
    Passes pool (put id ⟨key, .arriving⟩ (.waiting owner) (storing store pool))
  | begins {id key : String} (stands : pool.StandsAt id key .arriving)
    (free : Entries.get? pool.underway key = none) (store : Store) :
    Passes pool (begin_ id key (storing store pool))
  | concludes {id key : String} {outcome : Outcome Failure}
    (stands : pool.StandsAt id key .computing) (isOwn : outcome.IsOwn)
    (laidDown : Ending Failure) (store : Store) :
    Passes pool (release id key outcome laidDown (storing store pool))
  /-- A caller that waited comes away with what the owner of its computation did. -/
  | follows {id key owner : String} {outcome : Outcome Failure}
    (stands : pool.StandsAt id key (.waiting owner))
    (ended : pool.StandsAt owner key (.ended outcome)) :
    Passes pool (put id ⟨key, .waiting owner⟩ (.ended outcome.shared) pool)

theorem Orderly.passes_of_turn {pool : Pool Failure} (orderly : pool.Orderly) (id : String) :
    pool.Passes (pool.after (.turn id)) := by
  cases there : Entries.get? pool.callers id with
  | none =>
    rw [after_turn_of_absent there]
    exact .rests
  | some caller =>
    obtain ⟨key, phase⟩ := caller
    have stands : pool.StandsAt id key phase := there
    cases phase with
    | arriving =>
      rw [after_turn_of_arriving stands]
      unfold arrived
      split
      · refine .finds stands ?_ _
        trivial
      · refine .finds stands ?_ _
        rfl
      · split
        · next owner owns => exact .waits stands (orderly.underway.mp owns) _
        · next free => exact .begins stands free _
    | computing =>
      cases settled : Entries.get? pool.endings id with
      | none =>
        rw [after_turn_of_computing stands settled]
        exact .rests
      | some ending =>
        rw [after_turn_of_settled stands settled]
        rcases orderly.own settled with ⟨otherKey, outcome, ended⟩ | isOwn
        · cases (StandsAt.unique stands ended).2
        · exact .concludes stands (isOwn.closing key pool.store) _ _
    | waiting owner =>
      rcases after_turn_cases_of_waiting stands with ⟨ownerKey, outcome, ended, after⟩ | after
      · obtain ⟨_, ownerPhase, owns⟩ := orderly.owned stands
        obtain ⟨rfl, _⟩ := StandsAt.unique ended owns
        rw [after]
        exact .follows stands ended
      · rw [after]
        exact .rests
    | ended outcome =>
      rw [after_turn_of_ended stands]
      exact .rests

/-- The order is kept when nobody is cancelled. -/
theorem Orderly.of_passes {pool next : Pool Failure} (orderly : pool.Orderly)
    (passes : pool.Passes next) : next.Orderly := by
  cases passes with
  | rests => exact orderly
  | joins key new => exact orderly.join key new
  | settles id isOwn => exact orderly.settle id isOwn
  | changes store => exact orderly.storing store
  | @finds id key outcome stands isFound store =>
    have notBegun : id ∉ pool.begun := orderly.suits stands
    refine (orderly.storing store).moved (isIdle_of_standsAt stands trivial) (by simp) ?_
      (nomatch ·)
    cases outcome with
    | card card isShared =>
      cases isFound
      exact iff_of_false (by simp) notBegun
    | unreadable fault => trivial
    | failed failure => exact absurd isFound not_false
    | late => exact absurd isFound not_false
    | cancelled => exact absurd isFound not_false
  | @waits id key owner stands owns store =>
    have notBegun : id ∉ pool.begun := orderly.suits stands
    refine (orderly.storing store).moved (isIdle_of_standsAt stands trivial) (by simp) notBegun ?_
    intro other same
    cases same
    exact ⟨orderly.suits owns, _, owns⟩
  | begins stands free store => exact (orderly.storing store).begin stands free
  | @concludes id key outcome stands isOwn laidDown store =>
    refine (orderly.storing store).release stands ?_ laidDown
    have begun : id ∈ pool.begun := orderly.suits stands
    cases outcome with
    | card card isShared =>
      cases isOwn
      exact iff_of_true rfl begun
    | failed failure => trivial
    | late => trivial
    | unreadable fault => trivial
    | cancelled => trivial
  | @follows id key owner outcome stands ended =>
    refine orderly.moved (isIdle_of_standsAt stands trivial) (by simp) ?_ (nomatch ·)
    exact suits_shared (orderly.suits stands) outcome

/-! ### One caller through one move -/

/-- What can become of the phase of a caller, when nobody is cancelled. -/
inductive Proceeds (pool : Pool Failure) (key : String) : Phase Failure → Phase Failure → Prop where
  | finds {outcome : Outcome Failure} (isFound : outcome.IsFound) :
    Proceeds pool key .arriving (.ended outcome)
  | waits (owner : String) : Proceeds pool key .arriving (.waiting owner)
  | begins : Proceeds pool key .arriving .computing
  | concludes {outcome : Outcome Failure} (isOwn : outcome.IsOwn) :
    Proceeds pool key .computing (.ended outcome)
  | follows {owner : String} {outcome : Outcome Failure}
    (ended : pool.StandsAt owner key (.ended outcome)) :
    Proceeds pool key (.waiting owner) (.ended outcome.shared)

section Passes

variable {pool next : Pool Failure} (passes : pool.Passes next)
include passes

/-- A caller stays where it is, or proceeds. -/
theorem Passes.proceeds {id key : String} {phase : Phase Failure}
    (stands : pool.StandsAt id key phase) :
    next.StandsAt id key phase ∨ ∃ moved, pool.Proceeds key phase moved ∧
      next.StandsAt id key moved := by
  have put {other otherKey : String} {old moved : Phase Failure}
      (standsToo : pool.StandsAt other otherKey old)
      (proceeds : pool.Proceeds otherKey old moved) :
      (put other ⟨otherKey, old⟩ moved pool).StandsAt id key phase ∨
        ∃ moved', pool.Proceeds key phase moved' ∧
          (Pool.put other ⟨otherKey, old⟩ moved pool).StandsAt id key moved' := by
    rcases stands.stays_or_moves standsToo moved with stays | ⟨rfl, rfl, moves⟩
    · exact Or.inl stays
    · exact Or.inr ⟨moved, proceeds, moves⟩
  cases passes with
  | rests => exact Or.inl stands
  | joins otherKey new => exact Or.inl (stands.join new otherKey)
  | settles other isOwn => exact Or.inl stands
  | changes store => exact Or.inl stands
  | finds standsToo isFound store => exact put standsToo (.finds isFound)
  | waits standsToo owns store => exact put standsToo (.waits _)
  | begins standsToo free store => exact put standsToo .begins
  | concludes standsToo isOwn laidDown store => exact put standsToo (.concludes isOwn)
  | follows standsToo ended => exact put standsToo (.follows ended)

/-- Whoever has come to an end stays there. -/
theorem Passes.ended {id key : String} {outcome : Outcome Failure}
    (stands : pool.StandsAt id key (.ended outcome)) : next.StandsAt id key (.ended outcome) := by
  rcases passes.proceeds stands with stays | ⟨moved, proceeds, _⟩
  · exact stays
  · cases proceeds

/-- Whoever is not there comes first. -/
theorem Passes.comes {id key : String} {phase : Phase Failure}
    (absent : Entries.get? pool.callers id = none) (stands : next.StandsAt id key phase) :
    phase = .arriving := by
  have notThere := not_standsAt_of_new absent
  have put {other otherKey : String} {old moved : Phase Failure}
      (stood : pool.StandsAt other otherKey old)
      (stands : (put other ⟨otherKey, old⟩ moved pool).StandsAt id key phase) : False := by
    rcases standsAt_put_cases stands with ⟨rfl, _, _⟩ | ⟨_, before⟩
    · exact notThere _ _ stood
    · exact notThere _ _ before
  cases passes with
  | joins otherKey new =>
    rw [join_eq_put] at stands
    rcases standsAt_put_cases stands with ⟨_, _, same⟩ | ⟨_, before⟩
    · exact same
    · exact absurd before (notThere _ _)
  | rests => exact absurd stands (notThere _ _)
  | settles other isOwn => exact absurd stands (notThere _ _)
  | changes store => exact absurd stands (notThere _ _)
  | finds stood isFound store => exact (put stood stands).elim
  | waits stood owns store => exact (put stood stands).elim
  | begins stood free store => exact (put stood stands).elim
  | concludes stood isOwn laidDown store => exact (put stood stands).elim
  | follows stood ended => exact (put stood stands).elim

/-- Whoever begins to compute has just come. -/
theorem Passes.begun {id : String} (begun : id ∈ next.begun) :
    id ∈ pool.begun ∨ ∃ key, pool.StandsAt id key .arriving := by
  cases passes with
  | @begins other key stands free store =>
    rcases List.mem_append.mp begun with before | now
    · exact Or.inl before
    · rw [List.mem_singleton.mp now]
      exact Or.inr ⟨key, stands⟩
  | rests => exact Or.inl begun
  | joins otherKey new => exact Or.inl begun
  | settles other isOwn => exact Or.inl begun
  | changes store => exact Or.inl begun
  | finds stands isFound store => exact Or.inl begun
  | waits stands owns store => exact Or.inl begun
  | concludes stands isOwn laidDown store => exact Or.inl begun
  | follows stands ended => exact Or.inl begun

theorem Passes.stillBegun {id : String} (begun : id ∈ pool.begun) : id ∈ next.begun := by
  cases passes with
  | begins stands free store => exact List.mem_append_left _ begun
  | rests => exact begun
  | joins key new => exact begun
  | settles other isOwn => exact begun
  | changes store => exact begun
  | finds stands isFound store => exact begun
  | waits stands owns store => exact begun
  | concludes stands isOwn laidDown store => exact begun
  | follows stands ended => exact begun

end Passes

/-! ### Cancellations -/

/-- What the cancellation of a caller can make of a pool. -/
inductive CutsShort (pool : Pool Failure) (id : String) : Pool Failure → Prop where
  | rests : CutsShort pool id pool
  /-- A caller that does not compute comes away, and that is all. -/
  | withdraws {key : String} {phase : Phase Failure} (stands : pool.StandsAt id key phase)
    (idle : phase.IsIdle) : CutsShort pool id (put id ⟨key, phase⟩ (.ended .cancelled) pool)
  /-- A caller that computes takes its computation with it. -/
  | breaksOff {key : String} (stands : pool.StandsAt id key .computing) :
    CutsShort pool id (release id key .cancelled .cancelled pool)

theorem cutsShort_after (pool : Pool Failure) (id : String) :
    pool.CutsShort id (pool.after (.cancel id)) := by
  cases there : Entries.get? pool.callers id with
  | none =>
    rw [after_cancel_of_absent there]
    exact .rests
  | some caller =>
    obtain ⟨key, phase⟩ := caller
    have stands : pool.StandsAt id key phase := there
    cases phase with
    | arriving =>
      rw [after_cancel_of_idle stands trivial]
      exact .withdraws stands trivial
    | waiting owner =>
      rw [after_cancel_of_idle stands trivial]
      exact .withdraws stands trivial
    | computing =>
      rw [after_cancel_of_computing stands]
      exact .breaksOff stands
    | ended outcome =>
      rw [after_cancel_of_ended stands]
      exact .rests

/-- Nobody begins to compute by a cancellation, and whoever is there after it was there before, and
asked for the same key. -/
theorem CutsShort.keeps_callers {pool next : Pool Failure} {id : String}
    (cutsShort : pool.CutsShort id next) :
    next.begun = pool.begun ∧ ∀ {other key phase},
      next.StandsAt other key phase → ∃ old, pool.StandsAt other key old := by
  cases cutsShort with
  | rests => exact ⟨rfl, fun stands => ⟨_, stands⟩⟩
  | withdraws stood idle => exact ⟨rfl, exists_standsAt_of_put stood⟩
  | breaksOff stood => exact ⟨rfl, exists_standsAt_of_put stood⟩

theorem Orderly.of_cutsShort {pool next : Pool Failure} (orderly : pool.Orderly) {id : String}
    (cutsShort : pool.CutsShort id next) : next.Orderly := by
  cases cutsShort with
  | rests => exact orderly
  | withdraws stands idle =>
    exact orderly.moved (isIdle_of_standsAt stands idle) (by simp) trivial (nomatch ·)
  | breaksOff stands =>
    refine orderly.release stands ?_ .cancelled
    trivial

end Pool

/-! ### Whatever happens -/

/-- One thing that happens around a pool. -/
inductive Happening (Failure : Type) where
  | move (move : Move Failure)
  /-- The store becomes another one by what others do to it. -/
  | change (store : Store)

namespace Pool

/-- The pool after something has happened. -/
def afterwards (pool : Pool Failure) : Happening Failure → Pool Failure
  | .move move => pool.after move
  | .change store => storing store pool

/-- Something can happen to a pool. -/
def Admits (pool : Pool Failure) : Happening Failure → Prop
  | .move move => pool.Allows move
  | .change _ => True

/-- Things of a kind, in any number and any order, lead from a pool to a later one. -/
def Unfolds (kind : Happening Failure → Prop) : Pool Failure → Pool Failure → Prop :=
  Relation.ReflTransGen fun pool next =>
    ∃ happening, kind happening ∧ pool.Admits happening ∧ next = pool.afterwards happening

/-- A run goes on by something that can happen. -/
theorem Unfolds.happens {kind : Happening Failure → Prop} {pool later : Pool Failure}
    (unfolds : pool.Unfolds kind later) (happening : Happening Failure) (isKind : kind happening)
    (admitted : later.Admits happening) : pool.Unfolds kind (later.afterwards happening) :=
  unfolds.tail ⟨happening, isKind, admitted, rfl⟩

/-- Everything that happens either cancels a caller or lets the pool go on. -/
theorem Orderly.passes_or_cutsShort {pool : Pool Failure} (orderly : pool.Orderly)
    {happening : Happening Failure} (admitted : pool.Admits happening) :
    pool.Passes (pool.afterwards happening) ∨
      ∃ id, happening = .move (.cancel id) ∧ pool.CutsShort id (pool.afterwards happening) := by
  cases happening with
  | change store => exact Or.inl (.changes store)
  | move move =>
    cases move with
    | join id key => exact Or.inl (.joins key admitted)
    | settle id ending => exact Or.inl (.settles id admitted)
    | turn id => exact Or.inl (orderly.passes_of_turn id)
    | cancel id => exact Or.inr ⟨id, rfl, cutsShort_after pool id⟩

/-- The order is kept whatever happens. -/
theorem Orderly.afterwards {pool : Pool Failure} (orderly : pool.Orderly)
    {happening : Happening Failure} (admitted : pool.Admits happening) :
    (pool.afterwards happening).Orderly := by
  rcases orderly.passes_or_cutsShort admitted with passes | ⟨id, _, cutsShort⟩
  · exact orderly.of_passes passes
  · exact orderly.of_cutsShort cutsShort

/-- There is order at every moment. -/
theorem Orderly.unfolds {kind : Happening Failure → Prop} {pool later : Pool Failure}
    (orderly : pool.Orderly) (unfolds : pool.Unfolds kind later) : later.Orderly := by
  induction unfolds with
  | refl => exact orderly
  | tail _ happens inductionHypothesis =>
    obtain ⟨happening, _, admitted, rfl⟩ := happens
    exact inductionHypothesis.afterwards admitted

end Pool

end MoveAudit.Cache
