/-
This file holds what is true of a pool at every moment of a run with a store in memory that callers
alone write to. A key that is under way has nothing kept for it, and whatever is kept is the card of
the caller that computed it, so that nobody ever finds something that cannot be used. One move keeps
all of this, whoever makes it and whoever is cancelled by it, and so every run does.
-/

import MoveAudit.Proofs.Pool.Order

namespace MoveAudit.Cache

open Json

variable {Failure : Type} [ToString Failure]

/-! ### What holds at every moment -/

/-- What holds of a pool at every moment. -/
structure Pool.Sound (pool : Pool Failure) : Prop extends pool.Orderly where
  memory : pool.store = .memory pool.kept
  /-- What is kept is the card of a caller that computed it. -/
  made {key : String} {value : Value} : Entries.get? pool.kept key = some value →
    ∃ maker card, value = card.toJson ∧ pool.StandsAt maker key (.ended (.card card false))
  /-- Whoever came away with a card has a card that is kept. -/
  kept {id key : String} {card : Card} {isShared : Bool} :
    pool.StandsAt id key (.ended (.card card isShared)) →
      Entries.get? pool.kept key = some card.toJson ∧ card.IsInRange
  /-- At most one caller came away with a card of its own for a key. -/
  sole {id other key : String} {card otherCard : Card} :
    pool.StandsAt id key (.ended (.card card false)) →
      pool.StandsAt other key (.ended (.card otherCard false)) → other = id
  unkept {id key : String} : pool.StandsAt id key .computing → Entries.get? pool.kept key = none
  usable {id key : String} {fault : Fault} : ¬ pool.StandsAt id key (.ended (.unreadable fault))

namespace Pool

theorem sound_empty : ({} : Pool Failure).Sound where
  toOrderly := orderly_empty .empty
  memory := rfl
  made found := nomatch found
  kept stands := nomatch stands
  sole stands := nomatch stands
  unkept stands := nomatch stands
  usable stands := nomatch stands

/-! ### One move -/

/-- A caller that is idle, or not there yet, can move to any phase that suits it, as long as it does
not begin to compute by that. -/
theorem Sound.moved {pool : Pool Failure} (sound : pool.Sound) {id key : String}
    {old moved : Phase Failure}
    (idle : ∀ {key phase}, pool.StandsAt id key phase → phase.IsIdle)
    (rests : moved ≠ .computing) (suits : moved.Suits (id ∈ pool.begun))
    (kept : ∀ {card isShared}, moved = .ended (.card card isShared) →
      Entries.get? pool.kept key = some card.toJson ∧ card.IsInRange)
    (usable : ∀ {fault}, moved ≠ .ended (.unreadable fault))
    (owned : ∀ {owner}, moved = .waiting owner →
      owner ∈ pool.begun ∧ ∃ phase, pool.StandsAt owner key phase) :
    (put id ⟨key, old⟩ moved pool).Sound := by
  have goesOn : ¬ pool.HasEnded id := fun ⟨_, _, ended⟩ => idle ended
  have notShared {card : Card} : Phase.ended (.card card false) ≠ moved := by
    rintro rfl
    exact sound.not_begun idle (suits.mp rfl)
  constructor
  case toOrderly => exact sound.toOrderly.moved idle rests suits owned
  case memory => exact sound.memory
  case made =>
    intro asked value found
    obtain ⟨maker, card, same, stands⟩ := sound.made found
    exact ⟨maker, card, same, stands.put_of_ended goesOn _ _⟩
  case kept =>
    intro other otherKey card isShared stands
    rcases standsAt_put_cases stands with ⟨_, rfl, same⟩ | ⟨_, before⟩
    · exact kept same.symm
    · exact sound.kept before
  case sole =>
    intro one other otherKey card otherCard stands standsToo
    exact sound.sole (stands.of_put notShared) (standsToo.of_put notShared)
  case unkept =>
    intro other otherKey stands
    exact sound.unkept (stands.of_put rests.symm)
  case usable =>
    intro other otherKey fault stands
    exact sound.usable (stands.of_put usable.symm)

/-- A new caller may come. -/
theorem Sound.join {pool : Pool Failure} (sound : pool.Sound) {id : String} (key : String)
    (new : Entries.get? pool.callers id = none) : (pool.join id key).Sound := by
  rw [join_eq_put]
  refine sound.moved (fun stands => absurd stands (not_standsAt_of_new new _ _)) (by simp) ?_
    (by simp) (by simp) (by simp)
  exact sound.not_begun fun stands => absurd stands (not_standsAt_of_new new _ _)

/-- It may be laid down that a computation comes to an end of its own. -/
theorem Sound.settle {pool : Pool Failure} (sound : pool.Sound) (id : String)
    {ending : Ending Failure} (isOwn : ending.IsOwn) : (pool.settle id ending).Sound where
  toOrderly := sound.toOrderly.settle id isOwn
  memory := sound.memory
  made := sound.made
  kept := sound.kept
  sole := sound.sole
  unkept := sound.unkept
  usable := sound.usable

/-- A caller that finds neither a card nor anyone who computes it may begin to compute. -/
theorem Sound.begin {pool : Pool Failure} (sound : pool.Sound) {id key : String}
    (stands : pool.StandsAt id key .arriving) (missing : Entries.get? pool.kept key = none)
    (free : Entries.get? pool.underway key = none) :
    (begin_ id key pool).Sound := by
  have goesOn : ¬ pool.HasEnded id := stands.not_hasEnded (by simp)
  have before {other otherKey : String} {phase : Phase Failure}
      (after : (begin_ id key pool).StandsAt other otherKey phase) (differs : phase ≠ .computing) :
      pool.StandsAt other otherKey phase := by
    change (Pool.put id ⟨key, .arriving⟩ .computing pool).StandsAt other otherKey phase at after
    exact after.of_put differs
  constructor
  case toOrderly => exact sound.toOrderly.begin stands free
  case memory => exact sound.memory
  case made =>
    intro asked value found
    obtain ⟨maker, card, same, ended⟩ := sound.made found
    exact ⟨maker, card, same, ended.put_of_ended goesOn _ _⟩
  case kept =>
    intro other otherKey card isShared after
    exact sound.kept (before after (by simp))
  case sole =>
    intro one other otherKey card otherCard after afterToo
    exact sound.sole (before after (by simp)) (before afterToo (by simp))
  case unkept =>
    intro other otherKey after
    rcases standsAt_put_cases after with ⟨_, rfl, _⟩ | ⟨_, computes⟩
    · exact missing
    · exact sound.unkept computes
  case usable =>
    intro other otherKey fault after
    exact sound.usable (before after (by simp))

/-- A computation may come to an end. -/
theorem Sound.conclude {pool : Pool Failure} (sound : pool.Sound) {id key : String}
    {ending : Ending Failure} (stands : pool.StandsAt id key .computing)
    (inRange : ∀ {card}, ending = .card card → card.IsInRange) :
    (conclude id key ending pool).Sound := by
  have goesOn : ¬ pool.HasEnded id := stands.not_hasEnded (by simp)
  have begun : id ∈ pool.begun := sound.suits stands
  have self : (Pool.conclude id key ending pool).StandsAt id key (.ended ending.outcome) :=
    standsAt_put_self pool id ⟨key, .computing⟩ _
  have keptElsewhere {asked : String} (different : asked ≠ key) :
      Entries.get? (Pool.conclude id key ending pool).kept asked = Entries.get? pool.kept asked :=
    ending.get?_keptAfter_of_ne pool.kept different
  have uncarded {other otherKey : String} {card : Card} {isShared : Bool}
      (ended : pool.StandsAt other otherKey (.ended (.card card isShared))) : otherKey ≠ key := by
    rintro rfl
    have isKept := (sound.kept ended).1
    rw [sound.unkept stands] at isKept
    cases isKept
  constructor
  case toOrderly =>
    refine (sound.toOrderly.storing (.memory (ending.keptAfter key pool.kept))).release stands ?_
      ending.left
    cases ending with
    | card card => exact iff_of_true rfl begun
    | failed failure => trivial
    | late => trivial
    | cancelled => trivial
  case memory => rfl
  case made =>
    intro asked value found
    rcases Ending.get?_keptAfter_cases found with isKept | ⟨card, rfl, rfl, same⟩
    · obtain ⟨maker, card, same, ended⟩ := sound.made isKept
      exact ⟨maker, card, same, ended.put_of_ended goesOn _ _⟩
    · exact ⟨id, card, same, self⟩
  case kept =>
    intro other otherKey card isShared after
    rcases standsAt_put_cases after with ⟨rfl, rfl, same⟩ | ⟨_, ended⟩
    · obtain ⟨rfl, rfl⟩ := Ending.eq_card_of_outcome (Phase.ended.inj same).symm
      exact ⟨Entries.get?_put_self _ _ _, inRange rfl⟩
    · rw [keptElsewhere (uncarded ended)]
      exact sound.kept ended
  case sole =>
    intro one other otherKey card otherCard after afterToo
    rcases standsAt_put_cases after with ⟨rfl, rfl, _⟩ | ⟨_, ended⟩
    · rcases standsAt_put_cases afterToo with ⟨rfl, _, _⟩ | ⟨_, endedToo⟩
      · rfl
      · exact absurd rfl (uncarded endedToo)
    · rcases standsAt_put_cases afterToo with ⟨_, rfl, _⟩ | ⟨_, endedToo⟩
      · exact absurd rfl (uncarded ended)
      · exact sound.sole ended endedToo
  case unkept =>
    intro other otherKey after
    rcases standsAt_put_cases after with ⟨_, _, same⟩ | ⟨different, computes⟩
    · cases same
    · rw [keptElsewhere (sound.key_ne_of_computing stands computes different)]
      exact sound.unkept computes
  case usable =>
    intro other otherKey fault after
    rcases standsAt_put_cases after with ⟨_, _, same⟩ | ⟨_, ended⟩
    · cases ending <;> cases same
    · exact sound.usable ended

/-! ### All that a move can do -/

/-- What one move can make of a pool, when nobody is cancelled. -/
inductive Becomes (pool : Pool Failure) : Pool Failure → Prop where
  | rests : Becomes pool pool
  | joins {id : String} (key : String) (new : Entries.get? pool.callers id = none) :
    Becomes pool (pool.join id key)
  | settles (id : String) {ending : Ending Failure} (isOwn : ending.IsOwn) :
    Becomes pool (pool.settle id ending)
  /-- A caller finds a card. -/
  | finds {id key : String} {card : Card} (stands : pool.StandsAt id key .arriving)
    (found : Entries.get? pool.kept key = some card.toJson) (inRange : card.IsInRange) :
    Becomes pool (put id ⟨key, .arriving⟩ (.ended (.card card true)) pool)
  /-- A caller begins to wait for another one. -/
  | waits {id key owner : String} (stands : pool.StandsAt id key .arriving)
    (missing : Entries.get? pool.kept key = none) (owns : pool.StandsAt owner key .computing) :
    Becomes pool (put id ⟨key, .arriving⟩ (.waiting owner) pool)
  | begins {id key : String} (stands : pool.StandsAt id key .arriving)
    (missing : Entries.get? pool.kept key = none)
    (free : Entries.get? pool.underway key = none) : Becomes pool (begin_ id key pool)
  | concludes {id key : String} {ending : Ending Failure}
    (stands : pool.StandsAt id key .computing)
    (settled : Entries.get? pool.endings id = some ending) (isOwn : ending.IsOwn) :
    Becomes pool (conclude id key ending pool)
  /-- A caller that waited comes away with what the owner of its computation did. -/
  | follows {id key owner : String} {outcome : Outcome Failure}
    (stands : pool.StandsAt id key (.waiting owner))
    (ended : pool.StandsAt owner key (.ended outcome)) :
    Becomes pool (put id ⟨key, .waiting owner⟩ (.ended outcome.shared) pool)

/-- It is one of the things that can become of any pool. -/
theorem Becomes.passes {pool next : Pool Failure} (becomes : pool.Becomes next) :
    pool.Passes next := by
  cases becomes with
  | rests => exact .rests
  | joins key new => exact .joins key new
  | settles id isOwn => exact .settles id isOwn
  | @finds id key card stands found inRange =>
    have isFound : (Outcome.card card true : Outcome Failure).IsFound := rfl
    exact .finds stands isFound pool.store
  | waits stands missing owns => exact .waits stands owns pool.store
  | begins stands missing free => exact .begins stands free pool.store
  | concludes stands settled isOwn => exact .concludes stands isOwn.outcome _ _
  | follows stands ended => exact .follows stands ended

theorem Sound.becomes_of_turn {pool : Pool Failure} (sound : pool.Sound) (id : String) :
    pool.Becomes (pool.after (.turn id)) := by
  cases there : Entries.get? pool.callers id with
  | none =>
    rw [after_turn_of_absent there]
    exact .rests
  | some caller =>
    obtain ⟨key, phase⟩ := caller
    have stands : pool.StandsAt id key phase := there
    cases phase with
    | arriving =>
      cases found : Entries.get? pool.kept key with
      | some value =>
        obtain ⟨maker, card, rfl, made⟩ := sound.made found
        have inRange := (sound.kept made).2
        rw [after_turn_of_kept sound.memory stands inRange found]
        exact .finds stands found inRange
      | none =>
        rw [after_turn_of_unkept sound.memory stands found]
        cases underway : Entries.get? pool.underway key with
        | none => exact .begins stands found underway
        | some owner => exact .waits stands found (sound.underway.mp underway)
    | computing =>
      cases settled : Entries.get? pool.endings id with
      | none =>
        rw [after_turn_of_computing stands settled]
        exact .rests
      | some ending =>
        rw [after_turn_of_ending sound.memory stands settled]
        rcases sound.own settled with ⟨otherKey, outcome, ended⟩ | isOwn
        · cases (StandsAt.unique stands ended).2
        · exact .concludes stands settled isOwn
    | waiting owner =>
      rcases after_turn_cases_of_waiting stands with ⟨ownerKey, outcome, ended, after⟩ | after
      · obtain ⟨_, ownerPhase, owns⟩ := sound.owned stands
        obtain ⟨rfl, _⟩ := StandsAt.unique ended owns
        rw [after]
        exact .follows stands ended
      · rw [after]
        exact .rests
    | ended outcome =>
      rw [after_turn_of_ended stands]
      exact .rests

theorem Sound.becomes {pool next : Pool Failure} (sound : pool.Sound)
    (steps : pool.Step Move.IsPeaceful next) : pool.Becomes next := by
  obtain ⟨move, peaceful, allowed, rfl⟩ := steps
  cases move with
  | join id key => exact .joins key allowed
  | settle id ending => exact .settles id allowed
  | turn id => exact sound.becomes_of_turn id
  | cancel id => exact absurd peaceful not_false

/-- Everything still holds after a move that cancels nobody. -/
theorem Sound.of_becomes {pool next : Pool Failure} (sound : pool.Sound)
    (becomes : pool.Becomes next) : next.Sound := by
  cases becomes with
  | rests => exact sound
  | joins key new => exact sound.join key new
  | settles id isOwn => exact sound.settle id isOwn
  | finds stands found inRange =>
    refine sound.moved (isIdle_of_standsAt stands trivial) (by simp) ?_ ?_ (by simp) (nomatch ·)
    · exact iff_of_false (by simp) (sound.suits stands)
    · intro other isShared same
      cases same
      exact ⟨found, inRange⟩
  | @waits id key owner stands missing owns =>
    have notBegun : id ∉ pool.begun := sound.suits stands
    refine sound.moved (isIdle_of_standsAt stands trivial) (by simp) notBegun (nomatch ·) (by simp)
      ?_
    intro other same
    cases same
    exact ⟨sound.suits owns, _, owns⟩
  | begins stands missing free => exact sound.begin stands missing free
  | concludes stands settled isOwn =>
    refine sound.conclude stands fun same => ?_
    subst same
    exact isOwn
  | @follows id key owner outcome stands ended =>
    refine sound.moved (isIdle_of_standsAt stands trivial) (by simp) ?_ ?_ ?_ (nomatch ·)
    · exact suits_shared (sound.suits stands) outcome
    · intro card isShared same
      obtain ⟨_, wasShared, rfl⟩ := Outcome.eq_card_of_shared (Phase.ended.inj same)
      exact sound.kept ended
    · intro fault same
      cases outcome with
      | unreadable fault => exact sound.usable ended
      | card card isShared => cases same
      | failed failure => cases same
      | late => cases same
      | cancelled => cases same

/-- Everything still holds after a cancellation. -/
theorem Sound.of_cutsShort {pool next : Pool Failure} (sound : pool.Sound) {id : String}
    (cutsShort : pool.CutsShort id next) : next.Sound := by
  cases cutsShort with
  | rests => exact sound
  | withdraws stands idle =>
    exact sound.moved (isIdle_of_standsAt stands idle) (by simp) trivial (nomatch ·) (by simp)
      (nomatch ·)
  | @breaksOff key stands =>
    have concludes : Pool.conclude id key .cancelled pool =
        release id key .cancelled .cancelled pool := by
      unfold Pool.conclude
      exact congrArg _ (storing_of_memory sound.memory)
    rw [← concludes]
    exact sound.conclude stands (nomatch ·)

/-! ### Runs -/

/-- Everything still holds after a move. -/
theorem Sound.after {pool : Pool Failure} (sound : pool.Sound) {move : Move Failure}
    (allowed : pool.Allows move) : (pool.after move).Sound := by
  by_cases peaceful : move.IsPeaceful
  · exact sound.of_becomes (sound.becomes ⟨move, peaceful, allowed, rfl⟩)
  · cases move with
    | cancel id => exact sound.of_cutsShort (cutsShort_after pool id)
    | join id key => exact absurd trivial peaceful
    | settle id ending => exact absurd trivial peaceful
    | turn id => exact absurd trivial peaceful

theorem Sound.step {kind : Move Failure → Prop} {pool next : Pool Failure} (sound : pool.Sound)
    (steps : pool.Step kind next) : next.Sound := by
  obtain ⟨move, _, allowed, rfl⟩ := steps
  exact sound.after allowed

/-- Everything holds at every moment of a run. -/
theorem Sound.leads {kind : Move Failure → Prop} {pool later : Pool Failure} (sound : pool.Sound)
    (leads : pool.Leads kind later) : later.Sound := by
  induction leads with
  | refl => exact sound
  | tail _ steps inductionHypothesis => exact inductionHypothesis.step steps

end Pool

end MoveAudit.Cache
