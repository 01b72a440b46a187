/-
This file proves that callers share computations. However the turns of any number of callers come
about, a key is computed by one caller at a time; once a computation has given a card nobody
computes that key again, and everybody who waited for it or comes later has that card, which only
the caller that computed it calls its own; and a computation that fails leaves nothing behind but
its failure, which is that of everybody who waited for it. What a single move can do to a single
caller is said once, and the rest follows along the run.
-/

import MoveAudit.Proofs.Pool.Sound

namespace MoveAudit.Cache

open Json

variable {Failure : Type} [ToString Failure]

/-- A computation comes to an end of its own without a card. -/
def Ending.IsFailure : Ending Failure → Prop
  | .failed _ | .late => True
  | .card _ | .cancelled => False

namespace Pool

/-- A caller comes away with an outcome, by its next turn at the latest. -/
def ComesAwayWith (pool : Pool Failure) (id key : String) (outcome : Outcome Failure) : Prop :=
  (pool.after (.turn id)).StandsAt id key (.ended outcome)

/-! ### One caller through one move -/

/-- What one move can make of the phase of a caller. -/
inductive Advances (pool : Pool Failure) (key : String) : Phase Failure → Phase Failure → Prop where
  | finds {card : Card} (found : Entries.get? pool.kept key = some card.toJson) :
    Advances pool key .arriving (.ended (.card card true))
  | waits {owner : String} (missing : Entries.get? pool.kept key = none) :
    Advances pool key .arriving (.waiting owner)
  | begins (missing : Entries.get? pool.kept key = none) : Advances pool key .arriving .computing
  | concludes {ending : Ending Failure} (isOwn : ending.IsOwn) :
    Advances pool key .computing (.ended ending.outcome)
  | follows {owner : String} {outcome : Outcome Failure}
    (ended : pool.StandsAt owner key (.ended outcome)) :
    Advances pool key (.waiting owner) (.ended outcome.shared)

/-- A caller stays where it is, or advances. -/
theorem Becomes.advances {pool next : Pool Failure} (becomes : pool.Becomes next)
    {id key : String} {phase : Phase Failure} (stands : pool.StandsAt id key phase) :
    next.StandsAt id key phase ∨ ∃ moved, pool.Advances key phase moved ∧
      next.StandsAt id key moved := by
  have put {other otherKey : String} {old moved : Phase Failure}
      (standsToo : pool.StandsAt other otherKey old)
      (advances : pool.Advances otherKey old moved) :
      (put other ⟨otherKey, old⟩ moved pool).StandsAt id key phase ∨
        ∃ moved', pool.Advances key phase moved' ∧
          (Pool.put other ⟨otherKey, old⟩ moved pool).StandsAt id key moved' := by
    rcases stands.stays_or_moves standsToo moved with stays | ⟨rfl, rfl, moves⟩
    · exact Or.inl stays
    · exact Or.inr ⟨moved, advances, moves⟩
  cases becomes with
  | rests => exact Or.inl stands
  | joins otherKey new => exact Or.inl (stands.join new otherKey)
  | settles other isOwn => exact Or.inl stands
  | finds standsToo found inRange => exact put standsToo (.finds found)
  | waits standsToo missing owns => exact put standsToo (.waits missing)
  | begins standsToo missing free => exact put standsToo (.begins missing)
  | concludes standsToo settled isOwn => exact put standsToo (.concludes isOwn)
  | follows standsToo ended => exact put standsToo (.follows ended)

/-- What is kept stays as it is. -/
theorem Becomes.kept {pool next : Pool Failure} (becomes : pool.Becomes next) (sound : pool.Sound)
    {key : String} {value : Value} (found : Entries.get? pool.kept key = some value) :
    Entries.get? next.kept key = some value := by
  cases becomes with
  | @concludes id otherKey ending stands settled isOwn =>
    have different : key ≠ otherKey := by
      rintro rfl
      rw [sound.unkept stands] at found
      cases found
    exact (ending.get?_keptAfter_of_ne pool.kept different).trans found
  | rests => exact found
  | joins otherKey new => exact found
  | settles other isOwn => exact found
  | finds standsToo isFound inRange => exact found
  | waits standsToo missing owns => exact found
  | begins standsToo missing free => exact found
  | follows standsToo ended => exact found

/-- Whoever begins to compute has just come, and nothing is kept for it. -/
theorem Becomes.begun {pool next : Pool Failure} (becomes : pool.Becomes next) {id : String}
    (begun : id ∈ next.begun) :
    id ∈ pool.begun ∨
      ∃ key, pool.StandsAt id key .arriving ∧ Entries.get? pool.kept key = none := by
  cases becomes with
  | @begins other key stands missing free =>
    rcases List.mem_append.mp begun with before | now
    · exact Or.inl before
    · rw [List.mem_singleton.mp now]
      exact Or.inr ⟨key, stands, missing⟩
  | rests => exact Or.inl begun
  | joins otherKey new => exact Or.inl begun
  | settles other isOwn => exact Or.inl begun
  | finds standsToo isFound inRange => exact Or.inl begun
  | waits standsToo missing owns => exact Or.inl begun
  | concludes standsToo settled isOwn => exact Or.inl begun
  | follows standsToo ended => exact Or.inl begun

/-! ### Along a run -/

/-- Whoever has come to an end stays there for the rest of the run. -/
theorem Leads.ended {pool later : Pool Failure} (leads : pool.Leads Move.IsPeaceful later)
    (sound : pool.Sound) {id key : String} {outcome : Outcome Failure}
    (stands : pool.StandsAt id key (.ended outcome)) : later.StandsAt id key (.ended outcome) := by
  induction leads with
  | refl => exact stands
  | tail before steps inductionHypothesis =>
    exact ((sound.leads before).becomes steps).passes.ended inductionHypothesis

/-- A caller waits for another one, or has come away with what that one did. -/
def Trails (pool : Pool Failure) (id key owner : String) : Prop :=
  pool.StandsAt id key (.waiting owner) ∨
    ∃ outcome, pool.StandsAt owner key (.ended outcome) ∧
      pool.StandsAt id key (.ended outcome.shared)

theorem Becomes.trails {pool next : Pool Failure} (becomes : pool.Becomes next)
    {id key owner : String} (trails : pool.Trails id key owner) : next.Trails id key owner := by
  rcases trails with waits | ⟨outcome, owns, ended⟩
  · rcases becomes.advances waits with stays | ⟨moved, advances, ended⟩
    · exact Or.inl stays
    · cases advances with
      | follows owns => exact Or.inr ⟨_, becomes.passes.ended owns, ended⟩
  · exact Or.inr ⟨outcome, becomes.passes.ended owns, becomes.passes.ended ended⟩

/-- Whoever waits for a computation comes away with what its owner did, once that has ended. -/
theorem Leads.comesAwayWith {pool later : Pool Failure} (leads : pool.Leads Move.IsPeaceful later)
    (sound : pool.Sound) {id key owner : String} {outcome : Outcome Failure}
    (waits : pool.StandsAt id key (.waiting owner))
    (owns : later.StandsAt owner key (.ended outcome)) :
    later.ComesAwayWith id key outcome.shared := by
  have trails : later.Trails id key owner := by
    clear owns
    induction leads with
    | refl => exact Or.inl waits
    | tail before steps inductionHypothesis =>
      exact ((sound.leads before).becomes steps).trails inductionHypothesis
  unfold ComesAwayWith
  rcases trails with stillWaits | ⟨other, ownsToo, ended⟩
  · rw [after_turn_of_waiting stillWaits owns]
    exact standsAt_put_self later id ⟨key, .waiting owner⟩ _
  · obtain ⟨_, same⟩ := StandsAt.unique owns ownsToo
    rw [after_turn_of_ended ended, ← Phase.ended.inj same]
    exact ended

/-! ### Once a key is kept -/

/-- A caller has not looked yet, or has come away with a card that others had made. -/
def IsServed (pool : Pool Failure) (id key : String) : Prop :=
  ∀ phase, pool.StandsAt id key phase →
    phase = .arriving ∨ ∃ card, phase = .ended (.card card true)

section Kept

variable {pool : Pool Failure} {key : String} {value : Value}

theorem Becomes.isServed {next : Pool Failure} (becomes : pool.Becomes next)
    (found : Entries.get? pool.kept key = some value) {id : String}
    (served : pool.IsServed id key) : next.IsServed id key := by
  intro phase stands
  cases there : Entries.get? pool.callers id with
  | none => exact Or.inl (becomes.passes.comes there stands)
  | some caller =>
    obtain ⟨otherKey, old⟩ := caller
    have stood : pool.StandsAt id otherKey old := there
    rcases becomes.advances stood with stays | ⟨moved, advances, standsToo⟩
    · obtain ⟨rfl, rfl⟩ := StandsAt.unique stays stands
      exact served _ stood
    · obtain ⟨rfl, rfl⟩ := StandsAt.unique standsToo stands
      cases advances with
      | @finds card isFound => exact Or.inr ⟨card, rfl⟩
      | waits missing =>
        rw [missing] at found
        cases found
      | begins missing =>
        rw [missing] at found
        cases found
      | concludes => rcases served _ stood with same | ⟨card, same⟩ <;> cases same
      | follows ended => rcases served _ stood with same | ⟨card, same⟩ <;> cases same

variable {later : Pool Failure} (leads : pool.Leads Move.IsPeaceful later) (sound : pool.Sound)
  (found : Entries.get? pool.kept key = some value)
include leads sound found

/-- What is kept stays for the rest of the run. -/
theorem Leads.kept : Entries.get? later.kept key = some value := by
  induction leads with
  | refl => exact found
  | tail before steps inductionHypothesis =>
    have soundThen := sound.leads before
    exact (soundThen.becomes steps).kept soundThen inductionHypothesis

theorem Leads.isServed {id : String} (served : pool.IsServed id key) : later.IsServed id key := by
  induction leads with
  | refl => exact served
  | tail before steps inductionHypothesis =>
    have stillFound := Leads.kept before sound found
    exact ((sound.leads before).becomes steps).isServed stillFound inductionHypothesis

/-- Nobody begins to compute a key that is kept. -/
theorem Leads.begun {id : String} {phase : Phase Failure} (stands : later.StandsAt id key phase)
    (begun : id ∈ later.begun) : id ∈ pool.begun := by
  induction leads generalizing phase with
  | refl => exact begun
  | @tail mid next before steps inductionHypothesis =>
    have soundThen : mid.Sound := sound.leads before
    have becomes := soundThen.becomes steps
    have sameKey {otherKey : String} {old : Phase Failure} (stood : mid.StandsAt id otherKey old) :
        key = otherKey := by
      rcases becomes.advances stood with stays | ⟨_, _, moves⟩
      · exact (StandsAt.unique stays stands).1
      · exact (StandsAt.unique moves stands).1
    rcases becomes.begun begun with before' | ⟨otherKey, stood, missing⟩
    · obtain ⟨otherKey, old, stood⟩ := soundThen.known before'
      obtain rfl := sameKey stood
      exact inductionHypothesis stood before'
    · obtain rfl := sameKey stood
      rw [Leads.kept before sound found] at missing
      cases missing

end Kept

/-- Two cards of one key are the same. -/
theorem Sound.card_unique {pool : Pool Failure} (sound : pool.Sound) {id other key : String}
    {card otherCard : Card} {isShared isSharedToo : Bool}
    (stands : pool.StandsAt id key (.ended (.card card isShared)))
    (standsToo : pool.StandsAt other key (.ended (.card otherCard isSharedToo))) :
    otherCard = card := by
  obtain ⟨found, inRange⟩ := sound.kept stands
  obtain ⟨foundToo, inRangeToo⟩ := sound.kept standsToo
  have same : otherCard.toJson = card.toJson :=
    Option.some.inj (foundToo.symm.trans found)
  have read := cardOf_toJson card inRange
  rw [← same, cardOf_toJson otherCard inRangeToo] at read
  cases read
  rfl

/-! ### Callers share computations -/

/-- A key is under way exactly while somebody computes it, and no two callers compute it. -/
def ComputesOnce (pool : Pool Failure) (key : String) : Prop :=
  (pool.isUnderway key = true ↔ ∃ id, pool.StandsAt id key .computing) ∧
    ∀ id other, pool.StandsAt id key .computing → pool.StandsAt other key .computing → other = id

/-- From now on nobody computes a key or begins to, whoever waits for its maker or has not looked
yet comes away with the card of the maker, and of all cards of that key, which are the same, only
the one of the maker is its own. -/
def IsMadeBy (pool : Pool Failure) (maker key : String) (card : Card) : Prop :=
  ∀ later, pool.Leads Move.IsPeaceful later → ∀ id phase, later.StandsAt id key phase →
    phase ≠ .computing ∧ (id ∈ later.begun → id ∈ pool.begun) ∧
    (pool.StandsAt id key (.waiting maker) ∨ pool.IsServed id key →
      later.ComesAwayWith id key (.card card true)) ∧
    ∀ otherCard isShared, phase = .ended (.card otherCard isShared) →
      otherCard = card ∧ (isShared = false ↔ id = maker)

/-- A computation ends in a way: its caller comes away with its outcome and its key is free, and if
it fails then the store is as it was and whoever waited for it comes away with the same failure. -/
def EndsFor (pool : Pool Failure) (id key : String) (ending : Ending Failure) : Prop :=
  (pool.after (.turn id)).StandsAt id key (.ended ending.outcome) ∧
    (pool.after (.turn id)).isUnderway key = false ∧
    (ending.IsFailure → (pool.after (.turn id)).store = pool.store ∧
      ∀ other later, pool.StandsAt other key (.waiting id) →
        (pool.after (.turn id)).Leads Move.IsPeaceful later →
          later.ComesAwayWith other key ending.outcome)

namespace Sound

variable {pool : Pool Failure} (sound : pool.Sound)
include sound

theorem computesOnce (key : String) : pool.ComputesOnce key := by
  constructor
  · unfold isUnderway
    rw [Entries.has_eq_isSome, Option.isSome_iff_exists]
    exact exists_congr fun id => sound.underway
  · intro id other stands standsToo
    have same := (sound.underway.mpr standsToo).symm.trans (sound.underway.mpr stands)
    exact Option.some.inj same

theorem isMadeBy {maker key : String} {card : Card}
    (made : pool.StandsAt maker key (.ended (.card card false))) :
    pool.IsMadeBy maker key card := by
  intro later leads id phase stands
  have soundThen : later.Sound := sound.leads leads
  have madeThen : later.StandsAt maker key (.ended (.card card false)) := leads.ended sound made
  obtain ⟨found, inRange⟩ := sound.kept made
  have foundThen : Entries.get? later.kept key = some card.toJson := leads.kept sound found
  refine ⟨?_, ?_, ?_, ?_⟩
  · rintro rfl
    rw [soundThen.unkept stands] at foundThen
    cases foundThen
  · exact leads.begun sound found stands
  · rintro (waits | served)
    · exact leads.comesAwayWith sound waits madeThen
    · unfold ComesAwayWith
      rcases leads.isServed sound found served phase stands with rfl | ⟨otherCard, rfl⟩
      · rw [after_turn_of_kept soundThen.memory stands inRange foundThen]
        exact standsAt_put_self later id ⟨key, .arriving⟩ _
      · rw [after_turn_of_ended stands, ← soundThen.card_unique madeThen stands]
        exact stands
  · rintro otherCard isShared rfl
    refine ⟨soundThen.card_unique madeThen stands, ?_, ?_⟩
    · rintro rfl
      exact soundThen.sole madeThen stands
    · rintro rfl
      cases (StandsAt.unique madeThen stands).2
      rfl

theorem endsFor {id key : String} {ending : Ending Failure}
    (stands : pool.StandsAt id key .computing)
    (settled : Entries.get? pool.endings id = some ending) : pool.EndsFor id key ending := by
  have turn : pool.after (.turn id) = Pool.conclude id key ending pool :=
    after_turn_of_ending sound.memory stands settled
  have isNext : pool.Step Move.IsPeaceful (pool.after (.turn id)) :=
    ⟨.turn id, trivial, trivial, rfl⟩
  have ended : (pool.after (.turn id)).StandsAt id key (.ended ending.outcome) := by
    rw [turn]
    exact standsAt_put_self pool id ⟨key, .computing⟩ _
  refine ⟨ended, ?_, fun failure => ⟨?_, ?_⟩⟩
  · rw [turn]
    show Entries.has (Entries.erase pool.underway key) key = false
    rw [Entries.has_eq_isSome, Entries.get?_erase_self]
    rfl
  · rw [turn, sound.memory]
    cases ending with
    | card result => exact absurd failure not_false
    | failed reason => rfl
    | late => rfl
    | cancelled => exact absurd failure not_false
  · intro other later waits leads
    have owns : later.StandsAt id key (.ended ending.outcome) :=
      leads.ended (sound.step isNext) ended
    have same : ending.outcome.shared = ending.outcome := by
      cases ending with
      | card result => exact absurd failure not_false
      | failed reason => rfl
      | late => rfl
      | cancelled => rfl
    rw [← same]
    exact Leads.comesAwayWith (leads.head isNext) sound waits owns

end Sound

/-- However the turns of any number of callers come about, a key is computed by one caller at a
time; once a computation has given a card nobody computes that key again, and everybody who waited
for it or comes later has that card, which is the own one of the caller that computed it alone; and
a computation that fails leaves nothing behind but its failure. -/
theorem callers_share_computations {pool : Pool Failure}
    (reached : Pool.Leads Move.IsPeaceful {} pool) :
    (∀ key, pool.ComputesOnce key) ∧
      (∀ maker key card, pool.StandsAt maker key (.ended (.card card false)) →
        pool.IsMadeBy maker key card) ∧
      ∀ id key ending, pool.StandsAt id key .computing →
        Entries.get? pool.endings id = some ending → pool.EndsFor id key ending := by
  have sound : pool.Sound := sound_empty.leads reached
  exact ⟨sound.computesOnce, fun _ _ _ made => sound.isMadeBy made,
    fun _ _ _ stands settled => sound.endsFor stands settled⟩

/-- Two callers of one key, of whom the first computes it, in vain, and the second waits. -/
theorem two_callers_share_a_failure :
    ∃ pool : Pool String, Pool.Leads Move.IsPeaceful {} pool ∧
      pool.StandsAt "second" "key" (.waiting "first") ∧ pool.ComputesOnce "key" ∧
      pool.EndsFor "first" "key" (.failed "unreachable") := by
  have came : ({} : Pool String).Leads Move.IsPeaceful _ :=
    Leads.move .refl (.join "first" "key") trivial rfl
  have computes := came.move (.turn "first") trivial trivial
  have waits := (computes.move (.join "second" "key") trivial rfl).move (.turn "second") trivial
    trivial
  have reached := waits.move (.settle "first" (.failed "unreachable")) trivial trivial
  obtain ⟨computesOnce, _, endsFor⟩ := callers_share_computations reached
  exact ⟨_, reached, rfl, computesOnce "key", endsFor "first" "key" _ rfl rfl⟩

end Pool

end MoveAudit.Cache
