/-
This file says whom a cancellation reaches. A caller that only waits can be cancelled without anyone
noticing, then or later, and one that has not looked yet leaves the others as they are. A caller
that computes takes those with it who wait for it: they come away cancelled although nobody
cancelled them, and this is the only way to that. Everybody else who comes away has a card, or what
a computation of the same key raised, or what is wrong with the store. A feed that waits for someone
else's analysis is such a caller, and ends when that analysis is cancelled. All this holds for every
store, whatever others do to it.
-/

import MoveAudit.Proofs.Pool.Sharing
import MoveAudit.Service.Feed

namespace MoveAudit.Cache

variable {Failure : Type} [ToString Failure]

/-- A failure or a lack of time is what a computation raises. -/
def Outcome.IsFailure : Outcome Failure → Prop
  | .failed _ | .late => True
  | .card .. | .cancelled | .unreadable _ => False

/-- Something is the turn of a caller, or its cancellation. -/
def Happening.IsOf (id : String) : Happening Failure → Prop
  | move (.turn other) | move (.cancel other) => other = id
  | move (.join ..) | move (.settle ..) | change _ => False

namespace Pool

/-! ### Where outcomes come from -/

/-- A caller was cancelled after it had begun to compute a key. -/
def IsCutOff (pool : Pool Failure) (id key : String) : Prop :=
  id ∈ pool.begun ∧ pool.StandsAt id key (.ended .cancelled)

/-- A caller comes away with a card, or with what some computation of its key raised, or with what
is wrong with the store. -/
inductive EndsWell (pool : Pool Failure) (key : String) : Outcome Failure → Prop where
  | card (card : Card) (isShared : Bool) : EndsWell pool key (.card card isShared)
  | raised {maker : String} {outcome : Outcome Failure} (failure : outcome.IsFailure)
    (begun : maker ∈ pool.begun) (ended : pool.StandsAt maker key (.ended outcome)) :
    EndsWell pool key outcome
  | unreadable (fault : Fault) : EndsWell pool key (.unreadable fault)

/-- A caller ends well, or it is cancelled because another one was that computed its key. -/
def IsAccounted (pool : Pool Failure) (id key : String) (outcome : Outcome Failure) : Prop :=
  pool.EndsWell key outcome ∨
    outcome = .cancelled ∧ ∃ owner, owner ≠ id ∧ pool.IsCutOff owner key

theorem EndsWell.ne_cancelled {pool : Pool Failure} {key : String} {outcome : Outcome Failure}
    (well : pool.EndsWell key outcome) : outcome ≠ .cancelled := by
  rintro rfl
  cases well with
  | raised failure begun ended => exact failure

/-- What accounts for an outcome stays. -/
theorem IsAccounted.mono {pool next : Pool Failure} {id key : String} {outcome : Outcome Failure}
    (accounted : pool.IsAccounted id key outcome)
    (ended : ∀ {other outcome}, pool.StandsAt other key (.ended outcome) →
      next.StandsAt other key (.ended outcome))
    (begun : ∀ {other}, other ∈ pool.begun → other ∈ next.begun) :
    next.IsAccounted id key outcome := by
  rcases accounted with well | ⟨rfl, owner, differs, hadBegun, cut⟩
  · cases well with
    | card card isShared => exact Or.inl (.card card isShared)
    | raised failure hadBegun stood => exact Or.inl (.raised failure (begun hadBegun) (ended stood))
    | unreadable fault => exact Or.inl (.unreadable fault)
  · exact Or.inr ⟨rfl, owner, differs, begun hadBegun, ended cut⟩

/-- What the store has for a caller is a card, or what is wrong with it. -/
theorem endsWell_of_isFound {pool : Pool Failure} {key : String} {outcome : Outcome Failure}
    (isFound : outcome.IsFound) : pool.EndsWell key outcome := by
  cases outcome with
  | card card isShared => exact .card card isShared
  | unreadable fault => exact .unreadable fault
  | failed failure => exact absurd isFound not_false
  | late => exact absurd isFound not_false
  | cancelled => exact absurd isFound not_false

/-- A caller that computes, and is not cancelled, comes away with a card or with what it raised. -/
theorem endsWell_of_isOwn {pool : Pool Failure} {id key : String} {outcome : Outcome Failure}
    (isOwn : outcome.IsOwn) (begun : id ∈ pool.begun)
    (ended : pool.StandsAt id key (.ended outcome)) : pool.EndsWell key outcome := by
  cases outcome with
  | card card isShared => exact .card card isShared
  | failed failure => exact .raised trivial begun ended
  | late => exact .raised trivial begun ended
  | unreadable fault => exact .unreadable fault
  | cancelled => exact absurd isOwn not_false

/-- Whoever shares what a maker came away with is accounted for. -/
theorem isAccounted_shared {pool : Pool Failure} {id owner key : String}
    {outcome : Outcome Failure} (begun : owner ∈ pool.begun) (differs : owner ≠ id)
    (ended : pool.StandsAt owner key (.ended outcome)) :
    pool.IsAccounted id key outcome.shared := by
  cases outcome with
  | card card isShared => exact Or.inl (.card card true)
  | failed failure => exact Or.inl (.raised trivial begun ended)
  | late => exact Or.inl (.raised trivial begun ended)
  | cancelled => exact Or.inr ⟨rfl, owner, differs, begun, ended⟩
  | unreadable fault => exact Or.inl (.unreadable fault)

/-- Whoever comes away when nobody is cancelled is accounted for, if all were before. -/
theorem Orderly.isAccounted_of_passes {pool next : Pool Failure} (orderly : pool.Orderly)
    (passes : pool.Passes next) {id key : String} {outcome : Outcome Failure}
    (accounted : ∀ {key outcome}, pool.StandsAt id key (.ended outcome) →
      pool.IsAccounted id key outcome)
    (ended : next.StandsAt id key (.ended outcome)) : next.IsAccounted id key outcome := by
  cases there : Entries.get? pool.callers id with
  | none => cases passes.comes there ended
  | some caller =>
    obtain ⟨otherKey, old⟩ := caller
    have stood : pool.StandsAt id otherKey old := there
    rcases passes.proceeds stood with stays | ⟨moved, proceeds, moves⟩
    · obtain ⟨rfl, rfl⟩ := StandsAt.unique stays ended
      exact (accounted stood).mono passes.ended passes.stillBegun
    · obtain ⟨rfl, rfl⟩ := StandsAt.unique moves ended
      cases proceeds with
      | finds isFound => exact Or.inl (endsWell_of_isFound isFound)
      | concludes isOwn =>
        have begun : id ∈ pool.begun := orderly.suits stood
        exact Or.inl (endsWell_of_isOwn isOwn (passes.stillBegun begun) ended)
      | @follows owner outcome endedBefore =>
        obtain ⟨begun, _, _⟩ := orderly.owned stood
        have differs : owner ≠ id := by
          rintro rfl
          exact orderly.suits stood begun
        exact (isAccounted_shared begun differs endedBefore).mono passes.ended passes.stillBegun

/-! ### One cancellation -/

/-- A cancellation moves nobody else. -/
theorem CutsShort.standsAt_iff {pool next : Pool Failure} {id : String}
    (cutsShort : pool.CutsShort id next) {other key : String} {phase : Phase Failure}
    (differs : other ≠ id) : next.StandsAt other key phase ↔ pool.StandsAt other key phase := by
  cases cutsShort with
  | rests => exact Iff.rfl
  | withdraws stands idle => exact standsAt_put_of_ne differs _ _ _ _
  | breaksOff stands => exact standsAt_put_of_ne differs _ _ _ _

theorem CutsShort.begun {pool next : Pool Failure} {id : String}
    (cutsShort : pool.CutsShort id next) : next.begun = pool.begun := by
  cases cutsShort <;> rfl

/-- Whoever has come to an end stays there. -/
theorem CutsShort.ended {pool next : Pool Failure} {id : String}
    (cutsShort : pool.CutsShort id next) {other key : String} {outcome : Outcome Failure}
    (ended : pool.StandsAt other key (.ended outcome)) :
    next.StandsAt other key (.ended outcome) := by
  cases cutsShort with
  | rests => exact ended
  | @withdraws otherKey phase stands idle =>
    refine ended.put_of_ended (stands.not_hasEnded ?_) _ _
    rintro outcome rfl
    exact idle
  | breaksOff stands => exact ended.put_of_ended (stands.not_hasEnded (by simp)) _ _

/-! ### Along a run -/

/-- Whenever a caller is not cancelled, everything that it can come away with is accounted for. -/
theorem Orderly.isAccounted {pool later : Pool Failure} {id : String} (orderly : pool.Orderly)
    (absent : Entries.get? pool.callers id = none)
    (unfolds : Unfolds (· ≠ .move (.cancel id)) pool later) {key : String}
    {outcome : Outcome Failure} (ended : later.StandsAt id key (.ended outcome)) :
    later.IsAccounted id key outcome := by
  -- What is owed to others stays owed: ends are final, and so is having begun to compute.
  induction unfolds generalizing key outcome with
  | refl => exact absurd ended (not_standsAt_of_new absent _ _)
  | tail before happens inductionHypothesis =>
    have orderlyThen := orderly.unfolds before
    obtain ⟨happening, spares, admitted, rfl⟩ := happens
    rcases orderlyThen.passes_or_cutsShort admitted with passes | ⟨other, rfl, cutsShort⟩
    · exact orderlyThen.isAccounted_of_passes passes inductionHypothesis ended
    · have differs : id ≠ other := fun same => spares (same ▸ rfl)
      refine (inductionHypothesis ((cutsShort.standsAt_iff differs).mp ended)).mono
        cutsShort.ended fun begun => ?_
      rw [cutsShort.begun]
      exact begun

/-! ### Without a caller -/

/-- The pool as all but one caller see it. -/
def without (id : String) (pool : Pool Failure) : Pool Failure :=
  { pool with callers := Entries.erase pool.callers id }

/-- The pool after things have happened, one after another. -/
def afterAll (pool : Pool Failure) (happenings : List (Happening Failure)) : Pool Failure :=
  happenings.foldl afterwards pool

/-- Things can happen to a pool one after another. -/
def AdmitsAll (pool : Pool Failure) : List (Happening Failure) → Prop
  | [] => True
  | happening :: rest => pool.Admits happening ∧ (pool.afterwards happening).AdmitsAll rest

/-- A caller that neither computes nor ever will: it waits, or has come to an end. -/
def IsBystander (pool : Pool Failure) (id : String) : Prop :=
  id ∉ pool.begun ∧ ∃ key phase, pool.StandsAt id key phase ∧ phase ≠ .arriving

theorem without_put_self (pool : Pool Failure) (id : String) (caller : Caller Failure)
    (moved : Phase Failure) : (put id caller moved pool).without id = pool.without id := by
  unfold without put
  rw [Entries.erase_put_self]

section Others

variable {pool : Pool Failure} {id other : String} (differs : other ≠ id)
include differs

theorem without_put (caller : Caller Failure) (moved : Phase Failure) :
    (put other caller moved pool).without id = put other caller moved (pool.without id) := by
  unfold without put
  rw [Entries.erase_put_of_ne _ _ differs]

theorem without_begin (key : String) :
    (begin_ other key pool).without id = begin_ other key (pool.without id) := by
  unfold without begin_ put
  rw [Entries.erase_put_of_ne _ _ differs]

theorem without_release (key : String) (outcome : Outcome Failure) (laidDown : Ending Failure) :
    (release other key outcome laidDown pool).without id =
      release other key outcome laidDown (pool.without id) := by
  unfold without release put
  rw [Entries.erase_put_of_ne _ _ differs]

theorem without_arrived (key : String) (found : Except Fault (Option Card)) :
    (arrived other key pool found).without id = arrived other key (pool.without id) found := by
  unfold arrived
  split
  · exact without_put differs _ _
  · exact without_put differs _ _
  · have same : (pool.without id).underway = pool.underway := rfl
    rw [same]
    cases Entries.get? pool.underway key with
    | some owner => exact without_put differs _ _
    | none => exact without_begin differs key

theorem get?_without : Entries.get? (pool.without id).callers other =
    Entries.get? pool.callers other :=
  Entries.get?_erase_of_ne _ differs

theorem standsAt_without {key : String} {phase : Phase Failure} :
    (pool.without id).StandsAt other key phase ↔ pool.StandsAt other key phase := by
  unfold StandsAt
  rw [get?_without differs]

end Others

/-- The turns of others are the same without a caller that none of them can wait for. -/
theorem Orderly.without_turn {pool : Pool Failure} (orderly : pool.Orderly) {id other : String}
    (notBegun : id ∉ pool.begun) (differs : other ≠ id) :
    (pool.after (.turn other)).without id = (pool.without id).after (.turn other) := by
  cases there : Entries.get? pool.callers other with
  | none =>
    rw [after_turn_of_absent there, after_turn_of_absent ((get?_without differs).trans there)]
  | some caller =>
    obtain ⟨key, phase⟩ := caller
    have stands : pool.StandsAt other key phase := there
    have standsToo : (pool.without id).StandsAt other key phase :=
      (standsAt_without differs).mpr there
    cases phase with
    | arriving =>
      rw [after_turn_of_arriving stands, after_turn_of_arriving standsToo, without_arrived differs]
      rfl
    | computing =>
      cases settled : Entries.get? pool.endings other with
      | none =>
        rw [after_turn_of_computing stands settled, after_turn_of_computing standsToo settled]
      | some ending =>
        rw [after_turn_of_settled stands settled, after_turn_of_settled standsToo settled,
          without_release differs]
        rfl
    | waiting owner =>
      -- Whoever is waited for has begun to compute, which the one left out has not.
      have notOwner : owner ≠ id := by
        rintro rfl
        exact notBegun (orderly.owned stands).1
      by_cases isOver : ∃ ownerKey outcome, pool.StandsAt owner ownerKey (.ended outcome)
      · obtain ⟨ownerKey, outcome, ended⟩ := isOver
        rw [after_turn_of_waiting stands ended,
          after_turn_of_waiting standsToo ((standsAt_without notOwner).mpr ended),
          without_put differs]
      · rw [after_turn_of_waiting_on stands fun _ _ ended => isOver ⟨_, _, ended⟩,
          after_turn_of_waiting_on standsToo fun _ _ ended =>
            isOver ⟨_, _, (standsAt_without notOwner).mp ended⟩]
    | ended outcome => rw [after_turn_of_ended stands, after_turn_of_ended standsToo]

/-- So are the cancellations of others. -/
theorem without_cancel {pool : Pool Failure} {id other : String} (differs : other ≠ id) :
    (pool.after (.cancel other)).without id = (pool.without id).after (.cancel other) := by
  cases there : Entries.get? pool.callers other with
  | none =>
    rw [after_cancel_of_absent there, after_cancel_of_absent ((get?_without differs).trans there)]
  | some caller =>
    obtain ⟨key, phase⟩ := caller
    have stands : pool.StandsAt other key phase := there
    have standsToo : (pool.without id).StandsAt other key phase :=
      (standsAt_without differs).mpr there
    have withdraws (idle : phase.IsIdle) :
        (pool.after (.cancel other)).without id = (pool.without id).after (.cancel other) := by
      rw [after_cancel_of_idle stands idle, after_cancel_of_idle standsToo idle,
        without_put differs]
    cases phase with
    | arriving => exact withdraws trivial
    | waiting owner => exact withdraws trivial
    | computing =>
      rw [after_cancel_of_computing stands, after_cancel_of_computing standsToo,
        without_release differs]
    | ended outcome => rw [after_cancel_of_ended stands, after_cancel_of_ended standsToo]

/-- A bystander remains one, whatever happens. -/
theorem Orderly.isBystander_afterwards {pool : Pool Failure} (orderly : pool.Orderly) {id : String}
    (bystander : pool.IsBystander id) {happening : Happening Failure}
    (admitted : pool.Admits happening) : (pool.afterwards happening).IsBystander id := by
  obtain ⟨notBegun, key, phase, stands, hasLooked⟩ := bystander
  rcases orderly.passes_or_cutsShort admitted with passes | ⟨other, rfl, cutsShort⟩
  · constructor
    · intro begun
      rcases passes.begun begun with before | ⟨otherKey, arrives⟩
      · exact notBegun before
      · exact hasLooked (StandsAt.unique arrives stands).2
    · rcases passes.proceeds stands with stays | ⟨moved, proceeds, moves⟩
      · exact ⟨key, phase, stays, hasLooked⟩
      · refine ⟨key, moved, moves, ?_⟩
        rintro rfl
        cases proceeds
  · refine ⟨fun begun => notBegun (cutsShort.begun ▸ begun), ?_⟩
    by_cases same : id = other
    · subst same
      cases phase with
      | arriving => exact absurd rfl hasLooked
      | computing => exact absurd (orderly.suits stands) notBegun
      | ended outcome => exact ⟨key, _, cutsShort.ended stands, hasLooked⟩
      | waiting owner =>
        have withdraws : pool.afterwards (.move (.cancel id)) =
            put id ⟨key, .waiting owner⟩ (.ended .cancelled) pool :=
          after_cancel_of_idle stands trivial
        rw [withdraws]
        exact ⟨key, _, standsAt_put_self pool id ⟨key, .waiting owner⟩ _, by simp⟩
    · exact ⟨key, phase, (cutsShort.standsAt_iff same).mpr stands, hasLooked⟩

/-- What a bystander does itself is seen by nobody else. -/
theorem Orderly.without_own {pool : Pool Failure} (orderly : pool.Orderly) {id : String}
    (bystander : pool.IsBystander id) {happening : Happening Failure} (isOwn : happening.IsOf id) :
    (pool.afterwards happening).without id = pool.without id := by
  obtain ⟨notBegun, key, phase, stands, hasLooked⟩ := bystander
  have notComputing : phase ≠ .computing := by
    rintro rfl
    exact notBegun (orderly.suits stands)
  cases happening with
  | change store => exact absurd isOwn not_false
  | move move =>
    cases move with
    | join other otherKey => exact absurd isOwn not_false
    | settle other ending => exact absurd isOwn not_false
    | turn other =>
      obtain rfl : other = id := isOwn
      show (pool.after (.turn other)).without other = _
      cases phase with
      | arriving => exact absurd rfl hasLooked
      | computing => exact absurd rfl notComputing
      | ended outcome => rw [after_turn_of_ended stands]
      | waiting owner =>
        rw [after_turn_eq stands]
        dsimp only
        split
        · exact without_put_self pool other ⟨key, .waiting owner⟩ _
        · rfl
    | cancel other =>
      obtain rfl : other = id := isOwn
      show (pool.after (.cancel other)).without other = _
      cases phase with
      | arriving => exact absurd rfl hasLooked
      | computing => exact absurd rfl notComputing
      | ended outcome => rw [after_cancel_of_ended stands]
      | waiting owner =>
        rw [after_cancel_of_idle stands trivial]
        exact without_put_self pool other ⟨key, .waiting owner⟩ _

/-- What happens otherwise happens in the same way without the bystander. -/
theorem Orderly.without_afterwards {pool : Pool Failure} (orderly : pool.Orderly) {id : String}
    (bystander : pool.IsBystander id) {happening : Happening Failure}
    (admitted : pool.Admits happening) (notOwn : ¬ happening.IsOf id) :
    (pool.afterwards happening).without id = (pool.without id).afterwards happening := by
  obtain ⟨notBegun, key, phase, stands, _⟩ := bystander
  cases happening with
  | change store => rfl
  | move move =>
    cases move with
    | join other otherKey =>
      have differs : other ≠ id := (stands.ne_of_new admitted).symm
      exact without_put differs ⟨otherKey, .arriving⟩ .arriving
    | settle other ending => rfl
    | turn other => exact orderly.without_turn notBegun notOwn
    | cancel other => exact without_cancel notOwn

/-- What can happen does not depend on where a caller stands that is there. -/
theorem admits_of_agree {pool twin : Pool Failure} {id key : String} {phase : Phase Failure}
    (stands : pool.StandsAt id key phase) (agree : twin.without id = pool.without id)
    {happening : Happening Failure} (admitted : pool.Admits happening) : twin.Admits happening := by
  cases happening with
  | change store => trivial
  | move move =>
    cases move with
    | join other otherKey =>
      have isNew : Entries.get? pool.callers other = none := admitted
      have differs : other ≠ id := (stands.ne_of_new isNew).symm
      show Entries.get? twin.callers other = none
      rw [← get?_without differs, agree, get?_without differs]
      exact isNew
    | settle other ending => exact admitted
    | turn other => trivial
    | cancel other => trivial

/-- Two pools that differ in a bystander alone never come to differ in anything else. -/
theorem Orderly.without_afterAll {pool twin : Pool Failure} (orderly : pool.Orderly)
    (orderlyToo : twin.Orderly) {id : String} (bystander : pool.IsBystander id)
    (bystanderToo : twin.IsBystander id) (agree : twin.without id = pool.without id)
    {happenings : List (Happening Failure)} (admitted : pool.AdmitsAll happenings) :
    (twin.afterAll happenings).without id = (pool.afterAll happenings).without id := by
  induction happenings generalizing pool twin with
  | nil => exact agree
  | cons happening rest inductionHypothesis =>
    obtain ⟨admittedFirst, admittedRest⟩ := admitted
    have ⟨_, key, phase, stands, _⟩ := bystander
    have admittedToo := admits_of_agree stands agree admittedFirst
    -- What it does itself changes nothing for others in either pool; all else is alike in both.
    have agreeAfter :
        (twin.afterwards happening).without id = (pool.afterwards happening).without id := by
      by_cases isOwn : happening.IsOf id
      · rw [orderlyToo.without_own bystanderToo isOwn, orderly.without_own bystander isOwn, agree]
      · rw [orderlyToo.without_afterwards bystanderToo admittedToo isOwn,
          orderly.without_afterwards bystander admittedFirst isOwn, agree]
    exact inductionHypothesis (orderly.afterwards admittedFirst)
      (orderlyToo.afterwards admittedToo) (orderly.isBystander_afterwards bystander admittedFirst)
      (orderlyToo.isBystander_afterwards bystanderToo admittedToo) agreeAfter admittedRest

/-! ### Whom a cancellation reaches -/

/-- The cancellation of a caller is never noticed by anyone else: whatever happens from now on, the
others stand where they would stand without it, with the same store. -/
def GoesUnnoticed (pool : Pool Failure) (id : String) : Prop :=
  ∀ happenings, pool.AdmitsAll happenings →
    ((pool.after (.cancel id)).afterAll happenings).without id =
      (pool.afterAll happenings).without id

theorem without_after_cancel {pool : Pool Failure} {id : String}
    (rests : ∀ key, ¬ pool.StandsAt id key .computing) :
    (pool.after (.cancel id)).without id = pool.without id := by
  have cutsShort := cutsShort_after pool id
  generalize pool.after (.cancel id) = next at cutsShort
  cases cutsShort with
  | rests => rfl
  | @withdraws key phase stands idle => exact without_put_self pool id ⟨key, phase⟩ _
  | @breaksOff key stands => exact absurd stands (rests key)

/-- Nobody notices that a caller is cancelled that waits. -/
theorem Orderly.goesUnnoticed {pool : Pool Failure} (orderly : pool.Orderly)
    {id key owner : String} (waits : pool.StandsAt id key (.waiting owner)) :
    pool.GoesUnnoticed id := by
  intro happenings admitted
  have bystander : pool.IsBystander id :=
    ⟨orderly.suits waits, key, _, waits, by simp⟩
  have rests (otherKey : String) : ¬ pool.StandsAt id otherKey .computing :=
    fun computes => nomatch (StandsAt.unique waits computes).2
  have possible : pool.Admits (.move (.cancel id)) := trivial
  exact orderly.without_afterAll (orderly.afterwards possible) bystander
    (orderly.isBystander_afterwards bystander possible) (without_after_cancel rests) admitted

/-- Whoever waits for a caller that is cancelled while it computes comes away cancelled. -/
theorem comesAway_of_cancel {pool : Pool Failure} {owner key waiter : String}
    (computes : pool.StandsAt owner key .computing)
    (waits : pool.StandsAt waiter key (.waiting owner)) :
    (pool.after (.cancel owner)).ComesAwayWith waiter key .cancelled := by
  have differs : waiter ≠ owner := by
    rintro rfl
    cases (StandsAt.unique waits computes).2
  have stillWaits : (pool.after (.cancel owner)).StandsAt waiter key (.waiting owner) :=
    ((cutsShort_after pool owner).standsAt_iff differs).mpr waits
  have ended : (pool.after (.cancel owner)).StandsAt owner key (.ended .cancelled) := by
    rw [after_cancel_of_computing computes]
    exact standsAt_put_self pool owner ⟨key, .computing⟩ _
  unfold ComesAwayWith
  rw [after_turn_of_waiting stillWaits ended]
  exact standsAt_put_self _ waiter ⟨key, .waiting owner⟩ _

/-- However callers come, take turns and are cancelled, and whatever others do to the store, a
caller that is not cancelled itself comes away with a card or with what a computation of its key or
the store raised, unless another caller was cancelled that computed its key; a feed that shares the
analysis goes on but for that. With a store in memory that callers alone write to, the store raises
nothing. A caller that does not compute can be cancelled without moving anyone else, and if it waits
then nobody ever notices; one that computes takes those with it who wait for it. -/
theorem cancellation_reaches_waiters_alone {store : Store} {pool : Pool Failure} {id : String}
    (reached : Unfolds (· ≠ .move (.cancel id)) { store } pool) :
    (∀ key outcome, pool.StandsAt id key (.ended outcome) → pool.IsAccounted id key outcome ∧
      (∀ feed : Service.Feed, (feed.after? outcome).isSome = true ∨
        ∃ owner, owner ≠ id ∧ pool.IsCutOff owner key) ∧
      (Leads (· ≠ .cancel id) {} pool → ∀ fault, outcome ≠ .unreadable fault)) ∧
    (∀ other, (∀ key, ¬ pool.StandsAt other key .computing) →
      (pool.after (.cancel other)).without other = pool.without other) ∧
    (∀ other key owner, pool.StandsAt other key (.waiting owner) → pool.GoesUnnoticed other) ∧
    ∀ owner key waiter, pool.StandsAt owner key .computing →
      pool.StandsAt waiter key (.waiting owner) →
        (pool.after (.cancel owner)).ComesAwayWith waiter key .cancelled := by
  have orderly : pool.Orderly := (orderly_empty store).unfolds reached
  have isAccounted {key : String} {outcome : Outcome Failure}
      (ended : pool.StandsAt id key (.ended outcome)) : pool.IsAccounted id key outcome :=
    (orderly_empty store).isAccounted rfl reached ended
  refine ⟨fun key outcome ended => ⟨isAccounted ended, fun feed => ?_, ?_⟩,
    fun other rests => without_after_cancel rests,
    fun other key owner waits => orderly.goesUnnoticed waits,
    fun owner key waiter computes waits => comesAway_of_cancel computes waits⟩
  · rcases isAccounted ended with well | ⟨_, cutOff⟩
    · have goesOn := well.ne_cancelled
      left
      cases outcome with
      | cancelled => exact absurd rfl goesOn
      | card card isShared => rfl
      | failed failure => rfl
      | late => rfl
      | unreadable fault => rfl
    · exact Or.inr cutOff
  · rintro byMoves fault rfl
    exact (sound_empty.leads byMoves).usable ended

/-- While one request computes, the feed and another request wait. Nobody would notice that the
other request is cancelled, but the feed would come away cancelled if the first one were. -/
theorem feed_and_request_wait : ∃ pool : Pool String,
    Unfolds (· ≠ .move (.cancel "feed")) { store := .empty } pool ∧ pool.GoesUnnoticed "other" ∧
    (pool.after (.cancel "request")).ComesAwayWith "feed" "key" .cancelled := by
  have came : ({ store := .empty } : Pool String).Unfolds (· ≠ .move (.cancel "feed")) _ :=
    Unfolds.happens .refl (.move (.join "request" "key")) (by simp) rfl
  have computes := came.happens (.move (.turn "request")) (by simp) trivial
  have waits := (computes.happens (.move (.join "feed" "key")) (by simp) rfl).happens
    (.move (.turn "feed")) (by simp) trivial
  have reached := (waits.happens (.move (.join "other" "key")) (by simp) rfl).happens
    (.move (.turn "other")) (by simp) trivial
  obtain ⟨_, _, unnoticed, reaches⟩ := cancellation_reaches_waiters_alone reached
  exact ⟨_, reached, unnoticed "other" "key" "request" rfl, reaches "request" "key" "feed" rfl rfl⟩

/-- A feed that waits for the analysis of a request is ended by the cancellation of that request,
although nobody cancelled the feed. -/
theorem feed_ends_with_request : ¬ ∀ (pool : Pool String) (id key : String)
    (outcome : Outcome String), Leads (· ≠ .cancel id) {} pool →
      pool.StandsAt id key (.ended outcome) →
        pool.EndsWell key outcome ∧ (({} : Service.Feed).after? outcome).isSome = true := by
  intro spared
  have came : ({} : Pool String).Leads (· ≠ .cancel "feed") _ :=
    Leads.move .refl (.join "request" "key") (by simp) rfl
  have computes := came.move (.turn "request") (by simp) trivial
  have waits := (computes.move (.join "feed" "key") (by simp) rfl).move (.turn "feed") (by simp)
    trivial
  have reached := (waits.move (.cancel "request") (by simp) trivial).move (.turn "feed") (by simp)
    trivial
  obtain ⟨well, _⟩ := spared _ "feed" "key" .cancelled reached rfl
  exact well.ne_cancelled rfl

end Pool

end MoveAudit.Cache
