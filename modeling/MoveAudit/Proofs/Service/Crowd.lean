/-
This file says when a package counts as kept while requests come and go. Requests are taken up,
their analyses go on step by step, break off or come to an end, and anyone may be cancelled, in any
order; whatever has happened, all that is kept is kept for packages without blanks around them. A
request looks for its package without the blanks around it, too, but whether a package is kept is
asked by the text as it is written. So the two agree for every text without blanks around it, and
for any other as long as nothing is kept for the package that it names.
-/

import MoveAudit.Proofs.Pool.Sound
import MoveAudit.Proofs.Service.Feed
import MoveAudit.Proofs.Service.Spelling
import MoveAudit.Service.Crowd

namespace MoveAudit.Service

open Json

namespace Crowd

/-! ### What happens to a crowd -/

/-- What happens to a crowd: a request is taken up, an analysis goes on by a step or breaks off, a
request has its turn or is cancelled, and the model and the nodes change. -/
inductive Event where
  | take (id : String) (package network : Value)
  | step (one : Underway)
  | breakOff (one : Underway) (failure : Failure)
  | turn (id : String)
  | cancel (id : String)
  | change (desk : Reasoning.Desk) (lines : Lines)

/-- The crowd after something has happened. The analysis of a request that is cancelled goes on no
more. -/
def after (plan : Plan) (crowd : Crowd) : Event → Crowd
  | .take id package network => ((take plan id package network).outcome crowd).2.world
  | .step one => ((step plan one).outcome crowd).2.world
  | .breakOff one failure => ((settle one.id (.failed failure)).outcome crowd).2.world
  | .turn id => ((turn id).outcome crowd).2.world
  | .cancel id =>
    let left := ((inPool (Cache.Pool.cancel id)).outcome crowd : Except Empty _ × _).2.world
    { left with underway := left.underway.filter (·.id != id) }
  | .change desk lines => { crowd with world := { crowd.world with desk, chain := lines } }

/-- Something can happen to a crowd: a request comes under a new identifier, and only an analysis
under way goes on or breaks off. -/
def Allows (crowd : Crowd) : Event → Prop
  | .take id _ _ => Entries.get? crowd.pool.callers id = none
  | .step one | .breakOff one _ => one ∈ crowd.underway
  | .turn _ | .cancel _ | .change _ _ => True

/-- One thing leads from a crowd to the next. -/
def Step (plan : Plan) (crowd next : Crowd) : Prop :=
  ∃ event, crowd.Allows event ∧ next = crowd.after plan event

/-- A crowd comes about, from a world with an empty store in memory and no requests. -/
def ComesAbout (plan : Plan) (crowd : Crowd) : Prop :=
  ∃ world : World, world.store = .empty ∧
    Relation.ReflTransGen (Step plan) { world } crowd

/-! ### What holds at every moment -/

/-- The requests with the store that they share. -/
def shared (crowd : Crowd) : Cache.Pool Failure :=
  { crowd.pool with store := crowd.world.store }

/-- The crowd with its requests, and the store that they share, as they are in a pool. -/
def withPool (crowd : Crowd) (pool : Cache.Pool Failure) : Crowd :=
  { crowd with pool, world := { crowd.world with store := pool.store } }

/-- A key under which requests for a package look: it is written without blanks around it. -/
def IsAskedFor (key : String) : Prop :=
  ∃ package network, Text.trimmed package = package ∧ package.isEmpty = false ∧
    key = Cache.key package (Network.word network)

/-- Requests look under keys for packages only; one that fails at once looks nowhere. -/
def Names (pool : Cache.Pool Failure) : Prop :=
  ∀ id key phase, pool.StandsAt id key phase → key = "" ∨ IsAskedFor key

theorem Names.put {pool : Cache.Pool Failure} (names : Names pool) {id key : String}
    (isName : key = "" ∨ IsAskedFor key) (old moved : Cache.Phase Failure) :
    Names (Cache.Pool.put id ⟨key, old⟩ moved pool) := by
  intro other otherKey phase stands
  rcases Cache.Pool.standsAt_put_cases stands with ⟨_, rfl, _⟩ | ⟨_, stood⟩
  · exact isName
  · exact names _ _ _ stood

/-- What holds of a crowd at every moment, some of whose requests have begun to compute. -/
structure IsSteady (started : List String) (crowd : Crowd) : Prop where
  pool : crowd.shared.Sound
  named : Names crowd.shared
  runs : ∀ one ∈ crowd.underway, one.run.progress.IsSound
  started : started ⊆ crowd.pool.begun

theorem isSteady_new {world : World} (isNew : world.store = .empty) :
    IsSteady [] { world } := by
  have isEmpty : ({ world } : Crowd).shared = {} := by
    unfold shared
    rw [isNew]
  refine ⟨?_, ?_, fun _ among => absurd among List.not_mem_nil, List.nil_subset _⟩
  · rw [isEmpty]
    exact Cache.Pool.sound_empty
  · rw [isEmpty]
    exact fun _ _ _ stands => nomatch stands

namespace IsSteady

variable {started : List String} {crowd : Crowd} (steady : IsSteady started crowd)
include steady

theorem store_eq : crowd.world.store = .memory crowd.shared.kept :=
  steady.pool.memory

/-- Whatever changes in the world but the store is nothing to the requests. -/
theorem of_store {world : World} (same : world.store = crowd.world.store) :
    IsSteady started { crowd with world } := by
  have sameShared : ({ crowd with world } : Crowd).shared = crowd.shared := by
    unfold shared
    rw [same]
  exact ⟨sameShared ▸ steady.pool, sameShared ▸ steady.named, steady.runs, steady.started⟩

theorem of_underway {underway : List Underway}
    (runs : ∀ one ∈ underway, one.run.progress.IsSound) :
    IsSteady started { crowd with underway } :=
  ⟨steady.pool, steady.named, runs, steady.started⟩

/-- A turn of a request comes to nothing but what it makes of the requests. -/
theorem exists_run_turn (id : String) (notices : List Notice) : ∃ more,
    (turn id).run ⟨crowd, notices⟩ =
      (.ok (), ⟨crowd.withPool (crowd.shared.after (.turn id)), more⟩) := by
  obtain ⟨more, ran⟩ := Cache.Pool.exists_run_turn steady.pool.memory id notices
  refine ⟨more, ?_⟩
  show (((Cache.Pool.turn id).run ⟨crowd.shared, notices⟩).1,
    (⟨crowd.withPool ((Cache.Pool.turn id).run ⟨crowd.shared, notices⟩).2.world,
      ((Cache.Pool.turn id).run ⟨crowd.shared, notices⟩).2.notices⟩ : Scene Crowd)) = _
  rw [ran]

theorem turned (id : String) :
    IsSteady started (crowd.withPool (crowd.shared.after (.turn id))) where
  pool := steady.pool.of_becomes (steady.pool.becomes_of_turn id)
  named _ _ _ stands := by
    obtain ⟨old, stood⟩ := Cache.Pool.exists_standsAt_of_turn stands
    exact steady.named _ _ _ stood
  runs := steady.runs
  started _ member := (steady.pool.passes_of_turn id).stillBegun (steady.started member)

/-- A request for a package may come that nobody else has the identifier of. -/
theorem joined {id key : String} (new : Entries.get? crowd.pool.callers id = none)
    (isAsked : IsAskedFor key) :
    IsSteady started { crowd with pool := crowd.pool.join id key } where
  pool := steady.pool.join key new
  named := steady.named.put (.inr isAsked) .arriving .arriving
  runs := steady.runs
  started := steady.started

/-- Whatever is kept is kept for a package that was asked for. -/
theorem isAskedFor_of_kept {package : String} {network : Network} {value : Value}
    (found : Entries.get? crowd.shared.kept (Cache.key package network.word) = some value) :
    Text.trimmed package = package ∧ package.isEmpty = false := by
  obtain ⟨maker, card, _, ended⟩ := steady.pool.made found
  rcases steady.named _ _ _ ended with isNothing | ⟨other, onNetwork, unblank, isThere, same⟩
  · have spelled := Cache.toList_key package network.word
    rw [isNothing] at spelled
    simp at spelled
  · obtain ⟨rfl, rfl⟩ := Cache.key_inj same
    exact ⟨unblank, isThere⟩

end IsSteady

/-! ### One thing after another -/

section Keeps

variable {started : List String}

theorem keeps_turn (id : String) : (turn id).Keeps (IsSteady started) := by
  intro scene steady
  obtain ⟨more, ran⟩ := steady.exists_run_turn id scene.notices
  rw [ran]
  exact steady.turned id

/-- The analysis of a request may come to an end of its own. -/
theorem keeps_settle (id : String) {ending : Cache.Ending Failure} (isOwn : ending.IsOwn) :
    (settle id ending).Keeps (IsSteady started) := by
  have laidDown : (Act.change fun crowd : Crowd =>
      { crowd with underway := crowd.underway.filter (·.id != id)
                   pool := crowd.pool.settle id ending } : Act Crowd Empty Unit).Keeps
        (IsSteady started) := fun scene steady =>
    ⟨steady.pool.settle id isOwn, steady.named,
      fun one among => steady.runs one (List.mem_of_mem_filter among), steady.started⟩
  exact .bind laidDown fun _ => keeps_turn id

/-- What leaves a store in memory alone is nothing to the requests. -/
theorem keeps_inWorld {Fault Outcome : Type} {action : Act World Fault Outcome}
    (keeps : ∀ values, action.Keeps fun world => world.store = .memory values) :
    (inWorld action).Keeps (IsSteady started) := fun scene steady =>
  steady.of_store <| (keeps _ ⟨scene.world.world, scene.notices⟩ steady.store_eq).trans
    steady.store_eq.symm

theorem keeps_begun (plan : Plan) (id : String) (network : Network) (package : String)
    (values : Members) :
    (begun plan id network package).Keeps fun world => world.store = .memory values := by
  refine .bind (fun _ holds => holds) fun snapshot => .bind (.ofExcept _) fun manner => ?_
  exact .bind (fun _ holds => holds) fun session => .pure _

/-- An analysis begins. -/
theorem keeps_start (plan : Plan) (id : String) (network : Network) (package : String) :
    (start plan id network package).Keeps (IsSteady started) := by
  have begins : (begun plan id network package).ComesTo fun one => one.run.progress.IsSound :=
    .bind fun _ => .bind fun _ => .bind fun _ => .pure trivial
  refine .bind_of (.settle (keeps_inWorld (keeps_begun plan id network package)))
    (.settle (.within begins)) fun outcome isSound => ?_
  cases outcome with
  | error failure => exact keeps_settle id trivial
  | ok one =>
    refine fun scene steady => steady.of_underway fun other among => ?_
    rcases List.mem_append.mp among with before | isNew
    · exact steady.runs other before
    · rw [List.mem_singleton.mp isNew]
      exact isSound one rfl

theorem keeps_setting_inMemory (plan : Plan) (manner : Analysis.Manner) (network : Network)
    (values : Members) : Analysis.SettingKeeps (fun world : World => world.store = .memory values)
      (setting plan manner network) :=
  keeps_setting (fun _ _ holds => holds) (fun _ _ holds => holds) keeps_inStore_risks manner
    network.word

/-- An analysis goes on by a step. -/
theorem keeps_step (plan : Plan) {one : Underway} (sound : one.run.progress.IsSound) :
    (step plan one).Keeps (IsSteady started) := by
  refine .bind_of (.settle (keeps_inWorld fun values => .relabel _ (.bind
    (Analysis.keeps_step (keeps_setting_inMemory plan _ _ values) _) fun run => ?_)))
    (.settle (.within (.relabel (.bind_of (Analysis.comesTo_step sound) fun run soundToo =>
      (?_ : Act.ComesTo (fun came : Analysis.Run × Option Analysis.Result =>
        came.1.progress.IsSound ∧ ∀ result, came.2 = some result → result.card.IsSound) _)))))
    fun outcome isSound => ?_
  -- Once the step is made, the store stays as it is,
  · split
    · exact .bind (Analysis.keeps_resultOf run) fun _ => .pure _
    · exact .pure _
  -- and what the analysis has come to is sound, with the result if there is one.
  · split
    · refine .bind_of (Analysis.comesTo_resultOf soundToo) fun result isSound =>
        .pure ⟨soundToo, fun given same => ?_⟩
      cases same
      exact isSound
    · exact .pure ⟨soundToo, nofun⟩
  · match outcome, isSound with
    | .error failure, _ => exact keeps_settle one.id trivial
    | .ok (run, some result), isSound =>
      exact keeps_settle one.id ((isSound _ rfl).2 result rfl).1
    | .ok (run, none), isSound =>
      refine fun scene steady => steady.of_underway fun other among => ?_
      obtain ⟨before, stood, rfl⟩ := List.mem_map.mp among
      split
      · exact (isSound _ rfl).1
      · exact steady.runs before stood

end Keeps

/-! ### Requests that are taken up -/

/-- The crowd once a request has come and had its first turn. -/
def asking (crowd : Crowd) (id key : String) : Crowd :=
  crowd.withPool ((crowd.shared.join id key).after (.turn id))

section Take

variable {started : List String} {crowd : Crowd} {id : String} {written : Value}

/-- A request that names no package fails at once. -/
theorem after_take_of_unnamed (plan : Plan) (network : Value) {failure : Failure}
    (unnamed : namedPackage written = .error failure) :
    crowd.after plan (.take id written network) =
      { crowd with pool := crowd.pool.put id { key := "" } (.ended (.failed failure)) } := by
  show ((take plan id written network).run ⟨crowd, []⟩).2.world = _
  unfold take
  rw [unnamed]
  rfl

variable (steady : IsSteady started crowd) (new : Entries.get? crowd.pool.callers id = none)
include steady new

theorem IsSteady.failed (failure : Failure) : IsSteady started
    { crowd with pool := crowd.pool.put id { key := "" } (.ended (.failed failure)) } where
  pool := steady.pool.moved
    (fun stands => absurd stands (Cache.Pool.not_standsAt_of_new new _ _)) (by simp) trivial
    (by simp) (by simp) (by simp)
  named := steady.named.put (.inl rfl) .arriving (.ended (.failed failure))
  runs := steady.runs
  started := steady.started

/-- A request has its first turn at once, and its analysis begins if it is to compute. -/
theorem exists_after_take (plan : Plan) (network : Value) {package : String}
    (named : namedPackage written = .ok package) :
    let asked := crowd.asking id (Cache.key package (Network.ofValue network).word)
    IsSteady started asked ∧ ∃ notices, crowd.after plan (.take id written network) =
      match asked.pool.phaseOf? id with
      | some .computing =>
        ((start plan id (Network.ofValue network) package).run ⟨asked, notices⟩).2.world
      | _ => asked := by
  obtain ⟨unblank, isThere⟩ := trimmed_of_named named
  let key := Cache.key package (Network.ofValue network).word
  have joined := steady.joined new ⟨package, .ofValue network, unblank, isThere, rfl⟩
  let asks := requestNotice package (.ofValue network)
  have noted : (Act.note asks : Act Crowd Empty Unit).run ⟨crowd, []⟩ =
      (.ok (), ⟨crowd, [] ++ [asks]⟩) := rfl
  have came : (Act.change fun crowd : Crowd => { crowd with pool := crowd.pool.join id key } :
      Act Crowd Empty Unit).run ⟨crowd, [] ++ [asks]⟩ =
        (.ok (), ⟨{ crowd with pool := crowd.pool.join id key }, [] ++ [asks]⟩) := rfl
  obtain ⟨more, ran⟩ : ∃ more, (turn id).run ⟨{ crowd with pool := crowd.pool.join id key },
      [] ++ [asks]⟩ = (.ok (), ⟨crowd.asking id key, more⟩) :=
    joined.exists_run_turn id _
  refine ⟨joined.turned id, more, ?_⟩
  show ((take plan id written network).run ⟨crowd, []⟩).2.world = _
  unfold take
  rw [named]
  dsimp only
  rw [Act.run_bind_ok _ noted, Act.run_bind_ok _ came, Act.run_bind_ok _ ran, Act.run_look_bind]
  cases stood : (crowd.asking id key).pool.phaseOf? id with
  | none => rfl
  | some phase => cases phase <;> rfl

theorem IsSteady.taken (plan : Plan) (written network : Value) :
    IsSteady started (crowd.after plan (.take id written network)) := by
  cases named : namedPackage written with
  | error failure =>
    rw [after_take_of_unnamed plan network named]
    exact steady.failed new failure
  | ok package =>
    obtain ⟨asked, notices, after⟩ := exists_after_take steady new plan network named
    rw [after]
    split
    · exact keeps_start plan _ _ _ ⟨_, notices⟩ asked
    · exact asked

end Take

theorem IsSteady.cancelled {started : List String} {crowd : Crowd}
    (steady : IsSteady started crowd) (plan : Plan) (id : String) :
    IsSteady started (crowd.after plan (.cancel id)) := by
  have cutsShort := Cache.Pool.cutsShort_after crowd.shared id
  obtain ⟨begun, before⟩ := cutsShort.keeps_callers
  have named : Names (crowd.shared.after (.cancel id)) := by
    intro other key phase stands
    obtain ⟨old, stood⟩ := before stands
    exact steady.named _ _ _ stood
  have left : IsSteady started (crowd.withPool (crowd.shared.after (.cancel id))) :=
    ⟨steady.pool.of_cutsShort cutsShort, named, steady.runs, begun ▸ steady.started⟩
  exact left.of_underway fun one among => left.runs one (List.mem_of_mem_filter among)

/-- Whatever happens, all still holds. -/
theorem IsSteady.after {started : List String} {plan : Plan} {crowd : Crowd}
    (steady : IsSteady started crowd) {event : Event} (allowed : crowd.Allows event) :
    IsSteady started (crowd.after plan event) := by
  cases event with
  | take id package network => exact steady.taken allowed plan package network
  | step one => exact keeps_step plan (steady.runs one allowed) ⟨crowd, []⟩ steady
  | breakOff one failure =>
    have isOwn : (Cache.Ending.failed failure).IsOwn := trivial
    exact keeps_settle one.id isOwn ⟨crowd, []⟩ steady
  | turn id => exact keeps_turn id ⟨crowd, []⟩ steady
  | cancel id => exact steady.cancelled plan id
  | change desk lines => exact steady.of_store rfl

theorem isSteady_of_comesAbout {plan : Plan} {crowd : Crowd} (comes : ComesAbout plan crowd) :
    IsSteady [] crowd := by
  obtain ⟨world, isNew, leads⟩ := comes
  induction leads with
  | refl => exact isSteady_new isNew
  | tail _ happens inductionHypothesis =>
    obtain ⟨event, allowed, rfl⟩ := happens
    exact inductionHypothesis.after allowed

/-! ### Whether a package counts as kept -/

/-- A request that is taken up is answered at once out of the store: nobody begins to compute for
it, no analysis begins, and nothing in the world is touched. -/
structure AnswersAtOnce (plan : Plan) (crowd : Crowd) (id : String) (package network : Value) :
    Prop where
  card : ∃ card, (crowd.after plan (.take id package network)).pool.phaseOf? id =
    some (.ended (.card card true))
  begun : (crowd.after plan (.take id package network)).pool.begun = crowd.pool.begun
  underway : (crowd.after plan (.take id package network)).underway = crowd.underway
  world : (crowd.after plan (.take id package network)).world = crowd.world

section Answers

variable {started : List String} {crowd : Crowd} (steady : IsSteady started crowd) {id : String}
  (new : Entries.get? crowd.pool.callers id = none) (plan : Plan) {written : Value}
  (network : Value)
include steady new

/-- A request for a package that something is kept for is answered at once. -/
theorem answersAtOnce_of_kept {package : String} (named : namedPackage written = .ok package)
    {value : Value} (found : Entries.get? crowd.shared.kept
      (Cache.key package (Network.ofValue network).word) = some value) :
    crowd.AnswersAtOnce plan id written network := by
  let key := Cache.key package (Network.ofValue network).word
  obtain ⟨-, notices, after⟩ := exists_after_take steady new plan network named
  have stands : (crowd.shared.join id key).StandsAt id key .arriving :=
    Cache.Pool.standsAt_put_self crowd.shared id ⟨key, .arriving⟩ .arriving
  obtain ⟨maker, card, rfl, ended⟩ := steady.pool.made found
  have turned : (crowd.shared.join id key).after (.turn id) =
      Cache.Pool.put id ⟨key, .arriving⟩ (.ended (.card card true)) (crowd.shared.join id key) :=
    Cache.Pool.after_turn_of_kept (steady.pool.join key new).memory stands
      (steady.pool.kept ended).2 found
  have asked : crowd.asking id key = crowd.withPool (Cache.Pool.put id ⟨key, .arriving⟩
      (.ended (.card card true)) (crowd.shared.join id key)) :=
    congrArg crowd.withPool turned
  have answered : (crowd.asking id key).pool.phaseOf? id = some (.ended (.card card true)) := by
    rw [asked]
    exact Cache.Pool.phaseOf?_put_self _ _ _ _
  have stays : crowd.after plan (.take id written network) = crowd.asking id key := by
    rw [after, answered]
  refine ⟨⟨card, stays ▸ answered⟩, ?_, ?_, ?_⟩ <;> rw [stays, asked] <;> rfl

/-- Nothing is answered at once that nothing is kept for. -/
theorem AnswersAtOnce.exists_kept (answers : crowd.AnswersAtOnce plan id written network) :
    ∃ package, namedPackage written = .ok package ∧ ∃ value, Entries.get? crowd.shared.kept
      (Cache.key package (Network.ofValue network).word) = some value := by
  obtain ⟨card, answered⟩ := answers.card
  cases named : namedPackage written with
  | error failure =>
    rw [after_take_of_unnamed plan network named] at answered
    cases answered.symm.trans (Cache.Pool.phaseOf?_put_self _ _ _ _)
  | ok package =>
    let key := Cache.key package (Network.ofValue network).word
    refine ⟨package, rfl, Option.ne_none_iff_exists'.mp fun missing => ?_⟩
    obtain ⟨asked, notices, after⟩ := exists_after_take steady new plan network named
    have stands : (crowd.shared.join id key).StandsAt id key .arriving :=
      Cache.Pool.standsAt_put_self crowd.shared id ⟨key, .arriving⟩ .arriving
    have turned : (crowd.asking id key).pool = _ :=
      Cache.Pool.after_turn_of_unkept (steady.pool.join key new).memory stands missing
    cases owned : Entries.get? (crowd.shared.join id key).underway key with
    | some owner =>
      rw [owned] at turned
      have waits : (crowd.asking id key).pool.phaseOf? id = some (.waiting owner) := by
        rw [turned]
        exact Cache.Pool.phaseOf?_put_self _ _ _ _
      rw [after, waits] at answered
      cases answered.symm.trans waits
    | none =>
      rw [owned] at turned
      have computes : (crowd.asking id key).pool.phaseOf? id = some .computing := by
        rw [turned]
        exact Cache.Pool.phaseOf?_put_self _ _ _ _
      have hasBegun : [id] ⊆ (crowd.asking id key).pool.begun := by
        rw [turned]
        exact List.subset_append_right _ [id]
      have last := keeps_start plan id (Network.ofValue network) package
        ⟨crowd.asking id key, notices⟩ (⟨asked.pool, asked.named, asked.runs, hasBegun⟩ :
          IsSteady [id] (crowd.asking id key))
      rw [after, computes] at answered
      obtain ⟨otherKey, ended⟩ := Cache.Pool.exists_standsAt_of_phaseOf? answered
      -- Whoever has begun to compute comes away with a card of its own only.
      exact nomatch (last.pool.suits ended).mpr (last.started List.mem_cons_self)

end Answers

section Kept

variable {started : List String} {crowd : Crowd} (steady : IsSteady started crowd)
include steady

/-- Whether a package counts as kept is whether something is kept for the text as it is written. -/
theorem isKept_eq (package : String) (network : Value) :
    ((isKept (.string package) network).outcome crowd.world).1 =
      .ok (Entries.get? crowd.shared.kept
        (Cache.key package (Network.ofValue network).word)).isSome := by
  rw [← Entries.has_eq_isSome]
  exact congrArg Prod.fst (Feed.run_isKept steady.store_eq (.string package) network [])

/-- A text without blanks around it counts as kept exactly if a request for it, with whatever blanks
around it, is answered at once. -/
theorem trimmed_isKept_iff {id : String} (new : Entries.get? crowd.pool.callers id = none)
    (plan : Plan) (package : String) (network : Value) :
    ((isKept (.string (Text.trimmed package)) network).outcome crowd.world).1 = .ok true ↔
      (Text.trimmed package).isEmpty = false ∧
        crowd.AnswersAtOnce plan id (.string package) network := by
  rw [isKept_eq steady, Except.ok.injEq, Option.isSome_iff_exists]
  constructor
  · rintro ⟨value, found⟩
    have isThere := (steady.isAskedFor_of_kept found).2
    have named : namedPackage (.string package) = .ok (Text.trimmed package) := by
      rw [namedPackage_string, isThere]
      rfl
    exact ⟨isThere, answersAtOnce_of_kept steady new plan network named found⟩
  · rintro ⟨_, answers⟩
    obtain ⟨other, named, isFound⟩ := answers.exists_kept steady new
    rw [← eq_trimmed_of_named named]
    exact isFound

end Kept

/-- Whether a package counts as kept agrees with whether a request for it, under a new identifier,
is answered at once. -/
def AgreesOn (plan : Plan) (crowd : Crowd) (id package : String) (network : Value) : Prop :=
  ((isKept (.string package) network).outcome crowd.world).1 = .ok true ↔
    (Text.trimmed package).isEmpty = false ∧ crowd.AnswersAtOnce plan id (.string package) network

/-- However a crowd comes about, what is left of a text without the blanks around it counts as kept
exactly if there is something left and a request for the text is answered out of the store at once.
The text itself does so exactly if there are no blanks around it or what is left without them does
not count as kept, since no card is ever kept under a text with blanks around it. -/
theorem kept_agrees_iff {plan : Plan} {crowd : Crowd} (comes : ComesAbout plan crowd) {id : String}
    (new : Entries.get? crowd.pool.callers id = none) (package : String) (network : Value) :
    (((isKept (.string (Text.trimmed package)) network).outcome crowd.world).1 = .ok true ↔
      (Text.trimmed package).isEmpty = false ∧
        crowd.AnswersAtOnce plan id (.string package) network) ∧
    (crowd.AgreesOn plan id package network ↔ Text.trimmed package = package ∨
      ((isKept (.string (Text.trimmed package)) network).outcome crowd.world).1 = .ok false) := by
  have steady := isSteady_of_comesAbout comes
  have trimmed := trimmed_isKept_iff steady new plan package network
  refine ⟨trimmed, ?_⟩
  unfold AgreesOn
  rw [← trimmed]
  by_cases unblank : Text.trimmed package = package
  · rw [unblank]
    exact iff_of_true Iff.rfl (.inl rfl)
  · have missing : Entries.get? crowd.shared.kept
        (Cache.key package (Network.ofValue network).word) = none := by
      by_contra isFound
      obtain ⟨value, found⟩ := Option.ne_none_iff_exists'.mp isFound
      exact unblank (steady.isAskedFor_of_kept found).1
    rw [isKept_eq steady, isKept_eq steady, missing]
    cases Entries.get? crowd.shared.kept
      (Cache.key (Text.trimmed package) (Network.ofValue network).word) <;> simp [unblank]

/-! ### A library -/

/-- The crowd once the first of the analyses under way has gone on by a step. -/
def afterFirst (plan : Plan) (crowd : Crowd) : Crowd :=
  match crowd.underway with
  | [] => crowd
  | one :: _ => crowd.after plan (.step one)

theorem ComesAbout.afterFirst {plan : Plan} {crowd : Crowd} (comes : ComesAbout plan crowd) :
    ComesAbout plan (crowd.afterFirst plan) := by
  obtain ⟨world, isNew, leads⟩ := comes
  refine ⟨world, isNew, ?_⟩
  unfold Crowd.afterFirst
  split
  · exact leads
  · next one rest isFirst =>
    have among : one ∈ crowd.underway := isFirst ▸ List.mem_cons_self
    exact leads.tail ⟨.step one, among, rfl⟩

/-- A plan by default. -/
def plainPlan : Plan :=
  ⟨{}, .bundled⟩

/-- A world with a node that knows a package without functions. -/
def libraryWorld : World where
  desk := { answers := [] }
  store := .empty
  chain :=
    ⟨{ node := .ledger { packages := [("0x5",
        .content (.object []) (.object [("m", .string "")]) .null (.string "package"))] } },
      { node := .ledger {} }⟩

/-- The crowd once a request for that package has been answered. -/
def libraryCrowd : Crowd :=
  ((({ world := libraryWorld } : Crowd).after plainPlan
    (.take "0" (.string "0x5") (.string "mainnet"))).afterFirst plainPlan).afterFirst plainPlan

theorem comesAbout_library : ComesAbout plainPlan libraryCrowd := by
  have begins : ComesAbout plainPlan (({ world := libraryWorld } : Crowd).after plainPlan
      (.take "0" (.string "0x5") (.string "mainnet"))) := by
    have allowed : ({ world := libraryWorld } : Crowd).Allows
        (.take "0" (.string "0x5") (.string "mainnet")) := rfl
    exact ⟨libraryWorld, rfl, .single ⟨_, allowed, rfl⟩⟩
  exact begins.afterFirst.afterFirst

theorem new_library : Entries.get? libraryCrowd.pool.callers "1" = none := by
  decide +kernel

theorem isKept_library :
    ((isKept (.string "0x5") (.string "mainnet")).outcome libraryCrowd.world).1 = .ok true := by
  rw [isKept_eq (isSteady_of_comesAbout comesAbout_library)]
  exact congrArg Except.ok (by decide +kernel)

/-- A package that is written with blanks around it does not count as kept after that. -/
theorem not_isKept_library : ((isKept (.string " 0x5 ") (.string "mainnet")).outcome
    libraryCrowd.world).1 = .ok false := by
  rw [isKept_eq (isSteady_of_comesAbout comesAbout_library)]
  exact congrArg Except.ok (by decide +kernel)

theorem trimmed_library : Text.trimmed " 0x5 " = "0x5" := by
  decide +kernel

/-- Without blanks around it, a request for it is answered at once exactly if it counts as kept;
with blanks, it does not count as kept, though a request for it would be answered at once. -/
theorem library_agrees_when_trimmed :
    ComesAbout plainPlan libraryCrowd ∧ Entries.get? libraryCrowd.pool.callers "1" = none ∧
      libraryCrowd.AgreesOn plainPlan "1" "0x5" (.string "mainnet") ∧
      libraryCrowd.AnswersAtOnce plainPlan "1" (.string " 0x5 ") (.string "mainnet") ∧
      ¬ libraryCrowd.AgreesOn plainPlan "1" " 0x5 " (.string "mainnet") := by
  obtain ⟨spaced, agrees⟩ :=
    kept_agrees_iff comesAbout_library new_library " 0x5 " (.string "mainnet")
  rw [trimmed_library] at spaced agrees
  have plain := (kept_agrees_iff comesAbout_library new_library "0x5" (.string "mainnet")).2
  refine ⟨comesAbout_library, new_library, plain.mpr (.inl (by decide +kernel)),
    (spaced.mp isKept_library).2, fun agreesToo => ?_⟩
  rcases agrees.mp agreesToo with same | isMissing
  · exact absurd same (by decide)
  · cases isKept_library.symm.trans isMissing

/-- So the two do not agree in general. -/
theorem blanks_hide_kept : ¬ ∀ (plan : Plan) (crowd : Crowd), ComesAbout plan crowd →
    ∀ (id package : String) (network : Value), Entries.get? crowd.pool.callers id = none →
      crowd.AgreesOn plan id package network := by
  intro agree
  have spaced := trimmed_isKept_iff (isSteady_of_comesAbout comesAbout_library) new_library
    plainPlan " 0x5 " (.string "mainnet")
  rw [trimmed_library] at spaced
  have isKept := (agree plainPlan libraryCrowd comesAbout_library "1" " 0x5 " (.string "mainnet")
    new_library).mpr (spaced.mp isKept_library)
  cases isKept.symm.trans not_isKept_library

end Crowd

end MoveAudit.Service
