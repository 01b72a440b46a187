/-
This file keeps account of a feed. Whatever becomes of a record, one of the three counters goes up
by one and the feed goes on, so the counters always add up to the records that were taken. A feed is
watched by noting each record as it is taken, with the world before and after; nobody the feed works
with can tell that it is watched. With a store in memory, what the watch remembers is what the store
keeps: a package that has once led to a card is there from then on, and a later record of it changes
nothing but the counters, so neither the model nor a node is asked for it again.
-/

import MoveAudit.Proofs.Service.Audits
import MoveAudit.Service.Feed

namespace MoveAudit.Service

open Json Chain

/-! ### What requests leave in the store -/

/-- No card is lost by a request. -/
theorem Answers.cardUnder? {values kept : Members} {written : Value} {network : Network}
    {answer : Except Failure (Card × Bool)} (answers : Answers values written network answer kept)
    {name : String} {card : Card} (isKept : Cache.cardUnder? values name = some card) :
    Cache.cardUnder? kept name = some card := by
  cases answers with
  | fails failure => exact isKept
  | finds named found => exact isKept
  | @makes package made named missing sound =>
    have differs : name ≠ Cache.key package network.word := by
      rintro rfl
      cases missing.symm.trans isKept
    rw [Cache.cardUnder?_put_of_ne _ _ differs]
    exact isKept

/-- A card that a request is answered with is kept for its package. -/
theorem Answers.exists_package {values kept : Members} {written : Value} {network : Network}
    {card : Card} {isShared : Bool}
    (answers : Answers values written network (.ok (card, isShared)) kept) :
    ∃ package, namedPackage written = .ok package ∧
      Cache.cardUnder? kept (Cache.key package network.word) = some card := by
  cases answers with
  | finds named found => exact ⟨_, named, found⟩
  | makes named missing sound => exact ⟨_, named, Cache.cardUnder?_put _ _ sound.1⟩

/-- The name of a network means that network. -/
theorem ofValue_word (network : Network) : Network.ofValue (.string network.word) = network := by
  cases network <;> decide +kernel

namespace Feed

/-! ### One record -/

/-- The counters of a feed together. -/
def total (feed : Feed) : Nat :=
  feed.processed + feed.skipped + feed.failed

/-- One counter of a feed has gone up by one: that of the packages analysed exactly if there is a
card. -/
inductive Counts (feed : Feed) : Option Card → Feed → Prop where
  | analysed (card : Card) : Counts feed (some card) feed.analysed
  | passedOver : Counts feed none feed.passedOver
  | missed : Counts feed none feed.missed

theorem Counts.total_eq {feed next : Feed} {card? : Option Card}
    (counts : feed.Counts card? next) : next.total = feed.total + 1 := by
  cases counts <;> simp only [total, Feed.analysed, Feed.passedOver, Feed.missed] <;> omega

theorem Counts.network_eq {feed next : Feed} {card? : Option Card}
    (counts : feed.Counts card? next) : next.network = feed.network := by
  cases counts <;> rfl

/-- What a feed makes of what it had to do with a package. -/
def taken (feed : Feed) : Except Failure (Option Card) → Option Card × Feed
  | .ok (some card) => (some card, feed.analysed)
  | .ok none => (none, feed.passedOver)
  | .error _ => (none, feed.missed)

theorem counts_taken (feed : Feed) (answer : Except Failure (Option Card)) :
    feed.Counts (feed.taken answer).1 (feed.taken answer).2 := by
  match answer with
  | .ok (some card) => exact .analysed card
  | .ok none => exact .passedOver
  | .error failure => exact .missed

theorem packageOf_toJson (publication : Publication) :
    packageOf publication.toJson = .ok publication.package.full? := rfl

/-- How a record is taken: nothing is done for one without a package, and otherwise what there is to
do with the package. -/
inductive Takes (plan : Plan) (feed : Feed) (record : Publication) (world : World) :
    Except Failure (Option Card) → World → Prop where
  | unnamed (isUnnamed : record.package.full? = none) :
    Takes plan feed record world (.ok none) world
  | named {package : Value} {notices : List Notice} {answer : Except Failure (Option Card)}
    {left : Scene World} (isNamed : record.package.full? = some package)
    (ran : (feed.cardOf plan package).run ⟨world, notices⟩ = (answer, left)) :
    Takes plan feed record world answer left.world

/-- A record is taken whatever happens on the way. -/
theorem exists_run_process (plan : Plan) (feed : Feed) (record : Publication)
    (scene : Scene World) : ∃ answer left,
      (feed.process plan record.toJson).run scene = (.ok (feed.taken answer), left) ∧
        Takes plan feed record scene.world answer left.world := by
  have read : (Act.ofExcept ((packageOf record.toJson).mapError .shape) :
      Course (Option Value)).run scene = (.ok record.package.full?, scene) := by
    rw [packageOf_toJson]
    rfl
  unfold process
  rw [Act.run_bind_ok _ read]
  cases isNamed : record.package.full? with
  | none => exact ⟨.ok none, ⟨scene.world, _⟩, rfl, .unnamed isNamed⟩
  | some package =>
    have noted (found : Notice) : (Act.note found : Course Unit).run scene =
        (.ok (), ⟨scene.world, scene.notices ++ [found]⟩) := rfl
    dsimp only
    rw [Act.run_bind_ok _ (noted _)]
    generalize scene.notices ++ _ = notices
    cases ran : (feed.cardOf plan package).run ⟨scene.world, notices⟩ with
    | mk answer left =>
      have takes : Takes plan feed record scene.world answer left.world := .named isNamed ran
      rw [Act.run_bind_ok _ (Act.run_settle ran)]
      match answer with
      | .ok (some card) => exact ⟨.ok (some card), ⟨left.world, _⟩, rfl, takes⟩
      | .ok none => exact ⟨.ok none, left, rfl, takes⟩
      | .error failure => exact ⟨.error failure, ⟨left.world, _⟩, rfl, takes⟩

/-! ### One record, with a store in memory -/

section InMemory

variable {plan : Plan} {feed : Feed} {world : World} {values : Members}
  (stands : world.store = .memory values)
include stands

theorem run_isKept (package network : Value) (notices : List Notice) :
    (isKept package network).run ⟨world, notices⟩ =
      (.ok (Entries.has values (Cache.key package.shown (Network.ofValue network).word)),
        ⟨world, notices⟩) := by
  have asked := Cache.run_contains values
    (Cache.key package.shown (Network.ofValue network).word) notices
  rw [← stands] at asked
  exact run_onResults asked

/-- What there is to do with a package is nothing, or a request. -/
theorem run_cardOf (plan : Plan) (feed : Feed) (package : Value) (notices : List Notice) :
    (∃ more, (feed.cardOf plan package).run ⟨world, notices⟩ = (.ok none, ⟨world, more⟩)) ∨
      ∃ answer left, (analyse plan package (.string feed.network.word)).run ⟨world, notices⟩ =
          (answer, left) ∧
        (feed.cardOf plan package).run ⟨world, notices⟩ = (answer.map (some ·.1), left) := by
  unfold cardOf
  rw [Act.run_bind_ok _ (run_isKept stands package (.string feed.network.word) notices)]
  split
  · exact .inl ⟨_, rfl⟩
  · right
    cases ran : (analyse plan package (.string feed.network.word)).run ⟨world, notices⟩ with
    | mk answer left =>
      refine ⟨answer, left, rfl, ?_⟩
      cases answer with
      | ok made => exact Act.run_bind_ok _ ran
      | error failure => exact Act.run_bind_error _ ran

/-- What taking a record leaves in a store in memory. -/
structure TakenInMemory (values : Members) (feed : Feed) (record : Publication) (world : World)
    (answer : Except Failure (Option Card)) (left : World) (kept : Members) : Prop where
  held : left.store = .memory kept
  /-- No card is lost. -/
  lasts : ∀ {name card}, Cache.cardUnder? values name = some card →
    Cache.cardUnder? kept name = some card
  /-- The card that the record leads to is there for its package. -/
  isKept : ∀ {card}, answer = .ok (some card) → ∃ package,
    namedPackage record.package = .ok package ∧
      Cache.cardUnder? kept (Cache.key package feed.network.word) = some card
  /-- For a package that there was a card of, nothing is done. -/
  rests : ∀ {package card}, namedPackage record.package = .ok package →
    Cache.cardUnder? values (Cache.key package feed.network.word) = some card → left = world

/-- A store in memory keeps the card that a record leads to, and loses none. -/
theorem Takes.inMemory {record : Publication} {answer : Except Failure (Option Card)}
    {left : World} (takes : Takes plan feed record world answer left) :
    ∃ kept, TakenInMemory values feed record world answer left kept := by
  have idle : TakenInMemory values feed record world (.ok none) world values :=
    ⟨stands, id, nofun, fun _ _ => rfl⟩
  cases takes with
  | unnamed isUnnamed => exact ⟨values, idle⟩
  | @named package notices answer left isNamed ran =>
    obtain rfl : record.package = package :=
      Option.some.inj (Option.ite_none_right_eq_some.mp isNamed).2
    rcases run_cardOf stands plan feed record.package notices with
      ⟨more, passes⟩ | ⟨given, last, asked, comes⟩
    · cases passes.symm.trans ran
      exact ⟨values, idle⟩
    · cases comes.symm.trans ran
      obtain ⟨kept, held, answers⟩ := run_analyse_answers plan record.package
        (.string feed.network.word) stands notices
      rw [asked] at held answers
      rw [ofValue_word] at answers
      refine ⟨kept, held, answers.cardUnder?, fun same => ?_, fun named isKept => ?_⟩
      · match given, same with
        | .ok (card, isShared), rfl => exact answers.exists_package
      · rw [← ofValue_word feed.network] at isKept
        obtain ⟨more, found⟩ := run_analyse_of_kept plan named stands isKept notices
        cases asked.symm.trans found
        rfl

end InMemory

/-! ### Watching a feed -/

/-- A record as it was taken: the feed and the world before, the card if there is one, and the feed
and the world after. -/
structure Visit where
  record : Publication
  feed : Feed
  found : World
  card? : Option Card
  next : Feed
  left : World

/-- A feed, and the records that it has taken. -/
abbrev Watch := Feed × List Visit

/-- Take a record and note it. -/
def visit (plan : Plan) (watch : Watch) (record : Publication) : Course Watch := do
  let found ← Act.look
  let (card?, next) ← watch.1.process plan record.toJson
  let left ← Act.look
  return (next, watch.2 ++ [⟨record, watch.1, found, card?, next, left⟩])

/-- Take records one after another and note them. -/
def visitAll (plan : Plan) (watch : Watch) (records : List Publication) : Course Watch :=
  records.foldlM (visit plan) watch

/-- Run a feed and note the records that it takes. -/
def watch (plan : Plan) (feed : Feed) : Course Watch := do
  let (watch, failure) ← feed.followBy plan (visitAll plan) (feed, [])
  watch.1.crash failure
  return watch

theorem map_visit (plan : Plan) (watch : Watch) (record : Publication) :
    Prod.fst <$> visit plan watch record =
      (do return (← watch.1.process plan record.toJson).2 : Course Feed) := by
  unfold visit
  simp only [map_bind, map_pure]
  rfl

theorem map_visitAll (plan : Plan) (watch : Watch) (records : List Publication) :
    Prod.fst <$> visitAll plan watch records = processAll plan watch.1 records := by
  induction records generalizing watch with
  | nil => exact map_pure _ _
  | cons record rest inductionHypothesis =>
    unfold visitAll processAll
    rw [List.foldlM_cons, List.foldlM_cons, map_bind, ← map_visit, bind_map_left]
    exact bind_congr inductionHypothesis

/-- Following is the same whether what is taken in is seen as it is or in another way. -/
theorem map_pollFrom {State Other : Type} (view : State → Other) {plan : Plan} {network : Network}
    {take : State → List Publication → Course State}
    {takeSeen : Other → List Publication → Course Other}
    (isSeen : ∀ state found, view <$> take state found = takeSeen (view state) found)
    (turns : Nat) (poll : Poll) (state : State) :
    Prod.map view id <$> pollFrom plan network take turns poll state =
      pollFrom plan network takeSeen turns poll (view state) := by
  induction turns generalizing poll state with
  | zero => exact map_pure _ _
  | succ turns inductionHypothesis =>
    unfold pollFrom
    rw [map_bind]
    refine bind_congr fun answer => ?_
    cases answer with
    | error failure => exact map_pure _ _
    | ok came =>
      obtain ⟨turn, fault?⟩ := came
      dsimp only
      rw [map_bind, ← isSeen, bind_map_left]
      refine bind_congr fun state => ?_
      cases fault? with
      | some fault => exact map_pure _ _
      | none => simp only [apply_ite (Prod.map view id <$> ·), map_bind, inductionHypothesis]

/-- Watching a feed makes no difference to it. -/
theorem map_watch (plan : Plan) (feed : Feed) : Prod.fst <$> feed.watch plan = feed.run plan := by
  have seen (turns : Nat) :
      Prod.map Prod.fst id <$>
          pollFrom plan feed.network (visitAll plan) turns feed.poll (feed, []) =
        pollFrom plan feed.network (processAll plan) turns feed.poll feed :=
    map_pollFrom Prod.fst (map_visitAll plan) turns feed.poll (feed, [])
  unfold watch run followBy
  simp only [map_bind, map_pure, bind_assoc, ← seen, bind_map_left, Prod.map, id]

/-! ### Courses of a feed -/

section Follows

variable {State : Type} {plan : Plan} {feed : Feed} {holds : State → World → Prop}
  {take : State → List Publication → Course State}

/-- What every taking in keeps, whatever becomes of the lines, is kept by following. -/
theorem yields_pollFrom (elsewhere : ∀ state world chain, holds state world →
      holds state { world with chain })
    (takes : ∀ state found, (take state found).Yields (holds state) holds) (network : Network)
    (turns : Nat) (poll : Poll) (state : State) :
    (pollFrom plan network take turns poll state).Yields (holds state)
      fun (state, _) => holds state := by
  have keeps {Outcome : Type} (action : Act Line Chain.Failure Outcome) (state : State) :
      (onLine network action).Keeps (holds state) :=
    fun scene stands => elsewhere state scene.world _ stands
  induction turns generalizing poll state with
  | zero => exact .pure fun _ stands => stands
  | succ turns inductionHypothesis =>
    unfold pollFrom
    refine .bind (.settle (keeps _ state)) fun answer => ?_
    cases answer with
    | error failure => exact .pure fun _ stands => stands
    | ok came =>
      obtain ⟨turn, fault?⟩ := came
      refine .bind (takes state turn.found) fun state => ?_
      have goesOn : (if turn.rests = true then do
            onLine network (Act.change (Line.rest poll.interval))
            pollFrom plan network take turns turn.poll state
          else pollFrom plan network take turns turn.poll state :
            Course (State × Failure)).Yields (holds state) fun (state, _) => holds state := by
        split
        · exact .bind (fun scene stands => ⟨(), _, rfl, elsewhere state scene.world _ stands⟩)
            fun _ => inductionHypothesis turn.poll state
        · exact inductionHypothesis turn.poll state
      cases fault? with
      | some fault => exact .pure fun _ stands => stands
      | none =>
        dsimp only
        split
        · exact .bind (.note _) fun _ => goesOn
        · exact goesOn

theorem yields_followBy (elsewhere : ∀ state world chain, holds state world →
      holds state { world with chain })
    (takes : ∀ state found, (take state found).Yields (holds state) holds) (state : State) :
    (feed.followBy plan take state).Yields (holds state) fun (state, _) => holds state := by
  have looks : (Act.look : Course World).Yields (holds state) fun _ => holds state :=
    fun scene stands => ⟨scene.world, scene, rfl, stands⟩
  exact .bind (.note _) fun _ => .bind looks fun world =>
    yields_pollFrom elsewhere takes _ _ _ state

end Follows

theorem yields_watch {plan : Plan} {feed : Feed} {holds : Watch → World → Prop}
    (elsewhere : ∀ watch world chain, holds watch world → holds watch { world with chain })
    (visits : ∀ watch record, (visit plan watch record).Yields (holds watch) holds) :
    (feed.watch plan).Yields (holds (feed, [])) holds := by
  refine .bind (yields_followBy elsewhere (fun watch found => .foldlM visits found watch) _)
    fun (watch, failure) => ?_
  have crashes : (watch.1.crash failure : Course Unit).Yields (holds watch)
      fun _ => holds watch :=
    fun scene stands => ⟨(), _, rfl, stands⟩
  exact .bind crashes fun _ => .pure fun _ stands => stands

/-! ### Accounts -/

/-- A feed accounts for the records it has taken: each has been counted once. -/
structure Accounts (begun : Feed) (watch : Watch) : Prop where
  counts : ∀ visit ∈ watch.2, visit.feed.Counts visit.card? visit.next
  total : watch.1.total = begun.total + watch.2.length

/-- The record of a visit, after whatever there was to do. -/
theorem exists_run_visit (plan : Plan) (watch : Watch) (record : Publication)
    (scene : Scene World) : ∃ answer left,
      (visit plan watch record).run scene = (.ok ((watch.1.taken answer).2, watch.2 ++
        [⟨record, watch.1, scene.world, (watch.1.taken answer).1, (watch.1.taken answer).2,
          left.world⟩]), left) ∧
      Takes plan watch.1 record scene.world answer left.world := by
  obtain ⟨answer, left, ran, takes⟩ := exists_run_process plan watch.1 record scene
  refine ⟨answer, left, ?_, takes⟩
  unfold visit
  rw [Act.run_look_bind, Act.run_bind_ok _ ran, Act.run_look_bind]
  rfl

/-- Records are all taken, in their order. -/
theorem exists_run_visitAll (plan : Plan) (watch : Watch) (records : List Publication)
    (scene : Scene World) : ∃ last left, (visitAll plan watch records).run scene = (.ok last, left) ∧
      last.2.map (·.record) = watch.2.map (·.record) ++ records := by
  unfold visitAll
  induction records generalizing watch scene with
  | nil => exact ⟨watch, scene, rfl, (List.append_nil _).symm⟩
  | cons record rest inductionHypothesis =>
    obtain ⟨answer, left, ran, _⟩ := exists_run_visit plan watch record scene
    obtain ⟨last, end_, others, inOrder⟩ := inductionHypothesis _ left
    rw [List.foldlM_cons, Act.run_bind_ok _ ran]
    refine ⟨last, end_, others, inOrder.trans ?_⟩
    rw [List.map_append, List.append_assoc]
    rfl

theorem yields_visit_accounts (plan : Plan) (begun : Feed) (watch : Watch)
    (record : Publication) : (visit plan watch record).Yields (fun _ => Accounts begun watch)
      fun watch _ => Accounts begun watch := by
  intro scene accounts
  obtain ⟨answer, left, ran, _⟩ := exists_run_visit plan watch record scene
  have counts := counts_taken watch.1 answer
  refine ⟨_, left, ran, fun visit member => ?_, ?_⟩
  · rcases List.mem_append.mp member with before | isLast
    · exact accounts.counts visit before
    · rw [List.mem_singleton.mp isLast]
      exact counts
  · rw [counts.total_eq, accounts.total, List.length_append, List.length_singleton, Nat.add_assoc]

theorem exists_run_watch_accounts (plan : Plan) (feed : Feed) (scene : Scene World) :
    ∃ watch left, (feed.watch plan).run scene = (.ok watch, left) ∧ Accounts feed watch := by
  have begins : Accounts feed (feed, []) :=
    ⟨fun _ member => absurd member List.not_mem_nil, rfl⟩
  have elsewhere (watch : Watch) (world : World) (chain : Lines)
      (accounts : Accounts feed watch) : Accounts feed watch := accounts
  have yields : (feed.watch plan).Yields (fun _ => Accounts feed (feed, []))
      fun watch _ => Accounts feed watch :=
    yields_watch elsewhere (yields_visit_accounts plan feed)
  exact yields scene begins

/-! ### What a store in memory spares -/

/-- The record of a visit names a package. -/
def Visit.Names (visit : Visit) (package : String) : Prop :=
  namedPackage visit.record.package = .ok package

/-- A visit that led to a card spares a later one of the same package everything but the
counting. -/
def Visit.Spares (visit later : Visit) : Prop :=
  visit.card?.isSome → ∀ package, visit.Names package → later.Names package →
    later.left = later.found

/-- A store in memory keeps what is known from the visits of a feed: of every package that there has
been a card of there is one, and since there was, nothing was done for the package. -/
structure Remembers (network : Network) (watch : Watch) (world : World) : Prop where
  network_eq : watch.1.network = network
  spares : watch.2.Pairwise Visit.Spares
  kept : ∃ values, world.store = .memory values ∧ ∀ visit ∈ watch.2, visit.card?.isSome →
    ∃ package card, visit.Names package ∧
      Cache.cardUnder? values (Cache.key package network.word) = some card

theorem yields_visit_remembers (plan : Plan) (network : Network) (watch : Watch)
    (record : Publication) : (visit plan watch record).Yields (Remembers network watch)
      (Remembers network) := by
  rintro scene ⟨rfl, spares, values, stands, isKept⟩
  obtain ⟨answer, left, ran, takes⟩ := exists_run_visit plan watch record scene
  obtain ⟨kept, held, lasts, made, rests⟩ := takes.inMemory stands
  refine ⟨_, left, ran, (counts_taken watch.1 answer).network_eq, ?_, kept, held, ?_⟩
  · refine List.pairwise_append.mpr ⟨spares, List.pairwise_singleton _ _, ?_⟩
    intro earlier member later isLast hasCard package names namesToo
    rw [List.mem_singleton.mp isLast] at namesToo ⊢
    obtain ⟨other, card, named, isUnder⟩ := isKept earlier member hasCard
    obtain rfl : package = other := Except.ok.inj (names.symm.trans named)
    exact rests namesToo isUnder
  · intro visit member hasCard
    rcases List.mem_append.mp member with before | isLast
    · obtain ⟨package, card, names, isUnder⟩ := isKept visit before hasCard
      exact ⟨package, card, names, lasts isUnder⟩
    · rw [List.mem_singleton.mp isLast] at hasCard ⊢
      match answer, hasCard with
      | .ok (some card), _ =>
        obtain ⟨package, names, isUnder⟩ := made rfl
        exact ⟨package, card, names, isUnder⟩

theorem exists_run_watch_remembers (plan : Plan) (feed : Feed) {world : World} {values : Members}
    (stands : world.store = .memory values) (notices : List Notice) :
    ∃ watch left, (feed.watch plan).run ⟨world, notices⟩ = (.ok watch, left) ∧
      Remembers feed.network watch left.world := by
  have begins : Remembers feed.network (feed, []) world :=
    ⟨rfl, .nil, values, stands, fun _ member => absurd member List.not_mem_nil⟩
  have elsewhere (watch : Watch) (world : World) (chain : Lines)
      (remembers : Remembers feed.network watch world) :
      Remembers feed.network watch { world with chain } :=
    ⟨remembers.network_eq, remembers.spares, remembers.kept⟩
  exact yields_watch elsewhere (yields_visit_remembers plan feed.network) ⟨world, notices⟩ begins

/-! ### Records in any world -/

/-- Take records one after another, each in a world of its own. -/
def takeEach (plan : Plan) : Feed → List (Publication × World) → Except Failure Feed
  | feed, [] => .ok feed
  | feed, (record, world) :: rest => do
    let (_, next) ← ((feed.process plan record.toJson).outcome world).1
    takeEach plan next rest

theorem exists_takeEach (plan : Plan) (feed : Feed) (arrivals : List (Publication × World)) :
    ∃ last, takeEach plan feed arrivals = .ok last ∧
      last.total = feed.total + arrivals.length := by
  induction arrivals generalizing feed with
  | nil => exact ⟨feed, rfl, rfl⟩
  | cons arrival rest inductionHypothesis =>
    obtain ⟨answer, left, ran, _⟩ := exists_run_process plan feed arrival.1 ⟨arrival.2, []⟩
    obtain ⟨last, came, total⟩ := inductionHypothesis (feed.taken answer).2
    refine ⟨last, ?_, ?_⟩
    · have taken : ((feed.process plan arrival.1.toJson).outcome arrival.2).1 =
          .ok (feed.taken answer) := congrArg Prod.fst ran
      unfold takeEach
      rw [taken]
      exact came
    · rw [total, (counts_taken feed answer).total_eq, List.length_cons]
      omega

/-! ### The whole feed -/

/-- A feed handles every record, in order and whatever happens, and counts each of them once: as
analysed if there is a card in the end, as passed over if there was nothing to do, and as failed if
something failed on the way. So the counters together are as many as the records, be it that each of
them comes into a world of its own or that the feed follows a network to the end, where it is
watched without being disturbed. When results are kept in memory, all that a feed does with a record
of a package that it has had a card of is count it. No audit is made then, since every audit puts a
question to the node. -/
theorem counts_and_audits_once (plan : Plan) (feed : Feed) :
    (∀ (record : Publication) (scene : Scene World), ∃ answer left,
      (feed.process plan record.toJson).run scene = (.ok (feed.taken answer), left) ∧
        Takes plan feed record scene.world answer left.world ∧
        feed.Counts (feed.taken answer).1 (feed.taken answer).2) ∧
    (∀ arrivals : List (Publication × World), ∃ last,
      takeEach plan feed arrivals = .ok last ∧ last.total = feed.total + arrivals.length) ∧
    (∀ watch records scene, ∃ last left,
      (visitAll plan watch records).run scene = (.ok last, left) ∧
        last.2.map (·.record) = watch.2.map (·.record) ++ records) ∧
    Prod.fst <$> feed.watch plan = feed.run plan ∧
    (∀ scene, ∃ watch left, (feed.watch plan).run scene = (.ok watch, left) ∧
      (∀ visit ∈ watch.2, visit.feed.Counts visit.card? visit.next) ∧
      watch.1.total = feed.total + watch.2.length) ∧
    (∀ desk values chain notices, ∃ watch left,
      (feed.watch plan).run ⟨⟨desk, .memory values, chain⟩, notices⟩ = (.ok watch, left) ∧
        watch.2.Pairwise Visit.Spares) ∧
    ∀ (network : Network) (package : String) (scene : Scene World),
      (scene.world.chain.of network).lastNumber <
        (((audit plan network package).run scene).2.world.chain.of network).lastNumber := by
  refine ⟨fun record scene => ?_, exists_takeEach plan feed, exists_run_visitAll plan,
    map_watch plan feed, fun scene => ?_, fun desk values chain notices => ?_,
    lastNumber_lt_audit plan⟩
  · obtain ⟨answer, left, ran, takes⟩ := exists_run_process plan feed record scene
    exact ⟨answer, left, ran, takes, counts_taken feed answer⟩
  · obtain ⟨watch, left, ran, accounts⟩ := exists_run_watch_accounts plan feed scene
    exact ⟨watch, left, ran, accounts.counts, accounts.total⟩
  · obtain ⟨watch, left, ran, remembers⟩ := exists_run_watch_remembers plan feed
      (show (⟨desk, .memory values, chain⟩ : World).store = .memory values from rfl) notices
    exact ⟨watch, left, ran, remembers.spares⟩

/-- A page with a transaction that publishes a package. -/
def publishingPage (package : String) : Value :=
  .object [("data", .array [.object [("objectChanges", .array [.object
    [("type", .string "published"), ("packageId", .string package)]])]])]

/-- A line to a node that knows one package and tells of it three times, and once of another. -/
def repeatingLine : Line where
  node := .ledger
    { packages := [("0x5", .content (.object []) (.object [("m", .string "")]) .null
        (.string "package"))]
      pages := .object [] :: ["0x5", "0x6", "0x5", "0x5 "].map publishingPage }

-- The last record is not known by its text, so it is asked for, and answered out of the store.
example : ((({} : Feed).watch ⟨{}, .bundled⟩).outcome
    ⟨{ answers := [] }, .empty, ⟨repeatingLine, repeatingLine⟩⟩).1.toOption.map (fun watch =>
      (watch.2.map (·.card?.isSome), watch.1.processed, watch.1.skipped, watch.1.failed)) =
    some ([true, false, false, true], 2, 1, 1) := by
  decide +kernel

end Feed

end MoveAudit.Service
