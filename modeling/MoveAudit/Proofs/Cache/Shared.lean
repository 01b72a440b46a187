/-
This file says what a store on a server knows, as long as the server carries out what it is asked.
Such a store shows the values of a store in memory: the server has the text of each value under its
name in the name space, and the value is read back from its text as it was. So all is found as it is
in memory, except that the server lists the names that a pattern covers, in an order of its own.
-/

import MoveAudit.Proofs.Cache.Kept
import MoveAudit.Proofs.Json.RoundTrip

namespace MoveAudit

open Json

/-! ### Documents of cards can be written and read -/

theorem areProper_map {Item : Type} {document : Item → Value}
    (isProper : ∀ item, (document item).IsProper) (items : List Item) :
    Value.AreProper (items.map document) := by
  induction items with
  | nil => exact trivial
  | cons item rest inductionHypothesis => exact ⟨isProper item, inductionHypothesis⟩

theorem RiskyFunction.isProper_toJson (function : RiskyFunction) : function.toJson.IsProper :=
  ⟨show ["function_name", "reason"].Nodup by decide, trivial, trivial, trivial⟩

theorem Indicator.isProper_toJson (indicator : Indicator) : indicator.toJson.IsProper :=
  ⟨show ["pattern_name", "evidence"].Nodup by decide, trivial, trivial, trivial⟩

theorem Card.isProper_toJson {card : Card} (inRange : card.IsInRange) : card.toJson.IsProper := by
  have isShort : card.score.natAbs < 10 ^ Numeral.digitLimit := by
    obtain ⟨low, high⟩ : 0 ≤ card.score ∧ card.score ≤ 100 := inRange
    have grows : 10 ^ 3 ≤ 10 ^ Numeral.digitLimit := Nat.pow_le_pow_right (by decide) (by decide)
    omega
  have differ : ["summary", "risky_functions", "rug_pull_indicators", "impact_on_user",
      "why_risky_one_liner", "risk_score", "risk_level"].Nodup := by decide
  exact ⟨differ, trivial, areProper_map RiskyFunction.isProper_toJson _,
    areProper_map Indicator.isProper_toJson _, trivial, trivial, isShort, trivial, trivial⟩

/-- The document of a card is read back from its text. -/
theorem Card.read_write_toJson {card : Card} (inRange : card.IsInRange) :
    read (card.toJson.write .spaced) = .ok card.toJson :=
  @read_write_spaced false _ (card.isProper_toJson inRange)

namespace Cache

open Store (Place.nameOf decoded patternOf)

/-! ### Names on a server -/

theorem toList_nameOf (place : Place) (name : String) :
    (Place.nameOf place name).toList = place.space.toList ++ ':' :: name.toList := by
  simp [Place.nameOf]

theorem nameOf_beq (place : Place) (one other : String) :
    (Place.nameOf place one == Place.nameOf place other) = (one == other) := by
  rw [Bool.eq_iff_iff, beq_iff_eq, beq_iff_eq]
  refine ⟨fun same => ?_, congrArg _⟩
  have spelled := congrArg String.toList same
  rw [toList_nameOf, toList_nameOf] at spelled
  exact String.toList_injective (List.cons.inj (List.append_cancel_left spelled)).2

/-- The name on a server gives back the name when the name space is left out. -/
theorem drop_nameOf (place : Place) (name : String) :
    String.ofList ((Place.nameOf place name).toList.drop (place.space.length + 1)) = name := by
  rw [toList_nameOf, ← List.drop_drop, ← String.length_toList, List.drop_left]
  exact String.ofList_toList

/-! ### Servers that can be reached -/

/-- A server carries out the commands of a word: it does not refuse them. -/
def Server.CarriesOut (server : Server) (word : String) : Prop :=
  Entries.get? server.refusals word = none

/-- A server was reached before, or answers when a store looks for it first. -/
def IsReached (server : Server) : Option (Except String Unit) → Prop
  | none => server.CarriesOut Command.ping.word
  | some outcome => outcome = .ok ()

/-- The server as it is when it is asked something: a store that has not reached it yet looks for it
first. -/
def reachedServer (server : Server) : Option (Except String Unit) → Server
  | none => server.ping.2
  | some _ => server

/-- A server that is reached answers a question for its store. -/
theorem run_askServer_of_reached {Result : Type} {place : Place} {server left : Server}
    {reached? : Option (Except String Unit)} (isReached : IsReached server reached?)
    {question : Place → Server → Except String Result × Server} {result : Result}
    (answers : question place (reachedServer server reached?) = (.ok result, left))
    {event : String} {about : String × Value} {default_ : Result} (scene : Scene Store) :
    (Store.askServer event about default_ question place server reached?).run scene =
      (.ok result, ⟨.shared place left (some (.ok ())), scene.notices⟩) := by
  have goesOn (between : Scene Store) (same : between.notices = scene.notices)
      (reaches : (Store.reach place server reached?).run scene =
        (.ok (reachedServer server reached?), between)) :
      (Store.askServer event about default_ question place server reached?).run scene =
        (.ok result, ⟨.shared place left (some (.ok ())), scene.notices⟩) := by
    unfold Store.askServer
    rw [Act.run_bind_ok _ reaches, answers, ← same]
    rfl
  cases reached? with
  | some outcome =>
    obtain rfl : outcome = .ok () := isReached
    exact goesOn scene rfl rfl
  | none =>
    have isThere : server.ping = (.ok (), reachedServer server none) := by
      have carriesOut : Entries.get? server.refusals Command.ping.word = none := isReached
      unfold reachedServer Server.ping Server.carryOut
      dsimp only
      rw [carriesOut]
    refine goesOn ⟨.shared place (reachedServer server none) (some (.ok ())), scene.notices⟩ rfl ?_
    unfold Store.reach
    dsimp only
    rw [isThere]
    rfl

/-! ### Servers that carry out everything -/

/-- An order in which a server lists names, each as often as it is there. -/
structure NameOrder where
  listed : List String → List String
  isOrder : ∀ names, (listed names).Perm names

/-- The place of a shared store, and how its server finds and lists names there. -/
structure Site extends NameOrder where
  place : Place
  covers : String → String → Bool

/-- A search for a package covers a name. -/
def Site.Covers (site : Site) (package name : String) : Prop :=
  site.covers (patternOf (package ++ mark) site.place) (Place.nameOf site.place name) = true

/-- The texts on a server that show the values of a store. -/
def shownAt (place : Place) (values : Members) : List (String × String) :=
  values.map fun pair => (Place.nameOf place pair.1, pair.2.write .spaced)

section Server

variable (site : Site)

/-- A server that refuses nothing and shows the values of a store. -/
def serverOf (values : Members) (asked : List Command) : Server where
  texts := shownAt site.place values
  covers := site.covers
  listed := site.listed
  asked := asked

/-- The store is one on a server that refuses nothing, and shows the values. -/
def Shows (values : Members) (store : Store) : Prop :=
  ∃ asked reached?, store = .shared site.place (serverOf site values asked) reached? ∧
    (reached? = none ∨ reached? = some (.ok ()))

variable {site} {values : Members}

theorem carriesOut_serverOf (asked : List Command) (word : String) :
    (serverOf site values asked).CarriesOut word := rfl

/-- A question is answered as the server answers it, whether or not it has to be reached first. -/
theorem run_askServer {Result : Type} {kept : Members} {result : Result}
    (question : Place → Server → Except String Result × Server)
    (answers : ∀ asked, ∃ more, question site.place (serverOf site values asked) =
      (.ok result, serverOf site kept more))
    {event : String} {about : String × Value} {default_ : Result} (asked : List Command)
    {reached? : Option (Except String Unit)}
    (isReached : reached? = none ∨ reached? = some (.ok ())) (scene : Scene Store) :
    ∃ left, (Store.askServer event about default_ question site.place
        (serverOf site values asked) reached?).run scene = (.ok result, left) ∧
      Shows site kept left.world := by
  rcases isReached with rfl | rfl
  · obtain ⟨more, answered⟩ := answers (asked ++ [.ping])
    have isThere : IsReached (serverOf site values asked) none := carriesOut_serverOf asked _
    exact ⟨_, run_askServer_of_reached isThere answered scene, more, some (.ok ()),
      rfl, .inr rfl⟩
  · obtain ⟨more, answered⟩ := answers asked
    have isThere : IsReached (serverOf site values asked) (some (.ok ())) := rfl
    exact ⟨_, run_askServer_of_reached isThere answered scene, more, some (.ok ()),
      rfl, .inr rfl⟩

end Server

/-! ### What a store on such a server answers -/

theorem decoded_of_read {text : String} {value : Value} (reads : Json.read text = .ok value) :
    decoded (.ok (some text)) = .ok value := by
  show (Json.read text).mapError _ = _
  rw [reads]
  rfl

section Shown

variable {site : Site} {values : Members} {scene : Scene Store}
  (shows : Shows site values scene.world)
include shows

theorem run_get_shown (cards : AreCards values) (name : String) :
    ∃ left, (get name).run scene = (.ok (cardUnder? values name), left) ∧
      Shows site values left.world := by
  obtain ⟨world, notices⟩ := scene
  obtain ⟨asked, reached?, rfl, isReached⟩ := shows
  have decodes : decoded (.ok (Entries.get? (shownAt site.place values)
      (Place.nameOf site.place name))) = .ok (.ofOption (Entries.get? values name)) := by
    unfold shownAt
    rw [Entries.get?_map _ (nameOf_beq site.place)]
    cases found : Entries.get? values name with
    | none => rfl
    | some value =>
      obtain ⟨card, rfl, inRange, _⟩ := cards.exists_card found
      exact decoded_of_read (Card.read_write_toJson inRange)
  obtain ⟨left, ran, stillShows⟩ :
      ∃ left, (Store.get name).run ⟨.shared site.place (serverOf site values asked) reached?,
          notices⟩ = (.ok (.ofOption (Entries.get? values name)), left) ∧
        Shows site values left.world :=
    run_askServer (Store.getFrom name) (fun asked => ⟨_, Prod.ext decodes rfl⟩) asked isReached _
  refine ⟨left, ?_, stillShows⟩
  rw [← cards.cardOf_get? name]
  exact Act.run_bind_ok _ (Act.run_relabel _ ran)

theorem run_set_shown (name : String) (card : Card) :
    ∃ left, (set name card).run scene = (.ok (), left) ∧
      Shows site (Entries.put values name card.toJson) left.world := by
  obtain ⟨world, notices⟩ := scene
  obtain ⟨asked, reached?, rfl, isReached⟩ := shows
  have kept : Entries.put (shownAt site.place values) (Place.nameOf site.place name)
      (card.toJson.write .spaced) = shownAt site.place (Entries.put values name card.toJson) :=
    Entries.put_map (fun value : Value => value.write .spaced) (nameOf_beq site.place) values name
      card.toJson
  obtain ⟨left, ran, stillShows⟩ :
      ∃ left, (Store.set name card.toJson).run
          ⟨.shared site.place (serverOf site values asked) reached?, notices⟩ =
        (.ok true, left) ∧
        Shows site (Entries.put values name card.toJson) left.world := by
    let after (asked : List Command) : Server :=
      (Store.setOn name card.toJson site.place (serverOf site values asked)).2
    refine run_askServer (Store.setOn name card.toJson)
      (fun asked => ⟨(after asked).asked, Prod.ext rfl ?_⟩) asked isReached _
    exact congrArg (fun texts => { after asked with texts }) kept
  exact ⟨_, Act.run_bind_ok _ (Act.run_relabel _ ran), stillShows⟩

theorem run_contains_shown (name : String) :
    ∃ left, (contains name).run scene = (.ok (Entries.has values name), left) ∧
      Shows site values left.world := by
  obtain ⟨world, notices⟩ := scene
  obtain ⟨asked, reached?, rfl, isReached⟩ := shows
  have known : Entries.has (shownAt site.place values) (Place.nameOf site.place name) =
      Entries.has values name := by
    unfold shownAt
    rw [Entries.has_eq_isSome, Entries.has_eq_isSome, Entries.get?_map _ (nameOf_beq site.place),
      Option.isSome_map]
  obtain ⟨left, ran, stillShows⟩ :
      ∃ left, (Store.has name).run ⟨.shared site.place (serverOf site values asked) reached?,
          notices⟩ = (.ok (Entries.has values name), left) ∧
        Shows site values left.world :=
    run_askServer (Store.hasOn name) (fun asked => ⟨_, Prod.ext (congrArg Except.ok known) rfl⟩)
      asked isReached _
  exact ⟨left, Act.run_relabel _ ran, stillShows⟩

/-- The names that are listed for a package are those that the search for it covers. -/
theorem run_keysFrom_shown (package : String) :
    ∃ names left, (ofStore (Store.keysFrom (package ++ mark))).run scene = (.ok names, left) ∧
      Shows site values left.world ∧
      ∀ name, name ∈ names ↔ name ∈ values.map Prod.fst ∧ site.Covers package name := by
  obtain ⟨world, notices⟩ := scene
  obtain ⟨asked, reached?, rfl, isReached⟩ := shows
  let covered := ((shownAt site.place values).map (·.1)).filter
    (site.covers (patternOf (package ++ mark) site.place))
  let names := (site.listed covered).map fun name =>
    String.ofList (name.toList.drop (site.place.space.length + 1))
  obtain ⟨left, ran, stillShows⟩ :
      ∃ left, (Store.keysFrom (package ++ mark)).run
          ⟨.shared site.place (serverOf site values asked) reached?, notices⟩ =
        (.ok names, left) ∧ Shows site values left.world :=
    run_askServer (Store.keysOn (package ++ mark)) (fun asked => ⟨_, rfl⟩) asked isReached _
  refine ⟨names, left, Act.run_relabel _ ran, stillShows, fun name => ?_⟩
  have onServer : (shownAt site.place values).map (·.1) =
      (values.map Prod.fst).map (Place.nameOf site.place) := by
    unfold shownAt
    rw [List.map_map, List.map_map]
    rfl
  simp only [names, covered, onServer, List.mem_map, (site.isOrder _).mem_iff, List.mem_filter]
  constructor
  · rintro ⟨_, ⟨⟨known, member, rfl⟩, isCovered⟩, rfl⟩
    rw [drop_nameOf]
    exact ⟨member, isCovered⟩
  · rintro ⟨member, isCovered⟩
    exact ⟨_, ⟨⟨name, member, rfl⟩, isCovered⟩, drop_nameOf site.place name⟩

/-- A search by package finds what is kept under the names that the search covers. -/
theorem run_findAnyNetwork_shown (cards : AreCards values) (package : String) :
    ∃ names left, (findAnyNetwork (.string package)).run scene =
        (.ok (cardsAmong (cardUnder? values) package names), left) ∧
      Shows site values left.world ∧
      ∀ name, name ∈ names ↔ name ∈ values.map Prod.fst ∧ site.Covers package name := by
  obtain ⟨names, listed, lists, stillShows, mem_names⟩ := run_keysFrom_shown shows package
  obtain ⟨left, ran, showsAtLast⟩ := run_findAnyNetwork_of lists stillShows
    fun name scene shows => run_get_shown shows cards name
  exact ⟨names, left, ran, showsAtLast, mem_names⟩

end Shown

end Cache

end MoveAudit
