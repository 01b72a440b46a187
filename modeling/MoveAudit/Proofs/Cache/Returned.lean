/-
This file says that a card comes back from a shared store as it was. The store hands the text of the
card's document to its server, and what the server returns is read as a document and checked as a
card again. The text gives back the document, and the document gives back the card, so all that is
needed is that the server returns the text it was given. That may happen much later, and in another
process: only the name space of the two stores has to be the same.
-/

import MoveAudit.Proofs.Cache.Shared

namespace MoveAudit.Cache

open Json
open Store (Place.nameOf Place.seconds? decoded)

/-- The text that a card is kept as. -/
def textOf (card : Card) : String :=
  card.toJson.write .spaced

/-- A server returns a text when it is asked for what it has under a name. -/
def Server.Returns (server : Server) (name text : String) : Prop :=
  (server.get name).1 = .ok (some text)

/-- The word for the command that keeps a text: that depends on whether texts expire. -/
def keepingWord (place : Place) : String :=
  if (Place.seconds? place).isSome then "setex" else "set"

/-! ### What a server that is reached does -/

section Server

variable {place : Place} {server : Server} {reached? : Option (Except String Unit)}

theorem refusals_reachedServer : (reachedServer server reached?).refusals = server.refusals := by
  cases reached? with
  | some outcome => rfl
  | none =>
    unfold reachedServer Server.ping Server.carryOut
    dsimp only
    split <;> rfl

theorem texts_reachedServer : (reachedServer server reached?).texts = server.texts := by
  cases reached? with
  | some outcome => rfl
  | none =>
    unfold reachedServer Server.ping Server.carryOut
    dsimp only
    split <;> rfl

/-- A command that is carried out gives its result. -/
theorem carryOut_of_carriesOut {Result : Type} {command : Command}
    (carriesOut : server.CarriesOut command.word) (work : Server → Result × Server) :
    Server.carryOut command work server =
      (.ok (work { server with asked := server.asked ++ [command] }).1,
        (work { server with asked := server.asked ++ [command] }).2) := by
  unfold Server.carryOut
  dsimp only
  rw [show Entries.get? server.refusals command.word = none from carriesOut]

theorem returns_iff {name text : String} : server.Returns name text ↔
    server.CarriesOut (Command.get name).word ∧ Entries.get? server.texts name = some text := by
  unfold Server.Returns Server.get Server.carryOut Server.CarriesOut
  dsimp only
  split
  · next refused => simp [refused]
  · next carriedOut => simp [carriedOut]

theorem carriesOut_reachedServer {word : String} :
    (reachedServer server reached?).CarriesOut word ↔ server.CarriesOut word := by
  rw [Server.CarriesOut, Server.CarriesOut, refusals_reachedServer]

theorem returns_reachedServer {name text : String} :
    (reachedServer server reached?).Returns name text ↔ server.Returns name text := by
  rw [returns_iff, returns_iff, carriesOut_reachedServer, texts_reachedServer]

/-- A server that keeps a text has it from then on. -/
theorem exists_set {name text : String} {seconds? : Option Int}
    (keeps : server.CarriesOut (if seconds?.isSome then "setex" else "set")) :
    ∃ left : Server, server.set name text seconds? = (.ok (), left) ∧
      left.refusals = server.refusals ∧ left.texts = Entries.put server.texts name text := by
  cases seconds? with
  | none => exact ⟨_, carryOut_of_carriesOut keeps _, rfl, rfl⟩
  | some seconds => exact ⟨_, carryOut_of_carriesOut keeps _, rfl, rfl⟩

/-- A server that keeps a text and gives out what it has returns the text. -/
theorem exists_setOn (keeps : server.CarriesOut (keepingWord place))
    (gives : server.CarriesOut (Command.get "").word) (name : String) (value : Value) :
    ∃ left, Store.setOn name value place server = (.ok true, left) ∧
      left.Returns (Place.nameOf place name) (value.write .spaced) := by
  obtain ⟨left, set, sameRefusals, hasText⟩ :=
    @exists_set server (Place.nameOf place name) (value.write .spaced) _ keeps
  refine ⟨left, ?_, returns_iff.mpr ⟨?_, ?_⟩⟩
  · unfold Store.setOn
    rw [set]
    rfl
  · rwa [Server.CarriesOut, sameRefusals]
  · rw [hasText]
    exact Entries.get?_put_self _ _ _

end Server

/-! ### Cards on a server -/

section Cards

variable {card : Card} (inRange : card.IsInRange)
include inRange

theorem read_textOf : Json.read (textOf card) = .ok card.toJson :=
  Card.read_write_toJson inRange

/-- A store whose server returns the text of a card finds the card. -/
theorem run_get_of_returns {place : Place} {server : Server}
    {reached? : Option (Except String Unit)} (isReached : IsReached server reached?) {name : String}
    (returns : server.Returns (Place.nameOf place name) (textOf card)) (notices : List Notice) :
    ∃ left, (get name).run ⟨.shared place server reached?, notices⟩ =
      (.ok (some card), ⟨.shared place left (some (.ok ())), notices⟩) := by
  have answers : Store.getFrom name place (reachedServer server reached?) =
      (.ok card.toJson,
        ((reachedServer server reached?).get (Place.nameOf place name)).2) := by
    unfold Store.getFrom
    dsimp only
    rw [show ((reachedServer server reached?).get _).1 = _ from returns_reachedServer.mpr returns,
      decoded_of_read (read_textOf inRange)]
  have ran : (Store.get name).run ⟨.shared place server reached?, notices⟩ =
      (.ok card.toJson, ⟨.shared place
        ((reachedServer server reached?).get (Place.nameOf place name)).2 (some (.ok ())),
        notices⟩) :=
    run_askServer_of_reached isReached answers ⟨.shared place server reached?, notices⟩
  refine ⟨((reachedServer server reached?).get (Place.nameOf place name)).2, ?_⟩
  rw [← cardOf_toJson card inRange]
  exact Act.run_bind_ok _ (Act.run_relabel _ ran)

/-- The text of a card gives back its document, and the document the card. So a card that is kept on
a server is found as it was, by the store that has kept it and by any other one in the same name
space, as long as the server returns the text that it was given. -/
theorem kept_card_comes_back :
    (∃ document, Json.read (textOf card) = .ok document ∧ Card.check document = .ok card) ∧
    ∀ (place : Place) (server : Server) (reached? : Option (Except String Unit)) (name : String)
      (notices : List Notice), IsReached server reached? →
      server.CarriesOut (keepingWord place) → server.CarriesOut (Command.get name).word →
      ∃ kept left,
        (ofStore (Store.set name card.toJson)).run ⟨.shared place server reached?, notices⟩ =
          (.ok true, ⟨.shared place kept (some (.ok ())), notices⟩) ∧
        (get name).run ⟨.shared place kept (some (.ok ())), notices⟩ =
          (.ok (some card), ⟨.shared place left (some (.ok ())), notices⟩) ∧
        ∀ (other : Place) (later : Server) (found? : Option (Except String Unit))
          (others : List Notice), other.space = place.space → IsReached later found? →
          (later.get (Place.nameOf other name)).1 = (kept.get (Place.nameOf place name)).1 →
          ∃ last, (get name).run ⟨.shared other later found?, others⟩ =
            (.ok (some card), ⟨.shared other last (some (.ok ())), others⟩) := by
  refine ⟨⟨card.toJson, read_textOf inRange, card.check_toJson inRange⟩, ?_⟩
  intro place server reached? name notices isReached keeps gives
  obtain ⟨kept, answers, returns⟩ := exists_setOn (carriesOut_reachedServer.mpr keeps)
    (carriesOut_reachedServer.mpr gives) name card.toJson
  have ran : (Store.set name card.toJson).run ⟨.shared place server reached?, notices⟩ =
      (.ok true, ⟨.shared place kept (some (.ok ())), notices⟩) :=
    run_askServer_of_reached isReached answers ⟨.shared place server reached?, notices⟩
  have isThere : IsReached kept (some (.ok ())) := rfl
  obtain ⟨left, found⟩ := run_get_of_returns inRange isThere returns notices
  refine ⟨kept, left, Act.run_relabel _ ran, found, ?_⟩
  intro other later found? others sameSpace isFound same
  exact run_get_of_returns inRange isFound (same.trans returns) others

end Cards

/-- A card with quotes, a line break, characters beyond ASCII and a level that is not the one of its
score. -/
def quotedCard : Card :=
  { summary := "It \"drains\" the vault.\n資金 \\ \x01"
    riskyFunctions := [⟨"vault::drain", "no capability"⟩, ⟨"", ""⟩]
    indicators := [⟨"drain", "call \"drain\""⟩]
    score := 100
    level := .low }

/-- A server that is looked for first, and is to forget texts after a minute, gives the card back. -/
theorem quoted_card_comes_back :
    let place : Place := { lifetime? := some 60 }
    quotedCard.IsInRange ∧ IsReached {} none ∧ Server.CarriesOut {} (keepingWord place) ∧
      Server.CarriesOut {} (Command.get "0xabc@mainnet").word ∧
      ∃ kept left,
        (ofStore (Store.set "0xabc@mainnet" quotedCard.toJson)).run ⟨.shared place {} none, []⟩ =
          (.ok true, ⟨.shared place kept (some (.ok ())), []⟩) ∧
        (get "0xabc@mainnet").run ⟨.shared place kept (some (.ok ())), []⟩ =
          (.ok (some quotedCard), ⟨.shared place left (some (.ok ())), []⟩) := by
  intro place
  have inRange : quotedCard.IsInRange := ⟨by decide, by decide⟩
  have isReached : IsReached {} none := rfl
  have keeps : Server.CarriesOut {} (keepingWord place) := rfl
  have gives : Server.CarriesOut {} (Command.get "0xabc@mainnet").word := rfl
  obtain ⟨kept, left, set, found, -⟩ := (kept_card_comes_back inRange).2 place {} none
    "0xabc@mainnet" [] isReached keeps gives
  exact ⟨inRange, isReached, keeps, gives, kept, left, set, found⟩

end MoveAudit.Cache
