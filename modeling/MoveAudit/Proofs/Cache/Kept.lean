/-
This file says what is found in a store in memory. The name of a result gives back its package and
its network, so that no two results share a name, whatever marks a package has. A search by package
alone is a search by names: of the names that the store lists it takes those that are names of
results for the package. A store in memory answers at once and stays as it is; where all that it
keeps are the documents of cards whose scores are in range, everything that is looked up in it is
found as it was kept, be it by its name or by its package. A store of verdicts is one that keeps
sound cards under names of results only.
-/

import MoveAudit.Cache.Results
import MoveAudit.Config.Basic
import MoveAudit.Proofs.Act
import MoveAudit.Proofs.Card.Document
import MoveAudit.Proofs.Entries
import MoveAudit.Proofs.Pool.Moves
import MoveAudit.Proofs.Text.Search

namespace MoveAudit.Cache

open Json

/-! ### Names of results -/

theorem toList_key (package network : String) :
    (key package network).toList = package.toList ++ '@' :: network.toList := by
  simp [key, mark]

/-- The name of a result gives back what it is made of. -/
theorem splitKey_key (package : String) {network : String} (noMark : '@' ∉ network.toList) :
    splitKey (key package network) = (package, network) := by
  have found : Text.lastIndexOf? mark.toList (key package network).toList =
      some package.toList.length := by
    unfold Text.lastIndexOf?
    have turned : (key package network).toList.reverse =
        network.toList.reverse ++ (['@'] ++ package.toList.reverse) := by
      rw [toList_key]
      simp
    rw [turned]
    show (Text.cut? ['@'] _).map _ = _
    rw [Text.cut?_of_notMem _ _ (by simpa using noMark)]
    simp
  unfold splitKey
  rw [found, toList_key]
  simp [mark, show "@".length = 1 from rfl]

theorem noMark_word (network : Network) : '@' ∉ network.word.toList := by
  cases network <;> decide

/-- Results on different packages or networks have different names. -/
theorem key_inj {package other : String} {network otherNetwork : Network}
    (same : key package network.word = key other otherNetwork.word) :
    package = other ∧ network = otherNetwork := by
  have split := congrArg splitKey same
  rw [splitKey_key _ (noMark_word _), splitKey_key _ (noMark_word _)] at split
  refine ⟨(Prod.mk.inj split).1, ?_⟩
  have words := (Prod.mk.inj split).2
  cases network <;> cases otherNetwork <;> first | rfl | exact absurd words (by decide)

/-- A text with a mark in it is the name of a result. -/
theorem exists_key_of_mark {name : String} (isMarked : '@' ∈ name.toList) :
    ∃ package network, '@' ∉ network.toList ∧ name = key package network := by
  obtain ⟨after, before, turned, noMark⟩ :=
    List.eq_append_cons_of_mem (List.mem_reverse.mpr isMarked)
  refine ⟨String.ofList before.reverse, String.ofList after.reverse, ?_, ?_⟩
  · rw [String.toList_ofList]
    exact fun member => noMark (List.mem_reverse.mp member)
  · refine String.toList_injective ?_
    rw [toList_key, String.toList_ofList, String.toList_ofList, ← List.reverse_reverse name.toList,
      turned, List.reverse_append, List.reverse_cons, List.append_assoc]
    rfl

/-! ### Searches by package -/

/-- The names for a package among others, each with its parts. -/
def resultsAmong (package : String) (names : List String) : List (String × String × String) :=
  (names.map fun name => (name, splitKey name)).filter fun (_, found, _) =>
    (Value.string package).text? == some found

/-- The cards for a package with their networks, where it is given what is under each name. -/
def cardsAmong (under : String → Option Card) (package : String) (names : List String) :
    List (String × Card) :=
  Entries.ofList (((resultsAmong package names).map fun (name, _, network) =>
    (under name).map fun card => (network, card)).filterMap id)

theorem mem_resultsAmong {package : String} {names : List String}
    (areMarked : ∀ name ∈ names, '@' ∈ name.toList) {result : String × String × String} :
    result ∈ resultsAmong package names ↔ ∃ network, '@' ∉ network.toList ∧
      result = (key package network, package, network) ∧ key package network ∈ names := by
  unfold resultsAmong
  rw [List.mem_filter, List.mem_map]
  constructor
  · rintro ⟨⟨name, member, rfl⟩, isOwn⟩
    obtain ⟨found, network, noMark, rfl⟩ := exists_key_of_mark (areMarked name member)
    dsimp only at isOwn ⊢
    rw [splitKey_key _ noMark] at isOwn ⊢
    obtain rfl : package = found := Option.some.inj (eq_of_beq isOwn)
    exact ⟨network, noMark, rfl, member⟩
  · rintro ⟨network, noMark, rfl, member⟩
    exact ⟨⟨_, member, by rw [splitKey_key _ noMark]⟩, beq_self_eq_true (some package)⟩

/-- A search finds, for each network, the card under the name of the result if that is listed. -/
theorem mem_cardsAmong (under : String → Option Card) (package : String) {names : List String}
    (areMarked : ∀ name ∈ names, '@' ∈ name.toList) {network : String} {card : Card} :
    (network, card) ∈ cardsAmong under package names ↔ '@' ∉ network.toList ∧
      key package network ∈ names ∧ under (key package network) = some card := by
  have mem_written (network : String) (card : Card) :
      (network, card) ∈ ((resultsAmong package names).map fun (name, _, network) =>
          (under name).map fun card => (network, card)).filterMap id ↔ '@' ∉ network.toList ∧
        key package network ∈ names ∧ under (key package network) = some card := by
    simp only [List.mem_filterMap, List.mem_map, id, exists_eq_right, mem_resultsAmong areMarked]
    constructor
    · rintro ⟨_, ⟨other, noMark, rfl, member⟩, isUnder⟩
      obtain ⟨found, isUnder, same⟩ := Option.map_eq_some_iff.mp isUnder
      cases same
      exact ⟨noMark, member, isUnder⟩
    · rintro ⟨noMark, member, isUnder⟩
      exact ⟨_, ⟨network, noMark, rfl, member⟩, Option.map_eq_some_iff.mpr ⟨card, isUnder, rfl⟩⟩
  unfold cardsAmong
  rw [Entries.mem_ofList_iff, mem_written]
  intro network first second isFirst isSecond
  have underFirst := ((mem_written network first).mp isFirst).2.2
  exact Option.some.inj (underFirst.symm.trans ((mem_written network second).mp isSecond).2.2)

/-- Whatever a store lists and gives, a search takes the cards from what it lists. -/
theorem run_findAnyNetwork_of {condition : Scene Store → Prop} {under : String → Option Card}
    {package : String} {names : List String} {scene listed : Scene Store}
    (lists : (ofStore (Store.keysFrom (package ++ mark))).run scene = (.ok names, listed))
    (isMet : condition listed)
    (gets : ∀ name scene, condition scene →
      ∃ left, (get name).run scene = (.ok (under name), left) ∧ condition left) :
    ∃ left, (findAnyNetwork (.string package)).run scene =
      (.ok (cardsAmong under package names), left) ∧ condition left := by
  have reads (result : String × String × String) (scene : Scene Store) (isMet : condition scene) :
      ∃ left, (get result.1 >>= fun card? =>
          pure (card?.map fun card => (result.2.2, card))).run scene =
        (.ok ((under result.1).map fun card => (result.2.2, card)), left) ∧ condition left := by
    obtain ⟨left, ran, stillMet⟩ := gets result.1 scene isMet
    exact ⟨left, Act.run_bind_ok _ ran, stillMet⟩
  obtain ⟨left, ran, metAtLast⟩ := Act.run_mapM_of reads (resultsAmong package names) isMet
  exact ⟨left, (Act.run_bind_ok _ lists).trans (Act.run_bind_ok _ ran), metAtLast⟩

/-! ### Stores in memory -/

theorem run_set (values : Members) (name : String) (card : Card) (notices : List Notice) :
    (set name card).run ⟨.memory values, notices⟩ = (.ok (),
      ⟨.memory (Entries.put values name card.toJson), notices ++ [setNotice name card]⟩) := rfl

theorem run_get (values : Members) (name : String) (notices : List Notice) :
    (get name).run ⟨.memory values, notices⟩ =
      (cardOf (.ofOption (Entries.get? values name)), ⟨.memory values, notices⟩) := rfl

theorem run_contains (values : Members) (name : String) (notices : List Notice) :
    (contains name).run ⟨.memory values, notices⟩ =
      (.ok (Entries.has values name), ⟨.memory values, notices⟩) := rfl

theorem keeps_get {values : Members} (name : String) :
    (get name).Keeps fun store => store = .memory values := by
  rintro ⟨store, notices⟩ rfl
  rfl

theorem keeps_findAnyNetwork {values : Members} (package : Value) :
    (findAnyNetwork package).Keeps fun store => store = .memory values := by
  have names : (ofStore (Store.keysFrom (package.shown ++ mark))).Keeps
      fun store => store = .memory values := by
    rintro ⟨store, notices⟩ rfl
    rfl
  exact .bind names fun _ => .bind (.mapM _ fun _ => .bind (keeps_get _) fun _ => .pure _)
    fun _ => .pure _

/-- The names in a store in memory that begin as the results for a package do. -/
def namesFor (values : Members) (package : String) : List String :=
  (values.map (·.1)).filter ((package ++ mark).isPrefixOf ·)

theorem mem_namesFor {values : Members} {package name : String} :
    name ∈ namesFor values package ↔
      name ∈ values.map Prod.fst ∧ (package ++ mark).toList <+: name.toList := by
  unfold namesFor
  rw [List.mem_filter]
  exact and_congr_right fun _ => String.startsWith_string_iff

theorem mark_mem_of_namesFor {values : Members} {package name : String}
    (member : name ∈ namesFor values package) : '@' ∈ name.toList := by
  obtain ⟨rest, whole⟩ := (mem_namesFor.mp member).2
  rw [← whole, String.toList_append, List.append_assoc]
  exact List.mem_append_right _ List.mem_cons_self

theorem key_mem_namesFor {values : Members} {package network : String} :
    key package network ∈ namesFor values package ↔
      key package network ∈ values.map Prod.fst := by
  rw [mem_namesFor, and_iff_left]
  rw [key, @String.toList_append _ network]
  exact List.prefix_append _ _

/-! ### Stores of cards -/

/-- The card that is kept under a name. -/
def cardUnder? (values : Members) (name : String) : Option Card :=
  (Entries.get? values name).bind fun value => (cardOf value).toOption.join

/-- The card under a name is the one that is read there. -/
theorem cardUnder?_of_cardOf {values : Members} {name : String} {card? : Option Card}
    (found : cardOf (.ofOption (Entries.get? values name)) = .ok card?) :
    cardUnder? values name = card? := by
  unfold cardUnder?
  cases isKept : Entries.get? values name with
  | none =>
    rw [isKept] at found
    exact Except.ok.inj found
  | some value =>
    rw [isKept] at found
    rw [Option.bind_some, show cardOf value = .ok card? from found]
    rfl

theorem cardOf_of_cardUnder? {values : Members} {name : String} {card : Card}
    (kept : cardUnder? values name = some card) :
    cardOf (.ofOption (Entries.get? values name)) = .ok (some card) := by
  obtain ⟨value, isKept, isCard⟩ := Option.bind_eq_some_iff.mp kept
  rw [isKept]
  show cardOf value = _
  cases read : cardOf value with
  | error fault =>
    rw [read] at isCard
    cases isCard
  | ok card? =>
    rw [read] at isCard
    exact congrArg Except.ok isCard

/-- All that is kept are documents of cards whose scores are in range. -/
def AreCards (values : Members) : Prop :=
  ∀ pair ∈ values, ∃ card : Card, pair.2 = card.toJson ∧ card.IsInRange

theorem cardUnder?_put (values : Members) (name : String) {card : Card}
    (inRange : card.IsInRange) :
    cardUnder? (Entries.put values name card.toJson) name = some card := by
  unfold cardUnder?
  rw [Entries.get?_put_self, Option.bind_some, cardOf_toJson card inRange]
  rfl

theorem cardUnder?_put_of_ne (values : Members) {name asked : String} (value : Value)
    (different : asked ≠ name) :
    cardUnder? (Entries.put values name value) asked = cardUnder? values asked := by
  unfold cardUnder?
  rw [Entries.get?_put_of_ne values value different]

theorem mem_names_of_cardUnder? {values : Members} {name : String} {card : Card}
    (found : cardUnder? values name = some card) : name ∈ values.map Prod.fst := by
  obtain ⟨value, isKept, _⟩ := Option.bind_eq_some_iff.mp found
  exact Entries.mem_names_iff.mpr (Option.isSome_iff_exists.mpr ⟨value, isKept⟩)

namespace AreCards

theorem nil : AreCards [] :=
  fun _ member => nomatch member

variable {values : Members} (cards : AreCards values)
include cards

theorem put (name : String) {card : Card} (inRange : card.IsInRange) :
    AreCards (Entries.put values name card.toJson) := by
  intro pair member
  rcases Entries.mem_put member with rfl | before
  · exact ⟨card, rfl, inRange⟩
  · exact cards pair before

theorem exists_card {name : String} {value : Value}
    (found : Entries.get? values name = some value) :
    ∃ card : Card, value = card.toJson ∧ card.IsInRange ∧ cardUnder? values name = some card := by
  obtain ⟨card, rfl, inRange⟩ := cards _ (Entries.mem_of_get? found)
  refine ⟨card, rfl, inRange, ?_⟩
  unfold cardUnder?
  rw [found, Option.bind_some, cardOf_toJson card inRange]
  rfl

theorem cardOf_get? (name : String) :
    cardOf (.ofOption (Entries.get? values name)) = .ok (cardUnder? values name) := by
  cases found : Entries.get? values name with
  | none =>
    unfold cardUnder?
    rw [found]
    rfl
  | some value =>
    obtain ⟨card, rfl, inRange, isUnder⟩ := cards.exists_card found
    rw [isUnder]
    exact cardOf_toJson card inRange

theorem run_get (name : String) (notices : List Notice) :
    (get name).run ⟨.memory values, notices⟩ =
      (.ok (cardUnder? values name), ⟨.memory values, notices⟩) := by
  rw [Cache.run_get, cards.cardOf_get?]

/-- A search by package finds what is kept under the names that begin with the package. -/
theorem run_findAnyNetwork (package : String) (notices : List Notice) :
    (findAnyNetwork (.string package)).run ⟨.memory values, notices⟩ =
      (.ok (cardsAmong (cardUnder? values) package (namesFor values package)),
        ⟨.memory values, notices⟩) := by
  have lists : (ofStore (Store.keysFrom (package ++ mark))).run ⟨.memory values, notices⟩ =
      (.ok (namesFor values package), ⟨.memory values, notices⟩) := rfl
  have gets (name : String) (scene : Scene Store) (same : ⟨.memory values, notices⟩ = scene) :
      ∃ left, (get name).run scene = (.ok (cardUnder? values name), left) ∧
        ⟨.memory values, notices⟩ = left :=
    ⟨scene, same ▸ cards.run_get name notices, same⟩
  obtain ⟨left, ran, rfl⟩ := run_findAnyNetwork_of lists rfl gets
  exact ran

omit cards in
/-- What is found for a package are the cards that are kept for it, on whatever network. -/
theorem mem_found {package network : String} {card : Card} :
    (network, card) ∈ cardsAmong (cardUnder? values) package (namesFor values package) ↔
      '@' ∉ network.toList ∧ cardUnder? values (key package network) = some card := by
  rw [mem_cardsAmong _ _ fun name => mark_mem_of_namesFor, key_mem_namesFor]
  exact and_congr_right fun _ => and_iff_right_of_imp mem_names_of_cardUnder?

end AreCards

/-! ### Stores of verdicts -/

/-- All that is kept are documents of sound cards under the names of results. -/
def AreVerdicts (values : Members) : Prop :=
  ∀ pair ∈ values, ∃ (package : String) (network : Network) (card : Card),
    pair = (key package network.word, card.toJson) ∧ card.IsSound

namespace AreVerdicts

theorem nil : AreVerdicts [] :=
  fun _ member => nomatch member

variable {values : Members} (verdicts : AreVerdicts values)
include verdicts

theorem areCards : AreCards values := by
  intro pair member
  obtain ⟨package, network, card, rfl, sound⟩ := verdicts pair member
  exact ⟨card, rfl, sound.1⟩

theorem put (package : String) (network : Network) {card : Card} (sound : card.IsSound) :
    AreVerdicts (Entries.put values (key package network.word) card.toJson) := by
  intro pair member
  rcases Entries.mem_put member with isNew | before
  · exact ⟨package, network, card, isNew, sound⟩
  · exact verdicts pair before

theorem exists_card {name : String} {value : Value}
    (found : Entries.get? values name = some value) :
    ∃ card : Card, value = card.toJson ∧ card.IsSound ∧ cardUnder? values name = some card := by
  obtain ⟨package, network, card, same, sound⟩ := verdicts _ (Entries.mem_of_get? found)
  obtain rfl : value = card.toJson := congrArg Prod.snd same
  refine ⟨card, rfl, sound, ?_⟩
  unfold cardUnder?
  rw [found, Option.bind_some, cardOf_toJson card sound.1]
  rfl

theorem isSound {name : String} {card : Card} (found : cardUnder? values name = some card) :
    card.IsSound := by
  obtain ⟨value, isKept, _⟩ := Option.bind_eq_some_iff.mp found
  obtain ⟨_, _, sound, foundToo⟩ := verdicts.exists_card isKept
  rw [found] at foundToo
  cases foundToo
  exact sound

theorem run_get (name : String) (notices : List Notice) :
    (get name).run ⟨.memory values, notices⟩ =
      (.ok (cardUnder? values name), ⟨.memory values, notices⟩) :=
  verdicts.areCards.run_get name notices

/-- The networks of the results for a package are networks. -/
theorem exists_network {package network : String} (noMark : '@' ∉ network.toList)
    (isKept : key package network ∈ values.map Prod.fst) :
    ∃ known : Network, network = known.word := by
  obtain ⟨pair, member, named⟩ := List.mem_map.mp isKept
  obtain ⟨other, known, card, rfl, _⟩ := verdicts pair member
  have split := congrArg splitKey named
  rw [splitKey_key _ (noMark_word known), splitKey_key _ noMark] at split
  exact ⟨known, (Prod.mk.inj split).2.symm⟩

/-- What is found on any network are the cards that are kept for the package. -/
theorem run_findAnyNetwork (package : String) (notices : List Notice) :
    ∃ found : List (String × Card),
      (findAnyNetwork (.string package)).run ⟨.memory values, notices⟩ =
        (.ok found, ⟨.memory values, notices⟩) ∧
      ∀ name card, (name, card) ∈ found ↔ ∃ network : Network, name = network.word ∧
        cardUnder? values (key package network.word) = some card := by
  refine ⟨_, verdicts.areCards.run_findAnyNetwork package notices, fun name card => ?_⟩
  rw [AreCards.mem_found]
  constructor
  · rintro ⟨noMark, found⟩
    obtain ⟨network, rfl⟩ := verdicts.exists_network noMark (mem_names_of_cardUnder? found)
    exact ⟨network, rfl, found⟩
  · rintro ⟨network, rfl, found⟩
    exact ⟨noMark_word network, found⟩

omit verdicts in
/-- What is no text is no package, so nothing is kept for it. -/
theorem run_findAnyNetwork_of_no_text {written : Value} (noText : written.text? = none)
    (notices : List Notice) : (findAnyNetwork written).run ⟨.memory values, notices⟩ =
      (.ok [], ⟨.memory values, notices⟩) := by
  have asked : (ofStore (Store.keysFrom (written.shown ++ mark))).run ⟨.memory values, notices⟩ =
      (.ok ((values.map (·.1)).filter ((written.shown ++ mark).isPrefixOf ·)),
        ⟨.memory values, notices⟩) := rfl
  have none (results : List (String × String × String)) :
      (results.filter fun (_, found, _) => written.text? == some found) = [] := by
    rw [noText]
    exact List.filter_eq_nil_iff.mpr fun _ _ => nofun
  unfold findAnyNetwork
  rw [Act.run_bind_ok _ asked]
  dsimp only
  rw [none]
  rfl

end AreVerdicts

end MoveAudit.Cache
