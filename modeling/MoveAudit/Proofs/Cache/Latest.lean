/-
This file says what a store in memory knows after any number of results were set: of each package
on each network the card that was set last, and nothing else. Names are all that the store goes by.
Since the name of a result tells the package and the network apart, a package never sees what was
set for another one, not even for one that it begins with or that has a mark and a network at its
end.
-/

import MoveAudit.Proofs.Cache.Kept

namespace MoveAudit.Cache

/-- A card to be set for a package on a network; its score is in range. -/
structure Setting where
  package : String
  network : Network
  card : Card
  inRange : card.IsInRange

/-- The name that the card is set under. -/
def Setting.name (setting : Setting) : String :=
  key setting.package setting.network.word

/-- Set cards one after the other. -/
def setAll (settings : List Setting) : Act Store Fault PUnit :=
  settings.forM fun setting => set setting.name setting.card

/-- The card that was set last for a package on a network. -/
def lastSet? (settings : List Setting) (package : String) (network : Network) : Option Card :=
  (settings.reverse.find? fun setting =>
    setting.package == package && setting.network == network).map (·.card)

/-- The card that was set last under a name. -/
def lastUnder? (settings : List Setting) (name : String) : Option Card :=
  (settings.reverse.find? (·.name == name)).map (·.card)

/-! ### Names tell settings apart -/

theorem lastUnder?_key (settings : List Setting) (package : String) (network : Network) :
    lastUnder? settings (key package network.word) = lastSet? settings package network := by
  unfold lastUnder? lastSet?
  congr 2
  funext setting
  rw [Bool.eq_iff_iff, beq_iff_eq, Bool.and_eq_true, beq_iff_eq, beq_iff_eq]
  constructor
  · exact key_inj
  · rintro ⟨rfl, rfl⟩
    rfl

theorem exists_network_of_lastUnder? {settings : List Setting} {package network : String}
    {card : Card} (noMark : '@' ∉ network.toList)
    (isLast : lastUnder? settings (key package network) = some card) :
    ∃ known : Network, network = known.word := by
  obtain ⟨setting, found, _⟩ := Option.map_eq_some_iff.mp isLast
  have named : setting.name = key package network := by
    simpa using List.find?_some found
  have split := congrArg splitKey named
  rw [Setting.name, splitKey_key _ (noMark_word setting.network), splitKey_key _ noMark] at split
  exact ⟨setting.network, (Prod.mk.inj split).2.symm⟩

theorem lastUnder?_cons (setting : Setting) (later : List Setting) (name : String) :
    lastUnder? (setting :: later) name =
      (lastUnder? later name).or (if setting.name = name then some setting.card else none) := by
  unfold lastUnder?
  rw [List.reverse_cons, List.find?_append]
  cases later.reverse.find? (·.name == name) with
  | some last => rfl
  | none =>
    rw [Option.none_or, List.find?_singleton]
    by_cases same : setting.name = name <;> simp [same]

/-! ### What the store knows -/

/-- After cards were set, what is under a name is what was set last, or what was there before. -/
theorem run_setAll (settings : List Setting) {values : Json.Members} (cards : AreCards values)
    (notices : List Notice) : ∃ kept after,
      (setAll settings).run ⟨.memory values, notices⟩ = (.ok PUnit.unit, ⟨.memory kept, after⟩) ∧
      AreCards kept ∧
      ∀ name, cardUnder? kept name = (lastUnder? settings name).or (cardUnder? values name) := by
  induction settings generalizing values notices with
  | nil => exact ⟨values, notices, rfl, cards, fun name => rfl⟩
  | cons setting later inductionHypothesis =>
    obtain ⟨kept, after, ran, keptCards, known⟩ := inductionHypothesis
      (cards.put setting.name setting.inRange) (notices ++ [setNotice setting.name setting.card])
    refine ⟨kept, after, ?_, keptCards, fun name => ?_⟩
    · exact (Act.run_bind_ok _ (run_set values setting.name setting.card notices)).trans ran
    · rw [known, lastUnder?_cons, Option.or_assoc]
      by_cases same : setting.name = name
      · rw [if_pos same, ← same, cardUnder?_put values _ setting.inRange, Option.some_or]
      · rw [if_neg same, Option.none_or, cardUnder?_put_of_ne values _ fun equal => same equal.symm]

/-- Whatever results were set in a store in memory, the result for a package on a network is the
card that was set last for just these two, and what is found for a package is, once for each network
that a card was set for, the card that was set last. Looking up leaves the store as it is. -/
theorem found_as_last_set (settings : List Setting) :
    ∃ left, (setAll settings).run ⟨.empty, []⟩ = (.ok PUnit.unit, left) ∧
      ∀ package : String,
        (∀ network : Network, (get (key package network.word)).run left =
          (.ok (lastSet? settings package network), left)) ∧
        ∃ found, (findAnyNetwork (.string package)).run left = (.ok found, left) ∧
          (found.map Prod.fst).Nodup ∧
          ∀ name card, (name, card) ∈ found ↔ ∃ network : Network,
            name = network.word ∧ lastSet? settings package network = some card := by
  obtain ⟨kept, after, ran, cards, known⟩ := run_setAll settings .nil []
  have isLast (name : String) : cardUnder? kept name = lastUnder? settings name :=
    (known name).trans Option.or_none
  refine ⟨_, ran, fun package => ⟨fun network => ?_, _, cards.run_findAnyNetwork package after,
    Entries.nodup_ofList _, fun name card => ?_⟩⟩
  · rw [cards.run_get, isLast, lastUnder?_key]
  · rw [AreCards.mem_found, isLast]
    constructor
    · rintro ⟨noMark, isSet⟩
      obtain ⟨network, rfl⟩ := exists_network_of_lastUnder? noMark isSet
      exact ⟨network, rfl, (lastUnder?_key settings package network).symm.trans isSet⟩
    · rintro ⟨network, rfl, isSet⟩
      exact ⟨noMark_word network, (lastUnder?_key settings package network).trans isSet⟩

end MoveAudit.Cache
