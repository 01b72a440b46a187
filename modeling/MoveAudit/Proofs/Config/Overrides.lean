/-
This file says what overrides make of the configuration that the environment gives. An override is
meant for a setting, and one that names no setting is meant to be refused. But overrides are refused
by what a configuration answers to, and it answers to more than its settings: a value under such a
name takes the place of what stands there, and nothing is said. So overrides do what their names say
exactly when the first one that is no setting, of those that a configuration does not answer to
either, comes to be refused, if there is any that is no setting.
-/

import Mathlib.Data.List.Induction
import MoveAudit.Config.Environment
import MoveAudit.Proofs.Act
import MoveAudit.Proofs.Entries

namespace MoveAudit

open Json

namespace Setting

theorem mem_all (setting : Setting) : setting ∈ all := by
  cases setting <;> decide

theorem ofWord?_word (setting : Setting) : ofWord? setting.word = some setting := by
  cases setting <;> rfl

theorem word_of_ofWord? {name : String} {setting : Setting}
    (isOne : ofWord? name = some setting) : setting.word = name := by
  have same := List.find?_some isOne
  exact beq_iff_eq.mp same

theorem ofWord?_eq_none_iff {name : String} :
    ofWord? name = none ↔ ∀ setting : Setting, setting.word ≠ name := by
  constructor
  · rintro isNone setting rfl
    rw [ofWord?_word] at isNone
    cases isNone
  · intro isOther
    refine Option.eq_none_iff_forall_ne_some.mpr fun setting isOne => ?_
    exact isOther setting (word_of_ofWord? isOne)

theorem word_injective : Function.Injective word := fun one other same => by
  have isOne := ofWord?_word one
  rw [same, ofWord?_word] at isOne
  exact (Option.some.inj isOne).symm

end Setting

namespace Config

/-! ### Values under names -/

theorem value_set_self (setting : Setting) (value : Value) (config : Config) :
    (config.set setting value).value setting = value := by
  unfold Config.value set
  rw [Entries.get?_put_self, Option.getD_some]

theorem value_set_of_ne {setting asked : Setting} (value : Value) (config : Config)
    (different : asked ≠ setting) : (config.set setting value).value asked = config.value asked := by
  unfold Config.value set
  rw [Entries.get?_put_of_ne _ _ (Setting.word_injective.ne different)]

/-- What stands under names that are no settings does not change with a setting. -/
theorem replaced_set (setting : Setting) (value : Value) (config : Config) :
    (config.set setting value).replaced = config.replaced := by
  have isOut : (Setting.ofWord? setting.word).isNone = false := by
    rw [Setting.ofWord?_word, Option.isNone_some]
  exact Entries.filter_put_of_neg (fun name => (Setting.ofWord? name).isNone) isOut _ _

/-! ### Overrides by their names -/

/-- Whether an override has a value and is no setting. -/
def isStray (member : String × Value) : Bool :=
  !member.2.isNull && (Setting.ofWord? member.1).isNone

/-- The overrides that have a value and are no setting. -/
def strays (overrides : Members) : Members :=
  overrides.filter isStray

/-- Overrides do what their names say. They are refused exactly when one of them has a value and is
no setting. If there is none, the configuration has every value that is given to a setting, and all
else is as it was. -/
structure ActsAsNamed (config : Config) (overrides : Members) : Prop where
  refused : (∃ fault, config.overrideAll overrides = .error fault ∧ fault.isMisplaced = true) ↔
    ∃ name value, (name, value) ∈ overrides ∧ value.isNull = false ∧
      ∀ setting : Setting, setting.word ≠ name
  taken : (∀ name value, (name, value) ∈ overrides → value.isNull = false →
      ∃ setting : Setting, setting.word = name) →
    ∃ later, config.overrideAll overrides = .ok later ∧ later.replaced = config.replaced ∧
      ∀ setting, later.value setting =
        ((Entries.get? overrides setting.word).filter (!·.isNull)).getD (config.value setting)

/-- Overrides that are no settings are told apart from settings: by a name that is given twice, or
since one of them is under a name that a configuration does not answer to, and the first such is not
one that can only be read. The name that would be given twice is not given without them. -/
structure AreToldApart (overrides : Members) : Prop where
  alone : strays overrides = [] → Entries.has overrides ownName = false
  beside : strays overrides ≠ [] → Entries.has overrides ownName = true ∨
    ∃ name value, (strays overrides).find? (fun stray => !({} : Config).answersTo stray.1) =
      some (name, value) ∧ name ≠ "__weakref__"

theorem isStray_of_null {member : String × Value} (hasNone : member.2.isNull = true) :
    ¬ isStray member = true := by
  simp [isStray, hasNone]

theorem isStray_of_setting (setting : Setting) (value : Value) :
    ¬ isStray (setting.word, value) = true := by
  simp [isStray, Setting.ofWord?_word]

theorem strays_ne_nil_iff {overrides : Members} : strays overrides ≠ [] ↔
    ∃ name value, (name, value) ∈ overrides ∧ value.isNull = false ∧
      ∀ setting : Setting, setting.word ≠ name := by
  unfold strays
  rw [Ne, List.filter_eq_nil_iff]
  simp only [isStray, Bool.and_eq_true, Bool.not_eq_true', Option.isNone_iff_eq_none,
    Setting.ofWord?_eq_none_iff, Prod.forall, not_forall, not_not, exists_prop]

/-! ### What the environment gives -/

theorem ofValues_concat (values : List (Setting × Value)) (last : Setting × Value) :
    ofValues (values ++ [last]) = (ofValues values).set last.1 last.2 := by
  unfold ofValues
  rw [List.foldl_concat]

theorem replaced_ofValues (values : List (Setting × Value)) : (ofValues values).replaced = [] := by
  induction values using List.reverseRecOn with
  | nil => decide
  | append_singleton before last inductionHypothesis =>
    rw [ofValues_concat, replaced_set]
    exact inductionHypothesis

/-- Values for settings leave the names of the state as they are. -/
theorem names_ofValues (values : List (Setting × Value)) :
    (ofValues values).state.map Prod.fst = Setting.all.map Setting.word := by
  induction values using List.reverseRecOn with
  | nil => rfl
  | append_singleton before last inductionHypothesis =>
    rw [ofValues_concat, set, Entries.names_put_of_mem ?_ last.2]
    · exact inductionHypothesis
    · rw [inductionHypothesis]
      exact List.mem_map_of_mem last.1.mem_all

/-- A configuration has one of the values that are given for a setting. -/
theorem mem_ofValues {values : List (Setting × Value)} {setting : Setting}
    (isGiven : setting ∈ values.map Prod.fst) :
    (setting, (ofValues values).value setting) ∈ values := by
  induction values using List.reverseRecOn with
  | nil => cases isGiven
  | append_singleton before last inductionHypothesis =>
    rw [ofValues_concat]
    by_cases same : setting = last.1
    · rw [same, value_set_self]
      exact List.mem_append_right _ (List.mem_singleton_self _)
    · rw [value_set_of_ne _ _ same]
      rw [List.map_append, List.mem_append, List.map_singleton, List.mem_singleton] at isGiven
      exact List.mem_append_left _ (inductionHypothesis (isGiven.resolve_right same))

section Environment

variable {environment : Environment} {config : Config}
  (isOk : ofEnvironment environment = .ok config)
include isOk

theorem exists_ofValues_of_ofEnvironment : ∃ values, config = ofValues values ∧
    values.map Prod.fst = Setting.all ∧
    ∀ pair ∈ values, fromEnvironment environment pair.1 = .ok pair.2 := by
  obtain ⟨values, areRead, isOk⟩ := ok_of_bind isOk
  have areGiven : List.Forall₂ (fun (pair : Setting × Value) setting =>
      fromEnvironment environment pair.1 = .ok pair.2 ∧ pair.1 = setting) values Setting.all := by
    refine ((forall₂_of_mapM areRead).imp fun setting pair isRead => ?_).flip
    obtain ⟨value, isValue, isPair⟩ := ok_of_bind isRead
    cases isPair
    exact ⟨isValue, rfl⟩
  obtain ⟨areRead, named⟩ := (List.forall₂_and_left _ _).mp areGiven
  rw [← List.forall₂_map_left_iff, List.forall₂_eq_eq_eq] at named
  exact ⟨values, (Except.ok.inj isOk).symm, named, areRead⟩

/-- The value of each setting is what the environment says of it. -/
theorem value_ofEnvironment (setting : Setting) :
    fromEnvironment environment setting = .ok (config.value setting) := by
  obtain ⟨values, rfl, named, areRead⟩ := exists_ofValues_of_ofEnvironment isOk
  exact areRead _ (mem_ofValues (named ▸ setting.mem_all))

/-- An environment puts nothing in the place of what a configuration has anyway. -/
theorem replaced_ofEnvironment : config.replaced = [] := by
  obtain ⟨values, rfl, _, _⟩ := exists_ofValues_of_ofEnvironment isOk
  exact replaced_ofValues values

end Environment

/-! ### One override -/

/-- A configuration whose state is still its own: it answers to what every configuration answers
to. -/
def IsWhole (config : Config) : Prop :=
  ∀ name, config.answersTo name = ({} : Config).answersTo name

theorem isWhole_ofEnvironment {environment : Environment} {config : Config}
    (isOk : ofEnvironment environment = .ok config) : config.IsWhole := by
  obtain ⟨values, rfl, _, _⟩ := exists_ofValues_of_ofEnvironment isOk
  intro name
  unfold answersTo
  rw [Entries.has_eq_decide, Entries.has_eq_decide, names_ofValues]
  rfl

theorem answersTo_word (setting : Setting) : ({} : Config).answersTo setting.word = true := by
  unfold answersTo
  rw [Entries.has_eq_decide, Bool.or_eq_true, decide_eq_true_iff]
  exact .inr (List.mem_map.mpr ⟨_, List.mem_map_of_mem setting.mem_all, rfl⟩)

namespace IsWhole

variable {config : Config} (whole : config.IsWhole)
include whole

/-- A value under a name that is answered to leaves the configuration whole. -/
theorem put {name : String} (isAnswered : ({} : Config).answersTo name = true) (value : Value) :
    (⟨Entries.put config.state name value⟩ : Config).IsWhole := by
  intro asked
  rw [← whole]
  by_cases same : asked = name
  · have first : config.answersTo name = true := (whole name).trans isAnswered
    rw [same, first]
    unfold answersTo
    rw [Entries.has_eq_isSome, Entries.get?_put_self, Option.isSome_some, Bool.or_true]
  · unfold answersTo
    rw [Entries.has_eq_isSome, Entries.has_eq_isSome, Entries.get?_put_of_ne _ _ same]

theorem set (setting : Setting) (value : Value) : (config.set setting value).IsWhole :=
  whole.put (answersTo_word setting) value

/-- What a configuration does not answer to is refused as misplaced, but for what can only be
read. -/
theorem refusal?_eq (name : String) (value : Value) :
    (({} : Config).answersTo name = true ∧ config.refusal? name value = none) ∨
      ∃ fault, ({} : Config).answersTo name = false ∧ config.refusal? name value = some fault ∧
        (fault.isMisplaced = true ↔ name ≠ "__weakref__") := by
  unfold refusal?
  split
  · next same => exact .inr ⟨_, same ▸ rfl, rfl, by simp [same, Fault.isMisplaced]⟩
  split
  · next same => exact .inr ⟨_, same ▸ rfl, rfl, by simp [same, Fault.isMisplaced]⟩
  split
  · next same => exact .inr ⟨_, same ▸ rfl, rfl, by simp [same, Fault.isMisplaced]⟩
  next isOther =>
  rw [whole]
  split
  · next isAnswered => exact .inl ⟨isAnswered, rfl⟩
  · next isNot =>
    exact .inr ⟨_, Bool.eq_false_iff.mpr isNot, rfl, iff_of_true rfl isOther⟩

omit whole in
theorem override_eq {name : String} {value : Value} (hasValue : value.isNull = false)
    (noState : ∀ members, (name, value) ≠ ("__dict__", .object members)) :
    config.override (name, value) =
      match config.refusal? name value with
      | some fault => .error fault
      | none => .ok ⟨Entries.put config.state name value⟩ := by
  unfold override
  split
  · next same =>
    rw [(Prod.mk.inj same).2] at hasValue
    cases hasValue
  · next members same => exact absurd same (noState members)
  · next same =>
    obtain ⟨rfl, rfl⟩ := Prod.mk.inj same
    rfl

/-- All that an override can come to: it has no value, it is a setting, or it is under another name
that is answered to or not. -/
theorem override_cases {name : String} {value : Value}
    (noState : ∀ members, (name, value) ≠ ("__dict__", .object members)) :
    (value.isNull = true ∧ config.override (name, value) = .ok config) ∨
    (∃ setting : Setting, value.isNull = false ∧ setting.word = name ∧
      config.override (name, value) = .ok (config.set setting value)) ∨
    (isStray (name, value) = true ∧ ({} : Config).answersTo name = true ∧
      config.override (name, value) = .ok ⟨Entries.put config.state name value⟩) ∨
    ∃ fault, isStray (name, value) = true ∧ ({} : Config).answersTo name = false ∧
      config.override (name, value) = .error fault ∧
      (fault.isMisplaced = true ↔ name ≠ "__weakref__") := by
  cases hasValue : value.isNull with
  | true =>
    cases value <;> cases hasValue
    exact .inl ⟨rfl, rfl⟩
  | false =>
    rw [override_eq hasValue noState]
    cases isOne : Setting.ofWord? name with
    | some setting =>
      obtain rfl := Setting.word_of_ofWord? isOne
      rcases whole.refusal?_eq setting.word value with ⟨_, isNone⟩ | ⟨_, isNot, _⟩
      · rw [isNone]
        exact .inr (.inl ⟨setting, rfl, rfl, rfl⟩)
      · rw [answersTo_word] at isNot
        cases isNot
    | none =>
      have stray : isStray (name, value) = true := by simp [isStray, hasValue, isOne]
      rcases whole.refusal?_eq name value with ⟨isAnswered, isNone⟩ | ⟨fault, isNot, isFault, kind⟩
      · rw [isNone]
        exact .inr (.inr (.inl ⟨stray, isAnswered, rfl⟩))
      · rw [isFault]
        exact .inr (.inr (.inr ⟨fault, stray, isNot, rfl, kind⟩))

end IsWhole

/-! ### One override after the other -/

/-- Overrides come to something as long as there is none that a configuration does not answer to,
and else to the fault of the first such. -/
theorem foldlM_override {config : Config} (whole : config.IsWhole) {overrides : Members}
    (noState : ∀ members, ("__dict__", .object members) ∉ overrides) :
    match (strays overrides).find? (fun stray => !({} : Config).answersTo stray.1) with
    | none => ∃ later, overrides.foldlM override config = .ok later
    | some (name, _) => ∃ fault, overrides.foldlM override config = .error fault ∧
        (fault.isMisplaced = true ↔ name ≠ "__weakref__") := by
  induction overrides generalizing config with
  | nil => exact ⟨config, rfl⟩
  | cons member rest inductionHypothesis =>
    obtain ⟨name, value⟩ := member
    have restNoState (members : Members) : ("__dict__", .object members) ∉ rest :=
      fun among => noState members (List.mem_cons_of_mem _ among)
    have isNoState (members : Members) : (name, value) ≠ ("__dict__", .object members) :=
      fun same => noState members (same ▸ List.mem_cons_self)
    unfold strays
    rw [List.foldlM_cons]
    rcases whole.override_cases isNoState with ⟨hasNone, came⟩ | ⟨setting, hasValue, named, came⟩ |
      ⟨stray, isAnswered, came⟩ | ⟨fault, stray, isNot, came, kind⟩
    · rw [List.filter_cons_of_neg (isStray_of_null hasNone), came]
      exact inductionHypothesis whole restNoState
    · rw [← named, List.filter_cons_of_neg (isStray_of_setting setting value), named, came]
      exact inductionHypothesis (whole.set setting value) restNoState
    · rw [List.filter_cons_of_pos stray, List.find?_cons_of_neg (by simp [isAnswered]), came]
      exact inductionHypothesis (whole.put isAnswered value) restNoState
    · rw [List.filter_cons_of_pos stray, List.find?_cons_of_pos (by simp [isNot]), came]
      exact ⟨fault, rfl, kind⟩

/-- Settings take the values that they are given, and all else stays. -/
theorem taken_of_no_strays {config : Config} (whole : config.IsWhole) {overrides : Members}
    (noState : ∀ members, ("__dict__", .object members) ∉ overrides)
    (differ : (overrides.map Prod.fst).Nodup) (noStrays : strays overrides = []) :
    ∃ later, overrides.foldlM override config = .ok later ∧ later.replaced = config.replaced ∧
      ∀ setting, later.value setting =
        ((Entries.get? overrides setting.word).filter (!·.isNull)).getD (config.value setting) := by
  induction overrides generalizing config with
  | nil => exact ⟨config, rfl, rfl, fun _ => rfl⟩
  | cons member rest inductionHypothesis =>
    obtain ⟨name, value⟩ := member
    obtain ⟨isNew, restDiffers⟩ := List.nodup_cons.mp differ
    have restNoState (members : Members) : ("__dict__", .object members) ∉ rest :=
      fun among => noState members (List.mem_cons_of_mem _ among)
    have isNoState (members : Members) : (name, value) ≠ ("__dict__", .object members) :=
      fun same => noState members (same ▸ List.mem_cons_self)
    have absent : Entries.get? rest name = none := Entries.get?_eq_none_iff.mpr isNew
    unfold strays at noStrays
    rw [List.foldlM_cons]
    rcases whole.override_cases isNoState with ⟨hasNone, came⟩ | ⟨setting, hasValue, named, came⟩ |
      ⟨stray, _⟩ | ⟨_, stray, _⟩
    · rw [List.filter_cons_of_neg (isStray_of_null hasNone)] at noStrays
      obtain ⟨later, isLater, replaced, values⟩ :=
        inductionHypothesis whole restNoState restDiffers noStrays
      rw [came]
      refine ⟨later, isLater, replaced, fun asked => ?_⟩
      rw [values, Entries.get?_cons]
      split
      · next same =>
        rw [← eq_of_beq same, absent, Option.filter_some, hasNone]
        rfl
      · rfl
    · obtain rfl := named
      rw [List.filter_cons_of_neg (isStray_of_setting setting value)] at noStrays
      obtain ⟨later, isLater, replaced, values⟩ :=
        inductionHypothesis (whole.set setting value) restNoState restDiffers noStrays
      rw [came]
      refine ⟨later, isLater, replaced.trans (replaced_set setting value config), fun asked => ?_⟩
      rw [values, Entries.get?_cons]
      split
      · next same =>
        obtain rfl := Setting.word_injective (eq_of_beq same)
        rw [absent, Option.filter_some, hasValue]
        exact value_set_self _ _ _
      · next differs =>
        rw [value_set_of_ne]
        exact fun same => differs (beq_iff_eq.mpr (congrArg Setting.word same.symm))
    · rw [List.filter_cons_of_pos stray] at noStrays
      cases noStrays
    · rw [List.filter_cons_of_pos stray] at noStrays
      cases noStrays

/-- Where something is no setting, to do what names say is to be refused. -/
theorem actsAsNamed_of_strays {config : Config} {overrides : Members}
    (areStrays : strays overrides ≠ []) : config.ActsAsNamed overrides ↔
      ∃ fault, config.overrideAll overrides = .error fault ∧ fault.isMisplaced = true := by
  have isStray := strays_ne_nil_iff.mp areStrays
  refine ⟨fun acts => acts.refused.mpr isStray,
    fun isRefused => ⟨iff_of_true isRefused isStray, fun areOwn => ?_⟩⟩
  obtain ⟨name, value, among, hasValue, isOther⟩ := isStray
  obtain ⟨setting, named⟩ := areOwn name value among hasValue
  exact absurd named (isOther setting)

section Whole

variable {config : Config} (whole : config.IsWhole) {overrides : Members}
  (noState : ∀ members, ("__dict__", .object members) ∉ overrides)
include whole noState

/-- Settings alone do what their names say unless a name is given twice. -/
theorem actsAsNamed_of_no_strays (differ : (overrides.map Prod.fst).Nodup)
    (noStrays : strays overrides = []) :
    config.ActsAsNamed overrides ↔ Entries.has overrides ownName = false := by
  constructor
  · intro acts
    refine Bool.eq_false_iff.mpr fun isOwn => ?_
    have isStray := acts.refused.mp ⟨_, if_pos isOwn, rfl⟩
    exact strays_ne_nil_iff.mpr isStray noStrays
  · intro isNot
    obtain ⟨later, came, kept⟩ := taken_of_no_strays whole noState differ noStrays
    have all : config.overrideAll overrides = .ok later :=
      (if_neg (Bool.eq_false_iff.mp isNot)).trans came
    refine ⟨iff_of_false ?_ fun isStray => strays_ne_nil_iff.mpr isStray noStrays,
      fun _ => ⟨later, all, kept⟩⟩
    rintro ⟨fault, isError, _⟩
    rw [all] at isError
    cases isError

/-- Overrides are refused as misplaced exactly for a name that is given twice, or for the first one
that a configuration does not answer to, if that is not one that can only be read. -/
theorem isRefused_iff : (∃ fault, config.overrideAll overrides = .error fault ∧
      fault.isMisplaced = true) ↔
    Entries.has overrides ownName = true ∨
      ∃ name value, (strays overrides).find? (fun stray => !({} : Config).answersTo stray.1) =
        some (name, value) ∧ name ≠ "__weakref__" := by
  by_cases isOwn : Entries.has overrides ownName = true
  · exact iff_of_true ⟨_, if_pos isOwn, rfl⟩ (.inl isOwn)
  rw [or_iff_right isOwn, overrideAll, if_neg isOwn]
  have came := foldlM_override whole noState
  split at came
  · next isNone =>
    obtain ⟨later, came⟩ := came
    rw [came, isNone]
    refine iff_of_false ?_ ?_
    · rintro ⟨fault, isError, _⟩
      cases isError
    · rintro ⟨name, value, isFirst, _⟩
      cases isFirst
  · next name value isFirst =>
    obtain ⟨fault, came, kind⟩ := came
    rw [came, isFirst]
    constructor
    · rintro ⟨other, same, isMisplaced⟩
      cases same
      exact ⟨name, value, rfl, kind.mp isMisplaced⟩
    · rintro ⟨other, otherValue, same, isOther⟩
      cases same
      exact ⟨fault, rfl, kind.mpr isOther⟩

end Whole

/-- Whatever the environment gives, overrides do what their names say exactly when those that are no
settings are told apart from settings, as long as nobody gives members in place of the whole
state. -/
theorem actsAsNamed_iff {environment : Environment} {config : Config} {overrides : Members}
    (isOk : ofEnvironment environment = .ok config) (differ : (overrides.map Prod.fst).Nodup)
    (noState : ∀ members, ("__dict__", .object members) ∉ overrides) :
    config.ActsAsNamed overrides ↔ AreToldApart overrides := by
  have whole := isWhole_ofEnvironment isOk
  by_cases noStrays : strays overrides = []
  · rw [actsAsNamed_of_no_strays whole noState differ noStrays]
    exact ⟨fun isNot => ⟨fun _ => isNot, fun areStrays => absurd noStrays areStrays⟩,
      fun apart => apart.alone noStrays⟩
  · rw [actsAsNamed_of_strays noStrays, isRefused_iff whole noState]
    exact ⟨fun refused => ⟨fun noneAtAll => absurd noneAtAll noStrays, fun _ => refused⟩,
      fun apart => apart.beside noStrays⟩

/-- A setting that is given and one that is given nothing do what their names say. -/
theorem settings_act_as_named : ∃ config, ofEnvironment [] = .ok config ∧
    config.ActsAsNamed [("llm_model", .string "other"), ("llm_base_url", .null)] := by
  obtain ⟨config, isOk⟩ : ∃ config, ofEnvironment [] = .ok config := ⟨_, rfl⟩
  refine ⟨config, isOk, (actsAsNamed_iff isOk (by decide) ?_).mpr ⟨?_, ?_⟩⟩
  · intro members among
    simp at among
  · exact fun _ => rfl
  · exact fun areStrays => absurd rfl areStrays

/-- The question for the place of a node is no setting, and is replaced without a word. -/
theorem question_is_replaced : ¬ ∀ (environment : Environment) (config : Config)
    (overrides : Members), ofEnvironment environment = .ok config →
    (overrides.map Prod.fst).Nodup → config.ActsAsNamed overrides := by
  intro always
  have acts := always [] _ [("rpc_url", .string "http://node")] rfl (by decide)
  obtain ⟨fault, isError, _⟩ := acts.refused.mpr
    ⟨"rpc_url", _, List.mem_singleton_self _, rfl, by rintro (_ | _) <;> decide⟩
  cases isError

end Config

end MoveAudit
