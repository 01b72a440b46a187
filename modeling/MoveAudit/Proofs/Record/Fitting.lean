/-
This file says what a check that comes to a result has found in order. A check that is put together
comes to a result exactly if each of its parts does, so a record fits exactly if every field does,
and a list if every item does.
-/

import Mathlib.Data.List.Forall2
import MoveAudit.Proofs.Entries
import MoveAudit.Record.Check

namespace MoveAudit.Record

open Json

variable {First Second Result : Type}

namespace Checked

theorem andThen_eq_ok_iff {checked : Checked First} {next : First → Checked Second}
    {result : Second} :
    checked.andThen next = .ok result ↔ ∃ first, checked = .ok first ∧ next first = .ok result := by
  cases checked <;> simp [andThen]

theorem map_eq_ok_iff {f : First → Second} {checked : Checked First} {result : Second} :
    checked.map f = .ok result ↔ ∃ first, checked = .ok first ∧ f first = result := by
  cases checked <;> simp [map, andThen]

theorem under_eq_ok_iff {step : Step} {checked : Checked Result} {result : Result} :
    checked.under step = .ok result ↔ checked = .ok result := by
  cases checked <;> simp [under]

theorem both_eq_ok_iff {first : Checked First} {second : Unit → Checked Second}
    {result : First × Second} :
    first.both second = .ok result ↔ first = .ok result.1 ∧ second () = .ok result.2 := by
  obtain ⟨a, b⟩ := result
  cases came : second () <;> cases first <;> simp [both, came]

end Checked

open Checked

/-! ### Collections -/

theorem itemsFrom_eq_ok_iff {check : Check Result} {items : List Value} {results : List Result}
    {index : Nat} : itemsFrom check index items = .ok results ↔
      List.Forall₂ (fun item result => check item = .ok result) items results := by
  induction items generalizing index results with
  | nil => simp [itemsFrom, eq_comm]
  | cons item items inductionHypothesis =>
    rw [itemsFrom, map_eq_ok_iff, List.forall₂_cons_left_iff]
    constructor
    · rintro ⟨⟨first, others⟩, fit, rfl⟩
      obtain ⟨fits, othersFit⟩ := both_eq_ok_iff.mp fit
      exact ⟨first, others, under_eq_ok_iff.mp fits, inductionHypothesis.mp othersFit, rfl⟩
    · rintro ⟨first, others, fits, othersFit, rfl⟩
      refine ⟨(first, others), both_eq_ok_iff.mpr ⟨under_eq_ok_iff.mpr fits, ?_⟩, rfl⟩
      exact inductionHypothesis.mpr othersFit

theorem list_eq_ok_iff {check : Check Result} {value : Value} {results : List Result} :
    list check value = .ok results ↔ ∃ items, value = .array items ∧
      List.Forall₂ (fun item result => check item = .ok result) items results := by
  cases value with
  | array items => simp [list, itemsFrom_eq_ok_iff]
  | _ => simp [list, fault]

/-- Every item of a list that fits is what the check makes of some item of the value. -/
theorem exists_of_mem_list {check : Check Result} {value : Value} {results : List Result}
    (fits : list check value = .ok results) {result : Result} (member : result ∈ results) :
    ∃ item ∈ value.items, check item = .ok result := by
  obtain ⟨items, rfl, fit⟩ := list_eq_ok_iff.mp fits
  obtain ⟨sameLength, each⟩ := List.forall₂_iff_get.mp fit
  obtain ⟨index, inBounds, rfl⟩ := List.mem_iff_getElem.mp member
  exact ⟨_, List.get_mem items ⟨index, sameLength ▸ inBounds⟩,
    each index (sameLength ▸ inBounds) inBounds⟩

theorem rule_eq_ok_iff {outcome : Except String Result} {input : Value} {result : Result} :
    rule outcome input = .ok result ↔ outcome = .ok result := by
  cases outcome <;> simp [rule, fault]

/-! ### Fields -/

theorem map_fields_eq_ok_iff {f : First → Second} {fields : Fields First} {members : Members}
    {result : Second} :
    (f <$> fields) members = .ok result ↔ ∃ first, fields members = .ok first ∧ f first = result :=
  map_eq_ok_iff

theorem seq_eq_ok_iff {fields : Fields (First → Second)} {others : Fields First}
    {members : Members} {result : Second} :
    (fields <*> others) members = .ok result ↔
      ∃ f first, fields members = .ok f ∧ others members = .ok first ∧ f first = result := by
  refine map_eq_ok_iff.trans ?_
  simp only [both_eq_ok_iff, Prod.exists, and_assoc]

theorem required_eq_ok_iff {name : String} {check : Check Result} {members : Members}
    {result : Result} : required name check members = .ok result ↔
      ∃ value, Entries.get? members name = some value ∧ check value = .ok result := by
  unfold required
  rw [under_eq_ok_iff]
  cases Entries.get? members name <;> simp [fault]

/-- A required field is checked on what stands under its name. -/
theorem check_part_of_required {name : String} {check : Check Result} {members : Members}
    {result : Result} (fits : required name check members = .ok result) :
    check ((Value.object members).part name) = .ok result := by
  obtain ⟨value, isMember, found⟩ := required_eq_ok_iff.mp fits
  have isPart : (Value.object members).part name = value := by
    show (Entries.get? members name).getD .null = value
    rw [isMember, Option.getD_some]
  rw [isPart]
  exact found

theorem optional_eq_ok_iff {name : String} {default_ : Result} {check : Check Result}
    {members : Members} {result : Result} : optional name default_ check members = .ok result ↔
      match Entries.get? members name with
      | some value => check value = .ok result
      | none => default_ = result := by
  unfold optional
  cases Entries.get? members name <;> simp [under_eq_ok_iff]

theorem record_eq_ok_iff {title : String} {fields : Fields Result} {value : Value}
    {result : Result} : record title fields value = .ok result ↔
      ∃ members, value = .object members ∧ fields members = .ok result := by
  cases value with
  | object members => simp [record]
  | _ => simp [record, fault]

/-! ### What a record keeps -/

namespace Fields

/-- Whatever a check of members comes to has a property. -/
def Gives (fields : Fields Result) (property : Result → Prop) : Prop :=
  ∀ members result, fields members = .ok result → property result

theorem Gives.map {f : First → Second} {fields : Fields First} {property : Second → Prop}
    (gives : fields.Gives fun first => property (f first)) : Gives (f <$> fields) property := by
  intro members result fits
  obtain ⟨first, found, rfl⟩ := map_fields_eq_ok_iff.mp fits
  exact gives members first found

/-- What holds whatever a further field gives holds with that field. -/
theorem Gives.seq {fields : Fields (First → Second)} {others : Fields First}
    {property : Second → Prop} (gives : fields.Gives fun f => ∀ first, property (f first)) :
    Gives (fields <*> others) property := by
  intro members result fits
  obtain ⟨f, first, found, -, rfl⟩ := seq_eq_ok_iff.mp fits
  exact gives members f found first

theorem Gives.required {name : String} {check : Check Result} {property : Result → Prop}
    (gives : ∀ value result, check value = .ok result → property result) :
    Gives (required name check) property := by
  intro members result fits
  obtain ⟨value, -, found⟩ := required_eq_ok_iff.mp fits
  exact gives value result found

theorem Gives.of_record {title : String} {fields : Fields Result} {value : Value}
    {result : Result} (fits : record title fields value = .ok result) (property : Result → Prop)
    (gives : fields.Gives property) : property result := by
  obtain ⟨members, -, found⟩ := record_eq_ok_iff.mp fits
  exact gives members result found

/-- A check of members that comes to a result comes to it whatever one of the members is. -/
def PassesOver (fields : Fields Result) (name : String) : Prop :=
  ∀ members value result, fields members = .ok result →
    fields (Entries.put members name value) = .ok result

section PassesOver

variable {name : String}

theorem PassesOver.map (f : First → Second) {fields : Fields First}
    (passes : fields.PassesOver name) : PassesOver (f <$> fields) name := by
  intro members value result fits
  obtain ⟨first, found, isResult⟩ := map_fields_eq_ok_iff.mp fits
  exact map_fields_eq_ok_iff.mpr ⟨first, passes members value first found, isResult⟩

theorem PassesOver.seq {fields : Fields (First → Second)} {others : Fields First}
    (passes : fields.PassesOver name) (passesToo : others.PassesOver name) :
    PassesOver (fields <*> others) name := by
  intro members value result fits
  obtain ⟨f, first, found, foundToo, isResult⟩ := seq_eq_ok_iff.mp fits
  exact seq_eq_ok_iff.mpr ⟨f, first, passes members value f found,
    passesToo members value first foundToo, isResult⟩

theorem PassesOver.required {other : String} (different : other ≠ name) (check : Check Result) :
    PassesOver (required other check) name := by
  intro members value result fits
  rw [required_eq_ok_iff] at fits ⊢
  rwa [Entries.get?_put_of_ne members value different]

theorem PassesOver.optional {other : String} (different : other ≠ name) (default_ : Result)
    (check : Check Result) : PassesOver (optional other default_ check) name := by
  intro members value result fits
  rw [optional_eq_ok_iff] at fits ⊢
  rwa [Entries.get?_put_of_ne members value different]

end PassesOver

end Fields

end MoveAudit.Record
