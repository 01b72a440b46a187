/-
This file says when the packages that a transaction publishes can be read. A transaction is looked
into at few places, and it is enough that each of these holds what belongs there or nothing that
counts. Of such a transaction the publications are always found, whatever else it tells.
-/

import MoveAudit.Chain.Publication
import MoveAudit.Proofs.Act

namespace MoveAudit.Chain

open Json

/-! ### Well-formed transactions -/

/-- What stands where an object belongs: an object, or something that counts as empty. -/
def IsRecord (value : Value) : Prop :=
  value.isFull = true → ∃ members, value = .object members

/-- What stands where an array belongs: an array, or something that counts as empty. -/
def IsRow (value : Value) : Prop :=
  value.isFull = true → ∃ items, value = .array items

/-- A transaction as a node tells of it. -/
structure IsBlock (block : Value) : Prop where
  isObject : ∃ members, block = .object members
  digest : ∃ text, block.part "digest" = .string text ∧ text ≠ ""
  effects : IsRecord (block.part "effects")
  status : IsRecord ((block.part "effects").part "status")
  transaction : IsRecord (block.part "transaction")
  data : IsRecord ((block.part "transaction").part "data")
  changes : IsRow (block.part "objectChanges")
  packages : ∀ change ∈ (block.part "objectChanges").items,
    change.part "type" = .string "published" → isPlain (change.part "packageId") = true

/-- A member that is a record can be looked into, and has the parts that it is told to have. -/
theorem exists_inner {members : Members} {name : String}
    (isRecord : IsRecord ((Value.object members).part name)) :
    ∃ found, inner (.object members) name = .ok (.object found) ∧
      ∀ part, (Value.object found).part part = ((Value.object members).part name).part part := by
  have looked : inner (.object members) name =
      .ok (if ((Value.object members).part name).isFull then (Value.object members).part name
        else .object []) := rfl
  rw [looked]
  cases isFull : ((Value.object members).part name).isFull with
  | false => exact ⟨[], rfl, fun part => (Value.part_of_not_full isFull part).symm⟩
  | true =>
    obtain ⟨found, same⟩ := isRecord isFull
    rw [same]
    exact ⟨found, rfl, fun _ => rfl⟩

theorem exists_publishedBy? {change : Value}
    (isPackage : change.part "type" = .string "published" →
      isPlain (change.part "packageId") = true) :
    ∃ package?, publishedBy? change = .ok package? := by
  cases change with
  | object members =>
    have looked : publishedBy? (.object members) =
        if ((Value.object members).part "type").text? != some "published" then .ok none
        else if ((Value.object members).part "packageId").full?.all isPlain then
          .ok ((Value.object members).part "packageId").full?
        else .error .wrongKind := rfl
    rw [looked]
    split
    · exact ⟨none, rfl⟩
    · next isPublished =>
      have isNamed : (Value.object members).part "type" = .string "published" := by
        cases type : (Value.object members).part "type" with
        | string text =>
          rw [type] at isPublished
          simpa [Value.text?] using isPublished
        | _ => simp [type, Value.text?] at isPublished
      have plain : ((Value.object members).part "packageId").full?.all isPlain = true := by
        unfold Value.full?
        split
        · exact isPackage isNamed
        · rfl
      rw [if_pos plain]
      exact ⟨_, rfl⟩
  | _ => exact ⟨none, rfl⟩

theorem IsRow.partsOrNone_eq {value : Value} (isRow : IsRow value) :
    value.partsOrNone = .ok value.items := by
  unfold Value.partsOrNone
  cases isFull : value.isFull with
  | true =>
    obtain ⟨items, rfl⟩ := isRow isFull
    rfl
  | false =>
    cases value with
    | array items =>
      cases items with
      | nil => rfl
      | cons first rest => cases isFull
    | _ => rfl

/-- The publications of a well-formed transaction can be read. -/
theorem IsBlock.exists_publications {block : Value} (isBlock : IsBlock block) :
    ∃ found, publications block = .ok found := by
  obtain ⟨members, rfl⟩ := isBlock.isObject
  obtain ⟨effects, isEffects, effectsPart⟩ := exists_inner isBlock.effects
  obtain ⟨status, isStatus, _⟩ := exists_inner (effectsPart "status" ▸ isBlock.status)
  obtain ⟨transaction, isTransaction, transactionPart⟩ := exists_inner isBlock.transaction
  obtain ⟨data, isData, _⟩ := exists_inner (transactionPart "data" ▸ isBlock.data)
  have changes : ((Value.object members).part "objectChanges").partsOrNone = _ :=
    isBlock.changes.partsOrNone_eq
  obtain ⟨packages, arePackages⟩ : ∃ packages,
      ((Value.object members).part "objectChanges").items.mapM publishedBy? = .ok packages := by
    cases read : ((Value.object members).part "objectChanges").items.mapM publishedBy? with
    | ok packages => exact ⟨packages, rfl⟩
    | error fault =>
      obtain ⟨change, member, other, fails⟩ := (mapM_fails_iff _).mp ⟨fault, read⟩
      obtain ⟨package?, isOk⟩ := exists_publishedBy? (isBlock.packages change member)
      cases isOk.symm.trans fails
  have looked (own : Members) (name : String) : (Value.object own).member name =
      .ok ((Value.object own).part name) := rfl
  unfold publications
  simp only [isEffects, isStatus, isTransaction, isData, looked, changes, arePackages, bind,
    Except.bind]
  split
  · exact ⟨[], rfl⟩
  · exact ⟨_, rfl⟩

end MoveAudit.Chain
