import EntitySql.Entity
import EntitySql.Proofs.Value.Equality
import EntitySql.Value.Optional
/-!
# Tags of present and absent data

The type of a value is told by its tag, the absent value of the same type. Data of a type outside of
values become values of one type, which is that of the absent ones, with one exception: a decimal
puts its scale into the type, and an absent decimal has none to put there. So present and absent
data declare the same type unless a decimal has places behind the point.

## Main definitions

* `DataType.type`: the type of absent data.
* `DataType.scale`: the scale of the decimal among the data.

## Main results

* `Value.tag_beq_tag_iff`: tags are equal exactly for values of one type.
* `DataType.type_toValue_eq_iff`: the data that become values of the type of absent ones.
* `DataType.tags_agree_iff`: the same of tags, types and the types that properties declare.
* `DataType.price_declares_other`: a decimal of another type.
-/

namespace EntitySql

open Number

/-- Absent values are equal exactly if they have one type. -/
theorem absent_beq_absent_iff {t u : ValueType} :
    (Value.absent t == Value.absent u) = true ↔ t = u := by
  constructor
  · exact Value.type_eq_of_same
  · rintro rfl
    exact Value.same_self_iff.mpr rfl

/-- Tags are equal exactly for values of one type. -/
theorem Value.tag_beq_tag_iff (a b : Value) : (a.tag == b.tag) = true ↔ a.type = b.type := by
  rw [tag_eq, tag_eq, absent_beq_absent_iff]

namespace DataType

/-- The type of absent data. -/
def type : DataType → ValueType
  | target t => t.type
  | optional inner => inner.type

/-- Absent data become the absent value of their type. -/
theorem emptyValue_eq (d : DataType) : d.emptyValue = .absent d.type := by
  induction d with
  | target t => rfl
  | optional inner ih => exact ih

/-- The scale of the decimal among data, zero if there is none. -/
def scale : (d : DataType) → d.Carrier → Nat
  | target .decimal, x => Decimal.scale x
  | target _, _ => 0
  | optional inner, some x => inner.scale x
  | optional _, none => 0

/-- A decimal declares the type of an absent one exactly if its scale is zero. -/
theorem type_ofDecimal_eq_iff (x : Decimal) :
    (Value.ofDecimal x).type = .decimal 0 0 ↔ x.scale = 0 := by
  have declared : (Value.ofDecimal x).type = .decimal 0 (UInt8.ofNat x.scale) := rfl
  rw [declared, ValueType.decimal.injEq, Value.declaredScale_eq_zero_iff x.scale_le]
  exact and_iff_right rfl

/-- **Data become values of the type of absent ones** unless a decimal has another scale than
zero. -/
theorem type_toValue_eq_iff (d : DataType) (x : d.Carrier) :
    (d.toValue x).type = d.type ↔ d.scale x = 0 := by
  induction d with
  | target t =>
      cases t with
      | decimal => exact type_ofDecimal_eq_iff x
      | _ => exact iff_of_true rfl rfl
  | optional inner ih =>
      cases x with
      | none => exact iff_of_true (congrArg Value.type inner.emptyValue_eq) rfl
      | some x => exact ih x

/-- **Present and absent data have one tag**, and so properties of both declare one type, exactly if
no decimal among the data has places behind the point. Two values are of the same type exactly if
their tags are equal. -/
theorem tags_agree_iff (d : DataType) (x : d.Carrier) (name : String) :
    (((d.toValue x).tag == d.emptyValue) = true ↔ d.scale x = 0)
      ∧ ((d.toValue x).sameType d.emptyValue = true ↔ d.scale x = 0)
      ∧ ((Property.declaredType ⟨name, d.optional.toValue (some x)⟩
          == Property.declaredType ⟨name, d.optional.toValue none⟩) = true ↔ d.scale x = 0)
      ∧ ∀ a b : Value, a.sameType b = true ↔ (a.tag == b.tag) = true := by
  have absent : d.optional.toValue none = .absent d.type := d.emptyValue_eq
  have declared (v : Value) : Property.declaredType ⟨name, v⟩ = .absent v.type := v.tag_eq
  rw [← type_toValue_eq_iff, emptyValue_eq, Value.sameType_iff, absent, Value.tag_eq, declared,
    declared]
  refine ⟨absent_beq_absent_iff, Iff.rfl, absent_beq_absent_iff, fun a b => ?_⟩
  rw [Value.sameType_iff, Value.tag_beq_tag_iff]

/-- A price with two places behind the point declares another type than an absent one. -/
theorem price_declares_other :
    let price : Decimal := ⟨false, 1050, 2, by decide, by decide⟩
    let decimal : DataType := target .decimal
    ((decimal.toValue price).tag == decimal.emptyValue) = false
      ∧ (decimal.toValue price).sameType decimal.emptyValue = false
      ∧ (Property.declaredType ⟨"Price", decimal.optional.toValue (some price)⟩
        == Property.declaredType ⟨"Price", decimal.optional.toValue none⟩) = false := by
  decide

end DataType

end EntitySql
