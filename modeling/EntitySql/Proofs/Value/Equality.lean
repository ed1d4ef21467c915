import EntitySql.Proofs.Wire.DeclaredNumbers
/-!
# Equality of values

Values are equal if they have the same type and are both absent or both have data, which are then
compared in the way of the type. In every type this is done by a key: decimals go by their number,
timestamps with an offset by their instant, binary numbers by their bits unless they are zero, all
other data by themselves. Only a binary number that is none has no key and equals nothing, not even
itself. So equality is symmetric and transitive, and reflexive on all other values.

## Main definitions

* `ValueType.isNan`, `Value.isNan`: binary numbers that are none.

## Main results

* `ValueType.exists_key`: data are equal exactly if they are numbers, where they should be, and have
  the same key.
* `Value.same_symm`, `Value.same_trans`, `Value.same_self_iff`.
-/

namespace EntitySql

open Number Calendar

/-! ### Data -/

/-- Decimals are compared as numbers. -/
theorem Number.Decimal.same_iff {x y : Decimal} : x.same y = true ↔ x.number = y.number := by
  have tens (n : ℕ) : (10 : ℚ) ^ n ≠ 0 := pow_ne_zero n (by norm_num)
  rw [same, beq_iff_eq, number, number, div_eq_div_iff (tens _) (tens _), ← Int.cast_inj (α := ℚ)]
  simp [tenTo]

/-- The key of a binary number, the same for both zeros. -/
def Number.Binary.key {f : Format} (x : Binary f) : Option (BitVec f.width) :=
  if x.magnitude = 0 then none else some x.bits

/-- Two binary numbers compare equal as bits do, with the two zeros taken for one. -/
theorem Number.Binary.key_eq_iff {f : Format} {x y : Binary f} :
    x.key = y.key ↔ x.bits = y.bits ∨ (x.magnitude = 0 ∧ y.magnitude = 0) := by
  have magnitudes (same : x.bits = y.bits) : x.magnitude = y.magnitude := by
    rw [magnitude, magnitude, same]
  by_cases left : x.magnitude = 0 <;> by_cases right : y.magnitude = 0 <;>
    simp only [key, left, right, if_true, if_false]
  · simp
  · simpa [left, right] using fun same => right (magnitudes same ▸ left)
  · simpa [left, right] using fun same => left ((magnitudes same).trans right)
  · simp

namespace ValueType

/-- Whether a datum is a binary number that is none. -/
def isNan : (t : ValueType) → t.Carrier → Bool
  | float32, x => x.exact = .nan
  | float64, x => x.exact = .nan
  | _, _ => false

variable {t : ValueType}

/-- **Data are compared by a key**, which a binary number that is none does not have. -/
theorem exists_key (t : ValueType) : ∃ (κ : Type) (key : t.Carrier → κ), ∀ x y,
    t.sameDatum x y = true ↔ t.isNan x = false ∧ t.isNan y = false ∧ key x = key y := by
  cases t with
  | null => exact ⟨Unit, fun _ => (), fun x => x.elim⟩
  | float32 | float64 =>
      refine ⟨_, Binary.key, fun x y => ?_⟩
      rw [Binary.key_eq_iff]
      simp [sameDatum, Binary.same, isNan, and_assoc]
  | decimal =>
      refine ⟨ℚ, Decimal.number, fun x y => ?_⟩
      simpa [isNan, sameDatum] using Decimal.same_iff
  | timestampWithTimezone =>
      refine ⟨ℤ, OffsetTimestamp.instant, fun x y => ?_⟩
      simp [sameDatum, isNan, OffsetTimestamp.same]
  | _ => exact ⟨_, id, fun x y => by simp [sameDatum, isNan]⟩

/-- Data that are the same are so in either order. -/
theorem sameDatum_symm {x y : t.Carrier} (same : t.sameDatum x y = true) :
    t.sameDatum y x = true := by
  obtain ⟨κ, key, compared⟩ := t.exists_key
  obtain ⟨left, right, equal⟩ := (compared x y).mp same
  exact (compared y x).mpr ⟨right, left, equal.symm⟩

/-- Sameness of data is transitive, NaN included: it is the same as nothing. -/
theorem sameDatum_trans {x y z : t.Carrier} (first : t.sameDatum x y = true)
    (second : t.sameDatum y z = true) : t.sameDatum x z = true := by
  obtain ⟨κ, key, compared⟩ := t.exists_key
  obtain ⟨left, -, equal⟩ := (compared x y).mp first
  obtain ⟨-, right, equal'⟩ := (compared y z).mp second
  exact (compared x z).mpr ⟨left, right, equal.trans equal'⟩

/-- A datum is the same as itself unless it is NaN. -/
theorem sameDatum_self_iff {x : t.Carrier} : t.sameDatum x x = true ↔ t.isNan x = false := by
  obtain ⟨κ, key, compared⟩ := t.exists_key
  simp [compared]

end ValueType

/-! ### Values -/

namespace Value

/-- Whether a value is a binary number that is none. -/
def isNan (v : Value) : Bool :=
  v.datum.any v.type.isNan

variable {a b c : Value}

/-- Equal values have one type, so that no equality reaches across types. -/
theorem type_eq_of_same (same : (a == b) = true) : a.type = b.type := by
  by_contra other
  have different : (a == b) = false := dif_neg other
  rw [different] at same
  cases same

/-- Values of one type are equal if both are absent or both have equal data. -/
theorem same_iff_rel {t : ValueType} {x y : Option t.Carrier} :
    ((⟨t, x⟩ : Value) == ⟨t, y⟩) = true ↔ Option.Rel (fun x y => t.sameDatum x y = true) x y := by
  change same _ _ = true ↔ _
  rw [same, dif_pos rfl]
  cases x <;> cases y <;> simp

/-- **Equality of values is symmetric.** -/
theorem same_symm (same : (a == b) = true) : (b == a) = true := by
  obtain ⟨t, x⟩ := a
  obtain ⟨u, y⟩ := b
  obtain rfl : t = u := type_eq_of_same same
  cases same_iff_rel.mp same with
  | none => exact same_iff_rel.mpr .none
  | some equal => exact same_iff_rel.mpr (.some (ValueType.sameDatum_symm equal))

/-- **Equality of values is transitive.** -/
theorem same_trans (first : (a == b) = true) (second : (b == c) = true) : (a == c) = true := by
  obtain ⟨t, x⟩ := a
  obtain ⟨u, y⟩ := b
  obtain ⟨w, z⟩ := c
  obtain rfl : t = u := type_eq_of_same first
  obtain rfl : t = w := type_eq_of_same second
  cases same_iff_rel.mp first with
  | none => exact second
  | some equal =>
      cases same_iff_rel.mp second with
      | some equal' => exact same_iff_rel.mpr (.some (ValueType.sameDatum_trans equal equal'))

/-- **A value equals itself** unless it is a binary number that is none. -/
theorem same_self_iff : (a == a) = true ↔ a.isNan = false := by
  obtain ⟨t, x⟩ := a
  rw [same_iff_rel]
  cases x with
  | none => simp [isNan]
  | some x => simp [isNan, ValueType.sameDatum_self_iff]

end Value

end EntitySql
