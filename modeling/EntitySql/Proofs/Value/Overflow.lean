import EntitySql.Proofs.Number.DecimalToBinary
import EntitySql.Proofs.Value.Integers
/-!
# Reading numbers of 32 bits

A number of 64 bits and a decimal are read as the nearest number of 32 bits, and nothing checks that
there is one. The largest such number is `2 ^ 128 - 2 ^ 104`, and half of its last bit above it
rounding to it ends: below `2 ^ 128 - 2 ^ 103` a reading is finite, from there on it is an infinity,
which is neither a number nor a refusal. Decimals are all smaller.

## Main definitions

* `Target.ReadsFinite`: a reading as a number of 32 bits is finite or refused.

## Main results

* `Target.readsFinite_iff`: the values of which this is true.
* `Target.not_readsFinite_large`: one of which it is not.
-/

namespace EntitySql

open Number

/-- The types that are read as numbers of 32 bits by way of 64 bits. -/
def ValueType.GoesByDouble : ValueType → Prop
  | float64 | decimal _ _ => True
  | _ => False

/-- No decimal is as large as the numbers that overflow single precision. -/
theorem Number.Decimal.size_lt_overflow (d : Decimal) : d.size < Format.single.overflow :=
  lt_overflow_single (d.size_le.trans (by norm_num))

/-- The number of 32 bits of a decimal is finite. -/
theorem Number.Decimal.isFinite_toSingle (d : Decimal) :
    (d.toDouble.convert .single).isFinite = true := by
  obtain ⟨negative, v, number, -, nonneg, high, -⟩ := d.exists_number?_toDouble
  refine Binary.isFinite_convert wide_single number ?_
  rw [abs_withSign, abs_of_nonneg nonneg]
  exact lt_overflow_single high

namespace Target

/-- A reading as a number of 32 bits **is finite or refused**. -/
def ReadsFinite (v : Value) : Prop :=
  (∃ x : Binary .single, float32.read v = .ok x ∧ x.isFinite = true)
    ∨ float32.read v = .error ⟨v, float32⟩

/-- Once a value is read, reading finitely is a matter of the number that was read. -/
theorem readsFinite_iff_of_ok {v : Value} {x : Binary .single} (read : float32.read v = .ok x) :
    ReadsFinite v ↔ x.isFinite = true := by
  rw [ReadsFinite, read]
  refine ⟨?_, fun finite => .inl ⟨x, rfl, finite⟩⟩
  rintro (⟨y, same, finite⟩ | refused)
  · rwa [Except.ok.inj same]
  · cases refused

/-- **Readings as numbers of 32 bits are finite** exactly below `2 ^ 128 - 2 ^ 103`, so for all
decimals. From there on they are infinities of the same sign, and no refusals. -/
theorem readsFinite_iff {v : Value} {q : ℚ} (numeric : v.type.GoesByDouble)
    (quantity : v.quantity? = some q) :
    (ReadsFinite v ↔ |q| < 2 ^ 128 - 2 ^ 103)
      ∧ (2 ^ 128 - 2 ^ 103 ≤ |q| →
        ∃ x : Binary .single, float32.read v = .ok x ∧ x.exact = .infinite (q < 0))
      ∧ ∀ p s, v.type = .decimal p s → ReadsFinite v := by
  rw [← overflow_single]
  obtain ⟨type, datum⟩ := v
  obtain _ | x := datum
  · cases quantity
  cases type with
  | float64 =>
      have number : Binary.number? x = some q := quantity
      have read : float32.read ⟨.float64, some x⟩ = .ok (Binary.convert .single x) := rfl
      refine ⟨?_, fun more => ⟨_, read, Binary.exact_convert_of_overflow wide_single number more⟩,
        nofun⟩
      rw [readsFinite_iff_of_ok read]
      refine ⟨fun finite => ?_, Binary.isFinite_convert wide_single number⟩
      by_contra more
      have infinite := Binary.exact_convert_of_overflow wide_single number (not_lt.mp more)
      rw [Binary.isFinite_of_infinite infinite] at finite
      cases finite
  | decimal p s =>
      have read : float32.read ⟨.decimal p s, some x⟩ = .ok (x.toDouble.convert .single) := rfl
      have finite := (readsFinite_iff_of_ok read).mpr x.isFinite_toSingle
      obtain rfl : x.number = q := Option.some.inj quantity
      have less : |x.number| < Format.single.overflow := x.abs_number.trans_lt x.size_lt_overflow
      exact ⟨⟨fun _ => less, fun _ => finite⟩, fun more => absurd less (not_lt.mpr more),
        fun _ _ _ => finite⟩
  | _ => cases numeric

/-- The number of 64 bits next to the limit, from below. -/
theorem readsFinite_next_to_limit :
    let v : Value := .present .float64 ⟨0x47EFFFFFEFFFFFFF⟩
    let q : ℚ := 9007198986305535 * 2 ^ 75
    v.type.GoesByDouble ∧ v.quantity? = some q ∧ |q| < 2 ^ 128 - 2 ^ 103 ∧ ReadsFinite v := by
  intro v q
  have said : (⟨0x47EFFFFFEFFFFFFF⟩ : Binary .double).exact
      = .finite false 9007198986305535 75 := by decide
  have quantity : v.quantity? = some q := congrArg Exact.number? said
  have less : |q| < 2 ^ 128 - 2 ^ 103 := by norm_num [q]
  exact ⟨trivial, quantity, less, (readsFinite_iff (v := v) trivial quantity).1.mpr less⟩

/-- A number of 64 bits that is read as an infinity. -/
theorem not_readsFinite_large :
    let v : Value := .present .float64 ⟨0x7E37E43C8800759C⟩
    v.type.GoesByDouble ∧ (∃ q, v.quantity? = some q)
      ∧ (∃ x : Binary .single, float32.read v = .ok x ∧ x.exact = .infinite false)
      ∧ ¬ ReadsFinite v := by
  intro v
  have said : (⟨0x7E37E43C8800759C⟩ : Binary .double).exact
      = .finite false 6724873095247260 944 := by decide
  have read : float32.read v = .ok (Binary.convert .single ⟨0x7E37E43C8800759C⟩) := rfl
  have infinite : (Binary.convert .single (f := .double) ⟨0x7E37E43C8800759C⟩).exact
      = .infinite false := by decide +kernel
  refine ⟨trivial, ⟨_, congrArg Exact.number? said⟩, ⟨_, read, infinite⟩, ?_⟩
  rw [readsFinite_iff_of_ok read, Binary.isFinite_of_infinite infinite]
  nofun

end Target

end EntitySql
