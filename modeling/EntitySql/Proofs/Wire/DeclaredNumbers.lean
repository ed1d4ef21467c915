import EntitySql.Proofs.Wire.Batch
import EntitySql.Proofs.Wire.RoundTrip
import Mathlib.Data.Rat.Defs
import Mathlib.Tactic.NormNum
/-!
# Declared types hold the numbers bound to them

The type that a parameter is declared as and the cell that is bound to its position are chosen by
two tables. A line that declares it assigns the one to the other, and the server rounds or refuses
a number that the type does not have. This module says which numbers the written types have, and
proves that the number of the cell, which is that of the value, is always one of them. For words
this is a matter of widths; a decimal has fewer digits than the widest decimal type, and is declared
with its own scale.

## Main definitions

* `ValueType.isExact`: the types of integers and decimals.
* `Value.number?`, `Wire.Cell.number?`: the number that a value holds, and that a cell carries.
* `Represents`: the numbers of a written type.

## Main results

* `Value.exists_represented`: the declared type has the number of the cell.
* `Value.declared_holds`: this, and how the widest words and decimals are declared.
-/

namespace EntitySql

open EntitySql.Text EntitySql.Wire Number

/-! ### Numbers of values and of cells -/

/-- Whether the data of a type are integers or decimals. -/
def ValueType.isExact : ValueType → Bool
  | int8 | int16 | int32 | int64 | uint8 | uint16 | uint32 | uint64 | decimal _ _ => true
  | _ => false

/-- The number of a decimal. -/
def Number.Decimal.number (d : Decimal) : ℚ :=
  d.signedMantissa / 10 ^ d.scale

/-- The number that a value of an exact type holds. -/
def Value.number? : Value → Option ℚ
  | ⟨.decimal _ _, some x⟩ => some x.number
  | v => v.integer?.map fun n => n

/-- The number that a cell carries. -/
def Wire.Cell.number? : Cell → Option ℚ
  | ⟨.uint8, some x⟩ => some (x.toNat : ℤ)
  | ⟨.int16, some x⟩ => some x.toInt
  | ⟨.int32, some x⟩ => some x.toInt
  | ⟨.int64, some x⟩ => some x.toInt
  | ⟨.numeric, some n⟩ => some (n.unscaled / 10 ^ n.scale)
  | _ => none

/-! ### Numbers of written types -/

/-- **The numbers of a type** as it is written in a declaration. A decimal type has those of at most
so many digits, a fixed number of them behind the point. -/
inductive Represents : (written : String) → ℚ → Prop where
  | tinyInt {n : ℤ} (above : 0 ≤ n) (below : n ≤ 255) : Represents "TINYINT" n
  | smallInt {n : ℤ} (above : -32768 ≤ n) (below : n ≤ 32767) : Represents "SMALLINT" n
  | int {n : ℤ} (above : -2147483648 ≤ n) (below : n ≤ 2147483647) : Represents "INT" n
  | bigInt {n : ℤ} (above : -9223372036854775808 ≤ n) (below : n ≤ 9223372036854775807) :
      Represents "BIGINT" n
  | decimal {precision scale : ℕ} {n : ℤ} (some : 0 < precision) (widest : precision ≤ 38)
      (places : scale ≤ precision) (digits : n.natAbs < 10 ^ precision) :
      Represents ("DECIMAL(" ++ natText precision ++ "," ++ natText scale ++ ")")
        (n / 10 ^ scale)

/-- A decimal has fewer digits than the widest decimal type, and its own scale. -/
theorem represents_decimal (d : Decimal) :
    Represents ("DECIMAL(" ++ natText 38 ++ "," ++ natText d.scale ++ ")") d.number := by
  refine .decimal (by decide) (Nat.le_refl 38) (Nat.le_trans d.scale_le (by decide)) ?_
  rw [d.natAbs_signedMantissa]
  exact Nat.lt_trans d.mantissa_lt (by decide)

/-- The widest words have at most twenty digits. -/
theorem represents_uint64 (x : UInt64) :
    Represents ("DECIMAL(" ++ natText 20 ++ "," ++ natText 0 ++ ")") (x.toNat : ℤ) := by
  have below := UInt64.toNat_lt x
  have digits : (x.toNat : ℤ).natAbs < 10 ^ 20 := by
    rw [Int.natAbs_natCast]
    omega
  have whole : ((x.toNat : ℤ) : ℚ) / 10 ^ 0 = (x.toNat : ℤ) := by simp
  rw [← whole]
  exact .decimal (by decide) (by decide) (Nat.zero_le 20) digits

/-- **The declared type has the number of the cell**, which is the number of the value. -/
theorem Value.exists_represented {v : Value} (exact : v.type.isExact = true)
    (present : v.isNull = false) :
    ∃ cell x, v.number? = some x ∧ v.cell? = some cell ∧ cell.number? = some x
      ∧ Represents v.columnType.written x := by
  rw [isNull_eq] at present
  obtain ⟨type, datum⟩ := v
  cases datum with
  | none => cases present
  | some x =>
      cases type with
      | int8 =>
          have above := Int8.le_toInt x
          have below := Int8.toInt_lt x
          have same : (Int8.toInt16 x).toInt = Int8.toInt x := Int8.toInt_toInt16 x
          exact ⟨_, _, rfl, rfl, congrArg (fun n : ℤ => some (n : ℚ)) same,
            .smallInt (by omega) (by omega)⟩
      | int16 =>
          have below := Int16.toInt_lt x
          exact ⟨_, _, rfl, rfl, rfl, .smallInt (Int16.le_toInt x) (by omega)⟩
      | int32 =>
          have below := Int32.toInt_lt x
          exact ⟨_, _, rfl, rfl, rfl, .int (Int32.le_toInt x) (by omega)⟩
      | int64 =>
          have below := Int64.toInt_lt x
          exact ⟨_, _, rfl, rfl, rfl, .bigInt (Int64.le_toInt x) (by omega)⟩
      | uint8 =>
          have below := UInt8.toNat_lt x
          exact ⟨_, _, rfl, rfl, rfl, .tinyInt (Int.natCast_nonneg _) (by omega)⟩
      | uint16 =>
          have below := UInt16.toNat_lt x
          have same : (Int32.ofNat (UInt16.toNat x)).toInt = UInt16.toNat x :=
            Int32.toInt_ofNat_of_lt (by omega)
          exact ⟨_, _, rfl, rfl, congrArg (fun n : ℤ => some (n : ℚ)) same,
            .int (by omega) (by omega)⟩
      | uint32 =>
          have below := UInt32.toNat_lt x
          have same : (Int64.ofNat (UInt32.toNat x)).toInt = UInt32.toNat x :=
            Int64.toInt_ofNat_of_lt (by omega)
          exact ⟨_, _, rfl, rfl, congrArg (fun n : ℤ => some (n : ℚ)) same,
            .bigInt (by omega) (by omega)⟩
      | uint64 =>
          have whole : ((UInt64.toNat x : ℤ) : ℚ) / 10 ^ 0 = (UInt64.toNat x : ℤ) := by simp
          exact ⟨_, _, rfl, rfl, congrArg some whole, represents_uint64 x⟩
      | decimal precision scale =>
          exact ⟨_, _, rfl, rfl, rfl, represents_decimal x⟩
      | _ => cases exact

/-- How the type of the widest words is written. -/
theorem written_uint64 :
    "DECIMAL(" ++ natText 20 ++ "," ++ natText 0 ++ ")" = "DECIMAL(20,0)" := by
  decide +kernel

/-- How the widest decimal types are written. -/
theorem written_decimal (scale : ℕ) :
    (ColumnType.decimal ColumnType.maxPrecision scale).written
      = "DECIMAL(38," ++ natText scale ++ ")" := by
  have words : "DECIMAL(" ++ natText ColumnType.maxPrecision ++ "," = "DECIMAL(38," := by
    decide +kernel
  rw [ColumnType.written, words]

/-- **Declared types hold the numbers that are bound to them.** The type of a present integer or
decimal has the number that its cell carries, which is the number of the value, and this is the
type in the line that declares a parameter of that value. A word of 64 bits fits twenty digits, a
decimal fits 38 with its own scale, and an absent decimal is declared with its declared scale as
far as there are digits. -/
theorem Value.declared_holds :
    (∀ v : Value, v.type.isExact = true → v.isNull = false →
      ∃ cell x, v.number? = some x ∧ v.cell? = some cell ∧ cell.number? = some x
        ∧ Represents v.columnType.written x
        ∧ ∀ position name, declaration position ⟨name, v⟩ = "DECLARE @" ++ bareName name ++ " "
          ++ v.columnType.written ++ " = @P" ++ natText position ++ ";\n")
    ∧ (∀ x : UInt64, (present .uint64 x).columnType.written = "DECIMAL(20,0)"
      ∧ Represents "DECIMAL(20,0)" (x.toNat : ℤ))
    ∧ (∀ precision scale (d : Decimal),
      (present (.decimal precision scale) d).columnType.written
        = "DECIMAL(38," ++ natText d.scale ++ ")"
      ∧ Represents ("DECIMAL(38," ++ natText d.scale ++ ")") d.number)
    ∧ ∀ precision scale : UInt8, ∃ s ≤ 38,
      (absent (.decimal precision scale)).columnType.written
        = "DECIMAL(38," ++ natText s ++ ")" ∧ s = min scale.toNat 38 := by
  refine ⟨fun v exact present => ?_, fun x => ?_, fun precision scale d => ?_,
    fun precision scale => ?_⟩
  · obtain ⟨cell, x, held, sent, carried, represented⟩ := exists_represented exact present
    exact ⟨cell, x, held, sent, carried, represented, fun position name =>
      declaration_eq position ⟨name, v⟩⟩
  · refine ⟨written_uint64, ?_⟩
    rw [← written_uint64]
    exact represents_uint64 x
  · have written := written_decimal d.scale
    refine ⟨written, ?_⟩
    rw [← written]
    exact represents_decimal d
  · exact ⟨min scale.toNat 38, Nat.min_le_right _ _, written_decimal _, rfl⟩

/-- The largest word is carried as a number of twenty digits. -/
theorem declared_holds_largest :
    ∃ cell x, (Value.present .uint64 (18446744073709551615 : UInt64)).number? = some x
      ∧ (Value.present .uint64 (18446744073709551615 : UInt64)).cell? = some cell
      ∧ cell.number? = some x ∧ Represents "DECIMAL(20,0)" x := by
  obtain ⟨numbers, -⟩ := Value.declared_holds
  obtain ⟨cell, x, held, sent, carried, represented, -⟩ :=
    numbers (.present .uint64 (18446744073709551615 : UInt64)) rfl rfl
  refine ⟨cell, x, held, sent, carried, ?_⟩
  rw [← written_uint64]
  exact represented

end EntitySql
