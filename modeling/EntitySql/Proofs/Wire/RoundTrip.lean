import EntitySql.Value.Target
import EntitySql.Wire.Decoding
import EntitySql.Wire.Encoding
import Mathlib.Data.Option.Defs
/-!
# Data that survive the wire

Data of a host type become a value, the value a cell, the cell a value again, and that value is
read as data of the host type. There are fewer types of cells than of data, so the second value
need not be of the type of the first: small and unsigned integers travel as wider ones, the widest
of all as numbers. What is kept is the integer, and reading goes by it. A decimal travels as its
mantissa and its scale, and only the sign of zero is lost.

Dates and times are left out here: cells count them in other units.

## Main definitions

* `Target.isCalendar`, `Target.isInteger`: targets of one kind.
* `Target.cellType`: the type of the cells that data of a target travel as.
* `Target.SameData`: the data that count as the same.

## Main results

* `Target.ofValue?_of_integer`: integers are read by their number, whatever type holds it.
* `Wire.Numeric.exists_decimal`: numbers in range are decimals of the same mantissa and scale.
* `Target.reads_back`: data and their absence come back from the wire, and an absent cell is never
  read as data.
-/

namespace EntitySql

open EntitySql.Wire Number

/-! ### Kinds of targets -/

namespace Target

/-- Whether a target is of dates or times. -/
def isCalendar : Target → Bool
  | date | time | timestamp | offsetTimestamp => true
  | _ => false

/-- Whether a target is of integers. -/
def isInteger : Target → Bool
  | int8 | int16 | int32 | int64 | uint8 | uint16 | uint32 | uint64 => true
  | _ => false

/-- The type of the cells that data of a target travel as. -/
def cellType : Target → CellType
  | bool => .bit
  | int8 | int16 => .int16
  | int32 | uint16 => .int32
  | int64 | uint32 => .int64
  | uint8 => .uint8
  | uint64 | decimal => .numeric
  | float32 => .single
  | float64 => .double
  | text | sharedText => .text
  | fixedBytes | bytes => .bytes
  | date => .date
  | time => .time
  | timestamp => .fine
  | offsetTimestamp => .zoned
  | uuid => .uuid

/-- The **same data**: decimals with the same number, whatever the sign of zero, and the same
scale, and all other data that are equal, binary numbers in every bit. -/
def SameData : (t : Target) → t.Carrier → t.Carrier → Prop
  | decimal, x, y => x.signedMantissa = y.signedMantissa ∧ x.scale = y.scale
  | _, x, y => x = y

/-- Data read back unchanged are the same data. -/
theorem SameData.refl (t : Target) (x : t.Carrier) : t.SameData x x := by
  cases t with
  | decimal => exact ⟨rfl, rfl⟩
  | _ => rfl

end Target

/-! ### Absent values -/

namespace Value

/-- An absent value has no integer. -/
theorem integer?_absent (type : ValueType) : (absent type).integer? = none := by
  cases type <;> rfl

/-- An absent value has no truth. -/
theorem truth?_absent (type : ValueType) : (absent type).truth? = none := by
  cases type <;> rfl

/-- An absent value is no single-precision number. -/
theorem single?_absent (type : ValueType) : (absent type).single? = none := by
  cases type <;> rfl

/-- An absent value is no double-precision number. -/
theorem double?_absent (type : ValueType) : (absent type).double? = none := by
  cases type <;> rfl

/-- An absent value is no decimal. -/
theorem decimal?_absent (type : ValueType) : (absent type).decimal? = none := by
  cases type <;> rfl

end Value

/-- No target reads data from an absent value. -/
theorem Target.ofValue?_absent (t : Target) (type : ValueType) :
    t.ofValue? (.absent type) = none := by
  cases t with
  | bool => exact Value.truth?_absent type
  | float32 => exact Value.single?_absent type
  | float64 => exact Value.double?_absent type
  | decimal => exact Value.decimal?_absent type
  | int8 | int16 | int32 | int64 | uint8 | uint16 | uint32 | uint64 =>
      exact congrArg (Option.bind · _) (Value.integer?_absent type)
  | text | sharedText | fixedBytes | bytes | date | time | timestamp | offsetTimestamp | uuid =>
      cases type <;> rfl

/-- What is read from a value is read where data may be absent. -/
theorem Target.readOptional_of_ofValue? {t : Target} {v : Value} {y : t.Carrier}
    (found : t.ofValue? v = some y) : t.readOptional v = .ok (some y) := by
  obtain ⟨type, datum⟩ := v
  cases datum with
  | none => cases (t.ofValue?_absent type).symm.trans found
  | some datum =>
      rw [readOptional, Value.isNull_eq, read, found]
      rfl

/-- Absent values of every type are read as no data. -/
theorem Target.readOptional_absent (t : Target) (type : ValueType) :
    t.readOptional (.absent type) = .ok none := by
  rw [readOptional, Value.isNull_eq]
  rfl

/-- An absent cell is an absent value. -/
theorem Wire.Cell.exists_value_absent (type : CellType) :
    ∃ valueType, Cell.value ⟨type, none⟩ = .ok (.absent valueType) := by
  cases type <;> exact ⟨_, rfl⟩

/-! ### Integers -/

/-- An integer within the bounds is read, as the datum that is made of it. -/
theorem bind_fit?_eq_some {α : Type} {integer : Option Int} {low high n : Int} {make : Int → α}
    {a : α} (held : integer = some n) (above : low ≤ n) (below : n ≤ high) (made : make n = a) :
    integer.bind (fit? low high make) = some a := by
  rw [held, Option.bind_some, fit?, if_pos ⟨above, below⟩, made]

/-- **A value that holds the integer of a word is read as the word**, whatever its type. -/
theorem Target.ofValue?_of_integer {t : Target} (integral : t.isInteger = true) {x : t.Carrier}
    {v : Value} (held : v.integer? = (t.toValue x).integer?) : t.ofValue? v = some x := by
  cases t with
  | int8 =>
      have below := Int8.toInt_lt x
      exact bind_fit?_eq_some held (Int8.le_toInt x) (by omega) (Int8.ofInt_toInt x)
  | int16 =>
      have below := Int16.toInt_lt x
      exact bind_fit?_eq_some held (Int16.le_toInt x) (by omega) (Int16.ofInt_toInt x)
  | int32 =>
      have below := Int32.toInt_lt x
      exact bind_fit?_eq_some held (Int32.le_toInt x) (by omega) (Int32.ofInt_toInt x)
  | int64 =>
      have below := Int64.toInt_lt x
      exact bind_fit?_eq_some held (Int64.le_toInt x) (by omega) (Int64.ofInt_toInt x)
  | uint8 =>
      have below := UInt8.toNat_lt x
      exact bind_fit?_eq_some held (Int.natCast_nonneg _) (by omega) UInt8.ofNat_toNat
  | uint16 =>
      have below := UInt16.toNat_lt x
      exact bind_fit?_eq_some held (Int.natCast_nonneg _) (by omega) UInt16.ofNat_toNat
  | uint32 =>
      have below := UInt32.toNat_lt x
      exact bind_fit?_eq_some held (Int.natCast_nonneg _) (by omega) UInt32.ofNat_toNat
  | uint64 =>
      have below := UInt64.toNat_lt x
      exact bind_fit?_eq_some held (Int.natCast_nonneg _) (by omega) UInt64.ofNat_toNat
  | _ => cases integral

/-! ### Numbers -/

/-- A number in range is a decimal of the same mantissa and scale. -/
theorem Wire.Numeric.exists_decimal {n : Numeric} (mantissa : n.unscaled.natAbs < twoTo 96)
    (scale : n.scale ≤ 28) :
    ∃ d, n.decimal = .ok d ∧ d.signedMantissa = n.unscaled ∧ d.scale = n.scale := by
  refine ⟨⟨n.unscaled < 0, n.unscaled.natAbs, n.scale, mantissa, scale⟩, ?_, ?_, rfl⟩
  · rw [Numeric.decimal, dif_neg (Nat.not_lt_of_le scale), dif_neg (Nat.not_le_of_lt mantissa)]
  · by_cases below : n.unscaled < 0
    · simp only [Decimal.signedMantissa, below, decide_true, if_true]
      omega
    · simp only [Decimal.signedMantissa, below, decide_false, Bool.false_eq_true, if_false]
      omega

/-- The mantissa of a decimal without its sign. -/
theorem Number.Decimal.natAbs_signedMantissa (d : Decimal) :
    d.signedMantissa.natAbs = d.mantissa := by
  rw [signedMantissa]
  cases d.negative <;> simp

/-- A decimal of scale zero equals its mantissa. -/
theorem Number.Decimal.toInt?_of_scale {d : Decimal} (whole : d.scale = 0) :
    d.toInt? = some d.signedMantissa := by
  simp [toInt?, isInteger, signedMantissa, whole, Nat.mod_one]

namespace Target

variable {t : Target}

/-- An integer that travels as a wider one, or as a number, stays the same integer. -/
theorem exists_integer_of_cell (integral : t.isInteger = true) (x : t.Carrier) :
    ∃ datum v, (t.toValue x).cell? = some ⟨t.cellType, some datum⟩
      ∧ Cell.value ⟨t.cellType, some datum⟩ = .ok v ∧ v.integer? = (t.toValue x).integer? := by
  cases t with
  | int16 | int32 | int64 | uint8 => exact ⟨x, _, rfl, rfl, rfl⟩
  | int8 => exact ⟨Int8.toInt16 x, _, rfl, rfl, congrArg some (Int8.toInt_toInt16 x)⟩
  | uint16 =>
      have below := UInt16.toNat_lt x
      exact ⟨Int32.ofNat x.toNat, _, rfl, rfl, congrArg some (Int32.toInt_ofNat_of_lt (by omega))⟩
  | uint32 =>
      have below := UInt32.toNat_lt x
      exact ⟨Int64.ofNat x.toNat, _, rfl, rfl, congrArg some (Int64.toInt_ofNat_of_lt (by omega))⟩
  | uint64 =>
      have below : x.toNat < twoTo 96 := Nat.lt_trans (UInt64.toNat_lt x) (by decide)
      obtain ⟨d, read, mantissa, scale⟩ :=
        Numeric.exists_decimal (n := ⟨x.toNat, 0⟩) below (Nat.zero_le 28)
      refine ⟨⟨x.toNat, 0⟩, .present (.decimal 38 0) d, rfl, ?_, ?_⟩
      · simp only [Cell.value, cellType, read]
        rfl
      · exact (Decimal.toInt?_of_scale scale).trans (congrArg some mantissa)
  | _ => cases integral

/-- A decimal that travels as a number keeps its mantissa and its scale. -/
theorem exists_decimal_of_cell (x : Decimal) :
    ∃ datum v y, (decimal.toValue x).cell? = some ⟨.numeric, some datum⟩
      ∧ Cell.value ⟨.numeric, some datum⟩ = .ok v ∧ decimal.ofValue? v = some y
      ∧ decimal.SameData y x := by
  have below : x.numeric.unscaled.natAbs < twoTo 96 :=
    Nat.lt_of_le_of_lt (Nat.le_of_eq x.natAbs_signedMantissa) x.mantissa_lt
  obtain ⟨d, read, mantissa, scale⟩ := Numeric.exists_decimal below x.scale_le
  refine ⟨x.numeric, .present (.decimal 38 (UInt8.ofNat x.scale)) d, d, rfl, ?_, rfl, mantissa,
    scale⟩
  simp only [Cell.value, read]
  rfl

/-- Present data come back from the wire. -/
theorem exists_ofValue?_of_cell (counted : t.isCalendar = false) (x : t.Carrier) :
    ∃ datum v y, (t.toValue x).cell? = some ⟨t.cellType, some datum⟩
      ∧ Cell.value ⟨t.cellType, some datum⟩ = .ok v ∧ t.ofValue? v = some y ∧ t.SameData y x := by
  cases integral : t.isInteger with
  | true =>
      obtain ⟨datum, v, sent, received, held⟩ := exists_integer_of_cell integral x
      exact ⟨datum, v, x, sent, received, ofValue?_of_integer integral held, .refl t x⟩
  | false =>
      cases t with
      | bool | float32 | float64 | text | sharedText | fixedBytes | bytes | uuid =>
          exact ⟨x, _, x, rfl, rfl, rfl, rfl⟩
      | decimal => exact exists_decimal_of_cell x
      | date | time | timestamp | offsetTimestamp => cases counted
      | _ => cases integral

/-- **Data survive the wire.** Data of a target other than dates and times, or the absence of data,
are sent as a cell of one type, and reading the value of that cell gives the same data or their
absence. An absent cell, whatever its type, is refused where data are needed. -/
theorem reads_back (counted : t.isCalendar = false) (x : Option t.Carrier) :
    (∃ datum v y, (t.toValueOptional x).cell? = some ⟨t.cellType, datum⟩
      ∧ Cell.value ⟨t.cellType, datum⟩ = .ok v ∧ t.readOptional v = .ok y
      ∧ Option.Rel t.SameData y x)
    ∧ ∀ type, ∃ v, Cell.value ⟨type, none⟩ = .ok v ∧ t.read v = .error ⟨v, t⟩ := by
  constructor
  · cases x with
    | none =>
        obtain ⟨type, received⟩ := Cell.exists_value_absent t.cellType
        refine ⟨none, .absent type, none, ?_, received, t.readOptional_absent type, .none⟩
        cases t <;> rfl
    | some x =>
        obtain ⟨datum, v, y, sent, received, found, same⟩ := exists_ofValue?_of_cell counted x
        exact ⟨some datum, v, some y, sent, received, readOptional_of_ofValue? found, .some same⟩
  · intro type
    obtain ⟨valueType, received⟩ := Cell.exists_value_absent type
    refine ⟨.absent valueType, received, ?_⟩
    rw [read, ofValue?_absent]

/-- The largest word travels as a number, and an absent number is not a word. -/
theorem reads_back_largest :
    uint64.isCalendar = false
      ∧ (∃ datum v, (uint64.toValueOptional (some (18446744073709551615 : UInt64))).cell?
          = some ⟨.numeric, datum⟩
        ∧ Cell.value ⟨.numeric, datum⟩ = .ok v
        ∧ uint64.readOptional v = .ok (some (18446744073709551615 : UInt64)))
      ∧ ∃ v, Cell.value ⟨.numeric, none⟩ = .ok v ∧ uint64.read v = .error ⟨v, uint64⟩ := by
  obtain ⟨⟨datum, v, y, sent, received, found, same⟩, absent⟩ :=
    reads_back (t := uint64) rfl (some (18446744073709551615 : UInt64))
  obtain ⟨rfl⟩ := same
  exact ⟨rfl, ⟨datum, v, sent, received, found⟩, absent .numeric⟩

end Target

end EntitySql
