import EntitySql.Number.Decimal
import EntitySql.Calendar.Timestamp
import EntitySql.Uuid
/-!
# Values

A value is a type and, unless it is absent, a datum of that type. The absent value of a type is
its tag: two values are of the same type exactly when their tags are equal. The type `null` has
no datum, so its only value is the absent one, of unknown type.

Decimals carry a declared precision and scale in their type. They say nothing about the datum,
which has a scale of its own.

## Main definitions

* `ValueType`, `ValueType.Carrier`: the types and what data they have.
* `Value`: a type with a datum or none.
* `Value.isNull`, `Value.isNumeric`, `Value.tag`, `Value.sameType`.
* `Value.same`: equality of values, numeric on numbers and of instants on timestamps with an
  offset.
-/

namespace EntitySql

open Number Calendar

/-- The type of a value. -/
inductive ValueType where
  | null
  | boolean
  | int8
  | int16
  | int32
  | int64
  | uint8
  | uint16
  | uint32
  | uint64
  | float32
  | float64
  /-- Decimals with a declared precision and scale. -/
  | decimal (precision scale : UInt8)
  | varchar
  | blob
  | date
  | time
  | timestamp
  | timestampWithTimezone
  | uuid
  deriving DecidableEq

namespace ValueType

/-- The data of a type. -/
abbrev Carrier : ValueType → Type
  | null => Empty
  | boolean => Bool
  | int8 => Int8
  | int16 => Int16
  | int32 => Int32
  | int64 => Int64
  | uint8 => UInt8
  | uint16 => UInt16
  | uint32 => UInt32
  | uint64 => UInt64
  | float32 => Binary .single
  | float64 => Binary .double
  | decimal _ _ => Decimal
  | varchar => String
  | blob => List UInt8
  | date => Date
  | time => Time
  | timestamp => Timestamp
  | timestampWithTimezone => OffsetTimestamp
  | uuid => Uuid

/-- The name of a type, without the declared precision and scale. -/
def name : ValueType → String
  | null => "Null"
  | boolean => "Boolean"
  | int8 => "Int8"
  | int16 => "Int16"
  | int32 => "Int32"
  | int64 => "Int64"
  | uint8 => "UInt8"
  | uint16 => "UInt16"
  | uint32 => "UInt32"
  | uint64 => "UInt64"
  | float32 => "Float32"
  | float64 => "Float64"
  | decimal _ _ => "Decimal"
  | varchar => "Varchar"
  | blob => "Blob"
  | date => "Date"
  | time => "Time"
  | timestamp => "Timestamp"
  | timestampWithTimezone => "TimestampWithTimezone"
  | uuid => "Uuid"

/-- The types whose data are written as bare numerals. -/
def isNumeric : ValueType → Bool
  | int8 | int16 | int32 | int64 | uint8 | uint16 | uint32 | uint64 | float32 | float64
  | decimal _ _ => true
  | _ => false

/-- Equality of data: binary numbers and decimals are compared as numbers, timestamps with an
offset as instants, everything else as it is. -/
def sameDatum : (t : ValueType) → t.Carrier → t.Carrier → Bool
  | null, _, _ => true
  | boolean, x, y => decide (x = y)
  | int8, x, y => decide (x = y)
  | int16, x, y => decide (x = y)
  | int32, x, y => decide (x = y)
  | int64, x, y => decide (x = y)
  | uint8, x, y => decide (x = y)
  | uint16, x, y => decide (x = y)
  | uint32, x, y => decide (x = y)
  | uint64, x, y => decide (x = y)
  | float32, x, y => x.same y
  | float64, x, y => x.same y
  | decimal _ _, x, y => x.same y
  | varchar, x, y => decide (x = y)
  | blob, x, y => decide (x = y)
  | date, x, y => decide (x = y)
  | time, x, y => decide (x = y)
  | timestamp, x, y => decide (x = y)
  | timestampWithTimezone, x, y => x.same y
  | uuid, x, y => decide (x = y)

/-- Which one a type is tells it from all others, except decimals from decimals. -/
theorem eq_or_decimal_of_ctorIdx_eq {t u : ValueType} (same : t.ctorIdx = u.ctorIdx) :
    t = u ∨ ∃ precision scale precision' scale',
      t = .decimal precision scale ∧ u = .decimal precision' scale' := by
  cases t with
  | decimal precision scale =>
      cases u with
      | decimal precision' scale' => exact .inr ⟨_, _, _, _, rfl, rfl⟩
      | _ => cases same
  | _ => cases u <;> first | exact .inl rfl | cases same

end ValueType

/-- A datum of a type, or its absence. -/
structure Value where
  type : ValueType
  datum : Option type.Carrier

namespace Value

/-- The present value of a datum. -/
def present (type : ValueType) (datum : type.Carrier) : Value :=
  ⟨type, some datum⟩

/-- The absent value of a type. -/
def absent (type : ValueType) : Value :=
  ⟨type, none⟩

/-- The absent value of unknown type. -/
def null : Value :=
  absent .null

instance : Inhabited Value := ⟨null⟩

/-- Whether the value is absent. Without a type there is no datum. -/
def isNull : Value → Bool
  | ⟨.null, _⟩ => true
  | ⟨.boolean, x⟩ => x.isNone
  | ⟨.int8, x⟩ => x.isNone
  | ⟨.int16, x⟩ => x.isNone
  | ⟨.int32, x⟩ => x.isNone
  | ⟨.int64, x⟩ => x.isNone
  | ⟨.uint8, x⟩ => x.isNone
  | ⟨.uint16, x⟩ => x.isNone
  | ⟨.uint32, x⟩ => x.isNone
  | ⟨.uint64, x⟩ => x.isNone
  | ⟨.float32, x⟩ => x.isNone
  | ⟨.float64, x⟩ => x.isNone
  | ⟨.decimal _ _, x⟩ => x.isNone
  | ⟨.varchar, x⟩ => x.isNone
  | ⟨.blob, x⟩ => x.isNone
  | ⟨.date, x⟩ => x.isNone
  | ⟨.time, x⟩ => x.isNone
  | ⟨.timestamp, x⟩ => x.isNone
  | ⟨.timestampWithTimezone, x⟩ => x.isNone
  | ⟨.uuid, x⟩ => x.isNone

/-- Whether the type of the value is written as bare numerals. -/
def isNumeric (v : Value) : Bool :=
  v.type.isNumeric

/-- The absent value of the same type. -/
def tag (v : Value) : Value :=
  match v.type with
  | .null => null
  | .boolean => absent .boolean
  | .int8 => absent .int8
  | .int16 => absent .int16
  | .int32 => absent .int32
  | .int64 => absent .int64
  | .uint8 => absent .uint8
  | .uint16 => absent .uint16
  | .uint32 => absent .uint32
  | .uint64 => absent .uint64
  | .float32 => absent .float32
  | .float64 => absent .float64
  | .decimal precision scale => absent (.decimal precision scale)
  | .varchar => absent .varchar
  | .blob => absent .blob
  | .date => absent .date
  | .time => absent .time
  | .timestamp => absent .timestamp
  | .timestampWithTimezone => absent .timestampWithTimezone
  | .uuid => absent .uuid

/-- Whether two values have the same type. Decimals are compared by the declared precision and
scale, and all others by which type they are. -/
def sameType (a b : Value) : Bool :=
  match a.type, b.type with
  | .decimal precision scale, .decimal precision' scale' =>
      precision == precision' && scale == scale'
  | t, u => t.ctorIdx == u.ctorIdx

/-- Equality of values: the same type, and both absent or data that are equal in it. -/
def same (a b : Value) : Bool :=
  if h : a.type = b.type then
    match h ▸ a.datum, b.datum with
    | none, none => true
    | some x, some y => b.type.sameDatum x y
    | _, _ => false
  else false

instance : BEq Value := ⟨same⟩

/-! ### Values of one type -/

/-- A truth value. -/
def ofBool (b : Bool) : Value := present .boolean b

/-- A 32 bit integer. -/
def ofInt32 (n : Int32) : Value := present .int32 n

/-- A 32 bit natural number. -/
def ofUInt32 (n : UInt32) : Value := present .uint32 n

/-- A text. -/
def ofString (s : String) : Value := present .varchar s

/-- A decimal with a declared precision of zero and its own scale. -/
def ofDecimal (d : Decimal) : Value := present (.decimal 0 (UInt8.ofNat d.scale)) d

/-! ### Small lemmas -/

/-- The scale of a decimal fits the word that a type declares it with. -/
theorem declaredScale_eq_zero_iff {scale : Nat} (small : scale ≤ 28) :
    UInt8.ofNat scale = 0 ↔ scale = 0 := by
  have fits : scale < 2 ^ 8 := Nat.lt_of_le_of_lt small (by decide)
  rw [← UInt8.toNat_inj, UInt8.toNat_ofNat_of_lt' fits, UInt8.toNat_zero]

/-- A value is absent exactly if it has no datum. -/
theorem isNull_eq (v : Value) : v.isNull = v.datum.isNone := by
  obtain ⟨type, datum⟩ := v
  cases type with
  | null =>
      cases datum with
      | none => rfl
      | some x => exact x.elim
  | _ => rfl

/-- The tag of a value is the absent value of its type. -/
theorem tag_eq (v : Value) : v.tag = absent v.type := by
  obtain ⟨type, datum⟩ := v
  cases type <;> rfl

/-- Two values have the same type exactly if their types are equal. -/
theorem sameType_iff (a b : Value) : a.sameType b = true ↔ a.type = b.type := by
  rw [sameType]
  split
  · next declared declared' =>
      rw [declared, declared', ValueType.decimal.injEq, Bool.and_eq_true, beq_iff_eq, beq_iff_eq]
  · next other =>
      refine ⟨fun same => ?_, fun same => beq_iff_eq.mpr (congrArg _ same)⟩
      obtain equal | ⟨_, _, _, _, declared, declared'⟩ :=
        ValueType.eq_or_decimal_of_ctorIdx_eq (beq_iff_eq.mp same)
      · exact equal
      · exact (other _ _ _ _ declared declared').elim

end Value

end EntitySql
