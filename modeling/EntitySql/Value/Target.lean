import EntitySql.Value.Text
/-!
# Reading values as data of a host type

A target is a type of data outside of values. Data of a target become values of one type, and a
value is read as a target where that loses nothing of its kind: integers of every width and
decimals without a fraction as each other, if in range; small integers as truth values; decimals
and binary numbers as each other; timestamps as instants in UTC; texts as identifiers. Everything
else is refused with the value and the target.

Several targets share their data and differ only in the name by which a refusal calls them.

## Main definitions

* `Target`, `Target.type`, `Target.Carrier`, `Target.label`.
* `Target.toValue`, `Target.emptyValue`: from data to values.
* `Target.ofValue?`, `Target.read`: from values to data.
* `Target.readOptional`: the same, where an absent value is read as no data.
-/

namespace EntitySql

open Number Calendar

/-- A type of data that values are read as. -/
inductive Target where
  | bool
  | int8
  | int16
  | int32
  | int64
  | uint8
  | uint16
  | uint32
  | uint64
  | float32
  | float64
  | decimal
  | text
  /-- Text that may be shared. -/
  | sharedText
  /-- Bytes of fixed length. -/
  | fixedBytes
  /-- Bytes that may grow. -/
  | bytes
  | date
  | time
  | timestamp
  | offsetTimestamp
  | uuid
  deriving DecidableEq, Repr

namespace Target

/-- The type of the absent value of a target. -/
def type : Target → ValueType
  | bool => .boolean
  | int8 => .int8
  | int16 => .int16
  | int32 => .int32
  | int64 => .int64
  | uint8 => .uint8
  | uint16 => .uint16
  | uint32 => .uint32
  | uint64 => .uint64
  | float32 => .float32
  | float64 => .float64
  | decimal => .decimal 0 0
  | text | sharedText => .varchar
  | fixedBytes | bytes => .blob
  | date => .date
  | time => .time
  | timestamp => .timestamp
  | offsetTimestamp => .timestampWithTimezone
  | uuid => .uuid

/-- The data of a target. -/
abbrev Carrier (t : Target) : Type :=
  t.type.Carrier

/-- The name of a target in messages. -/
def label : Target → String
  | bool => "bool"
  | int8 => "i8"
  | int16 => "i16"
  | int32 => "i32"
  | int64 => "i64"
  | uint8 => "u8"
  | uint16 => "u16"
  | uint32 => "u32"
  | uint64 => "u64"
  | float32 => "f32"
  | float64 => "f64"
  | decimal => "rust_decimal::decimal::Decimal"
  | text | sharedText => "alloc::string::String"
  | fixedBytes => "alloc::boxed::Box<[u8]>"
  | bytes => "alloc::vec::Vec<u8>"
  | date => "time::date::Date"
  | time => "time::time::Time"
  | timestamp => "time::plain_date_time::PlainDateTime"
  | offsetTimestamp => "time::offset_date_time::OffsetDateTime"
  | uuid => "uuid::Uuid"

/-- The value without data of a target. -/
def emptyValue (t : Target) : Value :=
  .absent t.type

/-- The value of data. A decimal declares its own scale. -/
def toValue : (t : Target) → t.Carrier → Value
  | decimal, x => .ofDecimal x
  | t, x => .present t.type x

/-- The value of data or of none. -/
def toValueOptional (t : Target) : Option t.Carrier → Value
  | none => t.emptyValue
  | some x => t.toValue x

end Target

/-! ### Reading -/

/-- The integer that a present value of an integer type holds, or that a decimal without a
fraction equals. -/
def Value.integer? : Value → Option Int
  | ⟨.int8, some x⟩ => some x.toInt
  | ⟨.int16, some x⟩ => some x.toInt
  | ⟨.int32, some x⟩ => some x.toInt
  | ⟨.int64, some x⟩ => some x.toInt
  | ⟨.uint8, some x⟩ => some x.toNat
  | ⟨.uint16, some x⟩ => some x.toNat
  | ⟨.uint32, some x⟩ => some x.toNat
  | ⟨.uint64, some x⟩ => some x.toNat
  | ⟨.decimal _ _, some x⟩ => x.toInt?
  | _ => none

/-- Truth values, and integers of up to 64 signed or 8 unsigned bits that are true unless
zero. -/
def Value.truth? : Value → Option Bool
  | ⟨.boolean, some x⟩ => some x
  | ⟨.int8, some x⟩ => some (x != 0)
  | ⟨.int16, some x⟩ => some (x != 0)
  | ⟨.int32, some x⟩ => some (x != 0)
  | ⟨.int64, some x⟩ => some (x != 0)
  | ⟨.uint8, some x⟩ => some (x != 0)
  | _ => none

/-- Binary numbers of 64 bits, exact for 32 bit ones and rounded for decimals. -/
def Value.double? : Value → Option (Binary .double)
  | ⟨.float64, some x⟩ => some x
  | ⟨.float32, some x⟩ => some (x.convert .double)
  | ⟨.decimal _ _, some x⟩ => some x.toDouble
  | _ => none

/-- Binary numbers of 32 bits, rounded from 64 bit ones and from decimals by way of these. -/
def Value.single? : Value → Option (Binary .single)
  | ⟨.float32, some x⟩ => some x
  | ⟨.float64, some x⟩ => some (x.convert .single)
  | ⟨.decimal _ _, some x⟩ => some (x.toDouble.convert .single)
  | _ => none

/-- Decimals, and the decimals of integers and of binary numbers in range. -/
def Value.decimal? : Value → Option Decimal
  | ⟨.decimal _ _, some x⟩ => some x
  | ⟨.float32, some x⟩ => Decimal.ofSingle? x
  | ⟨.float64, some x⟩ => Decimal.ofDouble? x
  | v => v.integer?.bind Decimal.ofInt?

/-- An integer between two bounds, made into a word. -/
def fit? {α : Type} (low high : Int) (make : Int → α) (n : Int) : Option α :=
  if low ≤ n ∧ n ≤ high then some (make n) else none

namespace Target

/-- The data that a value is read as. -/
def ofValue? : (t : Target) → Value → Option t.Carrier
  | bool, v => v.truth?
  | int8, v => v.integer?.bind (fit? (-128) 127 Int8.ofInt)
  | int16, v => v.integer?.bind (fit? (-32768) 32767 Int16.ofInt)
  | int32, v => v.integer?.bind (fit? (-2147483648) 2147483647 Int32.ofInt)
  | int64, v => v.integer?.bind (fit? (-9223372036854775808) 9223372036854775807 Int64.ofInt)
  | uint8, v => v.integer?.bind (fit? 0 255 fun n => UInt8.ofNat n.toNat)
  | uint16, v => v.integer?.bind (fit? 0 65535 fun n => UInt16.ofNat n.toNat)
  | uint32, v => v.integer?.bind (fit? 0 4294967295 fun n => UInt32.ofNat n.toNat)
  | uint64, v => v.integer?.bind (fit? 0 18446744073709551615 fun n => UInt64.ofNat n.toNat)
  | float32, v => v.single?
  | float64, v => v.double?
  | decimal, v => v.decimal?
  | text, ⟨.varchar, some x⟩ => some x
  | sharedText, ⟨.varchar, some x⟩ => some x
  | fixedBytes, ⟨.blob, some x⟩ => some x
  | bytes, ⟨.blob, some x⟩ => some x
  | date, ⟨.date, some x⟩ => some x
  | time, ⟨.time, some x⟩ => some x
  | timestamp, ⟨.timestamp, some x⟩ => some x
  | offsetTimestamp, ⟨.timestampWithTimezone, some x⟩ => some x
  | offsetTimestamp, ⟨.timestamp, some x⟩ => some (.utc x)
  | uuid, ⟨.uuid, some x⟩ => some x
  | uuid, ⟨.varchar, some x⟩ => Uuid.ofText? x
  | _, _ => none

/-- A value that is not read as a target. -/
structure Refusal where
  value : Value
  target : Target

/-- The text of the refusal. -/
def Refusal.message (r : Refusal) : String :=
  "Cannot convert " ++ r.value.detailed ++ " into " ++ r.target.label

/-- The data that a value is read as, or the refusal. -/
def read (t : Target) (v : Value) : Except Refusal t.Carrier :=
  match t.ofValue? v with
  | some x => .ok x
  | none => .error ⟨v, t⟩

/-- The same, where an absent value of any type is read as no data. -/
def readOptional (t : Target) (v : Value) : Except Refusal (Option t.Carrier) :=
  if v.isNull then .ok none else (t.read v).map some

end Target

end EntitySql
