import EntitySql.Value.Basic
/-!
# Cells of the wire

A cell is what a column of a row, or a bound parameter, is on the wire: a type and, unless it is
absent, a datum of that type. There are fewer types than values have, and several for timestamps,
which count days from a first day and fractions of a second of different sizes.

## Main definitions

* `CellType`, `CellType.Carrier`, `Cell`.
* `Numeric`, `Ticks`: numbers and times of day in units of a power of ten.
* `CellProblem`: why a datum has no counterpart on the other side.
-/

namespace EntitySql.Wire

open EntitySql.Text Number

/-- The number `unscaled / 10 ^ scale`. -/
structure Numeric where
  unscaled : Int
  scale : Nat
  deriving DecidableEq, Repr

/-- A time of day, as a number of units of `10 ^ -scale` seconds from midnight. -/
structure Ticks where
  count : Nat
  scale : Nat
  deriving DecidableEq, Repr

/-- A day, counted from the first one of 1900, and a number of three hundredths of a second. -/
structure CoarseTimestamp where
  days : Int
  fractions : Nat
  deriving DecidableEq, Repr

/-- A day, counted from the first one of 1900, and a number of minutes. -/
structure MinuteTimestamp where
  days : Nat
  minutes : Nat
  deriving DecidableEq, Repr

/-- A day, counted from the first one of year one, and a time of day. -/
structure FineTimestamp where
  days : Nat
  time : Ticks
  deriving DecidableEq, Repr

/-- A day and a time of day in UTC with the distance of the local time from UTC in minutes. -/
structure ZonedTimestamp where
  utc : FineTimestamp
  minutes : Int
  deriving DecidableEq, Repr

/-- The type of a cell. -/
inductive CellType where
  | bit
  | uint8
  | int16
  | int32
  | int64
  | single
  | double
  | numeric
  | text
  | markup
  | uuid
  | bytes
  | date
  | time
  | coarse
  | minute
  | fine
  | zoned
  deriving DecidableEq, Repr

/-- The data of a type of cells. -/
abbrev CellType.Carrier : CellType → Type
  | bit => Bool
  | uint8 => UInt8
  | int16 => Int16
  | int32 => Int32
  | int64 => Int64
  | single => Binary .single
  | double => Binary .double
  | numeric => Numeric
  | text => String
  | markup => String
  | uuid => Uuid
  | bytes => List UInt8
  | date => Nat
  | time => Ticks
  | coarse => CoarseTimestamp
  | minute => MinuteTimestamp
  | fine => FineTimestamp
  | zoned => ZonedTimestamp

/-- A datum of a type, or its absence. -/
structure Cell where
  type : CellType
  datum : Option type.Carrier

/-! ### Problems -/

/-- Why a number of the wire is no decimal. -/
inductive DecimalProblem where
  | scale (places : Nat)
  | tooLarge
  | tooSmall
  deriving DecidableEq, Repr

/-- The text of the reason. -/
def DecimalProblem.message : DecimalProblem → String
  | .scale places =>
      "Scale exceeds the maximum precision allowed: " ++ natText places ++ " > 28"
  | .tooLarge => "Number exceeds maximum value that can be represented."
  | .tooSmall => "Number less than minimum value that can be represented."

/-- Why a datum has no counterpart on the other side. -/
inductive CellProblem where
  | decimal (problem : DecimalProblem)
  /-- The date is outside the calendar of the other side. Nothing recovers from it. -/
  | calendar
  deriving DecidableEq, Repr

/-- The text of the reason. -/
def CellProblem.message : CellProblem → String
  | .decimal problem => problem.message
  | .calendar => "local datetime out of valid range"

end EntitySql.Wire
