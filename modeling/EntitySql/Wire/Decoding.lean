import EntitySql.Wire.Cell
/-!
# Decoding cells

A cell is read as a value of the type that belongs to its own, whether it is absent or not.
Numbers are decimals of the largest declared precision and their own scale, and those that no
decimal holds are refused. Times of day are read modulo a day, which leaves the date as it is.
Every date must be in the calendar, the one in UTC as well as the local one.

## Main definitions

* `Numeric.decimal`, `Ticks.time`: the data of numbers and times.
* `Cell.value`: the value of a cell.
-/

namespace EntitySql.Wire

open Number Calendar

/-- The decimal of a number. -/
def Numeric.decimal (n : Numeric) : Except DecimalProblem Decimal :=
  if scale_gt : 28 < n.scale then .error (.scale n.scale)
  else if mantissa_ge : twoTo 96 ≤ n.unscaled.natAbs then
    .error (if n.unscaled < 0 then .tooSmall else .tooLarge)
  else .ok ⟨n.unscaled < 0, n.unscaled.natAbs, n.scale, Nat.lt_of_not_le mantissa_ge,
    Nat.le_of_not_lt scale_gt⟩

/-- The time of day of a number of units. -/
def Ticks.time (t : Ticks) : Time :=
  .ofNanoseconds (t.count * tenTo (9 - t.scale))

/-- The number of days from the first one of year one to the first one of 1900. -/
def firstCoarseDay : Nat := 693595

/-- The date of a day, counted from the first one of year one. -/
def dateOf (days : Int) : Except CellProblem Date :=
  match Date.ofDayNumber? days with
  | some d => .ok d
  | none => .error .calendar

/-- The timestamp of three hundredths of a second. -/
def CoarseTimestamp.stamp (t : CoarseTimestamp) : Except CellProblem Timestamp :=
  if t.days < 0 then .error .calendar
  else do
    return ⟨← dateOf (firstCoarseDay + t.days), .ofNanoseconds (t.fractions * 1000000000 / 300)⟩

/-- The timestamp of minutes. -/
def MinuteTimestamp.stamp (t : MinuteTimestamp) : Except CellProblem Timestamp := do
  return ⟨← dateOf (firstCoarseDay + t.days), .ofNanoseconds (t.minutes * 60000000000)⟩

/-- The timestamp of a day and a time of day. -/
def FineTimestamp.stamp (t : FineTimestamp) : Except CellProblem Timestamp := do
  return ⟨← dateOf t.days, t.time.time⟩

/-- The timestamp with an offset of a day and a time of day in UTC. -/
def ZonedTimestamp.stamp (t : ZonedTimestamp) : Except CellProblem OffsetTimestamp := do
  let utc ← t.utc.stamp
  match OffsetTimestamp.ofInstant? utc.position (t.minutes * 60) with
  | some stamp => .ok stamp
  | none => .error .calendar

/-- The value of a datum that a rule reads, or of its absence. -/
def readAs {α : Type} (type : ValueType) (rule : α → Except CellProblem type.Carrier) :
    Option α → Except CellProblem Value
  | none => .ok (.absent type)
  | some x => (rule x).map (Value.present type)

/-- The value of a cell. -/
def Cell.value : Cell → Except CellProblem Value
  | ⟨.bit, x⟩ => .ok ⟨.boolean, x⟩
  | ⟨.uint8, x⟩ => .ok ⟨.uint8, x⟩
  | ⟨.int16, x⟩ => .ok ⟨.int16, x⟩
  | ⟨.int32, x⟩ => .ok ⟨.int32, x⟩
  | ⟨.int64, x⟩ => .ok ⟨.int64, x⟩
  | ⟨.single, x⟩ => .ok ⟨.float32, x⟩
  | ⟨.double, x⟩ => .ok ⟨.float64, x⟩
  | ⟨.numeric, none⟩ => .ok (.absent (.decimal 38 0))
  | ⟨.numeric, some n⟩ =>
      (n.decimal.mapError .decimal).map (Value.present (.decimal 38 (UInt8.ofNat n.scale)))
  | ⟨.text, x⟩ => .ok ⟨.varchar, x⟩
  | ⟨.markup, x⟩ => .ok ⟨.varchar, x⟩
  | ⟨.uuid, x⟩ => .ok ⟨.uuid, x⟩
  | ⟨.bytes, x⟩ => .ok ⟨.blob, x⟩
  | ⟨.date, x⟩ => readAs .date (fun days => dateOf days) x
  | ⟨.time, x⟩ => .ok ⟨.time, x.map Ticks.time⟩
  | ⟨.coarse, x⟩ => readAs .timestamp CoarseTimestamp.stamp x
  | ⟨.minute, x⟩ => readAs .timestamp MinuteTimestamp.stamp x
  | ⟨.fine, x⟩ => readAs .timestamp FineTimestamp.stamp x
  | ⟨.zoned, x⟩ => readAs .timestampWithTimezone ZonedTimestamp.stamp x

end EntitySql.Wire
