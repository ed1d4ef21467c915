import EntitySql.Wire.Cell
/-!
# Encoding values

A value is bound as the narrowest cell that holds every value of its type; small signed integers
and unsigned ones travel as wider integers, and the widest unsigned ones as numbers of scale zero.
Times of day are cut to a tenth of a microsecond and offsets to a minute, toward zero. Days are
counted from the first one of year one, and earlier days have no cell.

## Main definitions

* `Value.cell?`: the cell of a value.
-/

namespace EntitySql

open EntitySql.Wire Calendar

/-- The number of a decimal, which has no negative zero. -/
def Number.Decimal.numeric (d : Number.Decimal) : Numeric :=
  ⟨d.signedMantissa, d.scale⟩

/-- The day of a date, if it is not before year one. -/
def Calendar.Date.days? (d : Date) : Option Nat :=
  if 0 ≤ d.dayNumber then some d.dayNumber.toNat else none

/-- The tenths of microseconds of a time of day. -/
def Calendar.Time.ticks (t : Time) : Ticks :=
  ⟨t.nanoseconds / 100, 7⟩

/-- The day and the time of a timestamp. -/
def Calendar.Timestamp.fine? (t : Timestamp) : Option FineTimestamp := do
  return ⟨← t.date.days?, t.time.ticks⟩

/-- The day and the time in UTC of a timestamp with an offset. -/
def Calendar.OffsetTimestamp.zoned? (t : OffsetTimestamp) : Option ZonedTimestamp := do
  let utc ← Timestamp.ofPosition? t.instant
  return ⟨← utc.fine?, t.offset.tdiv 60⟩

/-- The cell of a value, unless it is a date before year one. -/
def Value.cell? : Value → Option Cell
  | ⟨.null, _⟩ => some ⟨.text, none⟩
  | ⟨.boolean, x⟩ => some ⟨.bit, x⟩
  | ⟨.int8, x⟩ => some ⟨.int16, x.map Int8.toInt16⟩
  | ⟨.int16, x⟩ => some ⟨.int16, x⟩
  | ⟨.int32, x⟩ => some ⟨.int32, x⟩
  | ⟨.int64, x⟩ => some ⟨.int64, x⟩
  | ⟨.uint8, x⟩ => some ⟨.uint8, x⟩
  | ⟨.uint16, x⟩ => some ⟨.int32, x.map fun n => Int32.ofNat n.toNat⟩
  | ⟨.uint32, x⟩ => some ⟨.int64, x.map fun n => Int64.ofNat n.toNat⟩
  | ⟨.uint64, x⟩ => some ⟨.numeric, x.map fun n => ⟨n.toNat, 0⟩⟩
  | ⟨.float32, x⟩ => some ⟨.single, x⟩
  | ⟨.float64, x⟩ => some ⟨.double, x⟩
  | ⟨.decimal _ _, x⟩ => some ⟨.numeric, x.map Number.Decimal.numeric⟩
  | ⟨.varchar, x⟩ => some ⟨.text, x⟩
  | ⟨.blob, x⟩ => some ⟨.bytes, x⟩
  | ⟨.date, none⟩ => some ⟨.date, none⟩
  | ⟨.date, some x⟩ => x.days?.map fun days => ⟨.date, some days⟩
  | ⟨.time, x⟩ => some ⟨.time, x.map Time.ticks⟩
  | ⟨.timestamp, none⟩ => some ⟨.fine, none⟩
  | ⟨.timestamp, some x⟩ => x.fine?.map fun t => ⟨.fine, some t⟩
  | ⟨.timestampWithTimezone, none⟩ => some ⟨.zoned, none⟩
  | ⟨.timestampWithTimezone, some x⟩ => x.zoned?.map fun t => ⟨.zoned, some t⟩
  | ⟨.uuid, x⟩ => some ⟨.uuid, x⟩

end EntitySql
