import EntitySql.Calendar.Date
import EntitySql.Calendar.Time
/-!
# Timestamps

A timestamp is a date and a time of day. With an offset from UTC it denotes an instant:
`OffsetTimestamp.instant` is the number of nanoseconds from the start of year one in UTC, and
timestamps with different offsets may denote the same one.

## Main definitions

* `Timestamp`, `Timestamp.position`.
* `OffsetTimestamp`, `OffsetTimestamp.instant`, `OffsetTimestamp.same`.
* `OffsetTimestamp.ofInstant?`: the timestamp of an instant at an offset.
-/

namespace EntitySql.Calendar

open EntitySql.Text

/-- A date and a time of day. -/
structure Timestamp where
  date : Date
  time : Time
  deriving DecidableEq

namespace Timestamp

/-- The number of nanoseconds from the start of year one. -/
def position (t : Timestamp) : Int :=
  t.date.dayNumber * nanosPerDay + t.time.nanoseconds

/-- The timestamp so many nanoseconds from the start of year one, if its year is in range. -/
def ofPosition? (n : Int) : Option Timestamp := do
  let date ← Date.ofDayNumber? (n / nanosPerDay)
  return ⟨date, Time.ofNanoseconds (n % nanosPerDay).toNat⟩

/-- The date and the time with a space between them. -/
def text (t : Timestamp) : List Char :=
  t.date.text ++ ' ' :: t.time.text

end Timestamp

/-- The largest distance from UTC in seconds. -/
def maxOffset : Nat := 93599

/-- A local date and time with its distance from UTC in seconds. -/
structure OffsetTimestamp where
  stamp : Timestamp
  offset : Int
  offset_le : offset.natAbs ≤ maxOffset
  deriving DecidableEq

namespace OffsetTimestamp

/-- The timestamp with this offset, if it is in range. -/
def ofOffset? (stamp : Timestamp) (offset : Int) : Option OffsetTimestamp :=
  if h : offset.natAbs ≤ maxOffset then some ⟨stamp, offset, h⟩ else none

/-- The timestamp in UTC. -/
def utc (stamp : Timestamp) : OffsetTimestamp :=
  ⟨stamp, 0, by decide⟩

/-- The number of nanoseconds from the start of year one in UTC. -/
def instant (t : OffsetTimestamp) : Int :=
  t.stamp.position - t.offset * nanosPerSecond

/-- Whether two timestamps denote the same instant. -/
def same (a b : OffsetTimestamp) : Bool :=
  a.instant == b.instant

/-- The timestamp of an instant at an offset, if the offset and the local year are in range. -/
def ofInstant? (instant offset : Int) : Option OffsetTimestamp := do
  let stamp ← Timestamp.ofPosition? (instant + offset * nanosPerSecond)
  ofOffset? stamp offset

/-- The local date and time, a space, and the offset with its sign, hours, minutes and
seconds. -/
def text (t : OffsetTimestamp) : List Char :=
  let size := t.offset.natAbs
  t.stamp.text ++ ' ' :: (if t.offset < 0 then '-' else '+') :: padded 2 (size / 3600)
    ++ ':' :: padded 2 (size / 60 % 60) ++ ':' :: padded 2 (size % 60)

end OffsetTimestamp

end EntitySql.Calendar
