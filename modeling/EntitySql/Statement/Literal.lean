import EntitySql.Number.Shortest
import EntitySql.Value.Basic
/-!
# Literals

A constant is written as a literal: numbers are bare numerals, everything else stands between
single quotes, and absent values and infinities are `NULL`. A text stands between its quotes as it
is; what users enter belongs into parameters.

## Main definitions

* `singleLayout`, `doubleLayout`: how binary numbers are written.
* `Subsecond`, `Subsecond.shortened`: the fraction of a second without zeros at the end.
* `Date.literal`, `Time.literal`, `Timestamp.literal`, `OffsetTimestamp.literal`.
* `Value.literal`.
-/

namespace EntitySql

open EntitySql.Text Number Calendar

/-- 32 bit numbers have an exponent below 10⁻⁶ and from 10¹³ on. -/
def singleLayout : Layout where
  positional point := -6 < point && point ≤ 13
  wholePoint := true
  tie := .even

/-- 64 bit numbers have an exponent below 10⁻⁵ and from 10¹⁶ on. -/
def doubleLayout : Layout where
  positional point := -5 < point && point ≤ 16
  wholePoint := true
  tie := .even

/-! ### Dates and times -/

/-- A fraction of a second: the number behind the point, and the width up to which it has zeros in
front. -/
structure Subsecond where
  number : Nat
  width : Nat
  deriving DecidableEq, Repr

namespace Subsecond

/-- Nanoseconds at their full width. -/
def ofNanosecond (n : Nat) : Subsecond :=
  ⟨n, 9⟩

/-- One turn drops a zero at the end and one place of the width. A number that ends in another
digit has no turn. -/
def turn? (s : Subsecond) : Option Subsecond :=
  if s.number % 10 = 0 then some ⟨s.number / 10, s.width - 1⟩ else none

/-- A turn of the loop takes a last digit zero off. -/
theorem turn?_eq_some_iff {s next : Subsecond} :
    s.turn? = some next ↔ s.number % 10 = 0 ∧ next = ⟨s.number / 10, s.width - 1⟩ := by
  rw [turn?]
  split
  · next zero => exact ⟨fun same => ⟨zero, (Option.some.inj same).symm⟩, fun h => h.2 ▸ rfl⟩
  · next other => exact ⟨nofun, fun h => absurd h.1 other⟩

/-- The loop is left at a last digit other than zero. -/
theorem turn?_eq_none_iff {s : Subsecond} : s.turn? = none ↔ s.number % 10 ≠ 0 := by
  rw [turn?]
  split <;> simp [*]

/-- A turn leaves a smaller number, and not zero. -/
theorem number_of_turn? {s next : Subsecond} (turn : s.turn? = some next) (nonzero : s.number ≠ 0) :
    next.number ≠ 0 ∧ next.number < s.number := by
  obtain ⟨zero, rfl⟩ := turn?_eq_some_iff.mp turn
  show s.number / 10 ≠ 0 ∧ s.number / 10 < s.number
  omega

/-- Turns for as long as there is one. Zero would have turns without end. -/
def shortened (s : Subsecond) (nonzero : s.number ≠ 0) : Subsecond :=
  match turn : s.turn? with
  | none => s
  | some next => next.shortened (number_of_turn? turn nonzero).1
termination_by s.number
decreasing_by exact (number_of_turn? turn nonzero).2

/-- The number behind the point, with its zeros in front. -/
def text (s : Subsecond) : List Char :=
  '.' :: padded s.width s.number

end Subsecond

/-- A year with zeros in front up to four characters, of which a minus sign is one. -/
def yearLiteral (year : Int) : List Char :=
  if year < 0 then '-' :: padded 3 year.natAbs else padded 4 year.natAbs

/-- The fields of a date with hyphens between them. -/
def Calendar.Date.literal (d : Date) : List Char :=
  yearLiteral d.year ++ '-' :: padded 2 d.month ++ '-' :: padded 2 d.day

/-- The fraction of a second behind a point, unless it is zero. -/
def Calendar.Time.fractionLiteral (t : Time) : List Char :=
  if h : t.nanosecond = 0 then []
  else ((Subsecond.ofNanosecond t.nanosecond).shortened h).text

/-- The fields of a time with colons between them, and the fraction of the second. -/
def Calendar.Time.literal (t : Time) : List Char :=
  padded 2 t.hour ++ ':' :: padded 2 t.minute ++ ':' :: padded 2 t.second ++ t.fractionLiteral

/-- The date and the time with a `T` between them. -/
def Calendar.Timestamp.literal (t : Timestamp) : List Char :=
  t.date.literal ++ 'T' :: t.time.literal

/-- The local date and time and the hours and minutes of the offset behind its sign. -/
def Calendar.OffsetTimestamp.literal (t : OffsetTimestamp) : List Char :=
  t.stamp.literal ++ (if t.offset < 0 then '-' else '+') :: padded 2 (t.offset.natAbs / 3600)
    ++ ':' :: padded 2 (t.offset.natAbs / 60 % 60)

/-! ### Data of every type -/

/-- Characters between single quotes. -/
def quotedLiteral (s : List Char) : String :=
  "'" ++ String.ofList s ++ "'"

/-- A binary number as a bare numeral; infinities and what is no number have none. -/
def binaryLiteral {f : Format} (layout : Layout) (x : Binary f) : String :=
  if x.isFinite then String.ofList (layout.text x) else "NULL"

/-- The literal of a datum. -/
def ValueType.literal : (t : ValueType) → t.Carrier → String
  | null, x => nomatch x
  | boolean, x => if x then "'true'" else "'false'"
  | int8, x => String.ofList (signed x.toInt)
  | int16, x => String.ofList (signed x.toInt)
  | int32, x => String.ofList (signed x.toInt)
  | int64, x => String.ofList (signed x.toInt)
  | uint8, x => natText x.toNat
  | uint16, x => natText x.toNat
  | uint32, x => natText x.toNat
  | uint64, x => natText x.toNat
  | float32, x => binaryLiteral singleLayout x
  | float64, x => binaryLiteral doubleLayout x
  | decimal _ _, x => String.ofList x.text
  | varchar, x => "'" ++ x ++ "'"
  | blob, x => quotedLiteral (x.flatMap (hexByte .upper))
  | date, x => quotedLiteral x.literal
  | time, x => quotedLiteral x.literal
  | timestamp, x => quotedLiteral x.literal
  | timestampWithTimezone, x => quotedLiteral x.literal
  | uuid, x => quotedLiteral x.text

/-- The literal of a value. -/
def Value.literal (v : Value) : String :=
  match v.datum with
  | none => "NULL"
  | some x => v.type.literal x

end EntitySql
