import EntitySql.Text.Digit
/-!
# Times of day

A time of day counts hours, minutes, seconds and nanoseconds; there are no leap seconds.
`Time.nanoseconds` is its distance from midnight and `Time.ofNanoseconds` reads a distance modulo
a day.

## Main definitions

* `Time`, `Time.ofFields?`.
* `Time.nanoseconds`, `Time.ofNanoseconds`.
* `Time.text`: the fields with colons and the fraction of a second.
* `fractionDigits`: the digits of a fraction without zeros at the end.
-/

namespace EntitySql.Calendar

open EntitySql.Text

/-- The number of nanoseconds of a second. -/
def nanosPerSecond : Nat := 1000000000

/-- The number of nanoseconds of a day. -/
def nanosPerDay : Nat := 86400 * nanosPerSecond

/-- A time of day. -/
structure Time where
  hour : Nat
  minute : Nat
  second : Nat
  nanosecond : Nat
  hour_lt : hour < 24
  minute_lt : minute < 60
  second_lt : second < 60
  nanosecond_lt : nanosecond < 1000000000
  deriving DecidableEq

/-- The digits of nanoseconds behind the point, without zeros at the end. -/
def fractionDigits (nanosecond : Nat) : List Char :=
  ((padded 9 nanosecond).reverse.dropWhile (· == '0')).reverse

namespace Time

/-- The time with these fields, if there is one. -/
def ofFields? (hour minute second nanosecond : Nat) : Option Time :=
  if h : hour < 24 ∧ minute < 60 ∧ second < 60 ∧ nanosecond < 1000000000 then
    some ⟨hour, minute, second, nanosecond, h.1, h.2.1, h.2.2.1, h.2.2.2⟩
  else none

/-- The number of nanoseconds since midnight. -/
def nanoseconds (t : Time) : Nat :=
  ((t.hour * 60 + t.minute) * 60 + t.second) * nanosPerSecond + t.nanosecond

/-- The time so many nanoseconds after a midnight. -/
def ofNanoseconds (n : Nat) : Time where
  hour := n / 3600000000000 % 24
  minute := n / 60000000000 % 60
  second := n / 1000000000 % 60
  nanosecond := n % 1000000000
  hour_lt := Nat.mod_lt _ (by decide)
  minute_lt := Nat.mod_lt _ (by decide)
  second_lt := Nat.mod_lt _ (by decide)
  nanosecond_lt := Nat.mod_lt _ (by decide)

/-- The fields with colons, the hour without a leading zero, and the fraction of the second with
at least one digit. -/
def text (t : Time) : List Char :=
  numeral t.hour ++ ':' :: padded 2 t.minute ++ ':' :: padded 2 t.second
    ++ '.' :: (if t.nanosecond = 0 then ['0'] else fractionDigits t.nanosecond)

end Time

end EntitySql.Calendar
