import EntitySql.Proofs.Calendar.Reading
/-!
# Local dates and times lose nothing

Dates, times and timestamps without an offset are read back from their literals, and the marks in a
literal tell which of the three it is: only timestamps have a `T`, and of the others only times have
a colon. So different values have different literals, whatever their types.

## Main definitions

* `Value.IsLocal`: the present values of these types.
* `localOfLiteral?`: the value that a literal means.
* `Subsecond.EndsIn`, `Calendar.Time.HasFraction`: how turns end, and the digits that they leave.

## Main results

* `localOfLiteral?_literal`: values are read back.
* `Calendar.Time.hasFraction`: the fraction of a second of every time that has one.
* `Calendar.local_literals_lossless`: both, and that no two values have one literal.
-/

namespace EntitySql

open EntitySql.Text Number Calendar

/-! ### Reading back -/

/-- The present values that are **local** dates, times or timestamps. -/
inductive Value.IsLocal : Value → Prop
  | date (d : Date) : IsLocal (.present .date d)
  | time (t : Time) : IsLocal (.present .time t)
  | timestamp (t : Timestamp) : IsLocal (.present .timestamp t)

/-- The local date, time or timestamp that a literal says, told apart by its marks. -/
def localOfLiteral? (s : String) : Option Value := do
  let chars ← quotedChars? s
  if 'T' ∈ chars then (Timestamp.ofLiteral? chars).map (.present .timestamp)
  else if ':' ∈ chars then (Time.ofLiteral? chars).map (.present .time)
  else (Date.ofLiteral? chars).map (.present .date)

/-- What stands in quotes is read as a timestamp, a time or a date, told apart by a `T` and by
colons. -/
theorem localOfLiteral?_quotedLiteral {s : List Char} (free : '\'' ∉ s) :
    localOfLiteral? (quotedLiteral s)
      = if 'T' ∈ s then (Timestamp.ofLiteral? s).map (.present .timestamp)
        else if ':' ∈ s then (Time.ofLiteral? s).map (.present .time)
        else (Date.ofLiteral? s).map (.present .date) := by
  rw [localOfLiteral?, quotedChars?_quotedLiteral free, Option.bind_eq_bind, Option.bind_some]

/-- Local dates, times and timestamps are read back. -/
theorem localOfLiteral?_literal {v : Value} (isLocal : v.IsLocal) :
    localOfLiteral? v.literal = some v := by
  cases isLocal with
  | date d =>
      have noMark : 'T' ∉ d.literal := d.notMem_literal rfl (by decide)
      have noColon : ':' ∉ d.literal := d.notMem_literal rfl (by decide)
      refine (localOfLiteral?_quotedLiteral d.quote_notMem_literal).trans ?_
      rw [if_neg noMark, if_neg noColon, d.ofLiteral?_literal, Option.map_some]
  | time t =>
      have noMark : 'T' ∉ t.literal := t.notMem_literal rfl (by decide) (by decide)
      have colon : ':' ∈ t.literal := by simp [Time.literal]
      refine (localOfLiteral?_quotedLiteral t.quote_notMem_literal).trans ?_
      rw [if_neg noMark, if_pos colon, t.ofLiteral?_literal, Option.map_some]
  | timestamp t =>
      have mark : 'T' ∈ t.literal := by simp [Timestamp.literal]
      refine (localOfLiteral?_quotedLiteral t.quote_notMem_literal).trans ?_
      rw [if_pos mark, t.ofLiteral?_literal, Option.map_some]

/-! ### The fraction of a second -/

/-- The turns of a fraction **end in** another one, and no place of the width runs out before. -/
structure Subsecond.EndsIn (s last : Subsecond) : Prop where
  reached : s.Reaches last
  ended : last.turn? = none
  width_pos : ∀ t, s.Reaches t → 1 ≤ t.width

/-- A time **has** these digits as the fraction of its second. -/
structure Calendar.Time.HasFraction (t : Time) (digits : List Char) : Prop where
  written : t.fractionLiteral = '.' :: digits
  length : 1 ≤ digits.length ∧ digits.length ≤ 9
  isDigit : ∀ c ∈ digits, c.isDigit = true
  last : digits.getLast? ≠ some '0'

/-- The loop that strips zeros ends, in the shortened fraction. -/
theorem Subsecond.Means.endsIn {s : Subsecond} {n : Nat} (means : s.Means n) :
    s.EndsIn (s.shortened means.nonzero) where
  reached := (reaches_shortened s means.nonzero).1
  ended := (reaches_shortened s means.nonzero).2
  width_pos _ run := (means.reaches run).width_pos

/-- Every time with nanoseconds has a fraction of a second, at which its turns end. -/
theorem Calendar.Time.hasFraction (t : Time) (nonzero : t.nanosecond ≠ 0) :
    ∃ last : Subsecond, (Subsecond.ofNanosecond t.nanosecond).EndsIn last
      ∧ t.HasFraction (padded last.width last.number) := by
  have ends := (t.means_nanosecond nonzero).endsIn
  have means := (t.means_nanosecond nonzero).reaches ends.reached
  refine ⟨_, ends, dif_neg nonzero, ?_, fun c => isDigit_of_mem_padded,
    Subsecond.getLast?_padded_of_turn?_eq_none ends.ended⟩
  rw [means.read.1]
  exact ⟨means.width_pos, means.width_le⟩

/-- A literal has a fraction exactly if the time has nanoseconds. -/
theorem Calendar.Time.fractionLiteral_eq_nil_iff (t : Time) :
    t.fractionLiteral = [] ↔ t.nanosecond = 0 := by
  rw [fractionLiteral]
  split <;> simp [Subsecond.text, *]

namespace Calendar

/-- **Local literals lose nothing.** A date, time or timestamp is read back from its literal, so two
of them with one literal are the same. In front of the fraction stand the fields of a time, and the
fraction is there unless the nanoseconds are zero. It has one to nine digits and does not end in
zero: the turns that drop the zeros come to an end before a place of the width runs out. -/
theorem local_literals_lossless :
    (∀ v : Value, v.IsLocal → localOfLiteral? v.literal = some v)
      ∧ (∀ v w : Value, v.IsLocal → w.IsLocal → v.literal = w.literal → v = w)
      ∧ ∀ t : Time,
        t.literal = padded 2 t.hour ++ ':' :: padded 2 t.minute ++ ':' :: padded 2 t.second
          ++ t.fractionLiteral
        ∧ (t.fractionLiteral = [] ↔ t.nanosecond = 0)
        ∧ (t.nanosecond ≠ 0 → ∃ last, (Subsecond.ofNanosecond t.nanosecond).EndsIn last
          ∧ t.HasFraction (padded last.width last.number)) := by
  refine ⟨fun v => localOfLiteral?_literal, fun v w first second same => ?_, fun t => ?_⟩
  · have read := localOfLiteral?_literal first
    rw [same, localOfLiteral?_literal second] at read
    exact (Option.some.inj read).symm
  · exact ⟨rfl, t.fractionLiteral_eq_nil_iff, t.hasFraction⟩

/-- A quarter of a second, and the last day of a leap year before the era. -/
theorem local_literals_lossless_quarter :
    let time : Time := ⟨8, 9, 10, 250000000, by decide, by decide, by decide, by decide⟩
    let date : Date := ⟨-4, 12, 31, by decide, by decide, by decide⟩
    (Value.present .date date).IsLocal ∧ (Value.present .time time).IsLocal
      ∧ localOfLiteral? (Value.present .date date).literal = some (.present .date date)
      ∧ (Value.present .date date).literal ≠ (Value.present .time time).literal
      ∧ time.nanosecond ≠ 0
      ∧ ∃ digits, time.HasFraction digits := by
  intro time date
  obtain ⟨back, distinct, fraction⟩ := local_literals_lossless
  have some : time.nanosecond ≠ 0 := by decide
  obtain ⟨last, -, has⟩ := (fraction time).2.2 some
  refine ⟨.date date, .time time, back _ (.date date), fun same => ?_, some, _, has⟩
  have equal := distinct _ _ (.date date) (.time time) same
  exact absurd (congrArg Value.type equal) (by decide)

end Calendar

end EntitySql
