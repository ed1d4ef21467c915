import EntitySql.Proofs.Calendar.Reading
/-!
# Instants in literals

The literal of a timestamp with an offset shows the local date and time and, behind a sign, the
hours and minutes of the offset. The seconds of the offset are left out and the local time is not
moved by them, so the literal denotes the instant that lies so many seconds later, or earlier behind
a minus sign. It denotes the instant of the timestamp exactly if the offset is a whole number of
minutes.

## Main definitions

* `offsetParts?`, `instantOfLiteral?`: the parts of a literal, and the instant that it denotes.
* `OffsetTimestamp.leftOut`: the seconds that a literal leaves out.

## Main results

* `OffsetTimestamp.offsetParts?_literal`: the local timestamp is read back, and the whole minutes of
  the offset.
* `OffsetTimestamp.instantOfLiteral?_literal`: the instant that a literal denotes.
* `OffsetTimestamp.literal_denotes_iff`: the timestamps whose literals denote their instants.
* `OffsetTimestamp.literal_of_second_ne`: one whose literal does not.
-/

namespace EntitySql

open EntitySql.Text Number Calendar

/-! ### Reading offsets -/

/-- The characters that are no sign in front of an offset. -/
def isNoSign (c : Char) : Bool :=
  c != '+' && c != '-'

/-- The minutes of an offset: a sign, and hours and minutes with a colon between them. -/
def minutesOf? : List Char → Option Int
  | [] => none
  | sign :: clock =>
      match splitOn ':' clock with
      | [hours, minutes] => do
          let size := 60 * (← natOf? hours) + (← natOf? minutes)
          return if sign = '-' then -size else size
      | _ => none

/-- The local timestamp that a literal says, and the minutes of the offset behind it. The sign of
the offset is the first one behind the date. -/
def offsetParts? (s : List Char) : Option (Timestamp × Int) := do
  let (date, rest) ← splitFirst? 'T' s
  let stamp ← Timestamp.ofLiteral? (date ++ 'T' :: rest.takeWhile isNoSign)
  return (stamp, ← minutesOf? (rest.dropWhile isNoSign))

/-- The instant that a literal **denotes**: its local date and time less its offset. -/
def instantOfLiteral? (s : String) : Option Int := do
  let (stamp, minutes) ← offsetParts? (← quotedChars? s)
  return stamp.position - minutes * 60 * nanosPerSecond

namespace Calendar.OffsetTimestamp

/-- The seconds of the offset that its hours and minutes **leave out**, with the sign of the
offset. -/
def leftOut (t : OffsetTimestamp) : Int :=
  t.offset.tmod 60

/-- The written offset is read back in minutes, its seconds dropped towards zero. -/
theorem minutesOf?_literal (t : OffsetTimestamp) :
    minutesOf? ((if t.offset < 0 then '-' else '+') :: padded 2 (t.offset.natAbs / 3600)
      ++ ':' :: padded 2 (t.offset.natAbs / 60 % 60)) = some (t.offset.tdiv 60) := by
  have colon (n : Nat) : ':' ∉ padded 2 n := notMem_padded rfl
  have size : 60 * (t.offset.natAbs / 3600) + t.offset.natAbs / 60 % 60
      = t.offset.natAbs / 60 := by
    omega
  rw [List.cons_append, minutesOf?, splitOn_append, splitOn_of_notMem (colon _),
    splitOn_of_notMem (colon _)]
  simp only [List.singleton_append, natOf?_padded, Option.bind_eq_bind, Option.bind_some, size]
  by_cases negative : t.offset < 0
  · obtain ⟨n, offset⟩ := Int.eq_negSucc_of_lt_zero negative
    rw [if_pos negative, offset]
    rfl
  · obtain ⟨n, offset⟩ := Int.eq_ofNat_of_zero_le (Int.not_lt.mp negative)
    rw [if_neg negative, offset]
    rfl

/-- A written time holds no sign, so the first sign behind it starts the offset. -/
theorem isNoSign_of_mem_literal {t : Time} {c : Char} (member : c ∈ t.literal) :
    isNoSign c = true := by
  have plus : c ≠ '+' := fun same => t.notMem_literal rfl (by decide) (by decide) (same ▸ member)
  have minus : c ≠ '-' := fun same => t.notMem_literal rfl (by decide) (by decide) (same ▸ member)
  simp [isNoSign, plus, minus]

/-- The local timestamp is read back, and the whole minutes of the offset. -/
theorem offsetParts?_literal (t : OffsetTimestamp) :
    offsetParts? t.literal = some (t.stamp, t.offset.tdiv 60) := by
  have noSign : ∀ c ∈ t.stamp.time.literal, isNoSign c = true := fun c => isNoSign_of_mem_literal
  have sign : isNoSign (if t.offset < 0 then '-' else '+') ≠ true := by
    split <;> decide
  have minutes := t.minutesOf?_literal
  rw [List.cons_append] at minutes
  -- The literal, cut at its `T` and at the sign of the offset.
  have parts : t.literal = t.stamp.date.literal ++ 'T' :: (t.stamp.time.literal
      ++ (if t.offset < 0 then '-' else '+') :: (padded 2 (t.offset.natAbs / 3600)
        ++ ':' :: padded 2 (t.offset.natAbs / 60 % 60))) := by
    simp [literal, Timestamp.literal]
  have stamp : Timestamp.ofLiteral? (t.stamp.date.literal ++ 'T' :: t.stamp.time.literal)
      = some t.stamp :=
    t.stamp.ofLiteral?_literal
  rw [parts, offsetParts?, splitFirst?_append (t.stamp.date.notMem_literal rfl (by decide))]
  simp only [Option.bind_eq_bind, Option.bind_some, List.takeWhile_append_of_pos noSign,
    List.dropWhile_append_of_pos noSign, List.takeWhile_cons_of_neg sign,
    List.dropWhile_cons_of_neg sign, List.append_nil, stamp, minutes]
  rfl

/-- **The literal denotes the instant** of its timestamp, moved by the seconds that are left out. -/
theorem instantOfLiteral?_literal (t : OffsetTimestamp) :
    instantOfLiteral? (Value.present .timestampWithTimezone t).literal
      = some (t.instant + t.leftOut * nanosPerSecond) := by
  have quoted : quotedChars? (Value.present .timestampWithTimezone t).literal = some t.literal :=
    quotedChars?_quotedLiteral t.quote_notMem_literal
  have seconds : t.offset * nanosPerSecond
      = t.offset.tdiv 60 * 60 * nanosPerSecond + t.leftOut * nanosPerSecond := by
    rw [← Int.add_mul, leftOut, Int.mul_comm (t.offset.tdiv 60), Int.mul_tdiv_add_tmod]
  rw [instantOfLiteral?, quoted]
  simp only [Option.bind_eq_bind, Option.bind_some, offsetParts?_literal]
  refine congrArg some ?_
  rw [instant]
  omega

/-- Nothing is left out exactly if the offset is a whole number of minutes. -/
theorem leftOut_eq_zero_iff (t : OffsetTimestamp) : t.leftOut = 0 ↔ 60 ∣ t.offset :=
  Int.dvd_iff_tmod_eq_zero.symm

/-- What a literal leaves out of an offset is nothing for whole minutes, and only for them. -/
theorem leftOut_mul_eq_zero_iff (t : OffsetTimestamp) :
    t.leftOut * nanosPerSecond = 0 ↔ 60 ∣ t.offset := by
  rw [Int.mul_eq_zero, leftOut_eq_zero_iff]
  exact or_iff_left (by decide)

/-- **Literals denote the instants** of the timestamps whose offset is a whole number of minutes,
and of no others: the instant that is denoted lies the seconds that are left out behind the instant
of the timestamp. Two literals denote one instant exactly if the two sums are the same, so with
whole minutes exactly if the instants are. -/
theorem literal_denotes_iff (t u : OffsetTimestamp) :
    (∃ instant,
      instantOfLiteral? (Value.present .timestampWithTimezone t).literal = some instant
        ∧ instant = t.instant + t.leftOut * nanosPerSecond
        ∧ (instant = t.instant ↔ 60 ∣ t.offset))
      ∧ (instantOfLiteral? (Value.present .timestampWithTimezone t).literal
          = instantOfLiteral? (Value.present .timestampWithTimezone u).literal
        ↔ t.instant + t.leftOut * nanosPerSecond = u.instant + u.leftOut * nanosPerSecond)
      ∧ (60 ∣ t.offset → 60 ∣ u.offset →
        (instantOfLiteral? (Value.present .timestampWithTimezone t).literal
            = instantOfLiteral? (Value.present .timestampWithTimezone u).literal
          ↔ t.instant = u.instant)) := by
  refine ⟨⟨_, t.instantOfLiteral?_literal, rfl, ?_⟩, ?_⟩
  · rw [← leftOut_mul_eq_zero_iff]
    omega
  · rw [instantOfLiteral?_literal, instantOfLiteral?_literal, Option.some.injEq,
      ← leftOut_mul_eq_zero_iff, ← leftOut_mul_eq_zero_iff]
    refine ⟨Iff.rfl, fun whole whole' => ?_⟩
    rw [whole, whole', Int.add_zero, Int.add_zero]

/-- A morning in January. -/
def morning : Timestamp :=
  ⟨⟨2024, 1, 5, by decide, by decide, by decide⟩,
    ⟨8, 9, 10, 0, by decide, by decide, by decide, by decide⟩⟩

/-- Half an hour behind, and as much ahead: the sign is shown although there are no hours. -/
theorem literal_denotes_iff_half_hour :
    let behind : OffsetTimestamp := ⟨morning, -1800, by decide⟩
    let ahead : OffsetTimestamp := ⟨morning, 1800, by decide⟩
    60 ∣ behind.offset ∧ 60 ∣ ahead.offset
      ∧ instantOfLiteral? (Value.present .timestampWithTimezone behind).literal
        = some behind.instant
      ∧ instantOfLiteral? (Value.present .timestampWithTimezone behind).literal
        ≠ instantOfLiteral? (Value.present .timestampWithTimezone ahead).literal := by
  intro behind ahead
  obtain ⟨⟨instant, denoted, -, whole⟩, -, together⟩ := literal_denotes_iff behind ahead
  have minutes : 60 ∣ behind.offset := by decide
  have minutes' : 60 ∣ ahead.offset := by decide
  refine ⟨minutes, minutes', denoted.trans (congrArg some (whole.mpr minutes)), fun same => ?_⟩
  exact absurd ((together minutes minutes').mp same) (by decide)

/-- An offset of one second is left out: the literal is that of another instant. -/
theorem literal_of_second_ne :
    let moved : OffsetTimestamp := ⟨morning, 1, by decide⟩
    let plain : OffsetTimestamp := ⟨morning, 0, by decide⟩
    instantOfLiteral? (Value.present .timestampWithTimezone moved).literal ≠ some moved.instant
      ∧ moved.instant ≠ plain.instant
      ∧ instantOfLiteral? (Value.present .timestampWithTimezone moved).literal
        = instantOfLiteral? (Value.present .timestampWithTimezone plain).literal := by
  intro moved plain
  rw [instantOfLiteral?_literal, instantOfLiteral?_literal]
  decide

end Calendar.OffsetTimestamp

end EntitySql
