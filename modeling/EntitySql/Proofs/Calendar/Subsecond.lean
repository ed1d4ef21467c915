import EntitySql.Proofs.Text.Digit
import EntitySql.Statement.Literal
import Mathlib.Logic.Relation
/-!
# Fractions of a second

The fraction of a second loses its zeros at the end turn by turn. Every turn divides the number by
ten and takes one place from its width, so the number filled up to its width, with zeros behind it
up to nine places, stays the same: it means as many nanoseconds as before. The number is never zero
and always fits its width, which is why a place is left at every turn, and as it shrinks the turns
come to an end, at a number that ends in another digit than zero.

## Main definitions

* `Subsecond.Reaches`: what turns lead to.
* `Subsecond.Means`: a fraction means so many nanoseconds.
* `nanosecondOf?`: the nanoseconds of the digits behind a point.

## Main results

* `Subsecond.Means.turn`, `Subsecond.Means.reaches`: one turn and every run keep what is meant.
* `Subsecond.reaches_shortened`: the turns come to an end.
* `Subsecond.Means.read`: the digits are read as the nanoseconds.
-/

namespace EntitySql

open EntitySql.Text Number

/-- The number of nanoseconds that the digits behind a point mean, if there are nine of them at
most. -/
def nanosecondOf? (digits : List Char) : Option Nat := do
  let number ← natOf? digits
  if digits.length ≤ 9 then some (number * tenTo (9 - digits.length)) else none

namespace Subsecond

variable {s t next : Subsecond} {n : Nat}

/-- One fraction is **reached** from another by any number of turns. -/
def Reaches : Subsecond → Subsecond → Prop :=
  Relation.ReflTransGen fun s next => s.turn? = some next

/-- A fraction **means** so many nanoseconds, which are not zero. -/
structure Means (s : Subsecond) (n : Nat) : Prop where
  nonzero : s.number ≠ 0
  number_lt : s.number < tenTo s.width
  width_le : s.width ≤ 9
  value : s.number * tenTo (9 - s.width) = n

/-- Nine digits mean the nanoseconds they were made of, the invariant at the start of the loop. -/
theorem means_ofNanosecond (nonzero : n ≠ 0) (second : n < 1000000000) :
    (ofNanosecond n).Means n :=
  ⟨nonzero, second, Nat.le_refl 9, Nat.mul_one n⟩

/-- A number that is not zero needs a place. -/
theorem Means.width_pos (means : s.Means n) : 1 ≤ s.width := by
  refine Nat.one_le_iff_ne_zero.mpr fun none => ?_
  have fits := means.number_lt
  rw [none, tenTo_zero] at fits
  exact means.nonzero (Nat.lt_one_iff.mp fits)

/-- One turn keeps what is meant. -/
theorem Means.turn (means : s.Means n) (turn : s.turn? = some next) : next.Means n := by
  have nonzero := (number_of_turn? turn means.nonzero).1
  obtain ⟨zero, rfl⟩ := turn?_eq_some_iff.mp turn
  obtain ⟨number, width⟩ := s
  obtain ⟨width, rfl⟩ := Nat.exists_eq_add_of_le' means.width_pos
  have narrow : width + 1 ≤ 9 := means.width_le
  have fits : number < tenTo width * 10 := means.number_lt
  refine ⟨nonzero, ?_, Nat.le_of_succ_le narrow, ?_⟩
  · show number / 10 < tenTo width
    omega
  · show number / 10 * tenTo (9 - width) = n
    rw [show 9 - width = 9 - (width + 1) + 1 by omega, tenTo_succ, ← means.value,
      Nat.mul_comm (tenTo _) 10, ← Nat.mul_assoc, Nat.div_mul_cancel (Nat.dvd_of_mod_eq_zero zero)]

/-- Every run of turns keeps what is meant. -/
theorem Means.reaches (means : s.Means n) (run : s.Reaches t) : t.Means n := by
  induction run with
  | refl => exact means
  | tail _ turn ih => exact ih.turn turn

/-- The turns come to an end. -/
theorem reaches_shortened (s : Subsecond) (nonzero : s.number ≠ 0) :
    s.Reaches (s.shortened nonzero) ∧ (s.shortened nonzero).turn? = none := by
  fun_induction shortened s nonzero with
  | case1 s nonzero turn => exact ⟨.refl, turn⟩
  | case2 s nonzero next turn ih => exact ⟨.head turn ih.1, ih.2⟩

/-- The digits of a fraction are as many as its width, and are read as what it means. -/
theorem Means.read (means : s.Means n) :
    (padded s.width s.number).length = s.width
      ∧ nanosecondOf? (padded s.width s.number) = some n := by
  have length := length_padded means.width_pos means.number_lt
  refine ⟨length, ?_⟩
  rw [nanosecondOf?, natOf?_padded, length, Option.bind_eq_bind, Option.bind_some,
    if_pos means.width_le, means.value]

/-- Digits at an end of the turns do not end in zero. -/
theorem getLast?_padded_of_turn?_eq_none (stopped : s.turn? = none) :
    (padded s.width s.number).getLast? ≠ some '0' := by
  rw [getLast?_padded]
  intro zero
  have digits := (digit_eq_zero_iff (Nat.mod_lt _ (by decide))).mp (Option.some.inj zero)
  exact turn?_eq_none_iff.mp stopped digits

end Subsecond

end EntitySql
