import Mathlib.Algebra.Ring.Parity
import Mathlib.Algebra.Order.Field.Basic
import Mathlib.Data.Nat.Prime.Basic
import Mathlib.Tactic.NormNum
import Mathlib.Tactic.Positivity
import Mathlib.Tactic.Ring
/-!
# Binary fractions in lowest terms

A natural number divided by a power of two is a whole number or has an odd numerator once both are
halved as long as possible. A decimal that equals it then has at least as many places as the power
of two, and its mantissa has the same odd factors: the numerator and the fives. This is all there is
to the question of which binary fractions are decimals of a given width.

## Main definitions

* `InLowestTerms`: the numerator is odd, or there is no denominator.

## Main results

* `exists_inLowestTerms`: halving as long as possible.
* `InLowestTerms.exists_places`: the decimals that equal a binary fraction.
-/

namespace EntitySql.Number

variable {a b c k m n s : ℕ}

/-- The binary fraction `a / 2 ^ n` is **in lowest terms**. -/
def InLowestTerms (a n : ℕ) : Prop :=
  n = 0 ∨ a % 2 = 1

/-- Every binary fraction can be halved until it is in lowest terms. -/
theorem exists_inLowestTerms (b n : ℕ) :
    ∃ a k j, InLowestTerms a k ∧ b = a * 2 ^ j ∧ n = k + j := by
  induction n generalizing b with
  | zero => exact ⟨b, 0, 0, .inl rfl, by simp, rfl⟩
  | succ n ih =>
      rcases Nat.mod_two_eq_zero_or_one b with even | odd
      · obtain ⟨a, k, j, lowest, half, rfl⟩ := ih (b / 2)
        refine ⟨a, k, j + 1, lowest, ?_, rfl⟩
        rw [pow_succ, ← mul_assoc, ← half]
        omega
      · exact ⟨b, n + 1, 0, .inr odd, by simp, rfl⟩

/-- Tens are fives and twos. -/
theorem ten_pow_eq (n : ℕ) : 10 ^ n = 5 ^ n * 2 ^ n := by
  norm_num [← mul_pow]

/-- An odd factor of a number times a power of two is a factor of the number. -/
theorem le_of_odd_mul (odd : a % 2 = 1) {i j : ℕ} (positive : 0 < k)
    (equal : a * c * 2 ^ i = k * 2 ^ j) : a ≤ k := by
  have coprime : Nat.Coprime a (2 ^ j) :=
    Nat.Coprime.pow_right j (Nat.coprime_two_right.mpr (Nat.odd_iff.mpr odd))
  refine Nat.le_of_dvd positive (coprime.dvd_of_dvd_mul_right ⟨c * 2 ^ i, ?_⟩)
  rw [← equal, mul_assoc]

namespace InLowestTerms

/-- **A decimal that equals a binary fraction** has as many places at least; its mantissa is that of
the fraction times a power of ten. -/
theorem exists_places (lowest : InLowestTerms a n) (equal : (m : ℚ) / 10 ^ s = a / 2 ^ n) :
    ∃ j, s = n + j ∧ m = a * 5 ^ n * 10 ^ j := by
  have cross : m * 2 ^ n = a * 10 ^ s := by
    rw [div_eq_div_iff (by positivity) (by positivity)] at equal
    exact_mod_cast equal
  have order : n ≤ s := by
    rcases lowest with rfl | odd
    · exact Nat.zero_le s
    · have five : (5 ^ s) % 2 = 1 := by rw [Nat.pow_mod]; simp
      have coprime : Nat.Coprime (2 ^ n) (a * 5 ^ s) := by
        refine Nat.Coprime.pow_left n (Nat.coprime_two_left.mpr (Nat.odd_iff.mpr ?_))
        rw [Nat.mul_mod, odd, five]
      have divides : 2 ^ n ∣ a * 5 ^ s * 2 ^ s :=
        ⟨m, by rw [mul_assoc, ← ten_pow_eq, ← cross, mul_comm]⟩
      exact Nat.pow_dvd_pow_iff_le_right'.mp (coprime.dvd_of_dvd_mul_left divides)
  obtain ⟨j, rfl⟩ := Nat.exists_eq_add_of_le order
  refine ⟨j, rfl, Nat.eq_of_mul_eq_mul_right (Nat.two_pow_pos n) ?_⟩
  rw [cross, pow_add, ten_pow_eq n]
  ring

end InLowestTerms

end EntitySql.Number
