import EntitySql.Number.Binary
import Mathlib.Algebra.Order.Field.Power
import Mathlib.Tactic.FieldSimp
import Mathlib.Tactic.Linarith
import Mathlib.Tactic.NormNum
import Mathlib.Tactic.Positivity
import Mathlib.Tactic.Ring
/-!
# Rounding to a binary format

Rounding takes a quotient apart: the exponent is the smallest one that leaves the significand within
the width, and the significand is the nearest natural number, the even one of two. This module says
what the two are without the way in which they are found, and derives from that alone how near the
result is, when it is the quotient itself, and when it is an infinity.

## Main definitions

* `Ratio.value`, `Exact.number?`, `Binary.number?`: the rational number of a quotient, and of bits.
* `IsRounded`: the natural number nearest to a rational one.
* `Format.IsExponent`, `Format.Rounds`: exponent and significand of a rational number in a format.
* `Format.Fits`: the numbers that a significand within the width has.
* `Format.overflow`: from where on numbers round to infinity.

## Main results

* `Format.exists_rounds`: the bits of the nearest number.
* `Format.Rounds.unique`: there is one of each.
* `Format.Rounds.eq_of_near`, `Format.Rounds.eq_of_fits`: what is close to a number of the format is
  rounded to it, and the number itself is not changed.
* `Format.Rounds.abs_sub_le`: the distance of a rounded number in general.
* `Binary.exists_number?_ofMagnitude`, `Binary.number?_ofMagnitude_of_near`,
  `Binary.exact_ofMagnitude_of_overflow`: the bits of a quotient below and from the overflow on.
-/

namespace EntitySql.Number

/-! ### Quotients -/

/-- The powers of two that the program computes are the library's. -/
theorem twoTo_eq (n : ℕ) : twoTo n = 2 ^ n := rfl

/-- The powers of ten that the program computes are the library's. -/
theorem tenTo_eq (n : ℕ) : tenTo n = 10 ^ n := rfl

/-- Powers of two are positive, also those with negative exponents. -/
theorem two_zpow_pos (e : ℤ) : (0 : ℚ) < 2 ^ e :=
  zpow_pos (by norm_num) e

namespace Ratio

/-- The rational number of a quotient. -/
def value (r : Ratio) : ℚ :=
  r.num / r.den

variable {a b r : Ratio}

/-- A natural number as a quotient. -/
@[simp] theorem value_ofNat (n : ℕ) : (ofNat n).value = n := by
  simp [value, ofNat]

/-- Quotients are not negative, as signs are kept apart. -/
theorem value_nonneg (r : Ratio) : 0 ≤ r.value := by
  unfold value
  positivity

/-- A positive quotient has a positive numerator. -/
theorem num_pos (positive : 0 < r.value) : 0 < r.num := by
  rw [Nat.pos_iff_ne_zero]
  intro zero
  rw [value, zero, Nat.cast_zero, zero_div] at positive
  exact lt_irrefl 0 positive

/-- Scaling moves a quotient by a power of two. -/
theorem value_scale (r : Ratio) (e : ℤ) : (r.scale e).value = r.value * 2 ^ e := by
  cases e with
  | ofNat n => simp [value, scale, twoTo_eq, mul_div_right_comm]
  | negSucc n =>
      have places : (-Int.negSucc n).toNat = n + 1 := rfl
      rw [scale, value, value, zpow_negSucc, places]
      simp only [Int.toNat_negSucc, twoTo_eq, pow_zero, mul_one, Nat.cast_mul, Nat.cast_pow,
        Nat.cast_ofNat, div_eq_mul_inv, mul_inv, mul_assoc]

/-- Scaling keeps the denominator positive. -/
theorem den_scale_pos (positive : 0 < r.den) (e : ℤ) : 0 < (r.scale e).den :=
  Nat.mul_pos positive (Nat.two_pow_pos _)

/-- Products of quotients are products of the numbers. -/
theorem value_mul : (a.mul b).value = a.value * b.value := by
  simp [value, mul, div_mul_div_comm]

/-- Division of quotients is division of the numbers. -/
theorem value_div : (a.div b).value = a.value / b.value := by
  simp [value, div, div_div_div_eq]

/-- Sums of quotients are sums of the numbers, where both have a denominator. -/
theorem value_add (left : 0 < a.den) (right : 0 < b.den) :
    (a.add b).value = a.value + b.value := by
  have left' : (a.den : ℚ) ≠ 0 := by exact_mod_cast left.ne'
  have right' : (b.den : ℚ) ≠ 0 := by exact_mod_cast right.ne'
  simp only [value, add]
  push_cast
  field_simp

end Ratio

/-! ### The nearest natural number -/

/-- A natural number is **nearest** to a rational one, and even if there are two. -/
structure IsRounded (q : ℚ) (n : ℕ) : Prop where
  above : (n : ℚ) - 1 / 2 ≤ q
  below : q ≤ n + 1 / 2
  tie : q = n - 1 / 2 ∨ q = n + 1 / 2 → n % 2 = 0

/-- Dividing with a look at the remainder gives the nearest number, ties to even. -/
theorem isRounded_roundEven {num den : ℕ} (positive : 0 < den) :
    IsRounded (num / den) (roundEven num den) := by
  have denominator : (0 : ℚ) < den := by exact_mod_cast positive
  have split : (num : ℚ) / den = (num / den : ℕ) + ((num % den : ℕ) : ℚ) / den := by
    have whole := Nat.div_add_mod num den
    field_simp
    exact_mod_cast whole.symm
  have half : ((num % den : ℕ) : ℚ) / den < 1 / 2 ↔ 2 * (num % den) < den := by
    rw [div_lt_div_iff₀ denominator (by norm_num)]
    norm_cast
    omega
  have half' : 1 / 2 < ((num % den : ℕ) : ℚ) / den ↔ den < 2 * (num % den) := by
    rw [div_lt_div_iff₀ (by norm_num) denominator]
    norm_cast
    omega
  have low : (0 : ℚ) ≤ ((num % den : ℕ) : ℚ) / den := by positivity
  have high : ((num % den : ℕ) : ℚ) / den < 1 := by
    rw [div_lt_one denominator]
    exact_mod_cast Nat.mod_lt num positive
  rw [split, roundEven]
  generalize ((num % den : ℕ) : ℚ) / den = t at *
  generalize num / den = k
  split_ifs with less more
  · have less := half.mpr less
    refine ⟨by linarith, by linarith, ?_⟩
    rintro (tie | tie) <;> exfalso <;> linarith
  · have more := half'.mpr more
    have next : ((k + 1 : ℕ) : ℚ) = k + 1 := by push_cast; ring
    refine ⟨by rw [next]; linarith, by rw [next]; linarith, ?_⟩
    rw [next]
    rintro (tie | tie) <;> exfalso <;> linarith
  · have middle : t = 1 / 2 := by
      rw [← half] at less
      rw [← half'] at more
      linarith
    subst middle
    rcases Nat.mod_two_eq_zero_or_one k with even | odd
    · rw [even]
      exact ⟨by push_cast; linarith, by push_cast; linarith, fun _ => by simpa using even⟩
    · rw [odd]
      refine ⟨by push_cast; linarith, by push_cast; linarith, fun _ => by omega⟩

namespace IsRounded

variable {q : ℚ} {n k : ℕ}

/-- What lies below `k` and a half is rounded to `k` at most. -/
theorem le_of_lt (rounded : IsRounded q n) (less : q < k + 1 / 2) : n ≤ k := by
  have above := rounded.above
  have bound : (n : ℚ) < k + 1 := by linarith
  exact Nat.lt_succ_iff.mp (by exact_mod_cast bound)

/-- What lies above `k` less a half is rounded to `k` at least. -/
theorem ge_of_lt (rounded : IsRounded q n) (more : (k : ℚ) - 1 / 2 < q) : k ≤ n := by
  have below := rounded.below
  have bound : (k : ℚ) < n + 1 := by linarith
  exact Nat.lt_succ_iff.mp (by exact_mod_cast bound)

/-- Above the middle, and in the middle behind an odd number, it is the next one. -/
theorem succ_le (rounded : IsRounded q n) (odd : k % 2 = 1) (more : (k : ℚ) + 1 / 2 ≤ q) :
    k + 1 ≤ n := by
  have atLeast : k ≤ n := rounded.ge_of_lt (by linarith)
  rcases Nat.lt_or_eq_of_le atLeast with greater | rfl
  · exact greater
  · have even := rounded.tie (.inr (le_antisymm rounded.below more))
    omega

/-- No natural number is nearest together with a greater one: half way between the two, one of them
is odd. -/
theorem le_of_rounded (rounded : IsRounded q n) (other : IsRounded q k) : n ≤ k := by
  by_contra greater
  have next : ((k + 1 : ℕ) : ℚ) ≤ n := by exact_mod_cast not_le.mp greater
  have above := rounded.above
  have below := other.below
  push_cast at next
  have half : q = k + 1 / 2 := by linarith
  have whole : (n : ℚ) = (k + 1 : ℕ) := by
    push_cast
    linarith
  have even := other.tie (.inr half)
  have even' := rounded.tie (.inl (by linarith))
  have successor : n = k + 1 := by exact_mod_cast whole
  omega

/-- Only one natural number is nearest. -/
theorem unique (rounded : IsRounded q n) (other : IsRounded q k) : n = k :=
  Nat.le_antisymm (rounded.le_of_rounded other) (other.le_of_rounded rounded)

/-- What is less than half away from a natural number is rounded to it. -/
theorem eq_of_near (rounded : IsRounded q n) (near : |q - k| < 1 / 2) : n = k := by
  rw [abs_lt] at near
  exact Nat.le_antisymm (rounded.le_of_lt (by linarith)) (rounded.ge_of_lt (by linarith))

end IsRounded

/-! ### Exponent and significand -/

/-- Moving a binary place from the significand to the exponent. -/
theorem two_pow_succ_mul (n : ℕ) (e : ℤ) : (2 : ℚ) ^ (n + 1) * 2 ^ (e - 1) = 2 ^ n * 2 ^ e := by
  rw [zpow_sub_one₀ (by norm_num), pow_succ]
  ring

/-- With a significand of one bit, more exponent is more number. -/
theorem two_pow_mul_le {n : ℕ} {e e' : ℤ} (le : e ≤ e') :
    (2 : ℚ) ^ n * 2 ^ e ≤ 2 ^ n * 2 ^ e' :=
  mul_le_mul_of_nonneg_left (zpow_le_zpow_right₀ (by norm_num) le) (by positivity)

namespace Format

variable {f : Format} {q q' v : ℚ} {e e' : ℤ} {m m' : ℕ} {r : Ratio}

/-- An error in units of the last place, in full size. -/
theorem abs_div_sub_mul (q k : ℚ) (e : ℤ) : |q / 2 ^ e - k| * 2 ^ e = |q - k * 2 ^ e| := by
  have unit := two_zpow_pos e
  rw [← abs_of_pos unit, ← abs_mul, abs_of_pos unit, sub_mul, div_mul_cancel₀ _ unit.ne']

/-- The **exponent** of a rational number: the smallest one that leaves the significand within the
width. -/
structure IsExponent (f : Format) (q : ℚ) (e : ℤ) : Prop where
  lowest_le : f.lowest ≤ e
  lt : q < 2 ^ (f.fractionBits + 1) * 2 ^ e
  le : e = f.lowest ∨ 2 ^ f.fractionBits * 2 ^ e ≤ q

/-- A number below the width times a power of two has no larger exponent. -/
theorem IsExponent.le_of_lt (exponent : f.IsExponent q e) (lowest : f.lowest ≤ e')
    (lt : q < 2 ^ (f.fractionBits + 1) * 2 ^ e') : e ≤ e' := by
  by_contra less
  rcases exponent.le with rfl | le
  · exact less lowest
  · have wide := two_pow_mul_le (n := f.fractionBits) (show e' + 1 ≤ e by omega)
    rw [← two_pow_succ_mul, add_sub_cancel_right] at wide
    linarith

/-- A number has one exponent. -/
theorem IsExponent.unique (exponent : f.IsExponent q e) (other : f.IsExponent q e') : e = e' :=
  Int.le_antisymm (exponent.le_of_lt other.lowest_le other.lt)
    (other.le_of_lt exponent.lowest_le exponent.lt)

/-- The exponent that is found by comparing lengths of numerator and denominator is the one that
leaves the significand within the width. -/
theorem isExponent_exponentFor (num : 0 < r.num) (den : 0 < r.den) :
    f.IsExponent r.value (f.exponentFor r) := by
  have num' : (0 : ℚ) < r.num := by exact_mod_cast num
  have den' : (0 : ℚ) < r.den := by exact_mod_cast den
  set guess : ℤ := (r.num.log2 : ℤ) - r.den.log2 - f.fractionBits with guessed
  -- The quotient of the leading bits is off by less than two either way.
  have low : 2 ^ f.fractionBits * 2 ^ (guess - 1) ≤ r.value := by
    have exponents : (2 : ℚ) ^ f.fractionBits * 2 ^ (guess - 1)
        = 2 ^ r.num.log2 / 2 ^ (r.den.log2 + 1) := by
      rw [← zpow_natCast, ← zpow_natCast, ← zpow_natCast, ← zpow_add₀ two_ne_zero,
        ← zpow_sub₀ two_ne_zero]
      congr 1
      push_cast
      omega
    have numLow : (2 : ℚ) ^ r.num.log2 ≤ r.num := by exact_mod_cast Nat.log2_self_le num.ne'
    have denHigh : (r.den : ℚ) ≤ 2 ^ (r.den.log2 + 1) := by
      exact_mod_cast (Nat.lt_log2_self (n := r.den)).le
    rw [exponents]
    exact div_le_div₀ num'.le numLow den' denHigh
  have high : r.value < 2 ^ (f.fractionBits + 1) * 2 ^ guess := by
    have exponents : (2 : ℚ) ^ (f.fractionBits + 1) * 2 ^ guess
        = 2 ^ (r.num.log2 + 1) / 2 ^ r.den.log2 := by
      rw [← zpow_natCast, ← zpow_natCast, ← zpow_natCast, ← zpow_add₀ two_ne_zero,
        ← zpow_sub₀ two_ne_zero]
      congr 1
      push_cast
      omega
    have numHigh : (r.num : ℚ) < 2 ^ (r.num.log2 + 1) := by
      exact_mod_cast Nat.lt_log2_self (n := r.num)
    have denLow : (2 : ℚ) ^ r.den.log2 ≤ r.den := by exact_mod_cast Nat.log2_self_le den.ne'
    rw [exponents]
    exact div_lt_div₀ numHigh denLow (by positivity) (by positivity)
  have narrow : (r.scale (-guess)).num < (r.scale (-guess)).den * twoTo f.fractionBits
      ↔ r.value < 2 ^ f.fractionBits * 2 ^ guess := by
    have scaledDen : (0 : ℚ) < (r.scale (-guess)).den := by
      exact_mod_cast Ratio.den_scale_pos den (-guess)
    rw [← div_lt_iff₀ (two_zpow_pos guess), div_eq_mul_inv, ← zpow_neg, ← Ratio.value_scale,
      Ratio.value, div_lt_iff₀ scaledDen, mul_comm]
    norm_cast
  have settled {x : ℤ} (le : 2 ^ f.fractionBits * 2 ^ x ≤ r.value)
      (lt : r.value < 2 ^ (f.fractionBits + 1) * 2 ^ x) :
      f.IsExponent r.value (max f.lowest x) := by
    refine ⟨le_max_left _ _, lt.trans_le (two_pow_mul_le (le_max_right _ _)), ?_⟩
    rcases le_total f.lowest x with above | below
    · rw [max_eq_right above]
      exact .inr le
    · exact .inl (max_eq_left below)
  change f.IsExponent r.value (max f.lowest (if _ then guess - 1 else guess))
  split_ifs with less
  · refine settled low ?_
    rw [two_pow_succ_mul]
    exact narrow.mp less
  · exact settled (not_lt.mp fun less' => less (narrow.mpr less')) high

/-- Exponent and nearest significand of a rational number. -/
structure Rounds (f : Format) (q : ℚ) (e : ℤ) (m : ℕ) : Prop where
  exponent : f.IsExponent q e
  significand : IsRounded (q / 2 ^ e) m

/-- The place of a significand at an exponent among the magnitudes of a format. -/
def place (f : Format) (e : ℤ) (m : ℕ) : ℕ :=
  (e - f.lowest).toNat * 2 ^ f.fractionBits + m

/-- **The bits of the nearest number** are the place of its exponent and its significand, or those
of infinity. -/
theorem exists_rounds (f : Format) (den : 0 < r.den) :
    ∃ e m, f.Rounds r.value e m ∧ f.magnitude r = min f.infinity (f.place e m) := by
  by_cases zero : r.num = 0
  · have nothing : r.value = 0 := by simp [Ratio.value, zero]
    refine ⟨f.lowest, 0, ⟨⟨le_rfl, ?_, .inl rfl⟩, ?_⟩, ?_⟩
    · rw [nothing]
      positivity
    · rw [nothing]
      exact ⟨by norm_num, by norm_num, fun _ => rfl⟩
    · simp [magnitude, zero, place]
  · let scaled := r.scale (-f.exponentFor r)
    refine ⟨f.exponentFor r, roundEven scaled.num scaled.den,
      ⟨isExponent_exponentFor (Nat.pos_of_ne_zero zero) den, ?_⟩, ?_⟩
    · rw [div_eq_mul_inv, ← zpow_neg, ← Ratio.value_scale]
      exact isRounded_roundEven (Ratio.den_scale_pos den _)
    · rw [magnitude, if_neg zero]
      rfl

namespace Rounds

/-- A number is rounded to one number only. -/
theorem unique (rounds : f.Rounds q e m) (other : f.Rounds q e' m') : e = e' ∧ m = m' := by
  obtain rfl := rounds.exponent.unique other.exponent
  exact ⟨rfl, rounds.significand.unique other.significand⟩

/-- A significand has the width's bits, or is rounded up to one more. -/
theorem significand_le (rounds : f.Rounds q e m) : m ≤ 2 ^ (f.fractionBits + 1) := by
  have lt := rounds.exponent.lt
  rw [← div_lt_iff₀ (two_zpow_pos e)] at lt
  refine rounds.significand.le_of_lt ?_
  push_cast
  linarith

/-- A significand has all its bits unless the exponent is the lowest. -/
theorem le_significand (rounds : f.Rounds q e m) : e = f.lowest ∨ 2 ^ f.fractionBits ≤ m := by
  refine rounds.exponent.le.imp_right fun le => rounds.significand.ge_of_lt ?_
  rw [← le_div_iff₀ (two_zpow_pos e)] at le
  push_cast
  linarith

/-- A rounded number is off by half of a unit of its last place at most. -/
theorem abs_sub_le_half (rounds : f.Rounds q e m) : |m * 2 ^ e - q| ≤ 2 ^ e / 2 := by
  have unit := two_zpow_pos e
  have half : |q / 2 ^ e - m| ≤ 1 / 2 := by
    have above := rounds.significand.above
    have below := rounds.significand.below
    rw [abs_le]
    constructor <;> linarith
  calc |m * 2 ^ e - q| = |q / 2 ^ e - m| * 2 ^ e := by rw [abs_div_sub_mul, abs_sub_comm]
    _ ≤ 1 / 2 * 2 ^ e := mul_le_mul_of_nonneg_right half unit.le
    _ = 2 ^ e / 2 := by ring

/-- **A rounded number** is off by half of the last bit of its significand at most, unless it is
smaller than any with all bits. -/
theorem abs_sub_le (rounds : f.Rounds q e m) (normal : 2 ^ f.fractionBits * 2 ^ f.lowest ≤ q) :
    |m * 2 ^ e - q| ≤ q / 2 ^ (f.fractionBits + 1) := by
  have bits : 2 ^ f.fractionBits * 2 ^ e ≤ q := by
    rcases rounds.exponent.le with rfl | le
    · exact normal
    · exact le
  refine rounds.abs_sub_le_half.trans ?_
  rw [le_div_iff₀ (by positivity), pow_succ]
  linarith

/-- In general it is off by half of the smallest number too. -/
theorem abs_sub_le_add (rounds : f.Rounds q e m) (nonneg : 0 ≤ q) :
    |m * 2 ^ e - q| ≤ q / 2 ^ (f.fractionBits + 1) + 2 ^ f.lowest / 2 := by
  refine rounds.abs_sub_le_half.trans ?_
  rcases rounds.exponent.le with rfl | le
  · exact le_add_of_nonneg_left (by positivity)
  · refine le_add_of_le_of_nonneg ?_ (by have := two_zpow_pos f.lowest; positivity)
    rw [le_div_iff₀ (by positivity), pow_succ]
    linarith

end Rounds

/-! ### Numbers of a format -/

/-- The rational numbers with a significand within the width, whatever bounds their exponent from
above. -/
def Fits (f : Format) (q : ℚ) : Prop :=
  ∃ (c : ℕ) (e : ℤ), c < 2 ^ (f.fractionBits + 1) ∧ f.lowest ≤ e ∧ q = c * 2 ^ e

/-- Numbers of a format are sizes, without a sign. -/
theorem Fits.nonneg (fits : f.Fits v) : 0 ≤ v := by
  obtain ⟨c, e, -, -, rfl⟩ := fits
  positivity

/-- What is close to a significand within the width has no larger exponent. -/
theorem Rounds.exponent_le_of_near {c : ℕ} (rounds : f.Rounds q e m)
    (bound : c < 2 ^ (f.fractionBits + 1)) (lowest : f.lowest ≤ e')
    (near : |q - c * 2 ^ e'| ≤ c * 2 ^ e' / 2 ^ (f.fractionBits + 3)) : e ≤ e' := by
  have most : (c : ℚ) + 1 ≤ 2 ^ (f.fractionBits + 1) := by exact_mod_cast bound
  have wide : (2 : ℚ) ^ (f.fractionBits + 1) ≤ 2 ^ (f.fractionBits + 3) :=
    pow_le_pow_right₀ (by norm_num) (by omega)
  have small : (c : ℚ) / 2 ^ (f.fractionBits + 3) < 1 := by
    rw [div_lt_one (by positivity)]
    linarith
  refine rounds.exponent.le_of_lt lowest ?_
  calc q ≤ c * 2 ^ e' + c * 2 ^ e' / 2 ^ (f.fractionBits + 3) := by linarith [(abs_le.mp near).2]
    _ = (c + c / 2 ^ (f.fractionBits + 3)) * 2 ^ e' := by ring
    _ < 2 ^ (f.fractionBits + 1) * 2 ^ e' :=
        mul_lt_mul_of_pos_right (by linarith) (two_zpow_pos e')

/-- What is close to a natural number in units of its exponent has this one as its significand. -/
theorem Rounds.significand_eq_of_near {k : ℕ} (rounds : f.Rounds q e m)
    (near : |q - k * 2 ^ e| ≤ k * 2 ^ e / 2 ^ (f.fractionBits + 3)) : m = k := by
  have unit := two_zpow_pos e
  have one : (1 : ℚ) ≤ 2 ^ f.fractionBits := one_le_pow₀ (by norm_num)
  have width : (2 : ℚ) ^ (f.fractionBits + 3) = 8 * 2 ^ f.fractionBits := by ring
  have scaled : |q / 2 ^ e - k| ≤ k / (8 * 2 ^ f.fractionBits) := by
    refine le_of_mul_le_mul_right ?_ unit
    rw [width, mul_div_right_comm] at near
    rwa [abs_div_sub_mul]
  have lt : q / 2 ^ e < 2 * 2 ^ f.fractionBits := by
    rw [div_lt_iff₀ unit, ← pow_succ']
    exact rounds.exponent.lt
  have part : (k : ℚ) / (8 * 2 ^ f.fractionBits) ≤ k / 8 :=
    div_le_div_of_nonneg_left (by positivity) (by norm_num) (by linarith)
  have below := (abs_le.mp scaled).1
  have small : (k : ℚ) / (8 * 2 ^ f.fractionBits) < 1 / 2 := by
    rw [div_lt_div_iff₀ (by positivity) (by norm_num)]
    linarith
  exact rounds.significand.eq_of_near (scaled.trans_lt small)

/-- **What is close to a number of the format is rounded to it.** -/
theorem Rounds.eq_of_near (rounds : f.Rounds q e m) (fits : f.Fits v)
    (near : |q - v| ≤ v / 2 ^ (f.fractionBits + 3)) : m * 2 ^ e = v := by
  obtain ⟨c, e', bound, lowest, rfl⟩ := fits
  have order := rounds.exponent_le_of_near bound lowest near
  -- In units of the exponent found, the number is a natural one.
  obtain ⟨places, rfl⟩ := Int.exists_add_of_le order
  have whole : (c : ℚ) * 2 ^ (e + places : ℤ) = (c * 2 ^ places : ℕ) * 2 ^ e := by
    rw [zpow_add₀ two_ne_zero, zpow_natCast]
    push_cast
    ring
  rw [whole] at near ⊢
  rw [rounds.significand_eq_of_near near]

/-- **A number of the format is not changed.** -/
theorem Rounds.eq_of_fits (rounds : f.Rounds v e m) (fits : f.Fits v) : m * 2 ^ e = v := by
  refine rounds.eq_of_near fits ?_
  rw [sub_self, abs_zero]
  exact div_nonneg fits.nonneg (by positivity)

/-! ### Overflow -/

/-- The exponent of the largest numbers. -/
def highest (f : Format) : ℤ :=
  f.lowest + (f.topExponent - 2 : ℕ)

/-- Half of the last bit above the largest number: from here on numbers round to infinity. -/
def overflow (f : Format) : ℚ :=
  (2 ^ (f.fractionBits + 1) - 1 / 2) * 2 ^ f.highest

/-- Zero does not overflow. -/
theorem overflow_pos (f : Format) : 0 < f.overflow := by
  have bits : (1 : ℚ) ≤ 2 ^ (f.fractionBits + 1) := one_le_pow₀ (by norm_num)
  exact mul_pos (by linarith) (two_zpow_pos _)

/-- A number so many exponents above the lowest stands so many blocks of significands up. -/
theorem place_add (f : Format) (steps m : ℕ) :
    f.place (f.lowest + steps) m = steps * 2 ^ f.fractionBits + m := by
  rw [place, add_sub_cancel_left, Int.toNat_natCast]

/-- The place of infinity is that of the highest exponent with a significand rounded up. -/
theorem infinity_eq (wide : 2 ≤ f.topExponent) :
    f.infinity = (f.topExponent - 2) * 2 ^ f.fractionBits + 2 ^ (f.fractionBits + 1) := by
  obtain ⟨top, top_eq⟩ : ∃ top, f.topExponent = top + 2 := ⟨f.topExponent - 2, by omega⟩
  rw [infinity, top_eq, twoTo_eq, Nat.add_sub_cancel]
  ring

/-- The largest significand. -/
theorem cast_two_pow_sub_one (n : ℕ) : ((2 ^ n - 1 : ℕ) : ℚ) = 2 ^ n - 1 := by
  rw [Nat.cast_sub Nat.one_le_two_pow]
  norm_num

/-- **Below the overflow** the nearest number is finite. -/
theorem Rounds.place_lt (rounds : f.Rounds q e m) (wide : 2 ≤ f.topExponent)
    (less : q < f.overflow) : f.place e m < f.infinity := by
  have lowest := rounds.exponent.lowest_le
  have widest := rounds.significand_le
  have some := Nat.one_le_two_pow (n := f.fractionBits)
  have more := pow_succ 2 f.fractionBits
  have order : e ≤ f.highest := by
    refine rounds.exponent.le_of_lt (by simp [highest]) (less.trans_le ?_)
    exact mul_le_mul_of_nonneg_right (by linarith) (two_zpow_pos _).le
  obtain ⟨steps, rfl⟩ := Int.exists_add_of_le lowest
  rw [place_add, infinity_eq wide]
  have order : steps ≤ f.topExponent - 2 := by
    rw [highest] at order
    omega
  rcases order.eq_or_lt with same | fewer
  · have high : f.highest = f.lowest + steps := by rw [highest, same]
    rw [overflow, high, ← div_lt_iff₀ (two_zpow_pos _)] at less
    have bound : m ≤ 2 ^ (f.fractionBits + 1) - 1 :=
      rounds.significand.le_of_lt (by rw [cast_two_pow_sub_one]; linarith)
    rw [same]
    omega
  · have steps_mul : (steps + 1) * 2 ^ f.fractionBits ≤ (f.topExponent - 2) * 2 ^ f.fractionBits :=
      Nat.mul_le_mul_right _ fewer
    rw [Nat.add_mul] at steps_mul
    omega

/-- **From the overflow on** there is no finite number that is nearest. -/
theorem Rounds.infinity_le (rounds : f.Rounds q e m) (wide : 2 ≤ f.topExponent)
    (more : f.overflow ≤ q) : f.infinity ≤ f.place e m := by
  have lowest := rounds.exponent.lowest_le
  have some := Nat.one_le_two_pow (n := f.fractionBits)
  have double := pow_succ 2 f.fractionBits
  have order : f.highest ≤ e := by
    by_contra fewer
    have one : (1 : ℚ) ≤ 2 ^ f.fractionBits := one_le_pow₀ (by norm_num)
    have next : (2 : ℚ) ^ (f.fractionBits + 1) * 2 ^ e ≤ 2 ^ f.fractionBits * 2 ^ f.highest := by
      rw [← two_pow_succ_mul f.fractionBits f.highest]
      exact two_pow_mul_le (by omega)
    have room : (2 : ℚ) ^ f.fractionBits * 2 ^ f.highest ≤ f.overflow := by
      refine mul_le_mul_of_nonneg_right ?_ (two_zpow_pos _).le
      rw [pow_succ]
      linarith
    have lt := rounds.exponent.lt
    linarith
  obtain ⟨steps, rfl⟩ := Int.exists_add_of_le lowest
  rw [place_add, infinity_eq wide]
  have order : f.topExponent - 2 ≤ steps := by
    rw [highest] at order
    omega
  rcases order.eq_or_lt with same | above
  · have high : f.highest = f.lowest + steps := by rw [highest, same]
    rw [overflow, high, ← le_div_iff₀ (two_zpow_pos _)] at more
    -- The largest significand is odd, so half above it goes up.
    have odd : (2 ^ (f.fractionBits + 1) - 1) % 2 = 1 := by omega
    have next := rounds.significand.succ_le odd (by rw [cast_two_pow_sub_one]; linarith)
    rw [same]
    omega
  · have bits : 2 ^ f.fractionBits ≤ m := rounds.le_significand.resolve_left (by omega)
    have steps_mul : (f.topExponent - 2 + 1) * 2 ^ f.fractionBits ≤ steps * 2 ^ f.fractionBits :=
      Nat.mul_le_mul_right _ above
    rw [Nat.add_mul] at steps_mul
    omega

/-! ### Reading magnitudes -/

/-- The number of a magnitude below infinity. -/
def numberAt (f : Format) (n : ℕ) : ℚ :=
  if n / 2 ^ f.fractionBits = 0 then (n % 2 ^ f.fractionBits : ℕ) * 2 ^ f.lowest
  else (2 ^ f.fractionBits + n % 2 ^ f.fractionBits : ℕ)
    * 2 ^ (f.lowest + ((n / 2 ^ f.fractionBits : ℕ) - 1))

/-- The significand and the exponent of a magnitude below infinity. -/
theorem exists_numberAt_eq (wide : 2 ≤ f.topExponent) {n : ℕ} (finite : n < f.infinity) :
    ∃ (c : ℕ) (e : ℤ), c < 2 ^ (f.fractionBits + 1) ∧ f.lowest ≤ e ∧ e ≤ f.highest
      ∧ f.numberAt n = c * 2 ^ e := by
  have fraction := Nat.mod_lt n (Nat.two_pow_pos f.fractionBits)
  have double := pow_succ 2 f.fractionBits
  have field : n / 2 ^ f.fractionBits < f.topExponent :=
    (Nat.div_lt_iff_lt_mul (Nat.two_pow_pos _)).mpr finite
  rw [numberAt, highest]
  generalize n / 2 ^ f.fractionBits = k at field
  split_ifs with subnormal
  · exact ⟨_, _, by omega, le_rfl, by omega, rfl⟩
  · exact ⟨_, _, by omega, by omega, by omega, rfl⟩

/-- The numbers of a format lie below its overflow. -/
theorem fits_numberAt (wide : 2 ≤ f.topExponent) {n : ℕ} (finite : n < f.infinity) :
    f.Fits (f.numberAt n) ∧ f.numberAt n < f.overflow := by
  obtain ⟨c, e, bound, lowest, order, number⟩ := exists_numberAt_eq wide finite
  refine ⟨⟨c, e, bound, lowest, number⟩, ?_⟩
  have most : (c : ℚ) ≤ 2 ^ (f.fractionBits + 1) - 1 := by
    rw [← cast_two_pow_sub_one]
    exact_mod_cast Nat.le_sub_one_of_lt bound
  calc f.numberAt n = c * 2 ^ e := number
    _ ≤ c * 2 ^ f.highest :=
        mul_le_mul_of_nonneg_left (zpow_le_zpow_right₀ (by norm_num) order) (by positivity)
    _ < f.overflow := mul_lt_mul_of_pos_right (by linarith) (two_zpow_pos _)

/-- Above the first block, the fraction has a leading bit that is not stored. -/
theorem numberAt_normal (f : Format) (k : ℕ) {t : ℕ} (fraction : t < 2 ^ f.fractionBits) :
    f.numberAt ((k + 1) * 2 ^ f.fractionBits + t)
      = (2 ^ f.fractionBits + t : ℕ) * 2 ^ (f.lowest + k : ℤ) := by
  have field : ((k + 1) * 2 ^ f.fractionBits + t) / 2 ^ f.fractionBits = k + 1 := by
    rw [Nat.mul_comm, Nat.mul_add_div (Nat.two_pow_pos _), Nat.div_eq_of_lt fraction, Nat.add_zero]
  have rest : ((k + 1) * 2 ^ f.fractionBits + t) % 2 ^ f.fractionBits = t := by
    rw [Nat.mul_comm, Nat.mul_add_mod, Nat.mod_eq_of_lt fraction]
  rw [numberAt, field, rest, if_neg (Nat.succ_ne_zero k)]
  congr 2
  push_cast
  omega

/-- The number at the place of a significand is the significand times the power of two, also where
rounding up has made it one bit too wide. -/
theorem Rounds.numberAt_place (rounds : f.Rounds q e m) : f.numberAt (f.place e m) = m * 2 ^ e := by
  have lowest := rounds.exponent.lowest_le
  have widest := rounds.significand_le
  have bits := rounds.le_significand
  obtain ⟨steps, rfl⟩ := Int.exists_add_of_le lowest
  rw [place_add]
  have double := pow_succ 2 f.fractionBits
  rcases Nat.lt_or_ge m (2 ^ f.fractionBits) with small | normal
  · obtain rfl : steps = 0 := by omega
    rw [numberAt, Nat.zero_mul, Nat.zero_add, if_pos (Nat.div_eq_of_lt small),
      Nat.mod_eq_of_lt small, Nat.cast_zero, add_zero]
  · obtain ⟨t, rfl⟩ := Nat.exists_eq_add_of_le normal
    rcases (show t ≤ 2 ^ f.fractionBits by omega).lt_or_eq with fraction | carry
    · rw [← numberAt_normal f steps fraction]
      congr 1
      ring
    · have next := numberAt_normal f (steps + 1) (Nat.two_pow_pos f.fractionBits)
      have place : steps * 2 ^ f.fractionBits + (2 ^ f.fractionBits + t)
          = (steps + 1 + 1) * 2 ^ f.fractionBits + 0 := by
        rw [carry]
        ring
      rw [place, next, carry]
      push_cast
      rw [← add_assoc, zpow_add_one₀ two_ne_zero]
      ring

end Format

/-! ### Bits -/

/-- A number with a sign. -/
def withSign (negative : Bool) (q : ℚ) : ℚ :=
  if negative then -q else q

/-- A sign does not change the size. -/
theorem abs_withSign (negative : Bool) (q : ℚ) : |withSign negative q| = |q| := by
  cases negative with
  | false => rfl
  | true => exact abs_neg q

/-- The rational number of what bits say, if it is one. -/
def Exact.number? : Exact → Option ℚ
  | .finite negative significand exponent => some (withSign negative (significand * 2 ^ exponent))
  | _ => none

namespace Binary

variable {f : Format} {n : ℕ} {negative : Bool} {r : Ratio}

/-- The rational number of a binary number, if it is one. -/
def number? (x : Binary f) : Option ℚ :=
  x.exact.number?

/-- Infinity fits in the bits below the sign. -/
theorem infinity_lt (f : Format) : f.infinity < 2 ^ (f.exponentBits + f.fractionBits) := by
  have top : f.topExponent < 2 ^ f.exponentBits := Nat.sub_lt (Nat.two_pow_pos _) Nat.one_pos
  rw [pow_add]
  exact Nat.mul_lt_mul_of_pos_right top (Nat.two_pow_pos _)

/-- The exponent's field is all ones exactly from infinity on. -/
theorem magnitude_div_eq_iff (x : Binary f) :
    x.magnitude / 2 ^ f.fractionBits = f.topExponent ↔ ¬ x.magnitude < f.infinity := by
  have bound : x.magnitude < 2 ^ f.exponentBits * 2 ^ f.fractionBits := by
    rw [← pow_add]
    exact Nat.mod_lt _ (Nat.two_pow_pos _)
  have field := (Nat.div_lt_iff_lt_mul (Nat.two_pow_pos f.fractionBits)).mpr bound
  have infinite := Nat.div_lt_iff_lt_mul (x := x.magnitude) (y := f.topExponent)
    (Nat.two_pow_pos f.fractionBits)
  change _ ↔ ¬ x.magnitude < f.topExponent * 2 ^ f.fractionBits
  rw [← infinite, Format.topExponent, twoTo_eq]
  omega

/-- A binary number is finite exactly below infinity. -/
theorem isFinite_iff {x : Binary f} : x.isFinite = true ↔ x.magnitude < f.infinity := by
  have top := x.magnitude_div_eq_iff
  simp only [isFinite, twoTo_eq, bne_iff_ne, ne_eq, top, not_not]

/-- **The number of a binary number** is the one at its magnitude. -/
theorem number?_eq (x : Binary f) : x.number? = if x.magnitude < f.infinity
    then some (withSign x.negative (f.numberAt x.magnitude)) else none := by
  have top := x.magnitude_div_eq_iff
  by_cases finite : x.magnitude < f.infinity
  · have notTop := (not_congr top).mpr (not_not.mpr finite)
    by_cases field : x.magnitude / 2 ^ f.fractionBits = 0
    · rw [field] at notTop
      simp [number?, exact, twoTo_eq, Exact.number?, Format.numberAt, finite, notTop, field]
    · simp [number?, exact, twoTo_eq, Exact.number?, Format.numberAt, finite, notTop, field]
  · by_cases fraction : x.magnitude % 2 ^ f.fractionBits = 0 <;>
      simp [number?, exact, twoTo_eq, Exact.number?, finite, top, fraction]

/-- A number is that of a finite form, with its sign, significand and exponent. -/
theorem exists_exact {x : Binary f} {q : ℚ} (number : x.number? = some q) :
    ∃ negative significand exponent, x.exact = .finite negative significand exponent
      ∧ q = withSign negative (significand * 2 ^ exponent) := by
  rw [Binary.number?] at number
  cases said : x.exact with
  | nan => rw [said] at number; cases number
  | infinite => rw [said] at number; cases number
  | finite negative significand exponent =>
      rw [said] at number
      exact ⟨negative, significand, exponent, rfl, (Option.some.inj number).symm⟩

/-- Every number of a binary number is one of its format, with a sign. -/
theorem exists_fits_of_number? (wide : 2 ≤ f.topExponent) {x : Binary f} {q : ℚ}
    (number : x.number? = some q) :
    ∃ v, f.Fits v ∧ v < f.overflow ∧ q = withSign x.negative v := by
  rw [number?_eq] at number
  split_ifs at number with finite
  obtain ⟨fits, less⟩ := Format.fits_numberAt wide finite
  exact ⟨_, fits, less, (Option.some.inj number).symm⟩

/-! ### Making bits -/

/-- The bits made of a sign and a magnitude, as one natural number. -/
theorem toNat_bits_ofMagnitude (small : n < 2 ^ (f.exponentBits + f.fractionBits)) :
    (ofMagnitude f negative n).bits.toNat
      = (if negative then 2 ^ (f.exponentBits + f.fractionBits) else 0) + n := by
  have width : 2 ^ f.width = 2 ^ (f.exponentBits + f.fractionBits) * 2 := by
    rw [Format.width, ← pow_succ]
    congr 1
    omega
  rw [ofMagnitude, BitVec.toNat_ofNat, width, twoTo_eq, Nat.mod_eq_of_lt]
  split <;> omega

/-- The magnitude that bits are made of is the one they have. -/
theorem magnitude_ofMagnitude (small : n ≤ f.infinity) :
    (ofMagnitude f negative n).magnitude = n := by
  have bound := small.trans_lt (infinity_lt f)
  rw [magnitude, toNat_bits_ofMagnitude bound, twoTo_eq]
  split
  · rw [Nat.add_mod_left, Nat.mod_eq_of_lt bound]
  · rw [Nat.zero_add, Nat.mod_eq_of_lt bound]

/-- The sign that bits are made of is the one they have. -/
theorem negative_ofMagnitude (small : n ≤ f.infinity) :
    (ofMagnitude f negative n).negative = negative := by
  have bound := small.trans_lt (infinity_lt f)
  rw [Binary.negative, toNat_bits_ofMagnitude bound, twoTo_eq]
  cases negative <;> simp [bound]

/-- **A quotient below the overflow** becomes its nearest number, with the sign. -/
theorem exists_number?_ofMagnitude (negative : Bool) (wide : 2 ≤ f.topExponent) (den : 0 < r.den)
    (less : r.value < f.overflow) : ∃ e m, f.Rounds r.value e m
      ∧ (ofMagnitude f negative (f.magnitude r)).isFinite = true
      ∧ (ofMagnitude f negative (f.magnitude r)).number?
        = some (withSign negative (m * 2 ^ e)) := by
  obtain ⟨e, m, rounds, bits⟩ := f.exists_rounds den
  have finite := rounds.place_lt wide less
  rw [min_eq_right finite.le] at bits
  refine ⟨e, m, rounds, ?_, ?_⟩
  · rw [isFinite_iff, bits, magnitude_ofMagnitude finite.le]
    exact finite
  · rw [number?_eq, bits, magnitude_ofMagnitude finite.le, negative_ofMagnitude finite.le,
      if_pos finite, rounds.numberAt_place]

/-- **What is close to a number of the format becomes it**, with the sign. -/
theorem number?_ofMagnitude_of_near (negative : Bool) (wide : 2 ≤ f.topExponent) (den : 0 < r.den)
    (less : r.value < f.overflow) {v : ℚ} (fits : f.Fits v)
    (near : |r.value - v| ≤ v / 2 ^ (f.fractionBits + 3)) :
    (ofMagnitude f negative (f.magnitude r)).number? = some (withSign negative v) := by
  obtain ⟨e, m, rounds, -, number⟩ := exists_number?_ofMagnitude negative wide den less
  rw [number, rounds.eq_of_near fits near]

/-- **A quotient from the overflow on** becomes an infinity. -/
theorem exact_ofMagnitude_of_overflow (negative : Bool) (wide : 2 ≤ f.topExponent) (den : 0 < r.den)
    (more : f.overflow ≤ r.value) :
    (ofMagnitude f negative (f.magnitude r)).exact = .infinite negative := by
  obtain ⟨e, m, rounds, bits⟩ := f.exists_rounds den
  rw [min_eq_left (rounds.infinity_le wide more)] at bits
  have top : f.infinity / 2 ^ f.fractionBits = f.topExponent := by
    rw [Format.infinity, twoTo_eq, Nat.mul_div_cancel _ (Nat.two_pow_pos _)]
  have rest : f.infinity % 2 ^ f.fractionBits = 0 := by
    rw [Format.infinity, twoTo_eq, Nat.mul_mod_left]
  rw [exact, bits, magnitude_ofMagnitude le_rfl, negative_ofMagnitude le_rfl]
  simp only [twoTo_eq, top, rest, if_true]

end Binary

/-- **The nearest number of a quotient** below the overflow. -/
theorem Format.exists_value_nearest {f : Format} {r : Ratio} (wide : 2 ≤ f.topExponent)
    (den : 0 < r.den) (less : r.value < f.overflow) :
    0 < (f.nearest r).den ∧ ∃ e m, f.Rounds r.value e m ∧ (f.nearest r).value = m * 2 ^ e := by
  obtain ⟨e, m, rounds, -, number⟩ :=
    Binary.exists_number?_ofMagnitude false wide den less
  obtain ⟨negative, significand, exponent, said, signed⟩ := Binary.exists_exact number
  have same := congrArg abs signed
  rw [abs_withSign, abs_withSign, abs_of_nonneg (by positivity),
    abs_of_nonneg (by positivity)] at same
  rw [nearest, said]
  refine ⟨Ratio.den_scale_pos Nat.one_pos _, e, m, rounds, ?_⟩
  rw [Ratio.value_scale, Ratio.value_ofNat, same]

end EntitySql.Number
