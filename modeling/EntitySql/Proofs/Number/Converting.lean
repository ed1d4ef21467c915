import EntitySql.Proofs.Number.LowestTerms
import EntitySql.Proofs.Number.Rounding
/-!
# Converting between binary formats

A number that the other format has is converted to itself, and what is close to such a number is
converted to it. Being close is measured in binary places, so that it adds up along a chain of
roundings.

## Main definitions

* `Near`: being off by so many binary places.
* `Moderate`: quotients that are rounded to 64 bits with all bits of a significand.

## Main results

* `Format.Fits.exists_inLowestTerms`, `Format.Fits.lt_of_odd_dvd`: the numbers of a format in lowest
  terms.
* `Moderate.near`: how near rounding to 64 bits is.
* `Binary.number?_convert_of_near`, `Binary.number?_convert`: converting to another format.
-/

namespace EntitySql.Number

/-! ### Being near -/

/-- A rational number is **near** another one if it is off by less than so many binary places of
it. -/
def Near (places : ℕ) (x y : ℚ) : Prop :=
  |x - y| ≤ y / 2 ^ places

namespace Near

variable {k l : ℕ} {a b c d x y z : ℚ}

/-- Only numbers that are not negative have others near them, as the bound is a part of them. -/
theorem nonneg (near : Near k x y) : 0 ≤ y := by
  have := (abs_nonneg _).trans near
  by_contra negative
  have := div_neg_of_neg_of_pos (not_le.mp negative) (show (0 : ℚ) < 2 ^ k by positivity)
  linarith

/-- A number is as near to itself as one likes. -/
theorem refl (k : ℕ) (positive : 0 ≤ x) : Near k x x := by
  rw [Near, sub_self, abs_zero]
  positivity

/-- Fewer places are less near. -/
theorem weaken (near : Near k x y) (fewer : l ≤ k) : Near l x y := by
  refine le_trans near (div_le_div_of_nonneg_left near.nonneg (by positivity) ?_)
  exact pow_le_pow_right₀ (by norm_num) fewer

/-- What is near a number is twice that number at most. -/
theorem le_double (near : Near k x y) : x ≤ 2 * y := by
  have whole := abs_le.mp (near.weaken (Nat.zero_le k))
  rw [pow_zero, div_one] at whole
  linarith

/-- What is near a number by one binary place or more is half of it at least. -/
theorem half_le (near : Near (k + 1) x y) : y / 2 ≤ x := by
  have half := abs_le.mp (near.weaken (Nat.le_add_left 1 k))
  rw [pow_one] at half
  linarith

/-- Going through a number in between costs two places, and one for the second step. -/
theorem trans (first : Near (k + 2) x y) (second : Near (k + 1) y z) : Near k x z := by
  have twice := second.le_double
  have positive : (0 : ℚ) < 2 ^ k := by positivity
  rw [Near, pow_add] at first second
  have far : y / (2 ^ k * 2 ^ 2) ≤ z / (2 ^ k * 2) := by
    rw [div_le_div_iff₀ (by positivity) (by positivity)]
    nlinarith
  calc |x - z| ≤ |x - y| + |y - z| := abs_sub_le x y z
    _ ≤ z / (2 ^ k * 2) + z / (2 ^ k * 2) := add_le_add (first.trans far) second
    _ = z / 2 ^ k := by
        field_simp
        ring

/-- Sums are as near as their terms. -/
theorem add (left : Near k a b) (right : Near k c d) : Near k (a + c) (b + d) := by
  calc |a + c - (b + d)| = |(a - b) + (c - d)| := by congr 1; ring
    _ ≤ |a - b| + |c - d| := abs_add_le _ _
    _ ≤ b / 2 ^ k + d / 2 ^ k := add_le_add left right
    _ = (b + d) / 2 ^ k := (add_div b d _).symm

/-- A common factor does not change how near two numbers are. -/
theorem mul_right (near : Near k x y) (positive : 0 ≤ c) : Near k (x * c) (y * c) := by
  calc |x * c - y * c| = |x - y| * c := by rw [← sub_mul, abs_mul, abs_of_nonneg positive]
    _ ≤ y / 2 ^ k * c := mul_le_mul_of_nonneg_right near positive
    _ = y * c / 2 ^ k := by ring

/-- A quotient is two places less near than its terms. -/
theorem div (left : Near (k + 2) a b) (right : Near (k + 2) c d) (positive : 0 < d) :
    Near k (a / c) (b / d) := by
  have half := right.half_le
  have divisor : 0 < c := by linarith
  have cross : |a * d - b * c| ≤ b * d / 2 ^ (k + 1) := by
    calc |a * d - b * c| = |(a - b) * d - b * (c - d)| := by congr 1; ring
      _ ≤ |(a - b) * d| + |b * (c - d)| := abs_sub _ _
      _ = |a - b| * d + b * |c - d| := by
          rw [abs_mul, abs_mul, abs_of_pos positive, abs_of_nonneg left.nonneg]
      _ ≤ b / 2 ^ (k + 2) * d + b * (d / 2 ^ (k + 2)) := by
          exact add_le_add (mul_le_mul_of_nonneg_right left positive.le)
            (mul_le_mul_of_nonneg_left right left.nonneg)
      _ = b * d / 2 ^ (k + 1) := by
          rw [pow_succ 2 (k + 1)]
          field_simp
          norm_num
  have product := mul_pos divisor positive
  rw [Near, div_sub_div a b divisor.ne' positive.ne', abs_div, abs_of_pos product,
    div_le_iff₀ product, mul_comm c b]
  refine cross.trans ?_
  have share : b / d / 2 ^ k * (c * d) = b * (2 * c) / 2 ^ (k + 1) := by
    rw [pow_succ]
    field_simp
  rw [share]
  have room := mul_le_mul_of_nonneg_left (show d ≤ 2 * c by linarith) left.nonneg
  gcongr

/-- Nearness as a bound of the difference, the form in which rounding asks for it. -/
theorem abs_sub_le (near : Near k x y) : |x - y| ≤ y / 2 ^ k :=
  near

end Near

/-! ### Rounding and converting -/

/-- Numbers of 32 bits have normal exponents. -/
theorem wide_single : 2 ≤ Format.single.topExponent := by decide

/-- Numbers of 64 bits have normal exponents. -/
theorem wide_double : 2 ≤ Format.double.topExponent := by decide

variable {f g : Format} {q v : ℚ} {r : Ratio}

/-- Zero is a number of every format. -/
theorem Format.fits_zero (f : Format) : f.Fits 0 :=
  ⟨0, f.lowest, Nat.two_pow_pos _, le_rfl, by simp⟩

/-- A natural number within the width is one of the format. -/
theorem Format.fits_natCast {n : ℕ} (lowest : f.lowest ≤ 0) (bound : n < 2 ^ (f.fractionBits + 1)) :
    f.Fits n :=
  ⟨n, 0, bound, lowest, by simp⟩

/-- Every number of 32 bits is one of 64 bits. -/
theorem Format.Fits.double (fits : single.Fits v) : double.Fits v := by
  obtain ⟨c, e, bound, lowest, number⟩ := fits
  exact ⟨c, e, bound.trans (by decide), le_trans (by decide) lowest, number⟩

/-- The numbers of binary numbers are those of the format below its overflow. -/
theorem Binary.fits_of_number? {x : Binary f} (wide : 2 ≤ f.topExponent)
    (number : x.number? = some q) : f.Fits |q| ∧ |q| < f.overflow := by
  obtain ⟨v, fits, less, rfl⟩ := exists_fits_of_number? wide number
  rw [abs_withSign, abs_of_nonneg fits.nonneg]
  exact ⟨fits, less⟩

/-- Powers of two do not widen a significand. -/
theorem Format.fits_mul_two_pow {a : ℕ} (j : ℕ) (lowest : f.lowest ≤ 0)
    (bound : a < 2 ^ (f.fractionBits + 1)) : f.Fits (a * 2 ^ j : ℕ) :=
  ⟨a, j, bound, by omega, by push_cast; rw [zpow_natCast]⟩

/-- The numbers of a format in lowest terms. -/
theorem Format.Fits.exists_inLowestTerms (fits : f.Fits v) :
    ∃ a n, InLowestTerms a n ∧ (n = 0 ∨ a < 2 ^ (f.fractionBits + 1)) ∧ v = a / 2 ^ n := by
  obtain ⟨c, e, bound, -, rfl⟩ := fits
  cases e with
  | ofNat k => exact ⟨c * 2 ^ k, 0, .inl rfl, .inl rfl, by simp⟩
  | negSucc k =>
      obtain ⟨a, n, j, lowest, rfl, places⟩ := Number.exists_inLowestTerms c (k + 1)
      refine ⟨a, n, lowest, .inr ?_, ?_⟩
      · exact (Nat.le_mul_of_pos_right a (Nat.two_pow_pos j)).trans_lt bound
      · rw [zpow_negSucc, places, pow_add]
        push_cast
        field_simp

/-- The odd factors of a natural number of the format are within the width. -/
theorem Format.Fits.lt_of_odd_dvd {a n : ℕ} (fits : f.Fits n) (odd : a % 2 = 1) (divides : a ∣ n)
    (positive : 0 < n) : a < 2 ^ (f.fractionBits + 1) := by
  obtain ⟨c, e, bound, -, number⟩ := fits
  obtain ⟨b, rfl⟩ := divides
  have equal : a * b * 2 ^ (-e).toNat = c * 2 ^ e.toNat := by
    have scaled : ((a * b : ℕ) : ℚ) * 2 ^ (-e).toNat = c * 2 ^ e.toNat := by
      rw [number, mul_assoc, ← zpow_natCast, ← zpow_natCast, ← zpow_add₀ two_ne_zero]
      congr 2
      omega
    exact_mod_cast scaled
  have some : 0 < c := by
    by_contra none
    rw [Nat.eq_zero_of_not_pos none, zero_mul] at equal
    exact (Nat.mul_pos positive (Nat.two_pow_pos _)).ne' equal
  exact (le_of_odd_mul odd some equal).trans_lt bound

/-- The nearest number of a quotient that is one of the format. -/
theorem Format.value_nearest_of_fits (wide : 2 ≤ f.topExponent) (den : 0 < r.den)
    (less : r.value < f.overflow) (fits : f.Fits r.value) :
    0 < (f.nearest r).den ∧ (f.nearest r).value = r.value := by
  obtain ⟨positive, e, m, rounds, number⟩ := Format.exists_value_nearest wide den less
  exact ⟨positive, number.trans (rounds.eq_of_fits fits)⟩

/-- A quotient that is zero, or far from the smallest and the largest numbers. -/
structure Moderate (r : Ratio) : Prop where
  den_pos : 0 < r.den
  low : r.value = 0 ∨ 1 / 2 ^ 200 ≤ r.value
  high : r.value ≤ 2 ^ 200

/-- Where numbers of 64 bits overflow. -/
theorem overflow_double : Format.double.overflow = (2 ^ 53 - 1 / 2) * 2 ^ (971 : ℤ) := rfl

/-- Where numbers of 32 bits overflow, as a difference of two powers. -/
theorem overflow_single : Format.single.overflow = 2 ^ 128 - 2 ^ 103 := by
  have unfolded : Format.single.overflow = (2 ^ 24 - 1 / 2) * 2 ^ (104 : ℤ) := rfl
  rw [unfolded]
  norm_num

/-- Ninety-eight bits, more than a decimal has, do not overflow 32-bit numbers. -/
theorem lt_overflow_single (high : q ≤ 2 ^ 98) : q < Format.single.overflow := by
  refine high.trans_lt ?_
  rw [overflow_single]
  norm_num

/-- Two hundred bits, more than any term of a decimal has, do not overflow 64-bit numbers. -/
theorem lt_overflow_double (high : q ≤ 2 ^ 200) : q < Format.double.overflow := by
  have order : (2 : ℚ) ^ (200 : ℤ) ≤ 2 ^ (971 : ℤ) :=
    zpow_le_zpow_right₀ (by norm_num) (by norm_num)
  rw [overflow_double]
  calc q ≤ 2 ^ (200 : ℤ) := high
    _ ≤ 2 ^ (971 : ℤ) := order
    _ < (2 ^ 53 - 1 / 2) * 2 ^ (971 : ℤ) :=
        lt_mul_of_one_lt_left (two_zpow_pos _) (by norm_num)

/-- A quotient that is a number of 64 bits is the nearest one. -/
theorem nearest_eq (den : 0 < r.den) (value : r.value = v) (fits : Format.double.Fits v)
    (high : v ≤ 2 ^ 200) :
    0 < (Format.double.nearest r).den ∧ (Format.double.nearest r).value = v := by
  subst value
  exact Format.value_nearest_of_fits wide_double den (lt_overflow_double high) fits

/-- A mantissa is far below what a moderate quotient may be. -/
theorem natCast_le {n : ℕ} (bound : n < 2 ^ 96) : (n : ℚ) ≤ 2 ^ 200 := by
  exact_mod_cast bound.le.trans (by norm_num)

/-- A mantissa that is a number of 64 bits is not rounded. -/
theorem nearest_ofNat {n : ℕ} (bound : n < 2 ^ 96) (fits : Format.double.Fits n) :
    (Format.double.nearest (.ofNat n)).value = n :=
  (nearest_eq Nat.one_pos (Ratio.value_ofNat n) fits (natCast_le bound)).2

namespace Moderate

/-- A moderate quotient is rounded to a finite number, with an exponent and a significand. -/
theorem rounds (moderate : Moderate r) : 0 < (Format.double.nearest r).den
    ∧ ∃ e m, Format.double.Rounds r.value e m ∧ (Format.double.nearest r).value = m * 2 ^ e :=
  Format.exists_value_nearest wide_double moderate.den_pos (lt_overflow_double moderate.high)

/-- **The nearest number of 64 bits** is off by 53 binary places. -/
theorem near (moderate : Moderate r) : Near 53 (Format.double.nearest r).value r.value := by
  obtain ⟨-, e, m, rounds, number⟩ := moderate.rounds
  rw [number]
  rcases moderate.low with zero | low
  · rw [zero] at rounds ⊢
    rw [rounds.eq_of_fits (Format.fits_zero _)]
    exact Near.refl 53 le_rfl
  · refine rounds.abs_sub_le (le_trans ?_ low)
    calc (2 : ℚ) ^ 52 * 2 ^ (-1074 : ℤ) = 2 ^ (-1022 : ℤ) := by
          rw [← zpow_natCast, ← zpow_add₀ two_ne_zero]
          rfl
      _ ≤ 2 ^ (-200 : ℤ) := zpow_le_zpow_right₀ (by norm_num) (by norm_num)
      _ = 1 / 2 ^ 200 := by norm_num

/-- What is near a number well within the bounds is moderate. -/
theorem of_near {k : ℕ} {y : ℚ} (near : Near (k + 1) r.value y) (den_pos : 0 < r.den)
    (low : y = 0 ∨ 1 / 2 ^ 199 ≤ y) (high : y ≤ 2 ^ 199) : Moderate r := by
  have most := near.le_double
  have least := near.half_le
  refine ⟨den_pos, low.imp (fun zero => ?_) (fun low => ?_), by linarith⟩
  · have nonneg := r.value_nonneg
    linarith
  · linarith

/-- A mantissa. -/
theorem ofNat {n : ℕ} (bound : n < 2 ^ 96) : Moderate (.ofNat n) := by
  refine ⟨Nat.one_pos, ?_, by rw [Ratio.value_ofNat]; exact natCast_le bound⟩
  rw [Ratio.value_ofNat]
  refine (Nat.eq_zero_or_pos n).imp (fun zero => by rw [zero, Nat.cast_zero]) fun positive => ?_
  have one : (1 : ℚ) ≤ n := by exact_mod_cast positive
  linarith

end Moderate

/-- The nearest number of another format. -/
theorem Binary.exists_convert {x : Binary f} (number : x.number? = some q) (g : Format) :
    ∃ negative r, x.convert g = .ofMagnitude g negative (g.magnitude r) ∧ 0 < r.den
      ∧ q = withSign negative r.value := by
  obtain ⟨negative, significand, exponent, said, rfl⟩ := exists_exact number
  rw [convert, said]
  refine ⟨negative, _, rfl, Ratio.den_scale_pos Nat.one_pos exponent, ?_⟩
  rw [Ratio.value_scale, Ratio.value_ofNat]

/-- Equal numbers have equal sizes, and their signs act alike on all that vanishes with them. -/
theorem withSign_inj {negative negative' : Bool} {x y : ℚ} (left : 0 ≤ x) (right : 0 ≤ y)
    (equal : withSign negative x = withSign negative' y) :
    x = y ∧ ∀ z, (x = 0 → z = 0) → withSign negative z = withSign negative' z := by
  have same := congrArg abs equal
  rw [abs_withSign, abs_withSign, abs_of_nonneg left, abs_of_nonneg right] at same
  subst same
  refine ⟨rfl, fun z zero => ?_⟩
  cases negative <;> cases negative' <;> simp only [withSign, if_true] at equal ⊢
  · rw [zero (by simpa [self_eq_neg] using equal)]
    simp
  · rw [zero (by simpa [neg_eq_self] using equal)]
    simp

/-- Every number is its size with a sign. -/
theorem exists_withSign (q : ℚ) : ∃ negative, q = withSign negative |q| := by
  rcases le_total 0 q with positive | negative
  · exact ⟨false, (abs_of_nonneg positive).symm⟩
  · refine ⟨true, ?_⟩
    rw [withSign, if_pos rfl, abs_of_nonpos negative, neg_neg]

/-- **What is close to a number of another format** is converted to it. -/
theorem Binary.number?_convert_of_near {x : Binary f} {negative : Bool} (wide : 2 ≤ g.topExponent)
    (number : x.number? = some (withSign negative q)) (nonneg : 0 ≤ q) (less : q < g.overflow)
    (fits : g.Fits v) (near : Near (g.fractionBits + 3) q v) :
    (x.convert g).number? = some (withSign negative v) := by
  obtain ⟨negative', r, bits, den, equal⟩ := exists_convert number g
  obtain ⟨rfl, signs⟩ := withSign_inj nonneg r.value_nonneg equal
  rw [bits, number?_ofMagnitude_of_near negative' wide den less fits near.abs_sub_le, signs]
  intro zero
  have half := near.half_le
  have positive := fits.nonneg
  linarith

/-- **A number of another format is not changed.** -/
theorem Binary.number?_convert {x : Binary f} (wide : 2 ≤ g.topExponent)
    (number : x.number? = some q) (fits : g.Fits |q|) (less : |q| < g.overflow) :
    (x.convert g).number? = some q := by
  obtain ⟨negative, signed⟩ := exists_withSign q
  rw [signed] at number ⊢
  exact number?_convert_of_near wide number (abs_nonneg q) less fits (Near.refl _ (abs_nonneg q))

/-- **A number below the overflow of another format** stays finite. -/
theorem Binary.isFinite_convert {x : Binary f} (wide : 2 ≤ g.topExponent)
    (number : x.number? = some q) (less : |q| < g.overflow) : (x.convert g).isFinite = true := by
  obtain ⟨negative, r, bits, den, rfl⟩ := exists_convert number g
  rw [abs_withSign, abs_of_nonneg r.value_nonneg] at less
  obtain ⟨-, -, -, finite, -⟩ := exists_number?_ofMagnitude negative wide den less
  rw [bits, finite]

/-- **A number from the overflow of another format on** becomes an infinity of its sign. -/
theorem Binary.exact_convert_of_overflow {x : Binary f} (wide : 2 ≤ g.topExponent)
    (number : x.number? = some q) (more : g.overflow ≤ |q|) :
    (x.convert g).exact = .infinite (q < 0) := by
  obtain ⟨negative, r, bits, den, rfl⟩ := exists_convert number g
  rw [abs_withSign, abs_of_nonneg r.value_nonneg] at more
  rw [bits, exact_ofMagnitude_of_overflow negative wide den more]
  have positive : 0 < r.value := lt_of_lt_of_le g.overflow_pos more
  cases negative with
  | false => simp [withSign, positive.le]
  | true => simp [withSign, positive]

/-- Infinities are not finite, whether told by the bits or by what they say. -/
theorem Binary.isFinite_of_infinite {x : Binary f} {negative : Bool}
    (infinite : x.exact = .infinite negative) : x.isFinite = false := by
  rw [exact] at infinite
  rw [isFinite]
  split_ifs at infinite with top
  simp [top]

end EntitySql.Number
