import EntitySql.Proofs.Number.Converting
import EntitySql.Proofs.Wire.DeclaredNumbers
/-!
# Decimals as binary numbers

A decimal is made a number of 64 bits in several steps, each of which rounds: the integral part, the
digits behind the point, the power of ten and their quotient, the sum, and the sum times the power
of ten, which is rounded to a natural number and divided again. Up to the last step this is off by
some binary places and a unit of the last digit. That is little enough for a number of 32 bits,
which is always reached, and one of 64 bits is reached where no step rounds.

## Main definitions

* `Decimal.size`: the number of a decimal without its sign.
* `Decimal.lastTerm`: the quotient that is rounded in the last step.
* `Decimal.KeepsTerms`: no step rounds.
* `Decimal.Arrives`: the last step arrives at the number of the decimal.

## Main results

* `Decimal.lastTerm_near`, `Decimal.exists_number?_toDouble`: how far the steps are off.
* `Decimal.number?_toDouble`, `Decimal.number?_toSingle`: decimals that become their numbers.
* `Decimal.number?_toDouble_iff`: exactly those of 64 bits.
-/

namespace EntitySql.Number

/-! ### Terms -/

/-- Rounding halves up is off by half at most. -/
theorem abs_sub_roundHalfUp_le (num : ℕ) {den : ℕ} (positive : 0 < den) :
    |(roundHalfUp num den : ℚ) - num / den| ≤ 1 / 2 := by
  have denominator : (0 : ℚ) < den := by exact_mod_cast positive
  have below : 2 * den * roundHalfUp num den ≤ 2 * num + den := Nat.mul_div_le _ _
  have above : 2 * num + den < 2 * den * (roundHalfUp num den + 1) :=
    Nat.lt_mul_div_succ _ (by omega)
  have below' : (2 * den * roundHalfUp num den : ℚ) ≤ 2 * num + den := by exact_mod_cast below
  have above' : (2 * num + den : ℚ) < 2 * den * (roundHalfUp num den + 1) := by exact_mod_cast above
  generalize (roundHalfUp num den : ℚ) = k at below' above'
  rw [abs_le]
  constructor
  · rw [neg_le_sub_iff_le_add, div_le_iff₀ denominator]
    linarith
  · rw [sub_le_iff_le_add, ← sub_le_iff_le_add', le_div_iff₀ denominator]
    linarith

namespace Decimal

variable {d : Decimal}

/-- The number of a decimal without its sign. -/
def size (d : Decimal) : ℚ :=
  d.mantissa / 10 ^ d.scale

/-- Sizes are not negative. -/
theorem size_nonneg (d : Decimal) : 0 ≤ d.size := by
  unfold size
  positivity

/-- The number of a decimal is its size with its sign. -/
theorem number_eq (d : Decimal) : d.number = withSign d.negative d.size := by
  rw [number, size, signedMantissa, withSign]
  split <;> push_cast <;> ring

/-- The absolute value of a decimal's number is its size. -/
theorem abs_number (d : Decimal) : |d.number| = d.size := by
  rw [d.number_eq, abs_withSign, abs_of_nonneg d.size_nonneg]

/-- The power of ten of a decimal. -/
def powerTerm (d : Decimal) : Ratio :=
  Format.double.nearest (.ofNat (10 ^ d.scale))

/-- The integral part. -/
def wholeTerm (d : Decimal) : Ratio :=
  Format.double.nearest (.ofNat (d.mantissa / 10 ^ d.scale))

/-- The digits behind the point divided by the power of ten. -/
def fractionTerm (d : Decimal) : Ratio :=
  Format.double.nearest
    ((Format.double.nearest (.ofNat (d.mantissa % 10 ^ d.scale))).div d.powerTerm)

/-- The sum of the two times the power of ten: the mantissa again, if there were no errors. -/
def shiftedTerm (d : Decimal) : Ratio :=
  Format.double.nearest
    ((Format.double.nearest (d.wholeTerm.add d.fractionTerm)).mul d.powerTerm)

/-- The quotient that is rounded in the last step. -/
def lastTerm (d : Decimal) : Ratio :=
  if d.scale = 0 then .ofNat d.mantissa
  else if d.fractionTerm.num = 0 then d.wholeTerm
  else (Ratio.ofNat (roundHalfUp d.shiftedTerm.num d.shiftedTerm.den)).div d.powerTerm

/-- The result has the bits of the last quotient, with a sign that the number agrees with (zero
without places loses its sign). -/
theorem exists_toDouble_eq (d : Decimal) : ∃ negative,
    d.toDouble = .ofMagnitude .double negative (Format.double.magnitude d.lastTerm)
      ∧ d.number = withSign negative d.size := by
  rw [toDouble, lastTerm]
  by_cases integral : d.scale = 0
  · simp only [integral, if_true]
    refine ⟨_, rfl, ?_⟩
    rw [number_eq]
    by_cases zero : d.mantissa = 0
    · simp [size, zero, withSign]
    · simp [bne_iff_ne.mpr zero]
  · simp only [integral, if_false]
    refine ⟨d.negative, ?_, d.number_eq⟩
    change (if d.fractionTerm.num = 0 then _ else _) = _
    split
    · rfl
    · rfl

/-- The power of ten of a decimal has 96 bits at most, so it is a mantissa itself. -/
theorem ten_pow_scale_lt (d : Decimal) : 10 ^ d.scale < 2 ^ 96 :=
  (Nat.pow_le_pow_right (by norm_num) d.scale_le).trans_lt (by norm_num)

/-- A natural number divided by the power of ten. -/
theorem tenths_low (d : Decimal) (n : ℕ) :
    (n : ℚ) / 10 ^ d.scale = 0 ∨ 1 / 2 ^ 96 ≤ (n : ℚ) / 10 ^ d.scale := by
  refine (Nat.eq_zero_or_pos n).imp (fun zero => by simp [zero]) fun positive => ?_
  have most : (10 : ℚ) ^ d.scale ≤ 2 ^ 96 := by exact_mod_cast d.ten_pow_scale_lt.le
  exact div_le_div₀ (by positivity) (by exact_mod_cast positive) (by positivity) most

/-- A unit of the last digit. -/
theorem unit_le_one (d : Decimal) : (1 : ℚ) / 10 ^ d.scale ≤ 1 :=
  (div_le_one (by positivity)).mpr (one_le_pow₀ (by norm_num))

/-- A decimal has 96 bits at most. -/
theorem size_le (d : Decimal) : d.size ≤ 2 ^ 96 := by
  have bound : (d.mantissa : ℚ) ≤ 2 ^ 96 := by exact_mod_cast d.mantissa_lt.le
  exact (div_le_self (by positivity) (one_le_pow₀ (by norm_num))).trans bound

/-- The integral part and the fraction of a decimal. -/
theorem size_eq_add (d : Decimal) : d.size
    = (d.mantissa / 10 ^ d.scale : ℕ) + ((d.mantissa % 10 ^ d.scale : ℕ) : ℚ) / 10 ^ d.scale := by
  have split : (10 ^ d.scale : ℚ) * (d.mantissa / 10 ^ d.scale : ℕ)
      + (d.mantissa % 10 ^ d.scale : ℕ) = d.mantissa := by
    exact_mod_cast Nat.div_add_mod d.mantissa (10 ^ d.scale)
  rw [size]
  field_simp
  rw [← split]

/-- The power of ten is rounded once, off by 53 places. -/
theorem powerTerm_near (d : Decimal) : 0 < d.powerTerm.den
    ∧ Near 53 d.powerTerm.value (10 ^ d.scale) := by
  have moderate := Moderate.ofNat d.ten_pow_scale_lt
  have near := moderate.near
  rw [Ratio.value_ofNat, Nat.cast_pow] at near
  exact ⟨moderate.rounds.1, near⟩

/-- The integral part is rounded once, off by 53 places. -/
theorem wholeTerm_near (d : Decimal) : 0 < d.wholeTerm.den
    ∧ Near 53 d.wholeTerm.value (d.mantissa / 10 ^ d.scale : ℕ) := by
  have moderate := Moderate.ofNat ((Nat.div_le_self _ (10 ^ d.scale)).trans_lt d.mantissa_lt)
  have near := moderate.near
  rw [Ratio.value_ofNat] at near
  exact ⟨moderate.rounds.1, near⟩

/-- The rounded power of ten can be divided by. -/
theorem num_powerTerm_pos (d : Decimal) : 0 < d.powerTerm.num := by
  refine Ratio.num_pos (lt_of_lt_of_le ?_ d.powerTerm_near.2.half_le)
  positivity

/-- The fraction is off by 50 places: its digits, the power of ten and the quotient are rounded. -/
theorem fractionTerm_near (d : Decimal) : 0 < d.fractionTerm.den
    ∧ Near 50 d.fractionTerm.value ((d.mantissa % 10 ^ d.scale : ℕ) / 10 ^ d.scale) := by
  have digits := Moderate.ofNat ((Nat.mod_le _ (10 ^ d.scale)).trans_lt d.mantissa_lt)
  have near := digits.near
  rw [Ratio.value_ofNat] at near
  have quotient := near.div d.powerTerm_near.2 (by positivity)
  rw [← Ratio.value_div] at quotient
  have moderate := Moderate.of_near quotient (Nat.mul_pos digits.rounds.1 d.num_powerTerm_pos)
    ((d.tenths_low _).imp_right (le_trans (by norm_num))) ?_
  · exact ⟨moderate.rounds.1, (moderate.near.weaken (by norm_num)).trans quotient⟩
  · have size := d.size_le
    rw [size_eq_add] at size
    have whole : (0 : ℚ) ≤ (d.mantissa / 10 ^ d.scale : ℕ) := by positivity
    linarith

/-- The sum times the power of ten is off by 48 places, after five roundings. -/
theorem shiftedTerm_near (d : Decimal) : 0 < d.shiftedTerm.den
    ∧ Near 48 d.shiftedTerm.value (d.size * d.powerTerm.value) := by
  obtain ⟨wholeDen, whole⟩ := d.wholeTerm_near
  obtain ⟨fractionDen, fraction⟩ := d.fractionTerm_near
  obtain ⟨powerDen, power⟩ := d.powerTerm_near
  have low := d.tenths_low d.mantissa
  have high := d.size_le
  have sum := (whole.weaken (by norm_num)).add fraction
  rw [← size_eq_add, ← Ratio.value_add wholeDen fractionDen] at sum
  have moderate := Moderate.of_near sum (Nat.mul_pos wholeDen fractionDen)
    (low.imp_right (le_trans (by norm_num))) (by linarith)
  have total := (moderate.near.weaken (by norm_num)).trans sum
  have product := total.mul_right d.powerTerm.value_nonneg
  rw [← Ratio.value_mul] at product
  have tens : (1 : ℚ) ≤ 10 ^ d.scale := one_le_pow₀ (by norm_num)
  have tens' : (10 : ℚ) ^ d.scale ≤ 2 ^ 96 := by exact_mod_cast d.ten_pow_scale_lt.le
  have least := power.half_le
  have most := power.le_double
  have moderate' := Moderate.of_near product (Nat.mul_pos moderate.rounds.1 powerDen) ?_ ?_
  · exact ⟨moderate'.rounds.1, (moderate'.near.weaken (by norm_num)).trans product⟩
  · refine low.imp (fun zero => by rw [size, zero, zero_mul]) fun low => ?_
    calc (1 : ℚ) / 2 ^ 199 ≤ 1 / 2 ^ 96 * (1 / 2) := by norm_num
      _ ≤ d.size * d.powerTerm.value :=
          mul_le_mul low (by linarith) (by norm_num) d.size_nonneg
  · calc d.size * d.powerTerm.value ≤ 2 ^ 96 * 2 ^ 97 :=
          mul_le_mul high (by linarith) d.powerTerm.value_nonneg (by norm_num)
      _ ≤ 2 ^ 199 := by norm_num

/-- Where the fraction vanishes, there is none. -/
theorem size_eq_whole (vanishes : d.fractionTerm.num = 0) :
    d.size = (d.mantissa / 10 ^ d.scale : ℕ) := by
  have half := d.fractionTerm_near.2.half_le
  have zero : d.fractionTerm.value = 0 := by simp [Ratio.value, vanishes]
  have fraction : (0 : ℚ) ≤ (d.mantissa % 10 ^ d.scale : ℕ) / 10 ^ d.scale := by positivity
  rw [size_eq_add]
  linarith

/-- **The quotient that is rounded last** is off by a unit of the last digit and some binary
places. -/
theorem lastTerm_near (d : Decimal) : 0 < d.lastTerm.den
    ∧ |d.lastTerm.value - d.size| ≤ d.size / 2 ^ 48 + 1 / 10 ^ d.scale := by
  have size := d.size_nonneg
  rw [lastTerm]
  split_ifs with integral vanishes
  · refine ⟨Nat.one_pos, ?_⟩
    have same : d.size = d.mantissa := by rw [Decimal.size, integral, pow_zero, div_one]
    rw [Ratio.value_ofNat, same, sub_self, abs_zero]
    positivity
  · obtain ⟨den, near⟩ := d.wholeTerm_near
    rw [← size_eq_whole vanishes] at near
    refine ⟨den, (near.weaken (by norm_num)).abs_sub_le.trans (le_add_of_nonneg_right ?_)⟩
    positivity
  · obtain ⟨den, shifted⟩ := d.shiftedTerm_near
    obtain ⟨powerDen, power⟩ := d.powerTerm_near
    refine ⟨Nat.mul_pos Nat.one_pos d.num_powerTerm_pos, ?_⟩
    have tens : (0 : ℚ) < 10 ^ d.scale := by positivity
    have half := power.half_le
    have places : 0 < d.powerTerm.value := by linarith
    have rounded := abs_sub_roundHalfUp_le d.shiftedTerm.num den
    rw [Ratio.value_div, Ratio.value_ofNat]
    generalize (roundHalfUp d.shiftedTerm.num d.shiftedTerm.den : ℚ) = k at rounded ⊢
    have near : |k - d.size * d.powerTerm.value|
        ≤ 1 / 2 + d.size * d.powerTerm.value / 2 ^ 48 :=
      (abs_sub_le k d.shiftedTerm.value _).trans (add_le_add rounded shifted)
    calc |k / d.powerTerm.value - d.size|
        = |k - d.size * d.powerTerm.value| / d.powerTerm.value := by
          rw [← abs_of_pos places, ← abs_div, abs_of_pos places, sub_div,
            mul_div_cancel_right₀ _ places.ne']
      _ ≤ (1 / 2 + d.size * d.powerTerm.value / 2 ^ 48) / d.powerTerm.value := by gcongr
      _ = d.size / 2 ^ 48 + 1 / (2 * d.powerTerm.value) := by
          field_simp
          ring
      _ ≤ d.size / 2 ^ 48 + 1 / 10 ^ d.scale := by
          gcongr
          linarith

/-- The number that a decimal is rounded to does not overflow. -/
theorem value_lastTerm_le (d : Decimal) : d.lastTerm.value ≤ 2 ^ 97 := by
  have near := abs_le.mp d.lastTerm_near.2
  have size := d.size_le
  have unit := d.unit_le_one
  linarith

/-! ### Decimals without an error -/

/-- A decimal whose fraction is zero becomes its integral part. -/
theorem value_lastTerm_of_whole (fits : Format.double.Fits d.size)
    (whole : d.mantissa % 10 ^ d.scale = 0) : d.lastTerm.value = d.size := by
  have size : d.size = (d.mantissa / 10 ^ d.scale : ℕ) := by
    rw [size_eq_add, whole, Nat.cast_zero, zero_div, add_zero]
  have vanishes : d.fractionTerm.num = 0 := by
    by_contra some
    obtain ⟨den, near⟩ := d.fractionTerm_near
    have most := near.le_double
    have positive : 0 < d.fractionTerm.value :=
      div_pos (by exact_mod_cast Nat.pos_of_ne_zero some) (by exact_mod_cast den)
    rw [whole, Nat.cast_zero, zero_div] at most
    linarith
  rw [lastTerm]
  split_ifs with integral
  · rw [Ratio.value_ofNat, Decimal.size, integral, pow_zero, div_one]
  · rw [size] at fits ⊢
    refine (nearest_eq Nat.one_pos (Ratio.value_ofNat _) fits ?_).2
    rw [← size]
    exact d.size_le.trans (by norm_num)

/-- A decimal with a fraction, which like its mantissa is a number of 64 bits, has an odd mantissa
apart from a power of two, and is a binary fraction of no more places. -/
theorem exists_mantissa_eq (fits : Format.double.Fits d.size)
    (mantissa : Format.double.Fits d.mantissa) (broken : d.mantissa % 10 ^ d.scale ≠ 0) :
    ∃ a n j : ℕ, a * 5 ^ (n + j) < 2 ^ 53 ∧ d.scale = n + j
      ∧ d.mantissa = a * 5 ^ (n + j) * 2 ^ j := by
  obtain ⟨a, n, lowest, -, size⟩ := fits.exists_inLowestTerms
  obtain ⟨j, places, equal⟩ := lowest.exists_places size
  have equal' : d.mantissa = a * 5 ^ (n + j) * 2 ^ j := by
    rw [equal, ten_pow_eq, pow_add]
    ring
  refine ⟨a, n, j, ?_, places, equal'⟩
  have odd : a % 2 = 1 := by
    refine lowest.resolve_left fun whole => broken ?_
    subst whole
    rw [equal, places, Nat.zero_add, pow_zero, mul_one, Nat.mul_mod_left]
  have five : (a * 5 ^ (n + j)) % 2 = 1 := by rw [Nat.mul_mod, odd, Nat.pow_mod]; simp
  refine mantissa.lt_of_odd_dvd five ⟨2 ^ j, equal'⟩ (Nat.pos_of_ne_zero fun zero => broken ?_)
  rw [zero, Nat.zero_mod]

/-- All terms of a decimal are numbers of 64 bits. -/
structure KeepsTerms (d : Decimal) : Prop where
  power : Format.double.Fits (10 ^ d.scale : ℕ)
  whole : Format.double.Fits (d.mantissa / 10 ^ d.scale : ℕ)
  digits : Format.double.Fits (d.mantissa % 10 ^ d.scale : ℕ)
  fraction : Format.double.Fits ((d.mantissa % 10 ^ d.scale : ℕ) / 10 ^ d.scale)
  size : Format.double.Fits d.size
  mantissa : Format.double.Fits d.mantissa

/-- A decimal with places that fits 64 bits together with its mantissa has only terms that fit: the
factors of the mantissa that are left in a term are too few to need more bits. -/
theorem keepsTerms (fits : Format.double.Fits d.size) (mantissa : Format.double.Fits d.mantissa)
    (broken : d.mantissa % 10 ^ d.scale ≠ 0) : d.KeepsTerms := by
  obtain ⟨a, n, j, bound, places, equal⟩ := exists_mantissa_eq fits mantissa broken
  have lowest : Format.double.lowest = -1074 := by decide
  have scale := d.scale_le
  have tens : 10 ^ d.scale = 5 ^ (n + j) * 2 ^ j * 2 ^ n := by
    rw [places, ten_pow_eq, pow_add 2 n j]
    ring
  have equal' : d.mantissa = 5 ^ (n + j) * 2 ^ j * a := by
    rw [equal]
    ring
  have whole : d.mantissa / 10 ^ d.scale = a / 2 ^ n := by
    rw [equal', tens, Nat.mul_div_mul_left _ _ (by positivity)]
  have rest : d.mantissa % 10 ^ d.scale = 5 ^ (n + j) * (a % 2 ^ n) * 2 ^ j := by
    rw [equal', tens, Nat.mul_mod_mul_left]
    ring
  have some : 0 < a := by
    refine Nat.pos_of_ne_zero fun zero => broken ?_
    rw [equal', zero, mul_zero, Nat.zero_mod]
  have five : 0 < 5 ^ (n + j) := Nat.pow_pos (by norm_num)
  have narrow {b : ℕ} (le : b ≤ a) : 5 ^ (n + j) * b < 2 ^ 53 := by
    rw [mul_comm] at bound
    exact (Nat.mul_le_mul_left _ le).trans_lt bound
  have narrow' {b : ℕ} (le : b ≤ a) : b < 2 ^ 53 :=
    (Nat.le_mul_of_pos_left b five).trans_lt (narrow le)
  refine ⟨?_, ?_, ?_, ?_, fits, mantissa⟩
  · rw [tens, mul_assoc, ← pow_add]
    refine Format.fits_mul_two_pow _ (by omega) ?_
    exact (mul_one (5 ^ (n + j))).symm.trans_lt (narrow some)
  · rw [whole]
    exact Format.fits_natCast (by omega) (narrow' (Nat.div_le_self _ _))
  · rw [rest]
    exact Format.fits_mul_two_pow _ (by omega) (narrow (Nat.mod_le _ _))
  · refine ⟨a % 2 ^ n, -n, narrow' (Nat.mod_le _ _), by omega, ?_⟩
    have tens' : (10 : ℚ) ^ d.scale = 5 ^ (n + j) * 2 ^ j * 2 ^ n := by exact_mod_cast tens
    rw [rest, tens', zpow_neg, zpow_natCast]
    push_cast
    field_simp

namespace KeepsTerms

/-- The power of ten is not rounded. -/
theorem powerTerm (keeps : d.KeepsTerms) : d.powerTerm.value = 10 ^ d.scale := by
  rw [Decimal.powerTerm, nearest_ofNat d.ten_pow_scale_lt keeps.power, Nat.cast_pow]
  rfl

/-- The integral part is not rounded. -/
theorem wholeTerm (keeps : d.KeepsTerms) :
    d.wholeTerm.value = (d.mantissa / 10 ^ d.scale : ℕ) :=
  nearest_ofNat ((Nat.div_le_self _ _).trans_lt d.mantissa_lt) keeps.whole

/-- The fraction is not rounded. -/
theorem fractionTerm (keeps : d.KeepsTerms) :
    d.fractionTerm.value = (d.mantissa % 10 ^ d.scale : ℕ) / 10 ^ d.scale := by
  have bound := (Nat.mod_le d.mantissa (10 ^ d.scale)).trans_lt d.mantissa_lt
  have most := d.size_le
  rw [size_eq_add] at most
  have positive : (0 : ℚ) ≤ (d.mantissa / 10 ^ d.scale : ℕ) := by positivity
  refine (nearest_eq (Nat.mul_pos (Moderate.ofNat bound).rounds.1 d.num_powerTerm_pos) ?_
    keeps.fraction (by linarith)).2
  rw [Ratio.value_div, nearest_ofNat bound keeps.digits, keeps.powerTerm]

/-- The mantissa comes out again, as nothing on the way was rounded. -/
theorem shiftedTerm (keeps : d.KeepsTerms) : d.shiftedTerm.value = d.mantissa := by
  have wholeDen := d.wholeTerm_near.1
  have fractionDen := d.fractionTerm_near.1
  obtain ⟨den, sum⟩ := nearest_eq (Nat.mul_pos wholeDen fractionDen)
    (by rw [Ratio.value_add wholeDen fractionDen, keeps.wholeTerm, keeps.fractionTerm,
      size_eq_add]) keeps.size (d.size_le.trans (by norm_num))
  refine (nearest_eq (Nat.mul_pos den d.powerTerm_near.1) ?_ keeps.mantissa
    (natCast_le d.mantissa_lt)).2
  rw [Ratio.value_mul, sum, keeps.powerTerm, Decimal.size, div_mul_cancel₀ _ (by positivity)]

/-- Where all terms are numbers of 64 bits, nothing is rounded. -/
theorem lastTerm (keeps : d.KeepsTerms) : d.lastTerm.value = d.size := by
  rw [Decimal.lastTerm]
  split_ifs with integral vanishes
  · rw [Ratio.value_ofNat, Decimal.size, integral, pow_zero, div_one]
  · rw [keeps.wholeTerm, size_eq_whole vanishes]
  · have rounded := abs_sub_roundHalfUp_le d.shiftedTerm.num d.shiftedTerm_near.1
    have same : (d.shiftedTerm.num : ℚ) / d.shiftedTerm.den = d.mantissa := keeps.shiftedTerm
    rw [same] at rounded
    rw [Ratio.value_div, Ratio.value_ofNat, keeps.powerTerm]
    generalize roundHalfUp d.shiftedTerm.num d.shiftedTerm.den = k at rounded
    have close : |(k : ℤ) - d.mantissa| < 1 := by
      rw [← Int.cast_lt (R := ℚ)]
      push_cast
      exact rounded.trans_lt (by norm_num)
    have equal : k = d.mantissa := by
      have nothing := Int.abs_lt_one_iff.mp close
      omega
    rw [equal, Decimal.size]

end KeepsTerms

/-- **A decimal becomes its number** if that is one of 64 bits and its fraction is zero or its
mantissa is such a number too. -/
theorem number?_toDouble (fits : Format.double.Fits d.size)
    (exact : d.mantissa % 10 ^ d.scale = 0 ∨ Format.double.Fits d.mantissa) :
    d.toDouble.number? = some d.number := by
  have value : d.lastTerm.value = d.size := by
    by_cases whole : d.mantissa % 10 ^ d.scale = 0
    · exact value_lastTerm_of_whole fits whole
    · exact (keepsTerms fits (exact.resolve_left whole) whole).lastTerm
  obtain ⟨negative, bits, number⟩ := d.exists_toDouble_eq
  have less : d.lastTerm.value < Format.double.overflow :=
    lt_overflow_double (d.value_lastTerm_le.trans (by norm_num))
  rw [bits, number]
  refine Binary.number?_ofMagnitude_of_near negative wide_double d.lastTerm_near.1 less fits ?_
  rw [value, sub_self, abs_zero]
  exact div_nonneg fits.nonneg (by positivity)

/-- A decimal arrives at its number if the quotient that is rounded in the last step is rounded to
it. -/
def Arrives (d : Decimal) : Prop :=
  ∃ e m, Format.double.Rounds d.lastTerm.value e m ∧ d.size = m * 2 ^ e

/-- **A decimal becomes its number** exactly if the errors of the steps before the last one are too
small to matter in the last one. -/
theorem number?_toDouble_iff (d : Decimal) : d.toDouble.number? = some d.number ↔ d.Arrives := by
  obtain ⟨negative, bits, number⟩ := d.exists_toDouble_eq
  have less : d.lastTerm.value < Format.double.overflow :=
    lt_overflow_double (d.value_lastTerm_le.trans (by norm_num))
  obtain ⟨e, m, rounds, -, rounded⟩ :=
    Binary.exists_number?_ofMagnitude negative wide_double d.lastTerm_near.1 less
  rw [bits, rounded, number, Option.some_inj]
  constructor
  · intro same
    have size := (withSign_inj (by positivity) d.size_nonneg same).1
    exact ⟨e, m, rounds, size.symm⟩
  · rintro ⟨e', m', rounds', size⟩
    obtain ⟨rfl, rfl⟩ := rounds.unique rounds'
    rw [size]

/-- **The number of 64 bits of a decimal** is off by two units of the last digit and some binary
places. -/
theorem exists_number?_toDouble (d : Decimal) : ∃ negative v,
    d.toDouble.number? = some (withSign negative v) ∧ d.number = withSign negative d.size
      ∧ 0 ≤ v ∧ v ≤ 2 ^ 98 ∧ |v - d.size| ≤ d.size / 2 ^ 46 + 2 / 10 ^ d.scale := by
  obtain ⟨negative, bits, number⟩ := d.exists_toDouble_eq
  obtain ⟨den, near⟩ := d.lastTerm_near
  have high := d.value_lastTerm_le
  obtain ⟨e, m, rounds, -, rounded⟩ := Binary.exists_number?_ofMagnitude negative wide_double den
    (lt_overflow_double (high.trans (by norm_num)))
  have error := abs_le.mp (rounds.abs_sub_le_add d.lastTerm.value_nonneg)
  have error' := abs_le.mp near
  have size := d.size_nonneg
  have unit := d.unit_le_one
  have tiny : (2 : ℚ) ^ Format.double.lowest / 2 ≤ 1 / 10 ^ d.scale / 2 := by
    have tens : (10 : ℚ) ^ d.scale ≤ 2 ^ 96 := by exact_mod_cast d.ten_pow_scale_lt.le
    gcongr
    calc (2 : ℚ) ^ (-1074 : ℤ) ≤ 2 ^ (-96 : ℤ) :=
          zpow_le_zpow_right₀ (by norm_num) (by norm_num)
      _ = 1 / 2 ^ 96 := by norm_num
      _ ≤ 1 / 10 ^ d.scale := one_div_le_one_div_of_le (by positivity) tens
  have two : (2 : ℚ) / 10 ^ d.scale = 2 * (1 / 10 ^ d.scale) := by ring
  have fraction : Format.double.fractionBits = 52 := rfl
  rw [fraction] at error
  rw [← bits] at rounded
  refine ⟨negative, m * 2 ^ e, rounded, number, by positivity, by linarith, ?_⟩
  rw [two, abs_le]
  constructor <;> linarith

/-- **A decimal becomes its number of 32 bits** by way of 64 bits if it has one. -/
theorem number?_toSingle (fits : Format.single.Fits d.size) :
    (d.toDouble.convert .single).number? = some d.number := by
  have less := lt_overflow_single (d.size_le.trans (by norm_num))
  by_cases exact : d.mantissa % 10 ^ d.scale = 0 ∨ Format.double.Fits d.mantissa
  · refine Binary.number?_convert wide_single (number?_toDouble fits.double exact) ?_ ?_
    · rwa [abs_number]
    · rwa [abs_number]
  · obtain ⟨negative, v, number, sign, nonneg, high, near⟩ := d.exists_number?_toDouble
    rw [sign]
    refine Binary.number?_convert_of_near wide_single number nonneg ?_ fits ?_
    · exact lt_overflow_single high
    · -- The mantissa is so large that a unit of the last digit is little.
      have wide : 2 ^ 53 ≤ d.mantissa := by
        by_contra narrow
        exact exact (.inr (Format.fits_natCast (by decide) (not_le.mp narrow)))
      have unit : 2 / 10 ^ d.scale ≤ d.size / 2 ^ 52 := by
        have wide' : (2 : ℚ) ^ 53 ≤ d.mantissa := by exact_mod_cast wide
        rw [Decimal.size, div_div, div_le_div_iff₀ (by positivity) (by positivity)]
        nlinarith [show (0 : ℚ) < 10 ^ d.scale by positivity]
      have fraction : Format.single.fractionBits + 3 = 26 := rfl
      have size := d.size_nonneg
      rw [fraction]
      refine near.trans ?_
      linarith

end Decimal

end EntitySql.Number
