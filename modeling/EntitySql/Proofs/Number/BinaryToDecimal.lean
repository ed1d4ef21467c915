import EntitySql.Proofs.Number.DecimalToBinary
/-!
# Binary numbers as decimals

A binary number is a binary fraction, and a decimal that equals it has one digit behind the point
for each binary place. Making the decimal finds the fraction in lowest terms and these digits, but
then drops digits while the mantissa is not below a limit. So whole numbers keep their value, and of
the others those with a mantissa below the limit.

## Main definitions

* `Decimal.Scaled.value`: the number of a significand times a power of ten.
* `Decimal.IsShort`: whole numbers, and those of a decimal with a mantissa below a limit.

## Main results

* `Decimal.exists_fiveless`: the digits of the fraction in lowest terms.
* `Decimal.exists_ofBinary?_iff`: the binary numbers that become their decimals.
-/

namespace EntitySql.Number.Decimal

variable {a b j k limit n : ℕ} {e : ℤ} {s : Scaled}

namespace Scaled

/-- The number of a significand times a power of ten. -/
def value (s : Scaled) : ℚ :=
  s.mantissa * 10 ^ s.exponent

/-! ### Powers of five -/

/-- Factors of two are taken out first, each one for a turn of the loop that would have multiplied
by five. -/
theorem timesFives_mul_two_pow (j n : ℕ) (e : ℤ) :
    timesFives ⟨a * 2 ^ j, e⟩ (n + j) = timesFives ⟨a, e + j⟩ n := by
  induction j generalizing e with
  | zero => simp
  | succ j ih =>
      have half : a * 2 ^ (j + 1) / 2 = a * 2 ^ j := by
        rw [pow_succ, ← mul_assoc, Nat.mul_div_cancel _ Nat.two_pos]
      have even : a * 2 ^ (j + 1) % 2 = 0 := by
        rw [pow_succ, ← mul_assoc, Nat.mul_mod_left]
      rw [← add_assoc, timesFives, if_pos even, half, ih]
      push_cast
      rw [add_right_comm, add_assoc]

/-- An odd significand is multiplied by five in every turn, as long as it stays within 96 bits. -/
theorem timesFives_of_odd (odd : a % 2 = 1) (bound : a * 5 ^ n < 2 ^ 96) :
    timesFives ⟨a, e⟩ n = ⟨a * 5 ^ n, e⟩ := by
  induction n generalizing a with
  | zero => simp [timesFives]
  | succ n ih =>
      have shifted : a * 5 ^ (n + 1) = a * 5 * 5 ^ n := by ring
      rw [shifted] at bound ⊢
      have narrow : a * 5 < 2 ^ 96 :=
        (Nat.le_mul_of_pos_right _ (Nat.pow_pos (by norm_num))).trans_lt bound
      have notEven : ¬ a % 2 = 0 := by omega
      rw [timesFives, if_neg notEven, twoTo_eq, if_pos narrow, ih (by omega) bound]

/-- Doubling in place of dividing by five goes through for all turns, as long as 96 bits hold the
result. -/
theorem overFives_of_lt (bound : b * 2 ^ n < 2 ^ 96) :
    overFives ⟨b, e⟩ n = some ⟨b * 2 ^ n, e - n⟩ := by
  induction n generalizing b e with
  | zero => simp [overFives]
  | succ n ih =>
      have shifted : b * 2 ^ (n + 1) = b * 2 * 2 ^ n := by ring
      rw [shifted] at bound ⊢
      have narrow : b * 2 < 2 ^ 96 :=
        (Nat.le_mul_of_pos_right _ (Nat.two_pow_pos n)).trans_lt bound
      have half : b < 2 ^ 95 := by omega
      rw [overFives, twoTo_eq, if_pos half, ih bound]
      congr 2
      push_cast
      ring

/-! ### Digits behind the point -/

/-- No digit is dropped from a mantissa below the limit. -/
theorem dropAbove_of_lt (less : s.mantissa < limit) (n : ℕ) : s.dropAbove limit n = s := by
  cases n with
  | zero => rfl
  | succ n => rw [dropAbove, if_neg (Nat.not_le.mpr less)]

/-- Dropping digits raises the exponent, by one for each turn at most. -/
theorem exponent_dropAbove (limit : ℕ) (s : Scaled) (n : ℕ) :
    s.exponent ≤ (s.dropAbove limit n).exponent
      ∧ (s.dropAbove limit n).exponent ≤ s.exponent + n := by
  induction n generalizing s with
  | zero => simp [dropAbove]
  | succ n ih =>
      rw [dropAbove]
      split_ifs
      · have rest := ih ⟨tenth s.mantissa, s.exponent + 1⟩
        push_cast
        dsimp only at rest
        omega
      · push_cast
        omega

/-- Dropping zeros keeps the number and does not lengthen the mantissa. -/
theorem dropZeros_spec (s : Scaled) (n : ℕ) : (s.dropZeros n).value = s.value
    ∧ (s.dropZeros n).mantissa ≤ s.mantissa ∧ s.exponent ≤ (s.dropZeros n).exponent
    ∧ (s.dropZeros n).exponent ≤ s.exponent + n := by
  induction n generalizing s with
  | zero => simp [dropZeros]
  | succ n ih =>
      rw [dropZeros]
      split_ifs with zero
      · obtain ⟨value, mantissa, least, most⟩ := ih ⟨s.mantissa / 10, s.exponent + 1⟩
        dsimp only at mantissa least most
        refine ⟨value.trans ?_, by omega, by omega, by push_cast; omega⟩
        have tens : (s.mantissa : ℚ) = (s.mantissa / 10 : ℕ) * 10 := by
          exact_mod_cast (Nat.div_mul_cancel (Nat.dvd_of_mod_eq_zero zero)).symm
        rw [Scaled.value, Scaled.value, tens, zpow_add_one₀ (by norm_num)]
        ring
      · exact ⟨rfl, le_rfl, le_rfl, by push_cast; omega⟩

end Scaled

/-- **The digits of a binary number**: those of the binary fraction in lowest terms, unless there
are too many. -/
theorem exists_fiveless (b : ℕ) (e : ℤ) : ∃ a n, InLowestTerms a n
    ∧ (b : ℚ) * 2 ^ e = a / 2 ^ n ∧ (a * 5 ^ n < 2 ^ 96 →
      (e ≤ 0 → Scaled.timesFives ⟨b, e⟩ (-e).toNat = ⟨a * 5 ^ n, -n⟩)
        ∧ (¬ e ≤ 0 → Scaled.overFives ⟨b, e⟩ e.toNat = some ⟨a * 5 ^ n, -n⟩)) := by
  by_cases fraction : e ≤ 0
  · obtain ⟨places, rfl⟩ : ∃ places : ℕ, e = -places := ⟨(-e).toNat, by omega⟩
    obtain ⟨a, n, j, lowest, rfl, rfl⟩ := exists_inLowestTerms b places
    refine ⟨a, n, lowest, ?_, fun bound => ⟨fun _ => ?_, fun whole => absurd fraction whole⟩⟩
    · rw [zpow_neg, zpow_natCast, pow_add]
      push_cast
      field_simp
    · have toNat : (- -((n + j : ℕ) : ℤ)).toNat = n + j := by omega
      have exponent : -((n + j : ℕ) : ℤ) + j = -n := by push_cast; ring
      rw [toNat, Scaled.timesFives_mul_two_pow, exponent]
      rcases lowest with rfl | odd
      · simp [Scaled.timesFives]
      · rw [Scaled.timesFives_of_odd odd bound]
  · obtain ⟨places, rfl⟩ : ∃ places : ℕ, e = places := ⟨e.toNat, by omega⟩
    refine ⟨b * 2 ^ places, 0, .inl rfl, by simp, fun bound => ⟨fun le => absurd le fraction,
      fun _ => ?_⟩⟩
    rw [pow_zero, mul_one] at bound ⊢
    rw [Int.toNat_natCast, Scaled.overFives_of_lt bound, sub_self, Nat.cast_zero, neg_zero]

/-- Of these digits the ones are kept that are below the limit, less the zeros at the end. -/
theorem exists_scaledOf? (b : ℕ) (e : ℤ) : ∃ a n, InLowestTerms a n
    ∧ (b : ℚ) * 2 ^ e = a / 2 ^ n
    ∧ (a * 5 ^ n < 2 ^ 96 → n ≤ 28 → ∀ limit, ∃ (kept : Scaled) (places : ℕ),
      kept = Scaled.dropAbove limit ⟨a * 5 ^ n, -n⟩ n ∧ kept.exponent + places = 0
      ∧ scaledOf? limit b e = some (kept.dropZeros places)) := by
  obtain ⟨a, n, lowest, equal, fiveless⟩ := exists_fiveless b e
  refine ⟨a, n, lowest, equal, fun bound scale limit => ?_⟩
  have most := (Scaled.exponent_dropAbove limit ⟨a * 5 ^ n, -n⟩ n).2
  refine ⟨_, (-(Scaled.dropAbove limit ⟨a * 5 ^ n, -n⟩ n).exponent).toNat, rfl, ?_, ?_⟩
  · dsimp only at most
    omega
  · obtain ⟨fraction, whole⟩ := fiveless bound
    have within : (-28 - -(n : ℤ)).toNat = 0 := by omega
    have places : (- -(n : ℤ)).toNat = n := by omega
    have negative : ¬ 0 < -(n : ℤ) := by omega
    unfold scaledOf?
    by_cases le : e ≤ 0
    · simp only [le, if_true, fraction, Option.bind_eq_bind, Option.bind_some, negative, if_false,
        within, Scaled.dropDigits, places]
      rfl
    · simp only [le, whole, Option.bind_eq_bind, Option.bind_some, negative, if_false,
        within, Scaled.dropDigits, places, not_false_eq_true]
      rfl

/-- A decimal is made of its own sign, mantissa and scale, and of no others. -/
theorem ofParts?_eq_some_iff {negative : Bool} {d : Decimal} :
    ofParts? negative a n = some d ↔ d.negative = negative ∧ d.mantissa = a ∧ d.scale = n := by
  rw [ofParts?]
  split_ifs with bounds
  · rw [Option.some.injEq]
    obtain ⟨negative', mantissa, scale, _, _⟩ := d
    simp only [Decimal.mk.injEq]
    rw [eq_comm (a := negative), eq_comm (a := a), eq_comm (a := n)]
  · refine ⟨nofun, ?_⟩
    rintro ⟨-, rfl, rfl⟩
    exact absurd ⟨d.mantissa_lt, d.scale_le⟩ bounds

/-- A number **is short** if it is whole, or has so many places that the mantissa is below the
limit. -/
def IsShort (limit : ℕ) (q : ℚ) : Prop :=
  (∃ k : ℕ, |q| = k) ∨ ∃ m s : ℕ, m < limit ∧ |q| = m / 10 ^ s

/-- Which of the digits are kept: all exactly if there are none behind the point or they are below
the limit. -/
theorem kept_iff {q : ℚ} (lowest : InLowestTerms a n) (equal : |q| = a / 2 ^ n) :
    (n = 0 ∨ a * 5 ^ n < limit) ↔ IsShort limit q := by
  constructor
  · rintro (rfl | less)
    · exact .inl ⟨a, by simpa using equal⟩
    · refine .inr ⟨a * 5 ^ n, n, less, ?_⟩
      have tens : (10 : ℚ) ^ n = 5 ^ n * 2 ^ n := by exact_mod_cast ten_pow_eq n
      rw [equal, tens]
      push_cast
      field_simp
  · rintro (⟨k, whole⟩ | ⟨m, s, less, digits⟩)
    · have places : (k : ℚ) / 10 ^ 0 = a / 2 ^ n := by rw [pow_zero, div_one, ← whole, equal]
      obtain ⟨j, zero, -⟩ := lowest.exists_places places
      exact .inl (by omega)
    · obtain ⟨j, -, rfl⟩ := lowest.exists_places (digits.symm.trans equal)
      exact .inr ((Nat.le_mul_of_pos_right _ (Nat.pow_pos (by norm_num))).trans_lt less)

/-- A decimal with the digits of a scaled number and its places has its size. -/
theorem size_of_parts {d : Decimal} (mantissa : d.mantissa = s.mantissa)
    (scale : d.scale = (-s.exponent).toNat) (integral : s.exponent ≤ 0) : d.size = s.value := by
  obtain ⟨places, equal⟩ : ∃ places : ℕ, s.exponent = -places :=
    ⟨(-s.exponent).toNat, by omega⟩
  have same : d.scale = places := by omega
  rw [size, Scaled.value, mantissa, same, equal, zpow_neg, zpow_natCast, div_eq_mul_inv]

/-- **Digits that are all kept have the number**, and others have too few places for it. -/
theorem exists_kept_iff {kept : Scaled} {places : ℕ} {negative : Bool}
    (lowest : InLowestTerms a n) (bound : a * 5 ^ n < 2 ^ 96) (scale : n ≤ 28)
    (dropped : kept = Scaled.dropAbove limit ⟨a * 5 ^ n, -n⟩ n)
    (integral : kept.exponent + places = 0) :
    (∃ d, ofParts? negative (kept.dropZeros places).mantissa
        (-(kept.dropZeros places).exponent).toNat = some d
        ∧ d.number = withSign negative (a / 2 ^ n)) ↔ n = 0 ∨ a * 5 ^ n < limit := by
  obtain ⟨value, mantissa, least, most⟩ := kept.dropZeros_spec places
  generalize kept.dropZeros places = shown at value mantissa least most ⊢
  constructor
  · rintro ⟨d, parts, number⟩
    obtain ⟨-, digits, tens⟩ := ofParts?_eq_some_iff.mp parts
    by_contra wide
    obtain ⟨fraction, wide⟩ := not_or.mp wide
    obtain ⟨k, rfl⟩ := Nat.exists_eq_succ_of_ne_zero fraction
    have equal := congrArg abs number
    rw [abs_number, abs_withSign, abs_of_nonneg (by positivity)] at equal
    obtain ⟨j, more, -⟩ := lowest.exists_places equal
    -- A digit is dropped, so that there are fewer places than the number has.
    rw [Scaled.dropAbove, if_pos (not_lt.mp wide)] at dropped
    have fewer := (Scaled.exponent_dropAbove limit
      ⟨tenth (a * 5 ^ k.succ), -(k.succ : ℕ) + 1⟩ k).1
    rw [← dropped] at fewer
    dsimp only at fewer
    omega
  · intro all
    obtain rfl : kept = ⟨a * 5 ^ n, -n⟩ := by
      rcases all with rfl | less
      · exact dropped
      · rw [dropped, Scaled.dropAbove_of_lt less]
    dsimp only at mantissa least most integral
    refine ⟨⟨negative, shown.mantissa, (-shown.exponent).toNat, mantissa.trans_lt bound, by omega⟩,
      ofParts?_eq_some_iff.mpr ⟨rfl, rfl, rfl⟩, ?_⟩
    have tens : (10 : ℚ) ^ n = 5 ^ n * 2 ^ n := by exact_mod_cast ten_pow_eq n
    rw [number_eq, size_of_parts rfl rfl (by omega), value, Scaled.value]
    dsimp only
    rw [zpow_neg, zpow_natCast, tens]
    push_cast
    field_simp

/-- **The binary numbers that become their decimals** are the short ones among those that have
one. -/
theorem exists_ofBinary?_iff {f : Format} {x : Binary f} {q : ℚ} (number : x.number? = some q)
    (held : ∃ d : Decimal, d.number = q) (limit : ℕ) :
    (∃ d, ofBinary? limit x = some d ∧ d.number = q) ↔ IsShort limit q := by
  obtain ⟨negative, b, e, said, rfl⟩ := Binary.exists_exact number
  by_cases zero : b = 0
  · subst zero
    have nothing : withSign negative ((0 : ℕ) * 2 ^ e) = 0 := by cases negative <;> simp [withSign]
    rw [ofBinary?, said, nothing]
    refine ⟨fun _ => .inl ⟨0, by simp⟩, fun _ => ⟨⟨negative, 0, 0, by decide, by decide⟩, rfl, ?_⟩⟩
    cases negative <;> simp [Decimal.number, signedMantissa]
  obtain ⟨a, n, lowest, equal, scaled⟩ := exists_scaledOf? b e
  rw [equal] at held ⊢
  have size : |withSign negative ((a : ℚ) / 2 ^ n)| = a / 2 ^ n := by
    rw [abs_withSign, abs_of_nonneg (by positivity)]
  -- A decimal that has the number bounds its digits in lowest terms.
  obtain ⟨d, equal'⟩ := held
  obtain ⟨j, places, mantissa⟩ := lowest.exists_places (m := d.mantissa) (s := d.scale)
    (by rw [← size, ← equal', d.abs_number]; rfl)
  have fewer : a * 5 ^ n ≤ d.mantissa :=
    mantissa ▸ Nat.le_mul_of_pos_right _ (Nat.pow_pos (by norm_num))
  have bound := fewer.trans_lt d.mantissa_lt
  have scale : n ≤ 28 := by
    have most := d.scale_le
    omega
  obtain ⟨kept, shown, dropped, integral, result⟩ := scaled bound scale limit
  have bits : ofBinary? limit x = ofParts? negative (kept.dropZeros shown).mantissa
      (-(kept.dropZeros shown).exponent).toNat := by
    simp only [ofBinary?, said, zero, if_false, result, Option.bind_eq_bind, Option.bind_some]
  rw [bits, exists_kept_iff lowest bound scale dropped integral, kept_iff lowest size]

end EntitySql.Number.Decimal
