import EntitySql.Proofs.Number.BinaryToDecimal
import EntitySql.Proofs.Value.Overflow
/-!
# Reading numbers of other types

A number that is held by a value of one type may be one that another type of numbers has too.
Reading it as the other type then gives the same number, or a refusal, or an approximation. This
module says which: integers are read from integers and decimals only, binary numbers from binary
numbers and decimals only, and decimals from all of them. What may be approximated although the
number is there are decimals with a mantissa of more than 53 bits, read as numbers of 64 bits, and
binary numbers with many digits behind the point, read as decimals.

## Main definitions

* `Target.Has`: the numbers of a target.
* `Target.ReadsNumber`, `Target.Widens`: a reading gives the number of the value, if the target has
  it.
* `Target.Keeps`: the values of which this is true.

## Main results

* `Target.reads_held_number`: the values that are read as the same number.
* `Target.not_widens`: values that are refused or approximated.
-/

namespace EntitySql

open Number

namespace Target

variable {t : Target} {v : Value} {q : ℚ}

/-- A target **has a number** if this is the number of one of its data. -/
def Has (t : Target) (q : ℚ) : Prop :=
  ∃ x, t.type.number? x = some q

/-- A reading **gives a number**. -/
def ReadsNumber (t : Target) (v : Value) (q : ℚ) : Prop :=
  ∃ x, t.read v = .ok x ∧ t.type.number? x = some q

/-- A target **widens** a value if it gives the number of the value or does not have it. -/
def Widens (t : Target) (v : Value) : Prop :=
  ∀ q, v.quantity? = some q → t.Has q → t.ReadsNumber v q

/-- A target **keeps** the number of a value. Of decimals that are read as numbers of 64 bits, this
says which are known to be kept without looking at the steps in between. -/
def Keeps : Target → Value → ℚ → Prop
  | float32, v, _ => v.type = .float32 ∨ v.type.GoesByDouble
  | float64, v, _ => v.type = .float32 ∨ v.type = .float64
      ∨ ∃ p s d, v = .present (.decimal p s) d
        ∧ (d.mantissa % 10 ^ d.scale = 0 ∨ float64.Has d.mantissa)
  | decimal, v, q => v.type.isExact = true ∨ v.type = .float32 ∧ Decimal.IsShort (2 ^ 24) q
      ∨ v.type = .float64 ∧ Decimal.IsShort (2 ^ 52) q
  | _, v, _ => v.type.isExact = true

/-- A reading is that of the data of the value. -/
theorem readsNumber_iff : t.ReadsNumber v q ↔ ∃ x, t.ofValue? v = some x
    ∧ t.type.number? x = some q :=
  exists_congr fun _ => and_congr_left' read_eq_ok_iff

/-! ### Integers -/

/-- Integers that a target of integers has are read from integers and decimals only. -/
theorem readsNumber_iff_of_isInteger (integral : t.isInteger = true)
    (quantity : v.quantity? = some q) (held : t.Has q) :
    t.ReadsNumber v q ↔ v.type.isExact = true := by
  obtain ⟨x, number⟩ := held
  refine ⟨fun ⟨y, read, _⟩ => ((read_eq_ok_iff_hasIntegerOf integral).mp read).1, fun exact => ?_⟩
  obtain ⟨n, -, integer⟩ := exists_integer integral x
  obtain rfl : q = n := Option.some.inj (number.symm.trans integer)
  exact ⟨x, (read_eq_ok_iff_hasIntegerOf integral).mpr ⟨exact, n, quantity, number⟩, number⟩

/-! ### Binary numbers -/

/-- Numbers of 32 bits are read from binary numbers and decimals only. -/
theorem readsNumber_float32_iff (quantity : v.quantity? = some q) (held : float32.Has q) :
    float32.ReadsNumber v q ↔ v.type = .float32 ∨ v.type.GoesByDouble := by
  obtain ⟨fits, less⟩ := Binary.fits_of_number? wide_single held.choose_spec
  rw [readsNumber_iff]
  obtain ⟨type, datum⟩ := v
  obtain _ | x := datum
  · cases quantity
  cases type with
  | float32 => exact ⟨fun _ => .inl rfl, fun _ => ⟨x, rfl, quantity⟩⟩
  | float64 =>
      exact ⟨fun _ => .inr trivial,
        fun _ => ⟨_, rfl, Binary.number?_convert wide_single quantity fits less⟩⟩
  | decimal p s =>
      obtain rfl : x.number = q := Option.some.inj quantity
      rw [x.abs_number] at fits
      exact ⟨fun _ => .inr trivial, fun _ => ⟨_, rfl, x.number?_toSingle fits⟩⟩
  | _ =>
      refine ⟨fun ⟨_, read, _⟩ => (nomatch read), ?_⟩
      rintro (same | double)
      · cases same
      · cases double

/-- Numbers of 64 bits are read from binary numbers only, leaving decimals aside. -/
theorem readsNumber_float64_iff (quantity : v.quantity? = some q) (held : float64.Has q)
    (other : ∀ p s, v.type ≠ .decimal p s) :
    float64.ReadsNumber v q ↔ v.type = .float32 ∨ v.type = .float64 := by
  obtain ⟨fits, less⟩ := Binary.fits_of_number? wide_double held.choose_spec
  rw [readsNumber_iff]
  obtain ⟨type, datum⟩ := v
  obtain _ | x := datum
  · cases quantity
  cases type with
  | float32 =>
      exact ⟨fun _ => .inl rfl,
        fun _ => ⟨_, rfl, Binary.number?_convert wide_double quantity fits less⟩⟩
  | float64 => exact ⟨fun _ => .inr rfl, fun _ => ⟨x, rfl, quantity⟩⟩
  | decimal p s => exact absurd rfl (other p s)
  | _ =>
      refine ⟨fun ⟨_, read, _⟩ => (nomatch read), ?_⟩
      rintro (same | same) <;> cases same

/-- Decimals that are known to be kept by numbers of 64 bits. -/
theorem readsNumber_float64_decimal {p s : UInt8} {d : Decimal} (held : float64.Has d.number)
    (exact : d.mantissa % 10 ^ d.scale = 0 ∨ float64.Has d.mantissa) :
    float64.ReadsNumber (.present (.decimal p s) d) d.number := by
  obtain ⟨fits, -⟩ := Binary.fits_of_number? wide_double held.choose_spec
  rw [d.abs_number] at fits
  refine readsNumber_iff.mpr ⟨d.toDouble, rfl, d.number?_toDouble fits (exact.imp_right ?_)⟩
  rintro ⟨y, mantissa⟩
  have fits := (Binary.fits_of_number? wide_double mantissa).1
  rwa [abs_of_nonneg (by positivity)] at fits

/-- Decimals are kept by numbers of 64 bits exactly if the last step arrives at their number. -/
theorem readsNumber_float64_decimal_iff {p s : UInt8} {d : Decimal} :
    float64.ReadsNumber (.present (.decimal p s) d) d.number ↔ d.Arrives := by
  rw [readsNumber_iff, ← d.number?_toDouble_iff]
  constructor
  · rintro ⟨x, read, number⟩
    obtain rfl : d.toDouble = x := Option.some.inj read
    exact number
  · exact fun number => ⟨d.toDouble, rfl, number⟩

/-! ### Decimals -/

/-- The decimal of an integer, where there is one. -/
theorem exists_ofInt? {n : ℤ} {d : Decimal} (held : d.number = n) :
    ∃ d', Decimal.ofInt? n = some d' ∧ d'.number = n := by
  have bound : n.natAbs < 2 ^ 96 := by
    have size : d.size ≤ d.mantissa := div_le_self (by positivity) (one_le_pow₀ (by norm_num))
    have integer : d.size = n.natAbs := by rw [← d.abs_number, held, Nat.cast_natAbs, Int.cast_abs]
    rw [integer] at size
    exact (show n.natAbs ≤ d.mantissa by exact_mod_cast size).trans_lt d.mantissa_lt
  refine ⟨⟨n < 0, n.natAbs, 0, bound, Nat.zero_le _⟩,
    Decimal.ofParts?_eq_some_iff.mpr ⟨rfl, rfl, rfl⟩, ?_⟩
  have signed : (if n < 0 then -(n.natAbs : ℤ) else n.natAbs) = n := by
    split_ifs <;> omega
  rw [Decimal.number, Decimal.signedMantissa]
  simp only [decide_eq_true_eq, signed, pow_zero, div_one]

/-- Numbers of a decimal are read from integers and decimals, and from binary numbers that are
whole or short. -/
theorem readsNumber_decimal_iff (quantity : v.quantity? = some q) (held : decimal.Has q) :
    decimal.ReadsNumber v q ↔ v.type.isExact = true
      ∨ v.type = .float32 ∧ Decimal.IsShort (2 ^ 24) q
      ∨ v.type = .float64 ∧ Decimal.IsShort (2 ^ 52) q := by
  have held' : ∃ d : Decimal, d.number = q := by
    obtain ⟨d, number⟩ := held
    exact ⟨d, Option.some.inj number⟩
  -- A reading gives a number if it is a decimal with this number.
  have reads : decimal.ReadsNumber v q ↔ ∃ d, decimal.ofValue? v = some d ∧ Decimal.number d = q :=
    readsNumber_iff.trans (exists_congr fun d => and_congr_right' Option.some_inj)
  rw [reads]
  obtain ⟨type, datum⟩ := v
  obtain _ | x := datum
  · cases quantity
  cases type with
  | float32 =>
      have kept : (∃ d, Decimal.ofSingle? x = some d ∧ d.number = q)
          ↔ Decimal.IsShort (twoTo 24) q :=
        Decimal.exists_ofBinary?_iff quantity held' _
      refine Iff.trans kept ?_
      simp [ValueType.isExact, twoTo_eq]
  | float64 =>
      have kept : (∃ d, Decimal.ofDouble? x = some d ∧ d.number = q)
          ↔ Decimal.IsShort (twoTo 52) q :=
        Decimal.exists_ofBinary?_iff quantity held' _
      refine Iff.trans kept ?_
      simp [ValueType.isExact, twoTo_eq]
  | decimal p s => exact ⟨fun _ => .inl rfl, fun _ => ⟨x, rfl, Option.some.inj quantity⟩⟩
  | int8 | int16 | int32 | int64 | uint8 | uint16 | uint32 | uint64 =>
      obtain rfl := Option.some.inj quantity
      obtain ⟨d, number⟩ := held'
      exact ⟨fun _ => .inl rfl, fun _ => exists_ofInt? number⟩
  | _ => cases quantity

/-- Numbers are kept in the cases of `Keeps`, and in no other ones apart from decimals that are read
as numbers of 64 bits. -/
theorem readsNumber_cases (quantity : v.quantity? = some q) (held : t.Has q) :
    (t.Keeps v q → t.ReadsNumber v q)
      ∧ (t.ReadsNumber v q → t.Keeps v q ∨ t = .float64 ∧ ∃ p s, v.type = .decimal p s) := by
  cases t with
  | int8 | int16 | int32 | int64 | uint8 | uint16 | uint32 | uint64 =>
      have iff := readsNumber_iff_of_isInteger rfl quantity held
      exact ⟨iff.mpr, fun reads => .inl (iff.mp reads)⟩
  | float32 =>
      have iff := readsNumber_float32_iff quantity held
      exact ⟨iff.mpr, fun reads => .inl (iff.mp reads)⟩
  | float64 =>
      by_cases other : ∃ p s, v.type = .decimal p s
      · refine ⟨?_, fun _ => .inr ⟨rfl, other⟩⟩
        obtain ⟨p, s, decimal⟩ := other
        rintro (single | double | ⟨p, s, d, rfl, exact⟩)
        · cases single.symm.trans decimal
        · cases double.symm.trans decimal
        · obtain rfl : d.number = q := Option.some.inj quantity
          exact readsNumber_float64_decimal held exact
      · have iff := readsNumber_float64_iff quantity held fun p s same => other ⟨p, s, same⟩
        refine ⟨?_, fun reads => .inl ((iff.mp reads).imp_right .inl)⟩
        rintro (single | double | ⟨p, s, d, rfl, -⟩)
        · exact iff.mpr (.inl single)
        · exact iff.mpr (.inr double)
        · exact absurd ⟨p, s, rfl⟩ other
  | decimal =>
      have iff := readsNumber_decimal_iff quantity held
      exact ⟨iff.mpr, fun reads => .inl (iff.mp reads)⟩
  | _ =>
      obtain ⟨x, number⟩ := held
      cases number

/-- **The numbers that a target has are kept** in these cases. They are kept in no other ones, apart
from decimals that are read as numbers of 64 bits, and these are kept exactly if the last step
arrives at their number. -/
theorem reads_held_number (quantity : v.quantity? = some q) (held : t.Has q) :
    (t.Keeps v q → t.ReadsNumber v q)
      ∧ (t.ReadsNumber v q → t.Keeps v q ∨ t = .float64 ∧ ∃ p s, v.type = .decimal p s)
      ∧ ∀ p s d, t = .float64 → v = .present (.decimal p s) d →
        (t.ReadsNumber v q ↔ d.Arrives) := by
  obtain ⟨kept, only⟩ := readsNumber_cases quantity held
  refine ⟨kept, only, ?_⟩
  rintro p s d rfl rfl
  obtain rfl : d.number = q := Option.some.inj quantity
  exact readsNumber_float64_decimal_iff

/-- Minus two and a half is read from 64 bits as a decimal. -/
theorem reads_held_number_negative :
    let v : Value := .present .float64 ⟨0xC004000000000000⟩
    v.quantity? = some (-5 / 2) ∧ decimal.Has (-5 / 2) ∧ decimal.Keeps v (-5 / 2)
      ∧ decimal.ReadsNumber v (-5 / 2) := by
  intro v
  have said : (⟨0xC004000000000000⟩ : Binary .double).exact
      = .finite true 5629499534213120 (-51) := by decide
  have quantity : v.quantity? = some (-5 / 2) := by
    refine (congrArg Exact.number? said).trans (congrArg some ?_)
    norm_num [withSign]
  have held : decimal.Has (-5 / 2) := by
    refine ⟨(⟨true, 25, 1, by decide, by decide⟩ : Decimal), congrArg some ?_⟩
    norm_num [Decimal.number, Decimal.signedMantissa]
  have keeps : decimal.Keeps v (-5 / 2) :=
    .inr (.inr ⟨rfl, .inr ⟨25, 1, by norm_num, by norm_num [abs_div]⟩⟩)
  exact ⟨quantity, held, keeps, (reads_held_number quantity held).1 keeps⟩

/-- An integer is refused as a number of 64 bits, such a number as an integer; a decimal of 54 bits
is read as a neighbour of its number of 64 bits, and a number of 32 bits with eleven digits behind
the point as a decimal of fewer. -/
theorem not_widens :
    ¬ float64.Widens (.present .int32 (42 : Int32))
      ∧ ¬ int32.Widens (.present .float64 ⟨0x3FF0000000000000⟩)
      ∧ ¬ float64.Widens
        (.present (.decimal 0 1) ⟨false, 9007199254740995, 1, by decide, by decide⟩)
      ∧ ¬ decimal.Widens (.present .float32 ⟨0x3A000000⟩) := by
  refine ⟨fun widens => ?_, fun widens => ?_, fun widens => ?_, fun widens => ?_⟩
  · have said : (⟨0x4045000000000000⟩ : Binary .double).exact
        = .finite false 5910974510923776 (-47) := by decide
    have held : float64.Has 42 := by
      refine ⟨⟨0x4045000000000000⟩, (congrArg Exact.number? said).trans (congrArg some ?_)⟩
      norm_num [withSign]
    have other (p s : UInt8) : ValueType.int32 ≠ .decimal p s := fun same => by cases same
    rcases (readsNumber_float64_iff rfl held other).mp (widens _ rfl held) with same | same <;>
      cases same
  · have said : (⟨0x3FF0000000000000⟩ : Binary .double).exact
        = .finite false 4503599627370496 (-52) := by decide
    have quantity : (Value.present .float64 ⟨0x3FF0000000000000⟩).quantity? = some 1 := by
      refine (congrArg Exact.number? said).trans (congrArg some ?_)
      norm_num [withSign]
    have held : int32.Has 1 := ⟨(1 : Int32), rfl⟩
    have reads := (readsNumber_iff_of_isInteger rfl quantity held).mp (widens _ quantity held)
    cases reads
  · let d : Decimal := ⟨false, 9007199254740995, 1, by decide, by decide⟩
    have said : (⟨0x430999999999999C⟩ : Binary .double).exact
        = .finite false 7205759403792796 (-3) := by decide
    have found : d.toDouble.exact = .finite false 7205759403792797 (-3) := by decide +kernel
    have held : float64.Has d.number := by
      refine ⟨⟨0x430999999999999C⟩, (congrArg Exact.number? said).trans (congrArg some ?_)⟩
      norm_num [withSign, Decimal.number, Decimal.signedMantissa, d]
    obtain ⟨x, read, number⟩ := readsNumber_iff.mp (widens _ rfl held)
    obtain rfl : d.toDouble = x := Option.some.inj read
    have same := Option.some.inj ((congrArg Exact.number? found).symm.trans number)
    norm_num [withSign, Decimal.number, Decimal.signedMantissa, d] at same
  · have said : (⟨0x3A000000⟩ : Binary .single).exact = .finite false 8388608 (-34) := by decide
    have quantity : (Value.present .float32 ⟨0x3A000000⟩).quantity? = some (1 / 2 ^ 11) := by
      refine (congrArg Exact.number? said).trans (congrArg some ?_)
      norm_num [withSign]
    have held : decimal.Has (1 / 2 ^ 11) := by
      refine ⟨(⟨false, 48828125, 11, by decide, by decide⟩ : Decimal), congrArg some ?_⟩
      norm_num [Decimal.number, Decimal.signedMantissa]
    have long : ¬ Decimal.IsShort (2 ^ 24) (1 / 2 ^ 11) := by
      rw [← Decimal.kept_iff (a := 1) (n := 11) (.inr rfl) (by norm_num)]
      decide
    rcases (readsNumber_decimal_iff quantity held).mp (widens _ quantity held) with
      exact | ⟨-, short⟩ | ⟨double, -⟩
    · cases exact
    · exact long short
    · cases double

end Target

end EntitySql
