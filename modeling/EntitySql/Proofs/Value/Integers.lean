import EntitySql.Proofs.Number.Rounding
import EntitySql.Proofs.Wire.DeclaredNumbers
/-!
# Reading integers

Whatever type holds an integer, it is read as any type of integers that has it. The way there is
always the same: a value of an exact type holds a rational number, and if that is an integer between
the bounds of the target, it is the number of one word. So reading an integer by way of another type
makes no difference.

## Main definitions

* `ValueType.number?`, `Value.quantity?`: the rational number of a datum, and of a value.

## Main results

* `Value.integer?_eq_some_iff`: the integers that values hold.
* `Target.ofValue?_eq_some_iff`: the words that they are read as.
* `Target.reads_integers`: integers are read exactly, also by way of other types.
-/

namespace EntitySql

open Number

/-! ### Numbers of values -/

/-- The rational number of a datum, if it is one. -/
def ValueType.number? : (t : ValueType) → t.Carrier → Option ℚ
  | int8, x => some (x.toInt : ℤ)
  | int16, x => some (x.toInt : ℤ)
  | int32, x => some (x.toInt : ℤ)
  | int64, x => some (x.toInt : ℤ)
  | uint8, x => some (x.toNat : ℤ)
  | uint16, x => some (x.toNat : ℤ)
  | uint32, x => some (x.toNat : ℤ)
  | uint64, x => some (x.toNat : ℤ)
  | float32, x => x.number?
  | float64, x => x.number?
  | decimal _ _, x => some x.number
  | _, _ => none

/-- The rational number of a value, if it is present and one. -/
def Value.quantity? (v : Value) : Option ℚ :=
  v.datum.bind v.type.number?

/-- The integer of a decimal is the one that it equals. -/
theorem Number.Decimal.toInt?_eq_some_iff {d : Decimal} {n : ℤ} :
    d.toInt? = some n ↔ d.number = n := by
  have tens : (10 : ℚ) ^ d.scale ≠ 0 := pow_ne_zero _ (by norm_num)
  have tens' : (10 : ℤ) ^ d.scale ≠ 0 := pow_ne_zero _ (by norm_num)
  have scaled : d.number = n ↔ d.signedMantissa = n * 10 ^ d.scale := by
    rw [number, div_eq_iff tens]
    exact_mod_cast Iff.rfl
  rw [scaled]
  by_cases whole : d.mantissa % 10 ^ d.scale = 0
  · have split : (d.mantissa : ℤ) = (d.mantissa / 10 ^ d.scale : ℕ) * 10 ^ d.scale := by
      exact_mod_cast (Nat.div_mul_cancel (Nat.dvd_of_mod_eq_zero whole)).symm
    rw [signedMantissa, split]
    simp only [toInt?, isInteger, tenTo_eq, whole, decide_true, if_true, Option.some.injEq]
    cases d.negative
    · simp [mul_left_inj' tens']
    · simp [← neg_mul, mul_left_inj' tens']
  · have broken : d.toInt? = none := by simp [toInt?, isInteger, tenTo_eq, whole]
    rw [broken]
    refine ⟨fun found => (by cases found), fun equal => absurd ?_ whole⟩
    rw [← d.natAbs_signedMantissa, equal, Int.natAbs_mul, Int.natAbs_pow]
    exact Nat.mul_mod_left _ _

/-- **The integers that values hold** are the numbers of exact types that are integers. -/
theorem Value.integer?_eq_some_iff {v : Value} {n : ℤ} :
    v.integer? = some n ↔ v.type.isExact = true ∧ v.quantity? = some (n : ℚ) := by
  have word (k : ℤ) : some k = some n ↔ true = true ∧ some (k : ℚ) = some (n : ℚ) := by simp
  obtain ⟨type, datum⟩ := v
  cases datum with
  | none =>
      have absent : integer? ⟨type, none⟩ = none := integer?_absent type
      simp [absent, quantity?]
  | some x =>
      cases type with
      | int8 | int16 | int32 | int64 | uint8 | uint16 | uint32 | uint64 => exact word _
      | decimal =>
          have held := Decimal.toInt?_eq_some_iff (d := x) (n := n)
          simpa [integer?, ValueType.isExact, quantity?, ValueType.number?] using held
      | _ => simp [integer?, ValueType.isExact]

namespace Target

variable {t : Target} {v : Value}

/-! ### Reading words -/

/-- What a bounded reading gives is made of an integer within the bounds. -/
theorem exists_of_bind_fit? {α : Type} {integer : Option Int} {low high : Int} {make : Int → α}
    {a : α} (read : integer.bind (fit? low high make) = some a) :
    ∃ n, integer = some n ∧ low ≤ n ∧ n ≤ high ∧ make n = a := by
  obtain ⟨n, held, fitted⟩ := Option.bind_eq_some_iff.mp read
  rw [fit?] at fitted
  split_ifs at fitted with bounds
  exact ⟨n, held, bounds.1, bounds.2, Option.some.inj fitted⟩

/-- **A word is read from the values that hold its integer**, and from no other ones. -/
theorem ofValue?_eq_some_iff (integral : t.isInteger = true) {x : t.Carrier} :
    t.ofValue? v = some x ↔ v.integer? = (t.toValue x).integer? := by
  refine ⟨fun read => ?_, ofValue?_of_integer integral⟩
  cases t with
  | int8 =>
      obtain ⟨n, held, above, below, rfl⟩ := exists_of_bind_fit? read
      exact held.trans (congrArg some (Int8.toInt_ofInt_of_le above (by omega)).symm)
  | int16 =>
      obtain ⟨n, held, above, below, rfl⟩ := exists_of_bind_fit? read
      exact held.trans (congrArg some (Int16.toInt_ofInt_of_le above (by omega)).symm)
  | int32 =>
      obtain ⟨n, held, above, below, rfl⟩ := exists_of_bind_fit? read
      exact held.trans (congrArg some (Int32.toInt_ofInt_of_le above (by omega)).symm)
  | int64 =>
      obtain ⟨n, held, above, below, rfl⟩ := exists_of_bind_fit? read
      exact held.trans (congrArg some (Int64.toInt_ofInt_of_le above (by omega)).symm)
  | uint8 =>
      obtain ⟨n, held, above, below, rfl⟩ := exists_of_bind_fit? read
      have same : ((UInt8.ofNat n.toNat).toNat : ℤ) = n := by
        rw [UInt8.toNat_ofNat_of_lt' (show n.toNat < 2 ^ 8 by omega)]
        omega
      exact held.trans (congrArg some same.symm)
  | uint16 =>
      obtain ⟨n, held, above, below, rfl⟩ := exists_of_bind_fit? read
      have same : ((UInt16.ofNat n.toNat).toNat : ℤ) = n := by
        rw [UInt16.toNat_ofNat_of_lt' (show n.toNat < 2 ^ 16 by omega)]
        omega
      exact held.trans (congrArg some same.symm)
  | uint32 =>
      obtain ⟨n, held, above, below, rfl⟩ := exists_of_bind_fit? read
      have same : ((UInt32.ofNat n.toNat).toNat : ℤ) = n := by
        rw [UInt32.toNat_ofNat_of_lt' (show n.toNat < 2 ^ 32 by omega)]
        omega
      exact held.trans (congrArg some same.symm)
  | uint64 =>
      obtain ⟨n, held, above, below, rfl⟩ := exists_of_bind_fit? read
      have same : ((UInt64.ofNat n.toNat).toNat : ℤ) = n := by
        rw [UInt64.toNat_ofNat_of_lt' (show n.toNat < 2 ^ 64 by omega)]
        omega
      exact held.trans (congrArg some same.symm)
  | _ => cases integral

/-- A word **has the integer of a value**: the value is of an exact type, and its number is an
integer, the one of the word. -/
def HasIntegerOf (t : Target) (x : t.Carrier) (v : Value) : Prop :=
  v.type.isExact = true
    ∧ ∃ n : ℤ, v.quantity? = some (n : ℚ) ∧ t.type.number? x = some (n : ℚ)

/-- A target reads a value exactly if it knows how to take it. -/
theorem read_eq_ok_iff {x : t.Carrier} : t.read v = .ok x ↔ t.ofValue? v = some x := by
  rw [read]
  cases t.ofValue? v <;> simp

/-- A refusal names the value and the target, and stands for every datum of it not being read. -/
theorem read_eq_error_iff : t.read v = .error ⟨v, t⟩ ↔ ∀ x, t.read v ≠ .ok x := by
  rw [read]
  cases t.ofValue? v <;> simp

/-- Every word is of an exact type and has an integer. -/
theorem exists_integer (integral : t.isInteger = true) (x : t.Carrier) :
    ∃ n : ℤ, (t.toValue x).integer? = some n ∧ t.type.number? x = some (n : ℚ) := by
  cases t with
  | int8 | int16 | int32 | int64 | uint8 | uint16 | uint32 | uint64 => exact ⟨_, rfl, rfl⟩
  | _ => cases integral

/-- Reading an integer gives the word of the value's integer, and nothing else. -/
theorem read_eq_ok_iff_hasIntegerOf (integral : t.isInteger = true) {x : t.Carrier} :
    t.read v = .ok x ↔ t.HasIntegerOf x v := by
  obtain ⟨n, held, number⟩ := exists_integer integral x
  rw [read_eq_ok_iff, ofValue?_eq_some_iff integral, held, Value.integer?_eq_some_iff]
  refine and_congr_right fun _ => ⟨fun quantity => ⟨n, quantity, number⟩, ?_⟩
  rintro ⟨k, quantity, number'⟩
  rw [quantity, ← number', number]

/-- **Integers are read exactly.** A word is read from a value exactly if it has the integer of the
value, and where no word of the target has it, the value is refused. What has been read as any type
of integers is read from there like the value itself. -/
theorem reads_integers (integral : t.isInteger = true) (v : Value) :
    (∀ x, t.read v = .ok x ↔ t.HasIntegerOf x v)
      ∧ (t.read v = .error ⟨v, t⟩ ↔ ∀ x, ¬ t.HasIntegerOf x v)
      ∧ ∀ u : Target, u.isInteger = true → ∀ y, u.read v = .ok y →
        ∀ x, t.read (u.toValue y) = .ok x ↔ t.read v = .ok x := by
  refine ⟨fun x => read_eq_ok_iff_hasIntegerOf integral, ?_, fun u between y first x => ?_⟩
  · rw [read_eq_error_iff]
    exact forall_congr' fun x => not_congr (read_eq_ok_iff_hasIntegerOf integral)
  · have held := (ofValue?_eq_some_iff between).mp (read_eq_ok_iff.mp first)
    rw [read_eq_ok_iff, read_eq_ok_iff, ofValue?_eq_some_iff integral,
      ofValue?_eq_some_iff integral, held]

/-- Twelve with two zeros behind the point is read as a byte, also by way of a word of 64 bits, and
minus twelve is refused. -/
theorem reads_integers_twelve :
    let twelve (negative : Bool) : Value :=
      .present (.decimal 10 2) ⟨negative, 1200, 2, by decide, by decide⟩
    uint8.isInteger = true ∧ int64.isInteger = true
      ∧ int64.read (twelve false) = .ok (12 : Int64)
      ∧ uint8.read (twelve false) = .ok (12 : UInt8)
      ∧ uint8.read (int64.toValue (12 : Int64)) = .ok (12 : UInt8)
      ∧ uint8.read (twelve true) = .error ⟨twelve true, uint8⟩ := by
  intro twelve
  obtain ⟨reads, -, between⟩ := reads_integers (t := uint8) rfl (twelve false)
  obtain ⟨exact, quantity⟩ := (Value.integer?_eq_some_iff (v := twelve false) (n := 12)).mp rfl
  have byte : uint8.read (twelve false) = .ok (12 : UInt8) :=
    (reads _).mpr ⟨exact, 12, quantity, rfl⟩
  have wide : int64.read (twelve false) = .ok (12 : Int64) := rfl
  exact ⟨rfl, rfl, wide, byte, (between int64 rfl _ wide _).mpr byte, rfl⟩

end Target

end EntitySql
