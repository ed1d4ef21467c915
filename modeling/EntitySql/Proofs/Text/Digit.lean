import EntitySql.Number.Power
import EntitySql.Text.Digit
/-!
# Numerals

Numerals are made of decimal digits and hexadecimal ones of digits and letters, so no other
character is found in them. What is written with numerals and a few marks can then be told apart
from its surroundings by its characters alone, and a numeral tells its number.

## Main results

* `isDigit_of_mem_numeral`, `isDigit_of_mem_padded`, `isAlphanum_of_mem_hex`: the characters of
  numerals.
* `natOf?_numeral`, `natOf?_padded`: numerals are read as their numbers, with zeros in front too.
* `length_padded`, `getLast?_padded`: how long a filled numeral is, and how it ends.
* `quote_notMem_padded`, `quote_notMem_hex`: no quote is among them.
-/

namespace EntitySql.Text

open Number

/-! ### Decimal -/

/-- A decimal digit is a digit. -/
theorem isDigit_digit {d : Nat} (h : d < 10) : (digit d).isDigit = true := by
  have all : ∀ d < 10, (digit d).isDigit = true := by decide
  exact all d h

/-- The characters of a numeral are digits. -/
theorem isDigit_of_mem_numeral {n : Nat} {c : Char} (h : c ∈ numeral n) : c.isDigit = true := by
  fun_induction numeral n with
  | case1 n small =>
      obtain rfl := List.mem_singleton.mp h
      exact isDigit_digit small
  | case2 n large ih =>
      rcases List.mem_append.mp h with front | last
      · exact ih front
      · obtain rfl := List.mem_singleton.mp last
        exact isDigit_digit (Nat.mod_lt n (by omega))

/-- Every number has a digit. -/
theorem numeral_ne_nil (n : Nat) : numeral n ≠ [] := by
  fun_cases numeral n <;> simp

/-- The characters of a numeral filled with zeros are digits. -/
theorem isDigit_of_mem_padded {width n : Nat} {c : Char} (h : c ∈ padded width n) :
    c.isDigit = true := by
  rw [padded, zeroFilled] at h
  rcases List.mem_append.mp h with zero | digit
  · obtain rfl := (List.mem_replicate.mp zero).2
    rfl
  · exact isDigit_of_mem_numeral digit

/-- Filling up does not take the digits away. -/
theorem padded_ne_nil (width n : Nat) : padded width n ≠ [] :=
  List.append_ne_nil_of_right_ne_nil _ (numeral_ne_nil n)

/-- Only digits stand in a filled numeral. -/
theorem notMem_padded {width n : Nat} {c : Char} (other : c.isDigit = false) :
    c ∉ padded width n :=
  fun member => by simp [isDigit_of_mem_padded member] at other

/-- The characters of the numeral of an integer are digits and a minus sign. -/
theorem isDigit_or_minus_of_mem_signed {n : Int} {c : Char} (h : c ∈ signed n) :
    c.isDigit = true ∨ c = '-' := by
  rw [signed] at h
  split at h
  · rcases List.mem_cons.mp h with minus | digit
    · exact .inr minus
    · exact .inl (isDigit_of_mem_numeral digit)
  · exact .inl (isDigit_of_mem_numeral h)

/-- A numeral with its sign is not empty either. -/
theorem signed_ne_nil (n : Int) : signed n ≠ [] := by
  rw [signed]
  split
  · exact List.cons_ne_nil _ _
  · exact numeral_ne_nil _

/-! ### Reading numerals -/

/-- A digit is read as its value. -/
theorem digitValue?_digit {d : Nat} (h : d < 10) : digitValue? (digit d) = some d := by
  have all : ∀ d < 10, digitValue? (digit d) = some d := by decide
  exact all d h

/-- A numeral is read as its number. -/
theorem natOf?_numeral (n : Nat) : natOf? (numeral n) = some n := by
  have value : (numeral n).foldl
      (fun n? d => do return 10 * (← n?) + (← digitValue? d)) (some 0) = some n := by
    fun_induction numeral n with
    | case1 n small => simp [digitValue?_digit small]
    | case2 n large ih =>
        have last : digitValue? (digit (n % 10)) = some (n % 10) :=
          digitValue?_digit (Nat.mod_lt n (by omega))
        rw [List.foldl_append, ih]
        simp only [List.foldl_cons, List.foldl_nil, last, Option.bind_eq_bind, Option.bind_some]
        exact congrArg some (Nat.div_add_mod n 10)
  obtain ⟨c, rest, digits⟩ := List.exists_cons_of_ne_nil (numeral_ne_nil n)
  rw [digits] at value ⊢
  exact value

/-- Numerals are read back, so different numbers are written differently. -/
theorem numeral_injective {m n : Nat} (same : numeral m = numeral n) : m = n := by
  have read := congrArg natOf? same
  rw [natOf?_numeral, natOf?_numeral] at read
  exact Option.some.inj read

/-- A zero in front of digits does not change the number. -/
theorem natOf?_zero_cons {s : List Char} (some : s ≠ []) : natOf? ('0' :: s) = natOf? s := by
  obtain ⟨c, rest, rfl⟩ := List.exists_cons_of_ne_nil some
  rfl

/-- A numeral with zeros in front is read as its number. -/
theorem natOf?_padded (width n : Nat) : natOf? (padded width n) = some n := by
  have zeros (count : Nat) : natOf? (List.replicate count '0' ++ numeral n) = some n := by
    induction count with
    | zero => exact natOf?_numeral n
    | succ count ih =>
        have rest : List.replicate count '0' ++ numeral n ≠ [] :=
          List.append_ne_nil_of_right_ne_nil _ (numeral_ne_nil n)
        rw [List.replicate_succ, List.cons_append, natOf?_zero_cons rest, ih]
  exact zeros _

/-- Different numbers are different as texts too. -/
theorem natText_injective {m n : Nat} (same : natText m = natText n) : m = n :=
  numeral_injective (String.ofList_injective same)

/-! ### Width -/

/-- A number below a power of ten has no more digits than the exponent says. -/
theorem length_numeral_le {n width : Nat} (fits : n < tenTo (width + 1)) :
    (numeral n).length ≤ width + 1 := by
  induction width generalizing n with
  | zero =>
      have small : n < 10 := fits
      rw [numeral, if_pos small]
      exact Nat.le_refl 1
  | succ width ih =>
      rw [numeral]
      split
      · exact Nat.succ_le_succ (Nat.zero_le _)
      · have front := ih (n := n / 10) (by rw [tenTo_succ] at fits; omega)
        rw [List.length_append, List.length_singleton]
        omega

/-- A number that is not too long for a width is filled up to it. -/
theorem length_padded {n width : Nat} (positive : 1 ≤ width) (fits : n < tenTo width) :
    (padded width n).length = width := by
  obtain ⟨width, rfl⟩ := Nat.exists_eq_add_of_le' positive
  have short := length_numeral_le fits
  rw [padded, zeroFilled, List.length_append, List.length_replicate]
  omega

/-- A filled numeral ends in the last digit of its number. -/
theorem getLast?_padded (width n : Nat) : (padded width n).getLast? = some (digit (n % 10)) := by
  have last : (numeral n).getLast? = some (digit (n % 10)) := by
    rw [numeral]
    split
    · next small => rw [Nat.mod_eq_of_lt small]; rfl
    · rw [List.getLast?_concat]
  rw [padded, zeroFilled, List.getLast?_append, last, Option.some_or]

/-- Only zero is written as a zero. -/
theorem digit_eq_zero_iff {d : Nat} (h : d < 10) : digit d = '0' ↔ d = 0 := by
  have all : ∀ d < 10, digit d = '0' ↔ d = 0 := by decide
  exact all d h

/-! ### Hexadecimal -/

/-- Letters and digits are in ASCII. -/
theorem toNat_lt_of_isAlphanum {c : Char} (h : c.isAlphanum = true) : c.toNat < 128 := by
  have ranges : ((decide (65 ≤ c.toNat ∧ c.toNat ≤ 90)
      || (decide (97 ≤ c.toNat) && decide (c.toNat ≤ 122)))
      || (decide (48 ≤ c.toNat) && decide (c.toNat ≤ 57))) = true := h
  simp only [Bool.or_eq_true, Bool.and_eq_true, decide_eq_true_eq] at ranges
  omega

/-- Hexadecimal digits are letters or digits. -/
theorem isAlphanum_hexDigit (case : HexCase) {d : Nat} (h : d < 16) :
    (hexDigit case d).isAlphanum = true := by
  have all : ∀ d < 16, (hexDigit case d).isAlphanum = true := by cases case <;> decide
  exact all d h

/-- The characters of a hexadecimal numeral are letters and digits. -/
theorem isAlphanum_of_mem_hex {case : HexCase} {width n : Nat} {c : Char}
    (h : c ∈ hex case width n) : c.isAlphanum = true := by
  induction width generalizing n with
  | zero => cases h
  | succ width ih =>
      rw [hex] at h
      rcases List.mem_append.mp h with front | last
      · exact ih front
      · obtain rfl := List.mem_singleton.mp last
        exact isAlphanum_hexDigit case (Nat.mod_lt n (by omega))

/-! ### No quotes -/

/-- No quote stands in a filled numeral, so it can be quoted as it is. -/
@[simp] theorem quote_notMem_padded (width n : Nat) : '\'' ∉ padded width n :=
  notMem_padded rfl

/-- No quote stands in a hexadecimal numeral either. -/
@[simp] theorem quote_notMem_hex (case : HexCase) (width n : Nat) : '\'' ∉ hex case width n :=
  fun h => absurd (isAlphanum_of_mem_hex h) (by decide)

end EntitySql.Text
