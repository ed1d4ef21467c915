import EntitySql.Proofs.Text.Digit
import EntitySql.Statement.Literal
/-!
# The forms of literals

A literal has one of three forms: the word `NULL`, a bare numeral, or characters between single
quotes with no quote among them. Numbers that are finite have a numeral, the other numbers and
absent values have `NULL`, and everything else is quoted. Only a text can break this, by a quote
of its own. No two forms have a text in common, so the form of a literal tells which of the three a
value is.

## Main definitions

* `IsNumeral`, `LiteralForm`: the forms.
* `ValueType.isFinite`, `Value.isFinite`: the data that are not infinite and not without a number.

## Main results

* `Number.Layout.isNumeral_text`: finite binary numbers are written as numerals.
* `ValueType.literal_numeral`, `ValueType.literal_null`, `ValueType.literal_quoted`: the form of
  the literal of a datum.
* `Value.literal_form`: every literal has one of the forms.
* `Value.literal_form_iff`: which values have which form.
-/

namespace EntitySql

open EntitySql.Text Number Calendar

/-! ### Numerals -/

/-- The characters that numerals are made of. -/
def IsNumeralChar (c : Char) : Prop :=
  c.isDigit = true ∨ c = '-' ∨ c = '.' ∨ c = 'e'

/-- A numeral: digits, signs, points and exponent letters, and at least one of them. -/
def IsNumeral (s : List Char) : Prop :=
  s ≠ [] ∧ ∀ c ∈ s, IsNumeralChar c

/-- Digits are characters of numerals. -/
theorem IsNumeralChar.ofDigit {c : Char} (h : c.isDigit = true) : IsNumeralChar c :=
  .inl h

/-- Natural numbers are written as numerals. -/
theorem isNumeral_numeral (n : Nat) : IsNumeral (numeral n) :=
  ⟨numeral_ne_nil n, fun _ member => .ofDigit (isDigit_of_mem_numeral member)⟩

/-- Integers are written as numerals. -/
theorem isNumeral_signed (n : Int) : IsNumeral (signed n) := by
  refine ⟨signed_ne_nil n, fun c member => ?_⟩
  rcases isDigit_or_minus_of_mem_signed member with digit | minus
  · exact .ofDigit digit
  · exact .inr (.inl minus)

/-- A numeral stays one behind an optional minus sign. -/
theorem IsNumeral.behind_sign {s : List Char} (h : IsNumeral s) (negative : Bool) :
    IsNumeral ((if negative then ['-'] else []) ++ s) := by
  obtain ⟨some, chars⟩ := h
  refine ⟨List.append_ne_nil_of_right_ne_nil _ some, fun c member => ?_⟩
  rcases List.mem_append.mp member with sign | rest
  · cases negative with
    | true => exact .inr (.inl (List.mem_singleton.mp sign))
    | false => cases sign
  · exact chars c rest

/-! ### Binary numbers and decimals -/

/-- The digits of a step of the grid are digits. -/
theorem isDigit_of_mem_ofSteps {count : Nat} {grid : Int} {c : Char}
    (h : c ∈ (Digits.ofSteps count grid).digits) : c.isDigit = true := by
  have kept : c ∈ (numeral count).reverse.dropWhile (· == '0') := List.mem_reverse.mp h
  have all := (List.dropWhile_sublist (· == '0')).subset kept
  exact isDigit_of_mem_numeral (List.mem_reverse.mp all)

/-- The shortest digits of a binary number are digits. -/
theorem isDigit_of_mem_shortestFrom {i : Interval} {tie : Tie} {exponent point : Int}
    {left n : Nat} {c : Char} (h : c ∈ (shortestFrom i tie exponent point left n).digits) :
    c.isDigit = true := by
  induction left generalizing n with
  | zero =>
      rw [shortestFrom] at h
      split at h
      · exact isDigit_of_mem_ofSteps h
      · exact isDigit_of_mem_ofSteps h
  | succ left ih =>
      rw [shortestFrom] at h
      split at h
      · exact isDigit_of_mem_ofSteps h
      · exact ih h

/-- The digits of a finite number are digits. -/
theorem isDigit_of_mem_digitsOf {f : Format} {tie : Tie} {significand : Nat} {exponent : Int}
    {c : Char} (h : c ∈ (digitsOf f tie significand exponent).digits) : c.isDigit = true := by
  rw [digitsOf] at h
  split at h
  · obtain rfl := List.mem_singleton.mp h
    rfl
  · exact isDigit_of_mem_shortestFrom h

section Layout

variable {d : Digits} (digits : ∀ c ∈ d.digits, c.isDigit = true)

include digits

/-- Digits around a point are a numeral, zeros filled in on either side. -/
theorem Number.Digits.isNumeral_positional : IsNumeral (d.positional true) := by
  have numeral {c : Char} (h : c ∈ d.digits) : IsNumeralChar c := .ofDigit (digits c h)
  have zero : IsNumeralChar '0' := .ofDigit rfl
  have point : IsNumeralChar '.' := .inr (.inr (.inl rfl))
  rw [Digits.positional]
  split
  · refine ⟨List.cons_ne_nil _ _, ?_⟩
    simp only [List.mem_cons, List.mem_append, List.mem_replicate]
    rintro c (rfl | rfl | ⟨-, rfl⟩ | digit)
    · exact zero
    · exact point
    · exact zero
    · exact numeral digit
  · split
    · refine ⟨by simp, ?_⟩
      simp only [if_true, List.mem_append, List.mem_replicate, List.mem_cons, List.not_mem_nil,
        or_false]
      rintro c ((digit | ⟨-, rfl⟩) | rfl | rfl)
      · exact numeral digit
      · exact zero
      · exact point
      · exact zero
    · refine ⟨by simp, ?_⟩
      simp only [List.mem_append, List.mem_cons]
      rintro c (front | rfl | behind)
      · exact numeral (List.mem_of_mem_take front)
      · exact point
      · exact numeral (List.mem_of_mem_drop behind)

/-- Digits with an exponent are a numeral. -/
theorem Number.Digits.isNumeral_scientific : IsNumeral d.scientific := by
  have numeral {c : Char} (h : c ∈ d.digits) : IsNumeralChar c := .ofDigit (digits c h)
  rw [Digits.scientific]
  refine ⟨by simp, ?_⟩
  simp only [List.mem_append, List.mem_cons]
  rintro c ((first | rest) | rfl | exponent)
  · exact numeral (List.mem_of_mem_take first)
  · split at rest
    · cases rest
    · rcases List.mem_cons.mp rest with rfl | rest
      · exact .inr (.inr (.inl rfl))
      · exact numeral (List.mem_of_mem_drop rest)
  · exact .inr (.inr (.inr rfl))
  · exact (isNumeral_signed _).2 c exponent

end Layout

/-- Finite binary numbers are written as numerals. -/
theorem Number.Layout.isNumeral_text {f : Format} {l : Layout} (whole : l.wholePoint = true)
    {x : Binary f} (finite : x.isFinite = true) : IsNumeral (l.text x) := by
  have number (negative : Bool) (significand : Nat) (exponent : Int) :
      IsNumeral ((if negative then ['-'] else [])
        ++ l.digitsText (digitsOf f l.tie significand exponent)) := by
    refine IsNumeral.behind_sign ?_ negative
    rw [Layout.digitsText, whole]
    split
    · exact Digits.isNumeral_positional fun _ => isDigit_of_mem_digitsOf
    · exact Digits.isNumeral_scientific fun _ => isDigit_of_mem_digitsOf
  have field : x.magnitude / twoTo f.fractionBits ≠ f.topExponent := by
    simpa [Binary.isFinite] using finite
  rw [Layout.text, Binary.exact]
  simp only [if_neg field]
  by_cases subnormal : x.magnitude / twoTo f.fractionBits = 0
  · rw [if_pos subnormal]
    exact number _ _ _
  · rw [if_neg subnormal]
    exact number _ _ _

/-- Decimals are written as numerals. -/
theorem Number.Decimal.isNumeral_text (d : Decimal) : IsNumeral d.text := by
  have whole := isNumeral_numeral (d.mantissa / tenTo d.scale)
  rw [Decimal.text]
  split
  · exact whole.behind_sign d.negative
  · rw [List.append_assoc]
    refine IsNumeral.behind_sign ⟨by simp, ?_⟩ d.negative
    simp only [List.mem_append, List.mem_cons]
    rintro c (front | rfl | behind)
    · exact whole.2 c front
    · exact .inr (.inr (.inl rfl))
    · exact .ofDigit (isDigit_of_mem_padded behind)

/-! ### Quoted literals -/

/-- Bytes in hexadecimal have no quote. -/
theorem quote_notMem_hexBytes (bytes : List UInt8) :
    '\'' ∉ bytes.flatMap (hexByte .upper) := by
  intro h
  obtain ⟨b, -, member⟩ := List.mem_flatMap.mp h
  exact quote_notMem_hex .upper 2 b.toNat member

/-- The characters of a date are digits and hyphens. -/
theorem Calendar.Date.notMem_literal (d : Date) {c : Char} (noDigit : c.isDigit = false)
    (noHyphen : c ≠ '-') : c ∉ d.literal := by
  have year : c ∉ yearLiteral d.year := by
    rw [yearLiteral]
    split <;> simp [notMem_padded noDigit, noHyphen]
  simp [Date.literal, notMem_padded noDigit, noHyphen, year]

/-- The characters of a fraction of a second are digits and a point. -/
theorem Calendar.Time.notMem_fractionLiteral (t : Time) {c : Char} (noDigit : c.isDigit = false)
    (noPoint : c ≠ '.') : c ∉ t.fractionLiteral := by
  rw [Time.fractionLiteral]
  split <;> simp [Subsecond.text, notMem_padded noDigit, noPoint]

/-- The characters of a time are digits, colons and a point. -/
theorem Calendar.Time.notMem_literal (t : Time) {c : Char} (noDigit : c.isDigit = false)
    (noColon : c ≠ ':') (noPoint : c ≠ '.') : c ∉ t.literal := by
  simp [Time.literal, notMem_padded noDigit, noColon, t.notMem_fractionLiteral noDigit noPoint]

/-- A written date has no quote. -/
theorem Calendar.Date.quote_notMem_literal (d : Date) : '\'' ∉ d.literal :=
  d.notMem_literal rfl (by decide)

/-- A written time has no quote. -/
theorem Calendar.Time.quote_notMem_literal (t : Time) : '\'' ∉ t.literal :=
  t.notMem_literal rfl (by decide) (by decide)

/-- A written timestamp has no quote. -/
theorem Calendar.Timestamp.quote_notMem_literal (t : Timestamp) : '\'' ∉ t.literal := by
  simp [Timestamp.literal, Date.quote_notMem_literal, Time.quote_notMem_literal]

/-- A written offset brings no quote to the timestamp in front of it. -/
theorem Calendar.OffsetTimestamp.quote_notMem_literal (t : OffsetTimestamp) : '\'' ∉ t.literal := by
  rw [OffsetTimestamp.literal]
  split <;> simp [Timestamp.quote_notMem_literal]

/-- A written identifier has no quote. -/
theorem Uuid.quote_notMem_text (u : Uuid) : '\'' ∉ u.text := by
  have part {s : List Char} (sub : s ⊆ hex .lower 32 u.bits.toNat) : '\'' ∉ s := fun h =>
    quote_notMem_hex .lower 32 u.bits.toNat (sub h)
  have taken (m n : Nat) : '\'' ∉ ((hex .lower 32 u.bits.toNat).drop m).take n :=
    part fun _ h => List.mem_of_mem_drop (List.mem_of_mem_take h)
  have front : '\'' ∉ (hex .lower 32 u.bits.toNat).take 8 := part fun _ => List.mem_of_mem_take
  have last : '\'' ∉ (hex .lower 32 u.bits.toNat).drop 20 := part fun _ => List.mem_of_mem_drop
  simp [Uuid.text, taken, front, last]

/-! ### The forms -/

/-- Whether a datum is no infinity and not without a number. -/
def ValueType.isFinite : (t : ValueType) → t.Carrier → Bool
  | float32, x => x.isFinite
  | float64, x => x.isFinite
  | _, _ => true

/-- Finite data of numeric types are written as numerals. -/
theorem ValueType.literal_numeral {t : ValueType} {x : t.Carrier} (numeric : t.isNumeric = true)
    (finite : t.isFinite x = true) : ∃ s, IsNumeral s ∧ t.literal x = String.ofList s := by
  cases t with
  | int8 | int16 | int32 | int64 => exact ⟨_, isNumeral_signed x.toInt, rfl⟩
  | uint8 | uint16 | uint32 | uint64 => exact ⟨_, isNumeral_numeral x.toNat, rfl⟩
  | float32 => exact ⟨_, Layout.isNumeral_text rfl finite, if_pos finite⟩
  | float64 => exact ⟨_, Layout.isNumeral_text rfl finite, if_pos finite⟩
  | decimal precision scale => exact ⟨_, Decimal.isNumeral_text x, rfl⟩
  | _ => cases numeric

/-- Data that are not finite are written as `NULL`. -/
theorem ValueType.literal_null {t : ValueType} {x : t.Carrier} (infinite : t.isFinite x = false) :
    t.literal x = "NULL" := by
  cases t with
  | float32 | float64 => exact if_neg (by simpa [isFinite] using infinite)
  | _ => cases infinite

/-- Data of other types than texts are written between quotes. -/
theorem ValueType.literal_quoted {t : ValueType} {x : t.Carrier} (bare : t.isNumeric = false)
    (noText : t ≠ .varchar) : ∃ s, '\'' ∉ s ∧ t.literal x = quotedLiteral s := by
  cases t with
  | null => cases x
  | boolean =>
      cases x with
      | true => exact ⟨['t', 'r', 'u', 'e'], by decide, by decide⟩
      | false => exact ⟨['f', 'a', 'l', 's', 'e'], by decide, by decide⟩
  | varchar => exact absurd rfl noText
  | blob => exact ⟨_, quote_notMem_hexBytes x, rfl⟩
  | date => exact ⟨_, Date.quote_notMem_literal x, rfl⟩
  | time => exact ⟨_, Time.quote_notMem_literal x, rfl⟩
  | timestamp => exact ⟨_, Timestamp.quote_notMem_literal x, rfl⟩
  | timestampWithTimezone => exact ⟨_, OffsetTimestamp.quote_notMem_literal x, rfl⟩
  | uuid => exact ⟨_, Uuid.quote_notMem_text x, rfl⟩
  | _ => cases bare

/-- The forms of a literal. -/
inductive LiteralForm : String → Prop
  | null : LiteralForm "NULL"
  | numeral {s : List Char} : IsNumeral s → LiteralForm (String.ofList s)
  | quoted {s : List Char} : '\'' ∉ s → LiteralForm (quotedLiteral s)

/-- Whether a value is no binary number that is infinite or none. Absent values are finite. -/
def Value.isFinite (v : Value) : Bool :=
  v.datum.all v.type.isFinite

/-- The literal of a value other than a text, by cases. -/
theorem Value.literal_cases {v : Value} (noText : v.type ≠ .varchar) :
    ((v.isNull = true ∨ v.isFinite = false) ∧ v.literal = "NULL")
      ∨ ((v.isNull = false ∧ v.isFinite = true ∧ v.isNumeric = true)
        ∧ ∃ s, IsNumeral s ∧ v.literal = String.ofList s)
      ∨ ((v.isNull = false ∧ v.isFinite = true ∧ v.isNumeric = false)
        ∧ ∃ s, '\'' ∉ s ∧ v.literal = quotedLiteral s) := by
  obtain ⟨type, datum⟩ := v
  cases datum with
  | none => exact .inl ⟨.inl (isNull_eq _), rfl⟩
  | some x =>
      have there := isNull_eq ⟨type, some x⟩
      cases finite : type.isFinite x with
      | false => exact .inl ⟨.inr finite, ValueType.literal_null finite⟩
      | true =>
          cases numeric : type.isNumeric with
          | true =>
              exact .inr (.inl ⟨⟨there, finite, numeric⟩, ValueType.literal_numeral numeric finite⟩)
          | false =>
              exact .inr (.inr ⟨⟨there, finite, numeric⟩, ValueType.literal_quoted numeric noText⟩)

/-- **Literals have a form.** The literal of a value is `NULL`, a numeral or quoted, if the value
is no text with a quote. -/
theorem Value.literal_form {v : Value} (free : ∀ s, v = .ofString s → '\'' ∉ s.toList) :
    LiteralForm v.literal := by
  by_cases text : v.type = .varchar
  · obtain ⟨type, datum⟩ := v
    obtain rfl : type = .varchar := text
    cases datum with
    | none => exact .null
    | some x =>
        have quoted := LiteralForm.quoted (free x rfl)
        rwa [quotedLiteral, String.ofList_toList] at quoted
  · rcases literal_cases text with ⟨-, null⟩ | ⟨-, s, numeral, bare⟩ | ⟨-, s, free, quoted⟩
    · exact null ▸ .null
    · exact bare ▸ .numeral numeral
    · exact quoted ▸ .quoted free

/-! ### One form only -/

/-- The characters of a quoted literal, the quotes among them. -/
theorem toList_quotedLiteral (s : List Char) :
    (quotedLiteral s).toList = '\'' :: (s ++ ['\'']) := by
  simp [quotedLiteral, String.toList_append]

/-- What is quoted is not the absent literal, also if the text in the quotes is. -/
theorem quotedLiteral_ne_null (s : List Char) : quotedLiteral s ≠ "NULL" := fun same => by
  have chars := congrArg String.toList same
  rw [toList_quotedLiteral] at chars
  exact absurd (List.head_eq_of_cons_eq chars) (by decide)

/-- A numeral is no text that holds another character. -/
theorem IsNumeral.ne_of_mem {s : List Char} (numeral : IsNumeral s) {text : String} {c : Char}
    (member : c ∈ text.toList) (other : ¬IsNumeralChar c) : String.ofList s ≠ text := by
  rintro rfl
  rw [String.toList_ofList] at member
  exact other (numeral.2 c member)

/-- A numeral is not the absent literal. -/
theorem IsNumeral.ne_null {s : List Char} (numeral : IsNumeral s) : String.ofList s ≠ "NULL" :=
  numeral.ne_of_mem (c := 'N') (by decide) (by rw [IsNumeralChar]; decide)

/-- A numeral is not quoted. -/
theorem IsNumeral.ne_quotedLiteral {s : List Char} (numeral : IsNumeral s) (t : List Char) :
    String.ofList s ≠ quotedLiteral t :=
  numeral.ne_of_mem (c := '\'') (by simp [toList_quotedLiteral]) (by rw [IsNumeralChar]; decide)

/-- **Only a text can end its literal early.** The literal of any other value is exactly one of
these: `NULL`, if the value is absent or a binary number that is infinite or none; a bare numeral,
if it is another number; and otherwise characters between quotes with no quote among them. -/
theorem Value.literal_form_iff {v : Value} (noText : v.type ≠ .varchar) :
    (v.literal = "NULL" ↔ v.isNull = true ∨ v.isFinite = false)
      ∧ ((∃ s, IsNumeral s ∧ v.literal = String.ofList s)
        ↔ v.isNull = false ∧ v.isFinite = true ∧ v.isNumeric = true)
      ∧ ((∃ s, '\'' ∉ s ∧ v.literal = quotedLiteral s)
        ↔ v.isNull = false ∧ v.isFinite = true ∧ v.isNumeric = false) := by
  rcases literal_cases noText with
    ⟨none, null⟩ | ⟨number, s, numeral, bare⟩ | ⟨other, s, free, quoted⟩
  · refine ⟨iff_of_true null none, iff_of_false ?_ ?_, iff_of_false ?_ ?_⟩
    · rintro ⟨s, numeral, bare⟩
      exact numeral.ne_null (bare.symm.trans null)
    · rintro ⟨present, finite, -⟩
      simp [present, finite] at none
    · rintro ⟨s, -, quoted⟩
      exact quotedLiteral_ne_null s (quoted.symm.trans null)
    · rintro ⟨present, finite, -⟩
      simp [present, finite] at none
  · refine ⟨iff_of_false ?_ ?_, iff_of_true ⟨s, numeral, bare⟩ number, iff_of_false ?_ ?_⟩
    · exact fun null => numeral.ne_null (bare.symm.trans null)
    · simp [number.1, number.2.1]
    · rintro ⟨t, -, quoted⟩
      exact numeral.ne_quotedLiteral t (bare.symm.trans quoted)
    · simp [number.2.2]
  · refine ⟨iff_of_false ?_ ?_, iff_of_false ?_ ?_, iff_of_true ⟨s, free, quoted⟩ other⟩
    · exact fun null => quotedLiteral_ne_null s (quoted.symm.trans null)
    · simp [other.1, other.2.1]
    · rintro ⟨t, numeral, bare⟩
      exact numeral.ne_quotedLiteral s (bare.symm.trans quoted)
    · simp [other.2.2]

/-- An infinity has no literal of its own, a negative integer is a numeral, and the byte of a quote
is no quote. -/
theorem Value.literal_form_iff_infinity :
    let infinity : Value := .present .float64 ⟨0x7FF0000000000000⟩
    let debt : Value := .ofInt32 (-7)
    let quote : Value := .present .blob [0x27]
    (infinity.type ≠ .varchar ∧ infinity.isFinite = false ∧ infinity.literal = "NULL")
      ∧ (debt.type ≠ .varchar ∧ debt.isNumeric = true
        ∧ ∃ s, IsNumeral s ∧ debt.literal = String.ofList s)
      ∧ quote.type ≠ .varchar ∧ quote.isNumeric = false
      ∧ ∃ s, '\'' ∉ s ∧ quote.literal = quotedLiteral s := by
  intro infinity debt quote
  have number : infinity.type ≠ .varchar := by decide
  have integer : debt.type ≠ .varchar := by decide
  have bytes : quote.type ≠ .varchar := by decide
  have infinite : infinity.isFinite = false := by decide
  exact ⟨⟨number, infinite, (literal_form_iff number).1.mpr (.inr infinite)⟩,
    ⟨integer, rfl, (literal_form_iff integer).2.1.mpr ⟨rfl, rfl, rfl⟩⟩,
    bytes, rfl, (literal_form_iff bytes).2.2.mpr ⟨rfl, rfl, rfl⟩⟩

end EntitySql
