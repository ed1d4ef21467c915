import EntitySql.Proofs.Calendar.Subsecond
import EntitySql.Proofs.Statement.Literal
import EntitySql.Proofs.Text.Cutting
/-!
# Reading dates and times

A literal is read back by its marks: hyphens between the fields of a date, whose year may stand
behind a minus sign, colons between those of a time, a point in front of the fraction of a second,
and a `T` between date and time. Numbers are read whatever zeros they have in front, and fields that
make no date or no time are refused.

No mark of one part is found in another part, so that cutting at the marks gives the parts back.

## Main definitions

* `quotedChars?`: what stands between the quotes of a literal.
* `Date.ofLiteral?`, `Time.ofLiteral?`, `Timestamp.ofLiteral?`: the data that a literal means.

## Main results

* `quotedChars?_quotedLiteral`: the quotes of a literal stand at its ends only.
* `Date.ofLiteral?_literal`, `Time.ofLiteral?_literal`, `Timestamp.ofLiteral?_literal`: the data are
  read back.
-/

namespace EntitySql

open EntitySql.Text Number Calendar

/-! ### Quotes -/

/-- The characters between two quotes, if the second one ends the text. -/
def quotedChars? (s : String) : Option (List Char) :=
  match s.toList with
  | '\'' :: rest =>
      match splitFirst? '\'' rest with
      | some (chars, []) => some chars
      | _ => none
  | _ => none

/-- Unquoting a quoted text gives the text, if no quote stands in it. -/
theorem quotedChars?_quotedLiteral {s : List Char} (free : '\'' ∉ s) :
    quotedChars? (quotedLiteral s) = some s := by
  rw [quotedChars?, toList_quotedLiteral]
  simp only [splitFirst?_append free]

/-! ### Fields -/

/-- The three parts between two separators. -/
def threeParts? (separator : Char) (s : List Char) : Option (List Char × List Char × List Char) :=
  match splitOn separator s with
  | [a, b, c] => some (a, b, c)
  | _ => none

/-- Three parts joined by a separator are taken apart again, if it is in neither of the first two
(the third takes the rest). -/
theorem threeParts?_append {separator : Char} {a b c : List Char} (first : separator ∉ a)
    (second : separator ∉ b) (third : separator ∉ c) :
    threeParts? separator (a ++ separator :: b ++ separator :: c) = some (a, b, c) := by
  rw [threeParts?, splitOn_append, splitOn_append, splitOn_of_notMem first,
    splitOn_of_notMem second, splitOn_of_notMem third]
  rfl

namespace Calendar

/-! ### Dates -/

/-- The date of a year, a month and a day with hyphens between them, the year being negative or
not. -/
def Date.ofUnsigned? (negative : Bool) (s : List Char) : Option Date := do
  let (year, month, day) ← threeParts? '-' s
  let size ← natOf? year
  Date.ofFields? (if negative then -size else size) (← natOf? month) (← natOf? day)

/-- The date that a literal means. -/
def Date.ofLiteral? : List Char → Option Date
  | '-' :: rest => ofUnsigned? true rest
  | s => ofUnsigned? false s

/-- The fields of a date give the date. -/
theorem Date.ofFields?_self (d : Date) : ofFields? d.year d.month d.day = some d :=
  dif_pos ⟨d.year_le, d.month_le, d.day_le⟩

/-- The written fields of a date give the date, whatever the year is padded to and however its sign
is written. -/
theorem Date.ofUnsigned?_padded (d : Date) (negative : Bool) (width : Nat)
    (signed : (if negative then -(d.year.natAbs : Int) else d.year.natAbs) = d.year) :
    ofUnsigned? negative
      (padded width d.year.natAbs ++ '-' :: padded 2 d.month ++ '-' :: padded 2 d.day)
      = some d := by
  have hyphen (width n : Nat) : '-' ∉ padded width n := notMem_padded rfl
  rw [ofUnsigned?, threeParts?_append (hyphen _ _) (hyphen _ _) (hyphen _ _)]
  simp only [Option.bind_eq_bind, Option.bind_some, natOf?_padded, signed, ofFields?_self]

/-- **Dates are read back.** -/
theorem Date.ofLiteral?_literal (d : Date) : ofLiteral? d.literal = some d := by
  rw [literal, yearLiteral]
  by_cases negative : d.year < 0
  · rw [if_pos negative, List.cons_append, List.cons_append, ofLiteral?]
    exact d.ofUnsigned?_padded true 3 (by simp only [if_true]; omega)
  · rw [if_neg negative]
    -- A numeral is never empty and does not start with a minus sign.
    obtain ⟨c, rest, digits⟩ := List.exists_cons_of_ne_nil (padded_ne_nil 4 d.year.natAbs)
    have noMinus : c ≠ '-' := by
      rintro rfl
      exact notMem_padded rfl (digits ▸ List.mem_cons_self)
    have unsigned := d.ofUnsigned?_padded false 4 (by simp; omega)
    rw [digits] at unsigned ⊢
    rw [← unsigned]
    simp [ofLiteral?, noMinus]

/-! ### Times -/

/-- The second and the nanosecond of a numeral with a fraction or without. -/
def secondOf? (s : List Char) : Option (Nat × Nat) :=
  match splitFirst? '.' s with
  | none => (natOf? s).map fun second => (second, 0)
  | some (whole, digits) => do return (← natOf? whole, ← nanosecondOf? digits)

/-- The time that a literal means. -/
def Time.ofLiteral? (s : List Char) : Option Time := do
  let (hour, minute, rest) ← threeParts? ':' s
  let (second, nanosecond) ← secondOf? rest
  Time.ofFields? (← natOf? hour) (← natOf? minute) second nanosecond

/-- The fields of a time give the time. -/
theorem Time.ofFields?_self (t : Time) :
    ofFields? t.hour t.minute t.second t.nanosecond = some t :=
  dif_pos ⟨t.hour_lt, t.minute_lt, t.second_lt, t.nanosecond_lt⟩

/-- The fraction that the loop starts from means the nanoseconds of the time. -/
theorem Time.means_nanosecond (t : Time) (nonzero : t.nanosecond ≠ 0) :
    (Subsecond.ofNanosecond t.nanosecond).Means t.nanosecond :=
  Subsecond.means_ofNanosecond nonzero t.nanosecond_lt

/-- Seconds and their fraction are read back, with the zeros that were stripped. -/
theorem Time.secondOf?_literal (t : Time) :
    secondOf? (padded 2 t.second ++ t.fractionLiteral) = some (t.second, t.nanosecond) := by
  have point : '.' ∉ padded 2 t.second := notMem_padded rfl
  rw [secondOf?, fractionLiteral]
  by_cases zero : t.nanosecond = 0
  · rw [dif_pos zero, List.append_nil, splitFirst?_of_notMem point, natOf?_padded, zero]
    rfl
  · have run := (Subsecond.reaches_shortened (Subsecond.ofNanosecond t.nanosecond) zero).1
    have read := ((t.means_nanosecond zero).reaches run).read.2
    rw [dif_neg zero, Subsecond.text, splitFirst?_append point]
    simp only [natOf?_padded, read, Option.bind_eq_bind, Option.bind_some]
    rfl

/-- **Times are read back.** -/
theorem Time.ofLiteral?_literal (t : Time) : ofLiteral? t.literal = some t := by
  have colon (n : Nat) : ':' ∉ padded 2 n := notMem_padded rfl
  have fraction : ':' ∉ t.fractionLiteral := t.notMem_fractionLiteral rfl (by decide)
  have cut := threeParts?_append (colon t.hour) (colon t.minute)
    (List.not_mem_append (colon t.second) fraction)
  rw [ofLiteral?, literal, List.append_assoc, List.cons_append, cut]
  simp only [Option.bind_eq_bind, Option.bind_some, secondOf?_literal, natOf?_padded,
    ofFields?_self]

/-! ### Timestamps -/

/-- The timestamp that a literal means. -/
def Timestamp.ofLiteral? (s : List Char) : Option Timestamp := do
  let (date, time) ← splitFirst? 'T' s
  return ⟨← Date.ofLiteral? date, ← Time.ofLiteral? time⟩

/-- **Timestamps are read back.** -/
theorem Timestamp.ofLiteral?_literal (t : Timestamp) : ofLiteral? t.literal = some t := by
  rw [ofLiteral?, literal, splitFirst?_append (t.date.notMem_literal rfl (by decide))]
  simp only [Option.bind_eq_bind, Option.bind_some, Date.ofLiteral?_literal,
    Time.ofLiteral?_literal]
  rfl

end Calendar

end EntitySql
