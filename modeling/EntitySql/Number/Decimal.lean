import EntitySql.Number.Binary
import EntitySql.Text.Digit
/-!
# Decimals

A decimal is a sign, a mantissa of at most 96 bits and a scale of at most 28: the number
`mantissa / 10 ^ scale`. Zero has a sign too, and the scale is part of the decimal: 1.0 and 1.00
are different decimals that are numerically equal.

## Main definitions

* `Decimal`, `Decimal.ofParts?`, `Decimal.ofInt?`.
* `Decimal.toInt?`: the integer that a decimal without a fraction equals.
* `Decimal.same`: numeric equality.
* `Decimal.text`: the decimal with exactly `scale` fraction digits.
* `Decimal.toDouble`: the 64 bit number of a decimal.
* `Decimal.ofSingle?`, `Decimal.ofDouble?`: the decimal of a binary number.
-/

namespace EntitySql.Number

open EntitySql.Text

/-- A decimal number `mantissa / 10 ^ scale` with a sign. -/
structure Decimal where
  negative : Bool
  mantissa : Nat
  scale : Nat
  mantissa_lt : mantissa < twoTo 96
  scale_le : scale ≤ 28
  deriving DecidableEq

namespace Decimal

/-- The decimal with these parts, if they are in range. -/
def ofParts? (negative : Bool) (mantissa scale : Nat) : Option Decimal :=
  if h : mantissa < twoTo 96 ∧ scale ≤ 28 then some ⟨negative, mantissa, scale, h.1, h.2⟩ else none

/-- The decimal of scale zero that equals an integer, if it is in range. -/
def ofInt? (n : Int) : Option Decimal :=
  ofParts? (n < 0) n.natAbs 0

/-- The mantissa with the sign; a negative zero has none. -/
def signedMantissa (d : Decimal) : Int :=
  if d.negative then -(d.mantissa : Int) else d.mantissa

/-- Whether the fraction is zero. -/
def isInteger (d : Decimal) : Bool :=
  d.mantissa % tenTo d.scale = 0

/-- The integer that a decimal without a fraction equals. -/
def toInt? (d : Decimal) : Option Int :=
  if d.isInteger then
    some (if d.negative then -((d.mantissa / tenTo d.scale : Nat) : Int)
      else ((d.mantissa / tenTo d.scale : Nat) : Int))
  else none

/-- Numeric equality, whatever the scales and the sign of zero. -/
def same (a b : Decimal) : Bool :=
  a.signedMantissa * tenTo b.scale == b.signedMantissa * tenTo a.scale

/-- The decimal with exactly `scale` fraction digits and a minus sign if it has one. -/
def text (d : Decimal) : List Char :=
  let sign := if d.negative then ['-'] else []
  let whole := numeral (d.mantissa / tenTo d.scale)
  if d.scale = 0 then sign ++ whole
  else sign ++ whole ++ '.' :: padded d.scale (d.mantissa % tenTo d.scale)

/-! ### To binary -/

/-- The 64 bit number of a decimal.

A whole number is rounded once. Otherwise the integral part and the quotient of the fraction are
rounded apart and added, and the sum is rounded to as many decimal places as the scale says, every
step in 64 bit arithmetic. -/
def toDouble (d : Decimal) : Binary .double :=
  let f := Format.double
  let power := tenTo d.scale
  let whole := f.nearest (.ofNat (d.mantissa / power))
  let fraction := f.nearest ((f.nearest (.ofNat (d.mantissa % power))).div
    (f.nearest (.ofNat power)))
  if d.scale = 0 then
    .ofMagnitude f (d.negative && d.mantissa != 0) (f.magnitude (.ofNat d.mantissa))
  else if fraction.num = 0 then .ofMagnitude f d.negative (f.magnitude whole)
  else
    let sum := f.nearest (whole.add fraction)
    let places := f.nearest (.ofNat power)
    let shifted := f.nearest (sum.mul places)
    let rounded := roundHalfUp shifted.num shifted.den
    .ofMagnitude f d.negative (f.magnitude ((Ratio.ofNat rounded).div places))

/-! ### From binary

The number `b * 2 ^ e` is `b * 5 ^ -e * 10 ^ e`. A 96 bit significand `b` is multiplied or divided
by five, or by two instead where that loses less, until no power of five is left; then the power
of ten is brought between `10 ^ -28` and one. -/

/-- A significand times powers of ten: `mantissa * 10 ^ exponent`. -/
structure Scaled where
  mantissa : Nat
  exponent : Int
  deriving DecidableEq, Repr

/-- The significand times so many fives. A factor two of the significand, or its last bit where
five times the significand would be too wide, is traded for a power of ten. -/
def Scaled.timesFives (s : Scaled) : Nat → Scaled
  | 0 => s
  | fives + 1 =>
      if s.mantissa % 2 = 0 then timesFives ⟨s.mantissa / 2, s.exponent + 1⟩ fives
      else if s.mantissa * 5 < twoTo 96 then timesFives ⟨s.mantissa * 5, s.exponent⟩ fives
      else timesFives ⟨s.mantissa / 2, s.exponent + 1⟩ fives

/-- The significand divided by so many fives, where there is room by doubling it and taking a
tenth; nothing if more than half of the divisions would be left to powers of ten. -/
def Scaled.overFives (s : Scaled) : Nat → Option Scaled
  | 0 => some s
  | fives + 1 =>
      if s.mantissa < twoTo 95 then overFives ⟨s.mantissa * 2, s.exponent - 1⟩ fives
      else if ((fives : Int) + 1) < s.exponent * 2 then none
      else overFives ⟨s.mantissa / 5, s.exponent⟩ fives

/-- The significand times ten to a power, if it stays within 96 bits. -/
def timesTens (mantissa : Nat) : Nat → Option Nat
  | 0 => some mantissa
  | tens + 1 => if mantissa * 10 < twoTo 96 then timesTens (mantissa * 10) tens else none

/-- A tenth of a number, a half rounded up. -/
def tenth (n : Nat) : Nat :=
  if 5 ≤ n % 10 then n / 10 + 1 else n / 10

/-- So many digits are dropped one by one; a significand that vanishes ends it with scale zero. -/
def Scaled.dropDigits (s : Scaled) : Nat → Scaled
  | 0 => s
  | count + 1 =>
      if s.mantissa / 10 = 0 then ⟨0, 0⟩
      else dropDigits ⟨tenth s.mantissa, s.exponent + 1⟩ count

/-- Digits behind the point are dropped while the significand is not below a limit. -/
def Scaled.dropAbove (limit : Nat) (s : Scaled) : (places : Nat) → Scaled
  | 0 => s
  | places + 1 =>
      if limit ≤ s.mantissa then dropAbove limit ⟨tenth s.mantissa, s.exponent + 1⟩ places
      else s

/-- Zeros at the end of the digits behind the point are dropped. -/
def Scaled.dropZeros (s : Scaled) : (places : Nat) → Scaled
  | 0 => s
  | places + 1 =>
      if s.mantissa % 10 = 0 then dropZeros ⟨s.mantissa / 10, s.exponent + 1⟩ places else s

/-- The decimal part of a positive number `significand * 2 ^ exponent`, if it is in range. The
limit bounds the significand of a number with a fraction. -/
def scaledOf? (limit significand : Nat) (exponent : Int) : Option Scaled := do
  let start : Scaled := ⟨significand, exponent⟩
  let fiveless ← if exponent ≤ 0 then some (start.timesFives (-exponent).toNat)
    else start.overFives exponent.toNat
  let whole ← if 0 < fiveless.exponent then
      (timesTens fiveless.mantissa fiveless.exponent.toNat).map (Scaled.mk · 0)
    else some fiveless
  let inScale := whole.dropDigits (-28 - whole.exponent).toNat
  let narrow := inScale.dropAbove limit (-inScale.exponent).toNat
  return narrow.dropZeros (-narrow.exponent).toNat

/-- The decimal of a finite binary number, if it is in range, with the limit that bounds its
significand if it has a fraction. -/
def ofBinary? {f : Format} (limit : Nat) (x : Binary f) : Option Decimal :=
  match x.exact with
  | .finite negative significand exponent =>
      if significand = 0 then ofParts? negative 0 0
      else do
        let s ← scaledOf? limit significand exponent
        ofParts? negative s.mantissa (-s.exponent).toNat
  | _ => none

/-- The decimal of a finite 32 bit number, with less than 24 significant bits behind a point. -/
def ofSingle? (x : Binary .single) : Option Decimal :=
  ofBinary? (twoTo 24) x

/-- The decimal of a finite 64 bit number, with less than 52 significant bits behind a point. -/
def ofDouble? (x : Binary .double) : Option Decimal :=
  ofBinary? (twoTo 52) x

end Decimal

end EntitySql.Number
