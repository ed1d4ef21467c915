import EntitySql.Number.Power
/-!
# Binary floating point

A binary number is carried as its bits. `Binary.exact` reads them as a sign, a significand and a
power of two, an infinity, or no number at all, and `Format.magnitude` goes back: it rounds a
quotient of naturals to the nearest number of a format, of two equally near ones to the one with
the even significand, and beyond the largest finite number to infinity. All arithmetic on these
numbers is exact arithmetic on quotients followed by one such rounding.

## Main definitions

* `Format`: the widths of the exponent and the fraction; `Format.single`, `Format.double`.
* `Binary`: a number of a format, as bits.
* `Exact`: what the bits say.
* `Format.magnitude`: rounding a quotient to a format.
* `Binary.convert`: the nearest number of another format.
* `Binary.same`: numeric equality, where no number equals itself if it is none.
-/

namespace EntitySql.Number

/-- The widths of the two fields behind the sign bit. -/
structure Format where
  exponentBits : Nat
  fractionBits : Nat
  deriving DecidableEq, Repr

namespace Format

/-- The 32 bit format. -/
def single : Format := ⟨8, 23⟩

/-- The 64 bit format. -/
def double : Format := ⟨11, 52⟩

/-- The number of bits of a number. -/
def width (f : Format) : Nat :=
  1 + f.exponentBits + f.fractionBits

/-- The exponent field of infinities and of what is no number. -/
def topExponent (f : Format) : Nat :=
  twoTo f.exponentBits - 1

/-- The power of two that the last fraction bit of the smallest numbers counts. -/
def lowest (f : Format) : Int :=
  2 - twoTo (f.exponentBits - 1) - f.fractionBits

/-- The bits of positive infinity. -/
def infinity (f : Format) : Nat :=
  f.topExponent * twoTo f.fractionBits

end Format

/-- A binary floating point number. -/
structure Binary (f : Format) where
  bits : BitVec f.width
  deriving DecidableEq

/-- What the bits of a number say. -/
inductive Exact where
  /-- No number. -/
  | nan
  | infinite (negative : Bool)
  /-- The number `significand * 2 ^ exponent`, with its sign. -/
  | finite (negative : Bool) (significand : Nat) (exponent : Int)
  deriving DecidableEq, Repr

namespace Binary

variable {f : Format}

/-- The sign bit. -/
def negative (x : Binary f) : Bool :=
  twoTo (f.exponentBits + f.fractionBits) ≤ x.bits.toNat

/-- The bits behind the sign. -/
def magnitude (x : Binary f) : Nat :=
  x.bits.toNat % twoTo (f.exponentBits + f.fractionBits)

/-- What the bits say. Numbers with a zero exponent field have no hidden bit. -/
def exact (x : Binary f) : Exact :=
  let field := x.magnitude / twoTo f.fractionBits
  let fraction := x.magnitude % twoTo f.fractionBits
  if field = f.topExponent then
    if fraction = 0 then .infinite x.negative else .nan
  else if field = 0 then .finite x.negative fraction f.lowest
  else .finite x.negative (twoTo f.fractionBits + fraction) (f.lowest + (field - 1))

/-- Whether it is a number and no infinity. -/
def isFinite (x : Binary f) : Bool :=
  x.magnitude / twoTo f.fractionBits != f.topExponent

/-- The number with a sign and the bits behind it. -/
def ofMagnitude (f : Format) (negative : Bool) (magnitude : Nat) : Binary f :=
  ⟨BitVec.ofNat f.width
    ((if negative then twoTo (f.exponentBits + f.fractionBits) else 0) + magnitude)⟩

/-- A value that is no number. -/
def nan (f : Format) : Binary f :=
  ofMagnitude f false (f.infinity + twoTo (f.fractionBits - 1))

/-- Numeric equality: the two zeros are equal, and what is no number equals nothing. -/
def same (x y : Binary f) : Bool :=
  x.exact != .nan && y.exact != .nan
    && (x.bits == y.bits || (x.magnitude == 0 && y.magnitude == 0))

end Binary

/-! ### Rounding -/

/-- A quotient rounded to the nearest natural number, a half to the even neighbour. -/
def roundEven (num den : Nat) : Nat :=
  let q := num / den
  let r := num % den
  if 2 * r < den then q
  else if den < 2 * r then q + 1
  else q + q % 2

/-- A quotient rounded to the nearest natural number, a half to the larger neighbour. -/
def roundHalfUp (num den : Nat) : Nat :=
  (2 * num + den) / (2 * den)

/-- A quotient of naturals, with a denominator that callers keep positive. -/
structure Ratio where
  num : Nat
  den : Nat
  deriving DecidableEq, Repr

namespace Ratio

/-- The natural number as a quotient. -/
def ofNat (n : Nat) : Ratio := ⟨n, 1⟩

/-- The quotient times a power of two. -/
def scale (r : Ratio) (exponent : Int) : Ratio :=
  ⟨r.num * twoTo exponent.toNat, r.den * twoTo (-exponent).toNat⟩

/-- The sum. -/
def add (a b : Ratio) : Ratio := ⟨a.num * b.den + b.num * a.den, a.den * b.den⟩

/-- The product. -/
def mul (a b : Ratio) : Ratio := ⟨a.num * b.num, a.den * b.den⟩

/-- The quotient of two quotients. -/
def div (a b : Ratio) : Ratio := ⟨a.num * b.den, a.den * b.num⟩

end Ratio

namespace Format

/-- The power of two that the last significand bit of the number nearest to a quotient counts,
before rounding: the smallest one from `lowest` up that leaves the significand within the
width. -/
def exponentFor (f : Format) (r : Ratio) : Int :=
  let guess : Int := (r.num.log2 : Int) - r.den.log2 - f.fractionBits
  let scaled := r.scale (-guess)
  let exponent := if scaled.num < scaled.den * twoTo f.fractionBits then guess - 1 else guess
  max f.lowest exponent

/-- The bits of the number nearest to a quotient. A significand that rounds up to the next power
of two carries into the exponent field. -/
def magnitude (f : Format) (r : Ratio) : Nat :=
  if r.num = 0 then 0
  else
    let exponent := f.exponentFor r
    let scaled := r.scale (-exponent)
    min f.infinity
      ((exponent - f.lowest).toNat * twoTo f.fractionBits + roundEven scaled.num scaled.den)

/-- The number nearest to a quotient, as a quotient, for one that does not round to infinity. -/
def nearest (f : Format) (r : Ratio) : Ratio :=
  match (Binary.ofMagnitude f false (f.magnitude r)).exact with
  | .finite _ significand exponent => (Ratio.ofNat significand).scale exponent
  | _ => r

end Format

/-- The nearest number of another format. -/
def Binary.convert {f : Format} (g : Format) (x : Binary f) : Binary g :=
  match x.exact with
  | .nan => .nan g
  | .infinite negative => .ofMagnitude g negative g.infinity
  | .finite negative significand exponent =>
      .ofMagnitude g negative (g.magnitude ((Ratio.ofNat significand).scale exponent))

end EntitySql.Number
