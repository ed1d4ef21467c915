import EntitySql.Number.Binary
import EntitySql.Text.Digit
/-!
# Shortest decimal digits of a binary number

Among the decimals that round to a binary number, the ones with the fewest digits are taken, and
of those the nearest. The reals that round to `significand * 2 ^ exponent` form an interval
around it, reaching half way to either neighbour, with both ends if the significand is even. For
one digit, two digits and so on, the two neighbours of the number on the grid of decimals of
that many digits are tested against the interval; the first grid with a hit gives the digits.

All comparisons are between naturals: a quarter of the last significand bit and one step of the
decimal grid are brought to a common unit.

## Main definitions

* `Digits`: a decimal as its digits and the place of the point in front of or behind them.
* `shortest`: the digits of a positive finite number.
* `Layout`: how digits, sign, zero and what is no finite number are written.
* `Layout.text`: the text of a binary number in a layout.
-/

namespace EntitySql.Number

open EntitySql.Text

/-- A positive decimal `0.d₁d₂… * 10 ^ point`. -/
structure Digits where
  digits : List Char
  point : Int
  deriving DecidableEq, Repr

/-- Which of two equally near decimals is taken. -/
inductive Tie where
  /-- The one with the even last digit. -/
  | even
  /-- The larger one. -/
  | up
  deriving DecidableEq, Repr

/-- The place of the point of a positive quotient: it is below `10 ^ point` and at least a tenth
of that. -/
def pointOf (r : Ratio) : Int :=
  let guess : Int := ((numeral r.num).length : Int) - (numeral r.den).length
  let scaled : Ratio := ⟨r.num * tenTo (-guess).toNat, r.den * tenTo guess.toNat⟩
  if scaled.den ≤ scaled.num then guess + 1 else guess

/-- The interval of reals that round to a number, in quarters of its last significand bit. -/
structure Interval where
  low : Nat
  value : Nat
  high : Nat
  /-- Whether the ends belong to it. -/
  closed : Bool

/-- The interval of a number. Below the first significand of a power of two the neighbours are
half as far apart. -/
def intervalOf (f : Format) (significand : Nat) (exponent : Int) : Interval where
  low := 4 * significand
    - (if significand = twoTo f.fractionBits ∧ f.lowest < exponent then 1 else 2)
  value := 4 * significand
  high := 4 * significand + 2
  closed := significand % 2 = 0

/-- Whether a decimal of so many grid steps lies in the interval, where `step` is one step of
the decimal grid and `unit` one unit of the interval. -/
def Interval.holds (i : Interval) (step unit c : Nat) : Bool :=
  if i.closed then i.low * unit ≤ c * step && c * step ≤ i.high * unit
  else i.low * unit < c * step && c * step < i.high * unit

/-- The number of grid steps of the decimal in the interval that is nearest to the value, if the
grid has one. -/
def Interval.hit? (i : Interval) (tie : Tie) (step unit : Nat) : Option Nat :=
  let below := i.value * unit / step
  let twice := 2 * (i.value * unit)
  let middle := (2 * below + 1) * step
  match i.holds step unit below && below != 0, i.holds step unit (below + 1) with
  | true, true =>
      if twice < middle then some below
      else if middle < twice then some (below + 1)
      else match tie with
        | .even => some (below + below % 2)
        | .up => some (below + 1)
  | true, false => some below
  | false, true => some (below + 1)
  | false, false => none

/-- The digits of a number of grid steps, without zeros at the end. -/
def Digits.ofSteps (count : Nat) (gridExponent : Int) : Digits :=
  let all := numeral count
  { digits := (all.reverse.dropWhile (· == '0')).reverse
    point := gridExponent + all.length }

/-- The first grid, of those with `n`, `n + 1`, … digits and `left` of them in all, that holds a
decimal of the interval; the finest grid's lower neighbour if none does. -/
def shortestFrom (i : Interval) (tie : Tie) (exponent point : Int) : (left n : Nat) → Digits
  | left, n =>
    let grid := point - n
    let step := tenTo grid.toNat * twoTo (2 - exponent).toNat
    let unit := twoTo (exponent - 2).toNat * tenTo (-grid).toNat
    match i.hit? tie step unit with
    | some count => Digits.ofSteps count grid
    | none =>
        match left with
        | 0 => Digits.ofSteps (i.value * unit / step) grid
        | left + 1 => shortestFrom i tie exponent point left (n + 1)

/-- The shortest digits of the positive number `significand * 2 ^ exponent` of a format. Seventeen
digits always suffice for the formats of this library. -/
def shortest (f : Format) (tie : Tie) (significand : Nat) (exponent : Int) : Digits :=
  shortestFrom (intervalOf f significand exponent) tie exponent
    (pointOf ((Ratio.ofNat significand).scale exponent)) 17 1

/-! ### Layout -/

/-- How a binary number is written. -/
structure Layout where
  /-- The places of the point that are written without an exponent. -/
  positional : Int → Bool
  /-- Whether a whole number written without an exponent ends in `.0`. -/
  wholePoint : Bool
  tie : Tie

/-- Digits with the point at its place, filled with zeros where the point lies outside. -/
def Digits.positional (wholePoint : Bool) (d : Digits) : List Char :=
  if d.point ≤ 0 then '0' :: '.' :: (List.replicate (-d.point).toNat '0' ++ d.digits)
  else if d.digits.length ≤ d.point.toNat then
    d.digits ++ List.replicate (d.point.toNat - d.digits.length) '0'
      ++ (if wholePoint then ['.', '0'] else [])
  else d.digits.take d.point.toNat ++ '.' :: d.digits.drop d.point.toNat

/-- Digits with the point behind the first one, and the power of ten. -/
def Digits.scientific (d : Digits) : List Char :=
  d.digits.take 1
    ++ (if d.digits.length ≤ 1 then [] else '.' :: d.digits.drop 1)
    ++ 'e' :: signed (d.point - 1)

/-- The text of digits in a layout. -/
def Layout.digitsText (l : Layout) (d : Digits) : List Char :=
  if l.positional d.point then d.positional l.wholePoint else d.scientific

/-- The digits of a finite number without its sign; zero has the digit zero. -/
def digitsOf (f : Format) (tie : Tie) (significand : Nat) (exponent : Int) : Digits :=
  if significand = 0 then ⟨['0'], 1⟩ else shortest f tie significand exponent

/-- The text of a binary number in a layout. -/
def Layout.text {f : Format} (l : Layout) (x : Binary f) : List Char :=
  match x.exact with
  | .nan => ['N', 'a', 'N']
  | .infinite negative => (if negative then ['-'] else []) ++ ['i', 'n', 'f']
  | .finite negative significand exponent =>
      (if negative then ['-'] else []) ++ l.digitsText (digitsOf f l.tie significand exponent)

end EntitySql.Number
