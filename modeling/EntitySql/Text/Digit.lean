/-!
# Digits

Numbers are written in decimal, and bytes and identifiers in hexadecimal, as lists of
characters. `numeral` has no leading zero, `padded` fills up to a width with zeros, and `hex`
has a fixed width. `natOf?` reads a decimal numeral back.

## Main definitions

* `numeral`, `natText`, `signed`, `padded`: decimal numerals.
* `hex`: hexadecimal numerals of a fixed number of digits.
* `hexValue?`, `digitValue?`: the value of a digit.
-/

namespace EntitySql.Text

/-- The decimal digit of a number below ten. -/
def digit (d : Nat) : Char :=
  Char.ofNat (48 + d)

/-- The decimal numeral of a number, without leading zeros. -/
def numeral (n : Nat) : List Char :=
  if n < 10 then [digit n] else numeral (n / 10) ++ [digit (n % 10)]

/-- The decimal numeral of a number as a text. -/
def natText (n : Nat) : String :=
  String.ofList (numeral n)

/-- The decimal numeral of an integer, with a minus sign below zero. -/
def signed (n : Int) : List Char :=
  if n < 0 then '-' :: numeral n.natAbs else numeral n.natAbs

/-- Zeros in front of a text, up to a width; a longer text is left as it is. -/
def zeroFilled (width : Nat) (s : List Char) : List Char :=
  List.replicate (width - s.length) '0' ++ s

/-- The decimal numeral of a number, filled with zeros up to a width. -/
def padded (width n : Nat) : List Char :=
  zeroFilled width (numeral n)

/-- The value of a decimal digit. -/
def digitValue? (c : Char) : Option Nat :=
  if '0' ≤ c ∧ c ≤ '9' then some (c.toNat - 48) else none

/-- The number that a non-empty list of decimal digits stands for. -/
def natOf? : List Char → Option Nat
  | [] => none
  | c :: cs => (c :: cs).foldl (fun n? d => do return 10 * (← n?) + (← digitValue? d)) (some 0)

/-! ### Hexadecimal -/

/-- The two sets of hexadecimal digits. -/
inductive HexCase where
  | lower
  | upper
  deriving DecidableEq, Repr

/-- The hexadecimal digit of a number below sixteen. -/
def hexDigit (case : HexCase) (d : Nat) : Char :=
  if d < 10 then digit d
  else match case with
    | .lower => Char.ofNat (87 + d)
    | .upper => Char.ofNat (55 + d)

/-- The last `width` hexadecimal digits of a number. -/
def hex (case : HexCase) : Nat → Nat → List Char
  | 0, _ => []
  | width + 1, n => hex case width (n / 16) ++ [hexDigit case (n % 16)]

/-- The hexadecimal numeral of a number, without leading zeros. -/
def hexNumeral (case : HexCase) (n : Nat) : List Char :=
  if n < 16 then [hexDigit case n] else hexNumeral case (n / 16) ++ [hexDigit case (n % 16)]

/-- The two hexadecimal digits of a byte. -/
def hexByte (case : HexCase) (b : UInt8) : List Char :=
  hex case 2 b.toNat

/-- The value of a hexadecimal digit of either case. -/
def hexValue? (c : Char) : Option Nat :=
  if '0' ≤ c ∧ c ≤ '9' then some (c.toNat - 48)
  else if 'a' ≤ c ∧ c ≤ 'f' then some (c.toNat - 87)
  else if 'A' ≤ c ∧ c ≤ 'F' then some (c.toNat - 55)
  else none

/-- The number that a list of hexadecimal digits stands for, zero for the empty list. -/
def hexNat? (s : List Char) : Option Nat :=
  s.foldl (fun n? d => do return 16 * (← n?) + (← hexValue? d)) (some 0)

/-- The bytes that pairs of hexadecimal digits stand for. -/
def hexBytes? : List Char → Option (List UInt8)
  | [] => some []
  | [_] => none
  | a :: b :: rest => do
      let high ← hexValue? a
      let low ← hexValue? b
      return UInt8.ofNat (16 * high + low) :: (← hexBytes? rest)

end EntitySql.Text
