import EntitySql.Text.Digit
/-!
# Universally unique identifiers

An identifier is 128 bits. It is written as 32 lower case hexadecimal digits in groups of 8, 4,
4, 4 and 12 with hyphens between them. It is also read without hyphens, and with hyphens inside
braces or behind `urn:uuid:`, in either case of the digits.

## Main definitions

* `Uuid`, `Uuid.text`, `Uuid.ofText?`.
* `Uuid.fresh`: identifiers outside a finite list.
-/

namespace EntitySql

open EntitySql.Text

/-- A universally unique identifier. -/
structure Uuid where
  bits : BitVec 128
  deriving DecidableEq

namespace Uuid

/-- The digits in groups with hyphens between them. -/
def text (u : Uuid) : List Char :=
  let digits := hex .lower 32 u.bits.toNat
  digits.take 8 ++ '-' :: (digits.drop 8).take 4 ++ '-' :: (digits.drop 12).take 4
    ++ '-' :: (digits.drop 16).take 4 ++ '-' :: digits.drop 20

/-- The identifier of 32 hexadecimal digits. -/
def ofDigits? (s : List Char) : Option Uuid :=
  if s.length = 32 then (hexNat? s).map fun n => ⟨BitVec.ofNat 128 n⟩ else none

/-- The identifier of digits in groups with hyphens between them. -/
def ofGroups? (s : List Char) : Option Uuid :=
  if s.length = 36 ∧ s[8]? = some '-' ∧ s[13]? = some '-' ∧ s[18]? = some '-' ∧ s[23]? = some '-'
  then ofDigits? (s.take 8 ++ (s.drop 9).take 4 ++ (s.drop 14).take 4 ++ (s.drop 19).take 4
    ++ s.drop 24)
  else none

/-- The scheme that may stand in front of the groups, in either case. -/
def scheme : List Char := ['u', 'r', 'n', ':', 'u', 'u', 'i', 'd', ':']

/-- The identifier that a text is a form of. -/
def ofText? (s : String) : Option Uuid :=
  let chars := s.toList
  match chars.length with
  | 32 => ofDigits? chars
  | 36 => ofGroups? chars
  | 38 =>
      if chars.head? = some '\x7b' ∧ chars.getLast? = some '\x7d' then
        ofGroups? ((chars.drop 1).take 36)
      else none
  | 45 => if (chars.take 9).map Char.toLower = scheme then ofGroups? (chars.drop 9) else none
  | _ => none

/-! ### Fresh identifiers -/

/-- The first identifier from a number on that is outside a list, looking at `fuel + 1` of
them. -/
def firstOutside (used : List Uuid) : (fuel n : Nat) → Uuid
  | 0, n => ⟨BitVec.ofNat 128 n⟩
  | fuel + 1, n =>
      if ⟨BitVec.ofNat 128 n⟩ ∈ used then firstOutside used fuel (n + 1) else ⟨BitVec.ofNat 128 n⟩

/-- An identifier outside a list: of one more identifiers than the list has members, one is. -/
def fresh (used : List Uuid) : Uuid :=
  firstOutside used used.length 0

end Uuid

end EntitySql
