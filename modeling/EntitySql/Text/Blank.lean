/-!
# Blank characters

The characters with the Unicode property White_Space, and trimming by a class of characters.

## Main definitions

* `isBlank`: the White_Space characters.
* `trimLeft`, `trimRight`, `trim`: a text without the characters of a class at its ends.
-/

namespace EntitySql.Text

/-- The characters with the property White_Space. -/
def isBlank (c : Char) : Bool :=
  (9 ≤ c.toNat && c.toNat ≤ 13) || c.toNat == 0x20 || c.toNat == 0x85 || c.toNat == 0xA0
    || c.toNat == 0x1680 || (0x2000 ≤ c.toNat && c.toNat ≤ 0x200A) || c.toNat == 0x2028
    || c.toNat == 0x2029 || c.toNat == 0x202F || c.toNat == 0x205F || c.toNat == 0x3000

/-- A text without the characters of a class at its start. -/
def trimLeft (p : Char → Bool) (s : List Char) : List Char :=
  s.dropWhile p

/-- A text without the characters of a class at its end. -/
def trimRight (p : Char → Bool) (s : List Char) : List Char :=
  (s.reverse.dropWhile p).reverse

/-- A text without the characters of a class at either end. -/
def trim (p : Char → Bool) (s : List Char) : List Char :=
  trimRight p (trimLeft p s)

end EntitySql.Text
