import EntitySql.Text.Percent
/-!
# Punycode

Punycode writes a text in letters, digits and hyphens. The characters that are in ASCII stand in
front, behind them a hyphen, and then a number for each of the others, which are put back one after
the other in the order of their code points. The number counts the places where a character could
go in between, the code points that are passed over included, so it is small for characters that
are close together.

Numbers have digits of 36 kinds, the lowest first. A digit below the limit of its place is the last
one, and the limits follow a bias, which adapts to the size of the numbers so far.

## Main definitions

* `punycode`: the Punycode of a text.
* `ofPunycode?`: the text of a Punycode.
-/

namespace EntitySql.Text

namespace Punycode

/-! ### Numbers -/

/-- The digit of a value below 36: letters first, then the decimal digits. -/
def digit36 (value : Nat) : Char :=
  if value < 26 then Char.ofNat (0x61 + value) else Char.ofNat (0x30 + (value - 26))

/-- The value of a digit. -/
def digit36? (c : Char) : Option Nat :=
  if 'a' ≤ c ∧ c ≤ 'z' then some (c.toNat - 0x61)
  else (digitValue? c).map (26 + ·)

/-- The limit at a place, between 1 and 26. Places go in steps of 36. -/
def limit (bias place : Nat) : Nat :=
  min 26 (max 1 (place - bias))

/-- A limit is positive, so that numbers get smaller from digit to digit. -/
theorem one_le_limit (bias place : Nat) : 1 ≤ limit bias place :=
  Nat.le_min.mpr ⟨by decide, Nat.le_max_left _ _⟩

/-- The digits of a number from a place on. -/
def digits (bias place n : Nat) : List Char :=
  let last := limit bias place
  if n < last then [digit36 n]
  else
    digit36 (last + (n - last) % (36 - last))
      :: digits bias (place + 36) ((n - last) / (36 - last))
termination_by n
decreasing_by
  have quotient := Nat.div_le_self (n - limit bias place) (36 - limit bias place)
  have least := one_le_limit bias place
  omega

/-- The number at the front of a text, from a place on, whose digits count by a weight there, and
what follows it. -/
def readNumber? (bias : Nat) : (place weight : Nat) → List Char → Option (Nat × List Char)
  | _, _, [] => none
  | place, weight, c :: rest => do
      let value ← digit36? c
      let last := limit bias place
      if value < last then return (value * weight, rest)
      else
        let (n, behind) ← readNumber? bias (place + 36) (weight * (36 - last)) rest
        return (value * weight + n, behind)

/-- A number has at least one digit. -/
theorem length_lt_of_readNumber? {bias place weight n : Nat} {s behind : List Char}
    (read : readNumber? bias place weight s = some (n, behind)) : behind.length < s.length := by
  induction s generalizing place weight n with
  | nil => cases read
  | cons c rest ih =>
      rw [readNumber?] at read
      cases digit : digit36? c with
      | none => simp [digit] at read
      | some value =>
          by_cases last : value < limit bias place
          · simp only [digit, last, Option.bind_eq_bind, Option.bind_some, if_true] at read
            obtain ⟨-, rfl⟩ := Prod.mk.inj (Option.some.inj read)
            exact Nat.lt_succ_self _
          · simp only [digit, last, Option.bind_eq_bind, Option.bind_some, if_false] at read
            obtain ⟨⟨m, others⟩, more, same⟩ := Option.bind_eq_some_iff.mp read
            obtain ⟨-, rfl⟩ := Prod.mk.inj (Option.some.inj same)
            exact Nat.lt_succ_of_lt (ih more)

/-- The bias for numbers of a size. -/
def biasOf (size : Nat) : Nat :=
  if 455 < size then 36 + biasOf (size / 35) else 36 * size / (size + 38)

/-! ### Characters -/

/-- The place where the next character goes: the least code point that it may have, and its index
in the text so far. -/
structure Cursor where
  point : Nat
  index : Nat
  /-- The number of characters of the text so far. -/
  length : Nat
  bias : Nat
  /-- Whether no number has been written yet. -/
  fresh : Bool

/-- The place in front of all numbers, behind the characters in ASCII. -/
def Cursor.start (length : Nat) : Cursor :=
  ⟨0x80, 0, length, 72, true⟩

/-- The number that counts on from a place to an index of a code point. -/
def Cursor.numberTo (c : Cursor) (point index : Nat) : Nat :=
  (point - c.point) * (c.length + 1) + index - c.index

/-- The place behind a character, which a number has put in. The first number is larger than those
that follow. -/
def Cursor.next (c : Cursor) (number point index : Nat) : Cursor where
  point := point
  index := index + 1
  length := c.length + 1
  bias :=
    let size := number / (if c.fresh then 700 else 2)
    biasOf (size + size / (c.length + 1))
  fresh := false

/-- The number of characters in front of a place whose code points are not above a given one. -/
def indexIn (s : List Char) (point place : Nat) : Nat :=
  (s.take place).countP (·.toNat ≤ point)

/-- The characters of a text that are not in ASCII, by their code points and places in it, in the
order of both. -/
def beyondAscii (s : List Char) : List (Nat × Nat) :=
  ((s.zipIdx.filter (0x80 ≤ ·.1.toNat)).map fun x => (x.1.toNat, x.2)).mergeSort
    fun a b => a.1 < b.1 || (a.1 == b.1 && a.2 ≤ b.2)

/-- The numbers for characters of a text. -/
def numbersFrom (s : List Char) (c : Cursor) : List (Nat × Nat) → List Char
  | [] => []
  | (point, place) :: rest =>
      let index := indexIn s point place
      let number := c.numberTo point index
      digits c.bias 36 number ++ numbersFrom s (c.next number point index) rest

/-- The text so far with the characters of numbers. -/
def readFrom? (c : Cursor) (text s : List Char) : Option (List Char) :=
  if s.isEmpty then some text
  else
    match h : readNumber? c.bias 36 1 s with
    | none => none
    | some (number, behind) =>
        let point := c.point + (c.index + number) / (c.length + 1)
        let index := (c.index + number) % (c.length + 1)
        if point.isValidChar then
          readFrom? (c.next number point index) (text.insertIdx index (Char.ofNat point)) behind
        else none
termination_by s.length
decreasing_by exact length_lt_of_readNumber? h

end Punycode

open Punycode

/-- The Punycode of a text. -/
def punycode (s : List Char) : List Char :=
  let basic := s.filter (·.toNat < 0x80)
  (if basic.isEmpty then [] else basic ++ ['-'])
    ++ numbersFrom s (.start basic.length) (beyondAscii s)

/-- The text of a Punycode in lower case. A hyphen at its front belongs to no number. -/
def ofPunycode? (s : List Char) : Option (List Char) :=
  match splitLast? '-' s with
  | some (c :: basic, numbers) => readFrom? (.start (basic.length + 1)) (c :: basic) numbers
  | _ => readFrom? (.start 0) [] s

end EntitySql.Text
