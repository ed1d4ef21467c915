import EntitySql.Text.Digit
/-!
# UTF-8

Bytes are read as UTF-8 one character at a time. `leading` says what the bytes at the front are:
a character, a sequence that no character starts with, or the start of a character cut off by
the end. Strict reading stops at the first of the latter two and reports where it is; lenient
reading puts the replacement character in its place and goes on.

## Main definitions

* `utf8`: the bytes of a text.
* `leading`: what stands at the front of a byte sequence.
* `ofUtf8`: strict reading, with `Utf8Error` for what stopped it.
* `ofUtf8Lenient`: lenient reading.
-/

namespace EntitySql.Text

/-- The bytes of a list of characters. -/
def utf8 (s : List Char) : List UInt8 :=
  s.flatMap String.utf8EncodeChar

/-- What stands at the front of a byte sequence. -/
inductive Leading where
  /-- A character of so many bytes. -/
  | char (c : Char) (length : Nat)
  /-- So many bytes that start no character. -/
  | invalid (length : Nat)
  /-- The start of a character whose end is missing. -/
  | cut
  deriving DecidableEq, Repr

/-- The low six bits of a byte that continues a character. -/
def continuation? (b : UInt8) : Option Nat :=
  if 0x80 ≤ b ∧ b ≤ 0xBF then some (b.toNat - 0x80) else none

/-- What a two byte sequence is, from the payload of its first byte. -/
def leadingTwo (payload : Nat) : List UInt8 → Leading
  | [] => .cut
  | b :: _ =>
      match continuation? b with
      | none => .invalid 1
      | some x => .char (Char.ofNat (payload * 64 + x)) 2

/-- What a three byte sequence is, from the payload of its first byte and the bounds of its
second one. -/
def leadingThree (payload : Nat) (low high : UInt8) : List UInt8 → Leading
  | [] => .cut
  | b :: rest =>
      if b < low ∨ high < b then .invalid 1
      else match rest with
        | [] => .cut
        | c :: _ =>
            match continuation? c with
            | none => .invalid 2
            | some y => .char (Char.ofNat ((payload * 64 + (b.toNat - 0x80)) * 64 + y)) 3

/-- What a four byte sequence is, from the payload of its first byte and the bounds of its
second one. -/
def leadingFour (payload : Nat) (low high : UInt8) : List UInt8 → Leading
  | [] => .cut
  | b :: rest =>
      if b < low ∨ high < b then .invalid 1
      else match rest with
        | [] => .cut
        | c :: rest =>
            match continuation? c with
            | none => .invalid 2
            | some y =>
                match rest with
                | [] => .cut
                | d :: _ =>
                    match continuation? d with
                    | none => .invalid 3
                    | some z =>
                        .char (Char.ofNat
                          (((payload * 64 + (b.toNat - 0x80)) * 64 + y) * 64 + z)) 4

/-- What stands at the front of a byte sequence, given as its first byte and the others. A
character has its shortest encoding, and no surrogate is a character. -/
def leading (b : UInt8) (rest : List UInt8) : Leading :=
  if b < 0x80 then .char (Char.ofNat b.toNat) 1
  else if 0xC2 ≤ b ∧ b ≤ 0xDF then leadingTwo (b.toNat - 0xC0) rest
  else if b = 0xE0 then leadingThree 0 0xA0 0xBF rest
  else if b = 0xED then leadingThree 0xD 0x80 0x9F rest
  else if 0xE1 ≤ b ∧ b ≤ 0xEF then leadingThree (b.toNat - 0xE0) 0x80 0xBF rest
  else if b = 0xF0 then leadingFour 0 0x90 0xBF rest
  else if 0xF1 ≤ b ∧ b ≤ 0xF3 then leadingFour (b.toNat - 0xF0) 0x80 0xBF rest
  else if b = 0xF4 then leadingFour 4 0x80 0x8F rest
  else .invalid 1

/-! ### Strict reading -/

/-- Why bytes are not UTF-8. -/
inductive Utf8Error where
  /-- So many bytes at an index start no character. -/
  | invalid (length index : Nat)
  /-- The character at an index is cut off by the end. -/
  | incomplete (index : Nat)
  deriving DecidableEq, Repr

/-- The text of the error. -/
def Utf8Error.message : Utf8Error → String
  | .invalid length index =>
      "invalid utf-8 sequence of " ++ natText length ++ " bytes from index " ++ natText index
  | .incomplete index => "incomplete utf-8 byte sequence from index " ++ natText index

/-- The characters of the bytes that start at an index. -/
def ofUtf8From (index : Nat) : List UInt8 → Except Utf8Error (List Char)
  | [] => .ok []
  | b :: rest =>
      match leading b rest with
      | .char c length => do
          return c :: (← ofUtf8From (index + length) (rest.drop (length - 1)))
      | .invalid length => .error (.invalid length index)
      | .cut => .error (.incomplete index)
  termination_by bytes => bytes.length
  decreasing_by simp only [List.length_drop, List.length_cons]; omega

/-- The characters of a byte sequence, if it is UTF-8 throughout. -/
def ofUtf8 (bytes : List UInt8) : Except Utf8Error (List Char) :=
  ofUtf8From 0 bytes

/-! ### Lenient reading -/

/-- The character that stands for what is no character. -/
def replacement : Char := '\uFFFD'

/-- The characters of a byte sequence, with the replacement character for each run of bytes that
starts no character and for a cut off end. -/
def ofUtf8Lenient : List UInt8 → List Char
  | [] => []
  | b :: rest =>
      match leading b rest with
      | .char c length => c :: ofUtf8Lenient (rest.drop (length - 1))
      | .invalid length => replacement :: ofUtf8Lenient (rest.drop (length - 1))
      | .cut => [replacement]
  termination_by bytes => bytes.length
  decreasing_by all_goals (simp only [List.length_drop, List.length_cons]; omega)

end EntitySql.Text
