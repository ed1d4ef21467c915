import EntitySql.Text.Digit
import EntitySql.Text.Utf8
/-!
# Percent encoding

A byte is written as a percent sign and two hexadecimal digits. Encoding leaves the characters
of a class alone and writes every other one byte by byte; decoding reads each well-formed triple
as its byte and leaves everything else, a lone percent sign included, as it stands.

A query string is a list of pairs: parts between ampersands, empty ones skipped, each split at
its first equals sign, with a plus sign for a space.

## Main definitions

* `percentEncode`, `percentDecode`: the two directions.
* `queryPairs`: the decoded pairs of a query string.
-/

namespace EntitySql.Text

/-- A byte as a percent sign and two digits. -/
def percentByte (b : UInt8) : List Char :=
  '%' :: hexByte .upper b

/-- A text with every character outside a class written byte by byte. -/
def percentEncode (keep : Char → Bool) (s : List Char) : List Char :=
  s.flatMap fun c => if keep c then [c] else (String.utf8EncodeChar c).flatMap percentByte

/-- The bytes that a percent-encoded text stands for. -/
def percentDecode : List Char → List UInt8
  | [] => []
  | '%' :: a :: b :: rest =>
      match hexValue? a, hexValue? b with
      | some high, some low => UInt8.ofNat (16 * high + low) :: percentDecode rest
      | _, _ => String.utf8EncodeChar '%' ++ percentDecode (a :: b :: rest)
  | c :: rest => String.utf8EncodeChar c ++ percentDecode rest

/-! ### Query strings -/

/-- The parts of a list between separators; one part more than there are separators. -/
def splitOn (separator : Char) : List Char → List (List Char)
  | [] => [[]]
  | c :: cs =>
      if c = separator then [] :: splitOn separator cs
      else match splitOn separator cs with
        | [] => [[c]]
        | part :: parts => (c :: part) :: parts

/-- What stands in front of the first separator and behind it, if there is one. -/
def splitFirst? (separator : Char) : List Char → Option (List Char × List Char)
  | [] => none
  | c :: cs =>
      if c = separator then some ([], cs)
      else (splitFirst? separator cs).map fun (before, behind) => (c :: before, behind)

/-- What stands in front of the last separator and behind it, if there is one. -/
def splitLast? (separator : Char) : List Char → Option (List Char × List Char)
  | [] => none
  | c :: cs =>
      match splitLast? separator cs with
      | some (before, behind) => some (c :: before, behind)
      | none => if c = separator then some ([], cs) else none

/-- A part of a query string with its plus signs read as spaces and its bytes read leniently. -/
def queryDecode (s : List Char) : String :=
  String.ofList (ofUtf8Lenient (percentDecode (s.map fun c => if c = '+' then ' ' else c)))

/-- The decoded pairs of a query string, in order. A part without an equals sign has an empty
value. -/
def queryPairs (query : List Char) : List (String × String) :=
  ((splitOn '&' query).filter (!·.isEmpty)).map fun part =>
    let (name, value) := (splitFirst? '=' part).getD (part, [])
    (queryDecode name, queryDecode value)

end EntitySql.Text
