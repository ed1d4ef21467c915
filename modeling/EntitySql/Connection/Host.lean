import EntitySql.Connection.Problem
import EntitySql.Number.Power
import EntitySql.Text.Joined
import EntitySql.Text.Punycode
/-!
# Hosts of addresses

The host of an address is a name or a network address. Schemes that browsers know have domain
names, which are percent-decoded, lower case and never empty, with labels beyond ASCII in Punycode,
and names that end in a number are IPv4 addresses. Every other scheme has host names that stay as
they are. Brackets hold an IPv6 address with either kind of scheme.

## Main definitions

* `ipv6?`, `ipv6Text`: reading and writing IPv6 addresses.
* `ipv4`: reading IPv4 addresses.
* `domainName?`: domain names in ASCII.
* `namedHost`, `domainHost`: the text of a host of the two kinds of scheme.
-/

namespace EntitySql.Connection

open EntitySql.Text EntitySql.Number

/-! ### IPv6 -/

/-- The hexadecimal number at the front of a text, of at most `limit` digits, with the number of
its digits and what follows. `value` and `count` are those of the digits in front. -/
def hexPrefix (limit value count : Nat) : List Char → Nat × Nat × List Char
  | [] => (value, count, [])
  | c :: rest =>
      match limit, hexValue? c with
      | limit + 1, some d => hexPrefix limit (16 * value + d) (count + 1) rest
      | _, _ => (value, count, c :: rest)

/-- A decimal number of at most 255 without leading zeros. -/
def octet? (s : List Char) : Option Nat :=
  match s with
  | [] => none
  | '0' :: _ :: _ => none
  | _ => (natOf? s).bind fun n => if n ≤ 255 then some n else none

/-- The two pieces of a dotted IPv4 address. -/
def dottedPieces? (s : List Char) : Option (List Nat) :=
  match (splitOn '.' s).mapM octet? with
  | some [a, b, c, d] => some [256 * a + b, 256 * c + d]
  | _ => none

/-- The pieces of an IPv6 address behind those read so far. `gap` is the number of pieces in front
of the end of a double colon, which stands for one zero and more where needed. A piece is read
with the colon behind it, unless it is the last one. -/
def ipv6Pieces? (pieces : List Nat) (gap : Option Nat) : (fuel : Nat) → List Char →
    Option (List Nat × Option Nat)
  | _, [] => some (pieces, gap)
  | 0, _ => none
  | fuel + 1, s =>
      if pieces.length = 8 then none
      else match s with
        | ':' :: rest =>
            if gap.isSome then none
            else ipv6Pieces? (pieces ++ [0]) (some (pieces.length + 1)) fuel rest
        | _ =>
            let (value, count, rest) := hexPrefix 4 0 0 s
            match rest with
            | [] => some (pieces ++ [value], gap)
            | '.' :: _ =>
                if count = 0 ∨ 6 < pieces.length then none
                else (dottedPieces? s).map fun last => (pieces ++ last, gap)
            | ':' :: [] => none
            | ':' :: rest => ipv6Pieces? (pieces ++ [value]) gap fuel rest
            | _ => none

/-- The eight pieces of an IPv6 address. -/
def ipv6? (s : List Char) : Option (List Nat) := do
  let (pieces, gap) ← match s with
    | ':' :: ':' :: rest => ipv6Pieces? [0] (some 1) (s.length + 1) rest
    | ':' :: _ | [] | [_] => none
    | _ => ipv6Pieces? [] none (s.length + 1) s
  match gap with
  | none => if pieces.length = 8 then some pieces else none
  | some gap =>
      if pieces.length ≤ 8 then
        some (pieces.take gap ++ List.replicate (8 - pieces.length) 0 ++ pieces.drop gap)
      else none

/-- The length of the run of zeros at the front. -/
def zeroRun (pieces : List Nat) : Nat :=
  (pieces.takeWhile (· == 0)).length

/-- The start and the length of the first longest run of zeros. -/
def longestZeroRun (pieces : List Nat) : Nat × Nat :=
  (List.range pieces.length).foldl
    (fun best start =>
      let run := zeroRun (pieces.drop start)
      if best.2 < run then (start, run) else best)
    (0, 0)

/-- Pieces in hexadecimal with colons between them. -/
def colonText (pieces : List Nat) : List Char :=
  (joined ":" (pieces.map fun p => String.ofList (hexNumeral .lower p))).toList

/-- The text of an IPv6 address; the first longest run of at least two zeros is left out. -/
def ipv6Text (pieces : List Nat) : List Char :=
  let (start, run) := longestZeroRun pieces
  if run < 2 then colonText pieces
  else colonText (pieces.take start) ++ [':', ':'] ++ colonText (pieces.drop (start + run))

/-- The text of a host in brackets. -/
def bracketedHost (s : List Char) : Except UrlProblem (List Char) :=
  if s.getLast? ≠ some ']' then .error .invalidIpv6
  else match ipv6? ((s.drop 1).dropLast) with
    | some pieces => .ok ('[' :: ipv6Text pieces ++ [']'])
    | none => .error .invalidIpv6

/-! ### IPv4 -/

/-- A number of an IPv4 address: hexadecimal behind `0x`, octal behind another zero, else
decimal. -/
def ipv4Number? : List Char → Option Nat
  | [] => none
  | ['0'] => some 0
  | '0' :: 'x' :: digits | '0' :: 'X' :: digits => hexNat? digits
  | '0' :: digits =>
      digits.foldl (fun n? d => do
        let value ← digitValue? d
        if value < 8 then return 8 * (← n?) + value else none) (some 0)
  | s => natOf? s

/-- The labels of a domain name, without an empty one at its end. -/
def labels (s : List Char) : List (List Char) :=
  let parts := splitOn '.' s
  if 1 < parts.length ∧ parts.getLast? = some [] then parts.dropLast else parts

/-- Whether the last label of a domain name is a number. -/
def endsInNumber (s : List Char) : Bool :=
  match (labels s).getLast? with
  | none => false
  | some label => !label.isEmpty && (label.all Char.isDigit || (ipv4Number? label).isSome)

/-- The dotted text of an IPv4 address; the last number fills the bytes that are left. -/
def ipv4 (s : List Char) : Except UrlProblem (List Char) :=
  match (labels s).mapM ipv4Number? with
  | none => .error .invalidIpv4
  | some numbers =>
      let front := numbers.dropLast
      let last := numbers.getLast?.getD 0
      if 4 < numbers.length ∨ front.any (255 < ·) ∨ twoTo (8 * (5 - numbers.length)) ≤ last then
        .error .invalidIpv4
      else
        let value := (front.zipIdx.map fun (n, i) => n * twoTo (8 * (3 - i))).foldr (· + ·) last
        .ok (joined "." ([3, 2, 1, 0].map fun i => natText (value / twoTo (8 * i) % 256))).toList

/-! ### Names -/

/-- The characters that no host name holds. -/
def isForbiddenInHost (c : Char) : Bool :=
  c ∈ ['\x00', '\t', '\n', '\r', ' ', '#', '/', ':', '<', '>', '?', '@', '[', '\\', ']', '^', '|']

/-- Whether a character is printable ASCII. -/
def isPrintableAscii (c : Char) : Bool :=
  0x20 ≤ c.toNat && c.toNat < 0x7F

/-- The text of a host of a scheme without rules for hosts. -/
def namedHost (s : List Char) : Except UrlProblem (List Char) :=
  if s.head? = some '[' then bracketedHost s
  else if s.any isForbiddenInHost then .error .invalidHostCharacter
  else .ok (percentEncode isPrintableAscii s)

/-! ### Domain names -/

/-- The code points that a domain name may have, in ranges, each with what its first one stands for:
ASCII, the usual letters of the Latin, Greek, Cyrillic, Armenian and Georgian scripts, and the
syllables and characters of the scripts of East Asia with their full stops and wide forms. Capitals
stand for small letters and wide forms for narrow ones. -/
def domainRanges : List (Nat × Nat × Nat) :=
  [(0x00, 0x40, 0x00), (0x41, 0x5A, 0x61), (0x5B, 0x7F, 0x5B),
    -- Latin
    (0xC0, 0xD6, 0xE0), (0xD7, 0xD7, 0xD7), (0xD8, 0xDE, 0xF8), (0xDF, 0xFF, 0xDF),
    (0x131, 0x131, 0x131), (0x138, 0x138, 0x138), (0x178, 0x178, 0xFF), (0x17F, 0x17F, 0x73),
    -- Greek
    (0x386, 0x386, 0x3AC), (0x388, 0x38A, 0x3AD), (0x38C, 0x38C, 0x3CC), (0x38E, 0x38F, 0x3CD),
    (0x390, 0x390, 0x390), (0x391, 0x3A1, 0x3B1), (0x3A3, 0x3AB, 0x3C3), (0x3AC, 0x3CE, 0x3AC),
    -- Cyrillic
    (0x400, 0x40F, 0x450), (0x410, 0x42F, 0x430), (0x430, 0x45F, 0x430), (0x4CF, 0x4CF, 0x4CF),
    -- Armenian and Georgian
    (0x531, 0x556, 0x561), (0x561, 0x586, 0x561), (0x10D0, 0x10FA, 0x10D0),
    (0x1C90, 0x1CBA, 0x10D0),
    -- East Asia
    (0x3002, 0x3002, 0x2E), (0x3005, 0x3007, 0x3005), (0x3041, 0x3096, 0x3041),
    (0x30A1, 0x30FE, 0x30A1), (0x3105, 0x312F, 0x3105), (0x3400, 0x4DBF, 0x3400),
    (0x4E00, 0x9FFF, 0x4E00), (0xAC00, 0xD7A3, 0xAC00),
    (0xFF01, 0xFF20, 0x21), (0xFF21, 0xFF3A, 0x61), (0xFF3B, 0xFF5E, 0x5B), (0xFF61, 0xFF61, 0x2E)]

/-- Ranges of Latin and Cyrillic letters in which each capital stands in front of its small
letter. -/
def domainPairs : List (Nat × Nat) :=
  [(0x100, 0x12F), (0x134, 0x137), (0x139, 0x13E), (0x141, 0x148), (0x14A, 0x177), (0x179, 0x17E),
    (0x1A0, 0x1A5), (0x1AF, 0x1B0), (0x1CD, 0x1DC), (0x1DE, 0x1EF), (0x1F8, 0x21F), (0x222, 0x233),
    (0x1E00, 0x1E95), (0x1EA0, 0x1EFF),
    (0x460, 0x481), (0x48A, 0x4BF), (0x4C1, 0x4CE), (0x4D0, 0x52F)]

/-- The code point that stands for one in a domain name. Those of other scripts have no rule here,
and there is no domain name with them. -/
def domainPoint? (n : Nat) : Option Nat :=
  match domainPairs.find? fun (low, high) => low ≤ n && n ≤ high with
  | some (low, _) => some (n + (n - low + 1) % 2)
  | none =>
      (domainRanges.find? fun (low, high, _) => low ≤ n && n ≤ high).map fun (low, _, first) =>
        first + (n - low)

/-- The character that stands for one in a domain name. -/
def domainChar? (c : Char) : Option Char :=
  (domainPoint? c.toNat).map Char.ofNat

/-- Whether a text is in ASCII. -/
def isAsciiText (s : List Char) : Bool :=
  s.all (·.toNat < 0x80)

/-- What labels in Punycode start with. -/
def punycodeMark : List Char := ['x', 'n', '-', '-']

/-- Whether a label may be written in Punycode: it is not in ASCII, its characters stand for
themselves, and it does not look like Punycode. -/
def isWritable (label : List Char) : Bool :=
  !isAsciiText label && label.all (fun c => domainChar? c == some c)
    && !punycodeMark.isPrefixOf label

/-- A label of a domain name in ASCII. One in Punycode has to be that of a label that is not. -/
def asciiLabel? (label : List Char) : Option (List Char) :=
  if isAsciiText label then
    if punycodeMark.isPrefixOf label then
      (ofPunycode? (label.drop 4)).bind fun text => if isWritable text then some label else none
    else some label
  else if isWritable label then some (punycodeMark ++ punycode label) else none

/-- Whether a character is in no domain name. -/
def isForbiddenInDomain (c : Char) : Bool :=
  isForbiddenInHost c || c == '%' || (c.toNat < 0x80 && !isPrintableAscii c)

/-- A domain name in ASCII. -/
def domainName? (s : List Char) : Option (List Char) := do
  let name ← s.mapM domainChar?
  if name.any isForbiddenInDomain then none
  else
    let labels ← (splitOn '.' name).mapM asciiLabel?
    return (joined "." (labels.map String.ofList)).toList

/-- The text of a host of a scheme with domain names. -/
def domainHost (s : List Char) : Except UrlProblem (List Char) :=
  if s.head? = some '[' then bracketedHost s
  else match domainName? (ofUtf8Lenient (percentDecode s)) with
    | none => .error .invalidDomain
    | some name =>
        if name.isEmpty then .error .emptyHost
        else if endsInNumber name then ipv4 name
        else .ok name

end EntitySql.Connection
