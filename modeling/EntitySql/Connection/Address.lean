import EntitySql.Connection.Host
import EntitySql.Text.Blank
/-!
# Addresses

An address is a scheme and, behind two slashes, a host with an optional user and port, then a
path, a query and a fragment. Reading one drops tabs and line ends, resolves the dot segments of
the path and percent-encodes every character that has no place in its part. The schemes that
browsers know treat backslashes as slashes, have default ports that are left out, and have domain
names as hosts.

An address may also have no host part at all. Such an address has no password, and nothing else
is known about it here.

## Main definitions

* `Address`: the parts of an address with a host part, as they are written.
* `Address.read`: the address that a text is, or what is wrong with it.
* `Address.text`: the text of an address.
-/

namespace EntitySql.Connection

open EntitySql.Text

/-- The parts of an address, percent-encoded. -/
structure Address where
  scheme : List Char
  user : List Char
  /-- Empty if there is none. -/
  password : List Char
  /-- Empty if there is none. -/
  host : List Char
  port : Option Nat
  path : List Char
  query : Option (List Char)
  fragment : Option (List Char)
  deriving DecidableEq, Repr

/-- The text of an address behind its login. -/
def Address.server (a : Address) : List Char :=
  a.host
    ++ (match a.port with | none => [] | some n => ':' :: numeral n)
    ++ a.path
    ++ (match a.query with | none => [] | some q => '?' :: q)
    ++ (match a.fragment with | none => [] | some f => '#' :: f)

/-- The text of an address. -/
def Address.text (a : Address) : List Char :=
  a.scheme ++ [':', '/', '/'] ++ a.user
    ++ (if a.password.isEmpty then [] else ':' :: a.password)
    ++ (if a.user.isEmpty && a.password.isEmpty then [] else ['@'])
    ++ a.server

/-! ### Schemes -/

/-- The kinds of scheme. -/
inductive SchemeKind where
  | file
  /-- A scheme with domain names, and its port. -/
  | web (defaultPort : Nat)
  | other
  deriving DecidableEq, Repr

/-- The kind of a scheme in lower case. -/
def SchemeKind.of (scheme : List Char) : SchemeKind :=
  match String.ofList scheme with
  | "file" => .file
  | "http" | "ws" => .web 80
  | "https" | "wss" => .web 443
  | "ftp" => .web 21
  | _ => .other

/-- Whether backslashes are slashes. -/
def SchemeKind.isSpecial : SchemeKind → Bool
  | .other => false
  | _ => true

/-- Whether a character may stand in a scheme behind its first letter. -/
def isSchemeChar (c : Char) : Bool :=
  c.isAlphanum || c == '+' || c == '-' || c == '.'

/-- The scheme at the front of a text, in lower case, and what follows its colon. -/
def splitScheme? (s : List Char) : Option (List Char × List Char) :=
  match s with
  | [] => none
  | first :: _ =>
      match s.dropWhile isSchemeChar with
      | ':' :: rest =>
          if first.isAlpha then some ((s.takeWhile isSchemeChar).map Char.toLower, rest) else none
      | _ => none

/-! ### Users -/

/-- Whether a slash, a question mark or a hash ends the host part. -/
def endsHostPart (kind : SchemeKind) (c : Char) : Bool :=
  c == '/' || c == '?' || c == '#' || (kind.isSpecial && c == '\\')

/-- Whether a character of a user or a password stays as it is. -/
def keptInUser (c : Char) : Bool :=
  isPrintableAscii c
    && !(c ∈ [' ', '"', '<', '>', '`', '#', '?', '\x7b', '\x7d', '/', ':', ';', '=', '@', '[', '\\',
      ']', '^', '|'])

/-- The encoded user and password of the text in front of the at sign. -/
def splitUser (s : List Char) : List Char × List Char :=
  match splitFirst? ':' s with
  | none => (percentEncode keptInUser s, [])
  | some (user, password) => (percentEncode keptInUser user, percentEncode keptInUser password)

/-! ### Hosts and ports -/

/-- The text of a host at the front of the rest of an address, and what follows it. A colon inside
brackets belongs to the host. -/
def splitHost (kind : SchemeKind) : (bracketed : Bool) → List Char → List Char × List Char
  | _, [] => ([], [])
  | bracketed, c :: rest =>
      if endsHostPart kind c || (c == ':' && !bracketed) then ([], c :: rest)
      else
        let inside := if c == '[' then true else if c == ']' then false else bracketed
        let (host, behind) := splitHost kind inside rest
        (c :: host, behind)

/-- The port at the front of the rest of an address, and what follows it. -/
def splitPort (port : Option Nat) : List Char → Except UrlProblem (Option Nat × List Char)
  | [] => .ok (port, [])
  | c :: rest =>
      match digitValue? c with
      | some d =>
          let value := 10 * port.getD 0 + d
          if 65535 < value then .error .invalidPort else splitPort (some value) rest
      | none =>
          if c == '/' || c == '\\' || c == '?' || c == '#' then .ok (port, c :: rest)
          else .error .invalidPort

/-- The host of a kind of scheme. -/
def hostOf (kind : SchemeKind) (s : List Char) : Except UrlProblem (List Char) :=
  match kind with
  | .other => namedHost s
  | _ => if s.isEmpty then .error .emptyHost else domainHost s

/-! ### Paths -/

/-- Whether a character of a path stays as it is. -/
def keptInPath (c : Char) : Bool :=
  isPrintableAscii c && !(c ∈ [' ', '"', '<', '>', '`', '#', '?', '\x7b', '\x7d'])

/-- Whether a character of a query stays as it is. -/
def keptInQuery (kind : SchemeKind) (c : Char) : Bool :=
  isPrintableAscii c && !(c ∈ [' ', '"', '#', '<', '>']) && !(kind.isSpecial && c == '\'')

/-- Whether a character of a fragment stays as it is. -/
def keptInFragment (c : Char) : Bool :=
  isPrintableAscii c && !(c ∈ [' ', '"', '<', '>', '`'])

/-- Whether a segment is the dot, written as it is or percent-encoded. -/
def isDot (segment : List Char) : Bool :=
  String.ofList (segment.map Char.toLower) ∈ [".", "%2e"]

/-- Whether a segment is the double dot, written as it is or percent-encoded. -/
def isDoubleDot (segment : List Char) : Bool :=
  String.ofList (segment.map Char.toLower) ∈ ["..", ".%2e", "%2e.", "%2e%2e"]

/-- Whether a text is a letter and a colon or a bar, the name of a drive. -/
def isDrive : List Char → Bool
  | [letter, mark] => letter.isAlpha && (mark == ':' || mark == '|')
  | _ => false

/-- The segments that a double dot leaves of those resolved so far, which come last one first. The
name of a drive is never taken back. -/
def takeBack : List (List Char) → List (List Char)
  | [] => []
  | last :: done => if isDrive last then last :: done else done

/-- The segments of a path behind those resolved so far, which come last one first. A dot stands
for nothing and a double dot takes the last segment back; at the end of the path both leave an
empty segment. -/
def resolve (done : List (List Char)) : List (List Char) → List (List Char)
  | [] => done.reverse
  | [segment] =>
      if isDoubleDot segment then (([] : List Char) :: takeBack done).reverse
      else if isDot segment then (([] : List Char) :: done).reverse
      else (percentEncode keptInPath segment :: done).reverse
  | segment :: next :: rest =>
      if isDoubleDot segment then resolve (takeBack done) (next :: rest)
      else if isDot segment then resolve done (next :: rest)
      else resolve (percentEncode keptInPath segment :: done) (next :: rest)

/-- The path of the text between the host part and the query. -/
def pathOf (kind : SchemeKind) (s : List Char) : List Char :=
  let s := if kind.isSpecial then s.map fun c => if c = '\\' then '/' else c else s
  match s with
  | [] => if kind.isSpecial then ['/'] else []
  | c :: rest =>
      let behind := if c = '/' then rest else s
      (resolve [] (splitOn '/' behind)).flatMap fun segment => '/' :: segment

/-! ### Reading -/

/-- Whether a character is dropped wherever it stands. -/
def isIgnored (c : Char) : Bool :=
  c == '\t' || c == '\n' || c == '\r'

/-- The text without control characters and spaces at its ends and without tabs and line ends. -/
def cleaned (s : List Char) : List Char :=
  (trim (fun c => c.toNat ≤ 0x20) s).filter (!isIgnored ·)

/-- The path, the query and the fragment of the rest of an address, as they are. -/
def splitTail (s : List Char) : List Char × Option (List Char) × Option (List Char) :=
  let (front, fragment) := match splitFirst? '#' s with
    | some (front, fragment) => (front, some fragment)
    | none => (s, none)
  match splitFirst? '?' front with
  | some (path, query) => (path, some query, fragment)
  | none => (front, none, fragment)

/-- The text of the login, in front of the last at sign of the host part if it has one, and what
follows it. -/
def splitLogin (kind : SchemeKind) (s : List Char) : Option (List Char) × List Char :=
  match splitLast? '@' (s.takeWhile (!endsHostPart kind ·)) with
  | some (login, host) => (some login, host ++ s.dropWhile (!endsHostPart kind ·))
  | none => (none, s)

/-- The port behind a host, if a colon follows the host, and what follows it. -/
def splitOptionalPort : List Char → Except UrlProblem (Option Nat × List Char)
  | ':' :: rest => splitPort none rest
  | rest => .ok (none, rest)

/-- The address with a login, a host, a port and the text behind them. -/
def withTail (scheme : List Char) (kind : SchemeKind) (user password host : List Char)
    (port : Option Nat) (s : List Char) : Address :=
  let (path, query, fragment) := splitTail s
  { scheme := scheme
    user := user
    password := password
    host := host
    port := if kind = .web (port.getD 0) then none else port
    path := pathOf kind path
    query := query.map (percentEncode (keptInQuery kind))
    fragment := fragment.map (percentEncode keptInFragment) }

/-- The address with the text behind its login. -/
def readServer (scheme : List Char) (kind : SchemeKind) (user password s : List Char) :
    Except UrlProblem Address :=
  let (hostText, rest) := splitHost kind false s
  match hostOf kind hostText with
  | .error problem => .error problem
  | .ok host =>
      if host.isEmpty ∧ (rest.head? = some ':' ∨ !user.isEmpty ∨ !password.isEmpty) then
        .error .emptyHost
      else
        (splitOptionalPort rest).map fun (port, tail) =>
          withTail scheme kind user password host port tail

/-- The address of a scheme with the text behind its slashes. -/
def readHostPart (scheme : List Char) (kind : SchemeKind) (s : List Char) :
    Except UrlProblem Address :=
  let (login, rest) := splitLogin kind s
  if login = some [] ∧ (rest.head?.map (endsHostPart kind)) = some true then .error .emptyHost
  else
    let (user, password) := splitUser (login.getD [])
    readServer scheme kind user password rest

/-- Whether the host of a file address is one. -/
def checkFileHost (s : List Char) : Except UrlProblem Unit :=
  let host := s.takeWhile (!endsHostPart .file ·)
  if host.isEmpty || isDrive host then .ok () else (domainHost host).map fun _ => ()

/-- The address that a text is; `none` if it is one without a host part that could hold a
password. -/
def Address.read (text : List Char) : Except UrlProblem (Option Address) :=
  match splitScheme? (cleaned text) with
  | none => .error .noScheme
  | some (scheme, rest) =>
      let kind := SchemeKind.of scheme
      match kind, rest with
      | .web _, _ =>
          (readHostPart scheme kind (rest.dropWhile fun c => c == '/' || c == '\\')).map some
      | .other, '/' :: '/' :: rest => (readHostPart scheme kind rest).map some
      | .other, _ => .ok none
      | .file, a :: b :: rest =>
          if (a == '/' || a == '\\') && (b == '/' || b == '\\') then
            (checkFileHost rest).map fun _ => none
          else .ok none
      | .file, _ => .ok none

end EntitySql.Connection
