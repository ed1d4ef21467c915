import EntitySql.Proofs.Connection.Login
import EntitySql.Proofs.Text.Percent
/-!
# Servers of addresses

Behind its login an address has a host, perhaps a port behind a colon, a path, and a query behind a
question mark. Each part ends where the next one begins, as long as it holds none of the marks that
divide them. A host of letters, digits and hyphens is left as it is, a numeral is read as its
number, and a path that is one encoded name is neither encoded again nor resolved, unless the name
is a dot or two.

## Main definitions

* `IsHostName`: a name of letters, digits and hyphens.
* `portText`: the text of a port behind a host.

## Main results

* `splitHost_append`, `splitOptionalPort_append`: the host and the port.
* `pathOf_encoded`: the path of a name.
* `readServer_eq`: what is read behind a login.
-/

namespace EntitySql.Connection

open EntitySql.Text

/-! ### Hosts -/

/-- A non-empty name of letters, digits and hyphens. -/
structure IsHostName (s : String) : Prop where
  nonempty : s ≠ ""
  chars : ∀ c ∈ s.toList, c.isAlphanum = true ∨ c = '-'

/-- The characters of host names are some of those of encoded texts. -/
theorem IsHostName.isEncodedChar {s : String} (h : IsHostName s) {c : Char}
    (member : c ∈ s.toList) : isEncodedChar c = true := by
  rcases h.chars c member with letter | rfl
  · simp [Text.isEncodedChar, isUnreserved, letter]
  · rfl

variable {kind : SchemeKind} {host rest path query : List Char} {c : Char}

/-- A host ends in front of a colon or of what ends the host part. -/
theorem splitHost_append (inside : ∀ d ∈ host, endsHostPart kind d = false ∧ d ∉ [':', '['])
    (stop : endsHostPart kind c = true ∨ c = ':') :
    splitHost kind false (host ++ c :: rest) = (host, c :: rest) := by
  induction host with
  | nil =>
      have ends : (endsHostPart kind c || (c == ':' && !false)) = true := by simpa using stop
      rw [List.nil_append, splitHost, if_pos ends]
  | cons d host ih =>
      obtain ⟨⟨within, plain⟩, others⟩ := List.forall_mem_cons.mp inside
      simp only [List.mem_cons, List.not_mem_nil, or_false, not_or] at plain
      have goesOn : ¬(endsHostPart kind d || (d == ':' && !false)) = true := by
        simp [within, plain]
      have bracket : (if d == '[' then true else if d == ']' then false else false) = false := by
        simp [plain]
      rw [List.cons_append, splitHost, if_neg goesOn, bracket]
      simp only [ih others]

/-- A name without forbidden characters is a host as it is. -/
theorem namedHost_eq (plain : ∀ c ∈ host, isForbiddenInHost c = false ∧ isPrintableAscii c = true) :
    namedHost host = .ok host := by
  have noBracket : host.head? ≠ some '[' := by
    intro first
    have forbidden := (plain '[' (List.mem_of_head? first)).1
    simp [isForbiddenInHost] at forbidden
  have allowed : ¬host.any isForbiddenInHost = true := by
    rw [Bool.not_eq_true, List.any_eq_false]
    exact fun c member => by simp [(plain c member).1]
  rw [namedHost, if_neg noBracket, if_neg allowed,
    percentEncode_of_kept fun c member => (plain c member).2]

/-! ### Ports -/

/-- The text of a port behind a host. -/
def portText : Option Nat → String
  | none => ""
  | some n => ":" ++ natText n

/-- A port is written as a colon and its digits. -/
theorem toList_portText_some (n : Nat) : (portText (some n)).toList = ':' :: numeral n := by
  simp [portText, natText, String.toList_append]

/-- A numeral is read as the number of a port, up to the largest one. -/
theorem splitPort_numeral {n : Nat} (fits : n ≤ 65535) (rest : List Char) :
    splitPort none (numeral n ++ rest) = splitPort (some n) rest := by
  fun_induction numeral n generalizing rest with
  | case1 n small =>
      rw [List.singleton_append, splitPort, digitValue?_digit small]
      simp [show ¬65535 < n by omega]
  | case2 n large ih =>
      have last : n % 10 < 10 := Nat.mod_lt n (by decide)
      have whole : 10 * (n / 10) + n % 10 = n := Nat.div_add_mod n 10
      rw [List.append_assoc, ih (by omega), List.singleton_append, splitPort,
        digitValue?_digit last]
      simp only [Option.getD_some, whole]
      rw [if_neg (by omega)]

/-- The port in front of a path. -/
theorem splitOptionalPort_append {port : Option Nat} (fits : ∀ n ∈ port, n ≤ 65535) :
    splitOptionalPort ((portText port).toList ++ '/' :: rest) = .ok (port, '/' :: rest) := by
  cases port with
  | none => rfl
  | some n =>
      rw [toList_portText_some, List.cons_append, splitOptionalPort, splitPort_numeral (fits n rfl)]
      rfl

/-! ### Paths -/

/-- A dot, written as it is or encoded, decodes to one. -/
theorem percentDecode_dot_append {segment : List Char}
    (chars : ∀ c ∈ segment, isEncodedChar c = true)
    (dot : segment.map Char.toLower = ['.'] ∨ segment.map Char.toLower = ['%', '2', 'e'])
    (rest : List Char) : percentDecode (segment ++ rest) = utf8 ['.'] ++ percentDecode rest := by
  have cases {c d : Char} (encoded : isEncodedChar c = true) (lower : c.toLower = d) :
      c = d ∨ c = d.toUpper := by
    have all : (c == c.toLower || c == c.toLower.toUpper) = true :=
      of_isEncodedChar (p := fun c => c == c.toLower || c == c.toLower.toUpper)
        (by decide +kernel) encoded
    simpa [lower] using all
  rcases dot with plain | encoded
  · obtain ⟨c, others, rfl, lower, none⟩ := List.map_eq_cons_iff.mp plain
    obtain rfl := List.map_eq_nil_iff.mp none
    rcases cases (chars c (by simp)) lower with rfl | rfl <;> rfl
  · obtain ⟨c, others, rfl, lower, behind⟩ := List.map_eq_cons_iff.mp encoded
    obtain ⟨d, others, rfl, lower', behind⟩ := List.map_eq_cons_iff.mp behind
    obtain ⟨e, others, rfl, lower'', none⟩ := List.map_eq_cons_iff.mp behind
    obtain rfl := List.map_eq_nil_iff.mp none
    rcases cases (chars c (by simp)) lower with rfl | rfl <;>
      rcases cases (chars d (by simp)) lower' with rfl | rfl <;>
        rcases cases (chars e (by simp)) lower'' with rfl | rfl <;> rfl

/-- What is encoded is a dot only as the encoding of one. -/
theorem isDot_eq_false {name : List Char} (encoded : EncodedAs name path) (other : name ≠ ['.']) :
    isDot path = false := by
  rw [isDot, decide_eq_false_iff_not]
  intro dot
  have lower : path.map Char.toLower = ['.'] ∨ path.map Char.toLower = ['%', '2', 'e'] := by
    simpa [← String.toList_inj] using dot
  have decoded := percentDecode_dot_append encoded.chars lower []
  rw [List.append_nil, encoded.decode, percentDecode, List.append_nil] at decoded
  exact other (utf8_injective decoded)

/-- What is encoded is two dots only as the encoding of them. -/
theorem isDoubleDot_eq_false {name : List Char} (encoded : EncodedAs name path)
    (other : name ≠ ['.', '.']) : isDoubleDot path = false := by
  rw [isDoubleDot, decide_eq_false_iff_not]
  intro dots
  have lower : ∃ first second : List Char, path.map Char.toLower = first ++ second
      ∧ (first = ['.'] ∨ first = ['%', '2', 'e'])
      ∧ (second = ['.'] ∨ second = ['%', '2', 'e']) := by
    have forms : path.map Char.toLower = ['.'] ++ ['.']
        ∨ path.map Char.toLower = ['.'] ++ ['%', '2', 'e']
        ∨ path.map Char.toLower = ['%', '2', 'e'] ++ ['.']
        ∨ path.map Char.toLower = ['%', '2', 'e'] ++ ['%', '2', 'e'] := by
      simpa [← String.toList_inj] using dots
    rcases forms with h | h | h | h <;> exact ⟨_, _, h, by simp, by simp⟩
  obtain ⟨first, second, whole, dot, dot'⟩ := lower
  obtain ⟨front, behind, rfl, rfl, rfl⟩ := List.map_eq_append_iff.mp whole
  obtain ⟨chars, chars'⟩ := List.forall_mem_append.mp encoded.chars
  have decoded := percentDecode_dot_append chars dot behind
  have last := percentDecode_dot_append chars' dot' []
  rw [List.append_nil, percentDecode, List.append_nil] at last
  rw [encoded.decode, last, ← utf8_append] at decoded
  exact other (utf8_injective decoded)

/-- **The path of an encoded name** is the name behind a slash. -/
theorem pathOf_encoded {name : List Char} (encoded : EncodedAs name path)
    (dot : name ≠ ['.']) (dots : name ≠ ['.', '.']) :
    pathOf .other ('/' :: path) = '/' :: path := by
  have one : splitOn '/' path = [path] := splitOn_of_notMem (encoded.notMem rfl)
  have kept : percentEncode keptInPath path = path := encoded.percentEncode_eq (by decide +kernel)
  simp [pathOf, SchemeKind.isSpecial, one, resolve, isDot_eq_false encoded dot,
    isDoubleDot_eq_false encoded dots, kept]

/-! ### Behind the login -/

/-- A path ends in front of a question mark, and there is no fragment without a hash. -/
theorem splitTail_append (noHash : '#' ∉ path ++ '?' :: query) (noMark : '?' ∉ path) :
    splitTail (path ++ '?' :: query) = (path, some query, none) := by
  rw [splitTail, splitFirst?_of_notMem noHash]
  simp only [splitFirst?_append noMark]

/-- **What is read behind a login**: a host name, perhaps a port, an encoded name for a path, and a
query without marks. -/
theorem readServer_eq {server : String} (named : IsHostName server) {port : Option Nat}
    (fits : ∀ n ∈ port, n ≤ 65535) {name : List Char} (encoded : EncodedAs name path)
    (dot : name ≠ ['.']) (dots : name ≠ ['.', '.'])
    (plain : ∀ c ∈ query, isEncodedChar c = true ∨ c = '=') (user password : List Char) :
    readServer ['m', 's', 's', 'q', 'l'] .other user password
        (server.toList ++ ((portText port).toList ++ '/' :: (path ++ '?' :: query)))
      = .ok
          { scheme := ['m', 's', 's', 'q', 'l']
            user := user
            password := password
            host := server.toList
            port := port
            path := '/' :: path
            query := some query
            fragment := none } := by
  have inside : ∀ c ∈ server.toList, endsHostPart .other c = false ∧ c ∉ [':', '['] := by
    intro c member
    have all : (!endsHostPart .other c && c != ':' && c != '[') = true :=
      of_isEncodedChar (p := fun c => !endsHostPart .other c && c != ':' && c != '[')
        (by decide +kernel) (named.isEncodedChar member)
    simpa [and_assoc] using all
  have allowed : ∀ c ∈ server.toList,
      isForbiddenInHost c = false ∧ isPrintableAscii c = true := by
    intro c member
    have all : (!isForbiddenInHost c && isPrintableAscii c) = true :=
      of_isEncodedChar (p := fun c => !isForbiddenInHost c && isPrintableAscii c)
        (by decide +kernel) (named.isEncodedChar member)
    simpa using all
  have split : splitHost .other false
      (server.toList ++ ((portText port).toList ++ '/' :: (path ++ '?' :: query)))
        = (server.toList, (portText port).toList ++ '/' :: (path ++ '?' :: query)) := by
    cases port with
    | none => exact splitHost_append inside (.inl rfl)
    | some n =>
        rw [toList_portText_some]
        exact splitHost_append inside (.inr rfl)
  have known : hostOf .other server.toList = .ok server.toList := namedHost_eq allowed
  have hosted : server.toList.isEmpty = false := by simpa using named.nonempty
  have kept : percentEncode (keptInQuery .other) query = query := by
    refine percentEncode_of_kept fun c member => ?_
    rcases plain c member with char | rfl
    · exact of_isEncodedChar (by decide +kernel) char
    · rfl
  have tail : splitTail ('/' :: path ++ '?' :: query) = ('/' :: path, some query, none) := by
    have noMark : '?' ∉ path := encoded.notMem rfl
    have noHash : '#' ∉ path := encoded.notMem rfl
    have noHash' : '#' ∉ query := fun member => absurd (plain '#' member) (by decide)
    exact splitTail_append (by simp [noHash, noHash']) (by simp [noMark])
  simp only [readServer, split, known, hosted, Bool.false_eq_true, false_and, if_false,
    splitOptionalPort_append fits, Except.map, withTail]
  rw [← List.cons_append, tail]
  simp [pathOf_encoded encoded dot dots, kept]

end EntitySql.Connection
