import EntitySql.Connection.Settings
import EntitySql.Proofs.Text.Cutting
import EntitySql.Proofs.Text.Digit
/-!
# Logins of addresses

The login of an address is all of its host part in front of the last at sign, and its first colon
ends the user. What stands behind the login is read without looking at it, except for whether there
is a user at all. So of the addresses of users with passwords in front of one text either all are
malformed, with one fault, or they differ in their logins only.

## Main definitions

* `loginAddress`: the text of an address with a user, a password and more behind the at sign.
* `IsWord`: letters and digits, which stand for themselves in a login.
* `IsAddress`: a text that is an address.

## Main results

* `cleaned_append`: visible characters in front of a text are left alone.
* `splitLogin_append`: an at sign inside the host part ends a login, or is part of it.
* `exists_readServer`: the text behind the login decides alone.
* `exists_read_loginAddress`: so it does for the whole address.
-/

namespace EntitySql.Connection

open EntitySql.Text

/-! ### Words -/

/-- A non-empty text of letters and digits. -/
structure IsWord (s : String) : Prop where
  nonempty : s ≠ ""
  alphanumeric : ∀ c ∈ s.toList, c.isAlphanum = true

/-- Letters and digits make a word, which is how concrete words are checked. -/
theorem IsWord.of_all {s : String} (nonempty : s ≠ "")
    (letters : s.toList.all Char.isAlphanum = true) : IsWord s :=
  ⟨nonempty, List.all_eq_true.mp letters⟩

/-- Letters and digits are in ASCII, so a class that holds those of ASCII holds them all. -/
theorem of_isAlphanum {p : Char → Bool}
    (ascii : ∀ n < 128, (Char.ofNat n).isAlphanum = true → p (Char.ofNat n) = true) {c : Char}
    (h : c.isAlphanum = true) : p c = true := by
  have small := toNat_lt_of_isAlphanum h
  rw [← Char.ofNat_toNat c] at h ⊢
  exact ascii c.toNat small h

/-- A letter or digit stands for itself in a login. -/
theorem keptInUser_of_isAlphanum {c : Char} (h : c.isAlphanum = true) : keptInUser c = true :=
  of_isAlphanum (by decide +kernel) h

/-- A letter or digit does not end the host part. -/
theorem endsHostPart_of_isAlphanum {c : Char} (h : c.isAlphanum = true) (kind : SchemeKind) :
    endsHostPart kind c = false := by
  have others : (c != '/' && c != '?' && c != '#' && c != '\\') = true :=
    of_isAlphanum (p := fun c => c != '/' && c != '?' && c != '#' && c != '\\')
      (by decide +kernel) h
  simp only [Bool.and_eq_true, bne_iff_ne] at others
  simp [endsHostPart, others.1.1.1, others.1.1.2, others.1.2, others.2]

/-! ### Cleaned texts -/

/-- What is left of a text that stands behind visible characters when the whole is cleaned. -/
def cleanedEnd (s : List Char) : List Char :=
  (trimRight (fun c => c.toNat ≤ 0x20) s).filter (!isIgnored ·)

/-- Visible characters in front of a text are left alone. -/
theorem cleaned_append {s : List Char} (nonempty : s ≠ []) (visible : ∀ c ∈ s, 0x20 < c.toNat)
    (t : List Char) : cleaned (s ++ t) = s ++ cleanedEnd t := by
  have outside {c : Char} (member : c ∈ s) : decide (c.toNat ≤ 0x20) = false := by
    simpa using visible c member
  have start : trimLeft (fun c => c.toNat ≤ 0x20) (s ++ t) = s ++ t := by
    obtain ⟨first, others, rfl⟩ := List.exists_cons_of_ne_nil nonempty
    exact List.dropWhile_cons_of_neg (by simp [outside List.mem_cons_self])
  have finish : trimRight (fun c => c.toNat ≤ 0x20) (s ++ t)
      = s ++ trimRight (fun c => c.toNat ≤ 0x20) t := by
    obtain ⟨others, last, rfl⟩ : ∃ others last, s = others ++ [last] :=
      ⟨_, _, (List.dropLast_concat_getLast nonempty).symm⟩
    rw [List.append_assoc, List.singleton_append,
      trimRight_append_stop (outside (List.mem_append_right _ List.mem_cons_self)),
      List.append_assoc, List.singleton_append]
  have kept : s.filter (!isIgnored ·) = s := by
    refine List.filter_eq_self.mpr fun c member => ?_
    have above := visible c member
    have other {d : Char} (low : d.toNat ≤ 0x20) : c ≠ d := by
      rintro rfl
      omega
    simp [isIgnored, other (d := '\t') (by decide), other (d := '\n') (by decide),
      other (d := '\r') (by decide)]
  rw [cleaned, trim, start, finish, List.filter_append, kept, cleanedEnd]

/-! ### Logins -/

/-- What of the text behind an at sign inside the host part belongs to the login all the same, and
what follows the login: another at sign may end the login. -/
def behindLogin (kind : SchemeKind) (s : List Char) : List Char × List Char :=
  match splitLast? '@' (s.takeWhile (!endsHostPart kind ·)) with
  | some (login, host) => ('@' :: login, host ++ s.dropWhile (!endsHostPart kind ·))
  | none => ([], s)

/-- A login ends at its at sign if no other one follows. -/
theorem behindLogin_of_notMem {kind : SchemeKind} {s : List Char} (absent : '@' ∉ s) :
    behindLogin kind s = ([], s) := by
  have front : '@' ∉ s.takeWhile (!endsHostPart kind ·) := fun member =>
    absent ((List.takeWhile_prefix _).subset member)
  rw [behindLogin, splitLast?_of_notMem front]

/-- An at sign inside the host part ends a login, or is part of it. -/
theorem splitLogin_append {kind : SchemeKind} {s : List Char}
    (inside : ∀ c ∈ s, endsHostPart kind c = false) (t : List Char) :
    splitLogin kind (s ++ '@' :: t)
      = (some (s ++ (behindLogin kind t).1), (behindLogin kind t).2) := by
  have login : ∀ c ∈ s ++ ['@'], (!endsHostPart kind c) = true := by
    intro c member
    rcases List.mem_append.mp member with front | last
    · simp [inside c front]
    · obtain rfl := List.mem_singleton.mp last
      cases kind <;> rfl
  have split : s ++ '@' :: t = (s ++ ['@']) ++ t := by simp
  rw [splitLogin, split, List.takeWhile_append_of_pos login, List.dropWhile_append_of_pos login,
    List.append_assoc, List.singleton_append, splitLast?_append, behindLogin]
  cases splitLast? '@' (t.takeWhile (!endsHostPart kind ·)) <;> simp

/-- The user ends at the first colon. -/
theorem splitUser_colon {user : List Char} (noColon : ':' ∉ user) (password : List Char) :
    splitUser (user ++ ':' :: password)
      = (percentEncode keptInUser user, percentEncode keptInUser password) := by
  rw [splitUser, splitFirst?_append noColon]

/-- Letters and digits in front of a colon are the user, and those behind it start the password. -/
theorem splitUser_append {user password : List Char} (hu : ∀ c ∈ user, c.isAlphanum = true)
    (hp : ∀ c ∈ password, c.isAlphanum = true) (more : List Char) :
    splitUser (user ++ ':' :: (password ++ more))
      = (user, password ++ percentEncode keptInUser more) := by
  have noColon : ':' ∉ user := fun member => absurd (hu ':' member) (by decide)
  have kept {word : List Char} (h : ∀ c ∈ word, c.isAlphanum = true) :
      percentEncode keptInUser word = word :=
    percentEncode_of_kept fun c member => keptInUser_of_isAlphanum (h c member)
  rw [splitUser_colon noColon, percentEncode_append, kept hu, kept hp]

/-! ### Servers -/

/-- **The text behind the login decides alone** whether there is a server and which, as long as
there is a user. -/
theorem exists_readServer (scheme : List Char) (kind : SchemeKind) (s : List Char) :
    ∃ outcome : Except UrlProblem Address, ∀ user password : List Char, user ≠ [] →
      readServer scheme kind user password s
        = outcome.map fun a => { a with scheme := scheme, user := user, password := password } := by
  refine ⟨readServer scheme kind [' '] [] s, fun user password some => ?_⟩
  have noted : user.isEmpty = false := by simpa using some
  simp only [readServer]
  cases hostOf kind (splitHost kind false s).1 with
  | error problem => rfl
  | ok host =>
      by_cases unnamed : host.isEmpty = true
      · simp [unnamed, noted, Except.map]
      · dsimp only
        rw [if_neg fun both => unnamed both.1, if_neg fun both => unnamed both.1]
        cases splitOptionalPort (splitHost kind false s).2 <;> rfl

/-! ### Addresses -/

/-- The text of the address of a user with a password, in front of more text. -/
def loginAddress (user password rest : String) : String :=
  "mssql://" ++ user ++ ":" ++ password ++ "@" ++ rest

/-- A text that is an address. -/
def IsAddress (s : String) : Prop :=
  ∃ a, Address.read s.toList = .ok a

/-- An address with a user and a password is written with both. -/
theorem Address.text_of_login {a : Address} (user : a.user ≠ []) (password : a.password ≠ []) :
    a.text = a.scheme ++ [':', '/', '/'] ++ ((a.user ++ ':' :: a.password) ++ '@' :: a.server) := by
  simp [Address.text, user, password]

/-- The characters of the address of a user with a password, up to the at sign. -/
def loginStart (user password : String) : List Char :=
  Settings.addressStart ++ ((user.toList ++ ':' :: password.toList) ++ ['@'])

/-- The characters of a login address: the part with the password, then the rest. -/
theorem toList_loginAddress (user password rest : String) :
    (loginAddress user password rest).toList = loginStart user password ++ rest.toList := by
  simp [loginAddress, loginStart, Settings.addressStart]

/-- A user and a password of letters and digits bring no other characters with them. -/
theorem isAlphanum_or_mark_of_mem_loginStart {user password : String} (hu : IsWord user)
    (hp : IsWord password) {c : Char} (member : c ∈ loginStart user password) :
    c.isAlphanum = true ∨ c ∈ [':', '/', '@'] := by
  have scheme : ∀ d ∈ Settings.addressStart, d.isAlphanum = true ∨ d ∈ [':', '/', '@'] := by
    have all : Settings.addressStart.all fun d => d.isAlphanum || [':', '/', '@'].contains d := by
      decide
    simpa using all
  simp only [loginStart, List.mem_append, List.mem_cons, List.not_mem_nil, or_false] at member
  rcases member with start | (inUser | colon | inPassword) | at_
  · exact scheme c start
  · exact .inl (hu.alphanumeric c inUser)
  · exact .inr (by simp [colon])
  · exact .inl (hp.alphanumeric c inPassword)
  · exact .inr (by simp [at_])

/-- What stands behind the slashes of the scheme is read as the host part. -/
theorem read_of_cleaned {s t : List Char} (clean : cleaned s = Settings.addressStart ++ t) :
    Address.read s = (readHostPart ['m', 's', 's', 'q', 'l'] .other t).map some := by
  rw [Address.read, clean]
  rfl

/-- **What follows the login decides alone** whether a text is an address and which, but for who
logs in. A login may go on behind the at sign. -/
theorem exists_read_loginAddress (rest : String) :
    ∃ (outcome : Except UrlProblem Address) (more : List Char), ∀ {user password : String},
      IsWord user → IsWord password →
      Address.read (loginAddress user password rest).toList = outcome.map fun a =>
        some { a with
          scheme := ['m', 's', 's', 'q', 'l']
          user := user.toList
          password := password.toList ++ more } := by
  obtain ⟨outcome, same⟩ := exists_readServer ['m', 's', 's', 'q', 'l'] .other
    (behindLogin .other (cleanedEnd rest.toList)).2
  refine ⟨outcome, percentEncode keptInUser (behindLogin .other (cleanedEnd rest.toList)).1,
    fun {user password} hu hp => ?_⟩
  have inside : ∀ c ∈ user.toList ++ ':' :: password.toList, endsHostPart .other c = false := by
    intro c member
    rcases List.mem_append.mp member with inUser | behind
    · exact endsHostPart_of_isAlphanum (hu.alphanumeric c inUser) .other
    · rcases List.mem_cons.mp behind with rfl | inPassword
      · rfl
      · exact endsHostPart_of_isAlphanum (hp.alphanumeric c inPassword) .other
  have visible : ∀ c ∈ loginStart user password, 0x20 < c.toNat := by
    have marks : ∀ c ∈ [':', '/', '@'], 0x20 < c.toNat := by simp
    intro c member
    rcases isAlphanum_or_mark_of_mem_loginStart hu hp member with letter | mark
    · exact of_decide_eq_true
        (of_isAlphanum (p := fun c => 0x20 < c.toNat) (by decide +kernel) letter)
    · exact marks c mark
  have clean : cleaned (loginAddress user password rest).toList = Settings.addressStart
      ++ ((user.toList ++ ':' :: password.toList) ++ '@' :: cleanedEnd rest.toList) := by
    rw [toList_loginAddress, cleaned_append (by simp [loginStart]) visible]
    simp [loginStart]
  have named : user.toList ≠ [] := fun none => hu.nonempty (String.toList_eq_nil_iff.mp none)
  have login : splitUser ((user.toList ++ ':' :: password.toList)
      ++ (behindLogin .other (cleanedEnd rest.toList)).1) = (user.toList, password.toList
        ++ percentEncode keptInUser (behindLogin .other (cleanedEnd rest.toList)).1) := by
    rw [List.append_assoc, List.cons_append]
    exact splitUser_append hu.alphanumeric hp.alphanumeric _
  rw [read_of_cleaned clean, readHostPart, splitLogin_append inside]
  dsimp only
  rw [if_neg (by simp), Option.getD_some, login, same _ _ named]
  cases outcome <;> rfl

end EntitySql.Connection
