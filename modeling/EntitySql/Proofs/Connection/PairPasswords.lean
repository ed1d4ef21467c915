import EntitySql.Proofs.Connection.Showing
/-!
# Passwords of pairs

A text of key-value pairs that gives a password has an entry whose key spells one of the names of
passwords, and everything around its value is read without looking at the value. Messages cut the
text at every semicolon, also inside quotes and braces, and look for the names as they are written.
So they hide a password up to its first semicolon, and show all of it if the name is spelled with
quotes or braces, or if the text starts like an address. An address of a known scheme may take it
for a part of its host or of its login, and it depends on the password whether it does.

## Main definitions

* `PasswordPlace`: a place for a password in a text of pairs, and the text with a value there.
* `PasswordPlace.Unschemed`, `PasswordPlace.Hostless`: texts that do not start like an address, and
  those that start like one without a host part.
* `PasswordPlace.Alike`: two passwords that are shown alike, by the way in which their texts are
  shown.

## Main results

* `PasswordPlace.exists_of_read`: every text of pairs that is accepted and gives a password has a
  place for it, and no mark of addresses.
* `PasswordPlace.read_list`: all texts of a place have the same pairs but for the password.
* `PasswordPlace.redactPairs_start`: what is shown of the pairs around the password.
* `PasswordPlace.redact_text_eq_iff_alike`, `PasswordPlace.redact_text_eq_iff`: when messages do not
  depend on the password.
-/

namespace EntitySql.Connection

open EntitySql.Text

variable {s : List Char}

/-! ### Starts of addresses -/

/-- What is left of a text that stands in front of visible characters when the whole is cleaned. -/
def cleanedStart (s : List Char) : List Char :=
  (trimLeft (fun c => c.toNat ≤ 0x20) s).filter (!isIgnored ·)

/-- The texts around an equals sign are cleaned one by one. -/
theorem cleaned_around (s t : List Char) :
    cleaned (s ++ '=' :: t) = cleanedStart s ++ '=' :: cleanedEnd t := by
  have visible : (decide ('='.toNat ≤ 0x20)) = false := by decide
  rw [cleaned, trim, trimLeft, dropWhile_append_stop visible, trimRight_append_stop visible,
    List.filter_append, List.filter_cons_of_pos (by decide), cleanedStart, trimLeft, cleanedEnd]

/-- A scheme stands in front of the first equals sign. -/
theorem splitScheme?_around (s t : List Char) : splitScheme? (s ++ '=' :: t)
    = (splitScheme? s).map fun (scheme, rest) => (scheme, rest ++ '=' :: t) := by
  have stop : isSchemeChar '=' = false := by decide
  cases s with
  | nil => rfl
  | cons first others =>
      rw [List.cons_append, splitScheme?, ← List.cons_append, dropWhile_append_stop stop,
        takeWhile_append_stop stop, splitScheme?]
      cases (first :: others).dropWhile isSchemeChar with
      | nil => rfl
      | cons mark rest =>
          by_cases colon : mark = ':'
          · subst colon
            by_cases letter : first.isAlpha = true <;> simp [letter]
          · simp [colon]

/-! ### Words of letters and digits -/

/-- Letters and digits are tokens of their own. -/
theorem tokens_of_isAlphanum (letters : ∀ c ∈ s, c.isAlphanum = true) :
    tokens s = .ok (s.map Token.atom) := by
  have plain {c : Char} (letter : c.isAlphanum = true) : ¬(c = '"' ∨ c = '\'') ∧ c ≠ '\x7b'
      ∧ isAscii c = true ∧ Token.ofChar c = .atom c :=
    of_decide_eq_true (of_isAlphanum (p := fun c => decide (¬(c = '"' ∨ c = '\'') ∧ c ≠ '\x7b'
      ∧ isAscii c = true ∧ Token.ofChar c = .atom c)) (by decide +kernel) letter)
  induction s with
  | nil => rfl
  | cons c rest ih =>
      obtain ⟨first, others⟩ := List.forall_mem_cons.mp letters
      obtain ⟨unquoted, unbraced, ascii, atom⟩ := plain first
      rw [tokens_cons unquoted unbraced ascii (ih others), atom, List.map_cons]

/-- A text of letters and digits spells itself. -/
def Spelling.ofLetters (s : String) (letters : s.toList.all Char.isAlphanum = true) :
    Spelling where
  text := s.toList
  parts := s.toList.map Token.atom
  read := tokens_of_isAlphanum (List.all_eq_true.mp letters)
  noSemicolon := by simp
  noEquals := by simp

/-! ### Places for passwords -/

/-- A place for a password in a text of key-value pairs: blanks, entries that end in semicolons, a
key that spells a name of passwords, and behind the value nothing, or a semicolon and more entries,
and blanks. -/
structure PasswordPlace where
  left : List Char
  before : List Entry
  key : Spelling
  behind? : Option (List Entry × Option Entry)
  right : List Char
  left_blank : ∀ c ∈ left, isBlank c = true
  right_blank : ∀ c ∈ right, isBlank c = true
  key_password : String.ofList (key.word.map Char.toLower) ∈ ["password", "pwd"]

namespace PasswordPlace

variable (p : PasswordPlace)

/-- The entry with a value for the password. -/
def entry (value : Spelling) : Entry where
  key := p.key
  value := value
  named := by
    intro none
    have named := p.key_password
    rw [none] at named
    exact absurd named (by decide)

/-- The entries behind that of the password. -/
def after : List Entry :=
  match p.behind? with
  | none => []
  | some (entries, last?) => entries ++ last?.toList

/-- The text of the entries behind that of the password. -/
def afterText : List Char :=
  match p.behind? with
  | none => []
  | some (entries, last?) => ';' :: listText entries last?

/-- The text in front of the equals sign of the password. -/
def start : List Char :=
  p.left ++ (closedText p.before ++ p.key.text)

/-- The text behind the password. -/
def rest : List Char :=
  p.afterText ++ p.right

/-- The text of the pairs with a value for the password. -/
def list (value : Spelling) : List Char :=
  closedText p.before ++ ((p.entry value).text ++ p.afterText)

/-- The text with a value for the password. -/
def text (value : Spelling) : String :=
  String.ofList (p.start ++ '=' :: (value.text ++ p.rest))

/-- The characters of the text are the pairs between the blanks. -/
theorem toList_text (value : Spelling) :
    (p.text value).toList = p.left ++ (p.list value ++ p.right) := by
  simp [text, start, rest, list, Entry.text, entry]

/-- **All texts of a place have the same pairs** but for the password. -/
theorem read_list (value : Spelling) : Pairs.read (p.list value)
    = .ok ((p.before ++ p.entry value :: p.after).map Entry.pair) := by
  cases behind : p.behind? with
  | none =>
      have whole : p.list value = listText p.before (some (p.entry value)) := by
        simp [list, afterText, behind, listText]
      rw [whole, Pairs.read_listText, after, behind]
      rfl
  | some others =>
      have whole : p.list value = listText (p.before ++ p.entry value :: others.1) others.2 := by
        rw [list, afterText, behind, listText_append, listText_cons]
      rw [whole, Pairs.read_listText, after, behind, List.append_assoc]
      rfl

/-- A text of pairs that is accepted is read as pairs, it does not have the mark of addresses, and
if one of the pairs is a password it has a place for it. -/
theorem exists_of_read {value : String} {settings : Settings}
    (accepted : Settings.read value = .ok settings)
    (other : ¬Settings.addressStart <+: trim isBlank value.toList) :
    ∃ ps, Pairs.read (trim isBlank value.toList) = .ok ps
      ∧ ¬schemeMark <:+: value.toList
      ∧ ∀ pair ∈ ps, pair.1 ∈ ["password", "pwd"] → ∃ (p : PasswordPlace) (password : Spelling),
        value = p.text password ∧ (p.entry password).pair = pair := by
  have unmarked := unmarked_of_read accepted other
  obtain ⟨ps, read⟩ : ∃ ps, Pairs.read (trim isBlank value.toList) = .ok ps := by
    rw [← List.isPrefixOf_iff_prefix] at other
    rw [Settings.read, if_neg other] at accepted
    split at accepted
    · cases accepted
    · split at accepted
      · rw [Settings.readPairs] at accepted
        split at accepted
        · cases accepted
        · exact ⟨_, ‹_›⟩
      · cases accepted
  refine ⟨ps, read, unmarked, fun pair member named => ?_⟩
  obtain ⟨entries, last?, whole, rfl⟩ := exists_listText read
  obtain ⟨e, among, rfl⟩ := List.mem_map.mp member
  obtain ⟨left, right, cut, left_blank, right_blank⟩ := exists_trim isBlank value.toList
  rw [whole] at cut
  rcases List.mem_append.mp among with closed | last
  · obtain ⟨before, behind, rfl⟩ := List.append_of_mem closed
    refine ⟨⟨left, before, e.key, some (behind, last?), right, left_blank, right_blank, named⟩,
      e.value, String.toList_inj.mp ?_, rfl⟩
    rw [cut, toList_text, listText_append, listText_cons]
    rfl
  · obtain rfl := Option.mem_toList.mp last
    refine ⟨⟨left, entries, e.key, none, right, left_blank, right_blank, named⟩,
      e.value, String.toList_inj.mp ?_, rfl⟩
    rw [cut, toList_text, listText, list]
    simp [afterText, entry]

/-! ### What messages show -/

/-- A place in a text that does not start like an address. -/
def Unschemed : Prop :=
  splitScheme? (cleanedStart p.start) = none

/-- A place in a text that starts like an address without a host part, of a scheme that is not
known. -/
def Hostless : Prop :=
  ∃ scheme rest, splitScheme? (cleanedStart p.start) = some (scheme, rest)
    ∧ SchemeKind.of scheme = .other ∧ ¬['/', '/'] <+: rest

/-- The key of a password has no mark of the grammar. -/
theorem notMem_key {mark : Char} (stop : mark = ';' ∨ mark = '=') : mark ∉ p.key.text := by
  intro member
  have visible : isBlank mark = false ∧ mark ∉ ['"', '\'', '\x7b', '\x7d'] := by
    rcases stop with rfl | rfl <;> decide
  have inWord : mark ∈ p.key.word :=
    mem_word p.key.read p.key.noSemicolon p.key.noEquals visible.1 visible.2 member
  have known := lower_mem_of_passwordName p.key_password inWord
  rcases stop with rfl | rfl <;> exact absurd known (by decide)

/-- The text in front of the key of the password. -/
def front : List Char :=
  p.left ++ closedText p.before

/-- A text in front of its key and from there on. -/
theorem start_append (t : List Char) :
    p.start ++ '=' :: t = p.front ++ (p.key.text ++ '=' :: t) := by
  simp [start, front]

/-- In front of the key stand blanks, which are shown, or entries that end in a semicolon. -/
theorem front_cases : (p.front = p.left ∧ redactPairs p.front = p.left)
    ∨ ∃ entries, p.front = entries ++ [';']
      ∧ redactPairs p.front = redactPairs entries ++ [';'] := by
  rcases List.eq_nil_or_concat p.before with none | ⟨others, last, some⟩
  · have absent {mark : Char} (visible : isBlank mark = false) : mark ∉ p.left := by
      intro member
      rw [p.left_blank mark member] at visible
      cases visible
    have alone : p.front = p.left := by
      rw [front, none]
      exact List.append_nil p.left
    rw [alone, redactPairs_of_notMem (absent (by decide)), redactPair,
      splitFirst?_of_notMem (absent (by decide))]
    exact .inl ⟨rfl, rfl⟩
  · have ended : p.front = (p.left ++ (closedText others ++ last.text)) ++ [';'] := by
      rw [front, some, List.concat_eq_append, closedText_append]
      simp [closedText]
    refine .inr ⟨_, ended, ?_⟩
    rw [ended, redactPairs_append]
    rfl

/-- What is shown behind the equals sign of the password. -/
def shownValue (t : List Char) : List Char :=
  (if isPasswordKey p.key.text then stars else firstPart t) ++ shownBehind t

/-- What is shown in front of the password does not depend on it. -/
theorem redactPairs_start (t : List Char) : redactPairs (p.start ++ '=' :: t)
    = redactPairs p.front ++ (p.key.text ++ '=' :: p.shownValue t) := by
  have noSemicolon := p.notMem_key (.inl rfl)
  have noEquals := p.notMem_key (.inr rfl)
  rcases p.front_cases with ⟨alone, shown⟩ | ⟨entries, ended, shown⟩
  · have absent {mark : Char} (visible : isBlank mark = false) (notMem : mark ∉ p.key.text) :
        mark ∉ p.left ++ p.key.text := by
      refine fun member => (List.mem_append.mp member).elim (fun blank => ?_) notMem
      rw [p.left_blank mark blank] at visible
      cases visible
    rw [start_append, shown, alone, ← List.append_assoc,
      redactPairs_key (absent (by decide) noSemicolon) (absent (by decide) noEquals),
      isPasswordKey_append p.left_blank, shownValue]
    simp
  · rw [start_append, shown, ended, List.append_assoc, List.singleton_append, redactPairs_append,
      redactPairs_key noSemicolon noEquals, shownValue]
    simp

/-- A text is what is shown of another one as pairs exactly if what stands in front of the password
is shown as it is, and the one password is written as the other one is shown. -/
theorem start_eq_redactPairs_iff {t u : List Char} :
    p.start ++ '=' :: t = redactPairs (p.start ++ '=' :: u)
      ↔ p.front = redactPairs p.front ∧ t = p.shownValue u := by
  rw [start_append, redactPairs_start]
  constructor
  · intro same
    rcases p.front_cases with ⟨alone, shown⟩ | ⟨entries, ended, shown⟩
    · rw [shown, alone, List.append_cancel_left_eq, List.append_cancel_left_eq] at same
      exact ⟨alone.trans shown.symm, (List.cons.inj same).2⟩
    · rw [shown, ended, List.append_assoc, List.append_assoc, List.singleton_append,
        List.singleton_append] at same
      obtain ⟨front, behind⟩ := redactPairs_append_inj same
      rw [List.append_cancel_left_eq] at behind
      exact ⟨by rw [shown, ended, ← front], (List.cons.inj behind).2⟩
  · rintro ⟨front, value⟩
    rw [← front, value]

variable {p} in
/-- A text that does not start like an address is shown as pairs. -/
theorem redact_of_unschemed (h : p.Unschemed) (value : Spelling) : redact (p.text value)
    = String.ofList (redactPairs (p.start ++ '=' :: (value.text ++ p.rest))) := by
  have malformed : ¬IsAddress (p.text value) := by
    rintro ⟨a, read⟩
    rw [text, String.toList_ofList, Address.read, cleaned_around, splitScheme?_around, h] at read
    cases read
  rw [redact_of_not_isAddress malformed, text, String.toList_ofList, if_pos (by simp)]

variable {p} in
/-- A text that starts like an address without a host part is shown as it is. -/
theorem redact_of_hostless (h : p.Hostless) (value : Spelling) : redact (p.text value)
    = p.text value := by
  obtain ⟨scheme, rest, front, kind, noSlashes⟩ := h
  have known : Address.read (p.text value).toList = .ok none := by
    rw [text, String.toList_ofList, Address.read, cleaned_around, splitScheme?_around, front]
    dsimp only [Option.map_some]
    rw [kind]
    split
    next web => cases web
    next behind _ same =>
      -- Slashes behind the scheme would stand in front of the equals sign already.
      refine absurd ?_ noSlashes
      rcases rest with _ | ⟨first, _ | ⟨second, others⟩⟩
      · simp at same
      · simp at same
      · simp only [List.cons_append, List.cons.injEq] at same
        obtain ⟨rfl, rfl, -⟩ := same
        exact ⟨others, rfl⟩
    next => rfl
    next file _ => cases file
    next file _ => cases file
  rw [redact, known]

/-- What is shown behind the equals sign of the password is known from its two parts. -/
theorem shownValue_eq_iff {t u : List Char} : p.shownValue t = p.shownValue u
    ↔ shownBehind t = shownBehind u
      ∧ (isPasswordKey p.key.text = true ∨ firstPart t = firstPart u) := by
  rw [shownValue, shownValue]
  by_cases named : isPasswordKey p.key.text = true
  · simp [named]
  · simp only [named, Bool.false_eq_true, if_false, false_or]
    rw [firstPart_append_shownBehind_inj, and_comm]

/-- One password is written as the other one is shown, and so is all in front of the two. -/
def WrittenAsShown (written shown : Spelling) : Prop :=
  p.front = redactPairs p.front ∧ written.text ++ p.rest = p.shownValue (shown.text ++ p.rest)

/-- **Two passwords are shown alike.** If both texts are shown as pairs, what is shown behind the
equals sign is the same. If both are shown as they are, the passwords are written alike. If both are
addresses with a password of their own, they have the same user and the same server. A text that is
shown as it is may by chance be what is shown of pairs. -/
def Alike (first second : Spelling) : Prop :=
  match showing (p.text first), showing (p.text second) with
  | .pairs, .pairs => p.shownValue (first.text ++ p.rest) = p.shownValue (second.text ++ p.rest)
  | .whole, .whole => first.text = second.text
  | .hidden a, .hidden b => a.user = b.user ∧ a.server = b.server
  | .whole, .pairs => p.WrittenAsShown first second
  | .pairs, .whole => p.WrittenAsShown second first
  | _, _ => False

/-- The addresses that the texts of a place are read as have one scheme. -/
theorem scheme_eq {first second : Spelling} {a b : Address}
    (left : Address.read (p.text first).toList = .ok (some a))
    (right : Address.read (p.text second).toList = .ok (some b)) : a.scheme = b.scheme := by
  obtain ⟨scheme, rest, cut, named, -⟩ := Address.of_read left
  obtain ⟨scheme', rest', cut', named', -⟩ := Address.of_read right
  rw [text, String.toList_ofList, cleaned_around, splitScheme?_around, Option.map_eq_some_iff]
    at cut cut'
  obtain ⟨x, front, same⟩ := cut
  obtain ⟨y, front', same'⟩ := cut'
  obtain rfl : x = y := Option.some.inj (front.symm.trans front')
  rw [named, named']
  exact (congrArg Prod.fst same).symm.trans (congrArg Prod.fst same')

/-- **Messages show two passwords alike exactly if they are alike** in the way in which the texts
are shown, if the mark of addresses does not stand in them. -/
theorem redact_text_eq_iff_alike {first second : Spelling}
    (unmarked : ¬schemeMark <:+: (p.text first).toList)
    (unmarked' : ¬schemeMark <:+: (p.text second).toList) :
    redact (p.text first) = redact (p.text second) ↔ p.Alike first second := by
  have written (value : Spelling) :
      (p.text value).toList = p.start ++ '=' :: (value.text ++ p.rest) := String.toList_ofList
  have equals (value : Spelling) : '=' ∈ (p.text value).toList := by simp [written]
  have hides {a : Address} {s : List Char} (plain : ¬schemeMark <:+: s) : s ≠ a.concealed.text :=
    fun same => plain (same ▸ a.infix_text_concealed)
  have pairs {value : Spelling} (plain : ¬schemeMark <:+: (p.text value).toList) :
      ¬schemeMark <:+: redactPairs (p.text value).toList :=
    mt infix_of_infix_redactPairs plain
  rw [Alike]
  cases left : showing (p.text first) with
  | pairs =>
      rw [redact_of_pairs left (equals first)]
      cases right : showing (p.text second) with
      | pairs =>
          rw [redact_of_pairs right (equals second), String.ofList_inj, written, written,
            redactPairs_start, redactPairs_start]
          simp
      | whole =>
          rw [redact_of_whole right, eq_comm, ← String.toList_inj, String.toList_ofList, written,
            written, start_eq_redactPairs_iff]
          rfl
      | hidden b =>
          rw [redact_of_hidden right, String.ofList_inj]
          exact iff_of_false (hides (pairs unmarked)) id
  | whole =>
      rw [redact_of_whole left]
      cases right : showing (p.text second) with
      | pairs =>
          rw [redact_of_pairs right (equals second), ← String.toList_inj, String.toList_ofList,
            written, written, start_eq_redactPairs_iff]
          rfl
      | whole =>
          rw [redact_of_whole right, text, text, String.ofList_inj]
          simp
      | hidden b =>
          rw [redact_of_hidden right, ← String.toList_inj, String.toList_ofList]
          exact iff_of_false (hides unmarked) id
  | hidden a =>
      rw [redact_of_hidden left]
      cases right : showing (p.text second) with
      | pairs =>
          rw [redact_of_pairs right (equals second), String.ofList_inj]
          exact iff_of_false (hides (pairs unmarked')).symm id
      | whole =>
          rw [redact_of_whole right, ← String.toList_inj, String.toList_ofList]
          exact iff_of_false (hides unmarked').symm id
      | hidden b =>
          obtain ⟨read, -⟩ := read_of_hidden left
          obtain ⟨read', -⟩ := read_of_hidden right
          obtain ⟨-, -, -, -, user⟩ := Address.of_read read
          obtain ⟨-, -, -, -, user'⟩ := Address.of_read read'
          rw [redact_of_hidden right, String.ofList_inj]
          exact Address.concealed_text_inj (p.scheme_eq read read') user user'

/-- **When messages do not depend on the password of a text of pairs.** If the text does not start
like an address, two passwords are shown alike exactly if they are from their first semicolon on
and, unless the key is written as a name of passwords, in front of it too. If it starts like an
address without a host part, they are shown alike exactly if they are written alike. In general it
is the way in which the texts are shown that says when they are alike, if they are without the mark
of addresses, as all texts of pairs are that are accepted (`exists_of_read`). All texts of a place
have the same pairs but for the password. -/
theorem redact_text_eq_iff (first second : Spelling) :
    (p.Unschemed → (redact (p.text first) = redact (p.text second)
        ↔ shownBehind (first.text ++ p.rest) = shownBehind (second.text ++ p.rest)
          ∧ (isPasswordKey p.key.text = true
            ∨ firstPart (first.text ++ p.rest) = firstPart (second.text ++ p.rest))))
      ∧ (p.Hostless → (redact (p.text first) = redact (p.text second) ↔ first.text = second.text))
      ∧ (¬schemeMark <:+: (p.text first).toList → ¬schemeMark <:+: (p.text second).toList →
        (redact (p.text first) = redact (p.text second) ↔ p.Alike first second))
      ∧ ∀ value : Spelling, Pairs.read (p.list value)
        = .ok ((p.before ++ p.entry value :: p.after).map Entry.pair) := by
  refine ⟨fun unschemed => ?_, fun hostless => ?_, p.redact_text_eq_iff_alike, p.read_list⟩
  · rw [redact_of_unschemed unschemed, redact_of_unschemed unschemed, String.ofList_inj,
      redactPairs_start, redactPairs_start, List.append_cancel_left_eq, List.append_cancel_left_eq,
      List.cons_inj_right, shownValue_eq_iff]
  · rw [redact_of_hostless hostless, redact_of_hostless hostless, text, text, String.ofList_inj]
    simp

-- The first key makes the text an address of a known scheme, whose host is all the pairs.
example : (Settings.read "http:db=1;Password=secret").isOk = true
    ∧ redact "http:db=1;Password=secret" = "http:db=1;Password=secret" := by
  decide +kernel

/-- Two passwords of letters behind a server are shown alike. -/
theorem redact_text_server : ∃ (p : PasswordPlace) (first second : Spelling),
    p.text first = "Server=db;Password=secret" ∧ p.text second = "Server=db;Password=hidden"
      ∧ p.Unschemed ∧ redact (p.text first) = redact (p.text second) := by
  let p : PasswordPlace :=
    { left := []
      before := [⟨.ofLetters "Server" (by decide), .ofLetters "db" (by decide), by decide⟩]
      key := .ofLetters "Password" (by decide)
      behind? := none
      right := []
      left_blank := by simp
      right_blank := by simp
      key_password := by decide }
  let first : Spelling := .ofLetters "secret" (by decide)
  let second : Spelling := .ofLetters "hidden" (by decide)
  have unschemed : p.Unschemed := by
    unfold PasswordPlace.Unschemed
    decide
  exact ⟨p, first, second, by decide +kernel, by decide +kernel, unschemed,
    ((p.redact_text_eq_iff first second).1 unschemed).mpr ⟨by decide, .inl (by decide)⟩⟩

end PasswordPlace

/-- Two passwords in quotes are shown from their first semicolon on. -/
theorem redact_quoted_semicolon_ne :
    (Settings.read "Server=db;Password=\"se;cret\"").isOk = true
      ∧ (Settings.read "Server=db;Password=\"se;same\"").isOk = true
      ∧ redact "Server=db;Password=\"se;cret\"" ≠ redact "Server=db;Password=\"se;same\"" := by
  decide +kernel

end EntitySql.Connection
