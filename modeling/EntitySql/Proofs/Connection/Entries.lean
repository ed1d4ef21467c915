import EntitySql.Proofs.Connection.Tokens
/-!
# The grammar of key-value pairs

What is read as key-value pairs is a list of entries: a key, an equals sign and a value, where the
key spells a word that is not empty and the value any word. Every entry but the last ends in a
semicolon, and the last may. This holds in both directions, so that each pair is found in the text
again, as an entry with texts in front of it and behind it that are read on their own.

## Main definitions

* `Spelling`: a text that spells a word.
* `Entry`: an entry of a list, its text and its pair.
* `closedText`, `listText`: the texts of lists of entries.

## Main results

* `read_listText`: entries are read as their pairs.
* `Pairs.read_eq_ok_iff`: what is read as pairs is a list of entries, and what each pair is of.
-/

namespace EntitySql.Connection

open EntitySql.Text

variable {s t : List Char} {ts us rest : List Token} {p : String × String} {ps : Pairs}

/-! ### Entries -/

/-- A text that spells a word: what stands outside quotes and braces has no semicolon and no equals
sign. -/
structure Spelling where
  text : List Char
  parts : List Token
  read : tokens text = .ok parts
  noSemicolon : Token.semicolon ∉ parts
  noEquals : Token.equals ∉ parts

/-- The word that a text spells. -/
def Spelling.word (s : Spelling) : List Char :=
  (Connection.word s.parts).1

/-- A key and a value as they are spelled. -/
structure Entry where
  key : Spelling
  value : Spelling
  named : key.word ≠ []

namespace Entry

/-- The text of an entry. -/
def text (e : Entry) : List Char :=
  e.key.text ++ '=' :: e.value.text

/-- The pair that an entry is read as. -/
def pair (e : Entry) : String × String :=
  pairOf e.key.word e.value.word

end Entry

/-- The text of entries that end in semicolons. -/
def closedText (entries : List Entry) : List Char :=
  entries.flatMap fun e => e.text ++ [';']

/-- The text of entries that end in semicolons and of a last one that does not. -/
def listText (entries : List Entry) (last? : Option Entry) : List Char :=
  closedText entries ++ (last?.map Entry.text).getD []

/-- Closed entries side by side are the closed texts side by side. -/
theorem closedText_append (entries others : List Entry) :
    closedText (entries ++ others) = closedText entries ++ closedText others :=
  List.flatMap_append

/-- A list is written as its first entries, all closed, and the rest as a list. -/
theorem listText_append (entries others : List Entry) (last? : Option Entry) :
    listText (entries ++ others) last? = closedText entries ++ listText others last? := by
  rw [listText, closedText_append, List.append_assoc, listText]

/-- The first entry of a list is closed, whatever comes behind it. -/
theorem listText_cons (e : Entry) (entries : List Entry) (last? : Option Entry) :
    listText (e :: entries) last? = e.text ++ ';' :: listText entries last? := by
  simp [listText, closedText]

/-! ### Reading entries -/

/-- A text that spells a word is read on its own in front of a semicolon or an equals sign. -/
theorem Spelling.tokens_append (w : Spelling) {mark : Char} (stop : mark = ';' ∨ mark = '=')
    (behind : tokens t = .ok us) :
    tokens (w.text ++ mark :: t) = .ok (w.parts ++ Token.ofChar mark :: us) := by
  have unquoted : ¬(mark = '"' ∨ mark = '\'') := by rcases stop with rfl | rfl <;> decide
  have unbraced : mark ≠ '\x7b' := by rcases stop with rfl | rfl <;> decide
  have ascii : isAscii mark = true := by rcases stop with rfl | rfl <;> decide
  exact Connection.tokens_append w.read unquoted (tokens_cons unquoted unbraced ascii behind)

/-- The pair at the front of tokens is that of the entry whose tokens they start with. -/
theorem firstPair_append (e : Entry) (ends : us = [] ∧ rest = [] ∨ us = .semicolon :: rest) :
    firstPair (e.key.parts ++ .equals :: (e.value.parts ++ us)) = .ok (e.pair, rest) := by
  have key : word (e.key.parts ++ .equals :: (e.value.parts ++ us))
      = (e.key.word, .equals :: (e.value.parts ++ us)) :=
    word_append e.key.noSemicolon e.key.noEquals (by rintro _ ⟨⟩; exact .inr rfl)
  have value : word (e.value.parts ++ us) = (e.value.word, us) := by
    refine word_append e.value.noSemicolon e.value.noEquals ?_
    rcases ends with ⟨rfl, -⟩ | rfl
    · rintro _ ⟨⟩
    · rintro _ ⟨⟩
      exact .inl rfl
  have named : ¬e.key.word.isEmpty = true := by simpa using e.named
  rw [firstPair, key, if_neg named]
  dsimp only
  rw [value]
  rcases ends with ⟨rfl, rfl⟩ | rfl <;> rfl

/-- No tokens hold no pairs. -/
theorem pairsOf_nil : pairsOf [] = .ok [] := by
  rw [pairsOf]
  rfl

/-- Pairs are read one by one. -/
theorem pairsOf_eq_ok_cons_iff : pairsOf ts = .ok (p :: ps)
    ↔ ∃ rest, firstPair ts = .ok (p, rest) ∧ pairsOf rest = .ok ps := by
  rw [pairsOf]
  constructor
  · intro read
    split at read
    · cases read
    · split at read
      · cases read
      · rename_i first rest front
        cases behind : pairsOf rest with
        | error problem => simp [behind, Except.map] at read
        | ok others =>
            rw [behind] at read
            obtain ⟨rfl, rfl⟩ := List.cons.inj (Except.ok.inj read)
            exact ⟨rest, front, behind⟩
  · rintro ⟨rest, front, behind⟩
    have some : ¬ts.isEmpty = true := by
      intro none
      rw [List.isEmpty_iff.mp none] at front
      cases front
    rw [if_neg some]
    split
    · rename_i problem fault
      rw [front] at fault
      cases fault
    · rename_i first others front'
      obtain ⟨rfl, rfl⟩ := Prod.mk.inj (Except.ok.inj (front.symm.trans front'))
      rw [behind]
      rfl

/-- Only no tokens at all hold no pairs. -/
theorem pairsOf_eq_ok_nil (none : pairsOf ts = .ok []) : ts = [] := by
  rw [pairsOf] at none
  split at none
  · exact List.isEmpty_iff.mp ‹_›
  · split at none
    · cases none
    · rename_i rest front
      cases behind : pairsOf rest <;> simp [behind, Except.map] at none

/-- An entry in front of a semicolon is read as a pair in front of the others. -/
theorem Pairs.read_entry_append (e : Entry) (read : Pairs.read t = .ok ps) :
    Pairs.read (e.text ++ ';' :: t) = .ok (e.pair :: ps) := by
  obtain ⟨us, parts, pairs⟩ := bind_eq_ok_iff.mp read
  have all : tokens (e.text ++ ';' :: t)
      = .ok (e.key.parts ++ .equals :: (e.value.parts ++ .semicolon :: us)) := by
    rw [Entry.text, List.append_assoc, List.cons_append]
    exact e.key.tokens_append (.inr rfl) (e.value.tokens_append (.inl rfl) parts)
  rw [Pairs.read, all]
  exact pairsOf_eq_ok_cons_iff.mpr ⟨us, firstPair_append e (.inr rfl), pairs⟩

/-- The last entry may have no semicolon. -/
theorem Pairs.read_entry (e : Entry) : Pairs.read e.text = .ok [e.pair] := by
  have all : tokens e.text = .ok (e.key.parts ++ .equals :: (e.value.parts ++ [])) := by
    rw [List.append_nil]
    exact e.key.tokens_append (.inr rfl) e.value.read
  rw [Pairs.read, all]
  exact pairsOf_eq_ok_cons_iff.mpr ⟨[], firstPair_append e (.inl ⟨rfl, rfl⟩), pairsOf_nil⟩

/-- **Entries are read as their pairs.** -/
theorem Pairs.read_listText (entries : List Entry) (last? : Option Entry) :
    Pairs.read (listText entries last?) = .ok ((entries ++ last?.toList).map Entry.pair) := by
  induction entries with
  | nil =>
      cases last? with
      | none => exact pairsOf_nil
      | some e => exact Pairs.read_entry e
  | cons e entries ih =>
      rw [listText_cons]
      exact Pairs.read_entry_append e ih

/-! ### Finding entries -/

/-- A pair at the front of tokens is that of a word, an equals sign and a word. -/
theorem exists_of_firstPair (h : firstPair ts = .ok (p, rest)) :
    ∃ key value us, ts = key ++ .equals :: (value ++ us)
      ∧ (Token.semicolon ∉ key ∧ Token.equals ∉ key)
      ∧ (Token.semicolon ∉ value ∧ Token.equals ∉ value)
      ∧ (us = [] ∧ rest = [] ∨ us = .semicolon :: rest) ∧ (word key).1 ≠ []
      ∧ p = pairOf (word key).1 (word value).1 := by
  obtain ⟨key, us, rfl, noSemicolon, noEquals, ends⟩ := exists_endsWord ts
  rw [firstPair, word_append noSemicolon noEquals ends] at h
  split at h
  · cases h
  · rename_i named
    dsimp only at h named
    split at h
    · rename_i behind
      obtain ⟨value, tail, rfl, noSemicolon', noEquals', ends'⟩ := exists_endsWord behind
      rw [word_append noSemicolon' noEquals' ends'] at h
      refine ⟨key, value, tail, rfl, ⟨noSemicolon, noEquals⟩, ⟨noSemicolon', noEquals'⟩, ?_⟩
      dsimp only at h
      split at h
      · obtain ⟨rfl, rfl⟩ := Prod.mk.inj (Except.ok.inj h)
        exact ⟨.inl ⟨rfl, rfl⟩, by simpa using named, rfl⟩
      · obtain ⟨rfl, rfl⟩ := Prod.mk.inj (Except.ok.inj h)
        exact ⟨.inr rfl, by simpa using named, rfl⟩
      · cases h
    · cases h

/-- A text whose first pair is read starts with an entry. -/
theorem exists_entry (read : tokens s = .ok ts) (h : firstPair ts = .ok (p, rest)) :
    ∃ e : Entry, p = e.pair
      ∧ (s = e.text ∧ rest = [] ∨ ∃ t, s = e.text ++ ';' :: t ∧ tokens t = .ok rest) := by
  obtain ⟨key, value, us, rfl, plainKey, plainValue, ends, named, rfl⟩ := exists_of_firstPair h
  obtain ⟨keyText, _, rfl, readKey, readBehind⟩ := exists_of_tokens_append read
  obtain ⟨mark, _, rfl, equals, readRest⟩ := exists_of_tokens_cons (by simp) readBehind
  obtain rfl := Token.ofChar_eq_equals_iff.mp equals
  obtain ⟨valueText, _, rfl, readValue, readTail⟩ := exists_of_tokens_append readRest
  refine ⟨{
    key := ⟨keyText, key, readKey, plainKey.1, plainKey.2⟩
    value := ⟨valueText, value, readValue, plainValue.1, plainValue.2⟩
    named := named }, rfl, ?_⟩
  rcases ends with ⟨rfl, rfl⟩ | rfl
  · obtain rfl := eq_nil_of_tokens readTail
    exact .inl ⟨by simp [Entry.text], rfl⟩
  · obtain ⟨mark, t, rfl, semicolon, readOthers⟩ := exists_of_tokens_cons (by simp) readTail
    obtain rfl := Token.ofChar_eq_semicolon_iff.mp semicolon
    exact .inr ⟨t, by simp [Entry.text], readOthers⟩

/-- What is read as pairs is a list of entries. -/
theorem exists_listText (read : Pairs.read s = .ok ps) :
    ∃ entries last?, s = listText entries last?
      ∧ ps = (entries ++ last?.toList).map Entry.pair := by
  obtain ⟨ts, parts, pairs⟩ := bind_eq_ok_iff.mp read
  induction ps generalizing s ts with
  | nil =>
      obtain rfl := pairsOf_eq_ok_nil pairs
      obtain rfl := eq_nil_of_tokens parts
      exact ⟨[], none, rfl, rfl⟩
  | cons p ps ih =>
      obtain ⟨rest, first, others⟩ := pairsOf_eq_ok_cons_iff.mp pairs
      obtain ⟨e, rfl, ⟨rfl, rfl⟩ | ⟨t, rfl, behind⟩⟩ := exists_entry parts first
      · rw [pairsOf_nil] at others
        obtain rfl := Except.ok.inj others
        exact ⟨[], some e, rfl, rfl⟩
      · have readBehind : Pairs.read t = .ok ps := bind_eq_ok_iff.mpr ⟨rest, behind, others⟩
        obtain ⟨entries, last?, rfl, rfl⟩ := ih readBehind rest behind others
        exact ⟨e :: entries, last?, (listText_cons e entries last?).symm, rfl⟩

/-- **The grammar of pairs**: what is read as pairs is a list of entries, each with its pair. -/
theorem Pairs.read_eq_ok_iff : Pairs.read s = .ok ps
    ↔ ∃ entries last?, s = listText entries last?
      ∧ ps = (entries ++ last?.toList).map Entry.pair := by
  refine ⟨exists_listText, ?_⟩
  rintro ⟨entries, last?, rfl, rfl⟩
  exact Pairs.read_listText entries last?

end EntitySql.Connection
