import EntitySql.Connection.Pairs
import EntitySql.Proofs.Statement.Written
import EntitySql.Proofs.Text.Cutting
/-!
# Tokens of texts side by side

A text whose quotes and braces are closed is read on its own: its tokens stand in front of those of
what follows it, unless a quote follows a quote. The other way round a text can be cut between any
two of its tokens. A word is what stands in front of the first semicolon or equals sign outside
quotes and braces, and keeps every visible character that is no quote or brace.

What a reader does in each step is said once, by a relation that it agrees with, and everything else
is by induction on that relation.

## Main definitions

* `Reads`: the steps of a reader that comes to an end.
* `Token.spelled`, `Surroundings.taken`, `Surroundings.quote?`: the characters that a token stands
  for, and those that a reader has taken and is inside of.
* `EndsWord`: what tokens go on with behind a word.

## Main results

* `tokensFrom_eq_ok_iff`: a reader comes to tokens exactly by these steps.
* `tokens_append`, `exists_of_tokens_append`: texts side by side have their tokens side by side.
* `exists_of_tokens_cons`: a token that is nothing escaped is the one of a character.
* `word_append`, `exists_endsWord`: what a word is in front of.
* `mem_word`: the visible characters of a text are in its word.
-/

namespace EntitySql.Connection

open EntitySql.Text

/-! ### Steps -/

/-- **The steps of a reader** from something that it is inside of to the end of a text. -/
inductive Reads : Surroundings → List Char → List Token → Prop where
  | nothing : Reads .nothing [] []
  | openQuotes {c : Char} {s : List Char} {ts : List Token} (isQuote : c = '"' ∨ c = '\'')
      (later : Reads (.quotes c []) s ts) : Reads .nothing (c :: s) ts
  | openBrace {s : List Char} {ts : List Token} (later : Reads (.braces []) s ts) :
      Reads .nothing ('\x7b' :: s) ts
  | plain {c : Char} {s : List Char} {ts : List Token} (unquoted : ¬(c = '"' ∨ c = '\''))
      (unbraced : c ≠ '\x7b') (ascii : isAscii c = true) (later : Reads .nothing s ts) :
      Reads .nothing (c :: s) (.ofChar c :: ts)
  | doubled {mark : Char} {taken s : List Char} {ts : List Token} (some : taken ≠ [])
      (later : Reads (.quotes mark (taken ++ [mark, mark])) s ts) :
      Reads (.quotes mark taken) (mark :: mark :: s) ts
  | closeQuotes {mark : Char} {taken s : List Char} {ts : List Token}
      (undoubled : taken ≠ [] → s.head? ≠ some mark) (later : Reads .nothing s ts) :
      Reads (.quotes mark taken) (mark :: s) (.escaped taken :: ts)
  | inQuotes {mark c : Char} {taken s : List Char} {ts : List Token} (other : c ≠ mark)
      (ascii : isAscii c = true) (later : Reads (.quotes mark (taken ++ [c])) s ts) :
      Reads (.quotes mark taken) (c :: s) ts
  | closeBrace {taken s : List Char} {ts : List Token} (later : Reads .nothing s ts) :
      Reads (.braces taken) ('\x7d' :: s) (.escaped taken :: ts)
  | inBraces {c : Char} {taken s : List Char} {ts : List Token} (other : c ≠ '\x7d')
      (ascii : isAscii c = true) (later : Reads (.braces (taken ++ [c])) s ts) :
      Reads (.braces taken) (c :: s) ts

variable {surroundings : Surroundings} {s t : List Char} {token : Token} {ts us : List Token}
variable {c : Char}

/-- A token in front of others is read if they are. -/
theorem cons_bind_eq_ok_iff {rest : Except PairProblem (List Token)} :
    (do return token :: (← rest)) = Except.ok ts ↔ ∃ us, rest = .ok us ∧ ts = token :: us := by
  rw [bind_eq_ok_iff]
  constructor
  · rintro ⟨us, read, same⟩
    exact ⟨us, read, (Except.ok.inj same).symm⟩
  · rintro ⟨us, read, rfl⟩
    exact ⟨us, read, rfl⟩

/-- Whatever the reader of tokens answers has been read by the rules. -/
theorem reads_of_tokensFrom (read : tokensFrom surroundings s = .ok ts) :
    Reads surroundings s ts := by
  fun_induction tokensFrom surroundings s generalizing ts with
  | case1 surroundings unclosed =>
      obtain rfl := Except.ok.inj read
      cases surroundings with
      | nothing => exact .nothing
      | quotes mark taken => cases unclosed
      | braces taken => cases unclosed
  | case3 quote rest isQuote ih => exact .openQuotes isQuote (ih read)
  | case4 rest unquoted ih => exact .openBrace (ih read)
  | case5 d rest unquoted unbraced ascii ih =>
      obtain ⟨us, others, rfl⟩ := cons_bind_eq_ok_iff.mp read
      exact .plain unquoted unbraced ascii (ih others)
  | case7 taken mark d rest doubled ih =>
      obtain ⟨rfl, some⟩ := doubled
      exact .doubled some (ih read)
  | case8 taken mark d rest undoubled ih =>
      obtain ⟨us, others, rfl⟩ := cons_bind_eq_ok_iff.mp read
      refine .closeQuotes (fun some same => undoubled ⟨?_, some⟩) (ih others)
      exact Option.some.inj same
  | case9 taken mark =>
      obtain rfl := Except.ok.inj read
      exact .closeQuotes (fun _ none => nomatch none) .nothing
  | case10 mark taken d rest other ascii ih => exact .inQuotes other ascii (ih read)
  | case13 taken rest ih =>
      obtain ⟨us, others, rfl⟩ := cons_bind_eq_ok_iff.mp read
      exact .closeBrace (ih others)
  | case14 taken d rest other ascii ih => exact .inBraces other ascii (ih read)
  | case2 | case6 | case11 | case12 | case15 => cases read

/-- What the rules read the reader of tokens finds, so that the rules are deterministic. -/
theorem tokensFrom_of_reads (read : Reads surroundings s ts) :
    tokensFrom surroundings s = .ok ts := by
  induction read with
  | nothing => rfl
  | openQuotes isQuote _ ih => rw [tokensFrom, if_pos isQuote, ih]
  | openBrace _ ih => rw [tokensFrom, if_neg (by decide), if_pos rfl, ih]
  | plain unquoted unbraced ascii _ ih =>
      rw [tokensFrom, if_neg unquoted, if_neg unbraced, if_pos ascii]
      exact cons_bind_eq_ok_iff.mpr ⟨_, ih, rfl⟩
  | doubled some _ ih => rw [tokensFrom, if_pos rfl, if_pos ⟨rfl, some⟩, ih]
  | @closeQuotes mark taken s ts undoubled later ih =>
      -- The quotes are closed at the end of the text, or in front of a character.
      cases s with
      | nil =>
          cases later
          rw [tokensFrom, if_pos rfl]
      | cons d s =>
          have single : ¬(d = mark ∧ taken ≠ []) := fun both =>
            undoubled both.2 (congrArg some both.1)
          rw [tokensFrom, if_pos rfl, if_neg single]
          exact cons_bind_eq_ok_iff.mpr ⟨_, ih, rfl⟩
  | @inQuotes mark c taken s ts other ascii _ ih =>
      have inside : tokensFrom (.quotes mark taken) (c :: s)
          = tokensFrom (.quotes mark (taken ++ [c])) s := by
        cases s <;> simp [tokensFrom, other, ascii]
      rw [inside, ih]
  | closeBrace _ ih =>
      rw [tokensFrom, if_pos rfl]
      exact cons_bind_eq_ok_iff.mpr ⟨_, ih, rfl⟩
  | inBraces other ascii _ ih => rw [tokensFrom, if_neg other, if_pos ascii, ih]

/-- **A reader comes to tokens exactly by its steps.** -/
theorem tokensFrom_eq_ok_iff : tokensFrom surroundings s = .ok ts ↔ Reads surroundings s ts :=
  ⟨reads_of_tokensFrom, tokensFrom_of_reads⟩

/-! ### Texts side by side -/

/-- The quote that a reader is inside of. -/
def Surroundings.quote? : Surroundings → Option Char
  | quotes mark _ => some mark
  | _ => none

/-- A character that is no quote ends a text whose quotes are closed. -/
theorem Reads.append (read : Reads surroundings s ts) (unlike : surroundings.quote? ≠ some c)
    (unquoted : ¬(c = '"' ∨ c = '\'')) (behind : Reads .nothing (c :: t) us) :
    Reads surroundings (s ++ c :: t) (ts ++ us) := by
  induction read with
  | nothing => exact behind
  | openQuotes isQuote _ ih =>
      refine .openQuotes isQuote (ih fun same => unquoted ?_)
      rwa [← Option.some.inj same]
  | openBrace _ ih => exact .openBrace (ih nofun)
  | plain unquoted' unbraced ascii _ ih => exact .plain unquoted' unbraced ascii (ih nofun)
  | doubled some _ ih => exact .doubled some (ih unlike)
  | @closeQuotes mark taken s ts undoubled _ ih =>
      refine .closeQuotes (fun some => ?_) (ih nofun)
      cases s with
      | nil => exact fun same => unlike same.symm
      | cons d s => exact undoubled some
  | inQuotes other ascii _ ih => exact .inQuotes other ascii (ih unlike)
  | closeBrace _ ih => exact .closeBrace (ih nofun)
  | inBraces other ascii _ ih => exact .inBraces other ascii (ih nofun)

/-- The tokens of a text whose quotes are closed stand in front of those of a text that starts with
no quote. -/
theorem tokens_append (closed : tokens s = .ok ts) (unquoted : ¬(c = '"' ∨ c = '\''))
    (behind : tokens (c :: t) = .ok us) : tokens (s ++ c :: t) = .ok (ts ++ us) :=
  tokensFrom_of_reads
    ((reads_of_tokensFrom closed).append nofun unquoted (reads_of_tokensFrom behind))

/-- The token of a character outside quotes and braces stands in front of the others. -/
theorem tokens_cons (unquoted : ¬(c = '"' ∨ c = '\'')) (unbraced : c ≠ '\x7b')
    (ascii : isAscii c = true) (behind : tokens t = .ok us) :
    tokens (c :: t) = .ok (.ofChar c :: us) :=
  tokensFrom_of_reads (.plain unquoted unbraced ascii (reads_of_tokensFrom behind))

/-- Behind the first token a text is cut like one with nothing around it. -/
theorem Reads.exists_cons {others : List Token} (later : Reads .nothing s others)
    (same : token :: others = ts ++ us) (nonempty : ts ≠ [])
    (cut : ∀ {ts : List Token}, ts ≠ [] → others = ts ++ us →
      ∃ front behind, s = front ++ behind ∧ Reads .nothing front ts ∧ Reads .nothing behind us) :
    ∃ front behind ts', s = front ++ behind ∧ Reads .nothing front ts'
      ∧ Reads .nothing behind us ∧ ts = token :: ts' := by
  obtain ⟨first, ts', rfl⟩ := List.exists_cons_of_ne_nil nonempty
  obtain ⟨rfl, rfl⟩ := List.cons.inj same
  cases ts' with
  | nil => exact ⟨[], s, [], rfl, .nothing, later, rfl⟩
  | cons second ts' =>
      obtain ⟨front, behind, whole, before, after⟩ := cut (List.cons_ne_nil _ _) rfl
      exact ⟨front, behind, _, whole, before, after, rfl⟩

/-- **A text can be cut between any two of its tokens.** -/
theorem Reads.exists_append {all : List Token} (read : Reads surroundings s all)
    (same : all = ts ++ us) (nonempty : ts ≠ []) : ∃ front behind, s = front ++ behind
      ∧ Reads surroundings front ts ∧ Reads .nothing behind us := by
  induction read generalizing ts with
  | nothing => exact absurd (List.append_eq_nil_iff.mp same.symm).1 nonempty
  | openQuotes isQuote _ ih =>
      obtain ⟨front, behind, rfl, before, after⟩ := ih same nonempty
      exact ⟨_ :: front, behind, rfl, .openQuotes isQuote before, after⟩
  | openBrace _ ih =>
      obtain ⟨front, behind, rfl, before, after⟩ := ih same nonempty
      exact ⟨_ :: front, behind, rfl, .openBrace before, after⟩
  | plain unquoted unbraced ascii later ih =>
      obtain ⟨front, behind, ts', rfl, before, after, rfl⟩ :=
        later.exists_cons same nonempty fun some same => ih same some
      exact ⟨_ :: front, behind, rfl, .plain unquoted unbraced ascii before, after⟩
  | doubled some _ ih =>
      obtain ⟨front, behind, rfl, before, after⟩ := ih same nonempty
      exact ⟨_ :: _ :: front, behind, rfl, .doubled some before, after⟩
  | closeQuotes undoubled later ih =>
      obtain ⟨front, behind, ts', rfl, before, after, rfl⟩ :=
        later.exists_cons same nonempty fun some same => ih same some
      refine ⟨_ :: front, behind, rfl, .closeQuotes (fun some => ?_) before, after⟩
      cases front with
      | nil => exact nofun
      | cons d front => exact undoubled some
  | inQuotes other ascii _ ih =>
      obtain ⟨front, behind, rfl, before, after⟩ := ih same nonempty
      exact ⟨_ :: front, behind, rfl, .inQuotes other ascii before, after⟩
  | closeBrace later ih =>
      obtain ⟨front, behind, ts', rfl, before, after, rfl⟩ :=
        later.exists_cons same nonempty fun some same => ih same some
      exact ⟨_ :: front, behind, rfl, .closeBrace before, after⟩
  | inBraces other ascii _ ih =>
      obtain ⟨front, behind, rfl, before, after⟩ := ih same nonempty
      exact ⟨_ :: front, behind, rfl, .inBraces other ascii before, after⟩

/-- The tokens of a text that stand side by side are those of two texts that do. -/
theorem exists_of_tokens_append (closed : tokens s = .ok (ts ++ us)) :
    ∃ front behind, s = front ++ behind ∧ tokens front = .ok ts ∧ tokens behind = .ok us := by
  cases ts with
  | nil => exact ⟨[], s, rfl, rfl, closed⟩
  | cons token rest =>
      obtain ⟨front, behind, whole, before, after⟩ :=
        (reads_of_tokensFrom closed).exists_append rfl (List.cons_ne_nil _ _)
      exact ⟨front, behind, whole, tokensFrom_of_reads before, tokensFrom_of_reads after⟩

/-- What is read inside of something is escaped. -/
theorem Reads.exists_eq_escaped {all : List Token} (read : Reads surroundings s all)
    (inside : surroundings ≠ .nothing) (first : all.head? = some token) :
    ∃ t, token = .escaped t := by
  induction read with
  | nothing | openQuotes | openBrace | plain => exact absurd rfl inside
  | doubled _ _ ih | inQuotes _ _ _ ih | inBraces _ _ _ ih => exact ih nofun first
  | closeQuotes | closeBrace => exact ⟨_, (Option.some.inj first).symm⟩

/-- A token that is nothing escaped is the one of the first character. -/
theorem exists_of_tokens_cons (unescaped : ∀ t, token ≠ .escaped t)
    (closed : tokens s = .ok (token :: ts)) :
    ∃ c t, s = c :: t ∧ Token.ofChar c = token ∧ tokens t = .ok ts := by
  have inside {surroundings : Surroundings} {t : List Char} (some : surroundings ≠ .nothing) :
      ¬Reads surroundings t (token :: ts) := by
    intro read
    obtain ⟨taken, same⟩ := read.exists_eq_escaped some rfl
    exact unescaped taken same
  cases reads_of_tokensFrom closed with
  | openQuotes _ later => exact absurd later (inside nofun)
  | openBrace later => exact absurd later (inside nofun)
  | plain _ _ _ later => exact ⟨_, _, rfl, rfl, tokensFrom_of_reads later⟩

/-- A text without tokens is empty. -/
theorem Reads.eq_nil (read : Reads surroundings s ts) (none : ts = []) :
    surroundings = .nothing ∧ s = [] := by
  induction read with
  | nothing => exact ⟨rfl, rfl⟩
  | openQuotes _ _ ih | openBrace _ ih | doubled _ _ ih | inQuotes _ _ _ ih | inBraces _ _ _ ih =>
      exact absurd (ih none).1 nofun
  | plain | closeQuotes | closeBrace => cases none

/-- Only the empty text has no tokens. -/
theorem eq_nil_of_tokens (none : tokens s = .ok []) : s = [] :=
  ((reads_of_tokensFrom none).eq_nil rfl).2

/-- A character is taken for the end of an entry exactly if it is a semicolon. -/
theorem Token.ofChar_eq_semicolon_iff : Token.ofChar c = .semicolon ↔ c = ';' := by
  unfold ofChar
  split <;> simp_all

/-- A character is taken for the mark behind a key exactly if it is an equals sign. -/
theorem Token.ofChar_eq_equals_iff : Token.ofChar c = .equals ↔ c = '=' := by
  unfold ofChar
  split <;> simp_all

/-! ### Characters of tokens -/

/-- The characters that a token stands for. -/
def Token.spelled : Token → List Char
  | semicolon => [';']
  | equals => ['=']
  | lineEnd => ['\n']
  | space => [' ']
  | atom c => [c]
  | escaped s => s

/-- The characters that a reader of tokens has taken. -/
def Surroundings.taken : Surroundings → List Char
  | nothing => []
  | quotes _ taken => taken
  | braces taken => taken

/-- A token of one character is spelled as that character. -/
theorem Token.spelled_ofChar (c : Char) : (Token.ofChar c).spelled = [c] := by
  unfold ofChar
  split <;> rfl

/-- **A character that is no quote or brace is found in one of the tokens.** -/
theorem Reads.exists_token_of_mem (read : Reads surroundings s ts)
    (unlike : surroundings.quote? ≠ some c) (plain : c ∉ ['"', '\'', '\x7b', '\x7d'])
    (member : c ∈ surroundings.taken ++ s) : ∃ token ∈ ts, c ∈ token.spelled := by
  simp only [List.mem_cons, List.not_mem_nil, or_false, not_or] at plain
  obtain ⟨double, single, opening, closing⟩ := plain
  have later {token : Token} {us : List Token} (found : ∃ token ∈ us, c ∈ token.spelled) :
      ∃ token' ∈ token :: us, c ∈ token'.spelled := by
    obtain ⟨token', among, spelled⟩ := found
    exact ⟨token', List.mem_cons_of_mem _ among, spelled⟩
  induction read with
  | nothing => cases member
  | @openQuotes quote _ _ isQuote _ ih =>
      have other : c ≠ quote := by
        rcases isQuote with rfl | rfl
        · exact double
        · exact single
      exact ih (fun same => other (Option.some.inj same).symm)
        ((List.mem_cons.mp member).resolve_left other)
  | openBrace _ ih => exact ih nofun ((List.mem_cons.mp member).resolve_left opening)
  | plain _ _ _ _ ih =>
      rcases List.mem_cons.mp member with rfl | behind
      · exact ⟨_, List.mem_cons_self, by simp [Token.spelled_ofChar]⟩
      · exact later (ih nofun behind)
  | doubled _ _ ih => exact ih unlike (by simpa [Surroundings.taken] using member)
  | closeQuotes _ _ ih =>
      rcases List.mem_append.mp member with before | behind
      · exact ⟨_, List.mem_cons_self, before⟩
      · have inRest := (List.mem_cons.mp behind).resolve_left fun same => unlike (same ▸ rfl)
        exact later (ih nofun inRest)
  | inQuotes _ _ _ ih => exact ih unlike (by simpa [Surroundings.taken] using member)
  | closeBrace _ ih =>
      rcases List.mem_append.mp member with before | behind
      · exact ⟨_, List.mem_cons_self, before⟩
      · exact later (ih nofun ((List.mem_cons.mp behind).resolve_left closing))
  | inBraces _ _ _ ih => exact ih nofun (by simpa [Surroundings.taken] using member)

/-! ### Words -/

/-- What tokens go on with behind a word: nothing, or a semicolon or an equals sign. -/
def EndsWord (ts : List Token) : Prop :=
  ∀ token ∈ ts.head?, token = .semicolon ∨ token = .equals

/-- A word goes up to the first semicolon or equals sign. -/
theorem wordFrom_append (noSemicolon : Token.semicolon ∉ ts) (noEquals : Token.equals ∉ ts)
    (ends : EndsWord us) (taken : List Char) :
    wordFrom taken (ts ++ us) = ((wordFrom taken ts).1, us) := by
  induction ts generalizing taken with
  | nil =>
      cases us with
      | nil => rfl
      | cons token rest =>
          rcases ends token rfl with rfl | rfl <;> rfl
  | cons token rest ih =>
      obtain ⟨first, others⟩ := List.ne_and_not_mem_of_not_mem_cons noSemicolon
      obtain ⟨first', others'⟩ := List.ne_and_not_mem_of_not_mem_cons noEquals
      cases token with
      | semicolon => exact absurd rfl first
      | equals => exact absurd rfl first'
      | lineEnd | space | atom d | escaped d => exact ih others others' _

/-- What follows a word has no part in it. -/
theorem word_append (noSemicolon : Token.semicolon ∉ ts) (noEquals : Token.equals ∉ ts)
    (ends : EndsWord us) : word (ts ++ us) = ((word ts).1, us) := by
  rw [word, wordFrom_append noSemicolon noEquals ends, word]

/-- Tokens have a word at their front. -/
theorem exists_endsWord (ts : List Token) : ∃ front behind, ts = front ++ behind
    ∧ Token.semicolon ∉ front ∧ Token.equals ∉ front ∧ EndsWord behind := by
  induction ts with
  | nil => exact ⟨[], [], rfl, List.not_mem_nil, List.not_mem_nil, fun _ none => nomatch none⟩
  | cons token rest ih =>
      by_cases stop : token = .semicolon ∨ token = .equals
      · refine ⟨[], token :: rest, rfl, List.not_mem_nil, List.not_mem_nil, ?_⟩
        rintro _ ⟨⟩
        exact stop
      · obtain ⟨front, behind, rfl, noSemicolon, noEquals, ends⟩ := ih
        obtain ⟨other, other'⟩ := not_or.mp stop
        exact ⟨token :: front, behind, rfl, by simp [Ne.symm other, noSemicolon],
          by simp [Ne.symm other', noEquals], ends⟩

/-- The characters of tokens are in their word, spaces and line ends apart. -/
theorem mem_wordFrom (noSemicolon : Token.semicolon ∉ ts) (noEquals : Token.equals ∉ ts)
    (space : c ≠ ' ') (lineEnd : c ≠ '\n') {taken : List Char}
    (member : c ∈ taken ∨ ∃ token ∈ ts, c ∈ token.spelled) : c ∈ (wordFrom taken ts).1 := by
  induction ts generalizing taken with
  | nil => simpa [wordFrom] using member
  | cons token rest ih =>
      obtain ⟨first, others⟩ := List.ne_and_not_mem_of_not_mem_cons noSemicolon
      obtain ⟨first', others'⟩ := List.ne_and_not_mem_of_not_mem_cons noEquals
      have places : c ∈ taken ∨ c ∈ token.spelled ∨ ∃ token ∈ rest, c ∈ token.spelled := by
        simpa using member
      cases token with
      | semicolon => exact absurd rfl first
      | equals => exact absurd rfl first'
      | lineEnd =>
          have kept : c ∈ taken ∨ ∃ token ∈ rest, c ∈ token.spelled := by
            simpa [Token.spelled, lineEnd] using places
          exact ih others others' kept
      | space =>
          have kept : c ∈ taken ∨ ∃ token ∈ rest, c ∈ token.spelled := by
            simpa [Token.spelled, space] using places
          refine ih others others' (kept.imp_left fun inTaken => ?_)
          rw [if_neg (by simpa using List.ne_nil_of_mem inTaken)]
          exact List.mem_append_left _ inTaken
      | atom d =>
          have kept : c ∈ taken ++ [d] ∨ ∃ token ∈ rest, c ∈ token.spelled := by
            simpa [Token.spelled, or_assoc] using places
          exact ih others others' kept
      | escaped s =>
          have kept : c ∈ taken ++ s ∨ ∃ token ∈ rest, c ∈ token.spelled := by
            simpa [Token.spelled, or_assoc] using places
          exact ih others others' kept

/-- The visible characters of a text that spells a word are in the word, quotes and braces apart. -/
theorem mem_word (closed : tokens s = .ok ts) (noSemicolon : Token.semicolon ∉ ts)
    (noEquals : Token.equals ∉ ts) (visible : isBlank c = false)
    (plain : c ∉ ['"', '\'', '\x7b', '\x7d']) (member : c ∈ s) : c ∈ (word ts).1 := by
  have other {d : Char} (blank : isBlank d = true) : c ≠ d := by
    rintro rfl
    exact absurd blank (by simp [visible])
  have found : ∃ token ∈ ts, c ∈ token.spelled :=
    (reads_of_tokensFrom closed).exists_token_of_mem nofun plain member
  exact mem_trimRight
    (mem_wordFrom noSemicolon noEquals (other (by decide)) (other (by decide)) (.inr found)) visible

end EntitySql.Connection
