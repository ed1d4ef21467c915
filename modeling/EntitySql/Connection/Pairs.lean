import EntitySql.Connection.Problem
import EntitySql.Text.Blank
/-!
# Key-value pairs

A list of key-value pairs is a text in ASCII such as `Server=host;Database={a;b}`. It is read
twice: characters become tokens, where quotes and braces make one token of what they hold, and
tokens become pairs. A word, the key or the value of a pair, drops line ends, blanks at both ends
and nothing else.

Two quotes behind some text inside quotes stand for both of them; two quotes with nothing in
front stand for an empty text.

## Main definitions

* `Token`, `tokens`: the tokens of a text.
* `Pairs`, `Pairs.read`: the pairs of a text.
* `Pairs.get?`: the value of a key, the last one if the key repeats.
-/

namespace EntitySql.Connection

open EntitySql.Text

/-! ### Tokens -/

/-- A unit of a list of pairs. -/
inductive Token where
  | semicolon
  | equals
  | lineEnd
  | space
  | atom (c : Char)
  /-- What stood between quotes or braces. -/
  | escaped (s : List Char)
  deriving DecidableEq, Repr

/-- The token of a character outside quotes and braces. -/
def Token.ofChar (c : Char) : Token :=
  match c with
  | ';' => .semicolon
  | '=' => .equals
  | '\n' => .lineEnd
  | ' ' => .space
  | c => .atom c

/-- What a reader of tokens is inside of. -/
inductive Surroundings where
  | nothing
  /-- Quotes of a kind, behind some characters. -/
  | quotes (mark : Char) (taken : List Char)
  /-- Braces, behind some characters. -/
  | braces (taken : List Char)

/-- The fault of a text that ends inside of something. -/
def Surroundings.unclosed? : Surroundings → Option PairProblem
  | nothing => none
  | quotes mark _ => some (if mark = '"' then .unclosedDoubleQuote else .unclosedSingleQuote)
  | braces _ => some .unclosedBrace

/-- Whether a character is in ASCII. -/
def isAscii (c : Char) : Bool :=
  c.toNat < 128

/-- The tokens of the rest of a text. -/
def tokensFrom : Surroundings → List Char → Except PairProblem (List Token)
  | s, [] =>
      match s.unclosed? with
      | none => .ok []
      | some problem => .error problem
  | .nothing, c :: rest =>
      if c = '"' ∨ c = '\'' then tokensFrom (.quotes c []) rest
      else if c = '\x7b' then tokensFrom (.braces []) rest
      else if isAscii c then do return .ofChar c :: (← tokensFrom .nothing rest)
      else .error (.foreign c)
  | .quotes mark taken, c :: rest =>
      if c = mark then
        match rest with
        | d :: rest =>
            if d = mark ∧ taken ≠ [] then tokensFrom (.quotes mark (taken ++ [c, d])) rest
            else do return .escaped taken :: (← tokensFrom .nothing (d :: rest))
        | [] => .ok [.escaped taken]
      else if isAscii c then tokensFrom (.quotes mark (taken ++ [c])) rest
      else if mark = '"' then .error .foreignInDoubleQuotes
      else .error (.foreignInEscape c)
  | .braces taken, c :: rest =>
      if c = '\x7d' then do return .escaped taken :: (← tokensFrom .nothing rest)
      else if isAscii c then tokensFrom (.braces (taken ++ [c])) rest
      else .error (.foreignInEscape c)

/-- The tokens of a text. -/
def tokens (s : List Char) : Except PairProblem (List Token) :=
  tokensFrom .nothing s

/-! ### Words -/

/-- The characters at the front of tokens, behind those taken so far, and the tokens from the next
semicolon or equals sign on. -/
def wordFrom (taken : List Char) : List Token → List Char × List Token
  | [] => (taken, [])
  | .semicolon :: rest => (taken, .semicolon :: rest)
  | .equals :: rest => (taken, .equals :: rest)
  | .lineEnd :: rest => wordFrom taken rest
  | .space :: rest => wordFrom (if taken.isEmpty then [] else taken ++ [' ']) rest
  | .atom c :: rest => wordFrom (taken ++ [c]) rest
  | .escaped s :: rest => wordFrom (taken ++ s) rest

/-- The tokens behind a word are at most all tokens. -/
theorem length_wordFrom_le (taken : List Char) (ts : List Token) :
    (wordFrom taken ts).2.length ≤ ts.length := by
  induction ts generalizing taken with
  | nil => simp [wordFrom]
  | cons t rest ih =>
      cases t <;> simp only [wordFrom, List.length_cons, Nat.le_refl] <;>
        exact Nat.le_succ_of_le (ih _)

/-- The word at the front of tokens and the tokens behind it. -/
def word (ts : List Token) : List Char × List Token :=
  (trimRight isBlank (wordFrom [] ts).1, (wordFrom [] ts).2)

/-- The tokens behind a word are at most all tokens. -/
theorem length_word_le (ts : List Token) : (word ts).2.length ≤ ts.length :=
  length_wordFrom_le [] ts

/-! ### Pairs -/

/-- The pairs of a text, in order, with the keys in lower case. -/
abbrev Pairs := List (String × String)

/-- The pair of a key, in lower case, and a value. -/
def pairOf (key value : List Char) : String × String :=
  (String.ofList (key.map Char.toLower), String.ofList value)

/-- The pair at the front of tokens and the tokens behind its semicolon. -/
def firstPair (ts : List Token) : Except PairProblem ((String × String) × List Token) :=
  if (word ts).1.isEmpty then .error .emptyKey
  else
    match (word ts).2 with
    | .equals :: behind =>
        match (word behind).2 with
        | [] => .ok (pairOf (word ts).1 (word behind).1, [])
        | .semicolon :: rest => .ok (pairOf (word ts).1 (word behind).1, rest)
        | _ => .error .missingSemicolon
    | _ => .error .missingEquals

/-- A pair takes tokens away. -/
theorem length_firstPair_lt {ts rest : List Token} {pair : String × String}
    (h : firstPair ts = .ok (pair, rest)) : rest.length < ts.length := by
  have first := length_word_le ts
  rw [firstPair] at h
  split at h
  · cases h
  · split at h
    · rename_i behind behindKey
      have second := length_word_le behind
      rw [behindKey] at first
      simp only [List.length_cons] at first
      split at h <;> cases h
      · simp only [List.length_nil]
        omega
      · rename_i behindValue
        rw [behindValue] at second
        simp only [List.length_cons] at second
        omega
    · cases h

/-- The pairs of tokens. -/
def pairsOf (ts : List Token) : Except PairProblem Pairs :=
  if ts.isEmpty then .ok []
  else
    match h : firstPair ts with
    | .error problem => .error problem
    | .ok (pair, rest) =>
        have : rest.length < ts.length := length_firstPair_lt h
        (pairsOf rest).map (pair :: ·)
  termination_by ts.length

namespace Pairs

/-- The pairs of a text. -/
def read (s : List Char) : Except PairProblem Pairs := do
  pairsOf (← tokens s)

/-- The value of a key in lower case, the last one if there are several. -/
def get? (ps : Pairs) (key : String) : Option String :=
  ps.reverse.lookup key

/-- The value of the first of several keys that is there. -/
def getFirst? (ps : Pairs) (keys : List String) : Option String :=
  keys.findSome? ps.get?

end Pairs

end EntitySql.Connection
