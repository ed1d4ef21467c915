import EntitySql.Proofs.Text.Joined
import Mathlib.Data.List.Forall2
/-!
# Lexemes

A server reads a statement from left to right. An identifier stands in brackets and a literal
between quotes; each ends at the first closing mark that is not doubled, and two of them stand for
one. Every other character is a lexeme of its own, as far as these two are concerned. What is read
can be written again in one way only, and a text that is read on its own stays what it is in front
of a text that starts with no closing mark.

The shape of a text is what remains of its lexemes without the contents of identifiers and literals.

## Main definitions

* `Enclosure`, `Lexeme`, `Lexeme.text`: lexemes and how they are written.
* `lexemes?`: the lexemes of a text.
* `ReadAs`: texts that keep their lexemes behind others.
* `SameShape`: texts that differ in the contents of identifiers and literals only.

## Main results

* `text_of_lexemes?`: a text is made up of its lexemes.
* `lexemes?_enclosed`: what stands in brackets or quotes is read back if its closing marks are
  doubled.
* `lexemes?_append`: a text that is read on its own is read so in front of others.
* `SameShape.append`, `SameShape.joined`: texts of one shape make up texts of one shape.
-/

namespace EntitySql

open EntitySql.Text

/-! ### Lexemes and their texts -/

/-- What can stand around a part of a statement. -/
inductive Enclosure where
  | brackets
  | quotes
  deriving DecidableEq, Repr

namespace Enclosure

/-- The mark that opens an enclosure. -/
def opening : Enclosure → Char
  | brackets => '['
  | quotes => '\''

/-- The mark that closes an enclosure. -/
def closing : Enclosure → Char
  | brackets => ']'
  | quotes => '\''

/-- The enclosure that a character opens. -/
def ofOpening? (c : Char) : Option Enclosure :=
  if c = '[' then some .brackets else if c = '\'' then some .quotes else none

/-- An enclosure is told by the mark that opens it. -/
theorem ofOpening?_opening (e : Enclosure) : ofOpening? e.opening = some e := by
  cases e <;> rfl

/-- Nothing else opens an enclosure. -/
theorem eq_opening_of_ofOpening? {c : Char} {e : Enclosure} (h : ofOpening? c = some e) :
    c = e.opening := by
  rw [ofOpening?] at h
  split at h
  · next bracket =>
      obtain rfl := Option.some.inj h
      exact bracket
  · split at h
    · next quote =>
        obtain rfl := Option.some.inj h
        exact quote
    · cases h

/-- A text with every closing mark doubled. -/
def doubled (e : Enclosure) (s : List Char) : List Char :=
  s.flatMap fun c => if c = e.closing then [c, c] else [c]

/-- A closing mark is doubled. -/
theorem doubled_cons_closing (e : Enclosure) (s : List Char) :
    e.doubled (e.closing :: s) = e.closing :: e.closing :: e.doubled s := by
  simp [doubled]

/-- Any other character stays single. -/
theorem doubled_cons_other {e : Enclosure} {c : Char} (other : c ≠ e.closing) (s : List Char) :
    e.doubled (c :: s) = c :: e.doubled s := by
  simp [doubled, other]

/-- Without closing marks nothing is doubled. -/
theorem doubled_of_notMem {e : Enclosure} {s : List Char} (absent : e.closing ∉ s) :
    e.doubled s = s := by
  induction s with
  | nil => rfl
  | cons c rest ih =>
      obtain ⟨other, absent⟩ := List.ne_and_not_mem_of_not_mem_cons absent
      rw [doubled_cons_other (Ne.symm other), ih absent]

/-- Each closing mark makes the text longer by one. -/
theorem length_doubled (e : Enclosure) (s : List Char) :
    (e.doubled s).length = s.length + s.count e.closing := by
  induction s with
  | nil => rfl
  | cons c rest ih =>
      by_cases closes : c = e.closing
      · rw [closes, doubled_cons_closing]
        simp only [List.length_cons, ih, List.count_cons_self]
        omega
      · rw [doubled_cons_other closes]
        simp only [List.length_cons, ih, List.count_cons_of_ne closes]
        omega

end Enclosure

/-- A unit of a statement. -/
inductive Lexeme where
  | enclosed (e : Enclosure) (content : List Char)
  /-- A character outside brackets and quotes. -/
  | mark (c : Char)
  deriving DecidableEq, Repr

namespace Lexeme

/-- An identifier in brackets. -/
def identifier (name : String) : Lexeme :=
  enclosed .brackets name.toList

/-- The text of a lexeme. -/
def text : Lexeme → List Char
  | enclosed e content => e.opening :: (e.doubled content ++ [e.closing])
  | mark c => [c]

/-- A name without closing brackets stands in brackets as it is. -/
theorem text_identifier {name : String} (plain : ']' ∉ name.toList) :
    (identifier name).text = '[' :: (name.toList ++ [']']) := by
  have single : Enclosure.doubled .brackets name.toList = name.toList :=
    Enclosure.doubled_of_notMem plain
  rw [identifier, text, single]
  rfl

/-- A mark is one character long. -/
theorem length_text_mark (c : Char) : (mark c).text.length = 1 :=
  rfl

/-- Each closing bracket of a name makes its identifier one character longer. -/
theorem length_text_identifier (name : String) :
    (identifier name).text.length = name.toList.length + name.toList.count ']' + 2 := by
  simp [identifier, text, Enclosure.length_doubled, Enclosure.closing]

/-- A lexeme without the content of brackets and quotes. -/
def shape : Lexeme → Enclosure ⊕ Char
  | enclosed e _ => .inl e
  | mark c => .inr c

end Lexeme

/-! ### Reading lexemes -/

/-- The lexemes of the rest of a text, which may start inside of an enclosure, behind some of its
content. -/
def lexemesFrom : Option (Enclosure × List Char) → List Char → Option (List Lexeme)
  | none, [] => some []
  | some _, [] => none
  | none, c :: rest =>
      match Enclosure.ofOpening? c with
      | some e => lexemesFrom (some (e, [])) rest
      | none => (lexemesFrom none rest).map (.mark c :: ·)
  | some (e, taken), c :: rest =>
      if c = e.closing then
        match rest with
        | d :: others =>
            if d = e.closing then lexemesFrom (some (e, taken ++ [c])) others
            else (lexemesFrom none (d :: others)).map (.enclosed e taken :: ·)
        | [] => some [.enclosed e taken]
      else lexemesFrom (some (e, taken ++ [c])) rest

/-- The lexemes of a text, if all brackets and quotes are closed. -/
def lexemes? (s : List Char) : Option (List Lexeme) :=
  lexemesFrom none s

/-- A text that starts with no closing mark. -/
def Unclosing (s : List Char) : Prop :=
  ∀ e : Enclosure, s.head? ≠ some e.closing

variable {s t : List Char} {ls ms : List Lexeme} {e : Enclosure} {taken content : List Char}

/-- A closing mark ends an enclosure if it is not doubled. -/
theorem lexemesFrom_closing (stop : t.head? ≠ some e.closing) :
    lexemesFrom (some (e, taken)) (e.closing :: t)
      = (lexemes? t).map (.enclosed e taken :: ·) := by
  cases t with
  | nil => simp [lexemesFrom, lexemes?]
  | cons d others =>
      have other : d ≠ e.closing := fun same => stop (congrArg some same)
      rw [lexemesFrom, if_pos rfl, if_neg other, lexemes?]

/-- A doubled closing mark goes on with the enclosure, as a single one of its content. -/
theorem lexemesFrom_doubled (t : List Char) :
    lexemesFrom (some (e, taken)) (e.closing :: e.closing :: t)
      = lexemesFrom (some (e, taken ++ [e.closing])) t := by
  rw [lexemesFrom, if_pos rfl, if_pos rfl]

/-- Any other character belongs to the content. -/
theorem lexemesFrom_other {c : Char} (other : c ≠ e.closing) (t : List Char) :
    lexemesFrom (some (e, taken)) (c :: t) = lexemesFrom (some (e, taken ++ [c])) t := by
  cases t <;> simp [lexemesFrom, other]

/-- What is left of an enclosure is read up to the first closing mark that is not doubled. -/
theorem lexemesFrom_append_closing (stop : t.head? ≠ some e.closing) :
    lexemesFrom (some (e, taken)) (e.doubled content ++ e.closing :: t)
      = (lexemes? t).map (.enclosed e (taken ++ content) :: ·) := by
  induction content generalizing taken with
  | nil => rw [List.append_nil]; exact lexemesFrom_closing stop
  | cons c rest ih =>
      have whole : taken ++ c :: rest = (taken ++ [c]) ++ rest := by simp
      rw [whole, ← ih]
      by_cases closes : c = e.closing
      · rw [closes, Enclosure.doubled_cons_closing]
        exact lexemesFrom_doubled _
      · rw [Enclosure.doubled_cons_other closes]
        exact lexemesFrom_other closes _

/-- **What stands in brackets or quotes is read back** if its closing marks are doubled, in front of
whatever does not start with another one. -/
theorem lexemes?_enclosed (content : List Char) (stop : t.head? ≠ some e.closing) :
    lexemes? ((Lexeme.enclosed e content).text ++ t)
      = (lexemes? t).map (.enclosed e content :: ·) := by
  have opened : lexemes? (e.opening :: ((e.doubled content ++ [e.closing]) ++ t))
      = lexemesFrom (some (e, [])) ((e.doubled content ++ [e.closing]) ++ t) := by
    rw [lexemes?, lexemesFrom, Enclosure.ofOpening?_opening]
  rw [Lexeme.text, List.cons_append, opened, List.append_assoc, List.singleton_append,
    lexemesFrom_append_closing stop, List.nil_append]

/-! ### Writing lexemes -/

/-- What stands in front of the rest of a text that is read. -/
def openedText : Option (Enclosure × List Char) → List Char
  | none => []
  | some (e, taken) => e.opening :: e.doubled taken

/-- **Lexemes that are read write the text again**, behind what was open already. -/
theorem text_of_lexemesFrom {state : Option (Enclosure × List Char)}
    (read : lexemesFrom state s = some ls) : ls.flatMap Lexeme.text = openedText state ++ s := by
  fun_induction lexemesFrom state s generalizing ls with
  | case1 =>
      obtain rfl := Option.some.inj read
      rfl
  | case2 => cases read
  | case3 c rest e opens ih =>
      rw [ih read, Enclosure.eq_opening_of_ofOpening? opens]
      rfl
  | case4 c rest _ ih =>
      obtain ⟨ls, others, rfl⟩ := Option.map_eq_some_iff.mp read
      rw [List.flatMap_cons, ih others]
      rfl
  | case5 e taken others ih =>
      rw [ih read]
      simp [openedText, Enclosure.doubled]
  | case6 e taken d others single ih =>
      obtain ⟨ls, others, rfl⟩ := Option.map_eq_some_iff.mp read
      rw [List.flatMap_cons, ih others]
      simp [openedText, Lexeme.text]
  | case7 e taken =>
      obtain rfl := Option.some.inj read
      simp [openedText, Lexeme.text]
  | case8 e taken c rest other ih =>
      rw [ih read]
      simp [openedText, Enclosure.doubled, other]

/-- **A text is made up of its lexemes.** -/
theorem text_of_lexemes? (read : lexemes? s = some ls) : ls.flatMap Lexeme.text = s :=
  text_of_lexemesFrom read

/-! ### Texts side by side -/

/-- What is read in front is read the same way with more behind it, unless that starts with a
closing mark. -/
theorem lexemesFrom_append {state : Option (Enclosure × List Char)} (unclosing : Unclosing t)
    (read : lexemesFrom state s = some ls) :
    lexemesFrom state (s ++ t) = (lexemes? t).map (ls ++ ·) := by
  fun_induction lexemesFrom state s generalizing ls with
  | case1 =>
      obtain rfl := Option.some.inj read
      simp [lexemes?]
  | case2 => cases read
  | case3 c rest e opens ih => rw [List.cons_append, lexemesFrom, opens]; exact ih read
  | case4 c rest plain ih =>
      obtain ⟨ls, others, rfl⟩ := Option.map_eq_some_iff.mp read
      rw [List.cons_append, lexemesFrom, plain]
      simp [ih others, Function.comp_def]
  | case5 e taken others ih =>
      rw [List.cons_append, List.cons_append, lexemesFrom_doubled]
      exact ih read
  | case6 e taken d others single ih =>
      obtain ⟨ls, behind, rfl⟩ := Option.map_eq_some_iff.mp read
      have stop : (d :: others ++ t).head? ≠ some e.closing := fun same =>
        single (Option.some.inj same)
      rw [List.cons_append, lexemesFrom_closing stop, lexemes?, ih behind]
      simp [Function.comp_def]
  | case7 e taken =>
      obtain rfl := Option.some.inj read
      exact lexemesFrom_closing (unclosing e)
  | case8 e taken c rest other ih =>
      rw [List.cons_append, lexemesFrom_other other]
      exact ih read

/-- **A text that is read on its own is read so in front of others** that start with no closing
mark. -/
theorem lexemes?_append (unclosing : Unclosing t) (read : lexemes? s = some ls) :
    lexemes? (s ++ t) = (lexemes? t).map (ls ++ ·) :=
  lexemesFrom_append unclosing read

/-- Whether a character is no mark of an enclosure. -/
def isPlainMark (c : Char) : Bool :=
  c != '[' && c != ']' && c != '\''

/-- A text that is read as lexemes, also behind others. -/
structure ReadAs (s : List Char) (ls : List Lexeme) : Prop where
  read : lexemes? s = some ls
  unclosing : Unclosing s

namespace ReadAs

/-- The empty text has no lexemes. -/
theorem nil : ReadAs [] [] :=
  ⟨rfl, fun _ => nofun⟩

/-- Texts that are read side by side are read together. -/
theorem append (front : ReadAs s ls) (behind : ReadAs t ms) : ReadAs (s ++ t) (ls ++ ms) where
  read := by rw [lexemes?_append behind.unclosing front.read, behind.read, Option.map_some]
  unclosing e := by
    cases s with
    | nil => exact behind.unclosing e
    | cons c rest => exact front.unclosing e

/-- A character that is no mark of an enclosure is a lexeme. -/
theorem mark {c : Char} (plain : isPlainMark c = true) : ReadAs [c] [.mark c] where
  read := by
    simp only [isPlainMark, Bool.and_eq_true, bne_iff_ne] at plain
    simp [lexemes?, lexemesFrom, Enclosure.ofOpening?, plain]
  unclosing e same := by
    obtain rfl := Option.some.inj same
    cases e <;> exact absurd plain (by decide)

/-- A text without marks of enclosures is read character by character. -/
theorem plain (marks : s.all isPlainMark = true) : ReadAs s (s.map .mark) := by
  induction s with
  | nil => exact nil
  | cons c rest ih =>
      rw [List.all_cons, Bool.and_eq_true] at marks
      exact (mark marks.1).append (ih marks.2)

/-- A name without closing brackets is an identifier in its brackets. -/
theorem identifier {name : String} (plain : ']' ∉ name.toList) :
    ReadAs ('[' :: (name.toList ++ [']'])) [.identifier name] where
  read := by
    rw [← Lexeme.text_identifier plain, ← List.append_nil (Lexeme.text _)]
    exact lexemes?_enclosed _ nofun
  unclosing e := by cases e <;> simp [Enclosure.closing]

end ReadAs

/-! ### Shapes -/

/-- Two texts are of **one shape** if they differ only in the contents of identifiers and
literals. -/
def SameShape (s t : List Char) : Prop :=
  ∃ ls ms, ReadAs s ls ∧ ReadAs t ms ∧ ls.map Lexeme.shape = ms.map Lexeme.shape

namespace SameShape

variable {u v : List Char}

/-- Texts of one shape make up texts of one shape. -/
theorem append (front : SameShape s t) (behind : SameShape u v) :
    SameShape (s ++ u) (t ++ v) := by
  obtain ⟨ls, ms, readS, readT, shape⟩ := front
  obtain ⟨ls', ms', readU, readV, shape'⟩ := behind
  exact ⟨_, _, readS.append readU, readT.append readV, by
    rw [List.map_append, List.map_append, shape, shape']⟩

/-- A text without marks of enclosures has its own shape. -/
theorem plain (marks : s.all isPlainMark = true) : SameShape s s :=
  ⟨_, _, .plain marks, .plain marks, rfl⟩

/-- What follows without marks of enclosures leaves texts of one shape so. -/
theorem append_plain (front : SameShape s t) (marks : u.all isPlainMark = true) :
    SameShape (s ++ u) (t ++ u) :=
  front.append (plain marks)

/-- Two identifiers are of one shape. -/
theorem identifier {name other : String} (h : ']' ∉ name.toList) (h' : ']' ∉ other.toList) :
    SameShape ('[' :: (name.toList ++ [']'])) ('[' :: (other.toList ++ [']'])) :=
  ⟨_, _, .identifier h, .identifier h', rfl⟩

/-- Pieces of one shape, with the same separator between them, make up texts of one shape. -/
theorem joined {separator : String} {ss ts : List String}
    (marks : separator.toList.all isPlainMark = true)
    (pieces : List.Forall₂ (fun s t => SameShape s.toList t.toList) ss ts) :
    SameShape (Text.joined separator ss).toList (Text.joined separator ts).toList := by
  induction pieces with
  | nil => exact ⟨[], [], .nil, .nil, rfl⟩
  | cons first others ih =>
      cases others with
      | nil => exact first
      | cons next rest =>
          simp only [Text.joined, String.toList_append]
          exact (first.append_plain marks).append ih

end SameShape

end EntitySql
