import EntitySql.Proofs.Statement.Literal
import EntitySql.Proofs.Statement.Written
import EntitySql.Proofs.Text.Joined
import EntitySql.Proofs.Text.Prefix
import EntitySql.Statement.Select
import Mathlib.Data.List.Forall2
/-!
# Expressions can be read back

An expression is written without a mark of what it is made of, so its text has to tell: a column
by its brackets, a quoted literal by its quotes, numerals and parameters by the characters that
they are made of, and operators by their parentheses. If no name or text brings these marks in by
itself, the text of an expression begins no other one, and two expressions with one text are
alike: the same operators over leaves with the same texts.

What may follow an expression inside another one never goes on with a leaf. This is the property
that the induction carries.

## Main definitions

* `Expression.Plain`: the expressions without marks in their names and texts.
* `Expression.Alike`: the same operators over leaves with the same texts.
* `LeafForm`, `Follows`: what leaves look like, and what follows an expression.

## Main results

* `LeafForm.append_inj`, `Operator.between_append_inj`: leaves and operators end at one place.
* `Expression.text_append_inj`: so does a whole expression.
* `joined_conditions_inj`: so do the conditions of a `WHERE` clause.
* `Expression.unambiguous`: expressions and conditions with the same text are alike.
-/

namespace EntitySql

open EntitySql.Text

/-! ### Plain expressions -/

/-- No part of the name of the column has a closing bracket. -/
def ColumnName.Plain (c : ColumnName) : Prop :=
  ']' ∉ c.table.space.toList ∧ ']' ∉ c.table.name.toList ∧ ']' ∉ c.name.toList

/-- The bare name is made of letters, digits and underscores. -/
def Parameter.Plain (p : Parameter) : Prop :=
  ∀ c ∈ p.bareName.toList, c.isAlphanum = true ∨ c = '_'

/-- The value is no text with a single quote. -/
def Value.Plain (v : Value) : Prop :=
  ∀ s, v = .ofString s → '\'' ∉ s.toList

/-- No name or text in the expression has a mark of the notation, and no paging operator is in
it. -/
def Expression.Plain : Expression → Prop
  | .column c => c.Plain
  | .sortKey k => k.column.Plain
  | .constant v => v.Plain
  | .parameter p => p.Plain
  | .binary _ l r => l.Plain ∧ r.Plain
  | .paging _ | .pagingBy _ _ => False

/-- An expression without operators. -/
def Expression.IsLeaf : Expression → Prop
  | .column _ | .sortKey _ | .constant _ | .parameter _ => True
  | .binary _ _ _ | .paging _ | .pagingBy _ _ => False

/-- Expressions with the same tree of operators and, from left to right, the same texts of
leaves. -/
inductive Expression.Alike : Expression → Expression → Prop
  | leaf {a b : Expression} : a.IsLeaf → b.IsLeaf → a.text = b.text → Alike a b
  | binary (op : Operator) {l l' r r' : Expression} :
      Alike l l' → Alike r r' → Alike (.binary op l r) (.binary op l' r')

/-! ### The text of an expression -/

/-- How SQL Server writes an operator. -/
def Operator.rendering (op : Operator) : Rendering :=
  (Dialect.transactSql op).getD ⟨"", "", ""⟩

/-- SQL Server has a notation for every operator. -/
theorem transactSql_eq (op : Operator) : Dialect.transactSql op = some op.rendering := by
  cases op <;> rfl

/-- An operator is written around its operands if these are written. -/
theorem Expression.write_binary {l r : Expression}
    (left : ∀ fragment, l.write .transactSql fragment = .write l.text)
    (right : ∀ fragment, r.write .transactSql fragment = .write r.text)
    (op : Operator) (fragment : Fragment) :
    (Expression.binary op l r).write .transactSql fragment
      = .write (op.rendering.before ++ l.text ++ op.rendering.between ++ r.text
        ++ op.rendering.behind) := by
  simp only [write, transactSql_eq, left, right, Written.write_bind]
  simp only [Written.write, String.append_assoc]

/-- A plain expression is written in every fragment, with one text. -/
theorem Expression.write_eq {e : Expression} (plain : e.Plain) (fragment : Fragment) :
    e.write .transactSql fragment = .write e.text := by
  induction e generalizing fragment with
  | column | sortKey | constant | parameter => rfl
  | binary op l r ihl ihr =>
      have written := write_binary (ihl plain.1) (ihr plain.2) op
      rw [text, written fragment, written .expression]
      rfl
  | paging | pagingBy => cases plain

/-- The text of an operation: its operands between the three parts of the operator. -/
theorem Expression.text_binary {l r : Expression} (left : l.Plain) (right : r.Plain)
    (op : Operator) :
    (Expression.binary op l r).text = op.rendering.before ++ l.text ++ op.rendering.between
      ++ r.text ++ op.rendering.behind := by
  rw [text, write_binary (write_eq left) (write_eq right)]
  rfl

/-! ### Operators -/

/-- The list of operators has all of them, so that facts about operators can be decided. -/
theorem Operator.mem_all (op : Operator) : op ∈ Operator.all := by
  cases op <;> decide

/-- What stands between the operands of an operator begins no other such text. -/
theorem Operator.eq_of_prefix_between {op op' : Operator}
    (h : op.rendering.between.toList <+: op'.rendering.between.toList) : op = op' := by
  have code : ∀ a ∈ all, ∀ b ∈ all,
      a.rendering.between.toList <+: b.rendering.between.toList → a = b := by
    decide +kernel
  exact code op op.mem_all op' op'.mem_all h

/-- Operators are told apart by what stands between their operands. -/
theorem Operator.between_append_inj {op op' : Operator} {r s : List Char}
    (same : op.rendering.between.toList ++ r = op'.rendering.between.toList ++ s) :
    op = op' ∧ r = s := by
  have equal : op = op' := by
    rcases prefix_or_prefix_of_append_eq same with h | h
    · exact eq_of_prefix_between h
    · exact (eq_of_prefix_between h).symm
  subst equal
  exact ⟨rfl, List.append_cancel_left same⟩

/-- An operator begins with a parenthesis or with the name of a function. -/
theorem Operator.before_eq (op : Operator) :
    op.rendering.before.toList = ['('] ∨
      op.rendering.before.toList = ['P', 'O', 'W', 'E', 'R', '('] := by
  have all : ∀ a ∈ all, a.rendering.before.toList = ['('] ∨
      a.rendering.before.toList = ['P', 'O', 'W', 'E', 'R', '('] := by
    decide +kernel
  exact all op op.mem_all

/-- What stands between the operands of an operator begins with a space or a comma. -/
theorem Operator.between_head (op : Operator) :
    (∃ rest, op.rendering.between.toList = ' ' :: rest) ∨
      ∃ rest, op.rendering.between.toList = ',' :: rest := by
  cases op with
  | power => exact .inr ⟨[' '], by decide⟩
  | _ => exact .inl ⟨_, rfl⟩

/-- Every operator ends in a closing parenthesis. -/
theorem Operator.behind_eq (op : Operator) : op.rendering.behind = ")" := by
  cases op <;> rfl

/-- The operands of an operator begin behind what stands in front of them. -/
theorem Operator.before_append_inj {op op' : Operator} {r s : List Char}
    (same : op.rendering.before.toList ++ r = op'.rendering.before.toList ++ s) : r = s := by
  rcases op.before_eq with h | h
  · rcases op'.before_eq with h' | h' <;> rw [h, h'] at same
    · exact List.append_cancel_left same
    · cases same
  · rcases op'.before_eq with h' | h' <;> rw [h, h'] at same
    · cases same
    · exact List.append_cancel_left same

/-! ### Leaves -/

/-- The characters of words: numerals, `NULL` and parameters are made of them. -/
def isWordChar (c : Char) : Bool :=
  c.isAlphanum || c == '_' || c == '@' || c == '-' || c == '.'

/-- The directions that may stand behind a column. -/
def directions : List (List Char) :=
  [[], [' ', 'A', 'S', 'C'], [' ', 'D', 'E', 'S', 'C']]

/-- What the texts of leaves look like. A word does not begin as an operator can. -/
inductive LeafForm : List Char → Prop
  | word {w : List Char} :
      w ≠ [] → (∀ c ∈ w, isWordChar c = true) → w.head? ≠ some 'P' → LeafForm w
  | quoted {s : List Char} : '\'' ∉ s → LeafForm ('\'' :: (s ++ ['\'']))
  | column {table name direction : List Char} :
      ']' ∉ table → ']' ∉ name → direction ∈ directions →
      LeafForm ('[' :: (table ++ ']' :: '.' :: '[' :: (name ++ ']' :: direction)))

/-- What may follow an expression: nothing, or what an operator puts behind an operand. -/
inductive Follows : List Char → Prop
  | nothing : Follows []
  | between (op : Operator) (rest : List Char) : Follows (op.rendering.between.toList ++ rest)
  | behind (rest : List Char) : Follows (')' :: rest)

/-- What follows an expression does not go on with a word. -/
theorem Follows.stop {r : List Char} (h : Follows r) : ∀ c ∈ r.head?, isWordChar c = false := by
  intro c head
  cases h with
  | nothing => cases head
  | between op rest =>
      rcases op.between_head with ⟨chars, between⟩ | ⟨chars, between⟩
      · rw [between] at head
        obtain rfl := Option.some.inj head
        rfl
      · rw [between] at head
        obtain rfl := Option.some.inj head
        rfl
  | behind rest =>
      obtain rfl := Option.some.inj head
      rfl

/-- What follows an expression does not begin as a direction does. -/
theorem Follows.not_direction {r rest : List Char} (h : Follows r) :
    r ≠ ' ' :: 'A' :: 'S' :: rest ∧ r ≠ ' ' :: 'D' :: rest := by
  cases h with
  | nothing => exact ⟨nofun, nofun⟩
  | between op behind =>
      cases op <;> constructor <;> intro same <;> cases same
  | behind behind => exact ⟨nofun, nofun⟩

/-- A word does not begin with a character that no word has. -/
theorem append_ne_cons_of_word {w r rest : List Char} {mark : Char} (some : w ≠ [])
    (chars : ∀ c ∈ w, isWordChar c = true) (stop : isWordChar mark = false) :
    w ++ r ≠ mark :: rest := by
  obtain ⟨c, w, rfl⟩ := List.exists_cons_of_ne_nil some
  intro same
  obtain rfl := (List.cons.inj same).1
  exact absurd (chars _ List.mem_cons_self) (by simp [stop])

/-- A direction, or its absence, is known from what follows it. -/
theorem direction_append_inj {d d' r s : List Char} (hd : d ∈ directions) (hd' : d' ∈ directions)
    (hr : Follows r) (hs : Follows s) (same : d ++ r = d' ++ s) : d = d' ∧ r = s := by
  simp only [directions, List.mem_cons, List.not_mem_nil, or_false] at hd hd'
  rcases hd with rfl | rfl | rfl
  · rcases hd' with rfl | rfl | rfl
    · exact ⟨rfl, same⟩
    · exact absurd same hr.not_direction.1
    · exact absurd same hr.not_direction.2
  · rcases hd' with rfl | rfl | rfl
    · exact absurd same.symm hs.not_direction.1
    · exact ⟨rfl, List.append_cancel_left same⟩
    · cases same
  · rcases hd' with rfl | rfl | rfl
    · exact absurd same.symm hs.not_direction.2
    · cases same
    · exact ⟨rfl, List.append_cancel_left same⟩

/-- **Leaves end at one place.** -/
theorem LeafForm.append_inj {a b r s : List Char} (ha : LeafForm a) (hb : LeafForm b)
    (hr : Follows r) (hs : Follows s) (same : a ++ r = b ++ s) : a = b ∧ r = s := by
  cases ha with
  | word some chars _ =>
      cases hb with
      | word _ chars' _ => exact append_inj_of_stop chars chars' hr.stop hs.stop same
      | quoted _ => exact absurd same (append_ne_cons_of_word some chars rfl)
      | column _ _ _ => exact absurd same (append_ne_cons_of_word some chars rfl)
  | quoted free =>
      cases hb with
      | word some chars _ => exact absurd same.symm (append_ne_cons_of_word some chars rfl)
      | quoted free' =>
          simp only [List.cons_append, List.append_assoc, List.nil_append] at same
          obtain ⟨rfl, rest⟩ := append_mark_inj free free' (List.cons.inj same).2
          exact ⟨rfl, rest⟩
      | column _ _ _ => cases same
  | column table name direction =>
      cases hb with
      | word some chars _ => exact absurd same.symm (append_ne_cons_of_word some chars rfl)
      | quoted _ => cases same
      | column table' name' direction' =>
          simp only [List.cons_append, List.append_assoc] at same
          obtain ⟨rfl, inner⟩ := append_mark_inj table table' (List.cons.inj same).2
          have names := (List.cons.inj (List.cons.inj inner).2).2
          obtain ⟨rfl, behind⟩ := append_mark_inj name name' names
          obtain ⟨rfl, rest⟩ := direction_append_inj direction direction' hr hs behind
          exact ⟨rfl, rest⟩

/-- A leaf does not begin as an operator does. -/
theorem LeafForm.append_ne_before {a r s : List Char} (h : LeafForm a) (op : Operator) :
    a ++ r ≠ op.rendering.before.toList ++ s := by
  rcases op.before_eq with before | before <;> rw [before] <;> intro same
  · cases h with
    | word some chars _ => exact append_ne_cons_of_word some chars rfl same
    | quoted _ => cases same
    | column _ _ _ => cases same
  · cases h with
    | word some _ first =>
        obtain ⟨c, w, rfl⟩ := List.exists_cons_of_ne_nil some
        obtain rfl := (List.cons.inj same).1
        exact first rfl
    | quoted _ => cases same
    | column _ _ _ => cases same

/-! ### The forms of leaves -/

/-- The characters of a column in brackets. -/
theorem ColumnName.toList_bracketed (c : ColumnName) :
    c.bracketed.toList
      = '[' :: (c.table.full.toList ++ ']' :: '.' :: '[' :: (c.name.toList ++ [']'])) := by
  simp [ColumnName.bracketed, TableName.bracketed, String.toList_append]

/-- The name of a table has no closing bracket if its parts have none. -/
theorem ColumnName.Plain.notMem_full {c : ColumnName} (plain : c.Plain) :
    ']' ∉ c.table.full.toList := by
  obtain ⟨space, name, -⟩ := plain
  rw [TableName.full]
  split
  · exact name
  · simp [String.toList_append, space, name]

/-- A column with or without a direction has the form of a leaf. -/
theorem ColumnName.Plain.leafForm {c : ColumnName} (plain : c.Plain) {direction : List Char}
    (known : direction ∈ directions) : LeafForm (c.bracketed.toList ++ direction) := by
  have form := LeafForm.column plain.notMem_full plain.2.2 known
  rw [c.toList_bracketed]
  simpa using form

/-- Numerals and `NULL` are words. -/
theorem LiteralForm.leafForm {s : String} (h : LiteralForm s) : LeafForm s.toList := by
  cases h with
  | null => exact .word (by decide) (List.all_eq_true.mp (by decide)) (by decide)
  | @numeral s numeral =>
      obtain ⟨some, chars⟩ := numeral
      rw [String.toList_ofList]
      refine .word some (fun c member => ?_) (fun first => ?_)
      · rcases chars c member with digit | rfl | rfl | rfl
        · simp [isWordChar, Char.isAlphanum, digit]
        · rfl
        · rfl
        · rfl
      · have other : ¬IsNumeralChar 'P' := by
          rw [IsNumeralChar]
          decide
        exact other (chars 'P' (List.mem_of_head? first))
  | @quoted s free =>
      rw [toList_quotedLiteral]
      exact .quoted free

/-- A plain parameter has the form of a word. -/
theorem Parameter.Plain.leafForm {p : Parameter} (plain : p.Plain) :
    LeafForm p.reference.toList := by
  have text : p.reference.toList = '@' :: p.bareName.toList := by
    simp [Parameter.reference, String.toList_append]
  rw [text]
  refine .word (List.cons_ne_nil _ _) (fun c member => ?_) (by simp)
  rcases List.mem_cons.mp member with rfl | name
  · rfl
  · rcases plain c name with letter | rfl
    · simp [isWordChar, letter]
    · rfl

/-- The text of a plain leaf has the form of one. -/
theorem Expression.leafForm {e : Expression} (plain : e.Plain) (leaf : e.IsLeaf) :
    LeafForm e.text.toList := by
  cases e with
  | column c =>
      have undirected : [] ∈ directions := by decide
      have form := ColumnName.Plain.leafForm plain undirected
      rwa [List.append_nil] at form
  | sortKey k =>
      show LeafForm k.text.toList
      rw [SortKey.text, String.toList_append]
      cases k.direction with
      | ascending => exact ColumnName.Plain.leafForm plain (by decide)
      | descending => exact ColumnName.Plain.leafForm plain (by decide)
  | constant v => exact (Value.literal_form plain).leafForm
  | parameter p => exact Parameter.Plain.leafForm plain
  | binary | paging | pagingBy => cases leaf

/-! ### Expressions -/

namespace Expression

/-- A plain expression is a leaf or an operator over plain operands. -/
theorem Plain.cases {e : Expression} (plain : e.Plain) :
    e.IsLeaf ∨ ∃ op l r, e = .binary op l r ∧ l.Plain ∧ r.Plain := by
  cases e with
  | column | sortKey | constant | parameter => exact .inl trivial
  | binary op l r => exact .inr ⟨op, l, r, rfl, plain⟩
  | paging | pagingBy => cases plain

/-- The characters of an operator over its operands, in front of others. -/
theorem toList_binary_append {l r : Expression} (left : l.Plain) (right : r.Plain)
    (op : Operator) (rest : List Char) :
    (binary op l r).text.toList ++ rest
      = op.rendering.before.toList ++ (l.text.toList ++ (op.rendering.between.toList
        ++ (r.text.toList ++ (')' :: rest)))) := by
  have close : ")".toList = [')'] := by decide
  simp only [text_binary left right, String.toList_append, List.append_assoc, op.behind_eq, close,
    List.singleton_append]

/-- A leaf is known from a text that begins with it. -/
theorem IsLeaf.text_append_inj {a b : Expression} (leaf : a.IsLeaf) (ha : a.Plain) (hb : b.Plain)
    {r s : List Char} (hr : Follows r) (hs : Follows s)
    (same : a.text.toList ++ r = b.text.toList ++ s) : a.Alike b ∧ r = s := by
  have form := leafForm ha leaf
  rcases hb.cases with leaf' | ⟨op, l', r', rfl, left, right⟩
  · obtain ⟨text, rest⟩ := form.append_inj (leafForm hb leaf') hr hs same
    exact ⟨.leaf leaf leaf' (String.toList_injective text), rest⟩
  · rw [toList_binary_append left right] at same
    exact absurd same (form.append_ne_before op)

/-- **Expressions end at one place**, by induction on the first one: of two texts that begin with
plain expressions and are equal, the expressions are alike and the rests are equal. -/
theorem text_append_inj {a b : Expression} (ha : a.Plain) (hb : b.Plain) {r s : List Char}
    (hr : Follows r) (hs : Follows s) (same : a.text.toList ++ r = b.text.toList ++ s) :
    a.Alike b ∧ r = s := by
  induction a generalizing b r s with
  | column | sortKey | constant | parameter =>
      refine IsLeaf.text_append_inj ?_ ha hb hr hs same
      exact trivial
  | binary op x y ihx ihy =>
      rcases hb.cases with leaf | ⟨op', x', y', rfl, left, right⟩
      · rw [toList_binary_append ha.1 ha.2] at same
        exact absurd same.symm ((leafForm hb leaf).append_ne_before op)
      · rw [toList_binary_append ha.1 ha.2, toList_binary_append left right] at same
        have operands := Operator.before_append_inj same
        obtain ⟨first, inner⟩ := ihx ha.1 left (.between op _) (.between op' _) operands
        obtain ⟨rfl, operand⟩ := Operator.between_append_inj inner
        obtain ⟨second, rest⟩ := ihy ha.2 right (.behind _) (.behind _) operand
        exact ⟨.binary op first second, (List.cons.inj rest).2⟩
  | paging | pagingBy => cases ha

/-- Plain expressions with one text are alike. -/
theorem alike_of_text_eq {a b : Expression} (ha : a.Plain) (hb : b.Plain)
    (same : a.text = b.text) : a.Alike b :=
  (text_append_inj ha hb .nothing .nothing (congrArg (String.toList · ++ []) same)).1

/-- Alike expressions have one text. -/
theorem Alike.text_eq {a b : Expression} (h : a.Alike b) (ha : a.Plain) (hb : b.Plain) :
    a.text = b.text := by
  induction h with
  | leaf _ _ same => exact same
  | binary op _ _ left right =>
      rw [text_binary ha.1 ha.2, text_binary hb.1 hb.2, left ha.1 hb.1, right ha.2 hb.2]

end Expression

/-! ### Conditions -/

/-- A condition in parentheses. -/
def Expression.parenthesized (e : Expression) : String :=
  "(" ++ e.text ++ ")"

/-- A condition in parentheses is never empty, so no separator is left out at it. -/
theorem Expression.parenthesized_ne_empty (e : Expression) : Expression.parenthesized e ≠ "" := by
  intro none
  have chars := congrArg String.toList none
  simp [Expression.parenthesized, String.toList_append] at chars

/-- The conditions of a clause are joined, each in parentheses. -/
theorem filterClause_eq (filters : List Expression) :
    filterClause filters
      = if filters = [] then ""
        else " WHERE " ++ joined " AND " (filters.map Expression.parenthesized) := by
  have some : ∀ piece ∈ filters.map Expression.parenthesized, piece ≠ "" := by
    intro piece member
    obtain ⟨e, -, rfl⟩ := List.mem_map.mp member
    exact Expression.parenthesized_ne_empty e
  cases filters with
  | nil => rfl
  | cons e rest =>
      rw [if_neg (List.cons_ne_nil e rest), ← separated_eq_joined some]
      rfl

/-- What follows the first of some conditions. -/
def behindCondition : List Expression → List Char
  | [] => []
  | e :: rest =>
      ' ' :: 'A' :: 'N' :: 'D' :: ' '
        :: (joined " AND " ((e :: rest).map Expression.parenthesized)).toList

/-- The characters of joined conditions, cut behind the first one. -/
theorem toList_joined_conditions (e : Expression) (rest : List Expression) :
    (joined " AND " ((e :: rest).map Expression.parenthesized)).toList
      = '(' :: (e.text.toList ++ ')' :: behindCondition rest) := by
  cases rest with
  | nil => simp [joined, Expression.parenthesized, behindCondition, String.toList_append]
  | cons next rest =>
      simp [joined, Expression.parenthesized, behindCondition, String.toList_append]

/-- Joined plain conditions with one text are alike, one by one. -/
theorem joined_conditions_inj {fs gs : List Expression} (hf : ∀ e ∈ fs, e.Plain)
    (hg : ∀ e ∈ gs, e.Plain) (some : fs ≠ []) (some' : gs ≠ [])
    (same : joined " AND " (fs.map Expression.parenthesized)
      = joined " AND " (gs.map Expression.parenthesized)) :
    List.Forall₂ (fun a b => a.text = b.text ∧ a.Alike b) fs gs := by
  induction fs generalizing gs with
  | nil => exact absurd rfl some
  | cons a fs ih =>
      obtain ⟨b, gs, rfl⟩ := List.exists_cons_of_ne_nil some'
      obtain ⟨ha, hf⟩ := List.forall_mem_cons.mp hf
      obtain ⟨hb, hg⟩ := List.forall_mem_cons.mp hg
      have chars := congrArg String.toList same
      rw [toList_joined_conditions, toList_joined_conditions] at chars
      obtain ⟨alike, rest⟩ :=
        Expression.text_append_inj ha hb (.behind _) (.behind _) (List.cons.inj chars).2
      refine .cons ⟨alike.text_eq ha hb, alike⟩ ?_
      have behind := (List.cons.inj rest).2
      cases fs with
      | nil =>
          cases gs with
          | nil => exact .nil
          | cons _ _ => cases behind
      | cons f fs =>
          cases gs with
          | nil => cases behind
          | cons g gs =>
              have others : behindCondition (f :: fs) = behindCondition (g :: gs) := behind
              simp only [behindCondition, List.cons.injEq, true_and] at others
              exact ih hf hg (List.cons_ne_nil f fs) (List.cons_ne_nil g gs)
                (String.toList_injective others)

/-- Clauses of plain conditions with one text have conditions that are alike, one by one. -/
theorem filterClause_inj {fs gs : List Expression} (hf : ∀ e ∈ fs, e.Plain)
    (hg : ∀ e ∈ gs, e.Plain) (same : filterClause fs = filterClause gs) :
    List.Forall₂ (fun a b => a.text = b.text ∧ a.Alike b) fs gs := by
  have clause (conditions : String) : " WHERE " ++ conditions ≠ "" := by
    intro none
    have chars := congrArg String.toList none
    simp [String.toList_append] at chars
  rw [filterClause_eq, filterClause_eq] at same
  by_cases none : fs = []
  · by_cases none' : gs = []
    · rw [none, none']
      exact .nil
    · rw [if_pos none, if_neg none'] at same
      exact absurd same.symm (clause _)
  · by_cases none' : gs = []
    · rw [if_neg none, if_pos none'] at same
      exact absurd same (clause _)
    · rw [if_neg none, if_neg none'] at same
      have conditions := congrArg String.toList same
      rw [String.toList_append, String.toList_append] at conditions
      exact joined_conditions_inj hf hg none none'
        (String.toList_injective (List.append_cancel_left conditions))

/-- **Unique readability.** Two plain expressions that are written with one text, in whatever
fragments, have the same operators over leaves with the same texts. A clause of conditions is
their conjunction in order, each in parentheses, and clauses with one text have as many conditions
with, one by one, the same texts. -/
theorem Expression.unambiguous :
    (∀ {a b : Expression}, a.Plain → b.Plain → ∀ f g : Fragment,
      (a.write .transactSql f).text = (b.write .transactSql g).text → a.Alike b) ∧
    (∀ filters : List Expression, filterClause filters
      = if filters = [] then ""
        else " WHERE " ++ joined " AND " (filters.map fun e => "(" ++ e.text ++ ")")) ∧
    ∀ {fs gs : List Expression}, (∀ e ∈ fs, e.Plain) → (∀ e ∈ gs, e.Plain) →
      filterClause fs = filterClause gs →
        List.Forall₂ (fun a b => a.text = b.text ∧ a.Alike b) fs gs := by
  refine ⟨fun ha hb f g same => ?_, filterClause_eq, filterClause_inj⟩
  rw [write_eq ha, write_eq hb] at same
  exact alike_of_text_eq ha hb same

/-- Persons below an age, with the age bound to a name with one marker or with two. -/
theorem unambiguous_below_age :
    (Expression.binary .lessThan (.column ⟨⟨"app", "Person"⟩, "Age"⟩)
        (.parameter ⟨"@age", .ofInt32 18⟩)).Alike
      (.binary .lessThan (.column ⟨⟨"app", "Person"⟩, "Age"⟩)
        (.parameter ⟨"@@age", .ofUInt32 21⟩)) ∧
    List.Forall₂ (fun a b : Expression => a.text = b.text ∧ a.Alike b)
      [.column ⟨⟨"app", "Person"⟩, "Active"⟩, .parameter ⟨"@age", .ofInt32 18⟩]
      [.column ⟨⟨"app", "Person"⟩, "Active"⟩, .parameter ⟨"@@age", .ofUInt32 21⟩] := by
  have age : (Expression.column ⟨⟨"app", "Person"⟩, "Age"⟩).Plain :=
    ⟨by decide, by decide, by decide⟩
  have active : (Expression.column ⟨⟨"app", "Person"⟩, "Active"⟩).Plain :=
    ⟨by decide, by decide, by decide⟩
  have letters : ∀ c ∈ "age".toList, c.isAlphanum = true ∨ c = '_' := by
    have all : "age".toList.all Char.isAlphanum = true := by decide
    exact fun c member => .inl (List.all_eq_true.mp all c member)
  have one : (Expression.parameter ⟨"@age", .ofInt32 18⟩).Plain := letters
  have two : (Expression.parameter ⟨"@@age", .ofUInt32 21⟩).Plain := letters
  refine ⟨Expression.unambiguous.1 ⟨age, one⟩ ⟨age, two⟩ .filter .select (by decide), ?_⟩
  refine Expression.unambiguous.2.2 ?_ ?_ (by decide)
  · simp only [List.forall_mem_cons]
    exact ⟨active, one, nofun⟩
  · simp only [List.forall_mem_cons]
    exact ⟨active, two, nofun⟩

end EntitySql
