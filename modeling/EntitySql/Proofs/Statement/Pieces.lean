import EntitySql.Proofs.Statement.Grammar
import EntitySql.Proofs.Statement.Readable
/-!
# The pieces of a statement

A statement is a text, and which of its characters refer to a parameter cannot be seen from it: a
literal or the name of a column may look the same. This module takes a statement apart into pieces
as its writer puts them down, references to parameters on the one hand and everything else on the
other, and proves that the pieces make up the text. What a statement refers to are then the
parameters among its expressions.

## Main definitions

* `Piece`, `Piece.joined`: texts and references, and the text that they make up.
* `Expression.pieces`, `Select.pieces`: the pieces of expressions and statements.
* `Select.expressions`: the expressions that a statement is written with.

## Main results

* `Expression.Writable.text_eq`, `Expression.Writable.reference_mem_pieces_iff`: an expression that
  can be written is made up of its pieces, and its references are the parameters in it.
* `Select.text_eq_joined_pieces`, `Select.reference_mem_pieces_iff`: so is a statement, and its
  references are those of its expressions.
-/

namespace EntitySql

open EntitySql.Text

/-! ### Pieces -/

/-- A piece of a statement: a text as it stands, or a reference to a parameter. -/
inductive Piece where
  | plain (text : String)
  | reference (parameter : Parameter)

namespace Piece

/-- The text of a piece. -/
def text : Piece → String
  | plain s => s
  | reference p => p.reference

/-- The text that pieces make up. -/
def joined (pieces : List Piece) : String :=
  String.join (pieces.map text)

/-- No pieces make the empty text. -/
@[simp] theorem joined_nil : joined [] = "" := rfl

/-- A plain piece stands in front of the others as it is. -/
@[simp] theorem joined_plain_cons (s : String) (pieces : List Piece) :
    joined (plain s :: pieces) = s ++ joined pieces := by
  rw [joined, List.map_cons, String.join_cons]
  rfl

/-- A reference stands in front of the others as its own text. -/
@[simp] theorem joined_reference_cons (p : Parameter) (pieces : List Piece) :
    joined (reference p :: pieces) = p.reference ++ joined pieces := by
  rw [joined, List.map_cons, String.join_cons]
  rfl

/-- Pieces side by side make texts side by side. -/
@[simp] theorem joined_append (front behind : List Piece) :
    joined (front ++ behind) = joined front ++ joined behind := by
  rw [joined, List.map_append, String.join_append]
  rfl

/-- Groups of pieces behind one that wrote something or did not, with a separator behind each that
wrote something. -/
def separatedAfter (separator : String) : (wrote : Bool) → List (List Piece) → List Piece
  | _, [] => []
  | wrote, group :: rest =>
      .plain (if wrote then separator else "") :: (group
        ++ separatedAfter separator (joined group != "") rest)

/-- Groups of pieces with a separator behind each that wrote something, the last one apart. -/
def separated (separator : String) (groups : List (List Piece)) : List Piece :=
  separatedAfter separator false groups

/-- Separated groups make the text that the separated texts of the groups make. -/
theorem joined_separated (separator : String) (groups : List (List Piece)) :
    joined (separated separator groups) = Text.separated separator (groups.map joined) := by
  have after (wrote : Bool) : joined (separatedAfter separator wrote groups)
      = Text.separatedAfter separator wrote (groups.map joined) := by
    induction groups generalizing wrote with
    | nil => rfl
    | cons group rest ih =>
        rw [separatedAfter, joined_plain_cons, joined_append, ih, List.map_cons,
          Text.separatedAfter_cons, String.append_assoc]
  exact after false

/-- Separators refer to nothing. -/
theorem reference_mem_separated_iff {p : Parameter} {separator : String}
    {groups : List (List Piece)} :
    .reference p ∈ separated separator groups ↔ ∃ group ∈ groups, .reference p ∈ group := by
  have after (wrote : Bool) : .reference p ∈ separatedAfter separator wrote groups ↔
      ∃ group ∈ groups, .reference p ∈ group := by
    induction groups generalizing wrote with
    | nil => simp [separatedAfter]
    | cons group rest ih => simp [separatedAfter, ih]
  exact after false

end Piece

/-! ### Expressions -/

namespace Expression

/-- The pieces of an expression. -/
def pieces : Expression → List Piece
  | .column c => [.plain c.bracketed]
  | .sortKey k => [.plain k.text]
  | .constant v => [.plain v.literal]
  | .parameter p => [.reference p]
  | .binary op l r =>
      .plain op.rendering.before :: (l.pieces ++ .plain op.rendering.between :: (r.pieces
        ++ [.plain op.rendering.behind]))
  | .paging _ | .pagingBy _ _ => []

/-- Whether an expression can be written in some fragment of a statement. -/
def Writable (e : Expression) : Prop :=
  ∃ fragment, e.check fragment = .ok ()

/-- An operator can be written exactly when its operands can. -/
theorem check_binary_eq_ok_iff {op : Operator} {l r : Expression} {fragment : Fragment} :
    (binary op l r).check fragment = .ok () ↔
      l.check fragment = .ok () ∧ r.check fragment = .ok () := by
  rw [check, write, transactSql_eq]
  simp only [Written.write_bind, Written.result_bind_eq_ok_iff]
  constructor
  · rintro ⟨_, left, _, right, -⟩
    exact ⟨left, right⟩
  · rintro ⟨left, right⟩
    exact ⟨(), left, (), right, rfl⟩

/-- An expression that can be written in one fragment is made up of its pieces in all of them. -/
theorem Writable.write_eq {e : Expression} (writable : e.Writable) (fragment : Fragment) :
    e.write .transactSql fragment = .write (Piece.joined e.pieces) := by
  obtain ⟨place, checked⟩ := writable
  induction e generalizing fragment with
  | column | sortKey | constant | parameter => simp [write, pieces]
  | binary op l r ihl ihr =>
      obtain ⟨left, right⟩ := check_binary_eq_ok_iff.mp checked
      have text {e : Expression}
          (written : ∀ fragment, e.write .transactSql fragment = .write (Piece.joined e.pieces)) :
          e.text = Piece.joined e.pieces :=
        congrArg Written.text (written .expression)
      have whole {e : Expression}
          (written : ∀ fragment, e.write .transactSql fragment = .write (Piece.joined e.pieces))
          (fragment : Fragment) : e.write .transactSql fragment = .write e.text := by
        rw [text written, written]
      rw [write_binary (whole (ihl · left)) (whole (ihr · right)), text (ihl · left),
        text (ihr · right)]
      simp [pieces, String.append_assoc]
  | paging | pagingBy => cases checked

/-- An expression that can be written is made up of its pieces. -/
theorem Writable.text_eq {e : Expression} (writable : e.Writable) :
    e.text = Piece.joined e.pieces :=
  congrArg Written.text (writable.write_eq .expression)

/-- The references of an expression that can be written are the parameters in it. -/
theorem Writable.reference_mem_pieces_iff {e : Expression} (writable : e.Writable)
    {p : Parameter} : .reference p ∈ e.pieces ↔ .parameter p ∈ e.subexpressions := by
  obtain ⟨place, checked⟩ := writable
  induction e with
  | column | sortKey | constant | parameter => simp [pieces, subexpressions]
  | binary op l r ihl ihr =>
      obtain ⟨left, right⟩ := check_binary_eq_ok_iff.mp checked
      simp [pieces, subexpressions, ihl left, ihr right]
  | paging | pagingBy => cases checked

end Expression

/-! ### Clauses -/

section Clauses

variable {es : List Expression} {e : Expression} {p : Parameter}

/-- The pieces of projections, or of all columns. -/
def projectionPieces (projections : List Expression) : List Piece :=
  if projections.isEmpty then [.plain "*"]
  else Piece.separated ", " (projections.map Expression.pieces)

/-- The pieces of an expression in parentheses. -/
def parenthesizedPieces (e : Expression) : List Piece :=
  .plain "(" :: (e.pieces ++ [.plain ")"])

/-- The pieces of conditions behind the word that introduces them. -/
def filterPieces (filters : List Expression) : List Piece :=
  if filters.isEmpty then []
  else .plain " WHERE " :: Piece.separated " AND " (filters.map parenthesizedPieces)

/-- The pieces of a row limit. -/
def topPieces : Expression → List Piece
  | .constant v => [.plain v.literal]
  | e => parenthesizedPieces e

/-- The pieces of a sum of row counts behind those of a first one. -/
def sumPieces : List Piece → List Expression → List Piece
  | sum, [] => sum
  | sum, e :: rest =>
      sumPieces (.plain "(" :: (sum ++ .plain " + " :: (e.pieces ++ [.plain ")"]))) rest

/-- The pieces of the sum of row counts. -/
def skipPieces : List Expression → List Piece
  | [] => []
  | first :: rest => sumPieces first.pieces rest

/-- Projections are written as their pieces. -/
theorem projectionClause_eq_joined (writable : ∀ e ∈ es, e.Writable) :
    projectionClause es = Piece.joined (projectionPieces es) := by
  have texts : es.map Expression.text = (es.map Expression.pieces).map Piece.joined := by
    rw [List.map_map]
    exact List.map_congr_left fun e member => (writable e member).text_eq
  rw [projectionClause, projectionPieces]
  split
  · rfl
  · rw [Piece.joined_separated, texts]

/-- An expression in parentheses is written as its pieces. -/
theorem joined_parenthesizedPieces (writable : e.Writable) :
    "(" ++ e.text ++ ")" = Piece.joined (parenthesizedPieces e) := by
  simp [parenthesizedPieces, writable.text_eq, String.append_assoc]

/-- Conditions are written as their pieces. -/
theorem filterClause_eq_joined (writable : ∀ e ∈ es, e.Writable) :
    filterClause es = Piece.joined (filterPieces es) := by
  have texts : es.map (fun e => "(" ++ e.text ++ ")")
      = (es.map parenthesizedPieces).map Piece.joined := by
    rw [List.map_map]
    exact List.map_congr_left fun e member => joined_parenthesizedPieces (writable e member)
  rw [filterClause, filterPieces]
  split
  · rfl
  · rw [Piece.joined_plain_cons, Piece.joined_separated, texts]

/-- A row limit is written as its pieces. -/
theorem topText_eq_joined (writable : e.Writable) : topText e = Piece.joined (topPieces e) := by
  cases e with
  | constant v => simp [topText, topPieces]
  | _ => exact joined_parenthesizedPieces writable

/-- A sum of row counts is written as its pieces. -/
theorem skipText_eq_joined (writable : ∀ e ∈ es, e.Writable) :
    skipText es = Piece.joined (skipPieces es) := by
  have sum {rest : List Expression} (writable : ∀ e ∈ rest, e.Writable) (front : List Piece) :
      rest.foldl (fun sum e => "(" ++ sum ++ " + " ++ e.text ++ ")") (Piece.joined front)
        = Piece.joined (sumPieces front rest) := by
    induction rest generalizing front with
    | nil => rfl
    | cons e rest ih =>
        obtain ⟨first, others⟩ := List.forall_mem_cons.mp writable
        rw [sumPieces, ← ih others, List.foldl_cons, first.text_eq]
        simp [String.append_assoc]
  cases es with
  | nil => rfl
  | cons first rest =>
      obtain ⟨head, others⟩ := List.forall_mem_cons.mp writable
      rw [skipText, skipPieces, head.text_eq, sum others]

/-- Projections refer to what one of them refers to. -/
theorem reference_mem_projectionPieces_iff :
    .reference p ∈ projectionPieces es ↔ ∃ e ∈ es, .reference p ∈ e.pieces := by
  rw [projectionPieces]
  split
  next none => simp [List.isEmpty_iff.mp none]
  next => simp [Piece.reference_mem_separated_iff]

/-- Parentheses neither add a reference nor hide one. -/
theorem reference_mem_parenthesizedPieces_iff :
    .reference p ∈ parenthesizedPieces e ↔ .reference p ∈ e.pieces := by
  simp [parenthesizedPieces]

/-- Conditions refer to what one of them refers to. -/
theorem reference_mem_filterPieces_iff :
    .reference p ∈ filterPieces es ↔ ∃ e ∈ es, .reference p ∈ e.pieces := by
  rw [filterPieces]
  split
  next none => simp [List.isEmpty_iff.mp none]
  next => simp [Piece.reference_mem_separated_iff, reference_mem_parenthesizedPieces_iff]

/-- A row limit refers to what its count refers to. -/
theorem reference_mem_topPieces_iff :
    .reference p ∈ topPieces e ↔ .reference p ∈ e.pieces := by
  cases e with
  | constant v => simp [topPieces, Expression.pieces]
  | _ => exact reference_mem_parenthesizedPieces_iff

/-- A sum of row counts refers to what one of them refers to. -/
theorem reference_mem_skipPieces_iff :
    .reference p ∈ skipPieces es ↔ ∃ e ∈ es, .reference p ∈ e.pieces := by
  have sum (rest : List Expression) (front : List Piece) :
      .reference p ∈ sumPieces front rest ↔
        .reference p ∈ front ∨ ∃ e ∈ rest, .reference p ∈ e.pieces := by
    induction rest generalizing front with
    | nil => simp [sumPieces]
    | cons e rest ih => simp [sumPieces, ih, or_assoc]
  cases es with
  | nil => simp [skipPieces]
  | cons first rest => simp [skipPieces, sum]

end Clauses

/-! ### Statements -/

/-- The pieces of a level around those of its source. -/
def LevelHead.pieces (head : LevelHead) (source : List Piece) : List Piece :=
  .plain ("SELECT ROW_NUMBER() OVER(" ++ windowClause head.sorts ++ ") AS "
    ++ rowLabel head.index ++ ", ") :: (projectionPieces head.projections
    ++ .plain " FROM " :: (source ++ filterPieces head.filters
    ++ [.plain (if head.ordered then " " ++ orderClause head.sorts else "")]))

/-- The pieces of the row limit of a frame, or of the word that stands for a selection. -/
def Frame.limitPieces (frame : Frame) : List Piece :=
  match frame.top with
  | some count => .plain "SELECT TOP " :: (topPieces count ++ [.plain " "])
  | none => [.plain (if frame.selected then "SELECT " else "")]

/-- The pieces of the condition of a frame. -/
def Frame.conditionPieces (frame : Frame) : List Piece :=
  if frame.skips.isEmpty then []
  else .plain (" WHERE " ++ rowLabel frame.index ++ " > ") :: skipPieces frame.skips

/-- The pieces of a frame around those of its inner statement. -/
def Frame.pieces (frame : Frame) (inner : List Piece) : List Piece :=
  frame.limitPieces ++ .plain "* FROM (" :: (inner
    ++ .plain (") AS P" ++ natText frame.index.toNat) :: (frame.conditionPieces
    ++ [.plain frame.orderText]))

namespace Select

/-- The pieces of a statement. -/
def pieces : Select → List Piece
  | .level head tables => head.pieces [.plain (Text.joined ", " (tables.map TableName.bracketed))]
  | .derived head inner =>
      head.pieces (.plain "(" :: (inner.pieces
        ++ [.plain (") AS F" ++ natText head.index.toNat)]))
  | .frame f inner => f.pieces inner.pieces

/-- The expressions that a statement is written with: projections and conditions of levels, row
counts of frames. -/
def expressions : Select → List Expression
  | .level head _ => head.projections ++ head.filters
  | .derived head inner => head.projections ++ head.filters ++ inner.expressions
  | .frame f inner => f.top.toList ++ f.skips ++ inner.expressions

end Select

/-- A level is written as its pieces around those of its source. -/
theorem LevelHead.text_eq_joined {head : LevelHead}
    (projections : ∀ e ∈ head.projections, e.Writable)
    (filters : ∀ e ∈ head.filters, e.Writable) (source : List Piece) :
    head.text (Piece.joined source) = Piece.joined (head.pieces source) := by
  unfold LevelHead.text LevelHead.pieces
  rw [projectionClause_eq_joined projections, filterClause_eq_joined filters]
  simp only [Piece.joined_plain_cons, Piece.joined_append, Piece.joined_nil, String.append_assoc,
    String.append_empty]

/-- A frame is written as its pieces around those of its inner statement. -/
theorem Frame.text_eq_joined {frame : Frame} (top : ∀ e ∈ frame.top.toList, e.Writable)
    (skips : ∀ e ∈ frame.skips, e.Writable) (inner : List Piece) :
    frame.text (Piece.joined inner) = Piece.joined (frame.pieces inner) := by
  have limit : frame.limitText = Piece.joined frame.limitPieces := by
    rw [limitText, limitPieces]
    cases count : frame.top with
    | none => simp
    | some e =>
        have writable : e.Writable := top e (by simp [count])
        simp [topText_eq_joined writable, String.append_assoc]
  have condition : frame.conditionText = Piece.joined frame.conditionPieces := by
    rw [conditionText, conditionPieces]
    split
    · rfl
    · rw [Piece.joined_plain_cons, skipText_eq_joined skips]
  rw [text_eq, limit, condition]
  simp [Frame.pieces, String.append_assoc]

namespace Select

/-- **A statement whose expressions can be written is made up of its pieces.** -/
theorem text_eq_joined_pieces {s : Select} (writable : ∀ e ∈ s.expressions, e.Writable) :
    s.text = Piece.joined s.pieces := by
  induction s with
  | level head tables =>
      obtain ⟨projections, filters⟩ := List.forall_mem_append.mp writable
      have source : Text.joined ", " (tables.map TableName.bracketed)
          = Piece.joined [.plain (Text.joined ", " (tables.map TableName.bracketed))] := by
        simp
      rw [text, pieces, source, LevelHead.text_eq_joined projections filters, ← source]
  | derived head inner ih =>
      obtain ⟨own, inside⟩ := List.forall_mem_append.mp writable
      obtain ⟨projections, filters⟩ := List.forall_mem_append.mp own
      have source : "(" ++ inner.text ++ ") AS F" ++ natText head.index.toNat
          = Piece.joined (.plain "(" :: (inner.pieces
              ++ [.plain (") AS F" ++ natText head.index.toNat)])) := by
        simp [ih inside, String.append_assoc]
      rw [text, pieces, source, LevelHead.text_eq_joined projections filters]
  | frame f inner ih =>
      obtain ⟨own, inside⟩ := List.forall_mem_append.mp writable
      obtain ⟨top, skips⟩ := List.forall_mem_append.mp own
      rw [text, pieces, ih inside, Frame.text_eq_joined top skips]

/-- **A statement refers to what its expressions refer to.** -/
theorem reference_mem_pieces_iff {s : Select} {p : Parameter} :
    .reference p ∈ s.pieces ↔ ∃ e ∈ s.expressions, .reference p ∈ e.pieces := by
  induction s with
  | level head tables =>
      simp [pieces, expressions, LevelHead.pieces, reference_mem_projectionPieces_iff,
        reference_mem_filterPieces_iff, or_and_right, exists_or]
  | derived head inner ih =>
      simp only [pieces, expressions, LevelHead.pieces, List.mem_cons, List.mem_append,
        reduceCtorEq, false_or, or_false, List.not_mem_nil, reference_mem_projectionPieces_iff,
        reference_mem_filterPieces_iff, ih, or_and_right, exists_or, or_assoc]
      exact or_congr_right or_comm
  | frame f inner ih =>
      have limit : .reference p ∈ f.limitPieces ↔
          ∃ e ∈ f.top.toList, .reference p ∈ e.pieces := by
        rw [Frame.limitPieces]
        cases f.top with
        | none => simp
        | some count => simp [reference_mem_topPieces_iff]
      have condition : .reference p ∈ f.conditionPieces ↔
          ∃ e ∈ f.skips, .reference p ∈ e.pieces := by
        rw [Frame.conditionPieces]
        split
        next none => simp [List.isEmpty_iff.mp none]
        next => simp [reference_mem_skipPieces_iff]
      simp only [pieces, expressions, Frame.pieces, List.mem_cons, List.mem_append, reduceCtorEq,
        false_or, or_false, List.not_mem_nil, limit, condition, ih, or_and_right, exists_or,
        or_assoc]
      exact or_congr_right or_comm

end Select

end EntitySql
