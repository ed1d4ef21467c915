import EntitySql.Query.Basic
import EntitySql.Statement.Expression
/-!
# Select statements

A query compiles to a select statement, which is data with one printer. A statement is a level
over tables, a level over an inner statement, or a frame over an inner statement. A level numbers
its rows in a window column `RowId<q>` and an inner statement is its derived table `F<q>`. A frame
reads the derived table `P<q>` and picks rows by their numbers: those behind a skip, then a
number of them from the top of the stated order.

A frame without a row limit and without a selection is printed without the word `SELECT`.

## Main definitions

* `LevelHead`, `Frame`, `Select`.
* `Select.text`: the text of a statement.
-/

namespace EntitySql

open EntitySql.Text

/-- The clauses of a level. -/
structure LevelHead where
  index : UInt32
  sorts : List SortKey
  projections : List Expression
  filters : List Expression
  /-- Whether the sorts also order the rows of the statement. -/
  ordered : Bool

/-- The clauses of a frame. -/
structure Frame where
  index : UInt32
  /-- The number of rows to keep. -/
  top : Option Expression
  /-- The numbers of rows to leave out, which add up. -/
  skips : List Expression
  /-- Whether the frame selects without a row limit. -/
  selected : Bool
  descending : Bool
  /-- Whether the frame orders its rows by their numbers. -/
  ordered : Bool

/-- A select statement. -/
inductive Select where
  /-- A level that reads from tables. -/
  | level (head : LevelHead) (tables : List TableName)
  /-- A level that reads from an inner statement. -/
  | derived (head : LevelHead) (inner : Select)
  /-- A frame that picks rows of an inner statement. -/
  | frame (frame : Frame) (inner : Select)

/-! ### The texts of clauses -/

/-- Sort keys behind the words that introduce them. -/
def orderClause (sorts : List SortKey) : String :=
  "ORDER BY " ++ separated ", " (sorts.map SortKey.text)

/-- The window that numbers the rows of a level: its sorts, or the identity column. -/
def windowClause (sorts : List SortKey) : String :=
  if sorts.isEmpty then "ORDER BY Id" else orderClause sorts

/-- The projections of a level, or all columns. -/
def projectionClause (projections : List Expression) : String :=
  if projections.isEmpty then "*" else separated ", " (projections.map Expression.text)

/-- The conditions of a level, each in parentheses, behind the word that introduces them. -/
def filterClause (filters : List Expression) : String :=
  if filters.isEmpty then ""
  else " WHERE " ++ separated " AND " (filters.map fun e => "(" ++ e.text ++ ")")

/-- A row limit: a constant stands as it is, every other expression in parentheses. -/
def topText : Expression → String
  | .constant v => v.literal
  | e => "(" ++ e.text ++ ")"

/-- The sum of row counts, from left to right. -/
def skipText : List Expression → String
  | [] => ""
  | first :: rest =>
      rest.foldl (fun sum e => "(" ++ sum ++ " + " ++ e.text ++ ")") first.text

/-! ### The texts of statements -/

/-- The text of a level over the text of its source. -/
def LevelHead.text (head : LevelHead) (source : String) : String :=
  "SELECT ROW_NUMBER() OVER(" ++ windowClause head.sorts ++ ") AS " ++ rowLabel head.index ++ ", "
    ++ projectionClause head.projections ++ " FROM " ++ source ++ filterClause head.filters
    ++ (if head.ordered then " " ++ orderClause head.sorts else "")

/-- The text of a frame over the text of its inner statement. -/
def Frame.text (frame : Frame) (inner : String) : String :=
  let limit := match frame.top with
    | some count => "SELECT TOP " ++ topText count ++ " "
    | none => if frame.selected then "SELECT " else ""
  let condition :=
    if frame.skips.isEmpty then ""
    else " WHERE " ++ rowLabel frame.index ++ " > " ++ skipText frame.skips
  let order :=
    if frame.descending then " ORDER BY " ++ rowLabel frame.index ++ " DESC"
    else if frame.ordered then " ORDER BY " ++ rowLabel frame.index
    else ""
  limit ++ "* FROM (" ++ inner ++ ") AS P" ++ natText frame.index.toNat ++ condition ++ order

/-- The text of a select statement. -/
def Select.text : Select → String
  | .level head tables => head.text (joined ", " (tables.map TableName.bracketed))
  | .derived head inner =>
      head.text ("(" ++ inner.text ++ ") AS F" ++ natText head.index.toNat)
  | .frame f inner => f.text inner.text

end EntitySql
