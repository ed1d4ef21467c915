import EntitySql.Statement.Select
/-!
# Compiling queries

A query becomes a select statement level by level. Within a level the projections are checked
first, then the levels inside it are compiled, then the conditions are checked, and last the
partitions are applied; the first fault on the way is the fault of the query.

Partitions fill a frame. A row limit on a frame that has one, and a skip behind a row limit, close
the frame and open another around it; consecutive skips add up; a reversal of the order comes with
a row limit of one. A frame inside a sub query is ordered only together with a row limit, since
the order of a derived table has no other meaning.

## Main definitions

* `OpenFrame`: a frame being filled, with `limit`, `leaveOut` and `close`.
* `OpenFrame.apply`: one partition.
* `Query.compile`: the statement of a query.
* `Query.select`: its text.
-/

namespace EntitySql

/-- A frame being filled. -/
structure OpenFrame where
  inner : Select
  top : Option Expression
  skips : List Expression
  selected : Bool
  descending : Bool

namespace OpenFrame

/-- An empty frame around a statement. -/
def around (inner : Select) : OpenFrame :=
  ⟨inner, none, [], false, false⟩

/-- The statement of a frame of a level. -/
def close (index : UInt32) (nested : Bool) (f : OpenFrame) : Select :=
  .frame
    { index := index
      top := f.top
      skips := f.skips
      selected := f.selected
      descending := f.descending
      ordered := f.top.isSome || !nested }
    f.inner

/-- The frame itself if it has no row limit, else an empty frame around it. -/
def unlimited (index : UInt32) (nested : Bool) (f : OpenFrame) : OpenFrame :=
  if f.top.isSome then around (f.close index nested) else f

/-- The frame with a row limit. -/
def limit (index : UInt32) (nested : Bool) (count : Expression) (f : OpenFrame) : OpenFrame :=
  { f.unlimited index nested with top := some count }

/-- The frame with rows left out at the front. -/
def leaveOut (index : UInt32) (nested : Bool) (count : Expression) (f : OpenFrame) : OpenFrame :=
  let f := f.unlimited index nested
  { f with skips := f.skips ++ [count] }

/-- The row limit of one. -/
def one : Expression :=
  .constant (.ofUInt32 1)

/-- The row count of a partition that needs one. -/
def countOf (p : Partition) : Except DatabaseError Expression :=
  match p.count with
  | none => .error (.missingCount p.operator)
  | some count => do
      count.check .partition
      return count

/-- A partition applied to a frame. Operators that need no row count ignore it. -/
def apply (index : UInt32) (nested : Bool) (f : OpenFrame) (p : Partition) :
    Except DatabaseError OpenFrame :=
  match p.operator with
  | .first | .firstOrDefault => .ok (f.limit index nested one)
  | .last | .lastOrDefault => .ok { f.limit index nested one with descending := true }
  | .single | .singleOrDefault => .ok { f with selected := true }
  | .take => do return f.limit index nested (← countOf p)
  | .skip => do return f.leaveOut index nested (← countOf p)

/-- Partitions applied one after the other. -/
def applyAll (index : UInt32) (nested : Bool) :
    OpenFrame → List Partition → Except DatabaseError OpenFrame
  | f, [] => .ok f
  | f, p :: rest => do applyAll index nested (← f.apply index nested p) rest

end OpenFrame

/-- Whether all expressions of a list can be written in a fragment. -/
def checkAll (fragment : Fragment) : List Expression → Except DatabaseError Unit
  | [] => .ok ()
  | e :: rest => do
      e.check fragment
      checkAll fragment rest

/-- The clauses of a level. Its sorts also order the rows unless partitions or an outer level
follow. -/
def Level.head (level : Level) (nested : Bool) : LevelHead where
  index := level.index
  sorts := level.sorts
  projections := level.projections
  filters := level.filters
  ordered := !level.sorts.isEmpty && !nested && level.partitions.isEmpty

/-- The statement of a level with the partitions of the level around it. -/
def Level.paged (level : Level) (nested : Bool) (s : Select) : Except DatabaseError Select :=
  if level.partitions.isEmpty then .ok s
  else do
    let f ← OpenFrame.applyAll level.index nested (.around s) level.partitions
    return f.close level.index nested

/-- The statement of a level and the levels inside it. -/
def Query.compileLevels (level : Level) (nested : Bool) :
    List Level → Except DatabaseError Select
  | [] => do
      checkAll .select level.projections
      checkAll .filter level.filters
      level.paged nested (.level (level.head nested) level.tables)
  | next :: rest => do
      checkAll .select level.projections
      let inner ← compileLevels next true rest
      checkAll .filter level.filters
      level.paged nested (.derived (level.head nested) inner)

/-- The statement of a query. -/
def Query.compile (q : Query) : Except DatabaseError Select :=
  match q.problem? with
  | some problem => .error (.invalidQuery (.query problem))
  | none => compileLevels q.outer false q.inner

/-- The text of the statement of a query. -/
def Query.select (q : Query) : Written Unit :=
  match q.compile with
  | .ok s => .write s.text
  | .error e => .stop e

end EntitySql
