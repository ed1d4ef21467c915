import EntitySql.Query.Expression
import EntitySql.Text.Digit
/-!
# Queries

A query is a chain of levels: the outermost one, and inside it the levels of its sub query, each
reading from the next. A level says what it reads, how it filters, sorts, shapes and pages, and
which parameters it registers. Its index names the aliases that it makes up, so the indexes of a
query must differ, and a level reads either from tables or from the level inside it.

## Main definitions

* `Level`, `Query`, `Query.levels`.
* `rowLabel`: the name of the window column of a level.
* `Query.ofTable`, `Query.ofTables`, `Query.ofSubQuery` and the functions that add to the
  outermost level.
* `Query.rowLabels`: the names of the window columns.
* `Query.allParameters`: the parameters of all levels, each name once.
* `Query.problem?`: the first fault of a query, if it has one.
-/

namespace EntitySql

open EntitySql.Text

/-- The name of the window column that numbers the rows of a level. -/
def rowLabel (index : UInt32) : String :=
  "RowId" ++ natText index.toNat

/-- One level of a query. -/
structure Level where
  tables : List TableName
  /-- Conditions that all hold. -/
  filters : List Expression
  sorts : List SortKey
  projections : List Expression
  /-- Applied one after the other. -/
  partitions : List Partition
  parameters : List Parameter
  index : UInt32
  deriving BEq

namespace Level

/-- A level that reads from tables and does nothing else. -/
def ofTables (tables : List TableName) : Level where
  tables := tables
  filters := []
  sorts := []
  projections := []
  partitions := []
  parameters := []
  index := 0

end Level

/-- A query: its outermost level and the levels of its sub query. -/
structure Query where
  outer : Level
  inner : List Level
  deriving BEq

namespace Query

/-- The levels, outermost first. -/
def levels (q : Query) : List Level :=
  q.outer :: q.inner

/-! ### Building queries -/

/-- All rows of tables, combined. -/
def ofTables (tables : List TableName) : Query :=
  ⟨Level.ofTables tables, []⟩

/-- All rows of a table. -/
def ofTable (table : TableName) : Query :=
  ofTables [table]

/-- The largest index of a query. -/
def maxIndex (q : Query) : UInt32 :=
  q.inner.foldl (fun m level => max m level.index) q.outer.index

/-- All rows of a sub query, with the index behind the largest one that it uses. -/
def ofSubQuery (sub : Query) : Query :=
  ⟨{ Level.ofTables [] with index := sub.maxIndex + 1 }, sub.levels⟩

/-- The query with an index of its outermost level. -/
def withIndex (q : Query) (index : UInt32) : Query :=
  { q with outer := { q.outer with index := index } }

/-- The query with other tables of its outermost level. -/
def withTables (q : Query) (tables : List TableName) : Query :=
  { q with outer := { q.outer with tables := tables } }

/-- The query with one more condition. -/
def filter (q : Query) (condition : Expression) : Query :=
  { q with outer := { q.outer with filters := q.outer.filters ++ [condition] } }

/-- The query with one more sort key. -/
def sort (q : Query) (key : SortKey) : Query :=
  { q with outer := { q.outer with sorts := q.outer.sorts ++ [key] } }

/-- The query with one more projection. -/
def project (q : Query) (projection : Expression) : Query :=
  { q with outer := { q.outer with projections := q.outer.projections ++ [projection] } }

/-- The query with one more partition. -/
def partition (q : Query) (p : Partition) : Query :=
  { q with outer := { q.outer with partitions := q.outer.partitions ++ [p] } }

/-- The query with one more parameter. -/
def parameter (q : Query) (p : Parameter) : Query :=
  { q with outer := { q.outer with parameters := q.outer.parameters ++ [p] } }

/-! ### Names and parameters -/

/-- The names of the window columns, outermost first. -/
def rowLabels (q : Query) : List String :=
  q.levels.map fun level => rowLabel level.index

/-- The parameters whose names are neither among those seen nor repeated. -/
def firstOfEachName (seen : List String) : List Parameter → List Parameter
  | [] => []
  | p :: rest =>
      if p.name ∈ seen then firstOfEachName seen rest
      else p :: firstOfEachName (p.name :: seen) rest

/-- The normalized parameters of all levels, outermost first, each name at its first
registration. -/
def allParameters (q : Query) : List Parameter :=
  firstOfEachName [] (q.levels.flatMap fun level => level.parameters.map Parameter.normalized)

end Query

/-! ### Faults -/

/-- A fault of a query. -/
inductive QueryProblem where
  /-- A level reads from tables and from a sub query. -/
  | bothSources (index : UInt32)
  /-- A level reads from nothing. -/
  | noSource (index : UInt32)
  /-- An index names two levels. -/
  | repeatedIndex (index : UInt32)
  deriving DecidableEq, Repr

/-- The text of the fault. -/
def QueryProblem.message : QueryProblem → String
  | .bothSources index =>
      "query " ++ natText index.toNat ++ " reads from both types and a sub query"
  | .noSource index => "query " ++ natText index.toNat ++ " has neither types nor a sub query"
  | .repeatedIndex index =>
      "query index " ++ natText index.toNat ++ " is used by more than one level"

namespace Query

/-- The first fault of levels, outermost first, given the indexes of the levels around them. -/
def problemOf? (seen : List UInt32) : List Level → Option QueryProblem
  | [] => none
  | level :: rest =>
      if !level.tables.isEmpty && !rest.isEmpty then some (.bothSources level.index)
      else if level.tables.isEmpty && rest.isEmpty then some (.noSource level.index)
      else if level.index ∈ seen then some (.repeatedIndex level.index)
      else problemOf? (level.index :: seen) rest

/-- The first fault of a query, if it has one. -/
def problem? (q : Query) : Option QueryProblem :=
  problemOf? [] q.levels

end Query

end EntitySql
