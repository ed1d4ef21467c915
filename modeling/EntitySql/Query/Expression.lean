import EntitySql.Query.Name
import EntitySql.Query.Parameter
/-!
# Expressions

An expression is built from columns, sort keys, constants and parameters with binary operators.
It may also hold a paging operator, alone or with a row count: those have a meaning only as the
partitions of a query, and every other place refuses them.

## Main definitions

* `Operator`, `PagingOperator`: the operators.
* `SortKey`: a column with a direction.
* `Expression`, `Expression.subexpressions`.
* `Partition`: a paging operator with its row count.
-/

namespace EntitySql

/-- The binary operators. -/
inductive Operator where
  | add
  | subtract
  | multiply
  | divide
  | power
  | modulo
  | bitAnd
  | bitOr
  | bitXor
  | logicalAnd
  | logicalOr
  | equal
  | notEqual
  | greaterThan
  | greaterThanOrEqual
  | lessThan
  | lessThanOrEqual
  deriving DecidableEq, Repr

/-- The name of a binary operator. -/
def Operator.name : Operator → String
  | add => "Add"
  | subtract => "Subtract"
  | multiply => "Multiply"
  | divide => "Divide"
  | power => "Power"
  | modulo => "Modulo"
  | bitAnd => "And"
  | bitOr => "Or"
  | bitXor => "ExclusiveOr"
  | logicalAnd => "AndAlso"
  | logicalOr => "OrElse"
  | equal => "Equal"
  | notEqual => "NotEqual"
  | greaterThan => "GreaterThan"
  | greaterThanOrEqual => "GreaterThanOrEqual"
  | lessThan => "LessThan"
  | lessThanOrEqual => "LessThanOrEqual"

/-- All binary operators. -/
def Operator.all : List Operator :=
  [add, subtract, multiply, divide, power, modulo, bitAnd, bitOr, bitXor, logicalAnd, logicalOr,
    equal, notEqual, greaterThan, greaterThanOrEqual, lessThan, lessThanOrEqual]

/-- The operators that pick rows of an ordered result by their place. -/
inductive PagingOperator where
  | first
  | firstOrDefault
  | last
  | lastOrDefault
  | single
  | singleOrDefault
  | take
  | skip
  deriving DecidableEq, Repr

/-- The name of a paging operator. -/
def PagingOperator.name : PagingOperator → String
  | first => "First"
  | firstOrDefault => "FirstOrDefault"
  | last => "Last"
  | lastOrDefault => "LastOrDefault"
  | single => "Single"
  | singleOrDefault => "SingleOrDefault"
  | take => "Take"
  | skip => "Skip"

/-- All paging operators. -/
def PagingOperator.all : List PagingOperator :=
  [first, firstOrDefault, last, lastOrDefault, single, singleOrDefault, take, skip]

/-- The direction of a sort. -/
inductive Direction where
  | ascending
  | descending
  deriving DecidableEq, Repr

/-- A column to sort by, with a direction. -/
structure SortKey where
  column : ColumnName
  direction : Direction
  deriving DecidableEq, Repr

/-- The text of a sort key. -/
def SortKey.text (k : SortKey) : String :=
  k.column.bracketed ++ match k.direction with
    | .ascending => " ASC"
    | .descending => " DESC"

/-- An expression over the columns of a query. -/
inductive Expression where
  | column (column : ColumnName)
  | sortKey (key : SortKey)
  | constant (value : Value)
  | parameter (parameter : Parameter)
  | binary (operator : Operator) (left right : Expression)
  /-- A paging operator without a row count. -/
  | paging (operator : PagingOperator)
  /-- A paging operator with a row count. -/
  | pagingBy (operator : PagingOperator) (count : Expression)
  deriving BEq

namespace Expression

/-- Whether the expression is a paging operator. -/
def isPaging : Expression → Bool
  | paging _ | pagingBy _ _ => true
  | _ => false

/-- The expression and all expressions in it, each in front of its parts. -/
def subexpressions : Expression → List Expression
  | binary op l r => binary op l r :: (l.subexpressions ++ r.subexpressions)
  | pagingBy op count => pagingBy op count :: count.subexpressions
  | e => [e]

end Expression

/-- A paging operator applied to the rows of a query. -/
structure Partition where
  operator : PagingOperator
  count : Option Expression
  deriving BEq

namespace Partition

/-- The expression that holds a paging operator. -/
def toExpression (p : Partition) : Expression :=
  match p.count with
  | none => .paging p.operator
  | some count => .pagingBy p.operator count

/-- The first rows, so many of them. -/
def take (count : UInt32) : Partition :=
  ⟨.take, some (.constant (.ofUInt32 count))⟩

/-- All rows but so many at the front. -/
def skip (count : UInt32) : Partition :=
  ⟨.skip, some (.constant (.ofUInt32 count))⟩

end Partition

end EntitySql
