import EntitySql.Statement.Literal
import EntitySql.Statement.Written
/-!
# Writing expressions

A dialect says how each binary operator is put around its operands, or that it has no such
operator. An expression is then written from left to right; a paging operator or an operator that
the dialect lacks stops it, and what stands in front of it has been written by then.

## Main definitions

* `Rendering`, `Dialect`: how operators are written.
* `Dialect.transactSql`: the dialect of SQL Server, which has all operators.
* `Expression.write`: the text of an expression in a dialect.
-/

namespace EntitySql

/-- What is written in front of, between and behind the operands of an operator. -/
structure Rendering where
  before : String
  between : String
  behind : String
  deriving DecidableEq, Repr

/-- How the operators are written, where they are known. -/
abbrev Dialect := Operator → Option Rendering

/-- An operator between its operands, in parentheses. -/
def Rendering.infixed (symbol : String) : Rendering :=
  ⟨"(", " " ++ symbol ++ " ", ")"⟩

/-- The dialect of SQL Server. -/
def Dialect.transactSql : Dialect
  | .add => some (.infixed "+")
  | .subtract => some (.infixed "-")
  | .multiply => some (.infixed "*")
  | .divide => some (.infixed "/")
  | .power => some ⟨"POWER(", ", ", ")"⟩
  | .modulo => some (.infixed "%")
  | .bitAnd => some (.infixed "&")
  | .bitOr => some (.infixed "|")
  | .bitXor => some (.infixed "^")
  | .logicalAnd => some (.infixed "AND")
  | .logicalOr => some (.infixed "OR")
  | .equal => some (.infixed "=")
  | .notEqual => some (.infixed "<>")
  | .greaterThan => some (.infixed ">")
  | .greaterThanOrEqual => some (.infixed ">=")
  | .lessThan => some (.infixed "<")
  | .lessThanOrEqual => some (.infixed "<=")

open Written in
/-- The text of an expression in a fragment of a statement. -/
def Expression.write (dialect : Dialect) (fragment : Fragment) : Expression → Written Unit
  | .column c => Written.write c.bracketed
  | .sortKey k => Written.write k.text
  | .constant v => Written.write v.literal
  | .parameter p => Written.write p.reference
  | .binary op l r =>
      match dialect op with
      | none => stop (.unknownOperator op)
      | some rendering => do
          Written.write rendering.before
          l.write dialect fragment
          Written.write rendering.between
          r.write dialect fragment
          Written.write rendering.behind
  | .paging op | .pagingBy op _ => stop (.misplacedPaging op fragment)

/-- The text of an expression in the dialect of SQL Server, as far as it is written. -/
def Expression.text (e : Expression) : String :=
  (e.write .transactSql .expression).text

/-- Whether an expression can be written in a fragment of a statement for SQL Server. -/
def Expression.check (fragment : Fragment) (e : Expression) : Except DatabaseError Unit :=
  (e.write .transactSql fragment).result

end EntitySql
