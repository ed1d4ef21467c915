/-!
# Fragments of statements

The part of a statement that is being written. Messages about an expression that has no meaning
in a place name the part.

## Main definitions

* `Fragment`, `Fragment.text`.
-/

namespace EntitySql

/-- A part of a statement. -/
inductive Fragment where
  /-- An expression outside of any statement. -/
  | expression
  | deleteFrom
  | deleteWhere
  | insertInto
  | insertValues
  | select
  | source
  | orderBy
  | partition
  | filter
  | updateSet
  | updateWhere
  deriving DecidableEq, Repr

/-- The name of a part of a statement in messages. -/
def Fragment.text : Fragment → String
  | .expression => "expression"
  | .deleteFrom => "DELETE FROM"
  | .deleteWhere => "DELETE WHERE"
  | .insertInto => "INSERT INTO"
  | .insertValues => "INSERT VALUES"
  | .select => "SELECT"
  | .source => "FROM"
  | .orderBy => "ORDER BY"
  | .partition => "partition"
  | .filter => "WHERE"
  | .updateSet => "UPDATE SET"
  | .updateWhere => "UPDATE WHERE"

end EntitySql
