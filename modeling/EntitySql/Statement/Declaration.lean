import EntitySql.Query.Parameter
import EntitySql.Statement.ColumnType
import EntitySql.Statement.Written
/-!
# Declaring parameters

The wire protocol binds values to the names `@P1`, `@P2`, … by position. A command refers to its
parameters by their own names, so a batch starts with one line for each parameter, which declares
a variable of the type of its value and gives it the value at its position. A parameter whose bare
name is itself of the form `P1` is refused.

## Main definitions

* `isPositional`: the reserved names.
* `declaration`, `declarations`: the line for a parameter and the lines for all of them.
-/

namespace EntitySql

open EntitySql.Text Written

/-- Whether a bare name is the letter P of either case and decimal digits, at least one. -/
def isPositional (name : String) : Bool :=
  match name.toList with
  | 'P' :: digits | 'p' :: digits => !digits.isEmpty && digits.all Char.isDigit
  | _ => false

/-- The line that declares a parameter and gives it the value at a position. -/
def declaration (position : Nat) (p : Parameter) : String :=
  "DECLARE " ++ p.reference ++ " " ++ p.value.columnType.written ++ " = @P" ++ natText position
    ++ ";\n"

/-- The lines for parameters at positions from a given one on. -/
def declarationsFrom (position : Nat) : List Parameter → Written Unit
  | [] => pure ()
  | p :: rest =>
      if isPositional p.bareName then stop (.invalidQuery (.reservedName p.bareName))
      else do
        write (declaration position p)
        declarationsFrom (position + 1) rest

/-- The lines that declare parameters, in order. -/
def declarations (parameters : List Parameter) : Written Unit :=
  declarationsFrom 1 parameters

end EntitySql
