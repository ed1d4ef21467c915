import EntitySql.Failure
import EntitySql.Statement.Declaration
import EntitySql.Wire.Encoding
/-!
# Batches

A command with parameters is sent as a batch: its text behind the declarations of its parameters,
and the values of the parameters in the same order, which the wire protocol binds to the names
`@P1`, `@P2`, …. A command without parameters is sent as it is. The server is told the type of
every bound cell.

## Main definitions

* `Batch`, `TextQuery.batch`: what is sent for a command.
* `Batch.cells?`: the cells that are bound.
* `bindings`: the types of the bound cells.
-/

namespace EntitySql

open EntitySql.Text EntitySql.Wire

/-- A text and the values that are bound to its positions. -/
structure Batch where
  text : String
  values : List Value

/-- The batch of a command, unless a parameter has a reserved name. -/
def TextQuery.batch (q : TextQuery) : Except DatabaseError Batch :=
  if q.parameters.isEmpty then .ok ⟨q.command, []⟩
  else do
    (declarations q.parameters).result
    return ⟨(declarations q.parameters).text ++ q.command, q.parameters.map Parameter.value⟩

/-- The cells that are bound, unless a value has none. -/
def Batch.cells? (b : Batch) : Option (List Cell) :=
  b.values.mapM Value.cell?

namespace Wire

/-! ### The types of bound cells -/

/-- The number of digits of a number of the wire, at least one of them in front of the point. -/
def Numeric.precision (n : Numeric) : Nat :=
  (numeral (n.unscaled.natAbs / Number.tenTo n.scale)).length + n.scale

/-- The type that a cell is bound as. -/
def Cell.bindingType : Cell → String
  | ⟨.bit, _⟩ => "bit"
  | ⟨.uint8, _⟩ => "tinyint"
  | ⟨.int16, _⟩ => "smallint"
  | ⟨.int32, _⟩ => "int"
  | ⟨.int64, _⟩ => "bigint"
  | ⟨.single, _⟩ => "float(24)"
  | ⟨.double, _⟩ => "float(53)"
  | ⟨.numeric, none⟩ => "numeric"
  | ⟨.numeric, some n⟩ => "numeric(" ++ natText n.precision ++ "," ++ natText n.scale ++ ")"
  | ⟨.text, none⟩ => "nvarchar(4000)"
  | ⟨.text, some s⟩ => if s.utf8ByteSize ≤ 4000 then "nvarchar(4000)" else "nvarchar(max)"
  | ⟨.markup, _⟩ => "xml"
  | ⟨.uuid, _⟩ => "uniqueidentifier"
  | ⟨.bytes, none⟩ => "varbinary(max)"
  | ⟨.bytes, some s⟩ => if s.length ≤ 8000 then "varbinary(8000)" else "varbinary(max)"
  | ⟨.date, _⟩ => "date"
  | ⟨.time, _⟩ => "time"
  | ⟨.coarse, _⟩ => "datetime"
  | ⟨.minute, _⟩ => "smalldatetime"
  | ⟨.fine, _⟩ => "datetime2"
  | ⟨.zoned, _⟩ => "datetimeoffset"

/-- The name of a position, counted from one, with the type of the cell bound to it. -/
def binding (position : Nat) (c : Cell) : String :=
  "@P" ++ natText position ++ " " ++ c.bindingType

/-- The names of the positions with the types of the cells bound to them. -/
def bindings (cells : List Cell) : String :=
  joined "," (cells.mapIdx fun i c => binding (i + 1) c)

end Wire

end EntitySql
