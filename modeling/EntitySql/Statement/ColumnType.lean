import EntitySql.Value.Basic
/-!
# Column types

Every value is declared as a type of SQL Server that holds all data of its own type. The types
with a parameter are declared at their widest, so a text of any length fits and a time keeps all
the digits that the server has. A decimal is declared with the greatest precision and the scale of
its datum; an absent one takes the declared scale, as far as the server has it.

## Main definitions

* `ColumnType`, `ColumnType.written`: the types and how they are written.
* `ColumnType.maxPrecision`: the number of digits of the widest decimals.
* `Value.columnType`: the type that a value is declared as.
-/

namespace EntitySql

open EntitySql.Text

/-- A type of SQL Server. -/
inductive ColumnType where
  | bit
  | tinyInt
  | smallInt
  | int
  | bigInt
  /-- Decimals of at most `precision` digits, `scale` of them behind the point. -/
  | decimal (precision scale : Nat)
  | real
  | float
  | text
  | binary
  | date
  | time
  | timestamp
  | offsetTimestamp
  | uuid
  deriving DecidableEq, Repr

namespace ColumnType

/-- The number of digits of the widest decimals. -/
def maxPrecision : Nat := 38

/-- A type as it is written in a declaration. -/
def written : ColumnType → String
  | bit => "BIT"
  | tinyInt => "TINYINT"
  | smallInt => "SMALLINT"
  | int => "INT"
  | bigInt => "BIGINT"
  | decimal precision scale => "DECIMAL(" ++ natText precision ++ "," ++ natText scale ++ ")"
  | real => "REAL"
  | float => "FLOAT"
  | text => "NVARCHAR(MAX)"
  | binary => "VARBINARY(MAX)"
  | date => "DATE"
  | time => "TIME(7)"
  | timestamp => "DATETIME2(7)"
  | offsetTimestamp => "DATETIMEOFFSET(7)"
  | uuid => "UNIQUEIDENTIFIER"

end ColumnType

/-- The type that a value is declared as. -/
def Value.columnType : Value → ColumnType
  | ⟨.null, _⟩ | ⟨.varchar, _⟩ => .text
  | ⟨.boolean, _⟩ => .bit
  | ⟨.int8, _⟩ | ⟨.int16, _⟩ => .smallInt
  | ⟨.int32, _⟩ | ⟨.uint16, _⟩ => .int
  | ⟨.int64, _⟩ | ⟨.uint32, _⟩ => .bigInt
  | ⟨.uint8, _⟩ => .tinyInt
  | ⟨.uint64, _⟩ => .decimal 20 0
  | ⟨.float32, _⟩ => .real
  | ⟨.float64, _⟩ => .float
  | ⟨.decimal _ _, some x⟩ => .decimal ColumnType.maxPrecision x.scale
  | ⟨.decimal _ scale, none⟩ =>
      .decimal ColumnType.maxPrecision (min scale.toNat ColumnType.maxPrecision)
  | ⟨.blob, _⟩ => .binary
  | ⟨.date, _⟩ => .date
  | ⟨.time, _⟩ => .time
  | ⟨.timestamp, _⟩ => .timestamp
  | ⟨.timestampWithTimezone, _⟩ => .offsetTimestamp
  | ⟨.uuid, _⟩ => .uuid

end EntitySql
