import EntitySql.Conformance.Check
/-!
# The person table

The conformance suite works on one table of people, which it makes anew before each part.

## Main definitions

* `personTable`, `personColumn`: the names of the table and its columns.
* `person`: a new person.
* `resetPersonTable`: makes the table anew.
-/

namespace EntitySql.Conformance

open Number Calendar

/-- The table of people. -/
def personTable : TableName :=
  ⟨"moth_tests", "Person"⟩

/-- A table that does not exist. -/
def missingTable : TableName :=
  ⟨"moth_tests", "Missing"⟩

/-- A column of the table of people. -/
def personColumn (name : String) : Expression :=
  .column ⟨personTable, name⟩

/-- A sort by a column of the table of people. -/
def personSort (name : String) (direction : Direction) : SortKey :=
  ⟨⟨personTable, name⟩, direction⟩

/-- The balance of every new person, 120.50. -/
def balance : Decimal :=
  ⟨false, 12050, 2, by decide, by decide⟩

/-- The year in which everyone has the stated age. -/
def presentYear : Int := 2026

/-- The fourteenth of March so many years ago, if there is one. -/
def birthday? (age : Int32) : Option Date :=
  Date.ofFields? (presentYear - age.toInt) 3 14

/-- The properties of a person without one that the database fills itself. -/
def personProperties (uuid : Uuid) (name : String) (age : Int32) (born : Date) :
    List Property :=
  [⟨"UId", .present .uuid uuid⟩, ⟨"Name", .ofString name⟩, ⟨"Age", .ofInt32 age⟩,
    ⟨"Balance", .ofDecimal balance⟩, ⟨"Born", .present .date born⟩, ⟨"Active", .ofBool true⟩]

/-- A new person. -/
def person {σ : Type} (name : String) (age : Int32) : Check σ Entity := do
  let uuid ← Check.identifier
  let born ← Check.some? (birthday? age)
  Check.ok (Entity.ofProperties (personProperties uuid name age born))

/-- The command that makes the table of people anew. -/
def resetCommand : String :=
  "IF OBJECT_ID(N'[moth_tests.Person]', N'U') IS NOT NULL DROP TABLE [moth_tests.Person];\n"
    ++ "CREATE TABLE [moth_tests.Person] (\n"
    ++ "[Id] INT IDENTITY(1,1) PRIMARY KEY,\n"
    ++ "[UId] UNIQUEIDENTIFIER NOT NULL UNIQUE,\n"
    ++ "[Name] NVARCHAR(100) NOT NULL,\n"
    ++ "[Age] INT NOT NULL,\n"
    ++ "[Balance] DECIMAL(18,2) NULL,\n"
    ++ "[Born] DATE NULL,\n"
    ++ "[Active] BIT NOT NULL\n);"

/-- Makes the table of people anew. -/
def resetPersonTable {σ : Type} (db : Database σ) : Check σ Unit := do
  let _ ← Check.expect (db.runText ⟨resetCommand, []⟩)

end EntitySql.Conformance
