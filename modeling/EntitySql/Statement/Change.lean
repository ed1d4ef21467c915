import EntitySql.Entity
import EntitySql.Statement.Context
import EntitySql.Statement.Written
/-!
# Statements that change a table

An entity is inserted with all its properties but the identity column. It is updated and deleted
by its key column `UId`, and an update sets all its properties but the two. Values are not
written: each has a placeholder `@0`, `@1`, … in the order of the properties, the key has `@UId`,
and the writer returns the parameters that bind them.

## Main definitions

* `identityColumn`, `keyColumn`.
* `Context.placeholders`: ordinal parameters for values.
* `Entity.writeInsert`, `Entity.writeUpdate`, `Entity.writeDelete`.
-/

namespace EntitySql

open EntitySql.Text Written

/-- The column that the database fills itself. -/
def identityColumn : String := "Id"

/-- The column that identifies a row. -/
def keyColumn : String := "UId"

/-- The parameters that bind values to the next ordinals of a context. -/
def Context.placeholders (c : Context) : List Value → List Parameter × Context
  | [] => ([], c)
  | v :: rest =>
      let (n, c) := c.next
      let (parameters, c) := c.placeholders rest
      (⟨"@" ++ natText n.toNat, v⟩ :: parameters, c)

/-- The identifier of a column of a table. -/
def columnText (table : TableName) (name : String) : String :=
  ColumnName.bracketed ⟨table, name⟩

/-- The condition that the key column has the value of a parameter. -/
def keyCondition (table : TableName) (key : Parameter) : String :=
  columnText table keyColumn ++ "=" ++ key.reference

/-- The parameter that binds the key of an entity. -/
def Entity.keyParameter (e : Entity) : Except DatabaseError Parameter := do
  return Parameter.normalized ⟨keyColumn, ← e.value keyColumn⟩

/-- The properties that an insertion writes. -/
def Entity.insertColumns (e : Entity) : List Property :=
  e.properties.filter (·.name != identityColumn)

/-- The properties that an update writes. -/
def Entity.updateColumns (e : Entity) : List Property :=
  e.properties.filter fun p => p.name != identityColumn && p.name != keyColumn

/-- The statement that inserts an entity into a table. -/
def Entity.writeInsert (e : Entity) (table : TableName) : Written (List Parameter) :=
  let columns := e.insertColumns
  if columns.isEmpty then do
    write ("INSERT INTO " ++ table.bracketed ++ " OUTPUT INSERTED.* DEFAULT VALUES")
    return []
  else do
    let (parameters, _) := (Context.new .insertInto 0).within .insertValues fun c =>
      c.placeholders (columns.map Property.value)
    write ("INSERT INTO " ++ table.bracketed ++ " (")
    write (joined ", " (columns.map fun p => columnText table p.name))
    write ") OUTPUT INSERTED.* VALUES("
    write (joined ", " (parameters.map Parameter.reference) ++ ")")
    return parameters

/-- The statement that updates the row of an entity. -/
def Entity.writeUpdate (e : Entity) (table : TableName) : Written (List Parameter) :=
  match e.keyParameter with
  | .error error => stop error
  | .ok key =>
      let columns := e.updateColumns
      if columns.isEmpty then stop (.invalidQuery (.nothingToUpdate table))
      else do
        let (parameters, _) := (Context.new .updateSet 0).placeholders
          (columns.map Property.value)
        write ("UPDATE " ++ table.bracketed ++ " SET ")
        write (joined ", " (List.zipWith
          (fun column parameter => columnText table column.name ++ "=" ++ parameter.reference)
          columns parameters))
        write (" OUTPUT INSERTED.* WHERE " ++ keyCondition table key)
        return parameters ++ [key]

/-- The statement that deletes the row of an entity. -/
def Entity.writeDelete (e : Entity) (table : TableName) : Written (List Parameter) :=
  match e.keyParameter with
  | .error error => stop error
  | .ok key => do
      write ("DELETE FROM " ++ table.bracketed ++ " OUTPUT DELETED.* WHERE "
        ++ keyCondition table key)
      return [key]

end EntitySql
