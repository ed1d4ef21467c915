/-!
# Names of tables and columns

A table belongs to a kind of entity and is named by its namespace and its name, which make up
one bracketed identifier, `[app.Person]`. A column is named behind its table,
`[app.Person].[Age]`. The names stand inside the brackets as they are.

The path of a type, `app::model::Person`, names a table too: the last part is the name, the parts
in front of it are the namespace, and generic arguments are left out.

## Main definitions

* `TableName`, `TableName.full`, `TableName.bracketed`.
* `ColumnName`, `ColumnName.bracketed`.
* `TableName.ofPath`: the table of a type path.
-/

namespace EntitySql

/-- The name of the table of a kind of entity. -/
structure TableName where
  space : String
  name : String
  deriving DecidableEq, Repr

namespace TableName

/-- The namespace and the name with a point between them, or the name alone. -/
def full (t : TableName) : String :=
  if t.space = "" then t.name else t.space ++ "." ++ t.name

/-- The identifier of the table. -/
def bracketed (t : TableName) : String :=
  "[" ++ t.full ++ "]"

end TableName

/-- The name of a column of a table. -/
structure ColumnName where
  table : TableName
  name : String
  deriving DecidableEq, Repr

/-- The identifier of the column, behind that of its table. -/
def ColumnName.bracketed (c : ColumnName) : String :=
  c.table.bracketed ++ ".[" ++ c.name ++ "]"

/-! ### Type paths -/

/-- A path with a point for every double colon. -/
def pathDots : List Char → List Char
  | ':' :: ':' :: rest => '.' :: pathDots rest
  | c :: rest => c :: pathDots rest
  | [] => []

/-- What stands in front of the last double colon of a path and behind it, if there is one. -/
def splitPath? : List Char → Option (List Char × List Char)
  | ':' :: ':' :: rest =>
      match splitPath? (':' :: rest) with
      | some (before, behind) => some (':' :: before, behind)
      | none => some ([], rest)
  | c :: rest => (splitPath? rest).map fun (before, behind) => (c :: before, behind)
  | [] => none

/-- The table of a type path: its parts in front of the generic arguments. -/
def TableName.ofPath (path : String) : TableName :=
  let plain := path.toList.takeWhile (· != '<')
  match splitPath? plain with
  | some (before, behind) => ⟨String.ofList (pathDots before), String.ofList behind⟩
  | none => ⟨"", String.ofList plain⟩

end EntitySql
