import EntitySql.Conformance.Person
/-!
# Conformance: commands

Commands in text with parameters store, change and read people, and fail where a parameter has a
reserved name or a table does not exist.

## Main definitions

* `commands`: the part.
-/

namespace EntitySql.Conformance

open Check

variable {σ : Type}

/-- Stores three people. -/
def storeCommand : TextQuery :=
  ⟨"INSERT INTO [moth_tests.Person] ([UId], [Name], [Age], [Active]) VALUES "
    ++ "(NEWID(), N'Giulia', 28, 1), (NEWID(), N'Franco', 52, 0), (NEWID(), N'Ivo', 45, 1)", []⟩

/-- Changes the people above an age. -/
def activateCommand : TextQuery :=
  ⟨"UPDATE [moth_tests.Person] SET [Active] = @Active WHERE [Age] > @Age",
    [⟨"@Active", .ofBool true⟩, ⟨"Age", .ofInt32 40⟩]⟩

/-- Reads the active people by age. -/
def activeCommand : TextQuery :=
  ⟨"SELECT [Name], [Age] FROM [moth_tests.Person] WHERE [Active] = @Active ORDER BY [Age]",
    [⟨"Active", .ofBool true⟩]⟩

/-- Reads the people of an absent name. -/
def absentNameCommand : TextQuery :=
  ⟨"SELECT [Name] FROM [moth_tests.Person] WHERE [Name] = @Name", [⟨"Name", .absent .varchar⟩]⟩

/-- Stores, changes, reads and deletes people by text. -/
def commands (db : Database σ) : Check σ Unit := do
  resetPersonTable db
  require ((← expect (db.runText storeCommand)) == 3)
  require ((← expect (db.runText activateCommand)) == 2)
  let active ← expect (db.retrieveText activeCommand)
  require (active.length == 3)
  require ((← textAt (← some? active[0]?) "Name") == "Giulia")
  require ((← ok ((← some? active[2]?).read .int64 "Age")) == (52 : Int64))
  require (active.all fun e => e.names == ["Name", "Age"])
  require (← expect (db.retrieveText absentNameCommand)).isEmpty
  expectError (db.retrieveText ⟨"SELECT @P1", [⟨"P1", .ofInt32 1⟩]⟩) isInvalidQuery
  expectError (db.runText ⟨"DELETE FROM [moth_tests.Nowhere]", []⟩) isCommandFailed
  require ((← expect (db.runText ⟨"DELETE FROM [moth_tests.Person]", []⟩)) == 3)

end EntitySql.Conformance
