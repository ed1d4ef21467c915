import EntitySql.Conformance.Person
/-!
# Conformance: changes

A person is created, found, updated and deleted; the database answers the rows in their new and
old forms, nothing where no row matches, and errors where a statement cannot be written or run.

## Main definitions

* `changes`, `changeErrors`: the two parts.
-/

namespace EntitySql.Conformance

open Check

variable {σ : Type}

/-- The query for the person with a value of the identity column. -/
def personById (id : Value) : Query :=
  ((Query.ofTable personTable).filter
    (.binary .equal (personColumn "Id") (.parameter ⟨"@Id", id⟩))).parameter ⟨"@Id", id⟩

/-- Whether a value is a present 32 bit integer. -/
def isPresentInt32 (v : Value) : Bool :=
  v.type = .int32 && !v.isNull

/-- Creates a person and checks the row that is answered. -/
def createAlice (db : Database σ) (alice : Entity) : Check σ Entity := do
  let created ← some? (← expect (db.create alice personTable))
  require (created.size == alice.size + 1)
  require (alice.names.all created.contains)
  require (isPresentInt32 (← valueAt created "Id"))
  require ((← valueAt created "UId") == (← valueAt alice "UId"))
  require ((← valueAt created "Name") == .ofString "Alice")
  require ((← int32At created "Age") == 34)
  require ((← ok (created.read .decimal "Balance")).same balance)
  require ((← valueAt created "Born") == (← valueAt alice "Born"))
  require (← ok (created.read .bool "Active"))
  return created

/-- Updates a person and checks the row that is answered. -/
def updateAlice (db : Database σ) (created : Entity) : Check σ Entity := do
  let changed := (created.insert "Name" (.ofString "Alice B.")).insert "Age" (.ofInt32 35)
  let updated ← some? (← expect (db.update changed personTable))
  require ((← valueAt updated "Id") == (← valueAt created "Id"))
  require ((← valueAt updated "Name") == .ofString "Alice B.")
  require ((← int32At updated "Age") == 35)
  return updated

/-- Checks that a query answers one row with the properties of an entity. -/
def requireOne (db : Database σ) (q : Query) (e : Entity) : Check σ Entity := do
  match ← expect (db.retrieve q) with
  | [found] => do
      require (found.sameProperties e)
      return found
  | _ => fail

/-- Creates, finds, updates and deletes a person. -/
def changes (db : Database σ) : Check σ Unit := do
  resetPersonTable db
  let created ← createAlice db (← person "Alice" 34)
  let byId := personById (← valueAt created "Id")
  let found ← requireOne db byId created
  require (!found.contains "RowId0")
  let updated ← updateAlice db created
  let _ ← requireOne db byId updated
  let nobody ← person "Nobody" 1
  require (← expect (db.update nobody personTable)).isNone
  require (← expect (db.delete nobody personTable)).isNone
  let deleted ← some? (← expect (db.delete updated personTable))
  require (deleted.sameProperties updated)
  require (← expect (db.delete updated personTable)).isNone
  require (← expect (db.retrieve byId)).isEmpty

/-- Changes that fail. -/
def changeErrors (db : Database σ) : Check σ Unit := do
  resetPersonTable db
  let anonymous := (← person "Anonymous" 20).erase "UId"
  expectError (db.update anonymous personTable) (isKeyNotFound "UId")
  expectError (db.delete anonymous personTable) (isKeyNotFound "UId")
  expectError (db.create (← person "Ghost" 99) missingTable) isCommandFailed
  let bob ← person "Bob" 40
  let _ ← some? (← expect (db.create bob personTable))
  expectError (db.create bob personTable) isCommandFailed
  let key := Entity.empty.insert "UId" (← valueAt bob "UId")
  expectError (db.update key personTable) isInvalidQuery

end EntitySql.Conformance
