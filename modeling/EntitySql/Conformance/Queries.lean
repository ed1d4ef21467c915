import EntitySql.Conformance.Person
/-!
# Conformance: queries

Five people are stored and read back by queries that filter, sort, shape, nest and page.

## Main definitions

* `queries`, `pages`: the two parts.
-/

namespace EntitySql.Conformance

open Check

variable {σ : Type}

/-- The names and ages of the people that are stored. -/
def people : List (String × Int32) :=
  [("Carla", 50), ("Anna", 20), ("Ettore", 60), ("Bruno", 30), ("Dario", 40)]

/-- Stores the people one by one. -/
def storePeople (db : Database σ) : List (String × Int32) → Check σ Unit
  | [] => pure ()
  | (name, age) :: rest => do
      let _ ← some? (← expect (db.create (← person name age) personTable))
      storePeople db rest

/-- Makes the table anew and stores the people. -/
def seed (db : Database σ) : Check σ Unit := do
  resetPersonTable db
  storePeople db people

/-- Checks that a query answers people with names in an order. -/
def requireNames (db : Database σ) (q : Query) (expected : List String) :
    Check σ (List Entity) := do
  let found ← expect (db.retrieve q)
  require ((← names found) == expected)
  return found

/-- A comparison of a column with an operand. -/
def compare (column : String) (operator : Operator) (operand : Expression) : Expression :=
  .binary operator (personColumn column) operand

/-- A 32 bit constant. -/
def constant (n : Int32) : Expression :=
  .constant (.ofInt32 n)

/-- All people. -/
def everyone : Query :=
  Query.ofTable personTable

/-- All people by age. -/
def byAge (direction : Direction) : Query :=
  everyone.sort (personSort "Age" direction)

/-- All people between two ages, the older ones first. -/
def middleAged : Query :=
  ((everyone.filter (compare "Age" .greaterThanOrEqual (.parameter ⟨"MinAge", .ofInt32 30⟩))).filter
    (compare "Age" .lessThan (constant 60))).sort (personSort "Age" .descending)
    |>.parameter ⟨"MinAge", .ofInt32 30⟩

/-- The names and ages of all people by name. -/
def nameList : Query :=
  ((everyone.project (personColumn "Name")).project (personColumn "Age")).sort
    (personSort "Name" .ascending)

/-- The people of a name given by a parameter that no one has. -/
def nobody : Query :=
  (everyone.filter (compare "Name" .equal (.parameter ⟨"Name", .ofString "Nobody"⟩))).parameter
    ⟨"Name", .ofString "Nobody"⟩

/-- Queries that filter, sort, shape and nest. -/
def queries (db : Database σ) : Check σ Unit := do
  seed db
  let all ← requireNames db (byAge .ascending) ["Anna", "Bruno", "Carla", "Dario", "Ettore"]
  require (all.all fun e => e.size == 7)
  let _ ← requireNames db middleAged ["Dario", "Carla", "Bruno"]
  let named ← requireNames db
    (everyone.filter (compare "Name" .equal (.constant (.ofString "Ettore")))) ["Ettore"]
  require ((← int32At (← some? named.head?) "Age") == 60)
  let listed ← expect (db.retrieve nameList)
  require (listed.length == 5)
  require (listed.all fun e => e.names == ["Name", "Age"])
  require ((← names listed).head? == some "Anna")
  let older ← expect (db.retrieve
    (.ofSubQuery (everyone.filter (compare "Age" .greaterThan (constant 35)))))
  require (older.length == 3)
  require (older.all fun e => !e.contains "RowId0" && !e.contains "RowId1")
  require (← expect (db.retrieve nobody)).isEmpty

/-- Queries that pick rows by their place. -/
def pages (db : Database σ) : Check σ Unit := do
  seed db
  let byAge := byAge .ascending
  let _ ← requireNames db (byAge.partition (.take 2)) ["Anna", "Bruno"]
  let _ ← requireNames db ((Conformance.byAge .descending).partition (.take 3))
    ["Ettore", "Dario", "Carla"]
  let count : Parameter := ⟨"Count", .ofInt32 2⟩
  let _ ← requireNames db ((byAge.partition ⟨.take, some (.parameter count)⟩).parameter count)
    ["Anna", "Bruno"]
  let _ ← requireNames db ((byAge.partition (.skip 1)).partition (.take 2)) ["Bruno", "Carla"]
  let _ ← requireNames db ((byAge.partition (.skip 4)).partition (.take 10)) ["Ettore"]
  let _ ← requireNames db (byAge.partition ⟨.first, none⟩) ["Anna"]
  let _ ← requireNames db (byAge.partition ⟨.last, none⟩) ["Ettore"]
  let eldest := byAge.filter (compare "Age" .greaterThan (constant 100))
  require (← expect (db.retrieve (eldest.partition ⟨.firstOrDefault, none⟩))).isEmpty
  let bruno := byAge.filter (compare "Name" .equal (.constant (.ofString "Bruno")))
  let single ← requireNames db (bruno.partition ⟨.single, none⟩) ["Bruno"]
  require (single.all fun e => e.size == 7)

end EntitySql.Conformance
