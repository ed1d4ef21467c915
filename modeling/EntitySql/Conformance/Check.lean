import EntitySql.Database.Basic
/-!
# Checks

The conformance suite runs commands on a database and checks what they answer. It ends with the
first check that fails; what the database has done by then stays. Identifiers that the suite makes
up are outside a list that it is given and differ from each other.

## Main definitions

* `Trial`: the state of a run, the database and the identifiers in use.
* `Check`: a step of the suite, with `Check.require`, `Check.expect` and `Check.identifier`.
-/

namespace EntitySql.Conformance

/-- The state of a run of the suite. -/
structure Trial (σ : Type) where
  database : σ
  /-- The identifiers in use. -/
  used : List Uuid

/-- A step of the suite, which fails without an answer. -/
abbrev Check (σ : Type) := OptionT (StateM (Trial σ))

namespace Check

variable {σ α : Type}

/-- The check that fails. -/
def fail : Check σ α :=
  OptionT.mk (pure none)

/-- The check that a condition holds. -/
def require (condition : Bool) : Check σ Unit :=
  if condition then pure () else fail

/-- The check that there is a datum. -/
def some? (x : Option α) : Check σ α :=
  OptionT.mk (pure x)

/-- The check that a result is no error. -/
def ok {ε : Type} (x : Except ε α) : Check σ α :=
  some? x.toOption

/-- A step of the database. -/
def perform (step : StateM σ α) : Check σ α :=
  OptionT.mk fun t =>
    let (a, s) := step t.database
    (some a, { t with database := s })

/-- A step of the database that does not fail. -/
def expect (step : StateM σ (Except Failure α)) : Check σ α := do
  ok (← perform step)

/-- A step of the database that fails with an error of a class. -/
def expectError (step : StateM σ (Except Failure α)) (isExpected : DatabaseError → Bool) :
    Check σ Unit := do
  match ← perform step with
  | .error ⟨_, .database error⟩ => require (isExpected error)
  | _ => fail

/-- A new identifier. -/
def identifier : Check σ Uuid :=
  OptionT.mk fun t =>
    let uuid := Uuid.fresh t.used
    (some uuid, { t with used := uuid :: t.used })

end Check

/-! ### Reading entities -/

/-- The 32 bit integer of a property. -/
def int32At {σ : Type} (e : Entity) (name : String) : Check σ Int32 :=
  Check.ok (e.read .int32 name)

/-- The text of a property. -/
def textAt {σ : Type} (e : Entity) (name : String) : Check σ String :=
  Check.ok (e.read .text name)

/-- The value of a property. -/
def valueAt {σ : Type} (e : Entity) (name : String) : Check σ Value :=
  Check.ok (e.value name)

/-- The texts that entities hold under `Name`. -/
def names {σ : Type} (entities : List Entity) : Check σ (List String) :=
  entities.mapM fun e => textAt e "Name"

/-! ### Classes of errors -/

/-- Whether the database did not run a command. -/
def isCommandFailed : DatabaseError → Bool
  | .commandFailed _ => true
  | _ => false

/-- Whether a statement was refused. -/
def isInvalidQuery : DatabaseError → Bool
  | .invalidQuery _ => true
  | _ => false

/-- Whether an entity has no property of a name. -/
def isKeyNotFound (name : String) : DatabaseError → Bool
  | .keyNotFound missing => missing == name
  | _ => false

end EntitySql.Conformance
