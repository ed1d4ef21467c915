import EntitySql.Conformance.Changes
import EntitySql.Conformance.Commands
import EntitySql.Conformance.Queries
/-!
# The conformance suite

The suite runs all its parts on a connection and then ends the connection. It passes if no check
fails.

## Main definitions

* `suite`: all parts.
* `Verdict`, `runSuite`: how a run of the suite ends.
-/

namespace EntitySql.Conformance

variable {σ : Type}

/-- All parts of the suite, before the connection is ended. -/
def suite (db : Database σ) : Check σ Unit := do
  changes db
  changeErrors db
  queries db
  pages db
  commands db

/-- How a run of the suite ends. -/
structure Verdict where
  passed : Bool
  /-- Whether the run came so far that the connection was ended. -/
  disconnected : Bool
  deriving DecidableEq, Repr

/-- Runs the suite with new identifiers outside of a list. -/
def runSuite (db : Database σ) (used : List Uuid) : StateM σ Verdict := fun s =>
  let (answer, trial) := (suite db).run ⟨s, used⟩
  match answer with
  | none => (⟨false, false⟩, trial.database)
  | some () =>
      let (result, s) := db.disconnect trial.database
      (⟨result.toOption.isSome, true⟩, s)

end EntitySql.Conformance
