import EntitySql.Error
import EntitySql.Text.Joined
import EntitySql.Wire.Cell
/-!
# Failures

A failure is a cause and the contexts that were put around it on its way to the caller. Besides
the errors that callers tell apart there are causes that come from the wire: data that have no
counterpart on the other side, and what the server reported.

## Main definitions

* `ServerReport`, `Cause`.
* `Failure`, `Failure.within`, `Failure.chain`, `Failure.text`.
-/

namespace EntitySql

open EntitySql.Text

/-- An error that a server reports. -/
structure ServerReport where
  code : Nat
  state : Nat
  severity : Nat
  message : String
  server : String
  procedure : String
  line : Nat
  deriving DecidableEq, Repr

/-- The text of the report. -/
def ServerReport.text (r : ServerReport) : String :=
  "Token error: '" ++ r.message ++ "' on server " ++ r.server ++ " executing " ++ r.procedure
    ++ " on line " ++ natText r.line ++ " (code: " ++ natText r.code ++ ", state: "
    ++ natText r.state ++ ", class: " ++ natText r.severity ++ ")"

/-- What made an operation fail. -/
inductive Cause where
  | database (error : DatabaseError)
  /-- A datum has no counterpart on the other side of the wire. -/
  | cell (problem : Wire.CellProblem)
  /-- The server refused the connection. -/
  | server (report : ServerReport)
  /-- The server sent the connection on once more. -/
  | redirected (host : String) (port : Nat)

/-- The text of a cause. -/
def Cause.message : Cause → String
  | .database error => error.message
  | .cell problem => problem.message
  | .server report => report.text
  | .redirected host port =>
      "Server requested a connection to an alternative address: `" ++ host ++ ":"
        ++ natText port ++ "`"

/-- A cause and the contexts around it, outermost first. -/
structure Failure where
  contexts : List String
  cause : Cause

namespace Failure

/-- The failure of an error without a context. -/
def ofError (error : DatabaseError) : Failure :=
  ⟨[], .database error⟩

/-- The failure with one more context around it. -/
def within (context : String) (f : Failure) : Failure :=
  { f with contexts := context :: f.contexts }

/-- The contexts and the text of the cause. -/
def chain (f : Failure) : List String :=
  f.contexts ++ [f.cause.message]

/-- The chain in one text. -/
def text (f : Failure) : String :=
  joined ": " f.chain

end Failure

end EntitySql
