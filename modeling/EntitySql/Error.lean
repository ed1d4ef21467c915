import EntitySql.Connection.Problem
import EntitySql.Query.Basic
import EntitySql.Statement.Fragment
import EntitySql.Value.Target
/-!
# Errors of the data layer

The errors that callers tell apart, each with what caused it, and the one place where they are
worded.

## Main definitions

* `DatabaseError`, `DatabaseError.message`.
-/

namespace EntitySql

/-- Why a query or a statement is refused before it is sent. -/
inductive StatementProblem where
  | query (problem : QueryProblem)
  /-- An entity has nothing to update besides its keys. -/
  | nothingToUpdate (table : TableName)
  /-- A parameter has a name that the wire protocol binds values to. -/
  | reservedName (bareName : String)
  /-- A reason given by the database. -/
  | reported (reason : String)

/-- The text of the reason. -/
def StatementProblem.message : StatementProblem → String
  | .query problem => problem.message
  | .nothingToUpdate table => "the entity has no column to update in " ++ table.full
  | .reservedName bareName =>
      "the parameter name `@" ++ bareName ++ "` is reserved for positional binding"
  | .reported reason => reason

/-- The errors that callers tell apart. -/
inductive DatabaseError where
  /-- A paging operator where an expression is written. -/
  | misplacedPaging (operator : PagingOperator) (fragment : Fragment)
  /-- A paging operator that needs a row count and has none. -/
  | missingCount (operator : PagingOperator)
  /-- An operator that the dialect does not have. -/
  | unknownOperator (operator : Operator)
  /-- The database did not run a command. -/
  | commandFailed (report : String)
  | keyNotFound (name : String)
  | duplicateProperty (name : String)
  | invalidQuery (problem : StatementProblem)
  | invalidConfiguration (problem : Connection.ConfigurationProblem)
  | refused (refusal : Target.Refusal)

/-- The text of an error. -/
def DatabaseError.message : DatabaseError → String
  | .misplacedPaging operator fragment =>
      "Unsupported expression: method `" ++ operator.name ++ "` in " ++ fragment.text
  | .missingCount operator =>
      "Unsupported expression: `" ++ operator.name ++ "` without a row count"
  | .unknownOperator operator => "Unknown binary operator `" ++ operator.name ++ "`"
  | .commandFailed report => "Command execution failed: " ++ report
  | .keyNotFound name => "The entity does not have a property named `" ++ name ++ "`"
  | .duplicateProperty name =>
      "The property `" ++ name ++ "` appears more than once in the entity"
  | .invalidQuery problem => "Invalid query: " ++ problem.message
  | .invalidConfiguration problem => "Invalid configuration: " ++ problem.message
  | .refused refusal => refusal.message

end EntitySql
