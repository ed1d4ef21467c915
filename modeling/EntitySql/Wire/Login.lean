import EntitySql.Connection.Settings
import EntitySql.Failure
/-!
# Logging in

A connection starts with a login at the endpoint of its settings. The server accepts it, refuses
it, or sends it on to another endpoint, where the login is repeated; a server that sends it on
once more is not followed. Failures name the connection string without its password.

## Main definitions

* `LoginRequest`, `Greeting`: the two sides of a login.
* `logIn`: the logins of settings and how they end.
* `connect`, `connectVariable`: the same from a connection string or an environment variable.
-/

namespace EntitySql.Wire

open EntitySql.Connection

/-- What a login tells the server. -/
structure LoginRequest where
  user : String
  password : String
  application : String
  server : String
  database : String
  readOnly : Bool
  deriving DecidableEq, Repr

/-- The application that a login names unless the settings do. -/
def defaultApplication : String := "tiberius"

/-- The login of settings. -/
def LoginRequest.ofSettings (s : Settings) : LoginRequest where
  user := (s.login.map Login.user).getD ""
  password := (s.login.map Login.password).getD ""
  application := s.application.getD defaultApplication
  server := s.host.getD ""
  database := s.database.getD ""
  readOnly := s.readOnly

/-- What a server answers to a login. -/
inductive Greeting where
  | accepted
  | refused (report : ServerReport)
  /-- The login belongs to another endpoint. -/
  | routed (host : String) (port : Nat)

/-- The greeting of a number; a server accepts a login unless something else is said. -/
def greetingAt (greetings : List Greeting) (i : Nat) : Greeting :=
  (greetings[i]?).getD .accepted

/-- The logins of settings, in order, and how they end. -/
def logIn (s : Settings) (greetings : List Greeting) :
    List LoginRequest × Except Failure Unit :=
  let request := LoginRequest.ofSettings s
  match greetingAt greetings 0 with
  | .accepted => ([request], .ok ())
  | .refused report => ([request], .error ⟨[], .server report⟩)
  | .routed host port =>
      let again := LoginRequest.ofSettings { s with host := some host, port := some port }
      match greetingAt greetings 1 with
      | .accepted => ([request, again], .ok ())
      | .refused report => ([request, again], .error ⟨[], .server report⟩)
      | .routed host port => ([request, again], .error ⟨[], .redirected host port⟩)

/-- The context of a failure to connect. -/
def connectContext (value : String) : String :=
  "While trying to connect to `" ++ redact value ++ "`"

/-- The logins of a connection string, in order, and how they end. -/
def connect (value : String) (greetings : List Greeting) :
    List LoginRequest × Except Failure Unit :=
  match Settings.read value with
  | .error problem =>
      ([], .error ((Failure.ofError (.invalidConfiguration problem)).within
        (connectContext value)))
  | .ok s =>
      let (requests, result) := logIn s greetings
      (requests, result.mapError (Failure.within (connectContext value)))

/-- The environment variable that names the database. -/
def connectionVariable : String := "MOTH_MSSQL_URL"

/-- The logins of the connection string in the environment variable, and how they end. -/
def connectVariable (value? : Option String) (greetings : List Greeting) :
    List LoginRequest × Except Failure Unit :=
  match fromVariable connectionVariable value? with
  | .error problem => ([], .error (.ofError (.invalidConfiguration problem)))
  | .ok value => connect value greetings

end EntitySql.Wire
