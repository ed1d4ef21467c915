import EntitySql.Connection.Pairs
import EntitySql.Connection.Redaction
import EntitySql.Text.Quoted
/-!
# Connection settings

A connection string is an address of the scheme `mssql` or a list of key-value pairs. Both say
where the server is, which database to use, who logs in, and how far the connection is encrypted
and trusted; what they leave open has a default. An address always names a port and asks for full
encryption unless it says otherwise, and pairs always log in and ask for no encryption.

## Main definitions

* `Settings`: what a connection string says.
* `Settings.endpoint`: the host and the port to connect to.
* `Settings.ofAddress`, `Settings.ofPairs`: the settings of the two forms.
* `Settings.read`: the settings of a connection string.
* `fromVariable`: the connection string of an environment variable.
-/

namespace EntitySql.Connection

open EntitySql.Text

/-- How far a connection is encrypted. -/
inductive Encryption where
  /-- The login only. -/
  | off
  | on
  /-- Nothing at all. -/
  | notSupported
  /-- Everything. -/
  | required
  deriving DecidableEq, Repr

/-- The name of a degree of encryption. -/
def Encryption.name : Encryption → String
  | off => "Off"
  | on => "On"
  | notSupported => "NotSupported"
  | required => "Required"

/-- Which certificates of servers are trusted. -/
inductive Trust where
  /-- Those that the system trusts. -/
  | default
  | all
  /-- Those of the authority whose certificate is in a file. -/
  | authority (path : String)
  deriving DecidableEq, Repr

/-- Who logs in. -/
structure Login where
  user : String
  password : String
  deriving DecidableEq, Repr

/-- What a connection string says. -/
structure Settings where
  host : Option String
  port : Option Nat
  database : Option String
  /-- The name of one of several servers on a host. -/
  instanceName : Option String
  application : Option String
  encryption : Encryption
  trust : Trust
  login : Option Login
  readOnly : Bool
  deriving DecidableEq, Repr

namespace Settings

/-- The settings that say nothing. -/
def initial : Settings where
  host := none
  port := none
  database := none
  instanceName := none
  application := none
  encryption := .required
  trust := .default
  login := none
  readOnly := false

/-- The port of a server. -/
def serverPort : Nat := 1433

/-- The port that tells where the instances of a host listen. -/
def browserPort : Nat := 1434

/-- The host to connect to. -/
def endpointHost (s : Settings) : String :=
  match s.host with
  | none | some "." => "localhost"
  | some host => host

/-- The port to connect to. -/
def endpointPort (s : Settings) : Nat :=
  match s.port, s.instanceName with
  | some port, _ => port
  | none, some _ => browserPort
  | none, none => serverPort

/-- The host and the port to connect to. -/
def endpoint (s : Settings) : String :=
  s.endpointHost ++ ":" ++ natText s.endpointPort

/-! ### Showing -/

/-- A text or its absence in detail. -/
def optionText (show? : α → String) : Option α → String
  | none => "None"
  | some a => "Some(" ++ show? a ++ ")"

/-- The trust in detail. -/
def trustText : Trust → String
  | .default => "Default"
  | .all => "TrustAll"
  | .authority path => "CaCertificateLocation(" ++ quoted path ++ ")"

/-- The login in detail. The password is hidden. -/
def loginText : Option Login → String
  | none => "None"
  | some login =>
      "SqlServer(SqlServerAuth \x7b user: " ++ quoted login.user
        ++ ", password: \"<HIDDEN>\" \x7d)"

/-- The settings in detail. -/
def detailed (s : Settings) : String :=
  "Config \x7b host: " ++ optionText quoted s.host
    ++ ", port: " ++ optionText natText s.port
    ++ ", database: " ++ optionText quoted s.database
    ++ ", instance_name: " ++ optionText quoted s.instanceName
    ++ ", application_name: " ++ optionText quoted s.application
    ++ ", encryption: " ++ s.encryption.name
    ++ ", trust: " ++ trustText s.trust
    ++ ", auth: " ++ loginText s.login
    ++ ", readonly: " ++ (if s.readOnly then "true" else "false") ++ " \x7d"

/-! ### Addresses -/

/-- The text of a part of an address. -/
def decoded (s : List Char) : Except ConfigurationProblem String :=
  match ofUtf8 (percentDecode s) with
  | .ok chars => .ok (String.ofList chars)
  | .error problem => .error (.notUtf8 problem)

/-- The settings with what a pair of the query of an address says. Unknown names say nothing. -/
def withOption (s : Settings) (name value : String) : Except ConfigurationProblem Settings :=
  match name, value with
  | "encrypt", "true" => .ok { s with encryption := .required }
  | "encrypt", "false" => .ok { s with encryption := .off }
  | "encrypt", "off" => .ok { s with encryption := .notSupported }
  | "encrypt", value => .error (.unexpectedEncryption value)
  | "trust_cert", "true" => .ok { s with trust := .all }
  | "trust_cert", "false" => .ok s
  | "trust_cert", value => .error (.unexpectedTrust value)
  | "application_name", value => .ok { s with application := some value }
  | _, _ => .ok s

/-- The settings with what the query of an address says, pair by pair. -/
def withOptions (s : Settings) : List (String × String) → Except ConfigurationProblem Settings
  | [] => .ok s
  | (name, value) :: rest => do (← s.withOption name value).withOptions rest

/-- The login of an address, if it has a user. -/
def loginOf (a : Address) : Except ConfigurationProblem (Option Login) :=
  if a.user.isEmpty then .ok none
  else do
    let user ← decoded a.user
    return some ⟨user, ← decoded a.password⟩

/-- The database of an address, its path without the slashes in front. -/
def databaseOf (a : Address) : Except ConfigurationProblem (Option String) :=
  let path := trimLeft (· == '/') a.path
  if path.isEmpty then .ok none else (decoded path).map some

/-- The settings of an address. -/
def ofAddress (a : Address) : Except ConfigurationProblem Settings :=
  if a.host.isEmpty then .error .noHost
  else do
    let login ← loginOf a
    let database ← databaseOf a
    { initial with
      host := some (String.ofList a.host)
      port := some (a.port.getD serverPort)
      login := login
      database := database }.withOptions (queryPairs (a.query.getD []))

/-! ### Pairs -/

/-- A number of at most 16 bits, behind the digits read so far. -/
def portFrom (value : Nat) : List Char → Except PortProblem Nat
  | [] => .ok value
  | c :: rest =>
      match digitValue? c with
      | none => .error .notDigit
      | some d =>
          if 65535 < 10 * value + d then .error .tooLarge else portFrom (10 * value + d) rest

/-- A port, which may have a plus sign. -/
def portOf : List Char → Except PortProblem Nat
  | [] => .error .empty
  | '+' :: [] => .error .notDigit
  | '+' :: digits => portFrom 0 digits
  | digits => portFrom 0 digits

/-- A host name with the name of this machine for every `(local)`. -/
def replaceLocal : List Char → List Char
  | '(' :: 'l' :: 'o' :: 'c' :: 'a' :: 'l' :: ')' :: rest =>
      ['l', 'o', 'c', 'a', 'l', 'h', 'o', 's', 't'] ++ replaceLocal rest
  | c :: rest => c :: replaceLocal rest
  | [] => []

/-- A server without the name of its protocol. -/
def withoutProtocol : List Char → List Char
  | 't' :: 'c' :: 'p' :: ':' :: rest => rest
  | s => s

/-- The host part and the port of a server, which a comma divides. -/
def splitServer (server : List Char) : Except ConfigurationProblem (List Char × Option Nat) :=
  match splitOn ',' (withoutProtocol server) with
  | [place] => .ok (place, none)
  | [place, port] =>
      match portOf port with
      | .ok n => .ok (place, some n)
      | .error problem => .error (.port problem)
  | _ => .error .server

/-- The settings with a server: a host, an instance behind a backslash and a port behind a
comma. -/
def withServer (s : Settings) (server : List Char) : Except ConfigurationProblem Settings := do
  let (place, port) ← splitServer server
  let parts := splitOn '\\' place
  return { s with
    host := some (String.ofList (replaceLocal (parts.headD [])))
    port := port
    instanceName := parts[1]?.map String.ofList }

/-- A truth value in words of either case. -/
def truthOf (value : String) : Except ConfigurationProblem Bool :=
  match String.ofList ((trim isBlank value.toList).map Char.toLower) with
  | "true" | "yes" => .ok true
  | "false" | "no" => .ok false
  | _ => .error .boolean

/-- The trust of pairs. Trusting every certificate and naming an authority contradict each
other. -/
def trustOf (all? authority? : Option String) : Except ConfigurationProblem Trust := do
  let all ← match all? with
    | some value => truthOf value
    | none => .ok false
  match all, authority? with
  | true, some _ => .error .contradictoryTrust
  | true, none => .ok .all
  | false, some path => .ok (.authority path)
  | false, none => .ok .default

/-- The encryption of pairs. -/
def encryptionOf : Option String → Except ConfigurationProblem Encryption
  | none => .ok .off
  | some "DANGER_PLAINTEXT" => .ok .notSupported
  | some value => do return if ← truthOf value then .required else .off

/-- The settings of pairs. -/
def ofPairs (ps : Pairs) : Except ConfigurationProblem Settings := do
  let s ← match ps.getFirst? ["server", "data source"] with
    | some server => initial.withServer server.toList
    | none => .ok initial
  let user := ps.getFirst? ["uid", "username", "user", "user id"]
  let password := ps.getFirst? ["password", "pwd"]
  let trust ← trustOf (ps.get? "trustservercertificate") (ps.get? "trustservercertificateca")
  let encryption ← encryptionOf (ps.get? "encrypt")
  return { s with
    login := some ⟨user.getD "", password.getD ""⟩
    database := ps.getFirst? ["database", "initial catalog", "databasename"]
    application := ps.getFirst? ["application name", "applicationname"]
    trust := trust
    encryption := encryption
    readOnly := ps.get? "applicationintent" == some "ReadOnly" }

/-! ### Connection strings -/

/-- What an address of the scheme starts with. -/
def addressStart : List Char := ['m', 's', 's', 'q', 'l', ':', '/', '/']

/-- The settings of the text of an address. -/
def readAddress (s : List Char) : Except ConfigurationProblem Settings :=
  match Address.read s with
  | .error problem => .error (.malformed problem (redact (String.ofList s)))
  | .ok none => .error .noHost
  | .ok (some a) => ofAddress a

/-- The settings of the text of a list of pairs. -/
def readPairs (s : List Char) : Except ConfigurationProblem Settings :=
  match Pairs.read s with
  | .error problem => .error (.pairs problem)
  | .ok ps => ofPairs ps

/-- Whether a text holds a piece. -/
def holds (piece : List Char) : List Char → Bool
  | [] => piece.isEmpty
  | c :: cs => piece.isPrefixOf (c :: cs) || holds piece cs

/-- The settings of a connection string. -/
def read (value : String) : Except ConfigurationProblem Settings :=
  let s := trim isBlank value.toList
  if addressStart.isPrefixOf s then readAddress s
  else if holds [':', '/', '/'] s then .error .otherScheme
  else if '=' ∈ s then readPairs s
  else .error .unknownForm

end Settings

/-! ### Environment variables -/

/-- The connection string that an environment variable holds, which counts as unset if blank. -/
def fromVariable (name : String) (value? : Option String) :
    Except ConfigurationProblem String :=
  match value? with
  | none => .error (.unset name)
  | some value => if value.toList.all isBlank then .error (.unset name) else .ok value

end EntitySql.Connection
