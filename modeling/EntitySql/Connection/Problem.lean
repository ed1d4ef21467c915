import EntitySql.Text.Utf8
/-!
# Faults of connection strings

Why a connection string names no database: it has neither form, its address does not parse, one
of its settings has an unexpected value, or its key-value pairs are malformed.

## Main definitions

* `UrlProblem`: why a text is no address.
* `PairProblem`: why a text is no list of key-value pairs.
* `PortProblem`: why a text is no port number.
* `ConfigurationProblem`: all of these and the faults of single settings.
-/

namespace EntitySql.Connection

open EntitySql.Text

/-- Why a text is no address. -/
inductive UrlProblem where
  /-- No scheme stands in front. -/
  | noScheme
  | emptyHost
  | invalidPort
  | invalidIpv4
  | invalidIpv6
  /-- A character that no host name holds. -/
  | invalidHostCharacter
  /-- A host name that has no ASCII form. -/
  | invalidDomain
  deriving DecidableEq, Repr

/-- The text of the fault. -/
def UrlProblem.message : UrlProblem → String
  | .noScheme => "relative URL without a base"
  | .emptyHost => "empty host"
  | .invalidPort => "invalid port number"
  | .invalidIpv4 => "invalid IPv4 address"
  | .invalidIpv6 => "invalid IPv6 address"
  | .invalidHostCharacter => "invalid domain character"
  | .invalidDomain => "invalid international domain name"

/-- Why a text is no list of key-value pairs. -/
inductive PairProblem where
  | unclosedSingleQuote
  | unclosedDoubleQuote
  | unclosedBrace
  /-- A character beyond ASCII within double quotes. -/
  | foreignInDoubleQuotes
  /-- A character beyond ASCII within single quotes or braces. -/
  | foreignInEscape (c : Char)
  /-- A character beyond ASCII anywhere else. -/
  | foreign (c : Char)
  | emptyKey
  | missingEquals
  | missingSemicolon
  deriving DecidableEq, Repr

/-- The text of the fault. -/
def PairProblem.message : PairProblem → String
  | .unclosedSingleQuote => "unclosed single quote"
  | .unclosedDoubleQuote => "unclosed double quote"
  | .unclosedBrace => "unclosed escape literal"
  | .foreignInDoubleQuotes => "Invalid ado.net token"
  | .foreignInEscape c => "Invalid ado.net token `" ++ c.toString ++ "`"
  | .foreign c => "Invalid character found: " ++ c.toString
  | .emptyKey => "Key must not be empty"
  | .missingEquals => "key-value pairs must be joined by a `=`"
  | .missingSemicolon => "Key-value pairs must be separated by a `;`"

/-- Why a text is no port number. -/
inductive PortProblem where
  | empty
  | notDigit
  | tooLarge
  deriving DecidableEq, Repr

/-- The text of the fault. -/
def PortProblem.message : PortProblem → String
  | .empty => "cannot parse integer from empty string"
  | .notDigit => "invalid digit found in string"
  | .tooLarge => "number too large to fit in target type"

/-- Why a connection string names no database. -/
inductive ConfigurationProblem where
  /-- It is neither an address nor a list of key-value pairs. -/
  | unknownForm
  /-- It is an address of another scheme. -/
  | otherScheme
  /-- Its address does not parse. The address is shown without its password. -/
  | malformed (problem : UrlProblem) (shown : String)
  | noHost
  /-- A part of the address is not UTF-8. -/
  | notUtf8 (problem : Utf8Error)
  | unexpectedEncryption (value : String)
  | unexpectedTrust (value : String)
  | pairs (problem : PairProblem)
  /-- The server has more than a host and a port. -/
  | server
  | port (problem : PortProblem)
  | boolean
  /-- Every certificate is trusted and an authority is named. Nothing recovers from it. -/
  | contradictoryTrust
  /-- The environment variable that holds the connection string is unset or blank. -/
  | unset (name : String)
  deriving DecidableEq, Repr

/-- The text of the fault. -/
def ConfigurationProblem.message : ConfigurationProblem → String
  | .unknownForm => "expected a `mssql://` url or an ADO.NET connection string"
  | .otherScheme => "SQL Server connection url must start with `mssql://`"
  | .malformed problem shown => problem.message ++ ": " ++ shown
  | .noHost => "the url does not contain a host"
  | .notUtf8 problem => problem.message
  | .unexpectedEncryption value =>
      "unexpected value `" ++ value ++ "` for `encrypt`, expected `true`, `false` or `off`"
  | .unexpectedTrust value =>
      "unexpected value `" ++ value ++ "` for `trust_cert`, expected `true` or `false`"
  | .pairs problem => "Conversion error: Conversion error: " ++ problem.message
  | .server => "Conversion error: Server value faulty."
  | .port problem => "Error parsing an integer: " ++ problem.message
  | .boolean => "Conversion error: Connection string: Not a valid boolean"
  | .contradictoryTrust => "'trust_cert' and 'trust_cert_ca' are mutual exclusive! Only use one."
  | .unset name => "the environment variable `" ++ name ++ "` is not set"

end EntitySql.Connection
