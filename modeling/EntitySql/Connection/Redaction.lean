import EntitySql.Connection.Address
/-!
# Connection strings without their passwords

Messages show connection strings, and must not show passwords. An address is shown with three
stars for its password, in the form in which it is read. A text that is no address and has an
equals sign is taken for key-value pairs, each up to the next semicolon, and is shown with three
stars for the values of the password keys. Every other text is shown as it is.

## Main definitions

* `Address.concealed`: an address with stars for its password.
* `redact`: the text that messages show.
-/

namespace EntitySql.Connection

open EntitySql.Text

/-- What is shown for a password. -/
def stars : List Char := ['*', '*', '*']

/-- An address with stars for its password. -/
def Address.concealed (a : Address) : Address :=
  { a with password := stars }

/-- Whether a key, written in either case and with blanks around it, is that of a password. -/
def isPasswordKey (key : List Char) : Bool :=
  String.ofList ((trim isBlank key).map Char.toLower) ∈ ["password", "pwd"]

/-- A key-value pair as messages show it. -/
def redactPair (part : List Char) : List Char :=
  match splitFirst? '=' part with
  | some (key, _) => if isPasswordKey key then key ++ '=' :: stars else part
  | none => part

/-- The pairs between semicolons as messages show them. -/
def redactPairs (s : List Char) : List Char :=
  (joined ";" ((splitOn ';' s).map fun part => String.ofList (redactPair part))).toList

/-- A connection string as messages show it. -/
def redact (value : String) : String :=
  match Address.read value.toList with
  | .ok (some a) => if a.password.isEmpty then value else String.ofList a.concealed.text
  | .ok none => value
  | .error _ => if '=' ∈ value.toList then String.ofList (redactPairs value.toList) else value

end EntitySql.Connection
