import EntitySql.Value.Basic
/-!
# Parameters

A parameter binds a value to a name. The name may carry markers, `@`, in front; the bare name has
none, and the normalized parameter has one. A command is a text with the parameters that it
refers to.

## Main definitions

* `Parameter`, `Parameter.bareName`, `Parameter.normalized`, `Parameter.reference`.
* `TextQuery`: a command and its parameters.
-/

namespace EntitySql

/-- The character in front of a parameter name where it is referred to. -/
def parameterMarker : Char := '@'

/-- A name without the markers in front of it. -/
def bareName (name : String) : String :=
  String.ofList (name.toList.dropWhile (· == parameterMarker))

/-- A value bound to a name. -/
structure Parameter where
  name : String
  value : Value
  deriving BEq

namespace Parameter

/-- The name without markers. -/
def bareName (p : Parameter) : String :=
  EntitySql.bareName p.name

/-- The text that refers to the parameter: its name with one marker. -/
def reference (p : Parameter) : String :=
  "@" ++ p.bareName

/-- The parameter with one marker in its name. -/
def normalized (p : Parameter) : Parameter :=
  ⟨p.reference, p.value⟩

end Parameter

/-- A command and the parameters that it refers to. -/
structure TextQuery where
  command : String
  parameters : List Parameter

end EntitySql
