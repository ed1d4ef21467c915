import EntitySql.Number.Shortest
import EntitySql.Text.Joined
import EntitySql.Text.Quoted
import EntitySql.Value.Basic
/-!
# The two readable forms of values

The plain form of a value shows its datum, and `NULL` for an absent one. The detailed form also
shows the type and quotes texts; messages about a value use it.

## Main definitions

* `Value.plain`: the plain form.
* `Value.detailed`: the detailed form.
-/

namespace EntitySql

open EntitySql.Text Number Calendar

/-- Plain binary numbers have no exponent and no point behind a whole number. -/
def plainLayout : Layout where
  positional _ := true
  wholePoint := false
  tie := .up

/-- Detailed binary numbers have a point, and an exponent below 0.0001 and from 10¹⁶ on. -/
def detailedLayout : Layout where
  positional point := -4 < point && point ≤ 16
  wholePoint := true
  tie := .up

namespace ValueType

/-- The plain form of a datum. A blob shows its length only. -/
def plainDatum : (t : ValueType) → t.Carrier → String
  | null, x => nomatch x
  | boolean, x => if x then "true" else "false"
  | int8, x => String.ofList (signed x.toInt)
  | int16, x => String.ofList (signed x.toInt)
  | int32, x => String.ofList (signed x.toInt)
  | int64, x => String.ofList (signed x.toInt)
  | uint8, x => natText x.toNat
  | uint16, x => natText x.toNat
  | uint32, x => natText x.toNat
  | uint64, x => natText x.toNat
  | float32, x => String.ofList (plainLayout.text x)
  | float64, x => String.ofList (plainLayout.text x)
  | decimal _ _, x => String.ofList x.text
  | varchar, x => x
  | blob, x => "<" ++ natText x.length ++ " bytes>"
  | date, x => String.ofList x.text
  | time, x => String.ofList x.text
  | timestamp, x => String.ofList x.text
  | timestampWithTimezone, x => String.ofList x.text
  | uuid, x => String.ofList x.text

/-- The detailed form of a datum: texts are quoted, blobs show their bytes, and binary numbers
have a point. -/
def detailedDatum : (t : ValueType) → t.Carrier → String
  | float32, x => String.ofList (detailedLayout.text x)
  | float64, x => String.ofList (detailedLayout.text x)
  | varchar, x => quoted x
  | blob, x => "[" ++ joined ", " (x.map fun b => natText b.toNat) ++ "]"
  | t, x => t.plainDatum x

end ValueType

namespace Value

/-- The plain form of a value. -/
def plain (v : Value) : String :=
  match v.datum with
  | none => "NULL"
  | some x => v.type.plainDatum x

/-- The detailed form of a datum or its absence. -/
def detailedOption (t : ValueType) : Option t.Carrier → String
  | none => "None"
  | some x => "Some(" ++ t.detailedDatum x ++ ")"

/-- The detailed form of a value: the name of its type and, in parentheses, the datum and the
declared precision and scale. -/
def detailed (v : Value) : String :=
  match v with
  | ⟨.null, _⟩ => "Null"
  | ⟨.decimal precision scale, x⟩ =>
      "Decimal(" ++ detailedOption (.decimal precision scale) x ++ ", "
        ++ natText precision.toNat ++ ", "
        ++ natText scale.toNat ++ ")"
  | ⟨t, x⟩ => t.name ++ "(" ++ detailedOption t x ++ ")"

end Value

end EntitySql
