import EntitySql.Value.Target
/-!
# Optional data

Data of a target may be absent, and so may data that are optional already. Absence becomes the
absent value of the target, at every depth, and an absent value is read as absence at the outermost
depth.

## Main definitions

* `DataType`, `DataType.Carrier`: targets, and optional data of such a type.
* `DataType.emptyValue`, `DataType.toValue`: from data to values.
* `DataType.read`: from values to data.
-/

namespace EntitySql

/-- A type of data outside of values: a target, or data of such a type or none. -/
inductive DataType where
  | target (t : Target)
  | optional (inner : DataType)
  deriving DecidableEq, Repr

namespace DataType

/-- The data of a type. -/
def Carrier : DataType → Type
  | target t => t.Carrier
  | optional inner => Option inner.Carrier

/-- The value without data of a type. -/
def emptyValue : DataType → Value
  | target t => t.emptyValue
  | optional inner => inner.emptyValue

/-- The value of data. -/
def toValue : (d : DataType) → d.Carrier → Value
  | target t, x => t.toValue x
  | optional inner, some x => inner.toValue x
  | optional inner, none => inner.emptyValue

/-- The data that a value is read as, or the refusal. -/
def read : (d : DataType) → Value → Except Target.Refusal d.Carrier
  | target t, v => t.read v
  | optional inner, v => if v.isNull then .ok none else (inner.read v).map some

/-! ### One depth -/

/-- Optional data of a plain target become values as the target's own optional data do. -/
theorem toValue_optional_target (t : Target) (x : Option t.Carrier) :
    toValue (optional (target t)) x = t.toValueOptional x := by
  cases x <;> rfl

/-- Reading optional data of a plain target is the target's own optional reading. -/
theorem read_optional_target (t : Target) (v : Value) :
    read (optional (target t)) v = t.readOptional v :=
  rfl

end DataType

end EntitySql
