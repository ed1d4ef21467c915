import EntitySql.Proofs.Statement.Written
import EntitySql.Wire.Server
import Mathlib.Data.List.Forall2
/-!
# The declared types of columns

A column of a set of rows has one type of cells and, if these are numbers, one scale. Decoding sees
one cell at a time: a present number declares its own scale, and an absent one, which has none,
declares the scale zero. So the values of a column have one declared type unless it is a column of
numbers with a fraction, and there exactly as far as their absence agrees.

## Main definitions

* `Wire.Column`, `Wire.Column.Holds`: a column and its cells.
* `Wire.CellType.valueType`: the declared type of the values of a type of cells.
* `Wire.RowOf`: rows of a set with given columns.

## Main results

* `Wire.Column.type_of_value`: the declared type is a function of the column and of absence.
* `Wire.Row.properties_eq_ok_iff`: a row is decoded cell by cell.
* `Wire.Column.declares_alike_iff`: when the values of a column, and the properties that rows have
  for it, are declared alike.
-/

namespace EntitySql.Wire

/-! ### Columns -/

/-- A **column** of a set of rows: its name, the type of its cells, and the scale that its numbers
have if it is a column of numbers. -/
structure Column where
  name : String
  type : CellType
  scale : Nat

/-- The cells of a column: of its type and, if they are present numbers, of its scale. -/
structure Column.Holds (c : Column) (cell : Cell) : Prop where
  type : cell.type = c.type
  scale : ∀ n : Numeric, cell = ⟨.numeric, some n⟩ → n.scale = c.scale

/-- The declared type of the values of a type of cells, with the scale of numbers. -/
def CellType.valueType (scale : UInt8) : CellType → ValueType
  | bit => .boolean
  | uint8 => .uint8
  | int16 => .int16
  | int32 => .int32
  | int64 => .int64
  | single => .float32
  | double => .float64
  | numeric => .decimal 38 scale
  | text | markup => .varchar
  | uuid => .uuid
  | bytes => .blob
  | date => .date
  | time => .time
  | coarse | minute | fine => .timestamp
  | zoned => .timestampWithTimezone

/-- A column's type gives one type of value at any two scales, but for numeric columns, which follow
the scale. -/
theorem CellType.valueType_eq_iff {type : CellType} {scale other : UInt8} :
    type.valueType scale = type.valueType other ↔ (type = .numeric → scale = other) := by
  cases type <;> simp [valueType]

/-! ### Decoding one cell -/

/-- What a rule reads has the type of the rule, and is absent exactly if there is nothing to
read. -/
theorem readAs_eq_ok {α : Type} {type : ValueType} {rule : α → Except CellProblem type.Carrier}
    {x : Option α} {v : Value} (read : readAs type rule x = .ok v) :
    v.type = type ∧ v.isNull = x.isNone := by
  cases x with
  | none =>
      obtain rfl : Value.absent type = v := Except.ok.inj read
      exact ⟨rfl, Value.isNull_eq _⟩
  | some a =>
      rw [readAs] at read
      cases ruled : rule a with
      | error problem =>
          rw [ruled] at read
          cases read
      | ok datum =>
          rw [ruled] at read
          obtain rfl : Value.present type datum = v := Except.ok.inj read
          exact ⟨rfl, Value.isNull_eq _⟩

/-- A number that is decoded declares its own scale, which is small. -/
theorem Cell.value_numeric_eq_ok {n : Numeric} {v : Value}
    (decoded : Cell.value ⟨.numeric, some n⟩ = .ok v) :
    v.type = .decimal 38 (UInt8.ofNat n.scale) ∧ v.isNull = false ∧ n.scale ≤ 28 := by
  rw [Cell.value] at decoded
  cases read : n.decimal with
  | error problem =>
      rw [read] at decoded
      cases decoded
  | ok d =>
      rw [read] at decoded
      obtain rfl : Value.present (.decimal 38 (UInt8.ofNat n.scale)) d = v :=
        Except.ok.inj decoded
      refine ⟨rfl, rfl, Nat.le_of_not_lt fun large => ?_⟩
      rw [Numeric.decimal, dif_pos large] at read
      cases read

namespace Column

variable {c : Column} {cell a b : Cell} {v w : Value}

/-- **The declared type of a value** is that of its column, with the scale zero if it is absent. The
scale of a column that has a number is small. -/
theorem type_of_value (holds : c.Holds cell) (decoded : cell.value = .ok v) :
    v.type = c.type.valueType (UInt8.ofNat (if v.isNull then 0 else c.scale))
      ∧ (c.type = .numeric → v.isNull = false → c.scale ≤ 28) := by
  obtain ⟨type, datum⟩ := cell
  have same := holds.type
  rw [← same]
  cases type with
  | numeric =>
      cases datum with
      | none =>
          obtain rfl : Value.absent (.decimal 38 0) = v := Except.ok.inj decoded
          exact ⟨rfl, nofun⟩
      | some n =>
          obtain ⟨declared, present, small⟩ := Cell.value_numeric_eq_ok decoded
          rw [present, ← holds.scale n rfl]
          exact ⟨declared, fun _ _ => small⟩
  | date | coarse | minute | fine | zoned => exact ⟨(readAs_eq_ok decoded).1, nofun⟩
  | _ =>
      obtain rfl := Except.ok.inj decoded
      exact ⟨rfl, nofun⟩

/-- Two values of a column are declared alike unless it is a column of numbers with a fraction, and
there exactly if both are absent or neither is. -/
theorem sameType_iff (first : c.Holds a) (second : c.Holds b) (decoded : a.value = .ok v)
    (decoded' : b.value = .ok w) :
    v.sameType w = true ↔ (c.type = .numeric → c.scale ≠ 0 → v.isNull = w.isNull) := by
  obtain ⟨declared, small⟩ := type_of_value first decoded
  obtain ⟨declared', small'⟩ := type_of_value second decoded'
  rw [Value.sameType_iff, declared, declared', CellType.valueType_eq_iff]
  refine forall_congr' fun numeric => ?_
  -- the scales of two absent or two present numbers are equal, and an absent one has the scale zero
  cases absent : v.isNull with
  | false =>
      cases absent' : w.isNull with
      | false => simp
      | true => simpa using Value.declaredScale_eq_zero_iff (small numeric absent)
  | true =>
      cases absent' : w.isNull with
      | false => simpa [eq_comm] using Value.declaredScale_eq_zero_iff (small' numeric absent')
      | true => simp

end Column

/-! ### Decoding rows -/

/-- The rows of a set with given columns: one cell for each column, under its name. -/
def RowOf (columns : List Column) (row : Row) : Prop :=
  List.Forall₂ (fun c (named : String × Cell) => named.1 = c.name ∧ c.Holds named.2) columns row

namespace Row

variable {columns : List Column} {row : Row} {properties : List Property} {e : Entity}

/-- **A row is decoded cell by cell**, under the names of its columns. -/
theorem properties_eq_ok_iff :
    row.properties = .ok properties ↔
      List.Forall₂ (fun named p => p.name = named.1 ∧ named.2.value = .ok p.value) row
        properties := by
  induction row generalizing properties with
  | nil =>
      rw [Row.properties, Except.ok.injEq, List.forall₂_nil_left_iff]
      exact eq_comm
  | cons named rest ih =>
      obtain ⟨name, cell⟩ := named
      rw [Row.properties, bind_eq_ok_iff]
      simp only [bind_eq_ok_iff, ih, List.forall₂_cons_left_iff]
      constructor
      · rintro ⟨v, decoded, others, rest, same⟩
        obtain rfl := Except.ok.inj same
        exact ⟨⟨name, v⟩, others, ⟨rfl, decoded⟩, rest, rfl⟩
      · rintro ⟨⟨_, v⟩, others, ⟨rfl, decoded⟩, rest, rfl⟩
        exact ⟨v, decoded, others, rest, rfl⟩

/-- The entity of a row has the decoded properties. -/
theorem properties_of_entity (mapped : row.entity = .ok e) :
    row.properties = .ok e.properties := by
  rw [entity] at mapped
  cases decoded : row.properties with
  | error problem =>
      rw [decoded] at mapped
      cases mapped
  | ok properties =>
      simp only [decoded, Entity.ofProperties] at mapped
      split at mapped
      · cases mapped
      · obtain rfl := Except.ok.inj mapped
        rfl

/-- A decoded row has for each column the value of a cell of the column. -/
theorem exists_property_of_mem (rowOf : RowOf columns row)
    (decoded : row.properties = .ok properties) {c : Column} (member : c ∈ columns) :
    ∃ cell v, c.Holds cell ∧ cell.value = .ok v ∧ ⟨c.name, v⟩ ∈ properties := by
  rw [properties_eq_ok_iff] at decoded
  induction rowOf generalizing properties with
  | nil => cases member
  | @cons other named columns row first _ ih =>
      obtain ⟨⟨_, v⟩, rest, ⟨rfl, value⟩, behind, rfl⟩ := List.forall₂_cons_left_iff.mp decoded
      rcases List.mem_cons.mp member with rfl | member
      · exact ⟨named.2, v, first.2, value, first.1 ▸ List.mem_cons_self⟩
      · obtain ⟨cell, w, holds, value, known⟩ := ih behind member
        exact ⟨cell, w, holds, value, List.mem_cons_of_mem _ known⟩

/-- The entity of a row has for each column the value of a cell of the column. -/
theorem exists_get?_of_mem (rowOf : RowOf columns row) (mapped : row.entity = .ok e) {c : Column}
    (member : c ∈ columns) :
    ∃ cell v, c.Holds cell ∧ cell.value = .ok v ∧ e.get? c.name = some v := by
  obtain ⟨cell, v, holds, decoded, known⟩ :=
    exists_property_of_mem rowOf (properties_of_entity mapped) member
  exact ⟨cell, v, holds, decoded, Entity.get?_of_mem known⟩

end Row

/-! ### Columns and what their values declare -/

/-- **When the values of a column are declared alike.** Any two values of a column have the same
declared type, and so have the properties for it in the entities of any two rows, exactly if the
column has no numbers with a fraction, or both values are absent, or neither is. -/
theorem Column.declares_alike_iff (c : Column) :
    (∀ a b v w, c.Holds a → c.Holds b → a.value = .ok v → b.value = .ok w →
      (v.sameType w = true ↔ (c.type = .numeric → c.scale ≠ 0 → v.isNull = w.isNull)))
    ∧ ∀ columns row other e f, c ∈ columns → RowOf columns row → RowOf columns other →
        row.entity = .ok e → other.entity = .ok f →
        ∃ v w, e.get? c.name = some v ∧ f.get? c.name = some w
          ∧ (v.sameType w = true ↔ (c.type = .numeric → c.scale ≠ 0 → v.isNull = w.isNull)) := by
  refine ⟨fun a b v w => sameType_iff, fun columns row other e f member rowOf rowOf' => ?_⟩
  intro mapped mapped'
  obtain ⟨a, v, holds, decoded, found⟩ := Row.exists_get?_of_mem rowOf mapped member
  obtain ⟨b, w, holds', decoded', found'⟩ := Row.exists_get?_of_mem rowOf' mapped' member
  exact ⟨v, w, found, found', sameType_iff holds holds' decoded decoded'⟩

/-- Prices in hundredths. -/
def Column.price : Column :=
  ⟨"Price", .numeric, 2⟩

/-- A numeric column of scale 2 holds every amount in hundredths. -/
theorem Column.price_holds (cents : Int) : price.Holds ⟨.numeric, some ⟨cents, 2⟩⟩ where
  type := rfl
  scale := by
    rintro n ⟨⟩
    rfl

/-- A numeric column of scale 2 holds NULL, whose cell has no scale. -/
theorem Column.price_holds_absent : price.Holds ⟨.numeric, none⟩ where
  type := rfl
  scale := nofun

/-- Two prices are declared alike. -/
theorem Column.declares_alike_prices :
    Column.price.Holds ⟨.numeric, some ⟨1050, 2⟩⟩ ∧ Column.price.Holds ⟨.numeric, some ⟨-99, 2⟩⟩
      ∧ ∃ v w, Cell.value ⟨.numeric, some ⟨1050, 2⟩⟩ = .ok v
        ∧ Cell.value ⟨.numeric, some ⟨-99, 2⟩⟩ = .ok w ∧ v.sameType w = true := by
  refine ⟨price_holds 1050, price_holds (-99), _, _, rfl, rfl, ?_⟩
  exact ((declares_alike_iff price).1 _ _ _ _ (price_holds 1050) (price_holds (-99)) rfl rfl).mpr
    fun _ _ => rfl

/-- A price and the absence of one are not: the absent one declares the scale zero. -/
theorem Column.price_unlike_absent :
    Column.price.Holds ⟨.numeric, some ⟨1050, 2⟩⟩ ∧ Column.price.Holds ⟨.numeric, none⟩
      ∧ ∃ v w, Cell.value ⟨.numeric, some ⟨1050, 2⟩⟩ = .ok v
        ∧ Cell.value ⟨.numeric, none⟩ = .ok w ∧ v.sameType w = false :=
  ⟨price_holds 1050, price_holds_absent, _, _, rfl, rfl, rfl⟩

end EntitySql.Wire
