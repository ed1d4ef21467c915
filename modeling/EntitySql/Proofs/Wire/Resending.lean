import EntitySql.Proofs.Entity.OrderedMap
import EntitySql.Proofs.Statement.Change
import EntitySql.Proofs.Wire.Batch
import EntitySql.Proofs.Wire.RoundTrip
import Mathlib.Algebra.Group.Nat.Defs
/-!
# Sending back what was read

Encoding and decoding are not inverse type by type: several types of values share one of cells, and
the types of numbers come back as decimals with another declared precision and scale. But the cells
that values are sent as are fixed: reading one and sending what was read gives the same cell, in
every bit. So an entity that comes from a server and goes back to it as it is takes along the cells
of its row.

Only numbers can be refused, those that no decimal holds. Cells of dates and times count in other
units than values and are left out here, as are those of markup, which values are never sent as.

## Main definitions

* `ValueType.isCalendar`: the types of dates and times.
* `Wire.CellType.isPlain`: the types of cells that all other values are sent as.
* `Wire.Row.KeptBy`: properties that are sent as the cells of a row.

## Main results

* `Wire.Numeric.exists_decimal_eq_error_iff`: the numbers that no decimal holds.
* `Wire.Cell.cell?_of_value`: what is read from a cell is sent as that cell.
* `Value.exists_cell`: what a value is sent as can be read.
* `Wire.Row.keptBy_of_entity`: a row is kept by its entity.
* `Database.sent_runWritten`: what a statement sends.
* `Wire.resends`: all of this, for values, for cells, and for entities that are written back.
-/

namespace EntitySql

open EntitySql.Wire Number

/-! ### Kinds of types -/

/-- Whether the data of a type are dates or times. -/
def ValueType.isCalendar : ValueType → Bool
  | date | time | timestamp | timestampWithTimezone => true
  | _ => false

/-- Whether data other than dates and times are sent in a type of cells. -/
def Wire.CellType.isPlain : CellType → Bool
  | bit | uint8 | int16 | int32 | int64 | single | double | numeric | text | uuid | bytes => true
  | markup | date | time | coarse | minute | fine | zoned => false

/-! ### Numbers -/

namespace Wire.Numeric

variable {n : Numeric}

/-- A number is refused exactly if it has too many digits for a decimal. -/
theorem exists_decimal_eq_error_iff :
    (∃ problem, n.decimal = .error problem) ↔ 2 ^ 96 ≤ n.unscaled.natAbs ∨ 28 < n.scale := by
  by_cases long : 28 < n.scale
  · refine iff_of_true ⟨.scale n.scale, ?_⟩ (.inr long)
    rw [decimal, dif_pos long]
  · by_cases wide : 2 ^ 96 ≤ n.unscaled.natAbs
    · refine iff_of_true ⟨if n.unscaled < 0 then .tooSmall else .tooLarge, ?_⟩ (.inl wide)
      rw [decimal, dif_neg long, dif_pos (show twoTo 96 ≤ n.unscaled.natAbs from wide)]
    · obtain ⟨d, read, -⟩ :=
        exists_decimal (n := n) (Nat.lt_of_not_le wide) (Nat.le_of_not_lt long)
      refine iff_of_false ?_ (not_or.mpr ⟨wide, long⟩)
      rintro ⟨problem, refused⟩
      cases refused.symm.trans read

/-- A decimal that was read from a number is the same number. -/
theorem numeric_of_decimal {d : Decimal} (read : n.decimal = .ok d) : d.numeric = n := by
  have inside : ¬ (2 ^ 96 ≤ n.unscaled.natAbs ∨ 28 < n.scale) := by
    intro outside
    obtain ⟨problem, refused⟩ := exists_decimal_eq_error_iff.mpr outside
    cases refused.symm.trans read
  obtain ⟨mantissa, scale⟩ := not_or.mp inside
  obtain ⟨d', read', mantissa, scale⟩ :=
    exists_decimal (n := n) (Nat.lt_of_not_le mantissa) (Nat.le_of_not_lt scale)
  obtain rfl : d = d' := Except.ok.inj (read.symm.trans read')
  rw [Decimal.numeric, mantissa, scale]

end Wire.Numeric

/-! ### Cells -/

namespace Wire.Cell

variable {cell : Cell} {v : Value}

/-- **A plain cell is refused only for a number** that no decimal holds. -/
theorem exists_value_eq_error_iff (plain : cell.type.isPlain = true) :
    (∃ problem, cell.value = .error problem) ↔
      ∃ n : Numeric, cell = ⟨.numeric, some n⟩ ∧ (2 ^ 96 ≤ n.unscaled.natAbs ∨ 28 < n.scale) := by
  obtain ⟨type, datum⟩ := cell
  cases type with
  | numeric =>
      cases datum with
      | none =>
          refine iff_of_false ?_ ?_
          · rintro ⟨problem, refused⟩
            cases refused
          · rintro ⟨n, same, -⟩
            cases same
      | some n =>
          have refused : (∃ problem, Cell.value ⟨.numeric, some n⟩ = .error problem) ↔
              ∃ problem, n.decimal = .error problem := by
            rw [Cell.value]
            cases n.decimal with
            | error problem => exact iff_of_true ⟨.decimal problem, rfl⟩ ⟨problem, rfl⟩
            | ok d =>
                refine iff_of_false ?_ ?_ <;>
                  · rintro ⟨problem, refused⟩
                    cases refused
          rw [refused, Numeric.exists_decimal_eq_error_iff]
          constructor
          · intro outside
            exact ⟨n, rfl, outside⟩
          · rintro ⟨_, ⟨rfl⟩, outside⟩
            exact outside
  | bit | uint8 | int16 | int32 | int64 | single | double | text | uuid | bytes =>
      refine iff_of_false ?_ ?_
      · rintro ⟨problem, refused⟩
        cases refused
      · rintro ⟨n, same, -⟩
        cases same
  | _ => cases plain

/-- **What is read from a plain cell is sent as that cell**, and is absent exactly if the cell
is. -/
theorem cell?_of_value (plain : cell.type.isPlain = true) (decoded : cell.value = .ok v) :
    v.cell? = some cell ∧ v.isNull = cell.datum.isNone := by
  obtain ⟨type, datum⟩ := cell
  cases type with
  | numeric =>
      cases datum with
      | none =>
          obtain rfl : Value.absent (.decimal 38 0) = v := Except.ok.inj decoded
          exact ⟨rfl, rfl⟩
      | some n =>
          rw [Cell.value] at decoded
          cases read : n.decimal with
          | error problem =>
              rw [read] at decoded
              cases decoded
          | ok d =>
              rw [read] at decoded
              obtain rfl := Except.ok.inj decoded
              refine ⟨?_, rfl⟩
              show some (Cell.mk .numeric (some d.numeric)) = _
              rw [Numeric.numeric_of_decimal read]
  | bit | uint8 | int16 | int32 | int64 | single | double | text | uuid | bytes =>
      obtain rfl := Except.ok.inj decoded
      exact ⟨rfl, rfl⟩
  | _ => cases plain

end Wire.Cell

/-! ### Values -/

/-- A value other than a date or a time is sent as a plain cell, whose number a decimal holds if it
is one. -/
theorem Value.exists_cell {v : Value} (counted : v.type.isCalendar = false) :
    ∃ cell, v.cell? = some cell ∧ cell.type.isPlain = true
      ∧ ∀ n : Numeric, cell = ⟨.numeric, some n⟩ →
        n.unscaled.natAbs < 2 ^ 96 ∧ n.scale ≤ 28 := by
  obtain ⟨type, datum⟩ := v
  cases type with
  | uint64 =>
      refine ⟨_, rfl, rfl, fun n same => ?_⟩
      cases datum with
      | none => cases same
      | some x =>
          cases same
          have below := UInt64.toNat_lt x
          exact ⟨by simp; omega, Nat.zero_le 28⟩
  | decimal precision scale =>
      refine ⟨_, rfl, rfl, fun n same => ?_⟩
      cases datum with
      | none => cases same
      | some d =>
          cases same
          refine ⟨?_, d.scale_le⟩
          show d.signedMantissa.natAbs < 2 ^ 96
          rw [d.natAbs_signedMantissa]
          exact d.mantissa_lt
  | date | time | timestamp | timestampWithTimezone => cases counted
  | _ => exact ⟨_, rfl, rfl, fun n same => by cases same⟩

/-- **What a value is sent as can be read.** -/
theorem Value.exists_value_of_cell {v : Value} (counted : v.type.isCalendar = false) :
    ∃ cell w, v.cell? = some cell ∧ cell.value = .ok w := by
  obtain ⟨cell, sent, plain, inside⟩ := exists_cell counted
  cases decoded : cell.value with
  | ok w => exact ⟨cell, w, sent, decoded⟩
  | error problem =>
      obtain ⟨n, same, outside⟩ := (Cell.exists_value_eq_error_iff plain).mp ⟨problem, decoded⟩
      obtain ⟨mantissa, scale⟩ := inside n same
      omega

/-! ### Rows -/

namespace Wire.Row

variable {row : Row} {e : Entity} {properties : List Property}

/-- A row is **kept by** properties if these have the names of its columns, in order, and their
values are sent as its cells. -/
def KeptBy (row : Row) (properties : List Property) : Prop :=
  List.Forall₂ (fun named p => p.name = named.1 ∧ p.value.cell? = some named.2) row properties

/-- A row of plain cells is kept by its entity. -/
theorem keptBy_of_entity (plain : ∀ named ∈ row, named.2.type.isPlain = true)
    (mapped : row.entity = .ok e) : row.KeptBy e.properties := by
  have decoded := properties_eq_ok_iff.mp (properties_of_entity mapped)
  refine List.Forall₂.imp ?_ ((List.forall₂_and_left row e.properties).mpr ⟨plain, decoded⟩)
  rintro named p ⟨plain, name, value⟩
  exact ⟨name, (Cell.cell?_of_value plain value).1⟩

/-- The properties of some names are sent as the cells of the columns of these names. -/
theorem KeptBy.mapM_cell? (kept : row.KeptBy properties) (keep : String → Bool) :
    ((properties.filter fun p => keep p.name).map Property.value).mapM Value.cell?
      = some ((row.filter fun named => keep named.1).map Prod.snd) := by
  induction kept with
  | nil => rfl
  | @cons named p row properties first _ ih =>
      obtain ⟨name, cell⟩ := first
      rw [List.filter_cons, List.filter_cons, name]
      split
      · rw [List.map_cons, List.map_cons, List.mapM_cons, cell, ih]
        rfl
      · exact ih

/-- Each cell of a row is the cell of the property of its name. -/
theorem KeptBy.exists_property (kept : row.KeptBy properties) {named : String × Cell}
    (member : named ∈ row) :
    ∃ p ∈ properties, p.name = named.1 ∧ p.value.cell? = some named.2 := by
  induction kept with
  | nil => cases member
  | @cons other p row properties first _ ih =>
      rcases List.mem_cons.mp member with rfl | member
      · exact ⟨p, List.mem_cons_self, first⟩
      · obtain ⟨q, known, same⟩ := ih member
        exact ⟨q, List.mem_cons_of_mem _ known, same⟩

end Wire.Row

/-! ### Statements -/

/-- A parameter that is an ordinal or the key does not have a reserved name. -/
theorem not_isReserved {row : Entity} {v : Value} {p : Parameter}
    (h : p ∈ ordinalParameters row ++ [keyBinding v]) : ¬ IsReserved p.bareName := by
  rw [← isPositional_iff, Bool.not_eq_true]
  rcases List.mem_append.mp h with ordinary | key
  · exact not_positional_of_mem ordinary
  · obtain rfl := List.mem_singleton.mp key
    exact not_positional_keyBinding v

/-- **What a statement sends**: one request with the cells of its parameters, whatever was sent
before. -/
theorem Database.sent_runWritten {α : Type} {w : Written (List Parameter)}
    {parameters : List Parameter} (written : w.result = .ok parameters)
    (free : ∀ p ∈ parameters, ¬ IsReserved p.bareName) {cells : List Cell}
    (encoded : (parameters.map Parameter.value).mapM Value.cell? = some cells)
    (read : Reply → Except Failure α) (s : Conversation) :
    ∃ text, (Database.server.runWritten w read s).2.sent = s.sent ++ [⟨text, cells⟩] := by
  have batch := TextQuery.batch_of_free (q := ⟨w.text, parameters⟩) free
  have requested : request ⟨w.text, parameters⟩
      = .ok ⟨String.join ((declared parameters).map Declaration.text) ++ w.text, cells⟩ := by
    simp only [request, batch, Batch.cells?, encoded]
  have exchanged : (Database.server.runWritten w read s).2
      = (exchange ⟨w.text, parameters⟩ s).2 := by
    rw [runWritten, written]
    rfl
  rw [exchanged, exchange, requested]
  exact ⟨_, rfl⟩

/-- An entity that keeps a row is inserted with the cells of the row, but for that of the identity
column. -/
theorem Database.sent_create {row : Row} {e : Entity} (kept : row.KeptBy e.properties)
    (table : TableName) (s : Conversation) :
    ∃ text, (Database.server.create e table s).2.sent = s.sent ++
      [⟨text, (row.filter fun named => named.1 != identityColumn).map Prod.snd⟩] := by
  have written : (e.writeInsert table).result = .ok (ordinalParameters (e.erase identityColumn)) :=
    congrArg Written.result (e.writeInsert_eq table)
  refine sent_runWritten written (fun p member => ?_) ?_ Reply.first s
  · exact not_isReserved (v := .null) (List.mem_append_left _ member)
  · rw [map_value_ordinalParameters]
    exact kept.mapM_cell? (· != identityColumn)

/-- An entity that keeps a row is updated with the cells of the row, but for that of the identity
column, and with that of the key column last. -/
theorem Database.sent_update {row : Row} {e : Entity} (kept : row.KeptBy e.properties)
    {key : Cell} (keyed : (keyColumn, key) ∈ row)
    (others : ∃ named ∈ row, named.1 ≠ identityColumn ∧ named.1 ≠ keyColumn) (table : TableName)
    (s : Conversation) :
    ∃ text, (Database.server.update e table s).2.sent = s.sent ++
      [⟨text, (row.filter fun named => named.1 != identityColumn && named.1 != keyColumn).map
        Prod.snd ++ [key]⟩] := by
  obtain ⟨⟨name, v⟩, known, same, sent⟩ := kept.exists_property keyed
  obtain rfl : name = keyColumn := same
  have found : e.get? keyColumn = some v := Entity.get?_of_mem known
  have settable : e.updateColumns ≠ [] := by
    obtain ⟨named, member, notIdentity, notKey⟩ := others
    obtain ⟨p, known, same, -⟩ := kept.exists_property member
    refine List.ne_nil_of_mem (List.mem_filter.mpr ⟨known, ?_⟩)
    simpa [same] using ⟨notIdentity, notKey⟩
  obtain ⟨parameters, written⟩ := Entity.exists_writeUpdate_eq_ok found settable table
  obtain ⟨w, found', rfl, -⟩ := Entity.writeUpdate_eq_ok written
  obtain rfl : v = w := Option.some.inj (found.symm.trans found')
  refine sent_runWritten written (fun p => not_isReserved) ?_ Reply.first s
  have ordinary := kept.mapM_cell? fun name => name != identityColumn && name != keyColumn
  have last : ([keyBinding v].map Parameter.value).mapM Value.cell? = some [key] := by
    rw [List.map_singleton, List.mapM_cons, keyBinding, sent]
    rfl
  rw [List.map_append, map_value_ordinalParameters, ← Entity.updateColumns_eq, List.mapM_append,
    Entity.updateColumns, ordinary, last]
  rfl

/-! ### Values, cells and entities -/

namespace Wire

/-- **Decoding and encoding again changes nothing.** A value other than a date or a time is sent as
a cell that can be read. A plain cell is refused exactly for a number that has too many digits for a
decimal; otherwise what is read is sent as that cell, and is absent exactly if the cell is. So an
entity that was read from a row of plain cells has its cells, and sends them when it is written
back, whether by an insertion, which leaves the identity column out, or by an update, which has the
key column last. -/
theorem resends :
    (∀ v : Value, v.type.isCalendar = false →
      ∃ cell w, v.cell? = some cell ∧ cell.value = .ok w)
    ∧ (∀ cell : Cell, cell.type.isPlain = true →
      ((∃ problem, cell.value = .error problem) ↔
        ∃ n : Numeric, cell = ⟨.numeric, some n⟩ ∧ (2 ^ 96 ≤ n.unscaled.natAbs ∨ 28 < n.scale))
      ∧ ∀ v, cell.value = .ok v → v.cell? = some cell ∧ v.isNull = cell.datum.isNone)
    ∧ ∀ (row : Row) (e : Entity), (∀ named ∈ row, named.2.type.isPlain = true) →
      row.entity = .ok e →
      row.KeptBy e.properties ∧ ∀ (table : TableName) (s : Conversation),
        (∃ text, (Database.server.create e table s).2.sent = s.sent ++
          [⟨text, (row.filter fun named => named.1 != "Id").map Prod.snd⟩])
        ∧ ∀ key, ("UId", key) ∈ row → (∃ named ∈ row, named.1 ≠ "Id" ∧ named.1 ≠ "UId") →
          ∃ text, (Database.server.update e table s).2.sent = s.sent ++
            [⟨text, (row.filter fun named => named.1 != "Id" && named.1 != "UId").map Prod.snd
              ++ [key]⟩] := by
  refine ⟨fun v => Value.exists_value_of_cell, fun cell plain => ⟨?refused, ?read⟩,
    fun row e plain mapped => ?_⟩
  case refused => exact Cell.exists_value_eq_error_iff plain
  case read => exact fun v => Cell.cell?_of_value plain
  have kept := Row.keptBy_of_entity plain mapped
  exact ⟨kept, fun table s => ⟨Database.sent_create kept table s,
    fun key keyed others => Database.sent_update kept keyed others table s⟩⟩

/-- A row of an order with a price. -/
def orderRow : Row :=
  [("Id", ⟨.int64, some 7⟩), ("UId", ⟨.text, some "k"⟩), ("Price", ⟨.numeric, some ⟨1050, 2⟩⟩)]

/-- The price of an order is sent back as it came, and so is the largest word. -/
theorem resends_order :
    (∃ cell w, (Value.present .uint64 (18446744073709551615 : UInt64)).cell? = some cell
      ∧ cell.value = .ok w)
    ∧ ∃ e, orderRow.entity = .ok e
      ∧ ∃ text, (Database.server.update e ⟨"app", "Order"⟩ ⟨[], []⟩).2.sent
        = [⟨text, [⟨.numeric, some ⟨1050, 2⟩⟩, ⟨.text, some "k"⟩]⟩] := by
  obtain ⟨values, cells, rows⟩ := resends
  refine ⟨values _ rfl, ?_⟩
  obtain ⟨e, mapped⟩ : ∃ e, orderRow.entity = .ok e := ⟨_, rfl⟩
  refine ⟨e, mapped, ?_⟩
  have plain : ∀ named ∈ orderRow, named.2.type.isPlain = true := by decide
  obtain ⟨-, sent⟩ := rows orderRow e plain mapped
  have keyed : ("UId", ⟨.text, some "k"⟩) ∈ orderRow := .tail _ (.head _)
  have others : ∃ named ∈ orderRow, named.1 ≠ "Id" ∧ named.1 ≠ "UId" :=
    ⟨_, .tail _ (.tail _ (.head _)), by decide, by decide⟩
  exact (sent ⟨"app", "Order"⟩ ⟨[], []⟩).2 _ keyed others

end Wire

end EntitySql
