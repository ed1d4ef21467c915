import EntitySql.Proofs.Entity.OrderedMap
/-!
# Rows column by column

A row becomes an entity in two passes. The first one decodes the cells from left to right and stops
at one that has no value; only if every cell has one does the second pass look for a name that
stands in front of itself. So a cell that cannot be decoded is reported whatever the names are, and
a repeated name is reported only of a row that can be decoded as a whole.

What comes out has one property for each column, in their order: nothing is dropped, merged or
renamed.

## Main definitions

* `Wire.Row.Decodes`: every cell of a row has a value.
* `Wire.Row.MapsTo`: an entity has the columns of a row, one by one.
* `Wire.Row.Fails`: what is wrong with a row.

## Main results

* `Wire.Row.properties_eq_error_iff`: decoding stops at the first cell that has no value.
* `Wire.Row.entity_eq_ok_iff_mapsTo`: the entity of a row.
* `Wire.Row.entity_eq_error_iff_fails`: the failure of a row.
* `Wire.Row.entity_column_by_column`: all of this of every row.
-/

namespace EntitySql.Wire.Row

variable {row : Row} {name : String} {cell : Cell} {v : Value} {ps : List Property}
  {e : Entity} {problem : CellProblem} {failure : Failure}

/-! ### Decoding -/

/-- A row **decodes** if each of its cells has a value. -/
def Decodes (row : Row) : Prop :=
  ∀ named ∈ row, ∃ v, named.2.value = .ok v

/-- Decoding stops at a cell that has no value, and looks at nothing behind it. -/
theorem properties_cons_of_error (undecoded : cell.value = .error problem) (rest : Row) :
    properties ((name, cell) :: rest) = .error problem := by
  rw [properties, undecoded]
  rfl

/-- Decoding goes on behind a cell that has a value. -/
theorem properties_cons_of_ok (decoded : cell.value = .ok v) (rest : Row) :
    properties ((name, cell) :: rest) = rest.properties.map (⟨name, v⟩ :: ·) := by
  rw [properties, decoded]
  cases rest.properties <;> rfl

/-- **The problem of a row** is that of the first cell that has one. -/
theorem properties_eq_error_iff : row.properties = .error problem
    ↔ ∃ (before : Row) (name : String) (cell : Cell) (after : Row),
      row = before ++ (name, cell) :: after ∧ before.Decodes ∧ cell.value = .error problem := by
  constructor
  · intro undecoded
    induction row with
    | nil => cases undecoded
    | cons named rest ih =>
        obtain ⟨name, cell⟩ := named
        cases value : cell.value with
        | error first =>
            rw [properties_cons_of_error value] at undecoded
            obtain rfl := Except.error.inj undecoded
            exact ⟨[], name, cell, rest, rfl, List.forall_mem_nil _, value⟩
        | ok v =>
            rw [properties_cons_of_ok value] at undecoded
            cases behind : Row.properties rest with
            | ok ps =>
                rw [behind] at undecoded
                cases undecoded
            | error later =>
                rw [behind] at undecoded
                obtain rfl : later = problem := Except.error.inj undecoded
                obtain ⟨before, other, refused, after, rfl, decodes, fault⟩ := ih behind
                exact ⟨(name, cell) :: before, other, refused, after, rfl,
                  List.forall_mem_cons.mpr ⟨⟨v, value⟩, decodes⟩, fault⟩
  · rintro ⟨before, name, cell, after, rfl, decodes, fault⟩
    induction before with
    | nil => exact properties_cons_of_error fault after
    | cons named rest ih =>
        obtain ⟨⟨v, value⟩, decodes⟩ := List.forall_mem_cons.mp decodes
        rw [List.cons_append, properties_cons_of_ok value, ih decodes]
        rfl

/-- A row has properties exactly if it decodes. -/
theorem exists_properties_iff : (∃ ps, row.properties = .ok ps) ↔ row.Decodes := by
  constructor
  · rintro ⟨ps, decoded⟩
    have cells := properties_eq_ok_iff.mp decoded
    clear decoded
    induction cells with
    | nil => exact List.forall_mem_nil _
    | cons first _ ih => exact List.forall_mem_cons.mpr ⟨⟨_, first.2⟩, ih⟩
  · intro decodes
    cases decoded : row.properties with
    | ok ps => exact ⟨ps, rfl⟩
    | error problem =>
        obtain ⟨before, name, cell, after, rfl, -, fault⟩ := properties_eq_error_iff.mp decoded
        obtain ⟨v, value⟩ := decodes (name, cell) (by simp)
        exact absurd (value.symm.trans fault) nofun

/-! ### Entities -/

/-- An entity **has the columns of a row**: one property for each column, at its place, under the
name of the column and with the value of the cell, and found by that name. -/
structure MapsTo (row : Row) (e : Entity) : Prop where
  size : e.size = row.length
  column : ∀ i : Fin row.length, ∃ v, row[i].2.value = .ok v
    ∧ e.properties[i]? = some ⟨row[i].1, v⟩ ∧ e.get? row[i].1 = some v

/-- The properties of a row are those that have its columns. -/
theorem MapsTo.properties_eq (maps : row.MapsTo e) : row.properties = .ok e.properties := by
  refine properties_eq_ok_iff.mpr (List.forall₂_iff_get.mpr ⟨maps.size.symm, fun i lt lt' => ?_⟩)
  obtain ⟨v, decoded, placed, -⟩ := maps.column ⟨i, lt⟩
  obtain ⟨_, same⟩ := List.getElem?_eq_some_iff.mp placed
  rw [List.get_eq_getElem, List.get_eq_getElem, same]
  exact ⟨rfl, decoded⟩

/-- **The entity of a row** is the one that has its columns. -/
theorem entity_eq_ok_iff_mapsTo : row.entity = .ok e ↔ row.MapsTo e := by
  constructor
  · intro made
    have decoded := properties_eq_ok_iff.mp (properties_of_entity made)
    obtain ⟨sizes, columns⟩ := List.forall₂_iff_get.mp decoded
    refine ⟨sizes.symm, fun i => ?_⟩
    have lt : i < e.properties.length := sizes ▸ i.isLt
    obtain ⟨named, value⟩ := columns i i.isLt lt
    have found := Entity.get?_of_mem (List.get_mem e.properties ⟨i, lt⟩)
    refine ⟨(e.properties.get ⟨i, lt⟩).value, value, ?_, named ▸ found⟩
    exact List.getElem?_eq_some_iff.mpr ⟨lt, congrArg (Property.mk · _) named⟩
  · intro maps
    have decoded := maps.properties_eq
    exact entity_eq_ok_iff.mpr ⟨map_name_of_properties decoded ▸ e.distinct, decoded⟩

/-- A row that does not decode has no entity, whatever its names are. -/
theorem entity_of_undecoded (undecoded : row.properties = .error problem) :
    row.entity = .error ⟨[], .cell problem⟩ := by
  rw [entity, undecoded]

/-- A row that decodes has the entity of its properties. -/
theorem entity_of_decoded (decoded : row.properties = .ok ps) :
    row.entity = (Entity.ofProperties ps).mapError .ofError := by
  rw [entity, decoded]

/-- A row has an entity exactly if it decodes and its columns have distinct names. -/
theorem exists_entity_iff :
    (∃ e, row.entity = .ok e) ↔ row.Decodes ∧ (row.map Prod.fst).Nodup := by
  simp only [entity_eq_ok_iff]
  constructor
  · rintro ⟨e, distinct, decoded⟩
    exact ⟨exists_properties_iff.mp ⟨_, decoded⟩, distinct⟩
  · rintro ⟨decodes, distinct⟩
    obtain ⟨ps, decoded⟩ := exists_properties_iff.mpr decodes
    exact ⟨⟨ps, map_name_of_properties decoded ▸ distinct⟩, distinct, decoded⟩

/-! ### Failures -/

/-- What is **wrong with a row**: the first cell that has no value, or, if every cell has one, the
first column whose name stands in front of it. -/
inductive Fails : Row → Failure → Prop
  | cell {before after : Row} {name : String} {cell : Cell} {problem : CellProblem} :
      before.Decodes → cell.value = .error problem →
      Fails (before ++ (name, cell) :: after) ⟨[], .cell problem⟩
  | name {before after : Row} {name : String} {cell : Cell} :
      Decodes (before ++ (name, cell) :: after) → (before.map Prod.fst).Nodup →
      name ∈ before.map Prod.fst →
      Fails (before ++ (name, cell) :: after) (.ofError (.duplicateProperty name))

/-- **The failure of a row** is what is wrong with it. -/
theorem entity_eq_error_iff_fails : row.entity = .error failure ↔ row.Fails failure := by
  constructor
  · intro failed
    cases decoded : row.properties with
    | error problem =>
        rw [entity_of_undecoded decoded] at failed
        obtain rfl := Except.error.inj failed
        obtain ⟨before, name, cell, after, rfl, decodes, fault⟩ :=
          properties_eq_error_iff.mp decoded
        exact .cell decodes fault
    | ok ps =>
        rw [entity_of_decoded decoded] at failed
        cases made : Entity.ofProperties ps with
        | ok e =>
            rw [made] at failed
            cases failed
        | error error =>
            rw [made] at failed
            obtain rfl := Except.error.inj failed
            obtain ⟨name, repeated, rfl⟩ := Entity.ofProperties_eq_error_iff_repeated.mp made
            rw [map_name_of_properties decoded, firstRepeated?_map_eq_some_iff] at repeated
            obtain ⟨before, ⟨name, cell⟩, after, rfl, rfl, distinct, again⟩ := repeated
            exact .name (exists_properties_iff.mp ⟨ps, decoded⟩) distinct again
  · intro fails
    cases fails with
    | @cell before after name cell problem decodes fault =>
        refine entity_of_undecoded (properties_eq_error_iff.mpr ?_)
        exact ⟨before, name, cell, after, rfl, decodes, fault⟩
    | @name before after name cell decodes distinct again =>
        obtain ⟨ps, decoded⟩ := exists_properties_iff.mpr decodes
        have repeated : Entity.ofProperties ps = .error (.duplicateProperty name) := by
          refine Entity.ofProperties_eq_error_iff_repeated.mpr ⟨name, ?_, rfl⟩
          rw [map_name_of_properties decoded, firstRepeated?_map_eq_some_iff]
          exact ⟨before, (name, cell), after, rfl, rfl, distinct, again⟩
        rw [entity_of_decoded decoded, repeated]
        rfl

/-- **Rows become entities column by column.** A row has an entity exactly if all its cells have
values and its columns distinct names. It is the one with a property for each column, in order,
found by the name of the column. What is reported otherwise is the problem of the first cell that
has no value, also if names repeat, and else the first name that stood in front of itself. -/
theorem entity_column_by_column (row : Row) :
    ((∃ e, row.entity = .ok e) ↔ row.Decodes ∧ (row.map Prod.fst).Nodup)
      ∧ (∀ e, row.entity = .ok e ↔ row.MapsTo e)
      ∧ ∀ failure, row.entity = .error failure ↔ row.Fails failure :=
  ⟨exists_entity_iff, fun _ => entity_eq_ok_iff_mapsTo, fun _ => entity_eq_error_iff_fails⟩

/-- A number with too many places is reported, not the name that repeats in front of it. -/
example : entity [("Age", ⟨.int32, some 7⟩), ("Age", ⟨.int32, none⟩),
    ("Price", ⟨.numeric, some ⟨1, 29⟩⟩)] = .error ⟨[], .cell (.decimal (.scale 29))⟩ := rfl

end EntitySql.Wire.Row
