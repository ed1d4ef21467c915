import EntitySql.Proofs.Statement.Parameter
import EntitySql.Statement.Change
import Mathlib.Data.List.Nodup
/-!
# Columns, placeholders and parameters

A statement that changes a table names columns and placeholders, and the values of the
placeholders travel apart from it as parameters. This module takes the statement apart into its
columns and its placeholders and proves that they stand in step with the parameters: the
placeholders are the names of the parameters in order, and the columns, each with the value that
its placeholder is bound to, are the properties that the statement has to write.

Placeholders count with 32 bits. Names are distinct for as many columns as that; what does not
look a placeholder up by its name holds for any number of columns.

## Main definitions

* `Change`, `Change.text`: the statements, taken apart, and their texts.
* `valueOf`, `bound`: the value that a placeholder is bound to.
* `ordinal`, `ordinalParameters`: the parameters of an entity's properties.
* `Change.Aligned`: a statement and parameters that write a row.

## Main results

* `Context.placeholders_eq`: a context hands out the ordinals one after the other.
* `Entity.writeInsert_eq`, `Entity.writeUpdate_eq_ok`, `Entity.writeDelete_eq_ok`: the texts and
  the parameters.
* `Entity.exists_writeUpdate_eq_ok`: an update that has a key and a column to set is written.
* `aligned_insert`, `aligned_update`, `aligned_delete`: they are in step.
* `Entity.changes_aligned`: all three statements of an entity.
-/

namespace EntitySql

open EntitySql.Text

/-! ### Statements taken apart -/

/-- A statement that changes a table: the columns that it writes and their placeholders, and the
column that tells the row and its placeholder. -/
inductive Change where
  | insert (columns placeholders : List String)
  | update (columns placeholders : List String) (key placeholder : String)
  | delete (key placeholder : String)

namespace Change

/-- The text of a statement for a table. -/
def text (table : TableName) : Change → String
  | insert columns placeholders =>
      if columns.isEmpty then
        "INSERT INTO " ++ table.bracketed ++ " OUTPUT INSERTED.* DEFAULT VALUES"
      else
        "INSERT INTO " ++ table.bracketed ++ " (" ++ joined ", " (columns.map (columnText table))
          ++ ") OUTPUT INSERTED.* VALUES(" ++ joined ", " placeholders ++ ")"
  | update columns placeholders key placeholder =>
      "UPDATE " ++ table.bracketed ++ " SET "
        ++ joined ", " (List.zipWith (fun column placeholder =>
          columnText table column ++ "=" ++ placeholder) columns placeholders)
        ++ " OUTPUT INSERTED.* WHERE " ++ columnText table key ++ "=" ++ placeholder
  | delete key placeholder =>
      "DELETE FROM " ++ table.bracketed ++ " OUTPUT DELETED.* WHERE " ++ columnText table key
        ++ "=" ++ placeholder

/-- The text of an insertion, with default values in place of no columns. -/
theorem text_insert (table : TableName) (columns placeholders : List String) :
    (insert columns placeholders).text table
      = if columns.isEmpty then
          "INSERT INTO " ++ table.bracketed ++ " OUTPUT INSERTED.* DEFAULT VALUES"
        else
          "INSERT INTO " ++ table.bracketed ++ " (" ++ joined ", " (columns.map (columnText table))
            ++ ") OUTPUT INSERTED.* VALUES(" ++ joined ", " placeholders ++ ")" :=
  rfl

/-- The text of an update: every column with its placeholder, found by the key. -/
theorem text_update (table : TableName) (columns placeholders : List String)
    (key placeholder : String) :
    (update columns placeholders key placeholder).text table
      = "UPDATE " ++ table.bracketed ++ " SET "
        ++ joined ", " (List.zipWith (fun column placeholder =>
          columnText table column ++ "=" ++ placeholder) columns placeholders)
        ++ " OUTPUT INSERTED.* WHERE " ++ columnText table key ++ "=" ++ placeholder :=
  rfl

/-- The text of a deletion, which has no columns. -/
theorem text_delete (table : TableName) (key placeholder : String) :
    (delete key placeholder).text table
      = "DELETE FROM " ++ table.bracketed ++ " OUTPUT DELETED.* WHERE " ++ columnText table key
        ++ "=" ++ placeholder :=
  rfl

/-- The columns that a statement writes, each with its placeholder. -/
def assignments : Change → List (String × String)
  | insert columns placeholders | update columns placeholders _ _ => columns.zip placeholders
  | delete _ _ => []

/-- The columns that a statement compares, each with its placeholder. -/
def conditions : Change → List (String × String)
  | insert _ _ => []
  | update _ _ key placeholder | delete key placeholder => [(key, placeholder)]

/-- The placeholders of a statement in the order of its text. -/
def placeholders : Change → List String
  | insert _ placeholders => placeholders
  | update _ placeholders _ placeholder => placeholders ++ [placeholder]
  | delete _ placeholder => [placeholder]

end Change

/-- The value that a placeholder is bound to. -/
def valueOf (parameters : List Parameter) (placeholder : String) : Option Value :=
  (parameters.find? (·.name == placeholder)).map Parameter.value

/-- Columns with the values that their placeholders are bound to. -/
def bound (parameters : List Parameter) (pairs : List (String × String)) :
    List (String × Option Value) :=
  pairs.map fun x => (x.1, valueOf parameters x.2)

/-- The name of the parameter at a place, counted with 32 bits. -/
def ordinal (place : Nat) : String :=
  "@" ++ natText (UInt32.ofNat place).toNat

/-- The names of the first parameters. -/
def ordinals (count : Nat) : List String :=
  (List.range count).map ordinal

/-- The parameters of the properties of an entity, each bound to its value. -/
def ordinalParameters (row : Entity) : List Parameter :=
  row.properties.zipIdx.map fun x => ⟨ordinal x.2, x.1.value⟩

/-- The parameter that binds the key of a row. -/
def keyBinding (v : Value) : Parameter :=
  ⟨"@UId", v⟩

/-- **A statement and parameters in step**, for the properties of a row: the placeholders are the
names of the parameters in order, every parameter can be declared, and, as far as ordinals are
counted, the names are distinct, each is the name of one placeholder, and the columns with the
values that their placeholders are bound to are the properties of the row. -/
structure Change.Aligned (s : Change) (parameters : List Parameter) (row : Entity) : Prop where
  named : s.placeholders = parameters.map Parameter.name
  declared : (declarations parameters).result = .ok ()
  distinct : row.size ≤ UInt32.size → (parameters.map Parameter.name).Nodup
  once : row.size ≤ UInt32.size → ∀ p ∈ parameters, s.placeholders.count p.name = 1
  assigned : row.size ≤ UInt32.size →
    bound parameters s.assignments = row.properties.map fun p => (p.name, some p.value)

/-! ### Ordinals -/

/-- Below the width of the counter the name of a parameter is its place behind a marker. -/
theorem ordinal_eq {place : Nat} (h : place < UInt32.size) :
    ordinal place = "@" ++ natText place := by
  rw [ordinal, UInt32.toNat_ofNat_of_lt' h]

/-- No ordinal is the name that the key is bound to. -/
theorem ordinal_ne_key (place : Nat) : ordinal place ≠ "@UId" := by
  intro same
  have chars := congrArg String.toList same
  have key : "@UId".toList = "@".toList ++ ['U', 'I', 'd'] := by decide
  rw [ordinal, natText, String.toList_append, key] at chars
  have digits : numeral (UInt32.ofNat place).toNat = ['U', 'I', 'd'] := by
    have behind := List.append_cancel_left chars
    rwa [String.toList_ofList] at behind
  have letter : 'U' ∈ numeral (UInt32.ofNat place).toNat := by
    rw [digits]
    exact List.mem_cons_self
  exact absurd (isDigit_of_mem_numeral letter) (by decide)

/-- Names of parameters at different places are different. -/
theorem nodup_ordinals {count : Nat} (h : count ≤ UInt32.size) : (ordinals count).Nodup := by
  refine List.Nodup.map_on ?_ List.nodup_range
  intro i hi j hj same
  have below {k : Nat} (hk : k ∈ List.range count) : k < UInt32.size :=
    Nat.lt_of_lt_of_le (List.mem_range.mp hk) h
  rw [ordinal_eq (below hi), ordinal_eq (below hj)] at same
  have digits := congrArg String.toList same
  rw [String.toList_append, String.toList_append] at digits
  exact natText_injective (String.toList_injective (List.append_cancel_left digits))

/-- A context hands out the ordinals from its counter on, one for each value. -/
theorem Context.placeholders_eq {c : Context} {place : Nat}
    (start : c.counter = UInt32.ofNat place) (values : List Value) :
    (c.placeholders values).1
      = (values.zipIdx place).map fun x => ⟨ordinal x.2, x.1⟩ := by
  induction values generalizing c place with
  | nil => rfl
  | cons v rest ih =>
      have next : { c with counter := c.counter + 1 }.counter = UInt32.ofNat (place + 1) := by
        rw [UInt32.ofNat_add, ← start]
        rfl
      have first : "@" ++ natText c.counter.toNat = ordinal place := by rw [ordinal, start]
      rw [List.zipIdx_cons, List.map_cons, ← ih next, ← first]
      rfl

/-- The parameters of a row are named by the ordinals. -/
theorem map_name_ordinalParameters (row : Entity) :
    (ordinalParameters row).map Parameter.name = ordinals row.size := by
  rw [ordinalParameters, List.map_map, ordinals, Entity.size, List.range_eq_range',
    ← List.zipIdx_map_snd 0 row.properties, List.map_map]
  rfl

/-- The parameters of a row have the values of its properties, in their order. -/
theorem map_value_ordinalParameters (row : Entity) :
    (ordinalParameters row).map Parameter.value = row.properties.map Property.value := by
  have values : (Parameter.value ∘ fun x : Property × Nat => ⟨ordinal x.2, x.1.value⟩)
      = Property.value ∘ Prod.fst :=
    rfl
  rw [ordinalParameters, List.map_map, values, ← List.map_map, List.zipIdx_map_fst]

/-- Every parameter of a row has an ordinal for a name. -/
theorem exists_ordinal_of_mem {row : Entity} {p : Parameter} (h : p ∈ ordinalParameters row) :
    ∃ place, p.name = ordinal place := by
  obtain ⟨x, -, rfl⟩ := List.mem_map.mp h
  exact ⟨x.2, rfl⟩

/-- The text refers to a parameter of a row by its name. -/
theorem reference_of_mem {row : Entity} {p : Parameter} (h : p ∈ ordinalParameters row) :
    p.reference = p.name := by
  obtain ⟨x, -, rfl⟩ := List.mem_map.mp h
  exact Parameter.reference_marked _ (head?_natText_ne_marker _)

/-- References to the parameters of a row are the ordinals as well. -/
theorem map_reference_ordinalParameters (row : Entity) :
    (ordinalParameters row).map Parameter.reference = ordinals row.size := by
  rw [← map_name_ordinalParameters]
  exact List.map_congr_left fun p => reference_of_mem

/-- The context that starts a statement binds the values of a row to its parameters. -/
theorem Context.placeholders_row {c : Context} (start : c.counter = 0) (row : Entity) :
    (c.placeholders (row.properties.map Property.value)).1 = ordinalParameters row := by
  rw [Context.placeholders_eq start, List.zipIdx_map, List.map_map]
  rfl

/-! ### Looking values up -/

/-- Of parameters with distinct names each is found by its name. -/
theorem valueOf_name {parameters : List Parameter}
    (distinct : (parameters.map Parameter.name).Nodup) {p : Parameter} (h : p ∈ parameters) :
    valueOf parameters p.name = some p.value := by
  rw [valueOf, find?_of_nodup distinct h, Option.map_some]

/-- Columns and placeholders side by side bind each column to the value of its property, if the
parameters of the row are among some with distinct names. -/
theorem bound_row {row : Entity} {parameters : List Parameter}
    (distinct : (parameters.map Parameter.name).Nodup)
    (among : ordinalParameters row ⊆ parameters) :
    bound parameters (row.names.zip (ordinals row.size))
      = row.properties.map fun p => (p.name, some p.value) := by
  have values : (ordinals row.size).map (valueOf parameters)
      = row.properties.map fun p => some p.value := by
    rw [← map_name_ordinalParameters, List.map_map]
    calc (ordinalParameters row).map (valueOf parameters ∘ Parameter.name)
        = (ordinalParameters row).map (some ∘ Parameter.value) :=
          List.map_congr_left fun p member => valueOf_name distinct (among member)
      _ = (row.properties.map Property.value).map some := by
          rw [← map_value_ordinalParameters, List.map_map]
      _ = row.properties.map fun p => some p.value := List.map_map
  calc bound parameters (row.names.zip (ordinals row.size))
      = row.names.zip ((ordinals row.size).map (valueOf parameters)) := List.zip_map_right.symm
    _ = row.properties.map fun p => (p.name, some p.value) := by
        rw [values, Entity.names, List.zip_map']

/-- The key is found behind the parameters of a row, however many these are. -/
theorem valueOf_key (row : Entity) (v : Value) :
    valueOf (ordinalParameters row ++ [keyBinding v]) "@UId" = some v := by
  have others : (ordinalParameters row).find? (·.name == "@UId") = none := by
    rw [List.find?_eq_none]
    intro p member
    obtain ⟨place, name⟩ := exists_ordinal_of_mem member
    simpa [name] using ordinal_ne_key place
  rw [valueOf, List.find?_append, others]
  rfl

/-! ### Statements and parameters in step -/

/-- The names of the parameters of a row and a key are distinct. -/
theorem nodup_names_keyed {row : Entity} (counted : row.size ≤ UInt32.size) (v : Value) :
    ((ordinalParameters row ++ [keyBinding v]).map Parameter.name).Nodup := by
  rw [List.map_append, map_name_ordinalParameters, List.nodup_append]
  refine ⟨nodup_ordinals counted, List.nodup_singleton _, fun name ordinary key isKey => ?_⟩
  obtain ⟨place, -, rfl⟩ := List.mem_map.mp ordinary
  obtain rfl := List.mem_singleton.mp isKey
  exact ordinal_ne_key place

/-- No parameter of a row has a name that is reserved for positions. -/
theorem not_positional_of_mem {row : Entity} {p : Parameter} (h : p ∈ ordinalParameters row) :
    isPositional p.bareName = false := by
  obtain ⟨place, name⟩ := exists_ordinal_of_mem h
  rw [Parameter.bareName, name, ordinal, bareName_natText]
  exact isPositional_natText _

/-- Nor has the parameter of the key. -/
theorem not_positional_keyBinding (v : Value) : isPositional (keyBinding v).bareName = false := by
  show isPositional (bareName "@UId") = false
  decide

/-- Distinct names of parameters in the order of the placeholders are each met once. -/
theorem Change.count_placeholders {s : Change} {parameters : List Parameter}
    (named : s.placeholders = parameters.map Parameter.name)
    (distinct : (parameters.map Parameter.name).Nodup) :
    ∀ p ∈ parameters, s.placeholders.count p.name = 1 := by
  intro p member
  rw [named]
  exact List.count_eq_one_of_mem distinct (List.mem_map_of_mem member)

/-- An insertion is in step with the parameters of its row. -/
theorem aligned_insert (row : Entity) :
    (Change.insert row.names (ordinals row.size)).Aligned (ordinalParameters row) row where
  named := (map_name_ordinalParameters row).symm
  declared := declarations_result_eq_ok_iff.mpr fun _ => not_positional_of_mem
  distinct counted := by
    rw [map_name_ordinalParameters]
    exact nodup_ordinals counted
  once counted := by
    refine Change.count_placeholders (map_name_ordinalParameters row).symm ?_
    rw [map_name_ordinalParameters]
    exact nodup_ordinals counted
  assigned counted := by
    refine bound_row ?_ (List.Subset.refl _)
    rw [map_name_ordinalParameters]
    exact nodup_ordinals counted

/-- An update is in step with the parameters of its row and its key. -/
theorem aligned_update (row : Entity) (v : Value) :
    (Change.update row.names (ordinals row.size) keyColumn "@UId").Aligned
      (ordinalParameters row ++ [keyBinding v]) row := by
  have named : ordinals row.size ++ ["@UId"]
      = (ordinalParameters row ++ [keyBinding v]).map Parameter.name := by
    rw [List.map_append, map_name_ordinalParameters]
    rfl
  exact
    { named := named
      declared := declarations_result_eq_ok_iff.mpr (by
        intro p member
        rcases List.mem_append.mp member with ordinary | key
        · exact not_positional_of_mem ordinary
        · obtain rfl := List.mem_singleton.mp key
          exact not_positional_keyBinding v)
      distinct := fun counted => nodup_names_keyed counted v
      once := fun counted => Change.count_placeholders named (nodup_names_keyed counted v)
      assigned := fun counted =>
        bound_row (nodup_names_keyed counted v) (List.subset_append_left _ _) }

/-- A deletion is in step with its key. -/
theorem aligned_delete (v : Value) :
    (Change.delete keyColumn "@UId").Aligned [keyBinding v] .empty where
  named := rfl
  declared := declarations_result_eq_ok_iff.mpr (by
    intro p key
    obtain rfl := List.mem_singleton.mp key
    exact not_positional_keyBinding v)
  distinct _ := List.nodup_singleton _
  once _ := Change.count_placeholders rfl (List.nodup_singleton _)
  assigned _ := rfl

/-! ### The statements of an entity -/

/-- An insertion writes the properties but the identity column. -/
theorem Entity.writeInsert_eq (e : Entity) (table : TableName) :
    e.writeInsert table
      = ⟨(Change.insert (e.erase identityColumn).names
          (ordinals (e.erase identityColumn).size)).text table,
        .ok (ordinalParameters (e.erase identityColumn))⟩ := by
  have columns : e.insertColumns = (e.erase identityColumn).properties := rfl
  have start : ((Context.new .insertInto 0).enter .insertValues).counter = 0 := rfl
  generalize e.erase identityColumn = row at columns
  have parameters := Context.placeholders_row start row
  have names : row.names.isEmpty = row.properties.isEmpty := List.isEmpty_map
  rw [Entity.writeInsert, columns, Change.text_insert, names]
  cases none : row.properties.isEmpty with
  | true =>
      have noParameters : ordinalParameters row = [] := by
        simp [ordinalParameters, List.isEmpty_iff.mp none]
      simp only [↓reduceIte, noParameters, Written.write_bind, Written.pure_text,
        Written.pure_result, String.append_empty]
  | false =>
      simp only [↓reduceIte, Bool.false_eq_true, Context.within, parameters,
        map_reference_ordinalParameters, Written.write_bind, Written.pure_text,
        Written.pure_result, String.append_empty, String.append_assoc, Entity.names, List.map_map]
      rfl

/-- The key of an entity is bound to the value of its key column. -/
theorem Entity.keyParameter_eq_ok_iff {e : Entity} {p : Parameter} :
    e.keyParameter = .ok p ↔ ∃ v, e.get? keyColumn = some v ∧ p = keyBinding v := by
  have named (v : Value) : Parameter.normalized ⟨keyColumn, v⟩ = keyBinding v := by
    have reference : "@" ++ bareName keyColumn = "@UId" := by decide
    rw [Parameter.normalized, Parameter.reference, Parameter.bareName, reference]
    rfl
  rw [Entity.keyParameter, Entity.value]
  cases e.get? keyColumn with
  | none =>
      constructor
      · intro h
        cases h
      · rintro ⟨v, h, -⟩
        cases h
  | some v =>
      constructor
      · intro same
        exact ⟨v, rfl, (Except.ok.inj same).symm.trans (named v)⟩
      · rintro ⟨w, value, rfl⟩
        obtain rfl := Option.some.inj value
        exact congrArg Except.ok (named v)

/-- The reference to the key is the name that stands in statements. -/
theorem reference_keyBinding (v : Value) : (keyBinding v).reference = "@UId" := by
  have reference : "@" ++ bareName "@UId" = "@UId" := by decide
  exact reference

/-- What an update sets are the properties but the identity and the key column. -/
theorem Entity.updateColumns_eq (e : Entity) :
    e.updateColumns = ((e.erase identityColumn).erase keyColumn).properties := by
  simp [Entity.updateColumns, Entity.erase, Entity.retain, List.filter_filter, Bool.and_comm]

/-- An update that has a key and something to set is written. -/
theorem Entity.exists_writeUpdate_eq_ok {e : Entity} {v : Value}
    (key : e.get? keyColumn = some v) (settable : e.updateColumns ≠ []) (table : TableName) :
    ∃ parameters, (e.writeUpdate table).result = .ok parameters := by
  rw [Entity.writeUpdate, Entity.keyParameter_eq_ok_iff.mpr ⟨v, key, rfl⟩]
  obtain ⟨p, rest, columns⟩ := List.exists_cons_of_ne_nil settable
  rw [columns]
  exact ⟨_, rfl⟩

/-- An update that is written sets the properties but the identity and the key column, where the
key column has the value of the entity. -/
theorem Entity.writeUpdate_eq_ok {e : Entity} {table : TableName} {parameters : List Parameter}
    (written : (e.writeUpdate table).result = .ok parameters) :
    ∃ v, e.get? keyColumn = some v
      ∧ parameters = ordinalParameters ((e.erase identityColumn).erase keyColumn) ++ [keyBinding v]
      ∧ (e.writeUpdate table).text
        = (Change.update ((e.erase identityColumn).erase keyColumn).names
          (ordinals ((e.erase identityColumn).erase keyColumn).size) keyColumn "@UId").text
          table := by
  have columns := e.updateColumns_eq
  generalize (e.erase identityColumn).erase keyColumn = row at columns
  have ordinary : ((Context.new .updateSet 0).placeholders
      (row.properties.map Property.value)).1 = ordinalParameters row :=
    Context.placeholders_row rfl row
  cases key : e.keyParameter with
  | error error =>
      rw [Entity.writeUpdate, key] at written
      cases written
  | ok p =>
      obtain ⟨v, value, rfl⟩ := Entity.keyParameter_eq_ok_iff.mp key
      rw [Entity.writeUpdate, key, columns] at written ⊢
      by_cases none : row.properties.isEmpty = true
      · simp only [if_pos none] at written
        cases written
      · simp only [if_neg none, ordinary, Written.write_bind, Written.pure_result,
          Written.pure_text, String.append_empty] at written ⊢
        refine ⟨v, value, (Except.ok.inj written).symm, ?_⟩
        have pairs : List.zipWith (fun column placeholder =>
              columnText table column ++ "=" ++ placeholder) row.names (ordinals row.size)
            = List.zipWith (fun column parameter =>
              columnText table column.name ++ "=" ++ parameter.reference) row.properties
              (ordinalParameters row) := by
          rw [← map_reference_ordinalParameters, Entity.names, List.zipWith_map]
        rw [Change.text_update, pairs]
        simp only [keyCondition, reference_keyBinding, String.append_assoc]

/-- A deletion that is written is told by the key of the entity. -/
theorem Entity.writeDelete_eq_ok {e : Entity} {table : TableName} {parameters : List Parameter}
    (written : (e.writeDelete table).result = .ok parameters) :
    ∃ v, e.get? keyColumn = some v ∧ parameters = [keyBinding v]
      ∧ (e.writeDelete table).text = (Change.delete keyColumn "@UId").text table := by
  cases key : e.keyParameter with
  | error error =>
      rw [Entity.writeDelete, key] at written
      cases written
  | ok p =>
      obtain ⟨v, value, rfl⟩ := Entity.keyParameter_eq_ok_iff.mp key
      rw [Entity.writeDelete, key] at written ⊢
      refine ⟨v, value, (Except.ok.inj written).symm, ?_⟩
      simp only [Written.write_bind, Written.pure_text, keyCondition, reference_keyBinding,
        Change.text_delete, String.append_empty, String.append_assoc]

/-- **Texts, placeholders and parameters stay in step.** Whatever the entity and the table, an
insertion writes the properties but the identity column, and the default values if there are none;
an update that is written sets the properties but the identity and the key column; and an update
or a deletion that is written compares the key column with the key of the entity, which the last
parameter binds. -/
theorem Entity.changes_aligned (e : Entity) (table : TableName) :
    (∀ place < UInt32.size, ordinal place = "@" ++ natText place) ∧
    (∃ row s, row = e.erase identityColumn ∧ s = Change.insert row.names (ordinals row.size)
      ∧ e.writeInsert table = ⟨s.text table, .ok (ordinalParameters row)⟩
      ∧ s.Aligned (ordinalParameters row) row
      ∧ (row.size = 0 → ordinalParameters row = [] ∧ s.text table
        = "INSERT INTO " ++ table.bracketed ++ " OUTPUT INSERTED.* DEFAULT VALUES")) ∧
    (∀ parameters, (e.writeUpdate table).result = .ok parameters →
      ∃ row s v, row = (e.erase identityColumn).erase keyColumn ∧ e.get? keyColumn = some v
        ∧ s = Change.update row.names (ordinals row.size) keyColumn "@UId"
        ∧ (e.writeUpdate table).text = s.text table
        ∧ parameters = ordinalParameters row ++ [⟨"@UId", v⟩]
        ∧ parameters.length = row.size + 1
        ∧ s.Aligned parameters row
        ∧ bound parameters s.conditions = [(keyColumn, some v)]) ∧
    (∀ parameters, (e.writeDelete table).result = .ok parameters →
      ∃ s v, e.get? keyColumn = some v ∧ s = Change.delete keyColumn "@UId"
        ∧ (e.writeDelete table).text = s.text table
        ∧ parameters = [⟨"@UId", v⟩]
        ∧ s.Aligned parameters .empty
        ∧ bound parameters s.conditions = [(keyColumn, some v)]) := by
  refine ⟨fun place => ordinal_eq, ?_, ?_, ?_⟩
  · refine ⟨_, _, rfl, rfl, e.writeInsert_eq table, aligned_insert _, fun none => ?_⟩
    have noProperties : (e.erase identityColumn).properties = [] := List.length_eq_zero_iff.mp none
    constructor
    · rw [ordinalParameters, noProperties]
      rfl
    · rw [Change.text_insert, Entity.names, noProperties]
      rfl
  · intro parameters written
    obtain ⟨v, value, rfl, text⟩ := Entity.writeUpdate_eq_ok written
    refine ⟨_, _, v, rfl, value, rfl, text, rfl, ?_, aligned_update _ v, ?_⟩
    · simp [ordinalParameters, Entity.size]
    · exact congrArg (fun found => [(keyColumn, found)]) (valueOf_key _ v)
  · intro parameters written
    obtain ⟨v, value, rfl, text⟩ := Entity.writeDelete_eq_ok written
    exact ⟨_, v, value, rfl, text, rfl, aligned_delete v, rfl⟩

/-- A person is inserted without its identity, and updated and deleted by its key. -/
theorem changes_aligned_person :
    let person : Entity :=
      ⟨[⟨"Id", .ofInt32 1⟩, ⟨"UId", .ofInt32 7⟩, ⟨"Name", .ofString "A"⟩], by decide⟩
    let table : TableName := ⟨"app", "Person"⟩
    (∃ parameters, (person.writeInsert table).result = .ok parameters
        ∧ bound parameters [("UId", "@0"), ("Name", "@1")]
          = [("UId", some (.ofInt32 7)), ("Name", some (.ofString "A"))])
      ∧ (∃ parameters, (person.writeUpdate table).result = .ok parameters
        ∧ parameters.length = 2
        ∧ bound parameters [(keyColumn, "@UId")] = [(keyColumn, some (.ofInt32 7))])
      ∧ ∃ parameters, (person.writeDelete table).result = .ok parameters
        ∧ parameters = [⟨"@UId", .ofInt32 7⟩]
        ∧ bound parameters [(keyColumn, "@UId")] = [(keyColumn, some (.ofInt32 7))] := by
  intro person table
  obtain ⟨-, insertion, update, deletion⟩ := Entity.changes_aligned person table
  refine ⟨?_, ⟨_, rfl, ?_⟩, ⟨_, rfl, ?_⟩⟩
  · obtain ⟨row, s, rfl, rfl, written, aligned, -⟩ := insertion
    have assigned := aligned.assigned (by decide)
    have pairs : ["UId", "Name"].zip (ordinals 2) = [("UId", "@0"), ("Name", "@1")] := by
      decide +kernel
    exact ⟨_, congrArg Written.result written, pairs ▸ assigned⟩
  · obtain ⟨row, s, v, rfl, value, rfl, -, -, length, -, conditions⟩ := update _ rfl
    obtain rfl := Option.some.inj value
    exact ⟨length, conditions⟩
  · obtain ⟨s, v, value, rfl, -, parameters, -, conditions⟩ := deletion _ rfl
    obtain rfl := Option.some.inj value
    exact ⟨parameters, conditions⟩

end EntitySql
