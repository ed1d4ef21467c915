import EntitySql.Database.Scripted
import EntitySql.Proofs.Entity.OrderedMap
import EntitySql.Proofs.Query.Columns
/-!
# Window columns are taken out

A database answers a compiled query with rows that have a value for each column of the statement.
The names of window columns that the query lists, by the indexes of its levels, and those that its
statement selects, level by level, are the same. So what is left of a row are the columns that the
query asks for, with their values.

## Main definitions

* `rowOf`: the properties of a row.

## Main results

* `Reply.exists_rows_eq_ok`: rows with a value for each of distinct columns are entities.
* `Query.retrieve_rows`: they are retrieved without the window columns.
* `Query.windows_taken_out`: what is retrieved has the columns that a query asks for.
-/

namespace EntitySql

/-- The properties of a row: the columns of a statement with the values of the row. -/
def rowOf (columns : List String) (values : List Value) : List Property :=
  (columns.zip values).map fun cell => ⟨cell.1, cell.2⟩

/-- A row has the names of its columns. -/
theorem map_name_rowOf {columns : List String} {values : List Value}
    (full : values.length = columns.length) :
    (rowOf columns values).map Property.name = columns := by
  rw [rowOf, List.map_map]
  exact List.map_fst_zip (Nat.le_of_eq full.symm)

/-- Properties with distinct names are those of an entity. -/
theorem Entity.ofProperties_of_nodup {properties : List Property}
    (distinct : (properties.map Property.name).Nodup) :
    Entity.ofProperties properties = .ok ⟨properties, distinct⟩ :=
  ofProperties_eq_ok_iff.mpr ⟨distinct, rfl⟩

/-- **Rows with a value for each of distinct columns are entities**, whatever a repeated name would
have been reported as. -/
theorem Reply.exists_rows_eq_ok {columns : List String} (distinct : columns.Nodup)
    {rows : List (List Value)} (full : ∀ values ∈ rows, values.length = columns.length)
    (report : DatabaseError → Failure) :
    ∃ entities, Reply.rows (rows.map fun values =>
        (Entity.ofProperties (rowOf columns values)).mapError report) = .ok entities
      ∧ entities.map Entity.properties = rows.map (rowOf columns) := by
  induction rows with
  | nil => exact ⟨[], rfl, rfl⟩
  | cons values rest ih =>
      obtain ⟨first, others⟩ := List.forall_mem_cons.mp full
      obtain ⟨entities, read, properties⟩ := ih others
      have names : ((rowOf columns values).map Property.name).Nodup := by
        rw [map_name_rowOf first]
        exact distinct
      refine ⟨⟨_, names⟩ :: entities, ?_, ?_⟩
      · rw [List.map_cons, Entity.ofProperties_of_nodup names]
        exact congrArg (Except.map _) read
      · rw [List.map_cons, List.map_cons, properties]

namespace Query

variable {columnsOf : TableName → List String} {q : Query} {s : Select}

/-- A compiled query is fetched with its parameters, and the window columns are taken out of what
comes back. -/
theorem retrieve_of_compile {σ : Type} (db : Database σ) (writer : db.writer.select q = q.select)
    (compiled : q.compile = .ok s) (state : σ) :
    (db.retrieve q state).1
      = (Reply.rows (db.fetch ⟨s.text, q.allParameters⟩ state).1).map
          (List.map (Database.withoutWindows q)) := by
  have written : (do db.writer.select q; return q.allParameters : Written (List Parameter))
      = ⟨s.text, .ok q.allParameters⟩ := by
    rw [writer, select, compiled, Written.write_bind, Written.pure_text, String.append_empty,
      Written.pure_result]
  rw [Database.retrieve, written]
  rfl

/-- Rows with a value for each of distinct columns are retrieved as entities without the window
columns, the other ones in order and with the values of the rows. -/
theorem retrieve_rows {columns : List String} (distinct : columns.Nodup)
    (compiled : q.compile = .ok s) {σ : Type} {db : Database σ}
    (writer : db.writer.select q = q.select) {state : σ} {rows : List (List Value)}
    (full : ∀ values ∈ rows, values.length = columns.length) {report : DatabaseError → Failure}
    (reply : (db.fetch ⟨s.text, q.allParameters⟩ state).1 = (rows.map fun values =>
      (Entity.ofProperties (rowOf columns values)).mapError report)) :
    ∃ entities, (db.retrieve q state).1 = .ok entities ∧
      (entities.map Entity.properties = rows.map fun values =>
        (rowOf columns values).filter fun p => !q.rowLabels.contains p.name) ∧
      ∀ e ∈ entities, e.names = columns.filter fun name => !q.rowLabels.contains name := by
  obtain ⟨fetched, read, properties⟩ := Reply.exists_rows_eq_ok distinct full report
  have retained : (fetched.map (Database.withoutWindows q)).map Entity.properties
      = rows.map fun values =>
          (rowOf columns values).filter fun p => !q.rowLabels.contains p.name := by
    have kept : Entity.properties ∘ Database.withoutWindows q
        = (List.filter fun p => !q.rowLabels.contains p.name) ∘ Entity.properties :=
      rfl
    rw [List.map_map, kept, ← List.map_map, properties, List.map_map]
    rfl
  refine ⟨fetched.map (Database.withoutWindows q), ?_, retained, fun e member => ?_⟩
  · rw [retrieve_of_compile db writer compiled, reply, read]
    rfl
  · have row := List.mem_map_of_mem (f := Entity.properties) member
    rw [retained] at row
    obtain ⟨values, known, same⟩ := List.mem_map.mp row
    calc e.names
        = ((rowOf columns values).filter fun p =>
            !q.rowLabels.contains p.name).map Property.name := by rw [same, Entity.names]
      _ = ((rowOf columns values).map Property.name).filter fun name =>
            !q.rowLabels.contains name := by rw [List.filter_map]; rfl
      _ = columns.filter fun name => !q.rowLabels.contains name := by
            rw [map_name_rowOf (full values known)]

/-- **Window columns are taken out.** If the columns that a query asks for have distinct names, none
of them that of a window column, then no statement in the compiled query has two columns of one
name, and the row numbers by which a frame picks and orders its rows are one column of what it
reads. Whatever rows a database answers to the statement, the entities that are retrieved have the
columns that the query asks for, in order and with the values of the rows. -/
theorem windows_taken_out (distinct : DistinctColumns columnsOf q.levels)
    (compiled : q.compile = .ok s) :
    (∀ t ∈ s.parts, (t.columns columnsOf).Nodup) ∧
    (∀ f inner, .frame f inner ∈ s.parts →
      (inner.columns columnsOf).count (rowLabel f.index) = 1) ∧
    ((s.columns columnsOf).filter fun name => !q.rowLabels.contains name)
      = dataColumns columnsOf q.levels ∧
    ∀ {σ : Type} (db : Database σ) (state : σ) (rows : List (List Value))
      (report : DatabaseError → Failure), db.writer.select q = q.select →
      (∀ values ∈ rows, values.length = (s.columns columnsOf).length) →
      (db.fetch ⟨s.text, q.allParameters⟩ state).1 = (rows.map fun values =>
        (Entity.ofProperties (rowOf (s.columns columnsOf) values)).mapError report) →
      ∃ entities, (db.retrieve q state).1 = .ok entities ∧
        (entities.map Entity.properties = rows.map fun values =>
          (rowOf (s.columns columnsOf) values).filter fun p => !q.rowLabels.contains p.name) ∧
        ∀ e ∈ entities, e.names = dataColumns columnsOf q.levels := by
  obtain ⟨valid, levels⟩ := compile_eq_ok_iff.mp compiled
  have indexes := nodup_indexes_of_problemOf? valid
  have belongs : ∀ t ∈ s.parts, t.BelongsTo columnsOf q.levels :=
    belongsTo_of_mem_parts valid levels
  have columns := columns_of_compileLevels columnsOf valid levels
  have data : (s.columns columnsOf).filter (fun name => !q.rowLabels.contains name)
      = dataColumns columnsOf q.levels := by
    rw [columns]
    exact distinct.filter_columns
  have once : (s.columns columnsOf).Nodup := by
    rw [columns]
    exact distinct.nodup indexes
  refine ⟨fun t part => (belongs t part).nodup distinct indexes,
    fun f inner part => (belongs _ part).count_window distinct indexes, data, ?_⟩
  intro σ db state rows report writer full reply
  obtain ⟨entities, read, properties, names⟩ := retrieve_rows once compiled writer full reply
  exact ⟨entities, read, properties, fun e member => (names e member).trans data⟩

end Query

/-- The last of the persons behind the first three of a sub query of four, which asks for their
names and ages. -/
def lastPerson : Query :=
  (((Query.ofTable ⟨"app", "Person"⟩).project (.column ⟨⟨"app", "Person"⟩, "Name"⟩)).project
    (.column ⟨⟨"app", "Person"⟩, "Age"⟩)
    |>.partition (.take 4)).ofSubQuery.partition (.skip 3)
    |>.partition ⟨.last, none⟩

/-- The row numbers of both levels are taken out of the row of the last person. -/
theorem windows_taken_out_lastPerson :
    DistinctColumns (fun _ => ["Id", "UId", "Name", "Age"]) lastPerson.levels ∧
    ∃ s, lastPerson.compile = .ok s ∧ s.columns (fun _ => ["Id", "UId", "Name", "Age"])
        = ["RowId1", "RowId0", "Name", "Age"] ∧
      ∃ entities, (Database.retrieve (.scripted .transactSql) lastPerson
          (.ofAnswers [⟨[[("RowId1", .value (.ofInt32 4)), ("RowId0", .value (.ofInt32 4)),
            ("Name", .value (.ofBool true)), ("Age", .value (.ofInt32 7))]], 0, none⟩])).1
          = .ok entities ∧
        entities.map Entity.properties = [[⟨"Name", .ofBool true⟩, ⟨"Age", .ofInt32 7⟩]] := by
  have members : ∀ level ∈ lastPerson.levels, ∀ e ∈ level.projections, ∃ c, e = .column c := by
    intro level inside e member
    have projections : lastPerson.levels.flatMap Level.projections
        = [⟨⟨"app", "Person"⟩, "Name"⟩, ⟨⟨"app", "Person"⟩, "Age"⟩].map Expression.column :=
      rfl
    have known := List.mem_flatMap.mpr ⟨level, inside, member⟩
    rw [projections] at known
    obtain ⟨c, -, rfl⟩ := List.mem_map.mp known
    exact ⟨c, rfl⟩
  have distinct : DistinctColumns (fun _ => ["Id", "UId", "Name", "Age"]) lastPerson.levels :=
    ⟨members, by decide, by decide, by decide +kernel, by decide +kernel⟩
  obtain ⟨s, compiled, columns⟩ : ∃ s, lastPerson.compile = .ok s
      ∧ s.columns (fun _ => ["Id", "UId", "Name", "Age"]) = ["RowId1", "RowId0", "Name", "Age"] :=
    ⟨_, rfl, by decide +kernel⟩
  obtain ⟨-, -, -, retrieve⟩ := Query.windows_taken_out distinct compiled
  rw [columns] at retrieve
  obtain ⟨entities, read, properties, -⟩ := retrieve (.scripted .transactSql)
    (.ofAnswers [⟨[[("RowId1", .value (.ofInt32 4)), ("RowId0", .value (.ofInt32 4)),
      ("Name", .value (.ofBool true)), ("Age", .value (.ofInt32 7))]], 0, none⟩])
    [[.ofInt32 4, .ofInt32 4, .ofBool true, .ofInt32 7]] .ofError rfl (by decide) rfl
  have labels : lastPerson.rowLabels = ["RowId1", "RowId0"] := by decide +kernel
  rw [labels] at properties
  exact ⟨distinct, s, compiled, columns, entities, read, properties⟩

end EntitySql
