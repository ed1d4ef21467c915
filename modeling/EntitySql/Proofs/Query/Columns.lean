import EntitySql.Proofs.Query.Validity
import EntitySql.Proofs.Statement.Compile
import EntitySql.Proofs.Text.Digit
/-!
# The columns of compiled queries

The columns of a statement follow level by level. A level has its window column in front of its
projections, or of all columns of what it reads from; a frame passes the columns of the statement
in it through. The columns of a compiled query are thus some window columns, from the outermost
level down to one with projections, and behind them the columns that were asked for. Since the
indexes of levels differ, no two columns have one name.

## Main definitions

* `Select.columns`, `Select.parts`: the columns of a statement, and the statements in it.
* `windowColumns`, `dataColumns`: the two kinds of columns of levels.
* `DistinctColumns`: levels whose tables and projections have distinct names.
* `Select.Framed`: a statement in frames of one level.

## Main results

* `Level.framed_of_paged`: the partitions of a level put frames around its statement.
* `Query.columns_of_compileLevels`, `Query.belongsTo_of_mem_parts`: the columns of a compiled query
  and of the statements in it.
* `Select.BelongsTo.nodup`, `Select.BelongsTo.count_window`: the columns are distinct, and what a
  frame refers to is one of them.
* `DistinctColumns.filter_columns`: without the window columns they are those that were asked for.
-/

namespace EntitySql

open EntitySql.Text

/-- Indexes name window columns apart. -/
theorem rowLabel_injective : Function.Injective rowLabel := fun _ _ same =>
  UInt32.toNat_inj.mp (natText_injective ((String.append_right_inj "RowId").mp same))

/-! ### The columns of statements -/

/-- The name of the column that a member is selected as. Other expressions have none. -/
def Expression.label : Expression → String
  | .column c => c.name
  | _ => ""

/-- The columns of a level over those of its source: its window column, then its projections or
all of the source. -/
def LevelHead.columns (head : LevelHead) (source : List String) : List String :=
  rowLabel head.index ::
    if head.projections.isEmpty then source else head.projections.map Expression.label

namespace Select

/-- The columns of a statement, given those of tables. Frames pass columns through. -/
def columns (columnsOf : TableName → List String) : Select → List String
  | level head tables => head.columns (tables.flatMap columnsOf)
  | derived head inner => head.columns (inner.columns columnsOf)
  | frame _ inner => inner.columns columnsOf

/-- A statement and all statements in it. -/
def parts : Select → List Select
  | level head tables => [level head tables]
  | derived head inner => derived head inner :: inner.parts
  | frame f inner => frame f inner :: inner.parts

/-- A statement in frames of a level. -/
inductive Framed (index : UInt32) (s : Select) : Select → Prop
  | unframed : Framed index s s
  | frame {f : Frame} {inner : Select} :
      f.index = index → Framed index s inner → Framed index s (.frame f inner)

namespace Framed

variable {index : UInt32} {s t : Select}

/-- Frames have the columns of the statement that they stand around. -/
theorem columns_eq (framed : Framed index s t) (columnsOf : TableName → List String) :
    t.columns columnsOf = s.columns columnsOf := by
  induction framed with
  | unframed => rfl
  | frame _ _ ih => exact ih

/-- Of the statements in frames, those that are not in the statement itself are frames. -/
theorem mem_parts (framed : Framed index s t) {r : Select} (member : r ∈ t.parts) :
    r ∈ s.parts ∨ Framed index s r ∧ ∃ f inner, r = .frame f inner ∧ f.index = index := by
  induction framed with
  | unframed => exact .inl member
  | frame same inside ih =>
      rw [parts, List.mem_cons] at member
      rcases member with rfl | deeper
      · exact .inr ⟨.frame same inside, _, _, rfl, same⟩
      · exact ih deeper

end Framed

end Select

/-! ### Partitions put frames around a statement -/

namespace OpenFrame

open Select

variable {index : UInt32} {nested : Bool} {s : Select} {f g : OpenFrame}

/-- Closing a row limit with a further frame stays within frames of the level. -/
theorem framed_unlimited (framed : Framed index s f.inner) :
    Framed index s (f.unlimited index nested).inner := by
  rw [unlimited]
  split
  · exact .frame rfl framed
  · exact framed

/-- A partition puts at most one frame around the statement. -/
theorem framed_of_apply {p : Partition} (framed : Framed index s f.inner)
    (applied : f.apply index nested p = .ok g) : Framed index s g.inner := by
  have step := apply_eq_ok_iff.mp applied
  cases op : p.operator with
  | first | firstOrDefault | last | lastOrDefault =>
      simp only [op] at step
      rw [step]
      exact framed_unlimited framed
  | single | singleOrDefault =>
      simp only [op] at step
      rw [step]
      exact framed
  | take | skip =>
      simp only [op] at step
      obtain ⟨count, -, rfl⟩ := step
      exact framed_unlimited framed

/-- Whatever partitions are applied to a level, only frames of the level come around it. -/
theorem framed_of_applyAll {partitions : List Partition} (framed : Framed index s f.inner)
    (applied : applyAll index nested f partitions = .ok g) : Framed index s g.inner := by
  induction partitions generalizing f with
  | nil => exact applyAll_nil_eq_ok_iff.mp applied ▸ framed
  | cons p rest ih =>
      obtain ⟨next, first, others⟩ := applyAll_cons_eq_ok_iff.mp applied
      exact ih (framed_of_apply framed first) others

end OpenFrame

/-- **The partitions of a level put frames of the level around its statement.** -/
theorem Level.framed_of_paged {level : Level} {nested : Bool} {s t : Select}
    (paged : level.paged nested s = .ok t) : Select.Framed level.index s t := by
  rcases Level.paged_eq_ok_iff.mp paged with ⟨-, rfl⟩ | ⟨-, f, applied, rfl⟩
  · exact .unframed
  · exact .frame rfl (OpenFrame.framed_of_applyAll .unframed applied)

/-! ### The columns of levels -/

/-- The window columns of levels, outermost first, down to the first level with projections. -/
def windowColumns : List Level → List String
  | [] => []
  | level :: rest =>
      rowLabel level.index :: if level.projections.isEmpty then windowColumns rest else []

/-- The columns that levels ask for: the projections of the outermost level that has any, else the
columns of the tables. -/
def dataColumns (columnsOf : TableName → List String) (levels : List Level) : List String :=
  match levels.find? fun level => !level.projections.isEmpty with
  | some level => level.projections.map Expression.label
  | none => (levels.flatMap Level.tables).flatMap columnsOf

/-- Levels whose projections are members with distinct names on each level, whose tables have
columns with distinct names, and none of whose names is that of a window column. -/
structure DistinctColumns (columnsOf : TableName → List String) (levels : List Level) : Prop where
  members : ∀ level ∈ levels, ∀ e ∈ level.projections, ∃ c, e = .column c
  projections : ∀ level ∈ levels, (level.projections.map Expression.label).Nodup
  tables : ((levels.flatMap Level.tables).flatMap columnsOf).Nodup
  projectionsApart : ∀ level ∈ levels, ∀ name ∈ level.projections.map Expression.label,
    name ∉ levels.map fun level => rowLabel level.index
  tablesApart : ∀ name ∈ (levels.flatMap Level.tables).flatMap columnsOf,
    name ∉ levels.map fun level => rowLabel level.index

variable {columnsOf : TableName → List String}

/-- The window columns of levels are named by them. -/
theorem windowColumns_sublist (levels : List Level) :
    (windowColumns levels).Sublist (levels.map fun level => rowLabel level.index) := by
  induction levels with
  | nil => exact .slnil
  | cons level rest ih =>
      rw [windowColumns, List.map_cons]
      split
      · exact ih.cons_cons _
      · exact (List.nil_sublist _).cons_cons _

namespace DistinctColumns

variable {levels : List Level}

/-- The levels of a sub query have distinct columns if those of the query have. -/
theorem of_suffix {inner : List Level} (distinct : DistinctColumns columnsOf levels)
    (suffix : inner <:+ levels) : DistinctColumns columnsOf inner := by
  obtain ⟨outer, rfl⟩ := suffix
  have inside {level : Level} (member : level ∈ inner) : level ∈ outer ++ inner :=
    List.mem_append_right outer member
  have labels {name : String} (known : name ∈ inner.map fun level => rowLabel level.index) :
      name ∈ (outer ++ inner).map fun level => rowLabel level.index := by
    rw [List.map_append]
    exact List.mem_append_right _ known
  have columns : ((outer ++ inner).flatMap Level.tables).flatMap columnsOf
      = (outer.flatMap Level.tables).flatMap columnsOf
        ++ (inner.flatMap Level.tables).flatMap columnsOf := by
    rw [List.flatMap_append, List.flatMap_append]
  exact
    { members := fun level member => distinct.members level (inside member)
      projections := fun level member => distinct.projections level (inside member)
      tables := (columns ▸ distinct.tables).of_append_right
      projectionsApart := fun level member name known label =>
        distinct.projectionsApart level (inside member) name known (labels label)
      tablesApart := fun name known label =>
        distinct.tablesApart name (columns ▸ List.mem_append_right _ known) (labels label) }

/-- The columns that levels ask for are distinct and no window columns. -/
theorem dataColumns_apart (distinct : DistinctColumns columnsOf levels) :
    (dataColumns columnsOf levels).Nodup ∧ ∀ name ∈ dataColumns columnsOf levels,
      name ∉ levels.map fun level => rowLabel level.index := by
  rw [dataColumns]
  split
  next level found =>
    have member : level ∈ levels := List.mem_of_find?_eq_some found
    exact ⟨distinct.projections level member, distinct.projectionsApart level member⟩
  next => exact ⟨distinct.tables, distinct.tablesApart⟩

/-- **No two columns of levels have one name.** -/
theorem nodup (distinct : DistinctColumns columnsOf levels)
    (indexes : (levels.map Level.index).Nodup) :
    (windowColumns levels ++ dataColumns columnsOf levels).Nodup := by
  obtain ⟨data, apart⟩ := distinct.dataColumns_apart
  have labels : (levels.map fun level => rowLabel level.index).Nodup := by
    have named := indexes.map rowLabel_injective
    rwa [List.map_map] at named
  rw [List.nodup_append]
  refine ⟨(windowColumns_sublist levels).nodup labels, data, ?_⟩
  rintro window known name member rfl
  exact apart window member ((windowColumns_sublist levels).subset known)

/-- **Without the window columns, the columns of levels are those that they ask for.** -/
theorem filter_columns (distinct : DistinctColumns columnsOf levels) :
    ((windowColumns levels ++ dataColumns columnsOf levels).filter fun name =>
        !(levels.map fun level => rowLabel level.index).contains name)
      = dataColumns columnsOf levels := by
  obtain ⟨-, apart⟩ := distinct.dataColumns_apart
  have windows : (windowColumns levels).filter (fun name =>
      !(levels.map fun level => rowLabel level.index).contains name) = [] := by
    refine List.filter_eq_nil_iff.mpr fun name known => ?_
    have label := (windowColumns_sublist levels).subset known
    simpa using label
  have data : (dataColumns columnsOf levels).filter (fun name =>
      !(levels.map fun level => rowLabel level.index).contains name)
        = dataColumns columnsOf levels := by
    refine List.filter_eq_self.mpr fun name known => ?_
    have free := apart name known
    simpa using free
  rw [List.filter_append, windows, data, List.nil_append]

end DistinctColumns

/-! ### The columns of compiled queries -/

/-- Whether a statement belongs to one of some levels: it has the columns of the level and the
levels inside it, and if it is a frame, it is one of the level. -/
def Select.BelongsTo (columnsOf : TableName → List String) (levels : List Level) (t : Select) :
    Prop :=
  ∃ level rest, level :: rest <:+ levels
    ∧ t.columns columnsOf = windowColumns (level :: rest) ++ dataColumns columnsOf (level :: rest)
    ∧ ∀ f inner, t = .frame f inner → f.index = level.index

namespace Select.BelongsTo

variable {levels : List Level}

/-- **The columns of a statement are distinct.** -/
theorem nodup {t : Select} (belongs : t.BelongsTo columnsOf levels)
    (distinct : DistinctColumns columnsOf levels) (indexes : (levels.map Level.index).Nodup) :
    (t.columns columnsOf).Nodup := by
  obtain ⟨level, rest, suffix, columns, -⟩ := belongs
  rw [columns]
  exact (distinct.of_suffix suffix).nodup ((suffix.sublist.map Level.index).nodup indexes)

/-- **The window column that a frame refers to is one column of what it reads.** -/
theorem count_window {f : Frame} {inner : Select}
    (belongs : (Select.frame f inner).BelongsTo columnsOf levels)
    (distinct : DistinctColumns columnsOf levels) (indexes : (levels.map Level.index).Nodup) :
    (inner.columns columnsOf).count (rowLabel f.index) = 1 := by
  have once : (inner.columns columnsOf).Nodup := belongs.nodup distinct indexes
  obtain ⟨level, rest, -, columns, frames⟩ := belongs
  have known : rowLabel f.index ∈ (Select.frame f inner).columns columnsOf := by
    rw [columns, frames f inner rfl]
    exact List.mem_cons_self
  exact List.count_eq_one_of_mem once known

end Select.BelongsTo

/-- The statements in the frames of a level belong to the level if those in its own statement do. -/
theorem Level.belongsTo_of_paged {level : Level} {inner : List Level} {nested : Bool}
    {source s t : Select} (paged : level.paged nested source = .ok s)
    (columns : source.columns columnsOf
      = windowColumns (level :: inner) ++ dataColumns columnsOf (level :: inner))
    (parts : ∀ r ∈ source.parts, r.BelongsTo columnsOf (level :: inner)) (member : t ∈ s.parts) :
    t.BelongsTo columnsOf (level :: inner) := by
  rcases (Level.framed_of_paged paged).mem_parts member with inside | ⟨framed, f, r, rfl, index⟩
  · exact parts t inside
  · refine ⟨level, inner, List.suffix_rfl, (framed.columns_eq columnsOf).trans columns, ?_⟩
    rintro g q same
    cases same
    exact index

namespace Query

variable {seen : List UInt32} {level : Level} {nested : Bool} {inner : List Level} {s : Select}

/-- The columns of the innermost level. -/
theorem columns_level (columnsOf : TableName → List String) (level : Level) (nested : Bool) :
    (Select.level (level.head nested) level.tables).columns columnsOf
      = windowColumns [level] ++ dataColumns columnsOf [level] := by
  cases projections : level.projections <;>
    simp [Select.columns, LevelHead.columns, Level.head, windowColumns, dataColumns, projections]

/-- The columns of a level over those of the levels inside it. -/
theorem columns_derived {next : Level} {rest : List Level} (nested : Bool)
    (noTables : level.tables = [])
    (columns : s.columns columnsOf
      = windowColumns (next :: rest) ++ dataColumns columnsOf (next :: rest)) :
    (Select.derived (level.head nested) s).columns columnsOf
      = windowColumns (level :: next :: rest) ++ dataColumns columnsOf (level :: next :: rest) := by
  rw [Select.columns, LevelHead.columns, columns, windowColumns.eq_def (level :: _),
    dataColumns.eq_def _ (level :: _), List.find?_cons, List.flatMap_cons, noTables]
  cases projections : level.projections with
  | nil => simp [Level.head, projections, dataColumns]
  | cons e rest => simp [Level.head, projections]

/-- **The columns of a compiled query** are those of its levels. -/
theorem columns_of_compileLevels (columnsOf : TableName → List String)
    (valid : problemOf? seen (level :: inner) = none)
    (compiled : compileLevels level nested inner = .ok s) :
    s.columns columnsOf
      = windowColumns (level :: inner) ++ dataColumns columnsOf (level :: inner) := by
  induction inner generalizing seen level nested s with
  | nil =>
      obtain ⟨-, -, paged⟩ := compileLevels_nil_eq_ok_iff.mp compiled
      rw [(Level.framed_of_paged paged).columns_eq, columns_level]
  | cons next rest ih =>
      obtain ⟨t, -, inside, -, paged⟩ := compileLevels_cons_eq_ok_iff.mp compiled
      obtain ⟨sources, -, others⟩ := problemOf?_cons_eq_none_iff.mp valid
      have noTables : level.tables = [] := sources.mpr (List.cons_ne_nil next rest)
      rw [(Level.framed_of_paged paged).columns_eq, columns_derived nested noTables
        (ih others inside)]

/-- Every statement in a compiled query belongs to one of its levels. -/
theorem belongsTo_of_mem_parts (valid : problemOf? seen (level :: inner) = none)
    (compiled : compileLevels level nested inner = .ok s) :
    ∀ t ∈ s.parts, t.BelongsTo columnsOf (level :: inner) := by
  induction inner generalizing seen level nested s with
  | nil =>
      obtain ⟨-, -, paged⟩ := compileLevels_nil_eq_ok_iff.mp compiled
      have columns := columns_level columnsOf level nested
      refine fun t => Level.belongsTo_of_paged paged columns fun r part => ?_
      obtain rfl := List.mem_singleton.mp part
      exact ⟨level, [], List.suffix_rfl, columns, nofun⟩
  | cons next rest ih =>
      obtain ⟨source, -, inside, -, paged⟩ := compileLevels_cons_eq_ok_iff.mp compiled
      obtain ⟨sources, -, others⟩ := problemOf?_cons_eq_none_iff.mp valid
      have noTables : level.tables = [] := sources.mpr (List.cons_ne_nil next rest)
      have columns := columns_derived nested noTables
        (columns_of_compileLevels columnsOf others inside)
      refine fun t => Level.belongsTo_of_paged paged columns fun r part => ?_
      rw [Select.parts, List.mem_cons] at part
      rcases part with rfl | deeper
      · exact ⟨level, next :: rest, List.suffix_rfl, columns, nofun⟩
      · obtain ⟨l, behind, suffix, known⟩ := ih others inside r deeper
        exact ⟨l, behind, suffix.trans (List.suffix_cons level _), known⟩

end Query

end EntitySql
