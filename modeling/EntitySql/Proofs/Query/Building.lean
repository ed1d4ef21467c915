import EntitySql.Proofs.Query.Columns
import EntitySql.Proofs.Query.Validity
/-!
# Queries as they are built

A query is built from tables, or around a query that is built already, and every level can be given
filters, sorts, projections, partitions and parameters on the way. What is added to a level leaves
its source and its index alone, and a level around others gets an index behind all of theirs. So the
indexes of built levels are below the number of levels, and no built query has a fault as long as
indexes do not run out.

The index of a level can also be chosen freely. The index behind the largest one is new in any
arrangement of indexes, unless the largest one is the largest of all.

## Main definitions

* `Query.Addition`, `Query.add`: what a level is given, and the query with it.
* `Query.Built`: queries that are built without choosing an index.

## Main results

* `Query.le_maxIndex`, `Query.exists_index_eq_maxIndex`: the largest index is one of the indexes.
* `Query.WellFormed.add`, `Query.WellFormed.ofSubQuery`: each step of building keeps a query well
  formed.
* `Query.Built.index_lt`: the indexes of built levels are below their number.
* `Query.Built.wellFormed`: built queries are well formed.
* `Query.built_valid`: what is built has no fault, and what has no fault labels its levels apart.
-/

namespace EntitySql

namespace Query

variable {q : Query}

/-! ### Steps of building -/

/-- What a level can be given. -/
inductive Addition where
  | filter (condition : Expression)
  | sort (key : SortKey)
  | project (projection : Expression)
  | partition (p : Partition)
  | parameter (p : Parameter)

/-- The query with an addition to its outermost level. -/
def add (q : Query) : Addition → Query
  | .filter condition => q.filter condition
  | .sort key => q.sort key
  | .project projection => q.project projection
  | .partition p => q.partition p
  | .parameter p => q.parameter p

/-- A query that is **built**, level by level and with any additions, without choosing an index. -/
inductive Built : Query → Prop where
  | table (table : TableName) : Built (.ofTable table)
  | tables {tables : List TableName} (some : tables ≠ []) : Built (.ofTables tables)
  | subQuery {sub : Query} (built : Built sub) : Built sub.ofSubQuery
  | add {q : Query} (built : Built q) (addition : Addition) : Built (q.add addition)

/-- An addition leaves the levels inside alone. -/
@[simp] theorem inner_add (addition : Addition) : (q.add addition).inner = q.inner := by
  cases addition <;> rfl

/-- An addition leaves the index of the outermost level alone. -/
@[simp] theorem index_outer_add (addition : Addition) :
    (q.add addition).outer.index = q.outer.index := by
  cases addition <;> rfl

/-- An addition leaves the tables of the outermost level alone. -/
@[simp] theorem tables_outer_add (addition : Addition) :
    (q.add addition).outer.tables = q.outer.tables := by
  cases addition <;> rfl

/-- An addition makes no new level. -/
theorem length_levels_add (addition : Addition) :
    (q.add addition).levels.length = q.levels.length := by
  simp [levels]

/-- An addition leaves all indexes alone. -/
theorem indexes_add (addition : Addition) :
    (q.add addition).levels.map Level.index = q.levels.map Level.index := by
  simp [levels]

/-- A query around another one has one level more. -/
theorem length_levels_ofSubQuery : q.ofSubQuery.levels.length = q.levels.length + 1 :=
  rfl

/-! ### The largest index -/

/-- **The largest index** of a query is one of its indexes, and no index is above it. -/
theorem max?_indexes :
    (q.levels.map fun level => level.index.toNat).max? = some q.maxIndex.toNat := by
  rw [levels, List.map_cons, List.max?_cons', List.foldl_map, maxIndex]
  exact congrArg some
    (List.foldl_hom UInt32.toNat fun m level => (UInt32.toNat_max m level.index).symm)

/-- No index is above the largest one. -/
theorem le_maxIndex {level : Level} (member : level ∈ q.levels) :
    level.index.toNat ≤ q.maxIndex.toNat :=
  (List.max?_eq_some_iff.mp max?_indexes).2 _ (List.mem_map_of_mem member)

/-- The largest index is the index of a level. -/
theorem exists_index_eq_maxIndex : ∃ level ∈ q.levels, level.index.toNat = q.maxIndex.toNat :=
  List.mem_map.mp (List.max?_eq_some_iff.mp max?_indexes).1

/-- The index of a level around others is the one behind the largest of theirs, if there is one. -/
theorem toNat_index_ofSubQuery (room : ∀ level ∈ q.levels, level.index.toNat < UInt32.size - 1) :
    q.ofSubQuery.outer.index.toNat = q.maxIndex.toNat + 1 := by
  obtain ⟨level, member, largest⟩ := q.exists_index_eq_maxIndex
  have below : q.maxIndex.toNat + 1 < 2 ^ 32 := by
    rw [← largest]
    exact Nat.add_lt_of_lt_sub (room level member)
  show (q.maxIndex + 1).toNat = q.maxIndex.toNat + 1
  rw [UInt32.toNat_add]
  exact Nat.mod_eq_of_lt below

/-! ### Well-formed queries -/

/-- What is added to a level keeps a query well formed. -/
theorem WellFormed.add (formed : q.WellFormed) (addition : Addition) :
    (q.add addition).WellFormed where
  oneSource := by
    have sources := formed.oneSource
    rw [levels, oneSource_cons_iff] at sources ⊢
    rwa [inner_add, tables_outer_add]
  distinct := by
    rw [indexes_add]
    exact formed.distinct

/-- **A level around a well-formed query keeps it well formed**, whatever the indexes, unless one of
them is the largest of all. -/
theorem WellFormed.ofSubQuery (formed : q.WellFormed)
    (room : ∀ level ∈ q.levels, level.index.toNat < UInt32.size - 1) :
    q.ofSubQuery.WellFormed where
  oneSource := oneSource_cons_iff.mpr
    ⟨⟨fun some => absurd rfl some, fun none => nomatch none⟩, formed.oneSource⟩
  distinct := by
    refine List.nodup_cons.mpr ⟨fun known => ?_, formed.distinct⟩
    obtain ⟨level, member, same⟩ := List.mem_map.mp known
    have fresh := toNat_index_ofSubQuery room
    have old := le_maxIndex member
    rw [same] at old
    exact absurd (fresh ▸ old) (by omega)

/-- Tables alone are a well-formed query. -/
theorem wellFormed_ofTables {tables : List TableName} (some : tables ≠ []) :
    (ofTables tables).WellFormed where
  oneSource := oneSource_cons_iff.mpr
    ⟨by simpa [ofTables, Level.ofTables] using some, by simp [OneSource, ofTables]⟩
  distinct := List.nodup_singleton _

/-! ### Built queries -/

/-- The indexes of built levels are below their number, as long as indexes do not run out. -/
theorem Built.index_lt (built : q.Built) (counted : q.levels.length ≤ UInt32.size) :
    ∀ level ∈ q.levels, level.index.toNat < q.levels.length := by
  induction built with
  | table | tables => simp [levels, ofTable, ofTables, Level.ofTables]
  | @subQuery sub _ ih =>
      rw [length_levels_ofSubQuery] at counted ⊢
      have below := ih (by omega)
      have room : ∀ level ∈ sub.levels, level.index.toNat < UInt32.size - 1 := fun level member =>
        Nat.lt_of_lt_of_le (below level member) (Nat.le_sub_of_add_le counted)
      refine List.forall_mem_cons.mpr ⟨?_, fun level member => ?_⟩
      · obtain ⟨level, member, largest⟩ := sub.exists_index_eq_maxIndex
        rw [toNat_index_ofSubQuery room, ← largest]
        exact Nat.succ_lt_succ (below level member)
      · exact Nat.lt_succ_of_lt (below level member)
  | @add q _ addition ih =>
      rw [length_levels_add] at counted ⊢
      have indexes : ∀ i ∈ q.levels.map Level.index, i.toNat < q.levels.length :=
        List.forall_mem_map.mpr (ih counted)
      rw [← indexes_add addition] at indexes
      exact List.forall_mem_map.mp indexes

/-- **Built queries are well formed**, as long as indexes do not run out. -/
theorem Built.wellFormed (built : q.Built) (counted : q.levels.length ≤ UInt32.size) :
    q.WellFormed := by
  induction built with
  | table => exact wellFormed_ofTables (List.cons_ne_nil _ _)
  | tables some => exact wellFormed_ofTables some
  | @subQuery sub built ih =>
      rw [length_levels_ofSubQuery] at counted
      refine (ih (by omega)).ofSubQuery fun level member => ?_
      exact Nat.lt_of_lt_of_le (built.index_lt (by omega) level member)
        (Nat.le_sub_of_add_le counted)
  | add _ addition ih =>
      rw [length_levels_add] at counted
      exact (ih counted).add addition

/-- **Queries are built without faults**: a query that is built without choosing an index has none,
if it has at most as many levels as there are indexes. A level around any query without a fault
leaves it without one, unless one of its indexes is the largest of all. And a query without a fault
has a label of its own for the window column of each level. -/
theorem built_valid (q : Query) :
    (q.Built → q.levels.length ≤ UInt32.size →
      q.problem? = none ∧ (q.levels.map Level.index).Nodup)
    ∧ (q.problem? = none → (∀ level ∈ q.levels, level.index.toNat < UInt32.size - 1) →
      q.ofSubQuery.problem? = none)
    ∧ (q.problem? = none → q.rowLabels.Nodup ∧ q.rowLabels.length = q.levels.length) := by
  refine ⟨fun built counted => ?_, fun valid room => ?_, fun valid => ?_⟩
  · have formed := built.wellFormed counted
    exact ⟨problem?_eq_none_iff.mpr formed, formed.distinct⟩
  · exact problem?_eq_none_iff.mpr ((problem?_eq_none_iff.mp valid).ofSubQuery room)
  · have labels : q.rowLabels = (q.levels.map Level.index).map rowLabel := by
      rw [rowLabels, List.map_map]
      rfl
    rw [labels, List.length_map, List.length_map]
    exact ⟨(problem?_eq_none_iff.mp valid).distinct.map rowLabel_injective, rfl⟩

/-- The second page of the first persons. -/
def secondPage : Query :=
  ((ofTable ⟨"app", "Person"⟩).partition (.take 20)).ofSubQuery.partition (.skip 10)

/-- A page of a page is built without faults, and so is a level around it, though the page has an
index out of line. -/
theorem built_valid_secondPage :
    secondPage.Built ∧ secondPage.levels.length ≤ UInt32.size ∧ secondPage.problem? = none
      ∧ (secondPage.withIndex 7).problem? = none
      ∧ (secondPage.withIndex 7).levels.map Level.index = [7, 0]
      ∧ (secondPage.withIndex 7).ofSubQuery.problem? = none
      ∧ (secondPage.withIndex 7).ofSubQuery.rowLabels.Nodup := by
  have built : secondPage.Built := by
    have first : Built ((ofTable ⟨"app", "Person"⟩).partition (.take 20)) :=
      (Built.table _).add (.partition (.take 20))
    exact first.subQuery.add (.partition (.skip 10))
  have counted : secondPage.levels.length ≤ UInt32.size := by decide
  have shifted : (secondPage.withIndex 7).problem? = none := by decide
  have around := (built_valid (secondPage.withIndex 7)).2.1 shifted (by decide)
  exact ⟨built, counted, ((built_valid secondPage).1 built counted).1, shifted, rfl, around,
    ((built_valid (secondPage.withIndex 7).ofSubQuery).2.2 around).1⟩

end Query

end EntitySql
