import EntitySql.Query.Basic
import Mathlib.Data.List.Nodup
/-!
# Queries without faults

A query is looked through for faults from its outermost level inwards, and the first one is
reported. It has none exactly when it is well formed: every level reads either from tables or from
the level inside it, and no two levels have one index. Both hold of a sub query if they hold of the
query around it.

## Main definitions

* `OneSource`: levels that each read from one kind of source.
* `Query.WellFormed`: queries as they are meant to be built.

## Main results

* `Query.problemOf?_eq_none_iff`, `Query.problem?_eq_none_iff`: there is no fault exactly in
  well-formed queries.
* `Query.WellFormed.inner`: sub queries of well-formed queries are well formed.
-/

namespace EntitySql

/-- Levels each of which reads either from tables or from the level inside it, and from one of the
two. -/
def OneSource (levels : List Level) : Prop :=
  ∀ outer level inner, levels = outer ++ level :: inner → (level.tables ≠ [] ↔ inner = [])

/-- A **well-formed query**: exactly one source for every level, and an index of its own. -/
structure Query.WellFormed (q : Query) : Prop where
  oneSource : OneSource q.levels
  distinct : (q.levels.map Level.index).Nodup

/-- Each level has one source if the outermost has, which means tables just where nothing is inside,
and the others have. -/
theorem oneSource_cons_iff {level : Level} {rest : List Level} :
    OneSource (level :: rest) ↔ (level.tables ≠ [] ↔ rest = []) ∧ OneSource rest := by
  constructor
  · intro each
    refine ⟨each [] level rest rfl, fun outer inside inner split => ?_⟩
    exact each (level :: outer) inside inner (congrArg (level :: ·) split)
  · rintro ⟨first, others⟩ outer inside inner split
    cases outer with
    | nil =>
        obtain ⟨rfl, rfl⟩ := List.cons.inj split
        exact first
    | cons other outer => exact others outer inside inner (List.cons.inj split).2

namespace Query

variable {seen : List UInt32} {level : Level} {rest levels : List Level}

/-- Levels have no fault when the innermost one alone reads from tables and no index repeats. -/
theorem problemOf?_cons_eq_none_iff :
    problemOf? seen (level :: rest) = none ↔
      (level.tables = [] ↔ rest ≠ []) ∧ level.index ∉ seen
        ∧ problemOf? (level.index :: seen) rest = none := by
  rw [problemOf?]
  cases level.tables <;> cases rest <;> by_cases known : level.index ∈ seen <;> simp [known]

/-- **Levels have no fault** exactly when each has one source and their indexes differ from each
other and from those of the levels around them. -/
theorem problemOf?_eq_none_iff :
    problemOf? seen levels = none ↔
      OneSource levels ∧ (levels.map Level.index).Nodup ∧ ∀ level ∈ levels, level.index ∉ seen := by
  induction levels generalizing seen with
  | nil => simp [problemOf?, OneSource]
  | cons level rest ih =>
      have source : (level.tables = [] ↔ rest ≠ []) ↔ (level.tables ≠ [] ↔ rest = []) := by
        rw [← not_iff_not (a := level.tables = []), not_not]
      have apart : (∀ other ∈ rest, other.index ∉ level.index :: seen) ↔
          level.index ∉ rest.map Level.index ∧ ∀ other ∈ rest, other.index ∉ seen := by
        simp only [List.mem_cons, List.mem_map, not_or, not_exists, not_and, forall_and]
      rw [problemOf?_cons_eq_none_iff, ih, oneSource_cons_iff, List.map_cons, List.nodup_cons,
        List.forall_mem_cons, source, apart]
      constructor
      · rintro ⟨first, fresh, sources, distinct, unlike, others⟩
        exact ⟨⟨first, sources⟩, ⟨unlike, distinct⟩, fresh, others⟩
      · rintro ⟨⟨first, sources⟩, ⟨unlike, distinct⟩, fresh, others⟩
        exact ⟨first, fresh, sources, distinct, unlike, others⟩

/-- The indexes of levels without a fault differ. -/
theorem nodup_indexes_of_problemOf? (valid : problemOf? seen levels = none) :
    (levels.map Level.index).Nodup :=
  (problemOf?_eq_none_iff.mp valid).2.1

/-- **A query has no fault exactly when it is well formed.** -/
theorem problem?_eq_none_iff {q : Query} : q.problem? = none ↔ q.WellFormed := by
  rw [problem?, problemOf?_eq_none_iff]
  constructor
  · rintro ⟨sources, distinct, -⟩
    exact ⟨sources, distinct⟩
  · rintro ⟨sources, distinct⟩
    exact ⟨sources, distinct, fun _ _ => List.not_mem_nil⟩

/-- The sub query of a well-formed query is well formed. -/
theorem WellFormed.inner {s : Query} (formed : (Query.mk level s.levels).WellFormed) :
    s.WellFormed where
  oneSource := (oneSource_cons_iff.mp formed.oneSource).2
  distinct := (List.nodup_cons.mp formed.distinct).2

end Query

end EntitySql
