import EntitySql.Proofs.Query.Validity
import EntitySql.Proofs.Statement.Readable
import EntitySql.Statement.Compile
/-!
# The faults of a query

A query is refused for how its levels are put together, or for an expression that has no meaning
where it stands. The second kind of fault is a paging operator inside a projection, a condition or
a row count, or a partition that needs a row count and has none. Compiling comes upon these faults
in a fixed order: within a level the projections, the levels inside it, the conditions, and last
the partitions. It ends in the first of them, and in a statement if there is none.

The faults are stated twice: as the list in which compiling comes upon them, and as a relation that
says for each of them what is wrong on a level and which clause is blamed. No operator is among
them, as the dialect has them all.

## Main definitions

* `verdict`: a list of faults as the outcome of a check.
* `Dialect.fault?`: what a dialect refuses an expression for, whatever its operands are.
* `Query.faultsOf`: the faults of levels, in the order in which compiling comes upon them.
* `Level.Supported`, `Level.Rejects`: levels that can be written, and what others are refused for.

## Main results

* `Expression.result_write`: writing an expression comes upon the faults of its parts.
* `Query.outcome_compileLevels`, `Query.select_result_eq_verdict`: the outcome of compiling is the
  first fault.
* `Query.select_accepts`: the queries that compile, and the errors of all others.
-/

namespace EntitySql

/-! ### Outcomes -/

section Outcomes

variable {ε α β : Type}

/-- The outcome of a check that comes upon faults: the first of them. -/
def verdict : List ε → Except ε Unit
  | [] => .ok ()
  | fault :: _ => .error fault

/-- The outcome of a step, whatever its result is. -/
def outcome (x : Except ε α) : Except ε Unit :=
  x.map fun _ => ()

/-- A check passes if it comes upon no fault. -/
theorem verdict_eq_ok_iff {faults : List ε} : verdict faults = .ok () ↔ faults = [] := by
  cases faults <;> simp [verdict]

/-- A check that fails has come upon the fault. -/
theorem mem_of_verdict_eq_error {faults : List ε} {fault : ε} (h : verdict faults = .error fault) :
    fault ∈ faults := by
  cases faults with
  | nil => cases h
  | cons first rest =>
      obtain rfl : first = fault := Except.error.inj h
      exact List.mem_cons_self

/-- With faults, a check fails with one of them. -/
theorem exists_verdict_eq_error {faults : List ε} (some : faults ≠ []) :
    ∃ fault, verdict faults = .error fault ∧ fault ∈ faults := by
  obtain ⟨fault, rest, rfl⟩ := List.exists_cons_of_ne_nil some
  exact ⟨fault, rfl, List.mem_cons_self⟩

/-- One check behind another comes upon the faults of both. -/
theorem verdict_append (front behind : List ε) :
    verdict (front ++ behind) = (verdict front >>= fun _ => verdict behind) := by
  cases front <;> rfl

/-- A check in front of a step. -/
theorem outcome_check_bind (check : Except ε Unit) (x : Except ε α) :
    outcome (check >>= fun _ => x) = (check >>= fun _ => outcome x) := by
  cases check <;> rfl

/-- A step that goes on to a result. -/
theorem outcome_bind_ok (x : Except ε α) (f : α → β) :
    outcome (x >>= fun a => .ok (f a)) = outcome x := by
  cases x <;> rfl

/-- The outcome of two steps, if that of the second one does not depend on the first. -/
theorem outcome_bind {x : Except ε α} {next : α → Except ε β} {last : Except ε Unit}
    (always : ∀ a, outcome (next a) = last) :
    outcome (x >>= next) = (outcome x >>= fun _ => last) := by
  cases x with
  | error e => rfl
  | ok a => exact always a

end Outcomes

/-! ### The faults of expressions, partitions and levels -/

namespace Expression

/-- The paging operator that an expression is, if it is one. -/
def pagingOperator? : Expression → Option PagingOperator
  | .paging op | .pagingBy op _ => some op
  | _ => none

/-- The paging operators in an expression, each in front of those in its row count. -/
def pagingOperators (e : Expression) : List PagingOperator :=
  e.subexpressions.filterMap pagingOperator?

/-- Whether there is no paging operator in an expression. -/
def Unpaged (e : Expression) : Prop :=
  ∀ part ∈ e.subexpressions, part.isPaging = false

/-- The faults of an expression in a fragment of a statement. -/
def faults (fragment : Fragment) (e : Expression) : List DatabaseError :=
  e.pagingOperators.map (.misplacedPaging · fragment)

end Expression

/-- The fault of an expression by itself, whatever the parts are that it is made of: a paging
operator, or an operator that the dialect does not have. -/
def Dialect.fault? (d : Dialect) (fragment : Fragment) : Expression → Option DatabaseError
  | .paging op | .pagingBy op _ => some (.misplacedPaging op fragment)
  | .binary op _ _ => if (d op).isNone then some (.unknownOperator op) else none
  | _ => none

/-- Whether a partition keeps or leaves out as many rows as it says. -/
def Partition.NeedsCount (p : Partition) : Prop :=
  p.operator = .take ∨ p.operator = .skip

/-- The faults of a partition. -/
def Partition.faults (p : Partition) : List DatabaseError :=
  match p.operator with
  | .take | .skip =>
      match p.count with
      | none => [.missingCount p.operator]
      | some count => count.faults .partition
  | _ => []

/-- The faults of levels in the order in which compiling comes upon them, outermost level first. -/
def Query.faultsOf : List Level → List DatabaseError
  | [] => []
  | level :: rest =>
      level.projections.flatMap (Expression.faults .select) ++ (faultsOf rest
        ++ (level.filters.flatMap (Expression.faults .filter)
          ++ level.partitions.flatMap Partition.faults))

/-- A **level that can be written**: paging operators are in none of its expressions, and the row
counts that it needs are there. The row counts of other partitions may be anything. -/
structure Level.Supported (level : Level) : Prop where
  projections : ∀ e ∈ level.projections, e.Unpaged
  conditions : ∀ e ∈ level.filters, e.Unpaged
  counts : ∀ p ∈ level.partitions, p.NeedsCount → ∃ e, p.count = some e ∧ e.Unpaged

/-- What a **level is refused for**, and the text that says so: an operator in an expression, with
the clause that the expression stands in, or an operator without its row count. -/
inductive Level.Rejects (level : Level) : DatabaseError → String → Prop
  | projection {e : Expression} {op : PagingOperator} :
      e ∈ level.projections → op ∈ e.pagingOperators →
      Rejects level (.misplacedPaging op .select)
        ("Unsupported expression: method `" ++ op.name ++ "` in " ++ "SELECT")
  | condition {e : Expression} {op : PagingOperator} :
      e ∈ level.filters → op ∈ e.pagingOperators →
      Rejects level (.misplacedPaging op .filter)
        ("Unsupported expression: method `" ++ op.name ++ "` in " ++ "WHERE")
  | count {p : Partition} {e : Expression} {op : PagingOperator} :
      p ∈ level.partitions → p.NeedsCount → p.count = some e → op ∈ e.pagingOperators →
      Rejects level (.misplacedPaging op .partition)
        ("Unsupported expression: method `" ++ op.name ++ "` in " ++ "partition")
  | noCount {p : Partition} :
      p ∈ level.partitions → p.NeedsCount → p.count = none →
      Rejects level (.missingCount p.operator)
        ("Unsupported expression: `" ++ p.operator.name ++ "` without a row count")

/-! ### Which faults there are -/

namespace Expression

variable {e : Expression} {fragment : Fragment}

/-- An expression is no paging operator if it has none at its top. -/
theorem pagingOperator?_eq_none_iff : e.pagingOperator? = none ↔ e.isPaging = false := by
  cases e <;> simp [pagingOperator?, isPaging]

/-- No paging operators are in an expression if no part of it is one. -/
theorem pagingOperators_eq_nil_iff : e.pagingOperators = [] ↔ e.Unpaged := by
  simp only [pagingOperators, List.filterMap_eq_nil_iff, pagingOperator?_eq_none_iff, Unpaged]

/-- An expression is without faults if no paging operator is in it, in any fragment. -/
theorem faults_eq_nil_iff : e.faults fragment = [] ↔ e.Unpaged := by
  rw [faults, List.map_eq_nil_iff, pagingOperators_eq_nil_iff]

/-- Each fault of an expression is one of its paging operators, out of place in the fragment. -/
theorem mem_faults_iff {fault : DatabaseError} :
    fault ∈ e.faults fragment ↔ ∃ op ∈ e.pagingOperators, .misplacedPaging op fragment = fault :=
  List.mem_map

/-- Expressions are without faults if each of them is. -/
theorem flatMap_faults_eq_nil_iff {es : List Expression} :
    es.flatMap (faults fragment) = [] ↔ ∀ e ∈ es, e.Unpaged := by
  simp only [List.flatMap_eq_nil_iff, faults_eq_nil_iff]

end Expression

namespace Partition

variable {p : Partition} {fault : DatabaseError}

/-- A partition is faulty for its row count, if it needs one. -/
theorem mem_faults_iff :
    fault ∈ p.faults ↔ p.NeedsCount ∧
      match p.count with
      | none => fault = .missingCount p.operator
      | some count => fault ∈ count.faults .partition := by
  rw [faults, NeedsCount]
  cases p.operator <;> cases p.count <;> simp

/-- A partition is without faults if it has the row count that it needs, and no paging operator is
in it. -/
theorem faults_eq_nil_iff :
    p.faults = [] ↔ (p.NeedsCount → ∃ e, p.count = some e ∧ e.Unpaged) := by
  rw [faults, NeedsCount]
  cases p.operator <;> cases p.count <;> simp [Expression.faults_eq_nil_iff]

end Partition

namespace Query

variable {levels : List Level} {fault : DatabaseError}

/-- Levels are without faults if each of them is supported. -/
theorem faultsOf_eq_nil_iff : faultsOf levels = [] ↔ ∀ level ∈ levels, level.Supported := by
  induction levels with
  | nil => simp [faultsOf]
  | cons level rest ih =>
      rw [faultsOf, List.append_eq_nil_iff, List.append_eq_nil_iff, List.append_eq_nil_iff,
        Expression.flatMap_faults_eq_nil_iff, Expression.flatMap_faults_eq_nil_iff,
        List.flatMap_eq_nil_iff, ih, List.forall_mem_cons]
      simp only [Partition.faults_eq_nil_iff]
      constructor
      · rintro ⟨projections, others, conditions, counts⟩
        exact ⟨⟨projections, conditions, counts⟩, others⟩
      · rintro ⟨⟨projections, conditions, counts⟩, others⟩
        exact ⟨projections, others, conditions, counts⟩

/-- Each fault is something that a level is refused for. -/
theorem exists_rejects_of_mem_faultsOf (found : fault ∈ faultsOf levels) :
    ∃ level ∈ levels, level.Rejects fault fault.message := by
  induction levels with
  | nil => simp [faultsOf] at found
  | cons level rest ih =>
      simp only [faultsOf, List.mem_append, List.mem_flatMap] at found
      obtain ⟨e, projected, faulty⟩ | inside | ⟨e, stated, faulty⟩ | ⟨p, applied, faulty⟩ := found
      · obtain ⟨op, inside, rfl⟩ := Expression.mem_faults_iff.mp faulty
        exact ⟨level, List.mem_cons_self, .projection projected inside⟩
      · obtain ⟨other, known, rejected⟩ := ih inside
        exact ⟨other, List.mem_cons_of_mem level known, rejected⟩
      · obtain ⟨op, inside, rfl⟩ := Expression.mem_faults_iff.mp faulty
        exact ⟨level, List.mem_cons_self, .condition stated inside⟩
      · obtain ⟨needed, why⟩ := Partition.mem_faults_iff.mp faulty
        cases count : p.count with
        | none =>
            simp only [count] at why
            rw [why]
            exact ⟨level, List.mem_cons_self, .noCount applied needed count⟩
        | some e =>
            simp only [count] at why
            obtain ⟨op, inside, rfl⟩ := Expression.mem_faults_iff.mp why
            exact ⟨level, List.mem_cons_self, .count applied needed count inside⟩

end Query

/-! ### Compiling comes upon the faults -/

/-- **Writing an expression comes upon the faults of its parts**, each part in front of those that
it is made of, in any dialect. -/
theorem Expression.result_write (d : Dialect) (fragment : Fragment) (e : Expression) :
    (e.write d fragment).result = verdict (e.subexpressions.filterMap (d.fault? fragment)) := by
  induction e with
  | column | sortKey | constant | parameter => rfl
  | paging op | pagingBy op count => rfl
  | binary op l r ihl ihr =>
      rw [subexpressions, write]
      cases known : d op with
      | none =>
          have faulty : d.fault? fragment (binary op l r) = some (.unknownOperator op) := by
            simp [Dialect.fault?, known]
          rw [List.filterMap_cons_some faulty]
          rfl
      | some rendering =>
          have faultless : d.fault? fragment (binary op l r) = none := by
            simp [Dialect.fault?, known]
          rw [List.filterMap_cons_none faultless, List.filterMap_append, verdict_append, ← ihl,
            ← ihr]
          simp only [Written.write_bind, Written.result_bind]
          cases (r.write d fragment).result <;> rfl

/-- A check of an expression comes upon its faults. -/
theorem Expression.check_eq_verdict (fragment : Fragment) (e : Expression) :
    e.check fragment = verdict (e.faults fragment) := by
  -- the dialect has all operators, so only a paging operator is faulty
  have faulty (part : Expression) : Dialect.transactSql.fault? fragment part
      = part.pagingOperator?.map (.misplacedPaging · fragment) := by
    cases part with
    | binary op l r => simp [Dialect.fault?, transactSql_eq, pagingOperator?]
    | _ => rfl
  rw [check, result_write, faults, pagingOperators, List.map_filterMap]
  exact congrArg verdict (List.filterMap_congr fun part _ => faulty part)

/-- A check of expressions comes upon the faults of each. -/
theorem checkAll_eq_verdict (fragment : Fragment) (es : List Expression) :
    checkAll fragment es = verdict (es.flatMap (Expression.faults fragment)) := by
  induction es with
  | nil => rfl
  | cons e rest ih =>
      rw [checkAll, List.flatMap_cons, verdict_append, ← ih, e.check_eq_verdict]

namespace OpenFrame

variable {index : UInt32} {nested : Bool}

/-- A row count that is needed is faulty as the partition that needs it. -/
theorem outcome_countOf {p : Partition} (needed : p.NeedsCount) :
    outcome (countOf p) = verdict p.faults := by
  have counts : p.faults = match p.count with
      | none => [.missingCount p.operator]
      | some count => count.faults .partition := by
    rw [Partition.faults]
    obtain take | skip := needed
    · simp only [take]
    · simp only [skip]
  rw [counts, countOf]
  cases p.count with
  | none => rfl
  | some count =>
      rw [← count.check_eq_verdict]
      exact (outcome_check_bind _ _).trans bind_pure_unit

/-- Applying a partition fails exactly for its own faults, whatever frame it comes upon. -/
theorem outcome_apply (f : OpenFrame) (p : Partition) :
    outcome (f.apply index nested p) = verdict p.faults := by
  have counted (next : Expression → OpenFrame) (needed : p.NeedsCount) :
      outcome (countOf p >>= fun count => .ok (next count)) = verdict p.faults := by
    rw [outcome_bind_ok, outcome_countOf needed]
  rw [apply]
  cases op : p.operator with
  | take => exact counted _ (.inl op)
  | skip => exact counted _ (.inr op)
  | _ =>
      have free : p.faults = [] := by rw [Partition.faults, op]
      rw [free]
      rfl

/-- Partitions are faulty one after the other, whatever frame they fill. -/
theorem outcome_applyAll (f : OpenFrame) (partitions : List Partition) :
    outcome (applyAll index nested f partitions)
      = verdict (partitions.flatMap Partition.faults) := by
  induction partitions generalizing f with
  | nil => rfl
  | cons p rest ih =>
      rw [applyAll, List.flatMap_cons, verdict_append, outcome_bind fun next => ih next,
        outcome_apply]

end OpenFrame

/-- Paging a level fails exactly for the faults of its partitions. -/
theorem Level.outcome_paged (level : Level) (nested : Bool) (s : Select) :
    outcome (level.paged nested s) = verdict (level.partitions.flatMap Partition.faults) := by
  rw [Level.paged]
  cases level.partitions with
  | nil => rfl
  | cons p rest =>
      exact (outcome_bind_ok _ _).trans (OpenFrame.outcome_applyAll _ (p :: rest))

namespace Query

/-- **Compiling levels** comes upon their faults, whether they are nested or not. -/
theorem outcome_compileLevels (level : Level) (nested : Bool) (rest : List Level) :
    outcome (compileLevels level nested rest) = verdict (faultsOf (level :: rest)) := by
  induction rest generalizing level nested with
  | nil =>
      -- there is nothing between the projections and the conditions of the innermost level
      rw [compileLevels, outcome_check_bind, outcome_check_bind, Level.outcome_paged,
        checkAll_eq_verdict, checkAll_eq_verdict, ← verdict_append, ← verdict_append]
      rfl
  | cons next rest ih =>
      have behind (inner : Select) :
          outcome (checkAll .filter level.filters >>= fun _ =>
            level.paged nested (.derived (level.head nested) inner))
            = verdict (level.filters.flatMap (Expression.faults .filter)
              ++ level.partitions.flatMap Partition.faults) := by
        rw [outcome_check_bind, Level.outcome_paged, checkAll_eq_verdict, ← verdict_append]
      rw [compileLevels, outcome_check_bind, outcome_bind behind, ih, checkAll_eq_verdict,
        ← verdict_append, ← verdict_append]
      rfl

/-- The outcome of writing a query is that of compiling it. -/
theorem select_result_eq_outcome (q : Query) : q.select.result = outcome q.compile := by
  rw [select]
  cases q.compile <;> rfl

/-- **The outcome of writing a query**: the fault of how its levels are put together, or else the
first one of its levels. -/
theorem select_result_eq_verdict (q : Query) :
    q.select.result = match q.problem? with
      | some problem => .error (.invalidQuery (.query problem))
      | none => verdict (faultsOf q.levels) := by
  rw [select_result_eq_outcome, compile]
  cases q.problem? with
  | some problem => rfl
  | none => exact outcome_compileLevels q.outer false q.inner

/-! ### The queries that compile -/

/-- **Exactly the supported queries compile.** A query becomes a statement if it is well formed and
its levels are supported. One that is not well formed is refused for a fault of how its levels are
put together, and every other one for something that a level of it is refused for, in words that
name the operator and, if this stands in an expression, the clause. A missing operator of the
dialect is never the reason. -/
theorem select_accepts (q : Query) :
    (q.select.result = .ok () ↔ q.WellFormed ∧ ∀ level ∈ q.levels, level.Supported)
      ∧ (¬ q.WellFormed → ∃ problem,
        q.problem? = some problem ∧ q.select.result = .error (.invalidQuery (.query problem)))
      ∧ (q.WellFormed → ¬ (∀ level ∈ q.levels, level.Supported) → ∃ error,
        q.select.result = .error error
          ∧ ∃ level ∈ q.levels, level.Rejects error error.message)
      ∧ ∀ op, q.select.result ≠ .error (.unknownOperator op) := by
  rw [select_result_eq_verdict]
  cases found : q.problem? with
  | some problem =>
      have misbuilt : ¬ q.WellFormed := by simp [← problem?_eq_none_iff, found]
      refine ⟨by simp [misbuilt], fun _ => ⟨problem, rfl, rfl⟩, fun formed => ?_, by simp⟩
      exact absurd formed misbuilt
  | none =>
      have formed : q.WellFormed := problem?_eq_none_iff.mp found
      refine ⟨?_, fun misbuilt => absurd formed misbuilt, fun _ unsupported => ?_,
        fun op blamed => ?_⟩
      · rw [verdict_eq_ok_iff, faultsOf_eq_nil_iff]
        exact ⟨fun supported => ⟨formed, supported⟩, fun both => both.2⟩
      · obtain ⟨fault, first, member⟩ :=
          exists_verdict_eq_error (mt faultsOf_eq_nil_iff.mp unsupported)
        exact ⟨fault, first, exists_rejects_of_mem_faultsOf member⟩
      · obtain ⟨level, -, rejected⟩ :=
          exists_rejects_of_mem_faultsOf (mem_of_verdict_eq_error blamed)
        nomatch rejected

end Query

/-- A query with a paging operator in a condition, over one with a paging operator inside a
projection. -/
def pagedInside : Query :=
  ((Query.ofTable ⟨"app", "Person"⟩).project
    (.binary .add (.column ⟨⟨"app", "Person"⟩, "Age"⟩)
      (Partition.take 3).toExpression)).ofSubQuery.filter (.paging .first)

/-- It is refused for the projection, which stands further inside and is come upon first. -/
theorem select_accepts_pagedInside :
    pagedInside.WellFormed ∧ ¬ (∀ level ∈ pagedInside.levels, level.Supported)
      ∧ pagedInside.select.result = .error (.misplacedPaging .take .select)
      ∧ ∃ level ∈ pagedInside.levels, level.Rejects (.misplacedPaging .take .select)
        "Unsupported expression: method `Take` in SELECT" := by
  have formed : pagedInside.WellFormed := Query.problem?_eq_none_iff.mp rfl
  have unsupported : ¬ (∀ level ∈ pagedInside.levels, level.Supported) := by
    intro supported
    have unpaged := (supported pagedInside.outer List.mem_cons_self).conditions (.paging .first)
      List.mem_cons_self
    exact absurd (unpaged (.paging .first) List.mem_cons_self) (by decide)
  have first : pagedInside.select.result = .error (.misplacedPaging .take .select) := rfl
  obtain ⟨error, refused, level, known, rejected⟩ :=
    (Query.select_accepts pagedInside).2.2.1 formed unsupported
  obtain rfl : error = .misplacedPaging .take .select := Except.error.inj (refused.symm.trans first)
  exact ⟨formed, unsupported, first, level, known, rejected⟩

end EntitySql
