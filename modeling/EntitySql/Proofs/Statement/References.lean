import EntitySql.Proofs.Query.Parameters
import EntitySql.Proofs.Statement.Declaration
import EntitySql.Proofs.Statement.Pieces
/-!
# References are declared

A query refers to parameters in the projections, conditions and row counts of its levels, with any
number of markers in front of their names, and registers parameters on its levels. A reference
stands in the statement with one marker, and the parameters of the query are declared with one
marker and once for each name. So what is registered is declared, once, however it is spelled.

## Main definitions

* `Level.expressions`: the expressions that a level is written with.
* `Query.RegistersReferences`: queries that register the parameters which they refer to.

## Main results

* `OpenFrame.mem_expressions_of_applyAll`, `Query.mem_expressions_of_compileLevels`: compiling
  writes the expressions of the levels and no others.
* `Query.references_declared_once`: the references of a statement are those of its levels, and each
  has one declaration.
-/

namespace EntitySql

open EntitySql.Text

/-! ### The expressions of a level -/

/-- The row counts that a partition writes: a single row, or its own count. -/
def Partition.written (p : Partition) : List Expression :=
  match p.operator with
  | .first | .firstOrDefault | .last | .lastOrDefault => [OpenFrame.one]
  | .single | .singleOrDefault => []
  | .take | .skip => p.count.toList

/-- The expressions that a level is written with: projections, conditions and row counts. -/
def Level.expressions (level : Level) : List Expression :=
  level.projections ++ level.filters ++ level.partitions.flatMap Partition.written

/-- Whether a query registers every parameter that it refers to, on whichever level and under
whichever spelling of its bare name. -/
def Query.RegistersReferences (q : Query) : Prop :=
  ∀ level ∈ q.levels, ∀ e ∈ level.expressions, ∀ p, .parameter p ∈ e.subexpressions →
    ∃ other ∈ q.levels, ∃ r ∈ other.parameters, r.bareName = p.bareName

/-! ### Partitions write their row counts -/

namespace OpenFrame

variable {index : UInt32} {nested : Bool} {f g : OpenFrame} {p : Partition} {e count : Expression}

/-- The expressions that the statement of a frame is written with. -/
def expressions (f : OpenFrame) : List Expression :=
  f.top.toList ++ f.skips ++ f.inner.expressions

/-- Closing a frame keeps the expressions that are written. -/
theorem expressions_close : (f.close index nested).expressions = f.expressions :=
  rfl

/-- So does closing its row limit. -/
theorem expressions_unlimited (index : UInt32) (nested : Bool) (f : OpenFrame) :
    (f.unlimited index nested).expressions = f.expressions := by
  rw [unlimited]
  split
  · exact List.nil_append _
  · rfl

/-- A frame whose limit was closed has none. -/
theorem top_unlimited : (f.unlimited index nested).top = none := by
  rw [unlimited]
  split
  next => rfl
  next unlimited => simpa using unlimited

/-- A row limit adds its count to what is written. -/
theorem mem_expressions_limit :
    e ∈ (f.limit index nested count).expressions ↔ e = count ∨ e ∈ f.expressions := by
  rw [← expressions_unlimited index nested f, expressions, expressions, limit, top_unlimited]
  simp

/-- Leaving rows out adds its count to what is written. -/
theorem mem_expressions_leaveOut :
    e ∈ (f.leaveOut index nested count).expressions ↔ e ∈ f.expressions ∨ e = count := by
  rw [← expressions_unlimited index nested f, expressions, expressions, leaveOut]
  simp only [List.mem_append, List.mem_singleton]
  tauto

/-- A partition adds its row counts to those of a frame. -/
theorem mem_expressions_of_apply (applied : f.apply index nested p = .ok g) :
    e ∈ g.expressions ↔ e ∈ f.expressions ∨ e ∈ p.written := by
  have step := apply_eq_ok_iff.mp applied
  cases op : p.operator with
  | first | firstOrDefault =>
      simp only [op] at step
      rw [step, mem_expressions_limit, or_comm]
      simp [Partition.written, op]
  | last | lastOrDefault =>
      simp only [op] at step
      have reversed : g.expressions = (f.limit index nested one).expressions := by
        rw [step]
        rfl
      rw [reversed, mem_expressions_limit, or_comm]
      simp [Partition.written, op]
  | single | singleOrDefault =>
      simp only [op] at step
      have selected : g.expressions = f.expressions := by
        rw [step]
        rfl
      rw [selected]
      simp [Partition.written, op]
  | take =>
      simp only [op] at step
      obtain ⟨count, counted, rfl⟩ := step
      rw [mem_expressions_limit, or_comm]
      simp [Partition.written, op, (countOf_eq_ok_iff.mp counted).1]
  | skip =>
      simp only [op] at step
      obtain ⟨count, counted, rfl⟩ := step
      rw [mem_expressions_leaveOut]
      simp [Partition.written, op, (countOf_eq_ok_iff.mp counted).1]

/-- The row counts of a partition that can be applied can be written. -/
theorem writable_of_apply (applied : f.apply index nested p = .ok g) (member : e ∈ p.written) :
    e.Writable := by
  have step := apply_eq_ok_iff.mp applied
  cases op : p.operator with
  | first | firstOrDefault | last | lastOrDefault =>
      obtain rfl : e = one := by simpa [Partition.written, op] using member
      exact ⟨.partition, rfl⟩
  | single | singleOrDefault => simp [Partition.written, op] at member
  | take | skip =>
      simp only [op] at step
      obtain ⟨count, counted, -⟩ := step
      obtain ⟨some, checked⟩ := countOf_eq_ok_iff.mp counted
      obtain rfl : e = count := by simpa [Partition.written, op, some] using member
      exact ⟨.partition, checked⟩

/-- Partitions, one after the other, add their row counts to those of a frame. -/
theorem mem_expressions_of_applyAll {partitions : List Partition}
    (applied : applyAll index nested f partitions = .ok g) :
    e ∈ g.expressions ↔ e ∈ f.expressions ∨ e ∈ partitions.flatMap Partition.written := by
  induction partitions generalizing f with
  | nil =>
      obtain rfl := applyAll_nil_eq_ok_iff.mp applied
      simp
  | cons p rest ih =>
      obtain ⟨next, first, others⟩ := applyAll_cons_eq_ok_iff.mp applied
      rw [ih others, mem_expressions_of_apply first, List.flatMap_cons, List.mem_append, or_assoc]

/-- Partitions that are applied have row counts that can be written. -/
theorem writable_of_applyAll {partitions : List Partition}
    (applied : applyAll index nested f partitions = .ok g)
    (member : e ∈ partitions.flatMap Partition.written) : e.Writable := by
  induction partitions generalizing f with
  | nil => cases member
  | cons p rest ih =>
      obtain ⟨next, first, others⟩ := applyAll_cons_eq_ok_iff.mp applied
      rw [List.flatMap_cons, List.mem_append] at member
      exact member.elim (writable_of_apply first) (ih others)

end OpenFrame

/-! ### Levels write their expressions -/

/-- Expressions pass a check when each of them does. -/
theorem checkAll_eq_ok_iff {fragment : Fragment} {es : List Expression} :
    checkAll fragment es = .ok () ↔ ∀ e ∈ es, e.check fragment = .ok () := by
  induction es with
  | nil => simp [checkAll]
  | cons e rest ih => rw [checkAll, check_bind_eq_ok_iff, ih, List.forall_mem_cons]

/-- The partitions of a level add their row counts to the expressions of its statement. -/
theorem Level.mem_expressions_of_paged {level : Level} {nested : Bool} {s t : Select}
    (paged : level.paged nested s = .ok t) {e : Expression} :
    e ∈ t.expressions ↔
      e ∈ s.expressions ∨ e ∈ level.partitions.flatMap Partition.written := by
  rcases Level.paged_eq_ok_iff.mp paged with ⟨none, rfl⟩ | ⟨-, f, applied, rfl⟩
  · simp [none]
  · rw [OpenFrame.expressions_close, OpenFrame.mem_expressions_of_applyAll applied]
    rfl

/-- A level that is paged has row counts that can be written. -/
theorem Level.writable_of_paged {level : Level} {nested : Bool} {s t : Select}
    (paged : level.paged nested s = .ok t) {e : Expression}
    (member : e ∈ level.partitions.flatMap Partition.written) : e.Writable := by
  rcases Level.paged_eq_ok_iff.mp paged with ⟨none, -⟩ | ⟨-, f, applied, -⟩
  · simp [none] at member
  · exact OpenFrame.writable_of_applyAll applied member

namespace Query

/-- The statement of levels is written with their expressions, by induction on the levels
inside. -/
theorem mem_expressions_of_compileLevels {level : Level} {nested : Bool} {inner : List Level}
    {s : Select} (compiled : compileLevels level nested inner = .ok s) {e : Expression} :
    e ∈ s.expressions ↔ ∃ l ∈ level :: inner, e ∈ l.expressions := by
  induction inner generalizing level nested s with
  | nil =>
      obtain ⟨-, -, paged⟩ := compileLevels_nil_eq_ok_iff.mp compiled
      rw [Level.mem_expressions_of_paged paged]
      simp [Select.expressions, Level.expressions, Level.head, or_assoc]
  | cons next rest ih =>
      obtain ⟨t, -, inside, -, paged⟩ := compileLevels_cons_eq_ok_iff.mp compiled
      have own : e ∈ level.expressions ↔ e ∈ level.projections ++ level.filters
          ∨ e ∈ level.partitions.flatMap Partition.written :=
        List.mem_append
      rw [Level.mem_expressions_of_paged paged, Select.expressions, List.mem_append, ih inside,
        List.exists_mem_cons_iff (a := level), own]
      exact or_right_comm

/-- The expressions of levels that compile can be written. -/
theorem writable_of_compileLevels {level : Level} {nested : Bool} {inner : List Level}
    {s : Select} (compiled : compileLevels level nested inner = .ok s) :
    ∀ l ∈ level :: inner, ∀ e ∈ l.expressions, e.Writable := by
  have own {level : Level} {nested : Bool} {source t : Select}
      (projections : checkAll .select level.projections = .ok ())
      (filters : checkAll .filter level.filters = .ok ())
      (paged : level.paged nested source = .ok t) : ∀ e ∈ level.expressions, e.Writable := by
    intro e member
    rw [Level.expressions, List.mem_append, List.mem_append] at member
    rcases member with (projection | filter) | count
    · exact ⟨.select, checkAll_eq_ok_iff.mp projections e projection⟩
    · exact ⟨.filter, checkAll_eq_ok_iff.mp filters e filter⟩
    · exact Level.writable_of_paged paged count
  induction inner generalizing level nested s with
  | nil =>
      obtain ⟨projections, filters, paged⟩ := compileLevels_nil_eq_ok_iff.mp compiled
      exact List.forall_mem_singleton.mpr (own projections filters paged)
  | cons next rest ih =>
      obtain ⟨t, projections, inside, filters, paged⟩ := compileLevels_cons_eq_ok_iff.mp compiled
      exact List.forall_mem_cons.mpr ⟨own projections filters paged, ih inside⟩

/-! ### References and declarations -/

/-- The statement of a query is made up of its pieces, and refers to the parameters in the
expressions of its levels. -/
theorem references_of_compile {q : Query} {s : Select} (compiled : q.compile = .ok s) :
    q.select.text = Piece.joined s.pieces ∧
    ∀ p, .reference p ∈ s.pieces ↔
      ∃ level ∈ q.levels, ∃ e ∈ level.expressions, .parameter p ∈ e.subexpressions := by
  obtain ⟨-, levels⟩ := compile_eq_ok_iff.mp compiled
  have writable := writable_of_compileLevels levels
  have text : q.select.text = s.text := by
    rw [select, compiled]
    rfl
  constructor
  · rw [text, Select.text_eq_joined_pieces]
    intro e member
    obtain ⟨l, inside, written⟩ := (mem_expressions_of_compileLevels levels).mp member
    exact writable l inside e written
  · intro p
    rw [Select.reference_mem_pieces_iff]
    constructor
    · rintro ⟨e, member, refers⟩
      obtain ⟨l, inside, written⟩ := (mem_expressions_of_compileLevels levels).mp member
      exact ⟨l, inside, e, written,
        (writable l inside e written).reference_mem_pieces_iff.mp refers⟩
    · rintro ⟨l, inside, e, written, refers⟩
      exact ⟨e, (mem_expressions_of_compileLevels levels).mpr ⟨l, inside, written⟩,
        (writable l inside e written).reference_mem_pieces_iff.mpr refers⟩

/-- Declarations succeed only if no name is reserved, and are then written line by line. -/
theorem text_declarations {parameters : List Parameter}
    (succeed : (declarations parameters).result = .ok ()) :
    (declarations parameters).text
      = String.join ((declared parameters).map Declaration.text) := by
  have free : ∀ p ∈ parameters, ¬IsReserved p.bareName := by
    intro p member reserved
    have unreserved := declarations_result_eq_ok_iff.mp succeed p member
    rw [isPositional_iff.mpr reserved] at unreserved
    cases unreserved
  exact congrArg Written.text (declarationsFrom_of_free free 1)

/-- What a query registers is declared once, under every spelling of its name. -/
theorem count_reference_declared {q : Query} {p : Parameter}
    (registered : ∃ level ∈ q.levels, ∃ r ∈ level.parameters, r.bareName = p.bareName) :
    ((declared q.allParameters).map Declaration.reference).count p.reference = 1 := by
  have first := q.firstRegistrations_allParameters
  have references : q.allParameters.map Parameter.reference = q.allParameters.map Parameter.name :=
    List.map_congr_left fun r member => (first.marked r member).1.symm
  obtain ⟨r, member, same⟩ := List.mem_map.mp ((first.registered p.bareName).mpr registered)
  have known : p.reference ∈ q.allParameters.map Parameter.reference :=
    List.mem_map.mpr ⟨r, member, Parameter.reference_eq_iff.mpr same⟩
  rw [map_reference_declared]
  exact List.count_eq_one_of_mem (references ▸ first.distinct) known

/-- **References are declared once.** The parameters of a query are the first registrations of
their names. A query that compiles refers to the parameters in its projections, conditions and row
counts; if it registers them all and the declarations can be written, each of its references is
declared by exactly one line, whatever markers the spellings of the name have. -/
theorem references_declared_once (q : Query) :
    q.FirstRegistrations q.allParameters ∧
    ∀ s, q.compile = .ok s →
      q.select.text = Piece.joined s.pieces ∧
      (∀ p, .reference p ∈ s.pieces ↔
        ∃ level ∈ q.levels, ∃ e ∈ level.expressions, .parameter p ∈ e.subexpressions) ∧
      (q.RegistersReferences → (declarations q.allParameters).result = .ok () →
        (declarations q.allParameters).text
          = String.join ((declared q.allParameters).map Declaration.text) ∧
        ∀ p, .reference p ∈ s.pieces →
          ((declared q.allParameters).map Declaration.reference).count p.reference = 1) := by
  refine ⟨q.firstRegistrations_allParameters, fun s compiled => ?_⟩
  obtain ⟨text, references⟩ := references_of_compile compiled
  refine ⟨text, references, fun registers succeed => ⟨text_declarations succeed, ?_⟩⟩
  intro p refers
  obtain ⟨level, inside, e, written, parameter⟩ := (references p).mp refers
  exact count_reference_declared (registers level inside e written p parameter)

end Query

/-- The persons of an age among so many persons. Both levels register the number that stands for
the age and for the limit. -/
def personsOfNumber : Query :=
  (((Query.ofTable ⟨"app", "Person"⟩).partition
      ⟨.take, some (.parameter ⟨"@number", .ofInt32 0⟩)⟩).parameter
      ⟨"number", .ofInt32 8⟩).ofSubQuery.filter
      (.binary .equal (.column ⟨⟨"app", "Person"⟩, "Age"⟩) (.parameter ⟨"number", .ofInt32 0⟩))
    |>.parameter ⟨"@@number", .ofInt32 7⟩

/-- The number of the outer level counts, and both spellings of its name refer to its line. -/
theorem references_declared_once_number :
    ∃ s, personsOfNumber.compile = .ok s
      ∧ .reference ⟨"number", .ofInt32 0⟩ ∈ s.pieces
      ∧ .reference ⟨"@number", .ofInt32 0⟩ ∈ s.pieces
      ∧ personsOfNumber.allParameters = [⟨"@number", .ofInt32 7⟩]
      ∧ ((declared personsOfNumber.allParameters).map Declaration.reference).count "@number"
        = 1 := by
  obtain ⟨-, compiles⟩ := Query.references_declared_once personsOfNumber
  obtain ⟨-, references, once⟩ := compiles _ rfl
  have registers : personsOfNumber.RegistersReferences := by
    intro level inside e written p refers
    have parts : (personsOfNumber.levels.flatMap Level.expressions).flatMap
        Expression.subexpressions
          = [.binary .equal (.column ⟨⟨"app", "Person"⟩, "Age"⟩)
              (.parameter ⟨"number", .ofInt32 0⟩),
            .column ⟨⟨"app", "Person"⟩, "Age"⟩, .parameter ⟨"number", .ofInt32 0⟩,
            .parameter ⟨"@number", .ofInt32 0⟩] :=
      rfl
    have part := List.mem_flatMap.mpr ⟨e, List.mem_flatMap.mpr ⟨level, inside, written⟩, refers⟩
    simp only [parts, List.mem_cons, reduceCtorEq, Expression.parameter.injEq, false_or,
      List.not_mem_nil, or_false] at part
    have named : p.bareName = "number" := by
      rcases part with rfl | rfl <;> decide
    exact ⟨_, List.mem_cons_self, _, List.mem_cons_self, named.symm⟩
  have age := (references ⟨"number", .ofInt32 0⟩).mpr
    ⟨_, List.mem_cons_self, _, List.mem_cons_self,
      List.mem_cons_of_mem _ (List.mem_cons_of_mem _ List.mem_cons_self)⟩
  have limit := (references ⟨"@number", .ofInt32 0⟩).mpr
    ⟨_, List.mem_cons_of_mem _ List.mem_cons_self, _, List.mem_cons_self, List.mem_cons_self⟩
  exact ⟨_, rfl, age, limit, rfl, (once registers rfl).2 _ age⟩

end EntitySql
