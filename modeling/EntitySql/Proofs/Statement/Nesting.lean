import EntitySql.Proofs.Query.Columns
import EntitySql.Proofs.Statement.Grammar
/-!
# Sub queries and what they are on their own

A level is compiled in one of two ways, as the outermost one or inside another level, and the
levels inside it are compiled in the second way in both cases. The two differ in nothing but the
order at the end of the statement: a derived table keeps it only together with a row limit. So a
sub query has the statement that it would have on its own, less that last clause, and it fails when
it would fail on its own.

The frames that partitions fill on the way are closed because of their row limit, hence ordered
either way; only the last frame can tell where its level stands.

## Main definitions

* `Select.asTable`: a statement as a derived table.
* `endsLimited`, `Level.trailingOrder`: the clause that a level on its own has at its end in
  addition.
* `OpenFrame.EndsAs`: the row limit and the direction of a frame, by the partitions that filled it.
* `Query.Nests`: how the statement of a query is made up of that of its sub query.

## Main results

* `OpenFrame.applyAll_nested`, `Query.compileLevels_nested`: compiling inside another level is
  compiling alone, and then `asTable`.
* `OpenFrame.EndsAs.apply`, `OpenFrame.EndsAs.applyAll`: partitions keep the invariant of frames.
* `Query.text_compileLevels`: the text of a level on its own.
* `Query.nests_subQuery`: the statement of a query around a sub query.
-/

namespace EntitySql

open EntitySql.Text

/-- The statement as a derived table: the sorts of a level do not order it, and a frame is ordered
only together with a row limit. -/
def Select.asTable : Select → Select
  | level head tables => level { head with ordered := false } tables
  | derived head inner => derived { head with ordered := false } inner
  | frame f inner => frame { f with ordered := f.top.isSome } inner

/-! ### Compiling in both ways -/

namespace OpenFrame

variable {index : UInt32} {f : OpenFrame}

/-- A closed frame that another one is put around has a row limit, so it is ordered anyway. -/
theorem unlimited_nested : f.unlimited index true = f.unlimited index false := by
  rw [unlimited, unlimited]
  split
  next limited => rw [close, close, limited, Bool.true_or, Bool.true_or]
  next => rfl

/-- A partition acts on a frame of a sub query as on one that stands alone. -/
theorem apply_nested (p : Partition) : f.apply index true p = f.apply index false p := by
  simp only [apply, limit, leaveOut, unlimited_nested]

/-- **Partitions fill the same frame** inside another level as on their own. -/
theorem applyAll_nested (partitions : List Partition) :
    applyAll index true f partitions = applyAll index false f partitions := by
  induction partitions generalizing f with
  | nil => rfl
  | cons p rest ih =>
      rw [applyAll, applyAll, apply_nested]
      exact congrArg _ (funext fun _ => ih)

/-- Closing the frame for a sub query gives the derived table of what it gives alone. -/
theorem asTable_close : (f.close index false).asTable = f.close index true := by
  simp [close, Select.asTable]

end OpenFrame

/-- The head of a level inside another one. -/
theorem Level.head_nested (level : Level) :
    level.head true = { level.head false with ordered := false } := by
  simp [head]

/-- The partitions of a level inside another one give the derived table of what they give alone,
whatever the level reads from. -/
theorem Level.paged_nested (level : Level) (statement : LevelHead → Select)
    (table : ∀ head, (statement head).asTable = statement { head with ordered := false }) :
    level.paged true (statement (level.head true))
      = Select.asTable <$> level.paged false (statement (level.head false)) := by
  rw [paged, paged]
  split
  next => rw [head_nested, ← table]; rfl
  next pages =>
    -- the sorts of a level with partitions do not order its statement in either way
    have same : level.head true = level.head false := by simp [head, pages]
    rw [same, OpenFrame.applyAll_nested]
    cases OpenFrame.applyAll level.index false (.around _) level.partitions with
    | error e => rfl
    | ok f => exact congrArg Except.ok OpenFrame.asTable_close.symm

/-- **Compiling inside another level** gives the derived table of what compiling alone gives, and
the same error. -/
theorem Query.compileLevels_nested (level : Level) (inner : List Level) :
    compileLevels level true inner = Select.asTable <$> compileLevels level false inner := by
  cases inner with
  | nil =>
      have table := level.paged_nested (fun head => .level head level.tables) fun _ => rfl
      simp only [compileLevels, map_bind, table]
  | cons next rest =>
      have table (s : Select) := level.paged_nested (fun head => .derived head s) fun _ => rfl
      simp only [compileLevels, map_bind, table]

/-! ### The order at the end -/

/-- Whether the last frame that partitions fill has a row limit: the last partition but for those of
a single row is no skip. -/
def endsLimited (partitions : List Partition) : Bool :=
  (partitions.filter fun p => !p.isSingle).getLast?.any fun p => p.operator != .skip

/-- The last partition tells whether the last frame is limited, unless it is one for a single
row. -/
theorem endsLimited_append (partitions : List Partition) (p : Partition) :
    endsLimited (partitions ++ [p])
      = if p.isSingle then endsLimited partitions else p.operator != .skip := by
  rw [endsLimited, List.filter_append]
  cases single : p.isSingle with
  | true => simp [single, endsLimited]
  | false => simp [single]

/-- The clause at the end of a level on its own that its derived table is without: its sorts, or
the row numbers if the last of its frames has no row limit. -/
def Level.trailingOrder (level : Level) : String :=
  if level.partitions.isEmpty then
    if level.sorts.isEmpty then "" else " " ++ orderClause level.sorts
  else if endsLimited level.partitions then "" else " ORDER BY " ++ rowLabel level.index

/-- **The invariant of a frame** that partitions have filled: it has a row limit when they end in
one, and is reversed only together with a row limit. -/
structure OpenFrame.EndsAs (passed : List Partition) (f : OpenFrame) : Prop where
  limited : f.top.isSome = endsLimited passed
  reversed : f.descending = true → f.top.isSome = true

namespace OpenFrame

variable {index : UInt32} {nested : Bool} {passed : List Partition} {f g : OpenFrame}

/-- A frame around a statement, with no partitions yet, has no row limit and is not reversed. -/
theorem EndsAs.around (s : Select) : EndsAs [] (around s) where
  limited := rfl
  reversed := nofun

/-- A frame that gets a row limit or a skip has none before, and keeps the order of its rows. -/
theorem EndsAs.unlimited (ends : EndsAs passed f) (index : UInt32) (nested : Bool) :
    (f.unlimited index nested).top = none ∧ (f.unlimited index nested).descending = false := by
  rw [OpenFrame.unlimited]
  split
  next => exact ⟨rfl, rfl⟩
  next free =>
    refine ⟨by simpa using free, ?_⟩
    cases direction : f.descending with
    | false => rfl
    | true => exact absurd (ends.reversed direction) free

/-- A partition keeps the invariant. -/
theorem EndsAs.apply {p : Partition} (ends : EndsAs passed f)
    (applied : f.apply index nested p = .ok g) : EndsAs (passed ++ [p]) g := by
  obtain ⟨free, forward⟩ := ends.unlimited index nested
  have step := apply_eq_ok_iff.mp applied
  cases op : p.operator with
  | first | firstOrDefault | last | lastOrDefault =>
      simp only [op] at step
      rw [step]
      exact ⟨by simp [limit, endsLimited_append, Partition.isSingle, op], fun _ => rfl⟩
  | single | singleOrDefault =>
      simp only [op] at step
      rw [step]
      exact ⟨by simp [ends.limited, endsLimited_append, Partition.isSingle, op], ends.reversed⟩
  | take =>
      simp only [op] at step
      obtain ⟨count, -, rfl⟩ := step
      exact ⟨by simp [limit, endsLimited_append, Partition.isSingle, op], fun _ => rfl⟩
  | skip =>
      simp only [op] at step
      obtain ⟨count, -, rfl⟩ := step
      exact ⟨by simp [leaveOut, free, endsLimited_append, Partition.isSingle, op],
        fun direction => absurd direction (by simp [leaveOut, forward])⟩

/-- Partitions applied one after the other keep the invariant. -/
theorem EndsAs.applyAll {partitions : List Partition} (ends : EndsAs passed f)
    (applied : OpenFrame.applyAll index nested f partitions = .ok g) :
    EndsAs (passed ++ partitions) g := by
  induction partitions generalizing passed f with
  | nil =>
      obtain rfl := applyAll_nil_eq_ok_iff.mp applied
      simpa using ends
  | cons p rest ih =>
      obtain ⟨next, first, others⟩ := applyAll_cons_eq_ok_iff.mp applied
      simpa using ih (ends.apply first) others

end OpenFrame

/-- The text of the head of a level without partitions ends in its sorts. -/
theorem Level.text_head {level : Level} (unpaged : level.partitions = []) (source : String) :
    (level.head false).text source = (level.head true).text source ++ level.trailingOrder := by
  have alone : (if (level.head false).ordered then " " ++ orderClause (level.head false).sorts
      else "") = level.trailingOrder := by
    rw [trailingOrder, head, unpaged]
    cases level.sorts <;> rfl
  have inside : (level.head true).ordered = false := by simp [head]
  have filters : (level.head false).filters = (level.head true).filters := rfl
  rw [head_text, head_text, alone, inside, filters]
  simp only [Bool.false_eq_true, if_false, String.append_empty]

/-- The text of the last frame ends in the row numbers unless it has a row limit. -/
theorem OpenFrame.EndsAs.text_close {passed : List Partition} {f : OpenFrame}
    (ends : f.EndsAs passed) (index : UInt32) :
    (f.close index false).text = (f.close index true).text
      ++ if endsLimited passed then "" else " ORDER BY " ++ rowLabel index := by
  rw [← ends.limited]
  cases top : f.top with
  | some count =>
      have same : f.close index false = f.close index true := by simp only [close, top]; rfl
      rw [same, Option.isSome_some, if_pos rfl, String.append_empty]
  | none =>
      have forward : f.descending = false := by
        cases direction : f.descending with
        | false => rfl
        | true => simpa [top] using ends.reversed direction
      simp only [close, Select.text, Frame.text_eq, Frame.limitText, Frame.conditionText,
        Frame.orderText, top, forward, Option.isSome_none, Bool.false_eq_true, if_false, if_true,
        Bool.not_true, Bool.not_false, Bool.or_false, Bool.or_true, String.append_empty]

/-- The partitions of a level on its own leave the order at the end of its statement to them, and
end in a frame with a row limit or without one as they say. -/
theorem Level.text_paged {level : Level} {s t : Select}
    (bare : level.partitions = [] → s.text = s.asTable.text ++ level.trailingOrder)
    (paged : level.paged false s = .ok t) :
    t.text = t.asTable.text ++ level.trailingOrder ∧
      (level.partitions ≠ [] → ∃ f r, t = .frame f r
        ∧ f.top.isSome = endsLimited level.partitions) := by
  rcases Level.paged_eq_ok_iff.mp paged with ⟨unpaged, rfl⟩ | ⟨pages, f, applied, rfl⟩
  · exact ⟨bare unpaged, fun pages => absurd unpaged pages⟩
  · have ends := (OpenFrame.EndsAs.around s).applyAll applied
    rw [List.nil_append] at ends
    have order : level.trailingOrder = if endsLimited level.partitions then ""
        else " ORDER BY " ++ rowLabel level.index := by
      rw [trailingOrder, if_neg (by simpa using pages)]
    refine ⟨?_, fun _ => ⟨_, _, rfl, ends.limited⟩⟩
    rw [OpenFrame.asTable_close, order]
    exact ends.text_close level.index

/-- **The text of a level on its own** is that of its derived table with one clause behind it, and
it is a frame with a row limit, or without one, as its partitions say. -/
theorem Query.text_compileLevels {level : Level} {inner : List Level} {t : Select}
    (compiled : compileLevels level false inner = .ok t) :
    t.text = t.asTable.text ++ level.trailingOrder ∧
      (level.partitions ≠ [] → ∃ f r, t = .frame f r
        ∧ f.top.isSome = endsLimited level.partitions) := by
  cases inner with
  | nil =>
      obtain ⟨-, -, paged⟩ := compileLevels_nil_eq_ok_iff.mp compiled
      refine Level.text_paged (fun unpaged => ?_) paged
      rw [Select.asTable, ← Level.head_nested, Select.text, Select.text, Level.text_head unpaged]
  | cons next rest =>
      obtain ⟨s, -, -, -, paged⟩ := compileLevels_cons_eq_ok_iff.mp compiled
      refine Level.text_paged (fun unpaged => ?_) paged
      rw [Select.asTable, ← Level.head_nested, Select.text, Select.text, Level.text_head unpaged]
      rfl

/-! ### Sub queries -/

/-- A statement in frames stands in their text as it is. -/
theorem Select.Framed.exists_text {index : UInt32} {s t : Select} (framed : Framed index s t) :
    ∃ before after, t.text = before ++ s.text ++ after := by
  induction framed with
  | unframed => exact ⟨"", "", by simp⟩
  | @frame f inner _ _ ih =>
      obtain ⟨before, after, text⟩ := ih
      refine ⟨f.limitText ++ "* FROM (" ++ before, after ++ ") AS P" ++ natText f.index.toNat
        ++ f.conditionText ++ f.orderText, ?_⟩
      rw [Select.text, Frame.text_eq, text]
      simp only [String.append_assoc]

/-- **How a query is made up of its sub query**, given their statements. -/
structure Query.Nests (q s : Query) (whole alone : Select) : Prop where
  compiled : q.compile = .ok whole
  text : q.select.text = whole.text
  compiledAlone : s.compile = .ok alone
  textAlone : s.select.text = alone.text
  /-- Inside frames of its own, the query is its outermost level over the sub query as a derived
  table. -/
  framed : Select.Framed q.outer.index (.derived (q.outer.head false) alone.asTable) whole
  /-- The derived table stands behind the columns of the outermost level, in parentheses and named
  after the level. -/
  placed : ∃ before after, q.select.text = before ++ "SELECT " ++ q.outer.columnsText ++ " FROM ("
    ++ alone.asTable.text ++ ") AS F" ++ natText q.outer.index.toNat
    ++ filterClause q.outer.filters ++ after
  /-- On its own, the sub query has the text of the derived table and one clause behind it. -/
  trailing : s.select.text = alone.asTable.text ++ s.outer.trailingOrder
  /-- With partitions, the last frame of the sub query has a row limit when they end in one. -/
  limited : s.outer.partitions ≠ [] → ∃ f inner, alone = .frame f inner
    ∧ f.top.isSome = endsLimited s.outer.partitions

/-- A statement that was compiled is the one of the query, and its text is that of the query. -/
theorem Query.text_of_compile {q : Query} {t : Select} (compiled : q.compile = .ok t) :
    q.select.result = .ok () ∧ q.select.text = t.text := by
  rw [select, compiled]
  exact ⟨rfl, rfl⟩

/-- What a compiled query reads from is what its sub query compiles to, if it has one. -/
theorem Query.nests_of_compile {level : Level} {s : Query} {whole : Select}
    (compiled : (Query.mk level s.levels).compile = .ok whole) :
    ∃ alone, (Query.mk level s.levels).Nests s whole alone := by
  obtain ⟨valid, levels⟩ := compile_eq_ok_iff.mp compiled
  obtain ⟨table, -, inside, -, paged⟩ := compileLevels_cons_eq_ok_iff.mp levels
  -- the sub query has no fault of its own, and alone it has the statement that the table is of
  rw [compileLevels_nested] at inside
  obtain ⟨alone, levelsAlone, rfl⟩ : ∃ alone, compileLevels s.outer false s.inner = .ok alone
      ∧ alone.asTable = table := by
    cases result : compileLevels s.outer false s.inner with
    | error e => rw [result] at inside; cases inside
    | ok alone => rw [result] at inside; exact ⟨alone, rfl, Except.ok.inj inside⟩
  have compiledAlone : s.compile = .ok alone :=
    compile_eq_ok_iff.mpr
      ⟨problem?_eq_none_iff.mpr (problem?_eq_none_iff.mp valid).inner, levelsAlone⟩
  obtain ⟨-, text⟩ := text_of_compile compiled
  obtain ⟨-, textAlone⟩ := text_of_compile compiledAlone
  obtain ⟨trailing, limited⟩ := text_compileLevels levelsAlone
  have framed := Level.framed_of_paged paged
  obtain ⟨before, after, around⟩ := framed.exists_text
  have placed : ∃ before after, (Query.mk level s.levels).select.text = before ++ "SELECT "
      ++ level.columnsText ++ " FROM (" ++ alone.asTable.text ++ ") AS F"
      ++ natText level.index.toNat ++ filterClause level.filters ++ after := by
    refine ⟨before, (if (level.head false).ordered then " " ++ orderClause (level.head false).sorts
      else "") ++ after, ?_⟩
    have opened : " FROM (" = " FROM " ++ "(" := by decide
    rw [text, around, Select.text, Level.head_text, opened]
    simp only [String.append_assoc, String.empty_append]
    rfl
  exact ⟨alone, compiled, text, compiledAlone, textAlone, framed, placed, textAlone ▸ trailing,
    limited⟩

/-- **A sub query compiles to what it is on its own**, up to the order at its end. If a query
around it is written, so is the sub query alone, and the derived table of the query is the text of
the sub query without the sorts, or the row numbers, at its end; if the last frame of the sub query
has a row limit, or there is neither a sort nor a partition, it is the whole text. If the sub
query cannot be written alone, then neither can the query. -/
theorem Query.nests_subQuery (level : Level) (s : Query) :
    ((Query.mk level s.levels).select.result = .ok () →
      s.select.result = .ok () ∧ ∃ whole alone, (Query.mk level s.levels).Nests s whole alone) ∧
    ((∃ e, s.select.result = .error e) →
      ∃ e, (Query.mk level s.levels).select.result = .error e) := by
  have nests (written : (Query.mk level s.levels).select.result = .ok ()) :
      s.select.result = .ok () ∧ ∃ whole alone, (Query.mk level s.levels).Nests s whole alone := by
    obtain ⟨whole, compiled, -⟩ := select_result_eq_ok_iff.mp written
    obtain ⟨alone, nests⟩ := nests_of_compile compiled
    exact ⟨(text_of_compile nests.compiledAlone).1, whole, alone, nests⟩
  refine ⟨nests, ?_⟩
  rintro ⟨e, failed⟩
  cases result : (Query.mk level s.levels).select.result with
  | error e => exact ⟨e, rfl⟩
  | ok _ =>
      obtain ⟨written, -⟩ := nests result
      rw [written] at failed
      cases failed

/-- The persons behind the first of four. -/
def behindFirstOfFour : Query :=
  ((Query.ofTable ⟨"app", "Person"⟩).partition (.take 4)).partition (.skip 1)

/-- As a sub query, the persons behind the first of four lose the order of a frame without a row
limit, and the four keep theirs. -/
theorem nests_subQuery_behindFirstOfFour :
    behindFirstOfFour.ofSubQuery.select.result = .ok () ∧
    ∃ whole alone, behindFirstOfFour.ofSubQuery.Nests behindFirstOfFour whole alone ∧
      behindFirstOfFour.select.text = alone.asTable.text ++ " ORDER BY RowId0" := by
  have written : behindFirstOfFour.ofSubQuery.select.result = .ok () := rfl
  obtain ⟨-, whole, alone, nests⟩ :=
    (Query.nests_subQuery behindFirstOfFour.ofSubQuery.outer behindFirstOfFour).1 written
  have order : behindFirstOfFour.outer.trailingOrder = " ORDER BY RowId0" := by decide +kernel
  exact ⟨written, whole, alone, nests, order ▸ nests.trailing⟩

end EntitySql
