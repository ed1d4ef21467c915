import EntitySql.Proofs.Paging.Frames
/-!
# Reading page by page

A page of a query leaves out the rows of the pages in front of it and takes so many rows as a page
has. Both counts go into one frame around the statement of the query, whose own sorts no longer
order it: the frame orders the rows by the numbers that the window of the query gives them. The
pages thus are consecutive blocks of one numbering, and together they are the result.

## Main definitions

* `Query.page`: a page of a query.
* `Select.page`: the statement of a page.
* `Query.rows`: the rows that a query selects of the rows of its outermost level.

## Main results

* `Query.compile_page`: a query without partitions has the statements of its pages.
* `Query.rows_page`: a page is a block of the rows.
* `Query.pages_cover`: the pages in order are the result, all but the last one are full, and those
  behind it are empty.
-/

namespace EntitySql

open EntitySql.Text

/-! ### Pages -/

/-- The page at a place, counted from zero, of pages with so many rows. -/
def Query.page (q : Query) (size place : Nat) : Query :=
  (q.partition (.skip (UInt32.ofNat (place * size)))).partition (.take (UInt32.ofNat size))

/-- The statement without the order of its outermost level. -/
def Select.unordered : Select → Select
  | .level head tables => .level { head with ordered := false } tables
  | .derived head inner => .derived { head with ordered := false } inner
  | .frame f inner => .frame f inner

/-- The frame that picks a page by the numbers of its rows. -/
def Select.page (index : UInt32) (size place : Nat) (s : Select) : Select :=
  .frame
    { index := index
      top := some (.constant (.ofUInt32 (UInt32.ofNat size)))
      skips := [.constant (.ofUInt32 (UInt32.ofNat (place * size)))]
      selected := false
      descending := false
      ordered := true }
    s.unordered

/-- The rows that the statement of a query selects, given the rows of its outermost level; none if
the query has no statement. -/
def Query.rows {α : Type} (count : Expression → Nat) (rows : List α) (q : Query) :
    List (NumberedRow α) :=
  match q.compile with
  | .ok s => s.rows count (numbered rows)
  | .error _ => []

/-! ### Statements of pages -/

/-- A level without partitions has its statement as it is. -/
theorem Level.paged_of_unpaged {level : Level} (unpaged : level.partitions = []) {nested : Bool}
    {s t : Select} (paged : level.paged nested s = .ok t) : s = t := by
  obtain ⟨-, same⟩ | ⟨some, -⟩ := Level.paged_eq_ok_iff.mp paged
  · exact same
  · exact absurd unpaged some

/-- Partitions around a level without any are applied to its statement, whose rows the sorts of
the level then no longer order. -/
theorem Query.compileLevels_partitions {level : Level} (unpaged : level.partitions = [])
    {inner : List Level} {s t : Select} (compiled : compileLevels level false inner = .ok s)
    {partitions : List Partition} (paging : partitions ≠ [])
    (paged : { level with partitions := partitions }.paged false s.unordered = .ok t) :
    compileLevels { level with partitions := partitions } false inner = .ok t := by
  have head : { level with partitions := partitions }.head false
      = { level.head false with ordered := false } := by
    simp [Level.head, paging]
  cases inner with
  | nil =>
      obtain ⟨projections, filters, statement⟩ := compileLevels_nil_eq_ok_iff.mp compiled
      obtain rfl := Level.paged_of_unpaged unpaged statement
      rw [compileLevels_nil_eq_ok_iff, head]
      exact ⟨projections, filters, paged⟩
  | cons next rest =>
      obtain ⟨source, projections, inside, filters, statement⟩ :=
        compileLevels_cons_eq_ok_iff.mp compiled
      obtain rfl := Level.paged_of_unpaged unpaged statement
      rw [compileLevels_cons_eq_ok_iff, head]
      exact ⟨source, projections, inside, filters, paged⟩

/-- A query without partitions has the statements of its pages. -/
theorem Query.compile_page {q : Query} {s : Select} (unpaged : q.outer.partitions = [])
    (compiled : q.compile = .ok s) (size place : Nat) :
    (q.page size place).compile = .ok (s.page q.outer.index size place) := by
  obtain ⟨valid, levels⟩ := Query.compile_eq_ok_iff.mp compiled
  have outer : (q.page size place).outer
      = { q.outer with partitions := [.skip (UInt32.ofNat (place * size)),
          .take (UInt32.ofNat size)] } := by
    simp [Query.page, Query.partition, unpaged]
  rw [Query.compile_eq_ok_iff, outer]
  exact ⟨valid, compileLevels_partitions unpaged levels (List.cons_ne_nil _ _) rfl⟩

/-- The text of a page around that of the statement. -/
theorem Select.text_page (index : UInt32) {size place : Nat} (sized : size < UInt32.size)
    (placed : place * size < UInt32.size) (s : Select) :
    (s.page index size place).text
      = "SELECT TOP " ++ natText size ++ " * FROM (" ++ s.unordered.text ++ ") AS P"
        ++ natText index.toNat ++ " WHERE " ++ rowLabel index ++ " > " ++ natText (place * size)
        ++ " ORDER BY " ++ rowLabel index := by
  have words : " * FROM (" = " " ++ "* FROM (" := by decide
  have number {n : Nat} (counted : n < UInt32.size) :
      natText (UInt32.ofNat n).toNat = natText n := by
    rw [UInt32.toNat_ofNat_of_lt' counted]
  have clauses : (s.page index size place).text
      = "SELECT TOP " ++ natText (UInt32.ofNat size).toNat ++ " " ++ "* FROM ("
        ++ s.unordered.text ++ ") AS P" ++ natText index.toNat
        ++ (" WHERE " ++ rowLabel index ++ " > " ++ natText (UInt32.ofNat (place * size)).toNat)
        ++ (" ORDER BY " ++ rowLabel index) :=
    rfl
  rw [clauses, number sized, number placed, words]
  simp only [String.append_assoc]

/-! ### Rows of pages -/

section Rows

variable {α : Type} {count : Expression → Nat}

/-- The statement of a level without partitions selects the rows of the level. -/
theorem Query.isFrame_of_unpaged {q : Query} {s : Select} (unpaged : q.outer.partitions = [])
    (compiled : q.compile = .ok s) : s.isFrame = false := by
  obtain ⟨-, levels⟩ := Query.compile_eq_ok_iff.mp compiled
  cases inner : q.inner with
  | nil =>
      rw [inner, compileLevels_nil_eq_ok_iff] at levels
      obtain rfl := Level.paged_of_unpaged unpaged levels.2.2
      rfl
  | cons next rest =>
      rw [inner, compileLevels_cons_eq_ok_iff] at levels
      obtain ⟨source, -, -, -, statement⟩ := levels
      obtain rfl := Level.paged_of_unpaged unpaged statement
      rfl

/-- A statement without its order is a frame if it was one with it. -/
theorem Select.isFrame_unordered (s : Select) : s.unordered.isFrame = s.isFrame := by
  cases s <;> rfl

/-- Of the rows of a level, the frame of a page keeps a block. -/
theorem Select.rows_page (reads : ReadsLiterals count) {s : Select} (source : s.isFrame = false)
    (index : UInt32) {size place : Nat} (sized : size < UInt32.size)
    (placed : place * size < UInt32.size) (rows : List α) :
    (s.page index size place).rows count (numbered rows)
      = ((numbered rows).drop (place * size)).take size := by
  have level : s.unordered.rows count (numbered rows) = numbered rows :=
    Select.rows_of_not_isFrame (s.isFrame_unordered.trans source) _
  have limit : count (.constant (.ofUInt32 (UInt32.ofNat size))) = size := by
    rw [reads, UInt32.toNat_ofNat_of_lt' sized]
  have skips : countSum count [.constant (.ofUInt32 (UInt32.ofNat (place * size)))]
      = place * size := by
    rw [countSum, List.foldl_cons, List.foldl_nil, Nat.zero_add, reads,
      UInt32.toNat_ofNat_of_lt' placed]
  rw [Select.page, Select.rows, level, Frame.rows_limited (List.Sublist.refl _) rfl rfl, limit,
    skips, numbered, filter_zipIdx_lt, Nat.add_sub_cancel]

/-- **A page is a block** of the rows of the query. -/
theorem Query.rows_page (reads : ReadsLiterals count) {q : Query} {s : Select}
    (unpaged : q.outer.partitions = []) (compiled : q.compile = .ok s) {size place : Nat}
    (sized : size < UInt32.size) (placed : place * size < UInt32.size) (rows : List α) :
    (q.page size place).rows count rows = ((numbered rows).drop (place * size)).take size := by
  rw [Query.rows, compile_page unpaged compiled]
  exact Select.rows_page reads (isFrame_of_unpaged unpaged compiled) q.outer.index sized placed rows

/-- Blocks of one size, one after the other, are the front of a list. -/
theorem flatMap_blocks (size : Nat) (rows : List α) (blocks : Nat) :
    (List.range blocks).flatMap (fun place => (rows.drop (place * size)).take size)
      = rows.take (blocks * size) := by
  induction blocks with
  | zero => simp
  | succ blocks ih =>
      rw [List.range_succ, List.flatMap_append, ih, Nat.succ_mul, List.take_add]
      simp

/-- **Pages cover the result.** A query without partitions that has a statement has those of its
pages, and each page reads the statement of the query without its order. Whatever rows the query
has, its pages in order are all of them, each once and in the order of their numbers; a page with
another one behind it that has rows is full; and a page is empty exactly when the pages in front of
it leave no row. -/
theorem Query.pages_cover (reads : ReadsLiterals count) {q : Query} {s : Select}
    (unpaged : q.outer.partitions = []) (compiled : q.compile = .ok s) {size : Nat}
    (positive : 1 ≤ size) (sized : size < UInt32.size) (rows : List α) :
    q.rows count rows = numbered rows ∧
    (∀ place, place * size < UInt32.size →
      (q.page size place).select.result = .ok () ∧
      (q.page size place).select.text
        = "SELECT TOP " ++ natText size ++ " * FROM (" ++ s.unordered.text ++ ") AS P"
          ++ natText q.outer.index.toNat ++ " WHERE " ++ rowLabel q.outer.index ++ " > "
          ++ natText (place * size) ++ " ORDER BY " ++ rowLabel q.outer.index) ∧
    (∀ pages, (∀ place < pages, place * size < UInt32.size) → rows.length ≤ pages * size →
      (List.range pages).flatMap (fun place => (q.page size place).rows count rows)
        = numbered rows) ∧
    (∀ place, place * size < UInt32.size →
      ((q.page size place).rows count rows = [] ↔ rows.length ≤ place * size)) ∧
    ∀ place next, place < next → next * size < UInt32.size →
      (q.page size next).rows count rows ≠ [] →
      ((q.page size place).rows count rows).length = size := by
  have length : (numbered rows).length = rows.length := List.length_zipIdx
  have empty {place : Nat} (placed : place * size < UInt32.size) :
      (q.page size place).rows count rows = [] ↔ rows.length ≤ place * size := by
    rw [rows_page reads unpaged compiled sized placed, List.take_eq_nil_iff, List.drop_eq_nil_iff,
      length]
    exact or_iff_right (by omega)
  refine ⟨?_, ?_, ?_, fun place => empty, ?_⟩
  · rw [Query.rows, compiled]
    exact Select.rows_of_not_isFrame (isFrame_of_unpaged unpaged compiled) _
  · intro place placed
    rw [Query.select, compile_page unpaged compiled, ← Select.text_page _ sized placed]
    exact ⟨rfl, rfl⟩
  · intro pages counted enough
    have blocks : (List.range pages).flatMap (fun place => (q.page size place).rows count rows)
        = (List.range pages).flatMap fun place =>
          ((numbered rows).drop (place * size)).take size :=
      List.flatMap_congr fun place member =>
        rows_page reads unpaged compiled sized (counted place (List.mem_range.mp member)) rows
    rw [blocks, flatMap_blocks, List.take_of_length_le (length.trans_le enough)]
  · intro place next before placed more
    rw [ne_eq, empty placed, not_le] at more
    have behind : (place + 1) * size ≤ next * size := Nat.mul_le_mul_right size before
    rw [Nat.succ_mul] at behind
    rw [rows_page reads unpaged compiled sized (by omega), List.length_take, List.length_drop,
      length]
    omega

/-- Seven persons, three on a page. -/
theorem pages_cover_persons :
    (List.range 3).flatMap (fun place =>
        (Query.page (.ofTable ⟨"app", "Person"⟩) 3 place).rows literalCount
          [10, 20, 30, 40, 50, 60, 70])
      = numbered [10, 20, 30, 40, 50, 60, 70] ∧
    ((Query.page (.ofTable ⟨"app", "Person"⟩) 3 1).rows literalCount
      [10, 20, 30, 40, 50, 60, 70]).length = 3 ∧
    (Query.page (.ofTable ⟨"app", "Person"⟩) 3 3).rows literalCount
      [10, 20, 30, 40, 50, 60, 70] = [] := by
  obtain ⟨-, -, all, empty, full⟩ := @Query.pages_cover Nat literalCount
    readsLiterals_literalCount (.ofTable ⟨"app", "Person"⟩) _ rfl rfl 3 (by decide) (by decide)
    [10, 20, 30, 40, 50, 60, 70]
  have counted : ∀ place < 4, place * 3 < UInt32.size := by decide
  refine ⟨all 3 (fun place h => counted place (by omega)) (by decide), ?_, ?_⟩
  · refine full 1 2 (by decide) (counted 2 (by decide)) ?_
    rw [ne_eq, empty 2 (counted 2 (by decide))]
    decide
  · exact (empty 3 (counted 3 (by decide))).mpr (by decide)

end Rows

end EntitySql
