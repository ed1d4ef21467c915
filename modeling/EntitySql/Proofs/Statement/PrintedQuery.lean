import EntitySql.Proofs.Statement.Compile
import EntitySql.Proofs.Statement.Printer
/-!
# Queries are printed as they are written

A query is written by compiling it to a statement first and printing that, so that nothing is
written if it does not compile. Here its levels are printed one inside the other into buffers of
their own, clause by clause, and a clause that stops leaves something there. This module proves
that the two come to the same, for every buffer that the query is printed into: each level, with
its clauses checked where they are printed, is put whole or not at all, and so is the level around
it.

## Main definitions

* `OpenFrame.asText`: a frame with its parts as texts.
* `Level.checked`: what a level reads from, between the checks of its clauses.

## Main results

* `OpenFrame.puts_apply`, `OpenFrame.puts_applyAll`: partitions on texts.
* `Level.delivers_printClauses`: the clauses of a level, which may stop half way.
* `Level.puts_print`, `Query.puts_printLevels`: levels, which do not.
* `Query.puts_print`: queries.
-/

namespace EntitySql

open EntitySql.Text Printer

/-! ### Frames -/

/-- A frame that is being filled, with its parts as texts. -/
def OpenFrame.asText (index : UInt32) (nested : Bool) (f : OpenFrame) : TextFrame where
  index := index
  nested := nested
  inner := f.inner.text
  top := f.top.map topText
  skip := if f.skips.isEmpty then none else some (skipText f.skips)
  selected := f.selected
  descending := f.descending

/-- A row count more is added on the right. -/
theorem skipText_append {skips : List Expression} (some : skips ≠ []) (count : Expression) :
    skipText (skips ++ [count]) = "(" ++ skipText skips ++ " + " ++ count.text ++ ")" := by
  obtain ⟨first, rest, rfl⟩ := List.exists_cons_of_ne_nil some
  rw [List.cons_append, skipText, skipText, List.foldl_append]
  rfl

namespace OpenFrame

variable {index : UInt32} {nested : Bool}

/-- The text of a frame is that of the statement it closes to. -/
theorem text_asText (f : OpenFrame) :
    (f.asText index nested).text = (f.close index nested).text := by
  rw [TextFrame.text, asText, close, Select.text, Frame.text]
  cases f.top <;> cases f.skips <;> rfl

/-- Closing a row limit commutes with taking a frame as its texts. -/
theorem unlimited_asText (f : OpenFrame) :
    (f.asText index nested).unlimited = (f.unlimited index nested).asText index nested := by
  have limited : (f.asText index nested).top.isSome = f.top.isSome := Option.isSome_map
  rw [TextFrame.unlimited, unlimited, limited, text_asText]
  cases f.top.isSome <;> rfl

/-- Limiting rows commutes with taking a frame as its texts. -/
theorem limit_asText (f : OpenFrame) (count : Expression) :
    (f.asText index nested).limit (topText count)
      = (f.limit index nested count).asText index nested := by
  rw [TextFrame.limit, unlimited_asText]
  rfl

/-- Leaving rows out commutes with taking a frame as its texts. -/
theorem leaveOut_asText (f : OpenFrame) (count : Expression) :
    (f.asText index nested).leaveOut count.text
      = (f.leaveOut index nested count).asText index nested := by
  rw [TextFrame.leaveOut, unlimited_asText, leaveOut]
  generalize f.unlimited index nested = f
  cases skips : f.skips with
  | nil => simp [asText, skips, skipText]
  | cons first rest =>
      have more := skipText_append (List.cons_ne_nil first rest) count
      simp [asText, skips, ← more]

/-- The row limit of one is written as a digit. -/
theorem topText_one : topText one = "1" := by
  decide +kernel

/-- The row count of a partition is put together apart from the statement. -/
theorem puts_countOf (p : Partition) :
    Puts (TextFrame.countOf p) (.given (countOf p) fun count => pure count.text) := by
  rw [TextFrame.countOf, countOf]
  cases p.count with
  | none => exact puts_throw _
  | some count =>
      have apart := (count.delivers_print .partition).apart
      rw [Written.given_map] at apart
      rw [Written.given_bind]
      exact apart

/-- The row limit that is printed for a partition is that of its count. -/
theorem limitText_eq {p : Partition} {count : Expression} (counted : countOf p = .ok count) :
    TextFrame.limitText p count.text = topText count := by
  obtain ⟨given, -⟩ := countOf_eq_ok_iff.mp counted
  rw [TextFrame.limitText, given]
  cases count <;> rfl

/-- **A partition** does to the texts of a frame what it does to the frame. What is left of a row
count that cannot be written stays in the buffer of the row count. -/
theorem puts_apply (f : OpenFrame) (p : Partition) :
    Puts ((f.asText index nested).apply p)
      (.given (f.apply index nested p) fun g => pure (g.asText index nested)) := by
  have limited : (f.asText index nested).limit "1"
      = (f.limit index nested one).asText index nested := by
    rw [← topText_one, limit_asText]
  rw [TextFrame.apply, apply]
  cases p.operator with
  | first | firstOrDefault | last | lastOrDefault =>
      simp only [limited]
      exact puts_pure _
  | single | singleOrDefault => exact puts_pure _
  | take =>
      rw [Written.given_bind]
      refine (puts_countOf p).given fun count given => ?_
      rw [limitText_eq given, limit_asText]
      exact puts_pure _
  | skip =>
      rw [Written.given_bind]
      refine (puts_countOf p).given fun count given => ?_
      rw [leaveOut_asText]
      exact puts_pure _

/-- Partitions do to the texts of a frame what they do to the frame, one after the other. -/
theorem puts_applyAll (index : UInt32) (nested : Bool) (f : OpenFrame)
    (partitions : List Partition) :
    Puts ((f.asText index nested).applyAll partitions)
      (.given (applyAll index nested f partitions) fun g => pure (g.asText index nested)) := by
  induction partitions generalizing f with
  | nil => exact puts_pure _
  | cons p rest ih =>
      rw [TextFrame.applyAll, applyAll, Written.given_bind]
      exact (puts_apply f p).given fun g _ => ih g

end OpenFrame

/-! ### Levels -/

/-- Checking expressions is checking one after the other. -/
theorem checkAll_eq_forM (fragment : Fragment) (es : List Expression) :
    checkAll fragment es = forM es (Expression.check fragment) := by
  induction es with
  | nil => rfl
  | cons e rest ih => rw [checkAll, List.forM_cons, ih]

namespace Level

variable {level : Level}

/-- The text of the sorts of a level, none if there are none. -/
def sortText (level : Level) : String :=
  if level.sorts.isEmpty then "" else orderClause level.sorts

/-- The sorts have a text exactly when there are any. -/
theorem isEmpty_sortText (level : Level) : level.sortText.isEmpty = level.sorts.isEmpty := by
  rw [sortText]
  cases level.sorts.isEmpty with
  | true => rfl
  | false =>
      have some : orderClause level.sorts ≠ "" := by
        intro none
        have first := congrArg String.toList none
        rw [orderClause, String.toList_append] at first
        cases first
      simpa using some

/-- The sorts of a level are printed without a fault. -/
theorem delivers_printSorts (level : Level) : Delivers level.printSorts (.ok level.sortText) := by
  rw [printSorts, sortText]
  cases level.sorts.isEmpty with
  | true => exact delivers_pure
  | false => exact (delivers_separated_put ", " SortKey.text level.sorts).behind_put "ORDER BY "

/-- The projections of a level are printed, or the fault of the first one that has any is
delivered. -/
theorem delivers_printProjections (level : Level) :
    Delivers level.printProjections
      ((checkAll .select level.projections).map fun _ => projectionClause level.projections) := by
  rw [printProjections, projectionClause, checkAll_eq_forM]
  cases level.projections with
  | nil => exact delivers_put "*"
  | cons e rest => exact delivers_separated ", " fun e _ => e.delivers_print .select

/-- A condition is printed in parentheses, or its fault is delivered. -/
theorem delivers_printCondition (e : Expression) :
    Delivers (printCondition e) ((e.check .filter).map fun _ => "(" ++ e.text ++ ")") := by
  have delivers := ((e.delivers_print .filter).andThen (delivers_put ")")).behind_put "("
  cases checked : e.check .filter <;> rw [checked] at delivers <;> exact delivers

/-- The filters of a level are printed, or the fault of the first one that has any is delivered. -/
theorem delivers_printFilters (level : Level) :
    Delivers level.printFilters
      ((checkAll .filter level.filters).map fun _ => filterClause level.filters) := by
  rw [printFilters, filterClause, checkAll_eq_forM]
  cases level.filters with
  | nil => exact delivers_pure
  | cons e rest =>
      have conditions : Delivers (separated " AND " printCondition (e :: rest))
          ((forM (e :: rest) (Expression.check .filter)).map fun _ =>
            Text.separated " AND " ((e :: rest).map fun e => "(" ++ e.text ++ ")")) :=
        delivers_separated " AND " fun e _ => delivers_printCondition e
      have delivers := conditions.behind_put " WHERE "
      cases checked : forM (e :: rest) (Expression.check .filter) <;>
        rw [checked] at delivers <;> exact delivers

/-- What the sorts of a level are printed as orders its window. -/
theorem window_eq (level : Level) :
    (if level.sortText.isEmpty then "ORDER BY Id" else level.sortText)
      = windowClause level.sorts := by
  rw [isEmpty_sortText, sortText, windowClause]
  cases level.sorts.isEmpty <;> rfl

/-- What the sorts of a level are printed as orders its rows, if they do. -/
theorem order_eq (level : Level) (nested : Bool) :
    (if !level.sortText.isEmpty && !nested && level.partitions.isEmpty then " " ++ level.sortText
      else "")
      = if (level.head nested).ordered then " " ++ orderClause level.sorts else "" := by
  rw [isEmpty_sortText, sortText, head]
  cases level.sorts.isEmpty <;> rfl

/-- The text of a level, clause by clause. -/
theorem text_eq_clauses (level : Level) (nested : Bool) (source : String) :
    (level.head nested).text source
      = "SELECT ROW_NUMBER() OVER(" ++ (windowClause level.sorts
        ++ (") AS " ++ rowLabel level.index ++ ", " ++ (projectionClause level.projections
          ++ (" FROM " ++ (source ++ (filterClause level.filters
            ++ if (level.head nested).ordered then " " ++ orderClause level.sorts
              else "")))))) := by
  unfold LevelHead.text
  simp only [String.append_assoc, head, -String.reduceAppend]

section Print

variable {β : Type} {source : Printer Unit} {y : Except DatabaseError β} {text : β → String}

/-- What a level reads from, between the checks of its projections and of its conditions. -/
def checked (level : Level) (y : Except DatabaseError β) : Except DatabaseError β := do
  checkAll .select level.projections
  let b ← y
  checkAll .filter level.filters
  return b

/-- The clauses of a level deliver its text over that of its source. -/
theorem delivers_printClauses (level : Level) (nested : Bool)
    (delivers : Delivers source (y.map text)) :
    Delivers (level.printClauses nested level.sortText source)
      ((level.checked y).map fun b => (level.head nested).text (text b)) := by
  rw [printClauses, order_eq, window_eq, checked]
  have behind := ((delivers_printFilters level).andThen (delivers_put
    (if (level.head nested).ordered then " " ++ orderClause level.sorts else "")))
  have clauses := (delivers_printProjections level).andThen
    ((delivers.andThen behind).behind_put " FROM ")
  have whole := ((clauses.behind_put (") AS " ++ rowLabel level.index ++ ", ")).behind_put
    (windowClause level.sorts)).behind_put "SELECT ROW_NUMBER() OVER("
  cases projections : checkAll .select level.projections with
  | error error =>
      rw [projections] at whole
      exact whole
  | ok =>
      rw [projections] at whole
      cases y with
      | error error => exact whole
      | ok b =>
          cases filters : checkAll .filter level.filters with
          | error error =>
              rw [filters] at whole
              exact whole
          | ok =>
              rw [filters] at whole
              show Delivers _ (.ok ((level.head nested).text (text b)))
              rw [text_eq_clauses]
              exact whole

/-- The text of a level is put whole, in the frames that its partitions fill, or not at all. -/
theorem puts_printPaged (level : Level) (nested : Bool) (s : Select) :
    Puts (level.printPaged nested s.text)
      (.given (level.paged nested s) fun t => .write t.text) := by
  rw [printPaged, paged]
  cases level.partitions with
  | nil => exact puts_put _
  | cons p rest =>
      simp only [List.isEmpty_cons, Bool.false_eq_true, if_false, Written.given_bind]
      refine (OpenFrame.puts_applyAll level.index nested (.around s) (p :: rest)).given
        fun f _ => ?_
      rw [OpenFrame.text_asText]
      exact puts_put _

/-- What is printed for a level that has a statement is the text of the statement. -/
theorem run_printPaged {level : Level} {nested : Bool} {s t : Select}
    (paged : level.paged nested s = .ok t) (buffer : String) :
    (level.printPaged nested s.text).run buffer = .ok () (buffer ++ t.text) := by
  have printed := puts_printPaged level nested s buffer
  rw [paged] at printed
  exact printed

/-- **A level** is put whole or not at all: what is left of its clauses when one of them stops is
in the buffers of the level. -/
theorem puts_print (level : Level) (nested : Bool) (delivers : Delivers source (y.map text))
    (build : β → Select) (built : ∀ b, (build b).text = (level.head nested).text (text b)) :
    Puts (level.print nested source)
      (.given (level.checked y >>= fun b => level.paged nested (build b)) fun t =>
        .write t.text) := by
  have sorts := (delivers_printSorts level).apart
  have clauses := (delivers_printClauses level nested delivers).apart
  rw [Written.given_map] at clauses
  rw [Written.given_bind]
  have whole : Puts (level.print nested source) (.given (.ok level.sortText) fun _ =>
      .given (level.checked y) fun b => .given (level.paged nested (build b)) fun t =>
        .write t.text) := by
    refine sorts.given fun sorted same => ?_
    obtain rfl := Except.ok.inj same
    refine clauses.given fun b _ => ?_
    rw [← built]
    exact puts_printPaged level nested (build b)
  exact whole

end Print

end Level

namespace Query

/-- The innermost level compiles to a statement over its tables, checked and paged. -/
theorem compileLevels_nil (level : Level) (nested : Bool) :
    compileLevels level nested [] = level.checked (.ok ()) >>= fun _ =>
      level.paged nested (.level (level.head nested) level.tables) := by
  rw [compileLevels, Level.checked]
  simp only [bind_assoc, pure_bind]
  rfl

/-- Any other level compiles to a statement over the one inside it, which is compiled between its
checks. -/
theorem compileLevels_cons (level next : Level) (nested : Bool) (rest : List Level) :
    compileLevels level nested (next :: rest)
      = level.checked (compileLevels next true rest) >>= fun inner =>
        level.paged nested (.derived (level.head nested) inner) := by
  rw [compileLevels, Level.checked]
  simp only [bind_assoc, pure_bind]

/-- A statement that is put delivers its derived table. -/
theorem delivers_derived (index : UInt32) {p : Printer Unit} {x : Except DatabaseError Select}
    (puts : Puts p (.given x fun s => .write s.text)) :
    Delivers (do put "("; p; put (") AS F" ++ natText index.toNat))
      (x.map fun s => "(" ++ s.text ++ ") AS F" ++ natText index.toNat) := by
  have parts := (puts.delivers_given.andThen
    (delivers_put (") AS F" ++ natText index.toNat))).behind_put "("
  cases x with
  | error error => exact parts
  | ok s =>
      show Delivers _ (.ok ("(" ++ s.text ++ ") AS F" ++ natText index.toNat))
      rw [String.append_assoc, String.append_assoc]
      exact parts

/-- **Levels** are put whole or not at all, however deep the level that stops. -/
theorem puts_printLevels (level : Level) (nested : Bool) (rest : List Level) :
    Puts (printLevels level nested rest)
      (.given (compileLevels level nested rest) fun s => .write s.text) := by
  induction rest generalizing level nested with
  | nil =>
      have tables : Delivers (put (joined ", " (level.tables.map TableName.bracketed)))
          ((.ok () : Except DatabaseError Unit).map fun _ =>
            joined ", " (level.tables.map TableName.bracketed)) :=
        delivers_put _
      rw [printLevels, compileLevels_nil]
      exact level.puts_print nested tables _ fun _ => rfl
  | cons next rest ih =>
      rw [printLevels, compileLevels_cons]
      exact level.puts_print nested (delivers_derived level.index (ih next true)) _ fun _ => rfl

/-- A query is put as it is written: its statement, or nothing. -/
theorem puts_print (q : Query) : Puts q.print q.select := by
  rw [print, select, compile]
  cases q.problem? with
  | some problem => exact puts_throw _
  | none =>
      have puts := puts_printLevels q.outer false q.inner
      cases compiled : compileLevels q.outer false q.inner <;> rw [compiled] at puts <;> exact puts

end Query

end EntitySql
