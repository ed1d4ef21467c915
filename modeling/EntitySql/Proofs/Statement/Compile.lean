import EntitySql.Proofs.Statement.Written
import EntitySql.Statement.Compile
/-!
# When compiling succeeds

One equivalence for each function that compiling is made of: it succeeds with a result exactly
when its parts do and the result is made of theirs. Proofs about compiled statements take these
equivalences and leave the definitions closed.

## Main results

* `OpenFrame.apply_eq_ok_iff`, `OpenFrame.applyAll_cons_eq_ok_iff`: what partitions do to a frame.
* `Level.paged_eq_ok_iff`, `Query.compileLevels_nil_eq_ok_iff`,
  `Query.compileLevels_cons_eq_ok_iff`: the statements of levels.
* `Query.compile_eq_ok_iff`, `Query.select_result_eq_ok_iff`: the statements of queries.
-/

namespace EntitySql

/-- Whether a partition picks the last row. -/
def Partition.picksLast (p : Partition) : Bool :=
  match p.operator with
  | .last | .lastOrDefault => true
  | _ => false

namespace OpenFrame

variable {index : UInt32} {nested : Bool} {f g : OpenFrame} {p : Partition}

/-- The row count of a partition is an expression that can be written. -/
theorem countOf_eq_ok_iff {e : Expression} :
    countOf p = .ok e ↔ p.count = some e ∧ e.check .partition = .ok () := by
  rw [countOf]
  cases p.count with
  | none => simp
  | some e' =>
      simp only [check_bind_eq_ok_iff, Option.some.injEq]
      constructor
      · rintro ⟨checked, same⟩
        obtain rfl : e' = e := Except.ok.inj same
        exact ⟨rfl, checked⟩
      · rintro ⟨rfl, checked⟩
        exact ⟨checked, rfl⟩

/-- What each operator does to a frame. -/
theorem apply_eq_ok_iff :
    f.apply index nested p = .ok g ↔
      match p.operator with
      | .first | .firstOrDefault => g = f.limit index nested one
      | .last | .lastOrDefault => g = { f.limit index nested one with descending := true }
      | .single | .singleOrDefault => g = { f with selected := true }
      | .take => ∃ e, countOf p = .ok e ∧ g = f.limit index nested e
      | .skip => ∃ e, countOf p = .ok e ∧ g = f.leaveOut index nested e := by
  rw [apply]
  cases p.operator with
  | take | skip =>
      simp only [bind_eq_ok_iff]
      constructor
      · rintro ⟨e, counted, same⟩
        exact ⟨e, counted, (Except.ok.inj same).symm⟩
      · rintro ⟨e, counted, rfl⟩
        exact ⟨e, counted, rfl⟩
  | _ => simp only [Except.ok.injEq, eq_comm]

/-- No partitions leave the frame as it is. -/
theorem applyAll_nil_eq_ok_iff : applyAll index nested f [] = .ok g ↔ f = g := by
  rw [applyAll, Except.ok.injEq]

/-- Partitions are applied one after the other, each to what the last one left. -/
theorem applyAll_cons_eq_ok_iff {rest : List Partition} :
    applyAll index nested f (p :: rest) = .ok g ↔
      ∃ next, f.apply index nested p = .ok next ∧ applyAll index nested next rest = .ok g := by
  rw [applyAll, bind_eq_ok_iff]

end OpenFrame

/-- A level without partitions has its statement as it is, and one with partitions the frame that
they fill. -/
theorem Level.paged_eq_ok_iff {level : Level} {nested : Bool} {s t : Select} :
    level.paged nested s = .ok t ↔
      (level.partitions = [] ∧ s = t) ∨
      (level.partitions ≠ [] ∧ ∃ f,
        OpenFrame.applyAll level.index nested (.around s) level.partitions = .ok f
          ∧ f.close level.index nested = t) := by
  rw [Level.paged]
  cases level.partitions with
  | nil => simp
  | cons p rest =>
      simp only [List.isEmpty_cons, Bool.false_eq_true, if_false, bind_eq_ok_iff]
      constructor
      · rintro ⟨f, applied, closed⟩
        exact .inr ⟨List.cons_ne_nil p rest, f, applied, Except.ok.inj closed⟩
      · rintro (⟨none, -⟩ | ⟨-, f, applied, rfl⟩)
        · cases none
        · exact ⟨f, applied, rfl⟩

namespace Query

/-- The innermost level reads from its tables. -/
theorem compileLevels_nil_eq_ok_iff {level : Level} {nested : Bool} {t : Select} :
    compileLevels level nested [] = .ok t ↔
      checkAll .select level.projections = .ok () ∧ checkAll .filter level.filters = .ok ()
        ∧ level.paged nested (.level (level.head nested) level.tables) = .ok t := by
  rw [compileLevels]
  simp only [check_bind_eq_ok_iff]

/-- Every other level reads from the statement of the levels inside it. -/
theorem compileLevels_cons_eq_ok_iff {level next : Level} {nested : Bool} {rest : List Level}
    {t : Select} :
    compileLevels level nested (next :: rest) = .ok t ↔
      ∃ inner, checkAll .select level.projections = .ok ()
        ∧ compileLevels next true rest = .ok inner
        ∧ checkAll .filter level.filters = .ok ()
        ∧ level.paged nested (.derived (level.head nested) inner) = .ok t := by
  rw [compileLevels, check_bind_eq_ok_iff, bind_eq_ok_iff]
  simp only [check_bind_eq_ok_iff, exists_and_left]

/-- A query compiles when it has no fault and its levels compile. -/
theorem compile_eq_ok_iff {q : Query} {t : Select} :
    q.compile = .ok t ↔ q.problem? = none ∧ compileLevels q.outer false q.inner = .ok t := by
  rw [compile]
  cases q.problem? <;> simp

/-- The text of a query is the text of its statement. -/
theorem select_result_eq_ok_iff {q : Query} :
    q.select.result = .ok () ↔ ∃ t, q.compile = .ok t ∧ q.select.text = t.text := by
  rw [select]
  cases q.compile with
  | error e =>
      constructor
      · intro h
        cases h
      · rintro ⟨t, h, -⟩
        cases h
  | ok t => exact ⟨fun _ => ⟨t, rfl, rfl⟩, fun _ => rfl⟩

end Query

end EntitySql
