import EntitySql.Proofs.Statement.Change
import EntitySql.Proofs.Statement.PrintedQuery
/-!
# Statements are printed whole or not at all

A printer that puts what a writer writes, and a writer that writes nothing before it stops, leave
the buffer as it was on every error. So it is for queries, which stop in buffers of their own. The
statements that change a table are printed to the buffer at once: an insertion, because nothing
stops it, and the others behind the checks that may.

## Main definitions

* `assignments`: properties with their placeholders.
* `Printer.Fails`, `Printer.Succeeds`: nothing, or a text that does not depend on the buffer.

## Main results

* `puts_printPlaceholders`: placeholders with the parameters that bind them.
* `Entity.puts_printInsert`, `Entity.puts_printUpdate`, `Entity.puts_printDelete`.
* `Entity.printUpdate_outcome`, `Entity.printDelete_outcome`: what they fail for.
* `statements_whole`: all statements.
-/

namespace EntitySql

open EntitySql.Text Printer

/-! ### Statements that change a table -/

/-- Each value has one placeholder. -/
theorem length_placeholders (c : Context) (values : List Value) :
    (c.placeholders values).1.length = values.length := by
  induction values generalizing c with
  | nil => rfl
  | cons v rest ih => rw [Context.placeholders, List.length_cons, List.length_cons, ih]

/-- The properties of a statement, each with its placeholder behind a text of its own. -/
def assignments (front : Property → String) (c : Context) (properties : List Property) : String :=
  joined ", " (List.zipWith (fun p q => front p ++ q.reference) properties
    (c.placeholders (properties.map Property.value)).1)

/-- The placeholder of a property stands in front of those of the others, with a comma if there
are any. -/
theorem assignments_cons (front : Property → String) (c : Context) (p : Property)
    (rest : List Property) :
    assignments front c (p :: rest)
      = front p ++ Parameter.reference ⟨"@" ++ natText c.next.1.toNat, p.value⟩
        ++ if rest.isEmpty then "" else ", " ++ assignments front c.next.2 rest := by
  cases rest with
  | nil => exact String.append_empty.symm
  | cons next rest => exact String.append_assoc

/-- Placeholders are put with commas between them, each behind a text of its property, and return
the parameters that bind them. -/
theorem puts_printPlaceholders (front : Property → String) (separator : String) (c : Context)
    (properties : List Property) :
    Puts (printPlaceholders front separator c properties)
      ⟨if properties.isEmpty then "" else separator ++ assignments front c properties,
        .ok (c.placeholders (properties.map Property.value)).1⟩ := by
  induction properties generalizing separator c with
  | nil => exact puts_pure _
  | cons p rest ih =>
      let parameter : Parameter := ⟨"@" ++ natText c.next.1.toNat, p.value⟩
      have others : Puts (do
            let parameters ← printPlaceholders front ", " c.next.2 rest
            return parameter :: parameters) _ :=
        (ih ", " c.next.2).andThen (puts_pure _)
      have whole := ((others.behind_put parameter.reference).behind_put (front p)).behind_put
        separator
      rw [assignments_cons]
      rw [String.append_empty] at whole
      simp only [List.isEmpty_cons, Bool.false_eq_true, if_false, String.append_assoc]
      exact whole

/-- Placeholders that stand in a statement are put as they are written. -/
theorem puts_assignments (front : Property → String) (c : Context) {properties : List Property}
    (some : properties.isEmpty = false) :
    Puts (printPlaceholders front "" c properties)
      ⟨assignments front c properties,
        .ok (c.placeholders (properties.map Property.value)).1⟩ := by
  have puts := puts_printPlaceholders front "" c properties
  rw [some, String.empty_append] at puts
  exact puts

/-- Placeholders with nothing in front of them are the references of their parameters. -/
theorem assignments_plain (c : Context) (properties : List Property) :
    assignments (fun _ => "") c properties
      = joined ", " ((c.placeholders (properties.map Property.value)).1.map
        Parameter.reference) := by
  have zipped (qs : List Parameter) (same : qs.length = properties.length) :
      List.zipWith (fun _ q => "" ++ q.reference) properties qs = qs.map Parameter.reference := by
    have seconds : (properties.zip qs).map Prod.snd = qs := List.map_snd_zip (Nat.le_of_eq same)
    rw [← congrArg (List.map Parameter.reference) seconds, List.map_map, List.zip,
      List.map_zipWith]
    simp only [String.empty_append, Function.comp_apply]
  rw [assignments, zipped _ (by rw [length_placeholders, List.length_map])]

/-- A column is never the empty text, so no separator is left out at it. -/
theorem columnText_ne_empty (table : TableName) (name : String) : columnText table name ≠ "" := by
  intro none
  have first := congrArg String.toList none
  rw [columnText, ColumnName.toList_bracketed] at first
  cases first

/-- The columns of an insertion are put with commas between them. -/
theorem puts_columns (table : TableName) (columns : List Property) :
    Puts (separated ", " (fun p => put (columnText table p.name)) columns)
      (.write (joined ", " (columns.map fun p => columnText table p.name))) := by
  have some : ∀ text ∈ columns.map (fun p => columnText table p.name), text ≠ "" := by
    intro text member
    obtain ⟨p, -, rfl⟩ := List.mem_map.mp member
    exact columnText_ne_empty table p.name
  have columns := delivers_separated_put ", " (fun p : Property => columnText table p.name) columns
  rw [separated_eq_joined some] at columns
  exact delivers_ok_iff.mp columns

namespace Entity

/-- An insertion is put as it is written. -/
theorem puts_printInsert (e : Entity) (table : TableName) :
    Puts (e.printInsert table) (e.writeInsert table) := by
  rw [printInsert, writeInsert]
  cases some : e.insertColumns.isEmpty with
  | true =>
      have whole := ((puts_last " OUTPUT INSERTED.* DEFAULT VALUES"
        ([] : List Parameter)).behind_put table.bracketed).behind_put "INSERT INTO "
      simp only [↓reduceIte, Written.write_bind, String.append_assoc, Written.pure_text,
        Written.pure_result, String.append_empty]
      exact whole
  | false =>
      have parameters : Puts (do
            let parameters ← printPlaceholders (fun _ => "") ""
              ((Context.new .insertInto 0).enter .insertValues) e.insertColumns
            put ")"
            return parameters) _ :=
        (puts_assignments _ _ some).andThen (puts_last ")" _)
      have columns := (parameters.behind_put ") OUTPUT INSERTED.* VALUES(").behind
        (puts_columns table e.insertColumns)
      have whole := ((columns.behind_put " (").behind_put table.bracketed).behind_put
        "INSERT INTO "
      rw [assignments_plain] at whole
      simp only [Bool.false_eq_true, if_false, Context.within, Written.write_bind,
        String.append_assoc, Written.pure_text, Written.pure_result, String.append_empty]
      exact whole

/-- An update is put as it is written. -/
theorem puts_printUpdate (e : Entity) (table : TableName) :
    Puts (e.printUpdate table) (e.writeUpdate table) := by
  rw [printUpdate, writeUpdate]
  cases e.keyParameter with
  | error error => exact puts_throw _
  | ok key =>
      cases some : e.updateColumns.isEmpty with
      | true =>
          simp only [some, if_true]
          exact puts_throw _
      | false =>
          have parameters : Puts (do
                let parameters ← printPlaceholders (fun p => columnText table p.name ++ "=") ""
                  (Context.new .updateSet 0) e.updateColumns
                put " OUTPUT INSERTED.* WHERE "
                put (keyCondition table key)
                return parameters ++ [key]) _ :=
            (puts_assignments _ _ some).andThen
              ((puts_last (keyCondition table key) _).behind_put " OUTPUT INSERTED.* WHERE ")
          have whole := ((parameters.behind_put " SET ").behind_put table.bracketed).behind_put
            "UPDATE "
          simp only [assignments, String.append_assoc] at whole
          simp only [some, Bool.false_eq_true, if_false, Written.write_bind, String.append_assoc,
            Written.pure_text, Written.pure_result, String.append_empty]
          exact whole

/-- A deletion is put as it is written. -/
theorem puts_printDelete (e : Entity) (table : TableName) :
    Puts (e.printDelete table) (e.writeDelete table) := by
  rw [printDelete, writeDelete]
  cases e.keyParameter with
  | error error => exact puts_throw _
  | ok key =>
      have whole := (((puts_last (keyCondition table key) [key]).behind_put
        " OUTPUT DELETED.* WHERE ").behind_put table.bracketed).behind_put "DELETE FROM "
      simp only [Written.write_bind, String.append_assoc, Written.pure_text, Written.pure_result,
        String.append_empty]
      exact whole

end Entity

/-! ### The whole statement or nothing -/

namespace Printer

variable {α : Type}

/-- A printer fails if it stops at an error and leaves every buffer as it was. -/
def Fails (p : Printer α) (error : DatabaseError) : Prop :=
  ∀ buffer, p.run buffer = .error error buffer

/-- A printer appends a text if it puts it behind every buffer, whatever this holds. -/
def Appends (p : Printer α) (a : α) (text : String) : Prop :=
  ∀ buffer, p.run buffer = .ok a (buffer ++ text)

/-- A printer **succeeds** if it appends a text. -/
def Succeeds (p : Printer α) : Prop :=
  ∃ a text, p.Appends a text

/-- A printer that puts an error fails with it on every buffer. -/
theorem Puts.fails {p : Printer α} {error : DatabaseError} (puts : Puts p (.stop error)) :
    p.Fails error :=
  fun buffer => (puts buffer).trans (puts_throw error buffer).symm

/-- A printer that puts a result succeeds on every buffer. -/
theorem Puts.succeeds {p : Printer α} {w : Written α} {a : α} (puts : Puts p w)
    (written : w.result = .ok a) : p.Succeeds := by
  refine ⟨a, w.text, fun buffer => ?_⟩
  rw [puts buffer, Written.leave, written]
  rfl

/-- A printer that fails does so with one error, and does not succeed. -/
theorem Fails.eq {p : Printer α} {error error' : DatabaseError} (fails : p.Fails error)
    (other : p.Fails error') : error = error' := by
  have same := (fails "").symm.trans (other "")
  cases same
  rfl

/-- A printer does not fail and succeed at once. -/
theorem Fails.not_succeeds {p : Printer α} {error : DatabaseError} (fails : p.Fails error) :
    ¬ p.Succeeds := by
  rintro ⟨a, text, appends⟩
  cases (fails "").symm.trans (appends "")

end Printer

/-- A query fails or succeeds. -/
theorem Query.print_fails_or_succeeds (q : Query) :
    (∃ error, q.print.Fails error) ∨ q.print.Succeeds := by
  have puts := q.puts_print
  rw [select] at puts
  cases compiled : q.compile with
  | error error =>
      rw [compiled] at puts
      exact .inl ⟨error, puts.fails⟩
  | ok s =>
      rw [compiled] at puts
      exact .inr (puts.succeeds rfl)

namespace Entity

variable {e : Entity} {table : TableName}

/-- Without a key property there is no key, and the failure names the column. -/
theorem keyParameter_of_absent (absent : e.get? keyColumn = none) :
    e.keyParameter = .error (.keyNotFound keyColumn) := by
  rw [keyParameter, value, absent]
  rfl

/-- There is nothing to update if all properties are the identity and the key column. -/
theorem updateColumns_eq_nil_iff :
    e.updateColumns = [] ↔
      ∀ p ∈ e.properties, p.name = identityColumn ∨ p.name = keyColumn := by
  simp only [updateColumns, List.filter_eq_nil_iff, Bool.and_eq_true, bne_iff_ne, ne_eq, not_and,
    not_not, or_iff_not_imp_left]

/-- An update fails for want of a key, or else of something to update, and succeeds otherwise. -/
theorem printUpdate_outcome (e : Entity) (table : TableName) :
    ((e.printUpdate table).Fails (.keyNotFound keyColumn) ↔ e.get? keyColumn = none)
      ∧ ((e.printUpdate table).Fails (.invalidQuery (.nothingToUpdate table)) ↔
        e.get? keyColumn ≠ none ∧ e.updateColumns = [])
      ∧ ((e.printUpdate table).Succeeds ↔ e.get? keyColumn ≠ none ∧ e.updateColumns ≠ []) := by
  have puts := e.puts_printUpdate table
  cases key : e.get? keyColumn with
  | none =>
      rw [writeUpdate, keyParameter_of_absent key] at puts
      have fails := puts.fails
      refine ⟨iff_of_true fails rfl, iff_of_false (fun other => ?_) (fun h => h.1 rfl),
        iff_of_false fails.not_succeeds (fun h => h.1 rfl)⟩
      cases fails.eq other
  | some v =>
      by_cases bare : e.updateColumns = []
      · rw [writeUpdate, keyParameter_eq_ok_iff.mpr ⟨v, key, rfl⟩, bare] at puts
        have fails : (e.printUpdate table).Fails _ := puts.fails
        refine ⟨iff_of_false (fun other => ?_) (by simp), iff_of_true fails ⟨by simp, bare⟩,
          iff_of_false fails.not_succeeds fun h => h.2 bare⟩
        cases fails.eq other
      · obtain ⟨parameters, written⟩ := exists_writeUpdate_eq_ok key bare table
        have succeeds := puts.succeeds written
        exact ⟨iff_of_false (fun fails => fails.not_succeeds succeeds) (by simp),
          iff_of_false (fun fails => fails.not_succeeds succeeds) fun h => bare h.2,
          iff_of_true succeeds ⟨by simp, bare⟩⟩

/-- A deletion fails for want of a key, and succeeds otherwise. -/
theorem printDelete_outcome (e : Entity) (table : TableName) :
    ((e.printDelete table).Fails (.keyNotFound keyColumn) ↔ e.get? keyColumn = none)
      ∧ ((e.printDelete table).Succeeds ↔ e.get? keyColumn ≠ none) := by
  have puts := e.puts_printDelete table
  rw [writeDelete] at puts
  cases key : e.get? keyColumn with
  | none =>
      rw [keyParameter_of_absent key] at puts
      have fails := puts.fails
      exact ⟨iff_of_true fails rfl, iff_of_false fails.not_succeeds (fun h => h rfl)⟩
  | some v =>
      rw [keyParameter_eq_ok_iff.mpr ⟨v, key, rfl⟩] at puts
      have succeeds : (e.printDelete table).Succeeds := puts.succeeds rfl
      exact ⟨iff_of_false (fun fails => fails.not_succeeds succeeds) (by simp),
        iff_of_true succeeds (by simp)⟩

end Entity

/-- **Statements are printed whole or not at all.** Every query either fails, at whatever depth and
in whatever clause or partition, and leaves every buffer as it was, or puts one text behind every
buffer, whatever this holds. An insertion always succeeds. An update fails for want of a key, which
is seen first, or for want of anything else to update, and a deletion fails for want of a key only.
What is printed is what is written. -/
theorem statements_whole :
    (∀ q : Query, q.print.Puts q.select ∧ ((∃ error, q.print.Fails error) ∨ q.print.Succeeds))
      ∧ ∀ (e : Entity) (table : TableName),
        ((e.printInsert table).Puts (e.writeInsert table) ∧ (e.printInsert table).Succeeds)
        ∧ ((e.printUpdate table).Puts (e.writeUpdate table)
          ∧ ((e.printUpdate table).Fails (.keyNotFound "UId") ↔ e.get? "UId" = none)
          ∧ ((e.printUpdate table).Fails (.invalidQuery (.nothingToUpdate table)) ↔
            e.get? "UId" ≠ none ∧ ∀ p ∈ e.properties, p.name = "Id" ∨ p.name = "UId")
          ∧ ((e.printUpdate table).Succeeds ↔
            e.get? "UId" ≠ none ∧ ∃ p ∈ e.properties, p.name ≠ "Id" ∧ p.name ≠ "UId"))
        ∧ ((e.printDelete table).Puts (e.writeDelete table)
          ∧ ((e.printDelete table).Fails (.keyNotFound "UId") ↔ e.get? "UId" = none)
          ∧ ((e.printDelete table).Succeeds ↔ e.get? "UId" ≠ none)) := by
  refine ⟨fun q => ⟨q.puts_print, q.print_fails_or_succeeds⟩, fun e table => ⟨?insert, ?update,
    e.puts_printDelete table, e.printDelete_outcome table⟩⟩
  case insert =>
    have puts := e.puts_printInsert table
    have written : (e.writeInsert table).result = _ :=
      congrArg Written.result (e.writeInsert_eq table)
    exact ⟨puts, puts.succeeds written⟩
  case update =>
    obtain ⟨keyless, bare, succeeds⟩ := e.printUpdate_outcome table
    have others : e.updateColumns ≠ [] ↔
        ∃ p ∈ e.properties, p.name ≠ "Id" ∧ p.name ≠ "UId" := by
      rw [ne_eq, Entity.updateColumns_eq_nil_iff]
      simp only [not_forall, not_or, exists_prop, identityColumn, keyColumn, ne_eq]
    rw [Entity.updateColumns_eq_nil_iff] at bare
    rw [others] at succeeds
    exact ⟨e.puts_printUpdate table, keyless, bare, succeeds⟩

end EntitySql
