import EntitySql.Database.Basic
/-!
# One command, all or nothing

An operation on entities writes one statement. If that cannot be written, its error is the answer
and nothing is run. Otherwise it is the only command that is run, with the parameters that go with
it, and the reply decides: a failure anywhere in it, even behind good rows, is the answer, the first
one if there are several; without a failure the answer is made of all rows. To say what is run, a
database is observed by one that remembers the commands, whatever else its state is.

## Main definitions

* `Database.recording`: a database that remembers the commands it ran.
* `AllOrNothing`: an operation that runs a command at most once and answers all or nothing.
* `Database.Operation`, `Database.after`: the operations on entities and the states behind them.

## Main results

* `Reply.eq_map_ok_or_exists_failure`, `Reply.rows_map_ok`, `Reply.rows_failure`: a reply is all
  rows or has a first failure.
* `Database.runWritten_recording`: to remember the commands changes nothing else.
* `Database.allOrNothing_runWritten`: what is written is run once and answered all or nothing.
* `Database.operations_allOrNothing`: so is each operation on entities.
* `Database.log_foldl_after`: operations run one command each, in order, if it can be written.
-/

namespace EntitySql

variable {σ α : Type}

/-! ### Replies -/

namespace Reply

/-- A reply is rows only, or has a first failure behind some rows. -/
theorem eq_map_ok_or_exists_failure (reply : Reply) :
    (∃ rows : List Entity, reply = rows.map .ok)
      ∨ ∃ (rows : List Entity) (failure : Failure) (behind : Reply),
        reply = rows.map .ok ++ .error failure :: behind := by
  induction reply with
  | nil => exact .inl ⟨[], rfl⟩
  | cons row rest ih =>
      cases row with
      | error failure => exact .inr ⟨[], failure, rest, rfl⟩
      | ok e =>
          rcases ih with ⟨rows, rfl⟩ | ⟨rows, failure, behind, rfl⟩
          · exact .inl ⟨e :: rows, rfl⟩
          · exact .inr ⟨e :: rows, failure, behind, rfl⟩

/-- All rows are read. -/
theorem rows_map_ok (entities : List Entity) : rows (entities.map .ok) = .ok entities := by
  induction entities with
  | nil => rfl
  | cons e rest ih => rw [List.map_cons, rows, ih, Except.map]

/-- The first failure is read instead, whatever stands in front of it and behind it. -/
theorem rows_failure (entities : List Entity) (failure : Failure) (behind : Reply) :
    rows (entities.map .ok ++ .error failure :: behind) = .error failure := by
  induction entities with
  | nil => rfl
  | cons e rest ih => rw [List.map_cons, List.cons_append, rows, ih, Except.map]

end Reply

/-! ### Commands -/

/-- The command of a statement with its parameters, unless it cannot be written. -/
def Written.command (w : Written (List Parameter)) : Except DatabaseError TextQuery :=
  w.result.map fun parameters => ⟨w.text, parameters⟩

/-- A database that remembers the commands it ran. -/
def Database.recording (db : Database σ) : Database (σ × List TextQuery) where
  writer := db.writer
  fetch command := fun (s, log) =>
    ((db.fetch command s).1, (db.fetch command s).2, log ++ [command])
  execute command := fun (s, log) =>
    ((db.execute command s).1, (db.execute command s).2, log ++ [command])
  disconnect := fun (s, log) => ((db.disconnect s).1, (db.disconnect s).2, log)

/-- An operation of a recorded database that runs its command at most once and answers all or
nothing: what it makes of all rows of the reply. -/
structure AllOrNothing (db : Database σ) (command : Except DatabaseError TextQuery)
    (answer : List Entity → α) (run : StateM (σ × List TextQuery) (Except Failure α)) : Prop where
  /-- What cannot be written is not run, and its error is the answer. -/
  refused : ∀ error, command = .error error → ∀ s log,
    run (s, log) = (.error (.ofError error), s, log)
  /-- What is written is run once, and nothing else is. -/
  ran : ∀ written, command = .ok written → ∀ s log,
    (run (s, log)).2 = ((db.fetch written s).2, log ++ [written])
  /-- A failure behind any rows is the answer. -/
  failed : ∀ written, command = .ok written → ∀ s log (rows : List Entity) failure behind,
    (db.fetch written s).1 = rows.map .ok ++ .error failure :: behind →
    (run (s, log)).1 = .error failure
  /-- Without a failure all rows are answered. -/
  answered : ∀ written, command = .ok written → ∀ s log (rows : List Entity),
    (db.fetch written s).1 = rows.map .ok → (run (s, log)).1 = .ok (answer rows)

/-- At most one command is remembered more. -/
theorem AllOrNothing.log_eq {db : Database σ} {command : Except DatabaseError TextQuery}
    {answer : List Entity → α} {run : StateM (σ × List TextQuery) (Except Failure α)}
    (h : AllOrNothing db command answer run) (s : σ) (log : List TextQuery) :
    (run (s, log)).2.2 = log ++ command.toOption.toList := by
  cases written : command with
  | error error =>
      rw [h.refused error written]
      exact (List.append_nil log).symm
  | ok text =>
      rw [h.ran text written]
      rfl

namespace Database

/-- To remember the commands changes nothing else. -/
theorem runWritten_recording (db : Database σ) (w : Written (List Parameter))
    (read : Reply → Except Failure α) (s : σ) (log : List TextQuery) :
    (db.recording.runWritten w read (s, log)).1 = (db.runWritten w read s).1
      ∧ (db.recording.runWritten w read (s, log)).2.1 = (db.runWritten w read s).2 := by
  rw [runWritten, runWritten]
  cases w.result <;> exact ⟨rfl, rfl⟩

/-- **What is written is run once and answered all or nothing.** -/
theorem allOrNothing_runWritten (db : Database σ) (w : Written (List Parameter))
    (answer : List Entity → α) : AllOrNothing db w.command answer
      (db.recording.runWritten w fun reply => (Reply.rows reply).map answer) := by
  cases result : w.result with
  | error error =>
      have command : w.command = .error error := by rw [Written.command, result, Except.map]
      have run (s : σ) (log : List TextQuery) :
          db.recording.runWritten w (fun reply => (Reply.rows reply).map answer) (s, log)
            = (.error (.ofError error), s, log) := by
        rw [runWritten, result]
        rfl
      refine ⟨fun error' same s log => ?_, fun _ same => ?_, fun _ same => ?_, fun _ same => ?_⟩
      · obtain rfl := Except.error.inj (command.symm.trans same)
        exact run s log
      all_goals cases command.symm.trans same
  | ok parameters =>
      have command : w.command = .ok ⟨w.text, parameters⟩ := by
        rw [Written.command, result, Except.map]
      have run (s : σ) (log : List TextQuery) :
          db.recording.runWritten w (fun reply => (Reply.rows reply).map answer) (s, log)
            = ((Reply.rows (db.fetch ⟨w.text, parameters⟩ s).1).map answer,
              (db.fetch ⟨w.text, parameters⟩ s).2, log ++ [⟨w.text, parameters⟩]) := by
        rw [runWritten, result]
        rfl
      constructor
      case refused =>
        intro error same
        cases command.symm.trans same
      case ran =>
        intro written same s log
        obtain rfl := Except.ok.inj (command.symm.trans same)
        rw [run]
      case failed =>
        intro written same s log rows failure behind reply
        obtain rfl := Except.ok.inj (command.symm.trans same)
        rw [run, reply, Reply.rows_failure, Except.map]
      case answered =>
        intro written same s log rows reply
        obtain rfl := Except.ok.inj (command.symm.trans same)
        rw [run, reply, Reply.rows_map_ok, Except.map]

/-- The text of a query is written with all parameters of the query. -/
theorem command_select (w : Writer) (q : Query) :
    (do w.select q; return q.allParameters : Written (List Parameter)).command
      = (w.select q).result.map fun _ => ⟨(w.select q).text, q.allParameters⟩ := by
  cases result : (w.select q).result with
  | error error =>
      rw [Written.bind_error result]
      rfl
  | ok _ =>
      rw [Written.command, Written.text_bind_ok result, Written.result_bind_ok result,
        Written.pure_text, Written.pure_result, String.append_empty]
      rfl

/-- A query is run once and answered all or nothing, without its window columns. -/
theorem allOrNothing_retrieve (db : Database σ) (q : Query) : AllOrNothing db
    ((db.writer.select q).result.map fun _ => ⟨(db.writer.select q).text, q.allParameters⟩)
    (List.map (withoutWindows q)) (db.recording.retrieve q) := by
  rw [← command_select]
  exact db.allOrNothing_runWritten _ _

/-- **The operations on entities run at most one command and answer all or nothing.** Inserting,
updating and deleting answer the first row, if there is one; a query answers all rows without its
window columns, and their other properties as they are. -/
theorem operations_allOrNothing (db : Database σ) :
    (∀ e table, AllOrNothing db (db.writer.insert e table).command List.head?
        (db.recording.create e table))
      ∧ (∀ e table, AllOrNothing db (db.writer.update e table).command List.head?
        (db.recording.update e table))
      ∧ (∀ e table, AllOrNothing db (db.writer.delete e table).command List.head?
        (db.recording.delete e table))
      ∧ (∀ q, AllOrNothing db
        ((db.writer.select q).result.map fun _ => ⟨(db.writer.select q).text, q.allParameters⟩)
        (List.map (withoutWindows q)) (db.recording.retrieve q))
      ∧ (∀ q e, (withoutWindows q e).properties
        = e.properties.filter fun p => p.name ∉ q.rowLabels)
      ∧ ∀ reply : Reply, (∃ rows : List Entity, reply = rows.map .ok)
        ∨ ∃ (rows : List Entity) (failure : Failure) (behind : Reply),
          reply = rows.map .ok ++ .error failure :: behind := by
  refine ⟨fun e table => db.allOrNothing_runWritten _ List.head?,
    fun e table => db.allOrNothing_runWritten _ List.head?,
    fun e table => db.allOrNothing_runWritten _ List.head?, db.allOrNothing_retrieve, fun q e => ?_,
    Reply.eq_map_ok_or_exists_failure⟩
  simp [withoutWindows, Entity.retain]

/-! ### Several operations -/

/-- An operation on entities. -/
inductive Operation where
  | create (e : Entity) (table : TableName)
  | update (e : Entity) (table : TableName)
  | delete (e : Entity) (table : TableName)
  | retrieve (q : Query)

/-- The command of an operation, unless it cannot be written. -/
def Operation.command (w : Writer) : Operation → Except DatabaseError TextQuery
  | create e table => (w.insert e table).command
  | update e table => (w.update e table).command
  | delete e table => (w.delete e table).command
  | retrieve q => (w.select q).result.map fun _ => ⟨(w.select q).text, q.allParameters⟩

/-- What an operation makes of the state of a database. -/
def after (db : Database σ) (s : σ) : Operation → σ
  | .create e table => (db.create e table s).2
  | .update e table => (db.update e table s).2
  | .delete e table => (db.delete e table s).2
  | .retrieve q => (db.retrieve q s).2

/-- An operation adds its command to those that were run. -/
theorem log_after (db : Database σ) (s : σ) (log : List TextQuery) (operation : Operation) :
    (db.recording.after (s, log) operation).2
      = log ++ (operation.command db.writer).toOption.toList := by
  cases operation with
  | create e table => exact (db.allOrNothing_runWritten _ List.head?).log_eq s log
  | update e table => exact (db.allOrNothing_runWritten _ List.head?).log_eq s log
  | delete e table => exact (db.allOrNothing_runWritten _ List.head?).log_eq s log
  | retrieve q => exact (db.allOrNothing_retrieve q).log_eq s log

/-- **Operations run the commands that can be written**, one each, in order. -/
theorem log_foldl_after (db : Database σ) (operations : List Operation) (s : σ)
    (log : List TextQuery) : (operations.foldl db.recording.after (s, log)).2
      = log ++ operations.filterMap fun operation => (operation.command db.writer).toOption := by
  induction operations generalizing s log with
  | nil => exact (List.append_nil log).symm
  | cons operation rest ih =>
      obtain ⟨s', log', next⟩ : ∃ s' log', db.recording.after (s, log) operation = (s', log') :=
        ⟨_, _, rfl⟩
      have step := log_after db s log operation
      rw [next] at step
      obtain rfl : log' = log ++ (operation.command db.writer).toOption.toList := step
      rw [List.foldl_cons, next, ih]
      cases command : (operation.command db.writer).toOption <;> simp [command]

end Database

end EntitySql
