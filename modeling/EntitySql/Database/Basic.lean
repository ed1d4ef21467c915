import EntitySql.Failure
import EntitySql.Statement.Change
import EntitySql.Statement.Compile
/-!
# Databases

A database runs commands. It answers one that reads with a list of rows, each of which may be a
failure instead, and one that only writes with a number of rows. What it has done so far is in
its state.

The operations on entities write a statement, run it as one command, and answer all or nothing:
the first failure among the rows is the answer, if there is one. A statement that cannot be
written is not run. The window columns of a query are taken out of the rows that it retrieves.

## Main definitions

* `Writer`, `Writer.transactSql`: how statements are written.
* `Reply`, `Reply.rows`, `Reply.first`: what a command that reads is answered.
* `Database`, with `create`, `update`, `delete`, `retrieve`, `retrieveText` and `runText`.
-/

namespace EntitySql

/-- How statements are written. -/
structure Writer where
  select : Query → Written Unit
  insert : Entity → TableName → Written (List Parameter)
  update : Entity → TableName → Written (List Parameter)
  delete : Entity → TableName → Written (List Parameter)

/-- How statements are written for SQL Server. -/
def Writer.transactSql : Writer where
  select := Query.select
  insert := Entity.writeInsert
  update := Entity.writeUpdate
  delete := Entity.writeDelete

/-! ### Replies -/

/-- The rows that a command is answered, each of which may be a failure instead. -/
abbrev Reply := List (Except Failure Entity)

namespace Reply

/-- All rows, or the first failure. -/
def rows : Reply → Except Failure (List Entity)
  | [] => .ok []
  | .error f :: _ => .error f
  | .ok e :: rest => (rows rest).map (e :: ·)

/-- The first row if there is one, or the first failure. -/
def first (r : Reply) : Except Failure (Option Entity) :=
  (rows r).map List.head?

end Reply

/-! ### Operations -/

/-- A database with what it has done so far in its state. -/
structure Database (σ : Type) where
  writer : Writer
  /-- Runs a command that reads. -/
  fetch : TextQuery → StateM σ Reply
  /-- Runs a command that only writes. -/
  execute : TextQuery → StateM σ (Except Failure Nat)
  /-- Ends the connection. -/
  disconnect : StateM σ (Except Failure Unit)

namespace Database

variable {σ α : Type}

/-- Runs what a writer has written, unless it stopped, and reads the reply. -/
def runWritten (db : Database σ) (w : Written (List Parameter))
    (read : Reply → Except Failure α) : StateM σ (Except Failure α) :=
  match w.result with
  | .error error => return .error (.ofError error)
  | .ok parameters => do return read (← db.fetch ⟨w.text, parameters⟩)

/-- Inserts an entity into a table and answers the row that was made. -/
def create (db : Database σ) (e : Entity) (table : TableName) :
    StateM σ (Except Failure (Option Entity)) :=
  db.runWritten (db.writer.insert e table) Reply.first

/-- Updates the row of an entity and answers what became of it. -/
def update (db : Database σ) (e : Entity) (table : TableName) :
    StateM σ (Except Failure (Option Entity)) :=
  db.runWritten (db.writer.update e table) Reply.first

/-- Deletes the row of an entity and answers what it was. -/
def delete (db : Database σ) (e : Entity) (table : TableName) :
    StateM σ (Except Failure (Option Entity)) :=
  db.runWritten (db.writer.delete e table) Reply.first

/-- An entity without the window columns of a query. -/
def withoutWindows (q : Query) (e : Entity) : Entity :=
  e.retain fun p => !q.rowLabels.contains p.name

/-- The rows of a query. -/
def retrieve (db : Database σ) (q : Query) : StateM σ (Except Failure (List Entity)) :=
  db.runWritten (do db.writer.select q; return q.allParameters) fun reply =>
    (Reply.rows reply).map (List.map (withoutWindows q))

/-- The rows of a command. -/
def retrieveText (db : Database σ) (command : TextQuery) :
    StateM σ (Except Failure (List Entity)) := do
  return Reply.rows (← db.fetch command)

/-- The number of rows that a command wrote. -/
def runText (db : Database σ) (command : TextQuery) : StateM σ (Except Failure Nat) :=
  db.execute command

end Database

end EntitySql
