import EntitySql.Database.Basic
/-!
# Scripted databases

A scripted database answers commands from a script, one answer for each, and remembers the
commands. It writes statements like any other one, so what a client would send shows. A cell of an
answer may repeat what a command bound to a parameter, which stands for a row that was stored and
is read back.

## Main definitions

* `Answer`, `ScriptedCell`: an answer of the script.
* `Script`, `Script.ofAnswers`: the answers and the commands so far.
* `Database.scripted`: the database that answers from a script.
-/

namespace EntitySql

/-- A cell of an answer. -/
inductive ScriptedCell where
  | value (v : Value)
  /-- The value that the command of a number, counted from zero, bound to a parameter. -/
  | bound (command : Nat) (parameter : String)

/-- What a script answers to a command. -/
structure Answer where
  rows : List (List (String × ScriptedCell))
  /-- The number of rows that the command wrote. -/
  affected : Nat
  /-- A failure behind so many rows. -/
  failure : Option (Nat × DatabaseError)

/-- The answer without rows. -/
def Answer.empty : Answer :=
  ⟨[], 0, none⟩

/-- The answers to the commands from the first one on, and the commands so far. -/
structure Script where
  answers : List Answer
  executed : List TextQuery

namespace Script

/-- The script of answers, before any command. -/
def ofAnswers (answers : List Answer) : Script :=
  ⟨answers, []⟩

/-- The answer to the next command. -/
def answer (s : Script) : Answer :=
  (s.answers[s.executed.length]?).getD .empty

/-- The script with one more command. -/
def push (s : Script) (command : TextQuery) : Script :=
  { s with executed := s.executed ++ [command] }

/-- The value that commands bound to a parameter. -/
def boundValue (executed : List TextQuery) (command : Nat) (parameter : String) : Value :=
  match executed[command]? with
  | none => .null
  | some query =>
      match query.parameters.find? (·.bareName == bareName parameter) with
      | none => .null
      | some p => p.value

/-- The value of a cell. -/
def cellValue (executed : List TextQuery) : ScriptedCell → Value
  | .value v => v
  | .bound command parameter => boundValue executed command parameter

/-- The entity of a row, unless a name repeats. -/
def rowEntity (executed : List TextQuery) (row : List (String × ScriptedCell)) :
    Except Failure Entity :=
  (Entity.ofProperties (row.map fun (name, cell) => ⟨name, cellValue executed cell⟩)).mapError
    .ofError

/-- The rows of an answer with its failure. -/
def reply (executed : List TextQuery) (a : Answer) : Reply :=
  let rows := a.rows.map (rowEntity executed)
  match a.failure with
  | none => rows
  | some (count, error) => rows.take count ++ [.error (.ofError error)]

/-- The number of rows written of an answer, or its failure. -/
def count (a : Answer) : Except Failure Nat :=
  match a.failure with
  | none => .ok a.affected
  | some (_, error) => .error (.ofError error)

end Script

/-- The database that answers from a script. Ending the connection fails if the next answer
does. -/
def Database.scripted (writer : Writer) : Database Script where
  writer := writer
  fetch command := fun s =>
    (Script.reply (s.executed ++ [command]) s.answer, s.push command)
  execute command := fun s => (Script.count s.answer, s.push command)
  disconnect := fun s => ((Script.count s.answer).map fun _ => (), s)

end EntitySql
