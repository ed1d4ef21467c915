import EntitySql.Database.Basic
import EntitySql.Text.Shortened
import EntitySql.Wire.Batch
import EntitySql.Wire.Decoding
/-!
# Servers

A server answers a batch with sets of rows and counts of rows, and may report an error behind
them. The rows of all sets become entities, column by column; a command that only writes is
answered the sum of all counts. Failures on the way name the command, shortened and without its
declarations.

The server here answers from a list, one answer for each batch, and what was sent to it is
remembered.

## Main definitions

* `Row`, `Row.entity`: a row and its entity.
* `ServerAnswer`: what a server answers to a batch.
* `Conversation`: the answers to come and what was sent.
* `Database.server`: the database behind a conversation.
-/

namespace EntitySql.Wire

open EntitySql.Text

/-! ### Rows -/

/-- The cells of a row with the names of their columns. -/
abbrev Row := List (String × Cell)

namespace Row

/-- The properties of a row, or the problem of the first cell that has one. -/
def properties : Row → Except CellProblem (List Property)
  | [] => .ok []
  | (name, cell) :: rest => do
      let v ← cell.value
      return ⟨name, v⟩ :: (← properties rest)

/-- The entity of a row. Cells are decoded before names are compared. -/
def entity (row : Row) : Except Failure Entity :=
  match row.properties with
  | .error problem => .error ⟨[], .cell problem⟩
  | .ok properties => (Entity.ofProperties properties).mapError .ofError

end Row

/-! ### Conversations -/

/-- What a server answers to a batch. -/
structure ServerAnswer where
  /-- The rows of each set. -/
  sets : List (List Row)
  /-- The numbers of rows written. -/
  affected : List Nat
  /-- The error behind the sets and the counts. -/
  error : Option ServerReport

/-- The answer without rows. -/
def ServerAnswer.empty : ServerAnswer :=
  ⟨[], [], none⟩

/-- What is sent for a command. -/
structure Request where
  text : String
  cells : List Cell

/-- The answers to the next requests, and the requests so far. -/
structure Conversation where
  answers : List ServerAnswer
  sent : List Request

/-- The failure that a server reports. -/
def ServerAnswer.failure (report : ServerReport) : Failure :=
  .ofError (.commandFailed report.text)

/-- The reply of an answer. -/
def ServerAnswer.reply (a : ServerAnswer) : Reply :=
  let rows : Reply := a.sets.flatten.map Row.entity
  match a.error with
  | some report => rows ++ [.error (failure report)]
  | none => rows

/-- The number of rows of an answer. -/
def ServerAnswer.count (a : ServerAnswer) : Except Failure Nat :=
  match a.error with
  | some report => .error (failure report)
  | none => .ok ((a.sets.map List.length ++ a.affected).foldr (· + ·) 0)

/-- The request of a command. -/
def request (command : TextQuery) : Except Failure Request :=
  match command.batch with
  | .error error => .error (.ofError error)
  | .ok batch =>
      match batch.cells? with
      | none => .error ⟨[], .cell .calendar⟩
      | some cells => .ok ⟨batch.text, cells⟩

/-- Sends a command and takes the next answer, unless the command has no request. -/
def exchange (command : TextQuery) : StateM Conversation (Except Failure ServerAnswer) := fun s =>
  match request command with
  | .error f => (.error f, s)
  | .ok r => (.ok (s.answers.headD .empty), ⟨s.answers.tail, s.sent ++ [r]⟩)

/-- The context of a failure of a command that reads. -/
def fetchContext (command : TextQuery) : String :=
  "While fetching the query:\n" ++ shortened command.command

/-- The context of a failure of a command that only writes. -/
def executeContext (command : TextQuery) : String :=
  "While executing the query:\n" ++ shortened command.command

/-- Runs a command that reads. -/
def fetch (command : TextQuery) : StateM Conversation Reply := do
  let reply : Reply := match ← exchange command with
    | .error f => [.error f]
    | .ok answer => answer.reply
  return reply.map (Except.mapError (Failure.within (fetchContext command)))

/-- Runs a command that only writes. -/
def execute (command : TextQuery) : StateM Conversation (Except Failure Nat) := do
  let count := (← exchange command).bind ServerAnswer.count
  return count.mapError (Failure.within (executeContext command))

end EntitySql.Wire

namespace EntitySql

/-- The database behind a conversation with a server. -/
def Database.server : Database Wire.Conversation where
  writer := .transactSql
  fetch := Wire.fetch
  execute := Wire.execute
  disconnect := return .ok ()

end EntitySql
