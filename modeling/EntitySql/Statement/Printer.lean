import EntitySql.Statement.Change
import EntitySql.Statement.Compile
/-!
# Printing into a buffer

A printer puts text behind what a buffer holds already, whatever that is, and may stop at an error.
What it has put there by then stays. Whether a separator is due is seen from the buffer itself,
which has grown if the last piece wrote something.

So a statement that may turn out to be impossible on the way is put together in buffers of its own:
each level of a query has one for its sorts and one for its clauses, and each row count has one.
Only a whole level goes to the buffer of the level around it. The statements that change a table
are checked first and then go to the buffer at once.

## Main definitions

* `Printer`, with `Printer.put`, `Printer.apart` and `Printer.separated`.
* `Expression.print`: the only printer here that stops with text behind it.
* `TextFrame`: a frame that partitions fill, with its parts as texts.
* `Level.print`, `Query.print`: levels in buffers of their own.
* `Entity.printInsert`, `Entity.printUpdate`, `Entity.printDelete`.
-/

namespace EntitySql

open EntitySql.Text

/-- A printer into a buffer. -/
abbrev Printer := EStateM DatabaseError String

namespace Printer

variable {α : Type}

/-- Text behind the buffer. -/
def put (s : String) : Printer Unit :=
  modify fun buffer => buffer ++ s

/-- What a printer puts into a buffer of its own, which is given up if the printer stops. -/
def apart (p : Printer Unit) : Printer String := fun buffer =>
  match p.run "" with
  | .ok () text => .ok text buffer
  | .error error _ => .error error buffer

/-- Pieces one after the other, with a separator where the buffer is larger than before the last
piece. -/
def separatedFrom (separator : String) (piece : α → Printer Unit) :
    (size : Nat) → List α → Printer Unit
  | _, [] => pure ()
  | size, a :: rest => do
      let buffer ← get
      put (if size < buffer.utf8ByteSize then separator else "")
      let buffer ← get
      piece a
      separatedFrom separator piece buffer.utf8ByteSize rest

/-- Pieces one after the other, with a separator behind each that wrote something. -/
def separated (separator : String) (piece : α → Printer Unit) (values : List α) :
    Printer Unit := do
  let buffer ← get
  separatedFrom separator piece buffer.utf8ByteSize values

end Printer

open Printer

/-! ### Expressions -/

/-- Prints an expression from left to right. -/
def Expression.print (dialect : Dialect) (fragment : Fragment) : Expression → Printer Unit
  | .column c => put c.bracketed
  | .sortKey k => put k.text
  | .constant v => put v.literal
  | .parameter p => put p.reference
  | .binary op l r =>
      match dialect op with
      | none => throw (.unknownOperator op)
      | some rendering => do
          put rendering.before
          l.print dialect fragment
          put rendering.between
          r.print dialect fragment
          put rendering.behind
  | .paging op | .pagingBy op _ => throw (.misplacedPaging op fragment)

/-! ### Frames -/

/-- A frame of a level that is being filled, with its parts as texts. -/
structure TextFrame where
  index : UInt32
  nested : Bool
  inner : String
  top : Option String
  skip : Option String
  selected : Bool
  descending : Bool

namespace TextFrame

/-- An empty frame around a statement. -/
def around (index : UInt32) (nested : Bool) (inner : String) : TextFrame :=
  ⟨index, nested, inner, none, none, false, false⟩

/-- The text of a frame. -/
def text (f : TextFrame) : String :=
  let limit := match f.top with
    | some count => "SELECT TOP " ++ count ++ " "
    | none => if f.selected then "SELECT " else ""
  let condition := match f.skip with
    | some count => " WHERE " ++ rowLabel f.index ++ " > " ++ count
    | none => ""
  let order :=
    if f.descending then " ORDER BY " ++ rowLabel f.index ++ " DESC"
    else if f.top.isSome || !f.nested then " ORDER BY " ++ rowLabel f.index
    else ""
  limit ++ "* FROM (" ++ f.inner ++ ") AS P" ++ natText f.index.toNat ++ condition ++ order

/-- The frame itself if it has no row limit, else an empty frame around its text. -/
def unlimited (f : TextFrame) : TextFrame :=
  if f.top.isSome then around f.index f.nested f.text else f

/-- The frame with a row limit. -/
def limit (count : String) (f : TextFrame) : TextFrame :=
  { f.unlimited with top := some count }

/-- The frame with rows left out at the front; counts of rows to leave out add up. -/
def leaveOut (count : String) (f : TextFrame) : TextFrame :=
  let f := f.unlimited
  { f with skip := some (match f.skip with
      | some previous => "(" ++ previous ++ " + " ++ count ++ ")"
      | none => count) }

/-- The text of the row count of a partition that needs one. -/
def countOf (p : Partition) : Printer String :=
  match p.count with
  | none => throw (.missingCount p.operator)
  | some count => apart (count.print .transactSql .partition)

/-- The text of a row limit: a constant stands as it is, everything else in parentheses. -/
def limitText (p : Partition) (count : String) : String :=
  match p.count with
  | some (.constant _) => count
  | _ => "(" ++ count ++ ")"

/-- A partition applied to a frame. -/
def apply (f : TextFrame) (p : Partition) : Printer TextFrame :=
  match p.operator with
  | .first | .firstOrDefault => return f.limit "1"
  | .last | .lastOrDefault => return { f.limit "1" with descending := true }
  | .single | .singleOrDefault => return { f with selected := true }
  | .take => do
      let count ← countOf p
      return f.limit (limitText p count)
  | .skip => do
      let count ← countOf p
      return f.leaveOut count

/-- Partitions applied one after the other. -/
def applyAll : TextFrame → List Partition → Printer TextFrame
  | f, [] => return f
  | f, p :: rest => do
      let f ← f.apply p
      applyAll f rest

end TextFrame

/-! ### Levels -/

namespace Level

/-- Prints the sorts of a level behind the words that introduce them. -/
def printSorts (level : Level) : Printer Unit :=
  if level.sorts.isEmpty then pure ()
  else do
    put "ORDER BY "
    separated ", " (fun key => put key.text) level.sorts

/-- Prints the projections of a level, or the mark for all columns. -/
def printProjections (level : Level) : Printer Unit :=
  if level.projections.isEmpty then put "*"
  else separated ", " (Expression.print .transactSql .select) level.projections

/-- Prints a condition in parentheses. -/
def printCondition (condition : Expression) : Printer Unit := do
  put "("
  condition.print .transactSql .filter
  put ")"

/-- Prints the conditions of a level behind the word that introduces them. -/
def printFilters (level : Level) : Printer Unit :=
  if level.filters.isEmpty then pure ()
  else do
    put " WHERE "
    separated " AND " printCondition level.filters

/-- Prints the clauses of a level, given the text of its sorts and a printer of its source. -/
def printClauses (level : Level) (nested : Bool) (sorts : String) (source : Printer Unit) :
    Printer Unit := do
  put "SELECT ROW_NUMBER() OVER("
  put (if sorts.isEmpty then "ORDER BY Id" else sorts)
  put (") AS " ++ rowLabel level.index ++ ", ")
  level.printProjections
  put " FROM "
  source
  level.printFilters
  put (if !sorts.isEmpty && !nested && level.partitions.isEmpty then " " ++ sorts else "")

/-- Prints the text of a level in the frames that its partitions fill. -/
def printPaged (level : Level) (nested : Bool) (text : String) : Printer Unit :=
  if level.partitions.isEmpty then put text
  else do
    let f ← TextFrame.applyAll (.around level.index nested text) level.partitions
    put f.text

/-- Prints a level, put together apart from the buffer. -/
def print (level : Level) (nested : Bool) (source : Printer Unit) : Printer Unit := do
  let sorts ← apart level.printSorts
  let text ← apart (level.printClauses nested sorts source)
  level.printPaged nested text

end Level

namespace Query

/-- Prints a level and the levels inside it, each as the source of the one around it. -/
def printLevels (level : Level) (nested : Bool) : List Level → Printer Unit
  | [] => level.print nested (put (joined ", " (level.tables.map TableName.bracketed)))
  | next :: rest => level.print nested do
      put "("
      printLevels next true rest
      put (") AS F" ++ natText level.index.toNat)

/-- Prints the statement of a query. -/
def print (q : Query) : Printer Unit :=
  match q.problem? with
  | some problem => throw (.invalidQuery (.query problem))
  | none => printLevels q.outer false q.inner

end Query

/-! ### Statements that change a table -/

/-- Prints placeholders for the values of properties, each behind a text of its own and the others
behind commas, and returns the parameters that bind them. -/
def printPlaceholders (front : Property → String) :
    (separator : String) → Context → List Property → Printer (List Parameter)
  | _, _, [] => return []
  | separator, c, p :: rest => do
      let parameter : Parameter := ⟨"@" ++ natText c.next.1.toNat, p.value⟩
      put separator
      put (front p)
      put parameter.reference
      let parameters ← printPlaceholders front ", " c.next.2 rest
      return parameter :: parameters

namespace Entity

/-- Prints the statement that inserts an entity into a table. -/
def printInsert (e : Entity) (table : TableName) : Printer (List Parameter) := do
  put "INSERT INTO "
  put table.bracketed
  if e.insertColumns.isEmpty then do
    put " OUTPUT INSERTED.* DEFAULT VALUES"
    return []
  else do
    put " ("
    separated ", " (fun p => put (columnText table p.name)) e.insertColumns
    put ") OUTPUT INSERTED.* VALUES("
    let parameters ← printPlaceholders (fun _ => "") ""
      ((Context.new .insertInto 0).enter .insertValues) e.insertColumns
    put ")"
    return parameters

/-- Prints the statement that updates the row of an entity. -/
def printUpdate (e : Entity) (table : TableName) : Printer (List Parameter) :=
  match e.keyParameter with
  | .error error => throw error
  | .ok key =>
      if e.updateColumns.isEmpty then throw (.invalidQuery (.nothingToUpdate table))
      else do
        put "UPDATE "
        put table.bracketed
        put " SET "
        let parameters ← printPlaceholders (fun p => columnText table p.name ++ "=") ""
          (Context.new .updateSet 0) e.updateColumns
        put " OUTPUT INSERTED.* WHERE "
        put (keyCondition table key)
        return parameters ++ [key]

/-- Prints the statement that deletes the row of an entity. -/
def printDelete (e : Entity) (table : TableName) : Printer (List Parameter) :=
  match e.keyParameter with
  | .error error => throw error
  | .ok key => do
      put "DELETE FROM "
      put table.bracketed
      put " OUTPUT DELETED.* WHERE "
      put (keyCondition table key)
      return [key]

end Entity

end EntitySql
