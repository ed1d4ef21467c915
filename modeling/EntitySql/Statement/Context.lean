import EntitySql.Statement.Fragment
/-!
# Writing contexts

A context goes along while a statement is written: it hands out ordinals for placeholders and
knows the fragment and the level being written. A scope writes another fragment with a copy of
the context, and so does the level inside a level; when it ends, only the counter comes back, so no
ordinal is handed out twice.

## Main definitions

* `Context`, `Context.new`, `Context.next`, `Context.within`, `Context.inside`, `Context.merge`.
* `Context.Script`, `Context.Script.run`: a well-nested course of such steps and its trace.
-/

namespace EntitySql

/-- What is known while a statement is written. -/
structure Context where
  /-- The next ordinal. -/
  counter : UInt32
  fragment : Fragment
  /-- The index of the level being written. -/
  level : UInt32
  /-- Whether an outer statement wraps the level. -/
  nested : Bool
  deriving DecidableEq, Repr

namespace Context

/-- The context in which a statement starts. -/
def new (fragment : Fragment) (level : UInt32) : Context where
  counter := 0
  fragment := fragment
  level := level
  nested := false

/-- The next ordinal, and the context behind it. -/
def next (c : Context) : UInt32 × Context :=
  (c.counter, { c with counter := c.counter + 1 })

/-- The context for a level that is wrapped by an outer one. -/
def nest (c : Context) : Context :=
  { c with nested := true }

/-- The context for a level inside the one being written. -/
def inside (c : Context) (level : UInt32) : Context :=
  { c.nest with level := level }

/-- The context with the counter of another one. -/
def merge (c other : Context) : Context :=
  { c with counter := other.counter }

/-- The context for another fragment. -/
def enter (c : Context) (fragment : Fragment) : Context :=
  { c with fragment := fragment }

/-- A scope that writes another fragment: its result, and the outer context with the counter of
the inner one. -/
def within {α : Type} (c : Context) (fragment : Fragment) (scope : Context → α × Context) :
    α × Context :=
  let (a, inner) := scope (c.enter fragment)
  (a, c.merge inner)

/-! ### Courses of steps -/

/-- A course of steps on a context; `switch` opens a scope with steps of its own, and `copy` has
those of a level inside, which are merged back. -/
inductive Script where
  | done
  | next (rest : Script)
  | nest (rest : Script)
  | update (counter : UInt32) (rest : Script)
  | switch (fragment : Fragment) (inner rest : Script)
  | copy (level : UInt32) (inner rest : Script)
  deriving Repr

/-- What a step shows. -/
inductive Event where
  /-- The context after a step. -/
  | context (c : Context)
  /-- The ordinal that was handed out and the context behind it. -/
  | ordinal (n : UInt32) (c : Context)
  /-- The inner context of a scope that opens, or of a copy. -/
  | entered (c : Context)
  /-- The outer context behind a scope that closes, or behind a copy that is merged back. -/
  | left (c : Context)
  deriving DecidableEq, Repr

/-- The events of a scope or a copy and of what comes behind it: the steps inside start in the
context that is opened, and those behind in the outer one with the counter of the inner one. -/
def scope (c opened : Context) (inner rest : Context → List Event × Context) :
    List Event × Context :=
  let (innerEvents, closed) := inner opened
  let c := c.merge closed
  let (events, last) := rest c
  (.entered opened :: innerEvents ++ .left c :: events, last)

/-- The events of a course of steps and the context at its end. -/
def Script.run : Script → Context → List Event × Context
  | .done, c => ([], c)
  | .next rest, c =>
      let (n, c) := c.next
      let (events, last) := rest.run c
      (.ordinal n c :: events, last)
  | .nest rest, c =>
      let (events, last) := rest.run c.nest
      (.context c.nest :: events, last)
  | .update counter rest, c =>
      let c := { c with counter := counter }
      let (events, last) := rest.run c
      (.context c :: events, last)
  | .switch fragment inner rest, c => c.scope (c.enter fragment) inner.run rest.run
  | .copy level inner rest, c => c.scope (c.inside level) inner.run rest.run

end Context

end EntitySql
