import EntitySql.Error
/-!
# Written text

A writer puts text down piece by piece and may stop at an error. What it has put down by then
stays, so the outcome of a writer is its text together with its result. Writers follow one another
as steps of a monad: the text grows until the first error.

## Main definitions

* `Written`, with its `Monad` instance, `Written.write` and `Written.stop`.
* `Written.onto`: the text of a writer behind another text.
* `Written.separated`: pieces with a separator after each that wrote something.

## Main results

* `Written.text_bind_ok`, `Written.bind_error`: what a sequence of two writers writes.
-/

namespace EntitySql

/-- A text and the result of the writer that put it down. -/
structure Written (α : Type) where
  text : String
  result : Except DatabaseError α

namespace Written

variable {α β : Type}

/-- One writer and, unless it stops, another. -/
def andThen (w : Written α) (next : α → Written β) : Written β :=
  match w.result with
  | .ok a => ⟨w.text ++ (next a).text, (next a).result⟩
  | .error e => ⟨w.text, .error e⟩

instance : Monad Written where
  pure a := ⟨"", .ok a⟩
  bind := andThen

/-- A piece of text. -/
def write (s : String) : Written Unit :=
  ⟨s, .ok ()⟩

/-- An error in place of text. -/
def stop (error : DatabaseError) : Written α :=
  ⟨"", .error error⟩

/-- A text in front of a writer, with what the writer put down behind it. -/
def onto (before : String) (w : Written α) : String :=
  before ++ w.text

/-- A step that only answers writes nothing. -/
@[simp] theorem pure_text (a : α) : (pure a : Written α).text = "" := rfl

/-- A step that only answers does not fail. -/
@[simp] theorem pure_result (a : α) : (pure a : Written α).result = .ok a := rfl

/-- Two writers put down their texts one behind the other. -/
theorem text_bind_ok {w : Written α} {next : α → Written β} {a : α} (h : w.result = .ok a) :
    (w >>= next).text = w.text ++ (next a).text := by
  show (w.andThen next).text = _
  rw [andThen, h]

/-- The result of two writers is that of the second one, if the first one did not stop. -/
theorem result_bind_ok {w : Written α} {next : α → Written β} {a : α} (h : w.result = .ok a) :
    (w >>= next).result = (next a).result := by
  show (w.andThen next).result = _
  rw [andThen, h]

/-- Nothing follows a writer that stopped. -/
theorem bind_error {w : Written α} {next : α → Written β} {e : DatabaseError}
    (h : w.result = .error e) : w >>= next = ⟨w.text, .error e⟩ := by
  show w.andThen next = _
  rw [andThen, h]

/-! ### Separated pieces -/

/-- Pieces written one after the other, behind one that wrote something or did not. -/
def separatedAfter (separator : String) (piece : α → Written Unit) :
    (wrote : Bool) → List α → Written Unit
  | _, [] => pure ()
  | wrote, a :: rest => do
      write (if wrote then separator else "")
      piece a
      separatedAfter separator piece ((piece a).text != "") rest

/-- Pieces written one after the other until one stops, with the separator in front of each whose
predecessor wrote something. -/
def separated (separator : String) (piece : α → Written Unit) (values : List α) :
    Written Unit :=
  separatedAfter separator piece false values

end Written

end EntitySql
