import EntitySql.Proofs.Statement.Printer
import EntitySql.Proofs.Text.Joined
/-!
# Separators in a buffer

What the last piece wrote is seen of a buffer by its size only. That is enough for a loop over the
buffer to leave what its pieces leave when they are written apart, also when one of them stops.

When none of them stops, the loop leaves the pieces with a separator behind each that wrote
something, of which the last one may stand at the end: it was put for a piece that wrote nothing.

## Main results

* `Written.separated_write`, `Printer.puts_separated`: the loop with pieces that do not stop, and
  with pieces that may.
* `Printer.separated_between_iff`: when the separators stand between the pieces and nowhere else.
-/

namespace EntitySql

open EntitySql.Text

variable {α : Type} {values : List α} {separator : String}

/-! ### Pieces that are written -/

namespace Written

variable {piece : α → Written Unit} {text : α → String}

/-- A writer behind one that does not stop finds what this one left. -/
theorem leave_bind_ok {w : Written Unit} {next : Unit → Written α} (passed : w.result = .ok ())
    (buffer : String) : (w >>= next).leave buffer = (next ()).leave (w.onto buffer) := by
  rw [leave, leave, result_bind_ok passed, onto, onto, text_bind_ok passed, onto,
    ← String.append_assoc]

/-- Pieces that do not stop are separated like their texts. -/
theorem separated_write (passes : ∀ a ∈ values, piece a = .write (text a)) :
    separated separator piece values = .write (Text.separated separator (values.map text)) := by
  have behind (wrote : Bool) : separatedAfter separator piece wrote values
      = .write (Text.separatedAfter separator wrote (values.map text)) := by
    induction values generalizing wrote with
    | nil => rfl
    | cons a rest ih =>
        obtain ⟨first, others⟩ := List.forall_mem_cons.mp passes
        rw [separatedAfter, first, ih others, List.map_cons, Text.separatedAfter_cons,
          String.append_assoc]
        rfl
  exact behind false

end Written

/-! ### Pieces that are printed -/

namespace Printer

variable {piece : α → Printer Unit} {written : α → Written Unit} {text : α → String}

/-- Behind a piece that made the buffer grow or did not, the loop leaves what is left behind a piece
that wrote something or did not. -/
theorem run_separatedFrom (puts : ∀ a ∈ values, Puts (piece a) (written a)) {wrote : Bool}
    {size : Nat} {buffer : String} (grown : size < buffer.utf8ByteSize ↔ wrote = true) :
    (separatedFrom separator piece size values).run buffer
      = (Written.separatedAfter separator written wrote values).leave buffer := by
  induction values generalizing wrote size buffer with
  | nil => exact puts_pure () buffer
  | cons a rest ih =>
      obtain ⟨first, others⟩ := List.forall_mem_cons.mp puts
      have behind : (Written.separatedAfter separator written wrote (a :: rest)).leave buffer
          = (written a >>= fun _ => Written.separatedAfter separator written
              ((written a).text != "") rest).leave
            (buffer ++ if wrote then separator else "") :=
        Written.leave_bind_ok rfl buffer
      rw [run_separatedFrom_cons separator piece a rest grown, behind]
      generalize (buffer ++ if wrote = true then separator else "") = left
      have run := first left
      rw [Written.leave] at run
      cases result : (written a).result with
      | error error =>
          rw [result] at run
          rw [run_bind_error run, Written.bind_error result]
          rfl
      | ok =>
          rw [result] at run
          rw [run_bind_ok run, Written.leave_bind_ok result]
          exact ih others (lt_size_append_iff left (written a).text)

/-- **The loop over a buffer** leaves what its pieces leave when they are written with separators
by what each wrote. One that stops is the last one that leaves anything. -/
theorem puts_separated (separator : String) (puts : ∀ a ∈ values, Puts (piece a) (written a)) :
    Puts (separated separator piece values) (.separated separator written values) := by
  intro buffer
  have fresh : buffer.utf8ByteSize < buffer.utf8ByteSize ↔ false = true := by simp
  exact run_separatedFrom puts fresh

/-- **Separators between pieces that wrote something.** Pieces that each put a text behind the
buffer, whatever it holds, leave the texts that are not empty with the separator between them, and
the separator once more if the texts end empty. So they leave what they should exactly if the texts
do not end empty or the separator is empty itself. The same is written by pieces that could stop
and do not. What a piece writes may depend on its place, as values can carry their numbers. -/
theorem separated_between_iff (separator buffer : String)
    (appends : ∀ a ∈ values, ∀ left, (piece a).run left = .ok () (left ++ text a))
    (passes : ∀ a ∈ values, written a = ⟨text a, .ok ()⟩) :
    (separated separator piece values).run buffer
        = .ok () (buffer ++ Text.separated separator (values.map text))
      ∧ (Written.separated separator written values).leave buffer
        = (separated separator piece values).run buffer
      ∧ Text.separated separator (values.map text)
        = between separator (values.map text)
          ++ (if EndsEmpty (values.map text) then separator else "")
      ∧ ((separated separator piece values).run buffer
          = .ok () (buffer ++ between separator (values.map text)) ↔
        separator = "" ∨ ¬EndsEmpty (values.map text)) := by
  have whole : Written.separated separator written values
      = .write (Text.separated separator (values.map text)) := Written.separated_write passes
  have puts : ∀ a ∈ values, Puts (piece a) (written a) := by
    intro a member left
    rw [appends a member left, passes a member]
    rfl
  have run : (separated separator piece values).run buffer
      = (Written.separated separator written values).leave buffer :=
    puts_separated separator puts buffer
  have left : (Written.separated separator written values).leave buffer
      = .ok () (buffer ++ Text.separated separator (values.map text)) := by
    rw [whole]
    rfl
  refine ⟨run.trans left, run.symm, separated_eq, ?_⟩
  rw [run, left, ← separated_eq_between_iff]
  simp

/-- Names with an empty one between them. -/
theorem separated_between_names :
    (separated ", " put ["a", "", "b"]).run "SELECT " = .ok () "SELECT a, b" := by
  have appends : ∀ s ∈ ["a", "", "b"], ∀ left, (put s).run left = .ok () (left ++ s) :=
    fun _ _ _ => rfl
  have passes : ∀ s ∈ ["a", "", "b"], Written.write s = ⟨s, .ok ()⟩ := fun _ _ => rfl
  obtain ⟨-, -, -, whole⟩ := separated_between_iff ", " "SELECT " appends passes
  exact whole.mpr (.inr (by decide))

/-- An empty name at the end leaves a comma behind the other one. -/
theorem separated_empty_last_ne :
    (separated ", " put ["a", ""]).run "SELECT " = .ok () "SELECT a, "
      ∧ "SELECT a, " ≠ "SELECT " ++ between ", " ["a", ""] :=
  ⟨rfl, by decide⟩

end Printer

end EntitySql
