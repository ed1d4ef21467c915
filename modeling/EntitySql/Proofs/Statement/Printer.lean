import EntitySql.Proofs.Statement.Pieces
import EntitySql.Statement.Printer
/-!
# What printers do to a buffer

Two things are said of a printer here. One that puts a written text leaves of every buffer what the
writer of that text leaves, an error included. One that delivers a text does so as long as it does
not stop; what it leaves of the buffer when it stops is not said, and need not be, if the buffer is
its own. Putting a text together apart turns the second into the first: whatever is left when the
printer stops, the buffer around is as it was.

## Main definitions

* `Written.leave`: what a writer leaves of a buffer.
* `Printer.Puts`, `Printer.Delivers`.

## Main results

* `Printer.Puts.bind`, `Printer.Delivers.andThen`: printers one behind the other.
* `Printer.Delivers.apart`: a buffer of its own.
* `Printer.delivers_separated`: separators by the size of the buffer are separators by what the
  pieces write.
* `Expression.puts_print`: an expression is printed as it is written.
-/

namespace EntitySql

open EntitySql.Text

variable {α β γ : Type}

/-- What a writer leaves of a buffer: its text behind it, and its result. -/
def Written.leave (w : Written α) (buffer : String) : EStateM.Result DatabaseError String α :=
  match w.result with
  | .ok a => .ok a (w.onto buffer)
  | .error error => .error error (w.onto buffer)

/-- What is written with a result, or its error in place of text. -/
def Written.given (x : Except DatabaseError α) (next : α → Written β) : Written β :=
  match x with
  | .ok a => next a
  | .error error => stop error

/-- A result that is mapped is given to what is written as the mapped one. -/
theorem Written.given_map (x : Except DatabaseError α) (f : α → β) (next : β → Written γ) :
    given (x.map f) next = given x fun a => next (f a) := by
  cases x <;> rfl

/-- A result in two steps is given to what is written in two steps. -/
theorem Written.given_bind (x : Except DatabaseError α) (f : α → Except DatabaseError β)
    (next : β → Written γ) : given (x >>= f) next = given x fun a => given (f a) next := by
  cases x <;> rfl

namespace Printer

/-! ### Printing what is written -/

/-- A printer **puts** a written text if it leaves of every buffer what the writer leaves. -/
def Puts (p : Printer α) (w : Written α) : Prop :=
  ∀ buffer, p.run buffer = w.leave buffer

/-- A printer delivers a text to a buffer if it puts it behind it, and an error if it stops at it,
whatever it leaves of the buffer then. -/
def DeliversTo (buffer : String) (p : Printer Unit) : Except DatabaseError String → Prop
  | .ok s => p.run buffer = .ok () (buffer ++ s)
  | .error error => ∃ left, p.run buffer = .error error left

/-- A printer **delivers** a text, or an error, if it does so with every buffer. -/
def Delivers (p : Printer Unit) (x : Except DatabaseError String) : Prop :=
  ∀ buffer, DeliversTo buffer p x

/-- What follows a printer goes on with what it leaves. -/
theorem run_bind_ok {p : Printer α} {buffer left : String} {a : α}
    (first : p.run buffer = .ok a left) (next : α → Printer β) :
    (p >>= next).run buffer = (next a).run left := by
  simp only [EStateM.run, bind, EStateM.bind] at first ⊢
  rw [first]

/-- Nothing follows a printer that stopped. -/
theorem run_bind_error {p : Printer α} {buffer left : String} {error : DatabaseError}
    (first : p.run buffer = .error error left) (next : α → Printer β) :
    (p >>= next).run buffer = .error error left := by
  simp only [EStateM.run, bind, EStateM.bind] at first ⊢
  rw [first]

/-- A printer that only answers puts what a writer does that only answers. -/
theorem puts_pure (a : α) : Puts (pure a) (pure a) := by
  intro buffer
  show EStateM.Result.ok a buffer = .ok a (buffer ++ "")
  rw [String.append_empty]

/-- A text is put as it is written. -/
theorem puts_put (s : String) : Puts (put s) (.write s) :=
  fun _ => rfl

/-- An error is thrown where a writer stops. -/
theorem puts_throw (error : DatabaseError) : Puts (throw error : Printer α) (.stop error) := by
  intro buffer
  show EStateM.Result.error error buffer = .error error (buffer ++ "")
  rw [String.append_empty]

/-- Printers one behind the other put what is written one behind the other. -/
theorem Puts.bind {p : Printer α} {w : Written α} {next : α → Printer β} {others : α → Written β}
    (first : Puts p w) (behind : ∀ a, w.result = .ok a → Puts (next a) (others a)) :
    Puts (p >>= next) (w >>= others) := by
  intro buffer
  have run := first buffer
  rw [Written.leave] at run
  cases result : w.result with
  | error error =>
      rw [result] at run
      rw [run_bind_error run, Written.bind_error result]
      rfl
  | ok a =>
      rw [result] at run
      rw [run_bind_ok run, behind a result]
      simp only [Written.leave, Written.result_bind_ok result, Written.onto,
        Written.text_bind_ok result, String.append_assoc]

/-- Printers that do not stop, and what follows them. -/
theorem Puts.andThen {p : Printer α} {next : α → Printer β} {s t : String} {a : α}
    {r : Except DatabaseError β} (first : Puts p ⟨s, .ok a⟩) (second : Puts (next a) ⟨t, r⟩) :
    Puts (p >>= next) ⟨s ++ t, r⟩ := by
  have whole : Puts (p >>= next) (⟨s, .ok a⟩ >>= fun _ => ⟨t, r⟩) := by
    refine first.bind fun b same => ?_
    obtain rfl := Except.ok.inj same
    exact second
  exact whole

/-- A printer behind one that does not stop. -/
theorem Puts.behind {p : Printer Unit} {q : Printer β} {s t : String}
    {r : Except DatabaseError β} (second : Puts q ⟨t, r⟩) (first : Puts p (.write s)) :
    Puts (p >>= fun _ => q) ⟨s ++ t, r⟩ :=
  first.andThen second

/-- A text in front of a printer. -/
theorem Puts.behind_put {q : Printer β} {t : String} {r : Except DatabaseError β} (s : String)
    (second : Puts q ⟨t, r⟩) : Puts (put s >>= fun _ => q) ⟨s ++ t, r⟩ :=
  second.behind (puts_put s)

/-- A text in front of a result. -/
theorem puts_last (s : String) (a : α) : Puts (do put s; return a) ⟨s, .ok a⟩ := by
  have last := (puts_pure a).behind_put s
  rw [String.append_empty] at last
  exact last

/-- A printer behind one that only has a result goes on with it. -/
theorem Puts.given {p : Printer β} {x : Except DatabaseError α} {f : α → β}
    {next : β → Printer γ} {others : α → Written γ}
    (first : Puts p (.given x fun a => pure (f a)))
    (behind : ∀ a, x = .ok a → Puts (next (f a)) (others a)) :
    Puts (p >>= next) (.given x others) := by
  intro buffer
  cases x with
  | error error =>
      have run : p.run buffer = .error error buffer :=
        (first buffer).trans (puts_throw error buffer).symm
      rw [run_bind_error run]
      exact puts_throw error buffer
  | ok a =>
      have run : p.run buffer = .ok (f a) buffer :=
        (first buffer).trans (puts_pure (f a) buffer).symm
      rw [run_bind_ok run]
      exact behind a rfl buffer

/-- A printer that does not stop puts exactly what it delivers. -/
theorem delivers_ok_iff {p : Printer Unit} {s : String} :
    Delivers p (.ok s) ↔ Puts p (.write s) :=
  Iff.rfl

/-- What is put is delivered. -/
theorem Puts.delivers {p : Printer Unit} {w : Written Unit} (puts : Puts p w) :
    Delivers p (w.result.map fun _ => w.text) := by
  intro buffer
  have run := puts buffer
  rw [Written.leave] at run
  cases result : w.result with
  | error error =>
      rw [result] at run
      exact ⟨_, run⟩
  | ok =>
      rw [result] at run
      exact run

/-- What is put with a result is delivered. -/
theorem Puts.delivers_given {p : Printer Unit} {x : Except DatabaseError α} {text : α → String}
    (puts : Puts p (.given x fun a => .write (text a))) : Delivers p (x.map text) := by
  have delivers := puts.delivers
  cases x <;> exact delivers

/-- A printer that does nothing delivers the empty text. -/
theorem delivers_pure : Delivers (pure ()) (.ok "") :=
  delivers_ok_iff.mpr (puts_pure ())

/-- A printer that puts a text delivers it. -/
theorem delivers_put (s : String) : Delivers (put s) (.ok s) :=
  delivers_ok_iff.mpr (puts_put s)

/-- A printer behind another one delivers its text to what this one leaves. -/
theorem DeliversTo.andThen {buffer : String} {p q : Printer Unit}
    {x y : Except DatabaseError String} (first : DeliversTo buffer p x)
    (second : ∀ s, x = .ok s → DeliversTo (buffer ++ s) q y) :
    DeliversTo buffer (p >>= fun _ => q) (x >>= fun s => y.map (s ++ ·)) := by
  cases x with
  | error error =>
      obtain ⟨left, run⟩ := first
      exact ⟨left, run_bind_error run _⟩
  | ok s =>
      have behind := second s rfl
      cases y with
      | error error =>
          obtain ⟨left, run⟩ := behind
          exact ⟨left, (run_bind_ok first _).trans run⟩
      | ok t =>
          show (p >>= fun _ => q).run buffer = .ok () (buffer ++ (s ++ t))
          rw [run_bind_ok first, ← String.append_assoc]
          exact behind

/-- Printers one behind the other deliver their texts one behind the other. -/
theorem Delivers.andThen {p q : Printer Unit} {x y : Except DatabaseError String}
    (first : Delivers p x) (second : Delivers q y) :
    Delivers (p >>= fun _ => q) (x >>= fun s => y.map (s ++ ·)) :=
  fun buffer => (first buffer).andThen fun s _ => second (buffer ++ s)

/-- A text in front of a printer. -/
theorem Delivers.behind_put {q : Printer Unit} {y : Except DatabaseError String} (s : String)
    (second : Delivers q y) : Delivers (put s >>= fun _ => q) (y.map (s ++ ·)) :=
  (delivers_put s).andThen second

/-- **A buffer of its own** keeps what a printer leaves when it stops away from the buffer. -/
theorem Delivers.apart {p : Printer Unit} {x : Except DatabaseError String}
    (delivers : Delivers p x) : Puts (apart p) (.given x pure) := by
  intro buffer
  have run := delivers ""
  cases x with
  | error error =>
      obtain ⟨left, run⟩ := run
      have stopped : (Printer.apart p).run buffer = .error error buffer := by
        simp only [EStateM.run, Printer.apart] at run ⊢
        rw [run]
      exact stopped.trans (puts_throw error buffer)
  | ok s =>
      have whole : (Printer.apart p).run buffer = .ok s buffer := by
        have run : p.run "" = .ok () ("" ++ s) := run
        rw [String.empty_append] at run
        simp only [EStateM.run, Printer.apart] at run ⊢
        rw [run]
      exact whole.trans (puts_pure s buffer)

/-! ### Separators -/

/-- A buffer has grown if something was put behind it. -/
theorem lt_size_append_iff (buffer text : String) :
    buffer.utf8ByteSize < (buffer ++ text).utf8ByteSize ↔ (text != "") = true := by
  rw [String.utf8ByteSize_append, bne_iff_ne, ne_eq, ← String.utf8ByteSize_eq_zero_iff]
  omega

section Separated

variable {piece : α → Printer Unit}
  {check : α → Except DatabaseError Unit} {text : α → String}

/-- The next piece comes behind the separator that the buffer asks for. -/
theorem run_separatedFrom_cons (separator : String) (piece : α → Printer Unit) (a : α)
    (rest : List α) {wrote : Bool} {size : Nat} {buffer : String}
    (grown : size < buffer.utf8ByteSize ↔ wrote = true) :
    (separatedFrom separator piece size (a :: rest)).run buffer
      = (piece a >>= fun _ => separatedFrom separator piece
          (buffer ++ if wrote then separator else "").utf8ByteSize rest).run
        (buffer ++ if wrote then separator else "") := by
  simp only [← grown]
  rfl

/-- Behind a piece that made the buffer grow or did not, the others deliver their texts with the
separators that this asks for. -/
theorem deliversTo_separatedFrom (separator : String) {values : List α}
    (pieces : ∀ a ∈ values, Delivers (piece a) ((check a).map fun _ => text a))
    {wrote : Bool} {size : Nat} {buffer : String}
    (grown : size < buffer.utf8ByteSize ↔ wrote = true) :
    DeliversTo buffer (separatedFrom separator piece size values)
      ((forM values check).map fun _ => separatedAfter separator wrote (values.map text)) := by
  induction values generalizing wrote size buffer with
  | nil => exact delivers_pure buffer
  | cons a rest ih =>
      obtain ⟨first, others⟩ := List.forall_mem_cons.mp pieces
      have unfolded := run_separatedFrom_cons separator piece a rest grown
      generalize before : buffer ++ (if wrote = true then separator else "") = left at unfolded
      rw [List.forM_cons, List.map_cons, Text.separatedAfter_cons]
      have run := first left
      cases checked : check a with
      | error error =>
          rw [checked] at run
          obtain ⟨stopped, run⟩ := run
          exact ⟨stopped, unfolded.trans (run_bind_error run _)⟩
      | ok =>
          rw [checked] at run
          -- the piece wrote something exactly when the buffer is larger than before it
          have behind := ih others (lt_size_append_iff left (text a))
          cases checkedRest : forM rest check with
          | error error =>
              rw [checkedRest] at behind
              obtain ⟨stopped, behind⟩ := behind
              exact ⟨stopped, unfolded.trans ((run_bind_ok run _).trans behind)⟩
          | ok =>
              rw [checkedRest] at behind
              refine (unfolded.trans ((run_bind_ok run _).trans behind)).trans ?_
              simp only [← before, String.append_assoc]

/-- Pieces with separators by the size of the buffer deliver their texts with separators by what
each wrote. -/
theorem delivers_separated (separator : String) {values : List α}
    (pieces : ∀ a ∈ values, Delivers (piece a) ((check a).map fun _ => text a)) :
    Delivers (separated separator piece values)
      ((forM values check).map fun _ => Text.separated separator (values.map text)) := by
  intro buffer
  have fresh : buffer.utf8ByteSize < buffer.utf8ByteSize ↔ false = true := by simp
  exact deliversTo_separatedFrom separator pieces fresh

/-- Pieces that do not stop. -/
theorem delivers_separated_put (separator : String) (text : α → String) (values : List α) :
    Delivers (separated separator (fun a => put (text a)) values)
      (.ok (Text.separated separator (values.map text))) := by
  have passed : forM values (fun _ => (.ok () : Except DatabaseError Unit)) = .ok () := by
    induction values with
    | nil => rfl
    | cons a rest ih => rw [List.forM_cons, ih]; rfl
  have pieces : ∀ a ∈ values,
      Delivers (put (text a)) ((.ok () : Except DatabaseError Unit).map fun _ => text a) :=
    fun a _ => delivers_put (text a)
  have delivers := delivers_separated separator pieces
  rw [passed] at delivers
  exact delivers

end Separated

end Printer

open Printer

/-! ### Expressions -/

namespace Expression

/-- **An expression is printed as it is written**, in every dialect: what stands in front of a fault
is left behind the buffer. -/
theorem puts_print (d : Dialect) (fragment : Fragment) (e : Expression) :
    Puts (e.print d fragment) (e.write d fragment) := by
  induction e with
  | column | sortKey | constant | parameter => exact puts_put _
  | binary op l r ihl ihr =>
      rw [print, write]
      cases d op with
      | none => exact puts_throw _
      | some rendering =>
          exact (puts_put _).bind fun _ _ => ihl.bind fun _ _ => (puts_put _).bind fun _ _ =>
            ihr.bind fun _ _ => puts_put _
  | paging | pagingBy => exact puts_throw _

example : (Expression.print .transactSql .filter
    (.binary .equal (.column ⟨⟨"", "t"⟩, "c"⟩) (.paging .first))).run "WHERE "
    = .error (.misplacedPaging .first .filter) "WHERE ([t].[c] = " := by
  rfl

/-- An expression delivers its text, unless it cannot be written in the fragment. -/
theorem delivers_print (fragment : Fragment) (e : Expression) :
    Delivers (e.print .transactSql fragment) ((e.check fragment).map fun _ => e.text) := by
  have delivers := (e.puts_print .transactSql fragment).delivers
  cases checked : e.check fragment with
  | error error =>
      rw [show (e.write .transactSql fragment).result = .error error from checked] at delivers
      exact delivers
  | ok =>
      have writable : e.Writable := ⟨fragment, checked⟩
      rw [writable.write_eq, ← writable.text_eq] at delivers
      exact delivers

end Expression

end EntitySql
