import EntitySql.Proofs.Statement.Variables
import EntitySql.Wire.Batch
/-!
# Batches bind parameters

The batch of a command stands on two loops over its parameters, one that writes the lines and one
that collects the values, and on two families of names, those of the caller and those of the
protocol. They agree: a line takes its value from the position at which the value of its own
parameter is bound, and a name of the caller that could be taken for one of the protocol is
refused.

## Main definitions

* `Batch.Binds`: a batch that binds the parameters of a command.

## Main results

* `TextQuery.batch_of_free`, `TextQuery.batch_of_reserved`: the batch of a command.
* `TextQuery.batch_binds`: it is refused for a reserved name only, and binds the parameters
  otherwise.
-/

namespace EntitySql

open EntitySql.Text

/-- **A batch that binds the parameters of a command**: it declares them line by line in front of
the command, takes the value of each at its position, and no declared name is a positional one,
not even but for the case of its letters. Running the lines then gives each variable the value of
its own parameter, on a server that tells names apart as they are written as well as on one that
ignores their case, as far as it tells the names of the parameters apart. -/
structure Batch.Binds (b : Batch) (q : TextQuery) : Prop where
  text : b.text = String.join ((declared q.parameters).map Declaration.text) ++ q.command
  lines : (declared q.parameters).map Declaration.text = q.parameters.mapIdx fun i p =>
    "DECLARE @" ++ p.bareName ++ " " ++ p.value.columnType.written ++ " = @P" ++ natText (i + 1)
      ++ ";\n"
  values : b.values = q.parameters.map Parameter.value
  apart : ∀ d ∈ declared q.parameters, ∀ position,
    d.reference.toLower ≠ (positionalName position).toLower
  assigned : (q.parameters.map Parameter.bareName).Nodup → ∀ p ∈ q.parameters,
    Declaration.runAll .exact (Collation.exact.positions b.values) (declared q.parameters)
      ("@" ++ p.bareName) = some p.value
  assignedIgnoringCase : (q.parameters.map fun p => p.reference.toLower).Nodup →
    ∀ p ∈ q.parameters,
      Declaration.runAll .ignoringCase (Collation.ignoringCase.positions b.values)
        (declared q.parameters) ("@" ++ p.bareName) = some p.value

/-! ### The batch of a command -/

/-- A command whose parameters have no reserved names is sent behind their lines, and one without
parameters as it is. -/
theorem TextQuery.batch_of_free {q : TextQuery}
    (free : ∀ p ∈ q.parameters, ¬IsReserved p.bareName) :
    q.batch = .ok ⟨String.join ((declared q.parameters).map Declaration.text) ++ q.command,
      q.parameters.map Parameter.value⟩ := by
  have written : declarations q.parameters
      = ⟨String.join ((declared q.parameters).map Declaration.text), .ok ()⟩ :=
    declarationsFrom_of_free free 1
  rw [TextQuery.batch, written]
  split
  next none =>
    have noLines : String.join ((declared []).map Declaration.text) = "" := rfl
    rw [List.isEmpty_iff.mp none, noLines, String.empty_append, List.map_nil]
  next => rfl

/-- The first reserved name refuses a command. -/
theorem TextQuery.batch_of_reserved {q : TextQuery} {front behind : List Parameter}
    {p : Parameter} (split : q.parameters = front ++ p :: behind)
    (free : ∀ r ∈ front, ¬IsReserved r.bareName) (reserved : IsReserved p.bareName) :
    q.batch = .error (.invalidQuery (.reservedName p.bareName)) := by
  have stopped : (declarations q.parameters).result
      = .error (.invalidQuery (.reservedName p.bareName)) := by
    rw [split]
    exact declarationsFrom_of_reserved free reserved 1
  have some : q.parameters.isEmpty = false := by
    rw [split]
    simp
  rw [TextQuery.batch, some, stopped]
  rfl

/-- The line for a parameter, written out. -/
theorem declaration_eq (position : Nat) (p : Parameter) :
    declaration position p
      = "DECLARE @" ++ p.bareName ++ " " ++ p.value.columnType.written ++ " = @P"
        ++ natText position ++ ";\n" := by
  have words : "DECLARE @" = "DECLARE " ++ "@" := by decide
  unfold declaration Parameter.reference
  rw [words]
  simp only [String.append_assoc]

/-- The lines for parameters count their positions from one on. -/
theorem map_text_declared (parameters : List Parameter) :
    (declared parameters).map Declaration.text = parameters.mapIdx fun i p =>
      "DECLARE @" ++ p.bareName ++ " " ++ p.value.columnType.written ++ " = @P" ++ natText (i + 1)
        ++ ";\n" := by
  have lines : Declaration.text ∘ (fun x : Parameter × Nat => .ofParameter x.2 x.1)
      = fun x => declaration x.2 x.1 := by
    funext x
    exact Declaration.text_ofParameter x.2 x.1
  rw [declared, declaredFrom, List.map_map, lines, List.mapIdx_eq_zipIdx_map,
    List.zipIdx_succ, List.map_map]
  exact List.map_congr_left fun x _ => declaration_eq (x.2 + 1) x.1

/-- The batch of a command whose parameters have no reserved names binds them. -/
theorem TextQuery.binds_of_free {q : TextQuery}
    (free : ∀ p ∈ q.parameters, ¬IsReserved p.bareName) :
    Batch.Binds ⟨String.join ((declared q.parameters).map Declaration.text) ++ q.command,
      q.parameters.map Parameter.value⟩ q where
  text := rfl
  lines := map_text_declared q.parameters
  values := rfl
  apart d line position := by
    have named : d.reference ∈ q.parameters.map Parameter.reference :=
      map_reference_declared q.parameters ▸ List.mem_map_of_mem line
    obtain ⟨p, known, same⟩ := List.mem_map.mp named
    exact same ▸ Collation.ignoringCase.key_reference_ne (free p known) position
  assigned distinct p known := by
    have references : (q.parameters.map fun p => Collation.exact.key p.reference).Nodup := by
      have marked := distinct.map marked_injective
      rwa [List.map_map] at marked
    exact Declaration.runAll_declared .exact free references known
  assignedIgnoringCase distinct p known :=
    Declaration.runAll_declared .ignoringCase free distinct known

/-- A command with a reserved name is refused, for the first of them. -/
theorem TextQuery.exists_batch_error {q : TextQuery}
    (reserved : ∃ p ∈ q.parameters, IsReserved p.bareName) :
    ∃ p ∈ q.parameters, IsReserved p.bareName
      ∧ q.batch = .error (.invalidQuery (.reservedName p.bareName)) := by
  cases found : q.parameters.find? fun p => isPositional p.bareName with
  | none =>
      obtain ⟨p, known, named⟩ := reserved
      have free := List.find?_eq_none.mp found p known
      exact absurd (isPositional_iff.mpr named) free
  | some p =>
      obtain ⟨positional, front, behind, split, before⟩ := List.find?_eq_some_iff_append.mp found
      have named : IsReserved p.bareName := isPositional_iff.mp positional
      have free : ∀ r ∈ front, ¬IsReserved r.bareName := fun r member other => by
        simpa [isPositional_iff.mpr other] using before r member
      exact ⟨p, List.mem_of_find?_eq_some found, named, batch_of_reserved split free named⟩

/-- **Named parameters are bound to their own values.** The check of names never splits a
character. A command is refused exactly when a bare name is reserved, the letter P with decimal
digits, with the error that names such a one; otherwise its batch binds its parameters. A command
without parameters is sent as it is, with no values. -/
theorem TextQuery.batch_binds (q : TextQuery) :
    (∀ name, isPositionalByBytes? name = some (isPositional name)) ∧
    ((∃ e, q.batch = .error e) ↔ ∃ p ∈ q.parameters, IsReserved p.bareName) ∧
    (∀ e, q.batch = .error e → ∃ p ∈ q.parameters, IsReserved p.bareName
      ∧ e = .invalidQuery (.reservedName p.bareName)) ∧
    ((∀ p ∈ q.parameters, ¬IsReserved p.bareName) → ∃ b, q.batch = .ok b ∧ b.Binds q) ∧
    (q.parameters = [] → q.batch = .ok ⟨q.command, []⟩) := by
  have sent (free : ∀ p ∈ q.parameters, ¬IsReserved p.bareName) :
      ∃ b, q.batch = .ok b ∧ b.Binds q :=
    ⟨_, batch_of_free free, binds_of_free free⟩
  have reserved {e : DatabaseError} (refused : q.batch = .error e) :
      ∃ p ∈ q.parameters, IsReserved p.bareName := by
    by_contra none
    obtain ⟨b, batch, -⟩ := sent fun p known named => none ⟨p, known, named⟩
    rw [batch] at refused
    cases refused
  refine ⟨isPositionalByBytes?_eq, ⟨?_, ?_⟩, ?_, sent, ?_⟩
  · rintro ⟨e, refused⟩
    exact reserved refused
  · intro some
    obtain ⟨p, -, -, refused⟩ := exists_batch_error some
    exact ⟨_, refused⟩
  · intro e refused
    obtain ⟨p, known, named, first⟩ := exists_batch_error (reserved refused)
    rw [first] at refused
    exact ⟨p, known, named, (Except.error.inj refused).symm⟩
  · intro none
    rw [TextQuery.batch, none]
    rfl

/-- Two parameters, one of them named like a position with a letter too many. -/
theorem batch_binds_age_and_place :
    ∃ b, TextQuery.batch ⟨"SELECT @age, @P1st", [⟨"@@age", .ofInt32 7⟩, ⟨"P1st", .ofBool true⟩]⟩
        = .ok b ∧
      b.text = "DECLARE @age INT = @P1;\nDECLARE @P1st BIT = @P2;\nSELECT @age, @P1st" ∧
      Declaration.runAll .exact (Collation.exact.positions b.values)
        (declared [⟨"@@age", .ofInt32 7⟩, ⟨"P1st", .ofBool true⟩]) "@P1st"
        = some (.ofBool true) := by
  obtain ⟨-, -, -, sent, -⟩ := TextQuery.batch_binds
    ⟨"SELECT @age, @P1st", [⟨"@@age", .ofInt32 7⟩, ⟨"P1st", .ofBool true⟩]⟩
  have free : ∀ p ∈ [⟨"@@age", .ofInt32 7⟩, (⟨"P1st", .ofBool true⟩ : Parameter)],
      ¬IsReserved p.bareName := by
    simp only [List.forall_mem_cons, ← isPositional_iff]
    exact ⟨by decide, by decide, nofun⟩
  obtain ⟨b, batch, binds⟩ := sent free
  refine ⟨b, batch, ?_, ?_⟩
  · rw [binds.text]
    decide +kernel
  · exact binds.assigned (by decide) ⟨"P1st", .ofBool true⟩
      (List.mem_cons_of_mem _ List.mem_cons_self)

end EntitySql
