import EntitySql.Proofs.Statement.Declaration
/-!
# Variables

The lines that declare parameters are run one after the other. Each makes a variable and gives it
what the protocol has bound to a position, so it matters that no line before it has made a variable
of that name: declared names are no positional names.

A server may tell names apart as they are written or ignore the case of their letters. What is
proved here holds for both.

## Main definitions

* `Collation`: how a server tells names apart.
* `Collation.positions`: the variables that the protocol binds.
* `Declaration.run`, `Declaration.runAll`: what lines do.

## Main results

* `Declaration.runAll_of_ne`: lines change nothing but the variables that they declare.
* `Declaration.runAll_reference`: a declared variable has the value of its position.
* `Declaration.runAll_declared`: parameters are bound to their values.
-/

namespace EntitySql

/-! ### Variables -/

/-- The variables of a batch with their values, by the names that refer to them. -/
abbrev Variables := String → Option Value

/-- How a server tells names apart: names with one key are one name. They differ at most in the
case of their letters. -/
structure Collation where
  key : String → String
  toLower_eq : ∀ {a b : String}, key a = key b → a.toLower = b.toLower

namespace Collation

/-- Names are told apart as they are written. -/
def exact : Collation :=
  ⟨id, fun same => congrArg String.toLower same⟩

/-- Names are told apart but for the case of their letters. -/
def ignoringCase : Collation :=
  ⟨String.toLower, id⟩

variable (c : Collation)

/-- The variables after one of them is given a value. -/
def assign (vars : Variables) (name : String) (v : Option Value) : Variables :=
  fun other => if c.key other = c.key name then v else vars other

/-- The variables that the protocol binds to positions from a given one on. -/
def positionsFrom (position : Nat) : List Value → Variables
  | [] => fun _ => none
  | v :: rest => c.assign (positionsFrom (position + 1) rest) (positionalName position) (some v)

/-- The variables that the protocol binds. -/
def positions (values : List Value) : Variables :=
  c.positionsFrom 1 values

variable {c} {vars : Variables} {name other : String} {v : Option Value}

/-- A variable has the value that it is given. -/
theorem assign_same : c.assign vars name v name = v :=
  if_pos rfl

/-- A variable of another name keeps its value. -/
theorem assign_of_ne (different : c.key other ≠ c.key name) :
    c.assign vars name v other = vars other :=
  if_neg different

/-- A position holds the value that was bound to it. -/
theorem positionsFrom_positionalName (values : List Value) (position place : Nat) :
    c.positionsFrom position values (positionalName (position + place)) = values[place]? := by
  induction values generalizing position place with
  | nil => rfl
  | cons v rest ih =>
      rw [positionsFrom]
      cases place with
      | zero => exact assign_same
      | succ place =>
          have different : c.key (positionalName (position + (place + 1)))
              ≠ c.key (positionalName position) := fun same => by
            have equal := positionalName_toLower_injective (c.toLower_eq same)
            omega
          have later : position + (place + 1) = position + 1 + place := by omega
          rw [assign_of_ne different, later, ih, List.getElem?_cons_succ]

end Collation

/-! ### Running declarations -/

namespace Declaration

variable (c : Collation)

/-- The variables after a line: its variable has the value of its position. -/
def run (vars : Variables) (d : Declaration) : Variables :=
  c.assign vars d.reference (vars (positionalName d.position))

/-- The variables after lines that are run in order. -/
def runAll (vars : Variables) (ds : List Declaration) : Variables :=
  ds.foldl (run c) vars

variable {c} {vars : Variables} {ds : List Declaration}

/-- Lines change nothing but the variables that they declare. -/
theorem runAll_of_ne {name : String} (other : ∀ d ∈ ds, c.key name ≠ c.key d.reference) :
    runAll c vars ds name = vars name := by
  induction ds generalizing vars with
  | nil => rfl
  | cons d rest ih =>
      obtain ⟨first, others⟩ := List.forall_mem_cons.mp other
      have kept : runAll c (run c vars d) rest name = run c vars d name := ih others
      rw [run, Collation.assign_of_ne first] at kept
      exact kept

/-- **A declared variable has the value of its position**, if no variable is declared twice and
none is a positional name. -/
theorem runAll_reference (distinct : (ds.map fun d => c.key d.reference).Nodup)
    (apart : ∀ d ∈ ds, ∀ position, c.key d.reference ≠ c.key (positionalName position))
    {d : Declaration} (member : d ∈ ds) :
    runAll c vars ds d.reference = vars (positionalName d.position) := by
  induction ds generalizing vars with
  | nil => cases member
  | cons first rest ih =>
      obtain ⟨fresh, distinct⟩ := List.nodup_cons.mp distinct
      obtain ⟨firstApart, apart⟩ := List.forall_mem_cons.mp apart
      have once : ∀ e ∈ rest, c.key first.reference ≠ c.key e.reference := fun e he same =>
        fresh (List.mem_map.mpr ⟨e, he, same.symm⟩)
      rcases List.mem_cons.mp member with rfl | later
      · have kept : runAll c (run c vars d) rest d.reference = run c vars d d.reference :=
          runAll_of_ne once
        rw [run, Collation.assign_same] at kept
        exact kept
      · have found : runAll c (run c vars first) rest d.reference
            = run c vars first (positionalName d.position) := ih distinct apart later
        rw [run, Collation.assign_of_ne (firstApart d.position).symm] at found
        exact found

end Declaration

/-- The key of a name that is not reserved is no key of a positional name. -/
theorem Collation.key_reference_ne (c : Collation) {p : Parameter}
    (free : ¬IsReserved p.bareName) (position : Nat) :
    c.key p.reference ≠ c.key (positionalName position) := fun same =>
  free (IsReserved.of_toLower_eq (c.toLower_eq same))

/-- **Parameters without reserved names are bound to their values** by the lines that declare
them, if the server tells their names apart. -/
theorem Declaration.runAll_declared (c : Collation) {parameters : List Parameter}
    (free : ∀ p ∈ parameters, ¬IsReserved p.bareName)
    (distinct : (parameters.map fun p => c.key p.reference).Nodup) {p : Parameter}
    (member : p ∈ parameters) :
    runAll c (c.positions (parameters.map Parameter.value)) (declared parameters) p.reference
      = some p.value := by
  have references := map_reference_declared parameters
  have keys : (declared parameters).map (fun d => c.key d.reference)
      = parameters.map fun p => c.key p.reference := by
    have keyed := congrArg (List.map c.key) references
    rw [List.map_map, List.map_map] at keyed
    exact keyed
  have apart : ∀ d ∈ declared parameters, ∀ position,
      c.key d.reference ≠ c.key (positionalName position) := by
    intro d declaredLine position
    have named : d.reference ∈ parameters.map Parameter.reference :=
      references ▸ List.mem_map_of_mem declaredLine
    obtain ⟨q, known, same⟩ := List.mem_map.mp named
    exact same ▸ c.key_reference_ne (free q known) position
  obtain ⟨place, inside, rfl⟩ := List.getElem_of_mem member
  have once : ((declared parameters).map fun d => c.key d.reference).Nodup := by
    rw [keys]
    exact distinct
  have read : runAll c (c.positions (parameters.map Parameter.value)) (declared parameters)
        (ofParameter (1 + place) parameters[place]).reference
      = c.positions (parameters.map Parameter.value) (positionalName (1 + place)) :=
    runAll_reference once apart (mem_declared inside)
  have bound : c.positions (parameters.map Parameter.value) (positionalName (1 + place))
      = some parameters[place].value := by
    rw [Collation.positions, Collation.positionsFrom_positionalName, List.getElem?_map,
      List.getElem?_eq_getElem inside, Option.map_some]
  exact read.trans bound

end EntitySql
