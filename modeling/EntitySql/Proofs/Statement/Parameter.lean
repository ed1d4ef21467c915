import EntitySql.Proofs.Statement.Written
import EntitySql.Proofs.Text.Digit
import EntitySql.Statement.Declaration
/-!
# Names of parameters

A parameter is referred to by its bare name behind one marker, and is declared unless its bare
name is one of the positional names of the protocol. Ordinals and fixed words are neither changed
by the marker nor positional.

## Main results

* `bareName_marked`: one marker in front of a bare name is taken off.
* `isPositional_eq_false`: names that do not begin with the letter P are not positional.
* `declarations_result_eq_ok_iff`: parameters can be declared when no name is positional.
-/

namespace EntitySql

open EntitySql.Text

/-! ### Bare names -/

/-- A marker in front of a name that has none is all that is taken off. -/
theorem bareName_marked {name : String} (bare : name.toList.head? ≠ some parameterMarker) :
    bareName ("@" ++ name) = name := by
  have stop : name.toList.dropWhile (· == parameterMarker) = name.toList := by
    cases chars : name.toList with
    | nil => rfl
    | cons c rest =>
        have other : (c == parameterMarker) = false := by
          rw [chars] at bare
          simpa using bare
        rw [List.dropWhile_cons_of_neg (by simp [other])]
  have marker : "@".toList = [parameterMarker] := by decide
  rw [bareName, String.toList_append, marker, List.singleton_append,
    List.dropWhile_cons_of_pos (by decide), stop, String.ofList_toList]

/-- A marker in front keeps names apart. -/
theorem marked_injective : Function.Injective fun name : String => "@" ++ name :=
  fun _ _ => (String.append_right_inj "@").mp

/-- A parameter named by a marker and a bare name is referred to by its name. -/
theorem Parameter.reference_marked {name : String} (v : Value)
    (bare : name.toList.head? ≠ some parameterMarker) :
    Parameter.reference ⟨"@" ++ name, v⟩ = "@" ++ name := by
  rw [Parameter.reference, Parameter.bareName, bareName_marked bare]

/-- A numeral has no marker in front. -/
theorem head?_natText_ne_marker (n : Nat) :
    (natText n).toList.head? ≠ some parameterMarker := by
  intro head
  rw [natText, String.toList_ofList] at head
  exact absurd (isDigit_of_mem_numeral (List.mem_of_head? head)) (by decide)

/-- A numeral behind a marker is the bare name of its ordinal. -/
theorem bareName_natText (n : Nat) : bareName ("@" ++ natText n) = natText n :=
  bareName_marked (head?_natText_ne_marker n)

/-! ### Declarations -/

/-- A name is not positional unless it begins with the letter P. -/
theorem isPositional_eq_false {name : String} (upper : name.toList.head? ≠ some 'P')
    (lower : name.toList.head? ≠ some 'p') : isPositional name = false := by
  rw [isPositional]
  split
  next digits chars => exact absurd (congrArg List.head? chars) upper
  next digits chars => exact absurd (congrArg List.head? chars) lower
  next => rfl

/-- No numeral is a name that is reserved for positions, as it has no letter in front. -/
theorem isPositional_natText (n : Nat) : isPositional (natText n) = false := by
  refine isPositional_eq_false ?_ ?_ <;> intro head <;>
    rw [natText, String.toList_ofList] at head <;>
    exact absurd (isDigit_of_mem_numeral (List.mem_of_head? head)) (by decide)

/-- The lines for parameters are written when no name is positional. -/
theorem declarationsFrom_result_eq_ok_iff {parameters : List Parameter} (position : Nat) :
    (declarationsFrom position parameters).result = .ok () ↔
      ∀ p ∈ parameters, isPositional p.bareName = false := by
  induction parameters generalizing position with
  | nil => exact ⟨fun _ => nofun, fun _ => rfl⟩
  | cons p rest ih =>
      rw [declarationsFrom, List.forall_mem_cons]
      cases positional : isPositional p.bareName with
      | true => exact ⟨nofun, fun h => nomatch h.1⟩
      | false =>
          rw [if_neg Bool.false_ne_true, Written.write_bind]
          exact ⟨fun h => ⟨rfl, (ih (position + 1)).mp h⟩, fun h => (ih (position + 1)).mpr h.2⟩

/-- Parameters can be declared when no name is positional. -/
theorem declarations_result_eq_ok_iff {parameters : List Parameter} :
    (declarations parameters).result = .ok () ↔
      ∀ p ∈ parameters, isPositional p.bareName = false :=
  declarationsFrom_result_eq_ok_iff 1

end EntitySql
