import EntitySql.Proofs.Statement.Parameter
import EntitySql.Query.Basic
import Mathlib.Data.List.Nodup
/-!
# The parameters of a query

Every level of a query registers parameters, and a name may be registered on several levels and
with any number of markers. The parameters of the query have each name once: the registration that
counts is the first one, outermost level first.

## Main definitions

* `Query.registrations`: what the levels register, outermost first.
* `Query.FirstRegistrations`: parameters that are the first registrations of their names.

## Main results

* `Query.firstOfEachName_eq`: leaving out repeated names keeps the first of each.
* `Query.firstRegistrations_allParameters`: the parameters of a query are the first registrations.
-/

namespace EntitySql

/-- What the levels of a query register, outermost first. -/
def Query.registrations (q : Query) : List Parameter :=
  q.levels.flatMap Level.parameters

/-- **The first registrations of their names** in a query: the names are distinct, have one marker,
and are those that some level registers; a parameter has the value of the first registration of its
name; and the parameters stand in the order of these registrations. -/
structure Query.FirstRegistrations (q : Query) (parameters : List Parameter) : Prop where
  distinct : (parameters.map Parameter.name).Nodup
  marked : ∀ p ∈ parameters, p.name = "@" ++ p.bareName
    ∧ p.bareName.toList.head? ≠ some parameterMarker
  registered : ∀ name, name ∈ parameters.map Parameter.bareName ↔
    ∃ level ∈ q.levels, ∃ r ∈ level.parameters, r.bareName = name
  first : ∀ p ∈ parameters, ∃ front r behind, q.registrations = front ++ r :: behind
    ∧ r.bareName = p.bareName ∧ r.value = p.value ∧ ∀ s ∈ front, s.bareName ≠ p.bareName
  inOrder : parameters = (q.registrations.zipIdx.filter fun x =>
    (q.registrations.take x.2).all fun r => r.bareName != x.1.bareName).map fun x => x.1.normalized

namespace Query

/-! ### The first of each name -/

/-- The first of each name have all names that have not been seen before. -/
theorem mem_names_firstOfEachName {seen : List String} {parameters : List Parameter}
    {name : String} :
    name ∈ (firstOfEachName seen parameters).map Parameter.name ↔
      name ∈ parameters.map Parameter.name ∧ name ∉ seen := by
  induction parameters generalizing seen with
  | nil => simp [firstOfEachName]
  | cons p rest ih =>
      rw [firstOfEachName]
      by_cases known : p.name ∈ seen
      · rw [if_pos known, ih, List.map_cons, List.mem_cons]
        constructor
        · rintro ⟨later, fresh⟩
          exact ⟨.inr later, fresh⟩
        · rintro ⟨rfl | later, fresh⟩
          · exact absurd known fresh
          · exact ⟨later, fresh⟩
      · rw [if_neg known, List.map_cons, List.map_cons, List.mem_cons, List.mem_cons, ih,
          List.mem_cons]
        constructor
        · rintro (rfl | ⟨later, fresh⟩)
          · exact ⟨.inl rfl, known⟩
          · exact ⟨.inr later, fun old => fresh (.inr old)⟩
        · rintro ⟨rfl | later, fresh⟩
          · exact .inl rfl
          · by_cases same : name = p.name
            · exact .inl same
            · exact .inr ⟨later, fun old => old.elim same fresh⟩

/-- No name is left twice. -/
theorem nodup_firstOfEachName (seen : List String) (parameters : List Parameter) :
    ((firstOfEachName seen parameters).map Parameter.name).Nodup := by
  induction parameters generalizing seen with
  | nil => exact List.nodup_nil
  | cons p rest ih =>
      rw [firstOfEachName]
      split
      · exact ih seen
      · rw [List.map_cons, List.nodup_cons, mem_names_firstOfEachName]
        exact ⟨fun later => later.2 List.mem_cons_self, ih _⟩

/-- Behind some parameters whose names have been seen, those are left whose name none has in front
of them. -/
theorem firstOfEachName_eq {seen : List String} {front : List Parameter}
    (names : ∀ name, name ∈ seen ↔ name ∈ front.map Parameter.name)
    (parameters : List Parameter) :
    firstOfEachName seen parameters
      = ((parameters.zipIdx front.length).filter fun x =>
          ((front ++ parameters).take x.2).all fun r => r.name != x.1.name).map Prod.fst := by
  induction parameters generalizing seen front with
  | nil => rfl
  | cons p rest ih =>
      -- the parameter is left exactly when its name is not among those seen
      have fresh : (((front ++ p :: rest).take front.length).all fun r => r.name != p.name)
          = decide (p.name ∉ seen) := by
        rw [List.take_left, Bool.eq_iff_iff, decide_eq_true_iff, names]
        simp
      have whole : front ++ p :: rest = front ++ [p] ++ rest := by simp
      have length : front.length + 1 = (front ++ [p]).length := by simp
      rw [List.zipIdx_cons, List.filter_cons, fresh, firstOfEachName, length, whole]
      by_cases known : p.name ∈ seen
      · have names' : ∀ name, name ∈ seen ↔ name ∈ (front ++ [p]).map Parameter.name := by
          intro name
          rw [List.map_append, List.mem_append, ← names, List.map_singleton, List.mem_singleton]
          exact ⟨.inl, fun old => old.elim id fun same => same ▸ known⟩
        simp only [known, if_true, not_true_eq_false, decide_false, Bool.false_eq_true, if_false]
        exact ih names'
      · have names' : ∀ name, name ∈ p.name :: seen ↔
            name ∈ (front ++ [p]).map Parameter.name := by
          intro name
          rw [List.map_append, List.mem_append, ← names, List.map_singleton, List.mem_singleton,
            List.mem_cons, or_comm]
        simp only [known, if_false, not_false_eq_true, decide_true, if_true, List.map_cons]
        rw [ih names']

end Query

/-! ### Normalized parameters -/

/-- A bare name has no marker in front. -/
theorem head?_bareName_ne_marker (name : String) :
    (bareName name).toList.head? ≠ some parameterMarker := by
  intro marked
  rw [bareName, String.toList_ofList] at marked
  have stopped := List.head?_dropWhile_not (· == parameterMarker) name.toList
  rw [marked] at stopped
  simp at stopped

namespace Parameter

/-- Bringing the marker of a parameter into form keeps its bare name. -/
theorem bareName_normalized (p : Parameter) : p.normalized.bareName = p.bareName :=
  bareName_marked (head?_bareName_ne_marker p.name)

/-- Normalized names are the same when the bare names are. -/
theorem reference_eq_iff {p r : Parameter} : p.reference = r.reference ↔ p.bareName = r.bareName :=
  ⟨fun same => marked_injective same, congrArg ("@" ++ ·)⟩

end Parameter

/-! ### The parameters of a query -/

namespace Query

variable (q : Query)

/-- The parameters of a query are the first of each name among its registrations. -/
theorem allParameters_eq_firstOfEachName :
    q.allParameters = firstOfEachName [] (q.registrations.map Parameter.normalized) := by
  rw [allParameters, registrations, List.map_flatMap]

/-- The parameters are the registrations with no other one of the name in front of them. -/
theorem allParameters_eq_filter :
    q.allParameters = (q.registrations.zipIdx.filter fun x =>
      (q.registrations.take x.2).all fun r => r.bareName != x.1.bareName).map
        fun x => x.1.normalized := by
  have names (r p : Parameter) :
      (r.normalized.name != p.normalized.name) = (r.bareName != p.bareName) := by
    rw [Bool.eq_iff_iff, bne_iff_ne, bne_iff_ne]
    exact not_congr Parameter.reference_eq_iff
  have nothing : ∀ name, name ∈ ([] : List String) ↔
      name ∈ ([] : List Parameter).map Parameter.name := fun _ => Iff.rfl
  rw [allParameters_eq_firstOfEachName, firstOfEachName_eq nothing, List.length_nil,
    List.zipIdx_map, List.filter_map, List.map_map, List.nil_append]
  simp only [Function.comp_def, Prod.map, id, ← List.map_take, List.all_map, names]

/-- Every parameter of a query is one that a level registers, with its marker brought into form. -/
theorem exists_of_mem_allParameters {p : Parameter} (member : p ∈ q.allParameters) :
    ∃ r ∈ q.registrations, p = r.normalized := by
  rw [allParameters_eq_filter] at member
  obtain ⟨x, kept, rfl⟩ := List.mem_map.mp member
  exact ⟨x.1, List.fst_mem_of_mem_zipIdx (List.mem_filter.mp kept).1, rfl⟩

/-- The bare names of the parameters are those that some level registers. -/
theorem mem_bareNames_allParameters {name : String} :
    name ∈ q.allParameters.map Parameter.bareName ↔
      ∃ level ∈ q.levels, ∃ r ∈ level.parameters, r.bareName = name := by
  have registered : (∃ level ∈ q.levels, ∃ r ∈ level.parameters, r.bareName = name) ↔
      ∃ r ∈ q.registrations, r.bareName = name := by
    simp only [registrations, List.mem_flatMap]
    constructor
    · rintro ⟨level, inside, r, known, named⟩
      exact ⟨r, ⟨level, inside, known⟩, named⟩
    · rintro ⟨r, ⟨level, inside, known⟩, named⟩
      exact ⟨level, inside, r, known, named⟩
  rw [registered, List.mem_map]
  constructor
  · rintro ⟨p, member, rfl⟩
    obtain ⟨r, known, rfl⟩ := q.exists_of_mem_allParameters member
    exact ⟨r, known, r.bareName_normalized.symm⟩
  · rintro ⟨r, known, rfl⟩
    have named : r.normalized.name ∈ q.allParameters.map Parameter.name := by
      rw [allParameters_eq_firstOfEachName, mem_names_firstOfEachName]
      exact ⟨List.mem_map_of_mem (List.mem_map_of_mem known), List.not_mem_nil⟩
    obtain ⟨p, member, same⟩ := List.mem_map.mp named
    refine ⟨p, member, ?_⟩
    obtain ⟨s, -, rfl⟩ := q.exists_of_mem_allParameters member
    rw [Parameter.bareName_normalized]
    exact Parameter.reference_eq_iff.mp same

/-- **The parameters of a query are the first registrations of their names.** -/
theorem firstRegistrations_allParameters : q.FirstRegistrations q.allParameters where
  distinct := by
    rw [allParameters_eq_firstOfEachName]
    exact nodup_firstOfEachName _ _
  marked p member := by
    obtain ⟨r, -, rfl⟩ := q.exists_of_mem_allParameters member
    rw [Parameter.bareName_normalized]
    exact ⟨rfl, head?_bareName_ne_marker r.name⟩
  registered _ := q.mem_bareNames_allParameters
  first p member := by
    rw [allParameters_eq_filter] at member
    obtain ⟨x, kept, rfl⟩ := List.mem_map.mp member
    obtain ⟨known, fresh⟩ := List.mem_filter.mp kept
    obtain ⟨inside, found⟩ := List.getElem?_eq_some_iff.mp (List.mem_zipIdx_iff_getElem?.mp known)
    refine ⟨q.registrations.take x.2, x.1, q.registrations.drop (x.2 + 1), ?_, ?_, rfl, ?_⟩
    · rw [← found, ← List.drop_eq_getElem_cons inside, List.take_append_drop]
    · exact x.1.bareName_normalized.symm
    · intro s before
      rw [Parameter.bareName_normalized]
      simpa using List.all_eq_true.mp fresh s before
  inOrder := q.allParameters_eq_filter

end Query

end EntitySql
