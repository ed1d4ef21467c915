import EntitySql.Error
import EntitySql.Text.Joined
/-!
# Entities

An entity is a list of named values in which no name repeats, a finite map that keeps the order
in which its properties were given. It is never changed: adding, replacing and removing make new
entities.

## Main definitions

* `Property`, `Property.declaredType`.
* `Entity`, `Entity.ofProperties`, `Entity.ofValues`.
* `Entity.get?`, `Entity.value`, `Entity.read`: looking a property up.
* `Entity.insert`, `Entity.erase`, `Entity.retain`: new entities.
* `Entity.sameProperties`: equality up to order.
* `Entity.text`: the plain form.

## Main results

* `firstRepeated?_eq_none_iff`: a list has no first repeated name exactly when its names are
  distinct and outside those seen before.
* `Entity.get?_of_mem`: properties are found by their names.
-/

namespace EntitySql

/-- A named value. -/
structure Property where
  name : String
  value : Value
  deriving BEq

/-- The type that a property declares: the absent value of the type of its value. -/
def Property.declaredType (p : Property) : Value :=
  p.value.tag

/-- The first name of a list that stands in front of it or is among those seen. -/
def firstRepeated? (seen : List String) : List String → Option String
  | [] => none
  | name :: rest => if name ∈ seen then some name else firstRepeated? (name :: seen) rest

/-- No name repeats exactly when the names are distinct and none was seen before. -/
theorem firstRepeated?_eq_none_iff {seen names : List String} :
    firstRepeated? seen names = none ↔ names.Nodup ∧ ∀ name ∈ names, name ∉ seen := by
  induction names generalizing seen with
  | nil => simp [firstRepeated?]
  | cons name rest ih =>
      by_cases h : name ∈ seen
      · simp [firstRepeated?, h]
      · simp only [firstRepeated?, h, if_false, ih, List.nodup_cons, List.mem_cons]
        constructor
        · rintro ⟨distinct, fresh⟩
          refine ⟨⟨fun inRest => (fresh name inRest) (.inl rfl), distinct⟩, ?_⟩
          rintro n (rfl | inRest)
          · exact h
          · exact fun inSeen => fresh n inRest (.inr inSeen)
        · rintro ⟨⟨notInRest, distinct⟩, fresh⟩
          refine ⟨distinct, fun n inRest => ?_⟩
          rintro (rfl | inSeen)
          · exact notInRest inRest
          · exact fresh n (.inr inRest) inSeen

/-- Of things with distinct names each is found by its name. -/
theorem find?_of_nodup {α : Type} {name : α → String} {things : List α}
    (distinct : (things.map name).Nodup) {a : α} (member : a ∈ things) :
    things.find? (fun b => name b == name a) = some a := by
  induction things with
  | nil => cases member
  | cons b rest ih =>
      obtain ⟨fresh, distinct⟩ := List.nodup_cons.mp distinct
      rcases List.mem_cons.mp member with rfl | member
      · exact List.find?_cons_of_pos (beq_self_eq_true _)
      · have named : name a ∈ rest.map name := List.mem_map_of_mem member
        have other : name b ≠ name a := fun same => fresh (same ▸ named)
        rw [List.find?_cons_of_neg (by simpa using other), ih distinct member]

/-- Named values, each name once, in the order they were given. -/
structure Entity where
  properties : List Property
  distinct : (properties.map Property.name).Nodup

instance : BEq Entity := ⟨fun a b => a.properties == b.properties⟩

namespace Entity

/-- The entity without properties. -/
def empty : Entity := ⟨[], by simp⟩

/-- The entity of properties, unless a name repeats. -/
def ofProperties (properties : List Property) : Except DatabaseError Entity :=
  match h : firstRepeated? [] (properties.map Property.name) with
  | some name => .error (.duplicateProperty name)
  | none => .ok ⟨properties, (firstRepeated?_eq_none_iff.mp h).1⟩

/-- The entity of names with values, unless a name repeats. -/
def ofValues (values : List (String × Value)) : Except DatabaseError Entity :=
  ofProperties (values.map fun (name, value) => ⟨name, value⟩)

/-- The number of properties. -/
def size (e : Entity) : Nat :=
  e.properties.length

/-- The names of the properties. -/
def names (e : Entity) : List String :=
  e.properties.map Property.name

/-! ### Looking up -/

/-- The property with a name. -/
def property? (e : Entity) (name : String) : Option Property :=
  e.properties.find? (·.name == name)

/-- The value of the property with a name. -/
def get? (e : Entity) (name : String) : Option Value :=
  (e.property? name).map Property.value

/-- Whether there is a property with a name. -/
def contains (e : Entity) (name : String) : Bool :=
  (e.property? name).isSome

/-- Each property of an entity is found by its name. -/
theorem get?_of_mem {e : Entity} {p : Property} (member : p ∈ e.properties) :
    e.get? p.name = some p.value := by
  rw [get?, property?, find?_of_nodup e.distinct member, Option.map_some]

/-- The value of the property with a name, or the error that there is none. -/
def value (e : Entity) (name : String) : Except DatabaseError Value :=
  match e.get? name with
  | some v => .ok v
  | none => .error (.keyNotFound name)

/-- The data that the property with a name is read as. -/
def read (e : Entity) (t : Target) (name : String) : Except DatabaseError t.Carrier := do
  (t.read (← e.value name)).mapError .refused

/-- The same, where an absent value is read as no data. -/
def readOptional (e : Entity) (t : Target) (name : String) :
    Except DatabaseError (Option t.Carrier) := do
  (t.readOptional (← e.value name)).mapError .refused

/-! ### New entities -/

/-- The properties with one replaced where its name stands, or added at the end. -/
def insertProperty (p : Property) : List Property → List Property
  | [] => [p]
  | q :: rest => if q.name = p.name then p :: rest else q :: insertProperty p rest

/-- The names after `insertProperty` are the names before it and the new one. -/
theorem mem_names_insertProperty {p : Property} {ps : List Property} {name : String} :
    name ∈ (insertProperty p ps).map Property.name
      ↔ name = p.name ∨ name ∈ ps.map Property.name := by
  induction ps with
  | nil => simp [insertProperty]
  | cons q rest ih =>
      by_cases h : q.name = p.name
      · simp [insertProperty, h]
      · simp only [insertProperty, h, if_false, List.map_cons, List.mem_cons, ih]
        exact or_left_comm

/-- `insertProperty` keeps names distinct. -/
theorem nodup_insertProperty {p : Property} {ps : List Property}
    (h : (ps.map Property.name).Nodup) : ((insertProperty p ps).map Property.name).Nodup := by
  induction ps with
  | nil => simp [insertProperty]
  | cons q rest ih =>
      rw [List.map_cons, List.nodup_cons] at h
      by_cases same : q.name = p.name
      · simp only [insertProperty, same, if_true, List.map_cons, List.nodup_cons]
        exact ⟨same ▸ h.1, h.2⟩
      · rw [insertProperty, if_neg same, List.map_cons, List.nodup_cons,
          mem_names_insertProperty]
        refine ⟨?_, ih h.2⟩
        rintro (equal | inRest)
        · exact same equal
        · exact h.1 inRest

/-- The entity in which a name has a value, at its place if it was there and at the end
otherwise. -/
def insert (e : Entity) (name : String) (value : Value) : Entity :=
  ⟨insertProperty ⟨name, value⟩ e.properties, nodup_insertProperty e.distinct⟩

/-- The entity with the properties of a class only. -/
def retain (e : Entity) (keep : Property → Bool) : Entity :=
  ⟨e.properties.filter keep, e.distinct.sublist ((List.filter_sublist).map _)⟩

/-- The entity without the property of a name. -/
def erase (e : Entity) (name : String) : Entity :=
  e.retain (·.name != name)

/-! ### Comparing and showing -/

/-- Whether two entities have the same names with the same values, in any order. -/
def sameProperties (a b : Entity) : Bool :=
  a.size == b.size && a.properties.all fun p => b.get? p.name == some p.value

/-- The plain form of an entity. -/
def text (e : Entity) : String :=
  "\x7b" ++ Text.joined ", " (e.properties.map fun p => p.name ++ ": " ++ p.value.plain) ++ "\x7d"

end Entity

end EntitySql
