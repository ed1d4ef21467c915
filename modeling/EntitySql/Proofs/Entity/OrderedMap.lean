import EntitySql.Proofs.Wire.DeclaredType
/-!
# Entities are ordered maps

An entity is a finite map from names to values that keeps the order of its properties. Only making
one of properties looks for repeated names; everything else relies on the names being distinct, and
keeps them so. Then a property is found by its name alone, a value is replaced at its place, and
what is kept or left out of an entity can be said both of its list of properties and of the values
that are found.

A run of edits is followed twice: on the bare list of properties, where the names stay distinct step
by step, and on the value of one name, which depends on nothing but its value before.

## Main definitions

* `Edit`, `Entity.edited`: the ways to make an entity of another, and several of them.
* `Edit.onProperties`, `Edit.onValue`: what they do to the list and to the value of a name.
* `Entity.IsOrderedMap`: the laws of a map in order.

## Main results

* `firstRepeated?_eq_some_iff`: the name that is reported as repeated.
* `Entity.ofProperties_eq_ok_iff`, `Entity.ofProperties_eq_error_iff`: which properties make an
  entity, and what is wrong with the others.
* `Entity.ofValues_eq_ok_iff`, `Wire.Row.entity_eq_ok_iff`: which names with values, and which rows.
* `Edit.nodup_onProperties`, `Edit.nodup_foldl_onProperties`: edits keep names distinct.
* `Entity.get?_apply`, `Entity.get?_edited`: the value of a name after edits.
* `Entity.edited_isOrderedMap`: all of this of every entity and every run of edits.
-/

namespace EntitySql

variable {e : Entity} {p : Property} {ps : List Property} {name : String}

/-! ### Repeated names -/

/-- **The name that is reported** is the first one that was seen before: in front of it no name
repeats. -/
theorem firstRepeated?_eq_some_iff {seen names : List String} :
    firstRepeated? seen names = some name ↔ ∃ before after, names = before ++ name :: after
      ∧ before.Nodup ∧ (∀ n ∈ before, n ∉ seen) ∧ (name ∈ seen ∨ name ∈ before) := by
  induction names generalizing seen with
  | nil => simp [firstRepeated?]
  | cons first rest ih =>
      rw [firstRepeated?]
      by_cases known : first ∈ seen
      · rw [if_pos known, Option.some.injEq]
        constructor
        · rintro rfl
          exact ⟨[], rest, rfl, List.nodup_nil, by simp, .inl known⟩
        · rintro ⟨before, after, cut, -, fresh, -⟩
          cases before with
          | nil => exact (List.cons.inj cut).1
          | cons front before =>
              obtain ⟨rfl, -⟩ := List.cons.inj cut
              exact absurd known (fresh first List.mem_cons_self)
      · rw [if_neg known, ih]
        constructor
        · rintro ⟨before, after, rfl, distinct, fresh, again⟩
          refine ⟨first :: before, after, rfl, List.nodup_cons.mpr ⟨?_, distinct⟩, ?_, ?_⟩
          · exact fun member => fresh first member List.mem_cons_self
          · exact List.forall_mem_cons.mpr
              ⟨known, fun n member seen => fresh n member (List.mem_cons_of_mem _ seen)⟩
          · rcases again with seen | inside
            · rcases List.mem_cons.mp seen with rfl | seen
              · exact .inr List.mem_cons_self
              · exact .inl seen
            · exact .inr (List.mem_cons_of_mem _ inside)
        · rintro ⟨before, after, cut, distinct, fresh, again⟩
          cases before with
          | nil =>
              obtain ⟨rfl, -⟩ := List.cons.inj cut
              exact absurd (again.resolve_right List.not_mem_nil) known
          | cons front before =>
              obtain ⟨rfl, rfl⟩ := List.cons.inj cut
              obtain ⟨unrepeated, distinct⟩ := List.nodup_cons.mp distinct
              obtain ⟨-, fresh⟩ := List.forall_mem_cons.mp fresh
              refine ⟨before, after, rfl, distinct, fun n member => ?_, ?_⟩
              · refine List.not_mem_cons_of_ne_of_not_mem ?_ (fresh n member)
                rintro rfl
                exact unrepeated member
              · rcases again with seen | inside
                · exact .inl (List.mem_cons_of_mem _ seen)
                · rcases List.mem_cons.mp inside with rfl | inside
                  · exact .inl List.mem_cons_self
                  · exact .inr inside

/-- The name that is reported of named things is that of the first one whose name stands in front of
it. -/
theorem firstRepeated?_map_eq_some_iff {α : Type} {nameOf : α → String} {things : List α} :
    firstRepeated? [] (things.map nameOf) = some name
      ↔ ∃ before thing after, things = before ++ thing :: after ∧ nameOf thing = name
        ∧ (before.map nameOf).Nodup ∧ name ∈ before.map nameOf := by
  rw [firstRepeated?_eq_some_iff]
  constructor
  · rintro ⟨before, after, cut, distinct, -, again⟩
    obtain ⟨front, tail, rfl, rfl, named⟩ := List.map_eq_append_iff.mp cut
    obtain ⟨thing, behind, rfl, same, -⟩ := List.map_eq_cons_iff.mp named
    exact ⟨front, thing, behind, rfl, same, distinct, again.resolve_left List.not_mem_nil⟩
  · rintro ⟨before, thing, after, rfl, rfl, distinct, again⟩
    exact ⟨before.map nameOf, after.map nameOf, List.map_append, distinct,
      fun _ _ => List.not_mem_nil, .inr again⟩

namespace Entity

/-- **Properties make an entity exactly if their names are distinct**, and it has them in order. -/
theorem ofProperties_eq_ok_iff :
    ofProperties ps = .ok e ↔ (ps.map Property.name).Nodup ∧ e.properties = ps := by
  rw [ofProperties]
  split
  next name repeated =>
    constructor
    · intro made
      cases made
    · rintro ⟨distinct, -⟩
      have unrepeated : firstRepeated? [] (ps.map Property.name) = none :=
        firstRepeated?_eq_none_iff.mpr ⟨distinct, fun _ _ => List.not_mem_nil⟩
      rw [unrepeated] at repeated
      cases repeated
  next unrepeated =>
    constructor
    · intro made
      obtain rfl := Except.ok.inj made
      exact ⟨(firstRepeated?_eq_none_iff.mp unrepeated).1, rfl⟩
    · rintro ⟨distinct, rfl⟩
      rfl

/-- What is wrong with properties that make no entity is the name that is reported as repeated. -/
theorem ofProperties_eq_error_iff_repeated {error : DatabaseError} : ofProperties ps = .error error
    ↔ ∃ name, firstRepeated? [] (ps.map Property.name) = some name
      ∧ error = .duplicateProperty name := by
  rw [ofProperties]
  split
  next name repeated =>
    rw [repeated, Except.error.injEq]
    constructor
    · rintro rfl
      exact ⟨name, rfl, rfl⟩
    · rintro ⟨_, ⟨⟩, rfl⟩
      rfl
  next unrepeated =>
    constructor
    · intro fault
      cases fault
    · rintro ⟨name, repeated, -⟩
      rw [unrepeated] at repeated
      cases repeated

/-- **The name of the first property whose name stands in front of it** is what is wrong with
properties that make no entity. -/
theorem ofProperties_eq_error_iff {error : DatabaseError} : ofProperties ps = .error error
    ↔ ∃ before p after, ps = before ++ p :: after ∧ (before.map Property.name).Nodup
      ∧ p.name ∈ before.map Property.name ∧ error = .duplicateProperty p.name := by
  rw [ofProperties_eq_error_iff_repeated]
  constructor
  · rintro ⟨name, repeated, rfl⟩
    obtain ⟨before, p, after, rfl, rfl, distinct, again⟩ :=
      firstRepeated?_map_eq_some_iff.mp repeated
    exact ⟨before, p, after, rfl, distinct, again, rfl⟩
  · rintro ⟨before, p, after, rfl, distinct, again, rfl⟩
    exact ⟨p.name, firstRepeated?_map_eq_some_iff.mpr
      ⟨before, p, after, rfl, rfl, distinct, again⟩, rfl⟩

/-- Names with values make an entity exactly if the names are distinct. -/
theorem ofValues_eq_ok_iff {values : List (String × Value)} :
    ofValues values = .ok e ↔ (values.map Prod.fst).Nodup
      ∧ e.properties = values.map fun (name, value) => ⟨name, value⟩ := by
  rw [ofValues, ofProperties_eq_ok_iff, List.map_map]
  rfl

end Entity

/-- The properties of a row have the names of its columns. -/
theorem Wire.Row.map_name_of_properties {row : Wire.Row} (decoded : row.properties = .ok ps) :
    ps.map Property.name = row.map Prod.fst := by
  have cells := properties_eq_ok_iff.mp decoded
  clear decoded
  induction cells with
  | nil => rfl
  | cons first _ ih => rw [List.map_cons, List.map_cons, first.1, ih]

/-- A row makes an entity exactly if it can be decoded and its columns have distinct names. -/
theorem Wire.Row.entity_eq_ok_iff {row : Wire.Row} :
    row.entity = .ok e ↔ (row.map Prod.fst).Nodup ∧ row.properties = .ok e.properties := by
  constructor
  · intro made
    have decoded := properties_of_entity made
    exact ⟨map_name_of_properties decoded ▸ e.distinct, decoded⟩
  · rintro ⟨-, decoded⟩
    rw [entity, decoded]
    dsimp only
    rw [Entity.ofProperties_eq_ok_iff.mpr ⟨e.distinct, rfl⟩]
    rfl

/-! ### Edits -/

/-- A way to make an entity of another one. -/
inductive Edit where
  | insert (name : String) (value : Value)
  | erase (name : String)
  | retain (keep : Property → Bool)

namespace Edit

/-- The entity that an edit makes. -/
def apply (e : Entity) : Edit → Entity
  | insert name value => e.insert name value
  | erase name => e.erase name
  | retain keep => e.retain keep

/-- What an edit does to a list of properties, whatever their names are. -/
def onProperties (ps : List Property) : Edit → List Property
  | insert name value => Entity.insertProperty ⟨name, value⟩ ps
  | erase name => ps.filter (·.name != name)
  | retain keep => ps.filter keep

/-- What an edit does to the value of a name. -/
def onValue (name : String) (value? : Option Value) : Edit → Option Value
  | insert other value => if name = other then some value else value?
  | erase other => if name = other then none else value?
  | retain keep => value?.filter fun value => keep ⟨name, value⟩

/-- **An edit keeps names distinct.** -/
theorem nodup_onProperties (distinct : (ps.map Property.name).Nodup) (edit : Edit) :
    ((edit.onProperties ps).map Property.name).Nodup := by
  cases edit with
  | insert name value => exact Entity.nodup_insertProperty distinct
  | erase name => exact distinct.sublist (List.filter_sublist.map _)
  | retain keep => exact distinct.sublist (List.filter_sublist.map _)

/-- Edits keep names distinct. -/
theorem nodup_foldl_onProperties (distinct : (ps.map Property.name).Nodup) (edits : List Edit) :
    ((edits.foldl onProperties ps).map Property.name).Nodup := by
  induction edits generalizing ps with
  | nil => exact distinct
  | cons edit rest ih => exact ih (nodup_onProperties distinct edit)

/-- An edit of an entity edits its list of properties, and nothing else. -/
theorem properties_apply (e : Entity) (edit : Edit) :
    (edit.apply e).properties = edit.onProperties e.properties := by
  cases edit <;> rfl

end Edit

namespace Entity

/-- The entity that edits make, one after the other. -/
def edited (e : Entity) (edits : List Edit) : Entity :=
  edits.foldl Edit.apply e

/-- Edits are made on the list of properties. -/
theorem properties_edited (e : Entity) (edits : List Edit) :
    (e.edited edits).properties = edits.foldl Edit.onProperties e.properties := by
  induction edits generalizing e with
  | nil => rfl
  | cons edit rest ih =>
      rw [edited, List.foldl_cons, List.foldl_cons, ← Edit.properties_apply]
      exact ih (edit.apply e)

/-! ### Places -/

/-- A value is replaced at its place, and nothing else is changed. -/
theorem insertProperty_of_mem (distinct : (ps.map Property.name).Nodup)
    (member : p.name ∈ ps.map Property.name) :
    insertProperty p ps = ps.map fun q => if q.name = p.name then p else q := by
  induction ps with
  | nil => cases member
  | cons q rest ih =>
      obtain ⟨fresh, distinct⟩ := List.nodup_cons.mp distinct
      by_cases same : q.name = p.name
      · have others : rest.map (fun q => if q.name = p.name then p else q) = rest := by
          have kept : ∀ r ∈ rest, (if r.name = p.name then p else r) = id r := by
            refine fun r inRest => if_neg fun named => fresh ?_
            rw [same, ← named]
            exact List.mem_map_of_mem inRest
          rw [List.map_congr_left kept, List.map_id]
        rw [insertProperty, if_pos same, List.map_cons, if_pos same, others]
      · have inRest : p.name ∈ rest.map Property.name :=
          (List.mem_cons.mp member).resolve_left (Ne.symm same)
        rw [insertProperty, if_neg same, List.map_cons, if_neg same, ih distinct inRest]

/-- A new name comes last. -/
theorem insertProperty_of_notMem (fresh : p.name ∉ ps.map Property.name) :
    insertProperty p ps = ps ++ [p] := by
  induction ps with
  | nil => rfl
  | cons q rest ih =>
      obtain ⟨other, fresh⟩ := List.ne_and_not_mem_of_not_mem_cons fresh
      rw [insertProperty, if_neg (Ne.symm other), ih fresh, List.cons_append]

/-! ### Values -/

/-- The property that was inserted is found by its name, and the others as before. -/
theorem find?_insertProperty : (insertProperty p ps).find? (·.name == name)
    = if name = p.name then some p else ps.find? (·.name == name) := by
  induction ps with
  | nil => by_cases named : name = p.name <;> simp [insertProperty, named, Ne.symm]
  | cons q rest ih =>
      by_cases same : q.name = p.name
      · rw [insertProperty, if_pos same]
        by_cases named : name = p.name
        · rw [if_pos named, List.find?_cons_of_pos (by simp [named])]
        · rw [if_neg named, List.find?_cons_of_neg (by simpa using Ne.symm named),
            List.find?_cons_of_neg (by simpa [same] using Ne.symm named)]
      · rw [insertProperty, if_neg same]
        by_cases named : q.name = name
        · rw [List.find?_cons_of_pos (by simp [named]), List.find?_cons_of_pos (by simp [named]),
            if_neg (named ▸ same)]
        · rw [List.find?_cons_of_neg (by simp [named]), List.find?_cons_of_neg (by simp [named]),
            ih]

/-- A kept property is found by its name if the names are distinct. -/
theorem find?_filter_of_nodup (distinct : (ps.map Property.name).Nodup) (keep : Property → Bool) :
    (ps.filter keep).find? (·.name == name) = (ps.find? (·.name == name)).filter keep := by
  induction ps with
  | nil => rfl
  | cons q rest ih =>
      obtain ⟨fresh, distinct⟩ := List.nodup_cons.mp distinct
      by_cases named : q.name = name
      · subst named
        rw [List.find?_cons_of_pos (l := rest) (by simp)]
        by_cases kept : keep q = true
        · rw [List.filter_cons_of_pos kept, List.find?_cons_of_pos (by simp),
            Option.filter_some_pos kept]
        · have absent : (rest.filter keep).find? (·.name == q.name) = none := by
            refine List.find?_eq_none.mpr fun r inRest same => fresh ?_
            rw [← eq_of_beq same]
            exact List.mem_map_of_mem (List.mem_of_mem_filter inRest)
          rw [List.filter_cons_of_neg kept, absent,
            Option.filter_some_neg (Bool.eq_false_iff.mpr kept)]
      · rw [List.find?_cons_of_neg (l := rest) (by simp [named])]
        by_cases kept : keep q = true
        · rw [List.filter_cons_of_pos kept, List.find?_cons_of_neg (by simp [named]), ih distinct]
        · rw [List.filter_cons_of_neg kept, ih distinct]

/-- Retaining properties keeps or loses the value of a name as the test on its property says. -/
theorem get?_retain (e : Entity) (keep : Property → Bool) (name : String) :
    (e.retain keep).get? name = (e.get? name).filter fun value => keep ⟨name, value⟩ := by
  rw [get?, property?, retain, find?_filter_of_nodup e.distinct, get?, property?]
  cases found : e.properties.find? (·.name == name) with
  | none => rfl
  | some q =>
      have named := List.find?_some found
      obtain rfl := eq_of_beq named
      by_cases kept : keep q = true <;> simp [kept, Option.filter_some]

/-- **The value of a name after an edit** depends on nothing but its value before. -/
theorem get?_apply (e : Entity) (edit : Edit) (name : String) :
    (edit.apply e).get? name = edit.onValue name (e.get? name) := by
  cases edit with
  | insert other value =>
      rw [Edit.apply, get?, property?, insert, find?_insertProperty, Edit.onValue]
      split <;> rfl
  | erase other =>
      rw [Edit.apply, erase, get?_retain, Edit.onValue]
      by_cases same : name = other <;> cases e.get? name <;> simp [same, Option.filter_some]
  | retain keep => exact get?_retain e keep name

/-- The value of a name after several edits. -/
theorem get?_edited (e : Entity) (edits : List Edit) (name : String) :
    (e.edited edits).get? name = edits.foldl (Edit.onValue name) (e.get? name) := by
  induction edits generalizing e with
  | nil => rfl
  | cons edit rest ih =>
      rw [edited, List.foldl_cons, List.foldl_cons, ← get?_apply]
      exact ih (edit.apply e)

/-! ### Laws -/

/-- The laws of a finite map that keeps its order: names are distinct, a value is found under the
name that it was given last, and an edit leaves everything else where it was. -/
structure IsOrderedMap (e : Entity) : Prop where
  distinct : e.names.Nodup
  get?_insert : ∀ name value other,
    (e.insert name value).get? other = if other = name then some value else e.get? other
  get?_erase : ∀ name other,
    (e.erase name).get? other = if other = name then none else e.get? other
  get?_retain : ∀ keep name,
    (e.retain keep).get? name = (e.get? name).filter fun value => keep ⟨name, value⟩
  /-- A value is replaced at its place. -/
  insert_of_mem : ∀ name value, name ∈ e.names →
    (e.insert name value).properties = e.properties.map fun p =>
      if p.name = name then ⟨name, value⟩ else p
  /-- A new name comes last. -/
  insert_of_notMem : ∀ name value, name ∉ e.names →
    (e.insert name value).properties = e.properties ++ [⟨name, value⟩]
  /-- What is not erased keeps its order. -/
  properties_erase : ∀ name,
    (e.erase name).properties = e.properties.filter fun p => p.name ≠ name
  /-- The properties that are kept are those of the class, in their order. -/
  properties_retain : ∀ keep, (e.retain keep).properties = e.properties.filter keep

/-- Every entity is an ordered map, since names are distinct by its own field. -/
theorem isOrderedMap (e : Entity) : e.IsOrderedMap where
  distinct := e.distinct
  get?_insert name value other := get?_apply e (.insert name value) other
  get?_erase name other := get?_apply e (.erase name) other
  get?_retain keep name := get?_apply e (.retain keep) name
  insert_of_mem name value member := insertProperty_of_mem e.distinct member
  insert_of_notMem name value fresh := insertProperty_of_notMem fresh
  properties_erase name := by
    refine List.filter_congr fun p _ => ?_
    simp [bne, Bool.beq_eq_decide_eq]
  properties_retain _ := rfl

/-- **An entity is a finite map that keeps its order.** Properties, names with values and rows make
one exactly if their names are distinct, and the first name that stood before is reported otherwise.
Whatever edits are made of an entity, names stay distinct, the laws of a map in order hold, and the
value of each name is what the edits make of its value before. -/
theorem edited_isOrderedMap :
    (∀ (e : Entity) (edits : List Edit),
      ((edits.foldl Edit.onProperties e.properties).map Property.name).Nodup
        ∧ (e.edited edits).properties = edits.foldl Edit.onProperties e.properties
        ∧ (e.edited edits).IsOrderedMap
        ∧ ∀ name, (e.edited edits).get? name = edits.foldl (Edit.onValue name) (e.get? name))
      ∧ empty.properties = []
      ∧ (∀ ps e, ofProperties ps = .ok e ↔ (ps.map Property.name).Nodup ∧ e.properties = ps)
      ∧ (∀ ps error, ofProperties ps = .error error
        ↔ ∃ before p after, ps = before ++ p :: after ∧ (before.map Property.name).Nodup
          ∧ p.name ∈ before.map Property.name ∧ error = .duplicateProperty p.name)
      ∧ (∀ values e, ofValues values = .ok e ↔ (values.map Prod.fst).Nodup
        ∧ e.properties = values.map fun (name, value) => ⟨name, value⟩)
      ∧ ∀ (row : Wire.Row) e, row.entity = .ok e
        ↔ (row.map Prod.fst).Nodup ∧ row.properties = .ok e.properties :=
  ⟨fun e edits => ⟨Edit.nodup_foldl_onProperties e.distinct edits, properties_edited e edits,
      isOrderedMap _, get?_edited e edits⟩,
    rfl, fun _ _ => ofProperties_eq_ok_iff, fun _ _ => ofProperties_eq_error_iff,
    fun _ _ => ofValues_eq_ok_iff, fun _ _ => Wire.Row.entity_eq_ok_iff⟩

end Entity

end EntitySql
