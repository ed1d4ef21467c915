import EntitySql.Proofs.Entity.OrderedMap
import EntitySql.Proofs.Value.Equality
import Mathlib.Data.List.Perm.Basic
import Mathlib.Data.List.Perm.Subperm
/-!
# Comparing entities in any order

Two entities have the same properties if those of the one can be put in an order in which they are
the same, one by one, as those of the other. The comparison looks for the properties of the first
entity in the second one and never the other way round. This is enough because names are distinct:
properties of different names are found at different places, and as there are as many on either
side, no place is left over.

Matching is symmetric, transitive and blind to the order because equality of values is symmetric and
transitive. It is not reflexive: a binary number that is none equals nothing.

## Main definitions

* `Property.Same`, `Entity.Matches`: properties that are the same, and entities that match one to
  one.

## Main results

* `Entity.sameProperties_iff_forall`: what is looked for.
* `Entity.sameProperties_iff_matches`: nothing is left over.
* `Entity.Matches.symm`, `Entity.Matches.trans`, `Entity.Matches.reorder`.
* `Entity.sameProperties_up_to_order`: all of this of the comparison.
-/

namespace EntitySql

open Number

/-! ### Matching -/

/-- Properties of one name with equal values. -/
def Property.Same (p q : Property) : Prop :=
  p.name = q.name ∧ (p.value == q.value) = true

/-- Being the same property is symmetric. -/
theorem Property.Same.symm {p q : Property} (same : p.Same q) : q.Same p :=
  ⟨same.1.symm, Value.same_symm same.2⟩

/-- Being the same property is transitive. -/
theorem Property.Same.trans {p q r : Property} (first : p.Same q) (second : q.Same r) : p.Same r :=
  ⟨first.1.trans second.1, Value.same_trans first.2 second.2⟩

/-- If everything in a list is related to something in another one, these things make a list. -/
theorem exists_forall₂_of_forall_exists {α : Type} {related : α → α → Prop} {xs ys : List α}
    (found : ∀ x ∈ xs, ∃ y ∈ ys, related x y) :
    ∃ zs, List.Forall₂ related xs zs ∧ zs ⊆ ys := by
  induction xs with
  | nil => exact ⟨[], .nil, List.nil_subset ys⟩
  | cons x rest ih =>
      obtain ⟨y, member, first⟩ := found x List.mem_cons_self
      obtain ⟨zs, others, inside⟩ := ih fun x inRest => found x (List.mem_cons_of_mem _ inRest)
      exact ⟨y :: zs, .cons first others, List.cons_subset.mpr ⟨member, inside⟩⟩

/-- Each member of a list has a related member in a list that is related item by item. -/
theorem exists_related_of_forall₂ {α : Type} {related : α → α → Prop} {xs ys : List α}
    (all : List.Forall₂ related xs ys) {x : α} (member : x ∈ xs) : ∃ y ∈ ys, related x y := by
  induction all with
  | nil => cases member
  | cons first others ih =>
      rcases List.mem_cons.mp member with rfl | inRest
      · exact ⟨_, List.mem_cons_self, first⟩
      · obtain ⟨y, inside, same⟩ := ih inRest
        exact ⟨y, List.mem_cons_of_mem _ inside, same⟩

/-- Item by item, a transitive relation is transitive. -/
theorem forall₂_trans {α : Type} {related : α → α → Prop}
    (trans : ∀ x y z, related x y → related y z → related x z) {xs ys zs : List α}
    (first : List.Forall₂ related xs ys) (second : List.Forall₂ related ys zs) :
    List.Forall₂ related xs zs := by
  induction first generalizing zs with
  | nil => exact second
  | cons head _ ih =>
      cases second with
      | cons head' rest' => exact .cons (trans _ _ _ head head') (ih rest')

namespace Entity

/-- The properties of two entities **match one to one**: those of the second can be put in an order
in which they are the same as those of the first. -/
def Matches (a b : Entity) : Prop :=
  ∃ ps, ps.Perm b.properties ∧ List.Forall₂ Property.Same a.properties ps

variable {a b c : Entity}

/-- Two entities match in either order. -/
theorem Matches.symm (matched : a.Matches b) : b.Matches a := by
  obtain ⟨ps, order, same⟩ := matched
  have back : List.Forall₂ Property.Same ps a.properties :=
    (same.imp fun _ _ => Property.Same.symm).flip
  obtain ⟨qs, same', order'⟩ := List.perm_comp_forall₂ order.symm back
  exact ⟨qs, order', same'⟩

/-- Matching is transitive, through the reordering of the entity in the middle. -/
theorem Matches.trans (first : a.Matches b) (second : b.Matches c) : a.Matches c := by
  obtain ⟨ps, order, same⟩ := first
  obtain ⟨qs, order', same'⟩ := second
  obtain ⟨rs, same'', order''⟩ := List.perm_comp_forall₂ order same'
  exact ⟨rs, order''.trans order', forall₂_trans (fun _ _ _ => .trans) same same''⟩

/-- Neither side's order matters. -/
theorem Matches.reorder {a' b' : Entity} (left : a.properties.Perm a'.properties)
    (right : b.properties.Perm b'.properties) (matched : a.Matches b) : a'.Matches b' := by
  obtain ⟨ps, order, same⟩ := matched
  obtain ⟨qs, same', order'⟩ := List.perm_comp_forall₂ left.symm same
  exact ⟨qs, (order'.trans order).trans right, same'⟩

/-! ### Comparing -/

/-- **What is looked for**: for each property of the first entity the same one in the second. -/
theorem sameProperties_iff_forall : a.sameProperties b = true
    ↔ a.properties.length = b.properties.length
      ∧ ∀ p ∈ a.properties, ∃ q ∈ b.properties, p.Same q := by
  have found (p : Property) : (b.get? p.name == some p.value) = true
      ↔ ∃ q ∈ b.properties, p.Same q := by
    constructor
    · intro equal
      cases value : b.get? p.name with
      | none => rw [value] at equal; cases equal
      | some v =>
          rw [value] at equal
          obtain ⟨q, inside, rfl⟩ := Option.map_eq_some_iff.mp value
          have named : q.name = p.name := by simpa using List.find?_some inside
          exact ⟨q, List.mem_of_find?_eq_some inside, named.symm, Value.same_symm equal⟩
    · rintro ⟨q, member, named, equal⟩
      rw [named, get?_of_mem member]
      exact Value.same_symm equal
  simp only [sameProperties, Bool.and_eq_true, beq_iff_eq, List.all_eq_true, size, found]

/-- Properties that are the same as those of an entity have distinct names too. -/
theorem nodup_of_forall₂_same {ps : List Property}
    (same : List.Forall₂ Property.Same a.properties ps) : ps.Nodup := by
  have names : a.properties.map Property.name = ps.map Property.name := by
    rw [← List.forall₂_eq_eq_eq, List.forall₂_map_left_iff, List.forall₂_map_right_iff]
    exact same.imp fun _ _ => And.left
  exact List.Nodup.of_map Property.name (names ▸ a.distinct)

/-- **The comparison is matching one to one.** Distinct names are found at distinct places, and as
many places as there are leave none over. -/
theorem sameProperties_iff_matches : a.sameProperties b = true ↔ a.Matches b := by
  rw [sameProperties_iff_forall]
  constructor
  · rintro ⟨sizes, found⟩
    obtain ⟨ps, same, inside⟩ := exists_forall₂_of_forall_exists found
    have places : ps.Subperm b.properties :=
      List.subperm_of_subset (nodup_of_forall₂_same same) inside
    have count : b.properties.length ≤ ps.length := by
      rw [← sizes, same.length_eq]
    exact ⟨ps, places.perm_of_length_le count, same⟩
  · rintro ⟨ps, order, same⟩
    refine ⟨same.length_eq.trans order.length_eq, fun p member => ?_⟩
    obtain ⟨q, inside, equal⟩ := exists_related_of_forall₂ same member
    exact ⟨q, order.subset inside, equal⟩

/-- An entity has the same properties as itself if no value is a binary number that is none. -/
theorem sameProperties_self_iff :
    a.sameProperties a = true ↔ ∀ p ∈ a.properties, p.value.isNan = false := by
  constructor
  · intro compared p member
    obtain ⟨-, found⟩ := sameProperties_iff_forall.mp compared
    obtain ⟨q, -, same⟩ := found p member
    exact Value.same_self_iff.mp (Value.same_trans same.2 (Value.same_symm same.2))
  · intro numbers
    refine sameProperties_iff_matches.mpr ⟨a.properties, .refl _, List.forall₂_same.mpr ?_⟩
    exact fun p member => ⟨rfl, Value.same_self_iff.mpr (numbers p member)⟩

/-- **Having the same properties is equality up to order.** It holds exactly if the properties match
one to one. It is symmetric and transitive, no order on either side matters, and an entity has the
same properties as itself exactly if no value is a binary number that is none. -/
theorem sameProperties_up_to_order :
    (∀ a b : Entity, a.sameProperties b = true ↔ a.Matches b)
      ∧ (∀ a b : Entity, a.sameProperties b = b.sameProperties a)
      ∧ (∀ a b c : Entity, a.sameProperties b = true → b.sameProperties c = true →
        a.sameProperties c = true)
      ∧ (∀ a a' b b' : Entity, a.properties.Perm a'.properties →
        b.properties.Perm b'.properties → a.sameProperties b = a'.sameProperties b')
      ∧ ∀ a : Entity,
        a.sameProperties a = true ↔ ∀ p ∈ a.properties, p.value.isNan = false := by
  refine ⟨fun a b => sameProperties_iff_matches, fun a b => ?_, fun a b c first second => ?_,
    fun a a' b b' left right => ?_, fun a => sameProperties_self_iff⟩
  · rw [Bool.eq_iff_iff, sameProperties_iff_matches, sameProperties_iff_matches]
    exact ⟨.symm, .symm⟩
  · rw [sameProperties_iff_matches] at first second ⊢
    exact first.trans second
  · rw [Bool.eq_iff_iff, sameProperties_iff_matches, sameProperties_iff_matches]
    exact ⟨.reorder left right, .reorder left.symm right.symm⟩

/-- Zero and negative zero, and one half with one digit and with two, under the same names. -/
theorem sameProperties_up_to_order_halves :
    let half (digits scale : Nat) (narrow : digits < twoTo 96) (short : scale ≤ 28) : Property :=
      ⟨"Share", .present (.decimal 10 2) ⟨false, digits, scale, narrow, short⟩⟩
    let zero (negative : Bool) : Property :=
      ⟨"Rest", .present .float64 (.ofMagnitude .double negative 0)⟩
    let a : Entity := ⟨[half 5 1 (by decide) (by decide), zero false], by decide⟩
    let b : Entity := ⟨[zero true, half 50 2 (by decide) (by decide)], by decide⟩
    a.sameProperties b = true ∧ b.sameProperties a = true ∧ a.Matches b
      ∧ a.sameProperties a = true := by
  intro half zero a b
  obtain ⟨matches_iff, symm, trans, -, -⟩ := sameProperties_up_to_order
  have forth : a.sameProperties b = true := by decide +kernel
  have back : b.sameProperties a = true := (symm b a).trans forth
  exact ⟨forth, back, (matches_iff a b).mp forth, trans a b a forth back⟩

end Entity

end EntitySql
