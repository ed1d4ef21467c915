import EntitySql.Statement.Context
import Mathlib.Data.List.Nodup
/-!
# Ordinals

A scope and a copy both work on a context of their own, so two counters run side by side while they
are open. That no ordinal is handed out twice depends on every counter being merged back: the
counter of the context in use is always the number of ordinals that were handed out before, and
what closes gives the context around it this number and nothing else.

This is said of traces, whatever course of steps they come from. A trace that counts is read event
by event, with the contexts in front of everything that is still open as a stack.

## Main definitions

* `Context.after`: a context with so many ordinals behind it.
* `Context.Script.WellNested`, `Context.Script.count`: courses of steps, and how many ordinals they
  hand out.
* `Context.Counts`: traces that count.

## Main results

* `Context.Script.WellNested.counts`: the trace of a course of steps counts.
* `Context.Script.WellNested.run_new`: what a statement hands out from its start.
-/

namespace EntitySql.Context

/-- The context with so many ordinals handed out before it. -/
def after (c : Context) (n : Nat) : Context :=
  { c with counter := UInt32.ofNat n }

/-- A context behind so many ordinals counts on from them. -/
@[simp] theorem after_counter (c : Context) (n : Nat) : (c.after n).counter = UInt32.ofNat n := rfl

/-- Only the latest count matters. -/
@[simp] theorem after_after (c : Context) (m n : Nat) : (c.after m).after n = c.after n := rfl

/-- A context that takes over the counter of another one takes nothing else from it. -/
@[simp] theorem merge_after (c other : Context) (n : Nat) :
    c.merge (other.after n) = c.after n := rfl

/-- A context that has counted so far is its own state behind so many ordinals. -/
theorem after_eq_self {c : Context} {n : Nat} (reached : c.counter = UInt32.ofNat n) :
    c.after n = c := by
  rw [after, ← reached]

/-- The next ordinal is the number of those before it. -/
theorem next_eq {c : Context} {n : Nat} (reached : c.counter = UInt32.ofNat n) :
    c.next = (UInt32.ofNat n, c.after (n + 1)) := by
  rw [next, after, reached, UInt32.ofNat_add]
  rfl

/-! ### Courses of steps -/

namespace Script

/-- The number of ordinals that a course of steps hands out. -/
def count : Script → Nat
  | .done => 0
  | .next rest => rest.count + 1
  | .nest rest | .update _ rest => rest.count
  | .switch _ inner rest | .copy _ inner rest => inner.count + rest.count

/-- A course of steps is **well nested** if it does nothing to a context but hand out ordinals,
open scopes and make copies, each of which ends before the context around it is used again. -/
inductive WellNested : Script → Prop
  | done : WellNested .done
  | next {rest : Script} : WellNested rest → WellNested (.next rest)
  | switch {inner rest : Script} (fragment : Fragment) :
      WellNested inner → WellNested rest → WellNested (.switch fragment inner rest)
  | copy {inner rest : Script} (level : UInt32) :
      WellNested inner → WellNested rest → WellNested (.copy level inner rest)

end Script

/-! ### Traces -/

/-- The ordinal that is handed out in an event, if any. -/
def Event.ordinal? : Event → Option UInt32
  | .ordinal n _ => some n
  | .context _ | .entered _ | .left _ => none

/-- The ordinals that are handed out in a trace, in their order. -/
def ordinals (events : List Event) : List UInt32 :=
  events.filterMap Event.ordinal?

/-- An ordinal that is handed out comes first in those of the trace. -/
theorem ordinals_ordinal (n : UInt32) (c : Context) (rest : List Event) :
    ordinals (.ordinal n c :: rest) = n :: ordinals rest :=
  rfl

/-- A context that is only looked at hands out nothing. -/
theorem ordinals_context (c : Context) (rest : List Event) :
    ordinals (.context c :: rest) = ordinals rest :=
  rfl

/-- The ordinals of a scope come in front of those behind it. -/
theorem ordinals_scope (c opened : Context) (inner rest : Context → List Event × Context) :
    ordinals (c.scope opened inner rest).1
      = ordinals (inner opened).1 ++ ordinals (rest (c.merge (inner opened).2)).1 :=
  List.filterMap_append

/-- A trace **counts** from a number of ordinals on, in a context and with the contexts around it,
if every ordinal is the number of those before it, what opens goes on from there, and what closes
leaves the context that was in front of it, with this number as its counter. -/
inductive Counts : (n : Nat) → (c : Context) → (outer : List Context) → List Event → Prop
  | done {n : Nat} {c : Context} : Counts n c [] []
  | ordinal {n : Nat} {c : Context} {outer : List Context} {rest : List Event} :
      Counts (n + 1) (c.after (n + 1)) outer rest →
        Counts n c outer (.ordinal (UInt32.ofNat n) (c.after (n + 1)) :: rest)
  | entered {n : Nat} {c opened : Context} {outer : List Context} {rest : List Event} :
      opened.counter = UInt32.ofNat n → Counts n opened (c :: outer) rest →
        Counts n c outer (.entered opened :: rest)
  | left {n : Nat} {c before : Context} {outer : List Context} {rest : List Event} :
      Counts n (before.after n) outer rest →
        Counts n c (before :: outer) (.left (before.after n) :: rest)

variable {c opened : Context} {n m : Nat} {outer : List Context} {rest events : List Event}

/-- The ordinals of a trace that counts are the numbers from its start on. -/
theorem Counts.ordinals_eq (counts : Counts n c outer events) :
    ordinals events = (List.range' n (ordinals events).length).map UInt32.ofNat := by
  induction counts with
  | done => rfl
  | ordinal _ ih =>
      rw [ordinals_ordinal, List.length_cons, List.range'_succ, List.map_cons, ← ih]
  | entered _ _ ih => exact ih
  | left _ ih => exact ih

/-- As many numbers as there are words of 32 bits are told apart. -/
theorem nodup_numbers (fits : n ≤ UInt32.size) : ((List.range n).map UInt32.ofNat).Nodup := by
  refine List.Nodup.map_on ?_ List.nodup_range
  intro i below j below' same
  have fits_i : i < UInt32.size := Nat.lt_of_lt_of_le (List.mem_range.mp below) fits
  have fits_j : j < UInt32.size := Nat.lt_of_lt_of_le (List.mem_range.mp below') fits
  rw [← UInt32.toNat_ofNat_of_lt' fits_i, same, UInt32.toNat_ofNat_of_lt' fits_j]

section Scope

variable {inner others : Context → List Event × Context}

/-- Behind a scope the outer context goes on with the ordinals of the scope behind it. -/
theorem scope_snd (last : (inner opened).2 = opened.after m) :
    (c.scope opened inner others).2 = (others (c.after m)).2 := by
  rw [← merge_after c opened m, ← last]
  rfl

/-- A scope counts if the steps inside it do and those behind it do. -/
theorem Counts.scope (start : opened.counter = UInt32.ofNat n)
    (last : (inner opened).2 = opened.after m)
    (inside : ∀ {outer rest}, Counts m (opened.after m) outer rest →
      Counts n opened outer ((inner opened).1 ++ rest))
    (behind : Counts m (c.after m) outer ((others (c.after m)).1 ++ rest)) :
    Counts n c outer ((c.scope opened inner others).1 ++ rest) := by
  have events : (c.scope opened inner others).1
      = .entered opened :: (inner opened).1 ++ .left (c.after m) :: (others (c.after m)).1 := by
    rw [← merge_after c opened m, ← last]
    rfl
  rw [events, List.append_assoc]
  exact .entered start (inside (.left behind))

end Scope

namespace Script

variable {s : Script}

/-- A step that takes an ordinal, and the course behind it in the context that is left. -/
theorem run_next (rest : Script) (c : Context) :
    (next rest).run c
      = (.ordinal c.next.1 c.next.2 :: (rest.run c.next.2).1, (rest.run c.next.2).2) :=
  rfl

/-- A course of steps hands out as many ordinals as it has steps for them. -/
theorem length_ordinals_run (s : Script) (c : Context) :
    (ordinals (s.run c).1).length = s.count := by
  induction s generalizing c with
  | done => rfl
  | next rest ih => rw [run_next, ordinals_ordinal, List.length_cons, ih, count]
  | nest rest ih | update counter rest ih => rw [run, ordinals_context, ih, count]
  | switch _ inner rest first second | copy _ inner rest first second =>
      rw [run, ordinals_scope, List.length_append, first, second, count]

/-- What a course of steps leaves is the context from before, with its ordinals behind it. -/
theorem WellNested.run_snd (nested : s.WellNested) (reached : c.counter = UInt32.ofNat n) :
    (s.run c).2 = c.after (n + s.count) := by
  induction nested generalizing c n with
  | done => exact (after_eq_self reached).symm
  | next _ ih =>
      rw [run_next, next_eq reached, ih (after_counter c (n + 1)), after_after, count,
        Nat.add_right_comm, Nat.add_assoc]
  | switch fragment _ _ first second =>
      have start : (c.enter fragment).counter = UInt32.ofNat n := reached
      rw [run, scope_snd (first start), second (after_counter c _), after_after, count,
        Nat.add_assoc]
  | copy level _ _ first second =>
      have start : (c.inside level).counter = UInt32.ofNat n := reached
      rw [run, scope_snd (first start), second (after_counter c _), after_after, count,
        Nat.add_assoc]

/-- **The trace of a course of steps counts**, if what comes behind it does. -/
theorem WellNested.counts (nested : s.WellNested) (reached : c.counter = UInt32.ofNat n)
    (behind : Counts (n + s.count) (c.after (n + s.count)) outer rest) :
    Counts n c outer ((s.run c).1 ++ rest) := by
  induction nested generalizing c n outer rest with
  | done =>
      rw [count, Nat.add_zero, after_eq_self reached] at behind
      exact behind
  | next _ ih =>
      rw [run_next, next_eq reached]
      refine .ordinal (ih (after_counter c (n + 1)) ?_)
      rw [after_after, Nat.add_right_comm, Nat.add_assoc]
      exact behind
  | switch fragment inside _ first second =>
      have start : (c.enter fragment).counter = UInt32.ofNat n := reached
      refine .scope start (inside.run_snd start) (first start) (second (after_counter c _) ?_)
      rw [after_after, Nat.add_assoc]
      exact behind
  | copy level inside _ first second =>
      have start : (c.inside level).counter = UInt32.ofNat n := reached
      refine .scope start (inside.run_snd start) (first start) (second (after_counter c _) ?_)
      rw [after_after, Nat.add_assoc]
      exact behind

/-- **A statement never repeats an ordinal.** From its start, whatever scopes and copies are nested
in one another, the ordinals are the numbers from zero on, each once as long as they are told apart
by 32 bits. Behind everything that closes there is the context that was in front of it, with the
number of ordinals so far as its counter, and so it is at the end. -/
theorem WellNested.run_new (nested : s.WellNested) (fragment : Fragment) (level : UInt32) :
    Counts 0 (new fragment level) [] (s.run (new fragment level)).1
      ∧ (s.run (new fragment level)).2 = (new fragment level).after s.count
      ∧ ordinals (s.run (new fragment level)).1 = (List.range s.count).map UInt32.ofNat
      ∧ (∀ k < s.count, k < UInt32.size →
        ∃ n, (ordinals (s.run (new fragment level)).1)[k]? = some n ∧ n.toNat = k)
      ∧ (s.count ≤ UInt32.size → (ordinals (s.run (new fragment level)).1).Nodup) := by
  have start : (new fragment level).counter = UInt32.ofNat 0 := rfl
  have counts : Counts 0 (new fragment level) [] (s.run (new fragment level)).1 := by
    have whole := nested.counts start .done
    rwa [List.append_nil] at whole
  have last : (s.run (new fragment level)).2 = (new fragment level).after s.count := by
    rw [nested.run_snd start, Nat.zero_add]
  have handed : ordinals (s.run (new fragment level)).1
      = (List.range s.count).map UInt32.ofNat := by
    have numbers := counts.ordinals_eq
    rwa [length_ordinals_run, ← List.range_eq_range'] at numbers
  refine ⟨counts, last, handed, ?_, ?_⟩
  · intro k below fits
    refine ⟨UInt32.ofNat k, ?_, UInt32.toNat_ofNat_of_lt' fits⟩
    rw [handed, List.getElem?_map, List.getElem?_range below]
    rfl
  · intro fits
    rw [handed]
    exact nodup_numbers fits

/-- The steps of a level with a filtered and paged level inside it, where every expression takes
an ordinal. -/
def aroundFiltered : Script :=
  .switch .source (.copy 0 (.switch .filter (.next .done) (.switch .partition (.next .done) .done))
    .done) (.switch .filter (.next (.next .done)) .done)

/-- A level goes on behind the ordinals of the one inside it. -/
theorem run_new_aroundFiltered :
    ordinals (aroundFiltered.run (new .select 1)).1 = [0, 1, 2, 3]
      ∧ (aroundFiltered.run (new .select 1)).2 = ⟨4, .select, 1, false⟩ := by
  have paged : (Script.switch .partition (.next .done) .done).WellNested :=
    .switch _ (.next .done) .done
  have nested : aroundFiltered.WellNested :=
    .switch _ (.copy _ (.switch _ (.next .done) paged) .done)
      (.switch _ (.next (.next .done)) .done)
  obtain ⟨-, last, handed, -, -⟩ := nested.run_new .select 1
  exact ⟨handed, last⟩

end Script

end EntitySql.Context
