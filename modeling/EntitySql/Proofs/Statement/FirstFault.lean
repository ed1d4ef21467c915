import EntitySql.Proofs.Statement.Faults
/-!
# Where writing an expression stops

Writing an expression and visiting it are two recursions. A visit reaches every part, each in front
of those that it is made of. Writing stops at a part that the dialect refuses by itself, whatever it
is made of, and does not look behind it. They agree on the order: writing stops at the first part
of the visit that is refused, and for what this part is refused.

A part is more than an expression, as equal ones may stand in several places. It comes with the
layers around it, and with another expression in the same layers the text goes on from where it
stopped: nothing that was written depends on the part that was refused.

## Main definitions

* `Expression.Layer`, `Expression.wrap`: what stands around a part of an expression.
* `Expression.visits`: the parts of an expression in the order of a visit, with their layers.
* `Dialect.Refuses`: the parts that stop writing, and the words for it.

## Main results

* `Expression.map_snd_visits`, `Expression.wrap_of_mem_visits`: visits reach the parts of an
  expression, each in its place.
* `Expression.result_write_eq_error_iff`: the first part of the visit that is refused.
* `Expression.exists_text_wrap`: the text behind the first fault.
* `Expression.stops_at_first_refused`: where writing stops, why, and what it has written by then.
-/

namespace EntitySql

/-! ### Parts in their places -/

namespace Expression

/-- One **layer** around a part of an expression: the operator that is applied to the part, and its
other operand if it has one. -/
inductive Layer where
  | left (operator : Operator) (right : Expression)
  | right (operator : Operator) (left : Expression)
  | count (operator : PagingOperator)

/-- A part in its layer. -/
def Layer.around : Layer → Expression → Expression
  | .left op r, part => .binary op part r
  | .right op l, part => .binary op l part
  | .count op, part => .pagingBy op part

/-- A part in its layers, outermost first. -/
def wrap (layers : List Layer) (part : Expression) : Expression :=
  layers.foldr Layer.around part

/-- The same part, one layer deeper. -/
def deeper (layer : Layer) (visit : List Layer × Expression) : List Layer × Expression :=
  (layer :: visit.1, visit.2)

/-- The **visits** to the parts of an expression, each in front of those to what the part is made
of. -/
def visits : Expression → List (List Layer × Expression)
  | binary op l r =>
      ([], binary op l r) :: (l.visits.map (deeper (.left op r))
        ++ r.visits.map (deeper (.right op l)))
  | pagingBy op count => ([], pagingBy op count) :: count.visits.map (deeper (.count op))
  | e => [([], e)]

/-- Without layers a part is the whole. -/
@[simp] theorem wrap_nil (part : Expression) : wrap [] part = part := rfl

/-- The outermost layer stands around what the others make of the part. -/
@[simp] theorem wrap_cons (layer : Layer) (layers : List Layer) (part : Expression) :
    wrap (layer :: layers) part = layer.around (wrap layers part) := rfl

/-- A further layer does not change the part that is visited. -/
theorem snd_comp_deeper (layer : Layer) : Prod.snd ∘ deeper layer = Prod.snd := rfl

/-- The parts that are visited are the subexpressions, in their order. -/
theorem map_snd_visits (e : Expression) : e.visits.map Prod.snd = e.subexpressions := by
  induction e with
  | binary op l r ihl ihr =>
      rw [visits, subexpressions, List.map_cons, List.map_append, List.map_map, List.map_map,
        snd_comp_deeper, snd_comp_deeper, ihl, ihr]
  | pagingBy op count ih =>
      rw [visits, subexpressions, List.map_cons, List.map_map, snd_comp_deeper, ih]
  | _ => rfl

/-- Each part in its layers is the expression. -/
theorem wrap_of_mem_visits {e : Expression} {visit : List Layer × Expression}
    (reached : visit ∈ e.visits) : wrap visit.1 visit.2 = e := by
  induction e generalizing visit with
  | binary op l r ihl ihr =>
      rw [visits, List.mem_cons, List.mem_append, List.mem_map, List.mem_map] at reached
      rcases reached with rfl | ⟨inner, reached, rfl⟩ | ⟨inner, reached, rfl⟩
      · rfl
      · rw [deeper, wrap_cons, ihl reached, Layer.around]
      · rw [deeper, wrap_cons, ihr reached, Layer.around]
  | pagingBy op count ih =>
      rw [visits, List.mem_cons, List.mem_map] at reached
      rcases reached with rfl | ⟨inner, reached, rfl⟩
      · rfl
      · rw [deeper, wrap_cons, ih reached, Layer.around]
  | _ =>
      obtain rfl := List.mem_singleton.mp reached
      rfl

end Expression

/-! ### Parts that are refused -/

/-- What a dialect **refuses** in a fragment of a statement, and the text that says so: a paging
operator, with or without a row count, and a binary operator that it has no rendering for. -/
inductive Dialect.Refuses (d : Dialect) (fragment : Fragment) :
    Expression → DatabaseError → String → Prop
  | paging (op : PagingOperator) :
      Refuses d fragment (.paging op) (.misplacedPaging op fragment)
        ("Unsupported expression: method `" ++ op.name ++ "` in " ++ fragment.text)
  | pagingBy (op : PagingOperator) (count : Expression) :
      Refuses d fragment (.pagingBy op count) (.misplacedPaging op fragment)
        ("Unsupported expression: method `" ++ op.name ++ "` in " ++ fragment.text)
  | operator {op : Operator} (l r : Expression) :
      d op = none →
      Refuses d fragment (.binary op l r) (.unknownOperator op)
        ("Unknown binary operator `" ++ op.name ++ "`")

/-- A dialect **stops at** a part of an expression, in its layers: it refuses the part, and none
that is visited before it. -/
structure Dialect.StopsAt (d : Dialect) (fragment : Fragment) (e : Expression)
    (layers : List Expression.Layer) (part : Expression) (error : DatabaseError) : Prop where
  first : ∃ front behind, e.visits = front ++ (layers, part) :: behind
    ∧ ∀ visit ∈ front, ∀ error text, ¬ d.Refuses fragment visit.2 error text
  refused : d.Refuses fragment part error error.message

namespace Dialect

variable {d : Dialect} {fragment : Fragment} {part : Expression} {error : DatabaseError}
  {text : String}

/-- A dialect refuses a part for its fault, in the words of that. -/
theorem refuses_iff :
    d.Refuses fragment part error text
      ↔ d.fault? fragment part = some error ∧ text = error.message := by
  constructor
  · intro refused
    cases refused with
    | paging | pagingBy => exact ⟨rfl, rfl⟩
    | operator l r lacking => exact ⟨by simp [fault?, lacking], rfl⟩
  · rintro ⟨faulty, rfl⟩
    cases part with
    | paging op =>
        obtain rfl := Option.some.inj faulty
        exact .paging op
    | pagingBy op count =>
        obtain rfl := Option.some.inj faulty
        exact .pagingBy op count
    | binary op l r =>
        rw [fault?] at faulty
        split at faulty
        · obtain rfl := Option.some.inj faulty
          exact .operator l r (Option.isNone_iff_eq_none.mp ‹_›)
        · cases faulty
    | _ => cases faulty

/-- A part is not refused if it has no fault. -/
theorem forall_not_refuses_iff :
    (∀ error text, ¬ d.Refuses fragment part error text) ↔ d.fault? fragment part = none := by
  rw [Option.eq_none_iff_forall_ne_some]
  constructor
  · intro clean error faulty
    exact clean error error.message (refuses_iff.mpr ⟨faulty, rfl⟩)
  · intro faultless error text refused
    exact faultless error (refuses_iff.mp refused).1

end Dialect

/-! ### Writing and visiting -/

namespace Expression

variable {d : Dialect} {fragment : Fragment} {e : Expression}

/-- The visits that come upon a fault. -/
def faulty (d : Dialect) (fragment : Fragment) (visit : List Layer × Expression) : Bool :=
  (d.fault? fragment visit.2).isSome

/-- Whether a visit comes upon a fault does not depend on the layers around it. -/
theorem faulty_comp_deeper (layer : Layer) :
    faulty d fragment ∘ deeper layer = faulty d fragment := rfl

/-- An expression is written if no visit comes upon a fault. -/
theorem result_write_eq_ok_iff :
    (e.write d fragment).result = .ok () ↔ e.visits.find? (faulty d fragment) = none := by
  rw [result_write, verdict_eq_ok_iff, List.filterMap_eq_nil_iff, ← map_snd_visits,
    List.forall_mem_map, List.find?_eq_none]
  simp only [faulty, Bool.not_eq_true, Option.isSome_eq_false_iff, Option.isNone_iff_eq_none]

/-- An expression is not written if a visit comes upon a fault. -/
theorem result_write_ne_ok {visit : List Layer × Expression}
    (first : e.visits.find? (faulty d fragment) = some visit) :
    (e.write d fragment).result ≠ .ok () := by
  intro written
  rw [result_write_eq_ok_iff.mp written] at first
  cases first

/-- The left operand stands behind what an operator begins with, and ends the text if it stops. -/
theorem exists_text_left {op : Operator} {rendering : Rendering} (known : d op = some rendering)
    (fragment : Fragment) (l r : Expression) :
    ∃ rest, ((binary op l r).write d fragment).text
        = rendering.before ++ (l.write d fragment).text ++ rest
      ∧ ((l.write d fragment).result ≠ .ok () → rest = "") := by
  simp only [write, known, Written.write_bind]
  obtain ⟨rest, text, stopped⟩ := Written.exists_text_bind (l.write d fragment) _
  exact ⟨rest, by rw [text, String.append_assoc], fun fails => stopped fun _ => fails⟩

/-- The right operand stands behind the left one, if this is written, and ends the text if it
stops. -/
theorem exists_text_right {op : Operator} {rendering : Rendering} (known : d op = some rendering)
    {l : Expression} (written : (l.write d fragment).result = .ok ()) (r : Expression) :
    ∃ rest, ((binary op l r).write d fragment).text
        = rendering.before ++ (l.write d fragment).text ++ rendering.between
          ++ (r.write d fragment).text ++ rest
      ∧ ((r.write d fragment).result ≠ .ok () → rest = "") := by
  simp only [write, known, Written.write_bind, Written.text_bind_ok written]
  obtain ⟨rest, text, stopped⟩ :=
    Written.exists_text_bind (r.write d fragment) fun _ => Written.write rendering.behind
  exact ⟨rest, by simp only [text, String.append_assoc], fun fails => stopped fun _ => fails⟩

/-- **The text goes on from the first fault.** With another expression in the place of the first
part that is refused, the text begins with what was written before, and goes on with that of the
other expression. -/
theorem exists_text_wrap {layers : List Layer} {part : Expression}
    (first : e.visits.find? (faulty d fragment) = some (layers, part)) (new : Expression) :
    ∃ rest, ((wrap layers new).write d fragment).text
      = (e.write d fragment).text ++ (new.write d fragment).text ++ rest := by
  induction e generalizing layers part with
  | column | sortKey | constant | parameter => cases first
  | paging op =>
      cases first
      exact ⟨"", by simp [write, Written.stop]⟩
  | pagingBy op count ih =>
      cases first
      exact ⟨"", by simp [write, Written.stop]⟩
  | binary op l r ihl ihr =>
      rw [visits] at first
      cases known : d op with
      | none =>
          have refused : faulty d fragment ([], binary op l r) = true := by
            simp [faulty, Dialect.fault?, known]
          rw [List.find?_cons_of_pos refused] at first
          cases first
          exact ⟨"", by simp [write, known, Written.stop]⟩
      | some rendering =>
          have kept : ¬ faulty d fragment ([], binary op l r) = true := by
            simp [faulty, Dialect.fault?, known]
          rw [List.find?_cons_of_neg kept, List.find?_append, List.find?_map, List.find?_map,
            faulty_comp_deeper, faulty_comp_deeper] at first
          cases inLeft : l.visits.find? (faulty d fragment) with
          | some visit =>
              rw [inLeft] at first
              cases first
              obtain ⟨rest, inner⟩ := ihl inLeft
              -- the right operand is not come to, but may be behind the other expression
              obtain ⟨tail, text, stopped⟩ := exists_text_left known fragment l r
              obtain rfl := stopped (result_write_ne_ok inLeft)
              obtain ⟨behind, text', -⟩ :=
                exists_text_left known fragment (wrap visit.1 new) r
              refine ⟨rest ++ behind, ?_⟩
              rw [wrap_cons, Layer.around, text, text', inner]
              simp only [String.append_assoc, String.append_empty]
          | none =>
              have written := result_write_eq_ok_iff.mpr inLeft
              rw [inLeft, Option.map_none, Option.none_or, Option.map_eq_some_iff] at first
              obtain ⟨visit, inRight, same⟩ := first
              cases same
              obtain ⟨rest, inner⟩ := ihr inRight
              obtain ⟨tail, text, stopped⟩ := exists_text_right known written r
              obtain rfl := stopped (result_write_ne_ok inRight)
              obtain ⟨behind, text', -⟩ := exists_text_right known written (wrap visit.1 new)
              refine ⟨rest ++ behind, ?_⟩
              rw [wrap_cons, Layer.around, text, text', inner]
              simp only [String.append_assoc, String.append_empty]

/-- A dialect stops at the first visit that comes upon a fault. -/
theorem stopsAt_iff {layers : List Layer} {part : Expression} {error : DatabaseError} :
    d.StopsAt fragment e layers part error
      ↔ e.visits.find? (faulty d fragment) = some (layers, part)
        ∧ d.fault? fragment part = some error := by
  have clean (visit : List Layer × Expression) :
      (!faulty d fragment visit) = true
        ↔ ∀ error text, ¬ d.Refuses fragment visit.2 error text := by
    rw [Dialect.forall_not_refuses_iff, faulty]
    simp
  rw [List.find?_eq_some_iff_append]
  simp only [clean]
  constructor
  · rintro ⟨⟨front, behind, visits, others⟩, refused⟩
    have fault := (Dialect.refuses_iff.mp refused).1
    exact ⟨⟨by simp [faulty, fault], front, behind, visits, others⟩, fault⟩
  · rintro ⟨⟨-, front, behind, visits, others⟩, fault⟩
    exact ⟨⟨front, behind, visits, others⟩, Dialect.refuses_iff.mpr ⟨fault, rfl⟩⟩

/-- The outcome of writing is the fault of the part that a visit comes upon first. -/
theorem result_write_eq_error_iff {error : DatabaseError} :
    (e.write d fragment).result = .error error
      ↔ ∃ layers part, d.StopsAt fragment e layers part error := by
  rw [result_write, ← map_snd_visits]
  simp only [stopsAt_iff]
  induction e.visits with
  | nil => simp [verdict]
  | cons visit rest ih =>
      rw [List.map_cons]
      cases fault : d.fault? fragment visit.2 with
      | none =>
          have kept : ¬ faulty d fragment visit = true := by simp [faulty, fault]
          rw [List.filterMap_cons_none fault, ih, List.find?_cons_of_neg kept]
      | some first =>
          have refused : faulty d fragment visit = true := by simp [faulty, fault]
          rw [List.filterMap_cons_some fault, verdict, List.find?_cons_of_pos refused]
          constructor
          · intro stopped
            obtain rfl := Except.error.inj stopped
            exact ⟨visit.1, visit.2, rfl, fault⟩
          · rintro ⟨layers, part, same, fault'⟩
            obtain rfl := Option.some.inj same
            exact congrArg Except.error (Option.some.inj (fault.symm.trans fault'))

/-! ### Where writing stops -/

/-- **The first part that is refused stops writing.** In any dialect and any fragment, writing an
expression stops exactly if a visit reaches a part that the dialect refuses. It then stops for the
first such part in the order of the visits, with the error that this part is refused with. What it
has written by then is the front of what it writes with any expression that can be written in the
place of that part, and the text of this one goes on from there. -/
theorem stops_at_first_refused (d : Dialect) (fragment : Fragment) (e : Expression) :
    (e.visits.map Prod.snd = e.subexpressions
      ∧ ∀ visit ∈ e.visits, wrap visit.1 visit.2 = e)
    ∧ ((∃ error, (e.write d fragment).result = .error error)
      ↔ ∃ part ∈ e.subexpressions, ∃ error text, d.Refuses fragment part error text)
    ∧ (∀ error, (e.write d fragment).result = .error error
      ↔ ∃ layers part, d.StopsAt fragment e layers part error)
    ∧ ∀ layers part error, d.StopsAt fragment e layers part error →
        ∀ new, (new.write d fragment).result = .ok () →
          ∃ rest, ((wrap layers new).write d fragment).text
            = (e.write d fragment).text ++ (new.write d fragment).text ++ rest := by
  refine ⟨⟨map_snd_visits e, fun visit => wrap_of_mem_visits⟩, ?_, ?_, ?_⟩
  · constructor
    · rintro ⟨error, stopped⟩
      obtain ⟨layers, part, stops⟩ := result_write_eq_error_iff.mp stopped
      obtain ⟨front, behind, visits, -⟩ := stops.first
      have reached : part ∈ e.subexpressions := by
        rw [← map_snd_visits, visits]
        simp
      exact ⟨part, reached, error, error.message, stops.refused⟩
    · rintro ⟨part, reached, error, text, refused⟩
      have found : error ∈ e.subexpressions.filterMap (d.fault? fragment) :=
        List.mem_filterMap.mpr ⟨part, reached, (Dialect.refuses_iff.mp refused).1⟩
      obtain ⟨fault, stopped, -⟩ := exists_verdict_eq_error (List.ne_nil_of_mem found)
      exact ⟨fault, (result_write d fragment e).trans stopped⟩
  · exact fun error => result_write_eq_error_iff
  · intro layers part error stops new _
    exact exists_text_wrap (stopsAt_iff.mp stops).1 new

end Expression

/-- A dialect with addition and nothing else. -/
def Dialect.additive : Dialect
  | .add => some (.infixed "+")
  | _ => none

/-- The remainder of an age, plus a paging operator, behind a number. -/
def remainderAndFirst : Expression :=
  .binary .add (.constant (.ofInt32 1))
    (.binary .add
      (.binary .modulo (.column ⟨⟨"app", "Person"⟩, "Age"⟩) (.constant (.ofInt32 2)))
      (.paging .first))

/-- It stops at the remainder, which comes in front of the paging operator, and the text goes on
with a parameter in its place. -/
theorem stops_at_first_refused_remainder :
    (remainderAndFirst.write .additive .filter).result = .error (.unknownOperator .modulo)
      ∧ (remainderAndFirst.write .additive .filter).text = "(1 + ("
      ∧ ∃ rest, ((Expression.wrap [.right .add (.constant (.ofInt32 1)),
          .left .add (.paging .first)] (.parameter ⟨"n", .ofInt32 3⟩)).write .additive .filter).text
        = "(1 + (" ++ "@n" ++ rest := by
  obtain ⟨-, -, stops, goesOn⟩ :=
    Expression.stops_at_first_refused .additive .filter remainderAndFirst
  have stopped : Dialect.additive.StopsAt .filter remainderAndFirst
      [.right .add (.constant (.ofInt32 1)), .left .add (.paging .first)]
      (.binary .modulo (.column ⟨⟨"app", "Person"⟩, "Age"⟩) (.constant (.ofInt32 2)))
      (.unknownOperator .modulo) :=
    Expression.stopsAt_iff.mpr ⟨rfl, rfl⟩
  have text : (remainderAndFirst.write .additive .filter).text = "(1 + (" := by decide +kernel
  obtain ⟨rest, replaced⟩ := goesOn _ _ _ stopped (.parameter ⟨"n", .ofInt32 3⟩) rfl
  refine ⟨(stops _).mpr ⟨_, _, stopped⟩, text, rest, ?_⟩
  have reference : Parameter.reference ⟨"n", .ofInt32 3⟩ = "@n" := by decide
  rw [replaced, text, ← reference]
  rfl

end EntitySql
