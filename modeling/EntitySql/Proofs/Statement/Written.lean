import EntitySql.Statement.Written
/-!
# Steps of writers

A step that can fail and another one behind it succeed exactly when both do, and a text in front
of a writer is put down whatever the writer does.

## Main results

* `bind_eq_ok_iff`, `check_bind_eq_ok_iff`: two steps succeed when both do.
* `Written.write_bind`: a text in front of a writer.
* `Written.exists_text_bind`: the text of two writers.
* `Written.result_bind`, `Written.result_bind_eq_ok_iff`: what two writers come to, and that they
  succeed when both do.
-/

namespace EntitySql

/-- Two steps succeed exactly when both do, one on the result of the other. -/
theorem bind_eq_ok_iff {ε α β : Type} {x : Except ε α} {next : α → Except ε β} {b : β} :
    x >>= next = .ok b ↔ ∃ a, x = .ok a ∧ next a = .ok b := by
  cases x with
  | error e =>
      constructor
      · intro h
        cases h
      · rintro ⟨a, h, -⟩
        cases h
  | ok a =>
      constructor
      · intro h
        exact ⟨a, rfl, h⟩
      · rintro ⟨a', h, hb⟩
        obtain rfl : a = a' := Except.ok.inj h
        exact hb

/-- A check in front of a step succeeds exactly when both do. -/
theorem check_bind_eq_ok_iff {ε β : Type} {check : Except ε Unit} {next : Except ε β} {b : β} :
    (check >>= fun _ => next) = .ok b ↔ check = .ok () ∧ next = .ok b := by
  rw [bind_eq_ok_iff]
  exact ⟨fun ⟨(), checked, h⟩ => ⟨checked, h⟩, fun ⟨checked, h⟩ => ⟨(), checked, h⟩⟩

/-- A text in front of a writer. -/
theorem Written.write_bind {α : Type} (s : String) (w : Written α) :
    (Written.write s >>= fun _ => w) = ⟨s ++ w.text, w.result⟩ :=
  rfl

/-- The result of two writers is that of one step on the result of another. -/
theorem Written.result_bind {α β : Type} (w : Written α) (next : α → Written β) :
    (w >>= next).result = w.result >>= fun a => (next a).result := by
  cases result : w.result with
  | error e =>
      rw [Written.bind_error result]
      rfl
  | ok a =>
      rw [Written.result_bind_ok result]
      rfl

/-- The text of two writers goes on from that of the first one, unless this one stopped. -/
theorem Written.exists_text_bind {α β : Type} (w : Written α) (next : α → Written β) :
    ∃ rest, (w >>= next).text = w.text ++ rest ∧ ((∀ a, w.result ≠ .ok a) → rest = "") := by
  cases result : w.result with
  | error e =>
      rw [Written.bind_error result]
      exact ⟨"", String.append_empty.symm, fun _ => rfl⟩
  | ok a =>
      exact ⟨(next a).text, Written.text_bind_ok result, fun stopped => absurd rfl (stopped a)⟩

/-- Two writers, one behind the other, succeed exactly when both do. -/
theorem Written.result_bind_eq_ok_iff {α β : Type} {w : Written α} {next : α → Written β} {b : β} :
    (w >>= next).result = .ok b ↔ ∃ a, w.result = .ok a ∧ (next a).result = .ok b := by
  rw [Written.result_bind, bind_eq_ok_iff]

end EntitySql
