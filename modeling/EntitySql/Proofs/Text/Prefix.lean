/-!
# Reading a text from the front

A text that begins with a known part can be split behind it in one way only, if something tells
where the part ends: a character that the part has not, a class of characters that ends there, or
a code in which no word begins with another.

## Main results

* `append_inj_of_stop`: a part made of a class of characters, in front of none of them.
* `append_mark_inj`: a part in front of a character that it has not.
* `prefix_or_prefix_of_append_eq`: of two parts in front of a text one begins with the other.
-/

namespace EntitySql.Text

variable {α : Type} {s t u v : List α}

/-- Two parts made of a class of characters are equal if what follows them is, when neither goes on
with the class. -/
theorem append_inj_of_stop {p : α → Bool} (hs : ∀ c ∈ s, p c = true) (ht : ∀ c ∈ t, p c = true)
    (hu : ∀ c ∈ u.head?, p c = false) (hv : ∀ c ∈ v.head?, p c = false)
    (same : s ++ u = t ++ v) : s = t ∧ u = v := by
  have stop {w : List α} (hw : ∀ c ∈ w.head?, p c = false) : w.takeWhile p = [] := by
    cases w with
    | nil => rfl
    | cons c rest => simp [hw c rfl]
  have front := congrArg (List.takeWhile p) same
  rw [List.takeWhile_append_of_pos hs, List.takeWhile_append_of_pos ht, stop hu, stop hv,
    List.append_nil, List.append_nil] at front
  subst front
  exact ⟨rfl, List.append_cancel_left same⟩

/-- A part in front of the first of some marks is known. -/
theorem append_mark_inj [DecidableEq α] {mark : α} (hs : mark ∉ s) (ht : mark ∉ t)
    (same : s ++ mark :: u = t ++ mark :: v) : s = t ∧ u = v := by
  have unmarked {w : List α} (hw : mark ∉ w) : ∀ c ∈ w, (c != mark) = true := by
    intro c member
    have other : c ≠ mark := fun h => hw (h ▸ member)
    simpa using other
  have marked (w : List α) : ∀ c ∈ (mark :: w).head?, (c != mark) = false := by
    rintro c ⟨⟩
    simp
  obtain ⟨front, rest⟩ :=
    append_inj_of_stop (unmarked hs) (unmarked ht) (marked u) (marked v) same
  exact ⟨front, (List.cons.inj rest).2⟩

/-- Of two parts in front of one text, one begins with the other. -/
theorem prefix_or_prefix_of_append_eq (same : s ++ u = t ++ v) : s <+: t ∨ t <+: s :=
  List.prefix_or_prefix_of_prefix ⟨u, same⟩ ⟨v, rfl⟩

end EntitySql.Text
