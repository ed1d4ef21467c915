import EntitySql.Text.Blank
import EntitySql.Text.Percent
import Mathlib.Data.List.DropRight
import Mathlib.Data.List.Infix
/-!
# Cutting texts

A text that is put together of parts is trimmed, cut at a separator and percent-encoded part by
part, as far as the parts allow it: trimming stops at a character outside its class, and a cut is
made where a separator stands between two parts.

## Main results

* `takeWhile_append_stop`, `dropWhile_append_stop`, `trimRight_append_stop`: a character outside
  the class ends the front, and everything before it stays.
* `mem_trimRight`, `mem_trim`: the characters outside the class stay.
* `exists_trimRight`, `exists_trim`: what is trimmed stood at the ends.
* `trimRight_append_of_forall`, `lt_length_trimRight_iff`: a text with characters of the class
  behind it.
* `splitOn_append`, `splitFirst?_append`, `splitLast?_append`: a separator between two parts is a
  cut.
* `induction_cut`: induction along the parts of a text.
* `percentEncode_of_kept`: what is kept is written as it is.
-/

namespace EntitySql.Text

variable {p : Char → Bool} {separator c : Char} {s t : List Char}

/-! ### Trimming -/

/-- A class of characters at the front of a text ends at a character that is not of the class. -/
theorem takeWhile_append_stop (stop : p c = false) :
    (s ++ c :: t).takeWhile p = s.takeWhile p := by
  induction s with
  | nil => rw [List.nil_append, List.takeWhile_cons_of_neg (by simp [stop]), List.takeWhile_nil]
  | cons d rest ih =>
      cases h : p d with
      | true =>
          rw [List.cons_append, List.takeWhile_cons_of_pos h, ih, List.takeWhile_cons_of_pos h]
      | false =>
          rw [List.cons_append, List.takeWhile_cons_of_neg (by simp [h]),
            List.takeWhile_cons_of_neg (by simp [h])]

/-- What follows a class of characters at the front of a text holds the first character that is not
of the class, and all behind it. -/
theorem dropWhile_append_stop (stop : p c = false) :
    (s ++ c :: t).dropWhile p = s.dropWhile p ++ c :: t := by
  induction s with
  | nil => rw [List.nil_append, List.dropWhile_cons_of_neg (by simp [stop]), List.dropWhile_nil,
      List.nil_append]
  | cons d rest ih =>
      cases h : p d with
      | true =>
          rw [List.cons_append, List.dropWhile_cons_of_pos h, ih, List.dropWhile_cons_of_pos h]
      | false =>
          rw [List.cons_append, List.dropWhile_cons_of_neg (by simp [h]),
            List.dropWhile_cons_of_neg (by simp [h]), List.cons_append]

/-- Trimming the end of a text stops at a character that is not of the class. -/
theorem trimRight_append_stop (stop : p c = false) :
    trimRight p (s ++ c :: t) = s ++ c :: trimRight p t := by
  have turned : (s ++ c :: t).reverse = t.reverse ++ c :: s.reverse := by simp
  rw [trimRight, turned, dropWhile_append_stop stop]
  simp [trimRight]

/-- A character that is not trimmed stays wherever it stands. -/
theorem mem_trimRight (member : c ∈ s) (stop : p c = false) : c ∈ trimRight p s := by
  obtain ⟨front, behind, rfl⟩ := List.append_of_mem member
  rw [trimRight_append_stop stop]
  simp

/-- A character that is not of the class is never trimmed. -/
theorem mem_trim (member : c ∈ s) (stop : p c = false) : c ∈ trim p s := by
  obtain ⟨front, behind, rfl⟩ := List.append_of_mem member
  refine mem_trimRight ?_ stop
  rw [trimLeft, dropWhile_append_stop stop]
  simp

/-- Trimming the end of a text leaves what stands in front. -/
theorem isPrefix_trimRight (p : Char → Bool) (s : List Char) : trimRight p s <+: s :=
  List.rdropWhile_prefix p s

/-- What is trimmed from the end of a text stood there. -/
theorem exists_trimRight (p : Char → Bool) (s : List Char) : ∃ right,
    s = trimRight p s ++ right ∧ ∀ c ∈ right, p c = true :=
  ⟨s.rtakeWhile p, List.rdropWhile_append_rtakeWhile.symm,
    fun _ member => List.mem_rtakeWhile_imp member⟩

/-- What is trimmed from a text stood at its ends. -/
theorem exists_trim (p : Char → Bool) (s : List Char) : ∃ left right,
    s = left ++ (trim p s ++ right) ∧ (∀ c ∈ left, p c = true) ∧ ∀ c ∈ right, p c = true := by
  obtain ⟨right, behind, class_right⟩ := exists_trimRight p (trimLeft p s)
  refine ⟨s.takeWhile p, right, ?_, List.all_eq_true.mp List.all_takeWhile, class_right⟩
  rw [trim, ← behind, trimLeft, List.takeWhile_append_dropWhile]

/-- A trimmed text does not end in a character of the class. -/
theorem getLast?_trimRight : ∀ c ∈ (trimRight p s).getLast?, p c = false := by
  intro c last
  obtain ⟨nonempty, rfl⟩ := List.mem_getLast?_eq_getLast last
  exact Bool.eq_false_iff.mpr (List.rdropWhile_last_not p s nonempty)

/-- A text that does not end in a character of the class stays. -/
theorem trimRight_of_getLast? (ended : ∀ c ∈ s.getLast?, p c = false) : trimRight p s = s := by
  refine List.rdropWhile_eq_self_iff.mpr fun nonempty => ?_
  simpa using ended _ (List.getLast?_eq_some_getLast nonempty)

/-- Characters of the class behind a text are trimmed with its own. -/
theorem trimRight_append_of_forall (class_behind : ∀ c ∈ t, p c = true) :
    trimRight p (s ++ t) = trimRight p s := by
  have turned : ∀ c ∈ t.reverse, p c = true := fun c member =>
    class_behind c (List.mem_reverse.mp member)
  rw [trimRight, List.reverse_append, List.dropWhile_append_of_pos turned, trimRight]

/-- What is trimmed behind a place has no part in what is trimmed in front of it. -/
theorem trimRight_take_trimRight (n : Nat) :
    trimRight p ((trimRight p s).take n) = trimRight p (s.take n) := by
  obtain ⟨right, cut, class_right⟩ := exists_trimRight p s
  have behind : ∀ c ∈ right.take (n - (trimRight p s).length), p c = true :=
    fun c member => class_right c (List.mem_of_mem_take member)
  conv => rhs; rw [cut, List.take_append, trimRight_append_of_forall behind]

/-- A trimmed text reaches behind a place exactly if a character that is not of the class stands
there. -/
theorem lt_length_trimRight_iff {n : Nat} :
    n < (trimRight p s).length ↔ ∃ c ∈ s.drop n, p c = false := by
  constructor
  · intro long
    obtain ⟨c, last⟩ : ∃ c, ((trimRight p s).drop n).getLast? = some c :=
      Option.isSome_iff_exists.mp (by simpa using long)
    have last_trimmed : (trimRight p s).getLast? = some c := by
      rw [← last, List.getLast?_drop, if_neg (Nat.not_le.mpr long)]
    exact ⟨c, ((isPrefix_trimRight p s).drop n).subset (List.mem_of_getLast? last),
      getLast?_trimRight c last_trimmed⟩
  · rintro ⟨c, member, stop⟩
    obtain ⟨right, cut, class_right⟩ := exists_trimRight p s
    by_contra short
    have drop : s.drop n = right.drop (n - (trimRight p s).length) := by
      conv => lhs; rw [cut, List.drop_append, List.drop_of_length_le (by omega), List.nil_append]
    rw [drop] at member
    exact absurd (class_right c (List.mem_of_mem_drop member)) (by simp [stop])

/-- A text without characters of the class is not trimmed. -/
theorem trim_of_forall (outside : ∀ c ∈ s, p c = false) : trim p s = s := by
  have start : trimLeft p s = s := by
    cases s with
    | nil => rfl
    | cons c rest => exact List.dropWhile_cons_of_neg (by simp [outside c List.mem_cons_self])
  rw [trim, start]
  exact trimRight_of_getLast? fun c last => outside c (List.mem_of_getLast? last)

/-! ### Cutting -/

/-- A text has at least one part. -/
theorem splitOn_ne_nil (separator : Char) (s : List Char) : splitOn separator s ≠ [] := by
  induction s with
  | nil => exact List.cons_ne_nil _ _
  | cons c rest ih =>
      rw [splitOn]
      split
      · exact List.cons_ne_nil _ _
      · split <;> exact List.cons_ne_nil _ _

/-- A text without the separator is one part. -/
theorem splitOn_of_notMem (absent : separator ∉ s) : splitOn separator s = [s] := by
  induction s with
  | nil => rfl
  | cons c rest ih =>
      obtain ⟨other, absent⟩ := List.ne_and_not_mem_of_not_mem_cons absent
      rw [splitOn, if_neg (Ne.symm other), ih absent]

/-- The parts around a separator are those in front of it and those behind it. -/
theorem splitOn_append : splitOn separator (s ++ separator :: t)
    = splitOn separator s ++ splitOn separator t := by
  induction s with
  | nil => simp only [List.nil_append, splitOn, if_true, List.cons_append]
  | cons c rest ih =>
      rw [List.cons_append, splitOn, splitOn, ih]
      split
      · rfl
      · obtain ⟨part, parts, cut⟩ := List.exists_cons_of_ne_nil (splitOn_ne_nil separator rest)
        rw [cut]
        rfl

/-- The first cut is made at the first separator. -/
theorem splitFirst?_append (absent : separator ∉ s) :
    splitFirst? separator (s ++ separator :: t) = some (s, t) := by
  induction s with
  | nil => rw [List.nil_append, splitFirst?, if_pos rfl]
  | cons c rest ih =>
      obtain ⟨other, absent⟩ := List.ne_and_not_mem_of_not_mem_cons absent
      rw [List.cons_append, splitFirst?, if_neg (Ne.symm other), ih absent, Option.map_some]

/-- A text without the separator is not cut. -/
theorem splitFirst?_of_notMem (absent : separator ∉ s) : splitFirst? separator s = none := by
  induction s with
  | nil => rfl
  | cons c rest ih =>
      obtain ⟨other, absent⟩ := List.ne_and_not_mem_of_not_mem_cons absent
      rw [splitFirst?, if_neg (Ne.symm other), ih absent, Option.map_none]

/-- The last cut is made at the last separator. -/
theorem splitLast?_append (separator : Char) (s t : List Char) :
    splitLast? separator (s ++ separator :: t) = match splitLast? separator t with
      | some (front, behind) => some (s ++ separator :: front, behind)
      | none => some (s, t) := by
  induction s with
  | nil =>
      rw [List.nil_append, splitLast?]
      split <;> simp_all
  | cons c rest ih =>
      rw [List.cons_append, splitLast?, ih]
      cases splitLast? separator t <;> rfl

/-- A text without the separator is not cut. -/
theorem splitLast?_of_notMem (absent : separator ∉ s) : splitLast? separator s = none := by
  induction s with
  | nil => rfl
  | cons c rest ih =>
      obtain ⟨other, absent⟩ := List.ne_and_not_mem_of_not_mem_cons absent
      rw [splitLast?, ih absent]
      exact if_neg (Ne.symm other)

/-- A text has no separator or is cut at its first one. -/
theorem notMem_or_exists_cut (separator : Char) (s : List Char) :
    separator ∉ s ∨ ∃ front behind, separator ∉ front ∧ s = front ++ separator :: behind := by
  rcases Decidable.em (separator ∈ s) with member | absent
  · obtain ⟨front, behind, cut, first⟩ := List.eq_append_cons_of_mem member
    exact .inr ⟨front, behind, first, cut⟩
  · exact .inl absent

/-- **A text is taken apart at its separators**, the first one first. -/
@[elab_as_elim]
theorem induction_cut {motive : List Char → Prop} (separator : Char)
    (whole : ∀ s, separator ∉ s → motive s)
    (cut : ∀ front behind, separator ∉ front → motive behind →
      motive (front ++ separator :: behind)) (s : List Char) : motive s := by
  rcases notMem_or_exists_cut separator s with absent | ⟨front, behind, absent, same⟩
  · exact whole s absent
  · have shorter : behind.length < s.length := by
      rw [same, List.length_append, List.length_cons]
      omega
    rw [same]
    exact cut front behind absent (induction_cut separator whole cut behind)
termination_by s.length

/-- The characters between separators are those of the text that are no separators. -/
theorem of_mem_splitOn {part : List Char} (among : part ∈ splitOn separator s)
    (member : c ∈ part) : c ∈ s ∧ c ≠ separator := by
  induction s using induction_cut separator with
  | whole s absent =>
      rw [splitOn_of_notMem absent] at among
      obtain rfl := List.mem_singleton.mp among
      exact ⟨member, fun same => absent (same ▸ member)⟩
  | cut front behind absent ih =>
      rw [splitOn_append, splitOn_of_notMem absent, List.singleton_append] at among
      rcases List.mem_cons.mp among with rfl | later
      · exact ⟨List.mem_append_left _ member, fun same => absent (same ▸ member)⟩
      · obtain ⟨inside, other⟩ := ih later
        exact ⟨List.mem_append_right _ (List.mem_cons_of_mem _ inside), other⟩

/-! ### Percent encoding -/

/-- Texts side by side are encoded one by one. -/
theorem percentEncode_append (keep : Char → Bool) (s t : List Char) :
    percentEncode keep (s ++ t) = percentEncode keep s ++ percentEncode keep t :=
  List.flatMap_append

/-- Characters that are kept are written as they are. -/
theorem percentEncode_of_kept (kept : ∀ c ∈ s, p c = true) : percentEncode p s = s := by
  induction s with
  | nil => rfl
  | cons c rest ih =>
      obtain ⟨first, others⟩ := List.forall_mem_cons.mp kept
      have encoded := ih others
      rw [percentEncode] at encoded ⊢
      rw [List.flatMap_cons, if_pos first, encoded]
      rfl

end EntitySql.Text
