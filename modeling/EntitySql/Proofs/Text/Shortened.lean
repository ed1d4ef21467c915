import EntitySql.Proofs.Text.Cutting
import EntitySql.Proofs.Text.Utf8
import EntitySql.Text.Shortened
/-!
# What a shortened text shows

A shortened text is the front of a text without the blanks at its end, closed by dots if the text
is long. Blanks count for the length, although they are not shown at the end. So the dots stand
for something that was left out in every long text but one that is long by the blanks at its end:
of this one all that is visible is shown, and dots stand behind it.

The characters of a text are counted, and its bytes are cut. The cut is made where a character
starts, so what stands in front of it is a text again.

## Main definitions

* `unpadded`: characters without the blanks at their end.
* `Kept`, `LeavesOut`: a part that can be shown of a text, and that more of the text is visible.
* `MarksCut`: the dots tell whether something visible is left out.
* `LongByBlanks`: a text that is not long without the blanks at its end.
* `shortenedInBytes`: shortening by a cut in the bytes.

## Main results

* `Kept.leavesOut_iff`: the only part that leaves nothing out.
* `shortened_eq`, `shortened_unpadded`: what is shown of a text, and of one without the blanks at
  its end.
* `shortenedInBytes_eq`: no character is split.
* `shortened_marks_cut_iff`: the texts of which the dots tell what is left out.
-/

namespace EntitySql.Text

variable {s u : String}

/-! ### Blanks at the end -/

/-- Characters as a text without the blanks at its end. -/
def unpadded (s : List Char) : String :=
  String.ofList (trimRight isBlank s)

/-- Dropping the blanks at the end, on characters. -/
@[simp] theorem toList_unpadded (s : List Char) : (unpadded s).toList = trimRight isBlank s :=
  String.toList_ofList

/-- The length without the blanks at the end, on characters. -/
@[simp] theorem length_unpadded (s : List Char) :
    (unpadded s).length = (trimRight isBlank s).length :=
  String.length_ofList

/-- Without its last blanks a text is not longer. -/
theorem length_unpadded_le (s : List Char) : (unpadded s).length ≤ s.length :=
  (length_unpadded s).trans_le (isPrefix_trimRight _ _).length_le

/-- Blanks are dropped once: then there are none left at the end. -/
theorem unpadded_toList_unpadded (s : List Char) : unpadded (unpadded s).toList = unpadded s := by
  rw [toList_unpadded, unpadded, trimRight_of_getLast? getLast?_trimRight, unpadded]

/-- Blanks at the end have no part in what stands in front of a place. -/
theorem unpadded_take_unpadded (s : List Char) (n : Nat) :
    unpadded ((unpadded s).toList.take n) = unpadded (s.take n) := by
  rw [toList_unpadded, unpadded, trimRight_take_trimRight, unpadded]

/-! ### Parts of a text -/

/-- A part that stands in front in a text and does not end in a blank. -/
structure Kept (s u : String) : Prop where
  front : u.toList <+: s.toList
  ended : ∀ c ∈ u.toList.getLast?, isBlank c = false

/-- Behind a part in front of a text more of it is visible. -/
def LeavesOut (s u : String) : Prop :=
  ∃ c ∈ s.toList.drop u.length, isBlank c = false

instance : Decidable (LeavesOut s u) :=
  inferInstanceAs (Decidable (∃ c ∈ _, _))

/-- The first characters of a text without their last blanks are a part that is kept. -/
theorem kept_unpadded_take (s : String) (n : Nat) : Kept s (unpadded (s.toList.take n)) where
  front := by
    rw [toList_unpadded]
    exact (isPrefix_trimRight _ _).trans (List.take_prefix _ _)
  ended := by
    rw [toList_unpadded]
    exact getLast?_trimRight

/-- More of a text is visible behind a part that is shorter than the text without the blanks at its
end. -/
theorem leavesOut_iff_lt : LeavesOut s u ↔ u.length < (unpadded s.toList).length := by
  rw [length_unpadded]
  exact lt_length_trimRight_iff.symm

/-- A part leaves nothing out only if it is the whole text, blanks at the end apart. -/
theorem Kept.leavesOut_iff (kept : Kept s u) : LeavesOut s u ↔ u ≠ unpadded s.toList := by
  constructor
  · rintro out rfl
    exact Nat.lt_irrefl _ (leavesOut_iff_lt.mp out)
  · intro more
    obtain ⟨rest, cut⟩ := kept.front
    by_contra whole
    have blank : ∀ c ∈ rest, isBlank c = true := by
      simpa [LeavesOut, ← cut, ← String.length_toList] using whole
    refine more (String.toList_inj.mp ?_)
    rw [toList_unpadded, ← cut, trimRight_append_of_forall blank,
      trimRight_of_getLast? kept.ended]

/-- Behind a place where a text is cut more of it is visible exactly if the text reaches behind the
place without the blanks at its end. -/
theorem leavesOut_unpadded_take (s : String) (n : Nat) :
    LeavesOut s (unpadded (s.toList.take n)) ↔ n < (unpadded s.toList).length := by
  rw [leavesOut_iff_lt]
  constructor
  · intro shorter
    by_contra! short
    rw [← unpadded_take_unpadded, List.take_of_length_le (String.length_toList.trans_le short),
      unpadded_toList_unpadded] at shorter
    exact Nat.lt_irrefl _ shorter
  · intro long
    calc (unpadded (s.toList.take n)).length
        ≤ (s.toList.take n).length := length_unpadded_le _
      _ ≤ n := List.length_take_le _ _
      _ < (unpadded s.toList).length := long

/-- A cut leaves the whole text, blanks at the end apart, if this ends in front of the place. -/
theorem unpadded_take_eq_iff {n : Nat} :
    unpadded (s.toList.take n) = unpadded s.toList ↔ (unpadded s.toList).length ≤ n := by
  have cut := (kept_unpadded_take s n).leavesOut_iff
  rw [leavesOut_unpadded_take] at cut
  rw [← Nat.not_lt, cut, not_ne_iff]

/-! ### Texts as they are shown -/

/-- What a message quotes, both arms at once: the first characters without their last blanks, and
dots behind them if the text is longer. -/
theorem shortened_eq (s : String) :
    shortened s = unpadded (s.toList.take quotedLength)
      ++ if quotedLength < s.length then "...\n" else "\n" := by
  rw [shortened, String.length_toList, unpadded]
  split <;> rfl

/-- Without the blanks at its end a text is shown as it is with them, but for the ending. -/
theorem shortened_unpadded (s : String) :
    shortened (unpadded s.toList) = unpadded (s.toList.take quotedLength)
      ++ if quotedLength < (unpadded s.toList).length then "...\n" else "\n" := by
  rw [shortened_eq, unpadded_take_unpadded]

/-- A text that is not long is not cut. -/
theorem take_quotedLength (short : ¬quotedLength < s.length) :
    s.toList.take quotedLength = s.toList :=
  List.take_of_length_le (String.length_toList.trans_le (Nat.not_lt.mp short))

/-- The ending tells whether there are dots. -/
theorem append_ending_inj {p q : Prop} [Decidable p] [Decidable q] :
    ((u ++ if p then "...\n" else "\n") = u ++ if q then "...\n" else "\n") ↔ (p ↔ q) := by
  rw [String.append_right_inj]
  by_cases hp : p <;> by_cases hq : q <;> simp [hp, hq]

/-! ### Dots -/

/-- The dots behind a text tell whether something visible of it is left out. -/
def MarksCut (s : String) : Prop :=
  ∃ u, Kept s u ∧ shortened s = u ++ if LeavesOut s u then "...\n" else "\n"

/-- A text that is long, but not without the blanks at its end. -/
def LongByBlanks (s : String) : Prop :=
  (unpadded s.toList).length ≤ quotedLength ∧ quotedLength < s.length

/-- A text is not long by its blanks alone if it is long exactly when it is so without them. -/
theorem not_longByBlanks_iff :
    ¬LongByBlanks s ↔ (quotedLength < s.length ↔ quotedLength < (unpadded s.toList).length) := by
  have shorter : (unpadded s.toList).length ≤ s.length :=
    (length_unpadded_le _).trans_eq String.length_toList
  rw [LongByBlanks]
  omega

/-- Blanks at the end of a text make no difference unless it is long by them. -/
theorem shortened_unpadded_eq_iff :
    shortened (unpadded s.toList) = shortened s ↔ ¬LongByBlanks s := by
  rw [shortened_unpadded, shortened_eq, append_ending_inj, not_longByBlanks_iff]
  exact Iff.comm

/-- Dots stand behind a text that is shown to its last visible character exactly if it is long by
its blanks. -/
theorem shortened_eq_unpadded_dots_iff :
    shortened s = unpadded s.toList ++ "...\n" ↔ LongByBlanks s := by
  rw [shortened_eq]
  constructor
  · intro shown
    by_cases long : quotedLength < s.length
    · rw [if_pos long, String.append_left_inj] at shown
      exact ⟨unpadded_take_eq_iff.mp shown, long⟩
    · rw [if_neg long, take_quotedLength long, String.append_right_inj] at shown
      exact absurd shown (by decide)
  · rintro ⟨short, long⟩
    rw [unpadded_take_eq_iff.mpr short, if_pos long]

/-- The dots tell whether something is left out exactly if the text is not long by its blanks.
Otherwise there is no part that can be taken for the one that is shown. -/
theorem marksCut_iff : MarksCut s ↔ ¬LongByBlanks s := by
  constructor
  · rintro ⟨u, kept, shown⟩ padded
    rw [shortened_eq_unpadded_dots_iff.mpr padded] at shown
    -- with either ending the part is all that is visible, which leaves nothing out and has dots
    by_cases out : LeavesOut s u
    · rw [if_pos out, String.append_left_inj] at shown
      exact kept.leavesOut_iff.mp out shown.symm
    · have whole : u = unpadded s.toList := by simpa [kept.leavesOut_iff] using out
      rw [if_neg out, whole, String.append_right_inj] at shown
      exact absurd shown (by decide)
  · intro notPadded
    refine ⟨_, kept_unpadded_take s quotedLength, ?_⟩
    rw [shortened_eq, append_ending_inj, leavesOut_unpadded_take]
    exact not_longByBlanks_iff.mp notPadded

/-! ### Bytes -/

/-- The indices of the bytes at which the characters of a text start. -/
def byteStarts (index : Nat) : List Char → List Nat
  | [] => []
  | c :: rest => index :: byteStarts (index + c.utf8Size) rest

/-- A text as a message quotes it, by its bytes: a long text is cut in front of the byte at which
the first character starts that is not shown, and what stands there is read. -/
def shortenedInBytes (s : String) : Except Utf8Error String :=
  match (byteStarts 0 s.toList)[quotedLength]? with
  | some stop => do
      let front ← ofUtf8 ((utf8 s.toList).take stop)
      return unpadded front ++ "...\n"
  | none => return unpadded s.toList ++ "\n"

/-- A character starts behind the bytes of those in front of it. -/
theorem getElem?_byteStarts (s : List Char) (n index : Nat) :
    (byteStarts index s)[n]?
      = if n < s.length then some (index + (utf8 (s.take n)).length) else none := by
  induction s generalizing n index with
  | nil => simp [byteStarts]
  | cons c rest ih =>
      cases n with
      | zero => simp [byteStarts, utf8]
      | succ n =>
          rw [byteStarts, List.getElem?_cons_succ, ih, List.take_succ_cons, utf8_cons,
            List.length_append, String.length_utf8EncodeChar, Nat.add_assoc]
          simp

/-- **No character is split**: what stands in front of the cut in the bytes is a text, the one in
front of the cut in the characters. -/
theorem shortenedInBytes_eq (s : String) : shortenedInBytes s = .ok (shortened s) := by
  rw [shortenedInBytes, getElem?_byteStarts, shortened_eq, String.length_toList]
  by_cases long : quotedLength < s.length
  · rw [if_pos long, if_pos long, Nat.zero_add]
    simp only [ofUtf8_take_utf8 (List.take_prefix quotedLength s.toList)]
    rfl
  · rw [if_neg long, if_neg long, take_quotedLength long]
    rfl

/-! ### What is shown -/

/-- The part of a text that is shown: its bytes end where a character does, it is not long, and of
the characters in front of the cut it leaves out no more than the blanks at their end. -/
structure Shown (s u : String) : Prop extends Kept s u where
  whole : ofUtf8 ((utf8 s.toList).take (utf8 u.toList).length) = .ok u.toList
  short : u.length ≤ quotedLength
  rest : ∀ c ∈ (s.toList.take quotedLength).drop u.length, isBlank c = true

/-- The characters in front of the cut, without their last blanks, are what is shown. -/
theorem shown_unpadded_take (s : String) : Shown s (unpadded (s.toList.take quotedLength)) where
  toKept := kept_unpadded_take s quotedLength
  whole := ofUtf8_take_utf8 (kept_unpadded_take s quotedLength).front
  short := (length_unpadded_le _).trans (List.length_take_le _ _)
  rest := by
    rw [length_unpadded]
    intro c member
    by_contra visible
    have longer := lt_length_trimRight_iff.mpr ⟨c, member, Bool.eq_false_iff.mpr visible⟩
    exact Nat.lt_irrefl _ longer

/-- What a message quotes is bounded, whatever text comes in. -/
theorem length_shortened_le (s : String) : (shortened s).length ≤ 501 := by
  have short := (shown_unpadded_take s).short
  have ending : (if quotedLength < s.length then "...\n" else "\n").length ≤ 4 := by
    split <;> decide
  calc (shortened s).length
      = (unpadded (s.toList.take quotedLength)).length
          + (if quotedLength < s.length then "...\n" else "\n").length := by
        rw [shortened_eq, String.length_append]
    _ ≤ 497 + 4 := Nat.add_le_add short ending

/-- **What is shown of a text.** It is the front of the text, in whole characters and without blanks
at its end, and the ending has dots if the text is long. The dots tell whether something visible is
left out, and blanks at the end of the text make no difference, exactly if the text is not long by
these blanks; if it is, dots stand behind all that is visible of it. -/
theorem shortened_marks_cut_iff (s : String) :
    (∃ u, Shown s u ∧ shortened s = u ++ if quotedLength < s.length then "...\n" else "\n")
      ∧ shortenedInBytes s = .ok (shortened s)
      ∧ (shortened s).length ≤ 501
      ∧ (MarksCut s ↔ ¬LongByBlanks s)
      ∧ (shortened (unpadded s.toList) = shortened s ↔ ¬LongByBlanks s)
      ∧ (shortened s = unpadded s.toList ++ "...\n" ↔ LongByBlanks s) :=
  ⟨⟨_, shown_unpadded_take s, shortened_eq s⟩, shortenedInBytes_eq s, length_shortened_le s,
    marksCut_iff, shortened_unpadded_eq_iff, shortened_eq_unpadded_dots_iff⟩

/-- A short command with many blanks behind it is shown with dots. -/
theorem not_marksCut_padded :
    ¬MarksCut ("SELECT 1" ++ String.ofList (List.replicate 490 ' '))
      ∧ shortened ("SELECT 1" ++ String.ofList (List.replicate 490 ' ')) = "SELECT 1...\n"
      ∧ shortened "SELECT 1" = "SELECT 1\n" := by
  have blank : ∀ c ∈ List.replicate 490 ' ', isBlank c = true := by
    intro c member
    rw [List.eq_of_mem_replicate member]
    decide
  have visible :
      unpadded ("SELECT 1" ++ String.ofList (List.replicate 490 ' ')).toList = "SELECT 1" := by
    rw [String.toList_append, String.toList_ofList, String.toList_ofList, unpadded,
      trimRight_append_of_forall blank]
    decide
  have padded : LongByBlanks ("SELECT 1" ++ String.ofList (List.replicate 490 ' ')) := by
    rw [LongByBlanks, visible, String.length_append, String.length_ofList, String.length_ofList,
      List.length_replicate]
    decide
  have shown := shortened_eq_unpadded_dots_iff.mpr padded
  rw [visible] at shown
  exact ⟨fun marks => marksCut_iff.mp marks padded, shown, by decide⟩

end EntitySql.Text
