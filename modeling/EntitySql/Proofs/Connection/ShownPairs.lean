import EntitySql.Connection.Redaction
import EntitySql.Proofs.Text.Cutting
import EntitySql.Proofs.Text.Joined
import EntitySql.Proofs.Text.Prefix
/-!
# What messages show of key-value pairs

A text that is shown as key-value pairs is cut at every semicolon, and what stands behind the first
equals sign of a part is hidden if the part starts with the key of a password. So what is shown of a
text is what is shown of its first part, and behind it what is shown of the rest.

## Main definitions

* `firstPart`, `shownBehind`: a text in front of its first semicolon, and what is shown from there
  on.

## Main results

* `redactPairs_eq`, `redactPairs_append`: a text is shown part by part.
* `redactPairs_append_inj`: what is shown has the parts of the text.
* `lower_mem_of_passwordName`, `lower_mem_of_isPasswordKey`: the key of a password has few
  characters.
* `redactPair_of_key`, `redactPair_of_otherKey`: the value behind a key is hidden, or shown.
* `redactPairs_key`: what is shown of a text that starts with a key.
-/

namespace EntitySql.Connection

open EntitySql.Text

variable {s t key value : List Char}

/-! ### Parts -/

/-- A text in front of its first semicolon. -/
def firstPart (s : List Char) : List Char :=
  s.takeWhile (· != ';')

/-- What is shown of a text from its first semicolon on. -/
def shownBehind (s : List Char) : List Char :=
  match s.dropWhile (· != ';') with
  | [] => []
  | semicolon :: behind => semicolon :: redactPairs behind

/-- The characters of a text without a semicolon are no semicolons. -/
theorem ne_semicolon (absent : ';' ∉ s) : ∀ c ∈ s, (c != ';') = true := by
  intro c member
  have other : c ≠ ';' := fun same => absent (same ▸ member)
  simpa using other

/-- Text without a semicolon belongs to the first part. -/
theorem firstPart_append (absent : ';' ∉ s) (t : List Char) :
    firstPart (s ++ t) = s ++ firstPart t :=
  List.takeWhile_append_of_pos (ne_semicolon absent)

/-- Text without a semicolon in front does not change what is shown from there on. -/
theorem shownBehind_append (absent : ';' ∉ s) (t : List Char) :
    shownBehind (s ++ t) = shownBehind t := by
  rw [shownBehind, List.dropWhile_append_of_pos (ne_semicolon absent), shownBehind]

/-- Text without a semicolon is its first part. -/
theorem firstPart_of_notMem (absent : ';' ∉ s) : firstPart s = s := by
  simpa [firstPart] using firstPart_append absent []

/-- Text without a semicolon has nothing behind its first part. -/
theorem shownBehind_of_notMem (absent : ';' ∉ s) : shownBehind s = [] := by
  simpa [shownBehind] using shownBehind_append absent []

/-- The first part of a text is known from what is shown behind it. -/
theorem firstPart_append_shownBehind_inj : firstPart s ++ shownBehind s
    = firstPart t ++ shownBehind t ↔ firstPart s = firstPart t ∧ shownBehind s = shownBehind t := by
  have part (s : List Char) : ∀ c ∈ firstPart s, (c != ';') = true :=
    List.all_eq_true.mp List.all_takeWhile
  have start (s : List Char) : ∀ c ∈ (shownBehind s).head?, (c != ';') = false := by
    intro c member
    rw [shownBehind] at member
    split at member
    · cases member
    · rename_i semicolon behind cut
      obtain rfl := Option.mem_some.mp member
      have stop := List.head?_dropWhile_not (· != ';') s
      rw [cut] at stop
      simpa using stop
  constructor
  · exact append_inj_of_stop (part s) (part t) (start s) (start t)
  · rintro ⟨front, behind⟩
    rw [front, behind]

/-- From its first semicolon on a text is shown as pairs. -/
theorem shownBehind_semicolon (absent : ';' ∉ s) (t : List Char) :
    shownBehind (s ++ ';' :: t) = ';' :: redactPairs t := by
  rw [shownBehind_append absent, shownBehind, List.dropWhile_cons_of_neg (by simp)]

/-- Text without a semicolon is one pair. -/
theorem redactPairs_of_notMem (absent : ';' ∉ s) : redactPairs s = redactPair s := by
  rw [redactPairs, splitOn_of_notMem absent]
  simp [joined]

/-- **Texts around a semicolon are shown one by one.** -/
theorem redactPairs_append (s t : List Char) :
    redactPairs (s ++ ';' :: t) = redactPairs s ++ ';' :: redactPairs t := by
  have some (s : List Char) :
      (splitOn ';' s).map (fun part => String.ofList (redactPair part)) ≠ [] := by
    simpa using splitOn_ne_nil ';' s
  rw [redactPairs, splitOn_append, List.map_append, joined_append (some s) (some t)]
  simp [redactPairs]

/-- A text is shown as its first part and what is shown behind it. -/
theorem redactPairs_eq (s : List Char) :
    redactPairs s = redactPair (firstPart s) ++ shownBehind s := by
  rcases notMem_or_exists_cut ';' s with absent | ⟨front, behind, absent, rfl⟩
  · rw [redactPairs_of_notMem absent, firstPart_of_notMem absent, shownBehind_of_notMem absent,
      List.append_nil]
  · have first : firstPart (front ++ ';' :: behind) = front := by
      rw [firstPart, takeWhile_append_stop (by simp)]
      exact firstPart_of_notMem absent
    rw [redactPairs_append, redactPairs_of_notMem absent, first, shownBehind_semicolon absent]

/-- Nothing stands in front of a semicolon in what is shown for a part. -/
theorem notMem_redactPair (absent : ';' ∉ s) : ';' ∉ redactPair s := by
  rcases notMem_or_exists_cut '=' s with noEquals | ⟨key, value, noEquals, rfl⟩
  · rwa [redactPair, splitFirst?_of_notMem noEquals]
  · rw [redactPair, splitFirst?_append noEquals]
    dsimp only
    split
    · rw [List.mem_append, List.mem_cons] at absent ⊢
      simpa [stars] using fun member => absent (.inl member)
    · exact absent

/-- Texts are cut where what is shown of them is cut. So what is shown of a text in front of a
semicolon is known from the whole. -/
theorem redactPairs_append_inj {u : List Char} (same : s ++ ';' :: t = redactPairs s ++ ';' :: u) :
    s = redactPairs s ∧ t = u := by
  induction s using induction_cut ';' with
  | whole s absent =>
      rw [redactPairs_of_notMem absent] at same ⊢
      exact append_mark_inj absent (notMem_redactPair absent) same
  | cut front behind absent ih =>
      rw [redactPairs_append, redactPairs_of_notMem absent, List.append_assoc, List.append_assoc,
        List.cons_append, List.cons_append] at same
      obtain ⟨first, rest⟩ := append_mark_inj absent (notMem_redactPair absent) same
      obtain ⟨others, last⟩ := ih rest
      rw [redactPairs_append, redactPairs_of_notMem absent, ← first, ← others]
      exact ⟨rfl, last⟩

/-! ### Keys -/

/-- The names of passwords have a few characters only. -/
theorem lower_mem_of_passwordName {name : List Char}
    (h : String.ofList (name.map Char.toLower) ∈ ["password", "pwd"]) {c : Char}
    (member : c ∈ name) : c.toLower ∈ ['p', 'a', 's', 'w', 'o', 'r', 'd'] := by
  have known : ∀ name ∈ ["password", "pwd"],
      name.toList.all (['p', 'a', 's', 'w', 'o', 'r', 'd'].contains ·) = true := by decide
  have lowered : c.toLower ∈ (String.ofList (name.map Char.toLower)).toList := by
    rw [String.toList_ofList]
    exact List.mem_map_of_mem member
  exact List.contains_iff_mem.mp (List.all_eq_true.mp (known _ h) _ lowered)

/-- The key of a password has a few characters only, blanks apart. -/
theorem lower_mem_of_isPasswordKey (h : isPasswordKey key = true) {c : Char} (member : c ∈ key)
    (visible : isBlank c = false) : c.toLower ∈ ['p', 'a', 's', 'w', 'o', 'r', 'd'] :=
  lower_mem_of_passwordName (of_decide_eq_true h) (mem_trim member visible)

/-- What stands behind the key of a password is hidden. -/
theorem redactPair_of_key (h : isPasswordKey key = true) (value : List Char) :
    redactPair (key ++ '=' :: value) = key ++ '=' :: stars := by
  have absent : '=' ∉ key := fun member =>
    absurd (lower_mem_of_isPasswordKey h member (by decide)) (by decide)
  rw [redactPair, splitFirst?_append absent]
  exact if_pos h

/-- What stands behind another key is shown. -/
theorem redactPair_of_otherKey (absent : '=' ∉ key) (h : isPasswordKey key = false)
    (value : List Char) : redactPair (key ++ '=' :: value) = key ++ '=' :: value := by
  rw [redactPair, splitFirst?_append absent]
  exact if_neg (by simp [h])

/-- Blanks in front of a key do not count. -/
theorem isPasswordKey_append {blanks : List Char} (blank : ∀ c ∈ blanks, isBlank c = true)
    (key : List Char) : isPasswordKey (blanks ++ key) = isPasswordKey key := by
  rw [isPasswordKey, trim, trimLeft, List.dropWhile_append_of_pos blank]
  rfl

/-- **What is shown of a text that starts with a key**: the value up to the first semicolon is
hidden if the key is that of a password, and what follows is shown as pairs. -/
theorem redactPairs_key (noSemicolon : ';' ∉ key) (noEquals : '=' ∉ key) (t : List Char) :
    redactPairs (key ++ '=' :: t) = (key ++ ['='])
      ++ ((if isPasswordKey key then stars else firstPart t) ++ shownBehind t) := by
  have cut (t : List Char) : key ++ '=' :: t = (key ++ ['=']) ++ t := by simp
  have marked : ';' ∉ key ++ ['='] := by simpa using noSemicolon
  have shown : redactPair ((key ++ ['=']) ++ firstPart t)
      = (key ++ ['=']) ++ (if isPasswordKey key then stars else firstPart t) := by
    rw [← cut, ← cut]
    by_cases named : isPasswordKey key = true
    · rw [redactPair_of_key named, if_pos named]
    · rw [redactPair_of_otherKey noEquals (Bool.eq_false_iff.mpr named), if_neg named]
  rw [cut, redactPairs_eq, firstPart_append marked, shownBehind_append marked, shown,
    List.append_assoc]

/-- A part that starts with what no key of a password has is shown. -/
theorem redactPair_of_start (absent : '=' ∉ s)
    (other : ∀ t, isPasswordKey (s ++ t) = false) (t : List Char) :
    redactPair (s ++ t) = s ++ t := by
  rcases notMem_or_exists_cut '=' t with none | ⟨front, behind, none, rfl⟩
  · rw [redactPair, splitFirst?_of_notMem (by simp [absent, none])]
  · rw [← List.append_assoc]
    exact redactPair_of_otherKey (by simp [absent, none]) (other front) behind

end EntitySql.Connection
