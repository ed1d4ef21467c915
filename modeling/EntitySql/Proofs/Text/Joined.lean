import EntitySql.Proofs.Text.Cutting
import EntitySql.Text.Joined
/-!
# Separators

A separator is put behind a piece that wrote something as soon as another piece comes, before it is
known whether this one writes something too. If it does not, the separator serves for the next one
that does, as none is put behind an empty piece. So every pattern of empty pieces comes out right
but one: an empty piece at the end leaves the separator of the last piece that wrote something
behind it.

## Main definitions

* `between`: the separator between pieces that are not empty.
* `EndsEmpty`: the pattern that leaves a separator at the end.

## Main results

* `joined_append`: the separator between two lists of pieces.
* `separated_cons`: the separator behind a piece that is not empty.
* `separated_eq`, `separated_eq_between_iff`: what is written for any pattern of empty pieces.
* `separated_eq_joined`: pieces that are not empty are joined.
* `splitOn_joined`, `joined_inj`: joined pieces are read back.
-/

namespace EntitySql.Text

variable {c : Char} {separator piece last : String} {pieces : List String}

/-! ### Joined pieces -/

/-- The characters of joined pieces: the first piece, a separator, the others joined. -/
theorem toList_joined_cons (separator piece next : String) (rest : List String) :
    (joined separator (piece :: next :: rest)).toList
      = piece.toList ++ separator.toList ++ (joined separator (next :: rest)).toList := by
  rw [joined, String.toList_append, String.toList_append]

/-- Two lists of pieces are joined one behind the other, with the separator between them. -/
theorem joined_append {others : List String} (some : pieces ≠ []) (others_some : others ≠ []) :
    joined separator (pieces ++ others)
      = joined separator pieces ++ separator ++ joined separator others := by
  induction pieces with
  | nil => exact absurd rfl some
  | cons piece rest ih =>
      cases rest with
      | nil =>
          obtain ⟨next, more, rfl⟩ := List.exists_cons_of_ne_nil others_some
          rfl
      | cons next rest =>
          have behind := ih (List.cons_ne_nil _ _)
          rw [List.cons_append, List.cons_append, joined, ← List.cons_append, behind, joined]
          simp only [String.append_assoc]

/-- A piece at the end of others is joined to them with a separator in between. -/
theorem joined_concat (some : pieces ≠ []) :
    joined separator (pieces ++ [last]) = joined separator pieces ++ separator ++ last :=
  joined_append some (List.cons_ne_nil _ _)

/-- Joined pieces are empty only if there is none that is not. -/
theorem joined_ne_empty (separator : String) (some : pieces ≠ [])
    (written : ∀ piece ∈ pieces, piece ≠ "") : joined separator pieces ≠ "" := by
  obtain ⟨piece, rest, rfl⟩ := List.exists_cons_of_ne_nil some
  have first : piece ≠ "" := written piece List.mem_cons_self
  cases rest with
  | nil => exact first
  | cons next rest => simp [joined, String.append_eq_empty_iff, first]

/-- A character of joined pieces is one of a piece or of the separator. -/
theorem mem_joined (member : c ∈ (joined separator pieces).toList) :
    c ∈ separator.toList ∨ ∃ piece ∈ pieces, c ∈ piece.toList := by
  induction pieces with
  | nil => cases member
  | cons piece rest ih =>
      cases rest with
      | nil => exact .inr ⟨piece, List.mem_cons_self, member⟩
      | cons next rest =>
          rw [toList_joined_cons, List.mem_append, List.mem_append] at member
          rcases member with (first | between) | later
          · exact .inr ⟨piece, List.mem_cons_self, first⟩
          · exact .inl between
          · refine (ih later).imp_right ?_
            rintro ⟨other, among, inside⟩
            exact ⟨other, List.mem_cons_of_mem _ among, inside⟩

/-- A character that is in no piece and not in the separator is not in the joined pieces. -/
theorem notMem_joined (apart : c ∉ separator.toList)
    (plain : ∀ piece ∈ pieces, c ∉ piece.toList) : c ∉ (joined separator pieces).toList := by
  intro member
  rcases mem_joined member with between | ⟨piece, among, inside⟩
  · exact apart between
  · exact plain piece among inside

/-! ### Separated pieces -/

/-- A piece in front of others, with the separator if it wrote something. -/
theorem separatedAfter_cons (wrote : Bool) :
    separatedAfter separator wrote (piece :: pieces)
      = (if wrote then separator else "") ++ piece
        ++ separatedAfter separator (piece != "") pieces :=
  rfl

/-- The pieces behind one that wrote something begin with the separator. -/
theorem separatedAfter_true (next : String) :
    separatedAfter separator true (next :: pieces)
      = separator ++ separated separator (next :: pieces) := by
  rw [separated, separatedAfter_cons, separatedAfter_cons]
  simp [String.append_assoc]

/-- A single piece stands without a separator. -/
theorem separated_singleton : separated separator [piece] = piece := by
  simp [separated, separatedAfter]

/-- A piece that writes something is followed by the separator and the other pieces. -/
theorem separated_cons (some : piece ≠ "") (next : String) :
    separated separator (piece :: next :: pieces)
      = piece ++ separator ++ separated separator (next :: pieces) := by
  have wrote : (piece != "") = true := by simpa using some
  rw [separated, separatedAfter_cons, wrote, separatedAfter_true]
  simp [String.append_assoc]

/-! ### Patterns of empty pieces -/

/-- The pieces that are not empty, with a separator between every two neighbours. -/
def between (separator : String) (pieces : List String) : String :=
  joined separator (pieces.filter (· != ""))

/-- The last piece is empty, and one in front of it is not. -/
def EndsEmpty (pieces : List String) : Prop :=
  pieces.getLast? = some "" ∧ ∃ piece ∈ pieces, piece ≠ ""

instance : Decidable (EndsEmpty pieces) :=
  inferInstanceAs (Decidable (_ ∧ _))

/-- An empty piece in front does not count for what stands between neighbours. -/
@[simp] theorem between_cons_empty : between separator ("" :: pieces) = between separator pieces :=
  rfl

/-- Nor does an empty piece in front bring a separator. -/
@[simp] theorem separated_cons_empty :
    separated separator ("" :: pieces) = separated separator pieces := by
  simp [separated, separatedAfter_cons]

/-- Empty pieces alone make the empty text. -/
theorem between_of_empty (empty : ∀ p ∈ pieces, p = "") : between separator pieces = "" := by
  have none : pieces.filter (· != "") = [] := by simpa using empty
  rw [between, none, joined]

/-- A piece that is followed by empty ones stands alone. -/
theorem between_cons_of_empty (written : piece ≠ "") (empty : ∀ p ∈ pieces, p = "") :
    between separator (piece :: pieces) = piece := by
  have none : pieces.filter (· != "") = [] := by simpa using empty
  rw [between, List.filter_cons_of_pos (by simpa using written), none, joined]

/-- A piece that is followed by others that are not empty. -/
theorem between_cons (written : piece ≠ "") (others : ∃ p ∈ pieces, p ≠ "") :
    between separator (piece :: pieces) = piece ++ separator ++ between separator pieces := by
  obtain ⟨p, member, behind⟩ := others
  have left : pieces.filter (· != "") ≠ [] :=
    List.ne_nil_of_mem (List.mem_filter.mpr ⟨member, by simpa using behind⟩)
  rw [between, List.filter_cons_of_pos (by simpa using written)]
  exact joined_append (List.cons_ne_nil piece []) left

/-- An empty piece in front has no part in how pieces end. -/
@[simp] theorem endsEmpty_cons_empty : EndsEmpty ("" :: pieces) ↔ EndsEmpty pieces := by
  cases pieces with
  | nil => simp [EndsEmpty]
  | cons next rest => simp [EndsEmpty, List.getLast?_cons_cons]

/-- Behind a piece that is not empty, only the last one matters. -/
theorem endsEmpty_cons (written : piece ≠ "") (next : String) :
    EndsEmpty (piece :: next :: pieces) ↔ (next :: pieces).getLast? = some "" := by
  rw [EndsEmpty, List.getLast?_cons_cons]
  exact and_iff_left ⟨piece, List.mem_cons_self, written⟩

/-- **What is written for any pattern of empty pieces**: the pieces that are not empty with the
separator between them, and once more at the end if the pieces end empty. -/
theorem separated_eq :
    separated separator pieces
      = between separator pieces ++ if EndsEmpty pieces then separator else "" := by
  induction pieces with
  | nil => simp [EndsEmpty, separated, separatedAfter, between, joined]
  | cons piece rest ih =>
      by_cases written : piece = ""
      · subst written
        simp only [separated_cons_empty, between_cons_empty, endsEmpty_cons_empty, ih]
      cases rest with
      | nil =>
          rw [separated_singleton, between_cons_of_empty written (by simp)]
          simp [EndsEmpty, written]
      | cons next rest =>
          rw [separated_cons written, ih]
          by_cases others : ∃ p ∈ next :: rest, p ≠ ""
          · have same : EndsEmpty (piece :: next :: rest) ↔ EndsEmpty (next :: rest) := by
              rw [endsEmpty_cons written, EndsEmpty, and_iff_left others]
            simp only [between_cons written others, same, String.append_assoc]
          · -- no piece behind takes the separator up
            have empty : ∀ p ∈ next :: rest, p = "" := by simpa using others
            have last : (next :: rest).getLast? = some "" := by
              rw [List.getLast?_eq_some_getLast (List.cons_ne_nil _ _),
                empty _ (List.getLast_mem _)]
            rw [between_of_empty empty, if_neg fun ends => others ends.2,
              between_cons_of_empty written empty, if_pos ((endsEmpty_cons written next).mpr last)]
            simp

/-- The separators stand between the pieces and nowhere else exactly if the pieces do not end
empty, or there is nothing to see of a separator. -/
theorem separated_eq_between_iff :
    separated separator pieces = between separator pieces ↔ separator = "" ∨ ¬EndsEmpty pieces := by
  rw [separated_eq, String.append_eq_left_iff]
  by_cases ends : EndsEmpty pieces <;> simp [ends]

/-- Pieces that all write something are joined. -/
theorem separated_eq_joined (some : ∀ piece ∈ pieces, piece ≠ "") :
    separated separator pieces = joined separator pieces := by
  have all : pieces.filter (· != "") = pieces := by simpa using some
  have ends : ¬EndsEmpty pieces := fun empty => some "" (List.mem_of_getLast? empty.1) rfl
  rw [separated_eq, if_neg ends, between, all, String.append_empty]

/-! ### Reading joined pieces back -/

variable {others : List String}

/-- Pieces without the separator are the parts between the separators. -/
theorem splitOn_joined (some : pieces ≠ []) (plain : ∀ piece ∈ pieces, c ∉ piece.toList) :
    splitOn c (joined (String.singleton c) pieces).toList = pieces.map String.toList := by
  induction pieces with
  | nil => exact absurd rfl some
  | cons piece rest ih =>
      obtain ⟨first, others⟩ := List.forall_mem_cons.mp plain
      cases rest with
      | nil => exact splitOn_of_notMem first
      | cons next rest =>
          rw [toList_joined_cons, String.toList_singleton, List.append_assoc, List.singleton_append,
            splitOn_append, splitOn_of_notMem first, ih (List.cons_ne_nil _ _) others]
          rfl

/-- **Joined pieces can be read back** if they do not have the separator. -/
theorem joined_inj (some : pieces ≠ []) (some' : others ≠ [])
    (plain : ∀ piece ∈ pieces, c ∉ piece.toList) (plain' : ∀ piece ∈ others, c ∉ piece.toList) :
    joined (String.singleton c) pieces = joined (String.singleton c) others ↔ pieces = others := by
  constructor
  · intro same
    have parts := congrArg (fun s : String => splitOn c s.toList) same
    rw [splitOn_joined some plain, splitOn_joined some' plain'] at parts
    exact (List.map_inj_right fun _ _ => String.toList_inj.mp).mp parts
  · rintro rfl
    rfl

end EntitySql.Text
