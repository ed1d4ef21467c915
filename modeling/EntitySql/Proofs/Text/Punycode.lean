import EntitySql.Proofs.Text.Cutting
import EntitySql.Text.Punycode
import Mathlib.Data.List.Sigma
/-!
# Punycode is read back

A text is written in Punycode by the numbers of its characters beyond ASCII, in the order of their
code points, and of their places where these are equal. Reading puts them in one after the other. So
at every number the text that has been put together consists of the characters in ASCII and of those
whose numbers have been read, in the order of the text that was written, and the index that the
number gives is the number of those in front of the next character.

## Main definitions

* `Punycode.Precedes`: the order of characters by code points and places.
* `Punycode.textSoFar`: the text without the characters whose numbers are still to come.
* `Punycode.Reached`: what a cursor knows between two numbers.

## Main results

* `Punycode.readNumber?_digits`: numbers are read back.
* `Punycode.Reached.next`, `Punycode.Reached.readFrom?_numbersFrom`: characters are put in one by
  one, until the text is whole.
* `ofPunycode?_punycode`: texts are read back.
-/

namespace EntitySql.Text

namespace Punycode

variable {bias place weight point number n : Nat} {s text rest : List Char} {c : Cursor}

/-! ### Numbers -/

/-- A limit is at most 26, so that ten digits at least say that more follow. -/
theorem limit_le (bias place : Nat) : limit bias place ≤ 26 :=
  Nat.min_le_left _ _

/-- Digits are read as their values. -/
theorem digit36?_digit36 {value : Nat} (small : value < 36) :
    digit36? (digit36 value) = some value := by
  have all : ∀ value < 36, digit36? (digit36 value) = some value := by decide
  exact all value small

/-- Numbers consist of digits. -/
theorem exists_of_mem_digits {d : Char} (member : d ∈ digits bias place n) :
    ∃ value < 36, d = digit36 value := by
  have most := limit_le bias place
  fun_induction digits bias place n with
  | case1 place n last less => exact ⟨n, by omega, List.mem_singleton.mp member⟩
  | case2 place n last more ih =>
      rcases List.mem_cons.mp member with rfl | later
      · have remainder := Nat.mod_lt (n - last) (show 0 < 36 - last by omega)
        exact ⟨_, by omega, rfl⟩
      · exact ih later (limit_le bias _)

/-- **Numbers are read back**, in front of whatever follows. -/
theorem readNumber?_digits (bias place weight n : Nat) (rest : List Char) :
    readNumber? bias place weight (digits bias place n ++ rest) = some (n * weight, rest) := by
  have most := limit_le bias place
  fun_induction digits bias place n generalizing weight with
  | case1 place n last less =>
      have digit := digit36?_digit36 (show n < 36 by omega)
      rw [List.singleton_append, readNumber?, digit]
      simp [last, less]
  | case2 place n last more ih =>
      have remainder := Nat.mod_lt (n - last) (show 0 < 36 - last by omega)
      have digit := digit36?_digit36 (show last + (n - last) % (36 - last) < 36 by omega)
      have division := Nat.mod_add_div' (n - last) (36 - last)
      have value : last + (n - last) % (36 - last) + (n - last) / (36 - last) * (36 - last)
          = n := by
        omega
      have notLast : ¬last + (n - last) % (36 - last) < limit bias place := by omega
      have weights : (n - last) / (36 - last) * (weight * (36 - last))
          = (n - last) / (36 - last) * (36 - last) * weight := by
        rw [Nat.mul_comm weight, ← Nat.mul_assoc]
      rw [List.cons_append, readNumber?, digit]
      simp only [Option.bind_eq_bind, Option.bind_some, notLast, if_false]
      rw [ih _ (limit_le bias _), Option.bind_some, weights]
      simp only [Option.pure_def, ← Nat.add_mul, value]

/-! ### Characters beyond ASCII -/

/-- A character **precedes** another one if its code point is smaller, or if its place is smaller
and the code points are the same. -/
def Precedes (a b : Nat × Nat) : Prop :=
  a.1 < b.1 ∨ a.1 = b.1 ∧ a.2 < b.2

/-- The characters beyond ASCII, with their places. -/
theorem mem_beyondAscii {x : Nat × Nat} : x ∈ beyondAscii s
    ↔ ∃ c, s[x.2]? = some c ∧ c.toNat = x.1 ∧ 0x80 ≤ x.1 := by
  rw [beyondAscii, List.mem_mergeSort, List.mem_map]
  constructor
  · rintro ⟨⟨c, place⟩, member, rfl⟩
    obtain ⟨inside, beyond⟩ := List.mem_filter.mp member
    exact ⟨c, List.mem_zipIdx_iff_getElem?.mp inside, rfl, of_decide_eq_true beyond⟩
  · rintro ⟨c, inside, point, beyond⟩
    refine ⟨(c, x.2), List.mem_filter.mpr ⟨List.mem_zipIdx_iff_getElem?.mpr inside, ?_⟩, ?_⟩
    · exact decide_eq_true (point ▸ beyond)
    · exact Prod.ext point rfl

/-- No place comes twice. -/
theorem nodup_beyondAscii (s : List Char) : (beyondAscii s).Nodup := by
  rw [beyondAscii, (List.mergeSort_perm _ _).nodup_iff]
  refine List.Nodup.of_map Prod.snd ?_
  rw [List.map_map]
  exact (List.nodup_zipIdx_map_snd s).sublist (List.filter_sublist.map Prod.snd)

/-- The characters beyond ASCII are in order. -/
theorem pairwise_beyondAscii (s : List Char) : (beyondAscii s).Pairwise Precedes := by
  have sorted : (beyondAscii s).Pairwise fun a b =>
      (a.1 < b.1 || (a.1 == b.1 && a.2 ≤ b.2)) = true := by
    refine List.pairwise_mergeSort (fun a b c => ?_) (fun a b => ?_) _
    · simp
      omega
    · simp
      omega
  refine (sorted.and (nodup_beyondAscii s)).imp fun {a b} order => ?_
  obtain ⟨le, ne⟩ := order
  have different : a.1 = b.1 → a.2 ≠ b.2 := fun point place => ne (Prod.ext point place)
  simp at le
  rw [Precedes]
  omega

/-! ### The text so far -/

/-- Whether a character with its place is there already, if some others are. -/
def isThere (done : List (Nat × Nat)) (x : Char × Nat) : Bool :=
  x.1.toNat < 0x80 || done.contains (x.1.toNat, x.2)

/-- The text without the characters whose numbers are still to come. -/
def textSoFar (s : List Char) (done : List (Nat × Nat)) : List Char :=
  (s.zipIdx.filter (isThere done)).map Prod.fst

/-- Characters are filtered without their places, if these do not matter. -/
theorem map_fst_filter_zipIdx {there : Char × Nat → Bool} {p : Char → Bool} (first : Nat)
    (same : ∀ x ∈ s.zipIdx first, there x = p x.1) :
    ((s.zipIdx first).filter there).map Prod.fst = s.filter p := by
  conv_rhs => rw [← List.zipIdx_map_fst first s, List.filter_map]
  exact congrArg (List.map Prod.fst) (List.filter_congr same)

/-- Without numbers the characters in ASCII are there. -/
theorem textSoFar_nil (s : List Char) : textSoFar s [] = s.filter (·.toNat < 0x80) :=
  map_fst_filter_zipIdx 0 fun x _ => by simp [isThere]

/-- With all numbers all characters are there. -/
theorem textSoFar_beyondAscii (s : List Char) : textSoFar s (beyondAscii s) = s := by
  have all : ∀ x ∈ s.zipIdx, isThere (beyondAscii s) x = true := by
    intro x member
    by_cases ascii : x.1.toNat < 0x80
    · simp [isThere, ascii]
    · have inside : (x.1.toNat, x.2) ∈ beyondAscii s :=
        mem_beyondAscii.mpr ⟨x.1, List.mem_zipIdx_iff_getElem?.mp member, rfl, by omega⟩
      simp [isThere, inside]
  rw [textSoFar, List.filter_eq_self.mpr all, List.zipIdx_map_fst]

variable {done rest : List (Nat × Nat)} {x : Nat × Nat}

/-- When a character is the next one to come, those that precede it are there. -/
theorem isThere_iff (whole : beyondAscii s = done ++ x :: rest) {y : Char × Nat}
    (inside : s[y.2]? = some y.1) :
    isThere done y = true ↔ Precedes (y.1.toNat, y.2) x := by
  have order := pairwise_beyondAscii s
  rw [whole, List.pairwise_append] at order
  obtain ⟨-, behind, across⟩ := order
  have beyond : 0x80 ≤ x.1 := by
    have member : x ∈ beyondAscii s := whole ▸ List.mem_append_right done List.mem_cons_self
    obtain ⟨-, -, -, beyond⟩ := mem_beyondAscii.mp member
    exact beyond
  simp only [isThere, Bool.or_eq_true, decide_eq_true_eq, List.contains_iff_mem]
  constructor
  · rintro (ascii | known)
    · exact .inl (by dsimp only; omega)
    · exact across _ known x List.mem_cons_self
  · intro precedes
    by_contra absent
    rw [not_or] at absent
    have member : (y.1.toNat, y.2) ∈ done ++ x :: rest :=
      whole ▸ mem_beyondAscii.mpr ⟨y.1, inside, rfl, by omega⟩
    rcases List.mem_append.mp member with known | later
    · exact absent.2 known
    · rcases List.mem_cons.mp later with rfl | later
      · rw [Precedes] at precedes
        omega
      · have reverse := (List.pairwise_cons.mp behind).1 _ later
        rw [Precedes] at precedes reverse
        dsimp only at precedes reverse
        omega

section Next

variable {front behind : List Char} {d : Char}

/-- Characters that are there before a character comes are those in front of it that are not above
it and those behind it that are below it. -/
theorem map_fst_filter_cut {there : Char × Nat → Bool}
    (apart : ∀ y ∈ (front ++ d :: behind).zipIdx, y.2 ≠ front.length →
      (there y = true ↔ Precedes (y.1.toNat, y.2) (d.toNat, front.length))) :
    ((front ++ d :: behind).zipIdx.filter there).map Prod.fst
      = front.filter (·.toNat ≤ d.toNat) ++ ((if there (d, front.length) then [d] else [])
        ++ behind.filter (·.toNat < d.toNat)) := by
  have places : (front ++ d :: behind).zipIdx
      = front.zipIdx ++ (d, front.length) :: behind.zipIdx (front.length + 1) := by
    rw [List.zipIdx_append, List.zipIdx_cons, Nat.zero_add]
  rw [places] at apart ⊢
  have left : ∀ y ∈ front.zipIdx, there y = decide (y.1.toNat ≤ d.toNat) := by
    intro y member
    have place := List.snd_lt_add_of_mem_zipIdx member
    rw [Bool.eq_iff_iff, apart y (List.mem_append_left _ member) (by omega), Precedes,
      decide_eq_true_eq]
    dsimp only
    omega
  have right : ∀ y ∈ behind.zipIdx (front.length + 1), there y = decide (y.1.toNat < d.toNat) := by
    intro y member
    have place := List.le_snd_of_mem_zipIdx member
    rw [Bool.eq_iff_iff, apart y (List.mem_append_right _ (List.mem_cons_of_mem _ member))
      (by omega), Precedes, decide_eq_true_eq]
    dsimp only
    omega
  rw [List.filter_append, List.map_append, List.filter_cons,
    map_fst_filter_zipIdx (p := (·.toNat ≤ d.toNat)) _ left,
    ← map_fst_filter_zipIdx (p := (·.toNat < d.toNat)) _ right]
  split <;> rfl

/-- The text in front of the next character's turn is without it. -/
theorem textSoFar_eq (whole : beyondAscii s = done ++ (d.toNat, front.length) :: rest)
    (cut : s = front ++ d :: behind) : textSoFar s done
      = front.filter (·.toNat ≤ d.toNat) ++ behind.filter (·.toNat < d.toNat) := by
  have place {y : Char × Nat} (inside : y ∈ s.zipIdx) :
      isThere done y = true ↔ Precedes (y.1.toNat, y.2) (d.toNat, front.length) :=
    isThere_iff whole (List.mem_zipIdx_iff_getElem?.mp inside)
  subst cut
  have absent : ¬isThere done (d, front.length) = true := by
    rw [place (List.mem_zipIdx_iff_getElem?.mpr (by simp)), Precedes]
    simp
  rw [textSoFar, map_fst_filter_cut fun y inside _ => place inside, if_neg absent, List.nil_append]

/-- The text behind the next character's turn is with it. -/
theorem textSoFar_concat (whole : beyondAscii s = done ++ (d.toNat, front.length) :: rest)
    (cut : s = front ++ d :: behind) : textSoFar s (done ++ [(d.toNat, front.length)])
      = front.filter (·.toNat ≤ d.toNat) ++ d :: behind.filter (·.toNat < d.toNat) := by
  have there : isThere (done ++ [(d.toNat, front.length)]) (d, front.length) = true := by
    simp [isThere]
  have others {y : Char × Nat} (other : y.2 ≠ front.length) :
      isThere (done ++ [(d.toNat, front.length)]) y = isThere done y := by
    simp [isThere, other]
  subst cut
  rw [textSoFar, map_fst_filter_cut fun y inside other => ?_, if_pos there, List.singleton_append]
  rw [others other]
  exact isThere_iff whole (List.mem_zipIdx_iff_getElem?.mp inside)

end Next

/-! ### Cursors -/

/-- A character of a list with its place divides the list. -/
theorem exists_cut {d : Char} {place : Nat} (inside : s[place]? = some d) :
    ∃ front behind, s = front ++ d :: behind ∧ front.length = place := by
  obtain ⟨bound, here⟩ := List.getElem?_eq_some_iff.mp inside
  refine ⟨s.take place, s.drop (place + 1), ?_, List.length_take_of_le bound.le⟩
  rw [← here, List.cons_getElem_drop_succ, List.take_append_drop]

/-- The index of a character is the number of those in front of it that are not above it. -/
theorem indexIn_length (front t : List Char) (point : Nat) :
    indexIn (front ++ t) point front.length = (front.filter (·.toNat ≤ point)).length := by
  rw [indexIn, List.take_left, List.countP_eq_length_filter]

/-- The index is larger behind a character that is not above the code point. -/
theorem indexIn_lt {front behind : List Char} {d : Char} {place : Nat}
    (later : front.length < place) (le : d.toNat ≤ point) :
    indexIn (front ++ d :: behind) point front.length
      < indexIn (front ++ d :: behind) point place := by
  obtain ⟨steps, rfl⟩ := Nat.exists_eq_add_of_lt later
  have among : (front ++ d :: behind).take (front.length + steps + 1)
      = front ++ d :: behind.take steps := by
    rw [Nat.add_assoc, List.take_length_add_append, List.take_succ_cons]
  rw [indexIn, indexIn, among, List.take_left, List.countP_append, List.countP_cons_of_pos]
  · omega
  · exact decide_eq_true le

/-- Putting an item in behind the first ones. -/
theorem insertIdx_append {α : Type} (front behind : List α) (a : α) :
    (front ++ behind).insertIdx front.length a = front ++ a :: behind := by
  induction front with
  | nil => rfl
  | cons b front ih => rw [List.cons_append, List.length_cons, List.insertIdx_succ_cons, ih]; rfl

/-- **What a cursor knows** between two numbers: the length of the text so far, and a code point and
an index that are not above those of the characters to come. -/
structure Reached (s : List Char) (done rest : List (Nat × Nat)) (c : Cursor) : Prop where
  whole : beyondAscii s = done ++ rest
  length : c.length = (textSoFar s done).length
  point_le : ∀ x ∈ rest, c.point ≤ x.1
  index_le : ∀ x ∈ rest, x.1 = c.point → c.index ≤ indexIn s x.1 x.2
  index_le_length : c.index ≤ c.length

/-- A number at the front of a text puts a character in. -/
theorem readFrom?_digits {number point index : Nat} {more : List Char}
    (points : c.point + (c.index + number) / (c.length + 1) = point)
    (places : (c.index + number) % (c.length + 1) = index) (valid : point.isValidChar) :
    readFrom? c text (digits c.bias 36 number ++ more)
      = readFrom? (c.next number point index) (text.insertIdx index (Char.ofNat point)) more := by
  have some : ¬(digits c.bias 36 number ++ more).isEmpty = true := by
    rw [digits]
    split <;> simp
  rw [readFrom?, if_neg some]
  split
  · next none =>
      rw [readNumber?_digits] at none
      cases none
  · next number' behind read =>
      rw [readNumber?_digits, Nat.mul_one] at read
      obtain ⟨rfl, rfl⟩ := Prod.mk.inj (Option.some.inj read)
      rw [points, places, if_pos valid]

/-- In front of all numbers the characters in ASCII are there. -/
theorem Reached.start (s : List Char) :
    Reached s [] (beyondAscii s) (.start (s.filter (·.toNat < 0x80)).length) where
  whole := rfl
  length := congrArg List.length (textSoFar_nil s).symm
  point_le x member := by
    obtain ⟨-, -, -, beyond⟩ := mem_beyondAscii.mp member
    exact beyond
  index_le _ _ _ := Nat.zero_le _
  index_le_length := Nat.zero_le _

namespace Reached

/-- The number of the next character counts on from the cursor to the character's place. -/
theorem add_numberTo (reached : Reached s done (x :: rest) c) :
    c.index + c.numberTo x.1 (indexIn s x.1 x.2)
      = (x.1 - c.point) * (c.length + 1) + indexIn s x.1 x.2 := by
  have point := reached.point_le x List.mem_cons_self
  have inside := reached.index_le_length
  rw [Cursor.numberTo]
  rcases Nat.eq_or_lt_of_le point with same | less
  · have index := reached.index_le x List.mem_cons_self same.symm
    omega
  · have room := Nat.le_mul_of_pos_left (c.length + 1) (show 0 < x.1 - c.point by omega)
    omega

/-- The next character divides the text. -/
theorem exists_next (reached : Reached s done (x :: rest) c) :
    ∃ front d behind, s = front ++ d :: behind ∧ x = (d.toNat, front.length) := by
  have member : x ∈ beyondAscii s := reached.whole ▸ List.mem_append_right done List.mem_cons_self
  obtain ⟨d, inside, point, -⟩ := mem_beyondAscii.mp member
  obtain ⟨front, behind, cut, place⟩ := exists_cut inside
  exact ⟨front, d, behind, cut, Prod.ext point.symm place.symm⟩

/-- The next character is put in at its index. -/
theorem textSoFar_next (reached : Reached s done (x :: rest) c) :
    x.1.isValidChar ∧ indexIn s x.1 x.2 ≤ c.length
      ∧ textSoFar s (done ++ [x])
        = (textSoFar s done).insertIdx (indexIn s x.1 x.2) (Char.ofNat x.1) := by
  obtain ⟨front, d, behind, cut, rfl⟩ := reached.exists_next
  have without := textSoFar_eq reached.whole cut
  have index : indexIn s d.toNat front.length = (front.filter (·.toNat ≤ d.toNat)).length := by
    rw [cut, indexIn_length]
  refine ⟨d.valid, ?_, ?_⟩
  · rw [reached.length, without, index, List.length_append]
    exact Nat.le_add_right _ _
  · rw [textSoFar_concat reached.whole cut, without, index, insertIdx_append, Char.ofNat_toNat]

/-- **Behind a number** the cursor knows the same of what is still to come. -/
theorem next (reached : Reached s done (x :: rest) c) (number : Nat) :
    Reached s (done ++ [x]) rest (c.next number x.1 (indexIn s x.1 x.2)) := by
  obtain ⟨-, inside, put⟩ := reached.textSoFar_next
  have order := pairwise_beyondAscii s
  rw [reached.whole, List.pairwise_append] at order
  have precedes : ∀ y ∈ rest, Precedes x y := (List.pairwise_cons.mp order.2.1).1
  refine ⟨?_, ?_, fun y later => ?_, fun y later same => ?_, Nat.succ_le_succ inside⟩
  · rw [reached.whole, List.append_assoc, List.singleton_append]
  · rw [put, List.length_insertIdx_of_le_length (reached.length ▸ inside), ← reached.length]
    rfl
  · rcases precedes y later with less | ⟨same, -⟩
    · exact less.le
    · exact same.le
  · have point : y.1 = x.1 := same
    have place : x.2 < y.2 := by
      have order := precedes y later
      rw [Precedes] at order
      omega
    obtain ⟨front, d, behind, rfl, rfl⟩ := reached.exists_next
    rw [point]
    exact indexIn_lt place le_rfl

/-- **Characters are put in one by one**, until the text is whole. -/
theorem readFrom?_numbersFrom (reached : Reached s done rest c) :
    readFrom? c (textSoFar s done) (numbersFrom s c rest) = some s := by
  induction rest generalizing done c with
  | nil =>
      have whole : beyondAscii s = done := by rw [reached.whole, List.append_nil]
      rw [numbersFrom, readFrom?, if_pos List.isEmpty_nil, ← whole, textSoFar_beyondAscii]
  | cons x rest ih =>
      obtain ⟨valid, inside, put⟩ := reached.textSoFar_next
      have least := reached.point_le x List.mem_cons_self
      have counts := reached.add_numberTo
      have next := ih (reached.next (c.numberTo x.1 (indexIn s x.1 x.2)))
      rw [put] at next
      rw [numbersFrom]
      refine (readFrom?_digits ?_ ?_ valid).trans next
      · rw [counts, Nat.mul_comm, Nat.mul_add_div (Nat.succ_pos _),
          Nat.div_eq_of_lt (Nat.lt_succ_of_le inside)]
        omega
      · rw [counts, Nat.mul_comm, Nat.mul_add_mod, Nat.mod_eq_of_lt (Nat.lt_succ_of_le inside)]

end Reached

/-- The numbers of characters consist of digits. -/
theorem exists_of_mem_numbersFrom {d : Char} (member : d ∈ numbersFrom s c rest) :
    ∃ value < 36, d = digit36 value := by
  induction rest generalizing c with
  | nil => cases member
  | cons x rest ih =>
      rw [numbersFrom] at member
      rcases List.mem_append.mp member with first | later
      · exact exists_of_mem_digits first
      · exact ih later

end Punycode

open Punycode

/-- **A text is read back from its Punycode.** The last hyphen is the one behind the characters in
ASCII, since the numbers have none. -/
theorem ofPunycode?_punycode (s : List Char) : ofPunycode? (punycode s) = some s := by
  have absent (c : Cursor) : '-' ∉ numbersFrom s c (beyondAscii s) := by
    have noHyphen : ∀ value < 36, '-' ≠ digit36 value := by decide
    intro member
    obtain ⟨value, small, hyphen⟩ := exists_of_mem_numbersFrom member
    exact noHyphen value small hyphen
  have read := (Reached.start s).readFrom?_numbersFrom
  rw [textSoFar_nil] at read
  rw [punycode]
  cases basic : s.filter (·.toNat < 0x80) with
  | nil =>
      rw [basic] at read
      rw [if_pos List.isEmpty_nil, List.nil_append, ofPunycode?, splitLast?_of_notMem (absent _)]
      exact read
  | cons c others =>
      rw [basic] at read
      rw [if_neg (by simp), List.append_assoc, List.singleton_append, ofPunycode?,
        splitLast?_append, splitLast?_of_notMem (absent _)]
      exact read

end EntitySql.Text
