import EntitySql.Proofs.Paging.Rows
/-!
# Windows

Whatever paging operators do, the rows that they leave are a block of the rows of the level, or
the last row of such a block. A window names the block without knowing how many rows there are:
how many rows stand in front of it, how many it has at most, and whether only its last row is
meant. Leaving out rows by their numbers, as a frame does, and leaving out so many of the rows that
are left, as a skip means it, are two operations on windows, and they differ.

## Main definitions

* `Window`, `Window.rows`.
* `Window.limit`, `Window.toLast`, `Window.drop`, `Window.behind`: the operations.

## Main results

* `Window.rows_limit`, `Window.rows_toLast`, `Window.rows_drop`, `Window.rows_behind`: what the
  operations do to the rows.
* `Window.rows_eq_nil_of_length_le`, `Window.rows_ne_nil`: a window that is not empty of itself has
  its first row as soon as there are more rows than it leaves out in front.
-/

namespace EntitySql

/-- A block of rows, or the last row of it. -/
structure Window where
  /-- The number of rows in front of the block. -/
  front : Nat
  /-- The greatest number of rows of the block, if there is one. -/
  size : Option Nat
  /-- Whether only the last row of the block is meant. -/
  last : Bool

namespace Window

variable {α : Type}

/-- The block of a window. -/
def block (w : Window) (rows : List α) : List α :=
  match w.size with
  | none => rows.drop w.front
  | some n => (rows.drop w.front).take n

/-- The rows of a window. -/
def rows (w : Window) (source : List α) : List α :=
  if w.last then (w.block source).getLast?.toList else w.block source

/-- All rows. -/
def all : Window := ⟨0, none, false⟩

/-- The first rows of a window, so many of them. -/
def limit (n : Nat) (w : Window) : Window :=
  if w.last ∧ n ≠ 0 then w else { w with size := some (w.size.elim n (min n)) }

/-- The last row of a window. -/
def toLast (w : Window) : Window :=
  { w with last := true }

/-- The rows of a window but so many in front. -/
def drop (n : Nat) (w : Window) : Window :=
  if w.last then (if n = 0 then w else { w with size := some 0 })
  else { w with front := w.front + n, size := w.size.map (· - n) }

/-- The rows of a window whose numbers lie behind a number. -/
def behind (n : Nat) (w : Window) : Window :=
  { w with front := max w.front n, size := w.size.map (· - (n - w.front)) }

/-- All row numbers lie behind zero. -/
@[simp] theorem behind_zero (w : Window) : w.behind 0 = w := by
  cases w with
  | mk front size last => cases size <;> simp [behind]

/-- Leaving out numbers moves the front of a window to them. -/
@[simp] theorem behind_front (n : Nat) (w : Window) : (w.behind n).front = max w.front n := rfl

/-- Leaving out numbers does not turn a window into its last row, or back. -/
@[simp] theorem behind_last (n : Nat) (w : Window) : (w.behind n).last = w.last := rfl

/-- A row limit keeps the front of a window. -/
@[simp] theorem limit_front (n : Nat) (w : Window) : (w.limit n).front = w.front := by
  rw [limit]
  split <;> rfl

/-- A row limit keeps whether the last row is meant. -/
@[simp] theorem limit_last (n : Nat) (w : Window) : (w.limit n).last = w.last := by
  rw [limit]
  split <;> rfl

/-- Skipping no rows changes nothing. -/
@[simp] theorem drop_zero (w : Window) : w.drop 0 = w := by
  obtain ⟨front, size, last⟩ := w
  cases size <;> simp [drop]

/-- Skipping rows keeps whether the last row is meant. -/
@[simp] theorem drop_last (n : Nat) (w : Window) : (w.drop n).last = w.last := by
  rw [drop]
  split
  · split <;> rfl
  · rfl

/-- In a block at the front, numbers count rows: leaving out by numbers goes on as leaving out so
many rows does. -/
theorem drop_behind {w : Window} (front : w.front = 0) (block : w.last = false) (k n : Nat) :
    (w.behind k).drop n = w.behind (k + n) := by
  obtain ⟨f, size, last⟩ := w
  obtain rfl : f = 0 := front
  obtain rfl : last = false := block
  cases size with
  | none => simp [behind, drop]
  | some m => simp [behind, drop, Nat.sub_sub]

/-! ### What the operations do to the rows -/

/-- The whole window has all rows. -/
@[simp] theorem rows_all (source : List α) : all.rows source = source := by
  simp [all, rows, block]

/-- A window of size zero has no rows, whether all of them or the last one is meant. -/
theorem rows_eq_nil_of_size {w : Window} (h : w.size = some 0) (source : List α) :
    w.rows source = [] := by
  simp [rows, block, h]

/-- The rows of a window are some of the source's, in their order. -/
theorem rows_sublist (w : Window) (source : List α) : (w.rows source).Sublist source := by
  have blockSublist : (w.block source).Sublist source := by
    rw [block]
    split
    · exact List.drop_sublist _ _
    · exact (List.take_sublist _ _).trans (List.drop_sublist _ _)
  rw [rows]
  split
  · cases h : (w.block source).getLast? with
    | none => exact List.nil_sublist _
    | some r => exact (List.singleton_sublist.mpr (List.mem_of_getLast? h)).trans blockSublist
  · exact blockSublist

/-- A row limit takes the first rows of a window. -/
theorem rows_limit (n : Nat) (w : Window) (source : List α) :
    (w.limit n).rows source = (w.rows source).take n := by
  by_cases last : w.last
  · by_cases zero : n = 0
    · subst zero
      rw [List.take_zero]
      refine rows_eq_nil_of_size ?_ source
      cases size : w.size <;> simp [limit, last, size]
    · have one : (w.rows source).length ≤ n := by
        rw [rows, if_pos last]
        cases (w.block source).getLast? with
        | none => exact Nat.zero_le _
        | some r => exact Nat.pos_of_ne_zero zero
      rw [limit, if_pos ⟨last, zero⟩, List.take_of_length_le one]
  · cases size : w.size with
    | none => simp [limit, rows, block, last, size]
    | some m => simp [limit, rows, block, last, size, List.take_take]

/-- The last row of the last row of a block is that row. -/
theorem rows_toLast (w : Window) (source : List α) :
    w.toLast.rows source = (w.rows source).getLast?.toList := by
  have same : w.toLast.block source = w.block source := rfl
  by_cases last : w.last
  · rw [rows, rows, if_pos last, same]
    cases (w.block source).getLast? <;> rfl
  · rw [rows, rows, if_neg last, same]
    rfl

/-- A skip leaves out the first rows of a window. -/
theorem rows_drop (n : Nat) (w : Window) (source : List α) :
    (w.drop n).rows source = (w.rows source).drop n := by
  by_cases last : w.last
  · by_cases zero : n = 0
    · simp [drop, last, zero]
    · have one : (w.rows source).length ≤ n := by
        rw [rows, if_pos last]
        cases (w.block source).getLast? with
        | none => exact Nat.zero_le _
        | some r => exact Nat.pos_of_ne_zero zero
      rw [List.drop_of_length_le one]
      exact rows_eq_nil_of_size (by simp [drop, last, zero]) source
  · cases size : w.size with
    | none => simp [drop, rows, block, last, size]
    | some m => simp [drop, rows, block, last, size, List.drop_take]

/-! ### Windows on numbered rows -/

/-- Rows behind a cut keep the numbers they were given. -/
theorem drop_zipIdx (n : Nat) (rows : List α) (first : Nat) :
    (rows.zipIdx first).drop n = (rows.drop n).zipIdx (first + n) := by
  induction rows generalizing n first with
  | nil => simp
  | cons row rest ih =>
      cases n with
      | zero => rfl
      | succ n =>
          rw [List.zipIdx_cons, List.drop_succ_cons, List.drop_succ_cons, ih]
          congr 1
          omega

/-- Rows in front of a cut keep the numbers they were given. -/
theorem take_zipIdx (n : Nat) (rows : List α) (first : Nat) :
    (rows.zipIdx first).take n = (rows.take n).zipIdx first := by
  induction rows generalizing n first with
  | nil => simp
  | cons row rest ih =>
      cases n with
      | zero => rfl
      | succ n => rw [List.zipIdx_cons, List.take_succ_cons, List.take_succ_cons, ih]; rfl

/-- The block of numbered rows is the block of the rows, numbered from behind its front. -/
theorem block_numbered (w : Window) (source : List α) :
    w.block (numbered source) = (w.block source).zipIdx (1 + w.front) := by
  cases size : w.size with
  | none => simp only [block, size, numbered, drop_zipIdx]
  | some n => simp only [block, size, numbered, drop_zipIdx, take_zipIdx]

/-- Leaving rows of a block out by their numbers leaves out the first ones. -/
theorem block_behind (n : Nat) (w : Window) (source : List α) :
    (w.behind n).block (numbered source)
      = (w.block (numbered source)).filter fun r => n < r.2 := by
  have first : n + 1 - (1 + w.front) = n - w.front := by omega
  have front : max w.front n = w.front + (n - w.front) := by omega
  rw [block_numbered w, filter_zipIdx_lt, first, ← block_numbered w]
  cases size : w.size with
  | none => simp [block, behind, size, front]
  | some m => simp [block, behind, size, front, List.drop_take]

/-- The last of the rows behind a number is the last row, if it is behind the number. -/
theorem getLast?_filter_ascending {rows : List (NumberedRow α)}
    (ascending : rows.Pairwise fun a b => a.2 < b.2) (n : Nat) :
    (rows.filter fun r => n < r.2).getLast?.toList
      = rows.getLast?.toList.filter fun r => n < r.2 := by
  rcases List.eq_nil_or_concat rows with rfl | ⟨before, r, rfl⟩
  · rfl
  · rw [List.concat_eq_append] at ascending ⊢
    rw [List.filter_append, List.getLast?_append]
    by_cases behind : n < r.2
    · simp [behind]
    · have none : before.filter (fun r => n < r.2) = [] := by
        rw [List.filter_eq_nil_iff]
        intro a ha
        have := (List.pairwise_append.mp ascending).2.2 a ha r (List.mem_singleton_self r)
        simpa using by omega
      simp [behind, none]

/-- A frame leaves rows of a window out by their numbers. -/
theorem rows_behind (n : Nat) (w : Window) (source : List α) :
    (w.behind n).rows (numbered source)
      = (w.rows (numbered source)).filter fun r => n < r.2 := by
  have ascending : (w.block (numbered source)).Pairwise fun a b => a.2 < b.2 := by
    have := (pairwise_numbered source).sublist (rows_sublist ⟨w.front, w.size, false⟩ _)
    simpa [rows, block] using this
  by_cases last : w.last
  · have last' : (w.behind n).last := last
    rw [rows, rows, if_pos last, if_pos last', block_behind]
    exact getLast?_filter_ascending ascending n
  · have last' : ¬(w.behind n).last := last
    rw [rows, rows, if_neg last, if_neg last', block_behind]

/-! ### Empty windows -/

/-- A window has no rows while there are no more rows than it leaves out in front. -/
theorem rows_eq_nil_of_length_le {w : Window} {source : List α} (h : source.length ≤ w.front) :
    w.rows source = [] := by
  have none : w.block source = [] := by
    rw [block, List.drop_of_length_le h]
    split <;> simp
  rw [rows, none]
  simp

/-- A window that may have rows has one as soon as there are more rows than it leaves out in
front. -/
theorem rows_ne_nil {w : Window} {source : List α} (size : w.size ≠ some 0)
    (h : w.front < source.length) : w.rows source ≠ [] := by
  have some : w.block source ≠ [] := by
    intro none
    have length : (w.block source).length = 0 := by rw [none]; rfl
    rw [block] at length
    split at length
    · rw [List.length_drop] at length
      omega
    · next n hn =>
      rw [List.length_take, List.length_drop] at length
      have : n ≠ 0 := fun zero => size (zero ▸ hn)
      omega
  rw [rows]
  split
  · rw [List.getLast?_eq_some_getLast some]
    exact List.cons_ne_nil _ _
  · exact some

end Window

end EntitySql
