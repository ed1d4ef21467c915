import EntitySql.Statement.Compile
import Mathlib.Data.List.Sort
import Mathlib.Data.List.TakeWhile
/-!
# The rows of frames

What a frame selects, said on lists. The window of a level numbers its rows from one on; a frame
keeps the rows whose numbers lie behind its skips, puts them into the order of their numbers or the
reverse one, and takes so many of them from the top. A frame that is printed without the word
`SELECT` is read as if it had it, and a derived table without an order has the order of its source.

Beside it stands what the paging operators mean one by one, on the rows that the operators in front
of them left.

## Main definitions

* `numbered`: rows with their numbers.
* `ReadsLiterals`: the readings of expressions as row counts.
* `Frame.rows`, `Select.rows`: what a statement selects.
* `Partition.onRows`, `rowsAfter`: what paging operators select.

## Main results

* `Frame.rows_unlimited`, `Frame.rows_limited`, `Frame.rows_reversed`: a frame over numbered rows
  filters and takes; sorting changes nothing, or leaves the last row.
-/

namespace EntitySql

variable {α : Type}

/-- A row with the number that the window of its level gives it. -/
abbrev NumberedRow (α : Type) := α × Nat

/-- The rows of a level, numbered from one on. -/
def numbered (rows : List α) : List (NumberedRow α) :=
  rows.zipIdx 1

/-- A reading of expressions as row counts that takes literals for what they are. -/
def ReadsLiterals (count : Expression → Nat) : Prop :=
  ∀ n : UInt32, count (.constant (.ofUInt32 n)) = n.toNat

/-- The plainest reading: literals of 32 bits count what they say, and nothing else counts. -/
def literalCount : Expression → Nat
  | .constant ⟨.uint32, some n⟩ => n.toNat
  | _ => 0

/-- The plainest reading takes literals for what they are. -/
theorem readsLiterals_literalCount : ReadsLiterals literalCount :=
  fun _ => rfl

/-- The sum of row counts. -/
def countSum (count : Expression → Nat) (counts : List Expression) : Nat :=
  counts.foldl (fun sum e => sum + count e) 0

/-! ### What statements select -/

/-- The rows of a frame over the rows of its inner statement. -/
def Frame.rows (count : Expression → Nat) (f : Frame) (rows : List (NumberedRow α)) :
    List (NumberedRow α) :=
  let kept :=
    if f.skips.isEmpty then rows else rows.filter fun r => countSum count f.skips < r.2
  let sorted :=
    if f.descending then kept.insertionSort fun a b => b.2 ≤ a.2
    else if f.ordered then kept.insertionSort fun a b => a.2 ≤ b.2
    else kept
  match f.top with
  | some limit => sorted.take (count limit)
  | none => sorted

/-- The rows of the frames of a level over the rows of the level. -/
def Select.rows (count : Expression → Nat) (rows : List (NumberedRow α)) :
    Select → List (NumberedRow α)
  | .frame f inner => f.rows count (inner.rows count rows)
  | .level _ _ | .derived _ _ => rows

/-- Whether a statement is a frame around another one. -/
def Select.isFrame : Select → Bool
  | .frame _ _ => true
  | .level _ _ | .derived _ _ => false

/-- A statement that is no frame has the rows of the level. -/
theorem Select.rows_of_not_isFrame {count : Expression → Nat} {s : Select}
    (h : s.isFrame = false) (rows : List (NumberedRow α)) : s.rows count rows = rows := by
  cases s with
  | frame f inner => cases h
  | level head tables => rfl
  | derived head inner => rfl

/-! ### What paging operators select -/

/-- The row count of a partition, zero if it has none. -/
def Partition.rowCount (count : Expression → Nat) (p : Partition) : Nat :=
  p.count.elim 0 count

/-- The rows that a partition leaves. -/
def Partition.onRows (count : Expression → Nat) (p : Partition) (rows : List α) : List α :=
  match p.operator with
  | .first | .firstOrDefault => rows.take 1
  | .last | .lastOrDefault => rows.getLast?.toList
  | .single | .singleOrDefault => rows
  | .take => rows.take (p.rowCount count)
  | .skip => rows.drop (p.rowCount count)

/-- The rows that partitions leave, each acting on what the ones in front of it left. -/
def rowsAfter (count : Expression → Nat) (partitions : List Partition) (rows : List α) : List α :=
  partitions.foldl (fun rows p => p.onRows count rows) rows

/-! ### Numbers of rows -/

/-- The numbers of rows grow. -/
theorem pairwise_numbered (rows : List α) :
    (numbered rows).Pairwise fun a b => a.2 < b.2 := by
  have numbers : ((numbered rows).map Prod.snd).Pairwise (· < ·) := by
    rw [numbered, List.zipIdx_map_snd]
    exact List.pairwise_lt_range'
  exact List.pairwise_map.mp numbers

/-- The first number is one. -/
theorem number_pos {rows : List α} {r : NumberedRow α} (h : r ∈ numbered rows) : 0 < r.2 :=
  List.le_snd_of_mem_zipIdx h

/-- Of rows numbered from `first` on, the ones behind a number are all but those up to it. -/
theorem filter_zipIdx_lt (s : Nat) (rows : List α) (first : Nat) :
    (rows.zipIdx first).filter (fun r => s < r.2) = (rows.zipIdx first).drop (s + 1 - first) := by
  induction rows generalizing first with
  | nil => simp
  | cons row rest ih =>
      rw [List.zipIdx_cons, List.filter_cons, ih]
      by_cases behind : s < first
      · have none : s + 1 - first = 0 := by omega
        have none' : s + 1 - (first + 1) = 0 := by omega
        simp [behind, none, none']
      · have more : s + 1 - first = (s + 1 - (first + 1)) + 1 := by omega
        simp [behind, more]

/-! ### Frames over numbered rows -/

section Frames

variable {count : Expression → Nat} {f : Frame} {source : List α} {rows : List (NumberedRow α)}

/-- Rows that are left of numbered rows are in the order of their numbers. -/
theorem insertionSort_numbered (h : rows.Sublist (numbered source)) :
    rows.insertionSort (fun a b => a.2 ≤ b.2) = rows :=
  (((pairwise_numbered source).sublist h).imp Nat.le_of_lt).insertionSort_eq

/-- The reverse order of rows that are left of numbered rows. -/
theorem insertionSort_numbered_descending (h : rows.Sublist (numbered source)) :
    rows.insertionSort (fun a b => b.2 ≤ a.2) = rows.reverse := by
  have ascending := (pairwise_numbered source).sublist h
  induction rows with
  | nil => rfl
  | cons row rest ih =>
      obtain ⟨before, ascendingRest⟩ := List.pairwise_cons.mp ascending
      rw [List.insertionSort_cons, ih ((List.sublist_cons_self row rest).trans h) ascendingRest,
        List.orderedInsert_eq_take_drop, List.reverse_cons]
      have all : ∀ r ∈ rest.reverse, decide (¬r.2 ≤ row.2) = true := by
        intro r hr
        have := before r (List.mem_reverse.mp hr)
        simpa using this
      rw [List.takeWhile_eq_self_iff.mpr all, List.dropWhile_eq_nil_iff.mpr all]

/-- The rows of a frame before they are ordered: those behind the sum of its skips. -/
theorem filter_skips (h : rows.Sublist (numbered source)) (skips : List Expression) :
    (if skips.isEmpty then rows else rows.filter fun r => countSum count skips < r.2)
      = rows.filter fun r => countSum count skips < r.2 := by
  cases skips with
  | nil =>
      have positive : ∀ r ∈ rows, decide (countSum count [] < r.2) = true := by
        intro r hr
        exact decide_eq_true (number_pos (h.subset hr))
      simp [List.filter_eq_self.mpr positive]
  | cons e rest => rfl

variable (h : rows.Sublist (numbered source))
include h

/-- A frame without a row limit leaves out the rows in front. -/
theorem Frame.rows_unlimited (limit : f.top = none) (forward : f.descending = false) :
    f.rows count rows = rows.filter fun r => countSum count f.skips < r.2 := by
  rw [Frame.rows, filter_skips h, limit, forward]
  by_cases ordered : f.ordered
  · simp only [ordered, if_true, Bool.false_eq_true, if_false]
    exact insertionSort_numbered (List.filter_sublist.trans h)
  · simp [ordered]

/-- A frame with a row limit takes the first of the rows that are not left out. -/
theorem Frame.rows_limited {limit : Expression} (limited : f.top = some limit)
    (forward : f.descending = false) :
    f.rows count rows
      = (rows.filter fun r => countSum count f.skips < r.2).take (count limit) := by
  rw [Frame.rows, filter_skips h, limited, forward]
  by_cases ordered : f.ordered
  · simp only [ordered, if_true, Bool.false_eq_true, if_false]
    rw [insertionSort_numbered (List.filter_sublist.trans h)]
  · simp [ordered]

/-- A frame with a row limit of one and the reverse order takes the last of the rows that are not
left out. -/
theorem Frame.rows_reversed {limit : Expression} (limited : f.top = some limit)
    (single : count limit = 1) (backward : f.descending = true) :
    f.rows count rows
      = (rows.filter fun r => countSum count f.skips < r.2).getLast?.toList := by
  rw [Frame.rows, filter_skips h, limited, backward]
  simp only [if_true, single]
  rw [insertionSort_numbered_descending (List.filter_sublist.trans h), List.take_one,
    List.head?_reverse]

end Frames

end EntitySql
