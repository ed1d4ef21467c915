import EntitySql.Proofs.Paging.Frames
import EntitySql.Proofs.Statement.PrintedQuery
/-!
# When paging operators compose

The operators of a level are meant to act one after the other, each on the rows that the ones in
front of it left. A frame leaves out rows by the numbers that they had in the level, so a skip
means what it should only where these numbers count the rows that are left: while no row has been
skipped before the last row limit, and the last row has not been picked. This module compares the
two readings of a list of partitions and says exactly for which lists they agree.

The comparison runs both readings along the list. A phase says how they stand to each other; in
all phases but the last one the windows are equal, and in the last one the window of the operators
starts behind that of the frames or is empty, which no later operator mends.

## Main definitions

* `Window.step`: what a partition means on windows.
* `SkipsTogether`: the lists of partitions whose skips stand together.
* `Phase`, `Phase.step`, `Tracks`: the comparison.
* `Phase.SkipsFirst`: the lists that do not go astray once a row has been skipped.

## Main results

* `Tracks.step`, `Tracks.run`: the phases say how the windows stand to each other.
* `Phase.run_front_ne_astray_iff`: the phases are those of `SkipsTogether`.
* `Level.rows_paged_eq_rowsAfter_iff`: the statement that is printed for a level selects what its
  operators mean, whatever rows the level has, exactly when the skips stand together or the
  statement never selects a row.
-/

namespace EntitySql

variable {α : Type} {count : Expression → Nat}

/-! ### The meaning of operators on windows -/

/-- The window that a partition leaves of a window. -/
def Window.step (count : Expression → Nat) (w : Window) (p : Partition) : Window :=
  match p.operator with
  | .first | .firstOrDefault => w.limit 1
  | .last | .lastOrDefault => w.toLast
  | .single | .singleOrDefault => w
  | .take => w.limit (p.rowCount count)
  | .skip => w.drop (p.rowCount count)

/-- A window is stepped as its rows are. -/
theorem Window.rows_step (w : Window) (p : Partition) (rows : List α) :
    (w.step count p).rows rows = p.onRows count (w.rows rows) := by
  rw [Window.step, Partition.onRows]
  cases p.operator with
  | first | firstOrDefault | take => exact Window.rows_limit _ w rows
  | last | lastOrDefault => exact Window.rows_toLast w rows
  | single | singleOrDefault => rfl
  | skip => exact Window.rows_drop _ w rows

/-- So a window is stepped along a list of partitions. -/
theorem Window.rows_foldl_step (w : Window) (partitions : List Partition) (rows : List α) :
    (partitions.foldl (Window.step count) w).rows rows
      = rowsAfter count partitions (w.rows rows) := by
  induction partitions generalizing w with
  | nil => rfl
  | cons p rest ih =>
      rw [List.foldl_cons, ih, Window.rows_step]
      rfl

/-! ### Lists whose skips stand together -/

/-- The number of rows that a partition skips. -/
def Partition.skipped (count : Expression → Nat) (p : Partition) : Nat :=
  match p.operator with
  | .skip => p.rowCount count
  | _ => 0

/-- Whether a partition limits the number of rows. -/
def Partition.limits (p : Partition) : Bool :=
  match p.operator with
  | .single | .singleOrDefault | .skip => false
  | _ => true

/-- The skips of a list of partitions stand together: no row is skipped and no last row picked in
front of them, and nothing among them limits the number of rows. -/
def SkipsTogether (count : Expression → Nat) (partitions : List Partition) : Prop :=
  ∃ front among behind, partitions = front ++ among ++ behind
    ∧ (∀ p ∈ front, p.skipped count = 0 ∧ p.picksLast = false)
    ∧ (∀ p ∈ among, p.limits = false)
    ∧ ∀ p ∈ behind, p.skipped count = 0

/-! ### Phases -/

/-- How the frames and the operators stand to each other. -/
inductive Phase where
  /-- No row is skipped and no last row picked. -/
  | front
  /-- The frame skips rows, and the row numbers in front of it count rows. -/
  | skipping
  /-- Row numbers no longer count rows. -/
  | settled
  /-- A skip left out other rows than it should. -/
  | astray
  deriving DecidableEq, Repr

namespace Phase

/-- The phase after a row limit. -/
def afterLimit : Phase → Phase
  | skipping => settled
  | phase => phase

/-- The phase after the last row is picked. -/
def afterLast : Phase → Phase
  | astray => astray
  | _ => settled

/-- The phase after so many rows are skipped. -/
def afterSkip (n : Nat) : Phase → Phase
  | front => if n = 0 then front else skipping
  | skipping => skipping
  | settled => if n = 0 then settled else astray
  | astray => astray

/-- The phase after a partition. -/
def step (count : Expression → Nat) (phase : Phase) (p : Partition) : Phase :=
  match p.operator with
  | .first | .firstOrDefault | .take => phase.afterLimit
  | .last | .lastOrDefault => phase.afterLast
  | .single | .singleOrDefault => phase
  | .skip => phase.afterSkip (p.rowCount count)

/-- A row limit skips nothing. -/
theorem skipped_of_limits {p : Partition} (h : p.limits = true) : p.skipped count = 0 := by
  rw [Partition.limits] at h
  rw [Partition.skipped]
  cases op : p.operator <;> simp only [op, Bool.false_eq_true] at h ⊢

/-- A partition that picks the last row limits the number of rows. -/
theorem limits_of_picksLast {p : Partition} (h : p.picksLast = true) : p.limits = true := by
  rw [Partition.picksLast] at h
  rw [Partition.limits]
  cases op : p.operator <;> simp only [op, Bool.false_eq_true] at h ⊢

/-- In front of the skips, picking the last row settles the row numbers, and skipping rows starts
the skips. -/
theorem step_front (p : Partition) :
    front.step count p
      = if p.picksLast then settled else if p.skipped count = 0 then front else skipping := by
  rw [step, Partition.picksLast, Partition.skipped]
  cases p.operator <;> rfl

/-- Among the skips only a row limit changes the phase. -/
theorem step_skipping (p : Partition) :
    skipping.step count p = if p.limits then settled else skipping := by
  rw [step, Partition.limits]
  cases p.operator <;> rfl

/-- Once row numbers no longer count rows, every row that is skipped leads astray. -/
theorem step_settled (p : Partition) :
    settled.step count p = if p.skipped count = 0 then settled else astray := by
  rw [step, Partition.skipped]
  cases p.operator <;> rfl

/-- Nothing leads back from being astray. -/
theorem step_astray (p : Partition) : astray.step count p = astray := by
  rw [step]
  cases p.operator <;> rfl

/-- Nor does a whole list of partitions. -/
theorem run_astray (partitions : List Partition) :
    partitions.foldl (Phase.step count) astray = astray := by
  induction partitions with
  | nil => rfl
  | cons p rest ih => rw [List.foldl_cons, step_astray, ih]

/-- Behind the skips no row may be skipped. -/
theorem run_settled_ne_astray_iff {partitions : List Partition} :
    partitions.foldl (Phase.step count) settled ≠ astray ↔
      ∀ p ∈ partitions, p.skipped count = 0 := by
  induction partitions with
  | nil => simp
  | cons p rest ih =>
      rw [List.foldl_cons, List.forall_mem_cons, step_settled]
      by_cases none : p.skipped count = 0
      · rw [if_pos none, ih]
        simp [none]
      · rw [if_neg none, run_astray]
        simp [none]

/-- A list splits behind members of a class either in front of its first member or behind it. -/
theorem exists_append_cons_iff {β : Type} {A : β → Prop} {R : List β → Prop} {b : β}
    {rest : List β} :
    (∃ front behind, b :: rest = front ++ behind ∧ (∀ x ∈ front, A x) ∧ R behind) ↔
      R (b :: rest) ∨
        A b ∧ ∃ front behind, rest = front ++ behind ∧ (∀ x ∈ front, A x) ∧ R behind := by
  constructor
  · rintro ⟨front, behind, split, members, end_⟩
    cases front with
    | nil =>
        obtain rfl : b :: rest = behind := split
        exact .inl end_
    | cons c front =>
        obtain ⟨rfl, rfl⟩ := List.cons.inj split
        obtain ⟨first, members⟩ := List.forall_mem_cons.mp members
        exact .inr ⟨first, front, behind, rfl, members, end_⟩
  · rintro (end_ | ⟨first, front, behind, rfl, members, end_⟩)
    · exact ⟨[], b :: rest, rfl, nofun, end_⟩
    · exact ⟨b :: front, behind, rfl, List.forall_mem_cons.mpr ⟨first, members⟩, end_⟩

/-- A list of partitions that does not limit rows up to a place and does not skip behind it. -/
def SkipsFirst (count : Expression → Nat) (partitions : List Partition) : Prop :=
  ∃ among behind, partitions = among ++ behind ∧ (∀ p ∈ among, p.limits = false)
    ∧ ∀ p ∈ behind, p.skipped count = 0

/-- A list skips first if nothing in it skips, or if its head does not limit rows and the rest skips
first. -/
theorem skipsFirst_cons_iff {p : Partition} {rest : List Partition} :
    SkipsFirst count (p :: rest) ↔
      (∀ q ∈ p :: rest, q.skipped count = 0) ∨ p.limits = false ∧ SkipsFirst count rest :=
  exists_append_cons_iff

/-- Without skips there is nothing that has to come first. -/
theorem skipsFirst_of_none {partitions : List Partition}
    (none : ∀ p ∈ partitions, p.skipped count = 0) : SkipsFirst count partitions :=
  ⟨[], partitions, rfl, nofun, none⟩

/-- The first partition does not matter to those behind it. -/
theorem SkipsFirst.tail {p : Partition} {rest : List Partition}
    (h : SkipsFirst count (p :: rest)) : SkipsFirst count rest := by
  rcases skipsFirst_cons_iff.mp h with none | ⟨-, skips⟩
  · exact skipsFirst_of_none (List.forall_mem_cons.mp none).2
  · exact skips

/-- Skips stand together if they come first behind a front that skips nothing and picks no last
row. -/
theorem skipsTogether_iff {partitions : List Partition} :
    SkipsTogether count partitions ↔
      ∃ front skips, partitions = front ++ skips
        ∧ (∀ p ∈ front, p.skipped count = 0 ∧ p.picksLast = false) ∧ SkipsFirst count skips := by
  constructor
  · rintro ⟨front, among, behind, rfl, hf, ha, hb⟩
    exact ⟨front, among ++ behind, List.append_assoc _ _ _, hf, among, behind, rfl, ha, hb⟩
  · rintro ⟨front, _, rfl, hf, among, behind, rfl, ha, hb⟩
    exact ⟨front, among, behind, (List.append_assoc _ _ _).symm, hf, ha, hb⟩

/-- The head of a list either belongs to that front or is where the skips begin. -/
theorem skipsTogether_cons_iff {p : Partition} {rest : List Partition} :
    SkipsTogether count (p :: rest) ↔
      SkipsFirst count (p :: rest) ∨
        (p.skipped count = 0 ∧ p.picksLast = false) ∧ SkipsTogether count rest := by
  rw [skipsTogether_iff, skipsTogether_iff]
  exact exists_append_cons_iff

/-- Among the skips, the list goes on with them up to a row limit. -/
theorem run_skipping_ne_astray_iff {partitions : List Partition} :
    partitions.foldl (Phase.step count) skipping ≠ astray ↔ SkipsFirst count partitions := by
  induction partitions with
  | nil => exact ⟨fun _ => skipsFirst_of_none nofun, fun _ => nofun⟩
  | cons p rest ih =>
      rw [List.foldl_cons, step_skipping, skipsFirst_cons_iff]
      cases limits : p.limits with
      | true =>
          have none : p.skipped count = 0 := skipped_of_limits limits
          rw [if_pos rfl, run_settled_ne_astray_iff, List.forall_mem_cons]
          simp [none]
      | false =>
          rw [if_neg Bool.false_ne_true, ih]
          constructor
          · exact fun skips => .inr ⟨rfl, skips⟩
          · rintro (none | ⟨-, skips⟩)
            · exact skipsFirst_of_none (List.forall_mem_cons.mp none).2
            · exact skips

/-- The lists that do not go astray are those whose skips stand together. -/
theorem run_front_ne_astray_iff {partitions : List Partition} :
    partitions.foldl (Phase.step count) front ≠ astray ↔ SkipsTogether count partitions := by
  induction partitions with
  | nil => exact ⟨fun _ => ⟨[], [], [], rfl, nofun, nofun, nofun⟩, fun _ => nofun⟩
  | cons p rest ih =>
      rw [List.foldl_cons, step_front, skipsTogether_cons_iff]
      by_cases last : p.picksLast = true
      · -- the last row is picked, so nothing may be skipped behind it
        have limits := limits_of_picksLast last
        have none : p.skipped count = 0 := skipped_of_limits limits
        rw [if_pos last, run_settled_ne_astray_iff, skipsFirst_cons_iff, List.forall_mem_cons]
        simp [none, limits, last]
      · have notLast : p.picksLast = false := Bool.eq_false_iff.mpr last
        rw [if_neg last]
        by_cases none : p.skipped count = 0
        · rw [if_pos none, ih]
          constructor
          · exact fun together => .inr ⟨⟨none, notLast⟩, together⟩
          · rintro (skips | ⟨-, together⟩)
            · exact skipsTogether_iff.mpr ⟨[], rest, rfl, nofun, skips.tail⟩
            · exact together
        · -- the skips begin
          have unlimited : p.limits = false := by
            rw [← Bool.not_eq_true]
            exact fun limits => none (skipped_of_limits limits)
          rw [if_neg none, run_skipping_ne_astray_iff, skipsFirst_cons_iff, List.forall_mem_cons]
          simp [none, unlimited]

end Phase

/-! ### Sizes of windows -/

namespace Window

variable {v w source : Window}

/-- Wherever one window is of a bounded size, the other one is of no greater size. -/
def NoLarger (w v : Window) : Prop :=
  ∀ n, v.size = some n → ∃ m ≤ n, w.size = some m

/-- A row limit leaves an empty window empty. -/
theorem limit_size_of_zero (h : w.size = some 0) (n : Nat) : (w.limit n).size = some 0 := by
  rw [limit]
  split
  · exact h
  · simp [h]

/-- Skipping rows leaves an empty window empty. -/
theorem drop_size_of_zero (h : w.size = some 0) (n : Nat) : (w.drop n).size = some 0 := by
  rw [drop]
  split
  · split
    · exact h
    · rfl
  · simp [h]

/-- A row limit keeps the order of sizes. -/
theorem NoLarger.limit (h : w.NoLarger v) (last : w.last = v.last) (n : Nat) :
    (w.limit n).NoLarger (v.limit n) := by
  intro k hk
  rw [Window.limit] at hk ⊢
  rw [last]
  split at hk
  · next single =>
    rw [if_pos single]
    exact h k hk
  · next several =>
    rw [if_neg several]
    cases size : v.size with
    | none =>
        obtain rfl : n = k := by simpa [size] using hk
        cases w.size with
        | none => exact ⟨n, le_refl n, rfl⟩
        | some j => exact ⟨min n j, min_le_left n j, rfl⟩
    | some i =>
        obtain rfl : min n i = k := by simpa [size] using hk
        obtain ⟨j, hj, size'⟩ := h i size
        exact ⟨min n j, by omega, by simp [size']⟩

/-- Skipping rows leaves no more of them than leaving out their numbers. -/
theorem NoLarger.drop {k : Nat} (h : w.NoLarger (source.behind k)) (n : Nat) :
    (w.drop n).NoLarger (source.behind (k + n)) := by
  intro i hi
  cases size : source.size with
  | none => simp [behind, size] at hi
  | some j =>
      obtain rfl : j - (k + n - source.front) = i := by simpa [behind, size] using hi
      obtain ⟨m, hm, size'⟩ := h (j - (k - source.front)) (by simp [behind, size])
      rw [Window.drop]
      split
      · split
        · next zero => exact ⟨m, by omega, size'⟩
        · exact ⟨0, Nat.zero_le _, rfl⟩
      · exact ⟨m - n, by omega, by simp [size']⟩

end Window

/-! ### The comparison -/

/-- How the reading of the frames and the window of the operators stand to each other in a
phase. -/
def Tracks (phase : Phase) (r : Reading) (w : Window) : Prop :=
  match phase with
  | .front => w = r.window ∧ r.skipped = 0 ∧ r.source.front = 0 ∧ r.source.last = false
  | .skipping => w = r.window ∧ 0 < r.skipped ∧ r.source.front = 0 ∧ r.source.last = false
  | .settled => w = r.window ∧ r.skipped = 0 ∧ (0 < r.source.front ∨ r.source.last = true)
  | .astray =>
      (w.size = some 0 ∨ r.window.front < w.front) ∧ w.last = r.source.last
        ∧ w.NoLarger r.window

namespace Tracks

variable {phase : Phase} {r : Reading} {w : Window}

/-- A row limit closes the skips. -/
theorem limit (h : Tracks phase r w) (n : Nat) :
    Tracks phase.afterLimit ⟨r.window.limit n, 0⟩ (w.limit n) := by
  cases phase with
  | front =>
      obtain ⟨rfl, skipped, front, last⟩ := h
      refine ⟨(Window.behind_zero _).symm, rfl, ?_, ?_⟩
      · rw [Window.limit_front, Reading.window, skipped, Window.behind_zero, front]
      · rw [Window.limit_last, Reading.window, Window.behind_last, last]
  | skipping =>
      obtain ⟨rfl, skipped, front, last⟩ := h
      refine ⟨(Window.behind_zero _).symm, rfl, .inl ?_⟩
      rw [Window.limit_front, Reading.window, Window.behind_front]
      omega
  | settled =>
      obtain ⟨rfl, skipped, moved⟩ := h
      refine ⟨(Window.behind_zero _).symm, rfl, ?_⟩
      rw [Window.limit_front, Window.limit_last, Reading.window, skipped, Window.behind_zero]
      exact moved
  | astray =>
      obtain ⟨apart, last, smaller⟩ := h
      refine ⟨?_, ?_, ?_⟩
      · rw [Reading.window, Window.behind_zero, Window.limit_front, Window.limit_front]
        exact apart.imp_left fun zero => Window.limit_size_of_zero zero n
      · rw [Window.limit_last, Window.limit_last, last, Reading.window, Window.behind_last]
      · rw [Reading.window, Window.behind_zero]
        exact smaller.limit last n

/-- Picking the last row closes the skips, and no row may be skipped behind it. -/
theorem toLast (h : Tracks phase r w) :
    Tracks phase.afterLast ⟨r.window.toLast, 0⟩ w.toLast := by
  cases phase with
  | front | skipping | settled =>
      obtain ⟨rfl, -⟩ := h
      exact ⟨(Window.behind_zero _).symm, rfl, .inr rfl⟩
  | astray =>
      obtain ⟨apart, last, smaller⟩ := h
      refine ⟨?_, rfl, ?_⟩
      · rw [Reading.window, Window.behind_zero]
        exact apart
      · rw [Reading.window, Window.behind_zero]
        exact smaller

/-- A skip goes astray where row numbers do not count rows. -/
theorem skip (h : Tracks phase r w) (n : Nat) :
    Tracks (phase.afterSkip n) ⟨r.source, r.skipped + n⟩ (w.drop n) := by
  cases phase with
  | front =>
      obtain ⟨rfl, skipped, front, last⟩ := h
      have same := Window.drop_behind front last r.skipped n
      rw [Phase.afterSkip]
      split
      · next zero => exact ⟨same, by simp [skipped, zero], front, last⟩
      · next some => exact ⟨same, Nat.add_pos_right _ (Nat.pos_of_ne_zero some), front, last⟩
  | skipping =>
      obtain ⟨rfl, skipped, front, last⟩ := h
      exact ⟨Window.drop_behind front last r.skipped n, Nat.add_pos_left skipped n, front, last⟩
  | settled =>
      obtain ⟨rfl, skipped, moved⟩ := h
      have window : r.window = r.source := by rw [Reading.window, skipped, Window.behind_zero]
      rw [window, Phase.afterSkip, skipped, Nat.zero_add]
      split
      · next zero =>
        rw [zero]
        exact ⟨(Window.drop_zero _).trans (Window.behind_zero _).symm, rfl, moved⟩
      · next some =>
        refine ⟨?_, Window.drop_last n r.source, ?_⟩
        · -- the numbers left out and the rows left out overlap
          cases last : r.source.last with
          | true => exact .inl (by simp [Window.drop, last, some])
          | false =>
              have front : 0 < r.source.front := moved.resolve_right (by simp [last])
              refine .inr ?_
              simp only [Window.drop, last, Reading.window, Window.behind]
              simp only [Bool.false_eq_true, if_false]
              omega
        · have smaller : r.source.NoLarger (r.source.behind 0) := by
            rw [Window.behind_zero]
            exact fun i hi => ⟨i, le_refl i, hi⟩
          simpa [Reading.window] using smaller.drop n
  | astray =>
      obtain ⟨apart, last, smaller⟩ := h
      refine ⟨?_, (Window.drop_last n w).trans last, smaller.drop n⟩
      rcases apart with zero | before
      · exact .inl (Window.drop_size_of_zero zero n)
      · cases single : w.last with
        | true =>
            by_cases zero : n = 0
            · right
              simpa [zero, Window.drop_zero] using before
            · exact .inl (by simp [Window.drop, single, zero])
        | false =>
            refine .inr ?_
            simp only [Reading.window, Window.behind_front] at before ⊢
            simp only [Window.drop, single, Bool.false_eq_true, if_false]
            omega

/-- **One partition** keeps track of both readings. -/
theorem step (h : Tracks phase r w) (p : Partition) :
    Tracks (phase.step count p) (r.step count p) (w.step count p) := by
  rw [Phase.step, Reading.step, Window.step]
  cases p.operator with
  | first | firstOrDefault | take => exact h.limit _
  | last | lastOrDefault => exact h.toLast
  | single | singleOrDefault => exact h
  | skip => exact h.skip _

/-- **All partitions** of a list, one after the other. -/
theorem run (h : Tracks phase r w) (partitions : List Partition) :
    Tracks (partitions.foldl (Phase.step count) phase)
      (partitions.foldl (Reading.step count) r) (partitions.foldl (Window.step count) w) := by
  induction partitions generalizing phase r w with
  | nil => exact h
  | cons p rest ih => exact ih (h.step p)

/-- At the start the frames read all rows, as the operators do. -/
theorem start : Tracks .front .start .all :=
  ⟨(Window.behind_zero _).symm, rfl, rfl, rfl⟩

/-- Off the last phase the two windows are one. -/
theorem eq_window (h : Tracks phase r w) (straight : phase ≠ .astray) : w = r.window := by
  cases phase with
  | front | skipping | settled => exact h.1
  | astray => exact absurd rfl straight

/-- In the last phase the window of the operators is empty as long as that of the frames has not
more than one row, and whenever that of the frames always is. -/
theorem rows_eq_nil (h : Tracks .astray r w) {rows : List α}
    (short : rows.length ≤ r.window.front + 1 ∨ r.window.size = some 0) : w.rows rows = [] := by
  obtain ⟨apart, -, smaller⟩ := h
  rcases apart with zero | before
  · exact Window.rows_eq_nil_of_size zero rows
  · rcases short with one | none
    · exact Window.rows_eq_nil_of_length_le (by omega)
    · obtain ⟨m, hm, size⟩ := smaller 0 none
      obtain rfl : m = 0 := Nat.le_zero.mp hm
      exact Window.rows_eq_nil_of_size size rows

/-- The two readings give the same rows of every level exactly when they have not gone astray or
the frames give none. -/
theorem rows_eq_iff (h : Tracks phase r w) :
    (∀ rows : List α, r.window.rows (numbered rows) = w.rows (numbered rows)) ↔
      phase ≠ .astray ∨ ∀ rows : List α, r.window.rows (numbered rows) = [] := by
  by_cases straight : phase = .astray
  · subst straight
    constructor
    · intro same
      right
      by_contra rowsSomewhere
      obtain ⟨rows, some⟩ := not_forall.mp rowsSomewhere
      have size : r.window.size ≠ .some 0 := fun zero =>
        some (Window.rows_eq_nil_of_size zero _)
      have many : ¬(numbered rows).length ≤ r.window.front := fun few =>
        some (Window.rows_eq_nil_of_length_le few)
      -- the first row of the frames' window alone tells the two windows apart
      have length : (numbered (rows.take (r.window.front + 1))).length = r.window.front + 1 := by
        rw [numbered, List.length_zipIdx] at many ⊢
        rw [List.length_take]
        omega
      have first := Window.rows_ne_nil size (lt_of_lt_of_eq (Nat.lt_succ_self _) length.symm)
      rw [same, h.rows_eq_nil (.inl length.le)] at first
      exact first rfl
    · rintro (straight | none) rows
      · exact absurd rfl straight
      · have short : (numbered rows).length ≤ r.window.front + 1 ∨ r.window.size = some 0 := by
          by_contra long
          obtain ⟨many, size⟩ := not_or.mp long
          exact Window.rows_ne_nil size (by omega) (none rows)
        rw [none, h.rows_eq_nil short]
  · rw [h.eq_window straight]
    exact ⟨fun _ => .inl straight, fun _ _ => rfl⟩

end Tracks

/-! ### Levels -/

/-- **When paging operators compose.** A level with literal row counts has a statement, and its text
is what is printed for the level. Whatever rows the level has, the statement selects what the
operators leave, each acting on the rows that the ones in front of it left, exactly when the skips
of the level stand together or the statement never selects a row. -/
theorem Level.rows_paged_eq_rowsAfter_iff (reads : ReadsLiterals count) (level : Level)
    (nested : Bool) {s : Select} (source : s.isFrame = false)
    (literal : ∀ p ∈ level.partitions, p.IsLiteral) :
    ∃ t, level.paged nested s = .ok t ∧
      (∀ buffer, (level.printPaged nested s.text).run buffer = .ok () (buffer ++ t.text)) ∧
      ((∀ rows : List α, t.rows count (numbered rows)
          = rowsAfter count level.partitions (numbered rows)) ↔
        SkipsTogether count level.partitions ∨
          ∀ rows : List α, t.rows count (numbered rows) = []) := by
  obtain ⟨t, paged⟩ := Level.exists_paged nested s literal
  refine ⟨t, paged, Level.run_printPaged paged, ?_⟩
  have tracked : Tracks _ (level.partitions.foldl (Reading.step count) .start) _ :=
    Tracks.start.run level.partitions
  have frames (rows : List α) := Level.rows_paged reads source paged rows
  have operators (rows : List α) :=
    @Window.rows_foldl_step (NumberedRow α) count .all level.partitions (numbered rows)
  simp only [Window.rows_all] at operators
  simp only [frames, ← operators]
  rw [tracked.rows_eq_iff, Phase.run_front_ne_astray_iff]

/-- Two skips, a row limit and the last row: the last of the rows with the numbers 6 to 9. -/
theorem rows_paged_skips_take_last :
    ∃ t, Level.paged
        { Level.ofTables [⟨"app", "Person"⟩] with
          partitions := [.skip 2, .skip 3, .take 4, ⟨.last, none⟩] } false
        (.level (Level.head (.ofTables [⟨"app", "Person"⟩]) false) [⟨"app", "Person"⟩]) = .ok t ∧
      ∀ rows : List Nat, t.rows literalCount (numbered rows)
        = rowsAfter literalCount [.skip 2, .skip 3, .take 4, ⟨.last, none⟩] (numbered rows) := by
  obtain ⟨t, paged, -, iff⟩ := Level.rows_paged_eq_rowsAfter_iff (α := Nat)
    readsLiterals_literalCount
    { Level.ofTables [⟨"app", "Person"⟩] with
      partitions := [.skip 2, .skip 3, .take 4, ⟨.last, none⟩] } false
    (s := .level (Level.head (.ofTables [⟨"app", "Person"⟩]) false) [⟨"app", "Person"⟩]) rfl
    (by
      simp only [List.forall_mem_cons]
      exact ⟨fun _ => ⟨2, rfl⟩, fun _ => ⟨3, rfl⟩, fun _ => ⟨4, rfl⟩, nofun, nofun⟩)
  exact ⟨t, paged, iff.mpr (.inl (Phase.run_front_ne_astray_iff.mp (by decide)))⟩

/-- Behind a skip and a row limit, a skip leaves out the rows up to its count by their numbers in
the level: of the rows 3 to 5 it leaves out none. -/
theorem rows_paged_skip_take_skip_ne :
    ∃ t, Level.paged
        { Level.ofTables [⟨"app", "Person"⟩] with
          partitions := [.skip 2, .take 3, .skip 1, ⟨.first, none⟩] } false
        (.level (Level.head (.ofTables [⟨"app", "Person"⟩]) false) [⟨"app", "Person"⟩]) = .ok t ∧
      t.rows literalCount (numbered [10, 20, 30, 40, 50]) = [(30, 3)] ∧
      rowsAfter literalCount [.skip 2, .take 3, .skip 1, ⟨.first, none⟩]
        (numbered [10, 20, 30, 40, 50]) = [(40, 4)] :=
  ⟨_, rfl, by decide, by decide⟩

/-- Every operator but a skip acts on the rows of the level that it is added to, whatever stands
in front of it. -/
theorem Level.rows_paged_append (reads : ReadsLiterals count) {level : Level} {nested : Bool}
    {s t u : Select} (source : s.isFrame = false) (paged : level.paged nested s = .ok t)
    {p : Partition} (noSkip : p.operator ≠ .skip)
    (added : { level with partitions := level.partitions ++ [p] }.paged nested s = .ok u)
    (rows : List α) :
    u.rows count (numbered rows) = p.onRows count (t.rows count (numbered rows)) := by
  rw [Level.rows_paged reads source added, Level.rows_paged reads source paged,
    List.foldl_append, List.foldl_cons, List.foldl_nil, ← Window.rows_step]
  congr 1
  rw [Reading.step, Window.step]
  cases op : p.operator with
  | skip => exact absurd op noSkip
  | single | singleOrDefault => rfl
  | _ => exact Window.behind_zero _

end EntitySql
