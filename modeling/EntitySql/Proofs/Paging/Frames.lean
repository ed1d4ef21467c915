import EntitySql.Proofs.Paging.Window
import EntitySql.Proofs.Statement.Compile
/-!
# Frames as windows

While partitions fill a frame, its rows are a window of the rows of the level. Of the frame, two
things matter: the window that it reads and the row numbers that its skips leave out. A row limit
completes the frame, whose window the next operator reads; skips add up until then. The partitions
of a level thus select the window that `Reading.step` computes.

## Main definitions

* `Reading`, `Reading.window`, `Reading.step`.
* `OpenFrame.Shows`: a frame being filled has the rows of a reading.

## Main results

* `OpenFrame.Shows.apply`, `OpenFrame.Shows.applyAll`: partitions keep a frame and its reading
  together.
* `Level.rows_paged`: the rows of the statement of a level with its partitions.
* `Level.exists_paged`: a level with literal row counts has such a statement.
-/

namespace EntitySql

/-- The window that a frame reads, and the row numbers that it leaves out. -/
structure Reading where
  source : Window
  skipped : Nat

namespace Reading

/-- The window that a frame selects. -/
def window (r : Reading) : Window :=
  r.source.behind r.skipped

/-- The reading of a level without partitions. -/
def start : Reading := ⟨.all, 0⟩

/-- The reading after a partition. -/
def step (count : Expression → Nat) (r : Reading) (p : Partition) : Reading :=
  match p.operator with
  | .first | .firstOrDefault => ⟨r.window.limit 1, 0⟩
  | .last | .lastOrDefault => ⟨r.window.toLast, 0⟩
  | .single | .singleOrDefault => r
  | .take => ⟨r.window.limit (p.rowCount count), 0⟩
  | .skip => ⟨r.source, r.skipped + p.rowCount count⟩

end Reading

/-- A further count adds up to the ones in front of it. -/
theorem countSum_append_singleton (count : Expression → Nat) (counts : List Expression)
    (e : Expression) : countSum count (counts ++ [e]) = countSum count counts + count e := by
  simp [countSum]

/-! ### Frames being filled -/

namespace OpenFrame

variable {α : Type} {count : Expression → Nat} {index : UInt32} {nested : Bool}
  {f g : OpenFrame} {r : Reading}

variable (α count index nested) in
/-- A frame being filled has the rows of a reading: its skips, as long as it has no row limit, and
all of the frame from then on. -/
def Shows (f : OpenFrame) (r : Reading) : Prop :=
  match f.top with
  | none => f.descending = false ∧ countSum count f.skips = r.skipped
      ∧ ∀ rows : List α, f.inner.rows count (numbered rows) = r.source.rows (numbered rows)
  | some _ => r.skipped = 0 ∧ ∀ rows : List α,
      (f.close index nested).rows count (numbered rows) = r.source.rows (numbered rows)

/-- An empty frame around a level reads all its rows. -/
theorem shows_around {s : Select} (level : s.isFrame = false) :
    Shows α count index nested (around s) .start :=
  ⟨rfl, rfl, fun rows => by
    rw [around, Select.rows_of_not_isFrame level, Reading.start, Window.rows_all]⟩

/-- The statement of a frame selects the window of its reading. -/
theorem Shows.rows_close (h : Shows α count index nested f r) (rows : List α) :
    (f.close index nested).rows count (numbered rows) = r.window.rows (numbered rows) := by
  rw [Shows] at h
  cases top : f.top with
  | none =>
      rw [top] at h
      obtain ⟨forward, skipped, inner⟩ := h
      rw [close, Select.rows, inner rows, Reading.window, Window.rows_behind, ← skipped]
      exact Frame.rows_unlimited (Window.rows_sublist _ _) top forward
  | some limit =>
      rw [top] at h
      obtain ⟨none, closed⟩ := h
      rw [closed rows, Reading.window, none, Window.behind_zero]

/-- A frame that gets a row limit or a skip has none before: the one that has is closed. -/
theorem Shows.unlimited (h : Shows α count index nested f r) :
    Shows α count index nested (f.unlimited index nested) r
      ∧ (f.unlimited index nested).top = none := by
  cases top : f.top with
  | none =>
      have same : f.unlimited index nested = f := by simp [OpenFrame.unlimited, top]
      rw [same]
      exact ⟨h, top⟩
  | some limit =>
      have closed : f.unlimited index nested = around (f.close index nested) := by
        simp [OpenFrame.unlimited, top]
      rw [Shows, top] at h
      rw [closed]
      exact ⟨⟨rfl, h.1.symm, h.2⟩, rfl⟩

/-- A row limit takes rows of the window from its front. -/
theorem Shows.limit (h : Shows α count index nested f r) (e : Expression) :
    Shows α count index nested (f.limit index nested e) ⟨r.window.limit (count e), 0⟩ := by
  obtain ⟨open_, top⟩ := h.unlimited
  rw [Shows, top] at open_
  obtain ⟨forward, skipped, inner⟩ := open_
  refine ⟨rfl, fun rows => ?_⟩
  rw [OpenFrame.limit, close, Select.rows, inner rows, Window.rows_limit, Reading.window,
    Window.rows_behind, ← skipped]
  exact Frame.rows_limited (Window.rows_sublist _ _) rfl forward

/-- A reversal takes the last row of the window. -/
theorem Shows.reverse (h : Shows α count index nested f r) {e : Expression} (one : count e = 1) :
    Shows α count index nested { f.limit index nested e with descending := true }
      ⟨r.window.toLast, 0⟩ := by
  obtain ⟨open_, top⟩ := h.unlimited
  rw [Shows, top] at open_
  obtain ⟨-, skipped, inner⟩ := open_
  refine ⟨rfl, fun rows => ?_⟩
  rw [OpenFrame.limit, close, Select.rows, inner rows, Window.rows_toLast, Reading.window,
    Window.rows_behind, ← skipped]
  exact Frame.rows_reversed (Window.rows_sublist _ _) rfl one rfl

/-- A skip adds to the row numbers that are left out. -/
theorem Shows.leaveOut (h : Shows α count index nested f r) (e : Expression) :
    Shows α count index nested (f.leaveOut index nested e) ⟨r.source, r.skipped + count e⟩ := by
  obtain ⟨open_, top⟩ := h.unlimited
  rw [Shows, top] at open_
  obtain ⟨forward, skipped, inner⟩ := open_
  rw [Shows, OpenFrame.leaveOut]
  simp only [top]
  refine ⟨forward, ?_, inner⟩
  rw [countSum_append_singleton, skipped]

/-- The row count of a partition is the one that it is written with. -/
theorem rowCount_of_countOf {p : Partition} {e : Expression} (h : countOf p = .ok e) :
    p.rowCount count = count e := by
  rw [Partition.rowCount, (countOf_eq_ok_iff.mp h).1]
  rfl

/-- **One partition** takes a frame and its reading one step further. -/
theorem Shows.apply (reads : ReadsLiterals count) {p : Partition}
    (h : Shows α count index nested f r) (applied : f.apply index nested p = .ok g) :
    Shows α count index nested g (r.step count p) := by
  have single : count OpenFrame.one = 1 := reads 1
  rw [apply_eq_ok_iff] at applied
  rw [Reading.step]
  cases op : p.operator with
  | first | firstOrDefault =>
      simp only [op] at applied ⊢
      rw [applied, ← single]
      exact h.limit OpenFrame.one
  | last | lastOrDefault =>
      simp only [op] at applied ⊢
      rw [applied]
      exact h.reverse single
  | single | singleOrDefault =>
      simp only [op] at applied ⊢
      rw [applied]
      exact h
  | take =>
      simp only [op] at applied ⊢
      obtain ⟨e, counted, rfl⟩ := applied
      rw [rowCount_of_countOf counted]
      exact h.limit e
  | skip =>
      simp only [op] at applied ⊢
      obtain ⟨e, counted, rfl⟩ := applied
      rw [rowCount_of_countOf counted]
      exact h.leaveOut e

/-- **All partitions** of a list, one after the other. -/
theorem Shows.applyAll (reads : ReadsLiterals count) {partitions : List Partition}
    (h : Shows α count index nested f r)
    (applied : OpenFrame.applyAll index nested f partitions = .ok g) :
    Shows α count index nested g (partitions.foldl (Reading.step count) r) := by
  induction partitions generalizing f r with
  | nil =>
      obtain rfl := applyAll_nil_eq_ok_iff.mp applied
      exact h
  | cons p rest ih =>
      obtain ⟨next, first, others⟩ := applyAll_cons_eq_ok_iff.mp applied
      exact ih (h.apply reads first) others

end OpenFrame

/-! ### The statement of a level -/

/-- **The rows of a level** with its partitions are the window of their reading. -/
theorem Level.rows_paged {α : Type} {count : Expression → Nat} (reads : ReadsLiterals count)
    {level : Level} {nested : Bool} {s t : Select} (source : s.isFrame = false)
    (paged : level.paged nested s = .ok t) (rows : List α) :
    t.rows count (numbered rows)
      = (level.partitions.foldl (Reading.step count) .start).window.rows (numbered rows) := by
  rcases paged_eq_ok_iff.mp paged with ⟨none, rfl⟩ | ⟨-, f, applied, rfl⟩
  · rw [none, List.foldl_nil, Select.rows_of_not_isFrame source, Reading.window, Reading.start,
      Window.behind_zero, Window.rows_all]
  · have shown : OpenFrame.Shows α count level.index nested (.around s) .start :=
      OpenFrame.shows_around source
    exact (shown.applyAll reads applied).rows_close rows

/-- A partition whose row count, where it needs one, is a literal. -/
def Partition.IsLiteral (p : Partition) : Prop :=
  p.operator = .take ∨ p.operator = .skip → ∃ n : UInt32, p.count = some (.constant (.ofUInt32 n))

/-- Partitions with literal row counts can be applied to every frame. -/
theorem OpenFrame.exists_applyAll (index : UInt32) (nested : Bool) (f : OpenFrame)
    {partitions : List Partition} (literal : ∀ p ∈ partitions, p.IsLiteral) :
    ∃ g, OpenFrame.applyAll index nested f partitions = .ok g := by
  induction partitions generalizing f with
  | nil => exact ⟨f, rfl⟩
  | cons p rest ih =>
      obtain ⟨next, first⟩ : ∃ next, f.apply index nested p = .ok next := by
        have count (counted : p.operator = .take ∨ p.operator = .skip) :
            ∃ e, OpenFrame.countOf p = .ok e := by
          obtain ⟨n, hn⟩ := literal p List.mem_cons_self counted
          exact ⟨_, OpenFrame.countOf_eq_ok_iff.mpr ⟨hn, rfl⟩⟩
        simp only [OpenFrame.apply_eq_ok_iff]
        cases op : p.operator with
        | take =>
            obtain ⟨e, he⟩ := count (.inl op)
            exact ⟨_, e, he, rfl⟩
        | skip =>
            obtain ⟨e, he⟩ := count (.inr op)
            exact ⟨_, e, he, rfl⟩
        | _ => exact ⟨_, rfl⟩
      obtain ⟨g, others⟩ := ih next fun q hq => literal q (List.mem_cons_of_mem p hq)
      exact ⟨g, OpenFrame.applyAll_cons_eq_ok_iff.mpr ⟨next, first, others⟩⟩

/-- A level with literal row counts has a statement. -/
theorem Level.exists_paged {level : Level} (nested : Bool) (s : Select)
    (literal : ∀ p ∈ level.partitions, p.IsLiteral) : ∃ t, level.paged nested s = .ok t := by
  by_cases none : level.partitions = []
  · exact ⟨s, paged_eq_ok_iff.mpr (.inl ⟨none, rfl⟩)⟩
  · obtain ⟨f, applied⟩ :=
      OpenFrame.exists_applyAll level.index nested (.around s) literal
    exact ⟨_, paged_eq_ok_iff.mpr (.inr ⟨none, f, applied, rfl⟩)⟩

end EntitySql
