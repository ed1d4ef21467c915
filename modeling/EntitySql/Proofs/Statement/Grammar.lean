import EntitySql.Proofs.Statement.Compile
/-!
# The grammar of select statements

SQL Server reads a statement as

  `select := SELECT [TOP count] columns FROM (tables | (select) AS name) [WHERE condition]`
  `  [ORDER BY keys]`

and refuses the order of a derived table that has no row limit. This module states the grammar
and proves that a compiled query is in it, unless the partitions of a level end in a skip: the
frame of such a level stays without the word `SELECT`.

The counts, columns, tables, names, conditions and keys of the grammar are units. Those of a
query are the texts that its own levels give, so that a unit is what one clause of one level prints.

## Main definitions

* `Units`, `Units.of`: the texts that the units of a statement may have.
* `Derives`, `DerivedTable`: the grammar.
* `OpenFrame.Sound`: the invariant of a frame that partitions fill.

## Main results

* `Level.derives_tables`, `Level.derives_derived`, `Frame.derives`: the printed forms.
* `OpenFrame.Sound.apply`, `OpenFrame.Sound.applyAll`: partitions keep the invariant.
* `Query.select_derives`: the text of a query is in the grammar, and its last clause is the order
  that the outermost level asks for.
-/

namespace EntitySql

open EntitySql.Text

/-! ### The grammar -/

/-- The texts that the units of a statement may have. -/
structure Units where
  count : String → Prop
  columns : String → Prop
  tables : String → Prop
  name : String → Prop
  condition : String → Prop
  keys : String → Prop

/-- `[TOP count]`, and whether it is there. -/
inductive DerivesLimit (u : Units) : Bool → String → Prop
  | none : DerivesLimit u false ""
  | top {count : String} : u.count count → DerivesLimit u true ("TOP " ++ count ++ " ")

/-- `[WHERE condition]`. -/
inductive DerivesCondition (u : Units) : String → Prop
  | none : DerivesCondition u ""
  | where {condition : String} :
      u.condition condition → DerivesCondition u (" WHERE " ++ condition)

/-- `[ORDER BY keys]`, and the keys if it is there. -/
inductive DerivesOrder (u : Units) : Option String → String → Prop
  | none : DerivesOrder u none ""
  | by {keys : String} : u.keys keys → DerivesOrder u (some keys) (" ORDER BY " ++ keys)

/-- The statements of the grammar: whether they have a row limit, the keys of their order, and
their text. A derived table is ordered only if it has a row limit. -/
inductive Derives (u : Units) : Bool → Option String → String → Prop
  | tables {limited : Bool} {keys : Option String}
      {limit columns tables condition order : String} :
      DerivesLimit u limited limit → u.columns columns → u.tables tables →
      DerivesCondition u condition → DerivesOrder u keys order →
      Derives u limited keys
        ("SELECT " ++ limit ++ columns ++ " FROM " ++ tables ++ condition ++ order)
  | derived {limited innerLimited : Bool} {keys innerKeys : Option String}
      {limit columns inner name condition order : String} :
      DerivesLimit u limited limit → u.columns columns →
      Derives u innerLimited innerKeys inner → (innerKeys.isSome = true → innerLimited = true) →
      u.name name → DerivesCondition u condition → DerivesOrder u keys order →
      Derives u limited keys
        ("SELECT " ++ limit ++ columns ++ " FROM " ++ ("(" ++ inner ++ ") AS " ++ name)
          ++ condition ++ order)

/-- The statements that can be derived tables. -/
def DerivedTable (u : Units) (inner : String) : Prop :=
  ∃ limited keys, Derives u limited keys inner ∧ (keys.isSome = true → limited = true)

/-! ### The units of a query -/

/-- The columns of a level: its window column, then its projections. -/
def Level.columnsText (level : Level) : String :=
  "ROW_NUMBER() OVER(" ++ windowClause level.sorts ++ ") AS " ++ rowLabel level.index ++ ", "
    ++ projectionClause level.projections

/-- The conditions of a level, all in parentheses. -/
def Level.conditionText (level : Level) : String :=
  separated " AND " (level.filters.map fun e => "(" ++ e.text ++ ")")

/-- The sorts of a level. -/
def Level.sortsText (level : Level) : String :=
  separated ", " (level.sorts.map SortKey.text)

/-- The row counts of the partitions of a level. -/
def Level.counts (level : Level) : List Expression :=
  level.partitions.filterMap Partition.count

/-- The units that levels give. -/
def Units.of (levels : List Level) : Units where
  count t := ∃ level ∈ levels, ∃ e ∈ OpenFrame.one :: level.counts, t = topText e
  columns t := t = "*" ∨ ∃ level ∈ levels, t = level.columnsText
  tables t := ∃ level ∈ levels, t = joined ", " (level.tables.map TableName.bracketed)
  name t := ∃ level ∈ levels,
    t = "F" ++ natText level.index.toNat ∨ t = "P" ++ natText level.index.toNat
  condition t := ∃ level ∈ levels,
    (level.filters ≠ [] ∧ t = level.conditionText) ∨
    ∃ skips, skips ≠ [] ∧ skips ⊆ level.counts ∧ t = rowLabel level.index ++ " > " ++ skipText skips
  keys t := ∃ level ∈ levels,
    (level.sorts ≠ [] ∧ t = level.sortsText) ∨
    t = rowLabel level.index ∨ t = rowLabel level.index ++ " DESC"

/-! ### What partitions end in -/

/-- Whether a partition stands for a query of a single row. -/
def Partition.isSingle (p : Partition) : Bool :=
  match p.operator with
  | .single | .singleOrDefault => true
  | _ => false

/-- Whether the partitions of a level end in a skip. -/
def Level.endsInSkip (level : Level) : Prop :=
  ∃ p, level.partitions.getLast? = some p ∧ p.operator = .skip

/-- Whether the last partition but for those of a single row picks the last row. -/
def endsInLast (partitions : List Partition) : Bool :=
  (partitions.filter fun p => !p.isSingle).getLast?.any Partition.picksLast

/-- The keys that the statement of a level which is no sub query is ordered by: the row numbers
if the level has partitions, else its sorts if it has any. -/
def Level.orderKeys (level : Level) : Option String :=
  if level.partitions.isEmpty then
    if level.sorts.isEmpty then none else some level.sortsText
  else some (rowLabel level.index ++ if endsInLast level.partitions then " DESC" else "")

/-- The last partition tells how a list ends, unless it is one for a single row. -/
theorem endsInLast_append (partitions : List Partition) (p : Partition) :
    endsInLast (partitions ++ [p])
      = if p.isSingle then endsInLast partitions else p.picksLast := by
  rw [endsInLast, List.filter_append]
  cases single : p.isSingle with
  | true => simp [single, endsInLast]
  | false => simp [single]

/-! ### The printed forms -/

section Printed

variable {levels : List Level} {level : Level} {inner : String}

/-- A level's condition is a unit if it has filters. -/
theorem Level.derives_condition (known : level ∈ levels) (nested : Bool) :
    DerivesCondition (.of levels) (filterClause (level.head nested).filters) := by
  rw [filterClause, Level.head]
  cases filters : level.filters with
  | nil => exact .none
  | cons e rest =>
      have some : level.filters ≠ [] := filters ▸ List.cons_ne_nil e rest
      have text : level.conditionText
          = separated " AND " ((e :: rest).map fun e => "(" ++ e.text ++ ")") := by
        rw [Level.conditionText, filters]
      exact text ▸ .where ⟨level, known, .inl ⟨some, rfl⟩⟩

/-- The order of the statement of a level whose sorts order it. -/
def Level.headKeys (level : Level) (nested : Bool) : Option String :=
  if (level.head nested).ordered then some level.sortsText else none

/-- The sorts of a level are the keys of its order, if it has one. -/
theorem Level.derives_order (known : level ∈ levels) (nested : Bool) :
    DerivesOrder (.of levels) (level.headKeys nested)
      (if (level.head nested).ordered then " " ++ orderClause (level.head nested).sorts
        else "") := by
  rw [Level.headKeys]
  cases ordered : (level.head nested).ordered with
  | false => exact .none
  | true =>
      have some : level.sorts ≠ [] := by
        rintro none
        simp [Level.head, none] at ordered
      have words : " ORDER BY " = " " ++ "ORDER BY " := by decide
      have clause := DerivesOrder.by (u := .of levels) ⟨level, known, .inl ⟨some, rfl⟩⟩
      rw [words, String.append_assoc] at clause
      exact clause

/-- The text of a level, in the parts of the grammar. It has no row limit of its own. -/
theorem Level.head_text (level : Level) (nested : Bool) (source : String) :
    (level.head nested).text source
      = "SELECT " ++ "" ++ level.columnsText ++ " FROM " ++ source
        ++ filterClause (level.head nested).filters
        ++ if (level.head nested).ordered then " " ++ orderClause (level.head nested).sorts
          else "" := by
  have words : "SELECT ROW_NUMBER() OVER(" = "SELECT " ++ "" ++ "ROW_NUMBER() OVER(" := by decide
  unfold LevelHead.text Level.columnsText
  rewrite [words]
  simp only [String.append_assoc, Level.head, -String.reduceAppend]

/-- A level over tables is in the grammar. -/
theorem Level.derives_tables (known : level ∈ levels) (nested : Bool) :
    Derives (.of levels) false (level.headKeys nested)
      (Select.level (level.head nested) level.tables).text := by
  rw [Select.text, Level.head_text]
  exact .tables .none (.inr ⟨level, known, rfl⟩) ⟨level, known, rfl⟩
    (level.derives_condition known nested) (level.derives_order known nested)

/-- A level over a derived table is in the grammar. -/
theorem Level.derives_derived (known : level ∈ levels) (nested : Bool) {s : Select}
    (source : DerivedTable (.of levels) s.text) :
    Derives (.of levels) false (level.headKeys nested)
      (Select.derived (level.head nested) s).text := by
  obtain ⟨innerLimited, innerKeys, inner, ordered⟩ := source
  have named : "(" ++ s.text ++ ") AS F" ++ natText (level.head nested).index.toNat
      = "(" ++ s.text ++ ") AS " ++ ("F" ++ natText level.index.toNat) := by
    have words : ") AS F" = ") AS " ++ "F" := by decide
    simp only [words, String.append_assoc, Level.head]
  rw [Select.text, Level.head_text, named]
  exact .derived .none (.inr ⟨level, known, rfl⟩) inner ordered ⟨level, known, .inl rfl⟩
    (level.derives_condition known nested) (level.derives_order known nested)

end Printed

/-! ### Frames -/

namespace Frame

/-- The row limit of a frame, or the word that stands for a selection. -/
def limitText (frame : Frame) : String :=
  match frame.top with
  | some count => "SELECT TOP " ++ topText count ++ " "
  | none => if frame.selected then "SELECT " else ""

/-- The condition of a frame. -/
def conditionText (frame : Frame) : String :=
  if frame.skips.isEmpty then ""
  else " WHERE " ++ rowLabel frame.index ++ " > " ++ skipText frame.skips

/-- The order of a frame. -/
def orderText (frame : Frame) : String :=
  if frame.descending then " ORDER BY " ++ rowLabel frame.index ++ " DESC"
  else if frame.ordered then " ORDER BY " ++ rowLabel frame.index
  else ""

/-- The keys of the order of a frame. -/
def keys (frame : Frame) : Option String :=
  if frame.descending then some (rowLabel frame.index ++ " DESC")
  else if frame.ordered then some (rowLabel frame.index)
  else none

/-- The text of a frame, in the parts of the grammar. -/
theorem text_eq (frame : Frame) (inner : String) :
    frame.text inner = frame.limitText ++ "* FROM (" ++ inner ++ ") AS P"
      ++ natText frame.index.toNat ++ frame.conditionText ++ frame.orderText :=
  rfl

variable {levels : List Level} {level : Level} {frame : Frame}

/-- The row limit of a frame derives, given that its count is a unit. A frame without one has the
word in front. -/
theorem derives_limit (top : ∀ e, frame.top = some e → (Units.of levels).count (topText e))
    (selects : frame.top.isSome = true ∨ frame.selected = true) :
    ∃ limit, DerivesLimit (.of levels) frame.top.isSome limit
      ∧ frame.limitText = "SELECT " ++ limit := by
  rw [limitText]
  cases count : frame.top with
  | none =>
      have selected : frame.selected = true := by simpa [count] using selects
      exact ⟨"", .none, if_pos selected⟩
  | some e =>
      have words : "SELECT TOP " = "SELECT " ++ "TOP " := by decide
      exact ⟨_, .top (top e count), by simp only [words, String.append_assoc]⟩

/-- The row counts that a frame leaves out are a condition of its level. -/
theorem derives_condition (known : level ∈ levels) (index : frame.index = level.index)
    (skips : frame.skips ⊆ level.counts) :
    DerivesCondition (.of levels) frame.conditionText := by
  rw [conditionText]
  cases left : frame.skips with
  | nil => exact .none
  | cons e rest =>
      have some : e :: rest ≠ [] := List.cons_ne_nil e rest
      have clause := DerivesCondition.where (u := .of levels)
        ⟨level, known, .inr ⟨e :: rest, some, left ▸ skips, rfl⟩⟩
      rw [← index, ← String.append_assoc, ← String.append_assoc] at clause
      exact clause

/-- The order of a frame is by the row numbers of its level, forwards or backwards. -/
theorem derives_order (known : level ∈ levels) (index : frame.index = level.index) :
    DerivesOrder (.of levels) frame.keys frame.orderText := by
  rw [keys, orderText]
  cases frame.descending with
  | true =>
      have clause := DerivesOrder.by (u := .of levels) ⟨level, known, .inr (.inr rfl)⟩
      rw [← index, ← String.append_assoc] at clause
      exact index ▸ clause
  | false =>
      cases frame.ordered with
      | true => exact .by ⟨level, known, .inr (.inl (by rw [index]))⟩
      | false => exact .none

/-- A frame with a row limit or a selection is in the grammar if the statement in it can be a
derived table. -/
theorem derives (known : level ∈ levels) (index : frame.index = level.index)
    (top : ∀ e, frame.top = some e → (Units.of levels).count (topText e))
    (skips : frame.skips ⊆ level.counts) (selects : frame.top.isSome = true ∨ frame.selected = true)
    {inner : String} (source : DerivedTable (.of levels) inner) :
    Derives (.of levels) frame.top.isSome frame.keys (frame.text inner) := by
  obtain ⟨innerLimited, innerKeys, derived, ordered⟩ := source
  obtain ⟨limit, limited, front⟩ := derives_limit top selects
  have text : frame.text inner = "SELECT " ++ limit ++ "*" ++ " FROM "
      ++ ("(" ++ inner ++ ") AS " ++ ("P" ++ natText frame.index.toNat))
      ++ frame.conditionText ++ frame.orderText := by
    have source : "* FROM (" = "*" ++ (" FROM " ++ "(") := by decide
    have named : ") AS P" = ") AS " ++ "P" := by decide
    rw [text_eq, front, source, named]
    simp only [String.append_assoc]
  rw [text]
  exact .derived limited (.inl rfl) derived ordered ⟨level, known, .inr (by rw [index])⟩
    (derives_condition known index skips) (derives_order known index)

end Frame

/-! ### Frames that partitions fill -/

/-- **The invariant of a frame** that partitions have filled: its statement can be a derived
table, its counts are those of the level, and its row limit, selection and direction are what
the partitions ask for. -/
structure OpenFrame.Sound (levels : List Level) (level : Level) (passed : List Partition)
    (f : OpenFrame) : Prop where
  source : DerivedTable (.of levels) f.inner.text
  top : ∀ e, f.top = some e → e ∈ one :: level.counts
  skips : f.skips ⊆ level.counts
  /-- Only a frame with a row limit is reversed. -/
  limited : f.descending = true → f.top.isSome = true
  reversed : f.descending = endsInLast passed
  /-- Only a skip leaves a frame that does not select. -/
  selects : ∀ p, passed.getLast? = some p → p.operator ≠ .skip →
    f.top.isSome = true ∨ f.selected = true

namespace OpenFrame

variable {levels : List Level} {level : Level} {passed : List Partition} {f g : OpenFrame}

/-- The frame around a statement is sound before any partition. -/
theorem Sound.around {s : Select} (source : DerivedTable (.of levels) s.text) :
    Sound levels level [] (.around s) where
  source := source
  top := nofun
  skips := List.nil_subset _
  limited := nofun
  reversed := rfl
  selects := nofun

/-- A sound frame with a row limit or a selection is closed to a statement of the grammar. -/
theorem Sound.close (h : Sound levels level passed f) (known : level ∈ levels) (nested : Bool)
    (selects : f.top.isSome = true ∨ f.selected = true) :
    ∃ keys, Derives (.of levels) f.top.isSome keys (f.close level.index nested).text
      ∧ (nested = true → keys.isSome = true → f.top.isSome = true)
      ∧ (nested = false →
        keys = some (rowLabel level.index ++ if endsInLast passed then " DESC" else "")) := by
  let frame : Frame :=
    ⟨level.index, f.top, f.skips, f.selected, f.descending, f.top.isSome || !nested⟩
  have derived : Derives (.of levels) f.top.isSome frame.keys (frame.text f.inner.text) :=
    @Frame.derives levels level frame known rfl
      (fun e limit => ⟨level, known, e, h.top e limit, rfl⟩) h.skips selects _ h.source
  refine ⟨frame.keys, derived, ?_, ?_⟩
  · rintro rfl keyed
    cases reversed : f.descending with
    | true => exact h.limited reversed
    | false => simpa [frame, Frame.keys, reversed] using keyed
  · rintro rfl
    have direction : frame.descending = endsInLast passed := h.reversed
    rw [Frame.keys, direction]
    cases endsInLast passed with
    | true => rfl
    | false => simp [frame]

/-- A frame without a row limit: the frame itself, or an empty one around it. -/
theorem Sound.unlimited (h : Sound levels level passed f) (known : level ∈ levels)
    (nested : Bool) :
    DerivedTable (.of levels) (f.unlimited level.index nested).inner.text
      ∧ (f.unlimited level.index nested).top = none
      ∧ (f.unlimited level.index nested).descending = false
      ∧ (f.unlimited level.index nested).skips ⊆ level.counts := by
  rw [OpenFrame.unlimited]
  split
  next limited =>
    obtain ⟨keys, derived, -, -⟩ := h.close known nested (.inl limited)
    exact ⟨⟨_, keys, derived, fun _ => limited⟩, rfl, rfl, List.nil_subset _⟩
  next unlimited =>
    have straight : f.descending = false := by
      cases reversed : f.descending with
      | false => rfl
      | true => exact absurd (h.limited reversed) unlimited
    exact ⟨h.source, by simpa using unlimited, straight, h.skips⟩

/-- A row limit, with or without a reversal, leaves a sound frame. -/
theorem Sound.limit (h : Sound levels level passed f) (known : level ∈ levels) (nested : Bool)
    {e : Expression} (count : e ∈ one :: level.counts) {p : Partition} (last : Bool)
    (kind : p.isSingle = false ∧ p.picksLast = last) :
    Sound levels level (passed ++ [p])
      { f.limit level.index nested e with descending := last } := by
  obtain ⟨source, -, -, skips⟩ := h.unlimited known nested
  exact
    { source := source
      top := fun _ same => Option.some.inj same ▸ count
      skips := skips
      limited := fun _ => rfl
      reversed := by rw [endsInLast_append, kind.1, kind.2]; rfl
      selects := fun _ _ _ => .inl rfl }

/-- A partition leaves a sound frame. -/
theorem Sound.apply (h : Sound levels level passed f) (known : level ∈ levels) {nested : Bool}
    {p : Partition} (member : p ∈ level.partitions)
    (applied : f.apply level.index nested p = .ok g) : Sound levels level (passed ++ [p]) g := by
  obtain ⟨source, top, straight, skips⟩ := h.unlimited known nested
  have counted {e : Expression} (count : countOf p = .ok e) : e ∈ level.counts :=
    List.mem_filterMap.mpr ⟨p, member, (countOf_eq_ok_iff.mp count).1⟩
  have limited (e : Expression) :
      f.limit level.index nested e = { f.limit level.index nested e with descending := false } := by
    rw [OpenFrame.limit, straight]
  have step := apply_eq_ok_iff.mp applied
  cases op : p.operator with
  | first | firstOrDefault =>
      simp only [op] at step
      rw [step, limited]
      exact h.limit known nested List.mem_cons_self false
        (by simp [Partition.isSingle, Partition.picksLast, op])
  | last | lastOrDefault =>
      simp only [op] at step
      rw [step]
      exact h.limit known nested List.mem_cons_self true
        (by simp [Partition.isSingle, Partition.picksLast, op])
  | single | singleOrDefault =>
      simp only [op] at step
      rw [step]
      exact
        { source := h.source
          top := h.top
          skips := h.skips
          limited := h.limited
          reversed := by rw [endsInLast_append, h.reversed]; simp [Partition.isSingle, op]
          selects := fun _ _ _ => .inr rfl }
  | take =>
      simp only [op] at step
      obtain ⟨e, count, rfl⟩ := step
      rw [limited]
      exact h.limit known nested (List.mem_cons_of_mem _ (counted count)) false
        (by simp [Partition.isSingle, Partition.picksLast, op])
  | skip =>
      simp only [op] at step
      obtain ⟨e, count, rfl⟩ := step
      exact
        { source := source
          top := by simp [leaveOut, top]
          skips := List.append_subset.mpr ⟨skips, by simpa using counted count⟩
          limited := by simp [leaveOut, straight]
          reversed := by
            rw [endsInLast_append, leaveOut, straight]
            simp [Partition.isSingle, Partition.picksLast, op]
          selects := fun q same other => absurd op (by
            obtain rfl : p = q := by simpa using same
            exact other) }

/-- Partitions applied one after the other leave a sound frame. -/
theorem Sound.applyAll (h : Sound levels level passed f) (known : level ∈ levels) {nested : Bool}
    {partitions : List Partition} (members : partitions ⊆ level.partitions)
    (applied : OpenFrame.applyAll level.index nested f partitions = .ok g) :
    Sound levels level (passed ++ partitions) g := by
  induction partitions generalizing passed f with
  | nil =>
      obtain rfl := applyAll_nil_eq_ok_iff.mp applied
      simpa using h
  | cons p rest ih =>
      obtain ⟨next, first, others⟩ := applyAll_cons_eq_ok_iff.mp applied
      obtain ⟨member, members⟩ := List.cons_subset.mp members
      have sound := ih (h.apply known member first) members others
      rwa [List.append_assoc] at sound

end OpenFrame

/-! ### Levels and queries -/

/-- The statement of a level over a source is in the grammar. Inside another level it can be a
derived table, and as the outermost level it has the order that the level asks for. -/
theorem Level.paged_derives {levels : List Level} {level : Level} (known : level ∈ levels)
    (ends : ¬level.endsInSkip) {nested : Bool} {s t : Select}
    (source : Derives (.of levels) false (level.headKeys nested) s.text)
    (paged : level.paged nested s = .ok t) :
    ∃ limited keys, Derives (.of levels) limited keys t.text
      ∧ (nested = true → keys.isSome = true → limited = true)
      ∧ (nested = false → keys = level.orderKeys) := by
  rcases Level.paged_eq_ok_iff.mp paged with ⟨none, rfl⟩ | ⟨pages, f, applied, rfl⟩
  · refine ⟨false, _, source, ?_, ?_⟩
    · rintro rfl keyed
      simp [headKeys, Level.head] at keyed
    · rintro rfl
      rw [headKeys, orderKeys, Level.head, none]
      cases level.sorts <;> rfl
  · -- only the outermost level orders a statement without partitions
    have unordered : level.headKeys nested = none := by
      simp [headKeys, Level.head, pages]
    have table : DerivedTable (.of levels) s.text :=
      ⟨false, none, unordered ▸ source, nofun⟩
    have sound := (OpenFrame.Sound.around table).applyAll known (List.Subset.refl _) applied
    rw [List.nil_append] at sound
    have selects : f.top.isSome = true ∨ f.selected = true := by
      have last := List.getLast?_eq_some_getLast pages
      exact sound.selects _ last fun skip => ends ⟨_, last, skip⟩
    obtain ⟨keys, derived, nestedKeys, outerKeys⟩ := sound.close known nested selects
    refine ⟨_, keys, derived, nestedKeys, fun outermost => ?_⟩
    have paging : ¬level.partitions.isEmpty = true := by simpa using pages
    rw [outerKeys outermost, orderKeys, if_neg paging]

/-- The statement of levels is in the grammar, by induction on the levels inside. -/
theorem Query.compileLevels_derives {levels : List Level} {level : Level} {nested : Bool}
    {inner : List Level} (known : level :: inner ⊆ levels)
    (ends : ∀ l ∈ level :: inner, ¬l.endsInSkip) {t : Select}
    (compiled : Query.compileLevels level nested inner = .ok t) :
    ∃ limited keys, Derives (.of levels) limited keys t.text
      ∧ (nested = true → keys.isSome = true → limited = true)
      ∧ (nested = false → keys = level.orderKeys) := by
  induction inner generalizing level nested t with
  | nil =>
      obtain ⟨-, -, paged⟩ := compileLevels_nil_eq_ok_iff.mp compiled
      have member : level ∈ levels := known List.mem_cons_self
      exact Level.paged_derives member (ends level List.mem_cons_self)
        (Level.derives_tables member nested) paged
  | cons next rest ih =>
      obtain ⟨s, -, inside, -, paged⟩ := compileLevels_cons_eq_ok_iff.mp compiled
      obtain ⟨member, members⟩ := List.cons_subset.mp known
      obtain ⟨limited, keys, derived, ordered, -⟩ :=
        ih members (fun l inner => ends l (List.mem_cons_of_mem _ inner)) inside
      exact Level.paged_derives member (ends level List.mem_cons_self)
        (Level.derives_derived member nested ⟨limited, keys, derived, ordered rfl⟩) paged

/-- **Compiled queries are in the grammar.** If no level of a query ends in a skip and the query
is written, its text is a statement of the grammar over its own units, with the order that the
outermost level asks for at the end. -/
theorem Query.select_derives {q : Query} (written : q.select.result = .ok ())
    (ends : ∀ level ∈ q.levels, ¬level.endsInSkip) :
    ∃ limited, Derives (.of q.levels) limited q.outer.orderKeys q.select.text := by
  obtain ⟨t, compiled, text⟩ := Query.select_result_eq_ok_iff.mp written
  obtain ⟨-, compiled⟩ := Query.compile_eq_ok_iff.mp compiled
  obtain ⟨limited, keys, derived, -, outermost⟩ :=
    Query.compileLevels_derives (List.Subset.refl q.levels) ends compiled
  obtain rfl := outermost rfl
  exact ⟨limited, text ▸ derived⟩

/-- The last of the persons behind the first three of a sub query of four. -/
theorem select_derives_last_of_skip_of_take :
    ∃ limited, Derives
      (.of [{ Level.ofTables [] with partitions := [.skip 3, ⟨.last, none⟩], index := 1 },
        { Level.ofTables [⟨"app", "Person"⟩] with partitions := [.take 4, ⟨.single, none⟩] }])
      limited (some (rowLabel 1 ++ " DESC"))
      (Query.select
        ⟨{ Level.ofTables [] with partitions := [.skip 3, ⟨.last, none⟩], index := 1 },
          [{ Level.ofTables [⟨"app", "Person"⟩] with
            partitions := [.take 4, ⟨.single, none⟩] }]⟩).text := by
  refine Query.select_derives (q := ⟨_, _⟩) rfl ?_
  simp only [Query.levels, List.forall_mem_cons]
  refine ⟨?_, ?_, nofun⟩ <;> rintro ⟨p, last, skip⟩ <;> obtain rfl := Option.some.inj last <;>
    cases skip

end EntitySql
