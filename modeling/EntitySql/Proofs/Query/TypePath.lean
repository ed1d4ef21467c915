import EntitySql.Proofs.Text.Cutting
import EntitySql.Proofs.Text.Joined
import EntitySql.Query.Name
/-!
# The tables of type paths

A type path is cut three times: at the first opening bracket, behind which the generic arguments
stand whatever they are, at the last double colon in front of it, and at every other one. As the
segments of a path have neither of these marks, each cut finds the place where the path was put
together. Segments have no point either, so the points of a full name are those that stand between
its segments, and the segments can be read back from it.

## Main definitions

* `TypePath`, `TypePath.text`: segments with generic arguments, and the text of them.
* `TypePath.table`: the table of the segments.

## Main results

* `splitPath?_append`, `pathDots_joined`: the cuts of a path.
* `TypePath.ofPath_text`: the table of a path is that of its segments.
* `TypePath.names_table`: the same with its parts, its full name and its identifier.
-/

namespace EntitySql

open EntitySql.Text

/-! ### Cutting paths -/

variable {s t before behind : List Char} {c : Char}

/-- What is cut at the last double colon stays so with more in front of it. -/
theorem splitPath?_cons (cut : splitPath? s = some (before, behind)) (c : Char) :
    splitPath? (c :: s) = some (c :: before, behind) := by
  by_cases colons : ∃ rest, c = ':' ∧ s = ':' :: rest
  · obtain ⟨rest, rfl, rfl⟩ := colons
    rw [splitPath?, cut]
  · rw [splitPath?, cut, Option.map_some]
    exact fun rest first second => colons ⟨rest, first, second⟩

/-- A text without colons is not cut. -/
theorem splitPath?_of_notMem (absent : ':' ∉ s) : splitPath? s = none := by
  induction s with
  | nil => rfl
  | cons c rest ih =>
      obtain ⟨other, absent⟩ := List.ne_and_not_mem_of_not_mem_cons absent
      rw [splitPath?, ih absent, Option.map_none]
      exact fun _ first _ => other first.symm

/-- **The last double colon** is where a path is cut. -/
theorem splitPath?_append (absent : ':' ∉ t) (s : List Char) :
    splitPath? (s ++ ':' :: ':' :: t) = some (s, t) := by
  induction s with
  | nil =>
      have behind : splitPath? (':' :: t) = none := by
        rw [splitPath?, splitPath?_of_notMem absent, Option.map_none]
        exact fun rest _ colon => absent (colon ▸ List.mem_cons_self)
      rw [List.nil_append, splitPath?, behind]
  | cons c rest ih => exact splitPath?_cons ih c

/-- A text without colons stays as it is. -/
theorem pathDots_of_notMem (absent : ':' ∉ s) : pathDots s = s := by
  induction s with
  | nil => rfl
  | cons c rest ih =>
      obtain ⟨other, absent⟩ := List.ne_and_not_mem_of_not_mem_cons absent
      rw [pathDots, ih absent]
      exact fun _ first _ => other first.symm

/-- The first double colon becomes a point. -/
theorem pathDots_append (absent : ':' ∉ s) :
    pathDots (s ++ ':' :: ':' :: t) = s ++ '.' :: pathDots t := by
  induction s with
  | nil => rfl
  | cons c rest ih =>
      obtain ⟨other, absent⟩ := List.ne_and_not_mem_of_not_mem_cons absent
      rw [List.cons_append, pathDots, ih absent, List.cons_append]
      exact fun _ first _ => other first.symm

/-- Segments with double colons between them become segments with points between them. -/
theorem pathDots_joined {segments : List String} (plain : ∀ s ∈ segments, ':' ∉ s.toList) :
    pathDots (joined "::" segments).toList = (joined "." segments).toList := by
  induction segments with
  | nil => rfl
  | cons segment rest ih =>
      obtain ⟨first, others⟩ := List.forall_mem_cons.mp plain
      cases rest with
      | nil => exact pathDots_of_notMem first
      | cons next rest =>
          have colons : (segment.toList ++ "::".toList ++ (joined "::" (next :: rest)).toList)
              = segment.toList ++ ':' :: ':' :: (joined "::" (next :: rest)).toList := by
            simp
          rw [toList_joined_cons, toList_joined_cons, colons, pathDots_append first, ih others]
          simp

/-! ### Paths of types -/

/-- The **path of a type**: its segments, which have no colons, points and opening brackets, and its
generic arguments as they are written, with the bracket that opens them. -/
structure TypePath where
  segments : List String
  generics : String
  segments_ne_nil : segments ≠ []
  segment_ne_empty : ∀ s ∈ segments, s ≠ ""
  plain : ∀ s ∈ segments, ':' ∉ s.toList ∧ '<' ∉ s.toList ∧ '.' ∉ s.toList
  generics_open : generics = "" ∨ ∃ arguments, generics.toList = '<' :: arguments

namespace TypePath

variable (p q : TypePath)

/-- The text of a path. -/
def text : String :=
  joined "::" p.segments ++ p.generics

/-- The table of a path: the last segment in the namespace of the others. -/
def table : TableName where
  space := joined "." p.segments.dropLast
  name := p.segments.getLast p.segments_ne_nil

/-- The generic arguments begin at the first opening bracket. -/
theorem takeWhile_text :
    p.text.toList.takeWhile (· != '<') = (joined "::" p.segments).toList := by
  have unopened : ∀ c ∈ (joined "::" p.segments).toList, (c != '<') = true := by
    refine fun c member => bne_iff_ne.mpr ?_
    rintro rfl
    exact notMem_joined (by decide) (fun s inside => (p.plain s inside).2.1) member
  rw [text, String.toList_append, List.takeWhile_append_of_pos unopened]
  rcases p.generics_open with none | ⟨arguments, opened⟩
  · simp [none]
  · simp [opened]

/-- **The table of a path** is that of its segments. -/
theorem ofPath_text : TableName.ofPath p.text = p.table := by
  rw [TableName.ofPath, takeWhile_text, table]
  have plain := p.plain
  obtain ⟨init, last, segments⟩ : ∃ init last, p.segments = init ++ [last] :=
    ⟨_, _, (List.dropLast_concat_getLast p.segments_ne_nil).symm⟩
  simp only [segments, List.dropLast_concat, List.getLast_concat] at plain ⊢
  have uncut : ':' ∉ last.toList := (plain last (by simp)).1
  rcases List.eq_nil_or_concat init with rfl | ⟨front, next, named⟩
  · have alone : splitPath? last.toList = none := splitPath?_of_notMem uncut
    simp [joined, alone]
  · have some : init ≠ [] := by simp [named]
    have colons : (joined "::" init ++ "::" ++ last).toList
        = (joined "::" init).toList ++ ':' :: ':' :: last.toList := by simp
    have points : pathDots (joined "::" init).toList = (joined "." init).toList :=
      pathDots_joined fun s member => (plain s (List.mem_append_left _ member)).1
    rw [joined_concat some, colons, splitPath?_append uncut]
    simp only [points, String.ofList_toList]

/-- The full name is made of all segments. -/
theorem full_table : p.table.full = joined "." p.segments := by
  have written := p.segment_ne_empty
  rw [TableName.full, table]
  obtain ⟨init, last, segments⟩ : ∃ init last, p.segments = init ++ [last] :=
    ⟨_, _, (List.dropLast_concat_getLast p.segments_ne_nil).symm⟩
  simp only [segments, List.dropLast_concat, List.getLast_concat] at written ⊢
  by_cases none : init = []
  · simp [none, joined]
  · have space : joined "." init ≠ "" :=
      joined_ne_empty "." none fun s member => written s (List.mem_append_left _ member)
    rw [if_neg space, joined_concat none]

/-- Two paths have one table exactly if they have the same segments. -/
theorem bracketed_table_eq_iff :
    p.table.bracketed = q.table.bracketed ↔ p.segments = q.segments := by
  rw [TableName.bracketed, TableName.bracketed, String.append_left_inj, String.append_right_inj,
    full_table, full_table]
  exact joined_inj (c := '.') p.segments_ne_nil q.segments_ne_nil
    (fun s member => (p.plain s member).2.2) fun s member => (q.plain s member).2.2

/-- **The path of a type names its table.** The namespace is made of all segments but the last one,
with points between them, the name is the last one, and the full name is made of all of them,
whatever the generic arguments are. So two paths have one table exactly if they differ in nothing
but their generic arguments. -/
theorem names_table :
    TableName.ofPath p.text
        = ⟨joined "." p.segments.dropLast, p.segments.getLast p.segments_ne_nil⟩
      ∧ (TableName.ofPath p.text).full = joined "." p.segments
      ∧ ((TableName.ofPath p.text).bracketed = (TableName.ofPath q.text).bracketed
        ↔ p.segments = q.segments) := by
  rw [p.ofPath_text, q.ofPath_text]
  exact ⟨rfl, p.full_table, p.bracketed_table_eq_iff q⟩

/-- The path of options of a type. -/
def option (type : List Char) : TypePath where
  segments := ["core", "option", "Option"]
  generics := String.ofList ('<' :: (type ++ ['>']))
  segments_ne_nil := by decide
  segment_ne_empty := by decide
  plain := by decide
  generics_open := .inr ⟨type ++ ['>'], String.toList_ofList⟩

/-- Options of texts and of numbers have one table. -/
theorem names_table_option :
    (option "alloc::string::String".toList).text = "core::option::Option<alloc::string::String>"
      ∧ (TableName.ofPath (option "alloc::string::String".toList).text).full
        = "core.option.Option"
      ∧ (TableName.ofPath (option "alloc::string::String".toList).text).bracketed
        = (TableName.ofPath (option "i32".toList).text).bracketed := by
  obtain ⟨-, full, same⟩ := names_table (option "alloc::string::String".toList)
    (option "i32".toList)
  exact ⟨by decide, full, same.mpr rfl⟩

end TypePath

end EntitySql
