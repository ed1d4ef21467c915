import EntitySql.Proofs.Statement.Change
import EntitySql.Proofs.Statement.Lexemes
import EntitySql.Proofs.Statement.Readable
/-!
# Identifiers in statements

A column is written as two identifiers in brackets, the full name of its table and its own name, and
the names stand in the brackets as they are. A server reads them back exactly if no name has a
closing bracket, since a name that has one is written shorter than it would have to be. Where no
name has one, names decide nothing but the contents of identifiers: around a column every text is
read as it is on its own, and the statements that change a table have a shape that depends on the
number of columns alone.

## Main definitions

* `ColumnName.lexemes`: the two identifiers of a column.
* `PlainNames`: a table and an entity without closing brackets in their names.

## Main results

* `ColumnName.lexemes?_bracketed_iff`: when a column is read as its two identifiers.
* `ColumnName.lexemes?_around`: a column among other texts.
* `Change.sameShape_insert`, `Change.sameShape_update`, `Change.sameShape_delete`: texts of one
  shape.
* `PlainNames.sameShape_writeInsert`, `PlainNames.sameShape_writeUpdate`,
  `PlainNames.sameShape_writeDelete`: the statements of entities.
* `ColumnName.read_bracketed_iff`: columns and statements together.
-/

namespace EntitySql

open EntitySql.Text

/-! ### Columns -/

namespace ColumnName

/-- The identifiers of a table and its column with a point between them. -/
def lexemes (c : ColumnName) : List Lexeme :=
  [.identifier c.table.full, .mark '.', .identifier c.name]

/-- A column name is plain if neither the full name of its table nor its own has a closing
bracket. -/
theorem plain_iff {c : ColumnName} :
    c.Plain ↔ ']' ∉ c.table.full.toList ∧ ']' ∉ c.name.toList := by
  refine ⟨fun plain => ⟨plain.notMem_full, plain.2.2⟩, fun ⟨full, name⟩ => ?_⟩
  rw [TableName.full] at full
  split at full
  · next none => exact ⟨by simp [none], full, name⟩
  · simp only [String.toList_append, List.mem_append, not_or] at full
    exact ⟨full.1.1, full.2, name⟩

/-- A column in front of a text that does not start with a closing bracket. -/
theorem lexemes?_bracketed_append {c : ColumnName} (plain : c.Plain) {behind : List Char}
    (stop : behind.head? ≠ some ']') :
    lexemes? (c.bracketed.toList ++ behind) = (lexemes? behind).map (c.lexemes ++ ·) := by
  have table : ReadAs ('[' :: (c.table.full.toList ++ [']']) ++ ['.'])
      [.identifier c.table.full, .mark '.'] :=
    (ReadAs.identifier plain.notMem_full).append (.mark (by decide))
  have name : lexemes? ((Lexeme.identifier c.name).text ++ behind)
      = (lexemes? behind).map (.identifier c.name :: ·) :=
    lexemes?_enclosed _ stop
  have unclosing : Unclosing ((Lexeme.identifier c.name).text ++ behind) := by
    rw [Lexeme.text_identifier plain.2.2]
    intro e
    cases e <;> simp [Enclosure.closing]
  have whole : c.bracketed.toList ++ behind = ('[' :: (c.table.full.toList ++ [']']) ++ ['.'])
      ++ ((Lexeme.identifier c.name).text ++ behind) := by
    rw [c.toList_bracketed, Lexeme.text_identifier plain.2.2]
    simp
  rw [whole, lexemes?_append unclosing table.read, name, Option.map_map]
  rfl

/-- **When a column is read as its two identifiers**: when no name has a closing bracket. -/
theorem lexemes?_bracketed_iff {c : ColumnName} :
    lexemes? c.bracketed.toList = some c.lexemes ↔ c.Plain := by
  constructor
  · intro read
    -- Closing brackets would have to be doubled, and the text has no room for that.
    have lengths := congrArg List.length (text_of_lexemes? read)
    rw [c.toList_bracketed] at lengths
    simp only [lexemes, List.flatMap_cons, List.flatMap_nil, List.append_nil, List.length_append,
      Lexeme.length_text_identifier, Lexeme.length_text_mark, List.length_cons,
      List.length_nil] at lengths
    rw [plain_iff, ← List.count_eq_zero, ← List.count_eq_zero]
    omega
  · intro plain
    have stop : ([] : List Char).head? ≠ some ']' := nofun
    rw [← List.append_nil c.bracketed.toList, lexemes?_bracketed_append plain stop]
    rfl

/-- **A column among other texts** is read as its two identifiers, and the texts as on their own. -/
theorem lexemes?_around {c : ColumnName} (plain : c.Plain) {front behind : List Char}
    {ls : List Lexeme} (read : lexemes? front = some ls) (stop : behind.head? ≠ some ']') :
    lexemes? (front ++ (c.bracketed.toList ++ behind))
      = (lexemes? behind).map fun ms => ls ++ (c.lexemes ++ ms) := by
  have unclosing : Unclosing (c.bracketed.toList ++ behind) := by
    rw [c.toList_bracketed]
    intro e
    cases e <;> simp [Enclosure.closing]
  rw [lexemes?_append unclosing read, lexemes?_bracketed_append plain stop, Option.map_map]
  rfl

/-- Two columns without closing brackets in their names are of one shape. -/
theorem sameShape {c d : ColumnName} (h : c.Plain) (h' : d.Plain) :
    SameShape c.bracketed.toList d.bracketed.toList := by
  have parts (c : ColumnName) : c.bracketed.toList
      = '[' :: (c.table.full.toList ++ [']']) ++ (['.'] ++ '[' :: (c.name.toList ++ [']'])) := by
    rw [c.toList_bracketed]
    simp
  rw [parts c, parts d]
  exact (SameShape.identifier h.notMem_full h'.notMem_full).append
    ((SameShape.plain (by decide)).append (.identifier h.2.2 h'.2.2))

end ColumnName

/-! ### Statements that change a table -/

/-- A table and an entity without closing brackets in their names. -/
def PlainNames (table : TableName) (e : Entity) : Prop :=
  ']' ∉ table.full.toList ∧ ∀ p ∈ e.properties, ']' ∉ p.name.toList

namespace Change

variable {table other : TableName} {columns columns' placeholders : List String} {key : String}

/-- Placeholders that count have no marks of enclosures. -/
theorem plain_of_mem_ordinals {count : Nat} :
    ∀ p ∈ ordinals count, p.toList.all isPlainMark = true := by
  intro p member
  obtain ⟨place, -, rfl⟩ := List.mem_map.mp member
  have digits (n : Nat) : (natText n).toList = numeral n := String.toList_ofList
  rw [ordinal, String.toList_append, digits, List.all_append, Bool.and_eq_true]
  refine ⟨by decide, List.all_eq_true.mpr fun c digit => ?_⟩
  have digit := isDigit_of_mem_numeral digit
  have other {d : Char} (mark : d.isDigit = false) : c ≠ d := by
    rintro rfl
    rw [digit] at mark
    cases mark
  simp [isPlainMark, other (d := '[') rfl, other (d := ']') rfl, other (d := '\'') rfl]

section

variable (h : ']' ∉ table.full.toList) (h' : ']' ∉ other.full.toList)

include h h'

/-- Two tables behind a keyword are of one shape. -/
theorem sameShape_keyword {keyword : List Char} (marks : keyword.all isPlainMark = true) :
    SameShape (keyword ++ table.bracketed.toList) (keyword ++ other.bracketed.toList) := by
  have text (t : TableName) : t.bracketed.toList = '[' :: (t.full.toList ++ [']']) := by
    simp [TableName.bracketed, String.toList_append]
  rw [text, text]
  exact (SameShape.plain marks).append (.identifier h h')

/-- Plain columns of any two tables are written in one shape. -/
theorem sameShape_columnText {name name' : String} (plain : ']' ∉ name.toList)
    (plain' : ']' ∉ name'.toList) :
    SameShape (columnText table name).toList (columnText other name').toList :=
  ColumnName.sameShape (ColumnName.plain_iff.mpr ⟨h, plain⟩) (ColumnName.plain_iff.mpr ⟨h', plain'⟩)

/-- Deletions are of one shape. -/
theorem sameShape_delete (keyPlain : ']' ∉ key.toList) :
    SameShape ((delete key "@UId").text table).toList ((delete key "@UId").text other).toList := by
  have delete : SameShape ("DELETE FROM ".toList ++ table.bracketed.toList)
      ("DELETE FROM ".toList ++ other.bracketed.toList) :=
    sameShape_keyword h h' (by decide)
  have key := sameShape_columnText h h' keyPlain keyPlain
  simp only [text_delete, String.toList_append]
  exact (((delete.append_plain (by decide)).append key).append_plain (by decide)).append_plain
    (by decide)

section

variable (plain : ∀ name ∈ columns, ']' ∉ name.toList)
  (plain' : ∀ name ∈ columns', ']' ∉ name.toList) (length : columns.length = columns'.length)

include plain plain' length

/-- As many columns of two tables, joined, are of one shape. -/
theorem sameShape_columns :
    SameShape (joined ", " (columns.map (columnText table))).toList
      (joined ", " (columns'.map (columnText other))).toList := by
  refine SameShape.joined (by decide) (List.forall₂_iff_get.mpr ⟨by simpa using length, ?_⟩)
  intro i hi hj
  simp only [List.get_eq_getElem, List.getElem_map]
  exact sameShape_columnText h h' (plain _ (List.getElem_mem _)) (plain' _ (List.getElem_mem _))

variable (marks : ∀ p ∈ placeholders, p.toList.all isPlainMark = true)

include marks

/-- Insertions of as many columns are of one shape. -/
theorem sameShape_insert :
    SameShape ((insert columns placeholders).text table).toList
      ((insert columns' placeholders).text other).toList := by
  have into : SameShape ("INSERT INTO ".toList ++ table.bracketed.toList)
      ("INSERT INTO ".toList ++ other.bracketed.toList) :=
    sameShape_keyword h h' (by decide)
  have names := sameShape_columns h h' plain plain' length
  have values : SameShape (joined ", " placeholders).toList (joined ", " placeholders).toList :=
    .joined (by decide) (List.forall₂_same.mpr fun p member => .plain (marks p member))
  have empty : columns'.isEmpty = columns.isEmpty := by
    rw [Bool.eq_iff_iff, List.isEmpty_iff_length_eq_zero, List.isEmpty_iff_length_eq_zero, length]
  rw [text_insert, text_insert, empty]
  split
  · simp only [String.toList_append]
    exact into.append_plain (by decide)
  · simp only [String.toList_append]
    exact ((((into.append_plain (by decide)).append names).append_plain (by decide)).append
      values).append_plain (by decide)

/-- Assignments to as many columns are of one shape. -/
theorem sameShape_assignments :
    SameShape
      (joined ", " (List.zipWith (fun column placeholder =>
        columnText table column ++ "=" ++ placeholder) columns placeholders)).toList
      (joined ", " (List.zipWith (fun column placeholder =>
        columnText other column ++ "=" ++ placeholder) columns' placeholders)).toList := by
  refine SameShape.joined (by decide) (List.forall₂_iff_get.mpr ⟨by simp [length], ?_⟩)
  intro i hi hj
  have below : i < columns.length := List.lt_length_left_of_zipWith hi
  have below' : i < columns'.length := List.lt_length_left_of_zipWith hj
  simp only [List.get_eq_getElem, List.getElem_zipWith, String.toList_append]
  have column : SameShape (columnText table columns[i]).toList
      (columnText other columns'[i]).toList :=
    sameShape_columnText h h' (plain _ (List.getElem_mem _)) (plain' _ (List.getElem_mem _))
  exact (column.append_plain (by decide)).append_plain (marks _ (List.getElem_mem _))

/-- Updates of as many columns are of one shape. -/
theorem sameShape_update (keyPlain : ']' ∉ key.toList) :
    SameShape ((update columns placeholders key "@UId").text table).toList
      ((update columns' placeholders key "@UId").text other).toList := by
  have update : SameShape ("UPDATE ".toList ++ table.bracketed.toList)
      ("UPDATE ".toList ++ other.bracketed.toList) :=
    sameShape_keyword h h' (by decide)
  have assignments := sameShape_assignments h h' plain plain' length marks
  have key := sameShape_columnText h h' keyPlain keyPlain
  simp only [text_update, String.toList_append]
  exact (((((update.append_plain (by decide)).append assignments).append_plain (by decide)).append
    key).append_plain (by decide)).append_plain (by decide)

end

end

end Change

/-- An entity has as many names as properties. -/
theorem Entity.length_names (e : Entity) : e.names.length = e.size :=
  List.length_map _

namespace PlainNames

variable {table other : TableName} {e f : Entity}

/-- A part of a row has plain names if the row has. -/
theorem names_of_sublist (h : PlainNames table e) {row : Entity}
    (sublist : row.properties.Sublist e.properties) : ∀ name ∈ row.names, ']' ∉ name.toList := by
  intro name member
  obtain ⟨p, property, rfl⟩ := List.mem_map.mp member
  exact h.2 p (sublist.subset property)

/-- Insertions of as many properties. -/
theorem sameShape_writeInsert (h : PlainNames table e) (h' : PlainNames other f)
    (columns : e.insertColumns.length = f.insertColumns.length) :
    SameShape (e.writeInsert table).text.toList (f.writeInsert other).text.toList := by
  have sizes : (e.erase identityColumn).size = (f.erase identityColumn).size := columns
  have lengths : (e.erase identityColumn).names.length = (f.erase identityColumn).names.length := by
    rw [Entity.length_names, Entity.length_names, sizes]
  rw [Entity.writeInsert_eq, Entity.writeInsert_eq, sizes]
  exact Change.sameShape_insert h.1 h'.1 (h.names_of_sublist List.filter_sublist)
    (h'.names_of_sublist List.filter_sublist) lengths Change.plain_of_mem_ordinals

/-- Updates of as many properties, if both are written. -/
theorem sameShape_writeUpdate (h : PlainNames table e) (h' : PlainNames other f)
    {ps qs : List Parameter} (written : (e.writeUpdate table).result = .ok ps)
    (written' : (f.writeUpdate other).result = .ok qs)
    (columns : e.updateColumns.length = f.updateColumns.length) :
    SameShape (e.writeUpdate table).text.toList (f.writeUpdate other).text.toList := by
  rw [Entity.updateColumns_eq, Entity.updateColumns_eq] at columns
  obtain ⟨-, -, -, text⟩ := Entity.writeUpdate_eq_ok written
  obtain ⟨-, -, -, text'⟩ := Entity.writeUpdate_eq_ok written'
  have sizes : ((e.erase identityColumn).erase keyColumn).size
      = ((f.erase identityColumn).erase keyColumn).size := columns
  have lengths : ((e.erase identityColumn).erase keyColumn).names.length
      = ((f.erase identityColumn).erase keyColumn).names.length := by
    rw [Entity.length_names, Entity.length_names, sizes]
  have sublist (e : Entity) :
      ((e.erase identityColumn).erase keyColumn).properties.Sublist e.properties :=
    List.filter_sublist.trans List.filter_sublist
  rw [text, text', sizes]
  exact Change.sameShape_update h.1 h'.1 (h.names_of_sublist (sublist e))
    (h'.names_of_sublist (sublist f)) lengths Change.plain_of_mem_ordinals (by decide)

/-- Deletions, if both are written. -/
theorem sameShape_writeDelete (h : PlainNames table e) (h' : PlainNames other f)
    {ps qs : List Parameter} (written : (e.writeDelete table).result = .ok ps)
    (written' : (f.writeDelete other).result = .ok qs) :
    SameShape (e.writeDelete table).text.toList (f.writeDelete other).text.toList := by
  obtain ⟨-, -, -, text⟩ := Entity.writeDelete_eq_ok written
  obtain ⟨-, -, -, text'⟩ := Entity.writeDelete_eq_ok written'
  rw [text, text']
  exact Change.sameShape_delete h.1 h'.1 (by decide)

end PlainNames

/-! ### Names and statements -/

/-- **Identifiers stay in their brackets exactly if no name has a closing bracket.** A column has
one text, in a query and in a statement that changes a table, and it is read as the full name of its
table, a point and its own name if and only if none of the names has a closing bracket. Then it is
read so among any other texts, and these as on their own; and where no name of two entities has one,
the statements that write as many columns differ in nothing but the contents of identifiers. -/
theorem ColumnName.read_bracketed_iff (c : ColumnName) :
    (Expression.column c).text = columnText c.table c.name ∧
    (lexemes? (columnText c.table c.name).toList = some c.lexemes ↔ c.Plain) ∧
    (c.Plain → ∀ {front behind : List Char} {ls : List Lexeme},
      lexemes? front = some ls → behind.head? ≠ some ']' →
        lexemes? (front ++ ((columnText c.table c.name).toList ++ behind))
          = (lexemes? behind).map fun ms => ls ++ (c.lexemes ++ ms)) ∧
    ∀ {e f : Entity} {table other : TableName}, PlainNames table e → PlainNames other f →
      (e.insertColumns.length = f.insertColumns.length →
        SameShape (e.writeInsert table).text.toList (f.writeInsert other).text.toList) ∧
      ∀ {ps qs : List Parameter},
        ((e.writeUpdate table).result = .ok ps → (f.writeUpdate other).result = .ok qs →
          e.updateColumns.length = f.updateColumns.length →
            SameShape (e.writeUpdate table).text.toList (f.writeUpdate other).text.toList) ∧
        ((e.writeDelete table).result = .ok ps → (f.writeDelete other).result = .ok qs →
          SameShape (e.writeDelete table).text.toList (f.writeDelete other).text.toList) :=
  ⟨rfl, c.lexemes?_bracketed_iff, fun plain => lexemes?_around plain, fun h h' =>
    ⟨h.sameShape_writeInsert h', h.sameShape_writeUpdate h', h.sameShape_writeDelete h'⟩⟩

/-- Opening brackets and quotes in names are harmless, in a column among other texts and in an
update. -/
theorem ColumnName.read_bracketed_iff_opening :
    lexemes? ("-".toList ++ ((columnText ⟨"", "Order"⟩ "it's [").toList ++ "+1".toList))
      = some [.mark '-', .identifier "Order", .mark '.', .identifier "it's [", .mark '+',
          .mark '1'] ∧
    SameShape
      (Entity.writeUpdate ⟨[⟨"UId", .ofInt32 7⟩, ⟨"Name", .ofString "A"⟩], by decide⟩
        ⟨"app", "Person"⟩).text.toList
      (Entity.writeUpdate ⟨[⟨"it's [", .ofInt32 1⟩, ⟨"UId", .ofInt32 8⟩], by decide⟩
        ⟨"", "Order"⟩).text.toList := by
  obtain ⟨-, -, around, statements⟩ := ColumnName.read_bracketed_iff ⟨⟨"", "Order"⟩, "it's ["⟩
  have plain : (ColumnName.mk ⟨"", "Order"⟩ "it's [").Plain := ⟨by decide, by decide, by decide⟩
  have person : PlainNames ⟨"app", "Person"⟩
      ⟨[⟨"UId", .ofInt32 7⟩, ⟨"Name", .ofString "A"⟩], by decide⟩ := ⟨by decide, by simp⟩
  have order : PlainNames ⟨"", "Order"⟩
      ⟨[⟨"it's [", .ofInt32 1⟩, ⟨"UId", .ofInt32 8⟩], by decide⟩ := ⟨by decide, by simp⟩
  constructor
  · have front : lexemes? "-".toList = some [.mark '-'] := by cbv
    have behind : lexemes? "+1".toList = some [.mark '+', .mark '1'] := by cbv
    rw [around plain front (by decide), behind]
    rfl
  · exact (statements person order).2.1 rfl rfl rfl

/-- A closing bracket ends an identifier: the column `a]b` of a person is read as the column `a`
with more behind it. -/
theorem ColumnName.not_read_bracketed_closing :
    lexemes? (columnText ⟨"app", "Person"⟩ "a]b").toList
        = some [.identifier "app.Person", .mark '.', .identifier "a", .mark 'b', .mark ']'] ∧
    lexemes? (columnText ⟨"app", "Person"⟩ "a]b").toList
        ≠ some [.identifier "app.Person", .mark '.', .identifier "a]b"] := by
  have read : lexemes? (columnText ⟨"app", "Person"⟩ "a]b").toList
      = some [.identifier "app.Person", .mark '.', .identifier "a", .mark 'b', .mark ']'] := by cbv
  refine ⟨read, ?_⟩
  rw [read]
  decide

end EntitySql
