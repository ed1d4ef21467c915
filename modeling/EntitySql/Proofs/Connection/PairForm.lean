import EntitySql.Connection.Settings
import EntitySql.Error
import EntitySql.Proofs.Connection.Entries
import Mathlib.Data.List.Infix
/-!
# Telling pairs from addresses

A connection string that is no address of the scheme `mssql` is taken for an address of another
scheme if a colon and two slashes stand anywhere in it, and for key-value pairs otherwise. The mark
is looked for before anything is read, also inside quotes and braces, so that a password or a name
of an application that holds it makes a list of pairs an address. Since the mark has no semicolon
and no equals sign, it always stands within one key or one value.

## Main definitions

* `schemeMark`: what addresses have behind their schemes.
* `Entry.Marked`: entries with the mark in the key or in the value.

## Main results

* `infix_append_cons_iff`: a piece stands on one side of a character that it has not.
* `infix_listText_iff`: the mark stands in a list exactly if it stands in an entry of the list.
* `unmarked_of_read`: what is accepted and no address has no mark.
* `read_of_pairs`: how a connection string with an equals sign is read.
* `reads_pairs_iff`: which lists of pairs are accepted as what they are.
-/

namespace EntitySql.Connection

open EntitySql.Text

variable {s t piece : List Char} {c : Char} {value : String}

/-! ### Pieces of texts -/

/-- A text is searched through from its start for a piece. -/
theorem Settings.holds_iff_infix : Settings.holds piece s = true ↔ piece <:+: s := by
  induction s with
  | nil => rw [Settings.holds, List.isEmpty_iff, List.infix_nil]
  | cons c rest ih =>
      rw [Settings.holds, Bool.or_eq_true, List.isPrefixOf_iff_prefix, ih, List.infix_cons_iff]

/-- A piece that stands around a character has it. -/
theorem infix_append_cons_iff (absent : c ∉ piece) :
    piece <:+: s ++ c :: t ↔ piece <:+: s ∨ piece <:+: t := by
  have front {p : List Char} (part : ∀ d ∈ p, d ∈ piece) (start : p <+: c :: t) : p = [] := by
    rcases List.prefix_cons_iff.mp start with none | ⟨rest, rfl, -⟩
    · exact none
    · exact absurd (part c List.mem_cons_self) absent
  constructor
  · intro inside
    rcases List.infix_append_iff.mp inside with left | right | ⟨before, behind, rfl, ends, start⟩
    · exact .inl left
    · rcases List.infix_cons_iff.mp right with start | later
      · exact .inl (front (fun _ => id) start ▸ List.nil_infix)
      · exact .inr later
    · obtain rfl := front (fun d => List.mem_append_right before) start
      rw [List.append_nil]
      exact .inl ends.isInfix
  · rintro (left | right)
    · exact left.trans (List.prefix_append s _).isInfix
    · exact right.trans ((List.suffix_cons c t).trans (List.suffix_append s _)).isInfix

/-- A piece without characters of a class stays when the class is trimmed. -/
theorem infix_trim {p : Char → Bool} (some : piece ≠ []) (outside : ∀ c ∈ piece, p c = false)
    (inside : piece <:+: s) : piece <:+: trim p s := by
  obtain ⟨left, right, whole, leftClass, rightClass⟩ := exists_trim p s
  generalize trim p s = kept at whole ⊢
  subst whole
  have absent {c : Char} (member : p c = true) : c ∉ piece := fun inPiece => by
    rw [outside c inPiece] at member
    cases member
  have nothing : ¬piece <:+: [] := fun none => some (List.infix_nil.mp none)
  -- the class is taken off character by character, on the left first
  induction left with
  | cons c left ih =>
      obtain ⟨first, others⟩ := List.forall_mem_cons.mp leftClass
      rw [List.cons_append, ← List.nil_append (c :: _), infix_append_cons_iff (absent first)]
        at inside
      exact ih others (inside.resolve_left nothing)
  | nil =>
      rw [List.nil_append] at inside
      induction right using List.reverseRecOn with
      | nil => rwa [List.append_nil] at inside
      | append_singleton right c ih =>
          have last := rightClass c (List.mem_append_right right List.mem_cons_self)
          rw [← List.append_assoc, infix_append_cons_iff (absent last)] at inside
          exact ih (fun d member => rightClass d (List.mem_append_left [c] member))
            (inside.resolve_right nothing)

/-! ### The mark of addresses -/

/-- What stands behind the scheme of an address. -/
def schemeMark : List Char := [':', '/', '/']

/-- The mark is looked for everywhere in a text. -/
theorem holds_schemeMark_iff : Settings.holds [':', '/', '/'] s = true ↔ schemeMark <:+: s :=
  Settings.holds_iff_infix

/-- An entry with the mark of addresses in its key or its value. -/
def Entry.Marked (e : Entry) : Prop :=
  schemeMark <:+: e.key.text ∨ schemeMark <:+: e.value.text

/-- The mark stands in the text of an entry exactly if the entry is marked. -/
theorem Entry.infix_text_iff {e : Entry} : schemeMark <:+: e.text ↔ e.Marked :=
  infix_append_cons_iff (by decide)

/-- **The mark stands within one entry** of a list of pairs. -/
theorem infix_listText_iff {entries : List Entry} {last? : Option Entry} :
    schemeMark <:+: listText entries last? ↔ ∃ e ∈ entries ++ last?.toList, e.Marked := by
  induction entries with
  | nil =>
      cases last? with
      | none => simp [listText, closedText, schemeMark]
      | some e => simpa [listText, closedText] using e.infix_text_iff
  | cons e entries ih =>
      rw [listText_cons, infix_append_cons_iff (by decide), Entry.infix_text_iff, ih,
        List.cons_append, List.exists_mem_cons_iff]

/-! ### Reading -/

/-- A connection string with an equals sign that is no address of the scheme is read as pairs,
unless the mark of addresses stands in it. -/
theorem read_of_pairs (equals : '=' ∈ trim isBlank value.toList)
    (other : ¬Settings.addressStart <+: trim isBlank value.toList) :
    (schemeMark <:+: trim isBlank value.toList → Settings.read value = .error .otherScheme)
      ∧ (¬schemeMark <:+: trim isBlank value.toList →
        Settings.read value = Settings.readPairs (trim isBlank value.toList)) := by
  have noAddress : ¬Settings.addressStart.isPrefixOf (trim isBlank value.toList) = true := by
    rwa [List.isPrefixOf_iff_prefix]
  constructor
  · intro marked
    rw [Settings.read, if_neg noAddress, if_pos (holds_schemeMark_iff.mpr marked)]
  · intro unmarked
    rw [Settings.read, if_neg noAddress, if_neg (mt holds_schemeMark_iff.mp unmarked),
      if_pos equals]

/-- A connection string that is accepted and is no address of the scheme does not have the mark. -/
theorem unmarked_of_read {settings : Settings} (accepted : Settings.read value = .ok settings)
    (other : ¬Settings.addressStart <+: trim isBlank value.toList) :
    ¬schemeMark <:+: value.toList := by
  intro marked
  have visible : ∀ c ∈ schemeMark, isBlank c = false := by simp [schemeMark, isBlank]
  have inside : schemeMark <:+: trim isBlank value.toList :=
    infix_trim (List.cons_ne_nil _ _) visible marked
  have noAddress : ¬Settings.addressStart.isPrefixOf (trim isBlank value.toList) = true := by
    rwa [List.isPrefixOf_iff_prefix]
  rw [Settings.read, if_neg noAddress, if_pos (holds_schemeMark_iff.mpr inside)] at accepted
  cases accepted

/-- A text that is accepted as pairs is a list of entries. -/
theorem exists_listText_of_readPairs {settings : Settings}
    (accepted : Settings.readPairs s = .ok settings) :
    ∃ entries last?, s = listText entries last? := by
  rw [Settings.readPairs] at accepted
  split at accepted
  · cases accepted
  · next ps read =>
      obtain ⟨entries, last?, whole, -⟩ := Pairs.read_eq_ok_iff.mp read
      exact ⟨entries, last?, whole⟩

/-- **Which lists of pairs are accepted as what they are**: those without the mark of addresses in a
key or a value. Every other one is refused as an address of another scheme. What the reader of pairs
refuses is refused in any case, for its reason if the mark is not there. -/
theorem reads_pairs_iff (equals : '=' ∈ trim isBlank value.toList)
    (other : ¬Settings.addressStart <+: trim isBlank value.toList) :
    (∀ settings, Settings.readPairs (trim isBlank value.toList) = .ok settings →
      (∃ entries last?, trim isBlank value.toList = listText entries last?)
        ∧ ∀ entries last?, trim isBlank value.toList = listText entries last? →
          (Settings.read value = .ok settings ↔ ∀ e ∈ entries ++ last?.toList, ¬e.Marked)
            ∧ (Settings.read value ≠ .ok settings →
              Settings.read value = .error .otherScheme))
    ∧ ∀ problem, Settings.readPairs (trim isBlank value.toList) = .error problem →
      problem ≠ .contradictoryTrust →
      ∃ reported, reported ≠ .contradictoryTrust
        ∧ (Settings.read value).mapError DatabaseError.invalidConfiguration
          = .error (.invalidConfiguration reported)
        ∧ (¬schemeMark <:+: trim isBlank value.toList → reported = problem) := by
  obtain ⟨refused, read⟩ := read_of_pairs equals other
  constructor
  · intro settings accepted
    refine ⟨exists_listText_of_readPairs accepted, fun entries last? whole => ?_⟩
    have unmarked_iff : ¬schemeMark <:+: trim isBlank value.toList
        ↔ ∀ e ∈ entries ++ last?.toList, ¬e.Marked := by
      rw [whole, infix_listText_iff]
      simp only [not_exists, not_and]
    by_cases marked : schemeMark <:+: trim isBlank value.toList
    · rw [← unmarked_iff, refused marked]
      exact ⟨⟨nofun, fun unmarked => absurd marked unmarked⟩, fun _ => rfl⟩
    · rw [← unmarked_iff, read marked, accepted]
      exact ⟨⟨fun _ => marked, fun _ => rfl⟩, fun unlike => absurd rfl unlike⟩
  · intro problem rejected recoverable
    by_cases marked : schemeMark <:+: trim isBlank value.toList
    · rw [refused marked]
      exact ⟨.otherScheme, nofun, rfl, fun unmarked => absurd marked unmarked⟩
    · rw [read marked, rejected]
      exact ⟨problem, recoverable, rfl, fun _ => rfl⟩

/-- What a host and a password say. -/
def passwordOnly (host password : String) : Settings :=
  { Settings.initial with host := some host, encryption := .off, login := some ⟨"", password⟩ }

/-- A password with a colon and one slash is accepted, and a list without a key is refused. -/
theorem reads_pairs_iff_one_slash :
    ('=' ∈ trim isBlank "Server=db;Password=a:/b".toList
      ∧ ¬Settings.addressStart <+: trim isBlank "Server=db;Password=a:/b".toList
      ∧ Settings.readPairs (trim isBlank "Server=db;Password=a:/b".toList)
        = .ok (passwordOnly "db" "a:/b")
      ∧ Settings.read "Server=db;Password=a:/b" = .ok (passwordOnly "db" "a:/b"))
    ∧ '=' ∈ trim isBlank " =a:/b".toList
      ∧ ¬Settings.addressStart <+: trim isBlank " =a:/b".toList
      ∧ Settings.readPairs (trim isBlank " =a:/b".toList) = .error (.pairs .emptyKey)
      ∧ ∃ reported, reported ≠ .contradictoryTrust
        ∧ (Settings.read " =a:/b").mapError DatabaseError.invalidConfiguration
          = .error (.invalidConfiguration reported) := by
  have equals : '=' ∈ trim isBlank "Server=db;Password=a:/b".toList := by decide
  have other : ¬Settings.addressStart <+: trim isBlank "Server=db;Password=a:/b".toList := by
    decide
  have accepted : Settings.readPairs (trim isBlank "Server=db;Password=a:/b".toList)
      = .ok (passwordOnly "db" "a:/b") := by decide +kernel
  obtain ⟨⟨entries, last?, whole⟩, same⟩ := (reads_pairs_iff equals other).1 _ accepted
  have unmarked : ¬schemeMark <:+: trim isBlank "Server=db;Password=a:/b".toList :=
    mt holds_schemeMark_iff.mpr (by decide)
  rw [whole, infix_listText_iff] at unmarked
  have read := (same entries last? whole).1.mpr fun e member marked =>
    unmarked ⟨e, member, marked⟩
  have refused : Settings.readPairs (trim isBlank " =a:/b".toList) = .error (.pairs .emptyKey) := by
    decide +kernel
  obtain ⟨reported, recoverable, read', -⟩ :=
    (@reads_pairs_iff " =a:/b" (by decide) (by decide)).2 _ refused nofun
  exact ⟨⟨equals, other, accepted, read⟩, by decide, by decide, refused, reported, recoverable,
    read'⟩

/-- A password with the mark of addresses is refused, though the reader of pairs accepts it. -/
theorem not_reads_pairs_two_slashes :
    '=' ∈ trim isBlank "Server=db;Password=a://b".toList
      ∧ ¬Settings.addressStart <+: trim isBlank "Server=db;Password=a://b".toList
      ∧ Settings.readPairs (trim isBlank "Server=db;Password=a://b".toList)
        = .ok (passwordOnly "db" "a://b")
      ∧ Settings.read "Server=db;Password=a://b" = .error .otherScheme := by
  refine ⟨?_, ?_, ?_, ?_⟩ <;> decide +kernel

end EntitySql.Connection
