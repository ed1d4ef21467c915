import EntitySql.Proofs.Statement.Parameter
import Mathlib.Data.List.Nodup
/-!
# Declarations

A batch declares its named parameters, one line each, and every line takes its value from a
positional name of the protocol. This module says which names are refused, reads the lines as
declarations, and tells declared names from positional ones: they differ in more than the case of
their letters.

## Main definitions

* `IsReserved`, `isPositionalByBytes?`: the refused names, and the check on the bytes of a name.
* `Declaration`, `Declaration.text`, `declared`: the lines for parameters.

## Main results

* `isPositional_iff`, `isPositionalByBytes?_eq`: the check finds the reserved names and never
  splits a character.
* `declarationsFrom_of_free`, `declarationsFrom_of_reserved`: what is written for parameters.
* `IsReserved.of_toLower_eq`: a name that is positional but for its case is reserved.
-/

namespace EntitySql

open EntitySql.Text

/-! ### Reserved names -/

/-- The bare names that the protocol keeps for positions: the letter P of either case and decimal
digits, at least one. -/
def IsReserved (name : String) : Prop :=
  ∃ letter digits, (letter = 'P' ∨ letter = 'p') ∧ digits ≠ [] ∧
    (∀ c ∈ digits, c.isDigit = true) ∧ name.toList = letter :: digits

/-- The check finds the reserved names. -/
theorem isPositional_iff {name : String} : isPositional name = true ↔ IsReserved name := by
  have digits (rest : List Char) : (!rest.isEmpty && rest.all Char.isDigit) = true ↔
      rest ≠ [] ∧ ∀ c ∈ rest, c.isDigit = true := by
    simp
  rw [isPositional]
  constructor
  · intro positional
    split at positional
    next rest chars => exact ⟨'P', rest, .inl rfl, ((digits rest).mp positional).1,
        ((digits rest).mp positional).2, chars⟩
    next rest chars => exact ⟨'p', rest, .inr rfl, ((digits rest).mp positional).1,
        ((digits rest).mp positional).2, chars⟩
    next => cases positional
  · rintro ⟨letter, rest, rfl | rfl, some, all, chars⟩
    · rw [chars]
      exact (digits rest).mpr ⟨some, all⟩
    · rw [chars]
      exact (digits rest).mpr ⟨some, all⟩

/-- The characters behind so many bytes, unless there are not so many or they end inside a
character. -/
def behindBytes? : Nat → List Char → Option (List Char)
  | 0, s => some s
  | _ + 1, [] => none
  | n + 1, c :: rest => if c.utf8Size ≤ n + 1 then behindBytes? (n + 1 - c.utf8Size) rest else none

/-- The check of a bare name whose digits are found behind its first byte. It fails where that
byte does not end a character. -/
def isPositionalByBytes? (name : String) : Option Bool :=
  match name.toList.head? with
  | some 'P' | some 'p' =>
      (behindBytes? 1 name.toList).map fun digits => !digits.isEmpty && digits.all Char.isDigit
  | _ => some false

/-- A letter of one byte ends with it. -/
theorem behindBytes?_cons {c : Char} (single : c.utf8Size = 1) (rest : List Char) :
    behindBytes? 1 (c :: rest) = some rest := by
  rw [behindBytes?, if_pos (Nat.le_of_eq single), single, behindBytes?]

/-- The check on bytes does not fail, since it looks behind the first byte of a letter only. -/
theorem isPositionalByBytes?_eq (name : String) :
    isPositionalByBytes? name = some (isPositional name) := by
  rw [isPositionalByBytes?, isPositional]
  cases chars : name.toList with
  | nil => rfl
  | cons c rest =>
      rw [List.head?_cons]
      split
      next letter =>
        obtain rfl := Option.some.inj letter
        rw [behindBytes?_cons rfl]
        rfl
      next letter =>
        obtain rfl := Option.some.inj letter
        rw [behindBytes?_cons rfl]
        rfl
      next upper lower =>
        split
        next digits same => exact absurd (congrArg List.head? same) upper
        next digits same => exact absurd (congrArg List.head? same) lower
        next => rfl

/-- Behind the first byte of a character of two there is no text. -/
example : behindBytes? 1 ['é', '1'] = none := by decide

/-! ### Lines -/

/-- A line that declares a variable of a type and gives it the value of a position. -/
structure Declaration where
  /-- The name of the variable, without a marker. -/
  name : String
  type : ColumnType
  position : Nat
  deriving DecidableEq

/-- The name that the protocol binds a position to. -/
def positionalName (position : Nat) : String :=
  "@P" ++ natText position

namespace Declaration

/-- The text that refers to the variable. -/
def reference (d : Declaration) : String :=
  "@" ++ d.name

/-- The text of the line. -/
def text (d : Declaration) : String :=
  "DECLARE " ++ d.reference ++ " " ++ d.type.written ++ " = " ++ positionalName d.position ++ ";\n"

/-- The line for a parameter at a position. -/
def ofParameter (position : Nat) (p : Parameter) : Declaration :=
  ⟨p.bareName, p.value.columnType, position⟩

/-- The line of a parameter has the text that a batch puts for it. -/
theorem text_ofParameter (position : Nat) (p : Parameter) :
    (ofParameter position p).text = declaration position p := by
  have words : " = @P" = " = " ++ "@P" := by decide
  have line : (ofParameter position p).text
      = "DECLARE " ++ p.reference ++ " " ++ p.value.columnType.written ++ " = "
        ++ ("@P" ++ natText position) ++ ";\n" :=
    rfl
  unfold declaration
  rw [line, words]
  simp only [String.append_assoc]

end Declaration

/-- The lines for parameters at positions from a given one on. -/
def declaredFrom (position : Nat) (parameters : List Parameter) : List Declaration :=
  (parameters.zipIdx position).map fun x => .ofParameter x.2 x.1

/-- The lines for parameters, at the positions from one on. -/
def declared (parameters : List Parameter) : List Declaration :=
  declaredFrom 1 parameters

/-- The first parameter has the first position, and the others those behind it. -/
theorem declaredFrom_cons (position : Nat) (p : Parameter) (rest : List Parameter) :
    declaredFrom position (p :: rest)
      = .ofParameter position p :: declaredFrom (position + 1) rest :=
  rfl

/-- The lines declare the parameters in order. -/
theorem map_reference_declared (parameters : List Parameter) :
    (declared parameters).map Declaration.reference = parameters.map Parameter.reference := by
  have names : (Declaration.reference ∘ fun x : Parameter × Nat => .ofParameter x.2 x.1)
      = Parameter.reference ∘ Prod.fst :=
    rfl
  rw [declared, declaredFrom, List.map_map, names, ← List.map_map, List.zipIdx_map_fst]

/-- A parameter has a line with its position. -/
theorem mem_declared {place : Nat} {parameters : List Parameter}
    (inside : place < parameters.length) :
    .ofParameter (1 + place) parameters[place] ∈ declared parameters := by
  refine List.mem_map.mpr ⟨(parameters[place], 1 + place), ?_, rfl⟩
  rw [List.mem_zipIdx_iff_le_and_getElem?_sub]
  refine ⟨Nat.le_add_right 1 place, ?_⟩
  rw [Nat.add_sub_cancel_left, List.getElem?_eq_getElem inside]

/-! ### What is written -/

/-- Parameters without reserved names are declared line by line. -/
theorem declarationsFrom_of_free {parameters : List Parameter}
    (free : ∀ p ∈ parameters, ¬IsReserved p.bareName) (position : Nat) :
    declarationsFrom position parameters
      = ⟨String.join ((declaredFrom position parameters).map Declaration.text), .ok ()⟩ := by
  induction parameters generalizing position with
  | nil => rfl
  | cons p rest ih =>
      obtain ⟨first, others⟩ := List.forall_mem_cons.mp free
      rw [declarationsFrom, if_neg (mt isPositional_iff.mp first), ih others, Written.write_bind,
        declaredFrom_cons, List.map_cons, String.join_cons, Declaration.text_ofParameter]

/-- The first reserved name stops the lines. -/
theorem declarationsFrom_of_reserved {front behind : List Parameter} {p : Parameter}
    (free : ∀ p ∈ front, ¬IsReserved p.bareName) (reserved : IsReserved p.bareName)
    (position : Nat) :
    (declarationsFrom position (front ++ p :: behind)).result
      = .error (.invalidQuery (.reservedName p.bareName)) := by
  induction front generalizing position with
  | nil =>
      rw [List.nil_append, declarationsFrom, if_pos (isPositional_iff.mpr reserved)]
      rfl
  | cons q rest ih =>
      obtain ⟨first, others⟩ := List.forall_mem_cons.mp free
      rw [List.cons_append, declarationsFrom, if_neg (mt isPositional_iff.mp first),
        Written.write_bind]
      exact ih others (position + 1)

/-! ### Names and their case -/

/-- A character is small already or a capital letter, which stands 32 places in front of the small
one. -/
theorem toLower_cases (c : Char) :
    c.toLower = c ∨ ('A'.val ≤ c.val ∧ c.val ≤ 'Z'.val) ∧ c.toLower.val = c.val + 32 := by
  by_cases upper : 'A'.val ≤ c.val ∧ c.val ≤ 'Z'.val
  · exact .inr ⟨upper, congrArg Char.val (dif_pos upper)⟩
  · exact .inl (dif_neg upper)

/-- A text in lower case is its characters in lower case. -/
theorem toList_toLower (s : String) : s.toLower.toList = s.toList.map Char.toLower :=
  String.toList_map

/-- A character that is a small P but for its case is the letter P. -/
theorem letter_of_toLower_eq {c : Char} (h : c.toLower = 'p') : c = 'P' ∨ c = 'p' := by
  rcases toLower_cases c with same | ⟨-, shifted⟩
  · exact .inr (same.symm.trans h)
  · refine .inl (Char.ext ?_)
    rw [h] at shifted
    have unshifted := congrArg (· - 32) shifted
    simpa using unshifted.symm

/-- Digits have no case. -/
theorem eq_of_toLower_eq_digit {c d : Char} (digit : d.isDigit = true) (h : c.toLower = d) :
    c = d := by
  subst h
  rcases toLower_cases c with same | ⟨upper, shifted⟩
  · exact same.symm
  · exfalso
    simp [Char.isDigit, shifted, UInt32.le_iff_toNat_le] at digit upper
    omega

/-- Digits have no case. -/
theorem map_toLower_numeral (n : Nat) : (numeral n).map Char.toLower = numeral n := by
  have digits : ∀ c ∈ numeral n, c.toLower = c := by
    intro c member
    have digit := isDigit_of_mem_numeral member
    rcases toLower_cases c with same | ⟨upper, -⟩
    · exact same
    · exfalso
      simp [Char.isDigit, UInt32.le_iff_toNat_le] at digit upper
      omega
  exact List.map_congr_left digits |>.trans (List.map_id _)

/-- Positional names in small letters. -/
theorem toList_toLower_positionalName (position : Nat) :
    (positionalName position).toLower.toList = '@' :: 'p' :: numeral position := by
  have marker : "@P".toList = ['@', 'P'] := by decide
  rw [toList_toLower, positionalName, String.toList_append, List.map_append, marker, natText,
    String.toList_ofList, map_toLower_numeral]
  rfl

/-- **A name that is positional but for its case is reserved.** -/
theorem IsReserved.of_toLower_eq {name : String} {position : Nat}
    (same : ("@" ++ name).toLower = (positionalName position).toLower) : IsReserved name := by
  have chars := congrArg String.toList same
  have marker : "@".toList = ['@'] := by decide
  rw [toList_toLower_positionalName, toList_toLower, String.toList_append, marker,
    List.singleton_append, List.map_cons] at chars
  obtain ⟨letter, digits, name', first, rest⟩ := List.map_eq_cons_iff.mp (List.cons.inj chars).2
  refine ⟨letter, digits, letter_of_toLower_eq first, ?_, ?_, name'⟩
  · rintro rfl
    exact numeral_ne_nil position rest.symm
  · intro c member
    have digit : c.toLower ∈ numeral position := rest ▸ List.mem_map_of_mem member
    have number := isDigit_of_mem_numeral digit
    rwa [← eq_of_toLower_eq_digit number rfl] at number

/-- Names of different positions are different, whatever their case. -/
theorem positionalName_toLower_injective {i j : Nat}
    (same : (positionalName i).toLower = (positionalName j).toLower) : i = j := by
  have chars := congrArg String.toList same
  rw [toList_toLower_positionalName, toList_toLower_positionalName] at chars
  exact numeral_injective (List.cons.inj (List.cons.inj chars).2).2

end EntitySql
