import EntitySql.Text.Utf8
/-!
# Reading UTF-8 back

What stands at the front of the bytes of a text is its first character: the first byte tells how
many there are, the others have six bits each, and the bounds of the second byte shut out longer
encodings than necessary, surrogates, and numbers that are too large. So a text is read back from
its bytes, strictly and leniently, and texts with the same bytes are equal.

## Main results

* `leading_utf8`: the character at the front of its bytes.
* `ofUtf8_utf8`, `ofUtf8Lenient_utf8`: a text is read back.
* `ofUtf8_take_utf8`: bytes that are cut between two characters.
* `utf8_injective`: the bytes tell the text.
-/

namespace EntitySql.Text

/-! ### Bytes by their numbers -/

section

variable {a b c d low high : UInt8} {w x y z : Nat}

/-- A byte that continues a character has six bits. -/
theorem continuation?_eq (byte : b.toNat = x + 0x80) (six : x < 64) :
    continuation? b = some x := by
  have range : 0x80 ≤ b ∧ b ≤ 0xBF := by
    simp only [UInt8.le_iff_toNat_le, UInt8.reduceToNat]
    omega
  rw [continuation?, if_pos range, byte, Nat.add_sub_cancel]

/-- The bytes behind the first one of three. -/
theorem leadingThree_eq (above : low ≤ b) (below : b ≤ high) (second : b.toNat = y + 0x80)
    (third : c.toNat = z + 0x80) (six : z < 64) (payload : Nat) (rest : List UInt8) :
    leadingThree payload low high (b :: c :: rest)
      = .char (Char.ofNat ((payload * 64 + y) * 64 + z)) 3 := by
  have within : ¬(b < low ∨ high < b) :=
    not_or.mpr ⟨UInt8.not_lt.mpr above, UInt8.not_lt.mpr below⟩
  rw [leadingThree, if_neg within]
  simp only [continuation?_eq third six, second, Nat.add_sub_cancel]

/-- The bytes behind the first one of four. -/
theorem leadingFour_eq (above : low ≤ b) (below : b ≤ high) (second : b.toNat = x + 0x80)
    (third : c.toNat = y + 0x80) (six : y < 64) (fourth : d.toNat = z + 0x80) (six' : z < 64)
    (payload : Nat) (rest : List UInt8) :
    leadingFour payload low high (b :: c :: d :: rest)
      = .char (Char.ofNat (((payload * 64 + x) * 64 + y) * 64 + z)) 4 := by
  have within : ¬(b < low ∨ high < b) :=
    not_or.mpr ⟨UInt8.not_lt.mpr above, UInt8.not_lt.mpr below⟩
  rw [leadingFour, if_neg within]
  simp only [continuation?_eq third six, continuation?_eq fourth six', second, Nat.add_sub_cancel]

/-- One byte. -/
theorem leading_one (ascii : a.toNat < 0x80) (rest : List UInt8) :
    leading a rest = .char (Char.ofNat a.toNat) 1 := by
  rw [leading, if_pos (UInt8.lt_iff_toNat_lt.mpr ascii)]

/-- Two bytes, unless one would do. -/
theorem leading_two (first : a.toNat = x + 0xC0) (five : x < 32) (shortest : 2 ≤ x)
    (second : b.toNat = y + 0x80) (six : y < 64) (rest : List UInt8) :
    leading a (b :: rest) = .char (Char.ofNat (x * 64 + y)) 2 := by
  have long : ¬a < 0x80 := by
    simp only [UInt8.lt_iff_toNat_lt, UInt8.reduceToNat]
    omega
  have range : 0xC2 ≤ a ∧ a ≤ 0xDF := by
    simp only [UInt8.le_iff_toNat_le, UInt8.reduceToNat]
    omega
  rw [leading, if_neg long, if_pos range, leadingTwo, continuation?_eq second six, first,
    Nat.add_sub_cancel]

/-- The first byte of three bounds the second one. -/
theorem leading_eq_leadingThree (first : a.toNat = x + 0xE0) (four : x < 16) (rest : List UInt8) :
    leading a rest
      = leadingThree x (if x = 0 then 0xA0 else 0x80) (if x = 13 then 0x9F else 0xBF) rest := by
  have conditions : ¬a < 0x80 ∧ ¬(0xC2 ≤ a ∧ a ≤ 0xDF) := by
    simp only [UInt8.lt_iff_toNat_lt, UInt8.le_iff_toNat_le, UInt8.reduceToNat]
    omega
  rw [leading, if_neg conditions.1, if_neg conditions.2]
  by_cases zero : x = 0
  · have byte : a = 0xE0 := UInt8.toNat_inj.mp (by rw [first, zero]; rfl)
    rw [if_pos byte, zero]
    rfl
  · by_cases thirteen : x = 13
    · have byte : a = 0xED := UInt8.toNat_inj.mp (by rw [first, thirteen]; rfl)
      rw [byte, thirteen]
      rfl
    · have others : ¬a = 0xE0 ∧ ¬a = 0xED ∧ 0xE1 ≤ a ∧ a ≤ 0xEF := by
        simp only [← UInt8.toNat_inj, UInt8.le_iff_toNat_le, UInt8.reduceToNat]
        omega
      rw [if_neg others.1, if_neg others.2.1, if_pos others.2.2, if_neg zero, if_neg thirteen,
        first, Nat.add_sub_cancel]

/-- Three bytes, unless two would do, for what is no surrogate. -/
theorem leading_three (first : a.toNat = x + 0xE0) (four : x < 16)
    (second : b.toNat = y + 0x80) (six : y < 64) (third : c.toNat = z + 0x80) (six' : z < 64)
    (shortest : x = 0 → 32 ≤ y) (noSurrogate : x = 13 → y < 32) (rest : List UInt8) :
    leading a (b :: c :: rest) = .char (Char.ofNat ((x * 64 + y) * 64 + z)) 3 := by
  rw [leading_eq_leadingThree first four]
  refine leadingThree_eq ?_ ?_ second third six' x rest
  · split <;> simp only [UInt8.le_iff_toNat_le, UInt8.reduceToNat] <;> omega
  · split <;> simp only [UInt8.le_iff_toNat_le, UInt8.reduceToNat] <;> omega

/-- The first byte of four bounds the second one. -/
theorem leading_eq_leadingFour (first : a.toNat = w + 0xF0) (fits : w ≤ 4) (rest : List UInt8) :
    leading a rest
      = leadingFour w (if w = 0 then 0x90 else 0x80) (if w = 4 then 0x8F else 0xBF) rest := by
  have conditions : ¬a < 0x80 ∧ ¬(0xC2 ≤ a ∧ a ≤ 0xDF) ∧ ¬a = 0xE0 ∧ ¬a = 0xED
      ∧ ¬(0xE1 ≤ a ∧ a ≤ 0xEF) := by
    simp only [← UInt8.toNat_inj, UInt8.lt_iff_toNat_lt, UInt8.le_iff_toNat_le,
      UInt8.reduceToNat]
    omega
  obtain ⟨one, two, three, three', three''⟩ := conditions
  rw [leading, if_neg one, if_neg two, if_neg three, if_neg three', if_neg three'']
  by_cases zero : w = 0
  · have byte : a = 0xF0 := UInt8.toNat_inj.mp (by rw [first, zero]; rfl)
    rw [if_pos byte, zero]
    rfl
  · by_cases last : w = 4
    · have byte : a = 0xF4 := UInt8.toNat_inj.mp (by rw [first, last]; rfl)
      rw [byte, last]
      rfl
    · have others : ¬a = 0xF0 ∧ 0xF1 ≤ a ∧ a ≤ 0xF3 := by
        simp only [← UInt8.toNat_inj, UInt8.le_iff_toNat_le, UInt8.reduceToNat]
        omega
      rw [if_neg others.1, if_pos others.2, if_neg zero, if_neg last, first, Nat.add_sub_cancel]

/-- Four bytes, unless three would do, for a number that is not too large. -/
theorem leading_four (first : a.toNat = w + 0xF0) (fits : w ≤ 4)
    (second : b.toNat = x + 0x80) (six : x < 64) (third : c.toNat = y + 0x80) (six' : y < 64)
    (fourth : d.toNat = z + 0x80) (six'' : z < 64) (shortest : w = 0 → 16 ≤ x)
    (small : w = 4 → x < 16) (rest : List UInt8) :
    leading a (b :: c :: d :: rest)
      = .char (Char.ofNat (((w * 64 + x) * 64 + y) * 64 + z)) 4 := by
  rw [leading_eq_leadingFour first fits]
  refine leadingFour_eq ?_ ?_ second third six' fourth six'' w rest
  · split <;> simp only [UInt8.le_iff_toNat_le, UInt8.reduceToNat] <;> omega
  · split <;> simp only [UInt8.le_iff_toNat_le, UInt8.reduceToNat] <;> omega

end

/-! ### The bytes of a character -/

/-- The number of a byte that is made of a small number, with the bound in the form that `omega`
proves. -/
theorem toNat_ofNat_byte {n : Nat} (fits : n < 256) : (UInt8.ofNat n).toNat = n :=
  UInt8.toNat_ofNat_of_lt' fits

/-- A character has a number below the end of the code space that is no surrogate. -/
theorem toNat_valid (c : Char) : c.toNat < 0xD800 ∨ 0xDFFF < c.toNat ∧ c.toNat < 0x110000 :=
  c.valid

/-- **The character at the front of its bytes.** -/
theorem leading_utf8 (c : Char) : ∃ b more, String.utf8EncodeChar c = b :: more ∧
    ∀ rest, leading b (more ++ rest) = .char c (more.length + 1) := by
  have valid := toNat_valid c
  have whole {n : Nat} (same : n = c.toNat) : Char.ofNat n = c := by rw [same, Char.ofNat_toNat]
  have number : c.val.toNat = c.toNat := rfl
  generalize c.toNat = n at valid whole number
  simp only [String.utf8EncodeChar, number]
  split
  · have byte : (UInt8.ofNat n).toNat = n := toNat_ofNat_byte (by omega)
    refine ⟨_, _, rfl, fun rest => ?_⟩
    rw [leading_one (by omega), byte, whole rfl]
    rfl
  · split
    · have first : (UInt8.ofNat (n / 64 % 32 + 192)).toNat = n / 64 % 32 + 0xC0 :=
        toNat_ofNat_byte (by omega)
      refine ⟨_, _, rfl, fun rest => ?_⟩
      rw [List.singleton_append,
        leading_two first (by omega) (by omega) (toNat_ofNat_byte (by omega)) (by omega),
        whole (by omega)]
      rfl
    · split
      · have first : (UInt8.ofNat (n / 4096 % 16 + 224)).toNat = n / 4096 % 16 + 0xE0 :=
          toNat_ofNat_byte (by omega)
        refine ⟨_, _, rfl, fun rest => ?_⟩
        rw [List.cons_append, List.singleton_append,
          leading_three first (by omega) (toNat_ofNat_byte (by omega)) (by omega)
            (toNat_ofNat_byte (by omega)) (by omega) (by omega) (by omega),
          whole (by omega)]
        rfl
      · have first : (UInt8.ofNat (n / 262144 % 8 + 240)).toNat = n / 262144 % 8 + 0xF0 :=
          toNat_ofNat_byte (by omega)
        refine ⟨_, _, rfl, fun rest => ?_⟩
        rw [List.cons_append, List.cons_append, List.singleton_append,
          leading_four first (by omega) (toNat_ofNat_byte (by omega)) (by omega)
            (toNat_ofNat_byte (by omega)) (by omega) (toNat_ofNat_byte (by omega)) (by omega)
            (by omega) (by omega),
          whole (by omega)]
        rfl

/-! ### Texts -/

/-- The bytes of a text are those of its first character and those of the rest. -/
theorem utf8_cons (c : Char) (s : List Char) : utf8 (c :: s) = String.utf8EncodeChar c ++ utf8 s :=
  rfl

/-- Texts side by side have their bytes side by side. -/
theorem utf8_append (s t : List Char) : utf8 (s ++ t) = utf8 s ++ utf8 t :=
  List.flatMap_append

/-- Bytes that are written for a text are read back as the text, wherever the reader has come to. -/
theorem ofUtf8From_utf8 (index : Nat) (s : List Char) : ofUtf8From index (utf8 s) = .ok s := by
  induction s generalizing index with
  | nil => rw [utf8, List.flatMap_nil, ofUtf8From]
  | cons c rest ih =>
      obtain ⟨b, more, bytes, front⟩ := leading_utf8 c
      rw [utf8_cons, bytes, List.cons_append, ofUtf8From, front]
      simp only [Nat.add_sub_cancel, List.drop_left, ih]
      rfl

/-- **A text is read back** from its bytes. -/
theorem ofUtf8_utf8 (s : List Char) : ofUtf8 (utf8 s) = .ok s :=
  ofUtf8From_utf8 0 s

/-- As many bytes of a text as a part in front of it has are the part. -/
theorem ofUtf8_take_utf8 {s t : List Char} (front : t <+: s) :
    ofUtf8 ((utf8 s).take (utf8 t).length) = .ok t := by
  obtain ⟨rest, rfl⟩ := front
  rw [utf8_append, List.take_left, ofUtf8_utf8]

/-- Lenient reading has nothing to replace in the bytes of a text. -/
theorem ofUtf8Lenient_utf8 (s : List Char) : ofUtf8Lenient (utf8 s) = s := by
  induction s with
  | nil => rw [utf8, List.flatMap_nil, ofUtf8Lenient]
  | cons c rest ih =>
      obtain ⟨b, more, bytes, front⟩ := leading_utf8 c
      rw [utf8_cons, bytes, List.cons_append, ofUtf8Lenient, front]
      simp only [Nat.add_sub_cancel, List.drop_left, ih]

/-- The bytes tell the text. -/
theorem utf8_injective {s t : List Char} (same : utf8 s = utf8 t) : s = t := by
  rw [← ofUtf8Lenient_utf8 s, same, ofUtf8Lenient_utf8]

end EntitySql.Text
