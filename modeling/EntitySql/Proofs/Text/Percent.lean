import EntitySql.Proofs.Text.Cutting
import EntitySql.Proofs.Text.Digit
import EntitySql.Proofs.Text.Utf8
/-!
# Percent decoding

A text that is percent-encoded decodes to its bytes, as long as the percent sign itself is not left
alone. The usual encoding leaves letters, digits and four marks alone. A text of these characters
and percent signs encodes what it decodes to, whatever digits it is written with; none of the marks
that divide addresses or pairs is in it, and reading it as a part of a query gives back the text.

## Main definitions

* `isUnreserved`: the characters that are left alone.
* `EncodedAs`: a text that is written in unreserved characters and percent signs.

## Main results

* `percentDecode_percentEncode`: encoding and decoding.
* `encodedAs_percentEncode`: the usual encoding.
* `EncodedAs.notMem`, `EncodedAs.percentEncode_eq`, `EncodedAs.queryDecode_eq`: what is encoded is
  not cut, not encoded again, and decoded in a query.
-/

namespace EntitySql.Text

/-! ### Decoding -/

/-- A hexadecimal digit is read as its value, in either case. -/
theorem hexValue?_hexDigit (case : HexCase) {d : Nat} (h : d < 16) :
    hexValue? (hexDigit case d) = some d := by
  have all : ∀ d < 16, hexValue? (hexDigit case d) = some d := by cases case <;> decide
  exact all d h

/-- A byte behind a percent sign is decoded. -/
theorem percentDecode_percentByte (b : UInt8) (rest : List Char) :
    percentDecode (percentByte b ++ rest) = b :: percentDecode rest := by
  have digits : percentByte b
      = ['%', hexDigit .upper (b.toNat / 16 % 16), hexDigit .upper (b.toNat % 16)] := rfl
  have byte : UInt8.ofNat (16 * (b.toNat / 16 % 16) + b.toNat % 16) = b := by
    have small := b.toNat_lt
    have whole : 16 * (b.toNat / 16 % 16) + b.toNat % 16 = b.toNat := by omega
    rw [whole, UInt8.ofNat_toNat]
  rw [digits]
  simp only [List.cons_append, List.nil_append, percentDecode,
    hexValue?_hexDigit .upper (Nat.mod_lt _ (by decide : 16 > 0)), byte]

/-- Encoded bytes are decoded one by one, in front of whatever follows. -/
theorem percentDecode_flatMap_percentByte (bytes : List UInt8) (rest : List Char) :
    percentDecode (bytes.flatMap percentByte ++ rest) = bytes ++ percentDecode rest := by
  induction bytes with
  | nil => rfl
  | cons b bytes ih =>
      rw [List.flatMap_cons, List.append_assoc, percentDecode_percentByte, ih, List.cons_append]

/-- A character other than the percent sign stands for itself. -/
theorem percentDecode_cons {c : Char} (other : c ≠ '%') (rest : List Char) :
    percentDecode (c :: rest) = String.utf8EncodeChar c ++ percentDecode rest := by
  rw [percentDecode]
  exact fun _ _ _ percent => absurd percent other

/-- A text without percent signs stands for itself. -/
theorem percentDecode_of_notMem {s : List Char} (absent : '%' ∉ s) : percentDecode s = utf8 s := by
  induction s with
  | nil => rfl
  | cons c rest ih =>
      obtain ⟨other, absent⟩ := List.ne_and_not_mem_of_not_mem_cons absent
      rw [percentDecode_cons (Ne.symm other), ih absent, utf8_cons]

/-- **What is encoded decodes to the bytes of the text**, if percent signs are encoded too. -/
theorem percentDecode_percentEncode {keep : Char → Bool} (percent : keep '%' = false)
    (s : List Char) : percentDecode (percentEncode keep s) = utf8 s := by
  induction s with
  | nil => rfl
  | cons c rest ih =>
      rw [utf8_cons, ← ih, percentEncode, List.flatMap_cons]
      cases kept : keep c with
      | true =>
          have other : c ≠ '%' := by
            rintro rfl
            rw [percent] at kept
            cases kept
          exact percentDecode_cons other _
      | false => exact percentDecode_flatMap_percentByte _ _

/-! ### Unreserved characters -/

/-- The characters that need no encoding anywhere. -/
def isUnreserved (c : Char) : Bool :=
  c.isAlphanum || c == '-' || c == '.' || c == '_' || c == '~'

/-- The characters of encoded texts. -/
def isEncodedChar (c : Char) : Bool :=
  isUnreserved c || c == '%'

/-- Encoded texts are in ASCII, so a class that holds their characters there holds them all. -/
theorem of_isEncodedChar {p : Char → Bool}
    (ascii : ∀ n < 128, isEncodedChar (Char.ofNat n) = true → p (Char.ofNat n) = true) {c : Char}
    (h : isEncodedChar c = true) : p c = true := by
  have small : c.toNat < 128 := by
    simp only [isEncodedChar, isUnreserved, Bool.or_eq_true, beq_iff_eq] at h
    rcases h with ((((letter | rfl) | rfl) | rfl) | rfl) | rfl
    · exact toNat_lt_of_isAlphanum letter
    all_goals decide
  rw [← Char.ofNat_toNat c] at h ⊢
  exact ascii c.toNat small h

/-- A text `t` is **encoded** as `s` if its characters are unreserved or percent signs and it
decodes to the bytes of `s`. -/
structure EncodedAs (s t : List Char) : Prop where
  chars : ∀ c ∈ t, isEncodedChar c = true
  decode : percentDecode t = utf8 s

/-- The characters of an encoded byte are those of encoded texts. -/
theorem isEncodedChar_of_mem_percentByte {b : UInt8} {c : Char} (member : c ∈ percentByte b) :
    isEncodedChar c = true := by
  rcases List.mem_cons.mp member with rfl | digit
  · rfl
  · simp [isEncodedChar, isUnreserved, isAlphanum_of_mem_hex digit]

/-- What is not kept and has no place in encoded bytes is not in an encoded text. -/
theorem notMem_percentEncode {keep : Char → Bool} {c : Char} (other : keep c = false)
    (plain : isEncodedChar c = false) (s : List Char) : c ∉ percentEncode keep s := by
  intro member
  obtain ⟨d, -, piece⟩ := List.mem_flatMap.mp member
  split at piece
  · next kept =>
      obtain rfl := List.mem_singleton.mp piece
      rw [other] at kept
      cases kept
  · obtain ⟨b, -, inByte⟩ := List.mem_flatMap.mp piece
    rw [isEncodedChar_of_mem_percentByte inByte] at plain
    cases plain

/-- **The usual encoding** of a text is an encoding. -/
theorem encodedAs_percentEncode (s : List Char) : EncodedAs s (percentEncode isUnreserved s) where
  decode := percentDecode_percentEncode (by decide) s
  chars := by
    intro c member
    obtain ⟨d, -, piece⟩ := List.mem_flatMap.mp member
    split at piece
    · next kept =>
        obtain rfl := List.mem_singleton.mp piece
        simp [isEncodedChar, kept]
    · obtain ⟨b, -, inByte⟩ := List.mem_flatMap.mp piece
      exact isEncodedChar_of_mem_percentByte inByte

namespace EncodedAs

variable {s t : List Char}

/-- No other character is in an encoded text. -/
theorem notMem (h : EncodedAs s t) {c : Char} (other : isEncodedChar c = false) : c ∉ t := by
  intro member
  rw [h.chars c member] at other
  cases other

/-- What is encoded is not encoded again. -/
theorem percentEncode_eq (h : EncodedAs s t) {keep : Char → Bool}
    (ascii : ∀ n < 128, isEncodedChar (Char.ofNat n) = true → keep (Char.ofNat n) = true) :
    percentEncode keep t = t :=
  percentEncode_of_kept fun c member => of_isEncodedChar ascii (h.chars c member)

/-- Encoding a text that is not empty leaves something. -/
theorem ne_nil (h : EncodedAs s t) (some : s ≠ []) : t ≠ [] := by
  rintro rfl
  exact some (utf8_injective h.decode.symm)

/-- A text in a query is decoded as it was. -/
theorem queryDecode_eq (h : EncodedAs s t) : queryDecode t = String.ofList s := by
  have plus : (t.map fun c => if c = '+' then ' ' else c) = t := by
    refine (List.map_congr_left fun c member => if_neg ?_).trans t.map_id
    rintro rfl
    exact h.notMem rfl member
  rw [queryDecode, plus, h.decode, ofUtf8Lenient_utf8]

end EncodedAs

end EntitySql.Text
