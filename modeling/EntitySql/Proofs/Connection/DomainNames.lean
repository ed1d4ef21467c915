import EntitySql.Connection.Host
import EntitySql.Proofs.Text.Joined
import EntitySql.Proofs.Text.Percent
import EntitySql.Proofs.Text.Punycode
/-!
# Domain names are read once

A domain name is brought into one form in ASCII. It has small letters only, since capitals stand for
others and nothing stands for a capital, and its labels in Punycode are those of labels that are
not in ASCII, since Punycode is read back. So there is nothing left to do when the form is read
again: an address that is shown with its host has the same host.

## Main definitions

* `IsDomainChar`: the characters that domain names are left with.

## Main results

* `itself_of_domainChar?`: what a character stands for stands for itself, if it is in ASCII.
* `asciiLabel?_itself`: a label in its form is left as it is.
* `domainName?_itself`, `domainHost_itself`: so are domain names and hosts.
-/

namespace EntitySql.Connection

open EntitySql.Text Punycode

variable {c d : Char} {s t label name : List Char}

/-! ### Characters -/

/-- Nothing stands for a capital. -/
theorem not_capital_of_domainPoint? {m n : Nat} (point : domainPoint? m = some n) :
    ¬(0x41 ≤ n ∧ n ≤ 0x5A) := by
  rw [domainPoint?] at point
  split at point
  · next low high pair =>
      have beyond : ∀ r ∈ domainPairs, 0x80 ≤ r.1 := by decide
      have first := beyond _ (List.mem_of_find?_eq_some pair)
      have inside := List.find?_some pair
      obtain rfl := Option.some.inj point
      simp only [Bool.and_eq_true, decide_eq_true_eq] at inside
      dsimp only at first
      omega
  · next none =>
      obtain ⟨⟨low, high, first⟩, range, rfl⟩ := Option.map_eq_some_iff.mp point
      have apart : ∀ r ∈ domainRanges, r.2.2 + (r.2.1 - r.1) < 0x41 ∨ 0x5A < r.2.2 := by decide
      have values := apart _ (List.mem_of_find?_eq_some range)
      have inside := List.find?_some range
      simp only [Bool.and_eq_true, decide_eq_true_eq] at inside
      dsimp only at values ⊢
      omega

/-- **What a character stands for stands for itself**, if it is in ASCII. -/
theorem itself_of_domainChar? (image : domainChar? c = some d) (ascii : d.toNat < 0x80) :
    domainChar? d = some d := by
  have fixed : ∀ n < 0x80, ¬(0x41 ≤ n ∧ n ≤ 0x5A) → domainPoint? n = some n := by decide +kernel
  obtain ⟨n, point, rfl⟩ := Option.map_eq_some_iff.mp image
  have small : ¬(0x41 ≤ (Char.ofNat n).toNat ∧ (Char.ofNat n).toNat ≤ 0x5A) := by
    by_cases valid : n.isValidChar
    · have kept : (Char.ofNat n).toNat = n := by
        rw [Char.ofNat, dif_pos valid]
        rfl
      rw [kept]
      exact not_capital_of_domainPoint? point
    · rw [Char.ofNat, dif_neg valid]
      decide
  rw [domainChar?, fixed _ ascii small, Option.map_some, Char.ofNat_toNat]

/-- A character that a domain name is left with: it is in ASCII, stands for itself and is allowed
in labels. -/
structure IsDomainChar (c : Char) : Prop where
  ascii : c.toNat < 0x80
  itself : domainChar? c = some c
  allowed : isForbiddenInDomain c = false
  noPoint : c ≠ '.'

/-- The digits of Punycode are left as they are. -/
theorem isDomainChar_digit36 {value : Nat} (small : value < 36) :
    IsDomainChar (digit36 value) := by
  have all : ∀ value < 36, (digit36 value).toNat < 0x80
      ∧ domainChar? (digit36 value) = some (digit36 value)
      ∧ isForbiddenInDomain (digit36 value) = false ∧ digit36 value ≠ '.' := by
    decide +kernel
  obtain ⟨ascii, itself, allowed, noPoint⟩ := all value small
  exact ⟨ascii, itself, allowed, noPoint⟩

/-- The hyphen is left as it is. -/
theorem isDomainChar_hyphen : IsDomainChar '-' where
  ascii := by decide
  itself := rfl
  allowed := rfl
  noPoint := by decide

/-- The mark of Punycode is left as it is: two of its characters are digits as well. -/
theorem isDomainChar_of_mem_punycodeMark (member : c ∈ punycodeMark) : IsDomainChar c := by
  obtain rfl | rfl | rfl : c = digit36 23 ∨ c = digit36 13 ∨ c = '-' := by
    simpa [punycodeMark, digit36] using member
  · exact isDomainChar_digit36 (by omega)
  · exact isDomainChar_digit36 (by omega)
  · exact isDomainChar_hyphen

/-- Punycode consists of the characters in ASCII, hyphens and digits. -/
theorem isDomainChar_of_mem_punycode
    (basic : ∀ c ∈ label, c.toNat < 0x80 → IsDomainChar c) (member : c ∈ punycode label) :
    IsDomainChar c := by
  rw [punycode] at member
  rcases List.mem_append.mp member with front | number
  · split at front
    · cases front
    · rcases List.mem_append.mp front with kept | hyphen
      · obtain ⟨inside, ascii⟩ := List.mem_filter.mp kept
        exact basic c inside (of_decide_eq_true ascii)
      · obtain rfl := List.mem_singleton.mp hyphen
        exact isDomainChar_hyphen
  · obtain ⟨value, small, rfl⟩ := exists_of_mem_numbersFrom number
    exact isDomainChar_digit36 small

/-! ### Labels -/

/-- **A label in its form is left as it is.** -/
theorem asciiLabel?_itself (basic : ∀ c ∈ label, c.toNat < 0x80 → IsDomainChar c)
    (written : asciiLabel? label = some t) :
    (∀ c ∈ t, IsDomainChar c) ∧ asciiLabel? t = some t := by
  by_cases ascii : isAsciiText label = true
  · have same : label = t := by
      rw [asciiLabel?, if_pos ascii] at written
      split at written
      · obtain ⟨text, -, kept⟩ := Option.bind_eq_some_iff.mp written
        split at kept
        · exact Option.some.inj kept
        · cases kept
      · exact Option.some.inj written
    subst same
    exact ⟨fun c member => basic c member (of_decide_eq_true (List.all_eq_true.mp ascii c member)),
      written⟩
  · rw [asciiLabel?, if_neg ascii] at written
    split at written
    · next writable =>
        obtain rfl := Option.some.inj written
        have chars : ∀ c ∈ punycodeMark ++ punycode label, IsDomainChar c := by
          intro c member
          rcases List.mem_append.mp member with mark | inside
          · exact isDomainChar_of_mem_punycodeMark mark
          · exact isDomainChar_of_mem_punycode basic inside
        have ascii : isAsciiText (punycodeMark ++ punycode label) = true :=
          List.all_eq_true.mpr fun c member => decide_eq_true (chars c member).ascii
        have marked : punycodeMark.isPrefixOf (punycodeMark ++ punycode label) = true :=
          List.isPrefixOf_iff_prefix.mpr (List.prefix_append _ _)
        have behind : (punycodeMark ++ punycode label).drop 4 = punycode label := rfl
        refine ⟨chars, ?_⟩
        rw [asciiLabel?, if_pos ascii, if_pos marked, behind, ofPunycode?_punycode,
          Option.bind_some, if_pos writable]
    · cases written

/-! ### Names -/

/-- A list is mapped to another one, if each item is. -/
theorem mapM_eq_some_iff {α β : Type} {f : α → Option β} {xs : List α} {ys : List β} :
    xs.mapM f = some ys ↔ xs.map f = ys.map some := by
  induction xs generalizing ys with
  | nil => cases ys <;> simp
  | cons x xs ih =>
      rw [List.mapM_cons, List.map_cons]
      cases ys with
      | nil => simp [Option.bind_eq_some_iff]
      | cons y ys => simp [Option.bind_eq_some_iff, ih]

/-- What items of a list are mapped to. -/
theorem exists_of_mem_mapM {α β : Type} {f : α → Option β} {xs : List α} {ys : List β} {y : β}
    (mapped : xs.mapM f = some ys) (member : y ∈ ys) : ∃ x ∈ xs, f x = some y := by
  rw [← List.mem_map, mapM_eq_some_iff.mp mapped]
  exact List.mem_map_of_mem member

/-- A list of items that are mapped to themselves is mapped to itself. -/
theorem mapM_itself {α : Type} {f : α → Option α} {xs : List α}
    (itself : ∀ x ∈ xs, f x = some x) : xs.mapM f = some xs :=
  mapM_eq_some_iff.mpr (List.map_congr_left itself)

/-- What has items is not mapped to nothing. -/
theorem mapM_ne_nil {α β : Type} {f : α → Option β} {xs : List α} {ys : List β}
    (mapped : xs.mapM f = some ys) (some : xs ≠ []) : ys ≠ [] := by
  rintro rfl
  exact some (List.map_eq_nil_iff.mp (mapM_eq_some_iff.mp mapped))

/-- A domain name in ASCII is put together of its labels. -/
theorem domainName?_eq_some_iff : domainName? s = some t ↔ ∃ name labels,
    s.mapM domainChar? = some name ∧ name.any isForbiddenInDomain = false
      ∧ (splitOn '.' name).mapM asciiLabel? = some labels
      ∧ t = (joined "." (labels.map String.ofList)).toList := by
  simp only [domainName?, Option.bind_eq_bind, Option.bind_eq_some_iff, Option.pure_def]
  refine exists_congr fun name => ?_
  by_cases forbidden : name.any isForbiddenInDomain = true
  · simp [forbidden]
  · simp only [forbidden, Bool.false_eq_true, if_false, Option.bind_eq_some_iff, Option.some.injEq,
      exists_and_left]
    simp [eq_comm]

/-- **A domain name in its form is left as it is.** Its characters are points and those that labels
are left with. -/
theorem domainName?_itself (read : domainName? s = some t) :
    (∀ c ∈ t, c = '.' ∨ IsDomainChar c) ∧ domainName? t = some t := by
  obtain ⟨name, labels, mapped, allowed, written, rfl⟩ := domainName?_eq_some_iff.mp read
  have basic : ∀ c ∈ name, c ≠ '.' → c.toNat < 0x80 → IsDomainChar c := by
    intro c member noPoint ascii
    obtain ⟨d, -, image⟩ := exists_of_mem_mapM mapped member
    refine ⟨ascii, itself_of_domainChar? image ascii, ?_, noPoint⟩
    simpa using List.any_eq_false.mp allowed c member
  have each : ∀ label ∈ labels, (∀ c ∈ label, IsDomainChar c)
      ∧ asciiLabel? label = some label := by
    intro label among
    obtain ⟨part, inside, image⟩ := exists_of_mem_mapM written among
    refine asciiLabel?_itself (fun c member => ?_) image
    obtain ⟨inName, noPoint⟩ := of_mem_splitOn inside member
    exact basic c inName noPoint
  have chars : ∀ c ∈ (joined "." (labels.map String.ofList)).toList,
      c = '.' ∨ IsDomainChar c := by
    intro c member
    rcases mem_joined member with point | ⟨piece, among, inside⟩
    · exact .inl (List.mem_singleton.mp point)
    · obtain ⟨label, inLabels, rfl⟩ := List.mem_map.mp among
      rw [String.toList_ofList] at inside
      exact .inr ((each label inLabels).1 c inside)
  have parts : splitOn '.' (joined "." (labels.map String.ofList)).toList = labels := by
    have some := mapM_ne_nil written (splitOn_ne_nil '.' name)
    have plain : ∀ piece ∈ labels.map String.ofList, '.' ∉ piece.toList := by
      intro piece among point
      obtain ⟨label, inLabels, rfl⟩ := List.mem_map.mp among
      rw [String.toList_ofList] at point
      exact ((each label inLabels).1 '.' point).noPoint rfl
    have cut := splitOn_joined (mt List.map_eq_nil_iff.mp some) plain
    refine cut.trans ?_
    rw [List.map_map]
    exact (List.map_congr_left fun label _ => String.toList_ofList).trans labels.map_id
  refine ⟨chars, domainName?_eq_some_iff.mpr ⟨_, labels, mapM_itself ?_, ?_, ?_, rfl⟩⟩
  · intro c member
    rcases chars c member with rfl | char
    · decide
    · exact char.itself
  · refine List.any_eq_false.mpr fun c member => ?_
    rcases chars c member with rfl | char
    · decide
    · simp [char.allowed]
  · rw [parts]
    exact mapM_itself fun label among => (each label among).2

-- The capital becomes a small letter, and the label with the umlaut is written in Punycode.
example : domainName? "Bücher.example".toList = some "xn--bcher-kva.example".toList := by
  cbv

/-- **A host in the form of a domain name is left as it is**, so the host of an address is the same
when the address is read again. -/
theorem domainHost_itself (read : domainName? s = some t) (some : t ≠ [])
    (noNumber : endsInNumber t = false) : domainHost t = .ok t := by
  obtain ⟨chars, itself⟩ := domainName?_itself read
  have forbidden {c : Char} (forbids : isForbiddenInDomain c = true) (other : c ≠ '.') : c ∉ t := by
    intro member
    have allowed := ((chars c member).resolve_left other).allowed
    rw [forbids] at allowed
    cases allowed
  have unbracketed : t.head? ≠ Option.some '[' := fun head =>
    forbidden (by decide) (by decide) (List.mem_of_head? head)
  have bytes : percentDecode t = utf8 t :=
    percentDecode_of_notMem (forbidden (by decide) (by decide))
  rw [domainHost, if_neg unbracketed, bytes, ofUtf8Lenient_utf8, itself]
  dsimp only
  rw [if_neg (by simpa using some), if_neg (by simp [noNumber])]

end EntitySql.Connection
