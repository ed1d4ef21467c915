import EntitySql.Proofs.Connection.AddressPasswords
import EntitySql.Proofs.Connection.PairForm
import EntitySql.Proofs.Text.Percent
/-!
# How messages show a text

Messages show a connection string in one of three ways. An address with a password is shown with
stars in its place, and is written out in the form in which it was read. An address without a
password is shown as it is. What is no address is shown as pairs. Which of the three it is depends
on the whole text, for key-value pairs as well: some of them start like an address of a scheme that
browsers know, and then it is the value of a pair that decides whether there is a host.

## Main definitions

* `Showing`, `showing`: the three ways, and the one that a text is shown in.

## Main results

* `redact_of_pairs`, `redact_of_whole`, `redact_of_hidden`: what is shown.
* `Address.of_read`: what is known of every address.
* `Address.concealed_text_inj`: addresses that are shown alike differ in their passwords only.
* `infix_of_infix_redactPairs`: pairs are shown without a mark that they do not have.
-/

namespace EntitySql.Connection

open EntitySql.Text

/-! ### Three ways -/

/-- How messages show a text. -/
inductive Showing where
  | pairs
  | whole
  | hidden (a : Address)

/-- The way in which messages show a text. -/
def showing (s : String) : Showing :=
  match Address.read s.toList with
  | .ok (some a) => if a.password.isEmpty then .whole else .hidden a
  | .ok none => .whole
  | .error _ => .pairs

variable {s : String} {a b : Address}

/-- What is no address is shown as pairs. -/
theorem redact_of_pairs (way : showing s = .pairs) (equals : '=' ∈ s.toList) :
    redact s = String.ofList (redactPairs s.toList) := by
  have malformed : ¬IsAddress s := by
    rintro ⟨a?, read⟩
    rw [showing, read] at way
    cases a? with
    | none => cases way
    | some a =>
        dsimp only at way
        split at way <;> cases way
  rw [redact_of_not_isAddress malformed, if_pos equals]

/-- An address without a password is shown as it is. -/
theorem redact_of_whole (way : showing s = .whole) : redact s = s := by
  rw [showing] at way
  rw [redact]
  cases read : Address.read s.toList with
  | error problem =>
      rw [read] at way
      cases way
  | ok a? =>
      rw [read] at way
      cases a? with
      | none => rfl
      | some a =>
          dsimp only at way ⊢
          split at way
          · next none => exact if_pos none
          · cases way

/-- An address that is shown with stars is one that the text is read as. -/
theorem read_of_hidden (way : showing s = .hidden a) :
    Address.read s.toList = .ok (some a) ∧ a.password ≠ [] := by
  rw [showing] at way
  cases read : Address.read s.toList with
  | error problem =>
      rw [read] at way
      cases way
  | ok a? =>
      rw [read] at way
      cases a? with
      | none => cases way
      | some b =>
          dsimp only at way
          split at way
          · cases way
          · next some =>
              obtain rfl := Showing.hidden.inj way
              exact ⟨rfl, by simpa using some⟩

/-- An address with a password is shown with stars. -/
theorem redact_of_hidden (way : showing s = .hidden a) :
    redact s = String.ofList a.concealed.text := by
  obtain ⟨read, some⟩ := read_of_hidden way
  rw [redact, read]
  exact if_neg (by simpa using some)

/-! ### Addresses -/

/-- The server of an address does not change who logs in. -/
theorem eq_of_readServer {scheme user password rest : List Char} {kind : SchemeKind}
    (read : readServer scheme kind user password rest = .ok a) :
    a.scheme = scheme ∧ a.user = user := by
  rw [readServer] at read
  dsimp only at read
  split at read
  · cases read
  · split at read
    · cases read
    · cases ports : splitOptionalPort (splitHost kind false rest).2 with
      | error problem =>
          rw [ports] at read
          cases read
      | ok port =>
          rw [ports] at read
          obtain rfl := Except.ok.inj read
          exact ⟨rfl, rfl⟩

/-- The user of an address ends in front of its first colon. -/
theorem notMem_splitUser (login : List Char) : ':' ∉ (splitUser login).1 := by
  rw [splitUser]
  split <;> exact notMem_percentEncode (by decide) (by decide) _

/-- The host part gives a user without a colon. -/
theorem eq_of_readHostPart {scheme rest : List Char} {kind : SchemeKind}
    (read : readHostPart scheme kind rest = .ok a) : a.scheme = scheme ∧ ':' ∉ a.user := by
  rw [readHostPart] at read
  dsimp only at read
  split at read
  · cases read
  · obtain ⟨named, user⟩ := eq_of_readServer read
    exact ⟨named, user ▸ notMem_splitUser _⟩

/-- The scheme of an address is that of its text, and the user has no colon. -/
theorem Address.of_read {text : List Char} (read : Address.read text = .ok (some a)) :
    ∃ scheme rest, splitScheme? (cleaned text) = some (scheme, rest) ∧ a.scheme = scheme
      ∧ ':' ∉ a.user := by
  rw [Address.read] at read
  split at read
  · cases read
  · next scheme rest front =>
      refine ⟨scheme, rest, front, ?_⟩
      have inside {more : List Char} {kind : SchemeKind}
          (read : (readHostPart scheme kind more).map some = .ok (some a)) :
          a.scheme = scheme ∧ ':' ∉ a.user := by
        cases part : readHostPart scheme kind more with
        | error problem =>
            rw [part] at read
            cases read
        | ok b =>
            rw [part] at read
            obtain rfl : b = a := Option.some.inj (Except.ok.inj read)
            exact eq_of_readHostPart part
      have file {host : Except UrlProblem Unit}
          (read : (host.map fun _ => none) = .ok (some a)) : False := by
        cases host <;> cases read
      dsimp only at read
      split at read
      · exact inside read
      · exact inside read
      · cases read
      · split at read
        · exact (file read).elim
        · cases read
      · cases read

/-- An address with its password hidden, part by part. -/
theorem Address.text_concealed (a : Address) : a.concealed.text
    = a.scheme ++ (schemeMark ++ (a.user ++ ':' :: (stars ++ '@' :: a.server))) := by
  have server : a.concealed.server = a.server := rfl
  rw [Address.text, server]
  simp [Address.concealed, stars, schemeMark]

/-- **Addresses that are shown alike** have the same user and the same server. -/
theorem Address.concealed_text_inj (scheme : a.scheme = b.scheme) (left : ':' ∉ a.user)
    (right : ':' ∉ b.user) :
    a.concealed.text = b.concealed.text ↔ a.user = b.user ∧ a.server = b.server := by
  rw [text_concealed, text_concealed, scheme, List.append_cancel_left_eq,
    List.append_cancel_left_eq]
  constructor
  · intro same
    obtain ⟨user, behind⟩ := append_mark_inj left right same
    exact ⟨user, (List.cons.inj (List.append_cancel_left behind)).2⟩
  · rintro ⟨user, server⟩
    rw [user, server]

/-- An address that is shown with stars has the mark of addresses. -/
theorem Address.infix_text_concealed (a : Address) : schemeMark <:+: a.concealed.text := by
  rw [text_concealed]
  exact ⟨a.scheme, _, by rw [List.append_assoc]⟩

/-! ### Pairs -/

/-- The mark of addresses does not come from the stars of a pair. -/
theorem infix_of_infix_redactPair {s : List Char} (shown : schemeMark <:+: redactPair s) :
    schemeMark <:+: s := by
  rcases notMem_or_exists_cut '=' s with noEquals | ⟨key, value, noEquals, rfl⟩
  · rwa [redactPair, splitFirst?_of_notMem noEquals] at shown
  · rw [redactPair, splitFirst?_append noEquals] at shown
    dsimp only at shown
    split at shown
    · rw [infix_append_cons_iff (by decide)] at shown ⊢
      refine .inl (shown.resolve_right fun inStars => ?_)
      have colon : ':' ∈ stars := inStars.subset List.mem_cons_self
      exact absurd colon (by decide)
    · exact shown

/-- **Pairs are shown without a mark that they do not have**: it does not come from putting the
parts together either. -/
theorem infix_of_infix_redactPairs {s : List Char} (shown : schemeMark <:+: redactPairs s) :
    schemeMark <:+: s := by
  induction s using induction_cut ';' with
  | whole s absent =>
      rw [redactPairs_of_notMem absent] at shown
      exact infix_of_infix_redactPair shown
  | cut front behind absent ih =>
      rw [redactPairs_append, redactPairs_of_notMem absent, infix_append_cons_iff (by decide)]
        at shown
      rw [infix_append_cons_iff (by decide)]
      exact shown.imp infix_of_infix_redactPair ih

end EntitySql.Connection
