import EntitySql.Proofs.Connection.Login
import EntitySql.Proofs.Connection.ShownPairs
import EntitySql.Proofs.Text.Prefix
import EntitySql.Wire.Login
/-!
# Passwords of addresses

To show an address with stars for its password is to read it first. A text that starts like an
address with a password and is none, say because its port is too large, is shown with its password:
as it is, or as key-value pairs, none of which is the address. So two passwords are shown alike if
what follows them makes both texts addresses, and not otherwise, and the fault of an address that
does not parse tells the password every time.

## Main results

* `redact_of_not_isAddress`: what is shown of a text that is no address.
* `exists_redact_of_isAddress`, `exists_redact_of_not_isAddress`: what is shown of an address with
  a password, and of a text that starts like one.
* `redact_loginAddress_eq_iff`: when messages do not depend on the password.
-/

namespace EntitySql.Connection

open EntitySql.Text

variable {user password rest : String}

/-! ### Texts that start like an address -/

/-- In two addresses of one user that are the same text the passwords are the same words: each ends
at the first `@`. -/
theorem loginAddress_password_inj {first second shown shown' : String} (h₁ : IsWord first)
    (h₂ : IsWord second) (same : loginAddress user first shown = loginAddress user second shown') :
    first = second := by
  have noMark {word : String} (h : IsWord word) : '@' ∉ word.toList := fun member =>
    absurd (h.alphanumeric '@' member) (by decide)
  have texts := congrArg String.toList same
  simp only [toList_loginAddress, loginStart, List.append_assoc, List.cons_append,
    List.append_cancel_left_eq, List.cons.injEq, true_and] at texts
  exact String.toList_inj.mp (append_mark_inj (noMark h₁) (noMark h₂) texts).1

/-- Whether the address of a user with a password is one does not depend on who logs in. -/
theorem isAddress_loginAddress_iff {other : String} (hu : IsWord user) (hp : IsWord password)
    (ho : IsWord other) :
    IsAddress (loginAddress user password rest) ↔ IsAddress (loginAddress user other rest) := by
  obtain ⟨outcome, more, read⟩ := exists_read_loginAddress rest
  rw [IsAddress, IsAddress, read hu hp, read hu ho]
  cases outcome <;> simp [Except.map]

/-- An address is shown with stars for its password, and nothing else depends on who logs in. -/
theorem exists_redact_of_isAddress (rest : String) :
    ∃ shown, ∀ {user password : String}, IsWord user → IsWord password →
      IsAddress (loginAddress user password rest) →
      redact (loginAddress user password rest) = loginAddress user "***" shown := by
  obtain ⟨outcome, more, read⟩ := exists_read_loginAddress rest
  cases outcome with
  | error problem =>
      refine ⟨"", fun hu hp address => ?_⟩
      obtain ⟨a, readable⟩ := address
      rw [read hu hp] at readable
      cases readable
  | ok a =>
      refine ⟨String.ofList a.server, fun {user password} hu hp _ => ?_⟩
      have noted : user.toList ≠ [] := fun none => hu.nonempty (String.toList_eq_nil_iff.mp none)
      have hidden : password.toList ≠ [] := fun none =>
        hp.nonempty (String.toList_eq_nil_iff.mp none)
      rw [redact, read hu hp]
      dsimp only [Except.map]
      rw [if_neg (by simp [hidden]),
        Address.text_of_login noted (by simp [Address.concealed, stars])]
      exact String.toList_inj.mp (by simp [toList_loginAddress, loginStart,
        Settings.addressStart, Address.concealed, Address.server, stars])

/-- What stands in front of a text that starts like an address with a password is no key. -/
theorem isPasswordKey_loginAddress (s : List Char) :
    isPasswordKey (Settings.addressStart ++ s) = false := by
  refine Bool.eq_false_iff.mpr fun key => ?_
  have colon : ':' ∈ Settings.addressStart ++ s := List.mem_append_left s (by decide)
  exact absurd (lower_mem_of_isPasswordKey key colon (by decide)) (by decide)

/-- What is no address is shown as pairs if it has an equals sign, and as it is if not. -/
theorem redact_of_not_isAddress {s : String} (malformed : ¬IsAddress s) :
    redact s = if '=' ∈ s.toList then String.ofList (redactPairs s.toList) else s := by
  rw [redact]
  split
  next a read => exact absurd ⟨_, read⟩ malformed
  next read => exact absurd ⟨_, read⟩ malformed
  next => rfl

/-- A text that starts like an address with a password and is none is shown with its password. -/
theorem exists_redact_of_not_isAddress (rest : String) :
    ∃ shown, ∀ {user password : String}, IsWord user → IsWord password →
      ¬IsAddress (loginAddress user password rest) →
      redact (loginAddress user password rest) = loginAddress user password shown := by
  have absent {user password : String} (hu : IsWord user) (hp : IsWord password) (mark : Char)
      (other : mark.isAlphanum = false) (unused : mark ∉ [':', '/', '@']) :
      mark ∉ loginStart user password := by
    intro member
    rcases isAlphanum_or_mark_of_mem_loginStart hu hp member with letter | known
    · rw [other] at letter
      cases letter
    · exact unused known
  by_cases pairs : '=' ∈ rest.toList
  · refine ⟨String.ofList (firstPart rest.toList ++ shownBehind rest.toList),
      fun {user password} hu hp malformed => ?_⟩
    have noEquals := absent hu hp '=' (by decide) (by decide)
    have noSemicolon := absent hu hp ';' (by decide) (by decide)
    have noKey (t : List Char) : isPasswordKey (loginStart user password ++ t) = false := by
      rw [loginStart, List.append_assoc]
      exact isPasswordKey_loginAddress _
    rw [redact_of_not_isAddress malformed, toList_loginAddress,
      if_pos (List.mem_append_right _ pairs), redactPairs_eq, firstPart_append noSemicolon,
      shownBehind_append noSemicolon, redactPair_of_start noEquals noKey]
    exact String.toList_inj.mp (by simp [toList_loginAddress])
  · refine ⟨rest, fun {user password} hu hp malformed => ?_⟩
    have noEquals := absent hu hp '=' (by decide) (by decide)
    rw [redact_of_not_isAddress malformed, toList_loginAddress, if_neg (by simp [noEquals, pairs])]

/-! ### Messages -/

/-- A text without the blanks at its end. -/
def withoutEnd (s : String) : String :=
  String.ofList (trimRight isBlank s.toList)

/-- The fault of a connection string that starts like an address and is none is that it is
malformed. -/
theorem exists_read_eq_malformed
    (malformed : ¬IsAddress (loginAddress user password (withoutEnd rest))) :
    ∃ problem, Settings.read (loginAddress user password rest)
      = .error (.malformed problem (redact (loginAddress user password (withoutEnd rest)))) := by
  have trimmed : trim isBlank (loginAddress user password rest).toList
      = (loginAddress user password (withoutEnd rest)).toList := by
    have front (t : List Char) : loginStart user password ++ t
        = (Settings.addressStart ++ (user.toList ++ ':' :: password.toList)) ++ '@' :: t := by
      simp [loginStart]
    have start : trimLeft isBlank (loginStart user password ++ rest.toList)
        = loginStart user password ++ rest.toList :=
      List.dropWhile_cons_of_neg (by decide)
    rw [toList_loginAddress, toList_loginAddress, trim, start, front, front,
      trimRight_append_stop (by decide), withoutEnd, String.toList_ofList]
  have start : Settings.addressStart.isPrefixOf
      (loginAddress user password (withoutEnd rest)).toList = true := by
    rw [List.isPrefixOf_iff_prefix, toList_loginAddress, loginStart, List.append_assoc]
    exact List.prefix_append _ _
  rw [Settings.read, trimmed, if_pos start, Settings.readAddress]
  cases read : Address.read (loginAddress user password (withoutEnd rest)).toList with
  | error problem => exact ⟨problem, by rw [String.ofList_toList]⟩
  | ok a => exact absurd ⟨a, read⟩ malformed

/-- The context of a failure to connect tells what is shown of the connection string. -/
theorem connectContext_eq_iff {value other : String} :
    Wire.connectContext value = Wire.connectContext other ↔ redact value = redact other := by
  have context (value : String) : Wire.connectContext value
      = "While trying to connect to `" ++ redact value ++ "`" := rfl
  rw [context, context]
  constructor
  · intro same
    have texts := congrArg String.toList same
    simp only [String.toList_append, List.append_assoc, List.append_cancel_left_eq,
      List.append_cancel_right_eq] at texts
    exact String.toList_inj.mp texts
  · intro same
    rw [same]

/-- **When messages do not depend on the password**: when what follows it makes the text an
address. The fault of a text that starts like an address and is none tells the password. -/
theorem redact_loginAddress_eq_iff {first second : String} (hu : IsWord user) (h₁ : IsWord first)
    (h₂ : IsWord second) :
    (redact (loginAddress user first rest) = redact (loginAddress user second rest)
        ↔ first = second ∨ IsAddress (loginAddress user first rest))
      ∧ (Wire.connectContext (loginAddress user first rest)
          = Wire.connectContext (loginAddress user second rest)
        ↔ first = second ∨ IsAddress (loginAddress user first rest))
      ∧ (¬IsAddress (loginAddress user first (withoutEnd rest)) → ∃ problem shown,
          Settings.read (loginAddress user first rest)
            = .error (.malformed problem (loginAddress user first shown))) := by
  have shown : redact (loginAddress user first rest) = redact (loginAddress user second rest)
      ↔ first = second ∨ IsAddress (loginAddress user first rest) := by
    constructor
    · intro same
      by_cases address : IsAddress (loginAddress user first rest)
      · exact .inr address
      · obtain ⟨shown, plain⟩ := exists_redact_of_not_isAddress rest
        have other : ¬IsAddress (loginAddress user second rest) := fun address' =>
          address ((isAddress_loginAddress_iff hu h₁ h₂).mpr address')
        rw [plain hu h₁ address, plain hu h₂ other] at same
        exact .inl (loginAddress_password_inj h₁ h₂ same)
    · rintro (rfl | address)
      · rfl
      · obtain ⟨shown, hidden⟩ := exists_redact_of_isAddress rest
        rw [hidden hu h₁ address, hidden hu h₂ ((isAddress_loginAddress_iff hu h₁ h₂).mp address)]
  refine ⟨shown, connectContext_eq_iff.trans shown, fun malformed => ?_⟩
  obtain ⟨problem, fault⟩ := exists_read_eq_malformed malformed
  obtain ⟨shown, plain⟩ := exists_redact_of_not_isAddress (withoutEnd rest)
  exact ⟨problem, shown, by rw [fault, plain hu h₁ malformed]⟩

/-- Two passwords in front of a server are shown alike. -/
theorem redact_local_server : IsWord "sa" ∧ IsWord "secret" ∧ IsWord "hidden"
    ∧ IsAddress (loginAddress "sa" "secret" "localhost:1433/master")
    ∧ redact (loginAddress "sa" "secret" "localhost:1433/master")
      = redact (loginAddress "sa" "hidden" "localhost:1433/master") := by
  have user : IsWord "sa" := .of_all (by decide) (by decide)
  have first : IsWord "secret" := .of_all (by decide) (by decide)
  have second : IsWord "hidden" := .of_all (by decide) (by decide)
  have address : IsAddress (loginAddress "sa" "secret" "localhost:1433/master") :=
    ⟨_, rfl⟩
  exact ⟨user, first, second, address,
    (redact_loginAddress_eq_iff user first second).1.mpr (.inr address)⟩

/-- Two passwords in front of a port that is too large are shown as they are. -/
theorem redact_large_port_ne : IsWord "sa" ∧ IsWord "secret" ∧ IsWord "hidden"
    ∧ redact (loginAddress "sa" "secret" "localhost:99999/db")
      ≠ redact (loginAddress "sa" "hidden" "localhost:99999/db") := by
  refine ⟨.of_all (by decide) (by decide), .of_all (by decide) (by decide),
    .of_all (by decide) (by decide), ?_⟩
  decide +kernel

end EntitySql.Connection
