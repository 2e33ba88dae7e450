import AccountSidecar.Proofs.Reprinting

/-!
# Credentials that come back from their line

The line of credentials is trimmed as a whole, while a secret is written or left out by a test of
its own. So which field loses its blanks hangs on the others: the first character of the username
and the last one of the last field that is written must not be blank. Together with fields that hold
no separator, and of which the first two are there, that is all it takes
(`Credential.ofLine?_line_eq_self_iff`). Line boundaries and the sign of a comment make no
difference to a single line; they matter where a file is cut into lines.
-/

namespace AccountSidecar.Users

open Text

/-- Whether a text starts with a blank. -/
def StartsBlank (s : String) : Prop := ∃ c, s.toList.head? = some c ∧ isBlank c = true

/-- A text starts with a character that is not blank exactly where it is there and starts with no
blank. -/
theorem exists_head_iff (s : String) :
    (∃ a rest, s.toList = a :: rest ∧ isBlank a = false) ↔ s ≠ "" ∧ ¬ StartsBlank s := by
  rw [Ne, ← String.toList_eq_nil_iff, StartsBlank]
  cases s.toList <;> simp

namespace Credential

variable {c : Credential}

/-- The fields of credentials can be told apart exactly where the first two are there, none holds a
separator and the username starts with no blank. -/
theorem isSeparable_iff :
    c.IsSeparable ↔
      (c.username ≠ "" ∧ ':' ∉ c.username.toList ∧ ¬ StartsBlank c.username) ∧
      (c.password ≠ "" ∧ ':' ∉ c.password.toList) ∧ ':' ∉ c.totpSecret.toList := by
  constructor
  · rintro ⟨head, username, given, password, totpSecret⟩
    obtain ⟨named, unindented⟩ := (exists_head_iff c.username).mp head
    exact ⟨⟨named, username, unindented⟩, ⟨given, password⟩, totpSecret⟩
  · rintro ⟨⟨named, username, unindented⟩, ⟨given, password⟩, totpSecret⟩
    have head := (exists_head_iff c.username).mpr ⟨named, unindented⟩
    exact ⟨head, username, given, password, totpSecret⟩

/-- Credentials are tidy exactly where a secret that is not all blank ends in no blank, or there is
no secret and the password ends in no blank. -/
theorem isTidy_iff :
    c.IsTidy ↔
      ((∃ a ∈ c.totpSecret.toList, isBlank a = false) ∧ ¬ EndsBlank c.totpSecret) ∨
      (c.totpSecret = "" ∧ ¬ EndsBlank c.password) := by
  have visible : c.totpEnabled = true ↔ ∃ a ∈ c.totpSecret.toList, isBlank a = false := by
    simp [totpEnabled, isBlankText]
  unfold IsTidy
  by_cases enabled : c.totpEnabled = true
  · -- A secret that is not all blank is no empty one.
    have some : c.totpSecret ≠ "" := by
      intro none
      rw [totpEnabled, none] at enabled
      exact absurd enabled (by decide)
    rw [if_pos enabled]
    simp [← visible, enabled, some]
  · rw [if_neg enabled]
    simp [← visible, enabled]

/-- Credentials come back from their line as they are exactly where their username is there, holds
no separator and starts with no blank, their password is there and holds no separator, their secret
holds no separator, and either the secret is not all blank and ends in no blank, or there is none
and the password ends in no blank. -/
theorem ofLine?_line_eq_self_iff (c : Credential) :
    ofLine? c.line.toList = some c ↔
      (c.username ≠ "" ∧ ':' ∉ c.username.toList ∧ ¬ StartsBlank c.username) ∧
      (c.password ≠ "" ∧ ':' ∉ c.password.toList) ∧
      ':' ∉ c.totpSecret.toList ∧
      (((∃ a ∈ c.totpSecret.toList, isBlank a = false) ∧ ¬ EndsBlank c.totpSecret) ∨
        (c.totpSecret = "" ∧ ¬ EndsBlank c.password)) := by
  have given (separable : c.IsSeparable) :
      ofLine? c.line.toList = some c ↔ c.IsTidy := by
    rw [ofLine?_line separable]
    exact settled_eq_self_iff separable.given
  rw [← isTidy_iff]
  constructor
  · intro back
    have separable := (isReadFrom_of_ofLine? back).separable
    obtain ⟨username, password, totpSecret⟩ := isSeparable_iff.mp separable
    exact ⟨username, password, totpSecret, (given separable).mp back⟩
  · rintro ⟨username, password, totpSecret, tidy⟩
    exact (given (isSeparable_iff.mpr ⟨username, password, totpSecret⟩)).mpr tidy

/-- The blank at the end of a password stays where a secret follows it, and the boundary of a line
and the sign of a comment stay in any case. -/
example : ofLine? (line ⟨"#a\nb", "x ", "S"⟩).toList = some ⟨"#a\nb", "x ", "S"⟩ := by decide

end Credential

end AccountSidecar.Users
