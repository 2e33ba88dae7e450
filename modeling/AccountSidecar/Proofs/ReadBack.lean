import AccountSidecar.Proofs.NewAccounts

/-!
# Looking up what was written

Right after a write, a lookup of the username gives back the very credentials exactly where the
reader gets at the username: where no blank stands in front of it, no comment begins with it and no
line boundary divides it. Nothing is ever read under any other name, so there the lookup finds
nobody (`lookup_after_write_iff`).
-/

namespace AccountSidecar

open Storage AccountSidecar.Action Users

namespace Users

open Text

/-- Whether a reader gets at the username in its line: it begins with neither a blank nor the sign
of a comment, and no line boundary divides it. -/
structure IsReadableName (username : String) : Prop where
  unindented : ∀ c, username.toList.head? = some c → isBlank c = false
  uncommented : username.toList.head? ≠ some '#'
  undivided : ∀ c ∈ username.toList, isLineBreak c = false

/-- A valid username is legible exactly where a reader gets at it. -/
theorem isLegibleName_iff {username : String} (valid : isValidUsername username = true) :
    IsLegibleName username ↔ IsReadableName username := by
  constructor
  · rintro ⟨⟨c, rest, letters, solid, uncommented⟩, fits⟩
    have first : username.toList.head? = some c := by rw [letters, List.head?_cons]
    refine ⟨fun a head => ?_, fun sign => ?_, fun a inside => (fits a inside).2⟩
    · rw [first] at head
      exact Option.some.inj head ▸ solid
    · rw [first] at sign
      exact uncommented (Option.some.inj sign)
  · rintro ⟨unindented, uncommented, undivided⟩
    have colon := colon_not_mem_of_valid valid
    have fits : FitsField username :=
      fun a inside => ⟨fun same => colon (same ▸ inside), undivided a inside⟩
    refine ⟨?_, fits⟩
    cases letters : username.toList with
    | nil =>
      obtain rfl := String.toList_eq_nil_iff.mp letters
      exact absurd valid (by decide)
    | cons c rest =>
      rw [letters, List.head?_cons] at unindented uncommented
      exact ⟨c, rest, rfl, unindented c rfl, fun sign => uncommented (congrArg some sign)⟩

end Users

namespace World

variable {d : Deployment} {w w' : World}

/-- Nobody is found under a name that is not legible. -/
theorem find_of_illegible {username : String} {found : Option Credential}
    (illegible : ¬ IsLegibleName username) (seen : w.find d username = .ok found) :
    found = none := by
  cases found with
  | none => rfl
  | some c =>
    obtain ⟨own, legible⟩ := legible_of_find seen
    exact absurd (own ▸ legible.name) illegible

/-- Legible and tidy credentials that were written are found as they are. -/
theorem find_of_rewritten_tidy {c : Credential}
    (changed : Rewritten w.files w'.files d.usersFile c) (legible : c.Legible) (tidy : c.IsTidy) :
    w'.find d c.username = .ok (some c) := by
  obtain ⟨all, read, printed⟩ := changed
  have whole : ∀ e ∈ replaceOrAppend c all, e.Legible := by
    intro e inside
    rcases mem_replaceOrAppend inside with rfl | inside
    · exact legible
    · exact load_legible read e inside
  have back : c.settled = some c := (Credential.settled_eq_self_iff legible.fields.present).mpr tidy
  have found := lookup?_settled (lookup?_replaceOrAppend_self c all) back []
  rw [List.append_nil] at found
  rw [find, load_of_printed printed, parse_print _ whole]
  exact congrArg Except.ok found

end World

/-- Looking up what was written. Right after credentials with a password and no blank or separator
in password and secret were written, whatever else the users file holds, a lookup of their username
gives them back exactly where a reader gets at the username, and finds nobody otherwise. -/
theorem lookup_after_write_iff {d : Deployment} {w w' : World} {c : Credential}
    (given : c.password ≠ "") (password : IsSolid c.password) (totpSecret : IsSolid c.totpSecret)
    (done : (upsertUser d c).runIn w = (.ok (), w')) :
    ((findUser d c.username).runIn w' = (.ok (some c), w') ↔ IsReadableName c.username) ∧
      (¬ IsReadableName c.username → (findUser d c.username).runIn w' = (.ok none, w')) := by
  rw [runIn_upsertUser] at done
  rcases written : upsert w.files d.usersFile c with ⟨e | ⟨⟩, t⟩ <;> rw [written] at done
  · cases (Prod.mk.inj done).1
  obtain rfl := (Prod.mk.inj done).2
  obtain ⟨valid, changed⟩ := rewritten_of_upsert written
  have readable := isLegibleName_iff valid
  have absent (illegible : ¬ IsReadableName c.username) :
      (findUser d c.username).runIn { w with files := t } = (.ok none, { w with files := t }) := by
    obtain ⟨all, read, printed⟩ := changed
    have seen : World.find d { w with files := t } c.username =
        .ok (lookup? c.username (parse (print (replaceOrAppend c all)))) := by
      rw [World.find, load_of_printed printed]
      rfl
    rw [runIn_findUser, seen, World.find_of_illegible (mt readable.mp illegible) seen]
    rfl
  refine ⟨⟨fun found => ?_, fun named => ?_⟩, absent⟩
  · refine Classical.byContradiction fun illegible => ?_
    rw [absent illegible] at found
    cases (Prod.mk.inj found).1
  · have legible : c.Legible :=
      ⟨readable.mpr named, password.fitsField, given, totpSecret.fitsField⟩
    have tidy : c.IsTidy := Credential.tidy_of_solid password totpSecret
    have found : World.find d { w with files := t } c.username = .ok (some c) :=
      World.find_of_rewritten_tidy changed legible tidy
    rw [runIn_findUser, found]
    rfl

/-- Writing credentials under a name with blanks, beside a line edited by hand: the theorem at that
file, where the name is readable. -/
theorem lookup_after_write_iff_blanks :
    let d := Deployment.sample false
    let c : Credential := ⟨"al ice ", "x", "MZXW6"⟩
    ∃ w', c.password ≠ "" ∧ IsSolid c.password ∧ IsSolid c.totpSecret ∧
      (upsertUser d c).runIn (World.sample blankPassword) = (.ok (), w') ∧
      IsReadableName c.username ∧
      ((findUser d c.username).runIn w' = (.ok (some c), w') ↔ IsReadableName c.username) ∧
      (¬ IsReadableName c.username → (findUser d c.username).runIn w' = (.ok none, w')) := by
  intro d c
  have given : c.password ≠ "" := by decide
  have password : IsSolid c.password := by decide
  have totpSecret : IsSolid c.totpSecret := by decide
  obtain ⟨t, written⟩ := World.upsert_sample blankPassword (c := c) (by decide)
  have done : (upsertUser d c).runIn (World.sample blankPassword) =
      (.ok (), { World.sample blankPassword with files := t }) := by
    rw [runIn_upsertUser, show d.usersFile = ["users"] from rfl, written]
    rfl
  have readable : IsReadableName c.username := by
    have first : c.username.toList.head? = some 'a' := by decide
    have undivided : c.username.toList.all (fun a => !Text.isLineBreak a) = true := by decide
    refine ⟨fun a head => ?_, by decide, fun a inside => ?_⟩
    · rw [first] at head
      obtain rfl := Option.some.inj head
      decide
    · exact Bool.eq_false_iff.mpr (by simpa using List.all_eq_true.mp undivided a inside)
  exact ⟨_, given, password, totpSecret, done, readable,
    lookup_after_write_iff given password totpSecret done⟩

end AccountSidecar
