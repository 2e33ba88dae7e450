import AccountSidecar.Proofs.PlainTexts
import AccountSidecar.Proofs.UsersFile

/-!
# Printing a users file anew

Every change of the users file prints all credentials anew, those of other users too. So it keeps
others exactly where their fields, as they were read, print to a line that gives them back: where
no blank stands at the end of that line and nothing blank stands for a secret
(`upsert_keeps_others_iff`). Lines that the store printed itself are such; lines edited by hand need
not be.
-/

namespace AccountSidecar

namespace Text

/-- Trimming the end keeps a text exactly where its last character is outside the class. -/
theorem trimEnd_eq_self_iff (p : Char → Bool) (s : List Char) :
    trimEnd p s = s ↔ ∀ c, s.getLast? = some c → p c = false := by
  induction s with
  | nil => simp [trimEnd]
  | cons c s ih =>
    cases s with
    | nil => cases own : p c <;> simp [trimEnd, own]
    | cons d rest =>
      rw [List.getLast?_cons_cons, ← ih, trimEnd]
      cases kept : trimEnd p (d :: rest) with
      | nil => cases p c <;> simp
      | cons e more => simp

/-- What was trimmed at its end is kept by trimming it again. -/
theorem trimEnd_trimEnd (p : Char → Bool) (s : List Char) :
    trimEnd p (trimEnd p s) = trimEnd p s := by
  induction s with
  | nil => rfl
  | cons c s ih =>
    rw [trimEnd]
    cases kept : trimEnd p s with
    | nil => cases own : p c <;> simp [trimEnd, own]
    | cons d rest =>
      rw [kept] at ih
      rw [trimEnd, ih]

end Text

namespace Users

open Text Storage

/-- Whether a text ends in a blank. -/
def EndsBlank (s : String) : Prop := ∃ c, s.toList.getLast? = some c ∧ isBlank c = true

/-- A text ends in no blank exactly where trimming its end keeps it. -/
theorem not_endsBlank_iff (s : String) :
    ¬ EndsBlank s ↔ String.ofList (trimEnd isBlank s.toList) = s := by
  have kept : String.ofList (trimEnd isBlank s.toList) = s ↔
      trimEnd isBlank s.toList = s.toList := by
    constructor
    · intro same
      rw [← String.toList_ofList (l := trimEnd isBlank s.toList), same]
    · intro same
      rw [same, String.ofList_toList]
  rw [kept, trimEnd_eq_self_iff]
  simp [EndsBlank]

namespace Credential

/-- Whether credentials stand in a file as the store prints them: no blank ends their line, and
without two-factor login nothing stands for a secret. -/
def IsTidy (c : Credential) : Prop :=
  if c.totpEnabled then ¬ EndsBlank c.totpSecret
  else c.totpSecret = "" ∧ ¬ EndsBlank c.password

/-- Credentials come back from their line as they are exactly where they are tidy. -/
theorem settled_eq_self_iff {c : Credential} (present : c.password ≠ "") :
    c.settled = some c ↔ c.IsTidy := by
  unfold settled IsTidy
  by_cases enabled : c.totpEnabled = true
  · rw [if_pos enabled, if_pos enabled, not_endsBlank_iff, Option.some.injEq]
    constructor
    · intro same
      exact congrArg Credential.totpSecret same
    · intro same
      rw [same]
  · rw [if_neg enabled, if_neg enabled, not_endsBlank_iff]
    by_cases blank : isBlankText c.password = true
    · -- A blank password is trimmed to nothing, but it was something.
      have gone : trimEnd isBlank c.password.toList = [] := by
        rw [trimEnd_eq_nil_iff]
        exact List.all_eq_true.mp blank
      have lost : String.ofList [] ≠ c.password := fun same => present same.symm
      rw [if_pos blank, gone]
      simp [lost]
    · rw [if_neg blank, Option.some.injEq]
      constructor
      · intro same
        exact ⟨(congrArg Credential.totpSecret same).symm, congrArg Credential.password same⟩
      · rintro ⟨none, same⟩
        rw [same, ← none]

/-- Credentials that came back from their line have two-factor login on exactly where it was. -/
theorem settled_totpEnabled {c d : Credential} (back : c.settled = some d) :
    d.totpEnabled = c.totpEnabled := by
  unfold settled at back
  by_cases enabled : c.totpEnabled = true
  · rw [if_pos enabled] at back
    obtain rfl := Option.some.inj back
    rw [enabled]
    simp only [totpEnabled, isBlankText, Bool.not_eq_true', List.all_eq_false] at enabled ⊢
    obtain ⟨a, inside, solid⟩ := enabled
    refine ⟨a, ?_, solid⟩
    rw [String.toList_ofList]
    exact mem_trimEnd_of_not inside (by simpa using solid)
  · rw [if_neg enabled] at back
    split at back
    · cases back
    · obtain rfl := Option.some.inj back
      rw [Bool.eq_false_iff.mpr enabled]
      rfl

/-- Credentials that came back from their line are tidy. -/
theorem tidy_of_settled {c d : Credential} (back : c.settled = some d) : d.IsTidy := by
  have trimmed (s : String) : ¬ EndsBlank (String.ofList (trimEnd isBlank s.toList)) := by
    rw [not_endsBlank_iff, String.toList_ofList, trimEnd_trimEnd]
  have still := settled_totpEnabled back
  unfold settled at back
  unfold IsTidy
  rw [still]
  by_cases enabled : c.totpEnabled = true
  · rw [if_pos enabled] at back ⊢
    obtain rfl := Option.some.inj back
    exact trimmed c.totpSecret
  · rw [if_neg enabled] at back ⊢
    split at back
    · cases back
    · obtain rfl := Option.some.inj back
      exact ⟨rfl, trimmed c.password⟩

end Credential

/-- Whether a text holds neither blanks nor separators. -/
def IsSolid (s : String) : Prop := ∀ c ∈ s.toList, isBlank c = false ∧ c ≠ ':'

instance (s : String) : Decidable (IsSolid s) :=
  decidable_of_iff (s.toList.all fun c => !isBlank c && c != ':') (by simp [IsSolid])

/-- Every line boundary is blank. -/
theorem isLineBreak_of_not_blank {c : Char} (solid : isBlank c = false) :
    isLineBreak c = false := by
  simp only [isBlank, isLineBreak, Bool.or_eq_false_iff, Bool.and_eq_false_iff,
    decide_eq_false_iff_not, beq_eq_false_iff_ne] at solid ⊢
  omega

/-- A solid text fits a field. -/
theorem IsSolid.fitsField {s : String} (solid : IsSolid s) : FitsField s :=
  fun c inside => ⟨(solid c inside).2, isLineBreak_of_not_blank (solid c inside).1⟩

/-- A plain text is solid, such as a hash and a secret whose codes verify. -/
theorem IsPlainText.isSolid {s : String} (plain : IsPlainText s) : IsSolid s :=
  fun c inside => ⟨isBlank_of_plain (plain c inside), (plain c inside).2.2⟩

/-- A solid text ends in no blank. -/
theorem IsSolid.not_endsBlank {s : String} (solid : IsSolid s) : ¬ EndsBlank s := by
  rintro ⟨c, last, blank⟩
  rw [(solid c (List.mem_of_getLast? last)).1] at blank
  cases blank

namespace Credential

/-- Whether credentials are well formed: solid fields, of which the first is no comment and the
second is there. -/
structure IsWellFormed (c : Credential) : Prop where
  named : c.username ≠ ""
  username : IsSolid c.username
  uncommented : '#' ∉ c.username.toList
  given : c.password ≠ ""
  password : IsSolid c.password
  totpSecret : IsSolid c.totpSecret

variable {c : Credential}

/-- Well-formed credentials are legible. -/
theorem IsWellFormed.legible (formed : c.IsWellFormed) : c.Legible where
  name := by
    refine ⟨?_, formed.username.fitsField⟩
    cases letters : c.username.toList with
    | nil => exact absurd (String.toList_eq_nil_iff.mp letters) formed.named
    | cons a rest =>
      have first : a ∈ c.username.toList := by rw [letters]; exact List.mem_cons_self
      exact ⟨a, rest, rfl, (formed.username a first).1,
        fun same => formed.uncommented (same ▸ first)⟩
  fields := ⟨formed.password.fitsField, formed.given, formed.totpSecret.fitsField⟩

/-- Credentials with a solid password and a solid secret are tidy. -/
theorem tidy_of_solid (password : IsSolid c.password) (totpSecret : IsSolid c.totpSecret) :
    c.IsTidy := by
  unfold IsTidy
  by_cases enabled : c.totpEnabled = true
  · rw [if_pos enabled]
    exact totpSecret.not_endsBlank
  · rw [if_neg enabled]
    refine ⟨?_, password.not_endsBlank⟩
    -- A secret without blanks that is blank has no character at all.
    cases letters : c.totpSecret.toList with
    | nil => exact String.toList_eq_nil_iff.mp letters
    | cons a rest =>
      have first : a ∈ c.totpSecret.toList := by rw [letters]; exact List.mem_cons_self
      have solid := (totpSecret a first).1
      simp [totpEnabled, isBlankText, letters, solid] at enabled

/-- Well-formed credentials are tidy. -/
theorem IsWellFormed.tidy (formed : c.IsWellFormed) : c.IsTidy :=
  tidy_of_solid formed.password formed.totpSecret

end Credential

/-- The list with the first credentials of a user replaced, or with new ones at its end. -/
def placed (c : Credential) (all : List Credential) : List Credential :=
  match all.findIdx? fun d => d.username = c.username with
  | some i => all.set i c
  | none => all ++ [c]

/-- Replacing or appending puts credentials in the place of the first ones of their user. -/
theorem replaceOrAppend_eq_placed (c : Credential) (all : List Credential) :
    replaceOrAppend c all = placed c all := by
  unfold placed
  induction all with
  | nil => rfl
  | cons d rest ih =>
    rw [replaceOrAppend, List.findIdx?_cons]
    by_cases own : d.username = c.username
    · simp [own]
    · rw [if_neg own, ih]
      cases found : rest.findIdx? fun d => d.username = c.username <;> simp [own]

/-- The others are the credentials that stay when the first ones of a user are replaced. -/
theorem mem_replaceOrAppend_iff {c d : Credential} {all : List Credential} :
    d ∈ replaceOrAppend c all ↔ d = c ∨ d ∈ all.eraseP fun e => e.username = c.username := by
  induction all with
  | nil => simp [replaceOrAppend]
  | cons e rest ih =>
    rw [replaceOrAppend]
    by_cases own : e.username = c.username
    · simp [own]
    · rw [if_neg own, List.mem_cons, ih, List.eraseP_cons_of_neg (by simpa using own),
        List.mem_cons]
      exact or_left_comm

/-- After well-formed credentials were written the file holds the list with them in place, each as
it comes back from its line. -/
theorem load_upsert {files t : FileTree} {file : Location} {all : List Credential} {c : Credential}
    (read : load files file = .ok all) (formed : c.IsWellFormed)
    (done : upsert files file c = (.ok (), t)) :
    load t file = .ok ((placed c all).filterMap Credential.settled) := by
  obtain ⟨-, all', read', printed⟩ := rewritten_of_upsert done
  obtain rfl : all = all' := Except.ok.inj (read.symm.trans read')
  have legible : ∀ d ∈ replaceOrAppend c all, d.Legible := by
    intro d inside
    rcases mem_replaceOrAppend inside with rfl | inside
    · exact formed.legible
    · exact load_legible read d inside
  rw [load_of_printed printed, parse_print _ legible, replaceOrAppend_eq_placed]

/-- Writing well-formed credentials puts them in the place of the first ones of their user, or at
the end, and keeps all others exactly where these are tidy; from then on everything in the file is
tidy. Well formed are all credentials whose password is a hash and whose secret is empty or base-32
text, under a name without blanks, separators and comment signs. -/
theorem upsert_keeps_others_iff {files t : FileTree} {file : Location} {all : List Credential}
    {c : Credential} (read : load files file = .ok all) (formed : c.IsWellFormed)
    (done : upsert files file c = (.ok (), t)) :
    (load t file = .ok (placed c all) ↔
      ∀ d ∈ all.eraseP fun d => d.username = c.username, d.IsTidy) ∧
    ∃ after, load t file = .ok after ∧ after = (placed c all).filterMap Credential.settled ∧
      ∀ d ∈ after, d.IsTidy := by
  have after := load_upsert read formed done
  refine ⟨?_, _, after, rfl, ?_⟩
  · have present : ∀ d ∈ all.eraseP fun d => d.username = c.username, d.password ≠ "" :=
      fun d inside => (load_legible read d (List.mem_of_mem_eraseP inside)).fields.present
    have whole : (placed c all).filterMap Credential.settled = placed c all ↔
        ∀ d ∈ placed c all, d.settled = some d := by
      simpa using List.filterMap_eq_map_iff_forall_eq_some (f := Credential.settled) (g := id)
        (l := placed c all)
    rw [after, Except.ok.injEq, whole, ← replaceOrAppend_eq_placed]
    constructor
    · intro kept d inside
      rw [← Credential.settled_eq_self_iff (present d inside)]
      exact kept d (mem_replaceOrAppend_iff.mpr (.inr inside))
    · intro tidy d inside
      rcases mem_replaceOrAppend_iff.mp inside with rfl | inside
      · exact (Credential.settled_eq_self_iff formed.given).mpr formed.tidy
      · exact (Credential.settled_eq_self_iff (present d inside)).mpr (tidy d inside)
  · intro d inside
    obtain ⟨c', -, back⟩ := List.mem_filterMap.mp inside
    exact Credential.tidy_of_settled back

/-- A users file with a line of bob, edited by hand, whose password is a blank and whose secret is
empty. -/
def blankPassword : List Credential := [⟨"bob", " :", ""⟩]

/-- The file is read as the credentials of bob. -/
theorem load_blankPassword : load (World.sample blankPassword).files ["users"] =
    .ok [⟨"bob", " ", ""⟩] := by
  have printed : (World.sample blankPassword).files.look ["users"] =
      .content (print blankPassword).toUTF8 := rfl
  rw [load_of_printed printed]
  exact congrArg Except.ok (by decide)

/-- Writing the credentials of alice beside those of bob: the theorem at that file. -/
theorem upsert_keeps_others_iff_appended :
    let files := (World.sample blankPassword).files
    let c : Credential := ⟨"alice", "x", ""⟩
    ∃ t, load files ["users"] = .ok [⟨"bob", " ", ""⟩] ∧ c.IsWellFormed ∧
      upsert files ["users"] c = (.ok (), t) ∧
      (load t ["users"] = .ok (placed c [⟨"bob", " ", ""⟩]) ↔
        ∀ d ∈ [(⟨"bob", " ", ""⟩ : Credential)].eraseP fun d => d.username = c.username,
          d.IsTidy) ∧
      ∃ after, load t ["users"] = .ok after ∧
        after = (placed c [⟨"bob", " ", ""⟩]).filterMap Credential.settled ∧
        ∀ d ∈ after, d.IsTidy := by
  intro files c
  have formed : c.IsWellFormed :=
    ⟨by decide, by decide, by decide, by decide, by decide, by decide⟩
  obtain ⟨t, done⟩ := World.upsert_sample blankPassword (c := c) (by decide)
  exact ⟨t, load_blankPassword, formed, done,
    upsert_keeps_others_iff load_blankPassword formed done⟩

/-- Writing the credentials of alice, with a hash, loses those of bob. -/
theorem upsert_loses_other : ∃ saltText password hash t,
    let files := (World.sample blankPassword).files
    Password.hash? saltText password = some hash ∧
      load files ["users"] = .ok [⟨"bob", " ", ""⟩] ∧
      upsert files ["users"] ⟨"alice", hash, ""⟩ = (.ok (), t) ∧
      load t ["users"] = .ok [⟨"alice", hash, ""⟩] := by
  have fits : Password.isTooLong "pw" = false := by decide
  obtain ⟨hash, hashed⟩ := Password.exists_hash? fits (Deployment.sample_salt false 0)
  have solid : IsSolid hash := (Password.isPlainText_of_hash? hashed).isSolid
  have formed : Credential.IsWellFormed ⟨"alice", hash, ""⟩ :=
    ⟨(by decide : "alice" ≠ ""), (by decide : IsSolid "alice"), (by decide : '#' ∉ "alice".toList),
      Password.ne_empty_of_hash? hashed, solid, (by decide : IsSolid "")⟩
  obtain ⟨t, done⟩ := World.upsert_sample blankPassword (c := ⟨"alice", hash, ""⟩)
    (by decide : isValidUsername "alice" = true)
  have kept : Credential.settled ⟨"alice", hash, ""⟩ = some ⟨"alice", hash, ""⟩ :=
    (Credential.settled_eq_self_iff formed.given).mpr formed.tidy
  refine ⟨_, _, hash, t, hashed, load_blankPassword, done, ?_⟩
  rw [load_upsert load_blankPassword formed done]
  exact congrArg Except.ok (List.filterMap_cons_some kept)

end Users

end AccountSidecar
