import AccountSidecar.Proofs.Fields
import AccountSidecar.Users.Credential
import Mathlib.Data.List.Basic

/-!
# Reading back a users file

Credentials that were read from a users file are `Credential.Legible`: their fields hold no
separator and no line boundary, and the line does not start as a comment. Printed and read again
they come back `settled`, without the blanks at the end of their line, and in the same order
(`parse_print_append`). Credentials appended to them may be of any form, since their line stands
behind all others. So a change of one user keeps what is found for the others
(`lookup?_replaced_of_ne`).
-/

namespace AccountSidecar.Users

open Text

/-- Whether a text can stand in a field of a line: it holds no separator and no line boundary. -/
def FitsField (s : String) : Prop := ∀ c ∈ s.toList, c ≠ ':' ∧ isLineBreak c = false

/-- Whether a line that starts with the username is read as the line of that user. -/
structure IsLegibleName (username : String) : Prop where
  /-- The line is neither trimmed at its start nor a comment. -/
  head : ∃ c rest, username.toList = c :: rest ∧ isBlank c = false ∧ c ≠ '#'
  fits : FitsField username

namespace Credential

/-- Whether the fields behind the username can be written. -/
structure IsWritable (c : Credential) : Prop where
  password : FitsField c.password
  present : c.password ≠ ""
  secret : FitsField c.totpSecret

/-- Whether a line of the credentials is read as theirs. -/
structure Legible (c : Credential) : Prop where
  name : IsLegibleName c.username
  fields : c.IsWritable

/-- Credentials as they come back from their line: what is blank at its end gets lost, and with it
the credentials where no password is left. -/
def settled (c : Credential) : Option Credential :=
  if c.totpEnabled then
    some { c with totpSecret := String.ofList (trimEnd isBlank c.totpSecret.toList) }
  else if isBlankText c.password then none
  else
    some { c with
      password := String.ofList (trimEnd isBlank c.password.toList)
      totpSecret := "" }

/-- Settling keeps the username. -/
theorem settled_username {c d : Credential} (back : c.settled = some d) :
    d.username = c.username := by
  unfold settled at back
  split at back
  · rw [← Option.some.inj back]
  · split at back
    · cases back
    · rw [← Option.some.inj back]

/-- Whether no character of the password is blank. -/
def HasSolidPassword (c : Credential) : Prop := ∀ a ∈ c.password.toList, isBlank a = false

/-- Credentials with a solid password and no secret come back as they are, without the blanks that
may stand for the secret. -/
theorem settled_of_disabled {c : Credential} (present : c.password ≠ "")
    (solid : c.HasSolidPassword) (disabled : c.totpEnabled = false) :
    c.settled = some { c with totpSecret := "" } := by
  have visible : isBlankText c.password = false := by
    cases letters : c.password.toList with
    | nil => exact absurd (String.toList_eq_nil_iff.mp letters) present
    | cons a rest =>
      have first : isBlank a = false := solid a (by rw [letters]; exact List.mem_cons_self)
      simp [isBlankText, letters, first]
  unfold settled
  rw [disabled, if_neg Bool.false_ne_true, visible, if_neg Bool.false_ne_true,
    trimEnd_of_none solid, String.ofList_toList]

/-- Credentials with a solid password come back with that password and a trimmed secret. -/
theorem settled_of_solid {c : Credential} (present : c.password ≠ "")
    (solid : c.HasSolidPassword) :
    ∃ secret, c.settled = some { c with totpSecret := secret } := by
  by_cases enabled : c.totpEnabled = true
  · exact ⟨_, if_pos enabled⟩
  · exact ⟨"", settled_of_disabled present solid (Bool.eq_false_iff.mpr enabled)⟩

/-- The line of credentials joins their fields with colons. -/
theorem line_toList (c : Credential) :
    c.line.toList = c.username.toList ++ ':' ::
      (if c.totpEnabled then c.password.toList ++ ':' :: c.totpSecret.toList
      else c.password.toList) := by
  unfold line
  split <;> simp

/-- A legible line starts with a character that is neither blank nor the sign of a comment. -/
theorem line_head {c : Credential} (name : IsLegibleName c.username) :
    ∃ a rest, c.line.toList = a :: rest ∧ isBlank a = false ∧ a ≠ '#' := by
  obtain ⟨a, rest, letters, solid, other⟩ := name.head
  rw [line_toList, letters]
  exact ⟨a, _, List.cons_append, solid, other⟩

/-- A legible line is neither blank nor a comment. -/
theorem line_not_passedOver {c : Credential} (name : IsLegibleName c.username) :
    isPassedOver c.line.toList = false := by
  obtain ⟨a, rest, letters, solid, other⟩ := line_head name
  rw [letters, isPassedOver, trimStart_cons_of_not rest solid]
  simpa using other

/-- The characters of a field make no line boundary. -/
theorem isLine_of_fits {s : String} (fits : FitsField s) : IsLine s.toList :=
  fun c inside => (fits c inside).2

/-- Legible credentials make one line. -/
theorem isLine_line {c : Credential} (legible : c.Legible) : IsLine c.line.toList := by
  have name := isLine_of_fits legible.name.fits
  have password := isLine_of_fits legible.fields.password
  have secret := isLine_of_fits legible.fields.secret
  have colon : isLineBreak ':' = false := by decide
  intro a inside
  rw [line_toList] at inside
  split at inside <;>
    simp only [List.mem_append, List.mem_cons] at inside
  · rcases inside with inside | rfl | inside | rfl | inside
    · exact name a inside
    · exact colon
    · exact password a inside
    · exact colon
    · exact secret a inside
  · rcases inside with inside | rfl | inside
    · exact name a inside
    · exact colon
    · exact password a inside

/-- A field holds no separator. -/
theorem colon_not_mem {s : String} (fits : FitsField s) : ':' ∉ s.toList :=
  fun inside => (fits ':' inside).1 rfl

/-- Whether the fields of credentials can be told apart in their line: none of them holds a
separator, the first two are there, and the line is not trimmed at its start. -/
structure IsSeparable (c : Credential) : Prop where
  head : ∃ a rest, c.username.toList = a :: rest ∧ isBlank a = false
  username : ':' ∉ c.username.toList
  given : c.password ≠ ""
  password : ':' ∉ c.password.toList
  totpSecret : ':' ∉ c.totpSecret.toList

/-- The fields of legible credentials can be told apart. -/
theorem Legible.separable {c : Credential} (legible : c.Legible) : c.IsSeparable where
  head := by
    obtain ⟨a, rest, letters, solid, -⟩ := legible.name.head
    exact ⟨a, rest, letters, solid⟩
  username := colon_not_mem legible.name.fits
  given := legible.fields.present
  password := colon_not_mem legible.fields.password
  totpSecret := colon_not_mem legible.fields.secret

/-- A line whose fields can be told apart gives back the settled form of its credentials. -/
theorem ofLine?_line {c : Credential} (separable : c.IsSeparable) :
    ofLine? c.line.toList = c.settled := by
  obtain ⟨a, start, letters, solid⟩ := separable.head
  have named : c.username.toList.isEmpty = false := by rw [letters, List.isEmpty_cons]
  have colon : isBlank ':' = false := by decide
  have kept {s : List Char} (absent : ':' ∉ s) : ':' ∉ trimEnd isBlank s :=
    fun inside => absent ((trimEnd_initial isBlank s).subset inside)
  have trimmed : trimBoth isBlank c.line.toList = trimEnd isBlank c.line.toList := by
    rw [trimBoth, line_toList, letters, List.cons_append, trimStart_cons_of_not _ solid]
  rw [ofLine?, trimmed, line_toList, trimEnd_append_cons_of_not _ _ colon,
    pieces_append_sep _ separable.username]
  unfold settled
  by_cases enabled : c.totpEnabled = true
  · have given : c.password.toList.isEmpty = false := by
      rw [List.isEmpty_eq_false_iff]
      exact mt String.toList_eq_nil_iff.mp separable.given
    rw [if_pos enabled, if_pos enabled, trimEnd_append_cons_of_not _ _ colon,
      pieces_append_sep _ separable.password, pieces_of_not_mem (kept separable.totpSecret)]
    simp [ofFields?, named, given]
  · rw [if_neg enabled, if_neg enabled, pieces_of_not_mem (kept separable.password)]
    by_cases blank : isBlankText c.password = true
    · have gone : trimEnd isBlank c.password.toList = [] := by
        rw [trimEnd_eq_nil_iff]
        exact List.all_eq_true.mp blank
      simp [ofFields?, named, gone, blank]
    · have left : (trimEnd isBlank c.password.toList).isEmpty = false := by
        rw [List.isEmpty_eq_false_iff, Ne, trimEnd_eq_nil_iff]
        exact fun all => blank (List.all_eq_true.mpr all)
      simp [ofFields?, named, left, blank]

/-- Fields give credentials where the first two are there, and a third one or none is the secret. -/
theorem ofFields?_eq_some {fields : List (List Char)} {c : Credential}
    (read : ofFields? fields = some c) :
    ∃ username password rest, fields = username :: password :: rest ∧ username ≠ [] ∧
      password ≠ [] ∧
      c = ⟨String.ofList username, String.ofList password, String.ofList (rest.head?.getD [])⟩ := by
  match fields, read with
  | username :: password :: rest, read =>
    rw [ofFields?] at read
    split at read
    · cases read
    · rename_i present
      obtain ⟨named, given⟩ := not_or.mp (mt Bool.or_eq_true_iff.mpr present)
      exact ⟨username, password, rest, rfl, mt List.isEmpty_iff.mpr named,
        mt List.isEmpty_iff.mpr given, (Option.some.inj read).symm⟩

/-- What holds of credentials that were read from a line: their fields hold its characters and no
separator, the first two are there, and the first one starts as the trimmed line does. -/
structure IsReadFrom (c : Credential) (line : List Char) : Prop where
  head : ∃ a letters rest, c.username.toList = a :: letters ∧ trimBoth isBlank line = a :: rest
  username : ∀ b ∈ c.username.toList, b ∈ line ∧ b ≠ ':'
  given : c.password ≠ ""
  password : ∀ b ∈ c.password.toList, b ∈ line ∧ b ≠ ':'
  totpSecret : ∀ b ∈ c.totpSecret.toList, b ∈ line ∧ b ≠ ':'

/-- The fields of credentials are the first pieces of the trimmed line. -/
theorem isReadFrom_of_ofLine? {line : List Char} {c : Credential} (read : ofLine? line = some c) :
    c.IsReadFrom line := by
  obtain ⟨username, password, rest, split, named, given, rfl⟩ := ofFields?_eq_some read
  have within {piece : List Char} (among : piece ∈ pieces ':' (trimBoth isBlank line)) :
      ∀ b ∈ (String.ofList piece).toList, b ∈ line ∧ b ≠ ':' := by
    intro b inside
    rw [String.toList_ofList] at inside
    obtain ⟨inner, other⟩ := mem_pieces among b inside
    exact ⟨mem_of_mem_trimBoth inner, other⟩
  refine ⟨?_, within (by simp [split]), ?_, within (by simp [split]), ?_⟩
  · cases trimmed : trimBoth isBlank line with
    | nil =>
      rw [trimmed, pieces] at split
      exact absurd (List.cons.inj split).2 (List.cons_ne_nil _ _).symm
    | cons a more =>
      cases username with
      | nil => exact absurd rfl named
      | cons b letters =>
        rw [trimmed] at split
        rw [pieces_head split, String.toList_ofList]
        exact ⟨a, letters, more, rfl, rfl⟩
  · rw [Ne, ← String.toList_eq_nil_iff, String.toList_ofList]
    exact given
  · cases rest with
    | nil => intro b inside; cases inside
    | cons secret _ => exact within (by simp [split])

/-- The fields of credentials that were read from a line can be told apart. -/
theorem IsReadFrom.separable {line : List Char} {c : Credential} (origin : c.IsReadFrom line) :
    c.IsSeparable where
  head := by
    obtain ⟨a, letters, rest, starts, trimmed⟩ := origin.head
    exact ⟨a, letters, starts, trimBoth_head trimmed⟩
  username inside := (origin.username ':' inside).2 rfl
  given := origin.given
  password inside := (origin.password ':' inside).2 rfl
  totpSecret inside := (origin.totpSecret ':' inside).2 rfl

/-- Credentials that were read from a whole line that is not passed over are legible. -/
theorem IsReadFrom.legible {line : List Char} {c : Credential} (origin : c.IsReadFrom line)
    (whole : IsLine line) (counted : isPassedOver line = false) : c.Legible := by
  have fits {s : String} (within : ∀ b ∈ s.toList, b ∈ line ∧ b ≠ ':') : FitsField s :=
    fun b inside => ⟨(within b inside).2, whole b (within b inside).1⟩
  refine ⟨⟨?_, fits origin.username⟩, fits origin.password, origin.given, fits origin.totpSecret⟩
  obtain ⟨a, letters, rest, starts, trimmed⟩ := origin.head
  refine ⟨a, letters, starts, trimBoth_head trimmed, ?_⟩
  rintro rfl
  obtain ⟨dropped, start⟩ := trimEnd_initial isBlank (trimStart isBlank line)
  rw [show trimEnd isBlank (trimStart isBlank line) = '#' :: rest from trimmed] at start
  rw [isPassedOver, ← start, List.cons_append] at counted
  exact absurd counted (by simp)

end Credential

/-- All that is read from a users file is legible. -/
theorem parse_legible (text : String) : ∀ c ∈ parse text, c.Legible := by
  intro c inside
  obtain ⟨line, among, read⟩ := List.mem_filterMap.mp inside
  by_cases passed : isPassedOver line = true
  · rw [if_pos passed] at read; cases read
  · rw [if_neg passed] at read
    exact (Credential.isReadFrom_of_ofLine? read).legible (splitLines_whole text.toList line among)
      (Bool.eq_false_iff.mpr passed)

/-- Legible credentials in front of others are read back settled and in order. -/
theorem parse_print_append (front back : List Credential) (legible : ∀ c ∈ front, c.Legible) :
    parse (print (front ++ back)) = front.filterMap Credential.settled ++ parse (print back) := by
  have lines : (print (front ++ back)).toList =
      (front.map fun c => c.line.toList).flatMap (· ++ ['\n']) ++ (print back).toList := by
    simp only [print, String.toList_ofList, List.flatMap_append, List.flatMap_map]
  have whole : ∀ line ∈ front.map fun c => c.line.toList, IsLine line := by
    intro line among
    obtain ⟨c, inside, rfl⟩ := List.mem_map.mp among
    exact Credential.isLine_line (legible c inside)
  unfold parse
  rw [lines, splitLines_flatMap_feed _ _ whole, List.filterMap_append, List.filterMap_map]
  congr 1
  apply List.filterMap_congr
  intro c inside
  simp [Credential.line_not_passedOver (legible c inside).name,
    Credential.ofLine?_line (legible c inside).separable]

/-- Legible credentials are read back settled and in order. -/
theorem parse_print (all : List Credential) (legible : ∀ c ∈ all, c.Legible) :
    parse (print all) = all.filterMap Credential.settled := by
  have back := parse_print_append all [] legible
  rw [List.append_nil] at back
  rw [back]
  exact List.append_nil _

/-- The first credentials are those of the user, or the search goes on. -/
theorem lookup?_cons (username : String) (c : Credential) (rest : List Credential) :
    lookup? username (c :: rest) =
      if c.username = username then some c else lookup? username rest := by
  by_cases own : c.username = username <;> simp [lookup?, own]

/-- Credentials that were looked up are those of the user, and stand in the list. -/
theorem lookup?_eq_some {username : String} {all : List Credential} {c : Credential}
    (found : lookup? username all = some c) : c.username = username ∧ c ∈ all :=
  ⟨by simpa using List.find?_some found, List.mem_of_find?_eq_some found⟩

/-- Credentials that were put in place are found. -/
theorem lookup?_replaceOrAppend_self (c : Credential) (all : List Credential) :
    lookup? c.username (replaceOrAppend c all) = some c := by
  induction all with
  | nil => rw [replaceOrAppend, lookup?_cons, if_pos rfl]
  | cons d rest ih =>
    rw [replaceOrAppend]
    by_cases own : d.username = c.username
    · rw [if_pos own, lookup?_cons, if_pos rfl]
    · rw [if_neg own, lookup?_cons, if_neg own, ih]

/-- Putting credentials in place keeps what is found for others. -/
theorem lookup?_replaceOrAppend_of_ne {username : String} {c : Credential}
    (other : c.username ≠ username) (all : List Credential) :
    lookup? username (replaceOrAppend c all) = lookup? username all := by
  induction all with
  | nil => rw [replaceOrAppend, lookup?_cons, if_neg other]
  | cons d rest ih =>
    rw [replaceOrAppend]
    by_cases own : d.username = c.username
    · rw [if_pos own, lookup?_cons, lookup?_cons, if_neg other, if_neg (own ▸ other)]
    · rw [if_neg own, lookup?_cons, lookup?_cons, ih]

/-- Credentials of a user who has none go to the end. -/
theorem replaceOrAppend_of_absent {c : Credential} {all : List Credential}
    (absent : lookup? c.username all = none) : replaceOrAppend c all = all ++ [c] := by
  induction all with
  | nil => rfl
  | cons d rest ih =>
    rw [lookup?_cons] at absent
    by_cases own : d.username = c.username
    · rw [if_pos own] at absent; cases absent
    · rw [if_neg own] at absent
      rw [replaceOrAppend, if_neg own, ih absent, List.cons_append]

/-- Putting credentials in place brings in nothing else. -/
theorem mem_replaceOrAppend {c d : Credential} {all : List Credential}
    (inside : d ∈ replaceOrAppend c all) : d = c ∨ d ∈ all := by
  induction all with
  | nil => exact .inl (List.mem_singleton.mp inside)
  | cons e rest ih =>
    rw [replaceOrAppend] at inside
    by_cases own : e.username = c.username
    · rw [if_pos own] at inside
      rcases List.mem_cons.mp inside with same | inside
      · exact .inl same
      · exact .inr (List.mem_cons_of_mem e inside)
    · rw [if_neg own] at inside
      rcases List.mem_cons.mp inside with same | inside
      · exact .inr (same ▸ List.mem_cons_self)
      · exact (ih inside).imp id (List.mem_cons_of_mem e)

/-- What is found for a user comes back settled, whatever stands behind. -/
theorem lookup?_settled {username : String} {all : List Credential} {c d : Credential}
    (found : lookup? username all = some c) (back : c.settled = some d) (rest : List Credential) :
    lookup? username (all.filterMap Credential.settled ++ rest) = some d := by
  induction all with
  | nil => cases found
  | cons e more ih =>
    rw [lookup?_cons] at found
    by_cases own : e.username = username
    · rw [if_pos own] at found
      obtain rfl := Option.some.inj found
      rw [List.filterMap_cons_some back, List.cons_append, lookup?_cons,
        Credential.settled_username back, if_pos own]
    · rw [if_neg own] at found
      cases kept : e.settled with
      | none => rw [List.filterMap_cons_none kept, ih found]
      | some f =>
        rw [List.filterMap_cons_some kept, List.cons_append, lookup?_cons,
          Credential.settled_username kept, if_neg own, ih found]

/-- Credentials that take the place of legible ones under a legible name leave all legible. -/
theorem replaceOrAppend_legible {c d : Credential} {all : List Credential}
    (legible : ∀ e ∈ all, e.Legible) (writable : c.IsWritable)
    (found : lookup? c.username all = some d) : ∀ e ∈ replaceOrAppend c all, e.Legible := by
  obtain ⟨own, among⟩ := lookup?_eq_some found
  intro e inside
  rcases mem_replaceOrAppend inside with rfl | inside
  · exact ⟨own ▸ (legible d among).name, writable⟩
  · exact legible e inside

/-- A change of one user leaves what is found for another as it settles. -/
theorem lookup?_replaced_of_ne {username : String} {all : List Credential} {c d e : Credential}
    (legible : ∀ f ∈ all, f.Legible) (writable : c.IsWritable) (other : c.username ≠ username)
    (found : lookup? username all = some d) (back : d.settled = some e) :
    lookup? username (parse (print (replaceOrAppend c all))) = some e := by
  cases own : lookup? c.username all with
  | none =>
    rw [replaceOrAppend_of_absent own, parse_print_append all [c] legible]
    exact lookup?_settled found back _
  | some f =>
    have kept : lookup? username (replaceOrAppend c all) = some d := by
      rw [lookup?_replaceOrAppend_of_ne other, found]
    rw [parse_print _ (replaceOrAppend_legible legible writable own), ← List.append_nil
      (List.filterMap _ _)]
    exact lookup?_settled kept back []

/-- Credentials that take the place of others of their user are found as they settle. -/
theorem lookup?_replaced_self {all : List Credential} {c d e : Credential}
    (legible : ∀ f ∈ all, f.Legible) (writable : c.IsWritable)
    (found : lookup? c.username all = some d) (back : c.settled = some e) :
    lookup? c.username (parse (print (replaceOrAppend c all))) = some e := by
  rw [parse_print _ (replaceOrAppend_legible legible writable found), ← List.append_nil
    (List.filterMap _ _)]
  exact lookup?_settled (lookup?_replaceOrAppend_self c all) back []

end AccountSidecar.Users
