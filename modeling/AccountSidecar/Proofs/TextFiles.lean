import AccountSidecar.Proofs.UsersFile

/-!
# Files that hold text

Both stores write text. So whatever they write, create or move, also where that fails half-way, a
location that held no other file than text still holds no other (`Users.isText_commit`,
`Metadata.isText_commit`), wherever it lies. Of the faults of the two stores only those of what a
file holds, and that of a file which is hidden, are not reported as the stores' own, and which they
are follows from what stands at the location of the file.
-/

namespace AccountSidecar.Storage.FileTree

/-- Whether it is told what a location holds, and that is UTF-8 text if it is a file. -/
structure IsText (t : FileTree) (l : Location) : Prop where
  seen : t.hides l = false
  text : ∀ content, t.node? l = some (.file content) → (String.fromUTF8? content).isSome

variable {t u : FileTree} {l m : Location}

/-- Where a directory stands nothing else does. -/
theorem node?_of_isDirectory (stands : t.isDirectory l = true) :
    t.node? l = some .directory := by
  unfold isDirectory at stands
  split at stands
  · assumption
  · cases stands

/-- What is seen of a file that is not hidden is its content. -/
theorem node?_of_look {content : ByteArray} (seen : t.look l = .content content) :
    t.node? l = some (.file content) ∧ t.hides l = false := by
  unfold look at seen
  split at seen
  case h_4 same =>
    obtain rfl := Look.content.inj seen
    exact ⟨congrArg Prod.fst same, congrArg Prod.snd same⟩
  all_goals cases seen

/-- A location where written text is seen holds text. -/
theorem isText_of_look {s : String} (seen : t.look l = .content s.toUTF8) : t.IsText l := by
  obtain ⟨stands, told⟩ := node?_of_look seen
  refine ⟨told, fun content stands' => ?_⟩
  obtain rfl := Node.file.inj (Option.some.inj (stands.symm.trans stands'))
  rw [Users.fromUTF8?_toUTF8]
  rfl

/-- A location of which it is not told what it holds is hidden. -/
theorem hides_of_look (hidden : t.look l = .hidden) : t.hides l = true := by
  unfold look at hidden
  split at hidden
  case h_1 same => exact congrArg Prod.snd same
  all_goals cases hidden

/-- A directory that is not hidden cannot be read. -/
theorem look_of_isDirectory (stands : t.isDirectory l = true) :
    t.look l = .hidden ∨ t.look l = .unreadable := by
  unfold look place
  rw [node?_of_isDirectory stands]
  cases t.hides l with
  | true => exact .inl rfl
  | false => exact .inr rfl

/-- A location that is set to text holds text, and any other one keeps what it holds. -/
theorem IsText.set_text (holds : t.IsText l) (s : String) :
    (t.set m (.file s.toUTF8)).IsText l := by
  refine ⟨holds.seen, fun content stands => ?_⟩
  by_cases own : l = m
  · rw [own, node?_set_self] at stands
    obtain rfl := Node.file.inj (Option.some.inj stands)
    rw [Users.fromUTF8?_toUTF8]
    rfl
  · rw [node?_set_of_ne _ own] at stands
    exact holds.text content stands

/-- Making directories keeps text. -/
theorem IsText.makeDirectories? (holds : t.IsText l) (made : t.makeDirectories? m = some u) :
    u.IsText l := by
  refine ⟨by rw [(makeBelow?_permissions made).2]; exact holds.seen, fun content stands => ?_⟩
  rcases makeBelow?_node? made l with kept | ⟨-, new, -⟩
  · exact holds.text content (kept ▸ stands)
  · rw [new] at stands
    cases stands

/-- Writing text keeps text. -/
theorem IsText.write? (holds : t.IsText l) {s : String} (written : t.write? m s.toUTF8 = some u) :
    u.IsText l := by
  obtain ⟨-, rfl⟩ := write?_eq_some written
  exact holds.set_text s

/-- Moving text keeps text. -/
theorem IsText.rename? {source : Location} (holds : t.IsText l) (moving : t.IsText source)
    (moved : t.rename? source m = some u) : u.IsText l := by
  unfold FileTree.rename? at moved
  split at moved
  · rename_i content stands
    split at moved
    · cases moved
    · obtain rfl := Option.some.inj moved
      refine ⟨holds.seen, fun content' stands' => ?_⟩
      by_cases own : l = m
      · rw [own, node?_set_self] at stands'
        obtain rfl := Node.file.inj (Option.some.inj stands')
        exact moving.text content stands
      · rw [node?_set_of_ne _ own] at stands'
        refine holds.text content' ?_
        unfold remove at stands'
        dsimp only at stands'
        split at stands'
        · cases stands'
        · exact stands'
  · cases moved

/-- Writing text beside a file and moving it into place keeps text. -/
theorem IsText.replace {file : Location} {s : String} (holds : t.IsText l)
    (written : t.write? file.temporary s.toUTF8 = some u) :
    u.IsText l ∧ ∀ v, u.rename? file.temporary file = some v → v.IsText l := by
  have kept := holds.write? written
  obtain ⟨⟨free, -⟩, rfl⟩ := write?_eq_some written
  have moving : (t.set file.temporary (.file s.toUTF8)).IsText file.temporary := by
    refine ⟨(seen_of_free free).2.1, fun content stands => ?_⟩
    rw [node?_set_self] at stands
    obtain rfl := Node.file.inj (Option.some.inj stands)
    rw [Users.fromUTF8?_toUTF8]
    rfl
  exact ⟨kept, fun v moved => kept.rename? moving moved⟩

end AccountSidecar.Storage.FileTree

namespace AccountSidecar.Users

open Storage FileTree

variable {files : FileTree} {file l : Location}

/-- Writing the users file keeps text, also where it fails. -/
theorem isText_commit (holds : files.IsText l) (file : Location) (s : String) :
    (commit files file s.toUTF8).2.IsText l := by
  unfold commit
  split
  · exact holds
  · cases made : files.makeDirectories? file.parent with
    | none => exact holds
    | some t =>
      have holds := holds.makeDirectories? made
      dsimp only
      cases written : t.write? file.temporary s.toUTF8 with
      | none => exact holds
      | some u =>
        obtain ⟨kept, replaced⟩ := holds.replace written
        dsimp only
        cases moved : u.rename? file.temporary file with
        | none => exact kept
        | some v => exact replaced v moved

/-- A change of credentials keeps text, also where it fails. -/
theorem isText_upsert (holds : files.IsText l) (file : Location) (c : Credential) :
    (upsert files file c).2.IsText l := by
  unfold upsert
  split
  · exact holds
  · split
    · exact holds
    · exact isText_commit holds file _

/-- Where the file holds text, reading it fails with an error of the store's own, if at all. -/
theorem load_reported (text : files.IsText file) {e : StoreError}
    (failed : load files file = .error e) : e.isReported = true := by
  unfold load at failed
  split at failed
  · rename_i hidden
    have hides := hides_of_look hidden
    rw [text.seen] at hides
    cases hides
  · cases failed
  · obtain rfl := Except.error.inj failed
    rfl
  · rename_i content stands
    obtain ⟨decoded, read⟩ :=
      Option.isSome_iff_exists.mp (text.text content (node?_of_look stands).1)
    rw [read] at failed
    cases failed

/-- The working directory cannot be read. -/
theorem load_of_rooted (rooted : files.isDirectory [] = true) : ∃ e, load files [] = .error e := by
  unfold load
  rcases look_of_isDirectory rooted with hidden | unreadable
  · exact ⟨.unseen, by rw [hidden]⟩
  · exact ⟨.unreadable, by rw [unreadable]⟩

/-- Where the file is hidden or holds something else than text, reading it fails with a fault. -/
theorem load_of_not_text (broken : ¬ files.IsText file) :
    ∃ e, load files file = .error e ∧ e.isReported = false := by
  unfold load
  cases hidden : files.hides file with
  | true => exact ⟨.unseen, by simp only [look, place, hidden], rfl⟩
  | false =>
    have other : ¬ ∀ content, files.node? file = some (.file content) →
        (String.fromUTF8? content).isSome := fun text => broken ⟨hidden, text⟩
    push Not at other
    obtain ⟨content, stands, undecoded⟩ := other
    have none : String.fromUTF8? content = none := by simpa using undecoded
    refine ⟨.undecodable, ?_, rfl⟩
    simp only [look_eq_content stands hidden, none]

/-- Putting content in place fails with an error of the store's own, if at all, where the file has a
name. -/
theorem commit_reported {t : FileTree} {content : ByteArray} (named : file ≠ []) {e : StoreError}
    (failed : commit files file content = (.error e, t)) : e.isReported = true := by
  unfold commit at failed
  simp only [List.isEmpty_iff, named, if_false] at failed
  -- Every step that may fail has an error of its own; the last one comes to the end.
  repeat' split at failed
  all_goals first
    | cases (Prod.mk.inj failed).1; rfl
    | cases (Prod.mk.inj failed).1

/-- Where the name is invalid or the file holds text, a change of credentials fails with an error of
the store's own, if at all: a file without a name is the working directory, which cannot be read. -/
theorem upsert_reported {t : FileTree} {c : Credential}
    (text : isValidUsername c.username = true → files.IsText file)
    (rooted : file = [] → files.isDirectory [] = true) {e : StoreError}
    (failed : upsert files file c = (.error e, t)) : e.isReported = true := by
  unfold upsert at failed
  split at failed
  · obtain rfl := Except.error.inj (Prod.mk.inj failed).1
    rfl
  · rename_i valid
    split at failed
    · rename_i e' unread
      obtain rfl := Except.error.inj (Prod.mk.inj failed).1
      exact load_reported (text (by simpa using valid)) unread
    · rename_i all read
      refine commit_reported ?_ failed
      rintro rfl
      obtain ⟨e, unread⟩ := load_of_rooted (rooted rfl)
      rw [unread] at read
      cases read

/-- A change of credentials changes nothing where the file is the working directory. -/
theorem upsert_of_rooted (rooted : files.isDirectory [] = true) (c : Credential) :
    (upsert files [] c).2 = files := by
  obtain ⟨e, unread⟩ := load_of_rooted rooted
  unfold upsert
  rw [unread]
  split <;> rfl

/-- A change of credentials under a valid name fails with a fault where the file is hidden or holds
something else than text. -/
theorem upsert_of_not_text {c : Credential} (valid : isValidUsername c.username = true)
    (broken : ¬ files.IsText file) :
    ∃ e, upsert files file c = (.error e, files) ∧ e.isReported = false := by
  obtain ⟨e, unread, fault⟩ := load_of_not_text broken
  refine ⟨e, ?_, fault⟩
  unfold upsert
  simp only [valid, Bool.not_true, Bool.false_eq_true, if_false, unread]

end AccountSidecar.Users

namespace AccountSidecar.Metadata

open Storage FileTree

variable {calls : Nat} {files : FileTree} {file l : Location}

/-- Writing metadata keeps text, also where it fails. -/
theorem isText_commit (holds : files.IsText l) (file : Location) (entries : Keyed Entry) :
    (commit files file entries).2.IsText l := by
  unfold commit
  split
  · exact holds
  · cases written : files.write? file.temporary (print entries).toUTF8 with
    | none => exact holds
    | some u =>
      obtain ⟨kept, replaced⟩ := holds.replace written
      dsimp only
      cases moved : u.rename? file.temporary file with
      | none => exact kept
      | some v => exact replaced v moved

/-- Whether it is told what a metadata file holds, and that, if it is a file, is text, its numbers
have few enough digits to be texts, and no more calls are needed to read it than there are. -/
@[mk_iff isLegible_iff]
structure IsLegible (calls : Nat) (files : FileTree) (file : Location) : Prop where
  seen : files.hides file = false
  text : ∀ content, files.node? file = some (.file content) →
    ∃ text, String.fromUTF8? content = some text ∧
      parse calls text ≠ .error .numberTooLong ∧ parse calls text ≠ .error .tooDeep

/-- A legible file is read, or reading it fails with an error of the store's own. -/
theorem load_reported (legible : IsLegible calls files file) {e : StoreError}
    (failed : load calls files file = .error e) : e.isReported = true := by
  unfold load decode at failed
  split at failed
  · rename_i hidden
    have hides := hides_of_look hidden
    rw [legible.seen] at hides
    cases hides
  · cases failed
  · obtain rfl := Except.error.inj failed
    rfl
  · rename_i content stands
    obtain ⟨text, decoded, fits, shallow⟩ := legible.text content (node?_of_look stands).1
    rw [decoded] at failed
    dsimp only at failed
    split at failed
    · cases failed
    · obtain rfl := Except.error.inj failed
      rfl
    · rename_i tooLong
      exact absurd tooLong fits
    · rename_i tooDeep
      exact absurd tooDeep shallow

/-- A file that is not legible is not read, and the fault is not one of the store's own errors. -/
theorem load_of_not_legible (broken : ¬ IsLegible calls files file) :
    ∃ e, load calls files file = .error e ∧ e.isReported = false := by
  unfold load decode
  cases hidden : files.hides file with
  | true => exact ⟨.unseen, by simp only [look, place, hidden], rfl⟩
  | false =>
    have other : ¬ ∀ content, files.node? file = some (.file content) →
        ∃ text, String.fromUTF8? content = some text ∧
          parse calls text ≠ .error .numberTooLong ∧ parse calls text ≠ .error .tooDeep :=
      fun text => broken ⟨hidden, text⟩
    push Not at other
    obtain ⟨content, stands, fault⟩ := other
    simp only [look_eq_content stands hidden]
    cases decoded : String.fromUTF8? content with
    | none => exact ⟨_, rfl, rfl⟩
    | some text =>
      dsimp only
      by_cases tooLong : parse calls text = .error .numberTooLong
      · rw [tooLong]
        exact ⟨_, rfl, rfl⟩
      · rw [fault text decoded tooLong]
        exact ⟨_, rfl, rfl⟩

/-- Writing metadata fails with an error of the store's own, if at all, where the file has a
name. -/
theorem commit_reported {t : FileTree} {entries : Keyed Entry} (named : file ≠ [])
    {e : StoreError} (failed : commit files file entries = (.error e, t)) :
    e.isReported = true := by
  unfold commit at failed
  simp only [List.isEmpty_iff, named, if_false] at failed
  -- Every step that may fail has an error of its own; the last one comes to the end.
  repeat' split at failed
  all_goals first
    | cases (Prod.mk.inj failed).1; rfl
    | cases (Prod.mk.inj failed).1

/-- Making the directory of a file leaves what the file holds. -/
theorem isLegible_of_made {t : FileTree} (made : files.makeDirectories? file.parent = some t) :
    IsLegible calls t file ↔ IsLegible calls files file := by
  have kept : t.place file = files.place file := by
    by_cases named : file = []
    · subst named
      obtain rfl := Option.some.inj made
      rfl
    · exact makeDirectories?_kept named made
  rw [isLegible_iff, isLegible_iff, hides_congr kept, node?_congr kept]

/-- Opening a file fails with an error of the store's own, if at all, exactly where it is legible or
its directory cannot be made. -/
theorem openAt_reported_iff :
    (∀ e, (openAt calls files file).1 = .error e → e.isReported = true) ↔
      ((files.makeDirectories? file.parent).isSome → IsLegible calls files file) := by
  unfold openAt
  cases made : files.makeDirectories? file.parent with
  | none => simp [StoreError.isReported]
  | some t =>
    rw [← isLegible_of_made made]
    constructor
    · intro reported _
      refine Classical.byContradiction fun broken => ?_
      obtain ⟨e, failed, fault⟩ := load_of_not_legible broken
      rw [reported e failed] at fault
      cases fault
    · intro legible e failed
      exact load_reported (legible rfl) failed

/-- A file that was opened in a tree with a working directory has a name. -/
theorem named_of_openAt {t : FileTree} {entries : Keyed Entry}
    (rooted : files.isDirectory [] = true) (opened : openAt calls files file = (.ok entries, t)) :
    file ≠ [] := by
  rintro rfl
  have unread : ∃ e, (openAt calls files []).1 = .error e := by
    unfold openAt load
    simp only [Location.parent, List.dropLast_nil, FileTree.makeDirectories?, FileTree.makeBelow?]
    rcases look_of_isDirectory rooted with hidden | unreadable
    · exact ⟨.unseen, by rw [hidden]⟩
    · exact ⟨.malformed _, by rw [unreadable]⟩
  obtain ⟨e, unread⟩ := unread
  rw [opened] at unread
  cases unread

end AccountSidecar.Metadata
