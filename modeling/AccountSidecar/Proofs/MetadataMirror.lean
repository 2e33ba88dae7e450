import AccountSidecar.Proofs.MetadataText
import AccountSidecar.Proofs.Running

/-!
# Metadata in memory and in the file

After every run of changes of the metadata, whichever of their writes and moves failed, opening the
file anew gives what is in memory: the same users in the same order with the same entries
(`metadata_reopened`). A change that fails leaves both as they were. Others may do to the files what
they like, as long as they keep the metadata file and the directories that lead to it.
-/

namespace AccountSidecar

open Storage

namespace Metadata

/-- What is read depends on the file alone. -/
theorem load_congr {calls : Nat} {files files' : FileTree} {file : Location}
    (kept : files'.place file = files.place file) :
    load calls files' file = load calls files file := by
  unfold load
  rw [FileTree.look_congr kept]

/-- Metadata that was read is of distinct users. -/
theorem load_distinct {calls : Nat} {files : FileTree} {file : Location} {entries : Keyed Entry}
    (read : load calls files file = .ok entries) : entries.Distinct := by
  unfold load decode at read
  split at read
  · cases read
  · obtain rfl := Except.ok.inj read
    exact List.nodup_nil
  · cases read
  · split at read
    · cases read
    · split at read
      · rename_i whole
        exact Except.ok.inj read ▸ parse_distinct whole
      · cases read
      · cases read
      · cases read

/-- Metadata of distinct users is read from the file that it was written to. -/
theorem load_of_printed {calls : Nat} {files : FileTree} {file : Location}
    {entries : Keyed Entry} (printed : files.look file = .content (print entries).toUTF8)
    (distinct : entries.Distinct) : load calls files file = .ok entries := by
  simp only [load, decode, printed, Users.fromUTF8?_toUTF8, parse_print distinct]

/-- A change of the metadata of one user. -/
inductive Change where
  | setPhone (username phone : String)
  | setEntry (username : String) (e : Entry)
  | setApproved (username : String) (approved : Bool)

/-- Carries out a change. -/
def Change.perform (d : Deployment) : Change → Action Unit
  | .setPhone username phone => Action.setPhone d username phone
  | .setEntry username e => Action.commitMetadata d username e
  | .setApproved username approved => Action.setApproved d username approved

/-- The metadata of all users after a change of one of them. -/
def Change.applied (entries : Keyed Entry) : Change → Keyed Entry
  | .setPhone username phone =>
    Keyed.put username { (Keyed.find? username entries).getD {} with phone } entries
  | .setEntry username e => Keyed.put username e entries
  | .setApproved username approved =>
    Keyed.put username { (Keyed.find? username entries).getD {} with approved } entries

/-- A change keeps users distinct. -/
theorem Change.applied_distinct {entries : Keyed Entry} (distinct : entries.Distinct) (c : Change) :
    (c.applied entries).Distinct := by
  cases c <;> exact distinct.put _ _

/-- A change writes the metadata of all users, and memory follows where that is done. -/
theorem Change.runIn_perform (d : Deployment) (c : Change) (w : World) :
    (c.perform d).runIn w =
      match commit w.files d.metadataFile (c.applied w.metadata) with
      | (.ok (), files) => (.ok (), { w with files, metadata := c.applied w.metadata })
      | (.error e, files) => (.error (.metadata e), { w with files }) := by
  cases c with
  | setPhone username phone =>
    refine (Action.runIn_bind_ok (Action.runIn_metadataOf username w)).trans ?_
    exact Action.runIn_commitMetadata d username _ w
  | setEntry username e => exact Action.runIn_commitMetadata d username e w
  | setApproved username approved =>
    refine (Action.runIn_bind_ok (Action.runIn_metadataOf username w)).trans ?_
    exact Action.runIn_commitMetadata d username _ w

/-- What happens to the metadata: a change, or something that others do to the files. -/
inductive Happening where
  | change (c : Change)
  | files (f : FileTree → FileTree)

/-- What a happening returns, and the world after it. -/
def Happening.run (d : Deployment) (w : World) : Happening → Except Failure Unit × World
  | .change c => (c.perform d).runIn w
  | .files f => (.ok (), { w with files := f w.files })

/-- Whether a happening keeps the metadata file and the directories that lead to it, if it is none
of the changes. -/
def Happening.KeepsFile (d : Deployment) : Happening → Prop
  | .change _ => True
  | .files f => ∀ t : FileTree, ∀ l, l <+: d.metadataFile → (f t).place l = t.place l

end Metadata

open Metadata

variable {d : Deployment} {w w' : World}

/-- The world after a run of happenings. -/
def World.afterHappenings (d : Deployment) (w : World) (happenings : List Happening) : World :=
  happenings.foldl (fun w h => (h.run d w).2) w

/-- Whether the metadata file holds what is in memory, in directories that stand. -/
structure World.Mirrored (d : Deployment) (w : World) : Prop where
  distinct : w.metadata.Distinct
  made : w.files.makeDirectories? d.metadataFile.parent = some w.files
  held : load d.calls w.files d.metadataFile = .ok w.metadata

namespace World.Mirrored

/-- Opening a mirrored file gives what is in memory and changes nothing. -/
theorem opens (holds : w.Mirrored d) :
    openAt d.calls w.files d.metadataFile = (.ok w.metadata, w.files) := by
  rw [openAt, holds.made]
  simp only [holds.held]

/-- Where the metadata file and the directories that lead to it are kept, it stays mirrored. -/
theorem of_kept (holds : w.Mirrored d) (memory : w'.metadata = w.metadata)
    (kept : ∀ l, l <+: d.metadataFile → w'.files.place l = w.files.place l) : w'.Mirrored d where
  distinct := memory ▸ holds.distinct
  made := FileTree.makeBelow?_again holds.made fun l above =>
    kept l (above.trans (List.dropLast_prefix _))
  held := by rw [load_congr (kept _ List.prefix_rfl), memory, holds.held]

/-- A change that is done writes the whole file, whatever was in it: it is mirrored. -/
theorem of_change {c : Change} (distinct : w.metadata.Distinct)
    (made : w.files.makeDirectories? d.metadataFile.parent = some w.files)
    (done : (c.perform d).runIn w = (.ok (), w')) : w'.Mirrored d := by
  rw [Change.runIn_perform] at done
  rcases commit_cases w.files d.metadataFile (c.applied w.metadata) with ⟨named, able, written⟩ |
    ⟨e, t, failed, -⟩
  · rw [written] at done
    obtain rfl := (Prod.mk.inj done).2
    have distinct := c.applied_distinct distinct
    exact ⟨distinct, FileTree.makeDirectories?_replaced _ named made,
      load_of_printed (FileTree.look_replaced _ able) distinct⟩
  · rw [failed] at done
    cases (Prod.mk.inj done).1

/-- A change keeps the file mirrored, whether it is done or not. -/
theorem change (holds : w.Mirrored d) (c : Change) : ((c.perform d).runIn w).2.Mirrored d := by
  rcases commit_cases w.files d.metadataFile (c.applied w.metadata) with ⟨-, -, written⟩ |
    ⟨e, t, failed, kept⟩
  · exact of_change (c := c) holds.distinct holds.made (by rw [Change.runIn_perform, written])
  · rw [Change.runIn_perform, failed]
    exact holds.of_kept rfl fun l above => kept l (Location.ne_temporary_of_prefix above)

/-- A happening that keeps the metadata file, if it is none of the changes, keeps it mirrored. -/
theorem happening (holds : w.Mirrored d) {h : Happening} (keeps : h.KeepsFile d) :
    (h.run d w).2.Mirrored d := by
  cases h with
  | change c => exact holds.change c
  | files f => exact holds.of_kept rfl (keeps w.files)

/-- A run of happenings that keep the metadata file, apart from the changes, keeps it mirrored. -/
theorem afterHappenings (holds : w.Mirrored d) {happenings : List Happening}
    (keep : ∀ h ∈ happenings, h.KeepsFile d) : (w.afterHappenings d happenings).Mirrored d := by
  induction happenings generalizing w with
  | nil => exact holds
  | cons h rest ih =>
    have next := holds.happening (keep h List.mem_cons_self)
    exact ih next fun h inside => keep h (List.mem_cons_of_mem _ inside)

/-- A file that was opened is mirrored. -/
theorem of_start {files opened : FileTree} {clock : Int}
    (opens : World.start d files clock = (.ok w, opened)) : w.Mirrored d := by
  unfold World.start openAt at opens
  cases made : files.makeDirectories? d.metadataFile.parent with
  | none => rw [made] at opens; cases (Prod.mk.inj opens).1
  | some t =>
    rw [made] at opens
    dsimp only at opens
    cases read : load d.calls t d.metadataFile with
    | error e => rw [read] at opens; cases (Prod.mk.inj opens).1
    | ok entries =>
      rw [read] at opens
      obtain rfl := Except.ok.inj (Prod.mk.inj opens).1
      exact ⟨load_distinct read, FileTree.makeBelow?_again made fun _ _ => rfl, read⟩

end World.Mirrored

/-- A change that fails leaves memory as it was and every file but the temporary one. -/
theorem Metadata.Change.kept_of_failed {c : Change} {e : Failure}
    (failed : (c.perform d).runIn w = (.error e, w')) :
    w'.metadata = w.metadata ∧
      ∀ l ≠ d.metadataFile.temporary, w'.files.place l = w.files.place l := by
  rw [Change.runIn_perform] at failed
  rcases commit_cases w.files d.metadataFile (c.applied w.metadata) with ⟨-, -, written⟩ |
    ⟨e', t, stopped, kept⟩
  · rw [written] at failed
    cases (Prod.mk.inj failed).1
  · rw [stopped] at failed
    obtain rfl := (Prod.mk.inj failed).2
    exact ⟨rfl, kept⟩

/-- The metadata file holds what is in memory. After every run of changes from a file that opens, or
from none, whatever of their writes and moves others make fail, opening the file anew gives the very
metadata in memory, and a change that fails leaves memory and the file as they were. -/
theorem metadata_reopened {files opened : FileTree} {clock : Int} {start : World}
    (opens : World.start d files clock = (.ok start, opened)) (happenings : List Happening)
    (keep : ∀ h ∈ happenings, h.KeepsFile d) :
    let w := start.afterHappenings d happenings
    openAt d.calls w.files d.metadataFile = (.ok w.metadata, w.files) ∧
      ∀ c e w', (Change.perform d c).runIn w = (.error e, w') →
        w'.metadata = w.metadata ∧
        w'.files.place d.metadataFile = w.files.place d.metadataFile ∧
        openAt d.calls w'.files d.metadataFile = (.ok w.metadata, w'.files) := by
  intro w
  have mirrored : w.Mirrored d := (World.Mirrored.of_start opens).afterHappenings keep
  refine ⟨mirrored.opens, fun c e w' failed => ?_⟩
  obtain ⟨memory, kept⟩ := Change.kept_of_failed failed
  have beside := Location.ne_temporary_of_prefix (List.prefix_rfl (l := d.metadataFile))
  have still := mirrored.change c
  rw [failed] at still
  exact ⟨memory, kept _ beside, memory ▸ still.opens⟩

/-- A phone is stored under a name with a quote and a line end; then the metadata file refuses the
next change: the theorem at that run. -/
theorem metadata_reopened_refused :
    let d := Deployment.sample false
    let start : World := { files := FileTree.empty }
    let happenings : List Happening := [.change (.setPhone "a\"\n" "+1"),
      .files fun t => { t with refuses := fun l => l = ["metadata"] }]
    let w := start.afterHappenings d happenings
    World.start d FileTree.empty 0 = (.ok start, FileTree.empty) ∧
      (∀ h ∈ happenings, h.KeepsFile d) ∧
      w.metadata = [("a\"\n", { phone := "+1" })] ∧
      (∃ w', (Change.perform d (.setApproved "a\"\n" true)).runIn w =
        (.error (.metadata .unmovable), w')) ∧
      openAt d.calls w.files d.metadataFile = (.ok w.metadata, w.files) ∧
      ∀ c e w', (Change.perform d c).runIn w = (.error e, w') →
        w'.metadata = w.metadata ∧
        w'.files.place d.metadataFile = w.files.place d.metadataFile ∧
        openAt d.calls w'.files d.metadataFile = (.ok w.metadata, w'.files) := by
  intro d start happenings w
  have opens : World.start d FileTree.empty 0 = (.ok start, FileTree.empty) := rfl
  have keep : ∀ h ∈ happenings, h.KeepsFile d := by
    intro h inside
    simp only [happenings, List.mem_cons, List.not_mem_nil, or_false] at inside
    rcases inside with rfl | rfl
    · trivial
    · exact fun _ _ _ => rfl
  exact ⟨opens, keep, rfl, ⟨_, rfl⟩, metadata_reopened opens happenings keep⟩

end AccountSidecar
