import AccountSidecar.Metadata.Store
import AccountSidecar.Users.Store

/-!
# Replacing a file

Both stores write new content beside their file and move it into place. Whether that works depends
on the directories of the tree and on what it refuses (`FileTree.Replaceable`), never on the
content, and where it works the result is `FileTree.replaced`. So a failed write keeps the file, a
write that worked would work again, and what stands elsewhere is kept.
-/

namespace AccountSidecar.Storage

namespace Location

/-- The temporary file stands in the directory of the file. -/
theorem parent_temporary (l : Location) : l.temporary.parent = l.parent := by
  simp [temporary, parent]

/-- The name of a temporary file is not the last name of its file. -/
theorem name_tmp_ne (front : Location) (last : String) :
    name (front ++ [last]) ++ ".tmp" ≠ last := by
  intro same
  by_cases root : front ++ [last] = ["/"]
  · have slash : last = "/" := by
      have ends := congrArg List.getLast? root
      simpa using ends
    rw [root, slash] at same
    exact absurd same (by decide)
  · have longer := congrArg String.length same
    simp [name, root, String.length_append] at longer

/-- No file stands in place of its temporary file or below it. -/
theorem temporary_not_above {l : Location} (named : l ≠ []) : ¬ l.temporary <+: l := by
  intro above
  rcases List.eq_nil_or_concat l with rfl | ⟨front, last, rfl⟩
  · exact named rfl
  · rw [List.concat_eq_append] at above
    have aligned := above.eq_of_length (by simp [temporary, parent])
    have same : [name (front ++ [last]) ++ ".tmp"] = [last] := by
      simpa [temporary, parent] using aligned
    exact name_tmp_ne front last (List.cons.inj same).1

/-- Neither a file nor a directory that leads to it is its temporary file. -/
theorem ne_temporary_of_prefix {l file : Location} (above : l <+: file) : l ≠ file.temporary := by
  rintro rfl
  by_cases named : file = []
  · rw [named] at above
    cases List.prefix_nil.mp above
  · exact temporary_not_above named above

/-- A file does not stand above its own directory. -/
theorem not_above_parent {l : Location} (named : l ≠ []) : ¬ l <+: l.parent := by
  intro above
  have shorter : l.parent.length = l.length - 1 := List.length_dropLast
  have positive : 0 < l.length := List.length_pos_iff.mpr named
  have fits := above.length_le
  omega

end Location

namespace FileTree

/-- A location where a file can be replaced: its directory exists, and neither the place of the file
nor that of its temporary file is blocked. -/
structure Replaceable (t : FileTree) (file : Location) : Prop where
  parent : t.isDirectory file.parent = true
  target : t.isBlocked file = false
  temporary : t.isBlocked file.temporary = false

/-- The tree with new content in place and nothing left at the temporary location. -/
def replaced (t : FileTree) (file : Location) (content : ByteArray) : FileTree :=
  { t with node? := fun l =>
      if l = file then some (.file content)
      else if file.temporary.isPrefixOf l then none else t.node? l }

/-- Whether a directory stands at a location depends on the node there. -/
theorem isDirectory_congr {t u : FileTree} {l : Location} (same : t.node? l = u.node? l) :
    t.isDirectory l = u.isDirectory l := by
  unfold isDirectory
  rw [same]

/-- Whether a location is blocked depends on the node there, on what the tree refuses and on what it
hides. -/
theorem isBlocked_congr {t u : FileTree} {l : Location} (same : t.node? l = u.node? l)
    (refuses : t.refuses = u.refuses) (hides : t.hides = u.hides) :
    t.isBlocked l = u.isBlocked l := by
  unfold isBlocked
  rw [isDirectory_congr same, refuses, hides]

/-- A location that is not blocked is neither refused nor hidden, and does not lead back. -/
theorem seen_of_free {t : FileTree} {l : Location} (free : t.isBlocked l = false) :
    t.refuses l = false ∧ t.hides l = false ∧ l.isBack = false := by
  simp only [isBlocked, Bool.or_eq_false_iff] at free
  exact ⟨free.1.1.2, free.1.2, free.2⟩

/-- The same stands at a location of two trees where the node is the same and both hide the same
locations. -/
theorem place_congr {t u : FileTree} {l : Location} (node : t.node? l = u.node? l)
    (hides : t.hides = u.hides) : t.place l = u.place l := by
  unfold place
  rw [node, hides]

/-- What stands at a location has a node. -/
theorem node?_congr {t u : FileTree} {l : Location} (same : t.place l = u.place l) :
    t.node? l = u.node? l := congrArg Prod.fst same

/-- What stands at a location is hidden or not. -/
theorem hides_congr {t u : FileTree} {l : Location} (same : t.place l = u.place l) :
    t.hides l = u.hides l := congrArg Prod.snd same

/-- What is seen at a location depends on what stands there. -/
theorem look_congr {t u : FileTree} {l : Location} (same : t.place l = u.place l) :
    t.look l = u.look l := by
  unfold look
  rw [same]

/-- The content of a file is seen where the file is not hidden. -/
theorem look_eq_content {t : FileTree} {l : Location} {content : ByteArray}
    (stands : t.node? l = some (.file content)) (seen : t.hides l = false) :
    t.look l = .content content := by
  unfold look place
  rw [stands, seen]

/-- A location other than the one that was set keeps its node. -/
theorem node?_set_of_ne {t : FileTree} {l m : Location} (n : Node) (other : m ≠ l) :
    (t.set l n).node? m = t.node? m := if_neg other

/-- A location other than the one that was set keeps what stands there. -/
theorem place_set_of_ne {t : FileTree} {l m : Location} (n : Node) (other : m ≠ l) :
    (t.set l n).place m = t.place m := place_congr (node?_set_of_ne n other) rfl

/-- A directory stands where one was put. -/
theorem node?_set_self (t : FileTree) (l : Location) (n : Node) :
    (t.set l n).node? l = some n := if_pos rfl

/-- The directory of a file is not its temporary file. -/
theorem parent_ne_temporary (file : Location) : file.parent ≠ file.temporary := by
  intro same
  have lengths := congrArg List.length same
  simp [Location.temporary] at lengths

/-- Writing the temporary file works where its place is not blocked. -/
theorem write?_temporary {t : FileTree} {file : Location} (content : ByteArray)
    (able : t.Replaceable file) :
    t.write? file.temporary content = some (t.set file.temporary (.file content)) := by
  unfold write?
  rw [Location.parent_temporary, able.parent, able.temporary]
  rfl

/-- Moving the temporary file into place gives the tree with the new content. -/
theorem rename?_temporary {t : FileTree} {file : Location} (content : ByteArray)
    (named : file ≠ []) (able : t.Replaceable file) :
    (t.set file.temporary (.file content)).rename? file.temporary file =
      some (t.replaced file content) := by
  have apart : file ≠ file.temporary :=
    fun same => Location.temporary_not_above named (same ▸ List.prefix_rfl)
  have target := able.target
  have parent := able.parent
  rw [← isBlocked_congr (node?_set_of_ne (.file content) apart) rfl rfl] at target
  rw [← isDirectory_congr (node?_set_of_ne (.file content) (parent_ne_temporary file))] at parent
  unfold rename?
  rw [node?_set_self]
  simp only [target, parent, Bool.not_true, Bool.or_self, Bool.false_eq_true, if_false]
  congr 1
  unfold replaced remove set
  congr 1
  funext l
  by_cases own : l = file
  · simp [own]
  · by_cases temporary : l = file.temporary <;> simp [own, temporary]

/-- A file was written in a place that is not blocked, in a directory. -/
theorem write?_eq_some {t u : FileTree} {l : Location} {content : ByteArray}
    (written : t.write? l content = some u) :
    (t.isBlocked l = false ∧ t.isDirectory l.parent = true) ∧ t.set l (.file content) = u := by
  unfold write? at written
  split at written
  · cases written
  · rename_i free
    exact ⟨by simpa using free, Option.some.inj written⟩

/-- Where the temporary file was written and moved into place, the file can be replaced. -/
theorem replaceable_of_rename? {t u : FileTree} {file : Location} {content : ByteArray}
    (named : file ≠ [])
    (writable : t.isBlocked file.temporary = false ∧
      t.isDirectory file.temporary.parent = true)
    (moved : (t.set file.temporary (.file content)).rename? file.temporary file = some u) :
    t.Replaceable file := by
  have apart : file ≠ file.temporary :=
    fun same => Location.temporary_not_above named (same ▸ List.prefix_rfl)
  obtain ⟨free, parent⟩ := writable
  rw [Location.parent_temporary] at parent
  refine ⟨parent, ?_, free⟩
  rw [← isBlocked_congr (node?_set_of_ne (.file content) apart) rfl rfl, Bool.eq_false_iff]
  intro target
  simp [rename?, node?_set_self, target] at moved

/-- What was not the file and not at or below its temporary location is kept. -/
theorem node?_replaced_of_ne {t : FileTree} {file l : Location} (content : ByteArray)
    (other : l ≠ file) (beside : ¬ file.temporary <+: l) :
    (t.replaced file content).node? l = t.node? l := by
  have apart : file.temporary.isPrefixOf l = false :=
    Bool.eq_false_iff.mpr (mt List.isPrefixOf_iff_prefix.mp beside)
  unfold replaced
  simp [other, apart]

/-- What was not the file and not at or below its temporary location stands there as before. -/
theorem place_replaced_of_ne {t : FileTree} {file l : Location} (content : ByteArray)
    (other : l ≠ file) (beside : ¬ file.temporary <+: l) :
    (t.replaced file content).place l = t.place l :=
  place_congr (node?_replaced_of_ne content other beside) rfl

/-- The new content is seen where the file could be replaced. -/
theorem look_replaced {t : FileTree} {file : Location} (content : ByteArray)
    (able : t.Replaceable file) : (t.replaced file content).look file = .content content :=
  look_eq_content (if_pos rfl) (seen_of_free able.target).2.1

/-- A file that can be replaced still can when another one was that has nothing to do with it. -/
theorem Replaceable.replaced_of_apart {t : FileTree} {file other : Location} (content : ByteArray)
    (able : t.Replaceable file) (apart : ∀ l ∈ [file.parent, file, file.temporary],
      l ≠ other ∧ ¬ other.temporary <+: l) : (t.replaced other content).Replaceable file := by
  have kept (l) (among : l ∈ [file.parent, file, file.temporary]) :
      (t.replaced other content).node? l = t.node? l :=
    node?_replaced_of_ne content (apart l among).1 (apart l among).2
  refine ⟨?_, ?_, ?_⟩
  · rw [isDirectory_congr (kept file.parent (by simp)), able.parent]
  · rw [isBlocked_congr (kept file (by simp)) rfl rfl, able.target]
  · rw [isBlocked_congr (kept file.temporary (by simp)) rfl rfl, able.temporary]

/-- Making directories keeps every node, and adds directories on the way only. -/
theorem makeBelow?_node? {names : List String} {t u : FileTree} {base : Location}
    (made : t.makeBelow? base names = some u) (l : Location) :
    u.node? l = t.node? l ∨
      t.node? l = none ∧ u.node? l = some .directory ∧ l <+: base ++ names := by
  induction names generalizing t base with
  | nil =>
    obtain rfl := Option.some.inj made
    exact .inl rfl
  | cons name rest ih =>
    have onTheWay : base ++ [name] <+: base ++ name :: rest :=
      (List.prefix_append_right_inj base).mpr (List.cons_prefix_cons.mpr ⟨rfl, List.nil_prefix⟩)
    rw [makeBelow?] at made
    cases stands : t.node? (base ++ [name]) with
    | none =>
      simp only [stands] at made
      obtain ⟨-, made⟩ := Option.ite_none_left_eq_some.mp made
      by_cases own : l = base ++ [name]
      · have new : (t.set (base ++ [name]) .directory).node? l = some .directory := by
          rw [own]
          exact node?_set_self t (base ++ [name]) .directory
        rcases ih made with kept | ⟨gone, -, -⟩
        · exact .inr ⟨own ▸ stands, kept.trans new, own ▸ onTheWay⟩
        · rw [new] at gone
          cases gone
      · rw [← node?_set_of_ne (t := t) .directory own]
        simpa using ih made
    | some n =>
      cases n with
      | file content => simp only [stands] at made; cases made
      | directory =>
        simp only [stands] at made
        obtain ⟨-, made⟩ := Option.ite_none_left_eq_some.mp made
        simpa using ih made

/-- Making directories changes neither what the tree refuses nor what it hides. -/
theorem makeBelow?_permissions {names : List String} {t u : FileTree} {base : Location}
    (made : t.makeBelow? base names = some u) : u.refuses = t.refuses ∧ u.hides = t.hides := by
  induction names generalizing t base with
  | nil =>
    obtain rfl := Option.some.inj made
    exact ⟨rfl, rfl⟩
  | cons name rest ih =>
    rw [makeBelow?] at made
    split at made
    · cases made
    · exact ih (Option.ite_none_left_eq_some.mp made).2
    · exact @ih (t.set (base ++ [name]) .directory) _ (Option.ite_none_left_eq_some.mp made).2

/-- Where directories were made, nothing is left to make as long as they stand and are not
hidden. -/
theorem makeBelow?_again {names : List String} {t u v : FileTree} {base : Location}
    (made : t.makeBelow? base names = some u)
    (same : ∀ l, l <+: base ++ names → v.place l = u.place l) :
    v.makeBelow? base names = some v := by
  induction names generalizing t base with
  | nil => rfl
  | cons name rest ih =>
    have onTheWay : base ++ [name] <+: base ++ name :: rest :=
      (List.prefix_append_right_inj base).mpr (List.cons_prefix_cons.mpr ⟨rfl, List.nil_prefix⟩)
    have below (t' : FileTree) (there : t'.node? (base ++ [name]) = some .directory)
        (seen : t'.hides (base ++ [name]) = false)
        (made : t'.makeBelow? (base ++ [name]) rest = some u) :
        v.makeBelow? base (name :: rest) = some v := by
      have stands : v.node? (base ++ [name]) = some .directory := by
        rw [node?_congr (same _ onTheWay)]
        rcases makeBelow?_node? made (base ++ [name]) with kept | ⟨gone, -, -⟩
        · exact kept.trans there
        · rw [there] at gone
          cases gone
      rw [← (makeBelow?_permissions made).2, ← hides_congr (same _ onTheWay)] at seen
      rw [makeBelow?]
      simp only [stands, seen, Bool.false_eq_true, if_false]
      exact ih made fun l inside => same l (by simpa using inside)
    rw [makeBelow?] at made
    cases stands : t.node? (base ++ [name]) with
    | none =>
      simp only [stands] at made
      obtain ⟨free, made⟩ := Option.ite_none_left_eq_some.mp made
      rw [Bool.or_eq_true, not_or] at free
      exact below _ (node?_set_self t (base ++ [name]) .directory)
        (Bool.eq_false_iff.mpr free.2) made
    | some n =>
      cases n with
      | file content => simp only [stands] at made; cases made
      | directory =>
        simp only [stands] at made
        obtain ⟨seen, made⟩ := Option.ite_none_left_eq_some.mp made
        exact below _ stands (Bool.eq_false_iff.mpr seen) made

/-- Making directories keeps what does not stand on the way. -/
theorem makeBelow?_place {names : List String} {t u : FileTree} {base l : Location}
    (made : t.makeBelow? base names = some u) (aside : ¬ l <+: base ++ names) :
    u.place l = t.place l :=
  place_congr ((makeBelow?_node? made l).resolve_right fun new => aside new.2.2)
    (makeBelow?_permissions made).2

/-- Making the directory of a file keeps what stands in place of the file. -/
theorem makeDirectories?_kept {t u : FileTree} {file : Location} (named : file ≠ [])
    (made : t.makeDirectories? file.parent = some u) : u.place file = t.place file :=
  makeBelow?_place made (Location.not_above_parent named)

/-- Where a file was replaced, its directory stands. -/
theorem makeDirectories?_replaced {t u : FileTree} {file : Location} (content : ByteArray)
    (named : file ≠ []) (made : t.makeDirectories? file.parent = some u) :
    (u.replaced file content).makeDirectories? file.parent = some (u.replaced file content) := by
  refine makeBelow?_again made fun l above => place_replaced_of_ne content ?_ ?_
  · rintro rfl
    exact Location.not_above_parent named above
  · intro temporary
    have fits := (temporary.trans above).length_le
    simp only [Location.temporary, List.nil_append, List.length_append, List.length_cons,
      List.length_nil] at fits
    omega

/-- A file that was replaced can be replaced again. -/
theorem replaceable_replaced {t : FileTree} {file : Location} (content : ByteArray)
    (named : file ≠ []) (able : t.Replaceable file) :
    (t.replaced file content).Replaceable file := by
  have apart : file.temporary ≠ file :=
    fun same => Location.temporary_not_above named (by simp only [same, List.prefix_rfl])
  refine ⟨?_, ?_, ?_⟩
  · rw [isDirectory_congr (node?_replaced_of_ne content ?_ ?_), able.parent]
    · exact fun same => Location.not_above_parent named (by simp only [same, List.prefix_rfl])
    · intro temporary
      have fits := temporary.length_le
      simp only [Location.temporary, List.length_append, List.length_cons, List.length_nil] at fits
      omega
  · simp [isBlocked, isDirectory, replaced, seen_of_free able.target]
  · simp [isBlocked, isDirectory, replaced, apart, seen_of_free able.temporary]

end FileTree

end AccountSidecar.Storage

namespace AccountSidecar.Users

open Storage FileTree

/-- The users file is replaced, or the write fails. Then the file is kept, and so is what is neither
its temporary file nor a directory on the way to it. -/
theorem commit_cases (files : FileTree) (file : Location) (content : ByteArray) :
    (file ≠ [] ∧ ∃ t, files.makeDirectories? file.parent = some t ∧ t.Replaceable file ∧
      commit files file content = (.ok (), t.replaced file content)) ∨
    ∃ e t, commit files file content = (.error e, t) ∧ t.place file = files.place file ∧
      ∀ l ≠ file.temporary, ¬ l <+: file.parent → t.place l = files.place l := by
  unfold commit
  by_cases named : file = []
  · exact .inr ⟨.nameless, files, by simp [named], rfl, fun _ _ _ => rfl⟩
  · have apart : file ≠ file.temporary :=
      fun same => Location.temporary_not_above named (same ▸ List.prefix_rfl)
    simp only [List.isEmpty_iff, named, if_false]
    cases made : files.makeDirectories? file.parent with
    | none => exact .inr ⟨.unwritable, files, rfl, rfl, fun _ _ _ => rfl⟩
    | some t =>
      have kept := makeDirectories?_kept named made
      have others (l : Location) (aside : ¬ l <+: file.parent) : t.place l = files.place l :=
        makeBelow?_place made aside
      cases written : t.write? file.temporary content with
      | none =>
        exact .inr ⟨.unwritable, t, by simp only [written], kept, fun l _ => others l⟩
      | some u =>
        obtain ⟨writable, rfl⟩ := write?_eq_some written
        have beside (l : Location) (other : l ≠ file.temporary) :
            (t.set file.temporary (.file content)).place l = t.place l := place_set_of_ne _ other
        by_cases target : t.isBlocked file = true
        · refine .inr ⟨.unwritable, _, ?_, (beside file apart).trans kept,
            fun l other aside => (beside l other).trans (others l aside)⟩
          rw [← isBlocked_congr (node?_set_of_ne (.file content) apart) rfl rfl] at target
          simp [written, rename?, node?_set_self, target]
        · have able : t.Replaceable file := by
            rw [Location.parent_temporary] at writable
            exact ⟨writable.2, by simpa using target, writable.1⟩
          refine .inl ⟨named, t, rfl, able, ?_⟩
          simp only [written, rename?_temporary content named able]

/-- Content that was written is seen in the users file. -/
theorem look_of_commit {files t : FileTree} {file : Location} {content : ByteArray}
    (done : commit files file content = (.ok (), t)) : t.look file = .content content := by
  rcases commit_cases files file content with ⟨-, u, -, able, written⟩ | ⟨e, u, failed, -⟩
  · rw [written] at done
    obtain rfl := (Prod.mk.inj done).2
    exact look_replaced content able
  · rw [failed] at done
    cases (Prod.mk.inj done).1

/-- A write that fails keeps the users file. -/
theorem place_of_failed_commit {files t : FileTree} {file : Location} {content : ByteArray}
    {e : StoreError} (failed : commit files file content = (.error e, t)) :
    t.place file = files.place file := by
  rcases commit_cases files file content with ⟨-, u, -, -, written⟩ | ⟨e', u, other, kept, -⟩
  · rw [written] at failed
    cases (Prod.mk.inj failed).1
  · rw [other] at failed
    rw [← (Prod.mk.inj failed).2]
    exact kept

/-- A write that fails keeps what is neither the temporary file nor on the way to the file. -/
theorem place_beside_failed_commit {files t : FileTree} {file l : Location} {content : ByteArray}
    {e : StoreError} (failed : commit files file content = (.error e, t))
    (other : l ≠ file.temporary) (aside : ¬ l <+: file.parent) :
    t.place l = files.place l := by
  rcases commit_cases files file content with ⟨-, u, -, -, written⟩ | ⟨e', u, again, -, kept⟩
  · rw [written] at failed
    cases (Prod.mk.inj failed).1
  · rw [again] at failed
    rw [← (Prod.mk.inj failed).2]
    exact kept l other aside

/-- Content can be written where the file can be replaced once its directory is there. -/
theorem commit_of_replaceable {files t : FileTree} {file : Location} (named : file ≠ [])
    (made : files.makeDirectories? file.parent = some t) (able : t.Replaceable file)
    (content : ByteArray) : commit files file content = (.ok (), t.replaced file content) := by
  unfold commit
  simp only [List.isEmpty_iff, named, if_false, made, write?_temporary content able,
    rename?_temporary content named able]

/-- After a write any other content can be written. -/
theorem commit_after_commit {files t : FileTree} {file : Location} {content : ByteArray}
    (done : commit files file content = (.ok (), t)) (other : ByteArray) :
    ∃ u, commit t file other = (.ok (), u) := by
  rcases commit_cases files file content with ⟨named, v, made, able, written⟩ | ⟨e, u, failed, -⟩
  · rw [written] at done
    obtain rfl := (Prod.mk.inj done).2
    exact ⟨_, commit_of_replaceable named (makeDirectories?_replaced content named made)
      (replaceable_replaced content named able) other⟩
  · rw [failed] at done
    cases (Prod.mk.inj done).1

end AccountSidecar.Users

namespace AccountSidecar.Metadata

open Storage FileTree

/-- Metadata can be written where its file can be replaced. -/
theorem commit_of_replaceable {files : FileTree} {file : Location} (named : file ≠ [])
    (able : files.Replaceable file) (entries : Keyed Entry) :
    commit files file entries = (.ok (), files.replaced file (print entries).toUTF8) := by
  unfold commit
  simp only [List.isEmpty_iff, named, if_false, write?_temporary _ able,
    rename?_temporary _ named able]

/-- The metadata file is replaced, or the write fails and nothing changes but the temporary file. -/
theorem commit_cases (files : FileTree) (file : Location) (entries : Keyed Entry) :
    (file ≠ [] ∧ files.Replaceable file ∧ commit files file entries =
      (.ok (), files.replaced file (print entries).toUTF8)) ∨
    ∃ e t, commit files file entries = (.error e, t) ∧
      ∀ l ≠ file.temporary, t.place l = files.place l := by
  unfold commit
  by_cases named : file = []
  · exact .inr ⟨.nameless, files, by simp [named], fun _ _ => rfl⟩
  · simp only [List.isEmpty_iff, named, if_false]
    cases written : files.write? file.temporary (print entries).toUTF8 with
    | none => exact .inr ⟨.unwritable, files, rfl, fun _ _ => rfl⟩
    | some t =>
      obtain ⟨writable, rfl⟩ := write?_eq_some written
      dsimp only
      cases moved : (files.set file.temporary (.file (print entries).toUTF8)).rename?
          file.temporary file with
      | none => exact .inr ⟨.unmovable, _, rfl, fun l apart => place_set_of_ne _ apart⟩
      | some u =>
        have able := replaceable_of_rename? named writable moved
        rw [rename?_temporary _ named able] at moved
        obtain rfl := Option.some.inj moved
        exact .inl ⟨named, able, rfl⟩

/-- Writing metadata keeps what is neither its file nor at or below its temporary location. -/
theorem commit_kept (files : FileTree) {file l : Location} (entries : Keyed Entry)
    (other : l ≠ file) (beside : ¬ file.temporary <+: l) :
    (commit files file entries).2.place l = files.place l := by
  rcases commit_cases files file entries with ⟨-, -, written⟩ | ⟨e, t, failed, kept⟩
  · rw [written]
    exact place_replaced_of_ne _ other beside
  · rw [failed]
    exact kept l fun same => beside (same ▸ List.prefix_rfl)

end AccountSidecar.Metadata
