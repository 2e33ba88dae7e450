import AccountSidecar.Metadata.Entry
import AccountSidecar.Proofs.TomlDocuments
import AccountSidecar.Proofs.TomlKeys

/-!
# Reading back metadata

The metadata of distinct users is read back from its text as it was written: the same users in the
same order with the same entries (`parse_print`). Metadata that was read from any text is of
distinct users (`parse_distinct`).
-/

namespace AccountSidecar.Metadata

open Toml

variable {calls : Nat}

namespace Entry

/-- A text field is written under its own key, if at all. -/
theorem keys_writtenText (key value : String) :
    List.Sublist (Keyed.keys (writtenText key value)) [key] := by
  unfold writtenText
  split
  · exact List.nil_sublist _
  · exact List.Sublist.refl _

/-- No field of an entry is written twice. -/
theorem written_distinct (e : Entry) : Keyed.Distinct e.written := by
  have flag : List.Sublist (Keyed.keys (if e.approved then [("approved", Field.flag true)] else []))
      ["approved"] := by
    split
    · exact List.Sublist.refl _
    · exact List.nil_sublist _
  have all : List.Sublist (Keyed.keys e.written) ["name", "role", "phone", "approved"] := by
    simp only [written, Keyed.keys, List.map_append]
    exact (((keys_writtenText "name" e.name).append (keys_writtenText "role" e.role)).append
      (keys_writtenText "phone" e.phone)).append flag
  exact List.Nodup.sublist all (by decide)

/-- Behind a text field other fields are found. -/
theorem find?_writtenText_of_ne {key other : String} (apart : key ≠ other) (value : String)
    (rest : Keyed Field) :
    Keyed.find? other (writtenText key value ++ rest) = Keyed.find? other rest := by
  unfold writtenText
  split
  · rfl
  · rw [List.singleton_append, Keyed.find?, if_neg apart]

/-- A text field is read back, empty where it was left out. -/
theorem textField_written {key : String} (value : String) {rest : Keyed Field}
    (absent : Keyed.find? key rest = none) :
    textField calls (Keyed.mapValues Field.value (writtenText key value ++ rest)) key =
      .ok value := by
  rw [textField, Keyed.find?_mapValues]
  by_cases empty : value = ""
  · rw [writtenText, if_pos empty, List.nil_append, absent, empty]
    rfl
  · rw [writtenText, if_neg empty, List.singleton_append, Keyed.find?, if_pos rfl]
    rfl

/-- Behind a text field other text fields are read. -/
theorem textField_written_of_ne {key other : String} (apart : key ≠ other) (value : String)
    (rest : Keyed Field) :
    textField calls (Keyed.mapValues Field.value (writtenText key value ++ rest)) other =
      textField calls (Keyed.mapValues Field.value rest) other := by
  rw [textField, textField, Keyed.find?_mapValues, Keyed.find?_mapValues,
    find?_writtenText_of_ne apart]

/-- An entry is read back from the fields that were written of it. -/
theorem ofTable_written (e : Entry) :
    ofTableWithin calls (Keyed.mapValues Field.value e.written) = .ok e := by
  obtain ⟨name, role, phone, approved⟩ := e
  let flag : Keyed Field := if approved then [("approved", .flag true)] else []
  have order : written ⟨name, role, phone, approved⟩ =
      writtenText "name" name ++
        (writtenText "role" role ++ (writtenText "phone" phone ++ flag)) := by
    simp [written, flag]
  have other {key : String} (apart : "approved" ≠ key) : Keyed.find? key flag = none := by
    cases approved <;> simp [flag, Keyed.find?, apart]
  have marked : ((Keyed.find? "approved" flag).map Field.value).map Value.isTrue =
      if approved then some true else none := by
    cases approved <;> rfl
  have behindPhone {key : String} (apart : "approved" ≠ key) (apart' : "phone" ≠ key) :
      Keyed.find? key (writtenText "phone" phone ++ flag) = none := by
    rw [find?_writtenText_of_ne apart', other apart]
  have behindRole : Keyed.find? "name" (writtenText "role" role ++
      (writtenText "phone" phone ++ flag)) = none := by
    rw [find?_writtenText_of_ne (by decide), behindPhone (by decide) (by decide)]
  have named := @textField_written calls _ name _ behindRole
  have ranked : textField calls (Keyed.mapValues Field.value (writtenText "name" name ++
      (writtenText "role" role ++ (writtenText "phone" phone ++ flag)))) "role" = .ok role := by
    rw [textField_written_of_ne (by decide),
      textField_written role (behindPhone (by decide) (by decide))]
  have reached : textField calls (Keyed.mapValues Field.value (writtenText "name" name ++
      (writtenText "role" role ++ (writtenText "phone" phone ++ flag)))) "phone" = .ok phone := by
    rw [textField_written_of_ne (by decide), textField_written_of_ne (by decide),
      textField_written phone (other (by decide))]
  rw [ofTableWithin, order, named, ranked, reached, Keyed.find?_mapValues,
    find?_writtenText_of_ne (by decide), find?_writtenText_of_ne (by decide),
    find?_writtenText_of_ne (by decide), marked]
  cases approved <;> rfl

end Entry

/-- The entries are read back from the tables that were written of them. -/
theorem ofDocument_written (entries : Keyed Entry) :
    ofDocument calls (Keyed.mapValues tableValue (Keyed.mapValues Entry.written entries)) =
      .ok entries := by
  induction entries with
  | nil => rfl
  | cons e rest ih =>
    simp only [Keyed.mapValues, List.map_cons, tableValue] at ih ⊢
    rw [ofDocument, ih, show List.map (fun f => (f.1, Field.value f.2)) e.2.written =
      Keyed.mapValues Field.value e.2.written from rfl, Entry.ofTable_written]
    rfl

/-- The metadata of distinct users is read back from its text. -/
theorem parse_print {entries : Keyed Entry} (distinct : entries.Distinct) :
    parse calls (print entries) = .ok entries := by
  have users : (Keyed.mapValues Entry.written entries).Distinct := by
    rwa [Keyed.Distinct, Keyed.keys_mapValues]
  have fields : ∀ t ∈ Keyed.mapValues Entry.written entries, Keyed.Distinct t.2 := by
    intro t inside
    obtain ⟨e, -, rfl⟩ := List.mem_map.mp inside
    exact Entry.written_distinct e.2
  rw [parse, print, read_write users fields]
  exact ofDocument_written entries

/-- The users of a document are among its keys, in their order. -/
theorem keys_ofDocument {document : Keyed Value} {entries : Keyed Entry}
    (read : ofDocument calls document = .ok entries) :
    List.Sublist entries.keys document.keys := by
  induction document generalizing entries with
  | nil =>
    obtain rfl := Except.ok.inj read
    exact List.Sublist.refl _
  | cons item rest ih =>
    obtain ⟨username, v⟩ := item
    cases v with
    | table fields =>
      rw [ofDocument] at read
      cases own : Entry.ofTableWithin calls fields with
      | error e => rw [own] at read; cases read
      | ok e =>
        cases others : ofDocument calls rest with
        | error e => rw [own, others] at read; cases read
        | ok more =>
          rw [own, others] at read
          obtain rfl := Except.ok.inj read
          exact (ih others).cons_cons username
    | _ => exact (ih read).cons username

/-- Metadata that was read from a text is of distinct users. -/
theorem parse_distinct {text : String} {entries : Keyed Entry}
    (read : parse calls text = .ok entries) : entries.Distinct := by
  unfold parse at read
  split at read
  · cases read
  · cases read
  · cases read
  · rename_i document whole
    exact List.Nodup.sublist (keys_ofDocument read) (read_distinct whole)

end AccountSidecar.Metadata
