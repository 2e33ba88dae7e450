import AccountSidecar.Proofs.Tables
import AccountSidecar.Toml.Reader

/-!
# Keys of documents

What is read from a document has each key once at its root (`read_distinct`), since each statement
of it sets a key that is new or changes the value of one that stands there.
-/

namespace AccountSidecar.Toml

namespace Draft

variable {draft draft' : Draft}

/-- A change below the root of a document keeps its keys distinct, where a change at the root
does. -/
theorem distinct_of_changeAt? {intoLists : Bool} {change : Keyed Value → Option (Keyed Value)}
    (kept : ∀ {before after}, change before = some after → before.Distinct → after.Distinct)
    {path : Path} {entries changed : Keyed Value}
    (done : changeAt? intoLists change path entries = some changed) (distinct : entries.Distinct) :
    changed.Distinct := by
  cases path with
  | nil => exact kept done distinct
  | cons key rest =>
    rw [changeAt?] at done
    repeat' split at done
    all_goals
      first
      | cases done
      | obtain ⟨inner, -, rfl⟩ := Option.map_eq_some_iff.mp done
        exact distinct.put key _

/-- Setting a new key keeps keys distinct. -/
theorem distinct_of_insertNew? {key : String} {value : Value} {entries changed : Keyed Value}
    (done : insertNew? key value entries = some changed) (distinct : entries.Distinct) :
    changed.Distinct := by
  unfold insertNew? at done
  split at done
  · cases done
  · rename_i absent
    obtain rfl := Option.some.inj done
    exact distinct.snoc (by simpa using absent) value

/-- Appending to a list of tables keeps keys distinct. -/
theorem distinct_of_appendTable? {key : String} {entries changed : Keyed Value}
    (done : appendTable? key entries = some changed) (distinct : entries.Distinct) :
    changed.Distinct := by
  unfold appendTable? at done
  split at done
  · rename_i absent
    obtain rfl := Option.some.inj done
    exact distinct.snoc absent _
  · obtain rfl := Option.some.inj done
    exact distinct.put key _
  · cases done

/-- Opening a table keeps the keys at the root distinct. -/
theorem distinct_of_openTable? {path : Path} (opens : draft.openTable? path = some draft')
    (distinct : draft.root.Distinct) : draft'.root.Distinct := by
  unfold openTable? at opens
  dsimp only at opens
  split at opens
  · cases opens
  · obtain ⟨root, done, rfl⟩ := Option.map_eq_some_iff.mp opens
    exact distinct_of_changeAt? (fun same before => Option.some.inj same ▸ before) done distinct

/-- Opening a table at the end of a list keeps the keys at the root distinct. -/
theorem distinct_of_openItem? {parent : Path} {key : String}
    (opens : draft.openItem? parent key = some draft') (distinct : draft.root.Distinct) :
    draft'.root.Distinct := by
  unfold openItem? at opens
  dsimp only at opens
  split at opens
  · cases opens
  · obtain ⟨root, done, rfl⟩ := Option.map_eq_some_iff.mp opens
    exact distinct_of_changeAt? distinct_of_appendTable? done distinct

/-- An assignment keeps the keys at the root distinct. -/
theorem distinct_of_assign? {header parent : Path} {key : String} {value : Value}
    (joins : draft.assign? header parent key value = some draft') (distinct : draft.root.Distinct) :
    draft'.root.Distinct := by
  unfold assign? at joins
  dsimp only at joins
  split at joins
  · cases joins
  · obtain ⟨root, done, rfl⟩ := Option.map_eq_some_iff.mp joins
    exact distinct_of_changeAt? distinct_of_insertNew? done distinct

end Draft

/-- A result of a reader that gives no reason for failure is that of the reader. -/
theorem orMalformed_eq_ok {α : Type} {result : Option α} {a : α} :
    orMalformed result = .ok a ↔ result = some a := by
  cases result <;> simp [orMalformed]

/-- A reader that ran after another one ran on the result of that one. -/
theorem bind_eq_ok {α β : Type} {first : Except ReadError α} {next : α → Except ReadError β}
    {b : β} (done : first >>= next = .ok b) : ∃ a, first = .ok a ∧ next a = .ok b := by
  cases first with
  | error e => cases done
  | ok a => exact ⟨a, rfl, done⟩

/-- A statement keeps the keys at the root distinct. -/
theorem distinct_of_statement {calls : Nat} {draft draft' : Draft} {header header' : Path}
    {s rest : List Char} (read : statement calls draft header s = .ok (draft', header', rest))
    (distinct : draft.root.Distinct) : draft'.root.Distinct := by
  unfold statement at read
  split at read
  · obtain ⟨⟨parent, last, rest⟩, -, read⟩ := bind_eq_ok read
    obtain ⟨opened, opens, read⟩ := bind_eq_ok read
    split at read
    · obtain rfl := (Prod.mk.inj (Except.ok.inj read)).1
      exact Draft.distinct_of_openItem? (orMalformed_eq_ok.mp opens) distinct
    · cases read
  · obtain ⟨⟨parent, last, rest⟩, -, read⟩ := bind_eq_ok read
    obtain ⟨opened, opens, read⟩ := bind_eq_ok read
    split at read
    · obtain rfl := (Prod.mk.inj (Except.ok.inj read)).1
      exact Draft.distinct_of_openTable? (orMalformed_eq_ok.mp opens) distinct
    · cases read
  · exact (Prod.mk.inj (Except.ok.inj read)).1 ▸ distinct
  · exact (Prod.mk.inj (Except.ok.inj read)).1 ▸ distinct
  · exact (Prod.mk.inj (Except.ok.inj read)).1 ▸ distinct
  · obtain ⟨⟨parent, last, rest⟩, -, read⟩ := bind_eq_ok read
    obtain ⟨⟨v, rest⟩, -, read⟩ := bind_eq_ok read
    obtain ⟨joined, joins, read⟩ := bind_eq_ok read
    obtain rfl := (Prod.mk.inj (Except.ok.inj read)).1
    exact Draft.distinct_of_assign? (orMalformed_eq_ok.mp joins) distinct

/-- A run of statements keeps the keys at the root distinct. -/
theorem distinct_of_statements {calls fuel : Nat} {draft draft' : Draft} {header : Path}
    {s : List Char} (read : statements calls fuel draft header s = .ok draft')
    (distinct : draft.root.Distinct) : draft'.root.Distinct := by
  induction fuel generalizing draft header s with
  | zero => cases read
  | succ fuel ih =>
    rw [statements] at read
    obtain ⟨⟨next, header, rest⟩, line, read⟩ := bind_eq_ok read
    obtain ⟨rest, -, read⟩ := bind_eq_ok read
    have kept := distinct_of_statement line distinct
    split at read
    · exact Except.ok.inj read ▸ kept
    · exact ih read kept
    · cases read

/-- What is read from a text has each key once at its root. -/
theorem read_distinct {calls : Nat} {text : String} {document : Keyed Value}
    (done : read calls text = .ok document) : document.Distinct := by
  obtain ⟨draft, all, done⟩ := bind_eq_ok done
  obtain rfl := Except.ok.inj done
  exact distinct_of_statements all List.nodup_nil

end AccountSidecar.Toml
