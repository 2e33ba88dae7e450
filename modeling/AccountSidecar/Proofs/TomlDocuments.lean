import AccountSidecar.Proofs.Tables
import AccountSidecar.Proofs.TomlStrings

/-!
# Reading back documents

A written document of named tables is read back as those tables, in their order, with the fields of
each in theirs, where no table and no field of a table stands twice (`read_write`). One line is read
at a time: a header opens a table that was not there, and a field joins the table opened last.
-/

namespace AccountSidecar.Toml

open Text

/-- The value that a written field is read as. -/
def Field.value : Field → Value
  | .text s => .text s
  | .flag b => .bool b

/-- The value that the written fields of a table are read as. -/
def tableValue (fields : Keyed Field) : Value := .table (Keyed.mapValues Field.value fields)

namespace Draft

variable {tables : Keyed (Keyed Field)} {fields : Keyed Field} {name key : String}

/-- The draft of a document of which some tables were read. -/
def ofTables (tables : Keyed (Keyed Field)) : Draft where
  root := Keyed.mapValues tableValue tables
  opened := (tables.map fun t => [t.1]).reverse

/-- One more table stands behind the others. -/
theorem root_ofTables_snoc (tables : Keyed (Keyed Field)) (name : String) (fields : Keyed Field) :
    (ofTables (tables ++ [(name, fields)])).root =
      (ofTables tables).root ++ [(name, tableValue fields)] := by
  simp [ofTables, Keyed.mapValues]

/-- A table that is not there is created behind the others. -/
theorem changeAt?_of_absent {change : Keyed Value → Option (Keyed Value)}
    {entries created : Keyed Value} (absent : name ∉ entries.keys)
    (changed : change [] = some created) :
    changeAt? true change [name] entries = some (entries ++ [(name, .table created)]) := by
  have put := Keyed.put_append_of_absent absent (.table created) []
  rw [List.append_nil] at put
  rw [changeAt?, Keyed.find?_eq_none_iff.mpr absent]
  simp only [changeAt?, changed, Option.map_some, put, Keyed.put]

/-- The table behind the others is changed in its place. -/
theorem changeAt?_last {change : Keyed Value → Option (Keyed Value)}
    {entries inner changed : Keyed Value} (absent : name ∉ entries.keys)
    (done : change inner = some changed) :
    changeAt? true change [name] (entries ++ [(name, .table inner)]) =
      some (entries ++ [(name, .table changed)]) := by
  rw [changeAt?, Keyed.find?_append_of_absent absent]
  simp only [Keyed.find?, if_pos, changeAt?, done, Option.map_some,
    Keyed.put_append_of_absent absent, Keyed.put]

/-- The header of a table that is not there opens it. -/
theorem openTable?_ofTables (fresh : name ∉ tables.keys) :
    (ofTables tables).openTable? [name] = some (ofTables (tables ++ [(name, [])])) := by
  have absent : name ∉ (ofTables tables).root.keys := by rwa [ofTables, Keyed.keys_mapValues]
  have root : changeAt? true some [name] (ofTables tables).root =
      some (ofTables (tables ++ [(name, [])])).root := by
    rw [root_ofTables_snoc]
    exact changeAt?_of_absent absent rfl
  have opened : (ofTables tables).isOpened [name] = false := by
    simpa [isOpened, ofTables, Keyed.keys] using fresh
  rw [openTable?, show (ofTables tables).settle = ofTables tables from rfl, opened, root]
  simp [isClosed, ofTables]

/-- A field that is not there joins the table opened last. -/
theorem assign?_ofTables (fresh : name ∉ tables.keys) (new : key ∉ fields.keys) (field : Field) :
    (ofTables (tables ++ [(name, fields)])).assign? [name] [] key field.value =
      some (ofTables (tables ++ [(name, fields ++ [(key, field)])])) := by
  have absent : name ∉ (ofTables tables).root.keys := by rwa [ofTables, Keyed.keys_mapValues]
  have inserted : insertNew? key field.value (Keyed.mapValues Field.value fields) =
      some (Keyed.mapValues Field.value (fields ++ [(key, field)])) := by
    rw [insertNew?, Keyed.find?_mapValues, Keyed.find?_eq_none_iff.mpr new]
    simp [Keyed.mapValues]
  have root : changeAt? true (insertNew? key field.value) [name]
      (ofTables (tables ++ [(name, fields)])).root =
        some (ofTables (tables ++ [(name, fields ++ [(key, field)])])).root := by
    rw [root_ofTables_snoc, root_ofTables_snoc]
    exact changeAt?_last absent inserted
  have plain : closes field.value = false := by cases field <;> rfl
  simp only [assign?, passed, List.append_nil, root, plain]
  simp [isClosed, ofTables]

end Draft

/-- A written key starts with a character that is neither space nor the start of another
statement. -/
theorem keyText_head (key : String) :
    ∃ c s, keyText key = c :: s ∧ c ∉ [' ', '\t', '[', '\n', '#'] := by
  rcases keyText_cases key with ⟨c, s, -, written, bare⟩ | written
  · refine ⟨c, s, written, fun among => ?_⟩
    have first := bare c List.mem_cons_self
    simp only [List.mem_cons, List.not_mem_nil, or_false] at among
    rcases among with rfl | rfl | rfl | rfl | rfl <;> exact absurd first (by decide)
  · exact ⟨'"', _, written, by decide⟩

/-- No space is skipped in front of a written key. -/
theorem dropWhile_keyText (key : String) (rest : List Char) :
    (keyText key ++ rest).dropWhile isSpace = keyText key ++ rest := by
  obtain ⟨c, s, written, solid⟩ := keyText_head key
  have kept : isSpace c = false := by
    simp only [List.mem_cons, not_or] at solid
    simp [isSpace, solid.1, solid.2.1]
  rw [written, List.cons_append, List.dropWhile_cons_of_neg (by simp [kept])]

/-- A header is read as the opening of its table. -/
theorem statement_header {calls : Nat} {draft draft' : Draft} {name : String}
    (opens : draft.openTable? [name] = some draft') (header : Path) (rest : List Char) :
    statement calls draft header ('[' :: (keyText name ++ ']' :: rest)) =
      .ok (draft', [name], rest) := by
  obtain ⟨c, s, written, solid⟩ := keyText_head name
  have read : key? ((keyText name ++ ']' :: rest).dropWhile isSpace) =
      some ([], name, ']' :: rest) := by
    rw [dropWhile_keyText]
    have bracket : isBareKeyChar ']' = false ∧ isSpace ']' = false := by decide
    exact key?_keyText name (by simp [EndsKey, bracket.1])
      (List.dropWhile_cons_of_neg (by simp [bracket.2])) (by decide)
  unfold statement
  split
  · rename_i second
    rw [written, List.cons_append] at second
    simp only [List.cons.injEq, true_and] at second
    exact absurd second.1 (fun same => solid (by simp [same]))
  · rename_i same
    rw [← (List.cons.inj same).2, read]
    simp [orMalformed, opens, bind, Except.bind]
  · rename_i feed
    exact absurd (List.cons.inj feed).1 (by decide)
  · rename_i comment
    exact absurd (List.cons.inj comment).1 (by decide)
  · rename_i none
    cases none
  · rename_i bracket _ _ _
    exact absurd rfl (bracket _)

/-- A written field is read back as its value where no quote follows. -/
theorem value_written (fuel calls : Nat) (field : Field) {rest : List Char}
    (apart : rest.head? ≠ some '"') :
    value (fuel + 1) calls (field.written ++ rest) = .ok (field.value, rest) := by
  cases field with
  | text s =>
    have read := string?_stringText s apart
    rw [Field.written, stringText_append] at *
    rw [value, read]
    simp [orMalformed, bind, Except.bind, Field.value]
  | flag b => cases b <;> simp [value, Field.written, plainValue, bool?, Field.value]

/-- A written field starts with no space. -/
theorem dropWhile_written (field : Field) (rest : List Char) :
    (field.written ++ rest).dropWhile isSpace = field.written ++ rest := by
  have solid : isSpace '"' = false ∧ isSpace 't' = false ∧ isSpace 'f' = false := by decide
  cases field with
  | text s =>
    rw [Field.written, stringText_append, List.dropWhile_cons_of_neg (by simp [solid.1])]
  | flag b => cases b <;> simp [Field.written, solid.2]

/-- The key of a field is read back, up to the value. -/
theorem keyAndSign_keyText (key : String) (field : Field) (rest : List Char) :
    keyAndSign (keyText key ++ ' ' :: '=' :: ' ' :: (field.written ++ rest)) =
      .ok ([], key, field.written ++ rest) := by
  have space : isSpace ' ' = true := by decide
  have read : key? (keyText key ++ ' ' :: '=' :: ' ' :: (field.written ++ rest)) =
      some ([], key, '=' :: ' ' :: (field.written ++ rest)) := by
    have blank : isBareKeyChar ' ' = false := by decide
    have sign : isSpace '=' = false := by decide
    exact key?_keyText key (by simp [EndsKey, blank]) (by simp [space, sign]) (by decide)
  rw [keyAndSign, read]
  simp only [orMalformed, bind, Except.bind]
  rw [List.dropWhile_cons_of_pos space, dropWhile_written]

/-- A field is read as an assignment to the table opened last. -/
theorem statement_field {calls : Nat} {draft draft' : Draft} {header : Path} {key : String}
    {field : Field} (joins : draft.assign? header [] key field.value = some draft')
    (rest : List Char) :
    statement calls draft header
      (keyText key ++ ' ' :: '=' :: ' ' :: (field.written ++ '\n' :: rest)) =
        .ok (draft', header, '\n' :: rest) := by
  have read := keyAndSign_keyText key field ('\n' :: rest)
  obtain ⟨c, s, written, solid⟩ := keyText_head key
  rw [written, List.cons_append] at read ⊢
  have other {d : Char} {t t' : List Char} (among : d ∈ ['[', '\n', '#'])
      (same : c :: t = d :: t') : False := by
    rw [(List.cons.inj same).1] at solid
    exact solid (List.mem_cons_of_mem _ (List.mem_cons_of_mem _ among))
  unfold statement
  split
  · rename_i header
    exact (other (by simp) header).elim
  · rename_i header
    exact (other (by simp) header).elim
  · rename_i feed
    exact (other (by simp) feed).elim
  · rename_i comment
    exact (other (by simp) comment).elim
  · rename_i none
    cases none
  · rw [read]
    simp only [bind, Except.bind]
    rw [value_written _ calls field (by simp)]
    simp [orMalformed, joins]

/-- A line that is read as one statement leaves the lines behind it to be read. -/
theorem statements_line {calls : Nat} {draft draft' : Draft} {header header' : Path}
    {s rest : List Char} (fuel : Nat)
    (read : statement calls draft header (s.dropWhile isSpace) =
      .ok (draft', header', '\n' :: rest)) :
    statements calls (fuel + 1) draft header s = statements calls fuel draft' header' rest := by
  have feed : isSpace '\n' = false := by decide
  rw [statements, read]
  simp only [bind, Except.bind]
  rw [List.dropWhile_cons_of_neg (by simp [feed])]
  rfl

section Lines

variable {tables : Keyed (Keyed Field)} {name : String} {calls : Nat}

/-- The fields of a table are read one after another, and join the table opened last. -/
theorem statements_fields {done fields : Keyed Field} (fresh : name ∉ tables.keys)
    (distinct : Keyed.Distinct (done ++ fields)) {fuel : Nat} {rest : List Char}
    (enough : (fields.flatMap fieldLine ++ rest).length < fuel) :
    ∃ left, rest.length < left ∧
      statements calls fuel (.ofTables (tables ++ [(name, done)])) [name]
          (fields.flatMap fieldLine ++ rest) =
        statements calls left (.ofTables (tables ++ [(name, done ++ fields)])) [name] rest := by
  induction fields generalizing done fuel with
  | nil =>
    rw [List.append_nil]
    exact ⟨fuel, enough, rfl⟩
  | cons field fields ih =>
    obtain ⟨key, field⟩ := field
    have new : key ∉ done.keys := distinct.not_mem_of_append
    obtain ⟨fuel, rfl⟩ : ∃ m, fuel = m + 1 := ⟨fuel - 1, by omega⟩
    have line : ((key, field) :: fields).flatMap fieldLine ++ rest =
        keyText key ++ ' ' :: '=' :: ' ' ::
          (field.written ++ '\n' :: (fields.flatMap fieldLine ++ rest)) := by
      simp [fieldLine]
    rw [line] at enough ⊢
    rw [statements_line fuel (by
      rw [dropWhile_keyText]
      exact statement_field (Draft.assign?_ofTables fresh new field) _)]
    rw [List.append_cons done (key, field) fields] at distinct ⊢
    refine ih distinct ?_
    simp only [List.length_append, List.length_cons] at enough ⊢
    omega

/-- A table is read as its header and its fields. -/
theorem statements_table {fields : Keyed Field} (fresh : name ∉ tables.keys)
    (distinct : fields.Distinct) (header : Path) {fuel : Nat} {rest : List Char}
    (enough : (tableText (name, fields) ++ rest).length < fuel) :
    ∃ left, rest.length < left ∧
      statements calls fuel (.ofTables tables) header (tableText (name, fields) ++ rest) =
        statements calls left (.ofTables (tables ++ [(name, fields)])) [name] rest := by
  obtain ⟨fuel, rfl⟩ : ∃ m, fuel = m + 1 := ⟨fuel - 1, by omega⟩
  have line : tableText (name, fields) ++ rest =
      '[' :: (keyText name ++ ']' :: '\n' :: (fields.flatMap fieldLine ++ rest)) := by
    simp [tableText]
  have bracket : isSpace '[' = false := by decide
  rw [line] at enough ⊢
  rw [statements_line fuel (by
    rw [List.dropWhile_cons_of_neg (by simp [bracket])]
    exact statement_header (Draft.openTable?_ofTables fresh) header _)]
  have shorter : (fields.flatMap fieldLine ++ rest).length < fuel := by
    simp only [List.length_append, List.length_cons] at enough ⊢
    omega
  exact statements_fields fresh (by rwa [List.nil_append]) shorter

/-- At the end of the text the draft is the document. -/
theorem statements_nil (draft : Draft) (header : Path) {fuel : Nat} (enough : 0 < fuel) :
    statements calls fuel draft header [] = .ok draft := by
  obtain ⟨fuel, rfl⟩ : ∃ m, fuel = m + 1 := ⟨fuel - 1, by omega⟩
  rfl

/-- An empty line stands between a table and those behind it. -/
theorem documentText_cons (table : String × Keyed Field) {rest : Keyed (Keyed Field)}
    (more : rest ≠ []) :
    documentText (table :: rest) = tableText table ++ '\n' :: documentText rest := by
  cases rest with
  | nil => exact absurd rfl more
  | cons next others => rfl

/-- All tables are read, in their order. -/
theorem statements_document {done tables : Keyed (Keyed Field)}
    (distinct : Keyed.Distinct (done ++ tables)) (fields : ∀ t ∈ tables, Keyed.Distinct t.2)
    (header : Path) {fuel : Nat} (enough : (documentText tables).length < fuel) :
    statements calls fuel (.ofTables done) header (documentText tables) =
      .ok (.ofTables (done ++ tables)) := by
  induction tables using documentText.induct generalizing done header fuel with
  | case1 =>
    rw [List.append_nil]
    exact statements_nil _ _ enough
  | case2 table =>
    rw [documentText, ← List.append_nil (tableText table)] at *
    obtain ⟨left, some, read⟩ := statements_table distinct.not_mem_of_append
      (fields table List.mem_cons_self) header enough
    rw [read]
    exact statements_nil _ _ some
  | case3 table rest more ih =>
    rw [documentText_cons table more] at enough ⊢
    obtain ⟨left, shorter, read⟩ := statements_table distinct.not_mem_of_append
      (fields table List.mem_cons_self) header enough
    rw [List.length_cons] at shorter
    obtain ⟨left, rfl⟩ : ∃ m, left = m + 1 := ⟨left - 1, by omega⟩
    rw [read, statements_line left rfl]
    rw [List.append_cons done table rest] at distinct ⊢
    exact ih distinct (fun t inside => fields t (List.mem_cons_of_mem _ inside)) _
      (Nat.lt_of_succ_lt_succ shorter)

end Lines

/-- A text without carriage returns has its line ends already. -/
theorem plainFeeds_of_not_mem {s : List Char} (absent : '\r' ∉ s) : plainFeeds s = s := by
  induction s using plainFeeds.induct with
  | case1 => rfl
  | case2 rest ih => exact absurd List.mem_cons_self absent
  | case3 c rest other ih =>
    rw [plainFeeds.eq_3 c rest other, ih (mt (List.mem_cons_of_mem c) absent)]

/-- A written document holds no carriage return, whatever its keys and texts. -/
theorem carriage_not_mem_documentText (tables : Keyed (Keyed Field)) :
    '\r' ∉ documentText tables := by
  have key (key : String) : '\r' ∉ keyText key := by
    rcases keyText_cases key with ⟨c, s, -, written, bare⟩ | written
    · rw [written]
      exact fun inside => absurd (bare _ inside) (by decide)
    · rw [written]
      exact carriage_not_mem_stringText key
  have field (field : Field) : '\r' ∉ field.written := by
    cases field with
    | text s => exact carriage_not_mem_stringText s
    | flag b => cases b <;> decide
  have table (table : String × Keyed Field) : '\r' ∉ tableText table := by
    simp [tableText, fieldLine, key, field]
  induction tables using documentText.induct with
  | case1 => exact List.not_mem_nil
  | case2 own => exact table own
  | case3 own rest more ih =>
    rw [documentText_cons own more]
    simp [table, ih]

/-- A written document is read back: the same tables in the same order, each with the same fields
in theirs. -/
theorem read_write {tables : Keyed (Keyed Field)} (distinct : tables.Distinct)
    (fields : ∀ t ∈ tables, Keyed.Distinct t.2) (calls : Nat) :
    read calls (write tables) = .ok (Keyed.mapValues tableValue tables) := by
  have behindNone : Keyed.Distinct ([] ++ tables) := distinct
  have all := @statements_document calls [] tables behindNone fields [] _
    (Nat.lt_succ_self (documentText tables).length)
  rw [read, write, String.toList_ofList,
    plainFeeds_of_not_mem (carriage_not_mem_documentText tables),
    show ({} : Draft) = .ofTables [] from rfl, all]
  rfl

end AccountSidecar.Toml
