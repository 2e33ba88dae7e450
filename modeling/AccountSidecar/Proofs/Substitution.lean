import AccountSidecar.Proofs.Placeholders
import AccountSidecar.Proofs.Tables

/-!
# Substitution

A simple template renders to its literal text with the values of its names in it. The pieces go
through the reader one by one: literal text is passed over up to the next placeholder, the tag of a
placeholder has its name for a token, and the name is all that the tag puts out. A value is put into
the output after the template was read, so it comes out as it is, whatever it looks like
(`placeholders_substituted_verbatim`).
-/

namespace AccountSidecar.Template

open Text

section Tags

variable {s : List Char}

/-- No output tag ends at another character. -/
theorem outputEnd?_of_not_mem {c : Char} (other : c ∉ tagSigns) (s : List Char) :
    outputEnd? (c :: s) = none := by
  unfold outputEnd?
  split
  · rename_i same
    exact absurd (by rw [(List.cons.inj same).1]; decide) other
  · rename_i same
    exact absurd (by rw [(List.cons.inj same).1]; decide) other
  · rfl

/-- Other characters are no sign at the start of a tag. -/
theorem openingSign_of_not_mem {c : Char} (other : c ∉ tagSigns) (s : List Char) :
    openingSign (c :: s) = (false, c :: s) := by
  unfold openingSign
  split
  · rename_i same
    exact absurd (by rw [(List.cons.inj same).1]; decide) other
  · rename_i same
    exact absurd (by rw [(List.cons.inj same).1]; decide) other
  · rfl

/-- Inert text is passed over up to the next tag. -/
theorem beforeTag_append_of_inert (inert : IsInert s) (rest : List Char) :
    beforeTag (s ++ rest) = (s ++ (beforeTag rest).1, (beforeTag rest).2) := by
  induction s with
  | nil => rfl
  | cons c s ih =>
    rw [List.cons_append, beforeTag, ← List.cons_append, inert.1 rest, if_neg Bool.false_ne_true]
    simp only [ih inert.2, List.cons_append]

/-- Blanks in a tag are passed over. -/
theorem tagTokens_blanks (blank : ∀ c ∈ s, isBlank c = true) (fuel : Nat) (rest : List Char) :
    tagTokens outputEnd? (s.length + fuel) [] false (s ++ rest) =
      tagTokens outputEnd? fuel [] false rest := by
  induction s with
  | nil => rw [List.length_nil, Nat.zero_add, List.nil_append]
  | cons c s ih =>
    have own := blank c List.mem_cons_self
    rw [List.length_cons, Nat.add_right_comm, List.cons_append, tagTokens]
    simp only [List.isEmpty_nil, if_true, outputEnd?_of_not_mem (not_mem_tagSigns_of_isBlank own),
      own]
    exact ih fun d inside => blank d (List.mem_cons_of_mem c inside)

/-- No number starts like a name. -/
theorem numeral?_of_startsName {c : Char} (starts : startsName c = true) (s : List Char) :
    numeral? false (c :: s) = none := by
  obtain ⟨-, decimal, digit⟩ := letter_of_startsName starts
  have zero : c ≠ '0' := by
    rintro rfl
    cases digit
  have float : float? (c :: s) = none := by
    simp [float?, Number.separatedDigits?, decimal]
  have based : basedNumber? (c :: s) = none := by
    unfold basedNumber?
    split
    · rename_i same
      exact absurd (List.cons.inj same).1 zero
    · rfl
  have digits : decimalDigits? (c :: s) = none := by
    unfold decimalDigits?
    split
    · rename_i same
      exact absurd (List.cons.inj same).1 zero
    · rename_i same
      rw [← (List.cons.inj same).1, digit, if_neg Bool.false_ne_true]
    · rfl
  simp only [numeral?, Bool.false_eq_true, if_false, float, based, digits, Option.map_none]

variable (p : Placeholder)

/-- The name of a placeholder is one token. -/
theorem token_name (rest : List Char) :
    token false (p.name.toList ++ (p.after ++ '\x7d' :: rest)) =
      .ok (.name p.name, p.after ++ '\x7d' :: rest) := by
  obtain ⟨c, more, letters, starts, continues⟩ := p.exists_name
  have span := p.span_name isNameChar
    (fun c own => by rw [isNameChar, own.word, Bool.true_or])
    (fun c blank => isNameChar_of_isBlank blank) (by decide) rest
  have number : numeral? false (p.name.toList ++ (p.after ++ '\x7d' :: rest)) = none := by
    rw [letters]
    exact numeral?_of_startsName starts _
  have identifier : isIdentifier p.name.toList = true := by
    rw [letters, isIdentifier, (letter_of_startsName starts).1, Bool.true_and, List.all_eq_true]
    exact fun d inside =>
      (isNameLetter_of_continuesName (continues d (List.mem_cons_of_mem c inside))).continues
  have given : p.name.toList.isEmpty = false := by rw [letters, List.isEmpty_cons]
  have name : name? (p.name.toList ++ (p.after ++ '\x7d' :: rest)) =
      some (.ok (.name p.name, p.after ++ '\x7d' :: rest)) := by
    simp only [name?, span, given, identifier, Bool.false_eq_true, if_false, if_true,
      String.ofList_toList]
  simp only [token, number, name]

/-- The only token of a placeholder in plain form is its name. -/
theorem tagTokens_content (undotted : p.dotted = false) (fuel : Nat) (rest : List Char) :
    tagTokens outputEnd? (p.before.length + (p.after.length + (fuel + 1) + 1)) [] false
      (p.content ++ '\x7d' :: '\x7d' :: rest) = .ok ([.name p.name], rest) := by
  obtain ⟨c, more, letters, -, continues⟩ := p.exists_name
  have own := isNameLetter_of_continuesName (continues c List.mem_cons_self)
  have tok := token_name p ('\x7d' :: rest)
  rw [p.content_append, Placeholder.core, undotted, if_neg Bool.false_ne_true,
    tagTokens_blanks p.blankBefore]
  rw [letters, List.cons_append] at tok ⊢
  rw [tagTokens]
  -- Behind the name only blanks are left before the braces.
  have closes : tagTokens outputEnd? (p.after.length + (fuel + 1)) [] false
      (p.after ++ '\x7d' :: '\x7d' :: rest) = .ok ([], rest) := by
    rw [tagTokens_blanks p.blankAfter]
    rfl
  have other : (Token.name p.name == .symbol ".") = false := rfl
  simp only [List.isEmpty_nil, if_true, outputEnd?_of_not_mem own.noSign, own.notBlank,
    Bool.false_eq_true, if_false, tok, balance?, other, closes]

end Tags

/-- The segments of a simple template behind literal text. -/
def segmentsOf (before : List Char) : List Piece → List Segment
  | [] => [.text before]
  | .literal l :: rest => segmentsOf (before ++ l.text) rest
  | .placeholder p :: rest => .text before :: .output [.name p.name] :: segmentsOf [] rest

/-- The statements of a simple template behind literal text. -/
def statementsOf (before : List Char) : List Piece → List Statement
  | [] => [.text (String.ofList before)]
  | .literal l :: rest => statementsOf (before ++ l.text) rest
  | .placeholder p :: rest =>
    .text (String.ofList before) :: .output (.name p.name) :: statementsOf [] rest

/-- Whether no placeholder of a simple template has a dot. -/
def AllPlain (pieces : List Piece) : Prop :=
  ∀ p, .placeholder p ∈ pieces → p.dotted = false

section Reading

variable {before : List Char} {pieces : List Piece}

/-- The tag of a placeholder in plain form puts out its name. -/
theorem opening?_written {p : Placeholder} (undotted : p.dotted = false) (rest : List Char) :
    ∃ inner, opening? (p.written ++ rest) = some (false, .output, inner) ∧
      afterOpening .output inner = .ok ([.output [.name p.name]], rest) := by
  obtain ⟨c, s, content⟩ := List.exists_cons_of_ne_nil p.content_ne_nil
  have other : c ∉ tagSigns :=
    Placeholder.not_mem_tagSigns_of_mem_content undotted (content ▸ List.mem_cons_self)
  refine ⟨p.content ++ '\x7d' :: '\x7d' :: rest, ?_, ?_⟩
  · rw [p.written_append, opening?, content, List.cons_append, openingSign_of_not_mem other]
  · obtain ⟨fuel, count⟩ : ∃ fuel, (p.content ++ '\x7d' :: '\x7d' :: rest).length + 1 =
        p.before.length + (p.after.length + (fuel + 1) + 1) :=
      ⟨p.core.length + rest.length + 1, by
        simp only [Placeholder.content, List.length_append, List.length_cons]
        omega⟩
    rw [afterOpening, count, tagTokens_content p undotted]
    rfl

/-- The segments of a simple template are those of its pieces. -/
theorem segmentsFrom_written (inert : IsInert before) (plain : AllPlain pieces) {fuel : Nat}
    (enough : (written pieces).length < fuel) :
    segmentsFrom fuel (before ++ written pieces) = .ok (segmentsOf before pieces) := by
  -- Literal pieces that follow one another make one segment, so they gather in the text before.
  induction pieces generalizing before fuel with
  | nil =>
    obtain ⟨fuel, rfl⟩ : ∃ n, fuel = n + 1 := ⟨fuel - 1, by omega⟩
    rw [segmentsFrom, beforeTag_append_of_inert inert]
    change Except.ok [Segment.text (before ++ [])] = _
    rw [List.append_nil]
    rfl
  | cons piece rest ih =>
    have others : AllPlain rest := fun p inside => plain p (List.mem_cons_of_mem piece inside)
    rw [written_cons, List.length_append] at enough
    cases piece with
    | literal l =>
      rw [written_cons, ← List.append_assoc]
      exact ih (inert.append (isInert_of_noOpening l.noOpening l.noBrace)) others (by omega)
    | placeholder p =>
      obtain ⟨fuel, rfl⟩ : ∃ n, fuel = n + 1 := ⟨fuel - 1, by omega⟩
      have given : 0 < (Piece.placeholder p).written.length := Nat.succ_pos _
      obtain ⟨inner, opens, closes⟩ := opening?_written (plain p List.mem_cons_self) (written rest)
      have stops : beforeTag (p.written ++ written rest) = ([], p.written ++ written rest) := rfl
      have nothing : IsInert [] := trivial
      have left : (written rest).length < fuel := by omega
      have follow := ih nothing others left
      rw [segmentsFrom, written_cons, beforeTag_append_of_inert inert]
      simp only [Piece.written, stops, opens, closes]
      rw [List.nil_append] at follow
      rw [follow, List.append_nil]
      rfl

/-- A name alone is read as itself on every level of the operators. -/
theorem readLevel_name {s : String} (ordinary : s ∉ specialNames) (fuel : Nat) :
    readLevel (fuel + 10) .disjunction [.name s] = some (.name s, []) := by
  simp only [specialNames, List.mem_cons, List.not_mem_nil, or_false, not_or] at ordinary
  have primary : readPrimary (fuel + 1) [.name s] = some (.name s, []) := by
    simp [readPrimary, ordinary]
  have signed : readSigned (fuel + 2) true [.name s] = some (.name s, []) := by
    simp only [readSigned, primary]
    rfl
  have power : readLevel (fuel + 3) .power [.name s] = some (.name s, []) := by
    rw [readLevel, signed]
    rfl
  have multiplication : readLevel (fuel + 4) .multiplication [.name s] = some (.name s, []) := by
    rw [readLevel, power]
    rfl
  have joining : readLevel (fuel + 5) .joining [.name s] = some (.name s, []) := by
    rw [readLevel, multiplication]
    rfl
  have addition : readLevel (fuel + 6) .addition [.name s] = some (.name s, []) := by
    rw [readLevel, joining]
    rfl
  have comparison : readLevel (fuel + 7) .comparison [.name s] = some (.name s, []) := by
    rw [readLevel, addition]
    rfl
  have negation : readLevel (fuel + 8) .negation [.name s] = some (.name s, []) := by
    rw [readLevel, comparison]
    intro rest same
    exact ordinary.1 (Token.name.inj (List.cons.inj same).1)
  have conjunction : readLevel (fuel + 9) .conjunction [.name s] = some (.name s, []) := by
    rw [readLevel, negation]
    rfl
  rw [readLevel, conjunction]
  rfl

/-- A tag with a name alone puts out the value of that name. -/
theorem readOutput?_name {s : String} (ordinary : s ∉ specialNames) :
    readOutput? [.name s] = some (.name s) := by
  -- One token gives a fuel of 48, one of which goes with each step down to the operators.
  have conditional : readConditional 46 [.name s] = some (.name s, []) := by
    rw [readConditional, readLevel_name ordinary 35]
    rfl
  have items : readTupleItems 47 .any none [.name s] = some ([.name s], false, []) := by
    rw [readTupleItems]
    change (readConditional 46 [.name s]).bind _ = _
    rw [conditional]
    rfl
  have tuple : readTuple (fuelFor [.name s]) .any none false [.name s] = some (.name s, []) := by
    change readTuple 48 .any none false [.name s] = _
    rw [readTuple, items]
    rfl
  rw [readOutput?, tuple]
  rfl

/-- The statements of a simple template are those of its pieces. -/
theorem readStatements?_segmentsOf {fuel : Nat}
    (enough : (segmentsOf before pieces).length < fuel) :
    readStatements? fuel [] (segmentsOf before pieces) =
      some (statementsOf before pieces, none, []) := by
  induction pieces generalizing before fuel with
  | nil =>
    obtain ⟨fuel, rfl⟩ : ∃ n, fuel = n + 2 :=
      ⟨fuel - 2, by simp only [segmentsOf, List.length_singleton] at enough; omega⟩
    rfl
  | cons piece rest ih =>
    cases piece with
    | literal l => exact ih enough
    | placeholder p =>
      simp only [segmentsOf, List.length_cons] at enough
      obtain ⟨fuel, rfl⟩ : ∃ n, fuel = n + 2 := ⟨fuel - 2, by omega⟩
      have left : (segmentsOf [] rest).length < fuel := by omega
      simp only [segmentsOf, readStatements?, readOutput?_name p.ordinary, Option.bind_some,
        ih left, Option.map_some, statementsOf]

/-- Simple templates stay inside the fragment. -/
theorem areForeign_segmentsOf : areForeign (segmentsOf before pieces) = false := by
  have native : ∀ s ∈ segmentsOf before pieces, s.isForeign = false ∧ s.isRecursive = false := by
    induction pieces generalizing before with
    | nil => simp [segmentsOf, Segment.isForeign, Segment.isRecursive, Segment.tokens,
        hasStarArgument]
    | cons piece rest ih =>
      cases piece with
      | literal l => exact ih
      | placeholder p =>
        simp only [segmentsOf, List.forall_mem_cons]
        exact ⟨⟨rfl, rfl⟩, ⟨rfl, rfl⟩, ih⟩
  rw [areForeign, List.any_eq_false.mpr fun s inside => by simp [(native s inside).1],
    List.any_eq_false.mpr fun s inside => by simp [(native s inside).2]]
  rfl

/-- Simple templates ask for no filters and tests. -/
theorem statementsKnown_statementsOf :
    statementsKnown false (statementsOf before pieces) = true := by
  induction pieces generalizing before with
  | nil => rfl
  | cons piece rest ih =>
    cases piece with
    | literal l => exact ih
    | placeholder p => exact ih

end Reading

/-- The value of a name is put out as it is, and nothing for a name without a value. -/
theorem print_value {data : Keyed String} {s : String} (ordinary : s ∉ specialNames) :
    (Scope.value (Keyed.mapValues Datum.text data) s).print =
      .ok ((Keyed.find? s data).getD "") := by
  have other : s ≠ itselfName := by
    rintro rfl
    exact ordinary (by decide)
  rw [Scope.value, Keyed.find?_mapValues]
  cases Keyed.find? s data with
  | none =>
    rw [Option.map_none]
    dsimp only
    rw [if_neg other]
    rfl
  | some value => rfl

/-- A name that means nothing of its own is not one of a function of every template. -/
theorem not_isGlobal {s : String} (ordinary : s ∉ specialNames) (scope : Scope) :
    scope.isGlobal s = false := by
  have other : globalNames.contains s = false := by
    refine Bool.eq_false_iff.mpr fun inside => ordinary ?_
    have among : ∀ name ∈ globalNames, name ∈ specialNames := by decide
    exact among s (List.contains_iff_mem.mp inside)
  rw [Scope.isGlobal, other, Bool.and_false]

/-- The statements of a simple template put out what its pieces stand for. -/
theorem renderAll_statementsOf (data : Keyed String) (before : List Char) (pieces : List Piece) :
    renderAll (Keyed.mapValues Datum.text data) (statementsOf before pieces) =
      .ok (String.ofList before ++ expansion data pieces, Keyed.mapValues Datum.text data) := by
  induction pieces generalizing before with
  | nil => rfl
  | cons piece rest ih =>
    rw [expansion_cons]
    cases piece with
    | literal l =>
      rw [statementsOf, ih, String.ofList_append, String.append_assoc]
      rfl
    | placeholder p =>
      have follow := ih []
      rw [String.ofList_nil, String.empty_append] at follow
      have literal (s : String) : renderStatement (Keyed.mapValues Datum.text data) (.text s) =
          .ok (s, Keyed.mapValues Datum.text data) := by rw [renderStatement]
      have put : renderStatement (Keyed.mapValues Datum.text data) (.output (.name p.name)) =
          .ok ((Piece.placeholder p).expansion data, Keyed.mapValues Datum.text data) := by
        simp only [renderStatement, evaluate, not_isGlobal p.ordinary, Bool.false_eq_true,
          if_false, print_value p.ordinary]
        rfl
      simp only [statementsOf, renderAll, literal, put, follow]

/-- The preparation of a template leaves what its pieces stand for. -/
theorem expansion_prepared (data : Keyed String) (pieces : List Piece) :
    expansion data ((pieces.map Piece.plain).map Piece.unified) = expansion data pieces := by
  induction pieces with
  | nil => rfl
  | cons piece rest ih =>
    rw [List.map_cons, List.map_cons, expansion_cons, expansion_cons, ih]
    cases piece with
    | literal l => rfl
    | placeholder p =>
      exact congrArg (· ++ _) (congrArg (fun name => (Keyed.find? name data).getD "") p.name_plain)

/-- After the preparation of a template no placeholder has a dot. -/
theorem allPlain_prepared (pieces : List Piece) :
    AllPlain ((pieces.map Piece.plain).map Piece.unified) := by
  intro p inside
  obtain ⟨piece, among, same⟩ := List.mem_map.mp inside
  obtain ⟨original, -, rfl⟩ := List.mem_map.mp among
  cases original with
  | literal l => cases same
  | placeholder q =>
    obtain rfl := Piece.placeholder.inj same
    exact q.dotted_plain

/-- A simple template renders to what its pieces stand for: the literal text as it stands, and for
each placeholder the value of its name, character by character, or nothing where the name has no
value. No value is read as a template, and a dot before a name or blanks around it make no
difference. -/
theorem placeholders_substituted_verbatim (pieces : List Piece) (data : Keyed String)
    (unclaimed : Keyed.find? itselfName data = none) :
    render (String.ofList (written pieces)) data = .ok (expansion data pieces) := by
  -- The pieces as they stand in the text once it is ready to be cut into segments.
  let prepared := (pieces.map Piece.plain).map Piece.unified
  have text : unifyNewlines (undotted (written pieces)) = written prepared := by
    rw [undotted_written, unifyNewlines_written]
  have inert : IsInert [] := trivial
  have found : segments (written prepared) = .ok (segmentsOf [] prepared) :=
    segmentsFrom_written inert (allPlain_prepared pieces) (Nat.lt_succ_self _)
  have statements : statementsOf? (segmentsOf [] prepared) = some (statementsOf [] prepared) := by
    rw [statementsOf?, readStatements?_segmentsOf (by omega)]
    rfl
  have read : read (undotted (written pieces)) = .ok (statementsOf [] prepared) := by
    simp only [read, text, found, areForeign_segmentsOf, Bool.false_eq_true, if_false, statements]
  have ready : prepare (undotted (written pieces)) = .ok (statementsOf [] prepared) := by
    rw [prepare, read]
    exact if_pos statementsKnown_statementsOf
  rw [render, outputOf, String.toList_ofList, ready]
  dsimp only
  rw [unclaimed, renderAll_statementsOf, expansion_prepared]
  rfl

/-- Literal text and three placeholders: one with a dot, one with blanks around its name and one
whose name has no value. -/
def samplePieces : List Piece :=
  [.literal ⟨"user=".toList, by decide, by decide, by decide⟩,
    .placeholder ⟨true, [], "Username", [], List.all_eq_true.mp rfl, List.all_eq_true.mp rfl,
      by decide, by decide⟩,
    .literal ⟨"\x7d, pass=".toList, by decide, by decide, by decide⟩,
    .placeholder ⟨false, [' '], "Password", ['\t', '\r', '\n'], isBlank_of_mem_space,
      List.all_eq_true.mp rfl, by decide, by decide⟩,
    .placeholder ⟨false, [], "Realm", [], List.all_eq_true.mp rfl, List.all_eq_true.mp rfl,
      by decide, by decide⟩]

/-- A username and a password that look like templates. -/
def sampleData : Keyed String :=
  [("Username", "\x7b\x7b Password \x7d\x7d"), ("Password", "\x7b% if x %\x7d<\"'&>")]

/-- The text of the sample. -/
def sampleSource : String :=
  "user=\x7b\x7b.Username\x7d\x7d\x7d, pass=\x7b\x7b Password\t\r\n\x7d\x7d\x7b\x7bRealm\x7d\x7d"

/-- What the sample stands for. -/
def sampleOutput : String := "user=\x7b\x7b Password \x7d\x7d\x7d, pass=\x7b% if x %\x7d<\"'&>"

/-- The username and the password come out as they are, although they look like templates. -/
theorem placeholders_substituted_sample :
    Keyed.find? itselfName sampleData = none ∧
      render sampleSource sampleData = .ok sampleOutput := by
  have unclaimed : Keyed.find? itselfName sampleData = none := by decide
  have source : String.ofList (written samplePieces) = sampleSource := by decide
  have output : expansion sampleData samplePieces = sampleOutput := by decide
  have substituted := placeholders_substituted_verbatim samplePieces sampleData unclaimed
  rw [source, output] at substituted
  exact ⟨unclaimed, substituted⟩

end AccountSidecar.Template
