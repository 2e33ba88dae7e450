import AccountSidecar.Config.File
import AccountSidecar.Proofs.Tables
import Mathlib.Data.List.Find

/-!
# Replacing references

A value may refer to keys. The intent is that its references are replaced at once (`expand`): a
value that is put in comes out as it is, whatever it looks like. A file is read with one replacement
after another instead (`substitute`), so that a value that was put in meets the keys that follow.
What carries the comparison is a count: as long as at the turn of each key its reference stands no
more often than in the value as it was written, every reference that is replaced is a written one,
and both ways come to the same (`substitute_eq_expand`). Values without a sign or a brace of their
own make no reference (`makesReference_of_plain`).
-/

namespace AccountSidecar.Text

/-- How often a nonempty pattern stands in a text, overlaps included. -/
def occurrences (pattern : List Char) : List Char → Nat
  | [] => 0
  | c :: rest => (if pattern.isPrefixOf (c :: rest) then 1 else 0) + occurrences pattern rest

section Occurrences

variable {pattern s : List Char} {c : Char}

/-- Where the pattern does not stand at the start it stands in the rest. -/
theorem occurrences_cons_of_not (absent : ¬ pattern <+: c :: s) :
    occurrences pattern (c :: s) = occurrences pattern s := by
  rw [occurrences, if_neg (mt List.isPrefixOf_iff_prefix.mp absent), Nat.zero_add]

/-- Text in front takes no occurrence away. -/
theorem occurrences_le_append (pattern front s : List Char) :
    occurrences pattern s ≤ occurrences pattern (front ++ s) := by
  induction front with
  | nil => exact Nat.le_refl _
  | cons c front ih =>
    rw [List.cons_append, occurrences]
    omega

/-- Where no occurrence starts in the text in front, it adds none. -/
theorem occurrences_append_of_apart {front : List Char}
    (apart : ∀ i < front.length, ¬ pattern <+: (front ++ s).drop i) :
    occurrences pattern (front ++ s) = occurrences pattern s := by
  induction front with
  | nil => rfl
  | cons c front ih =>
    have first : ¬ pattern <+: c :: (front ++ s) := apart 0 (Nat.succ_pos _)
    rw [List.cons_append, occurrences_cons_of_not first]
    exact ih fun i below => apart (i + 1) (Nat.succ_lt_succ below)

/-- The pattern in front adds an occurrence. -/
theorem occurrences_append_self (nonempty : pattern ≠ []) (s : List Char) :
    occurrences pattern s < occurrences pattern (pattern ++ s) := by
  obtain ⟨c, rest, rfl⟩ := List.exists_cons_of_ne_nil nonempty
  have stands : (c :: rest).isPrefixOf (c :: (rest ++ s)) = true :=
    List.isPrefixOf_iff_prefix.mpr ⟨s, rfl⟩
  have kept := occurrences_le_append (c :: rest) rest s
  rw [List.cons_append, occurrences, if_pos stands]
  omega

/-- The rest of an occurrence is left out. -/
theorem replaceFrom_skip (pattern value front s : List Char) :
    replaceFrom pattern value front.length (front ++ s) = replaceFrom pattern value 0 s := by
  induction front with
  | nil => rfl
  | cons c front ih =>
    rw [List.length_cons, List.cons_append, replaceFrom]
    exact ih

/-- The pattern in front is replaced. -/
theorem replaceAll_append_self (nonempty : pattern ≠ []) (value s : List Char) :
    replaceAll pattern value (pattern ++ s) = value ++ replaceAll pattern value s := by
  obtain ⟨c, rest, rfl⟩ := List.exists_cons_of_ne_nil nonempty
  have stands : (c :: rest).isPrefixOf (c :: (rest ++ s)) = true :=
    List.isPrefixOf_iff_prefix.mpr ⟨s, rfl⟩
  have skipped := replaceFrom_skip (c :: rest) value rest s
  simp only [replaceAll, List.isEmpty_cons, Bool.false_eq_true, if_false]
  rw [List.cons_append, replaceFrom, if_pos stands, List.length_cons, Nat.add_sub_cancel, skipped]

/-- A character where the pattern does not stand is kept. -/
theorem replaceAll_cons_of_not (nonempty : pattern ≠ []) (absent : ¬ pattern <+: c :: s)
    (value : List Char) :
    replaceAll pattern value (c :: s) = c :: replaceAll pattern value s := by
  simp only [replaceAll, List.isEmpty_eq_false_iff.mpr nonempty, Bool.false_eq_true, if_false]
  rw [replaceFrom, if_neg (mt List.isPrefixOf_iff_prefix.mp absent)]

/-- Text that adds no occurrence is kept. -/
theorem replaceAll_append_of_le (nonempty : pattern ≠ []) (value : List Char) {front : List Char}
    (unmade : occurrences pattern (front ++ s) ≤ occurrences pattern s) :
    replaceAll pattern value (front ++ s) = front ++ replaceAll pattern value s := by
  induction front with
  | nil => rfl
  | cons c front ih =>
    have kept := occurrences_le_append pattern front s
    rw [List.cons_append, occurrences] at unmade
    have absent : ¬ pattern <+: c :: (front ++ s) := by
      intro stands
      rw [if_pos (List.isPrefixOf_iff_prefix.mpr stands)] at unmade
      omega
    rw [List.cons_append, replaceAll_cons_of_not nonempty absent, ih (by omega), List.cons_append]

end Occurrences

end AccountSidecar.Text

namespace AccountSidecar

/-- Tables that differ in order have their keys in another order. -/
theorem Keyed.keys_perm {α : Type} {table other : Keyed α} (same : other.Perm table) :
    other.keys.Perm table.keys := same.map Prod.fst

/-- The order of distinct keys makes no difference to what is found. -/
theorem Keyed.find?_perm {α : Type} {table other : Keyed α} (distinct : table.Distinct)
    (same : other.Perm table) (key : String) : find? key other = find? key table := by
  have distinct' : other.Distinct := (keys_perm same).nodup_iff.mpr distinct
  cases found : find? key table with
  | none =>
    rw [find?_eq_none_iff] at found ⊢
    exact fun there => found ((keys_perm same).mem_iff.mp there)
  | some value => exact find?_of_mem distinct' (same.mem_iff.mpr (mem_of_find? found))

/-- Tables that have the same value under each of their distinct keys differ in order only. -/
theorem Keyed.perm_of_find? {α : Type} {table other : Keyed α} (distinct : table.Distinct)
    (distinct' : other.Distinct) (same : ∀ key, find? key other = find? key table) :
    other.Perm table := by
  refine (List.perm_ext_iff_of_nodup distinct'.of_map distinct.of_map).mpr fun e => ?_
  constructor
  · intro inside
    exact mem_of_find? ((same e.1).symm.trans (find?_of_mem distinct' inside))
  · intro inside
    exact mem_of_find? ((same e.1).trans (find?_of_mem distinct inside))

namespace Config

open Text

/-- No reference is empty. -/
theorem reference_ne_nil (key : List Char) : reference key ≠ [] := List.cons_ne_nil _ _

/-- A piece of a value: a reference to a key, or a character that stands for itself. -/
inductive Piece where
  | reference (key : String)
  | character (c : Char)
  deriving DecidableEq, Repr

/-- The text of a piece where keys have the given values. A reference to a key without a value
stands for itself. -/
def Piece.filled (value? : String → Option String) : Piece → List Char
  | .reference key => ((value? key).map String.toList).getD (Config.reference key.toList)
  | .character c => [c]

/-- The text of pieces where keys have the given values. -/
def filled (value? : String → Option String) (pieces : List Piece) : List Char :=
  pieces.flatMap (Piece.filled value?)

/-- The key whose reference stands at the start of a text. -/
def referenceAt? (keys : List String) (text : List Char) : Option String :=
  keys.find? fun key => (reference key.toList).isPrefixOf text

/-- The pieces of a text, with the references to the given keys from left to right; `skip`
characters of a reference are still to be left out. -/
def piecesFrom (keys : List String) : Nat → List Char → List Piece
  | _, [] => []
  | skip + 1, _ :: rest => piecesFrom keys skip rest
  | 0, c :: rest =>
    match referenceAt? keys (c :: rest) with
    | some key => .reference key :: piecesFrom keys ((reference key.toList).length - 1) rest
    | none => .character c :: piecesFrom keys 0 rest

/-- Puts the values of keys at once in place of the references to them: all other text is kept, and
what was put in is not looked at again. -/
def expand (table : Keyed String) (text : List Char) : List Char :=
  filled (Keyed.find? · table) (piecesFrom table.keys 0 text)

/-- Whether no two references to the given keys overlap in a text. -/
def ReferencesApart (keys : List String) (text : List Char) : Prop :=
  ∀ first ∈ keys, ∀ second ∈ keys, ∀ i j, i ≤ j → j < i + (reference first.toList).length →
    reference first.toList <+: text.drop i → reference second.toList <+: text.drop j →
    i = j ∧ first = second

/-- Whether putting in the values of keys, one after another, makes a reference: at the turn of some
key its reference stands in the text more often than in the value as it was written. -/
def makesReference (written : List Char) : List Char → Keyed String → Bool
  | _, [] => false
  | text, (key, value) :: rest =>
    occurrences (reference key.toList) written < occurrences (reference key.toList) text ||
      makesReference written (replaceAll (reference key.toList) value.toList text) rest

section Counting

variable {value? : String → Option String} {key : String} {pieces : List Piece}

/-- The text of pieces is that of the first and that of the others. -/
theorem filled_cons (value? : String → Option String) (piece : Piece) (pieces : List Piece) :
    filled value? (piece :: pieces) = piece.filled value? ++ filled value? pieces :=
  List.flatMap_cons

/-- A reference to a key without a value stands for itself. -/
theorem Piece.filled_unset (unset : value? key = none) :
    Piece.filled value? (.reference key) = Config.reference key.toList := by
  rw [Piece.filled, unset]
  rfl

/-- Every reference to a key without a value stands in the text of pieces. -/
theorem count_le_occurrences (unset : value? key = none) (pieces : List Piece) :
    pieces.count (.reference key) ≤
      occurrences (reference key.toList) (filled value? pieces) := by
  induction pieces with
  | nil => exact Nat.le_refl _
  | cons piece rest ih =>
    rw [filled_cons]
    by_cases own : piece = .reference key
    · subst own
      have added := occurrences_append_self (reference_ne_nil key.toList) (filled value? rest)
      rw [List.count_cons_self, Piece.filled_unset unset]
      exact Nat.le_trans (Nat.succ_le_succ ih) added
    · rw [List.count_cons_of_ne own]
      exact Nat.le_trans ih (occurrences_le_append _ _ _)

/-- Where a key without a value is referred to by its pieces alone, replacing its reference gives it
the value. -/
theorem replaceAll_filled (unset : value? key = none)
    (unmade : occurrences (reference key.toList) (filled value? pieces) ≤
      pieces.count (.reference key)) (value : String) :
    replaceAll (reference key.toList) value.toList (filled value? pieces) =
      filled (Function.update value? key (some value)) pieces := by
  have nonempty := reference_ne_nil key.toList
  induction pieces with
  | nil => rfl
  | cons piece rest ih =>
    have below := count_le_occurrences unset rest
    rw [filled_cons] at unmade
    rw [filled_cons, filled_cons]
    by_cases own : piece = .reference key
    · subst own
      rw [List.count_cons_self, Piece.filled_unset unset] at unmade
      have added := occurrences_append_self nonempty (filled value? rest)
      rw [Piece.filled_unset unset, replaceAll_append_self nonempty, ih (by omega), Piece.filled,
        Function.update_self]
      rfl
    · -- Another piece adds no occurrence, or there would be more of them than pieces.
      rw [List.count_cons_of_ne own] at unmade
      have added := occurrences_le_append (reference key.toList) (piece.filled value?)
        (filled value? rest)
      have same : piece.filled (Function.update value? key (some value)) =
          piece.filled value? := by
        cases piece with
        | reference other =>
          have apart : other ≠ key := fun same => own (congrArg Piece.reference same)
          rw [Piece.filled, Piece.filled, Function.update_of_ne apart]
        | character c => rfl
      rw [replaceAll_append_of_le nonempty _ (Nat.le_trans unmade below), ih (by omega), same]

/-- A key that got its value leaves the keys behind it without one. -/
theorem unset_update {e : String × String} {rest : Keyed String} (absent : e.1 ∉ rest.keys)
    (unset : ∀ key ∈ rest.keys, value? key = none) :
    ∀ key ∈ rest.keys, Function.update value? e.1 (some e.2) key = none := by
  intro key there
  rw [Function.update_of_ne (ne_of_mem_of_not_mem there absent)]
  exact unset key there

/-- Where no reference is made the keys get their values one after another. -/
theorem substitute_filled {written : List Char} {table : Keyed String} (distinct : table.Distinct)
    (unset : ∀ key ∈ table.keys, value? key = none)
    (counted : ∀ key ∈ table.keys,
      occurrences (reference key.toList) written = pieces.count (.reference key))
    (unmade : makesReference written (filled value? pieces) table = false) :
    substitute table (filled value? pieces) =
      filled (fun key => (value? key).or (Keyed.find? key table)) pieces := by
  -- At each key the text is that of the pieces with the values of the keys before.
  induction table generalizing value? with
  | nil =>
    simp only [Keyed.find?, Option.or_none]
    rfl
  | cons e rest ih =>
    obtain ⟨absent, distinct⟩ := List.nodup_cons.mp distinct
    obtain ⟨here, later⟩ := List.forall_mem_cons.mp unset
    obtain ⟨written, counted⟩ := List.forall_mem_cons.mp counted
    rw [makesReference, Bool.or_eq_false_iff, decide_eq_false_iff_not, Nat.not_lt] at unmade
    have replaced := replaceAll_filled here (written ▸ unmade.1) e.2
    rw [replaced] at unmade
    rw [substitute, List.foldl_cons, ← substitute, replaced,
      ih distinct (unset_update absent later) counted unmade.2]
    congr 1
    funext key
    rw [Keyed.find?]
    by_cases own : e.1 = key
    · rw [← own, Function.update_self, here, if_pos rfl]
      rfl
    · rw [Function.update_of_ne (Ne.symm own), if_neg own]

end Counting

section Cutting

variable {keys : List String} {text : List Char}

/-- References that are apart in a text are so in what follows. -/
theorem ReferencesApart.drop (apart : ReferencesApart keys text) (n : Nat) :
    ReferencesApart keys (text.drop n) := by
  intro first firstIn second secondIn i j le lt atI atJ
  rw [List.drop_drop] at atI atJ
  obtain ⟨same, own⟩ := apart first firstIn second secondIn (n + i) (n + j) (by omega) (by omega)
    atI atJ
  exact ⟨by omega, own⟩

/-- References that are apart are so whatever the order of the keys. -/
theorem ReferencesApart.perm {others : List String} (apart : ReferencesApart keys text)
    (same : others.Perm keys) : ReferencesApart others text :=
  fun first firstIn second secondIn =>
    apart first (same.mem_iff.mp firstIn) second (same.mem_iff.mp secondIn)

/-- A reference has its sign and its two braces besides the key. -/
theorem reference_length (key : List Char) : (reference key).length = key.length + 3 := by
  simp [reference]

/-- A key whose reference stands at the start is one of the keys, and the text goes on behind. -/
theorem referenceAt?_eq_some {key : String} {c : Char}
    (found : referenceAt? keys (c :: text) = some key) :
    key ∈ keys ∧
      c :: text = reference key.toList ++ text.drop ((reference key.toList).length - 1) := by
  refine ⟨List.mem_of_find?_eq_some found, ?_⟩
  have stands : (reference key.toList).isPrefixOf (c :: text) = true :=
    List.find?_some (p := fun key : String => (reference key.toList).isPrefixOf (c :: text)) found
  have split := List.prefix_iff_eq_append.mp (List.isPrefixOf_iff_prefix.mp stands)
  rw [reference_length] at split ⊢
  exact split.symm

/-- Where no key is found no reference to one stands at the start. -/
theorem referenceAt?_eq_none (missing : referenceAt? keys text = none) {key : String}
    (there : key ∈ keys) : ¬ reference key.toList <+: text := fun stands =>
  List.find?_eq_none.mp missing key there (List.isPrefixOf_iff_prefix.mpr stands)

/-- A reference at the start is the first piece. -/
theorem piecesFrom_of_reference {key : String} {c : Char}
    (found : referenceAt? keys (c :: text) = some key) :
    piecesFrom keys 0 (c :: text) =
      .reference key :: piecesFrom keys ((reference key.toList).length - 1) text := by
  rw [piecesFrom, found]

/-- A character that starts no reference is a piece. -/
theorem piecesFrom_of_character {c : Char} (missing : referenceAt? keys (c :: text) = none) :
    piecesFrom keys 0 (c :: text) = .character c :: piecesFrom keys 0 text := by
  rw [piecesFrom, missing]

/-- Pieces have the text that they were cut from. -/
theorem filled_piecesFrom (keys : List String) (skip : Nat) (text : List Char) :
    filled (fun _ => none) (piecesFrom keys skip text) = text.drop skip := by
  induction skip, text using piecesFrom.induct keys with
  | case1 skip => rw [piecesFrom, List.drop_nil]; rfl
  | case2 skip c rest ih => rw [piecesFrom, ih, List.drop_succ_cons]
  | case3 c rest key found ih =>
    rw [piecesFrom_of_reference found, filled_cons, ih]
    exact (referenceAt?_eq_some found).2.symm
  | case4 c rest missing ih =>
    rw [piecesFrom_of_character missing, filled_cons, ih]
    rfl

/-- Where references are apart the reference at the start adds an occurrence of itself and none of
another. -/
theorem occurrences_reference_append {first second : String}
    (apart : ReferencesApart keys (reference first.toList ++ text)) (firstIn : first ∈ keys)
    (secondIn : second ∈ keys) :
    occurrences (reference second.toList) (reference first.toList ++ text) =
      occurrences (reference second.toList) text + if first = second then 1 else 0 := by
  have atStart : reference first.toList <+: (reference first.toList ++ text).drop 0 :=
    List.prefix_append _ _
  have sole (i : Nat) (below : i < (reference first.toList).length)
      (stands : reference second.toList <+: (reference first.toList ++ text).drop i) :
      0 = i ∧ first = second :=
    apart first firstIn second secondIn 0 i (Nat.zero_le i) (by omega) atStart stands
  by_cases own : first = second
  · subst own
    have stands : (reference first.toList).isPrefixOf (reference first.toList ++ text) = true :=
      List.isPrefixOf_iff_prefix.mpr atStart
    have inside : occurrences (reference first.toList)
        ((reference first.toList).tail ++ text) = occurrences (reference first.toList) text :=
      occurrences_append_of_apart fun i below standing =>
        absurd (sole (i + 1) (by rw [List.length_tail] at below; omega) standing).1 (by omega)
    rw [if_pos rfl, ← inside, Nat.add_comm]
    exact congrArg (· + _) (if_pos stands)
  · rw [if_neg own, Nat.add_zero]
    exact occurrences_append_of_apart fun i below stands => own (sole i below stands).2

/-- Where references are apart each of them is one of the pieces. -/
theorem occurrences_eq_count {key : String} (there : key ∈ keys) (skip : Nat)
    (apart : ReferencesApart keys (text.drop skip)) :
    occurrences (reference key.toList) (text.drop skip) =
      (piecesFrom keys skip text).count (.reference key) := by
  induction skip, text using piecesFrom.induct keys with
  | case1 skip => rw [piecesFrom, List.drop_nil]; rfl
  | case2 skip c rest ih =>
    rw [piecesFrom, List.drop_succ_cons]
    exact ih apart
  | case3 c rest first found ih =>
    obtain ⟨firstIn, stands⟩ := referenceAt?_eq_some found
    have behind := apart.drop (reference first.toList).length
    rw [List.drop_zero] at apart behind ⊢
    rw [stands, List.drop_left] at behind
    rw [stands] at apart ⊢
    rw [occurrences_reference_append apart firstIn there, ih behind, ← stands,
      piecesFrom_of_reference found, List.count_cons]
    simp only [beq_iff_eq, Piece.reference.injEq]
  | case4 c rest missing ih =>
    rw [List.drop_zero, occurrences_cons_of_not (referenceAt?_eq_none missing there),
      piecesFrom_of_character missing, List.count_cons_of_ne Piece.noConfusion]
    exact ih (apart.drop 1)

/-- Where references are apart the order of the keys makes no difference to the one that stands at
the start. -/
theorem referenceAt?_perm {others : List String} (same : others.Perm keys)
    (apart : ReferencesApart keys text) : referenceAt? others text = referenceAt? keys text := by
  refine (List.find?_eq_find?_of_perm same.symm ?_).symm
  rintro first ⟨firstIn, atStart⟩ second ⟨secondIn, atStart'⟩
  exact (apart first firstIn second secondIn 0 0 (Nat.le_refl 0)
    (by rw [reference_length]; omega) (List.isPrefixOf_iff_prefix.mp atStart)
    (List.isPrefixOf_iff_prefix.mp atStart')).2

/-- Where references are apart the order of the keys makes no difference to the pieces. -/
theorem piecesFrom_perm {others : List String} (same : others.Perm keys) (skip : Nat)
    (apart : ReferencesApart keys (text.drop skip)) :
    piecesFrom others skip text = piecesFrom keys skip text := by
  induction skip, text using piecesFrom.induct keys with
  | case1 skip => rw [piecesFrom, piecesFrom]
  | case2 skip c rest ih =>
    rw [piecesFrom, piecesFrom]
    exact ih apart
  | case3 c rest first found ih =>
    rw [List.drop_zero] at apart
    have behind := apart.drop (reference first.toList).length
    rw [(referenceAt?_eq_some found).2, List.drop_left] at behind
    rw [piecesFrom, piecesFrom, referenceAt?_perm same apart, found]
    exact congrArg _ (ih behind)
  | case4 c rest missing ih =>
    rw [List.drop_zero] at apart
    rw [piecesFrom, piecesFrom, referenceAt?_perm same apart, missing]
    exact congrArg _ (ih (apart.drop 1))

/-- Whether a key has no brace. -/
def IsUnbraced (key : String) : Prop := '\x7b' ∉ key.toList ∧ '\x7d' ∉ key.toList

/-- A name without a closing brace ends at the first one. -/
theorem takeWhile_name {name : List Char} (closed : '\x7d' ∉ name) (rest : List Char) :
    (name ++ '\x7d' :: rest).takeWhile (· != '\x7d') = name := by
  rw [List.takeWhile_append_of_pos fun c inside => ?_, List.takeWhile_cons_of_neg (by decide),
    List.append_nil]
  exact bne_iff_ne.mpr (ne_of_mem_of_not_mem inside closed)

/-- References to keys without braces are apart in every text. -/
theorem ReferencesApart.of_unbraced (unbraced : ∀ key ∈ keys, IsUnbraced key)
    (text : List Char) : ReferencesApart keys text := by
  intro first firstIn second secondIn i j le lt atI atJ
  obtain ⟨opened, closed⟩ := unbraced first firstIn
  obtain ⟨d, rfl⟩ := Nat.exists_eq_add_of_le le
  obtain ⟨w, here⟩ := atI
  rw [← List.drop_drop, ← here] at atJ
  obtain ⟨w', there⟩ := atJ
  rw [reference_length] at lt
  simp only [reference, List.cons_append, List.nil_append, List.append_assoc] at there
  match d with
  | 0 =>
    have names := (List.cons.inj (List.cons.inj there).2).2
    have ended := congrArg (List.takeWhile (· != '\x7d')) names
    rw [takeWhile_name closed, takeWhile_name (unbraced second secondIn).2] at ended
    exact ⟨rfl, (String.toList_inj.mp ended).symm⟩
  | 1 => exact absurd (List.cons.inj there).1 (by decide)
  | d + 2 =>
    -- Its sign and its brace would stand in the name of the first one and the closing brace.
    rw [List.drop_succ_cons, List.drop_succ_cons, List.drop_append_of_le_length (by omega)] at there
    rcases inside : first.toList.drop d with _ | ⟨sign, _ | ⟨brace, more⟩⟩
    · rw [inside] at there
      exact absurd (List.cons.inj there).1 (by decide)
    · rw [inside] at there
      exact absurd (List.cons.inj (List.cons.inj there).2).1 (by decide)
    · rw [inside] at there
      have open' : '\x7b' = brace := (List.cons.inj (List.cons.inj there).2).1
      have among : brace ∈ first.toList.drop d := by
        rw [inside]
        exact List.mem_cons_of_mem _ List.mem_cons_self
      exact absurd (List.mem_of_mem_drop (open' ▸ among)) opened

end Cutting

/-- Whether a text has no sign and no brace of a reference. -/
def IsPlain (s : String) : Prop := '$' ∉ s.toList ∧ IsUnbraced s

/-- Whether each sign with an opening brace in a text starts a reference to one of the keys. -/
def OnlyRefers (keys : List String) (text : List Char) : Prop :=
  ∀ i, ['$', '\x7b'] <+: text.drop i → ∃ key ∈ keys, reference key.toList <+: text.drop i

/-- Whether the values that keys have are plain, and none is empty. -/
def PlainValues (value? : String → Option String) : Prop :=
  ∀ key value, value? key = some value → IsPlain value ∧ value ≠ ""

section Plain

variable {keys : List String} {text : List Char} {value? : String → Option String}

/-- What holds of every sign in a text holds of those in what follows. -/
theorem OnlyRefers.drop (only : OnlyRefers keys text) (n : Nat) :
    OnlyRefers keys (text.drop n) := by
  intro i opens
  rw [List.drop_drop] at opens ⊢
  exact only (n + i) opens

/-- What the signs in a text start does not depend on the order of the keys. -/
theorem OnlyRefers.perm {others : List String} (only : OnlyRefers keys text)
    (same : others.Perm keys) : OnlyRefers others text := by
  intro i opens
  obtain ⟨key, there, stands⟩ := only i opens
  exact ⟨key, same.mem_iff.mpr there, stands⟩

/-- A reference starts with its sign and a brace. -/
theorem opens_of_reference {key : List Char} (stands : reference key <+: text) :
    ['$', '\x7b'] <+: text :=
  ((List.prefix_append _ key).trans (List.prefix_append _ _)).trans stands

/-- No reference starts in text without a sign. -/
theorem not_reference_of_no_sign {key front : List Char} (unsigned : '$' ∉ front) {i : Nat}
    (below : i < front.length) (text : List Char) :
    ¬ reference key <+: (front ++ text).drop i := by
  intro stands
  obtain ⟨rest, split⟩ := opens_of_reference stands
  rw [List.drop_append_of_le_length (Nat.le_of_lt below), List.drop_eq_getElem_cons below] at split
  have sign : '$' = front[i] := (List.cons.inj split).1
  exact unsigned (sign ▸ List.getElem_mem below)

/-- Putting in plain values opens no brace at the start. -/
theorem head?_filled (plain : PlainValues value?) (closed : text.head? ≠ some '\x7b') :
    (filled value? (piecesFrom keys 0 text)).head? ≠ some '\x7b' := by
  cases text with
  | nil => exact closed
  | cons c rest =>
    cases found : referenceAt? keys (c :: rest) with
    | none =>
      rw [piecesFrom_of_character found]
      exact closed
    | some key =>
      rw [piecesFrom_of_reference found, filled_cons]
      cases set : value? key with
      | none =>
        rw [Piece.filled_unset set]
        exact (by decide : some '$' ≠ some '\x7b')
      | some value =>
        obtain ⟨⟨-, opened, -⟩, nonempty⟩ := plain key value set
        obtain ⟨first, more, split⟩ :=
          List.exists_cons_of_ne_nil (mt String.toList_eq_nil_iff.mp nonempty)
        rw [Piece.filled, set]
        intro start
        have brace : first = '\x7b' := by simpa [split] using start
        exact opened (by simp [split, brace])

/-- Where the values of keys are plain a reference to another key is one of the pieces. -/
theorem occurrences_filled_of_plain (unbraced : ∀ key ∈ keys, IsUnbraced key)
    (plain : PlainValues value?) {key : String} (there : key ∈ keys) (unset : value? key = none)
    (skip : Nat) (only : OnlyRefers keys (text.drop skip)) :
    occurrences (reference key.toList) (filled value? (piecesFrom keys skip text)) =
      (piecesFrom keys skip text).count (.reference key) := by
  induction skip, text using piecesFrom.induct keys with
  | case1 skip => rw [piecesFrom]; rfl
  | case2 skip c rest ih =>
    rw [piecesFrom]
    exact ih only
  | case3 c rest first found ih =>
    obtain ⟨firstIn, stands⟩ := referenceAt?_eq_some found
    have behind := only.drop (reference first.toList).length
    rw [List.drop_zero, stands, List.drop_left] at behind
    rw [piecesFrom_of_reference found, filled_cons, List.count_cons, ← ih behind]
    simp only [beq_iff_eq, Piece.reference.injEq]
    cases set : value? first with
    | none =>
      rw [Piece.filled_unset set]
      exact occurrences_reference_append (.of_unbraced unbraced _) firstIn there
    | some value =>
      have other : first ≠ key := by
        rintro rfl
        cases set.symm.trans unset
      rw [if_neg other, Piece.filled, set]
      exact occurrences_append_of_apart fun i below =>
        not_reference_of_no_sign (plain first value set).1.1 below _
  | case4 c rest missing ih =>
    rw [piecesFrom_of_character missing, filled_cons, List.count_cons_of_ne Piece.noConfusion,
      ← ih (only.drop 1)]
    refine occurrences_cons_of_not fun stands => ?_
    -- A sign that stands before no brace does not come to stand before one.
    obtain ⟨more, split⟩ := opens_of_reference stands
    obtain ⟨sign, opened⟩ := List.cons.inj split
    have brace : rest.head? = some '\x7b' := by
      by_contra closed
      exact head?_filled plain closed (congrArg List.head? opened.symm)
    obtain ⟨others, rfl⟩ := List.head?_eq_some_iff.mp brace
    obtain ⟨other, otherIn, standing⟩ := only 0 (by rw [← sign]; exact ⟨others, rfl⟩)
    exact referenceAt?_eq_none missing otherIn standing

/-- Putting in plain values one after another makes no reference. -/
theorem makesReference_filled_of_plain {table : Keyed String} {raw : List Char}
    (distinct : table.Distinct) (unbraced : ∀ key ∈ keys, IsUnbraced key)
    (within : ∀ key ∈ table.keys, key ∈ keys) (solid : ∀ e ∈ table, IsPlain e.2 ∧ e.2 ≠ "")
    (plain : PlainValues value?) (unset : ∀ key ∈ table.keys, value? key = none)
    (only : OnlyRefers keys raw) :
    makesReference raw (filled value? (piecesFrom keys 0 raw)) table = false := by
  induction table generalizing value? with
  | nil => rfl
  | cons e rest ih =>
    obtain ⟨absent, distinct⟩ := List.nodup_cons.mp distinct
    obtain ⟨here, later⟩ := List.forall_mem_cons.mp unset
    obtain ⟨there, within⟩ := List.forall_mem_cons.mp within
    obtain ⟨own, solid⟩ := List.forall_mem_cons.mp solid
    have counted := occurrences_filled_of_plain unbraced plain there here 0 only
    have written := occurrences_eq_count there 0 (.of_unbraced unbraced (raw.drop 0))
    rw [List.drop_zero] at written
    rw [makesReference, replaceAll_filled here counted.le e.2, counted, ← written]
    have plain' : PlainValues (Function.update value? e.1 (some e.2)) := by
      intro key value set
      by_cases same : key = e.1
      · rw [same, Function.update_self] at set
        exact Option.some.inj set ▸ own
      · rw [Function.update_of_ne same] at set
        exact plain key value set
    rw [ih distinct within solid plain' (unset_update absent later)]
    simp

end Plain

/-- Whether the keys of a table have no brace, and their values are plain and not empty. -/
def PlainTable (table : Keyed String) : Prop :=
  ∀ e ∈ table, IsUnbraced e.1 ∧ IsPlain e.2 ∧ e.2 ≠ ""

section Single

variable {table other : Keyed String} {raw : List Char}

/-- The keys of a plain table have no brace. -/
theorem PlainTable.unbraced (plain : PlainTable table) : ∀ key ∈ table.keys, IsUnbraced key := by
  intro key there
  obtain ⟨e, inside, rfl⟩ := List.mem_map.mp there
  exact (plain e inside).1

/-- A table is plain whatever the order of its keys. -/
theorem PlainTable.perm (plain : PlainTable table) (same : other.Perm table) : PlainTable other :=
  fun e inside => plain e (same.mem_iff.mp inside)

/-- A plain table makes no reference where each sign with a brace starts one to its keys. -/
theorem makesReference_of_plain (distinct : table.Distinct) (plain : PlainTable table)
    (only : OnlyRefers table.keys raw) : makesReference raw raw table = false := by
  have none : PlainValues fun _ => none := nofun
  have unmade := makesReference_filled_of_plain distinct plain.unbraced (fun _ => id)
    (fun e inside => (plain e inside).2) none (fun _ _ => rfl) only
  rw [filled_piecesFrom] at unmade
  exact unmade

/-- Where references are apart and none is made, replacing one key after another replaces the
references at once. -/
theorem substitute_eq_expand (distinct : table.Distinct) (apart : ReferencesApart table.keys raw)
    (unmade : makesReference raw raw table = false) :
    substitute table raw = expand table raw := by
  have cut : filled (fun _ => none) (piecesFrom table.keys 0 raw) = raw :=
    filled_piecesFrom table.keys 0 raw
  have counted : ∀ key ∈ table.keys, occurrences (reference key.toList) raw =
      (piecesFrom table.keys 0 raw).count (.reference key) :=
    fun key there => occurrences_eq_count there 0 apart
  have replaced := substitute_filled distinct (fun _ _ => rfl) counted (cut.symm ▸ unmade)
  simp only [cut, Option.none_or] at replaced
  exact replaced

/-- Where references are apart the order of the keys makes no difference to putting in their values
at once. -/
theorem expand_perm (distinct : table.Distinct) (same : other.Perm table)
    (apart : ReferencesApart table.keys raw) : expand other raw = expand table raw := by
  rw [expand, expand, piecesFrom_perm (Keyed.keys_perm same) 0 apart]
  simp only [Keyed.find?_perm distinct same]

end Single

end Config

end AccountSidecar
