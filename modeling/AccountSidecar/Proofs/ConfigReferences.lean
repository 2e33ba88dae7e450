import AccountSidecar.Proofs.Expansion

/-!
# References in configuration files

The lines of a configuration file are taken one by one, and the values of the keys before go into
the value of a line. So a key has the value of the last line that assigns it, with the references in
it replaced by what the keys had there. They are replaced at once where putting in values makes no
reference (`value_expanded_once`); where one was made on the way it is replaced too, which depends
on the order of the keys (`value_expanded_again`).
-/

namespace AccountSidecar.Config

open Text

/-- The configuration that lines assign. -/
def configured (lines : List (List Char)) : Keyed String := lines.foldl takeLine []

/-- Whether a line assigns a value to the key. -/
def Assigns (key : String) (line : List Char) : Prop :=
  ∃ raw, assignment? line = some (key.toList, raw)

section Lines

variable {table : Keyed String} {line raw : List Char} {key : String}

/-- A line that assigns a value sets it with the values of the keys so far in it. -/
theorem takeLine_of_assignment (assigned : assignment? line = some (key.toList, raw))
    (table : Keyed String) :
    takeLine table line = table.put key (String.ofList (substitute table raw)) := by
  rw [takeLine, assigned]
  dsimp only
  rw [String.ofList_toList]

/-- A line assigns a value to some key, or leaves the configuration as it is. -/
theorem takeLine_cases (table : Keyed String) (line : List Char) :
    (∃ key raw, assignment? line = some (String.toList key, raw)) ∨
      (∀ key, ¬ Assigns key line) ∧ takeLine table line = table := by
  cases assigned : assignment? line with
  | none =>
    refine .inr ⟨?_, by simp only [takeLine, assigned]⟩
    rintro key ⟨raw, same⟩
    cases assigned.symm.trans same
  | some assignment =>
    exact .inl ⟨String.ofList assignment.1, assignment.2, by rw [String.toList_ofList]⟩

/-- A line keeps keys distinct. -/
theorem takeLine_distinct (distinct : table.Distinct) (line : List Char) :
    (takeLine table line).Distinct := by
  rcases takeLine_cases table line with ⟨key, raw, assigned⟩ | ⟨-, same⟩
  · rw [takeLine_of_assignment assigned]
    exact distinct.put key _
  · rw [same]
    exact distinct

/-- A line adds the key that it assigns a value to. -/
theorem mem_keys_takeLine :
    key ∈ (takeLine table line).keys ↔ key ∈ table.keys ∨ Assigns key line := by
  rcases takeLine_cases table line with ⟨other, raw, assigned⟩ | ⟨unassigned, same⟩
  · have own : Assigns key line ↔ key = other := by
      constructor
      · rintro ⟨raw', assigned'⟩
        have same := Option.some.inj (assigned'.symm.trans assigned)
        exact String.toList_inj.mp (congrArg Prod.fst same)
      · rintro rfl
        exact ⟨raw, assigned⟩
    rw [takeLine_of_assignment assigned, Keyed.keys_put, own]
    split
    · rename_i there
      exact ⟨.inl, fun known => known.elim id fun same => same ▸ there⟩
    · rw [List.mem_append, List.mem_singleton]
  · rw [same]
    exact ⟨.inl, fun known => known.resolve_right (unassigned key)⟩

/-- A line keeps the values of the keys that it does not assign. -/
theorem find?_takeLine_of_not (unassigned : ¬ Assigns key line) (table : Keyed String) :
    Keyed.find? key (takeLine table line) = Keyed.find? key table := by
  rcases takeLine_cases table line with ⟨other, raw, assigned⟩ | ⟨-, same⟩
  · have apart : key ≠ other := by
      rintro rfl
      exact unassigned ⟨raw, assigned⟩
    rw [takeLine_of_assignment assigned, Keyed.find?_put_of_ne apart]
  · rw [same]

/-- Lines keep keys distinct. -/
theorem foldl_takeLine_distinct (distinct : table.Distinct) (lines : List (List Char)) :
    (lines.foldl takeLine table).Distinct := by
  induction lines generalizing table with
  | nil => exact distinct
  | cons line rest ih => exact ih (takeLine_distinct distinct line)

/-- Lines keep the values of the keys that they do not assign. -/
theorem find?_foldl_takeLine_of_not {lines : List (List Char)}
    (unassigned : ∀ line ∈ lines, ¬ Assigns key line) (table : Keyed String) :
    Keyed.find? key (lines.foldl takeLine table) = Keyed.find? key table := by
  induction lines generalizing table with
  | nil => rfl
  | cons line rest ih =>
    obtain ⟨first, unassigned⟩ := List.forall_mem_cons.mp unassigned
    rw [List.foldl_cons, ih unassigned, find?_takeLine_of_not first]

/-- Lines add the keys that they assign values to. -/
theorem mem_keys_foldl_takeLine (lines : List (List Char)) :
    key ∈ (lines.foldl takeLine table).keys ↔
      key ∈ table.keys ∨ ∃ line ∈ lines, Assigns key line := by
  induction lines generalizing table with
  | nil => simp
  | cons line rest ih =>
    rw [List.foldl_cons, ih, mem_keys_takeLine, List.exists_mem_cons_iff, or_assoc]

/-- The value of a key is the one of the last line that assigns it, with the values that the keys
before have there. -/
theorem find?_configured {before after : List (List Char)}
    (assigned : assignment? line = some (key.toList, raw))
    (last : ∀ later ∈ after, ¬ Assigns key later) :
    Keyed.find? key (configured (before ++ line :: after)) =
      some (String.ofList (substitute (configured before) raw)) := by
  rw [configured, List.foldl_append, List.foldl_cons, ← configured,
    find?_foldl_takeLine_of_not last, takeLine_of_assignment assigned, Keyed.find?_put_self]

end Lines

/-- The configuration that lines assign has each key once. -/
theorem configured_distinct (lines : List (List Char)) : (configured lines).Distinct := by
  have empty : Keyed.Distinct ([] : Keyed String) := List.nodup_nil
  exact foldl_takeLine_distinct empty lines

/-- Whether lines give every key the same value as other lines do. -/
def AssignAlike (lines others : List (List Char)) : Prop :=
  ∀ key, Keyed.find? key (configured lines) = Keyed.find? key (configured others)

/-- Lines that give the keys the same values assign them in another order at most. -/
theorem AssignAlike.perm {lines others : List (List Char)} (alike : AssignAlike lines others) :
    (configured lines).Perm (configured others) :=
  Keyed.perm_of_find? (configured_distinct others) (configured_distinct lines) alike

/-- The value that a configuration file gives a key is the one of the last line that assigns it,
with the values put in that the keys of the lines before have there. Where the references in it are
apart and putting in values makes no reference, they are replaced at once: all other text is kept
and a value comes out as it is; and other lines before that give the keys the same values in another
order make no difference, as long as they make no reference either. This is so wherever the values
before are plain and the line refers to nothing else. -/
theorem value_expanded_once {text line raw : List Char} {before after : List (List Char)}
    {key : String} (split : recordLines text = before ++ line :: after)
    (assigned : assignment? line = some (key.toList, raw))
    (last : ∀ later ∈ after, ¬ Assigns key later) :
    let table := configured before
    (∀ other, other ∈ table.keys ↔ ∃ earlier ∈ before, Assigns other earlier) ∧
    Keyed.find? key (parse text) = some (String.ofList (substitute table raw)) ∧
    (ReferencesApart table.keys raw → makesReference raw raw table = false →
      Keyed.find? key (parse text) = some (String.ofList (expand table raw)) ∧
      ∀ before' after', AssignAlike before' before →
        makesReference raw raw (configured before') = false →
        (∀ later ∈ after', ¬ Assigns key later) →
        Keyed.find? key (configured (before' ++ line :: after')) =
          Keyed.find? key (parse text)) ∧
    (PlainTable table → OnlyRefers table.keys raw →
      ReferencesApart table.keys raw ∧
      ∀ before', AssignAlike before' before →
        makesReference raw raw (configured before') = false) := by
  intro table
  have value : Keyed.find? key (parse text) = some (String.ofList (substitute table raw)) := by
    rw [parse, split]
    exact find?_configured assigned last
  refine ⟨fun other => ?_, value, fun apart unmade => ?_, fun plain only => ⟨?_, ?_⟩⟩
  · rw [show table = before.foldl takeLine [] from rfl, mem_keys_foldl_takeLine]
    simp [Keyed.keys]
  · have single := substitute_eq_expand (configured_distinct before) apart unmade
    refine ⟨by rw [value, single], fun before' after' alike unmade' last' => ?_⟩
    have apart' := apart.perm (Keyed.keys_perm alike.perm)
    have single' := substitute_eq_expand (configured_distinct before') apart' unmade'
    rw [value, find?_configured assigned last', single, single',
      expand_perm (configured_distinct before) alike.perm apart]
  · exact .of_unbraced plain.unbraced raw
  · intro before' alike
    exact makesReference_of_plain (configured_distinct before') (plain.perm alike.perm)
      (only.perm (Keyed.keys_perm alike.perm))

/-- A value with a sign and braces of its own, like a password, is put in as it is, and a reference
to a key that is assigned only later is kept. -/
theorem value_expanded_once_signs :
    let text := "A=p$w\x7b1\x7d\nB=x\nC='$\x7bA\x7d-$\x7bB\x7d-$\x7bD\x7d'\nD=y\n".toList
    let before := ["A=p$w\x7b1\x7d".toList, "B=x".toList]
    let line := "C='$\x7bA\x7d-$\x7bB\x7d-$\x7bD\x7d'".toList
    let raw := "$\x7bA\x7d-$\x7bB\x7d-$\x7bD\x7d".toList
    recordLines text = before ++ line :: ["D=y".toList] ∧
    assignment? line = some ("C".toList, raw) ∧
    (∀ later ∈ ["D=y".toList], ¬ Assigns "C" later) ∧
    ReferencesApart (configured before).keys raw ∧
    makesReference raw raw (configured before) = false ∧
    Keyed.find? "C" (parse text) = some "p$w\x7b1\x7d-x-$\x7bD\x7d" := by
  intro text before line raw
  have split : recordLines text = before ++ line :: ["D=y".toList] := by decide +kernel
  have assigned : assignment? line = some ("C".toList, raw) := by decide +kernel
  have last : ∀ later ∈ ["D=y".toList], ¬ Assigns "C" later := by
    rintro later there ⟨value, other⟩
    rw [List.mem_singleton.mp there] at other
    have key : (assignment? "D=y".toList).map Prod.fst = some "C".toList :=
      congrArg (Option.map Prod.fst) other
    exact absurd key (by decide +kernel)
  have apart : ReferencesApart (configured before).keys raw :=
    .of_unbraced (by unfold IsUnbraced; decide +kernel) raw
  have unmade : makesReference raw raw (configured before) = false := by decide +kernel
  refine ⟨split, assigned, last, apart, unmade, ?_⟩
  rw [((value_expanded_once split assigned last).2.2.1 apart unmade).1]
  decide +kernel

/-- A path refers to the directory above it. -/
example : parse "BASE=/srv/auth\nUSERS_TOML=$\x7bBASE\x7d/users.toml\n".toList =
    [("BASE", "/srv/auth"), ("USERS_TOML", "/srv/auth/users.toml")] := by
  decide +kernel

/-- A value that was put in is expanded again: `A` keeps its reference to `B`, which was not
assigned yet, while `C` refers to `A` and has the value of `B`. A reference can be made from parts
as well, and then the order of two keys that do not refer to each other makes a difference. -/
theorem value_expanded_again :
    let before := ["A=$\x7bB\x7d".toList, "B=x".toList]
    let raw := "$\x7bA\x7d".toList
    recordLines "A=$\x7bB\x7d\nB=x\nC=$\x7bA\x7d\n".toList = before ++ ["C=$\x7bA\x7d".toList] ∧
    assignment? "C=$\x7bA\x7d".toList = some ("C".toList, raw) ∧
    ReferencesApart (configured before).keys raw ∧
    String.ofList (expand (configured before) raw) = "$\x7bB\x7d" ∧
    Keyed.find? "C" (parse "A=$\x7bB\x7d\nB=x\nC=$\x7bA\x7d\n".toList) = some "x" ∧
    Keyed.find? "C" (parse "A=$\nB=x\nC=$\x7bA\x7d\x7bB\x7d\n".toList) = some "x" ∧
    Keyed.find? "C" (parse "B=x\nA=$\nC=$\x7bA\x7d\x7bB\x7d\n".toList) =
      some "$\x7bB\x7d" := by
  intro before raw
  have apart : ReferencesApart (configured before).keys raw :=
    .of_unbraced (by unfold IsUnbraced; decide +kernel) raw
  exact ⟨by decide +kernel, by decide +kernel, apart, by decide +kernel, by decide +kernel,
    by decide +kernel, by decide +kernel⟩

end AccountSidecar.Config
