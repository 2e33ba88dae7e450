import AccountSidecar.CommandLine.Command
import Mathlib.Data.List.TakeDrop

/-!
# Reading the commands that give a password

What the admin tool reads from a command line that names a command and a user, and perhaps a users
file or that the password comes from the input (`read_commandLine`). The program itself looks at the
name of the command only and leaves everything after it to the grammar of the command
(`read_command`). An argument that starts with no minus sign is never taken for an option
(`markOf_of_plain`), so the username fills the positional argument of its command as it stands
(`takePositionals_of_plain`).
-/

namespace AccountSidecar.CommandLine

variable {g : Grammar} {s : String}

/-- Whether an argument starts with no minus sign. -/
def IsPlainArgument (s : String) : Prop := s.toList.head? ≠ some '-'

instance (s : String) : Decidable (IsPlainArgument s) := inferInstanceAs (Decidable (_ ≠ _))

/-- A plain argument is no option. -/
theorem markOf_of_plain (plain : IsPlainArgument s) (g : Grammar) : markOf g s = .ok .plain := by
  unfold markOf
  split
  · rename_i starts
    exact absurd (by rw [starts]; rfl) plain
  · rfl

/-- A plain argument does not end the options. -/
theorem ne_separator_of_plain (plain : IsPlainArgument s) : s ≠ "--" := by
  rintro rfl
  exact plain (by decide)

/-- A plain argument in front of others is marked as one. -/
theorem markAll_cons_of_plain {rest : List String} {marks : List Marked}
    (plain : IsPlainArgument s) (marked : markAll g rest = .ok marks) :
    markAll g (s :: rest) = .ok ((s, .plain) :: marks) := by
  rw [markAll, if_neg (ne_separator_of_plain plain), markOf_of_plain plain, marked]
  rfl

/-- Marking keeps the arguments. -/
theorem map_markAll {args : List String} {marks : List Marked}
    (marked : markAll g args = .ok marks) : marks.map (·.1) = args := by
  induction args generalizing marks with
  | nil =>
    obtain rfl := Except.ok.inj marked
    rfl
  | cons s rest ih =>
    rw [markAll] at marked
    split at marked
    · obtain rfl := Except.ok.inj marked
      simp [Function.comp_def]
    · split at marked
      · cases marked
      · cases others : markAll g rest with
        | error stop => rw [others] at marked; cases marked
        | ok more =>
          rw [others] at marked
          obtain rfl := Except.ok.inj marked
          simp [ih others]

/-- A plain argument is taken with the separators after it. -/
theorem takePlain?_cons (s : String) (marks : List Marked) :
    takePlain? ((s, .plain) :: marks) =
      some (s :: (marks.takeWhile isSeparator).map (·.1), marks.dropWhile isSeparator) := by
  unfold takePlain?
  simp [List.span_eq_takeWhile_dropWhile, isSeparator]

/-- Once the options are read, the program takes the name of a command and leaves all that follows
to the command. -/
theorem readMarked_command {name : String} {rest : List String} {marks : List Marked} {r : Reading}
    (known : (programGrammar.commands.find? fun c => c.1 = name).isSome)
    (marked : markAll programGrammar rest = .ok marks) (filled : r.missing = [])
    (first : r.command = none) (fuel : Nat) :
    readMarked programGrammar (fuel + 1) r ((name, .plain) :: marks) =
      .ok { r with command := some (name, rest) } := by
  have taken : takePositionals programGrammar r ((name, .plain) :: marks) =
      .ok ({ r with command := some (name, rest) }, []) := by
    unfold takePositionals
    rw [filled, fillPositionals]
    dsimp only
    rw [first, if_neg (by decide), takeCommand, takePlain?_cons, List.map_cons,
      map_markAll marked]
    dsimp only
    rw [if_pos known]
  simp [readMarked, taken]

/-- The arguments that choose a users file; where none is chosen there are none. -/
def usersFileArguments : Option String → List String
  | none => []
  | some path => ["--users-file", path]

/-- The program takes the users file that is chosen and the name of a command, and leaves all that
follows to the command. -/
theorem read_command {name : String} {rest : List String} {marks : List Marked}
    {path? : Option String} (known : (programGrammar.commands.find? fun c => c.1 = name).isSome)
    (chosen : ∀ path, path? = some path → IsPlainArgument path) (plain : IsPlainArgument name)
    (marked : markAll programGrammar rest = .ok marks) :
    programGrammar.read (usersFileArguments path? ++ name :: rest) = .ok {
      values := path?.toList.map fun path => (usersFileOption.key, path)
      command := some (name, rest)
      missing := [] } := by
  have named := markAll_cons_of_plain plain marked
  cases path? with
  | none =>
    unfold usersFileArguments Grammar.read
    rw [List.nil_append, named]
    dsimp only
    rw [show programGrammar.positionals = [] from rfl, readMarked_command known marked rfl rfl]
    rfl
  | some path =>
    have file := markAll_cons_of_plain (chosen path rfl) named
    have option : markOf programGrammar "--users-file" =
        .ok (.option ⟨some usersFileOption, "--users-file", none⟩) := by rfl
    unfold usersFileArguments Grammar.read
    rw [List.cons_append, List.cons_append, List.nil_append, markAll, if_neg (by decide), option]
    dsimp only
    rw [file]
    dsimp only [Except.map]
    have taken : takeOption programGrammar { missing := programGrammar.positionals } "--users-file"
        ⟨some usersFileOption, "--users-file", none⟩ ((path, .plain) :: (name, .plain) :: marks) =
        .ok ({ values := [(usersFileOption.key, path)], missing := [] },
          (name, .plain) :: marks) := by rfl
    rw [readMarked, taken]
    dsimp only
    rw [List.length_cons, Nat.mul_succ, readMarked_command known marked rfl rfl]
    rfl

/-- The arguments of a command that gives a user a password: the user and, where the password comes
from the input, the option that says so. -/
def passwordArguments (username : String) (fromInput : Bool) : List String :=
  username :: if fromInput then ["--password-stdin"] else []

/-- What a command that gives a user a password reads from its arguments. -/
def passwordReading (username : String) (fromInput : Bool) : Reading where
  values := [("username", username)]
  flags := if fromInput then [fromInputOption.key] else []
  missing := []

/-- The arguments of such a command, marked by a grammar that has the option or not. -/
theorem markAll_passwordArguments (plain : IsPlainArgument s) {use : OptionUse}
    (option : markOf g "--password-stdin" = .ok (.option use)) (fromInput : Bool) :
    markAll g (passwordArguments s fromInput) =
      .ok ((s, .plain) :: if fromInput then [("--password-stdin", .option use)] else []) := by
  cases fromInput with
  | false => exact markAll_cons_of_plain plain rfl
  | true =>
    refine markAll_cons_of_plain plain ?_
    rw [if_pos rfl, markAll, if_neg (by decide), option]
    rfl

/-- A plain argument alone fills a positional argument as it stands. -/
theorem takePositionals_of_plain (plain : IsPlainArgument s) (p : Positional)
    (alone : g.commands = []) {rest : List Marked} (ends : rest.takeWhile isSeparator = []) :
    takePositionals g { missing := [p] } ((s, .plain) :: rest) =
      .ok ({ values := [(p.key, s)], missing := [] }, rest) := by
  have next := List.takeWhile_append_dropWhile (p := isSeparator) (l := rest)
  rw [ends, List.nil_append] at next
  have own : positionalValue [s] = s := by
    simp [positionalValue, ne_separator_of_plain plain]
  unfold takePositionals
  rw [fillPositionals, takePlain?_cons, ends, next]
  simp [fillPositionals, own, alone, Keyed.put]

/-- A command that gives a user a password reads the user as they are named. -/
theorem read_passwordArguments {name : String} (gives : name = "add" ∨ name = "passwd")
    (plain : IsPlainArgument s) (fromInput : Bool) :
    (commandGrammar name).read (passwordArguments s fromInput) =
      .ok (passwordReading s fromInput) := by
  have option : markOf (commandGrammar name) "--password-stdin" =
      .ok (.option ⟨some fromInputOption, "--password-stdin", none⟩) := by
    rcases gives with rfl | rfl <;> rfl
  obtain ⟨help, takes⟩ : ∃ help, (commandGrammar name).positionals = [usernameArgument help] := by
    rcases gives with rfl | rfl <;> exact ⟨_, rfl⟩
  have alone : (commandGrammar name).commands = [] := by
    rcases gives with rfl | rfl <;> rfl
  unfold Grammar.read
  rw [markAll_passwordArguments plain option, takes]
  dsimp only
  cases fromInput with
  | false =>
    simp only [readMarked, if_neg Bool.false_ne_true]
    rw [takePositionals_of_plain plain _ alone rfl]
    rfl
  | true =>
    simp only [readMarked, if_pos]
    rw [takePositionals_of_plain plain _ alone rfl]
    rfl

/-- What a command line says that names the command and the user, and perhaps a users file. -/
def commandLine (path? : Option String) (name username : String) (fromInput : Bool) : List String :=
  usersFileArguments path? ++ name :: passwordArguments username fromInput

/-- The users file that a command line works on: the one that it chooses, or the one of the
environment. -/
def usersPathFor (env : Keyed String) (path? : Option String) : String :=
  path?.getD ((env.find? "USERS_FILE_PATH").getD defaultUsersPath)

/-- A command line that gives a user a password is read as it stands. -/
theorem read_commandLine (env : Keyed String) {path? : Option String} {name : String}
    (gives : name = "add" ∨ name = "passwd")
    (chosen : ∀ path, path? = some path → IsPlainArgument path) (plain : IsPlainArgument s)
    (fromInput : Bool) :
    ∃ metadataPath, Invocation.read env (commandLine path? name s fromInput) =
      .ok ⟨usersPathFor env path?, metadataPath,
        if name = "add" then some (.add s fromInput) else some (.setPassword s fromInput)⟩ := by
  have known : (programGrammar.commands.find? fun c => c.1 = name).isSome := by
    rcases gives with rfl | rfl <;> rfl
  have named : IsPlainArgument name := by
    rcases gives with rfl | rfl <;> simp [IsPlainArgument]
  have option : markOf programGrammar "--password-stdin" =
      .ok (.option ⟨none, "--password-stdin", none⟩) := by rfl
  have top := read_command known chosen named (markAll_passwordArguments plain option fromInput)
  have inner := read_passwordArguments gives plain fromInput
  unfold Invocation.read commandLine
  rw [top]
  dsimp only [bind, Except.bind]
  rw [inner]
  rcases gives with rfl | rfl <;> cases path? <;> cases fromInput <;> exact ⟨_, rfl⟩

end AccountSidecar.CommandLine
