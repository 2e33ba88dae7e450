/-!
# Grammars of command lines

What a program takes on its command line: options, which may stand anywhere, positional arguments,
and commands, which take the rest of the line for themselves.
-/

namespace AccountSidecar.CommandLine

/-- What an option does: it asks for help, it is on when it is given, or it takes a value. -/
inductive OptionKind where
  | help
  | flag
  | value (placeholder : String)
  deriving DecidableEq, Repr

/-- An option under all its spellings, the first of which is its usual one. -/
structure OptionSpec where
  key : String
  spellings : List String
  kind : OptionKind
  help : String
  deriving DecidableEq, Repr

/-- A positional argument. -/
structure Positional where
  key : String
  help : String
  deriving DecidableEq, Repr

/-- What a program, or one of its commands, takes. -/
structure Grammar where
  program : String
  description : String := ""
  options : List OptionSpec
  positionals : List Positional := []
  /-- The commands and what is said about each. -/
  commands : List (String × String) := []
  deriving DecidableEq, Repr

/-- The option that asks for help. -/
def helpOption : OptionSpec :=
  ⟨"help", ["-h", "--help"], .help, "show this help message and exit"⟩

/-- What is said about the place where a command stands. -/
def commandsHelp : String := "Available commands"

/-- The name of the place where a command stands. -/
def commandKey : String := "command"

/-- How a refusal names an option. -/
def OptionSpec.label (o : OptionSpec) : String := "/".intercalate o.spellings

/-- Every spelling of every option. -/
def Grammar.spellings (g : Grammar) : List (String × OptionSpec) :=
  g.options.flatMap fun o => o.spellings.map fun s => (s, o)

/-- The option with a spelling. -/
def Grammar.option? (g : Grammar) (spelling : String) : Option OptionSpec :=
  (g.spellings.find? fun e => e.1 = spelling).map (·.2)

end AccountSidecar.CommandLine
