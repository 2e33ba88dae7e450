import AccountSidecar.CommandLine.Grammar
import AccountSidecar.Text.Split

/-!
# Help texts

The help of a program: how it is used, what it is for, and what each of its arguments means. Lines
are no longer than 78 characters; the explanations stand in a column of their own.
-/

namespace AccountSidecar.CommandLine

open Text

/-- The most characters of a line. -/
def lineWidth : Nat := 78

/-- The farthest column at which explanations start. -/
def maxHelpColumn : Nat := 24

/-- Blanks. -/
def blanks (count : Nat) : String := String.ofList (List.replicate count ' ')

/-- How an option is written, with the place of its value. -/
def OptionSpec.written (o : OptionSpec) (spelling : String) : String :=
  match o.kind with
  | .value placeholder => spelling ++ " " ++ placeholder
  | _ => spelling

/-- An option in the usage. -/
def OptionSpec.usage (o : OptionSpec) : String :=
  "[" ++ o.written (o.spellings.headD "") ++ "]"

/-- All spellings of an option. -/
def OptionSpec.invocation (o : OptionSpec) : String :=
  joinWith ", " (o.spellings.map o.written)

/-- The names of the commands, as one choice. -/
def Grammar.commandChoice (g : Grammar) : String :=
  "\x7b" ++ joinWith "," (g.commands.map (·.1)) ++ "\x7d"

/-- The positional part of the usage. -/
def Grammar.positionalUsage (g : Grammar) : List String :=
  g.positionals.map (·.key) ++ (if g.commands.isEmpty then [] else [g.commandChoice, "..."])

/-- Fills lines with words: a word that does not fit starts a new line. The line so far is never
broken before its first word. -/
def fillLines (width : Nat) (first : String) (indent : String) : String → List String → List String
  | line, [] => [line]
  | line, word :: rest =>
    if line = first || line = indent then fillLines width first indent (line ++ word) rest
    else if line.length + 1 + word.length ≤ width then
      fillLines width first indent (line ++ " " ++ word) rest
    else line :: fillLines width first indent (indent ++ word) rest

/-- What stands before the usage. -/
def usageStart (g : Grammar) : String := "usage: " ++ g.program

/-- The usage. Where it is too long for a line, the options and the positional arguments start lines
of their own. -/
def Grammar.usageLines (g : Grammar) : List String :=
  let options := g.options.map OptionSpec.usage
  let whole := joinWith " " (usageStart g :: options ++ g.positionalUsage)
  if whole.length ≤ lineWidth then [whole]
  else
    let indent := blanks ((usageStart g).length + 1)
    fillLines lineWidth "" indent (usageStart g) options ++
      (if g.positionalUsage.isEmpty then []
      else fillLines lineWidth "" indent indent g.positionalUsage)

/-- The usage, as text. -/
def Grammar.usage (g : Grammar) : String :=
  String.join (g.usageLines.map fun line => line ++ "\n")

/-- A row of the help: its indentation, what it explains and the explanation. -/
structure HelpRow where
  indent : Nat
  header : String
  help : String

/-- The rows about positional arguments. -/
def Grammar.positionalRows (g : Grammar) : List HelpRow :=
  g.positionals.map (fun p => ⟨2, p.key, p.help⟩) ++
    (if g.commands.isEmpty then []
    else ⟨2, g.commandChoice, commandsHelp⟩ :: g.commands.map fun c => ⟨4, c.1, c.2⟩)

/-- The rows about options. -/
def Grammar.optionRows (g : Grammar) : List HelpRow :=
  g.options.map fun o => ⟨2, o.invocation, o.help⟩

/-- The column at which the explanations of rows start. -/
def helpColumn (rows : List HelpRow) : Nat :=
  min maxHelpColumn (rows.foldl (fun n row => max n (row.header.length + 2)) 0 + 2)

/-- The words of a text. -/
def wordsOf (s : String) : List String := (pieces ' ' s.toList).map String.ofList

/-- The lines of a row. -/
def HelpRow.lines (row : HelpRow) (column : Nat) : List String :=
  let margin := blanks column
  let explained := fillLines lineWidth margin margin margin (wordsOf row.help)
  let header := blanks row.indent ++ row.header
  if header.length + 2 ≤ column then
    match explained with
    | [] => [header]
    | first :: rest =>
      (padEnd column header ++ String.ofList (first.toList.drop column)) :: rest
  else header :: explained

/-- A section of the help; one without rows is left out. -/
def helpSection (title : String) (rows : List HelpRow) (column : Nat) : List String :=
  if rows.isEmpty then []
  else ["", title] ++ rows.flatMap fun row => row.lines column

/-- The help. -/
def Grammar.help (g : Grammar) : String :=
  let column := helpColumn (g.positionalRows ++ g.optionRows)
  let description := if g.description = "" then [] else ["", g.description]
  let lines := description ++
    helpSection "positional arguments:" g.positionalRows column ++
    helpSection "options:" g.optionRows column
  g.usage ++ String.join (lines.map fun line => line ++ "\n")

end AccountSidecar.CommandLine
