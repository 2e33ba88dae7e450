import AccountSidecar.CommandLine.Help
import AccountSidecar.Keyed
import AccountSidecar.Text.Digit
import AccountSidecar.Text.Quoted

/-!
# Reading command lines

An argument that starts with a minus sign is an option, unless it is a negative number, has a blank
in it or comes after two minus signs alone. An option may be shortened as long as no other option
starts alike. Options are read wherever they stand; the other arguments fill the positional
arguments in order, and a command takes everything after it. What nothing takes is left over.
-/

namespace AccountSidecar.CommandLine

open Text

/-- Why reading a command line ends early. -/
inductive Stop where
  /-- Help was asked for. -/
  | help (text : String)
  /-- The line is refused by the program or a command that takes what the grammar says. -/
  | refused (grammar : Grammar) (message : String)
  deriving DecidableEq, Repr

/-- The value that is written in one argument with an option: after an equals sign or right after
a letter. -/
structure Attached where
  afterEquals : Bool
  value : List Char
  deriving DecidableEq, Repr

/-- An argument that looks like an option: which one it is, if any, in which spelling. -/
structure OptionUse where
  option : Option OptionSpec
  spelling : String
  attached : Option Attached
  deriving DecidableEq, Repr

/-- What an argument looks like. -/
inductive Mark where
  | plain
  | separator
  | option (use : OptionUse)
  deriving DecidableEq, Repr

/-- An argument with what it looks like. -/
abbrev Marked := String × Mark

/-- Whether an argument looks like an option. -/
def isOptionMark (a : Marked) : Bool :=
  match a.2 with
  | .option _ => true
  | _ => false

/-- Whether an argument is two minus signs alone. -/
def isSeparator (a : Marked) : Bool :=
  match a.2 with
  | .separator => true
  | _ => false

/-- Whether the argument is written like a negative number. -/
def isNegativeNumber (s : List Char) : Bool :=
  let isDigit (c : Char) : Bool := (decimalValue? c).isSome
  let s := match s.reverse with
    | '\n' :: rest => rest.reverse
    | _ => s
  match s with
  | '-' :: rest =>
    match rest.dropWhile isDigit with
    | [] => !rest.isEmpty
    | '.' :: fraction => !fraction.isEmpty && fraction.all isDigit
    | _ => false
  | _ => false

/-- The options that a long argument may be short for. -/
def longCandidates (g : Grammar) (s : List Char) : List OptionUse :=
  let (start, attached) : List Char × Option Attached :=
    match cutFirst '=' s with
    | some (start, value) => (start, some ⟨true, value⟩)
    | none => (s, none)
  (g.spellings.filter fun e => start.isPrefixOf e.1.toList).map fun e => ⟨some e.2, e.1, attached⟩

/-- The options of one letter that an argument may start with. -/
def letterCandidates (g : Grammar) (s : List Char) : List OptionUse :=
  (g.spellings.filter fun e => e.1.toList = s.take 2 || s.isPrefixOf e.1.toList).map fun e =>
    if e.1.toList = s.take 2 then ⟨some e.2, e.1, some ⟨false, s.drop 2⟩⟩
    else ⟨some e.2, e.1, none⟩

/-- The options that an argument may mean. -/
def candidates (g : Grammar) (s : List Char) : List OptionUse :=
  match s with
  | '-' :: '-' :: _ => longCandidates g s
  | _ => letterCandidates g s

/-- The option that an argument spells out, perhaps with a value after an equals sign. -/
def spelledOut? (g : Grammar) (s : String) : Option OptionUse :=
  match g.option? s with
  | some o => some ⟨some o, s, none⟩
  | none =>
    (cutFirst '=' s.toList).bind fun (start, value) =>
      let spelling := String.ofList start
      (g.option? spelling).map fun o => ⟨some o, spelling, some ⟨true, value⟩⟩

/-- What an argument looks like, before any two minus signs alone. -/
def markOf (g : Grammar) (s : String) : Except Stop Mark :=
  match s.toList with
  | '-' :: c :: rest =>
    match spelledOut? g s with
    | some use => .ok (.option use)
    | none =>
      match candidates g ('-' :: c :: rest) with
      | [use] => .ok (.option use)
      | [] =>
        if isNegativeNumber s.toList || s.toList.contains ' ' then .ok .plain
        else .ok (.option ⟨none, s, none⟩)
      | uses =>
        .error (.refused g ("ambiguous option: " ++ s ++ " could match " ++
          joinWith ", " (uses.map (·.spelling))))
  | _ => .ok .plain

/-- The arguments with what they look like. -/
def markAll (g : Grammar) : List String → Except Stop (List Marked)
  | [] => .ok []
  | s :: rest =>
    if s = "--" then .ok ((s, .separator) :: rest.map fun s => (s, .plain))
    else
      match markOf g s with
      | .error e => .error e
      | .ok mark => (markAll g rest).map ((s, mark) :: ·)

/-- What has been read from a command line. -/
structure Reading where
  values : Keyed String := []
  /-- The options that are on. -/
  flags : List String := []
  /-- The command and the arguments that it takes. -/
  command : Option (String × List String) := none
  /-- What nothing takes. -/
  extras : List String := []
  /-- The positional arguments that are still to be filled. -/
  missing : List Positional
  deriving DecidableEq, Repr

/-- Splits off the arguments that fill one positional argument: the next plain one, with a separator
before or after it. -/
def takePlain? (args : List Marked) : Option (List String × List Marked) :=
  let (before, rest) := args.span isSeparator
  match rest with
  | (s, .plain) :: rest =>
    let (after, rest) := rest.span isSeparator
    some (before.map (·.1) ++ s :: after.map (·.1), rest)
  | _ => none

/-- The value among the arguments that fill a positional argument: the one beside the first two
minus signs alone. -/
def positionalValue (taken : List String) : String := (taken.erase "--").headD ""

/-- Fills positional arguments as far as plain arguments follow one another. -/
def fillPositionals (values : Keyed String) :
    List Positional → List Marked → Keyed String × List Positional × List Marked
  | [], args => (values, [], args)
  | p :: rest, args =>
    match takePlain? args with
    | some (taken, args) => fillPositionals (values.put p.key (positionalValue taken)) rest args
    | none => (values, p :: rest, args)

/-- Takes the command with all that follows it, if a plain argument is next. -/
def takeCommand (g : Grammar) (r : Reading) (args : List Marked) :
    Except Stop (Reading × List Marked) :=
  match takePlain? args with
  | none => .ok (r, args)
  | some _ =>
    match args.map (·.1) with
    | [] => .ok (r, args)
    | name :: rest =>
      if (g.commands.find? fun c => c.1 = name).isSome then
        .ok ({ r with command := some (name, rest) }, [])
      else
        .error (.refused g ("argument " ++ commandKey ++ ": invalid choice: " ++
          quoted name ++ " (choose from " ++ joinWith ", " (g.commands.map fun c => quoted c.1) ++
          ")"))

/-- Gives arguments to what is still to be filled. -/
def takePositionals (g : Grammar) (r : Reading) (args : List Marked) :
    Except Stop (Reading × List Marked) :=
  let (values, missing, args) := fillPositionals r.values r.missing args
  let r := { r with values, missing }
  if g.commands.isEmpty || r.command.isSome then .ok (r, args) else takeCommand g r args

/-- An option that has been read, with its value. -/
abbrev Setting := OptionSpec × Option String

/-- The refusal of an option. -/
def refuseOption {α : Type} (g : Grammar) (o : OptionSpec) (message : String) : Except Stop α :=
  .error (.refused g ("argument " ++ o.label ++ ": " ++ message))

/-- Whether an option is spelled with one letter. -/
def isLetter (spelling : String) : Bool :=
  match spelling.toList with
  | _ :: c :: _ => c != '-'
  | _ => false

/-- What is attached to a letter: the rest of a run of letters, or a value. -/
def attachedTo (s : List Char) : Option Attached :=
  match s with
  | [] => none
  | '=' :: value => some ⟨true, value⟩
  | value => some ⟨false, value⟩

/-- Reads an option and those in the same argument: the options with their values, what is left over
of the argument, and the arguments after it. The fuel bounds the letters. -/
def readUse (g : Grammar) : Nat → OptionSpec → String → Option Attached → List Marked →
    Except Stop (List Setting × List String × List Marked)
  | 0, _, _, _, rest => .ok ([], [], rest)
  | fuel + 1, o, spelling, attached, rest =>
    match o.kind, attached with
    | .value _, some a => .ok ([(o, some (String.ofList a.value))], [], rest)
    | .value _, none =>
      match rest with
      | (s, .plain) :: rest => .ok ([(o, some s)], [], rest)
      | _ => refuseOption g o "expected one argument"
    | _, none => .ok ([(o, none)], [], rest)
    | _, some a =>
      let ignored := "ignored explicit argument " ++ quoted (String.ofList a.value)
      match a.value with
      | [] => refuseOption g o ignored
      | c :: tail =>
        if !isLetter spelling || a.afterEquals || c = '-' then refuseOption g o ignored
        else
          let next := String.ofList ['-', c]
          match g.option? next with
          | none => .ok ([(o, none)], [String.ofList ('-' :: c :: tail)], rest)
          | some other =>
            match readUse g fuel other next (attachedTo tail) rest with
            | .error e => .error e
            | .ok (settings, extras, rest) => .ok ((o, none) :: settings, extras, rest)

/-- Takes options into what has been read. Help ends the reading at once. -/
def applySettings (g : Grammar) (r : Reading) : List Setting → Except Stop Reading
  | [] => .ok r
  | (o, value) :: rest =>
    match o.kind with
    | .help => .error (.help g.help)
    | .flag => applySettings g { r with flags := r.flags ++ [o.key] } rest
    | .value _ => applySettings g { r with values := r.values.put o.key (value.getD "") } rest

/-- Takes the option at the front of the arguments. -/
def takeOption (g : Grammar) (r : Reading) (s : String) (use : OptionUse) (rest : List Marked) :
    Except Stop (Reading × List Marked) :=
  match use.option with
  | none => .ok ({ r with extras := r.extras ++ [s] }, rest)
  | some o =>
    match readUse g (s.length + 1) o use.spelling use.attached rest with
    | .error e => .error e
    | .ok (settings, extras, rest) =>
      (applySettings g { r with extras := r.extras ++ extras } settings).map (·, rest)

/-- Reads marked arguments. The fuel bounds the steps, of which each takes an argument or brings an
option to the front. -/
def readMarked (g : Grammar) : Nat → Reading → List Marked → Except Stop Reading
  | 0, r, _ => .ok r
  | fuel + 1, r, args =>
    match args with
    | (s, .option use) :: rest =>
      match takeOption g r s use rest with
      | .error e => .error e
      | .ok (r, rest) => readMarked g fuel r rest
    | args =>
      match takePositionals g r args with
      | .error e => .error e
      | .ok (r, rest) =>
        if rest.length < args.length && rest.any isOptionMark then readMarked g fuel r rest
        else
          let (skipped, rest) := rest.span fun a => !isOptionMark a
          let r := { r with extras := r.extras ++ skipped.map (·.1) }
          if rest.isEmpty then .ok r else readMarked g fuel r rest

/-- Reads the arguments of a program or a command. Every positional argument must be filled. -/
def Grammar.read (g : Grammar) (args : List String) : Except Stop Reading :=
  match markAll g args with
  | .error e => .error e
  | .ok marked =>
    match readMarked g (2 * marked.length + 2) { missing := g.positionals } marked with
    | .error e => .error e
    | .ok r =>
      if r.missing.isEmpty then .ok r
      else
        .error (.refused g ("the following arguments are required: " ++
          joinWith ", " (r.missing.map (·.key))))

end AccountSidecar.CommandLine
