import AccountSidecar.Template.Syntax
import AccountSidecar.Template.Token

/-!
# Reading expressions

The grammar of expressions over the tokens of a tag. Every function takes the tokens at which its
part starts and returns the part with the tokens after it, or nothing where the grammar does not
allow the tokens. The end of the tokens is the end of the tag. The fuel bounds the depth of the
recursion, and `fuelFor` gives enough for any list of tokens.
-/

namespace AccountSidecar.Template

/-- What the items of a tuple may be: names and the like, expressions without an inline condition,
or any expressions. -/
inductive TupleItem where
  | simple
  | unconditional
  | any
  deriving DecidableEq, Repr

/-- The levels of the binary operators, from the loosest to the tightest. -/
inductive Level where
  | disjunction
  | conjunction
  | negation
  | comparison
  | addition
  | joining
  | multiplication
  | power
  deriving DecidableEq, Repr

/-- The comparison that tokens start with, and the tokens after it. -/
def comparison? : List Token → Option (Comparison × List Token)
  | .symbol s :: rest =>
    if s = "==" then some (.equal, rest)
    else if s = "!=" then some (.unequal, rest)
    else if s = "<" then some (.less, rest)
    else if s = "<=" then some (.lessOrEqual, rest)
    else if s = ">" then some (.greater, rest)
    else if s = ">=" then some (.greaterOrEqual, rest)
    else none
  | .name "in" :: rest => some (.isIn, rest)
  | .name "not" :: .name "in" :: rest => some (.isNotIn, rest)
  | _ => none

/-- The operator of the level that tokens start with, and the tokens after it. -/
def operator? (level : Level) : List Token → Option (ArithmeticOperator × List Token)
  | .symbol s :: rest =>
    match level with
    | .addition =>
      if s = "+" then some (.plus, rest) else if s = "-" then some (.minus, rest) else none
    | .multiplication =>
      if s = "*" then some (.times, rest)
      else if s = "/" then some (.divide, rest)
      else if s = "//" then some (.floorDivide, rest)
      else if s = "%" then some (.remainder, rest)
      else none
    | .power => if s = "**" then some (.power, rest) else none
    | _ => none
  | _ => none

/-- The strings at the front as one text, and the tokens after them. -/
def adjacentStrings : List Token → String × List Token
  | .string s :: rest =>
    let r := adjacentStrings rest
    (s ++ r.1, r.2)
  | tokens => ("", tokens)

/-- A name with dots in it, after its first part. -/
def dottedName? (first : String) : List Token → Option (String × List Token)
  | .symbol "." :: .name s :: rest => dottedName? (first ++ "." ++ s) rest
  | .symbol "." :: _ => none
  | tokens => some (first, tokens)

/-- Whether a test takes the token as the start of an argument without parentheses. -/
def startsArgument : Token → Bool
  | .name s => s != "else" && s != "or" && s != "and"
  | .string _ | .integer _ | .float _ => true
  | .symbol s => s == "(" || s == "[" || s == "\x7b"

/-- Whether a tuple ends at the tokens. -/
def endsTuple (stop : Option String) : List Token → Bool
  | [] => true
  | .symbol s :: _ => s == ")"
  | .name s :: _ => stop == some s
  | _ => false

mutual

/-- An expression with its inline conditions. -/
def readConditional : Nat → List Token → Option (Expression × List Token)
  | 0, _ => none
  | fuel + 1, tokens =>
    (readLevel fuel .disjunction tokens).bind fun (e, rest) => readConditions fuel e rest

/-- The inline conditions after an expression. -/
def readConditions : Nat → Expression → List Token → Option (Expression × List Token)
  | 0, _, _ => none
  | fuel + 1, e, tokens =>
    match tokens with
    | .name "if" :: rest =>
      (readLevel fuel .disjunction rest).bind fun (test, rest) =>
        match rest with
        | .name "else" :: rest =>
          (readConditional fuel rest).bind fun (no, rest) =>
            readConditions fuel (.choice test e no) rest
        | rest => readConditions fuel (.choice test e .missing) rest
    | rest => some (e, rest)

/-- An expression of a level. -/
def readLevel : Nat → Level → List Token → Option (Expression × List Token)
  | 0, _, _ => none
  | fuel + 1, level, tokens =>
    match level with
    | .disjunction =>
      (readLevel fuel .conjunction tokens).bind fun (e, rest) => readMore fuel .disjunction e rest
    | .conjunction =>
      (readLevel fuel .negation tokens).bind fun (e, rest) => readMore fuel .conjunction e rest
    | .negation =>
      match tokens with
      | .name "not" :: rest =>
        (readLevel fuel .negation rest).map fun (e, rest) => (.negation e, rest)
      | tokens => readLevel fuel .comparison tokens
    | .comparison =>
      (readLevel fuel .addition tokens).bind fun (first, rest) =>
        (readComparisons fuel rest).map fun (more, rest) =>
          (if more.isEmpty then first else .compare first more, rest)
    | .addition =>
      (readLevel fuel .joining tokens).bind fun (e, rest) => readMore fuel .addition e rest
    | .joining =>
      (readLevel fuel .multiplication tokens).bind fun (first, rest) =>
        (readJoined fuel rest).map fun (more, rest) =>
          (if more.isEmpty then first else .joined (first :: more), rest)
    | .multiplication =>
      (readLevel fuel .power tokens).bind fun (e, rest) => readMore fuel .multiplication e rest
    | .power => (readSigned fuel true tokens).bind fun (e, rest) => readMore fuel .power e rest

/-- The further operands of a level after the expression read so far. -/
def readMore : Nat → Level → Expression → List Token → Option (Expression × List Token)
  | 0, _, _, _ => none
  | fuel + 1, level, e, tokens =>
    match level, tokens with
    | .disjunction, .name "or" :: rest =>
      (readLevel fuel .conjunction rest).bind fun (right, rest) =>
        readMore fuel .disjunction (.either e right) rest
    | .conjunction, .name "and" :: rest =>
      (readLevel fuel .negation rest).bind fun (right, rest) =>
        readMore fuel .conjunction (.both e right) rest
    | level, tokens =>
      match operator? level tokens with
      | some (op, rest) =>
        let operand : Option (Expression × List Token) :=
          match level with
          | .addition => readLevel fuel .joining rest
          | .multiplication => readLevel fuel .power rest
          | _ => readSigned fuel true rest
        operand.bind fun (right, rest) => readMore fuel level (.arithmetic op e right) rest
      | none => some (e, tokens)

/-- The comparisons after a first operand. -/
def readComparisons : Nat → List Token → Option (List (Comparison × Expression) × List Token)
  | 0, _ => none
  | fuel + 1, tokens =>
    match comparison? tokens with
    | some (op, rest) =>
      (readLevel fuel .addition rest).bind fun (e, rest) =>
        (readComparisons fuel rest).map fun (more, rest) => ((op, e) :: more, rest)
    | none => some ([], tokens)

/-- The operands after a first one that are joined to it as texts. -/
def readJoined : Nat → List Token → Option (List Expression × List Token)
  | 0, _ => none
  | fuel + 1, tokens =>
    match tokens with
    | .symbol "~" :: rest =>
      (readLevel fuel .multiplication rest).bind fun (e, rest) =>
        (readJoined fuel rest).map fun (more, rest) => (e :: more, rest)
    | tokens => some ([], tokens)

/-- An operand with its signs, its trailers and, if wanted, its filters and tests. -/
def readSigned : Nat → Bool → List Token → Option (Expression × List Token)
  | 0, _, _ => none
  | fuel + 1, filtered, tokens =>
    let operand : Option (Expression × List Token) :=
      match tokens with
      | .symbol "-" :: rest =>
        (readSigned fuel false rest).map fun (e, rest) => (.sign .negative e, rest)
      | .symbol "+" :: rest =>
        (readSigned fuel false rest).map fun (e, rest) => (.sign .positive e, rest)
      | tokens => readPrimary fuel tokens
    operand.bind fun (e, rest) =>
      (readTrailers fuel e rest).bind fun (e, rest) =>
        if filtered then readFilters fuel e rest else some (e, rest)

/-- A literal, a name or an expression in brackets. -/
def readPrimary : Nat → List Token → Option (Expression × List Token)
  | 0, _ => none
  | fuel + 1, tokens =>
    match tokens with
    | .name s :: rest =>
      if s = "true" || s = "True" then some (.bool true, rest)
      else if s = "false" || s = "False" then some (.bool false, rest)
      else if s = "none" || s = "None" then some (.nothing, rest)
      else some (.name s, rest)
    | .string s :: rest =>
      let r := adjacentStrings rest
      some (.text (s ++ r.1), r.2)
    | .integer n :: rest => some (.integer n, rest)
    | .float x :: rest => some (.float x, rest)
    | .symbol "(" :: rest =>
      (readTuple fuel .any none true rest).bind fun (e, rest) =>
        match rest with
        | .symbol ")" :: rest => some (e, rest)
        | _ => none
    | .symbol "[" :: rest => (readList fuel rest).map fun (items, rest) => (.list items, rest)
    | .symbol "\x7b" :: rest =>
      (readEntries fuel rest).map fun (entries, rest) => (.table entries, rest)
    | _ => none

/-- A tuple without its brackets, or a single item. Only between brackets may it be empty. -/
def readTuple : Nat → TupleItem → Option String → Bool → List Token →
    Option (Expression × List Token)
  | 0, _, _, _, _ => none
  | fuel + 1, kind, stop, bracketed, tokens =>
    (readTupleItems fuel kind stop tokens).bind fun (items, hasComma, rest) =>
      match hasComma, items with
      | true, items => some (.tuple items, rest)
      | false, [e] => some (e, rest)
      | false, _ => if bracketed then some (.tuple [], rest) else none

/-- The items of a tuple, and whether a comma stands among them. -/
def readTupleItems : Nat → TupleItem → Option String → List Token →
    Option (List Expression × Bool × List Token)
  | 0, _, _, _ => none
  | fuel + 1, kind, stop, tokens =>
    if endsTuple stop tokens then some ([], false, tokens)
    else
      let item : Option (Expression × List Token) :=
        match kind with
        | .simple => readPrimary fuel tokens
        | .unconditional => readLevel fuel .disjunction tokens
        | .any => readConditional fuel tokens
      item.bind fun (e, rest) =>
        match rest with
        | .symbol "," :: rest =>
          (readTupleItems fuel kind stop rest).map fun (more, _, rest) => (e :: more, true, rest)
        | rest => some ([e], false, rest)

/-- The items of a list after its opening bracket. -/
def readList : Nat → List Token → Option (List Expression × List Token)
  | 0, _ => none
  | fuel + 1, tokens =>
    match tokens with
    | .symbol "]" :: rest => some ([], rest)
    | tokens =>
      (readConditional fuel tokens).bind fun (e, rest) =>
        match rest with
        | .symbol "," :: rest => (readList fuel rest).map fun (more, rest) => (e :: more, rest)
        | .symbol "]" :: rest => some ([e], rest)
        | _ => none

/-- The entries of a table after its opening bracket. -/
def readEntries : Nat → List Token → Option (List (Expression × Expression) × List Token)
  | 0, _ => none
  | fuel + 1, tokens =>
    match tokens with
    | .symbol "\x7d" :: rest => some ([], rest)
    | tokens =>
      (readConditional fuel tokens).bind fun (key, rest) =>
        match rest with
        | .symbol ":" :: rest =>
          (readConditional fuel rest).bind fun (value, rest) =>
            match rest with
            | .symbol "," :: rest =>
              (readEntries fuel rest).map fun (more, rest) => ((key, value) :: more, rest)
            | .symbol "\x7d" :: rest => some ([(key, value)], rest)
            | _ => none
        | _ => none

/-- Fields, items and calls after an operand. -/
def readTrailers : Nat → Expression → List Token → Option (Expression × List Token)
  | 0, _, _ => none
  | fuel + 1, e, tokens =>
    match tokens with
    | .symbol "." :: .name s :: rest => readTrailers fuel (.field e s) rest
    | .symbol "." :: .integer n :: rest => readTrailers fuel (.item e (.integer n)) rest
    | .symbol "." :: _ => none
    | .symbol "[" :: .symbol "]" :: rest => readTrailers fuel (.item e (.tuple [])) rest
    | .symbol "[" :: rest =>
      (readSubscript fuel e rest).bind fun (e, rest) => readTrailers fuel e rest
    | .symbol "(" :: rest =>
      (readArguments fuel false rest).bind fun (args, names, rest) =>
        readTrailers fuel (.call e args names) rest
    | tokens => some (e, tokens)

/-- What stands between the brackets of an item: an index, several indices or a slice. -/
def readSubscript : Nat → Expression → List Token → Option (Expression × List Token)
  | 0, _, _ => none
  | fuel + 1, e, tokens =>
    match tokens with
    | .symbol ":" :: rest => readSliceEnd fuel e .nothing rest
    | tokens =>
      (readConditional fuel tokens).bind fun (index, rest) =>
        match rest with
        | .symbol "]" :: rest => some (.item e index, rest)
        | .symbol "," :: rest =>
          (readIndexes fuel rest).map fun (more, rest) => (.item e (.tuple (index :: more)), rest)
        | .symbol ":" :: rest => readSliceEnd fuel e index rest
        | _ => none

/-- The further indices of an item, up to the closing bracket. -/
def readIndexes : Nat → List Token → Option (List Expression × List Token)
  | 0, _ => none
  | fuel + 1, tokens =>
    (readConditional fuel tokens).bind fun (e, rest) =>
      match rest with
      | .symbol "," :: rest => (readIndexes fuel rest).map fun (more, rest) => (e :: more, rest)
      | .symbol "]" :: rest => some ([e], rest)
      | _ => none

/-- The end and the step of a slice, up to the closing bracket. -/
def readSliceEnd : Nat → Expression → Expression → List Token → Option (Expression × List Token)
  | 0, _, _, _ => none
  | fuel + 1, e, start, tokens =>
    let bound : Option (Expression × List Token) :=
      match tokens with
      | .symbol ":" :: _ | .symbol "]" :: _ => some (.nothing, tokens)
      | tokens => readConditional fuel tokens
    bound.bind fun (stop, rest) =>
      match rest with
      | .symbol "]" :: rest => some (.slice e start stop .nothing, rest)
      | .symbol ":" :: .symbol "]" :: rest => some (.slice e start stop .nothing, rest)
      | .symbol ":" :: rest =>
        (readConditional fuel rest).bind fun (step, rest) =>
          match rest with
          | .symbol "]" :: rest => some (.slice e start stop step, rest)
          | _ => none
      | _ => none

/-- The arguments of a call after its opening bracket: once one has a name, all do. -/
def readArguments : Nat → Bool → List Token →
    Option (List Expression × List String × List Token)
  | 0, _, _ => none
  | fuel + 1, named, tokens =>
    match tokens with
    | .symbol ")" :: rest => some ([], [], rest)
    | .name s :: .symbol "=" :: rest =>
      (readConditional fuel rest).bind fun (e, rest) =>
        (readMoreArguments fuel true rest).map fun (args, names, rest) =>
          (e :: args, s :: names, rest)
    | tokens =>
      if named then none
      else
        (readConditional fuel tokens).bind fun (e, rest) =>
          (readMoreArguments fuel false rest).map fun (args, names, rest) =>
            (e :: args, names, rest)

/-- The arguments after one that has been read. -/
def readMoreArguments : Nat → Bool → List Token →
    Option (List Expression × List String × List Token)
  | 0, _, _ => none
  | fuel + 1, named, tokens =>
    match tokens with
    | .symbol ")" :: rest => some ([], [], rest)
    | .symbol "," :: rest => readArguments fuel named rest
    | _ => none

/-- Filters, tests and calls after an operand. -/
def readFilters : Nat → Expression → List Token → Option (Expression × List Token)
  | 0, _, _ => none
  | fuel + 1, e, tokens =>
    match tokens with
    | .symbol "|" :: _ =>
      (readPipes fuel e tokens).bind fun (e, rest) => readFilters fuel e rest
    | .name "is" :: .name "not" :: rest =>
      (readTest fuel e rest).bind fun (e, rest) => readFilters fuel (.negation e) rest
    | .name "is" :: rest =>
      (readTest fuel e rest).bind fun (e, rest) => readFilters fuel e rest
    | .symbol "(" :: rest =>
      (readArguments fuel false rest).bind fun (args, names, rest) =>
        readFilters fuel (.call e args names) rest
    | tokens => some (e, tokens)

/-- The filters at the front, one after another. -/
def readPipes : Nat → Expression → List Token → Option (Expression × List Token)
  | 0, _, _ => none
  | fuel + 1, e, tokens =>
    match tokens with
    | .symbol "|" :: .name s :: rest =>
      (dottedName? s rest).bind fun (key, rest) =>
        match rest with
        | .symbol "(" :: rest =>
          (readArguments fuel false rest).bind fun (args, names, rest) =>
            readPipes fuel (.filter key e args names) rest
        | rest => readPipes fuel (.filter key e [] []) rest
    | .symbol "|" :: _ => none
    | tokens => some (e, tokens)

/-- A test after its first word. -/
def readTest : Nat → Expression → List Token → Option (Expression × List Token)
  | 0, _, _ => none
  | fuel + 1, e, tokens =>
    match tokens with
    | .name s :: rest =>
      (dottedName? s rest).bind fun (key, rest) =>
        match rest with
        | .symbol "(" :: rest =>
          (readArguments fuel false rest).map fun (args, names, rest) =>
            (.check key e args names, rest)
        | .name "is" :: _ => none
        | t :: more =>
          if startsArgument t then
            (readPrimary fuel (t :: more)).bind fun (arg, rest) =>
              (readTrailers fuel arg rest).map fun (arg, rest) => (.check key e [arg] [], rest)
          else some (.check key e [] [], t :: more)
        | [] => some (.check key e [] [], [])
    | _ => none

end

/-- Fuel enough for reading any expression from the tokens. -/
def fuelFor (tokens : List Token) : Nat := 16 * (tokens.length + 2)

end AccountSidecar.Template
