import AccountSidecar.Template.Expression.Reader
import AccountSidecar.Template.Fragment
import AccountSidecar.Template.Segment
import AccountSidecar.Template.Syntax
import AccountSidecar.Text.Split

/-!
# Reading templates

From the text of a template to its statements. A statement tag that opens a body is followed by the
segments of that body up to the tag that ends it.
-/

namespace AccountSidecar.Template

mutual

/-- The target that an expression stands for, if a value can be assigned to it. -/
def targetOf? : Expression → Option Target
  | .name s => some (.name s)
  | .tuple items => (targetsOf? items).map Target.tuple
  | _ => none

/-- The targets that expressions stand for. -/
def targetsOf? : List Expression → Option (List Target)
  | [] => some []
  | e :: rest => (targetOf? e).bind fun t => (targetsOf? rest).map (t :: ·)

end

/-- Reads a target up to a word or the end of the tag. -/
def readTarget? (stop : Option String) (tokens : List Token) : Option (Target × List Token) :=
  (readTuple (fuelFor tokens) .simple stop false tokens).bind fun (e, rest) =>
    (targetOf? e).map (·, rest)

/-- Reads the whole content of an output tag. -/
def readOutput? (tokens : List Token) : Option Expression :=
  (readTuple (fuelFor tokens) .any none false tokens).bind fun (e, rest) =>
    if rest.isEmpty then some e else none

/-- Whether a tag ends where its head does; a colon may stand there. -/
def endsHead : List Token → Bool
  | [] => true
  | [t] => t == .symbol ":"
  | _ => false

/-- Reads the condition of a branch, which is all that its tag holds. -/
def readBranchHead? (tokens : List Token) : Option Expression :=
  (readTuple (fuelFor tokens) .unconditional none false tokens).bind fun (e, rest) =>
    if endsHead rest then some e else none

/-- The head of a loop: its target, its items and the condition on them. -/
structure LoopHead where
  target : Target
  items : Expression
  condition : Expression

/-- Reads the condition of a loop, if there is one, and the word that lets the loop call itself. -/
def readLoopCondition? (tokens : List Token) : Option Expression :=
  let found : Option (Expression × List Token) :=
    match tokens with
    | .name "if" :: rest => readConditional (fuelFor rest) rest
    | tokens => some (.bool true, tokens)
  found.bind fun (e, rest) =>
    match rest with
    | .name "recursive" :: rest => if endsHead rest then some e else none
    | rest => if endsHead rest then some e else none

/-- Reads what a loop tag holds after its first word. -/
def readLoopHead? (tokens : List Token) : Option LoopHead :=
  (readTarget? (some "in") tokens).bind fun (target, rest) =>
    match rest with
    | .name "in" :: rest =>
      (readTuple (fuelFor rest) .unconditional (some "recursive") false rest).bind
        fun (items, rest) => (readLoopCondition? rest).map fun c => ⟨target, items, c⟩
    | _ => none

/-- What an assignment tag holds: a target and its value, or a target and the filters for the text
of a body. -/
inductive AssignmentHead where
  | value (target : Target) (e : Expression)
  | body (target : Target) (e : Expression)

/-- Reads what an assignment tag holds after its first word. -/
def readAssignment? (tokens : List Token) : Option AssignmentHead :=
  (readTarget? none tokens).bind fun (target, rest) =>
    match rest with
    | .symbol "=" :: rest => (readOutput? rest).map (.value target ·)
    | rest =>
      (readPipes (fuelFor rest) (.name capturedName) rest).bind fun (e, rest) =>
        if endsHead rest then some (.body target e) else none

/-- The tag that ends a body: its first word and the tokens after it. -/
abbrev Ending := String × List Token

mutual

/-- Reads statements up to a tag with one of the ending words, or up to the end of the template if
there are none: the statements, the tag and the segments after it. The fuel bounds the segments. -/
def readStatements? : Nat → List String → List Segment →
    Option (List Statement × Option Ending × List Segment)
  | 0, _, _ => none
  | fuel + 1, endings, segments =>
    match segments with
    | [] => if endings.isEmpty then some ([], none, []) else none
    | .text s :: rest =>
      (readStatements? fuel endings rest).map fun (more, ending, rest) =>
        (.text (String.ofList s) :: more, ending, rest)
    | .output tokens :: rest =>
      (readOutput? tokens).bind fun e =>
        (readStatements? fuel endings rest).map fun (more, ending, rest) =>
          (.output e :: more, ending, rest)
    | .statement (.name word :: tokens) :: rest =>
      if endings.contains word then some ([], some (word, tokens), rest)
      else
        (readStatement? fuel word tokens rest).bind fun (statement, rest) =>
          (readStatements? fuel endings rest).map fun (more, ending, rest) =>
            (statement :: more, ending, rest)
    | .statement _ :: _ => none

/-- Reads a statement after the first word of its tag. -/
def readStatement? : Nat → String → List Token → List Segment →
    Option (Statement × List Segment)
  | 0, _, _, _ => none
  | fuel + 1, word, tokens, segments =>
    if word = "if" then readBranch? fuel tokens segments
    else if word = "for" then
      (readLoopHead? tokens).bind fun head =>
        (readStatements? fuel ["endfor", "else"] segments).bind fun (body, ending, rest) =>
          (readOtherwise? fuel "endfor" ending rest).map fun (otherwise, rest) =>
            (.loop head.target head.items head.condition body otherwise, rest)
    else if word = "set" then
      (readAssignment? tokens).bind fun head =>
        match head with
        | .value target e => some (.assign target e, segments)
        | .body target e =>
          (readStatements? fuel ["endset"] segments).bind fun (body, ending, rest) =>
            match ending with
            | some (_, []) => some (.capture target e body, rest)
            | _ => none
    else none

/-- Reads a branch after the word of its tag, with all that follows it up to the end of the
branch. -/
def readBranch? : Nat → List Token → List Segment → Option (Statement × List Segment)
  | 0, _, _ => none
  | fuel + 1, tokens, segments =>
    (readBranchHead? tokens).bind fun test =>
      (readStatements? fuel ["elif", "else", "endif"] segments).bind fun (body, ending, rest) =>
        match ending with
        | some ("elif", tokens) =>
          (readBranch? fuel tokens rest).map fun (next, rest) => (.branch test body [next], rest)
        | ending =>
          (readOtherwise? fuel "endif" ending rest).map fun (otherwise, rest) =>
            (.branch test body otherwise, rest)

/-- Reads the body after an `else` tag, or nothing after the tag that ends the statement. -/
def readOtherwise? : Nat → String → Option Ending → List Segment →
    Option (List Statement × List Segment)
  | 0, _, _, _ => none
  | fuel + 1, last, ending, segments =>
    match ending with
    | some ("else", tokens) =>
      if endsHead tokens then
        (readStatements? fuel [last] segments).bind fun (body, ending, rest) =>
          match ending with
          | some (_, []) => some (body, rest)
          | _ => none
      else none
    | some (_, []) => some ([], segments)
    | _ => none

end

/-- The statements of segments. -/
def statementsOf? (segments : List Segment) : Option (List Statement) :=
  (readStatements? (4 * (segments.length + 1)) [] segments).map (·.1)

/-- The tokens of a segment, if it is a tag. -/
def Segment.tokens : Segment → List Token
  | .text _ => []
  | .output tokens | .statement tokens => tokens

/-- Whether a segment is the tag of a statement outside the fragment, or of one with parts outside
it. -/
def Segment.isForeign : Segment → Bool
  | .statement (.name word :: tokens) =>
    foreignTags.contains word || hasStarArgument tokens || (word == "set" && assignsPart tokens)
  | s => hasStarArgument s.tokens

/-- Whether a segment is the tag of a loop that may be called again inside. -/
def Segment.isRecursive : Segment → Bool
  | .statement (.name word :: tokens) => word == "for" && tokens.contains (.name "recursive")
  | _ => false

/-- Whether segments need more of the template language than is read here. -/
def areForeign (segments : List Segment) : Bool :=
  segments.any Segment.isForeign ||
    (segments.any Segment.isRecursive && segments.any fun s => callsLoop s.tokens)

/-- Reads a template. -/
def read (source : List Char) : Except ReadError (List Statement) :=
  match segments (Text.unifyNewlines source) with
  | .error e => .error e
  | .ok found =>
    if areForeign found then .error .unsupported
    else
      match statementsOf? found with
      | some statements => .ok statements
      | none => .error .malformed

end AccountSidecar.Template
