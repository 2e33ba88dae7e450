import AccountSidecar.Number.Binary64

/-!
# The syntax of a template

The expressions that may stand inside the tags of a template, as trees, and a template as a tree of
statements: literal text, output, branches, loops and assignments.
-/

namespace AccountSidecar.Template

open Number (Binary64)

/-- An operator before its operand. -/
inductive SignOperator where
  | negative
  | positive
  deriving DecidableEq, Repr

/-- An operator of arithmetic between two operands. -/
inductive ArithmeticOperator where
  | plus
  | minus
  | times
  | divide
  | floorDivide
  | remainder
  | power
  deriving DecidableEq, Repr

/-- A comparison between two operands. -/
inductive Comparison where
  | equal
  | unequal
  | less
  | lessOrEqual
  | greater
  | greaterOrEqual
  | isIn
  | isNotIn
  deriving DecidableEq, Repr

/-- An expression. An argument list holds the arguments without a name first; `names` are the names
of the ones after them. -/
inductive Expression where
  | missing
  | nothing
  | bool (b : Bool)
  | integer (n : Nat)
  | float (x : Binary64)
  | text (s : String)
  | name (s : String)
  | list (items : List Expression)
  | tuple (items : List Expression)
  | table (entries : List (Expression × Expression))
  | sign (op : SignOperator) (e : Expression)
  | arithmetic (op : ArithmeticOperator) (left right : Expression)
  | joined (items : List Expression)
  | negation (e : Expression)
  | both (left right : Expression)
  | either (left right : Expression)
  | compare (first : Expression) (rest : List (Comparison × Expression))
  | choice (test yes no : Expression)
  | field (e : Expression) (key : String)
  | item (e index : Expression)
  | slice (e start stop step : Expression)
  | call (callee : Expression) (args : List Expression) (names : List String)
  | filter (key : String) (e : Expression) (args : List Expression) (names : List String)
  | check (key : String) (e : Expression) (args : List Expression) (names : List String)
  deriving Repr, Inhabited

/-- What a value is assigned to: a name, or several targets that share the items of the value. -/
inductive Target where
  | name (s : String)
  | tuple (items : List Target)
  deriving Repr

/-- A statement. -/
inductive Statement where
  | text (s : String)
  | output (e : Expression)
  | branch (test : Expression) (body otherwise : List Statement)
  | loop (target : Target) (items : Expression) (condition : Expression)
      (body otherwise : List Statement)
  | assign (target : Target) (value : Expression)
  | capture (target : Target) (value : Expression) (body : List Statement)
  deriving Repr

/-- The name under which the value of a capture finds the captured text; no template can write
it. -/
def capturedName : String := ""

end AccountSidecar.Template
