import AccountSidecar.Template.Filter

/-!
# Evaluation of expressions

The value of an expression where names have values. A name without a value is undefined. The
operands of `and`, `or`, an inline condition and a chain of comparisons are evaluated only as far
as they are needed.
-/

namespace AccountSidecar.Template

/-- The values of names. -/
abbrev Scope := Keyed Datum

/-- The name under which a template finds itself. -/
def itselfName : String := "self"

/-- The value of a name. -/
def Scope.value (scope : Scope) (key : String) : Datum :=
  match Keyed.find? key scope with
  | some d => d
  | none => if key = itselfName then .itself else .undefined

/-- Whether a name without a value is that of a function of every template. -/
def Scope.isGlobal (scope : Scope) (key : String) : Bool :=
  (Keyed.find? key scope).isNone && globalNames.contains key

/-- Applies the filter with a name. -/
def applyFilter (key : String) (d : Datum) (args : List Datum) (names : List String) :
    Except Fault Datum :=
  match Filter.named? key with
  | none => .error (if foreignFilters.contains key then .unsupported key else .unknownAtRun)
  | some filter => (bindNamed filter.parameters args names).bind (filter.apply d)

/-- Asks the test with a name. -/
def applyTest (key : String) (d : Datum) (args : List Datum) (names : List String) :
    Except Fault Bool :=
  match Test.named? key with
  | none => .error (if foreignTests.contains key then .unsupported key else .unknownAtRun)
  | some test => (bindNamed [] args names).map fun _ => test.holds d

mutual

/-- The value of an expression. -/
def evaluate (scope : Scope) : Expression → Except Fault Datum
  | .missing => .ok .undefined
  | .nothing => .ok .nothing
  | .bool b => .ok (.bool b)
  | .integer n => .ok (.integer n)
  | .float x => .ok (.float x)
  | .text s => .ok (.text s)
  | .name s => if scope.isGlobal s then .error (.unsupported s) else .ok (scope.value s)
  | .list items => (evaluateAll scope items).map Datum.list
  | .tuple items => (evaluateAll scope items).map Datum.tuple
  | .table entries => (evaluateEntries scope entries []).map Datum.table
  | .sign op e =>
    match evaluate scope e with
    | .error f => .error f
    | .ok d => d.signed op
  | .arithmetic op left right =>
    match evaluate scope left with
    | .error f => .error f
    | .ok a =>
      match evaluate scope right with
      | .error f => .error f
      | .ok b => Datum.arithmetic op a b
  | .joined items =>
    match evaluateAll scope items with
    | .error f => .error f
    | .ok values => (Datum.joined values).map Datum.text
  | .negation e =>
    match evaluate scope e with
    | .error f => .error f
    | .ok d => .ok (.bool !d.isTrue)
  | .both left right =>
    match evaluate scope left with
    | .error f => .error f
    | .ok a => if a.isTrue then evaluate scope right else .ok a
  | .either left right =>
    match evaluate scope left with
    | .error f => .error f
    | .ok a => if a.isTrue then .ok a else evaluate scope right
  | .compare first rest =>
    match evaluate scope first with
    | .error f => .error f
    | .ok d => (evaluateComparisons scope d rest).map Datum.bool
  | .choice test yes no =>
    match evaluate scope test with
    | .error f => .error f
    | .ok d => if d.isTrue then evaluate scope yes else evaluate scope no
  | .field e key =>
    match evaluate scope e with
    | .error f => .error f
    | .ok d => d.field key
  | .item e index =>
    match evaluate scope e with
    | .error f => .error f
    | .ok d =>
      match evaluate scope index with
      | .error f => .error f
      | .ok i => d.item i
  | .slice e start stop step =>
    match evaluate scope e, evaluate scope start, evaluate scope stop, evaluate scope step with
    | .ok d, .ok a, .ok b, .ok c => d.slice a b c
    | .error f, _, _, _ => .error f
    | _, .error f, _, _ => .error f
    | _, _, .error f, _ => .error f
    | _, _, _, .error f => .error f
  | .call callee args names =>
    match evaluate scope callee with
    | .error f => .error f
    | .ok d =>
      match evaluateAll scope args with
      | .error f => .error f
      | .ok values => d.call values names
  | .filter key e args names =>
    match evaluate scope e with
    | .error f => .error f
    | .ok d =>
      match evaluateAll scope args with
      | .error f => .error f
      | .ok values => applyFilter key d values names
  | .check key e args names =>
    match evaluate scope e with
    | .error f => .error f
    | .ok d =>
      match evaluateAll scope args with
      | .error f => .error f
      | .ok values => (applyTest key d values names).map Datum.bool

/-- The values of expressions. -/
def evaluateAll (scope : Scope) : List Expression → Except Fault (List Datum)
  | [] => .ok []
  | e :: rest =>
    match evaluate scope e with
    | .error f => .error f
    | .ok d => (evaluateAll scope rest).map (d :: ·)

/-- The table of entries, after those that have been evaluated. -/
def evaluateEntries (scope : Scope) :
    List (Expression × Expression) → List (Datum × Datum) → Except Fault (List (Datum × Datum))
  | [], done => .ok done
  | (k, v) :: rest, done =>
    match evaluate scope k with
    | .error f => .error f
    | .ok key =>
      match evaluate scope v with
      | .error f => .error f
      | .ok value =>
        if key.isKey then evaluateEntries scope rest (Datum.putEntry key value done)
        else .error (Datum.notAKey key)

/-- Whether a value and those after it each stand in the comparison between them. -/
def evaluateComparisons (scope : Scope) :
    Datum → List (Comparison × Expression) → Except Fault Bool
  | _, [] => .ok true
  | d, (op, e) :: rest =>
    match evaluate scope e with
    | .error f => .error f
    | .ok next =>
      match Datum.compares op d next with
      | .error f => .error f
      | .ok holds => if holds then evaluateComparisons scope next rest else .ok false

end

end AccountSidecar.Template
