import AccountSidecar.Template.Evaluation
import AccountSidecar.Template.Placeholder
import AccountSidecar.Template.Statement.Reader

/-!
# Rendering

From a template and the values of its names to its output. A value that is put into the output is
not read as a template again.
-/

namespace AccountSidecar.Template

mutual

/-- Whether every filter and test of an expression is known. A name inside an inline condition is
looked up only when it is needed. -/
def isKnown (lenient : Bool) : Expression → Bool
  | .list items | .tuple items | .joined items => areKnown lenient items
  | .table entries => entriesKnown lenient entries
  | .sign _ e | .negation e | .field e _ => isKnown lenient e
  | .arithmetic _ left right | .both left right | .either left right | .item left right =>
    isKnown lenient left && isKnown lenient right
  | .compare first rest => isKnown lenient first && operandsKnown lenient rest
  | .choice test yes no => isKnown true test && isKnown true yes && isKnown true no
  | .slice e start stop step =>
    isKnown lenient e && isKnown lenient start && isKnown lenient stop && isKnown lenient step
  | .call callee args _ => isKnown lenient callee && areKnown lenient args
  | .filter key e args _ =>
    (lenient || Filter.isName key) && isKnown lenient e && areKnown lenient args
  | .check key e args _ =>
    (lenient || Test.isName key) && isKnown lenient e && areKnown lenient args
  | _ => true

/-- Whether every filter and test of expressions is known. -/
def areKnown (lenient : Bool) : List Expression → Bool
  | [] => true
  | e :: rest => isKnown lenient e && areKnown lenient rest

/-- Whether every filter and test of keys and values is known. -/
def entriesKnown (lenient : Bool) : List (Expression × Expression) → Bool
  | [] => true
  | (k, v) :: rest => isKnown lenient k && isKnown lenient v && entriesKnown lenient rest

/-- Whether every filter and test of operands is known. -/
def operandsKnown (lenient : Bool) : List (Comparison × Expression) → Bool
  | [] => true
  | (_, e) :: rest => isKnown lenient e && operandsKnown lenient rest

end

mutual

/-- Whether every filter and test of a statement is known. A name inside a branch is looked up only
when it is needed; the body of a loop or a capture is strict again. -/
def Statement.isKnown (lenient : Bool) : Statement → Bool
  | .text _ => true
  | .output e | .assign _ e => Template.isKnown lenient e
  | .branch test body otherwise =>
    Template.isKnown true test && statementsKnown true body && statementsKnown true otherwise
  | .loop _ items condition body otherwise =>
    Template.isKnown lenient items && Template.isKnown false condition &&
      statementsKnown false body && statementsKnown false otherwise
  | .capture _ e body => Template.isKnown false e && statementsKnown false body

/-- Whether every filter and test of statements is known. -/
def statementsKnown (lenient : Bool) : List Statement → Bool
  | [] => true
  | s :: rest => Statement.isKnown lenient s && statementsKnown lenient rest

end

mutual

/-- Assigns a value to a target. -/
def assign (scope : Scope) : Target → Datum → Except Fault Scope
  | .name key, d => .ok (scope.put key d)
  | .tuple targets, d =>
    match d.unpack targets.length with
    | .error f => .error f
    | .ok items => assignAll scope targets items

/-- Assigns values to targets one by one. -/
def assignAll (scope : Scope) : List Target → List Datum → Except Fault Scope
  | t :: targets, d :: items =>
    match assign scope t d with
    | .error f => .error f
    | .ok scope => assignAll scope targets items
  | _, _ => .ok scope

end

/-- The items for which the condition of a loop holds. -/
def selectItems (scope : Scope) (target : Target) (condition : Expression) :
    List Datum → Except Fault (List Datum)
  | [] => .ok []
  | d :: rest =>
    match assign scope target d with
    | .error f => .error f
    | .ok inner =>
      match evaluate inner condition with
      | .error f => .error f
      | .ok answer =>
        (selectItems scope target condition rest).map fun more =>
          if answer.isTrue then d :: more else more

/-- The name under which the body of a loop finds the state of the loop. -/
def loopName : String := "loop"

/-- The scope of the body of a loop at one of its items. -/
def loopScope (scope : Scope) (target : Target) (items : List Datum) (position : Nat) (d : Datum) :
    Except Fault Scope :=
  assign (scope.put loopName (.cursor items position)) target d

mutual

/-- The output of a statement, and the values of names after it. A loop and a capture have scopes of
their own. -/
def renderStatement (scope : Scope) : Statement → Except Fault (String × Scope)
  | .text s => .ok (s, scope)
  | .output e =>
    match evaluate scope e with
    | .error f => .error f
    | .ok d => d.print.map (·, scope)
  | .branch test body otherwise =>
    match evaluate scope test with
    | .error f => .error f
    | .ok d => if d.isTrue then renderAll scope body else renderAll scope otherwise
  | .loop target items condition body otherwise =>
    match evaluate scope items with
    | .error f => .error f
    | .ok d =>
      match d.items.bind (selectItems scope target condition) with
      | .error f => .error f
      | .ok [] => (renderAll scope otherwise).map fun r => (r.1, scope)
      | .ok kept =>
        (kept.zipIdx.foldlM (fun (output : String) (item : Datum × Nat) =>
          (loopScope scope target kept item.2 item.1).bind fun inner =>
            (renderAll inner body).map fun r => output ++ r.1) "").map (·, scope)
  | .assign target e =>
    match evaluate scope e with
    | .error f => .error f
    | .ok d => (assign scope target d).map ("", ·)
  | .capture target e body =>
    match renderAll scope body with
    | .error f => .error f
    | .ok (output, inner) =>
      match evaluate (inner.put capturedName (.text output)) e with
      | .error f => .error f
      | .ok d => (assign scope target d).map ("", ·)

/-- The output of statements one after another, and the values of names after them. -/
def renderAll (scope : Scope) : List Statement → Except Fault (String × Scope)
  | [] => .ok ("", scope)
  | s :: rest =>
    match renderStatement scope s with
    | .error f => .error f
    | .ok (output, scope) =>
      match renderAll scope rest with
      | .error f => .error f
      | .ok (more, scope) => .ok (output ++ more, scope)

end

/-- The fault of a template that cannot be read. -/
def ReadError.fault : ReadError → Fault
  | .malformed => .syntaxFault
  | .numberTooLong => .tooLongLiteral
  | .unsupported => .unsupported "template"

/-- The statements of a template in which every filter and test is known. -/
def prepare (source : List Char) : Except Fault (List Statement) :=
  match read source with
  | .error e => .error e.fault
  | .ok statements =>
    if statementsKnown false statements then .ok statements else .error .unknownName

/-- The output of a template with texts for its names. No text may be given for the name of the
template itself. -/
def outputOf (source : List Char) (data : Keyed String) : Except Fault String :=
  match prepare source with
  | .error f => .error f
  | .ok statements =>
    if (Keyed.find? itselfName data).isSome then
      .error (.wrongType "Template.render() got multiple values for argument 'self'")
    else (renderAll (Keyed.mapValues Datum.text data) statements).map (·.1)

/-- The output of a template whose placeholders may be dotted. -/
def render (source : String) (data : Keyed String) : Except Fault String :=
  outputOf (undotted source.toList) data

end AccountSidecar.Template
