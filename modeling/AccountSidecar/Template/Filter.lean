import AccountSidecar.Keyed
import AccountSidecar.Number.Radix
import AccountSidecar.Number.Rounded
import AccountSidecar.Template.Datum.Access
import AccountSidecar.Text.Percent

/-!
# Filters and tests

The functions that a template applies to a value after a bar, and the questions that it asks about
a value after `is`.
-/

namespace AccountSidecar.Template

open Text

/-- A filter. -/
inductive Filter where
  | upper
  | lower
  | capitalize
  | trim
  | fallback
  | length
  | replace
  | urlEncode
  | escape
  | join
  | first
  | last
  | reverse
  | integer
  deriving DecidableEq, Repr

/-- A test. -/
inductive Test where
  | defined
  | undefined
  deriving DecidableEq, Repr

/-- A parameter and the value that it has where no argument is given. -/
abbrev Parameter := String × Option Datum

/-- Gives each parameter its value: from the arguments in order, then from those with its name, then
its own. -/
def bindArguments : List Parameter → List Datum → Keyed Datum → Except Fault (List Datum)
  | [], [], [] => .ok []
  | [], [], (key, _) :: _ =>
    .error (.wrongType ("got an unexpected keyword argument '" ++ key ++ "'"))
  | [], _ :: _, _ => .error (.wrongType "takes fewer positional arguments than were given")
  | _ :: rest, d :: args, named => (bindArguments rest args named).map (d :: ·)
  | (key, given) :: rest, [], named =>
    match Keyed.find? key named, given with
    | some d, _ => (bindArguments rest [] (Keyed.erase key named)).map (d :: ·)
    | none, some d => (bindArguments rest [] named).map (d :: ·)
    | none, none => .error (.wrongType ("missing a required argument: '" ++ key ++ "'"))

/-- Gives parameters their values from arguments of which the last ones have names. -/
def bindNamed (parameters : List Parameter) (args : List Datum) (names : List String) :
    Except Fault (List Datum) :=
  let count := args.length - names.length
  bindArguments parameters (args.take count) (names.zip (args.drop count))

namespace Datum

/-- The value as text, which stays escaped if it is. -/
def toText (d : Datum) : Except Fault Datum :=
  match d with
  | .text _ | .escaped _ => .ok d
  | d => d.print.map Datum.text

/-- The number of items or characters. -/
def count (d : Datum) : Except Fault Nat :=
  match d with
  | .undefined => .ok 0
  | .text s | .escaped s => .ok s.length
  | .list items | .tuple items | .cursor items _ => .ok items.length
  | .table entries => .ok entries.length
  | d => .error (.wrongType ("object of type '" ++ d.typeName ++ "' has no len()"))

/-- Replaces a part of a text by another, everywhere or at the first places. -/
def replaced (d old new limit : Datum) : Except Fault Datum := do
  let s ← d.print
  let pattern ← old.print
  let value ← new.print
  let change (f : List Char → List Char → List Char → List Char) : Datum :=
    .text (String.ofList (f pattern.toList value.toList s.toList))
  match limit with
  | .nothing => return change replaceAll
  | limit =>
    match limit.integer? with
    | some n => return change (if n < 0 then replaceAll else replaceUpTo n.toNat)
    | none =>
      throw (.wrongType ("'" ++ limit.typeName ++ "' object cannot be interpreted as an integer"))

/-- The last of the items that a value gives from its end. -/
def lastItem (d : Datum) : Except Fault Datum :=
  match d with
  | .undefined | .text _ | .escaped _ | .list _ | .tuple _ | .table _ =>
    d.items.map fun items => items.getLast?.getD .undefined
  | d => .error (.wrongType ("'" ++ d.typeName ++ "' object is not reversible"))

/-- The value read from its end. -/
def reversed (d : Datum) : Except Fault Datum :=
  match d with
  | .text s => .ok (.text (String.ofList s.toList.reverse))
  | .escaped s => .ok (.escaped (String.ofList s.toList.reverse))
  | .backwards items => .ok (.list items.reverse)
  | d =>
    match d.items with
    | .ok items => .ok (.backwards items.reverse)
    | .error _ => .error .badArgument

/-- The texts of the items with a separator between them. -/
def joinedWith (d separator : Datum) : Except Fault Datum := do
  let s ← separator.print
  let items ← d.items
  let texts ← items.mapM Datum.print
  return .text (joinWith s texts)

/-- The text of a value inside a query. -/
def queryPart (d : Datum) : Except Fault String :=
  d.print.map fun s => replaceText "%20" "+" (percentEncode [] s)

/-- One entry of a query. -/
def queryEntry (d : Datum) : Except Fault String := do
  match ← d.unpack 2 with
  | [key, value] => return (← key.queryPart) ++ "=" ++ (← value.queryPart)
  | _ => throw .badArgument

/-- The value written for an address: a text with its reserved characters encoded, pairs as a
query. -/
def urlEncoded (d : Datum) : Except Fault Datum :=
  match d with
  | .table entries =>
    (entries.mapM fun e => queryEntry (.tuple [e.1, e.2])).map fun parts =>
      .text (joinWith "&" parts)
  | .undefined | .list _ | .tuple _ | .backwards _ => do
    let items ← d.items
    let parts ← items.mapM queryEntry
    return .text (joinWith "&" parts)
  | d => d.print.map fun s => .text (percentEncode ['/'] s)

/-- The integer that a text gives in a base, or else its whole part as a rounded number. -/
def integerOfText? (s : String) (base : Datum) : Option Int :=
  let exact := base.integer?.bind fun b => if b < 0 then none else Number.integerIn? b.toNat s
  exact.or ((Number.rounded? s).bind (·.truncate?))

/-- The integer that a value gives, or the fallback. The base counts for texts alone. -/
def toInteger (d fallback base : Datum) : Except Fault Datum :=
  match d with
  | .undefined => .error .undefinedValue
  | .float (.infinite _) => .error (.overflow "cannot convert float infinity to integer")
  | .float x => .ok ((x.truncate?.map Datum.integer).getD fallback)
  | d =>
    let n := d.integer?.or (d.text?.bind (integerOfText? · base))
    .ok ((n.map Datum.integer).getD fallback)

end Datum

namespace Filter

/-- The filter with a name. -/
def named? (key : String) : Option Filter :=
  if key = "upper" then some .upper
  else if key = "lower" then some .lower
  else if key = "capitalize" then some .capitalize
  else if key = "trim" then some .trim
  else if key = "default" || key = "d" then some .fallback
  else if key = "length" || key = "count" then some .length
  else if key = "replace" then some .replace
  else if key = "urlencode" then some .urlEncode
  else if key = "escape" || key = "e" then some .escape
  else if key = "join" then some .join
  else if key = "first" then some .first
  else if key = "last" then some .last
  else if key = "reverse" then some .reverse
  else if key = "int" then some .integer
  else none

/-- Whether a filter has the name, in the fragment or outside it. -/
def isName (key : String) : Bool := (named? key).isSome || foreignFilters.contains key

/-- What a filter takes besides its value. -/
def parameters : Filter → List Parameter
  | .trim => [("chars", some .nothing)]
  | .fallback => [("default_value", some (.text "")), ("boolean", some (.bool false))]
  | .replace => [("old", none), ("new", none), ("count", some .nothing)]
  | .join => [("d", some (.text ""))]
  | .integer => [("default", some (.integer 0)), ("base", some (.integer 10))]
  | _ => []

/-- Applies a filter to a value, given what it takes besides. -/
def apply (filter : Filter) (d : Datum) (args : List Datum) : Except Fault Datum :=
  match filter, args with
  | .upper, _ => d.toText.map (Datum.mapText Text.upper)
  | .lower, _ => d.toText.map (Datum.mapText Text.lower)
  | .capitalize, _ => d.toText.map (Datum.mapText Text.capitalize)
  | .trim, [chars] => d.toText.bind (Datum.stripped · chars)
  | .fallback, [value, whenFalse] =>
    match d with
    | .undefined => .ok value
    | d => .ok (if whenFalse.isTrue && !d.isTrue then value else d)
  | .length, _ => d.count.map fun n => .integer n
  | .replace, [old, new, limit] => d.replaced old new limit
  | .urlEncode, _ => d.urlEncoded
  | .escape, _ => d.escape.map Datum.escaped
  | .join, [separator] => d.joinedWith separator
  | .first, _ => d.items.map fun items => items.head?.getD .undefined
  | .last, _ => d.lastItem
  | .reverse, _ => d.reversed
  | .integer, [otherwise, base] => d.toInteger otherwise base
  | _, _ => .error .badArgument

end Filter

namespace Test

/-- The test with a name. -/
def named? (key : String) : Option Test :=
  if key = "defined" then some .defined
  else if key = "undefined" then some .undefined
  else none

/-- Whether a test has the name, in the fragment or outside it. -/
def isName (key : String) : Bool := (named? key).isSome || foreignTests.contains key

/-- The answer of a test about a value. -/
def holds (test : Test) (d : Datum) : Bool :=
  match test, d with
  | .defined, .undefined => false
  | .defined, _ => true
  | .undefined, .undefined => true
  | .undefined, _ => false

end Test

end AccountSidecar.Template
