import AccountSidecar.Template.Datum.Order
import AccountSidecar.Template.Fragment
import AccountSidecar.Text.Case
import AccountSidecar.Text.Class

/-!
# Parts of values

Items, slices, fields and methods. What a value does not have is undefined; only the undefined
value itself has no parts at all.
-/

namespace AccountSidecar.Template

namespace Datum

/-- The item at an index, counted from the end if the index is negative. -/
def itemAt? {α : Type} (items : List α) (index : Int) : Option α :=
  let place := if index < 0 then index + items.length else index
  if place < 0 then none else items[place.toNat]?

/-- The state of a running loop under a name. -/
def cursorField? (items : List Datum) (position : Nat) (key : String) : Option Datum :=
  let whole (n : Nat) : Datum := .integer n
  let count := items.length
  if key = "index" then some (whole (position + 1))
  else if key = "index0" then some (whole position)
  else if key = "revindex" then some (whole (count - position))
  else if key = "revindex0" then some (whole (count - position - 1))
  else if key = "first" then some (.bool (position == 0))
  else if key = "last" then some (.bool (position + 1 == count))
  else if key = "length" then some (whole count)
  else if key = "depth" then some (whole 1)
  else if key = "depth0" then some (whole 0)
  else if key = "previtem" then
    some (if position = 0 then .undefined else (items[position - 1]?).getD .undefined)
  else if key = "nextitem" then some ((items[position + 1]?).getD .undefined)
  else none

/-- The names of the methods of a text. -/
def textMethods : List String := ["upper", "lower", "capitalize", "strip"]

/-- What a value has under a name of its own. -/
def ownField? (d : Datum) (key : String) : Option Datum :=
  match d with
  | .text _ | .escaped _ => if textMethods.contains key then some (.method d key) else none
  | .cursor items position => cursorField? items position key
  | _ => none

/-- Whether a value has something under a name that is outside the fragment. -/
def isForeignField (d : Datum) (key : String) : Bool :=
  isInnerName key ||
    match d with
    | .text _ => foreignTextMethods.contains key
    | .escaped _ => foreignMarkupMethods.contains key
    | .bool _ | .integer _ => integerFields.contains key
    | .float _ => floatFields.contains key
    | .list _ => listFields.contains key
    | .tuple _ => tupleFields.contains key
    | .table _ => tableFields.contains key
    | .cursor _ _ => foreignLoopFields.contains key
    | .undefined => undefinedFields.contains key
    | .itself => itselfFields.contains key
    | .nothing | .backwards _ | .method _ _ => false

/-- The item of a value under an index, if there is one. -/
def indexed? (d index : Datum) : Option Datum :=
  match d with
  | .text s =>
    index.integer?.bind fun n => (itemAt? s.toList n).map fun c => .text (String.singleton c)
  | .escaped s =>
    index.integer?.bind fun n => (itemAt? s.toList n).map fun c => .escaped (String.singleton c)
  | .list items | .tuple items => index.integer?.bind (itemAt? items)
  | .table entries => if index.isKey then lookUp? index entries else none
  | _ => none

/-- The item of a value under an index; a text may also name a field. -/
def item (d index : Datum) : Except Fault Datum :=
  match d with
  | .undefined => .error .undefinedValue
  | d =>
    match d.indexed? index with
    | some found => .ok found
    | none =>
      match index.text? with
      | none => .ok .undefined
      | some key =>
        if d.isForeignField key then .error (.unsupported key)
        else .ok ((d.ownField? key).getD .undefined)

/-- The field of a value with a name; an item may have that name too. -/
def field (d : Datum) (key : String) : Except Fault Datum :=
  match d with
  | .undefined =>
    .error (if d.isForeignField key then .unsupported key else .undefinedValue)
  | d =>
    match d.ownField? key with
    | some found => .ok found
    | none =>
      if d.isForeignField key then .error (.unsupported key)
      else .ok ((d.indexed? (.text key)).getD .undefined)

/-- A bound of a slice, if one is given. -/
def bound (d : Datum) : Except Fault (Option Int) :=
  match d with
  | .nothing => .ok none
  | d =>
    match d.integer? with
    | some n => .ok (some n)
    | none =>
      .error (.wrongType "slice indices must be integers or None or have an __index__ method")

/-- A bound as a place between the least and the greatest. -/
def place (count least greatest default : Int) (bound : Option Int) : Int :=
  match bound with
  | none => default
  | some n => max least (min greatest (if n < 0 then n + count else n))

/-- The items from one bound up to another, every so many steps. -/
def sliced {α : Type} (items : List α) (start stop : Option Int) (step : Int) : List α :=
  let count : Int := items.length
  let cells := items.toArray
  if 0 < step then
    let first := place count 0 count 0 start
    let last := place count 0 count count stop
    (List.range ((last - first + step - 1) / step).toNat).filterMap fun (i : Nat) =>
      cells[(first + i * step).toNat]?
  else
    let first := place count (-1) (count - 1) (count - 1) start
    let last := place count (-1) (count - 1) (-1) stop
    (List.range ((first - last - step - 1) / (-step)).toNat).filterMap fun (i : Nat) =>
      cells[(first + i * step).toNat]?

/-- The part of a sequence between bounds. -/
def slice (d start stop step : Datum) : Except Fault Datum :=
  let cut {α : Type} (items : List α) : Except Fault (List α) := do
    let step := (← bound step).getD 1
    if step = 0 then throw (.wrongValue "slice step cannot be zero")
    let start ← bound start
    let stop ← bound stop
    return sliced items start stop step
  match d with
  | .undefined => .error .undefinedValue
  | .text s => (cut s.toList).map fun cs => .text (String.ofList cs)
  | .escaped s => (cut s.toList).map fun cs => .escaped (String.ofList cs)
  | .list items => (cut items).map Datum.list
  | .tuple items => (cut items).map Datum.tuple
  | .table _ => .error (.wrongType "unhashable type: 'slice'")
  | d => .error (.wrongType ("'" ++ d.typeName ++ "' object is not subscriptable"))

/-- Changes the characters of a text and leaves it escaped if it is. -/
def mapText (change : String → String) : Datum → Datum
  | .text s => .text (change s)
  | .escaped s => .escaped (change s)
  | d => d

/-- Strips white space, or the characters of a set, from both ends of a text. -/
def stripped (d : Datum) (set : Datum) : Except Fault Datum :=
  match set with
  | .nothing => .ok (d.mapText Text.strip)
  | set =>
    match set.text? with
    | some chars =>
      .ok (d.mapText fun s =>
        String.ofList (Text.trimBoth (fun c => chars.toList.contains c) s.toList))
    | none => .error (.wrongType "strip arg must be None or str")

/-- Calls a method of a text. -/
def callMethod (owner : Datum) (key : String) (args : List Datum) : Except Fault Datum :=
  if key = "strip" then
    match args with
    | [] => stripped owner .nothing
    | [set] => stripped owner set
    | args =>
      .error (.wrongType ("strip expected at most 1 argument, got " ++ toString args.length))
  else if args.isEmpty then
    if key = "upper" then .ok (owner.mapText Text.upper)
    else if key = "lower" then .ok (owner.mapText Text.lower)
    else .ok (owner.mapText Text.capitalize)
  else
    .error (.wrongType ("str." ++ key ++ "() takes no arguments (" ++ toString args.length ++
      " given)"))

/-- Calls a value with arguments, of which the last ones have names. -/
def call (d : Datum) (args : List Datum) (names : List String) : Except Fault Datum :=
  match d with
  | .undefined => .error .undefinedValue
  | .method owner key =>
    if names.isEmpty then callMethod owner key args
    else .error (.wrongType ("str." ++ key ++ "() takes no keyword arguments"))
  | d => .error (.wrongType ("'" ++ d.typeName ++ "' object is not callable"))

end Datum

end AccountSidecar.Template
