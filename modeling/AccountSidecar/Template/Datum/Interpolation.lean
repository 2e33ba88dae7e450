import AccountSidecar.Template.Datum

/-!
# Interpolation

The remainder operator on a text puts values into the places that the text marks with a percent
sign and a letter: `s` for the text of a value, `r` for its quoted form, `d` and its relatives for
an integer.
-/

namespace AccountSidecar.Template

/-- The text of a character in markup. -/
def escapeChar (c : Char) : List Char :=
  if c = '&' then "&amp;".toList
  else if c = '<' then "&lt;".toList
  else if c = '>' then "&gt;".toList
  else if c = '"' then "&#34;".toList
  else if c = '\'' then "&#39;".toList
  else [c]

/-- The text with the characters replaced that mean something in markup. -/
def escapeText (s : String) : String := String.ofList (s.toList.flatMap escapeChar)

namespace Datum

/-- The text of a value in markup: text that is escaped already stays as it is. -/
def escape (d : Datum) : Except Fault String :=
  match d with
  | .escaped s => .ok s
  | d => d.print.map escapeText

/-- The integer that a value shows where an integer is wanted. -/
def wholeNumber (mark : Char) (d : Datum) : Except Fault String :=
  match d with
  | .float x =>
    match x.truncate? with
    | some n => .ok (toString n)
    | none =>
      match x with
      | .nan => .error (.wrongValue "cannot convert float NaN to integer")
      | _ => .error (.overflow "cannot convert float infinity to integer")
  | d =>
    match d.integer? with
    | some n => (Datum.integer n).display
    | none =>
      .error (.wrongType ("%" ++ String.singleton mark ++
        " format: a real number is required, not " ++ d.typeName))

/-- The text of a value at a place marked by a letter. -/
def interpolated (inMarkup : Bool) (mark : Char) (d : Datum) : Except Fault String :=
  if mark = 's' then (if inMarkup then d.escape else d.print)
  else if mark = 'r' then d.display.map fun s => if inMarkup then escapeText s else s
  else if mark = 'd' || mark = 'i' || mark = 'u' then d.wholeNumber mark
  else .error (.wrongValue ("unsupported format character '" ++ String.singleton mark ++ "'"))

/-- Puts values into the places of a text, and returns the values left over. -/
def interpolateFrom (inMarkup : Bool) : List Char → List Datum →
    Except Fault (List Char × List Datum)
  | [], values => .ok ([], values)
  | ['%'], _ => .error (.wrongValue "incomplete format")
  | '%' :: mark :: rest, values =>
    if mark = '%' then
      (interpolateFrom inMarkup rest values).map fun r => ('%' :: r.1, r.2)
    else
      match values with
      | [] => .error (.wrongType "not enough arguments for format string")
      | d :: values =>
        match d.interpolated inMarkup mark with
        | .error e => .error e
        | .ok s => (interpolateFrom inMarkup rest values).map fun r => (s.toList ++ r.1, r.2)
  | c :: rest, values => (interpolateFrom inMarkup rest values).map fun r => (c :: r.1, r.2)

/-- Whether a value may hold more than the text has places for. -/
def mayHoldMore : Datum → Bool
  | .undefined | .list _ | .table _ => true
  | _ => false

/-- Puts a value, or the items of a tuple, into the places of a text. -/
def interpolate (inMarkup : Bool) (s : String) (d : Datum) : Except Fault String :=
  let values :=
    match d with
    | .tuple items => items
    | d => [d]
  match interpolateFrom inMarkup s.toList values with
  | .error e => .error e
  | .ok (chars, rest) =>
    if rest.isEmpty || d.mayHoldMore then .ok (String.ofList chars)
    else .error (.wrongType "not all arguments converted during string formatting")

end Datum

end AccountSidecar.Template
