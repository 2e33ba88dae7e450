import AccountSidecar.Template.Datum.Arithmetic
import AccountSidecar.Text.Split

/-!
# Comparison of values

Equality holds between any values: numbers are equal when their values are, whatever their type,
and the undefined value equals only itself. Order holds between numbers, between texts by their
characters, and between lists or tuples by their first difference.
-/

namespace AccountSidecar.Template

open Number (Binary64)

/-- The order of two numbers; not a number is unordered. -/
def Numeral.compare? (a b : Numeral) : Option Ordering :=
  match a, b with
  | .whole a, .whole b => some (compare a b)
  | .whole a, .real y => Binary64.compareInt? a y
  | .real x, .whole b => (Binary64.compareInt? b x).map Ordering.swap
  | .real x, .real y => Binary64.compare? x y

namespace Datum

mutual

/-- Whether two values are equal. -/
def same : Datum → Datum → Bool
  | .undefined, .undefined => true
  | .nothing, .nothing => true
  | .itself, .itself => true
  | .text s, d => d.text? == some s
  | .escaped s, d => d.text? == some s
  | .list xs, .list ys => sameItems xs ys
  | .tuple xs, .tuple ys => sameItems xs ys
  | .table xs, .table ys => xs.length == ys.length && sameEntries xs ys
  | .bool b, d => sameNumber (.whole (if b then 1 else 0)) d
  | .integer n, d => sameNumber (.whole n) d
  | .float x, d => sameNumber (.real x) d
  | _, _ => false

/-- Whether lists have equal items. -/
def sameItems : List Datum → List Datum → Bool
  | [], [] => true
  | x :: xs, y :: ys => same x y && sameItems xs ys
  | _, _ => false

/-- Whether every entry has an equal one in another table. -/
def sameEntries : List (Datum × Datum) → List (Datum × Datum) → Bool
  | [], _ => true
  | (k, v) :: rest, others =>
    others.any (fun e => same k e.1 && same v e.2) && sameEntries rest others

/-- Whether a value is a number equal to the given one. -/
def sameNumber (n : Numeral) (d : Datum) : Bool :=
  match d.numeral? with
  | some m => n.compare? m == some .eq
  | none => false

end

/-- Whether an order is one that the comparison asks for. -/
def meets (op : Comparison) (order : Ordering) : Bool :=
  match op with
  | .equal => order == .eq
  | .unequal => order != .eq
  | .less => order == .lt
  | .lessOrEqual => order != .gt
  | .greater => order == .gt
  | .greaterOrEqual => order != .lt
  | .isIn | .isNotIn => false

/-- How faults write a comparison of order. -/
def comparisonLabel : Comparison → String
  | .less => "<"
  | .lessOrEqual => "<="
  | .greater => ">"
  | .greaterOrEqual => ">="
  | _ => ""

/-- The order of two texts by their characters. -/
def textOrder : List Char → List Char → Ordering
  | [], [] => .eq
  | [], _ :: _ => .lt
  | _ :: _, [] => .gt
  | a :: as, b :: bs => if a = b then textOrder as bs else if a < b then .lt else .gt

mutual

/-- Whether one value stands to another in the order that a comparison asks for. -/
def ordered (op : Comparison) : Datum → Datum → Except Fault Bool
  | .list xs, .list ys => orderedItems op xs ys
  | .tuple xs, .tuple ys => orderedItems op xs ys
  | a, b =>
    match a, b with
    | .undefined, _ | _, .undefined => .error .undefinedValue
    | a, b =>
      match a.numeral?, b.numeral?, a.text?, b.text? with
      | some x, some y, _, _ => .ok ((x.compare? y).any (meets op))
      | _, _, some s, some t => .ok (meets op (textOrder s.toList t.toList))
      | _, _, _, _ =>
        .error (.wrongType ("'" ++ comparisonLabel op ++ "' not supported between instances of '" ++
          a.typeName ++ "' and '" ++ b.typeName ++ "'"))

/-- Whether lists stand in an order, decided by their first different items or by their lengths. -/
def orderedItems (op : Comparison) : List Datum → List Datum → Except Fault Bool
  | [], [] => .ok (meets op .eq)
  | [], _ :: _ => .ok (meets op .lt)
  | _ :: _, [] => .ok (meets op .gt)
  | x :: xs, y :: ys => if same x y then orderedItems op xs ys else ordered op x y

end

mutual

/-- Whether a value can be a key of a table. -/
def isKey : Datum → Bool
  | .list _ | .table _ => false
  | .tuple items => areKeys items
  | _ => true

/-- Whether every item can be a key. -/
def areKeys : List Datum → Bool
  | [] => true
  | d :: rest => isKey d && areKeys rest

end

/-- The fault of a key that cannot be one. -/
def notAKey (d : Datum) : Fault := .wrongType ("unhashable type: '" ++ d.typeName ++ "'")

/-- The value under a key. -/
def lookUp? (key : Datum) : List (Datum × Datum) → Option Datum
  | [] => none
  | e :: rest => if same key e.1 then some e.2 else lookUp? key rest

/-- Sets the value under a key: an equal key that is there keeps its place and its form. -/
def putEntry (key value : Datum) : List (Datum × Datum) → List (Datum × Datum)
  | [] => [(key, value)]
  | e :: rest => if same key e.1 then (e.1, value) :: rest else e :: putEntry key value rest

/-- Whether a value is in a container: a part of a text, an item or a key. -/
def isIn (d container : Datum) : Except Fault Bool :=
  match container with
  | .text s | .escaped s =>
    match d.text? with
    | some part => .ok (Text.occurs part.toList s.toList)
    | none =>
      .error (.wrongType ("'in <string>' requires string as left operand, not " ++ d.typeName))
  | .table entries => if d.isKey then .ok (lookUp? d entries).isSome else .error (notAKey d)
  | container =>
    match container.items with
    | .ok items => .ok (items.any (same d))
    | .error _ =>
      .error (.wrongType ("argument of type '" ++ container.typeName ++ "' is not iterable"))

/-- Whether a comparison holds between two values. -/
def compares (op : Comparison) (a b : Datum) : Except Fault Bool :=
  match op with
  | .equal => .ok (same a b)
  | .unequal => .ok (!same a b)
  | .isIn => isIn a b
  | .isNotIn => (isIn a b).map (!·)
  | op => ordered op a b

end Datum

end AccountSidecar.Template
