import AccountSidecar.Template.Datum.Interpolation
import AccountSidecar.Template.Syntax

/-!
# Arithmetic on values

The operators of arithmetic. Integers are exact and of any size; an operation with a float, or a
division, gives a float. Texts, lists and tuples can be added to their like and repeated.
-/

namespace AccountSidecar.Template

open Number (Binary64)

/-- A number: exact or rounded. -/
inductive Numeral where
  | whole (n : Int)
  | real (x : Binary64)
  deriving DecidableEq, Repr

namespace Numeral

/-- The value that a number is. -/
def toDatum : Numeral → Datum
  | .whole n => .integer n
  | .real x => .float x

/-- The number in rounded form. -/
def toReal : Numeral → Except Fault Binary64
  | .real x => .ok x
  | .whole n =>
    match Binary64.ofInt n with
    | .infinite _ => .error (.overflow "int too large to convert to float")
    | x => .ok x

/-- A power of the quotient `num / den` with a whole exponent, computed exactly before it is
rounded. An odd power has the sign of the quotient, which zero has, too. -/
def exactPower (negative : Bool) (num den : Nat) (exponent : Int) : Binary64 :=
  let negative := negative && exponent % 2 != 0
  let n := exponent.natAbs
  if 0 ≤ exponent then Binary64.ofQuotient negative (Nat.pow num n) (Nat.pow den n)
  else Binary64.ofQuotient negative (Nat.pow den n) (Nat.pow num n)

/-- The largest magnitude of a whole exponent for which a power is computed exactly. -/
def maxExactExponent : Nat := 1100

/-- A power by the elementary function of the machine. -/
def machinePower (x y : Binary64) : Binary64 :=
  Binary64.ofBits (Float.pow (Float.ofBits x.toBits) (Float.ofBits y.toBits)).toBits

/-- The whole number that a rounded number is, if it is one. -/
def wholeValue? (x : Binary64) : Option Int :=
  match x.toQuotient? with
  | some (num, den) => if num % den = 0 then some (num / den) else none
  | none => none

/-- A power of rounded numbers. -/
def realPower (x y : Binary64) : Except Fault Binary64 :=
  if x.isZero && y.isNegative && !y.isZero then
    .error (.zeroDivision "0.0 cannot be raised to a negative power")
  else
    let result :=
      match x.toQuotient?, wholeValue? y with
      | some (num, den), some n =>
        if n.natAbs ≤ maxExactExponent then exactPower x.isNegative num.natAbs den n
        else machinePower x y
      | _, _ => machinePower x y
    match x.toQuotient?, y.toQuotient?, result with
    | some _, some _, .infinite _ => .error (.overflow "(34, 'Numerical result out of range')")
    | _, _, result => .ok result

/-- An operation on exact numbers. -/
def exact (op : ArithmeticOperator) (a b : Int) : Except Fault Numeral :=
  match op with
  | .plus => .ok (.whole (a + b))
  | .minus => .ok (.whole (a - b))
  | .times => .ok (.whole (a * b))
  | .divide =>
    if b = 0 then .error (.zeroDivision "division by zero")
    else
      match Binary64.ofQuotient ((a < 0) != (b < 0)) a.natAbs b.natAbs with
      | .infinite _ => .error (.overflow "integer division result too large for a float")
      | x => .ok (.real x)
  | .floorDivide =>
    if b = 0 then .error (.zeroDivision "integer division or modulo by zero")
    else .ok (.whole (Int.fdiv a b))
  | .remainder =>
    if b = 0 then .error (.zeroDivision "integer modulo by zero")
    else .ok (.whole (Int.fmod a b))
  | .power =>
    if 0 ≤ b then .ok (.whole (Int.pow a b.toNat))
    else do
      let x ← (Numeral.whole a).toReal
      let y ← (Numeral.whole b).toReal
      return .real (← realPower x y)

/-- An operation on rounded numbers. -/
def rounded (op : ArithmeticOperator) (x y : Binary64) : Except Fault Binary64 :=
  match op with
  | .plus => .ok (x.add y)
  | .minus => .ok (x.sub y)
  | .times => .ok (x.mul y)
  | .divide =>
    if y.isZero then .error (.zeroDivision "float division by zero") else .ok (x.div y)
  | .floorDivide =>
    if y.isZero then .error (.zeroDivision "float floor division by zero")
    else .ok (x.floorDiv y).1
  | .remainder =>
    if y.isZero then .error (.zeroDivision "float modulo") else .ok (x.floorDiv y).2
  | .power => realPower x y

/-- An operation on numbers. -/
def apply (op : ArithmeticOperator) (a b : Numeral) : Except Fault Numeral :=
  match a, b with
  | .whole a, .whole b => exact op a b
  | a, b => do
    let x ← a.toReal
    let y ← b.toReal
    return .real (← rounded op x y)

end Numeral

/-- How faults write an operator. -/
def ArithmeticOperator.label : ArithmeticOperator → String
  | .plus => "+"
  | .minus => "-"
  | .times => "*"
  | .divide => "/"
  | .floorDivide => "//"
  | .remainder => "%"
  | .power => "** or pow()"

namespace Datum

/-- The number that a value is. -/
def numeral? : Datum → Option Numeral
  | .float x => some (.real x)
  | d => d.integer?.map Numeral.whole

/-- The fault of operands that an operator does not take. -/
def unsupported (op : ArithmeticOperator) (a b : Datum) : Fault :=
  .wrongType ("unsupported operand type(s) for " ++ op.label ++ ": '" ++ a.typeName ++ "' and '" ++
    b.typeName ++ "'")

/-- The sum of values that are not both numbers. -/
def append (a b : Datum) : Except Fault Datum :=
  match a, b with
  | .text s, .text t => .ok (.text (s ++ t))
  | .escaped s, .escaped t => .ok (.escaped (s ++ t))
  | .escaped s, .text t => .ok (.escaped (s ++ escapeText t))
  | .text s, .escaped t => .ok (.escaped (escapeText s ++ t))
  | .list xs, .list ys => .ok (.list (xs ++ ys))
  | .tuple xs, .tuple ys => .ok (.tuple (xs ++ ys))
  | .text _, b | .escaped _, b =>
    .error (.wrongType ("can only concatenate str (not \"" ++ b.typeName ++ "\") to str"))
  | .list _, b =>
    .error (.wrongType ("can only concatenate list (not \"" ++ b.typeName ++ "\") to list"))
  | .tuple _, b =>
    .error (.wrongType ("can only concatenate tuple (not \"" ++ b.typeName ++ "\") to tuple"))
  | a, b => .error (unsupported .plus a b)

/-- The number of items that a value repeats; nothing for a value that cannot be repeated. -/
def repeatedLength? : Datum → Option Nat
  | .text s | .escaped s => some s.length
  | .list items | .tuple items => some items.length
  | _ => none

/-- The sequence one after another as often as the count says. -/
def repeated (d : Datum) (count : Nat) : Datum :=
  let times {α : Type} (items : List α) : List α := (List.replicate count items).flatten
  match d with
  | .text s => .text (String.ofList (times s.toList))
  | .escaped s => .escaped (String.ofList (times s.toList))
  | .list items => .list (times items)
  | .tuple items => .tuple (times items)
  | d => d

/-- Counts lie between this number and its negative. -/
def countLimit : Nat := 0x8000000000000000

/-- A sequence with more items than this fits no memory. -/
def memoryLimit : Nat := 0x1000000000

/-- Repeats a sequence of some length. A negative count gives the empty sequence. -/
def repeatSequence (d : Datum) (length : Nat) (count : Int) : Except Fault Datum :=
  if (countLimit : Int) ≤ count || count < -(countLimit : Int) then
    .error (.overflow "cannot fit 'int' into an index-sized integer")
  else if memoryLimit ≤ length * count.toNat then
    match d with
    | .text _ | .escaped _ =>
      if countLimit ≤ length * count.toNat then .error (.overflow "repeated string is too long")
      else .error .outOfMemory
    | _ => .error .outOfMemory
  else if length = 0 then .ok d
  else .ok (d.repeated count.toNat)

/-- The product of values that are not both numbers. -/
def repetition (a b : Datum) : Except Fault Datum :=
  let (sequence, count) := if a.repeatedLength?.isSome then (a, b) else (b, a)
  match sequence.repeatedLength?, count.integer? with
  | some length, some n => repeatSequence sequence length n
  | some _, none =>
    .error (.wrongType ("can't multiply sequence by non-int of type '" ++ count.typeName ++ "'"))
  | none, _ => .error (unsupported .times a b)

/-- An operator of arithmetic between two values. -/
def arithmetic (op : ArithmeticOperator) (a b : Datum) : Except Fault Datum :=
  match op, a with
  | .remainder, .text s => (interpolate false s b).map Datum.text
  | .remainder, .escaped s => (interpolate true s b).map Datum.escaped
  | op, a =>
    match a, b with
    | .undefined, _ | _, .undefined => .error .undefinedValue
    | a, b =>
      match a.numeral?, b.numeral? with
      | some x, some y => (Numeral.apply op x y).map Numeral.toDatum
      | _, _ =>
        match op with
        | .plus => append a b
        | .times => repetition a b
        | op => .error (unsupported op a b)

/-- A sign before a value. -/
def signed (op : SignOperator) (d : Datum) : Except Fault Datum :=
  match d with
  | .undefined => .error .undefinedValue
  | d =>
    match op, d.numeral? with
    | .negative, some (.whole n) => .ok (.integer (-n))
    | .negative, some (.real x) => .ok (.float x.neg)
    | .positive, some n => .ok n.toDatum
    | op, none =>
      let label := match op with
        | .negative => "-"
        | .positive => "+"
      .error (.wrongType ("bad operand type for unary " ++ label ++ ": '" ++ d.typeName ++ "'"))

/-- The texts of values one after another. -/
def joined : List Datum → Except Fault String
  | [] => .ok ""
  | d :: rest => do
    let s ← d.print
    let more ← joined rest
    return s ++ more

end Datum

end AccountSidecar.Template
