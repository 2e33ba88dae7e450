import AccountSidecar.Number.Integer

/-!
# Faults of a template

Everything that can go wrong between the text of a template and its output. A fault of the template
itself is told from an operation that its operands do not allow.
-/

namespace AccountSidecar.Template

/-- The kinds of operations that cannot be done. -/
inductive OperationFault where
  | zeroDivision
  | wrongType
  | wrongValue
  | overflow
  | outOfMemory
  /-- The template needs more of the template language than is rendered here. -/
  | unsupported
  /-- An exception of any other kind, by its name. -/
  | other (name : String)
  deriving DecidableEq, Repr

/-- Why a template gives no output. -/
inductive Fault where
  | syntaxFault
  | unknownName
  | undefinedValue
  | unknownAtRun
  | badArgument
  | operation (kind : OperationFault) (reason : String)
  deriving DecidableEq, Repr

/-- The name under which a kind of operation fault is reported. -/
def OperationFault.label : OperationFault → String
  | .zeroDivision => "ZeroDivisionError"
  | .wrongType => "TypeError"
  | .wrongValue => "ValueError"
  | .overflow => "OverflowError"
  | .outOfMemory => "MemoryError"
  | .unsupported => "unsupported"
  | .other name => name

namespace Fault

/-- Whether the template itself is at fault, and not an operation on its values. -/
def isOfTemplate : Fault → Bool
  | .operation _ _ => false
  | _ => true

/-- A division by zero. -/
def zeroDivision (reason : String) : Fault := .operation .zeroDivision reason

/-- An operand of a type that the operation does not take. -/
def wrongType (reason : String) : Fault := .operation .wrongType reason

/-- An operand of the right type with a value that the operation does not take. -/
def wrongValue (reason : String) : Fault := .operation .wrongValue reason

/-- A result outside the range of its type. -/
def overflow (reason : String) : Fault := .operation .overflow reason

/-- A result that no memory can hold. -/
def outOfMemory : Fault := .operation .outOfMemory ""

/-- Something of the template language that is not rendered here. -/
def unsupported (what : String) : Fault := .operation .unsupported what

/-- An integer with too many digits to be written. -/
def tooManyDigits : Fault :=
  wrongValue ("Exceeds the limit (" ++ toString Number.maxDigits ++
    " digits) for integer string conversion; " ++
      "use sys.set_int_max_str_digits() to increase the limit")

/-- An integer literal with too many digits to be read. -/
def tooLongLiteral : Fault :=
  wrongValue ("Exceeds the limit (" ++ toString Number.maxDigits ++
    " digits) for integer string conversion")

end Fault

end AccountSidecar.Template
