import AccountSidecar.Json.Reader
import AccountSidecar.Keyed
import AccountSidecar.Number.Integer
import AccountSidecar.Text.Case
import AccountSidecar.Text.Class
import AccountSidecar.Text.Split

/-!
# Looking up settings

A setting comes from the environment, where an empty value counts as none, or else from the
configuration file, or else it has its default.
-/

namespace AccountSidecar.Config

/-- Where settings come from. -/
structure Source where
  /-- The environment. -/
  env : Keyed String := []
  /-- The configuration file. -/
  file : Keyed String := []

/-- A number in a setting that has too many digits to be read. -/
inductive ValueFault where
  | numberTooLong
  deriving DecidableEq, Repr

/-- The words that mean yes. -/
def trueWords : List String := ["1", "true", "yes"]

namespace Source

/-- The text of a setting, if it is set anywhere. -/
def text? (source : Source) (key : String) : Option String :=
  match Keyed.find? key source.env with
  | some value => if value = "" then Keyed.find? key source.file else some value
  | none => Keyed.find? key source.file

/-- The text of a setting. -/
def text (source : Source) (key default : String) : String := (source.text? key).getD default

/-- The text of a setting that is not empty. -/
def nonempty? (source : Source) (key : String) : Option String :=
  (source.text? key).filter (· != "")

/-- The integer of a setting; what writes no integer counts as not set. -/
def integer (source : Source) (key : String) (default : Int) : Int :=
  ((source.nonempty? key).bind Number.integer?).getD default

/-- The truth value of a setting. -/
def flag (source : Source) (key : String) (default : Bool) : Bool :=
  match source.nonempty? key with
  | some value => trueWords.contains (Text.lower (Text.strip value))
  | none => default

/-- The entries of a setting that holds an object, which is read however deep it nests; anything
else has none. -/
def table (source : Source) (key : String) : Except ValueFault (Keyed String) :=
  match source.nonempty? key with
  | none => .ok []
  | some raw =>
    match Json.read raw with
    | .ok (.table entries) => .ok (Keyed.mapValues Value.plain entries)
    | .error .numberTooLong => .error .numberTooLong
    | .ok _ | .error _ => .ok []

end Source

/-- The items of a list with commas; an empty list means everything. -/
def commaList (value : String) : List String :=
  let items := (Text.pieces ',' value.toList).map fun piece =>
    String.ofList (Text.trimBoth Text.isBlank piece)
  let kept := items.filter (· != "")
  if kept.isEmpty then ["*"] else kept

end AccountSidecar.Config
