import AccountSidecar.Template.Fault
import AccountSidecar.Template.Token

/-!
# The fragment of the template language

What templates are written in is larger than what is rendered here. Covered are literal text,
comments and raw sections, output, branches, loops and assignments, expressions with all their
operators, fourteen filters (`Filter`), the tests `defined` and `undefined`, the state of a loop and
four methods of texts. A template that needs any more is neither rendered nor said to be at fault:
it ends in `Fault.unsupported`. This module lists what more there is by its names; a name in none of
the lists means nothing in any template.

Not told from what is covered are the depth of a template, which is unlimited here, and the
addresses that functions print with.
-/

namespace AccountSidecar.Template

/-- The statements outside the fragment, by the first words of their tags. -/
def foreignTags : List String :=
  ["with", "filter", "macro", "call", "block", "extends", "include", "import", "from", "autoescape",
    "print"]

/-- The filters outside the fragment. -/
def foreignFilters : List String :=
  ["abs", "attr", "batch", "center", "dictsort", "filesizeformat", "float", "forceescape", "format",
    "groupby", "indent", "items", "list", "map", "max", "min", "pprint", "random", "reject",
    "rejectattr", "round", "safe", "select", "selectattr", "slice", "sort", "string", "striptags",
    "sum", "title", "tojson", "truncate", "unique", "urlize", "wordcount", "wordwrap", "xmlattr"]

/-- The tests outside the fragment. -/
def foreignTests : List String :=
  ["boolean", "callable", "divisibleby", "eq", "equalto", "escaped", "even", "false", "filter",
    "float", "ge", "greaterthan", "gt", "in", "integer", "iterable", "le", "lessthan", "lower",
    "lt", "mapping", "ne", "none", "number", "odd", "sameas", "sequence", "string", "test", "true",
    "upper"]

/-- The functions that a template finds under names without a value of their own. -/
def globalNames : List String := ["range", "dict", "lipsum", "cycler", "joiner", "namespace"]

/-- The methods of texts outside the fragment. -/
def foreignTextMethods : List String :=
  ["casefold", "center", "count", "encode", "endswith", "expandtabs", "find", "format",
    "format_map", "index", "isalnum", "isalpha", "isascii", "isdecimal", "isdigit", "isidentifier",
    "islower", "isnumeric", "isprintable", "isspace", "istitle", "isupper", "join", "ljust",
    "lstrip", "maketrans", "partition", "removeprefix", "removesuffix", "replace", "rfind",
    "rindex", "rjust", "rpartition", "rsplit", "rstrip", "split", "splitlines", "startswith",
    "swapcase", "title", "translate", "zfill"]

/-- What else escaped texts have. -/
def foreignMarkupMethods : List String := ["escape", "striptags", "unescape"] ++ foreignTextMethods

/-- What integers have under names. -/
def integerFields : List String :=
  ["as_integer_ratio", "bit_count", "bit_length", "conjugate", "denominator", "from_bytes", "imag",
    "is_integer", "numerator", "real", "to_bytes"]

/-- What floats have under names. -/
def floatFields : List String :=
  ["as_integer_ratio", "conjugate", "fromhex", "hex", "imag", "is_integer", "real"]

/-- What tuples have under names. -/
def tupleFields : List String := ["count", "index"]

/-- What lists have under names. -/
def listFields : List String :=
  ["append", "clear", "copy", "extend", "insert", "pop", "remove", "reverse", "sort"] ++ tupleFields

/-- What tables have under names, before their items. -/
def tableFields : List String :=
  ["clear", "copy", "fromkeys", "get", "items", "keys", "pop", "popitem", "setdefault", "update",
    "values"]

/-- What the state of a loop has besides its position. -/
def foreignLoopFields : List String :=
  ["changed", "cycle", "iterable", "_after", "_before", "_current", "_iterable", "_iterator",
    "_last_changed_value", "_length", "_peek_next", "_recurse", "_to_iterator", "_undefined"]

/-- What the undefined value has. -/
def undefinedFields : List String :=
  ["_fail_with_undefined_error", "_undefined_exception", "_undefined_hint", "_undefined_message",
    "_undefined_name", "_undefined_obj"]

/-- What a template has that finds itself. -/
def itselfFields : List String := ["_TemplateReference__context"]

/-- Whether a name is one of those that every value has inside. -/
def isInnerName (key : String) : Bool := key.startsWith "__"

/-- Whether arguments of a call are given as a sequence or a table in one. -/
def hasStarArgument : List Token → Bool
  | .symbol a :: .symbol b :: rest =>
    ((a == "(" || a == ",") && (b == "*" || b == "**")) || hasStarArgument (.symbol b :: rest)
  | _ :: rest => hasStarArgument rest
  | [] => false

/-- Whether a loop is called. -/
def callsLoop : List Token → Bool
  | .name "loop" :: .symbol "(" :: _ => true
  | _ :: rest => callsLoop rest
  | [] => false

/-- Whether an assignment goes to a part of a value. -/
def assignsPart (tokens : List Token) : Bool :=
  (tokens.takeWhile (· != .symbol "=")).contains (.symbol ".")

end AccountSidecar.Template
