import TypeStencil.Value

/-!
What every template knows without being given it: some global names, and the members that values
have by their kind. Members of a kind go before entries of a table.
-/
namespace TypeStencil.Template

/-- The names that a template knows if its context does not use them otherwise. -/
inductive Global where
  | range
  | dict
  | lipsum
  | cycler
  | joiner
  | namespaces
  deriving DecidableEq, Repr

namespace Global

def all : List Global :=
  [range, dict, lipsum, cycler, joiner, namespaces]

def name : Global → String
  | range => "range"
  | dict => "dict"
  | lipsum => "lipsum"
  | cycler => "cycler"
  | joiner => "joiner"
  | namespaces => "namespace"

def ofName? (n : String) : Option Global :=
  all.find? fun g => g.name == n

def text : Global → String
  | range => "<class 'range'>"
  | dict => "<class 'dict'>"
  | lipsum => "<function generate_lorem_ipsum>"
  | cycler => "<class 'jinja2.utils.Cycler'>"
  | joiner => "<class 'jinja2.utils.Joiner'>"
  | namespaces => "<class 'jinja2.utils.Namespace'>"

/-- The word for its kind in messages. -/
def kindName : Global → String
  | lipsum => "function"
  | _ => "type"

end Global

/-- The methods that all values have. -/
def commonMethods : List String := [
  "__delattr__", "__dir__", "__eq__", "__format__", "__ge__", "__getattribute__", "__getstate__",
  "__gt__", "__hash__", "__init__", "__init_subclass__", "__le__", "__lt__", "__ne__", "__new__",
  "__reduce__", "__reduce_ex__", "__repr__", "__setattr__", "__sizeof__", "__str__",
  "__subclasshook__"]

def tableMethods : List String := [
  "clear", "copy", "fromkeys", "get", "items", "keys", "pop", "popitem", "setdefault", "update",
  "values"]

def hiddenTableMethods : List String := [
  "__class_getitem__", "__contains__", "__delitem__", "__getitem__", "__ior__", "__iter__",
  "__len__", "__or__", "__reversed__", "__ror__", "__setitem__"]

def listMethods : List String := [
  "append", "clear", "copy", "count", "extend", "index", "insert", "pop", "remove", "reverse",
  "sort"]

def hiddenListMethods : List String := [
  "__add__", "__class_getitem__", "__contains__", "__delitem__", "__getitem__", "__iadd__",
  "__imul__", "__iter__", "__len__", "__mul__", "__reversed__", "__rmul__", "__setitem__"]

def tupleMethods : List String := [
  "count", "index", "__add__", "__class_getitem__", "__contains__", "__getitem__",
  "__getnewargs__", "__iter__", "__len__", "__mul__", "__rmul__"]

def textMethods : List String := [
  "capitalize", "casefold", "center", "count", "encode", "endswith", "expandtabs", "find", "format",
  "format_map", "index", "isalnum", "isalpha", "isascii", "isdecimal", "isdigit", "isidentifier",
  "islower", "isnumeric", "isprintable", "isspace", "istitle", "isupper", "join", "ljust", "lower",
  "lstrip", "maketrans", "partition", "removeprefix", "removesuffix", "replace", "rfind", "rindex",
  "rjust", "rpartition", "rsplit", "rstrip", "split", "splitlines", "startswith", "strip",
  "swapcase", "title", "translate", "upper", "zfill"]

def hiddenTextMethods : List String := [
  "__add__", "__contains__", "__getitem__", "__getnewargs__", "__iter__", "__len__", "__mod__",
  "__mul__", "__rmod__", "__rmul__"]

def integerMethods : List String := [
  "as_integer_ratio", "bit_count", "bit_length", "conjugate", "from_bytes", "to_bytes", "__and__",
  "__index__", "__invert__", "__lshift__", "__or__", "__rand__", "__rlshift__", "__ror__",
  "__rrshift__", "__rshift__", "__rxor__", "__xor__"]

def floatMethods : List String := [
  "as_integer_ratio", "conjugate", "fromhex", "hex", "is_integer", "__getformat__"]

def hiddenNumberMethods : List String := [
  "__abs__", "__add__", "__bool__", "__ceil__", "__divmod__", "__float__", "__floor__",
  "__floordiv__", "__getnewargs__", "__int__", "__mod__", "__mul__", "__neg__", "__pos__",
  "__pow__", "__radd__", "__rdivmod__", "__rfloordiv__", "__rmod__", "__rmul__", "__round__",
  "__rpow__", "__rsub__", "__rtruediv__", "__sub__", "__truediv__", "__trunc__"]

/-- The methods of the values of a kind. -/
def methodsOf : Kind → List String
  | .null => "__bool__" :: commonMethods
  | .bool | .int => integerMethods ++ hiddenNumberMethods ++ commonMethods
  | .float => floatMethods ++ hiddenNumberMethods ++ commonMethods
  | .str => textMethods ++ hiddenTextMethods ++ commonMethods
  | .list => listMethods ++ hiddenListMethods ++ commonMethods
  | .table => tableMethods ++ hiddenTableMethods ++ commonMethods

/-- The size of a truth value as a number. -/
def numberOf (b : Bool) : Int :=
  if b then 1 else 0

/-- The members of a value that are values again. -/
def fieldOf? (v : Value) (n : String) : Option Value :=
  match v with
  | .bool b => integerField? (numberOf b)
  | .int k => integerField? k
  | .float x =>
    if n == "real" then some (.float x)
    else if n == "imag" then some (.float (.zero false))
    else none
  | .list _ | .table _ => if n == "__hash__" then some .null else none
  | _ => none
where
  /-- A whole number has itself as numerator and real part. -/
  integerField? (k : Int) : Option Value :=
    if n == "real" || n == "numerator" then some (.int k)
    else if n == "imag" then some (.int 0)
    else if n == "denominator" then some (.int 1)
    else none

end TypeStencil.Template
