import TypeStencil.Number.Binary64

/-!
The values of descriptor documents and settings: scalars, lists, and tables that keep the order of
their entries. Only scalars can name an entry of a table or be members of a set.
-/
namespace TypeStencil

inductive Scalar where
  | null
  | bool (b : Bool)
  | int (n : Int)
  | float (x : Binary64)
  | str (s : String)
  deriving DecidableEq, Repr

inductive Value where
  | scalar (s : Scalar)
  | list (items : List Value)
  | table (entries : List (Scalar × Value))
  deriving Repr

namespace Value

@[match_pattern] abbrev null : Value := .scalar .null
@[match_pattern] abbrev bool (b : Bool) : Value := .scalar (.bool b)
@[match_pattern] abbrev int (n : Int) : Value := .scalar (.int n)
@[match_pattern] abbrev float (x : Binary64) : Value := .scalar (.float x)
@[match_pattern] abbrev str (s : String) : Value := .scalar (.str s)

/-- A table whose entries are named by strings. -/
def object (members : List (String × Value)) : Value :=
  .table (members.map fun (name, value) => (.str name, value))

def strings (texts : List String) : Value :=
  .list (texts.map .str)

end Value

inductive Kind where
  | null
  | bool
  | int
  | float
  | str
  | list
  | table
  deriving DecidableEq, Repr

namespace Kind

/-- The word for the kind in messages. -/
def name : Kind → String
  | null => "NoneType"
  | bool => "bool"
  | int => "int"
  | float => "float"
  | str => "str"
  | list => "list"
  | table => "dict"

end Kind

namespace Scalar

def kind : Scalar → Kind
  | null => .null
  | bool _ => .bool
  | int _ => .int
  | float _ => .float
  | str _ => .str

/-- Null, false, zero and the empty string count as absent. -/
def isPresent : Scalar → Bool
  | null => false
  | bool b => b
  | int n => n != 0
  | float x => !x.isZero
  | str s => !s.isEmpty

end Scalar

namespace Value

def kind : Value → Kind
  | scalar s => s.kind
  | list _ => .list
  | table _ => .table

def isPresent : Value → Bool
  | scalar s => s.isPresent
  | list items => !items.isEmpty
  | table entries => !entries.isEmpty

def scalar? : Value → Option Scalar
  | scalar s => some s
  | _ => none

def str? : Value → Option String
  | str s => some s
  | _ => none

/-- The value, or `default` where it counts as absent. -/
def orElse (value default : Value) : Value :=
  if value.isPresent then value else default

end Value

end TypeStencil
