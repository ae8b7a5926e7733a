import TypeStencil.Value.Order

/-!
Lists that keep the first occurrence of every item. Only scalars can be items. What has been seen
is kept as a set beside the items, and this set decides what is present.
-/
namespace TypeStencil

/-- The set is a table of names with nothing under them. -/
structure UniqueList where
  items : List Scalar
  seen : Entries Unit
  deriving Repr, DecidableEq

namespace UniqueList

def empty : UniqueList := ⟨[], []⟩

def has (l : UniqueList) (x : Scalar) : Bool :=
  l.seen.contains x

def push (l : UniqueList) (x : Scalar) : UniqueList :=
  if l.has x then l else ⟨l.items ++ [x], l.seen.put x ()⟩

/-- Pushes items up to the first that cannot be one; those before it stay. -/
def pushAll (l : UniqueList) : List Value → UniqueList × Except TypeFault Unit
  | [] => (l, .ok ())
  | .scalar x :: rest => (l.push x).pushAll rest
  | v :: _ => (l, .error (.unhashable v.kind))

def ofItems (items : List Value) : Except TypeFault UniqueList :=
  let (l, result) := empty.pushAll items
  result.map fun _ => l

def contains (l : UniqueList) (v : Value) : Except TypeFault Bool :=
  v.hashable.map l.has

def size (l : UniqueList) : Nat :=
  l.items.length

def toList (l : UniqueList) : List Value :=
  l.items.map .scalar

def text (l : UniqueList) : String :=
  "UniqueList(" ++ (Value.list l.toList).quoted ++ ")"

end UniqueList

end TypeStencil
