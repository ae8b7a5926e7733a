import TypeStencil.Template.Datum

/-!
What a datum has under a name or a key. Members of its kind go before entries of the same name when
a name is asked for, and after them when a key is.
-/
namespace TypeStencil.Template.Datum

/-- The members of the state of a loop. -/
def loopMember? (index : Nat) (items : List Datum) (n : String) : Option Datum :=
  let number (k : Nat) : Option Datum := some (value (.int k))
  let neighbour (which : String) (found : Option Datum) : Option Datum :=
    some (found.getD (undefined (.noNeighbour which)))
  match n with
  | "index" => number index
  | "index0" => number (index - 1)
  | "first" => some (value (.bool (index == 1)))
  | "last" => some (value (.bool (index == items.length)))
  | "length" => number items.length
  | "revindex" => number (items.length + 1 - index)
  | "revindex0" => number (items.length - index)
  | "depth" => number 1
  | "depth0" => number 0
  | "previtem" => neighbour "previous" (if index < 2 then none else items[index - 2]?)
  | "nextitem" => neighbour "next" items[index]?
  | "cycle" | "changed" => some (thing (.loopMethod n))
  | _ => none

/-- The members of a class of values. -/
def globalMember? (g : Global) (n : String) : Option Datum :=
  match g with
  | .dict =>
    if tableMethods.contains n then
      some (thing (.classMember ("<method '" ++ n ++ "' of 'dict' objects>")))
    else if n == "mro" then some (thing (.classMember ("<method 'mro' of 'type' objects>")))
    else some (thing (.generic (Text.quoted n)))
  | .range =>
    if ["start", "stop", "step"].contains n then
      some (thing (.classMember ("<member '" ++ n ++ "' of 'range' objects>")))
    else if ["count", "index"].contains n then
      some (thing (.classMember ("<method '" ++ n ++ "' of 'range' objects>")))
    else typeMember? n
  | .cycler =>
    if ["current", "next", "reset"].contains n then
      some (thing (.classMember ("<function Cycler." ++ n ++ ">")))
    else typeMember? n
  | .joiner | .namespaces => typeMember? n
  | .lipsum => none
where
  /-- The members that all classes have. -/
  typeMember? (n : String) : Option Datum :=
    if n == "mro" then some (thing (.classMember "<method 'mro' of 'type' objects>")) else none

/-- The members of values by their kind. -/
def kindMember? (v : Value) (n : String) : Option Datum :=
  if n == "__class__" then some (thing (.kind v.kind.name))
  else match fieldOf? v n with
    | some field => some (value field)
    | none => if (methodsOf v.kind).contains n then some (thing (.method v n)) else none

/-- The methods of a list, table or tuple. -/
def methodOf? (d : Datum) (n : String) : Option Datum :=
  match d with
  | list _ => if (methodsOf .list).contains n then some (thing (.method (.list []) n)) else none
  | table _ => if (methodsOf .table).contains n then some (thing (.method (.table []) n)) else none
  | tuple _ => if tupleMethods.contains n then some (thing (.tupleMethod n)) else none
  | _ => none

/-- The members that are not entries of a table. -/
def ownMember? (d : Datum) (n : String) : Option Datum :=
  match d with
  | value v => kindMember? v n
  | list _ | table _ | tuple _ =>
    if n == "__class__" then some (thing (.kind d.kindName)) else methodOf? d n
  | loop index items => loopMember? index items n
  | thing (.global g) => globalMember? g n
  | _ => none

/-- The entry of a table under a name. -/
def entry? (d : Datum) (k : Scalar) : Option Datum :=
  match d with
  | value (.table entries) => (Entries.find? entries k).map value
  | table entries => Entries.find? entries k
  | _ => none

/-- The member of a name. -/
def member (d : Datum) (n : String) : Except Fault Datum :=
  match d with
  | undefined cause => .error (.template cause)
  | blank cause => .error (.template cause)
  | d =>
    match d.ownMember? n with
    | some found => .ok found
    | none => .ok ((d.entry? (.str n)).getD (undefined (.undefinedAttribute d.ownerTitle n)))

/-- What stands in a sequence under a position, or in a table under a name. -/
def stored? (d key : Datum) : Except Fault (Option Datum) :=
  match d, key with
  | thing (.global .dict), key => .ok (some (thing (.generic key.quoted)))
  | d, value k =>
    match d.sequence?, k.index? with
    | some items, some n => .ok ((Value.position? items.length n).bind (items[·]?))
    | some _, none => .ok none
    | none, _ => .ok (k.scalar?.bind d.entry?)
  | value (.table _), undefined cause => .error (.template cause)
  | table _, undefined cause => .error (.template cause)
  | _, _ => .ok none

/-- The item under a key, or else the member of that name. -/
def item (d key : Datum) : Except Fault Datum :=
  match d with
  | undefined cause => .error (.template cause)
  | blank cause => .error (.template cause)
  | d => do
    match ← d.stored? key with
    | some found => return found
    | none =>
      match key with
      | value (.str n) =>
        return (d.ownMember? n).getD (undefined (.undefinedAttribute d.ownerTitle n))
      | key => return undefined (.undefinedItem d.ownerTitle key.quoted)

end TypeStencil.Template.Datum
