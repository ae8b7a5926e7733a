import TypeStencil.Fault
import TypeStencil.Template.Builtin
import TypeStencil.Value.Order

/-!
What the expressions of a template stand for. Besides the values of documents there are tuples, the
state of a loop, things that are only known by name, and what is undefined. Something undefined may
be passed on and is refused where it is used; the result of a choice without an alternative counts
as blank instead.
-/
namespace TypeStencil.Template

/-- Things that no document holds. -/
inductive Thing where
  | global (g : Global)
  | generic (parameters : String)
  | kind (title : String)
  | classMember (text : String)
  | method (owner : Value) (name : String)
  | tupleMethod (name : String)
  | loopMethod (name : String)
  | template (name : Option String)
  deriving Repr

inductive Datum where
  | value (v : Value)
  | undefined (cause : TemplateFault)
  | blank (cause : TemplateFault)
  | tuple (items : List Datum)
  | list (items : List Datum)
  | table (entries : List (Scalar × Datum))
  | loop (index : Nat) (items : List Datum)
  | thing (t : Thing)

namespace Thing

def text : Thing → String
  | global g => g.text
  | generic parameters => "dict[" ++ parameters ++ "]"
  | kind title => "<class '" ++ title ++ "'>"
  | classMember text => text
  | method owner n => "<built-in method " ++ n ++ " of " ++ owner.kind.name ++ " object>"
  | tupleMethod n => "<built-in method " ++ n ++ " of tuple object>"
  | loopMethod n => "<bound method LoopContext." ++ n ++ ">"
  | template none => "<TemplateReference None>"
  | template (some n) => "<TemplateReference " ++ Text.quoted n ++ ">"

/-- The word for its kind in messages. -/
def kindName : Thing → String
  | global g => g.kindName
  | generic _ => "types.GenericAlias"
  | kind _ => "type"
  | classMember _ => "method_descriptor"
  | method .. | tupleMethod _ => "builtin_function_or_method"
  | loopMethod _ => "method"
  | template _ => "TemplateReference"

/-- What messages call it as the owner of a missing member. -/
def ownerTitle : Thing → String
  | template _ => "jinja2.runtime.TemplateReference object"
  | t => t.kindName ++ " object"

def same : Thing → Thing → Bool
  | method v m, method w n => v.same w && m == n
  | method .., _ => false
  | _, method .. => false
  | t, u => t.text == u.text

end Thing

namespace Datum

mutual

/-- The text of a datum inside that of another one. -/
def quoted : Datum → String
  | value v => v.quoted
  | undefined _ | blank _ => "Undefined"
  | tuple [item] => "(" ++ item.quoted ++ ",)"
  | tuple items => "(" ++ String.intercalate ", " (quotedItems items) ++ ")"
  | list items => "[" ++ String.intercalate ", " (quotedItems items) ++ "]"
  | table entries => "\x7b" ++ String.intercalate ", " (quotedEntries entries) ++ "\x7d"
  | loop index items =>
    "<LoopContext " ++ toString index ++ "/" ++ toString items.length ++ ">"
  | thing t => t.text
termination_by structural d => d

def quotedItems : List Datum → List String
  | [] => []
  | d :: rest => d.quoted :: quotedItems rest
termination_by structural l => l

def quotedEntries : List (Scalar × Datum) → List String
  | [] => []
  | (k, d) :: rest => (k.quoted ++ ": " ++ d.quoted) :: quotedEntries rest
termination_by structural l => l

end

def text : Datum → Except Fault String
  | value v => .ok v.text
  | undefined cause => .error (.template cause)
  | blank _ => .ok ""
  | d => .ok d.quoted

def isPresent : Datum → Except Fault Bool
  | value v => .ok v.isPresent
  | undefined cause => .error (.template cause)
  | blank _ => .ok false
  | tuple items => .ok !items.isEmpty
  | list items => .ok !items.isEmpty
  | table entries => .ok !entries.isEmpty
  | loop .. | thing _ => .ok true

/-- The word for its kind in messages. -/
def kindName : Datum → String
  | value v => v.kind.name
  | undefined _ => "StrictUndefined"
  | blank _ => "Undefined"
  | tuple _ => "tuple"
  | list _ => "list"
  | table _ => "dict"
  | loop .. => "LoopContext"
  | thing t => t.kindName

/-- What messages call it as the owner of a missing member. -/
def ownerTitle : Datum → String
  | value .null => "None"
  | loop .. => "jinja2.runtime.LoopContext object"
  | thing t => t.ownerTitle
  | d => d.kindName ++ " object"

def refuse {α : Type} (cause : OperandFault) : Except Fault α :=
  .error (.template (.operand cause))

def items : Datum → Except Fault (List Datum)
  | value v => do return (← v.items.mapError .type).map value
  | undefined cause => .error (.template cause)
  | blank _ => .ok []
  | tuple items => .ok items
  | list items => .ok items
  | table entries => .ok (entries.map fun e => value (.scalar e.1))
  | loop .. => .ok []
  | thing (.template _) => .error (.key (.int 0))
  | thing t => refuse (.notIterable t.kindName)

/-- A list, as a value if all of its items are values. -/
def ofItems (items : List Datum) : Datum :=
  match items.mapM fun d => match d with | value v => some v | _ => none with
  | some values => value (.list values)
  | none => list items

/-- A table, as a value if all of its entries are values. -/
def ofEntries (entries : Entries Datum) : Datum :=
  match entries.mapM fun e => match e with | (k, value v) => some (k, v) | _ => none with
  | some values => value (.table values)
  | none => table entries

def hashable : Datum → Except Fault Scalar
  | value v => v.hashable.mapError .type
  | undefined cause => .error (.template cause)
  | d => refuse (.unhashable d.kindName)

/-- The items of a sequence. -/
def sequence? : Datum → Option (List Datum)
  | value (.list items) => some (items.map value)
  | value (.str s) => some (s.toList.map fun c => value (.str (String.ofList [c])))
  | list items => some items
  | tuple items => some items
  | _ => none

/-- How often a datum asks for something to be repeated. -/
def repeatCount : Datum → Except Fault Nat
  | undefined cause => .error (.template cause)
  | blank cause => .error (.template cause)
  | value v =>
    match v.index? with
    | none => .error (.type (.repeatCount v.kind))
    | some n =>
      if Value.isIndexSized n then .ok n.toNat else .error .wideCount
  | d => refuse (.repeatCount d.kindName)

end Datum

end TypeStencil.Template
