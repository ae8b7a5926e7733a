import TypeStencil.Template.Grammar.Node
import TypeStencil.Template.Program

/-!
Rendering a template tree with the values of a context. Text and values go into the output as they
are; nothing that comes from a value is read as a template.
-/
namespace TypeStencil.Template

/-- Names and what they stand for, inner names first. -/
abbrev Scope := List (String × Datum)

namespace Scope

/-- A name that is not in the scope may still be one that all templates know. -/
def lookup (scope : Scope) (n : String) : Datum :=
  (List.lookup n scope).getD
    (match Global.ofName? n with
      | some g => .thing (.global g)
      | none => .undefined (.undefinedName n))

def ofContext (context : List (String × Value)) : Scope :=
  context.map fun (n, v) => (n, .value v)

end Scope

/-- What a rendering depends on besides its scope: the size of an indentation and the name of the
template, if it has one. -/
structure Frame where
  indentSize : Value
  template : Option String

/-- The setting of the expressions in a scope. -/
def Frame.setting (f : Frame) (scope : Scope) : Setting where
  indentSize := f.indentSize
  lookup n := .ok (scope.lookup n)
  absent line := .ok (.blank (.noAlternative line f.template))

def Expr.evalIn (f : Frame) (scope : Scope) (e : Expr) : Except Fault Datum :=
  e.eval (f.setting scope)

/-- The items of a datum that must have a certain number of them. -/
def Datum.unpacked (d : Datum) (count : Nat) : Except Fault (List Datum) := do
  let items ← match d with
    | .value v => match v.items with
      | .ok items => pure (items.map .value)
      | .error _ => refuse (.notUnpacked v.kind.name)
    | .loop .. | .thing (.global _) => refuse (.notUnpacked d.kindName)
    | d => d.items
  if items.length < count then refuse (.tooFewItems count items.length)
  else if count < items.length then refuse (.tooManyItems count)
  else return items

mutual

/-- Names an item, part by part if the target has parts. -/
def Target.bind : Target → Datum → Scope → Except Fault Scope
  | .name n, d, scope => .ok ((n, d) :: scope)
  | .parts targets, d, scope => do
    let items ← d.unpacked targets.length
    bindItems targets items scope
termination_by structural t => t

def bindItems : List Target → List Datum → Scope → Except Fault Scope
  | t :: ts, d :: ds, scope => do bindItems ts ds (← t.bind d scope)
  | _, _, scope => .ok scope
termination_by structural l => l

end

/-- Renders a body for each item with its number, counted on from `index`. -/
def eachItem (body : Nat → Datum → Except Fault (List Char)) :
    Nat → List Datum → Except Fault (List Char)
  | _, [] => .ok []
  | index, d :: rest => do
    let first ← body index d
    return first ++ (← eachItem body (index + 1) rest)

/-- The items of a loop that pass its test. -/
def passing (f : Frame) (scope : Scope) (target : Target) (test : Option Expr)
    (items : List Datum) : Except Fault (List Datum) :=
  match test with
  | none => .ok items
  | some test => items.filterM fun d => do
    (← test.evalIn f (← target.bind d scope)).isPresent

mutual

def Node.render (f : Frame) (scope : Scope) : Node → Except Fault (List Char)
  | .text s => .ok s
  | .print e => do return (← (← e.evalIn f scope).text).toList
  | .condition test body others otherwise => do
    if ← (← test.evalIn f scope).isPresent then renderAll f scope body
    else match ← renderBranch? f scope others with
      | some text => return text
      | none => renderAll f scope otherwise
  | .loop target source test body otherwise => do
    let items ← passing f scope target test (← (← source.evalIn f scope).items)
    if items.isEmpty then renderAll f scope otherwise
    else
      eachItem (fun index d => do
        let inner ← target.bind d (("loop", .loop index items) :: scope)
        renderAll f inner body) 1 items
termination_by structural node => node

def renderAll (f : Frame) (scope : Scope) : List Node → Except Fault (List Char)
  | [] => .ok []
  | node :: rest => do
    let first ← node.render f scope
    return first ++ (← renderAll f scope rest)
termination_by structural l => l

/-- The text of the first branch whose test holds. -/
def renderBranch? (f : Frame) (scope : Scope) :
    List (Expr × List Node) → Except Fault (Option (List Char))
  | [] => .ok none
  | (test, body) :: rest => do
    if ← (← test.evalIn f scope).isPresent then some <$> renderAll f scope body
    else renderBranch? f scope rest
termination_by structural l => l

end

/-- A template text read as a tree that can be rendered; `file` is where its program is said to
stand. -/
def compile (indentSize : Value) (file : String) (source : List Char) :
    Except Fault (List Node) := do
  let tree ← (Grammar.ofSource source).mapError fun problem => .template (.malformed problem)
  Program.check indentSize file tree
  return tree

/-- A template that names itself does not need its context for that. -/
def Scope.ofTemplate (template : Option String) (tree : List Node)
    (context : List (String × Value)) : Scope :=
  let given := Scope.ofContext context
  if Program.namesItself tree then ("self", .thing (.template template)) :: given else given

def renderTree (f : Frame) (context : List (String × Value)) (tree : List Node) :
    Except Fault String := do
  return String.ofList (← renderAll f (Scope.ofTemplate f.template tree context) tree)

end TypeStencil.Template
