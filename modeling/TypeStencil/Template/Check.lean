import TypeStencil.Template.Constant

/-!
What a template is refused for before it is rendered: unknown filters and tests, a loop that sets
the name of its own state, and faults of what is worked out beforehand. What a condition decides
about may name unknown filters and tests.
-/
namespace TypeStencil.Template

namespace Expr

/-- What is not known in a part of an expression. -/
def unknown? (e : Expr) : Option TemplateFault :=
  match e with
  | .filtered _ n _ => if (Filter.ofName? n).isNone then some (.unknownFilter n) else none
  | .tested _ n _ => if (Test.ofName? n).isNone then some (.unknownTest n) else none
  | _ => none

/-- Refuses what cannot be worked out beforehand, and unknown filters and tests outside of
choices. -/
def check (indentSize : Value) (optional : Bool) (e : Expr) : Except Fault Unit := do
  if let some f := e.all.findSome? (foldFault? indentSize) then throw f
  if let some f := (e.openParts indentSize optional).findSome? fun part =>
    if part.optional then none else part.expr.unknown? then throw (.template f)

end Expr

mutual

/-- Refuses what a node cannot do. What stands directly in a condition is optional. -/
def Node.check (indentSize : Value) (optional : Bool) : Node → Except Fault Unit
  | .text _ => .ok ()
  | .print e => if (e.text? indentSize).isSome then .ok () else e.check indentSize optional
  | .condition test body others otherwise => do
    test.check indentSize true
    checkNodes indentSize true body
    checkBranches indentSize others
    checkNodes indentSize true otherwise
  | .loop target source filter body otherwise => do
    if let some test := filter then test.check indentSize false
    if target.names.contains "loop" || Step.setsName "loop" (stepsOfNodes body) ||
        Step.setsName "loop" (stepsOfNodes otherwise) then
      throw (.template .loopAssigned)
    source.check indentSize optional
    checkNodes indentSize false body
    checkNodes indentSize false otherwise
termination_by structural node => node

def checkNodes (indentSize : Value) (optional : Bool) : List Node → Except Fault Unit
  | [] => .ok ()
  | node :: rest => do
    node.check indentSize optional
    checkNodes indentSize optional rest
termination_by structural l => l

def checkBranches (indentSize : Value) : List (Expr × List Node) → Except Fault Unit
  | [] => .ok ()
  | (test, body) :: rest => do
    test.check indentSize true
    checkNodes indentSize true body
    checkBranches indentSize rest
termination_by structural l => l

end

end TypeStencil.Template
