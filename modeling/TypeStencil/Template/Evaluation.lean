import TypeStencil.Template.Filter
import TypeStencil.Template.Member
import TypeStencil.Template.Slice
import TypeStencil.Template.Test

/-!
What the expressions of a template stand for. Operands are worked out from left to right and no
further than needed; an undefined name is no fault until it is used.
-/
namespace TypeStencil.Template

/-- What an expression depends on besides itself. -/
structure Setting where
  indentSize : Value
  lookup : String → Except Fault Datum
  absent : (line : Nat) → Except Fault Datum

/-- The arguments of a call; of several with one name the last counts. -/
structure Arguments where
  positional : List Datum
  named : List (String × Datum)

namespace Arguments

def empty : Arguments := ⟨[], []⟩

def addNamed (n : String) (d : Datum) (args : Arguments) : Arguments :=
  { args with
    named := (n, (args.named.lookup n).getD d) :: args.named.filter fun e => e.1 != n }

/-- Puts one more argument in front. -/
def add (role : Role) (d : Datum) (args : Arguments) : Except Fault Arguments :=
  match role with
  | .positional => .ok { args with positional := d :: args.positional }
  | .named n => .ok (args.addNamed n d)
  | .spread => do return { args with positional := (← d.items) ++ args.positional }
  | .spreadNamed => do
    let entries ← d.items
    entries.reverse.foldlM (fun args key => do
      return args.addNamed (← key.text) (← d.item key)) args

end Arguments

/-- The result of a call, which no template has. -/
def Datum.call : Datum → Except Fault Datum
  | undefined cause => .error (.template cause)
  | blank cause => .error (.template cause)
  | d => refuse (.notCallable d.kindName)

mutual

def Expr.eval (s : Setting) : Expr → Except Fault Datum
  | .name n => s.lookup n
  | .const v => .ok (.value v)
  | .tuple items => do return .tuple (← evalAll s items)
  | .list items => do return .ofItems (← evalAll s items)
  | .table entries => do return .ofEntries (← evalEntries s entries [])
  | .member owner n => do (← owner.eval s).member n
  | .item owner key => do
    let d ← owner.eval s
    d.item (← key.eval s)
  | .slice owner start stop step => do
    let d ← owner.eval s
    let first ← start.eval s
    let last ← stop.eval s
    d.slice first last (← step.eval s)
  | .call callee args => do
    let d ← callee.eval s
    let _ ← evalArgs s args
    d.call
  | .filtered subject filter args => do
    let d ← subject.eval s
    let given ← evalArgs s args
    match Filter.ofName? filter with
    | some f => return .value (.str (← f.apply s.indentSize d given.positional given.named))
    | none => throw (.template (.absentFilter filter))
  | .tested subject test args => do
    let d ← subject.eval s
    let given ← evalArgs s args
    match Test.ofName? test with
    | some t => return .value (.bool (← t.apply d given.positional))
    | none => throw (.template (.absentTest test))
  | .negation e => do
    return .value (.bool !(← (← e.eval s).isPresent))
  | .conjunction a b => do
    let d ← a.eval s
    if ← d.isPresent then b.eval s else return d
  | .disjunction a b => do
    let d ← a.eval s
    if ← d.isPresent then return d else b.eval s
  | .comparison first rest => do
    return .value (.bool (← evalChain s (← first.eval s) rest))
  | .concat parts => do
    let texts ← (← evalAll s parts).mapM Datum.text
    return .value (.str (String.join texts))
  | .arithmetic op a b => do
    let d ← a.eval s
    d.combine op (← b.eval s)
  | .unary negative e => do (← e.eval s).signed negative
  | .choice condition yes no => do
    if ← (← condition.eval s).isPresent then yes.eval s else no.eval s
  | .absent line => s.absent line
termination_by structural e => e

def evalAll (s : Setting) : List Expr → Except Fault (List Datum)
  | [] => .ok []
  | e :: rest => do
    let d ← e.eval s
    return d :: (← evalAll s rest)
termination_by structural l => l

/-- The entries of a table; of several with one name the last counts. -/
def evalEntries (s : Setting) : List (Expr × Expr) → Entries Datum → Except Fault (Entries Datum)
  | [], found => .ok found
  | (k, e) :: rest, found => do
    let key ← k.eval s
    let d ← e.eval s
    evalEntries s rest (found.put (← key.hashable) d)
termination_by structural l => l

/-- Whether each of some relations holds between its sides, up to the first that does not. -/
def evalChain (s : Setting) (left : Datum) : List (Relation × Expr) → Except Fault Bool
  | [] => .ok true
  | (r, e) :: rest => do
    let right ← e.eval s
    if ← r.holds left right then evalChain s right rest else return false
termination_by structural l => l

def evalArgs (s : Setting) : List (Role × Expr) → Except Fault Arguments
  | [] => .ok .empty
  | (role, e) :: rest => do
    let d ← e.eval s
    (← evalArgs s rest).add role d
termination_by structural l => l

end

end TypeStencil.Template
