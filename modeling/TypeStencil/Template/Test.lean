import TypeStencil.Template.Arithmetic

/-!
The tests of templates: whether something is defined, of which kind it is, and how it compares. Only
the tests for what is defined accept something undefined.
-/
namespace TypeStencil.Template

inductive Test where
  | isDefined
  | isUndefined
  | isNull
  | isTrue
  | isFalse
  | isBool
  | isInteger
  | isFloat
  | isNumber
  | isText
  | isTable
  | isSequence
  | isIterable
  | isOdd
  | isEven
  | isDivisible
  | relates (r : Relation)
  deriving DecidableEq, Repr

namespace Test

/-- The tests by their names. -/
def named : List (String × Test) := [
  ("defined", isDefined), ("undefined", isUndefined), ("none", isNull), ("true", isTrue),
  ("false", isFalse), ("boolean", isBool), ("integer", isInteger), ("float", isFloat),
  ("number", isNumber), ("string", isText), ("mapping", isTable), ("sequence", isSequence),
  ("iterable", isIterable), ("odd", isOdd), ("even", isEven), ("divisibleby", isDivisible),
  ("eq", relates .equal), ("equalto", relates .equal), ("ne", relates .unequal),
  ("lt", relates .less), ("lessthan", relates .less), ("le", relates .lessEqual),
  ("gt", relates .greater), ("greaterthan", relates .greater), ("ge", relates .greaterEqual),
  ("in", relates .within)]

def ofName? (n : String) : Option Test :=
  named.lookup n

/-- Whether the test needs something to compare with. -/
def isBinary : Test → Bool
  | isDivisible | relates _ => true
  | _ => false

/-- What messages call the test. -/
def title : Test → String
  | relates .within => "test_in"
  | relates .equal => "eq"
  | relates .unequal => "ne"
  | relates .less => "lt"
  | relates .lessEqual => "le"
  | relates .greater => "gt"
  | relates .greaterEqual => "ge"
  | relates .notWithin => "test_in"
  | t => "test_" ++ ((named.find? fun e => e.2 == t).map (·.1)).getD ""

def remainderIs (d divisor : Datum) (rest : Int) : Except Fault Bool := do
  (← d.combine .remainder divisor).same (.value (.int rest))

/-- Whether a value has the kind that a test asks for. -/
def admits (t : Test) : Value → Bool
  | .null => t == isNull
  | .bool b => t == isBool || t == isNumber || t == (if b then isTrue else isFalse)
  | .int _ => t == isInteger || t == isNumber
  | .float _ => t == isFloat || t == isNumber
  | .str _ => t == isText || t == isSequence
  | .list _ => t == isSequence
  | .table _ => t == isTable || t == isSequence

/-- Runs a test on a datum, with another one to compare with if the test needs it. -/
def run (t : Test) (d other : Datum) : Except Fault Bool :=
  match t, d with
  | isDefined, .undefined _ | isDefined, .blank _ => .ok false
  | isDefined, _ => .ok true
  | isUndefined, .undefined _ | isUndefined, .blank _ => .ok true
  | isUndefined, _ => .ok false
  | isOdd, d => remainderIs d (.value (.int 2)) 1
  | isEven, d => remainderIs d (.value (.int 2)) 0
  | isDivisible, d => remainderIs d other 0
  | relates r, d => r.holds d other
  | isIterable, .undefined cause => .error (.template cause)
  | isIterable, d => .ok (d.items matches .ok _)
  | t, .value v => .ok (t.admits v)
  | isSequence, .list _ | isSequence, .tuple _ | isSequence, .table _ => .ok true
  | isTable, .table _ => .ok true
  | _, _ => .ok false

def apply (t : Test) (d : Datum) (args : List Datum) : Except Fault Bool :=
  let wanted := if t.isBinary then 2 else 1
  if args.length + 1 = wanted then t.run d (args.headD d)
  else Datum.refuse (.argumentCount t.title wanted (args.length + 1))

end Test

end TypeStencil.Template
