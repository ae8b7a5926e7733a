import TypeStencil.Value

/-!
The expressions of templates.
-/
namespace TypeStencil.Template

/-- Operators of numbers, texts and lists. -/
inductive Operator where
  | plus
  | minus
  | times
  | quotient
  | wholeQuotient
  | remainder
  | power
  deriving DecidableEq, Repr

/-- Relations between two values. -/
inductive Relation where
  | equal
  | unequal
  | less
  | lessEqual
  | greater
  | greaterEqual
  | within
  | notWithin
  deriving DecidableEq, Repr

/-- What an argument is for: its place, its name, or the items or entries that it spreads. -/
inductive Role where
  | positional
  | named (name : String)
  | spread
  | spreadNamed
  deriving DecidableEq, Repr

inductive Expr where
  | name (n : String)
  | const (v : Value)
  | tuple (items : List Expr)
  | list (items : List Expr)
  | table (entries : List (Expr × Expr))
  | member (owner : Expr) (name : String)
  | item (owner key : Expr)
  | slice (owner start stop step : Expr)
  | call (callee : Expr) (args : List (Role × Expr))
  | filtered (subject : Expr) (filter : String) (args : List (Role × Expr))
  | tested (subject : Expr) (test : String) (args : List (Role × Expr))
  | negation (e : Expr)
  | conjunction (a b : Expr)
  | disjunction (a b : Expr)
  | comparison (first : Expr) (rest : List (Relation × Expr))
  | concat (parts : List Expr)
  | arithmetic (op : Operator) (a b : Expr)
  | unary (negative : Bool) (e : Expr)
  | choice (condition yes no : Expr)
  | absent (line : Nat)

namespace Operator

def sign : Operator → String
  | plus => "+"
  | minus => "-"
  | times => "*"
  | quotient => "/"
  | wholeQuotient => "//"
  | remainder => "%"
  | power => "**"

/-- How messages about operands call the operator. -/
def title : Operator → String
  | power => "** or pow()"
  | op => op.sign

/-- How messages call an expression with the operator. -/
def form : Operator → String
  | plus => "add"
  | minus => "sub"
  | times => "mul"
  | quotient => "div"
  | wholeQuotient => "floordiv"
  | remainder => "mod"
  | power => "pow"

end Operator

namespace Relation

def sign : Relation → String
  | equal => "=="
  | unequal => "!="
  | less => "<"
  | lessEqual => "<="
  | greater => ">"
  | greaterEqual => ">="
  | within => "in"
  | notWithin => "not in"

end Relation

namespace Expr

/-- How messages call an expression of this form. -/
def form : Expr → String
  | name _ => "name"
  | const _ => "const"
  | tuple _ => "tuple"
  | list _ => "list"
  | table _ => "dict"
  | member .. => "getattr"
  | item .. => "getitem"
  | slice .. => "getitem"
  | call .. => "call"
  | filtered .. => "filter"
  | tested .. => "test"
  | negation _ => "not"
  | conjunction .. => "and"
  | disjunction .. => "or"
  | comparison .. => "compare"
  | concat _ => "concat"
  | arithmetic op _ _ => op.form
  | unary negative _ => if negative then "neg" else "pos"
  | choice .. => "condexpr"
  | absent _ => "condexpr"

end Expr

/-- What the items of a loop are called: by one name, or part by part. -/
inductive Target where
  | name (n : String)
  | parts (items : List Target)

namespace Target

mutual

/-- The target that an expression can be. -/
def ofExpr? : Expr → Option Target
  | .name n => some (.name n)
  | .tuple items => do return .parts (← ofExprs? items)
  | _ => none
termination_by structural e => e

def ofExprs? : List Expr → Option (List Target)
  | [] => some []
  | e :: rest => do return (← ofExpr? e) :: (← ofExprs? rest)
termination_by structural e => e

end

mutual

def names : Target → List String
  | .name n => [n]
  | .parts items => namesOf items
termination_by structural t => t

def namesOf : List Target → List String
  | [] => []
  | t :: rest => t.names ++ namesOf rest
termination_by structural t => t

end

end Target

inductive Node where
  | text (s : List Char)
  | print (e : Expr)
  | condition (test : Expr) (body : List Node) (others : List (Expr × List Node))
      (otherwise : List Node)
  | loop (target : Target) (source : Expr) (filter : Option Expr) (body otherwise : List Node)

end TypeStencil.Template
