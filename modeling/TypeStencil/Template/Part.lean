import TypeStencil.Template.Expr

/-!
The parts of expressions and of nodes, in the order in which they are met.
-/
namespace TypeStencil.Template

/-- The words that cannot be names of arguments as they stand. -/
def reservedWords : List String := [
  "False", "None", "True", "and", "as", "assert", "async", "await", "break", "class", "continue",
  "def", "del", "elif", "else", "except", "finally", "for", "from", "global", "if", "import", "in",
  "is", "lambda", "nonlocal", "not", "or", "pass", "raise", "return", "try", "while", "with",
  "yield"]

/-- The names of the arguments of a call. -/
def argumentNames (args : List (Role × Expr)) : List String :=
  args.filterMap fun e => match e.1 with | .named n => some n | _ => none

/-- Whether all names of arguments can be names as they stand. -/
def arePlain (args : List (Role × Expr)) : Bool :=
  !(argumentNames args).any reservedWords.contains

/-- A part of an expression and the number of brackets around it. Optional ones stand inside a
choice. -/
structure Part where
  optional : Bool
  brackets : Nat
  expr : Expr

mutual

/-- An expression and all of its parts, but nothing inside of those that are `closed`. -/
def Expr.parts (closed : Expr → Bool) (optional : Bool) (brackets : Nat) (e : Expr) : List Part :=
  ⟨optional, brackets, e⟩ ::
    if closed e then []
    else match e with
      | .name _ | .const _ | .absent _ => []
      | .tuple items | .list items => partsOfAll closed optional (brackets + 1) items
      | .concat items => partsOfAll closed optional (brackets + 2) items
      | .table entries => partsOfEntries closed optional (brackets + 1) entries
      | .member owner _ => owner.parts closed optional (brackets + 1)
      | .item owner key =>
        owner.parts closed optional (brackets + 1) ++ key.parts closed optional (brackets + 1)
      | .slice owner start stop step =>
        owner.parts closed optional brackets ++ start.parts closed optional (brackets + 1) ++
          stop.parts closed optional (brackets + 1) ++ step.parts closed optional (brackets + 1)
      | .call subject args | .filtered subject _ args | .tested subject _ args =>
        subject.parts closed optional (brackets + 1) ++
          partsOfArgs closed optional (brackets + if arePlain args then 1 else 2) args
      | .negation e | .unary _ e => e.parts closed optional (brackets + 1)
      | .conjunction a b | .disjunction a b | .arithmetic _ a b =>
        a.parts closed optional (brackets + 1) ++ b.parts closed optional (brackets + 1)
      | .comparison first rest =>
        first.parts closed optional (brackets + 1) ++
          partsOfChain closed optional (brackets + 1) rest
      | .choice condition yes no =>
        condition.parts closed true (brackets + 1) ++ yes.parts closed true (brackets + 1) ++
          no.parts closed true (brackets + 1)
termination_by structural e

def partsOfAll (closed : Expr → Bool) (optional : Bool) (brackets : Nat) : List Expr → List Part
  | [] => []
  | e :: rest => e.parts closed optional brackets ++ partsOfAll closed optional brackets rest
termination_by structural l => l

def partsOfEntries (closed : Expr → Bool) (optional : Bool) (brackets : Nat) :
    List (Expr × Expr) → List Part
  | [] => []
  | (k, e) :: rest =>
    k.parts closed optional brackets ++ e.parts closed optional brackets ++
      partsOfEntries closed optional brackets rest
termination_by structural l => l

def partsOfChain (closed : Expr → Bool) (optional : Bool) (brackets : Nat) :
    List (Relation × Expr) → List Part
  | [] => []
  | (_, e) :: rest =>
    e.parts closed optional brackets ++ partsOfChain closed optional brackets rest
termination_by structural l => l

def partsOfArgs (closed : Expr → Bool) (optional : Bool) (brackets : Nat) :
    List (Role × Expr) → List Part
  | [] => []
  | (_, e) :: rest =>
    e.parts closed optional brackets ++ partsOfArgs closed optional brackets rest
termination_by structural l => l

end

namespace Expr

/-- An expression and all of its parts. -/
def all (e : Expr) : List Expr :=
  (e.parts (fun _ => false) false 0).map (·.expr)

/-- The names that an expression reads. -/
def names (e : Expr) : List String :=
  e.all.filterMap fun part => match part with | .name n => some n | _ => none

def filterNames (e : Expr) : List String :=
  e.all.filterMap fun part => match part with | .filtered _ n _ => some n | _ => none

def testNames (e : Expr) : List String :=
  e.all.filterMap fun part => match part with | .tested _ n _ => some n | _ => none

end Expr

/-- What a node does at some point: it works out an expression or sets a name. -/
inductive Step where
  | reads (e : Expr)
  | sets (n : String)

mutual

/-- What a node and the nodes inside it do. -/
def Node.steps : Node → List Step
  | .text _ => []
  | .print e => [.reads e]
  | .condition test body others otherwise =>
    .reads test :: stepsOfNodes body ++ stepsOfBranches others ++ stepsOfNodes otherwise
  | .loop target source filter body otherwise =>
    target.names.map .sets ++ .reads source :: stepsOfNodes body ++ stepsOfNodes otherwise ++
      filter.toList.map .reads
termination_by structural node => node

def stepsOfNodes : List Node → List Step
  | [] => []
  | node :: rest => node.steps ++ stepsOfNodes rest
termination_by structural l => l

def stepsOfBranches : List (Expr × List Node) → List Step
  | [] => []
  | (test, body) :: rest => .reads test :: stepsOfNodes body ++ stepsOfBranches rest
termination_by structural l => l

end

namespace Step

/-- The expressions of some steps. -/
def exprs (steps : List Step) : List Expr :=
  steps.filterMap fun step => match step with | reads e => some e | sets _ => none

/-- Whether a name is set. -/
def setsName (n : String) (steps : List Step) : Bool :=
  steps.any fun step => match step with | sets m => m == n | reads _ => false

/-- Whether a name is read. -/
def readsName (n : String) (steps : List Step) : Bool :=
  (exprs steps).any fun e => e.names.contains n

/-- Whether a name is read before it is set. -/
def readsNameFirst (n : String) : List Step → Bool
  | [] => false
  | reads e :: rest => e.names.contains n || readsNameFirst n rest
  | sets m :: rest => m != n && readsNameFirst n rest

end Step

mutual

/-- The names that a node reads outside the bodies of loops. -/
def Node.outerNames : Node → List String
  | .text _ => []
  | .print e => e.names
  | .condition test body others otherwise =>
    test.names ++ outerNamesOfNodes body ++ outerNamesOfBranches others ++
      outerNamesOfNodes otherwise
  | .loop _ source _ _ _ => source.names
termination_by structural node => node

def outerNamesOfNodes : List Node → List String
  | [] => []
  | node :: rest => node.outerNames ++ outerNamesOfNodes rest
termination_by structural l => l

def outerNamesOfBranches : List (Expr × List Node) → List String
  | [] => []
  | (test, body) :: rest => test.names ++ outerNamesOfNodes body ++ outerNamesOfBranches rest
termination_by structural l => l

end

end TypeStencil.Template
