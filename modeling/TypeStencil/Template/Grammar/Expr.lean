import TypeStencil.Template.Expr
import TypeStencil.Template.Reading

/-!
Reading expressions. From the loosest to the tightest, the operators are: choices, `or`, `and`,
`not`, comparisons, sums, concatenation, products, powers, signs, and what stands behind an
expression: members, items, calls, filters and tests.
-/
namespace TypeStencil.Template.Grammar

open Reading

/-- The words that stand for values. -/
def wordValue? (n : String) : Option Value :=
  if n == "true" || n == "True" then some (.bool true)
  else if n == "false" || n == "False" then some (.bool false)
  else if n == "none" || n == "None" then some .null
  else none

def ofWord (n : String) : Expr :=
  match wordValue? n with
  | some v => .const v
  | none => .name n

def relation? : Option Token → Option Relation
  | some (.sign "==") => some .equal
  | some (.sign "!=") => some .unequal
  | some (.sign "<") => some .less
  | some (.sign "<=") => some .lessEqual
  | some (.sign ">") => some .greater
  | some (.sign ">=") => some .greaterEqual
  | some (.name "in") => some .within
  | _ => none

/-- Whether the current tokens are those of the relation of two words. -/
def isNotIn : Reading Bool := do
  if ← isAt (.name "not") then return (← upcoming) == some (.name "in") else return false

/-- The operators of sums. -/
def sumOperator? : Option Token → Option Operator
  | some (.sign "+") => some .plus
  | some (.sign "-") => some .minus
  | _ => none

/-- The operators of products. -/
def productOperator? : Option Token → Option Operator
  | some (.sign "*") => some .times
  | some (.sign "/") => some .quotient
  | some (.sign "//") => some .wholeQuotient
  | some (.sign "%") => some .remainder
  | _ => none

def powerOperator? : Option Token → Option Operator
  | some (.sign "**") => some .power
  | _ => none

/-- What ends a tuple: the end of a tag or of brackets, or the given word. -/
def isTupleEnd (word : Option String) : Option Token → Bool
  | some .closePrint | some .closeTag | some (.sign ")") => true
  | some (.name n) => word == some n
  | _ => false

/-- The first token of an argument that a test may have without brackets. -/
def opensTestArgument : Option Token → Bool
  | some (.name n) => n != "else" && n != "or" && n != "and"
  | some (.string _) | some (.int _) | some (.float _) => true
  | some (.sign s) => s == "(" || s == "[" || s == "\x7b"
  | _ => false

/-- String literals side by side make one. -/
def joinStrings (s : String) : List Lexeme → String × List Lexeme
  | ⟨_, .string t⟩ :: rest => joinStrings (s ++ t) rest
  | rest => (s, rest)

def strings : Reading Expr := do
  let (s, rest) := joinStrings "" (← get)
  check rest
  set rest
  return .const (.str s)

/-- A name with further names behind points. -/
def dottedName (fuel : Nat) (n : String) : Reading String :=
  match fuel with
  | 0 => return n
  | fuel + 1 => do
    if ← skipIf (.sign ".") then dottedName fuel (n ++ "." ++ (← expectName))
    else return n

/-- Stops a reading that has been given too few steps. -/
def outOfSteps {α : Type} : Reading α := do
  fail (.unexpected (describe (← current)))

/-- What stands between the brackets behind an expression. -/
inductive Subscript where
  | key (e : Expr)
  | range (start stop step : Expr)

namespace Subscript

/-- The item or the part that an expression has under the subscript. -/
def of (owner : Expr) : Subscript → Expr
  | key e => .item owner e
  | range start stop step => .slice owner start stop step

/-- The subscript as one of several; no value has a part under them. -/
def toKey : Subscript → Expr
  | key e => e
  | range .. => .const .null

end Subscript

/-- Which arguments have been read. -/
structure Given where
  named : Bool
  spread : Bool
  spreadNamed : Bool

mutual

/-- Expressions with commas between them make a tuple. -/
def tuple (fuel : Nat) (choices bracketed : Bool) (word : Option String) : Reading Expr :=
  match fuel with
  | 0 => outOfSteps
  | fuel + 1 => do
    if isTupleEnd word (← current) then
      if bracketed then return .tuple [] else fail (.noExpression (describe (← current)))
    else
      let first ← full fuel choices
      if ← isAt (.sign ",") then return .tuple (first :: (← tupleRest fuel choices word))
      else return first

/-- The items of a tuple behind the first one. -/
def tupleRest (fuel : Nat) (choices : Bool) (word : Option String) : Reading (List Expr) :=
  match fuel with
  | 0 => outOfSteps
  | fuel + 1 => do
    if ← skipIf (.sign ",") then
      if isTupleEnd word (← current) then return []
      else
        let e ← full fuel choices
        return e :: (← tupleRest fuel choices word)
    else return []

/-- An expression, with or without choices at its top. -/
def full (fuel : Nat) (choices : Bool) : Reading Expr :=
  match fuel with
  | 0 => outOfSteps
  | fuel + 1 => do
    let line ← line
    let e ← disjunctions fuel
    if choices then choiceRest fuel line e else return e

/-- The choices behind an expression that begins on a line. -/
def choiceRest (fuel line : Nat) (yes : Expr) : Reading Expr :=
  match fuel with
  | 0 => outOfSteps
  | fuel + 1 => do
    if ← skipIf (.name "if") then
      let condition ← disjunctions fuel
      let no ← if ← skipIf (.name "else") then full fuel true else pure (.absent line)
      choiceRest fuel (← Reading.line) (.choice condition yes no)
    else return yes

def disjunctions (fuel : Nat) : Reading Expr :=
  match fuel with
  | 0 => outOfSteps
  | fuel + 1 => do disjunctionRest fuel (← conjunctions fuel)

def disjunctionRest (fuel : Nat) (a : Expr) : Reading Expr :=
  match fuel with
  | 0 => outOfSteps
  | fuel + 1 => do
    if ← skipIf (.name "or") then disjunctionRest fuel (.disjunction a (← conjunctions fuel))
    else return a

def conjunctions (fuel : Nat) : Reading Expr :=
  match fuel with
  | 0 => outOfSteps
  | fuel + 1 => do conjunctionRest fuel (← negations fuel)

def conjunctionRest (fuel : Nat) (a : Expr) : Reading Expr :=
  match fuel with
  | 0 => outOfSteps
  | fuel + 1 => do
    if ← skipIf (.name "and") then conjunctionRest fuel (.conjunction a (← negations fuel))
    else return a

def negations (fuel : Nat) : Reading Expr :=
  match fuel with
  | 0 => outOfSteps
  | fuel + 1 => do
    if ← skipIf (.name "not") then return .negation (← negations fuel)
    else
      let first ← sums fuel
      let rest ← comparisons fuel
      return if rest.isEmpty then first else .comparison first rest

/-- The relations of a comparison, each with its right side. -/
def comparisons (fuel : Nat) : Reading (List (Relation × Expr)) :=
  match fuel with
  | 0 => outOfSteps
  | fuel + 1 => do
    match relation? (← current) with
    | some relation =>
      advance
      let e ← sums fuel
      return (relation, e) :: (← comparisons fuel)
    | none =>
      if ← isNotIn then
        advance
        advance
        let e ← sums fuel
        return (.notWithin, e) :: (← comparisons fuel)
      else return []

def sums (fuel : Nat) : Reading Expr :=
  match fuel with
  | 0 => outOfSteps
  | fuel + 1 => do sumRest fuel (← concatenation fuel)

def sumRest (fuel : Nat) (a : Expr) : Reading Expr :=
  match fuel with
  | 0 => outOfSteps
  | fuel + 1 => do
    match sumOperator? (← current) with
    | some op =>
      advance
      sumRest fuel (.arithmetic op a (← concatenation fuel))
    | none => return a

def concatenation (fuel : Nat) : Reading Expr :=
  match fuel with
  | 0 => outOfSteps
  | fuel + 1 => do
    let first ← products fuel
    let rest ← concatenationRest fuel
    return if rest.isEmpty then first else .concat (first :: rest)

def concatenationRest (fuel : Nat) : Reading (List Expr) :=
  match fuel with
  | 0 => outOfSteps
  | fuel + 1 => do
    if ← skipIf (.sign "~") then
      let e ← products fuel
      return e :: (← concatenationRest fuel)
    else return []

def products (fuel : Nat) : Reading Expr :=
  match fuel with
  | 0 => outOfSteps
  | fuel + 1 => do productRest fuel (← powers fuel)

def productRest (fuel : Nat) (a : Expr) : Reading Expr :=
  match fuel with
  | 0 => outOfSteps
  | fuel + 1 => do
    match productOperator? (← current) with
    | some op =>
      advance
      productRest fuel (.arithmetic op a (← powers fuel))
    | none => return a

def powers (fuel : Nat) : Reading Expr :=
  match fuel with
  | 0 => outOfSteps
  | fuel + 1 => do powerRest fuel (← signed fuel true)

def powerRest (fuel : Nat) (a : Expr) : Reading Expr :=
  match fuel with
  | 0 => outOfSteps
  | fuel + 1 => do
    match powerOperator? (← current) with
    | some op =>
      advance
      powerRest fuel (.arithmetic op a (← signed fuel true))
    | none => return a

/-- An expression with signs in front and what is attached to it behind; filters and tests are
attached to the whole and not to what a sign stands before. -/
def signed (fuel : Nat) (filters : Bool) : Reading Expr :=
  match fuel with
  | 0 => outOfSteps
  | fuel + 1 => do
    let e ← match ← current with
      | some (.sign "-") => negated fuel true
      | some (.sign "+") => negated fuel false
      | _ => primary fuel
    let e ← attached fuel e
    if filters then filterRest fuel e else return e

/-- An expression behind the sign that is the current token. -/
def negated (fuel : Nat) (negative : Bool) : Reading Expr :=
  match fuel with
  | 0 => outOfSteps
  | fuel + 1 => do
    advance
    return .unary negative (← signed fuel false)

/-- A name, a literal, or an expression in brackets. -/
def primary (fuel : Nat) : Reading Expr :=
  match fuel with
  | 0 => outOfSteps
  | fuel + 1 => do
    match ← current with
    | some (.name n) =>
      advance
      return ofWord n
    | some (.string _) => strings
    | some (.int n) =>
      advance
      return .const (.int n)
    | some (.float x) =>
      advance
      return .const (.float x)
    | some (.sign "(") =>
      advance
      let e ← tuple fuel true true none
      expect (.sign ")")
      return e
    | some (.sign "[") =>
      advance
      let items ← listItems fuel true
      expect (.sign "]")
      return .list items
    | some (.sign "\x7b") =>
      advance
      let entries ← tableEntries fuel true
      expect (.sign "\x7d")
      return .table entries
    | found => fail (.unexpected (describe found))

/-- The items of a list up to its closing bracket, with a comma in front of all but the first. -/
def listItems (fuel : Nat) (first : Bool) : Reading (List Expr) :=
  match fuel with
  | 0 => outOfSteps
  | fuel + 1 => do
    if ← isAt (.sign "]") then return []
    else
      if !first then expect (.sign ",")
      if ← isAt (.sign "]") then return []
      else
        let e ← full fuel true
        return e :: (← listItems fuel false)

/-- The entries of a table up to its closing bracket, with a comma in front of all but the
first. -/
def tableEntries (fuel : Nat) (first : Bool) : Reading (List (Expr × Expr)) :=
  match fuel with
  | 0 => outOfSteps
  | fuel + 1 => do
    if ← isAt (.sign "\x7d") then return []
    else
      if !first then expect (.sign ",")
      if ← isAt (.sign "\x7d") then return []
      else
        let key ← full fuel true
        expect (.sign ":")
        let value ← full fuel true
        return (key, value) :: (← tableEntries fuel false)

/-- Members, items and calls behind an expression. -/
def attached (fuel : Nat) (e : Expr) : Reading Expr :=
  match fuel with
  | 0 => outOfSteps
  | fuel + 1 => do
    match ← current with
    | some (.sign ".") =>
      advance
      let found ← current
      advance
      match found with
      | some (.name n) => attached fuel (.member e n)
      | some (.int n) => attached fuel (.item e (.const (.int n)))
      | _ => fail .memberName
    | some (.sign "[") =>
      advance
      attached fuel (← subscript fuel e)
    | some (.sign "(") => attached fuel (.call e (← arguments fuel))
    | _ => return e

/-- What stands between the brackets behind an expression. -/
def subscript (fuel : Nat) (owner : Expr) : Reading Expr :=
  match fuel with
  | 0 => outOfSteps
  | fuel + 1 => do
    let found ← subscripts fuel true
    expect (.sign "]")
    match found with
    | [only] => return only.of owner
    | many => return .item owner (.tuple (many.map Subscript.toKey))

/-- The subscripts up to the closing bracket, with a comma in front of all but the first. -/
def subscripts (fuel : Nat) (first : Bool) : Reading (List Subscript) :=
  match fuel with
  | 0 => outOfSteps
  | fuel + 1 => do
    if ← isAt (.sign "]") then return []
    else
      if !first then expect (.sign ",")
      let found ←
        if ← skipIf (.sign ":") then rangeRest fuel (.const .null)
        else do
          let start ← full fuel true
          if ← skipIf (.sign ":") then rangeRest fuel start else pure (.key start)
      return found :: (← subscripts fuel false)

/-- A range behind its first colon. -/
def rangeRest (fuel : Nat) (start : Expr) : Reading Subscript :=
  match fuel with
  | 0 => outOfSteps
  | fuel + 1 => do
    let stop ← bound fuel
    let step ← if ← skipIf (.sign ":") then bound fuel else pure (.const .null)
    return .range start stop step

/-- An end or the step of a range, which may be left out. -/
def bound (fuel : Nat) : Reading Expr :=
  match fuel with
  | 0 => outOfSteps
  | fuel + 1 => do
    match ← current with
    | some (.sign ":") | some (.sign "]") | some (.sign ",") => return .const .null
    | _ => full fuel true

/-- Filters, tests and calls behind an expression. -/
def filterRest (fuel : Nat) (e : Expr) : Reading Expr :=
  match fuel with
  | 0 => outOfSteps
  | fuel + 1 => do
    match ← current with
    | some (.sign "|") =>
      advance
      let n ← dottedName fuel (← expectName)
      let args ← if ← isAt (.sign "(") then arguments fuel else pure []
      filterRest fuel (.filtered e n args)
    | some (.name "is") => filterRest fuel (← test fuel e)
    | some (.sign "(") => filterRest fuel (.call e (← arguments fuel))
    | _ => return e

/-- A test, from its `is` on. -/
def test (fuel : Nat) (e : Expr) : Reading Expr :=
  match fuel with
  | 0 => outOfSteps
  | fuel + 1 => do
    advance
    let negated ← skipIf (.name "not")
    let n ← dottedName fuel (← expectName)
    let args ← if ← isAt (.sign "(") then arguments fuel else testArgument fuel
    let tested : Expr := .tested e n args
    return if negated then .negation tested else tested

/-- The argument of a test without brackets, if it has one. -/
def testArgument (fuel : Nat) : Reading (List (Role × Expr)) :=
  match fuel with
  | 0 => outOfSteps
  | fuel + 1 => do
    if opensTestArgument (← current) then
      if ← isAt (.name "is") then fail .chainedTests
      let e ← primary fuel
      return [(.positional, ← attached fuel e)]
    else return []

/-- The arguments between brackets. -/
def arguments (fuel : Nat) : Reading (List (Role × Expr)) :=
  match fuel with
  | 0 => outOfSteps
  | fuel + 1 => do
    expect (.sign "(")
    let args ← argumentRest fuel true ⟨false, false, false⟩
    expect (.sign ")")
    return args

/-- The arguments behind those that have been read. Positional ones come first, then named ones,
and each kind is spread once at most. -/
def argumentRest (fuel : Nat) (first : Bool) (given : Given) : Reading (List (Role × Expr)) :=
  match fuel with
  | 0 => outOfSteps
  | fuel + 1 => do
    if ← isAt (.sign ")") then return []
    else
      if !first then expect (.sign ",")
      match ← current with
      | some (.sign ")") => return []
      | some (.sign "*") =>
        if given.spread || given.spreadNamed then fail .callArguments
        advance
        let e ← full fuel true
        return (.spread, e) :: (← argumentRest fuel false { given with spread := true })
      | some (.sign "**") =>
        if given.spreadNamed then fail .callArguments
        advance
        let e ← full fuel true
        return (.spreadNamed, e) :: (← argumentRest fuel false { given with spreadNamed := true })
      | some (.name n) =>
        if (← upcoming) == some (.sign "=") then
          if given.spreadNamed then fail .callArguments
          advance
          advance
          let e ← full fuel true
          return (.named n, e) :: (← argumentRest fuel false { given with named := true })
        else positionalArgument fuel given
      | _ => positionalArgument fuel given

def positionalArgument (fuel : Nat) (given : Given) : Reading (List (Role × Expr)) :=
  match fuel with
  | 0 => outOfSteps
  | fuel + 1 => do
    if given.named || given.spread || given.spreadNamed then fail .callArguments
    let e ← full fuel true
    return (.positional, e) :: (← argumentRest fuel false given)

end

/-- The items of a loop target, which stand without operators. -/
def targetItems (steps fuel : Nat) : Reading (List Expr) :=
  match fuel with
  | 0 => outOfSteps
  | fuel + 1 => do
    if ← skipIf (.sign ",") then
      if isTupleEnd (some "in") (← current) then return []
      else
        let e ← primary steps
        return e :: (← targetItems steps fuel)
    else return []

/-- The steps that reading an expression from the tokens that are left can take. -/
def steps : Reading Nat := do
  return 20 * ((← get).length + 1)

/-- The expression of a tag, up to the given word if it is a tuple. -/
def ofTag (choices : Bool) (word : Option String) : Reading Expr := do
  tuple (← steps) choices false word

/-- An expression that is no tuple. -/
def single : Reading Expr := do
  full (← steps) true

/-- What the items of a loop are called. -/
def target : Reading Target := do
  if isTupleEnd (some "in") (← current) then fail (.noExpression (describe (← current)))
  let steps ← steps
  let first ← primary steps
  let e ← if ← isAt (.sign ",") then pure (.tuple (first :: (← targetItems steps steps)))
    else pure first
  match Target.ofExpr? e with
  | some t => return t
  | none => fail (.notAssignable e.form)

end TypeStencil.Template.Grammar
